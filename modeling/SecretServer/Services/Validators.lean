import SecretServer.Core.Basic

namespace SecretServer.Services

open Text

structure CreateSecretRequest where
  executor : Option Executor := none
  secret : Option Utf16
  ttl : Option Utf16
  passphrase : Option Utf16
  deriving DecidableEq

structure RevealSecretRequest where
  guid : Guid
  passphrase : Option Utf16
  deriving DecidableEq

structure BaseAuthenticatedRequest where
  executor : Executor
  deriving DecidableEq

namespace FluentValidation

/-! Every check of a rule is made; each one that fails leaves a failure behind. -/

def check (holds : Bool) (propertyName errorMessage : String) :
    List ValidationFailure :=
  if holds then [] else [⟨propertyName, errorMessage⟩]

def notEmpty (propertyName : String) (value : Option Utf16) :
    List ValidationFailure :=
  check (!Utf16.isNullOrWhiteSpace value) propertyName
    s!"'{propertyName}' must not be empty."

/-- `MinimumLength`, which leaves `null` to other checks. -/
def minimumLength (propertyName : String) (minLength : Nat)
    (value : Option Utf16) : List ValidationFailure :=
  match value with
  | none => []
  | some text =>
      let totalLength := text.length
      check (minLength ≤ totalLength) propertyName
        (s!"The length of '{propertyName}' must be at least {minLength} characters. " ++
          s!"You entered {totalLength} characters.")

def validateAndThrow (errors : List ValidationFailure) : Except Exception Unit :=
  if errors.isEmpty then .ok () else .error (.validation errors)

@[simp] theorem check_eq_nil_iff {holds : Bool} {propertyName errorMessage : String} :
    check holds propertyName errorMessage = [] ↔ holds = true := by
  cases holds <;> simp [check]

theorem minimumLength_eq_nil_iff {propertyName : String} {minLength : Nat}
    {value : Option Utf16} :
    minimumLength propertyName minLength value = [] ↔
      ∀ text ∈ value, minLength ≤ text.length := by
  cases value with
  | none => simp [minimumLength]
  | some text => simp [minimumLength]

theorem mem_check_propertyName {holds : Bool} {propertyName errorMessage : String}
    {failure : ValidationFailure}
    (member : failure ∈ check holds propertyName errorMessage) :
    failure.propertyName = propertyName := by
  cases holds with
  | true => simp [check] at member
  | false =>
      obtain rfl : failure = ⟨propertyName, errorMessage⟩ := by
        simpa [check] using member
      rfl

end FluentValidation

open FluentValidation

namespace CreateSecretRequestValidator

def invalidTimeToLiveValue : String :=
  "The 'Ttl' field was not recognized as a valid TimeToLive value."

def isTimeToLive (ttl : Option Utf16) : Bool :=
  (TimeToLive.values.map fun x => some x.getStringValue).contains ttl

def validate (request : CreateSecretRequest) : List ValidationFailure :=
  notEmpty "Passphrase" request.passphrase ++
    minimumLength "Passphrase" 3 request.passphrase ++
    check (isTimeToLive request.ttl) "Ttl" invalidTimeToLiveValue

end CreateSecretRequestValidator

namespace RevealSecretRequestValidator

def validate (request : RevealSecretRequest) : List ValidationFailure :=
  notEmpty "Passphrase" request.passphrase ++
    minimumLength "Passphrase" 3 request.passphrase

end RevealSecretRequestValidator

/-- What both validators ask of a passphrase. -/
structure AcceptablePassphrase (passphrase : Option Utf16) : Prop where
  nonblank : Utf16.isNullOrWhiteSpace passphrase = false
  long : ∀ text ∈ passphrase, 3 ≤ text.length

theorem acceptablePassphrase_iff {passphrase : Option Utf16} :
    AcceptablePassphrase passphrase ↔
      notEmpty "Passphrase" passphrase ++
        minimumLength "Passphrase" 3 passphrase = [] := by
  rw [List.append_eq_nil_iff, notEmpty, check_eq_nil_iff, minimumLength_eq_nil_iff]
  constructor
  · intro accepted
    obtain ⟨nonblank, long⟩ := accepted
    exact ⟨by rw [nonblank]; rfl, long⟩
  · intro accepted
    obtain ⟨nonblank, long⟩ := accepted
    exact ⟨by simpa using nonblank, long⟩

instance (passphrase : Option Utf16) : Decidable (AcceptablePassphrase passphrase) :=
  decidable_of_iff _ acceptablePassphrase_iff.symm

namespace AcceptablePassphrase

variable {passphrase : Option Utf16}

theorem exists_text (acceptable : AcceptablePassphrase passphrase) :
    ∃ text, passphrase = some text ∧ text ≠ [] :=
  Utf16.isNullOrEmpty_eq_false_iff.mp
    (Utf16.isNullOrEmpty_of_isNullOrWhiteSpace_eq_false acceptable.nonblank)

end AcceptablePassphrase

theorem RevealSecretRequestValidator.validate_eq_nil_iff
    {request : RevealSecretRequest} :
    RevealSecretRequestValidator.validate request = [] ↔
      AcceptablePassphrase request.passphrase :=
  acceptablePassphrase_iff.symm

theorem CreateSecretRequestValidator.isTimeToLive_iff {ttl : Option Utf16} :
    isTimeToLive ttl = true ↔
      ∃ lifetime : TimeToLive, ttl = some lifetime.getStringValue := by
  rw [isTimeToLive, List.contains_iff_mem, List.mem_map]
  constructor
  · intro labelled
    obtain ⟨lifetime, _, equal⟩ := labelled
    exact ⟨lifetime, equal.symm⟩
  · intro labelled
    obtain ⟨lifetime, rfl⟩ := labelled
    exact ⟨lifetime, by cases lifetime <;> decide, rfl⟩

/-- The two validators agree on passphrases; creating also asks for a lifetime. -/
theorem CreateSecretRequestValidator.validate_eq_nil_iff
    {request : CreateSecretRequest} :
    CreateSecretRequestValidator.validate request = [] ↔
      AcceptablePassphrase request.passphrase ∧
        ∃ lifetime : TimeToLive, request.ttl = some lifetime.getStringValue := by
  rw [CreateSecretRequestValidator.validate, List.append_eq_nil_iff,
    ← acceptablePassphrase_iff, check_eq_nil_iff, isTimeToLive_iff]

theorem CreateSecretRequestValidator.mem_validate_propertyName
    {request : CreateSecretRequest} {failure : ValidationFailure}
    (member : failure ∈ CreateSecretRequestValidator.validate request) :
    failure.propertyName = "Passphrase" ∨ failure.propertyName = "Ttl" := by
  rw [CreateSecretRequestValidator.validate, List.mem_append, List.mem_append]
    at member
  rcases member with (empty | short) | unknown
  · exact .inl (mem_check_propertyName empty)
  · cases passphrase : request.passphrase with
    | none => simp [passphrase, minimumLength] at short
    | some text =>
        rw [passphrase] at short
        exact .inl (mem_check_propertyName short)
  · exact .inr (mem_check_propertyName unknown)

end SecretServer.Services
