import Mathlib.Data.Char
import Mathlib.Data.List.Basic

namespace SecretServer.Text

/-! Strings as sequences of UTF-16 code units, and the Unicode scalar values
they spell. -/

abbrev Utf16 := List UInt16

namespace Utf16

/-- U+FFFD, which stands for whatever is not well formed. -/
def replacement : Char := Char.ofNat 0xFFFD

def isHighSurrogate (unit : UInt16) : Bool :=
  decide (0xD800 ≤ unit.toNat ∧ unit.toNat < 0xDC00)

def isLowSurrogate (unit : UInt16) : Bool :=
  decide (0xDC00 ≤ unit.toNat ∧ unit.toNat < 0xE000)

def encodeChar (scalar : Char) : Utf16 :=
  if scalar.toNat < 0x10000 then
    [UInt16.ofNat scalar.toNat]
  else
    [UInt16.ofNat (0xD800 + (scalar.toNat - 0x10000) / 0x400),
      UInt16.ofNat (0xDC00 + (scalar.toNat - 0x10000) % 0x400)]

def encode (chars : List Char) : Utf16 :=
  chars.flatMap encodeChar

def ofString (text : String) : Utf16 :=
  encode text.toList

def combine (high low : UInt16) : Char :=
  Char.ofNat (0x10000 + (high.toNat - 0xD800) * 0x400 + (low.toNat - 0xDC00))

/-- The scalar values of a string, each unpaired surrogate read as U+FFFD. -/
def scalars : Utf16 → List Char
  | [] => []
  | [unit] =>
      if isHighSurrogate unit || isLowSurrogate unit then [replacement]
      else [Char.ofNat unit.toNat]
  | unit :: next :: rest =>
      if isHighSurrogate unit && isLowSurrogate next then
        combine unit next :: scalars rest
      else if isHighSurrogate unit || isLowSurrogate unit then
        replacement :: scalars (next :: rest)
      else
        Char.ofNat unit.toNat :: scalars (next :: rest)

/-- A string is well formed when it spells a sequence of scalar values. -/
def WellFormed (text : Utf16) : Prop :=
  ∃ chars, text = encode chars

@[simp] theorem encode_cons (scalar : Char) (chars : List Char) :
    encode (scalar :: chars) = encodeChar scalar ++ encode chars := rfl

theorem toNat_lt (scalar : Char) : scalar.toNat < 0x110000 := by
  rcases scalar.valid with below | ⟨_, above⟩
  · exact Nat.lt_trans below (by decide)
  · exact above

theorem toNat_not_surrogate (scalar : Char) :
    scalar.toNat < 0xD800 ∨ 0xE000 ≤ scalar.toNat := by
  rcases scalar.valid with below | ⟨above, _⟩
  · exact .inl below
  · exact .inr above

theorem toNat_ofNat {value : Nat} (small : value < 0x10000) :
    (UInt16.ofNat value).toNat = value := by
  simpa using Nat.mod_eq_of_lt small

theorem scalars_basic (scalar : Char) (rest : Utf16)
    (basic : scalar.toNat < 0x10000) :
    scalars (UInt16.ofNat scalar.toNat :: rest) = scalar :: scalars rest := by
  have plain := toNat_not_surrogate scalar
  have notHigh : isHighSurrogate (UInt16.ofNat scalar.toNat) = false := by
    simp only [isHighSurrogate, toNat_ofNat basic, decide_eq_false_iff_not]
    omega
  have notLow : isLowSurrogate (UInt16.ofNat scalar.toNat) = false := by
    simp only [isLowSurrogate, toNat_ofNat basic, decide_eq_false_iff_not]
    omega
  cases rest with
  | nil => simp [scalars, notHigh, notLow, toNat_ofNat basic, Char.ofNat_toNat]
  | cons next rest =>
      simp [scalars, notHigh, notLow, toNat_ofNat basic, Char.ofNat_toNat]

theorem scalars_supplementary (scalar : Char) (rest : Utf16)
    (supplementary : 0x10000 ≤ scalar.toNat) :
    scalars (UInt16.ofNat (0xD800 + (scalar.toNat - 0x10000) / 0x400) ::
        UInt16.ofNat (0xDC00 + (scalar.toNat - 0x10000) % 0x400) :: rest) =
      scalar :: scalars rest := by
  have bound := toNat_lt scalar
  have highBound : 0xD800 + (scalar.toNat - 0x10000) / 0x400 < 0x10000 := by
    omega
  have lowBound : 0xDC00 + (scalar.toNat - 0x10000) % 0x400 < 0x10000 := by
    omega
  have highValue := toNat_ofNat highBound
  have lowValue := toNat_ofNat lowBound
  have high : isHighSurrogate
      (UInt16.ofNat (0xD800 + (scalar.toNat - 0x10000) / 0x400)) = true := by
    simp only [isHighSurrogate, highValue, decide_eq_true_eq]
    omega
  have low : isLowSurrogate
      (UInt16.ofNat (0xDC00 + (scalar.toNat - 0x10000) % 0x400)) = true := by
    simp only [isLowSurrogate, lowValue, decide_eq_true_eq]
    omega
  have combined : combine
      (UInt16.ofNat (0xD800 + (scalar.toNat - 0x10000) / 0x400))
      (UInt16.ofNat (0xDC00 + (scalar.toNat - 0x10000) % 0x400)) = scalar := by
    rw [combine, highValue, lowValue]
    have value : 0x10000 + (0xD800 + (scalar.toNat - 0x10000) / 0x400 - 0xD800) *
        0x400 + (0xDC00 + (scalar.toNat - 0x10000) % 0x400 - 0xDC00) =
          scalar.toNat := by omega
    rw [value, Char.ofNat_toNat]
  simp only [scalars, high, low, combined, Bool.and_self, if_true]

theorem scalars_encodeChar_append (scalar : Char) (rest : Utf16) :
    scalars (encodeChar scalar ++ rest) = scalar :: scalars rest := by
  unfold encodeChar
  split
  next basic => exact scalars_basic scalar rest basic
  next supplementary =>
    exact scalars_supplementary scalar rest (Nat.le_of_not_lt supplementary)

@[simp] theorem scalars_encode (chars : List Char) :
    scalars (encode chars) = chars := by
  induction chars with
  | nil => rfl
  | cons scalar chars induction =>
      rw [encode_cons, scalars_encodeChar_append, induction]

theorem wellFormed_iff (text : Utf16) :
    WellFormed text ↔ encode (scalars text) = text := by
  constructor
  · intro spells
    obtain ⟨chars, rfl⟩ := spells
    rw [scalars_encode]
  · exact fun equal => ⟨scalars text, equal.symm⟩

instance (text : Utf16) : Decidable (WellFormed text) :=
  decidable_of_iff _ (wellFormed_iff text).symm

theorem WellFormed.encode_scalars {text : Utf16} (formed : WellFormed text) :
    encode (scalars text) = text :=
  (wellFormed_iff text).mp formed

theorem wellFormed_ofString (text : String) : WellFormed (ofString text) :=
  ⟨text.toList, rfl⟩

/-- The units that `char.IsWhiteSpace` accepts. -/
def isWhiteSpaceUnit (unit : UInt16) : Bool :=
  decide ((0x9 ≤ unit.toNat ∧ unit.toNat ≤ 0xD) ∨ unit.toNat = 0x20 ∨
    unit.toNat = 0x85 ∨ unit.toNat = 0xA0 ∨ unit.toNat = 0x1680 ∨
    (0x2000 ≤ unit.toNat ∧ unit.toNat ≤ 0x200A) ∨ unit.toNat = 0x2028 ∨
    unit.toNat = 0x2029 ∨ unit.toNat = 0x202F ∨ unit.toNat = 0x205F ∨
    unit.toNat = 0x3000)

def isNullOrEmpty : Option Utf16 → Bool
  | none => true
  | some text => text.isEmpty

def isNullOrWhiteSpace : Option Utf16 → Bool
  | none => true
  | some text => text.all isWhiteSpaceUnit

theorem isNullOrEmpty_eq_false_iff {text : Option Utf16} :
    isNullOrEmpty text = false ↔ ∃ value, text = some value ∧ value ≠ [] := by
  cases text with
  | none => simp [isNullOrEmpty]
  | some value => simp [isNullOrEmpty]

theorem isNullOrEmpty_of_isNullOrWhiteSpace_eq_false {text : Option Utf16}
    (nonblank : isNullOrWhiteSpace text = false) : isNullOrEmpty text = false := by
  cases text with
  | none => simp [isNullOrWhiteSpace] at nonblank
  | some value =>
      cases value with
      | nil => simp [isNullOrWhiteSpace] at nonblank
      | cons unit rest => rfl

end Utf16

end SecretServer.Text
