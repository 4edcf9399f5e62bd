import SecretServer.Text.Utf16

namespace SecretServer.Text.Utf16

/-! What a string becomes when it is spelled out and written again: each surrogate that
has no other half beside it turns into U+FFFD, and nothing else changes. -/

def replacementUnit : UInt16 := 0xFFFD

/-- The first unit of what remains is a surrogate on its own. -/
def Alone (afterHigh : Bool) (unit : UInt16) (rest : Utf16) : Prop :=
  isHighSurrogate unit = true ∧ rest.head?.any isLowSurrogate = false ∨
    isLowSurrogate unit = true ∧ afterHigh = false

instance (afterHigh : Bool) (unit : UInt16) (rest : Utf16) :
    Decidable (Alone afterHigh unit rest) :=
  inferInstanceAs (Decidable (_ ∨ _))

def repairAfter (afterHigh : Bool) : Utf16 → Utf16
  | [] => []
  | unit :: rest =>
      (if Alone afterHigh unit rest then replacementUnit else unit) ::
        repairAfter (isHighSurrogate unit) rest

def repair (text : Utf16) : Utf16 := repairAfter false text

/-- The position holds a high surrogate with no low one after it, or a low surrogate
with no high one before it. -/
def Unpaired (text : Utf16) (position : Nat) : Prop :=
  text[position]?.any isHighSurrogate = true ∧
      text[position + 1]?.any isLowSurrogate = false ∨
    text[position]?.any isLowSurrogate = true ∧
      (position = 0 ∨ text[position - 1]?.any isHighSurrogate = false)

instance (text : Utf16) (position : Nat) : Decidable (Unpaired text position) :=
  inferInstanceAs (Decidable (_ ∨ _))

theorem not_low_of_high {unit : UInt16} (high : isHighSurrogate unit = true) :
    isLowSurrogate unit = false := by
  simp only [isHighSurrogate, isLowSurrogate, decide_eq_true_eq, decide_eq_false_iff_not]
    at high ⊢
  omega

theorem not_high_of_low {unit : UInt16} (low : isLowSurrogate unit = true) :
    isHighSurrogate unit = false := by
  simp only [isHighSurrogate, isLowSurrogate, decide_eq_true_eq, decide_eq_false_iff_not]
    at low ⊢
  omega

theorem toNat_charOfNat {value : Nat} (valid : value.isValidChar) :
    (Char.ofNat value).toNat = value := by
  rw [Char.ofNat, dif_pos valid]
  rfl

theorem toNat_combine {high low : UInt16} (isHigh : isHighSurrogate high = true)
    (isLow : isLowSurrogate low = true) :
    (combine high low).toNat =
      0x10000 + (high.toNat - 0xD800) * 0x400 + (low.toNat - 0xDC00) := by
  simp only [isHighSurrogate, isLowSurrogate, decide_eq_true_eq] at isHigh isLow
  apply toNat_charOfNat
  right
  omega

theorem encodeChar_combine {high low : UInt16} (isHigh : isHighSurrogate high = true)
    (isLow : isLowSurrogate low = true) :
    encodeChar (combine high low) = [high, low] := by
  have value := toNat_combine isHigh isLow
  simp only [isHighSurrogate, isLowSurrogate, decide_eq_true_eq] at isHigh isLow
  have first : 0xD800 + ((combine high low).toNat - 0x10000) / 0x400 = high.toNat := by
    omega
  have second : 0xDC00 + ((combine high low).toNat - 0x10000) % 0x400 = low.toNat := by
    omega
  unfold encodeChar
  rw [if_neg (by omega), first, second, UInt16.ofNat_toNat, UInt16.ofNat_toNat]

theorem encodeChar_ofNat {unit : UInt16} (notHigh : isHighSurrogate unit = false)
    (notLow : isLowSurrogate unit = false) :
    encodeChar (Char.ofNat unit.toNat) = [unit] := by
  simp only [isHighSurrogate, isLowSurrogate, decide_eq_false_iff_not] at notHigh notLow
  have small := unit.toNat_lt
  have value : (Char.ofNat unit.toNat).toNat = unit.toNat := by
    apply toNat_charOfNat
    unfold Nat.isValidChar
    omega
  unfold encodeChar
  rw [value, if_pos (by omega), UInt16.ofNat_toNat]

theorem encodeChar_replacement : encodeChar replacement = [replacementUnit] := by decide

/-- What stands before matters to a low surrogate only. -/
theorem repairAfter_eq {rest : Utf16} (notLow : rest.head?.any isLowSurrogate = false)
    (afterHigh : Bool) : repairAfter afterHigh rest = repairAfter false rest := by
  cases rest with
  | nil => rfl
  | cons unit rest =>
      have other : isLowSurrogate unit = false := notLow
      have same : Alone afterHigh unit rest ↔ Alone false unit rest := by
        simp [Alone, other]
      simp only [repairAfter, same]

theorem encode_scalars (text : Utf16) : encode (scalars text) = repair text := by
  unfold repair
  induction text using scalars.induct with
  | case1 => rfl
  | case2 unit surrogate =>
      have alone : Alone false unit [] := by
        rcases Bool.or_eq_true_iff.mp surrogate with high | low
        · exact .inl ⟨high, rfl⟩
        · exact .inr ⟨low, rfl⟩
      simp only [scalars, if_pos surrogate, repairAfter, if_pos alone]
      rfl
  | case3 unit plain =>
      obtain ⟨notHigh, notLow⟩ := Bool.or_eq_false_iff.mp (Bool.not_eq_true _ ▸ plain)
      have paired : ¬ Alone false unit [] := by
        simp [Alone, notHigh, notLow]
      simp only [scalars, if_neg plain, repairAfter, if_neg paired, encode_cons,
        encodeChar_ofNat notHigh notLow]
      rfl
  | case4 unit next rest pair induction =>
      obtain ⟨high, low⟩ := Bool.and_eq_true_iff.mp pair
      have unitPaired : ¬ Alone false unit (next :: rest) := by
        simp [Alone, low, not_low_of_high high]
      have nextPaired : ¬ Alone (isHighSurrogate unit) next rest := by
        simp [Alone, high, not_high_of_low low]
      simp only [scalars, if_pos pair, encode_cons, encodeChar_combine high low, induction,
        repairAfter, if_neg unitPaired, if_neg nextPaired, not_high_of_low low]
      rfl
  | case5 unit next rest notPair surrogate induction =>
      have alone : Alone false unit (next :: rest) := by
        rcases Bool.or_eq_true_iff.mp surrogate with high | low
        · left
          simpa [high] using notPair
        · exact .inr ⟨low, rfl⟩
      have follows : repairAfter (isHighSurrogate unit) (next :: rest) =
          repairAfter false (next :: rest) := by
        cases high : isHighSurrogate unit with
        | false => rfl
        | true =>
            apply repairAfter_eq
            simpa [high] using notPair
      rw [repairAfter, if_pos alone, follows, ← induction, scalars, if_neg notPair,
        if_pos surrogate, encode_cons, encodeChar_replacement]
      rfl
  | case6 unit next rest notPair plain induction =>
      obtain ⟨notHigh, notLow⟩ := Bool.or_eq_false_iff.mp (Bool.not_eq_true _ ▸ plain)
      have paired : ¬ Alone false unit (next :: rest) := by
        simp [Alone, notHigh, notLow]
      rw [repairAfter, if_neg paired, notHigh, ← induction, scalars, if_neg notPair,
        if_neg plain, encode_cons, encodeChar_ofNat notHigh notLow]
      rfl

/-- Whether a high surrogate stands before the position. -/
def highBefore (afterHigh : Bool) (text : Utf16) : Nat → Bool
  | 0 => afterHigh
  | position + 1 => text[position]?.any isHighSurrogate

theorem length_repairAfter (afterHigh : Bool) (text : Utf16) :
    (repairAfter afterHigh text).length = text.length := by
  induction text generalizing afterHigh with
  | nil => rfl
  | cons unit rest induction => exact congrArg Nat.succ (induction _)

theorem length_repair (text : Utf16) : (repair text).length = text.length :=
  length_repairAfter false text

theorem getElem?_repairAfter (afterHigh : Bool) (text : Utf16) (position : Nat) :
    (repairAfter afterHigh text)[position]? = text[position]?.map fun unit =>
      if Alone (highBefore afterHigh text position) unit (text.drop (position + 1)) then
        replacementUnit
      else unit := by
  induction text generalizing afterHigh position with
  | nil => rfl
  | cons unit rest induction =>
      cases position with
      | zero => rfl
      | succ position =>
          have before : highBefore afterHigh (unit :: rest) (position + 1) =
              highBefore (isHighSurrogate unit) rest position := by
            cases position <;> rfl
          rw [repairAfter, List.getElem?_cons_succ, List.getElem?_cons_succ, induction,
            before, List.drop_succ_cons]

theorem alone_iff_unpaired {text : Utf16} {position : Nat} {unit : UInt16}
    (found : text[position]? = some unit) :
    Alone (highBefore false text position) unit (text.drop (position + 1)) ↔
      Unpaired text position := by
  unfold Alone Unpaired
  rw [found, List.head?_drop]
  cases position with
  | zero => simp [highBefore]
  | succ position => simp [highBefore]

theorem getElem?_repair (text : Utf16) (position : Nat) :
    (repair text)[position]? = text[position]?.map fun unit =>
      if Unpaired text position then replacementUnit else unit := by
  unfold repair
  rw [getElem?_repairAfter]
  cases found : text[position]? with
  | none => rfl
  | some unit => simp only [Option.map_some, alone_iff_unpaired found]

theorem not_unpaired_of_none {text : Utf16} {position : Nat}
    (outside : text[position]? = none) : ¬ Unpaired text position := by
  unfold Unpaired
  rw [outside]
  simp

theorem not_unpaired_replacementUnit {text : Utf16} {position : Nat}
    (found : text[position]? = some replacementUnit) : ¬ Unpaired text position := by
  have notHigh : isHighSurrogate replacementUnit = false := by decide
  have notLow : isLowSurrogate replacementUnit = false := by decide
  unfold Unpaired
  rw [found]
  simp [notHigh, notLow]

theorem repair_eq_self_iff (text : Utf16) :
    repair text = text ↔ ∀ position, ¬ Unpaired text position := by
  constructor
  · intro same position unpaired
    have kept := getElem?_repair text position
    rw [same] at kept
    cases found : text[position]? with
    | none => exact not_unpaired_of_none found unpaired
    | some unit =>
        rw [found, Option.map_some, if_pos unpaired, Option.some.injEq] at kept
        rw [kept] at found
        exact not_unpaired_replacementUnit found unpaired
  · intro paired
    apply List.ext_getElem?
    intro position
    rw [getElem?_repair]
    simp only [if_neg (paired position), Option.map_id']

theorem wellFormed_repair (text : Utf16) : (repair text).WellFormed :=
  ⟨text.scalars, (encode_scalars text).symm⟩

end SecretServer.Text.Utf16
