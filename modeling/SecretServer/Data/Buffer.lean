import Mathlib.Data.List.Basic

namespace SecretServer.Data

namespace Buffer

/-! Arrays of a fixed length that are filled by copying ranges into them. -/

variable {α : Type}

/-- `new T[length]`; there is none of negative length. -/
def allocate (zero : α) (length : Int) : Option (List α) :=
  if 0 ≤ length then some (List.replicate length.toNat zero) else none

/-- `Buffer.BlockCopy`, refused when a range leaves its array. -/
def blockCopy (source : List α) (sourceOffset : Nat) (target : List α)
    (targetOffset count : Nat) : Option (List α) :=
  if sourceOffset + count ≤ source.length ∧ targetOffset + count ≤ target.length then
    some (target.take targetOffset ++ (source.drop sourceOffset).take count ++
      target.drop (targetOffset + count))
  else
    none

@[simp] theorem allocate_ofNat (zero : α) (length : Nat) :
    allocate zero (length : Int) = some (List.replicate length zero) := by
  simp [allocate]

theorem blockCopy_next (zero : α) (written part : List α) {offset count : Nat}
    (free : Nat) (atEnd : offset = written.length) (whole : count = part.length)
    (room : part.length ≤ free) :
    blockCopy part 0 (written ++ List.replicate free zero) offset count =
      some (written ++ part ++ List.replicate (free - part.length) zero) := by
  subst atEnd
  subst whole
  unfold blockCopy
  rw [if_pos]
  · rw [List.take_left, List.drop_zero, List.take_length, List.drop_append]
    simp [List.drop_eq_nil_of_le]
  · refine ⟨by simp, ?_⟩
    simpa using room

theorem blockCopy_part (zero : α) (before part after : List α)
    {offset count : Nat} (atPart : offset = before.length)
    (whole : count = part.length) :
    blockCopy (before ++ part ++ after) offset (List.replicate part.length zero) 0
      count = some part := by
  subst atPart
  subst whole
  unfold blockCopy
  rw [if_pos]
  · rw [List.append_assoc before, List.drop_left, List.take_left]
    simp
  · simp

end Buffer

end SecretServer.Data
