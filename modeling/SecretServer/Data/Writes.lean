import Mathlib.Data.List.Basic
import Mathlib.Logic.Function.Basic

namespace SecretServer.Data

/-! Batches of writes to a keyed store, made one after another. -/

inductive Write (κ ν : Type) where
  | insert (key : κ) (value : ν)
  | update (key : κ) (value : ν)
  | delete (key : κ)
  | skip

namespace Write

variable {κ ν : Type}

def key? : Write κ ν → Option κ
  | .insert key _ => some key
  | .update key _ => some key
  | .delete key => some key
  | .skip => none

/-- The writes touch different keys. -/
def Separate (first second : Write κ ν) : Prop :=
  ∀ key, first.key? = some key → second.key? ≠ some key

theorem Separate.symm {first second : Write κ ν} (separate : Separate first second) :
    Separate second first := by
  intro key touched other
  exact separate key other touched

theorem separate_perm {writes arranged : List (Write κ ν)} (perm : arranged.Perm writes)
    (separate : writes.Pairwise Separate) : arranged.Pairwise Separate :=
  (perm.pairwise_iff Separate.symm).mpr separate

/-- What becomes of one key in a batch. -/
inductive Fate (writes : List (Write κ ν)) (key : κ) (before : Option ν) :
    Option ν → Prop
  | inserted {value : ν} (member : .insert key value ∈ writes) (free : before = none) :
      Fate writes key before (some value)
  | updated {old value : ν} (member : .update key value ∈ writes)
      (present : before = some old) : Fate writes key before (some value)
  | deleted (member : .delete key ∈ writes) : Fate writes key before none
  | kept (untouched : ∀ write ∈ writes, write.key? ≠ some key) :
      Fate writes key before before

theorem Fate.subset {writes others : List (Write κ ν)} {key : κ} {before after : Option ν}
    (fate : Fate writes key before after) (subset : ∀ write ∈ writes, write ∈ others)
    (untouched : ∀ write ∈ others, write.key? = some key → write ∈ writes) :
    Fate others key before after := by
  cases fate with
  | inserted member free => exact .inserted (subset _ member) free
  | updated member present => exact .updated (subset _ member) present
  | deleted member => exact .deleted (subset _ member)
  | kept silent =>
      refine .kept ?_
      intro write member touched
      exact silent write (untouched write member touched) touched

theorem Fate.eq_of_untouched {writes : List (Write κ ν)} {key : κ} {before after : Option ν}
    (fate : Fate writes key before after)
    (untouched : ∀ write ∈ writes, write.key? ≠ some key) : after = before := by
  cases fate with
  | inserted member => exact absurd rfl (untouched _ member)
  | updated member => exact absurd rfl (untouched _ member)
  | deleted member => exact absurd rfl (untouched _ member)
  | kept => rfl

theorem Fate.cons {write : Write κ ν} {rest : List (Write κ ν)} {key : κ}
    {before between after : Option ν} (head : Fate [write] key before between)
    (tail : Fate rest key between after) (apart : ∀ other ∈ rest, Separate write other) :
    Fate (write :: rest) key before after := by
  have first {other : Write κ ν} (member : other ∈ [write]) : other ∈ write :: rest :=
    List.mem_singleton.mp member ▸ List.mem_cons_self
  by_cases touched : write.key? = some key
  · -- No later write touches the key again.
    have silent : ∀ other ∈ rest, other.key? ≠ some key :=
      fun other member => apart other member key touched
    rw [tail.eq_of_untouched silent]
    refine head.subset (fun _ => first) ?_
    intro other member otherTouched
    rcases List.mem_cons.mp member with rfl | later
    · exact List.mem_cons_self
    · exact absurd otherTouched (silent other later)
  · have same : between = before := by
      refine head.eq_of_untouched ?_
      intro other member
      rwa [List.mem_singleton.mp member]
    subst same
    refine tail.subset (fun _ => List.mem_cons_of_mem _) ?_
    intro other member otherTouched
    rcases List.mem_cons.mp member with rfl | later
    · exact absurd otherTouched touched
    · exact later

variable [DecidableEq κ]

inductive Applies : Write κ ν → (κ → Option ν) → (κ → Option ν) → Prop
  | insert {store : κ → Option ν} {key : κ} {value : ν} (free : store key = none) :
      Applies (.insert key value) store (Function.update store key (some value))
  | update {store : κ → Option ν} {key : κ} {old value : ν}
      (present : store key = some old) :
      Applies (.update key value) store (Function.update store key (some value))
  | delete {store : κ → Option ν} {key : κ} :
      Applies (.delete key) store (Function.update store key none)
  | skip {store : κ → Option ν} : Applies .skip store store

inductive AppliesAll : List (Write κ ν) → (κ → Option ν) → (κ → Option ν) → Prop
  | nil {store : κ → Option ν} : AppliesAll [] store store
  | cons {write : Write κ ν} {rest : List (Write κ ν)} {store next last : κ → Option ν}
      (applies : Applies write store next) (appliesAll : AppliesAll rest next last) :
      AppliesAll (write :: rest) store last

theorem Applies.eq_of_ne {write : Write κ ν} {store next : κ → Option ν} {key : κ}
    (applies : Applies write store next) (other : write.key? ≠ some key) :
    next key = store key := by
  cases applies with
  | skip => rfl
  | insert =>
      refine Function.update_of_ne ?_ _ _
      intro same
      exact other (congrArg some same.symm)
  | update =>
      refine Function.update_of_ne ?_ _ _
      intro same
      exact other (congrArg some same.symm)
  | delete =>
      refine Function.update_of_ne ?_ _ _
      intro same
      exact other (congrArg some same.symm)

theorem Applies.fate {write : Write κ ν} {store next : κ → Option ν}
    (applies : Applies write store next) (key : κ) :
    Fate [write] key (store key) (next key) := by
  by_cases touched : write.key? = some key
  · cases applies with
    | insert free =>
        cases touched
        rw [Function.update_self]
        exact .inserted List.mem_cons_self free
    | update present =>
        cases touched
        rw [Function.update_self]
        exact .updated List.mem_cons_self present
    | delete =>
        cases touched
        rw [Function.update_self]
        exact .deleted List.mem_cons_self
    | skip => cases touched
  · rw [applies.eq_of_ne touched]
    refine .kept ?_
    intro other member
    rwa [List.mem_singleton.mp member]

theorem AppliesAll.fate {writes : List (Write κ ν)} {store last : κ → Option ν}
    (appliesAll : AppliesAll writes store last) (separate : writes.Pairwise Separate)
    (key : κ) : Fate writes key (store key) (last key) := by
  induction appliesAll with
  | nil =>
      refine .kept ?_
      intro write member
      cases member
  | @cons write rest store next last applies _ induction =>
      obtain ⟨apart, separate⟩ := List.pairwise_cons.mp separate
      exact (applies.fate key).cons (induction separate) apart

end Write

end SecretServer.Data
