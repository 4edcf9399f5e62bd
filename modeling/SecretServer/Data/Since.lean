import Mathlib.Data.List.Induction

namespace SecretServer.Data

/-! What an event of a log has begun and no later event has ended. -/

variable {α : Type} {begins ends : α → Prop} {log : List α} {event : α}

def Since (begins ends : α → Prop) (log : List α) : Prop :=
  ∃ earlier event later, log = earlier ++ event :: later ∧ begins event ∧
    ∀ other ∈ later, ¬ ends other

theorem Since.begun (begun : begins event) : Since begins ends (log ++ [event]) :=
  ⟨log, event, [], rfl, begun, by simp⟩

theorem Since.continued (since : Since begins ends log) (lasts : ¬ ends event) :
    Since begins ends (log ++ [event]) := by
  obtain ⟨earlier, first, later, rfl, begun, kept⟩ := since
  refine ⟨earlier, first, later ++ [event], by simp, begun, ?_⟩
  intro other member
  rcases List.mem_append.mp member with old | new
  · exact kept other old
  · rw [List.mem_singleton.mp new]
    exact lasts

theorem since_concat_iff :
    Since begins ends (log ++ [event]) ↔
      begins event ∨ (Since begins ends log ∧ ¬ ends event) := by
  constructor
  · intro ⟨earlier, first, later, split, begun, kept⟩
    induction later using List.reverseRecOn with
    | nil =>
        obtain ⟨-, same⟩ := List.append_inj' split rfl
        exact .inl (List.singleton_inj.mp same ▸ begun)
    | append_singleton later last _ =>
        rw [← List.cons_append, ← List.append_assoc] at split
        obtain ⟨rfl, same⟩ := List.append_inj' split rfl
        obtain rfl := List.singleton_inj.mp same
        refine .inr ⟨⟨earlier, first, later, rfl, begun, ?_⟩, kept event (by simp)⟩
        intro other member
        exact kept other (List.mem_append_left _ member)
  · intro either
    rcases either with begun | ⟨since, lasts⟩
    · exact .begun begun
    · exact since.continued lasts

end SecretServer.Data
