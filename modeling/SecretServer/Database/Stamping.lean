import Mathlib.Data.List.Forall2
import SecretServer.Database.Context

namespace SecretServer.Database

variable {ω : Type}

namespace Entity

@[simp] theorem isTimestamped_setCreatedAt (entity : Entity ω) (time : DateTime) :
    (entity.setCreatedAt time).isTimestamped = entity.isTimestamped := by
  cases entity <;> rfl

end Entity

namespace AppDbContext

/-! What stamping the tracked entries makes of each of them. -/

section Loop

variable {selected : EntityEntry ω → Bool} {assign : DateTime → Entity ω → Entity ω}
  {utcNow : Nat → DateTime}

/-- What a loop makes of one entry when the readings from `start` up to `finish`
are those that it takes. -/
inductive Visited (selected : EntityEntry ω → Bool)
    (assign : DateTime → Entity ω → Entity ω) (utcNow : Nat → DateTime)
    (start finish : Nat) : EntityEntry ω → EntityEntry ω → Prop
  | stamped {entry : EntityEntry ω} {reading : Nat} (chosen : selected entry = true)
      (since : start ≤ reading) (within : reading < finish) :
      Visited selected assign utcNow start finish entry
        ⟨assign (utcNow reading) entry.entity, entry.state⟩
  | passed {entry : EntityEntry ω} (skipped : selected entry = false) :
      Visited selected assign utcNow start finish entry entry

theorem Visited.widen {start finish earlier later : Nat} {before after : EntityEntry ω}
    (visited : Visited selected assign utcNow start finish before after)
    (begins : earlier ≤ start) (ends : finish ≤ later) :
    Visited selected assign utcNow earlier later before after := by
  cases visited with
  | stamped chosen since within =>
      exact .stamped chosen (Nat.le_trans begins since) (Nat.lt_of_lt_of_le within ends)
  | passed skipped => exact .passed skipped

theorem stampEach_readings (readings : Nat) (entries : List (EntityEntry ω)) :
    (stampEach selected assign utcNow readings entries).2 =
      readings + entries.countP selected := by
  induction entries generalizing readings with
  | nil => rfl
  | cons entry rest induction =>
      rw [stampEach]
      split
      next chosen =>
        rw [List.countP_cons_of_pos chosen]
        exact (induction _).trans (by omega)
      next skipped =>
        rw [List.countP_cons_of_neg skipped]
        exact induction _

theorem stampEach_visits (readings : Nat) (entries : List (EntityEntry ω)) :
    List.Forall₂ (Visited selected assign utcNow readings
      (readings + entries.countP selected)) entries
      (stampEach selected assign utcNow readings entries).1 := by
  induction entries generalizing readings with
  | nil => exact .nil
  | cons entry rest induction =>
      rw [stampEach]
      split
      next chosen =>
        rw [List.countP_cons_of_pos chosen]
        refine .cons (.stamped chosen le_rfl (by omega)) ((induction _).imp ?_)
        intro before after visited
        exact visited.widen (by omega) (by omega)
      next skipped =>
        rw [List.countP_cons_of_neg skipped]
        exact .cons (.passed (Bool.eq_false_iff.mpr skipped)) (induction _)

end Loop

/-- How many times the clock is read while the entries are stamped. -/
def auditReadings (entries : List (EntityEntry ω)) : Nat :=
  entries.countP isCreated + entries.countP isModified

/-- What `SetTimeAuditedColumns` makes of one entry, by the first `readings`
readings of the clock. -/
inductive Stamped (utcNow : Nat → DateTime) (readings : Nat) :
    EntityEntry ω → EntityEntry ω → Prop
  | added {entity : Entity ω} {first second : Nat} (timestamped : entity.isTimestamped)
      (ordered : first < second) (taken : second < readings) :
      Stamped utcNow readings ⟨entity, .added⟩
        ⟨(entity.setCreatedAt (utcNow first)).setUpdatedAt (utcNow second), .added⟩
  | modified {entity : Entity ω} {reading : Nat} (timestamped : entity.isTimestamped)
      (taken : reading < readings) :
      Stamped utcNow readings ⟨entity, .modified⟩
        ⟨entity.setUpdatedAt (utcNow reading), .modified⟩
  | untouched {entry : EntityEntry ω}
      (other : entry.entity.isTimestamped →
        entry.state ≠ .added ∧ entry.state ≠ .modified) :
      Stamped utcNow readings entry entry

theorem isCreated_iff {entry : EntityEntry ω} :
    isCreated entry = true ↔ entry.entity.isTimestamped ∧ entry.state = .added := by
  simp [isCreated]

theorem isModified_iff {entry : EntityEntry ω} :
    isModified entry = true ↔ entry.entity.isTimestamped ∧
      (entry.state = .added ∨ entry.state = .modified) := by
  simp [isModified]

variable {utcNow : Nat → DateTime}

theorem Visited.isModified_eq {start finish : Nat} {before after : EntityEntry ω}
    (visited : Visited isCreated Entity.setCreatedAt utcNow start finish before after) :
    isModified before = isModified after := by
  cases visited with
  | stamped => simp only [isModified, Entity.isTimestamped_setCreatedAt]
  | passed => rfl

theorem countP_eq_of_visits {start finish : Nat} {before after : List (EntityEntry ω)}
    (visits : List.Forall₂ (Visited isCreated Entity.setCreatedAt utcNow start finish)
      before after) : before.countP isModified = after.countP isModified := by
  induction visits with
  | nil => rfl
  | cons visited _ induction =>
      rw [List.countP_cons, List.countP_cons, induction, visited.isModified_eq]

theorem Stamped.of_visited {split readings : Nat} {before between after : EntityEntry ω}
    (created : Visited isCreated Entity.setCreatedAt utcNow 0 split before between)
    (modified : Visited isModified Entity.setUpdatedAt utcNow split readings
      between after) : Stamped utcNow readings before after := by
  cases created with
  | @stamped first chosen _ inFirst =>
      obtain ⟨entity, state⟩ := before
      obtain ⟨timestamped, rfl⟩ := isCreated_iff.mp chosen
      cases modified with
      | stamped _ inSecond taken =>
          exact .added timestamped (Nat.lt_of_lt_of_le inFirst inSecond) taken
      | passed skipped =>
          -- The second loop selects whatever the first one has stamped.
          have selected : AppDbContext.isModified
              (⟨entity.setCreatedAt (utcNow first), .added⟩ : EntityEntry ω) = true :=
            isModified_iff.mpr ⟨by rwa [Entity.isTimestamped_setCreatedAt], .inl rfl⟩
          rw [selected] at skipped
          cases skipped
  | passed notCreated =>
      obtain ⟨entity, state⟩ := before
      cases modified with
      | stamped chosen _ taken =>
          obtain ⟨timestamped, rfl | rfl⟩ := isModified_iff.mp chosen
          · rw [isCreated_iff.mpr ⟨timestamped, rfl⟩] at notCreated
            cases notCreated
          · exact .modified timestamped taken
      | passed notModified =>
          refine .untouched ?_
          intro timestamped
          constructor
          · intro added
            rw [isCreated_iff.mpr ⟨timestamped, added⟩] at notCreated
            cases notCreated
          · intro changed
            rw [isModified_iff.mpr ⟨timestamped, .inr changed⟩] at notModified
            cases notModified

theorem stamped_of_visits {split readings : Nat} {before between after : List (EntityEntry ω)}
    (created : List.Forall₂ (Visited isCreated Entity.setCreatedAt utcNow 0 split)
      before between)
    (modified : List.Forall₂ (Visited isModified Entity.setUpdatedAt utcNow split readings)
      between after) : List.Forall₂ (Stamped utcNow readings) before after := by
  induction created generalizing after with
  | nil =>
      cases modified
      exact .nil
  | cons first _ induction =>
      cases modified with
      | cons second rest => exact .cons (.of_visited first second) (induction rest)

theorem setTimeAuditedColumns_stamps (utcNow : Nat → DateTime)
    (entries : List (EntityEntry ω)) :
    List.Forall₂ (Stamped utcNow (auditReadings entries)) entries
      (setTimeAuditedColumns utcNow entries) := by
  have created : List.Forall₂
      (Visited isCreated Entity.setCreatedAt utcNow 0 (entries.countP isCreated)) entries
      (stampEach isCreated Entity.setCreatedAt utcNow 0 entries).1 := by
    simpa only [Nat.zero_add] using stampEach_visits 0 entries
  have sameCount : entries.countP isModified =
      (stampEach isCreated Entity.setCreatedAt utcNow 0 entries).1.countP isModified :=
    countP_eq_of_visits created
  unfold setTimeAuditedColumns
  simp only
  rw [stampEach_readings, Nat.zero_add, auditReadings, sameCount]
  exact stamped_of_visits created (stampEach_visits _ _)

theorem exists_stamped_of_mem {entries : List (EntityEntry ω)} {after : EntityEntry ω}
    (member : after ∈ setTimeAuditedColumns utcNow entries) :
    ∃ before ∈ entries, Stamped utcNow (auditReadings entries) before after := by
  have stamps := setTimeAuditedColumns_stamps utcNow entries
  obtain ⟨index, rfl⟩ := List.get_of_mem member
  have inRange : index.val < entries.length :=
    Nat.lt_of_lt_of_eq index.isLt stamps.length_eq.symm
  exact ⟨_, List.get_mem entries ⟨index, inRange⟩, stamps.get inRange index.isLt⟩

theorem exists_of_mem_stamped {entries : List (EntityEntry ω)} {before : EntityEntry ω}
    (member : before ∈ entries) :
    ∃ after ∈ setTimeAuditedColumns utcNow entries,
      Stamped utcNow (auditReadings entries) before after := by
  have stamps := setTimeAuditedColumns_stamps utcNow entries
  obtain ⟨index, rfl⟩ := List.get_of_mem member
  have inRange : index.val < (setTimeAuditedColumns utcNow entries).length :=
    Nat.lt_of_lt_of_eq index.isLt stamps.length_eq
  exact ⟨_, List.get_mem _ ⟨index, inRange⟩, stamps.get index.isLt inRange⟩

end AppDbContext

end SecretServer.Database
