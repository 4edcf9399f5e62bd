import Mathlib.Data.List.Pairwise
import SecretServer.Database.ChangeTracker

namespace SecretServer.Database

open Data AppDbContext

variable {ω : Type} {entries : List (EntityEntry ω)} {entry command : EntityEntry ω}
  {key : RowKey}

/-! The commands of a save, and the entries that they come from. -/

theorem EntityEntry.sharesRow_iff {state : EntityState} :
    entry.sharesRow entries state = true ↔ ∃ key, entry.key? = some key ∧
      ∃ other ∈ entries, other.state = state ∧ other.key? = some key := by
  unfold sharesRow
  cases named : entry.key? with
  | none => simp
  | some key => simp

/-- What a save sends for an entry. -/
inductive Sends (entries : List (EntityEntry ω)) (entry : EntityEntry ω) :
    EntityEntry ω → Prop
  | added (state : entry.state = .added) : Sends entries entry entry
  | replaced (state : entry.state = .added)
      (replaces : entry.sharesRow entries .deleted = true) :
      Sends entries entry { entry with state := .modified }
  | modified (state : entry.state = .modified) : Sends entries entry entry
  | deleted (state : entry.state = .deleted)
      (final : entry.sharesRow entries .added = false) : Sends entries entry entry

theorem sends_of_command? (sends : entry.command? entries = some command) :
    Sends entries entry command := by
  unfold EntityEntry.command? at sends
  split at sends
  next state =>
    split at sends
    next replaces =>
      cases sends
      exact .replaced state replaces
    next =>
      cases sends
      exact .added state
  next state =>
    cases sends
    exact .modified state
  next state =>
    split at sends
    next => cases sends
    next final =>
      cases sends
      exact .deleted state (Bool.eq_false_iff.mpr final)
  next => cases sends
  next => cases sends

theorem exists_sends_of_mem (member : command ∈ modificationCommands entries) :
    ∃ entry ∈ entries, Sends entries entry command := by
  obtain ⟨entry, entryMember, sends⟩ := List.mem_filterMap.mp member
  exact ⟨entry, entryMember, sends_of_command? sends⟩

namespace Sends

theorem entity_eq (sends : Sends entries entry command) : command.entity = entry.entity := by
  cases sends <;> rfl

theorem key?_eq (sends : Sends entries entry command) : command.key? = entry.key? :=
  congrArg Entity.key? sends.entity_eq

theorem state_ne_deleted (sends : Sends entries entry command)
    (stays : command.state ≠ .deleted) : entry.state ≠ .deleted := by
  cases sends with
  | added state => simp [state]
  | replaced state => simp [state]
  | modified state => simp [state]
  | deleted state => exact absurd state stays

/-- The row of a deleted entity is not deleted where an added one takes its place. -/
theorem state_ne_deleted_of_added (sends : Sends entries entry command)
    {other : EntityEntry ω} (member : other ∈ entries) (added : other.state = .added)
    (named : other.key? = some key) (sameKey : entry.key? = some key) :
    entry.state ≠ .deleted := by
  cases sends with
  | added state => simp [state]
  | replaced state => simp [state]
  | modified state => simp [state]
  | deleted state final =>
      have shared := EntityEntry.sharesRow_iff.mpr ⟨key, sameKey, other, member, added, named⟩
      rw [final] at shared
      cases shared

end Sends

def EntityState.IsChange (state : EntityState) : Prop :=
  state = .added ∨ state = .modified ∨ state = .deleted

theorem EntityEntry.key?_write (changed : command.state.IsChange)
    (named : command.key? = some key) : command.write.key? = some key := by
  obtain ⟨⟨sameKey, times⟩, row, rfl⟩ :=
    Option.map_eq_some_iff.mp ((Entity.key?_eq _).symm.trans named)
  rcases changed with state | state | state
  · rw [write_eq_insert_iff.mpr ⟨state, row⟩]
    rfl
  · rw [write_eq_update_iff.mpr ⟨state, row⟩]
    rfl
  · rw [write_eq_delete_iff.mpr ⟨state, named⟩]
    rfl

theorem mem_modificationCommands (member : entry ∈ entries)
    (sends : entry.command? entries = some command) :
    command ∈ modificationCommands entries :=
  List.mem_filterMap.mpr ⟨entry, member, sends⟩

theorem exists_command_of_added (member : entry ∈ entries) (state : entry.state = .added)
    (named : entry.key? = some key) :
    ∃ command ∈ modificationCommands entries, command.write.key? = some key := by
  cases replaces : entry.sharesRow entries .deleted with
  | true =>
      refine ⟨{ entry with state := .modified }, mem_modificationCommands member ?_, ?_⟩
      · simp [EntityEntry.command?, state, replaces]
      · exact EntityEntry.key?_write (.inr (.inl rfl)) named
  | false =>
      refine ⟨entry, mem_modificationCommands member ?_, ?_⟩
      · simp [EntityEntry.command?, state, replaces]
      · exact EntityEntry.key?_write (.inl state) named

/-- The row of every changed entity is written, by the command of its entry or by that of
the one that takes its place. -/
theorem exists_command_of_changed (member : entry ∈ entries)
    (changed : entry.state.IsChange) (named : entry.key? = some key) :
    ∃ command ∈ modificationCommands entries, command.write.key? = some key := by
  rcases changed with state | state | state
  · exact exists_command_of_added member state named
  · refine ⟨entry, mem_modificationCommands member ?_, ?_⟩
    · simp [EntityEntry.command?, state]
    · exact EntityEntry.key?_write (.inr (.inl state)) named
  · cases replaced : entry.sharesRow entries .added with
    | true =>
        obtain ⟨other, same, twin, twinMember, added, twinNamed⟩ :=
          EntityEntry.sharesRow_iff.mp replaced
        obtain rfl := Option.some.inj (named.symm.trans same)
        exact exists_command_of_added twinMember added twinNamed
    | false =>
        refine ⟨entry, mem_modificationCommands member ?_, ?_⟩
        · simp [EntityEntry.command?, state, replaced]
        · exact EntityEntry.key?_write (.inr (.inr state)) named

namespace ChangeTracker

variable {tracker : ChangeTracker ω} {first second : EntityEntry ω}

theorem apart_of_mem (member : first ∈ tracker.entries) (otherMember : second ∈ tracker.entries)
    (differ : first ≠ second) : EntityEntry.Apart first.label second.label := by
  have : Std.Symm fun first second : EntityEntry ω =>
      EntityEntry.Apart first.label second.label := by
    constructor
    intro first second apart key secondKey firstKey
    exact (apart key firstKey secondKey).symm.imp And.symm And.symm
  exact (List.pairwise_map.mp tracker.apart).forall member otherMember differ

theorem eq_of_key (member : first ∈ tracker.entries) (otherMember : second ∈ tracker.entries)
    (named : first.key? = some key) (otherNamed : second.key? = some key)
    (stays : first.state ≠ .deleted) (otherStays : second.state ≠ .deleted) :
    first = second := by
  by_contra differ
  rcases apart_of_mem member otherMember differ key named otherNamed with
    ⟨deleted, -⟩ | ⟨-, deleted⟩
  · exact stays deleted
  · exact otherStays deleted

/-- The entry that is modified is the only one of its key. -/
theorem state_ne_deleted_of_modified (member : first ∈ tracker.entries)
    (otherMember : second ∈ tracker.entries) (modified : first.state = .modified)
    (named : first.key? = some key) (otherNamed : second.key? = some key) :
    second.state ≠ .deleted := by
  intro deleted
  have differ : first ≠ second := by
    intro same
    rw [same, deleted] at modified
    cases modified
  rcases apart_of_mem member otherMember differ key named otherNamed with
    ⟨firstDeleted, -⟩ | ⟨added, -⟩
  · cases modified.symm.trans firstDeleted
  · cases modified.symm.trans added

theorem separate_of_apart {command other : EntityEntry ω} (member : first ∈ tracker.entries)
    (otherMember : second ∈ tracker.entries)
    (apart : EntityEntry.Apart first.label second.label)
    (sends : Sends tracker.entries first command)
    (otherSends : Sends tracker.entries second other) :
    Write.Separate command.write other.write := by
  intro key touched otherTouched
  have named : first.key? = some key :=
    sends.key?_eq.symm.trans (EntityEntry.key?_of_key?_write touched)
  have otherNamed : second.key? = some key :=
    otherSends.key?_eq.symm.trans (EntityEntry.key?_of_key?_write otherTouched)
  rcases apart key named otherNamed with ⟨deleted, added⟩ | ⟨added, deleted⟩
  · exact sends.state_ne_deleted_of_added otherMember added otherNamed named deleted
  · exact otherSends.state_ne_deleted_of_added member added named otherNamed deleted

/-- No two commands write the same row, so their order is of no account to the rows. -/
theorem separate (tracker : ChangeTracker ω) :
    ((modificationCommands tracker.entries).map EntityEntry.write).Pairwise
      Write.Separate := by
  unfold modificationCommands
  rw [List.pairwise_map, List.pairwise_filterMap]
  refine (List.pairwise_map.mp tracker.apart).imp_of_mem ?_
  intro first second member otherMember apart command sends other otherSends
  exact separate_of_apart member otherMember apart (sends_of_command? sends)
    (sends_of_command? otherSends)

theorem fate (tracker : ChangeTracker ω) {order : CommandOrder ω} {db next : Db}
    (saved : saveAll order tracker.entries db = .ok next) (key : RowKey) :
    Write.Fate ((modificationCommands tracker.entries).map EntityEntry.write) key
      (db.auditTimes key) (next.auditTimes key) :=
  saveAll_fate saved tracker.separate key

end ChangeTracker

end SecretServer.Database
