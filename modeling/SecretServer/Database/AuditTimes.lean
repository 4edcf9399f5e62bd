import SecretServer.Data.Since
import SecretServer.Database.Commands

namespace SecretServer.Database

open Text Data AppDbContext

variable {ω : Type}

/-! The writes of a save. -/

section Writes

variable {utcNow : Nat → DateTime} {readings : Nat} {before after : EntityEntry ω}
  {key : RowKey} {times : AuditTimes}

theorem Entity.isTimestamped_of_row? {entity : Entity ω}
    (row : entity.row? = some (key, times)) : entity.isTimestamped := by
  cases entity with
  | secret => rfl
  | user => rfl
  | other => cases row

theorem AppDbContext.Stamped.of_added (stamped : Stamped utcNow readings before after)
    (state : after.state = .added) (row : after.entity.row? = some (key, times)) :
    before.state = .added ∧ before.key? = some key ∧
      ∃ first second, first < second ∧ second < readings ∧
        times.createdAt = (utcNow first).ticks ∧
        times.updatedAt = (utcNow second).ticks := by
  cases stamped with
  | @added entity first second timestamped ordered taken =>
      rw [Entity.row?_setUpdatedAt, Entity.row?_setCreatedAt, Option.map_map] at row
      obtain ⟨⟨sameKey, old⟩, found, shown⟩ := Option.map_eq_some_iff.mp row
      cases shown
      exact ⟨rfl, Entity.key?_of_row? found, first, second, ordered, taken, rfl, rfl⟩
  | modified => cases state
  | untouched other =>
      exact absurd state (other (Entity.isTimestamped_of_row? row)).1

theorem AppDbContext.Stamped.of_modified (stamped : Stamped utcNow readings before after)
    (state : after.state = .modified) (row : after.entity.row? = some (key, times)) :
    before.state = .modified ∧
      (∃ old, before.entity.row? = some (key, old) ∧ times.createdAt = old.createdAt) ∧
      ∃ reading < readings, times.updatedAt = (utcNow reading).ticks := by
  cases stamped with
  | added => cases state
  | @modified entity reading timestamped taken =>
      rw [Entity.row?_setUpdatedAt] at row
      obtain ⟨⟨sameKey, old⟩, found, shown⟩ := Option.map_eq_some_iff.mp row
      cases shown
      exact ⟨rfl, ⟨old, found, rfl⟩, reading, taken, rfl⟩
  | untouched other =>
      exact absurd state (other (Entity.isTimestamped_of_row? row)).2

end Writes

/-! What is tracked as stored stays in step with the rows. -/

section InSync

variable {db next : Db} {key : RowKey} {times : AuditTimes}

theorem Db.Holds.auditTimes {entity : Entity ω} (holds : db.Holds entity)
    (row : entity.row? = some (key, times)) : db.auditTimes key = some times := by
  cases entity with
  | secret secret =>
      cases row
      exact congrArg (Option.map Secret.auditTimes) (Table.find?_of_mem holds)
  | user user =>
      cases row
      exact congrArg (Option.map User.auditTimes) (Table.find?_of_mem holds)
  | other => cases row

theorem EntityEntry.InSync.modify {entry : EntityEntry ω} (inSync : entry.InSync db)
    {changed : Entity ω} (sameKey : changed.key? = entry.key?)
    (keepsCreatedAt : entry.state ≠ .added →
      changed.createdAt? = entry.entity.createdAt?) :
    EntityEntry.InSync db ⟨changed, entry.state.modify⟩ := by
  intro key times stored state row found
  have named : entry.entity.key? = some key := sameKey.symm.trans (Entity.key?_of_row? row)
  obtain ⟨⟨sameName, old⟩, oldRow, rfl⟩ :=
    Option.map_eq_some_iff.mp ((Entity.key?_eq _).symm.trans named)
  have wasStored : entry.state = .unchanged ∨ entry.state = .modified := by
    cases before : entry.state <;> simp_all [EntityState.modify]
  have kept : changed.createdAt? = entry.entity.createdAt? :=
    keepsCreatedAt (by rcases wasStored with state | state <;> simp [state])
  rw [Entity.createdAt?, Entity.createdAt?, row, oldRow] at kept
  exact (inSync _ old stored wasStored oldRow found).trans (Option.some.inj kept).symm

theorem EntityEntry.InSync.of_remove {entry removed : EntityEntry ω}
    (removes : entry.remove = some removed) : removed.InSync db := by
  have deleted : removed.state = .deleted := by
    unfold EntityEntry.remove at removes
    split at removes <;> cases removes
    rfl
  intro key times stored state
  simp [deleted] at state

theorem EntityEntry.InSync.stamped {utcNow : Nat → DateTime} {readings : Nat}
    {before after : EntityEntry ω} (inSync : before.InSync db)
    (stamped : Stamped utcNow readings before after) : after.InSync db := by
  intro key times stored state row found
  cases stamped with
  | added => simp at state
  | modified =>
      rw [Entity.row?_setUpdatedAt] at row
      obtain ⟨⟨sameKey, old⟩, oldRow, shown⟩ := Option.map_eq_some_iff.mp row
      cases shown
      exact inSync key old stored (.inr rfl) oldRow found
  | untouched => exact inSync key times stored state row found

namespace ChangeTracker

variable {before after tracker : ChangeTracker ω}

theorem Tracks.inSync (tracks : Tracks db before after) (inSync : before.InSync db) :
    after.InSync db := by
  intro entry member
  cases tracks with
  | add adds =>
      rw [adds, List.mem_append, List.mem_singleton] at member
      rcases member with old | rfl
      · exact inSync entry old
      · intro key times stored state
        simp at state
  | modify tracked sameKey keepsCreatedAt changes =>
      rw [InSync, tracked] at inSync
      rw [changes, List.mem_append, List.mem_cons] at member
      rcases member with front | rfl | back
      · exact inSync entry (List.mem_append_left _ front)
      · exact (inSync _ (List.mem_append_right _ List.mem_cons_self)).modify sameKey
          keepsCreatedAt
      · exact inSync entry (List.mem_append_right _ (List.mem_cons_of_mem _ back))
  | remove tracked removes =>
      rw [InSync, tracked] at inSync
      rw [removes, List.mem_append, List.mem_append, Option.mem_toList] at member
      rcases member with (front | removed) | back
      · exact inSync entry (List.mem_append_left _ front)
      · exact .of_remove removed
      · exact inSync entry (List.mem_append_right _ (List.mem_cons_of_mem _ back))
  | query stored tracks =>
      rw [tracks, List.mem_append, List.mem_singleton] at member
      rcases member with old | rfl
      · exact inSync entry old
      · intro key times row _ named found
        rw [stored.auditTimes named] at found
        exact congrArg AuditTimes.createdAt (Option.some.inj found).symm
  | switch inSync => exact inSync entry member

theorem InSync.stamped (inSync : tracker.InSync db) (utcNow : Nat → DateTime) :
    (tracker.setTimeAuditedColumns utcNow).InSync db := by
  intro after member
  obtain ⟨before, beforeMember, stamped⟩ := exists_stamped_of_mem member
  exact (inSync before beforeMember).stamped stamped

/-- A command that leaves its row there writes what the entry of that row tracks. -/
theorem row?_of_command {entry command : EntityEntry ω} (member : entry ∈ tracker.entries)
    (stays : entry.state ≠ .deleted) {held : AuditTimes}
    (row : entry.entity.row? = some (key, held))
    (commandMember : command ∈ modificationCommands tracker.entries)
    (kept : command.state ≠ .deleted) (written : command.entity.row? = some (key, times)) :
    times = held := by
  obtain ⟨other, otherMember, sends⟩ := exists_sends_of_mem commandMember
  rw [sends.entity_eq] at written
  obtain rfl := eq_of_key member otherMember (Entity.key?_of_row? row)
    (Entity.key?_of_row? written) stays (sends.state_ne_deleted kept)
  cases row.symm.trans written
  rfl

theorem InSync.accepted (inSync : tracker.InSync db) {order : CommandOrder ω}
    (saved : saveAll order tracker.entries db = .ok next) :
    tracker.acceptAllChanges.InSync next := by
  intro kept keptMember key times stored _ row found
  obtain ⟨entry, member, accepts⟩ := List.mem_filterMap.mp keptMember
  obtain ⟨rfl, remains⟩ := eq_of_accepted accepts
  have stays : entry.state ≠ .deleted := by
    rcases remains with state | state | state <;> simp [state]
  have fate := tracker.fate saved key
  rw [found] at fate
  generalize before : db.auditTimes key = old at fate
  cases fate with
  | inserted inserts =>
      obtain ⟨command, commandMember, writes⟩ := List.mem_map.mp inserts
      obtain ⟨added, written⟩ := EntityEntry.write_eq_insert_iff.mp writes
      rw [row?_of_command member stays row commandMember (by simp [added]) written]
  | updated updates =>
      obtain ⟨command, commandMember, writes⟩ := List.mem_map.mp updates
      obtain ⟨modified, written⟩ := EntityEntry.write_eq_update_iff.mp writes
      rw [row?_of_command member stays row commandMember (by simp [modified]) written]
  | kept untouched =>
      have unchanged : entry.state = .unchanged := by
        by_contra differs
        have changed : entry.state.IsChange := by
          rcases remains with state | state | state
          · exact .inl state
          · exact .inr (.inl state)
          · exact absurd state differs
        obtain ⟨command, commandMember, touched⟩ :=
          exists_command_of_changed member changed (Entity.key?_of_row? row)
        exact untouched _ (List.mem_map_of_mem commandMember) touched
      exact inSync entry member key times stored (.inl unchanged) row before

end ChangeTracker

end InSync

/-! What a save makes of a row. -/

namespace SaveRecord

/-- The time is one that the stamping of this save has read from the clock. -/
def Reads (clock : Clock) (time : Nat) (record : SaveRecord ω) : Prop :=
  ∃ reading, record.start ≤ reading ∧ reading < record.finish ∧
    time = (clock.utcNow reading).ticks

structure Inserts (clock : Clock) (key : RowKey) (createdAt : Nat)
    (record : SaveRecord ω) : Prop where
  saved : record.saved = true
  added : ∃ entry ∈ record.entries, entry.state = .added ∧ entry.key? = some key
  stamped : record.Reads clock createdAt

structure Removes (key : RowKey) (record : SaveRecord ω) : Prop where
  saved : record.saved = true
  deleted : ∃ entry ∈ record.entries, entry.state = .deleted ∧ entry.key? = some key

end SaveRecord

inductive RowAfter (clock : Clock) (record : SaveRecord ω) (key : RowKey) :
    Option AuditTimes → Option AuditTimes → Prop
  | inserted {before : Option AuditTimes} {times : AuditTimes}
      (inserts : record.Inserts clock key times.createdAt)
      (ordered : times.createdAt ≤ times.updatedAt)
      (stamped : record.Reads clock times.updatedAt)
      (free : before = none ∨ record.Removes key) :
      RowAfter clock record key before (some times)
  | updated {old times : AuditTimes} (createdAt : times.createdAt = old.createdAt)
      (stamped : record.Reads clock times.updatedAt) (lasts : ¬ record.Removes key) :
      RowAfter clock record key (some old) (some times)
  | removed {before : Option AuditTimes} (removes : record.Removes key) :
      RowAfter clock record key before none
  | kept {before : Option AuditTimes} (lasts : ¬ record.Removes key) :
      RowAfter clock record key before before

namespace Session

variable {clock : Clock} {method : SaveMethod} {order : CommandOrder ω}
  {session : Session ω} {next : Db} {key : RowKey} {times : AuditTimes}

theorem monotone_utcNow {first second : Nat} (ordered : first ≤ second) :
    (session.utcNow clock first).ticks ≤ (session.utcNow clock second).ticks :=
  clock.monotone (Nat.add_le_add_left ordered _)

theorem reads_utcNow {reading : Nat}
    (taken : reading < auditReadings session.tracker.entries) :
    (session.record clock method order).Reads clock (session.utcNow clock reading).ticks :=
  ⟨session.readings + reading, Nat.le_add_right _ _, Nat.add_lt_add_left taken _, rfl⟩

/-- A save that succeeds removes a key exactly when a deleted entity has it. -/
theorem removes_iff (saved : (session.record clock method order).saved = true) :
    (session.record clock method order).Removes key ↔
      ∃ entry ∈ (session.stamped clock).entries,
        entry.state = .deleted ∧ entry.key? = some key := by
  constructor
  · intro ⟨_, entry, member, state, named⟩
    obtain ⟨after, afterMember, stamped⟩ :=
      @exists_of_mem_stamped _ (session.utcNow clock) _ _ member
    obtain ⟨sameKey, sameState⟩ := Prod.ext_iff.mp (ChangeTracker.label_stamped stamped)
    exact ⟨after, afterMember, sameState.symm.trans state, sameKey.symm.trans named⟩
  · intro ⟨after, afterMember, state, named⟩
    obtain ⟨entry, member, stamped⟩ := exists_stamped_of_mem afterMember
    obtain ⟨sameKey, sameState⟩ := Prod.ext_iff.mp (ChangeTracker.label_stamped stamped)
    exact ⟨saved, entry, member, sameState.trans state, sameKey.trans named⟩

/-- The row of an added entity, whether it is inserted or written over a deleted one. -/
theorem rowAfter_of_added {entry : EntityEntry ω} {before : Option AuditTimes}
    (saved : (session.record clock method order).saved = true)
    (member : entry ∈ (session.stamped clock).entries) (state : entry.state = .added)
    (row : entry.entity.row? = some (key, times))
    (free : before = none ∨ (session.record clock method order).Removes key) :
    RowAfter clock (session.record clock method order) key before (some times) := by
  obtain ⟨tracked, trackedMember, stamped⟩ := exists_stamped_of_mem member
  obtain ⟨added, named, first, second, ordered, taken, createdAt, updatedAt⟩ :=
    stamped.of_added state row
  refine .inserted ⟨saved, ⟨tracked, trackedMember, added, named⟩, ?_⟩ ?_ ?_ free
  · rw [createdAt]
    exact reads_utcNow (Nat.lt_trans ordered taken)
  · rw [createdAt, updatedAt]
    exact monotone_utcNow (Nat.le_of_lt ordered)
  · rw [updatedAt]
    exact reads_utcNow taken

theorem rowAfter_of_modified {entry : EntityEntry ω} {old : AuditTimes}
    (inSync : session.tracker.InSync session.db)
    (held : session.db.auditTimes key = some old)
    (saved : (session.record clock method order).saved = true)
    (member : entry ∈ (session.stamped clock).entries) (state : entry.state = .modified)
    (row : entry.entity.row? = some (key, times)) :
    RowAfter clock (session.record clock method order) key (some old) (some times) := by
  obtain ⟨entryBefore, beforeMember, stamped⟩ := exists_stamped_of_mem member
  obtain ⟨modified, ⟨tracked, trackedRow, createdAt⟩, reading, taken, updatedAt⟩ :=
    stamped.of_modified state row
  refine .updated ?_ ?_ ?_
  · rw [createdAt]
    exact (inSync entryBefore beforeMember key tracked old (.inr modified) trackedRow
      held).symm
  · rw [updatedAt]
    exact reads_utcNow taken
  · intro removes
    obtain ⟨other, otherMember, deleted, named⟩ := (removes_iff saved).mp removes
    exact ChangeTracker.state_ne_deleted_of_modified member otherMember state
      (Entity.key?_of_row? row) named deleted

theorem rowAfter_of_saved (inSync : session.tracker.InSync session.db)
    (stored : saveAll order (session.stamped clock).entries session.db = .ok next)
    (saved : (session.record clock method order).saved = true) (key : RowKey) :
    RowAfter clock (session.record clock method order) key (session.db.auditTimes key)
      (next.auditTimes key) := by
  have fate := (session.stamped clock).fate stored key
  generalize held : session.db.auditTimes key = old at fate ⊢
  generalize next.auditTimes key = result at fate ⊢
  cases fate with
  | inserted inserts free =>
      obtain ⟨command, commandMember, writes⟩ := List.mem_map.mp inserts
      obtain ⟨added, row⟩ := EntityEntry.write_eq_insert_iff.mp writes
      obtain ⟨entry, member, sends⟩ := exists_sends_of_mem commandMember
      cases sends with
      | added state => exact rowAfter_of_added saved member state row (.inl free)
      | replaced => cases added
      | modified state => cases state.symm.trans added
      | deleted state => cases state.symm.trans added
  | updated updates present =>
      obtain ⟨command, commandMember, writes⟩ := List.mem_map.mp updates
      obtain ⟨modified, row⟩ := EntityEntry.write_eq_update_iff.mp writes
      obtain ⟨entry, member, sends⟩ := exists_sends_of_mem commandMember
      cases sends with
      | added state => cases state.symm.trans modified
      | replaced state replaces =>
          obtain ⟨sameKey, named, other, otherMember, deleted, otherNamed⟩ :=
            EntityEntry.sharesRow_iff.mp replaces
          obtain rfl := Option.some.inj (named.symm.trans (Entity.key?_of_row? row))
          exact rowAfter_of_added saved member state row
            (.inr ((removes_iff saved).mpr ⟨other, otherMember, deleted, otherNamed⟩))
      | modified state =>
          subst present
          exact rowAfter_of_modified inSync held saved member state row
      | deleted state => cases state.symm.trans modified
  | deleted deletes =>
      obtain ⟨command, commandMember, writes⟩ := List.mem_map.mp deletes
      obtain ⟨state, named⟩ := EntityEntry.write_eq_delete_iff.mp writes
      obtain ⟨entry, member, sends⟩ := exists_sends_of_mem commandMember
      refine .removed ((removes_iff saved).mpr ⟨entry, member, ?_, ?_⟩)
      · cases sends with
        | added => exact state
        | replaced => cases state
        | modified => exact state
        | deleted => exact state
      · exact sends.key?_eq.symm.trans named
  | kept untouched =>
      refine .kept ?_
      intro removes
      obtain ⟨entry, member, deleted, named⟩ := (removes_iff saved).mp removes
      obtain ⟨command, commandMember, touched⟩ :=
        exists_command_of_changed member (.inr (.inr deleted)) named
      exact untouched _ (List.mem_map_of_mem commandMember) touched

theorem rowAfter_save (clock : Clock) (method : SaveMethod) (order : CommandOrder ω)
    (inSync : session.tracker.InSync session.db) (key : RowKey) :
    RowAfter clock (session.record clock method order) key (session.db.auditTimes key)
      ((session.save clock method order).db.auditTimes key) := by
  rcases @save_cases _ clock method order session with
    ⟨next, stored, saved, result⟩ | ⟨refused, result⟩
  · rw [result]
    exact rowAfter_of_saved inSync stored saved key
  · rw [result]
    refine .kept ?_
    intro removes
    exact absurd removes.saved (by rw [refused]; simp)

theorem inSync_save (inSync : session.tracker.InSync session.db) :
    (session.save clock method order).tracker.InSync
      (session.save clock method order).db := by
  have stamped := inSync.stamped (session.utcNow clock)
  rcases @save_cases _ clock method order session with
    ⟨next, stored, -, result⟩ | ⟨-, result⟩
  · rw [result]
    exact stamped.accepted stored
  · rw [result]
    exact stamped

end Session

/-! What holds of every row. -/

/-- What the saves of the log, with the readings taken so far, say about a row. -/
structure Recorded (clock : Clock) (log : List (SaveRecord ω)) (readings : Nat)
    (key : RowKey) (times : AuditTimes) : Prop where
  ordered : times.createdAt ≤ times.updatedAt
  past : ∃ reading < readings, times.updatedAt = (clock.utcNow reading).ticks
  inserted :
    Since (SaveRecord.Inserts clock key times.createdAt) (SaveRecord.Removes key) log

section Rows

variable {clock : Clock} {log events : List (SaveRecord ω)} {record : SaveRecord ω}
  {key : RowKey} {times old : AuditTimes} {before : Option AuditTimes}

/-- The stamping of a save reads no time before the `UpdatedAt` of a stored row. -/
theorem Recorded.le_of_reads {time : Nat}
    (recorded : Recorded clock log record.start key times)
    (reads : record.Reads clock time) : times.updatedAt ≤ time := by
  obtain ⟨reading, earlier, updatedAt⟩ := recorded.past
  obtain ⟨later, starts, -, rfl⟩ := reads
  rw [updatedAt]
  exact clock.monotone (Nat.le_trans (Nat.le_of_lt earlier) starts)

theorem Recorded.rowAfter
    (recorded : ∀ old, before = some old → Recorded clock log record.start key old)
    (grows : record.start ≤ record.finish)
    (after : RowAfter clock record key before (some times)) :
    Recorded clock (log ++ [record]) record.finish key times := by
  cases after with
  | inserted inserts ordered stamped =>
      obtain ⟨reading, -, taken, updatedAt⟩ := stamped
      exact ⟨ordered, ⟨reading, taken, updatedAt⟩, .begun inserts⟩
  | @updated old times createdAt stamped lasts =>
      have held := recorded old rfl
      have later := held.le_of_reads stamped
      obtain ⟨reading, -, taken, updatedAt⟩ := stamped
      refine ⟨?_, ⟨reading, taken, updatedAt⟩, ?_⟩
      · calc
          times.createdAt = old.createdAt := createdAt
          _ ≤ old.updatedAt := held.ordered
          _ ≤ times.updatedAt := later
      · rw [createdAt]
        exact held.inserted.continued lasts
  | kept lasts =>
      have held := recorded times rfl
      obtain ⟨reading, taken, updatedAt⟩ := held.past
      exact ⟨held.ordered, ⟨reading, Nat.lt_of_lt_of_le taken grows, updatedAt⟩,
        held.inserted.continued lasts⟩

theorem RowAfter.lasting {after : Option AuditTimes}
    (rowAfter : RowAfter clock record key (some old) after)
    (recorded : Recorded clock log record.start key old) (stays : ¬ record.Removes key) :
    ∃ times, after = some times ∧ times.createdAt = old.createdAt ∧
      old.updatedAt ≤ times.updatedAt := by
  cases rowAfter with
  | inserted _ _ _ free =>
      rcases free with absent | removes
      · cases absent
      · exact absurd removes stays
  | updated createdAt stamped => exact ⟨_, rfl, createdAt, recorded.le_of_reads stamped⟩
  | removed removes => exact absurd removes stays
  | kept => exact ⟨old, rfl, rfl, le_rfl⟩

structure Consistent (clock : Clock) (log : List (SaveRecord ω)) (session : Session ω) :
    Prop where
  inSync : session.tracker.InSync session.db
  recorded : ∀ key times, session.db.auditTimes key = some times →
    Recorded clock log session.readings key times

variable {start session next : Session ω}

theorem consistent_fresh (collation : Utf16 → Utf16) :
    Consistent clock [] (Session.fresh (ω := ω) collation) := by
  constructor
  · intro entry member
    cases member
  · intro key times found
    cases key <;> cases found

theorem Consistent.step (consistent : Consistent clock log session)
    (step : Step clock session events next) : Consistent clock (log ++ events) next := by
  cases step with
  | track tracks =>
      rw [List.append_nil]
      exact ⟨tracks.inSync consistent.inSync, consistent.recorded⟩
  | wait later =>
      rw [List.append_nil]
      refine ⟨consistent.inSync, ?_⟩
      intro key times found
      obtain ⟨ordered, ⟨reading, taken, updatedAt⟩, inserted⟩ :=
        consistent.recorded key times found
      exact ⟨ordered, ⟨reading, Nat.lt_of_lt_of_le taken later, updatedAt⟩, inserted⟩
  | save method order =>
      refine ⟨Session.inSync_save consistent.inSync, ?_⟩
      intro key times found
      have rowAfter := Session.rowAfter_save clock method order consistent.inSync key
      rw [found] at rowAfter
      exact .rowAfter (consistent.recorded key) (Nat.le_add_right _ _) rowAfter

theorem Consistent.runs (consistent : Consistent clock log start)
    (runs : Runs clock start events session) :
    Consistent clock (log ++ events) session := by
  induction runs with
  | refl =>
      rw [List.append_nil]
      exact consistent
  | step _ step induction =>
      rw [← List.append_assoc]
      exact induction.step step

theorem Consistent.lasting_step (consistent : Consistent clock log session)
    (step : Step clock session events next)
    (stored : session.db.auditTimes key = some old)
    (stays : ∀ record ∈ events, ¬ record.Removes key) :
    ∃ times, next.db.auditTimes key = some times ∧ times.createdAt = old.createdAt ∧
      old.updatedAt ≤ times.updatedAt := by
  cases step with
  | track => exact ⟨old, stored, rfl, le_rfl⟩
  | wait => exact ⟨old, stored, rfl, le_rfl⟩
  | save method order =>
      have rowAfter := Session.rowAfter_save clock method order consistent.inSync key
      rw [stored] at rowAfter
      exact rowAfter.lasting (consistent.recorded key old stored)
        (stays _ List.mem_cons_self)

theorem Consistent.lasting (consistent : Consistent clock log start)
    (runs : Runs clock start events session)
    (stored : start.db.auditTimes key = some old)
    (stays : ∀ record ∈ events, ¬ record.Removes key) :
    ∃ times, session.db.auditTimes key = some times ∧
      times.createdAt = old.createdAt ∧ old.updatedAt ≤ times.updatedAt := by
  induction runs with
  | refl => exact ⟨old, stored, rfl, le_rfl⟩
  | step runs step induction =>
      obtain ⟨between, found, createdAt, updatedAt⟩ := induction
        fun record member => stays record (List.mem_append_left _ member)
      obtain ⟨times, stored, sameCreatedAt, later⟩ :=
        (consistent.runs runs).lasting_step step found
          fun record member => stays record (List.mem_append_right _ member)
      exact ⟨times, stored, sameCreatedAt.trans createdAt,
        Nat.le_trans updatedAt later⟩

end Rows

theorem audit_times_stay_consistent (clock : Clock) {collation : Utf16 → Utf16}
    {session later : Session ω} {log events : List (SaveRecord ω)}
    (runs : Runs clock (Session.fresh collation) log session)
    (continues : Runs clock session events later) :
    (∀ (utcNow : Nat → DateTime) (entries : List (EntityEntry ω)),
      List.Forall₂ (Stamped utcNow (auditReadings entries)) entries
        (setTimeAuditedColumns utcNow entries)) ∧
    ∀ key times, session.db.auditTimes key = some times →
      times.createdAt ≤ times.updatedAt ∧
      Since (SaveRecord.Inserts clock key times.createdAt) (SaveRecord.Removes key) log ∧
      ((∀ record ∈ events, ¬ record.Removes key) →
        ∃ kept, later.db.auditTimes key = some kept ∧
          kept.createdAt = times.createdAt ∧ times.updatedAt ≤ kept.updatedAt) := by
  refine ⟨setTimeAuditedColumns_stamps, ?_⟩
  intro key times stored
  have consistent := (consistent_fresh collation).runs runs
  have recorded := consistent.recorded key times stored
  exact ⟨recorded.ordered, recorded.inserted, consistent.lasting continues stored⟩

/-! A secret that is tracked before its owner, saved with it, and an owner that the next
save renames. -/

namespace RenamedUser

def clock : Clock where
  utcNow reading := ⟨min reading DateTime.maxTicks, .utc, Nat.min_le_right _ _⟩
  monotone := by
    intro first second ordered
    exact Nat.le_min.mpr
      ⟨Nat.le_trans (Nat.min_le_left _ _) ordered, Nat.min_le_right _ _⟩

/-- It comes with a creation time of its own choice. -/
def user : User where
  id := 1
  authProviderId := Utf16.ofString "auth0|1"
  createdAt := ⟨DateTime.maxTicks, .utc, le_rfl⟩

def secret : Secret where
  id := 2
  userId := some 1
  value := Utf16.ofString "value"
  ttl := some (Utf16.ofString "hour")

def first : ChangeTracker Empty := ⟨[⟨.secret secret, .added⟩], List.pairwise_singleton _ _⟩

theorem apart (secretState userState : EntityState) {secret : Secret} {user : User} :
    ([⟨.secret secret, secretState⟩, ⟨.user user, userState⟩].map
      (@EntityEntry.label Empty)).Pairwise EntityEntry.Apart := by
  simp [EntityEntry.label, EntityEntry.Apart, EntityEntry.key?, Entity.key?]

def added : Session Empty :=
  { (Session.fresh id : Session Empty) with
    tracker := ⟨[⟨.secret secret, .added⟩, ⟨.user user, .added⟩], apart .added .added⟩ }

def inserted : Session Empty := added.save clock .saveChanges .principalsFirst

def stampedSecret : Secret :=
  { secret with createdAt := clock.utcNow 0, updatedAt := clock.utcNow 2 }

def stampedUser : User :=
  { user with createdAt := clock.utcNow 1, updatedAt := clock.utcNow 3 }

def rename (user : User) : User :=
  { user with authProviderId := Utf16.ofString "auth0|2" }

theorem tracks_rename {user : User} {front : List (EntityEntry Empty)}
    {before after : ChangeTracker Empty} {db : Db}
    (tracked : before.entries = front ++ [⟨.user user, .unchanged⟩])
    (changes : after.entries = front ++ [⟨.user (rename user), .modified⟩]) :
    ChangeTracker.Tracks db before after := by
  refine .modify tracked ?_ ?_ changes
  · rfl
  · intro _
    rfl

def renamed : Session Empty :=
  { inserted with
    tracker := ⟨[⟨.secret stampedSecret, .unchanged⟩, ⟨.user (rename stampedUser), .modified⟩],
      apart .unchanged .modified⟩ }

def updated : Session Empty := renamed.save clock .saveChangesAsync .principalsFirst

theorem stored : inserted.db.auditTimes (.user 1) = some ⟨1, 3⟩ := by decide +kernel

theorem inserting :
    Runs clock (Session.fresh id) [added.record clock .saveChanges .principalsFirst]
      inserted := by
  have secretTracked : Step clock (Session.fresh id) []
      { (Session.fresh id : Session Empty) with tracker := first } := .track (.add rfl)
  have userTracked : Step clock { (Session.fresh id : Session Empty) with tracker := first }
      [] added := .track (.add rfl)
  exact .step (.step (.step .refl secretTracked) userTracked)
    (.save .saveChanges .principalsFirst)

theorem changing :
    Runs clock inserted [renamed.record clock .saveChangesAsync .principalsFirst] updated := by
  have tracked : inserted.tracker.entries =
      [⟨.secret stampedSecret, .unchanged⟩] ++ [⟨.user stampedUser, .unchanged⟩] := by
    decide +kernel
  have renames : ChangeTracker.Tracks inserted.db inserted.tracker renamed.tracker :=
    tracks_rename tracked rfl
  exact .step (.step .refl (.track renames)) (.save .saveChangesAsync .principalsFirst)

theorem stays : ∀ record ∈ [renamed.record clock .saveChangesAsync .principalsFirst],
    ¬ record.Removes (.user 1) := by
  intro record member removes
  obtain rfl := List.mem_singleton.mp member
  obtain ⟨-, entry, entryMember, deleted, -⟩ := removes
  rcases List.mem_cons.mp entryMember with rfl | last
  · cases deleted
  · obtain rfl := List.mem_singleton.mp last
    cases deleted

end RenamedUser

open RenamedUser in
theorem audit_times_stay_consistent_renamed_user :
    ∃ kept, updated.db.auditTimes (.user 1) = some kept ∧
      kept.createdAt = 1 ∧ 3 ≤ kept.updatedAt :=
  ((audit_times_stay_consistent clock inserting changing).2 (.user 1) ⟨1, 3⟩ stored).2.2
    stays

end SecretServer.Database
