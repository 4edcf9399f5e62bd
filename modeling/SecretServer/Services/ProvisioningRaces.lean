import SecretServer.Services.Provisioning

namespace SecretServer.Services

open Text Data Concurrency Database ExecutorService

/-! When overlapping `TryGet` calls all succeed: an insert goes through exactly as
long as nobody has inserted the same login since the lookup. -/

variable {ι : Type} (calls : ι → TryGetCall) (start : Db)

/-- The ids that `Guid.NewGuid` gives the calls are new, and no two are equal. -/
structure FreshUsers : Prop where
  distinct : ∀ first second,
    (calls first).newUser.newGuid.value = (calls second).newUser.newGuid.value →
      first = second
  unused : ∀ call, start.users.find? (calls call).newUser.newGuid.value = none

/-- Every principal is authenticated, by a name that fits the column. -/
def AllNamed : Prop :=
  ∀ call, ∃ login, (calls call).login? = some login ∧
    login.length ≤ Db.authProviderIdWidth

/-- A call that is about to insert its login finds the table without it. -/
def NoRival (config : Config ι Db Outcome) (event : Event ι) : Prop :=
  ∀ call login, event = .access call → (calls call).login? = some login →
    config.threads call =
      .running (Program.atomically (insert (calls call).newUser login)) →
    config.shared.findByAuthProviderId? login = none

def IsExecutor (outcome : Outcome) : Prop := ∃ executor, outcome = .ok (some executor)

inductive Finished : Thread Db Outcome → Prop
  | finishing {outcome : Outcome} : Finished (.running (.done outcome))
  | returned {outcome : Outcome} : Finished (.returned outcome)

inductive Failed : Thread Db Outcome → Prop
  | finishing {exception : Exception} : Failed (.running (.done (.error exception)))
  | returned {exception : Exception} : Failed (.returned (.error exception))

/-- Every call that is through got an executor, and the users are those of the start
and those of such calls. -/
structure Undisturbed (config : Config ι Db Outcome) : Prop where
  stages : ∀ call, Stage (calls call) IsExecutor (config.threads call)
  users : ∀ user ∈ config.shared.users.rows, user ∈ start.users.rows ∨
    ∃ call, user.id = (calls call).newUser.newGuid.value ∧ Finished (config.threads call)

variable {calls start}

section Config

variable {config : Config ι Db Outcome}

theorem Undisturbed.find?_eq_none (fresh : FreshUsers calls start)
    (undisturbed : Undisturbed calls start config) (call : ι)
    (unfinished : ¬ Finished (config.threads call)) :
    config.shared.users.find? (calls call).newUser.newGuid.value = none := by
  rw [Table.find?_eq_none_iff]
  intro user member same
  rcases undisturbed.users user member with original | ⟨other, sameOther, finished⟩
  · have unused := fresh.unused call
    rw [Table.find?_eq_none_iff] at unused
    exact unused user original same
  · obtain rfl := fresh.distinct other call (sameOther.symm.trans same)
    exact unfinished finished

theorem not_finished_access {effect : Db → Db} {rest : Db → Program Db Outcome} :
    ¬ Finished (.running (.access effect rest)) := by
  nofun

variable [DecidableEq ι]

theorem Undisturbed.advance (undisturbed : Undisturbed calls start config) {call : ι}
    {shared : Db} {thread : Thread Db Outcome}
    (stage : Stage (calls call) IsExecutor thread)
    (keeps : Finished (config.threads call) → Finished thread)
    (gained : ∀ user ∈ shared.users.rows, user ∈ config.shared.users.rows ∨
      (user.id = (calls call).newUser.newGuid.value ∧ Finished thread)) :
    Undisturbed calls start (config.advance call shared thread) where
  stages other := by
    by_cases same : other = call
    · subst same
      simpa using stage
    · rw [Config.threads_advance_of_ne _ _ _ same]
      exact undisturbed.stages other
  users user member := by
    rcases gained user member with old | ⟨own, finished⟩
    · rcases undisturbed.users user old with original | ⟨other, sameId, finished⟩
      · exact .inl original
      · refine .inr ⟨other, sameId, ?_⟩
        by_cases same : other = call
        · subst same
          simpa using keeps finished
        · rw [Config.threads_advance_of_ne _ _ _ same]
          exact finished
    · exact .inr ⟨call, own, by simpa using finished⟩

theorem Undisturbed.step (fresh : FreshUsers calls start) (named : AllNamed calls)
    {next : Config ι Db Outcome} {event : Event ι}
    (undisturbed : Undisturbed calls start config) (noRival : NoRival calls config event)
    (step : Step (tryGets calls) config event next) : Undisturbed calls start next := by
  cases step with
  | @invoke call idle =>
      refine undisturbed.advance .started ?_ fun user member => .inl member
      rw [idle]
      nofun
  | @respond call outcome running =>
      have stage := undisturbed.stages call
      rw [running] at stage
      obtain ⟨login, authenticated, _⟩ := named call
      have settled : IsExecutor outcome := stage.of_done fun anonymous => by
        rw [anonymous] at authenticated
        cases authenticated
      exact undisturbed.advance (.returned settled) (fun _ => .returned)
        fun user member => .inl member
  | @access call effect rest running =>
      have stage := undisturbed.stages call
      rw [running] at stage
      obtain ⟨login, authenticated, ⟨rfl, rfl⟩ | inserts⟩ := stage.of_access
      · refine undisturbed.advance ?_ ?_ fun user member => .inl member
        · dsimp only
          cases config.shared.findByAuthProviderId? login with
          | none => exact .inserting authenticated
          | some user => exact .finishing ⟨_, rfl⟩
        · rw [running]
          nofun
      · have unknown := noRival call login rfl authenticated (by rw [running, inserts])
        have absent := undisturbed.find?_eq_none fresh call
          (by rw [running]; exact not_finished_access)
        have fits : login.length ≤ Db.authProviderIdWidth := by
          obtain ⟨other, authenticatedOther, fits⟩ := named call
          rw [authenticated] at authenticatedOther
          cases authenticatedOther
          exact fits
        cases inserts
        dsimp only
        rw [insert_of_unknown fits unknown absent]
        refine undisturbed.advance (.finishing ⟨_, rfl⟩) (fun _ => .finishing) ?_
        intro user member
        rcases (Table.mem_insert absent).mp member with old | rfl
        · exact .inl old
        · exact .inr ⟨rfl, .finishing⟩

theorem Failed.step {next : Config ι Db Outcome} {event : Event ι} {call : ι}
    (failed : Failed (config.threads call))
    (step : Step (tryGets calls) config event next) : Failed (next.threads call) := by
  cases step with
  | @invoke other idle =>
      by_cases same : call = other
      · subst same
        rw [idle] at failed
        cases failed
      · rwa [Config.threads_advance_of_ne _ _ _ same]
  | @respond other outcome running =>
      by_cases same : call = other
      · subst same
        rw [running] at failed
        cases failed
        simpa using Failed.returned
      · rwa [Config.threads_advance_of_ne _ _ _ same]
  | @access other effect rest running =>
      by_cases same : call = other
      · subst same
        rw [running] at failed
        cases failed
      · rwa [Config.threads_advance_of_ne _ _ _ same]

theorem exists_failed_of_rival {next : Config ι Db Outcome} {event : Event ι}
    (rival : ¬ NoRival calls config event)
    (step : Step (tryGets calls) config event next) :
    ∃ call, Failed (next.threads call) := by
  simp only [NoRival, not_forall] at rival
  obtain ⟨call, login, rfl, _, inserting, known⟩ := rival
  obtain ⟨constraint, refused⟩ := insert_of_known (calls call).newUser known
  cases step with
  | access running =>
      rw [inserting] at running
      cases running
      refine ⟨call, ?_⟩
      rw [Config.threads_advance_self]
      dsimp only
      rw [refused]
      exact .finishing

theorem failed_or_runWhere {trace : List (Event ι)}
    (run : Run (tryGets calls) (.initial start) trace config) :
    (∃ call, Failed (config.threads call)) ∨
      RunWhere (tryGets calls) (NoRival calls) (.initial start) trace config := by
  induction run with
  | nil => exact .inr .nil
  | @snoc trace config next event _ step induction =>
      rcases induction with ⟨call, failed⟩ | earlier
      · exact .inl ⟨call, failed.step step⟩
      · by_cases noRival : NoRival calls config event
        · exact .inr (.snoc earlier noRival step)
        · exact .inl (exists_failed_of_rival noRival step)

end Config

theorem run_tryGet_alone (named : AllNamed calls) {call : ι} {db : Db}
    (absent : db.users.find? (calls call).newUser.newGuid.value = none) :
    IsExecutor ((tryGets calls call).run db).1 ∧
      ∀ user ∈ ((tryGets calls call).run db).2.users.rows, user ∈ db.users.rows ∨
        user.id = (calls call).newUser.newGuid.value := by
  obtain ⟨login, authenticated, fits⟩ := named call
  unfold tryGets TryGetCall.program
  rw [run_tryGet_authenticated _ authenticated, Program.run_access, id]
  cases found : db.findByAuthProviderId? login with
  | some user => exact ⟨⟨_, rfl⟩, fun _ member => .inl member⟩
  | none =>
      rw [afterLookup, Program.run_atomically, insert_of_unknown fits found absent]
      refine ⟨⟨_, rfl⟩, ?_⟩
      intro user member
      rcases (Table.mem_insert absent).mp member with old | rfl
      · exact .inl old
      · exact .inr rfl

theorem runAll_tryGets_succeed (fresh : FreshUsers calls start) (named : AllNamed calls)
    {order : List ι} (nodup : order.Nodup) :
    ∀ entry ∈ (runAll (tryGets calls) order start).1, IsExecutor entry.2 := by
  have history := runAll_invariant_of_nodup (tryGets calls)
    (fun log db => (∀ entry ∈ log, IsExecutor entry.2) ∧
      ∀ user ∈ db.users.rows, user ∈ start.users.rows ∨
        ∃ call ∈ log.map Prod.fst, user.id = (calls call).newUser.newGuid.value)
    ⟨nofun, fun _ member => .inl member⟩ ?_ nodup
  · exact history.1
  · intro log db call unlogged ⟨succeeded, users⟩
    have absent : db.users.find? (calls call).newUser.newGuid.value = none := by
      rw [Table.find?_eq_none_iff]
      intro user member same
      rcases users user member with original | ⟨other, logged, sameOther⟩
      · have unused := fresh.unused call
        rw [Table.find?_eq_none_iff] at unused
        exact unused user original same
      · exact unlogged (fresh.distinct other call (sameOther.symm.trans same) ▸ logged)
    obtain ⟨executor, gained⟩ := run_tryGet_alone named absent
    refine ⟨?_, ?_⟩
    · intro entry member
      rcases List.mem_append.mp member with earlier | now
      · exact succeeded entry earlier
      · rw [List.mem_singleton.mp now]
        exact executor
    · intro user member
      rw [List.map_append]
      rcases gained user member with old | own
      · rcases users user old with original | ⟨other, logged, sameOther⟩
        · exact .inl original
        · exact .inr ⟨other, List.mem_append_left _ logged, sameOther⟩
      · exact .inr ⟨call, List.mem_append_right _ List.mem_cons_self, own⟩

theorem overlapping_tryGets_succeed_iff_noRival [DecidableEq ι]
    (fresh : FreshUsers calls start) (named : AllNamed calls) :
    (∀ trace config,
        RunWhere (tryGets calls) (NoRival calls) (.initial start) trace config →
        ∀ call outcome, config.threads call = .returned outcome → IsExecutor outcome) ∧
      (∀ trace config, Run (tryGets calls) (.initial start) trace config →
        (∀ call rest, config.threads call ≠ .running rest) →
        (∀ call outcome, config.threads call = .returned outcome → IsExecutor outcome) →
        RunWhere (tryGets calls) (NoRival calls) (.initial start) trace config) ∧
      (∀ order : List ι, order.Nodup →
        ∀ entry ∈ (runAll (tryGets calls) order start).1, IsExecutor entry.2) := by
  refine ⟨?_, ?_, fun order nodup => runAll_tryGets_succeed fresh named nodup⟩
  · intro trace config run call outcome returned
    have undisturbed : Undisturbed calls start config :=
      run.invariant (Undisturbed calls start)
        ⟨fun _ => .idle, fun _ member => .inl member⟩
        fun step noRival undisturbed => undisturbed.step fresh named noRival step
    have stage := undisturbed.stages call
    rw [returned] at stage
    cases stage with
    | returned executor => exact executor
  · intro trace config run complete succeeded
    rcases failed_or_runWhere run with ⟨call, failed⟩ | undisturbed
    · generalize thread : config.threads call = current at failed
      cases failed with
      | finishing => exact absurd thread (complete call _)
      | returned =>
          obtain ⟨executor, impossible⟩ := succeeded call _ thread
          cases impossible
    · exact undisturbed

theorem second_first_request_fails :
    ∃ trace config, Run (tryGets FirstRequests.calls) (.initial default) trace config ∧
      (∀ call, (FirstRequests.calls call).login? = some FirstRequests.login) ∧
      config.threads false =
        .returned (.error (.dbUpdate (.uniqueIndex "IX_User_AuthProviderId"))) := by
  obtain ⟨trace, config, run, _, _, returned⟩ := FirstRequests.run
  rw [FirstRequests.insert_second] at returned
  exact ⟨trace, config, run, FirstRequests.authenticated, returned⟩

theorem overlapping_tryGets_succeed_iff_noRival_first_requests :
    (∀ trace config,
        RunWhere (tryGets FirstRequests.calls) (NoRival FirstRequests.calls)
          (.initial default) trace config →
        ∀ call outcome, config.threads call = .returned outcome → IsExecutor outcome) ∧
      (∀ trace config, Run (tryGets FirstRequests.calls) (.initial default) trace config →
        (∀ call rest, config.threads call ≠ .running rest) →
        (∀ call outcome, config.threads call = .returned outcome → IsExecutor outcome) →
        RunWhere (tryGets FirstRequests.calls) (NoRival FirstRequests.calls)
          (.initial default) trace config) ∧
      (∀ order : List Bool, order.Nodup →
        ∀ entry ∈ (runAll (tryGets FirstRequests.calls) order default).1,
          IsExecutor entry.2) := by
  apply overlapping_tryGets_succeed_iff_noRival
  · exact ⟨by decide, fun _ => rfl⟩
  · exact fun call => ⟨FirstRequests.login, FirstRequests.authenticated call, by decide⟩

end SecretServer.Services
