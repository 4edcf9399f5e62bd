import SecretServer.Concurrency.Interleaving
import SecretServer.Services.ExecutorService

namespace SecretServer.Services

open Text Data Concurrency Database ExecutorService

/-! Overlapping `ExecutorService.TryGet` calls.  Nothing holds a lookup and the insert
that follows it together but the unique index. -/

structure TryGetCall where
  newUser : NewUser
  principal : ClaimsPrincipal

namespace TryGetCall

def login? (call : TryGetCall) : Option Utf16 := call.principal.login?

def program (call : TryGetCall) : Program Db Outcome :=
  (tryGet call.newUser call.principal).run

end TryGetCall

inductive Stage (call : TryGetCall) (settled : Outcome → Prop) :
    Thread Db Outcome → Prop
  | idle : Stage call settled .idle
  | started : Stage call settled (.running call.program)
  | inserting {login : Utf16} (authenticated : call.login? = some login) :
      Stage call settled (.running (Program.atomically (insert call.newUser login)))
  | finishing {outcome : Outcome} (holds : settled outcome) :
      Stage call settled (.running (.done outcome))
  | returned {outcome : Outcome} (holds : settled outcome) :
      Stage call settled (.returned outcome)

/-- A user with this login has the executor's id. -/
def Registered (db : Db) (login : Utf16) (executor : Executor) : Prop :=
  ∃ user ∈ db.users.rows, db.collation user.authProviderId = db.collation login ∧
    user.id = executor.userId

/-- What a call may return to an authenticated principal: the id of the user with its
login, or an exception of the database. -/
inductive Answers (db : Db) (login : Utf16) : Outcome → Prop
  | identified {executor : Executor} (registered : Registered db login executor) :
      Answers db login (.ok (some executor))
  | refused {constraint : DbConstraint} :
      Answers db login (.error (.dbUpdate constraint))

structure Settled (db : Db) (call : TryGetCall) (outcome : Outcome) : Prop where
  anonymous : call.login? = none → outcome = .ok none
  authenticated : ∀ login, call.login? = some login → Answers db login outcome

/-- No user is lost or changed. -/
structure Grows (before after : Db) : Prop where
  collation : after.collation = before.collation
  users : ∀ user ∈ before.users.rows, user ∈ after.users.rows

variable {ι : Type}

abbrev tryGets (calls : ι → TryGetCall) (call : ι) : Program Db Outcome :=
  (calls call).program

structure Provisioned (calls : ι → TryGetCall) (config : Config ι Db Outcome) :
    Prop where
  unique : config.shared.UniqueLogins
  stages : ∀ call,
    Stage (calls call) (Settled config.shared (calls call)) (config.threads call)

theorem Stage.mono {call : TryGetCall} {settled weaker : Outcome → Prop}
    {thread : Thread Db Outcome} (stage : Stage call settled thread)
    (weaken : ∀ outcome, settled outcome → weaker outcome) : Stage call weaker thread := by
  cases stage with
  | idle => exact .idle
  | started => exact .started
  | inserting authenticated => exact .inserting authenticated
  | finishing holds => exact .finishing (weaken _ holds)
  | returned holds => exact .returned (weaken _ holds)

theorem Stage.of_access {call : TryGetCall} {settled : Outcome → Prop}
    {effect : Db → Db} {rest : Db → Program Db Outcome}
    (stage : Stage call settled (.running (.access effect rest))) :
    ∃ login, call.login? = some login ∧
      ((effect = id ∧ rest = fun db =>
          afterLookup call.newUser login (db.findByAuthProviderId? login)) ∨
        Program.access effect rest =
          Program.atomically (insert call.newUser login)) := by
  generalize current : Thread.running (.access effect rest) = thread at stage
  cases stage with
  | idle => cases current
  | started =>
      cases authenticated : call.login? with
      | none =>
          rw [TryGetCall.program, run_tryGet_anonymous _ authenticated] at current
          cases current
      | some login =>
          rw [TryGetCall.program, run_tryGet_authenticated _ authenticated] at current
          cases current
          exact ⟨login, rfl, .inl ⟨rfl, rfl⟩⟩
  | inserting authenticated =>
      exact ⟨_, authenticated, .inr (Thread.running.inj current)⟩
  | finishing => cases current
  | returned => cases current

theorem Stage.of_done {call : TryGetCall} {settled : Outcome → Prop}
    {outcome : Outcome} (stage : Stage call settled (.running (.done outcome)))
    (anonymous : call.login? = none → settled (.ok none)) : settled outcome := by
  generalize current : Thread.running (.done outcome) = thread at stage
  cases stage with
  | idle => cases current
  | started =>
      cases authenticated : call.login? with
      | none =>
          rw [TryGetCall.program, run_tryGet_anonymous _ authenticated] at current
          cases current
          exact anonymous authenticated
      | some login =>
          rw [TryGetCall.program, run_tryGet_authenticated _ authenticated] at current
          cases current
  | inserting authenticated => cases current
  | finishing holds =>
      cases current
      exact holds
  | returned => cases current

theorem Grows.refl (db : Db) : Grows db db := ⟨rfl, fun _ member => member⟩

theorem Grows.trans {first second third : Db} (earlier : Grows first second)
    (later : Grows second third) : Grows first third :=
  ⟨later.collation.trans earlier.collation,
    fun user member => later.users user (earlier.users user member)⟩

theorem Registered.grow {before after : Db} {login : Utf16} {executor : Executor}
    (grows : Grows before after) (registered : Registered before login executor) :
    Registered after login executor := by
  obtain ⟨user, member, sameLogin, sameId⟩ := registered
  refine ⟨user, grows.users user member, ?_, sameId⟩
  rw [grows.collation]
  exact sameLogin

theorem Answers.grow {before after : Db} {login : Utf16} {outcome : Outcome}
    (grows : Grows before after) (answers : Answers before login outcome) :
    Answers after login outcome := by
  cases answers with
  | identified registered => exact .identified (registered.grow grows)
  | refused => exact .refused

theorem Settled.grow {before after : Db} {call : TryGetCall} {outcome : Outcome}
    (grows : Grows before after) (settled : Settled before call outcome) :
    Settled after call outcome :=
  ⟨settled.anonymous, fun login authenticated =>
    (settled.authenticated login authenticated).grow grows⟩

theorem Settled.of_anonymous {db : Db} {call : TryGetCall}
    (anonymous : call.login? = none) : Settled db call (.ok none) := by
  refine ⟨fun _ => rfl, ?_⟩
  intro login authenticated
  rw [anonymous] at authenticated
  cases authenticated

theorem Settled.of_answers {db : Db} {call : TryGetCall} {login : Utf16} {outcome : Outcome}
    (authenticated : call.login? = some login) (answers : Answers db login outcome) :
    Settled db call outcome := by
  refine ⟨?_, ?_⟩
  · intro anonymous
    rw [authenticated] at anonymous
    cases anonymous
  · intro other authenticatedOther
    obtain rfl := Option.some.inj (authenticated.symm.trans authenticatedOther)
    exact answers

theorem insert_settles {call : TryGetCall} {login : Utf16} {db : Db}
    (authenticated : call.login? = some login) (unique : db.UniqueLogins) :
    (insert call.newUser login db).2.UniqueLogins ∧
      Grows db (insert call.newUser login db).2 ∧
      Settled (insert call.newUser login db).2 call
        (insert call.newUser login db).1 := by
  rcases insert_cases call.newUser login db with
    ⟨constraint, refused⟩ | ⟨_, unknown, absent, inserted⟩
  · rw [refused]
    exact ⟨unique, .refl db, .of_answers authenticated .refused⟩
  · rw [inserted]
    refine ⟨unique.insert unknown absent, ⟨rfl, ?_⟩,
      .of_answers authenticated (.identified ?_)⟩
    · intro user member
      exact (Table.mem_insert absent).mpr (.inl member)
    · exact ⟨_, (Table.mem_insert absent).mpr (.inr rfl), rfl, rfl⟩

section Runs

variable {calls : ι → TryGetCall} {config next : Config ι Db Outcome}

theorem Provisioned.initial {start : Db} (unique : start.UniqueLogins) :
    Provisioned calls (.initial start) :=
  ⟨unique, fun _ => .idle⟩

theorem Provisioned.answers (provisioned : Provisioned calls config) {call : ι}
    {login : Utf16} {outcome : Outcome} (authenticated : (calls call).login? = some login)
    (returned : config.threads call = .returned outcome) :
    Answers config.shared login outcome := by
  have stage := provisioned.stages call
  rw [returned] at stage
  cases stage with
  | returned settled => exact settled.authenticated login authenticated

theorem Provisioned.registered (provisioned : Provisioned calls config) {call : ι}
    {login : Utf16} {executor : Executor}
    (authenticated : (calls call).login? = some login)
    (returned : config.threads call = .returned (.ok (some executor))) :
    Registered config.shared login executor := by
  cases provisioned.answers authenticated returned with
  | identified registered => exact registered

variable [DecidableEq ι]

theorem Provisioned.advance (provisioned : Provisioned calls config) {call : ι}
    {shared : Db} {thread : Thread Db Outcome} (unique : shared.UniqueLogins)
    (grows : Grows config.shared shared)
    (stage : Stage (calls call) (Settled shared (calls call)) thread) :
    Provisioned calls (config.advance call shared thread) where
  unique := unique
  stages other := by
    by_cases same : other = call
    · subst same
      simpa using stage
    · rw [Config.threads_advance_of_ne _ _ _ same]
      exact (provisioned.stages other).mono fun _ settled => settled.grow grows

theorem Provisioned.step {event : Event ι} (provisioned : Provisioned calls config)
    (step : Step (tryGets calls) config event next) :
    Provisioned calls next ∧ Grows config.shared next.shared := by
  cases step with
  | @invoke call idle =>
      exact ⟨provisioned.advance provisioned.unique (.refl _) .started, .refl _⟩
  | @respond call outcome running =>
      have stage := provisioned.stages call
      rw [running] at stage
      have settled : Settled config.shared (calls call) outcome :=
        stage.of_done .of_anonymous
      exact ⟨provisioned.advance provisioned.unique (.refl _) (.returned settled), .refl _⟩
  | @access call effect rest running =>
      have stage := provisioned.stages call
      rw [running] at stage
      obtain ⟨login, authenticated, ⟨rfl, rfl⟩ | inserts⟩ := stage.of_access
      · refine ⟨provisioned.advance provisioned.unique (.refl _) ?_, .refl _⟩
        dsimp only
        cases found : config.shared.findByAuthProviderId? login with
        | none => exact .inserting authenticated
        | some user =>
            obtain ⟨member, sameLogin⟩ := Db.findByAuthProviderId?_eq_some found
            exact .finishing (.of_answers authenticated
              (.identified ⟨user, member, sameLogin, rfl⟩))
      · cases inserts
        obtain ⟨unique, grows, settled⟩ :=
          insert_settles authenticated provisioned.unique
        exact ⟨provisioned.advance unique grows (.finishing settled), grows⟩

theorem Provisioned.run {trace : List (Event ι)} (provisioned : Provisioned calls config)
    (run : Run (tryGets calls) config trace next) :
    Provisioned calls next ∧ Grows config.shared next.shared := by
  refine run.invariant (fun later => Provisioned calls later ∧
    Grows config.shared later.shared) ⟨provisioned, .refl _⟩ ?_
  intro before event after step ⟨provisionedBefore, grown⟩
  obtain ⟨provisionedAfter, grows⟩ := provisionedBefore.step step
  exact ⟨provisionedAfter, grown.trans grows⟩

end Runs

/-! Two first requests of one login that both look it up before either inserts. -/

namespace FirstRequests

def login : Utf16 := Utf16.ofString "auth0|1"

def calls (call : Bool) : TryGetCall where
  newUser := ⟨if call then ⟨1, Guid.one_ne_empty⟩ else ⟨2, by decide⟩, fun _ => .minValue⟩
  principal := ⟨[⟨.nameIdentifier, login⟩]⟩

def afterFirst : Db := (insert (calls true).newUser login default).2

theorem authenticated (call : Bool) : (calls call).login? = some login := rfl

theorem program_eq (call : Bool) :
    tryGets calls call = .access id fun db =>
      afterLookup (calls call).newUser login (db.findByAuthProviderId? login) :=
  run_tryGet_authenticated _ (authenticated call)

theorem run : ∃ trace config, Run (tryGets calls) (.initial default) trace config ∧
    (∀ call rest, config.threads call ≠ .running rest) ∧
    config.threads true = .returned (insert (calls true).newUser login default).1 ∧
    config.threads false = .returned (insert (calls false).newUser login afterFirst).1 := by
  have looksUp := fun call => congrArg Thread.running (program_eq call)
  refine ⟨[] ++ [.invoke true] ++ [.invoke false] ++ [.access true] ++ [.access false] ++
    [.access true] ++ [.access false] ++ [.respond true] ++ [.respond false], _,
    .snoc (.snoc (.snoc (.snoc (.snoc (.snoc (.snoc (.snoc .nil (.invoke rfl))
      (.invoke rfl)) (.access (looksUp true))) (.access (looksUp false)))
      (.access rfl)) (.access rfl)) (.respond rfl)) (.respond rfl), ?_, rfl, rfl⟩
  intro call rest
  cases call with
  | true => nofun
  | false => nofun

theorem insert_second : (insert (calls false).newUser login afterFirst).1 =
    .error (.dbUpdate (.uniqueIndex "IX_User_AuthProviderId")) := by
  decide

end FirstRequests

section Agreement

variable {calls : ι → TryGetCall} {config next : Config ι Db Outcome} [DecidableEq ι]

end Agreement

end SecretServer.Services
