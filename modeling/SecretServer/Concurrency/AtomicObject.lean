import SecretServer.Concurrency.RelyGuarantee

namespace SecretServer.Concurrency

/-! Overlapping calls that implement an atomic object.  Each call takes effect on the
object at one moment between its invocation and its return, with the outcome that it
returns; the object's specification may leave several outcomes open. -/

abbrev ObjectSpec (ι τ β : Type) := ι → τ → β → τ → Prop

inductive Replays {ι τ β : Type} (spec : ObjectSpec ι τ β) (start : τ) :
    List (ι × β) → τ → Prop
  | nil : Replays spec start [] start
  | snoc {log : List (ι × β)} {object next : τ} {call : ι} {outcome : β}
      (replays : Replays spec start log object) (step : spec call object outcome next) :
      Replays spec start (log ++ [(call, outcome)]) next

section

variable {ι σ τ α β : Type}

/-- The log is a history of the object that explains a run: every call that was invoked
is in it once, with the outcome that it returned, and no call stands before one that had
returned when it was invoked. -/
structure Implements (spec : ObjectSpec ι τ β) (view : α → β)
    (shows : σ → τ → Prop) (start : τ) (trace : List (Event ι)) (config : Config ι σ α)
    (log : List (ι × β)) : Prop where
  once : (log.map Prod.fst).Nodup
  final : ∃ object, Replays spec start log object ∧ shows config.shared object
  invoked : ∀ call, call ∈ log.map Prod.fst ↔ config.threads call ≠ .idle
  outcome : ∀ call outcome, (call, outcome) ∈ log →
    ∃ result, config.threads call = .returned result ∧ view result = outcome
  precedes : ∀ first second, Precedes trace first second →
    [first, second].Sublist (log.map Prod.fst)

/-- The shared state beside the object that it implements, and the calls that have taken
effect on it. -/
structure Account (ι σ τ β : Type) where
  log : List (ι × β)
  object : τ
  shared : σ

namespace Account

def Pending (call : ι) (account : Account ι σ τ β) : Prop :=
  call ∉ account.log.map Prod.fst

def Committed (call : ι) (outcome : β) (account : Account ι σ τ β) : Prop :=
  (call, outcome) ∈ account.log

def commit (account : Account ι σ τ β) (call : ι) (outcome : β) (object : τ)
    (shared : σ) : Account ι σ τ β :=
  ⟨account.log ++ [(call, outcome)], object, shared⟩

def silent (account : Account ι σ τ β) (shared : σ) : Account ι σ τ β :=
  { account with shared }

/-- A call takes effect at most once. -/
inductive Records (spec : ObjectSpec ι τ β) (call : ι) (before : Account ι σ τ β) :
    Account ι σ τ β → Prop
  | silent (shared : σ) : Records spec call before (before.silent shared)
  | commit {outcome : β} {object : τ} {shared : σ} (pending : before.Pending call)
      (step : spec call before.object outcome object) :
      Records spec call before (before.commit call outcome object shared)

variable {spec : ObjectSpec ι τ β} {call other : ι} {before after : Account ι σ τ β}

theorem committed_commit (account : Account ι σ τ β) (call : ι) (outcome : β)
    (object : τ) (shared : σ) :
    (account.commit call outcome object shared).Committed call outcome :=
  List.mem_append_right _ (List.mem_singleton.mpr rfl)

theorem Records.mem (records : Records spec call before after) {entry : ι × β}
    (member : entry ∈ before.log) : entry ∈ after.log := by
  cases records with
  | silent shared => exact member
  | commit pending step => exact List.mem_append_left _ member

theorem Records.mem_callers (records : Records spec call before after)
    (member : other ∈ before.log.map Prod.fst) : other ∈ after.log.map Prod.fst := by
  obtain ⟨entry, logged, rfl⟩ := List.mem_map.mp member
  exact List.mem_map_of_mem (records.mem logged)

theorem Records.pending (records : Records spec call before after) (differs : call ≠ other)
    (pending : before.Pending other) : after.Pending other := by
  cases records with
  | silent shared => exact pending
  | commit =>
      unfold Pending Account.commit
      rw [List.map_append, List.mem_append, not_or]
      refine ⟨pending, fun last => differs ?_⟩
      exact (List.mem_singleton.mp last).symm

theorem Records.nodup (records : Records spec call before after)
    (nodup : (before.log.map Prod.fst).Nodup) : (after.log.map Prod.fst).Nodup := by
  cases records with
  | silent shared => exact nodup
  | commit pending step =>
      unfold Account.commit
      rw [List.map_append, List.nodup_append]
      refine ⟨nodup, List.nodup_singleton _, ?_⟩
      intro member inLog last inLast same
      have own : member = call := same.trans (List.mem_singleton.mp inLast)
      exact pending (own ▸ inLog)

theorem Records.precedes {first second : ι} (records : Records spec call before after)
    (earlier : first ∈ before.log.map Prod.fst)
    (ordered : second ∈ before.log.map Prod.fst →
      [first, second].Sublist (before.log.map Prod.fst))
    (member : second ∈ after.log.map Prod.fst) :
    [first, second].Sublist (after.log.map Prod.fst) := by
  cases records with
  | silent shared => exact ordered member
  | commit pending step =>
      unfold Account.commit at member ⊢
      rw [List.map_append] at member ⊢
      rcases List.mem_append.mp member with old | now
      · exact (ordered old).trans (List.sublist_append_left _ _)
      · exact pair_sublist_concat.mpr (.inr ⟨List.mem_singleton.mp now, earlier⟩)

theorem Records.replays {start : τ} (records : Records spec call before after)
    (replays : Replays spec start before.log before.object) :
    Replays spec start after.log after.object := by
  cases records with
  | silent shared => exact replays
  | commit pending step => exact .snoc replays step

end Account

end

/-! A discipline for the calls of an object. -/

/-- The invariant of the accounts, and what a call may do to them besides taking effect. -/
structure ObjectDiscipline (ι σ τ β : Type) where
  spec : ObjectSpec ι τ β
  invariant : Account ι σ τ β → Prop
  interference : ι → Account ι σ τ β → Account ι σ τ β → Prop

namespace ObjectDiscipline

open Account

variable {ι σ τ α β : Type} (object : ObjectDiscipline ι σ τ β)

def discipline : Discipline ι (Account ι σ τ β) σ where
  shared := Account.shared
  invariant := object.invariant
  guarantee call before after :=
    Records object.spec call before after ∧ object.interference call before after

theorem committed_stable (call : ι) (outcome : β) :
    object.discipline.Stable call (Account.Committed call outcome) := by
  intro other before after _ _ guarantee committed
  exact guarantee.1.mem committed

/-- The call has taken effect with this outcome, or can do so by returning it. -/
def Settles (call : ι) (outcome : β) (account : Account ι σ τ β) : Prop :=
  account.Committed call outcome ∨
    (account.Pending call ∧
      object.spec call account.object outcome account.object)

/-- Returning changes nothing but the log. -/
structure Returning : Prop where
  invariant : ∀ account call outcome, object.invariant account →
    object.invariant (account.commit call outcome account.object account.shared)
  interference : ∀ account call outcome, object.invariant account →
    object.interference call account
      (account.commit call outcome account.object account.shared) ∧
    object.interference call account account

variable {object} {view : α → β} {calls : ι → Program σ α}
  {pre : ι → Account ι σ τ β → Prop}

def outline (returning : object.Returning)
    (stable : ∀ call, object.discipline.Stable call (pre call))
    (meets : ∀ call, object.discipline.Meets call
      (fun result => object.Settles call (view result)) (calls call) (pre call)) :
    Outline object.discipline calls where
  pre := pre
  post call result := object.Settles call (view result)
  kept call result := Account.Committed call (view result)
  pre_stable := stable
  kept_stable call result := object.committed_stable call (view result)
  meets := meets
  finish call result account invariant settles := by
    rcases settles with committed | ⟨pending, step⟩
    · exact ⟨account, ⟨rfl, invariant, .silent account.shared,
        (returning.interference account call (view result) invariant).2⟩, committed⟩
    · exact ⟨account.commit call (view result) account.object account.shared,
        ⟨rfl, returning.invariant account call (view result) invariant,
          .commit pending step,
          (returning.interference account call (view result) invariant).1⟩,
        account.committed_commit call (view result) account.object account.shared⟩

/-- What is known of a run and its account so far. -/
structure Explained (outline : Outline object.discipline calls) (start : τ)
    (trace : List (Event ι)) (config : Config ι σ α) (account : Account ι σ τ β) :
    Prop where
  tracks : outline.Tracks account config
  once : (account.log.map Prod.fst).Nodup
  replays : Replays object.spec start account.log account.object
  precedes : ∀ first second, Precedes trace first second →
    second ∈ account.log.map Prod.fst → [first, second].Sublist (account.log.map Prod.fst)

variable [DecidableEq ι]

theorem explained (returning : object.Returning)
    (stable : ∀ call, object.discipline.Stable call (pre call))
    (meets : ∀ call, object.discipline.Meets call
      (fun result => object.Settles call (view result)) (calls call) (pre call))
    (pre_pending : ∀ call account, pre call account → account.Pending call)
    {first : σ} {start : τ} (invariant : object.invariant ⟨[], start, first⟩)
    (ready : ∀ call, pre call ⟨[], start, first⟩) {trace : List (Event ι)}
    {config : Config ι σ α} (run : Run calls (.initial first) trace config) :
    ∃ account, Explained (outline returning stable meets) start trace config account := by
  induction run with
  | nil =>
      refine ⟨⟨[], start, first⟩, .initial rfl invariant ready, List.nodup_nil, .nil, ?_⟩
      intro _ _ _ member
      cases member
  | @snoc trace config next event run step induction =>
      obtain ⟨before, explained⟩ := induction
      obtain ⟨after, tracks, advances⟩ := explained.tracks.step step
      refine ⟨after, ?_⟩
      cases advances with
      | @invoked call same =>
          refine ⟨tracks, explained.once, explained.replays, ?_⟩
          intro first second earlier member
          rcases pair_sublist_concat.mp earlier with before | ⟨invoked, _⟩
          · exact explained.precedes first second before member
          · -- a call that is invoked has not taken effect yet
            cases step with
            | invoke idle =>
                have pending := pre_pending _ _ (explained.tracks.pre idle)
                cases invoked
                exact absurd member pending
            | access => cases same
            | respond => cases same
      | @moved call _ notInvoked guarantee =>
          have records := guarantee.1
          refine ⟨tracks, records.nodup explained.once, records.replays explained.replays, ?_⟩
          intro first second earlier
          have precedes : Precedes trace first second := by
            rcases pair_sublist_concat.mp earlier with before | ⟨invoked, _⟩
            · exact before
            · exact absurd invoked.symm (notInvoked second)
          -- the first call has returned, so it took effect before this step
          have responded : Event.respond first ∈ trace := precedes.subset List.mem_cons_self
          obtain ⟨result, returned⟩ := run.returned_of_respond responded
          exact records.precedes (List.mem_map_of_mem (explained.tracks.kept returned))
            (explained.precedes first second precedes)

/-- A run in which no call is left half done has a history of the object that explains
it. -/
theorem Explained.implements {returning : object.Returning}
    {stable : ∀ call, object.discipline.Stable call (pre call)}
    {meets : ∀ call, object.discipline.Meets call
      (fun result => object.Settles call (view result)) (calls call) (pre call)}
    (pre_pending : ∀ call account, pre call account → account.Pending call)
    {shows : σ → τ → Prop}
    (shown : ∀ account, object.invariant account → shows account.shared account.object)
    {first : σ} {start : τ} {trace : List (Event ι)} {config : Config ι σ α}
    {account : Account ι σ τ β}
    (explained : Explained (outline returning stable meets) start trace config account)
    (run : Run calls (.initial first) trace config)
    (complete : ∀ call rest, config.threads call ≠ .running rest) :
    Implements object.spec view shows start trace config account.log := by
  have tracks := explained.tracks
  have invoked : ∀ call, call ∈ account.log.map Prod.fst ↔ config.threads call ≠ .idle := by
    intro call
    constructor
    · intro member idle
      exact pre_pending call account (tracks.pre idle) member
    · intro busy
      cases thread : config.threads call with
      | idle => exact absurd thread busy
      | running rest => exact absurd thread (complete call rest)
      | returned result => exact List.mem_map_of_mem (tracks.kept thread)
  refine ⟨explained.once, ⟨account.object, explained.replays, ?_⟩, invoked, ?_, ?_⟩
  · have holds := shown account tracks.invariant
    rwa [show account.shared = config.shared from tracks.shared] at holds
  · intro call outcome logged
    cases thread : config.threads call with
    | idle => exact absurd thread ((invoked call).mp (List.mem_map_of_mem logged))
    | running rest => exact absurd thread (complete call rest)
    | returned result =>
        have committed := tracks.kept thread
        have same := List.inj_on_of_nodup_map explained.once committed logged rfl
        exact ⟨result, rfl, congrArg Prod.snd same⟩
  · intro first second earlier
    apply explained.precedes first second earlier
    rw [invoked]
    intro idle
    exact run.idle_of_not_invoked idle
      (earlier.subset (List.mem_cons_of_mem _ List.mem_cons_self))

end ObjectDiscipline

end SecretServer.Concurrency
