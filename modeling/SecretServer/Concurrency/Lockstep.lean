import SecretServer.Concurrency.Interleaving

namespace SecretServer.Concurrency

/-! Two programs that go access by access, each on a state of its own.  What relates the
states after one access relates them before the next, whoever made it. -/

variable {ι σ τ α β γ δ : Type}

inductive Lockstep (relates : σ → τ → Prop) (agree : α → β → Prop) :
    Program σ α → Program τ β → Prop
  | done {result : α} {other : β} (agrees : agree result other) :
      Lockstep relates agree (.done result) (.done other)
  | access {effect : σ → σ} {otherEffect : τ → τ} {next : σ → Program σ α}
      {otherNext : τ → Program τ β}
      (keeps : ∀ state other, relates state other →
        relates (effect state) (otherEffect other))
      (continues : ∀ state other, relates state other →
        Lockstep relates agree (next state) (otherNext other)) :
      Lockstep relates agree (.access effect next) (.access otherEffect otherNext)

namespace Lockstep

variable {relates : σ → τ → Prop} {agree : α → β → Prop}

theorem bind {last : γ → δ → Prop} {program : Program σ α} {other : Program τ β}
    {rest : α → Program σ γ} {otherRest : β → Program τ δ}
    (first : Lockstep relates agree program other)
    (second : ∀ result otherResult, agree result otherResult →
      Lockstep relates last (rest result) (otherRest otherResult)) :
    Lockstep relates last (program >>= rest) (other >>= otherRest) := by
  induction first with
  | done agrees => exact second _ _ agrees
  | access keeps _ induction =>
      rw [Program.access_bind, Program.access_bind]
      exact .access keeps induction

theorem weaken {weaker : α → β → Prop} {program : Program σ α} {other : Program τ β}
    (lockstep : Lockstep relates agree program other)
    (implies : ∀ result otherResult, agree result otherResult → weaker result otherResult) :
    Lockstep relates weaker program other := by
  induction lockstep with
  | done agrees => exact .done (implies _ _ agrees)
  | access keeps _ induction => exact .access keeps induction

theorem map {last : γ → δ → Prop} {program : Program σ α} {other : Program τ β}
    {change : α → γ} {otherChange : β → δ}
    (lockstep : Lockstep relates
      (fun result otherResult => last (change result) (otherChange otherResult)) program
      other) :
    Lockstep relates last (change <$> program) (otherChange <$> other) := by
  rw [map_eq_pure_bind, map_eq_pure_bind]
  apply lockstep.bind
  intro result otherResult agrees
  exact .done agrees

theorem atomically {step : σ → α × σ} {otherStep : τ → β × τ}
    (keeps : ∀ state other, relates state other →
      agree (step state).1 (otherStep other).1 ∧
        relates (step state).2 (otherStep other).2) :
    Lockstep relates agree (Program.atomically step) (Program.atomically otherStep) := by
  apply Lockstep.access
  · intro state other related
    exact (keeps state other related).2
  · intro state other related
    exact .done (keeps state other related).1

end Lockstep

inductive Abreast (relates : σ → τ → Prop) (agree : α → β → Prop) :
    Thread σ α → Thread τ β → Prop
  | idle : Abreast relates agree .idle .idle
  | running {rest : Program σ α} {otherRest : Program τ β}
      (lockstep : Lockstep relates agree rest otherRest) :
      Abreast relates agree (.running rest) (.running otherRest)
  | returned {result : α} {other : β} (agrees : agree result other) :
      Abreast relates agree (.returned result) (.returned other)

structure InLockstep (relates : σ → τ → Prop) (agree : α → β → Prop)
    (config : Config ι σ α) (other : Config ι τ β) : Prop where
  shared : relates config.shared other.shared
  threads : ∀ call, Abreast relates agree (config.threads call) (other.threads call)

theorem InLockstep.returned_iff {config other : Config ι σ α} {relates : σ → σ → Prop}
    (abreast : InLockstep relates Eq config other) (call : ι) (result : α) :
    config.threads call = .returned result ↔ other.threads call = .returned result := by
  have threads := abreast.threads call
  generalize config.threads call = thread at threads ⊢
  generalize other.threads call = otherThread at threads ⊢
  cases threads with
  | idle => exact ⟨nofun, nofun⟩
  | running => exact ⟨nofun, nofun⟩
  | returned agrees => rw [agrees]

section Runs

variable [DecidableEq ι] {relates : σ → τ → Prop} {agree : α → β → Prop}
  {calls : ι → Program σ α} {otherCalls : ι → Program τ β} {config next : Config ι σ α}
  {other : Config ι τ β} {event : Event ι}

theorem InLockstep.advance (abreast : InLockstep relates agree config other) (call : ι)
    {shared : σ} {otherShared : τ} {thread : Thread σ α} {otherThread : Thread τ β}
    (sharedRelated : relates shared otherShared)
    (threadAbreast : Abreast relates agree thread otherThread) :
    InLockstep relates agree (config.advance call shared thread)
      (other.advance call otherShared otherThread) where
  shared := sharedRelated
  threads each := by
    by_cases same : each = call
    · subst same
      rw [Config.threads_advance_self, Config.threads_advance_self]
      exact threadAbreast
    · rw [Config.threads_advance_of_ne _ _ _ same, Config.threads_advance_of_ne _ _ _ same]
      exact abreast.threads each

theorem InLockstep.step
    (lockstep : ∀ call, Lockstep relates agree (calls call) (otherCalls call))
    (abreast : InLockstep relates agree config other) (step : Step calls config event next) :
    ∃ otherNext, Step otherCalls other event otherNext ∧
      InLockstep relates agree next otherNext := by
  cases step with
  | @invoke call idle =>
      have threads := abreast.threads call
      rw [idle] at threads
      generalize started : other.threads call = thread at threads
      cases threads with
      | idle =>
          exact ⟨_, .invoke started, abreast.advance call abreast.shared
            (.running (lockstep call))⟩
  | @access call effect rest running =>
      have threads := abreast.threads call
      rw [running] at threads
      generalize started : other.threads call = thread at threads
      cases threads with
      | running lockstep =>
          cases lockstep with
          | access keeps continues =>
              exact ⟨_, .access started, abreast.advance call
                (keeps _ _ abreast.shared) (.running (continues _ _ abreast.shared))⟩
  | @respond call result running =>
      have threads := abreast.threads call
      rw [running] at threads
      generalize started : other.threads call = thread at threads
      cases threads with
      | running lockstep =>
          cases lockstep with
          | done agrees =>
              exact ⟨_, .respond started, abreast.advance call abreast.shared
                (.returned agrees)⟩

/-- The other calls can follow any run, event by event. -/
theorem Run.follow
    (lockstep : ∀ call, Lockstep relates agree (calls call) (otherCalls call))
    {start : σ} {otherStart : τ} (related : relates start otherStart)
    {trace : List (Event ι)} (run : Run calls (.initial start) trace config) :
    ∃ other, Run otherCalls (.initial otherStart) trace other ∧
      InLockstep relates agree config other := by
  induction run with
  | nil => exact ⟨_, .nil, related, fun _ => .idle⟩
  | snoc _ step induction =>
      obtain ⟨other, follows, abreast⟩ := induction
      obtain ⟨next, last, nextAbreast⟩ := abreast.step lockstep step
      exact ⟨next, .snoc follows last, nextAbreast⟩

end Runs

end SecretServer.Concurrency
