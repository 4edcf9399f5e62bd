import SecretServer.Concurrency.Program
import Mathlib.Data.List.Basic

namespace SecretServer.Concurrency

/-! Any number of calls over one shared state, overlapping in any way: at each
step one call is invoked, makes its next access, or returns its result. -/

inductive Thread (σ α : Type) where
  | idle
  | running (rest : Program σ α)
  | returned (result : α)

structure Config (ι σ α : Type) where
  shared : σ
  threads : ι → Thread σ α

inductive Event (ι : Type) where
  | invoke (call : ι)
  | access (call : ι)
  | respond (call : ι)
  deriving DecidableEq

variable {ι σ α : Type}

def Precedes (trace : List (Event ι)) (first second : ι) : Prop :=
  [Event.respond first, Event.invoke second].Sublist trace

theorem pair_sublist_concat {γ : Type} {first second last : γ} {list : List γ} :
    [first, second].Sublist (list ++ [last]) ↔
      [first, second].Sublist list ∨ (second = last ∧ first ∈ list) := by
  constructor
  · intro sublist
    obtain ⟨left, right, split, leftSub, rightSub⟩ :=
      List.sublist_append_iff.mp sublist
    rcases List.sublist_singleton.mp rightSub with rfl | rfl
    · rw [List.append_nil] at split
      exact .inl (split ▸ leftSub)
    · obtain ⟨rfl, lastEqual⟩ : [first] = left ∧ second = last := by
        have parts := List.append_inj'
          (show [first] ++ [second] = left ++ [last] from split) rfl
        exact ⟨parts.1, List.singleton_inj.mp parts.2⟩
      exact .inr ⟨lastEqual, List.singleton_sublist.mp leftSub⟩
  · intro ordered
    rcases ordered with sublist | ⟨rfl, member⟩
    · exact sublist.trans (List.sublist_append_left _ _)
    · exact (List.singleton_sublist.mpr member).append (List.Sublist.refl [second])

def Config.initial (start : σ) : Config ι σ α := ⟨start, fun _ => .idle⟩

variable [DecidableEq ι]

namespace Config

def advance (config : Config ι σ α) (call : ι) (shared : σ)
    (thread : Thread σ α) : Config ι σ α :=
  ⟨shared, Function.update config.threads call thread⟩

@[simp] theorem shared_advance (config : Config ι σ α) (call : ι) (shared : σ)
    (thread : Thread σ α) : (config.advance call shared thread).shared = shared :=
  rfl

@[simp] theorem threads_advance_self (config : Config ι σ α) (call : ι)
    (shared : σ) (thread : Thread σ α) :
    (config.advance call shared thread).threads call = thread := by
  simp [advance]

theorem threads_advance_of_ne (config : Config ι σ α) {call other : ι}
    (shared : σ) (thread : Thread σ α) (differs : other ≠ call) :
    (config.advance call shared thread).threads other = config.threads other := by
  simp [advance, differs]

end Config

inductive Step (calls : ι → Program σ α) :
    Config ι σ α → Event ι → Config ι σ α → Prop
  | invoke {config : Config ι σ α} {call : ι}
      (idle : config.threads call = .idle) :
      Step calls config (.invoke call)
        (config.advance call config.shared (.running (calls call)))
  | access {config : Config ι σ α} {call : ι} {effect : σ → σ}
      {next : σ → Program σ α}
      (running : config.threads call = .running (.access effect next)) :
      Step calls config (.access call)
        (config.advance call (effect config.shared)
          (.running (next config.shared)))
  | respond {config : Config ι σ α} {call : ι} {result : α}
      (running : config.threads call = .running (.done result)) :
      Step calls config (.respond call)
        (config.advance call config.shared (.returned result))

inductive Run (calls : ι → Program σ α) (start : Config ι σ α) :
    List (Event ι) → Config ι σ α → Prop
  | nil : Run calls start [] start
  | snoc {trace : List (Event ι)} {config next : Config ι σ α} {event : Event ι}
      (run : Run calls start trace config) (step : Step calls config event next) :
      Run calls start (trace ++ [event]) next

/-- A run all of whose steps meet a condition on the configuration they start from. -/
inductive RunWhere (calls : ι → Program σ α)
    (condition : Config ι σ α → Event ι → Prop) (start : Config ι σ α) :
    List (Event ι) → Config ι σ α → Prop
  | nil : RunWhere calls condition start [] start
  | snoc {trace : List (Event ι)} {config next : Config ι σ α} {event : Event ι}
      (run : RunWhere calls condition start trace config)
      (holds : condition config event) (step : Step calls config event next) :
      RunWhere calls condition start (trace ++ [event]) next

namespace Step

variable {calls : ι → Program σ α} {config next : Config ι σ α} {event : Event ι}

theorem returned_stays {call : ι} {result : α} (step : Step calls config event next)
    (returned : config.threads call = .returned result) :
    next.threads call = .returned result := by
  cases step with
  | @invoke other idle =>
      rw [Config.threads_advance_of_ne _ _ _ (by rintro rfl; simp [idle] at returned)]
      exact returned
  | @access other effect rest running =>
      rw [Config.threads_advance_of_ne _ _ _ (by rintro rfl; simp [running] at returned)]
      exact returned
  | @respond other value running =>
      rw [Config.threads_advance_of_ne _ _ _ (by rintro rfl; simp [running] at returned)]
      exact returned

end Step

namespace Run

variable {calls : ι → Program σ α} {start config : Config ι σ α}
  {trace : List (Event ι)}

theorem invariant (holds : Config ι σ α → Prop) (run : Run calls start trace config)
    (initial : holds start)
    (step : ∀ {config event next}, Step calls config event next → holds config →
      holds next) : holds config := by
  induction run with
  | nil => exact initial
  | snoc _ last induction => exact step last induction

theorem returned_of_respond {shared : σ} {call : ι}
    (run : Run calls (.initial shared) trace config)
    (responded : .respond call ∈ trace) :
    ∃ result, config.threads call = .returned result := by
  induction run with
  | nil => simp at responded
  | snoc _ last induction =>
      rcases List.mem_append.mp responded with earlier | now
      · obtain ⟨result, returned⟩ := induction earlier
        exact ⟨result, last.returned_stays returned⟩
      · cases last with
        | respond running =>
            obtain rfl := Event.respond.inj (List.mem_singleton.mp now)
            exact ⟨_, Config.threads_advance_self _ _ _ _⟩
        | invoke => cases List.mem_singleton.mp now
        | access => cases List.mem_singleton.mp now

theorem idle_of_not_invoked {shared : σ} {call : ι}
    (run : Run calls (.initial shared) trace config)
    (idle : config.threads call = .idle) : .invoke call ∉ trace := by
  induction run with
  | nil => simp
  | @snoc trace config next event _ last induction =>
      intro invoked
      have before : config.threads call = .idle ∧ event ≠ .invoke call := by
        cases last with
        | @invoke other idleOther =>
            by_cases same : call = other
            · subst same
              simp at idle
            · rw [Config.threads_advance_of_ne _ _ _ same] at idle
              exact ⟨idle, fun equal => same (Event.invoke.inj equal).symm⟩
        | @access other effect rest running =>
            by_cases same : call = other
            · subst same
              simp at idle
            · rw [Config.threads_advance_of_ne _ _ _ same] at idle
              exact ⟨idle, by simp⟩
        | @respond other value running =>
            by_cases same : call = other
            · subst same
              simp at idle
            · rw [Config.threads_advance_of_ne _ _ _ same] at idle
              exact ⟨idle, by simp⟩
      rcases List.mem_append.mp invoked with earlier | now
      · exact induction before.1 earlier
      · exact before.2 (List.mem_singleton.mp now).symm

/-- A call that has been invoked may run on to its end undisturbed. -/
theorem finish (call : ι) {program : Program σ α} (run : Run calls start trace config)
    (running : config.threads call = .running program) :
    ∃ later, Run calls start later (config.advance call (program.run config.shared).2
      (.returned (program.run config.shared).1)) := by
  induction program generalizing trace config with
  | done result => exact ⟨_, .snoc run (.respond running)⟩
  | access effect next induction =>
      obtain ⟨later, finished⟩ := induction config.shared
        (.snoc run (.access running)) (Config.threads_advance_self _ _ _ _)
      refine ⟨later, ?_⟩
      simpa only [Config.advance, Function.update_idem, Program.run_access] using finished

end Run

theorem RunWhere.invariant {calls : ι → Program σ α} {start config : Config ι σ α}
    {condition : Config ι σ α → Event ι → Prop} {trace : List (Event ι)}
    (holds : Config ι σ α → Prop) (run : RunWhere calls condition start trace config)
    (initial : holds start)
    (step : ∀ {config event next}, Step calls config event next →
      condition config event → holds config → holds next) : holds config := by
  induction run with
  | nil => exact initial
  | snoc _ meets last induction => exact step last meets induction

end SecretServer.Concurrency
