import Mathlib.Data.List.Forall2
import Mathlib.Data.List.Induction
import Mathlib.Data.List.Nodup

namespace SecretServer.Concurrency

/-! Programs over a shared state, cut into their atomic accesses.  What lies
between two accesses is pure and is part of the continuation. -/

inductive Program (σ α : Type) where
  | done (result : α)
  | access (effect : σ → σ) (next : σ → Program σ α)

namespace Program

variable {σ α β : Type}

def bind : Program σ α → (α → Program σ β) → Program σ β
  | .done result, rest => rest result
  | .access effect next, rest => .access effect fun state => (next state).bind rest

instance : Monad (Program σ) where
  pure := .done
  bind := bind

/-- One atomic access that reads and writes the state at once. -/
def atomically (step : σ → α × σ) : Program σ α :=
  .access (fun state => (step state).2) fun state => .done (step state).1

def run : Program σ α → σ → α × σ
  | .done result, state => (result, state)
  | .access effect next, state => (next state).run (effect state)

@[simp] theorem access_bind (effect : σ → σ) (next : σ → Program σ α)
    (rest : α → Program σ β) :
    (Program.access effect next >>= rest) =
      .access effect fun state => next state >>= rest := rfl

@[simp] theorem run_done (result : α) (state : σ) :
    (Program.done result).run state = (result, state) := rfl

@[simp] theorem run_access (effect : σ → σ) (next : σ → Program σ α) (state : σ) :
    (Program.access effect next).run state = (next state).run (effect state) := rfl

@[simp] theorem run_atomically (step : σ → α × σ) (state : σ) :
    (atomically step).run state = step state := rfl

@[simp] theorem run_bind (program : Program σ α) (rest : α → Program σ β)
    (state : σ) :
    (program >>= rest).run state =
      (rest (program.run state).1).run (program.run state).2 := by
  induction program generalizing state with
  | done result => rfl
  | access effect next induction => exact induction state (effect state)

theorem bind_done (program : Program σ α) :
    (program >>= fun result => .done result) = program := by
  induction program with
  | done result => rfl
  | access effect next induction =>
      rw [access_bind]
      congr 1
      funext state
      exact induction state

theorem bind_assoc {γ : Type} (program : Program σ α) (first : α → Program σ β)
    (second : β → Program σ γ) :
    (program >>= first >>= second) =
      (program >>= fun result => first result >>= second) := by
  induction program with
  | done result => rfl
  | access effect next induction =>
      simp only [access_bind]
      congr 1
      funext state
      exact induction state

instance : LawfulMonad (Program σ) :=
  LawfulMonad.mk' (Program σ) bind_done (fun _ _ => rfl) bind_assoc

end Program

section Histories

variable {ι σ α : Type} (calls : ι → Program σ α)

/-- Run calls one after another: each call's result, and the state at the end. -/
def runAll : List ι → σ → List (ι × α) × σ
  | [], state => ([], state)
  | call :: rest, state =>
      ((call, ((calls call).run state).1) ::
        (runAll rest ((calls call).run state).2).1,
        (runAll rest ((calls call).run state).2).2)

theorem runAll_append (first second : List ι) (state : σ) :
    runAll calls (first ++ second) state =
      ((runAll calls first state).1 ++
          (runAll calls second (runAll calls first state).2).1,
        (runAll calls second (runAll calls first state).2).2) := by
  induction first generalizing state with
  | nil => rfl
  | cons call rest induction => simp [runAll, induction]

theorem runAll_concat (first : List ι) (call : ι) (state : σ) :
    runAll calls (first ++ [call]) state =
      ((runAll calls first state).1 ++
          [(call, ((calls call).run (runAll calls first state).2).1)],
        ((calls call).run (runAll calls first state).2).2) := by
  rw [runAll_append]
  rfl

theorem map_fst_runAll (order : List ι) (state : σ) :
    (runAll calls order state).1.map Prod.fst = order := by
  induction order generalizing state with
  | nil => rfl
  | cons call rest induction => simp [runAll, induction]

theorem runAll_result_unique {order : List ι} {state : σ} {call : ι}
    {first second : α} (nodup : order.Nodup)
    (firstLogged : (call, first) ∈ (runAll calls order state).1)
    (secondLogged : (call, second) ∈ (runAll calls order state).1) :
    first = second := by
  have keys : ((runAll calls order state).1.map Prod.fst).Nodup := by
    rwa [map_fst_runAll]
  have equal := List.inj_on_of_nodup_map keys firstLogged secondLogged rfl
  exact congrArg Prod.snd equal

theorem runAll_invariant (holds : List (ι × α) → σ → Prop) {start : σ}
    (initial : holds [] start)
    (step : ∀ log state call, holds log state →
      holds (log ++ [(call, ((calls call).run state).1)]) ((calls call).run state).2)
    (order : List ι) :
    holds (runAll calls order start).1 (runAll calls order start).2 := by
  induction order using List.reverseRecOn with
  | nil => exact initial
  | append_singleton first call induction =>
      rw [runAll_concat]
      exact step _ _ call induction

theorem runAll_invariant_of_nodup (holds : List (ι × α) → σ → Prop) {start : σ}
    (initial : holds [] start)
    (step : ∀ log state call, call ∉ log.map Prod.fst → holds log state →
      holds (log ++ [(call, ((calls call).run state).1)]) ((calls call).run state).2)
    {order : List ι} (nodup : order.Nodup) :
    holds (runAll calls order start).1 (runAll calls order start).2 := by
  induction order using List.reverseRecOn with
  | nil => exact initial
  | append_singleton first call induction =>
      obtain ⟨firstNodup, _, disjoint⟩ := List.nodup_append.mp nodup
      rw [runAll_concat]
      apply step _ _ call
      · rw [map_fst_runAll]
        exact fun member => disjoint call member call List.mem_cons_self rfl
      · exact induction firstNodup

end Histories

section Simulation

variable {ι κ σ τ α β : Type} {relates : σ → τ → Prop} {agree : α → β → Prop}

/-- From related states, the two programs have agreeing results and end in related
states. -/
def Simulates (relates : σ → τ → Prop) (agree : α → β → Prop) (first : Program σ α)
    (second : Program τ β) : Prop :=
  ∀ state other, relates state other →
    agree (first.run state).1 (second.run other).1 ∧
      relates (first.run state).2 (second.run other).2

theorem runAll_simulation {first : ι → Program σ α} {second : κ → Program τ β}
    {calls : List ι} {others : List κ}
    (simulates : List.Forall₂ (fun call other =>
      Simulates relates agree (first call) (second other)) calls others)
    {state : σ} {other : τ} (related : relates state other) :
    List.Forall₂ (fun entry otherEntry => agree entry.2 otherEntry.2)
        (runAll first calls state).1 (runAll second others other).1 ∧
      relates (runAll first calls state).2 (runAll second others other).2 := by
  induction simulates generalizing state other with
  | nil => exact ⟨.nil, related⟩
  | cons head _ induction =>
      obtain ⟨agrees, next⟩ := head state other related
      obtain ⟨rest, final⟩ := induction next
      exact ⟨.cons agrees rest, final⟩

theorem runAll_eq_of_simulates {first : ι → Program σ α} {second : ι → Program τ α}
    (simulates : ∀ call, Simulates relates Eq (first call) (second call)) (calls : List ι)
    {state : σ} {other : τ} (related : relates state other) :
    (runAll first calls state).1 = (runAll second calls other).1 ∧
      relates (runAll first calls state).2 (runAll second calls other).2 := by
  induction calls generalizing state other with
  | nil => exact ⟨rfl, related⟩
  | cons call calls induction =>
      obtain ⟨same, next⟩ := simulates call state other related
      obtain ⟨rest, final⟩ := induction next
      unfold runAll
      exact ⟨congrArg₂ List.cons (congrArg (Prod.mk call) same) rest, final⟩

end Simulation

end SecretServer.Concurrency
