import SecretServer.Concurrency.Interleaving

namespace SecretServer.Concurrency

/-! Rely and guarantee.  Each call is shown to keep its side of a discipline while the
others keep theirs.  A world of the discipline holds the shared state, and beside it
whatever the proof keeps track of. -/

structure Discipline (ι ω σ : Type) where
  shared : ω → σ
  invariant : ω → Prop
  guarantee : ι → ω → ω → Prop

namespace Discipline

variable {ι ω σ α β : Type} (discipline : Discipline ι ω σ)

/-- Nothing that another call may do makes the assertion false. -/
def Stable (call : ι) (assertion : ω → Prop) : Prop :=
  ∀ other before after, other ≠ call → discipline.invariant before →
    discipline.guarantee other before after → assertion before → assertion after

structure Moves (call : ι) (effect : σ → σ) (before after : ω) : Prop where
  shared : discipline.shared after = effect (discipline.shared before)
  invariant : discipline.invariant after
  guarantee : discipline.guarantee call before after

/-- What is left of the call keeps the discipline and ends in the postcondition, from
every world that the last argument describes. -/
def Meets (call : ι) (post : α → ω → Prop) : Program σ α → (ω → Prop) → Prop
  | .done result, pre =>
      ∀ world, discipline.invariant world → pre world → post result world
  | .access effect next, pre =>
      ∀ world, discipline.invariant world → pre world →
        ∃ after now, discipline.Moves call effect world after ∧ now after ∧
          discipline.Stable call now ∧
          Meets call post (next (discipline.shared world)) now

variable {discipline} {call : ι} {pre stronger : ω → Prop} {post weaker : α → ω → Prop}
  {program : Program σ α}

theorem Stable.and {first second : ω → Prop} (left : discipline.Stable call first)
    (right : discipline.Stable call second) :
    discipline.Stable call fun world => first world ∧ second world := by
  intro other before after differs invariant guarantee holds
  exact ⟨left other before after differs invariant guarantee holds.1,
    right other before after differs invariant guarantee holds.2⟩

theorem Meets.strengthen (meets : discipline.Meets call post program pre)
    (implies : ∀ world, discipline.invariant world → stronger world → pre world) :
    discipline.Meets call post program stronger := by
  cases program with
  | done result =>
      intro world invariant holds
      exact meets world invariant (implies world invariant holds)
  | access effect next =>
      intro world invariant holds
      exact meets world invariant (implies world invariant holds)

theorem Meets.weaken (meets : discipline.Meets call post program pre)
    (implies : ∀ result world, discipline.invariant world → post result world →
      weaker result world) : discipline.Meets call weaker program pre := by
  induction program generalizing pre with
  | done result =>
      intro world invariant holds
      exact implies result world invariant (meets world invariant holds)
  | access effect next induction =>
      intro world invariant holds
      obtain ⟨after, now, moves, reached, stable, continues⟩ := meets world invariant holds
      exact ⟨after, now, moves, reached, stable, induction _ continues⟩

theorem Meets.bind {rest : α → Program σ β} {last : β → ω → Prop}
    (first : discipline.Meets call post program pre)
    (second : ∀ result, discipline.Meets call last (rest result) (post result)) :
    discipline.Meets call last (program >>= rest) pre := by
  induction program generalizing pre with
  | done result => exact (second result).strengthen first
  | access effect next induction =>
      intro world invariant holds
      obtain ⟨after, now, moves, reached, stable, continues⟩ := first world invariant holds
      exact ⟨after, now, moves, reached, stable, induction _ continues⟩

theorem Meets.map {change : α → β} {last : β → ω → Prop}
    (meets : discipline.Meets call (fun result => last (change result)) program pre) :
    discipline.Meets call last (change <$> program) pre := by
  rw [map_eq_pure_bind]
  exact meets.bind fun result world _ holds => holds

/-- One access, in which the call goes from one assertion to another. -/
theorem Meets.access {effect : σ → σ} {next : σ → Program σ α}
    (moves : ∀ world, discipline.invariant world → pre world →
      ∃ after now, discipline.Moves call effect world after ∧ now after ∧
        discipline.Stable call now ∧
        discipline.Meets call post (next (discipline.shared world)) now) :
    discipline.Meets call post (.access effect next) pre :=
  moves

end Discipline

/-! Every run of calls that meet a discipline stays within it. -/

structure Outline {ι ω σ α : Type} (discipline : Discipline ι ω σ)
    (calls : ι → Program σ α) where
  pre : ι → ω → Prop
  post : ι → α → ω → Prop
  kept : ι → α → ω → Prop
  pre_stable : ∀ call, discipline.Stable call (pre call)
  kept_stable : ∀ call result, discipline.Stable call (kept call result)
  meets : ∀ call, discipline.Meets call (post call) (calls call) (pre call)
  /-- Returning leaves the shared state alone, but may count as a move. -/
  finish : ∀ call result world, discipline.invariant world → post call result world →
    ∃ after, discipline.Moves call id world after ∧ kept call result after

namespace Outline

variable {ι ω σ α : Type} {discipline : Discipline ι ω σ} {calls : ι → Program σ α}
  (outline : Outline discipline calls)

inductive Covers (call : ι) (world : ω) : Thread σ α → Prop
  | idle (holds : outline.pre call world) : Covers call world .idle
  | running {rest : Program σ α} {now : ω → Prop} (holds : now world)
      (stable : discipline.Stable call now)
      (meets : discipline.Meets call (outline.post call) rest now) :
      Covers call world (.running rest)
  | returned {result : α} (holds : outline.kept call result world) :
      Covers call world (.returned result)

structure Tracks (world : ω) (config : Config ι σ α) : Prop where
  shared : discipline.shared world = config.shared
  invariant : discipline.invariant world
  covers : ∀ call, outline.Covers call world (config.threads call)

variable {outline}

theorem Covers.interfere {call other : ι} {before after : ω} {thread : Thread σ α}
    (covers : outline.Covers call before thread) (differs : other ≠ call)
    (invariant : discipline.invariant before)
    (guarantee : discipline.guarantee other before after) :
    outline.Covers call after thread := by
  cases covers with
  | idle holds =>
      exact .idle (outline.pre_stable call other before after differs invariant guarantee
        holds)
  | running holds stable meets =>
      exact .running (stable other before after differs invariant guarantee holds) stable
        meets
  | returned holds =>
      exact .returned (outline.kept_stable call _ other before after differs invariant
        guarantee holds)

theorem Covers.meets {call : ι} {world : ω} {rest : Program σ α}
    (covers : outline.Covers call world (.running rest)) :
    ∃ now, now world ∧ discipline.Meets call (outline.post call) rest now := by
  generalize current : Thread.running rest = thread at covers
  cases covers with
  | idle => cases current
  | running holds stable meets =>
      cases current
      exact ⟨_, holds, meets⟩
  | returned => cases current

theorem Tracks.initial {world : ω} {start : σ} (shared : discipline.shared world = start)
    (invariant : discipline.invariant world) (pre : ∀ call, outline.pre call world) :
    outline.Tracks world (.initial start) :=
  ⟨shared, invariant, fun call => .idle (pre call)⟩

theorem Tracks.kept {world : ω} {config : Config ι σ α}
    (tracks : outline.Tracks world config) {call : ι} {result : α}
    (returned : config.threads call = .returned result) :
    outline.kept call result world := by
  have covers := tracks.covers call
  rw [returned] at covers
  cases covers with
  | returned holds => exact holds

theorem Tracks.pre {world : ω} {config : Config ι σ α}
    (tracks : outline.Tracks world config) {call : ι}
    (idle : config.threads call = .idle) : outline.pre call world := by
  have covers := tracks.covers call
  rw [idle] at covers
  cases covers with
  | idle holds => exact holds

variable [DecidableEq ι]

theorem Tracks.advance {world after : ω} {config : Config ι σ α} {call : ι}
    {effect : σ → σ} {thread : Thread σ α} (tracks : outline.Tracks world config)
    (moves : discipline.Moves call effect world after)
    (covers : outline.Covers call after thread) :
    outline.Tracks after (config.advance call (effect config.shared) thread) where
  shared := moves.shared.trans (congrArg effect tracks.shared)
  invariant := moves.invariant
  covers other := by
    by_cases same : other = call
    · subst same
      simpa using covers
    · rw [Config.threads_advance_of_ne _ _ _ same]
      exact (tracks.covers other).interfere (Ne.symm same) tracks.invariant moves.guarantee

/-- What a step of the run is in the worlds: nothing where a call is invoked, and
otherwise a move of the call. -/
inductive Advances (discipline : Discipline ι ω σ) (event : Event ι) (world : ω) :
    ω → Prop
  | invoked {call : ι} (same : event = .invoke call) : Advances discipline event world world
  | moved {call : ι} {after : ω} (notInvoked : ∀ other, event ≠ .invoke other)
      (guarantee : discipline.guarantee call world after) :
      Advances discipline event world after

theorem Tracks.step {world : ω} {config next : Config ι σ α} {event : Event ι}
    (tracks : outline.Tracks world config) (step : Step calls config event next) :
    ∃ after, outline.Tracks after next ∧ Advances discipline event world after := by
  cases step with
  | @invoke call idle =>
      refine ⟨world, ⟨tracks.shared, tracks.invariant, fun other => ?_⟩, .invoked rfl⟩
      by_cases same : other = call
      · subst same
        rw [Config.threads_advance_self]
        exact .running (tracks.pre idle) (outline.pre_stable other) (outline.meets other)
      · rw [Config.threads_advance_of_ne _ _ _ same]
        exact tracks.covers other
  | @access call effect rest running =>
      have covers := tracks.covers call
      rw [running] at covers
      obtain ⟨now, holds, meets⟩ := covers.meets
      obtain ⟨after, later, moves, reached, stable, continues⟩ :=
        meets world tracks.invariant holds
      rw [tracks.shared] at continues
      exact ⟨after, tracks.advance moves (.running reached stable continues),
        .moved (by simp) moves.guarantee⟩
  | @respond call result running =>
      have covers := tracks.covers call
      rw [running] at covers
      obtain ⟨now, holds, meets⟩ := covers.meets
      obtain ⟨after, moves, kept⟩ := outline.finish call result world tracks.invariant
        (meets world tracks.invariant holds)
      exact ⟨after, tracks.advance moves (.returned kept), .moved (by simp) moves.guarantee⟩

end Outline

/-! Calls that all keep one invariant of the shared state, and whose results it settles
on its own. -/

section Maintenance

variable {ι σ α β : Type} {holds : σ → Prop} {post weaker : α → Prop}

def Maintains (holds : σ → Prop) (post : α → Prop) : Program σ α → Prop
  | .done result => post result
  | .access effect next =>
      ∀ state, holds state → holds (effect state) ∧ Maintains holds post (next state)

theorem Maintains.weaken {program : Program σ α} (maintains : Maintains holds post program)
    (implies : ∀ result, post result → weaker result) : Maintains holds weaker program := by
  induction program with
  | done result => exact implies result maintains
  | access effect next induction =>
      intro state kept
      obtain ⟨after, continues⟩ := maintains state kept
      exact ⟨after, induction state continues⟩

theorem Maintains.bind {program : Program σ α} {rest : α → Program σ β} {last : β → Prop}
    (first : Maintains holds post program)
    (second : ∀ result, post result → Maintains holds last (rest result)) :
    Maintains holds last (program >>= rest) := by
  induction program with
  | done result => exact second result first
  | access effect next induction =>
      intro state kept
      obtain ⟨after, continues⟩ := first state kept
      exact ⟨after, induction state continues⟩

theorem Maintains.map {program : Program σ α} {change : α → β} {last : β → Prop}
    (maintains : Maintains holds (fun result => last (change result)) program) :
    Maintains holds last (change <$> program) := by
  rw [map_eq_pure_bind]
  exact maintains.bind fun result settled => settled

theorem Maintains.atomically {step : σ → α × σ}
    (keeps : ∀ state, holds state → holds (step state).2 ∧ post (step state).1) :
    Maintains holds post (Program.atomically step) :=
  keeps

def preserving (holds : σ → Prop) : Discipline ι σ σ where
  shared := id
  invariant := holds
  guarantee _ _ _ := True

theorem Maintains.meets (call : ι) {program : Program σ α}
    (maintains : Maintains holds post program) :
    (preserving holds).Meets call (fun result _ => post result) program fun _ => True := by
  induction program with
  | done result =>
      intro _ _ _
      exact maintains
  | access effect next induction =>
      intro state kept _
      obtain ⟨after, continues⟩ := maintains state kept
      exact ⟨effect state, fun _ => True, ⟨rfl, after, trivial⟩, trivial,
        fun _ _ _ _ _ _ _ => trivial, induction state continues⟩

def maintaining {calls : ι → Program σ α} {posts : ι → α → Prop}
    (maintains : ∀ call, Maintains holds (posts call) (calls call)) :
    Outline (preserving holds) calls where
  pre _ _ := True
  post call result _ := posts call result
  kept call result _ := posts call result
  pre_stable _ _ _ _ _ _ _ _ := trivial
  kept_stable _ _ _ _ _ _ _ _ settled := settled
  meets call := (maintains call).meets call
  finish _ _ world kept settled := ⟨world, ⟨rfl, kept, trivial⟩, settled⟩

theorem maintained [DecidableEq ι] {calls : ι → Program σ α} {posts : ι → α → Prop}
    (maintains : ∀ call, Maintains holds (posts call) (calls call)) {start : σ}
    (initial : holds start) {trace : List (Event ι)} {config : Config ι σ α}
    (run : Run calls (.initial start) trace config) :
    holds config.shared ∧
      ∀ call result, config.threads call = .returned result → posts call result := by
  have tracked : ∃ world, (maintaining maintains).Tracks world config := by
    refine Run.invariant (fun config => ∃ world, (maintaining maintains).Tracks world config)
      run ?_ ?_
    · exact ⟨start, Outline.Tracks.initial rfl initial fun _ => trivial⟩
    · intro config event next step tracked
      obtain ⟨world, tracks⟩ := tracked
      obtain ⟨after, moved, -⟩ := tracks.step step
      exact ⟨after, moved⟩
  obtain ⟨world, tracks⟩ := tracked
  refine ⟨tracks.shared ▸ tracks.invariant, ?_⟩
  intro call result returned
  exact tracks.kept returned

end Maintenance

end SecretServer.Concurrency
