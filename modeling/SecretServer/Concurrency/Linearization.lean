import SecretServer.Concurrency.Interleaving

namespace SecretServer.Concurrency

/-! Linearizability by linearization points: every call has one access of its own
at which it takes effect as if it had run there from start to end. -/

variable {ι σ α β : Type}

/-- A one-after-another order of the calls of a run that explains it: the same
final state, the same outcomes as `view` shows them, and no call moved before one
that had returned when it was invoked. -/
structure Linearizes (calls : ι → Program σ α) (view : α → β) (start : σ)
    (trace : List (Event ι)) (config : Config ι σ α) (order : List ι) : Prop where
  nodup : order.Nodup
  invoked : ∀ call, call ∈ order ↔ config.threads call ≠ .idle
  final : (runAll calls order start).2 = config.shared
  outcome : ∀ call result, (call, result) ∈ (runAll calls order start).1 →
    ∃ value, config.threads call = .returned value ∧ view value = view result
  precedes : ∀ first second, Precedes trace first second →
    [first, second].Sublist order

/-- What has to be shown of the accesses of each call.  `order` lists the calls
that have taken effect, `Pending` describes what is left of one that has not. -/
structure LinearizationPoints (calls : ι → Program σ α) (view : α → β)
    (start : σ) where
  Inv : List ι → σ → Prop
  Pending : List ι → σ → ι → Program σ α → Prop
  inv_start : Inv [] start
  inv_commit : ∀ {order state call}, Inv order state → call ∉ order →
    Inv (order ++ [call]) ((calls call).run state).2
  pending_start : ∀ {order state call}, Inv order state → call ∉ order →
    Pending order state call (calls call)
  pending_access : ∀ {order state call effect next}, Inv order state →
    call ∉ order → Pending order state call (.access effect next) →
    (effect state = state ∧ Pending order state call (next state)) ∨
      ∃ value, next state = .done value ∧
        effect state = ((calls call).run state).2 ∧
        view value = view ((calls call).run state).1
  pending_done : ∀ {order state call value}, Inv order state → call ∉ order →
    Pending order state call (.done value) →
    ((calls call).run state).2 = state ∧
      view value = view ((calls call).run state).1
  pending_commit : ∀ {order state call other rest}, Inv order state →
    call ∉ order → other ∉ order → call ≠ other →
    Pending order state call rest →
    Pending (order ++ [other]) ((calls other).run state).2 call rest

variable {calls : ι → Program σ α} {view : α → β} {start : σ}

/-- The call has taken effect and `value` is what it will return or has. -/
def Committed (calls : ι → Program σ α) (view : α → β) (start : σ)
    (order : List ι) (call : ι) (value : α) : Prop :=
  ∃ result, (call, result) ∈ (runAll calls order start).1 ∧
    view value = view result

theorem mem_order_of_mem_log {order : List ι} {call : ι} {result : α}
    (member : (call, result) ∈ (runAll calls order start).1) : call ∈ order := by
  rw [← map_fst_runAll calls order start]
  exact List.mem_map_of_mem member

theorem Committed.mem {order : List ι} {call : ι} {value : α}
    (committed : Committed calls view start order call value) : call ∈ order := by
  obtain ⟨result, member, _⟩ := committed
  exact mem_order_of_mem_log member

theorem Committed.concat {order : List ι} {call other : ι} {value : α}
    (committed : Committed calls view start order call value) :
    Committed calls view start (order ++ [other]) call value := by
  obtain ⟨result, member, same⟩ := committed
  refine ⟨result, ?_, same⟩
  rw [runAll_concat]
  exact List.mem_append_left _ member

theorem Committed.now {order : List ι} {call : ι} {value : α} {state : σ}
    (final : (runAll calls order start).2 = state)
    (same : view value = view ((calls call).run state).1) :
    Committed calls view start (order ++ [call]) call value := by
  refine ⟨((calls call).run state).1, ?_, same⟩
  rw [runAll_concat, final]
  exact List.mem_append_right _ (List.mem_singleton.mpr rfl)

namespace LinearizationPoints

variable (points : LinearizationPoints calls view start)

def Explains (order : List ι) (state : σ) (call : ι) : Thread σ α → Prop
  | .idle => call ∉ order
  | .running rest =>
      (call ∉ order ∧ points.Pending order state call rest) ∨
        ∃ value, rest = .done value ∧ Committed calls view start order call value
  | .returned value => Committed calls view start order call value

structure Tracks (trace : List (Event ι)) (config : Config ι σ α)
    (order : List ι) : Prop where
  nodup : order.Nodup
  inv : points.Inv order config.shared
  final : (runAll calls order start).2 = config.shared
  explains : ∀ call, points.Explains order config.shared call (config.threads call)
  precedes : ∀ first second, Precedes trace first second → second ∈ order →
    [first, second].Sublist order

variable {points}

theorem Explains.commit {order : List ι} {state : σ} {call other : ι}
    {thread : Thread σ α} (inv : points.Inv order state) (fresh : other ∉ order)
    (differs : call ≠ other) (explains : points.Explains order state call thread) :
    points.Explains (order ++ [other]) ((calls other).run state).2 call thread := by
  cases thread with
  | idle =>
      intro member
      rcases List.mem_append.mp member with earlier | now
      · exact explains earlier
      · exact differs (List.mem_singleton.mp now)
  | running rest =>
      rcases explains with ⟨notYet, pending⟩ | ⟨value, rfl, committed⟩
      · refine .inl ⟨?_, points.pending_commit inv notYet fresh differs pending⟩
        intro member
        rcases List.mem_append.mp member with earlier | now
        · exact notYet earlier
        · exact differs (List.mem_singleton.mp now)
      · exact .inr ⟨value, rfl, committed.concat⟩
  | returned value => exact Committed.concat explains

theorem Explains.mem_of_returned {order : List ι} {state : σ} {call : ι}
    {value : α} (explains : points.Explains order state call (.returned value)) :
    call ∈ order :=
  Committed.mem explains

theorem Tracks.initial : points.Tracks [] (.initial start) [] where
  nodup := List.nodup_nil
  inv := points.inv_start
  final := rfl
  explains _ := List.not_mem_nil
  precedes _ _ _ member := absurd member List.not_mem_nil

variable [DecidableEq ι]

theorem Tracks.silent {trace : List (Event ι)} {config : Config ι σ α}
    {order : List ι} {event : Event ι} {call : ι} {thread : Thread σ α}
    (tracks : points.Tracks trace config order)
    (explains : points.Explains order config.shared call thread)
    (unordered : ∀ other, event = .invoke other → other ∉ order) :
    points.Tracks (trace ++ [event]) (config.advance call config.shared thread)
      order where
  nodup := tracks.nodup
  inv := tracks.inv
  final := tracks.final
  explains other := by
    by_cases same : other = call
    · subst same
      simpa using explains
    · rw [Config.threads_advance_of_ne _ _ _ same]
      exact tracks.explains other
  precedes first second earlier member := by
    rcases pair_sublist_concat.mp earlier with before | ⟨invoked, _⟩
    · exact tracks.precedes first second before member
    · exact absurd member (unordered second invoked.symm)

theorem Tracks.commit {trace : List (Event ι)} {config : Config ι σ α}
    {order : List ι} {event : Event ι} {call : ι} {thread : Thread σ α}
    (run : Run calls (.initial start) trace config)
    (tracks : points.Tracks trace config order) (fresh : call ∉ order)
    (notInvoked : ∀ other, event ≠ .invoke other)
    (explains : points.Explains (order ++ [call])
      ((calls call).run config.shared).2 call thread) :
    points.Tracks (trace ++ [event])
      (config.advance call ((calls call).run config.shared).2 thread)
      (order ++ [call]) where
  nodup := by
    rw [List.nodup_append]
    refine ⟨tracks.nodup, List.nodup_singleton _, ?_⟩
    intro member inOrder last inLast same
    subst same
    exact fresh (List.mem_singleton.mp inLast ▸ inOrder)
  inv := points.inv_commit tracks.inv fresh
  final := by rw [runAll_concat, tracks.final]; rfl
  explains other := by
    by_cases same : other = call
    · subst same
      simpa using explains
    · rw [Config.threads_advance_of_ne _ _ _ same]
      exact (tracks.explains other).commit tracks.inv fresh same
  precedes first second earlier member := by
    have before : Precedes trace first second := by
      rcases pair_sublist_concat.mp earlier with before | ⟨invoked, _⟩
      · exact before
      · exact absurd invoked.symm (notInvoked second)
    rcases List.mem_append.mp member with ordered | now
    · exact (tracks.precedes first second before ordered).trans
        (List.sublist_append_left _ _)
    · -- the first call has returned, so it took effect before this step
      have responded : Event.respond first ∈ trace :=
        before.subset List.mem_cons_self
      obtain ⟨value, returned⟩ := run.returned_of_respond responded
      have firstOrdered : first ∈ order := by
        have explained := tracks.explains first
        rw [returned] at explained
        exact explained.mem_of_returned
      exact pair_sublist_concat.mpr
        (.inr ⟨List.mem_singleton.mp now, firstOrdered⟩)

variable (points)

theorem tracks {trace : List (Event ι)} {config : Config ι σ α}
    (run : Run calls (.initial start) trace config) :
    ∃ order, points.Tracks trace config order := by
  induction run with
  | nil => exact ⟨[], Tracks.initial⟩
  | @snoc trace config next event run step induction =>
      obtain ⟨order, tracks⟩ := induction
      cases step with
      | @invoke call idle =>
          have fresh : call ∉ order := by
            have explained := tracks.explains call
            rwa [idle] at explained
          refine ⟨order, tracks.silent
            (.inl ⟨fresh, points.pending_start tracks.inv fresh⟩) ?_⟩
          intro other invoked
          exact Event.invoke.inj invoked ▸ fresh
      | @access call effect rest running =>
          have explained := tracks.explains call
          rw [running] at explained
          rcases explained with ⟨fresh, pending⟩ | ⟨value, impossible, _⟩
          · rcases points.pending_access tracks.inv fresh pending with
              ⟨unchanged, still⟩ | ⟨value, finished, effective, same⟩
            · refine ⟨order, ?_⟩
              rw [unchanged]
              exact tracks.silent (.inl ⟨fresh, still⟩) (by simp)
            · refine ⟨order ++ [call], ?_⟩
              rw [effective, finished]
              exact tracks.commit run fresh (by simp)
                (.inr ⟨value, rfl, Committed.now tracks.final same⟩)
          · cases impossible
      | @respond call value running =>
          have explained := tracks.explains call
          rw [running] at explained
          rcases explained with ⟨fresh, pending⟩ | ⟨result, equal, committed⟩
          · obtain ⟨unchanged, same⟩ := points.pending_done tracks.inv fresh pending
            refine ⟨order ++ [call], ?_⟩
            have committed : points.Tracks (trace ++ [.respond call])
                (config.advance call ((calls call).run config.shared).2
                  (.returned value)) (order ++ [call]) :=
              tracks.commit run fresh (by simp)
                (Committed.now tracks.final same)
            rwa [unchanged] at committed
          · cases equal
            exact ⟨order, tracks.silent committed (by simp)⟩

/-- Every run in which no call is left half done has an order that explains it. -/
theorem linearizes (points : LinearizationPoints calls view start)
    {trace : List (Event ι)} {config : Config ι σ α}
    (run : Run calls (.initial start) trace config)
    (complete : ∀ call rest, config.threads call ≠ .running rest) :
    ∃ order, Linearizes calls view start trace config order := by
  obtain ⟨order, tracks⟩ := points.tracks run
  have ordered : ∀ call, config.threads call ≠ .idle → call ∈ order := by
    intro call busy
    have explained := tracks.explains call
    cases thread : config.threads call with
    | idle => exact absurd thread busy
    | running rest => exact absurd thread (complete call rest)
    | returned value =>
        rw [thread] at explained
        exact explained.mem_of_returned
  refine ⟨order, tracks.nodup, ?_, tracks.final, ?_, ?_⟩
  · intro call
    refine ⟨?_, ordered call⟩
    intro member idle
    have explained := tracks.explains call
    rw [idle] at explained
    exact explained member
  · intro call result logged
    have member := mem_order_of_mem_log logged
    have explained := tracks.explains call
    cases thread : config.threads call with
    | idle =>
        rw [thread] at explained
        exact absurd member explained
    | running rest => exact absurd thread (complete call rest)
    | returned value =>
        rw [thread] at explained
        obtain ⟨other, otherLogged, same⟩ := explained
        have equal : other = result :=
          runAll_result_unique calls tracks.nodup otherLogged logged
        exact ⟨value, rfl, equal ▸ same⟩
  · intro first second earlier
    apply tracks.precedes first second earlier
    apply ordered
    intro idle
    exact run.idle_of_not_invoked idle
      (earlier.subset (List.mem_cons_of_mem _ List.mem_cons_self))

end LinearizationPoints

end SecretServer.Concurrency
