import TabletopDice.Proofs.Roll.CallSequence

/-!
How a computation that draws can fail. Some faults it never raises; for others one can say, again
without any source, on which calls it stops. What a repetition or a traversal has done by then are
whole steps, and behind them the step that stopped.
-/

set_option autoImplicit false

namespace TabletopDice

open Sequencing

namespace Rolling

variable {State Value Result Trace : Type} {source : Source State} {fault : RollFault}

/-- The computation never raises the fault. -/
def Avoids (action : Rolling State Value) (fault : RollFault) : Prop :=
  ∀ state next, action state ≠ .error fault next

theorem Avoids.bind {step : Rolling State Value} {later : Value → Rolling State Result}
    (first : Avoids step fault) (rest : ∀ value, Avoids (later value) fault) :
    Avoids (step >>= later) fault := by
  intro state next failed
  obtain here | ⟨value, middle, -, after⟩ := run_bind_eq_error_iff.mp failed
  · exact first state next here
  · exact rest value middle next after

theorem avoids_pure (value : Value) : Avoids (pure value : Rolling State Value) fault :=
  fun _ _ => run_pure_ne_error

theorem Avoids.mapM {Member : Type} {step : Member → Rolling State Value} {members : List Member}
    (each : ∀ member ∈ members, Avoids (step member) fault) :
    Avoids (members.mapM step) fault := by
  induction members with
  | nil => exact avoids_pure []
  | cons first members ih =>
      obtain ⟨here, later⟩ := List.forall_mem_cons.mp each
      rw [List.mapM_cons]
      exact here.bind fun _ => (ih later).bind fun _ => avoids_pure _

theorem draw_eq_error_iff {low high : Int} {state next : State} :
    Rolling.draw source low high state = .error fault next ↔
      ∃ drawFault, fault = .draw drawFault ∧
        source.draw low high state = .error drawFault next := by
  rw [Rolling.draw, run_adaptExcept_eq_error_iff]
  simp only [and_comm, eq_comm]

theorem draw_avoids (other : ∀ drawFault, fault ≠ .draw drawFault) (low high : Int) :
    Avoids (Rolling.draw source low high) fault := by
  intro state next failed
  obtain ⟨drawFault, same, -⟩ := draw_eq_error_iff.mp failed
  exact other drawFault same

theorem written_eq_error_iff {text : Except Text.DigitLimit Value} {state next : State} :
    (Rolling.written text : Rolling State Value) state = .error fault next ↔
      (∃ limit, text = .error limit ∧ fault = .numeral limit) ∧ state = next := by
  cases text with
  | ok value => simp [Rolling.written, run_pure_ne_error]
  | error limit =>
      rw [Rolling.written, run_throw_eq_error_iff]
      simp [eq_comm]

theorem written_avoids (other : ∀ limit, fault ≠ .numeral limit)
    (text : Except Text.DigitLimit Value) :
    Avoids (Rolling.written text : Rolling State Value) fault := by
  intro state next failed
  obtain ⟨⟨limit, -, same⟩, -⟩ := written_eq_error_iff.mp failed
  exact other limit same

/-- The computation raises the fault exactly when it has left one of the given traces, each on the
calls that belong to it. -/
def Stops (source : Source State) (action : Rolling State Value) (fault : RollFault)
    (stopped : Trace → Prop) (calls : Trace → List Call) : Prop :=
  ∀ state next, action state = .error fault next ↔
    ∃ trace, stopped trace ∧ source.Answers state (calls trace) next

variable {action : Rolling State Value} {allowed : Value → Prop} {calls : Value → List Call}
  {stopped : Trace → Prop} {stopCalls : Trace → List Call}

theorem Stops.repeated (yields : Yields source action allowed calls)
    (stops : Stops source action fault stopped stopCalls) (times : Nat) :
    Stops source (TabletopDice.repeated times action) fault
      (fun trace : List Value × Trace =>
        trace.1.length < times ∧ (∀ value ∈ trace.1, allowed value) ∧ stopped trace.2)
      (fun trace => trace.1.flatMap calls ++ stopCalls trace.2) := by
  induction times with
  | zero => simp [Stops, run_pure_ne_error]
  | succ times ih =>
      intro state next
      rw [repeated_succ]
      simp only [run_bind_eq_error_iff, run_pure_ne_error, and_false, exists_false, or_false]
      constructor
      · intro failed
        obtain here | ⟨value, middle, first, later⟩ := failed
        · obtain ⟨trace, stop, answers⟩ := (stops state next).mp here
          exact ⟨([], trace), ⟨Nat.succ_pos times, by simp, stop⟩, answers⟩
        · obtain ⟨firstAllowed, firstAnswers⟩ := (yields _ _ _).mp first
          obtain ⟨⟨done, trace⟩, ⟨fewer, all, stop⟩, answers⟩ := (ih middle next).mp later
          refine ⟨(value :: done, trace), ⟨Nat.succ_lt_succ fewer,
            List.forall_mem_cons.mpr ⟨firstAllowed, all⟩, stop⟩, ?_⟩
          rw [List.flatMap_cons, List.append_assoc]
          exact Source.answers_append_iff.mpr ⟨middle, firstAnswers, answers⟩
      · intro left
        obtain ⟨⟨done, trace⟩, ⟨fewer, all, stop⟩, answers⟩ := left
        cases done with
        | nil => exact .inl ((stops state next).mpr ⟨trace, stop, answers⟩)
        | cons value done =>
            obtain ⟨firstAllowed, restAllowed⟩ := List.forall_mem_cons.mp all
            rw [List.flatMap_cons, List.append_assoc] at answers
            obtain ⟨middle, firstAnswers, restAnswers⟩ := Source.answers_append_iff.mp answers
            exact .inr ⟨value, middle, (yields _ _ _).mpr ⟨firstAllowed, firstAnswers⟩,
              (ih middle next).mpr ⟨(done, trace),
                ⟨Nat.lt_of_succ_lt_succ fewer, restAllowed, stop⟩, restAnswers⟩⟩

/-- A traversal stops at the member whose step stops, behind the results of the members before. -/
theorem mapM_eq_error_iff {Member : Type} {step : Member → Rolling State Value}
    {allowed : Member → Value → Prop} {calls : Member → Value → List Call}
    {stopped : Member → Trace → Prop} {stopCalls : Member → Trace → List Call}
    (yields : ∀ member, Yields source (step member) (allowed member) (calls member))
    (stops : ∀ member, Stops source (step member) fault (stopped member) (stopCalls member))
    {members : List Member} {state next : State} :
    members.mapM step state = .error fault next ↔
      ∃ earlier member later values trace, members = earlier ++ member :: later ∧
        List.Forall₂ allowed earlier values ∧ stopped member trace ∧
        source.Answers state
          ((List.zipWith calls earlier values).flatten ++ stopCalls member trace) next := by
  induction members generalizing state with
  | nil => simp [run_pure_ne_error]
  | cons first members ih =>
      simp only [List.mapM_cons, run_bind_eq_error_iff, run_pure_ne_error, and_false,
        exists_false, or_false]
      constructor
      · intro failed
        obtain here | ⟨value, middle, done, later⟩ := failed
        · obtain ⟨trace, stop, answers⟩ := (stops first state next).mp here
          exact ⟨[], first, members, [], trace, rfl, .nil, stop, answers⟩
        · obtain ⟨firstAllowed, firstAnswers⟩ := (yields _ _ _ _).mp done
          obtain ⟨earlier, member, rest, values, trace, rfl, all, stop, answers⟩ := ih.mp later
          refine ⟨first :: earlier, member, rest, value :: values, trace, rfl,
            .cons firstAllowed all, stop, ?_⟩
          rw [List.zipWith_cons_cons, List.flatten_cons, List.append_assoc]
          exact Source.answers_append_iff.mpr ⟨middle, firstAnswers, answers⟩
      · intro left
        obtain ⟨earlier, member, rest, values, trace, same, all, stop, answers⟩ := left
        cases all with
        | nil =>
            cases same
            exact .inl ((stops first state next).mpr ⟨trace, stop, answers⟩)
        | @cons _ value earlier values firstAllowed restAllowed =>
            cases same
            rw [List.zipWith_cons_cons, List.flatten_cons, List.append_assoc] at answers
            obtain ⟨middle, firstAnswers, restAnswers⟩ := Source.answers_append_iff.mp answers
            exact .inr ⟨value, middle, (yields _ _ _ _).mpr ⟨firstAllowed, firstAnswers⟩,
              ih.mpr ⟨earlier, member, rest, values, trace, rfl, restAllowed, stop, restAnswers⟩⟩

end Rolling

end TabletopDice
