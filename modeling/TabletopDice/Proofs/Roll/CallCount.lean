import TabletopDice.Proofs.Roll.CallSequence
import TabletopDice.Statistics.Simulation

/-!
How many calls a computation makes to its source, whether it succeeds or fails. The call that fails
counts as well. Throwing one die takes at most two calls, its chain of bonus dice at most as many as
the cap allows, and what follows from that for a whole roll is a product.
-/

set_option autoImplicit false

namespace TabletopDice

def Sequencing.stateOf {Error State Value : Type} : EStateM.Result Error State Value → State
  | .ok _ state => state
  | .error _ state => state

open Sequencing

/-- Whatever its outcome, the computation adds at most so many calls to the record. -/
def CallsAtMost {Error State Value : Type}
    (action : EStateM Error (State × List Call) Value) (bound : Nat) : Prop :=
  ∀ state earlier, ∃ made : List Call, made.length ≤ bound ∧
    (stateOf (action (state, earlier))).2 = earlier ++ made

section Counting

variable {Error Failure State Value Result : Type}
  {action : EStateM Error (State × List Call) Value} {bound : Nat}

theorem callsAtMost_of_state_eq
    (idle : ∀ state, stateOf (action state) = state) : CallsAtMost action 0 := by
  intro state earlier
  exact ⟨[], Nat.le_refl 0, by rw [idle, List.append_nil]⟩

theorem callsAtMost_pure (value : Value) :
    CallsAtMost (pure value : EStateM Error (State × List Call) Value) 0 :=
  callsAtMost_of_state_eq fun _ => rfl

theorem callsAtMost_throw (error : Error) :
    CallsAtMost (throw error : EStateM Error (State × List Call) Value) 0 :=
  callsAtMost_of_state_eq fun _ => rfl

theorem CallsAtMost.mono {greater : Nat} (few : CallsAtMost action bound)
    (less : bound ≤ greater) : CallsAtMost action greater := by
  intro state earlier
  obtain ⟨made, count, noted⟩ := few state earlier
  exact ⟨made, Nat.le_trans count less, noted⟩

theorem CallsAtMost.bind {later : Value → EStateM Error (State × List Call) Result}
    {laterBound : Nat} (first : CallsAtMost action bound)
    (rest : ∀ value, CallsAtMost (later value) laterBound) :
    CallsAtMost (action >>= later) (bound + laterBound) := by
  intro state earlier
  obtain ⟨made, count, noted⟩ := first state earlier
  simp only [Bind.bind, EStateM.bind]
  cases outcome : action (state, earlier) with
  | error error next =>
      rw [outcome] at noted
      exact ⟨made, Nat.le_add_right_of_le count, noted⟩
  | ok value next =>
      obtain ⟨middle, calls⟩ := next
      rw [outcome] at noted
      obtain rfl : calls = earlier ++ made := noted
      obtain ⟨more, moreCount, moreNoted⟩ := rest value middle (earlier ++ made)
      refine ⟨made ++ more, ?_, ?_⟩
      · rw [List.length_append]
        exact Nat.add_le_add count moreCount
      · rw [← List.append_assoc]
        exact moreNoted

theorem CallsAtMost.bind_idle {later : Value → EStateM Error (State × List Call) Result}
    (few : CallsAtMost action bound) (idle : ∀ value, CallsAtMost (later value) 0) :
    CallsAtMost (action >>= later) bound :=
  few.bind idle

theorem CallsAtMost.bind_pure (few : CallsAtMost action bound) (view : Value → Result) :
    CallsAtMost (action >>= fun value => pure (view value)) bound :=
  few.bind_idle fun value => callsAtMost_pure (view value)

theorem CallsAtMost.adaptExcept (few : CallsAtMost action bound) (view : Error → Failure) :
    CallsAtMost (action.adaptExcept view) bound := by
  intro state earlier
  obtain ⟨made, count, noted⟩ := few state earlier
  refine ⟨made, count, ?_⟩
  rw [← noted, EStateM.adaptExcept]
  cases action (state, earlier) <;> rfl

theorem CallsAtMost.repeated (few : CallsAtMost action bound) (times : Nat) :
    CallsAtMost (TabletopDice.repeated times action) (times * bound) := by
  induction times with
  | zero =>
      rw [repeated_zero, Nat.zero_mul]
      exact callsAtMost_pure []
  | succ times ih =>
      rw [repeated_succ, Nat.succ_mul, Nat.add_comm]
      exact few.bind fun _ => ih.bind_pure _

theorem CallsAtMost.mapM {Member : Type} {step : Member → EStateM Error (State × List Call) Value}
    {size : Member → Nat} (few : ∀ member, CallsAtMost (step member) (size member * bound))
    (members : List Member) :
    CallsAtMost (members.mapM step)
      (members.foldr (fun member total => size member + total) 0 * bound) := by
  induction members with
  | nil =>
      rw [List.mapM_nil, List.foldr_nil, Nat.zero_mul]
      exact callsAtMost_pure []
  | cons member members ih =>
      rw [List.mapM_cons, List.foldr_cons, Nat.add_mul]
      exact (few member).bind fun _ => ih.bind_pure _

end Counting

variable {State : Type} {source : Source State} {cap : Int}

theorem Rolling.draw_calls (low high : Int) :
    CallsAtMost (Rolling.draw source.recorded low high) 1 := by
  refine CallsAtMost.adaptExcept (fun state earlier => ?_) _
  simp only [Source.recorded, Source.observed]
  cases source.draw low high state <;> exact ⟨[_], Nat.le_refl 1, rfl⟩

theorem Rolling.written_calls {Value : Type} (text : Except Text.DigitLimit Value) :
    CallsAtMost (Rolling.written text : Rolling (State × List Call) Value) 0 := by
  cases text with
  | ok value => exact callsAtMost_pure value
  | error limit => exact callsAtMost_throw _

namespace Pool

theorem throwFace_calls (die : Die) : CallsAtMost (throwFace source.recorded die) 1 := by
  cases die with
  | sided size => exact Rolling.draw_calls 1 size
  | fudge => exact (Rolling.draw_calls 1 Die.fudgeSize).bind_pure _

theorem throwDie_calls (term : Term) : CallsAtMost (throwDie source.recorded term) 2 := by
  change CallsAtMost _ (1 + 1)
  refine (throwFace_calls term.die).bind fun face => ?_
  split
  · exact (throwFace_calls term.die).bind_pure _
  · exact (callsAtMost_pure _).mono (Nat.zero_le 1)

/-- Each bonus die takes one off the allowance. -/
theorem continueChain_calls (term : Term) (allowance : Nat) (thrown : List RolledDie) :
    CallsAtMost (continueChain source.recorded term cap allowance thrown) allowance := by
  induction allowance generalizing thrown with
  | zero => exact callsAtMost_throw _
  | succ allowance ih =>
      rw [continueChain, Nat.add_comm]
      refine (throwFace_calls term.die).bind fun face => ?_
      split
      · exact ih _
      · exact (callsAtMost_pure _).mono (Nat.zero_le allowance)

theorem block_calls (term : Term) :
    CallsAtMost (block source.recorded term cap) (2 + cap.toNat) := by
  refine (throwDie_calls term).bind fun die => ?_
  split
  · exact CallsAtMost.bind_pure (continueChain_calls term cap.toNat []) _
  · exact (callsAtMost_pure _).mono (Nat.zero_le cap.toNat)

theorem throwAll_calls (term : Term) :
    CallsAtMost (throwAll source.recorded term cap) (term.magnitude * (2 + cap.toNat)) :=
  CallsAtMost.bind_pure ((block_calls term).repeated term.magnitude) _

end Pool

theorem TermRoll.roll_calls (term : Term) :
    CallsAtMost (TermRoll.roll source.recorded cap term) (term.magnitude * (2 + cap.toNat)) :=
  (Pool.throwAll_calls term).bind_idle fun _ => Rolling.written_calls _

namespace Expression

theorem roll_calls (expression : Expression) (text : String) (label : Option String) :
    CallsAtMost (expression.roll source.recorded cap text label)
      (expression.diceCount * (2 + cap.toNat)) :=
  (CallsAtMost.mapM TermRoll.roll_calls expression.dice).bind_idle fun _ => Rolling.written_calls _

theorem rollTotals_calls (expression : Expression) (times : Nat) :
    CallsAtMost (expression.rollTotals source.recorded cap times)
      (times * (expression.diceCount * (2 + cap.toNat))) :=
  ((expression.roll_calls "" none).bind_pure _).repeated times

section Simulation

variable {expression : Expression} {iterations : Int} {text : String}

theorem simulate_of_lt_one (few : iterations < 1) :
    expression.simulate source cap iterations text = throw (.iterations iterations) := by
  unfold simulate
  exact (if_pos few).trans rfl

/-- What a simulation makes of the summary of its totals. -/
def summed (outcome : Except SummaryFault Summary) : EStateM SimulationFault State Summary :=
  match outcome with
  | .ok summary => pure summary
  | .error fault => throw (.summary fault)

theorem simulate_of_one_le (enough : 1 ≤ iterations) :
    expression.simulate source cap iterations text =
      (expression.rollTotals source cap iterations.toNat).adaptExcept .roll >>= fun totals =>
        summed (Summary.ofTotals text totals) := by
  unfold simulate
  exact (if_neg (Int.not_lt.mpr enough)).trans rfl

/-- A simulation that rolls at all makes the calls of its rolls and no others. -/
theorem simulate_calls :
    CallsAtMost (expression.simulate source.recorded cap iterations text)
      (iterations.toNat * (expression.diceCount * (2 + cap.toNat))) := by
  by_cases few : iterations < 1
  · rw [simulate_of_lt_one few]
    exact (callsAtMost_throw _).mono (Nat.zero_le _)
  · rw [simulate_of_one_le (Int.not_lt.mp few)]
    refine ((expression.rollTotals_calls iterations.toNat).adaptExcept _).bind_idle fun totals => ?_
    cases Summary.ofTotals text totals with
    | ok summary => exact callsAtMost_pure summary
    | error fault => exact callsAtMost_throw _

end Simulation

end Expression

end TabletopDice
