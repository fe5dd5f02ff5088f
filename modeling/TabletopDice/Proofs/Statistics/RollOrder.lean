import Mathlib.Data.Multiset.Defs
import TabletopDice.Proofs.Roll.ExplosionCap
import TabletopDice.Proofs.Statistics.Ranks

/-!
The rolls behind a summary. A simulation is so many rolls in turn, and the first of them to fail
ends it. Once all have been rolled, nothing is left of the order in which their totals came.
-/

set_option autoImplicit false

namespace TabletopDice

open Sequencing

namespace Summary

variable {first second : List Int}

theorem ascending_eq_of_perm (same : first.Perm second) : ascending first = ascending second :=
  ((ascending_perm first).trans (same.trans (ascending_perm second).symm)).eq_of_pairwise
    (fun _ _ _ _ => Int.le_antisymm) (pairwise_ascending first) (pairwise_ascending second)

/-- The deviations are added up in ascending order, so that not even they tell in which order the
totals came. -/
theorem ofTotals_eq_of_perm (text : String) (same : first.Perm second) :
    ofTotals text first = ofTotals text second := by
  rw [ofTotals, ofTotals, ascending_eq_of_perm same]

/-- The summary of totals in no order at all. -/
def ofMultiset (text : String) (totals : Multiset Int) : Except SummaryFault Summary :=
  Quot.liftOn totals (ofTotals text) fun _ _ => ofTotals_eq_of_perm text

end Summary

namespace Expression

variable {State : Type} {source : Source State} {cap : Int} {expression : Expression}
  {state next : State} {iterations : Int} {text : String}

theorem summed_ne_roll_error (outcome : Except SummaryFault Summary) (fault : RollFault)
    (state next : State) : summed outcome state ≠ .error (.roll fault) next := by
  cases outcome with
  | ok summary => exact run_pure_ne_error
  | error other =>
      intro failed
      cases (run_throw_eq_error_iff.mp failed).1

/-! ## Rolls that fail -/

/-- Repeated rolls fail with the first one to fail, and nothing is rolled after it. -/
theorem rollTotals_eq_error_iff {times : Nat} {fault : RollFault} :
    expression.rollTotals source cap times state = .error fault next ↔
      ∃ results middle, results.length < times ∧
        RollsInTurn source cap expression state results middle ∧
        expression.roll source cap "" none middle = .error fault next := by
  induction times generalizing state with
  | zero =>
      rw [rollTotals, repeated_zero]
      constructor
      · intro failed
        exact absurd failed run_pure_ne_error
      · intro failed
        obtain ⟨_, _, less, -⟩ := failed
        exact absurd less (Nat.not_lt_zero _)
  | succ times ih =>
      simp only [rollTotals_succ, run_bind_eq_error_iff, run_pure_ne_error, and_false,
        exists_false, or_false, ih]
      constructor
      · intro failed
        rcases failed with here | ⟨result, after, first, results, middle, less, rest, last⟩
        · exact ⟨[], state, Nat.zero_lt_succ times, .nil, here⟩
        · exact ⟨result :: results, middle, Nat.succ_lt_succ less, .cons first rest, last⟩
      · intro failed
        obtain ⟨results, middle, less, rolls, last⟩ := failed
        cases rolls with
        | nil => exact .inl last
        | @cons _ after _ result results first rest =>
            exact .inr ⟨result, after, first, results, middle, Nat.lt_of_succ_lt_succ less, rest,
              last⟩

theorem simulate_eq_roll_error_iff {fault : RollFault} :
    expression.simulate source cap iterations text state = .error (.roll fault) next ↔
      ∃ results middle, (results.length : Int) < iterations ∧
        RollsInTurn source cap expression state results middle ∧
        expression.roll source cap "" none middle = .error fault next := by
  by_cases few : iterations < 1
  · rw [simulate_of_lt_one few, run_throw_eq_error_iff]
    constructor
    · intro impossible
      cases impossible.1
    · intro failed
      obtain ⟨_, _, less, -⟩ := failed
      omega
  · have count {results : List RollResult} :
        results.length < iterations.toNat ↔ (results.length : Int) < iterations := by omega
    simp only [simulate_of_one_le (Int.not_lt.mp few), run_bind_eq_error_iff, summed_ne_roll_error,
      and_false, exists_false, or_false, run_adaptExcept_eq_error_iff, SimulationFault.roll.injEq,
      exists_eq_right, rollTotals_eq_error_iff, count]

/-- A record of rolls in turn notes the calls that they have made. -/
theorem RollsInTurn.exists_calls {results : List RollResult}
    (rolls : RollsInTurn source cap expression state results next) :
    ∃ calls, source.Answers state calls next ∧
      ∀ earlier, RollsInTurn source.recorded cap expression (state, earlier) results
        (next, earlier ++ calls) := by
  induction rolls with
  | nil => exact ⟨[], .nil, fun earlier => (List.append_nil earlier).symm ▸ .nil⟩
  | cons rolled _ ih =>
      obtain ⟨parts, recorded, answers, finished⟩ := roll_eq_ok_iff.mp rolled
      obtain ⟨calls, later, noted⟩ := ih
      refine ⟨_, Source.answers_append_iff.mpr ⟨_, answers, later⟩, fun earlier => ?_⟩
      rw [← List.append_assoc]
      exact .cons (roll_eq_ok_iff.mpr ⟨parts, recorded, answers.recorded earlier, finished⟩)
        (noted _)

/-! ## Rolls that succeed -/

theorem simulate_eq_summed {results : List RollResult} (enough : 1 ≤ iterations)
    (rolls : RollsInTurn source cap expression state results next)
    (length : (results.length : Int) = iterations) :
    expression.simulate source cap iterations text state =
      summed (Summary.ofMultiset text (results.map RollResult.total)) next := by
  have rolled : expression.rollTotals source cap iterations.toNat state =
      .ok (results.map RollResult.total) next :=
    rollTotals_eq_ok_iff.mpr ⟨results, rolls, by omega, rfl⟩
  rw [simulate_of_one_le enough, run_bind_of_ok (run_adaptExcept_eq_ok_iff.mpr rolled)]
  rfl

/-- So many rolls in turn either all succeed, or one of them is the first to fail. -/
theorem exists_rollsInTurn (source : Source State) (cap : Int) (expression : Expression)
    (state : State) (times : Nat) :
    (∃ results next, results.length = times ∧
        RollsInTurn source cap expression state results next) ∨
      ∃ results middle fault next, results.length < times ∧
        RollsInTurn source cap expression state results middle ∧
        expression.roll source cap "" none middle = .error fault next := by
  cases outcome : expression.rollTotals source cap times state with
  | ok totals next =>
      obtain ⟨results, rolls, length, -⟩ := rollTotals_eq_ok_iff.mp outcome
      exact .inl ⟨results, next, length, rolls⟩
  | error fault next =>
      obtain ⟨results, middle, less, rolls, last⟩ := rollTotals_eq_error_iff.mp outcome
      exact .inr ⟨results, middle, fault, next, less, rolls, last⟩

/-- A simulation is rolls in turn on one source, of which either all are summed up or the last one
has failed. -/
structure SumsRolls (source : Source State) (cap : Int) (expression : Expression)
    (iterations : Int) (text : String) (state : State) : Prop where
  refused : iterations < 1 →
    expression.simulate source cap iterations text state = .error (.iterations iterations) state
  stopped : ∀ results middle fault next, (results.length : Int) < iterations →
    RollsInTurn source cap expression state results middle →
    expression.roll source cap "" none middle = .error fault next →
    expression.simulate source cap iterations text state = .error (.roll fault) next
  finished : ∀ results next, 1 ≤ iterations → (results.length : Int) = iterations →
    RollsInTurn source cap expression state results next →
    expression.simulate source cap iterations text state =
      summed (Summary.ofMultiset text (results.map RollResult.total)) next
  ends : (∃ results next, results.length = iterations.toNat ∧
      RollsInTurn source cap expression state results next) ∨
    ∃ results middle fault next, (results.length : Int) < iterations ∧
      RollsInTurn source cap expression state results middle ∧
      expression.roll source cap "" none middle = .error fault next

theorem sumsRolls (source : Source State) (cap : Int) (expression : Expression) (iterations : Int)
    (text : String) (state : State) : SumsRolls source cap expression iterations text state where
  refused few := by
    rw [simulate_of_lt_one few]
    rfl
  stopped results middle _ _ less rolls last :=
    simulate_eq_roll_error_iff.mpr ⟨results, middle, less, rolls, last⟩
  finished _ _ enough length rolls := simulate_eq_summed enough rolls length
  ends := by
    refine (exists_rollsInTurn source cap expression state iterations.toNat).imp_right ?_
    intro failed
    obtain ⟨results, middle, fault, next, less, rolls, last⟩ := failed
    exact ⟨results, middle, fault, next, by omega, rolls, last⟩

/-- A simulation makes the calls of its rolls, whether they succeed or fail, and no others. Two
simulations of whatever expressions have the same summary if the one's totals are the other's in
another order. -/
theorem simulate_forgets_order :
    (∀ {State : Type} (source : Source State) (cap : Int) (expression : Expression)
      (iterations : Int) (text : String) (state : State),
        SumsRolls source cap expression iterations text state ∧
        ∀ earlier, SumsRolls source.recorded cap expression iterations text (state, earlier)) ∧
    ∀ {First Second : Type} (firstSource : Source First) (secondSource : Source Second)
      (firstCap secondCap : Int) (first second : Expression) (iterations : Int) (text : String)
      (firstState firstNext : First) (secondState secondNext : Second)
      (results others : List RollResult), 1 ≤ iterations →
      (results.length : Int) = iterations → (others.length : Int) = iterations →
      RollsInTurn firstSource firstCap first firstState results firstNext →
      RollsInTurn secondSource secondCap second secondState others secondNext →
      (results.map RollResult.total).Perm (others.map RollResult.total) →
      ∃ outcome,
        first.simulate firstSource firstCap iterations text firstState =
          summed outcome firstNext ∧
        second.simulate secondSource secondCap iterations text secondState =
          summed outcome secondNext := by
  constructor
  · intro State source cap expression iterations text state
    exact ⟨sumsRolls source cap expression iterations text state, fun earlier =>
      sumsRolls source.recorded cap expression iterations text (state, earlier)⟩
  · intro First Second firstSource secondSource firstCap secondCap first second iterations text
      firstState firstNext secondState secondNext results others enough length otherLength rolls
      otherRolls permuted
    refine ⟨_, simulate_eq_summed enough rolls length, ?_⟩
    rw [simulate_eq_summed enough otherRolls otherLength, Multiset.coe_eq_coe.mpr permuted]

theorem simulate_forgets_order_knucklebone :
    (∃ outcome,
      simulate Generator.source 10 ⟨[knucklebone], 0⟩ 4 "d4" (.scripted [2, 1, 2, 4]) =
          summed outcome (.scripted []) ∧
        simulate Generator.source 10 ⟨[knucklebone], 0⟩ 4 "d4" (.scripted [4, 2, 1, 2]) =
          summed outcome (.scripted [])) ∧
      simulate Generator.source 1 ⟨[fuse], 3⟩ 9 "2d6r6!+3" (.scripted [6, 4, 2, 6, 3, 6, 1]) =
        .error (.roll (.explosion "2d6" "1")) (.scripted [1]) := by
  obtain ⟨each, both⟩ := simulate_forgets_order
  have faces : ∀ draw ∈ ([2, 1, 2, 4] : List Int), 1 ≤ draw ∧ draw ≤ 4 := by decide
  have otherFaces : ∀ draw ∈ ([4, 2, 1, 2] : List Int), 1 ≤ draw ∧ draw ≤ 4 := by decide
  obtain ⟨results, rolls, totals⟩ := exists_rollsInTurn_knucklebone faces
  obtain ⟨others, otherRolls, otherTotals⟩ := exists_rollsInTurn_knucklebone otherFaces
  constructor
  · have length : results.length = 4 := by
      rw [← List.length_map RollResult.total, totals]
      rfl
    have otherLength : others.length = 4 := by
      rw [← List.length_map RollResult.total, otherTotals]
      rfl
    refine both Generator.source Generator.source 10 10 _ _ 4 "d4" _ _ _ _ results others
      (by decide) (by omega) (by omega) rolls otherRolls ?_
    rw [totals, otherTotals]
    decide
  · exact (each Generator.source 1 ⟨[fuse], 3⟩ 9 "2d6r6!+3" _).1.stopped [] _ _ _ (by decide) .nil
      roll_fuse

end Expression

end TabletopDice
