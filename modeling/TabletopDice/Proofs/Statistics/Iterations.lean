import TabletopDice.Proofs.Roll.BetterDraws
import TabletopDice.Proofs.Roll.CallCount

/-!
The rolls of a simulation. What a simulation sums up are the totals of as many rolls as it was asked
for, each on the source as the roll before has left it.
-/

set_option autoImplicit false

namespace TabletopDice.Expression

open Sequencing

variable {State : Type} {source : Source State} {cap : Int} {expression : Expression}
  {state next : State}

/-- One roll for each result, and each on the state that the one before has left. -/
inductive RollsInTurn (source : Source State) (cap : Int) (expression : Expression) :
    State → List RollResult → State → Prop where
  | nil {state : State} : RollsInTurn source cap expression state [] state
  | cons {state middle next : State} {result : RollResult} {results : List RollResult}
      (rolled : expression.roll source cap "" none state = .ok result middle)
      (rest : RollsInTurn source cap expression middle results next) :
      RollsInTurn source cap expression state (result :: results) next

/-- What holds of every result of a roll holds of all results of rolls in turn. -/
theorem RollsInTurn.forall_mem {holds : RollResult → Prop} {results : List RollResult}
    (rolls : RollsInTurn source cap expression state results next)
    (each : ∀ before result after,
      expression.roll source cap "" none before = .ok result after → holds result) :
    ∀ result ∈ results, holds result := by
  induction rolls with
  | nil => exact nofun
  | cons rolled _ ih => exact List.forall_mem_cons.mpr ⟨each _ _ _ rolled, ih⟩

theorem rollTotals_succ (source : Source State) (cap : Int) (expression : Expression)
    (times : Nat) :
    expression.rollTotals source cap (times + 1) = do
      let result ← expression.roll source cap
      let totals ← expression.rollTotals source cap times
      return result.total :: totals := by
  rw [rollTotals, repeated_succ]
  simp only [bind_assoc, pure_bind]
  rfl

theorem rollTotals_eq_ok_iff {times : Nat} {totals : List Int} :
    expression.rollTotals source cap times state = .ok totals next ↔
      ∃ results, RollsInTurn source cap expression state results next ∧
        results.length = times ∧ totals = results.map RollResult.total := by
  induction times generalizing state next totals with
  | zero =>
      rw [rollTotals, repeated_zero, run_pure_eq_ok_iff]
      constructor
      · intro none
        obtain ⟨rfl, rfl⟩ := none
        exact ⟨[], .nil, rfl, rfl⟩
      · intro rolled
        obtain ⟨results, rolls, length, rfl⟩ := rolled
        obtain rfl := List.eq_nil_of_length_eq_zero length
        cases rolls
        exact ⟨rfl, rfl⟩
  | succ times ih =>
      simp only [rollTotals_succ, run_bind_eq_ok_iff, run_pure_eq_ok_iff, ih]
      constructor
      · intro rolled
        obtain ⟨result, middle, first, _, _, ⟨results, rest, length, rfl⟩, rfl, rfl⟩ := rolled
        exact ⟨result :: results, .cons first rest, congrArg Nat.succ length, rfl⟩
      · intro rolled
        obtain ⟨results, rolls, length, rfl⟩ := rolled
        cases rolls with
        | nil => cases length
        | @cons _ middle _ result results first rest =>
            exact ⟨result, middle, first, _, next, ⟨results, rest, Nat.succ.inj length, rfl⟩, rfl,
              rfl⟩

theorem summed_eq_ok_iff {outcome : Except SummaryFault Summary} {summary : Summary} :
    summed outcome state = .ok summary next ↔ outcome = .ok summary ∧ state = next := by
  cases outcome with
  | ok found => rw [summed, run_pure_eq_ok_iff, Except.ok.injEq]
  | error fault => exact iff_of_false nofun nofun

/-- A simulation returns the summary of the totals that its rolls have given. -/
theorem simulate_eq_ok_iff {iterations : Int} {text : String} {summary : Summary} :
    expression.simulate source cap iterations text state = .ok summary next ↔
      1 ≤ iterations ∧ ∃ results, RollsInTurn source cap expression state results next ∧
        (results.length : Int) = iterations ∧
        Summary.ofTotals text (results.map RollResult.total) = .ok summary := by
  by_cases few : iterations < 1
  · rw [simulate_of_lt_one few]
    exact iff_of_false nofun fun impossible => absurd few (Int.not_lt.mpr impossible.1)
  · have enough : 1 ≤ iterations := Int.not_lt.mp few
    simp only [simulate_of_one_le enough, run_bind_eq_ok_iff, run_adaptExcept_eq_ok_iff,
      rollTotals_eq_ok_iff, summed_eq_ok_iff]
    constructor
    · intro simulated
      obtain ⟨_, middle, ⟨results, rolls, length, rfl⟩, found, rfl⟩ := simulated
      exact ⟨enough, results, rolls, by omega, found⟩
    · intro simulated
      obtain ⟨-, results, rolls, length, found⟩ := simulated
      exact ⟨_, next, ⟨results, rolls, by omega, rfl⟩, found, rfl⟩

theorem totals_ne_nil {results : List RollResult} {iterations : Int} (enough : 1 ≤ iterations)
    (length : (results.length : Int) = iterations) : results.map RollResult.total ≠ [] := by
  intro none
  rw [List.map_eq_nil_iff] at none
  subst none
  simp only [List.length_nil] at length
  omega

/-! ## A single die, again and again -/

/-- A die with four sides. -/
def knucklebone : Term :=
  { bows with
    count := 1, success := none
    count_ne_zero := by decide, filter_fits := by decide }

theorem exists_roll_knucklebone {face : Int} (within : 1 ≤ face ∧ face ≤ 4) (rest : List Int) :
    ∃ result, roll Generator.source 10 ⟨[knucklebone], 0⟩ "" none (.scripted (face :: rest)) =
      .ok result (.scripted rest) ∧ result.total = face := by
  have shape : knucklebone.Pool 10 [knucklebone.plainDie face] := by
    have base : knucklebone.BaseDie (knucklebone.plainDie face) :=
      .kept fun ⟨_, present, _⟩ => nomatch present
    exact ⟨[[knucklebone.plainDie face]], rfl,
      List.forall_mem_singleton.mpr (.single base fun explodes => nomatch explodes.1), rfl⟩
  have thrown : Generator.Spends (Pool.throwAll Generator.source knucklebone 10) [face]
      [knucklebone.plainDie face] := by
    refine (Pool.throwAll_yields knucklebone 10 _ _ _).mpr ⟨shape, .cons ?_ .nil⟩
    exact Generator.draw_scripted_eq_ok_iff.mpr ⟨within, [], rfl, rfl⟩
  have small : ∀ shown ∈ [face], shown.natAbs < 1000 :=
    List.forall_mem_singleton.mpr (by omega)
  obtain ⟨part, rolled⟩ := TermRoll.exists_spends_of_small [face] thrown (by decide) (by decide)
    (by simp) small
  obtain ⟨pool, sameThrown, written⟩ := TermRoll.spends_roll_iff.mp rolled
  obtain rfl : [knucklebone.plainDie face] = pool := by
    cases thrown.symm.trans sameThrown
    rfl
  have short : (0 : Int).natAbs < Text.writeBound := Text.lt_writeBound (by decide)
  obtain ⟨result, finished⟩ := RollResult.exists_ofParts [part] "" none short
  refine ⟨result, roll_scripted_eq_ok_iff.mpr ⟨[face], rest, [part], rfl, rfl, ?_, finished⟩, ?_⟩
  · exact TermRoll.spends_mapM_cons_iff.mpr ⟨part, [], [face], [], rfl, rfl, rolled,
      TermRoll.spends_mapM_nil_iff.mpr ⟨rfl, rfl⟩⟩
  · obtain ⟨sign, dice, score⟩ := TermRoll.ofPool_eq_ok written
    rw [(RollResult.ofParts_eq_ok finished).1, List.map_singleton, TermRoll.contribution, sign,
      score, dice]
    simp [TermRoll.scoreOf, knucklebone, bows, Term.isNegative, Selection.apply, Selection.kept,
      Term.plainDie, RolledDie.value]

/-- The totals of a single die are the draws. -/
theorem exists_rollsInTurn_knucklebone {draws : List Int}
    (within : ∀ draw ∈ draws, 1 ≤ draw ∧ draw ≤ 4) :
    ∃ results, RollsInTurn Generator.source 10 ⟨[knucklebone], 0⟩ (.scripted draws) results
      (.scripted []) ∧ results.map RollResult.total = draws := by
  induction draws with
  | nil => exact ⟨[], .nil, rfl⟩
  | cons draw draws ih =>
      obtain ⟨here, later⟩ := List.forall_mem_cons.mp within
      obtain ⟨result, rolled, total⟩ := exists_roll_knucklebone here draws
      obtain ⟨results, rolls, totals⟩ := ih later
      exact ⟨result :: results, .cons rolled rolls, by rw [List.map_cons, total, totals]⟩

end TabletopDice.Expression
