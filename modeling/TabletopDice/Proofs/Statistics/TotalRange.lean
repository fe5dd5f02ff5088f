import TabletopDice.Proofs.Roll.ExtremeRolls
import TabletopDice.Proofs.Statistics.Frequencies

/-!
The range of totals. Rolls keep to the bounds that their terms set, extreme faces reach them, and
whatever a summary shows as a total was rolled and so keeps to them as well.
-/

set_option autoImplicit false

namespace TabletopDice

/-- Every total that the summary shows has the property. The mean and the standard deviation are no
totals. -/
structure Summary.ShowsOnly (holds : Int → Prop) (summary : Summary) : Prop where
  min : holds summary.min
  max : holds summary.max
  median : holds summary.median
  mode : ∀ value ∈ summary.mode, holds value
  percentiles : ∀ entry ∈ summary.percentiles, holds entry.2
  probabilities : ∀ entry ∈ summary.probabilities, holds entry.1

theorem Summary.showsOnly_of_ofTotals {text : String} {totals : List Int} {summary : Summary}
    {holds : Int → Prop} (some : totals ≠ []) (summed : ofTotals text totals = .ok summary)
    (all : ∀ total ∈ totals, holds total) : ShowsOnly holds summary := by
  have ranked := ranked_of_ofTotals some summed
  have accounts := accounts_of_ofTotals some summed
  constructor
  case min => exact all _ ranked.min.1
  case max => exact all _ ranked.max.1
  case median => exact all _ (mem_of_ascending ranked.middle)
  case mode => exact fun value member => all value ((accounts.mem_mode_iff value).mp member).1
  case percentiles =>
    exact fun entry member => all _ (mem_of_ascending (ranked.picked entry member))
  case probabilities =>
    exact fun entry member => all _ ((accounts.mem_iff _).mp (List.mem_map_of_mem member))

namespace Expression

theorem showsOnly_of_simulate {State : Type} {source : Source State} {cap : Int}
    {expression : Expression} {iterations : Int} {text : String} {state next : State}
    {summary : Summary} (inRange : source.InRange)
    (calm : ∀ term ∈ expression.dice, term.explode = false)
    (simulated : expression.simulate source cap iterations text state = .ok summary next) :
    summary.ShowsOnly (expression.Spans expression.plainCounts) := by
  obtain ⟨enough, results, rolls, length, summed⟩ := simulate_eq_ok_iff.mp simulated
  refine Summary.showsOnly_of_ofTotals (totals_ne_nil enough length) summed ?_
  exact List.forall_mem_map.mpr
    (rolls.forall_mem fun _ _ _ rolled => spans_of_roll inRange calm rolled)

/-- Totals keep to bounds that follow from the terms. If no dice explode the bounds follow from the
terms alone, summaries keep to them too, and without thresholds they are reached. -/
theorem totals_within :
    (∀ {State : Type} (source : Source State) (cap : Int) (expression : Expression)
      (text : String) (label : Option String) (state : State) (result : RollResult)
      (next : State),
      source.InRange → expression.roll source cap text label state = .ok result next →
        ∃ blocks, IsCut expression.dice result.dice blocks ∧
          List.Forall₂ (Term.Bounded · cap) expression.dice blocks ∧
          result.total =
            expression.modifier + Number.sum (List.zipWith Term.share expression.dice blocks) ∧
          expression.Spans (blocks.map Selection.survivors) result.total ∧
          ((∀ term ∈ expression.dice, term.explode = false) →
            blocks.map Selection.survivors = expression.plainCounts)) ∧
    (Generator.source.InRange ∧
      ∀ (cap : Int) (expression : Expression) (text : String) (label : Option String),
        (∀ term ∈ expression.dice,
          term.explode = false ∧ term.success = none ∧ term.Writable) →
        expression.modifier.natAbs < Text.writeBound →
          expression.Reaches cap text label (expression.leastTotal expression.plainCounts) ∧
          expression.Reaches cap text label
            (expression.greatestTotal expression.plainCounts)) ∧
    ∀ {State : Type} (source : Source State) (cap : Int) (expression : Expression)
      (iterations : Int) (text : String) (state : State) (summary : Summary) (next : State),
      source.InRange → (∀ term ∈ expression.dice, term.explode = false) →
      expression.simulate source cap iterations text state = .ok summary next →
        summary.ShowsOnly (expression.Spans expression.plainCounts) := by
  refine ⟨?_, ⟨Generator.source_inRange, ?_⟩, ?_⟩
  · intro State source cap expression text label state result next inRange rolled
    obtain ⟨blocks, cut, bounded, total, spans⟩ := exists_bounded_of_roll inRange rolled
    exact ⟨blocks, cut, bounded, total, spans, fun calm => survivors_eq_plainCounts calm bounded⟩
  · intro cap expression text label plain short
    exact reaches_bounds cap text label plain short
  · intro State source cap expression iterations text state summary next inRange calm simulated
    exact showsOnly_of_simulate inRange calm simulated

/-- Two dice that throw 1 again. The highest is dropped and the other one subtracted. -/
def feint : Term :=
  { volley with
    explode := false }

theorem totals_within_volley :
    Generator.source.InRange ∧
      (Expression.roll Generator.source 10 ⟨[volley], 4⟩ "" none (.scripted [6, 1, 1, 4]) =
          .ok volleyResult (.scripted []) ∧
        ∃ blocks, IsCut [volley] volleyResult.dice blocks ∧
          List.Forall₂ (Term.Bounded · 10) [volley] blocks ∧
          volleyResult.total = 4 + Number.sum (List.zipWith Term.share [volley] blocks) ∧
          Spans ⟨[volley], 4⟩ (blocks.map Selection.survivors) volleyResult.total) ∧
      ((∀ term ∈ [feint], term.explode = false ∧ term.success = none ∧ term.Writable) ∧
        (4 : Int).natAbs < Text.writeBound ∧
        Reaches ⟨[feint], 4⟩ 10 "" none (-2) ∧ Reaches ⟨[feint], 4⟩ 10 "" none 3) ∧
      ∃ summary, simulate Generator.source 10 ⟨[knucklebone], 0⟩ 4 "" (.scripted [2, 1, 2, 4]) =
          .ok summary (.scripted []) ∧
        (∀ term ∈ [knucklebone], term.explode = false) ∧
        summary.ShowsOnly (Spans ⟨[knucklebone], 0⟩ [1]) := by
  obtain ⟨bounds, ⟨inRange, reached⟩, shown⟩ := totals_within
  obtain ⟨blocks, cut, bounded, total, spans, -⟩ := bounds _ _ _ _ _ _ _ _ inRange roll_volley
  have plain : ∀ term ∈ [feint],
      term.explode = false ∧ term.success = none ∧ term.Writable :=
    List.forall_mem_singleton.mpr
      ⟨rfl, rfl, Text.lt_writeBound (by decide), Text.lt_writeBound (by decide)⟩
  have short : (4 : Int).natAbs < Text.writeBound := Text.lt_writeBound (by decide)
  obtain ⟨summary, simulated⟩ := exists_simulate_knucklebone
  have calm : ∀ term ∈ [knucklebone], term.explode = false := List.forall_mem_singleton.mpr rfl
  exact ⟨inRange, ⟨roll_volley, blocks, cut, bounded, total, spans⟩,
    ⟨plain, short, reached 10 ⟨[feint], 4⟩ "" none plain short⟩,
    summary, simulated, calm, shown _ _ _ _ _ _ _ _ inRange calm simulated⟩

end Expression

end TabletopDice
