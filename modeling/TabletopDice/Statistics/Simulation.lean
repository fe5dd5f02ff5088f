import TabletopDice.Roll.Result
import TabletopDice.Statistics.Summary

/-!
Simulation: rolling an expression again and again, on one source, and summing up the totals.
-/

set_option autoImplicit false

namespace TabletopDice

inductive SimulationFault where
  | iterations (count : Int)
  | roll (fault : RollFault)
  | summary (fault : SummaryFault)
deriving DecidableEq, Repr

def SimulationFault.iterationsMessage (count : Int) : Except Text.DigitLimit String := do
  let count ← Text.writeInt count
  return s!"Iterations must be at least 1, got {count}"

namespace Expression

variable {State : Type}

/-- The totals of so many rolls, one after the other. -/
def rollTotals (source : Source State) (cap : Int) (expression : Expression) (times : Nat) :
    Rolling State (List Int) :=
  repeated times do
    let result ← expression.roll source cap
    return result.total

/-- Rolls an expression so many times and sums up the totals. Fewer than one roll is refused
before anything is drawn. -/
def simulate (source : Source State) (cap : Int) (expression : Expression) (iterations : Int)
    (text : String := "") : EStateM SimulationFault State Summary := do
  if iterations < 1 then throw (.iterations iterations)
  let totals ← (expression.rollTotals source cap iterations.toNat).adaptExcept .roll
  match Summary.ofTotals text totals with
  | .ok summary => return summary
  | .error fault => throw (.summary fault)

end Expression

end TabletopDice
