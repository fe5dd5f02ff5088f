import TabletopDice.Number.Arithmetic
import TabletopDice.Roll.Pool
import TabletopDice.Roll.Selection

/-!
Rolling one term: its dice are thrown, filtered and scored, and written down for the breakdown.
-/

set_option autoImplicit false

namespace TabletopDice

/-- What one term gave: its dice, the contribution without its sign, and its part of the
breakdown. -/
structure TermRoll where
  isNegative : Bool
  dice : List RolledDie
  score : Int
  text : String
deriving DecidableEq, Repr

namespace TermRoll

/-- The contribution of dice that have been filtered: their sum, or the number of them that reach
the threshold. -/
def scoreOf (success : Option Int) (dice : List RolledDie) : Int :=
  match success with
  | none => Number.sum ((Selection.kept dice).map RolledDie.value)
  | some threshold => (Selection.kept dice).countP (threshold ≤ ·.value)

def successText (success : Option Int) (score : Int) : Except Text.DigitLimit String :=
  match success with
  | none => .ok ""
  | some _ => do
      let score ← Text.writeInt score
      return s!" successes: {score}"

def breakdown (term : Term) (dice : List RolledDie) (score : Int) :
    Except Text.DigitLimit String := do
  let label ← term.label
  let tokens ← dice.mapM RolledDie.token
  let successes ← successText term.success score
  return label ++ ":[" ++ ",".intercalate tokens ++ "]" ++ successes

def ofPool (term : Term) (pool : List RolledDie) : Except Text.DigitLimit TermRoll := do
  let dice := Selection.apply term.filter pool
  let score := scoreOf term.success dice
  let text ← breakdown term dice score
  return { isNegative := term.isNegative, dice, score, text }

def contribution (roll : TermRoll) : Int :=
  if roll.isNegative then -roll.score else roll.score

def roll {State : Type} (source : Source State) (cap : Int) (term : Term) :
    Rolling State TermRoll := do
  let pool ← Pool.throwAll source term cap
  Rolling.written (ofPool term pool)

end TermRoll

end TabletopDice
