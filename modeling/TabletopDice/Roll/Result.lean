import TabletopDice.Dice.Term
import TabletopDice.Roll.TermRoll

/-!
Rolling an expression. Its terms are rolled in order; their contributions and the modifier make the
total, and the breakdown shows every die in the order in which it fell.
-/

set_option autoImplicit false

namespace TabletopDice

/-- What rolling an expression gave. The notation and the label are only carried along. -/
structure RollResult where
  text : String := ""
  label : Option String := none
  total : Int
  dice : List RolledDie
  breakdown : String
deriving DecidableEq, Repr

namespace RollResult

/-- The parts of a breakdown joined by their signs. Only a negative first part shows its sign. -/
def joinParts : List TermRoll → String
  | [] => ""
  | first :: rest =>
      rest.foldl
        (fun text part => text ++ (if part.isNegative then " - " else " + ") ++ part.text)
        ((if first.isNegative then "-" else "") ++ first.text)

def modifierText (modifier : Int) : Except Text.DigitLimit String :=
  if modifier = 0 then .ok ""
  else do
    let magnitude ← Text.writeNat modifier.natAbs
    return (if modifier < 0 then " - " else " + ") ++ magnitude

/-- The whole breakdown. Without any term it is the modifier alone. -/
def breakdownOf (parts : List TermRoll) (modifier : Int) : Except Text.DigitLimit String :=
  match parts with
  | [] => Text.writeInt modifier
  | parts => do
      let tail ← modifierText modifier
      return joinParts parts ++ tail

def ofParts (parts : List TermRoll) (modifier : Int) (text : String) (label : Option String) :
    Except Text.DigitLimit RollResult := do
  let breakdown ← breakdownOf parts modifier
  return {
    text, label, breakdown
    total := modifier + Number.sum (parts.map TermRoll.contribution)
    dice := parts.flatMap TermRoll.dice }

end RollResult

namespace Expression

/-- Rolls every term of an expression in order. `cap` is the greatest number of bonus dice in one
chain. -/
def roll {State : Type} (source : Source State) (cap : Int) (expression : Expression)
    (text : String := "") (label : Option String := none) : Rolling State RollResult := do
  let parts ← expression.dice.mapM (TermRoll.roll source cap)
  Rolling.written (RollResult.ofParts parts expression.modifier text label)

end Expression

end TabletopDice
