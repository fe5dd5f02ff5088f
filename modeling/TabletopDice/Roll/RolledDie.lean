import TabletopDice.Text.Decimal

/-!
Rolled dice. Each die of a roll is recorded with what it showed and what became of it.
-/

set_option autoImplicit false

namespace TabletopDice

/-- A die that has been thrown. `result` is what it showed first and `modified` what it showed
when it was thrown again. Bonus dice are `exploded`, and dice that do not count are `dropped`. -/
structure RolledDie where
  size : Int
  result : Int
  modified : Option Int := none
  dropped : Bool := false
  exploded : Bool := false
  rerolled : Bool := false
deriving DecidableEq, Repr

namespace RolledDie

/-- What the die counts: the second throw if there was one, else the first. -/
def value (die : RolledDie) : Int :=
  die.modified.getD die.result

def rerollText (die : RolledDie) : Except Text.DigitLimit String :=
  match die.rerolled, die.modified with
  | true, some face => do
      let face ← Text.writeInt face
      return s!"(r{face})"
  | _, _ => .ok ""

/-- The die in a breakdown: its first result, the second in parentheses, `!` for a bonus die and
`d` for a dropped one. -/
def token (die : RolledDie) : Except Text.DigitLimit String := do
  let result ← Text.writeInt die.result
  let reroll ← die.rerollText
  return result ++ reroll ++ (if die.exploded then "!" else "") ++ (if die.dropped then "d" else "")

end RolledDie

end TabletopDice
