import TabletopDice.Roll.RolledDie

/-!
Critical rolls. A roll in which exactly one die with twenty sides counts is critical if that die
first showed its greatest or its least face.
-/

set_option autoImplicit false

namespace TabletopDice

inductive Critical where
  | success
  | fail
deriving DecidableEq, Repr

namespace Critical

def dieSize : Int := 20

def naturalRoll : Critical → Int
  | success => dieSize
  | fail => 1

def ofFace (face : Int) : Option Critical :=
  if face = success.naturalRoll then some success
  else if face = fail.naturalRoll then some fail
  else none

/-- The critical outcome of rolled dice. A die that was thrown again still counts with its first
throw. -/
def detect (dice : List RolledDie) : Option Critical :=
  match dice.filter fun die => die.size == dieSize && !die.dropped with
  | [die] => ofFace die.result
  | _ => none

end Critical

end TabletopDice
