import TabletopDice.Dice.Term
import TabletopDice.Roll.RolledDie
import TabletopDice.Source.Basic

/-!
The pool of a term: the dice that it throws, in the order in which they fall. A term's pool is made
of one block for each of its dice, the die itself and behind it the bonus dice that it brings.
-/

set_option autoImplicit false

namespace TabletopDice

/-- Why a roll stopped: a chain of bonus dice reached its cap, the source refused a draw, or a
number is too long to be written. The label of the term and the cap are kept as they are shown. -/
inductive RollFault where
  | explosion (label cap : String)
  | draw (fault : DrawFault)
  | numeral (limit : Text.DigitLimit)
deriving DecidableEq, Repr

def RollFault.explosionMessage (label cap : String) : String :=
  s!"Exploding dice on {label} exceeded {cap} bonus dice"

/-- A computation that draws from a source with the given states. It leaves a state behind whether
it succeeds or fails. -/
abbrev Rolling (State : Type) := EStateM RollFault State

namespace Rolling

variable {State : Type}

def draw (source : Source State) (low high : Int) : Rolling State Int :=
  (source.draw low high).adaptExcept .draw

/-- A text as part of a roll. A numeral beyond the limit stops the roll. -/
def written {α : Type} (text : Except Text.DigitLimit α) : Rolling State α :=
  match text with
  | .ok value => pure value
  | .error limit => throw (.numeral limit)

end Rolling

namespace Pool

variable {State : Type}

/-- Throws one die. A fudge die is thrown as a die with three sides and counts two less. -/
def throwFace (source : Source State) (die : Die) : Rolling State Int :=
  match die with
  | .sided size => Rolling.draw source 1 size
  | .fudge => do
      let face ← Rolling.draw source 1 Die.fudgeSize
      return face - 2

def capFault (term : Term) (cap : Int) : RollFault :=
  match term.label, Text.writeInt cap with
  | .ok label, .ok cap => .explosion label cap
  | .error limit, _ => .numeral limit
  | _, .error limit => .numeral limit

/-- Throws bonus dice until one does not show the greatest face. `allowance` is the number of dice
that may still be thrown, and `thrown` holds the dice of the chain so far, the latest first. -/
def continueChain (source : Source State) (term : Term) (cap : Int) (allowance : Nat)
    (thrown : List RolledDie) : Rolling State (List RolledDie) :=
  match allowance with
  | 0 => throw (capFault term cap)
  | allowance + 1 => do
      let face ← throwFace source term.die
      let chain := { size := term.size, result := face, exploded := true : RolledDie } :: thrown
      if face = term.maxFace then continueChain source term cap allowance chain
      else return chain.reverse

/-- The chain of bonus dice behind a die that showed its greatest face. A cap below zero allows as
little as zero. -/
def chain (source : Source State) (term : Term) (cap : Int) : Rolling State (List RolledDie) :=
  continueChain source term cap cap.toNat []

def throwDie (source : Source State) (term : Term) : Rolling State RolledDie := do
  let face ← throwFace source term.die
  if term.reroll.any (face ∈ ·) then
    let second ← throwFace source term.die
    return { size := term.size, result := face, modified := some second, rerolled := true }
  else
    return { size := term.size, result := face }

def block (source : Source State) (term : Term) (cap : Int) : Rolling State (List RolledDie) := do
  let die ← throwDie source term
  if term.explode && die.result == term.maxFace then
    let bonus ← chain source term cap
    return die :: bonus
  else
    return [die]

def blocks (source : Source State) (term : Term) (cap : Int) :
    Rolling State (List (List RolledDie)) :=
  repeated term.magnitude (block source term cap)

/-- All dice of the term in the order in which they fall. -/
def throwAll (source : Source State) (term : Term) (cap : Int) :
    Rolling State (List RolledDie) := do
  let blocks ← blocks source term cap
  return blocks.flatten

end Pool

end TabletopDice
