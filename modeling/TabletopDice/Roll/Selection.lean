import TabletopDice.Dice.Term
import TabletopDice.Roll.RolledDie

/-!
Selecting the dice that count. A filter ranks the dice of a pool from the highest value to the
lowest, dice of equal value in the order in which they fell, and picks from one end of the ranking.
The dice stay where they are; only their `dropped` mark changes.
-/

set_option autoImplicit false

namespace TabletopDice.Selection

/-- The dice of a pool with their places, from the highest value to the lowest. The sort is
stable, so that of equal dice the earlier one ranks first. -/
def ranking (dice : List RolledDie) : List (RolledDie × Nat) :=
  dice.zipIdx.mergeSort fun first second => second.1.value ≤ first.1.value

/-- The places that a pick takes from a ranking of so many dice. -/
def pickedPlaces (pick : Pick) (dice : List RolledDie) : List Nat :=
  let places := (ranking dice).map Prod.snd
  match pick.side with
  | .highest => places.take pick.count.toNat
  | .lowest => places.drop (dice.length - pick.count.toNat)

def markPlaces (length : Nat) (places : List Nat) : Array Bool :=
  places.foldl (fun marks place => marks.setIfInBounds place true) (Array.replicate length false)

/-- Whether the filter drops a die that it picked, or one that it did not pick. -/
def isDropped (filter : Filter) (picked : Bool) : Bool :=
  match filter with
  | .keep _ => !picked
  | .drop _ => picked

def mark (filter : Filter) (dice : List RolledDie) : List RolledDie :=
  let marks := markPlaces dice.length (pickedPlaces filter.pick dice)
  dice.zipIdx.map fun (die, place) =>
    { die with dropped := isDropped filter (marks.getD place false) }

def apply (filter : Option Filter) (dice : List RolledDie) : List RolledDie :=
  match filter with
  | none => dice
  | some filter => mark filter dice

def kept (dice : List RolledDie) : List RolledDie :=
  dice.filter (!·.dropped)

end TabletopDice.Selection
