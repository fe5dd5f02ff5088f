import TabletopDice.Dice.FaceSet
import TabletopDice.Text.Decimal

/-!
Dice terms, and the expressions that a dice notation stands for. A term says how many dice of one
kind are thrown, which of them count and how their faces are turned into a contribution to the
total. Terms that make no sense cannot be built: `Draft.check` turns the loose parts of a term into
one or names the rule that they break.
-/

set_option autoImplicit false

namespace TabletopDice

/-- A kind of die. Fudge dice have three faces, which count -1, 0 and 1. -/
inductive Die where
  | sided (size : Int)
  | fudge
deriving DecidableEq, Repr

namespace Die

def fudgeSize : Int := 3

def percentileSize : Int := 100

def size : Die → Int
  | sided size => size
  | fudge => fudgeSize

def minFace : Die → Int
  | sided _ => 1
  | fudge => -1

def maxFace : Die → Int
  | sided size => size
  | fudge => 1

end Die

inductive Side where
  | highest
  | lowest
deriving DecidableEq, Repr

structure Pick where
  side : Side
  count : Int
deriving DecidableEq, Repr

/-- Which dice of a pool count: only the picked ones, or all but the picked ones. -/
inductive Filter where
  | keep (pick : Pick)
  | drop (pick : Pick)
deriving DecidableEq, Repr

def Filter.pick : Filter → Pick
  | keep pick => pick
  | drop pick => pick

/-- A filter picks at least one die and leaves at least one of the term's dice. -/
def Filter.Fits (filter : Filter) (dice : Nat) : Prop :=
  0 < filter.pick.count ∧ filter.pick.count < dice

instance (filter : Filter) (dice : Nat) : Decidable (filter.Fits dice) :=
  inferInstanceAs (Decidable (_ ∧ _))

/-- A number of dice of one kind. A negative count subtracts the term's contribution. Dice whose
first face is in `reroll` are thrown a second time, dice that show their greatest face bring a
bonus die if the term explodes, and with a threshold in `success` the dice that reach it are
counted instead of summed. -/
structure Term where
  count : Int
  die : Die
  filter : Option Filter
  reroll : Option FaceSet
  explode : Bool
  success : Option Int
  count_ne_zero : count ≠ 0
  size_pos : 0 < die.size
  filter_fits : ∀ present ∈ filter, present.Fits count.natAbs
deriving DecidableEq, Repr

namespace Term

/-- The number of dice that the term throws before any bonus dice. -/
def magnitude (term : Term) : Nat := term.count.natAbs

def isNegative (term : Term) : Bool := term.count < 0

def size (term : Term) : Int := term.die.size

def isFudge (term : Term) : Bool := term.die == .fudge

def minFace (term : Term) : Int := term.die.minFace

def maxFace (term : Term) : Int := term.die.maxFace

def sizeText (die : Die) : Except Text.DigitLimit String :=
  match die with
  | .sided size => Text.writeInt size
  | .fudge => .ok "F"

/-- The number and kind of the dice without a sign, as in `4d6` or `4dF`. -/
def label (term : Term) : Except Text.DigitLimit String := do
  let count ← Text.writeNat term.magnitude
  let size ← sizeText term.die
  return count ++ "d" ++ size

theorem magnitude_pos (term : Term) : 0 < term.magnitude :=
  Int.natAbs_pos.mpr term.count_ne_zero

end Term

inductive TermFault where
  | zeroCount
  | sizeNotPositive
  | fudgeSize
  | keepAndDrop
  | filterCount
deriving DecidableEq, Repr

def TermFault.message : TermFault → String
  | .zeroCount => "count must be non-zero"
  | .sizeNotPositive => "size must be positive"
  | .fudgeSize => s!"fudge dice must have size {Die.fudgeSize}"
  | .keepAndDrop => "keep and drop are mutually exclusive"
  | .filterCount => "keep/drop count must be between 1 and the number of dice - 1"

/-- The parts of a term before anybody has looked whether they fit together. -/
structure Draft where
  count : Int
  size : Int
  fudge : Bool := false
  keep : Option Pick := none
  drop : Option Pick := none
  reroll : Option FaceSet := none
  explode : Bool := false
  success : Option Int := none
deriving DecidableEq, Repr

namespace Draft

def filter (draft : Draft) : Except TermFault (Option Filter) :=
  match draft.keep, draft.drop with
  | some _, some _ => .error .keepAndDrop
  | some pick, none => .ok (some (.keep pick))
  | none, some pick => .ok (some (.drop pick))
  | none, none => .ok none

/-- The term that a draft describes, or the first rule that it breaks. -/
def check (draft : Draft) : Except TermFault Term :=
  if countZero : draft.count = 0 then .error .zeroCount
  else if sizeSmall : draft.size ≤ 0 then .error .sizeNotPositive
  else if draft.fudge && draft.size != Die.fudgeSize then .error .fudgeSize
  else
    match draft.filter with
    | .error fault => .error fault
    | .ok filter =>
        if fits : ∀ present ∈ filter, present.Fits draft.count.natAbs then
          .ok {
            count := draft.count
            die := if draft.fudge then .fudge else .sided draft.size
            filter
            reroll := draft.reroll
            explode := draft.explode
            success := draft.success
            count_ne_zero := countZero
            size_pos := by split <;> simp only [Die.size, Die.fudgeSize] <;> omega
            filter_fits := fits }
        else .error .filterCount

end Draft

def Term.draft (term : Term) : Draft where
  count := term.count
  size := term.size
  fudge := term.isFudge
  keep := match term.filter with
    | some (.keep pick) => some pick
    | _ => none
  drop := match term.filter with
    | some (.drop pick) => some pick
    | _ => none
  reroll := term.reroll
  explode := term.explode
  success := term.success

/-- Taking a term apart and checking its parts gives the term back. -/
theorem Term.check_draft (term : Term) : term.draft.check = .ok term := by
  have countNotZero : ¬ term.draft.count = 0 := term.count_ne_zero
  have sizeNotSmall : ¬ term.draft.size ≤ 0 := Int.not_le.mpr term.size_pos
  unfold Draft.check
  rw [dif_neg countNotZero, dif_neg sizeNotSmall]
  obtain ⟨count, die, filter, reroll, explode, success, nonzero, positive, fits⟩ := term
  cases die <;> rcases filter with _ | pick | pick <;>
    simp_all [Term.draft, Draft.filter, Term.size, Term.isFudge, Die.size]

/-! ## Expressions -/

/-- The dice terms of a notation in order, and the sum of its plain numbers. -/
structure Expression where
  dice : List Term
  modifier : Int
deriving DecidableEq, Repr

/-- The number of dice that an expression throws before any bonus dice. -/
def Expression.diceCount (expression : Expression) : Nat :=
  expression.dice.foldr (fun term count => term.magnitude + count) 0

/-- Both expressions in one: the terms of the first, then those of the second, and the sum of the
modifiers. -/
def Expression.append (first second : Expression) : Expression :=
  ⟨first.dice ++ second.dice, first.modifier + second.modifier⟩

end TabletopDice
