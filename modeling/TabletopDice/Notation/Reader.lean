import TabletopDice.Dice.Term
import TabletopDice.Notation.Piece
import TabletopDice.Notation.Token
import TabletopDice.Number.Arithmetic

/-!
Reading dice notation. Every piece is a dice term or a plain number; the terms keep their order
and the numbers are summed. The first piece at fault decides the error, and of its faults the one
that is looked for first.
-/

set_option autoImplicit false

namespace TabletopDice

/-- How large the numbers of a term may be: the dice, the size of a die, and their product. -/
structure Ceilings where
  maxDice : Int := 1000
  maxDieSize : Int := 10000
  maxCombination : Int := 100000
deriving DecidableEq, Repr

def readNumber (digits : List Char) : Except ParseFault Int :=
  match Text.readDigits digits with
  | .ok value => .ok value
  | .error limit => .error (.numeral limit)

def require (condition : Prop) [Decidable condition] (fault : NotationFault) :
    Except ParseFault Unit :=
  if condition then .ok () else fault.refuse

theorem require_eq_ok_iff {condition : Prop} [Decidable condition] {fault : NotationFault} :
    require condition fault = .ok () ↔ condition := by
  unfold require NotationFault.refuse
  split
  · simp [*]
  · cases fault.message <;> simp [*]

def SizeToken.die : SizeToken → Except ParseFault Die
  | .digits run => do return .sided (← readNumber run)
  | .percent => .ok (.sided Die.percentileSize)
  | .fudge => .ok .fudge

namespace TermToken

/-- The number of dice that a token asks for; one, if it names none. -/
def diceCount (token : TermToken) : Except ParseFault Int :=
  match token.count with
  | none => .ok 1
  | some digits => readNumber digits

/-- The filter of a written one, which has to leave some of the dice and take some. -/
def readFilter (dice : Int) (token : FilterToken) : Except ParseFault Filter := do
  let count ← readNumber token.digits
  require (0 < count) (.filterCount token.kind count)
  require (count < dice) (.filterExceedsDice token.kind count dice)
  return token.kind.filter ⟨token.side, count⟩

def readFace (die : Die) (fault : Int → Int → Int → NotationFault) (digits : List Char) :
    Except ParseFault Int := do
  let value ← readNumber digits
  require (die.minFace ≤ value ∧ value ≤ die.maxFace) (fault value die.minFace die.maxFace)
  return value

/-- The checked parts of a token, before they are put together. -/
def draft (ceilings : Ceilings) (sign : Sign) (token : TermToken) : Except ParseFault Draft := do
  let count ← token.diceCount
  let die ← token.size.die
  require (0 < count) (.diceCount count)
  require (count ≤ ceilings.maxDice) (.tooManyDice count ceilings.maxDice)
  require (0 < die.size) (.dieSize die.size)
  require (die.size ≤ ceilings.maxDieSize) (.dieTooLarge die.size ceilings.maxDieSize)
  require (count * die.size ≤ ceilings.maxCombination)
    (.combinationTooLarge count die.size ceilings.maxCombination)
  let filter ← token.filter.mapM (readFilter count)
  let reroll ← token.reroll.mapM (readFace die .rerollFace)
  let success ← token.success.mapM (readFace die .successThreshold)
  return {
    count := sign.apply count
    size := die.size
    fudge := die == .fudge
    keep := match filter with
      | some (.keep pick) => some pick
      | _ => none
    drop := match filter with
      | some (.drop pick) => some pick
      | _ => none
    reroll := reroll.map fun face => {face}
    explode := token.explode
    success }

def term (ceilings : Ceilings) (sign : Sign) (token : TermToken) : Except ParseFault Term := do
  let draft ← token.draft ceilings sign
  match draft.check with
  | .ok term => return term
  | .error fault => throw (.term fault)

end TermToken

inductive Item where
  | term (term : Term)
  | number (value : Int)
deriving DecidableEq, Repr

def Piece.item (ceilings : Ceilings) (piece : Piece) : Except ParseFault Item :=
  match TermToken.read? piece.text with
  | some token => do return .term (← token.term ceilings piece.sign)
  | none =>
      if piece.text.all Text.isDigit then do
        return .number (piece.sign.apply (← readNumber piece.text))
      else (NotationFault.unrecognized piece.text).refuse

namespace Item

def term? : Item → Option Term
  | .term found => some found
  | .number _ => none

def value : Item → Int
  | .term _ => 0
  | .number found => found

end Item

namespace Expression

/-- The terms of some items in order, and the sum of their numbers. -/
def ofItems (items : List Item) : Expression where
  dice := items.filterMap Item.term?
  modifier := Number.sum (items.map Item.value)

/-- The expression that a notation denotes under the given ceilings. -/
def parse (ceilings : Ceilings) (text : List Char) : Except ParseFault Expression := do
  if Text.allBlank text then NotationFault.empty.refuse
  if !hasDiePair text then (NotationFault.noDice text).refuse
  let items ← (Piece.split text).mapM (Piece.item ceilings)
  let expression := ofItems items
  if expression.dice.isEmpty then (NotationFault.noDice text).refuse
  return expression

end Expression

end TabletopDice
