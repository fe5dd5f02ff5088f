import TabletopDice.Dice.Term
import TabletopDice.Notation.Fault
import TabletopDice.Notation.Piece

/-!
Describing expressions in words. A description lists the terms of an expression, each with the
phrases that its options add.
-/

set_option autoImplicit false

namespace TabletopDice

def Sign.text : Sign → String
  | .plus => "+"
  | .minus => "-"

/-- A term in words: its dice, and a phrase for each option. -/
structure TermDescription where
  sign : Sign
  count : Nat
  die : Die
  phrases : List String
deriving DecidableEq, Repr

namespace TermDescription

def sideWord : Side → String
  | .highest => "highest"
  | .lowest => "lowest"

def filterPhrase (filter : Filter) : Except Text.DigitLimit String := do
  let count ← Text.writeInt filter.pick.count
  let verb :=
    match filter with
    | .keep _ => FilterKind.keep.verb
    | .drop _ => FilterKind.drop.verb
  return verb ++ " " ++ sideWord filter.pick.side ++ " " ++ count

def rerollPhrase (faces : FaceSet) : Except Text.DigitLimit String := do
  let faces ← faces.values.mapM Text.writeInt
  return "reroll " ++ ", ".intercalate faces

def successPhrase (threshold : Int) : Except Text.DigitLimit String := do
  let threshold ← Text.writeInt threshold
  return s!"success on {threshold}+"

def rerolled (term : Term) : Option FaceSet :=
  term.reroll.filter (!·.values.isEmpty)

def phrasesOf (term : Term) : Except Text.DigitLimit (List String) := do
  let filter ← term.filter.mapM filterPhrase
  let reroll ← (rerolled term).mapM rerollPhrase
  let explode := if term.explode then some "exploding dice" else none
  let success ← term.success.mapM successPhrase
  return [filter, reroll, explode, success].filterMap id

def ofTerm (term : Term) : Except Text.DigitLimit TermDescription := do
  let phrases ← phrasesOf term
  return {
    sign := if term.isNegative then .minus else .plus
    count := term.magnitude
    die := term.die
    phrases }

def text (description : TermDescription) : Except Text.DigitLimit String := do
  let count ← Text.writeNat description.count
  let size ← Term.sizeText description.die
  let sign := match description.sign with
    | .plus => ""
    | .minus => "-"
  let phrases := description.phrases.map fun phrase => s!" ({phrase})"
  return sign ++ count ++ "d" ++ size ++ String.join phrases

end TermDescription

structure Description where
  dice : List TermDescription
  modifier : Int
deriving DecidableEq, Repr

namespace Description

def ofExpression (expression : Expression) : Except Text.DigitLimit Description := do
  let dice ← expression.dice.mapM TermDescription.ofTerm
  return { dice, modifier := expression.modifier }

/-- The lines of the text below its heading: one for each term, and one for a modifier that is not
zero. -/
def lines (description : Description) : Except Text.DigitLimit (List String) := do
  let dice ← description.dice.mapM TermDescription.text
  let modifier ←
    if description.modifier = 0 then pure []
    else do
      let modifier ← Text.writeSigned description.modifier
      pure [s!"Modifier: {modifier}"]
  return dice ++ modifier

def text (description : Description) : Except Text.DigitLimit String := do
  let lines ← description.lines
  return "\n".intercalate ("Breakdown:" :: lines.map fun line => s!"• {line}")

end Description

end TabletopDice
