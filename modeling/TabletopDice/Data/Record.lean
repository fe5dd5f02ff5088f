import TabletopDice.Data.Field
import TabletopDice.Dice.Term
import TabletopDice.Roll.RolledDie

/-!
Terms, expressions and rolled dice as structured data. Their fields are read leniently; a term is
then checked as a whole, once every field is good.
-/

set_option autoImplicit false

namespace TabletopDice

open Data

inductive RecordKind where
  | term
  | expression
  | die
deriving DecidableEq, Repr

structure RecordFault where
  kind : RecordKind
  issues : List Issue
deriving Repr

def RecordFault.orElse {α : Type} (kind : RecordKind) : Checked α → Except RecordFault α
  | .accepted value => .ok value
  | .refused issues => .error { kind, issues }

/-! ## Reading -/

def Side.ofValue : Field.Rule Side
  | .text "h" => .ok .highest
  | .text "l" => .ok .lowest
  | _ => .error (.member "'h' or 'l'")

def Pick.ofValue (value : Value) : Checked Pick :=
  match value with
  | .object _ =>
      Pick.mk <$> Field.required value "direction" (.ofRule Side.ofValue)
        <*> Field.required value "count" (.ofRule Field.integer)
  | _ => .ofRule (fun _ => .error (.notARecord "KeepDrop")) value

def FaceSet.ofValue (value : Value) : Checked FaceSet :=
  match value with
  | .list values => (Field.items (.ofRule Field.integer) values).map FaceSet.ofList
  | _ => .ofRule (fun _ => .error .notASet) value

def Draft.ofValue (value : Value) : Checked Draft :=
  Draft.mk <$> Field.required value "count" (.ofRule Field.integer)
    <*> Field.required value "size" (.ofRule Field.integer)
    <*> Field.optional value "fudge" false (.ofRule Field.bool)
    <*> Field.optional value "keep" none (Field.nullable Pick.ofValue)
    <*> Field.optional value "drop" none (Field.nullable Pick.ofValue)
    <*> Field.optional value "reroll" none (Field.nullable FaceSet.ofValue)
    <*> Field.optional value "explode" false (.ofRule Field.bool)
    <*> Field.optional value "success" none (Field.nullable (.ofRule Field.integer))

def Term.ofValue (value : Value) : Except RecordFault Term :=
  RecordFault.orElse .term <| (Draft.ofValue value).andThen fun draft =>
    match draft.check with
    | .ok term => .accepted term
    | .error fault => .refused [{ kind := .rule fault.message, path := [], input := value }]

/-- An expression from the list of its terms and its modifier, either of which may be left out. -/
def Expression.ofValue (value : Value) : Except RecordFault Expression := do
  let terms :=
    match value.field? "dice" with
    | some (.list terms) => terms
    | _ => []
  let dice ← terms.mapM Term.ofValue
  let modifier ← RecordFault.orElse .expression <|
    Field.optional value "modifier" 0 (.ofRule Field.integer)
  return { dice, modifier }

def RolledDie.ofValue (value : Value) : Except RecordFault RolledDie :=
  RecordFault.orElse .die <|
    RolledDie.mk <$> Field.required value "size" (.ofRule Field.integer)
      <*> Field.required value "result" (.ofRule Field.integer)
      <*> Field.optional value "modified" none (Field.nullable (.ofRule Field.integer))
      <*> Field.optional value "dropped" false (.ofRule Field.bool)
      <*> Field.optional value "exploded" false (.ofRule Field.bool)
      <*> Field.optional value "rerolled" false (.ofRule Field.bool)

/-! ## Writing -/

def Side.letter : Side → String
  | .highest => "h"
  | .lowest => "l"

def Pick.toValue (pick : Pick) : Value :=
  .object [("direction", .text pick.side.letter), ("count", .int pick.count)]

def FaceSet.toValue (faces : FaceSet) : Value :=
  .list (faces.values.map .int)

/-- The fields of a term, picks being written by the given rule. -/
def Term.fields (writePick : Pick → Value) (term : Term) : List (String × Value) :=
  let draft := term.draft
  [("count", .int draft.count), ("size", .int draft.size), ("fudge", .bool draft.fudge),
    ("keep", .ofOption writePick draft.keep), ("drop", .ofOption writePick draft.drop),
    ("reroll", .ofOption FaceSet.toValue draft.reroll), ("explode", .bool draft.explode),
    ("success", .ofOption .int draft.success)]

def Expression.toValue (writePick : Pick → Value) (expression : Expression) : Value :=
  .object [
    ("dice", .list (expression.dice.map fun term => .object (term.fields writePick))),
    ("modifier", .int expression.modifier)]

def RolledDie.toValue (die : RolledDie) : Value :=
  .object [("size", .int die.size), ("result", .int die.result),
    ("modified", .ofOption .int die.modified), ("dropped", .bool die.dropped),
    ("exploded", .bool die.exploded), ("rerolled", .bool die.rerolled)]

end TabletopDice
