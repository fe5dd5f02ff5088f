import TabletopDice.Data.Issue
import TabletopDice.Text.Numeral

/-!
Lenient reading of single values and of the fields of an object. A number may come as text or as a
floating number without a fraction, and a yes or no as one of several words or as 0 or 1.
-/

set_option autoImplicit false

namespace TabletopDice.Data.Field

abbrev Rule (α : Type) := Value → Except IssueKind α

/-- The integer that a text denotes. A plain numeral at its start must not be too long. -/
def integerOfText (text : List Char) : Except IssueKind Int :=
  if Text.beginsTooLong text then .error .integerTooLong
  else
    match Text.readLoose? text with
    | some number => .ok number
    | none => .error .integerText

/-- Half the number of values of a word of 64 bits, 2^63. -/
def wordBound : Int := 9223372036854775808

/-- The integer that a floating number is. Beyond the range of 64 bits none is taken. -/
def integerOfReal (number : Float) : Except IssueKind Int :=
  if !number.isFinite then .error .notFinite
  else if number != number.floor then .error .integerFraction
  else if -9223372036854775808 < number && number < 9223372036854775808 then
    .ok number.toInt64.toInt
  else .error .integerTooLong

/-- The characters of a text that denotes a value. They must not have halves of pairs among
them. -/
def characters (text : String) : Except IssueKind (List Char) :=
  if (Text.halves? text.toList).isSome then .error .textHalves else .ok text.toList

def integer : Rule Int
  | .int value => .ok value
  | .bool value => .ok (if value then 1 else 0)
  | .real value => integerOfReal value
  | .text value => characters value >>= integerOfText
  | _ => .error .integerType

def noWords : List String := ["0", "off", "f", "false", "n", "no"]

def yesWords : List String := ["1", "on", "t", "true", "y", "yes"]

def boolOfText (text : List Char) : Except IssueKind Bool :=
  let word := (String.ofList text).toLower
  if noWords.contains word then .ok false
  else if yesWords.contains word then .ok true
  else .error .boolValue

def boolOfInteger (number : Int) : Except IssueKind Bool :=
  if number = 0 then .ok false else if number = 1 then .ok true else .error .boolValue

def bool : Rule Bool
  | .bool value => .ok value
  | .text value => characters value >>= boolOfText
  | .int value =>
      if -wordBound ≤ value ∧ value < wordBound then boolOfInteger value
      else .error .boolType
  | .real value =>
      match integerOfReal value with
      | .ok value => boolOfInteger value
      | .error _ => .error .boolType
  | _ => .error .boolType

def text : Rule String
  | .text value => .ok value
  | _ => .error .textType

/-- An integer that is not below a bound. -/
def integerFrom (bound : Int) : Rule Int := fun value => do
  let number ← integer value
  if number < bound then .error (.atLeast bound) else .ok number

variable {α : Type}

/-- The check of a value that may also be null. -/
def nullable (check : Value → Checked α) (value : Value) : Checked (Option α) :=
  match value with
  | .null => .accepted none
  | value => (check value).map some

def required (object : Value) (name : String) (check : Value → Checked α) : Checked α :=
  match object.field? name with
  | some value => (check value).under (.field name)
  | none => .refused [{ kind := .missing, path := [.field name], input := object }]

def optional (object : Value) (name : String) (absent : α) (check : Value → Checked α) :
    Checked α :=
  match object.field? name with
  | some value => (check value).under (.field name)
  | none => .accepted absent

def items (check : Value → Checked α) (values : List Value) : Checked (List α) :=
  values.zipIdx.foldr
    (fun (value, place) rest =>
      (Checked.map List.cons ((check value).under (.index place))).apply rest)
    (.accepted [])

end TabletopDice.Data.Field
