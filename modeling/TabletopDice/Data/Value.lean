import TabletopDice.Text.Half

/-!
Structured data as requests, answers and configuration exchange it. Integers are exact and kept
apart from floating numbers, so that `1` and `1.0` differ. Names and texts are in kept form.
-/

set_option autoImplicit false

namespace TabletopDice.Data

/-- A piece of structured data. An object lists its fields in order, each name once. -/
inductive Value where
  | null
  | bool (value : Bool)
  | int (value : Int)
  | real (value : Float)
  | text (value : String)
  | list (items : List Value)
  | object (fields : List (String × Value))
deriving Inhabited, Repr

/-- Named entries with one more of them. An entry of the same name is replaced where it stands. -/
def setEntry {α : Type} (fields : List (String × α)) (name : String) (value : α) :
    List (String × α) :=
  match fields with
  | [] => [(name, value)]
  | (other, present) :: rest =>
      if other == name then (name, value) :: rest
      else (other, present) :: setEntry rest name value

namespace Value

def field? (value : Value) (name : String) : Option Value :=
  match value with
  | .object fields => fields.lookup name
  | _ => none

def ofOption {α : Type} (write : α → Value) : Option α → Value
  | none => .null
  | some present => write present

mutual

def allFinite : Value → Bool
  | .real value => value.isFinite
  | .list items => allFiniteItems items
  | .object fields => allFiniteFields fields
  | _ => true

def allFiniteItems : List Value → Bool
  | [] => true
  | item :: rest => item.allFinite && allFiniteItems rest

def allFiniteFields : List (String × Value) → Bool
  | [] => true
  | (_, value) :: rest => value.allFinite && allFiniteFields rest

end

mutual

/-- The value with null in place of every number that is not finite. -/
def finiteOrNull : Value → Value
  | .real value => if value.isFinite then .real value else .null
  | .list items => .list (finiteItems items)
  | .object fields => .object (finiteFields fields)
  | value => value

def finiteItems : List Value → List Value
  | [] => []
  | item :: rest => item.finiteOrNull :: finiteItems rest

def finiteFields : List (String × Value) → List (String × Value)
  | [] => []
  | (name, value) :: rest => (name, value.finiteOrNull) :: finiteFields rest

end

mutual

/-- The first halves of pairs in the texts and names of a value, with their places in the text
or name. -/
def halves? : Value → Option Text.HalfRun
  | .text value => Text.halves? value.toList
  | .list items => itemHalves? items
  | .object fields => fieldHalves? fields
  | _ => none

def itemHalves? : List Value → Option Text.HalfRun
  | [] => none
  | item :: rest => item.halves?.or (itemHalves? rest)

def fieldHalves? : List (String × Value) → Option Text.HalfRun
  | [] => none
  | (name, value) :: rest =>
      (Text.halves? name.toList).or (value.halves?.or (fieldHalves? rest))

end

end Value

end TabletopDice.Data
