import TabletopDice.Data.Reader

/-!
Issues with structured data: what is wrong with a value, where it stands, and what stood there.
Checks are made on all parts of a value, and all their issues are kept in order.
-/

set_option autoImplicit false

namespace TabletopDice.Data

inductive IssueKind where
  | missing
  | integerType
  | integerText
  | integerTooLong
  | integerFraction
  | notFinite
  | boolType
  | boolValue
  | textType
  | textHalves
  | member (choices : String)
  | choice (choices : String)
  | atLeast (bound : Int)
  | notAnObject
  | notARecord (name : String)
  | notASet
  | rule (text : String)
  | malformed (problem : Problem)
deriving DecidableEq, Repr

namespace IssueKind

def code : IssueKind → String
  | missing => "missing"
  | integerType => "int_type"
  | integerText => "int_parsing"
  | integerTooLong => "int_parsing_size"
  | integerFraction => "int_from_float"
  | notFinite => "finite_number"
  | boolType => "bool_type"
  | boolValue => "bool_parsing"
  | textType => "string_type"
  | textHalves => "string_unicode"
  | member _ => "enum"
  | choice _ => "literal_error"
  | atLeast _ => "greater_than_equal"
  | notAnObject => "model_attributes_type"
  | notARecord _ => "model_type"
  | notASet => "frozen_set_type"
  | rule _ => "value_error"
  | malformed _ => "json_invalid"

def message : IssueKind → String
  | missing => "Field required"
  | integerType => "Input should be a valid integer"
  | integerText => "Input should be a valid integer, unable to parse string as an integer"
  | integerTooLong => "Unable to parse input string as an integer, exceeded maximum size"
  | integerFraction => "Input should be a valid integer, got a number with a fractional part"
  | notFinite => "Input should be a finite number"
  | boolType => "Input should be a valid boolean"
  | boolValue => "Input should be a valid boolean, unable to interpret input"
  | textType => "Input should be a valid string"
  | textHalves =>
      "Input should be a valid string, unable to parse raw data as a unicode string"
  | member choices => s!"Input should be {choices}"
  | choice choices => s!"Input should be {choices}"
  | atLeast bound => s!"Input should be greater than or equal to {bound}"
  | notAnObject => "Input should be a valid dictionary or object to extract fields from"
  | notARecord name => s!"Input should be a valid dictionary or instance of {name}"
  | notASet => "Input should be a valid frozenset"
  | rule text => s!"Value error, {text}"
  | malformed _ => "JSON decode error"

/-- The facts that the message is about, where they are listed apart. -/
def context : IssueKind → Option Value
  | atLeast bound => some (.object [("ge", .int bound)])
  | malformed problem => some (.object [("error", .text problem.message)])
  | _ => none

end IssueKind

inductive Step where
  | field (name : String)
  | index (place : Nat)
deriving DecidableEq, Repr

/-- An issue, the way to the value that has it, and that value. -/
structure Issue where
  kind : IssueKind
  path : List Step
  input : Value
deriving Repr

/-- The outcome of a check: what was read, or all issues. -/
inductive Checked (α : Type) where
  | accepted (value : α)
  | refused (issues : List Issue)
deriving Repr

namespace Checked

variable {α β : Type}

def map (change : α → β) : Checked α → Checked β
  | accepted value => accepted (change value)
  | refused issues => refused issues

/-- Both checks are made, and the issues of both are kept. -/
def apply (first : Checked (α → β)) (second : Checked α) : Checked β :=
  match first, second with
  | accepted change, accepted value => accepted (change value)
  | accepted _, refused issues => refused issues
  | refused issues, accepted _ => refused issues
  | refused issues, refused more => refused (issues ++ more)

instance : Applicative Checked where
  pure := accepted
  map := map
  seq first second := apply first (second ())

def andThen (check : Checked α) (next : α → Checked β) : Checked β :=
  match check with
  | accepted value => next value
  | refused issues => refused issues

/-- The issues as seen from one step further out. -/
def under (step : Step) : Checked α → Checked α
  | accepted value => accepted value
  | refused issues => refused (issues.map fun issue => { issue with path := step :: issue.path })

def ofRule (rule : Value → Except IssueKind α) (value : Value) : Checked α :=
  match rule value with
  | .ok read => accepted read
  | .error kind => refused [{ kind, path := [], input := value }]

end Checked

end TabletopDice.Data
