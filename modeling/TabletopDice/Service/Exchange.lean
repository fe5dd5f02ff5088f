import TabletopDice.Data.Record
import TabletopDice.Data.Writer
import TabletopDice.Service.Log
import TabletopDice.Service.Target
import TabletopDice.Statistics.Simulation
import TabletopDice.Text.Encoding

/-!
Exchanges between a client and the service: requests with their bodies, the replies, and the way
from a body to a checked request.
-/

set_option autoImplicit false

namespace TabletopDice.Service

open Data

/-- The body of a request: nothing, a text that is still to be read, or data that has been. -/
inductive Body where
  | absent
  | text (text : String)
  | data (value : Value)
deriving Repr

structure Request where
  method : String := "POST"
  target : String
  body : Body := .absent
deriving Repr

/-- Why a request stays without an answer. What is not written is either the text of an answer or
a part of a result, where halves of pairs are found at their places in the part. -/
inductive Failure where
  | target (fault : TargetFault)
  | numeral (limit : Text.DigitLimit)
  | term (fault : TermFault)
  | draw (fault : DrawFault)
  | iterations (count : Int)
  | summary (fault : SummaryFault)
  | unwritten (fault : WriteFault)
  | unwrittenPart (run : Text.HalfRun)
deriving DecidableEq, Repr

def unwrittenPartMessage (run : Text.HalfRun) : String :=
  s!"Error serializing to JSON: UnicodeEncodeError: {halvesMessage run}"

/-- What the client gets: an answer with a status and a body or without one, or nothing because of
a failure. -/
inductive Reply where
  | answer (status : Nat) (body : Value)
  | empty (status : Nat)
  | failed (failure : Failure)
deriving Repr

namespace Reply

/-- The answer with a result. Numbers that are not finite become null. -/
def result (body : Value) : Reply :=
  match body.halves? with
  | some run => failed (.unwrittenPart run)
  | none => answer 200 body.finiteOrNull

def written (status : Nat) (body : Value) : Reply :=
  match body.writeFault? with
  | some fault => failed (.unwritten fault)
  | none => answer status body

def withoutBody : Reply → Reply
  | answer status _ => empty status
  | reply => reply

def detail (status : Nat) (value : Value) : Reply :=
  written status (.object [("detail", value)])

def refusal (reason : String) : Reply :=
  detail 422 (.text reason)

def ofStep : Step → Value
  | .field name => .text name
  | .index place => .int place

def ofIssue (issue : Issue) : Value :=
  .object <|
    [("type", .text issue.kind.code), ("loc", .list (issue.path.map ofStep)),
      ("msg", .text issue.kind.message), ("input", issue.input)] ++
    (issue.kind.context.map fun context => ("ctx", context)).toList

def ofIssues (issues : List Issue) : Reply :=
  detail 422 (.list (issues.map ofIssue))

end Reply

/-! ## Bodies -/

/-- The answer to a body that cannot be read for another reason than its form. -/
def unreadable : Reply := .detail 400 (.text "There was an error parsing the body")

def Body.decode : Body → Except Reply (Option Value)
  | absent => .ok none
  | data value => .ok (some value)
  | text content =>
      if content.isEmpty then .ok none
      else
        match (Text.decode content.toList).map (Value.read {}) with
        | some (.ok value) => .ok (some value)
        | some (.error (.malformed problem position)) =>
            .error <| .ofIssues [{
              kind := .malformed problem
              path := [.field "body", .index position]
              input := .object [] }]
        | some (.error (.numeral _)) | some (.error .nesting) | none => .error unreadable

def checkBody {α : Type} (check : Value → Checked α) (body : Option Value) : Checked α :=
  Checked.under (.field "body") <|
    match body with
    | none => .refused [{ kind := .missing, path := [], input := .null }]
    | some (.object fields) => check (.object fields)
    | some value => .refused [{ kind := .notAnObject, path := [], input := value }]

/-- A request for a roll. With `verbose` the answer's text shows the breakdown. -/
structure RollRequest where
  text : String
  label : Option String := none
  verbose : Bool := false
deriving DecidableEq, Repr

def RollRequest.check (value : Value) : Checked RollRequest :=
  RollRequest.mk <$> Field.required value "notation" (.ofRule Field.text)
    <*> Field.optional value "label" none (Field.nullable (.ofRule Field.text))
    <*> Field.optional value "verbose" false (.ofRule Field.bool)

structure ValidateRequest where
  text : String
deriving DecidableEq, Repr

def ValidateRequest.check (value : Value) : Checked ValidateRequest :=
  ValidateRequest.mk <$> Field.required value "notation" (.ofRule Field.text)

/-- A request for statistics, with the number of rolls if the client chooses it. -/
structure StatisticsRequest where
  text : String
  iterations : Option Int := none
deriving DecidableEq, Repr

def StatisticsRequest.check (value : Value) : Checked StatisticsRequest :=
  StatisticsRequest.mk <$> Field.required value "notation" (.ofRule Field.text)
    <*> Field.optional value "iterations" none (Field.nullable (.ofRule (Field.integerFrom 1)))

end TabletopDice.Service
