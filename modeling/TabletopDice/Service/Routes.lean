import TabletopDice.Notation.Explanation
import TabletopDice.Roll.Critical
import TabletopDice.Roll.Result
import TabletopDice.Service.Exchange
import TabletopDice.Settings.Environment

/-!
The routes of the service: rolling, explaining and simulating. A route answers a checked request on
any source and writes to the log. Faults of the notation and chains of bonus dice that reach their
cap are refused with their message; any other fault leaves the request without an answer.
-/

set_option autoImplicit false

namespace TabletopDice.Service

open Data

variable {State : Type}

structure Desk (State : Type) where
  source : State
  log : List LogEntry := []

/-- Answering a request. What ends it early is a reply, too. -/
abbrev Handling (State : Type) := EStateM Reply (Desk State)

namespace Handling

def write (entries : List LogEntry) : Handling State Unit :=
  modify fun desk => { desk with log := desk.log ++ entries }

def fail {α : Type} (failure : Failure) : Handling State α :=
  throw (.failed failure)

def text {α : Type} (text : Except Text.DigitLimit α) : Handling State α :=
  match text with
  | .ok value => pure value
  | .error limit => fail (.numeral limit)

/-- Draws from the source. A fault is handed on as a value. -/
def attempt {ε α : Type} (action : EStateM ε State α) : Handling State (Except ε α) := fun desk =>
  match action desk.source with
  | .ok value source => .ok (.ok value) { desk with source }
  | .error fault source => .ok (.error fault) { desk with source }

/-- Ends the request with a reason, after an entry that begins with the given words. -/
def refuse {α : Type} (level : LogLevel) (words : String) (reason : String) : Handling State α :=
  do
    write [⟨level, LogEntry.routes, s!"{words}: {reason}"⟩]
    throw (.refusal reason)

/-- The expression of a notation. A fault of the notation ends the request, with an entry that
begins with the given words. -/
def parse (ceilings : Ceilings) (notationText words : String) : Handling State Expression := do
  match Expression.parse ceilings notationText.toList with
  | .ok expression => return expression
  | .error (.refused fault) => do
      let reason ← text fault.message
      refuse .info words reason
  | .error (.numeral limit) => fail (.numeral limit)
  | .error (.term fault) => fail (.term fault)

/-- Ends the request because of a fault in rolling, with an entry of the given level if the fault
is a chain that reached its cap. -/
def refuseRoll {α : Type} (level : LogLevel) (words : String) (fault : RollFault) :
    Handling State α := do
  write (LogEntry.ofRollFault fault)
  match fault with
  | .explosion label cap => refuse level words (RollFault.explosionMessage label cap)
  | .draw fault => fail (.draw fault)
  | .numeral limit => fail (.numeral limit)

end Handling

/-! ## Rolling -/

def criticalText : Option Critical → String
  | none => ""
  | some .success => "\nNatural 20 - Critical Success!"
  | some .fail => "\nNatural 1 - Critical Fail!"

def rollText (request : RollRequest) (total : String) (critical : Option Critical)
    (breakdown : String) : String :=
  let label :=
    match request.label with
    | none | some "" => ""
    | some label => s!" for {label}"
  let breakdown := if request.verbose then s!"\nBreakdown: {breakdown}" else ""
  s!"You rolled {request.text}{label}:\nTotal: {total}{criticalText critical}{breakdown}"

def criticalName : Critical → String
  | .success => "success"
  | .fail => "fail"

def ofCritical (critical : Critical) : Value :=
  .object [("type", .text (criticalName critical)), ("natural_roll", .int critical.naturalRoll)]

def roll (source : Source State) (settings : Settings) (request : RollRequest) :
    Handling State Value := do
  let shown := Text.quoted request.text.toList
  let expression ←
    Handling.parse settings.ceilings request.text s!"Rejected dice notation {shown}"
  let rolled ← Handling.attempt <|
    expression.roll source settings.maxExplosionChain request.text request.label
  match rolled with
  | .error fault => Handling.refuseRoll .warning s!"Roll of {shown} aborted" fault
  | .ok result => do
      let critical := Critical.detect result.dice
      let total ← Handling.text (Text.writeInt result.total)
      return .object [
        ("notation", .text result.text),
        ("label", .ofOption .text result.label),
        ("total", .int result.total),
        ("rolls", .list (result.dice.map RolledDie.toValue)),
        ("breakdown", .text result.breakdown),
        ("critical", .ofOption ofCritical critical),
        ("modifier", if expression.modifier = 0 then .null else .int expression.modifier),
        ("text", .text (rollText request total critical result.breakdown))]

/-! ## Explaining -/

def ofTermDescription (description : TermDescription) : Value :=
  .object [
    ("sign", .text description.sign.text),
    ("count", .int description.count),
    ("size", .int description.die.size),
    ("fudge", .bool (description.die == .fudge)),
    ("modifiers", .list (description.phrases.map .text))]

def ofDescription (description : Description) : Value :=
  .object [
    ("dice", .list (description.dice.map ofTermDescription)),
    ("modifier", .int description.modifier)]

def ofExplanation (explanation : Explanation) : Value :=
  let (expression, description, problem) :=
    match explanation.verdict with
    | .valid expression description =>
        (expression.toValue Pick.toValue, ofDescription description, Value.null)
    | .invalid _ problem => (.null, .null, .text problem)
  .object [
    ("notation", .text explanation.source),
    ("valid", .bool explanation.isValid),
    ("expression", expression),
    ("description", description),
    ("error", problem),
    ("text", .text explanation.text)]

/-- Explains a notation. It takes no source. -/
def validate (settings : Settings) (request : ValidateRequest) : Handling State Value :=
  match Explanation.ofText settings.ceilings request.text with
  | .ok explanation => return ofExplanation explanation
  | .error (.term fault) => Handling.fail (.term fault)
  | .error (.numeral limit) => Handling.fail (.numeral limit)

/-! ## Simulating -/

/-- A list of pairs as an object whose names are numbers. -/
def ofNumbered (entries : List (Int × Value)) : Value :=
  .object (entries.map fun (number, value) => (number.repr, value))

def ofSummary (summary : Summary) : Value :=
  .object [
    ("notation", .text summary.text),
    ("iterations", .int summary.iterations),
    ("min", .int summary.min),
    ("max", .int summary.max),
    ("mean", .real summary.mean),
    ("median", .int summary.median),
    ("mode", .list (summary.mode.map .int)),
    ("standard_deviation", .real summary.standardDeviation),
    ("probabilities", ofNumbered (summary.probabilities.map fun (total, share) =>
      (total, .real share))),
    ("percentiles", ofNumbered (summary.percentiles.map fun (percent, total) =>
      (percent, .int total)))]

/-- Refuses a number above a ceiling, the reason being made of the two. -/
def limitTo (ceiling : Int) (number : Int) (reason : String → String → String) :
    Handling State Unit := do
  if ceiling < number then
    let number ← Handling.text (Text.writeInt number)
    let ceiling ← Handling.text (Text.writeInt ceiling)
    throw (.refusal (reason number ceiling))

/-- Simulates a notation, as often as the client or else the settings say. -/
def statistics (source : Source State) (settings : Settings) (request : StatisticsRequest) :
    Handling State Value := do
  let words := s!"Statistics for {Text.quoted request.text.toList} failed"
  let iterations := request.iterations.getD settings.defaultIterations
  limitTo settings.maxIterations iterations fun number ceiling =>
    s!"Too many iterations: {number} (max {ceiling})"
  let expression ← Handling.parse settings.ceilings request.text words
  limitTo settings.maxDiceRolled (iterations * expression.diceCount) fun number ceiling =>
    s!"Simulation too large: {number} dice (max {ceiling})"
  let simulated ← Handling.attempt <|
    expression.simulate source settings.maxExplosionChain iterations request.text
  match simulated with
  | .ok summary => return ofSummary summary
  | .error (.roll fault) => Handling.refuseRoll .info words fault
  | .error (.iterations count) => Handling.fail (.iterations count)
  | .error (.summary fault) => Handling.fail (.summary fault)

end TabletopDice.Service
