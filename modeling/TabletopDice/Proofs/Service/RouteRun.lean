import TabletopDice.Proofs.Roll.CallCount
import TabletopDice.Proofs.Text.HalfFree
import TabletopDice.Service.Server

/-!
What the routes do with a request. `RollRun` and `StatisticsRun` list the ways in which the two
routes that draw can end, each with the reply, the desk that it leaves and everything that has been
checked by then. Nothing is drawn before all checks are passed.
-/

set_option autoImplicit false

namespace TabletopDice.Service

open Data Sequencing

variable {State : Type}

/-! ## Refusals -/

section Refusals

open Text

/-- The body that gives a reason to the client. -/
def reasonBody (reason : String) : Value :=
  .object [("detail", .text reason)]

theorem write_reasonBody (reason : String) :
    (reasonBody reason).write =
      ('{' :: writeString "detail" ++ [':', doubleQuote]) ++
        (reason.toList.flatMap writeChar ++ doubleQuote :: ['}']) := by
  simp [reasonBody, Value.write, Value.writeFields, withCommas, writeString]

theorem refusal_of_halves?_eq_none {reason : String} (whole : halves? reason.toList = none) :
    Reply.refusal reason = .answer 422 (reasonBody reason) := by
  have free : HalfFree (reasonBody reason).write := by
    rw [write_reasonBody]
    refine HalfFree.append (by decide) (halfFree_flatMap_writeChar _ ?_ ?_)
    · exact halves?_eq_none_iff.mp whole
    · exact halfFree_nil.cons (by decide)
  have unhindered : (reasonBody reason).writeFault? = none := by
    rw [Value.writeFault?, halves?_eq_none_iff.mpr free]
    rfl
  unfold Reply.refusal Reply.detail Reply.written
  rw [← reasonBody, unhindered]

theorem eq_of_refusal_eq_answer {reason : String} {status : Nat} {body : Value}
    (answered : Reply.refusal reason = .answer status body) :
    status = 422 ∧ body = reasonBody reason := by
  unfold Reply.refusal Reply.detail Reply.written at answered
  split at answered
  · cases answered
  · cases answered
    exact ⟨rfl, rfl⟩

end Refusals

/-! ## Replies

To a notation that is not read, to a number above a ceiling, to a roll that has stopped and to a
simulation. -/

def faultReply : ParseFault → Reply
  | .refused fault =>
      match fault.message with
      | .ok reason => .refusal reason
      | .error limit => .failed (.numeral limit)
  | .numeral limit => .failed (.numeral limit)
  | .term fault => .failed (.term fault)

def limitReply (ceiling number : Int) (reason : String → String → String) : Reply :=
  match Text.writeInt number, Text.writeInt ceiling with
  | .ok number, .ok ceiling => .refusal (reason number ceiling)
  | .error limit, _ => .failed (.numeral limit)
  | _, .error limit => .failed (.numeral limit)

def stopReply : RollFault → Reply
  | .explosion label cap => .refusal (RollFault.explosionMessage label cap)
  | .draw fault => .failed (.draw fault)
  | .numeral limit => .failed (.numeral limit)

def simulationReply : EStateM.Result SimulationFault State Summary → Reply
  | .ok summary _ => .result (ofSummary summary)
  | .error (.roll fault) _ => stopReply fault
  | .error (.iterations count) _ => .failed (.iterations count)
  | .error (.summary fault) _ => .failed (.summary fault)

def tooManyReason (number ceiling : String) : String :=
  s!"Too many iterations: {number} (max {ceiling})"

def tooLargeReason (number ceiling : String) : String :=
  s!"Simulation too large: {number} dice (max {ceiling})"

/-! ## Single steps -/

namespace Handling

variable {desk : Desk State}

theorem text_of_ok {Result : Type} {text : Except Text.DigitLimit Result} {result : Result}
    (written : text = .ok result) : Handling.text text desk = .ok result desk := by
  rw [written]
  rfl

theorem text_of_error {Result : Type} {text : Except Text.DigitLimit Result}
    {limit : Text.DigitLimit} (unwritten : text = .error limit) :
    Handling.text text desk = .error (.failed (.numeral limit)) desk := by
  rw [unwritten]
  rfl

theorem parse_of_ok {ceilings : Ceilings} {text words : String} {expression : Expression}
    (read : Expression.parse ceilings text.toList = .ok expression) :
    parse ceilings text words desk = .ok expression desk := by
  simp only [parse, read]
  rfl

theorem parse_of_error (desk : Desk State) (words : String) {ceilings : Ceilings} {text : String}
    {fault : ParseFault}
    (unread : Expression.parse ceilings text.toList = .error fault) :
    ∃ log, parse ceilings text words desk = .error (faultReply fault) { desk with log } := by
  simp only [parse, unread]
  cases fault with
  | refused fault =>
      cases written : fault.message with
      | ok reason =>
          refine ⟨desk.log ++ [⟨.info, LogEntry.routes, s!"{words}: {reason}"⟩], ?_⟩
          simp only [faultReply, written]
          rfl
      | error limit =>
          refine ⟨desk.log, ?_⟩
          simp only [faultReply, written]
          rfl
  | numeral limit => exact ⟨desk.log, rfl⟩
  | term fault => exact ⟨desk.log, rfl⟩

theorem attempt_of_ok {Fault Result : Type} {action : EStateM Fault State Result} {next : State}
    {result : Result} (done : action desk.source = .ok result next) :
    attempt action desk = .ok (.ok result) { desk with source := next } := by
  simp only [attempt, done]

theorem attempt_of_error {Fault Result : Type} {action : EStateM Fault State Result}
    {next : State} {fault : Fault} (failed : action desk.source = .error fault next) :
    attempt action desk = .ok (.error fault) { desk with source := next } := by
  simp only [attempt, failed]

theorem limitTo_of_le {ceiling number : Int} {reason : String → String → String}
    (within : number ≤ ceiling) : limitTo ceiling number reason desk = .ok () desk := by
  rw [limitTo, if_neg (Int.not_lt.mpr within)]
  rfl

theorem limitTo_of_lt {ceiling number : Int} {reason : String → String → String}
    (above : ceiling < number) :
    limitTo ceiling number reason desk = .error (limitReply ceiling number reason) desk := by
  rw [limitTo, if_pos above]
  unfold limitReply
  cases Text.writeInt number with
  | error limit => rfl
  | ok number =>
      cases Text.writeInt ceiling with
      | error limit => rfl
      | ok ceiling => rfl

theorem refuseRoll_eq (Result : Type) (desk : Desk State) (level : LogLevel) (words : String)
    (fault : RollFault) :
    ∃ log, (refuseRoll level words fault : Handling State Result) desk =
      .error (stopReply fault) { desk with log } := by
  cases fault with
  | explosion label cap => exact ⟨_, rfl⟩
  | draw fault => exact ⟨_, rfl⟩
  | numeral limit => exact ⟨_, rfl⟩

end Handling

/-! ## Whole runs -/

section Runs

variable {source : Source State} {settings : Settings} {desk : Desk State}

/-- The ways in which a request for a roll ends. -/
inductive RollRun (source : Source State) (settings : Settings) (request : RollRequest)
    (desk : Desk State) : Reply → Desk State → Prop where
  | unread {fault : ParseFault} {log : List LogEntry}
      (refused : Expression.parse settings.ceilings request.text.toList = .error fault) :
      RollRun source settings request desk (faultReply fault) { desk with log }
  | stopped {expression : Expression} {fault : RollFault} {next : State} {log : List LogEntry}
      (read : Expression.parse settings.ceilings request.text.toList = .ok expression)
      (rolled : expression.roll source settings.maxExplosionChain request.text request.label
        desk.source = .error fault next) :
      RollRun source settings request desk (stopReply fault) ⟨next, log⟩
  | unwritten {expression : Expression} {result : RollResult} {next : State}
      {limit : Text.DigitLimit}
      (read : Expression.parse settings.ceilings request.text.toList = .ok expression)
      (rolled : expression.roll source settings.maxExplosionChain request.text request.label
        desk.source = .ok result next) :
      RollRun source settings request desk (.failed (.numeral limit)) { desk with source := next }
  | completed {expression : Expression} {result : RollResult} {next : State} {body : Value}
      (read : Expression.parse settings.ceilings request.text.toList = .ok expression)
      (rolled : expression.roll source settings.maxExplosionChain request.text request.label
        desk.source = .ok result next) :
      RollRun source settings request desk (.result body) { desk with source := next }

theorem roll_run (request : RollRequest) :
    RollRun source settings request desk (replyOf (roll source settings request desk))
      (deskOf (roll source settings request desk)) := by
  unfold roll
  cases read : Expression.parse settings.ceilings request.text.toList with
  | error fault =>
      obtain ⟨log, refused⟩ := Handling.parse_of_error desk
        s!"Rejected dice notation {Text.quoted request.text.toList}" read
      rw [run_bind_of_error refused]
      exact .unread read
  | ok expression =>
      rw [run_bind_of_ok (Handling.parse_of_ok read)]
      cases rolled : expression.roll source settings.maxExplosionChain request.text request.label
          desk.source with
      | error fault next =>
          rw [run_bind_of_ok (Handling.attempt_of_error rolled)]
          obtain ⟨log, refused⟩ := Handling.refuseRoll_eq Value ⟨next, desk.log⟩ .warning
            s!"Roll of {Text.quoted request.text.toList} aborted" fault
          simp only [refused]
          exact .stopped read rolled
      | ok result next =>
          rw [run_bind_of_ok (Handling.attempt_of_ok rolled)]
          cases written : Text.writeInt result.total with
          | error limit =>
              dsimp only
              rw [run_bind_of_error (Handling.text_of_error written)]
              exact .unwritten read rolled
          | ok total =>
              dsimp only
              rw [run_bind_of_ok (Handling.text_of_ok written)]
              exact .completed read rolled

/-- The number of rolls that a request for statistics stands for. -/
def StatisticsRequest.rolls (request : StatisticsRequest) (settings : Settings) : Int :=
  request.iterations.getD settings.defaultIterations

/-- The ways in which a request for statistics ends, in the order of the checks. -/
inductive StatisticsRun (source : Source State) (settings : Settings) (request : StatisticsRequest)
    (desk : Desk State) : Reply → Desk State → Prop where
  | tooMany (above : settings.maxIterations < request.rolls settings) :
      StatisticsRun source settings request desk
        (limitReply settings.maxIterations (request.rolls settings) tooManyReason) desk
  | unread {fault : ParseFault} {log : List LogEntry}
      (within : request.rolls settings ≤ settings.maxIterations)
      (refused : Expression.parse settings.ceilings request.text.toList = .error fault) :
      StatisticsRun source settings request desk (faultReply fault) { desk with log }
  | tooLarge {expression : Expression}
      (within : request.rolls settings ≤ settings.maxIterations)
      (read : Expression.parse settings.ceilings request.text.toList = .ok expression)
      (above : settings.maxDiceRolled < request.rolls settings * expression.diceCount) :
      StatisticsRun source settings request desk
        (limitReply settings.maxDiceRolled (request.rolls settings * expression.diceCount)
          tooLargeReason) desk
  | simulated {expression : Expression} {outcome : EStateM.Result SimulationFault State Summary}
      {log : List LogEntry}
      (within : request.rolls settings ≤ settings.maxIterations)
      (read : Expression.parse settings.ceilings request.text.toList = .ok expression)
      (small : request.rolls settings * expression.diceCount ≤ settings.maxDiceRolled)
      (ran : expression.simulate source settings.maxExplosionChain (request.rolls settings)
        request.text desk.source = outcome) :
      StatisticsRun source settings request desk (simulationReply outcome) ⟨stateOf outcome, log⟩

theorem statistics_run (request : StatisticsRequest) :
    StatisticsRun source settings request desk (replyOf (statistics source settings request desk))
      (deskOf (statistics source settings request desk)) := by
  unfold statistics
  by_cases within : request.iterations.getD settings.defaultIterations ≤ settings.maxIterations
  case neg =>
    rw [run_bind_of_error (Handling.limitTo_of_lt (Int.not_le.mp within)), replyOf, deskOf]
    exact .tooMany (Int.not_le.mp within)
  rw [run_bind_of_ok (Handling.limitTo_of_le within)]
  cases read : Expression.parse settings.ceilings request.text.toList with
  | error fault =>
      obtain ⟨log, refused⟩ := Handling.parse_of_error desk
        s!"Statistics for {Text.quoted request.text.toList} failed" read
      rw [run_bind_of_error refused]
      exact .unread within read
  | ok expression =>
      rw [run_bind_of_ok (Handling.parse_of_ok read)]
      by_cases small : request.iterations.getD settings.defaultIterations * expression.diceCount ≤
          settings.maxDiceRolled
      case neg =>
        rw [run_bind_of_error (Handling.limitTo_of_lt (Int.not_le.mp small)), replyOf, deskOf]
        exact .tooLarge within read (Int.not_le.mp small)
      rw [run_bind_of_ok (Handling.limitTo_of_le small)]
      cases ran : expression.simulate source settings.maxExplosionChain
          (request.iterations.getD settings.defaultIterations) request.text desk.source with
      | ok summary next =>
          rw [run_bind_of_ok (Handling.attempt_of_ok ran)]
          -- The reply is stated on its own: comparing it with the goal would open the summary.
          have ended : ∀ log, StatisticsRun source settings request desk
              (simulationReply (.ok summary next)) ⟨next, log⟩ :=
            fun log => .simulated within read small ran
          simp only [simulationReply] at ended
          simp only [run_pure, replyOf, deskOf]
          exact ended desk.log
      | error fault next =>
          rw [run_bind_of_ok (Handling.attempt_of_error ran)]
          have ended : ∀ log, StatisticsRun source settings request desk
              (simulationReply (.error fault next)) ⟨next, log⟩ :=
            fun log => .simulated within read small ran
          cases fault with
          | roll fault =>
              obtain ⟨log, refused⟩ := Handling.refuseRoll_eq Value ⟨next, desk.log⟩ .info
                s!"Statistics for {Text.quoted request.text.toList} failed" fault
              simp only [simulationReply] at ended
              simp only [refused, replyOf, deskOf]
              exact ended log
          | iterations count => exact ended desk.log
          | summary fault => exact ended desk.log

end Runs

end TabletopDice.Service
