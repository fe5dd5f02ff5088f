import TabletopDice.Proofs.Notation.Explained
import TabletopDice.Proofs.Service.RouteRun

/-!
What the three routes make of one notation. The route that explains tells the client whether the
notation is valid. The two routes that draw read it in the same way: they refuse what is not valid,
with the same reason and before anything is drawn, and refuse what is valid only for a limit that
rolling it exceeds.
-/

set_option autoImplicit false

namespace TabletopDice.Service

open Data

variable {State : Type}

/-! ## Answers -/

theorem status_of_result_eq_answer {body shown : Value} {status : Nat}
    (answered : Reply.result body = .answer status shown) :
    status = 200 ∧ shown = body.finiteOrNull ∧ body.halves? = none := by
  unfold Reply.result at answered
  cases halves : body.halves? with
  | some run =>
      rw [halves] at answered
      cases answered
  | none =>
      rw [halves] at answered
      cases answered
      exact ⟨rfl, rfl, rfl⟩

theorem eq_of_stopReply_eq_answer {fault : RollFault} {status : Nat} {body : Value}
    (answered : stopReply fault = .answer status body) :
    ∃ label cap, fault = .explosion label cap ∧
      body = reasonBody (RollFault.explosionMessage label cap) := by
  cases fault with
  | explosion label cap => exact ⟨label, cap, rfl, (eq_of_refusal_eq_answer answered).2⟩
  | draw fault => cases answered
  | numeral limit => cases answered

theorem eq_of_limitReply_eq_answer {ceiling number : Int} {reason : String → String → String}
    {status : Nat} {body : Value}
    (answered : limitReply ceiling number reason = .answer status body) :
    body = reasonBody (reason number.repr ceiling.repr) := by
  unfold limitReply at answered
  cases first : Text.writeInt number with
  | error limit =>
      rw [first] at answered
      cases answered
  | ok shown =>
      cases second : Text.writeInt ceiling with
      | error limit =>
          rw [first, second] at answered
          cases answered
      | ok bound =>
          rw [first, second] at answered
          obtain ⟨-, rfl⟩ := Text.writeInt_eq_ok_iff.mp first
          obtain ⟨-, rfl⟩ := Text.writeInt_eq_ok_iff.mp second
          exact (eq_of_refusal_eq_answer answered).2

/-! ## Explaining -/

/-- The client learns that the notation is not valid, and what is wrong with it. -/
def Reply.FindsFault (reply : Reply) (problem : String) : Prop :=
  ∃ body, reply = .answer 200 body ∧ body.field? "valid" = some (.bool false) ∧
    body.field? "error" = some (.text problem)

/-- The client learns that the notation is valid. -/
def Reply.FindsValid (reply : Reply) : Prop :=
  ∃ body, reply = .answer 200 body ∧ body.field? "valid" = some (.bool true)

theorem validate_eq_result {settings : Settings} {request : ValidateRequest} {desk : Desk State}
    {body : Value}
    (answered : replyOf (validate settings request desk) = .answer 200 body) :
    ∃ explanation, Explanation.ofText settings.ceilings request.text = .ok explanation ∧
      body = (ofExplanation explanation).finiteOrNull ∧
      (ofExplanation explanation).halves? = none := by
  unfold validate at answered
  cases explained : Explanation.ofText settings.ceilings request.text with
  | error reason =>
      rw [explained] at answered
      cases reason <;> cases answered
  | ok explanation =>
      rw [explained] at answered
      exact ⟨explanation, rfl, (status_of_result_eq_answer answered).2⟩

section Explaining

variable {settings : Settings} {text problem : String} {desk : Desk State}

theorem exists_fault_of_findsFault
    (found : (replyOf (validate settings ⟨text⟩ desk)).FindsFault problem) :
    ∃ fault, Expression.parse settings.ceilings text.toList = .error (.refused fault) ∧
      faultReply (.refused fault) = .answer 422 (reasonBody problem) := by
  obtain ⟨body, answered, invalid, shown⟩ := found
  obtain ⟨explanation, explained, rfl, whole⟩ := validate_eq_result answered
  have right := (Explanation.agrees_of_ofText explained).verdict
  obtain ⟨source, verdict, text⟩ := explanation
  cases verdict with
  | valid expression description => cases invalid
  | invalid fault reason =>
      obtain ⟨refused, written⟩ := right
      cases shown
      refine ⟨fault, refused, ?_⟩
      rw [faultReply, written]
      exact refusal_of_halves?_eq_none (Value.halves?_eq_none_of_field? "error" whole rfl)

theorem exists_expression_of_findsValid
    (found : (replyOf (validate settings ⟨text⟩ desk)).FindsValid) :
    ∃ expression, Expression.parse settings.ceilings text.toList = .ok expression := by
  obtain ⟨body, answered, valid⟩ := found
  obtain ⟨explanation, explained, rfl, -⟩ := validate_eq_result answered
  have right := (Explanation.agrees_of_ofText explained).verdict
  obtain ⟨source, verdict, text⟩ := explanation
  cases verdict with
  | valid expression description => exact ⟨expression, right.1⟩
  | invalid fault reason => cases valid

end Explaining

/-! ## Rolling and simulating -/

section Runs

variable {source : Source State} {settings : Settings} {desk left : Desk State} {reply : Reply}
  {body : Value}

theorem RollRun.of_unread {request : RollRequest} {fault : ParseFault}
    (run : RollRun source settings request desk reply left)
    (unread : Expression.parse settings.ceilings request.text.toList = .error fault) :
    reply = faultReply fault ∧ left.source = desk.source := by
  cases run with
  | unread refused =>
      obtain rfl : _ = fault := by simpa [refused] using unread
      exact ⟨rfl, rfl⟩
  | stopped read _ => simp [read] at unread
  | unwritten read _ => simp [read] at unread
  | completed read _ => simp [read] at unread

theorem StatisticsRun.of_unread {request : StatisticsRequest} {fault : ParseFault}
    (run : StatisticsRun source settings request desk reply left)
    (unread : Expression.parse settings.ceilings request.text.toList = .error fault) :
    (request.rolls settings ≤ settings.maxIterations → reply = faultReply fault) ∧
      left.source = desk.source := by
  cases run with
  | tooMany above => exact ⟨fun within => absurd above (Int.not_lt.mpr within), rfl⟩
  | unread _ refused =>
      obtain rfl : _ = fault := by simpa [refused] using unread
      exact ⟨fun _ => rfl, rfl⟩
  | tooLarge _ read _ => simp [read] at unread
  | simulated _ read _ _ => simp [read] at unread

/-- Why a roll of a valid notation is refused. -/
inductive RollLimit (source : Source State) (settings : Settings) (request : RollRequest)
    (desk : Desk State) : String → Prop where
  | chain {expression : Expression} {label cap : String} {next : State}
      (read : Expression.parse settings.ceilings request.text.toList = .ok expression)
      (rolled : expression.roll source settings.maxExplosionChain request.text request.label
        desk.source = .error (.explosion label cap) next) :
      RollLimit source settings request desk (RollFault.explosionMessage label cap)

/-- Why statistics of a valid notation are refused. -/
inductive StatisticsLimit (source : Source State) (settings : Settings)
    (request : StatisticsRequest) (desk : Desk State) : String → Prop where
  | iterations (above : settings.maxIterations < request.rolls settings) :
      StatisticsLimit source settings request desk
        (tooManyReason (request.rolls settings).repr settings.maxIterations.repr)
  | dice {expression : Expression}
      (read : Expression.parse settings.ceilings request.text.toList = .ok expression)
      (above : settings.maxDiceRolled < request.rolls settings * expression.diceCount) :
      StatisticsLimit source settings request desk
        (tooLargeReason (request.rolls settings * expression.diceCount).repr
          settings.maxDiceRolled.repr)
  | chain {expression : Expression} {label cap : String} {next : State}
      (read : Expression.parse settings.ceilings request.text.toList = .ok expression)
      (ran : expression.simulate source settings.maxExplosionChain (request.rolls settings)
        request.text desk.source = .error (.roll (.explosion label cap)) next) :
      StatisticsLimit source settings request desk (RollFault.explosionMessage label cap)

theorem RollRun.limit_of_refused {request : RollRequest} {expression : Expression}
    (run : RollRun source settings request desk reply left)
    (read : Expression.parse settings.ceilings request.text.toList = .ok expression)
    (refused : reply = .answer 422 body) :
    ∃ reason, body = reasonBody reason ∧ RollLimit source settings request desk reason := by
  cases run with
  | unread unread => simp [read] at unread
  | stopped read rolled =>
      obtain ⟨label, cap, rfl, rfl⟩ := eq_of_stopReply_eq_answer refused
      exact ⟨_, rfl, .chain read rolled⟩
  | unwritten _ _ => cases refused
  | completed _ _ => exact absurd (status_of_result_eq_answer refused).1 (by decide)

theorem StatisticsRun.limit_of_refused {request : StatisticsRequest} {expression : Expression}
    (run : StatisticsRun source settings request desk reply left)
    (read : Expression.parse settings.ceilings request.text.toList = .ok expression)
    (refused : reply = .answer 422 body) :
    ∃ reason, body = reasonBody reason ∧ StatisticsLimit source settings request desk reason := by
  cases run with
  | tooMany above => exact ⟨_, eq_of_limitReply_eq_answer refused, .iterations above⟩
  | unread _ unread => simp [read] at unread
  | tooLarge _ read above => exact ⟨_, eq_of_limitReply_eq_answer refused, .dice read above⟩
  | @simulated expression outcome log _ read _ ran =>
      cases outcome with
      | ok summary next => exact absurd (status_of_result_eq_answer refused).1 (by decide)
      | error fault next =>
          cases fault with
          | roll fault =>
              obtain ⟨label, cap, rfl, rfl⟩ := eq_of_stopReply_eq_answer refused
              exact ⟨_, rfl, .chain read ran⟩
          | iterations count => cases refused
          | summary fault => cases refused

end Runs

/-! ## The three routes together -/

section Together

variable (source : Source State) (settings : Settings) (text : String)

/-- The routes that draw refuse the notation for the given reason and draw nothing. Only a request
for too many rolls is refused for that first. -/
structure RefusedUndrawn (problem : String) : Prop where
  roll : ∀ (label : Option String) (verbose : Bool) (desk : Desk (State × List Call)),
    let handled := roll source.recorded settings ⟨text, label, verbose⟩ desk
    replyOf handled = .answer 422 (reasonBody problem) ∧ (deskOf handled).source = desk.source
  statistics : ∀ (iterations : Option Int) (desk : Desk (State × List Call)),
    let request : StatisticsRequest := ⟨text, iterations⟩
    let handled := statistics source.recorded settings request desk
    (request.rolls settings ≤ settings.maxIterations →
      replyOf handled = .answer 422 (reasonBody problem)) ∧ (deskOf handled).source = desk.source

/-- Whenever a route that draws refuses the notation, it names a limit that is exceeded. -/
structure RefusedForLimits : Prop where
  roll : ∀ (label : Option String) (verbose : Bool) (desk : Desk State) (body : Value),
    replyOf (roll source settings ⟨text, label, verbose⟩ desk) = .answer 422 body →
      ∃ reason, body = reasonBody reason ∧
        RollLimit source settings ⟨text, label, verbose⟩ desk reason
  statistics : ∀ (iterations : Option Int) (desk : Desk State) (body : Value),
    replyOf (statistics source settings ⟨text, iterations⟩ desk) = .answer 422 body →
      ∃ reason, body = reasonBody reason ∧
        StatisticsLimit source settings ⟨text, iterations⟩ desk reason

/-- Explaining a notation tells what the other routes do with it. -/
theorem validate_decides {Explainer : Type} (explainer : Desk Explainer) :
    (∀ problem, (replyOf (validate settings ⟨text⟩ explainer)).FindsFault problem →
      RefusedUndrawn source settings text problem) ∧
    ((replyOf (validate settings ⟨text⟩ explainer)).FindsValid →
      RefusedForLimits source settings text) := by
  refine ⟨fun problem found => ?_, fun found => ?_⟩
  · obtain ⟨fault, unread, answered⟩ := exists_fault_of_findsFault found
    constructor
    · intro label verbose desk
      rw [← answered]
      exact (roll_run ⟨text, label, verbose⟩).of_unread unread
    · intro iterations desk
      rw [← answered]
      exact (statistics_run ⟨text, iterations⟩).of_unread unread
  · obtain ⟨expression, read⟩ := exists_expression_of_findsValid found
    constructor
    · intro label verbose desk body refused
      exact (roll_run ⟨text, label, verbose⟩).limit_of_refused read refused
    · intro iterations desk body refused
      exact (statistics_run ⟨text, iterations⟩).limit_of_refused read refused

end Together

theorem findsValid_d6 :
    (replyOf (validate {} ⟨"d6"⟩ ({ source := () } : Desk Unit))).FindsValid := by
  have explained : Explanation.ofText {} "d6" = .ok {
      source := "d6"
      verdict := .valid
        ⟨[⟨1, .sided 6, none, none, false, none, by decide, by decide, by simp⟩], 0⟩
        ⟨[⟨.plus, 1, .sided 6, []⟩], 0⟩
      text := "Valid dice notation: d6\n\nBreakdown:\n• 1d6" } := by
    decide +kernel
  unfold validate
  rw [explained]
  exact ⟨_, rfl, rfl⟩

theorem validate_decides_blank_and_d6 :
    RefusedUndrawn Generator.source {} " " "Dice notation cannot be empty" ∧
      RefusedForLimits Generator.source {} "d6" := by
  constructor
  · exact (validate_decides Generator.source {} " " { source := () }).1 _ ⟨_, rfl, rfl, rfl⟩
  · exact (validate_decides Generator.source {} "d6" { source := () }).2 findsValid_d6

end TabletopDice.Service
