import TabletopDice.Proofs.Sequencing
import TabletopDice.Session

/-!
Requests to a session. Whether a request is refused depends on the settings of the moment alone. A
session that refuses it stays as it was, and needs no source. Otherwise the session answers with
what the request makes of the shared source.
-/

set_option autoImplicit false

namespace TabletopDice

open Sequencing

namespace Session

/-- A call for which the session provides the source. -/
inductive Request where
  | roll (text : String) (label : Option String)
  | total (text : String)
  | simulate (expression : Expression) (iterations : Option Int) (text : String)
deriving DecidableEq, Repr

inductive Answer where
  | rolled (result : RollResult)
  | total (value : Int)
  | summary (summary : Summary)

def ask : Request → EStateM CallFault Session Answer
  | .roll text label => .rolled <$> roll text label
  | .total text => .total <$> total text
  | .simulate expression iterations text => .summary <$> simulate expression iterations text

namespace Request

/-- The request made to a source at hand. -/
def on {State : Type} (source : Source State) (settings : Settings) :
    Request → EStateM CallFault State Answer
  | .roll text label => .rolled <$> rollNotation source settings text label
  | .total text => .total <$> rollTotal source settings text
  | .simulate expression iterations text =>
      .summary <$> (expression.simulate source settings.maxExplosionChain
        (iterations.getD settings.defaultIterations) text).adaptExcept .simulation

def unread? (ceilings : Ceilings) (text : String) : Option CallFault :=
  match Expression.parse ceilings text.toList with
  | .ok _ => none
  | .error fault => some (.parse fault)

def few? (iterations : Int) : Option CallFault :=
  if iterations < 1 then some (.simulation (.iterations iterations)) else none

/-- Why the request is refused before anything is drawn for it. -/
def refusal? (settings : Settings) : Request → Option CallFault
  | .roll text _ | .total text => unread? settings.ceilings text
  | .simulate _ iterations _ => few? (iterations.getD settings.defaultIterations)

theorem unread?_eq_some_iff {ceilings : Ceilings} {text : String} {fault : CallFault} :
    unread? ceilings text = some fault ↔
      ∃ reason, Expression.parse ceilings text.toList = .error reason ∧ .parse reason = fault := by
  unfold unread?
  cases Expression.parse ceilings text.toList <;> simp

theorem unread?_eq_none_iff {ceilings : Ceilings} {text : String} :
    unread? ceilings text = none ↔
      ∃ expression, Expression.parse ceilings text.toList = .ok expression := by
  unfold unread?
  cases Expression.parse ceilings text.toList <;> simp

theorem few?_eq_some_iff {iterations : Int} {fault : CallFault} :
    few? iterations = some fault ↔
      iterations < 1 ∧ .simulation (.iterations iterations) = fault := by
  unfold few?
  split <;> simp [*]

theorem few?_eq_none_iff {iterations : Int} : few? iterations = none ↔ ¬ iterations < 1 := by
  unfold few?
  split <;> simp [*]

end Request

theorem run_map_withShared {Error Value Result : Type} {step : EStateM Error Session Value}
    {action : EStateM Error Generator Value} {session : Session}
    (same : step session = withShared action session) (view : Value → Result) :
    (view <$> step) session = withShared (view <$> action) session := by
  simp only [Functor.map, EStateM.map, same, withShared]
  cases action session.fetch.1.generator <;> rfl

/-! ## The single calls -/

section Calls

variable {State : Type} {source : Source State} {state : State} {settings : Settings}
  {session : Session} {text : String} {label : Option String} {expression : Expression}
  {reason : ParseFault} {iterations : Option Int}

theorem readNotation_of_ok {ceilings : Ceilings}
    (read : Expression.parse ceilings text.toList = .ok expression) :
    (readNotation ceilings text : EStateM CallFault State Expression) = pure expression := by
  unfold readNotation
  rw [read]

theorem readNotation_of_error {ceilings : Ceilings}
    (unread : Expression.parse ceilings text.toList = .error reason) :
    (readNotation ceilings text : EStateM CallFault State Expression) = throw (.parse reason) := by
  unfold readNotation
  rw [unread]

theorem rollNotation_of_error
    (unread : Expression.parse settings.ceilings text.toList = .error reason) :
    rollNotation source settings text label state = .error (.parse reason) state := by
  unfold rollNotation
  rw [readNotation_of_error unread]
  rfl

theorem rollTotal_of_error
    (unread : Expression.parse settings.ceilings text.toList = .error reason) :
    rollTotal source settings text state = .error (.parse reason) state :=
  run_map_of_error (rollNotation_of_error unread) RollResult.total

theorem roll_of_error
    (unread : Expression.parse session.settings.ceilings text.toList = .error reason) :
    roll text label session = .error (.parse reason) session := by
  unfold roll
  change (readNotation session.settings.ceilings text >>= _ : EStateM _ _ RollResult) session = _
  rw [readNotation_of_error unread]
  rfl

theorem roll_of_ok
    (read : Expression.parse session.settings.ceilings text.toList = .ok expression) :
    roll text label session =
      withShared (rollNotation Generator.source session.settings text label) session := by
  unfold roll rollNotation
  change (readNotation session.settings.ceilings text >>= _ : EStateM _ _ RollResult) session = _
  rw [readNotation_of_ok read, readNotation_of_ok read, pure_bind, pure_bind]

theorem total_of_error
    (unread : Expression.parse session.settings.ceilings text.toList = .error reason) :
    total text session = .error (.parse reason) session :=
  run_map_of_error (roll_of_error unread) RollResult.total

theorem total_of_ok
    (read : Expression.parse session.settings.ceilings text.toList = .ok expression) :
    total text session =
      withShared (rollTotal Generator.source session.settings text) session :=
  run_map_withShared (roll_of_ok read) RollResult.total

theorem simulate_of_few
    (few : iterations.getD session.settings.defaultIterations < 1) :
    simulate expression iterations text session =
      .error (.simulation (.iterations (iterations.getD session.settings.defaultIterations)))
        session := by
  unfold simulate
  change (if iterations.getD session.settings.defaultIterations < 1 then _ else _ :
    EStateM _ _ Summary) session = _
  rw [if_pos few]
  rfl

theorem simulate_of_enough
    (enough : ¬ iterations.getD session.settings.defaultIterations < 1) :
    simulate expression iterations text session =
      withShared ((expression.simulate Generator.source session.settings.maxExplosionChain
        (iterations.getD session.settings.defaultIterations) text).adaptExcept .simulation)
          session := by
  unfold simulate
  change (if iterations.getD session.settings.defaultIterations < 1 then _ else _ :
    EStateM _ _ Summary) session = _
  rw [if_neg enough]

theorem simulate_on_of_few {cap count : Int} (few : count < 1) :
    (expression.simulate source cap count text).adaptExcept CallFault.simulation state =
      .error (.simulation (.iterations count)) state := by
  unfold Expression.simulate
  rw [if_pos few]
  rfl

end Calls

/-! ## All requests -/

section Asking

variable {State : Type} {source : Source State} {state : State} {session : Session}
  {request : Request} {settings : Settings} {fault : CallFault}

/-- A session that refuses a request stays as it was. -/
theorem ask_of_refused (refused : request.refusal? session.settings = some fault) :
    ask request session = .error fault session := by
  cases request with
  | roll text label =>
      obtain ⟨reason, unread, rfl⟩ := Request.unread?_eq_some_iff.mp refused
      exact run_map_of_error (roll_of_error unread) _
  | total text =>
      obtain ⟨reason, unread, rfl⟩ := Request.unread?_eq_some_iff.mp refused
      exact run_map_of_error (total_of_error unread) _
  | simulate expression iterations text =>
      obtain ⟨few, rfl⟩ := Request.few?_eq_some_iff.mp refused
      exact run_map_of_error (simulate_of_few few) _

theorem ask_of_admitted (admitted : request.refusal? session.settings = none) :
    ask request session =
      withShared (request.on Generator.source session.settings) session := by
  cases request with
  | roll text label =>
      obtain ⟨expression, read⟩ := Request.unread?_eq_none_iff.mp admitted
      exact run_map_withShared (roll_of_ok read) _
  | total text =>
      obtain ⟨expression, read⟩ := Request.unread?_eq_none_iff.mp admitted
      exact run_map_withShared (total_of_ok read) _
  | simulate expression iterations text =>
      have enough := Request.few?_eq_none_iff.mp admitted
      exact run_map_withShared (simulate_of_enough enough) _

/-- A source at hand is not drawn from either. -/
theorem on_of_refused (refused : request.refusal? settings = some fault) :
    request.on source settings state = .error fault state := by
  cases request with
  | roll text label =>
      obtain ⟨reason, unread, rfl⟩ := Request.unread?_eq_some_iff.mp refused
      exact run_map_of_error (rollNotation_of_error unread) _
  | total text =>
      obtain ⟨reason, unread, rfl⟩ := Request.unread?_eq_some_iff.mp refused
      exact run_map_of_error (rollTotal_of_error unread) _
  | simulate expression iterations text =>
      obtain ⟨few, rfl⟩ := Request.few?_eq_some_iff.mp refused
      exact run_map_of_error (simulate_on_of_few few) _

end Asking

end Session

end TabletopDice
