import TabletopDice.Proofs.Session.Replay
import TabletopDice.Proofs.Statistics.RollOrder

/-!
Failed requests and the shared source. A request that is refused leaves a session as it was, so that
a source is neither built for it nor drawn from. A request that the cap on bonus dice breaks off has
drawn, and the source goes on behind these draws.
-/

set_option autoImplicit false

namespace TabletopDice

open Sequencing

/-! ## Computations that break off -/

section Tracing

variable {State Error Failure Value Result : Type} {source : Source State}
  {action : EStateM Error State Value} {onRecord : EStateM Error (State × List Call) Value}

/-- Whenever the computation fails with the error, all its calls have been answered, and it fails
alike on record, which then shows these calls. -/
def Traced (source : Source State) (action : EStateM Error State Value)
    (onRecord : EStateM Error (State × List Call) Value) (error : Error) : Prop :=
  ∀ state next, action state = .error error next →
    ∃ calls, source.Answers state calls next ∧
      ∀ earlier, onRecord (state, earlier) = .error error (next, earlier ++ calls)

theorem Traced.map {error : Error} (traced : Traced source action onRecord error)
    (view : Value → Result) : Traced source (view <$> action) (view <$> onRecord) error := by
  intro state next failed
  obtain ⟨calls, answers, noted⟩ := traced state next (run_map_eq_error_iff.mp failed)
  exact ⟨calls, answers, fun earlier => run_map_eq_error_iff.mpr (noted earlier)⟩

theorem Traced.adaptExcept {view : Error → Failure} {failure : Failure}
    (traced : ∀ error, view error = failure → Traced source action onRecord error) :
    Traced source (action.adaptExcept view) (onRecord.adaptExcept view) failure := by
  intro state next failed
  obtain ⟨error, failed, same⟩ := run_adaptExcept_eq_error_iff.mp failed
  obtain ⟨calls, answers, noted⟩ := traced error same state next failed
  exact ⟨calls, answers, fun earlier =>
    run_adaptExcept_eq_error_iff.mpr ⟨error, noted earlier, same⟩⟩

end Tracing

namespace Expression

variable {State : Type} (source : Source State) (cap : Int) (expression : Expression)
  (shownLabel shownCap : String)

theorem roll_traced (text : String) (label : Option String) :
    Traced source (expression.roll source cap text label)
      (expression.roll source.recorded cap text label) (.explosion shownLabel shownCap) := by
  intro state next stopped
  obtain ⟨_, _, _, -, -, -, answers, noted⟩ := exists_interrupted_of_roll stopped
  exact ⟨_, answers, noted⟩

/-- The calls of a simulation that breaks off are those of its rolls, of which the last has not
come to its end. -/
theorem simulate_traced (iterations : Int) (text : String) :
    Traced source (expression.simulate source cap iterations text)
      (expression.simulate source.recorded cap iterations text)
      (.roll (.explosion shownLabel shownCap)) := by
  intro state next stopped
  obtain ⟨results, middle, less, rolls, last⟩ := simulate_eq_roll_error_iff.mp stopped
  obtain ⟨calls, before, rollsNoted⟩ := rolls.exists_calls
  obtain ⟨lastCalls, after, lastNoted⟩ :=
    expression.roll_traced source cap shownLabel shownCap "" none middle next last
  refine ⟨calls ++ lastCalls, Source.answers_append_iff.mpr ⟨middle, before, after⟩,
    fun earlier => ?_⟩
  rw [← List.append_assoc]
  exact simulate_eq_roll_error_iff.mpr
    ⟨results, _, less, rollsNoted earlier, lastNoted (earlier ++ calls)⟩

end Expression

/-- A chain of bonus dice has reached the cap. -/
inductive CallFault.IsExplosion : CallFault → Prop where
  | roll (label cap : String) : IsExplosion (.roll (.explosion label cap))
  | simulation (label cap : String) : IsExplosion (.simulation (.roll (.explosion label cap)))

namespace Session

variable {settings : Settings} {request : Request} {fault : CallFault} {session next : Session}

theorem Request.not_isExplosion_of_refused (refused : request.refusal? settings = some fault) :
    ¬ fault.IsExplosion := by
  cases request with
  | roll | total =>
      obtain ⟨reason, -, rfl⟩ := unread?_eq_some_iff.mp refused
      exact nofun
  | simulate =>
      obtain ⟨-, rfl⟩ := few?_eq_some_iff.mp refused
      exact nofun

theorem rollNotation_traced {State : Type} (source : Source State) (text : String)
    (label : Option String) (explosion : fault.IsExplosion) :
    Traced source (rollNotation source settings text label)
      (rollNotation source.recorded settings text label) fault := by
  unfold rollNotation
  cases read : Expression.parse settings.ceilings text.toList with
  | error reason =>
      intro state next failed
      rw [readNotation_of_error read] at failed
      cases failed
      cases explosion
  | ok expression =>
      rw [readNotation_of_ok read, readNotation_of_ok read, pure_bind, pure_bind]
      refine Traced.adaptExcept fun error same => ?_
      cases explosion with
      | roll shownLabel shownCap =>
          cases same
          exact expression.roll_traced source _ shownLabel shownCap text label
      | simulation => cases same

theorem Request.on_traced {State : Type} (source : Source State) (request : Request)
    (explosion : fault.IsExplosion) :
    Traced source (request.on source settings) (request.on source.recorded settings) fault := by
  cases request with
  | roll text label => exact (rollNotation_traced source text label explosion).map _
  | total text => exact ((rollNotation_traced source text none explosion).map _).map _
  | simulate expression iterations text =>
      refine (Traced.adaptExcept fun error same => ?_).map _
      cases explosion with
      | roll => cases same
      | simulation shownLabel shownCap =>
          cases same
          exact expression.simulate_traced source _ shownLabel shownCap _ text

/-! ## Requests that break off -/

theorem withShared_eq_error_iff {Value : Type} {action : EStateM CallFault Generator Value} :
    withShared action session = .error fault next ↔
      ∃ after, action session.fetch.1.generator = .error fault after ∧
        { session.fetch.2 with
          shared := some { session.fetch.1 with generator := after } } = next := by
  simp only [withShared]
  cases action session.fetch.1.generator <;> simp

/-- The request has broken off after the calls, and the session goes on with the source that they
have left. If there was no source, there is now the one that was built for the request. -/
structure BrokeOff (session : Session) (request : Request) (fault : CallFault)
    (calls : List Call) (after : Generator) (next : Session) : Prop where
  answers : Generator.source.Answers session.fetch.1.generator calls after
  noted : request.on Generator.source.recorded session.settings
    (session.fetch.1.generator, []) = .error fault (after, calls)
  left : next = { session.fetch.2 with
    shared := some { session.fetch.1 with generator := after } }
  served : ∀ steps, (serve steps next).1 =
    (stream Generator.source steps session.settings after).1

theorem exists_brokeOff (explosion : fault.IsExplosion)
    (failed : ask request session = .error fault next) :
    ∃ calls after, BrokeOff session request fault calls after next := by
  have admitted : request.refusal? session.settings = none := by
    cases refusal : request.refusal? session.settings with
    | none => rfl
    | some other =>
        rw [ask_of_refused refusal] at failed
        cases failed
        exact absurd explosion (Request.not_isExplosion_of_refused refusal)
  rw [ask_of_admitted admitted] at failed
  obtain ⟨after, drawn, rfl⟩ := withShared_eq_error_iff.mp failed
  obtain ⟨calls, answers, noted⟩ :=
    request.on_traced Generator.source explosion session.fetch.1.generator after drawn
  refine ⟨calls, after, answers, noted [], rfl, fun steps => ?_⟩
  have built : ({ session.fetch.2 with
      shared := some { session.fetch.1 with generator := after } } : Session).shared =
        some { session.fetch.1 with generator := after } := rfl
  rw [(serve_of_built steps built).1, settings_fetch]

/-! ## Requests that are refused -/

/-- Each request among the steps is refused, under the settings that it meets. -/
def RefusesAll : List Step → Settings → Prop
  | [], _ => True
  | .ask request :: steps, settings =>
      (∃ fault, request.refusal? settings = some fault) ∧ RefusesAll steps settings
  | .assign assignment :: steps, settings => RefusesAll steps (assignment.apply settings)

/-- Of steps in which every request is refused, only the assignments leave a trace. -/
theorem serve_of_refusesAll {steps : List Step} (refused : RefusesAll steps session.settings) :
    (serve steps session).2 = { session with settings := assigned session.settings steps } := by
  induction steps generalizing session with
  | nil => rfl
  | cons step steps ih =>
      cases step with
      | ask request =>
          obtain ⟨⟨fault, refusal⟩, later⟩ := refused
          simp only [serve, ask_of_refused refusal, settled, assigned]
          exact ih later
      | assign assignment =>
          exact @ih (session.configure (assignment.apply session.settings)) refused

/-- A session that refuses requests, however many and whatever is assigned in between, neither
builds its source nor draws from it. A request that breaks off has drawn what it was given until
then, and everything after it is served from there. -/
theorem failures_spare_source (session : Session) :
    (∀ text reason, Expression.parse session.settings.ceilings text.toList = .error reason →
      (∀ label, roll text label session = .error (.parse reason) session) ∧
        total text session = .error (.parse reason) session) ∧
    (∀ expression iterations text, iterations.getD session.settings.defaultIterations < 1 →
      simulate expression iterations text session =
        .error (.simulation (.iterations (iterations.getD session.settings.defaultIterations)))
          session) ∧
    (∀ steps, RefusesAll steps session.settings →
      (serve steps session).2 = { session with settings := assigned session.settings steps }) ∧
    ∀ request fault next, fault.IsExplosion → ask request session = .error fault next →
      ∃ calls after, BrokeOff session request fault calls after next := by
  refine ⟨fun text reason unread => ?_, fun expression iterations text few => ?_,
    fun steps => serve_of_refusesAll, fun request fault next => exists_brokeOff⟩
  · exact ⟨fun label => roll_of_error unread, total_of_error unread⟩
  · exact simulate_of_few few

/-- The first request breaks off at the second die, for which two bonus dice would be needed. -/
theorem failures_spare_source_fuse :
    let settings : Settings := { maxExplosionChain := 1 }
    let session : Session := { settings, shared := some ⟨0, .scripted [6, 4, 2, 6, 3, 6, 1]⟩ }
    let refused : List Step := [.ask (.roll "oops" none), .assign (.seed (some 7)),
      .ask (.simulate ⟨[Expression.fuse], 3⟩ (some 0) "")]
    let request : Request := .simulate ⟨[Expression.fuse], 3⟩ none ""
    let fault : CallFault := .simulation (.roll (.explosion "2d6" "1"))
    (∃ reason, total "oops" session = .error (.parse reason) session) ∧
      simulate ⟨[Expression.fuse], 3⟩ (some 0) "" session =
        .error (.simulation (.iterations 0)) session ∧
      (serve refused session).2 = { session with settings := { settings with seed := some 7 } } ∧
      ask request session = .error fault { session with shared := some ⟨0, .scripted [1]⟩ } ∧
      ∃ calls after, BrokeOff session request fault calls after
        { session with shared := some ⟨0, .scripted [1]⟩ } := by
  intro settings session refused request fault
  obtain ⟨unread, few, spared, broken⟩ := failures_spare_source session
  have parsed : (Request.unread? settings.ceilings "oops").isSome = true := by decide +kernel
  obtain ⟨refusal, found⟩ := Option.isSome_iff_exists.mp parsed
  obtain ⟨reason, read, -⟩ := Request.unread?_eq_some_iff.mp found
  have stopped : Expression.simulate Generator.source 1 ⟨[Expression.fuse], 3⟩ 10000 ""
      (.scripted [6, 4, 2, 6, 3, 6, 1]) = .error (.roll (.explosion "2d6" "1")) (.scripted [1]) :=
    Expression.simulate_eq_roll_error_iff.mpr ⟨[], _, by decide, .nil, Expression.roll_fuse⟩
  have drawn : request.on Generator.source settings (.scripted [6, 4, 2, 6, 3, 6, 1]) =
      .error fault (.scripted [1]) :=
    run_map_eq_error_iff.mpr (run_adaptExcept_eq_error_iff.mpr ⟨_, stopped, rfl⟩)
  have failed : ask request session =
      .error fault { session with shared := some ⟨0, .scripted [1]⟩ } := by
    rw [ask_of_admitted rfl]
    exact withShared_eq_error_iff.mpr ⟨.scripted [1], drawn, rfl⟩
  refine ⟨⟨reason, (unread "oops" reason read).2⟩, few _ (some 0) "" (by decide), ?_, failed,
    broken request fault _ (.simulation "2d6" "1") failed⟩
  exact spared refused ⟨⟨refusal, found⟩, ⟨_, rfl⟩, trivial⟩

end Session

end TabletopDice
