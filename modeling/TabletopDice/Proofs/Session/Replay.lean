import TabletopDice.Proofs.Session.Requests

/-!
Replaying a session. Once the shared source has been built, a session serves its requests from one
stream of draws, whatever is assigned to the settings that a source is built from. With a seed, the
stream that begins after the source has been dropped is the same for all sessions.
-/

set_option autoImplicit false

namespace TabletopDice

/-- An assignment to one of the settings. -/
inductive Assignment where
  | debug (value : Bool)
  | logLevel (value : String)
  | ceilings (value : Ceilings)
  | maxExplosionChain (value : Int)
  | defaultIterations (value : Int)
  | maxIterations (value : Int)
  | maxDiceRolled (value : Int)
  | sourceKind (value : SourceKind)
  | seed (value : Option Int)
deriving DecidableEq, Repr

namespace Assignment

def apply (settings : Settings) : Assignment → Settings
  | .debug value => { settings with debug := value }
  | .logLevel value => { settings with logLevel := value }
  | .ceilings value => { settings with ceilings := value }
  | .maxExplosionChain value => { settings with maxExplosionChain := value }
  | .defaultIterations value => { settings with defaultIterations := value }
  | .maxIterations value => { settings with maxIterations := value }
  | .maxDiceRolled value => { settings with maxDiceRolled := value }
  | .sourceKind value => { settings with sourceKind := value }
  | .seed value => { settings with seed := value }

/-- The setting is one that sources are built from. -/
def isOfSource : Assignment → Bool
  | .sourceKind _ | .seed _ => true
  | _ => false

end Assignment

namespace Session

inductive Step where
  | ask (request : Request)
  | assign (assignment : Assignment)
deriving DecidableEq, Repr

/-- The step assigns to a setting that sources are built from. -/
def Step.isOfSource : Step → Bool
  | .ask _ => false
  | .assign assignment => assignment.isOfSource

abbrev Outcome := Except CallFault Answer

def settled {State : Type} : EStateM.Result CallFault State Answer → Outcome × State
  | .ok answer state => (.ok answer, state)
  | .error fault state => (.error fault, state)

/-- The outcomes of the requests among the steps, and the session that is left. -/
def serve : List Step → Session → List Outcome × Session
  | [], session => ([], session)
  | .ask request :: steps, session =>
      let (outcome, session) := settled (ask request session)
      let (outcomes, session) := serve steps session
      (outcome :: outcomes, session)
  | .assign assignment :: steps, session =>
      serve steps (session.configure (assignment.apply session.settings))

/-- The same steps on one source. It is handed from request to request, also by those that fail. -/
def stream {State : Type} (source : Source State) :
    List Step → Settings → State → List Outcome × State
  | [], _, state => ([], state)
  | .ask request :: steps, settings, state =>
      let (outcome, state) := settled (request.on source settings state)
      let (outcomes, state) := stream source steps settings state
      (outcome :: outcomes, state)
  | .assign assignment :: steps, settings, state =>
      stream source steps (assignment.apply settings) state

end Session

/-! ## What requests go by -/

/-- The settings agree on all that requests go by. -/
structure Settings.SameRules (first second : Settings) : Prop where
  ceilings : first.ceilings = second.ceilings
  maxExplosionChain : first.maxExplosionChain = second.maxExplosionChain
  defaultIterations : first.defaultIterations = second.defaultIterations

section Rules

variable {settings other : Settings} {assignment : Assignment}

theorem Settings.sameRules_refl (settings : Settings) : settings.SameRules settings :=
  ⟨rfl, rfl, rfl⟩

theorem Settings.SameRules.assign (same : settings.SameRules other) (assignment : Assignment) :
    (assignment.apply settings).SameRules (assignment.apply other) := by
  obtain ⟨ceilings, maxExplosionChain, defaultIterations⟩ := same
  cases assignment <;> constructor <;> first | rfl | assumption

theorem Settings.SameRules.assign_left (same : settings.SameRules other)
    (ofSource : assignment.isOfSource = true) : (assignment.apply settings).SameRules other := by
  cases assignment with
  | sourceKind | seed => exact ⟨same.ceilings, same.maxExplosionChain, same.defaultIterations⟩
  | _ => cases ofSource

theorem Assignment.generator_apply (notOfSource : assignment.isOfSource = false) (entropy : Int) :
    (assignment.apply settings).generator entropy = settings.generator entropy := by
  cases assignment with
  | sourceKind | seed => cases notOfSource
  | _ => rfl

theorem Settings.generator_of_seed {seed : Int} (kind : settings.sourceKind = .math)
    (seeded : settings.seed = some seed) (entropy : Int) :
    settings.generator entropy = .seeded (Twister.ofSeed seed) := by
  rw [generator, kind, seeded]
  rfl

theorem Session.Request.on_congr {State : Type} (source : Source State) (request : Request)
    (same : settings.SameRules other) : request.on source settings = request.on source other := by
  obtain ⟨ceilings, maxExplosionChain, defaultIterations⟩ := same
  cases request <;>
    simp only [on, rollNotation, rollTotal, ceilings, maxExplosionChain, defaultIterations]

end Rules

namespace Session

section Serving

variable {State : Type} {source : Source State} {session : Session} {shared : SharedSource}
  {steps : List Step} {settings other : Settings}

/-! ## Single requests -/

theorem fetch_of_built (built : session.shared = some shared) :
    session.fetch = (shared, session) := by
  unfold fetch
  rw [built]

theorem settings_fetch (session : Session) : session.fetch.2.settings = session.settings := by
  unfold fetch
  cases session.shared <;> rfl

theorem generator_fetch_of_unbuilt (unbuilt : session.shared = none) :
    session.fetch.1.generator =
      session.settings.generator (session.entropy + session.built) := by
  unfold fetch
  rw [unbuilt]

theorem shared_clear (session : Session) : session.clear.shared = none := rfl

theorem settled_withShared (action : EStateM CallFault Generator Answer) (session : Session) :
    let drawn := settled (action session.fetch.1.generator)
    settled (withShared action session) =
      (drawn.1, { session.fetch.2 with
        shared := some { session.fetch.1 with generator := drawn.2 } }) := by
  simp only [withShared]
  cases action session.fetch.1.generator <;> rfl

/-- A session with a shared source answers from it, and keeps what is left of it. -/
theorem settled_ask_of_built (request : Request) (built : session.shared = some shared) :
    let drawn := settled (request.on Generator.source session.settings shared.generator)
    settled (ask request session) =
      (drawn.1, { session with shared := some { shared with generator := drawn.2 } }) := by
  cases refusal : request.refusal? session.settings with
  | none =>
      rw [ask_of_admitted refusal, settled_withShared, fetch_of_built built]
  | some fault =>
      rw [ask_of_refused refusal, on_of_refused refusal]
      simp only [settled, ← built]

theorem settings_ask (request : Request) (session : Session) :
    (settled (ask request session)).2.settings = session.settings := by
  cases refusal : request.refusal? session.settings with
  | none =>
      rw [ask_of_admitted refusal, settled_withShared]
      exact settings_fetch session
  | some fault => rw [ask_of_refused refusal, settled]

/-! ## Runs -/

def assigned (settings : Settings) : List Step → Settings
  | [] => settings
  | .ask _ :: steps => assigned settings steps
  | .assign assignment :: steps => assigned (assignment.apply settings) steps

/-- No request changes the settings. -/
theorem settings_serve (steps : List Step) (session : Session) :
    (serve steps session).2.settings = assigned session.settings steps := by
  induction steps generalizing session with
  | nil => rfl
  | cons step steps ih =>
      cases step with
      | ask request =>
          have later := ih (settled (ask request session)).2
          rwa [settings_ask] at later
      | assign assignment => exact ih _

/-- With a shared source, whatever is assigned, all requests are answered from one stream, and the
shared source is left where the stream ends. -/
theorem serve_of_built (steps : List Step) (built : session.shared = some shared) :
    let streamed := stream Generator.source steps session.settings shared.generator
    (serve steps session).1 = streamed.1 ∧
      (serve steps session).2.shared = some { shared with generator := streamed.2 } := by
  induction steps generalizing session shared with
  | nil => exact ⟨rfl, built⟩
  | cons step steps ih =>
      cases step with
      | ask request =>
          have answered := settled_ask_of_built request built
          have later := ih (congrArg (fun settled => settled.2.shared) answered)
          rw [answered] at later
          simp only [serve, stream, answered]
          exact ⟨congrArg _ later.1, later.2⟩
      | assign assignment => exact ih built

/-- Without one, the stream is that of the source to be built, unless the settings for it change. -/
theorem serve_of_unbuilt (steps : List Step)
    (kept : ∀ step ∈ steps, step.isOfSource = false) (unbuilt : session.shared = none) :
    (serve steps session).1 =
      (stream Generator.source steps session.settings
        (session.settings.generator (session.entropy + session.built))).1 := by
  induction steps generalizing session with
  | nil => rfl
  | cons step steps ih =>
      obtain ⟨first, rest⟩ := List.forall_mem_cons.mp kept
      cases step with
      | ask request =>
          cases refusal : request.refusal? session.settings with
          | none =>
              -- This request has the source built, and the later ones find it so.
              have answered := settled_withShared
                (request.on Generator.source session.settings) session
              rw [← ask_of_admitted refusal, generator_fetch_of_unbuilt unbuilt] at answered
              have later := serve_of_built steps
                (congrArg (fun settled => settled.2.shared) answered)
              rw [answered] at later
              simp only [serve, stream, answered]
              rw [later.1, settings_fetch]
          | some fault =>
              simp only [serve, stream, ask_of_refused refusal, on_of_refused refusal, settled]
              exact congrArg _ (ih rest unbuilt)
      | assign assignment =>
          rw [← Assignment.generator_apply first]
          exact ih rest unbuilt

/-- What the stream of a seeded session begins with is left to the seed alone. -/
theorem serve_of_seeded {seed : Int} (steps : List Step)
    (kept : ∀ step ∈ steps, step.isOfSource = false) (unbuilt : session.shared = none)
    (kind : session.settings.sourceKind = .math) (seeded : session.settings.seed = some seed) :
    (serve steps session).1 =
      (stream Generator.source steps session.settings (.seeded (Twister.ofSeed seed))).1 := by
  rw [serve_of_unbuilt steps kept unbuilt, Settings.generator_of_seed kind seeded]

theorem stream_filter (steps : List Step) (same : settings.SameRules other) (state : State) :
    stream source (steps.filter fun step => !step.isOfSource) other state =
      stream source steps settings state := by
  induction steps generalizing settings other state with
  | nil => rfl
  | cons step steps ih =>
      cases step with
      | ask request =>
          rw [List.filter_cons_of_pos (by rfl)]
          simp only [stream, request.on_congr source same, ih same]
      | assign assignment =>
          cases ofSource : assignment.isOfSource with
          | true =>
              rw [List.filter_cons_of_neg (by simp [Step.isOfSource, ofSource])]
              exact ih (same.assign_left ofSource) state
          | false =>
              rw [List.filter_cons_of_pos (by simp [Step.isOfSource, ofSource])]
              exact ih (same.assign assignment) state

end Serving

/-- After the source has been dropped, a seeded session serves as a new one does. While it keeps its
source, it serves from one stream, as if nothing had been assigned to the settings that sources are
built from. -/
theorem serve_replays (start : Session) (history sequence : List Step) :
    let past := (serve history start).2
    (∀ seed, past.settings.sourceKind = .math → past.settings.seed = some seed →
      (∀ step ∈ sequence, step.isOfSource = false) →
      ∀ entropy, (serve sequence past.clear).1 =
        (serve sequence { settings := past.settings, entropy }).1) ∧
    ∀ shared, past.shared = some shared →
      let streamed := stream Generator.source sequence past.settings shared.generator
      (serve sequence past).1 = streamed.1 ∧
        (serve sequence past).2.shared = some { shared with generator := streamed.2 } ∧
        (serve (sequence.filter fun step => !step.isOfSource) past).1 = streamed.1 := by
  intro past
  refine ⟨?_, ?_⟩
  · intro seed kind seeded kept entropy
    have unbuilt : ({ settings := past.settings, entropy } : Session).shared = none := rfl
    have cleared := serve_of_seeded sequence kept (shared_clear past) kind seeded
    exact cleared.trans (serve_of_seeded sequence kept unbuilt kind seeded).symm
  · intro shared built
    have whole := serve_of_built sequence built
    have filtered := serve_of_built (sequence.filter fun step => !step.isOfSource) built
    rw [stream_filter sequence (Settings.sameRules_refl _)] at filtered
    exact ⟨whole.1, whole.2, filtered.1⟩

/-- The history has failures and assignments, and it leaves a source that was not seeded. -/
theorem serve_replays_practice :
    let start : Session := { shared := some ⟨0, .congruential 7⟩ }
    let history : List Step :=
      [.ask (.roll "2d6" none), .assign (.sourceKind .math), .ask (.total "oops"),
        .assign (.seed (some 42)), .assign (.maxExplosionChain 2), .ask (.total "1d1!")]
    let sequence : List Step :=
      [.ask (.roll "10d20" none), .ask (.total "1d1!"), .ask (.roll "10d20" (some "again"))]
    let past := (serve history start).2
    let settings : Settings := { sourceKind := .math, seed := some 42, maxExplosionChain := 2 }
    (serve sequence past.clear).1 = (serve sequence { settings, entropy := 9 }).1 ∧
      (serve (.assign (.seed (some 43)) :: sequence) past).1 = (serve sequence past).1 := by
  intro start history sequence past settings
  have same : past.settings = settings := settings_serve history start
  have built := (serve_of_built history (rfl : start.shared = some ⟨0, .congruential 7⟩)).2
  constructor
  · rw [← same]
    exact (serve_replays start history sequence).1 42 (by rw [same]) (by rw [same]) (by decide) 9
  · have reseeded :=
      (serve_replays start history (.assign (.seed (some 43)) :: sequence)).2 _ built
    exact reseeded.1.trans reseeded.2.2.symm

end Session

end TabletopDice
