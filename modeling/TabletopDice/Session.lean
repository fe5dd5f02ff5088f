import TabletopDice.Settings.Environment
import TabletopDice.Statistics.Simulation

/-!
Sessions. A session has settings that may change and one shared source, which is built from the
settings of the moment when it is first needed and is then kept until it is cleared. Calls that are
refused before they draw leave the session as it was.
-/

set_option autoImplicit false

namespace TabletopDice

inductive CallFault where
  | parse (fault : ParseFault)
  | roll (fault : RollFault)
  | simulation (fault : SimulationFault)
deriving DecidableEq, Repr

def readNotation {State : Type} (ceilings : Ceilings) (text : String) :
    EStateM CallFault State Expression :=
  match Expression.parse ceilings text.toList with
  | .ok expression => pure expression
  | .error fault => throw (.parse fault)

def rollNotation {State : Type} (source : Source State) (settings : Settings) (text : String)
    (label : Option String) : EStateM CallFault State RollResult := do
  let expression ← readNotation settings.ceilings text
  (expression.roll source settings.maxExplosionChain text label).adaptExcept .roll

def rollTotal {State : Type} (source : Source State) (settings : Settings) (text : String) :
    EStateM CallFault State Int := do
  let result ← rollNotation source settings text none
  return result.total

/-- A source that calls share, with a number that tells it from the ones built before. -/
structure SharedSource where
  number : Nat
  generator : Generator
deriving Repr

/-- The settings, the shared source if there is one, and the number of sources built so far. What
the system's entropy gives is fixed from outside by `entropy`. -/
structure Session where
  settings : Settings := {}
  shared : Option SharedSource := none
  built : Nat := 0
  entropy : Int := 0
deriving Repr

namespace Session

def fetch (session : Session) : SharedSource × Session :=
  match session.shared with
  | some shared => (shared, session)
  | none =>
      let shared : SharedSource :=
        ⟨session.built, session.settings.generator (session.entropy + session.built)⟩
      (shared, { session with shared := some shared, built := session.built + 1 })

/-- Drops the shared source. The next call that needs one builds it anew. -/
def clear (session : Session) : Session :=
  { session with shared := none }

/-- The session with other settings. The shared source stays. -/
def configure (session : Session) (settings : Settings) : Session :=
  { session with settings }

/-- Draws from the shared source, which advances also if the computation fails. -/
def withShared {ε α : Type} (action : EStateM ε Generator α) : EStateM ε Session α :=
  fun session =>
    let (shared, session) := session.fetch
    let advance (generator : Generator) : Session :=
      { session with shared := some { shared with generator } }
    match action shared.generator with
    | .ok value generator => .ok value (advance generator)
    | .error fault generator => .error fault (advance generator)

def roll (text : String) (label : Option String) : EStateM CallFault Session RollResult := do
  let settings := (← get).settings
  let expression ← readNotation settings.ceilings text
  withShared <|
    (expression.roll Generator.source settings.maxExplosionChain text label).adaptExcept .roll

def total (text : String) : EStateM CallFault Session Int := do
  let result ← roll text none
  return result.total

/-- Simulates an expression on the shared source, so many times or as often as configured. -/
def simulate (expression : Expression) (iterations : Option Int) (text : String) :
    EStateM CallFault Session Summary := do
  let settings := (← get).settings
  let iterations := iterations.getD settings.defaultIterations
  if iterations < 1 then throw (.simulation (.iterations iterations))
  withShared <|
    (expression.simulate Generator.source settings.maxExplosionChain iterations text).adaptExcept
      .simulation

def statistics (text : String) (iterations : Option Int) : EStateM CallFault Session Summary := do
  let settings := (← get).settings
  let expression ← readNotation settings.ceilings text
  simulate expression iterations text

end Session

end TabletopDice
