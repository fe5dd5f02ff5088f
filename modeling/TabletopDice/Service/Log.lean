import TabletopDice.Roll.Pool
import TabletopDice.Text.Capital
import TabletopDice.Text.Quoted

/-!
The log. Entries have a level, and a level chosen once for a service decides which of them are
kept.
-/

set_option autoImplicit false

namespace TabletopDice

inductive LogLevel where
  | info
  | warning
deriving DecidableEq, Repr

namespace LogLevel

def name : LogLevel → String
  | info => "INFO"
  | warning => "WARNING"

/-- The place of the level among all that can be configured. -/
def rank : LogLevel → Nat
  | info => 20
  | warning => 30

end LogLevel

/-- An entry of the log, with the name of the part of the program that wrote it. -/
structure LogEntry where
  level : LogLevel
  writer : String
  message : String
deriving DecidableEq, Repr

namespace LogEntry

def roller : String := "dicekit.roller"

def routes : String := "dicekit.routers.dice"

/-- What rolling dice writes when it stops: a warning, if a chain of bonus dice reached its cap. -/
def ofRollFault : RollFault → List LogEntry
  | .explosion label cap =>
      [⟨.warning, roller, s!"Exploding chain on {label} hit the {cap}-die cap"⟩]
  | _ => []

end LogEntry

/-- The rank that entries need to be kept, by the name of a configured level. The level `NOTSET`
leaves the decision to the surroundings, which keep warnings. -/
def logThreshold? (name : String) : Option Nat :=
  [("CRITICAL", 50), ("FATAL", 50), ("ERROR", 40), ("WARN", 30), ("WARNING", 30), ("INFO", 20),
    ("DEBUG", 10), ("NOTSET", 30)].lookup name

/-- The rank that entries need under a configured level, whose letters may have either case, or
the message that there is no such level. -/
def logThreshold (level : String) : Except String Nat :=
  let name := Text.upper level.toList
  match logThreshold? (String.ofList name) with
  | some rank => .ok rank
  | none => .error s!"Unknown level: {Text.quoted name}"

end TabletopDice
