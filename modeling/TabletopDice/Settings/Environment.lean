import TabletopDice.Data.Field
import TabletopDice.Notation.Reader
import TabletopDice.Settings.Assignments
import TabletopDice.Source.Generator

/-!
The settings of the program. They may change at any time; every operation goes by the settings of
its own moment, but a source that has been built keeps the kind and the seed it was built with. At
the start a setting is taken from the environment variable of its name, else from a file of
assignments, else it keeps its default. Names are matched without regard to case.
-/

set_option autoImplicit false

namespace TabletopDice

/-- What may be configured. Nothing relates the values to one another, and none of the numbers has
to be positive. -/
structure Settings where
  debug : Bool := true
  logLevel : String := "INFO"
  ceilings : Ceilings := {}
  maxExplosionChain : Int := 1000
  defaultIterations : Int := 10000
  maxIterations : Int := 100000
  maxDiceRolled : Int := 5000000
  sourceKind : SourceKind := .crypto
  seed : Option Int := none
deriving DecidableEq, Repr

def SourceKind.name : SourceKind → String
  | .crypto => "crypto"
  | .math => "math"

def Settings.generator (settings : Settings) (entropy : Int) : Generator :=
  Generator.make settings.sourceKind settings.seed entropy

/-! ## The environment -/

namespace Settings

open Data

/-- Texts by lower-case name. Of two assignments to one name the later counts, also if it takes
the text away. -/
def byName (assignments : List Assignments.Assignment) : List (String × Value) :=
  let assigned := assignments.foldl
    (fun assigned (name, text) => setEntry assigned name.toLower text) []
  assigned.filterMap fun (name, text) => text.map fun text => (name, .text text)

/-- The texts of the environment and the file together, the environment's own going first. Only in
the file are references resolved. -/
def texts (environment : List (String × String)) (file : String) : Value :=
  let ownTexts := environment.map fun (name, text) => (name, some text)
  .object (byName ownTexts ++ byName (Assignments.read environment file))

def sourceKindOfText : Field.Rule SourceKind
  | .text "crypto" => .ok .crypto
  | .text "math" => .ok .math
  | _ => .error (.choice "'crypto' or 'math'")

private def integer (texts : Value) (name : String) (default : Int) : Checked Int :=
  Field.optional texts name default (.ofRule Field.integer)

def ceilingsOfTexts (texts : Value) : Checked Ceilings :=
  let defaults : Ceilings := {}
  Ceilings.mk <$> integer texts "max_dice" defaults.maxDice
    <*> integer texts "max_die_size" defaults.maxDieSize
    <*> integer texts "max_dice_combination" defaults.maxCombination

/-- The settings that the texts give. Each text is read leniently, and the issues of all are
reported. -/
def ofTexts (texts : Value) : Checked Settings :=
  let defaults : Settings := {}
  Settings.mk <$> Field.optional texts "debug" defaults.debug (.ofRule Field.bool)
    <*> Field.optional texts "log_level" defaults.logLevel (.ofRule Field.text)
    <*> ceilingsOfTexts texts
    <*> integer texts "max_explosion_chain" defaults.maxExplosionChain
    <*> integer texts "statistics_default_iterations" defaults.defaultIterations
    <*> integer texts "statistics_max_iterations" defaults.maxIterations
    <*> integer texts "statistics_max_dice_rolled" defaults.maxDiceRolled
    <*> Field.optional texts "random_source" defaults.sourceKind (.ofRule sourceKindOfText)
    <*> Field.optional texts "random_seed" defaults.seed
      fun value => (Checked.ofRule Field.integer value).map some

def ofEnvironment (environment : List (String × String)) (file : String) : Checked Settings :=
  ofTexts (texts environment file)

end Settings

end TabletopDice
