import TabletopDice.Source.Basic
import TabletopDice.Source.Twister

/-!
The sources that the program rolls with: listed draws, a small congruential generator, and the
Mersenne Twister, seeded either by request or from outside.
-/

set_option autoImplicit false

namespace TabletopDice

/-- Which kind of source is configured: the system's entropy, or a generator that may be seeded. -/
inductive SourceKind where
  | crypto
  | math
deriving DecidableEq, Repr

/-- The state of a source. `system` draws stand for the entropy of the system, which is unknown to
the program: its seed is handed in from outside. -/
inductive Generator where
  | scripted (draws : List Int)
  | congruential (state : Nat)
  | seeded (state : Twister)
  | system (state : Twister)
deriving Repr

namespace Generator

/-- The generator of a configured kind. Where no seed is configured or used, it starts from the
entropy handed in. -/
def make (kind : SourceKind) (seed : Option Int) (entropy : Int) : Generator :=
  match kind with
  | .math => seeded (Twister.ofSeed (seed.getD entropy))
  | .crypto => system (Twister.ofSeed entropy)

def kind : Generator → SourceKind
  | system _ => .crypto
  | _ => .math

/-- The modulus of the congruential generator, 2^31. -/
def modulus : Nat := 0x80000000

def ofSeed (seed : Int) : Generator :=
  congruential (seed % modulus).toNat

def congruentialStep (state : Nat) : Nat :=
  (state * 1103515245 + 12345) % modulus

def width (low high : Int) : Nat :=
  (high - low + 1).toNat

/-- One draw. The listed draws are answered as they stand, if they lie within the bounds; the
generators make a number below the width of the range and add the lower bound. -/
def draw (low high : Int) : EStateM DrawFault Generator Int := fun generator =>
  match generator with
  | scripted [] => .error (.exhausted low high) generator
  | scripted (value :: rest) =>
      if low ≤ value ∧ value ≤ high then .ok value (scripted rest)
      else .error (.outOfRange value low high) (scripted rest)
  | congruential state =>
      if high < low then .error (.emptyRange low high) generator
      else
        let state := congruentialStep state
        .ok (low + (state / 256 % width low high : Nat)) (congruential state)
  | seeded state =>
      if high < low then .error (.emptyRange low high) generator
      else
        let (offset, state) := state.below (width low high)
        .ok (low + offset) (seeded state)
  | system state =>
      if high < low then .error (.emptyRange low high) generator
      else
        let (offset, state) := state.below (width low high)
        .ok (low + offset) (system state)

def source : Source Generator where
  draw := draw

/-- Every answer lies within the requested bounds. -/
theorem draw_mem_range {low high value : Int} {before after : Generator}
    (answered : draw low high before = .ok value after) : low ≤ value ∧ value ≤ high := by
  unfold draw at answered
  split at answered
  case h_1 => simp at answered
  case h_2 =>
    split at answered
    · simp_all
    · simp at answered
  case h_3 state =>
    split at answered
    · simp at answered
    case isFalse notEmpty =>
      simp only [EStateM.Result.ok.injEq] at answered
      have positive : 0 < width low high := by unfold width; omega
      have less := Nat.mod_lt (congruentialStep state / 256) positive
      rw [← answered.1]
      unfold width at less ⊢
      omega
  all_goals
    rename_i state
    split at answered
    · simp at answered
    case isFalse notEmpty =>
      simp only [EStateM.Result.ok.injEq] at answered
      have positive : 0 < width low high := by unfold width; omega
      have less := Twister.belowWith_lt positive 100000 state
      rw [← answered.1]
      unfold Twister.below
      unfold width at less ⊢
      omega

end Generator

end TabletopDice
