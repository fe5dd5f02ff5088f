import TabletopDice.Proofs.Roll.RollRecord
import TabletopDice.Source.Generator

/-!
The faces of rolled dice. A face is shown by one draw, and where a source answers within the bounds
of its calls, every die of a pool shows faces that it has.
-/

set_option autoImplicit false

namespace TabletopDice

/-! ## Draws and faces -/

namespace Die

/-- The draw that shows a face of a die. -/
def drawOf : Die → Int → Int
  | .sided _, face => face
  | .fudge, face => face + 2

theorem call_eq (kind : Die) (face : Int) :
    kind.call face = .answered 1 kind.size (kind.drawOf face) := by
  cases kind <;> rfl

theorem drawOf_le_iff {kind : Die} {first second : Int} :
    kind.drawOf first ≤ kind.drawOf second ↔ first ≤ second := by
  cases kind with
  | sided size => exact Iff.rfl
  | fudge => exact Int.add_le_add_iff_right 2

theorem drawOf_inBounds_iff {kind : Die} {face : Int} :
    (1 ≤ kind.drawOf face ∧ kind.drawOf face ≤ kind.size) ↔
      kind.minFace ≤ face ∧ face ≤ kind.maxFace := by
  cases kind with
  | sided size => exact Iff.rfl
  | fudge =>
      simp only [drawOf, size, fudgeSize, minFace, maxFace]
      omega

end Die

def RolledDie.draws (kind : Die) (die : RolledDie) : List Int :=
  kind.drawOf die.result :: (die.modified.map kind.drawOf).toList

theorem RolledDie.calls_eq (kind : Die) (die : RolledDie) :
    die.calls kind = (die.draws kind).map (.answered 1 kind.size) := by
  cases modified : die.modified <;> simp [calls, draws, Die.call_eq, modified]

def Term.blockDraws (term : Term) (block : List RolledDie) : List Int :=
  block.flatMap (RolledDie.draws term.die)

theorem Term.blockCalls_eq (term : Term) (block : List RolledDie) :
    term.blockCalls block = (term.blockDraws block).map (.answered 1 term.size) := by
  rw [blockCalls, blockDraws, List.map_flatMap]
  exact congrArg (List.flatMap · block) (funext (RolledDie.calls_eq term.die))

/-! ## Answers within bounds -/

/-- Every answer of the source lies within the bounds that it was asked for. -/
def Source.InRange {State : Type} (source : Source State) : Prop :=
  ∀ low high answer state next, source.draw low high state = .ok answer next →
    low ≤ answer ∧ answer ≤ high

theorem Generator.source_inRange : Generator.source.InRange :=
  fun _ _ _ _ _ answered => draw_mem_range answered

namespace Source.InRange

variable {State : Type} {source : Source State} {state next : State}

theorem forall_mem (inRange : source.InRange) {found : List Int} {low high : Int}
    (answers : source.Answers state (found.map (.answered low high)) next) :
    ∀ draw ∈ found, low ≤ draw ∧ draw ≤ high := by
  induction found generalizing state with
  | nil => simp
  | cons draw found ih =>
      cases answers with
      | cons drawn later =>
          exact List.forall_mem_cons.mpr ⟨inRange _ _ _ _ _ drawn, ih later⟩

end Source.InRange

/-- A face that the dice of the term have. -/
def Term.HasFace (term : Term) (face : Int) : Prop :=
  term.minFace ≤ face ∧ face ≤ term.maxFace

/-- The die shows no other faces than the dice of the term have. -/
structure Term.Shows (term : Term) (die : RolledDie) : Prop where
  result : term.HasFace die.result
  modified : ∀ face ∈ die.modified, term.HasFace face

theorem Term.shows_iff {term : Term} {die : RolledDie} :
    term.Shows die ↔ ∀ draw ∈ die.draws term.die, 1 ≤ draw ∧ draw ≤ term.size := by
  have faces : ∀ face, term.HasFace face ↔
      1 ≤ term.die.drawOf face ∧ term.die.drawOf face ≤ term.size :=
    fun _ => Die.drawOf_inBounds_iff.symm
  rw [RolledDie.draws, List.forall_mem_cons, ← faces]
  constructor
  · intro shows
    refine ⟨shows.result, fun draw member => ?_⟩
    obtain ⟨face, found, rfl⟩ := Option.map_eq_some_iff.mp (Option.mem_toList.mp member)
    exact (faces face).mp (shows.modified face found)
  · intro within
    refine ⟨within.1, fun face found => (faces face).mpr (within.2 _ ?_)⟩
    exact Option.mem_toList.mpr (Option.mem_map_of_mem _ found)

/-- Answers within bounds show faces that the dice have. -/
theorem Term.shows_of_answers {State : Type} {source : Source State} (inRange : source.InRange)
    {term : Term} {dice : List RolledDie} {state next : State}
    (answers : source.Answers state (term.blockCalls dice) next) :
    ∀ die ∈ dice, term.Shows die := by
  rw [blockCalls_eq] at answers
  intro die member
  refine shows_iff.mpr fun draw shown => inRange.forall_mem answers draw ?_
  exact List.mem_flatMap.mpr ⟨die, member, shown⟩

theorem Term.HasFace.natAbs_le {term : Term} {face : Int} (has : term.HasFace face) :
    face.natAbs ≤ term.size.natAbs := by
  obtain ⟨atLeast, atMost⟩ := has
  unfold minFace maxFace at *
  unfold size
  cases kind : term.die with
  | sided size =>
      simp only [kind, Die.minFace, Die.maxFace, Die.size] at *
      omega
  | fudge =>
      simp only [kind, Die.minFace, Die.maxFace, Die.size, Die.fudgeSize] at *
      omega

end TabletopDice
