import TabletopDice.Proofs.Roll.BetterDraws
import TabletopDice.Proofs.Roll.TotalBounds

/-!
Rolls that reach the bounds of their total. Without bonus dice and thresholds every die can be made
to show one face of a term, and to show it again where the term throws that face again. With the
extreme faces of its terms an expression comes to its least and to its greatest total.
-/

set_option autoImplicit false

namespace TabletopDice

open Generator

/-! ## Pools of one face -/

namespace Pool

variable {term : Term} {cap : Int} {pool : List RolledDie}

/-- Every pool that shows only faces of the term is thrown on its own draws. -/
theorem spends_throwAll (shape : term.Pool cap pool) (shows : ∀ die ∈ pool, term.Shows die) :
    Spends (throwAll source term cap) (term.blockDraws pool) pool := by
  refine (throwAll_yields term cap _ _ _).mpr ⟨shape, ?_⟩
  have calls : pool.flatMap (RolledDie.calls term.die) = _ := term.blockCalls_eq pool
  rw [calls]
  refine answers_map fun draw drawn => ?_
  obtain ⟨die, member, shown⟩ := List.mem_flatMap.mp drawn
  exact Term.shows_iff.mp (shows die member) draw shown

end Pool

namespace Term

variable {term : Term} {cap face : Int}

theorem exists_baseDie (has : term.HasFace face) :
    ∃ die, term.BaseDie die ∧ term.Shows die ∧ die.value = face := by
  by_cases again : term.Rerolls face
  · refine ⟨{ size := term.size, result := face, modified := some face, rerolled := true },
      .rerolled again, ⟨has, fun shown same => ?_⟩, rfl⟩
    cases same
    exact has
  · exact ⟨_, .kept again, ⟨has, nofun⟩, rfl⟩

/-- A calm term can throw a pool in which every die counts for the same face. -/
theorem exists_pool (cap : Int) (calm : term.explode = false) (has : term.HasFace face) :
    ∃ pool, term.Pool cap pool ∧ pool.length = term.magnitude ∧
      (∀ die ∈ pool, term.Shows die) ∧ ∀ die ∈ pool, die.value = face := by
  obtain ⟨die, base, shows, value⟩ := exists_baseDie has
  have still : ¬ term.Explodes die := by
    rw [Explodes, calm]
    exact fun explodes => Bool.false_ne_true explodes.1
  have each {holds : RolledDie → Prop} (here : holds die) :
      ∀ other ∈ List.replicate term.magnitude die, holds other :=
    fun other member => List.eq_of_mem_replicate member ▸ here
  refine ⟨List.replicate term.magnitude die, ⟨List.replicate term.magnitude [die], ?_, ?_, ?_⟩,
    List.length_replicate, each shows, each value⟩
  · exact List.length_replicate
  · exact fun block member => List.eq_of_mem_replicate member ▸ .single base still
  · exact List.flatten_replicate_singleton.symm

/-- What the term adds to the total if its dice are worth so much. -/
def signed (term : Term) (worth : Int) : Int :=
  if term.count < 0 then -worth else worth

theorem contribution_eq_of_value {pool : List RolledDie} {part : TermRoll}
    (unscored : term.success = none) (shape : term.Pool cap pool)
    (written : TermRoll.ofPool term pool = .ok part) (value : ∀ die ∈ pool, die.value = face) :
    part.contribution = term.signed (term.leaves pool.length * face) := by
  have recorded : term.Recorded cap part := ⟨pool, shape, written⟩
  have dice := (TermRoll.ofPool_eq_ok written).2.1
  have count := survivors_apply shape.not_dropped shape.magnitude_le_length
  have shown : ∀ die ∈ part.dice, face ≤ die.value ∧ die.value ≤ face := by
    rw [dice]
    refine (Selection.forall_mem_apply_iff (fun _ _ => Iff.rfl) _ _).mpr fun die member => ?_
    exact ⟨Int.le_of_eq (value die member).symm, Int.le_of_eq (value die member)⟩
  obtain ⟨atLeast, atMost⟩ := Selection.sum_kept_bounds shown
  have worth : term.worth part.dice = Selection.survivors part.dice * face := by
    rw [← scoreOf_eq_worth recorded.dice, unscored]
    exact Int.le_antisymm atMost atLeast
  rw [recorded.contribution, share, worth, dice, count]
  rfl

end Term

/-! ## Reaching the bounds -/

namespace TermRoll

variable {term : Term} {face : Int}

theorem exists_spends_of_face (cap : Int) (calm : term.explode = false)
    (unscored : term.success = none) (writable : term.Writable) (has : term.HasFace face) :
    ∃ draws part, Spends (roll source cap term) draws part ∧
      part.contribution = term.signed (term.leaves term.magnitude * face) := by
  obtain ⟨pool, shape, length, shows, value⟩ := Term.exists_pool cap calm has
  obtain ⟨part, written⟩ : ∃ part, ofPool term pool = .ok part := by
    refine exists_ofPool_iff.mpr ⟨writable.exists_label, fun die member => ?_, "", ?_⟩
    · exact (shows die member).writable writable
    · rw [unscored]
      rfl
  refine ⟨_, part, spends_roll_iff.mpr ⟨pool, Pool.spends_throwAll shape shows, written⟩, ?_⟩
  rw [Term.contribution_eq_of_value unscored shape written value, length]

/-- The terms can be made to show any faces that their dice have, one face for each term. -/
theorem exists_spends_of_faces (cap : Int) {terms : List Term} {faceOf : Term → Int}
    (plain : ∀ term ∈ terms, term.explode = false ∧ term.success = none ∧ term.Writable)
    (has : ∀ term ∈ terms, term.HasFace (faceOf term)) :
    ∃ draws parts, Spends (terms.mapM (roll source cap)) draws parts ∧
      parts.map contribution =
        terms.map fun term => term.signed (term.leaves term.magnitude * faceOf term) := by
  induction terms with
  | nil => exact ⟨[], [], spends_mapM_nil_iff.mpr ⟨rfl, rfl⟩, rfl⟩
  | cons term terms ih =>
      obtain ⟨⟨calm, unscored, writable⟩, laterPlain⟩ := List.forall_mem_cons.mp plain
      obtain ⟨here, later⟩ := List.forall_mem_cons.mp has
      obtain ⟨front, part, first, contributes⟩ :=
        exists_spends_of_face cap calm unscored writable here
      obtain ⟨back, rest, behind, contributions⟩ := ih laterPlain later
      refine ⟨front ++ back, part :: rest, spends_mapM_cons_iff.mpr
        ⟨part, rest, front, back, rfl, rfl, first, behind⟩, ?_⟩
      rw [List.map_cons, List.map_cons, contributes, contributions]

end TermRoll

namespace Term

variable {term : Term}

theorem minFace_le_maxFace : term.minFace ≤ term.maxFace := by
  have positive := term.size_pos
  unfold minFace maxFace
  cases kind : term.die with
  | sided size =>
      rw [kind] at positive
      exact positive
  | fudge => decide

/-- The face of a term that adds least to a total. -/
def leastFace (term : Term) : Int :=
  if term.count < 0 then term.maxFace else term.minFace

def greatestFace (term : Term) : Int :=
  if term.count < 0 then term.minFace else term.maxFace

theorem hasFace_leastFace : term.HasFace term.leastFace := by
  have ordered := term.minFace_le_maxFace
  unfold HasFace leastFace
  split <;> omega

theorem hasFace_greatestFace : term.HasFace term.greatestFace := by
  have ordered := term.minFace_le_maxFace
  unfold HasFace greatestFace
  split <;> omega

theorem leastShare_eq (unscored : term.success = none) (count : Nat) :
    term.leastShare count = term.signed (count * term.leastFace) := by
  unfold leastShare signed leastWorth greatestWorth leastFace
  rw [unscored]
  split <;> rfl

theorem greatestShare_eq (unscored : term.success = none) (count : Nat) :
    term.greatestShare count = term.signed (count * term.greatestFace) := by
  unfold greatestShare signed leastWorth greatestWorth greatestFace
  rw [unscored]
  split <;> rfl

end Term

namespace Expression

variable {expression : Expression} {text : String} {label : Option String}

/-- Some listed draws roll the total. -/
def Reaches (expression : Expression) (cap : Int) (text : String) (label : Option String)
    (total : Int) : Prop :=
  ∃ draws result, expression.roll source cap text label (.scripted draws) =
    .ok result (.scripted []) ∧ result.total = total

theorem reaches_of_faces (cap : Int) {faceOf : Term → Int}
    (plain : ∀ term ∈ expression.dice,
      term.explode = false ∧ term.success = none ∧ term.Writable)
    (short : expression.modifier.natAbs < Text.writeBound)
    (has : ∀ term : Term, term.HasFace (faceOf term)) :
    expression.Reaches cap text label (expression.modifier + Number.sum (expression.dice.map
      fun term => term.signed (term.leaves term.magnitude * faceOf term))) := by
  obtain ⟨draws, parts, spends, contributions⟩ :=
    TermRoll.exists_spends_of_faces cap plain fun term _ => has term
  obtain ⟨result, finished⟩ := RollResult.exists_ofParts parts text label short
  refine ⟨draws, result, roll_scripted_eq_ok_iff.mpr
    ⟨draws, [], parts, (List.append_nil _).symm, rfl, spends, finished⟩, ?_⟩
  rw [(RollResult.ofParts_eq_ok finished).1, contributions]

theorem sum_plain_shares {share : Term → Nat → Int} {faceOf : Term → Int}
    (same : ∀ term ∈ expression.dice, ∀ count, share term count =
      term.signed (count * faceOf term)) :
    Number.sum (List.zipWith share expression.dice expression.plainCounts) = Number.sum
      (expression.dice.map fun term => term.signed (term.leaves term.magnitude * faceOf term)) := by
  rw [plainCounts, List.zipWith_map_right, List.zipWith_self]
  exact congrArg Number.sum (List.map_congr_left fun term member => same term member _)

/-- Both bounds of the total are reached. -/
theorem reaches_bounds (cap : Int) (text : String) (label : Option String)
    (plain : ∀ term ∈ expression.dice,
      term.explode = false ∧ term.success = none ∧ term.Writable)
    (short : expression.modifier.natAbs < Text.writeBound) :
    expression.Reaches cap text label (expression.leastTotal expression.plainCounts) ∧
      expression.Reaches cap text label (expression.greatestTotal expression.plainCounts) := by
  have least := fun term member => Term.leastShare_eq (plain term member).2.1
  have greatest := fun term member => Term.greatestShare_eq (plain term member).2.1
  rw [leastTotal, greatestTotal, sum_plain_shares least, sum_plain_shares greatest]
  exact ⟨reaches_of_faces cap plain short fun _ => Term.hasFace_leastFace,
    reaches_of_faces cap plain short fun _ => Term.hasFace_greatestFace⟩

end Expression

end TabletopDice
