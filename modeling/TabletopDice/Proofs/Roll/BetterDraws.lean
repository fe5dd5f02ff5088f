import Mathlib.Algebra.Order.BigOperators.Group.List
import TabletopDice.Proofs.Roll.ListedDraws
import TabletopDice.Proofs.Roll.RankedValues
import TabletopDice.Proofs.Roll.RollAudit
import TabletopDice.Proofs.Roll.SelectionRule
import TabletopDice.Proofs.Roll.WrittenPart

/-!
Better draws. Where every die is thrown just once, a higher draw for a term that is added, or a
lower draw for one that is subtracted, never lowers the total, although it may change which dice
count: ranked from the highest to the lowest, the higher values stay above the lower ones place by
place.
-/

set_option autoImplicit false

namespace TabletopDice

open Sequencing

/-! ## Ordered values -/

theorem countP_le_of_forall₂ {first second : List Int}
    (below : List.Forall₂ (· ≤ ·) first second) (least : Int) :
    first.countP (least ≤ ·) ≤ second.countP (least ≤ ·) := by
  induction below with
  | nil => exact Nat.le_refl _
  | @cons value other _ _ le _ ih =>
      have carried : least ≤ value → least ≤ other := fun reached => Int.le_trans reached le
      simp only [List.countP_cons, decide_eq_true_eq]
      split <;> split <;> omega

/-- Of two descending lists, the one that reaches every bound at least as often is the higher one
at every place. -/
theorem forall₂_le_of_countP_le {first second : List Int}
    (firstOrdered : first.Pairwise fun value later => later ≤ value)
    (secondOrdered : second.Pairwise fun value later => later ≤ value)
    (length : first.length = second.length)
    (oftener : ∀ least, first.countP (least ≤ ·) ≤ second.countP (least ≤ ·)) :
    List.Forall₂ (· ≤ ·) first second := by
  induction first generalizing second with
  | nil =>
      obtain rfl := List.eq_nil_of_length_eq_zero length.symm
      exact .nil
  | cons value first ih =>
      cases second with
      | nil => cases length
      | cons other second =>
          obtain ⟨valueGreatest, firstRest⟩ := List.pairwise_cons.mp firstOrdered
          obtain ⟨otherGreatest, secondRest⟩ := List.pairwise_cons.mp secondOrdered
          -- The head is the greatest value, so no list without it reaches it.
          have le : value ≤ other := by
            by_contra lower
            have none : (other :: second).countP (value ≤ ·) = 0 := by
              refine List.countP_eq_zero.mpr fun member inside => ?_
              rcases List.mem_cons.mp inside with rfl | later
              · simpa using lower
              · have bounded := otherGreatest member later
                simp only [decide_eq_true_eq]
                omega
            have some := oftener value
            rw [none, List.countP_cons] at some
            simp at some
          refine .cons le (ih firstRest secondRest (Nat.succ.inj length) fun least => ?_)
          by_cases reached : least ≤ value
          · have both := oftener least
            simp only [List.countP_cons, decide_eq_true_eq, reached, Int.le_trans reached le,
              if_true] at both
            omega
          · have none : first.countP (least ≤ ·) = 0 := by
              refine List.countP_eq_zero.mpr fun member inside => ?_
              have bounded := valueGreatest member inside
              simp only [decide_eq_true_eq]
              omega
            rw [none]
            exact Nat.zero_le _

theorem Selection.rankedValues_mono {first second : List RolledDie}
    (below : List.Forall₂ (· ≤ ·) (first.map RolledDie.value) (second.map RolledDie.value)) :
    List.Forall₂ (· ≤ ·) (rankedValues first) (rankedValues second) := by
  refine forall₂_le_of_countP_le (pairwise_rankedValues first) (pairwise_rankedValues second)
    ?_ fun least => ?_
  · rw [(rankedValues_perm first).length_eq, (rankedValues_perm second).length_eq,
      below.length_eq]
  · rw [(rankedValues_perm first).countP_eq, (rankedValues_perm second).countP_eq]
    exact countP_le_of_forall₂ below least

theorem TermRoll.scoreOfValues_mono {first second : List Int} (success : Option Int)
    (below : List.Forall₂ (· ≤ ·) first second) :
    scoreOfValues success first ≤ scoreOfValues success second := by
  cases success with
  | none => exact below.sum_le_sum
  | some threshold => exact Int.ofNat_le.mpr (countP_le_of_forall₂ below threshold)

/-- Whatever a filter does and however it is scored, higher values score at least as much. -/
theorem TermRoll.scoreOf_apply_mono (success : Option Int) (filter : Option Filter)
    {first second : List RolledDie} (firstFresh : ∀ die ∈ first, die.dropped = false)
    (secondFresh : ∀ die ∈ second, die.dropped = false)
    (below : List.Forall₂ (· ≤ ·) (first.map RolledDie.value) (second.map RolledDie.value)) :
    scoreOf success (Selection.apply filter first) ≤
      scoreOf success (Selection.apply filter second) := by
  rw [scoreOf_apply success filter firstFresh, scoreOf_apply success filter secondFresh]
  exact scoreOfValues_mono success
    (Filter.forall₂_keptOf filter (Selection.rankedValues_mono below))

/-! ## Terms that throw every die once -/

/-- No bonus dice come with the term's dice, and no face of theirs is thrown again. -/
structure Term.ThrowsOnce (term : Term) : Prop where
  calm : term.explode = false
  settled : ∀ face, term.HasFace face → ¬ term.Rerolls face

def Term.plainDie (term : Term) (face : Int) : RolledDie where
  size := term.size
  result := face

namespace Term.ThrowsOnce

variable {term : Term} {cap : Int} {draws : List Int} {pool : List RolledDie} {part : TermRoll}

theorem exists_plainDie (once : term.ThrowsOnce) {die : RolledDie} (thrown : term.ThrownDie die)
    (shows : term.Shows die) : ∃ face, die = term.plainDie face := by
  cases thrown with
  | base base =>
      cases base with
      | @kept face _ => exact ⟨face, rfl⟩
      | rerolled again => exact absurd again (once.settled _ shows.result)
  | bonus explodes =>
      rw [once.calm] at explodes
      cases explodes

theorem exists_faces {pool : List RolledDie}
    (plain : ∀ die ∈ pool, ∃ face, die = term.plainDie face) :
    ∃ faces : List Int, pool = faces.map term.plainDie := by
  induction pool with
  | nil => exact ⟨[], rfl⟩
  | cons die pool ih =>
      obtain ⟨⟨face, rfl⟩, rest⟩ := List.forall_mem_cons.mp plain
      obtain ⟨faces, rfl⟩ := ih rest
      exact ⟨face :: faces, rfl⟩

/-- A pool is one die for each of the term's dice, and its draws are their faces. -/
theorem exists_faces_of_pool (once : term.ThrowsOnce) (shape : term.Pool cap pool)
    (shows : ∀ die ∈ pool, term.Shows die) :
    ∃ faces : List Int, faces.length = term.magnitude ∧ pool = faces.map term.plainDie ∧
      term.blockDraws pool = faces.map term.die.drawOf := by
  obtain ⟨faces, rfl⟩ := exists_faces fun die member =>
    once.exists_plainDie (shape.thrown die member) (shows die member)
  refine ⟨faces, ?_, rfl, ?_⟩
  · have counted := shape.countP_base
    have base : ∀ die ∈ faces.map term.plainDie, (!die.exploded) = true :=
      List.forall_mem_map.mpr fun _ _ => rfl
    rwa [List.countP_eq_length.mpr base, List.length_map] at counted
  · rw [Term.blockDraws, List.flatMap_map]
    exact List.map_eq_flatMap.symm

/-- The draws of the term are the faces of its dice, one for each. -/
theorem exists_faces_of_spends (once : term.ThrowsOnce)
    (spends : Generator.Spends (TermRoll.roll Generator.source cap term) draws part) :
    ∃ faces : List Int, faces.length = term.magnitude ∧ draws = faces.map term.die.drawOf ∧
      TermRoll.ofPool term (faces.map term.plainDie) = .ok part := by
  obtain ⟨pool, thrown, recorded⟩ := TermRoll.spends_roll_iff.mp spends
  obtain ⟨shape, answers⟩ := (Pool.throwAll_yields term cap _ _ _).mp thrown
  have shows := Term.shows_of_answers Generator.source_inRange answers
  have calls : pool.flatMap (RolledDie.calls term.die) = _ := term.blockCalls_eq pool
  rw [calls] at answers
  obtain rfl := Generator.eq_of_answers_map answers
  obtain ⟨faces, length, rfl, drawn⟩ := once.exists_faces_of_pool shape shows
  exact ⟨faces, length, drawn, recorded⟩

theorem length_draws (once : term.ThrowsOnce)
    (spends : Generator.Spends (TermRoll.roll Generator.source cap term) draws part) :
    draws.length = term.magnitude := by
  obtain ⟨faces, length, rfl, -⟩ := once.exists_faces_of_spends spends
  rwa [List.length_map]

end Term.ThrowsOnce

/-! ## Draws and their terms -/

/-- The terms that the draws of a roll belong to if every die is thrown once. -/
def drawOwners (terms : List Term) : List Term :=
  terms.flatMap fun term => List.replicate term.magnitude term

theorem drawOwners_cons (term : Term) (terms : List Term) :
    drawOwners (term :: terms) = List.replicate term.magnitude term ++ drawOwners terms :=
  List.flatMap_cons

/-- The later of two draws is at least as good for the term as the earlier one. -/
def Term.Prefers (term : Term) (draw other : Int) : Prop :=
  if term.isNegative then other ≤ draw else draw ≤ other

instance (term : Term) (draw other : Int) : Decidable (term.Prefers draw other) :=
  inferInstanceAs (Decidable (if term.isNegative then other ≤ draw else draw ≤ other))

/-- Draw by draw, the other draws are at least as good for the terms that they belong to. -/
def Improves (terms : List Term) (draws others : List Int) : Prop :=
  ∀ (place : Nat) (term : Term) (draw other : Int), (drawOwners terms)[place]? = some term →
    draws[place]? = some draw → others[place]? = some other → term.Prefers draw other

namespace Improves

variable {term : Term} {terms : List Term} {draws others rest otherRest : List Int}

theorem of_append (improves : Improves terms (draws ++ rest) (others ++ otherRest)) :
    Improves terms draws others := by
  intro place term draw other owner drawn otherDrawn
  refine improves place term draw other owner ?_ ?_
  · rw [List.getElem?_append_left (List.getElem?_eq_some_iff.mp drawn).1, drawn]
  · rw [List.getElem?_append_left (List.getElem?_eq_some_iff.mp otherDrawn).1, otherDrawn]

theorem head (improves : Improves (term :: terms) draws others)
    (length : draws.length = term.magnitude) (otherLength : others.length = term.magnitude) :
    List.Forall₂ term.Prefers draws others := by
  refine List.forall₂_iff_get.mpr ⟨length.trans otherLength.symm, fun place within other => ?_⟩
  refine improves place term _ _ ?_ (List.getElem?_eq_getElem within)
    (List.getElem?_eq_getElem other)
  rw [drawOwners_cons, List.getElem?_append_left (by simpa [← length] using within),
    List.getElem?_replicate, if_pos (length ▸ within)]

theorem tail (improves : Improves (term :: terms) (draws ++ rest) (others ++ otherRest))
    (length : draws.length = term.magnitude) (otherLength : others.length = term.magnitude) :
    Improves terms rest otherRest := by
  intro place owner draw other owned drawn otherDrawn
  refine improves (term.magnitude + place) owner draw other ?_ ?_ ?_
  · rw [drawOwners_cons, List.getElem?_append_right (by simp)]
    simpa using owned
  · rw [← length, List.getElem?_append_right (by simp)]
    simpa using drawn
  · rw [← otherLength, List.getElem?_append_right (by simp)]
    simpa using otherDrawn

end Improves

namespace TermRoll

open Generator

variable {cap : Int} {term : Term} {terms : List Term} {draws others : List Int}

theorem map_value_plainDie (faces : List Int) :
    (faces.map term.plainDie).map RolledDie.value = faces := by
  rw [List.map_map]
  exact List.map_id _

/-- Better draws for one term: its score goes the way of its sign. -/
theorem contribution_mono (once : term.ThrowsOnce) {part other : TermRoll}
    (spends : Spends (roll source cap term) draws part)
    (otherSpends : Spends (roll source cap term) others other)
    (prefers : List.Forall₂ term.Prefers draws others) :
    part.contribution ≤ other.contribution := by
  obtain ⟨faces, -, rfl, recorded⟩ := once.exists_faces_of_spends spends
  obtain ⟨otherFaces, -, rfl, otherRecorded⟩ := once.exists_faces_of_spends otherSpends
  obtain ⟨sign, dice, score⟩ := ofPool_eq_ok recorded
  obtain ⟨otherSign, otherDice, otherScore⟩ := ofPool_eq_ok otherRecorded
  have fresh : ∀ shown : List Int, ∀ die ∈ shown.map term.plainDie, die.dropped = false :=
    fun _ => List.forall_mem_map.mpr fun _ _ => rfl
  rw [List.forall₂_map_left_iff, List.forall₂_map_right_iff] at prefers
  rw [contribution, contribution, sign, otherSign, score, otherScore, dice, otherDice]
  cases negative : term.isNegative with
  | false =>
      have below : List.Forall₂ (· ≤ ·) faces otherFaces := prefers.imp fun draw other better => by
        rw [Term.Prefers, negative] at better
        exact Die.drawOf_le_iff.mp better
      refine scoreOf_apply_mono _ _ (fresh faces) (fresh otherFaces) ?_
      rwa [map_value_plainDie, map_value_plainDie]
  | true =>
      have below : List.Forall₂ (· ≤ ·) otherFaces faces := by
        refine (prefers.imp fun draw other better => ?_).flip
        rw [Term.Prefers, negative] at better
        exact Die.drawOf_le_iff.mp better
      refine Int.neg_le_neg (scoreOf_apply_mono _ _ (fresh otherFaces) (fresh faces) ?_)
      rwa [map_value_plainDie, map_value_plainDie]

theorem sum_contribution_mono {parts otherParts : List TermRoll}
    (once : ∀ term ∈ terms, term.ThrowsOnce)
    (spends : Spends (terms.mapM (roll source cap)) draws parts)
    (otherSpends : Spends (terms.mapM (roll source cap)) others otherParts)
    (improves : Improves terms draws others) :
    Number.sum (parts.map contribution) ≤ Number.sum (otherParts.map contribution) := by
  induction terms generalizing draws others parts otherParts with
  | nil =>
      obtain ⟨-, rfl⟩ := spends_mapM_nil_iff.mp spends
      obtain ⟨-, rfl⟩ := spends_mapM_nil_iff.mp otherSpends
      exact Int.le_refl _
  | cons term terms ih =>
      obtain ⟨here, later⟩ := List.forall_mem_cons.mp once
      obtain ⟨part, rest, front, back, rfl, rfl, first, behind⟩ :=
        spends_mapM_cons_iff.mp spends
      obtain ⟨other, otherRest, otherFront, otherBack, rfl, rfl, otherFirst, otherBehind⟩ :=
        spends_mapM_cons_iff.mp otherSpends
      have length := here.length_draws first
      have otherLength := here.length_draws otherFirst
      have head := contribution_mono here first otherFirst
        (improves.of_append.head length otherLength)
      have tail := ih later behind otherBehind (improves.tail length otherLength)
      simp only [List.map_cons, Number.sum_cons]
      omega

end TermRoll

/-- Better draws never lower the total, whichever dice they make count. -/
theorem Expression.roll_total_mono {expression : Expression} {cap : Int}
    {text otherText : String} {label otherLabel : Option String} {draws others : List Int}
    {result other : RollResult} {next otherNext : Generator}
    (once : ∀ term ∈ expression.dice, term.ThrowsOnce)
    (rolled : expression.roll Generator.source cap text label (.scripted draws) =
      .ok result next)
    (otherRolled : expression.roll Generator.source cap otherText otherLabel (.scripted others) =
      .ok other otherNext)
    (improves : Improves expression.dice draws others) : result.total ≤ other.total := by
  obtain ⟨front, left, parts, rfl, -, spends, finished⟩ := roll_scripted_eq_ok_iff.mp rolled
  obtain ⟨otherFront, otherLeft, otherParts, rfl, -, otherSpends, otherFinished⟩ :=
    roll_scripted_eq_ok_iff.mp otherRolled
  rw [(RollResult.ofParts_eq_ok finished).1, (RollResult.ofParts_eq_ok otherFinished).1]
  have sums := TermRoll.sum_contribution_mono once spends otherSpends improves.of_append
  omega

/-- Of three dice the two highest are added. -/
def pikes : Term :=
  { Selection.lowestTwo with
    filter := some (.keep ⟨.highest, 2⟩), reroll := none, explode := false
    filter_fits := by decide }

/-- Two dice, of which every three and every four is subtracted as one. -/
def bows : Term :=
  { Expression.volley with
    die := .sided 4, filter := none, reroll := none, explode := false, success := some 3
    size_pos := by decide, filter_fits := by decide }

theorem TermRoll.exists_spends_of_small {term : Term} {cap : Int} (faces : List Int)
    (thrown : Generator.Spends (Pool.throwAll Generator.source term cap) faces
      (faces.map term.plainDie))
    (magnitude : term.magnitude < 1000) (size : term.size.natAbs < 1000)
    (length : faces.length < 1000) (shown : ∀ face ∈ faces, face.natAbs < 1000) :
    ∃ part, Generator.Spends (roll Generator.source cap term) faces part := by
  have writable : term.Writable := ⟨Text.lt_writeBound magnitude, Text.lt_writeBound size⟩
  have dice : ∀ die ∈ faces.map term.plainDie, die.Writable :=
    List.forall_mem_map.mpr fun face member => ⟨Text.lt_writeBound (shown face member), nofun⟩
  have few : (faces.map term.plainDie).length < Text.writeBound := by
    rw [List.length_map]
    exact Text.lt_writeBound length
  obtain ⟨part, written⟩ :=
    exists_ofPool_iff.mpr ⟨writable.exists_label, dice, exists_successText _ _ few⟩
  exact ⟨part, spends_roll_iff.mpr ⟨_, thrown, written⟩⟩

theorem Expression.exists_roll_pair (first second : Term) {front back : List Int}
    (firstRolled : ∃ part, Generator.Spends (TermRoll.roll Generator.source 10 first) front part)
    (secondRolled : ∃ part, Generator.Spends (TermRoll.roll Generator.source 10 second) back part) :
    ∃ result next, Expression.roll Generator.source 10 ⟨[first, second], 1⟩ "" none
      (.scripted (front ++ back)) = .ok result next := by
  obtain ⟨part, firstRolled⟩ := firstRolled
  obtain ⟨other, secondRolled⟩ := secondRolled
  have short : (1 : Int).natAbs < Text.writeBound := Text.lt_writeBound (by decide)
  obtain ⟨result, finished⟩ := RollResult.exists_ofParts [part, other] "" none short
  refine ⟨result, .scripted [], Expression.roll_scripted_eq_ok_iff.mpr
    ⟨_, [], _, (List.append_nil _).symm, rfl, ?_, finished⟩⟩
  refine TermRoll.spends_mapM_cons_iff.mpr ⟨part, _, front, _, rfl, rfl, firstRolled, ?_⟩
  exact TermRoll.spends_mapM_cons_iff.mpr ⟨other, [], back, [], (List.append_nil _).symm, rfl,
    secondRolled, TermRoll.spends_mapM_nil_iff.mpr ⟨rfl, rfl⟩⟩

theorem exists_roll_pikes_bows {front back : List Int}
    (pikesRolled : ∃ part, Generator.Spends (TermRoll.roll Generator.source 10 pikes) front part)
    (bowsRolled : ∃ part, Generator.Spends (TermRoll.roll Generator.source 10 bows) back part) :
    ∃ result next, Expression.roll Generator.source 10 ⟨[pikes, bows], 1⟩ "" none
      (.scripted (front ++ back)) = .ok result next :=
  Expression.exists_roll_pair pikes bows pikesRolled bowsRolled

theorem Expression.roll_total_mono_pikes_bows :
    (∀ term ∈ [pikes, bows], term.ThrowsOnce) ∧
      Improves [pikes, bows] [3, 5, 1, 4, 2] [4, 5, 6, 1, 2] ∧
      ∃ result other next otherNext,
        Expression.roll Generator.source 10 ⟨[pikes, bows], 1⟩ "" none
            (.scripted [3, 5, 1, 4, 2]) = .ok result next ∧
          Expression.roll Generator.source 10 ⟨[pikes, bows], 1⟩ "" none
            (.scripted [4, 5, 6, 1, 2]) = .ok other otherNext ∧
          result.total ≤ other.total := by
  have once : ∀ term ∈ [pikes, bows], term.ThrowsOnce := by
    refine List.forall_mem_cons.mpr ⟨⟨rfl, ?_⟩, List.forall_mem_singleton.mpr ⟨rfl, ?_⟩⟩
    · exact fun _ _ ⟨_, present, _⟩ => nomatch present
    · exact fun _ _ ⟨_, present, _⟩ => nomatch present
  have improves : Improves [pikes, bows] [3, 5, 1, 4, 2] [4, 5, 6, 1, 2] := by
    intro place term draw other owner drawn otherDrawn
    have owners : drawOwners [pikes, bows] = [pikes, pikes, pikes, bows, bows] := rfl
    rw [owners] at owner
    rcases place with _ | _ | _ | _ | _ | place <;> cases owner <;> cases drawn <;>
      cases otherDrawn <;> decide
  obtain ⟨result, next, rolled⟩ := exists_roll_pikes_bows
    (TermRoll.exists_spends_of_small [3, 5, 1] rfl (by decide) (by decide) (by decide)
      (by decide))
    (TermRoll.exists_spends_of_small [4, 2] rfl (by decide) (by decide) (by decide)
      (by decide))
  obtain ⟨other, otherNext, otherRolled⟩ := exists_roll_pikes_bows
    (TermRoll.exists_spends_of_small [4, 5, 6] rfl (by decide) (by decide) (by decide)
      (by decide))
    (TermRoll.exists_spends_of_small [1, 2] rfl (by decide) (by decide) (by decide)
      (by decide))
  exact ⟨once, improves, result, other, next, otherNext, rolled, otherRolled,
    roll_total_mono once rolled otherRolled improves⟩

end TabletopDice
