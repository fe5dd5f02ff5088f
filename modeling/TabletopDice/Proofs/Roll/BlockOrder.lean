import Mathlib.Data.List.Perm.Basic
import TabletopDice.Proofs.Roll.ListedDraws
import TabletopDice.Proofs.Roll.RankedValues
import TabletopDice.Proofs.Roll.RollAudit
import TabletopDice.Proofs.Roll.WrittenPart

/-!
The order in which the dice of a term fall. The draws of a term are divided into one block for each
of its dice, and no block can be told to end elsewhere. Blocks that change places give a roll with
the same total, in which the same values count and the same values are dropped.
-/

set_option autoImplicit false

namespace TabletopDice

open Sequencing

/-! ## Blocks of draws -/

open Generator

theorem Pool.spends_throwAll_iff {term : Term} {cap : Int} {draws : List Int}
    {pool : List RolledDie} :
    Spends (throwAll source term cap) draws pool ↔
      ∃ (blocks : List (List Int)) (dice : List (List RolledDie)), draws = blocks.flatten ∧
        pool = dice.flatten ∧ blocks.length = term.magnitude ∧
        List.Forall₂ (Spends (block source term cap)) blocks dice := by
  have each : ∀ dice, Spends (Pool.blocks source term cap) draws dice ↔ _ :=
    fun _ => spends_repeated_iff (block_yields term cap)
  constructor
  · intro spends
    obtain ⟨dice, middle, thrown, joined⟩ := run_bind_eq_ok_iff.mp spends
    obtain ⟨rfl, rfl⟩ := run_pure_eq_ok_iff.mp joined
    obtain ⟨blocks, split, length, spends⟩ := (each dice).mp thrown
    exact ⟨blocks, dice, split, rfl, length, spends⟩
  · intro divided
    obtain ⟨blocks, dice, split, rfl, length, spends⟩ := divided
    exact run_bind_eq_ok_iff.mpr ⟨dice, _, (each dice).mpr ⟨blocks, split, length, spends⟩, rfl⟩

/-- The draws that one die of the term takes: its throw, its second throw if there is one, and its
chain of bonus dice. -/
def Term.IsDieBlock (term : Term) (cap : Int) (draws : List Int) : Prop :=
  ∃ dice, Spends (Pool.block source term cap) draws dice

/-- How draws are divided around one term: what the terms before it take, one block for each of its
dice, and what follows. -/
structure DieBlocks (cap : Int) (earlier : List Term) (term : Term) (draws before : List Int)
    (blocks : List (List Int)) (after : List Int) : Prop where
  joined : before ++ (blocks.flatten ++ after) = draws
  earlier : ∃ parts, Spends (earlier.mapM (TermRoll.roll source cap)) before parts
  magnitude : blocks.length = term.magnitude
  dice : ∀ block ∈ blocks, term.IsDieBlock cap block

namespace DieBlocks

variable {cap : Int} {earlier : List Term} {term : Term} {draws before otherBefore : List Int}
  {blocks others : List (List Int)} {after otherAfter : List Int}

theorem blocks_unique (dice : ∀ block ∈ blocks, term.IsDieBlock cap block)
    (otherDice : ∀ block ∈ others, term.IsDieBlock cap block)
    (length : blocks.length = others.length)
    (same : blocks.flatten ++ after = others.flatten ++ otherAfter) :
    blocks = others ∧ after = otherAfter := by
  induction blocks generalizing others with
  | nil =>
      obtain rfl := List.eq_nil_of_length_eq_zero length.symm
      exact ⟨rfl, same⟩
  | cons block blocks ih =>
      cases others with
      | nil => cases length
      | cons other others =>
          obtain ⟨⟨first, firstSpends⟩, later⟩ := List.forall_mem_cons.mp dice
          obtain ⟨⟨second, secondSpends⟩, otherLater⟩ := List.forall_mem_cons.mp otherDice
          rw [List.flatten_cons, List.flatten_cons, List.append_assoc, List.append_assoc] at same
          obtain ⟨rfl, rest⟩ :=
            firstSpends.unique (Pool.block_yields term cap) secondSpends same
          obtain ⟨rfl, rfl⟩ := ih later otherLater (Nat.succ.inj length) rest
          exact ⟨rfl, rfl⟩

/-- No block can be told to end elsewhere. -/
theorem unique (first : DieBlocks cap earlier term draws before blocks after)
    (second : DieBlocks cap earlier term draws otherBefore others otherAfter) :
    before = otherBefore ∧ blocks = others ∧ after = otherAfter := by
  obtain ⟨parts, spends⟩ := first.earlier
  obtain ⟨otherParts, otherSpends⟩ := second.earlier
  obtain ⟨rfl, rest⟩ := spends.unique (TermRoll.mapM_roll_yields cap earlier) otherSpends
    (first.joined.trans second.joined.symm)
  exact ⟨rfl, blocks_unique first.dice second.dice
    (first.magnitude.trans second.magnitude.symm) rest⟩

end DieBlocks

/-! ## Dice in another order -/

/-- The same values count, and the same values are dropped. -/
structure SameValues (first second : List RolledDie) : Prop where
  kept : ((Selection.kept first).map RolledDie.value).Perm
    ((Selection.kept second).map RolledDie.value)
  dropped : ((first.filter (·.dropped)).map RolledDie.value).Perm
    ((second.filter (·.dropped)).map RolledDie.value)

theorem Selection.sameValues_apply (filter : Option Filter) {first second : List RolledDie}
    (firstFresh : ∀ die ∈ first, die.dropped = false)
    (secondFresh : ∀ die ∈ second, die.dropped = false) (same : first.Perm second) :
    SameValues (apply filter first) (apply filter second) := by
  obtain ⟨firstKept, firstDropped⟩ := values_apply_perm filter first firstFresh
  obtain ⟨secondKept, secondDropped⟩ := values_apply_perm filter second secondFresh
  have ranked := rankedValues_eq_of_perm (same.map RolledDie.value)
  rw [ranked] at firstKept firstDropped
  exact ⟨firstKept.trans secondKept.symm, firstDropped.trans secondDropped.symm⟩

theorem TermRoll.exists_ofPool_of_perm {term : Term} {cap : Int} {first second : List RolledDie}
    {part : TermRoll} (firstShape : term.Pool cap first) (secondShape : term.Pool cap second)
    (same : first.Perm second) (written : ofPool term second = .ok part) :
    ∃ other, ofPool term first = .ok other ∧ other.contribution = part.contribution ∧
      SameValues other.dice part.dice := by
  have values := Selection.sameValues_apply term.filter firstShape.not_dropped
    secondShape.not_dropped same
  have score : scoreOf term.success (Selection.apply term.filter first) =
      scoreOf term.success (Selection.apply term.filter second) := by
    rw [scoreOf_eq, scoreOf_eq]
    exact scoreOfValues_perm term.success values.kept
  obtain ⟨label, dice, successes⟩ := exists_ofPool_iff.mp ⟨part, written⟩
  rw [← score] at successes
  obtain ⟨other, otherWritten⟩ := exists_ofPool_iff.mpr
    ⟨label, fun die member => dice die (same.mem_iff.mp member), successes⟩
  obtain ⟨sign, shown, worth⟩ := ofPool_eq_ok written
  obtain ⟨otherSign, otherShown, otherWorth⟩ := ofPool_eq_ok otherWritten
  rw [shown] at worth
  rw [otherShown] at otherWorth
  refine ⟨other, otherWritten, ?_, ?_⟩
  · rw [contribution, contribution, sign, otherSign, worth, otherWorth, score]
  · rw [shown, otherShown]
    exact values

namespace Expression

variable {expression : Expression} {cap : Int} {text : String} {label : Option String}
  {draws : List Int} {result : RollResult} {next : Generator} {earlier later : List Term}
  {term : Term}

/-- The other result has the same total, and but for the block of one term it has the same dice. In
that block the same values count and the same values are dropped. -/
structure SameButFor (expression : Expression) (place : Nat) (result other : RollResult) :
    Prop where
  total : other.total = result.total
  dice : ∃ done pool otherPool rest, done.length = place ∧
    IsCut expression.dice result.dice (done ++ pool :: rest) ∧
    IsCut expression.dice other.dice (done ++ otherPool :: rest) ∧ SameValues otherPool pool

theorem sameButFor_of_parts {parts rest : List TermRoll} {part otherPart : TermRoll}
    {other : RollResult} (terms : expression.dice = earlier ++ term :: later)
    (front : List.Forall₂ (fun term part => term.Recorded cap part) earlier parts)
    (recorded : term.Recorded cap part) (otherRecorded : term.Recorded cap otherPart)
    (back : List.Forall₂ (fun term part => term.Recorded cap part) later rest)
    (contribution : otherPart.contribution = part.contribution)
    (values : SameValues otherPart.dice part.dice)
    (finished : RollResult.ofParts (parts ++ part :: rest) expression.modifier text label =
      .ok result)
    (otherFinished : RollResult.ofParts (parts ++ otherPart :: rest) expression.modifier text
      label = .ok other) : SameButFor expression earlier.length result other where
  total := by
    rw [(RollResult.ofParts_eq_ok finished).1, (RollResult.ofParts_eq_ok otherFinished).1]
    simp only [List.map_append, List.map_cons, contribution]
  dice := by
    have cut := isCut_around terms front recorded back finished
    have otherCut := isCut_around terms front otherRecorded back otherFinished
    exact ⟨_, _, _, _, by rw [List.length_map, front.length_eq], cut, otherCut, values⟩

/-- Dice blocks of one term that change places are rolled alike. -/
theorem roll_blocks_perm (terms : expression.dice = earlier ++ term :: later)
    (rolled : expression.roll source cap text label (.scripted draws) = .ok result next) :
    ∃ before blocks after, DieBlocks cap earlier term draws before blocks after ∧
      (∀ otherBefore others otherAfter,
        DieBlocks cap earlier term draws otherBefore others otherAfter →
          otherBefore = before ∧ others = blocks ∧ otherAfter = after) ∧
      ∀ permuted : List (List Int), permuted.Perm blocks →
        ∃ other, expression.roll source cap text label
            (.scripted (before ++ (permuted.flatten ++ after))) = .ok other next ∧
          SameButFor expression earlier.length result other := by
  obtain ⟨parts, _, pool, _, part, rest, front, thrown, written, back, finished⟩ :=
    (roll_eq_ok_iff_around terms).mp rolled
  obtain ⟨before, left, rfl, rfl, frontSpends⟩ :=
    exists_spends (TermRoll.mapM_roll_yields cap earlier) front
  obtain ⟨middle, after, rfl, rfl, spends⟩ := exists_spends (Pool.throwAll_yields term cap) thrown
  obtain ⟨blocks, dice, rfl, rfl, length, each⟩ := Pool.spends_throwAll_iff.mp spends
  have present : ∀ block ∈ blocks, term.IsDieBlock cap block :=
    ((List.forall₂_and_left _ _).mp (each.imp fun _ dice spends => ⟨⟨dice, spends⟩, spends⟩)).1
  have layout : DieBlocks cap earlier term _ before blocks after :=
    ⟨rfl, ⟨parts, frontSpends⟩, length, present⟩
  refine ⟨before, blocks, after, layout, fun _ _ _ other => other.unique layout, ?_⟩
  intro permuted same
  -- Every block brings the same dice at its new place, so that only their order changes.
  obtain ⟨others, otherEach, sameDice⟩ := List.perm_comp_forall₂ same each
  have otherSpends : Spends (Pool.throwAll source term cap) permuted.flatten others.flatten :=
    Pool.spends_throwAll_iff.mpr
      ⟨permuted, others, rfl, rfl, same.length_eq.trans length, otherEach⟩
  have shape := ((Pool.throwAll_yields term cap _ _ _).mp spends).1
  have otherShape := ((Pool.throwAll_yields term cap _ _ _).mp otherSpends).1
  obtain ⟨otherPart, otherWritten, contribution, values⟩ :=
    TermRoll.exists_ofPool_of_perm otherShape shape sameDice.flatten written
  obtain ⟨other, otherFinished⟩ := RollResult.exists_ofParts (parts ++ otherPart :: rest) text label
    (RollResult.short_of_ofParts finished)
  refine ⟨other, (roll_eq_ok_iff_around terms).mpr ⟨parts, _, _, _, otherPart, rest,
    frontSpends.append (TermRoll.mapM_roll_yields cap earlier) _,
    otherSpends.append (Pool.throwAll_yields term cap) _, otherWritten, back, otherFinished⟩, ?_⟩
  exact sameButFor_of_parts terms ((TermRoll.mapM_roll_yields cap earlier _ _ _).mp front).1
    ⟨_, shape, written⟩ ⟨_, otherShape, otherWritten⟩
    ((TermRoll.mapM_roll_yields cap later _ _ _).mp back).1 contribution values finished
    otherFinished

theorem roll_blocks_perm_volley :
    Expression.roll source 10 ⟨[volley], 4⟩ "" none (.scripted [6, 1, 1, 4]) =
        .ok volleyResult (.scripted []) ∧
      ∃ other, Expression.roll source 10 ⟨[volley], 4⟩ "" none (.scripted [1, 4, 6, 1]) =
          .ok other (.scripted []) ∧
        SameButFor ⟨[volley], 4⟩ 0 volleyResult other := by
  have terms : (⟨[volley], 4⟩ : Expression).dice = [] ++ volley :: [] := rfl
  obtain ⟨before, blocks, after, -, unique, permuted⟩ := roll_blocks_perm terms roll_volley
  have layout : DieBlocks 10 [] volley [6, 1, 1, 4] [] [[6, 1], [1, 4]] [] :=
    ⟨rfl, ⟨[], rfl⟩, rfl,
      List.forall_mem_cons.mpr ⟨⟨_, rfl⟩, List.forall_mem_singleton.mpr ⟨_, rfl⟩⟩⟩
  obtain ⟨rfl, rfl, rfl⟩ := unique _ _ _ layout
  exact ⟨roll_volley, permuted [[1, 4], [6, 1]] (.swap _ _ _)⟩

end Expression

end TabletopDice
