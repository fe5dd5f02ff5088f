import TabletopDice.Proofs.Roll.ListedDraws
import TabletopDice.Proofs.Roll.ReadingOptions
import TabletopDice.Proofs.Roll.SelectionRank
import TabletopDice.Proofs.Roll.WrittenPart

/-!
Keeping and dropping as complements. To keep some of a term's dice from one side is to drop the
others from the other side, as long as the term throws no bonus dice. Its bonus dice count for one
of the two filters and not for the other, which does not change what is drawn.
-/

set_option autoImplicit false

namespace TabletopDice

open Sequencing

/-! ## Complements -/

def Side.opposite : Side → Side
  | highest => lowest
  | lowest => highest

/-- The filter that asks for the same of so many dice: what is kept from one side is what is left
when the others are dropped from the other side. -/
def Filter.complement (dice : Nat) : Filter → Filter
  | keep pick => drop ⟨pick.side.opposite, dice - pick.count⟩
  | drop pick => keep ⟨pick.side.opposite, dice - pick.count⟩

theorem Filter.Fits.complement {filter : Filter} {dice : Nat} (fits : filter.Fits dice) :
    (filter.complement dice).Fits dice := by
  cases filter <;> simp only [Fits, Filter.complement, pick] at * <;> omega

theorem Filter.complement_complement (dice : Nat) (filter : Filter) :
    (filter.complement dice).complement dice = filter := by
  rcases filter with ⟨side, count⟩ | ⟨side, count⟩ <;> cases side <;>
    simp only [complement, Side.opposite, Int.sub_sub_self]

/-- Of four dice, the three highest are kept or the lowest is dropped. -/
example : (Filter.keep ⟨.highest, 3⟩).complement 4 = .drop ⟨.lowest, 1⟩ := rfl

def Term.complement (term : Term) : Term :=
  { term with
    filter := term.filter.map (Filter.complement term.magnitude)
    filter_fits := by
      intro filter present
      obtain ⟨other, found, rfl⟩ := Option.map_eq_some_iff.mp present
      exact (term.filter_fits other found).complement }

@[simp] theorem Term.filter_complement (term : Term) :
    term.complement.filter = term.filter.map (Filter.complement term.magnitude) := rfl

theorem Term.complement_complement (term : Term) : term.complement.complement = term := by
  obtain ⟨count, die, filter, reroll, explode, success, _, _, _⟩ := term
  cases filter <;> simp [complement, magnitude, Filter.complement_complement]

theorem Term.throwsAlike_complement (term : Term) : term.ThrowsAlike term.complement :=
  ⟨rfl, rfl, rfl, rfl⟩

namespace Selection

variable {filter : Filter} {count : Nat} {pool : List RolledDie}

theorem dropsRank_complement (filter : Filter) (dice : Nat) (rank : Int) :
    dropsRank (filter.complement dice) dice rank = dropsRank filter dice rank := by
  rcases filter with ⟨side, count⟩ | ⟨side, count⟩ <;> cases side <;>
    simp only [Filter.complement, Side.opposite, dropsRank, Int.sub_sub_self]

theorem mark_complement (fits : filter.Fits count) (length : pool.length = count) :
    mark (filter.complement count) pool = mark filter pool := by
  subst length
  refine List.ext_getElem? fun place => ?_
  cases found : pool[place]? with
  | none => rw [getElem?_mark, getElem?_mark, found, Option.map_none, Option.map_none]
  | some die =>
      have complementFits := fits.complement
      rw [getElem?_mark_eq_some fits.1 (Int.le_of_lt fits.2) found,
        getElem?_mark_eq_some complementFits.1 (Int.le_of_lt complementFits.2) found,
        dropsRank_complement]

/-- Each of the two filters singles out its own number of dice, and together that is as many as the
term asks for. -/
theorem length_eq_of_mark_complement (fits : filter.Fits count) (enough : count ≤ pool.length)
    (same : mark (filter.complement count) pool = mark filter pool) : pool.length = count := by
  have complementFits := fits.complement
  have few : filter.pick.count ≤ pool.length :=
    Int.le_trans (Int.le_of_lt fits.2) (Int.ofNat_le.mpr enough)
  have complementFew : (filter.complement count).pick.count ≤ pool.length :=
    Int.le_trans (Int.le_of_lt complementFits.2) (Int.ofNat_le.mpr enough)
  have selected := selectedCount_mark fits.1 few
  have complementSelected := selectedCount_mark complementFits.1 complementFew
  have total := countP_kept_mark filter pool
  rw [same] at complementSelected
  cases filter <;> simp only [selectedCount, Filter.complement, Filter.pick] at * <;> omega

end Selection

/-! ## Bonus dice -/

namespace Term

variable {term : Term} {cap : Int} {block : List RolledDie}

theorem Owns.length_eq_iff (owns : term.Owns block) :
    block.length = term.magnitude ↔ ∀ die ∈ block, die.exploded = false := by
  rw [← owns.base, eq_comm, List.countP_eq_length]
  simp only [Bool.not_eq_true']

theorem ThrownDie.not_exploded (calm : term.explode = false) {die : RolledDie}
    (thrown : term.ThrownDie die) : die.exploded = false := by
  cases thrown with
  | base base => exact base.exploded
  | bonus explodes =>
      rw [calm] at explodes
      cases explodes

theorem Recorded.not_exploded (calm : term.explode = false) {part : TermRoll}
    (recorded : term.Recorded cap part) : ∀ die ∈ part.dice, die.exploded = false := by
  obtain ⟨pool, shape, written⟩ := recorded
  rw [(TermRoll.ofPool_eq_ok written).2.1]
  refine (Selection.forall_mem_apply_iff (fun _ _ => Iff.rfl) _ _).mpr fun die member => ?_
  exact (shape.thrown die member).not_exploded calm

end Term

namespace TermRoll

variable {term : Term} {cap : Int} {filter : Filter} {pool : List RolledDie}
  {part other : TermRoll}

theorem ofPool_complement
    (same : Selection.apply term.complement.filter pool = Selection.apply term.filter pool) :
    ofPool term.complement pool = ofPool term pool := by
  simp only [ofPool, same]
  rfl

/-- The two filters mark the same dice unless there are bonus dice. -/
theorem dice_complement_eq_iff (present : term.filter = some filter) (shape : term.Pool cap pool)
    (written : ofPool term pool = .ok part)
    (otherWritten : ofPool term.complement pool = .ok other) :
    other.dice = part.dice ↔ ∀ die ∈ part.dice, die.exploded = false := by
  have owns : term.Owns part.dice := Term.Recorded.owns ⟨pool, shape, written⟩
  have fits := term.filter_fits filter present
  have length : part.dice.length = pool.length := by
    rw [(ofPool_eq_ok written).2.1, Selection.length_apply]
  have complement : term.complement.filter = some (filter.complement term.magnitude) := by
    rw [Term.filter_complement, present]
    rfl
  rw [← owns.length_eq_iff, length, (ofPool_eq_ok written).2.1, (ofPool_eq_ok otherWritten).2.1,
    complement, present]
  exact ⟨Selection.length_eq_of_mark_complement fits shape.magnitude_le_length,
    Selection.mark_complement fits⟩

theorem eq_of_dice_complement (written : ofPool term pool = .ok part)
    (otherWritten : ofPool term.complement pool = .ok other) (same : other.dice = part.dice) :
    other = part := by
  rw [(ofPool_eq_ok written).2.1, (ofPool_eq_ok otherWritten).2.1] at same
  rw [ofPool_complement same, written] at otherWritten
  cases otherWritten
  rfl

end TermRoll

/-! ## Whole rolls -/

namespace Expression

variable {State : Type} {source : Source State} {cap : Int} {earlier later : List Term}
  {term : Term} {filter : Filter} {modifier : Int} {text otherText : String}
  {label otherLabel : Option String}

/-- The two results are the same unless there are bonus dice in the given block of the term. -/
structure SameUnlessBonus (term : Term) (block : List RolledDie) (result other : RollResult) :
    Prop where
  calm : term.explode = false → ∀ die ∈ block, die.exploded = false
  dice : other.dice = result.dice ↔ ∀ die ∈ block, die.exploded = false
  total : (∀ die ∈ block, die.exploded = false) → other.total = result.total
  breakdown : (∀ die ∈ block, die.exploded = false) → other.breakdown = result.breakdown

theorem sameUnlessBonus_of_parts {pool : List RolledDie} {parts rest : List TermRoll}
    {part otherPart : TermRoll} {result other : RollResult} (present : term.filter = some filter)
    (shape : term.Pool cap pool) (written : TermRoll.ofPool term pool = .ok part)
    (otherWritten : TermRoll.ofPool term.complement pool = .ok otherPart)
    (finished : RollResult.ofParts (parts ++ part :: rest) modifier text label = .ok result)
    (otherFinished : RollResult.ofParts (parts ++ otherPart :: rest) modifier otherText otherLabel =
      .ok other) : SameUnlessBonus term part.dice result other := by
  have dice := TermRoll.dice_complement_eq_iff present shape written otherWritten
  have same : (∀ die ∈ part.dice, die.exploded = false) → otherPart = part :=
    fun none => TermRoll.eq_of_dice_complement written otherWritten (dice.mpr none)
  refine ⟨fun calm => Term.Recorded.not_exploded calm ⟨pool, shape, written⟩, ?_, ?_, ?_⟩
  · rw [← dice, (RollResult.ofParts_eq_ok finished).2, (RollResult.ofParts_eq_ok otherFinished).2]
    simp only [List.map_append, List.map_cons, List.flatten_append, List.flatten_cons,
      List.append_cancel_left_eq, List.append_cancel_right_eq]
  · intro none
    rw [(RollResult.ofParts_eq_ok finished).1, (RollResult.ofParts_eq_ok otherFinished).1,
      same none]
  · intro none
    have breakdown := RollResult.breakdownOf_eq_ok otherFinished
    rw [same none, RollResult.breakdownOf_eq_ok finished] at breakdown
    exact (Except.ok.inj breakdown).symm

theorem roll_complement_agree (present : term.filter = some filter) :
    Rolling.Agree
      (fun result other => ∃ done block rest, done.length = earlier.length ∧
        IsCut (earlier ++ term :: later) result.dice (done ++ block :: rest) ∧
        SameUnlessBonus term block result other)
      (roll source cap ⟨earlier ++ term :: later, modifier⟩ text label)
      (roll source cap ⟨earlier ++ term.complement :: later, modifier⟩ otherText otherLabel) := by
  rw [roll_eq_around rfl, roll_eq_around rfl, ← Pool.throwAll_congr term.throwsAlike_complement]
  refine (Rolling.agree_of_yields (TermRoll.mapM_roll_yields cap earlier)).bind ?_
  rintro parts _ ⟨rfl, front⟩
  refine (Rolling.agree_of_yields (Pool.throwAll_yields term cap)).bind ?_
  rintro pool _ ⟨rfl, shape⟩
  have marked : Rolling.Agree
      (fun part other => TermRoll.ofPool term pool = .ok part ∧
        TermRoll.ofPool term.complement pool = .ok other)
      (Rolling.written (TermRoll.ofPool term pool) : Rolling State TermRoll)
      (Rolling.written (TermRoll.ofPool term.complement pool)) :=
    Rolling.agree_written fun _ _ written otherWritten => ⟨written, otherWritten⟩
  refine marked.bind ?_
  rintro part otherPart ⟨written, otherWritten⟩
  refine (Rolling.agree_of_yields (TermRoll.mapM_roll_yields cap later)).bind ?_
  rintro rest _ ⟨rfl, back⟩
  refine Rolling.agree_written fun result other finished otherFinished => ?_
  exact ⟨_, part.dice, _, by rw [List.length_map, front.length_eq],
    isCut_around rfl front ⟨pool, shape, written⟩ back finished,
    sameUnlessBonus_of_parts present shape written otherWritten finished otherFinished⟩

/-- Whether some of a term's dice are kept or the others are dropped, the draws are the same, and so
is the result unless the term throws bonus dice. -/
theorem roll_complement {state : State} {calls : List Call} (earlier later : List Term)
    (present : term.filter = some filter)
    (legible : Rolling.Legible (roll source.recorded cap ⟨earlier ++ term :: later, modifier⟩ text
      label (state, calls)))
    (otherLegible : Rolling.Legible (roll source.recorded cap
      ⟨earlier ++ term.complement :: later, modifier⟩ otherText otherLabel (state, calls))) :
    Rolling.SameCourse
      (fun result other => ∃ done block rest, done.length = earlier.length ∧
        IsCut (earlier ++ term :: later) result.dice (done ++ block :: rest) ∧
        SameUnlessBonus term block result other)
      (roll source.recorded cap ⟨earlier ++ term :: later, modifier⟩ text label (state, calls))
      (roll source.recorded cap ⟨earlier ++ term.complement :: later, modifier⟩ otherText
        otherLabel (state, calls)) :=
  roll_complement_agree present _ legible otherLegible

theorem exists_roll_volley_complement :
    ∃ result, roll Generator.source 10 ⟨[volley.complement], 4⟩ "" none (.scripted [6, 1, 1, 4]) =
      .ok result (.scripted []) := by
  have thrown : Pool.throwAll Generator.source volley.complement 10 (.scripted [6, 1, 1, 4]) =
      .ok volleyPool (.scripted []) := rfl
  obtain ⟨label, dice, -⟩ := TermRoll.exists_ofPool_iff.mp ⟨_, ofPool_volley⟩
  obtain ⟨part, written⟩ : ∃ part, TermRoll.ofPool volley.complement volleyPool = .ok part :=
    TermRoll.exists_ofPool_iff.mpr ⟨label, dice, "", rfl⟩
  have short : (4 : Int).natAbs < Text.writeBound := Text.lt_writeBound (by decide)
  obtain ⟨result, finished⟩ := RollResult.exists_ofParts [part] "" none short
  have terms : [volley.complement] = [] ++ volley.complement :: [] := rfl
  exact ⟨result, (roll_eq_ok_iff_around terms).mpr
    ⟨[], _, volleyPool, _, part, [], rfl, thrown, written, rfl, finished⟩⟩

theorem roll_complement_volley :
    let first := roll Generator.source.recorded 10 ⟨[volley], 4⟩ "" none
      (.scripted [6, 1, 1, 4], [])
    let second := roll Generator.source.recorded 10 ⟨[volley.complement], 4⟩ "" none
      (.scripted [6, 1, 1, 4], [])
    volley.filter = some (.drop ⟨.highest, 1⟩) ∧
      volley.complement.filter = some (.keep ⟨.lowest, 1⟩) ∧
      Rolling.Legible first ∧ Rolling.Legible second ∧
      Rolling.SameCourse
        (fun result other => ∃ done block rest, done.length = 0 ∧
          IsCut [volley] result.dice (done ++ block :: rest) ∧
          SameUnlessBonus volley block result other) first second := by
  intro first second
  have legible : Rolling.Legible first := by
    obtain ⟨_, -, -, -, noted⟩ := exists_blocks_of_roll roll_volley
    exact Rolling.legible_of_ok (noted [])
  have otherLegible : Rolling.Legible second := by
    obtain ⟨result, rolled⟩ := exists_roll_volley_complement
    obtain ⟨_, -, -, -, noted⟩ := exists_blocks_of_roll rolled
    exact Rolling.legible_of_ok (noted [])
  have present : volley.filter = some (.drop ⟨.highest, 1⟩) := rfl
  exact ⟨present, rfl, legible, otherLegible,
    roll_complement [] [] present legible otherLegible⟩

end Expression

end TabletopDice
