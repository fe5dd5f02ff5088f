import Mathlib.Algebra.Order.BigOperators.Group.List
import Mathlib.Algebra.Order.Ring.Int
import TabletopDice.Proofs.Roll.Complement
import TabletopDice.Proofs.Roll.RankedValues
import TabletopDice.Proofs.Roll.RollEnd

/-!
Bounds of a total. What a term can be worth is bounded by its faces and by the number of its dice
that count, and that number follows from the filter and the size of the pool. The total of a roll
lies between the sums of these bounds.
-/

set_option autoImplicit false

namespace TabletopDice

open Sequencing

theorem Number.length_mul_le_sum {numbers : List Int} {bound : Int}
    (atLeast : ∀ number ∈ numbers, bound ≤ number) :
    numbers.length * bound ≤ Number.sum numbers := by
  have below := List.card_nsmul_le_sum numbers bound atLeast
  rwa [nsmul_eq_mul] at below

theorem Number.sum_le_length_mul {numbers : List Int} {bound : Int}
    (atMost : ∀ number ∈ numbers, number ≤ bound) :
    Number.sum numbers ≤ numbers.length * bound := by
  have above := List.sum_le_card_nsmul numbers bound atMost
  rwa [nsmul_eq_mul] at above

/-- Dice that count with values between two bounds add up to a number between as many times these
bounds. -/
theorem Selection.sum_kept_bounds {dice : List RolledDie} {low high : Int}
    (within : ∀ die ∈ dice, low ≤ die.value ∧ die.value ≤ high) :
    survivors dice * low ≤ Number.sum ((kept dice).map RolledDie.value) ∧
      Number.sum ((kept dice).map RolledDie.value) ≤ survivors dice * high := by
  have length : survivors dice = ((kept dice).map RolledDie.value).length :=
    List.length_map RolledDie.value |>.symm
  have each : ∀ die ∈ kept dice, low ≤ die.value ∧ die.value ≤ high :=
    fun die member => within die (List.mem_of_mem_filter member)
  rw [length]
  constructor
  · exact Number.length_mul_le_sum (List.forall_mem_map.mpr fun die member => (each die member).1)
  · exact Number.sum_le_length_mul (List.forall_mem_map.mpr fun die member => (each die member).2)

/-! ## How many dice count -/

/-- The number of dice that a filter leaves of so many. -/
def Filter.leaves (filter : Filter) (size : Nat) : Nat :=
  match filter with
  | .keep pick => pick.count.toNat
  | .drop pick => size - pick.count.toNat

theorem Selection.survivors_mark {filter : Filter} {dice : List RolledDie}
    (positive : 0 < filter.pick.count) (enough : filter.pick.count ≤ dice.length) :
    survivors (mark filter dice) = filter.leaves dice.length := by
  have selected := selectedCount_mark positive enough
  have whole := countP_kept_mark filter dice
  cases filter with
  | keep pick =>
      simp only [survivors, Filter.leaves, selectedCount, Filter.pick] at *
      omega
  | drop pick =>
      simp only [survivors, Filter.leaves, selectedCount, Filter.pick] at *
      omega

namespace Term

/-- The number of dice that count of a pool of so many. -/
def leaves (term : Term) (size : Nat) : Nat :=
  term.filter.elim size fun filter => filter.leaves size

/-- The least that so many dice that count can be worth. -/
def leastWorth (term : Term) (count : Nat) : Int :=
  if term.success.isSome then 0 else count * term.minFace

def greatestWorth (term : Term) (count : Nat) : Int :=
  if term.success.isSome then count else count * term.maxFace

/-- The least that so many dice that count can add to the total. A subtracted term adds least when
its dice are worth most. -/
def leastShare (term : Term) (count : Nat) : Int :=
  if term.count < 0 then -term.greatestWorth count else term.leastWorth count

def greatestShare (term : Term) (count : Nat) : Int :=
  if term.count < 0 then -term.leastWorth count else term.greatestWorth count

variable {term : Term} {cap : Int}

theorem survivors_apply {pool : List RolledDie} (fresh : ∀ die ∈ pool, die.dropped = false)
    (enough : term.magnitude ≤ pool.length) :
    Selection.survivors (Selection.apply term.filter pool) = term.leaves pool.length := by
  have fits := term.filter_fits
  unfold leaves
  cases present : term.filter with
  | none =>
      have all : Selection.kept pool = pool := List.filter_eq_self.mpr (by simpa using fresh)
      rw [Selection.apply, Selection.survivors, all, Option.elim]
  | some filter =>
      obtain ⟨positive, less⟩ := fits filter present
      refine Selection.survivors_mark positive ?_
      rw [magnitude] at enough
      omega

/-! ## What dice are worth -/

theorem Shows.hasFace_value {die : RolledDie} (shows : term.Shows die) :
    term.HasFace die.value := by
  unfold RolledDie.value
  cases modified : die.modified with
  | none => exact shows.result
  | some face => exact shows.modified face modified

theorem worth_bounds {block : List RolledDie} (recorded : ∀ die ∈ block, term.RecordedDie die)
    (shows : ∀ die ∈ block, term.Shows die) :
    term.leastWorth (Selection.survivors block) ≤ term.worth block ∧
      term.worth block ≤ term.greatestWorth (Selection.survivors block) := by
  rw [← scoreOf_eq_worth recorded]
  unfold TermRoll.scoreOf leastWorth greatestWorth
  cases term.success with
  | none => exact Selection.sum_kept_bounds fun die member => (shows die member).hasFace_value
  | some threshold =>
      exact ⟨Int.natCast_nonneg _, Int.ofNat_le.mpr List.countP_le_length⟩

/-- What can be said of the dice of a term after a roll: how many were thrown, how many of them
count, and what these are worth. -/
structure Bounded (term : Term) (cap : Int) (block : List RolledDie) : Prop where
  calm : term.explode = false → block.length = term.magnitude
  enough : term.magnitude ≤ block.length
  chains : block.length ≤ term.magnitude * (1 + cap.toNat)
  survivors : Selection.survivors block = term.leaves block.length
  least : term.leastWorth (Selection.survivors block) ≤ term.worth block
  greatest : term.worth block ≤ term.greatestWorth (Selection.survivors block)

theorem Recorded.bounded {part : TermRoll} (recorded : term.Recorded cap part)
    (shows : ∀ die ∈ part.dice, term.Shows die) : term.Bounded cap part.dice := by
  obtain ⟨least, greatest⟩ := worth_bounds recorded.dice shows
  obtain ⟨pool, shape, written⟩ := id recorded
  have dice := (TermRoll.ofPool_eq_ok written).2.1
  have length : part.dice.length = pool.length := dice ▸ Selection.length_apply term.filter pool
  have enough := shape.magnitude_le_length
  refine ⟨fun calm => ?_, length ▸ enough, length ▸ shape.length_le, ?_, least, greatest⟩
  · exact recorded.owns.length_eq_iff.mpr (recorded.not_exploded calm)
  · rw [length, dice]
    exact survivors_apply shape.not_dropped enough

theorem Bounded.share_bounds {block : List RolledDie} (bounded : term.Bounded cap block) :
    term.leastShare (Selection.survivors block) ≤ term.share block ∧
      term.share block ≤ term.greatestShare (Selection.survivors block) := by
  obtain ⟨-, -, -, -, least, greatest⟩ := bounded
  unfold leastShare greatestShare share
  split
  · exact ⟨Int.neg_le_neg greatest, Int.neg_le_neg least⟩
  · exact ⟨least, greatest⟩

/-- Answers within bounds leave every term with a bounded block. -/
theorem forall₂_bounded_of_answers {State : Type} {source : Source State} (inRange : source.InRange)
    {terms : List Term} {parts : List TermRoll} {state next : State}
    (recorded : List.Forall₂ (fun term part => term.Recorded cap part) terms parts)
    (answers : source.Answers state (callsOf terms (parts.map TermRoll.dice)) next) :
    List.Forall₂ (fun term part => term.Bounded cap part.dice) terms parts := by
  induction recorded generalizing state with
  | nil => exact .nil
  | cons first _ ih =>
      obtain ⟨middle, here, later⟩ := Source.answers_append_iff.mp answers
      exact .cons (first.bounded (shows_of_answers inRange here)) (ih later)

end Term

/-! ## Totals -/

namespace Expression

/-- The least total of rolls in which so many dice of each term count. -/
def leastTotal (expression : Expression) (counts : List Nat) : Int :=
  expression.modifier + Number.sum (List.zipWith Term.leastShare expression.dice counts)

def greatestTotal (expression : Expression) (counts : List Nat) : Int :=
  expression.modifier + Number.sum (List.zipWith Term.greatestShare expression.dice counts)

/-- The total lies between the least and the greatest one. -/
structure Spans (expression : Expression) (counts : List Nat) (total : Int) : Prop where
  least : expression.leastTotal counts ≤ total
  greatest : total ≤ expression.greatestTotal counts

theorem sum_share_bounds {terms : List Term} {blocks : List (List RolledDie)} {cap : Int}
    (bounded : List.Forall₂ (Term.Bounded · cap) terms blocks) :
    Number.sum (List.zipWith Term.leastShare terms (blocks.map Selection.survivors)) ≤
        Number.sum (List.zipWith Term.share terms blocks) ∧
      Number.sum (List.zipWith Term.share terms blocks) ≤
        Number.sum (List.zipWith Term.greatestShare terms (blocks.map Selection.survivors)) := by
  induction bounded with
  | nil => exact ⟨Int.le_refl _, Int.le_refl _⟩
  | cons first _ ih =>
      obtain ⟨least, greatest⟩ := first.share_bounds
      simp only [List.map_cons, List.zipWith_cons_cons, Number.sum_cons]
      omega

variable {State : Type} {source : Source State} {cap : Int} {expression : Expression}
  {text : String} {label : Option String} {state next : State} {result : RollResult}

/-- The total is the sum of contributions that are bounded term by term, and so it is bounded
itself. -/
theorem exists_bounded_of_roll (inRange : source.InRange)
    (rolled : expression.roll source cap text label state = .ok result next) :
    ∃ blocks, IsCut expression.dice result.dice blocks ∧
      List.Forall₂ (Term.Bounded · cap) expression.dice blocks ∧
      result.total =
        expression.modifier + Number.sum (List.zipWith Term.share expression.dice blocks) ∧
      expression.Spans (blocks.map Selection.survivors) result.total := by
  obtain ⟨parts, recorded, answers, finished⟩ := roll_eq_ok_iff.mp rolled
  have bounded : List.Forall₂ (Term.Bounded · cap) expression.dice (parts.map TermRoll.dice) :=
    List.forall₂_map_right_iff.mpr (Term.forall₂_bounded_of_answers inRange recorded answers)
  obtain ⟨least, greatest⟩ := sum_share_bounds bounded
  have total := (RollResult.ofParts_eq_ok finished).1
  rw [map_contribution_eq recorded] at total
  exact ⟨parts.map TermRoll.dice, isCut_of_recorded recorded finished, bounded, total,
    total ▸ Int.add_le_add_left least _, total ▸ Int.add_le_add_left greatest _⟩

/-- The numbers of dice that count if no dice come to those of the terms. -/
def plainCounts (expression : Expression) : List Nat :=
  expression.dice.map fun term => term.leaves term.magnitude

theorem survivors_eq_plainCounts {blocks : List (List RolledDie)}
    (calm : ∀ term ∈ expression.dice, term.explode = false)
    (bounded : List.Forall₂ (Term.Bounded · cap) expression.dice blocks) :
    blocks.map Selection.survivors = expression.plainCounts := by
  unfold plainCounts
  generalize expression.dice = terms at calm bounded
  induction bounded with
  | nil => rfl
  | cons first _ ih =>
      obtain ⟨here, later⟩ := List.forall_mem_cons.mp calm
      rw [List.map_cons, List.map_cons, first.survivors, first.calm here, ih later]

/-- Without bonus dice the bounds of the total do not depend on the roll. -/
theorem spans_of_roll (inRange : source.InRange)
    (calm : ∀ term ∈ expression.dice, term.explode = false)
    (rolled : expression.roll source cap text label state = .ok result next) :
    expression.Spans expression.plainCounts result.total := by
  obtain ⟨blocks, -, bounded, -, spans⟩ := exists_bounded_of_roll inRange rolled
  rwa [survivors_eq_plainCounts calm bounded] at spans

end Expression

end TabletopDice
