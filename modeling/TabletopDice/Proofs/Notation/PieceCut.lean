import Mathlib.Data.List.Basic
import TabletopDice.Notation.Piece
import TabletopDice.Proofs.Notation.TokenSpelling

/-!
How a notation falls into pieces. Cutting a text at its operators is a relation of its own, which
the splitting function decides; a die letter with the start of a size behind it survives both the
deletion of blanks and the cut.
-/

set_option autoImplicit false

namespace TabletopDice

def Sign.operator : Sign → Char
  | .plus => '+'
  | .minus => '-'

def OperatorFree (text : List Char) : Prop :=
  ∀ c ∈ text, c ≠ '+' ∧ c ≠ '-'

/-- A text cut at every operator, when the text itself stands behind an operator of the given
sign. Runs may be empty. -/
inductive Piece.Runs : Sign → List Char → List Piece → Prop where
  | last {sign run} : OperatorFree run → Runs sign run [⟨sign, run⟩]
  | operator {sign next run rest runs} : OperatorFree run → Runs next rest runs →
      Runs sign (run ++ next.operator :: rest) (⟨sign, run⟩ :: runs)

/-- The pieces of a notation: what is left of it between operators once the blanks are deleted.
Empty runs are no pieces. -/
def Piece.Cuts (text : List Char) (pieces : List Piece) : Prop :=
  ∃ runs, Piece.Runs .plus (Text.deleteBlanks text) runs ∧
    pieces = runs.filter fun run => run.text ≠ []

theorem Sign.ofOperator?_operator (sign : Sign) : Sign.ofOperator? sign.operator = some sign := by
  cases sign <;> rfl

theorem Sign.ofOperator?_eq_some_iff {sign : Sign} {c : Char} :
    Sign.ofOperator? c = some sign ↔ c = sign.operator := by
  cases sign <;> grind [Sign.ofOperator?, Sign.operator]

theorem Sign.ofOperator?_eq_none_iff {c : Char} :
    Sign.ofOperator? c = none ↔ c ≠ '+' ∧ c ≠ '-' := by
  grind [Sign.ofOperator?]

/-! ## The splitting function -/

theorem Piece.cut_operator (sign : Sign) (rest : List Char) :
    Piece.cut (sign.operator :: rest) =
      ([], ⟨sign, (Piece.cut rest).1⟩ :: (Piece.cut rest).2) := by
  rw [Piece.cut_cons, Piece.cutStep, Sign.ofOperator?_operator]

theorem Piece.cut_append {run : List Char} (free : OperatorFree run) (rest : List Char) :
    Piece.cut (run ++ rest) = (run ++ (Piece.cut rest).1, (Piece.cut rest).2) := by
  induction run with
  | nil => rfl
  | cons c run ih =>
      obtain ⟨first, later⟩ := List.forall_mem_cons.mp free
      rw [List.cons_append, Piece.cut_cons, ih later, Piece.cutStep,
        Sign.ofOperator?_eq_none_iff.mpr first]
      rfl

theorem Piece.Runs.eq_cut {sign : Sign} {text : List Char} {runs : List Piece}
    (cut : Piece.Runs sign text runs) :
    runs = ⟨sign, (Piece.cut text).1⟩ :: (Piece.cut text).2 := by
  induction cut with
  | last free =>
      have alone := Piece.cut_append free []
      rw [List.append_nil] at alone
      simp [alone, Piece.cut_nil]
  | operator free _ ih =>
      rw [Piece.cut_append free, Piece.cut_operator, ← ih, List.append_nil]

theorem Piece.Runs.cons {sign : Sign} {c : Char} {text first : List Char} {later : List Piece}
    (other : c ≠ '+' ∧ c ≠ '-') (cut : Piece.Runs sign text (⟨sign, first⟩ :: later)) :
    Piece.Runs sign (c :: text) (⟨sign, c :: first⟩ :: later) := by
  cases cut with
  | last free => exact .last (List.forall_mem_cons.mpr ⟨other, free⟩)
  | operator free rest =>
      rw [← List.cons_append]
      exact .operator (List.forall_mem_cons.mpr ⟨other, free⟩) rest

theorem Piece.runs_cut (sign : Sign) (text : List Char) :
    Piece.Runs sign text (⟨sign, (Piece.cut text).1⟩ :: (Piece.cut text).2) := by
  induction text generalizing sign with
  | nil => exact .last (by simp [OperatorFree])
  | cons c rest ih =>
      cases operator : Sign.ofOperator? c with
      | some next =>
          obtain rfl := Sign.ofOperator?_eq_some_iff.mp operator
          rw [Piece.cut_operator, ← List.nil_append (next.operator :: rest)]
          exact .operator (by simp [OperatorFree]) (ih next)
      | none =>
          rw [Piece.cut_cons, Piece.cutStep, operator]
          exact (ih sign).cons (Sign.ofOperator?_eq_none_iff.mp operator)

theorem Piece.cuts_split (text : List Char) : Piece.Cuts text (Piece.split text) := by
  refine ⟨_, Piece.runs_cut .plus (Text.deleteBlanks text), ?_⟩
  unfold Piece.split
  refine List.filter_congr fun run _ => ?_
  cases run.text <;> rfl

theorem Piece.Runs.isInfix {sign : Sign} {text : List Char} {runs : List Piece}
    (cut : Piece.Runs sign text runs) : ∀ run ∈ runs, run.text <:+: text := by
  induction cut with
  | last => simp
  | @operator sign next run rest runs _ _ ih =>
      refine List.forall_mem_cons.mpr ⟨(List.prefix_append run _).isInfix, fun later member => ?_⟩
      refine (ih later member).trans ?_
      exact ((List.suffix_cons _ rest).trans (List.suffix_append run _)).isInfix

theorem Piece.Cuts.isInfix {text : List Char} {pieces : List Piece}
    (cuts : Piece.Cuts text pieces) :
    ∀ piece ∈ pieces, piece.text <:+: Text.deleteBlanks text := by
  obtain ⟨runs, cut, rfl⟩ := cuts
  exact fun piece member => cut.isInfix piece (List.mem_filter.mp member).1

/-- A notation falls into pieces in one way only. -/
theorem Piece.cuts_iff_eq_split {text : List Char} {pieces : List Piece} :
    Piece.Cuts text pieces ↔ pieces = Piece.split text := by
  constructor
  · intro cuts
    obtain ⟨runs, cut, rfl⟩ := cuts
    obtain ⟨others, otherCut, same⟩ := Piece.cuts_split text
    rw [same, cut.eq_cut, otherCut.eq_cut]
  · intro same
    rw [same]
    exact Piece.cuts_split text

/-! ## Die pairs -/

/-- A die letter with the start of a size directly behind it. -/
def DiePair (die next : Char) : Prop :=
  die ∈ ['d', 'D'] ∧ (Text.isDigit next = true ∨ next ∈ ['%', 'f', 'F'])

def HasDiePair (text : List Char) : Prop :=
  ∃ before die next after, text = before ++ die :: next :: after ∧ DiePair die next

theorem diePair_iff {die next : Char} :
    DiePair die next ↔ (isLetter 'd' die && startsSize next) = true := by
  simp [DiePair, startsSize, isLetter, or_assoc]

theorem hasDiePair_cons {c : Char} {text : List Char} (pair : HasDiePair text) :
    HasDiePair (c :: text) := by
  obtain ⟨before, die, next, after, rfl, found⟩ := pair
  exact ⟨c :: before, die, next, after, rfl, found⟩

theorem hasDiePair_of_infix {run text : List Char} (inside : run <:+: text)
    (pair : HasDiePair run) : HasDiePair text := by
  obtain ⟨left, right, rfl⟩ := inside
  obtain ⟨before, die, next, after, rfl, found⟩ := pair
  exact ⟨left ++ before, die, next, after ++ right, by simp, found⟩

theorem HasDiePair.ne_nil {text : List Char} (pair : HasDiePair text) : text ≠ [] := by
  obtain ⟨before, die, next, after, rfl, -⟩ := pair
  simp

theorem hasDiePair_eq_true_iff {text : List Char} : hasDiePair text = true ↔ HasDiePair text := by
  constructor
  · intro present
    fun_induction hasDiePair text with
    | case1 c next rest ih =>
        rcases Bool.or_eq_true_iff.mp present with found | later
        · exact ⟨[], c, next, rest, rfl, diePair_iff.mpr found⟩
        · exact hasDiePair_cons (ih later)
    | case2 => cases present
  · intro present
    obtain ⟨before, die, next, after, rfl, found⟩ := present
    induction before with
    | nil => simp [hasDiePair, diePair_iff.mp found]
    | cons c before ih =>
        cases rest : before ++ die :: next :: after with
        | nil => simp at rest
        | cons d tail =>
            rw [rest] at ih
            simp [rest, hasDiePair, ih]

theorem isBlank_of_isDigit {c : Char} (digit : Text.isDigit c = true) :
    Text.isBlank c = false := by
  have bounds : 48 ≤ c.toNat ∧ c.toNat ≤ 57 := by
    simpa [Text.isDigit, Char.le_def, UInt32.le_iff_toNat_le] using digit
  simp only [Text.isBlank, Text.isWhiteSpace, Bool.or_eq_false_iff, Bool.and_eq_false_imp,
    decide_eq_true_eq, decide_eq_false_iff_not, beq_eq_false_iff_ne]
  omega

theorem DiePair.not_isBlank {die next : Char} (pair : DiePair die next) :
    Text.isBlank die = false ∧ Text.isBlank next = false := by
  obtain ⟨dieLetter, sizeStart⟩ := pair
  constructor
  · exact eq_false_of_mem (by decide) dieLetter
  · rcases sizeStart with digit | mark
    · exact isBlank_of_isDigit digit
    · exact eq_false_of_mem (by decide) mark

theorem DiePair.not_operator {die next : Char} (pair : DiePair die next) (sign : Sign) :
    sign.operator ≠ die ∧ sign.operator ≠ next := by
  obtain ⟨dieLetter, sizeStart⟩ := pair
  constructor
  · intro same
    subst same
    revert dieLetter
    cases sign <;> decide
  · intro same
    subst same
    revert sizeStart
    cases sign <;> decide

theorem hasDiePair_deleteBlanks {text : List Char} (pair : HasDiePair text) :
    HasDiePair (Text.deleteBlanks text) := by
  obtain ⟨before, die, next, after, rfl, found⟩ := pair
  refine ⟨Text.deleteBlanks before, die, next, Text.deleteBlanks after, ?_, found⟩
  simp [Text.deleteBlanks, found.not_isBlank.1, found.not_isBlank.2]

theorem hasDiePair_append_operator {run rest : List Char} {sign : Sign}
    (pair : HasDiePair (run ++ sign.operator :: rest)) : HasDiePair run ∨ HasDiePair rest := by
  obtain ⟨before, die, next, after, same, found⟩ := pair
  obtain ⟨notDie, notNext⟩ := found.not_operator sign
  rcases List.append_eq_append_iff.mp same with ⟨gap, rfl, tail⟩ | ⟨gap, rfl, tail⟩
  · cases gap with
    | nil =>
        simp only [List.nil_append, List.cons.injEq] at tail
        exact absurd tail.1 notDie
    | cons c gap =>
        simp only [List.cons_append, List.cons.injEq] at tail
        exact .inr ⟨gap, die, next, after, tail.2, found⟩
  · match gap, tail with
    | [], tail =>
        simp only [List.nil_append, List.cons.injEq] at tail
        exact absurd tail.1.symm notDie
    | [_], tail =>
        simp only [List.cons_append, List.nil_append, List.cons.injEq] at tail
        exact absurd tail.2.1.symm notNext
    | c :: d :: gap, tail =>
        simp only [List.cons_append, List.cons.injEq] at tail
        obtain ⟨rfl, rfl, rfl⟩ := tail
        exact .inl ⟨before, die, next, gap, rfl, found⟩

theorem Piece.Runs.exists_hasDiePair {sign : Sign} {text : List Char} {runs : List Piece}
    (cut : Piece.Runs sign text runs) (pair : HasDiePair text) :
    ∃ run ∈ runs, HasDiePair run.text := by
  induction cut with
  | last => exact ⟨_, List.mem_cons_self, pair⟩
  | operator _ _ ih =>
      rcases hasDiePair_append_operator pair with here | later
      · exact ⟨_, List.mem_cons_self, here⟩
      · obtain ⟨run, member, found⟩ := ih later
        exact ⟨run, List.mem_cons_of_mem _ member, found⟩

/-- A die pair anywhere in a notation lies within one of its pieces. -/
theorem Piece.exists_mem_split_hasDiePair {text : List Char} (pair : HasDiePair text) :
    ∃ piece ∈ Piece.split text, HasDiePair piece.text := by
  obtain ⟨runs, cut, same⟩ := Piece.cuts_split text
  obtain ⟨run, member, found⟩ := cut.exists_hasDiePair (hasDiePair_deleteBlanks pair)
  refine ⟨run, ?_, found⟩
  rw [same]
  exact List.mem_filter.mpr ⟨member, by simpa using found.ne_nil⟩

theorem allBlank_eq_false_of_hasDiePair {text : List Char} (pair : HasDiePair text) :
    Text.allBlank text = false := by
  obtain ⟨before, die, next, after, rfl, found⟩ := pair
  simp [Text.allBlank, found.not_isBlank.1]

theorem not_digits_of_hasDiePair {text : List Char} (pair : HasDiePair text) :
    text.all Text.isDigit = false := by
  obtain ⟨before, die, next, after, rfl, dieLetter, -⟩ := pair
  have notDigit : Text.isDigit die = false := eq_false_of_mem (by decide) dieLetter
  simp [notDigit]

end TabletopDice
