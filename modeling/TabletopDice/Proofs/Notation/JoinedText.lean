import TabletopDice.Proofs.Notation.CanonicalText

/-!
Notations joined by an operator. The operator gives its sign to the first run behind it and to
nothing else, so a joined notation is read as its two parts are, whatever operators and blanks the
parts begin or end with.
-/

set_option autoImplicit false

namespace TabletopDice

open Sequencing

/-- A text behind an operator of the given sign is read as the items. -/
def ReadsBehind (ceilings : Ceilings) (sign : Sign) (text : List Char) (items : List Item) :
    Prop :=
  ∃ runs, Piece.Runs sign (Text.deleteBlanks text) runs ∧
    List.Forall₂ (fun piece item => piece.item ceilings = .ok item)
      (runs.filter fun run => run.text ≠ []) items

theorem Sign.not_isBlank_operator (sign : Sign) : Text.isBlank sign.operator = false := by
  cases sign <;> decide

theorem Text.deleteBlanks_append_operator (first second : List Char) (sign : Sign) :
    deleteBlanks (first ++ sign.operator :: second) =
      deleteBlanks first ++ sign.operator :: deleteBlanks second := by
  have operator : deleteBlanks (sign.operator :: second) = sign.operator :: deleteBlanks second :=
    List.filter_cons_of_pos (by simp [sign.not_isBlank_operator])
  rw [deleteBlanks_append, operator]

theorem Piece.Runs.append {sign next : Sign} {text rest : List Char} {runs others : List Piece}
    (cut : Piece.Runs sign text runs) (restCut : Piece.Runs next rest others) :
    Piece.Runs sign (text ++ next.operator :: rest) (runs ++ others) := by
  induction cut with
  | last free => exact .operator free restCut
  | operator free _ ih =>
      rw [List.append_assoc, List.cons_append]
      exact .operator free ih

section Reading

variable {ceilings : Ceilings} {sign next : Sign} {first second digits : List Char}
  {items others : List Item} {expression other : Expression}

/-- The sign of the first part does not reach across the operator, which need not even have a run
in front of it. -/
theorem ReadsBehind.append (firstReads : ReadsBehind ceilings sign first items)
    (secondReads : ReadsBehind ceilings next second others) :
    ReadsBehind ceilings sign (first ++ next.operator :: second) (items ++ others) := by
  obtain ⟨runs, cut, read⟩ := firstReads
  obtain ⟨otherRuns, otherCut, otherRead⟩ := secondReads
  refine ⟨runs ++ otherRuns, ?_, ?_⟩
  · rw [Text.deleteBlanks_append_operator]
    exact cut.append otherCut
  · rw [List.filter_append]
    exact List.rel_append read otherRead

theorem DigitRun.readsBehind (run : DigitRun digits) (short : Readable digits) (sign : Sign) :
    ReadsBehind ceilings sign digits [.number (sign.apply (Text.digitsValue digits))] := by
  have numeral : Piece.isNumeral ⟨sign, digits⟩ = true := List.all_eq_true.mpr run.digits
  refine ⟨[⟨sign, digits⟩], ?_, ?_⟩
  · rw [Text.deleteBlanks_eq_self run.inner.visible]
    exact .last run.inner.operatorFree
  · rw [List.filter_cons_of_pos (by simpa using run.nonempty)]
    exact .cons ((Piece.item_of_isNumeral numeral).mpr ⟨short, rfl⟩) .nil

theorem ofItems_append (items others : List Item) :
    Expression.ofItems (items ++ others) =
      (Expression.ofItems items).append (Expression.ofItems others) := by
  simp [Expression.ofItems, Expression.append, Number.sum_append]

theorem parse_eq_ok_iff_readsBehind {text : List Char} :
    Expression.parse ceilings text = .ok expression ↔
      HasDiePair text ∧ ∃ items, ReadsBehind ceilings .plus text items ∧
        expression = Expression.ofItems items := by
  rw [parse_eq_ok_iff_items]
  refine and_congr_right fun _ => exists_congr fun items => and_congr_left fun _ => ?_
  rw [mapM_eq_ok_iff]
  constructor
  · intro read
    obtain ⟨runs, cut, same⟩ := Piece.cuts_split text
    exact ⟨runs, cut, same ▸ read⟩
  · intro reads
    obtain ⟨runs, cut, read⟩ := reads
    rwa [← Piece.cuts_iff_eq_split.mp ⟨runs, cut, rfl⟩]

theorem hasDiePair_append_left (pair : HasDiePair first) (rest : List Char) :
    HasDiePair (first ++ rest) :=
  hasDiePair_of_infix (List.prefix_append first rest).isInfix pair

theorem hasDiePair_append_right (front : List Char) (pair : HasDiePair second) :
    HasDiePair (front ++ second) :=
  hasDiePair_of_infix (List.suffix_append front second).isInfix pair

theorem parse_append_number (read : Expression.parse ceilings first = .ok expression)
    (run : DigitRun digits) (short : Readable digits) (sign : Sign) :
    Expression.parse ceilings (first ++ sign.operator :: digits) =
      .ok ⟨expression.dice, expression.modifier + sign.apply (Text.digitsValue digits)⟩ := by
  obtain ⟨pair, items, reads, rfl⟩ := parse_eq_ok_iff_readsBehind.mp read
  refine parse_eq_ok_iff_readsBehind.mpr
    ⟨hasDiePair_append_left pair _, _, reads.append (run.readsBehind short sign), ?_⟩
  rw [ofItems_append]
  simp [Expression.append, Expression.ofItems, Item.term?, Item.value]

/-- Reading is compositional. A notation behind a plus sign adds its terms and its modifier, and a
number adds its signed value, on whichever side of the notation it stands. -/
theorem parse_joined (read : Expression.parse ceilings first = .ok expression) :
    (∀ second other, Expression.parse ceilings second = .ok other →
      Expression.parse ceilings (first ++ '+' :: second) =
        .ok ⟨expression.dice ++ other.dice, expression.modifier + other.modifier⟩) ∧
    ∀ digits, DigitRun digits → digits.length ≤ Text.maxDigits →
      Expression.parse ceilings (first ++ '+' :: digits) =
        .ok ⟨expression.dice, expression.modifier + Text.digitsValue digits⟩ ∧
      Expression.parse ceilings (digits ++ '+' :: first) =
        .ok ⟨expression.dice, expression.modifier + Text.digitsValue digits⟩ ∧
      Expression.parse ceilings (first ++ '-' :: digits) =
        .ok ⟨expression.dice, expression.modifier - Text.digitsValue digits⟩ := by
  obtain ⟨pair, items, reads, same⟩ := parse_eq_ok_iff_readsBehind.mp read
  refine ⟨fun second other otherRead => ?_, fun digits run short => ⟨?_, ?_, ?_⟩⟩
  · obtain ⟨-, others, otherReads, rfl⟩ := parse_eq_ok_iff_readsBehind.mp otherRead
    refine parse_eq_ok_iff_readsBehind.mpr
      ⟨hasDiePair_append_left pair _, items ++ others, reads.append otherReads, ?_⟩
    rw [ofItems_append, same]
    rfl
  · exact parse_append_number read run short .plus
  · have whole : HasDiePair (digits ++ '+' :: first) :=
      hasDiePair_append_right digits (hasDiePair_cons pair)
    refine parse_eq_ok_iff_readsBehind.mpr
      ⟨whole, _, (run.readsBehind short .plus).append reads, ?_⟩
    rw [List.singleton_append, ofItems_cons_number, same, Int.add_comm]
    rfl
  · exact parse_append_number read run short .minus

/-- The first part ends in two operators and the second begins with one. -/
theorem parse_joined_dangling :
    let volleys : Expression := ⟨[⟨-2, .sided 6, none, none, true, none, by decide, by decide,
      by decide⟩], 3⟩
    let blessing : Expression := ⟨[⟨-1, .fudge, none, none, false, none, by decide, by decide,
      by decide⟩], 0⟩
    Expression.parse {} " -2D6! + 3 +-".toList = .ok volleys ∧
      Expression.parse {} "- dF -".toList = .ok blessing ∧
      Expression.parse {} " -2D6! + 3 +-+- dF -".toList =
        .ok ⟨volleys.dice ++ blessing.dice, 3⟩ ∧
      Expression.parse {} " -2D6! + 3 +--0040".toList = .ok ⟨volleys.dice, -37⟩ := by
  have read : Expression.parse {} " -2D6! + 3 +-".toList = .ok
      ⟨[⟨-2, .sided 6, none, none, true, none, by decide, by decide, by decide⟩], 3⟩ := by
    decide +kernel
  have otherRead : Expression.parse {} "- dF -".toList = .ok
      ⟨[⟨-1, .fudge, none, none, false, none, by decide, by decide, by decide⟩], 0⟩ := by
    decide +kernel
  have run : DigitRun "0040".toList := ⟨by decide, List.all_eq_true.mp (by decide)⟩
  exact ⟨read, otherRead, (parse_joined read).1 _ _ otherRead,
    ((parse_joined read).2 "0040".toList run (by decide)).2.2⟩

end Reading

end TabletopDice
