import TabletopDice.Data.Writer

/-!
Text without halves of pairs. When a text is written, its characters are escaped one by one, and
neither an escape nor the quotation mark at the end makes a half out of the mark in front of it. So
a text that is free of halves is still free of them when it is written, and the texts within a value
that is free of halves are so, too.
-/

set_option autoImplicit false

namespace TabletopDice

namespace Text

/-- Every code point of the text is a character. -/
def HalfFree (text : List Char) : Prop :=
  ∀ point ∈ points text, isHalf point = false

theorem halves?_eq_none_iff {text : List Char} : halves? text = none ↔ HalfFree text :=
  halvesFrom_eq_none_iff

theorem isHalf_toNat (c : Char) : isHalf c.toNat = false := by
  have valid : c.toNat < 0xD800 ∨ 0xDFFF < c.toNat ∧ c.toNat < 0x110000 := c.valid
  simp only [isHalf, isFirstHalf, isSecondHalf, Bool.or_eq_false_iff, Bool.and_eq_false_iff,
    decide_eq_false_iff_not]
  omega

theorem points_cons {c : Char} (plain : c ≠ mark) (rest : List Char) :
    points (c :: rest) = c.toNat :: points rest := by
  cases rest with
  | nil => rfl
  | cons next rest => rw [points, if_neg (by simpa using plain)]

theorem points_mark_cons (c : Char) (rest : List Char) :
    points (mark :: c :: rest) = markedPoint c :: points rest := by
  rw [points, if_pos (by rfl)]

theorem halfFree_nil : HalfFree [] :=
  fun _ member => nomatch member

theorem HalfFree.cons {c : Char} {rest : List Char} (plain : c ≠ mark) (free : HalfFree rest) :
    HalfFree (c :: rest) := by
  rw [HalfFree, points_cons plain]
  exact List.forall_mem_cons.mpr ⟨isHalf_toNat c, free⟩

theorem HalfFree.marked {c : Char} {rest : List Char} (whole : isHalf (markedPoint c) = false)
    (free : HalfFree rest) : HalfFree (mark :: c :: rest) := by
  rw [HalfFree, points_mark_cons]
  exact List.forall_mem_cons.mpr ⟨whole, free⟩

theorem HalfFree.append {text rest : List Char} (plain : mark ∉ text) (free : HalfFree rest) :
    HalfFree (text ++ rest) := by
  induction text with
  | nil => exact free
  | cons c text ih =>
      rw [List.mem_cons, not_or] at plain
      exact (ih plain.2).cons (Ne.symm plain.1)

theorem halves?_of_not_mem_mark {text : List Char} (plain : mark ∉ text) :
    halves? text = none := by
  rw [halves?_eq_none_iff, ← List.append_nil text]
  exact halfFree_nil.append plain

end Text

namespace Data

open Text

theorem mark_not_mem_hexadecimal :
    ∀ control < 0x20, mark ∉ hexadecimal 4 control := by
  decide

/-- A character is written as it is, or as an escape without marks. -/
theorem writeChar_eq (c : Char) :
    writeChar c = [c] ∨ ∃ escape, writeChar c = '\\' :: escape ∧ mark ∉ escape := by
  unfold writeChar
  split
  case isTrue special =>
    refine .inr ⟨[c], rfl, fun member => ?_⟩
    obtain rfl := List.mem_singleton.mp member
    exact absurd special (by decide)
  iterate 5
    split
    case isTrue => exact .inr ⟨_, rfl, by decide⟩
  split
  case isTrue control =>
    refine .inr ⟨_, rfl, fun member => ?_⟩
    obtain impossible | digit := List.mem_cons.mp member
    · exact absurd impossible (by decide)
    · exact mark_not_mem_hexadecimal c.toNat control digit
  case isFalse => exact .inl rfl

theorem writeChar_mark : writeChar mark = [mark] := by
  decide

theorem halfFree_writeChar_append {c : Char} {rest : List Char} (plain : c ≠ mark)
    (free : HalfFree rest) : HalfFree (writeChar c ++ rest) := by
  obtain same | ⟨escape, escaped, unmarked⟩ := writeChar_eq c
  · rw [same]
    exact free.cons plain
  · rw [escaped]
    exact (free.append unmarked).cons (by decide)

/-- An escape takes the place of the character behind a mark, and then the mark stands for
nothing. -/
theorem halfFree_mark_writeChar_append {c : Char} {rest : List Char}
    (whole : isHalf (markedPoint c) = false) (free : HalfFree rest) :
    HalfFree (mark :: (writeChar c ++ rest)) := by
  obtain same | ⟨escape, escaped, unmarked⟩ := writeChar_eq c
  · rw [same]
    exact free.marked whole
  · rw [escaped]
    exact (free.append unmarked).marked (by decide)

/-- The closing quotation mark keeps a mark at the end from the text that follows. -/
theorem halfFree_flatMap_writeChar {text : List Char} (after : List Char) (free : HalfFree text)
    (afterFree : HalfFree after) :
    HalfFree (text.flatMap writeChar ++ doubleQuote :: after) := by
  unfold HalfFree at free
  fun_induction points text with
  | case1 c next rest isMark ih =>
      obtain rfl : c = mark := by simpa using isMark
      obtain ⟨whole, restFree⟩ := List.forall_mem_cons.mp free
      rw [List.flatMap_cons, List.flatMap_cons, writeChar_mark, List.append_assoc,
        List.append_assoc]
      exact halfFree_mark_writeChar_append whole (ih restFree)
  | case2 c next rest other ih =>
      have plain : c ≠ mark := by simpa using other
      rw [List.flatMap_cons, List.append_assoc]
      exact halfFree_writeChar_append plain (ih (List.forall_mem_cons.mp free).2)
  | case3 c =>
      rw [List.flatMap_singleton]
      by_cases isMark : c = mark
      · rw [isMark, writeChar_mark]
        exact afterFree.marked (by decide)
      · exact halfFree_writeChar_append isMark (afterFree.cons (by decide))
  | case4 => exact afterFree.cons (by decide)

theorem Value.halves?_eq_none_of_field? (name : String) {value found : Value}
    (whole : value.halves? = none) (field : value.field? name = some found) :
    found.halves? = none := by
  cases value with
  | object fields =>
      rw [Value.halves?] at whole
      rw [Value.field?] at field
      induction fields with
      | nil => cases field
      | cons entry fields ih =>
          obtain ⟨other, member⟩ := entry
          rw [Value.fieldHalves?, Option.or_eq_none_iff, Option.or_eq_none_iff] at whole
          obtain ⟨-, memberWhole, restWhole⟩ := whole
          rw [List.lookup_cons] at field
          split at field
          · cases field
            exact memberWhole
          · exact ih restWhole field
  | _ => cases field

end Data

end TabletopDice
