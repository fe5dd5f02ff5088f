import Mathlib.Data.List.Forall2
import TabletopDice.Proofs.Text.Delimited

/-!
Texts up to the case of their letters. Only the letters of ASCII have two cases here. A property of
characters that does not tell a capital from its small letter is one of the text as well, and a text
without letters is like itself alone.
-/

set_option autoImplicit false

namespace TabletopDice.Text

def capitals : List Char :=
  "ABCDEFGHIJKLMNOPQRSTUVWXYZ".toList

theorem mem_capitals_of_isUpper {c : Char} (upper : c.isUpper = true) : c ∈ capitals := by
  have range : 'A'.val ≤ c.val ∧ c.val ≤ 'Z'.val := of_decide_eq_true upper
  have bounds : 65 ≤ c.toNat ∧ c.toNat ≤ 90 := by
    simpa [UInt32.le_iff_toNat_le] using range
  have all : ∀ code < 26, Char.ofNat (65 + code) ∈ capitals := by decide
  have found := all (c.toNat - 65) (by omega)
  rwa [show 65 + (c.toNat - 65) = c.toNat by omega, Char.ofNat_toNat] at found

theorem toLower_eq_self {c : Char} (other : ¬ c.isUpper = true) : c.toLower = c :=
  dif_neg fun range => other (decide_eq_true range)

/-- The view shows every capital like its small letter. -/
def Caseless {Value : Type} (view : Char → Value) : Prop :=
  ∀ c ∈ capitals, view c.toLower = view c

-- The capitals are to be gone through, not all characters.
instance {Value : Type} [DecidableEq Value] (view : Char → Value) : Decidable (Caseless view) :=
  List.decidableBAll _ capitals

theorem apply_toLower {Value : Type} {view : Char → Value} (caseless : Caseless view) (c : Char) :
    view c.toLower = view c := by
  by_cases upper : c.isUpper = true
  · exact caseless c (mem_capitals_of_isUpper upper)
  · rw [toLower_eq_self upper]

theorem Caseless.eq {Value : Type} {view : Char → Value} (caseless : Caseless view) {c d : Char}
    (same : c.toLower = d.toLower) : view c = view d := by
  rw [← apply_toLower caseless c, same, apply_toLower caseless d]

theorem caseless_isDigit : Caseless isDigit := by
  decide

theorem toLower_of_isDigit {c : Char} (digit : isDigit c = true) : c.toLower = c := by
  refine toLower_eq_self fun upper => ?_
  have other : isDigit c = false := eq_false_of_mem (by decide) (mem_capitals_of_isUpper upper)
  rw [other] at digit
  cases digit

theorem map_toLower_of_digits {text : List Char} (digits : ∀ c ∈ text, isDigit c = true) :
    text.map Char.toLower = text :=
  (List.map_congr_left fun c member => toLower_of_isDigit (digits c member)).trans
    (List.map_id text)

theorem mem_of_toLower_eq {marks : List Char} {c d : Char} (same : c.toLower = d.toLower)
    (member : c ∈ marks) (caseless : Caseless marks.contains := by decide) : d ∈ marks := by
  have alike := caseless.eq same
  rw [List.contains_iff_mem.mpr member] at alike
  exact List.contains_iff_mem.mp alike.symm

/-! ## Texts -/

/-- The texts differ at most in the case of their letters. -/
def SameLetters (first second : List Char) : Prop :=
  first.map Char.toLower = second.map Char.toLower

namespace SameLetters

theorem symm {first second : List Char} (same : SameLetters first second) :
    SameLetters second first :=
  Eq.symm same

theorem eq_nil {text : List Char} (same : SameLetters [] text) : text = [] :=
  List.map_eq_nil_iff.mp (Eq.symm same)

theorem eq_nil_iff {first second : List Char} (same : SameLetters first second) :
    first = [] ↔ second = [] := by
  rw [← List.map_eq_nil_iff (f := Char.toLower), same, List.map_eq_nil_iff]

theorem exists_cons {c : Char} {rest text : List Char} (same : SameLetters (c :: rest) text) :
    ∃ d others, text = d :: others ∧ c.toLower = d.toLower ∧ SameLetters rest others := by
  obtain ⟨d, others, rfl, first, later⟩ := List.map_eq_cons_iff.mp (Eq.symm same)
  exact ⟨d, others, rfl, first.symm, later.symm⟩

theorem exists_append {first second text : List Char}
    (same : SameLetters (first ++ second) text) :
    ∃ front back, text = front ++ back ∧ SameLetters first front ∧ SameLetters second back := by
  rw [SameLetters, List.map_append] at same
  obtain ⟨front, back, rfl, frontSame, backSame⟩ := List.map_eq_append_iff.mp same.symm
  exact ⟨front, back, rfl, frontSame.symm, backSame.symm⟩

theorem all_eq {first second : List Char} (same : SameLetters first second)
    {property : Char → Bool} (caseless : Caseless property) :
    first.all property = second.all property := by
  have folded : ∀ text : List Char, (text.map Char.toLower).all property = text.all property := by
    intro text
    rw [List.all_map]
    exact congrArg text.all (funext (apply_toLower caseless))
  rw [← folded first, same, folded second]

theorem eq_of_digits {first second : List Char} (same : SameLetters first second)
    (digits : ∀ c ∈ first, isDigit c = true) : second = first := by
  have others : second.all isDigit = true := by
    rw [← same.all_eq caseless_isDigit]
    exact List.all_eq_true.mpr digits
  rw [← map_toLower_of_digits (List.all_eq_true.mp others), ← same, map_toLower_of_digits digits]

end SameLetters

end TabletopDice.Text
