import TabletopDice.Proofs.Notation.Explained
import TabletopDice.Proofs.Roll.BreakdownText

/-!
The phrases of descriptions. They can be told from one another, and each of them shows all of the
option that it stands for.
-/

set_option autoImplicit false

namespace TabletopDice

open Sequencing

/-! ## Kinds of phrases -/

def Filter.kind : Filter → FilterKind
  | .keep _ => .keep
  | .drop _ => .drop

theorem Filter.filter_kind (filter : Filter) : filter.kind.filter filter.pick = filter := by
  cases filter <;> rfl

theorem FilterKind.verb_inj {first second : FilterKind}
    (same : first.verb.toList = second.verb.toList) : first = second := by
  cases first <;> cases second <;> revert same <;> decide

theorem FilterKind.space_not_mem_verb (kind : FilterKind) : ' ' ∉ kind.verb.toList := by
  cases kind <;> decide

def Side.chars (side : Side) : List Char :=
  (TermDescription.sideWord side).toList

theorem Side.chars_inj {first second : Side} (same : first.chars = second.chars) :
    first = second := by
  cases first <;> cases second <;> revert same <;> decide

theorem Side.space_not_mem_chars (side : Side) : ' ' ∉ side.chars := by
  cases side <;> decide

/-- What a description says of a term besides its dice. -/
inductive Phrase where
  | filter (filter : Filter)
  | reroll (faces : FaceSet)
  | explode
  | success (threshold : Int)
deriving DecidableEq, Repr

namespace Phrase

def facesChars (faces : List Int) : List Char :=
  [',', ' '].intercalate (faces.map fun face => face.repr.toList)

def rerollWords : List Char := "reroll ".toList

def explodeWords : List Char := "exploding dice".toList

def successWords : List Char := "success on ".toList

def chars : Phrase → List Char
  | filter present =>
      present.kind.verb.toList ++ ' ' :: (present.pick.side.chars ++ ' ' ::
        present.pick.count.repr.toList)
  | reroll faces => rerollWords ++ facesChars faces.values
  | explode => explodeWords
  | success threshold => successWords ++ (threshold.repr.toList ++ ['+'])

theorem filter_inj {first second : Filter} (same : (filter first).chars = (filter second).chars) :
    first = second := by
  obtain ⟨verbs, same⟩ := Text.append_mark_inj first.kind.space_not_mem_verb
    second.kind.space_not_mem_verb same
  obtain ⟨sides, digits⟩ := Text.append_mark_inj first.pick.side.space_not_mem_chars
    second.pick.side.space_not_mem_chars same
  have kinds := FilterKind.verb_inj verbs
  have picks : first.pick = second.pick := by
    rw [Pick.mk.injEq]
    exact ⟨Side.chars_inj sides, Text.int_repr_toList_inj digits⟩
  rw [← first.filter_kind, ← second.filter_kind, kinds, picks]

theorem facesChars_append {faces : List Int} (some : faces ≠ []) :
    facesChars faces ++ [',', ' '] = faces.flatMap fun face => face.repr.toList ++ [',', ' '] := by
  rw [facesChars, Text.intercalate_append _ (by simpa using some), List.flatMap_map]

theorem facesChars_ne_nil {faces : List Int} (some : faces ≠ []) : facesChars faces ≠ [] := by
  obtain ⟨face, rest, rfl⟩ := List.exists_cons_of_ne_nil some
  rw [facesChars, List.map_cons, Text.intercalate_cons]
  exact List.append_ne_nil_of_left_ne_nil (Text.int_repr_toList_ne_nil face) _

/-- A face can be told from the comma behind it. -/
theorem facesChars_inj {first second : List Int} (same : facesChars first = facesChars second) :
    first = second := by
  by_cases firstNone : first = []
  · subst firstNone
    by_contra different
    exact facesChars_ne_nil (Ne.symm different) same.symm
  · have secondSome : second ≠ [] := by
      rintro rfl
      exact facesChars_ne_nil firstNone same
    have appended := congrArg (· ++ [',', ' ']) same
    simp only [facesChars_append firstNone, facesChars_append secondSome] at appended
    refine Text.flatMap_inj (fun face => by simp) ?_ appended
    intro face _ other _ left right shown
    rw [List.append_assoc, List.append_assoc] at shown
    obtain ⟨faces, rest⟩ := Text.repr_append_inj (.cons (by decide)) (.cons (by decide)) shown
    have separated : [',', ' '] ++ left = [',', ' '] ++ right := rest
    exact ⟨faces, List.append_cancel_left separated⟩

/-- The letter that a phrase begins with. It tells the kinds of phrases apart. -/
def initial : Phrase → Char
  | filter (.keep _) => 'k'
  | filter (.drop _) => 'd'
  | reroll _ => 'r'
  | explode => 'e'
  | success _ => 's'

theorem head?_chars (phrase : Phrase) : phrase.chars.head? = some phrase.initial := by
  rcases phrase with (_ | _) | _ | _ | _
  · simp [chars, Filter.kind, FilterKind.verb, initial]
  · simp [chars, Filter.kind, FilterKind.verb, initial]
  · rfl
  · rfl
  · rfl

theorem chars_inj {first second : Phrase} (same : first.chars = second.chars) :
    first = second := by
  have initials : first.initial = second.initial := by
    have heads := congrArg List.head? same
    rwa [head?_chars, head?_chars, Option.some.injEq] at heads
  cases first with
  | filter firstFilter =>
      cases second with
      | filter secondFilter => exact congrArg filter (filter_inj same)
      | _ => cases firstFilter <;> exact nomatch initials
  | reroll firstFaces =>
      cases second with
      | filter secondFilter => cases secondFilter <;> exact nomatch initials
      | reroll secondFaces =>
          have values := facesChars_inj (List.append_cancel_left same)
          cases firstFaces
          cases secondFaces
          cases values
          rfl
      | _ => exact nomatch initials
  | explode =>
      cases second with
      | filter secondFilter => cases secondFilter <;> exact nomatch initials
      | explode => rfl
      | _ => exact nomatch initials
  | success firstThreshold =>
      cases second with
      | filter secondFilter => cases secondFilter <;> exact nomatch initials
      | success secondThreshold =>
          have digits := List.append_cancel_right (List.append_cancel_left same)
          exact congrArg success (Text.int_repr_toList_inj digits)
      | _ => exact nomatch initials

def isPhraseChar (c : Char) : Bool :=
  Text.isSignedDigit c || c.isLower || [' ', ',', '+'].contains c

theorem all_repr (number : Int) : number.repr.toList.all isPhraseChar = true := by
  refine List.all_eq_true.mpr fun c member => ?_
  rw [isPhraseChar, Text.isSignedDigit_of_mem_repr member]
  rfl

theorem all_facesChars (faces : List Int) : (facesChars faces).all isPhraseChar = true := by
  cases faces with
  | nil => rfl
  | cons face rest =>
      have separator : [',', ' '].all isPhraseChar = true := by decide
      rw [facesChars, List.map_cons, Text.intercalate_cons]
      refine List.all_eq_true.mpr fun c member => ?_
      simp only [List.mem_append, List.mem_flatMap, List.mem_map] at member
      rcases member with here | ⟨_, ⟨other, -, rfl⟩, between | there⟩
      · exact List.all_eq_true.mp (all_repr face) c here
      · exact List.all_eq_true.mp separator c between
      · exact List.all_eq_true.mp (all_repr other) c there

theorem all_chars (phrase : Phrase) : phrase.chars.all isPhraseChar = true := by
  cases phrase with
  | filter present =>
      have verb : present.kind.verb.toList.all isPhraseChar = true := by
        cases present.kind <;> decide
      have side : present.pick.side.chars.all isPhraseChar = true := by
        cases present.pick.side <;> decide
      have space : isPhraseChar ' ' = true := by decide
      simp only [chars, List.all_append, List.all_cons, verb, side, space, all_repr, Bool.and_self]
  | reroll faces =>
      have verb : rerollWords.all isPhraseChar = true := by decide
      simp only [chars, List.all_append, verb, all_facesChars, Bool.and_self]
  | explode => decide
  | success threshold =>
      have words : successWords.all isPhraseChar = true := by decide
      have plus : ['+'].all isPhraseChar = true := by decide
      simp only [chars, List.all_append, words, plus, all_repr, Bool.and_self]

theorem not_mem_chars {c : Char} (other : isPhraseChar c = false) (phrase : Phrase) :
    c ∉ phrase.chars := by
  intro member
  have within := List.all_eq_true.mp phrase.all_chars c member
  rw [other] at within
  cases within

def filter? : Phrase → Option Filter
  | filter present => some present
  | _ => none

def reroll? : Phrase → Option FaceSet
  | reroll faces => some faces
  | _ => none

def success? : Phrase → Option Int
  | success threshold => some threshold
  | _ => none

end Phrase

/-! ## The phrases of a term -/

namespace Term

def phrases (term : Term) : List Phrase :=
  [term.filter.map .filter, (TermDescription.rerolled term).map .reroll,
    if term.explode then some .explode else none, term.success.map .success].filterMap id

/-- Each option can be read off the phrases. -/
theorem findSome?_phrases (term : Term) :
    term.phrases.findSome? Phrase.filter? = term.filter ∧
      term.phrases.findSome? Phrase.reroll? = TermDescription.rerolled term ∧
      term.phrases.contains .explode = term.explode ∧
      term.phrases.findSome? Phrase.success? = term.success := by
  unfold phrases
  cases term.filter <;> cases TermDescription.rerolled term <;> cases term.explode <;>
    cases term.success <;> exact ⟨rfl, rfl, rfl, rfl⟩

/-- A set of faces that are thrown again is not empty. An empty set does what no set does, and a
description does not tell them apart. -/
def NamesRerolls (term : Term) : Prop :=
  ∀ faces ∈ term.reroll, faces.values ≠ []

theorem NamesRerolls.rerolled_eq {term : Term} (named : term.NamesRerolls) :
    TermDescription.rerolled term = term.reroll := by
  unfold TermDescription.rerolled
  cases present : term.reroll with
  | none => rfl
  | some faces =>
      have some : faces.values ≠ [] := named faces present
      simpa using some

theorem Expressible.namesRerolls {ceilings : Ceilings} {term : Term}
    (expressible : term.Expressible ceilings) : term.NamesRerolls := by
  intro faces present
  obtain ⟨face, rfl, -⟩ := expressible.reroll faces present
  exact List.cons_ne_nil face []

theorem count_eq (term : Term) :
    term.count = if term.isNegative then -(term.magnitude : Int) else term.magnitude := by
  unfold isNegative magnitude
  split <;> rename_i negative <;> rw [decide_eq_true_iff] at negative <;> omega

theorem eq_of_phrases {first second : Term} (firstNamed : first.NamesRerolls)
    (secondNamed : second.NamesRerolls) (negative : first.isNegative = second.isNegative)
    (magnitude : first.magnitude = second.magnitude) (die : first.die = second.die)
    (phrases : first.phrases = second.phrases) : first = second := by
  obtain ⟨firstFilter, firstReroll, firstExplode, firstSuccess⟩ := first.findSome?_phrases
  obtain ⟨filter, reroll, explode, success⟩ := second.findSome?_phrases
  rw [← phrases] at filter reroll explode success
  rw [firstNamed.rerolled_eq] at firstReroll
  rw [secondNamed.rerolled_eq] at reroll
  have count : first.count = second.count := by
    rw [first.count_eq, second.count_eq, negative, magnitude]
  cases first
  cases second
  simp_all

end Term

namespace TermDescription

theorem toList_of_filterPhrase {filter : Filter} {text : String}
    (written : filterPhrase filter = .ok text) : text.toList = (Phrase.filter filter).chars := by
  obtain ⟨count, shown, same⟩ := bind_eq_ok_iff.mp written
  obtain ⟨-, rfl⟩ := Text.writeInt_eq_ok_iff.mp shown
  obtain rfl := pure_eq_ok_iff.mp same
  simp only [String.toList_append, List.append_assoc, Phrase.chars]
  cases filter <;> rfl

theorem toList_of_rerollPhrase {faces : FaceSet} {text : String}
    (written : rerollPhrase faces = .ok text) : text.toList = (Phrase.reroll faces).chars := by
  obtain ⟨texts, shown, same⟩ := bind_eq_ok_iff.mp written
  obtain rfl := pure_eq_ok_iff.mp same
  have digits : texts.map String.toList = faces.values.map fun face => face.repr.toList := by
    refine map_eq_of_mapM_eq_ok (fun face _ text shown => ?_) shown
    rw [(Text.writeInt_eq_ok_iff.mp shown).2]
  rw [String.toList_append, String.toList_intercalate, digits]
  rfl

theorem toList_of_successPhrase {threshold : Int} {text : String}
    (written : successPhrase threshold = .ok text) :
    text.toList = (Phrase.success threshold).chars := by
  obtain ⟨digits, shown, same⟩ := bind_eq_ok_iff.mp written
  obtain ⟨-, rfl⟩ := Text.writeInt_eq_ok_iff.mp shown
  obtain rfl := pure_eq_ok_iff.mp same
  simp only [String.toList_append, toString, Phrase.chars, List.append_assoc]
  rfl

theorem toList_of_phrasesOf {term : Term} {texts : List String}
    (written : phrasesOf term = .ok texts) :
    texts.map String.toList = term.phrases.map Phrase.chars := by
  simp only [phrasesOf, bind_eq_ok_iff, pure_eq_ok_iff] at written
  obtain ⟨filter, filterShown, reroll, rerollShown, success, successShown, rfl⟩ := written
  have filters : filter.map String.toList = term.filter.map (Phrase.chars ∘ .filter) :=
    option_map_eq_of_mapM_eq_ok (fun _ _ => toList_of_filterPhrase) filterShown
  have rerolls : reroll.map String.toList = (rerolled term).map (Phrase.chars ∘ .reroll) :=
    option_map_eq_of_mapM_eq_ok (fun _ _ => toList_of_rerollPhrase) rerollShown
  have successes : success.map String.toList = term.success.map (Phrase.chars ∘ .success) :=
    option_map_eq_of_mapM_eq_ok (fun _ _ => toList_of_successPhrase) successShown
  have explosion : (if term.explode then some "exploding dice" else none).map String.toList =
      (if term.explode then some Phrase.explode else none).map Phrase.chars := by
    cases term.explode <;> rfl
  rw [← Option.map_map] at filters rerolls successes
  unfold Term.phrases
  rw [List.map_filterMap, List.map_filterMap]
  simp only [List.filterMap_cons, id, filters, rerolls, successes, explosion, List.filterMap_nil]

end TermDescription

end TabletopDice
