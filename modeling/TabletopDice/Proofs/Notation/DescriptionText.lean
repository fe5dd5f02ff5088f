import TabletopDice.Proofs.Notation.PhraseText
import TabletopDice.Proofs.Roll.RollAudit

/-!
What descriptions tell. Each line shows the dice of a term and its phrases, and lines can be told
from one another. A description therefore determines its expression, as a record and as a text.
-/

set_option autoImplicit false

namespace TabletopDice

open Sequencing

/-! ## Lines -/

namespace TermDescription

/-- The characters of a line, with those of its phrases given. -/
def lineChars (negative : Bool) (count : Nat) (die : Die) (phrases : List (List Char)) :
    List Char :=
  Text.flag '-' negative ++ ((count : Int).repr.toList ++ 'd' :: (sizeChars die ++
    phrases.flatMap fun phrase => ' ' :: '(' :: (phrase ++ [')'])))

def chars (description : TermDescription) : List Char :=
  lineChars (description.sign == .minus) description.count description.die
    (description.phrases.map String.toList)

theorem toList_of_text {description : TermDescription} {line : String}
    (written : description.text = .ok line) : line.toList = description.chars := by
  simp only [text, bind_eq_ok_iff, pure_eq_ok_iff, Text.writeNat,
    Text.writeInt_eq_ok_iff] at written
  obtain ⟨_, ⟨-, rfl⟩, size, sizeShown, rfl⟩ := written
  have brackets : ∀ phrase : String,
      s!" ({phrase})".toList = ' ' :: '(' :: (phrase.toList ++ [')']) := by
    intro phrase
    simp only [String.toList_append, toString, List.append_assoc]
    rfl
  simp only [String.toList_append, String.toList_join, Term.toList_of_sizeText sizeShown,
    List.flatMap_map, brackets, chars, lineChars, List.append_assoc]
  cases description.sign <;> rfl

/-- A description fits on one line. -/
theorem newline_not_mem_lineChars (negative : Bool) (count : Nat) (die : Die)
    {phrases : List (List Char)} (plain : ∀ phrase ∈ phrases, '\n' ∉ phrase) :
    '\n' ∉ lineChars negative count die phrases := by
  have numeral : ∀ number : Int, '\n' ∉ number.repr.toList := fun number member =>
    absurd (Text.isSignedDigit_of_mem_repr member) (by decide)
  have sign : '\n' ∉ Text.flag '-' negative := by
    cases negative <;> decide
  have size : '\n' ∉ sizeChars die := by
    cases die with
    | sided size => exact numeral size
    | fudge => decide
  simp only [lineChars, List.mem_append, List.mem_cons, List.mem_flatMap, not_or, not_exists,
    not_and]
  exact ⟨sign, numeral count, by decide, size, fun phrase inside =>
    ⟨by decide, by decide, plain phrase inside, by decide, List.not_mem_nil⟩⟩

/-- A line shows the dice, and each phrase between its brackets. -/
theorem lineChars_inj {negative otherNegative : Bool} {count otherCount : Nat}
    {die otherDie : Die} {phrases others : List (List Char)}
    (phrasesPlain : ∀ phrase ∈ phrases, ')' ∉ phrase)
    (othersPlain : ∀ phrase ∈ others, ')' ∉ phrase)
    (same : lineChars negative count die phrases =
      lineChars otherNegative otherCount otherDie others) :
    negative = otherNegative ∧ count = otherCount ∧ die = otherDie ∧ phrases = others := by
  have digitsFirst : ∀ (count : Nat) (rest : List Char),
      '-' ∉ ((count : Int).repr.toList ++ rest).head? :=
    Text.minus_not_mem_head?_repr
  unfold lineChars at same
  obtain ⟨negatives, same⟩ := Text.flag_append_inj (digitsFirst _ _) (digitsFirst _ _) same
  obtain ⟨counts, same⟩ := Text.repr_append_inj (.cons (by decide)) (.cons (by decide)) same
  have starts : ∀ phrases : List (List Char), StartsIn Text.integerEnds
      (phrases.flatMap fun phrase => ' ' :: '(' :: (phrase ++ [')'])) := by
    intro phrases
    cases phrases with
    | nil => exact startsIn_nil _
    | cons phrase phrases => exact .cons (by decide)
  obtain ⟨dice, same⟩ := sizeChars_append_inj (starts _) (starts _) (List.cons.inj same).2
  refine ⟨negatives, Int.ofNat.inj counts, dice, ?_⟩
  refine Text.flatMap_inj (fun phrase => List.cons_ne_nil _ _) ?_ same
  intro phrase inside other otherInside left right shown
  simp only [List.cons_append, List.append_assoc, List.nil_append, List.cons.injEq,
    true_and] at shown
  exact Text.append_mark_inj (phrasesPlain phrase inside) (othersPlain other otherInside) shown

end TermDescription

namespace Term

/-- The line of a term, without its mark. -/
def lineChars (term : Term) : List Char :=
  TermDescription.lineChars term.isNegative term.magnitude term.die (term.phrases.map Phrase.chars)

theorem newline_not_mem_lineChars (term : Term) : '\n' ∉ term.lineChars :=
  TermDescription.newline_not_mem_lineChars _ _ _ (List.forall_mem_map.mpr fun phrase _ =>
    phrase.not_mem_chars (by decide))

theorem lineChars_inj {first second : Term} (firstNamed : first.NamesRerolls)
    (secondNamed : second.NamesRerolls) (same : first.lineChars = second.lineChars) :
    first = second := by
  have plain : ∀ term : Term, ∀ phrase ∈ term.phrases.map Phrase.chars, ')' ∉ phrase :=
    fun term => List.forall_mem_map.mpr fun phrase _ => phrase.not_mem_chars (by decide)
  obtain ⟨negative, magnitude, die, phrases⟩ :=
    TermDescription.lineChars_inj (plain first) (plain second) same
  have phrases := List.map_injective_iff.mpr (fun _ _ => Phrase.chars_inj) phrases
  exact eq_of_phrases firstNamed secondNamed negative magnitude die phrases

theorem isSignedDigit_of_mem_head?_lineChars {term : Term} {c : Char}
    (first : c ∈ term.lineChars.head?) : Text.isSignedDigit c = true := by
  unfold lineChars TermDescription.lineChars at first
  cases negative : term.isNegative with
  | true =>
      rw [negative] at first
      cases first
      rfl
  | false =>
      obtain ⟨digit, digits, run⟩ :=
        List.exists_cons_of_ne_nil (Text.int_repr_toList_ne_nil term.magnitude)
      have signed : Text.isSignedDigit digit = true :=
        Text.isSignedDigit_of_mem_repr (run ▸ List.mem_cons_self)
      rw [negative, run] at first
      cases first
      exact signed

end Term

namespace TermDescription

theorem chars_of_ofTerm {term : Term} {description : TermDescription}
    (described : ofTerm term = .ok description) : description.chars = term.lineChars := by
  obtain ⟨phrases, written, same⟩ := bind_eq_ok_iff.mp described
  obtain rfl := pure_eq_ok_iff.mp same
  have sign : ((if term.isNegative then .minus else .plus) == Sign.minus) = term.isNegative := by
    cases term.isNegative <;> rfl
  simp only [chars, sign, toList_of_phrasesOf written, Term.lineChars]

end TermDescription

/-! ## Expressions -/

def modifierWords : List Char := "Modifier: ".toList

/-- The line of a modifier, which there is for one that is not zero. -/
def modifierLines (modifier : Int) : List (List Char) :=
  if modifier = 0 then []
  else [modifierWords ++ (Text.flag '+' (0 < modifier) ++ modifier.repr.toList)]

theorem modifierLines_inj {first second : Int}
    (same : modifierLines first = modifierLines second) : first = second := by
  have unsigned : ∀ number : Int, '+' ∉ number.repr.toList.head? := fun number plus =>
    absurd (Text.isSignedDigit_of_mem_repr (List.mem_of_mem_head? plus)) (by decide)
  unfold modifierLines at same
  split at same <;> split at same
  · omega
  · cases same
  · cases same
  · have shown := List.append_cancel_left (List.cons.inj same).1
    exact Text.int_repr_toList_inj (Text.flag_append_inj (unsigned _) (unsigned _) shown).2

theorem newline_not_mem_modifierLines {modifier : Int} {line : List Char}
    (inside : line ∈ modifierLines modifier) : '\n' ∉ line := by
  unfold modifierLines at inside
  split at inside
  · cases inside
  · obtain rfl := List.mem_singleton.mp inside
    simp only [List.mem_append, not_or]
    refine ⟨by decide, ?_, fun member => ?_⟩
    · cases decide (0 < modifier) <;> decide
    · exact absurd (Text.isSignedDigit_of_mem_repr member) (by decide)

/-- No term has the line of a modifier. -/
theorem lineChars_not_mem_modifierLines (term : Term) (modifier : Int) :
    term.lineChars ∉ modifierLines modifier := by
  intro inside
  unfold modifierLines at inside
  split at inside
  · cases inside
  · have letter : 'M' ∈ term.lineChars.head? := by
      rw [List.mem_singleton.mp inside]
      rfl
    exact absurd (Term.isSignedDigit_of_mem_head?_lineChars letter) (by decide)

namespace Expression

def NamesRerolls (expression : Expression) : Prop :=
  ∀ term ∈ expression.dice, term.NamesRerolls

def lineChars (expression : Expression) : List (List Char) :=
  expression.dice.map Term.lineChars ++ modifierLines expression.modifier

theorem newline_not_mem_lineChars {expression : Expression} {line : List Char}
    (inside : line ∈ expression.lineChars) : '\n' ∉ line := by
  rcases List.mem_append.mp inside with ofTerm | ofModifier
  · obtain ⟨term, -, rfl⟩ := List.mem_map.mp ofTerm
    exact term.newline_not_mem_lineChars
  · exact newline_not_mem_modifierLines ofModifier

theorem eq_of_lineChars {first second : Expression} (firstNamed : first.NamesRerolls)
    (secondNamed : second.NamesRerolls) (same : first.lineChars = second.lineChars) :
    first = second := by
  obtain ⟨dice, modifier⟩ := first
  obtain ⟨others, otherModifier⟩ := second
  simp only [lineChars] at same
  induction dice generalizing others with
  | nil =>
      cases others with
      | nil => rw [modifierLines_inj same]
      | cons term others =>
          have inside : term.lineChars ∈ modifierLines modifier := by
            rw [show modifierLines modifier = _ from same]
            exact List.mem_cons_self
          exact absurd inside (lineChars_not_mem_modifierLines term modifier)
  | cons term dice ih =>
      cases others with
      | nil =>
          have inside : term.lineChars ∈ modifierLines otherModifier := by
            rw [show modifierLines otherModifier = _ from same.symm]
            exact List.mem_cons_self
          exact absurd inside (lineChars_not_mem_modifierLines term otherModifier)
      | cons other others =>
          obtain ⟨firstHead, firstTail⟩ := List.forall_mem_cons.mp firstNamed
          obtain ⟨secondHead, secondTail⟩ := List.forall_mem_cons.mp secondNamed
          obtain ⟨here, later⟩ := List.cons.inj same
          obtain rfl := Term.lineChars_inj firstHead secondHead here
          cases ih firstTail others secondTail later
          rfl

end Expression

theorem Text.toList_of_writeSigned {number : Int} {text : String} (nonzero : number ≠ 0)
    (written : writeSigned number = .ok text) :
    text.toList = flag '+' (0 < number) ++ number.repr.toList := by
  obtain ⟨digits, digitsWritten, same⟩ := bind_eq_ok_iff.mp written
  obtain ⟨-, rfl⟩ := writeInt_eq_ok_iff.mp digitsWritten
  obtain rfl := pure_eq_ok_iff.mp same
  by_cases negative : number < 0
  · have unsigned : ¬ 0 < number := by omega
    simp [negative, unsigned, flag]
  · have signed : 0 < number := by omega
    simp [negative, signed, flag]

namespace Description

/-- The lines of a description, without their marks. -/
def lineChars (description : Description) : List (List Char) :=
  description.dice.map TermDescription.chars ++ modifierLines description.modifier

theorem lineChars_of_ofExpression {expression : Expression} {description : Description}
    (described : ofExpression expression = .ok description) :
    description.lineChars = expression.lineChars := by
  obtain ⟨dice, diceDescribed, same⟩ := bind_eq_ok_iff.mp described
  obtain rfl := pure_eq_ok_iff.mp same
  have shown := map_eq_of_mapM_eq_ok
    (fun _ _ _ made => TermDescription.chars_of_ofTerm made) diceDescribed
  simp only [lineChars, Expression.lineChars, shown]

theorem toList_of_lines {description : Description} {lines : List String}
    (written : description.lines = .ok lines) :
    lines.map String.toList = description.lineChars := by
  obtain ⟨diceLines, diceWritten, written⟩ := bind_eq_ok_iff.mp written
  have texts := map_eq_of_mapM_eq_ok
    (fun _ _ _ shown => TermDescription.toList_of_text shown) diceWritten
  rw [lineChars, ← texts, modifierLines]
  split at written
  · rename_i zero
    cases written
    rw [if_pos zero, List.append_nil, List.append_nil]
  · rename_i nonzero
    obtain ⟨signed, signedWritten, same⟩ := bind_eq_ok_iff.mp written
    cases same
    have line : (s!"Modifier: {signed}").toList =
        modifierWords ++ (Text.flag '+' (0 < description.modifier) ++
          description.modifier.repr.toList) := by
      rw [← Text.toList_of_writeSigned nonzero signedWritten]
      simp only [String.toList_append, toString]
      rfl
    rw [if_neg nonzero, List.map_append, ← line]
    rfl

theorem toList_of_text {description : Description} {text : String}
    (written : description.text = .ok text) :
    text.toList = ['\n'].intercalate ("Breakdown:".toList ::
      description.lineChars.map fun line => '•' :: ' ' :: line) := by
  obtain ⟨lines, linesWritten, same⟩ := bind_eq_ok_iff.mp written
  obtain rfl := pure_eq_ok_iff.mp same
  have marked : ∀ line : String, (s!"• {line}").toList = '•' :: ' ' :: line.toList := by
    intro line
    simp only [String.toList_append, toString]
    rfl
  have newline : "\n".toList = ['\n'] := rfl
  rw [String.toList_intercalate, newline, List.map_cons, List.map_map,
    ← toList_of_lines linesWritten, List.map_map]
  simp only [Function.comp_def, marked]

/-- The lines of a text are found again at its line breaks. -/
theorem lineChars_eq_of_text {first second : Description} {text : String}
    (firstPlain : ∀ line ∈ first.lineChars, '\n' ∉ line)
    (secondPlain : ∀ line ∈ second.lineChars, '\n' ∉ line)
    (firstWritten : first.text = .ok text) (secondWritten : second.text = .ok text) :
    first.lineChars = second.lineChars := by
  have split : ∀ {lines : List (List Char)}, (∀ line ∈ lines, '\n' ∉ line) →
      (['\n'].intercalate ("Breakdown:".toList ::
        lines.map fun line => '•' :: ' ' :: line)).splitOn '\n' =
          "Breakdown:".toList :: lines.map fun line => '•' :: ' ' :: line := by
    intro lines plain
    refine List.splitOn_intercalate '\n' ?_ (List.cons_ne_nil _ _)
    refine List.forall_mem_cons.mpr ⟨by decide, List.forall_mem_map.mpr fun line inside => ?_⟩
    simpa using plain line inside
  have same := (toList_of_text firstWritten).symm.trans (toList_of_text secondWritten)
  have lines := congrArg (List.splitOn '\n') same
  rw [split firstPlain, split secondPlain] at lines
  have marks : Function.Injective fun line : List Char => '•' :: ' ' :: line :=
    fun _ _ marked => (List.cons.inj (List.cons.inj marked).2).2
  exact List.map_injective_iff.mpr marks (List.cons.inj lines).2

end Description

namespace Expression

theorem namesRerolls_of_parse {ceilings : Ceilings} {text : List Char} {expression : Expression}
    (read : parse ceilings text = .ok expression) : expression.NamesRerolls :=
  fun term member => ((expressible_of_parse read).terms term member).namesRerolls

/-- Two expressions are the same if their descriptions are, as records or as texts. An empty set of
faces to throw again is the only thing that a description leaves out, and no notation asks for
one. -/
theorem eq_of_described_alike :
    (∀ ceilings text expression, parse ceilings text = .ok expression → expression.NamesRerolls) ∧
    ∀ {first second : Expression} {firstDescription secondDescription : Description},
      first.NamesRerolls → second.NamesRerolls →
      Description.ofExpression first = .ok firstDescription →
      Description.ofExpression second = .ok secondDescription →
        (firstDescription.dice = secondDescription.dice →
          firstDescription.modifier = secondDescription.modifier → first = second) ∧
        ∀ text, firstDescription.text = .ok text → secondDescription.text = .ok text →
          first = second := by
  refine ⟨fun _ _ _ => namesRerolls_of_parse, ?_⟩
  intro first second firstDescription secondDescription firstNamed secondNamed firstDescribed
    secondDescribed
  have firstShown := Description.lineChars_of_ofExpression firstDescribed
  have secondShown := Description.lineChars_of_ofExpression secondDescribed
  refine ⟨fun dice modifier => ?_, fun text firstWritten secondWritten => ?_⟩
  · refine eq_of_lineChars firstNamed secondNamed ?_
    rw [← firstShown, ← secondShown, Description.lineChars, Description.lineChars, dice, modifier]
  · refine eq_of_lineChars firstNamed secondNamed ?_
    rw [← firstShown, ← secondShown]
    refine Description.lineChars_eq_of_text ?_ ?_ firstWritten secondWritten
    · exact firstShown ▸ fun _ => newline_not_mem_lineChars
    · exact secondShown ▸ fun _ => newline_not_mem_lineChars

/-- A volley that throws the listed faces again, and dice that are counted. -/
def assault (faces : List Int) : Expression :=
  ⟨[{ volley with reroll := some (FaceSet.ofList faces) },
    { volley with
      count := 7, filter := some (.keep ⟨.lowest, 2⟩), reroll := none, explode := false
      success := some 5, count_ne_zero := by decide, filter_fits := by decide }], 3⟩

def assaultDescription : Description :=
  ⟨[⟨.minus, 2, .sided 6, ["drop highest 1", "reroll 1, 9", "exploding dice"]⟩,
    ⟨.plus, 7, .sided 6, ["keep lowest 2", "success on 5+"]⟩], 3⟩

theorem eq_of_described_alike_assault :
    assaultDescription.text = .ok ("Breakdown:\n" ++
        "• -2d6 (drop highest 1) (reroll 1, 9) (exploding dice)\n" ++
        "• 7d6 (keep lowest 2) (success on 5+)\n• Modifier: +3") ∧
      assault [9, 1, 9] = assault [1, 9] := by
  have named : ∀ faces ∈ [[9, 1, 9], [1, 9]], (assault faces).NamesRerolls := by
    unfold NamesRerolls Term.NamesRerolls
    decide
  obtain ⟨firstNamed, secondNamed⟩ : (assault [9, 1, 9]).NamesRerolls ∧
      (assault [1, 9]).NamesRerolls :=
    ⟨named _ (by decide), named _ (by decide)⟩
  have firstDescribed : Description.ofExpression (assault [9, 1, 9]) = .ok assaultDescription := by
    decide +kernel
  have secondDescribed : Description.ofExpression (assault [1, 9]) = .ok assaultDescription := by
    decide +kernel
  have written : assaultDescription.text = .ok ("Breakdown:\n" ++
      "• -2d6 (drop highest 1) (reroll 1, 9) (exploding dice)\n" ++
      "• 7d6 (keep lowest 2) (success on 5+)\n• Modifier: +3") := by
    decide +kernel
  exact ⟨written, (eq_of_described_alike.2 firstNamed secondNamed firstDescribed
    secondDescribed).2 _ written written⟩

end Expression

end TabletopDice
