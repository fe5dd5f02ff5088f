import TabletopDice.Proofs.Notation.TokenSpelling
import TabletopDice.Proofs.Notation.TokenTerm

/-!
Runs of digits within written tokens. Wherever a run of digits is found in the written form of a
token, it lies within one of the numbers that the token names.
-/

set_option autoImplicit false

namespace TabletopDice

def ShortDigits (text : List Char) : Prop :=
  ∀ run, run <:+: text → (∀ c ∈ run, Text.isDigit c = true) → Readable run

theorem shortDigits_of_readable {text : List Char} (short : Readable text) : ShortDigits text :=
  fun _ inside _ => Nat.le_trans inside.length_le short

theorem shortDigits_nil : ShortDigits [] :=
  shortDigits_of_readable (Nat.zero_le _)

theorem shortDigits_of_digits {text : List Char} (digits : ∀ c ∈ text, Text.isDigit c = true) :
    ShortDigits text ↔ Readable text :=
  ⟨fun short => short text (List.infix_refl text) digits, shortDigits_of_readable⟩

/-- A run of digits does not reach across another character. -/
theorem infix_append_cons_of_not_mem {before after run : List Char} {c : Char}
    (inside : run <:+: before ++ c :: after) (missing : c ∉ run) :
    run <:+: before ∨ run <:+: after := by
  obtain ⟨left, right, same⟩ := inside
  rw [List.append_assoc] at same
  rcases List.append_eq_append_iff.mp same with ⟨gap, rfl, tail⟩ | ⟨gap, rfl, tail⟩
  · rcases List.append_eq_append_iff.mp tail with ⟨rest, rfl, -⟩ | ⟨rest, rfl, later⟩
    · exact .inl ⟨left, rest, by simp⟩
    · cases rest with
      | nil => exact .inl ⟨left, [], by simp⟩
      | cons d rest =>
          cases later
          simp at missing
  · cases gap with
    | nil =>
        cases run with
        | nil => exact .inl (List.nil_infix)
        | cons d run =>
            cases tail
            simp at missing
    | cons d gap =>
        cases tail
        exact .inr ⟨gap, right, by simp⟩

theorem shortDigits_append_cons {before after : List Char} {c : Char}
    (other : Text.isDigit c = false) :
    ShortDigits (before ++ c :: after) ↔ ShortDigits before ∧ ShortDigits after := by
  constructor
  · intro short
    constructor
    · exact fun run inside => short run (inside.trans (List.prefix_append before _).isInfix)
    · refine fun run inside => short run (inside.trans ?_)
      exact ((List.suffix_cons c after).trans (List.suffix_append before _)).isInfix
  · intro short run inside digits
    obtain ⟨beforeShort, afterShort⟩ := short
    have missing : c ∉ run := fun member => by simp [digits c member] at other
    rcases infix_append_cons_of_not_mem inside missing with left | right
    · exact beforeShort run left digits
    · exact afterShort run right digits

theorem shortDigits_cons {c : Char} {text : List Char} (other : Text.isDigit c = false) :
    ShortDigits (c :: text) ↔ ShortDigits text := by
  have split : ShortDigits ([] ++ c :: text) ↔ ShortDigits [] ∧ ShortDigits text :=
    shortDigits_append_cons other
  simpa [shortDigits_nil] using split

theorem shortDigits_append {first rest : List Char}
    (ends : ∀ c ∈ rest.head?, Text.isDigit c = false) :
    ShortDigits (first ++ rest) ↔ ShortDigits first ∧ ShortDigits rest := by
  cases rest with
  | nil => simp [shortDigits_nil]
  | cons c rest => rw [shortDigits_append_cons (ends c rfl), shortDigits_cons (ends c rfl)]

/-! ## The parts of a token -/

theorem DigitRun.shortDigits_iff {run : List Char} (digits : DigitRun run) :
    ShortDigits run ↔ Readable run :=
  shortDigits_of_digits digits.digits

theorem NumberSpelling.shortDigits_iff {number : Option (List Char)} {text : List Char}
    (spelling : NumberSpelling number text) :
    ShortDigits text ↔ ∀ run ∈ number, Readable run := by
  cases spelling with
  | absent => simp [shortDigits_nil]
  | present digits => simp [digits.shortDigits_iff]

theorem SizeToken.Spells.shortDigits_iff {size : SizeToken} {text : List Char}
    (spelling : size.Spells text) :
    ShortDigits text ↔ ∀ run ∈ size.groups, Readable run := by
  cases spelling with
  | digits digits => simp [SizeToken.groups, digits.shortDigits_iff]
  | percent =>
      have other : Text.isDigit '%' = false := by decide
      simp [SizeToken.groups, shortDigits_cons other, shortDigits_nil]
  | @fudge c letter =>
      have other : Text.isDigit c = false := eq_false_of_mem (by decide) letter
      simp [SizeToken.groups, shortDigits_cons other, shortDigits_nil]

theorem FilterKind.not_digit_of_mem_letters {kind : FilterKind} {c : Char}
    (letter : c ∈ kind.letters) : Text.isDigit c = false :=
  eq_false_of_mem (by cases kind <;> decide) letter

theorem Side.not_digit_of_mem_letters {side : Side} {c : Char}
    (letter : c ∈ side.letters) : Text.isDigit c = false :=
  eq_false_of_mem (by cases side <;> decide) letter

theorem not_digit_of_die_letter {c : Char} (letter : c ∈ ['d', 'D']) : Text.isDigit c = false :=
  eq_false_of_mem (by decide) letter

theorem FilterSpelling.shortDigits_iff {filter : Option FilterToken} {text : List Char}
    (spelling : FilterSpelling filter text) :
    ShortDigits text ↔ ∀ present ∈ filter, Readable present.digits := by
  cases spelling with
  | absent => simp [shortDigits_nil]
  | present firstLetter secondLetter digits =>
      rw [shortDigits_cons (FilterKind.not_digit_of_mem_letters firstLetter),
        shortDigits_cons (Side.not_digit_of_mem_letters secondLetter)]
      simp [digits.shortDigits_iff]

theorem MarkedSpelling.shortDigits_iff {marks text : List Char} {number : Option (List Char)}
    (other : marks.any Text.isDigit = false)
    (spelling : MarkedSpelling marks number text) :
    ShortDigits text ↔ ∀ run ∈ number, Readable run := by
  cases spelling with
  | absent => simp [shortDigits_nil]
  | present mark digits =>
      rw [shortDigits_cons (eq_false_of_mem other mark)]
      simp [digits.shortDigits_iff]

theorem shortDigits_explodeText (explode : Bool) (rest : List Char) :
    ShortDigits (explodeText explode ++ rest) ↔ ShortDigits rest := by
  cases explode with
  | false => rfl
  | true => exact shortDigits_cons (by decide)

/-- The runs of digits in a written token are short exactly when its numbers are. -/
theorem TermToken.Spells.shortDigits_iff {token : TermToken} {text : List Char}
    (spelling : token.Spells text) :
    ShortDigits text ↔ ∀ run ∈ token.groups, Readable run := by
  cases spelling with
  | @parts count die size filter reroll success countSpelling dieLetter sizeSpelling
      filterSpelling rerollSpelling successSpelling =>
      have starts := tailStarts token.explode filterSpelling rerollSpelling successSpelling
      have dieOther := not_digit_of_die_letter dieLetter
      rw [TermToken.forall_groups_iff, shortDigits_append_cons dieOther,
        shortDigits_append (starts.atFilter.head?_eq_false Text.isDigit (by decide)),
        shortDigits_append (starts.atReroll.head?_eq_false Text.isDigit (by decide)),
        shortDigits_append (starts.atExplode.head?_eq_false Text.isDigit (by decide)),
        shortDigits_explodeText, countSpelling.shortDigits_iff, sizeSpelling.shortDigits_iff,
        filterSpelling.shortDigits_iff, rerollSpelling.shortDigits_iff (by decide),
        successSpelling.shortDigits_iff (by decide)]

theorem NumberSpelling.digitRun {number : Option (List Char)} {text : List Char}
    (spelling : NumberSpelling number text) : ∀ run ∈ number, DigitRun run := by
  cases spelling <;> simp_all

theorem SizeToken.Spells.digitRun {size : SizeToken} {text : List Char}
    (spelling : size.Spells text) : ∀ run ∈ size.groups, DigitRun run := by
  cases spelling <;> simp_all [SizeToken.groups]

theorem FilterSpelling.digitRun {filter : Option FilterToken} {text : List Char}
    (spelling : FilterSpelling filter text) : ∀ present ∈ filter, DigitRun present.digits := by
  cases spelling <;> simp_all

theorem MarkedSpelling.digitRun {marks text : List Char} {number : Option (List Char)}
    (spelling : MarkedSpelling marks number text) : ∀ run ∈ number, DigitRun run := by
  cases spelling <;> simp_all

theorem TermToken.Spells.digitRun {token : TermToken} {text : List Char}
    (spelling : token.Spells text) : ∀ run ∈ token.groups, DigitRun run := by
  cases spelling with
  | parts countSpelling _ sizeSpelling filterSpelling rerollSpelling successSpelling =>
      exact TermToken.forall_groups_iff.mpr ⟨countSpelling.digitRun, sizeSpelling.digitRun,
        filterSpelling.digitRun, rerollSpelling.digitRun, successSpelling.digitRun⟩

theorem TermToken.Spells.not_digits {token : TermToken} {text : List Char}
    (spelling : token.Spells text) : text.all Text.isDigit = false := by
  cases spelling with
  | parts _ dieLetter =>
      simp [not_digit_of_die_letter dieLetter]

end TabletopDice
