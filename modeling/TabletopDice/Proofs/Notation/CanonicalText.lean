import TabletopDice.Proofs.Notation.Acceptance

/-!
Writing tokens and pieces. A token has one plain text: its letters in lower case but for the capital
of fudge dice. Pieces are written behind their operators, and cutting the text gives them back.
-/

set_option autoImplicit false

namespace TabletopDice

def SizeToken.text : SizeToken → List Char
  | .digits run => run
  | .percent => ['%']
  | .fudge => ['F']

def FilterKind.mark : FilterKind → Char
  | .keep => 'k'
  | .drop => 'd'

def Side.mark : Side → Char
  | .highest => 'h'
  | .lowest => 'l'

def filterText : Option FilterToken → List Char
  | none => []
  | some filter => filter.kind.mark :: filter.side.mark :: filter.digits

def markedText (mark : Char) : Option (List Char) → List Char
  | none => []
  | some run => mark :: run

def TermToken.text (token : TermToken) : List Char :=
  token.count.getD [] ++ 'd' :: (token.size.text ++ (filterText token.filter ++
    (markedText 'r' token.reroll ++ (explodeText token.explode ++ markedText '>' token.success))))

theorem markedSpelling_markedText {marks : List Char} {mark : Char} {number : Option (List Char)}
    (known : mark ∈ marks) (digits : ∀ run ∈ number, DigitRun run) :
    MarkedSpelling marks number (markedText mark number) := by
  cases number with
  | none => exact .absent
  | some run => exact .present known (digits run rfl)

theorem TermToken.spells_text {token : TermToken} (digits : ∀ run ∈ token.groups, DigitRun run) :
    token.Spells token.text := by
  obtain ⟨countDigits, sizeDigits, filterDigits, rerollDigits, successDigits⟩ :=
    forall_groups_iff.mp digits
  have count : NumberSpelling token.count (token.count.getD []) := by
    cases present : token.count with
    | none => exact .absent
    | some run => exact .present (countDigits run present)
  have size : token.size.Spells token.size.text := by
    cases written : token.size with
    | digits run => exact .digits (sizeDigits run (by simp [written, SizeToken.groups]))
    | percent => exact .percent
    | fudge => exact .fudge (by decide)
  have filter : FilterSpelling token.filter (filterText token.filter) := by
    cases present : token.filter with
    | none => exact .absent
    | some filter =>
        refine .present ?_ ?_ (filterDigits filter present)
        · cases filter.kind <;> decide
        · cases filter.side <;> decide
  exact .parts count (by decide) size filter (markedSpelling_markedText (by decide) rerollDigits)
    (markedSpelling_markedText (by decide) successDigits)

/-! ## The characters of tokens -/

/-- Characters that neither end a piece nor are deleted. -/
def isInner (c : Char) : Bool :=
  !Text.isBlank c && c != '+' && c != '-'

theorem isInner_of_isDigit {c : Char} (digit : Text.isDigit c = true) : isInner c = true := by
  have visible := isBlank_of_isDigit digit
  have noPlus : c ≠ '+' := by
    intro same
    subst same
    cases digit
  have noMinus : c ≠ '-' := by
    intro same
    subst same
    cases digit
  simp [isInner, visible, noPlus, noMinus]

def Inner (text : List Char) : Prop :=
  ∀ c ∈ text, isInner c = true

theorem inner_append_iff {first rest : List Char} :
    Inner (first ++ rest) ↔ Inner first ∧ Inner rest :=
  List.forall_mem_append

theorem inner_cons_iff {c : Char} {rest : List Char} :
    Inner (c :: rest) ↔ isInner c = true ∧ Inner rest :=
  List.forall_mem_cons

theorem DigitRun.inner {run : List Char} (digits : DigitRun run) : Inner run :=
  fun c member => isInner_of_isDigit (digits.digits c member)

theorem isInner_of_mem {marks : List Char} (all : marks.all isInner = true) {c : Char}
    (member : c ∈ marks) : isInner c = true :=
  List.all_eq_true.mp all c member

theorem inner_nil : Inner [] :=
  fun _ member => nomatch member

theorem NumberSpelling.inner {number : Option (List Char)} {text : List Char}
    (spelling : NumberSpelling number text) : Inner text := by
  cases spelling with
  | absent => exact inner_nil
  | present digits => exact digits.inner

theorem SizeToken.Spells.inner {size : SizeToken} {text : List Char}
    (spelling : size.Spells text) : Inner text := by
  cases spelling with
  | digits digits => exact digits.inner
  | percent => exact inner_cons_iff.mpr ⟨by decide, inner_nil⟩
  | fudge letter => exact inner_cons_iff.mpr ⟨isInner_of_mem (by decide) letter, inner_nil⟩

theorem FilterSpelling.inner {filter : Option FilterToken} {text : List Char}
    (spelling : FilterSpelling filter text) : Inner text := by
  cases spelling with
  | absent => exact inner_nil
  | @present kind side _ _ _ first second digits =>
      refine inner_cons_iff.mpr ⟨?_, inner_cons_iff.mpr ⟨?_, digits.inner⟩⟩
      · exact isInner_of_mem (by cases kind <;> decide) first
      · exact isInner_of_mem (by cases side <;> decide) second

theorem MarkedSpelling.inner {marks text : List Char} {number : Option (List Char)}
    (all : marks.all isInner = true) (spelling : MarkedSpelling marks number text) :
    Inner text := by
  cases spelling with
  | absent => exact inner_nil
  | present mark digits => exact inner_cons_iff.mpr ⟨isInner_of_mem all mark, digits.inner⟩

theorem inner_explodeText (explode : Bool) : Inner (explodeText explode) := by
  cases explode with
  | false => exact inner_nil
  | true => exact inner_cons_iff.mpr ⟨by decide, inner_nil⟩

theorem TermToken.Spells.inner {token : TermToken} {text : List Char}
    (spelling : token.Spells text) : Inner text := by
  cases spelling with
  | parts countSpelling dieLetter sizeSpelling filterSpelling rerollSpelling successSpelling =>
      simp only [inner_append_iff, inner_cons_iff]
      exact ⟨countSpelling.inner, isInner_of_mem (by decide) dieLetter, sizeSpelling.inner,
        filterSpelling.inner, rerollSpelling.inner (by decide), inner_explodeText token.explode,
        successSpelling.inner (by decide)⟩

theorem SizeToken.Spells.diePair {size : SizeToken} {text : List Char}
    (spelling : size.Spells text) {die : Char} (letter : die ∈ ['d', 'D']) :
    ∃ first rest, text = first :: rest ∧ DiePair die first := by
  cases spelling with
  | digits digits =>
      cases text with
      | nil => exact absurd rfl digits.nonempty
      | cons first rest =>
          exact ⟨first, rest, rfl, letter, .inl (digits.digits first List.mem_cons_self)⟩
  | percent => exact ⟨'%', [], rfl, letter, .inr (by decide)⟩
  | @fudge c mark => exact ⟨c, [], rfl, letter, .inr (List.mem_cons_of_mem '%' mark)⟩

theorem TermToken.Spells.hasDiePair {token : TermToken} {text : List Char}
    (spelling : token.Spells text) : HasDiePair text := by
  cases spelling with
  | @parts count die size filter reroll success _ dieLetter sizeSpelling =>
      obtain ⟨first, rest, rfl, pair⟩ := sizeSpelling.diePair dieLetter
      exact ⟨count, die, first, _, rfl, pair⟩

/-! ## Writing pieces -/

theorem Inner.operatorFree {text : List Char} (inner : Inner text) : OperatorFree text := by
  intro c member
  have plain := inner c member
  simp only [isInner, Bool.and_eq_true, bne_iff_ne] at plain
  exact ⟨plain.1.2, plain.2⟩

theorem Inner.visible {text : List Char} (inner : Inner text) :
    ∀ c ∈ text, Text.isBlank c = false := by
  intro c member
  have plain := inner c member
  simp only [isInner, Bool.and_eq_true, Bool.not_eq_true'] at plain
  exact plain.1.1

def Piece.written (piece : Piece) : List Char :=
  piece.sign.operator :: piece.text

theorem Piece.runs_append_flatMap {sign : Sign} {run : List Char} {pieces : List Piece}
    (free : OperatorFree run) (others : ∀ piece ∈ pieces, OperatorFree piece.text) :
    Piece.Runs sign (run ++ pieces.flatMap Piece.written) (⟨sign, run⟩ :: pieces) := by
  induction pieces generalizing sign run with
  | nil =>
      rw [List.flatMap_nil, List.append_nil]
      exact .last free
  | cons piece pieces ih =>
      obtain ⟨first, later⟩ := List.forall_mem_cons.mp others
      rw [List.flatMap_cons, Piece.written, List.cons_append]
      exact .operator free (ih first later)

theorem Piece.visible_flatMap {pieces : List Piece} (inner : ∀ piece ∈ pieces, Inner piece.text) :
    ∀ c ∈ pieces.flatMap Piece.written, Text.isBlank c = false := by
  intro c member
  obtain ⟨piece, inside, found⟩ := List.mem_flatMap.mp member
  rcases List.mem_cons.mp found with rfl | found
  · cases piece.sign <;> decide
  · exact (inner piece inside).visible c found

theorem Text.deleteBlanks_eq_self {text : List Char}
    (visible : ∀ c ∈ text, Text.isBlank c = false) : Text.deleteBlanks text = text := by
  unfold Text.deleteBlanks
  rw [List.filter_eq_self]
  intro c member
  rw [visible c member]
  rfl

/-- Written pieces are cut apart again. The plus sign of the first one may be left out. -/
theorem Piece.cuts_of_written {text : List Char} {pieces : List Piece}
    (inner : ∀ piece ∈ pieces, Inner piece.text) (present : ∀ piece ∈ pieces, piece.text ≠ [])
    (written : text = pieces.flatMap Piece.written ∨ '+' :: text = pieces.flatMap Piece.written) :
    Text.deleteBlanks text = text ∧ Piece.Cuts text pieces := by
  have visible := Piece.visible_flatMap inner
  have free : ∀ piece ∈ pieces, OperatorFree piece.text :=
    fun piece member => (inner piece member).operatorFree
  have kept : pieces.filter (fun run => run.text ≠ []) = pieces := by
    simpa using present
  rcases written with rfl | shortened
  · have compact := Text.deleteBlanks_eq_self visible
    refine ⟨compact, ⟨.plus, []⟩ :: pieces, ?_, ?_⟩
    · rw [compact, ← List.nil_append (pieces.flatMap Piece.written)]
      exact Piece.runs_append_flatMap (by simp [OperatorFree]) free
    · rw [List.filter_cons_of_neg (by simp), kept]
  · have compact : Text.deleteBlanks text = text := by
      rw [← shortened] at visible
      exact Text.deleteBlanks_eq_self (List.forall_mem_cons.mp visible).2
    refine ⟨compact, pieces, ?_, kept.symm⟩
    rw [compact]
    cases pieces with
    | nil => cases shortened
    | cons piece pieces =>
        obtain ⟨sign, run⟩ := piece
        rw [List.flatMap_cons, Piece.written, List.cons_append, List.cons.injEq] at shortened
        obtain ⟨operator, rfl⟩ := shortened
        obtain rfl : sign = .plus := by
          cases sign with
          | plus => rfl
          | minus => cases operator
        obtain ⟨first, later⟩ := List.forall_mem_cons.mp free
        exact Piece.runs_append_flatMap first later

end TabletopDice
