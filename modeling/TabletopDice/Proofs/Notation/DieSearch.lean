import TabletopDice.Proofs.Notation.CanonicalText
import TabletopDice.Proofs.Notation.FaultKind

/-!
What is decided before the pieces of a notation are read. The text as it stands is searched for the
written form of a die; two neighbouring characters tell whether there is one. A blank text and a
text without a die are refused for just that and every other text for its pieces alone: a die that
was found lies within a piece, which is refused or read as a term, so that a last look for a term
behind the pieces never finds fault.
-/

set_option autoImplicit false

namespace TabletopDice

open Sequencing

/-! ## The search -/

/-- The form that a text is searched for: a die with its size, behind a count or none. -/
inductive DieSpelling : List Char → Prop where
  | parts {number token count die size} :
      NumberSpelling number count → die ∈ ['d', 'D'] → SizeToken.Spells token size →
      DieSpelling (count ++ die :: size)

/-- The search goes through the text from the left: a die is spelled at this place or found behind
the next character. -/
inductive FindsDie : List Char → Prop where
  | here {found rest} : DieSpelling found → FindsDie (found ++ rest)
  | later {c rest} : FindsDie rest → FindsDie (c :: rest)

theorem DieSpelling.hasDiePair {text : List Char} (spelling : DieSpelling text) :
    HasDiePair text := by
  cases spelling with
  | @parts _ _ count die size _ letter sizeSpelling =>
      obtain ⟨first, rest, rfl, pair⟩ := sizeSpelling.diePair letter
      exact ⟨count, die, first, rest, rfl, pair⟩

/-- One character of the size is enough for a spelling, whatever size the text goes on to name. -/
theorem DiePair.dieSpelling {die next : Char} (pair : DiePair die next) :
    DieSpelling [die, next] := by
  obtain ⟨letter, digit | mark⟩ := pair
  · have run : DigitRun [next] := ⟨List.cons_ne_nil next [], List.forall_mem_singleton.mpr digit⟩
    exact .parts .absent letter (.digits run)
  · rcases List.mem_cons.mp mark with rfl | fudge
    · exact .parts .absent letter .percent
    · exact .parts .absent letter (.fudge fudge)

/-- The digits in front of a die make no difference to the search, nor does the end of its size. -/
theorem findsDie_iff_hasDiePair {text : List Char} : FindsDie text ↔ HasDiePair text := by
  constructor
  · intro finds
    induction finds with
    | here spelling =>
        exact hasDiePair_of_infix (List.prefix_append _ _).isInfix spelling.hasDiePair
    | later _ ih => exact hasDiePair_cons ih
  · intro pair
    obtain ⟨before, die, next, after, rfl, found⟩ := pair
    -- The search gets to the pair itself, if not to digits in front of it.
    induction before with
    | nil =>
        change FindsDie ([die, next] ++ after)
        exact .here found.dieSpelling
    | cons c before ih => exact .later ih

/-! ## The pieces -/

/-- What becomes of pieces that are read one after the other: the first one at fault ends the
reading, or all are read and at least one of them as a term. -/
inductive PiecesEnd (ceilings : Ceilings) (pieces : List Piece) :
    Except ParseFault (List Item) → Prop where
  | refused {before piece after fault} : pieces = before ++ piece :: after →
      (∀ earlier ∈ before, ∃ item, earlier.item ceilings = .ok item) →
      piece.item ceilings = .error fault → PiecesEnd ceilings pieces (.error fault)
  | read {items term} :
      List.Forall₂ (fun piece item => piece.item ceilings = .ok item) pieces items →
      .term term ∈ items → PiecesEnd ceilings pieces (.ok items)

section Pieces

variable {ceilings : Ceilings}

/-- A die letter is no digit, so that the piece is no number. -/
theorem Piece.exists_term_of_hasDiePair {piece : Piece} {item : Item}
    (pair : HasDiePair piece.text) (read : piece.item ceilings = .ok item) :
    ∃ term, item = .term term := by
  obtain ⟨-, added⟩ := Piece.item_eq_ok_iff.mp read
  cases added with
  | number numeral =>
      rw [Piece.isNumeral, not_digits_of_hasDiePair pair] at numeral
      cases numeral
  | @term term _ => exact ⟨term, rfl⟩

theorem piecesEnd_of_mem {pieces : List Piece} {piece : Piece} (member : piece ∈ pieces)
    (pair : HasDiePair piece.text) :
    PiecesEnd ceilings pieces (pieces.mapM (Piece.item ceilings)) := by
  cases outcome : pieces.mapM (Piece.item ceilings) with
  | error fault =>
      obtain ⟨before, piece, after, same, earlier, failed⟩ := mapM_eq_error_iff.mp outcome
      exact .refused same earlier failed
  | ok items =>
      obtain ⟨item, inside, read⟩ := exists_result_of_mapM_eq_ok outcome member
      obtain ⟨term, rfl⟩ := Piece.exists_term_of_hasDiePair pair read
      exact .read (mapM_eq_ok_iff.mp outcome) inside

end Pieces

/-! ## The whole text -/

section Whole

variable {ceilings : Ceilings} {text : List Char}

theorem allBlank_iff : Text.allBlank text = true ↔ ∀ c ∈ text, Text.isBlank c = true :=
  List.all_eq_true

theorem not_allBlank_iff :
    ¬ Text.allBlank text = true ↔ ∃ c ∈ text, Text.isBlank c = false := by
  rw [allBlank_iff]
  simp

/-- A fault that no piece can have is one of the whole text, and only a text without a die has
one. -/
theorem parse_eq_refused_iff {fault : NotationFault} (whole : fault.kind.ofPiece = false) :
    Expression.parse ceilings text = .error (.refused fault) ↔
      ¬ HasDiePair text ∧ fault = if Text.allBlank text = true then .empty else .noDice text := by
  by_cases pair : HasDiePair text
  · rw [parse_eq_error_iff_items pair]
    refine iff_of_false (fun failed => ?_) fun refused => refused.1 pair
    have within := (items_failsInPiece ceilings _ _ failed).kind
    rw [show (ParseFault.refused fault).kind = fault.kind from rfl, whole] at within
    cases within
  · rw [parse_of_not_hasDiePair pair, Except.error.injEq, ParseFault.refused.injEq, eq_comm,
      and_iff_right pair]

theorem parse_eq_empty_iff :
    Expression.parse ceilings text = .error (.refused .empty) ↔
      ∀ c ∈ text, Text.isBlank c = true := by
  rw [parse_eq_refused_iff rfl, ← allBlank_iff]
  constructor
  · intro refused
    obtain ⟨-, same⟩ := refused
    split at same
    · assumption
    · cases same
  · intro blank
    refine ⟨fun pair => ?_, (if_pos blank).symm⟩
    rw [allBlank_eq_false_of_hasDiePair pair] at blank
    cases blank

theorem parse_eq_noDice_iff {shown : List Char} :
    Expression.parse ceilings text = .error (.refused (.noDice shown)) ↔
      shown = text ∧ (∃ c ∈ text, Text.isBlank c = false) ∧ ¬ HasDiePair text := by
  rw [parse_eq_refused_iff rfl, ← not_allBlank_iff]
  constructor
  · intro refused
    obtain ⟨absent, same⟩ := refused
    split at same
    · cases same
    · rename_i visible
      cases same
      exact ⟨rfl, visible, absent⟩
  · intro refused
    obtain ⟨rfl, visible, absent⟩ := refused
    exact ⟨absent, (if_neg visible).symm⟩

theorem FindsDie.piecesEnd (finds : FindsDie text) :
    PiecesEnd ceilings (Piece.split text)
      ((Piece.split text).mapM (Piece.item ceilings)) := by
  obtain ⟨piece, member, pair⟩ :=
    Piece.exists_mem_split_hasDiePair (findsDie_iff_hasDiePair.mp finds)
  exact piecesEnd_of_mem member pair

end Whole

/-- Reading without the last look for a term. -/
def Expression.parseOnTrust (ceilings : Ceilings) (text : List Char) :
    Except ParseFault Expression := do
  if Text.allBlank text then NotationFault.empty.refuse
  if !hasDiePair text then (NotationFault.noDice text).refuse
  let items ← (Piece.split text).mapM (Piece.item ceilings)
  return Expression.ofItems items

theorem parse_eq_parseOnTrust (ceilings : Ceilings) (text : List Char) :
    Expression.parse ceilings text = Expression.parseOnTrust ceilings text := by
  have trusting : Expression.parseOnTrust ceilings text =
      if Text.allBlank text = true then NotationFault.empty.refuse
      else if hasDiePair text = false then (NotationFault.noDice text).refuse
      else (Piece.split text).mapM (Piece.item ceilings) >>= fun items =>
        pure (Expression.ofItems items) := by
    unfold Expression.parseOnTrust
    simp only [NotationFault.refuse_bind, Bool.not_eq_true']
  rw [trusting, parse_eq]
  split
  · rfl
  · split
    · rfl
    · rename_i present
      have pair := hasDiePair_eq_true_iff.mp (by simpa using present)
      cases read : (Piece.split text).mapM (Piece.item ceilings) with
      | error fault => rfl
      | ok items =>
          -- The pieces that were read have the found die among them.
          exact if_neg (by simpa using ofItems_dice_ne_nil pair read)

/-- What is refused as blank or as being without dice, and why nothing is left to look for behind
the pieces. -/
theorem parse_refuses_diceless (ceilings : Ceilings) (text : List Char) :
    (Expression.parse ceilings text = .error (.refused .empty) ↔
      ∀ c ∈ text, Text.isBlank c = true) ∧
    (∀ shown, Expression.parse ceilings text = .error (.refused (.noDice shown)) ↔
      shown = text ∧ (∃ c ∈ text, Text.isBlank c = false) ∧ ¬ HasDiePair text) ∧
    (FindsDie text ↔ HasDiePair text) ∧
    (FindsDie text → PiecesEnd ceilings (Piece.split text)
      ((Piece.split text).mapM (Piece.item ceilings))) ∧
    Expression.parse ceilings text = Expression.parseOnTrust ceilings text := by
  refine ⟨parse_eq_empty_iff, fun shown => parse_eq_noDice_iff, findsDie_iff_hasDiePair, ?_,
    parse_eq_parseOnTrust ceilings text⟩
  intro finds
  exact finds.piecesEnd

/-- A blank text, a text that spells out its dice, and one in which the piece with the die is no
token. -/
theorem parse_refuses_diceless_misspelt :
    Expression.parse {} " \t\n".toList = .error (.refused .empty) ∧
      Expression.parse {} "two dice".toList = .error (.refused (.noDice "two dice".toList)) ∧
      FindsDie "7 + 12D%x - 1".toList ∧
      PiecesEnd {} (Piece.split "7 + 12D%x - 1".toList)
        ((Piece.split "7 + 12D%x - 1".toList).mapM (Piece.item {})) := by
  have blank := (parse_refuses_diceless {} " \t\n".toList).1.mpr (allBlank_iff.mp rfl)
  have visible : ∃ c ∈ "two dice".toList, Text.isBlank c = false :=
    not_allBlank_iff.mp (by decide)
  have spelled : ¬ HasDiePair "two dice".toList :=
    fun pair => absurd (hasDiePair_eq_true_iff.mpr pair) (by decide)
  have noDice := ((parse_refuses_diceless {} "two dice".toList).2.1 _).mpr ⟨rfl, visible, spelled⟩
  have finds : FindsDie "7 + 12D%x - 1".toList :=
    findsDie_iff_hasDiePair.mpr (hasDiePair_eq_true_iff.mp (by decide))
  obtain ⟨-, -, -, ends, -⟩ := parse_refuses_diceless {} "7 + 12D%x - 1".toList
  exact ⟨blank, noDice, finds, ends finds⟩

end TabletopDice
