import TabletopDice.Proofs.Notation.CanonicalText

/-!
Which expressions notation can express. Whatever is read is expressible, and an expressible
expression has a canonical text that is read as nothing else.
-/

set_option autoImplicit false

namespace TabletopDice

open Sequencing

/-- A face of the term's dice that can be written; numbers in notation have no sign. -/
def Term.Names (term : Term) (face : Int) : Prop :=
  0 ≤ face ∧ term.minFace ≤ face ∧ face ≤ term.maxFace

theorem Term.Names.natAbs_le {term : Term} {face : Int} (named : term.Names face) :
    face.natAbs ≤ term.size.natAbs := by
  obtain ⟨nonnegative, -, atMost⟩ := named
  have within : term.maxFace ≤ term.size := by
    rw [maxFace, size]
    cases term.die with
    | sided size => exact Int.le_refl size
    | fudge => decide
  omega

/-- What notation can ask for under the ceilings. -/
structure Term.Expressible (ceilings : Ceilings) (term : Term) : Prop where
  count_pos : 1 ≤ term.magnitude
  count_le : (term.magnitude : Int) ≤ ceilings.maxDice
  size_pos : 1 ≤ term.size
  size_le : term.size ≤ ceilings.maxDieSize
  combination_le : term.magnitude * term.size ≤ ceilings.maxCombination
  fudge_size : term.isFudge = true → term.size = 3
  one_filter : term.draft.keep = none ∨ term.draft.drop = none
  filter : ∀ filter ∈ term.filter,
    1 ≤ filter.pick.count ∧ filter.pick.count ≤ term.magnitude - 1
  reroll : ∀ faces ∈ term.reroll, ∃ face, faces = {face} ∧ term.Names face
  success : ∀ least ∈ term.success, term.Names least

structure Expression.Expressible (ceilings : Ceilings) (expression : Expression) : Prop where
  dice : expression.dice ≠ []
  terms : ∀ term ∈ expression.dice, term.Expressible ceilings

/-! ## What has been read is expressible -/

theorem Die.eq_kind {die : Die} {size : SizeToken} (number : die.size = size.number)
    (fudge : (die == .fudge) = size.isFudge) : die = size.kind := by
  cases die with
  | sided count =>
      have sided : size.isFudge = false := fudge.symm
      simp only [SizeToken.kind, sided, Bool.false_eq_true, if_false, ← number]
      rfl
  | fudge =>
      have drawn : size.isFudge = true := fudge.symm
      simp only [SizeToken.kind, drawn, if_true]

theorem Term.one_filter (term : Term) : term.draft.keep = none ∨ term.draft.drop = none := by
  rw [Term.draft_eq]
  rcases term.filter with _ | pick | pick
  · exact .inl rfl
  · exact .inr rfl
  · exact .inl rfl

theorem Filter.eq_of_picks {first second : Option Filter}
    (keep : Filter.kept? first = Filter.kept? second)
    (drop : Filter.dropped? first = Filter.dropped? second) : first = second := by
  rcases first with _ | pick | pick <;> rcases second with _ | other | other <;>
    simp_all [Filter.kept?, Filter.dropped?]

theorem FilterKind.pick_filter (kind : FilterKind) (pick : Pick) :
    (kind.filter pick).pick = pick := by
  cases kind <;> rfl

namespace TermToken

variable {ceilings : Ceilings} {sign : Sign} {token : TermToken} {term : Term}

theorem die_eq (same : term.draft = token.parts sign) : term.die = token.size.kind :=
  Die.eq_kind (congrArg Draft.size same) (congrArg Draft.fudge same)

theorem names_iff (same : term.draft = token.parts sign) {run : List Char} :
    term.Names (Text.digitsValue run) ↔ token.HasFace run := by
  have least : term.minFace = token.size.leastFace := by
    rw [Term.minFace, die_eq same, SizeToken.minFace_kind]
  have greatest : term.maxFace = token.size.greatestFace := by
    rw [Term.maxFace, die_eq same, SizeToken.maxFace_kind]
  rw [Term.Names, HasFace, least, greatest]
  exact and_iff_right (Int.natCast_nonneg _)

theorem magnitude_eq (same : term.draft = token.parts sign) :
    (term.magnitude : Int) = token.number := by
  have signed : term.count = sign.apply token.number := congrArg Draft.count same
  have nonnegative : 0 ≤ token.number := by
    unfold number
    split
    · decide
    · exact Int.natCast_nonneg _
  rw [Term.magnitude, signed, Sign.natAbs_apply]
  exact Int.natAbs_of_nonneg nonnegative

theorem filter_eq (same : term.draft = token.parts sign) :
    term.filter = token.filter.map fun filter => filter.kind.filter filter.pick := by
  have keep : Filter.kept? term.filter = token.pickOf .keep := congrArg Draft.keep same
  have drop : Filter.dropped? term.filter = token.pickOf .drop := congrArg Draft.drop same
  rw [← kept?_filter] at keep
  rw [← dropped?_filter] at drop
  exact Filter.eq_of_picks keep drop

/-- The numbers of a token fit exactly when notation can express the term that they make. -/
theorem fits_iff_expressible (same : term.draft = token.parts sign) :
    token.Fits ceilings ↔ term.Expressible ceilings := by
  have count := magnitude_eq same
  have size : term.size = token.size.number := congrArg Draft.size same
  have reroll : term.reroll = token.reroll.map fun run => {(Text.digitsValue run : Int)} :=
    congrArg Draft.reroll same
  have success : term.success = token.success.map fun run => (Text.digitsValue run : Int) :=
    congrArg Draft.success same
  constructor
  · intro fits
    exact {
      count_pos := term.magnitude_pos
      count_le := by
        rw [count]
        exact fits.count_le
      size_pos := by
        rw [size]
        exact fits.size_pos
      size_le := by
        rw [size]
        exact fits.size_le
      combination_le := by
        rw [count, size]
        exact fits.combination_le
      fudge_size := by
        intro fudge
        rw [Term.isFudge, beq_iff_eq] at fudge
        rw [Term.size, fudge]
        rfl
      one_filter := term.one_filter
      filter := by
        intro filter present
        rw [filter_eq same] at present
        obtain ⟨written, found, rfl⟩ := Option.map_eq_some_iff.mp present
        have bounds := fits.filter written found
        rw [FilterKind.pick_filter]
        omega
      reroll := by
        intro faces present
        rw [reroll] at present
        obtain ⟨run, found, rfl⟩ := Option.map_eq_some_iff.mp present
        exact ⟨_, rfl, (names_iff same).mpr (fits.reroll run found)⟩
      success := by
        intro least present
        rw [success] at present
        obtain ⟨run, found, rfl⟩ := Option.map_eq_some_iff.mp present
        exact (names_iff same).mpr (fits.success run found) }
  · intro expressible
    exact {
      count_pos := by
        rw [← count]
        exact Int.ofNat_le.mpr expressible.count_pos
      count_le := by
        rw [← count]
        exact expressible.count_le
      size_pos := by
        rw [← size]
        exact expressible.size_pos
      size_le := by
        rw [← size]
        exact expressible.size_le
      combination_le := by
        rw [← count, ← size]
        exact expressible.combination_le
      filter := by
        intro written found
        have bounds := expressible.filter _ (by rw [filter_eq same, found]; rfl)
        rw [FilterKind.pick_filter] at bounds
        omega
      reroll := by
        intro run found
        obtain ⟨face, single, named⟩ :=
          expressible.reroll {(Text.digitsValue run : Int)} (by rw [reroll, found]; rfl)
        obtain rfl : (Text.digitsValue run : Int) = face :=
          List.singleton_inj.mp (congrArg FaceSet.values single)
        exact (names_iff same).mp named
      success := by
        intro run found
        exact (names_iff same).mp (expressible.success _ (by rw [success, found]; rfl)) }

end TermToken

theorem expressible_of_parse {ceilings : Ceilings} {text : List Char} {expression : Expression}
    (read : Expression.parse ceilings text = .ok expression) :
    expression.Expressible ceilings := by
  obtain ⟨pair, items, itemsRead, rfl⟩ := parse_eq_ok_iff_items.mp read
  refine ⟨ofItems_dice_ne_nil pair itemsRead, fun term member => ?_⟩
  obtain ⟨item, inside, found⟩ := List.mem_filterMap.mp member
  obtain ⟨piece, -, pieceRead⟩ := exists_mem_of_mapM_eq_ok itemsRead inside
  obtain ⟨acceptable, added⟩ := Piece.item_eq_ok_iff.mp pieceRead
  cases added with
  | number => cases found
  | term denotes =>
      cases found
      obtain ⟨token, spelling, same⟩ := denotes
      exact (TermToken.fits_iff_expressible same).mp (acceptable.fits token spelling)

/-! ## What is expressible can be written -/

namespace Text

def numeral (number : Int) : List Char :=
  number.natAbs.repr.toList

theorem digitRun_numeral (number : Int) : DigitRun (numeral number) :=
  ⟨repr_toList_ne_nil _, fun _ => isDigit_of_mem_repr⟩

theorem readable_numeral {number : Int} : Readable (numeral number) ↔ number.natAbs < writeBound :=
  length_repr_le_iff

theorem digitsValue_numeral {number : Int} (nonnegative : 0 ≤ number) :
    (digitsValue (numeral number) : Int) = number := by
  rw [numeral, digitsValue_repr]
  exact Int.natAbs_of_nonneg nonnegative

end Text

def Sign.ofInt (number : Int) : Sign :=
  if number < 0 then .minus else .plus

theorem Sign.apply_ofInt (number : Int) : (Sign.ofInt number).apply number.natAbs = number := by
  unfold Sign.ofInt
  split
  · exact Int.neg_eq_comm.mp (Int.ofNat_natAbs_of_nonpos (by omega)).symm
  · exact Int.natAbs_of_nonneg (by omega)

def SizeToken.ofDie : Die → SizeToken
  | .sided size => .digits (Text.numeral size)
  | .fudge => .fudge

def FilterToken.ofFilter : Filter → FilterToken
  | .keep pick => ⟨.keep, pick.side, Text.numeral pick.count⟩
  | .drop pick => ⟨.drop, pick.side, Text.numeral pick.count⟩

/-- The canonical token of a term. It names the number of dice even where there is only one. -/
def Term.token (term : Term) : TermToken where
  count := some (Text.numeral term.count)
  size := .ofDie term.die
  filter := term.filter.map .ofFilter
  -- An expressible term names one face only.
  reroll := term.reroll.map fun faces => faces.values.flatMap Text.numeral
  explode := term.explode
  success := term.success.map Text.numeral

def Term.piece (term : Term) : Piece :=
  ⟨.ofInt term.count, term.token.text⟩

/-- A modifier of zero is not written. -/
def modifierPieces (modifier : Int) : List Piece :=
  if modifier = 0 then [] else [⟨.ofInt modifier, Text.numeral modifier⟩]

def Expression.pieces (expression : Expression) : List Piece :=
  expression.dice.map Term.piece ++ modifierPieces expression.modifier

/-- The canonical text: every term behind its sign, then the signed modifier. -/
def Expression.canonical (expression : Expression) : List Char :=
  expression.pieces.flatMap Piece.written

namespace Term

variable {ceilings : Ceilings} {term : Term}

theorem number_ofDie {die : Die} (positive : 0 < die.size) :
    (SizeToken.ofDie die).number = die.size := by
  cases die with
  | sided size => exact Text.digitsValue_numeral (Int.le_of_lt positive)
  | fudge => rfl

theorem isFudge_ofDie (die : Die) : (SizeToken.ofDie die).isFudge = (die == .fudge) := by
  cases die <;> rfl

theorem number_token (term : Term) : term.token.number = term.magnitude := by
  change (Text.digitsValue (Text.numeral term.count) : Int) = term.magnitude
  rw [Text.numeral, Text.digitsValue_repr, magnitude]

theorem filter_ofFilter {filter : Filter} (positive : 0 < filter.pick.count) :
    (FilterToken.ofFilter filter).kind.filter (FilterToken.ofFilter filter).pick = filter := by
  have value := Text.digitsValue_numeral (Int.le_of_lt positive)
  cases filter with
  | keep pick => exact congrArg (Filter.keep ⟨pick.side, ·⟩) value
  | drop pick => exact congrArg (Filter.drop ⟨pick.side, ·⟩) value

theorem filter_token (expressible : term.Expressible ceilings) :
    (term.token.filter.map fun filter => filter.kind.filter filter.pick) = term.filter := by
  change (term.filter.map FilterToken.ofFilter).map _ = term.filter
  cases present : term.filter with
  | none => rfl
  | some filter => exact congrArg some (filter_ofFilter (expressible.filter filter present).1)

theorem flatMap_singleton (face : Int) :
    ({face} : FaceSet).values.flatMap Text.numeral = Text.numeral face :=
  List.append_nil (Text.numeral face)

theorem reroll_token (expressible : term.Expressible ceilings) :
    (term.token.reroll.map fun run => ({(Text.digitsValue run : Int)} : FaceSet)) =
      term.reroll := by
  change (term.reroll.map fun faces => faces.values.flatMap Text.numeral).map _ = term.reroll
  cases present : term.reroll with
  | none => rfl
  | some faces =>
      obtain ⟨face, rfl, named⟩ := expressible.reroll faces present
      rw [Option.map_some, Option.map_some, flatMap_singleton,
        Text.digitsValue_numeral named.1]

theorem success_token (expressible : term.Expressible ceilings) :
    (term.token.success.map fun run => (Text.digitsValue run : Int)) = term.success := by
  change (term.success.map Text.numeral).map _ = term.success
  cases present : term.success with
  | none => rfl
  | some least =>
      exact congrArg some (Text.digitsValue_numeral (expressible.success least present).1)

theorem draft_eq_parts (expressible : term.Expressible ceilings) :
    term.draft = term.token.parts (.ofInt term.count) := by
  have count : (Sign.ofInt term.count).apply term.token.number = term.count := by
    rw [number_token]
    exact Sign.apply_ofInt term.count
  have size : term.token.size.number = term.die.size := number_ofDie term.size_pos
  have fudge : term.token.size.isFudge = (term.die == .fudge) := isFudge_ofDie term.die
  rw [draft_eq, TermToken.parts, count, size, fudge, reroll_token expressible,
    success_token expressible, ← TermToken.kept?_filter, ← TermToken.dropped?_filter,
    filter_token expressible]
  rfl

/-- The canonical token has numerals only, none of them too long. -/
def Legible (term : Term) : Prop :=
  ∀ run ∈ term.token.groups,
    ∃ number : Int, number.natAbs < Text.writeBound ∧ run = Text.numeral number

/-- Every number of an expressible term is bounded by the number of dice or by their size. -/
theorem Expressible.legible (expressible : term.Expressible ceilings)
    (countShort : term.magnitude < Text.writeBound)
    (sizeShort : term.size.natAbs < Text.writeBound) : term.Legible := by
  have faceShort : ∀ {face : Int}, term.Names face → face.natAbs < Text.writeBound :=
    fun named => Nat.lt_of_le_of_lt named.natAbs_le sizeShort
  refine TermToken.forall_groups_iff.mpr ⟨?_, ?_, ?_, ?_, ?_⟩
  · intro run found
    cases found
    exact ⟨term.count, countShort, rfl⟩
  · intro run found
    have sizes : run ∈ (SizeToken.ofDie term.die).groups := found
    rw [size] at sizeShort
    cases die : term.die with
    | sided size =>
        rw [die] at sizes sizeShort
        obtain rfl := List.mem_singleton.mp sizes
        exact ⟨size, sizeShort, rfl⟩
    | fudge =>
        rw [die] at sizes
        cases sizes
  · intro written found
    obtain ⟨filter, present, rfl⟩ := Option.map_eq_some_iff.mp found
    have bounds := expressible.filter filter present
    refine ⟨filter.pick.count, by omega, ?_⟩
    cases filter <;> rfl
  · intro run found
    obtain ⟨faces, present, rfl⟩ := Option.map_eq_some_iff.mp found
    obtain ⟨face, rfl, named⟩ := expressible.reroll faces present
    exact ⟨face, faceShort named, flatMap_singleton face⟩
  · intro run found
    obtain ⟨least, present, rfl⟩ := Option.map_eq_some_iff.mp found
    exact ⟨least, faceShort (expressible.success least present), rfl⟩

theorem Legible.spells_token (legible : term.Legible) : term.token.Spells term.token.text := by
  refine TermToken.spells_text fun run inside => ?_
  obtain ⟨number, -, rfl⟩ := legible run inside
  exact Text.digitRun_numeral number

theorem item_piece (expressible : term.Expressible ceilings) (legible : term.Legible) :
    term.piece.item ceilings = .ok (.term term) := by
  have same := draft_eq_parts expressible
  refine (Piece.item_of_spells legible.spells_token).mpr
    ⟨⟨fun run inside => ?_, ?_⟩, term, same, rfl⟩
  · obtain ⟨number, short, rfl⟩ := legible run inside
    exact Text.readable_numeral.mpr short
  · exact (TermToken.fits_iff_expressible same).mpr expressible

end Term

theorem mapM_modifierPieces (ceilings : Ceilings) {modifier : Int}
    (short : modifier.natAbs < Text.writeBound) :
    ∃ items, (modifierPieces modifier).mapM (Piece.item ceilings) = .ok items ∧
      Expression.ofItems items = ⟨[], modifier⟩ := by
  unfold modifierPieces
  split
  · rename_i zero
    exact ⟨[], rfl, by rw [zero]; rfl⟩
  · have numeral : Piece.isNumeral ⟨.ofInt modifier, Text.numeral modifier⟩ = true :=
      List.all_eq_true.mpr (Text.digitRun_numeral modifier).digits
    have value : Piece.number ⟨.ofInt modifier, Text.numeral modifier⟩ = modifier := by
      rw [Piece.number, Text.numeral, Text.digitsValue_repr]
      exact Sign.apply_ofInt modifier
    have read : Piece.item ceilings ⟨.ofInt modifier, Text.numeral modifier⟩ =
        .ok (.number modifier) :=
      (Piece.item_of_isNumeral numeral).mpr ⟨Text.readable_numeral.mpr short, by rw [value]⟩
    refine ⟨[.number modifier], mapM_eq_ok_iff.mpr (.cons read .nil), ?_⟩
    rw [ofItems_cons_number]
    exact congrArg (Expression.mk []) (Int.add_zero modifier)

theorem mapM_terms_append {ceilings : Ceilings} {terms : List Term} {pieces : List Piece}
    {items : List Item} (each : ∀ term ∈ terms, term.piece.item ceilings = .ok (.term term))
    (later : pieces.mapM (Piece.item ceilings) = .ok items) :
    (terms.map Term.piece ++ pieces).mapM (Piece.item ceilings) =
      .ok (terms.map Item.term ++ items) := by
  rw [mapM_eq_ok_iff] at later ⊢
  refine List.rel_append ?_ later
  rw [List.forall₂_map_left_iff, List.forall₂_map_right_iff, List.forall₂_same]
  exact each

theorem ofItems_terms_append (terms : List Term) (items : List Item) :
    Expression.ofItems (terms.map Item.term ++ items) =
      ⟨terms ++ (Expression.ofItems items).dice, (Expression.ofItems items).modifier⟩ := by
  induction terms with
  | nil => rfl
  | cons term terms ih => rw [List.map_cons, List.cons_append, ofItems_cons_term, ih]; rfl

theorem Expression.inner_pieces {expression : Expression}
    (legible : ∀ term ∈ expression.dice, term.Legible) :
    ∀ piece ∈ expression.pieces, Inner piece.text ∧ piece.text ≠ [] := by
  refine List.forall_mem_append.mpr ⟨fun piece member => ?_, ?_⟩
  · obtain ⟨term, inside, rfl⟩ := List.mem_map.mp member
    have spelling := (legible term inside).spells_token
    exact ⟨spelling.inner, spelling.hasDiePair.ne_nil⟩
  · unfold modifierPieces
    split
    · exact fun _ member => nomatch member
    · have digits := Text.digitRun_numeral expression.modifier
      exact List.forall_mem_singleton.mpr ⟨digits.inner, digits.nonempty⟩

/-- What is read is expressible, and what is expressible is read from its canonical text. The plus
sign in front of the first term may be left out. -/
theorem parse_canonical (ceilings : Ceilings) :
    (∀ text expression, Expression.parse ceilings text = .ok expression →
      expression.Expressible ceilings) ∧
    ∀ expression : Expression, expression.Expressible ceilings →
      (∀ term ∈ expression.dice,
        term.magnitude < Text.writeBound ∧ term.size.natAbs < Text.writeBound) →
      expression.modifier.natAbs < Text.writeBound →
      ∀ text, text = expression.canonical ∨ '+' :: text = expression.canonical →
        Expression.parse ceilings text = .ok expression := by
  refine ⟨fun text expression => expressible_of_parse, ?_⟩
  intro expression expressible shortTerms shortModifier text written
  have legible : ∀ term ∈ expression.dice, term.Legible := fun term member =>
    (expressible.terms term member).legible (shortTerms term member).1 (shortTerms term member).2
  have inner := Expression.inner_pieces legible
  obtain ⟨compact, cuts⟩ := Piece.cuts_of_written (fun piece member => (inner piece member).1)
    (fun piece member => (inner piece member).2) written
  have pair : HasDiePair text := by
    obtain ⟨term, member⟩ := List.exists_mem_of_ne_nil _ expressible.dice
    have inside := cuts.isInfix term.piece (List.mem_append_left _ (List.mem_map_of_mem member))
    rw [compact] at inside
    exact hasDiePair_of_infix inside (legible term member).spells_token.hasDiePair
  obtain ⟨items, itemsRead, modifier⟩ := mapM_modifierPieces ceilings shortModifier
  refine parse_eq_ok_iff_items.mpr ⟨pair, expression.dice.map Item.term ++ items, ?_, ?_⟩
  · rw [← Piece.cuts_iff_eq_split.mp cuts]
    exact mapM_terms_append (fun term member =>
      Term.item_piece (expressible.terms term member) (legible term member)) itemsRead
  · rw [ofItems_terms_append, modifier, List.append_nil]

/-- Five dice of which three are kept, less three fudge dice, and seven. -/
def warband : Expression where
  dice := [
    ⟨5, .sided 12, some (.keep ⟨.highest, 3⟩), some {1}, true, some 5, by decide, by decide,
      by decide⟩,
    ⟨-3, .fudge, none, none, false, none, by decide, by decide, by decide⟩]
  modifier := 7

theorem parse_canonical_warband :
    Expression.parse {} "5d12kh3r1!>5-3dF+7".toList = .ok warband ∧ warband.Expressible {} := by
  have expressible : warband.Expressible {} := by
    refine ⟨by decide, List.forall_mem_cons.mpr ⟨?_, List.forall_mem_singleton.mpr ?_⟩⟩
    · refine ⟨by decide, by decide, by decide, by decide, by decide, by decide, .inr rfl, ?_, ?_,
        ?_⟩
      · intro filter present
        cases present
        decide
      · intro faces present
        cases present
        exact ⟨1, rfl, by decide, by decide, by decide⟩
      · intro least present
        cases present
        exact ⟨by decide, by decide, by decide⟩
    · exact ⟨by decide, by decide, by decide, by decide, by decide, by decide, .inl rfl,
        fun _ present => absurd present (Option.not_mem_none _),
        fun _ present => absurd present (Option.not_mem_none _),
        fun _ present => absurd present (Option.not_mem_none _)⟩
  have short : ∀ term ∈ warband.dice,
      term.magnitude < Text.writeBound ∧ term.size.natAbs < Text.writeBound :=
    List.forall_mem_cons.mpr
      ⟨⟨Text.lt_writeBound (by decide), Text.lt_writeBound (by decide)⟩,
        List.forall_mem_singleton.mpr
          ⟨Text.lt_writeBound (by decide), Text.lt_writeBound (by decide)⟩⟩
  have read := (parse_canonical {}).2 warband expressible short (Text.lt_writeBound (by decide))
    "5d12kh3r1!>5-3dF+7".toList (.inr (by decide))
  exact ⟨read, (parse_canonical {}).1 _ _ read⟩

end TabletopDice
