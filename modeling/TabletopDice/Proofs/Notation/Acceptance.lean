import TabletopDice.Proofs.Notation.DigitGroups
import TabletopDice.Proofs.Notation.PieceCut

/-!
Which notations are read, and as what. A notation with a die pair is read exactly when each of its
pieces is a number or a token whose numbers are short enough and fit. The terms then stand for the
tokens in their order, and the modifier is the signed sum of the numbers.
-/

set_option autoImplicit false

namespace TabletopDice

open Sequencing

def Piece.isNumeral (piece : Piece) : Bool :=
  piece.text.all Text.isDigit

def Piece.number (piece : Piece) : Int :=
  piece.sign.apply (Text.digitsValue piece.text)

/-- The term is the one that the token of the piece denotes. -/
def Piece.Denotes (piece : Piece) (term : Term) : Prop :=
  ∃ token : TermToken, token.Spells piece.text ∧ term.draft = token.parts piece.sign

/-- A piece that can be read under the given ceilings. -/
structure Piece.Acceptable (ceilings : Ceilings) (piece : Piece) : Prop where
  shaped : piece.isNumeral = true ∨ ∃ token : TermToken, token.Spells piece.text
  short : ShortDigits piece.text
  fits : ∀ token : TermToken, token.Spells piece.text → token.Fits ceilings

inductive Piece.Adds (piece : Piece) : Item → Prop where
  | number : piece.isNumeral = true → Adds piece (.number piece.number)
  | term {term} : piece.Denotes term → Adds piece (.term term)

theorem NotationFault.refuse_ne_ok {fault : NotationFault} {Result : Type} {result : Result} :
    fault.refuse ≠ .ok result := by
  unfold NotationFault.refuse
  cases fault.message <;> simp

theorem NotationFault.refuse_bind {fault : NotationFault} {First Result : Type}
    (later : First → Except ParseFault Result) : fault.refuse >>= later = fault.refuse := by
  unfold NotationFault.refuse
  cases fault.message <;> rfl

theorem TermToken.Spells.not_isNumeral {token : TermToken} {piece : Piece}
    (spelling : token.Spells piece.text) : piece.isNumeral = false :=
  spelling.not_digits

theorem Piece.not_spells_of_isNumeral {piece : Piece} (numeral : piece.isNumeral = true)
    (token : TermToken) : ¬ token.Spells piece.text := by
  intro spelling
  rw [spelling.not_isNumeral] at numeral
  cases numeral

theorem TermToken.read?_eq_none_iff {text : List Char} :
    TermToken.read? text = none ↔ ∀ token : TermToken, ¬ token.Spells text := by
  simp only [Option.eq_none_iff_forall_ne_some, ne_eq, TermToken.read?_eq_some_iff]

/-! ## Single pieces -/

theorem Piece.item_of_isNumeral {ceilings : Ceilings} {piece : Piece} {item : Item}
    (numeral : piece.isNumeral = true) :
    piece.item ceilings = .ok item ↔ Readable piece.text ∧ item = .number piece.number := by
  have noToken := TermToken.read?_eq_none_iff.mpr (Piece.not_spells_of_isNumeral numeral)
  have digits : (piece.text.all Text.isDigit) = true := numeral
  simp only [Piece.item, noToken, digits, ↓reduceIte, bind_eq_ok_iff, readNumber_eq_ok_iff,
    pure_eq_ok_iff]
  constructor
  · intro read
    obtain ⟨value, ⟨readable, rfl⟩, rfl⟩ := read
    exact ⟨readable, rfl⟩
  · intro read
    obtain ⟨readable, rfl⟩ := read
    exact ⟨_, ⟨readable, rfl⟩, rfl⟩

theorem Piece.item_of_spells {ceilings : Ceilings} {piece : Piece} {token : TermToken}
    {item : Item} (spelling : token.Spells piece.text) :
    piece.item ceilings = .ok item ↔
      ((∀ run ∈ token.groups, Readable run) ∧ token.Fits ceilings) ∧
        ∃ term : Term, term.draft = token.parts piece.sign ∧ item = .term term := by
  simp only [Piece.item, TermToken.read?_of_spells spelling, bind_eq_ok_iff, pure_eq_ok_iff,
    TermToken.term_eq_ok_iff]
  constructor
  · intro read
    obtain ⟨term, ⟨accepted, same⟩, rfl⟩ := read
    exact ⟨accepted, term, same, rfl⟩
  · intro read
    obtain ⟨accepted, term, same, rfl⟩ := read
    exact ⟨term, ⟨accepted, same⟩, rfl⟩

theorem Piece.item_ne_ok {ceilings : Ceilings} {piece : Piece} {item : Item}
    (noNumeral : piece.isNumeral = false)
    (noToken : ∀ token : TermToken, ¬ token.Spells piece.text) :
    piece.item ceilings ≠ .ok item := by
  have notDigits : ¬ piece.text.all Text.isDigit = true := by
    rw [show piece.text.all Text.isDigit = false from noNumeral]
    exact Bool.false_ne_true
  simp only [Piece.item, TermToken.read?_eq_none_iff.mpr noToken, if_neg notDigits]
  exact NotationFault.refuse_ne_ok

theorem Piece.item_eq_ok_iff {ceilings : Ceilings} {piece : Piece} {item : Item} :
    piece.item ceilings = .ok item ↔ piece.Acceptable ceilings ∧ piece.Adds item := by
  constructor
  · intro read
    by_cases spelled : ∃ token : TermToken, token.Spells piece.text
    · obtain ⟨token, spelling⟩ := spelled
      obtain ⟨⟨readable, fits⟩, term, same, rfl⟩ := (Piece.item_of_spells spelling).mp read
      refine ⟨⟨.inr ⟨token, spelling⟩, spelling.shortDigits_iff.mpr readable, ?_⟩,
        .term ⟨token, spelling, same⟩⟩
      intro other otherSpelling
      exact otherSpelling.unique spelling ▸ fits
    · have noToken := not_exists.mp spelled
      cases numeral : piece.isNumeral with
      | false => exact absurd read (Piece.item_ne_ok numeral noToken)
      | true =>
          obtain ⟨readable, rfl⟩ := (Piece.item_of_isNumeral numeral).mp read
          exact ⟨⟨.inl numeral, (shortDigits_of_digits (List.all_eq_true.mp numeral)).mpr readable,
            fun token spelling => absurd spelling (noToken token)⟩, .number numeral⟩
  · intro allowed
    obtain ⟨acceptable, added⟩ := allowed
    cases added with
    | number numeral =>
        have digits : ∀ c ∈ piece.text, Text.isDigit c = true := List.all_eq_true.mp numeral
        exact (Piece.item_of_isNumeral numeral).mpr
          ⟨(shortDigits_of_digits digits).mp acceptable.short, rfl⟩
    | term denotes =>
        obtain ⟨token, spelling, same⟩ := denotes
        exact (Piece.item_of_spells spelling).mpr
          ⟨⟨spelling.shortDigits_iff.mp acceptable.short, acceptable.fits token spelling⟩,
            _, same, rfl⟩

theorem Piece.Acceptable.exists_item {ceilings : Ceilings} {piece : Piece}
    (acceptable : piece.Acceptable ceilings) : ∃ item, piece.item ceilings = .ok item := by
  rcases acceptable.shaped with numeral | ⟨token, spelling⟩
  · exact ⟨_, Piece.item_eq_ok_iff.mpr ⟨acceptable, .number numeral⟩⟩
  · obtain ⟨term, same⟩ := TermToken.exists_check_parts piece.sign (acceptable.fits token spelling)
    exact ⟨.term term, Piece.item_eq_ok_iff.mpr
      ⟨acceptable, .term ⟨token, spelling, Draft.check_eq_ok_iff.mp same⟩⟩⟩

/-! ## All pieces of a notation -/

theorem exists_items_iff {ceilings : Ceilings} {pieces : List Piece} :
    (∃ items, pieces.mapM (Piece.item ceilings) = .ok items) ↔
      ∀ piece ∈ pieces, piece.Acceptable ceilings := by
  rw [exists_mapM_eq_ok_iff]
  refine forall₂_congr fun piece _ => ⟨fun read => ?_, Piece.Acceptable.exists_item⟩
  obtain ⟨item, read⟩ := read
  exact (Piece.item_eq_ok_iff.mp read).1

theorem ofItems_cons_number (value : Int) (items : List Item) :
    Expression.ofItems (.number value :: items) =
      { dice := (Expression.ofItems items).dice
        modifier := value + (Expression.ofItems items).modifier } := rfl

theorem ofItems_cons_term (term : Term) (items : List Item) :
    Expression.ofItems (.term term :: items) =
      { dice := term :: (Expression.ofItems items).dice
        modifier := (Expression.ofItems items).modifier } := by
  simp [Expression.ofItems, Item.value, Item.term?]

theorem ofItems_spec {ceilings : Ceilings} {pieces : List Piece} {items : List Item}
    (read : pieces.mapM (Piece.item ceilings) = .ok items) :
    List.Forall₂ Piece.Denotes (pieces.filter (!·.isNumeral)) (Expression.ofItems items).dice ∧
      (Expression.ofItems items).modifier =
        Number.sum ((pieces.filter (·.isNumeral)).map Piece.number) := by
  rw [mapM_eq_ok_iff] at read
  induction read with
  | nil => exact ⟨.nil, rfl⟩
  | @cons piece item pieces items first _ ih =>
      obtain ⟨dice, modifier⟩ := ih
      obtain ⟨-, added⟩ := Piece.item_eq_ok_iff.mp first
      cases added with
      | number numeral =>
          rw [ofItems_cons_number]
          exact ⟨by simpa [numeral] using dice, by simp [numeral, modifier]⟩
      | term denotes =>
          obtain ⟨token, spelling, same⟩ := denotes
          have noNumeral := spelling.not_isNumeral
          rw [ofItems_cons_term]
          exact ⟨by simpa [noNumeral] using ⟨⟨token, spelling, same⟩, dice⟩,
            by simp [noNumeral, modifier]⟩

/-- A die pair ensures that some piece is not a number, so that some term is read. -/
theorem ofItems_dice_ne_nil {ceilings : Ceilings} {text : List Char} {items : List Item}
    (pair : HasDiePair text) (read : (Piece.split text).mapM (Piece.item ceilings) = .ok items) :
    (Expression.ofItems items).dice ≠ [] := by
  intro empty
  obtain ⟨dice, -⟩ := ofItems_spec read
  rw [empty, List.forall₂_nil_right_iff, List.filter_eq_nil_iff] at dice
  obtain ⟨piece, member, found⟩ := Piece.exists_mem_split_hasDiePair pair
  exact dice piece member (by simpa [Piece.isNumeral] using not_digits_of_hasDiePair found)

/-- The stages of reading: two looks at the whole text, then its pieces, then their terms. -/
theorem parse_eq (ceilings : Ceilings) (text : List Char) :
    Expression.parse ceilings text =
      if Text.allBlank text = true then NotationFault.empty.refuse
      else if hasDiePair text = false then (NotationFault.noDice text).refuse
      else (Piece.split text).mapM (Piece.item ceilings) >>= fun items =>
        if (Expression.ofItems items).dice.isEmpty then (NotationFault.noDice text).refuse
        else pure (Expression.ofItems items) := by
  unfold Expression.parse
  simp only [NotationFault.refuse_bind, Bool.not_eq_true']

theorem parse_eq_ok_iff_items {ceilings : Ceilings} {text : List Char} {expression : Expression} :
    Expression.parse ceilings text = .ok expression ↔
      HasDiePair text ∧ ∃ items, (Piece.split text).mapM (Piece.item ceilings) = .ok items ∧
        expression = Expression.ofItems items := by
  rw [parse_eq]
  constructor
  · intro read
    split at read
    · exact absurd read NotationFault.refuse_ne_ok
    · split at read
      · exact absurd read NotationFault.refuse_ne_ok
      · rename_i present
        obtain ⟨items, itemsRead, read⟩ := bind_eq_ok_iff.mp read
        split at read
        · exact absurd read NotationFault.refuse_ne_ok
        · exact ⟨hasDiePair_eq_true_iff.mp (by simpa using present), items, itemsRead,
            (pure_eq_ok_iff.mp read).symm⟩
  · intro read
    obtain ⟨pair, items, itemsRead, rfl⟩ := read
    have dice := ofItems_dice_ne_nil pair itemsRead
    have visible := allBlank_eq_false_of_hasDiePair pair
    have present := hasDiePair_eq_true_iff.mpr pair
    rw [if_neg (by simp [visible]), if_neg (by simp [present]), itemsRead]
    exact if_neg (by simpa using dice)

theorem exists_parse_iff {ceilings : Ceilings} {text : List Char} :
    (∃ expression, Expression.parse ceilings text = .ok expression) ↔
      HasDiePair text ∧ ∀ piece ∈ Piece.split text, piece.Acceptable ceilings := by
  simp only [parse_eq_ok_iff_items, ← exists_items_iff]
  constructor
  · intro read
    obtain ⟨_, pair, items, itemsRead, _⟩ := read
    exact ⟨pair, items, itemsRead⟩
  · intro read
    obtain ⟨pair, items, itemsRead⟩ := read
    exact ⟨_, pair, items, itemsRead, rfl⟩

theorem Piece.shaped_iff {piece : Piece} (present : piece.text ≠ []) :
    (piece.isNumeral = true ∨ ∃ token : TermToken, token.Spells piece.text) ↔
      DigitRun piece.text ∨ ∃! token : TermToken, token.Spells piece.text := by
  refine or_congr ⟨fun numeral => ⟨present, List.all_eq_true.mp numeral⟩,
    fun run => List.all_eq_true.mpr run.digits⟩ ⟨fun spelled => ?_, ExistsUnique.exists⟩
  obtain ⟨token, spelling⟩ := spelled
  exact ⟨token, spelling, fun other otherSpelling => otherSpelling.unique spelling⟩

/-- Reading is exact. A notation falls into pieces in one way, and is read exactly when it has a
die pair, every piece is a number or spells one token, all runs of digits are short, and the
numbers of every token fit. The terms of the result are then those of the token pieces in order,
each with the sign of its piece, and the modifier sums the signed number pieces. -/
theorem parse_exact (ceilings : Ceilings) (text : List Char) :
    ∃ pieces, Piece.Cuts text pieces ∧ (∀ others, Piece.Cuts text others → others = pieces) ∧
      ((∃ expression, Expression.parse ceilings text = .ok expression) ↔
        HasDiePair text ∧
        (∀ piece ∈ pieces,
          DigitRun piece.text ∨ ∃! token, TermToken.Spells token piece.text) ∧
        (∀ piece ∈ pieces, ShortDigits piece.text) ∧
        ∀ piece ∈ pieces, ∀ token, TermToken.Spells token piece.text → token.Fits ceilings) ∧
      ∀ expression, Expression.parse ceilings text = .ok expression →
        List.Forall₂ Piece.Denotes (pieces.filter (!·.isNumeral)) expression.dice ∧
          expression.modifier = Number.sum ((pieces.filter (·.isNumeral)).map Piece.number) := by
  refine ⟨Piece.split text, Piece.cuts_split text, fun _ => Piece.cuts_iff_eq_split.mp, ?_, ?_⟩
  · rw [exists_parse_iff]
    constructor
    · intro accepted
      obtain ⟨pair, acceptable⟩ := accepted
      refine ⟨pair, fun piece member => ?_, fun piece member => (acceptable piece member).short,
        fun piece member => (acceptable piece member).fits⟩
      exact (Piece.shaped_iff (Piece.text_ne_nil_of_mem_split member)).mp
        (acceptable piece member).shaped
    · intro accepted
      obtain ⟨pair, shaped, short, fits⟩ := accepted
      refine ⟨pair, fun piece member => ⟨?_, short piece member, fits piece member⟩⟩
      exact (Piece.shaped_iff (Piece.text_ne_nil_of_mem_split member)).mpr (shaped piece member)
  · intro expression read
    obtain ⟨-, items, itemsRead, rfl⟩ := parse_eq_ok_iff_items.mp read
    exact ofItems_spec itemsRead

end TabletopDice
