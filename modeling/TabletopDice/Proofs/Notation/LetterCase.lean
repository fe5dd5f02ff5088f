import TabletopDice.Proofs.Notation.FaultKind
import TabletopDice.Proofs.Text.LetterCase

/-!
Blanks and letter case in notation. The pieces are cut from the text without its blanks, and no
part of a token tells a capital from its small letter, so that texts which differ in nothing else
are read alike. Only the search for a die pair looks at the text as it stands.
-/

set_option autoImplicit false

namespace TabletopDice

open Sequencing Text

/-- The text without its blanks, in small letters. -/
def Text.folded (text : List Char) : List Char :=
  (deleteBlanks text).map Char.toLower

/-! ## Tokens -/

theorem DigitRun.of_sameLetters {run text : List Char} (digits : DigitRun run)
    (same : SameLetters run text) : text = run :=
  same.eq_of_digits digits.digits

theorem NumberSpelling.of_sameLetters {number : Option (List Char)} {text other : List Char}
    (spelling : NumberSpelling number text) (same : SameLetters text other) :
    NumberSpelling number other := by
  cases spelling with
  | absent =>
      obtain rfl := same.eq_nil
      exact .absent
  | present digits =>
      obtain rfl := digits.of_sameLetters same
      exact .present digits

theorem SizeToken.Spells.of_sameLetters {size : SizeToken} {text other : List Char}
    (spelling : size.Spells text) (same : SameLetters text other) : size.Spells other := by
  cases spelling with
  | digits digits =>
      obtain rfl := digits.of_sameLetters same
      exact .digits digits
  | percent =>
      obtain ⟨mark, rest, rfl, alike, restSame⟩ := same.exists_cons
      obtain rfl := restSame.eq_nil
      obtain rfl := List.mem_singleton.mp (mem_of_toLower_eq alike (List.mem_singleton_self '%'))
      exact .percent
  | fudge letter =>
      obtain ⟨mark, rest, rfl, alike, restSame⟩ := same.exists_cons
      obtain rfl := restSame.eq_nil
      exact .fudge (mem_of_toLower_eq alike letter)

theorem FilterSpelling.of_sameLetters {filter : Option FilterToken} {text other : List Char}
    (spelling : FilterSpelling filter text) (same : SameLetters text other) :
    FilterSpelling filter other := by
  cases spelling with
  | absent =>
      obtain rfl := same.eq_nil
      exact .absent
  | @present kind side _ _ _ firstLetter secondLetter digits =>
      obtain ⟨first, rest, rfl, firstAlike, restSame⟩ := same.exists_cons
      obtain ⟨second, run, rfl, secondAlike, runSame⟩ := restSame.exists_cons
      obtain rfl := digits.of_sameLetters runSame
      refine .present (mem_of_toLower_eq firstAlike firstLetter ?_)
        (mem_of_toLower_eq secondAlike secondLetter ?_) digits
      · cases kind <;> decide
      · cases side <;> decide

theorem MarkedSpelling.of_sameLetters {marks text other : List Char}
    {number : Option (List Char)} (caseless : Caseless marks.contains)
    (spelling : MarkedSpelling marks number text) (same : SameLetters text other) :
    MarkedSpelling marks number other := by
  cases spelling with
  | absent =>
      obtain rfl := same.eq_nil
      exact .absent
  | present mark digits =>
      obtain ⟨found, run, rfl, alike, runSame⟩ := same.exists_cons
      obtain rfl := digits.of_sameLetters runSame
      exact .present (mem_of_toLower_eq alike mark caseless) digits

theorem explodeText_of_sameLetters {explode : Bool} {text : List Char}
    (same : SameLetters (explodeText explode) text) : text = explodeText explode := by
  cases explode with
  | false => exact same.eq_nil
  | true =>
      obtain ⟨mark, rest, rfl, alike, restSame⟩ := same.exists_cons
      obtain rfl := restSame.eq_nil
      obtain rfl := List.mem_singleton.mp (mem_of_toLower_eq alike (List.mem_singleton_self '!'))
      rfl

theorem TermToken.Spells.of_sameLetters {token : TermToken} {text other : List Char}
    (spelling : token.Spells text) (same : SameLetters text other) : token.Spells other := by
  cases spelling with
  | parts countSpelling dieLetter sizeSpelling filterSpelling rerollSpelling successSpelling =>
      obtain ⟨count, _, rfl, countSame, same⟩ := same.exists_append
      obtain ⟨die, _, rfl, dieAlike, same⟩ := same.exists_cons
      obtain ⟨size, _, rfl, sizeSame, same⟩ := same.exists_append
      obtain ⟨filter, _, rfl, filterSame, same⟩ := same.exists_append
      obtain ⟨reroll, _, rfl, rerollSame, same⟩ := same.exists_append
      obtain ⟨explode, success, rfl, explodeSame, successSame⟩ := same.exists_append
      obtain rfl := explodeText_of_sameLetters explodeSame
      exact .parts (countSpelling.of_sameLetters countSame) (mem_of_toLower_eq dieAlike dieLetter)
        (sizeSpelling.of_sameLetters sizeSame) (filterSpelling.of_sameLetters filterSame)
        (rerollSpelling.of_sameLetters (by decide) rerollSame)
        (successSpelling.of_sameLetters (by decide) successSame)

theorem TermToken.read?_eq_of_sameLetters {first second : List Char}
    (same : SameLetters first second) : TermToken.read? first = TermToken.read? second := by
  refine Option.ext fun token => ?_
  rw [TermToken.read?_eq_some_iff, TermToken.read?_eq_some_iff]
  exact ⟨fun spelling => spelling.of_sameLetters same,
    fun spelling => spelling.of_sameLetters same.symm⟩

/-! ## Pieces -/

structure Piece.Alike (first second : Piece) : Prop where
  sign : first.sign = second.sign
  letters : SameLetters first.text second.text

theorem OperatorFree.of_sameLetters {run text : List Char} (free : OperatorFree run)
    (same : SameLetters run text) : OperatorFree text := by
  have others : ∀ c ∈ run, Sign.ofOperator? c = none :=
    fun c member => Sign.ofOperator?_eq_none_iff.mpr (free c member)
  have all : text.all (fun c => (Sign.ofOperator? c).isNone) = true := by
    rw [← same.all_eq (by decide)]
    exact List.all_eq_true.mpr fun c member => by rw [others c member]; rfl
  intro c member
  have none := Option.isNone_iff_eq_none.mp (List.all_eq_true.mp all c member)
  exact Sign.ofOperator?_eq_none_iff.mp none

/-- The operators stay where they are, so that the runs of two such texts correspond. -/
theorem Piece.Runs.of_sameLetters {sign : Sign} {text other : List Char} {runs : List Piece}
    (cut : Piece.Runs sign text runs) (same : SameLetters text other) :
    ∃ others, Piece.Runs sign other others ∧ List.Forall₂ Piece.Alike runs others := by
  induction cut generalizing other with
  | @last sign run free =>
      exact ⟨_, .last (free.of_sameLetters same), .cons ⟨rfl, same⟩ .nil⟩
  | @operator sign next run rest runs free _ ih =>
      obtain ⟨front, _, rfl, frontSame, same⟩ := same.exists_append
      obtain ⟨mark, back, rfl, alike, backSame⟩ := same.exists_cons
      have operator : mark = next.operator := by
        have caseless : Caseless Sign.ofOperator? := by decide
        have signs := caseless.eq alike
        rw [Sign.ofOperator?_operator] at signs
        exact Sign.ofOperator?_eq_some_iff.mp signs.symm
      obtain ⟨others, otherCut, runsAlike⟩ := ih backSame
      rw [operator]
      exact ⟨_, .operator (free.of_sameLetters frontSame) otherCut,
        .cons ⟨rfl, frontSame⟩ runsAlike⟩

theorem Piece.split_alike {first second : List Char} (same : folded first = folded second) :
    List.Forall₂ Piece.Alike (Piece.split first) (Piece.split second) := by
  obtain ⟨runs, cut, firstPieces⟩ := Piece.cuts_split first
  obtain ⟨others, otherCut, alike⟩ := cut.of_sameLetters same
  have secondPieces := Piece.cuts_iff_eq_split.mp ⟨others, otherCut, rfl⟩
  rw [firstPieces, ← secondPieces]
  refine List.rel_filter (fun run other runAlike => ?_) alike
  simpa using not_congr runAlike.letters.eq_nil_iff

/-! ## Reading -/

theorem Piece.Alike.item {first second : Piece} (alike : first.Alike second)
    (ceilings : Ceilings) :
    (first.item ceilings).mapError ParseFault.kind =
      (second.item ceilings).mapError ParseFault.kind := by
  unfold Piece.item
  rw [← TermToken.read?_eq_of_sameLetters alike.letters, alike.sign]
  split
  · rfl
  · have digits : first.text.all isDigit = second.text.all isDigit :=
      alike.letters.all_eq caseless_isDigit
    by_cases numeral : first.text.all isDigit = true
    · rw [alike.letters.eq_of_digits (List.all_eq_true.mp numeral)]
    · rw [if_neg numeral, if_neg (digits ▸ numeral)]
      rfl

theorem allBlank_iff_folded {text : List Char} : allBlank text = true ↔ folded text = [] := by
  rw [folded, List.map_eq_nil_iff, deleteBlanks, List.filter_eq_nil_iff, allBlank,
    List.all_eq_true]
  simp

section Folded

variable {ceilings : Ceilings} {first second : List Char}

theorem parse_kind_of_hasDiePair (same : folded first = folded second)
    (firstPair : HasDiePair first) (secondPair : HasDiePair second) :
    (Expression.parse ceilings first).mapError ParseFault.kind =
      (Expression.parse ceilings second).mapError ParseFault.kind := by
  rw [parse_of_hasDiePair firstPair, parse_of_hasDiePair secondPair, mapError_bind, mapError_bind,
    mapError_mapM_eq ((Piece.split_alike same).imp fun _ _ alike => alike.item ceilings)]

theorem parse_kind_of_not_hasDiePair (same : folded first = folded second)
    (firstAbsent : ¬ HasDiePair first) (secondAbsent : ¬ HasDiePair second) :
    (Expression.parse ceilings first).mapError ParseFault.kind =
      (Expression.parse ceilings second).mapError ParseFault.kind := by
  have blank : allBlank first = true ↔ allBlank second = true := by
    rw [allBlank_iff_folded, same, allBlank_iff_folded]
  rw [parse_of_not_hasDiePair firstAbsent, parse_of_not_hasDiePair secondAbsent]
  simp only [blank]
  split <;> rfl

theorem parse_kind_of_hasDiePair_left (same : folded first = folded second)
    (pair : HasDiePair first) (absent : ¬ HasDiePair second) :
    (Expression.parse ceilings second).mapError ParseFault.kind = .error .noDice := by
  have visible : ¬ allBlank second = true := by
    rw [allBlank_iff_folded, ← same, ← allBlank_iff_folded, allBlank_eq_false_of_hasDiePair pair]
    exact Bool.false_ne_true
  rw [parse_of_not_hasDiePair absent, if_neg visible]
  rfl

theorem parse_kind_ne_noDice (pair : HasDiePair first) :
    (Expression.parse ceilings first).mapError ParseFault.kind ≠ .error .noDice := by
  rw [parse_of_hasDiePair pair]
  cases read : (Piece.split first).mapM (Piece.item ceilings) with
  | ok items => exact nofun
  | error fault =>
      have within := (items_failsInPiece ceilings (Piece.split first) fault read).kind
      intro refused
      have noDice : fault.kind = .noDice := Except.error.inj refused
      rw [noDice] at within
      cases within

/-- Blanks and letter case make no difference to what is read or why it is refused, but for one:
a text may lack the die pair that another one has. -/
theorem parse_folded (same : folded first = folded second) :
    ((HasDiePair first ↔ HasDiePair second) →
      (Expression.parse ceilings first).mapError ParseFault.kind =
        (Expression.parse ceilings second).mapError ParseFault.kind) ∧
    (HasDiePair first → ¬ HasDiePair second →
      (Expression.parse ceilings first).mapError ParseFault.kind ≠ .error .noDice ∧
        (Expression.parse ceilings second).mapError ParseFault.kind = .error .noDice) := by
  refine ⟨fun both => ?_, fun pair absent =>
    ⟨parse_kind_ne_noDice pair, parse_kind_of_hasDiePair_left same pair absent⟩⟩
  by_cases pair : HasDiePair first
  · exact parse_kind_of_hasDiePair same pair (both.mp pair)
  · exact parse_kind_of_not_hasDiePair same pair fun other => pair (both.mpr other)

end Folded

/-- The first two texts each keep a die pair. In the third a blank has broken the only one. -/
theorem parse_folded_spread :
    (Expression.parse {} "2D6KH1 + d F".toList).mapError ParseFault.kind =
        (Expression.parse {} "2 d6 k h1+DF".toList).mapError ParseFault.kind ∧
      (Expression.parse {} "2d6".toList).mapError ParseFault.kind ≠ .error .noDice ∧
      (Expression.parse {} "2D 6".toList).mapError ParseFault.kind = .error .noDice := by
  have pair : ∀ text : List Char, hasDiePair text = true → HasDiePair text :=
    fun _ => hasDiePair_eq_true_iff.mp
  have broken : ¬ HasDiePair "2D 6".toList := by
    rw [← hasDiePair_eq_true_iff]
    decide
  have both := iff_of_true (pair "2D6KH1 + d F".toList (by decide))
    (pair "2 d6 k h1+DF".toList (by decide))
  exact ⟨(parse_folded (by decide)).1 both,
    (parse_folded (by decide)).2 (pair "2d6".toList (by decide)) broken⟩

end TabletopDice
