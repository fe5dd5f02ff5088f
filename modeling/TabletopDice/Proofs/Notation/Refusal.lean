import TabletopDice.Proofs.Notation.Acceptance

/-!
Why a notation is refused. `TermToken.faults` lists what is wrong with the numbers of a token in the
order in which it is looked for, and a computation that `Reports` some faults is refused for the
first of them. The pieces of a notation are read in order, so that the first piece with a fault
decides; what stands behind it is not looked at.
-/

set_option autoImplicit false

namespace TabletopDice

open Sequencing

/-- The computation is refused for the first of the faults, and succeeds if there is none. -/
inductive Reports {Result : Type} : Except ParseFault Result → List NotationFault → Prop where
  | passed (result : Result) : Reports (.ok result) []
  | refused (first : NotationFault) (rest : List NotationFault) :
      Reports (.error (.refused first)) (first :: rest)

def faultIf (broken : Prop) [Decidable broken] (fault : NotationFault) : List NotationFault :=
  if broken then [fault] else []

def NotationFault.Legible (fault : NotationFault) : Prop :=
  ∀ number ∈ fault.numbers, number.natAbs < Text.writeBound

/-! ## Reports of single steps -/

section Steps

variable {Value Result : Type}

theorem Reports.bind {step : Except ParseFault Value} {later : Value → Except ParseFault Result}
    {faults others : List NotationFault} (reported : Reports step faults)
    (continued : ∀ value, step = .ok value → Reports (later value) others) :
    Reports (step >>= later) (faults ++ others) := by
  cases reported with
  | passed value => exact continued value rfl
  | refused first rest => exact .refused first (rest ++ others)

theorem Reports.bind_ok {step : Except ParseFault Value} {later : Value → Except ParseFault Result}
    {faults : List NotationFault} {value : Value} (passed : step = .ok value)
    (continued : Reports (later value) faults) : Reports (step >>= later) faults := by
  subst passed
  exact continued

theorem Reports.bind_pure {step : Except ParseFault Value} {faults : List NotationFault}
    (reported : Reports step faults) (view : Value → Result) :
    Reports (step >>= fun value => pure (view value)) faults := by
  cases reported with
  | passed value => exact .passed (view value)
  | refused first rest => exact .refused first rest

theorem Reports.option_mapM {step : Value → Except ParseFault Result}
    {faults : Value → List NotationFault} {value? : Option Value}
    (each : ∀ value ∈ value?, Reports (step value) (faults value)) :
    Reports (value?.mapM step) (value?.elim [] faults) := by
  cases value? with
  | none => exact .passed none
  | some value =>
      have mapped : (some value).mapM step = some <$> step value := rfl
      have reported := each value rfl
      rw [mapped, Option.elim]
      generalize step value = outcome, faults value = found at reported
      cases reported with
      | passed result => exact .passed (some result)
      | refused first rest => exact .refused first rest

theorem Reports.exists_ok {step : Except ParseFault Result} (reported : Reports step []) :
    ∃ result, step = .ok result := by
  cases reported with
  | passed result => exact ⟨result, rfl⟩

theorem Reports.eq_error {step : Except ParseFault Result} {first : NotationFault}
    {rest : List NotationFault} (reported : Reports step (first :: rest)) :
    step = .error (.refused first) := by
  cases reported
  rfl

theorem Reports.faults_eq_nil {step : Except ParseFault Result} {faults : List NotationFault}
    {result : Result} (reported : Reports step faults) (passed : step = .ok result) :
    faults = [] := by
  cases reported with
  | passed => rfl
  | refused => cases passed

theorem Reports.eq_refused {step : Except ParseFault Result} {faults : List NotationFault}
    {fault : ParseFault} (reported : Reports step faults) (failed : step = .error fault) :
    ∃ first rest, faults = first :: rest ∧ fault = .refused first := by
  cases reported with
  | passed => cases failed
  | refused first rest =>
      cases failed
      exact ⟨first, rest, rfl, rfl⟩

theorem NotationFault.refuse_eq {fault : NotationFault} (legible : fault.Legible) :
    (fault.refuse : Except ParseFault Result) = .error (.refused fault) := by
  obtain ⟨text, written⟩ := exists_message legible
  rw [refuse, written]

theorem reports_require {condition broken : Prop} [Decidable condition] [Decidable broken]
    {fault : NotationFault} (opposite : ¬ condition ↔ broken)
    (legible : broken → fault.Legible) :
    Reports (require condition fault) (faultIf broken fault) := by
  by_cases held : condition
  · rw [require, if_pos held, faultIf, if_neg fun found => opposite.mpr found held]
    exact .passed ()
  · have found := opposite.mp held
    rw [require, if_neg held, faultIf, if_pos found, NotationFault.refuse_eq (legible found)]
    exact .refused fault []

theorem Reports.require_bind {condition broken : Prop} [Decidable condition] [Decidable broken]
    {fault : NotationFault} {later : Unit → Except ParseFault Result}
    {others : List NotationFault} (opposite : ¬ condition ↔ broken)
    (legible : broken → fault.Legible) (continued : condition → Reports (later ()) others) :
    Reports (require condition fault >>= later) (faultIf broken fault ++ others) :=
  .bind (reports_require opposite legible) fun _ passed =>
    continued (require_eq_ok_iff.mp passed)

end Steps

/-! ## The numbers of a token -/

/-- The limits are below the bound, on either side of zero. -/
structure Ceilings.Below (bound : Nat) (ceilings : Ceilings) : Prop where
  dice : ceilings.maxDice.natAbs < bound
  dieSize : ceilings.maxDieSize.natAbs < bound
  combination : ceilings.maxCombination.natAbs < bound

theorem Ceilings.Below.le_writeBound {bound : Nat} {ceilings : Ceilings}
    (moderate : ceilings.Below bound) (room : bound * bound ≤ Text.writeBound) :
    bound ≤ Text.writeBound :=
  Nat.le_trans (Nat.le_mul_of_pos_left bound (Nat.zero_lt_of_lt moderate.dice)) room

namespace TermToken

instance (token : TermToken) (run : List Char) : Decidable (token.HasFace run) :=
  inferInstanceAs (Decidable (_ ∧ _))

def filterFaults (token : TermToken) (filter : FilterToken) : List NotationFault :=
  faultIf (filter.pick.count ≤ 0) (.filterCount filter.kind filter.pick.count) ++
    faultIf (token.number ≤ filter.pick.count)
      (.filterExceedsDice filter.kind filter.pick.count token.number)

def faceFaults (token : TermToken) (fault : Int → Int → Int → NotationFault) (run : List Char) :
    List NotationFault :=
  faultIf (¬ token.HasFace run)
    (fault (Text.digitsValue run) token.size.leastFace token.size.greatestFace)

/-- What is wrong with the numbers of a token, in the order in which it is looked for. -/
def faults (ceilings : Ceilings) (token : TermToken) : List NotationFault :=
  [faultIf (token.number ≤ 0) (.diceCount token.number),
    faultIf (ceilings.maxDice < token.number) (.tooManyDice token.number ceilings.maxDice),
    faultIf (token.size.number ≤ 0) (.dieSize token.size.number),
    faultIf (ceilings.maxDieSize < token.size.number)
      (.dieTooLarge token.size.number ceilings.maxDieSize),
    faultIf (ceilings.maxCombination < token.number * token.size.number)
      (.combinationTooLarge token.number token.size.number ceilings.maxCombination),
    token.filter.elim [] token.filterFaults,
    token.reroll.elim [] (token.faceFaults .rerollFace),
    token.success.elim [] (token.faceFaults .successThreshold)].flatten

/-- Every run of digits can be read, and the number it denotes can be written. -/
structure Measured (token : TermToken) : Prop where
  readable : ∀ run ∈ token.groups, Readable run
  writable : ∀ run ∈ token.groups, Text.digitsValue run < Text.writeBound

section Numbers

variable {token : TermToken}

theorem Measured.number_lt (measured : token.Measured) :
    token.number.natAbs < Text.writeBound := by
  have runs := (forall_groups_iff.mp measured.writable).1
  unfold number
  cases present : token.count with
  | none => exact Text.lt_writeBound (by decide)
  | some run => exact runs run present

theorem Measured.size_lt (measured : token.Measured) :
    token.size.number.natAbs < Text.writeBound := by
  have runs := (forall_groups_iff.mp measured.writable).2.1
  cases size : token.size with
  | digits run => exact runs run (by simp [size, SizeToken.groups])
  | percent => exact Text.lt_writeBound (by decide)
  | fudge => exact Text.lt_writeBound (by decide)

theorem leastFace_lt (token : TermToken) : token.size.leastFace.natAbs < Text.writeBound := by
  unfold SizeToken.leastFace
  split <;> exact Text.lt_writeBound (by decide)

theorem Measured.greatestFace_lt (measured : token.Measured) :
    token.size.greatestFace.natAbs < Text.writeBound := by
  unfold SizeToken.greatestFace
  split
  · exact Text.lt_writeBound (by decide)
  · exact measured.size_lt

/-- Dice and sizes within the limits have a product that can be written. -/
theorem combination_lt {ceilings : Ceilings} {bound : Nat} (moderate : ceilings.Below bound)
    (room : bound * bound ≤ Text.writeBound) (dicePos : 0 < token.number)
    (diceLe : token.number ≤ ceilings.maxDice) (sizePos : 0 < token.size.number)
    (sizeLe : token.size.number ≤ ceilings.maxDieSize) :
    (token.number * token.size.number).natAbs < Text.writeBound := by
  have dice : token.number.natAbs < bound := by
    have limit := moderate.dice
    omega
  have size : token.size.number.natAbs < bound := by
    have limit := moderate.dieSize
    omega
  rw [Int.natAbs_mul]
  exact Nat.lt_of_lt_of_le (Nat.mul_lt_mul'' dice size) room

end Numbers

/-! ## Reports of tokens -/

section Tokens

variable {token : TermToken} {ceilings : Ceilings} {bound : Nat}

theorem readFilter_reports (measured : token.Measured) {filter : FilterToken}
    (present : filter ∈ token.filter) :
    Reports (readFilter token.number filter) (token.filterFaults filter) := by
  have readable := (forall_groups_iff.mp measured.readable).2.2.1 filter present
  have writable : (Text.digitsValue filter.digits : Int).natAbs < Text.writeBound :=
    (forall_groups_iff.mp measured.writable).2.2.1 filter present
  refine .bind_ok (readNumber_eq_ok_iff.mpr ⟨readable, rfl⟩) ?_
  refine .require_bind Int.not_lt (fun _ => ?_) fun _ => ?_
  · simpa [NotationFault.Legible, NotationFault.numbers] using writable
  · refine Reports.bind_pure (reports_require Int.not_lt fun _ => ?_) _
    simpa [NotationFault.Legible, NotationFault.numbers] using ⟨writable, measured.number_lt⟩

theorem readFace_reports {fault : Int → Int → Int → NotationFault}
    (shown : ∀ face least greatest, (fault face least greatest).numbers = [face, least, greatest])
    (measured : token.Measured) {run : List Char} (readable : Readable run)
    (writable : Text.digitsValue run < Text.writeBound) :
    Reports (readFace token.size.kind fault run) (token.faceFaults fault run) := by
  refine .bind_ok (readNumber_eq_ok_iff.mpr ⟨readable, rfl⟩) ?_
  rw [SizeToken.minFace_kind, SizeToken.maxFace_kind]
  refine Reports.bind_pure (reports_require Iff.rfl fun _ => ?_) _
  rw [NotationFault.Legible, shown]
  simpa using ⟨writable, token.leastFace_lt, measured.greatestFace_lt⟩

/-- The checks of a token find its faults in order. Whether a product can be written is known only
where the checks of its factors have passed. -/
theorem draft_reports (moderate : ceilings.Below bound) (room : bound * bound ≤ Text.writeBound)
    (measured : token.Measured) (sign : Sign) :
    Reports (token.draft ceilings sign) (token.faults ceilings) := by
  obtain ⟨countReadable, sizeReadable, -, rerollReadable, successReadable⟩ :=
    forall_groups_iff.mp measured.readable
  obtain ⟨-, -, -, rerollWritable, successWritable⟩ := forall_groups_iff.mp measured.writable
  have number := measured.number_lt
  have size := measured.size_lt
  have below : ∀ {ceiling : Int}, ceiling.natAbs < bound → ceiling.natAbs < Text.writeBound :=
    fun small => Nat.lt_of_lt_of_le small (moderate.le_writeBound room)
  refine .bind_ok (diceCount_eq_ok_iff.mpr ⟨countReadable, rfl⟩) ?_
  refine .bind_ok (SizeToken.die_eq_ok_iff.mpr ⟨sizeReadable, rfl⟩) ?_
  rw [SizeToken.size_kind]
  refine .require_bind Int.not_lt (fun _ => ?_) fun dicePos => ?_
  · simpa [NotationFault.Legible, NotationFault.numbers] using number
  refine .require_bind Int.not_le (fun _ => ?_) fun diceLe => ?_
  · simpa [NotationFault.Legible, NotationFault.numbers] using ⟨number, below moderate.dice⟩
  refine .require_bind Int.not_lt (fun _ => ?_) fun sizePos => ?_
  · simpa [NotationFault.Legible, NotationFault.numbers] using size
  refine .require_bind Int.not_le (fun _ => ?_) fun sizeLe => ?_
  · simpa [NotationFault.Legible, NotationFault.numbers] using ⟨size, below moderate.dieSize⟩
  refine .require_bind Int.not_le (fun _ => ?_) fun _ => ?_
  · simpa [NotationFault.Legible, NotationFault.numbers] using
      ⟨combination_lt moderate room dicePos diceLe sizePos sizeLe, number, size,
        below moderate.combination⟩
  refine .bind (.option_mapM fun filter present => readFilter_reports measured present)
    fun _ _ => ?_
  refine .bind (.option_mapM fun run present => readFace_reports (fun _ _ _ => rfl) measured
    (rerollReadable run present) (rerollWritable run present)) fun _ _ => ?_
  exact .bind (.option_mapM fun run present => readFace_reports (fun _ _ _ => rfl) measured
    (successReadable run present) (successWritable run present)) fun _ _ => .passed _

theorem term_reports (moderate : ceilings.Below bound) (room : bound * bound ≤ Text.writeBound)
    (measured : token.Measured) (sign : Sign) :
    Reports (token.term ceilings sign) (token.faults ceilings) := by
  rw [← List.append_nil (token.faults ceilings)]
  refine .bind (draft_reports moderate room measured sign) fun draft drafted => ?_
  obtain ⟨⟨-, fits⟩, rfl⟩ := draft_eq_ok_iff.mp drafted
  obtain ⟨term, checked⟩ := exists_check_parts sign fits
  rw [checked]
  exact .passed term

end Tokens

theorem Spells.measured {token : TermToken} {text : List Char} (spelling : token.Spells text)
    (short : ShortDigits text) : token.Measured := by
  have readable := spelling.shortDigits_iff.mp short
  exact ⟨readable, fun run inside =>
    Text.digitsValue_lt_writeBound (spelling.digitRun run inside).digits (readable run inside)⟩

end TermToken

/-! ## Pieces -/

/-- What is wrong with a piece. It may be no part of a notation at all. -/
inductive Piece.Faults (ceilings : Ceilings) (piece : Piece) : List NotationFault → Prop where
  | number : DigitRun piece.text → Faults ceilings piece []
  | token {token : TermToken} : token.Spells piece.text →
      Faults ceilings piece (token.faults ceilings)
  | unrecognized : ¬ DigitRun piece.text → (∀ token : TermToken, ¬ token.Spells piece.text) →
      Faults ceilings piece [.unrecognized piece.text]

theorem Piece.exists_faults (ceilings : Ceilings) (piece : Piece) :
    ∃ faults, piece.Faults ceilings faults := by
  by_cases number : DigitRun piece.text
  · exact ⟨_, .number number⟩
  · by_cases spelled : ∃ token : TermToken, token.Spells piece.text
    · obtain ⟨token, spelling⟩ := spelled
      exact ⟨_, .token spelling⟩
    · exact ⟨_, .unrecognized number (not_exists.mp spelled)⟩

theorem Piece.Faults.reports {ceilings : Ceilings} {piece : Piece} {faults : List NotationFault}
    {bound : Nat} (found : piece.Faults ceilings faults) (moderate : ceilings.Below bound)
    (room : bound * bound ≤ Text.writeBound) (present : piece.text ≠ [])
    (short : ShortDigits piece.text) : Reports (piece.item ceilings) faults := by
  cases found with
  | number run =>
      have numeral : piece.isNumeral = true := List.all_eq_true.mpr run.digits
      rw [Piece.item_of_isNumeral numeral |>.mpr ⟨run.shortDigits_iff.mp short, rfl⟩]
      exact .passed _
  | @token token spelling =>
      rw [Piece.item, TermToken.read?_of_spells spelling]
      exact (TermToken.term_reports moderate room (spelling.measured short) piece.sign).bind_pure _
  | unrecognized noNumber noToken =>
      have notDigits : ¬ piece.text.all Text.isDigit = true := fun all =>
        noNumber ⟨present, List.all_eq_true.mp all⟩
      have legible : (NotationFault.unrecognized piece.text).Legible :=
        fun _ shown => absurd shown List.not_mem_nil
      simp only [Piece.item, TermToken.read?_eq_none_iff.mpr noToken, if_neg notDigits,
        NotationFault.refuse_eq legible]
      exact .refused _ []

theorem Piece.shortDigits_of_mem_split {text : List Char}
    (short : ShortDigits (Text.deleteBlanks text)) {piece : Piece}
    (member : piece ∈ Piece.split text) : ShortDigits piece.text := by
  have inside := (Piece.cuts_split text).isInfix piece member
  exact fun run within => short run (within.trans inside)

/-! ## The whole notation -/

theorem parse_eq_error_iff_items {ceilings : Ceilings} {text : List Char} {fault : ParseFault}
    (pair : HasDiePair text) :
    Expression.parse ceilings text = .error fault ↔
      (Piece.split text).mapM (Piece.item ceilings) = .error fault := by
  have visible := allBlank_eq_false_of_hasDiePair pair
  have present := hasDiePair_eq_true_iff.mpr pair
  rw [parse_eq, if_neg (by simp [visible]), if_neg (by simp [present]), bind_eq_error_iff]
  constructor
  · intro failed
    obtain here | ⟨items, read, impossible⟩ := failed
    · exact here
    · rw [if_neg (by simpa using ofItems_dice_ne_nil pair read)] at impossible
      cases impossible
  · exact .inl

/-- The first piece with a fault decides how a notation is refused, and the first fault of that
piece. Nothing else is ever raised. -/
theorem parse_eq_error_iff {ceilings : Ceilings} {text : List Char} {fault : ParseFault}
    (pair : HasDiePair text) (short : ShortDigits (Text.deleteBlanks text))
    (moderate : ceilings.Below (10 ^ 1000)) :
    Expression.parse ceilings text = .error fault ↔
      ∃ before piece after refusal rest, Piece.Cuts text (before ++ piece :: after) ∧
        (∀ earlier ∈ before, earlier.Faults ceilings []) ∧
        piece.Faults ceilings (refusal :: rest) ∧ fault = .refused refusal := by
  have room := Text.square_le_writeBound 1000 (by decide)
  have reports : ∀ {piece : Piece} {faults : List NotationFault}, piece ∈ Piece.split text →
      piece.Faults ceilings faults → Reports (piece.item ceilings) faults :=
    fun member found => found.reports moderate room (Piece.text_ne_nil_of_mem_split member)
      (Piece.shortDigits_of_mem_split short member)
  rw [parse_eq_error_iff_items pair, mapM_eq_error_iff]
  constructor
  · intro failed
    obtain ⟨before, piece, after, pieces, earlier, failed⟩ := failed
    rw [pieces] at reports
    obtain ⟨faults, found⟩ := piece.exists_faults ceilings
    have reported := reports (List.mem_append_right before List.mem_cons_self) found
    obtain ⟨refusal, rest, rfl, refused⟩ := reported.eq_refused failed
    refine ⟨before, piece, after, refusal, rest, Piece.cuts_iff_eq_split.mpr pieces.symm, ?_,
      found, refused⟩
    intro other member
    obtain ⟨faults, found⟩ := other.exists_faults ceilings
    obtain ⟨item, passed⟩ := earlier other member
    obtain rfl := (reports (List.mem_append_left _ member) found).faults_eq_nil passed
    exact found
  · intro decided
    obtain ⟨before, piece, after, refusal, rest, cuts, earlier, found, rfl⟩ := decided
    have pieces := Piece.cuts_iff_eq_split.mp cuts
    rw [← pieces] at reports
    refine ⟨before, piece, after, pieces.symm, fun other member => ?_, ?_⟩
    · exact (reports (List.mem_append_left _ member) (earlier other member)).exists_ok
    · exact (reports (List.mem_append_right before List.mem_cons_self) found).eq_error

/-- The second piece keeps nine of four dice. It has another fault, and so have the later pieces. -/
theorem parse_eq_error_overkeep :
    Expression.parse ⟨10, 20, 100⟩ "2d6 + 4dFKH9r7 - 0d4 + x".toList =
      .error (.refused (.filterExceedsDice .keep 9 4)) := by
  have below : Ceilings.Below (10 ^ 1000) ⟨10, 20, 100⟩ := by
    have limit := Text.lt_ten_pow 1000
    exact ⟨Nat.lt_trans (by decide) limit, Nat.lt_trans (by decide) limit,
      Nat.lt_trans (by decide) limit⟩
  have pieces : Piece.Cuts "2d6 + 4dFKH9r7 - 0d4 + x".toList
      ([⟨.plus, "2d6".toList⟩] ++ ⟨.plus, "4dFKH9r7".toList⟩ ::
        [⟨.minus, "0d4".toList⟩, ⟨.plus, "x".toList⟩]) :=
    Piece.cuts_iff_eq_split.mpr (by decide)
  have first : Piece.Faults ⟨10, 20, 100⟩ ⟨.plus, "2d6".toList⟩
      (TermToken.faults ⟨10, 20, 100⟩
        ⟨some ['2'], .digits ['6'], none, none, false, none⟩) :=
    .token (TermToken.spells_of_read? (by decide))
  have second : Piece.Faults ⟨10, 20, 100⟩ ⟨.plus, "4dFKH9r7".toList⟩
      (TermToken.faults ⟨10, 20, 100⟩
        ⟨some ['4'], .fudge, some ⟨.keep, .highest, ['9']⟩, some ['7'], false, none⟩) :=
    .token (TermToken.spells_of_read? (by decide))
  have short : (Text.deleteBlanks "2d6 + 4dFKH9r7 - 0d4 + x".toList).length ≤ Text.maxDigits := by
    decide
  exact (parse_eq_error_iff (hasDiePair_eq_true_iff.mp (by decide))
    (shortDigits_of_readable short) below).mpr
    ⟨_, _, _, _, [.rerollFace 7 (-1) 1], pieces, List.forall_mem_singleton.mpr first, second, rfl⟩

end TabletopDice
