import TabletopDice.Proofs.Notation.FaultKind

/-!
Numerals that are too long to be read. A numeral is read when its turn comes, so that what stands in
front of it may be refused first, and what stands behind it is not looked at. Reading stops at a
numeral exactly when everything in front of it is in order.
-/

set_option autoImplicit false

namespace TabletopDice

open Sequencing

/-- The computation stops at a numeral beyond the limit. -/
def Overruns {Result : Type} (outcome : Except ParseFault Result) : Prop :=
  ∃ limit, outcome = .error (.numeral limit)

/-! ## Single steps -/

section Steps

variable {Value Result : Type}

theorem not_overruns_ok (result : Result) : ¬ Overruns (.ok result) := by
  intro overruns
  obtain ⟨_, same⟩ := overruns
  cases same

theorem not_overruns_refused (fault : NotationFault) :
    ¬ Overruns (.error (.refused fault) : Except ParseFault Result) := by
  intro overruns
  obtain ⟨_, same⟩ := overruns
  cases same

theorem overruns_bind_iff {step : Except ParseFault Value}
    {later : Value → Except ParseFault Result} :
    Overruns (step >>= later) ↔
      Overruns step ∨ ∃ value, step = .ok value ∧ Overruns (later value) := by
  simp only [Overruns, bind_eq_error_iff]
  constructor
  · intro failed
    obtain ⟨limit, here | ⟨value, passed, failed⟩⟩ := failed
    · exact .inl ⟨limit, here⟩
    · exact .inr ⟨value, passed, limit, failed⟩
  · intro failed
    obtain ⟨limit, here⟩ | ⟨value, passed, limit, failed⟩ := failed
    · exact ⟨limit, .inl here⟩
    · exact ⟨limit, .inr ⟨value, passed, failed⟩⟩

theorem overruns_bind_pure_iff {step : Except ParseFault Value} {view : Value → Result} :
    Overruns (step >>= fun value => pure (view value)) ↔ Overruns step := by
  rw [overruns_bind_iff]
  refine or_iff_left fun later => ?_
  obtain ⟨value, -, overruns⟩ := later
  exact not_overruns_ok (view value) overruns

theorem overruns_readNumber_iff {run : List Char} :
    Overruns (readNumber run) ↔ ¬ Readable run := by
  unfold readNumber Text.readDigits Readable
  by_cases short : run.length ≤ Text.maxDigits <;> simp [short, Overruns]

theorem overruns_option_mapM_iff {step : Value → Except ParseFault Result}
    {value? : Option Value} :
    Overruns (value?.mapM step) ↔ ∃ value ∈ value?, Overruns (step value) := by
  cases value? with
  | none => exact iff_of_false (not_overruns_ok none) (by simp)
  | some value =>
      have mapped : (some value).mapM step = step value >>= fun result => pure (some result) := rfl
      rw [mapped, overruns_bind_pure_iff]
      simp

/-- Behind a computation that succeeds, an optional part is read and put in. -/
theorem overruns_bind_mapM_iff {Part Draft : Type} {step : Except ParseFault Draft}
    {read : Part → Except ParseFault Value} {part? : Option Part}
    {view : Draft → Option Value → Result} :
    Overruns (step >>= fun draft => part?.mapM read >>= fun value => pure (view draft value)) ↔
      Overruns step ∨ (∃ draft, step = .ok draft) ∧ ∃ part ∈ part?, Overruns (read part) := by
  rw [overruns_bind_iff]
  refine or_congr_right ?_
  simp only [overruns_bind_pure_iff, overruns_option_mapM_iff, exists_and_right]

theorem bind_congr_of_ok {step : Except ParseFault Value}
    {first second : Value → Except ParseFault Result}
    (same : ∀ value, step = .ok value → first value = second value) :
    step >>= first = step >>= second := by
  cases step with
  | error fault => rfl
  | ok value => exact same value rfl

theorem Reports.not_overruns {step : Except ParseFault Result} {faults : List NotationFault}
    (reported : Reports step faults) : ¬ Overruns step := by
  intro overruns
  obtain ⟨limit, failed⟩ := overruns
  obtain ⟨first, _, -, refused⟩ := reported.eq_refused failed
  cases refused

end Steps

/-! ## Tokens -/

theorem SizeToken.die_overruns_iff {size : SizeToken} :
    Overruns size.die ↔ ∃ run ∈ size.groups, ¬ Readable run := by
  cases size with
  | digits run =>
      have read : (SizeToken.digits run).die =
          readNumber run >>= fun number => pure (.sided number) := rfl
      rw [read, overruns_bind_pure_iff, overruns_readNumber_iff]
      simp [SizeToken.groups]
  | percent => exact iff_of_false (not_overruns_ok _) (by simp [SizeToken.groups])
  | fudge => exact iff_of_false (not_overruns_ok _) (by simp [SizeToken.groups])

namespace TermToken

/-- The token up to its threshold. -/
def beforeSuccess (token : TermToken) : TermToken :=
  { token with success := none }

/-- The token up to its reroll. -/
def beforeReroll (token : TermToken) : TermToken :=
  { token.beforeSuccess with reroll := none }

/-- The token up to its filter. -/
def beforeFilter (token : TermToken) : TermToken :=
  { token.beforeReroll with filter := none }

/-- All numbers of the token can be read, and they fit. -/
structure Passes (ceilings : Ceilings) (token : TermToken) : Prop where
  readable : ∀ run ∈ token.groups, Readable run
  fits : token.Fits ceilings

/-- A number of the token is too long, and everything in front of it passes. The numbers of dice and
of sides are read before anything is checked. -/
inductive Overlong (ceilings : Ceilings) (token : TermToken) : Prop where
  | dice {run} : run ∈ token.beforeFilter.groups → ¬ Readable run → Overlong ceilings token
  | filter {filter} : token.beforeFilter.Passes ceilings → filter ∈ token.filter →
      ¬ Readable filter.digits → Overlong ceilings token
  | reroll {run} : token.beforeReroll.Passes ceilings → run ∈ token.reroll → ¬ Readable run →
      Overlong ceilings token
  | success {run} : token.beforeSuccess.Passes ceilings → run ∈ token.success → ¬ Readable run →
      Overlong ceilings token

section Stages

variable {ceilings : Ceilings} {sign : Sign} {token : TermToken}

theorem passes_iff_exists_draft :
    token.Passes ceilings ↔ ∃ draft, token.draft ceilings sign = .ok draft := by
  simp only [draft_eq_ok_iff, exists_eq_right]
  exact ⟨fun passes => ⟨passes.readable, passes.fits⟩, fun both => ⟨both.1, both.2⟩⟩

theorem draft_eq_bind_success :
    token.draft ceilings sign = token.beforeSuccess.draft ceilings sign >>= fun draft =>
      token.success.mapM (readFace token.size.kind .successThreshold) >>= fun success =>
        pure { draft with success } := by
  simp only [draft, beforeSuccess, Option.mapM_none, bind_assoc, pure_bind]
  refine bind_congr fun count => bind_congr_of_ok fun die found => ?_
  rw [(SizeToken.die_eq_ok_iff.mp found).2]

theorem draft_eq_bind_reroll :
    token.beforeSuccess.draft ceilings sign = token.beforeReroll.draft ceilings sign >>=
      fun draft => token.reroll.mapM (readFace token.size.kind .rerollFace) >>= fun reroll =>
        pure { draft with reroll := reroll.map fun face => {face} } := by
  simp only [draft, beforeSuccess, beforeReroll, Option.mapM_none, bind_assoc, pure_bind]
  refine bind_congr fun count => bind_congr_of_ok fun die found => ?_
  rw [(SizeToken.die_eq_ok_iff.mp found).2]

theorem draft_eq_bind_filter :
    token.beforeReroll.draft ceilings sign = token.beforeFilter.draft ceilings sign >>=
      fun draft => token.filter.mapM (readFilter token.number) >>= fun filter =>
        pure { draft with keep := Filter.kept? filter, drop := Filter.dropped? filter } := by
  simp only [draft, beforeSuccess, beforeReroll, beforeFilter, Option.mapM_none, bind_assoc,
    pure_bind]
  refine bind_congr_of_ok fun count found => ?_
  rw [(diceCount_eq_ok_iff.mp found).2]
  rfl

theorem diceCount_overruns_iff :
    Overruns token.diceCount ↔ ∃ run ∈ token.count, ¬ Readable run := by
  unfold diceCount
  cases token.count with
  | none => simpa using not_overruns_ok 1
  | some run => simpa using overruns_readNumber_iff

end Stages

/-- Every number that the token names is spelled in digits. -/
def Written (token : TermToken) : Prop :=
  ∀ run ∈ token.groups, DigitRun run

theorem Written.measured {token : TermToken} (written : token.Written)
    (readable : ∀ run ∈ token.groups, Readable run) : token.Measured :=
  ⟨readable, fun run inside =>
    Text.digitsValue_lt_writeBound (written run inside).digits (readable run inside)⟩

section Overruns

variable {ceilings : Ceilings} {sign : Sign} {token : TermToken} {bound : Nat}

theorem groups_eq_success : token.groups = token.beforeSuccess.groups ++ token.success.toList := by
  simp [groups, beforeSuccess]

theorem groups_eq_reroll :
    token.beforeSuccess.groups = token.beforeReroll.groups ++ token.reroll.toList := by
  simp [groups, beforeSuccess, beforeReroll]

theorem groups_eq_filter :
    token.beforeReroll.groups =
      token.beforeFilter.groups ++ (token.filter.map (·.digits)).toList := by
  simp [groups, beforeSuccess, beforeReroll, beforeFilter]

theorem mem_groups_beforeFilter {run : List Char} :
    run ∈ token.beforeFilter.groups ↔ run ∈ token.count ∨ run ∈ token.size.groups := by
  simp [groups, beforeSuccess, beforeReroll, beforeFilter]

theorem Written.parts (written : token.Written) :
    token.beforeFilter.Written ∧ token.beforeReroll.Written ∧ token.beforeSuccess.Written ∧
      (∀ filter ∈ token.filter, DigitRun filter.digits) ∧
      (∀ run ∈ token.reroll, DigitRun run) ∧ ∀ run ∈ token.success, DigitRun run := by
  obtain ⟨-, -, filter, reroll, success⟩ := forall_groups_iff.mp written
  rw [Written, groups_eq_success] at written
  have beforeSuccess := (List.forall_mem_append.mp written).1
  have beforeReroll := beforeSuccess
  rw [groups_eq_reroll] at beforeReroll
  have beforeReroll := (List.forall_mem_append.mp beforeReroll).1
  have beforeFilter := beforeReroll
  rw [groups_eq_filter] at beforeFilter
  exact ⟨(List.forall_mem_append.mp beforeFilter).1, beforeReroll, beforeSuccess, filter, reroll,
    success⟩

theorem dice_overruns_iff (moderate : ceilings.Below bound)
    (room : bound * bound ≤ Text.writeBound) (written : token.beforeFilter.Written) :
    Overruns (token.beforeFilter.draft ceilings sign) ↔
      ∃ run ∈ token.beforeFilter.groups, ¬ Readable run := by
  constructor
  · intro overruns
    by_contra readable
    simp only [not_exists, not_and, not_not] at readable
    have measured := written.measured readable
    exact (draft_reports moderate room measured sign).not_overruns overruns
  · intro long
    obtain ⟨run, inside, long⟩ := long
    refine overruns_bind_iff.mpr ?_
    by_cases counted : ∀ run ∈ token.count, Readable run
    · have sized : run ∈ token.size.groups :=
        (mem_groups_beforeFilter.mp inside).resolve_left fun member => long (counted run member)
      have dieOverruns := SizeToken.die_overruns_iff.mpr ⟨run, sized, long⟩
      exact .inr ⟨token.number, diceCount_eq_ok_iff.mpr ⟨counted, rfl⟩,
        overruns_bind_iff.mpr (.inl dieOverruns)⟩
    · simp only [not_forall] at counted
      obtain ⟨run, member, long⟩ := counted
      exact .inl (diceCount_overruns_iff.mpr ⟨run, member, long⟩)

theorem readFilter_overruns_iff (written : token.beforeReroll.Written)
    (passes : token.beforeFilter.Passes ceilings) {filter : FilterToken}
    (present : filter ∈ token.filter) :
    Overruns (readFilter token.number filter) ↔ ¬ Readable filter.digits := by
  constructor
  · intro overruns readable
    have all : ∀ run ∈ token.beforeReroll.groups, Readable run := by
      rw [groups_eq_filter, present]
      exact List.forall_mem_append.mpr ⟨passes.readable, List.forall_mem_singleton.mpr readable⟩
    exact (readFilter_reports (written.measured all) present).not_overruns overruns
  · intro long
    exact overruns_bind_iff.mpr (.inl (overruns_readNumber_iff.mpr long))

theorem readFace_overruns_iff {fault : Int → Int → Int → NotationFault}
    (shown : ∀ face least greatest, (fault face least greatest).numbers = [face, least, greatest])
    (measured : token.Measured) {run : List Char} (digits : DigitRun run) :
    Overruns (readFace token.size.kind fault run) ↔ ¬ Readable run := by
  constructor
  · intro overruns readable
    have writable := Text.digitsValue_lt_writeBound digits.digits readable
    exact (readFace_reports shown measured readable writable).not_overruns overruns
  · intro long
    exact overruns_bind_iff.mpr (.inl (overruns_readNumber_iff.mpr long))

/-- The stages of a token, from the last to the first. -/
theorem draft_overruns_iff (moderate : ceilings.Below bound)
    (room : bound * bound ≤ Text.writeBound) (written : token.Written) :
    Overruns (token.draft ceilings sign) ↔ token.Overlong ceilings := by
  obtain ⟨beforeFilter, beforeReroll, beforeSuccess, -, reroll, success⟩ := written.parts
  have rerollLong : ∀ run ∈ token.reroll, token.beforeReroll.Passes ceilings →
      (Overruns (readFace token.size.kind .rerollFace run) ↔ ¬ Readable run) :=
    fun run member passes => readFace_overruns_iff (fun _ _ _ => rfl)
      (beforeReroll.measured passes.readable) (reroll run member)
  have successLong : ∀ run ∈ token.success, token.beforeSuccess.Passes ceilings →
      (Overruns (readFace token.size.kind .successThreshold run) ↔ ¬ Readable run) :=
    fun run member passes => readFace_overruns_iff (fun _ _ _ => rfl)
      (beforeSuccess.measured passes.readable) (success run member)
  rw [draft_eq_bind_success, overruns_bind_mapM_iff, ← passes_iff_exists_draft,
    draft_eq_bind_reroll, overruns_bind_mapM_iff, ← passes_iff_exists_draft,
    draft_eq_bind_filter, overruns_bind_mapM_iff, ← passes_iff_exists_draft,
    dice_overruns_iff moderate room beforeFilter]
  constructor
  · intro overruns
    obtain (((⟨run, inside, long⟩ | ⟨passes, filter, member, overruns⟩) |
      ⟨passes, run, member, overruns⟩) | ⟨passes, run, member, overruns⟩) := overruns
    · exact .dice inside long
    · exact .filter passes member ((readFilter_overruns_iff beforeReroll passes member).mp overruns)
    · exact .reroll passes member ((rerollLong run member passes).mp overruns)
    · exact .success passes member ((successLong run member passes).mp overruns)
  · intro overlong
    cases overlong with
    | dice inside long => exact .inl (.inl (.inl ⟨_, inside, long⟩))
    | filter passes member long =>
        exact .inl (.inl (.inr
          ⟨passes, _, member, (readFilter_overruns_iff beforeReroll passes member).mpr long⟩))
    | reroll passes member long =>
        exact .inl (.inr ⟨passes, _, member, (rerollLong _ member passes).mpr long⟩)
    | success passes member long =>
        exact .inr ⟨passes, _, member, (successLong _ member passes).mpr long⟩

theorem term_overruns_iff : Overruns (token.term ceilings sign) ↔
    Overruns (token.draft ceilings sign) := by
  refine overruns_bind_iff.trans (or_iff_left fun later => ?_)
  obtain ⟨draft, drafted, overruns⟩ := later
  obtain ⟨⟨-, fits⟩, rfl⟩ := draft_eq_ok_iff.mp drafted
  obtain ⟨term, checked⟩ := exists_check_parts sign fits
  rw [checked] at overruns
  exact not_overruns_ok term overruns

end Overruns

end TermToken

/-! ## Pieces and notations -/

/-- The piece is a numeral or a token at which reading stops for its length. -/
inductive Piece.Overlong (ceilings : Ceilings) (piece : Piece) : Prop where
  | numeral : DigitRun piece.text → ¬ Readable piece.text → Overlong ceilings piece
  | token {token : TermToken} : token.Spells piece.text → token.Overlong ceilings →
      Overlong ceilings piece

section Notations

variable {ceilings : Ceilings} {bound : Nat}

theorem Piece.item_overruns_iff (moderate : ceilings.Below bound)
    (room : bound * bound ≤ Text.writeBound) {piece : Piece} (present : piece.text ≠ []) :
    Overruns (piece.item ceilings) ↔ piece.Overlong ceilings := by
  cases found : TermToken.read? piece.text with
  | some token =>
      have spelling := TermToken.read?_eq_some_iff.mp found
      have read : piece.item ceilings =
          token.term ceilings piece.sign >>= fun term => pure (.term term) := by
        rw [Piece.item, found]
      rw [read, overruns_bind_pure_iff, TermToken.term_overruns_iff,
        TermToken.draft_overruns_iff moderate room spelling.digitRun]
      constructor
      · intro overlong
        exact .token spelling overlong
      · intro overlong
        cases overlong with
        | numeral digits =>
            have numeral : piece.isNumeral = true := List.all_eq_true.mpr digits.digits
            exact absurd spelling (Piece.not_spells_of_isNumeral numeral token)
        | token other overlong => exact spelling.unique other ▸ overlong
  | none =>
      have noToken := TermToken.read?_eq_none_iff.mp found
      by_cases digits : piece.text.all Text.isDigit = true
      · have read : piece.item ceilings =
            readNumber piece.text >>= fun value => pure (.number (piece.sign.apply value)) := by
          simp only [Piece.item, found, if_pos digits]
        rw [read, overruns_bind_pure_iff, overruns_readNumber_iff]
        constructor
        · intro long
          exact .numeral ⟨present, List.all_eq_true.mp digits⟩ long
        · intro overlong
          cases overlong with
          | numeral _ long => exact long
          | token spelling => exact absurd spelling (noToken _)
      · have read : piece.item ceilings = (NotationFault.unrecognized piece.text).refuse := by
          simp only [Piece.item, found, if_neg digits]
        rw [read]
        refine iff_of_false (not_overruns_refused _) fun overlong => ?_
        cases overlong with
        | numeral run => exact absurd (List.all_eq_true.mpr run.digits) digits
        | token spelling => exact absurd spelling (noToken _)

theorem exists_item_iff_acceptable {piece : Piece} :
    (∃ item, piece.item ceilings = .ok item) ↔ piece.Acceptable ceilings := by
  constructor
  · intro read
    obtain ⟨item, read⟩ := read
    exact (Piece.item_eq_ok_iff.mp read).1
  · exact Piece.Acceptable.exists_item

theorem Piece.Cuts.text_ne_nil {text : List Char} {pieces : List Piece}
    (cuts : Piece.Cuts text pieces) {piece : Piece} (member : piece ∈ pieces) :
    piece.text ≠ [] := by
  obtain ⟨runs, -, rfl⟩ := cuts
  simpa using (List.mem_filter.mp member).2

/-- Reading stops at a numeral: the pieces in front of it are in order. -/
def StopsAtNumeral (ceilings : Ceilings) (text : List Char) : Prop :=
  HasDiePair text ∧ ∃ before piece after, Piece.Cuts text (before ++ piece :: after) ∧
    (∀ earlier ∈ before, earlier.Acceptable ceilings) ∧ piece.Overlong ceilings

theorem parse_overruns_iff (moderate : ceilings.Below bound)
    (room : bound * bound ≤ Text.writeBound) {text : List Char} :
    Overruns (Expression.parse ceilings text) ↔ StopsAtNumeral ceilings text := by
  by_cases pair : HasDiePair text
  · have stops : ∀ limit, Expression.parse ceilings text = .error (.numeral limit) ↔ _ :=
      fun limit => (parse_eq_error_iff_items pair).trans mapM_eq_error_iff
    simp only [Overruns, StopsAtNumeral, stops, exists_item_iff_acceptable]
    constructor
    · intro overruns
      obtain ⟨limit, before, piece, after, pieces, earlier, failed⟩ := overruns
      have cuts := Piece.cuts_iff_eq_split.mpr pieces.symm
      have present := cuts.text_ne_nil (List.mem_append_right before List.mem_cons_self)
      exact ⟨pair, before, piece, after, cuts, earlier,
        (Piece.item_overruns_iff moderate room present).mp ⟨limit, failed⟩⟩
    · intro stops
      obtain ⟨-, before, piece, after, cuts, earlier, overlong⟩ := stops
      have present := cuts.text_ne_nil (List.mem_append_right before List.mem_cons_self)
      obtain ⟨limit, failed⟩ := (Piece.item_overruns_iff moderate room present).mpr overlong
      exact ⟨limit, before, piece, after, (Piece.cuts_iff_eq_split.mp cuts).symm, earlier, failed⟩
  · rw [parse_of_not_hasDiePair pair]
    exact iff_of_false (not_overruns_refused _) fun stops => pair stops.1

end Notations

end TabletopDice
