import TabletopDice.Proofs.Notation.Refusal

/-!
Kinds of faults. The kind says why a notation is refused without the numbers and texts of the
message. Two kinds concern the notation as a whole and are looked for before its pieces; no piece
is ever at fault in one of these ways. That the parts of a term do not fit together never occurs,
and every fault that is raised has a text.
-/

set_option autoImplicit false

namespace TabletopDice

open Sequencing

inductive FaultKind where
  | empty
  | noDice
  | unrecognized
  | diceCount
  | tooManyDice
  | dieSize
  | dieTooLarge
  | combinationTooLarge
  | filterCount
  | filterExceedsDice
  | rerollFace
  | successThreshold
  | numeral
  | term
deriving DecidableEq, Repr

def NotationFault.kind : NotationFault → FaultKind
  | empty => .empty
  | noDice _ => .noDice
  | unrecognized _ => .unrecognized
  | diceCount _ => .diceCount
  | tooManyDice _ _ => .tooManyDice
  | dieSize _ => .dieSize
  | dieTooLarge _ _ => .dieTooLarge
  | combinationTooLarge _ _ _ => .combinationTooLarge
  | filterCount _ _ => .filterCount
  | filterExceedsDice _ _ _ => .filterExceedsDice
  | rerollFace _ _ _ => .rerollFace
  | successThreshold _ _ _ => .successThreshold

def ParseFault.kind : ParseFault → FaultKind
  | refused fault => fault.kind
  | numeral _ => .numeral
  | term _ => .term

/-- The kinds of faults that a piece may have. -/
def FaultKind.ofPiece : FaultKind → Bool
  | .empty | .noDice | .term => false
  | _ => true

/-- A fault that a piece may have, and that can be told. -/
structure ParseFault.InPiece (fault : ParseFault) : Prop where
  kind : fault.kind.ofPiece = true
  told : ∃ text, fault.message = .ok text

/-- The computation fails, if it does, for a fault in a piece. -/
def FailsInPiece {Result : Type} (outcome : Except ParseFault Result) : Prop :=
  ∀ fault, outcome = .error fault → fault.InPiece

section Steps

variable {Value Result : Type}

theorem failsInPiece_ok (result : Result) : FailsInPiece (.ok result) :=
  fun _ failed => nomatch failed

theorem failsInPiece_numeral (limit : Text.DigitLimit) :
    FailsInPiece (.error (.numeral limit) : Except ParseFault Result) := by
  intro fault same
  cases same
  exact ⟨rfl, limit.message, rfl⟩

theorem FailsInPiece.bind_of_ok {step : Except ParseFault Value}
    {later : Value → Except ParseFault Result} (first : FailsInPiece step)
    (continued : ∀ value, step = .ok value → FailsInPiece (later value)) :
    FailsInPiece (step >>= later) := by
  intro fault failed
  obtain here | ⟨value, passed, failed⟩ := bind_eq_error_iff.mp failed
  · exact first fault here
  · exact continued value passed fault failed

theorem FailsInPiece.bind {step : Except ParseFault Value}
    {later : Value → Except ParseFault Result} (first : FailsInPiece step)
    (continued : ∀ value, FailsInPiece (later value)) : FailsInPiece (step >>= later) :=
  first.bind_of_ok fun value _ => continued value

theorem FailsInPiece.option_mapM {step : Value → Except ParseFault Result}
    (each : ∀ value, FailsInPiece (step value)) (value? : Option Value) :
    FailsInPiece (value?.mapM step) := by
  cases value? with
  | none => exact failsInPiece_ok none
  | some value => exact (each value).bind fun result => failsInPiece_ok (some result)

theorem refuse_failsInPiece {fault : NotationFault} (within : fault.kind.ofPiece = true) :
    FailsInPiece (fault.refuse : Except ParseFault Result) := by
  unfold NotationFault.refuse
  cases told : fault.message with
  | error limit => exact failsInPiece_numeral limit
  | ok text =>
      intro other same
      cases same
      exact ⟨within, text, told⟩

theorem require_failsInPiece {condition : Prop} [Decidable condition] {fault : NotationFault}
    (within : fault.kind.ofPiece = true) : FailsInPiece (require condition fault) := by
  unfold require
  split
  · exact failsInPiece_ok ()
  · exact refuse_failsInPiece within

theorem readNumber_failsInPiece (run : List Char) : FailsInPiece (readNumber run) := by
  unfold readNumber
  cases Text.readDigits run with
  | ok => exact failsInPiece_ok _
  | error limit => exact failsInPiece_numeral limit

end Steps

/-! ## Pieces -/

namespace TermToken

theorem diceCount_failsInPiece (token : TermToken) : FailsInPiece token.diceCount := by
  unfold diceCount
  cases token.count with
  | none => exact failsInPiece_ok 1
  | some run => exact readNumber_failsInPiece run

theorem die_failsInPiece (size : SizeToken) : FailsInPiece size.die := by
  cases size with
  | digits run => exact (readNumber_failsInPiece run).bind fun _ => failsInPiece_ok _
  | percent => exact failsInPiece_ok _
  | fudge => exact failsInPiece_ok _

theorem readFilter_failsInPiece (dice : Int) (filter : FilterToken) :
    FailsInPiece (readFilter dice filter) :=
  (readNumber_failsInPiece filter.digits).bind fun _ =>
    (require_failsInPiece rfl).bind fun _ =>
    (require_failsInPiece rfl).bind fun _ => failsInPiece_ok _

theorem readFace_failsInPiece {fault : Int → Int → Int → NotationFault}
    (within : ∀ face least greatest, (fault face least greatest).kind.ofPiece = true) (die : Die)
    (run : List Char) : FailsInPiece (readFace die fault run) :=
  (readNumber_failsInPiece run).bind fun _ =>
    (require_failsInPiece (within _ _ _)).bind fun _ => failsInPiece_ok _

theorem draft_failsInPiece (ceilings : Ceilings) (sign : Sign) (token : TermToken) :
    FailsInPiece (token.draft ceilings sign) := by
  refine token.diceCount_failsInPiece.bind fun count => ?_
  refine (die_failsInPiece token.size).bind fun die => ?_
  refine (require_failsInPiece rfl).bind fun _ => ?_
  refine (require_failsInPiece rfl).bind fun _ => ?_
  refine (require_failsInPiece rfl).bind fun _ => ?_
  refine (require_failsInPiece rfl).bind fun _ => ?_
  refine (require_failsInPiece rfl).bind fun _ => ?_
  refine (FailsInPiece.option_mapM (readFilter_failsInPiece count) _).bind fun _ => ?_
  refine (FailsInPiece.option_mapM
    (readFace_failsInPiece (fun _ _ _ => rfl) die) _).bind fun _ => ?_
  refine (FailsInPiece.option_mapM
    (readFace_failsInPiece (fun _ _ _ => rfl) die) _).bind fun _ => ?_
  exact failsInPiece_ok _

theorem term_failsInPiece (ceilings : Ceilings) (sign : Sign) (token : TermToken) :
    FailsInPiece (token.term ceilings sign) := by
  refine (token.draft_failsInPiece ceilings sign).bind_of_ok fun draft drafted => ?_
  obtain ⟨⟨-, fits⟩, rfl⟩ := draft_eq_ok_iff.mp drafted
  obtain ⟨term, checked⟩ := exists_check_parts sign fits
  rw [checked]
  exact failsInPiece_ok term

end TermToken

theorem Piece.item_failsInPiece (ceilings : Ceilings) (piece : Piece) :
    FailsInPiece (piece.item ceilings) := by
  unfold Piece.item
  split
  · exact (TermToken.term_failsInPiece ceilings piece.sign _).bind fun _ => failsInPiece_ok _
  · split
    · exact (readNumber_failsInPiece piece.text).bind fun _ => failsInPiece_ok _
    · exact refuse_failsInPiece rfl

theorem items_failsInPiece (ceilings : Ceilings) (pieces : List Piece) :
    FailsInPiece (pieces.mapM (Piece.item ceilings)) := by
  intro fault failed
  obtain ⟨_, piece, _, -, -, failed⟩ := mapM_eq_error_iff.mp failed
  exact piece.item_failsInPiece ceilings fault failed

/-! ## Notations -/

/-- With a die pair, nothing but the pieces decides. -/
theorem parse_of_hasDiePair {ceilings : Ceilings} {text : List Char} (pair : HasDiePair text) :
    Expression.parse ceilings text =
      (Piece.split text).mapM (Piece.item ceilings) >>= fun items =>
        pure (Expression.ofItems items) := by
  have visible := allBlank_eq_false_of_hasDiePair pair
  have present := hasDiePair_eq_true_iff.mpr pair
  rw [parse_eq, if_neg (by simp [visible]), if_neg (by simp [present])]
  cases read : (Piece.split text).mapM (Piece.item ceilings) with
  | error fault => rfl
  | ok items => exact if_neg (by simpa using ofItems_dice_ne_nil pair read)

/-- Without a die pair, the pieces do not matter. -/
theorem parse_of_not_hasDiePair {ceilings : Ceilings} {text : List Char}
    (absent : ¬ HasDiePair text) :
    Expression.parse ceilings text =
      .error (.refused (if Text.allBlank text = true then .empty else .noDice text)) := by
  have missing : hasDiePair text = false := by
    rw [← Bool.not_eq_true, hasDiePair_eq_true_iff]
    exact absent
  rw [parse_eq, if_pos missing]
  split <;> rfl

/-- Nothing is raised that cannot be told, and no term is put together from parts that do not
fit. -/
theorem parse_fault_told {ceilings : Ceilings} {text : List Char} {fault : ParseFault}
    (failed : Expression.parse ceilings text = .error fault) :
    (∃ shown, fault.message = .ok shown) ∧ fault.kind ≠ .term := by
  by_cases pair : HasDiePair text
  · rw [parse_eq_error_iff_items pair] at failed
    have within := items_failsInPiece ceilings _ fault failed
    refine ⟨within.told, fun misfit => ?_⟩
    have possible := within.kind
    rw [misfit] at possible
    cases possible
  · rw [parse_of_not_hasDiePair pair] at failed
    cases failed
    split <;> exact ⟨⟨_, rfl⟩, nofun⟩

end TabletopDice
