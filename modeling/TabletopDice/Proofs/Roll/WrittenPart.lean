import TabletopDice.Proofs.Roll.RollRecord
import TabletopDice.Proofs.Text.Numerals

/-!
Which parts of a breakdown can be written down. Of a term's part only its label, the faces of its
dice and a number of successes may be too long, so that neither marks nor the order of the dice
matter.
-/

set_option autoImplicit false

namespace TabletopDice

open Sequencing

namespace Term

variable {term : Term}

/-- The numbers of a term that are shown. -/
structure Writable (term : Term) : Prop where
  magnitude : term.magnitude < Text.writeBound
  size : term.size.natAbs < Text.writeBound

theorem Writable.exists_count (writable : term.Writable) :
    ∃ count, Text.writeNat term.magnitude = .ok count :=
  Text.exists_writeInt_iff.mpr writable.magnitude

theorem Writable.exists_size (writable : term.Writable) :
    ∃ size, sizeText term.die = .ok size := by
  have short := writable.size
  rw [Term.size] at short
  cases kind : term.die with
  | sided size =>
      rw [kind] at short
      exact Text.exists_writeInt_iff.mpr short
  | fudge => exact ⟨"F", rfl⟩

theorem Writable.exists_label (writable : term.Writable) : ∃ label, term.label = .ok label :=
  exists_bind_eq_ok writable.exists_count fun _ _ =>
    exists_bind_eq_ok writable.exists_size fun _ _ => ⟨_, rfl⟩

end Term

namespace RolledDie

/-- The faces that a die shows in a breakdown can be written. -/
structure Writable (die : RolledDie) : Prop where
  result : die.result.natAbs < Text.writeBound
  rerolled : die.rerolled = true → ∀ face ∈ die.modified, face.natAbs < Text.writeBound

theorem exists_rerollText_iff {die : RolledDie} :
    (∃ text, die.rerollText = .ok text) ↔
      (die.rerolled = true → ∀ face ∈ die.modified, face.natAbs < Text.writeBound) := by
  unfold rerollText
  cases die.rerolled with
  | false => simp
  | true =>
      cases die.modified with
      | none => simp
      | some face =>
          simp only [true_implies, Option.mem_def, Option.some.injEq, forall_eq']
          rw [← Text.exists_writeInt_iff]
          constructor
          · intro found
            obtain ⟨_, found⟩ := found
            obtain ⟨text, written, -⟩ := bind_eq_ok_iff.mp found
            exact ⟨text, written⟩
          · intro found
            exact exists_bind_eq_ok found fun _ _ => ⟨_, rfl⟩

theorem exists_token_iff {die : RolledDie} : (∃ text, die.token = .ok text) ↔ die.Writable := by
  constructor
  · intro found
    obtain ⟨_, found⟩ := found
    obtain ⟨result, resultWritten, found⟩ := bind_eq_ok_iff.mp found
    obtain ⟨reroll, rerollWritten, -⟩ := bind_eq_ok_iff.mp found
    exact ⟨Text.exists_writeInt_iff.mp ⟨result, resultWritten⟩,
      exists_rerollText_iff.mp ⟨reroll, rerollWritten⟩⟩
  · intro writable
    refine exists_bind_eq_ok (Text.exists_writeInt_iff.mpr writable.result) fun _ _ => ?_
    exact exists_bind_eq_ok (exists_rerollText_iff.mpr writable.rerolled) fun _ _ => ⟨_, rfl⟩

end RolledDie

theorem Selection.writable_apply_iff (filter : Option Filter) {pool : List RolledDie} :
    (∀ die ∈ apply filter pool, die.Writable) ↔ ∀ die ∈ pool, die.Writable :=
  forall_mem_apply_iff (fun _ _ => ⟨fun ⟨result, rerolled⟩ => ⟨result, rerolled⟩,
    fun ⟨result, rerolled⟩ => ⟨result, rerolled⟩⟩) filter pool

namespace TermRoll

variable {term : Term} {pool : List RolledDie}

theorem exists_ofPool_iff :
    (∃ part, ofPool term pool = .ok part) ↔
      (∃ label, term.label = .ok label) ∧ (∀ die ∈ pool, die.Writable) ∧
        ∃ successes, successText term.success
          (scoreOf term.success (Selection.apply term.filter pool)) = .ok successes := by
  rw [← Selection.writable_apply_iff term.filter]
  constructor
  · intro found
    obtain ⟨_, found⟩ := found
    obtain ⟨_, written, -⟩ := bind_eq_ok_iff.mp found
    obtain ⟨label, labelWritten, written⟩ := bind_eq_ok_iff.mp written
    obtain ⟨tokens, tokensWritten, written⟩ := bind_eq_ok_iff.mp written
    obtain ⟨successes, successesWritten, -⟩ := bind_eq_ok_iff.mp written
    refine ⟨⟨label, labelWritten⟩, fun die member => ?_, ⟨successes, successesWritten⟩⟩
    exact RolledDie.exists_token_iff.mp
      (exists_mapM_eq_ok_iff.mp ⟨tokens, tokensWritten⟩ die member)
  · intro written
    obtain ⟨label, dice, successes⟩ := written
    have tokens := exists_mapM_eq_ok fun die member =>
      RolledDie.exists_token_iff.mpr (dice die member)
    refine exists_bind_eq_ok ?_ fun _ _ => ⟨_, rfl⟩
    exact exists_bind_eq_ok label fun _ _ => exists_bind_eq_ok tokens fun _ _ =>
      exists_bind_eq_ok successes fun _ _ => ⟨_, rfl⟩

/-- There are never more successes than dice. -/
theorem exists_successText (filter : Option Filter) (success : Option Int)
    (length : pool.length < Text.writeBound) :
    ∃ successes, successText success (scoreOf success (Selection.apply filter pool)) =
      .ok successes := by
  cases success with
  | none => exact ⟨"", rfl⟩
  | some least =>
      have counted : (Selection.kept (Selection.apply filter pool)).countP (least ≤ ·.value) ≤
          pool.length :=
        Selection.length_apply filter pool ▸
          Nat.le_trans List.countP_le_length (List.length_filter_le _ _)
      refine exists_bind_eq_ok (Text.exists_writeInt_iff.mpr ?_) fun _ _ => ⟨_, rfl⟩
      rw [scoreOf, Int.natAbs_natCast]
      omega

end TermRoll

/-! ## Whole breakdowns -/

namespace RollResult

variable {parts : List TermRoll} {modifier : Int} {limit : Text.DigitLimit}

theorem modifierText_eq_error_iff :
    modifierText modifier = .error limit ↔
      limit = .writing ∧ Text.writeBound ≤ modifier.natAbs := by
  have magnitude : Text.writeNat modifier.natAbs = .error limit ↔ _ := Text.writeInt_eq_error_iff
  rw [Int.natAbs_natCast] at magnitude
  unfold modifierText
  split
  · rename_i zero
    have short : (0 : Int).natAbs < Text.writeBound := Text.lt_writeBound (by decide)
    simp only [reduceCtorEq, false_iff, zero]
    exact fun long => Nat.not_le.mpr short long.2
  · rw [← magnitude, bind_eq_error_iff]
    exact or_iff_left (by simp [pure, Except.pure])

/-- Once its parts are written, only the modifier of a breakdown can be too long. -/
theorem breakdownOf_eq_error_iff :
    breakdownOf parts modifier = .error limit ↔
      limit = .writing ∧ Text.writeBound ≤ modifier.natAbs := by
  cases parts with
  | nil => exact Text.writeInt_eq_error_iff
  | cons part parts =>
      rw [← modifierText_eq_error_iff, breakdownOf, bind_eq_error_iff]
      · exact or_iff_left (by simp [pure, Except.pure])
      · exact List.cons_ne_nil part parts

theorem ofParts_eq_error_iff {text : String} {label : Option String} :
    ofParts parts modifier text label = .error limit ↔
      limit = .writing ∧ Text.writeBound ≤ modifier.natAbs := by
  rw [← @breakdownOf_eq_error_iff parts modifier limit, ofParts, bind_eq_error_iff]
  exact or_iff_left (by simp [pure, Except.pure])

theorem short_of_ofParts {text : String} {label : Option String} {result : RollResult}
    (finished : ofParts parts modifier text label = .ok result) :
    modifier.natAbs < Text.writeBound := by
  refine Nat.not_le.mp fun long => ?_
  rw [ofParts_eq_error_iff.mpr ⟨rfl, long⟩] at finished
  cases finished

theorem exists_ofParts (parts : List TermRoll) (text : String) (label : Option String)
    (legible : modifier.natAbs < Text.writeBound) :
    ∃ result, ofParts parts modifier text label = .ok result := by
  cases finished : ofParts parts modifier text label with
  | ok result => exact ⟨result, rfl⟩
  | error limit => exact absurd legible (Nat.not_lt.mpr (ofParts_eq_error_iff.mp finished).2)

end RollResult

end TabletopDice
