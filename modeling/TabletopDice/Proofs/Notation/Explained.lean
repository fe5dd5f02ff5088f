import TabletopDice.Notation.Explanation
import TabletopDice.Proofs.Notation.Expressible
import TabletopDice.Proofs.Notation.JoinedText
import TabletopDice.Proofs.Notation.Overlong
import TabletopDice.Proofs.Roll.WrittenPart

/-!
Which notations have an explanation. An explanation tells what reading the notation gives. There is
none for a notation at one of whose numerals reading stops, and none for a notation whose numbers
add up to more than can be written.
-/

set_option autoImplicit false

namespace TabletopDice

open Sequencing

theorem Text.exists_writeSigned_iff {number : Int} :
    (∃ text, writeSigned number = .ok text) ↔ number.natAbs < writeBound := by
  rw [← exists_writeInt_iff]
  constructor
  · intro found
    obtain ⟨signed, found⟩ := found
    obtain ⟨text, written, -⟩ := bind_eq_ok_iff.mp found
    exact ⟨text, written⟩
  · intro found
    exact exists_bind_eq_ok found fun _ _ => ⟨_, rfl⟩

/-! ## Describing what has been read -/

section Describing

variable {ceilings : Ceilings} {bound : Nat} {term : Term}

theorem Term.Expressible.writable (expressible : term.Expressible ceilings)
    (moderate : ceilings.Below bound) (room : bound ≤ Text.writeBound) : term.Writable := by
  have dice := moderate.dice
  have dieSize := moderate.dieSize
  have count := expressible.count_le
  have size := expressible.size_le
  have positive := expressible.size_pos
  exact ⟨by omega, by omega⟩

namespace TermDescription

theorem exists_phrasesOf (expressible : term.Expressible ceilings) (writable : term.Writable) :
    ∃ phrases, phrasesOf term = .ok phrases := by
  have magnitude := writable.magnitude
  have size := writable.size
  have named : ∀ {face : Int}, term.Names face → ∃ text, Text.writeInt face = .ok text :=
    fun found => Text.exists_writeInt_iff.mpr (Nat.lt_of_le_of_lt found.natAbs_le size)
  have filter : ∃ filter, term.filter.mapM filterPhrase = .ok filter := by
    refine exists_option_mapM_eq_ok fun filter present => ?_
    have bounds := expressible.filter filter present
    exact exists_bind_eq_ok (Text.exists_writeInt_iff.mpr (by omega)) fun _ _ => ⟨_, rfl⟩
  have reroll : ∃ reroll, (rerolled term).mapM rerollPhrase = .ok reroll := by
    refine exists_option_mapM_eq_ok fun faces present => ?_
    obtain ⟨face, rfl, found⟩ := expressible.reroll faces (Option.mem_filter_iff.mp present).1
    refine exists_bind_eq_ok (exists_mapM_eq_ok fun shown inside => ?_) fun _ _ => ⟨_, rfl⟩
    obtain rfl := List.mem_singleton.mp inside
    exact named found
  have success : ∃ success, term.success.mapM successPhrase = .ok success := by
    refine exists_option_mapM_eq_ok fun least present => ?_
    exact exists_bind_eq_ok (named (expressible.success least present)) fun _ _ => ⟨_, rfl⟩
  exact exists_bind_eq_ok filter fun _ _ => exists_bind_eq_ok reroll fun _ _ =>
    exists_bind_eq_ok success fun _ _ => ⟨_, rfl⟩

theorem exists_text {description : TermDescription} (writable : term.Writable)
    (described : ofTerm term = .ok description) : ∃ text, description.text = .ok text := by
  obtain ⟨phrases, -, same⟩ := bind_eq_ok_iff.mp described
  obtain rfl := pure_eq_ok_iff.mp same
  exact exists_bind_eq_ok writable.exists_count fun _ _ =>
    exists_bind_eq_ok writable.exists_size fun _ _ => ⟨_, rfl⟩

end TermDescription

namespace Description

/-- Once the terms are written, only the modifier can be too long. -/
theorem exists_text_iff {description : Description}
    (written : ∀ term ∈ description.dice, ∃ text, term.text = .ok text) :
    (∃ text, description.text = .ok text) ↔ description.modifier.natAbs < Text.writeBound := by
  obtain ⟨dice, diceWritten⟩ := exists_mapM_eq_ok written
  constructor
  · intro found
    obtain ⟨text, found⟩ := found
    by_cases zero : description.modifier = 0
    · have none : (0 : Int).natAbs < Text.writeBound := Text.lt_writeBound (by decide)
      exact zero ▸ none
    · obtain ⟨lines, made, -⟩ := bind_eq_ok_iff.mp found
      obtain ⟨_, -, made⟩ := bind_eq_ok_iff.mp made
      rw [if_neg zero] at made
      obtain ⟨signed, shown, -⟩ := bind_eq_ok_iff.mp made
      exact Text.exists_writeSigned_iff.mp ⟨signed, shown⟩
  · intro short
    have signed := Text.exists_writeSigned_iff.mpr short
    refine exists_bind_eq_ok (exists_bind_eq_ok ⟨dice, diceWritten⟩ fun _ _ => ?_)
      fun _ _ => ⟨_, rfl⟩
    split
    · exact ⟨_, rfl⟩
    · exact exists_bind_eq_ok signed fun _ _ => ⟨_, rfl⟩

theorem exists_ofExpression {expression : Expression}
    (expressible : expression.Expressible ceilings)
    (writable : ∀ term ∈ expression.dice, term.Writable) :
    ∃ description, ofExpression expression = .ok description ∧
      description.modifier = expression.modifier ∧
      ∀ term ∈ description.dice, ∃ text, term.text = .ok text := by
  have each : ∀ term ∈ expression.dice,
      ∃ description, TermDescription.ofTerm term = .ok description :=
    fun term member => exists_bind_eq_ok
      (TermDescription.exists_phrasesOf (expressible.terms term member) (writable term member))
      fun _ _ => ⟨_, rfl⟩
  obtain ⟨dice, described⟩ := exists_mapM_eq_ok each
  refine ⟨⟨dice, expression.modifier⟩, bind_eq_ok_iff.mpr ⟨dice, described, rfl⟩, rfl, ?_⟩
  intro description member
  obtain ⟨term, inside, made⟩ := exists_mem_of_mapM_eq_ok described member
  exact TermDescription.exists_text (writable term inside) made

end Description

end Describing

/-! ## Explaining -/

/-- The verdict on a text is what reading it gives. -/
def Verdict.Tells (ceilings : Ceilings) (text : String) : Verdict → Prop
  | .valid expression description =>
      Expression.parse ceilings text.toList = .ok expression ∧
        Description.ofExpression expression = .ok description
  | .invalid fault problem =>
      Expression.parse ceilings text.toList = .error (.refused fault) ∧
        fault.message = .ok problem

namespace Explanation

structure Agrees (ceilings : Ceilings) (text : String) (explanation : Explanation) : Prop where
  source : explanation.source = text
  verdict : explanation.verdict.Tells ceilings text

/-- An explanation agrees with the reader. Where there is none, a number is too long. -/
theorem ofText_spec (ceilings : Ceilings) (source : String) :
    match ofText ceilings source with
    | .ok explanation => explanation.Agrees ceilings source
    | .error reason => ∃ limit, reason = .numeral limit := by
  cases explained : ofText ceilings source with
  | ok explanation =>
      unfold ofText at explained
      split at explained
      · rename_i expression read
        simp only [mapError_eq_ok_iff, ofExpression, bind_eq_ok_iff, pure_eq_ok_iff] at explained
        obtain ⟨description, described, text, -, rfl⟩ := explained
        exact ⟨rfl, read, described⟩
      · rename_i fault read
        simp only [mapError_eq_ok_iff, ofFault, bind_eq_ok_iff, pure_eq_ok_iff] at explained
        obtain ⟨problem, told, rfl⟩ := explained
        exact ⟨rfl, read, told⟩
      · cases explained
      · cases explained
  | error reason =>
      unfold ofText at explained
      split at explained
      · exact exists_of_mapError_eq_error explained
      · exact exists_of_mapError_eq_error explained
      · cases explained
        exact ⟨_, rfl⟩
      · rename_i fault read
        exact absurd rfl (parse_fault_told read).2

variable {ceilings : Ceilings} {bound : Nat} {source : String} {expression : Expression}

theorem agrees_of_ofText {explanation : Explanation}
    (explained : ofText ceilings source = .ok explanation) :
    explanation.Agrees ceilings source := by
  have spec := ofText_spec ceilings source
  rwa [explained] at spec

theorem exists_ofExpression_iff (expressible : expression.Expressible ceilings)
    (moderate : ceilings.Below bound) (room : bound ≤ Text.writeBound) :
    (∃ explanation, ofExpression source expression = .ok explanation) ↔
      expression.modifier.natAbs < Text.writeBound := by
  obtain ⟨description, described, modifier, written⟩ :=
    Description.exists_ofExpression expressible fun term member =>
      (expressible.terms term member).writable moderate room
  rw [← modifier, ← Description.exists_text_iff written]
  constructor
  · intro found
    obtain ⟨explanation, found⟩ := found
    obtain ⟨other, same, found⟩ := bind_eq_ok_iff.mp found
    obtain ⟨text, shown, -⟩ := bind_eq_ok_iff.mp found
    cases described.symm.trans same
    exact ⟨text, shown⟩
  · intro found
    obtain ⟨text, shown⟩ := found
    exact ⟨_, bind_eq_ok_iff.mpr ⟨description, described, bind_eq_ok_iff.mpr ⟨text, shown, rfl⟩⟩⟩

/-- There is an explanation unless reading stops at a numeral or the modifier cannot be written. -/
theorem exists_ofText_iff (moderate : ceilings.Below bound)
    (room : bound * bound ≤ Text.writeBound) :
    (∃ explanation, ofText ceilings source = .ok explanation) ↔
      ¬ StopsAtNumeral ceilings source.toList ∧
        ∀ expression, Expression.parse ceilings source.toList = .ok expression →
          expression.modifier.natAbs < Text.writeBound := by
  have limit := moderate.le_writeBound room
  rw [← parse_overruns_iff moderate room]
  unfold ofText
  cases read : Expression.parse ceilings source.toList with
  | ok expression =>
      have expressible := expressible_of_parse read
      simp only [mapError_eq_ok_iff, exists_ofExpression_iff expressible moderate limit]
      constructor
      · intro short
        refine ⟨not_overruns_ok expression, fun other same => ?_⟩
        cases same
        exact short
      · intro writable
        exact writable.2 expression rfl
  | error fault =>
      cases fault with
      | refused fault =>
          obtain ⟨problem, told⟩ := (parse_fault_told read).1
          simp only [mapError_eq_ok_iff]
          exact iff_of_true ⟨_, bind_eq_ok_iff.mpr ⟨problem, told, rfl⟩⟩
            ⟨not_overruns_refused fault, nofun⟩
      | numeral limit =>
          refine iff_of_false ?_ fun both => both.1 ⟨limit, rfl⟩
          intro found
          obtain ⟨explanation, same⟩ := found
          cases same
      | term fault => exact absurd rfl (parse_fault_told read).2

theorem below_default : Ceilings.Below (10 ^ 6) {} :=
  ⟨by decide, by decide, by decide⟩

/-- Under the default ceilings too, it is only numbers that are too long, as they stand or added
up, that leave a notation without an explanation. -/
theorem exists_agrees_iff (source : String) :
    ((∃ explanation, ofText {} source = .ok explanation ∧ explanation.Agrees {} source) ↔
      ¬ StopsAtNumeral {} source.toList ∧
        ∀ expression, Expression.parse {} source.toList = .ok expression →
          expression.modifier.natAbs < Text.writeBound) ∧
    ∀ reason, ofText {} source = .error reason → ∃ limit, reason = .numeral limit := by
  rw [← exists_ofText_iff below_default (Text.square_le_writeBound 6 (by decide))]
  refine ⟨exists_congr fun explanation => and_iff_left_of_imp agrees_of_ofText, ?_⟩
  intro reason unexplained
  have spec := ofText_spec {} source
  rwa [unexplained] at spec

end Explanation

/-! ## Too many nines -/

section Numerals

variable {ceilings : Ceilings} {first digits : List Char} {expression : Expression}

/-- Reading stops at a numeral that is too long behind what can be read. -/
theorem stopsAtNumeral_append (read : Expression.parse ceilings first = .ok expression)
    (run : DigitRun digits) (long : ¬ Readable digits) (sign : Sign) :
    StopsAtNumeral ceilings (first ++ sign.operator :: digits) := by
  obtain ⟨pair, items, ⟨runs, cut, reads⟩, -⟩ := parse_eq_ok_iff_readsBehind.mp read
  refine ⟨hasDiePair_append_left pair _, runs.filter fun run => run.text ≠ [], ⟨sign, digits⟩, [],
    ⟨runs ++ [⟨sign, digits⟩], ?_, ?_⟩, ?_, .numeral run long⟩
  · rw [Text.deleteBlanks_append_operator, Text.deleteBlanks_eq_self run.inner.visible]
    exact cut.append (.last run.inner.operatorFree)
  · rw [List.filter_append, List.filter_cons_of_pos (by simpa using run.nonempty)]
    rfl
  · exact exists_items_iff.mp ⟨items, mapM_eq_ok_iff.mpr reads⟩

theorem digitRun_nines {count : Nat} (some : count ≠ 0) :
    DigitRun (List.replicate count '9') := by
  refine ⟨by simpa using some, fun c member => ?_⟩
  rw [List.eq_of_mem_replicate member]
  rfl

theorem readable_nines {count : Nat} :
    Readable (List.replicate count '9') ↔ count ≤ Text.maxDigits := by
  rw [Readable, List.length_replicate]

theorem Text.digitsValue_nines (count : Nat) :
    digitsValue (List.replicate count '9') + 1 = 10 ^ count := by
  induction count with
  | zero => rfl
  | succ count ih =>
      have value : digitsValue (List.replicate count '9' ++ ['9']) =
          digitsValue (List.replicate count '9') * 10 + 9 := by
        simp [digitsValue, digitValue]
      rw [List.replicate_succ', value, Nat.pow_succ, ← ih]
      omega

theorem Text.writeBound_le_nines {count : Nat} (full : maxDigits ≤ count) :
    writeBound ≤ digitsValue (List.replicate count '9') + 1 := by
  rw [digitsValue_nines, writeBound_eq]
  exact Nat.pow_le_pow_right (by decide) full

end Numerals

/-- The bonus has one digit too many as it stands, or once its two parts are added up. -/
theorem Explanation.unexplained_nines :
    (¬ ∃ explanation,
      ofText {} (String.ofList ("1d6+".toList ++ List.replicate 4301 '9')) = .ok explanation) ∧
    ¬ ∃ explanation,
      ofText {} (String.ofList ("1d6+1+".toList ++ List.replicate 4300 '9')) = .ok explanation := by
  have room := Text.square_le_writeBound 6 (by decide)
  have first : Expression.parse {} "1d6".toList = .ok
      ⟨[⟨1, .sided 6, none, none, false, none, by decide, by decide, by decide⟩], 0⟩ := by
    decide +kernel
  have second : Expression.parse {} "1d6+1".toList = .ok
      ⟨[⟨1, .sided 6, none, none, false, none, by decide, by decide, by decide⟩], 1⟩ := by
    decide +kernel
  simp only [exists_ofText_iff below_default room, String.toList_ofList]
  refine ⟨fun both => both.1 ?_, fun both => ?_⟩
  · have unreadable : ¬ Readable (List.replicate 4301 '9') := mt readable_nines.mp (by decide)
    exact stopsAtNumeral_append first (digitRun_nines (by decide)) unreadable .plus
  · have run : DigitRun (List.replicate 4300 '9') := digitRun_nines (by decide)
    have readable : Readable (List.replicate 4300 '9') := readable_nines.mpr (by decide)
    have bound : Text.writeBound ≤ Text.digitsValue (List.replicate 4300 '9') + 1 :=
      Text.writeBound_le_nines (by decide)
    generalize List.replicate 4300 '9' = nines at both run readable bound
    have short := both.2 _ (parse_append_number second run readable .plus)
    change (1 + (Text.digitsValue nines : Int)).natAbs < Text.writeBound at short
    omega

end TabletopDice
