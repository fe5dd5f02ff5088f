import TabletopDice.Proofs.Sequencing
import TabletopDice.Service.Exchange

/-!
Which bodies are accepted. A check that is made of checks on single fields accepts exactly what all
of them accept, and what it reads is put together from what they read. For a request for statistics
this comes to a text for its notation and a number of rolls that is left out or at least one.
-/

set_option autoImplicit false

namespace TabletopDice

open Sequencing

namespace Data

section Checks

variable {Read Result : Type}

theorem Checked.seq_eq_accepted_iff {first : Checked (Read → Result)} {second : Checked Read}
    {result : Result} :
    (first <*> second) = .accepted result ↔
      ∃ change read, first = .accepted change ∧ second = .accepted read ∧ change read = result := by
  change first.apply second = .accepted result ↔ _
  cases first <;> cases second <;> simp [Checked.apply]

theorem Checked.map_eq_accepted_iff {change : Read → Result} {check : Checked Read}
    {result : Result} :
    check.map change = .accepted result ↔
      ∃ read, check = .accepted read ∧ change read = result := by
  cases check <;> simp [Checked.map]

theorem Checked.under_eq_accepted_iff {step : Step} {check : Checked Read} {read : Read} :
    check.under step = .accepted read ↔ check = .accepted read := by
  cases check <;> simp [Checked.under]

theorem Checked.ofRule_eq_accepted_iff {rule : Field.Rule Read} {value : Value} {read : Read} :
    Checked.ofRule rule value = .accepted read ↔ rule value = .ok read := by
  unfold Checked.ofRule
  cases rule value <;> simp

end Checks

namespace Field

variable {Read : Type} {object : Value} {name : String}

theorem required_eq_accepted_iff {check : Value → Checked Read} {read : Read} :
    required object name check = .accepted read ↔
      ∃ value, object.field? name = some value ∧ check value = .accepted read := by
  unfold required
  cases object.field? name <;> simp [Checked.under_eq_accepted_iff]

theorem optional_eq_accepted_iff {absent read : Read} {check : Value → Checked Read} :
    optional object name absent check = .accepted read ↔
      (object.field? name = none ∧ absent = read) ∨
        ∃ value, object.field? name = some value ∧ check value = .accepted read := by
  unfold optional
  cases object.field? name <;> simp [Checked.under_eq_accepted_iff]

theorem text_eq_ok_iff {value : Value} {read : String} :
    text value = .ok read ↔ value = .text read := by
  cases value <;> simp [text]

theorem integerFrom_eq_ok_iff {bound number : Int} {value : Value} :
    integerFrom bound value = .ok number ↔ integer value = .ok number ∧ bound ≤ number := by
  unfold integerFrom
  rw [bind_eq_ok_iff]
  constructor
  · intro found
    obtain ⟨read, here, found⟩ := found
    split at found
    · cases found
    · cases found
      exact ⟨here, by omega⟩
  · intro found
    obtain ⟨here, enough⟩ := found
    exact ⟨number, here, if_neg (by omega)⟩

end Field

end Data

namespace Service

open Data

/-- What the field for the number of rolls may hold, and the number that it names, if any. -/
inductive RollsField : Option Value → Option Int → Prop where
  | absent : RollsField none none
  | null : RollsField (some .null) none
  | given {value number} : Field.integer value = .ok number → 1 ≤ number →
      RollsField (some value) (some number)

theorem RollsField.one_le {found : Option Value} {rolls : Option Int}
    (field : RollsField found rolls) : ∀ number ∈ rolls, 1 ≤ number := by
  intro number named
  cases field with
  | absent => cases named
  | null => cases named
  | given _ enough =>
      cases named
      exact enough

theorem rollsField_iff {object : Value} {rolls : Option Int} :
    Field.optional object "iterations" none
        (Field.nullable (.ofRule (Field.integerFrom 1))) = .accepted rolls ↔
      RollsField (object.field? "iterations") rolls := by
  rw [Field.optional_eq_accepted_iff]
  constructor
  · intro accepted
    rcases accepted with ⟨missing, rfl⟩ | ⟨value, present, accepted⟩
    · rw [missing]
      exact .absent
    · rw [present]
      unfold Field.nullable at accepted
      split at accepted
      · cases accepted
        exact .null
      · obtain ⟨number, checked, rfl⟩ := Checked.map_eq_accepted_iff.mp accepted
        rw [Checked.ofRule_eq_accepted_iff, Field.integerFrom_eq_ok_iff] at checked
        exact .given checked.1 checked.2
  · intro field
    generalize object.field? "iterations" = found at field
    cases field with
    | absent => exact .inl ⟨rfl, rfl⟩
    | null => exact .inr ⟨.null, rfl, rfl⟩
    | @given value number read enough =>
        refine .inr ⟨value, rfl, ?_⟩
        unfold Field.nullable
        split
        · cases read
        · refine Checked.map_eq_accepted_iff.mpr ⟨number, ?_, rfl⟩
          exact Checked.ofRule_eq_accepted_iff.mpr (Field.integerFrom_eq_ok_iff.mpr ⟨read, enough⟩)

theorem StatisticsRequest.check_eq_accepted_iff {object : Value} {request : StatisticsRequest} :
    StatisticsRequest.check object = .accepted request ↔
      object.field? "notation" = some (.text request.text) ∧
        RollsField (object.field? "iterations") request.iterations := by
  unfold StatisticsRequest.check
  rw [Checked.seq_eq_accepted_iff]
  constructor
  · intro accepted
    obtain ⟨_, rolls, made, counted, rfl⟩ := accepted
    obtain ⟨text, named, rfl⟩ := Checked.map_eq_accepted_iff.mp made
    obtain ⟨value, present, checked⟩ := Field.required_eq_accepted_iff.mp named
    obtain rfl := Field.text_eq_ok_iff.mp (Checked.ofRule_eq_accepted_iff.mp checked)
    exact ⟨present, rollsField_iff.mp counted⟩
  · intro formed
    obtain ⟨present, field⟩ := formed
    have text : Checked.ofRule Field.text (.text request.text) = .accepted request.text := rfl
    refine ⟨_, request.iterations, Checked.map_eq_accepted_iff.mpr ⟨request.text, ?_, rfl⟩,
      rollsField_iff.mpr field, rfl⟩
    exact Field.required_eq_accepted_iff.mpr ⟨_, present, text⟩

/-- A body is accepted exactly if it is an object with a text for its notation and a number of
rolls that is left out or at least one. -/
theorem StatisticsRequest.accepted_iff {body : Option Value} {request : StatisticsRequest} :
    checkBody StatisticsRequest.check body = .accepted request ↔
      ∃ fields, body = some (.object fields) ∧
        Value.field? (.object fields) "notation" = some (.text request.text) ∧
        RollsField (Value.field? (.object fields) "iterations") request.iterations := by
  constructor
  · intro accepted
    cases body with
    | none => cases accepted
    | some value =>
        cases value with
        | object fields =>
            have checked := Checked.under_eq_accepted_iff.mp accepted
            exact ⟨fields, rfl, StatisticsRequest.check_eq_accepted_iff.mp checked⟩
        | _ => cases accepted
  · intro formed
    obtain ⟨fields, rfl, formed⟩ := formed
    exact Checked.under_eq_accepted_iff.mpr (StatisticsRequest.check_eq_accepted_iff.mpr formed)

theorem StatisticsRequest.one_le_of_accepted {body : Option Value} {request : StatisticsRequest}
    (accepted : checkBody StatisticsRequest.check body = .accepted request) :
    ∀ number ∈ request.iterations, 1 ≤ number := by
  obtain ⟨fields, -, -, field⟩ := StatisticsRequest.accepted_iff.mp accepted
  exact field.one_le

end Service

end TabletopDice
