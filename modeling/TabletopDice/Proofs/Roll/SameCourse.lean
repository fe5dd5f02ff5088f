import TabletopDice.Proofs.Roll.Interruption

/-!
Two computations on one source that take the same course: both return, with values that belong
together, or both stop for the same reason, and either way the source is left in the same state.
Since texts may differ in length where the draws agree, runs that a numeral beyond the limit stops
are left out.
-/

set_option autoImplicit false

namespace TabletopDice.Rolling

open Sequencing

variable {State First Second FirstResult SecondResult : Type}

inductive SameCourse (related : First → Second → Prop) :
    EStateM.Result RollFault State First → EStateM.Result RollFault State Second → Prop where
  | returned {first : First} {second : Second} {next : State} (values : related first second) :
      SameCourse related (.ok first next) (.ok second next)
  | capped {label cap : String} {next : State} :
      SameCourse related (.error (.explosion label cap) next) (.error (.explosion label cap) next)
  | unanswered {fault : DrawFault} {next : State} :
      SameCourse related (.error (.draw fault) next) (.error (.draw fault) next)

/-- No numeral beyond the limit has stopped the run. -/
def Legible (outcome : EStateM.Result RollFault State First) : Prop :=
  ∀ limit next, outcome ≠ .error (.numeral limit) next

/-- From every state the computations take the same course, as far as both are legible. -/
def Agree (related : First → Second → Prop) (first : Rolling State First)
    (second : Rolling State Second) : Prop :=
  ∀ state, Legible (first state) → Legible (second state) →
    SameCourse related (first state) (second state)

theorem legible_of_ok {outcome : EStateM.Result RollFault State First} {value : First}
    {next : State} (returned : outcome = .ok value next) : Legible outcome := by
  rw [returned]
  exact nofun

theorem Legible.of_bind {step : Rolling State First} {later : First → Rolling State FirstResult}
    {state : State} (legible : Legible ((step >>= later) state)) : Legible (step state) := by
  intro limit next failed
  exact legible limit next (run_bind_eq_error_iff.mpr (.inl failed))

variable {related : First → Second → Prop} {relatedResults : FirstResult → SecondResult → Prop}

theorem Agree.pure {first : First} {second : Second} (values : related first second) :
    Agree related (pure first : Rolling State First) (pure second) :=
  fun _ _ _ => .returned values

theorem agree_self (action : Rolling State First) : Agree Eq action action := by
  intro state legible _
  cases outcome : action state with
  | ok value next => exact .returned rfl
  | error fault next =>
      cases fault with
      | explosion label cap => exact .capped
      | draw fault => exact .unanswered
      | numeral limit => exact absurd outcome (legible limit next)

theorem Agree.and_returns {first : Rolling State First} {second : Rolling State Second}
    {allowed : First → Prop} (agree : Agree related first second)
    (returns : ∀ state value next, first state = .ok value next → allowed value) :
    Agree (fun value other => related value other ∧ allowed value) first second := by
  intro state firstLegible secondLegible
  have course := agree state firstLegible secondLegible
  have returned := returns state
  generalize first state = outcome, second state = other at *
  cases course with
  | returned values => exact .returned ⟨values, returned _ _ rfl⟩
  | capped => exact .capped
  | unanswered => exact .unanswered

theorem agree_of_yields {source : Source State} {action : Rolling State First}
    {allowed : First → Prop} {calls : First → List Call}
    (yields : Yields source action allowed calls) :
    Agree (fun value other => value = other ∧ allowed value) action action :=
  (agree_self action).and_returns fun _ _ _ returned => ((yields _ _ _).mp returned).1

theorem agree_written {first : Except Text.DigitLimit First}
    {second : Except Text.DigitLimit Second}
    (values : ∀ firstValue secondValue, first = .ok firstValue → second = .ok secondValue →
      related firstValue secondValue) :
    Agree related (written first : Rolling State First) (written second) := by
  intro state firstLegible secondLegible
  cases first with
  | error limit => exact absurd rfl (firstLegible limit state)
  | ok firstValue =>
      cases second with
      | error limit => exact absurd rfl (secondLegible limit state)
      | ok secondValue => exact .returned (values _ _ rfl rfl)

theorem Agree.bind {firstStep : Rolling State First} {secondStep : Rolling State Second}
    {firstLater : First → Rolling State FirstResult}
    {secondLater : Second → Rolling State SecondResult}
    (steps : Agree related firstStep secondStep)
    (rest : ∀ first second, related first second →
      Agree relatedResults (firstLater first) (secondLater second)) :
    Agree relatedResults (firstStep >>= firstLater) (secondStep >>= secondLater) := by
  intro state firstLegible secondLegible
  have course := steps state firstLegible.of_bind secondLegible.of_bind
  simp only [Bind.bind, EStateM.bind] at firstLegible secondLegible ⊢
  generalize firstStep state = first, secondStep state = second at *
  cases course with
  | returned values => exact rest _ _ values _ firstLegible secondLegible
  | capped => exact .capped
  | unanswered => exact .unanswered

/-- Traversals agree if their members do, one by one. -/
theorem Agree.mapM {Member Other : Type} {firstStep : Member → Rolling State First}
    {secondStep : Other → Rolling State Second} {members : List Member} {others : List Other}
    (steps : List.Forall₂ (fun member other => Agree related (firstStep member) (secondStep other))
      members others) :
    Agree (List.Forall₂ related) (members.mapM firstStep) (others.mapM secondStep) := by
  induction steps with
  | nil => exact .pure .nil
  | cons first _ ih =>
      simp only [List.mapM_cons]
      refine first.bind fun _ _ value => ?_
      exact ih.bind fun _ _ values => .pure (.cons value values)

end TabletopDice.Rolling
