import TabletopDice.Proofs.Sequencing
import TabletopDice.Roll.Pool

/-!
The calls that a roll makes to its source. A source answers a list of calls if it answers them one
after the other from one state to another. What a computation draws is described without any
source: by the values that it may yield and, for each, the calls whose answers lead to it.
-/

set_option autoImplicit false

namespace TabletopDice

/-- One request for an integer between two bounds, and what the source made of it. -/
structure Call where
  low : Int
  high : Int
  outcome : Except DrawFault Int

def Call.answered (low high answer : Int) : Call :=
  ⟨low, high, .ok answer⟩

namespace Source

variable {State : Type}

/-- The source together with a list of all calls made to it, the latest last. -/
def recorded (source : Source State) : Source (State × List Call) :=
  source.observed fun calls low high outcome => calls ++ [⟨low, high, outcome⟩]

/-- The source answers the calls in order, beginning and ending in the given states. -/
inductive Answers (source : Source State) : State → List Call → State → Prop where
  | nil {state : State} : Answers source state [] state
  | cons {state middle next : State} {low high answer : Int} {calls : List Call}
      (drawn : source.draw low high state = .ok answer middle)
      (rest : Answers source middle calls next) :
      Answers source state (.answered low high answer :: calls) next

variable {source : Source State}

theorem answers_nil_iff {state next : State} : source.Answers state [] next ↔ state = next := by
  constructor
  · intro answers
    cases answers
    rfl
  · intro same
    exact same ▸ .nil

theorem answers_append_iff {first second : List Call} {state next : State} :
    source.Answers state (first ++ second) next ↔
      ∃ middle, source.Answers state first middle ∧ source.Answers middle second next := by
  constructor
  · intro answers
    induction first generalizing state with
    | nil => exact ⟨state, .nil, answers⟩
    | cons call first ih =>
        cases answers with
        | cons drawn rest =>
            obtain ⟨middle, before, after⟩ := ih rest
            exact ⟨middle, .cons drawn before, after⟩
  · intro answers
    obtain ⟨middle, before, after⟩ := answers
    induction before with
    | nil => exact after
    | cons drawn _ ih => exact .cons drawn (ih after)

theorem answers_singleton_iff {low high answer : Int} {state next : State} :
    source.Answers state [.answered low high answer] next ↔
      source.draw low high state = .ok answer next := by
  constructor
  · intro answers
    cases answers with
    | cons drawn rest =>
        cases rest
        exact drawn
  · intro drawn
    exact .cons drawn .nil

theorem answers_cons_iff {call : Call} {calls : List Call} {state next : State} :
    source.Answers state (call :: calls) next ↔
      ∃ middle, source.Answers state [call] middle ∧ source.Answers middle calls next := by
  rw [← List.singleton_append, answers_append_iff]

/-- Keeping a record does not change the answers, and the record grows by the calls. -/
theorem Answers.recorded {calls : List Call} {state next : State}
    (answers : source.Answers state calls next) (earlier : List Call) :
    source.recorded.Answers (state, earlier) calls (next, earlier ++ calls) := by
  induction answers generalizing earlier with
  | nil => simpa using Answers.nil
  | @cons state middle next low high answer calls drawn _ ih =>
      have noted : source.recorded.draw low high (state, earlier) =
          .ok answer (middle, earlier ++ [.answered low high answer]) := by
        simp [Source.recorded, Source.observed, drawn, Call.answered]
      have later := ih (earlier ++ [.answered low high answer])
      rw [List.append_assoc] at later
      exact .cons noted later

end Source

namespace Rolling

variable {State Value Result : Type}

/-- The computation succeeds with exactly the allowed values, each on the calls that belong to
it. -/
def Yields (source : Source State) (action : Rolling State Value) (allowed : Value → Prop)
    (calls : Value → List Call) : Prop :=
  ∀ state value next,
    action state = .ok value next ↔ allowed value ∧ source.Answers state (calls value) next

variable {source : Source State}

theorem draw_eq_ok_iff {low high answer : Int} {state next : State} :
    Rolling.draw source low high state = .ok answer next ↔
      source.Answers state [.answered low high answer] next := by
  rw [Source.answers_singleton_iff, Rolling.draw, Sequencing.run_adaptExcept_eq_ok_iff]

theorem written_eq_ok_iff {text : Except Text.DigitLimit Value} {value : Value}
    {state next : State} :
    (Rolling.written text : Rolling State Value) state = .ok value next ↔
      text = .ok value ∧ state = next := by
  cases text with
  | error limit =>
      constructor
      · intro impossible
        cases impossible
      · intro impossible
        cases impossible.1
  | ok found => simp [Rolling.written, Sequencing.run_pure_eq_ok_iff]

theorem Yields.repeated {action : Rolling State Value} {allowed : Value → Prop}
    {calls : Value → List Call} (yields : Yields source action allowed calls) (times : Nat) :
    Yields source (TabletopDice.repeated times action)
      (fun values => values.length = times ∧ ∀ value ∈ values, allowed value)
      (List.flatMap calls) := by
  induction times with
  | zero =>
      intro state values next
      rw [repeated_zero, Sequencing.run_pure_eq_ok_iff]
      constructor
      · intro done
        obtain ⟨rfl, rfl⟩ := done
        exact ⟨⟨rfl, by simp⟩, .nil⟩
      · intro done
        obtain ⟨⟨empty, -⟩, answers⟩ := done
        obtain rfl := List.eq_nil_of_length_eq_zero empty
        exact ⟨rfl, Source.answers_nil_iff.mp answers⟩
  | succ times ih =>
      intro state values next
      rw [repeated_succ, Sequencing.run_bind_eq_ok_iff]
      simp only [Sequencing.run_bind_eq_ok_iff, Sequencing.run_pure_eq_ok_iff]
      constructor
      · intro done
        obtain ⟨value, middle, first, others, last, rest, rfl, rfl⟩ := done
        obtain ⟨firstAllowed, firstAnswers⟩ := (yields _ _ _).mp first
        obtain ⟨⟨length, restAllowed⟩, restAnswers⟩ := (ih _ _ _).mp rest
        refine ⟨⟨by rw [List.length_cons, length],
          List.forall_mem_cons.mpr ⟨firstAllowed, restAllowed⟩⟩, ?_⟩
        exact Source.answers_append_iff.mpr ⟨middle, firstAnswers, restAnswers⟩
      · intro done
        obtain ⟨⟨length, all⟩, answers⟩ := done
        cases values with
        | nil => cases length
        | cons value others =>
            obtain ⟨firstAllowed, restAllowed⟩ := List.forall_mem_cons.mp all
            obtain ⟨middle, firstAnswers, restAnswers⟩ := Source.answers_append_iff.mp answers
            exact ⟨value, middle, (yields _ _ _).mpr ⟨firstAllowed, firstAnswers⟩, others, next,
              (ih _ _ _).mpr ⟨⟨Nat.succ.inj length, restAllowed⟩, restAnswers⟩, rfl, rfl⟩

/-- A traversal makes the calls of its results in the order of the members. -/
theorem mapM_eq_ok_iff {Member : Type} {step : Member → Rolling State Value}
    {allowed : Member → Value → Prop} {calls : Member → Value → List Call}
    (yields : ∀ member, Yields source (step member) (allowed member) (calls member))
    {members : List Member} {state next : State} {values : List Value} :
    members.mapM step state = .ok values next ↔
      List.Forall₂ allowed members values ∧
        source.Answers state (List.zipWith calls members values).flatten next := by
  induction members generalizing state values with
  | nil =>
      rw [List.mapM_nil, Sequencing.run_pure_eq_ok_iff, List.forall₂_nil_left_iff]
      constructor
      · intro done
        obtain ⟨rfl, rfl⟩ := done
        exact ⟨rfl, .nil⟩
      · intro done
        obtain ⟨rfl, answers⟩ := done
        exact ⟨rfl, Source.answers_nil_iff.mp answers⟩
  | cons member members ih =>
      simp only [List.mapM_cons, Sequencing.run_bind_eq_ok_iff, Sequencing.run_pure_eq_ok_iff]
      constructor
      · intro done
        obtain ⟨value, middle, first, others, last, rest, rfl, rfl⟩ := done
        obtain ⟨firstAllowed, firstAnswers⟩ := (yields _ _ _ _).mp first
        obtain ⟨restAllowed, restAnswers⟩ := ih.mp rest
        exact ⟨.cons firstAllowed restAllowed,
          Source.answers_append_iff.mpr ⟨middle, firstAnswers, restAnswers⟩⟩
      · intro done
        obtain ⟨all, answers⟩ := done
        cases all with
        | @cons _ value _ others firstAllowed restAllowed =>
            obtain ⟨middle, firstAnswers, restAnswers⟩ := Source.answers_append_iff.mp answers
            exact ⟨value, middle, (yields _ _ _ _).mpr ⟨firstAllowed, firstAnswers⟩, others, next,
              ih.mpr ⟨restAllowed, restAnswers⟩, rfl, rfl⟩

end Rolling

end TabletopDice
