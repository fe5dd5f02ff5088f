import TabletopDice.Proofs.Roll.FaceBounds

/-!
Rolling on listed draws. What a computation draws from a list is a front part of the list, and what
stands behind that part has no influence on it.
-/

set_option autoImplicit false

namespace TabletopDice

open Sequencing

/-! ## Taking draws from a list -/

namespace Generator

variable {Value Result : Type} {draws left : List Int} {calls : List Call} {next : Generator}

theorem draw_scripted_eq_ok_iff {low high answer : Int} :
    draw low high (.scripted draws) = .ok answer next ↔
      (low ≤ answer ∧ answer ≤ high) ∧ ∃ rest, draws = answer :: rest ∧ next = .scripted rest := by
  cases draws with
  | nil => simp [draw]
  | cons value rest =>
      simp only [draw]
      split
      · rename_i within
        simp only [EStateM.Result.ok.injEq, List.cons.injEq]
        constructor
        · intro drawn
          obtain ⟨rfl, rfl⟩ := drawn
          exact ⟨within, rest, ⟨rfl, rfl⟩, rfl⟩
        · intro drawn
          obtain ⟨-, _, ⟨rfl, rfl⟩, rfl⟩ := drawn
          exact ⟨rfl, rfl⟩
      · rename_i outside
        simp only [reduceCtorEq, List.cons.injEq, false_iff]
        intro drawn
        obtain ⟨within, _, ⟨rfl, -⟩, -⟩ := drawn
        exact outside within

theorem answers_scripted_append
    (answers : source.Answers (.scripted draws) calls (.scripted left)) (rest : List Int) :
    source.Answers (.scripted (draws ++ rest)) calls (.scripted (left ++ rest)) := by
  induction calls generalizing draws with
  | nil =>
      cases answers
      exact .nil
  | cons call calls ih =>
      cases answers with
      | cons drawn later =>
          obtain ⟨within, others, rfl, rfl⟩ := draw_scripted_eq_ok_iff.mp drawn
          exact .cons (draw_scripted_eq_ok_iff.mpr ⟨within, _, rfl, rfl⟩) (ih later)

/-- Listed draws answer calls with a front part of the list and leave what follows it. -/
theorem exists_front_of_answers (answers : source.Answers (.scripted draws) calls next) :
    ∃ front left, draws = front ++ left ∧ next = .scripted left ∧
      source.Answers (.scripted front) calls (.scripted []) := by
  induction calls generalizing draws with
  | nil =>
      cases answers
      exact ⟨[], draws, rfl, rfl, .nil⟩
  | cons call calls ih =>
      cases answers with
      | @cons _ _ _ _ _ answer _ drawn later =>
          obtain ⟨within, others, rfl, rfl⟩ := draw_scripted_eq_ok_iff.mp drawn
          obtain ⟨front, left, rfl, rfl, rest⟩ := ih later
          exact ⟨answer :: front, left, rfl, rfl,
            .cons (draw_scripted_eq_ok_iff.mpr ⟨within, _, rfl, rfl⟩) rest⟩

/-- The draws are the answers. -/
theorem eq_of_answers_map {found : List Int} {low high : Int}
    (answers : source.Answers (.scripted draws) (found.map (.answered low high)) (.scripted [])) :
    draws = found := by
  induction found generalizing draws with
  | nil =>
      cases answers
      rfl
  | cons value found ih =>
      cases answers with
      | cons drawn later =>
          obtain ⟨-, others, rfl, rfl⟩ := draw_scripted_eq_ok_iff.mp drawn
          rw [ih later]

/-- Listed draws within the bounds answer as many calls as there are draws. -/
theorem answers_map {low high : Int} (within : ∀ draw ∈ draws, low ≤ draw ∧ draw ≤ high) :
    source.Answers (.scripted draws) (draws.map (.answered low high)) (.scripted []) := by
  induction draws with
  | nil => exact .nil
  | cons draw draws ih =>
      obtain ⟨here, later⟩ := List.forall_mem_cons.mp within
      exact .cons (draw_scripted_eq_ok_iff.mpr ⟨here, draws, rfl, rfl⟩) (ih later)

/-- The action returns the value and takes exactly the listed draws for it. -/
def Spends (action : Rolling Generator Value) (draws : List Int) (value : Value) : Prop :=
  action (.scripted draws) = .ok value (.scripted [])

variable {action step : Rolling Generator Value} {allowed : Value → Prop}
  {callsOf : Value → List Call} {value : Value}

theorem Spends.append (yields : Rolling.Yields source action allowed callsOf)
    (spends : Spends action draws value) (rest : List Int) :
    action (.scripted (draws ++ rest)) = .ok value (.scripted rest) := by
  obtain ⟨permitted, answers⟩ := (yields _ _ _).mp spends
  exact (yields _ _ _).mpr ⟨permitted, answers_scripted_append answers rest⟩

theorem exists_spends (yields : Rolling.Yields source action allowed callsOf)
    (returned : action (.scripted draws) = .ok value next) :
    ∃ front left, draws = front ++ left ∧ next = .scripted left ∧ Spends action front value := by
  obtain ⟨permitted, answers⟩ := (yields _ _ _).mp returned
  obtain ⟨front, left, split, left_eq, taken⟩ := exists_front_of_answers answers
  exact ⟨front, left, split, left_eq, (yields _ _ _).mpr ⟨permitted, taken⟩⟩

theorem Spends.bind {later : Value → Rolling Generator Result} {rest : List Int} {result : Result}
    (yields : Rolling.Yields source step allowed callsOf) (first : Spends step draws value)
    (second : Spends (later value) rest result) : Spends (step >>= later) (draws ++ rest) result :=
  run_bind_eq_ok_iff.mpr ⟨value, _, first.append yields rest, second⟩

theorem Spends.exists_of_bind {later : Value → Rolling Generator Result} {result : Result}
    (yields : Rolling.Yields source step allowed callsOf)
    (spends : Spends (step >>= later) draws result) :
    ∃ value front back, draws = front ++ back ∧ Spends step front value ∧
      Spends (later value) back result := by
  obtain ⟨value, middle, first, second⟩ := run_bind_eq_ok_iff.mp spends
  obtain ⟨front, back, split, rfl, taken⟩ := exists_spends yields first
  exact ⟨value, front, back, split, taken, second⟩

theorem spends_pure_iff {result : Value} :
    Spends (pure value) draws result ↔ draws = [] ∧ value = result := by
  rw [Spends, run_pure_eq_ok_iff, Generator.scripted.injEq]
  exact And.comm

/-- What an action takes from a list is determined by the list. -/
theorem Spends.unique {others rest otherRest : List Int} {other : Value}
    (yields : Rolling.Yields source action allowed callsOf) (first : Spends action draws value)
    (second : Spends action others other) (same : draws ++ rest = others ++ otherRest) :
    draws = others ∧ rest = otherRest := by
  have taken := first.append yields rest
  rw [same, second.append yields otherRest] at taken
  cases taken
  exact ⟨List.append_cancel_right same, rfl⟩

theorem spends_cons_iff {later : Rolling Generator (List Value)} {permitted : List Value → Prop}
    {laterCalls : List Value → List Call} {values : List Value}
    (yields : Rolling.Yields source action allowed callsOf)
    (laterYields : Rolling.Yields source later permitted laterCalls) :
    Spends (action >>= fun value => later >>= fun rest => pure (value :: rest)) draws values ↔
      ∃ value rest front back, draws = front ++ back ∧ values = value :: rest ∧
        Spends action front value ∧ Spends later back rest := by
  constructor
  · intro spends
    obtain ⟨value, front, behind, rfl, first, spends⟩ := spends.exists_of_bind yields
    obtain ⟨rest, back, none, rfl, second, spends⟩ := spends.exists_of_bind laterYields
    obtain ⟨rfl, rfl⟩ := spends_pure_iff.mp spends
    exact ⟨value, rest, front, _, rfl, rfl, first, by rwa [List.append_nil]⟩
  · intro found
    obtain ⟨value, rest, front, back, rfl, rfl, first, second⟩ := found
    refine first.bind yields ?_
    rw [← List.append_nil back]
    exact second.bind laterYields (spends_pure_iff.mpr ⟨rfl, rfl⟩)

theorem spends_repeated_iff (yields : Rolling.Yields source action allowed callsOf) {times : Nat}
    {values : List Value} :
    Spends (repeated times action) draws values ↔
      ∃ blocks : List (List Int), draws = blocks.flatten ∧ blocks.length = times ∧
        List.Forall₂ (Spends action) blocks values := by
  induction times generalizing draws values with
  | zero =>
      rw [repeated_zero, spends_pure_iff]
      constructor
      · intro none
        obtain ⟨rfl, rfl⟩ := none
        exact ⟨[], rfl, rfl, .nil⟩
      · intro divided
        obtain ⟨blocks, rfl, length, spends⟩ := divided
        obtain rfl := List.eq_nil_of_length_eq_zero length
        cases spends
        exact ⟨rfl, rfl⟩
  | succ times ih =>
      rw [repeated_succ, spends_cons_iff yields (yields.repeated times)]
      constructor
      · intro spends
        obtain ⟨value, rest, front, back, rfl, rfl, first, later⟩ := spends
        obtain ⟨blocks, rfl, rfl, each⟩ := ih.mp later
        exact ⟨front :: blocks, rfl, rfl, .cons first each⟩
      · intro divided
        obtain ⟨blocks, rfl, length, each⟩ := divided
        cases each with
        | nil => cases length
        | cons first each =>
            exact ⟨_, _, _, _, rfl, rfl, first, ih.mpr ⟨_, rfl, Nat.succ.inj length, each⟩⟩

end Generator

/-! ## Rolling terms on listed draws -/

namespace TermRoll

open Generator

variable {cap : Int} {draws : List Int} {term : Term} {terms : List Term} {part : TermRoll}
  {parts : List TermRoll}

theorem mapM_roll_yields {State : Type} {source : Source State} (cap : Int) (terms : List Term) :
    Rolling.Yields source (terms.mapM (TermRoll.roll source cap))
      (List.Forall₂ (fun term part => term.Recorded cap part) terms)
      (fun parts => (List.zipWith (fun term part => term.blockCalls part.dice) terms
        parts).flatten) :=
  fun _ _ _ => Rolling.mapM_eq_ok_iff (roll_yields cap)

theorem spends_roll_iff :
    Spends (TermRoll.roll source cap term) draws part ↔
      ∃ pool, Spends (Pool.throwAll source term cap) draws pool ∧ ofPool term pool = .ok part := by
  simp only [Spends, TermRoll.roll, run_bind_eq_ok_iff, Rolling.written_eq_ok_iff]
  constructor
  · intro rolled
    obtain ⟨pool, _, thrown, recorded, rfl⟩ := rolled
    exact ⟨pool, thrown, recorded⟩
  · intro rolled
    obtain ⟨pool, thrown, recorded⟩ := rolled
    exact ⟨pool, _, thrown, recorded, rfl⟩

theorem spends_mapM_nil_iff :
    Spends (([] : List Term).mapM (TermRoll.roll source cap)) draws parts ↔
      draws = [] ∧ parts = [] := by
  rw [List.mapM_nil, spends_pure_iff, eq_comm (a := [])]

theorem spends_mapM_cons_iff :
    Spends ((term :: terms).mapM (TermRoll.roll source cap)) draws parts ↔
      ∃ part rest front back, draws = front ++ back ∧ parts = part :: rest ∧
        Spends (TermRoll.roll source cap term) front part ∧
        Spends (terms.mapM (TermRoll.roll source cap)) back rest := by
  rw [List.mapM_cons]
  exact spends_cons_iff (roll_yields cap term) (mapM_roll_yields cap terms)

end TermRoll

theorem Expression.roll_scripted_eq_ok_iff {expression : Expression} {cap : Int} {text : String}
    {label : Option String} {draws : List Int} {result : RollResult} {next : Generator} :
    expression.roll Generator.source cap text label (.scripted draws) = .ok result next ↔
      ∃ front left parts, draws = front ++ left ∧ next = .scripted left ∧
        Generator.Spends (expression.dice.mapM (TermRoll.roll Generator.source cap)) front parts ∧
        RollResult.ofParts parts expression.modifier text label = .ok result := by
  simp only [Expression.roll, run_bind_eq_ok_iff, Rolling.written_eq_ok_iff]
  have yields : Rolling.Yields Generator.source
      (expression.dice.mapM (TermRoll.roll Generator.source cap)) _ _ :=
    TermRoll.mapM_roll_yields cap expression.dice
  constructor
  · intro rolled
    obtain ⟨parts, _, thrown, finished, rfl⟩ := rolled
    obtain ⟨front, left, split, rest, spends⟩ := Generator.exists_spends yields thrown
    exact ⟨front, left, parts, split, rest, spends, finished⟩
  · intro rolled
    obtain ⟨front, left, parts, rfl, rfl, spends, finished⟩ := rolled
    exact ⟨parts, _, spends.append yields left, finished, rfl⟩

end TabletopDice
