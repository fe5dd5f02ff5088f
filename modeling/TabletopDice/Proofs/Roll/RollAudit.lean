import TabletopDice.Proofs.Roll.RollRecord
import TabletopDice.Proofs.Text.Numerals
import TabletopDice.Source.Generator

/-!
Auditing a roll. The dice of a result can be cut into blocks for the terms in one way only, and from
these blocks alone one can recompute the total and tell which calls were made.
-/

set_option autoImplicit false

namespace TabletopDice

/-- The dice can be the block of a term: they begin with a base die and have as many base dice as
the term throws. -/
structure Term.Owns (term : Term) (block : List RolledDie) : Prop where
  head : ∃ first rest, block = first :: rest ∧ first.exploded = false
  base : block.countP (!·.exploded) = term.magnitude

/-- The blocks cut rolled dice into one block for each term, in order. -/
structure IsCut (terms : List Term) (dice : List RolledDie) (blocks : List (List RolledDie)) :
    Prop where
  joined : blocks.flatten = dice
  owned : List.Forall₂ Term.Owns terms blocks

namespace IsCut

/-- What is left after some whole blocks is nothing or begins with a base die. -/
theorem head_not_exploded {terms : List Term} {blocks : List (List RolledDie)}
    (owned : List.Forall₂ Term.Owns terms blocks) {die : RolledDie} {dice : List RolledDie}
    (joined : blocks.flatten = die :: dice) : die.exploded = false := by
  cases owned with
  | nil => cases joined
  | cons owns _ =>
      obtain ⟨first, rest, rfl, base⟩ := owns.head
      cases joined
      exact base

/-- A block cannot go on where another block of the same term ends. -/
theorem extension_eq_nil {term : Term} {terms : List Term} {block extension : List RolledDie}
    {blocks : List (List RolledDie)} {dice : List RolledDie} (shorter : term.Owns block)
    (longer : term.Owns (block ++ extension)) (owned : List.Forall₂ Term.Owns terms blocks)
    (joined : blocks.flatten = extension ++ dice) : extension = [] := by
  cases extension with
  | nil => rfl
  | cons die extension =>
      have base : die.exploded = false := head_not_exploded owned joined
      have counted := longer.base
      rw [List.countP_append, shorter.base, List.countP_cons, base] at counted
      simp at counted

theorem unique {terms : List Term} {dice : List RolledDie} {first second : List (List RolledDie)}
    (left : IsCut terms dice first) (right : IsCut terms dice second) : first = second := by
  induction terms generalizing dice first second with
  | nil =>
      cases left.owned
      cases right.owned
      rfl
  | cons term terms ih =>
      obtain ⟨leftJoined, leftOwned⟩ := left
      obtain ⟨rightJoined, rightOwned⟩ := right
      cases leftOwned with
      | @cons _ leftBlock _ leftBlocks leftOwns leftRest =>
          cases rightOwned with
          | @cons _ rightBlock _ rightBlocks rightOwns rightRest =>
              have joined := leftJoined.trans rightJoined.symm
              rw [List.flatten_cons, List.flatten_cons] at joined
              have same : leftBlock = rightBlock := by
                obtain ⟨extension, rfl, later⟩ | ⟨extension, rfl, later⟩ :=
                  List.append_eq_append_iff.mp joined
                · rw [extension_eq_nil leftOwns rightOwns leftRest later, List.append_nil]
                · rw [extension_eq_nil rightOwns leftOwns rightRest later, List.append_nil]
              subst same
              have rest := List.append_cancel_left joined
              rw [ih ⟨rest, leftRest⟩ ⟨rfl, rightRest⟩]

end IsCut

/-- What a die counts: the second throw if it was thrown again, else the first. -/
def RolledDie.effective (die : RolledDie) : Int :=
  match die.rerolled, die.modified with
  | true, some second => second
  | _, _ => die.result

namespace Term

variable {term : Term} {cap : Int}

/-- What the dice of a term's block are worth: the number of kept dice that reach the threshold, or
the sum of the kept dice. -/
def worth (term : Term) (block : List RolledDie) : Int :=
  match term.success with
  | some threshold => block.countP fun die => !die.dropped && threshold ≤ die.effective
  | none => Number.sum ((block.filter (!·.dropped)).map RolledDie.effective)

def share (term : Term) (block : List RolledDie) : Int :=
  if term.count < 0 then -term.worth block else term.worth block

theorem RecordedDie.value_eq {die : RolledDie} (recorded : term.RecordedDie die) :
    die.value = die.effective := by
  have both := recorded.rerolled_iff_isSome
  unfold RolledDie.value RolledDie.effective
  cases rerolled : die.rerolled with
  | false =>
      rw [rerolled] at both
      cases modified : die.modified with
      | none => rfl
      | some second => simp [modified] at both
  | true =>
      cases modified : die.modified with
      | none => simp [rerolled, modified] at both
      | some second => rfl

theorem scoreOf_eq_worth {block : List RolledDie}
    (recorded : ∀ die ∈ block, term.RecordedDie die) :
    TermRoll.scoreOf term.success block = term.worth block := by
  unfold TermRoll.scoreOf worth Selection.kept
  cases term.success with
  | none =>
      refine congrArg Number.sum (List.map_congr_left ?_)
      intro die member
      exact (recorded die (List.mem_of_mem_filter member)).value_eq
  | some threshold =>
      simp only [List.countP_filter]
      refine congrArg Nat.cast (List.countP_congr ?_)
      intro die member
      rw [(recorded die member).value_eq, Bool.and_comm]

theorem Recorded.owns {part : TermRoll} (recorded : term.Recorded cap part) :
    term.Owns part.dice := by
  obtain ⟨pool, shape, done⟩ := recorded
  rw [(TermRoll.ofPool_eq_ok done).2.1]
  constructor
  · obtain ⟨first, rest, rfl, base⟩ := shape.head
    exact Selection.head_apply base
  · rw [Selection.countP_base_apply, shape.countP_base]

theorem Recorded.dice {part : TermRoll} (recorded : term.Recorded cap part) :
    ∀ die ∈ part.dice, term.RecordedDie die := by
  obtain ⟨pool, shape, done⟩ := recorded
  rw [(TermRoll.ofPool_eq_ok done).2.1]
  exact Selection.recorded_apply fun die member => (shape.thrown die member).recorded

theorem Recorded.contribution {part : TermRoll} (recorded : term.Recorded cap part) :
    part.contribution = term.share part.dice := by
  have scored := scoreOf_eq_worth recorded.dice
  obtain ⟨pool, shape, done⟩ := recorded
  obtain ⟨negative, -, score⟩ := TermRoll.ofPool_eq_ok done
  rw [TermRoll.contribution, negative, score, scored]
  simp [share, isNegative]

end Term

namespace Expression

open Sequencing

variable {State : Type} {source : Source State} {expression : Expression} {cap : Int}
  {text : String} {label : Option String} {state next : State} {result : RollResult}

theorem map_contribution_eq {terms : List Term} {parts : List TermRoll}
    (recorded : List.Forall₂ (fun term part => term.Recorded cap part) terms parts) :
    parts.map TermRoll.contribution = List.zipWith Term.share terms (parts.map TermRoll.dice) := by
  induction recorded with
  | nil => rfl
  | cons first _ ih => simp only [List.map_cons, List.zipWith_cons_cons, first.contribution, ih]

theorem isCut_of_recorded {parts : List TermRoll}
    (recorded : List.Forall₂ (fun term part => term.Recorded cap part) expression.dice parts)
    (finished : RollResult.ofParts parts expression.modifier text label = .ok result) :
    IsCut expression.dice result.dice (parts.map TermRoll.dice) :=
  ⟨(RollResult.ofParts_eq_ok finished).2.symm,
    List.forall₂_map_right_iff.mpr (recorded.imp fun _ _ => Term.Recorded.owns)⟩

theorem isCut_around {earlier later : List Term} {term : Term} {parts rest : List TermRoll}
    {part : TermRoll} (terms : expression.dice = earlier ++ term :: later)
    (front : List.Forall₂ (fun term part => term.Recorded cap part) earlier parts)
    (recorded : term.Recorded cap part)
    (back : List.Forall₂ (fun term part => term.Recorded cap part) later rest)
    (finished : RollResult.ofParts (parts ++ part :: rest) expression.modifier text label =
      .ok result) :
    IsCut expression.dice result.dice
      (parts.map TermRoll.dice ++ part.dice :: rest.map TermRoll.dice) := by
  have all : List.Forall₂ (fun term part => term.Recorded cap part) expression.dice
      (parts ++ part :: rest) := by
    rw [terms]
    exact List.rel_append front (.cons recorded back)
  have cut := isCut_of_recorded all finished
  rwa [List.map_append, List.map_cons] at cut

theorem exists_blocks_of_roll
    (rolled : expression.roll source cap text label state = .ok result next) :
    ∃ blocks, IsCut expression.dice result.dice blocks ∧
      List.Forall₂ (fun term block => ∀ die ∈ block, term.RecordedDie die)
        expression.dice blocks ∧
      result.total =
        expression.modifier + Number.sum (List.zipWith Term.share expression.dice blocks) ∧
      ∀ earlier, expression.roll source.recorded cap text label (state, earlier) =
        .ok result (next, earlier ++ Term.callsOf expression.dice blocks) := by
  obtain ⟨parts, recorded, answers, finished⟩ := roll_eq_ok_iff.mp rolled
  have total := (RollResult.ofParts_eq_ok finished).1
  refine ⟨parts.map TermRoll.dice, isCut_of_recorded recorded finished, ?_, ?_, ?_⟩
  · rw [List.forall₂_map_right_iff]
    exact recorded.imp fun _ _ => Term.Recorded.dice
  · rw [total, map_contribution_eq recorded]
  · intro earlier
    exact roll_eq_ok_iff.mpr ⟨parts, recorded, answers.recorded earlier, finished⟩

/-! ## A roll in full -/

theorem writeInt_of_digit {number : Int} (nonnegative : 0 ≤ number) (small : number ≤ 9) :
    Text.writeInt number = .ok number.repr := by
  have few : number.natAbs < 1000 := by omega
  exact Text.writeInt_eq_ok_iff.mpr ⟨Text.lt_writeBound few, rfl⟩

/-- Two exploding dice that throw 1 and 9 again. The highest is dropped and the rest subtracted. -/
def volley : Term :=
  ⟨-2, .sided 6, some (.drop ⟨.highest, 1⟩), some (FaceSet.ofList [1, 9]), true, none,
    by decide, by decide, by decide⟩

def volleyPool : List RolledDie :=
  [{ size := 6, result := 6 }, { size := 6, result := 1, exploded := true },
    { size := 6, result := 1, modified := some 4, rerolled := true }]

def volleyPart : TermRoll where
  isNegative := true
  dice := [{ size := 6, result := 6, dropped := true },
    { size := 6, result := 1, exploded := true },
    { size := 6, result := 1, modified := some 4, rerolled := true }]
  score := 5
  text := "2d6:[6d,1!,1(r4)]"

def volleyResult : RollResult where
  total := -1
  dice := volleyPart.dice
  breakdown := "-2d6:[6d,1!,1(r4)] + 4"

theorem ofPool_volley : TermRoll.ofPool volley volleyPool = .ok volleyPart := by
  have ranking : Selection.ranking volleyPool =
      [({ size := 6, result := 6 }, 0),
        ({ size := 6, result := 1, modified := some 4, rerolled := true }, 2),
        ({ size := 6, result := 1, exploded := true }, 1)] := by
    simp [Selection.ranking, volleyPool, List.mergeSort, List.MergeSort.Internal.splitInTwo,
      RolledDie.value]
  have filtered : Selection.apply volley.filter volleyPool = volleyPart.dice := by
    simp only [volley, Selection.apply, Selection.mark, Selection.pickedPlaces, ranking]
    rfl
  have label : volley.label = .ok "2d6" := by
    simp only [Term.label, Text.writeNat, Term.sizeText, Term.magnitude, volley]
    rw [writeInt_of_digit (by decide) (by decide), writeInt_of_digit (by decide) (by decide)]
    rfl
  have tokens : volleyPart.dice.mapM RolledDie.token = .ok ["6d", "1!", "1(r4)"] := by
    simp [volleyPart, RolledDie.token, RolledDie.rerollText, writeInt_of_digit, bind,
      Except.bind, pure, Except.pure]
    decide
  simp only [TermRoll.ofPool, filtered, TermRoll.breakdown, label, tokens, bind, Except.bind]
  rfl

theorem roll_volley :
    Expression.roll Generator.source 10 ⟨[volley], 4⟩ "" none (.scripted [6, 1, 1, 4]) =
      .ok volleyResult (.scripted []) := by
  have thrown : Pool.throwAll Generator.source volley 10 (.scripted [6, 1, 1, 4]) =
      .ok volleyPool (.scripted []) := rfl
  have part : TermRoll.roll Generator.source 10 volley (.scripted [6, 1, 1, 4]) =
      .ok volleyPart (.scripted []) := by
    rw [TermRoll.roll, run_bind_eq_ok_iff]
    exact ⟨_, _, thrown, by rw [ofPool_volley]; rfl⟩
  have finished : RollResult.ofParts [volleyPart] 4 "" none = .ok volleyResult := by
    simp only [RollResult.ofParts, RollResult.breakdownOf, RollResult.modifierText, Text.writeNat]
    rw [writeInt_of_digit (by decide) (by decide)]
    rfl
  rw [Expression.roll, run_bind_eq_ok_iff]
  refine ⟨[volleyPart], .scripted [], ?_, by rw [finished]; rfl⟩
  simp only [List.mapM_cons, List.mapM_nil, run_bind_eq_ok_iff]
  exact ⟨_, _, part, _, _, rfl, rfl⟩

/-! ## What the dice tell -/

/-- The total of a roll follows from its dice. -/
theorem roll_total_eq
    (rolled : expression.roll source cap text label state = .ok result next) :
    ∃ blocks, IsCut expression.dice result.dice blocks ∧
      (∀ others, IsCut expression.dice result.dice others → others = blocks) ∧
      List.Forall₂ (fun term block => ∀ die ∈ block,
        die.size = term.size ∧ (die.dropped = true → term.filter.isSome)) expression.dice blocks ∧
      result.total =
        expression.modifier + Number.sum (List.zipWith Term.share expression.dice blocks) := by
  obtain ⟨blocks, cut, recorded, total, -⟩ := exists_blocks_of_roll rolled
  refine ⟨blocks, cut, fun others other => other.unique cut, recorded.imp ?_, total⟩
  intro term block all die member
  exact ⟨(all die member).size, (all die member).dropped⟩

theorem roll_total_eq_volley :
    ∃ blocks, IsCut [volley] volleyResult.dice blocks ∧
      (∀ others, IsCut [volley] volleyResult.dice others → others = blocks) ∧
      List.Forall₂ (fun term block => ∀ die ∈ block,
        die.size = term.size ∧ (die.dropped = true → term.filter.isSome)) [volley] blocks ∧
      volleyResult.total = 4 + Number.sum (List.zipWith Term.share [volley] blocks) :=
  roll_total_eq roll_volley

/-- A recorded roll notes the calls of its dice and nothing else. -/
theorem roll_recorded_eq
    (rolled : expression.roll source cap text label state = .ok result next)
    (earlier : List Call) :
    ∃ blocks, IsCut expression.dice result.dice blocks ∧
      expression.roll source.recorded cap text label (state, earlier) =
        .ok result (next, earlier ++ Term.callsOf expression.dice blocks) ∧
      List.Forall₂ (fun term block => ∀ die ∈ block,
        (die.rerolled = true ↔ die.modified.isSome) ∧
        (die.rerolled = true ↔ die.exploded = false ∧ term.Rerolls die.result))
        expression.dice blocks := by
  obtain ⟨blocks, cut, recorded, -, noted⟩ := exists_blocks_of_roll rolled
  refine ⟨blocks, cut, noted earlier, recorded.imp ?_⟩
  intro term block all die member
  exact ⟨(all die member).rerolled_iff_isSome, (all die member).rerolled_iff⟩

theorem roll_recorded_eq_volley :
    ∃ blocks, IsCut [volley] volleyResult.dice blocks ∧
      Expression.roll Generator.source.recorded 10 ⟨[volley], 4⟩ "" none
          (.scripted [6, 1, 1, 4], []) =
        .ok volleyResult (.scripted [], [] ++ Term.callsOf [volley] blocks) ∧
      List.Forall₂ (fun term block => ∀ die ∈ block,
        (die.rerolled = true ↔ die.modified.isSome) ∧
        (die.rerolled = true ↔ die.exploded = false ∧ term.Rerolls die.result))
        [volley] blocks :=
  roll_recorded_eq roll_volley []

end Expression

end TabletopDice
