import TabletopDice.Proofs.Roll.BreakdownRecord
import TabletopDice.Proofs.Roll.SameCourse

/-!
Options that only read dice. Sign, filter, threshold and modifier say how thrown dice are read. They
have no influence on what is thrown, so that expressions which differ in nothing else make the same
draws and come to the same end; turning all signs round turns the total round and does nothing else.
-/

set_option autoImplicit false

namespace TabletopDice

open Sequencing

/-- The terms throw as many dice of one kind, with the same faces thrown again and the same bonus
dice. -/
structure Term.ThrowsAlike (first second : Term) : Prop where
  magnitude : first.magnitude = second.magnitude
  die : first.die = second.die
  reroll : first.reroll = second.reroll
  explode : first.explode = second.explode

namespace Term.ThrowsAlike

variable {first second : Term} (alike : first.ThrowsAlike second)
include alike

theorem size : first.size = second.size := congrArg Die.size alike.die

theorem maxFace : first.maxFace = second.maxFace := congrArg Die.maxFace alike.die

theorem label : first.label = second.label := by
  unfold Term.label
  rw [alike.magnitude, alike.die]

end Term.ThrowsAlike

def RolledDie.unmarked (die : RolledDie) : RolledDie :=
  { die with dropped := false }

variable {State : Type} {source : Source State} {cap : Int}

namespace Pool

variable {first second : Term}

theorem capFault_congr (alike : first.ThrowsAlike second) :
    capFault first cap = capFault second cap := by
  unfold capFault
  rw [alike.label]

theorem continueChain_congr (alike : first.ThrowsAlike second) (allowance : Nat)
    (thrown : List RolledDie) :
    continueChain source first cap allowance thrown =
      continueChain source second cap allowance thrown := by
  induction allowance generalizing thrown with
  | zero => rw [continueChain, continueChain, capFault_congr alike]
  | succ allowance ih =>
      rw [continueChain, continueChain, alike.die, alike.size, alike.maxFace]
      simp only [ih]

theorem throwAll_congr (alike : first.ThrowsAlike second) :
    throwAll source first cap = throwAll source second cap := by
  have dice : throwDie source first = throwDie source second := by
    rw [throwDie, throwDie, alike.die, alike.size, alike.reroll]
  have chains : chain source first cap = chain source second cap :=
    continueChain_congr alike cap.toNat []
  have block : block source first cap = block source second cap := by
    rw [block, block, dice, chains, alike.explode, alike.maxFace]
  rw [throwAll, throwAll, blocks, blocks, block, alike.magnitude]

end Pool

theorem TermRoll.roll_agree {first second : Term} (alike : first.ThrowsAlike second) :
    Rolling.Agree
      (fun firstPart secondPart : TermRoll =>
        firstPart.dice.map RolledDie.unmarked = secondPart.dice.map RolledDie.unmarked)
      (roll source cap first) (roll source cap second) := by
  rw [roll, roll, Pool.throwAll_congr alike]
  refine (Rolling.agree_self _).bind fun pool _ same => Rolling.agree_written ?_
  subst same
  intro firstPart secondPart firstDone secondDone
  rw [(ofPool_eq_ok firstDone).2.1, (ofPool_eq_ok secondDone).2.1,
    Selection.map_apply (fun _ _ => rfl), Selection.map_apply (fun _ _ => rfl)]

/-! ## Turning the signs round -/

def Term.negate (term : Term) : Term :=
  { term with
    count := -term.count
    count_ne_zero := Int.neg_ne_zero.mpr term.count_ne_zero
    filter_fits := by
      rw [Int.natAbs_neg]
      exact term.filter_fits }

def Expression.negate (expression : Expression) : Expression :=
  ⟨expression.dice.map Term.negate, -expression.modifier⟩

@[simp] theorem Term.filter_negate (term : Term) : term.negate.filter = term.filter := rfl

@[simp] theorem Term.success_negate (term : Term) : term.negate.success = term.success := rfl

theorem Term.throwsAlike_negate (term : Term) : term.ThrowsAlike term.negate :=
  ⟨(Int.natAbs_neg term.count).symm, rfl, rfl, rfl⟩

theorem Term.isNegative_negate (term : Term) : term.negate.isNegative = !term.isNegative := by
  have nonzero := term.count_ne_zero
  simp only [isNegative, negate]
  by_cases negative : term.count < 0
  · simp [negative]
    omega
  · simp [negative]
    omega

/-- What a term gives with the other sign. -/
def TermRoll.opposite (part : TermRoll) : TermRoll :=
  { part with isNegative := !part.isNegative }

theorem TermRoll.contribution_opposite (part : TermRoll) :
    part.opposite.contribution = -part.contribution := by
  cases sign : part.isNegative <;> simp [contribution, opposite, sign]

theorem TermRoll.ofPool_negate (term : Term) (pool : List RolledDie) :
    ofPool term.negate pool = (ofPool term pool).map opposite := by
  have text : ∀ dice score, breakdown term.negate dice score = breakdown term dice score := by
    intro dice score
    rw [breakdown, breakdown, ← term.throwsAlike_negate.label, term.success_negate]
  simp only [ofPool, term.filter_negate, term.success_negate, text, term.isNegative_negate]
  generalize breakdown term _ _ = written
  cases written <;> rfl

theorem TermRoll.roll_negate_agree (term : Term) :
    Rolling.Agree (fun part other : TermRoll => other = part.opposite)
      (roll source cap term) (roll source cap term.negate) := by
  rw [roll, roll, Pool.throwAll_congr term.throwsAlike_negate]
  refine (Rolling.agree_self _).bind fun pool _ same => Rolling.agree_written ?_
  subst same
  intro part other done otherDone
  rw [ofPool_negate, done] at otherDone
  cases otherDone
  rfl

namespace Expression

variable {first second : Expression} {text otherText : String} {label otherLabel : Option String}
  {state : State} {earlier : List Call}

theorem roll_agree (alike : List.Forall₂ Term.ThrowsAlike first.dice second.dice) :
    Rolling.Agree
      (fun result other : RollResult =>
        result.dice.map RolledDie.unmarked = other.dice.map RolledDie.unmarked)
      (first.roll source cap text label) (second.roll source cap otherText otherLabel) := by
  refine (Rolling.Agree.mapM (alike.imp fun _ _ => TermRoll.roll_agree)).bind
    fun parts others same => Rolling.agree_written ?_
  intro result other finished otherFinished
  rw [(RollResult.ofParts_eq_ok finished).2, (RollResult.ofParts_eq_ok otherFinished).2]
  clear finished otherFinished
  induction same with
  | nil => rfl
  | cons part _ ih =>
      simp only [List.map_cons, List.flatten_cons, List.map_append, part, ih]

theorem roll_negate_agree (expression : Expression) :
    Rolling.Agree
      (fun result other : RollResult => other.dice = result.dice ∧ other.total = -result.total)
      (expression.roll source cap text label)
      (expression.negate.roll source cap otherText otherLabel) := by
  have turned : List.Forall₂ (fun term other => Rolling.Agree
      (fun part other : TermRoll => other = part.opposite)
      (TermRoll.roll source cap term) (TermRoll.roll source cap other))
      expression.dice expression.negate.dice :=
    List.forall₂_map_right_iff.mpr (List.forall₂_same.mpr fun term _ =>
      TermRoll.roll_negate_agree term)
  refine (Rolling.Agree.mapM turned).bind fun parts others opposite => Rolling.agree_written ?_
  have others : others = parts.map TermRoll.opposite := by
    induction opposite with
    | nil => rfl
    | cons part _ ih => rw [List.map_cons, part, ih]
  subst others
  intro result other finished otherFinished
  obtain ⟨total, dice⟩ := RollResult.ofParts_eq_ok finished
  obtain ⟨otherTotal, otherDice⟩ := RollResult.ofParts_eq_ok otherFinished
  rw [total, dice, otherTotal, otherDice, List.map_map, List.map_map]
  refine ⟨rfl, ?_⟩
  have contributions : TermRoll.contribution ∘ TermRoll.opposite =
      fun part : TermRoll => -part.contribution := funext TermRoll.contribution_opposite
  have modifier : expression.negate.modifier = -expression.modifier := rfl
  rw [contributions, Number.sum_map_neg, modifier, Int.neg_add]

/-- What a roll draws, how it ends and which dice it throws is left alone by everything that only
says how dice are read. -/
theorem roll_sameCourse (alike : List.Forall₂ Term.ThrowsAlike first.dice second.dice)
    (firstLegible : Rolling.Legible
      (first.roll source.recorded cap text label (state, earlier)))
    (secondLegible : Rolling.Legible
      (second.roll source.recorded cap otherText otherLabel (state, earlier))) :
    Rolling.SameCourse
      (fun result other : RollResult =>
        result.dice.map RolledDie.unmarked = other.dice.map RolledDie.unmarked)
      (first.roll source.recorded cap text label (state, earlier))
      (second.roll source.recorded cap otherText otherLabel (state, earlier)) ∧
    (second = first.negate → Rolling.SameCourse
      (fun result other : RollResult => other.dice = result.dice ∧ other.total = -result.total)
      (first.roll source.recorded cap text label (state, earlier))
      (second.roll source.recorded cap otherText otherLabel (state, earlier))) := by
  refine ⟨roll_agree alike _ firstLegible secondLegible, fun negated => ?_⟩
  subst negated
  exact roll_negate_agree first _ firstLegible secondLegible

theorem roll_negate_volley :
    Expression.roll Generator.source 10 (negate ⟨[volley], 4⟩) "" none (.scripted [6, 1, 1, 4]) =
      .ok { volleyResult with total := 1, breakdown := "2d6:[6d,1!,1(r4)] - 4" }
        (.scripted []) := by
  have thrown : Pool.throwAll Generator.source volley.negate 10 (.scripted [6, 1, 1, 4]) =
      .ok volleyPool (.scripted []) := rfl
  have part : TermRoll.roll Generator.source 10 volley.negate (.scripted [6, 1, 1, 4]) =
      .ok volleyPart.opposite (.scripted []) := by
    rw [TermRoll.roll, run_bind_eq_ok_iff]
    exact ⟨_, _, thrown, by rw [TermRoll.ofPool_negate, ofPool_volley]; rfl⟩
  have finished : RollResult.ofParts [volleyPart.opposite] (-4) "" none =
      .ok { volleyResult with total := 1, breakdown := "2d6:[6d,1!,1(r4)] - 4" } := by
    simp only [RollResult.ofParts, RollResult.breakdownOf, RollResult.modifierText, Text.writeNat]
    rw [writeInt_of_digit (by decide) (by decide)]
    rfl
  rw [Expression.roll, run_bind_eq_ok_iff]
  refine ⟨[volleyPart.opposite], .scripted [], ?_, by rw [negate, finished]; rfl⟩
  simp only [negate, List.map_cons, List.map_nil, List.mapM_cons, List.mapM_nil,
    run_bind_eq_ok_iff]
  exact ⟨_, _, part, _, _, rfl, rfl⟩

theorem roll_sameCourse_volley :
    let first := Expression.roll Generator.source.recorded 10 ⟨[volley], 4⟩ "" none
      (.scripted [6, 1, 1, 4], [])
    let second := Expression.roll Generator.source.recorded 10 (negate ⟨[volley], 4⟩) "" none
      (.scripted [6, 1, 1, 4], [])
    List.Forall₂ Term.ThrowsAlike [volley] [volley.negate] ∧
      Rolling.Legible first ∧ Rolling.Legible second ∧
      Rolling.SameCourse
        (fun result other : RollResult =>
          result.dice.map RolledDie.unmarked = other.dice.map RolledDie.unmarked) first second ∧
      Rolling.SameCourse
        (fun result other : RollResult => other.dice = result.dice ∧ other.total = -result.total)
        first second := by
  intro first second
  have alike : List.Forall₂ Term.ThrowsAlike [volley] [volley.negate] :=
    .cons volley.throwsAlike_negate .nil
  have firstLegible : Rolling.Legible first := by
    obtain ⟨_, -, -, -, noted⟩ := exists_blocks_of_roll roll_volley
    exact Rolling.legible_of_ok (noted [])
  have secondLegible : Rolling.Legible second := by
    obtain ⟨_, -, -, -, noted⟩ := exists_blocks_of_roll roll_negate_volley
    exact Rolling.legible_of_ok (noted [])
  obtain ⟨course, turned⟩ := roll_sameCourse alike firstLegible secondLegible
  exact ⟨alike, firstLegible, secondLegible, course, turned rfl⟩

end Expression

end TabletopDice
