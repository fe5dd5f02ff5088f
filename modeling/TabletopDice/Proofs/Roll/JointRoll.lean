import TabletopDice.Proofs.Roll.BreakdownRecord
import TabletopDice.Proofs.Roll.Interruption
import TabletopDice.Proofs.Roll.WrittenPart

/-!
Rolling expressions together. Two expressions put into one roll as if one were rolled after the
other: the draws are the same, dice follow one another and totals are added. Where no modifier
stands in between, the breakdown is made of the two breakdowns, the sign of the second becoming the
sign between them.
-/

set_option autoImplicit false

namespace TabletopDice

open Sequencing

/-- Running `joint` is running `first` and then, from the state that it leaves, `second`. What stops
one of the two stops `joint` in the same state, and what they return is joined. -/
structure Rolling.InTurn {State : Type} (joins : RollResult → RollResult → RollResult → Prop)
    (first second joint : Rolling State RollResult) (state : State) : Prop where
  firstStopped : ∀ fault next, (∀ limit, fault ≠ .numeral limit) →
    first state = .error fault next → joint state = .error fault next
  secondStopped : ∀ firstResult middle fault next, (∀ limit, fault ≠ .numeral limit) →
    first state = .ok firstResult middle → second middle = .error fault next →
    joint state = .error fault next
  returned : ∀ firstResult middle secondResult next, first state = .ok firstResult middle →
    second middle = .ok secondResult next →
    ∃ result, joint state = .ok result next ∧ joins firstResult secondResult result

/-- The text without the minus sign that it may begin with. -/
def Text.withoutMinus (text : String) : String :=
  match text.toList with
  | '-' :: rest => String.ofList rest
  | _ => text

theorem Text.toList_withoutMinus_flag {negative : Bool} {text : String} {rest : List Char}
    (shown : text.toList = flag '-' negative ++ rest) (unsigned : '-' ∉ rest.head?) :
    (withoutMinus text).toList = rest := by
  unfold withoutMinus
  cases negative with
  | true =>
      rw [shown]
      exact String.toList_ofList
  | false =>
      split
      · rename_i others same
        rw [show rest = '-' :: others from shown.symm.trans same] at unsigned
        exact absurd rfl unsigned
      · exact shown

theorem laterChars_append (parts : List TermRoll) (part : TermRoll) (others : List TermRoll) :
    laterChars (parts ++ part :: others) 0 =
      laterChars parts 0 ++
        (joiner part.isNegative ++ (part.text.toList ++ laterChars others 0)) := by
  simp [laterChars, modifierChars]

/-- Breakdowns without a modifier are joined by the sign that the second begins with, or by a plus
sign. -/
theorem breakdownOf_append {parts others : List TermRoll} {part other : TermRoll}
    {first second whole : String}
    (firstWritten : RollResult.breakdownOf (part :: parts) 0 = .ok first)
    (secondWritten : RollResult.breakdownOf (other :: others) 0 = .ok second)
    (written : RollResult.breakdownOf (part :: parts ++ other :: others) 0 = .ok whole)
    (unsigned : '-' ∉ (other.text.toList ++ laterChars others 0).head?) :
    whole = first ++ (if other.isNegative then " - " else " + ") ++ Text.withoutMinus second := by
  have sign : (if other.isNegative then " - " else " + ").toList = joiner other.isNegative := by
    cases other.isNegative <;> rfl
  have tail := Text.toList_withoutMinus_flag (toList_of_breakdownOf secondWritten) unsigned
  rw [List.cons_append] at written
  rw [← String.toList_inj, toList_of_breakdownOf written, laterChars_append, String.toList_append,
    String.toList_append, toList_of_breakdownOf firstWritten, sign, tail]
  simp only [List.append_assoc]

namespace Expression

/-- The result of two expressions together, from the results of each. -/
structure Joins (first second : Expression) (firstResult secondResult result : RollResult) :
    Prop where
  dice : result.dice = firstResult.dice ++ secondResult.dice
  total : result.total = firstResult.total + secondResult.total
  breakdown : ∀ leading others, first.dice ≠ [] → second.dice = leading :: others →
    first.modifier = 0 → second.modifier = 0 →
    result.breakdown = firstResult.breakdown ++ (if leading.isNegative then " - " else " + ") ++
      Text.withoutMinus secondResult.breakdown

variable {State : Type} {source : Source State} {cap : Int} {first second expression : Expression}
  {text firstText secondText : String} {label firstLabel secondLabel : Option String}

section Steps

variable {state next : State}

theorem mapM_eq_error_of_roll {fault : RollFault} (other : ∀ limit, fault ≠ .numeral limit)
    (stopped : expression.roll source cap text label state = .error fault next) :
    expression.dice.mapM (TermRoll.roll source cap) state = .error fault next := by
  obtain thrown | ⟨parts, middle, -, failed⟩ := run_bind_eq_error_iff.mp stopped
  · exact thrown
  · obtain ⟨⟨limit, -, same⟩, -⟩ := Rolling.written_eq_error_iff.mp failed
    exact absurd same (other limit)

theorem roll_eq_error_of_mapM {fault : RollFault}
    (stopped : expression.dice.mapM (TermRoll.roll source cap) state = .error fault next) :
    expression.roll source cap text label state = .error fault next :=
  run_bind_eq_error_iff.mpr (.inl stopped)

theorem exists_parts_of_roll {result : RollResult}
    (rolled : expression.roll source cap text label state = .ok result next) :
    ∃ parts, expression.dice.mapM (TermRoll.roll source cap) state = .ok parts next ∧
      List.Forall₂ (fun term part => term.Recorded cap part) expression.dice parts ∧
      RollResult.ofParts parts expression.modifier text label = .ok result := by
  obtain ⟨parts, middle, thrown, finished⟩ := run_bind_eq_ok_iff.mp rolled
  obtain ⟨done, rfl⟩ := Rolling.written_eq_ok_iff.mp finished
  exact ⟨parts, thrown, ((Rolling.mapM_eq_ok_iff (TermRoll.roll_yields cap)).mp thrown).1, done⟩

end Steps

theorem joins_of_ofParts {firstParts secondParts : List TermRoll}
    {firstResult secondResult result : RollResult}
    (firstRecorded : List.Forall₂ (fun term part => term.Recorded cap part) first.dice firstParts)
    (secondRecorded : List.Forall₂ (fun term part => term.Recorded cap part) second.dice
      secondParts)
    (firstDone : RollResult.ofParts firstParts first.modifier firstText firstLabel =
      .ok firstResult)
    (secondDone : RollResult.ofParts secondParts second.modifier secondText secondLabel =
      .ok secondResult)
    (done : RollResult.ofParts (firstParts ++ secondParts) (first.append second).modifier text
      label = .ok result) :
    Joins first second firstResult secondResult result where
  dice := by
    rw [(RollResult.ofParts_eq_ok done).2, (RollResult.ofParts_eq_ok firstDone).2,
      (RollResult.ofParts_eq_ok secondDone).2, List.map_append, List.flatten_append]
  total := by
    have modifier : (first.append second).modifier = first.modifier + second.modifier := rfl
    rw [(RollResult.ofParts_eq_ok done).1, (RollResult.ofParts_eq_ok firstDone).1,
      (RollResult.ofParts_eq_ok secondDone).1, List.map_append, Number.sum_append, modifier]
    omega
  breakdown leading others firstPresent secondDice firstZero secondZero := by
    have zero : (first.append second).modifier = 0 := by rw [append, firstZero, secondZero]; rfl
    rw [firstZero] at firstDone
    rw [secondZero] at secondDone
    rw [zero] at done
    rw [secondDice] at secondRecorded
    have present : firstParts ≠ [] := by
      rw [← List.length_pos_iff, ← firstRecorded.length_eq]
      exact List.length_pos_iff.mpr firstPresent
    obtain ⟨firstPart, firstRest, rfl⟩ := List.exists_cons_of_ne_nil present
    cases secondRecorded with
    | @cons _ secondPart _ secondRest recorded _ =>
        have sign : secondPart.isNegative = leading.isNegative := by
          obtain ⟨pool, -, made⟩ := recorded
          exact (TermRoll.ofPool_eq_ok made).1
        rw [← sign]
        exact breakdownOf_append (RollResult.breakdownOf_eq_ok firstDone)
          (RollResult.breakdownOf_eq_ok secondDone) (RollResult.breakdownOf_eq_ok done)
          (minus_not_mem_head?_text recorded _)

/-- Two expressions in one are rolled in turn. The only number that may be too long although those
of the two rolls are not is the sum of the modifiers. -/
theorem roll_append_inTurn (state : State) (earlier : List Call)
    (legible : (first.modifier + second.modifier).natAbs < Text.writeBound) :
    Rolling.InTurn (Joins first second)
      (first.roll source.recorded cap firstText firstLabel)
      (second.roll source.recorded cap secondText secondLabel)
      ((first.append second).roll source.recorded cap text label) (state, earlier) where
  firstStopped fault next other stopped := by
    refine roll_eq_error_of_mapM ?_
    rw [append, List.mapM_append, run_bind_eq_error_iff]
    exact .inl (mapM_eq_error_of_roll other stopped)
  secondStopped firstResult middle fault next other firstRolled stopped := by
    obtain ⟨parts, thrown, -, -⟩ := exists_parts_of_roll firstRolled
    refine roll_eq_error_of_mapM ?_
    rw [append, List.mapM_append, run_bind_eq_error_iff]
    refine .inr ⟨parts, middle, thrown, ?_⟩
    exact run_bind_eq_error_iff.mpr (.inl (mapM_eq_error_of_roll other stopped))
  returned firstResult middle secondResult next firstRolled secondRolled := by
    obtain ⟨firstParts, firstThrown, firstRecorded, firstDone⟩ := exists_parts_of_roll firstRolled
    obtain ⟨secondParts, secondThrown, secondRecorded, secondDone⟩ :=
      exists_parts_of_roll secondRolled
    obtain ⟨result, done⟩ :=
      RollResult.exists_ofParts (firstParts ++ secondParts) text label legible
    have thrown : (first.append second).dice.mapM (TermRoll.roll source.recorded cap)
        (state, earlier) = .ok (firstParts ++ secondParts) next := by
      rw [append, List.mapM_append]
      simp only [run_bind_eq_ok_iff, run_pure_eq_ok_iff]
      exact ⟨firstParts, middle, firstThrown, secondParts, next, secondThrown, rfl, rfl⟩
    refine ⟨result, ?_, joins_of_ofParts firstRecorded secondRecorded firstDone secondDone done⟩
    rw [roll, run_bind_eq_ok_iff]
    exact ⟨_, next, thrown, Rolling.written_eq_ok_iff.mpr ⟨done, rfl⟩⟩

theorem roll_append_inTurn_volley :
    (4 + -9 : Int).natAbs < Text.writeBound ∧
      Rolling.InTurn (Joins ⟨[volley], 4⟩ ⟨[salvo, volley], -9⟩)
        (Expression.roll Generator.source.recorded 10 ⟨[volley], 4⟩ "" none)
        (Expression.roll Generator.source.recorded 10 ⟨[salvo, volley], -9⟩ "" none)
        (Expression.roll Generator.source.recorded 10 ⟨[volley, salvo, volley], -5⟩ "" none)
        (.scripted [6, 1, 1, 4, 3, 3, 6, 6, 2], []) := by
  have few : (4 + -9 : Int).natAbs < Text.writeBound := Text.lt_writeBound (by decide)
  exact ⟨few, roll_append_inTurn _ _ few⟩

end Expression

end TabletopDice
