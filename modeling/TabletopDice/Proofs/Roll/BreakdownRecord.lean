import TabletopDice.Proofs.Roll.BreakdownText
import TabletopDice.Proofs.Roll.RollAudit

/-!
The breakdown as a record. Its parts follow one another with signs between them, and behind the last
one stands the modifier. Since each part ends in one way only, two rolls with the same breakdown
have the same dice and the same total, whatever was rolled.
-/

set_option autoImplicit false

namespace TabletopDice

open Sequencing

namespace Term

theorem Recorded.toList_text {term : Term} {cap : Int} {part : TermRoll}
    (recorded : term.Recorded cap part) :
    part.text.toList = term.partChars part.dice part.score := by
  have dice := recorded.dice
  obtain ⟨pool, -, done⟩ := recorded
  simp only [TermRoll.ofPool, bind_eq_ok_iff, pure_eq_ok_iff] at done
  obtain ⟨text, written, rfl⟩ := done
  exact toList_of_breakdown dice written

theorem Recorded.score {term : Term} {cap : Int} {part : TermRoll}
    (recorded : term.Recorded cap part) :
    part.score = TermRoll.scoreOf term.success part.dice := by
  obtain ⟨pool, -, done⟩ := recorded
  exact (TermRoll.ofPool_eq_ok done).2.2

theorem Recorded.dice_ne_nil {term : Term} {cap : Int} {part : TermRoll}
    (recorded : term.Recorded cap part) : part.dice ≠ [] := by
  obtain ⟨first, rest, dice, -⟩ := recorded.owns.head
  rw [dice]
  exact List.cons_ne_nil first rest

/-- Parts of equal sign and text are equal, and they end at the same place. -/
theorem Recorded.text_append_inj {firstTerm secondTerm : Term} {firstCap secondCap : Int}
    {first second : TermRoll} {left right : List Char}
    (firstRecorded : firstTerm.Recorded firstCap first)
    (secondRecorded : secondTerm.Recorded secondCap second)
    (sign : first.isNegative = second.isNegative) (leftEnds : EndsPart left)
    (rightEnds : EndsPart right)
    (same : first.text.toList ++ left = second.text.toList ++ right) :
    first = second ∧ left = right := by
  have shown := same
  rw [firstRecorded.toList_text, secondRecorded.toList_text] at shown
  obtain ⟨dice, counted, rest⟩ := partChars_append_inj firstRecorded.dice secondRecorded.dice
    firstRecorded.dice_ne_nil secondRecorded.dice_ne_nil leftEnds rightEnds shown
  have score : first.score = second.score := by
    cases firstSuccess : firstTerm.success with
    | none =>
        rw [firstSuccess, Option.map_none, eq_comm, Option.map_eq_none_iff] at counted
        rw [firstRecorded.score, secondRecorded.score, firstSuccess, counted, dice]
    | some least =>
        rw [firstSuccess, Option.map_some, eq_comm, Option.map_eq_some_iff] at counted
        obtain ⟨_, -, equal⟩ := counted
        exact equal.symm
  subst rest
  have text := String.toList_inj.mp (List.append_cancel_right same)
  obtain ⟨firstSign, firstDice, firstScore, firstText⟩ := first
  obtain ⟨secondSign, secondDice, secondScore, secondText⟩ := second
  simp only at sign dice score text
  exact ⟨by rw [sign, dice, score, text], rfl⟩

end Term

/-- The parts have been recorded for some terms. -/
def IsRecord (parts : List TermRoll) : Prop :=
  ∀ part ∈ parts, ∃ (term : Term) (cap : Int), term.Recorded cap part

def modifierChars (modifier : Int) : List Char :=
  if modifier = 0 then [] else joiner (modifier < 0) ++ (modifier.natAbs : Int).repr.toList

/-- What stands behind the first part of a breakdown: the later parts and the modifier. -/
def laterChars (parts : List TermRoll) (modifier : Int) : List Char :=
  parts.flatMap (fun part => joiner part.isNegative ++ part.text.toList) ++ modifierChars modifier

theorem endsPart_laterChars (parts : List TermRoll) (modifier : Int) :
    EndsPart (laterChars parts modifier) := by
  cases parts with
  | nil =>
      by_cases zero : modifier = 0
      · exact .inl (by simp [laterChars, modifierChars, zero])
      · exact .inr ⟨_, _, by simp [laterChars, modifierChars, zero]; rfl⟩
  | cons part parts => exact .inr ⟨part.isNegative, _, by simp [laterChars]; rfl⟩

theorem joiner_append_inj {first second : Bool} {left right : List Char}
    (same : joiner first ++ left = joiner second ++ right) : first = second ∧ left = right := by
  cases first <;> cases second <;> simp_all [joiner]

theorem modifierChars_inj {first second : Int}
    (same : modifierChars first = modifierChars second) : first = second := by
  unfold modifierChars at same
  split at same
  · split at same
    · omega
    · simp [joiner] at same
  · split at same
    · simp [joiner] at same
    · obtain ⟨sign, digits⟩ := joiner_append_inj same
      have magnitude := Text.int_repr_toList_inj digits
      have signs : first < 0 ↔ second < 0 := decide_eq_decide.mp sign
      omega

/-- A part shows its number of dice and goes on with a letter, which no integer does. -/
theorem repr_ne_text {term : Term} {cap : Int} {part : TermRoll}
    (recorded : term.Recorded cap part) (number : Int) (negative : Bool) (rest : List Char) :
    number.repr.toList ≠ Text.flag '-' negative ++ (part.text.toList ++ rest) := by
  intro same
  have count : ∀ c ∈ Text.flag '-' negative ++ (term.magnitude : Int).repr.toList,
      Text.isSignedDigit c = true := by
    intro c member
    rcases List.mem_append.mp member with sign | digit
    · cases negative with
      | false => cases sign
      | true =>
          obtain rfl := List.mem_singleton.mp sign
          rfl
    · exact Text.isSignedDigit_of_mem_repr digit
  rw [recorded.toList_text, ← List.append_nil number.repr.toList, Term.partChars,
    List.append_assoc, ← List.append_assoc] at same
  obtain ⟨-, impossible⟩ := Text.run_append_inj (fun _ => Text.isSignedDigit_of_mem_repr)
    ((startsIn_nil ['d']).head?_eq_false Text.isSignedDigit (by decide)) count
    (fun c first => by cases first; rfl) same
  cases impossible

theorem modifierChars_ne_laterChars {part : TermRoll} {parts : List TermRoll}
    (recorded : IsRecord (part :: parts)) (first second : Int) :
    modifierChars first ≠ laterChars (part :: parts) second := by
  intro same
  obtain ⟨term, cap, partRecorded⟩ := recorded part List.mem_cons_self
  rw [laterChars, List.flatMap_cons, List.append_assoc, List.append_assoc] at same
  unfold modifierChars at same
  split at same
  · simp [joiner] at same
  · exact repr_ne_text partRecorded _ false _ (joiner_append_inj same).2

theorem laterChars_inj {first second : List TermRoll} {firstModifier secondModifier : Int}
    (firstRecord : IsRecord first) (secondRecord : IsRecord second)
    (same : laterChars first firstModifier = laterChars second secondModifier) :
    first = second ∧ firstModifier = secondModifier := by
  induction first generalizing second with
  | nil =>
      cases second with
      | nil => exact ⟨rfl, modifierChars_inj same⟩
      | cons part second => exact absurd same (modifierChars_ne_laterChars secondRecord _ _)
  | cons firstPart first ih =>
      cases second with
      | nil => exact absurd same.symm (modifierChars_ne_laterChars firstRecord _ _)
      | cons secondPart second =>
          obtain ⟨⟨firstTerm, firstCap, firstRecorded⟩, firstLater⟩ :=
            List.forall_mem_cons.mp firstRecord
          obtain ⟨⟨secondTerm, secondCap, secondRecorded⟩, secondLater⟩ :=
            List.forall_mem_cons.mp secondRecord
          simp only [laterChars, List.flatMap_cons, List.append_assoc] at same
          obtain ⟨sign, texts⟩ := joiner_append_inj same
          obtain ⟨rfl, rest⟩ := firstRecorded.text_append_inj secondRecorded sign
            (endsPart_laterChars first firstModifier) (endsPart_laterChars second secondModifier)
            texts
          obtain ⟨rfl, modifier⟩ := ih firstLater secondLater rest
          exact ⟨rfl, modifier⟩

/-! ## The whole breakdown -/

theorem toList_joinParts (first : TermRoll) (rest : List TermRoll) :
    (RollResult.joinParts (first :: rest)).toList =
      Text.flag '-' first.isNegative ++ (first.text.toList ++
        rest.flatMap fun part => joiner part.isNegative ++ part.text.toList) := by
  have folded : ∀ (parts : List TermRoll) (start : String),
      (parts.foldl (fun text part =>
          text ++ (if part.isNegative then " - " else " + ") ++ part.text) start).toList =
        start.toList ++ parts.flatMap fun part => joiner part.isNegative ++ part.text.toList := by
    intro parts
    induction parts with
    | nil => simp
    | cons part parts ih =>
        intro start
        have sign : (if part.isNegative then " - " else " + ").toList =
            joiner part.isNegative := by
          cases part.isNegative <;> rfl
        rw [List.foldl_cons, ih, String.toList_append, String.toList_append, sign,
          List.flatMap_cons, List.append_assoc, List.append_assoc, List.append_assoc]
  have sign : (if first.isNegative then "-" else "").toList =
      Text.flag '-' first.isNegative := by
    cases first.isNegative <;> rfl
  rw [RollResult.joinParts, folded, String.toList_append, sign, List.append_assoc]

theorem toList_of_modifierText {modifier : Int} {text : String}
    (written : RollResult.modifierText modifier = .ok text) :
    text.toList = modifierChars modifier := by
  unfold RollResult.modifierText at written
  unfold modifierChars
  split at written
  · cases written
    rename_i zero
    rw [if_pos zero]
    rfl
  · rename_i nonzero
    simp only [bind_eq_ok_iff, pure_eq_ok_iff, Text.writeNat, Text.writeInt_eq_ok_iff] at written
    obtain ⟨_, ⟨-, rfl⟩, rfl⟩ := written
    have sign : (if modifier < 0 then " - " else " + ").toList = joiner (modifier < 0) := by
      by_cases negative : modifier < 0 <;> simp [negative, joiner]
    rw [if_neg nonzero, String.toList_append, sign]

theorem toList_of_breakdownOf {first : TermRoll} {rest : List TermRoll} {modifier : Int}
    {text : String} (written : RollResult.breakdownOf (first :: rest) modifier = .ok text) :
    text.toList = Text.flag '-' first.isNegative ++ (first.text.toList ++
      laterChars rest modifier) := by
  simp only [RollResult.breakdownOf, bind_eq_ok_iff, pure_eq_ok_iff] at written
  obtain ⟨tail, tailWritten, rfl⟩ := written
  rw [String.toList_append, toList_joinParts, toList_of_modifierText tailWritten, laterChars]
  simp only [List.append_assoc]

/-- A part begins with a digit, not with a minus sign. -/
theorem minus_not_mem_head?_text {term : Term} {cap : Int} {part : TermRoll}
    (recorded : term.Recorded cap part) (rest : List Char) :
    '-' ∉ (part.text.toList ++ rest).head? := by
  rw [recorded.toList_text, Term.partChars, List.append_assoc]
  exact Text.minus_not_mem_head?_repr term.magnitude _

/-- A breakdown determines the parts and the modifier that it was written for. -/
theorem breakdownOf_inj {first second : List TermRoll} {firstModifier secondModifier : Int}
    {text : String} (firstRecord : IsRecord first) (secondRecord : IsRecord second)
    (firstWritten : RollResult.breakdownOf first firstModifier = .ok text)
    (secondWritten : RollResult.breakdownOf second secondModifier = .ok text) :
    first = second ∧ firstModifier = secondModifier := by
  -- Without any part the breakdown is an integer, and no part looks like one.
  cases first with
  | nil =>
      obtain ⟨-, rfl⟩ := Text.writeInt_eq_ok_iff.mp firstWritten
      cases second with
      | nil =>
          obtain ⟨-, same⟩ := Text.writeInt_eq_ok_iff.mp secondWritten
          exact ⟨rfl, (Text.int_repr_toList_inj (congrArg String.toList same)).symm⟩
      | cons part second =>
          obtain ⟨term, cap, recorded⟩ := secondRecord part List.mem_cons_self
          exact absurd (toList_of_breakdownOf secondWritten) (repr_ne_text recorded _ _ _)
  | cons firstPart first =>
      have firstShown := toList_of_breakdownOf firstWritten
      obtain ⟨⟨firstTerm, firstCap, firstRecorded⟩, firstLater⟩ :=
        List.forall_mem_cons.mp firstRecord
      cases second with
      | nil =>
          obtain ⟨-, rfl⟩ := Text.writeInt_eq_ok_iff.mp secondWritten
          exact absurd firstShown (repr_ne_text firstRecorded _ _ _)
      | cons secondPart second =>
          have secondShown := toList_of_breakdownOf secondWritten
          obtain ⟨⟨secondTerm, secondCap, secondRecorded⟩, secondLater⟩ :=
            List.forall_mem_cons.mp secondRecord
          obtain ⟨sign, texts⟩ := Text.flag_append_inj
            (minus_not_mem_head?_text firstRecorded _) (minus_not_mem_head?_text secondRecorded _)
            (firstShown.symm.trans secondShown)
          obtain ⟨rfl, rest⟩ := firstRecorded.text_append_inj secondRecorded sign
            (endsPart_laterChars first firstModifier) (endsPart_laterChars second secondModifier)
            texts
          obtain ⟨rfl, modifier⟩ := laterChars_inj firstLater secondLater rest
          exact ⟨rfl, modifier⟩

namespace Expression

theorem exists_record_of_roll {State : Type} {source : Source State} {expression : Expression}
    {cap : Int} {text : String} {label : Option String} {state next : State} {result : RollResult}
    (rolled : expression.roll source cap text label state = .ok result next) :
    ∃ parts, IsRecord parts ∧
      RollResult.breakdownOf parts expression.modifier = .ok result.breakdown ∧
      result.dice = (parts.map TermRoll.dice).flatten ∧
      result.total = expression.modifier + Number.sum (parts.map TermRoll.contribution) := by
  obtain ⟨parts, recorded, -, finished⟩ := roll_eq_ok_iff.mp rolled
  have sums := RollResult.ofParts_eq_ok finished
  refine ⟨parts, fun part member => ?_, RollResult.breakdownOf_eq_ok finished, sums.2, sums.1⟩
  obtain ⟨place, within, rfl⟩ := List.mem_iff_getElem.mp member
  exact ⟨_, cap, recorded.get (recorded.length_eq ▸ within) within⟩

section Records

variable {FirstState SecondState : Type} {firstSource : Source FirstState}
  {secondSource : Source SecondState} {first second : Expression} {firstCap secondCap : Int}
  {firstText secondText : String} {firstLabel secondLabel : Option String}
  {firstState firstNext : FirstState} {secondState secondNext : SecondState}
  {firstResult secondResult : RollResult}

/-- Rolls with the same breakdown have the same dice and the same total. -/
theorem dice_eq_of_breakdown_eq
    (firstRolled : first.roll firstSource firstCap firstText firstLabel firstState =
      .ok firstResult firstNext)
    (secondRolled : second.roll secondSource secondCap secondText secondLabel secondState =
      .ok secondResult secondNext)
    (same : firstResult.breakdown = secondResult.breakdown) :
    firstResult.dice = secondResult.dice ∧ firstResult.total = secondResult.total := by
  obtain ⟨firstParts, firstRecord, firstWritten, firstDice, firstTotal⟩ :=
    exists_record_of_roll firstRolled
  obtain ⟨secondParts, secondRecord, secondWritten, secondDice, secondTotal⟩ :=
    exists_record_of_roll secondRolled
  rw [same] at firstWritten
  obtain ⟨rfl, modifier⟩ := breakdownOf_inj firstRecord secondRecord firstWritten secondWritten
  rw [firstDice, secondDice, firstTotal, secondTotal, modifier]
  exact ⟨rfl, rfl⟩

end Records

/-- The term `volley` but for the faces that it throws again. -/
def salvo : Term :=
  { volley with reroll := some {1} }

theorem roll_salvo :
    Expression.roll Generator.source 1 ⟨[salvo], 4⟩ "" (some "again")
        (.scripted [6, 1, 1, 4, 5]) =
      .ok { volleyResult with label := some "again" } (.scripted [5]) := by
  have thrown : Pool.throwAll Generator.source salvo 1 (.scripted [6, 1, 1, 4, 5]) =
      .ok volleyPool (.scripted [5]) := rfl
  have filtered : TermRoll.ofPool salvo volleyPool = .ok volleyPart := ofPool_volley
  have part : TermRoll.roll Generator.source 1 salvo (.scripted [6, 1, 1, 4, 5]) =
      .ok volleyPart (.scripted [5]) := by
    rw [TermRoll.roll, run_bind_eq_ok_iff]
    exact ⟨_, _, thrown, by rw [filtered]; rfl⟩
  have finished : RollResult.ofParts [volleyPart] 4 "" (some "again") =
      .ok { volleyResult with label := some "again" } := by
    simp only [RollResult.ofParts, RollResult.breakdownOf, RollResult.modifierText, Text.writeNat]
    rw [writeInt_of_digit (by decide) (by decide)]
    rfl
  rw [Expression.roll, run_bind_eq_ok_iff]
  refine ⟨[volleyPart], .scripted [5], ?_, by rw [finished]; rfl⟩
  simp only [List.mapM_cons, List.mapM_nil, run_bind_eq_ok_iff]
  exact ⟨_, _, part, _, _, rfl, rfl⟩

theorem dice_eq_of_breakdown_eq_salvo :
    volleyResult.breakdown = { volleyResult with label := some "again" : RollResult }.breakdown ∧
      volleyResult.dice = { volleyResult with label := some "again" : RollResult }.dice ∧
      volleyResult.total = { volleyResult with label := some "again" : RollResult }.total :=
  ⟨rfl, dice_eq_of_breakdown_eq roll_volley roll_salvo rfl⟩

end Expression

end TabletopDice
