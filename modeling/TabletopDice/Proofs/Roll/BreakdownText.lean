import TabletopDice.Proofs.Roll.RollRecord
import TabletopDice.Proofs.Text.Delimited

/-!
The characters of a breakdown, part by part. Where a breakdown is written at all, its characters are
those given here, and each part can be told from whatever may follow it.
-/

set_option autoImplicit false

namespace TabletopDice

open Sequencing

namespace Text

/-- The characters that may stand behind a written integer. None of them continues it. -/
def integerEnds : List Char := ['(', ')', '!', 'd', ',', ']', ':', ' ']

theorem repr_append_inj {first second : Int} {left right : List Char}
    (leftEnds : StartsIn integerEnds left) (rightEnds : StartsIn integerEnds right)
    (same : first.repr.toList ++ left = second.repr.toList ++ right) :
    first = second ∧ left = right := by
  obtain ⟨digits, rest⟩ := run_append_inj (fun _ => isSignedDigit_of_mem_repr)
    (leftEnds.head?_eq_false isSignedDigit (by decide)) (fun _ => isSignedDigit_of_mem_repr)
    (rightEnds.head?_eq_false isSignedDigit (by decide)) same
  exact ⟨int_repr_toList_inj digits, rest⟩

end Text

/-! ## Dice -/

def rerollChars : Option Int → List Char
  | none => []
  | some face => '(' :: 'r' :: (face.repr.toList ++ [')'])

theorem startsIn_rerollChars (modified : Option Int) {marks rest : List Char}
    (starts : StartsIn marks rest) : StartsIn ('(' :: marks) (rerollChars modified ++ rest) := by
  cases modified with
  | none => exact starts.mono (List.subset_cons_self '(' marks)
  | some face => exact .cons List.mem_cons_self

theorem rerollChars_append_inj {first second : Option Int} {left right : List Char}
    (notLeft : '(' ∉ left.head?) (notRight : '(' ∉ right.head?)
    (same : rerollChars first ++ left = rerollChars second ++ right) :
    first = second ∧ left = right := by
  have notReroll : ∀ {text : List Char}, '(' ∉ text.head? → ∀ face rest,
      text ≠ rerollChars (some face) ++ rest := by
    intro text other face rest shown
    rw [shown] at other
    exact other rfl
  refine Text.option_append_inj rfl (notReroll notLeft) (notReroll notRight) ?_ same
  intro firstFace secondFace shown
  simp only [rerollChars, List.cons_append, List.append_assoc, List.cons.injEq,
    true_and] at shown
  obtain ⟨faces, rest⟩ := Text.repr_append_inj (.cons (by decide)) (.cons (by decide)) shown
  exact ⟨faces, (List.cons.inj rest).2⟩

namespace RolledDie

def chars (die : RolledDie) : List Char :=
  die.result.repr.toList ++
    (rerollChars die.modified ++ (Text.flag '!' die.exploded ++ Text.flag 'd' die.dropped))

theorem toList_of_rerollText {die : RolledDie} {text : String}
    (shown : die.rerolled = true ↔ die.modified.isSome) (written : die.rerollText = .ok text) :
    text.toList = rerollChars die.modified := by
  unfold rerollText at written
  cases modified : die.modified with
  | none =>
      have settled : die.rerolled = false := by simpa [modified] using shown
      simp only [settled, modified] at written
      cases written
      rfl
  | some face =>
      have rerolled : die.rerolled = true := shown.mpr (by rw [modified]; rfl)
      simp only [rerolled, modified, bind_eq_ok_iff, Text.writeInt_eq_ok_iff,
        pure_eq_ok_iff] at written
      obtain ⟨_, ⟨-, rfl⟩, rfl⟩ := written
      simp only [String.toList_append, toString]
      rfl

theorem toList_of_token {die : RolledDie} {text : String}
    (shown : die.rerolled = true ↔ die.modified.isSome) (written : die.token = .ok text) :
    text.toList = die.chars := by
  simp only [token, bind_eq_ok_iff, pure_eq_ok_iff, Text.writeInt_eq_ok_iff] at written
  obtain ⟨_, ⟨-, rfl⟩, reroll, rerollWritten, rfl⟩ := written
  have bonus : (if die.exploded then "!" else "").toList = Text.flag '!' die.exploded := by
    cases die.exploded <;> rfl
  have drop : (if die.dropped then "d" else "").toList = Text.flag 'd' die.dropped := by
    cases die.dropped <;> rfl
  simp only [String.toList_append, toList_of_rerollText shown rerollWritten, bonus, drop, chars,
    List.append_assoc]

/-- A written die shows everything about the die but its size. -/
theorem chars_append_inj {firstTerm secondTerm : Term} {first second : RolledDie}
    {left right : List Char} (firstRecorded : firstTerm.RecordedDie first)
    (secondRecorded : secondTerm.RecordedDie second) (size : firstTerm.size = secondTerm.size)
    (leftStarts : StartsIn [',', ']'] left) (rightStarts : StartsIn [',', ']'] right)
    (same : first.chars ++ left = second.chars ++ right) : first = second ∧ left = right := by
  have behind : ∀ {die : RolledDie} {rest : List Char}, StartsIn [',', ']'] rest →
      StartsIn ['!', 'd', ',', ']']
        (Text.flag '!' die.exploded ++ (Text.flag 'd' die.dropped ++ rest)) :=
    fun starts => Text.startsIn_flag '!' _ (Text.startsIn_flag 'd' _ starts)
  simp only [chars, List.append_assoc] at same
  obtain ⟨result, same⟩ := Text.repr_append_inj
    ((startsIn_rerollChars _ (behind leftStarts)).mono (by decide))
    ((startsIn_rerollChars _ (behind rightStarts)).mono (by decide)) same
  obtain ⟨modified, same⟩ := rerollChars_append_inj
    ((behind leftStarts).not_mem (by decide)) ((behind rightStarts).not_mem (by decide)) same
  obtain ⟨exploded, same⟩ := Text.flag_append_inj
    ((Text.startsIn_flag 'd' _ leftStarts).not_mem (by decide))
    ((Text.startsIn_flag 'd' _ rightStarts).not_mem (by decide)) same
  obtain ⟨dropped, rest⟩ := Text.flag_append_inj (leftStarts.not_mem (by decide))
    (rightStarts.not_mem (by decide)) same
  refine ⟨?_, rest⟩
  have sizes : first.size = second.size := by
    rw [firstRecorded.size, secondRecorded.size, size]
  have rerolled : first.rerolled = second.rerolled := by
    rw [Bool.eq_iff_iff, firstRecorded.rerolled_iff_isSome, secondRecorded.rerolled_iff_isSome,
      modified]
  cases first
  cases second
  simp_all

end RolledDie

def diceChars : List RolledDie → List Char
  | [] => [']']
  | first :: rest => first.chars ++ (rest.flatMap (fun die => ',' :: die.chars) ++ [']'])

theorem laterDice_append_inj {firstTerm secondTerm : Term}
    (size : firstTerm.size = secondTerm.size) {first second : List RolledDie}
    (firstRecorded : ∀ die ∈ first, firstTerm.RecordedDie die)
    (secondRecorded : ∀ die ∈ second, secondTerm.RecordedDie die) {left right : List Char}
    (same : first.flatMap (fun die => ',' :: die.chars) ++ ']' :: left =
      second.flatMap (fun die => ',' :: die.chars) ++ ']' :: right) :
    first = second ∧ left = right := by
  have starts : ∀ (dice : List RolledDie) (rest : List Char),
      StartsIn [',', ']'] (dice.flatMap (fun die => ',' :: die.chars) ++ ']' :: rest) := by
    intro dice rest
    cases dice with
    | nil => exact .cons (by decide)
    | cons die dice => exact .cons (by decide)
  induction first generalizing second with
  | nil =>
      cases second with
      | nil => exact ⟨rfl, (List.cons.inj same).2⟩
      | cons die second => simp at same
  | cons firstDie first ih =>
      cases second with
      | nil => simp at same
      | cons secondDie second =>
          obtain ⟨firstHead, firstTail⟩ := List.forall_mem_cons.mp firstRecorded
          obtain ⟨secondHead, secondTail⟩ := List.forall_mem_cons.mp secondRecorded
          simp only [List.flatMap_cons, List.cons_append, List.append_assoc, List.cons.injEq,
            true_and] at same
          obtain ⟨rfl, later⟩ := RolledDie.chars_append_inj firstHead secondHead size
            (starts _ _) (starts _ _) same
          obtain ⟨rfl, rest⟩ := ih firstTail secondTail later
          exact ⟨rfl, rest⟩

theorem diceChars_append_inj {firstTerm secondTerm : Term}
    (size : firstTerm.size = secondTerm.size) {first second : List RolledDie}
    (firstRecorded : ∀ die ∈ first, firstTerm.RecordedDie die)
    (secondRecorded : ∀ die ∈ second, secondTerm.RecordedDie die)
    (firstPresent : first ≠ []) (secondPresent : second ≠ []) {left right : List Char}
    (same : diceChars first ++ left = diceChars second ++ right) :
    first = second ∧ left = right := by
  -- A comma in front makes the first die one of the later ones.
  refine laterDice_append_inj size firstRecorded secondRecorded ?_
  cases first with
  | nil => exact absurd rfl firstPresent
  | cons firstDie first =>
      cases second with
      | nil => exact absurd rfl secondPresent
      | cons secondDie second => simpa [diceChars] using same

theorem toList_intercalate {dice : List RolledDie} {tokens : List String}
    (recorded : ∀ die ∈ dice, die.rerolled = true ↔ die.modified.isSome)
    (written : dice.mapM RolledDie.token = .ok tokens) :
    (",".intercalate tokens ++ "]").toList = diceChars dice := by
  have shown : tokens.map String.toList = dice.map RolledDie.chars :=
    map_eq_of_mapM_eq_ok
      (fun die member _ shown => RolledDie.toList_of_token (recorded die member) shown) written
  rw [String.toList_append, String.toList_intercalate, shown]
  cases dice with
  | nil => rfl
  | cons die dice =>
      have separator : ",".toList = [','] := rfl
      have bracket : "]".toList = [']'] := rfl
      rw [separator, bracket, List.map_cons, Text.intercalate_cons, List.flatMap_map,
        List.append_assoc, diceChars]
      rfl

/-! ## The part of one term -/

def sizeChars : Die → List Char
  | .sided size => size.repr.toList
  | .fudge => ['F']

theorem sizeChars_append_inj {first second : Die} {left right : List Char}
    (leftEnds : StartsIn Text.integerEnds left) (rightEnds : StartsIn Text.integerEnds right)
    (same : sizeChars first ++ left = sizeChars second ++ right) :
    first = second ∧ left = right := by
  have notDigits : ∀ {size : Int} {left right : List Char}, StartsIn Text.integerEnds left →
      size.repr.toList ++ left ≠ 'F' :: right := by
    intro size left right ends same
    have first : 'F' ∈ (size.repr.toList ++ left).head? := by
      rw [same]
      rfl
    cases digits : size.repr.toList with
    | nil =>
        rw [digits] at first
        exact absurd (ends 'F' first) (by decide)
    | cons c rest =>
        rw [digits] at first
        cases first
        have signed := Text.isSignedDigit_of_mem_repr (digits ▸ List.mem_cons_self)
        exact absurd signed (by decide)
  cases first with
  | sided firstSize =>
      cases second with
      | sided secondSize =>
          obtain ⟨rfl, rest⟩ := Text.repr_append_inj leftEnds rightEnds same
          exact ⟨rfl, rest⟩
      | fudge => exact absurd same (notDigits leftEnds)
  | fudge =>
      cases second with
      | sided secondSize => exact absurd same.symm (notDigits rightEnds)
      | fudge => exact ⟨rfl, (List.cons.inj same).2⟩

def successHeading : List Char := " successes: ".toList

def successChars : Option Int → List Char
  | none => []
  | some score => successHeading ++ score.repr.toList

def joiner (negative : Bool) : List Char :=
  [' ', if negative then '-' else '+', ' ']

/-- What may follow the part of a term: nothing, or a sign and more. -/
def EndsPart (text : List Char) : Prop :=
  text = [] ∨ ∃ negative rest, text = joiner negative ++ rest

theorem EndsPart.startsIn {text : List Char} (ends : EndsPart text) : StartsIn [' '] text := by
  rcases ends with rfl | ⟨negative, rest, rfl⟩
  · exact startsIn_nil [' ']
  · exact .cons List.mem_cons_self

theorem successChars_append_inj {first second : Option Int} {left right : List Char}
    (leftEnds : EndsPart left) (rightEnds : EndsPart right)
    (same : successChars first ++ left = successChars second ++ right) :
    first = second ∧ left = right := by
  have notSuccesses : ∀ {text : List Char}, EndsPart text → ∀ score rest,
      text ≠ successChars (some score) ++ rest := by
    intro text ends score rest shown
    rcases ends with rfl | ⟨negative, later, rfl⟩
    · cases shown
    · cases negative <;> cases shown
  refine Text.option_append_inj rfl (notSuccesses leftEnds) (notSuccesses rightEnds) ?_ same
  intro firstScore secondScore shown
  rw [successChars, successChars, List.append_assoc, List.append_assoc] at shown
  exact Text.repr_append_inj (leftEnds.startsIn.mono (by decide))
    (rightEnds.startsIn.mono (by decide)) (List.append_cancel_left shown)

namespace Term

/-- The part of a breakdown that shows the dice of a term, without its sign. -/
def partChars (term : Term) (dice : List RolledDie) (score : Int) : List Char :=
  (term.magnitude : Int).repr.toList ++ 'd' :: (sizeChars term.die ++ ':' :: '[' ::
    (diceChars dice ++ successChars (term.success.map fun _ => score)))

theorem toList_of_sizeText {die : Die} {size : String} (written : sizeText die = .ok size) :
    size.toList = sizeChars die := by
  cases die with
  | sided sides =>
      obtain ⟨-, rfl⟩ := Text.writeInt_eq_ok_iff.mp written
      rfl
  | fudge =>
      cases written
      rfl

theorem toList_of_breakdown {term : Term} {dice : List RolledDie} {score : Int} {text : String}
    (recorded : ∀ die ∈ dice, term.RecordedDie die)
    (written : TermRoll.breakdown term dice score = .ok text) :
    text.toList = term.partChars dice score := by
  simp only [TermRoll.breakdown, bind_eq_ok_iff, pure_eq_ok_iff] at written
  obtain ⟨label, labelWritten, tokens, tokensWritten, successes, successesWritten, rfl⟩ := written
  have labelChars : label.toList =
      (term.magnitude : Int).repr.toList ++ 'd' :: sizeChars term.die := by
    simp only [Term.label, bind_eq_ok_iff, pure_eq_ok_iff, Text.writeNat,
      Text.writeInt_eq_ok_iff] at labelWritten
    obtain ⟨_, ⟨-, rfl⟩, size, sizeWritten, rfl⟩ := labelWritten
    rw [String.toList_append, String.toList_append, toList_of_sizeText sizeWritten,
      List.append_assoc]
    rfl
  have scoreShown : successes.toList = successChars (term.success.map fun _ => score) := by
    cases threshold : term.success with
    | none =>
        rw [threshold] at successesWritten
        cases successesWritten
        rfl
    | some least =>
        simp only [threshold, TermRoll.successText, bind_eq_ok_iff, pure_eq_ok_iff,
          Text.writeInt_eq_ok_iff] at successesWritten
        obtain ⟨_, ⟨-, rfl⟩, rfl⟩ := successesWritten
        simp only [String.toList_append, toString]
        rfl
  have diceShown := toList_intercalate (fun die member => (recorded die member).rerolled_iff_isSome)
    tokensWritten
  rw [String.toList_append] at diceShown
  have opening : ":[".toList = [':', '['] := rfl
  simp only [String.toList_append, labelChars, scoreShown, diceShown, opening, partChars,
    List.append_assoc, List.cons_append, List.nil_append]

theorem partChars_append_inj {firstTerm secondTerm : Term} {first second : List RolledDie}
    {firstScore secondScore : Int} {left right : List Char}
    (firstRecorded : ∀ die ∈ first, firstTerm.RecordedDie die)
    (secondRecorded : ∀ die ∈ second, secondTerm.RecordedDie die)
    (firstPresent : first ≠ []) (secondPresent : second ≠ []) (leftEnds : EndsPart left)
    (rightEnds : EndsPart right)
    (same : firstTerm.partChars first firstScore ++ left =
      secondTerm.partChars second secondScore ++ right) :
    first = second ∧
      (firstTerm.success.map fun _ => firstScore) = (secondTerm.success.map fun _ => secondScore) ∧
      left = right := by
  simp only [partChars, List.append_assoc, List.cons_append] at same
  obtain ⟨-, same⟩ := Text.repr_append_inj (.cons (by decide)) (.cons (by decide)) same
  obtain ⟨kind, same⟩ := sizeChars_append_inj (.cons (by decide)) (.cons (by decide))
    (List.cons.inj same).2
  have size : firstTerm.size = secondTerm.size := by rw [size, size, kind]
  obtain ⟨dice, same⟩ := diceChars_append_inj size firstRecorded secondRecorded firstPresent
    secondPresent (List.cons.inj (List.cons.inj same).2).2
  obtain ⟨score, rest⟩ := successChars_append_inj leftEnds rightEnds same
  exact ⟨dice, score, rest⟩

end Term

end TabletopDice
