import Mathlib.Data.List.TakeWhile
import TabletopDice.Proofs.Text.Numerals

/-!
Where a part of a text ends. A part of a known kind can be taken off the front of a text in one way
only if what follows it cannot continue it: a run of characters of one class, or a mark that may be
left out.
-/

set_option autoImplicit false

namespace TabletopDice

/-- The text is empty or begins with one of the characters. -/
def StartsIn (marks text : List Char) : Prop :=
  ∀ c ∈ text.head?, c ∈ marks

theorem eq_false_of_mem {marks : List Char} {property : Char → Bool}
    (lacking : marks.any property = false) {c : Char} (member : c ∈ marks) :
    property c = false := by
  simpa using List.any_eq_false.mp lacking c member

theorem StartsIn.head?_eq_false {marks text : List Char} (starts : StartsIn marks text)
    (property : Char → Bool) (lacking : marks.any property = false) :
    ∀ c ∈ text.head?, property c = false :=
  fun c first => eq_false_of_mem lacking (starts c first)

theorem startsIn_nil (marks : List Char) : StartsIn marks [] :=
  fun _ first => nomatch first

theorem StartsIn.cons {marks : List Char} {c : Char} {rest : List Char} (mark : c ∈ marks) :
    StartsIn marks (c :: rest) := by
  intro first found
  cases found
  exact mark

theorem StartsIn.mono {marks others text : List Char} (starts : StartsIn marks text)
    (within : marks ⊆ others) : StartsIn others text :=
  fun c first => within (starts c first)

theorem StartsIn.not_mem {marks text : List Char} (starts : StartsIn marks text) {c : Char}
    (other : c ∉ marks) : c ∉ text.head? :=
  fun first => other (starts c first)

namespace Text

theorem takeWhile_append_of_ends {inClass : Char → Bool} {run rest : List Char}
    (within : ∀ c ∈ run, inClass c = true) (ends : ∀ c ∈ rest.head?, inClass c = false) :
    (run ++ rest).takeWhile inClass = run := by
  rw [List.takeWhile_append_of_pos within]
  cases rest with
  | nil => simp
  | cons c rest => simp [ends c rfl]

theorem run_append_inj {inClass : Char → Bool} {first second left right : List Char}
    (firstRun : ∀ c ∈ first, inClass c = true) (leftEnds : ∀ c ∈ left.head?, inClass c = false)
    (secondRun : ∀ c ∈ second, inClass c = true)
    (rightEnds : ∀ c ∈ right.head?, inClass c = false)
    (same : first ++ left = second ++ right) : first = second ∧ left = right := by
  have taken := congrArg (List.takeWhile inClass) same
  rw [takeWhile_append_of_ends firstRun leftEnds,
    takeWhile_append_of_ends secondRun rightEnds] at taken
  subst taken
  exact ⟨rfl, List.append_cancel_left same⟩

/-- A text ends before the first of a mark that it lacks. -/
theorem append_mark_inj {c : Char} {first second left right : List Char} (firstLacks : c ∉ first)
    (secondLacks : c ∉ second) (same : first ++ c :: left = second ++ c :: right) :
    first = second ∧ left = right := by
  have run {text : List Char} (lacks : c ∉ text) : ∀ other ∈ text, (other != c) = true := by
    intro other member
    exact bne_iff_ne.mpr fun equal => lacks (equal ▸ member)
  have ends {text : List Char} : ∀ other ∈ (c :: text).head?, (other != c) = false := by
    simp
  obtain ⟨texts, rest⟩ := run_append_inj (run firstLacks) ends (run secondLacks) ends same
  exact ⟨texts, (List.cons.inj rest).2⟩

theorem intercalate_cons (separator first : List Char) (rest : List (List Char)) :
    separator.intercalate (first :: rest) = first ++ rest.flatMap (separator ++ ·) := by
  induction rest generalizing first with
  | nil => simp
  | cons next rest ih =>
      rw [List.intercalate_cons_cons, ih next, List.flatMap_cons]
      simp only [List.append_assoc]

def isSignedDigit (c : Char) : Bool :=
  isDigit c || c == '-'

theorem isSignedDigit_of_mem_repr {number : Int} {c : Char} (member : c ∈ number.repr.toList) :
    isSignedDigit c = true := by
  unfold isSignedDigit
  rw [Int.repr_eq_if] at member
  split at member
  · rw [isDigit_of_mem_repr member, Bool.true_or]
  · rw [String.toList_append] at member
    rcases List.mem_append.mp member with sign | digit
    · obtain rfl := List.mem_singleton.mp sign
      rfl
    · rw [isDigit_of_mem_repr digit, Bool.true_or]

def flag (c : Char) (present : Bool) : List Char :=
  if present then [c] else []

theorem startsIn_flag (c : Char) (present : Bool) {marks rest : List Char}
    (starts : StartsIn marks rest) : StartsIn (c :: marks) (flag c present ++ rest) := by
  cases present with
  | false => exact starts.mono (List.subset_cons_self c marks)
  | true => exact .cons List.mem_cons_self

/-- A part that may be left out can be taken off unless what follows begins with such a part. -/
theorem option_append_inj {Value : Type} {chars : Option Value → List Char}
    (absent : chars none = []) {first second : Option Value} {left right : List Char}
    (notLeft : ∀ value rest, left ≠ chars (some value) ++ rest)
    (notRight : ∀ value rest, right ≠ chars (some value) ++ rest)
    (present : ∀ firstValue secondValue,
      chars (some firstValue) ++ left = chars (some secondValue) ++ right →
        firstValue = secondValue ∧ left = right)
    (same : chars first ++ left = chars second ++ right) : first = second ∧ left = right := by
  cases first with
  | none =>
      rw [absent, List.nil_append] at same
      cases second with
      | none =>
          rw [absent, List.nil_append] at same
          exact ⟨rfl, same⟩
      | some value => exact absurd same (notLeft value right)
  | some firstValue =>
      cases second with
      | none =>
          rw [absent, List.nil_append] at same
          exact absurd same.symm (notRight firstValue left)
      | some secondValue =>
          obtain ⟨values, rest⟩ := present firstValue secondValue same
          exact ⟨congrArg some values, rest⟩

/-- Texts joined by a separator, with one more separator at the end. -/
theorem intercalate_append (separator : List Char) {parts : List (List Char)} (some : parts ≠ []) :
    separator.intercalate parts ++ separator = parts.flatMap (· ++ separator) := by
  induction parts with
  | nil => exact absurd rfl some
  | cons first rest ih =>
      cases rest with
      | nil => simp
      | cons next rest =>
          have later := ih (List.cons_ne_nil next rest)
          rw [List.intercalate_cons_cons, List.append_assoc, later]
          rfl

/-- Values can be told from their texts in a row if each text can be told from all that may follow
it. -/
theorem flatMap_inj {Value : Type} {chars : Value → List Char} {first second : List Value}
    (shown : ∀ value, chars value ≠ [])
    (each : ∀ value ∈ first, ∀ other ∈ second, ∀ left right,
      chars value ++ left = chars other ++ right → value = other ∧ left = right)
    (same : first.flatMap chars = second.flatMap chars) : first = second := by
  induction first generalizing second with
  | nil =>
      cases second with
      | nil => rfl
      | cons other second => exact absurd (List.append_eq_nil_iff.mp same.symm).1 (shown other)
  | cons value first ih =>
      cases second with
      | nil => exact absurd (List.append_eq_nil_iff.mp same).1 (shown value)
      | cons other second =>
          obtain ⟨rfl, rest⟩ := each value List.mem_cons_self other List.mem_cons_self _ _ same
          have later := ih (fun value inside other otherInside =>
            each value (List.mem_cons_of_mem _ inside) other (List.mem_cons_of_mem _ otherInside))
            rest
          rw [later]

theorem minus_not_mem_head?_repr (number : Nat) (rest : List Char) :
    '-' ∉ (number.repr.toList ++ rest).head? := by
  intro minus
  have digits : ∀ c ∈ number.repr.toList, isDigit c = true := fun _ => isDigit_of_mem_repr
  cases run : number.repr.toList with
  | nil => exact repr_toList_ne_nil number run
  | cons c later =>
      rw [run] at minus digits
      cases minus
      exact absurd (digits '-' List.mem_cons_self) (by decide)

theorem flag_append_inj {c : Char} {first second : Bool} {left right : List Char}
    (notLeft : c ∉ left.head?) (notRight : c ∉ right.head?)
    (same : flag c first ++ left = flag c second ++ right) : first = second ∧ left = right := by
  cases first with
  | false =>
      cases second with
      | false => exact ⟨rfl, same⟩
      | true =>
          rw [show left = c :: right from same] at notLeft
          exact absurd rfl notLeft
  | true =>
      cases second with
      | false =>
          rw [show right = c :: left from same.symm] at notRight
          exact absurd rfl notRight
      | true => exact ⟨rfl, (List.cons.inj same).2⟩

theorem int_repr_toList (number : Int) :
    number.repr.toList = flag '-' (decide (number < 0)) ++ number.natAbs.repr.toList := by
  cases number with
  | ofNat magnitude =>
      have unsigned : ¬ Int.ofNat magnitude < 0 := Int.not_lt.mpr (Int.natCast_nonneg magnitude)
      rw [decide_eq_false unsigned]
      rfl
  | negSucc less =>
      rw [decide_eq_true (Int.negSucc_lt_zero less)]
      exact String.toList_append

/-- An integer can be read off its numeral, the sign included. -/
theorem int_repr_toList_inj {first second : Int}
    (same : first.repr.toList = second.repr.toList) : first = second := by
  have unsigned (number : Nat) : '-' ∉ number.repr.toList.head? := by
    simpa using minus_not_mem_head?_repr number []
  rw [int_repr_toList, int_repr_toList] at same
  obtain ⟨sign, digits⟩ := flag_append_inj (unsigned _) (unsigned _) same
  have magnitude : first.natAbs = second.natAbs := by
    rw [← digitsValue_repr first.natAbs, digits, digitsValue_repr]
  have signs : first < 0 ↔ second < 0 := decide_eq_decide.mp sign
  omega

end Text

end TabletopDice
