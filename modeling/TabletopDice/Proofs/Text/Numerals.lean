import Mathlib.Algebra.Group.Nat.Defs
import Mathlib.Data.List.Induction
import TabletopDice.Text.Decimal

/-!
Written numbers. A number and its decimal digits determine each other, and the limit on digits is a
bound on the number.
-/

set_option autoImplicit false

namespace TabletopDice.Text

theorem toList_repr (number : Nat) : number.repr.toList = Nat.toDigits 10 number := by
  rw [Nat.repr_eq_ofList_toDigits, String.toList_ofList]

theorem isDigit_of_mem_repr {number : Nat} {c : Char} (member : c ∈ number.repr.toList) :
    isDigit c = true := by
  rw [toList_repr] at member
  exact Nat.isDigit_of_mem_toDigits (by decide) (by decide) member

theorem repr_toList_ne_nil (number : Nat) : number.repr.toList ≠ [] := by
  rw [toList_repr]
  exact Nat.toDigits_ne_nil

theorem int_repr_toList_ne_nil (number : Int) : number.repr.toList ≠ [] := by
  rw [Int.repr_eq_if]
  split
  · exact repr_toList_ne_nil _
  · simp

theorem digitsValue_eq_ofDigitChars (digits : List Char) :
    digitsValue digits = Nat.ofDigitChars 10 digits 0 := by
  rw [Nat.ofDigitChars_eq_foldl, digitsValue]
  simp only [Nat.mul_comm 10, digitValue]

/-- Reading the digits that a number is written with gives the number back. -/
theorem digitsValue_repr (number : Nat) : digitsValue number.repr.toList = number := by
  rw [digitsValue_eq_ofDigitChars, toList_repr]
  exact Nat.ofDigitChars_ten_toDigits

theorem writeBound_eq : writeBound = 10 ^ maxDigits := by
  unfold writeBound
  -- The power itself must not be evaluated.
  generalize maxDigits = digits
  rfl

theorem lt_ten_pow (digits : Nat) : digits < 10 ^ digits :=
  Nat.lt_pow_self (by decide)

theorem lt_writeBound {number : Nat} (small : number < 1000) : number < writeBound := by
  have digits : 10 ^ 3 ≤ 10 ^ maxDigits := Nat.pow_le_pow_right (by decide) (by decide)
  rw [writeBound_eq]
  exact Nat.lt_of_lt_of_le small digits

theorem square_le_writeBound (digits : Nat) (half : digits + digits ≤ maxDigits) :
    10 ^ digits * 10 ^ digits ≤ writeBound := by
  rw [← Nat.pow_add, writeBound_eq]
  exact Nat.pow_le_pow_right (by decide) half

theorem exists_writeInt_iff {number : Int} :
    (∃ text, writeInt number = .ok text) ↔ number.natAbs < writeBound := by
  simp only [writeInt_eq_ok_iff, exists_and_left]
  exact ⟨fun found => found.1, fun short => ⟨short, _, rfl⟩⟩

theorem writeInt_eq_error_iff {number : Int} {limit : DigitLimit} :
    writeInt number = .error limit ↔ limit = .writing ∧ writeBound ≤ number.natAbs := by
  unfold writeInt
  split
  · rename_i short
    simp only [reduceCtorEq, false_iff]
    exact fun long => Nat.not_le.mpr short long.2
  · rename_i long
    rw [Except.error.injEq, eq_comm, and_iff_left (Nat.not_lt.mp long)]

theorem length_repr_le_iff {number : Nat} :
    number.repr.toList.length ≤ maxDigits ↔ number < writeBound := by
  rw [toList_repr, writeBound_eq]
  exact Nat.length_toDigits_le_iff (by decide) (by decide)

theorem digitValue_le {c : Char} (digit : isDigit c = true) : digitValue c ≤ 9 := by
  have bounds : 48 ≤ c.toNat ∧ c.toNat ≤ 57 := by
    simpa [isDigit, Char.le_def, UInt32.le_iff_toNat_le] using digit
  have zero : '0'.toNat = 48 := rfl
  unfold digitValue
  omega

theorem digitsValue_lt {digits : List Char} (all : ∀ c ∈ digits, isDigit c = true) :
    digitsValue digits < 10 ^ digits.length := by
  induction digits using List.reverseRecOn with
  | nil => decide
  | append_singleton digits last ih =>
      obtain ⟨earlier, lastDigit⟩ := List.forall_mem_append.mp all
      have before := ih earlier
      have small := digitValue_le (lastDigit last List.mem_cons_self)
      have value : digitsValue (digits ++ [last]) = digitsValue digits * 10 + digitValue last := by
        simp [digitsValue]
      rw [value, List.length_append, List.length_singleton, Nat.pow_succ]
      omega

/-- A run of digits that may be read denotes a number that may be written. -/
theorem digitsValue_lt_writeBound {digits : List Char} (all : ∀ c ∈ digits, isDigit c = true)
    (short : digits.length ≤ maxDigits) : digitsValue digits < writeBound := by
  rw [writeBound_eq]
  exact Nat.lt_of_lt_of_le (digitsValue_lt all) (Nat.pow_le_pow_right (by decide) short)

end TabletopDice.Text
