/-!
Decimal numerals. Reading and writing are limited to numerals of 4300 digits: a longer run of
digits is not read, and an integer that would need more digits is not written. Leading zeros count
as digits, a sign does not.
-/

set_option autoImplicit false

namespace TabletopDice.Text

/-- The decimal digits of ASCII, the only ones a numeral is made of. -/
def isDigit (c : Char) : Bool :=
  '0' ≤ c && c ≤ '9'

def digitValue (c : Char) : Nat :=
  c.toNat - '0'.toNat

/-- The value of a run of digits, most significant first. -/
def digitsValue (digits : List Char) : Nat :=
  digits.foldl (fun value c => value * 10 + digitValue c) 0

/-- The digits of a whole number at the start of a text, and what follows them. They begin with a
zero only if that is all of them. -/
def takeWhole (text : List Char) : Option (List Char × List Char) :=
  match text with
  | '0' :: rest => some (['0'], rest)
  | c :: _ => if isDigit c then some (text.span isDigit) else none
  | [] => none

/-- A numeral is longer than the limit: on the way in, with its number of digits, or on the way
out. -/
inductive DigitLimit where
  | reading (digits : Nat)
  | writing
deriving DecidableEq, Repr, Inhabited

/-- The greatest number of digits in a numeral. -/
def maxDigits : Nat := 4300

/-- The least magnitude with too many digits to be written. -/
def writeBound : Nat := Nat.pow 10 maxDigits

/-- The length of the numeral that exceeds the limit, where it is known. -/
def DigitLimit.found : DigitLimit → String
  | .reading digits => s!": value has {digits} digits"
  | .writing => ""

def DigitLimit.message (limit : DigitLimit) : String :=
  s!"Exceeds the limit ({maxDigits} digits) for integer string conversion{limit.found}" ++
    "; use sys.set_int_max_str_digits() to increase the limit"

def readDigits (digits : List Char) : Except DigitLimit Nat :=
  if digits.length ≤ maxDigits then .ok (digitsValue digits)
  else .error (.reading digits.length)

/-- An integer in decimal, with a minus sign in front of a negative one. -/
def writeInt (number : Int) : Except DigitLimit String :=
  if number.natAbs < writeBound then .ok number.repr else .error .writing

def writeNat (number : Nat) : Except DigitLimit String :=
  writeInt number

/-- An integer in decimal with its sign always shown. -/
def writeSigned (number : Int) : Except DigitLimit String := do
  let text ← writeInt number
  return if number < 0 then text else "+" ++ text

theorem readDigits_eq_ok_iff {digits : List Char} {number : Nat} :
    readDigits digits = .ok number ↔ digits.length ≤ maxDigits ∧ digitsValue digits = number := by
  unfold readDigits
  split <;> simp <;> omega

theorem writeInt_eq_ok_iff {number : Int} {text : String} :
    writeInt number = .ok text ↔ number.natAbs < writeBound ∧ number.repr = text := by
  unfold writeInt
  split <;> simp <;> omega

end TabletopDice.Text
