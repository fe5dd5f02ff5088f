import TabletopDice.Number.Arithmetic

/-!
The shortest decimal of a double. Of the decimals that are read back as the double, those with the
fewest digits are taken, and of these the nearest.
-/

set_option autoImplicit false

namespace TabletopDice.Number

/-- A positive double, `significand * 2 ^ exponent`. The next double below is half as far away as
the next one above where the exponent changes. -/
structure Binary where
  significand : Nat
  exponent : Int
  narrowBelow : Bool
deriving DecidableEq, Repr

structure Decimal where
  digits : Nat
  exponent : Int
deriving DecidableEq, Repr

namespace Binary

def ofBits (bits : Nat) : Binary :=
  let place := bits / hiddenBit
  let fraction := bits % hiddenBit
  if place = 0 then ⟨fraction, -1074, false⟩
  else ⟨hiddenBit + fraction, place - 1075, fraction = 0 && 1 < place⟩

/-- The double in quarters of its last place. -/
def quarters (binary : Binary) : Nat :=
  4 * binary.significand

def lower (binary : Binary) : Nat :=
  binary.quarters - (if binary.narrowBelow then 1 else 2)

def upper (binary : Binary) : Nat :=
  binary.quarters + 2

/-- What a quarter counts on the scale on which it can be compared with a decimal digit of the
given exponent: both count whole numbers. -/
def quarterUnit (binary : Binary) (exponent : Int) : Nat :=
  Nat.pow 2 (binary.exponent - 2).toNat * Nat.pow 10 (-exponent).toNat

def digitUnit (binary : Binary) (exponent : Int) : Nat :=
  Nat.pow 2 (2 - binary.exponent).toNat * Nat.pow 10 exponent.toNat

/-- The decimal is read back as the double. A number half way between two doubles is read as the
one with an even significand. -/
def readsBack (binary : Binary) (decimal : Decimal) : Bool :=
  let number := decimal.digits * binary.digitUnit decimal.exponent
  let low := binary.lower * binary.quarterUnit decimal.exponent
  let high := binary.upper * binary.quarterUnit decimal.exponent
  if binary.significand % 2 = 0 then low ≤ number && number ≤ high
  else low < number && number < high

def nearestWith (binary : Binary) (exponent : Int) : Decimal where
  digits :=
    roundedDiv (binary.quarters * binary.quarterUnit exponent) (binary.digitUnit exponent)
  exponent

/-- The nearest decimal of the given exponent that is read back. It is one of the two neighbours
that the double has among the decimals of the exponent. -/
def shortestWith? (binary : Binary) (exponent : Int) : Option Decimal :=
  let value := binary.quarters * binary.quarterUnit exponent
  let below := value / binary.digitUnit exponent
  [binary.nearestWith exponent, ⟨below, exponent⟩, ⟨below + 1, exponent⟩].find? binary.readsBack

/-- The first decimal that is read back, of exponents that become less. The last one is not
checked. -/
def shortestFrom (binary : Binary) (exponent : Int) : Nat → Decimal
  | 0 => binary.nearestWith exponent
  | fuel + 1 =>
      match binary.shortestWith? exponent with
      | some decimal => decimal
      | none => binary.shortestFrom (exponent - 1) fuel

/-- An exponent that no decimal near the double exceeds. Ten binary places make up for three
decimal ones, and a little more. -/
def topExponent (binary : Binary) : Int :=
  (binary.significand.log2 + binary.exponent) * 3 / 10 + 4

/-- The shortest decimal. Between the greatest exponent and the one whose decimals lie so close
together that the nearest is always read back, there are fewer than 25. -/
def shortest (binary : Binary) : Decimal :=
  binary.shortestFrom binary.topExponent 25

end Binary

end TabletopDice.Number
