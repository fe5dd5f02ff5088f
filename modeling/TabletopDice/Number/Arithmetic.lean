/-!
Arithmetic on integers: their sums, and the double nearest to a quotient. The quotient is rounded
once, exactly: to the nearest double, and of two equally near ones to the one with an even
significand.
-/

set_option autoImplicit false

namespace TabletopDice.Number

/-! ## Sums -/

def sum (numbers : List Int) : Int :=
  numbers.foldr (· + ·) 0

@[simp] theorem sum_nil : sum [] = 0 := rfl

@[simp] theorem sum_cons (first : Int) (rest : List Int) :
    sum (first :: rest) = first + sum rest := rfl

theorem sum_append (first second : List Int) : sum (first ++ second) = sum first + sum second := by
  induction first with
  | nil => simp
  | cons head tail ih => simp [ih, Int.add_assoc]

theorem sum_map_neg {Value : Type} (view : Value → Int) (values : List Value) :
    sum (values.map fun value => -view value) = -sum (values.map view) := by
  induction values with
  | nil => rfl
  | cons value values ih => rw [List.map_cons, List.map_cons, sum_cons, sum_cons, ih, Int.neg_add]

theorem sum_perm {first second : List Int} (permuted : first.Perm second) :
    sum first = sum second := by
  induction permuted with
  | nil => rfl
  | cons head _ ih => simp [ih]
  | swap first second rest => simp [Int.add_left_comm]
  | trans _ _ firstIH secondIH => exact firstIH.trans secondIH

/-! ## Quotients -/

/-- A quotient of natural numbers rounded to the nearest one, a half going to the even neighbour. -/
def roundedDiv (numerator denominator : Nat) : Nat :=
  let quotient := numerator / denominator
  let remainder := numerator % denominator
  if 2 * remainder < denominator then quotient
  else if denominator < 2 * remainder then quotient + 1
  else quotient + quotient % 2

/-- The exponent of the last binary place that a double near the quotient has: 53 places below the
leading one, and never below the last place of the subnormal numbers. -/
def lastPlace (numerator denominator : Nat) : Int :=
  let leading : Int := (numerator.log2 : Int) - denominator.log2
  let below :=
    if 0 ≤ leading then numerator < denominator * Nat.pow 2 leading.toNat
    else numerator * Nat.pow 2 (-leading).toNat < denominator
  max (if below then leading - 53 else leading - 52) (-1074)

def hiddenBit : Nat := 0x10000000000000

/-- The bits of the nearest double to a positive quotient. A significand that rounds up to the
next power of two carries into the exponent by itself. -/
def nearestBits (numerator denominator : Nat) : Nat :=
  let place := lastPlace numerator denominator
  let significand :=
    if 0 ≤ place then roundedDiv numerator (denominator * Nat.pow 2 place.toNat)
    else roundedDiv (numerator * Nat.pow 2 (-place).toNat) denominator
  (place + 1074).toNat * hiddenBit + significand

def signBit : Nat := 0x8000000000000000

/-- The bits of positive infinity, the least that no finite double has. -/
def infinityBits : Nat := 0x7FF0000000000000

/-- The double nearest to a quotient, or nothing if the quotient is too large for one. -/
def nearest? (numerator : Int) (denominator : Nat) : Option Float :=
  if numerator = 0 then some (Float.ofBits 0)
  else
    let bits := nearestBits numerator.natAbs denominator
    if bits < infinityBits then
      some (Float.ofBits (UInt64.ofNat (if numerator < 0 then signBit + bits else bits)))
    else none

/-- The double nearest to a decimal fraction `significand * 10 ^ exponent`, infinite beyond the
largest one. Exponents far outside the range of doubles are not expanded. -/
def nearestDecimal (negative : Bool) (significand : Nat) (exponent : Int) : Float :=
  let digits : Int := (significand.log2 : Int) / 3 + 1
  let bits :=
    if significand = 0 || exponent + digits < -400 then 0
    else if 400 < exponent then infinityBits
    else
      min infinityBits <|
        if 0 ≤ exponent then nearestBits (significand * Nat.pow 10 exponent.toNat) 1
        else nearestBits significand (Nat.pow 10 (-exponent).toNat)
  Float.ofBits (UInt64.ofNat (if negative then signBit + bits else bits))

end TabletopDice.Number
