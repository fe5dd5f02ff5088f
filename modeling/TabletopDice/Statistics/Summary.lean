import TabletopDice.Number.Arithmetic

/-!
Summaries of totals. A summary depends on the multiset of the totals only: every figure is taken
from the totals in ascending order. Quotients of integers are rounded once, to the nearest double.
-/

set_option autoImplicit false

namespace TabletopDice

/-- Why totals have no summary in doubles: their mean, a total, or a squared deviation is too
large for one. -/
inductive SummaryFault where
  | quotientTooLarge
  | integerTooLarge
  | squareTooLarge
deriving DecidableEq, Repr

def SummaryFault.message : SummaryFault → String
  | quotientTooLarge => "integer division result too large for a float"
  | integerTooLarge => "int too large to convert to float"
  | squareTooLarge => "(34, 'Numerical result out of range')"

/-- The figures that describe the totals of repeated rolls. The notation is only carried along. -/
structure Summary where
  text : String := ""
  iterations : Int
  min : Int
  max : Int
  mean : Float
  median : Int
  mode : List Int
  standardDeviation : Float
  probabilities : List (Int × Float)
  percentiles : List (Nat × Int)
deriving Repr

namespace Summary

def listedPercentiles : List Nat := [5, 10, 25, 50, 75, 90, 95]

def ascending (totals : List Int) : List Int :=
  totals.mergeSort

def countStep (total : Int) (counts : List (Int × Nat)) : List (Int × Nat) :=
  match counts with
  | (value, count) :: rest =>
      if value = total then (value, count + 1) :: rest else (total, 1) :: (value, count) :: rest
  | [] => [(total, 1)]

/-- The distinct values of ascending totals, and how often each occurs. -/
def counts (sorted : List Int) : List (Int × Nat) :=
  sorted.foldr countStep []

def modes (counts : List (Int × Nat)) : List Int :=
  let greatest := (counts.map Prod.snd).foldl Nat.max 0
  (counts.filter (·.2 == greatest)).map Prod.fst

/-- The index of a percentile in so many ascending totals: the part of them that it names, rounded
down, but never beyond the last. -/
def percentileIndex (size percent : Nat) : Nat :=
  Nat.min (size - 1) (size * percent / 100)

/-- The total at an index. Indices beyond the last do not occur. -/
def totalAt (sorted : List Int) (index : Nat) : Int :=
  sorted.getD index 0

def quotient (numerator : Int) (denominator : Nat) : Except SummaryFault Float :=
  match Number.nearest? numerator denominator with
  | some value => .ok value
  | none => .error .quotientTooLarge

def toDouble (number : Int) : Except SummaryFault Float :=
  match Number.nearest? number 1 with
  | some value => .ok value
  | none => .error .integerTooLarge

/-- The square of a double; a finite number must have a finite one. -/
def square (value : Float) : Except SummaryFault Float :=
  let result := value * value
  if result.isInf && value.isFinite then .error .squareTooLarge else .ok result

/-- The sum of the squared deviations from the mean, added up from the first total to the last. -/
def squaredDeviations (mean : Float) (sorted : List Int) : Except SummaryFault Float :=
  sorted.foldlM
    (fun sum total => do
      let total ← toDouble total
      let deviation ← square (total - mean)
      return sum + deviation)
    0

def shares (size : Nat) (counts : List (Int × Nat)) : Except SummaryFault (List (Int × Float)) :=
  counts.mapM fun (value, count) => do
    let share ← quotient count size
    return (value, share)

/-- The summary of totals, of which there is at least one. The median is the element at half the
number of totals, so the upper one of two middle elements. -/
def ofTotals (text : String) (totals : List Int) : Except SummaryFault Summary := do
  let sorted := ascending totals
  let size := sorted.length
  let mean ← quotient (Number.sum sorted) size
  let deviations ← squaredDeviations mean sorted
  let divisor ← toDouble size
  let counts := counts sorted
  let probabilities ← shares size counts
  return {
    text
    iterations := size
    min := totalAt sorted 0
    max := totalAt sorted (size - 1)
    mean
    median := totalAt sorted (size / 2)
    mode := modes counts
    standardDeviation := (deviations / divisor).sqrt
    probabilities
    percentiles := listedPercentiles.map fun percent =>
      (percent, totalAt sorted (percentileIndex size percent)) }

end Summary

end TabletopDice
