/-!
Halves of pairs. A code point beyond 0xFFFF can be given by a pair of code units, and a text from
outside may hold one half of a pair without the other. Such a half is a code point, but it is no
character. For the sake of it texts have a kept form: U+FDD0, which Unicode leaves to internal use,
stands in front of a character that keeps a half, and also in front of itself. A text without
U+FDD0 is its own kept form. Main statement: the kept form has the code points it was made of.
-/

set_option autoImplicit false

namespace TabletopDice.Text

/-- The unit is the first half of a pair, which stands for one code point. -/
def isFirstHalf (unit : Nat) : Bool :=
  0xD800 ≤ unit && unit < 0xDC00

def isSecondHalf (unit : Nat) : Bool :=
  0xDC00 ≤ unit && unit < 0xE000

def isHalf (point : Nat) : Bool :=
  isFirstHalf point || isSecondHalf point

def pairPoint (first second : Nat) : Nat :=
  0x10000 + (first - 0xD800) * 0x400 + (second - 0xDC00)

/-! ## The kept form -/

/-- The character in front of one that does not stand for itself. -/
def mark : Char := '\uFDD0'

def keep (point : Nat) : List Char :=
  if isHalf point then [mark, Char.ofNat (point + 0x10000)]
  else if point = mark.toNat then [mark, mark]
  else [Char.ofNat point]

def markedPoint (c : Char) : Nat :=
  if c == mark then c.toNat else c.toNat - 0x10000

/-- The code points of a text in kept form. -/
def points : List Char → List Nat
  | c :: next :: rest =>
      if c == mark then markedPoint next :: points rest else c.toNat :: points (next :: rest)
  | [c] => [c.toNat]
  | [] => []

def kept (text : List Char) : List Char :=
  text.flatMap fun c => keep c.toNat

theorem toNat_ofNat {point : Nat} (valid : point.isValidChar) :
    (Char.ofNat point).toNat = point := by
  rw [Char.ofNat, dif_pos valid]
  rfl

theorem points_keep_append {point : Nat} (bound : point < 0x110000) (rest : List Char) :
    points (keep point ++ rest) = point :: points rest := by
  have range : isHalf point = true ↔ 0xD800 ≤ point ∧ point < 0xE000 := by
    simp only [isHalf, isFirstHalf, isSecondHalf, Bool.or_eq_true, Bool.and_eq_true,
      decide_eq_true_eq]
    omega
  have markPoint : mark.toNat = 0xFDD0 := rfl
  unfold keep
  split
  · rename_i half
    have bounds := range.mp half
    have code : (Char.ofNat (point + 0x10000)).toNat = point + 0x10000 :=
      toNat_ofNat (.inr (by omega))
    have other : (Char.ofNat (point + 0x10000) == mark) = false := by
      refine beq_false_of_ne fun same => ?_
      rw [same, markPoint] at code
      omega
    simp [points, markedPoint, other, code]
  · rename_i notHalf
    split
    · rename_i same
      simp [points, markedPoint, same]
    · rename_i notMark
      have code : (Char.ofNat point).toNat = point :=
        toNat_ofNat (by rw [range] at notHalf; unfold Nat.isValidChar; omega)
      have other : (Char.ofNat point == mark) = false := by
        refine beq_false_of_ne fun same => notMark ?_
        rw [← same, code]
      cases rest with
      | nil => simp [points, code]
      | cons c rest => simp [points, other, code]

/-- Texts in kept form have the code points that they were made of. -/
theorem points_flatMap_keep {codes : List Nat} (bound : ∀ code ∈ codes, code < 0x110000) :
    points (codes.flatMap keep) = codes := by
  induction codes with
  | nil => rfl
  | cons code rest ih =>
      rw [List.flatMap_cons, points_keep_append (bound code List.mem_cons_self),
        ih fun other member => bound other (List.mem_cons_of_mem _ member)]

/-! ## Where halves stand -/

/-- Halves that follow each other in a text: the first of them, and the places of the first and
of the last. -/
structure HalfRun where
  unit : Nat
  first : Nat
  last : Nat
deriving DecidableEq, Repr

/-- The first run of halves among code points in front of which there are so many others. -/
def halvesFrom (place : Nat) : List Nat → Option HalfRun
  | [] => none
  | point :: rest =>
      if isHalf point then
        some { unit := point, first := place, last := place + (rest.takeWhile isHalf).length }
      else halvesFrom (place + 1) rest

def halves? (text : List Char) : Option HalfRun :=
  halvesFrom 0 (points text)

theorem halvesFrom_eq_none_iff {place : Nat} {codes : List Nat} :
    halvesFrom place codes = none ↔ ∀ code ∈ codes, isHalf code = false := by
  induction codes generalizing place with
  | nil => simp [halvesFrom]
  | cons code rest ih => by_cases half : isHalf code <;> simp [halvesFrom, half, ih]

end TabletopDice.Text
