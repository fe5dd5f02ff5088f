import TabletopDice.Text.Blank
import TabletopDice.Text.Decimal

/-!
Signed pieces. Without its blanks, a notation is a sequence of pieces separated by `+` and `-`.
The operator directly in front of a piece gives its sign; the first piece may do without one.
-/

set_option autoImplicit false

namespace TabletopDice

inductive Sign where
  | plus
  | minus
deriving DecidableEq, Repr

def Sign.apply : Sign → Int → Int
  | plus, value => value
  | minus, value => -value

/-- The sign that an operator gives to what follows it. -/
def Sign.ofOperator? (c : Char) : Option Sign :=
  if c == '+' then some .plus else if c == '-' then some .minus else none

/-- A run of characters between two operators. -/
structure Piece where
  sign : Sign
  text : List Char
deriving DecidableEq, Repr

namespace Piece

/-- Adds a character in front of a cut text: an operator starts the run behind it, any other
character joins that run. -/
def cutStep (c : Char) (cut : List Char × List Piece) : List Char × List Piece :=
  match Sign.ofOperator? c with
  | some sign => ([], ⟨sign, cut.1⟩ :: cut.2)
  | none => (c :: cut.1, cut.2)

/-- The run in front of the first operator, and the later runs with their signs. -/
def cut (text : List Char) : List Char × List Piece :=
  text.foldr cutStep ([], [])

/-- The pieces of a notation in order. Operators that follow one another leave no piece. -/
def split (text : List Char) : List Piece :=
  let (first, later) := cut (Text.deleteBlanks text)
  (⟨.plus, first⟩ :: later).filter (!·.text.isEmpty)

theorem cut_nil : cut [] = ([], []) := rfl

theorem cut_cons (c : Char) (rest : List Char) : cut (c :: rest) = cutStep c (cut rest) := rfl

theorem text_ne_nil_of_mem_split {text : List Char} {piece : Piece}
    (member : piece ∈ split text) : piece.text ≠ [] := by
  have kept := (List.mem_filter.mp member).2
  intro empty
  simp [empty] at kept

end Piece

end TabletopDice
