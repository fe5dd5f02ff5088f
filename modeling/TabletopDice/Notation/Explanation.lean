import TabletopDice.Notation.Description
import TabletopDice.Notation.Reader

/-!
Explaining notation. An explanation says of a notation whether it is valid, and how it reads or why
it does not.
-/

set_option autoImplicit false

namespace TabletopDice

inductive Verdict where
  | valid (expression : Expression) (description : Description)
  | invalid (fault : NotationFault) (problem : String)
deriving DecidableEq, Repr

/-- A notation with the verdict on it, and all of it in text. -/
structure Explanation where
  source : String
  verdict : Verdict
  text : String
deriving DecidableEq, Repr

/-- Why there is no explanation: a numeral beyond the limit, or parts of a term that do not fit
together. -/
inductive Unexplained where
  | numeral (limit : Text.DigitLimit)
  | term (fault : TermFault)
deriving DecidableEq, Repr

namespace Explanation

def isValid (explanation : Explanation) : Bool :=
  match explanation.verdict with
  | .valid _ _ => true
  | .invalid _ _ => false

def ofExpression (source : String) (expression : Expression) :
    Except Text.DigitLimit Explanation := do
  let description ← Description.ofExpression expression
  let text ← description.text
  return {
    source
    verdict := .valid expression description
    text := s!"Valid dice notation: {source}\n\n{text}" }

def ofFault (source : String) (fault : NotationFault) : Except Text.DigitLimit Explanation := do
  let problem ← fault.message
  return {
    source
    verdict := .invalid fault problem
    text := s!"Invalid dice notation: {source}\n\nError: {problem}" }

/-- Explains a notation. A fault of the notation is part of the explanation. -/
def ofText (ceilings : Ceilings) (source : String) : Except Unexplained Explanation :=
  match Expression.parse ceilings source.toList with
  | .ok expression => (ofExpression source expression).mapError .numeral
  | .error (.refused fault) => (ofFault source fault).mapError .numeral
  | .error (.numeral limit) => .error (.numeral limit)
  | .error (.term fault) => .error (.term fault)

end Explanation

end TabletopDice
