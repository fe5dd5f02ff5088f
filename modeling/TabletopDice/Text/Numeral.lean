import TabletopDice.Text.Blank
import TabletopDice.Text.Decimal

/-!
Integers as people write them. Around the digits may stand white space, a sign, leading zeros,
underscores that group the digits, and a point with nothing but zeros behind it. What is left
without them is a plain numeral: digits, of which the first is a zero only if it is the only one,
behind a minus sign if the integer is negative.
-/

set_option autoImplicit false

namespace TabletopDice.Text

/-- Whether a text begins with a minus sign, and what follows the sign. -/
def takeMinus : List Char → Bool × List Char
  | '-' :: rest => (true, rest)
  | text => (false, text)

/-- Whether a text begins with a minus sign, and what follows a sign of either kind. -/
def takeSign : List Char → Bool × List Char
  | '+' :: rest => (false, rest)
  | text => takeMinus text

def readPlain? (text : List Char) : Option Int :=
  let (negative, unsigned) := takeMinus text
  match takeWhole unsigned with
  | some (digits, []) =>
      match readDigits digits with
      | .ok magnitude => some (if negative then -magnitude else magnitude)
      | .error _ => none
  | _ => none

/-- The text begins with a plain numeral of too many digits, whatever follows it. -/
def beginsTooLong (text : List Char) : Bool :=
  match takeWhole (takeMinus text).2 with
  | some (digits, _) => maxDigits < digits.length
  | none => false

/-- The text behind more zeros, among which underscores may stand. A minus sign may come behind
them as well as a digit. The last of them, which stands before the text at first, is kept at the
end of the text and before a point. -/
def dropZeros (last : Char) : List Char → Option (List Char)
  | [] => some [last]
  | c :: rest =>
      if c == '0' || c == '_' then dropZeros c rest
      else if c == '.' then some (last :: c :: rest)
      else if isDigit c || c == '-' then some (c :: rest)
      else none

/-- The text without leading zeros. It has to begin with a digit. -/
def dropLeadingZeros : List Char → Option (List Char)
  | [] => none
  | c :: rest =>
      if c == '0' then dropZeros c rest
      else if isDigit c then some (c :: rest)
      else none

/-- The text before its first point, if zeros and nothing else follow the point. -/
def dropZeroFraction (text : List Char) : List Char :=
  match text.span (· != '.') with
  | (whole, _ :: zeros) => if !zeros.isEmpty && zeros.all (· == '0') then whole else text
  | (_, []) => text

/-- The text without its underscores, each of which has to stand between two other characters. -/
def ungroup : List Char → Option (List Char)
  | [] => some []
  | '_' :: _ => none
  | [c] => some [c]
  | c :: '_' :: rest => if rest.isEmpty then none else (ungroup rest).map (c :: ·)
  | c :: rest => (ungroup rest).map (c :: ·)

def readLoose? (text : List Char) : Option Int := do
  let (negative, unsigned) := takeSign (trim isWhiteSpace text)
  let significant ← dropLeadingZeros unsigned
  let digits ← ungroup (dropZeroFraction significant)
  readPlain? (if negative then '-' :: digits else digits)

end TabletopDice.Text
