import TabletopDice.Text.Half
import TabletopDice.Text.Printable

/-!
Quoted text, the form in which messages show what somebody typed. The quoted form has visible
characters only: hidden ones are escaped by their hexadecimal numerals, which are written in lower
case and read in either.
-/

set_option autoImplicit false

namespace TabletopDice.Text

/-- A number in lower-case hexadecimal, filled up with zeros to a width. -/
def hexadecimal (width : Nat) (number : Nat) : List Char :=
  let digits := Nat.toDigits 16 number
  List.replicate (width - digits.length) '0' ++ digits

def hexValue? (c : Char) : Option Nat :=
  if '0' ≤ c && c ≤ '9' then some (c.toNat - '0'.toNat)
  else if 'a' ≤ c && c ≤ 'f' then some (c.toNat - 'a'.toNat + 10)
  else if 'A' ≤ c && c ≤ 'F' then some (c.toNat - 'A'.toNat + 10)
  else none

/-- The quotation marks, named because they are hard to read as literals. -/
def singleQuote : Char := '\x27'

def doubleQuote : Char := '\x22'

/-- The mark that encloses a text: the single quote, unless only the double quote keeps the text
free of escapes. -/
def quoteFor (text : List Char) : Char :=
  if text.contains singleQuote && !text.contains doubleQuote then doubleQuote else singleQuote

/-- A hidden code point as an escape of two, four or eight hexadecimal digits, the shortest that
holds it. -/
def escapeHidden (point : Nat) : List Char :=
  if point < 0x100 then '\\' :: 'x' :: hexadecimal 2 point
  else if point < 0x10000 then '\\' :: 'u' :: hexadecimal 4 point
  else '\\' :: 'U' :: hexadecimal 8 point

def escapePoint (quote : Char) (point : Nat) : List Char :=
  if isPrintable point then
    let c := Char.ofNat point
    if c == quote || c == '\\' then ['\\', c] else [c]
  else if point = '\t'.toNat then ['\\', 't']
  else if point = '\n'.toNat then ['\\', 'n']
  else if point = '\r'.toNat then ['\\', 'r']
  else escapeHidden point

/-- The text between quotation marks, with an escape for every code point that would not show or
would end the quotation. -/
def quoted (text : List Char) : String :=
  let quote := quoteFor text
  String.ofList (quote :: (points text).flatMap (escapePoint quote) ++ [quote])

end TabletopDice.Text
