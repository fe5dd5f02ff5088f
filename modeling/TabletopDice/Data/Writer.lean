import TabletopDice.Data.Value
import TabletopDice.Number.Shortest
import TabletopDice.Text.Half
import TabletopDice.Text.Quoted

/-!
Writing structured data as JSON text, without any spaces. Text that is written has to consist of
characters, and numbers have to be finite.
-/

set_option autoImplicit false

namespace TabletopDice.Data

/-! ## Strings -/

/-- A character within a string. Quotation marks, backslashes and controls are escaped. -/
def writeChar (c : Char) : List Char :=
  if c == Text.doubleQuote || c == '\\' then ['\\', c]
  else if c == '\x08' then ['\\', 'b']
  else if c == '\x0C' then ['\\', 'f']
  else if c == '\n' then ['\\', 'n']
  else if c == '\r' then ['\\', 'r']
  else if c == '\t' then ['\\', 't']
  else if c.toNat < 0x20 then '\\' :: 'u' :: Text.hexadecimal 4 c.toNat
  else [c]

def writeString (text : String) : List Char :=
  Text.doubleQuote :: text.toList.flatMap writeChar ++ [Text.doubleQuote]

/-! ## Numbers -/

def writeExponent (exponent : Int) : List Char :=
  let digits := Nat.toDigits 10 exponent.natAbs
  'e' :: (if exponent < 0 then '-' else '+') :: List.replicate (2 - digits.length) '0' ++ digits

/-- A decimal. It has a point if its first digit counts at least 1/10000 and less than 10^16, and
an exponent otherwise. -/
def writeDecimal (decimal : Number.Decimal) : List Char :=
  let digits := Nat.toDigits 10 decimal.digits
  let leading := decimal.exponent + digits.length - 1
  if leading < -4 || 16 ≤ leading then
    digits.take 1 ++ (if digits.length = 1 then [] else '.' :: digits.drop 1) ++
      writeExponent leading
  else if leading < 0 then '0' :: '.' :: List.replicate (-leading - 1).toNat '0' ++ digits
  else if decimal.exponent < 0 then
    let whole := leading.toNat + 1
    digits.take whole ++ '.' :: digits.drop whole
  else digits ++ List.replicate decimal.exponent.toNat '0' ++ ['.', '0']

def writeReal (number : Float) : List Char :=
  let bits := number.toBits.toNat
  let magnitude := bits % Number.signBit
  let text :=
    if magnitude = 0 then ['0', '.', '0']
    else writeDecimal (Number.Binary.ofBits magnitude).shortest
  if Number.signBit ≤ bits then '-' :: text else text

/-! ## Values -/

def withCommas (texts : List (List Char)) : List Char :=
  [','].intercalate texts

namespace Value

mutual

/-- The text of a value whose numbers are finite. -/
def write : Value → List Char
  | .null => "null".toList
  | .bool true => "true".toList
  | .bool false => "false".toList
  | .int value => value.repr.toList
  | .real value => writeReal value
  | .text value => writeString value
  | .list items => '[' :: withCommas (writeItems items) ++ [']']
  | .object fields => '{' :: withCommas (writeFields fields) ++ ['}']

def writeItems : List Value → List (List Char)
  | [] => []
  | item :: rest => item.write :: writeItems rest

def writeFields : List (String × Value) → List (List Char)
  | [] => []
  | (name, value) :: rest => (writeString name ++ ':' :: value.write) :: writeFields rest

end

end Value

/-! ## What cannot be written -/

/-- Why data is not written: a number is not finite, or halves of pairs stand in the text. -/
inductive WriteFault where
  | notFinite
  | halves (run : Text.HalfRun)
deriving DecidableEq, Repr

def halvesMessage (run : Text.HalfRun) : String :=
  let shown := Text.quoted (Text.keep run.unit)
  let place :=
    if run.first = run.last then s!"character {shown} in position {run.first}"
    else s!"characters in position {run.first}-{run.last}"
  s!"'utf-8' codec can't encode {place}: surrogates not allowed"

def WriteFault.message : WriteFault → String
  | .notFinite => "Out of range float values are not JSON compliant"
  | .halves run => halvesMessage run

/-- Why a value is not written, if it is not. Halves are found at their places in its text. -/
def Value.writeFault? (value : Value) : Option WriteFault :=
  if !value.allFinite then some .notFinite
  else (Text.halves? value.write).map .halves

end TabletopDice.Data
