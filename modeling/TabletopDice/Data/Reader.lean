import TabletopDice.Data.Value
import TabletopDice.Number.Arithmetic
import TabletopDice.Text.Decimal
import TabletopDice.Text.Quoted

/-!
Reading structured data from JSON text. Besides the standard's values the reader takes `NaN`,
`Infinity` and `-Infinity`, and of two fields with one name it keeps the later. Refused text is
reported with the position of the code point that could not continue. Names and texts are given
in kept form.
-/

set_option autoImplicit false

namespace TabletopDice.Data

inductive Problem where
  | noValue
  | noName
  | noColon
  | noComma
  | extraData
  | openString
  | controlCharacter
  | unknownEscape
  | badCodeUnit
deriving DecidableEq, Repr

def Problem.message : Problem → String
  | .noValue => "Expecting value"
  | .noName => "Expecting property name enclosed in double quotes"
  | .noColon => "Expecting ':' delimiter"
  | .noComma => "Expecting ',' delimiter"
  | .extraData => "Extra data"
  | .openString => "Unterminated string starting at"
  | .controlCharacter => "Invalid control character at"
  | .unknownEscape => "Invalid \\escape"
  | .badCodeUnit => "Invalid \\uXXXX escape"

/-- Why text was not read: its form, an integer with too many digits, or brackets that are nested
too deeply. -/
inductive ReadFault where
  | malformed (problem : Problem) (position : Nat)
  | numeral (limit : Text.DigitLimit)
  | nesting
deriving DecidableEq, Repr

/-- The rules of a reader: how it reads the digits of an integer, and how many brackets it lets
stand inside each other. -/
structure ReadRules where
  readDigits : List Char → Except Text.DigitLimit Nat := Text.readDigits
  depth : Nat := 960

structure Cursor where
  position : Nat
  rest : List Char

namespace Cursor

def isSpace (c : Char) : Bool :=
  c == ' ' || c == '\t' || c == '\n' || c == '\r'

def advance (cursor : Cursor) (width : Nat) : Cursor :=
  ⟨cursor.position + width, cursor.rest.drop width⟩

def skipSpace (cursor : Cursor) : Cursor :=
  cursor.advance (cursor.rest.takeWhile isSpace).length

def fail {α : Type} (cursor : Cursor) (problem : Problem) : Except ReadFault α :=
  .error (.malformed problem cursor.position)

end Cursor

/-! ## Strings -/

/-- The number that the first four characters denote in hexadecimal. It has to be followed by
another character. -/
def codeUnit? : List Char → Option Nat
  | a :: b :: c :: d :: _ :: _ => do
      let a ← Text.hexValue? a
      let b ← Text.hexValue? b
      let c ← Text.hexValue? c
      let d ← Text.hexValue? d
      return ((a * 16 + b) * 16 + c) * 16 + d
  | _ => none

/-- What the text of a string continues with: its end, a code point written in so many places and
given in kept form, or a fault so many places on. -/
inductive StringStep where
  | close
  | point (kept : List Char) (width : Nat)
  | fault (problem : Problem) (offset : Nat)
  | unfinished

/-- The step at an escaped code unit, whose digits begin the given text. Two units that form a
pair are one code point. -/
def unitStep (digits : List Char) : StringStep :=
  match codeUnit? digits with
  | none => .fault .badCodeUnit 1
  | some unit =>
      let second := digits.drop 4
      if Text.isFirstHalf unit && ['\\', 'u'].isPrefixOf second && 7 ≤ second.length then
        match codeUnit? (second.drop 2) with
        | none => .fault .badCodeUnit 7
        | some next =>
            if Text.isSecondHalf next then .point (Text.keep (Text.pairPoint unit next)) 12
            else .point (Text.keep unit) 6
      else .point (Text.keep unit) 6

def stringStep : List Char → StringStep
  | [] => .unfinished
  | c :: rest =>
      if c == '\x22' then .close
      else if c == '\\' then
        match rest with
        | [] => .unfinished
        | 'u' :: digits => unitStep digits
        | '\x22' :: _ => .point ['\x22'] 2
        | '\\' :: _ => .point ['\\'] 2
        | '/' :: _ => .point ['/'] 2
        | 'b' :: _ => .point ['\x08'] 2
        | 'f' :: _ => .point ['\x0C'] 2
        | 'n' :: _ => .point ['\n'] 2
        | 'r' :: _ => .point ['\r'] 2
        | 't' :: _ => .point ['\t'] 2
        | _ => .fault .unknownEscape 0
      else if c.toNat < 0x20 then .fault .controlCharacter 0
      else .point [c] 1

/-- Reads the text of a string up to its closing quotation mark. `pending` is the number of
characters that the last step still covers. -/
def readString (opening : Nat) (pending position : Nat) (reversed : List Char) :
    List Char → Except ReadFault (String × Cursor)
  | [] => .error (.malformed .openString opening)
  | c :: rest =>
      match pending with
      | left + 1 => readString opening left (position + 1) reversed rest
      | 0 =>
          match stringStep (c :: rest) with
          | .close => .ok (String.ofList reversed.reverse, ⟨position + 1, rest⟩)
          | .point kept width =>
              readString opening (width - 1) (position + 1) (kept.reverse ++ reversed) rest
          | .fault problem offset => .error (.malformed problem (position + offset))
          | .unfinished => .error (.malformed .openString opening)

/-! ## Numbers -/

/-- The parts of a numeral: the sign, the digits before the point, the digits behind it and the
exponent. A numeral with neither of the last two is an integer. -/
structure Numeral where
  negative : Bool
  whole : List Char
  fraction : List Char
  exponent : Option (Bool × List Char)

def Numeral.isInteger (numeral : Numeral) : Bool :=
  numeral.fraction.isEmpty && numeral.exponent.isNone

/-- The digits behind a point. A point without digits does not belong to the numeral. -/
def scanFraction (text : List Char) : List Char × List Char :=
  match text with
  | '.' :: rest =>
      match rest.span Text.isDigit with
      | ([], _) => ([], text)
      | found => found
  | _ => ([], text)

/-- The sign and the digits of an exponent. A mark without digits does not belong to the
numeral. -/
def scanExponent (text : List Char) : Option (Bool × List Char) × List Char :=
  match text with
  | mark :: rest =>
      if mark == 'e' || mark == 'E' then
        let (negative, digits) :=
          match rest with
          | '-' :: digits => (true, digits)
          | '+' :: digits => (false, digits)
          | digits => (false, digits)
        match digits.span Text.isDigit with
        | ([], _) => (none, text)
        | (found, rest) => (some (negative, found), rest)
      else (none, text)
  | [] => (none, text)

def scanNumeral (text : List Char) : Option (Numeral × List Char) := do
  let (negative, unsigned) :=
    match text with
    | '-' :: rest => (true, rest)
    | _ => (false, text)
  let (whole, rest) ← Text.takeWhole unsigned
  let (fraction, rest) := scanFraction rest
  let (exponent, rest) := scanExponent rest
  return (⟨negative, whole, fraction, exponent⟩, rest)

def Numeral.value (readDigits : List Char → Except Text.DigitLimit Nat) (numeral : Numeral) :
    Except ReadFault Value :=
  if numeral.isInteger then
    match readDigits numeral.whole with
    | .ok magnitude => .ok (.int (if numeral.negative then -magnitude else magnitude))
    | .error limit => .error (.numeral limit)
  else
    let scale : Int :=
      match numeral.exponent with
      | none => 0
      | some (true, digits) => -Text.digitsValue digits
      | some (false, digits) => Text.digitsValue digits
    .ok (.real (Number.nearestDecimal numeral.negative
      (Text.digitsValue (numeral.whole ++ numeral.fraction)) (scale - numeral.fraction.length)))

/-! ## Values -/

def words : List (List Char × Value) := [
  ("null".toList, .null), ("true".toList, .bool true), ("false".toList, .bool false),
  ("NaN".toList, .real (0.0 / 0.0)), ("Infinity".toList, .real (1.0 / 0.0)),
  ("-Infinity".toList, .real (-1.0 / 0.0))]

def readScalar (readDigits : List Char → Except Text.DigitLimit Nat) (cursor : Cursor) :
    Except ReadFault (Value × Cursor) :=
  match words.find? fun (word, _) => word.isPrefixOf cursor.rest with
  | some (word, value) => .ok (value, cursor.advance word.length)
  | none =>
      match scanNumeral cursor.rest with
      | none => cursor.fail .noValue
      | some (numeral, rest) => do
          let value ← numeral.value readDigits
          return (value, ⟨cursor.position + (cursor.rest.length - rest.length), rest⟩)

mutual

/-- Reads the value at the cursor, with so many brackets still allowed inside each other. Each
bracket takes one character and two steps, so that fuel for two steps per character is enough. -/
def readValue (rules : ReadRules) (fuel depth : Nat) (cursor : Cursor) :
    Except ReadFault (Value × Cursor) :=
  match fuel with
  | 0 => cursor.fail .noValue
  | fuel + 1 =>
      match cursor.rest with
      | [] => cursor.fail .noValue
      | c :: rest =>
          if c == '\x22' then do
            let (text, next) ← readString cursor.position 0 (cursor.position + 1) [] rest
            return (.text text, next)
          else if c == '{' || c == '[' then
            match depth with
            | 0 => .error .nesting
            | depth + 1 =>
                let inside := (cursor.advance 1).skipSpace
                match c, inside.rest with
                | '{', '}' :: _ => .ok (.object [], inside.advance 1)
                | '{', _ => readFields rules fuel depth [] inside
                | _, ']' :: _ => .ok (.list [], inside.advance 1)
                | _, _ => readItems rules fuel depth [] inside
          else readScalar rules.readDigits cursor

def readItems (rules : ReadRules) (fuel depth : Nat) (reversed : List Value) (cursor : Cursor) :
    Except ReadFault (Value × Cursor) :=
  match fuel with
  | 0 => cursor.fail .noValue
  | fuel + 1 => do
      let (item, next) ← readValue rules fuel depth cursor
      let next := next.skipSpace
      match next.rest with
      | ']' :: _ => return (.list (item :: reversed).reverse, next.advance 1)
      | ',' :: _ => readItems rules fuel depth (item :: reversed) (next.advance 1).skipSpace
      | _ => next.fail .noComma

def readFields (rules : ReadRules) (fuel depth : Nat) (fields : List (String × Value))
    (cursor : Cursor) : Except ReadFault (Value × Cursor) :=
  match fuel with
  | 0 => cursor.fail .noName
  | fuel + 1 =>
      match cursor.rest with
      | '\x22' :: rest => do
          let (name, next) ← readString cursor.position 0 (cursor.position + 1) [] rest
          let next := next.skipSpace
          match next.rest with
          | ':' :: _ =>
              let (value, next) ← readValue rules fuel depth (next.advance 1).skipSpace
              let next := next.skipSpace
              let fields := setEntry fields name value
              match next.rest with
              | '}' :: _ => return (.object fields, next.advance 1)
              | ',' :: _ => readFields rules fuel depth fields (next.advance 1).skipSpace
              | _ => next.fail .noComma
          | _ => next.fail .noColon
      | _ => cursor.fail .noName

end

def readAll (rules : ReadRules) (cursor : Cursor) : Except ReadFault Value := do
  let fuel := 2 * cursor.rest.length + 2
  let (value, next) ← readValue rules fuel rules.depth cursor.skipSpace
  let next := next.skipSpace
  if next.rest.isEmpty then return value else next.fail .extraData

/-- The fault with its position in code points instead of characters of the kept form. -/
def ReadFault.inPoints (text : List Char) : ReadFault → ReadFault
  | malformed problem position => malformed problem (Text.points (text.take position)).length
  | fault => fault

def Value.read (rules : ReadRules) (text : List Char) : Except ReadFault Value :=
  (readAll rules ⟨0, text⟩).mapError (·.inPoints text)

end TabletopDice.Data
