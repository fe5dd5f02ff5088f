import TabletopDice.Notation.Fault

/-!
Term tokens, the written form of a dice term: `[count]d(size|%|F)`, then in this order and each at
most once a filter (`kh`, `kl`, `dh` or `dl` with a number), `r` with a number, `!`, and `>` with a
number. Letters may have either case.
-/

set_option autoImplicit false

namespace TabletopDice

/-- How the size of a die is written: in digits, `%` for percentile dice, `F` for fudge dice. -/
inductive SizeToken where
  | digits (digits : List Char)
  | percent
  | fudge
deriving DecidableEq, Repr

structure FilterToken where
  kind : FilterKind
  side : Side
  digits : List Char
deriving DecidableEq, Repr

/-- A dice term as written, its numbers still in digits. -/
structure TermToken where
  count : Option (List Char)
  size : SizeToken
  filter : Option FilterToken
  reroll : Option (List Char)
  explode : Bool
  success : Option (List Char)
deriving DecidableEq, Repr

/-- Whether a character is the given lower-case letter or its capital. -/
def isLetter (letter c : Char) : Bool :=
  c == letter || c == letter.toUpper

def takeDigits? (text : List Char) : Option (List Char × List Char) :=
  match text.span Text.isDigit with
  | ([], _) => none
  | found => some found

/-- An optional part of a token: a marking letter with digits behind it. A letter without digits
is left where it is. -/
def takeNumber (letter : Char) (text : List Char) : Option (List Char) × List Char :=
  match text with
  | c :: rest =>
      if isLetter letter c then
        match takeDigits? rest with
        | some (digits, rest) => (some digits, rest)
        | none => (none, text)
      else (none, text)
  | [] => (none, text)

def SizeToken.take? (text : List Char) : Option (SizeToken × List Char) :=
  match takeDigits? text with
  | some (run, rest) => some (.digits run, rest)
  | none =>
      match text with
      | c :: rest =>
          if c == '%' then some (.percent, rest)
          else if isLetter 'f' c then some (.fudge, rest)
          else none
      | [] => none

def FilterKind.ofLetter? (c : Char) : Option FilterKind :=
  if isLetter 'k' c then some .keep else if isLetter 'd' c then some .drop else none

def Side.ofLetter? (c : Char) : Option Side :=
  if isLetter 'h' c then some .highest else if isLetter 'l' c then some .lowest else none

def FilterToken.take (text : List Char) : Option FilterToken × List Char :=
  match text with
  | first :: second :: rest =>
      match FilterKind.ofLetter? first, Side.ofLetter? second, takeDigits? rest with
      | some kind, some side, some (digits, rest) => (some ⟨kind, side, digits⟩, rest)
      | _, _, _ => (none, text)
  | _ => (none, text)

def takeExplode (text : List Char) : Bool × List Char :=
  match text with
  | '!' :: rest => (true, rest)
  | _ => (false, text)

def takeDie? (text : List Char) : Option (List Char) :=
  match text with
  | c :: rest => if isLetter 'd' c then some rest else none
  | [] => none

def takeCount (text : List Char) : Option (List Char) × List Char :=
  match takeDigits? text with
  | some (digits, rest) => (some digits, rest)
  | none => (none, text)

/-- The token that a text is, as a whole. -/
def TermToken.read? (text : List Char) : Option TermToken := do
  let (count, rest) := takeCount text
  let rest ← takeDie? rest
  let (size, rest) ← SizeToken.take? rest
  let (filter, rest) := FilterToken.take rest
  let (reroll, rest) := takeNumber 'r' rest
  let (explode, rest) := takeExplode rest
  let (success, rest) := takeNumber '>' rest
  if rest.isEmpty then some { count, size, filter, reroll, explode, success } else none

/-- Whether a character may stand directly behind the letter of a die: a digit, `%` or `F`. -/
def startsSize (c : Char) : Bool :=
  Text.isDigit c || c == '%' || isLetter 'f' c

/-- Whether a text has a die letter with the start of a size directly behind it. -/
def hasDiePair : List Char → Bool
  | c :: next :: rest => (isLetter 'd' c && startsSize next) || hasDiePair (next :: rest)
  | _ => false

end TabletopDice
