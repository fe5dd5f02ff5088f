import TabletopDice.Data.Value
import TabletopDice.Settings.Reference
import TabletopDice.Text.Blank
import TabletopDice.Text.Encoding

/-!
Files of assignments. Each line assigns a text to a name: `NAME=value`, with `export` in front if
one likes. The value may stand in quotes, and then may contain line breaks and escapes. Quoted or
not, it may refer to other names. A name alone takes its text away again. A `#` at the start of a
line or behind a blank begins a comment. Lines of any other form are passed over.
-/

set_option autoImplicit false

namespace TabletopDice.Assignments

open Data

def isInlineBlank (c : Char) : Bool :=
  Text.isBlank c && c != '\n' && c != '\r'

def isLineEnd (c : Char) : Bool :=
  c == '\n' || c == '\r'

/-- The text with every way of ending a line turned into a line feed. -/
def unifyLineEnds : List Char → List Char
  | '\r' :: '\n' :: rest => '\n' :: unifyLineEnds rest
  | '\r' :: rest => '\n' :: unifyLineEnds rest
  | c :: rest => c :: unifyLineEnds rest
  | [] => []

def skipExport (text : List Char) : List Char :=
  let word := "export".toList
  if word.isPrefixOf text then
    match text.drop word.length with
    | c :: rest => if isInlineBlank c then rest.dropWhile isInlineBlank else text
    | [] => text
  else text

/-- A name and the text behind it. A comment has no name. -/
def takeName (text : List Char) : Option (Option (List Char) × List Char) :=
  match text with
  | '#' :: _ => some (none, text)
  | '\x27' :: quoted =>
      match quoted.span (· != '\x27') with
      | ([], _) => none
      | (name, _ :: rest) => some (some name, rest)
      | (_, []) => none
  | _ =>
      match text.span fun c => c != '=' && c != '#' && !Text.isBlank c with
      | ([], _) => none
      | (name, rest) => some (some name, rest)

def escaped? (c : Char) : Option Char :=
  if c == '\\' || c == '\x27' || c == '\x22' then some c
  else if c == 'a' then some '\x07'
  else if c == 'b' then some '\x08'
  else if c == 'f' then some '\x0C'
  else if c == 'n' then some '\n'
  else if c == 'r' then some '\r'
  else if c == 't' then some '\t'
  else if c == 'v' then some '\x0B'
  else none

/-- Between single quotes only the quote and the backslash are escaped. -/
def escapedLiteral? (c : Char) : Option Char :=
  if c == '\\' || c == '\x27' then some c else none

/-- The quoted text up to its closing mark with its escapes resolved, and what follows the mark. A
backslash takes the next character with it, so that this one does not close the text, and both stay
if they are no escape. -/
def takeQuoted (mark : Char) (escape : Char → Option Char) :
    List Char → Option (List Char × List Char)
  | [] => none
  | '\\' :: c :: rest =>
      (takeQuoted mark escape rest).map fun (text, rest) =>
        match escape c with
        | some plain => (plain :: text, rest)
        | none => ('\\' :: c :: text, rest)
  | c :: rest =>
      if c == mark then some ([], rest)
      else (takeQuoted mark escape rest).map fun (text, rest) => (c :: text, rest)

/-- The text up to a comment, which begins with a blank and a `#`. -/
def cutComment : List Char → List Char
  | first :: '#' :: rest => if Text.isBlank first then [] else first :: cutComment ('#' :: rest)
  | c :: rest => c :: cutComment rest
  | [] => []

/-- The value behind an equals sign, and the text behind it. Blanks around the value do not belong
to it, but a comment may begin right behind them. -/
def takeValue (text : List Char) : Option (List Char × List Char) :=
  match text.dropWhile isInlineBlank with
  | '\x27' :: quoted => takeQuoted '\x27' escapedLiteral? quoted
  | '\x22' :: quoted => takeQuoted '\x22' escaped? quoted
  | _ =>
      let (line, rest) := text.span (!isLineEnd ·)
      some (Text.trim Text.isBlank (cutComment line), rest)

/-- The text behind the rest of a line that holds nothing more than a comment. -/
def endLine? (text : List Char) : Option (List Char) :=
  let text := text.dropWhile isInlineBlank
  let text :=
    match text with
    | '#' :: _ => text.dropWhile (!isLineEnd ·)
    | _ => text
  match text with
  | [] => some []
  | c :: rest => if isLineEnd c then some rest else none

def skipLine (text : List Char) : List Char :=
  (text.dropWhile (!isLineEnd ·)).drop 1

/-- A name with the text that a line gives to it, or with none. -/
abbrev Assignment := String × Option String

/-- One line: the assignment on it, if it is one, and the text behind it. -/
def takeLine (text : List Char) : Option Assignment × List Char :=
  match takeName (skipExport text) with
  | none => (none, skipLine (skipExport text))
  | some (name, rest) =>
      let rest := rest.dropWhile isInlineBlank
      match rest with
      | '=' :: value =>
          match takeValue value with
          | none => (none, skipLine value)
          | some (value, rest) =>
              match endLine? rest with
              | none => (none, skipLine rest)
              | some next =>
                  (name.map fun name => (String.ofList name, some (String.ofList value)), next)
      | _ =>
          match endLine? rest with
          | none => (none, skipLine rest)
          | some next => (name.map fun name => (String.ofList name, none), next)

/-- The assignments of a text in order. Every line takes at least one character, so that as much
fuel as there are characters is enough. -/
def takeLines (fuel : Nat) (text : List Char) : List Assignment :=
  match fuel with
  | 0 => []
  | fuel + 1 =>
      match text.dropWhile Text.isBlank with
      | [] => []
      | text =>
          let (assignment, rest) := takeLine text
          assignment.toList ++ takeLines fuel rest

/-- The text that belongs to a name, while a text is read: what has been assigned to it so far, the
empty text if its text has been taken away, or else what it has in the environment. -/
def textOf (environment : List (String × String)) (assigned : List Assignment) (name : String) :
    Option String :=
  match assigned.lookup name with
  | some text => some (text.getD "")
  | none => environment.lookup name

/-- What a text leaves assigned, references in it being resolved: each name once, in the order of
the first mention, with what the last mention gives to it. -/
def read (environment : List (String × String)) (text : String) : List Assignment :=
  let text := unifyLineEnds (Text.withoutSignature text.toList)
  (takeLines text.length text).foldl
    (fun assigned (name, value) =>
      let resolve (value : String) : String :=
        String.ofList (Reference.resolve (textOf environment assigned) value.toList)
      setEntry assigned name (value.map resolve))
    []

end TabletopDice.Assignments
