import TabletopDice.Text.Blank
import TabletopDice.Text.Decimal
import TabletopDice.Text.Quoted

/-!
Targets of requests. A target names a path, behind which a query or a fragment may stand that no
route looks at. Before it a scheme and an authority may stand, which no route looks at either, but
without a scheme and a host the path is taken from the root.
-/

set_option autoImplicit false

namespace TabletopDice.Service

inductive TargetFault where
  | tooLong
  | control (character : Char) (position : Nat)
  | port (text : List Char)
  | twoSlashes
  | colon
deriving DecidableEq, Repr

def TargetFault.message : TargetFault → String
  | .tooLong => "URL too long"
  | .control character position =>
      let shown := Text.quoted [character]
      s!"Invalid non-printable ASCII character in URL, {shown} at position {position}."
  | .port text =>
      let shown := Text.quoted text
      s!"Invalid port: {shown}"
  | .twoSlashes => "Relative URLs cannot have a path starting with '//'"
  | .colon => "Relative URLs cannot have a path starting with ':'"

/-! ## Paths -/

def withoutSlashes (path : List Char) : List Char :=
  path.dropWhile (· == '/')

def withoutEndSlashes (path : List Char) : List Char :=
  (withoutSlashes path.reverse).reverse

/-- The segments of a path in reverse order with another one behind them. One dot stands for the
place where it is found, and two for the one above; above the root there is none. -/
def addSegment (reversed : List (List Char)) (segment : List Char) : List (List Char) :=
  if segment == ['.'] then reversed
  else if segment == ['.', '.'] then (if reversed == [[]] then reversed else reversed.drop 1)
  else segment :: reversed

def withoutDots (path : List Char) : List Char :=
  ['/'].intercalate ((path.splitOn '/').foldl addSegment []).reverse

def escapedChar? (high low : Char) : Option Char := do
  let code := (← Text.hexValue? high) * 16 + (← Text.hexValue? low)
  if code < 0x80 then some (Char.ofNat code) else none

/-- The text with escaped characters of ASCII resolved, which are written as a percent sign and the
two hexadecimal digits of their codes. Others may stay as they are, since no path of the service
has one. -/
def resolveEscapes : List Char → List Char
  | '%' :: high :: low :: rest =>
      match escapedChar? high low with
      | some c => c :: resolveEscapes rest
      | none => '%' :: resolveEscapes (high :: low :: rest)
  | c :: rest => c :: resolveEscapes rest
  | [] => []

/-! ## Parts of targets -/

/-- The parts of a target that matter for its path. Parts that are missing are empty. -/
structure Target where
  scheme : List Char
  user : List Char
  host : List Char
  port : List Char
  path : List Char
deriving DecidableEq, Repr

namespace Target

/-- The character may stand in a scheme behind its first one, which is a letter. -/
def isSchemeChar (c : Char) : Bool :=
  c.isAlphanum || c == '+' || c == '.' || c == '-'

def splitScheme (text : List Char) : List Char × List Char :=
  let (scheme, rest) :=
    match text with
    | c :: _ => if c.isAlpha then text.span isSchemeChar else ([], text)
    | [] => ([], [])
  match rest with
  | ':' :: rest => (scheme, rest)
  | _ => ([], text)

/-- The character ends a path: a query or a fragment follows. -/
def endsPath (c : Char) : Bool :=
  c == '?' || c == '#'

def splitAuthority (text : List Char) : List Char × List Char :=
  match text with
  | '/' :: '/' :: rest => rest.span fun c => c != '/' && !endsPath c
  | _ => ([], text)

/-- The text in front of the last character of a kind, and what follows it. Without such a
character all follows. -/
def splitLast (mark : Char) (text : List Char) : List Char × List Char :=
  let (reversed, before) := text.reverse.span (· != mark)
  (before.drop 1 |>.reverse, reversed.reverse)

/-- The host at the start of an authority without its user, and what follows it. A host in
brackets goes as far as the last closing one. -/
def splitHost (text : List Char) : List Char × List Char :=
  match text with
  | '[' :: _ =>
      if text.contains ']' then
        let (inside, rest) := splitLast ']' text
        (inside ++ [']'], rest)
      else text.span (· != ':')
  | _ => text.span (· != ':')

def withoutColon : List Char → List Char
  | ':' :: rest => rest
  | text => text

def ofText (text : List Char) : Target :=
  let (scheme, rest) := splitScheme text
  let (authority, rest) := splitAuthority rest
  let (user, place) := splitLast '@' authority
  let (host, port) := splitHost place
  { scheme, user, host, port := withoutColon port, path := rest.takeWhile (!endsPath ·) }

/-- The target has a scheme and a host, so that its path needs no other place to start from. -/
def isAbsolute (target : Target) : Bool :=
  !target.scheme.isEmpty && !target.host.isEmpty

def isBare (target : Target) : Bool :=
  target.scheme.isEmpty && target.user.isEmpty && target.host.isEmpty && target.port.isEmpty

/-- A port is a whole number. Its digits may be grouped by underscores, and a sign in front of it
and blanks around it do no harm. -/
def isPort (text : List Char) : Bool :=
  let digits :=
    match Text.trim Text.isBlank text with
    | '+' :: rest | '-' :: rest => rest
    | rest => rest
  (digits.splitOn '_').all fun group => !group.isEmpty && group.all Text.isDigit

def fault? (target : Target) : Option TargetFault :=
  if !target.port.isEmpty && !isPort target.port then some (.port target.port)
  else if target.isBare && ['/', '/'].isPrefixOf target.path then some .twoSlashes
  else if target.isBare && [':'].isPrefixOf target.path then some .colon
  else none

/-- The path from the root of the service. Dots are resolved once among the target's own segments,
if something stands in front of them, and once from the root. Escapes come last, so that escaped
dots and slashes do not count as such. -/
def fullPath (target : Target) : List Char :=
  let own := if target.isBare then target.path else withoutDots target.path
  let rooted := if target.isAbsolute then own else '/' :: withoutSlashes own
  match withoutDots rooted with
  | [] => ['/']
  | path => resolveEscapes path

end Target

def maxTargetLength : Nat := 65536

def isControl (c : Char) : Bool :=
  c.toNat < 0x20 || c == '\x7F'

def pathOf (text : String) : Except TargetFault (List Char) :=
  let characters := text.toList
  if maxTargetLength < (Text.points characters).length then .error .tooLong
  else
    match characters.span (!isControl ·) with
    | (before, control :: _) => .error (.control control (Text.points before).length)
    | (_, []) =>
        let target := Target.ofText characters
        match target.fault? with
        | some fault => .error fault
        | none => .ok target.fullPath

end TabletopDice.Service

