import TabletopDice.Text.Half

/-!
Encodings of text in code units of one, two or four bytes. Structured data begins with two
characters of ASCII, or has but one, so that the places of the zero bytes at its start tell how it
is encoded.
-/

set_option autoImplicit false

namespace TabletopDice.Text

/-! ## Code units of two bytes -/

/-- The code points that code units stand for. A half without its partner stands for itself. -/
def pointsOfUnits : List Nat → List Nat
  | first :: second :: rest =>
      if isFirstHalf first && isSecondHalf second then
        pairPoint first second :: pointsOfUnits rest
      else first :: pointsOfUnits (second :: rest)
  | [unit] => [unit]
  | [] => []

/-! ## Bytes -/

/-- Which byte of a code unit comes first. -/
inductive ByteOrder where
  | greatestFirst
  | leastFirst
deriving DecidableEq, Repr

namespace ByteOrder

def number (order : ByteOrder) (bytes : List UInt8) : Nat :=
  let digits := match order with
    | greatestFirst => bytes
    | leastFirst => bytes.reverse
  digits.foldl (fun number byte => number * 256 + byte.toNat) 0

/-- The code units of two bytes that a text consists of. No byte may be left over. -/
def units (order : ByteOrder) : List UInt8 → Option (List Nat)
  | [] => some []
  | a :: b :: rest => (order.units rest).map (order.number [a, b] :: ·)
  | _ => none

/-- The code points that a text consists of, if it has four bytes for each. No byte may be left
over, and no number may be too great for a code point. -/
def widePoints (order : ByteOrder) : List UInt8 → Option (List Nat)
  | [] => some []
  | a :: b :: c :: d :: rest =>
      let point := order.number [a, b, c, d]
      if point < 0x110000 then (order.widePoints rest).map (point :: ·) else none
  | _ => none

end ByteOrder

inductive Encoding where
  | bytes
  | pairs (order : ByteOrder)
  | quadruples (order : ByteOrder)
deriving DecidableEq, Repr

/-- The encoding that the zero bytes at the start of a text tell. -/
def Encoding.ofBytes : List UInt8 → Encoding
  | 0 :: 0 :: _ :: _ :: _ => .quadruples .greatestFirst
  | 0 :: _ :: _ :: _ :: _ => .pairs .greatestFirst
  | _ :: 0 :: 0 :: 0 :: _ => .quadruples .leastFirst
  | _ :: 0 :: _ :: _ :: _ => .pairs .leastFirst
  | [0, _] => .pairs .greatestFirst
  | [_, 0] => .pairs .leastFirst
  | _ => .bytes

/-- The text without the signature that may stand in front of it to show its encoding. -/
def withoutSignature : List Char → List Char
  | '\uFEFF' :: rest => rest
  | text => text

/-- The bytes of a text in kept form that has no halves. -/
def bytesOf (text : List Char) : List UInt8 :=
  (String.ofList ((points text).map Char.ofNat)).toUTF8.data.toList

/-- The text, in kept form, that is meant by a text whose bytes may be in another encoding than its
own. -/
def decode (text : List Char) : Option (List Char) :=
  let bytes := bytesOf text
  match Encoding.ofBytes bytes with
  | .bytes => some (withoutSignature text)
  | .pairs order => (order.units bytes).map fun units => (pointsOfUnits units).flatMap keep
  | .quadruples order => (order.widePoints bytes).map (·.flatMap keep)

end TabletopDice.Text
