/-!
White space. A notation may contain blank characters anywhere, and text that holds nothing else
counts as empty.
-/

set_option autoImplicit false

namespace TabletopDice.Text

/-- The characters with the Unicode property White_Space. -/
def isWhiteSpace (c : Char) : Bool :=
  let code := c.toNat
  (0x09 ≤ code && code ≤ 0x0D) || code == 0x20 || code == 0x85 || code == 0xA0 ||
    code == 0x1680 || (0x2000 ≤ code && code ≤ 0x200A) || code == 0x2028 || code == 0x2029 ||
    code == 0x202F || code == 0x205F || code == 0x3000

/-- White space, and the four information separators. -/
def isBlank (c : Char) : Bool :=
  isWhiteSpace c || (0x1C ≤ c.toNat && c.toNat ≤ 0x1F)

def allBlank (text : List Char) : Bool :=
  text.all isBlank

def deleteBlanks (text : List Char) : List Char :=
  text.filter (!isBlank ·)

/-- The text without the characters of a class at its two ends. -/
def trim (inClass : Char → Bool) (text : List Char) : List Char :=
  ((text.dropWhile inClass).reverse.dropWhile inClass).reverse

theorem deleteBlanks_append (first second : List Char) :
    deleteBlanks (first ++ second) = deleteBlanks first ++ deleteBlanks second :=
  List.filter_append _ _

end TabletopDice.Text
