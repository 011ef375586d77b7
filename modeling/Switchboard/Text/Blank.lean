/-!
# Blank characters

White space in the sense of Unicode's `White_Space` property, and the trimming and folding of text
that names are compared by.
-/

namespace Switchboard.Text

/-- Whether a character has the property `White_Space`. -/
def isBlank (c : Char) : Bool :=
  let n := c.toNat
  (9 ≤ n && n ≤ 13) || n == 32 || n == 0x85 || n == 0xA0 || n == 0x1680 ||
    (0x2000 ≤ n && n ≤ 0x200A) || n == 0x2028 || n == 0x2029 || n == 0x202F || n == 0x205F ||
    n == 0x3000

/-- The text without its leading blanks. -/
def trimStart (cs : List Char) : List Char := cs.dropWhile isBlank

/-- The text without its trailing blanks. -/
def trimEnd (cs : List Char) : List Char := (cs.reverse.dropWhile isBlank).reverse

/-- The text without the blanks around it. -/
def trim (cs : List Char) : List Char := trimEnd (trimStart cs)

/-- Whether a text has no other characters than blanks. -/
def isBlankText (cs : List Char) : Bool := cs.all isBlank

/-- Latin capitals become small letters; all other characters stay. -/
def lower (cs : List Char) : List Char := cs.map Char.toLower

/-- Equality up to the case of Latin letters. -/
def sameFolded (a b : List Char) : Bool := lower a == lower b

end Switchboard.Text
