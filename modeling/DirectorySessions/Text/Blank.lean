/-
# Blanks

A name, a base or a line counts as empty when it holds nothing but blanks.
A blank is a character with the Unicode property White_Space; in particular
U+0085, U+00A0 and U+3000 are blanks, while U+200B, U+FEFF and the
separators U+001C to U+001F are not.
-/

namespace DirectorySessions.Text

/-- The Unicode property White_Space. -/
def isBlank (c : Char) : Bool :=
  let n := c.toNat
  (0x09 ≤ n && n ≤ 0x0D) || n == 0x20 || n == 0x85 || n == 0xA0 || n == 0x1680 ||
    (0x2000 ≤ n && n ≤ 0x200A) || n == 0x2028 || n == 0x2029 || n == 0x202F ||
    n == 0x205F || n == 0x3000

/-- Nothing but blanks, so in particular the empty text. -/
def allBlank (s : String) : Bool := s.toList.all isBlank

/-- The characters without the blanks before the first and after the last other character. -/
def trimChars (cs : List Char) : List Char :=
  ((cs.dropWhile isBlank).reverse.dropWhile isBlank).reverse

/-- The text without leading and trailing blanks. -/
def trim (s : String) : String := String.ofList (trimChars s.toList)

end DirectorySessions.Text
