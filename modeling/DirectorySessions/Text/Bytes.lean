/-
# Places in a text by bytes

A place in a text is the number of bytes before it in UTF-8.  A text can be
cut only where a character ends.
-/

namespace DirectorySessions.Text

/-- The bytes that characters take. -/
def byteLength : List Char → Nat
  | [] => 0
  | c :: cs => c.utf8Size + byteLength cs

/-- What follows the first `n` bytes, if a character ends there. -/
def dropBytes : Nat → List Char → Option (List Char)
  | 0, cs => some cs
  | _ + 1, [] => none
  | n + 1, c :: cs =>
    if c.utf8Size ≤ n + 1 then dropBytes (n + 1 - c.utf8Size) cs else none

/-- The first `n` bytes, if a character ends there. -/
def takeBytes : Nat → List Char → Option (List Char)
  | 0, _ => some []
  | _ + 1, [] => none
  | n + 1, c :: cs =>
    if c.utf8Size ≤ n + 1 then (takeBytes (n + 1 - c.utf8Size) cs).map (c :: ·) else none

/-- The `n` bytes after the first `start`. -/
def sliceBytes (start n : Nat) (cs : List Char) : Option (List Char) :=
  (dropBytes start cs).bind (takeBytes n)

end DirectorySessions.Text
