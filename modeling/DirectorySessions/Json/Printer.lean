/-
# Compact JSON text

No blanks; in strings only the quote, the backslash and the characters below
U+0020 are escaped, five of these by a letter and the rest by four
lower-case hexadecimal digits; everything else stands as it is.
-/
import DirectorySessions.Json.Value
import DirectorySessions.Decimal.Shortest

namespace DirectorySessions.Json

def hexDigit (n : Nat) : Char :=
  if n < 10 then Char.ofNat ('0'.toNat + n) else Char.ofNat ('a'.toNat + (n - 10))

def escapeChar (c : Char) : List Char :=
  if c = '"' then ['\\', '"']
  else if c = '\\' then ['\\', '\\']
  else if c.toNat < 0x20 then
    match c.toNat with
    | 8 => ['\\', 'b']
    | 9 => ['\\', 't']
    | 10 => ['\\', 'n']
    | 12 => ['\\', 'f']
    | 13 => ['\\', 'r']
    | n => ['\\', 'u', '0', '0', hexDigit (n / 16), hexDigit (n % 16)]
  else [c]

/-- The body of a JSON string and its closing quote. -/
def bodyChars : List Char → List Char
  | [] => ['"']
  | c :: cs => escapeChar c ++ bodyChars cs

def stringChars (s : String) : List Char := '"' :: bodyChars s.toList

def integerChars (n : Int) : List Char :=
  if n < 0 then '-' :: Nat.toDigits 10 n.natAbs else Nat.toDigits 10 n.natAbs

def Number.chars : Number → List Char
  | .integer n => integerChars n
  | .real x => (Decimal.shortestText x).toList

mutual

def Value.chars : Value → List Char
  | .null => ['n', 'u', 'l', 'l']
  | .bool true => ['t', 'r', 'u', 'e']
  | .bool false => ['f', 'a', 'l', 's', 'e']
  | .number n => n.chars
  | .string s => stringChars s
  | .array [] => ['[', ']']
  | .array (v :: vs) => '[' :: (v.chars ++ Value.moreItems vs)
  | .object [] => ['\x7b', '\x7d']
  | .object ((k, v) :: ms) => '\x7b' :: (stringChars k ++ ':' :: (v.chars ++ Value.moreMembers ms))

/-- The items after the first, and the closing bracket. -/
def Value.moreItems : List Value → List Char
  | [] => [']']
  | v :: vs => ',' :: (v.chars ++ Value.moreItems vs)

/-- The members after the first, and the closing brace. -/
def Value.moreMembers : List (String × Value) → List Char
  | [] => ['\x7d']
  | (k, v) :: ms => ',' :: (stringChars k ++ ':' :: (v.chars ++ Value.moreMembers ms))

end

/-- The compact text of a value. -/
def Value.text (v : Value) : String := String.ofList v.chars

end DirectorySessions.Json
