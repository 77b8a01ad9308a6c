/-
# Unsigned decimal numbers

The spelling in which a setting may give a number: an optional plus sign and
at least one ASCII digit, nothing else, any number of leading zeros.  A
number that does not fit the word it is meant for is no number at all; it is
never reduced.
-/

namespace DirectorySessions.Decimal

def digit? (c : Char) : Option Nat :=
  if '0' ≤ c ∧ c ≤ '9' then some (c.toNat - '0'.toNat) else none

/-- The value of digits written after a number that is already read. -/
def readMore (n : Nat) : List Char → Option Nat
  | [] => some n
  | c :: cs => match digit? c with
    | some d => readMore (10 * n + d) cs
    | none => none

def readDigits : List Char → Option Nat
  | [] => none
  | c :: cs => readMore 0 (c :: cs)

/-- An optional plus sign and one or more digits. -/
def readUnsigned (s : String) : Option Nat :=
  match s.toList with
  | '+' :: cs => readDigits cs
  | cs => readDigits cs

/-- A number that fits a word of so many bits. -/
def readWord (bits : Nat) (s : String) : Option Nat :=
  (readUnsigned s).filter fun n => decide (n < Nat.pow 2 bits)

/-- A number that fits a word of so many bits and lies between two bounds. -/
def readWordWithin (bits lo hi : Nat) (s : String) : Option Nat :=
  (readWord bits s).filter fun n => decide (lo ≤ n) && decide (n ≤ hi)

/-- Counts and times are 64-bit words. -/
def readCountWithin (lo hi : Nat) (s : String) : Option Nat := readWordWithin 64 lo hi s

/-- Sizes are as wide as an address, which is 64 bits too. -/
def readSizeWithin (lo hi : Nat) (s : String) : Option Nat := readWordWithin 64 lo hi s

end DirectorySessions.Decimal
