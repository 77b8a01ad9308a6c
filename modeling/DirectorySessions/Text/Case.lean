/-
# ASCII case

Words that are compared without regard to case: only the ASCII letters have a
lower-case form here, every other character is its own.
-/

namespace DirectorySessions.Text

def lowerChar (c : Char) : Char :=
  if 'A' ≤ c ∧ c ≤ 'Z' then Char.ofNat (c.toNat + 32) else c

def lower (s : String) : String := String.ofList (s.toList.map lowerChar)

end DirectorySessions.Text
