/-
# Patterns

Which texts are regular expressions.  Nothing is matched here: it is only
told whether a text is well written.

Escapes are resolved first, so what follows sees symbols: characters that may
have a meaning of their own, characters that stand for themselves, and
anchors.  Then one pass over the symbols checks that groups and sets are
closed, that what is repeated is there, and that ranges go upwards.

Classes that are named by a letter, such as those of digits or of word
characters, are not known, nor are word boundaries, look-around, and
references to groups.
-/
import DirectorySessions.Text.Alphanumeric

namespace DirectorySessions.Text

/-- A symbol of a pattern. -/
inductive PatternSymbol where
  /-- A character as it is written. -/
  | plain (c : Char)
  /-- A character that is escaped and stands for itself. -/
  | literal (c : Char)
  /-- The start or the end of the text. -/
  | anchor
deriving DecidableEq

namespace PatternSymbol

/-- The character for which a symbol stands in a set, if it may stand there. -/
def char? : PatternSymbol → Option Char
  | .plain c => some c
  | .literal c => some c
  | .anchor => none

end PatternSymbol

/-! ## Escapes -/

def hexDigit? (c : Char) : Option Nat :=
  if '0' ≤ c ∧ c ≤ '9' then some (c.toNat - '0'.toNat)
  else if 'a' ≤ c ∧ c ≤ 'f' then some (c.toNat - 'a'.toNat + 10)
  else if 'A' ≤ c ∧ c ≤ 'F' then some (c.toNat - 'A'.toNat + 10)
  else none

/-- The character whose number is written with these hexadecimal digits. -/
def hexChar? (ds : List Char) : Option PatternSymbol := do
  let n ← ds.foldlM (fun n d => (hexDigit? d).map (16 * n + ·)) 0
  if h : n.isValidChar then some (.literal (Char.ofNatAux n h)) else none

/-- The meaning of a character after a backslash.  Signs of ASCII stand for
themselves. -/
def escape? (c : Char) : Option PatternSymbol :=
  if c = 'a' then some (.literal '\x07')
  else if c = 'f' then some (.literal '\x0c')
  else if c = 't' then some (.literal '\t')
  else if c = 'n' then some (.literal '\n')
  else if c = 'r' then some (.literal '\r')
  else if c = 'v' then some (.literal '\x0b')
  else if c = 'A' ∨ c = 'z' then some .anchor
  else if c.toNat < 0x80 ∧ !c.isAlphanum ∧ c ≠ '<' ∧ c ≠ '>' then some (.literal c)
  else none

/-- The symbols of a pattern; none if an escape is no escape. -/
def patternSymbols : List Char → Option (List PatternSymbol)
  | [] => some []
  | '\\' :: 'x' :: a :: b :: cs => do
    return (← hexChar? [a, b]) :: (← patternSymbols cs)
  | '\\' :: 'u' :: a :: b :: c :: d :: cs => do
    return (← hexChar? [a, b, c, d]) :: (← patternSymbols cs)
  | '\\' :: 'U' :: a :: b :: c :: d :: e :: f :: g :: h :: cs => do
    return (← hexChar? [a, b, c, d, e, f, g, h]) :: (← patternSymbols cs)
  | '\\' :: c :: cs => do
    return (← escape? c) :: (← patternSymbols cs)
  | '\\' :: [] => none
  | c :: cs => do
    return .plain c :: (← patternSymbols cs)

/-! ## Groups, sets and repetitions -/

/-- How far a set has been read. -/
inductive SetStage where
  /-- Nothing yet: a closing bracket or a dash stands for itself. -/
  | start
  /-- Dashes only: one more stands for itself. -/
  | dashes
  | inside

/-- Where a pattern is being read. -/
inductive PatternPlace where
  /-- Between two items; can the one before be repeated? -/
  | item (repeatable : Bool)
  /-- In the name of a group, of which so much has been read. -/
  | name (read : List Char)
  /-- In the flags of a group: those before, whether there was a dash, and
  whether it came last. -/
  | flags (seen : List Char) (dash last : Bool)
  /-- In a set that lies in so many others. -/
  | set (outer : Nat) (stage : SetStage)

/-- The letters of flags. -/
def patternFlags : List Char := ['i', 'm', 's', 'U', 'u', 'R', 'x']

/-- May a character stand in the name of a group, after so much of it? -/
def inGroupName (read : List Char) (c : Char) : Bool :=
  c = '_' ||
    (if read.isEmpty then isAlphanumeric c && !c.isDigit
    else c = '.' || c = '[' || c = ']' || isAlphanumeric c)

/-- Do two symbols make a range? -/
def isUpward (s t : PatternSymbol) : Bool :=
  match s.char?, t.char? with
  | some a, some b => a ≤ b
  | _, _ => false

/-- Is the rest of a pattern well written, in so many open groups and after
groups of these names? -/
def patternRest : PatternPlace → (groups : Nat) → (names : List (List Char)) →
    List PatternSymbol → Bool
  | .item repeatable, groups, names, ss => match ss with
    | [] => groups = 0
    | .plain '(' :: .plain '?' :: .plain 'P' :: .plain '<' :: ss =>
      patternRest (.name []) groups names ss
    | .plain '(' :: .plain '?' :: .plain '<' :: ss => patternRest (.name []) groups names ss
    | .plain '(' :: .plain '?' :: ss => patternRest (.flags [] false false) groups names ss
    | .plain '[' :: .plain '^' :: ss => patternRest (.set 0 .start) groups names ss
    | .plain c :: ss =>
      if c = '(' then patternRest (.item false) (groups + 1) names ss
      else if c = ')' then groups ≠ 0 && patternRest (.item true) (groups - 1) names ss
      else if c = '|' then patternRest (.item false) groups names ss
      else if c = '[' then patternRest (.set 0 .start) groups names ss
      else if c = '*' ∨ c = '+' ∨ c = '?' then
        repeatable && patternRest (.item true) groups names ss
      else c ≠ '\x7b' && patternRest (.item true) groups names ss
    | _ :: ss => patternRest (.item true) groups names ss
  | .name read, groups, names, ss => match ss with
    | .plain c :: ss =>
      if c = '>' then
        !read.isEmpty && read ∉ names && patternRest (.item false) (groups + 1) (read :: names) ss
      else inGroupName read c && patternRest (.name (read ++ [c])) groups names ss
    | _ => false
  | .flags seen dash last, groups, names, ss => match ss with
    | .plain c :: ss =>
      if c = ':' then !last && patternRest (.item false) (groups + 1) names ss
      else if c = ')' then
        !last && !seen.isEmpty && patternRest (.item false) groups names ss
      else if c = '-' then !dash && patternRest (.flags seen true true) groups names ss
      else
        c ∈ patternFlags && c ∉ seen && patternRest (.flags (c :: seen) dash false) groups names ss
    | _ => false
  | .set outer .start, groups, names, .plain ']' :: ss =>
    patternRest (.set outer .inside) groups names ss
  | .set outer .start, groups, names, .plain '-' :: ss =>
    patternRest (.set outer .dashes) groups names ss
  | .set outer .dashes, groups, names, .plain '-' :: ss =>
    patternRest (.set outer .dashes) groups names ss
  | .set outer _, groups, names, ss => match ss with
    | .plain '-' :: .plain '-' :: ss => patternRest (.set outer .inside) groups names ss
    | .plain '&' :: .plain '&' :: ss => patternRest (.set outer .inside) groups names ss
    | .plain '~' :: .plain '~' :: ss => patternRest (.set outer .inside) groups names ss
    | .plain '[' :: .plain '^' :: ss => patternRest (.set (outer + 1) .start) groups names ss
    | .plain '[' :: ss => patternRest (.set (outer + 1) .start) groups names ss
    | .plain ']' :: ss =>
      if outer = 0 then patternRest (.item true) groups names ss
      else patternRest (.set (outer - 1) .inside) groups names ss
    | s :: .plain '-' :: t :: ss =>
      if t = .plain ']' ∨ t = .plain '-' then
        s.char?.isSome && patternRest (.set outer .inside) groups names (.plain '-' :: t :: ss)
      else isUpward s t && patternRest (.set outer .inside) groups names ss
    | s :: ss => s.char?.isSome && patternRest (.set outer .inside) groups names ss
    | [] => false

def isPattern (cs : List Char) : Bool :=
  match patternSymbols cs with
  | some ss => patternRest (.item false) 0 [] ss
  | none => false

end DirectorySessions.Text
