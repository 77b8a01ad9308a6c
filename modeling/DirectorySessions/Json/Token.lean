/-
# JSON tokens

A text is first cut into tokens: the six marks, and scalars.  A scalar can be
used in two ways.  A reader wants its value; a skipper, who passes over a
member that nobody asked for, only wants to know where it ends.  A skipper
is the more lenient of the two: it does not pair surrogates, it does not
look at the size of a number, and it words a number cut off by the end of
the text differently.  So a scalar records both outcomes, and nothing is
reported before someone uses it.

Cutting stops at the first scalar whose end cannot be told.
-/
import DirectorySessions.Json.Error
import DirectorySessions.Json.Value
import DirectorySessions.Text.Bytes

namespace DirectorySessions.Json

inductive Scalar where
  | null
  | bool (b : Bool)
  | number (n : Number)
  | string (s : String)

/-- How a scalar begins. -/
inductive Lead where
  | quote
  | other
  /-- The text has ended. -/
  | nothing
  /-- No reader gets here, because what should stand before it is missing. -/
  | blocked
deriving DecidableEq

/-- A scalar in a text: where it starts, what a reader gets from it, and
where a skipper gets past it. -/
structure Token where
  start : Nat
  lead : Lead
  read : Except Fault Scalar
  skip : Except Fault Nat

/-- A token that fails readers and skippers alike. -/
def Token.broken (start : Nat) (lead : Lead) (f : Fault) : Token :=
  ⟨start, lead, .error f, .error f⟩

/-- The token that stands for the end of the text. -/
def Token.absent (start : Nat) : Token :=
  Token.broken start .nothing ⟨.endInValue, start⟩

/-- One byte past the start of a token, or its start if the text ends there:
where a reader stands that has looked at the token and not liked it. -/
def Token.glance (t : Token) : Nat :=
  if t.lead = .nothing then t.start else t.start + 1

/-! ## Strings -/

/-- The value of a hexadecimal digit of either case. -/
def hexValue? (c : Char) : Option Nat :=
  if '0' ≤ c ∧ c ≤ '9' then some (c.toNat - '0'.toNat)
  else if 'a' ≤ c ∧ c ≤ 'f' then some (c.toNat - 'a'.toNat + 10)
  else if 'A' ≤ c ∧ c ≤ 'F' then some (c.toNat - 'A'.toNat + 10)
  else none

def hexCode? (a b c d : Char) : Option Nat := do
  let a ← hexValue? a
  let b ← hexValue? b
  let c ← hexValue? c
  let d ← hexValue? d
  return ((a * 16 + b) * 16 + c) * 16 + d

/-- The character that a letter after a backslash stands for. -/
def unescape? (c : Char) : Option Char :=
  match c with
  | '"' => some '"'
  | '\\' => some '\\'
  | '/' => some '/'
  | 'b' => some '\x08'
  | 'f' => some '\x0c'
  | 'n' => some '\n'
  | 'r' => some '\r'
  | 't' => some '\t'
  | _ => none

/-- A unit of a string's body. -/
inductive Unit16 where
  /-- A character that stands for itself. -/
  | plain (c : Char)
  /-- A character written as a backslash and a letter. -/
  | escaped (c : Char)
  /-- A 16-bit code written in hexadecimal. -/
  | code (n : Nat)

/-- A unit and where it starts. -/
structure Piece where
  start : Nat
  unit : Unit16

/-- How a string's body ends. -/
inductive Finish where
  /-- At a closing quote. -/
  | closed (start : Nat)
  /-- After a backslash and a letter that together are no escape. -/
  | stray (stop : Nat)
  /-- At a character that cannot stand here, or at the end of the text. -/
  | cut (f : Fault)

/-- A string's body, cut into units, and the characters after it. -/
structure Body where
  pieces : List Piece
  finish : Finish
  rest : List Char

def Body.cons (p : Piece) (b : Body) : Body := { b with pieces := p :: b.pieces }

def Body.stop (e : Finish) : Body := ⟨[], e, []⟩

/-- Cut a string's body into units, up to and with its closing quote. -/
def scanBody : List Char → Nat → Body
  | [], o => .stop (.cut ⟨.endInString, o⟩)
  | '\\' :: [], o => .stop (.cut ⟨.endInString, o + 1⟩)
  | '\\' :: 'u' :: a :: b :: c :: d :: cs, o =>
    match hexCode? a b c d with
    | some n => (scanBody cs (o + 6)).cons ⟨o, .code n⟩
    | none => .stop (.cut ⟨.badEscape, o + 6⟩)
  | '\\' :: 'u' :: cs, o =>
    if 4 ≤ Text.byteLength cs then .stop (.cut ⟨.badEscape, o + 6⟩)
    else .stop (.cut ⟨.endInString, o + 2 + Text.byteLength cs⟩)
  | '\\' :: c :: cs, o =>
    match unescape? c with
    | some e => (scanBody cs (o + 2)).cons ⟨o, .escaped e⟩
    | none => .stop (.stray (o + 2))
  | c :: cs, o =>
    if c = '"' then ⟨[], .closed o, cs⟩
    else if c.toNat < 0x20 then .stop (.cut ⟨.control, o + 1⟩)
    else (scanBody cs (o + c.utf8Size)).cons ⟨o, .plain c⟩

def isHighHalf (n : Nat) : Bool := decide (0xD800 ≤ n) && decide (n ≤ 0xDBFF)

def isLowHalf (n : Nat) : Bool := decide (0xDC00 ≤ n) && decide (n ≤ 0xDFFF)

def pairChar (high low : Nat) : Char :=
  Char.ofNat (0x10000 + (high - 0xD800) * 0x400 + (low - 0xDC00))

/-- What a reader reports that stands before the end of a body and still
wants a second half. -/
def Finish.unpaired : Finish → Fault
  | .closed o => ⟨.unfinishedPair, o + 1⟩
  | .stray o => ⟨.unfinishedPair, o⟩
  | .cut ⟨.control, o⟩ => ⟨.unfinishedPair, o⟩
  | .cut f => f

/-- Join units to characters.  `high` is a first half that waits for its second. -/
def joinPieces (finish : Finish) : Option Nat → List Piece → Except Fault (List Char)
  | none, [] => match finish with
    | .closed _ => .ok []
    | .stray o => .error ⟨.badEscape, o⟩
    | .cut f => .error f
  | some _, [] => .error finish.unpaired
  | none, p :: ps => match p.unit with
    | .plain c => (c :: ·) <$> joinPieces finish none ps
    | .escaped c => (c :: ·) <$> joinPieces finish none ps
    | .code n =>
      if isLowHalf n then .error ⟨.loneSurrogate, p.start + 6⟩
      else if isHighHalf n then joinPieces finish (some n) ps
      else (Char.ofNat n :: ·) <$> joinPieces finish none ps
  | some high, p :: ps => match p.unit with
    | .plain _ => .error ⟨.unfinishedPair, p.start + 1⟩
    | .escaped _ => .error ⟨.unfinishedPair, p.start + 2⟩
    | .code n =>
      if isLowHalf n then (pairChar high n :: ·) <$> joinPieces finish none ps
      else .error ⟨.loneSurrogate, p.start + 6⟩

/-- Where a body ends for a skipper, who stops before a control character and
not after it. -/
def Finish.skip : Finish → Except Fault Nat
  | .closed o => .ok (o + 1)
  | .stray o => .error ⟨.badEscape, o⟩
  | .cut ⟨.control, o⟩ => .error ⟨.control, o - 1⟩
  | .cut f => .error f

/-- A string token, whose opening quote is already read. -/
def scanString (start : Nat) (cs : List Char) : Token × List Char :=
  let b := scanBody cs (start + 1)
  (⟨start, .quote, (fun s => .string (String.ofList s)) <$> joinPieces b.finish none b.pieces,
    b.finish.skip⟩, b.rest)

/-! ## Numbers -/

def isDigit (c : Char) : Bool := decide ('0' ≤ c) && decide (c ≤ '9')

def digitValue (c : Char) : Nat := c.toNat - '0'.toNat

/-- A number as it is written: sign, digits before and after the point, and
the exponent with its sign and where its digits start. -/
structure Numeral where
  negative : Bool
  whole : List Char
  fraction : List Char
  fractional : Bool
  exponent : Option (Bool × List Char × Nat)

/-- The greatest whole number that fits 64 bits. -/
def maxWord : Nat := 18446744073709551615

/-- The distance from zero of the least whole number that fits 64 bits with a sign. -/
def maxNegated : Nat := 9223372036854775808

/-- Take digits into a 64-bit number as long as they fit; the rest is left over. -/
def fillWord (n : Nat) : List Char → Nat × List Char
  | [] => (n, [])
  | c :: cs =>
    if 10 * n + digitValue c ≤ maxWord then fillWord (10 * n + digitValue c) cs
    else (n, c :: cs)

/-- Scale by a power of ten, in steps that a floating-point number can hold. -/
def scaleFloat (x : Float) (exponent : Int) : (steps : Nat) → Option Float
  | 0 => some x
  | steps + 1 =>
    if exponent.natAbs ≤ 308 then
      let power := Float.ofScientific 1 false exponent.natAbs
      if 0 ≤ exponent then
        let y := x * power
        if y.isInf then none else some y
      else some (x / power)
    else if x == 0.0 then some x
    else if 0 ≤ exponent then none
    else scaleFloat (x / Float.ofScientific 1 false 308) (exponent + 308) steps

/-- A floating-point number from its sign, its leading digits and a power of
ten.  It is absent when it is too large. -/
def makeFloat (negative : Bool) (significand : Nat) (exponent : Int) : Option Float :=
  (scaleFloat (Float.ofNat significand) exponent (exponent.natAbs / 308 + 2)).map
    fun x => if negative then -x else x

/-- The greatest exponent that is still counted. -/
def maxExponent : Nat := 2147483647

/-- Read an exponent's digits; past the greatest one, tell how many digits
had been read when it was passed. -/
def readExponent (n read : Nat) : List Char → Except Nat Nat
  | [] => .ok n
  | c :: cs =>
    if 10 * n + digitValue c ≤ maxExponent then
      readExponent (10 * n + digitValue c) (read + 1) cs
    else .error (read + 1)

/-- The leading digits of a numeral as a 64-bit number, and the power of ten
that its exponent is counted from. -/
def Numeral.leading (n : Numeral) : Nat × Int :=
  let (w, wholeLeft) := fillWord 0 n.whole
  let (s, fractionLeft) := fillWord w n.fraction
  (s, (wholeLeft.length : Int) - ((n.fraction.length - fractionLeft.length : Nat) : Int))

/-- The value of a numeral that ends at an offset. -/
def Numeral.value (n : Numeral) (stop : Nat) : Except Fault Number :=
  let (w, wholeLeft) := fillWord 0 n.whole
  let tooLarge : Except Fault Number := .error ⟨.numberRange, stop⟩
  let real (x : Option Float) : Except Fault Number := match x with
    | some x => .ok (.real x)
    | none => tooLarge
  match n.fractional, n.exponent with
  | false, none =>
    if wholeLeft ≠ [] then real (makeFloat n.negative w wholeLeft.length)
    else if !n.negative then .ok (.integer w)
    else if w = 0 then .ok (.real (-0.0))
    else if w ≤ maxNegated then .ok (.integer (-(w : Int)))
    else real (makeFloat true w 0)
  | _, none => let (s, e) := n.leading; real (makeFloat n.negative s e)
  | _, some (down, digits, start) =>
    let (s, e) := n.leading
    match readExponent 0 0 digits with
    | .ok x =>
      real (makeFloat n.negative s (if down then e - (x : Int) else e + (x : Int)))
    | .error read =>
      if s ≠ 0 ∧ !down then .error ⟨.numberRange, start + read⟩
      else .ok (.real (if n.negative then -0.0 else 0.0))

/-- A number that breaks off: at the end of the text readers and skippers
word it differently. -/
def Token.brokenNumber (start : Nat) (rest : List Char) (o : Nat) : Token :=
  if rest.isEmpty then ⟨start, .other, .error ⟨.endInValue, o⟩, .error ⟨.badNumber, o⟩⟩
  else Token.broken start .other ⟨.badNumber, o + 1⟩

def Token.ofNumeral (start : Nat) (n : Numeral) (stop : Nat) : Token :=
  ⟨start, .other, .number <$> n.value stop, .ok stop⟩

/-- The exponent of a number, after its `e`, if there is one. -/
def scanExponent (start : Nat) (n : Numeral) (cs : List Char) (o : Nat) : Token × List Char :=
  match cs with
  | c :: rest =>
    if c = 'e' ∨ c = 'E' then
      let (down, rest, o) := match rest with
        | '+' :: r => (false, r, o + 2)
        | '-' :: r => (true, r, o + 2)
        | r => (false, r, o + 1)
      let ds := rest.takeWhile isDigit
      let after := rest.dropWhile isDigit
      if ds.isEmpty then (Token.brokenNumber start after o, after)
      else
        let stop := o + ds.length
        (Token.ofNumeral start { n with exponent := some (down, ds, o) } stop, after)
    else (Token.ofNumeral start n o, cs)
  | [] => (Token.ofNumeral start n o, cs)

/-- The fraction of a number, if there is one, and what follows it. -/
def scanFraction (start : Nat) (n : Numeral) (cs : List Char) (o : Nat) : Token × List Char :=
  match cs with
  | '.' :: rest =>
    let ds := rest.takeWhile isDigit
    let after := rest.dropWhile isDigit
    if ds.isEmpty then (Token.brokenNumber start after (o + 1), after)
    else
      scanExponent start { n with fraction := ds, fractional := true } after (o + 1 + ds.length)
  | cs => scanExponent start n cs o

/-- The digits before the point.  A leading zero stands alone. -/
def scanWhole (start : Nat) (negative : Bool) (cs : List Char) (o : Nat) : Token × List Char :=
  let ds := cs.takeWhile isDigit
  let after := cs.dropWhile isDigit
  match ds with
  | [] => (Token.brokenNumber start after o, after)
  | '0' :: _ :: _ => (Token.broken start .other ⟨.badNumber, o + 2⟩, after)
  | ds => scanFraction start ⟨negative, ds, [], false, none⟩ after (o + ds.length)

/-! ## Words and the whole text -/

/-- The remaining letters of a word. -/
def scanWord (start : Nat) (value : Scalar) : (letters cs : List Char) → Nat → Token × List Char
  | [], cs, o => (⟨start, .other, .ok value, .ok o⟩, cs)
  | _ :: _, [], o => (Token.broken start .other ⟨.endInValue, o⟩, [])
  | l :: ls, c :: cs, o =>
    if c = l then scanWord start value ls cs (o + 1)
    else (Token.broken start .other ⟨.badWord, o + 1⟩, cs)

/-- The scalar that starts with a character, and the characters after it. -/
def scanScalar (c : Char) (cs : List Char) (o : Nat) : Token × List Char :=
  match c with
  | '"' => scanString o cs
  | 'n' => scanWord o .null ['u', 'l', 'l'] cs (o + 1)
  | 't' => scanWord o (.bool true) ['r', 'u', 'e'] cs (o + 1)
  | 'f' => scanWord o (.bool false) ['a', 'l', 's', 'e'] cs (o + 1)
  | '-' => scanWhole o true cs (o + 1)
  | c =>
    if isDigit c then scanWhole o false (c :: cs) o
    else (Token.broken o .other ⟨.noValue, o + 1⟩, cs)

/-- The six marks. -/
inductive Mark where
  | openList
  | closeList
  | openObject
  | closeObject
  | colon
  | comma
deriving DecidableEq

def Mark.of? (c : Char) : Option Mark :=
  match c with
  | '[' => some .openList
  | ']' => some .closeList
  | '\x7b' => some .openObject
  | '\x7d' => some .closeObject
  | ':' => some .colon
  | ',' => some .comma
  | _ => none

inductive Lexeme where
  | mark (m : Mark) (start : Nat)
  | scalar (t : Token)

def Lexeme.start : Lexeme → Nat
  | .mark _ o => o
  | .scalar t => t.start

/-- A reader that has looked at a lexeme and not liked it has passed one byte,
unless the text ends there. -/
def Lexeme.glance : Lexeme → Nat
  | .mark _ o => o + 1
  | .scalar t => t.glance

def Lexeme.isEnd : Lexeme → Bool
  | .mark _ _ => false
  | .scalar t => t.lead = .nothing

/-- The blanks of JSON. -/
def isSpace (c : Char) : Bool := c = ' ' || c = '\n' || c = '\t' || c = '\r'

theorem scanBody_rest_length (cs : List Char) (o : Nat) :
    (scanBody cs o).rest.length ≤ cs.length := by
  fun_induction scanBody cs o <;> simp_all [Body.stop, Body.cons] <;> omega

theorem dropDigits_length (cs : List Char) : (cs.dropWhile isDigit).length ≤ cs.length :=
  (List.dropWhile_sublist isDigit).length_le

theorem scanExponent_rest_length (start : Nat) (n : Numeral) (cs : List Char) (o : Nat) :
    (scanExponent start n cs o).2.length ≤ cs.length := by
  unfold scanExponent
  split
  · rename_i c rest
    split
    · have hd := dropDigits_length
      split
      all_goals
        rename_i h
        split at h <;> grind
    · simp
  · simp

theorem scanFraction_rest_length (start : Nat) (n : Numeral) (cs : List Char) (o : Nat) :
    (scanFraction start n cs o).2.length ≤ cs.length := by
  unfold scanFraction
  split
  · rename_i rest
    have hd := dropDigits_length rest
    simp only
    split
    · simp; omega
    · have := scanExponent_rest_length start
        { n with fraction := rest.takeWhile isDigit, fractional := true }
        (rest.dropWhile isDigit) (o + 1 + (rest.takeWhile isDigit).length)
      simp; omega
  · exact scanExponent_rest_length ..

theorem scanWhole_rest_length (start : Nat) (negative : Bool) (cs : List Char) (o : Nat) :
    (scanWhole start negative cs o).2.length ≤ cs.length := by
  have hd := dropDigits_length cs
  unfold scanWhole
  simp only
  split
  · exact hd
  · exact hd
  · exact Nat.le_trans (scanFraction_rest_length ..) hd

theorem scanWord_rest_length (start : Nat) (value : Scalar) (ls cs : List Char) (o : Nat) :
    (scanWord start value ls cs o).2.length ≤ cs.length := by
  fun_induction scanWord start value ls cs o with
  | case1 => exact Nat.le_refl _
  | case2 => exact Nat.zero_le _
  | case3 c cs o ls ih => exact Nat.le_succ_of_le ih
  | case4 c cs o l ls hne => exact Nat.le_succ _

theorem scanWhole_digit_rest_length (start : Nat) (c : Char) (cs : List Char) (o : Nat)
    (h : isDigit c) : (scanWhole start false (c :: cs) o).2.length ≤ cs.length := by
  have hd : ((c :: cs).dropWhile isDigit).length ≤ cs.length := by
    rw [List.dropWhile_cons_of_pos h]
    exact dropDigits_length cs
  unfold scanWhole
  simp only
  split
  · exact hd
  · exact hd
  · exact Nat.le_trans (scanFraction_rest_length ..) hd

theorem scanScalar_rest_length (c : Char) (cs : List Char) (o : Nat) :
    (scanScalar c cs o).2.length ≤ cs.length := by
  unfold scanScalar
  split
  · exact scanBody_rest_length _ _
  · exact scanWord_rest_length ..
  · exact scanWord_rest_length ..
  · exact scanWord_rest_length ..
  · exact scanWhole_rest_length ..
  · split
    · rename_i h; exact scanWhole_digit_rest_length _ _ _ _ h
    · simp

/-- Cut a text into lexemes; `o` is where its first character stands.  The
last lexeme is a scalar that cannot be passed: the end of the text, or
whatever the cutting stopped at. -/
def lexemes (cs : List Char) (o : Nat) : List Lexeme :=
  match cs with
  | [] => [.scalar (Token.absent o)]
  | c :: cs =>
    if isSpace c then lexemes cs (o + 1)
    else match Mark.of? c with
      | some m => .mark m o :: lexemes cs (o + 1)
      | none =>
        let scanned := scanScalar c cs o
        match scanned.1.skip with
        | .error _ => [.scalar scanned.1]
        | .ok stop =>
          have := scanScalar_rest_length c cs o
          .scalar scanned.1 :: lexemes scanned.2 stop
termination_by cs.length

end DirectorySessions.Json
