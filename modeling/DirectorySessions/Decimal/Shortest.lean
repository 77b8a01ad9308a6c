/-
# Shortest decimal text of a floating-point number

A finite binary number `m · 2^q` is written with the fewest decimal digits
that read back as the same number; of two such spellings of one length the
nearer is taken.  All arithmetic is exact, on natural numbers.
-/

namespace DirectorySessions.Decimal

/-- A positive binary number `m · 2^q`, and whether the gap below it is only
half as wide as the gap above it (as at a power of two). -/
structure Binary where
  m : Nat
  q : Int
  narrow : Bool

/-- Sign and magnitude of a finite number, the latter absent for zero. -/
def Binary.ofFloat (x : Float) : Bool × Option Binary :=
  let bits : Nat := x.toBits.toNat
  let hidden := Nat.pow 2 52
  let negative := decide (Nat.pow 2 63 ≤ bits)
  let e : Nat := bits / hidden % Nat.pow 2 11
  let f : Nat := bits % hidden
  if e = 0 then
    (negative, if f = 0 then none else some ⟨f, -1074, false⟩)
  else
    (negative, some ⟨f + hidden, (e : Int) - 1075, decide (f = 0) && decide (1 < e)⟩)

/-- `10^n` when the exponent is positive, and one otherwise. -/
def tenUp (n : Int) : Nat := Nat.pow 10 n.toNat

/-- `2^n` when the exponent is positive, and one otherwise. -/
def twoUp (n : Int) : Nat := Nat.pow 2 n.toNat

/-- A binary number on the scale where both it and the grid of step `10^k`
are whole: its value, the ends of the interval that rounds to it, and the step. -/
structure Scaled where
  value : Nat
  below : Nat
  above : Nat
  step : Nat

/-- The common scale of a binary number and the grid of step `10^k`. -/
def Binary.scale (b : Binary) (k : Int) : Scaled :=
  let unit := twoUp (b.q - 2) * tenUp (-k)
  { value := 4 * b.m * unit
    below := (if b.narrow then 4 * b.m - 1 else 4 * b.m - 2) * unit
    above := (4 * b.m + 2) * unit
    step := tenUp k * twoUp (2 - b.q) }

/-- Does the grid point `c` read back as the number?  The ends of the interval
do so exactly when the mantissa is even. -/
def Binary.hits (b : Binary) (s : Scaled) (c : Nat) : Bool :=
  let g := c * s.step
  if b.m % 2 = 0 then decide (s.below ≤ g) && decide (g ≤ s.above)
  else decide (s.below < g) && decide (g < s.above)

/-- The grid point of step `10^k` that reads back and is nearest, if there is one. -/
def Binary.nearest? (b : Binary) (k : Int) : Option Nat :=
  let s := b.scale k
  let c := s.value / s.step
  match b.hits s c, b.hits s (c + 1) with
  | true, true =>
    let down := s.value - c * s.step
    let up := (c + 1) * s.step - s.value
    if down < up ∨ (down = up ∧ c % 2 = 0) then some c else some (c + 1)
  | true, false => some c
  | false, true => some (c + 1)
  | false, false => none

/-- Is the number at least `10^p`? -/
def Binary.atLeast (b : Binary) (p : Int) : Bool :=
  let s := b.scale p
  decide (s.step ≤ s.value)

/-- The `p` with `10^p ≤ b < 10^(p+1)`: a guess from the binary exponent, off
by one at most, and mended. -/
def Binary.magnitude (b : Binary) : Int :=
  let guess := ((b.q + (Nat.log2 b.m : Int)) * 30103).fdiv 100000
  if b.atLeast (guess + 1) then guess + 1
  else if b.atLeast guess then guess
  else guess - 1

/-- Digits and the exponent of the first of them. -/
structure Digits where
  digits : List Char
  exponent : Int

/-- Try grids of more and more digits, and stop at the first hit. -/
def Binary.shortestFrom (b : Binary) (p : Int) : (tries n : Nat) → Digits
  | 0, _ => ⟨['0'], 0⟩
  | tries + 1, n =>
    match b.nearest? (p - (n : Int) + 1) with
    | some c =>
      let ds := Nat.toDigits 10 c
      ⟨ds, p + (ds.length : Int) - (n : Int)⟩
    | none => b.shortestFrom p tries (n + 1)

/-- Drop the zeros that a carry to the next power of ten leaves behind. -/
def dropZeros (ds : List Char) : List Char :=
  match (ds.reverse.dropWhile (· == '0')).reverse with
  | [] => ['0']
  | kept => kept

/-- The fewest digits that read back; seventeen always do. -/
def Binary.shortest (b : Binary) : Digits :=
  let d := b.shortestFrom b.magnitude 17 1
  ⟨dropZeros d.digits, d.exponent⟩

/-- How digits are laid out: exponents from `least` to `most` positionally
and with a point, all others with one digit before the point. -/
structure Layout where
  least : Int
  most : Int

/-- Positional from a hundred-thousandth to below ten quadrillion; elsewhere
an exponent with its sign and as many digits as it needs. -/
def Layout.plain : Layout := ⟨-5, 15⟩

/-- An exponent, always with its sign. -/
def exponentText (e : Int) : List Char :=
  'e' :: (if e < 0 then '-' else '+') :: Nat.toDigits 10 e.natAbs

/-- Lay out digits whose first has the given exponent. -/
def Layout.text (l : Layout) (d : Digits) : List Char :=
  if l.least ≤ d.exponent ∧ d.exponent ≤ l.most then
    if d.exponent < 0 then
      '0' :: '.' :: (List.replicate ((-d.exponent).toNat - 1) '0' ++ d.digits)
    else
      let whole := d.exponent.toNat + 1
      if d.digits.length ≤ whole then
        d.digits ++ List.replicate (whole - d.digits.length) '0' ++ ['.', '0']
      else
        d.digits.take whole ++ '.' :: d.digits.drop whole
  else
    match d.digits with
    | [] => ['0', '.', '0']
    | [c] => c :: exponentText d.exponent
    | c :: cs => c :: '.' :: (cs ++ exponentText d.exponent)

/-- The shortest text of a finite number; zero keeps its sign. -/
def shortestText (x : Float) : String :=
  let (negative, b) := Binary.ofFloat x
  let body := match b with
    | some b => Layout.plain.text b.shortest
    | none => ['0', '.', '0']
  String.ofList (if negative then '-' :: body else body)

end DirectorySessions.Decimal
