/-
# Lines off the wire

A client's bytes are cut into lines at line breaks; one carriage return
before the break does not belong to the line.  A line that grows beyond the
limit is noticed with the first byte too many, and ends the input, as does a
line that is no text.  Bytes after the last break count as a line when the
client stops writing, unless there are none, or only a carriage return.
-/

namespace DirectorySessions

inductive Input where
  | line (s : String)
  /-- A line beyond the limit. -/
  | overlong
  /-- Nothing more will come. -/
  | hangUp
deriving DecidableEq, Inhabited

/-- The bytes of a line that has begun, latest first, with their number, and
whether the input has ended. -/
structure LineReader where
  held : List UInt8
  size : Nat
  ended : Bool
  size_eq : size = held.length := by rfl

namespace LineReader

def lineBreak : UInt8 := 10

/-- The byte that may stand before it. -/
def carriageReturn : UInt8 := 13

def fresh : LineReader := { held := [], size := 0, ended := false }

instance : Inhabited LineReader := ⟨fresh⟩

/-- The input has ended. -/
def spent : LineReader := { held := [], size := 0, ended := true }

/-- Bytes, latest first, without a carriage return at the end. -/
def withoutReturn : List UInt8 → List UInt8
  | b :: bs => if b = carriageReturn then bs else b :: bs
  | [] => []

/-- The line that consists of these bytes, latest first, if they are text. -/
def textOf (held : List UInt8) : Option String :=
  String.fromUTF8? ⟨(withoutReturn held).reverse.toArray⟩

/-- A whole line. -/
def finishLine (held : List UInt8) : LineReader × List Input :=
  match textOf held with
  | some s => (fresh, [.line s])
  | none => (spent, [.hangUp])

def push (limit : Nat) (r : LineReader) (b : UInt8) : LineReader × List Input :=
  if r.ended then (r, [])
  else if b = lineBreak then finishLine r.held
  else if limit ≤ r.size then (spent, [.overlong, .hangUp])
  else
    ({ held := b :: r.held
       size := r.size + 1
       ended := false
       size_eq := by simp [r.size_eq] }, [])

def pushAll (limit : Nat) (r : LineReader) : List UInt8 → LineReader × List Input
  | [] => (r, [])
  | b :: bs =>
    let (r, now) := r.push limit b
    let (r, later) := r.pushAll limit bs
    (r, now ++ later)

/-- The client stops writing. -/
def finish (r : LineReader) : LineReader × List Input :=
  if r.ended then (r, [])
  else if r.held = [] ∨ r.held = [carriageReturn] then (spent, [.hangUp])
  else match textOf r.held with
    | some s => (spent, [.line s, .hangUp])
    | none => (spent, [.hangUp])

end LineReader

end DirectorySessions
