/-
# Reading JSON trees

Readers take a node of a tree to a value of some type, or say why they
cannot.  They look at things in the order of the text, so of two errors the
earlier one is reported.  A mismatch is placed at the end of a scalar, before
the bracket of a container, and, where a whole object is at fault, after its
closing brace.

Records are read from objects or from lists of their fields in order; plain
choices from their name, or from an object with the name as its only key and
null as its value.  Where a choice is the first item of a list that stands for
a record, only its name will do.
-/
import DirectorySessions.Json.Tree

namespace DirectorySessions.Json

abbrev Reading (α : Type) := Except Error α

def failAt {α : Type} (f : Fault) : Reading α := .error (Error.ofFault f)

def mismatchAt {α : Type} (m : Mismatch) (offset : Nat) : Reading α :=
  .error ⟨.mismatch m, some offset⟩

/-- How a message shows a scalar. -/
def Scalar.found : Scalar → Found
  | .null => .null
  | .bool b => .bool b
  | .number (.integer n) => .integer n
  | .number (.real x) => .real x
  | .string s => .string s

/-- Where a token ends. -/
def Token.stop (t : Token) : Nat :=
  match t.skip with
  | .ok o => o
  | .error f => f.offset

/-- The error for a scalar of the wrong kind; if it cannot even be read, for that. -/
def Token.refuse (t : Token) (wanted : String) : Error :=
  match t.read with
  | .ok s => ⟨.mismatch (.type s.found wanted), some t.stop⟩
  | .error f => Error.ofFault f

/-- The error for a node of the wrong kind. -/
def Node.refuse (n : Node) (wanted : String) : Error :=
  match n with
  | .scalar t => t.refuse wanted
  | .array o _ _ => ⟨.mismatch (.type .sequence wanted), some o⟩
  | .object o _ _ => ⟨.mismatch (.type .map wanted), some o⟩

/-! ## Passing over -/

/-- Pass the end of a container that nobody reads. -/
def Ending.skip : Ending → Except Fault Unit
  | .closed _ => .ok ()
  | .whole => .ok ()
  | .cut _ _ b => .error b.skip

mutual

/-- Pass over a node that nobody reads. -/
def Node.skip : Node → Except Fault Unit
  | .scalar t => t.skip.map fun _ => ()
  | .array _ items e => Node.skipItems e items
  | .object _ members e => Node.skipMembers e members

def Node.skipItems (e : Ending) : List Node → Except Fault Unit
  | [] => e.skip
  | n :: ns => do
    n.skip
    Node.skipItems e ns

def Node.skipMembers (e : Ending) : List (KeySite × Node) → Except Fault Unit
  | [] => e.skip
  | (site, n) :: ms => do
    discard site.2.1.skip
    n.skip
    Node.skipMembers e ms

end

/-! ## Scalars -/

def Node.readString (n : Node) : Reading String :=
  match n with
  | .scalar ⟨_, _, .ok (.string s), _⟩ => .ok s
  | n => .error (n.refuse "a string")

def Node.readBool (n : Node) : Reading Bool :=
  match n with
  | .scalar ⟨_, _, .ok (.bool b), _⟩ => .ok b
  | n => .error (n.refuse "a boolean")

/-- Read null, where nothing else will do. -/
def Node.readNull (n : Node) (wanted : String) : Reading Unit :=
  match n with
  | .scalar ⟨_, _, .ok .null, _⟩ => .ok ()
  | n => .error (n.refuse wanted)

/-- A type of whole numbers: its name and bounds. -/
structure IntegerKind where
  name : String
  least : Int
  greatest : Int

def IntegerKind.i32 : IntegerKind := ⟨"i32", -2147483648, 2147483647⟩

def IntegerKind.u8 : IntegerKind := ⟨"u8", 0, 255⟩

def IntegerKind.u16 : IntegerKind := ⟨"u16", 0, 65535⟩

def IntegerKind.u64 : IntegerKind := ⟨"u64", 0, 18446744073709551615⟩

/-- Sizes, as wide as an address. -/
def IntegerKind.usize : IntegerKind := ⟨"usize", 0, 18446744073709551615⟩

/-- Read a whole number of a type.  A number with a point or an exponent is
not whole, whatever its value. -/
def Node.readInteger (n : Node) (k : IntegerKind) : Reading Int :=
  match n with
  | .scalar ⟨start, lead, .ok (.number (.integer i)), skip⟩ =>
    if k.least ≤ i ∧ i ≤ k.greatest then .ok i
    else mismatchAt (.value (.integer i) k.name)
      (Token.stop ⟨start, lead, .ok (.number (.integer i)), skip⟩)
  | n => .error (n.refuse k.name)

def Node.readOptional {α : Type} (n : Node) (read : Node → Reading α) : Reading (Option α) :=
  match n with
  | .scalar ⟨_, _, .ok .null, _⟩ => .ok none
  | n => some <$> read n

/-! ## Lists -/

/-- Reach the end of a list all of whose items were read. -/
def Ending.finish : Ending → Reading Unit
  | .closed _ => .ok ()
  | .whole => .ok ()
  | .cut _ _ b => failAt b.read

/-- Read items one after the other, then the end. -/
def readItems {α : Type} (read : Node → Reading α) (e : Ending) : List Node → Reading (List α)
  | [] => do
    e.finish
    return []
  | n :: ns => do
    let a ← read n
    let as ← readItems read e ns
    return a :: as

def Node.readList {α : Type} (n : Node) (read : Node → Reading α) : Reading (List α) :=
  match n with
  | .array _ items e => readItems read e items
  | n => .error (n.refuse "a sequence")

/-- Reach the end of a list of known length.  `count` is its real length. -/
def finishFixed (count : Nat) (items : List Node) (e : Ending) : Reading Unit :=
  match items, e with
  | [], .closed _ => .ok ()
  | [], .whole => .ok ()
  | _ :: _, .whole => mismatchAt (.length count "fewer elements in array") 0
  | n :: _, _ => failAt ⟨.trailingText, n.glance⟩
  | [], .cut _ (.mark .closeList o) _ => failAt ⟨.trailingComma, o + 1⟩
  | [], .cut _ found _ =>
    if found.isEnd then failAt ⟨.endInList, found.start⟩
    else failAt ⟨.trailingText, found.glance⟩

/-! ## Choices -/

/-- Read a name among known ones. -/
def variantOf (name : String) (known : List String) (stop : Nat) : Reading String :=
  if name ∈ known then .ok name else mismatchAt (.variant name known) stop

/-- Read one of a few names, written as a string and in no other way. -/
def Node.readName (n : Node) (known : List String) : Reading String :=
  match n with
  | .scalar ⟨start, lead, .ok (.string s), skip⟩ =>
    variantOf s known (Token.stop ⟨start, lead, .ok (.string s), skip⟩)
  | n => .error (n.refuse "variant identifier")

/-- Read one of a few names, written as a string, or as the only key of an
object over null. -/
def Node.readVariant (n : Node) (known : List String) : Reading String :=
  match n with
  | .scalar t =>
    match t.lead with
    | .quote => do variantOf (← n.readString) known t.stop
    | .nothing => failAt ⟨.endInValue, t.start⟩
    | .other => failAt ⟨.noValue, t.start + 1⟩
    | .blocked => .error (t.refuse "variant identifier")
  | .array o _ _ => failAt ⟨.noValue, o + 1⟩
  | .object _ [] e =>
    match e with
    | .closed o => failAt ⟨.noValue, o + 1⟩
    | .cut _ _ b => failAt b.read
    | .whole => failAt ⟨.noValue, 0⟩
  | .object _ ((site, value) :: rest) e => do
    let name ← Node.readString (.scalar site.2.1)
    let name ← variantOf name known site.2.1.stop
    value.readNull "unit"
    match rest, e with
    | [], .closed _ => return name
    | [], .whole => return name
    | ((comma, _), _) :: _, _ => failAt ⟨.noValue, comma⟩
    | [], .cut next found _ =>
      if found.isEnd ∧ next = found.start then failAt ⟨.endInObject, next⟩
      else failAt ⟨.noValue, next⟩

/-! ## Records -/

/-- The fields of a record, in order, and whether each must be given. -/
structure Shape where
  name : String
  fields : List (String × Bool)

def Shape.has (s : Shape) (field : String) : Bool := s.fields.any fun f => f.1 = field

/-- The first field that must be given and was not. -/
def Shape.missing? (s : Shape) (seen : List String) : Option String :=
  (s.fields.find? fun f => f.2 && !seen.contains f.1).map (·.1)

/-- How a message describes the record as a list. -/
def Shape.asList (s : Shape) : String :=
  s.name ++ " with " ++ toString s.fields.length ++
    (if s.fields.length = 1 then " element" else " elements")

/-- Where an object is left by a reader that fails before the remaining
members: after the brace if it closes there, and else at the next lexeme. -/
def leaveAt (rest : List (KeySite × Node)) (e : Ending) : Nat :=
  match rest, e with
  | ((comma, _), _) :: _, _ => comma
  | [], .closed o => o + 1
  | [], .cut next _ _ => next
  | [], .whole => 0

/-- Where an object is left by a reader that fails right after a key. -/
def leaveAfterKey (site : KeySite) : Nat :=
  match site.2.2 with
  | .mark .closeObject o => o + 1
  | l => l.start

/-- Read the members of an object into a record under construction.  `put`
stores the value of a known field; fields that are not known are passed over. -/
def readMembers {σ : Type} (shape : Shape) (put : σ → String → Node → Reading σ) (e : Ending) :
    σ → List String → List (KeySite × Node) → Reading σ
  | s, seen, [] => do
    e.finish
    match shape.missing? seen with
    | some f => mismatchAt (.missing f) (leaveAt [] e)
    | none => return s
  | s, seen, (site, value) :: rest => do
    let key ← Node.readString (.scalar site.2.1)
    if shape.has key then
      if seen.contains key then mismatchAt (.duplicate key) (leaveAfterKey site)
      else
        let s ← put s key value
        readMembers shape put e s (key :: seen) rest
    else
      match value.skip with
      | .error f => failAt f
      | .ok () => readMembers shape put e s seen rest

/-- Read a list of fields in order into a record under construction.  `index`
counts the items before, `count` all items. -/
def readFields {σ : Type} (shape : Shape) (put : σ → String → Node → Reading σ) (e : Ending)
    (count : Nat) : σ → Nat → List (String × Bool) → List Node → Reading σ
  | s, _, [], items => do
    finishFixed count items e
    return s
  | s, index, f :: fs, n :: ns => do
    let s ← put s f.1 n
    readFields shape put e count s (index + 1) fs ns
  | s, index, f :: fs, [] => do
    e.finish
    if f.2 then mismatchAt (.length index shape.asList) (leaveAt [] e)
    else readFields shape put e count s (index + 1) fs []

/-- Read a record from an object or a list. -/
def Node.readRecord {σ : Type} (n : Node) (shape : Shape) (init : σ)
    (put : σ → String → Node → Reading σ) : Reading σ :=
  match n with
  | .object _ members e => readMembers shape put e init [] members
  | .array _ items e => readFields shape put e items.length init 0 shape.fields items
  | n => .error (n.refuse shape.name)

/-! ## Free values -/

/-- How deep containers may be nested: one less than this many. -/
def depthLimit : Nat := 128

def Scalar.toValue : Scalar → Value
  | .null => .null
  | .bool b => .bool b
  | .number n => .number n
  | .string s => .string s

mutual

/-- Read any value; `level` counts the containers around it. -/
def Node.readValue (level : Nat) : Node → Reading Value
  | .scalar t => match t.read with
    | .ok s => .ok s.toValue
    | .error f => failAt f
  | .array o items e =>
    if depthLimit ≤ level + 1 then failAt ⟨.tooDeep, o + 1⟩
    else do return .array (← Node.readValues (level + 1) e items)
  | .object o members e =>
    if depthLimit ≤ level + 1 then failAt ⟨.tooDeep, o + 1⟩
    else do return .object (Members.ofList (← Node.readPairs (level + 1) e members))

def Node.readValues (level : Nat) (e : Ending) : List Node → Reading (List Value)
  | [] => do
    e.finish
    return []
  | n :: ns => do
    let v ← Node.readValue level n
    let vs ← Node.readValues level e ns
    return v :: vs

/-- Read the members of an object as they come. -/
def Node.readPairs (level : Nat) (e : Ending) :
    List (KeySite × Node) → Reading (List (String × Value))
  | [] => do
    e.finish
    return []
  | (site, n) :: ms => do
    let k ← Node.readString (.scalar site.2.1)
    let v ← Node.readValue level n
    let rest ← Node.readPairs level e ms
    return (k, v) :: rest

end

/-! ## Whole texts, and values that were read before -/

/-- Read a text that holds one value and nothing after it. -/
def readText {α : Type} (text : String) (read : Node → Reading α) : Reading α := do
  let d := Document.ofText text
  let a ← read d.root
  match d.extra with
  | none => return a
  | some o => failAt ⟨.trailingText, o⟩

/-- A scalar without a place. -/
def Token.ofScalar (s : Scalar) : Token :=
  ⟨0, match s with | .string _ => .quote | _ => .other, .ok s, .ok 0⟩

mutual

/-- A value as a tree without places. -/
def Value.toNode : Value → Node
  | .null => .scalar (.ofScalar .null)
  | .bool b => .scalar (.ofScalar (.bool b))
  | .number n => .scalar (.ofScalar (.number n))
  | .string s => .scalar (.ofScalar (.string s))
  | .array items => .array 0 (Value.toNodes items) .whole
  | .object members => .object 0 (Value.toSites members) .whole

def Value.toNodes : List Value → List Node
  | [] => []
  | v :: vs => v.toNode :: Value.toNodes vs

def Value.toSites : List (String × Value) → List (KeySite × Node)
  | [] => []
  | (k, v) :: ms =>
    ((0, .ofScalar (.string k), .mark .colon 0), v.toNode) :: Value.toSites ms

end

/-- Read from a value; errors have no place. -/
def readFrom {α : Type} (v : Value) (read : Node → Reading α) : Reading α :=
  (read v.toNode).mapError Error.unplaced

end DirectorySessions.Json
