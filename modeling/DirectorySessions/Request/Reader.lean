/-
# Reading requests

A request line is a JSON object.  Its number and its controls are read where
they stand; all other members belong to the operation and are kept, in order
and with repetitions, until the object is closed, because the one that names
the operation may come last.  What is wrong with a member that was kept is
therefore found at the end of the object, and only if a number was given.

An operation can also be read from a value, where it may be a list of its
name and its fields.
-/
import DirectorySessions.Request

namespace DirectorySessions

open Json

namespace OperationKind

def ofName (name : String) : Reading OperationKind :=
  match all.find? fun k => k.name = name with
  | some k => .ok k
  | none => .error ⟨.mismatch (.variant name names), none⟩

/-- How messages describe what stands for a kind. -/
def wanted : String := "variant identifier"

/-- A kind given by its name. -/
def readName (v : Value) : Reading OperationKind :=
  match v with
  | .string s => ofName s
  | v => .error ((v.toNode.refuse wanted).unplaced)

/-- A kind given by its name, or by its place among all kinds. -/
def readTag (v : Value) : Reading OperationKind :=
  match v with
  | .number (.integer (.ofNat n)) =>
    match all[n]? with
    | some k => .ok k
    | none => .error ⟨.mismatch (.value (.integer n)
        ("variant index 0 <= i < " ++ toString all.length)), none⟩
  | v => readName v

/-- The fields of an operation of a kind, and whether each must be given. -/
def fields : OperationKind → List (String × Bool)
  | .bind => [("dn", false), ("password", false)]
  | .search => [("base", false), ("filter", false)]
  | .abandon => [("target", true)]
  | .whoami | .unbind => []

/-- What messages call an operation of a kind. -/
def title : OperationKind → String
  | .bind => "Bind"
  | .search => "Search"
  | .whoami => "Whoami"
  | .abandon => "Abandon"
  | .unbind => "Unbind"

def shape (k : OperationKind) : Shape := ⟨"struct variant Operation::" ++ k.title, k.fields⟩

/-- An operation of a kind none of whose fields is given. -/
def blank : OperationKind → Operation
  | .bind => .bind "" ""
  | .search => .search "" none
  | .whoami => .whoami
  | .abandon => .abandon .zero
  | .unbind => .unbind

end OperationKind

namespace Operation

def put (op : Operation) (field : String) (n : Node) : Reading Operation :=
  match op, field with
  | .bind _ password, "dn" => return .bind (← n.readString) password
  | .bind dn _, "password" => return .bind dn (← n.readString)
  | .search _ filter, "base" => return .search (← n.readString) filter
  | .search base _, "filter" => return .search base (← n.readOptional Node.readString)
  | .abandon _, "target" => return .abandon (← RequestId.ofNode n)
  | op, _ => return op

/-- The key of the member that names the operation. -/
def tagKey : String := "op"

/-- Tell the member that names the operation, which may come once, from the others. -/
def splitTag (readKind : Value → Reading OperationKind) :
    Option OperationKind → List (String × Value) →
      Reading (Option OperationKind × List (String × Value))
  | kind, [] => .ok (kind, [])
  | kind, (k, v) :: ms =>
    if k = tagKey then
      match kind with
      | some _ => .error ⟨.mismatch (.duplicate tagKey), none⟩
      | none => do splitTag readKind (some (← readKind v)) ms
    else do
      let (kind, rest) ← splitTag readKind kind ms
      return (kind, (k, v) :: rest)

/-- Read an operation from members, in order and with repetitions.  Members
that are no fields of its kind are passed over. -/
def ofMembers (readKind : Value → Reading OperationKind) (ms : List (String × Value)) :
    Reading Operation := do
  match ← splitTag readKind none ms with
  | (none, _) => .error ⟨.mismatch (.missing tagKey), none⟩
  | (some kind, rest) =>
    (readMembers kind.shape put .whole kind.blank [] (Value.toSites rest)).mapError Error.unplaced

/-- How messages describe a list of so many items. -/
def listOf (n : Nat) : String :=
  toString n ++ (if n = 1 then " element in sequence" else " elements in sequence")

/-- Read an operation from a list of its name and its fields. -/
def ofItems (items : List Value) : Reading Operation :=
  match items with
  | [] => .error ⟨.mismatch (.missing tagKey), none⟩
  | tag :: items => do
    let kind ← OperationKind.readName tag
    let count := kind.fields.length
    let op ← (readFields kind.shape put .whole items.length kind.blank 0 kind.fields
      (Value.toNodes (items.take count))).mapError Error.unplaced
    if count < items.length then .error ⟨.mismatch (.length items.length (listOf count)), none⟩
    else return op

/-- Read an operation from a value. -/
def ofValue (v : Value) : Reading Operation :=
  match v with
  | .object ms => ofMembers OperationKind.readName ms
  | .array items => ofItems items
  | v => .error ((v.toNode.refuse "internally tagged enum Operation").unplaced)

end Operation

namespace Request

/-- What is known of a request while its members are read: the operation's
members are kept, latest first. -/
structure Draft where
  id : Option RequestId
  controls : Option (List Control)
  kept : List (String × Value)

/-- Nothing known yet. -/
def Draft.empty : Draft := ⟨none, none, []⟩

/-- Read the next member. -/
def Draft.add (d : Draft) (site : KeySite) (value : Node) : Reading Draft := do
  let key ← Node.readString (.scalar site.2.1)
  if key = "id" then
    if d.id.isSome then mismatchAt (.duplicate "id") (leaveAfterKey site)
    else return { d with id := some (← RequestId.ofNode value) }
  else if key = "controls" then
    if d.controls.isSome then mismatchAt (.duplicate "controls") (leaveAfterKey site)
    else return { d with controls := some (← value.readList Control.ofNode) }
  else return { d with kept := (key, ← value.readValue 1) :: d.kept }

def Draft.addAll (d : Draft) : List (KeySite × Node) → Reading Draft
  | [] => .ok d
  | (site, value) :: ms => do (← d.add site value).addAll ms

/-- The request of a closed object. -/
def Draft.finish (d : Draft) : Reading Request :=
  match d.id with
  | none => .error ⟨.mismatch (.missing "id"), none⟩
  | some id => do
    let op ← Operation.ofMembers OperationKind.readTag d.kept.reverse
    return ⟨id, op, d.controls.getD []⟩

def ofNode (n : Node) : Reading Request :=
  match n with
  | .object _ members e => do
    let d ← Draft.empty.addAll members
    e.finish
    d.finish.mapError fun err => err.placed (leaveAt [] e)
  | n => .error (n.refuse "struct RequestEnvelope")

def ofLine (line : String) : Reading Request := readText line ofNode

end Request

end DirectorySessions
