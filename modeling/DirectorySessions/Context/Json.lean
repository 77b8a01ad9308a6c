/-
# Security contexts as JSON

An identity is written as its kind and, for a principal, its name.  It is
read from these two keys in either order, other keys being passed over, or
from a list of the two.
-/
import DirectorySessions.Context

namespace DirectorySessions

open Json

namespace Identity

def toJson : Identity → Value
  | .anonymous => .object [("kind", .string "anonymous")]
  | .principal name => .object [("kind", .string "principal"), ("dn", .string name)]

def kinds : List String := ["anonymous", "principal"]

/-- How messages describe an identity. -/
def wanted : String := "adjacently tagged enum Identity"

/-- Where a reader is left that opens a container and wants nothing in it. -/
def enterAt : Node → Nat
  | .scalar t => t.stop
  | .array _ (n :: _) _ => n.start
  | .array _ [] e => leaveAt [] e
  | .object _ ((site, _) :: _) _ => site.2.1.start
  | .object _ [] e => leaveAt [] e

/-- An anonymous identity has no content, or null. -/
def readNothing (n : Node) : Reading Unit :=
  match n with
  | .scalar _ => n.readNull "unit variant Identity::Anonymous"
  | .array .. => mismatchAt (.type .sequence "unit variant Identity::Anonymous") (enterAt n)
  | .object .. => mismatchAt (.type .map "unit variant Identity::Anonymous") (enterAt n)

/-- Read the content of an identity of a kind. -/
def readContent (kind : String) (n : Node) : Reading Identity :=
  if kind = "principal" then .principal <$> n.readString
  else do
    readNothing n
    return .anonymous

/-- An identity whose content is not given. -/
def withoutContent (kind : String) (offset : Nat) : Reading Identity :=
  if kind = "principal" then mismatchAt (.missing "dn") offset else .ok .anonymous

/-- A member that matters: is it the kind, where its key is, its value, and
the members after it. -/
structure Relevant where
  isKind : Bool
  site : KeySite
  value : Node
  rest : List (KeySite × Node)

/-- The next member that matters, those before it being passed over. -/
def nextRelevant (e : Ending) : List (KeySite × Node) → Reading (Option Relevant)
  | [] => do
    e.finish
    return none
  | (site, value) :: rest => do
    let key ← Node.readString (.scalar site.2.1)
    if key = "kind" then return some ⟨true, site, value, rest⟩
    else if key = "dn" then return some ⟨false, site, value, rest⟩
    else match value.skip with
      | .error f => failAt f
      | .ok () => nextRelevant e rest

/-- The key of a member that matters. -/
def Relevant.key (r : Relevant) : String := if r.isKind then "kind" else "dn"

/-- After kind and content neither may come again. -/
def finishMembers (e : Ending) (rest : List (KeySite × Node)) (i : Identity) :
    Reading Identity := do
  match ← nextRelevant e rest with
  | some r => mismatchAt (.duplicate r.key) (leaveAfterKey r.site)
  | none => return i

/-- Read an identity from the members of an object.  Content that comes
before the kind is kept until the kind is known, so what is wrong with it is
found only then. -/
def ofMembers (level : Nat) (e : Ending) (members : List (KeySite × Node)) :
    Reading Identity := do
  match ← nextRelevant e members with
  | none => mismatchAt (.missing "kind") (leaveAt [] e)
  | some first =>
    if first.isKind then
      let kind ← first.value.readVariant kinds
      match ← nextRelevant e first.rest with
      | none => withoutContent kind (leaveAt [] e)
      | some second =>
        if second.isKind then mismatchAt (.duplicate "kind") (leaveAfterKey second.site)
        else
          let i ← readContent kind second.value
          finishMembers e second.rest i
    else
      discard (first.value.readValue level)
      match ← nextRelevant e first.rest with
      | none => mismatchAt (.missing "kind") (leaveAt [] e)
      | some second =>
        if second.isKind then
          let kind ← second.value.readVariant kinds
          match readContent kind first.value with
          | .ok i => finishMembers e second.rest i
          | .error err => .error (err.unplaced.placed (leaveAt second.rest e))
        else mismatchAt (.duplicate "dn") (leaveAfterKey second.site)

/-- Read an identity from the items of a list, of which the first is the name
of the kind. -/
def ofItems (e : Ending) (items : List Node) : Reading Identity :=
  match items with
  | [] => do
    e.finish
    mismatchAt (.length 0 wanted) (leaveAt [] e)
  | [kind] => do
    discard (kind.readName kinds)
    e.finish
    mismatchAt (.length 1 wanted) (leaveAt [] e)
  | kind :: content :: rest => do
    let kind ← kind.readName kinds
    let i ← readContent kind content
    finishFixed items.length rest e
    return i

def ofNode (level : Nat) (n : Node) : Reading Identity :=
  match n with
  | .scalar t => .error (t.refuse wanted)
  | .array _ items e => ofItems e items
  | .object _ members e => ofMembers (level + 1) e members

end Identity

namespace SecurityContext

def toJson (c : SecurityContext) : Value :=
  .object [("identity", c.identity.toJson), ("auth_level", c.authLevel.toJson),
    ("controls", .array (c.controls.map Control.toJson)),
    ("provider_url", .string c.providerUrl)]

/-- The fields of a context; all must be given. -/
def shape : Shape :=
  ⟨"struct SecurityContext",
    [("identity", true), ("auth_level", true), ("controls", true), ("provider_url", true)]⟩

def put (c : SecurityContext) (field : String) (n : Node) : Reading SecurityContext :=
  match field with
  | "identity" => return { c with identity := ← Identity.ofNode 1 n }
  | "auth_level" => return { c with authLevel := ← AuthLevel.ofNode n }
  | "controls" => return { c with controls := ← n.readList Control.ofNode }
  | "provider_url" => return { c with providerUrl := ← n.readString }
  | _ => return c

def ofNode (n : Node) : Reading SecurityContext :=
  n.readRecord shape (.anonymous [] "") put

end SecurityContext

end DirectorySessions
