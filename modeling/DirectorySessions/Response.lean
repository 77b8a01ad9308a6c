/-
# Responses

What a client is answered, one response to a line.  Which request is
answered is told by its number alone; responses come in the order in which
operations finish.
-/
import DirectorySessions.Identifier

namespace DirectorySessions

open Json

/-- What became of a request. -/
inductive Status where
  | success
  | denied
  | error
  | busy
  | cancelled
deriving DecidableEq, Inhabited

namespace Status

def all : List Status := [.success, .denied, .error, .busy, .cancelled]

def name : Status → String
  | .success => "success"
  | .denied => "denied"
  | .error => "error"
  | .busy => "busy"
  | .cancelled => "cancelled"

/-- The status of a name; names that are not known do not get here. -/
def ofName (s : String) : Status := (all.find? fun x => x.name = s).getD .success

def toJson (s : Status) : Value := .string s.name

def ofNode (n : Node) : Reading Status := ofName <$> n.readVariant (all.map name)

end Status

structure Response where
  id : RequestId
  status : Status
  message : Option String
  identity : Option String
  entries : Option (List Value)
deriving BEq, Inhabited

namespace Response

def success (id : RequestId) : Response := ⟨id, .success, none, none, none⟩

def withStatus (id : RequestId) (status : Status) (message : String) : Response :=
  { success id with status := status, message := some message }

/-- A request that was turned away at the gate. -/
def denied (id : RequestId) (message : String) : Response := withStatus id .denied message

def error (id : RequestId) (message : String) : Response := withStatus id .error message

/-- A request too many. -/
def busy (id : RequestId) : Response := withStatus id .busy "too many outstanding requests"

def withIdentity (r : Response) (name : String) : Response := { r with identity := some name }

def withEntries (r : Response) (entries : List Value) : Response :=
  { r with entries := some entries }

/-- A member that is left out when there is nothing to say. -/
def optionalMember (key : String) (v : Option Value) : Members :=
  match v with
  | some v => [(key, v)]
  | none => []

def toJson (r : Response) : Value :=
  .object ([("id", r.id.toJson), ("status", r.status.toJson)] ++
    optionalMember "message" (r.message.map .string) ++
    optionalMember "identity" (r.identity.map .string) ++
    optionalMember "entries" (r.entries.map .array))

def toLine (r : Response) : String := r.toJson.text

def shape : Shape :=
  ⟨"struct Response", [("id", true), ("status", true), ("message", false), ("identity", false),
    ("entries", false)]⟩

def put (r : Response) (field : String) (n : Node) : Reading Response :=
  match field with
  | "id" => return { r with id := ← RequestId.ofNode n }
  | "status" => return { r with status := ← Status.ofNode n }
  | "message" => return { r with message := ← n.readOptional Node.readString }
  | "identity" => return { r with identity := ← n.readOptional Node.readString }
  | "entries" => return { r with entries := ← n.readOptional (·.readList (·.readValue 2)) }
  | _ => return r

def ofNode (n : Node) : Reading Response := n.readRecord shape (success .zero) put

def ofLine (line : String) : Reading Response := readText line ofNode

end Response

end DirectorySessions
