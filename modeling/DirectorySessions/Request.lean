/-
# Requests

What a client may ask for, one request to a line.  Searching and asking who
one is are handed to the backend; the other three are settled by the
connection itself.
-/
import DirectorySessions.Control
import DirectorySessions.Identifier
import DirectorySessions.Text.Blank

namespace DirectorySessions

/-- What a client asks for. -/
inductive Operation where
  | bind (dn password : String)
  | search (base : String) (filter : Option String)
  | whoami
  | abandon (target : RequestId)
  | unbind
deriving DecidableEq, Inhabited

inductive OperationKind where
  | bind
  | search
  | whoami
  | abandon
  | unbind
deriving DecidableEq, Inhabited

namespace OperationKind

def all : List OperationKind := [.bind, .search, .whoami, .abandon, .unbind]

def name : OperationKind → String
  | .bind => "bind"
  | .search => "search"
  | .whoami => "whoami"
  | .abandon => "abandon"
  | .unbind => "unbind"

def names : List String := all.map name

end OperationKind

namespace Operation

def kind : Operation → OperationKind
  | .bind .. => .bind
  | .search .. => .search
  | .whoami => .whoami
  | .abandon _ => .abandon
  | .unbind => .unbind

def name (op : Operation) : String := op.kind.name

/-- A search from a blank base asks for the root entry, by which clients find
out what the directory holds. -/
def isRootDiscovery : Operation → Bool
  | .search base _ => Text.allBlank base
  | _ => false

end Operation

/-- A request: its number, what is asked for, and the controls that ride on it. -/
structure Request where
  id : RequestId
  operation : Operation
  controls : List Control
deriving DecidableEq, Inhabited

end DirectorySessions
