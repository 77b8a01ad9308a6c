/-
# What the registry refuses

Not finding something is never an error here; it is an answer.
-/
import DirectorySessions.ContextFactory
import DirectorySessions.Identifier
import DirectorySessions.Access

namespace DirectorySessions

/-- Why the registry refuses an operation. -/
inductive RegistryError where
  | accessDenied (reason : String)
  | contextCreationFailed (e : ContextError)
  | sessionClosing (session : SessionId)
deriving DecidableEq

namespace RegistryError

def kind : RegistryError → String
  | .accessDenied _ => "access_denied"
  | .contextCreationFailed _ => "context_creation_failed"
  | .sessionClosing _ => "session_closing"

def message : RegistryError → String
  | .accessDenied reason => "access denied: " ++ reason
  | .contextCreationFailed e => e.message
  | .sessionClosing s => "session " ++ s.text ++ " is closing"

/-- Nothing that fails here is worth another try; that is for others to decide. -/
def isRetryable (_ : RegistryError) : Bool := false

end RegistryError

/-- Let a client pass the gate, or turn it away. -/
def Access.enforce (anonymous allowed rootDiscovery : Bool) :
    Except RegistryError AccessDecision :=
  match Access.decide anonymous allowed rootDiscovery with
  | .deny => .error (.accessDenied Access.turnedAway)
  | d => .ok d

/-- How a cancellation callback failed. -/
inductive CancelError where
  | failed (detail : String)
  | panicked (detail : String)
deriving DecidableEq

def CancelError.message : CancelError → String
  | .failed d => "cancellation failed: " ++ d
  | .panicked d => "cancellation callback panicked: " ++ d

end DirectorySessions
