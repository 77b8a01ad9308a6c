/-
# Context factories

A factory turns credentials into a security context, or refuses.  How a
password is checked is its own business; the caller only sees the identity
that results.
-/
import DirectorySessions.Context
import DirectorySessions.Credentials

namespace DirectorySessions

/-- Why a factory builds no context. -/
inductive ContextError where
  | creationFailed (detail : String)
  | invalidCredentials (detail : String)
deriving DecidableEq, Inhabited

namespace ContextError

def kind : ContextError → String
  | .creationFailed _ => "creation_failed"
  | .invalidCredentials _ => "invalid_credentials"

def message : ContextError → String
  | .creationFailed d => "context creation failed: " ++ d
  | .invalidCredentials d => "invalid credentials: " ++ d

end ContextError

/-- Builds contexts from the controls of a connection and its credentials. -/
abbrev ContextFactory := List Control → Credentials → Except ContextError SecurityContext

namespace ContextFactory

/-- The factory of a server that leaves the checking of passwords to its
backend: it takes anyone who gives no name for anonymous and believes anyone
who gives a name and some password. -/
def directory (providerUrl : String) : ContextFactory := fun controls credentials =>
  match credentials with
  | .anonymous => .ok (.anonymous controls providerUrl)
  | .simple dn password =>
    if Text.allBlank dn then .ok (.anonymous controls providerUrl)
    else if password.isEmpty then
      .error (.invalidCredentials ("unauthenticated bind for " ++ dn))
    else .ok (.principal (Text.trim dn) .simple controls providerUrl)

/-- A factory that takes everyone for the same principal. -/
def everyone (name : String) (level : AuthLevel) (providerUrl : String) : ContextFactory :=
  fun controls _ => .ok (.principal name level controls providerUrl)

/-- A factory that refuses everyone. -/
def nobody (e : ContextError) : ContextFactory := fun _ _ => .error e

end ContextFactory

end DirectorySessions
