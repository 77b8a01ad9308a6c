/-
# Where anonymous contexts come from

A session without a bound context acts under a fresh one, which is built from
the controls at hand: directly, or by a factory that is told that nobody
bound.
-/
import DirectorySessions.Registry.Error

namespace DirectorySessions

/-- How anonymous contexts are built. -/
inductive ContextSource where
  | direct
  | factory (f : ContextFactory)

/-- What a registry is set up with. -/
structure RegistryConfig where
  providerUrl : String
  source : ContextSource

namespace RegistryConfig

def describeSource : ContextSource → String
  | .direct => "DefaultAnonymous"
  | .factory _ => "CustomFactory(..)"

def describe (c : RegistryConfig) : String :=
  "RegistryConfig \x7b provider_url: " ++ Text.quote c.providerUrl ++ ", context_source: " ++
    describeSource c.source ++ " \x7d"

/-- Build a context for someone who did not bind. -/
def anonymousContext (c : RegistryConfig) (controls : List Control) :
    Except RegistryError SecurityContext :=
  match c.source with
  | .direct => .ok (.anonymous controls c.providerUrl)
  | .factory f => (f controls .anonymous).mapError .contextCreationFailed

/-- The factory that binds go through: the installed one, or the directory's own. -/
def bindFactory (c : RegistryConfig) (providerUrl : String) : ContextFactory :=
  match c.source with
  | .direct => .directory providerUrl
  | .factory f => f

end RegistryConfig

end DirectorySessions
