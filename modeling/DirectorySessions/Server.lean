/-
# Servers

A server is its settings brought to work on a registry: the factory for
binds, the backend, and the limits that all its connections share.
-/
import DirectorySessions.Exchange
import DirectorySessions.Settings

namespace DirectorySessions

namespace Server

/-- The switch for anonymous access and the naming context, as settings have
them, make an empty registry. -/
def registryOf (s : Settings) : Registry := .new ⟨s.providerUrl, .direct⟩ s.allowAnonymous

/-- What the connections of a server share.  Binds go through the factory of
the registry, if it has one. -/
def servicesOf (s : Settings) (config : RegistryConfig) (backend : Backend) : Services :=
  { factory := config.bindFactory s.providerUrl
    backend := backend
    maxOutstanding := s.maxOutstanding
    maxLineBytes := s.maxLineBytes }

def start (s : Settings) (r : Registry) (backend : Backend) : Except SettingsError Exchange := do
  s.validate
  return .new (servicesOf s r.config backend) r

/-- Stop a server: all sessions are closed.  Tells how many were open. -/
def stop (x : Exchange) : Exchange × Nat :=
  match x.move (.act .shutdown) with
  | (x, .acted (.number n)) => (x, n)
  | (x, _) => (x, 0)

end Server

end DirectorySessions
