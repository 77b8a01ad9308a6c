/-
# The anonymous-access gate

A server-wide switch says whether anonymous clients may act.  Discovery of
the root entry is exempt from it.
-/

namespace DirectorySessions

/-- The outcome of an access check. -/
inductive AccessDecision where
  | allow
  /-- Anonymous access is switched off, but discovery of the root is exempt. -/
  | bypass
  | deny
deriving DecidableEq

namespace AccessDecision

/-- May the client go on? -/
def isAllowed (d : AccessDecision) : Bool := d ≠ .deny

def name : AccessDecision → String
  | .allow => "Allow"
  | .bypass => "Bypass"
  | .deny => "Deny"

end AccessDecision

namespace Access

/-- Decide from who asks, how the switch stands, and what is asked for. -/
def decide (anonymous allowed rootDiscovery : Bool) : AccessDecision :=
  if !anonymous then .allow
  else if allowed then .allow
  else if rootDiscovery then .bypass
  else .deny

/-- What a client is told who is turned away. -/
def turnedAway : String := "anonymous binds disabled"

end Access

end DirectorySessions
