/-
# Security contexts

The identity a session acts as, how strongly that identity was proved, the
controls of the connection when it was established, and the naming context
it is rooted at.
-/
import DirectorySessions.Control
import DirectorySessions.Text.Blank

namespace DirectorySessions

/-- How an identity was proved. -/
inductive AuthLevel where
  | unproved
  | simple
  | strong
deriving DecidableEq, Inhabited

/-- Who acts. -/
inductive Identity where
  | anonymous
  | principal (name : String)
deriving DecidableEq, Inhabited

/-- An identity with the circumstances of its bind. -/
structure SecurityContext where
  identity : Identity
  authLevel : AuthLevel
  controls : List Control
  providerUrl : String
deriving DecidableEq, Inhabited

namespace AuthLevel

def names : List String := ["none", "simple", "strong"]

def name : AuthLevel → String
  | .unproved => "none"
  | .simple => "simple"
  | .strong => "strong"

/-- The level of a name; names that are not known do not get here. -/
def ofName (s : String) : AuthLevel :=
  if s = "simple" then .simple else if s = "strong" then .strong else .unproved

def toJson (l : AuthLevel) : Json.Value := .string l.name

def ofNode (n : Json.Node) : Json.Reading AuthLevel := ofName <$> n.readVariant names

end AuthLevel

namespace Identity

/-- A principal whose name is blank counts as anonymous. -/
def isAnonymous : Identity → Bool
  | .anonymous => true
  | .principal name => Text.allBlank name

def name : Identity → String
  | .anonymous => ""
  | .principal name => name

end Identity

namespace SecurityContext

def anonymous (controls : List Control) (providerUrl : String) : SecurityContext :=
  ⟨.anonymous, .unproved, controls, providerUrl⟩

def principal (name : String) (level : AuthLevel) (controls : List Control)
    (providerUrl : String) : SecurityContext :=
  ⟨.principal name, level, controls, providerUrl⟩

/-- Does nobody in particular act? -/
def isAnonymous (c : SecurityContext) : Bool := c.identity.isAnonymous

end SecurityContext

end DirectorySessions
