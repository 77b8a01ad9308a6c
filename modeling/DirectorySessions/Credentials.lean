/-
# Credentials

What a client presents when it binds, or the absence of any bind.  A
password is never shown.
-/
import DirectorySessions.Text.Blank
import DirectorySessions.Text.Quoted

namespace DirectorySessions

/-- What a client presents. -/
inductive Credentials where
  | anonymous
  | simple (dn password : String)
deriving DecidableEq, Inhabited

namespace Credentials

/-- A bind under a blank name is an anonymous bind. -/
def isAnonymous : Credentials → Bool
  | .anonymous => true
  | .simple dn _ => Text.allBlank dn

/-- The credentials of a bind request. -/
def ofBind (dn password : String) : Credentials :=
  if Text.allBlank dn then .anonymous else .simple dn password

/-- Credentials as messages show them, without the password. -/
def describe : Credentials → String
  | .anonymous => "Anonymous"
  | .simple dn _ =>
    "Simple \x7b dn: " ++ Text.quote dn ++ ", password: \"[REDACTED]\" \x7d"

end Credentials

end DirectorySessions
