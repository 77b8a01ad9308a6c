/-
# Sessions and requests by name

A session is one client's connection; its name is opaque and stays for as
long as the connection lives.  A request is numbered by the client, who may
use a number again once the earlier request is gone.
-/
import DirectorySessions.Json.Reader
import DirectorySessions.Json.Printer

namespace DirectorySessions

structure SessionId where
  text : String
deriving DecidableEq, Inhabited

/-- A client's number for a request: a signed 32-bit number. -/
structure RequestId where
  value : Int32
deriving DecidableEq, Inhabited

namespace SessionId

/-- Sessions are ordered by code points, which is also the order of the bytes
of their names. -/
def order (a b : SessionId) : Ordering := compareOfLessAndEq a.text b.text

def describe (s : SessionId) : String := "SessionId(" ++ Text.quote s.text ++ ")"

def toJson (s : SessionId) : Json.Value := .string s.text

def ofNode (n : Json.Node) : Json.Reading SessionId := SessionId.mk <$> n.readString

/-- Names that a server makes up consist of this mark and a unique part. -/
def madeUpMark : String := "conn_"

/-- The length of a made-up name: the mark, and 32 digits in five groups. -/
def madeUpLength : Nat := madeUpMark.length + 36

end SessionId

namespace RequestId

/-- The number zero, under which a server answers what it could not read. -/
def zero : RequestId := ⟨0⟩

def ofInt (n : Int) : RequestId := ⟨Int32.ofInt n⟩

def toInt (r : RequestId) : Int := r.value.toInt

def order (a b : RequestId) : Ordering := compare a.toInt b.toInt

def text (r : RequestId) : String := toString r.toInt

def describe (r : RequestId) : String := "RequestId(" ++ r.text ++ ")"

def toJson (r : RequestId) : Json.Value := .ofInt r.toInt

def ofNode (n : Json.Node) : Json.Reading RequestId := RequestId.ofInt <$> n.readInteger .i32

end RequestId

end DirectorySessions
