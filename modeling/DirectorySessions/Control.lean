/-
# Controls

A control rides on a request or a connection and asks for special treatment.
It is named by an object identifier, says whether it may be ignored, and may
carry a value of any bytes.
-/
import DirectorySessions.Json.Reader
import DirectorySessions.Json.Printer

namespace DirectorySessions

structure Control where
  oid : String
  critical : Bool
  value : Option (List UInt8)
deriving DecidableEq, Inhabited

namespace Control

def valueJson (bytes : List UInt8) : Json.Value :=
  .array (bytes.map fun b => .ofNat b.toNat)

def toJson (c : Control) : Json.Value :=
  .object ([("oid", .string c.oid), ("critical", .bool c.critical)] ++
    match c.value with
    | some bytes => [("value", valueJson bytes)]
    | none => [])

def shape : Json.Shape :=
  ⟨"struct Control", [("oid", true), ("critical", false), ("value", false)]⟩

def readByte (n : Json.Node) : Json.Reading UInt8 :=
  (fun i => UInt8.ofNat i.toNat) <$> n.readInteger .u8

def put (c : Control) (field : String) (n : Json.Node) : Json.Reading Control :=
  match field with
  | "oid" => return { c with oid := ← n.readString }
  | "critical" => return { c with critical := ← n.readBool }
  | "value" => return { c with value := ← n.readOptional (·.readList readByte) }
  | _ => return c

/-- Read a control.  Only its identifier must be given. -/
def ofNode (n : Json.Node) : Json.Reading Control :=
  n.readRecord shape ⟨"", false, none⟩ put

end Control

end DirectorySessions
