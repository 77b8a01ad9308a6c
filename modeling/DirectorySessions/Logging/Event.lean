/-
# Log events

An event has a level, the target that it comes from, a message and fields.
It is written as an object or as a line of text, in either case without the
time.
-/
import DirectorySessions.Json.Printer
import DirectorySessions.Logging.Filter
import DirectorySessions.Text.Quoted

namespace DirectorySessions

open Json

inductive FieldValue where
  /-- A text that stands as it is. -/
  | plain (s : String)
  /-- A text that stands between quotes in a line of text. -/
  | quoted (s : String)
  | bool (b : Bool)
  | number (n : Nat)
deriving DecidableEq

structure LogEvent where
  level : LogLevel
  target : String
  message : String
  fields : List (String × FieldValue)
deriving DecidableEq

namespace FieldValue

def toJson : FieldValue → Value
  | .plain s => .string s
  | .quoted s => .string s
  | .bool b => .bool b
  | .number n => .ofNat n

def text : FieldValue → String
  | .plain s => s
  | .quoted s => Text.quote s
  | .bool b => if b then "true" else "false"
  | .number n => toString n

end FieldValue

namespace LogEvent

/-- Does an event have a field of a name?  Its message is one. -/
def hasField (e : LogEvent) (name : String) : Bool :=
  name = "message" || e.fields.any fun f => f.1 = name

def passes (e : LogEvent) (f : LogFilter) : Bool := f.passes e.target e.level e.hasField

def toJson (e : LogEvent) : Value :=
  .object [("level", .string e.level.capitals), ("target", .string e.target),
    ("fields", .object (("message", .string e.message) ::
      e.fields.map fun f => (f.1, f.2.toJson)))]

def text (e : LogEvent) : String :=
  e.level.capitals ++ " " ++ e.target ++ ": " ++ e.message ++
    String.join (e.fields.map fun f => " " ++ f.1 ++ "=" ++ f.2.text)

end LogEvent

end DirectorySessions
