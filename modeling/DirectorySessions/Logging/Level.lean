/-
# Log levels

Five levels, from the most pressing to the most talkative.  A level is given
by its name, in any case, or by its number from one to five.
-/
import DirectorySessions.Decimal.Unsigned
import DirectorySessions.Text.Case

namespace DirectorySessions

/-- How pressing an event is. -/
inductive LogLevel where
  | error
  | warn
  | info
  | debug
  | trace
deriving DecidableEq, Inhabited

namespace LogLevel

def all : List LogLevel := [.error, .warn, .info, .debug, .trace]

def name : LogLevel → String
  | .error => "error"
  | .warn => "warn"
  | .info => "info"
  | .debug => "debug"
  | .trace => "trace"

def capitals : LogLevel → String
  | .error => "ERROR"
  | .warn => "WARN"
  | .info => "INFO"
  | .debug => "DEBUG"
  | .trace => "TRACE"

/-- The number of a level: the more talkative, the higher. -/
def number : LogLevel → Nat
  | .error => 1
  | .warn => 2
  | .info => 3
  | .debug => 4
  | .trace => 5

def ofNumber? (n : Nat) : Option LogLevel := all.find? fun l => l.number = n

/-- The level of a name, in any case. -/
def ofName? (s : String) : Option LogLevel := all.find? fun l => l.name = Text.lower s

/-- Read a level: a number, or a name. -/
def read (s : String) : Option LogLevel :=
  ((Decimal.readWord 64 s).bind ofNumber?) <|> ofName? s

end LogLevel

end DirectorySessions
