/-
# Changing log levels at run time

The levels are a base for all targets and one level for each of some modules.
Whenever a module's level is set, the whole filter is written anew from these
and put in place of the one in force, the environment's included.

A level that is set is remembered even if the filter that results cannot be
read, for instance because a module's name is no name.
-/
import DirectorySessions.Logging.Filter

namespace DirectorySessions

/-- Levels of modules, in the order in which they were first given. -/
abbrev ModuleLevels := List (String × LogLevel)

namespace ModuleLevels

/-- Set the level of a module: the first entry for it is changed, or else one
is added. -/
def put (ms : ModuleLevels) (module : String) (level : LogLevel) : ModuleLevels :=
  match ms with
  | [] => [(module, level)]
  | (m, l) :: rest => if m = module then (m, level) :: rest else (m, l) :: put rest module level

end ModuleLevels

/-- The filter for a base level and levels of modules, as it is written. -/
def filterDirectives (base : LogLevel) (ms : ModuleLevels) : String :=
  base.name ++ String.join (ms.map fun m => "," ++ m.1 ++ "=" ++ m.2.name)

/-- Control over the log: the levels, and the filter in force.  Only the first
control of a process is in charge of its filter; later ones just keep track
of their levels. -/
structure LogControl where
  base : LogLevel
  modules : ModuleLevels
  inCharge : Bool
  filter : LogFilter

namespace LogControl

/-- The filter is written in a way that cannot be read. -/
structure BadFilter where
  directives : String
deriving DecidableEq

def directives (c : LogControl) : String := filterDirectives c.base c.modules

/-- Start logging.  A filter in the environment comes before the levels, if it
can be read. -/
def start (environment : Option String) (base : LogLevel) (ms : ModuleLevels) : LogControl :=
  let filter := match environment.bind LogFilter.read with
    | some f => f
    | none => LogFilter.readLoosely (filterDirectives base ms)
  ⟨base, ms, true, filter⟩

/-- Start logging once more in a process whose log has a control already. -/
def startAgain (first : LogControl) (base : LogLevel) (ms : ModuleLevels) : LogControl :=
  ⟨base, ms, false, first.filter⟩

/-- Set the level of a module, given what can be read as a filter. -/
def setLevel (read : String → Option LogFilter) (c : LogControl) (module : String)
    (level : LogLevel) : LogControl × Except BadFilter Unit :=
  let c := { c with modules := c.modules.put module level }
  if c.inCharge then
    match read c.directives with
    | some f => ({ c with filter := f }, .ok ())
    | none => (c, .error ⟨c.directives⟩)
  else (c, .ok ())

end LogControl

end DirectorySessions
