/-
# The program

Load the settings, start logging, start the server, and stop it when asked.
What a run writes is put together here, for a server that no client comes to;
a run fails only if there are no settings.  The command line that serves a
client is in `Main.lean`.
-/
import DirectorySessions.Logging.Control
import DirectorySessions.Logging.Event
import DirectorySessions.Server

namespace DirectorySessions

/-- What a run of the program comes to: its exit code, the events that are
logged, whether they are written as objects, and what is written besides. -/
structure Run where
  exit : Nat
  events : List LogEvent
  asObjects : Bool
  complaints : String

namespace Program

def ownTarget : String := "dirsess"

def serverTarget : String := "dirsess_server::server"

/-- The report of an error: what could not be done, and why, each cause on a
line, numbered if there are several. -/
def report (failure : String) (causes : List String) : String :=
  let lines := match causes with
    | [c] => "    " ++ c ++ "\n"
    | cs => String.join (cs.zipIdx.map fun p => "    " ++ toString p.2 ++ ": " ++ p.1 ++ "\n")
  "Error: " ++ failure ++ "\n\nCaused by:\n" ++ lines

/-- The report of settings that cannot be loaded. -/
def settingsReport (e : SettingsError) : String :=
  report "failed to load settings" (e.message :: e.reason?.toList)

/-- The report of settings that no server can work with. -/
def serverReport (e : SettingsError) : String :=
  report "failed to start server" (e.message :: e.reason?.toList)

/-- The event for a variable that was ignored. -/
def rejectedEvent (r : Settings.Rejected) : LogEvent :=
  ⟨.warn, "dirsess_server::settings", "invalid env override, ignoring",
    [("key", .quoted r.key), ("value", .plain r.value)]⟩

/-- The events up to the moment when the server is ready, at an address. -/
def startEvents (s : Settings) (address : String) : List LogEvent :=
  [⟨.info, ownTarget, "starting directory session server",
      [("addr", .plain s.address), ("allow_anonymous", .bool s.allowAnonymous)]⟩,
    ⟨.info, serverTarget, "directory session server started", [("addr", .plain address)]⟩,
    ⟨.info, ownTarget, "server ready", [("addr", .plain address)]⟩]

/-- The events from the moment when the server is stopped, after which so many
sessions were closed. -/
def stopEvents (closed : Nat) : List LogEvent :=
  [⟨.info, ownTarget, "shutting down", []⟩,
    ⟨.debug, serverTarget, "accept loop stopped", []⟩,
    ⟨.info, "dirsess_registry::registry", "registry shut down", [("closed", .number closed)]⟩,
    ⟨.info, serverTarget, "directory session server stopped", [("closed", .number closed)]⟩,
    ⟨.info, ownTarget, "bye", [("closed", .number closed)]⟩]

/-- The level to log at, and what is said if the settings name none. -/
def levelOf (s : Settings) : LogLevel × String :=
  match LogLevel.read s.logLevel with
  | some l => (l, "")
  | none => (.info, "unknown log level " ++ Text.quote s.logLevel ++ ", using info\n")

/-- The variable that holds a filter for the log. -/
def filterVariable : String := "RUST_LOG"

def watchedVariables : List String := filterVariable :: Settings.overrides.map Settings.Override.key

/-- A program that has its settings, its log and its server: the variables that
were ignored, and what is said about the log level. -/
structure Ready where
  settings : Settings
  rejected : List Settings.Rejected
  log : LogControl
  complaint : String
  server : Exchange

/-- Make the program ready, with a settings file and an environment; or else
report why it cannot start. -/
def prepare (file : Settings.FileContent) (env : Settings.Environment) : Except String Ready :=
  match Settings.load file env with
  | .error e => .error (settingsReport e)
  | .ok (s, rejected) =>
    let (level, complaint) := levelOf s
    let log := LogControl.start (env filterVariable) level []
    match Server.start s (Server.registryOf s) (.directory s.operationDelay) with
    | .error e => .error (complaint ++ serverReport e)
    | .ok x => .ok ⟨s, rejected, log, complaint, x⟩

/-- Those of some events that are logged. -/
def Ready.logged (p : Ready) (events : List LogEvent) : List LogEvent :=
  events.filter fun e => e.passes p.log.filter

/-- What is logged until the server is ready, at an address. -/
def Ready.opening (p : Ready) (address : String) : List LogEvent :=
  p.logged (p.rejected.map rejectedEvent ++ startEvents p.settings address)

/-- What is logged when the server is stopped with so many sessions open. -/
def Ready.closing (p : Ready) (closed : Nat) : List LogEvent := p.logged (stopEvents closed)

/-- Run the program for a server that no client comes to.  `listening` is the
address at which the server of some settings comes to listen. -/
def run (file : Settings.FileContent) (env : Settings.Environment)
    (listening : Settings → String) : Run :=
  match prepare file env with
  | .error report => ⟨1, [], false, report⟩
  | .ok p =>
    ⟨0, p.opening (listening p.settings) ++ p.closing (Server.stop p.server).2,
      p.settings.logJson, p.complaint⟩

end Program

end DirectorySessions
