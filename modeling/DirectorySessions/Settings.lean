/-
# Settings

What a server is set up with.  Settings come in three layers: the defaults,
the settings file laid over them, and variables of the environment.  A file
that does not hold what it should is an error; a variable that does not is
ignored, and reported.
-/
import DirectorySessions.Decimal.Unsigned
import DirectorySessions.Json.Overlay
import DirectorySessions.Json.Printer
import DirectorySessions.Json.Reader
import DirectorySessions.Text.Case

namespace DirectorySessions

open Json

structure Settings where
  host : String
  port : Nat
  allowAnonymous : Bool
  providerUrl : String
  maxLineBytes : Nat
  maxOutstanding : Nat
  operationDelay : Nat
  logLevel : String
  logJson : Bool
deriving DecidableEq, Inhabited

namespace Settings

def default : Settings :=
  { host := "127.0.0.1"
    port := 10389
    allowAnonymous := true
    providerUrl := ""
    maxLineBytes := 65536
    maxOutstanding := 128
    operationDelay := 0
    logLevel := "info"
    logJson := true }

def address (s : Settings) : String := s.host ++ ":" ++ toString s.port

def toMembers (s : Settings) : Members :=
  [("host", .string s.host), ("port", .ofNat s.port),
    ("allow_anonymous", .bool s.allowAnonymous), ("provider_url", .string s.providerUrl),
    ("max_line_bytes", .ofNat s.maxLineBytes),
    ("max_outstanding_per_session", .ofNat s.maxOutstanding),
    ("operation_delay_ms", .ofNat s.operationDelay), ("log_level", .string s.logLevel),
    ("log_json", .bool s.logJson)]

def toJson (s : Settings) : Value := .object s.toMembers

/-- The fields of settings; any may be left out. -/
def shape : Shape :=
  ⟨"struct ServerSettings",
    [("host", false), ("port", false), ("allow_anonymous", false), ("provider_url", false),
      ("max_line_bytes", false), ("max_outstanding_per_session", false),
      ("operation_delay_ms", false), ("log_level", false), ("log_json", false)]⟩

def put (s : Settings) (field : String) (n : Node) : Reading Settings :=
  match field with
  | "host" => return { s with host := ← n.readString }
  | "port" => return { s with port := (← n.readInteger .u16).toNat }
  | "allow_anonymous" => return { s with allowAnonymous := ← n.readBool }
  | "provider_url" => return { s with providerUrl := ← n.readString }
  | "max_line_bytes" => return { s with maxLineBytes := (← n.readInteger .usize).toNat }
  | "max_outstanding_per_session" =>
    return { s with maxOutstanding := (← n.readInteger .usize).toNat }
  | "operation_delay_ms" => return { s with operationDelay := (← n.readInteger .u64).toNat }
  | "log_level" => return { s with logLevel := ← n.readString }
  | "log_json" => return { s with logJson := ← n.readBool }
  | _ => return s

/-- Read settings; what is left out has its default. -/
def ofNode (n : Node) : Reading Settings := n.readRecord shape default put

end Settings

/-! ## What can be wrong -/

/-- Why a settings file cannot be read. -/
inductive FileError where
  /-- What is there is a directory. -/
  | directory
  /-- Its bytes are no text. -/
  | notText
  /-- Anything else. -/
  | other (reason : String)
deriving DecidableEq

def FileError.message : FileError → String
  | .directory => "Is a directory (os error 21)"
  | .notText => "stream did not contain valid UTF-8"
  | .other reason => reason

/-- What is wrong with values of which each is of its type. -/
inductive BadValue where
  | noRequests
  | shortLines (n : Nat)
deriving DecidableEq

def BadValue.message : BadValue → String
  | .noRequests => "max_outstanding_per_session must be at least 1"
  | .shortLines n => "max_line_bytes too small: " ++ toString n

/-- Why there are no settings. -/
inductive SettingsError where
  | file (e : FileError)
  /-- The file holds no settings; the message of a flaw tells its place. -/
  | json (e : Json.Error) (text : String)
  | value (v : BadValue)

namespace SettingsError

def kind : SettingsError → String
  | .file _ => "Io"
  | .json .. => "Json"
  | .value _ => "InvalidValue"

/-- What is at the bottom of an error, unless the error says it all. -/
def reason? : SettingsError → Option String
  | .file e => some e.message
  | .json e text => some (e.message text)
  | .value _ => none

def valueMessage (detail : String) : String := "invalid settings value: " ++ detail

def message : SettingsError → String
  | .file e => "failed to read settings file: " ++ e.message
  | .json e text => "failed to parse settings JSON: " ++ e.message text
  | .value v => valueMessage v.message

end SettingsError

namespace Settings

/-- The shortest limit for lines that a server accepts. -/
def leastLineBytes : Nat := 64

/-- Settings that a server can work with. -/
def validate (s : Settings) : Except SettingsError Unit :=
  if s.maxOutstanding = 0 then .error (.value .noRequests)
  else if s.maxLineBytes < leastLineBytes then .error (.value (.shortLines s.maxLineBytes))
  else .ok ()

/-! ## The environment -/

/-- A truth value in words, in any case. -/
def readFlag (s : String) : Option Bool :=
  let w := Text.lower s
  if w ∈ ["true", "1", "yes", "on"] then some true
  else if w ∈ ["false", "0", "no", "off"] then some false
  else none

/-- A variable that was ignored, with its value. -/
structure Rejected where
  key : String
  value : String
deriving DecidableEq

/-- A variable that overrides a setting: its name, and what a value makes of
the settings, unless it is none for this variable. -/
structure Override where
  key : String
  apply : String → Settings → Option Settings

/-- The variables, in the order in which they are applied. -/
def overrides : List Override :=
  [⟨"DIRSESS_HOST", fun v s => some { s with host := v }⟩,
    ⟨"DIRSESS_PORT", fun v s => (Decimal.readWord 16 v).map fun n => { s with port := n }⟩,
    ⟨"DIRSESS_ALLOW_ANONYMOUS", fun v s =>
      (readFlag v).map fun b => { s with allowAnonymous := b }⟩,
    ⟨"DIRSESS_PROVIDER_URL", fun v s => some { s with providerUrl := v }⟩,
    ⟨"DIRSESS_MAX_LINE_BYTES", fun v s =>
      (Decimal.readSizeWithin leastLineBytes (16 * 1024 * 1024) v).map fun n =>
        { s with maxLineBytes := n }⟩,
    ⟨"DIRSESS_MAX_OUTSTANDING", fun v s =>
      (Decimal.readSizeWithin 1 100000 v).map fun n => { s with maxOutstanding := n }⟩,
    ⟨"DIRSESS_OPERATION_DELAY_MS", fun v s =>
      (Decimal.readCountWithin 0 600000 v).map fun n => { s with operationDelay := n }⟩,
    ⟨"DIRSESS_LOG_LEVEL", fun v s => some { s with logLevel := v }⟩,
    ⟨"DIRSESS_LOG_JSON", fun v s => (readFlag v).map fun b => { s with logJson := b }⟩]

abbrev Environment := String → Option String

/-- Apply one variable.  An empty one counts as not set. -/
def applyOverride (env : Environment) (acc : Settings × List Rejected) (o : Override) :
    Settings × List Rejected :=
  match env o.key with
  | none => acc
  | some v =>
    if v.isEmpty then acc
    else match o.apply v acc.1 with
      | some s => (s, acc.2)
      | none => (acc.1, acc.2 ++ [⟨o.key, v⟩])

/-- Apply all variables; those that are ignored are returned in order. -/
def applyOverrides (env : Environment) (s : Settings) : Settings × List Rejected :=
  overrides.foldl (applyOverride env) (s, [])

/-! ## Loading -/

/-- What is found where the settings file should be. -/
inductive FileContent where
  | missing
  | text (s : String)
  | unreadable (e : FileError)

def FileContent.ofBytes (bytes : ByteArray) : FileContent :=
  match String.fromUTF8? bytes with
  | some s => .text s
  | none => .unreadable .notText

/-- The defaults as a free-form object. -/
def lowestLayer : Value := .object (Members.ofList default.toMembers)

/-- The layers below the environment, as one value. -/
def mergedLayers : FileContent → Except SettingsError Value
  | .missing => .ok lowestLayer
  | .unreadable e => .error (.file e)
  | .text s => match readText s (·.readValue 0) with
    | .ok v => .ok (lowestLayer.overlay v)
    | .error e => .error (.json e s)

/-- The settings in a file, over the defaults.  The layers are merged as free
values, so a value of the wrong type has no place in the text. -/
def ofFile (file : FileContent) : Except SettingsError Settings := do
  let v ← mergedLayers file
  (readFrom v ofNode).mapError fun e => .json e ""

/-- Load settings: the file over the defaults, then the environment. -/
def load (file : FileContent) (env : Environment) :
    Except SettingsError (Settings × List Rejected) := do
  let s ← ofFile file
  let loaded := applyOverrides env s
  loaded.1.validate
  return loaded

/-! ## The place of the file -/

/-- A name below a directory.  A name below nothing stands for itself. -/
def below (dir name : String) : String :=
  if dir.isEmpty then name
  else if dir.toList.getLast? = some '/' then dir ++ name
  else dir ++ "/" ++ name

/-- Where the settings file is, given the home directory, if there is one. -/
def path (home : Option String) : String :=
  below (below (home.getD "/tmp") ".dirsess") "settings.json"

end Settings

end DirectorySessions
