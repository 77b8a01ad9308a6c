/-
# The registry

Three tables keyed by session: the records of open sessions with their close
tokens, the bound contexts, and the outstanding requests; besides these the
counters, the anonymous-access switch, and the handles and tokens that were
made.  Every operation in this file is a single step.  The ones that cancel
handles, and so may call back, are in `Registry/Cancellation.lean`, and are
composed of steps given here.

While a session is purged its request map is marked as closing and is empty:
nothing can be registered on the session, and nothing is found on it.
-/
import DirectorySessions.Registry.Handle
import DirectorySessions.Registry.Stats
import DirectorySessions.Table

namespace DirectorySessions

/-- The outstanding requests of a session. -/
inductive RequestMap where
  | accepting (handles : Table RequestId HandleId)
  | closing

def RequestMap.handles : RequestMap → Table RequestId HandleId
  | .accepting hs => hs
  | .closing => ∅

structure Registry where
  config : RegistryConfig
  anonymousAllowed : Bool
  /-- The close token of each open session. -/
  records : Table SessionId TokenId
  contexts : Table SessionId SharedContext
  requests : Table SessionId RequestMap
  stats : Stats
  /-- All handles ever made, in the order of their making. -/
  handles : List Handle
  /-- The tokens that were cancelled. -/
  cancelled : List TokenId
  /-- How often each session was opened. -/
  openings : Table SessionId Nat
  /-- How many contexts were made. -/
  contextsMade : Nat

namespace Registry

def new (config : RegistryConfig) (anonymousAllowed : Bool) : Registry :=
  ⟨config, anonymousAllowed, ∅, ∅, ∅, .zero, [], [], ∅, 0⟩

/-! ## Tokens and handles -/

def cancelToken (r : Registry) (t : TokenId) : Registry :=
  if t ∈ r.cancelled then r else { r with cancelled := t :: r.cancelled }

def isCancelled (r : Registry) (t : TokenId) : Bool := decide (t ∈ r.cancelled)

def handle? (r : Registry) (h : HandleId) : Option Handle := r.handles[h.index]?

def nextHandle (r : Registry) : HandleId := ⟨r.handles.length⟩

/-- Make a handle.  Without a token it gets one of its own. -/
def makeHandle (r : Registry) (requestId : RequestId) (operation : String)
    (cancellable : Bool) (token : Option TokenId) (callback : Option Callback)
    (context : Option SharedContext) : HandleId × Registry :=
  let id := r.nextHandle
  (id, { r with
    handles := r.handles ++
      [⟨requestId, operation, cancellable, token.getD (.own id), callback, context, false⟩] })

/-- Mark a handle as fired and cancel its token; nothing if it had fired. -/
def fire (r : Registry) (h : HandleId) : Registry :=
  match r.handle? h with
  | some x =>
    if x.fired then r
    else { r.cancelToken x.token with
      handles := r.handles.set h.index { x with fired := true } }
  | none => r

/-! ## Sessions -/

/-- Record an accepted connection.  The token fires when the session is closed. -/
def openSession (r : Registry) (s : SessionId) : TokenId × Registry :=
  let n := (r.openings.get? s).getD 0
  let token := TokenId.close s n
  (token, { r with
    records := r.records.insert s token
    openings := r.openings.insert s (n + 1)
    stats := r.stats.countOpened })

/-- Fire the close token of an open session, and keep its record. -/
def signalClose? (r : Registry) (s : SessionId) : Option Registry :=
  (r.records.get? s).map r.cancelToken

def dropContext (r : Registry) (s : SessionId) : Registry :=
  { r with contexts := r.contexts.erase s }

/-- Drop the record of a session, if it has one, and fire its close token. -/
def dropRecord (r : Registry) (s : SessionId) : Registry :=
  match r.records.get? s with
  | some token =>
    let r := r.cancelToken token
    { r with records := r.records.erase s, stats := r.stats.countClosed }
  | none => r

/-- Drop the context and the record of a session whose requests are purged. -/
def forget (r : Registry) (s : SessionId) : Registry := (r.dropContext s).dropRecord s

def openSessions (r : Registry) : List SessionId := r.records.keys

def sessionsWithMap (r : Registry) : List SessionId := r.requests.keys

/-! ## Outstanding requests -/

def requestsOf (r : Registry) (s : SessionId) : Table RequestId HandleId :=
  ((r.requests.get? s).map RequestMap.handles).getD ∅

def outstanding (r : Registry) (s : SessionId) : Nat := (r.requestsOf s).size

def isClosing (r : Registry) (s : SessionId) : Bool :=
  match r.requests.get? s with
  | some .closing => true
  | _ => false

def setRequests (r : Registry) (s : SessionId) (hs : Table RequestId HandleId) : Registry :=
  { r with requests := r.requests.insert s (.accepting hs) }

/-- Register a request under a number; one that is outstanding under the same
number is replaced.  A session that is being purged accepts none. -/
def register (r : Registry) (s : SessionId) (id : RequestId) (h : HandleId) :
    Except RegistryError Registry :=
  if r.isClosing s then .error (.sessionClosing s)
  else
    let r := r.setRequests s ((r.requestsOf s).insert id h)
    .ok { r with stats := r.stats.countRegistered }

def lookup (r : Registry) (s : SessionId) (id : RequestId) : Option HandleId :=
  (r.requestsOf s).get? id

/-- Take a finished request out. -/
def complete (r : Registry) (s : SessionId) (id : RequestId) : Option (HandleId × Registry) :=
  (r.lookup s id).map fun h =>
    let r := r.setRequests s ((r.requestsOf s).erase id)
    (h, { r with stats := r.stats.countCompleted })

/-- How abandoning a request begins. -/
inductive AbandonStart where
  | notFound
  | notCancellable
  /-- The request is out of the table and remains to be cancelled. -/
  | taken (h : HandleId) (r : Registry)

/-- Take a request out in order to cancel it. -/
def beginAbandon (r : Registry) (s : SessionId) (id : RequestId) : AbandonStart :=
  match r.lookup s id with
  | none => .notFound
  | some h =>
    if ((r.handle? h).map Handle.cancellable).getD false then
      .taken h (r.setRequests s ((r.requestsOf s).erase id))
    else .notCancellable

/-- Count an abandoned request. -/
def endAbandon (r : Registry) : Registry := { r with stats := r.stats.countAbandoned }

/-- Mark a session as closing and take its requests out in order to cancel
them, unless it owns no map or is being purged already. -/
def beginPurge (r : Registry) (s : SessionId) : Option (List HandleId × Registry) :=
  match r.requests.get? s with
  | some (.accepting hs) =>
    some (hs.values, { r with requests := r.requests.insert s .closing })
  | _ => none

/-- Let go of the map of a purged session, whose requests are all cancelled. -/
def endPurge (r : Registry) (s : SessionId) (count : Nat) : Registry :=
  { r with requests := r.requests.erase s, stats := r.stats.countPurged count }

/-! ## Contexts -/

/-- Give a context an identity of its own. -/
def share (r : Registry) (c : SecurityContext) : SharedContext × Registry :=
  (⟨r.contextsMade, c⟩, { r with contextsMade := r.contextsMade + 1 })

/-- Count a client that was turned away. -/
def noteDenied (r : Registry) (e : RegistryError) : Registry :=
  match e with
  | .accessDenied _ => { r with stats := r.stats.countDenied }
  | _ => r

/-- A fresh context for a session that has none. -/
def freshContext (r : Registry) (controls : List Control) :
    Except RegistryError (SharedContext × Registry) :=
  (r.config.anonymousContext controls).map r.share

/-- The context of an ordinary operation: the bound one, or else a fresh one
if the caller can do with that.  Neither passes the gate when it is anonymous
and anonymous access is switched off. -/
def getContext? (r : Registry) (s : SessionId) (controls : List Control)
    (allowAnonymous : Bool) : Except RegistryError (Option SharedContext × Registry) :=
  match r.contexts.get? s with
  | some c => do
    let _ ← Access.enforce c.content.isAnonymous r.anonymousAllowed false
    return (some c, r)
  | none =>
    if !allowAnonymous then .ok (none, r)
    else do
      let _ ← Access.enforce true r.anonymousAllowed false
      let (c, r) ← r.freshContext controls
      return (some c, r)

/-- The context of an ordinary operation; who is turned away is counted. -/
def getContext (r : Registry) (s : SessionId) (controls : List Control)
    (allowAnonymous : Bool) : Except RegistryError (Option SharedContext) × Registry :=
  match r.getContext? s controls allowAnonymous with
  | .ok (c, r) => (.ok c, r)
  | .error e => (.error e, r.noteDenied e)

/-- The context for discovering the root, which needs no leave. -/
def getRootContext (r : Registry) (s : SessionId) (controls : List Control) :
    Except RegistryError SharedContext × Registry :=
  match r.contexts.get? s with
  | some c => (.ok c, r)
  | none => match r.freshContext controls with
    | .ok (c, r) => (.ok c, r)
    | .error e => (.error e, r)

def setContext (r : Registry) (s : SessionId) (c : SharedContext) : Registry :=
  { r with contexts := r.contexts.insert s c }

def isBound (r : Registry) (s : SessionId) : Bool := r.contexts.contains s

/-- The gate for an explicit bind. -/
def authorizeBind (r : Registry) (anonymous : Bool) : Except RegistryError Unit × Registry :=
  match Access.enforce anonymous r.anonymousAllowed false with
  | .ok _ => (.ok (), r)
  | .error e => (.error e, r.noteDenied e)

/-! ## What there is to see -/

/-- An open session, whether it is bound, and its outstanding requests. -/
structure SessionInfo where
  id : SessionId
  bound : Bool
  outstanding : Nat

def listSessions (r : Registry) : List SessionInfo :=
  r.openSessions.map fun s => ⟨s, r.isBound s, r.outstanding s⟩

def boundSessions (r : Registry) : List SessionId := r.contexts.keys

end Registry

end DirectorySessions
