/-
# Connections

A connection reads one request after the other.  Binds, abandons and unbinds
it settles at once; searches and identity queries it registers and hands to
the backend as jobs, which finish in any order.  A job answers its client if
its number is still outstanding when it finishes; if the request was
abandoned meanwhile, it answers nobody.

A bind has two halves.  First its request is registered, which others can
see; then the gate and the factory are asked, the request is taken out again
and the client is answered.  `bind` is one half after the other.  As jobs run
beside the connection, something may come between the two, and so each half
is a function of its own, and the connection has a place for a bind that is
under way.

Whatever ends the reading, the session is closed at that moment.  Jobs that
are still running go on until they notice.

Every function here is one thing that happens to a connection; which happens
when is for the server to choose (`Exchange.lean`).
-/
import DirectorySessions.Backend
import DirectorySessions.Connection.LineReader
import DirectorySessions.Registry.Progress
import DirectorySessions.Request.Reader
import DirectorySessions.Response

namespace DirectorySessions

/-- What all connections share, besides the registry. -/
structure Services where
  /-- Builds the contexts of explicit binds. -/
  factory : ContextFactory
  backend : Backend
  maxOutstanding : Nat
  maxLineBytes : Nat

/-- An operation in the hands of the backend. -/
structure Job where
  handle : HandleId
  id : RequestId
  operation : Operation
  context : SharedContext
  work : Work

/-- A bind that is registered and waits to be settled. -/
structure PendingBind where
  handle : HandleId
  id : RequestId
  credentials : Credentials
  controls : List Control

/-- A connection: its session, the token that tells it to close, whether it
still reads, its jobs in the order in which they began, the responses it has
given so far, in order, and the bind that is under way, if one is. -/
structure Connection where
  session : SessionId
  close : TokenId
  reading : Bool
  jobs : List Job
  responses : List Response
  pending : Option PendingBind

namespace Response

def ofRefusal (id : RequestId) : RegistryError → Response
  | .accessDenied reason => .denied id reason
  | e => .error id e.message

def ofOutcome (id : RequestId) : Outcome → Response
  | .entries es => (success id).withEntries es
  | .identity name => (success id).withIdentity name
  | .cancelled => withStatus id .cancelled "operation cancelled"
  | .failed message => error id message

end Response

namespace Connection

def accept (w : Scene) (s : SessionId) : Scene × Connection :=
  let (t, r) := w.registry.openSession s
  (w.withRegistry r, ⟨s, t, true, [], [], none⟩)

def respond (c : Connection) (r : Response) : Connection :=
  { c with responses := c.responses ++ [r] }

/-! ## Binds -/

/-- The context that credentials are good for, if the gate and the factory
let them pass. -/
def clearBind (sv : Services) (r : Registry) (credentials : Credentials)
    (controls : List Control) : Except RegistryError SecurityContext × Registry :=
  match r.authorizeBind credentials.isAnonymous with
  | (.error e, r) => (.error e, r)
  | (.ok (), r) => ((sv.factory controls credentials).mapError .contextCreationFailed, r)

/-- Take a request out, whether it is there or not. -/
def release (r : Registry) (s : SessionId) (id : RequestId) : Registry :=
  match r.complete s id with
  | some (_, r) => r
  | none => r

/-- Register a bind.  It cannot be abandoned while it is under way. -/
def registerBind (r : Registry) (s : SessionId) (id : RequestId) (credentials : Credentials)
    (controls : List Control) : Except Response PendingBind × Registry :=
  let (h, r) := r.makeHandle id OperationKind.bind.name false none none none
  match r.register s id h with
  | .error e => (.error (.ofRefusal id e), r)
  | .ok r => (.ok ⟨h, id, credentials, controls⟩, r)

/-- Carry out a bind that is registered, and take its request out. -/
def settleBind (sv : Services) (r : Registry) (s : SessionId) (b : PendingBind) :
    Response × Registry :=
  match clearBind sv r b.credentials b.controls with
  | (.error e, r) => (.ofRefusal b.id e, release r s b.id)
  | (.ok content, r) =>
    let (c, r) := (release r s b.id).share content
    ((Response.success b.id).withIdentity content.identity.name, r.setContext s c)

def bind (sv : Services) (r : Registry) (s : SessionId) (id : RequestId)
    (credentials : Credentials) (controls : List Control) : Response × Registry :=
  match registerBind r s id credentials controls with
  | (.error a, r) => (a, r)
  | (.ok b, r) => settleBind sv r s b

/-! ## Operations for the backend -/

/-- The context under which an operation runs.  Discovery of the root needs
no leave. -/
def contextFor (r : Registry) (s : SessionId) (op : Operation) (controls : List Control) :
    Except RegistryError (Option SharedContext) × Registry :=
  if op.isRootDiscovery then
    match r.getRootContext s controls with
    | (.ok c, r) => (.ok (some c), r)
    | (.error e, r) => (.error e, r)
  else r.getContext s controls true

/-- Hand an operation to the backend, or say why not. -/
def launch (sv : Services) (r : Registry) (s : SessionId) (q : Request) :
    Except Response Job × Registry :=
  if sv.maxOutstanding ≤ r.outstanding s then (.error (.busy q.id), r)
  else match contextFor r s q.operation q.controls with
    | (.error e, r) => (.error (.ofRefusal q.id e), r)
    | (.ok none, r) => (.error (.denied q.id "bind required"), r)
    | (.ok (some c), r) =>
      let (h, r) := r.makeHandle q.id q.operation.name true none none (some c)
      match r.register s q.id h with
      | .error e => (.error (.ofRefusal q.id e), r)
      | .ok r => (.ok ⟨h, q.id, q.operation, c, sv.backend.start q.operation c.content⟩, r)

/-! ## What can happen -/

/-- Stop reading, and close the session. -/
def leave (w : Scene) (c : Connection) : Scene × Connection :=
  ((w.perform (.closeSession c.session)).1, { c with reading := false })

/-- What a client is told whose number is taken. -/
def taken (id : RequestId) : Response :=
  .error id ("request " ++ id.text ++ " already outstanding")

/-- Serve a request. -/
def serve (sv : Services) (w : Scene) (c : Connection) (q : Request) : Scene × Connection :=
  match q.operation with
  | .unbind => leave w c
  | .abandon target => ((w.perform (.abandon c.session target)).1, c)
  | op =>
    if (w.registry.lookup c.session q.id).isSome then (w, c.respond (taken q.id))
    else match op with
      | .bind dn password =>
        let (a, r) := bind sv w.registry c.session q.id (.ofBind dn password) q.controls
        (w.withRegistry r, c.respond a)
      | _ => match launch sv w.registry c.session q with
        | (.ok job, r) => (w.withRegistry r, { c with jobs := c.jobs ++ [job] })
        | (.error a, r) => (w.withRegistry r, c.respond a)

def settle (sv : Services) (w : Scene) (c : Connection) (b : PendingBind) : Scene × Connection :=
  let (a, r) := settleBind sv w.registry c.session b
  (w.withRegistry r, { c with pending := none }.respond a)

/-- What a client is told whose line is no request. -/
def malformed (line : String) (e : Json.Error) : Response :=
  .error .zero ("malformed request: " ++ e.message line)

def tooLong : Response := .error .zero "request line too long"

/-- Take in what was read.  Blank lines are passed over. -/
def receive (sv : Services) (w : Scene) (c : Connection) : Input → Scene × Connection
  | .line s =>
    if Text.allBlank s then (w, c)
    else match Request.ofLine s with
      | .ok q => serve sv w c q
      | .error e => (w, c.respond (malformed s e))
  | .overlong => (w, c.respond tooLong)
  | .hangUp => leave w c

/-- The bind that begins with a line, and the registry in which it is
registered, if the line asks for one and it is not refused at once. -/
def beginBind? (w : Scene) (c : Connection) (t : String) : Option (PendingBind × Registry) :=
  if Text.allBlank t then none
  else match Request.ofLine t with
    | .ok ⟨id, .bind dn password, controls⟩ =>
      if (w.registry.lookup c.session id).isSome then none
      else match registerBind w.registry c.session id (.ofBind dn password) controls with
        | (.ok b, r) => some (b, r)
        | (.error _, _) => none
    | _ => none

/-- A job has come to an end.  It answers if a request is outstanding under
its number. -/
def finishJob (w : Scene) (c : Connection) (j : Job) (o : Outcome) : Scene × Connection :=
  let c := { c with jobs := c.jobs.filter fun x => !decide (x.handle = j.handle) }
  match w.registry.complete c.session j.id with
  | some (_, r) => (w.withRegistry r, c.respond (.ofOutcome j.id o))
  | none => (w, c)

/-- Is the connection ready for what is next, a line or the order to close?  It
is not while a bind is under way. -/
def listens (c : Connection) : Bool := c.reading && c.pending.isNone

def isTold (w : Scene) (c : Connection) : Bool := w.registry.isCancelled c.close

def isCancelled (w : Scene) (j : Job) : Bool := w.registry.isCancelled (.own j.handle)

end Connection

end DirectorySessions
