/-
# Scenes

A scene is a registry together with names for handles, tokens and contexts,
and the notes of the callbacks that have run.  Actions are carried out on
scenes, and each gives a reply.  This file has the actions that take a
single step; see `Registry/Cancellation.lean` for the others.

A name that is given again refers to the new thing from then on.
-/
import DirectorySessions.Registry.Basic

namespace DirectorySessions

/-- Names for what actions refer to. -/
structure Names where
  handles : Table String HandleId
  tokens : Table String TokenId
  contexts : Table String SharedContext

def Names.none : Names := ⟨∅, ∅, ∅⟩

/-- How a reply refers to a handle: by its name, or, if it has none, by its
operation and the request's number. -/
inductive HandleLabel where
  | named (name : String)
  | unnamed (operation : String) (id : RequestId)

/-- How a reply refers to a context. -/
inductive ContextLabel where
  | named (name : String)
  | fresh

inductive AbandonOutcome where
  | abandoned
  | notFound
  | notCancellable
deriving DecidableEq

structure HandleInfo where
  handle : Handle
  tokenFired : Bool
  context : Option ContextLabel

inductive Reply where
  | nothing
  | accepted
  | truth (b : Bool)
  | number (n : Nat)
  | found (handle : Option HandleLabel)
  | listed (handles : List (RequestId × HandleLabel))
  | abandon (outcome : AbandonOutcome)
  | cancel (result : CancelResult)
  | context (content : SecurityContext) (label : ContextLabel)
  | replaced (label : Option ContextLabel)
  | removed (label : Option ContextLabel)
  | info (i : HandleInfo)
  | config (c : RegistryConfig)
  | refused (e : RegistryError)

/-- The note of a callback that has run: whose it was, the request it was
told, whether the handle's token was cancelled when it began, and the replies
to its actions. -/
structure CallbackNote where
  owner : String
  id : RequestId
  tokenFired : Bool
  replies : List Reply

/-- A registry with names, and the notes of its callbacks, latest first. -/
structure Scene where
  registry : Registry
  names : Names
  notes : List CallbackNote

namespace Scene

def new (r : Registry) : Scene := ⟨r, .none, []⟩

def withRegistry (w : Scene) (r : Registry) : Scene := { w with registry := r }

def leastName (names : List String) : Option String :=
  names.foldl (fun best n => match best with
    | none => some n
    | some b => if n < b then some n else some b) none

/-- How to refer to a handle. -/
def label (w : Scene) (h : HandleId) : HandleLabel :=
  match leastName ((w.names.handles.entries.filter (·.2 = h)).map (·.1)) with
  | some n => .named n
  | none => match w.registry.handle? h with
    | some x => .unnamed x.operation x.requestId
    | none => .unnamed "" .zero

/-- How to refer to a context. -/
def contextLabel (w : Scene) (c : SharedContext) : ContextLabel :=
  match leastName ((w.names.contexts.entries.filter (·.2.serial = c.serial)).map (·.1)) with
  | some n => .named n
  | none => .fresh

/-- Name a context, if it is to be named. -/
def nameContext (w : Scene) (name : Option String) (c : SharedContext) : Scene :=
  match name with
  | some n => { w with names := { w.names with contexts := w.names.contexts.insert n c } }
  | none => w

def nameToken (w : Scene) (name : Option String) (t : TokenId) : Scene :=
  match name with
  | some n => { w with names := { w.names with tokens := w.names.tokens.insert n t } }
  | none => w

/-- The token of a name; it is made on first use. -/
def tokenOf (w : Scene) (name : String) : TokenId × Scene :=
  match w.names.tokens.get? name with
  | some t => (t, w)
  | none => (.named name, w.nameToken (some name) (.named name))

def handleOf? (w : Scene) (name : String) : Option HandleId := w.names.handles.get? name

/-- Make a handle and name it. -/
def makeHandle (w : Scene) (spec : HandleSpec) (script : List Action) : Scene :=
  let (token, w) := match spec.token with
    | some name => let (t, w) := w.tokenOf name; (some t, w)
    | none => (none, w)
  let callback := spec.ending.map fun e => ⟨spec.name, script, e⟩
  let context := spec.context.bind w.names.contexts.get?
  let (h, r) := w.registry.makeHandle spec.requestId spec.operation spec.cancellable token
    callback context
  { w with
    registry := r
    names := { w.names with handles := w.names.handles.insert spec.name h } }

def infoOf (w : Scene) (h : HandleId) : Reply :=
  match w.registry.handle? h with
  | some x => .info ⟨x, w.registry.isCancelled x.token, x.context.map w.contextLabel⟩
  | none => .nothing

/-- The reply to a request for a context, which is then named. -/
def replyContext (w : Scene) (name : Option String) (c : SharedContext) : Scene × Reply :=
  (w.nameContext name c, .context c.content (w.contextLabel c))

/-- Carry out an action that cancels nothing; the others are left to
`Registry/Cancellation.lean`. -/
def answer? (w : Scene) (a : Action) : Option (Scene × Reply) :=
  let r := w.registry
  match a with
  | .setFlag allowed =>
    some (w.withRegistry { r with anonymousAllowed := allowed }, .truth allowed)
  | .makeContext name content =>
    let (c, r) := r.share content
    some ((w.withRegistry r).nameContext (some name) c, .nothing)
  | .makeHandle spec script => some (w.makeHandle spec script, .nothing)
  | .inspect h => some (w, ((w.handleOf? h).map w.infoOf).getD .nothing)
  | .same a b => some (w, .truth (w.handleOf? a = w.handleOf? b))
  | .cancelToken name =>
    let (t, w) := w.tokenOf name
    some (w.withRegistry (w.registry.cancelToken t), .nothing)
  | .register s id name => match w.handleOf? name with
    | none => some (w, .nothing)
    | some h => match r.register s id h with
      | .ok r => some (w.withRegistry r, .accepted)
      | .error e => some (w, .refused e)
  | .complete s id => match r.complete s id with
    | some (h, r) => some (w.withRegistry r, .found (some (w.label h)))
    | none => some (w, .found none)
  | .lookup s id => some (w, .found ((r.lookup s id).map w.label))
  | .snapshot s =>
    some (w, .listed ((r.requestsOf s).entries.map fun e => (e.1, w.label e.2)))
  | .outstanding s => some (w, .number (r.outstanding s))
  | .getContext s controls allow name => match r.getContext s controls allow with
    | (.ok none, r) => some (w.withRegistry r, .nothing)
    | (.ok (some c), r) => some ((w.withRegistry r).replyContext name c)
    | (.error e, r) => some (w.withRegistry r, .refused e)
  | .getRootContext s controls name => match r.getRootContext s controls with
    | (.ok c, r) => some ((w.withRegistry r).replyContext name c)
    | (.error e, r) => some (w.withRegistry r, .refused e)
  | .setContext s name => match w.names.contexts.get? name with
    | none => some (w, .nothing)
    | some c =>
      some (w.withRegistry (r.setContext s c), .replaced ((r.contexts.get? s).map w.contextLabel))
  | .removeContext s =>
    some (w.withRegistry (r.dropContext s), .removed ((r.contexts.get? s).map w.contextLabel))
  | .anonymousAllowed => some (w, .truth r.anonymousAllowed)
  | .isBound s => some (w, .truth (r.isBound s))
  | .isEmpty => some (w, .truth (r.contexts.size = 0))
  | .openSession s name =>
    let (t, r) := r.openSession s
    some ((w.withRegistry r).nameToken name t, .nothing)
  | .authorizeBind _ anonymous => match r.authorizeBind anonymous with
    | (.ok (), r) => some (w.withRegistry r, .accepted)
    | (.error e, r) => some (w.withRegistry r, .refused e)
  | .showConfig => some (w, .config r.config)
  | .cancel _ | .abandon .. | .purge _ | .closeSession _ | .terminate _ | .shutdown => none

end Scene

end DirectorySessions
