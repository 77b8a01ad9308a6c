/-
# Handles of outstanding requests

A handle stands for one operation that is under way.  Whoever cancels it does
three things, at most once in the handle's life: mark it as fired, cancel its
token (which the running operation watches), and run its callback.

A callback is given as data: the actions that it carries out on the registry,
which may cancel further handles, and how it ends.  Actions refer to
handles, tokens and contexts by names that are looked up when the action is
carried out.
-/
import DirectorySessions.Registry.Config

namespace DirectorySessions

/-- Which handle: its number in the order of their making. -/
structure HandleId where
  index : Nat
deriving DecidableEq, Inhabited

/-- Which cancellation token: it is known by what it was made for. -/
inductive TokenId where
  /-- The close token that a session got when it was opened for the `n`-th time. -/
  | close (session : SessionId) (n : Nat)
  /-- The token of a handle that was given none. -/
  | own (handle : HandleId)
  /-- A token made under a name. -/
  | named (name : String)
deriving DecidableEq

/-- A context, and which one it is: two contexts with the same content are
still two. -/
structure SharedContext where
  serial : Nat
  content : SecurityContext
deriving DecidableEq

inductive CallbackEnding where
  | returns
  | fails (detail : String)
  | panics (detail : Option String)
deriving DecidableEq

/-- What a cancellation came to. -/
inductive CancelResult where
  /-- It fired, and the callback, if there is one, returned. -/
  | fired
  /-- It had fired before. -/
  | already
  /-- It fired, and the callback failed. -/
  | failed (e : CancelError)
deriving DecidableEq

/-- What a panic is reported as that says nothing. -/
def unknownPanic : String := "unknown panic"

/-- What a cancellation comes to whose callback ends like this. -/
def CallbackEnding.result : CallbackEnding → CancelResult
  | .returns => .fired
  | .fails d => .failed (.failed d)
  | .panics d => .failed (.panicked (d.getD unknownPanic))

/-- Does the cancellation count as one? -/
def CancelResult.counts : CancelResult → Bool
  | .already => false
  | _ => true

structure HandleSpec where
  name : String
  requestId : RequestId
  operation : String
  cancellable : Bool
  token : Option String
  context : Option String
  /-- How the callback ends; absent if there is no callback. -/
  ending : Option CallbackEnding

inductive Action where
  | setFlag (allowed : Bool)
  | makeContext (name : String) (content : SecurityContext)
  | makeHandle (spec : HandleSpec) (script : List Action)
  | inspect (handle : String)
  | cancel (handle : String)
  | same (a b : String)
  | cancelToken (token : String)
  | register (session : SessionId) (id : RequestId) (handle : String)
  | complete (session : SessionId) (id : RequestId)
  | lookup (session : SessionId) (id : RequestId)
  | snapshot (session : SessionId)
  | outstanding (session : SessionId)
  | abandon (session : SessionId) (id : RequestId)
  | purge (session : SessionId)
  | getContext (session : SessionId) (controls : List Control) (allowAnonymous : Bool)
      (name : Option String)
  | getRootContext (session : SessionId) (controls : List Control) (name : Option String)
  | setContext (session : SessionId) (name : String)
  | removeContext (session : SessionId)
  | anonymousAllowed
  | isBound (session : SessionId)
  | isEmpty
  | openSession (session : SessionId) (token : Option String)
  | closeSession (session : SessionId)
  | terminate (session : SessionId)
  | shutdown
  | authorizeBind (session : SessionId) (anonymous : Bool)
  | showConfig

/-- A callback: whose it is, what it does, and how it ends. -/
structure Callback where
  owner : String
  script : List Action
  ending : CallbackEnding

structure Handle where
  requestId : RequestId
  operation : String
  cancellable : Bool
  token : TokenId
  callback : Option Callback
  context : Option SharedContext
  fired : Bool

def Handle.describe (h : Handle) : String :=
  let bool (b : Bool) : String := if b then "true" else "false"
  "RequestHandle \x7b request_id: " ++ h.requestId.describe ++ ", operation: " ++
    Text.quote h.operation ++ ", cancellable: " ++ bool h.cancellable ++ ", cancelled: " ++
    bool h.fired ++ " \x7d"

mutual

/-- How much an action can still set off: itself, and what the callbacks of
the handles that it makes can. -/
def Action.weight : Action → Nat
  | .makeHandle _ script => 2 + Action.scriptWeight script
  | _ => 1

/-- The weight of a script. -/
def Action.scriptWeight : List Action → Nat
  | [] => 0
  | a :: as => a.weight + Action.scriptWeight as

end

/-- What a handle can still set off: nothing once it has fired. -/
def Handle.weight (h : Handle) : Nat :=
  if h.fired then 0
  else match h.callback with
    | some c => 1 + Action.scriptWeight c.script
    | none => 0

end DirectorySessions
