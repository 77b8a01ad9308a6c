/-
# Cancelling, with callbacks that call back

Abandoning a request, purging, closing or terminating a session, shutting
down, and cancelling a handle outright all end in cancelling handles, and a
handle's callback may carry out any action before it returns, fails or
panics, this kind included.  So these actions are run by a machine that takes
one step at a time and keeps the callbacks that are under way on a stack.
Between any two steps the registry is in a state that a callback could see.

That the machine comes to an end is shown in `Registry/Progress.lean`.
-/
import DirectorySessions.Registry.Scene

namespace DirectorySessions

/-- What follows when the requests of a session are purged. -/
inductive Teardown where
  /-- Nothing. -/
  | purge
  /-- The session is closed. -/
  | close
  /-- The session is closed, at the server's wish. -/
  | terminate
  /-- The session is closed, then the other sessions are. -/
  | shutdown (pending : List SessionId) (closed : Nat)
  /-- The session, which nobody opened, is closed, then the others like it are. -/
  | sweep (pending : List SessionId) (closed : Nat)

/-- Why a handle is cancelled. -/
inductive Purpose where
  /-- Someone asked for it. -/
  | direct
  /-- The request is abandoned. -/
  | abandon
  /-- The session is purged; these are the handles still to be cancelled, and
  the number of those that were. -/
  | purge (session : SessionId) (pending : List HandleId) (count : Nat) (next : Teardown)

/-- What the machine is about to do. -/
inductive Task where
  | perform (a : Action)
  | cancel (h : HandleId) (why : Purpose)
  | cancelled (result : CancelResult) (why : Purpose)
  | purge (session : SessionId) (next : Teardown)
  | purging (session : SessionId) (pending : List HandleId) (count : Nat) (next : Teardown)
  | purged (session : SessionId) (count : Nat) (next : Teardown)
  | shuttingDown (pending : List SessionId) (closed : Nat)
  | sweeping (pending : List SessionId) (closed : Nat)
  | reply (r : Reply)

/-- A callback that is under way: why its handle is cancelled, the callback,
the request it was told, whether the token was cancelled when it began, the
actions that it has left, and the replies so far, latest first. -/
structure Level where
  why : Purpose
  callback : Callback
  id : RequestId
  tokenFired : Bool
  pending : List Action
  replies : List Reply

/-- A scene, what is done next, and the callbacks under way, innermost first. -/
structure Machine where
  scene : Scene
  task : Task
  levels : List Level

namespace Machine

def noteOf (l : Level) : CallbackNote :=
  ⟨l.callback.owner, l.id, l.tokenFired, l.replies.reverse⟩

/-- Go on with a callback: carry out its next action, or end it. -/
def proceed (w : Scene) (l : Level) (outer : List Level) : Machine :=
  match l.pending with
  | a :: as => ⟨w, .perform a, { l with pending := as } :: outer⟩
  | [] =>
    ⟨{ w with notes := noteOf l :: w.notes }, .cancelled l.callback.ending.result l.why, outer⟩

def begin (w : Scene) (a : Action) (levels : List Level) : Machine :=
  match a with
  | .cancel name => match w.handleOf? name with
    | some h => ⟨w, .cancel h .direct, levels⟩
    | none => ⟨w, .reply .nothing, levels⟩
  | .abandon s id => match w.registry.beginAbandon s id with
    | .notFound => ⟨w, .reply (.abandon .notFound), levels⟩
    | .notCancellable => ⟨w, .reply (.abandon .notCancellable), levels⟩
    | .taken h r => ⟨w.withRegistry r, .cancel h .abandon, levels⟩
  | .purge s => ⟨w, .purge s .purge, levels⟩
  | .closeSession s => ⟨w, .purge s .close, levels⟩
  | .terminate s => match w.registry.signalClose? s with
    | some r => ⟨w.withRegistry r, .purge s .terminate, levels⟩
    | none => ⟨w, .reply (.truth false), levels⟩
  | .shutdown => ⟨w, .shuttingDown w.registry.openSessions 0, levels⟩
  | _ => ⟨w, .reply .nothing, levels⟩

/-- Cancel a handle: nothing happens if it fired before; otherwise it fires,
and its callback starts. -/
def cancelHandle (w : Scene) (h : HandleId) (why : Purpose) (levels : List Level) : Machine :=
  match w.registry.handle? h with
  | none => ⟨w, .cancelled .already why, levels⟩
  | some x =>
    if x.fired then ⟨w, .cancelled .already why, levels⟩
    else
      let r := w.registry.fire h
      let w := w.withRegistry r
      match x.callback with
      | none => ⟨w, .cancelled .fired why, levels⟩
      | some c => proceed w ⟨why, c, x.requestId, r.isCancelled x.token, c.script, []⟩ levels

/-- Go on after a handle was cancelled. -/
def afterCancel (w : Scene) (result : CancelResult) (why : Purpose) (levels : List Level) :
    Machine :=
  match why with
  | .direct => ⟨w, .reply (.cancel result), levels⟩
  | .abandon => ⟨w.withRegistry w.registry.endAbandon, .reply (.abandon .abandoned), levels⟩
  | .purge s pending count next =>
    ⟨w, .purging s pending (if result.counts then count + 1 else count) next, levels⟩

/-- Go on after a session's requests were purged. -/
def afterPurge (w : Scene) (s : SessionId) (count : Nat) (next : Teardown)
    (levels : List Level) : Machine :=
  match next with
  | .purge => ⟨w, .reply (.number count), levels⟩
  | .close => ⟨w.withRegistry (w.registry.forget s), .reply (.number count), levels⟩
  | .terminate => ⟨w.withRegistry (w.registry.forget s), .reply (.truth true), levels⟩
  | .shutdown pending closed =>
    ⟨w.withRegistry (w.registry.forget s), .shuttingDown pending (closed + 1), levels⟩
  | .sweep pending closed =>
    ⟨w.withRegistry (w.registry.forget s), .sweeping pending closed, levels⟩

/-- Take one step.  A machine that has its reply and no callback under way
has come to its end. -/
def step (m : Machine) : Option Machine :=
  let w := m.scene
  match m.task with
  | .perform a => match w.answer? a with
    | some (w, r) => some ⟨w, .reply r, m.levels⟩
    | none => some (begin w a m.levels)
  | .cancel h why => some (cancelHandle w h why m.levels)
  | .cancelled result why => some (afterCancel w result why m.levels)
  | .purge s next => match w.registry.beginPurge s with
    | some (hs, r) => some ⟨w.withRegistry r, .purging s hs 0 next, m.levels⟩
    | none => some ⟨w, .purged s 0 next, m.levels⟩
  | .purging s pending count next => match pending with
    | h :: hs => some ⟨w, .cancel h (.purge s hs count next), m.levels⟩
    | [] => some ⟨w.withRegistry (w.registry.endPurge s count), .purged s count next, m.levels⟩
  | .purged s count next => some (afterPurge w s count next m.levels)
  | .shuttingDown pending closed => match pending with
    | s :: ss => match w.registry.signalClose? s with
      | some r => some ⟨w.withRegistry r, .purge s (.shutdown ss closed), m.levels⟩
      | none => some ⟨w, .shuttingDown ss closed, m.levels⟩
    | [] => some ⟨w, .sweeping w.registry.sessionsWithMap closed, m.levels⟩
  | .sweeping pending closed => match pending with
    | s :: ss => some ⟨w, .purge s (.sweep ss closed), m.levels⟩
    | [] => some ⟨w, .reply (.number closed), m.levels⟩
  | .reply r => match m.levels with
    | [] => none
    | l :: ls => some (proceed w { l with replies := r :: l.replies } ls)

end Machine

end DirectorySessions
