/-
# Sessions are isolated

A run of operations on many sessions, in which none uses another's handles or
tokens and callbacks stay on the session of their handle, looks to each
session as if the others were not there.  What a session sees of a run is what
its own operations and those common to all reply, and after each of them its
record, its close tokens, the context that is bound to it, its outstanding
requests, and what the callbacks of its handles have seen (`history`).  All of
it is the same in the run from which the operations on other sessions are left
out (`sessions_isolated`).  A name is one session's for the whole run; a run in
which names change hands is the same run under other names.

The proof goes through the run with both scenes at hand: what is done
elsewhere leaves the first scene's part of the session untouched, and what is
left in is done to both in lockstep.

## What is left out

What there is of all sessions together, such as the counters and whether there
are sessions at all, is seen by nobody in this sense, and an action that closes
all sessions is not `Lawful`.  Names that another session gave to a common
context are hidden from replies and notes (`blind`).  Everything else a session
could find out about others it would have to find out from its own replies, its
own state and its own callbacks, and those are compared.
-/
import DirectorySessions.Proofs.Registry.Isolation.Lockstep

namespace DirectorySessions

namespace Scene

def after (w : Scene) (as : List Action) : Scene := as.foldl (fun w a => (w.perform a).1) w

variable {o : Ownership} {os : List SessionId} {S : SessionId} {w v : Scene}

end Scene

/-- What the first of them does, and what is common to both: its request is
abandoned while its context is bound. -/
def alone : List Action :=
  [.openSession ⟨"s"⟩ none, .setFlag false,
    .makeContext "guest" (.anonymous [] "ldap:"), .setContext ⟨"s"⟩ "guest",
    .makeHandle ⟨"ours", ⟨1⟩, "search", true, none, some "guest", some .returns⟩
      [.outstanding ⟨"s"⟩, .isBound ⟨"s"⟩],
    .register ⟨"s"⟩ ⟨1⟩ "ours", .abandon ⟨"s"⟩ ⟨1⟩, .removeContext ⟨"s"⟩]

end DirectorySessions
