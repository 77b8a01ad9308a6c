/-
# The backend

What carries out searches and identity queries.  A backend takes its time,
and may or may not heed a cancellation while it does; what it comes to is
fixed when it starts.

The directory itself is a stand-in: it knows its root entry, and answers any
other search with one entry that repeats what was asked and by whom.
-/
import DirectorySessions.Request
import DirectorySessions.Context

namespace DirectorySessions

open Json

/-- What an operation came to. -/
inductive Outcome where
  | entries (es : List Value)
  | identity (name : String)
  | cancelled
  | failed (message : String)
deriving BEq, Inhabited

inductive Backend where
  /-- The directory, which takes so many milliseconds for an answer and stops
  when it is cancelled. -/
  | directory (delay : Nat)
  /-- Fails at once, with the operation's name before a message. -/
  | failing (message : String)
  /-- Gives up at once. -/
  | quitting
  /-- Finds nothing, at once. -/
  | empty
  /-- Waits until it is cancelled. -/
  | waiting
  /-- Takes its time, heeds no cancellation, and answers with its own name. -/
  | stubborn (delay : Nat)
deriving DecidableEq, Inhabited

/-- An operation under way: how long it takes, if it ends by itself at all;
whether it stops when it is cancelled; and what it comes to if it does not. -/
structure Work where
  duration : Option Nat
  heeds : Bool
  outcome : Outcome
deriving BEq, Inhabited

namespace Backend

/-- The entry at the root, by which clients find out what the directory holds. -/
def rootEntry (providerUrl : String) : Value :=
  .object [("dn", .string ""), ("namingContexts", .array [.string providerUrl]),
    ("supportedControl",
      .array [.string "1.2.840.113556.1.4.319", .string "2.16.840.1.113730.3.4.2"]),
    ("supportedLDAPVersion", .array [.string "3"])]

/-- What is searched for when a search does not say. -/
def anything : String := "(objectClass=*)"

/-- The one entry below the root that a search finds. -/
def foundEntry (base : String) (filter : Option String) (reader : String) : Value :=
  .object [("dn", .string base), ("filter", .string (filter.getD anything)),
    ("readBy", .string reader)]

/-- The answer of the directory under a context. -/
def answer (op : Operation) (c : SecurityContext) : Outcome :=
  match op with
  | .search base filter =>
    if op.isRootDiscovery then .entries [rootEntry c.providerUrl]
    else .entries [foundEntry base filter c.identity.name]
  | .whoami => .identity c.identity.name
  | op => .failed (op.name ++ " is not executed by the backend")

/-- What a backend does with an operation under a context. -/
def start (b : Backend) (op : Operation) (c : SecurityContext) : Work :=
  match b with
  | .directory delay => ⟨some delay, true, answer op c⟩
  | .failing message => ⟨some 0, false, .failed (op.name ++ " " ++ message)⟩
  | .quitting => ⟨some 0, false, .cancelled⟩
  | .empty => ⟨some 0, false, .entries []⟩
  | .waiting => ⟨none, true, .cancelled⟩
  | .stubborn delay => ⟨some delay, false, .identity "stubborn"⟩

end Backend

namespace Work

/-- When an operation ends that is cancelled at some time, or never, and what
it comes to.  It has no end if it waits for a cancellation that never comes. -/
def finish (w : Work) (cancelledAt : Option Nat) : Option (Nat × Outcome) :=
  let stop := if w.heeds then cancelledAt else none
  match stop, w.duration with
  | some c, some d =>
    if c = 0 then some (0, .cancelled)
    else if c < d then some (c, .cancelled)
    else some (d, w.outcome)
  | some c, none => some (c, .cancelled)
  | none, some d => some (d, w.outcome)
  | none, none => none

end Work

end DirectorySessions
