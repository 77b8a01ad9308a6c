/-
# Clients and a server, in time

Several clients talk to one server.  Nothing happens by itself: a move (a
client connects, writes or goes away, time passes, or something is done to
the registry) is followed by everything that it brings about, and then all is
quiet until the next move.

What a move brings about happens in this order: the connections take in what
they can read, then their jobs start, stop or go on, then the responses are
written, and connections that have nothing left to do come to their end.  A
connection that has closed its session waits for its jobs, but no longer than
a second.  Alarms ring in the order of their times, and those of one time in
the order in which they were set.
-/
import DirectorySessions.Connection.Basic

namespace DirectorySessions

/-- Where a connection stands. -/
inductive Phase where
  | serving
  /-- The session is closed, and there may be jobs left. -/
  | lingering
  | finished
deriving DecidableEq

/-- A connection and its client. -/
structure Link where
  client : String
  connection : Connection
  reader : LineReader
  /-- Bytes that were written and not yet read. -/
  inbox : List UInt8
  /-- The client writes no more. -/
  silent : Bool
  /-- The client has gone away. -/
  gone : Bool
  /-- Responses are still written. -/
  writing : Bool
  /-- How many responses were written. -/
  written : Nat
  phase : Phase
  /-- The client has seen the end of what the server writes. -/
  sawEnd : Bool
  /-- The lines that the client received since the last move. -/
  received : List String

inductive Alarm where
  /-- The job of a handle is done. -/
  | job (link : Nat) (handle : HandleId)
  /-- A connection has lingered long enough. -/
  | linger (link : Nat)
deriving DecidableEq

/-- When an alarm rings, and what it is for. -/
abbrev Alarms := List (Nat × Alarm)

/-- Clients, the server, and the time in milliseconds.  The alarms are in the
order in which they were set. -/
structure Exchange where
  services : Services
  scene : Scene
  links : List Link
  now : Nat
  alarms : Alarms

def lingerTime : Nat := 1000

/-- What a client may do after it has written. -/
inductive Farewell where
  | stopWriting
  | goAway
deriving DecidableEq

inductive Move where
  | connect (client : String) (session : SessionId)
  | send (client : String) (bytes : List UInt8) (after : Option Farewell)
  | leave (client : String) (how : Farewell)
  | advance (ms : Nat)
  | act (a : Action)

inductive MoveReply where
  | nothing
  /-- Could the client write? -/
  | writable (b : Bool)
  | acted (r : Reply)

namespace Link

/-- A link whose connection was just accepted. -/
def fresh (client : String) (c : Connection) : Link :=
  ⟨client, c, .fresh, [], false, false, true, 0, .serving, false, []⟩

def isWritable (l : Link) : Bool := !l.silent && !l.gone && l.phase ≠ .finished

def write (l : Link) (bytes : List UInt8) : Link :=
  if l.isWritable then { l with inbox := l.inbox ++ bytes } else l

/-- The client stops writing, or goes away altogether. -/
def bid (l : Link) : Farewell → Link
  | .stopWriting => { l with silent := true }
  | .goAway => { l with silent := true, gone := true }

def send (l : Link) (bytes : List UInt8) (after : Option Farewell) : Link :=
  let l := l.write bytes
  match after with
  | some how => l.bid how
  | none => l

def inputs (limit : Nat) (l : Link) : LineReader × List Input :=
  let (r, now) := l.reader.pushAll limit l.inbox
  if l.silent then
    let (r, last) := r.finish
    (r, now ++ last)
  else (r, now)

/-- Take in what was read, until the connection stops reading.  Being told to
close comes before anything that is still to be read. -/
def drain (sv : Services) (w : Scene) (c : Connection) : List Input → Scene × Connection
  | [] => if c.reading && c.isTold w then c.leave w else (w, c)
  | i :: is =>
    if !c.reading then (w, c)
    else if c.isTold w then c.leave w
    else
      let (w, c) := c.receive sv w i
      drain sv w c is

/-- Let a connection read.  It begins to linger when it stops reading. -/
def read (sv : Services) (w : Scene) (l : Link) : Scene × Link :=
  if l.phase = .serving then
    let (r, is) := l.inputs sv.maxLineBytes
    let (w, c) := drain sv w l.connection is
    (w, { l with
      connection := c
      reader := r
      inbox := []
      phase := if c.reading then .serving else .lingering })
  else (w, l)

/-- Write the responses that were not written yet.  To a client that has gone
away nothing can be written, and nothing will be. -/
def deliver (l : Link) : Link :=
  let rest := l.connection.responses.drop l.written
  if !l.writing || rest.isEmpty then l
  else if l.gone then { l with writing := false }
  else { l with
    written := l.connection.responses.length
    received := l.received ++ rest.map Response.toLine }

/-- What was received before is no longer of interest. -/
def forgetReceived (l : Link) : Link := { l with received := [] }

/-- Come to the end, if nothing is left to wait for. -/
def rest (l : Link) : Link :=
  if l.phase = .lingering ∧ (!l.writing ∨ l.connection.jobs.isEmpty) then
    { l with phase := .finished, sawEnd := l.sawEnd || !l.gone }
  else l

/-- Linger no longer: what was not written yet will not be. -/
def giveUp (l : Link) : Link :=
  if l.phase = .lingering then { l with writing := false } else l

end Link

namespace Exchange

def new (sv : Services) (r : Registry) : Exchange := ⟨sv, .new r, [], 0, []⟩

/-- The link of a client; if it connected several times, the last one. -/
def linkOf? (x : Exchange) (client : String) : Option Nat :=
  (x.links.zipIdx.filter fun p => p.1.client = client).getLast?.map (·.2)

/-- A client that connects again drops the connection that it had. -/
def dropClient (client : String) (links : List Link) : List Link :=
  links.map fun l => if l.client = client then l.bid .goAway else l

def modifyLink (x : Exchange) (i : Nat) (f : Link → Link) : Exchange :=
  { x with links := x.links.modify i f }

/-! ## Reading -/

/-- Let connections read, one after the other; `i` is the number of the first. -/
def readLinks (sv : Services) (now : Nat) (w : Scene) (alarms : Alarms) (i : Nat) :
    List Link → Scene × Alarms × List Link
  | [] => (w, alarms, [])
  | l :: ls =>
    let (w, l') := l.read sv w
    let alarms :=
      if l.phase = .serving ∧ l'.phase = .lingering then
        alarms ++ [(now + lingerTime, .linger i)]
      else alarms
    let (w, alarms, ls) := readLinks sv now w alarms (i + 1) ls
    (w, alarms, l' :: ls)

def readOnce (x : Exchange) : Exchange :=
  let (w, alarms, links) := readLinks x.services x.now x.scene x.alarms 0 x.links
  { x with scene := w, alarms := alarms, links := links }

def readTimes (x : Exchange) : Nat → Exchange
  | 0 => x
  | n + 1 => x.readOnce.readTimes n

/-- Let all connections read until there is nothing to read.  One connection
can tell another to close, so there may be as many rounds as connections. -/
def readAll (x : Exchange) : Exchange := x.readTimes (x.links.length + 1)

/-! ## Jobs -/

/-- Let a job of a connection start, stop or go on. -/
def pollJob (now i : Nat) (w : Scene) (alarms : Alarms) (c : Connection) (j : Job) :
    Scene × Alarms × Connection :=
  let alarm := Alarm.job i j.handle
  if j.work.heeds && Connection.isCancelled w j then
    let (w, c) := c.finishJob w j .cancelled
    (w, alarms.filter fun a => !decide (a.2 = alarm), c)
  else if alarms.any fun a => decide (a.2 = alarm) then (w, alarms, c)
  else match j.work.duration with
    | none => (w, alarms, c)
    | some 0 =>
      let (w, c) := c.finishJob w j j.work.outcome
      (w, alarms, c)
    | some d => (w, alarms ++ [(now + d, alarm)], c)

def pollJobs (now i : Nat) (w : Scene) (alarms : Alarms) (c : Connection) :
    List Job → Scene × Alarms × Connection
  | [] => (w, alarms, c)
  | j :: js =>
    let (w, alarms, c) := pollJob now i w alarms c j
    pollJobs now i w alarms c js

/-- Let the jobs of connections start, stop or go on; `i` is the number of the
first connection. -/
def pollLinks (now : Nat) (w : Scene) (alarms : Alarms) (i : Nat) :
    List Link → Scene × Alarms × List Link
  | [] => (w, alarms, [])
  | l :: ls =>
    let (w, alarms, c) := pollJobs now i w alarms l.connection l.connection.jobs
    let (w, alarms, ls) := pollLinks now w alarms (i + 1) ls
    (w, alarms, { l with connection := c } :: ls)

def pollAll (x : Exchange) : Exchange :=
  let (w, alarms, links) := pollLinks x.now x.scene x.alarms 0 x.links
  { x with scene := w, alarms := alarms, links := links }

/-! ## Moves -/

/-- Everything that a move brings about. -/
def settle (x : Exchange) : Exchange :=
  let x := x.readAll.pollAll
  { x with links := x.links.map fun l => l.deliver.rest }

def ring (x : Exchange) (a : Alarm) : Exchange :=
  match a with
  | .linger i => x.modifyLink i Link.giveUp
  | .job i h => match x.links[i]? with
    | none => x
    | some l => match l.connection.jobs.find? fun j => j.handle = h with
      | none => x
      | some j =>
        let o := if j.work.heeds && Connection.isCancelled x.scene j then Outcome.cancelled
          else j.work.outcome
        let (w, c) := l.connection.finishJob x.scene j o
        { x with scene := w, links := x.links.set i { l with connection := c } }

def advance (x : Exchange) (ms : Nat) : Exchange :=
  let now := x.now + ms
  let due := (x.alarms.filter fun a => decide (a.1 ≤ now)).mergeSort fun a b => decide (a.1 ≤ b.1)
  let x := { x with now := now, alarms := x.alarms.filter fun a => !decide (a.1 ≤ now) }
  due.foldl (fun x a => x.ring a.2) x

/-- Make a move, without what it brings about. -/
def make (x : Exchange) : Move → Exchange × MoveReply
  | .connect client s =>
    let (w, c) := Connection.accept x.scene s
    ({ x with scene := w, links := dropClient client x.links ++ [.fresh client c] }, .nothing)
  | .send client bytes after => match x.linkOf? client with
    | none => (x, .writable false)
    | some i =>
      let ok := (x.links[i]?.map Link.isWritable).getD false
      (x.modifyLink i (·.send bytes after), .writable ok)
  | .leave client how => match x.linkOf? client with
    | none => (x, .nothing)
    | some i => (x.modifyLink i (·.bid how), .nothing)
  | .advance ms => (x.advance ms, .nothing)
  | .act a =>
    let (w, r) := x.scene.perform a
    ({ x with scene := w }, .acted r)

/-- Make a move, and let everything happen that it brings about. -/
def move (x : Exchange) (m : Move) : Exchange × MoveReply :=
  let x := { x with links := x.links.map Link.forgetReceived }
  let (x, r) := x.make m
  (x.settle, r)

end Exchange

end DirectorySessions
