/-
# The course of a connection

A connection reads, is told to close, or has one of its jobs finish, in
whatever order; and in between the registry is used by others.  `Course`
puts no order on these.  What the others may do is a parameter.

A bind takes two turns, as its request is registered before the gate and the
factory are asked, and jobs that are done and others may come in between;
only the reading waits.  Where nothing comes in between, the two turns are
what receiving the line is (`receive_eq_settle`), so that is a turn as well.

The other turns are not divided.  To settle a bind is one of them, the gate,
the factory, the removal of the request, the context and the answer together;
so is looking for a request's number, finding its context and registering it;
so are the removal of a request by a job that is done and its answer; so is
closing the session when the reading ends; and so is every operation of the
others, with the callbacks that it runs.

As with the registry's own runs, each step is summed up by what it does to
the requests that are outstanding on the session and to what the connection
has under way (`Change`), and by the events that it gives rise to.  The
summary needs to know that a connection's handles have no callbacks (`Owned`),
since a callback could do anything to the session.
-/
import DirectorySessions.Connection.Basic
import DirectorySessions.Proofs.Registry.Accounts

namespace DirectorySessions

namespace Connection

/-- What happens to a job, or to a bind that takes two turns. -/
inductive JobEvent where
  | began (j : Job)
  | bindBegan (b : PendingBind)
  /-- The bind is settled; `took` is the handle that it took out, if any. -/
  | bindSettled (b : PendingBind) (took : Option HandleId)
  /-- The client abandons a request that is outstanding. -/
  | abandoned (id : RequestId) (h : HandleId)
  /-- The request is purged, or someone else takes it out. -/
  | purged (id : RequestId) (h : HandleId)
  /-- The job is done; `took` is the handle that it took out, if any. -/
  | finished (j : Job) (o : Outcome) (took : Option HandleId)

/-- The requests of a session that are outstanding in one scene and not in
another. -/
def lostEvents (s : SessionId) (w w' : Scene) : List JobEvent :=
  ((w.registry.requestsOf s).entries.filter fun e =>
    !decide (w'.registry.lookup s e.1 = some e.2)).map fun e => .purged e.1 e.2

def serveEvents (sv : Services) (w : Scene) (c : Connection) (q : Request) : List JobEvent :=
  match q.operation with
  | .unbind => lostEvents c.session w (c.leave w).1
  | .abandon target => match w.registry.beginAbandon c.session target with
    | .taken h _ => [.abandoned target h]
    | _ => []
  | .bind _ _ => []
  | _ =>
    if (w.registry.lookup c.session q.id).isSome then []
    else match launch sv w.registry c.session q with
      | (.ok j, _) => [.began j]
      | (.error _, _) => []

def receiveEvents (sv : Services) (w : Scene) (c : Connection) : Input → List JobEvent
  | .line t =>
    if Text.allBlank t then []
    else match Request.ofLine t with
      | .ok q => c.serveEvents sv w q
      | .error _ => []
  | .overlong => []
  | .hangUp => lostEvents c.session w (c.leave w).1

/-- What can have become of the scene and of a connection that was accepted
for the session in a given scene, and what happened to its jobs and binds;
`allows` says what others may do. -/
inductive Course (sv : Services) (allows : Scene → Scene → Prop) (w₀ : Scene) (s : SessionId) :
    List JobEvent → Scene → Connection → Prop
  | accept : Course sv allows w₀ s [] (accept w₀ s).1 (accept w₀ s).2
  | receive {es : List JobEvent} {w : Scene} {c : Connection} (h : Course sv allows w₀ s es w c)
      (hr : c.listens = true) (i : Input) :
      Course sv allows w₀ s (es ++ c.receiveEvents sv w i) (c.receive sv w i).1
        (c.receive sv w i).2
  | register {es : List JobEvent} {w : Scene} {c : Connection} (h : Course sv allows w₀ s es w c)
      (hr : c.listens = true) {t : String} {b : PendingBind} {r : Registry}
      (hb : c.beginBind? w t = some (b, r)) :
      Course sv allows w₀ s (es ++ [.bindBegan b]) (w.withRegistry r) { c with pending := some b }
  | settle {es : List JobEvent} {w : Scene} {c : Connection} (h : Course sv allows w₀ s es w c)
      {b : PendingBind} (hb : c.pending = some b) :
      Course sv allows w₀ s (es ++ [.bindSettled b (w.registry.lookup s b.id)])
        (c.settle sv w b).1 (c.settle sv w b).2
  | leave {es : List JobEvent} {w : Scene} {c : Connection} (h : Course sv allows w₀ s es w c)
      (hr : c.listens = true) (ht : c.isTold w = true) :
      Course sv allows w₀ s (es ++ lostEvents s w (c.leave w).1) (c.leave w).1 (c.leave w).2
  | finish {es : List JobEvent} {w : Scene} {c : Connection} (h : Course sv allows w₀ s es w c)
      {j : Job} (hj : j ∈ c.jobs) (o : Outcome) :
      Course sv allows w₀ s (es ++ [.finished j o (w.registry.lookup s j.id)])
        (c.finishJob w j o).1 (c.finishJob w j o).2
  | others {es : List JobEvent} {w w' : Scene} {c : Connection}
      (h : Course sv allows w₀ s es w c) (ha : allows w w') :
      Course sv allows w₀ s (es ++ lostEvents s w w') w' c

/-- What a step does to the outstanding requests of the session and to what the
connection has under way. -/
inductive Change (w : Scene) (c : Connection) (w' : Scene) (c' : Connection) :
    List JobEvent → Prop
  | quiet (hl : ∀ id, w'.registry.lookup c.session id = w.registry.lookup c.session id)
      (hj : c'.jobs = c.jobs) (hp : c'.pending = c.pending) : Change w c w' c' []
  | began (j : Job) (hfree : w.registry.lookup c.session j.id = none)
      (hnew : ¬ w.registry.Knows j.handle)
      (hmade : ∃ x, w'.registry.handle? j.handle = some x ∧ x.cancellable = true ∧
        x.callback = none)
      (hl : ∀ id, w'.registry.lookup c.session id =
        if j.id = id then some j.handle else w.registry.lookup c.session id)
      (hj : c'.jobs = c.jobs ++ [j]) (hn : c.pending = none) (hp : c'.pending = none) :
      Change w c w' c' [.began j]
  | bindBegan (b : PendingBind) (hfree : w.registry.lookup c.session b.id = none)
      (hnew : ¬ w.registry.Knows b.handle)
      (hmade : ∃ x, w'.registry.handle? b.handle = some x ∧ x.cancellable = false ∧
        x.callback = none)
      (hl : ∀ id, w'.registry.lookup c.session id =
        if b.id = id then some b.handle else w.registry.lookup c.session id)
      (hj : c'.jobs = c.jobs) (hn : c.pending = none) (hp : c'.pending = some b) :
      Change w c w' c' [.bindBegan b]
  | bindSettled (b : PendingBind) (hb : c.pending = some b)
      (hl : ∀ id, w'.registry.lookup c.session id =
        if b.id = id then none else w.registry.lookup c.session id)
      (hj : c'.jobs = c.jobs) (hp : c'.pending = none) :
      Change w c w' c' [.bindSettled b (w.registry.lookup c.session b.id)]
  | abandoned (id : RequestId) (h : HandleId) (ho : w.registry.lookup c.session id = some h)
      (hl : ∀ id', w'.registry.lookup c.session id' =
        if id = id' then none else w.registry.lookup c.session id')
      (hj : c'.jobs = c.jobs) (hp : c'.pending = c.pending) : Change w c w' c' [.abandoned id h]
  | finished (j : Job) (o : Outcome) (hin : j ∈ c.jobs)
      (hl : ∀ id, w'.registry.lookup c.session id =
        if j.id = id then none else w.registry.lookup c.session id)
      (hj : c'.jobs = c.jobs.filter fun x => !decide (x.handle = j.handle))
      (hp : c'.pending = c.pending) :
      Change w c w' c' [.finished j o (w.registry.lookup c.session j.id)]
  | lost (hl : ∀ id h, w'.registry.lookup c.session id = some h →
        w.registry.lookup c.session id = some h)
      (hj : c'.jobs = c.jobs) (hp : c'.pending = c.pending) :
      Change w c w' c' (lostEvents c.session w w')

/-- A step of a connection: it keeps the session and the handles. -/
structure Step (w : Scene) (c : Connection) (es : List JobEvent) (w' : Scene) (c' : Connection) :
    Prop where
  session : c'.session = c.session
  kept : w.registry.Kept w'.registry
  change : Change w c w' c' es

/-- What is outstanding on the session belongs to the connection's jobs, each
under its own handle, which can be cancelled and calls nobody back, or to the
bind that is under way, which has its number to itself. -/
structure Owned (w : Scene) (c : Connection) : Prop where
  owner : ∀ {id h}, w.registry.lookup c.session id = some h →
    (∃ j ∈ c.jobs, j.handle = h ∧ j.id = id) ∨
      ∃ b, c.pending = some b ∧ b.handle = h ∧ b.id = id
  distinct : (c.jobs.map Job.handle).Nodup
  made : ∀ {j}, j ∈ c.jobs → ∃ x, w.registry.handle? j.handle = some x ∧
    x.cancellable = true ∧ x.callback = none
  bindMade : ∀ {b}, c.pending = some b → ∃ x, w.registry.handle? b.handle = some x ∧
    x.cancellable = false ∧ x.callback = none
  alone : ∀ {b h}, c.pending = some b → w.registry.lookup c.session b.id = some h →
    h = b.handle

theorem listens_iff {c : Connection} :
    c.listens = true ↔ c.reading = true ∧ c.pending = none := by
  simp only [listens, Bool.and_eq_true, Option.isNone_iff_eq_none]

/-! ## What the parts of a step do -/

section Parts

variable {sv : Services} {r r₁ r' : Registry} {s : SessionId} {id : RequestId} {q : Request}
  {cr : Credentials} {cs : List Control}

theorem makeHandle_lookup (r : Registry) (id : RequestId) (op : String) (b : Bool)
    (t : Option TokenId) (k : Option Callback) (x : Option SharedContext) (s : SessionId)
    (id' : RequestId) : (r.makeHandle id op b t k x).2.lookup s id' = r.lookup s id' :=
  rfl

theorem makeHandle_kept (r : Registry) (id : RequestId) (op : String) (b : Bool)
    (t : Option TokenId) (k : Option Callback) (x : Option SharedContext) :
    r.Kept (r.makeHandle id op b t k x).2 :=
  Registry.kept_of_append rfl

theorem Alike.kept (h : r.Alike r') : r.Kept r' := Registry.kept_of_handles h.2

theorem clearBind_alike (sv : Services) (r : Registry) (cr : Credentials) (cs : List Control) :
    r.Alike (clearBind sv r cr cs).2 := by
  have ha := Registry.authorizeBind_alike r cr.isAnonymous
  simp only [clearBind]
  split <;> rename_i h <;> rw [h] at ha <;> exact ha

theorem release_lookup (r : Registry) (s : SessionId) (id id' : RequestId) :
    (release r s id).lookup s id' = if id = id' then none else r.lookup s id' := by
  cases hc : r.complete s id with
  | none =>
      have hl : r.lookup s id = none := by
        simpa [Registry.complete] using hc
      simp only [release, hc]
      split
      · rename_i he
        rw [← he, hl]
      · rfl
  | some y =>
      obtain ⟨h, r'⟩ := y
      obtain ⟨-, hr⟩ := Registry.complete_eq_some hc
      simp only [release, hc]
      rw [Registry.lookup_congr hr, Registry.lookup_takeOut]
      simp only [true_and]

theorem release_handles (r : Registry) (s : SessionId) (id : RequestId) :
    (release r s id).handles = r.handles := by
  simp only [release]
  split
  · rename_i hc
    exact Machine.complete_handles hc
  · rfl

theorem contextFor_alike (r : Registry) (s : SessionId) (op : Operation) (cs : List Control) :
    r.Alike (contextFor r s op cs).2 := by
  simp only [contextFor]
  split
  · have hg := Registry.getRootContext_alike r s cs
    split <;> rename_i h <;> rw [h] at hg <;> exact hg
  · exact Registry.getContext_alike r s cs true

/-- A new handle is registered under a number, and calls nobody back. -/
structure Registered (r : Registry) (s : SessionId) (id : RequestId) (h : HandleId)
    (cancellable : Bool) (r' : Registry) : Prop where
  fresh : ¬ r.Knows h
  made : ∃ x, r'.handle? h = some x ∧ x.cancellable = cancellable ∧ x.callback = none
  lookup : ∀ id', r'.lookup s id' = if id = id' then some h else r.lookup s id'
  kept : r.Kept r'

theorem registered_of_register {op : String} {b : Bool} {x : Option SharedContext}
    (hr : (r.makeHandle id op b none none x).2.register s id (r.makeHandle id op b none none x).1 =
      .ok r') :
    Registered r s id (r.makeHandle id op b none none x).1 b r' := by
  have hh := Machine.register_handles hr
  refine ⟨Nat.lt_irrefl _, ?_, ?_, ?_⟩
  · refine ⟨⟨id, op, b, .own r.nextHandle, none, x, false⟩, ?_, rfl, rfl⟩
    simp only [Registry.handle?]
    rw [hh]
    exact List.getElem?_concat_length
  · intro id'
    rw [Registry.lookup_register hr, makeHandle_lookup]
    simp only [true_and]
  · exact Registry.kept_trans (makeHandle_kept r _ _ _ _ _ _) (Registry.kept_of_handles hh)

theorem Registered.of_alike {h : HandleId} {b : Bool} (ha : r.Alike r₁)
    (hr : Registered r₁ s id h b r') : Registered r s id h b r' := by
  refine ⟨?_, hr.made, ?_, Registry.kept_trans (Alike.kept ha) hr.kept⟩
  · show ¬ (h.index < r.handles.length)
    rw [← ha.2]
    exact hr.fresh
  · intro id'
    rw [hr.lookup, Registry.lookup_congr ha.1]

theorem registerBind_ok {b : PendingBind} (h : registerBind r s id cr cs = (.ok b, r')) :
    b.id = id ∧ b.credentials = cr ∧ b.controls = cs ∧ Registered r s id b.handle false r' := by
  simp only [registerBind] at h
  split at h
  · cases h
  · rename_i hr
    cases h
    exact ⟨rfl, rfl, rfl, registered_of_register hr⟩

theorem registerBind_error {a : Response} (h : registerBind r s id cr cs = (.error a, r')) :
    (∀ id', r'.lookup s id' = r.lookup s id') ∧ r.Kept r' := by
  simp only [registerBind] at h
  split at h
  · cases h
    exact ⟨makeHandle_lookup r id _ _ _ _ _ s, makeHandle_kept r id _ _ _ _ _⟩
  · cases h

theorem registerBind_of_closing (hc : r.isClosing s = true) (id : RequestId) (cr : Credentials)
    (cs : List Control) :
    (registerBind r s id cr cs).1 = .error (.ofRefusal id (.sessionClosing s)) := by
  simp only [registerBind]
  rw [Registry.register_refused (by exact hc)]

theorem registerBind_of_open (hc : r.isClosing s = false) (id : RequestId) (cr : Credentials)
    (cs : List Control) :
    (registerBind r s id cr cs).1 = .ok ⟨r.nextHandle, id, cr, cs⟩ := by
  simp only [registerBind]
  rw [Registry.register_ok (by exact hc)]
  rfl

/-- Settling a bind leaves nothing outstanding under its number, and the rest as it was. -/
theorem settleBind_spec (sv : Services) (r : Registry) (s : SessionId) (b : PendingBind) :
    (∀ id', (settleBind sv r s b).2.lookup s id' =
        if b.id = id' then none else r.lookup s id') ∧
      r.Kept (settleBind sv r s b).2 := by
  have ha := clearBind_alike sv r b.credentials b.controls
  simp only [settleBind]
  generalize clearBind sv r b.credentials b.controls = p at ha ⊢
  obtain ⟨res, r₁⟩ := p
  have hlookup : ∀ id', (release r₁ s b.id).lookup s id' =
      if b.id = id' then none else r.lookup s id' := by
    intro id'
    rw [release_lookup, Registry.lookup_congr ha.1]
  have hkept : r.Kept (release r₁ s b.id) :=
    Registry.kept_trans (Alike.kept ha) (Registry.kept_of_handles (release_handles _ _ _))
  cases res with
  | error e => exact ⟨hlookup, hkept⟩
  | ok content => exact ⟨hlookup, Registry.kept_trans hkept (Registry.kept_of_handles rfl)⟩

/-- A bind that runs through leaves the outstanding requests as they were. -/
theorem bind_spec (sv : Services) (cr : Credentials) (cs : List Control)
    (hl : r.lookup s id = none) :
    (∀ id', (bind sv r s id cr cs).2.lookup s id' = r.lookup s id') ∧
      r.Kept (bind sv r s id cr cs).2 := by
  simp only [bind]
  cases hb : registerBind r s id cr cs with
  | mk res r₁ =>
      cases res with
      | error a => exact registerBind_error hb
      | ok b =>
          obtain ⟨rfl, -, -, hreg⟩ := registerBind_ok hb
          obtain ⟨hlookup, hkept⟩ := settleBind_spec sv r₁ s b
          refine ⟨?_, Registry.kept_trans hreg.kept hkept⟩
          intro id'
          rw [hlookup, hreg.lookup]
          by_cases he : b.id = id'
          · rw [if_pos he, ← he, hl]
          · rw [if_neg he, if_neg he]

/-- A job that begins is registered under its number, with a new handle that
can be cancelled and calls nobody back. -/
theorem launch_ok {j : Job} (h : launch sv r s q = (.ok j, r')) :
    j.id = q.id ∧ Registered r s q.id j.handle true r' := by
  unfold launch at h
  split at h
  · cases h
  · have hctx := contextFor_alike r s q.operation q.controls
    split at h
    · cases h
    · cases h
    · rename_i c r₁ hc
      rw [hc] at hctx
      dsimp only at h
      split at h
      · cases h
      · rename_i hr
        cases h
        exact ⟨rfl, (registered_of_register hr).of_alike hctx⟩

theorem launch_error {a : Response} (h : launch sv r s q = (.error a, r')) :
    (∀ id, r'.lookup s id = r.lookup s id) ∧ r.Kept r' := by
  unfold launch at h
  split at h
  · cases h
    exact ⟨fun _ => rfl, Registry.kept_refl _⟩
  · have hctx := contextFor_alike r s q.operation q.controls
    split at h <;> rename_i hc <;> rw [hc] at hctx
    · cases h
      exact ⟨Registry.lookup_congr hctx.1 s, Alike.kept hctx⟩
    · cases h
      exact ⟨Registry.lookup_congr hctx.1 s, Alike.kept hctx⟩
    · dsimp only at h
      split at h
      · cases h
        exact ⟨Registry.lookup_congr hctx.1 s,
          Registry.kept_trans (Alike.kept hctx) (makeHandle_kept _ _ _ _ _ _ _)⟩
      · cases h

end Parts

/-! ## What serving and receiving come to -/

section Cases

variable {w : Scene} {c : Connection}

/-- What serving a request comes to. -/
inductive Served (sv : Services) (w : Scene) (c : Connection) (q : Request) :
    List JobEvent → Scene → Connection → Prop
  | leave (hop : q.operation = .unbind) :
      Served sv w c q (lostEvents c.session w (c.leave w).1) (c.leave w).1 (c.leave w).2
  | abandon (target : RequestId) (hop : q.operation = .abandon target) :
      Served sv w c q
        (match w.registry.beginAbandon c.session target with
          | .taken h _ => [.abandoned target h]
          | _ => [])
        (w.perform (.abandon c.session target)).1 c
  | taken (h : HandleId) (hl : w.registry.lookup c.session q.id = some h) :
      Served sv w c q [] w (c.respond (taken q.id))
  | bind (dn password : String) (hop : q.operation = .bind dn password)
      (hfree : w.registry.lookup c.session q.id = none) :
      Served sv w c q []
        (w.withRegistry (bind sv w.registry c.session q.id (.ofBind dn password) q.controls).2)
        (c.respond (bind sv w.registry c.session q.id (.ofBind dn password) q.controls).1)
  | refused (a : Response) (r : Registry)
      (hl : launch sv w.registry c.session q = (.error a, r)) :
      Served sv w c q [] (w.withRegistry r) (c.respond a)
  | launched (j : Job) (r : Registry) (hfree : w.registry.lookup c.session q.id = none)
      (hl : launch sv w.registry c.session q = (.ok j, r)) :
      Served sv w c q [.began j] (w.withRegistry r) { c with jobs := c.jobs ++ [j] }

/-- What receiving comes to. -/
inductive Received (sv : Services) (w : Scene) (c : Connection) :
    Input → List JobEvent → Scene → Connection → Prop
  | blank (t : String) (hb : Text.allBlank t = true) : Received sv w c (.line t) [] w c
  | malformed (t : String) (e : Json.Error) (hq : Request.ofLine t = .error e) :
      Received sv w c (.line t) [] w (c.respond (malformed t e))
  | overlong : Received sv w c .overlong [] w (c.respond tooLong)
  | hangUp : Received sv w c .hangUp (lostEvents c.session w (c.leave w).1) (c.leave w).1
      (c.leave w).2
  | served {t : String} {q : Request} {es : List JobEvent} {w' : Scene} {c' : Connection}
      (hq : Request.ofLine t = .ok q) (h : Served sv w c q es w' c') :
      Received sv w c (.line t) es w' c'

theorem launch_cases (sv : Services) (w : Scene) (c : Connection) (q : Request)
    (hfree : w.registry.lookup c.session q.id = none) :
    Served sv w c q
      (match launch sv w.registry c.session q with
        | (.ok j, _) => [.began j]
        | (.error _, _) => [])
      (match launch sv w.registry c.session q with
        | (.ok j, r) => (w.withRegistry r, { c with jobs := c.jobs ++ [j] })
        | (.error a, r) => (w.withRegistry r, c.respond a)).1
      (match launch sv w.registry c.session q with
        | (.ok j, r) => (w.withRegistry r, { c with jobs := c.jobs ++ [j] })
        | (.error a, r) => (w.withRegistry r, c.respond a)).2 := by
  cases hl : launch sv w.registry c.session q with
  | mk res r =>
      cases res with
      | error a => exact .refused a r hl
      | ok j => exact .launched j r hfree hl

theorem serve_cases (sv : Services) (w : Scene) (c : Connection) (q : Request) :
    Served sv w c q (c.serveEvents sv w q) (c.serve sv w q).1 (c.serve sv w q).2 := by
  cases hl : w.registry.lookup c.session q.id with
  | some h =>
      cases hop : q.operation with
      | unbind =>
          simp only [serve, serveEvents, hop]
          exact .leave hop
      | abandon target =>
          simp only [serve, serveEvents, hop]
          exact .abandon target hop
      | _ =>
          simp only [serve, serveEvents, hop, hl, Option.isSome_some, if_true]
          exact .taken h hl
  | none =>
      cases hop : q.operation with
      | unbind =>
          simp only [serve, serveEvents, hop]
          exact .leave hop
      | abandon target =>
          simp only [serve, serveEvents, hop]
          exact .abandon target hop
      | bind dn password =>
          simp only [serve, serveEvents, hop, hl, Option.isSome_none, Bool.false_eq_true, if_false]
          exact .bind dn password hop hl
      | _ =>
          simp only [serve, serveEvents, hop, hl, Option.isSome_none, Bool.false_eq_true, if_false]
          exact launch_cases sv w c q hl

theorem receive_cases (sv : Services) (w : Scene) (c : Connection) (i : Input) :
    Received sv w c i (c.receiveEvents sv w i) (c.receive sv w i).1 (c.receive sv w i).2 := by
  cases i with
  | line t =>
      cases hb : Text.allBlank t with
      | true =>
          simp only [receive, receiveEvents, hb, if_true]
          exact .blank t hb
      | false =>
          cases hq : Request.ofLine t with
          | error e =>
              simp only [receive, receiveEvents, hb, hq, Bool.false_eq_true, if_false]
              exact .malformed t e hq
          | ok q =>
              simp only [receive, receiveEvents, hb, hq, Bool.false_eq_true, if_false]
              exact .served hq (serve_cases sv w c q)
  | overlong => exact .overlong
  | hangUp => exact .hangUp

end Cases

/-! ## Every step is summed up -/

section Steps

variable {sv : Services} {w : Scene} {c : Connection}

theorem step_quiet {c' : Connection} {r : Registry} (hs : c'.session = c.session)
    (hj : c'.jobs = c.jobs) (hp : c'.pending = c.pending)
    (hl : ∀ id, r.lookup c.session id = w.registry.lookup c.session id)
    (hk : w.registry.Kept r) : Step w c [] (w.withRegistry r) c' :=
  ⟨hs, hk, .quiet hl hj hp⟩

theorem leave_lookup (w : Scene) (c : Connection) (id : RequestId) :
    (c.leave w).1.registry.lookup c.session id = none := by
  have he : (w.perform (.closeSession c.session)).1.registry.requestsOf c.session = ∅ := by
    cases hc : w.registry.isClosing c.session with
    | false =>
        exact Registry.requestsOf_of_absent
          (Scene.perform_purges (.close (w.purge c.session).2) hc
            (by rw [Scene.perform_closeSession]))
    | true =>
        have hp : (w.purge c.session).1 = w := by
          simp only [Scene.purge, Registry.beginPurge_of_closing hc]
        rw [Scene.perform_closeSession, hp, ← Registry.requestsOf_of_closing hc]
        exact Registry.requestsOf_congr (Registry.forget_requests w.registry c.session) c.session
  rw [leave, Registry.lookup_eq_none he]

theorem leave_step (w : Scene) (c : Connection) :
    Step w c (lostEvents c.session w (c.leave w).1) (c.leave w).1 (c.leave w).2 := by
  refine ⟨rfl, Scene.perform_kept w (.closeSession c.session), .lost ?_ rfl rfl⟩
  intro id h hl
  rw [leave_lookup] at hl
  cases hl

/-- Abandoning a request whose handle calls nobody back takes it out, and that is all. -/
theorem perform_abandon_of_silent {s : SessionId} {id : RequestId} {h : HandleId} {x : Handle}
    (hl : w.registry.lookup s id = some h) (hx : w.registry.handle? h = some x)
    (hc : x.cancellable = true) (hcb : x.callback = none) :
    w.registry.beginAbandon s id =
        .taken h (w.registry.setRequests s ((w.registry.requestsOf s).erase id)) ∧
      (w.perform (.abandon s id)).1.registry =
        ((w.registry.setRequests s ((w.registry.requestsOf s).erase id)).fire h).endAbandon := by
  have hb : w.registry.beginAbandon s id =
      .taken h (w.registry.setRequests s ((w.registry.requestsOf s).erase id)) := by
    simp only [Registry.beginAbandon, hl, hx, hc, Option.map_some, Option.getD_some, if_true]
  refine ⟨hb, ?_⟩
  rw [Scene.perform_abandon hb]
  generalize hr : w.registry.setRequests s ((w.registry.requestsOf s).erase id) = r
  have hxr : r.handle? h = some x := by
    rw [← hr]
    exact hx
  show ((w.withRegistry r).cancelHandle h).1.registry.endAbandon = _
  have hcancel : ((w.withRegistry r).cancelHandle h).1.registry = r.fire h := by
    have hxw : (w.withRegistry r).registry.handle? h = some x := hxr
    cases hf : x.fired with
    | true =>
        simp only [Scene.cancelHandle, hxw, hf, if_true]
        simp only [Registry.fire, hxr, hf, if_true]
        rfl
    | false =>
        simp only [Scene.cancelHandle, hxw, hf, hcb, Bool.false_eq_true, if_false]
        rfl
  rw [hcancel]

theorem perform_abandon_lookup {s : SessionId} {id : RequestId} {h : HandleId} {x : Handle}
    (hl : w.registry.lookup s id = some h) (hx : w.registry.handle? h = some x)
    (hc : x.cancellable = true) (hcb : x.callback = none) (id' : RequestId) :
    (w.perform (.abandon s id)).1.registry.lookup s id' =
      if id = id' then none else w.registry.lookup s id' := by
  have hq : (w.perform (.abandon s id)).1.registry.requests =
      (w.registry.setRequests s ((w.registry.requestsOf s).erase id)).requests := by
    rw [(perform_abandon_of_silent hl hx hc hcb).2]
    exact Registry.fire_requests _ _
  rw [Registry.lookup_congr hq, Registry.lookup_takeOut]
  simp only [true_and]

theorem Owned.job (ho : Owned w c) (hn : c.pending = none) {id : RequestId} {h : HandleId}
    (hl : w.registry.lookup c.session id = some h) : ∃ j ∈ c.jobs, j.handle = h ∧ j.id = id := by
  rcases ho.owner hl with hj | ⟨b, hb, -⟩
  · exact hj
  · rw [hn] at hb
    cases hb

theorem abandon_step (ho : Owned w c) (hn : c.pending = none) (target : RequestId) :
    Step w c (match w.registry.beginAbandon c.session target with
        | .taken h _ => [.abandoned target h]
        | _ => [])
      (w.perform (.abandon c.session target)).1 c := by
  cases hl : w.registry.lookup c.session target with
  | none =>
      have hb := Registry.beginAbandon_notFound hl
      rw [Scene.perform_abandon_notFound hb, hb]
      exact step_quiet rfl rfl rfl (fun _ => rfl) (Registry.kept_refl _)
  | some h =>
      obtain ⟨j, hj, rfl, -⟩ := ho.job hn hl
      obtain ⟨x, hx, hc, hcb⟩ := ho.made hj
      rw [(perform_abandon_of_silent hl hx hc hcb).1]
      exact ⟨rfl, Scene.perform_kept w _,
        .abandoned target j.handle hl (perform_abandon_lookup hl hx hc hcb) rfl rfl⟩

def without (c : Connection) (j : Job) : Connection :=
  { c with jobs := c.jobs.filter fun x => !decide (x.handle = j.handle) }

theorem finishJob_of_none {j : Job} (hl : w.registry.lookup c.session j.id = none) (o : Outcome) :
    c.finishJob w j o = (w, c.without j) := by
  simp only [finishJob, Registry.complete_eq_none hl]
  rfl

theorem finishJob_of_some {j : Job} {h : HandleId}
    (hl : w.registry.lookup c.session j.id = some h) (o : Outcome) :
    (c.finishJob w j o).1.registry = release w.registry c.session j.id ∧
      (c.finishJob w j o).2 = (c.without j).respond (.ofOutcome j.id o) := by
  cases hc : w.registry.complete c.session j.id with
  | none =>
      have hn : w.registry.lookup c.session j.id = none := by
        simpa [Registry.complete] using hc
      rw [hl] at hn
      cases hn
  | some y =>
      simp only [finishJob, release, hc]
      exact ⟨rfl, rfl⟩

theorem finishJob_registry (w : Scene) (c : Connection) (j : Job) (o : Outcome) :
    (c.finishJob w j o).1.registry = release w.registry c.session j.id := by
  simp only [finishJob, release]
  split <;> rfl

theorem finishJob_jobs (w : Scene) (c : Connection) (j : Job) (o : Outcome) :
    (c.finishJob w j o).2.jobs = (c.without j).jobs := by
  cases hl : w.registry.lookup c.session j.id with
  | none => rw [finishJob_of_none hl]
  | some h =>
      rw [(finishJob_of_some hl o).2]
      rfl

theorem finishJob_pending (w : Scene) (c : Connection) (j : Job) (o : Outcome) :
    (c.finishJob w j o).2.pending = c.pending := by
  cases hl : w.registry.lookup c.session j.id with
  | none =>
      rw [finishJob_of_none hl]
      rfl
  | some h =>
      rw [(finishJob_of_some hl o).2]
      rfl

/-- A job that is done takes out what is outstanding under its number. -/
theorem finish_step {j : Job} (hj : j ∈ c.jobs) (o : Outcome) :
    Step w c [.finished j o (w.registry.lookup c.session j.id)] (c.finishJob w j o).1
      (c.finishJob w j o).2 := by
  cases hl : w.registry.lookup c.session j.id with
  | none =>
      rw [finishJob_of_none hl, ← hl]
      refine ⟨rfl, Registry.kept_refl _, .finished j o hj ?_ rfl rfl⟩
      intro id
      split
      · rename_i he
        rw [← he, hl]
      · rfl
  | some h =>
      obtain ⟨hr, hc⟩ := finishJob_of_some (c := c) hl o
      rw [← hl]
      refine ⟨?_, ?_, .finished j o hj ?_ (finishJob_jobs w c j o) (finishJob_pending w c j o)⟩
      · rw [hc]
        rfl
      · rw [hr]
        exact Registry.kept_of_handles (release_handles _ _ _)
      · intro id
        rw [hr, release_lookup]

theorem respond_step (w : Scene) (c : Connection) (a : Response) : Step w c [] w (c.respond a) :=
  step_quiet rfl rfl rfl (fun _ => rfl) (Registry.kept_refl _)

theorem beginBind?_eq_some {t : String} {b : PendingBind} {r : Registry} :
    c.beginBind? w t = some (b, r) ↔ ∃ id dn password cs, Text.allBlank t = false ∧
      Request.ofLine t = .ok ⟨id, .bind dn password, cs⟩ ∧
      w.registry.lookup c.session id = none ∧
      registerBind w.registry c.session id (.ofBind dn password) cs = (.ok b, r) := by
  constructor
  · intro h
    simp only [beginBind?] at h
    split at h
    · cases h
    · rename_i hb
      split at h
      · rename_i id dn password cs hq
        split at h
        · cases h
        · rename_i hl
          split at h
          · rename_i hr
            cases h
            exact ⟨id, dn, password, cs, Bool.eq_false_iff.mpr hb, hq, by simpa using hl, hr⟩
          · cases h
      · cases h
  · rintro ⟨id, dn, password, cs, hb, hq, hl, hr⟩
    simp only [beginBind?, hb, hq, hl, hr, Bool.false_eq_true, if_false, Option.isSome_none]

theorem register_step (hn : c.pending = none) {t : String} {b : PendingBind} {r : Registry}
    (hb : c.beginBind? w t = some (b, r)) :
    Step w c [.bindBegan b] (w.withRegistry r) { c with pending := some b } := by
  obtain ⟨id, dn, password, cs, -, -, hfree, hr⟩ := beginBind?_eq_some.mp hb
  obtain ⟨rfl, -, -, hnew, hmade, hlookup, hkept⟩ := registerBind_ok hr
  exact ⟨rfl, hkept, .bindBegan b hfree hnew hmade hlookup rfl hn rfl⟩

theorem settle_step (sv : Services) {b : PendingBind} (hb : c.pending = some b) :
    Step w c [.bindSettled b (w.registry.lookup c.session b.id)] (c.settle sv w b).1
      (c.settle sv w b).2 := by
  obtain ⟨hlookup, hkept⟩ := settleBind_spec sv w.registry c.session b
  exact ⟨rfl, hkept, .bindSettled b hb hlookup rfl rfl⟩

/-- A bind that is settled as soon as it is registered is a line that is received. -/
theorem receive_eq_settle (sv : Services) (hn : c.pending = none) {t : String} {b : PendingBind}
    {r : Registry} (hb : c.beginBind? w t = some (b, r)) :
    c.receive sv w (.line t) =
      { c with pending := some b }.settle sv (w.withRegistry r) b := by
  obtain ⟨id, dn, password, cs, hblank, hq, hfree, hr⟩ := beginBind?_eq_some.mp hb
  obtain ⟨session, close, reading, jobs, responses, pending⟩ := c
  dsimp only at hn hfree hr
  subst hn
  simp only [receive, hblank, hq, serve, hfree, bind, hr, Bool.false_eq_true, if_false,
    Option.isSome_none]
  rfl

theorem Served.step {q : Request} {es : List JobEvent} {w' : Scene} {c' : Connection}
    (ho : Owned w c) (hn : c.pending = none) (h : Served sv w c q es w' c') :
    Step w c es w' c' := by
  cases h with
  | leave hop => exact leave_step w c
  | abandon target hop => exact abandon_step ho hn target
  | taken h hl => exact respond_step w c _
  | bind dn password hop hfree =>
      obtain ⟨hlookup, hkept⟩ := bind_spec sv (.ofBind dn password) q.controls hfree
      exact step_quiet rfl rfl rfl hlookup hkept
  | refused a r hl =>
      obtain ⟨hlookup, hkept⟩ := launch_error hl
      exact step_quiet rfl rfl rfl hlookup hkept
  | launched j r hfree hl =>
      obtain ⟨hid, hnew, hmade, hlookup, hkept⟩ := launch_ok hl
      rw [← hid] at hfree hlookup
      exact ⟨rfl, hkept, .began j hfree hnew hmade hlookup rfl hn hn⟩

theorem Received.step {i : Input} {es : List JobEvent} {w' : Scene} {c' : Connection}
    (ho : Owned w c) (hn : c.pending = none) (h : Received sv w c i es w' c') :
    Step w c es w' c' := by
  cases h with
  | blank t hb => exact step_quiet rfl rfl rfl (fun _ => rfl) (Registry.kept_refl _)
  | malformed t e hq => exact respond_step w c _
  | overlong => exact respond_step w c _
  | hangUp => exact leave_step w c
  | served hq h => exact h.step ho hn

theorem Received.stays {i : Input} {es : List JobEvent} {w' : Scene} {c' : Connection}
    (h : Received sv w c i es w' c') : c'.session = c.session ∧ c'.pending = c.pending ∧
      (c'.reading = c.reading ∨ (w', c') = c.leave w) := by
  cases h with
  | hangUp => exact ⟨rfl, rfl, Or.inr rfl⟩
  | served hq h =>
      cases h with
      | leave hop => exact ⟨rfl, rfl, Or.inr rfl⟩
      | _ => exact ⟨rfl, rfl, Or.inl rfl⟩
  | _ => exact ⟨rfl, rfl, Or.inl rfl⟩

end Steps

/-! ## Courses that can be computed -/

theorem Course.line {sv : Services} {allows : Scene → Scene → Prop} {w₀ w : Scene} {s : SessionId}
    {c : Connection} {es : List JobEvent} {t : String} {q : Request}
    (h : Course sv allows w₀ s es w c) (hr : c.listens = true) (hb : Text.allBlank t = false)
    (hq : Request.ofLine t = .ok q) :
    Course sv allows w₀ s (es ++ c.serveEvents sv w q) (c.serve sv w q).1 (c.serve sv w q).2 := by
  have hc := h.receive hr (.line t)
  simp only [receiveEvents, Connection.receive, hb, hq, Bool.false_eq_true, if_false] at hc
  exact hc

theorem ofLine_eq {t : String} {q : Request}
    (h : (match Request.ofLine t with
      | .ok q' => decide (q' = q)
      | .error _ => false) = true) : Request.ofLine t = .ok q := by
  cases hq : Request.ofLine t with
  | error e =>
      rw [hq] at h
      cases h
  | ok q' =>
      rw [hq] at h
      rw [of_decide_eq_true h]

def directoryServices : Services := ⟨.directory "ldap:", .directory 100, 8, 4096⟩

end Connection

end DirectorySessions
