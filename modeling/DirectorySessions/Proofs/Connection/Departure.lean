/-
# A connection leaves nothing behind

Whatever makes a connection stop reading, it closes its session at that
moment, and the session may have been closed from outside before.  Either way
the session then has neither record nor context nor requests; each of the
connection's handles was completed, or has fired; and the session was counted
as closed once.  Jobs that are still running find nothing under their numbers
when they are done.  None of this changes later, unless others bring the
session back.

A bind that is under way keeps the connection from leaving, so when it leaves
there is none (`Diary.pending_of_left`).  But the session may be closed from
outside before the bind is settled.  Then the bind still binds its context,
which goes when the connection leaves.

What happens to registrations is kept in a log, which for an operation of the
registry is what the operation goes through, callbacks included, and for what
a connection does itself is the few events of that (`ownEvents`).
-/
import DirectorySessions.Proofs.Connection.Diary
import DirectorySessions.Proofs.Registry.AfterClosing

namespace DirectorySessions

/-! ## What a connection does itself -/

namespace Registry

variable {r r' r'' : Registry} {es es' : List Event} {a : Action} {s : SessionId}
  {id : RequestId} {h : HandleId}

/-- A change to the registry that purges nothing and opens or closes no session,
with the registrations that come of it and those that it completes. -/
structure Tends (r : Registry) (es : List Event) (r' : Registry) : Prop where
  seat : ∀ s id x, r'.seat s id x + es.countP (Event.ends s id x) =
    r.seat s id x + es.count (.registered s id x)
  completes : ∀ {s id x how}, .ended s id x how ∈ es → how = .completed
  closing : ∀ s, r'.isClosing s = r.isClosing s
  records : r'.records = r.records
  closed : r'.stats.sessionsClosed = r.stats.sessionsClosed
  fired : ∀ {x}, r.HasFired x → r'.HasFired x

theorem Tends.refl (r : Registry) : r.Tends [] r :=
  ⟨fun _ _ _ => rfl, fun h => absurd h List.not_mem_nil, fun _ => rfl, rfl, rfl, fun h => h⟩

theorem Tends.trans (h : r.Tends es r') (h' : r'.Tends es' r'') : r.Tends (es ++ es') r'' := by
  refine ⟨?_, ?_, ?_, h'.records.trans h.records, h'.closed.trans h.closed,
    fun hf => h'.fired (h.fired hf)⟩
  · intro s id x
    have h₁ := h.seat s id x
    have h₂ := h'.seat s id x
    rw [List.countP_append, List.count_append]
    omega
  · intro s id x how hin
    exact (List.mem_append.mp hin).elim h.completes h'.completes
  · intro s
    rw [h'.closing, h.closing]

theorem Effect.tends (h : r.Effect a es r') (ho : ∀ s n, a ≠ .openSession s n)
    (hr : ∀ {s id x how}, .ended s id x how ∈ es → how = .completed) : r.Tends es r' := by
  have same : ∀ {r' : Registry}, r'.requests = r.requests → r'.records = r.records →
      r'.stats.sessionsClosed = r.stats.sessionsClosed → (∃ ys, r'.handles = r.handles ++ ys) →
      r.Tends [] r' := by
    intro r' h₁ h₂ h₃ ⟨ys, h₄⟩
    refine ⟨?_, fun hin => absurd hin List.not_mem_nil, fun s => isClosing_congr h₁ s, h₂, h₃,
      hasFired_of_append h₄⟩
    intro s id x
    rw [seat_congr h₁]
    rfl
  have none : ∃ ys, r.handles = r.handles ++ ys := ⟨[], (List.append_nil _).symm⟩
  cases h with
  | handle spec script x hf => exact same rfl rfl rfl ⟨[x], rfl⟩
  | token name t =>
      obtain ⟨hst, hrec⟩ := cancelToken_books r t
      refine same (cancelToken_requests r t) hrec (by rw [hst]) ?_
      rw [Machine.cancelToken_handles]
      exact none
  | register name hreg =>
      obtain ⟨hst, hrec⟩ := register_books hreg
      exact ⟨seat_register hreg, hr, isClosing_register hreg, hrec, by rw [hst]; rfl,
        hasFired_of_handles (Machine.register_handles hreg)⟩
  | complete hc =>
      obtain ⟨hst, hrec⟩ := complete_books hc
      obtain ⟨hl, hreq⟩ := complete_eq_some hc
      refine ⟨seat_out .completed hl hreq, hr, ?_, hrec, by rw [hst]; rfl,
        hasFired_of_handles (Machine.complete_handles hc)⟩
      intro s
      rw [isClosing_congr hreq, isClosing_takeOut hl]
  | opened s n => exact absurd rfl (ho s n)
  | _ => exact same rfl rfl rfl none

theorem Effect.tends_quiet (h : r.Effect a [] r') (ho : ∀ s n, a ≠ .openSession s n) :
    r.Tends [] r' :=
  h.tends ho fun hin => absurd hin List.not_mem_nil

theorem tends_register (hl : r.lookup s id = none) (hr : r.register s id h = .ok r') :
    r.Tends [.registered s id h] r' := by
  have hnone : r.replacing s id = [] := by
    simp only [replacing, hl]
  have he := Effect.register (r := r) "" hr
  rw [hnone] at he
  refine he.tends (fun _ _ => Action.noConfusion) ?_
  intro s id x how hin
  cases List.mem_singleton.mp hin

theorem tends_complete (hc : r.complete s id = some (h, r')) :
    r.Tends [.ended s id h .completed] r' := by
  refine (Effect.complete hc).tends (fun _ _ => Action.noConfusion) ?_
  intro s id x how hin
  cases List.mem_singleton.mp hin
  rfl

end Registry

namespace Connection

variable {sv : Services} {r r' : Registry} {s : SessionId} {id : RequestId} {q : Request}

/-- The registration that ends when a request is taken out. -/
def releaseEvents (r : Registry) (s : SessionId) (id : RequestId) : List Event :=
  match r.lookup s id with
  | some h => [.ended s id h .completed]
  | none => []

/-- The registrations that come of a bind that runs through. -/
def bindEvents (r : Registry) (s : SessionId) (id : RequestId) (cr : Credentials)
    (cs : List Control) : List Event :=
  match registerBind r s id cr cs with
  | (.ok b, _) => [.registered s b.id b.handle, .ended s b.id b.handle .completed]
  | (.error _, _) => []

/-- The registrations that come of handing an operation to the backend. -/
def launchEvents (sv : Services) (r : Registry) (s : SessionId) (q : Request) : List Event :=
  match launch sv r s q with
  | (.ok j, _) => [.registered s q.id j.handle]
  | (.error _, _) => []

theorem makeHandle_tends (r : Registry) (id : RequestId) (op : String) (b : Bool)
    (x : Option SharedContext) : r.Tends [] (r.makeHandle id op b none none x).2 :=
  (Registry.Effect.handle ⟨op, id, op, b, none, none, none⟩ [] _ rfl).tends_quiet
    fun _ _ => Action.noConfusion

theorem clearBind_tends (sv : Services) (r : Registry) (cr : Credentials) (cs : List Control) :
    r.Tends [] (clearBind sv r cr cs).2 := by
  have ha := (Registry.authorizeBind_effect r .showConfig cr.isAnonymous).tends_quiet
    fun _ _ => Action.noConfusion
  simp only [clearBind]
  split <;> rename_i h <;> rw [h] at ha <;> exact ha

theorem contextFor_tends (r : Registry) (s : SessionId) (op : Operation) (cs : List Control) :
    r.Tends [] (contextFor r s op cs).2 := by
  simp only [contextFor]
  split
  · have hg := (Registry.getRootContext_effect r .showConfig s cs).tends_quiet
      fun _ _ => Action.noConfusion
    split <;> rename_i h <;> rw [h] at hg <;> exact hg
  · exact (Registry.getContext_effect r .showConfig s cs true).tends_quiet
      fun _ _ => Action.noConfusion

theorem release_tends (r : Registry) (s : SessionId) (id : RequestId) :
    r.Tends (releaseEvents r s id) (release r s id) := by
  cases hc : r.complete s id with
  | none =>
      have hn : r.lookup s id = none := by
        simpa [Registry.complete] using hc
      simp only [releaseEvents, hn, release, hc]
      exact .refl r
  | some y =>
      obtain ⟨h, r'⟩ := y
      simp only [releaseEvents, (Registry.complete_eq_some hc).1, release, hc]
      exact Registry.tends_complete hc

theorem registerBind_tends {cr : Credentials} {cs : List Control} {b : PendingBind}
    (hl : r.lookup s id = none) (h : registerBind r s id cr cs = (.ok b, r')) :
    r.Tends [.registered s b.id b.handle] r' := by
  simp only [registerBind] at h
  split at h
  · cases h
  · rename_i hr
    cases h
    exact (makeHandle_tends r id _ false none).trans (Registry.tends_register hl hr)

theorem registerBind_refused_tends {cr : Credentials} {cs : List Control} {a : Response}
    (h : registerBind r s id cr cs = (.error a, r')) : r.Tends [] r' := by
  simp only [registerBind] at h
  split at h
  · cases h
    exact makeHandle_tends r id _ false none
  · cases h

theorem settleBind_tends (sv : Services) (r : Registry) (s : SessionId) (b : PendingBind) :
    r.Tends (releaseEvents r s b.id) (settleBind sv r s b).2 := by
  have hclear := clearBind_tends sv r b.credentials b.controls
  have halike := clearBind_alike sv r b.credentials b.controls
  simp only [settleBind]
  generalize clearBind sv r b.credentials b.controls = p at hclear halike ⊢
  obtain ⟨res, r₁⟩ := p
  have hsame : releaseEvents r₁ s b.id = releaseEvents r s b.id := by
    rw [releaseEvents, releaseEvents, Registry.lookup_congr halike.1]
  have hdone := hclear.trans (release_tends r₁ s b.id)
  rw [hsame] at hdone
  cases res with
  | error e => exact hdone
  | ok content =>
      have hshare : (release r₁ s b.id).Tends [] ((release r₁ s b.id).share content).2 :=
        (Registry.Effect.context .showConfig).tends_quiet fun _ _ => Action.noConfusion
      have hset := (Registry.Effect.bind (r := ((release r₁ s b.id).share content).2) s ""
        ((release r₁ s b.id).share content).1).tends_quiet fun _ _ => Action.noConfusion
      have hall := hdone.trans (hshare.trans hset)
      simpa only [List.append_nil, List.nil_append] using hall

theorem bind_tends (sv : Services) (cr : Credentials) (cs : List Control)
    (hl : r.lookup s id = none) :
    r.Tends (bindEvents r s id cr cs) (bind sv r s id cr cs).2 := by
  simp only [bind, bindEvents]
  cases hb : registerBind r s id cr cs with
  | mk res r₁ =>
      cases res with
      | error a => exact registerBind_refused_tends hb
      | ok b =>
          have hown : releaseEvents r₁ s b.id = [.ended s b.id b.handle .completed] := by
            obtain ⟨rfl, -, -, hreg⟩ := registerBind_ok hb
            rw [releaseEvents, hreg.lookup, if_pos rfl]
          have hsettle := settleBind_tends sv r₁ s b
          rw [hown] at hsettle
          exact (registerBind_tends hl hb).trans hsettle

theorem launch_tends (sv : Services) (hl : r.lookup s q.id = none) :
    r.Tends (launchEvents sv r s q) (launch sv r s q).2 := by
  have hctx := contextFor_tends r s q.operation q.controls
  have hlook := (contextFor_alike r s q.operation q.controls).1
  simp only [launchEvents]
  generalize hp : launch sv r s q = p
  unfold launch at hp
  split at hp
  · subst hp
    exact .refl r
  · generalize contextFor r s q.operation q.controls = y at hctx hlook hp
    obtain ⟨res, r₁⟩ := y
    match res with
    | .error e =>
        subst hp
        exact hctx
    | .ok none =>
        subst hp
        exact hctx
    | .ok (some c) =>
        dsimp only at hctx hlook hp
        have hmake := makeHandle_tends r₁ q.id q.operation.name true (some c)
        have hnone : (r₁.makeHandle q.id q.operation.name true none none (some c)).2.lookup s q.id =
            none := (Registry.lookup_congr hlook s q.id).trans hl
        cases hr : (r₁.makeHandle q.id q.operation.name true none none (some c)).2.register s q.id
            (r₁.makeHandle q.id q.operation.name true none none (some c)).1 with
        | error e =>
            rw [hr] at hp
            subst hp
            exact hctx.trans hmake
        | ok r₂ =>
            rw [hr] at hp
            subst hp
            exact hctx.trans (hmake.trans (Registry.tends_register hnone hr))

/-! ## What is logged of a moment -/

namespace Moment

variable {m : Moment}

def action? (m : Moment) : Option Action :=
  if m.leaves then some (.closeSession m.connection.session)
  else match m.turn with
    | .act a => some a
    | _ => m.request?.bind fun q => match q.operation with
      | .abandon target => some (.abandon m.connection.session target)
      | _ => none

def passage (m : Moment) : List Machine := (m.action?.map m.scene.passage).getD []

/-- What comes of what the connection does itself. -/
def ownEvents (sv : Services) (m : Moment) : List Event :=
  match m.turn with
  | .finish j _ => releaseEvents m.scene.registry m.connection.session j.id
  | .register t => match m.connection.beginBind? m.scene t with
    | some (b, _) => [.registered m.connection.session b.id b.handle]
    | none => []
  | .settle => match m.connection.pending with
    | some b => releaseEvents m.scene.registry m.connection.session b.id
    | none => []
  | _ => match m.request? with
    | some q =>
      if (m.scene.registry.lookup m.connection.session q.id).isSome then []
      else match q.operation with
        | .bind dn password =>
          bindEvents m.scene.registry m.connection.session q.id (.ofBind dn password) q.controls
        | .search .. | .whoami => launchEvents sv m.scene.registry m.connection.session q
        | _ => []
    | none => []

def log (sv : Services) (m : Moment) : List Event :=
  m.passage.flatMap Machine.events ++ m.ownEvents sv

/-- The sessions whose records are dropped and counted. -/
def closings (m : Moment) : List SessionId := m.passage.filterMap Machine.closing?

/-- What a moment comes to: an operation of the registry, or something that the
connection does itself. -/
inductive Follows (sv : Services) (m : Moment) : Prop
  | operation (a : Action) (ha : m.action? = some a) (hown : m.ownEvents sv = [])
      (hn : (m.next sv).1 = (m.scene.perform a).1)
  | own (ha : m.action? = none)
      (ht : m.scene.registry.Tends (m.ownEvents sv) (m.next sv).1.registry)

theorem ownEvents_of_request {q : Request} (hq : m.request? = some q) :
    m.ownEvents sv =
      if (m.scene.registry.lookup m.connection.session q.id).isSome then []
      else match q.operation with
        | .bind dn password =>
          bindEvents m.scene.registry m.connection.session q.id (.ofBind dn password) q.controls
        | .search .. | .whoami => launchEvents sv m.scene.registry m.connection.session q
        | _ => [] := by
  obtain ⟨t, ht, -, -⟩ := turn_of_request hq
  simp only [ownEvents, ht, hq]

theorem ownEvents_of_launch {q : Request} (hq : m.request? = some q)
    (hop : q.operation.forBackend = true)
    (hfree : m.scene.registry.lookup m.connection.session q.id = none) :
    m.ownEvents sv = launchEvents sv m.scene.registry m.connection.session q := by
  rw [ownEvents_of_request hq, hfree]
  cases hk : q.operation <;> rw [hk] at hop <;> first | rfl | cases hop

theorem action?_of_answered {q : Request} (hq : m.request? = some q)
    (hop : q.operation.isAnswered = true) : m.action? = none := by
  obtain ⟨t, ht, -, -⟩ := turn_of_request hq
  obtain ⟨id, op, cs⟩ := q
  dsimp only at hop
  simp only [action?, leaves_of_request hq, ht, hq]
  cases op with
  | abandon target => cases hop
  | unbind => cases hop
  | _ => rfl

theorem action?_of_no_request (hq : m.request? = none) (hl : m.leaves = false)
    (ht : ∀ a, m.turn ≠ .act a) : m.action? = none := by
  simp only [action?, hl, hq, Bool.false_eq_true, if_false]
  cases hturn : m.turn with
  | act a => exact absurd hturn (ht a)
  | _ => rfl

theorem follows {allows : Scene → Action → Prop} (sv : Services) (hp : m.Possible allows) :
    m.Follows sv := by
  have hc := comes sv hp
  have still : m.action? = none → m.ownEvents sv = [] →
      (m.next sv).1.registry = m.scene.registry → m.Follows sv := by
    intro ha hown hr
    refine .own ha ?_
    rw [hown, hr]
    exact .refl _
  -- a line that holds no request is read, and that is all
  have read : ∀ {i : Input}, m.turn = .receive i → i ≠ .hangUp → m.request? = none →
      (m.next sv).1.registry = m.scene.registry → m.Follows sv := by
    intro i ht hi hq hr
    refine still (action?_of_no_request hq (leaves_of_no_request ht hi hq) (by simp [ht])) ?_ hr
    cases i with
    | hangUp => exact absurd rfl hi
    | line t => simp only [ownEvents, ht, hq]
    | overlong => simp only [ownEvents, ht, hq]
  generalize hn : m.next sv = p at hc still read
  obtain ⟨w', c'⟩ := p
  dsimp only at hc still read
  cases hc with
  | left hl =>
      refine .operation (.closeSession m.connection.session) (by simp only [action?, hl, if_true])
        ?_ (by rw [hn]; rfl)
      cases hq : m.request? with
      | some q =>
          rw [leaves_of_request hq, decide_eq_true_eq] at hl
          rw [ownEvents_of_request hq, hl]
          split <;> rfl
      | none =>
          simp only [leaves, hq] at hl
          simp only [ownEvents]
          split at hl
          · rename_i ht
            simp only [ht, hq]
          · rename_i ht
            simp only [ht, hq]
          · cases hl
  | @abandoned q target hq hop =>
      obtain ⟨t, ht, -, -⟩ := turn_of_request hq
      refine .operation (.abandon m.connection.session target) ?_ ?_ (by rw [hn])
      · simp [action?, leaves_of_request hq, ht, hq, hop]
      · rw [ownEvents_of_request hq, hop]
        split <;> rfl
  | taken hq hop hl =>
      refine still (action?_of_answered hq hop) ?_ rfl
      rw [ownEvents_of_request hq, hl]
      rfl
  | @bound q dn password hq hop hfree =>
      refine .own (action?_of_answered hq (by rw [hop]; rfl)) ?_
      rw [ownEvents_of_request hq, hfree, hop, hn]
      exact bind_tends sv _ _ hfree
  | @refused q a r hq hop hfree hl =>
      refine .own (action?_of_answered hq (Operation.isAnswered_of_forBackend hop)) ?_
      have ht := launch_tends sv hfree
      rw [hl] at ht
      rw [ownEvents_of_launch hq hop hfree, hn]
      exact ht
  | @launched q j r hq hop hfree hl =>
      refine .own (action?_of_answered hq (Operation.isAnswered_of_forBackend hop)) ?_
      have ht := launch_tends sv hfree
      rw [hl] at ht
      rw [ownEvents_of_launch hq hop hfree, hn]
      exact ht
  | @begun t b r ht hb =>
      refine .own (action?_of_no_request ?_ ?_ (by simp [ht])) ?_
      · simp only [request?, ht]
      · simp only [leaves, request?, ht, Option.any_none]
      · obtain ⟨i, dn, password, cs, -, -, hfree, hr⟩ := beginBind?_eq_some.mp hb
        rw [hn]
        simp only [ownEvents, ht, hb]
        have hid := (registerBind_ok hr).1
        subst hid
        exact registerBind_tends hfree hr
  | @settled b ht hb =>
      refine .own (action?_of_no_request ?_ ?_ (by simp [ht])) ?_
      · simp only [request?, ht]
      · simp only [leaves, request?, ht, Option.any_none]
      · rw [hn]
        simp only [ownEvents, ht, hb]
        exact settleBind_tends sv m.scene.registry m.connection.session b
  | malformed ht hm => exact read ht (by simp) (no_request_of_malformed hm) rfl
  | overlong ht => exact read ht (by simp) (by simp only [request?, ht]) rfl
  | blank ht hb => exact read ht (by simp) (by simp only [request?, ht, hb, if_true]) rfl
  | @finished j o ht =>
      have hq : m.request? = none := by simp only [request?, ht]
      refine .own (action?_of_no_request hq ?_ (by simp [ht])) ?_
      · simp only [leaves, ht, hq, Option.any_none]
      · rw [hn]
        simp only [ownEvents, ht, finishJob_registry]
        exact release_tends _ _ _
  | @acted a ht =>
      have hq : m.request? = none := by simp only [request?, ht]
      refine .operation a ?_ ?_ (by rw [hn])
      · simp only [action?, leaves, ht, hq, Option.any_none, Bool.false_eq_true, if_false]
      · simp only [ownEvents, ht, hq]

theorem action?_cases {a : Action} (ha : m.action? = some a) :
    m.turn = .act a ∨ a = .closeSession m.connection.session ∨
      ∃ target, a = .abandon m.connection.session target := by
  simp only [action?] at ha
  split at ha
  · cases ha
    exact Or.inr (Or.inl rfl)
  · split at ha
    · cases ha
      exact Or.inl ‹_›
    · obtain ⟨q, -, hq⟩ := Option.bind_eq_some_iff.mp ha
      split at hq
      · cases hq
        exact Or.inr (Or.inr ⟨_, rfl⟩)
      · cases hq

theorem passage_of_action {a : Action} (ha : m.action? = some a) :
    m.passage = m.scene.passage a := by
  simp only [passage, ha, Option.map_some, Option.getD_some]

theorem passage_of_none (ha : m.action? = none) : m.passage = [] := by
  simp only [passage, ha, Option.map_none, Option.getD_none]

/-- What an operation carries out on its way is chosen by others, or it is no
more than the connection asked for, whose handles have no callbacks. -/
theorem passage_performs (ho : Owned m.scene m.connection) {x : Machine} (hx : x ∈ m.passage) :
    (∃ a, m.turn = .act a ∧ x ∈ m.scene.passage a) ∨
      ∀ s, x.registersOn s = false ∧ x.opens s = false := by
  have hmute : ∀ id y, m.scene.registry.lookup m.connection.session id = some y →
      m.scene.registry.Mute y := by
    intro id y hl z hz
    rcases ho.owner hl with ⟨j, hj, rfl, -⟩ | ⟨b, hb, rfl, -⟩
    · obtain ⟨x, hx, -, hcb⟩ := ho.made hj
      rw [hx] at hz
      cases hz
      exact hcb
    · obtain ⟨x, hx, -, hcb⟩ := ho.bindMade hb
      rw [hx] at hz
      cases hz
      exact hcb
  have only : ∀ {a : Action}, (∀ s id n, a ≠ .register s id n) → (∀ s n, a ≠ .openSession s n) →
      (∀ b, x.task = .perform b → b = a) → ∀ s, x.registersOn s = false ∧ x.opens s = false := by
    intro a h₁ h₂ h₃ s
    simp only [Machine.registersOn, Machine.opens]
    constructor
    · split
      · exact absurd (h₃ _ ‹_›).symm (h₁ _ _ _)
      · rfl
    · split
      · exact absurd (h₃ _ ‹_›).symm (h₂ _ _)
      · rfl
  cases ha : m.action? with
  | none =>
      rw [passage_of_none ha] at hx
      exact absurd hx List.not_mem_nil
  | some a =>
      rw [passage_of_action ha] at hx
      rcases action?_cases ha with ht | rfl | ⟨target, rfl⟩
      · exact Or.inl ⟨a, ht, hx⟩
      · exact Or.inr (only (fun _ _ _ => Action.noConfusion) (fun _ _ => Action.noConfusion)
          (Scene.closeSession_mute hmute x hx))
      · exact Or.inr (only (fun _ _ _ => Action.noConfusion) (fun _ _ => Action.noConfusion)
          (Scene.abandon_mute (hmute target) x hx))

theorem reading_of_not_leaves {allows : Scene → Action → Prop} (hp : m.Possible allows)
    (hl : m.leaves = false) : (m.next sv).2.reading = m.connection.reading := by
  have hc := comes sv hp
  generalize m.next sv = p at hc ⊢
  obtain ⟨w', c'⟩ := p
  dsimp only at hc ⊢
  cases hc with
  | left hl' =>
      rw [hl] at hl'
      cases hl'
  | @finished j o ht =>
      simp only [finishJob]
      split <;> rfl
  | _ => rfl

/-- Where a connection reads no more and no bind is under way, its jobs and others
go on. -/
theorem turn_of_left {allows : Scene → Action → Prop} (hp : m.Possible allows)
    (hr : m.connection.reading = false) (hn : m.connection.pending = none) :
    (∃ j o, m.turn = .finish j o) ∨ ∃ a, m.turn = .act a := by
  have deaf : m.connection.listens ≠ true := by
    intro hlistens
    rw [(listens_iff.mp hlistens).1] at hr
    cases hr
  obtain ⟨w, c, turn⟩ := m
  cases turn with
  | receive i => exact absurd hp deaf
  | register t => exact absurd hp.1 deaf
  | told => exact absurd hp.1 deaf
  | settle =>
      dsimp only at hn
      simp only [Possible, hn, Option.isSome_none, Bool.false_eq_true] at hp
  | finish j o => exact Or.inl ⟨j, o, rfl⟩
  | act a => exact Or.inr ⟨a, rfl⟩

theorem next_of_leaves (hl : m.leaves = true) : m.next sv = m.connection.leave m.scene := by
  cases hq : m.request? with
  | some q =>
      rw [leaves_of_request hq, decide_eq_true_eq] at hl
      rw [next_of_request hq]
      simp only [serve, hl]
  | none =>
      simp only [leaves, hq] at hl
      split at hl
      · rename_i ht
        simp only [next, ht]
      · rename_i ht
        simp only [next, ht]
        rfl
      · cases hl

end Moment

theorem leave_records (w : Scene) (c : Connection) :
    (c.leave w).1.registry.records.get? c.session = none := by
  rw [leave, Scene.perform_closeSession]
  exact Registry.forget_records _ _

theorem leave_gone {w : Scene} {c : Connection} (hidle : w.registry.Idle) :
    Gone c.session (c.leave w).1.registry := by
  refine ⟨leave_records w c, ?_, ?_⟩
  · rw [leave, Scene.perform_closeSession]
    exact Registry.forget_unbinds _ _
  · exact Scene.perform_purges (.close (w.purge c.session).2) (hidle _)
      (by rw [Scene.perform_closeSession])

namespace Diary

/-- Others carry out an action that registers nothing on the session, nor do
its callbacks. -/
def Aloof (s : SessionId) (w : Scene) (a : Action) : Prop :=
  ∀ x ∈ w.passage a, x.registersOn s = false

variable {w₀ w : Scene} {ms : List Moment} {c : Connection} {allows : Scene → Action → Prop}

theorem Aloof.not_registered {a : Action} (ha : Aloof s w a) (id : RequestId) (x : HandleId) :
    .registered s id x ∉ w.story a := by
  intro hin
  obtain ⟨y, hy, hin⟩ := List.mem_flatMap.mp hin
  have hr := Machine.task_of_registration hin (Or.inl rfl)
  rw [ha y hy] at hr
  cases hr

theorem Aloof.spares {a : Action} (ha : Aloof s w a) : Spares s w (w.perform a).1 :=
  ⟨fun id x => (w.passed a).lookup_of_not_registered (ha.not_registered id x),
    (w.passed a).kept⟩

/-- What an operation ends on the session was outstanding before, and so is the
handle of a job or of the bind. -/
theorem Aloof.knows_of_ended {a : Action} (ha : Aloof c.session w a) (ho : Owned w c)
    (hidle : w.registry.Idle) {id : RequestId} {x : HandleId} {how : RequestEnd}
    (hin : .ended c.session id x how ∈ w.story a) : w.registry.Knows x := by
  have hpos : 0 < (w.story a).countP (Event.ends c.session id x) :=
    List.countP_pos_iff.mpr ⟨_, hin, by simp [Event.ends]⟩
  have hzero := List.count_eq_zero_of_not_mem (ha.not_registered id x)
  have hseat := (w.passed a).seat (Scene.marked_of_idle hidle _ rfl) c.session id x
  rw [Scene.story] at hpos hzero
  dsimp only at hseat
  have hl : w.registry.lookup c.session id = some x := by
    refine Classical.byContradiction fun hl => ?_
    rw [Registry.seat, Registry.seat, if_neg hl] at hseat
    omega
  exact ho.knows_of_lookup hl

theorem invariant (hfree : ∀ id, w₀.registry.lookup s id = none)
    (h : Diary sv (Aloof s) w₀ s ms w c) : c.session = s ∧ Owned w c := by
  obtain ⟨hs, ho, -⟩ := (h.course fun _ _ ha => ha.spares).invariant hfree
  exact ⟨hs, ho⟩

/-- The registrations on the session so far: each is outstanding or has ended,
and those that have ended were completed, or their handles have fired. -/
structure Tally (sv : Services) (s : SessionId) (ms : List Moment) (w : Scene) : Prop where
  idle : w.registry.Idle
  seat : ∀ id x, w.registry.seat s id x +
      (ms.flatMap (Moment.log sv)).countP (Event.ends s id x) =
    (ms.flatMap (Moment.log sv)).count (.registered s id x)
  ended : ∀ {id x how}, .ended s id x how ∈ ms.flatMap (Moment.log sv) →
    how = .completed ∨ w.registry.HasFired x

theorem Tally.step {m : Moment} (ht : Tally sv s ms m.scene)
    (ho : Owned m.scene m.connection) (hs : m.connection.session = s)
    (hp : m.Possible (Aloof s)) : Tally sv s (ms ++ [m]) (m.next sv).1 := by
  have hlog : ∀ es, m.log sv = es →
      (ms ++ [m]).flatMap (Moment.log sv) = ms.flatMap (Moment.log sv) ++ es := by
    rintro es rfl
    rw [List.flatMap_append, List.flatMap_singleton]
  cases Moment.follows sv hp with
  | own ha htends =>
      have he := hlog (m.ownEvents sv) (by rw [Moment.log, Moment.passage_of_none ha]; rfl)
      refine ⟨?_, ?_, ?_⟩
      · intro s'
        rw [htends.closing, ht.idle]
      · intro id x
        have h₁ := htends.seat s id x
        have h₂ := ht.seat id x
        rw [he, List.countP_append, List.count_append]
        omega
      · intro id x how hin
        rw [he, List.mem_append] at hin
        rcases hin with hin | hin
        · exact (ht.ended hin).imp_right htends.fired
        · exact Or.inl (htends.completes hin)
  | operation a ha hown hn =>
      have he := hlog (m.scene.story a) (by
        rw [Moment.log, hown, List.append_nil, Moment.passage_of_action ha]
        rfl)
      have hpassed := m.scene.passed a
      -- nothing is registered on the session, whoever asked for the operation
      have haloof : Aloof s m.scene a := by
        intro x hx
        rw [← Moment.passage_of_action ha] at hx
        rcases Moment.passage_performs ho hx with ⟨a', ht, hx'⟩ | hno
        · simp only [Moment.Possible, ht] at hp
          exact hp x hx'
        · exact (hno s).1
      have hseat := hpassed.seat (Scene.marked_of_idle ht.idle _ rfl) s
      subst hs
      rw [hn]
      refine ⟨Scene.perform_idle ht.idle a, ?_, ?_⟩
      · intro id x
        have h₁ := hseat id x
        have h₂ := ht.seat id x
        rw [he, List.countP_append, List.count_append, Scene.story]
        dsimp only at h₁
        omega
      · intro id x how hin
        rw [he, List.mem_append] at hin
        rcases hin with hin | hin
        · exact (ht.ended hin).imp_right hpassed.hasFired
        · cases how with
          | completed => exact Or.inl rfl
          | replaced =>
              obtain ⟨y, hy, hin⟩ := List.mem_flatMap.mp hin
              have hr := Machine.task_of_registration hin (Or.inr rfl)
              rw [haloof y hy] at hr
              cases hr
          | _ => exact Or.inr (Scene.hasFired_of_detached
              (haloof.knows_of_ended ho ht.idle hin) hin rfl)

theorem tally (hidle : w₀.registry.Idle) (hfree : ∀ id, w₀.registry.lookup s id = none)
    (h : Diary sv (Aloof s) w₀ s ms w c) : Tally sv s ms w := by
  induction h with
  | accept =>
      refine ⟨hidle, ?_, fun hin => absurd hin List.not_mem_nil⟩
      intro id x
      have hl : (Connection.accept w₀ s).1.registry.lookup s id = none := hfree id
      rw [Registry.seat, hl]
      rfl
  | turn h t hp ih =>
      obtain ⟨hs, ho⟩ := h.invariant hfree
      exact ih.step ho hs hp

theorem sessionsClosed (h : Diary sv allows w₀ s ms w c) :
    w.registry.stats.sessionsClosed = w₀.registry.stats.sessionsClosed +
      UInt64.ofNat (ms.flatMap Moment.closings).length := by
  induction h with
  | accept => exact (UInt64.add_zero _).symm
  | @turn ms w c h t hp ih =>
      rw [List.flatMap_append, List.flatMap_singleton, List.length_append, UInt64.ofNat_add,
        ← UInt64.add_assoc, ← ih]
      cases Moment.follows sv hp with
      | own ha htends =>
          rw [htends.closed, Moment.closings, Moment.passage_of_none ha]
          exact (UInt64.add_zero _).symm
      | operation a ha hown hn =>
          rw [hn, Moment.closings, Moment.passage_of_action ha]
          exact (w.passed a).sessionsClosed

/-- If nobody else opens the session, its record goes once. -/
theorem recorded (hfree : ∀ id, w₀.registry.lookup s id = none)
    (h : Diary sv (Aloof s) w₀ s ms w c)
    (ho : ∀ m ∈ ms, ∀ a, m.turn = .act a → ∀ x ∈ m.scene.passage a, x.opens s = false) :
    w.registry.recorded s + (ms.flatMap Moment.closings).count s = 1 := by
  induction h with
  | accept =>
      simp only [Registry.recorded, Connection.accept, Registry.openSession, Scene.withRegistry,
        Table.get?_insert, if_true]
      rfl
  | @turn ms w c h t hp ih =>
      have hih := ih fun m hm => ho m (List.mem_append_left _ hm)
      have hm := ho ⟨w, c, t⟩ (List.mem_append_right _ List.mem_cons_self)
      obtain ⟨-, howned⟩ := h.invariant hfree
      rw [List.flatMap_append, List.flatMap_singleton, List.count_append]
      cases Moment.follows sv hp with
      | own ha htends =>
          have hrec : (Moment.next sv ⟨w, c, t⟩).1.registry.recorded s = w.registry.recorded s := by
            rw [Registry.recorded, htends.records]
            rfl
          rw [hrec, Moment.closings, Moment.passage_of_none ha]
          exact hih
      | operation a ha hown hn =>
          rw [hn, Moment.closings, Moment.passage_of_action ha]
          have hpassed := (w.passed a).recorded (s := s) (by
            intro x hx
            rw [← Moment.passage_of_action ha] at hx
            rcases Moment.passage_performs howned hx with ⟨a', ht, hx'⟩ | hno
            · exact hm a' ht x hx'
            · exact (hno s).2)
          dsimp only at hpassed ⊢
          omega

/-- A connection that reads no more has left before. -/
theorem left (h : Diary sv allows w₀ s ms w c) (hr : c.reading = false) :
    ∃ ms₁ m ms₂, ms = ms₁ ++ m :: ms₂ ∧ m.leaves = true ∧
      Diary sv allows w₀ s ms₁ m.scene m.connection ∧ m.Possible allows := by
  induction h with
  | accept => cases hr
  | @turn ms w c h t hp ih =>
      cases hl : Moment.leaves ⟨w, c, t⟩ with
      | true => exact ⟨ms, ⟨w, c, t⟩, [], rfl, hl, h, hp⟩
      | false =>
          rw [Moment.reading_of_not_leaves hp hl] at hr
          obtain ⟨ms₁, m, ms₂, rfl, hm, h₁, hp₁⟩ := ih hr
          refine ⟨ms₁, m, ms₂ ++ [⟨w, c, t⟩], ?_, hm, h₁, hp₁⟩
          rw [List.append_assoc, List.cons_append]

/-- A connection leaves only when no bind is under way, and begins none afterwards. -/
theorem pending_of_left (h : Diary sv allows w₀ s ms w c) (hr : c.reading = false) :
    c.pending = none := by
  induction h with
  | accept => cases hr
  | @turn ms w c h t hp ih =>
      cases hl : Moment.leaves ⟨w, c, t⟩ with
      | true =>
          rw [Moment.next_of_leaves hl]
          exact Moment.pending_of_leaves hp hl
      | false =>
          rw [Moment.reading_of_not_leaves hp hl] at hr
          have hnone := ih hr
          rcases Moment.turn_of_left hp hr hnone with ⟨j, o, rfl⟩ | ⟨a, rfl⟩
          · exact (finishJob_pending w c j o).trans hnone
          · exact hnone

theorem lookup_of_left (hfree : ∀ id, w₀.registry.lookup s id = none)
    (h : Diary sv (Aloof s) w₀ s ms w c) (hr : c.reading = false) :
    ∀ id, w.registry.lookup s id = none := by
  induction h with
  | accept => cases hr
  | @turn ms w c h t hp ih =>
      obtain ⟨hs, -⟩ := h.invariant hfree
      cases hl : Moment.leaves ⟨w, c, t⟩ with
      | true =>
          intro id
          rw [Moment.next_of_leaves hl, ← hs]
          exact leave_lookup w c id
      | false =>
          rw [Moment.reading_of_not_leaves hp hl] at hr
          have hnone := ih hr
          rcases Moment.turn_of_left hp hr (h.pending_of_left hr) with ⟨j, o, rfl⟩ | ⟨a, rfl⟩
          · have hj : w.registry.lookup c.session j.id = none := by rw [hs, hnone]
            simp only [Moment.next, finishJob_of_none hj]
            exact hnone
          · intro id
            refine Option.eq_none_iff_forall_ne_some.mpr ?_
            intro x hx
            have hin := hp.spares.lookup id x hx
            dsimp only at hin
            rw [hnone] at hin
            cases hin

/-- Others do nothing that brings the session back, nor do their callbacks. -/
def Shuns (s : SessionId) (m : Moment) : Prop :=
  ∀ a, m.turn = .act a → ∀ x ∈ m.scene.passage a, x.revives s = false

/-- The session is gone where the connection leaves, and stays so. -/
theorem gone_of_left (hidle : w₀.registry.Idle) (hfree : ∀ id, w₀.registry.lookup s id = none)
    (h : Diary sv (Aloof s) w₀ s ms w c) (hr : c.reading = false) (hsh : ∀ m ∈ ms, Shuns s m) :
    Gone s w.registry := by
  induction h with
  | accept => cases hr
  | @turn ms w c h t hp ih =>
      obtain ⟨hs, -⟩ := h.invariant hfree
      cases hl : Moment.leaves ⟨w, c, t⟩ with
      | true =>
          rw [Moment.next_of_leaves hl, ← hs]
          exact leave_gone (h.tally hidle hfree).idle
      | false =>
          rw [Moment.reading_of_not_leaves hp hl] at hr
          have hgone := ih hr fun m hm => hsh m (List.mem_append_left _ hm)
          rcases Moment.turn_of_left hp hr (h.pending_of_left hr) with ⟨j, o, rfl⟩ | ⟨a, rfl⟩
          · have hj : w.registry.lookup c.session j.id = none := by
              rw [hs, h.lookup_of_left hfree hr]
            simp only [Moment.next, finishJob_of_none hj]
            exact hgone
          · have hm := hsh _ (List.mem_append_right _ List.mem_cons_self) a rfl
            exact (w.passed a).gone hgone hm

/-- Where nothing is outstanding on the session, all that was registered on it has
been completed, or its handle has fired. -/
theorem ended_of_none (hidle : w₀.registry.Idle) (hfree : ∀ id, w₀.registry.lookup s id = none)
    (h : Diary sv (Aloof s) w₀ s ms w c) (hnone : ∀ id, w.registry.lookup s id = none)
    {id : RequestId} {x : HandleId} (hin : .registered s id x ∈ ms.flatMap (Moment.log sv)) :
    .ended s id x .completed ∈ ms.flatMap (Moment.log sv) ∨ w.registry.HasFired x := by
  have ht := h.tally hidle hfree
  have hseat := ht.seat id x
  have hpos := List.count_pos_iff.mpr hin
  have hz : w.registry.seat s id x = 0 := by
    rw [Registry.seat, hnone]
    rfl
  have hends : 0 < (ms.flatMap (Moment.log sv)).countP (Event.ends s id x) := by omega
  obtain ⟨e, he, hends⟩ := List.countP_pos_iff.mp hends
  cases e with
  | ended s' id' x' how =>
      simp only [Event.ends, decide_eq_true_eq] at hends
      obtain ⟨rfl, rfl, rfl⟩ := hends
      rcases ht.ended he with rfl | hf
      · exact Or.inl he
      · exact Or.inr hf
  | _ => cases hends

/-- Where the session has no record, and nobody else has opened it, it was counted
as closed once. -/
theorem closed_once (hfree : ∀ id, w₀.registry.lookup s id = none)
    (h : Diary sv (Aloof s) w₀ s ms w c) (hnone : w.registry.records.get? s = none)
    (ho : ∀ m ∈ ms, ∀ a, m.turn = .act a → ∀ x ∈ m.scene.passage a, x.opens s = false) :
    (ms.flatMap Moment.closings).count s = 1 := by
  have hrec := h.recorded hfree ho
  rw [Registry.recorded, hnone] at hrec
  simpa using hrec

end Diary

/-- A connection that reads no more, whatever ended it, has left nothing behind
where it left: no record, context or requests of its session.  All that was
registered on the session was completed, or its handle has fired.  If nobody
else opened the session, it was counted as closed once.

Whatever has happened since, nothing more was registered on the session that is
not completed or fired; nothing of it is there again, and it was not counted
again, unless others brought it back; and the jobs that are left change nothing
and answer nobody. -/
theorem departure_leaves_nothing {sv : Services} {w₀ w : Scene} {s : SessionId}
    {ms : List Moment} {c : Connection} (hidle : w₀.registry.Idle)
    (hfree : ∀ id, w₀.registry.lookup s id = none)
    (h : Diary sv (Diary.Aloof s) w₀ s ms w c) (hr : c.reading = false) :
    (∃ ms₁ m ms₂, ms = ms₁ ++ m :: ms₂ ∧ m.leaves = true ∧
      Gone s (m.next sv).1.registry ∧
      (∀ id x, .registered s id x ∈ (ms₁ ++ [m]).flatMap (Moment.log sv) →
        .ended s id x .completed ∈ (ms₁ ++ [m]).flatMap (Moment.log sv) ∨
          (m.next sv).1.registry.HasFired x) ∧
      (m.next sv).1.registry.stats.sessionsClosed = w₀.registry.stats.sessionsClosed +
        UInt64.ofNat ((ms₁ ++ [m]).flatMap Moment.closings).length ∧
      ((∀ m' ∈ ms₁ ++ [m], ∀ a, m'.turn = .act a →
          ∀ x ∈ m'.scene.passage a, x.opens s = false) →
        ((ms₁ ++ [m]).flatMap Moment.closings).count s = 1)) ∧
    (∀ id x, .registered s id x ∈ ms.flatMap (Moment.log sv) →
      .ended s id x .completed ∈ ms.flatMap (Moment.log sv) ∨ w.registry.HasFired x) ∧
    w.registry.stats.sessionsClosed = w₀.registry.stats.sessionsClosed +
      UInt64.ofNat (ms.flatMap Moment.closings).length ∧
    ((∀ m ∈ ms, Diary.Shuns s m) →
      Gone s w.registry ∧ (ms.flatMap Moment.closings).count s = 1) ∧
    ∀ j ∈ c.jobs, ∀ o, c.finishJob w j o = (w, c.without j) := by
  refine ⟨?_, ?_, h.sessionsClosed, ?_, ?_⟩
  · obtain ⟨ms₁, m, ms₂, rfl, hl, h₁, hp⟩ := h.left hr
    obtain ⟨hs, -⟩ := h₁.invariant hfree
    have h₂ : Diary sv (Diary.Aloof s) w₀ s (ms₁ ++ [m]) (m.next sv).1 (m.next sv).2 :=
      h₁.turn m.turn hp
    have hgone : Gone s (m.next sv).1.registry := by
      rw [Moment.next_of_leaves hl, ← hs]
      exact leave_gone (h₁.tally hidle hfree).idle
    have hnone := Registry.lookup_eq_none (Registry.requestsOf_of_absent hgone.requests)
    exact ⟨ms₁, m, ms₂, rfl, hl, hgone, fun _ _ => h₂.ended_of_none hidle hfree hnone,
      h₂.sessionsClosed, h₂.closed_once hfree hgone.record⟩
  · exact fun _ _ => h.ended_of_none hidle hfree (h.lookup_of_left hfree hr)
  · intro hsh
    have hgone := h.gone_of_left hidle hfree hr hsh
    refine ⟨hgone, h.closed_once hfree hgone.record ?_⟩
    intro m hm a ha x hx
    exact Machine.not_opens_of_not_revives (hsh m hm a ha x hx)
  · intro j _ o
    obtain ⟨hs, -⟩ := h.invariant hfree
    refine finishJob_of_none ?_ o
    rw [hs, h.lookup_of_left hfree hr]

/-- The scene when the session of a client that has searched was terminated
from outside. -/
def terminated : Scene :=
  (Machine.advance 12 ⟨searching.1, .perform (.terminate ⟨"s"⟩), []⟩).2.scene

/-- The connection when it has noticed. -/
def departed : Scene × Connection := searching.2.leave terminated

def terminating : List Moment :=
  [⟨(accept emptyScene ⟨"s"⟩).1, (accept emptyScene ⟨"s"⟩).2,
      .receive (.line "\x7b\"id\":1,\"op\":\"search\",\"base\":\"ou=a\"\x7d")⟩,
    ⟨searching.1, searching.2, .act (.terminate ⟨"s"⟩)⟩, ⟨terminated, searching.2, .told⟩]

theorem terminate_passage : searching.1.passage (.terminate ⟨"s"⟩) =
    (Machine.walk 12 ⟨searching.1, .perform (.terminate ⟨"s"⟩), []⟩).1 :=
  Machine.path_of_walk rfl

theorem terminating_diary :
    Diary directoryServices (Diary.Aloof ⟨"s"⟩) emptyScene ⟨"s"⟩ terminating departed.1
      departed.2 := by
  have h₁ : Diary directoryServices (Diary.Aloof ⟨"s"⟩) emptyScene ⟨"s"⟩ (terminating.take 1)
      searching.1 searching.2 :=
    Diary.accept.line rfl (t := "\x7b\"id\":1,\"op\":\"search\",\"base\":\"ou=a\"\x7d")
      (by decide) (q := firstSearch) (ofLine_eq (by decide +kernel))
  have haloof : Diary.Aloof ⟨"s"⟩ searching.1 (.terminate ⟨"s"⟩) := by
    rw [Diary.Aloof, terminate_passage]
    decide
  have h₂ := h₁.turn (.act (.terminate ⟨"s"⟩)) haloof
  have hp : searching.1.perform (.terminate ⟨"s"⟩) = (terminated, .truth true) :=
    Machine.perform_of_steps (Machine.steps_advance 12 _)
  simp only [Moment.next, hp] at h₂
  exact h₂.turn .told ⟨rfl, rfl⟩

/-- The session is gone and was counted as closed once, and the job that is left
finds nothing when it is done. -/
theorem terminated_connection_leaves_nothing :
    departed.2.jobs.length = 1 ∧
      (∃ ms₁ m ms₂, terminating = ms₁ ++ m :: ms₂ ∧ m.leaves = true ∧
        Gone ⟨"s"⟩ (m.next directoryServices).1.registry ∧
        ((ms₁ ++ [m]).flatMap Moment.closings).count ⟨"s"⟩ = 1) ∧
      Gone ⟨"s"⟩ departed.1.registry ∧ (terminating.flatMap Moment.closings).count ⟨"s"⟩ = 1 ∧
      ∀ j ∈ departed.2.jobs, ∀ o,
        departed.2.finishJob departed.1 j o = (departed.1, departed.2.without j) := by
  have hidle : emptyScene.registry.Idle := fun _ => rfl
  have hfree : ∀ id, emptyScene.registry.lookup ⟨"s"⟩ id = none := fun _ => rfl
  have hshuns : ∀ m ∈ terminating, Diary.Shuns ⟨"s"⟩ m := by
    intro m hm a ha
    simp only [terminating, List.mem_cons, List.not_mem_nil, or_false] at hm
    rcases hm with rfl | rfl | rfl <;> cases ha
    rw [terminate_passage]
    decide
  obtain ⟨⟨ms₁, m, ms₂, hms, hl, hgone, -, -, hcount⟩, -, -, hlater, hjobs⟩ :=
    departure_leaves_nothing hidle hfree terminating_diary rfl
  refine ⟨rfl, ⟨ms₁, m, ms₂, hms, hl, hgone, hcount ?_⟩, (hlater hshuns).1, (hlater hshuns).2,
    hjobs⟩
  intro m' hm' a ha x hx
  have hm : m' ∈ terminating := by
    rw [hms, List.append_cons]
    exact List.mem_append_left _ hm'
  exact Machine.not_opens_of_not_revives (hshuns m' hm a ha x hx)

end Connection

end DirectorySessions
