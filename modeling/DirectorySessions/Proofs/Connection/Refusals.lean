/-
# What is refused leaves no trace

A bind, a search or an identity query can be turned away at dispatch, in six ways
(`Refusal`): its number is taken, there is no room, the session has no context for it, the
gate or the factory does not let a bind pass, or the session is being purged.  Some of these
show only after something was done: a bind registers a handle before it asks the gate and the
factory, and an operation for the backend has its context, and sometimes its handle, when it
turns out that the session is closing.

Whatever was done by then is undone or does not show.  What a bind registered it takes out
again, and as its number was free the table of the session is entry by entry what it was
(`Table.erase_insert`).  All that stays is counted, or was made and given to nobody, or is
an empty request map of the session's own (`Registry.Undisturbed`).  A bind that goes
through does the same, and then binds its context.

Where jobs and others come between the registration of a bind and its answer, both halves are
compared with what they found: the first adds a request and nothing else, the second takes it
out (`settleBind_cases`), so that what was done in between stands.  A bind in one turn is the
two put together (`bind_cases`).
-/
import DirectorySessions.Proofs.Connection.Contexts

namespace DirectorySessions

namespace Table

variable {κ α : Type} [DecidableEq κ] {k : κ}

theorem drop_put {es : List (κ × α)} (hk : find? k es = none) (a : α) :
    drop k (put k a es) = es := by
  induction es with
  | nil => simp [put, drop]
  | cons e es ih =>
      obtain ⟨k', a'⟩ := e
      have hne : k' ≠ k := by
        rintro rfl
        simp [find?] at hk
      simp only [find?, if_neg hne] at hk
      rw [put, if_neg hne, drop_cons, if_neg hne, ih hk]

/-- To put something under a new key and then leave the key out changes nothing. -/
theorem erase_insert {t : Table κ α} (hk : t.get? k = none) (a : α) :
    (t.insert k a).erase k = t := by
  simp only [insert, erase, drop_put hk a]

end Table

/-! ## What may have been done -/

/-- For all sessions the second registry is as the first: records, close tokens, bound
contexts and outstanding requests are the same, and so is every handle.  It may have counted
something, and have made further handles and contexts; and a session without a request map,
which can only be this one, may have got an empty one. -/
structure Registry.Undisturbed (s : SessionId) (r r' : Registry) : Prop where
  outstanding : ∀ s', r'.requestsOf s' = r.requestsOf s'
  closing : ∀ s', r'.isClosing s' = r.isClosing s'
  others : ∀ s', s' ≠ s → r'.requests.get? s' = r.requests.get? s'
  handles : r.handles <+: r'.handles
  rest : r' = { r with
    requests := r'.requests
    handles := r'.handles
    stats := r'.stats
    contextsMade := r'.contextsMade }

namespace Registry

variable {r r' r'' : Registry} {s : SessionId} {id : RequestId} {h : HandleId}

theorem undisturbed_refl (s : SessionId) (r : Registry) : r.Undisturbed s r :=
  ⟨fun _ => rfl, fun _ => rfl, fun _ _ => rfl, List.prefix_rfl, rfl⟩

theorem Undisturbed.trans (h : r.Undisturbed s r') (h' : r'.Undisturbed s r'') :
    r.Undisturbed s r'' := by
  refine ⟨fun s' => (h'.outstanding s').trans (h.outstanding s'),
    fun s' => (h'.closing s').trans (h.closing s'),
    fun s' hs => (h'.others s' hs).trans (h.others s' hs), h.handles.trans h'.handles, ?_⟩
  calc r'' = { r' with
          requests := r''.requests
          handles := r''.handles
          stats := r''.stats
          contextsMade := r''.contextsMade } := h'.rest
    _ = _ := by rw [h.rest]

theorem undisturbed_of_counts
    (hr : r' = { r with stats := r'.stats, contextsMade := r'.contextsMade }) :
    r.Undisturbed s r' := by
  rw [hr]
  exact ⟨fun _ => rfl, fun _ => rfl, fun _ _ => rfl, List.prefix_rfl, rfl⟩

theorem undisturbed_makeHandle (s : SessionId) (r : Registry) (id : RequestId) (op : String)
    (b : Bool) (t : Option TokenId) (k : Option Callback) (x : Option SharedContext) :
    r.Undisturbed s (r.makeHandle id op b t k x).2 :=
  ⟨fun _ => rfl, fun _ => rfl, fun _ _ => rfl, List.prefix_append _ _, rfl⟩

theorem Undisturbed.setContext (h : r.Undisturbed s r') (x : SharedContext) :
    (r.setContext s x).Undisturbed s (r'.setContext s x) := by
  refine ⟨h.outstanding, h.closing, h.others, h.handles, ?_⟩
  rw [h.rest]
  rfl

theorem Undisturbed.handle? (h : r.Undisturbed s r') {x : HandleId} {y : Handle}
    (hy : r.handle? x = some y) : r'.handle? x = some y := by
  obtain ⟨ys, hys⟩ := h.handles
  simp only [Registry.handle?, ← hys] at hy ⊢
  rw [List.getElem?_append_left (List.getElem?_eq_some_iff.mp hy).1]
  exact hy

end Registry

/-! ## Registering and taking out -/

namespace Registry

variable {r r' : Registry} {s : SessionId} {id : RequestId} {h : HandleId}

theorem register_eq (hr : r.register s id h = .ok r') :
    r' = { r with
      requests := r.requests.insert s (.accepting ((r.requestsOf s).insert id h))
      stats := r.stats.countRegistered } := by
  rw [register_ok (not_closing_of_register hr)] at hr
  cases hr
  rfl

theorem undisturbed_of_requests (hopen : r.isClosing s = false)
    (hget : ∀ s', r'.requests.get? s' =
      if s = s' then some (.accepting (r.requestsOf s)) else r.requests.get? s')
    (hr : r' = { r with requests := r'.requests, stats := r'.stats }) : r.Undisturbed s r' := by
  refine ⟨?_, ?_, fun s' hs => by rw [hget, if_neg (Ne.symm hs)], ?_, by rw [hr]⟩
  · intro s'
    by_cases he : s = s'
    · subst he
      simp only [requestsOf, hget, if_true]
      rfl
    · simp only [requestsOf, hget, if_neg he]
  · intro s'
    by_cases he : s = s'
    · subst he
      rw [hopen]
      simp only [isClosing, hget, if_true]
    · simp only [isClosing, hget, if_neg he]
  · have hh : r'.handles = r.handles := by rw [hr]
    exact hh ▸ List.prefix_rfl

theorem Effect.counts (h : r.Effect .isEmpty [] r') :
    r' = { r with stats := r'.stats, contextsMade := r'.contextsMade } := by
  cases h <;> rfl

end Registry

namespace Connection

section Parts

variable {sv : Services} {r r₁ r₂ r' : Registry} {s : SessionId} {id : RequestId} {h : HandleId}

theorem release_eq (hl : r.lookup s id = some h) :
    release r s id = { r with
      requests := r.requests.insert s (.accepting ((r.requestsOf s).erase id))
      stats := r.stats.countCompleted } := by
  simp only [release, Registry.complete, hl, Option.map_some]
  rfl

theorem release_counts (hr : r' = { r with stats := r'.stats }) (s : SessionId)
    (id : RequestId) : release r' s id = { release r s id with
      stats := (release r' s id).stats
      contextsMade := (release r' s id).contextsMade } := by
  generalize r'.stats = counts at hr
  subst hr
  cases hl : r.lookup s id with
  | none =>
      have hn : Registry.lookup { r with stats := counts } s id = none := hl
      simp only [release, Registry.complete, hl, hn, Option.map_none]
  | some h =>
      have hn : Registry.lookup { r with stats := counts } s id = some h := hl
      rw [release_eq hl, release_eq hn]
      rfl

/-- What is registered under a free number and then taken out leaves the requests of every
session as they were. -/
theorem release_undisturbed (hfree : r.lookup s id = none) (hr : r.register s id h = .ok r₁)
    (hc : r₂ = { r₁ with stats := r₂.stats }) : r.Undisturbed s (release r₂ s id) := by
  have hopen := Registry.not_closing_of_register hr
  have hr₁ := Registry.register_eq hr
  subst hr₁
  generalize r₂.stats = counts at hc
  subst hc
  have htable : ∀ counts, Registry.requestsOf { r with
      requests := r.requests.insert s (.accepting ((r.requestsOf s).insert id h))
      stats := counts } s = (r.requestsOf s).insert id h := by
    intro counts
    exact (Registry.requestsOf_setRequests r s s _).trans (if_pos rfl)
  have hl : ∀ counts, Registry.lookup { r with
      requests := r.requests.insert s (.accepting ((r.requestsOf s).insert id h))
      stats := counts } s id = some h := by
    intro counts
    rw [Registry.lookup, htable, Table.get?_insert, if_pos rfl]
  rw [release_eq (hl counts), htable,
    Table.erase_insert (show (r.requestsOf s).get? id = none from hfree)]
  refine Registry.undisturbed_of_requests hopen ?_ rfl
  intro s'
  rw [Table.get?_insert, Table.get?_insert]
  split <;> rfl

/-! ## Why a request is refused -/

/-- The request is turned away at dispatch: why, and with which response. -/
inductive Refusal (sv : Services) (r : Registry) (s : SessionId) (q : Request) : Response → Prop
  | taken {h : HandleId} (hl : r.lookup s q.id = some h) : Refusal sv r s q (Connection.taken q.id)
  | closing (hc : r.isClosing s = true) : Refusal sv r s q (.ofRefusal q.id (.sessionClosing s))
  | busy (hop : q.operation.forBackend = true) (hcap : sv.maxOutstanding ≤ r.outstanding s) :
      Refusal sv r s q (.busy q.id)
  | noContext {e : RegistryError} (hop : q.operation.forBackend = true)
      (hc : (contextFor r s q.operation q.controls).1 = .error e) :
      Refusal sv r s q (.ofRefusal q.id e)
  | gate {dn password : String} {e : RegistryError} (hop : q.operation = .bind dn password)
      (hg : (r.authorizeBind (Credentials.ofBind dn password).isAnonymous).1 = .error e) :
      Refusal sv r s q (.ofRefusal q.id e)
  | factory {dn password : String} {e : ContextError} (hop : q.operation = .bind dn password)
      (hf : sv.factory q.controls (.ofBind dn password) = .error e) :
      Refusal sv r s q (.ofRefusal q.id (.contextCreationFailed e))

theorem ofRefusal_status (id : RequestId) (e : RegistryError) :
    (Response.ofRefusal id e).status ≠ .success := by
  cases e <;> exact fun he => by cases he

theorem Refusal.status {q : Request} {a : Response} (h : Refusal sv r s q a) :
    a.status ≠ .success := by
  cases h with
  | taken hl => exact fun he => by cases he
  | busy hop hcap => exact fun he => by cases he
  | _ => exact ofRefusal_status _ _

/-! ## Binds -/

theorem authorizeBind_counts (r : Registry) (b : Bool) :
    (r.authorizeBind b).2 = { r with stats := (r.authorizeBind b).2.stats } := by
  simp only [Registry.authorizeBind, Registry.noteDenied]
  split
  · rfl
  · split <;> rfl

/-- A bind that is under way is turned away: why, and with which response. -/
inductive BindRefusal (sv : Services) (r : Registry) (b : PendingBind) : Response → Prop
  | gate {e : RegistryError} (hg : (r.authorizeBind b.credentials.isAnonymous).1 = .error e) :
      BindRefusal sv r b (.ofRefusal b.id e)
  | factory {e : ContextError} (hf : sv.factory b.controls b.credentials = .error e) :
      BindRefusal sv r b (.ofRefusal b.id (.contextCreationFailed e))

theorem BindRefusal.status {b : PendingBind} {a : Response} (h : BindRefusal sv r b a) :
    a.status ≠ .success := by
  cases h <;> exact ofRefusal_status _ _

/-- A bind that is settled has its request taken out.  It is refused, or binds what the factory
has built. -/
theorem settleBind_cases (sv : Services) (r : Registry) (s : SessionId) (b : PendingBind) :
    BindRefusal sv r b (settleBind sv r s b).1 ∧
      (release r s b.id).Undisturbed s (settleBind sv r s b).2 ∨
    ∃ x, sv.factory b.controls b.credentials = .ok x.content ∧
      (settleBind sv r s b).1 = (Response.success b.id).withIdentity x.content.identity.name ∧
      (∀ a, ¬ BindRefusal sv r b a) ∧
      ((release r s b.id).setContext s x).Undisturbed s (settleBind sv r s b).2 := by
  have hcounts := authorizeBind_counts r b.credentials.isAnonymous
  simp only [settleBind, clearBind]
  cases hg : r.authorizeBind b.credentials.isAnonymous with
  | mk res r₁ =>
      rw [hg] at hcounts
      have hrelease : (release r s b.id).Undisturbed s (release r₁ s b.id) :=
        Registry.undisturbed_of_counts (release_counts hcounts s b.id)
      cases res with
      | error e => exact Or.inl ⟨.gate (by rw [hg]), hrelease⟩
      | ok u =>
          cases hf : sv.factory b.controls b.credentials with
          | error e => exact Or.inl ⟨.factory hf, hrelease⟩
          | ok content =>
              refine Or.inr ⟨((release r₁ s b.id).share content).1, rfl, rfl, ?_, ?_⟩
              · intro a ha
                cases ha with
                | gate hg' => rw [hg] at hg'; cases hg'
                | factory hf' => rw [hf] at hf'; cases hf'
              · exact (hrelease.setContext _).trans (Registry.undisturbed_of_counts rfl)

theorem registerBind_undisturbed {cr : Credentials} {cs : List Control} {b : PendingBind}
    (hfree : r.lookup s id = none) (hr : registerBind r s id cr cs = (.ok b, r')) :
    r.Undisturbed s (release r' s id) := by
  have hmade := Registry.undisturbed_makeHandle s r id OperationKind.bind.name false none none none
  simp only [registerBind] at hr
  split at hr
  · cases hr
  · rename_i hr₁
    cases hr
    exact hmade.trans (release_undisturbed hfree hr₁ rfl)

theorem registerBind_refused {cr : Credentials} {cs : List Control} {a : Response}
    (hr : registerBind r s id cr cs = (.error a, r')) :
    r.isClosing s = true ∧ a = .ofRefusal id (.sessionClosing s) ∧ r.Undisturbed s r' := by
  cases hc : r.isClosing s with
  | false =>
      have hok := registerBind_of_open hc id cr cs
      rw [hr] at hok
      cases hok
  | true =>
      have hmade := Registry.undisturbed_makeHandle s r id OperationKind.bind.name false none none
        none
      simp only [registerBind] at hr
      rw [Registry.register_refused ((hmade.closing s).trans hc)] at hr
      cases hr
      exact ⟨rfl, rfl, hmade⟩

/-- A bind that has been registered can be refused by the gate and the factory only,
and they stand as they stood before. -/
theorem bindRefusal_iff {q : Request} {dn password : String} {b : PendingBind}
    (hop : q.operation = .bind dn password) (hfree : r.lookup s q.id = none)
    (hb : registerBind r s q.id (.ofBind dn password) q.controls = (.ok b, r₁)) (a : Response) :
    BindRefusal sv r₁ b a ↔ Refusal sv r s q a := by
  obtain ⟨hid, hcr, hcs, -⟩ := registerBind_ok hb
  have hgate : ∀ anonymous, (r₁.authorizeBind anonymous).1 = (r.authorizeBind anonymous).1 := by
    have hallowed := (registerBind_contexts r s q.id (.ofBind dn password) q.controls).2.2
    rw [hb] at hallowed
    exact authorizeBind_congr hallowed
  constructor
  · intro ha
    cases ha with
    | gate hg =>
        rw [hgate, hcr] at hg
        rw [hid]
        exact .gate hop hg
    | factory hf =>
        rw [hcs, hcr] at hf
        rw [hid]
        exact .factory hop hf
  · intro ha
    cases ha with
    | taken hl => rw [hfree] at hl; cases hl
    | closing hc =>
        have hclosing := registerBind_of_closing hc q.id (.ofBind dn password) q.controls
        rw [hb] at hclosing
        cases hclosing
    | busy hop' hcap => rw [hop] at hop'; cases hop'
    | noContext hop' hc' => rw [hop] at hop'; cases hop'
    | gate hop' hg =>
        rw [hop] at hop'
        cases hop'
        rw [← hid]
        exact .gate (by rw [hgate, hcr]; exact hg)
    | factory hop' hf =>
        rw [hop] at hop'
        cases hop'
        rw [← hid]
        exact .factory (by rw [hcs, hcr]; exact hf)

/-- A bind under a free number is refused, or binds what the factory has built. -/
theorem bind_cases {q : Request} {dn password : String} (sv : Services)
    (hop : q.operation = .bind dn password) (hfree : r.lookup s q.id = none) :
    Refusal sv r s q (bind sv r s q.id (.ofBind dn password) q.controls).1 ∧
      r.Undisturbed s (bind sv r s q.id (.ofBind dn password) q.controls).2 ∨
    ∃ x, sv.factory q.controls (.ofBind dn password) = .ok x.content ∧
      (bind sv r s q.id (.ofBind dn password) q.controls).1 =
        (Response.success q.id).withIdentity x.content.identity.name ∧
      (∀ a, ¬ Refusal sv r s q a) ∧
      (r.setContext s x).Undisturbed s
        (bind sv r s q.id (.ofBind dn password) q.controls).2 := by
  simp only [bind]
  cases hb : registerBind r s q.id (.ofBind dn password) q.controls with
  | mk res r₁ =>
      cases res with
      | error a =>
          obtain ⟨hc, rfl, hr⟩ := registerBind_refused hb
          exact Or.inl ⟨.closing hc, hr⟩
      | ok b =>
          obtain ⟨hid, hcr, hcs, -⟩ := registerBind_ok hb
          have hback := registerBind_undisturbed hfree hb
          have hrefusals : ∀ a, BindRefusal sv r₁ b a ↔ Refusal sv r s q a :=
            bindRefusal_iff hop hfree hb
          rcases settleBind_cases sv r₁ s b with ⟨ha, hr⟩ | ⟨x, hf, ha, hno, hr⟩
          · rw [hid] at hr
            exact Or.inl ⟨(hrefusals _).mp ha, hback.trans hr⟩
          · rw [hid] at ha hr
            rw [hcs, hcr] at hf
            exact Or.inr ⟨x, hf, ha, fun a ha' => hno a ((hrefusals a).mpr ha'),
              (hback.setContext x).trans hr⟩

/-! ## Operations for the backend -/

theorem contextFor_counts (r : Registry) (s : SessionId) (op : Operation) (cs : List Control) :
    (contextFor r s op cs).2 = { r with
      stats := (contextFor r s op cs).2.stats
      contextsMade := (contextFor r s op cs).2.contextsMade } := by
  refine Registry.Effect.counts ?_
  simp only [contextFor]
  split
  · have hg := Registry.getRootContext_effect r .isEmpty s cs
    split <;> next h => rw [h] at hg; exact hg
  · exact Registry.getContext_effect r .isEmpty s cs true

/-- Whoever may act without having bound is given a context, or told why not. -/
theorem contextFor_ne_none (r : Registry) (s : SessionId) (op : Operation) (cs : List Control) :
    (contextFor r s op cs).1 ≠ .ok none := by
  simp only [contextFor]
  split
  · split <;> exact fun he => by cases he
  · intro he
    simp only [Registry.getContext, Registry.getContext?] at he
    cases hc : r.contexts.get? s with
    | some x =>
        rw [hc] at he
        dsimp only at he
        cases ha : Access.enforce x.content.isAnonymous r.anonymousAllowed false <;>
          rw [ha] at he <;> cases he
    | none =>
        rw [hc] at he
        simp only [Bool.not_true, Bool.false_eq_true, if_false] at he
        cases ha : Access.enforce true r.anonymousAllowed false with
        | error e =>
            rw [ha] at he
            cases he
        | ok d =>
            cases hf : r.freshContext cs <;> rw [ha, hf] at he <;> cases he

/-- An operation for the backend is refused, or launched if there is no reason to refuse it. -/
theorem launch_refusal {q : Request} (sv : Services) (hop : q.operation.forBackend = true)
    (hfree : r.lookup s q.id = none) :
    (∃ a r', launch sv r s q = (.error a, r') ∧ Refusal sv r s q a ∧ r.Undisturbed s r') ∨
      ∃ j r', launch sv r s q = (.ok j, r') ∧ ∀ a, ¬ Refusal sv r s q a := by
  have hbind : ∀ {dn password}, q.operation ≠ .bind dn password := by
    intro dn password he
    rw [he] at hop
    cases hop
  have hcounts := contextFor_counts r s q.operation q.controls
  have hgiven := contextFor_ne_none r s q.operation q.controls
  by_cases hcap : sv.maxOutstanding ≤ r.outstanding s
  · exact Or.inl ⟨_, r, by simp only [launch, if_pos hcap], .busy hop hcap,
      Registry.undisturbed_refl s r⟩
  simp only [launch, if_neg hcap]
  cases hctx : contextFor r s q.operation q.controls with
  | mk res r₁ =>
      rw [hctx] at hcounts hgiven
      have hmade := Registry.undisturbed_of_counts (s := s) hcounts
      cases res with
      | error e => exact Or.inl ⟨_, r₁, rfl, .noContext hop (by rw [hctx]), hmade⟩
      | ok given =>
          cases given with
          | none => exact absurd rfl hgiven
          | some x =>
              replace hmade := hmade.trans (Registry.undisturbed_makeHandle s r₁ q.id
                q.operation.name true none none (some x))
              have hclosing := hmade.closing s
              dsimp only
              cases hc : r.isClosing s with
              | true =>
                  rw [Registry.register_refused (hclosing.trans hc)]
                  exact Or.inl ⟨_, _, rfl, .closing hc, hmade⟩
              | false =>
                  rw [Registry.register_ok (hclosing.trans hc)]
                  refine Or.inr ⟨_, _, rfl, ?_⟩
                  intro a ha
                  cases ha with
                  | taken hl => rw [hfree] at hl; cases hl
                  | closing hc' => rw [hc] at hc'; cases hc'
                  | busy hop' hcap' => exact hcap hcap'
                  | noContext hop' hc' => rw [hctx] at hc'; cases hc'
                  | gate hop' hg => exact hbind hop'
                  | factory hop' hf => exact hbind hop'

end Parts

/-- What becomes of a request that is answered: it is refused, or it is a bind and goes
through, or it is launched. -/
inductive Settled (sv : Services) (m : Moment) (q : Request) : Scene → Connection → Prop
  | refused {a : Response} {r : Registry}
      (ha : Refusal sv m.scene.registry m.connection.session q a)
      (hr : m.scene.registry.Undisturbed m.connection.session r) :
      Settled sv m q (m.scene.withRegistry r) (m.connection.respond a)
  | bound {dn password : String} {x : SharedContext} {r : Registry}
      (hop : q.operation = .bind dn password)
      (hf : sv.factory q.controls (.ofBind dn password) = .ok x.content)
      (hno : ∀ a, ¬ Refusal sv m.scene.registry m.connection.session q a)
      (hr : (m.scene.registry.setContext m.connection.session x).Undisturbed
        m.connection.session r) :
      Settled sv m q (m.scene.withRegistry r)
        (m.connection.respond ((Response.success q.id).withIdentity x.content.identity.name))
  | launched {j : Job} {r : Registry} (hop : q.operation.forBackend = true)
      (hl : launch sv m.scene.registry m.connection.session q = (.ok j, r))
      (hno : ∀ a, ¬ Refusal sv m.scene.registry m.connection.session q a) :
      Settled sv m q (m.scene.withRegistry r)
        { m.connection with jobs := m.connection.jobs ++ [j] }

theorem settled (sv : Services) {m : Moment} {q : Request} (hq : m.request? = some q)
    (hop : q.operation.isAnswered = true) : Settled sv m q (m.next sv).1 (m.next sv).2 := by
  have hc : m.Comes sv (m.next sv).1 (m.next sv).2 := Moment.comes_of_request hq
  generalize m.next sv = p at hc ⊢
  obtain ⟨w', c'⟩ := p
  dsimp only at hc ⊢
  cases hc with
  | left hl =>
      rw [Moment.leaves_of_request hq, decide_eq_true_eq] at hl
      rw [hl] at hop
      cases hop
  | abandoned hq' hop' =>
      rw [hq] at hq'
      cases hq'
      rw [hop'] at hop
      cases hop
  | taken hq' hop' hl =>
      rw [hq] at hq'
      cases hq'
      exact .refused (.taken hl) (Registry.undisturbed_refl _ _)
  | bound hq' hop' hfree =>
      rw [hq] at hq'
      cases hq'
      rcases bind_cases sv hop' hfree with ⟨ha, hr⟩ | ⟨x, hf, ha, hno, hr⟩
      · exact .refused ha hr
      · rw [ha]
        exact .bound hop' hf hno hr
  | refused hq' hop' hfree hl =>
      rw [hq] at hq'
      cases hq'
      rcases launch_refusal sv hop' hfree with ⟨a, r, hl', ha, hr⟩ | ⟨j, r, hl', -⟩
      · rw [hl] at hl'
        cases hl'
        exact .refused ha hr
      · rw [hl] at hl'
        cases hl'
  | launched hq' hop' hfree hl =>
      rw [hq] at hq'
      cases hq'
      rcases launch_refusal sv hop' hfree with ⟨a, r, hl', -⟩ | ⟨j, r, hl', hno⟩
      · rw [hl] at hl'
        cases hl'
      · exact .launched hop' hl hno
  | begun ht hb => simp [Moment.request?, ht] at hq
  | settled ht hb => simp [Moment.request?, ht] at hq
  | malformed ht hm =>
      rw [Moment.no_request_of_malformed hm] at hq
      cases hq
  | overlong ht => simp [Moment.request?, ht] at hq
  | blank ht hb => simp [Moment.request?, ht, hb] at hq
  | finished ht => simp [Moment.request?, ht] at hq
  | acted ht => simp [Moment.request?, ht] at hq

theorem request_leaves_no_trace (sv : Services) {m : Moment} {q : Request}
    (hq : m.request? = some q) (hop : q.operation.isAnswered = true) :
    (∀ a, (m.next sv).2.responses = m.connection.responses ++ [a] → a.status ≠ .success →
      Refusal sv m.scene.registry m.connection.session q a ∧
        (m.next sv).2 = m.connection.respond a ∧
        ∃ r, (m.next sv).1 = m.scene.withRegistry r ∧
          m.scene.registry.Undisturbed m.connection.session r) ∧
    (∀ a, (m.next sv).2.responses = m.connection.responses ++ [a] → a.status = .success →
      ∃ dn password content x, q.operation = .bind dn password ∧
        sv.factory q.controls (.ofBind dn password) = .ok content ∧ x.content = content ∧
        a = (Response.success q.id).withIdentity content.identity.name ∧
        (m.next sv).2 = m.connection.respond a ∧
        ∃ r, (m.next sv).1 = m.scene.withRegistry r ∧
          (m.scene.registry.setContext m.connection.session x).Undisturbed
            m.connection.session r) ∧
    ((∃ a, Refusal sv m.scene.registry m.connection.session q a) ↔
      ∃ a, (m.next sv).2.responses = m.connection.responses ++ [a] ∧ a.status ≠ .success) ∧
    ((∃ a, (m.next sv).2 = m.connection.respond a) ∨
      ∃ j r, q.operation.forBackend = true ∧
        launch sv m.scene.registry m.connection.session q = (.ok j, r) ∧
        m.next sv =
          (m.scene.withRegistry r, { m.connection with jobs := m.connection.jobs ++ [j] })) := by
  have hs := settled sv hq hop
  generalize m.next sv = p at hs ⊢
  obtain ⟨w', c'⟩ := p
  dsimp only at hs ⊢
  cases hs with
  | @refused a r ha hr =>
      refine ⟨?_, ?_, ⟨fun _ => ⟨a, rfl, ha.status⟩, fun _ => ⟨a, ha⟩⟩, Or.inl ⟨a, rfl⟩⟩
      · intro b hb _
        cases List.append_cancel_left hb
        exact ⟨ha, rfl, r, rfl, hr⟩
      · intro b hb hstatus
        cases List.append_cancel_left hb
        exact absurd hstatus ha.status
  | @bound dn password x r hop hf hno hr =>
      refine ⟨?_, ?_, ⟨fun ⟨a, ha⟩ => absurd ha (hno a), ?_⟩, Or.inl ⟨_, rfl⟩⟩
      · intro b hb hstatus
        cases List.append_cancel_left hb
        exact absurd rfl hstatus
      · intro b hb _
        cases List.append_cancel_left hb
        exact ⟨dn, password, _, x, hop, hf, rfl, rfl, rfl, r, rfl, hr⟩
      · rintro ⟨b, hb, hstatus⟩
        cases List.append_cancel_left hb
        exact absurd rfl hstatus
  | @launched j r hop hl hno =>
      have hsilent : ∀ a, m.connection.responses ≠ m.connection.responses ++ [a] := by
        intro a ha
        have hlength := congrArg List.length ha
        simp at hlength
      exact ⟨fun a ha => absurd ha (hsilent a), fun a ha => absurd ha (hsilent a),
        ⟨fun ⟨a, ha⟩ => absurd ha (hno a), fun ⟨a, ha, _⟩ => absurd ha (hsilent a)⟩,
        Or.inr ⟨j, r, hop, hl, rfl⟩⟩

/-- A bind that begins leaves nothing but its own request behind. -/
theorem begun_undisturbed (sv : Services) {m : Moment} {b : PendingBind}
    (hb : m.begun? = some b) :
    ∃ r, m.next sv = (m.scene.withRegistry r, { m.connection with pending := some b }) ∧
      r.lookup m.connection.session b.id = some b.handle ∧
      m.scene.registry.Undisturbed m.connection.session
        (release r m.connection.session b.id) := by
  obtain ⟨t, r, ht, hbegin⟩ := Moment.turn_of_begun hb
  obtain ⟨id, dn, password, cs, -, -, hfree, hr⟩ := beginBind?_eq_some.mp hbegin
  obtain ⟨rfl, -, -, hreg⟩ := registerBind_ok hr
  refine ⟨r, ?_, ?_, registerBind_undisturbed hfree hr⟩
  · simp only [Moment.next, ht, hbegin]
  · rw [hreg.lookup, if_pos rfl]

theorem settled_leaves_no_trace (sv : Services) {m : Moment} {b : PendingBind}
    (ht : m.turn = .settle) (hb : m.connection.pending = some b) :
    ∃ a r, m.next sv = (m.scene.withRegistry r,
        { m.connection with pending := none }.respond a) ∧
      ((∃ a', BindRefusal sv m.scene.registry b a') ↔ a.status ≠ .success) ∧
      (a.status ≠ .success → BindRefusal sv m.scene.registry b a ∧
        (release m.scene.registry m.connection.session b.id).Undisturbed
          m.connection.session r) ∧
      (a.status = .success → ∃ x, sv.factory b.controls b.credentials = .ok x.content ∧
        a = (Response.success b.id).withIdentity x.content.identity.name ∧
        ((release m.scene.registry m.connection.session b.id).setContext
          m.connection.session x).Undisturbed m.connection.session r) := by
  have hn : m.next sv = m.connection.settle sv m.scene b := by
    simp only [Moment.next, ht, hb]
  rw [hn]
  refine ⟨_, _, rfl, ?_⟩
  rcases settleBind_cases sv m.scene.registry m.connection.session b with
    ⟨ha, hr⟩ | ⟨x, hf, ha, hno, hr⟩
  · exact ⟨⟨fun _ => ha.status, fun _ => ⟨_, ha⟩⟩, fun _ => ⟨ha, hr⟩,
      fun hstatus => absurd hstatus ha.status⟩
  · have hstatus : (settleBind sv m.scene.registry m.connection.session b).1.status =
        .success := by
      rw [ha]
      rfl
    refine ⟨⟨?_, fun h => absurd hstatus h⟩, fun h => absurd hstatus h,
      fun _ => ⟨x, hf, ha, hr⟩⟩
    rintro ⟨a, h⟩
    exact absurd h (hno a)

/-- A connection's bind, search or identity query is answered at once, or it is launched as a
job and not answered yet.  It is answered with something else than success exactly when
there is a reason to refuse it, and then the answer gives one.  In that case the connection
has answered and reads on, with the jobs that it had; and for all sessions the records, the
bound contexts, the outstanding requests and the handles are what they were.  If it is
answered with success it is a bind, and all this is so too, but that the session has bound
to it what the factory has built from the controls and the credentials.

So it is with a bind whose request stays registered for others to see before it is answered.
Until then its request is all that it adds; and whatever was done in between, when it is
answered its request is taken out, and nothing else is done but to bind the context, if it is
answered with success. -/
theorem refused_request_leaves_no_trace (sv : Services) (m : Moment) :
    (∀ q, m.request? = some q → q.operation.isAnswered = true →
      (∀ a, (m.next sv).2.responses = m.connection.responses ++ [a] → a.status ≠ .success →
        Refusal sv m.scene.registry m.connection.session q a ∧
          (m.next sv).2 = m.connection.respond a ∧
          ∃ r, (m.next sv).1 = m.scene.withRegistry r ∧
            m.scene.registry.Undisturbed m.connection.session r) ∧
      (∀ a, (m.next sv).2.responses = m.connection.responses ++ [a] → a.status = .success →
        ∃ dn password content x, q.operation = .bind dn password ∧
          sv.factory q.controls (.ofBind dn password) = .ok content ∧ x.content = content ∧
          a = (Response.success q.id).withIdentity content.identity.name ∧
          (m.next sv).2 = m.connection.respond a ∧
          ∃ r, (m.next sv).1 = m.scene.withRegistry r ∧
            (m.scene.registry.setContext m.connection.session x).Undisturbed
              m.connection.session r) ∧
      ((∃ a, Refusal sv m.scene.registry m.connection.session q a) ↔
        ∃ a, (m.next sv).2.responses = m.connection.responses ++ [a] ∧ a.status ≠ .success) ∧
      ((∃ a, (m.next sv).2 = m.connection.respond a) ∨
        ∃ j r, q.operation.forBackend = true ∧
          launch sv m.scene.registry m.connection.session q = (.ok j, r) ∧
          m.next sv =
            (m.scene.withRegistry r, { m.connection with jobs := m.connection.jobs ++ [j] }))) ∧
    (∀ b, m.begun? = some b →
      ∃ r, m.next sv = (m.scene.withRegistry r, { m.connection with pending := some b }) ∧
        r.lookup m.connection.session b.id = some b.handle ∧
        m.scene.registry.Undisturbed m.connection.session
          (release r m.connection.session b.id)) ∧
    (∀ b, m.turn = .settle → m.connection.pending = some b →
      ∃ a r, m.next sv = (m.scene.withRegistry r,
          { m.connection with pending := none }.respond a) ∧
        ((∃ a', BindRefusal sv m.scene.registry b a') ↔ a.status ≠ .success) ∧
        (a.status ≠ .success → BindRefusal sv m.scene.registry b a ∧
          (release m.scene.registry m.connection.session b.id).Undisturbed
            m.connection.session r) ∧
        (a.status = .success → ∃ x, sv.factory b.controls b.credentials = .ok x.content ∧
          a = (Response.success b.id).withIdentity x.content.identity.name ∧
          ((release m.scene.registry m.connection.session b.id).setContext
            m.connection.session x).Undisturbed m.connection.session r)) :=
  ⟨fun _ hq hop => request_leaves_no_trace sv hq hop, fun _ hb => begun_undisturbed sv hb,
    fun _ ht hb => settled_leaves_no_trace sv ht hb⟩

/-- A client that is bound and waits for an answer tries to bind under another name, without a
password. -/
def bindingInVain : Moment :=
  ⟨asking.1, asking.2, .receive (.line "\x7b\"id\":3,\"op\":\"bind\",\"dn\":\"cn=b\"\x7d")⟩

/-- It is told why not, is who it was, and the answer is still to come. -/
theorem bound_as_before_the_refusal :
    ∃ a r, (bindingInVain.next directoryServices).2 = asking.2.respond a ∧
      a.message = some "invalid credentials: unauthenticated bind for cn=b" ∧
      (bindingInVain.next directoryServices).1 = asking.1.withRegistry r ∧
      r.contexts.get? ⟨"s"⟩ = some firstContext ∧ r.lookup ⟨"s"⟩ ⟨2⟩ = some ⟨1⟩ ∧
      (∃ y, r.handle? ⟨1⟩ = some y ∧ y.context = some firstContext) ∧
      r.lookup ⟨"s"⟩ ⟨3⟩ = none := by
  have hq : bindingInVain.request? = some ⟨⟨3⟩, .bind "cn=b" "", []⟩ := by decide +kernel
  have hrefused := ((refused_request_leaves_no_trace directoryServices bindingInVain).1 _ hq rfl).1
  have hnext : (bindingInVain.next directoryServices).2.responses = asking.2.responses ++
      [.ofRefusal ⟨3⟩ (.contextCreationFailed
        (.invalidCredentials "unauthenticated bind for cn=b"))] := by
    rw [Moment.next_of_request hq]
    rfl
  obtain ⟨-, hresponded, r, hscene, hr⟩ := hrefused _ hnext (ofRefusal_status _ _)
  refine ⟨_, r, hresponded, rfl, hscene, ?_, ?_, ⟨_, hr.handle? rfl, rfl⟩, ?_⟩
  · rw [hr.rest]
    rfl
  · rw [Registry.lookup, hr.outstanding]
    rfl
  · rw [Registry.lookup, hr.outstanding]
    rfl

end Connection

end DirectorySessions
