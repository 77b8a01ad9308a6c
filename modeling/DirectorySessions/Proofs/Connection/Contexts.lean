/-
# Operations run under the context of their dispatch

When a request for the backend is taken in, its context is settled: it is the one that
is bound to the session then, or, if none is, one that is made of the request's own
controls (`Registry.InForce`).  The job and its handle are given that context
(`Dispatched`) and keep it, so that it does not matter to the answer what is bound,
dropped or closed before the operation is done.

What is bound at which moment is told by the changes that were made up to then
(`Diary.contexts`): those that operations of the registry make on their way
(`Machine.binding?`), and those that the connection makes itself by a bind that goes
through (`Moment.binding?`), in the moment in which the bind is settled.

Nothing is assumed of the others, who may bind, drop and replace what they like,
within callbacks as well; nor of the factory, which may fail.  That a job and its
handle keep their context is a fact about each moment (`Comes.kept`), and goes from
there to diaries.
-/
import DirectorySessions.Proofs.Connection.Departure
import DirectorySessions.Proofs.Connection.Gate
import DirectorySessions.Proofs.Registry.Bindings

namespace DirectorySessions

/-! ## The context in force -/

namespace Registry

variable {r r' : Registry} {s : SessionId} {cs : List Control} {x : SharedContext}

/-- The context of a request with these controls: what is bound to the session, or else
a fresh one. -/
def InForce (r : Registry) (s : SessionId) (cs : List Control) (x : SharedContext) : Prop :=
  r.contexts.get? s = some x ∨
    r.contexts.get? s = none ∧
      ∃ content, r.config.anonymousContext cs = .ok content ∧ x = (r.share content).1

theorem freshContext_inForce (hs : r.contexts.get? s = none)
    (h : r.freshContext cs = .ok (x, r')) : r.InForce s cs x := by
  refine Or.inr ⟨hs, ?_⟩
  cases hc : r.config.anonymousContext cs with
  | error e =>
      rw [freshContext, hc] at h
      cases h
  | ok content =>
      rw [freshContext, hc] at h
      cases h
      exact ⟨content, rfl, rfl⟩

theorem getRootContext_inForce (h : r.getRootContext s cs = (.ok x, r')) : r.InForce s cs x := by
  simp only [getRootContext] at h
  cases hs : r.contexts.get? s with
  | some y =>
      rw [hs] at h
      cases h
      exact Or.inl hs
  | none =>
      rw [hs] at h
      dsimp only at h
      split at h
      · next hf =>
        cases h
        exact freshContext_inForce hs hf
      · cases h

theorem getContext_inForce {b : Bool} (h : r.getContext s cs b = (.ok (some x), r')) :
    r.InForce s cs x := by
  rcases getContext_eq_some h with ⟨hs, -⟩ | ⟨hs, -, hf⟩
  · exact Or.inl hs
  · exact freshContext_inForce hs hf

end Registry

namespace Connection

section

variable {sv : Services} {r r' : Registry} {s : SessionId} {q : Request} {j : Job}

theorem contextFor_inForce {op : Operation} {cs : List Control} {x : SharedContext}
    (h : contextFor r s op cs = (.ok (some x), r')) : r.InForce s cs x := by
  simp only [contextFor] at h
  split at h
  · cases hg : r.getRootContext s cs with
    | mk res r₁ =>
        rw [hg] at h
        cases res with
        | error e => cases h
        | ok y =>
            cases h
            exact Registry.getRootContext_inForce hg
  · exact Registry.getContext_inForce h

/-- A request is handed to the backend: its job has the context in force, the work was
begun under it, and the handle has it too. -/
structure Dispatched (sv : Services) (r : Registry) (s : SessionId) (q : Request) (j : Job)
    (r' : Registry) : Prop where
  id : j.id = q.id
  operation : j.operation = q.operation
  context : r.InForce s q.controls j.context
  work : j.work = sv.backend.start j.operation j.context.content
  recorded : ∃ y, r'.handle? j.handle = some y ∧ y.context = some j.context

theorem launch_dispatched (h : launch sv r s q = (.ok j, r')) : Dispatched sv r s q j r' := by
  unfold launch at h
  split at h
  · cases h
  · split at h
    · cases h
    · cases h
    · next x r₁ hc =>
      dsimp only at h
      cases hr : (r₁.makeHandle q.id q.operation.name true none none (some x)).2.register s q.id
          (r₁.makeHandle q.id q.operation.name true none none (some x)).1 with
      | error e =>
          rw [hr] at h
          cases h
      | ok r₂ =>
          rw [hr] at h
          cases h
          refine ⟨rfl, rfl, contextFor_inForce hc, rfl,
            ⟨q.id, q.operation.name, true, .own r₁.nextHandle, none, some x, false⟩, ?_, rfl⟩
          simp only [Registry.handle?, Machine.register_handles hr]
          exact List.getElem?_concat_length

theorem launch_contexts (sv : Services) (r : Registry) (s : SessionId) (q : Request) :
    (launch sv r s q).2.contexts = r.contexts := by
  have hctx : (contextFor r s q.operation q.controls).2.contexts = r.contexts := by
    simp only [contextFor]
    split
    · have hg := Registry.getRootContext_contexts r s q.controls
      split <;> next h => rw [h] at hg; exact hg
    · exact Registry.getContext_contexts r s q.controls true
  unfold launch
  split
  · rfl
  · split <;> next hc =>
      rw [hc] at hctx
      first
        | exact hctx
        | dsimp only
          split
          · exact hctx
          · next hr => exact (Registry.register_contexts hr).trans hctx

/-! ## What a bind binds -/

/-- The context that a registered bind binds when it is settled, if the gate and the
factory let it. -/
def clearedBy? (sv : Services) (r : Registry) (credentials : Credentials)
    (controls : List Control) : Option SharedContext :=
  match (r.authorizeBind credentials.isAnonymous).1, sv.factory controls credentials with
  | .ok (), .ok content => some (r.share content).1
  | _, _ => none

/-- The context that a bind binds to the session, if it goes through. -/
def boundBy? (sv : Services) (r : Registry) (s : SessionId) (credentials : Credentials)
    (controls : List Control) : Option SharedContext :=
  if r.isClosing s then none else clearedBy? sv r credentials controls

theorem release_contexts (r : Registry) (s : SessionId) (id : RequestId) :
    (release r s id).contexts = r.contexts := by
  simp only [release]
  split
  · next hc => exact Registry.complete_contexts hc
  · rfl

theorem release_contextsMade (r : Registry) (s : SessionId) (id : RequestId) :
    (release r s id).contextsMade = r.contextsMade := by
  simp only [release, Registry.complete]
  cases r.lookup s id <;> rfl

theorem authorizeBind_contextsMade (r : Registry) (b : Bool) :
    (r.authorizeBind b).2.contextsMade = r.contextsMade := by
  simp only [Registry.authorizeBind, Registry.noteDenied]
  split
  · rfl
  · split <;> rfl

theorem authorizeBind_congr (h : r'.anonymousAllowed = r.anonymousAllowed) (b : Bool) :
    (r'.authorizeBind b).1 = (r.authorizeBind b).1 := by
  simp only [Registry.authorizeBind, h]
  split <;> rfl

theorem clearedBy?_congr (hallowed : r'.anonymousAllowed = r.anonymousAllowed)
    (hmade : r'.contextsMade = r.contextsMade) (cr : Credentials) (cs : List Control) :
    clearedBy? sv r' cr cs = clearedBy? sv r cr cs := by
  simp only [clearedBy?, authorizeBind_congr hallowed, Registry.share, hmade]

/-- A registered bind binds its context, or leaves the bound contexts as they are. -/
theorem settleBind_contexts (sv : Services) (r : Registry) (s : SessionId) (b : PendingBind) :
    (settleBind sv r s b).2.contexts =
      ((clearedBy? sv r b.credentials b.controls).map (Binding.bound s)).toList.foldl
        Binding.apply r.contexts := by
  have hcontexts := Registry.authorizeBind_contexts r b.credentials.isAnonymous
  have hmade := authorizeBind_contextsMade r b.credentials.isAnonymous
  simp only [settleBind, clearBind, clearedBy?]
  generalize r.authorizeBind b.credentials.isAnonymous = p at hcontexts hmade ⊢
  obtain ⟨res, r₁⟩ := p
  dsimp only at hcontexts hmade ⊢
  cases res with
  | error e => rw [release_contexts, hcontexts]; rfl
  | ok _ =>
      cases sv.factory b.controls b.credentials with
      | error e =>
          show (release r₁ s b.id).contexts = _
          rw [release_contexts, hcontexts]
          rfl
      | ok content =>
          show (release r₁ s b.id).contexts.insert s ⟨(release r₁ s b.id).contextsMade, content⟩ = _
          rw [release_contexts, release_contextsMade, hcontexts, hmade]
          rfl

/-- To register a bind leaves the bound contexts as they are, and what is needed to
make another. -/
theorem registerBind_contexts (r : Registry) (s : SessionId) (id : RequestId)
    (cr : Credentials) (cs : List Control) :
    (registerBind r s id cr cs).2.contexts = r.contexts ∧
      (registerBind r s id cr cs).2.contextsMade = r.contextsMade ∧
      (registerBind r s id cr cs).2.anonymousAllowed = r.anonymousAllowed := by
  simp only [registerBind]
  split
  · exact ⟨rfl, rfl, rfl⟩
  · rename_i hr
    rw [Registry.register_ok (Registry.not_closing_of_register hr)] at hr
    cases hr
    exact ⟨rfl, rfl, rfl⟩

theorem bind_contexts (sv : Services) (r : Registry) (s : SessionId) (id : RequestId)
    (cr : Credentials) (cs : List Control) :
    (bind sv r s id cr cs).2.contexts =
      ((boundBy? sv r s cr cs).map (Binding.bound s)).toList.foldl Binding.apply r.contexts := by
  obtain ⟨hcontexts, hmade, hallowed⟩ := registerBind_contexts r s id cr cs
  have hclosing : r.isClosing s = true → _ := fun hc => registerBind_of_closing hc id cr cs
  have hopen : r.isClosing s = false → _ := fun hc => registerBind_of_open hc id cr cs
  simp only [bind, boundBy?]
  generalize registerBind r s id cr cs = p at hcontexts hmade hallowed hclosing hopen ⊢
  obtain ⟨res, r₁⟩ := p
  dsimp only at hcontexts hmade hallowed hclosing hopen ⊢
  cases hc : r.isClosing s with
  | true =>
      rw [hclosing hc, if_pos rfl]
      exact hcontexts
  | false =>
      rw [hopen hc, if_neg Bool.false_ne_true]
      dsimp only
      rw [settleBind_contexts, clearedBy?_congr hallowed hmade, hcontexts]

end

/-! ## Moments -/

namespace Moment

variable {sv : Services} {allows : Scene → Action → Prop} {m : Moment} {w' : Scene}
  {c' : Connection}

/-- What the connection itself does to the bound contexts next, by a bind that goes through. -/
def binding? (sv : Services) (m : Moment) : Option Binding :=
  match m.turn with
  | .settle => m.connection.pending.bind fun b =>
    (clearedBy? sv m.scene.registry b.credentials b.controls).map (.bound m.connection.session)
  | _ => match m.request? with
    | some ⟨id, .bind dn password, controls⟩ =>
      if (m.scene.registry.lookup m.connection.session id).isSome then none
      else (boundBy? sv m.scene.registry m.connection.session (.ofBind dn password) controls).map
        (.bound m.connection.session)
    | _ => none

/-- All that is done to the bound contexts next. -/
def bindings (sv : Services) (m : Moment) : List Binding :=
  m.passage.filterMap Machine.binding? ++ (m.binding? sv).toList

theorem binding?_of_no_request (hq : m.request? = none) (ht : m.turn ≠ .settle) :
    m.binding? sv = none := by
  unfold binding?
  split
  · exact absurd ‹_› ht
  · simp only [hq]

theorem binding?_of_request {q : Request} (hq : m.request? = some q)
    (hop : ∀ dn password, q.operation ≠ .bind dn password) : m.binding? sv = none := by
  obtain ⟨t, ht, -, -⟩ := turn_of_request hq
  obtain ⟨id, op, cs⟩ := q
  simp only [binding?, ht, hq]
  cases op with
  | bind dn password => exact absurd rfl (hop dn password)
  | _ => rfl

theorem binding?_of_taken {q : Request} {h : HandleId} (hq : m.request? = some q)
    (hl : m.scene.registry.lookup m.connection.session q.id = some h) :
    m.binding? sv = none := by
  obtain ⟨t, ht, -, -⟩ := turn_of_request hq
  obtain ⟨id, op, cs⟩ := q
  dsimp only at hl
  simp only [binding?, ht, hq]
  cases op with
  | bind dn password => simp only [hl, Option.isSome_some, if_true]
  | _ => rfl

theorem binding?_of_action {a : Action} (ha : m.action? = some a) : m.binding? sv = none := by
  cases hq : m.request? with
  | none =>
      refine binding?_of_no_request hq ?_
      intro ht
      simp [action?, leaves, request?, ht] at ha
  | some q =>
      refine binding?_of_request hq fun dn password hop => ?_
      rw [action?_of_answered hq (by rw [hop]; rfl)] at ha
      cases ha

/-- What the connection does itself leaves the bound contexts as they are, unless it is a
bind that goes through. -/
theorem own_contexts (hp : m.Possible allows) (ha : m.action? = none) :
    (m.next sv).1.registry.contexts =
      (m.binding? sv).toList.foldl Binding.apply m.scene.registry.contexts := by
  have still : ∀ {r : Registry}, m.binding? sv = none → r.contexts = m.scene.registry.contexts →
      r.contexts = (m.binding? sv).toList.foldl Binding.apply m.scene.registry.contexts := by
    intro r hb hr
    rw [hb, hr]
    rfl
  have hc := comes sv hp
  generalize m.next sv = p at hc ⊢
  obtain ⟨w', c'⟩ := p
  cases hc with
  | left hl => simp [action?, hl] at ha
  | @abandoned q target hq hop =>
      obtain ⟨t, ht, -, -⟩ := turn_of_request hq
      simp [action?, leaves_of_request hq, ht, hq, hop] at ha
  | acted ht => simp [action?, leaves, request?, ht] at ha
  | taken hq hop hl => exact still (binding?_of_taken hq hl) rfl
  | @bound q dn password hq hop hfree =>
      obtain ⟨id, op, cs⟩ := q
      cases hop
      obtain ⟨t, ht, -, -⟩ := turn_of_request hq
      have hb := bind_contexts sv m.scene.registry m.connection.session id (.ofBind dn password) cs
      have hown : m.binding? sv = (boundBy? sv m.scene.registry m.connection.session
          (.ofBind dn password) cs).map (.bound m.connection.session) := by
        simp only [binding?, ht, hq, hfree, Option.isSome_none, Bool.false_eq_true, if_false]
      rw [hown]
      exact hb
  | @begun t b r ht hb =>
      obtain ⟨id, dn, password, cs, -, -, -, hr⟩ := beginBind?_eq_some.mp hb
      refine still (binding?_of_no_request (by simp only [request?, ht]) (by simp [ht])) ?_
      have hcontexts := (registerBind_contexts m.scene.registry m.connection.session id
        (.ofBind dn password) cs).1
      rw [hr] at hcontexts
      exact hcontexts
  | @settled b ht hb =>
      have hown : m.binding? sv = (clearedBy? sv m.scene.registry b.credentials b.controls).map
          (.bound m.connection.session) := by
        simp only [binding?, ht, hb, Option.bind_some]
      rw [hown]
      exact settleBind_contexts sv m.scene.registry m.connection.session b
  | refused hq hop hfree hl =>
      refine still (binding?_of_request hq fun dn password ho => ?_) ?_
      · rw [ho] at hop
        cases hop
      · rw [← launch_contexts sv m.scene.registry, hl]
  | launched hq hop hfree hl =>
      refine still (binding?_of_request hq fun dn password ho => ?_) ?_
      · rw [ho] at hop
        cases hop
      · rw [← launch_contexts sv m.scene.registry, hl]
  | malformed ht hm =>
      exact still (binding?_of_no_request (no_request_of_malformed hm) (by simp [ht])) rfl
  | overlong ht =>
      exact still (binding?_of_no_request (by simp only [request?, ht]) (by simp [ht])) rfl
  | blank ht hb =>
      exact still (binding?_of_no_request (by simp only [request?, ht, hb, if_true])
        (by simp [ht])) rfl
  | @finished j o ht =>
      refine still (binding?_of_no_request (by simp only [request?, ht]) (by simp [ht])) ?_
      rw [finishJob_registry, release_contexts]

/-- What is told of a moment is all that is done to the bound contexts. -/
theorem next_contexts (sv : Services) (hp : m.Possible allows) :
    (m.next sv).1.registry.contexts =
      (m.bindings sv).foldl Binding.apply m.scene.registry.contexts := by
  rw [bindings, List.foldl_append]
  cases follows sv hp with
  | operation a ha hown hn =>
      rw [hn, binding?_of_action ha, passage_of_action ha, Scene.perform_contexts]
      rfl
  | own ha ht =>
      rw [own_contexts hp ha, passage_of_none ha]
      rfl

/-! ## What a moment keeps -/

theorem Comes.session (h : m.Comes sv w' c') : c'.session = m.connection.session := by
  cases h with
  | @finished j o ht =>
      cases hl : m.scene.registry.lookup m.connection.session j.id with
      | none => rw [finishJob_of_none hl]; rfl
      | some h => rw [(finishJob_of_some hl o).2]; rfl
  | _ => rfl

theorem Comes.kept (h : m.Comes sv w' c') : m.scene.registry.Kept w'.registry := by
  cases h with
  | left hl => exact Scene.perform_kept _ _
  | abandoned hq hop => exact Scene.perform_kept _ _
  | acted ht => exact Scene.perform_kept _ _
  | bound hq hop hfree => exact (bind_spec sv _ _ hfree).2
  | refused hq hop hfree hl => exact (launch_error hl).2
  | launched hq hop hfree hl => exact (launch_ok hl).2.kept
  | begun ht hb =>
      obtain ⟨id, dn, password, cs, -, -, -, hr⟩ := beginBind?_eq_some.mp hb
      exact (registerBind_ok hr).2.2.2.kept
  | settled ht hb => exact (settleBind_spec sv _ _ _).2
  | @finished j o ht =>
      rw [finishJob_registry]
      exact Registry.kept_of_handles (release_handles _ _ _)
  | _ => exact Registry.kept_refl _

theorem Comes.jobs {j : Job} (h : m.Comes sv w' c') (hj : j ∈ c'.jobs) :
    j ∈ m.connection.jobs ∨
      ∃ q, m.request? = some q ∧
        Dispatched sv m.scene.registry m.connection.session q j w'.registry := by
  cases h with
  | @launched q k r hq hop hfree hl =>
      rcases List.mem_append.mp hj with hj | hj
      · exact Or.inl hj
      · cases List.mem_singleton.mp hj
        exact Or.inr ⟨q, hq, launch_dispatched hl⟩
  | finished ht =>
      rw [finishJob_jobs] at hj
      exact Or.inl (List.mem_filter.mp hj).1
  | _ => exact Or.inl hj

end Moment

namespace Diary

variable {sv : Services} {allows : Scene → Action → Prop} {w₀ w : Scene} {s : SessionId}
  {ms : List Moment} {c : Connection} {j : Job}

theorem session (h : Diary sv allows w₀ s ms w c) : c.session = s := by
  induction h with
  | accept => rfl
  | turn h t hp ih => exact (Moment.comes sv hp).session.trans ih

theorem contexts (h : Diary sv allows w₀ s ms w c) :
    w.registry.contexts =
      (ms.flatMap (Moment.bindings sv)).foldl Binding.apply w₀.registry.contexts := by
  induction h with
  | accept => rfl
  | turn h t hp ih =>
      rw [Moment.next_contexts sv hp, ih, List.flatMap_append, List.flatMap_singleton,
        List.foldl_append]

/-- Every job was handed to the backend at some moment, and its handle is still there. -/
theorem dispatched (h : Diary sv allows w₀ s ms w c) (hj : j ∈ c.jobs) :
    ∃ ms₁ m ms₂ q, ms = ms₁ ++ m :: ms₂ ∧ Diary sv allows w₀ s ms₁ m.scene m.connection ∧
      m.request? = some q ∧
      Dispatched sv m.scene.registry s q j (m.next sv).1.registry ∧
      (m.next sv).1.registry.Kept w.registry := by
  induction h with
  | accept => exact absurd hj List.not_mem_nil
  | @turn ms w c h t hp ih =>
      have hc := Moment.comes sv hp
      rcases hc.jobs hj with hj | ⟨q, hq, hd⟩
      · obtain ⟨ms₁, m, ms₂, q, rfl, h₁, hq, hd, hk⟩ := ih hj
        exact ⟨ms₁, m, ms₂ ++ [⟨w, c, t⟩], q, by simp, h₁, hq, hd, Registry.kept_trans hk hc.kept⟩
      · rw [h.session] at hd
        exact ⟨ms, ⟨w, c, t⟩, [], q, rfl, h, hq, hd, Registry.kept_refl _⟩

theorem kept (h : Diary sv allows w₀ s ms w c) {m : Moment} (hm : m ∈ ms) :
    m.scene.registry.Kept w.registry := by
  induction h with
  | accept => exact absurd hm List.not_mem_nil
  | @turn ms w c h t hp ih =>
      have hc := Moment.comes sv hp
      rcases List.mem_append.mp hm with hm | hm
      · exact Registry.kept_trans (ih hm) hc.kept
      · cases List.mem_singleton.mp hm
        exact hc.kept

end Diary

/-! ## Answers -/

section

variable {sv : Services} {j : Job} {o : Outcome}

theorem directory_outcome {delay t : Nat} {at? : Option Nat}
    (hw : j.work = sv.backend.start j.operation j.context.content)
    (hb : sv.backend = .directory delay) (hf : j.work.finish at? = some (t, o))
    (ho : o ≠ .cancelled) : o = Backend.answer j.operation j.context.content := by
  rcases Work.finish_outcome hf with rfl | ⟨rfl, -⟩
  · rw [hw, hb]
    rfl
  · exact absurd rfl ho

theorem finishJob_responses (w : Scene) (c : Connection) (j : Job) (o : Outcome) :
    (c.finishJob w j o).2.responses = c.responses ∨
      (c.finishJob w j o).2.responses = c.responses ++ [.ofOutcome j.id o] := by
  cases hl : w.registry.lookup c.session j.id with
  | none => rw [finishJob_of_none hl]; exact Or.inl rfl
  | some h => rw [(finishJob_of_some hl o).2]; exact Or.inr rfl

end

/-- For every run of a connection, whatever others do to the registry: at each moment, also
within an operation and its callbacks, what is bound to a session is what was bound to it
last, unless it was dropped since; asking for a context changes nothing of it.  Every job
that the connection has or had was handed to the backend, for a request that it took in,
under the context that was in force then; the handle still has that context, whatever was
bound or dropped or closed since; and when the job is done, the directory's answer
names the identity of that context. -/
theorem operations_keep_their_context {sv : Services} {allows : Scene → Action → Prop}
    {w₀ w : Scene} {s : SessionId} {ms : List Moment} {c : Connection}
    (h : Diary sv allows w₀ s ms w c) :
    (∀ s' x, w.registry.contexts.get? s' = some x ↔
      Binding.Holds w₀.registry.contexts (ms.flatMap (Moment.bindings sv)) s' x) ∧
    (∀ a ms₁ m ms₂, w.passage a = ms₁ ++ m :: ms₂ →
      ∀ s' x, m.scene.registry.contexts.get? s' = some x ↔
        Binding.Holds w₀.registry.contexts
          (ms.flatMap (Moment.bindings sv) ++ ms₁.filterMap Machine.binding?) s' x) ∧
    (∀ (r : Registry) (s' : SessionId) (cs : List Control) (b : Bool),
      (r.getContext s' cs b).2.contexts = r.contexts ∧
        (r.getRootContext s' cs).2.contexts = r.contexts) ∧
    ∀ j, (j ∈ c.jobs ∨ ∃ m ∈ ms, j ∈ m.connection.jobs) →
      (∃ ms₁ m ms₂ q, ms = ms₁ ++ m :: ms₂ ∧ Diary sv allows w₀ s ms₁ m.scene m.connection ∧
        m.request? = some q ∧
        Dispatched sv m.scene.registry s q j (m.next sv).1.registry) ∧
      (∃ y, w.registry.handle? j.handle = some y ∧ y.context = some j.context) ∧
      (∀ m ∈ ms, ∀ o, m.turn = .finish j o →
        (m.next sv).2.responses = m.connection.responses ∨
          (m.next sv).2.responses = m.connection.responses ++ [.ofOutcome j.id o]) ∧
      ∀ delay at? t o, sv.backend = .directory delay → j.work.finish at? = some (t, o) →
        o ≠ .cancelled →
          (j.operation = .whoami → o = .identity j.context.content.identity.name) ∧
          ∀ base filter, j.operation = .search base filter → Text.allBlank base = false →
            o = .entries [Backend.foundEntry base filter j.context.content.identity.name] := by
  refine ⟨?_, ?_, ?_, ?_⟩
  · intro s' x
    rw [h.contexts, Binding.get?_foldl_apply]
  · intro a ms₁ m ms₂ hp s' x
    rw [Scene.passage_contexts hp, h.contexts, ← List.foldl_append, Binding.get?_foldl_apply]
  · intro r s' cs b
    exact ⟨Registry.getContext_contexts r s' cs b, Registry.getRootContext_contexts r s' cs⟩
  · intro j hj
    -- where the job was dispatched, and what has become of the handles since
    have hdispatch : ∃ ms₁ m ms₂ q, ms = ms₁ ++ m :: ms₂ ∧
        Diary sv allows w₀ s ms₁ m.scene m.connection ∧ m.request? = some q ∧
        Dispatched sv m.scene.registry s q j (m.next sv).1.registry ∧
        (m.next sv).1.registry.Kept w.registry := by
      rcases hj with hj | ⟨m, hm, hj⟩
      · exact h.dispatched hj
      · obtain ⟨ms₁, ms₂, rfl, h₁, -⟩ := h.before hm
        obtain ⟨ms₃, m', ms₄, q, rfl, h₃, hq, hd, hk⟩ := h₁.dispatched hj
        exact ⟨ms₃, m', ms₄ ++ m :: ms₂, q, by simp, h₃, hq, hd,
          Registry.kept_trans hk (h.kept hm)⟩
    obtain ⟨ms₁, m, ms₂, q, hms, h₁, hq, hd, hk⟩ := hdispatch
    refine ⟨⟨ms₁, m, ms₂, q, hms, h₁, hq, hd⟩, ?_, ?_, ?_⟩
    · obtain ⟨y, hy, hx⟩ := hd.recorded
      obtain ⟨f, hf⟩ := hk _ y hy
      exact ⟨_, hf, hx⟩
    · intro m' _ o ht
      rw [Moment.next, ht]
      exact finishJob_responses m'.scene m'.connection j o
    · intro delay at? t o hb hf ho
      have hanswer := directory_outcome hd.work hb hf ho
      refine ⟨fun hop => ?_, fun base filter hop hblank => ?_⟩
      · rw [hanswer, hop]
        rfl
      · rw [hanswer, hop, Backend.answer, Operation.isRootDiscovery, hblank]
        rfl

/-- The connection of a client that has bound as one principal, has asked who it is, has
bound as another, and then is told. -/
def boundFirst : Scene × Connection :=
  (accept emptyScene ⟨"s"⟩).2.serve directoryServices (accept emptyScene ⟨"s"⟩).1
    ⟨⟨1⟩, .bind "cn=a" "p", []⟩

def asking : Scene × Connection :=
  boundFirst.2.serve directoryServices boundFirst.1 ⟨⟨2⟩, .whoami, []⟩

def boundAgain : Scene × Connection :=
  asking.2.serve directoryServices asking.1 ⟨⟨3⟩, .bind "cn=b" "p", []⟩

/-- The contexts of the two binds. -/
def firstContext : SharedContext := ⟨0, .principal "cn=a" .simple [] "ldap:"⟩

def secondContext : SharedContext := ⟨1, .principal "cn=b" .simple [] "ldap:"⟩

def askingJob : Job :=
  ⟨⟨1⟩, ⟨2⟩, .whoami, firstContext,
    directoryServices.backend.start .whoami firstContext.content⟩

def toldLate : Scene × Connection :=
  boundAgain.2.finishJob boundAgain.1 askingJob (.identity "cn=a")

def rebinding : List Moment :=
  [⟨(accept emptyScene ⟨"s"⟩).1, (accept emptyScene ⟨"s"⟩).2, .receive
      (.line "\x7b\"id\":1,\"op\":\"bind\",\"dn\":\"cn=a\",\"password\":\"p\"\x7d")⟩,
    ⟨boundFirst.1, boundFirst.2, .receive (.line "\x7b\"id\":2,\"op\":\"whoami\"\x7d")⟩,
    ⟨asking.1, asking.2, .receive
      (.line "\x7b\"id\":3,\"op\":\"bind\",\"dn\":\"cn=b\",\"password\":\"p\"\x7d")⟩,
    ⟨boundAgain.1, boundAgain.2, .finish askingJob (.identity "cn=a")⟩]

theorem rebinding_diary :
    Diary directoryServices (fun _ _ => True) emptyScene ⟨"s"⟩ rebinding toldLate.1 toldLate.2 := by
  have h₁ : Diary directoryServices (fun _ _ => True) emptyScene ⟨"s"⟩ (rebinding.take 1)
      boundFirst.1 boundFirst.2 :=
    Diary.accept.line rfl
      (t := "\x7b\"id\":1,\"op\":\"bind\",\"dn\":\"cn=a\",\"password\":\"p\"\x7d")
      (by decide) (q := ⟨⟨1⟩, .bind "cn=a" "p", []⟩) (ofLine_eq (by decide +kernel))
  have h₂ := h₁.line rfl (t := "\x7b\"id\":2,\"op\":\"whoami\"\x7d") (by decide)
    (q := ⟨⟨2⟩, .whoami, []⟩) (ofLine_eq (by decide +kernel))
  have h₃ := h₂.line rfl
    (t := "\x7b\"id\":3,\"op\":\"bind\",\"dn\":\"cn=b\",\"password\":\"p\"\x7d")
    (by decide) (q := ⟨⟨3⟩, .bind "cn=b" "p", []⟩) (ofLine_eq (by decide +kernel))
  exact h₃.turn (.finish askingJob (.identity "cn=a")) List.mem_cons_self

/-- The second principal is bound, and the answer names the first. -/
theorem asked_before_rebinding :
    Binding.Holds emptyScene.registry.contexts
        (rebinding.flatMap (Moment.bindings directoryServices)) ⟨"s"⟩ secondContext ∧
      (∃ y, toldLate.1.registry.handle? ⟨1⟩ = some y ∧ y.context = some firstContext) ∧
      toldLate.2.responses.getLast? =
        some ((Response.success ⟨2⟩).withIdentity firstContext.content.identity.name) := by
  obtain ⟨hbound, -, -, hjobs⟩ := operations_keep_their_context rebinding_diary
  have hmem : (⟨boundAgain.1, boundAgain.2, .finish askingJob (.identity "cn=a")⟩ : Moment) ∈
      rebinding := by
    simp [rebinding]
  obtain ⟨-, hhandle, hresponses, hnames⟩ :=
    hjobs askingJob (Or.inr ⟨_, hmem, List.mem_cons_self⟩)
  refine ⟨(hbound ⟨"s"⟩ secondContext).mp rfl, hhandle, ?_⟩
  have hname := (hnames 100 none 100 (.identity "cn=a") rfl rfl (by simp)).1 rfl
  rcases hresponses _ hmem _ rfl with hr | hr
  · have hlength := congrArg List.length hr
    cases hlength
  · rw [hname] at hr
    exact (congrArg List.getLast? hr).trans List.getLast?_concat

end Connection

end DirectorySessions
