/-
# The cap on outstanding requests

A session may have only so many requests outstanding.  Three things keep to this, each in a
place of its own.  That a number is not taken is looked up when a request is dispatched.
That there is room is looked up when an operation is handed to the backend; a bind is let
through, but takes out what it registers before it is answered.  And the registration itself
comes last, after a context was looked up and a handle made, neither of which touches
requests.

So a registration finds its number free (`Moment.Registers.free`), and nothing that is
outstanding is ever replaced by it.  Jobs that finish, abandons and others who use the
registry only take requests out, so wherever they come in between, there is not more
outstanding than the cap allows (`outstanding_within_cap`), the request of a bind that is
under way apart (`Fits`).  Whether that request is still there when the bind is settled does
not matter: it is not one of those that the cap is about.
-/
import DirectorySessions.Proofs.Connection.Departure
import DirectorySessions.Proofs.Registry.Census
import DirectorySessions.Proofs.Registry.Endings
import Mathlib.Data.List.Perm.Subperm

namespace DirectorySessions

namespace Registry

variable {r : Registry} {s : SessionId}

theorem outstanding_le {ids : List RequestId} (h : ∀ id x, r.lookup s id = some x → id ∈ ids) :
    r.outstanding s ≤ ids.length := by
  have hsub : (r.requestsOf s).keys ⊆ ids := by
    intro id hid
    obtain ⟨x, hx⟩ := Option.isSome_iff_exists.mp (Table.mem_keys.mp hid)
    exact h id x hx
  have hle := (List.subperm_of_subset (r.requestsOf s).nodup hsub).length_le
  rwa [List.length_map] at hle

theorem mem_keys_of_lookup {id : RequestId} {x : HandleId} (hl : r.lookup s id = some x) :
    id ∈ (r.requestsOf s).keys :=
  Table.mem_keys.mpr (Option.isSome_iff_exists.mpr ⟨x, hl⟩)

end Registry

namespace Connection

variable {sv : Services} {s : SessionId}

namespace Moment

variable {m : Moment} {r : Registry} {id : RequestId} {x : HandleId}

/-! ## Calls that register -/

/-- In this moment the connection calls for the handle to be registered under the number,
the registry being what it is at the call.  A bind does so with a handle that it has made,
whether it is settled at once or later; an operation for the backend does so if there is
room and once it has its context.  Either way the number was not taken at dispatch. -/
inductive Registers (sv : Services) (m : Moment) (r : Registry) (id : RequestId)
    (x : HandleId) : Prop
  | bind {q : Request} {dn password : String} (hq : m.request? = some q)
      (hop : q.operation = .bind dn password) (hid : q.id = id)
      (hfree : m.scene.registry.lookup m.connection.session q.id = none)
      (hcall : m.scene.registry.makeHandle q.id OperationKind.bind.name false none none none =
        (x, r))
  | launch {q : Request} {c : SharedContext} {r₁ : Registry} (hq : m.request? = some q)
      (hop : q.operation.forBackend = true) (hid : q.id = id)
      (hfree : m.scene.registry.lookup m.connection.session q.id = none)
      (hroom : m.scene.registry.outstanding m.connection.session < sv.maxOutstanding)
      (hctx : contextFor m.scene.registry m.connection.session q.operation q.controls =
        (.ok (some c), r₁))
      (hcall : r₁.makeHandle q.id q.operation.name true none none (some c) = (x, r))
  | begin {t : String} {b : PendingBind} {r' : Registry} (ht : m.turn = .register t)
      (hb : m.connection.beginBind? m.scene t = some (b, r')) (hid : b.id = id)
      (hcall : m.scene.registry.makeHandle b.id OperationKind.bind.name false none none none =
        (x, r))

/-- Between dispatch and the call nothing is registered or taken out. -/
theorem Registers.lookup (h : m.Registers sv r id x) (id' : RequestId) :
    r.lookup m.connection.session id' = m.scene.registry.lookup m.connection.session id' := by
  cases h with
  | bind hq hop hid hfree hcall =>
      cases hcall
      rfl
  | @launch q c r₁ hq hop hid hfree hroom hctx hcall =>
      have halike := contextFor_alike m.scene.registry m.connection.session q.operation q.controls
      rw [hctx] at halike
      cases hcall
      exact Registry.lookup_congr halike.1 _ _
  | begin ht hb hid hcall =>
      cases hcall
      rfl

theorem Registers.free (h : m.Registers sv r id x) :
    r.lookup m.connection.session id = none := by
  rw [h.lookup]
  cases h with
  | bind hq hop hid hfree hcall => rw [← hid, hfree]
  | launch hq hop hid hfree hroom hctx hcall => rw [← hid, hfree]
  | begin ht hb hid hcall =>
      obtain ⟨i, dn, password, cs, -, -, hfree, hr⟩ := beginBind?_eq_some.mp hb
      rw [← hid, (registerBind_ok hr).1, hfree]

/-- If the call is refused, so is the client, and the connection does nothing more. -/
theorem Registers.refused (h : m.Registers sv r id x) {e : RegistryError}
    (hr : r.register m.connection.session id x = .error e) :
    m.next sv = (m.scene.withRegistry r, m.connection.respond (.ofRefusal id e)) := by
  cases h with
  | bind hq hop hid hfree hcall =>
      subst hid
      rw [next_of_request hq]
      simp only [serve, hop, hfree, Connection.bind, registerBind, hcall, hr, Option.isSome_none,
        Bool.false_eq_true, if_false]
  | @launch q c r₁ hq hop hid hfree hroom hctx hcall =>
      subst hid
      have hl : Connection.launch sv m.scene.registry m.connection.session q =
          (.error (.ofRefusal q.id e), r) := by
        simp only [Connection.launch, if_neg (Nat.not_le.mpr hroom), hctx, hcall, hr]
      rw [next_of_request hq]
      cases ho : q.operation <;> rw [ho] at hop <;> cases hop <;>
        simp only [serve, ho, hfree, hl, Option.isSome_none, Bool.false_eq_true, if_false]
  | begin ht hb hid hcall =>
      -- a bind that is refused does not begin
      obtain ⟨i, dn, password, cs, -, -, -, hok⟩ := beginBind?_eq_some.mp hb
      obtain ⟨rfl, -⟩ := registerBind_ok hok
      subst hid
      simp only [registerBind, hcall, hr] at hok
      cases hok

theorem registers_of_launch {q : Request} {j : Job} {r' : Registry} (hq : m.request? = some q)
    (hop : q.operation.forBackend = true)
    (hfree : m.scene.registry.lookup m.connection.session q.id = none)
    (hl : Connection.launch sv m.scene.registry m.connection.session q = (.ok j, r')) :
    m.scene.registry.outstanding m.connection.session < sv.maxOutstanding ∧
      ∃ r, m.Registers sv r q.id j.handle ∧
        r.register m.connection.session q.id j.handle = .ok r' := by
  unfold Connection.launch at hl
  split at hl
  · cases hl
  · rename_i hroom
    have hroom := Nat.not_le.mp hroom
    refine ⟨hroom, ?_⟩
    split at hl
    · cases hl
    · cases hl
    · rename_i c r₁ hctx
      dsimp only at hl
      split at hl
      · cases hl
      · rename_i r₂ hr
        cases hl
        exact ⟨_, .launch hq hop rfl hfree hroom hctx rfl, hr⟩

theorem registers_of_begin {t : String} {b : PendingBind} {r' : Registry}
    (ht : m.turn = .register t) (hb : m.connection.beginBind? m.scene t = some (b, r')) :
    ∃ r, m.Registers sv r b.id b.handle ∧
      r.register m.connection.session b.id b.handle = .ok r' := by
  obtain ⟨id, dn, password, cs, -, -, -, hr⟩ := beginBind?_eq_some.mp hb
  obtain ⟨rfl, -⟩ := registerBind_ok hr
  simp only [registerBind] at hr
  split at hr
  · cases hr
  · rename_i r₂ hok
    obtain ⟨hbind, rfl⟩ := Prod.mk.inj hr
    have hhandle := congrArg PendingBind.handle (Except.ok.inj hbind)
    dsimp only at hhandle
    rw [hhandle] at hok
    exact ⟨_, .begin ht hb rfl (Prod.ext hhandle rfl), hok⟩

/-! ## What a moment does to the outstanding requests -/

theorem aloof_of_action (ho : Owned m.scene m.connection) (hp : m.Possible (Diary.Aloof s))
    {a : Action} (ha : m.action? = some a) : Diary.Aloof s m.scene a := by
  intro x hx
  rw [← passage_of_action ha] at hx
  rcases passage_performs ho hx with ⟨a', ht, hx'⟩ | hno
  · simp only [Possible, ht] at hp
    exact hp x hx'
  · exact (hno s).1

/-- Nothing becomes outstanding, unless an operation is handed to the backend or a bind
begins; and the request of a bind is not outstanding when the bind is over. -/
theorem next_lookup (ho : Owned m.scene m.connection) (hs : m.connection.session = s)
    (hp : m.Possible (Diary.Aloof s)) :
    (∀ id x, (m.next sv).1.registry.lookup s id = some x →
      m.scene.registry.lookup s id = some x ∧
        ∀ b, m.connection.pending = some b → b.id = id → (m.next sv).2.pending = some b) ∨
    (∃ q j r, m.request? = some q ∧ q.operation.forBackend = true ∧
      m.scene.registry.lookup s q.id = none ∧
      Connection.launch sv m.scene.registry s q = (.ok j, r) ∧
      (m.next sv).1 = m.scene.withRegistry r) ∨
    ∃ t b r, m.turn = .register t ∧ m.connection.beginBind? m.scene t = some (b, r) ∧
      m.next sv = (m.scene.withRegistry r, { m.connection with pending := some b }) := by
  have hc := comes sv hp
  generalize hn : m.next sv = p at hc ⊢
  obtain ⟨w', c'⟩ := p
  dsimp only at hc ⊢
  -- where the bind stays, it is enough that nothing is put in
  have same : c'.pending = m.connection.pending →
      (∀ id x, w'.registry.lookup s id = some x → m.scene.registry.lookup s id = some x) →
      ∀ id x, w'.registry.lookup s id = some x → m.scene.registry.lookup s id = some x ∧
        ∀ b, m.connection.pending = some b → b.id = id → c'.pending = some b :=
    fun hpending hl id x hx => ⟨hl id x hx, fun b hb _ => hpending.trans hb⟩
  subst hs
  cases hc with
  | left hl =>
      refine Or.inl (same rfl fun id x hx => ?_)
      rw [leave_lookup] at hx
      cases hx
  | @abandoned q target hq hop =>
      have ha : m.action? = some (.abandon m.connection.session target) := by
        obtain ⟨t, ht, -, -⟩ := turn_of_request hq
        simp [action?, leaves_of_request hq, ht, hq, hop]
      exact Or.inl (same rfl (aloof_of_action ho hp ha).spares.lookup)
  | @acted a ht =>
      have ha : m.action? = some a := by simp [action?, leaves, ht, request?]
      exact Or.inl (same rfl (aloof_of_action ho hp ha).spares.lookup)
  | @bound q dn password hq hop hfree =>
      refine Or.inl (same rfl fun id x hl => ?_)
      rwa [← (bind_spec sv (.ofBind dn password) q.controls hfree).1 id]
  | refused hq hop hfree hl =>
      refine Or.inl (same rfl fun id x hx => ?_)
      rwa [← (launch_error hl).1 id]
  | launched hq hop hfree hl => exact Or.inr (Or.inl ⟨_, _, _, hq, hop, hfree, hl, rfl⟩)
  | begun ht hb => exact Or.inr (Or.inr ⟨_, _, _, ht, hb, rfl⟩)
  | @settled b ht hb =>
      refine Or.inl fun id x hx => ?_
      have hlookup := (settleBind_spec sv m.scene.registry m.connection.session b).1 id
      rw [show (m.connection.settle sv m.scene b).1.registry.lookup m.connection.session id = _
        from hlookup] at hx
      split at hx
      · cases hx
      · rename_i hne
        refine ⟨hx, fun b' hb' hid => ?_⟩
        cases hb.symm.trans hb'
        exact absurd hid hne
  | @finished j o ht =>
      refine Or.inl (same (finishJob_pending _ _ _ _) fun id x hx => ?_)
      rw [finishJob_registry, release_lookup] at hx
      split at hx
      · cases hx
      · exact hx
  | _ => exact Or.inl (same rfl fun id x hx => hx)

/-- Whatever becomes outstanding was registered by the connection. -/
theorem registers_of_next (ho : Owned m.scene m.connection) (hs : m.connection.session = s)
    (hp : m.Possible (Diary.Aloof s))
    (hl : (m.next sv).1.registry.lookup s id = some x) :
    m.scene.registry.lookup s id = some x ∨
      ∃ r r', m.Registers sv r id x ∧ r.register s id x = .ok r' := by
  rcases next_lookup ho hs hp with hsame | ⟨q, j, r', hq, hop, hfree, hlaunch, hn⟩ |
      ⟨t, b, r', ht, hb, hn⟩
  · exact Or.inl (hsame id x hl).1
  · have hlookup : r'.lookup s id = some x := by rwa [hn] at hl
    rw [(launch_ok hlaunch).2.lookup] at hlookup
    split at hlookup
    · rename_i hid
      cases hlookup
      subst hid
      subst hs
      obtain ⟨-, r, hr, hok⟩ := registers_of_launch hq hop hfree hlaunch
      exact Or.inr ⟨r, r', hr, hok⟩
    · exact Or.inl hlookup
  · subst hs
    have hlookup : r'.lookup m.connection.session id = some x := by rwa [hn] at hl
    obtain ⟨i, dn, password, cs, -, -, hfree, hr⟩ := beginBind?_eq_some.mp hb
    obtain ⟨rfl, -, -, hreg⟩ := registerBind_ok hr
    rw [hreg.lookup] at hlookup
    split at hlookup
    · rename_i hid
      cases hlookup
      subst hid
      obtain ⟨r, hcall, hok⟩ := registers_of_begin ht hb
      exact Or.inr ⟨r, r', hcall, hok⟩
    · exact Or.inl hlookup

/-- Nothing is replaced on the session. -/
theorem not_replaced (ho : Owned m.scene m.connection) (hp : m.Possible (Diary.Aloof s))
    (id : RequestId) (x : HandleId) : .ended s id x .replaced ∉ m.log sv := by
  intro hin
  cases follows sv hp with
  | own ha htends =>
      rw [log, passage_of_none ha] at hin
      cases htends.completes hin
  | operation a ha hown hn =>
      rw [log, hown, List.append_nil, passage_of_action ha] at hin
      obtain ⟨y, hy, hin⟩ := List.mem_flatMap.mp hin
      have hr := Machine.task_of_registration hin (Or.inr rfl)
      rw [aloof_of_action ho hp ha y hy] at hr
      cases hr

end Moment

/-- All that is outstanding is under one of so many numbers, the request of a bind that is
under way apart. -/
def Fits (n : Nat) (s : SessionId) (w : Scene) (c : Connection) : Prop :=
  ∃ ids : List RequestId, ids.length ≤ n ∧ ∀ id x, w.registry.lookup s id = some x →
    id ∈ ids ∨ ∃ b, c.pending = some b ∧ b.id = id

theorem Fits.outstanding_le {n : Nat} {w : Scene} {c : Connection} (h : Fits n s w c) :
    (c.pending = none → w.registry.outstanding s ≤ n) ∧ w.registry.outstanding s ≤ n + 1 := by
  obtain ⟨ids, hlen, hin⟩ := h
  cases hp : c.pending with
  | none =>
      have hle : w.registry.outstanding s ≤ ids.length := by
        refine Registry.outstanding_le ?_
        intro id x hl
        exact (hin id x hl).resolve_right (by simp [hp])
      exact ⟨fun _ => by omega, by omega⟩
  | some b =>
      have hle : w.registry.outstanding s ≤ (b.id :: ids).length := by
        refine Registry.outstanding_le ?_
        intro id x hl
        rcases hin id x hl with hid | ⟨b', hb', rfl⟩
        · exact List.mem_cons_of_mem _ hid
        · cases hp.symm.trans hb'
          exact List.mem_cons_self
      rw [List.length_cons] at hle
      exact ⟨fun hn => (nomatch hn), by omega⟩

/-- What is handed to the backend had room, and a bind is not counted. -/
theorem Moment.next_fits {m : Moment} (ho : Owned m.scene m.connection)
    (hs : m.connection.session = s) (hp : m.Possible (Diary.Aloof s))
    (h : Fits sv.maxOutstanding s m.scene m.connection) :
    Fits sv.maxOutstanding s (m.next sv).1 (m.next sv).2 := by
  obtain ⟨ids, hlen, hin⟩ := h
  rcases next_lookup ho hs hp with hsame | ⟨q, j, r', hq, hop, hfree, hlaunch, hn⟩ |
      ⟨t, b, r', ht, hb, hn⟩
  · refine ⟨ids, hlen, ?_⟩
    intro id x hl
    obtain ⟨hl, hpending⟩ := hsame id x hl
    rcases hin id x hl with hid | ⟨b, hb, hid⟩
    · exact Or.inl hid
    · exact Or.inr ⟨b, hpending b hb hid, hid⟩
  · subst hs
    obtain ⟨hroom, -⟩ := registers_of_launch hq hop hfree hlaunch
    -- one number more is taken than before, and there was room for it
    refine ⟨q.id :: (m.scene.registry.requestsOf m.connection.session).keys, ?_, ?_⟩
    · rw [List.length_cons, Table.keys, List.length_map]
      exact hroom
    · intro id x hl
      rw [hn] at hl
      have hl : r'.lookup m.connection.session id = some x := hl
      rw [(launch_ok hlaunch).2.lookup] at hl
      split at hl
      · rename_i hid
        rw [hid]
        exact Or.inl List.mem_cons_self
      · exact Or.inl (List.mem_cons_of_mem _ (Registry.mem_keys_of_lookup hl))
  · subst hs
    rw [Possible, ht] at hp
    have hnone := (listens_iff.mp hp.1).2
    rw [hn]
    refine ⟨ids, hlen, ?_⟩
    intro id x hl
    have hl : r'.lookup m.connection.session id = some x := hl
    obtain ⟨i, dn, password, cs, -, -, -, hr⟩ := beginBind?_eq_some.mp hb
    obtain ⟨rfl, -, -, hreg⟩ := registerBind_ok hr
    rw [hreg.lookup] at hl
    split at hl
    · exact Or.inr ⟨b, rfl, ‹_›⟩
    · exact Or.inl ((hin id x hl).resolve_right (by simp [hnone]))

theorem Diary.fits {w₀ w : Scene} {ms : List Moment} {c : Connection}
    (hfree : ∀ id, w₀.registry.lookup s id = none) (h : Diary sv (Diary.Aloof s) w₀ s ms w c) :
    Fits sv.maxOutstanding s w c := by
  induction h with
  | accept =>
      refine ⟨[], Nat.zero_le _, ?_⟩
      intro id x hl
      have hl : w₀.registry.lookup s id = some x := hl
      rw [hfree id] at hl
      cases hl
  | turn h t hp ih =>
      obtain ⟨hs, ho⟩ := h.invariant hfree
      exact Moment.next_fits ho hs hp ih

/-- If nobody else registers on the session of a connection, there is never more outstanding
on it than the cap allows, whatever was read and in whatever order jobs were done, except
that a bind has one request more while it is under way.  Whenever the connection calls for
something to be registered, its number is free, and whatever becomes outstanding has been
registered by such a call.  So nothing is replaced: what was registered is outstanding, or
was completed, abandoned or purged. -/
theorem outstanding_within_cap {w₀ w : Scene} {ms : List Moment} {c : Connection}
    (hfree : ∀ id, w₀.registry.lookup s id = none) (h : Diary sv (Diary.Aloof s) w₀ s ms w c) :
    (c.pending = none → w.registry.outstanding s ≤ sv.maxOutstanding) ∧
    w.registry.outstanding s ≤ sv.maxOutstanding + 1 ∧
    (∀ m ∈ ms, ((m.next sv).2.pending = none →
        (m.next sv).1.registry.outstanding s ≤ sv.maxOutstanding) ∧
      (m.next sv).1.registry.outstanding s ≤ sv.maxOutstanding + 1) ∧
    (∀ m ∈ ms, ∀ r id x, m.Registers sv r id x → r.lookup s id = none ∧
      ∀ e, r.register s id x = .error e →
        m.next sv = (m.scene.withRegistry r, m.connection.respond (.ofRefusal id e))) ∧
    (∀ m ∈ ms, ∀ id x, (m.next sv).1.registry.lookup s id = some x →
      m.scene.registry.lookup s id = some x ∨
        ∃ r r', m.Registers sv r id x ∧ r.register s id x = .ok r') ∧
    (∀ m ∈ ms, ∀ id x y, m.scene.registry.lookup s id = some x →
      (m.next sv).1.registry.lookup s id = some y → y = x) ∧
    (∀ id x, .ended s id x .replaced ∉ ms.flatMap (Moment.log sv)) ∧
    (w₀.registry.Idle → ∀ id x, .registered s id x ∈ ms.flatMap (Moment.log sv) →
      w.registry.lookup s id = some x ∨
        ∃ how, how ≠ .replaced ∧ .ended s id x how ∈ ms.flatMap (Moment.log sv)) := by
  have hreplaced : ∀ id x, .ended s id x .replaced ∉ ms.flatMap (Moment.log sv) := by
    intro id x hin
    obtain ⟨m, hm, hin⟩ := List.mem_flatMap.mp hin
    obtain ⟨ms₁, ms₂, -, h₁, hp⟩ := h.before hm
    exact Moment.not_replaced (h₁.invariant hfree).2 hp id x hin
  obtain ⟨hidle, hbusy⟩ := (h.fits hfree).outstanding_le
  refine ⟨hidle, hbusy, ?_, ?_, ?_, ?_, hreplaced, ?_⟩
  · intro m hm
    obtain ⟨ms₁, ms₂, -, h₁, hp⟩ := h.before hm
    exact ((h₁.turn m.turn hp).fits hfree).outstanding_le
  · intro m hm r id x hr
    obtain ⟨ms₁, ms₂, -, h₁, hp⟩ := h.before hm
    obtain ⟨rfl, -⟩ := h₁.invariant hfree
    exact ⟨hr.free, fun e he => hr.refused he⟩
  · intro m hm id x hl
    obtain ⟨ms₁, ms₂, -, h₁, hp⟩ := h.before hm
    obtain ⟨hs, ho⟩ := h₁.invariant hfree
    exact Moment.registers_of_next ho hs hp hl
  · intro m hm id x y hx hy
    obtain ⟨ms₁, ms₂, -, h₁, hp⟩ := h.before hm
    obtain ⟨hs, ho⟩ := h₁.invariant hfree
    rcases Moment.registers_of_next ho hs hp hy with hy | ⟨r, r', hr, -⟩
    · rw [hx] at hy
      cases hy
      rfl
    · -- the number would have been free
      have hnone := hr.free
      rw [hr.lookup, hs, hx] at hnone
      cases hnone
  · intro hidle id x hin
    have hseat := (h.tally hidle hfree).seat id x
    have hpos := List.count_pos_iff.mpr hin
    by_cases hl : w.registry.lookup s id = some x
    · exact Or.inl hl
    · rw [Registry.seat, if_neg hl] at hseat
      obtain ⟨e, he, hends⟩ := List.countP_pos_iff.mp
        (show 0 < (ms.flatMap (Moment.log sv)).countP (Event.ends s id x) by omega)
      obtain ⟨how, rfl⟩ := Event.ends_iff.mp hends
      refine Or.inr ⟨how, ?_, he⟩
      rintro rfl
      exact hreplaced id x he

/-- A server that lets a session have one request outstanding. -/
def narrowServices : Services := { directoryServices with maxOutstanding := 1 }

/-- A client has searched. -/
def crowded : Scene × Connection :=
  (accept emptyScene ⟨"s"⟩).2.serve narrowServices (accept emptyScene ⟨"s"⟩).1 firstSearch

def turnedAway : Scene × Connection :=
  crowded.2.serve narrowServices crowded.1 ⟨⟨2⟩, .search "ou=b" none, []⟩

def boundCrowded : Scene × Connection :=
  turnedAway.2.serve narrowServices turnedAway.1 ⟨⟨3⟩, .bind "cn=a" "p", []⟩

def bindingCrowded : Moment :=
  ⟨turnedAway.1, turnedAway.2, .receive
    (.line "\x7b\"id\":3,\"op\":\"bind\",\"dn\":\"cn=a\",\"password\":\"p\"\x7d")⟩

def crowding : List Moment :=
  [⟨(accept emptyScene ⟨"s"⟩).1, (accept emptyScene ⟨"s"⟩).2,
      .receive (.line "\x7b\"id\":1,\"op\":\"search\",\"base\":\"ou=a\"\x7d")⟩,
    ⟨crowded.1, crowded.2,
      .receive (.line "\x7b\"id\":2,\"op\":\"search\",\"base\":\"ou=b\"\x7d")⟩,
    bindingCrowded]

theorem crowding_diary :
    Diary narrowServices (Diary.Aloof ⟨"s"⟩) emptyScene ⟨"s"⟩ crowding boundCrowded.1
      boundCrowded.2 := by
  have h₁ : Diary narrowServices (Diary.Aloof ⟨"s"⟩) emptyScene ⟨"s"⟩ (crowding.take 1) crowded.1
      crowded.2 :=
    Diary.accept.line rfl (t := "\x7b\"id\":1,\"op\":\"search\",\"base\":\"ou=a\"\x7d")
      (by decide) (q := firstSearch) (ofLine_eq (by decide +kernel))
  have h₂ := h₁.line rfl (t := "\x7b\"id\":2,\"op\":\"search\",\"base\":\"ou=b\"\x7d")
    (by decide) (q := ⟨⟨2⟩, .search "ou=b" none, []⟩) (ofLine_eq (by decide +kernel))
  exact h₂.line rfl
    (t := "\x7b\"id\":3,\"op\":\"bind\",\"dn\":\"cn=a\",\"password\":\"p\"\x7d")
    (by decide) (q := ⟨⟨3⟩, .bind "cn=a" "p", []⟩) (ofLine_eq (by decide +kernel))

/-- One request is outstanding all the time; the bind is registered under a free number. -/
theorem bound_without_room :
    boundCrowded.1.registry.outstanding ⟨"s"⟩ ≤ 1 ∧ boundCrowded.2.responses.length = 2 ∧
      boundCrowded.1.registry.lookup ⟨"s"⟩ ⟨1⟩ = some ⟨0⟩ ∧
      ∃ r, bindingCrowded.Registers narrowServices r ⟨3⟩ ⟨1⟩ ∧ r.lookup ⟨"s"⟩ ⟨3⟩ = none := by
  have hfree : ∀ id, emptyScene.registry.lookup ⟨"s"⟩ id = none := fun _ => rfl
  obtain ⟨hcap, -, -, hcalls, -⟩ := outstanding_within_cap hfree crowding_diary
  have hmem : bindingCrowded ∈ crowding := by simp [crowding]
  have hcall : bindingCrowded.Registers narrowServices _ ⟨3⟩ ⟨1⟩ :=
    .bind (q := ⟨⟨3⟩, .bind "cn=a" "p", []⟩) (by decide +kernel) rfl rfl rfl rfl
  exact ⟨hcap rfl, rfl, rfl, _, hcall, (hcalls _ hmem _ _ _ hcall).1⟩

end Connection

end DirectorySessions
