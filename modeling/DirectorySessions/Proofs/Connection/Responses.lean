/-
# As many responses as requests

A client is answered by number, and numbers may be used again, so the promise
that can be kept is about counts: under each number there are as many responses
as there were requests that are answered, less those that were abandoned, and
those that were lost when the session was closed, terminated or purged.  What
has not been answered yet is waiting, at most one request under each number.
So a job that answers for another's request takes nothing away: the other one
is no longer outstanding, and its own job keeps silent.

A bind that is under way is different, since it answers whether its request is
still there or not.  A job that is done and finds the bind's request under its
own number answers, and then so does the bind: `overtakes` counts these
moments, and they are all that the counts can be out by.  For there to be one,
a bind must have begun under the number of a job that was not done.

A moment moves exactly two of these accounts, or none (`Moment.balances`).
-/
import DirectorySessions.Proofs.Connection.Diary

namespace DirectorySessions

def Reply.isAbandoned : Reply → Bool
  | .abandon .abandoned => true
  | _ => false

/-- The number of requests outstanding under a number of a session: one or none. -/
def Registry.held (r : Registry) (s : SessionId) (id : RequestId) : Nat :=
  if (r.lookup s id).isSome then 1 else 0

namespace Connection

/-- The number of responses under a number. -/
def answered (c : Connection) (id : RequestId) : Nat := c.responses.countP fun a => a.id = id

def binds (c : Connection) (id : RequestId) : Bool := c.pending.any fun b => b.id = id

/-- The number of requests that wait under a number: what is outstanding, or
the bind that is under way, which is answered even if its request is gone. -/
def waiting (w : Scene) (c : Connection) (id : RequestId) : Nat :=
  if c.binds id then 1 else w.registry.held c.session id

namespace Moment

/-- Is something asked for under the number that is answered? -/
def asks (id : RequestId) (m : Moment) : Bool :=
  (m.request?.any fun q => q.id = id ∧ q.operation.isAnswered = true) ||
    m.begun?.any fun b => b.id = id

/-- Does the client abandon the request that is outstanding under the number? -/
def abandons (id : RequestId) (m : Moment) : Bool :=
  match m.request? with
  | some ⟨_, .abandon target, _⟩ =>
    decide (target = id) &&
      (m.scene.perform (.abandon m.connection.session target)).2.isAbandoned
  | _ => false

def isOthers (m : Moment) : Bool :=
  match m.turn with
  | .act _ => true
  | _ => false

/-- Is the request that waits under the number lost, as the session is closed or
as others take it out? -/
def loses (sv : Services) (id : RequestId) (m : Moment) : Bool :=
  (m.leaves || m.isOthers) && !m.connection.binds id &&
    (m.scene.registry.lookup m.connection.session id).isSome &&
    ((m.next sv).1.registry.lookup m.connection.session id).isNone

/-- Does a job that is done answer in place of the bind that is under way under
the number? -/
def overtakes (id : RequestId) (m : Moment) : Bool :=
  match m.turn with
  | .finish j _ =>
    decide (j.id = id) && m.connection.binds id &&
      (m.scene.registry.lookup m.connection.session id).isSome
  | _ => false

/-- Is something read that is answered under the number zero, being no request? -/
def isFaulty (m : Moment) : Bool := m.isMalformed || m.isOverlong

end Moment

/-! ## Under which number a response is given -/

section Numbers

variable {sv : Services} {r r' : Registry} {s : SessionId}

theorem ofRefusal_id (id : RequestId) (e : RegistryError) : (Response.ofRefusal id e).id = id := by
  cases e <;> rfl

theorem ofOutcome_id (id : RequestId) (o : Outcome) : (Response.ofOutcome id o).id = id := by
  cases o <;> rfl

theorem registerBind_id {id : RequestId} {cr : Credentials} {cs : List Control} {a : Response}
    (h : registerBind r s id cr cs = (.error a, r')) : a.id = id := by
  simp only [registerBind] at h
  split at h
  · cases h
    exact ofRefusal_id id _
  · cases h

theorem settleBind_id (sv : Services) (r : Registry) (s : SessionId) (b : PendingBind) :
    (settleBind sv r s b).1.id = b.id := by
  simp only [settleBind]
  split
  · exact ofRefusal_id b.id _
  · rfl

theorem bind_id (sv : Services) (r : Registry) (s : SessionId) (id : RequestId)
    (cr : Credentials) (cs : List Control) : (bind sv r s id cr cs).1.id = id := by
  simp only [bind]
  split
  · rename_i h
    exact registerBind_id h
  · rename_i h
    rw [settleBind_id, (registerBind_ok h).1]

theorem launch_id {q : Request} {a : Response} (h : launch sv r s q = (.error a, r')) :
    a.id = q.id := by
  unfold launch at h
  split at h
  · cases h
    rfl
  · split at h
    · cases h
      exact ofRefusal_id q.id _
    · cases h
      rfl
    · dsimp only at h
      split at h
      · cases h
        exact ofRefusal_id q.id _
      · cases h

theorem respond_answered (c : Connection) (a : Response) (id : RequestId) :
    (c.respond a).answered id = c.answered id + if a.id = id then 1 else 0 := by
  simp only [answered, respond, List.countP_append, List.countP_singleton, decide_eq_true_eq]

end Numbers

theorem binds_of_none {c : Connection} (hn : c.pending = none) (id : RequestId) :
    c.binds id = false := by
  rw [binds, hn, Option.any_none]

theorem waiting_of_none {c : Connection} (hn : c.pending = none) (w : Scene) (id : RequestId) :
    c.waiting w id = w.registry.held c.session id := by
  rw [waiting, binds_of_none hn, if_neg Bool.false_ne_true]

theorem waiting_congr {w w' : Scene} {c c' : Connection} (hs : c'.session = c.session)
    (hp : c'.pending = c.pending)
    (hl : ∀ id, w'.registry.lookup c.session id = w.registry.lookup c.session id)
    (id : RequestId) : c'.waiting w' id = c.waiting w id := by
  rw [waiting, waiting, binds, binds, Registry.held, Registry.held, hs, hp, hl]

/-! ## What a moment does to the accounts -/

namespace Moment

variable {sv : Services} {allows : Scene → Action → Prop} {m : Moment} {q : Request}

theorem flags_of_answered (sv : Services) (hq : m.request? = some q)
    (hop : q.operation.isAnswered = true) (id : RequestId) :
    m.asks id = decide (q.id = id) ∧ m.abandons id = false ∧ m.loses sv id = false ∧
      m.overtakes id = false ∧ m.isFaulty = false := by
  obtain ⟨t, ht, hb, ho⟩ := turn_of_request hq
  have hl : m.leaves = false := by
    rw [leaves_of_request hq]
    cases hu : q.operation <;> rw [hu] at hop <;> cases hop <;> rfl
  refine ⟨?_, ?_, ?_, ?_, ?_⟩
  · simp only [asks, begun?, ht, hq, Option.any_some, Option.any_none, hop, and_true,
      Bool.or_false]
  · obtain ⟨i, op, cs⟩ := q
    simp only [abandons, hq]
    cases op <;> cases hop <;> rfl
  · simp only [loses, hl, isOthers, ht, Bool.or_self, Bool.false_and]
  · simp only [overtakes, ht]
  · simp only [isFaulty, isMalformed, isOverlong, ht, hb, ho]
    rfl

theorem flags_of_no_request (hq : m.request? = none) (hb : m.begun? = none) (id : RequestId) :
    m.asks id = false ∧ m.abandons id = false := by
  simp only [asks, abandons, hq, hb, Option.any_none, Bool.or_self, and_self]

theorem flags_of_leaves (hl : m.leaves = true) (id : RequestId) :
    m.asks id = false ∧ m.abandons id = false ∧ m.overtakes id = false ∧
      m.isFaulty = false := by
  cases hq : m.request? with
  | some q =>
      obtain ⟨t, ht, hb, ho⟩ := turn_of_request hq
      rw [leaves_of_request hq, decide_eq_true_eq] at hl
      obtain ⟨i, op, cs⟩ := q
      dsimp only at hl
      subst hl
      refine ⟨?_, ?_, ?_, ?_⟩
      · simp [asks, begun?, ht, hq, Operation.isAnswered]
      · simp only [abandons, hq]
      · simp only [overtakes, ht]
      · simp only [isFaulty, isMalformed, isOverlong, ht, hb, ho]
        rfl
  | none =>
      simp only [leaves, hq] at hl
      simp only [asks, abandons, hq, begun?, overtakes, isFaulty, isMalformed, isOverlong]
      split at hl
      · rename_i ht
        simp only [ht, Option.any_none, Bool.or_self, and_self]
      · rename_i ht
        simp only [ht, Option.any_none, Bool.or_self, and_self]
      · cases hl

theorem flags_of_abandon (sv : Services) {target : RequestId} (hq : m.request? = some q)
    (hop : q.operation = .abandon target) (id : RequestId) :
    m.asks id = false ∧ m.loses sv id = false ∧ m.overtakes id = false ∧ m.isFaulty = false ∧
      m.abandons id = (decide (target = id) &&
        (m.scene.perform (.abandon m.connection.session target)).2.isAbandoned) := by
  obtain ⟨t, ht, hb, ho⟩ := turn_of_request hq
  have hl : m.leaves = false := by
    rw [leaves_of_request hq, hop]
    rfl
  refine ⟨?_, ?_, ?_, ?_, ?_⟩
  · simp [asks, begun?, ht, hq, hop, Operation.isAnswered]
  · simp only [loses, hl, isOthers, ht, Bool.or_self, Bool.false_and]
  · simp only [overtakes, ht]
  · simp only [isFaulty, isMalformed, isOverlong, ht, hb, ho]
    rfl
  · obtain ⟨i, op, cs⟩ := q
    dsimp only at hop
    subst hop
    simp only [abandons, hq]

theorem abandon_held {w : Scene} {c : Connection} (ho : Owned w c) (hn : c.pending = none)
    (target id : RequestId) :
    (w.perform (.abandon c.session target)).1.registry.held c.session id +
        (decide (target = id) &&
          (w.perform (.abandon c.session target)).2.isAbandoned).toNat =
      w.registry.held c.session id := by
  cases hl : w.registry.lookup c.session target with
  | none =>
      rw [Scene.perform_abandon_notFound (Registry.beginAbandon_notFound hl)]
      simp only [Reply.isAbandoned, Bool.and_false, Bool.toNat_false, Nat.add_zero]
  | some h =>
      obtain ⟨j, hj, rfl, -⟩ := ho.job hn hl
      obtain ⟨x, hx, hc, hcb⟩ := ho.made hj
      have hreply : (w.perform (.abandon c.session target)).2 = .abandon .abandoned := by
        rw [Scene.perform_abandon (perform_abandon_of_silent hl hx hc hcb).1]
      simp only [hreply, Registry.held, perform_abandon_lookup hl hx hc hcb, Reply.isAbandoned]
      by_cases hid : target = id
      · subst hid
        simp [hl]
      · simp [hid]

/-- A job that is done answers what is outstanding under its number; a bind that
is under way waits on. -/
theorem finish_waiting {w : Scene} {c : Connection} (j : Job) (o : Outcome) (id : RequestId) :
    (c.finishJob w j o).2.answered id + (c.finishJob w j o).2.waiting (c.finishJob w j o).1 id =
      c.answered id + c.waiting w id +
        (decide (j.id = id) && c.binds id && (w.registry.lookup c.session id).isSome).toNat := by
  cases hl : w.registry.lookup c.session j.id with
  | none =>
      rw [finishJob_of_none hl]
      by_cases hid : j.id = id
      · subst hid
        simp only [hl, Option.isSome_none, Bool.and_false]
        rfl
      · simp only [hid, decide_false, Bool.false_and]
        rfl
  | some h =>
      obtain ⟨hr, hc⟩ := finishJob_of_some (c := c) hl o
      have hbinds : ((c.without j).respond (.ofOutcome j.id o)).binds id = c.binds id := rfl
      rw [hc, respond_answered, ofOutcome_id]
      simp only [waiting, hbinds, hr]
      simp only [Registry.held, respond, without, release_lookup]
      by_cases hid : j.id = id
      · subst hid
        cases c.binds j.id <;> simp [hl, answered]
      · simp [hid, answered]

theorem held_le {r r' : Registry} {s : SessionId}
    (h : ∀ id x, r'.lookup s id = some x → r.lookup s id = some x) (id : RequestId) :
    r'.held s id ≤ r.held s id := by
  cases hl : r'.lookup s id with
  | none =>
      rw [Registry.held, hl]
      exact Nat.zero_le _
  | some x =>
      simp only [Registry.held, hl, h id x hl]
      exact Nat.le_refl _

/-- The accounts of a number agree, if the moment comes to this scene and
this connection. -/
def Balances (sv : Services) (m : Moment) (id : RequestId) (w' : Scene) (c' : Connection) : Prop :=
  c'.answered id + c'.waiting w' id + (m.abandons id).toNat + (m.loses sv id).toNat =
    m.connection.answered id + m.connection.waiting m.scene id + (m.asks id).toNat +
      (m.overtakes id).toNat + if id = .zero then m.isFaulty.toNat else 0

/-- A request that is answered is answered at once, or waits. -/
theorem balances_of_answered {w' : Scene} {c' : Connection} {id : RequestId}
    (hq : m.request? = some q) (hop : q.operation.isAnswered = true)
    (h : c'.answered id + c'.waiting w' id =
      m.connection.answered id + m.connection.waiting m.scene id + if q.id = id then 1 else 0) :
    m.Balances sv id w' c' := by
  obtain ⟨h₁, h₂, h₃, h₄, h₅⟩ := flags_of_answered sv hq hop id
  rw [Balances, h₁, h₂, h₃, h₄, h₅, h]
  by_cases hid : q.id = id <;> simp [hid]

theorem balances_of_response {r : Registry} {a : Response} (id : RequestId)
    (hq : m.request? = some q) (hop : q.operation.isAnswered = true) (ha : a.id = q.id)
    (hl : ∀ id, r.lookup m.connection.session id =
      m.scene.registry.lookup m.connection.session id) :
    m.Balances sv id (m.scene.withRegistry r) (m.connection.respond a) := by
  have hw : (m.connection.respond a).waiting (m.scene.withRegistry r) id =
      m.connection.waiting m.scene id := waiting_congr rfl rfl hl id
  refine balances_of_answered hq hop ?_
  rw [respond_answered, ha, hw]
  exact Nat.add_right_comm ..

theorem balances_of_faulty {a : Response} {i : Input} (id : RequestId) (ht : m.turn = .receive i)
    (hq : m.request? = none) (hf : m.isFaulty = true) (hl : m.leaves = false)
    (ha : a.id = .zero) : m.Balances sv id m.scene (m.connection.respond a) := by
  obtain ⟨h₁, h₂⟩ := flags_of_no_request hq (by simp only [begun?, ht]) id
  have h₃ : m.loses sv id = false := by
    simp only [loses, hl, isOthers, ht, Bool.or_self, Bool.false_and]
  have h₄ : m.overtakes id = false := by simp only [overtakes, ht]
  have hw : (m.connection.respond a).waiting m.scene id = m.connection.waiting m.scene id := rfl
  rw [Balances, h₁, h₂, h₃, h₄, hf, respond_answered, ha, hw]
  by_cases hid : id = .zero
  · simp only [hid, if_true, Bool.toNat_false, Bool.toNat_true]
    omega
  · simp only [hid, Ne.symm hid, if_false, Bool.toNat_false]
    omega

/-- What is neither answered nor waits any more was lost. -/
theorem balances_of_losing {c' : Connection} {id : RequestId}
    (hf : m.asks id = false ∧ m.abandons id = false ∧ m.overtakes id = false ∧
      m.isFaulty = false)
    (hl : (m.leaves || m.isOthers) = true)
    (hle : (m.next sv).1.registry.held m.connection.session id ≤
      m.scene.registry.held m.connection.session id)
    (hs : c'.session = m.connection.session) (hp : c'.pending = m.connection.pending)
    (h : c'.answered id = m.connection.answered id) : m.Balances sv id (m.next sv).1 c' := by
  obtain ⟨h₁, h₂, h₃, h₄⟩ := hf
  have hbinds : c'.binds id = m.connection.binds id := by rw [binds, binds, hp]
  rw [Balances, h₁, h₂, h₃, h₄, h]
  simp only [waiting, loses, hl, hs, hbinds, Registry.held] at hle ⊢
  generalize m.scene.registry.lookup m.connection.session id = x at hle ⊢
  generalize (m.next sv).1.registry.lookup m.connection.session id = y at hle ⊢
  cases m.connection.binds id <;> cases x <;> cases y <;> simp at hle ⊢

theorem balances_of_begun {t : String} {b : PendingBind} {r : Registry} (id : RequestId)
    (hn : m.connection.pending = none) (ht : m.turn = .register t)
    (hb : m.connection.beginBind? m.scene t = some (b, r)) :
    m.Balances sv id (m.scene.withRegistry r) { m.connection with pending := some b } := by
  obtain ⟨i, dn, password, cs, -, -, hfree, hr⟩ := beginBind?_eq_some.mp hb
  obtain ⟨rfl, -, -, hreg⟩ := registerBind_ok hr
  have hbinds : { m.connection with pending := some b }.binds id = decide (b.id = id) := rfl
  simp only [Balances, asks, abandons, loses, overtakes, isFaulty, isMalformed, isOverlong,
    request?, begun?, leaves, isOthers, ht, hb, Option.map_some, Option.any_some,
    Option.any_none, waiting, hbinds, binds_of_none hn, Registry.held,
    Scene.withRegistry, hreg.lookup]
  by_cases hid : b.id = id
  · subst hid
    simp [hfree, answered]
  · simp [hid, answered]

/-- A bind answers whether its request is still there or not, and if it is not, it
was overtaken. -/
theorem balances_of_settled {b : PendingBind} (id : RequestId) (ht : m.turn = .settle)
    (hb : m.connection.pending = some b) :
    m.Balances sv id (m.connection.settle sv m.scene b).1
      (m.connection.settle sv m.scene b).2 := by
  have hbinds : m.connection.binds id = decide (b.id = id) := by
    rw [binds, hb, Option.any_some]
  have hw : (m.connection.settle sv m.scene b).2.waiting (m.connection.settle sv m.scene b).1 id
      = (settleBind sv m.scene.registry m.connection.session b).2.held m.connection.session
        id := rfl
  have ha : (m.connection.settle sv m.scene b).2.answered id =
      m.connection.answered id + if b.id = id then 1 else 0 := by
    simp only [settle, respond_answered, settleBind_id]
    rfl
  rw [Balances, hw, ha]
  simp only [asks, abandons, loses, overtakes, isFaulty, isMalformed, isOverlong, request?,
    begun?, leaves, isOthers, ht, Option.any_none, waiting, hbinds, Registry.held,
    (settleBind_spec sv m.scene.registry m.connection.session b).1]
  by_cases hid : b.id = id
  · subst hid
    simp
  · simp [hid]

/-- A moment moves two of the accounts of a number, or none. -/
theorem balances (ho : Owned m.scene m.connection) (hp : m.Possible allows)
    (hs : ∀ a, m.turn = .act a → Spares m.connection.session m.scene (m.scene.perform a).1)
    (id : RequestId) : m.Balances sv id (m.next sv).1 (m.next sv).2 := by
  have hc := comes sv hp
  have lose := @balances_of_losing sv m (m.next sv).2 id
  generalize hn : m.next sv = p at hc lose ⊢
  obtain ⟨w', c'⟩ := p
  dsimp only at hc lose ⊢
  cases hc with
  | left hl =>
      refine lose (flags_of_leaves hl id) (by rw [hl, Bool.true_or]) ?_ rfl rfl rfl
      rw [Registry.held, leave_lookup]
      exact Nat.zero_le _
  | @abandoned q target hq hop =>
      obtain ⟨h₁, h₂, h₃, h₄, h₅⟩ := flags_of_abandon sv hq hop id
      have hnone := pending_of_request hp hq
      have hheld := abandon_held ho hnone target id
      rw [Balances, h₁, h₂, h₃, h₄, h₅, waiting_of_none hnone, waiting_of_none hnone]
      simp only [Bool.toNat_false, ite_self]
      omega
  | taken hq hop hl => exact balances_of_response id hq hop rfl fun _ => rfl
  | bound hq hop hfree =>
      exact balances_of_response id hq (by rw [hop]; rfl) (bind_id ..) (bind_spec sv _ _ hfree).1
  | refused hq hop hfree hl =>
      exact balances_of_response id hq (Operation.isAnswered_of_forBackend hop) (launch_id hl)
        (launch_error hl).1
  | @launched q j r hq hop hfree hl =>
      have hnone := pending_of_request hp hq
      refine balances_of_answered hq (Operation.isAnswered_of_forBackend hop) ?_
      have hnone' : { m.connection with jobs := m.connection.jobs ++ [j] }.pending = none := hnone
      rw [waiting_of_none hnone', waiting_of_none hnone]
      simp only [Scene.withRegistry, Registry.held, (launch_ok hl).2.lookup]
      by_cases hid : q.id = id
      · subst hid
        simp [hfree, answered]
      · simp [hid, answered]
  | @begun t b r ht hb =>
      rw [Possible, ht] at hp
      exact balances_of_begun id (listens_iff.mp hp.1).2 ht hb
  | settled ht hb => exact balances_of_settled id ht hb
  | malformed ht hm =>
      have hq := no_request_of_malformed hm
      exact balances_of_faulty id ht hq (by rw [isFaulty, hm, Bool.true_or])
        (leaves_of_no_request ht (by simp) hq) rfl
  | overlong ht =>
      have hq : m.request? = none := by simp only [request?, ht]
      refine balances_of_faulty id ht hq ?_ (leaves_of_no_request ht (by simp) hq) rfl
      simp only [isFaulty, isOverlong, ht, Bool.or_true]
  | blank ht hb =>
      have hq : m.request? = none := by simp only [request?, ht, hb, if_true]
      simp only [Balances, asks, abandons, loses, overtakes, isFaulty, isMalformed, isOverlong,
        hq, begun?, leaves, isOthers, ht, hb]
      simp
  | @finished j o ht =>
      have hwaits := finish_waiting (w := m.scene) (c := m.connection) j o id
      simp only [Balances, asks, abandons, loses, overtakes, isFaulty, isMalformed, isOverlong,
        request?, begun?, leaves, isOthers, ht, Option.any_none, Bool.or_self, Bool.false_and,
        Bool.toNat_false, ite_self, Nat.add_zero, hwaits]
  | acted ht =>
      have hq : m.request? = none := by simp only [request?, ht]
      obtain ⟨h₁, h₂⟩ := flags_of_no_request hq (by simp only [begun?, ht]) id
      refine lose ⟨h₁, h₂, ?_, ?_⟩ ?_ ?_ rfl rfl rfl
      · simp only [overtakes, ht]
      · simp only [isFaulty, isMalformed, isOverlong, ht, Bool.or_self]
      · simp only [isOthers, ht, Bool.or_true]
      · exact held_le (hs _ ht).lookup id

/-- The session is not closed, terminated or purged, and nothing is taken out
of it by others, before all jobs have finished. -/
def Spared (m : Moment) : Prop :=
  m.connection.jobs ≠ [] → m.leaves = false ∧ ∀ a, m.turn = .act a → ∀ id,
    (m.scene.perform a).1.registry.lookup m.connection.session id =
      m.scene.registry.lookup m.connection.session id

theorem not_loses_of_spared (ho : Owned m.scene m.connection) (hs : m.Spared) (id : RequestId) :
    m.loses sv id = false := by
  by_cases hj : m.connection.jobs = []
  · -- what is outstanding then is the request of a bind
    cases hl : m.scene.registry.lookup m.connection.session id with
    | none => simp only [loses, hl, Option.isSome_none, Bool.and_false, Bool.false_and]
    | some h =>
        rcases ho.owner hl with ⟨j, hin, -⟩ | ⟨b, hb, -, hid⟩
        · rw [hj] at hin
          exact absurd hin List.not_mem_nil
        · have hbinds : m.connection.binds id = true := by
            rw [binds, hb, Option.any_some, hid, decide_eq_true_eq]
          simp only [loses, hbinds, Bool.not_true, Bool.and_false, Bool.false_and]
  · obtain ⟨hl, ha⟩ := hs hj
    by_cases hot : m.isOthers = true
    · simp only [isOthers] at hot
      split at hot
      · rename_i a ht
        have hn : (m.next sv).1 = (m.scene.perform a).1 := by simp only [next, ht]
        simp only [loses, hn, ha a ht]
        cases m.scene.registry.lookup m.connection.session id <;> simp
      · cases hot
    · simp only [loses, hl, Bool.eq_false_iff.mpr hot, Bool.or_self, Bool.false_and]

theorem responses_of_not_answered (hq : m.request? = some q)
    (hop : q.operation.isAnswered = false) :
    (m.next sv).2.responses = m.connection.responses := by
  rw [next_of_request hq]
  obtain ⟨id, op, cs⟩ := q
  cases op with
  | abandon target => rfl
  | unbind => rfl
  | _ => cases hop

theorem countP_cons (p : Moment → Bool) (m : Moment) (ms : List Moment) :
    (m :: ms).countP p = ms.countP p + (p m).toNat := by
  rw [List.countP_cons]
  cases p m <;> rfl

theorem countP_snoc (p : Moment → Bool) (ms : List Moment) (m : Moment) :
    (ms ++ [m]).countP p = ms.countP p + (p m).toNat := by
  rw [List.countP_append, countP_cons, List.countP_nil, Nat.zero_add]

theorem countP_isFaulty (ms : List Moment) :
    ms.countP isFaulty = ms.countP isMalformed + ms.countP isOverlong := by
  induction ms with
  | nil => rfl
  | cons m ms ih =>
      have hm : m.isFaulty.toNat = m.isMalformed.toNat + m.isOverlong.toNat := by
        obtain ⟨w, c, turn⟩ := m
        cases turn with
        | receive i =>
            cases i with
            | line t => exact congrArg Bool.toNat (Bool.or_false _)
            | _ => rfl
        | _ => rfl
      simp only [countP_cons, ih, hm]
      omega

end Moment

namespace Diary

variable {sv : Services} {w₀ w : Scene} {s : SessionId} {ms : List Moment} {c : Connection}

/-- Others put nothing in. -/
def Sparing (s : SessionId) (w : Scene) (a : Action) : Prop := Spares s w (w.perform a).1

theorem owned (hfree : ∀ id, w₀.registry.lookup s id = none)
    (h : Diary sv (Sparing s) w₀ s ms w c) : c.session = s ∧ Owned w c := by
  obtain ⟨hs, ho, -⟩ := (h.course fun _ _ ha => ha).invariant hfree
  exact ⟨hs, ho⟩

/-- What is asked for under a number waits, or is answered, abandoned or lost;
and a job that overtakes a bind adds a response. -/
theorem balance (hfree : ∀ id, w₀.registry.lookup s id = none)
    (h : Diary sv (Sparing s) w₀ s ms w c) (id : RequestId) :
    c.answered id + c.waiting w id + ms.countP (Moment.abandons id) +
        ms.countP (Moment.loses sv id) =
      ms.countP (Moment.asks id) + ms.countP (Moment.overtakes id) +
        if id = .zero then ms.countP Moment.isFaulty else 0 := by
  induction h with
  | accept =>
      have hl : (Connection.accept w₀ s).1.registry.lookup s id = none := hfree id
      rw [waiting_of_none rfl, Registry.held, show (Connection.accept w₀ s).2.session = s from rfl,
        hl]
      simp [answered, Connection.accept]
  | @turn ms w c h t hp ih =>
      obtain ⟨hs, ho⟩ := h.owned hfree
      have hspares : ∀ a, t = .act a → Spares c.session w (w.perform a).1 := by
        rintro a rfl
        rw [hs]
        exact hp
      have hb := @Moment.balances sv _ ⟨w, c, t⟩ ho hp hspares id
      simp only [Moment.Balances] at hb
      simp only [Moment.countP_snoc]
      by_cases hid : id = .zero
      · simp only [hid, if_true] at hb ih ⊢
        omega
      · simp only [hid, if_false] at hb ih ⊢
        omega

/-- A job overtakes a bind only if the bind began under its number. -/
theorem not_overtaken (hfree : ∀ id, w₀.registry.lookup s id = none)
    (h : Diary sv (Sparing s) w₀ s ms w c) (hn : NoReuse (ms.flatMap (Moment.jobEvents sv s)))
    {m : Moment} (hm : m ∈ ms) (id : RequestId) : m.overtakes id = false := by
  obtain ⟨ms₁, ms₂, rfl, h₁, hp⟩ := h.before hm
  rw [List.flatMap_append] at hn
  refine Bool.eq_false_iff.mpr ?_
  intro hover
  simp only [Moment.overtakes] at hover
  split at hover
  · rename_i j o ht
    simp only [binds, Bool.and_eq_true, decide_eq_true_eq, Option.any_eq_true] at hover
    obtain ⟨⟨hj, b, hb, hid⟩, -⟩ := hover
    rw [Moment.Possible, ht] at hp
    exact (h₁.course fun _ _ ha => ha).bind_apart hfree hn.front hb hp (hj.trans hid.symm)
  · cases hover

end Diary

/-- Under each number the client gets at most one response for each request it
asked for that is answered, less those that it abandoned, one more for each
time that a job which was done overtook a bind, and under the number zero one
more for each line that is malformed or too long.  It gets exactly so many when
all jobs and binds are done and the session was not closed, terminated or
purged before the jobs were.  Abandons and unbinds are never answered; and no
bind is overtaken where none begins under the number of a job that is not done. -/
theorem responses_conserved {sv : Services} {w₀ w : Scene} {s : SessionId} {ms : List Moment}
    {c : Connection} (hfree : ∀ id, w₀.registry.lookup s id = none)
    (h : Diary sv (Diary.Sparing s) w₀ s ms w c) :
    (∀ id, c.answered id + ms.countP (Moment.abandons id) ≤
      ms.countP (Moment.asks id) + ms.countP (Moment.overtakes id) +
        if id = .zero then ms.countP Moment.isMalformed + ms.countP Moment.isOverlong else 0) ∧
    (c.jobs = [] → c.pending = none → (∀ m ∈ ms, m.Spared) →
      ∀ id, c.answered id + ms.countP (Moment.abandons id) =
        ms.countP (Moment.asks id) + ms.countP (Moment.overtakes id) +
          if id = .zero then ms.countP Moment.isMalformed + ms.countP Moment.isOverlong else 0) ∧
    (∀ m ∈ ms, ∀ q, m.request? = some q → q.operation.isAnswered = false →
      (m.next sv).2.responses = m.connection.responses) ∧
    (NoReuse (ms.flatMap (Moment.jobEvents sv s)) → ∀ id, ms.countP (Moment.overtakes id) = 0) := by
  simp only [← Moment.countP_isFaulty]
  refine ⟨?_, ?_, ?_, ?_⟩
  · intro id
    rw [← h.balance hfree id]
    omega
  · intro hj hnone hspared id
    have hbalance := h.balance hfree id
    have hwaits : c.waiting w id = 0 := by
      obtain ⟨-, ho⟩ := h.owned hfree
      have hl : w.registry.lookup c.session id = none := by
        refine (ho.lookup_eq_none_iff id).mpr ⟨by simp [hj], ?_⟩
        rintro ⟨b, hb, -⟩
        rw [hnone] at hb
        cases hb
      rw [waiting_of_none hnone, Registry.held, hl]
      rfl
    have hlost : ms.countP (Moment.loses sv id) = 0 := by
      refine List.countP_eq_zero.mpr ?_
      intro m hm
      obtain ⟨ms₁, ms₂, -, h₁, -⟩ := h.before hm
      rw [Moment.not_loses_of_spared (h₁.owned hfree).2 (hspared m hm) id]
      exact Bool.false_ne_true
    omega
  · intro m _ q hq hop
    exact Moment.responses_of_not_answered hq hop
  · intro hn id
    refine List.countP_eq_zero.mpr ?_
    intro m hm
    rw [h.not_overtaken hfree hn hm id]
    exact Bool.false_ne_true

/-- The connection of a client that searched twice under one number, having
abandoned the first search, when the first job is done, then the second, and
then a line has come that holds no request. -/
def firstDone : Scene × Connection :=
  searchingAgain.2.finishJob searchingAgain.1 firstJob .cancelled

def bothDone : Scene × Connection :=
  firstDone.2.finishJob firstDone.1 secondJob (.entries [])

def complained : Scene × Connection :=
  bothDone.2.receive directoryServices bothDone.1 (.line "?")

def searchLine : String := "\x7b\"id\":1,\"op\":\"search\",\"base\":\"ou=a\"\x7d"

theorem ofLine_searchLine : Request.ofLine searchLine = .ok firstSearch :=
  ofLine_eq (by decide +kernel)

def searchingTwice : List Moment :=
  [⟨(accept emptyScene ⟨"s"⟩).1, (accept emptyScene ⟨"s"⟩).2, .receive (.line searchLine)⟩,
    ⟨searching.1, searching.2,
      .receive (.line "\x7b\"id\":2,\"op\":\"abandon\",\"target\":1\x7d")⟩,
    ⟨abandoning, searching.2,
      .receive (.line "\x7b\"id\":1,\"op\":\"search\",\"base\":\"ou=b\"\x7d")⟩,
    ⟨searchingAgain.1, searchingAgain.2, .finish firstJob .cancelled⟩,
    ⟨firstDone.1, firstDone.2, .finish secondJob (.entries [])⟩,
    ⟨bothDone.1, bothDone.2, .receive (.line "?")⟩]

theorem searchingOnce_diary :
    Diary directoryServices (Diary.Sparing ⟨"s"⟩) emptyScene ⟨"s"⟩ (searchingTwice.take 1)
      searching.1 searching.2 :=
  Diary.accept.line rfl (by decide) ofLine_searchLine

theorem searchingAbandoned_diary :
    Diary directoryServices (Diary.Sparing ⟨"s"⟩) emptyScene ⟨"s"⟩ (searchingTwice.take 2)
      abandoning searching.2 := by
  have h := searchingOnce_diary.line rfl
    (t := "\x7b\"id\":2,\"op\":\"abandon\",\"target\":1\x7d") (by decide)
    (q := ⟨⟨2⟩, .abandon ⟨1⟩, []⟩) (ofLine_eq (by decide +kernel))
  rw [serve_abandoning] at h
  exact h

theorem searchingTwice_diary :
    Diary directoryServices (Diary.Sparing ⟨"s"⟩) emptyScene ⟨"s"⟩ searchingTwice complained.1
      complained.2 := by
  have h₃ := searchingAbandoned_diary.line rfl
    (t := "\x7b\"id\":1,\"op\":\"search\",\"base\":\"ou=b\"\x7d") (by decide) (q := secondSearch)
    (ofLine_eq (by decide +kernel))
  have h₄ := h₃.turn (.finish firstJob .cancelled) List.mem_cons_self
  have h₅ := h₄.turn (.finish secondJob (.entries [])) List.mem_cons_self
  exact h₅.turn (.receive (.line "?")) rfl

theorem Moment.spared_of_own {m : Moment} (hl : m.leaves = false)
    (ho : m.isOthers = false) : m.Spared := by
  refine fun _ => ⟨hl, ?_⟩
  intro a ha
  simp only [Moment.isOthers, ha] at ho
  cases ho

/-- One response for two searches of which one was abandoned, and one for the
line that held no request. -/
theorem searched_twice_answered_once :
    complained.2.answered ⟨1⟩ = 1 ∧ searchingTwice.countP (Moment.asks ⟨1⟩) = 2 ∧
      searchingTwice.countP (Moment.overtakes ⟨1⟩) = 0 ∧
      complained.2.answered ⟨1⟩ + searchingTwice.countP (Moment.abandons ⟨1⟩) = 2 ∧
      complained.2.answered .zero = 1 ∧ searchingTwice.countP Moment.isMalformed = 1 ∧
      NoReuse ((searchingTwice.take 1).flatMap (Moment.jobEvents directoryServices ⟨"s"⟩)) ∧
      (searchingTwice.take 1).countP (Moment.overtakes ⟨1⟩) = 0 := by
  have hfree : ∀ id, emptyScene.registry.lookup ⟨"s"⟩ id = none := fun _ => rfl
  have hspared : ∀ m ∈ searchingTwice, m.Spared := by
    have hall : searchingTwice.all (fun m => !m.leaves && !m.isOthers) = true := by decide +kernel
    intro m hm
    have hown := List.all_eq_true.mp hall m hm
    simp only [Bool.and_eq_true, Bool.not_eq_true'] at hown
    exact Moment.spared_of_own hown.1 hown.2
  have hasks : searchingTwice.countP (Moment.asks ⟨1⟩) = 2 := by decide +kernel
  have hover : searchingTwice.countP (Moment.overtakes ⟨1⟩) = 0 := by decide +kernel
  have hjobs : complained.2.jobs = [] := List.length_eq_zero_iff.mp (by decide +kernel)
  have hnone : complained.2.pending = none := Option.isNone_iff_eq_none.mp (by decide +kernel)
  have hconserved := (responses_conserved hfree searchingTwice_diary).2.1 hjobs hnone hspared
  -- where nothing but one search has come, no number is used again
  have hn : NoReuse ((searchingTwice.take 1).flatMap
      (Moment.jobEvents directoryServices ⟨"s"⟩)) := by
    have hevents : (searchingTwice.take 1).flatMap (Moment.jobEvents directoryServices ⟨"s"⟩) =
        [.began firstJob] := by
      simp only [searchingTwice, List.take, List.flatMap_cons, List.flatMap_nil, Moment.jobEvents,
        receiveEvents, ofLine_searchLine, show Text.allBlank searchLine = false by decide,
        Bool.false_eq_true, if_false, List.append_nil]
      rfl
    rw [hevents]
    rintro es₁ e es₂ he id - k hk -
    cases es₁ with
    | nil => exact absurd hk List.not_mem_nil
    | cons x xs =>
        have hlen := congrArg List.length he
        simp at hlen
  refine ⟨by decide +kernel, hasks, hover, (hconserved ⟨1⟩).trans ?_, by decide +kernel,
    by decide +kernel, hn, (responses_conserved hfree searchingOnce_diary).2.2.2 hn ⟨1⟩⟩
  rw [hasks, hover]
  rfl

/-! ## A bind that is overtaken -/

/-- The line of a bind under the number 1, and the bind when it is registered. -/
def numberedBindLine : String :=
  "\x7b\"id\":1,\"op\":\"bind\",\"dn\":\"cn=a\",\"password\":\"p\"\x7d"

def registeredBind : PendingBind := ⟨⟨1⟩, ⟨1⟩, .ofBind "cn=a" "p", []⟩

/-- The connection when the first search has been abandoned and the bind is
registered, when the job of the search is done, and when the bind is settled. -/
def binding : Scene × Connection :=
  (abandoning.withRegistry
      (registerBind abandoning.registry ⟨"s"⟩ ⟨1⟩ (.ofBind "cn=a" "p") []).2,
    { searching.2 with pending := some registeredBind })

def overtaken : Scene × Connection := binding.2.finishJob binding.1 firstJob .cancelled

def answeredTwice : Scene × Connection :=
  overtaken.2.settle directoryServices overtaken.1 registeredBind

def bindingOnce : List Moment :=
  searchingTwice.take 2 ++ [⟨abandoning, searching.2, .register numberedBindLine⟩] ++
    [⟨binding.1, binding.2, .finish firstJob .cancelled⟩] ++ [⟨overtaken.1, overtaken.2, .settle⟩]

theorem bindingOnce_diary :
    Diary directoryServices (Diary.Sparing ⟨"s"⟩) emptyScene ⟨"s"⟩ bindingOnce answeredTwice.1
      answeredTwice.2 := by
  have hbegins : searching.2.beginBind? abandoning numberedBindLine =
      some (registeredBind, binding.1.registry) :=
    beginBind?_eq_some.mpr
      ⟨⟨1⟩, "cn=a", "p", [], by decide, ofLine_eq (by decide +kernel), by decide, rfl⟩
  have h₃ := searchingAbandoned_diary.bind rfl hbegins
  have h₄ := h₃.turn (.finish firstJob .cancelled) List.mem_cons_self
  exact h₄.turn .settle rfl

/-- The client asks twice and abandons once, and hears twice: from the bind, and
before from the job of the search that it had abandoned. -/
theorem abandoned_search_overtakes_bind :
    Diary directoryServices (Diary.Sparing ⟨"s"⟩) emptyScene ⟨"s"⟩ bindingOnce answeredTwice.1
        answeredTwice.2 ∧
      answeredTwice.2.jobs = [] ∧ answeredTwice.2.pending = none ∧
      (∀ m ∈ bindingOnce, m.Spared) ∧
      answeredTwice.2.answered ⟨1⟩ = 2 ∧ bindingOnce.countP (Moment.asks ⟨1⟩) = 2 ∧
      bindingOnce.countP (Moment.abandons ⟨1⟩) = 1 := by
  have hfree : ∀ id, emptyScene.registry.lookup ⟨"s"⟩ id = none := fun _ => rfl
  have hbalance := bindingOnce_diary.balance hfree ⟨1⟩
  have hanswered : answeredTwice.2.answered ⟨1⟩ = 2 := by decide +kernel
  have hasks : bindingOnce.countP (Moment.asks ⟨1⟩) = 2 := by decide +kernel
  have hwaits : answeredTwice.2.waiting answeredTwice.1 ⟨1⟩ = 0 := by decide +kernel
  have hover : bindingOnce.countP (Moment.overtakes ⟨1⟩) = 1 := by decide +kernel
  have hlost : bindingOnce.countP (Moment.loses directoryServices ⟨1⟩) = 0 := by decide +kernel
  rw [hanswered, hasks, hwaits, hover, hlost, if_neg (by decide)] at hbalance
  refine ⟨bindingOnce_diary, rfl, rfl, ?_, hanswered, hasks, by omega⟩
  have hall : bindingOnce.all (fun m => !m.leaves && !m.isOthers) = true := by decide +kernel
  intro m hm
  have hown := List.all_eq_true.mp hall m hm
  simp only [Bool.and_eq_true, Bool.not_eq_true'] at hown
  exact Moment.spared_of_own hown.1 hown.2

end Connection

end DirectorySessions
