/-
# Shutting down closes everything

A shutdown goes through two lists: first the sessions that are open, each of which is
terminated, then those that own requests by that time and were never opened, each of which is
closed.  Either way a session is taken out of all three tables, and if no callback does
anything to sessions the others stay as they are.  So what is left depends on which sessions
the two lists have between them, not on their order (`Registry.Cleared`); and these are the
sessions which are open or own requests, each of them in at least one of the lists.

A session that only has a context bound to it is in neither, and stays bound.

In which order the tables list their entries is not fixed.  So the result is about all
registries that differ from the one reached in nothing else (`Registry.Reordered`).
-/
import DirectorySessions.Proofs.Registry.Calm

namespace DirectorySessions

/-! ## What comes of closing sessions -/

namespace Registry

variable {r r' r'' : Registry} {s : SessionId} {ss ss' : List SessionId}

/-- The second registry is what comes of the first one when these sessions are closed: they
are in no table any more, and the entries of other sessions are as they were.  The close
tokens that they had are cancelled, and what was outstanding on them has fired. -/
structure Cleared (ss : List SessionId) (r r' : Registry) : Prop where
  records : ∀ s, r'.records.get? s = if s ∈ ss then none else r.records.get? s
  contexts : ∀ s, r'.contexts.get? s = if s ∈ ss then none else r.contexts.get? s
  requests : ∀ s, r'.requests.get? s = if s ∈ ss then none else r.requests.get? s
  tokens : ∀ s ∈ ss, ∀ t, r.records.get? s = some t → t ∈ r'.cancelled
  fired : ∀ s ∈ ss, ∀ id x, r.lookup s id = some x → r.Knows x → r'.HasFired x
  grows : r.Grows r'

theorem SameTables.cleared (h : r.SameTables r') (hg : r.Grows r') : r.Cleared [] r' := by
  refine ⟨?_, ?_, ?_, List.forall_mem_nil _, List.forall_mem_nil _, hg⟩
  · intro s
    rw [h.records, if_neg List.not_mem_nil]
  · intro s
    rw [h.contexts, if_neg List.not_mem_nil]
  · intro s
    rw [h.requests, if_neg List.not_mem_nil]

theorem lookup_of_requests_eq (h : r'.requests.get? s = r.requests.get? s) (id : RequestId) :
    r'.lookup s id = r.lookup s id := by
  simp only [lookup, requestsOf, h]

theorem Cleared.trans (h : r.Cleared ss r') (h' : r'.Cleared ss' r'') :
    r.Cleared (ss ++ ss') r'' := by
  have both : ∀ {α : Type} {s : SessionId} {o o' o'' : Option α},
      (o' = if s ∈ ss then none else o) → (o'' = if s ∈ ss' then none else o') →
        o'' = if s ∈ ss ++ ss' then none else o := by
    rintro α s o o' o'' rfl rfl
    by_cases hs : s ∈ ss <;> simp [hs]
  refine ⟨fun s => both (h.records s) (h'.records s), fun s => both (h.contexts s) (h'.contexts s),
    fun s => both (h.requests s) (h'.requests s), ?_, ?_, h.grows.trans h'.grows⟩
  · intro s hs t ht
    by_cases hin : s ∈ ss
    · exact h'.grows.cancelled (h.tokens s hin t ht)
    · refine h'.tokens s ((List.mem_append.mp hs).resolve_left hin) t ?_
      rw [h.records, if_neg hin]
      exact ht
  · intro s hs id x hl hk
    by_cases hin : s ∈ ss
    · exact h'.grows.fired (h.fired s hin id x hl hk)
    · refine h'.fired s ((List.mem_append.mp hs).resolve_left hin) id x ?_ (h.grows.knows hk)
      rw [lookup_of_requests_eq ((h.requests s).trans (if_neg hin))]
      exact hl

theorem Cleared.congr (h : r.Cleared ss r') (he : ∀ s, s ∈ ss ↔ s ∈ ss') : r.Cleared ss' r' := by
  refine ⟨?_, ?_, ?_, fun s hs => h.tokens s ((he s).mpr hs),
    fun s hs => h.fired s ((he s).mpr hs), h.grows⟩
  · intro s
    rw [h.records, if_congr (he s) rfl rfl]
  · intro s
    rw [h.contexts, if_congr (he s) rfl rfl]
  · intro s
    rw [h.requests, if_congr (he s) rfl rfl]

theorem Cleared.idle (h : r.Cleared ss r') (hi : r.Idle) : r'.Idle := by
  intro s
  have hidle := hi s
  simp only [isClosing] at hidle ⊢
  rw [h.requests]
  by_cases hs : s ∈ ss
  · rw [if_pos hs]
  · rw [if_neg hs]
    exact hidle

theorem forget_grows (r : Registry) (s : SessionId) : r.Grows (r.forget s) :=
  ⟨kept_of_handles (Machine.forget_handles r s), hasFired_of_handles (Machine.forget_handles r s),
    fun ht => mem_cancelled_forget.mpr (Or.inl ht)⟩

end Registry

namespace Machine

variable {w : Scene} {s : SessionId} {next : Teardown} {ss : List SessionId} {n : Nat}

theorem steps_close_calm (hc : w.registry.isClosing s = false)
    (hcalm : Calm ⟨w, .purge s next, []⟩) :
    ∃ es w' n, Steps ⟨w, .purge s next, []⟩ es ⟨w', .purged s n next, []⟩ ∧
      w.registry.Cleared [s] (w'.registry.forget s) := by
  obtain ⟨es, w', n, t, hrecords, hcontexts, hrequests, hfired⟩ := steps_purge_calm hc hcalm
  have hgrows := t.grows.trans (Registry.forget_grows w'.registry s)
  refine ⟨es, w', n, t, ?_, ?_, ?_, ?_, ?_, hgrows⟩
  · intro s'
    rw [(Registry.forget_books _ _).2, hrecords]
    simp only [List.mem_singleton, eq_comm]
  · intro s'
    rw [Registry.forget_contexts, Table.get?_erase, hcontexts]
    simp only [List.mem_singleton, eq_comm]
  · intro s'
    rw [Registry.forget_requests, hrequests]
    simp only [List.mem_singleton, eq_comm]
  · intro s' hs' token ht
    cases List.mem_singleton.mp hs'
    rw [← hrecords] at ht
    exact Registry.mem_cancelled_forget.mpr (Or.inr ht)
  · intro s' hs' id x hl hk
    cases List.mem_singleton.mp hs'
    exact (Registry.forget_grows w'.registry s).fired (hfired id x hl hk)

/-- Open sessions are terminated one after the other, and all of them are counted. -/
theorem steps_shuttingDown_calm (hnodup : ss.Nodup)
    (hopen : ∀ s ∈ ss, (w.registry.records.get? s).isSome = true) (hi : w.registry.Idle)
    (hcalm : Calm ⟨w, .shuttingDown ss n, []⟩) :
    ∃ es w', Steps ⟨w, .shuttingDown ss n, []⟩ es ⟨w', .shuttingDown [] (n + ss.length), []⟩ ∧
      w.registry.Cleared ss w'.registry := by
  induction ss generalizing w n with
  | nil =>
      exact ⟨[], w, .refl _, (Registry.sameTables_refl _).cleared (Registry.grows_refl _)⟩
  | cons s ss ih =>
      obtain ⟨hs, hnodup⟩ := List.nodup_cons.mp hnodup
      -- its close token is cancelled first, which changes no table
      obtain ⟨token, ht⟩ := Option.isSome_iff_exists.mp (hopen s List.mem_cons_self)
      have hsignal : w.registry.signalClose? s = some (w.registry.cancelToken token) := by
        simp only [Registry.signalClose?, ht, Option.map_some]
      have hs₁ : step ⟨w, .shuttingDown (s :: ss) n, []⟩ =
          some ⟨w.withRegistry (w.registry.cancelToken token), .purge s (.shutdown ss n), []⟩ := by
        simp only [step, hsignal]
      have hcleared₁ : w.registry.Cleared [] (w.registry.cancelToken token) :=
        (Registry.cancelToken_sameTables _ _).cleared (Steps.single hs₁).grows
      obtain ⟨es, w₁, k, t₁, hcleared₂⟩ :=
        steps_close_calm (hcleared₁.idle hi s) (hcalm.step hs₁)
      have t : Steps ⟨w, .shuttingDown (s :: ss) n, []⟩ _
          ⟨w₁.withRegistry (w₁.registry.forget s), .shuttingDown ss (n + 1), []⟩ :=
        .head hs₁ (t₁.trans (.single rfl))
      have hcleared := hcleared₁.trans hcleared₂
      have hrest : ∀ s' ∈ ss, ((w₁.registry.forget s).records.get? s').isSome = true := by
        intro s' hs'
        have hne : s' ∉ [] ++ [s] := by
          rintro (_ | ⟨_, hin⟩)
          · exact hs hs'
          · cases hin
        rw [hcleared.records, if_neg hne]
        exact hopen s' (List.mem_cons_of_mem _ hs')
      obtain ⟨es', w', t', hcleared'⟩ := ih hnodup hrest (hcleared.idle hi) (hcalm.steps t)
      rw [Nat.add_assoc, Nat.add_comm 1] at t'
      exact ⟨_, w', t.trans t', hcleared.trans hcleared'⟩

theorem steps_sweeping_calm (hi : w.registry.Idle) (hcalm : Calm ⟨w, .sweeping ss n, []⟩) :
    ∃ es w', Steps ⟨w, .sweeping ss n, []⟩ es ⟨w', .reply (.number n), []⟩ ∧
      w.registry.Cleared ss w'.registry := by
  induction ss generalizing w with
  | nil =>
      exact ⟨_, w, .single rfl, (Registry.sameTables_refl _).cleared (Registry.grows_refl _)⟩
  | cons s ss ih =>
      have hcalm₁ : Calm ⟨w, .purge s (.sweep ss n), []⟩ := hcalm.step rfl
      obtain ⟨es, w₁, k, t₁, hcleared⟩ := steps_close_calm (hi s) hcalm₁
      have t : Steps ⟨w, .sweeping (s :: ss) n, []⟩ _
          ⟨w₁.withRegistry (w₁.registry.forget s), .sweeping ss n, []⟩ :=
        .head rfl (t₁.trans (.single rfl))
      obtain ⟨es', w', t', hcleared'⟩ := ih (hcleared.idle hi) (hcalm.steps t)
      exact ⟨_, w', t.trans t', hcleared.trans hcleared'⟩

/-- A shutdown whose callbacks leave sessions alone closes the sessions that are open or own
requests, and counts the open ones. -/
theorem steps_shutdown_calm (hi : w.registry.Idle) (hcalm : Calm ⟨w, .perform .shutdown, []⟩) :
    ∃ es w', Steps ⟨w, .perform .shutdown, []⟩ es
        ⟨w', .reply (.number w.registry.openSessions.length), []⟩ ∧
      w.registry.Cleared (w.registry.openSessions ++ w.registry.sessionsWithMap) w'.registry := by
  have hs : step ⟨w, .perform .shutdown, []⟩ =
      some ⟨w, .shuttingDown w.registry.openSessions 0, []⟩ := rfl
  have hopen : ∀ s ∈ w.registry.openSessions, (w.registry.records.get? s).isSome = true :=
    fun s => Table.mem_keys.mp
  have hnodup : w.registry.openSessions.Nodup := w.registry.records.nodup
  obtain ⟨es₁, w₁, t₁, hcleared₁⟩ := steps_shuttingDown_calm hnodup hopen hi (hcalm.step hs)
  rw [Nat.zero_add] at t₁
  have t := (Steps.head hs t₁).trans (.single rfl)
  obtain ⟨es₂, w', t₂, hcleared₂⟩ := steps_sweeping_calm (hcleared₁.idle hi) (hcalm.steps t)
  refine ⟨_, w', t.trans t₂, (hcleared₁.trans hcleared₂).congr ?_⟩
  -- what is swept owns requests, and was not closed before
  intro s
  have hswept : s ∈ w₁.registry.sessionsWithMap ↔
      s ∉ w.registry.openSessions ∧ s ∈ w.registry.sessionsWithMap := by
    simp only [Registry.sessionsWithMap, Table.mem_keys, hcleared₁.requests s]
    by_cases hin : s ∈ w.registry.openSessions <;> simp [hin]
  rw [List.mem_append, List.mem_append, hswept]
  tauto

end Machine

/-! ## Everything is closed -/

theorem Table.keys_eq_nil {κ α : Type} [DecidableEq κ] {t : Table κ α}
    (h : ∀ k, t.get? k = none) : t.keys = [] := by
  refine List.eq_nil_iff_forall_not_mem.mpr ?_
  intro k hk
  rw [Table.mem_keys, h k] at hk
  cases hk

namespace Registry

variable {r r' : Registry}

/-- Where the sessions which are open or own requests have been closed, none is open and none
owns requests. -/
theorem Cleared.all (h : r.Cleared (r.openSessions ++ r.sessionsWithMap) r') :
    r'.openSessions = [] ∧ r'.sessionsWithMap = [] := by
  constructor
  · refine Table.keys_eq_nil ?_
    intro s
    rw [h.records]
    split
    · rfl
    · rename_i hs
      exact Table.find?_eq_none fun hin => hs (List.mem_append_left _ hin)
  · refine Table.keys_eq_nil ?_
    intro s
    rw [h.requests]
    split
    · rfl
    · rename_i hs
      exact Table.find?_eq_none fun hin => hs (List.mem_append_right _ hin)

theorem mem_sessionsWithMap_of_lookup {s : SessionId} {id : RequestId} {x : HandleId}
    (hl : r.lookup s id = some x) : s ∈ r.sessionsWithMap := by
  refine Table.mem_keys.mpr (Option.isSome_iff_ne_none.mpr ?_)
  intro hnone
  rw [lookup_eq_none (requestsOf_of_absent hnone)] at hl
  cases hl

end Registry

/-- Where no session is open and none owns requests, a shutdown finds nothing to do. -/
theorem Machine.steps_shutdown_idle {w : Scene} (hopen : w.registry.openSessions = [])
    (howns : w.registry.sessionsWithMap = []) :
    Steps ⟨w, .perform .shutdown, []⟩ [] ⟨w, .reply (.number 0), []⟩ := by
  have h₁ : step ⟨w, .perform .shutdown, []⟩ = some ⟨w, .shuttingDown [] 0, []⟩ := by
    rw [← hopen]
    rfl
  have h₂ : step ⟨w, .shuttingDown [] 0, []⟩ =
      some ⟨w, .sweeping w.registry.sessionsWithMap 0, []⟩ := rfl
  rw [howns] at h₂
  exact .head h₁ (.head h₂ (.single rfl))

/-! ## Whatever the order -/

theorem Table.get?_of_perm {κ α : Type} [DecidableEq κ] {t t' : Table κ α}
    (h : t'.entries.Perm t.entries) (k : κ) : t'.get? k = t.get? k := by
  refine Option.ext ?_
  intro a
  constructor
  · intro ha
    exact get?_of_mem (h.mem_iff.mp (mem_of_get? ha))
  · intro ha
    exact get?_of_mem (h.mem_iff.mpr (mem_of_get? ha))

/-- Registries that differ in nothing but the order in which their tables list the sessions,
and the requests of each session. -/
structure Registry.Reordered (r r' : Registry) : Prop where
  records : r'.records.entries.Perm r.records.entries
  contexts : r'.contexts.entries.Perm r.contexts.entries
  owners : r'.sessionsWithMap.Perm r.sessionsWithMap
  closing : ∀ s, r'.isClosing s = r.isClosing s
  requests : ∀ s, (r'.requestsOf s).entries.Perm (r.requestsOf s).entries
  rest : r' = { r with records := r'.records, contexts := r'.contexts, requests := r'.requests }

namespace Registry

variable {r r' r'' : Registry}

theorem Reordered.handles (h : r.Reordered r') : r'.handles = r.handles := by
  rw [h.rest]

theorem Reordered.cancelled (h : r.Reordered r') : r'.cancelled = r.cancelled := by
  rw [h.rest]

theorem Reordered.length_openSessions (h : r.Reordered r') :
    r'.openSessions.length = r.openSessions.length := by
  rw [openSessions, openSessions, Table.keys, Table.keys, List.length_map, List.length_map]
  exact h.records.length_eq

theorem Reordered.lookup (h : r.Reordered r') (s : SessionId) (id : RequestId) :
    r'.lookup s id = r.lookup s id :=
  Table.get?_of_perm (h.requests s) id

theorem Reordered.idle (h : r.Reordered r') (hi : r.Idle) : r'.Idle := by
  intro s
  rw [h.closing s]
  exact hi s

theorem Reordered.follows (h : r.Reordered r') (hf : r.Follows) : r'.Follows := by
  refine hf.of_handles h.handles ?_
  intro t ht
  rwa [h.cancelled]

/-- What comes of closing all sessions is the same in whatever order they were listed. -/
theorem Reordered.cleared (h : r.Reordered r')
    (hc : r'.Cleared (r'.openSessions ++ r'.sessionsWithMap) r'') :
    r.Cleared (r.openSessions ++ r.sessionsWithMap) r'' := by
  have hgrows : r.Grows r' :=
    ⟨kept_of_handles h.handles, hasFired_of_handles h.handles, fun ht => by rwa [h.cancelled]⟩
  have hperm : (r'.openSessions ++ r'.sessionsWithMap).Perm
      (r.openSessions ++ r.sessionsWithMap) := (h.records.map Prod.fst).append h.owners
  replace hc := hc.congr fun s => hperm.mem_iff
  refine ⟨?_, ?_, ?_, ?_, ?_, hgrows.trans hc.grows⟩
  · intro s
    rw [hc.records, Table.get?_of_perm h.records]
  · intro s
    rw [hc.contexts, Table.get?_of_perm h.contexts]
  · intro s
    rw [hc.requests]
    split
    · rfl
    · -- a session that is not closed has no map in either table
      rename_i hs
      have hs' : s ∉ r.sessionsWithMap := fun hin => hs (List.mem_append_right _ hin)
      have hnone : r.requests.get? s = none := Table.find?_eq_none hs'
      have hnone' : r'.requests.get? s = none :=
        Table.find?_eq_none fun hin => hs' (h.owners.mem_iff.mp hin)
      rw [hnone, hnone']
  · intro s hs t ht
    exact hc.tokens s hs t ((Table.get?_of_perm h.records s).trans ht)
  · intro s hs id x hl hk
    exact hc.fired s hs id x ((h.lookup s id).trans hl) (hgrows.knows hk)

theorem reordered_of_perm {records : Table SessionId TokenId}
    {contexts : Table SessionId SharedContext} {requests : Table SessionId RequestMap}
    (hrecords : records.entries.Perm r.records.entries)
    (hcontexts : contexts.entries.Perm r.contexts.entries)
    (hrequests : requests.entries.Perm r.requests.entries) :
    r.Reordered { r with records := records, contexts := contexts, requests := requests } := by
  have hget := Table.get?_of_perm hrequests
  refine ⟨hrecords, hcontexts, hrequests.map Prod.fst, ?_, ?_, rfl⟩
  · intro s
    simp only [isClosing, hget s]
  · intro s
    simp only [requestsOf, hget s]
    exact List.Perm.refl _

end Registry

theorem Machine.Grounded.reordered {m : Machine} {r : Registry} (hm : m.Grounded)
    (h : m.scene.registry.Reordered r) (a : Action) :
    (⟨m.scene.withRegistry r, .perform a, []⟩ : Machine).Grounded := by
  refine ⟨?_, ?_, fun hx => absurd hx List.not_mem_nil⟩
  · intro n x hx
    exact (Registry.knows_congr h.handles x).mpr (hm.named hx)
  · intro s id x hl
    exact (Registry.knows_congr h.handles x).mpr (hm.seated ((h.lookup s id).symm.trans hl))

theorem Steps.recorded {m m' : Machine} {es es' : List Event} (t : Steps m es' m')
    (hg : m.Grounded) (hr : m.Recorded es) : m'.Recorded (es ++ es') := by
  induction t generalizing es with
  | refl m => rwa [List.append_nil]
  | head hs t ih =>
      have htrans := Machine.step_transition hs
      rw [← List.append_assoc]
      exact ih (htrans.grounded hg) (hr.transition hg htrans)

theorem Steps.follows {m m' : Machine} {es : List Event} (t : Steps m es m')
    (hm : m.scene.registry.Follows) : m'.scene.registry.Follows := by
  induction t with
  | refl m => exact hm
  | head hs t ih => exact ih (Machine.step_follows hs hm)

/-- Let no operation be under way, and a shutdown begin during which no callback does anything
to sessions; callbacks may fail or panic.  It returns the number of open sessions.  Then no
session has a record or owns requests; each handle that was outstanding, on whatever session,
has fired, its token is cancelled, and its callback has been called once in all; and every
close token that a session had is cancelled.  Bound are the sessions that were bound before
and neither open nor owning requests.  Another shutdown returns zero and changes nothing.
All this is so in whatever order the tables list their entries. -/
theorem shutdown_closes_everything {config : RegistryConfig} {allowed : Bool} {es : List Event}
    {m : Machine} (h : Reached config allowed es m) (hs : m.step = none) {r : Registry}
    (ho : m.scene.registry.Reordered r)
    (hcalm : ∀ y ∈ (m.scene.withRegistry r).passage .shutdown, y.meddles = false) :
    ∃ es' w, Steps ⟨m.scene.withRegistry r, .perform .shutdown, []⟩ es'
        ⟨w, .reply (.number m.scene.registry.openSessions.length), []⟩ ∧
      w.registry.openSessions = [] ∧ w.registry.sessionsWithMap = [] ∧
      (∀ s id x, m.scene.registry.lookup s id = some x →
        ∃ y, m.scene.registry.handle? x = some y ∧
          w.registry.handle? x = some { y with fired := true } ∧
          y.token ∈ w.registry.cancelled ∧
          (es ++ es').count (.called x) = if y.callback.isSome = true then 1 else 0) ∧
      (∀ s t, m.scene.registry.records.get? s = some t → t ∈ w.registry.cancelled) ∧
      (∀ s c, w.registry.contexts.get? s = some c ↔
        m.scene.registry.contexts.get? s = some c ∧ s ∉ m.scene.registry.openSessions ∧
          s ∉ m.scene.registry.sessionsWithMap) ∧
      Steps ⟨w, .perform .shutdown, []⟩ [] ⟨w, .reply (.number 0), []⟩ := by
  -- what the run has come to does not depend on the order of the tables
  have hi := ho.idle (h.idle hs)
  have hgrounded := h.grounded.reordered ho .shutdown
  have hrecorded : (⟨m.scene.withRegistry r, .perform .shutdown, []⟩ : Machine).Recorded
      (es ++ []) := h.recorded.same ho.handles (List.forall_mem_nil _)
  rw [List.append_nil] at hrecorded
  obtain ⟨es', w, t, hcleared⟩ := Machine.steps_shutdown_calm (w := m.scene.withRegistry r) hi hcalm
  replace hcleared := ho.cleared hcleared
  obtain ⟨hopen, howns⟩ := hcleared.all
  rw [← ho.length_openSessions]
  refine ⟨es', w, t, hopen, howns, ?_, ?_, ?_, Machine.steps_shutdown_idle hopen howns⟩
  · intro s id x hl
    have hs := Registry.mem_sessionsWithMap_of_lookup hl
    have hk := h.grounded.seated hl
    obtain ⟨y, hy⟩ := Registry.knows_iff.mp hk
    have hy' := hcleared.grows.of_hasFired hy
      (hcleared.fired s (List.mem_append_right _ hs) id x hl hk)
    have htoken := t.follows (ho.follows h.follows) x _ hy' rfl
    refine ⟨y, hy, hy', htoken, ?_⟩
    rw [(t.recorded hgrounded hrecorded).called hy']
    simp only [true_and]
  · intro s token ht
    have hs : s ∈ m.scene.registry.openSessions :=
      Table.mem_keys.mpr (by rw [ht, Option.isSome_some])
    exact hcleared.tokens s (List.mem_append_left _ hs) token ht
  · intro s c
    rw [hcleared.contexts, ← not_or, ← List.mem_append]
    split
    · rename_i hin
      exact ⟨fun hb => absurd hb.symm (Option.some_ne_none c), fun hb => absurd hin hb.2⟩
    · rename_i hin
      exact ⟨fun hb => ⟨hb, hin⟩, And.left⟩

def Table.reversed {κ α : Type} [DecidableEq κ] (t : Table κ α) : Table κ α :=
  ⟨t.entries.reverse, by
    rw [List.map_reverse]
    exact List.nodup_reverse.mpr t.nodup⟩

def Registry.reversed (r : Registry) : Registry :=
  { r with
    records := r.records.reversed
    contexts := r.contexts.reversed
    requests := r.requests.reversed }

/-- Two sessions are open.  One of them is bound as well and has three requests: the callback
of the first cancels a token and fails, that of the second looks at the session and panics,
and the third has been cancelled by hand.  A handle without a callback is outstanding on the
same session and on one that nobody opened; and another session is only bound. -/
def aboutToStop : List Event × Machine :=
  Machine.play ([], ⟨.new (.new ⟨"ldap:", .direct⟩ true), .reply .nothing, []⟩)
    [(.openSession ⟨"s"⟩ none, 1), (.openSession ⟨"t"⟩ none, 1),
      (.getRootContext ⟨"s"⟩ [] (some "c"), 1), (.setContext ⟨"s"⟩ "c", 1),
      (.setContext ⟨"u"⟩ "c", 1),
      (.makeHandle ⟨"failing", ⟨1⟩, "search", true, some "k", none, some (.fails "why")⟩
        [.cancelToken "k"], 1),
      (.makeHandle ⟨"panicking", ⟨2⟩, "modify", true, none, none, some (.panics none)⟩
        [.outstanding ⟨"s"⟩, .isBound ⟨"s"⟩], 1),
      (.makeHandle ⟨"cancelled", ⟨3⟩, "add", true, none, none, some .returns⟩ [], 1),
      (.makeHandle ⟨"silent", ⟨4⟩, "search", false, none, none, none⟩ [], 1),
      (.register ⟨"s"⟩ ⟨1⟩ "failing", 1), (.register ⟨"s"⟩ ⟨2⟩ "panicking", 1),
      (.register ⟨"s"⟩ ⟨3⟩ "cancelled", 1), (.register ⟨"s"⟩ ⟨4⟩ "silent", 1),
      (.register ⟨"v"⟩ ⟨4⟩ "silent", 1), (.cancel "cancelled", 3)]

/-- Both open sessions are counted, and the session that was only bound stays so. -/
theorem stopped_in_opposite_order :
    ∃ es w, Steps ⟨aboutToStop.2.scene.withRegistry aboutToStop.2.scene.registry.reversed,
        .perform .shutdown, []⟩ es ⟨w, .reply (.number 2), []⟩ ∧
      w.registry.openSessions = [] ∧ (aboutToStop.1 ++ es).count (.called ⟨1⟩) = 1 ∧
      (aboutToStop.1 ++ es).count (.called ⟨2⟩) = 1 ∧
      (∃ y, w.registry.handle? ⟨3⟩ = some y ∧ y.fired = true) ∧
      (w.registry.contexts.get? ⟨"u"⟩).isSome = true := by
  have h : Reached ⟨"ldap:", .direct⟩ true aboutToStop.1 aboutToStop.2 := Runs.refl.play _
  have ho : aboutToStop.2.scene.registry.Reordered aboutToStop.2.scene.registry.reversed :=
    Registry.reordered_of_perm (List.reverse_perm _) (List.reverse_perm _) (List.reverse_perm _)
  have hharmless : ∀ y ∈ aboutToStop.2.scene.registry.reversed.handles, y.harmless = true := by
    decide
  have hcalm := Scene.calm_of_harmless (a := .shutdown)
    (w := aboutToStop.2.scene.withRegistry aboutToStop.2.scene.registry.reversed)
    (fun s id x hl => Registry.harmless_of_all hharmless
      (h.grounded.seated ((ho.lookup s id).symm.trans hl)))
    fun _ => Action.noConfusion
  obtain ⟨es, w, t, hopen, -, hfired, -, hbound, -⟩ :=
    shutdown_closes_everything h rfl ho hcalm
  obtain ⟨y₁, hy₁, -, -, hcalled₁⟩ := hfired ⟨"s"⟩ ⟨2⟩ ⟨1⟩ rfl
  obtain ⟨y₂, hy₂, -, -, hcalled₂⟩ := hfired ⟨"s"⟩ ⟨3⟩ ⟨2⟩ rfl
  obtain ⟨y₃, -, hy₃, -⟩ := hfired ⟨"v"⟩ ⟨4⟩ ⟨3⟩ rfl
  cases hy₁
  cases hy₂
  have hu := (hbound ⟨"u"⟩ _).mpr ⟨rfl, by decide, by decide⟩
  exact ⟨es, w, t, hopen, hcalled₁, hcalled₂, ⟨_, hy₃, rfl⟩, by rw [hu, Option.isSome_some]⟩

end DirectorySessions
