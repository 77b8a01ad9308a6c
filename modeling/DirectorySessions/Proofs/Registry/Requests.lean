/-
# What the operations do to outstanding requests

A registry's request maps are looked at in two ways only: which handle is
outstanding under a session and a number (`lookup`), and whether a session is
being purged (`isClosing`).  Each operation that touches the maps has one
lemma here for each of the two, so that later arguments need not open the
tables.  The second half says the same of the handles: an operation leaves
their records alone, adds one, or marks one as fired.
-/
import DirectorySessions.Registry.Progress

namespace DirectorySessions

namespace Table

variable {κ α : Type}

@[simp] theorem entries_emptyCollection : (∅ : Table κ α).entries = [] := rfl

@[simp] theorem size_emptyCollection : (∅ : Table κ α).size = 0 := rfl

variable [DecidableEq κ]

@[simp] theorem get?_emptyCollection (k : κ) : (∅ : Table κ α).get? k = none := rfl

theorem find?_of_mem {k : κ} {a : α} {es : List (κ × α)} (hnd : (es.map Prod.fst).Nodup)
    (hm : (k, a) ∈ es) : find? k es = some a := by
  induction es with
  | nil => exact absurd hm List.not_mem_nil
  | cons e es ih =>
      obtain ⟨k', a'⟩ := e
      simp only [List.map_cons, List.nodup_cons] at hnd
      rcases List.mem_cons.mp hm with h | h
      · cases h
        simp only [find?, if_true]
      · have hne : k' ≠ k := by
          rintro rfl
          exact hnd.1 (List.mem_map.mpr ⟨_, h, rfl⟩)
        simp only [find?, if_neg hne]
        exact ih hnd.2 h

theorem get?_of_mem {t : Table κ α} {k : κ} {a : α} (h : (k, a) ∈ t.entries) :
    t.get? k = some a :=
  find?_of_mem t.nodup h

theorem mem_of_find? {k : κ} {a : α} {es : List (κ × α)} (h : find? k es = some a) :
    (k, a) ∈ es := by
  induction es with
  | nil => cases h
  | cons e es ih =>
      obtain ⟨k', a'⟩ := e
      by_cases hk : k' = k
      · simp only [find?, if_pos hk, Option.some.injEq] at h
        subst hk
        subst h
        exact List.mem_cons_self
      · simp only [find?, if_neg hk] at h
        exact List.mem_cons_of_mem _ (ih h)

theorem mem_of_get? {t : Table κ α} {k : κ} {a : α} (h : t.get? k = some a) :
    (k, a) ∈ t.entries :=
  mem_of_find? h

end Table

namespace Registry

variable {r r' : Registry} {s s' : SessionId} {id id' : RequestId} {h h' : HandleId}

/-! ## Looking at request maps -/

theorem requestsOf_congr (hr : r'.requests = r.requests) (s : SessionId) :
    r'.requestsOf s = r.requestsOf s := by
  simp only [requestsOf, hr]

theorem lookup_congr (hr : r'.requests = r.requests) (s : SessionId) (id : RequestId) :
    r'.lookup s id = r.lookup s id := by
  simp only [lookup, requestsOf_congr hr]

theorem isClosing_congr (hr : r'.requests = r.requests) (s : SessionId) :
    r'.isClosing s = r.isClosing s := by
  simp only [isClosing, hr]

theorem isClosing_iff : r.isClosing s = true ↔ r.requests.get? s = some .closing := by
  simp only [isClosing]
  split <;> rename_i h
  · simp [h]
  · simp only [Bool.false_eq_true, false_iff]
    exact h

/-- Nothing is outstanding on a session that is being purged. -/
theorem requestsOf_of_closing (hc : r.isClosing s = true) : r.requestsOf s = ∅ := by
  simp [requestsOf, isClosing_iff.mp hc, RequestMap.handles]

theorem requestsOf_of_absent (ha : r.requests.get? s = none) : r.requestsOf s = ∅ := by
  simp [requestsOf, ha]

theorem lookup_eq_none (he : r.requestsOf s = ∅) (id : RequestId) : r.lookup s id = none := by
  simp [lookup, he]

theorem isClosing_of_lookup (hl : r.lookup s id = some h) : r.isClosing s = false := by
  cases hc : r.isClosing s with
  | false => rfl
  | true =>
      rw [lookup_eq_none (requestsOf_of_closing hc)] at hl
      cases hl

theorem requestsOf_setRequests (r : Registry) (s s' : SessionId) (hs : Table RequestId HandleId) :
    (r.setRequests s hs).requestsOf s' = if s = s' then hs else r.requestsOf s' := by
  simp only [requestsOf, setRequests, Table.get?_insert]
  split <;> rfl

theorem isClosing_setRequests (r : Registry) (s s' : SessionId) (hs : Table RequestId HandleId) :
    (r.setRequests s hs).isClosing s' = if s = s' then false else r.isClosing s' := by
  simp only [isClosing, setRequests, Table.get?_insert]
  by_cases hk : s = s' <;> simp [hk]

theorem lookup_setRequests (r : Registry) (s s' : SessionId) (hs : Table RequestId HandleId)
    (id : RequestId) :
    (r.setRequests s hs).lookup s' id = if s = s' then hs.get? id else r.lookup s' id := by
  simp only [lookup, requestsOf_setRequests]
  split <;> rfl

/-! ## Registering and taking out -/

theorem register_ok (hc : r.isClosing s = false) (id : RequestId) (h : HandleId) :
    r.register s id h = .ok { r.setRequests s ((r.requestsOf s).insert id h) with
      stats := r.stats.countRegistered } := by
  simp [register, hc, setRequests]

theorem register_refused (hc : r.isClosing s = true) (id : RequestId) (h : HandleId) :
    r.register s id h = .error (.sessionClosing s) := by
  simp [register, hc]

theorem not_closing_of_register (hr : r.register s id h = .ok r') : r.isClosing s = false := by
  cases hc : r.isClosing s with
  | false => rfl
  | true =>
      rw [register_refused hc] at hr
      cases hr

theorem register_requests (hr : r.register s id h = .ok r') :
    r'.requests = (r.setRequests s ((r.requestsOf s).insert id h)).requests := by
  rw [register_ok (not_closing_of_register hr)] at hr
  cases hr
  rfl

theorem lookup_register (hr : r.register s id h = .ok r') (s' : SessionId) (id' : RequestId) :
    r'.lookup s' id' = if s = s' ∧ id = id' then some h else r.lookup s' id' := by
  rw [lookup_congr (register_requests hr), lookup_setRequests]
  by_cases hs : s = s'
  · subst hs
    simp [Table.get?_insert, lookup]
  · simp [hs]

theorem isClosing_register (hr : r.register s id h = .ok r') (s' : SessionId) :
    r'.isClosing s' = r.isClosing s' := by
  rw [isClosing_congr (register_requests hr), isClosing_setRequests]
  split
  · rename_i hs
    subst hs
    exact (not_closing_of_register hr).symm
  · rfl

theorem lookup_takeOut (r : Registry) (s s' : SessionId) (id id' : RequestId) :
    (r.setRequests s ((r.requestsOf s).erase id)).lookup s' id' =
      if s = s' ∧ id = id' then none else r.lookup s' id' := by
  rw [lookup_setRequests]
  by_cases hs : s = s'
  · subst hs
    simp [Table.get?_erase, lookup]
  · simp [hs]

theorem isClosing_takeOut (hl : r.lookup s id = some h) (s' : SessionId) :
    (r.setRequests s ((r.requestsOf s).erase id)).isClosing s' = r.isClosing s' := by
  rw [isClosing_setRequests]
  split
  · rename_i hs
    subst hs
    exact (isClosing_of_lookup hl).symm
  · rfl

theorem complete_eq_some (hc : r.complete s id = some (h, r')) :
    r.lookup s id = some h ∧
      r'.requests = (r.setRequests s ((r.requestsOf s).erase id)).requests := by
  obtain ⟨x, hx, he⟩ := Option.map_eq_some_iff.mp hc
  cases he
  exact ⟨hx, rfl⟩

theorem complete_eq_none (hl : r.lookup s id = none) : r.complete s id = none := by
  simp [complete, hl]

theorem beginAbandon_eq_taken (hb : r.beginAbandon s id = .taken h r') :
    r.lookup s id = some h ∧ r' = r.setRequests s ((r.requestsOf s).erase id) := by
  simp only [beginAbandon] at hb
  split at hb
  · cases hb
  · rename_i x hx
    split at hb
    · cases hb
      exact ⟨hx, rfl⟩
    · cases hb

theorem beginAbandon_notFound (hl : r.lookup s id = none) :
    r.beginAbandon s id = .notFound := by
  simp [beginAbandon, hl]

/-! ## Purging -/

theorem beginPurge_eq_some {hs : List HandleId} (hb : r.beginPurge s = some (hs, r')) :
    ∃ map, r.requests.get? s = some (.accepting map) ∧ hs = map.values ∧
      r' = { r with requests := r.requests.insert s .closing } := by
  simp only [beginPurge] at hb
  split at hb
  · rename_i map hm
    cases hb
    exact ⟨map, hm, rfl, rfl⟩
  · cases hb

/-- The handles that a purge detaches are those that were outstanding. -/
theorem beginPurge_values {hs : List HandleId} (hb : r.beginPurge s = some (hs, r')) :
    hs = (r.requestsOf s).values := by
  obtain ⟨map, hm, rfl, -⟩ := beginPurge_eq_some hb
  simp [requestsOf, hm, RequestMap.handles]

theorem beginPurge_of_closing (hc : r.isClosing s = true) : r.beginPurge s = none := by
  simp [beginPurge, isClosing_iff.mp hc]

theorem beginPurge_eq_none (hb : r.beginPurge s = none) : r.requestsOf s = ∅ := by
  simp only [beginPurge] at hb
  split at hb
  · cases hb
  · rename_i hn
    cases hg : r.requests.get? s with
    | none => exact requestsOf_of_absent hg
    | some map =>
        cases map with
        | accepting hs => exact absurd hg (hn hs)
        | closing => exact requestsOf_of_closing (isClosing_iff.mpr hg)

theorem not_closing_of_beginPurge {hs : List HandleId} (hb : r.beginPurge s = some (hs, r')) :
    r.isClosing s = false := by
  cases hc : r.isClosing s with
  | false => rfl
  | true =>
      rw [beginPurge_of_closing hc] at hb
      cases hb

theorem lookup_beginPurge {hs : List HandleId} (hb : r.beginPurge s = some (hs, r'))
    (s' : SessionId) (id : RequestId) :
    r'.lookup s' id = if s = s' then none else r.lookup s' id := by
  obtain ⟨map, -, -, rfl⟩ := beginPurge_eq_some hb
  simp only [lookup, requestsOf, Table.get?_insert]
  split <;> rfl

theorem isClosing_beginPurge {hs : List HandleId} (hb : r.beginPurge s = some (hs, r'))
    (s' : SessionId) : r'.isClosing s' = if s = s' then true else r.isClosing s' := by
  obtain ⟨map, -, -, rfl⟩ := beginPurge_eq_some hb
  simp only [isClosing, Table.get?_insert]
  by_cases hk : s = s' <;> simp [hk]

theorem requests_endPurge (r : Registry) (s s' : SessionId) (n : Nat) :
    (r.endPurge s n).requests.get? s' = if s = s' then none else r.requests.get? s' := by
  simp only [endPurge, Table.get?_erase]

theorem lookup_endPurge (r : Registry) (s s' : SessionId) (n : Nat) (id : RequestId) :
    (r.endPurge s n).lookup s' id = if s = s' then none else r.lookup s' id := by
  simp only [lookup, requestsOf, requests_endPurge]
  split <;> rfl

theorem isClosing_endPurge (r : Registry) (s s' : SessionId) (n : Nat) :
    (r.endPurge s n).isClosing s' = if s = s' then false else r.isClosing s' := by
  simp only [isClosing, requests_endPurge]
  by_cases hk : s = s' <;> simp [hk]

/-! ## Handles -/

/-- The number of a handle that was made. -/
def Knows (r : Registry) (h : HandleId) : Prop := h.index < r.handles.length

theorem knows_iff : r.Knows h ↔ ∃ x, r.handle? h = some x := by
  simp only [Knows, handle?]
  constructor
  · intro hk
    exact ⟨_, List.getElem?_eq_getElem hk⟩
  · rintro ⟨x, hx⟩
    exact (List.getElem?_eq_some_iff.mp hx).1

@[simp] theorem cancelToken_requests (r : Registry) (t : TokenId) :
    (r.cancelToken t).requests = r.requests := by
  simp only [cancelToken]
  split <;> rfl

theorem mem_cancelled_cancelToken {t t' : TokenId} :
    t' ∈ (r.cancelToken t).cancelled ↔ t' = t ∨ t' ∈ r.cancelled := by
  simp only [cancelToken]
  split
  · rename_i ht
    constructor
    · exact .inr
    · rintro (rfl | h)
      · exact ht
      · exact h
  · exact List.mem_cons

@[simp] theorem fire_requests (r : Registry) (h : HandleId) :
    (r.fire h).requests = r.requests := by
  simp only [fire]
  split
  · split
    · rfl
    · exact cancelToken_requests _ _
  · rfl

theorem handle?_fire (r : Registry) (h h' : HandleId) :
    (r.fire h).handle? h' =
      if h = h' then (r.handle? h').map fun x => { x with fired := true } else r.handle? h' := by
  cases hx : r.handle? h with
  | none =>
      have hf : r.fire h = r := by simp [fire, hx]
      rw [hf]
      split
      · rename_i he
        subst he
        simp [hx]
      · rfl
  | some x =>
      by_cases hfired : x.fired = true
      · have hf : r.fire h = r := by simp [fire, hx, hfired]
        rw [hf]
        split
        · rename_i he
          subst he
          rw [hx]
          cases x
          cases hfired
          rfl
        · rfl
      · have hlen : h.index < r.handles.length := knows_iff.mpr ⟨x, hx⟩
        have hset : (r.fire h).handles = r.handles.set h.index { x with fired := true } := by
          simp [fire, hx, hfired]
        simp only [handle?] at hx ⊢
        rw [hset]
        by_cases he : h = h'
        · subst he
          rw [if_pos rfl, List.getElem?_set_self hlen, hx]
          rfl
        · have hi : h.index ≠ h'.index := fun hi => he (by
            cases h
            cases h'
            exact congrArg HandleId.mk hi)
          rw [if_neg he, List.getElem?_set_ne hi]

theorem knows_fire (r : Registry) (h h' : HandleId) : (r.fire h).Knows h' ↔ r.Knows h' := by
  rw [knows_iff, knows_iff, handle?_fire]
  split
  · cases hx : r.handle? h' with
    | none => simp
    | some x => simp
  · rfl

theorem handle?_congr (hh : r'.handles = r.handles) (h : HandleId) :
    r'.handle? h = r.handle? h := by
  simp only [handle?, hh]

theorem knows_congr (hh : r'.handles = r.handles) (h : HandleId) : r'.Knows h ↔ r.Knows h := by
  simp only [Knows, hh]

/-- The handles of one registry are among those of another, and there have all
that they were made with. -/
def Kept (r r' : Registry) : Prop :=
  ∀ h x, r.handle? h = some x → ∃ f, r'.handle? h = some { x with fired := f }

theorem knows_of_kept (hk : r.Kept r') (h : r.Knows h') : r'.Knows h' := by
  obtain ⟨x, hx⟩ := knows_iff.mp h
  obtain ⟨f, hf⟩ := hk h' x hx
  exact knows_iff.mpr ⟨_, hf⟩

theorem kept_of_handles (hh : r'.handles = r.handles) : r.Kept r' := by
  intro h x hx
  rw [← handle?_congr hh] at hx
  exact ⟨x.fired, hx⟩

theorem kept_refl (r : Registry) : r.Kept r := kept_of_handles rfl

theorem kept_trans {r'' : Registry} (h : r.Kept r') (h' : r'.Kept r'') : r.Kept r'' := by
  intro y x hx
  obtain ⟨f, hf⟩ := h y x hx
  obtain ⟨f', hf'⟩ := h' y _ hf
  exact ⟨f', hf'⟩

theorem kept_of_append {ys : List Handle} (hh : r'.handles = r.handles ++ ys) : r.Kept r' := by
  intro h x hx
  refine ⟨x.fired, ?_⟩
  simp only [handle?] at hx ⊢
  rw [hh, List.getElem?_append_left (List.getElem?_eq_some_iff.mp hx).1]
  exact hx

theorem fire_kept (r : Registry) (h : HandleId) : r.Kept (r.fire h) := by
  intro y x hx
  rw [handle?_fire]
  split
  · exact ⟨true, by rw [hx, Option.map_some]⟩
  · exact ⟨x.fired, hx⟩

end Registry

end DirectorySessions
