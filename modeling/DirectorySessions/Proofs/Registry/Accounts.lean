/-
# What comes in and what goes out

Two things are conserved along a run.  A registration is outstanding until it
has ended (`Runs.seats`), and a handle that is detached, or that someone asks
to cancel, waits until it is cancelled (`Runs.owed`).  Both hold in every
state, within purges too: a purge takes all its handles out of the request map
at once and only then goes through them.

A handle's record tells what was done to it (`Recorded`): it has fired if it
was ever cancelled, and then its callback, if it has one, has been called
once.  For this no handle may be cancelled before it is made, and none is:
whatever is named, outstanding or waiting was made (`Grounded`).

Both are proved by going through the transitions once (`Transition.seat`,
`Transition.owed`) and then along the run.  For the first the purges under way
have to be the marked sessions, since a purge that has begun could otherwise
let go of a map that has something in it.
-/
import DirectorySessions.Proofs.Registry.Closing

namespace DirectorySessions

theorem eq_of_countP_le_one {α : Type} {p : α → Bool} {es : List α} {e e' : α}
    (hc : es.countP p ≤ 1) (he : e ∈ es) (he' : e' ∈ es) (hp : p e = true) (hp' : p e' = true) :
    e = e' := by
  induction es with
  | nil => exact absurd he List.not_mem_nil
  | cons a es ih =>
      rw [List.countP_cons] at hc
      by_cases ha : p a = true
      · rw [if_pos ha] at hc
        have hnone : ∀ b ∈ es, ¬ p b = true := List.countP_eq_zero.mp (by omega)
        rcases List.mem_cons.mp he with rfl | he
        · rcases List.mem_cons.mp he' with rfl | he'
          · rfl
          · exact absurd hp' (hnone _ he')
        · exact absurd hp (hnone _ he)
      · rw [if_neg ha] at hc
        rcases List.mem_cons.mp he with rfl | he
        · exact absurd hp ha
        · rcases List.mem_cons.mp he' with rfl | he'
          · exact absurd hp' ha
          · exact ih (by omega) he he'

namespace Event

def isEnd : Event → Bool
  | .ended .. => true
  | _ => false

def isCancel : Event → Bool
  | .cancelled _ | .called _ => true
  | _ => false

def registers (h : HandleId) : Event → Bool
  | .registered _ _ h' => h' = h
  | _ => false

def ends (s : SessionId) (id : RequestId) (h : HandleId) : Event → Bool
  | .ended s' id' h' _ => s' = s ∧ id' = id ∧ h' = h
  | _ => false

def detaches (h : HandleId) : Event → Bool
  | .ended _ _ h' how => h' = h ∧ how.detaches
  | _ => false

end Event

namespace Table

variable {κ α : Type} [DecidableEq κ] [DecidableEq α]

theorem count_entries (t : Table κ α) (k : κ) (a : α) :
    t.entries.count (k, a) = if t.get? k = some a then 1 else 0 := by
  have hnd : t.entries.Nodup :=
    List.Pairwise.of_map Prod.fst (fun _ _ hne he => hne (congrArg Prod.fst he)) t.nodup
  rw [hnd.count]
  by_cases hg : t.get? k = some a
  · rw [if_pos hg, if_pos (mem_of_get? hg)]
  · rw [if_neg hg, if_neg fun hm => hg (get?_of_mem hm)]

end Table

namespace Registry

variable {r r' : Registry} {s s' : SessionId} {id id' : RequestId} {h x : HandleId}

/-! ## Seats -/

/-- One if the handle is outstanding under the number, else nothing. -/
def seat (r : Registry) (s : SessionId) (id : RequestId) (x : HandleId) : Nat :=
  if r.lookup s id = some x then 1 else 0

theorem seat_congr (hr : r'.requests = r.requests) (s : SessionId) (id : RequestId)
    (x : HandleId) : r'.seat s id x = r.seat s id x := by
  simp only [seat, lookup_congr hr]

theorem seat_of_lookup (hl : r.lookup s id = some h) (x : HandleId) :
    r.seat s id x = if h = x then 1 else 0 := by
  simp only [seat, hl, Option.some.injEq]

/-- A seat that was given once is taken as long as nothing has vacated it. -/
theorem lookup_iff_seat {n : Nat} (h : r.seat s id x + n = 1) :
    r.lookup s id = some x ↔ n = 0 := by
  simp only [seat] at h
  split at h
  · rename_i hl
    constructor
    · intro _
      omega
    · intro _
      exact hl
  · rename_i hl
    constructor
    · intro hl'
      exact absurd hl' hl
    · intro hn
      omega

theorem seat_takeOut (r : Registry) (s s' : SessionId) (id id' : RequestId) (x : HandleId) :
    (r.setRequests s ((r.requestsOf s).erase id)).seat s' id' x =
      if s = s' ∧ id = id' then 0 else r.seat s' id' x := by
  simp only [seat, lookup_takeOut]
  split <;> simp

/-! ## The events of a step, counted -/

theorem count_replacing (r : Registry) (s : SessionId) (id : RequestId) {e : Event}
    (he : e.isEnd = false) : (r.replacing s id).count e = 0 := by
  refine List.count_eq_zero_of_not_mem ?_
  intro hm
  simp only [replacing] at hm
  split at hm
  · cases List.mem_singleton.mp hm
    cases he
  · exact List.not_mem_nil hm

theorem countP_ends_replacing (r : Registry) (s s' : SessionId) (id id' : RequestId)
    (x : HandleId) :
    (r.replacing s id).countP (Event.ends s' id' x) =
      if s = s' ∧ id = id' then r.seat s' id' x else 0 := by
  simp only [replacing]
  by_cases hk : s = s' ∧ id = id'
  · obtain ⟨rfl, rfl⟩ := hk
    cases hl : r.lookup s id with
    | none => simp [seat, hl]
    | some h => simp [seat, hl, List.countP_cons, Event.ends]
  · rw [if_neg hk]
    cases hl : r.lookup s id with
    | none => rfl
    | some h =>
        have hne : Event.ends s' id' x (.ended s id h .replaced) = false := by
          simp only [Event.ends, decide_eq_false_iff_not]
          exact fun hs => hk ⟨hs.1, hs.2.1⟩
        simp [hne]

theorem countP_detaches_replacing (r : Registry) (s : SessionId) (id : RequestId)
    (x : HandleId) : (r.replacing s id).countP (Event.detaches x) = 0 := by
  simp only [replacing]
  split <;> simp [Event.detaches, RequestEnd.detaches]

theorem count_purgeEvents (r : Registry) (s : SessionId) {e : Event} (he : e.isEnd = false) :
    (r.purgeEvents s).count e = 0 := by
  refine List.count_eq_zero_of_not_mem ?_
  intro hm
  obtain ⟨p, -, rfl⟩ := List.mem_map.mp hm
  cases he

theorem countP_ends_purgeEvents (r : Registry) (s s' : SessionId) (id : RequestId)
    (x : HandleId) :
    (r.purgeEvents s).countP (Event.ends s' id x) = if s = s' then r.seat s' id x else 0 := by
  simp only [purgeEvents]
  rw [List.countP_map]
  by_cases hs : s = s'
  · subst hs
    rw [if_pos rfl, seat, lookup, ← Table.count_entries, List.count_eq_countP]
    refine List.countP_congr ?_
    intro p _
    obtain ⟨i, y⟩ := p
    simp [Event.ends]
  · rw [if_neg hs, List.countP_eq_zero]
    intro p _
    simp [Event.ends, hs]

theorem countP_detaches_purgeEvents (r : Registry) (s : SessionId) (x : HandleId) :
    (r.purgeEvents s).countP (Event.detaches x) = (r.requestsOf s).values.count x := by
  simp only [purgeEvents, Table.values]
  rw [List.countP_map, List.count_eq_countP, List.countP_map]
  refine List.countP_congr ?_
  intro p _
  simp [Event.detaches, RequestEnd.detaches]

theorem count_cancelEvents (r : Registry) (h : HandleId) {e : Event} (he : e.isCancel = false) :
    (r.cancelEvents h).count e = 0 := by
  refine List.count_eq_zero_of_not_mem ?_
  intro hm
  simp only [cancelEvents] at hm
  rcases List.mem_cons.mp hm with rfl | hm
  · cases he
  · split at hm
    · cases List.mem_singleton.mp hm
      cases he
    · exact List.not_mem_nil hm

theorem countP_ends_cancelEvents (r : Registry) (h : HandleId) (s : SessionId) (id : RequestId)
    (x : HandleId) : (r.cancelEvents h).countP (Event.ends s id x) = 0 := by
  simp only [cancelEvents]
  split <;> rfl

theorem countP_detaches_cancelEvents (r : Registry) (h x : HandleId) :
    (r.cancelEvents h).countP (Event.detaches x) = 0 := by
  simp only [cancelEvents]
  split <;> rfl

theorem count_cancelled_cancelEvents (r : Registry) (h x : HandleId) :
    (r.cancelEvents h).count (.cancelled x) = if h = x then 1 else 0 := by
  simp only [cancelEvents]
  split <;> simp [List.count_cons]

theorem count_called_cancelEvents (r : Registry) (h x : HandleId) :
    (r.cancelEvents h).count (.called x) = if h = x ∧ r.wouldCall h = true then 1 else 0 := by
  simp only [cancelEvents]
  by_cases hw : r.wouldCall h = true
  · simp [List.count_cons, hw]
  · simp [hw]

end Registry

namespace Registry

variable {r r' : Registry}

theorem seat_out {s₁ : SessionId} {id₁ : RequestId} {y : HandleId} (how : RequestEnd)
    (hl : r.lookup s₁ id₁ = some y)
    (hr : r'.requests = (r.setRequests s₁ ((r.requestsOf s₁).erase id₁)).requests)
    (s : SessionId) (id : RequestId) (x : HandleId) :
    r'.seat s id x + [Event.ended s₁ id₁ y how].countP (Event.ends s id x) =
      r.seat s id x + [Event.ended s₁ id₁ y how].count (.registered s id x) := by
  rw [seat_congr hr, seat_takeOut]
  by_cases hk : s₁ = s ∧ id₁ = id
  · obtain ⟨rfl, rfl⟩ := hk
    simp [seat_of_lookup hl, Event.ends, List.countP_cons]
  · have hne : Event.ends s id x (.ended s₁ id₁ y how) = false := by
      simp only [Event.ends, decide_eq_false_iff_not]
      exact fun he => hk ⟨he.1, he.2.1⟩
    simp [hk, hne]

theorem seat_register {s₁ : SessionId} {id₁ : RequestId} {y : HandleId}
    (hr : r.register s₁ id₁ y = .ok r') (s : SessionId) (id : RequestId) (x : HandleId) :
    r'.seat s id x +
        (r.replacing s₁ id₁ ++ [Event.registered s₁ id₁ y]).countP (Event.ends s id x) =
      r.seat s id x +
        (r.replacing s₁ id₁ ++ [Event.registered s₁ id₁ y]).count (.registered s id x) := by
  rw [List.countP_append, List.count_append, countP_ends_replacing, count_replacing _ _ _ rfl]
  by_cases hk : s₁ = s ∧ id₁ = id
  · obtain ⟨rfl, rfl⟩ := hk
    have hl : r'.lookup s₁ id₁ = some y := by
      rw [lookup_register hr, if_pos ⟨rfl, rfl⟩]
    simp [seat_of_lookup hl, Event.ends, List.count_cons]
    omega
  · have hl : r'.lookup s id = r.lookup s id := by
      rw [lookup_register hr, if_neg hk]
    have hne : Event.registered s₁ id₁ y ≠ .registered s id x := by
      intro he
      cases he
      exact hk ⟨rfl, rfl⟩
    simp [seat, hl, hk, Event.ends, hne]

end Registry

namespace Transition

variable {m m' : Machine} {es : List Event}

/-! ## What a transition conserves -/

/-- A registration comes in with its event, and goes out with its end. -/
theorem seat (h : Transition m m' es) (hm : m.Marked) (s : SessionId) (id : RequestId)
    (x : HandleId) :
    m'.scene.registry.seat s id x + es.countP (Event.ends s id x) =
      m.scene.registry.seat s id x + es.count (.registered s id x) := by
  cases h with
  | quiet hw hd hp =>
      rw [Registry.seat_congr hw.requests]
      rfl
  | make y n hf hh hr hn hd hp =>
      rw [Registry.seat_congr hr]
      rfl
  | register s₁ id₁ y n hg hr hn hd hp => exact Registry.seat_register hr s id x
  | complete s₁ id₁ y hc hn hd hp =>
      obtain ⟨hl, hr⟩ := Registry.complete_eq_some hc
      exact Registry.seat_out .completed hl hr s id x
  | abandon s₁ id₁ y hb hn hd hp =>
      obtain ⟨hl, hr⟩ := Registry.beginAbandon_eq_taken hb
      exact Registry.seat_out .abandoned hl (congrArg Registry.requests hr) s id x
  | ask y n hg hw hd hp =>
      rw [hw]
      simp [Event.ends]
  | cancel y hr hn hd hp =>
      have hq : m'.scene.registry.requests = m.scene.registry.requests := by
        rw [hr, Registry.fire_requests]
      rw [Registry.seat_congr hq, Registry.countP_ends_cancelEvents,
        Registry.count_cancelEvents _ _ rfl]
  | purge s₁ hs hb hn hd hp =>
      rw [Registry.countP_ends_purgeEvents, Registry.count_purgeEvents _ _ rfl]
      simp only [Registry.seat, Registry.lookup_beginPurge hb]
      split <;> simp
  | purged s₁ n hr hn hd hp =>
      have hc : m.scene.registry.isClosing s₁ = true := by
        rw [hm.closing s₁, hp]
        exact List.mem_cons_self
      have hl := Registry.lookup_eq_none (Registry.requestsOf_of_closing hc)
      simp only [Registry.seat, hr, Registry.lookup_endPurge]
      split
      · rename_i hs
        subst hs
        simp [hl]
      · rfl

theorem lookup_of_not_registered (h : Transition m m' es) {s : SessionId} {id : RequestId}
    {x : HandleId} (hn : .registered s id x ∉ es)
    (hl : m'.scene.registry.lookup s id = some x) : m.scene.registry.lookup s id = some x := by
  cases h with
  | quiet hw hd hp => rwa [Registry.lookup_congr hw.requests] at hl
  | make y n hf hh hr hn' hd hp => rwa [Registry.lookup_congr hr] at hl
  | register s₁ id₁ y n hg hr hn' hd hp =>
      rw [Registry.lookup_register hr] at hl
      split at hl
      · rename_i hk
        obtain ⟨rfl, rfl⟩ := hk
        cases hl
        exact absurd (List.mem_append_right _ (List.mem_singleton.mpr rfl)) hn
      · exact hl
  | complete s₁ id₁ y hc hn' hd hp =>
      rw [Registry.lookup_congr (Registry.complete_eq_some hc).2, Registry.lookup_takeOut] at hl
      split at hl
      · cases hl
      · exact hl
  | abandon s₁ id₁ y hb hn' hd hp =>
      rw [(Registry.beginAbandon_eq_taken hb).2, Registry.lookup_takeOut] at hl
      split at hl
      · cases hl
      · exact hl
  | ask y n hg hw hd hp => rwa [hw] at hl
  | cancel y hr hn' hd hp => rwa [hr, Registry.lookup_congr (Registry.fire_requests _ _)] at hl
  | purge s₁ hs hb hn' hd hp =>
      rw [Registry.lookup_beginPurge hb] at hl
      split at hl
      · cases hl
      · exact hl
  | purged s₁ n hr hn' hd hp =>
      rw [hr, Registry.lookup_endPurge] at hl
      split at hl
      · cases hl
      · exact hl

/-- What is to be cancelled waits until it is. -/
theorem owed (h : Transition m m' es) (x : HandleId) :
    m'.waiting.count x + es.count (.cancelled x) =
      m.waiting.count x + es.count (.asked x) + es.countP (Event.detaches x) := by
  cases h with
  | quiet hw hd hp =>
      rw [hd]
      rfl
  | make y n hf hh hr hn hd hp =>
      rw [hd]
      rfl
  | register s id y n hg hr hn hd hp =>
      rw [hd, List.count_append, List.count_append, List.countP_append,
        Registry.countP_detaches_replacing, Registry.count_replacing _ _ _ rfl,
        Registry.count_replacing _ _ _ rfl]
      rfl
  | complete s id y hc hn hd hp =>
      rw [hd]
      simp [Event.detaches, RequestEnd.detaches]
  | abandon s id y hb hn hd hp =>
      rw [hd]
      simp [Event.detaches, RequestEnd.detaches, List.count_cons, List.countP_cons]
  | ask y n hg hw hd hp =>
      rw [hd]
      simp [Event.detaches, List.count_cons]
  | cancel y hr hn hd hp =>
      rw [hd, Registry.count_cancelled_cancelEvents, Registry.countP_detaches_cancelEvents,
        Registry.count_cancelEvents _ _ rfl, List.count_cons]
      simp
  | purge s hs hb hn hd hp =>
      rw [hd, Registry.beginPurge_values hb, List.count_append,
        Registry.countP_detaches_purgeEvents, Registry.count_purgeEvents _ _ rfl,
        Registry.count_purgeEvents _ _ rfl]
      omega
  | purged s n hr hn hd hp =>
      rw [hd]
      rfl

end Transition

/-! ## Handles and their records -/

namespace Machine

/-- Whatever is named, outstanding, or still to be cancelled was made. -/
structure Grounded (m : Machine) : Prop where
  named : ∀ {n h}, m.scene.handleOf? n = some h → m.scene.registry.Knows h
  seated : ∀ {s id h}, m.scene.registry.lookup s id = some h → m.scene.registry.Knows h
  waits : ∀ {h}, h ∈ m.waiting → m.scene.registry.Knows h

/-- The record of a handle tells whether it was cancelled, and how often its
callback was called; to a handle that was not made neither has happened. -/
structure Recorded (m : Machine) (es : List Event) : Prop where
  fired : ∀ {h x}, m.scene.registry.handle? h = some x →
    (x.fired = true ↔ .cancelled h ∈ es)
  called : ∀ {h x}, m.scene.registry.handle? h = some x →
    es.count (.called h) = if x.fired = true ∧ x.callback.isSome = true then 1 else 0
  unmade : ∀ {h}, ¬ m.scene.registry.Knows h → .cancelled h ∉ es ∧ .called h ∉ es

end Machine

namespace Transition

variable {m m' : Machine} {es : List Event}

/-- A transition leaves the handles alone, makes one, or cancels one that was
waiting for it. -/
theorem handles_cases (h : Transition m m' es) :
    (m'.scene.registry.handles = m.scene.registry.handles ∧ ∀ e ∈ es, e.isCancel = false) ∨
    (∃ x, x.fired = false ∧
      m'.scene.registry.handles = m.scene.registry.handles ++ [x] ∧ es = []) ∨
    (∃ y, y ∈ m.waiting ∧ m'.scene.registry = m.scene.registry.fire y ∧
      es = m.scene.registry.cancelEvents y) := by
  have none : ∀ e ∈ ([] : List Event), e.isCancel = false := fun _ he => absurd he List.not_mem_nil
  have one : ∀ {e' : Event}, e'.isCancel = false → ∀ e ∈ [e'], e.isCancel = false := by
    intro e' he' e he
    rw [List.mem_singleton.mp he]
    exact he'
  cases h with
  | quiet hw hd hp => exact Or.inl ⟨hw.handles, none⟩
  | make y n hf hh hr hn hd hp => exact Or.inr (Or.inl ⟨y, hf, hh, rfl⟩)
  | register s id y n hg hr hn hd hp =>
      refine Or.inl ⟨Machine.register_handles hr, ?_⟩
      intro e he
      rcases List.mem_append.mp he with he | he
      · simp only [Registry.replacing] at he
        split at he
        · exact one rfl e he
        · exact none e he
      · exact one rfl e he
  | complete s id y hc hn hd hp => exact Or.inl ⟨Machine.complete_handles hc, one rfl⟩
  | abandon s id y hb hn hd hp => exact Or.inl ⟨Machine.beginAbandon_handles hb, one rfl⟩
  | ask y n hg hw hd hp =>
      rw [hw]
      exact Or.inl ⟨rfl, one rfl⟩
  | cancel y hr hn hd hp =>
      refine Or.inr (Or.inr ⟨y, ?_, hr, rfl⟩)
      rw [hd]
      exact List.mem_cons_self
  | purge s hs hb hn hd hp =>
      refine Or.inl ⟨Machine.beginPurge_handles hb, ?_⟩
      intro e he
      obtain ⟨p, -, rfl⟩ := List.mem_map.mp he
      rfl
  | purged s n hr hn hd hp =>
      rw [hr]
      exact Or.inl ⟨rfl, none⟩

theorem kept (h : Transition m m' es) : m.scene.registry.Kept m'.scene.registry := by
  rcases h.handles_cases with ⟨hh, -⟩ | ⟨y, -, hh, -⟩ | ⟨y, -, hr, -⟩
  · exact Registry.kept_of_handles hh
  · exact Registry.kept_of_append hh
  · rw [hr]
    exact Registry.fire_kept _ _

theorem knows (h : Transition m m' es) {x : HandleId} (hk : m.scene.registry.Knows x) :
    m'.scene.registry.Knows x :=
  Registry.knows_of_kept h.kept hk

theorem named_of_registered (h : Transition m m' es) {s : SessionId} {id : RequestId}
    {x : HandleId} (hin : .registered s id x ∈ es) : ∃ n, m.scene.handleOf? n = some x := by
  have hpos := List.count_pos_iff.mpr hin
  cases h with
  | register s₁ id₁ y n hg hr hn hd hp =>
      rw [List.count_append, Registry.count_replacing _ _ _ rfl, Nat.zero_add] at hpos
      cases List.mem_singleton.mp (List.count_pos_iff.mp hpos)
      exact ⟨n, hg⟩
  | cancel y hr hn hd hp =>
      rw [Registry.count_cancelEvents _ _ rfl] at hpos
      exact absurd hpos (Nat.lt_irrefl 0)
  | purge s₁ hs hb hn hd hp =>
      rw [Registry.count_purgeEvents _ _ rfl] at hpos
      exact absurd hpos (Nat.lt_irrefl 0)
  | _ => simp at hin

/-- What is named now was named before, or has just been made. -/
theorem named_cases (h : Transition m m' es) {n : String} {x : HandleId}
    (hx : m'.scene.handleOf? n = some x) :
    m.scene.handleOf? n = some x ∨ m'.scene.registry.Knows x := by
  have same : m'.scene.names.handles = m.scene.names.handles →
      m.scene.handleOf? n = some x ∨ m'.scene.registry.Knows x := by
    intro hn
    simp only [Scene.handleOf?] at hx ⊢
    rw [hn] at hx
    exact Or.inl hx
  cases h with
  | quiet hw hd hp => exact same hw.named
  | make y n' hf hh hr hn hd hp =>
      simp only [Scene.handleOf?] at hx ⊢
      rw [hn, Table.get?_insert] at hx
      split at hx
      · cases hx
        refine Or.inr ?_
        simp only [Registry.Knows]
        rw [hh, List.length_append]
        exact Nat.lt_succ_self _
      · exact Or.inl hx
  | register s id y n' hg hr hn hd hp => exact same (congrArg Names.handles hn)
  | complete s id y hc hn hd hp => exact same (congrArg Names.handles hn)
  | abandon s id y hb hn hd hp => exact same (congrArg Names.handles hn)
  | ask y n' hg hw hd hp => exact same (by rw [hw])
  | cancel y hr hn hd hp => exact same (congrArg Names.handles hn)
  | purge s hs hb hn hd hp => exact same (congrArg Names.handles hn)
  | purged s k hr hn hd hp => exact same (congrArg Names.handles hn)

/-- What is to be cancelled now was so before, or was asked for by its name, or was
outstanding. -/
theorem waiting_cases (h : Transition m m' es) {x : HandleId} (hx : x ∈ m'.waiting) :
    x ∈ m.waiting ∨ (.asked x ∈ es ∧ ∃ n, m.scene.handleOf? n = some x) ∨
      ∃ s id, m.scene.registry.lookup s id = some x := by
  cases h with
  | quiet hw hd hp => exact Or.inl (hd ▸ hx)
  | make y n hf hh hr hn hd hp => exact Or.inl (hd ▸ hx)
  | register s id y n hg hr hn hd hp => exact Or.inl (hd ▸ hx)
  | complete s id y hc hn hd hp => exact Or.inl (hd ▸ hx)
  | abandon s id y hb hn hd hp =>
      rw [hd] at hx
      rcases List.mem_cons.mp hx with rfl | hx
      · exact Or.inr (Or.inr ⟨s, id, (Registry.beginAbandon_eq_taken hb).1⟩)
      · exact Or.inl hx
  | ask y n hg hw hd hp =>
      rw [hd] at hx
      rcases List.mem_cons.mp hx with rfl | hx
      · exact Or.inr (Or.inl ⟨List.mem_cons_self, n, hg⟩)
      · exact Or.inl hx
  | cancel y hr hn hd hp =>
      rw [hd]
      exact Or.inl (List.mem_cons_of_mem _ hx)
  | purge s hs hb hn hd hp =>
      rw [hd, Registry.beginPurge_values hb] at hx
      rcases List.mem_append.mp hx with hx | hx
      · obtain ⟨⟨id, z⟩, hz, rfl⟩ := List.mem_map.mp hx
        exact Or.inr (Or.inr ⟨s, id, Table.get?_of_mem hz⟩)
      · exact Or.inl hx
  | purged s n hr hn hd hp => exact Or.inl (hd ▸ hx)

theorem grounded (h : Transition m m' es) (hm : m.Grounded) : m'.Grounded := by
  refine ⟨?_, ?_, ?_⟩
  · intro n x hx
    rcases h.named_cases hx with hx | hk
    · exact h.knows (hm.named hx)
    · exact hk
  · intro s id x hx
    by_cases hin : .registered s id x ∈ es
    · obtain ⟨n, hg⟩ := h.named_of_registered hin
      exact h.knows (hm.named hg)
    · exact h.knows (hm.seated (h.lookup_of_not_registered hin hx))
  · intro x hx
    rcases h.waiting_cases hx with hw | ⟨-, n, hg⟩ | ⟨s, id, hl⟩
    · exact h.knows (hm.waits hw)
    · exact h.knows (hm.named hg)
    · exact h.knows (hm.seated hl)

end Transition

namespace Machine

variable {m m' : Machine} {es es' : List Event}

theorem Recorded.same (hm : m.Recorded es)
    (hh : m'.scene.registry.handles = m.scene.registry.handles)
    (hq : ∀ e ∈ es', e.isCancel = false) : m'.Recorded (es ++ es') := by
  have hcancel : ∀ h, .cancelled h ∈ es ++ es' ↔ .cancelled h ∈ es := by
    intro h
    rw [List.mem_append]
    exact or_iff_left fun he => by cases hq _ he
  have hcall : ∀ h, .called h ∉ es' := by
    intro h he
    cases hq _ he
  constructor
  · intro h x hx
    rw [Registry.handle?_congr hh] at hx
    rw [hcancel, hm.fired hx]
  · intro h x hx
    rw [Registry.handle?_congr hh] at hx
    rw [List.count_append, List.count_eq_zero_of_not_mem (hcall h), hm.called hx, Nat.add_zero]
  · intro h hk
    rw [Registry.knows_congr hh] at hk
    obtain ⟨h₁, h₂⟩ := hm.unmade hk
    rw [hcancel, List.mem_append]
    exact ⟨h₁, fun he => he.elim h₂ (hcall h)⟩

theorem Recorded.make (hm : m.Recorded es) {y : Handle} (hf : y.fired = false)
    (hh : m'.scene.registry.handles = m.scene.registry.handles ++ [y]) : m'.Recorded es := by
  have old : ∀ {h x}, m'.scene.registry.handle? h = some x →
      m.scene.registry.handle? h = some x ∨ ¬ m.scene.registry.Knows h ∧ x = y := by
    intro h x hx
    simp only [Registry.handle?] at hx
    rw [hh, List.getElem?_append] at hx
    split at hx
    · exact Or.inl hx
    · rename_i hlt
      have hmem := List.mem_of_getElem? hx
      exact Or.inr ⟨hlt, List.mem_singleton.mp hmem⟩
  constructor
  · intro h x hx
    rcases old hx with hx | ⟨hk, rfl⟩
    · exact hm.fired hx
    · simp [hf, (hm.unmade hk).1]
  · intro h x hx
    rcases old hx with hx | ⟨hk, rfl⟩
    · exact hm.called hx
    · simp [hf, List.count_eq_zero_of_not_mem (hm.unmade hk).2]
  · intro h hk
    refine hm.unmade fun hk' => hk ?_
    simp only [Registry.Knows] at hk' ⊢
    rw [hh, List.length_append]
    omega

theorem Recorded.cancel (hm : m.Recorded es) {y : HandleId} (hk : m.scene.registry.Knows y)
    (hr : m'.scene.registry = m.scene.registry.fire y) :
    m'.Recorded (es ++ m.scene.registry.cancelEvents y) := by
  have hcancel : ∀ h, .cancelled h ∈ m.scene.registry.cancelEvents y ↔ y = h := by
    intro h
    rw [← List.count_pos_iff, Registry.count_cancelled_cancelEvents]
    split <;> simp [*]
  constructor
  · intro h x hx
    rw [hr, Registry.handle?_fire] at hx
    rw [List.mem_append, hcancel]
    split at hx
    · rename_i he
      obtain ⟨x', -, rfl⟩ := Option.map_eq_some_iff.mp hx
      simp [he]
    · rename_i he
      rw [hm.fired hx]
      simp [he]
  · intro h x hx
    rw [hr, Registry.handle?_fire] at hx
    rw [List.count_append, Registry.count_called_cancelEvents]
    split at hx
    · rename_i he
      subst he
      obtain ⟨x', hx', rfl⟩ := Option.map_eq_some_iff.mp hx
      rw [hm.called hx']
      simp only [Registry.wouldCall]
      rw [hx']
      cases hf : x'.fired <;> cases hcb : x'.callback <;> simp [hf, hcb]
    · rename_i he
      rw [hm.called hx, if_neg fun hc : y = h ∧ _ => he hc.1, Nat.add_zero]
  · intro h hk'
    rw [hr, Registry.knows_fire] at hk'
    have hne : y ≠ h := by
      rintro rfl
      exact hk' hk
    obtain ⟨h₁, h₂⟩ := hm.unmade hk'
    rw [List.mem_append, List.mem_append, hcancel]
    refine ⟨fun he => he.elim h₁ hne, fun he => he.elim h₂ ?_⟩
    intro hc
    have hpos := List.count_pos_iff.mpr hc
    rw [Registry.count_called_cancelEvents, if_neg fun hc : y = h ∧ _ => hne hc.1] at hpos
    exact absurd hpos (Nat.lt_irrefl 0)

theorem Recorded.transition (hm : m.Recorded es) (hg : m.Grounded) (h : Transition m m' es') :
    m'.Recorded (es ++ es') := by
  rcases h.handles_cases with ⟨hh, hq⟩ | ⟨y, hf, hh, rfl⟩ | ⟨y, hy, hr, rfl⟩
  · exact hm.same hh hq
  · rw [List.append_nil]
    exact hm.make hf hh
  · exact hm.cancel (hg.waits hy) hr

end Machine

/-! ## What an operation keeps -/

theorem Steps.kept {m m' : Machine} {es : List Event} (h : Steps m es m') :
    m.scene.registry.Kept m'.scene.registry := by
  induction h with
  | refl m => exact Registry.kept_refl _
  | head hs t ih => exact Registry.kept_trans (Machine.step_transition hs).kept ih

theorem Scene.perform_kept (w : Scene) (a : Action) :
    w.registry.Kept (w.perform a).1.registry := by
  obtain ⟨es, h⟩ := Machine.steps_perform w a []
  exact h.kept

/-! ## Along a run -/

namespace Runs

variable {config : RegistryConfig} {allowed : Bool} {m : Machine} {es : List Event}

/-- A registration is outstanding, or has ended, but not both. -/
theorem seats (h : Reached config allowed es m) (s : SessionId) (id : RequestId) (x : HandleId) :
    m.scene.registry.seat s id x + es.countP (Event.ends s id x) =
      es.count (.registered s id x) := by
  induction h with
  | refl => rfl
  | step h hs ih =>
      have hc := (Machine.step_transition hs).seat h.marked s id x
      rw [List.countP_append, List.count_append]
      omega
  | next h hs a ih => exact ih

/-- A handle that was detached, or that someone asked to cancel, is still
waiting for it or was cancelled. -/
theorem owed (h : Reached config allowed es m) (x : HandleId) :
    m.waiting.count x + es.count (.cancelled x) =
      es.count (.asked x) + es.countP (Event.detaches x) := by
  induction h with
  | refl => rfl
  | step h hs ih =>
      have hc := (Machine.step_transition hs).owed x
      rw [List.countP_append, List.count_append, List.count_append]
      omega
  | next h hs a ih =>
      obtain ⟨w, y, rfl⟩ := Machine.step_eq_none hs
      exact ih

theorem grounded (h : Reached config allowed es m) : m.Grounded := by
  induction h with
  | refl =>
      refine ⟨?_, ?_, ?_⟩
      · intro n x hg
        cases hg
      · intro s id x hl
        cases hl
      · intro x hx
        cases hx
  | step h hs ih => exact (Machine.step_transition hs).grounded ih
  | next h hs a ih =>
      obtain ⟨w, y, rfl⟩ := Machine.step_eq_none hs
      exact ⟨ih.named, ih.seated, ih.waits⟩

theorem recorded (h : Reached config allowed es m) : m.Recorded es := by
  induction h with
  | refl =>
      refine ⟨?_, ?_, ?_⟩
      · intro x y hx
        cases hx
      · intro x y hx
        cases hx
      · intro x hk
        exact ⟨List.not_mem_nil, List.not_mem_nil⟩
  | step h hs ih => exact ih.transition h.grounded (Machine.step_transition hs)
  | next h hs a ih => exact ⟨ih.fired, ih.called, ih.unmade⟩

end Runs

end DirectorySessions
