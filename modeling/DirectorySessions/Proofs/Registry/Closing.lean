/-
# A purge keeps registrations out, and only while it lasts

The mark on a session that is being purged is set by the purge that finds a
map to take away, and goes with the map when that purge has cancelled its last
handle.  What happens in between may itself purge, close or terminate the same
session or others.  The invariant that survives all of it (`Marked`) is that
the marked sessions are those with a purge under way, and that no session has
two: a purge that finds the mark does nothing, and so cannot clear it.

A purge of the same session from within its own callbacks therefore purges
nothing and returns zero, and whatever else looks for requests there finds
none (`FindsNothing`, `steps_findsNothing`).  What runs while a purge lasts
runs in a callback of one of its handles, and that is how it is recognised
(`Machine.InPurge`).  Nothing is remembered of a purge that has returned, and
what is registered then goes into a new map.
-/
import DirectorySessions.Proofs.Registry.Runs

namespace DirectorySessions

/-- The replies to what is asked about a session on which nothing is outstanding. -/
inductive FindsNothing (s : SessionId) : Action → Reply → Prop
  | outstanding : FindsNothing s (.outstanding s) (.number 0)
  | snapshot : FindsNothing s (.snapshot s) (.listed [])
  | lookup (id : RequestId) : FindsNothing s (.lookup s id) (.found none)
  | complete (id : RequestId) : FindsNothing s (.complete s id) (.found none)
  | abandon (id : RequestId) : FindsNothing s (.abandon s id) (.abandon .notFound)
  | purge : FindsNothing s (.purge s) (.number 0)

/-- The operations that purge a session, with the replies that say so. -/
inductive Purges (s : SessionId) : Action → Reply → Prop
  | purge (n : Nat) : Purges s (.purge s) (.number n)
  | close (n : Nat) : Purges s (.closeSession s) (.number n)
  | terminate : Purges s (.terminate s) (.truth true)

namespace Machine

variable {m m' : Machine} {es : List Event}

/-- One of the callbacks under way belongs to a handle that is cancelled by a
purge of the session. -/
def InPurge (m : Machine) (s : SessionId) : Prop :=
  ∃ l ∈ m.levels, s ∈ Purpose.purging l.why

instance (m : Machine) (s : SessionId) : Decidable (m.InPurge s) :=
  inferInstanceAs (Decidable (∃ l ∈ m.levels, s ∈ Purpose.purging l.why))

/-- The sessions marked as closing are those whose purges are under way, each
with a single one. -/
structure Marked (m : Machine) : Prop where
  nodup : m.purging.Nodup
  closing : ∀ s, m.scene.registry.isClosing s = true ↔ s ∈ m.purging

theorem Marked.of_eq (hm : m.Marked) (hp : m'.purging = m.purging)
    (hc : ∀ s, m'.scene.registry.isClosing s = m.scene.registry.isClosing s) : m'.Marked := by
  constructor
  · rw [hp]
    exact hm.nodup
  · intro s
    rw [hp, hc s]
    exact hm.closing s

theorem Marked.transition (hm : m.Marked) (h : Transition m m' es) : m'.Marked := by
  cases h with
  | quiet hw hd hp => exact hm.of_eq hp (Registry.isClosing_congr hw.requests)
  | make x n hf hh hr hn hd hp => exact hm.of_eq hp (Registry.isClosing_congr hr)
  | register s id h n hg hr hn hd hp => exact hm.of_eq hp (Registry.isClosing_register hr)
  | complete s id h hc hn hd hp =>
      obtain ⟨hl, hr⟩ := Registry.complete_eq_some hc
      refine hm.of_eq hp ?_
      intro s'
      rw [Registry.isClosing_congr hr, Registry.isClosing_takeOut hl]
  | abandon s id h hb hn hd hp =>
      obtain ⟨hl, hr⟩ := Registry.beginAbandon_eq_taken hb
      refine hm.of_eq hp ?_
      intro s'
      rw [hr, Registry.isClosing_takeOut hl]
  | ask h n hg hw hd hp =>
      refine hm.of_eq hp ?_
      intro s'
      rw [hw]
  | cancel h hr hn hd hp =>
      refine hm.of_eq hp (Registry.isClosing_congr ?_)
      rw [hr, Registry.fire_requests]
  | purge s hs hb hn hd hp =>
      have hnot : s ∉ m.purging := by
        intro hin
        have := (hm.closing s).mpr hin
        rw [Registry.not_closing_of_beginPurge hb] at this
        cases this
      constructor
      · rw [hp]
        exact List.nodup_cons.mpr ⟨hnot, hm.nodup⟩
      · intro s'
        rw [hp, Registry.isClosing_beginPurge hb, List.mem_cons, ← hm.closing s']
        by_cases hs : s = s'
        · simp [hs]
        · simp [hs, Ne.symm hs]
  | purged s n hr hn hd hp =>
      have hnd := hm.nodup
      rw [hp] at hnd
      obtain ⟨hnot, hnd⟩ := List.nodup_cons.mp hnd
      refine ⟨hnd, ?_⟩
      intro s'
      rw [hr, Registry.isClosing_endPurge]
      by_cases hs : s = s'
      · subst hs
        simp [hnot]
      · rw [if_neg hs, hm.closing s', hp, List.mem_cons]
        simp [Ne.symm hs]

end Machine

/-- In every state of a run, the marked sessions are those being purged. -/
theorem Runs.marked {config : RegistryConfig} {allowed : Bool} {es : List Event} {m : Machine}
    (h : Reached config allowed es m) : m.Marked := by
  induction h with
  | refl =>
      refine ⟨List.nodup_nil, ?_⟩
      intro s
      constructor
      · intro hc
        cases hc
      · intro hin
        cases hin
  | step h hs ih => exact ih.transition (Machine.step_transition hs)
  | next h hs a ih =>
      obtain ⟨w, x, rfl⟩ := Machine.step_eq_none hs
      exact ⟨ih.nodup, ih.closing⟩

/-! ## What is found while a session is purged, and afterwards -/

namespace Registry

variable {r : Registry} {s : SessionId}

theorem register_fresh (ha : r.requests.get? s = none) (id : RequestId) (h : HandleId) :
    ∃ r' t, r.register s id h = .ok r' ∧ r'.requests.get? s = some (.accepting t) ∧
      t.entries = [(id, h)] := by
  have hc : r.isClosing s = false := by simp [isClosing, ha]
  refine ⟨_, (r.requestsOf s).insert id h, register_ok hc id h, ?_, ?_⟩
  · simp only [setRequests, Table.get?_insert, if_true]
  · rw [requestsOf_of_absent ha]
    rfl

theorem register_accepts (hc : r.isClosing s = false) (id : RequestId) (h : HandleId) :
    ∃ r', r.register s id h = .ok r' ∧ r'.lookup s id = some h := by
  have hr := register_ok hc id h
  refine ⟨_, hr, ?_⟩
  rw [lookup_register hr, if_pos ⟨rfl, rfl⟩]

theorem forget_requests (r : Registry) (s : SessionId) : (r.forget s).requests = r.requests :=
  (forget_alike r s).1

end Registry

namespace Scene

variable {w : Scene} {s : SessionId}

/-- A purge lets go of the session's map, whatever its callbacks did. -/
theorem purge_absent (hc : w.registry.isClosing s = false) :
    (w.purge s).1.registry.requests.get? s = none := by
  simp only [purge]
  split
  · rename_i hb
    simp only [Registry.beginPurge] at hb
    split at hb
    · cases hb
    · rename_i hn
      cases hg : w.registry.requests.get? s with
      | none => rfl
      | some map =>
          cases map with
          | accepting hs => exact absurd hg (hn hs)
          | closing =>
              rw [Registry.isClosing_iff.mpr hg] at hc
              cases hc
  · simp only [withRegistry, Registry.requests_endPurge, if_true]

theorem perform_purges {a : Action} {x : Reply} (hp : Purges s a x)
    (hc : w.registry.isClosing s = false) (hx : (w.perform a).2 = x) :
    (w.perform a).1.registry.requests.get? s = none := by
  cases hp with
  | purge n =>
      rw [perform_purge]
      exact purge_absent hc
  | close n =>
      rw [perform_closeSession]
      simp only [withRegistry, Registry.forget_requests]
      exact purge_absent hc
  | terminate =>
      cases hs : w.registry.signalClose? s with
      | none =>
          have h₁ : Machine.step ⟨w, .perform (.terminate s), []⟩ =
              some ⟨w, .reply (.truth false), []⟩ := by
            simp only [Machine.step, answer?, Machine.begin, hs]
          rw [Machine.perform_of_steps (.single h₁)] at hx
          cases hx
      | some r =>
          rw [perform_terminate hs]
          simp only [withRegistry, Registry.forget_requests]
          refine purge_absent ?_
          rw [← hc]
          exact Registry.isClosing_congr (Registry.signalClose?_alike hs).1 s

end Scene

namespace Machine

variable {m : Machine} {s : SessionId}

theorem InPurge.mem_purging (h : m.InPurge s) : s ∈ m.purging := by
  obtain ⟨l, hl, hs⟩ := h
  exact List.mem_append_right _ (List.mem_flatMap.mpr ⟨l, hl, hs⟩)

theorem mem_purging_perform {w : Scene} {a : Action} {ls : List Level} :
    s ∈ (⟨w, .perform a, ls⟩ : Machine).purging ↔ InPurge ⟨w, .perform a, ls⟩ s := by
  constructor
  · intro hin
    exact List.mem_flatMap.mp hin
  · exact InPurge.mem_purging

/-- While a session is purged nothing is found on it, and nothing changes. -/
theorem steps_findsNothing {w : Scene} {a : Action} {x : Reply} {ls : List Level}
    (hf : FindsNothing s a x) (hc : w.registry.isClosing s = true) :
    Steps ⟨w, .perform a, ls⟩ [] ⟨w, .reply x, ls⟩ := by
  have he : w.registry.requestsOf s = ∅ := Registry.requestsOf_of_closing hc
  have hl : ∀ id, w.registry.lookup s id = none := Registry.lookup_eq_none he
  have once : ∀ m', step ⟨w, .perform a, ls⟩ = some m' → w.events a = [] →
      Steps ⟨w, .perform a, ls⟩ [] m' := by
    intro m' hs hev
    have := Steps.single hs
    rwa [show events ⟨w, .perform a, ls⟩ = w.events a from rfl, hev] at this
  cases hf with
  | outstanding =>
      refine once _ ?_ rfl
      simp only [step, Scene.answer?, Registry.outstanding, he, Table.size_emptyCollection]
  | snapshot =>
      refine once _ ?_ rfl
      simp only [step, Scene.answer?, he, Table.entries_emptyCollection, List.map_nil]
  | lookup id =>
      refine once _ ?_ rfl
      simp only [step, Scene.answer?, hl id, Option.map_none]
  | complete id =>
      refine once _ ?_ ?_
      · simp only [step, Scene.answer?, Registry.complete_eq_none (hl id)]
      · simp only [Scene.events, hl id]
  | abandon id =>
      refine once _ ?_ ?_
      · simp only [step, Scene.answer?, begin, Registry.beginAbandon_notFound (hl id)]
      · simp only [Scene.events, Registry.beginAbandon_notFound (hl id)]
  | purge =>
      have h₁ := once ⟨w, .purge s .purge, ls⟩ rfl rfl
      have h₂ : step ⟨w, .purge s .purge, ls⟩ = some ⟨w, .purged s 0 .purge, ls⟩ := by
        simp only [step, Registry.beginPurge_of_closing hc]
      have hev : events ⟨w, .purge s .purge, ls⟩ = [] := by
        simp only [events, Registry.purgeEvents, he, Table.entries_emptyCollection, List.map_nil]
      have h₃ := Steps.single h₂
      rw [hev] at h₃
      exact h₁.trans (h₃.trans (.single rfl))

end Machine

/-- A registration is refused exactly when it is made from a callback while a
purge of its session goes through its handles, and a refusal changes nothing.
Meanwhile nothing is found on the session.  Between operations no session is
closing; and what is registered after a purge is alone in its map. -/
theorem refused_exactly_during_purge {config : RegistryConfig} {allowed : Bool} {es : List Event}
    {m : Machine} (h : Reached config allowed es m) (s : SessionId) :
    (∀ id name x, m.task = .perform (.register s id name) → m.scene.handleOf? name = some x →
      (m.step = some ⟨m.scene, .reply (.refused (.sessionClosing s)), m.levels⟩ ↔ m.InPurge s) ∧
      (¬ m.InPurge s → ∃ r, m.scene.registry.register s id x = .ok r ∧
        m.step = some ⟨m.scene.withRegistry r, .reply .accepted, m.levels⟩ ∧
        r.lookup s id = some x)) ∧
    (m.InPurge s → m.scene.registry.outstanding s = 0 ∧
      ∀ a x, FindsNothing s a x → m.task = .perform a →
        Steps m [] ⟨m.scene, .reply x, m.levels⟩) ∧
    (m.step = none → m.scene.registry.isClosing s = false ∧
      ∀ id x, ∃ r, m.scene.registry.register s id x = .ok r ∧ r.lookup s id = some x) ∧
    (∀ a y, Purges s a y → m.task = .perform a → ¬ m.InPurge s → (m.scene.perform a).2 = y →
      ∀ id x, ∃ r t, (m.scene.perform a).1.registry.register s id x = .ok r ∧
        r.requests.get? s = some (.accepting t) ∧ t.entries = [(id, x)]) := by
  have hm := h.marked
  obtain ⟨w, task, ls⟩ := m
  refine ⟨?_, ?_, ?_, ?_⟩
  · intro id name x ht hg
    dsimp only at ht hg ⊢
    subst ht
    have hiff : w.registry.isClosing s = true ↔ Machine.InPurge ⟨w, .perform _, ls⟩ s :=
      (hm.closing s).trans Machine.mem_purging_perform
    rw [← hiff]
    cases hc : w.registry.isClosing s with
    | true =>
        refine ⟨⟨fun _ => rfl, ?_⟩, fun hn => absurd rfl hn⟩
        intro _
        simp only [Machine.step, Scene.answer?, hg, Registry.register_refused hc]
    | false =>
        obtain ⟨r, hr, hl⟩ := Registry.register_accepts hc id x
        have hs : Machine.step ⟨w, .perform (.register s id name), ls⟩ =
            some ⟨w.withRegistry r, .reply .accepted, ls⟩ := by
          simp only [Machine.step, Scene.answer?, hg, hr]
        refine ⟨⟨?_, ?_⟩, fun _ => ⟨r, hr, hs, hl⟩⟩
        · intro he
          rw [hs] at he
          simp at he
        · intro hf
          cases hf
  · intro hin
    have hc := (hm.closing s).mpr hin.mem_purging
    refine ⟨?_, ?_⟩
    · simp only [Registry.outstanding, Registry.requestsOf_of_closing hc,
        Table.size_emptyCollection]
    · intro a x hf ht
      dsimp only at ht
      subst ht
      exact Machine.steps_findsNothing hf hc
  · intro hs
    obtain ⟨w', x, he⟩ := Machine.step_eq_none hs
    cases he
    have hc : w.registry.isClosing s = false := by
      rw [Bool.eq_false_iff, ne_eq, hm.closing s]
      exact List.not_mem_nil
    exact ⟨hc, fun id x => Registry.register_accepts hc id x⟩
  · intro a y hp ht hn hy id x
    dsimp only at ht hy ⊢
    subst ht
    have hc : w.registry.isClosing s = false := by
      rw [Bool.eq_false_iff, ne_eq, hm.closing s, Machine.mem_purging_perform]
      exact hn
    exact Registry.register_fresh (Scene.perform_purges hp hc hy) id x

/-- A request is purged whose callback registers another one on its session,
and then panics; so far the callback is about to register. -/
def registeringInPurge : List Event × Machine :=
  Machine.play ([], ⟨.new (.new ⟨"ldap:", .direct⟩ true), .reply .nothing, []⟩)
    [(.makeHandle ⟨"late", ⟨2⟩, "search", true, none, none, none⟩ [], 1),
      (.makeHandle ⟨"first", ⟨1⟩, "search", true, none, none, some (.panics none)⟩
        [.register ⟨"s"⟩ ⟨2⟩ "late"], 1),
      (.register ⟨"s"⟩ ⟨1⟩ "first", 1), (.purge ⟨"s"⟩, 4)]

theorem refused_in_purge_callback :
    registeringInPurge.2.InPurge ⟨"s"⟩ ∧
      registeringInPurge.2.step = some ⟨registeringInPurge.2.scene,
        .reply (.refused (.sessionClosing ⟨"s"⟩)), registeringInPurge.2.levels⟩ := by
  have hin : registeringInPurge.2.InPurge ⟨"s"⟩ := by decide
  have hr : Reached ⟨"ldap:", .direct⟩ true registeringInPurge.1 registeringInPurge.2 :=
    Runs.refl.play _
  have hcall := (refused_exactly_during_purge hr ⟨"s"⟩).1 ⟨2⟩ "late" ⟨0⟩ rfl rfl
  exact ⟨hin, hcall.1.mpr hin⟩

end DirectorySessions
