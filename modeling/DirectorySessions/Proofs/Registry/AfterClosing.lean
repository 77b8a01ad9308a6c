/-
# What a close leaves

A session is torn down in three steps: its requests are purged, its context is
dropped, and its record.  Arbitrary callbacks run within the first; they may open
the session again, bind a context to it, register on it, and close it as well.
Yet the session is gone when the close returns (`closed_session_is_gone`), for
these reasons.  The map that a purge lets go of at its end is the one that kept
registrations out as long as it lasted, and nothing runs between that moment and
the end of the close.  Whatever record is there then is the one that is dropped,
whoever has made it, and its token fires as it is dropped.

Where there is nothing of a session, closing or terminating it changes nothing
(`Scene.perform_closeSession_gone`).  Nor does anything else bring it back but
opening it, registering on it or binding a context to it (`Passed.gone`).

The operation is one that no callback has begun, and its reply says that the
session was closed.  Inside a callback the statement would be false: where a
purge of the session is under way further out, the close does not wait for it,
and the map that keeps registrations out is still there when the close returns.
-/
import DirectorySessions.Proofs.Registry.CloseTokens

namespace DirectorySessions

/-- The operations that close a session, with the replies that say so. -/
inductive Closes (s : SessionId) : Action → Reply → Prop
  | close (n : Nat) : Closes s (.closeSession s) (.number n)
  | terminate : Closes s (.terminate s) (.truth true)

theorem Closes.purges {s : SessionId} {a : Action} {x : Reply} (h : Closes s a x) :
    Purges s a x := by
  cases h with
  | close n => exact .close n
  | terminate => exact .terminate

/-! ## Cancelled tokens stay cancelled -/

namespace Passed

variable {m₀ m : Machine} {ms : List Machine} {t : TokenId}

theorem cancelled (h : Passed m₀ ms m) (ht : t ∈ m₀.scene.registry.cancelled) :
    t ∈ m.scene.registry.cancelled := by
  induction h with
  | refl => exact ht
  | step h hs ih => exact (Machine.step_cancelled hs).mpr (Or.inl ih)
  | next h hs a ih => exact ih

/-- The token of every record that was dropped on the way is cancelled. -/
theorem cancelled_of_closing (h : Passed m₀ ms m) {y : Machine} (hy : y ∈ ms) {s : SessionId}
    (hc : y.closing? = some s) (ht : y.scene.registry.records.get? s = some t) :
    t ∈ m.scene.registry.cancelled := by
  obtain ⟨ms₁, ms₂, rfl⟩ := List.append_of_mem hy
  obtain ⟨y', hs, h'⟩ := h.after
  refine h'.cancelled ((Machine.step_cancelled hs).mpr (Or.inr ?_))
  exact Machine.cancelling?_eq_some.mpr (Or.inl ⟨s, Machine.ending?_of_closing hc, ht⟩)

end Passed

/-! ## Nothing is left -/

namespace Table

variable {κ α : Type} [DecidableEq κ] {k : κ}

theorem drop_eq_self {es : List (κ × α)} (h : find? k es = none) : drop k es = es := by
  induction es with
  | nil => rfl
  | cons e es ih =>
      obtain ⟨k', a⟩ := e
      by_cases hk : k' = k
      · simp only [find?, if_pos hk] at h
        cases h
      · simp only [find?, if_neg hk] at h
        rw [drop_cons, if_neg hk, ih h]

theorem erase_eq_self {t : Table κ α} (h : t.get? k = none) : t.erase k = t := by
  obtain ⟨es, hes⟩ := t
  simp only [erase, mk.injEq]
  exact drop_eq_self h

end Table

namespace Registry

variable {r : Registry} {s : SessionId}

theorem outstanding_of_absent (h : r.requests.get? s = none) : r.outstanding s = 0 := by
  rw [outstanding, requestsOf_of_absent h]
  rfl

theorem forget_eq_self (hr : r.records.get? s = none) (hc : r.contexts.get? s = none) :
    r.forget s = r := by
  have hd : r.dropContext s = r := by rw [dropContext, Table.erase_eq_self hc]
  rw [forget, hd, dropRecord, hr]

theorem forget_records (r : Registry) (s : SessionId) : (r.forget s).records.get? s = none :=
  ((forget_books r s).2 s).trans (if_pos rfl)

theorem forget_unbinds (r : Registry) (s : SessionId) : (r.forget s).contexts.get? s = none := by
  rw [forget_contexts, Table.get?_erase, if_pos rfl]

end Registry

namespace Scene

variable {w : Scene} {s : SessionId} {a : Action}

theorem purge_of_absent (h : w.registry.requests.get? s = none) : w.purge s = (w, 0) := by
  simp only [purge, Registry.beginPurge, h]

/-- A session of which nothing is left can be closed as often as one likes. -/
theorem perform_closeSession_gone (hr : w.registry.records.get? s = none)
    (hc : w.registry.contexts.get? s = none) (hq : w.registry.requests.get? s = none) :
    w.perform (.closeSession s) = (w, .number 0) := by
  rw [perform_closeSession, purge_of_absent hq, Registry.forget_eq_self hr hc]
  rfl

theorem perform_terminate_none (h : w.registry.records.get? s = none) :
    w.perform (.terminate s) = (w, .truth false) := by
  have hc : w.registry.signalClose? s = none := Option.map_eq_none_iff.mpr h
  have hs : Machine.step ⟨w, .perform (.terminate s), []⟩ =
      some ⟨w, .reply (.truth false), []⟩ := by
    simp only [Machine.step, answer?, Machine.begin, hc]
  exact Machine.perform_of_steps (.single hs)

theorem signalClose?_of_terminated (hx : (w.perform (.terminate s)).2 = .truth true) :
    ∃ r, w.registry.signalClose? s = some r := by
  cases hc : w.registry.signalClose? s with
  | some r => exact ⟨r, rfl⟩
  | none =>
      rw [perform_terminate_none (Option.map_eq_none_iff.mp hc)] at hx
      cases hx

theorem perform_closes (h : Closes s a (w.perform a).2) :
    ∃ w' : Scene, (w.perform a).1 = w'.withRegistry (w'.registry.forget s) := by
  generalize hx : (w.perform a).2 = x at h
  cases h with
  | close n => exact ⟨(w.purge s).1, by rw [perform_closeSession]⟩
  | terminate =>
      obtain ⟨r, hr⟩ := signalClose?_of_terminated hx
      exact ⟨((w.withRegistry r).purge s).1, by rw [perform_terminate hr]⟩

/-- A session that is terminated had a record, whose token has fired in the end. -/
theorem terminated_token (hx : (w.perform (.terminate s)).2 = .truth true) :
    ∃ t, w.registry.records.get? s = some t ∧
      t ∈ (w.perform (.terminate s)).1.registry.cancelled := by
  obtain ⟨r, hr⟩ := signalClose?_of_terminated hx
  obtain ⟨t, ht, rfl⟩ := Option.map_eq_some_iff.mp hr
  refine ⟨t, ht, ?_⟩
  have hs : Machine.step ⟨w, .perform (.terminate s), []⟩ =
      some ⟨w.withRegistry (w.registry.cancelToken t), .purge s .terminate, []⟩ := by
    simp only [Machine.step, answer?, Machine.begin, hr]
  have hpassed := w.passed (.terminate s)
  rw [passage, Machine.path_of_step hs, ← List.nil_append (_ :: _)] at hpassed
  obtain ⟨y, hy, h'⟩ := hpassed.after
  rw [hs] at hy
  cases hy
  exact h'.cancelled (Registry.mem_cancelled_cancelToken.mpr (Or.inl rfl))

end Scene

/-! ## What is gone stays gone -/

structure Gone (s : SessionId) (r : Registry) : Prop where
  record : r.records.get? s = none
  context : r.contexts.get? s = none
  requests : r.requests.get? s = none

namespace Machine

variable {m m' : Machine} {s : SessionId}

/-- Does the next step open the session, register on it, or bind a context to it? -/
def revives (s : SessionId) (m : Machine) : Bool :=
  match m.task with
  | .perform (.openSession s' _) | .perform (.register s' _ _) | .perform (.setContext s' _) =>
    s' = s
  | _ => false

theorem not_opens_of_not_revives (hr : m.revives s = false) : m.opens s = false := by
  simp only [opens]
  split
  · rename_i s' n ht
    simp only [revives, ht] at hr
    exact hr
  · rfl

theorem Writes.requests_absent {es : List Event} {r : Registry} (hw : m.Writes es r)
    (hn : m.scene.registry.requests.get? s = none)
    (hr : ∀ id n, m.task ≠ .perform (.register s id n)) : r.requests.get? s = none := by
  have hempty := Registry.lookup_eq_none (Registry.requestsOf_of_absent hn)
  -- a map that is written is that of another session
  have other : ∀ {s' : SessionId} (map : RequestMap), s' ≠ s →
      (m.scene.registry.requests.insert s' map).get? s = none := by
    intro s' map hne
    rw [Table.get?_insert, if_neg hne, hn]
  have found : ∀ {s' : SessionId} {id : RequestId} {h : HandleId},
      m.scene.registry.lookup s' id = some h → s' ≠ s := by
    rintro s' id h hl rfl
    rw [hempty] at hl
    cases hl
  cases hw with
  | effect ht he =>
      cases he with
      | @register s' id h r n hreg =>
          rw [Registry.register_requests hreg]
          exact other _ fun he => hr id n (he ▸ ht)
      | complete hc =>
          obtain ⟨hl, hreq⟩ := Registry.complete_eq_some hc
          rw [hreq]
          exact other _ (found hl)
      | token n t =>
          rw [Registry.cancelToken_requests]
          exact hn
      | _ => exact hn
  | takeOut ht hb =>
      obtain ⟨hl, rfl⟩ := Registry.beginAbandon_eq_taken hb
      exact other _ (found hl)
  | fire ht =>
      rw [Registry.fire_requests]
      exact hn
  | beginPurge ht hb =>
      obtain ⟨map, hmap, -, rfl⟩ := Registry.beginPurge_eq_some hb
      refine other _ ?_
      rintro rfl
      rw [hn] at hmap
      cases hmap
  | @endPurge s' n next ht =>
      show (m.scene.registry.requests.erase s').get? s = none
      rw [Table.get?_erase]
      split
      · rfl
      · exact hn
  | forget ht hnext =>
      rw [Registry.forget_requests]
      exact hn
  | signal hc =>
      obtain ⟨t, -, rfl⟩ := Option.map_eq_some_iff.mp hc
      rw [Registry.cancelToken_requests]
      exact hn
  | nothing | ask h ht | countAbandoned ht => exact hn

theorem task_of_bound {x : SharedContext} (hb : m.binding? = some (.bound s x)) :
    ∃ n, m.task = .perform (.setContext s n) := by
  simp only [binding?] at hb
  split at hb
  · rename_i s' n ht
    obtain ⟨x', -, he⟩ := Option.map_eq_some_iff.mp hb
    cases he
    exact ⟨n, ht⟩
  · cases hb
  · split at hb <;> cases hb
  · cases hb

/-- A step that does not revive a session that is gone leaves it so. -/
theorem step_gone (h : m.step = some m') (hg : Gone s m.scene.registry)
    (hr : m.revives s = false) : Gone s m'.scene.registry := by
  have hno : ∀ a, m.task = .perform a → (∀ n, a ≠ .openSession s n) ∧
      (∀ id n, a ≠ .register s id n) ∧ ∀ n, a ≠ .setContext s n := by
    intro a ha
    refine ⟨?_, ?_, ?_⟩
    · rintro n rfl
      simp [revives, ha] at hr
    · rintro id n rfl
      simp [revives, ha] at hr
    · rintro n rfl
      simp [revives, ha] at hr
  refine ⟨?_, ?_, ?_⟩
  · rcases step_records h with ⟨s', -, -, hrec, -⟩ | ⟨-, -, ⟨s', n, t, ht, hrec⟩ | hrec⟩
    · rw [hrec, hg.record, ite_self]
    · rw [hrec, Table.get?_insert, if_neg, hg.record]
      rintro rfl
      exact (hno _ ht).1 n rfl
    · rw [hrec, hg.record]
  · rw [step_contexts h]
    cases hb : m.binding? with
    | none => exact hg.context
    | some b =>
        cases b with
        | dropped s' =>
            show (m.scene.registry.contexts.erase s').get? s = none
            rw [Table.get?_erase, hg.context, ite_self]
        | bound s' x =>
            show (m.scene.registry.contexts.insert s' x).get? s = none
            rw [Table.get?_insert, if_neg, hg.context]
            rintro rfl
            obtain ⟨n, ht⟩ := task_of_bound hb
            exact (hno _ ht).2.2 n rfl
  · exact (step_writes h).requests_absent hg.requests fun id n ht => (hno _ ht).2.1 id n rfl

end Machine

/-- A session that is gone stays so unless something on the way revives it. -/
theorem Passed.gone {m₀ m : Machine} {ms : List Machine} {s : SessionId} (h : Passed m₀ ms m)
    (hg : Gone s m₀.scene.registry) (hr : ∀ x ∈ ms, x.revives s = false) :
    Gone s m.scene.registry := by
  induction h with
  | refl => exact hg
  | step h hs ih =>
      have hg' := ih fun x hx => hr x (List.mem_append_left _ hx)
      exact Machine.step_gone hs hg' (hr _ (List.mem_append_right _ List.mem_cons_self))
  | next h hs a ih => exact ih hr

theorem Runs.idle {config : RegistryConfig} {allowed : Bool} {es : List Event} {m : Machine}
    (h : Reached config allowed es m) (hs : m.step = none) : m.scene.registry.Idle := by
  have hm := h.marked
  obtain ⟨w, x, rfl⟩ := Machine.step_eq_none hs
  intro s
  rw [Bool.eq_false_iff, ne_eq, hm.closing s]
  exact List.not_mem_nil

/-- When a session was closed or terminated by an operation that no callback has
begun, it has no record, no context and no requests any more, whatever the callbacks
did that ran meanwhile; every record of the session that was dropped on the way has
its token cancelled, and so has the one that was there when the session was
terminated.  To close the session again at once changes nothing, and so does to
terminate it. -/
theorem closed_session_is_gone {config : RegistryConfig} {allowed : Bool} {es : List Event}
    {m : Machine} (h : Reached config allowed es m) (hs : m.step = none) {s : SessionId}
    {a : Action} (hc : Closes s a (m.scene.perform a).2) :
    (m.scene.perform a).1.registry.records.get? s = none ∧
    (m.scene.perform a).1.registry.contexts.get? s = none ∧
    (m.scene.perform a).1.registry.requests.get? s = none ∧
    (m.scene.perform a).1.registry.outstanding s = 0 ∧
    (∀ y ∈ m.scene.passage a, y.closing? = some s →
      ∀ t, y.scene.registry.records.get? s = some t →
        t ∈ (m.scene.perform a).1.registry.cancelled) ∧
    (a = .terminate s → ∃ t, m.scene.registry.records.get? s = some t ∧
      t ∈ (m.scene.perform a).1.registry.cancelled) ∧
    (m.scene.perform a).1.perform (.closeSession s) = ((m.scene.perform a).1, .number 0) ∧
    (m.scene.perform a).1.perform (.terminate s) = ((m.scene.perform a).1, .truth false) := by
  have hrequests := Scene.perform_purges hc.purges (h.idle hs s) rfl
  obtain ⟨w, hw⟩ := Scene.perform_closes hc
  have hrecord : (m.scene.perform a).1.registry.records.get? s = none := by
    rw [hw]
    exact Registry.forget_records w.registry s
  have hcontext : (m.scene.perform a).1.registry.contexts.get? s = none := by
    rw [hw]
    exact Registry.forget_unbinds w.registry s
  refine ⟨hrecord, hcontext, hrequests, Registry.outstanding_of_absent hrequests, ?_, ?_,
    Scene.perform_closeSession_gone hrecord hcontext hrequests,
    Scene.perform_terminate_none hrecord⟩
  · intro y hy hclose t ht
    exact (m.scene.passed a).cancelled_of_closing hy hclose ht
  · rintro rfl
    generalize hx : (m.scene.perform (.terminate s)).2 = x at hc
    cases hc
    exact Scene.terminated_token hx

/-- A session with a request whose callback binds the session, opens it again, closes
it, opens it once more, tries to register another request on it, and then panics. -/
def reopenedInCallback : List Event × Machine :=
  Machine.play ([], ⟨.new (.new ⟨"ldap:", .direct⟩ true), .reply .nothing, []⟩)
    [(.openSession ⟨"s"⟩ none, 1), (.makeContext "c" (.anonymous [] "ldap:"), 1),
      (.makeHandle ⟨"late", ⟨2⟩, "search", true, none, none, none⟩ [], 1),
      (.makeHandle ⟨"first", ⟨1⟩, "search", true, none, none, some (.panics none)⟩
        [.setContext ⟨"s"⟩ "c", .openSession ⟨"s"⟩ none, .closeSession ⟨"s"⟩,
          .openSession ⟨"s"⟩ none, .setContext ⟨"s"⟩ "c", .register ⟨"s"⟩ ⟨2⟩ "late"], 1),
      (.register ⟨"s"⟩ ⟨1⟩ "first", 1)]

/-- When the session is terminated the callback runs, and the session is gone all the
same. -/
theorem gone_though_reopened_in_callback :
    (reopenedInCallback.2.scene.perform (.terminate ⟨"s"⟩)).1.registry.records.get? ⟨"s"⟩ =
        none ∧
      (reopenedInCallback.2.scene.perform (.terminate ⟨"s"⟩)).1.registry.contexts.get? ⟨"s"⟩ =
        none ∧
      (reopenedInCallback.2.scene.perform (.terminate ⟨"s"⟩)).1.registry.requests.get? ⟨"s"⟩ =
        none ∧
      .close ⟨"s"⟩ 0 ∈
        (reopenedInCallback.2.scene.perform (.terminate ⟨"s"⟩)).1.registry.cancelled ∧
      (reopenedInCallback.2.scene.perform (.terminate ⟨"s"⟩)).1.perform (.closeSession ⟨"s"⟩) =
        ((reopenedInCallback.2.scene.perform (.terminate ⟨"s"⟩)).1, .number 0) := by
  have h : Reached ⟨"ldap:", .direct⟩ true reopenedInCallback.1 reopenedInCallback.2 :=
    Runs.refl.play _
  have hterminated : Closes ⟨"s"⟩ (.terminate ⟨"s"⟩)
      (reopenedInCallback.2.scene.perform (.terminate ⟨"s"⟩)).2 := by
    rw [Scene.perform_terminate (r := reopenedInCallback.2.scene.registry.cancelToken
      (.close ⟨"s"⟩ 0)) rfl]
    exact .terminate
  obtain ⟨hrecord, hcontext, hrequests, -, -, htoken, hclose, -⟩ :=
    closed_session_is_gone h rfl hterminated
  obtain ⟨t, ht, hcancelled⟩ := htoken rfl
  cases ht
  exact ⟨hrecord, hcontext, hrequests, hcancelled, hclose⟩

end DirectorySessions
