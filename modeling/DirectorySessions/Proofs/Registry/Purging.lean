/-
# A purge reaches every handle

A purge takes all outstanding requests of its session out of the table at once and
then cancels their handles one after the other.  In between callbacks run, which may
do anything and end in any way; the handles that are left still get their turn.  So
when the purge returns, each of them has fired, its token is cancelled and its
callback, if it has one, has been called once and for all (`CancelledOnce`); it may
have been called before, or by something that a callback did.

What a purge counts is what it finds unfired.  If callbacks keep their hands off
requests and handles (`Machine.intrudes`), these are the outstanding handles that had
not fired, each counted once even if it was registered under several numbers; and
the requests of other sessions stay as they are (`Scene.purge_counts`).  All of this
together is `purge_reaches_every_handle`.

The handles go through `CancelledOnce` one by one, and the induction is on those that
are left.  A handle that was registered under several numbers comes up several times,
and fires the first time.
-/
import DirectorySessions.Proofs.Registry.Accounting
import DirectorySessions.Proofs.Registry.AfterClosing
import DirectorySessions.Proofs.Registry.Calls
import Mathlib.Data.Finset.Dedup
import Mathlib.Data.Finset.Card

namespace DirectorySessions

/-! ## Fired handles have their tokens cancelled -/

/-- Every handle that has fired has its token cancelled. -/
def Registry.Follows (r : Registry) : Prop :=
  ∀ h y, r.handle? h = some y → y.fired = true → y.token ∈ r.cancelled

namespace Registry

variable {r r' : Registry} {h x : HandleId} {y : Handle}

theorem Follows.of_handles (hr : r.Follows) (hh : r'.handles = r.handles)
    (hc : ∀ t ∈ r.cancelled, t ∈ r'.cancelled) : r'.Follows := by
  intro h y hy hf
  rw [handle?_congr hh] at hy
  exact hc _ (hr h y hy hf)

theorem Follows.of_append (hr : r.Follows) (hf : y.fired = false)
    (hh : r'.handles = r.handles ++ [y]) (hc : ∀ t ∈ r.cancelled, t ∈ r'.cancelled) :
    r'.Follows := by
  intro h z hz hfired
  simp only [handle?] at hz
  rw [hh, List.getElem?_append] at hz
  split at hz
  · exact hc _ (hr h z hz hfired)
  · rw [List.mem_singleton.mp (List.mem_of_getElem? hz), hf] at hfired
    cases hfired

theorem Follows.fire (hr : r.Follows) (h : HandleId) : (r.fire h).Follows := by
  intro x y hy hf
  rw [mem_cancelled_fire]
  rw [handle?_fire] at hy
  split at hy
  · rename_i he
    subst he
    obtain ⟨z, hz, rfl⟩ := Option.map_eq_some_iff.mp hy
    cases hfired : z.fired with
    | true => exact Or.inl (hr h z hz hfired)
    | false => exact Or.inr (by simp [armed?, hz, hfired])
  · exact Or.inl (hr x y hy hf)

end Registry

theorem Machine.step_follows {m m' : Machine} (hs : m.step = some m')
    (hm : m.scene.registry.Follows) : m'.scene.registry.Follows := by
  have hc : ∀ t ∈ m.scene.registry.cancelled, t ∈ m'.scene.registry.cancelled :=
    fun t ht => (Machine.step_cancelled hs).mpr (Or.inl ht)
  rcases (Machine.step_transition hs).handles_cases with ⟨hh, -⟩ | ⟨y, hf, hh, -⟩ | ⟨y, -, hr, -⟩
  · exact hm.of_handles hh hc
  · exact hm.of_append hf hh hc
  · rw [hr]
    exact hm.fire y

namespace Runs

variable {config : RegistryConfig} {allowed : Bool} {m₀ m m' : Machine} {es es' : List Event}

theorem follows (h : Reached config allowed es m) : m.scene.registry.Follows := by
  induction h with
  | refl =>
      intro x y hy
      cases hy
  | step h hs ih => exact Machine.step_follows hs ih
  | next h hs a ih => exact ih

end Runs

/-! ## Cancelled once and for all -/

/-- In a state that was reached with these events, the handle has fired and its token is
cancelled.  Its callback, if it has one, has been called, once in all that has happened
and will happen, and where it was called it was carried out. -/
structure CancelledOnce (config : RegistryConfig) (allowed : Bool) (es : List Event) (m : Machine)
    (x : HandleId) : Prop where
  fired : ∃ y, m.scene.registry.handle? x = some y ∧ y.fired = true ∧
    y.token ∈ m.scene.registry.cancelled
  once : ∀ es' m', Runs m es' m' → ∀ y, m'.scene.registry.handle? x = some y →
    (es ++ es').count (.called x) = if y.callback.isSome = true then 1 else 0
  carriedOut : ∀ y, m.scene.registry.handle? x = some y → y.callback.isSome = true →
    ∃ es₁ m₁ es₂, Reached config allowed es₁ m₁ ∧ .called x ∈ m₁.events ∧ Runs m₁ es₂ m ∧
      es = es₁ ++ es₂ ∧ m₁.CallsBack x y

/-- A handle that has fired is done with. -/
theorem CancelledOnce.of_hasFired {config : RegistryConfig} {allowed : Bool} {es : List Event}
    {m : Machine} {x : HandleId} (h : Reached config allowed es m)
    (hf : m.scene.registry.HasFired x) : CancelledOnce config allowed es m x := by
  obtain ⟨y, hy, hfired⟩ := hf
  have hcancelled := (h.recorded.fired hy).mp hfired
  have honce : ∀ es' m', Runs m es' m' → ∀ y, m'.scene.registry.handle? x = some y →
      (es ++ es').count (.called x) = if y.callback.isSome = true then 1 else 0 := by
    intro es' m' h' y' hy'
    have hall := (h.trans h').recorded
    rw [hall.called hy', (hall.fired hy').mpr (List.mem_append_left _ hcancelled)]
    simp only [true_and]
  refine ⟨⟨y, hy, hfired, h.follows x y hy hfired⟩, honce, ?_⟩
  intro y' hy' hcallback
  have hcount := honce [] m .refl y' hy'
  rw [List.append_nil, if_pos hcallback] at hcount
  have hin : .called x ∈ es := List.count_pos_iff.mp (by omega)
  obtain ⟨es₁, m₁, es₂, h₁, hin₁, h₂, rfl⟩ := h.mem_split hin
  exact ⟨es₁, m₁, es₂, h₁, hin₁, h₂, rfl, h₂.callsBack hy' hin₁⟩

/-! ## What a purge counts -/

namespace Registry

variable {r r' r'' : Registry} {h x : HandleId}

/-- A registry with the same requests, and with the handles of the other and perhaps
more. -/
structure Enlarges (r r' : Registry) : Prop where
  requests : r'.requests = r.requests
  handles : r.handles <+: r'.handles

theorem Enlarges.refl (r : Registry) : r.Enlarges r := ⟨rfl, List.prefix_rfl⟩

theorem Enlarges.trans (h : r.Enlarges r') (h' : r'.Enlarges r'') : r.Enlarges r'' :=
  ⟨h'.requests.trans h.requests, h.handles.trans h'.handles⟩

theorem Enlarges.of_eq (hr : r'.requests = r.requests) (hh : r'.handles = r.handles) :
    r.Enlarges r' :=
  ⟨hr, hh ▸ List.prefix_rfl⟩

theorem Enlarges.handle? (h : r.Enlarges r') (hk : r.Knows x) : r'.handle? x = r.handle? x := by
  obtain ⟨ys, hys⟩ := h.handles
  simp only [Registry.handle?, ← hys]
  exact List.getElem?_append_left hk

theorem Enlarges.armed? (h : r.Enlarges r') (hk : r.Knows x) : r'.armed? x = r.armed? x := by
  simp only [Registry.armed?, h.handle? hk]

theorem Enlarges.knows (h : r.Enlarges r') (hk : r.Knows x) : r'.Knows x :=
  Nat.lt_of_lt_of_le hk h.handles.length_le

theorem armed?_fire (r : Registry) (h x : HandleId) :
    (r.fire h).armed? x = if h = x then none else r.armed? x := by
  simp only [armed?, handle?_fire]
  split
  · cases r.handle? x <;> rfl
  · rfl

/-- Of the handles that have not fired, one more to go through is itself one or none, and
adds the others to it. -/
theorem card_armed_insert (r : Registry) (h : HandleId) (hs : Finset HandleId) :
    ((insert h hs).filter fun x => (r.armed? x).isSome).card =
      (if (r.armed? h).isSome = true then 1 else 0) +
        (hs.filter fun x => h ≠ x ∧ (r.armed? x).isSome).card := by
  split
  next ha =>
      have hsplit : (insert h hs).filter (fun x => (r.armed? x).isSome) =
          insert h (hs.filter fun x => h ≠ x ∧ (r.armed? x).isSome) := by
        ext x
        by_cases he : x = h
        · simp [he, ha]
        · simp [he, Ne.symm he]
      rw [hsplit, Finset.card_insert_of_notMem (by simp), Nat.add_comm]
  next ha =>
      have hsplit : (insert h hs).filter (fun x => (r.armed? x).isSome) =
          hs.filter fun x => h ≠ x ∧ (r.armed? x).isSome := by
        ext x
        by_cases he : x = h
        · simp [he, ha]
        · simp [he, Ne.symm he]
      rw [hsplit, Nat.zero_add]

end Registry

/-- Does the action touch requests, or cancel a handle that has not fired? -/
def Action.intrudes (w : Scene) : Action → Bool
  | .register .. | .complete .. | .abandon .. | .purge _ | .closeSession _ | .terminate _
  | .shutdown => true
  | .cancel name => ((w.handleOf? name).bind w.registry.armed?).isSome
  | _ => false

/-- Is the next step a callback's, and does it touch requests or cancel a handle that has
not fired? -/
def Machine.intrudes (m : Machine) : Bool :=
  match m.levels, m.task with
  | _ :: _, .perform a => a.intrudes m.scene
  | _, _ => false

namespace Scene

variable {w w' : Scene} {a : Action} {h : HandleId}

theorem cancelHandle_unarmed (ha : w.registry.armed? h = none) :
    w.cancelHandle h = (w, .already) := by
  simp only [cancelHandle]
  cases hx : w.registry.handle? h with
  | none => rfl
  | some x =>
      cases hf : x.fired with
      | true => simp only [hf, if_true]
      | false => simp [Registry.armed?, hx, hf] at ha

/-- What is carried out at once leaves requests and handles as they are, unless it touches
requests. -/
theorem answer?_enlarges {x : Reply} (h : w.answer? a = some (w', x))
    (ha : a.intrudes w = false) : w.registry.Enlarges w'.registry := by
  have he := answer?_effect h
  generalize w.events a = es at he
  generalize w'.registry = r at he ⊢
  cases he with
  | handle spec script y hf => exact ⟨rfl, List.prefix_append _ _⟩
  | token name t =>
      obtain ⟨hr, hh⟩ := Registry.cancelToken_alike w.registry t
      exact .of_eq hr hh
  | register name hr => cases ha
  | complete hc => cases ha
  | _ => exact .of_eq rfl rfl

theorem perform_enlarges (ha : a.intrudes w = false) :
    w.registry.Enlarges (w.perform a).1.registry := by
  cases hans : w.answer? a with
  | some y =>
      have hs : Machine.step ⟨w, .perform a, []⟩ = some ⟨y.1, .reply y.2, []⟩ := by
        simp only [Machine.step, hans]
      rw [Machine.perform_of_steps (.single hs)]
      exact answer?_enlarges hans ha
  | none =>
      cases a with
      | cancel name =>
          cases hg : w.handleOf? name with
          | none =>
              have hs : Machine.step ⟨w, .perform (.cancel name), []⟩ =
                  some ⟨w, .reply .nothing, []⟩ := by
                simp only [Machine.step, answer?, Machine.begin, hg]
              rw [Machine.perform_of_steps (.single hs)]
              exact .refl _
          | some h =>
              simp only [Action.intrudes, hg, Option.bind_some, Option.isSome_eq_false_iff,
                Option.isNone_iff_eq_none] at ha
              rw [perform_cancel hg, cancelHandle_unarmed ha]
              exact .refl _
      | abandon _ _ | purge _ | closeSession _ | terminate _ | shutdown => cases ha
      | register _ _ _ | complete _ _ => cases ha
      | getContext _ _ _ _ | getRootContext _ _ _ | setContext _ _ | authorizeBind _ _ =>
          simp only [answer?] at hans
          grind
      | _ => cases hans

end Scene

namespace Machine

variable {w : Scene} {h : HandleId} {s : SessionId}

theorem mem_path_self {t : Task} (ht : ∀ x, t ≠ .reply x) (w : Scene) (ls : List Level) :
    (⟨w, t, ls⟩ : Machine) ∈ path ⟨w, t, ls⟩ := by
  cases hn : step ⟨w, t, ls⟩ with
  | some m' => exact mem_path hn
  | none =>
      obtain ⟨w', x, he⟩ := step_eq_none hn
      cases he
      exact absurd rfl (ht x)

theorem performAll_enlarges (w : Scene) (l : Level) (ls : List Level)
    (hcalm : ∀ y ∈ (proceed w l ls).path, y.intrudes = false) :
    w.registry.Enlarges (w.performAll l.pending l.replies).1.registry := by
  obtain ⟨why, c, id, fired, pending, replies⟩ := l
  induction pending generalizing w replies with
  | nil => exact .refl _
  | cons a as ih =>
      -- the first action is carried out, and the callback goes on with the others
      have hbegins : ∀ y ∈ path ⟨w, .perform a, ⟨why, c, id, fired, as, replies⟩ :: ls⟩,
          y.intrudes = false := hcalm
      obtain ⟨es, t⟩ := steps_perform w a (⟨why, c, id, fired, as, replies⟩ :: ls)
      obtain ⟨ms, hms⟩ := path_of_steps t
      have hfirst : a.intrudes w = false :=
        hbegins _ (mem_path_self (fun x he => by cases he) w _)
      have hrest : path ⟨(w.perform a).1, .reply (w.perform a).2,
          ⟨why, c, id, fired, as, replies⟩ :: ls⟩ = _ :: path (proceed (w.perform a).1
            ⟨why, c, id, fired, as, (w.perform a).2 :: replies⟩ ls) := path_of_step rfl
      refine (Scene.perform_enlarges hfirst).trans (ih (w.perform a).1 _ ?_)
      intro y hy
      refine hbegins y ?_
      rw [hms, hrest]
      exact List.mem_append_right _ (List.mem_cons_of_mem _ hy)

/-- A handle whose callback does not intrude fires, and nothing else happens to requests
and handles; it is counted if it had not fired. -/
theorem cancelHandle_enlarges (why : Purpose) (ls : List Level)
    (hcalm : ∀ y ∈ path ⟨w, .cancel h why, ls⟩, y.intrudes = false) :
    (w.registry.fire h).Enlarges (w.cancelHandle h).1.registry ∧
      (w.cancelHandle h).2.counts = (w.registry.armed? h).isSome := by
  have hs : step ⟨w, .cancel h why, ls⟩ = some (Machine.cancelHandle w h why ls) := rfl
  rw [path_of_step hs] at hcalm
  cases hx : w.registry.handle? h with
  | none =>
      simp only [Scene.cancelHandle, Registry.fire, Registry.armed?, hx]
      exact ⟨.refl _, rfl⟩
  | some x =>
      cases hf : x.fired with
      | true =>
          simp only [Scene.cancelHandle, Registry.fire, Registry.armed?, hx, hf, if_true]
          exact ⟨.refl _, by simp [CancelResult.counts, hf]⟩
      | false =>
          have harmed : (w.registry.armed? h).isSome = true := by simp [Registry.armed?, hx, hf]
          rw [harmed]
          cases hc : x.callback with
          | none =>
              simp only [Scene.cancelHandle, hx, hf, Bool.false_eq_true, if_false, hc]
              exact ⟨.refl _, rfl⟩
          | some c =>
              simp only [Machine.cancelHandle, hx, hf, Bool.false_eq_true, if_false, hc] at hcalm
              simp only [Scene.cancelHandle, hx, hf, Bool.false_eq_true, if_false, hc]
              exact ⟨performAll_enlarges (w.withRegistry (w.registry.fire h)) _ ls
                fun y hy => hcalm y (List.mem_cons_of_mem _ hy), counts_result c.ending⟩

/-- Where callbacks do not intrude, a purge counts the different handles among those that
it goes through which had not fired when it came to the first. -/
theorem cancelAll_counts {hs : List HandleId} (n : Nat) (next : Teardown) (ls : List Level)
    (hk : ∀ x ∈ hs, w.registry.Knows x)
    (hcalm : ∀ y ∈ path ⟨w, .purging s hs n next, ls⟩, y.intrudes = false) :
    (w.cancelAll hs n).1.registry.requests = w.registry.requests ∧
      (w.cancelAll hs n).2 =
        n + (hs.toFinset.filter fun x => (w.registry.armed? x).isSome).card := by
  induction hs generalizing w n with
  | nil => exact ⟨rfl, rfl⟩
  | cons h hs ih =>
      -- the first handle is cancelled, and the purge goes on with the others
      have hs₁ : step ⟨w, .purging s (h :: hs) n next, ls⟩ =
          some ⟨w, .cancel h (.purge s hs n next), ls⟩ := rfl
      rw [path_of_step hs₁] at hcalm
      have hcancel := fun y hy => hcalm y (List.mem_cons_of_mem _ hy)
      obtain ⟨hgrows, hcounts⟩ := cancelHandle_enlarges _ ls hcancel
      obtain ⟨es, t⟩ := steps_cancel w h (.purge s hs n next) ls
      obtain ⟨ms, hms⟩ := path_of_steps t
      have hs₂ : step ⟨(w.cancelHandle h).1, .cancelled (w.cancelHandle h).2
          (.purge s hs n next), ls⟩ = some ⟨(w.cancelHandle h).1, .purging s hs
            (if (w.cancelHandle h).2.counts then n + 1 else n) next, ls⟩ := rfl
      have hk' : ∀ x ∈ hs, (w.registry.fire h).Knows x := fun x hx =>
        (Registry.knows_fire _ _ _).mpr (hk x (List.mem_cons_of_mem _ hx))
      obtain ⟨hrequests, hcount⟩ := ih (w := (w.cancelHandle h).1)
        (if (w.cancelHandle h).2.counts then n + 1 else n)
        (fun x hx => hgrows.knows (hk' x hx)) (by
          intro y hy
          refine hcancel y ?_
          rw [hms, path_of_step hs₂]
          exact List.mem_append_right _ (List.mem_cons_of_mem _ hy))
      refine ⟨hrequests.trans (hgrows.requests.trans (Registry.fire_requests _ _)), ?_⟩
      have harmed : hs.toFinset.filter
          (fun x => ((w.cancelHandle h).1.registry.armed? x).isSome) =
            hs.toFinset.filter fun x => h ≠ x ∧ (w.registry.armed? x).isSome := by
        refine Finset.filter_congr ?_
        intro x hx
        rw [hgrows.armed? (hk' x (List.mem_toFinset.mp hx)), Registry.armed?_fire]
        by_cases he : h = x <;> simp [he]
      show (Scene.cancelAll _ hs _).2 = _
      rw [hcount, harmed, hcounts, List.toFinset_cons, Registry.card_armed_insert]
      split <;> omega

end Machine

namespace Scene

variable {w : Scene} {s : SessionId} {id : RequestId} {x : HandleId}

/-- A purge ends all registrations that are outstanding on the session. -/
theorem ended_of_lookup (hl : w.registry.lookup s id = some x) :
    .ended s id x .purged ∈ w.story (.purge s) := by
  have hs : Machine.step ⟨w, .perform (.purge s), []⟩ = some ⟨w, .purge s .purge, []⟩ := rfl
  have hbegins : ⟨w, .purge s .purge, []⟩ ∈ w.passage (.purge s) := by
    rw [passage, Machine.path_of_step hs]
    exact List.mem_cons_of_mem _ (Machine.mem_path_self (fun x he => by cases he) w [])
  refine List.mem_flatMap.mpr ⟨_, hbegins, ?_⟩
  exact List.mem_map.mpr ⟨(id, x), Table.mem_of_get? hl, rfl⟩

/-- If no callback touches requests or cancels a handle that has not fired, a purge counts
the different handles that are outstanding on the session and have not fired, and leaves
the requests of other sessions as they are. -/
theorem purge_counts (hk : ∀ id x, w.registry.lookup s id = some x → w.registry.Knows x)
    (hcalm : ∀ y ∈ w.passage (.purge s), y.intrudes = false) :
    (w.purge s).2 = ((w.registry.requestsOf s).values.toFinset.filter fun x =>
        (w.registry.armed? x).isSome).card ∧
      ∀ s', s' ≠ s → (w.purge s).1.registry.requests.get? s' = w.registry.requests.get? s' := by
  cases hb : w.registry.beginPurge s with
  | none =>
      simp only [purge, hb, Registry.beginPurge_eq_none hb]
      exact ⟨rfl, fun _ _ => trivial⟩
  | some y =>
      obtain ⟨hs, r⟩ := y
      have hvalues := Registry.beginPurge_values hb
      obtain ⟨map, -, -, hr⟩ := Registry.beginPurge_eq_some hb
      -- the handles are gone through with the session marked as closing
      have hs₁ : Machine.step ⟨w, .perform (.purge s), []⟩ = some ⟨w, .purge s .purge, []⟩ := rfl
      have hs₂ : Machine.step ⟨w, .purge s .purge, []⟩ =
          some ⟨w.withRegistry r, .purging s hs 0 .purge, []⟩ := by
        simp only [Machine.step, hb]
      rw [passage, Machine.path_of_step hs₁, Machine.path_of_step hs₂] at hcalm
      have hk' : ∀ x ∈ hs, (w.withRegistry r).registry.Knows x := by
        intro x hx
        rw [hvalues] at hx
        obtain ⟨⟨id, y⟩, hy, rfl⟩ := List.mem_map.mp hx
        have hknows := hk id y (Table.get?_of_mem hy)
        rw [hr]
        exact hknows
      obtain ⟨hrequests, hcount⟩ := Machine.cancelAll_counts 0 .purge [] hk' fun y hy =>
        hcalm y (List.mem_cons_of_mem _ (List.mem_cons_of_mem _ hy))
      have harmed : ∀ x, (w.withRegistry r).registry.armed? x = w.registry.armed? x := by
        intro x
        rw [hr]
        rfl
      constructor
      · rw [← hvalues]
        simp only [purge, hb, hcount, harmed, Nat.zero_add]
      · intro s' hne
        calc (w.purge s).1.registry.requests.get? s'
            = ((w.withRegistry r).cancelAll hs 0).1.registry.requests.get? s' := by
              simp only [purge, hb]
              exact (Registry.requests_endPurge _ _ _ _).trans (if_neg hne.symm)
          _ = (w.registry.requests.insert s .closing).get? s' := by
              rw [hrequests, hr]
              rfl
          _ = w.registry.requests.get? s' := by rw [Table.get?_insert, if_neg hne.symm]

end Scene

/-- Whenever a session is purged, the purge returns with a number.  Then every handle that
was outstanding on the session has fired, its token is cancelled, and its callback has
been called once and for all, however other callbacks ended and whatever they did.
Unless the purge was called from within another one of the session, the session has no
map of requests any more.  If no callback touched requests or cancelled a handle that had
not fired, the number is that of the different handles that were outstanding and had not
fired, and the requests of all other sessions are as they were. -/
theorem purge_reaches_every_handle {config : RegistryConfig} {allowed : Bool} {es : List Event}
    {m : Machine} (h : Reached config allowed es m) {s : SessionId}
    (ht : m.task = .perform (.purge s)) :
    ∃ es' m' n, Steps m es' m' ∧
      m' = ⟨(m.scene.perform (.purge s)).1, .reply (.number n), m.levels⟩ ∧
      (∀ id x, m.scene.registry.lookup s id = some x →
        CancelledOnce config allowed (es ++ es') m' x) ∧
      (¬ m.InPurge s → m'.scene.registry.requests.get? s = none) ∧
      ((∀ y ∈ m.scene.passage (.purge s), y.intrudes = false) →
        n = ((m.scene.registry.requestsOf s).values.toFinset.filter fun x =>
          (m.scene.registry.armed? x).isSome).card ∧
        ∀ s', s' ≠ s →
          m'.scene.registry.requests.get? s' = m.scene.registry.requests.get? s') := by
  have hmarked := h.marked
  have hgrounded := h.grounded
  obtain ⟨w, t, ls⟩ := m
  dsimp only at ht ⊢
  subst ht
  obtain ⟨es', hsteps⟩ := Machine.steps_perform w (.purge s) ls
  have hreturns := Scene.perform_purge w s
  rw [hreturns] at hsteps
  refine ⟨es', _, _, hsteps, by rw [hreturns], ?_, ?_, ?_⟩
  · intro id x hl
    have hfired := Scene.hasFired_of_detached (hgrounded.seated hl) (Scene.ended_of_lookup hl) rfl
    rw [hreturns] at hfired
    exact .of_hasFired (h.steps hsteps) hfired
  · intro hn
    refine Scene.purge_absent ?_
    rw [Bool.eq_false_iff, ne_eq, hmarked.closing s, Machine.mem_purging_perform]
    exact hn
  · intro hcalm
    exact Scene.purge_counts (fun id x hl => hgrounded.seated hl) hcalm

/-- A session on which one handle stands under two numbers and three others under one
each: the callback of the first fails, that of the second cancels the first and panics,
the third has been cancelled, the fourth has no callback.  Another session has a request
with the fourth, too, and the first session is about to be purged. -/
def failingAndPanicking : List Event × Machine :=
  Machine.play ([], ⟨.new (.new ⟨"ldap:", .direct⟩ true), .reply .nothing, []⟩)
    [(.makeHandle ⟨"failing", ⟨1⟩, "search", true, none, none, some (.fails "why")⟩ [], 1),
      (.makeHandle ⟨"panicking", ⟨2⟩, "modify", true, none, none, some (.panics none)⟩
        [.cancel "failing", .outstanding ⟨"s"⟩], 1),
      (.makeHandle ⟨"cancelled", ⟨3⟩, "search", false, none, none, some .returns⟩ [], 1),
      (.makeHandle ⟨"silent", ⟨4⟩, "add", true, none, none, none⟩ [], 1),
      (.register ⟨"s"⟩ ⟨1⟩ "failing", 1), (.register ⟨"s"⟩ ⟨7⟩ "failing", 1),
      (.register ⟨"s"⟩ ⟨2⟩ "panicking", 1), (.register ⟨"s"⟩ ⟨3⟩ "cancelled", 1),
      (.register ⟨"s"⟩ ⟨4⟩ "silent", 1), (.register ⟨"t"⟩ ⟨1⟩ "silent", 1),
      (.cancel "cancelled", 3), (.purge ⟨"s"⟩, 0)]

/-- Three handles are counted, of five registrations; the callback that panics has been
called, and the other session keeps its request. -/
theorem three_of_five_counted :
    ∃ es m, Steps failingAndPanicking.2 es m ∧ m.task = .reply (.number 3) ∧
      CancelledOnce ⟨"ldap:", .direct⟩ true (failingAndPanicking.1 ++ es) m ⟨1⟩ ∧
      m.scene.registry.requests.get? ⟨"s"⟩ = none ∧
      m.scene.registry.lookup ⟨"t"⟩ ⟨1⟩ = some ⟨3⟩ := by
  have h : Reached ⟨"ldap:", .direct⟩ true failingAndPanicking.1 failingAndPanicking.2 :=
    Runs.refl.play _
  have hcalm : ∀ y ∈ failingAndPanicking.2.scene.passage (.purge ⟨"s"⟩), y.intrudes = false := by
    rw [Scene.passage, Machine.path_of_walk (n := 40) rfl]
    decide
  obtain ⟨es, m, n, hsteps, hm, hcancelled, hgone, hcount⟩ :=
    purge_reaches_every_handle h (s := ⟨"s"⟩) rfl
  obtain ⟨hn, hothers⟩ := hcount hcalm
  have hthree : n = 3 := hn
  refine ⟨es, m, hsteps, ?_, hcancelled ⟨2⟩ ⟨1⟩ rfl, hgone ?_, ?_⟩
  · rw [hm, hthree]
  · decide
  · simp only [Registry.lookup, Registry.requestsOf, hothers ⟨"t"⟩ (by decide)]
    rfl

end DirectorySessions
