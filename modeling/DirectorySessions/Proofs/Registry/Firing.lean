/-
# A handle fires once

One handle can be reached in many ways: under several numbers and sessions, by its
name, and from callbacks, its own included, which run in the middle of its being
cancelled.  Whoever cancels it first sets the guard, and the guard is set before
anything else happens; so whoever comes later finds it set, is told that there was
nothing left to do, and changes nothing.  A callback that fails or panics does not
unset it.

Here this is said of whole runs (`guard_lets_callback_run_once`).  The callback's
calls are counted by the guard, and between operations the one call has been carried
out to its end (`CalledBack`).

Nothing is assumed: the handle may be shared, registered, cancelled outright and
named in its own callback.  What a cancellation answers is a function of the handle
as it is found (`Handle.firing`), so the answers tell the one that fired it from all
others.
-/
import DirectorySessions.Proofs.Registry.Purging

namespace DirectorySessions

/-- Somewhere in a run to this state the handle was cancelled; from there the callback was
carried out to its end, on a registry in which the handle had fired, and with the word that
its token is cancelled.  Whoever cancelled the handle went on with the callback's ending. -/
def CalledBack (config : RegistryConfig) (allowed : Bool) (es : List Event) (m : Machine)
    (x : HandleId) (y : Handle) (c : Callback) : Prop :=
  ∃ es₁ m₁ why es₂ m₂ es₃, Reached config allowed es₁ m₁ ∧ m₁.task = .cancel x why ∧
    m₂ = ⟨(m₁.scene.withRegistry (m₁.scene.registry.fire x)).callBack c y.requestId true,
      .cancelled c.ending.result why, m₁.levels⟩ ∧
    Steps m₁ es₂ m₂ ∧ Runs m₂ es₃ m ∧ es = es₁ ++ es₂ ++ es₃

/-! ## The guard -/

namespace Registry

variable {r : Registry} {x : HandleId} {y : Handle}

theorem Follows.isCancelled_fire (hr : r.Follows) (hy : r.handle? x = some y) :
    (r.fire x).isCancelled y.token = true := by
  have hfired : (r.fire x).handle? x = some { y with fired := true } := by
    rw [handle?_fire, if_pos rfl, hy]
    rfl
  have hin := hr.fire x x _ hfired rfl
  exact decide_eq_true hin

end Registry

/-- The guard is set as soon as the callback is called. -/
theorem Machine.hasFired_of_called {m m' : Machine} {x : HandleId} (hin : .called x ∈ m.events)
    (hs : m.step = some m') : m'.scene.registry.HasFired x := by
  obtain ⟨y, hy, why, c, es, ht, -⟩ := callsBack_of_called hin
  refine (step_transition hs).hasFired_of_cancelled (Registry.knows_iff.mpr ⟨y, hy⟩) ?_
  simp only [events, ht, Registry.cancelEvents]
  exact List.mem_cons_self

namespace Runs

variable {config : RegistryConfig} {allowed : Bool} {m₀ m m' : Machine} {es es' : List Event}
  {x : HandleId} {y : Handle} {c : Callback}

theorem hasFired (h : Runs m₀ es m) (hf : m₀.scene.registry.HasFired x) :
    m.scene.registry.HasFired x := by
  induction h with
  | refl => exact hf
  | step h hs ih => exact (Machine.step_transition hs).hasFired ih
  | next h hs a ih => exact ih

/-- The token goes with the guard, whatever becomes of the handle meanwhile. -/
theorem token_cancelled (h : Reached config allowed es m) (h' : Runs m es' m')
    (hy : m.scene.registry.handle? x = some y) (hf : m'.scene.registry.HasFired x) :
    y.token ∈ m'.scene.registry.cancelled := by
  obtain ⟨y', hy', hfired⟩ := hf
  obtain ⟨f, hkept⟩ := h'.kept x y hy
  rw [hy'] at hkept
  cases hkept
  have hin := (h.trans h').follows x _ hy' hfired
  exact hin

/-- Between operations a call has come to its end: the steps of the callback are
determined, and a run that has none left is past them. -/
theorem calledBack (h : Reached config allowed es m) (hs : m.step = none)
    (hy : m.scene.registry.handle? x = some y) (hc : y.callback = some c)
    (hin : .called x ∈ es) : CalledBack config allowed es m x y c := by
  obtain ⟨es₁, m₁, es₂, h₁, hin₁, h₂, rfl⟩ := h.mem_split hin
  obtain ⟨why, c', es', ht, hc', t⟩ := h₂.callsBack hy hin₁
  rw [hc] at hc'
  cases hc'
  -- the callback is told that its token is cancelled
  obtain ⟨z, hz, -⟩ := Machine.callsBack_of_called hin₁
  obtain ⟨f, hkept⟩ := h₂.kept x z hz
  rw [hy] at hkept
  cases hkept
  rw [show (m₁.scene.registry.fire x).isCancelled z.token = true from
    h₁.follows.isCancelled_fire hz] at t
  rcases h₂.through t with ⟨es₃, h₃, rfl⟩ | ⟨es₃, t₃, -⟩
  · exact ⟨es₁, m₁, why, es', _, es₃, h₁, ht, rfl, t, h₃, (List.append_assoc _ _ _).symm⟩
  · generalize hm₃ : (⟨_, .cancelled c.ending.result why, m₁.levels⟩ : Machine) = m₃ at t₃
    cases t₃ with
    | refl =>
        subst hm₃
        cases hs
    | head hs' t₃ =>
        rw [hs] at hs'
        cases hs'

end Runs

/-! ## What a cancellation answers -/

theorem CallbackEnding.result_ne_already (e : CallbackEnding) : e.result ≠ .already := by
  cases e <;> exact fun he => by cases he

/-- What the cancellation that fires the handle answers. -/
def Handle.firing (y : Handle) : CancelResult :=
  match y.callback with
  | some c => c.ending.result
  | none => .fired

theorem Handle.firing_ne_already (y : Handle) : y.firing ≠ .already := by
  simp only [Handle.firing]
  cases y.callback with
  | none => exact fun he => by cases he
  | some c => exact c.ending.result_ne_already

namespace Scene

variable {w : Scene} {x : HandleId} {y : Handle}

theorem cancelHandle_of_fired (hy : w.registry.handle? x = some y) (hf : y.fired = true) :
    w.cancelHandle x = (w, .already) := by
  simp only [cancelHandle, hy, hf, if_true]

theorem cancelHandle_of_unfired (hy : w.registry.handle? x = some y) (hf : y.fired = false) :
    (w.cancelHandle x).2 = y.firing := by
  simp only [cancelHandle, Handle.firing, hy, hf, Bool.false_eq_true, if_false]
  cases y.callback <;> rfl

end Scene

/-- Cancelling a handle answers that there was nothing left to do exactly when the handle
has fired, and then there is nothing that it does. -/
theorem Machine.cancel_answers {m : Machine} {x : HandleId} {y : Handle} {why : Purpose}
    (hy : m.scene.registry.handle? x = some y) (ht : m.task = .cancel x why) :
    ∃ es w r, Steps m es ⟨w, .cancelled r why, m.levels⟩ ∧ (r = .already ↔ y.fired = true) ∧
      (y.fired = true → w = m.scene) ∧ (y.fired = false → r = y.firing) := by
  obtain ⟨w, t, ls⟩ := m
  dsimp only at ht hy
  subst ht
  obtain ⟨es, hsteps⟩ := Machine.steps_cancel w x why ls
  refine ⟨es, _, _, hsteps, ?_⟩
  have hno : ∀ {p : Prop}, false = true → p := fun he => by cases he
  cases hf : y.fired with
  | true =>
      rw [Scene.cancelHandle_of_fired hy hf]
      exact ⟨⟨fun _ => rfl, fun _ => rfl⟩, fun _ => rfl, fun he => hno he.symm⟩
  | false =>
      rw [Scene.cancelHandle_of_unfired hy hf]
      exact ⟨⟨fun he => absurd he y.firing_ne_already, hno⟩, hno, fun _ => rfl⟩

/-- A handle's callback is called at most once in a run, and exactly once as soon as the
handle has fired; when no operation is under way it has been carried out to its end.  The
guard stays set once it is.  When the callback starts, and ever after, the handle has fired
and its token is cancelled.  Of all cancellations of the handle only the one that fires it
answers that it did, or with how the callback ended; every other one answers that it had
fired, and changes nothing. -/
theorem guard_lets_callback_run_once {config : RegistryConfig} {allowed : Bool}
    {es : List Event} {m : Machine} (h : Reached config allowed es m) {x : HandleId} {y : Handle}
    (hy : m.scene.registry.handle? x = some y) :
    m.calls = es.countP Event.isCall ∧
    (es.count (.called x) =
      if y.fired = true ∧ y.callback.isSome = true then 1 else 0) ∧
    (∀ c, y.callback = some c → y.fired = true → m.step = none →
      CalledBack config allowed es m x y c) ∧
    (y.fired = true → ∀ es' m', Runs m es' m' → m'.scene.registry.HasFired x) ∧
    (.called x ∈ m.events → ∀ m₁, m.step = some m₁ → ∀ es' m', Runs m₁ es' m' →
      m'.scene.registry.HasFired x ∧ y.token ∈ m'.scene.registry.cancelled) ∧
    (∀ why, m.task = .cancel x why →
      ∃ es' w r, Steps m es' ⟨w, .cancelled r why, m.levels⟩ ∧
        (why = .direct → Steps m es' ⟨w, .reply (.cancel r), m.levels⟩) ∧
        (r = .already ↔ .cancelled x ∈ es) ∧
        (.cancelled x ∈ es → w = m.scene) ∧
        (.cancelled x ∉ es → r = y.firing ∧ w.registry.HasFired x)) := by
  have hfired := h.recorded.fired hy
  have hcalled := h.recorded.called hy
  refine ⟨h.calls, hcalled, ?_, ?_, ?_, ?_⟩
  · intro c hc hf hs
    have hone : es.count (.called x) = 1 := by
      rw [hcalled, hf, hc]
      rfl
    exact h.calledBack hs hy hc (List.count_pos_iff.mp (by omega))
  · intro hf es' m' h'
    exact h'.hasFired ⟨y, hy, hf⟩
  · intro hin m₁ hs es' m' h'
    have hf := h'.hasFired (Machine.hasFired_of_called hin hs)
    exact ⟨hf, h.token_cancelled ((Runs.refl.step hs).trans h') hy hf⟩
  · intro why ht
    obtain ⟨es', w, r, hsteps, hanswer, hsame, hfiring⟩ := Machine.cancel_answers hy ht
    refine ⟨es', w, r, hsteps, ?_, hanswer.trans hfired, fun hin => hsame (hfired.mpr hin), ?_⟩
    · rintro rfl
      have hreturns := hsteps.trans (.single rfl)
      rwa [show Machine.events ⟨w, .cancelled r .direct, m.levels⟩ = [] from rfl,
        List.append_nil] at hreturns
    · intro hnot
      have hunfired : y.fired = false := Bool.eq_false_iff.mpr fun hf => hnot (hfired.mp hf)
      refine ⟨hfiring hunfired, ?_⟩
      -- the handle is cancelled in the first of the steps, and stays so
      have hcancels : .cancelled x ∈ es' := by
        generalize hm' : (⟨w, .cancelled r why, m.levels⟩ : Machine) = m' at hsteps
        cases hsteps with
        | refl =>
            rw [← hm'] at ht
            cases ht
        | head hs t =>
            simp only [Machine.events, ht, Registry.cancelEvents]
            exact List.mem_append_left _ List.mem_cons_self
      obtain ⟨f, hkept⟩ := hsteps.kept x y hy
      exact ⟨_, hkept, ((h.steps hsteps).recorded.fired hkept).mpr
        (List.mem_append_right _ hcancels)⟩

/-- A handle under two numbers and in two sessions, with a token that another handle
shares.  Its callback cancels it, abandons it under its other number, purges the other
session, and fails; the callback of the other handle cancels it as well.  It is abandoned,
then the other handle is cancelled, and last the handle itself. -/
def reachedInManyWays : List Event × Machine :=
  Machine.play ([], ⟨.new (.new ⟨"ldap:", .direct⟩ true), .reply .nothing, []⟩)
    [(.makeHandle ⟨"shared", ⟨1⟩, "search", true, some "t", none, some (.fails "why")⟩
        [.cancel "shared", .abandon ⟨"s"⟩ ⟨2⟩, .purge ⟨"t"⟩], 1),
      (.makeHandle ⟨"other", ⟨3⟩, "modify", true, some "t", none, some (.panics none)⟩
        [.cancel "shared"], 1),
      (.register ⟨"s"⟩ ⟨1⟩ "shared", 1), (.register ⟨"s"⟩ ⟨2⟩ "shared", 1),
      (.register ⟨"t"⟩ ⟨1⟩ "shared", 1), (.register ⟨"t"⟩ ⟨3⟩ "other", 1),
      (.abandon ⟨"s"⟩ ⟨1⟩, 60), (.cancel "other", 10), (.cancel "shared", 1)]

/-- Five times the handle is cancelled, and its callback runs once. -/
theorem one_call_in_many_ways :
    reachedInManyWays.1.count (.called ⟨0⟩) = 1 ∧
      reachedInManyWays.1.count (.cancelled ⟨0⟩) = 5 ∧
      ∃ es w, Steps reachedInManyWays.2 es ⟨w, .reply (.cancel .already), []⟩ ∧
        w = reachedInManyWays.2.scene := by
  have h : Reached ⟨"ldap:", .direct⟩ true reachedInManyWays.1 reachedInManyWays.2 :=
    Runs.refl.play _
  obtain ⟨-, hcount, -, -, -, hanswers⟩ := guard_lets_callback_run_once h (x := ⟨0⟩) rfl
  obtain ⟨es, w, r, -, hreply, hanswer, hsame, -⟩ := hanswers .direct rfl
  have hfive : reachedInManyWays.1.count (.cancelled ⟨0⟩) = 5 := by decide
  have hin : .cancelled ⟨0⟩ ∈ reachedInManyWays.1 := List.count_pos_iff.mp (by omega)
  rw [hanswer.mpr hin] at hreply
  exact ⟨hcount, hfive, es, w, hreply rfl, hsame hin⟩

end DirectorySessions
