/-
# Operations end, however they are entered again

A callback may purge, close or shut down the sessions that are being torn down, cancel any
handle, and register handles again that have been taken out.  So the tables may well
grow while they are torn down, and a handle may wait for its turn more than once.  What gets
less with every callback that starts is the number of handles that have not fired: it pays for
the callbacks (`Transition.calls_le`).  What is left to do for the callbacks under way and for
those that have not started goes down with every action, and between two actions there is a
bounded number of sessions and handles to go through; this is the order behind
`Machine.step_below`, which is well-founded.

A callback may also make handles, which come on top.  If the callbacks make none
(`Registry.MakesNone`), neither does the operation, so there are no more callbacks than
handles that had not fired when it began (`operations_end`).
-/
import DirectorySessions.Proofs.Registry.Calls
import DirectorySessions.Proofs.Registry.Scripts
import DirectorySessions.Proofs.Registry.Shutdown
import Mathlib.Order.WellFounded

namespace DirectorySessions

/-! ## There is no way round and round -/

namespace Machine

theorem wellFounded_below : WellFounded Below := by
  refine (InvImage.wf (fun m : Machine => (m.weight, m.phase, m.sessions, m.handles))
    (WellFoundedRelation.wf)).mono ?_
  intro m m' h
  simp only [InvImage, WellFoundedRelation.rel, Prod.lex_def]
  exact h

/-- No sequence of steps goes on for ever. -/
theorem no_endless_steps (m : Machine) :
    ¬ ∃ f : Nat → Machine, f 0 = m ∧ ∀ n, (f n).step = some (f (n + 1)) := by
  rintro ⟨f, -, hf⟩
  exact (not_acc_iff_exists_descending_chain.mpr
    ⟨f, rfl, fun n => step_below (hf n)⟩) (wellFounded_below.apply (f 0))

end Machine

/-! ## Handles that have not fired pay for the callbacks -/

namespace Registry

def unfired (r : Registry) : Nat := r.handles.countP fun y => !y.fired

/-- A callback that starts uses up its handle. -/
theorem unfired_fire (r : Registry) (h : HandleId) :
    (if r.wouldCall h = true then 1 else 0) + (r.fire h).unfired ≤ r.unfired := by
  cases hy : r.handle? h with
  | none =>
      simp only [wouldCall, fire, hy, Bool.false_eq_true, if_false, Nat.zero_add, Nat.le_refl]
  | some y =>
      cases hf : y.fired with
      | true =>
          simp only [wouldCall, fire, hy, hf, Bool.not_true, Bool.false_and, Bool.false_eq_true,
            if_false, if_true, Nat.zero_add, Nat.le_refl]
      | false =>
          have hlt : h.index < r.handles.length := knows_iff.mpr ⟨y, hy⟩
          have hget : r.handles[h.index] = y :=
            Option.some.inj ((List.getElem?_eq_getElem hlt).symm.trans hy)
          have hpos : 0 < r.unfired := by
            refine List.countP_pos_iff.mpr ⟨y, List.mem_of_getElem? hy, ?_⟩
            rw [hf]
            rfl
          have hfire : (r.fire h).unfired = r.unfired - 1 := by
            simp only [fire, hy, hf, Bool.false_eq_true, if_false, unfired, List.countP_set hlt,
              hget, Bool.not_false, Bool.not_true, if_true, Nat.add_zero]
          rw [hfire]
          split <;> omega

end Registry

theorem Event.isCancel_of_isCall {e : Event} (h : e.isCall = true) : e.isCancel = true := by
  cases e <;> first | rfl | cases h

theorem Transition.calls_le {m m' : Machine} {es : List Event} (h : Transition m m' es) :
    es.countP Event.isCall + m'.scene.registry.unfired + m.scene.registry.handles.length ≤
      m.scene.registry.unfired + m'.scene.registry.handles.length := by
  rcases h.handles_cases with ⟨hh, hq⟩ | ⟨y, hf, hh, rfl⟩ | ⟨y, -, hr, rfl⟩
  · have hnone : es.countP Event.isCall = 0 := by
      refine List.countP_eq_zero.mpr ?_
      intro e he hcall
      exact Bool.false_ne_true ((hq e he).symm.trans (Event.isCancel_of_isCall hcall))
    simp only [Registry.unfired, hh, hnone, Nat.zero_add, Nat.le_refl]
  · simp only [Registry.unfired, hh, List.countP_append, List.length_append]
    simp [hf]
    omega
  · rw [Registry.countP_isCall_cancelEvents, hr, Registry.length_fire]
    have hpays := Registry.unfired_fire m.scene.registry y
    omega

/-- There are no more callbacks than handles that have fired or have been made meanwhile. -/
theorem Steps.calls_le {m m' : Machine} {es : List Event} (t : Steps m es m') :
    es.countP Event.isCall + m'.scene.registry.unfired + m.scene.registry.handles.length ≤
      m.scene.registry.unfired + m'.scene.registry.handles.length := by
  induction t with
  | refl m =>
      rw [List.countP_nil]
      omega
  | head hs t ih =>
      have hstep := (Machine.step_transition hs).calls_le
      rw [List.countP_append]
      omega

/-- As many callbacks are over as began, once the ones under way are those of before. -/
theorem Steps.notes {m m' : Machine} {es : List Event} (t : Steps m es m')
    (hl : m'.levels = m.levels) :
    m'.scene.notes.length = m.scene.notes.length + es.countP Event.isCall := by
  have hcalls : m'.calls = m.calls + es.countP Event.isCall := by
    clear hl
    induction t with
    | refl m => rfl
    | head hs t ih => rw [ih, Machine.step_calls hs, List.countP_append, Nat.add_assoc]
  simp only [Machine.calls, hl] at hcalls
  omega

/-! ## Callbacks that make no handles -/

def Action.makes : Action → Bool
  | .makeHandle .. => true
  | _ => false

/-- No handle that has not fired has a callback that makes handles. -/
def Registry.MakesNone (r : Registry) : Prop :=
  ∀ x y c, r.handle? x = some y → y.fired = false → y.callback = some c →
    ∀ a ∈ c.script, a.makes = false

/-- No handles are made from here on. -/
structure Machine.MakesNone (m : Machine) : Prop where
  scripts : m.scene.registry.MakesNone
  pending : ∀ l ∈ m.levels, ∀ a ∈ l.pending, a.makes = false
  task : ∀ a, m.task = .perform a → a.makes = false

namespace Machine

variable {m m' : Machine} {es : List Event}

theorem MakesNone.length (h : m.MakesNone) (hs : m.step = some m') :
    m'.scene.registry.handles.length = m.scene.registry.handles.length := by
  rcases step_makes hs with hlength | ⟨spec, script, -, ht, -⟩
  · exact hlength
  · cases h.task _ ht

theorem MakesNone.step (h : m.MakesNone) (hs : m.step = some m') : m'.MakesNone := by
  obtain ⟨hpending, htask⟩ := step_pending hs h.pending
    fun x why y c _ hy hf hc => h.scripts x y c hy hf hc
  refine ⟨?_, hpending, htask⟩
  intro x y c hy hf hc
  rcases (step_transition hs).handles_cases with ⟨hh, -⟩ | ⟨z, -, hh, -⟩ | ⟨z, -, hr, -⟩
  · rw [Registry.handle?_congr hh] at hy
    exact h.scripts x y c hy hf hc
  · have hlength := h.length hs
    rw [hh, List.length_append, List.length_singleton] at hlength
    omega
  · rw [hr, Registry.handle?_fire] at hy
    split at hy
    · -- the handle that fires does not count any more
      obtain ⟨y', -, rfl⟩ := Option.map_eq_some_iff.mp hy
      cases hf
    · exact h.scripts x y c hy hf hc

theorem MakesNone.steps (h : m.MakesNone) (t : Steps m es m') :
    m'.scene.registry.handles.length = m.scene.registry.handles.length := by
  induction t with
  | refl m => rfl
  | head hs t ih => exact (ih (h.step hs)).trans (h.length hs)

end Machine

/-- An operation on its own calls no more callbacks than there are handles that have not fired,
if these make no handles. -/
theorem Scene.countP_isCall_le {w w' : Scene} {a : Action} {x : Reply} {es : List Event}
    (hn : w.registry.MakesNone) (t : Steps ⟨w, .perform a, []⟩ es ⟨w', .reply x, []⟩) :
    es.countP Event.isCall ≤ w.registry.unfired := by
  cases ha : a.makes with
  | true =>
      -- a handle is made at once
      cases a with
      | makeHandle spec script =>
          cases t with
          | head hs t =>
              cases hs
              cases t with
              | refl => exact Nat.zero_le _
              | head hs t => cases hs
      | _ => cases ha
  | false =>
      have hmakes : (⟨w, .perform a, []⟩ : Machine).MakesNone :=
        ⟨hn, List.forall_mem_nil _, fun b hb => Task.perform.inj hb ▸ ha⟩
      have hcalls := t.calls_le
      rw [hmakes.steps t] at hcalls
      exact Nat.le_trans (Nat.le_add_right _ _) (Nat.le_of_add_le_add_right hcalls)

theorem Machine.Recorded.called_once {m m' : Machine} {es es' : List Event} (h : m.Recorded es)
    (h' : m'.Recorded (es ++ es')) (hk : m.scene.registry.Kept m'.scene.registry) {x : HandleId}
    (hin : .called x ∈ es') :
    es'.count (.called x) = 1 ∧ ¬ m.scene.registry.HasFired x := by
  have hpos := List.count_pos_iff.mpr hin
  have hknows : m'.scene.registry.Knows x := by
    by_contra hn
    exact (h'.unmade hn).2 (List.mem_append_right _ hin)
  obtain ⟨y, hy⟩ := Registry.knows_iff.mp hknows
  have hall := h'.called hy
  rw [List.count_append] at hall
  constructor
  · split at hall <;> omega
  · -- it would have been called before, and so twice in all
    rintro ⟨z, hz, hf⟩
    obtain ⟨f, hz'⟩ := hk x z hz
    cases hy.symm.trans hz'
    have hbefore := h.called hz
    simp only [hf, true_and] at hbefore hall
    split at hall
    · next hc =>
      rw [if_pos hc.2] at hbefore
      omega
    · omega

/-- Whatever the callbacks do, every operation comes to its end, from whatever depth: no
sequence of steps goes on for ever, and there is one that leads to its reply and has as many
callbacks under way as before.  In it no callback is called twice, and none whose handle had
fired when the operation began; all that are called have been carried out.  Their number is at
most that of the handles that had not fired then, together with those that have been made
meanwhile; and if no callback that has still to run makes handles, it is at most the former. -/
theorem operations_end {config : RegistryConfig} {allowed : Bool} {es : List Event} {m : Machine}
    (h : Reached config allowed es m) {a : Action} (ht : m.task = .perform a) :
    (¬ ∃ f : Nat → Machine, f 0 = m ∧ ∀ n, (f n).step = some (f (n + 1))) ∧
      ∃ es' w x, Steps m es' ⟨w, .reply x, m.levels⟩ ∧
        (∀ y, .called y ∈ es' → es'.count (.called y) = 1 ∧ ¬ m.scene.registry.HasFired y) ∧
        w.notes.length = m.scene.notes.length + es'.countP Event.isCall ∧
        es'.countP Event.isCall + m.scene.registry.handles.length ≤
          m.scene.registry.unfired + w.registry.handles.length ∧
        (m.scene.registry.MakesNone → es'.countP Event.isCall ≤ m.scene.registry.unfired) := by
  refine ⟨m.no_endless_steps, ?_⟩
  obtain ⟨w, t, ls⟩ := m
  cases ht
  obtain ⟨es', t⟩ := Machine.steps_perform w a []
  have t' := Machine.steps_onto t ls
  refine ⟨es', _, _, t', ?_, t'.notes rfl, ?_, fun hn => Scene.countP_isCall_le hn t⟩
  · intro y hin
    exact h.recorded.called_once (t'.recorded h.grounded h.recorded) t'.grows.kept hin
  · exact Nat.le_trans (Nat.add_le_add_right (Nat.le_add_right _ _) _) t'.calls_le

/-- A callback, whose handle is outstanding on one of two sessions, is about to shut down.  On
the other session two handles are outstanding: the callback of the first purges that session
within its purge, registers the handle again, closes the session, shuts down and panics; that
of the second cancels the first, registers its own handle again and terminates a session. -/
def enteredAgain : List Event × Machine :=
  Machine.play ([], ⟨.new (.new ⟨"ldap:", .direct⟩ true), .reply .nothing, []⟩)
    [(.openSession ⟨"s"⟩ none, 1), (.openSession ⟨"t"⟩ none, 1),
      (.makeHandle ⟨"first", ⟨1⟩, "search", true, none, none, some (.panics none)⟩
        [.purge ⟨"s"⟩, .register ⟨"t"⟩ ⟨7⟩ "first", .closeSession ⟨"s"⟩, .shutdown], 1),
      (.makeHandle ⟨"second", ⟨2⟩, "modify", true, none, none, some .returns⟩
        [.cancel "first", .register ⟨"t"⟩ ⟨8⟩ "second", .terminate ⟨"t"⟩], 1),
      (.makeHandle ⟨"third", ⟨3⟩, "add", true, none, none, some .returns⟩ [.shutdown], 1),
      (.register ⟨"s"⟩ ⟨1⟩ "first", 1), (.register ⟨"s"⟩ ⟨2⟩ "second", 1),
      (.register ⟨"t"⟩ ⟨3⟩ "third", 1), (.register ⟨"t"⟩ ⟨1⟩ "first", 1), (.cancel "third", 2)]

/-- The shutdown ends, and no more than two callbacks have been carried out when it does. -/
theorem two_callbacks_at_most :
    (¬ ∃ f : Nat → Machine, f 0 = enteredAgain.2 ∧ ∀ n, (f n).step = some (f (n + 1))) ∧
      ∃ es w x, Steps enteredAgain.2 es ⟨w, .reply x, enteredAgain.2.levels⟩ ∧
        enteredAgain.2.levels.length = 1 ∧ w.notes.length ≤ 2 := by
  have h : Reached ⟨"ldap:", .direct⟩ true enteredAgain.1 enteredAgain.2 := Runs.refl.play _
  obtain ⟨hends, es, w, x, t, -, hnotes, -, hbound⟩ := operations_end h (a := .shutdown) rfl
  have hmakes : enteredAgain.2.scene.registry.MakesNone := by
    intro y z c hy hf hc a ha
    match y, hy with
    | ⟨0⟩, rfl =>
        cases hc
        simp only [List.mem_cons, List.not_mem_nil, or_false] at ha
        rcases ha with rfl | rfl | rfl | rfl <;> rfl
    | ⟨1⟩, rfl =>
        cases hc
        simp only [List.mem_cons, List.not_mem_nil, or_false] at ha
        rcases ha with rfl | rfl | rfl <;> rfl
    | ⟨2⟩, rfl => cases hf
  refine ⟨hends, es, w, x, t, rfl, ?_⟩
  have hnone : enteredAgain.2.scene.notes.length = 0 := rfl
  have htwo : enteredAgain.2.scene.registry.unfired = 2 := rfl
  have hcalls := hbound hmakes
  omega

end DirectorySessions
