/-
# Runs of the machine

`Steps` goes through the states of a machine one after the other, and keeps
what happened.  `Reached` does the same for operations that are carried out in
turn on a registry that began without sessions; its states are the ones
between two operations and the ones that a callback sees, at any depth.

An action that a callback carries out runs as it would by itself: the
callbacks under way stay beneath it untouched (`steps_onto`).  So the outcome
that `Scene.perform` gives to an action is also what a callback gets for it.

A run is therefore closed under going on (`Runs.steps`, `Runs.trans`), and an
event in it can be traced to the state in which it happened
(`Runs.mem_split`).  Between two operations any action may be chosen, so what
is proved of all that is `Reached` is proved of all sequences of operations.
-/
import DirectorySessions.Proofs.Registry.Transitions

namespace DirectorySessions

inductive Steps : Machine → List Event → Machine → Prop
  | refl (m : Machine) : Steps m [] m
  | head {m m' m'' : Machine} {es : List Event} (h : m.step = some m') (t : Steps m' es m'') :
      Steps m (m.events ++ es) m''

namespace Steps

variable {m m' m'' : Machine} {es es' : List Event}

theorem trans (h : Steps m es m') (h' : Steps m' es' m'') : Steps m (es ++ es') m'' := by
  induction h with
  | refl m => exact h'
  | head hs t ih =>
      rw [List.append_assoc]
      exact .head hs (ih h')

theorem single (h : m.step = some m') : Steps m m.events m' := by
  have := Steps.head h (.refl m')
  rwa [List.append_nil] at this

end Steps

namespace Machine

/-! ## Callbacks beneath -/

/-- The same machine with further callbacks under way beneath its own. -/
def onto (m : Machine) (ls : List Level) : Machine := { m with levels := m.levels ++ ls }

theorem proceed_onto (w : Scene) (l : Level) (ls ls' : List Level) :
    (proceed w l ls).onto ls' = proceed w l (ls ++ ls') := by
  simp only [proceed]
  split <;> rfl

theorem begin_onto (w : Scene) (a : Action) (ls ls' : List Level) :
    (begin w a ls).onto ls' = begin w a (ls ++ ls') := by
  simp only [begin]
  cases a with
  | cancel n =>
      dsimp only
      cases w.handleOf? n <;> rfl
  | abandon s id =>
      dsimp only
      cases w.registry.beginAbandon s id <;> rfl
  | terminate s =>
      dsimp only
      cases w.registry.signalClose? s <;> rfl
  | _ => rfl

theorem cancelHandle_onto (w : Scene) (h : HandleId) (why : Purpose) (ls ls' : List Level) :
    (cancelHandle w h why ls).onto ls' = cancelHandle w h why (ls ++ ls') := by
  unfold cancelHandle
  split
  · rfl
  · split
    · rfl
    · dsimp only
      split
      · rfl
      · exact proceed_onto _ _ _ _

theorem step_onto {m m' : Machine} (h : m.step = some m') (ls : List Level) :
    (m.onto ls).step = some (m'.onto ls) := by
  obtain ⟨w, t, ls₀⟩ := m
  cases t with
  | perform a =>
      cases ha : w.answer? a with
      | none =>
          simp only [step, ha, Option.some.injEq] at h
          subst h
          simp only [onto, step, ha, ← begin_onto]
      | some y =>
          simp only [step, ha, Option.some.injEq] at h
          subst h
          simp only [onto, step, ha]
  | cancel x why =>
      cases h
      exact congrArg some (cancelHandle_onto w x why ls₀ ls).symm
  | cancelled x why =>
      cases h
      cases why <;> rfl
  | purge s next =>
      cases hb : w.registry.beginPurge s with
      | none =>
          simp only [step, hb, Option.some.injEq] at h
          subst h
          simp only [onto, step, hb]
      | some y =>
          simp only [step, hb, Option.some.injEq] at h
          subst h
          simp only [onto, step, hb]
  | purging s pending n next =>
      cases pending <;> cases h <;> rfl
  | purged s n next =>
      cases h
      cases next <;> rfl
  | shuttingDown pending n =>
      cases pending with
      | nil =>
          cases h
          rfl
      | cons s ss =>
          cases hc : w.registry.signalClose? s with
          | none =>
              simp only [step, hc, Option.some.injEq] at h
              subst h
              simp only [onto, step, hc]
          | some r =>
              simp only [step, hc, Option.some.injEq] at h
              subst h
              simp only [onto, step, hc]
  | sweeping pending n =>
      cases pending <;> cases h <;> rfl
  | reply x =>
      cases ls₀ with
      | nil => cases h
      | cons l ls₀ =>
          cases h
          exact congrArg some (proceed_onto w _ ls₀ ls).symm

theorem steps_onto {m m' : Machine} {es : List Event} (h : Steps m es m') (ls : List Level) :
    Steps (m.onto ls) es (m'.onto ls) := by
  induction h with
  | refl m => exact .refl _
  | head hs t ih => exact .head (step_onto hs ls) ih

/-! ## To the end -/

theorem step_eq_none {m : Machine} (h : m.step = none) :
    ∃ w x, m = ⟨w, .reply x, []⟩ := by
  obtain ⟨w, t, ls⟩ := m
  cases t with
  | perform a =>
      cases ha : w.answer? a with
      | none =>
          simp only [step, ha] at h
          cases h
      | some y =>
          simp only [step, ha] at h
          cases h
  | cancel x why => cases h
  | cancelled x why => cases h
  | purge s next =>
      cases hb : w.registry.beginPurge s with
      | none =>
          simp only [step, hb] at h
          cases h
      | some y =>
          simp only [step, hb] at h
          cases h
  | purging s pending n next => cases pending <;> cases h
  | purged s n next => cases h
  | shuttingDown pending n =>
      cases pending with
      | nil => cases h
      | cons s ss =>
          cases hc : w.registry.signalClose? s with
          | none =>
              simp only [step, hc] at h
              cases h
          | some r =>
              simp only [step, hc] at h
              cases h
  | sweeping pending n => cases pending <;> cases h
  | reply x =>
      cases ls with
      | nil => exact ⟨w, x, rfl⟩
      | cons l ls => cases h

theorem run_of_step {m m' : Machine} (h : m.step = some m') : m.run = m'.run := by
  rw [run]
  split
  · rename_i m'' hs
    rw [h] at hs
    cases hs
    rfl
  · rename_i hs
    rw [h] at hs
    cases hs

theorem run_reply (w : Scene) (x : Reply) : run ⟨w, .reply x, []⟩ = (w, x) := by
  rw [run]
  split
  · rename_i hs
    cases hs
  · rfl

theorem steps_run (m : Machine) : ∃ es, Steps m es ⟨m.run.1, .reply m.run.2, []⟩ := by
  cases hs : m.step with
  | none =>
      obtain ⟨w, x, rfl⟩ := step_eq_none hs
      rw [run_reply]
      exact ⟨[], .refl _⟩
  | some m' =>
      obtain ⟨es, t⟩ := steps_run m'
      rw [run_of_step hs]
      exact ⟨_, .head hs t⟩
termination_by (m.weight, m.phase, m.sessions, m.handles)
decreasing_by
  have := step_below hs
  simp only [Prod.lex_def, Below] at this ⊢
  exact this

theorem run_of_steps {m m' : Machine} {es : List Event} (h : Steps m es m') : m.run = m'.run := by
  induction h with
  | refl m => rfl
  | head hs t ih => rw [run_of_step hs, ih]

/-- An action runs within callbacks as it does by itself. -/
theorem steps_perform (w : Scene) (a : Action) (ls : List Level) :
    ∃ es, Steps ⟨w, .perform a, ls⟩ es ⟨(w.perform a).1, .reply (w.perform a).2, ls⟩ := by
  obtain ⟨es, h⟩ := steps_run ⟨w, .perform a, []⟩
  exact ⟨es, steps_onto h ls⟩

/-- Whatever is under way returns to the callbacks beneath it. -/
theorem steps_return (m : Machine) : ∃ es w x, Steps m es ⟨w, .reply x, m.levels⟩ := by
  obtain ⟨w, t, ls⟩ := m
  obtain ⟨es, h⟩ := steps_run ⟨w, t, []⟩
  exact ⟨es, _, _, steps_onto h ls⟩

/-- The outcome of an action is where its steps lead. -/
theorem perform_of_steps {w w' : Scene} {a : Action} {x : Reply} {es : List Event}
    (h : Steps ⟨w, .perform a, []⟩ es ⟨w', .reply x, []⟩) : w.perform a = (w', x) := by
  rw [Scene.perform, run_of_steps h, run_reply]

end Machine

namespace Machine

/-- Take so many steps, or as many as there are, and keep what happened. -/
def advance : Nat → Machine → List Event × Machine
  | 0, m => ([], m)
  | n + 1, m => match m.step with
    | some m' => (m.events ++ (advance n m').1, (advance n m').2)
    | none => ([], m)

theorem steps_advance (n : Nat) (m : Machine) : Steps m (advance n m).1 (advance n m).2 := by
  induction n generalizing m with
  | zero => exact .refl m
  | succ n ih =>
      cases hs : m.step with
      | none =>
          simp only [advance, hs]
          exact .refl m
      | some m' =>
          simp only [advance, hs]
          exact .head hs (ih m')

end Machine

/-! ## Operations as a whole -/

namespace Scene

/-- Carry out actions in turn, with the replies so far, latest first. -/
def performAll (w : Scene) : List Action → List Reply → Scene × List Reply
  | [], xs => (w, xs)
  | a :: as, xs => performAll (w.perform a).1 as ((w.perform a).2 :: xs)

theorem performAll_snoc (w : Scene) (as : List Action) (a : Action) (xs : List Reply) :
    (w.performAll (as ++ [a]) xs).1 = ((w.performAll as xs).1.perform a).1 := by
  induction as generalizing w xs with
  | nil => rfl
  | cons b as ih => exact ih _ _

/-- Run the callback of a handle that has just fired, and leave its note. -/
def callBack (w : Scene) (c : Callback) (id : RequestId) (tokenFired : Bool) : Scene :=
  let p := w.performAll c.script []
  { p.1 with notes := ⟨c.owner, id, tokenFired, p.2.reverse⟩ :: p.1.notes }

def cancelHandle (w : Scene) (h : HandleId) : Scene × CancelResult :=
  match w.registry.handle? h with
  | none => (w, .already)
  | some x =>
    if x.fired then (w, .already)
    else
      let r := w.registry.fire h
      match x.callback with
      | none => (w.withRegistry r, .fired)
      | some c =>
        ((w.withRegistry r).callBack c x.requestId (r.isCancelled x.token), c.ending.result)

/-- Cancel handles in turn, and count those for which it counts. -/
def cancelAll (w : Scene) : List HandleId → Nat → Scene × Nat
  | [], n => (w, n)
  | h :: hs, n =>
    cancelAll (w.cancelHandle h).1 hs (if (w.cancelHandle h).2.counts then n + 1 else n)

def purge (w : Scene) (s : SessionId) : Scene × Nat :=
  match w.registry.beginPurge s with
  | none => (w, 0)
  | some (hs, r) =>
    let p := (w.withRegistry r).cancelAll hs 0
    (p.1.withRegistry (p.1.registry.endPurge s p.2), p.2)

end Scene

namespace Machine

theorem steps_proceed (w : Scene) (l : Level) (ls : List Level) :
    ∃ es, Steps (proceed w l ls) es
      ⟨{ (w.performAll l.pending l.replies).1 with
          notes := ⟨l.callback.owner, l.id, l.tokenFired,
            (w.performAll l.pending l.replies).2.reverse⟩ ::
              (w.performAll l.pending l.replies).1.notes },
        .cancelled l.callback.ending.result l.why, ls⟩ := by
  obtain ⟨why, c, id, fired, pending, replies⟩ := l
  induction pending generalizing w replies with
  | nil => exact ⟨[], .refl _⟩
  | cons a as ih =>
      obtain ⟨es, h⟩ := steps_perform w a (⟨why, c, id, fired, as, replies⟩ :: ls)
      obtain ⟨es', h'⟩ := ih (w.perform a).1 ((w.perform a).2 :: replies)
      exact ⟨_, h.trans (.head rfl h')⟩

theorem steps_cancel (w : Scene) (h : HandleId) (why : Purpose) (ls : List Level) :
    ∃ es, Steps ⟨w, .cancel h why, ls⟩ es
      ⟨(w.cancelHandle h).1, .cancelled (w.cancelHandle h).2 why, ls⟩ := by
  have hs : step ⟨w, .cancel h why, ls⟩ = some (Machine.cancelHandle w h why ls) := rfl
  cases hx : w.registry.handle? h with
  | none =>
      simp only [Machine.cancelHandle, hx] at hs
      simp only [Scene.cancelHandle, hx]
      exact ⟨_, .single hs⟩
  | some x =>
      cases hf : x.fired with
      | true =>
          simp only [Machine.cancelHandle, hx, hf, if_true] at hs
          simp only [Scene.cancelHandle, hx, hf, if_true]
          exact ⟨_, .single hs⟩
      | false =>
          cases hc : x.callback with
          | none =>
              simp only [Machine.cancelHandle, hx, hf, Bool.false_eq_true, if_false, hc] at hs
              simp only [Scene.cancelHandle, hx, hf, Bool.false_eq_true, if_false, hc]
              exact ⟨_, .single hs⟩
          | some c =>
              simp only [Machine.cancelHandle, hx, hf, Bool.false_eq_true, if_false, hc] at hs
              simp only [Scene.cancelHandle, hx, hf, Bool.false_eq_true, if_false, hc]
              obtain ⟨es, h'⟩ := steps_proceed (w.withRegistry (w.registry.fire h))
                ⟨why, c, x.requestId, (w.registry.fire h).isCancelled x.token, c.script, []⟩ ls
              exact ⟨_, .head hs h'⟩

theorem steps_purging (w : Scene) (s : SessionId) (hs : List HandleId) (n : Nat)
    (next : Teardown) (ls : List Level) :
    ∃ es, Steps ⟨w, .purging s hs n next, ls⟩ es
      ⟨(w.cancelAll hs n).1, .purging s [] (w.cancelAll hs n).2 next, ls⟩ := by
  induction hs generalizing w n with
  | nil => exact ⟨[], .refl _⟩
  | cons h hs ih =>
      obtain ⟨es, t⟩ := steps_cancel w h (.purge s hs n next) ls
      obtain ⟨es', t'⟩ := ih (w.cancelHandle h).1
        (if (w.cancelHandle h).2.counts then n + 1 else n)
      exact ⟨_, .head rfl (t.trans (.head rfl t'))⟩

theorem steps_purge (w : Scene) (s : SessionId) (next : Teardown) (ls : List Level) :
    ∃ es, Steps ⟨w, .purge s next, ls⟩ es
      ⟨(w.purge s).1, .purged s (w.purge s).2 next, ls⟩ := by
  cases hb : w.registry.beginPurge s with
  | none =>
      have hp : w.purge s = (w, 0) := by simp only [Scene.purge, hb]
      have hs : step ⟨w, .purge s next, ls⟩ = some ⟨w, .purged s 0 next, ls⟩ := by
        simp only [step, hb]
      rw [hp]
      exact ⟨_, .single hs⟩
  | some y =>
      obtain ⟨hs, r⟩ := y
      have h₁ : step ⟨w, .purge s next, ls⟩ =
          some ⟨w.withRegistry r, .purging s hs 0 next, ls⟩ := by
        simp only [step, hb]
      obtain ⟨es, t⟩ := steps_purging (w.withRegistry r) s hs 0 next ls
      simp only [Scene.purge, hb]
      exact ⟨_, .head h₁ (t.trans (.single rfl))⟩

end Machine

namespace Scene

theorem perform_cancel {w : Scene} {name : String} {h : HandleId} (hg : w.handleOf? name = some h) :
    w.perform (.cancel name) = ((w.cancelHandle h).1, .cancel (w.cancelHandle h).2) := by
  have hs : Machine.step ⟨w, .perform (.cancel name), []⟩ = some ⟨w, .cancel h .direct, []⟩ := by
    simp only [Machine.step, answer?, Machine.begin, hg]
  obtain ⟨es, t⟩ := Machine.steps_cancel w h .direct []
  exact Machine.perform_of_steps (.head hs (t.trans (.single rfl)))

theorem perform_abandon {w : Scene} {s : SessionId} {id : RequestId} {h : HandleId} {r : Registry}
    (hb : w.registry.beginAbandon s id = .taken h r) :
    w.perform (.abandon s id) =
      (((w.withRegistry r).cancelHandle h).1.withRegistry
        ((w.withRegistry r).cancelHandle h).1.registry.endAbandon, .abandon .abandoned) := by
  have hs : Machine.step ⟨w, .perform (.abandon s id), []⟩ =
      some ⟨w.withRegistry r, .cancel h .abandon, []⟩ := by
    simp only [Machine.step, answer?, Machine.begin, hb]
  obtain ⟨es, t⟩ := Machine.steps_cancel (w.withRegistry r) h .abandon []
  exact Machine.perform_of_steps (.head hs (t.trans (.single rfl)))

theorem perform_abandon_notFound {w : Scene} {s : SessionId} {id : RequestId}
    (hb : w.registry.beginAbandon s id = .notFound) :
    w.perform (.abandon s id) = (w, .abandon .notFound) := by
  have hs : Machine.step ⟨w, .perform (.abandon s id), []⟩ =
      some ⟨w, .reply (.abandon .notFound), []⟩ := by
    simp only [Machine.step, answer?, Machine.begin, hb]
  exact Machine.perform_of_steps (.single hs)

theorem perform_abandon_notCancellable {w : Scene} {s : SessionId} {id : RequestId}
    (hb : w.registry.beginAbandon s id = .notCancellable) :
    w.perform (.abandon s id) = (w, .abandon .notCancellable) := by
  have hs : Machine.step ⟨w, .perform (.abandon s id), []⟩ =
      some ⟨w, .reply (.abandon .notCancellable), []⟩ := by
    simp only [Machine.step, answer?, Machine.begin, hb]
  exact Machine.perform_of_steps (.single hs)

theorem perform_purge (w : Scene) (s : SessionId) :
    w.perform (.purge s) = ((w.purge s).1, .number (w.purge s).2) := by
  obtain ⟨es, t⟩ := Machine.steps_purge w s .purge []
  exact Machine.perform_of_steps (.head rfl (t.trans (.single rfl)))

theorem perform_closeSession (w : Scene) (s : SessionId) :
    w.perform (.closeSession s) =
      ((w.purge s).1.withRegistry ((w.purge s).1.registry.forget s), .number (w.purge s).2) := by
  obtain ⟨es, t⟩ := Machine.steps_purge w s .close []
  exact Machine.perform_of_steps (.head rfl (t.trans (.single rfl)))

theorem perform_terminate {w : Scene} {s : SessionId} {r : Registry}
    (hc : w.registry.signalClose? s = some r) :
    w.perform (.terminate s) =
      (((w.withRegistry r).purge s).1.withRegistry
        (((w.withRegistry r).purge s).1.registry.forget s), .truth true) := by
  have hs : Machine.step ⟨w, .perform (.terminate s), []⟩ =
      some ⟨w.withRegistry r, .purge s .terminate, []⟩ := by
    simp only [Machine.step, answer?, Machine.begin, hc]
  obtain ⟨es, t⟩ := Machine.steps_purge (w.withRegistry r) s .terminate []
  exact Machine.perform_of_steps (.head hs (t.trans (.single rfl)))

end Scene

/-! ## Runs -/

/-- What comes after a state when operations are carried out in whatever
order; `es` is what has happened since. -/
inductive Runs (m₀ : Machine) : List Event → Machine → Prop
  | refl : Runs m₀ [] m₀
  | step {es : List Event} {m m' : Machine} (h : Runs m₀ es m) (hs : m.step = some m') :
      Runs m₀ (es ++ m.events) m'
  /-- The operation under way has come to its end, and the next one begins. -/
  | next {es : List Event} {m : Machine} (h : Runs m₀ es m) (hs : m.step = none) (a : Action) :
      Runs m₀ es ⟨m.scene, .perform a, []⟩

/-- A run on a registry that began without sessions. -/
abbrev Reached (config : RegistryConfig) (allowed : Bool) : List Event → Machine → Prop :=
  Runs ⟨.new (.new config allowed), .reply .nothing, []⟩

namespace Runs

variable {m₀ m m' : Machine} {es es' : List Event}

theorem steps (h : Runs m₀ es m) (t : Steps m es' m') : Runs m₀ (es ++ es') m' := by
  induction t generalizing es with
  | refl m =>
      rw [List.append_nil]
      exact h
  | head hs t ih =>
      rw [← List.append_assoc]
      exact ih (h.step hs)

theorem trans (h : Runs m₀ es m) (h' : Runs m es' m') : Runs m₀ (es ++ es') m' := by
  induction h' with
  | refl =>
      rw [List.append_nil]
      exact h
  | step h' hs ih =>
      rw [← List.append_assoc]
      exact ih.step hs
  | next h' hs a ih => exact ih.next hs a

theorem mem_split (h : Runs m₀ es m) {e : Event} (he : e ∈ es) :
    ∃ es₁ m₁ es₂, Runs m₀ es₁ m₁ ∧ e ∈ m₁.events ∧ Runs m₁ es₂ m ∧ es = es₁ ++ es₂ := by
  induction h with
  | refl => exact absurd he List.not_mem_nil
  | @step es m m' h hs ih =>
      rcases List.mem_append.mp he with he | he
      · obtain ⟨es₁, m₁, es₂, h₁, hm, h₂, rfl⟩ := ih he
        exact ⟨es₁, m₁, es₂ ++ m.events, h₁, hm, h₂.step hs, List.append_assoc _ _ _⟩
      · exact ⟨es, m, m.events, h, he, Runs.refl.step hs, rfl⟩
  | next h hs a ih =>
      obtain ⟨es₁, m₁, es₂, h₁, hm, h₂, rfl⟩ := ih he
      exact ⟨es₁, m₁, es₂, h₁, hm, h₂.next hs a, rfl⟩

/-- The machine's steps are determined, so a run either goes through a state
to which they lead, or is still on the way there. -/
theorem through (h : Runs m₀ es m) (t : Steps m₀ es' m') :
    (∃ es₂, Runs m' es₂ m ∧ es = es' ++ es₂) ∨ ∃ es₂, Steps m es₂ m' ∧ es' = es ++ es₂ := by
  induction h with
  | refl => exact Or.inr ⟨es', t, rfl⟩
  | @step es m m₁ h hs ih =>
      rcases ih with ⟨es₂, h₂, rfl⟩ | ⟨es₂, t₂, rfl⟩
      · exact Or.inl ⟨es₂ ++ m.events, h₂.step hs, List.append_assoc _ _ _⟩
      · cases t₂ with
        | refl => exact Or.inl ⟨_, Runs.refl.step hs, by rw [List.append_nil, List.nil_append]⟩
        | @head _ m₂ _ es₃ hs' t₃ =>
            rw [hs] at hs'
            cases hs'
            exact Or.inr ⟨es₃, t₃, (List.append_assoc _ _ _).symm⟩
  | @next es m h hs a ih =>
      rcases ih with ⟨es₂, h₂, rfl⟩ | ⟨es₂, t₂, rfl⟩
      · exact Or.inl ⟨es₂, h₂.next hs a, rfl⟩
      · cases t₂ with
        | refl => exact Or.inl ⟨[], Runs.refl.next hs a, by rw [List.append_nil, List.append_nil]⟩
        | head hs' t₃ =>
            rw [hs] at hs'
            cases hs'

/-- A run is what comes of carrying out actions in turn: the operation under
way leads to the scene after some list of actions. -/
theorem performed (h : Runs m₀ es m) : ∃ as, m.run.1 = (m₀.run.1.performAll as []).1 := by
  induction h with
  | refl => exact ⟨[], rfl⟩
  | step h hs ih =>
      rw [← Machine.run_of_step hs]
      exact ih
  | next h hs a ih =>
      obtain ⟨w, x, rfl⟩ := Machine.step_eq_none hs
      obtain ⟨as, ha⟩ := ih
      rw [Machine.run_reply] at ha
      refine ⟨as ++ [a], ?_⟩
      rw [Scene.performAll_snoc, ← ha]
      rfl

theorem performAll (h : Runs m₀ es m) (hs : m.step = none) (as : List Action) :
    ∃ es' x, Runs m₀ es' ⟨(m.scene.performAll as []).1, .reply x, []⟩ := by
  suffices hall : ∀ (as : List Action) (w : Scene) (xs : List Reply) (es : List Event) (x : Reply),
      Runs m₀ es ⟨w, .reply x, []⟩ →
        ∃ es x, Runs m₀ es ⟨(w.performAll as xs).1, .reply x, []⟩ by
    obtain ⟨w, x, rfl⟩ := Machine.step_eq_none hs
    exact hall as w [] es x h
  intro as
  induction as with
  | nil =>
      intro w xs es x h
      exact ⟨es, x, h⟩
  | cons a as ih =>
      intro w xs es x h
      obtain ⟨es', t⟩ := Machine.steps_perform w a []
      exact ih _ _ _ _ ((h.next rfl a).steps t)

end Runs

/-- Begin actions in turn, each when the one before has come to its end, and
take so many steps of each. -/
def Machine.play (p : List Event × Machine) : List (Action × Nat) → List Event × Machine
  | [] => p
  | (a, n) :: as => match p.2.step with
    | none =>
      let q := advance n ⟨p.2.scene, .perform a, []⟩
      play (p.1 ++ q.1, q.2) as
    | some _ => p

theorem Runs.play {m₀ : Machine} {p : List Event × Machine} (h : Runs m₀ p.1 p.2)
    (as : List (Action × Nat)) : Runs m₀ (Machine.play p as).1 (Machine.play p as).2 := by
  induction as generalizing p with
  | nil => exact h
  | cons b as ih =>
      obtain ⟨a, n⟩ := b
      simp only [Machine.play]
      split
      · rename_i hs
        exact ih ((h.next hs a).steps (Machine.steps_advance n _))
      · exact h

end DirectorySessions
