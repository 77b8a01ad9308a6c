/-
# Every cancellation comes to an end

The machine of `Registry/Cancellation.lean` stops.  A handle runs its
callback once, so what the callbacks that have not run yet can still do,
together with what the running ones have left to do, gets less with every
action and with every callback that starts.  In between there are only
finitely many sessions and handles to go through: a shutdown goes through the
open sessions and then once through those that only own requests, and each
session through the handles that were taken out of it.

So the machine can be run to its end, and every action on a scene has its
outcome.
-/
import DirectorySessions.Registry.Cancellation

namespace DirectorySessions

namespace Machine

def total : List Nat → Nat
  | [] => 0
  | n :: ns => n + total ns

@[simp] theorem total_nil : total [] = 0 := rfl

@[simp] theorem total_cons (n : Nat) (ns : List Nat) : total (n :: ns) = n + total ns := rfl

@[simp] theorem total_append (ms ns : List Nat) : total (ms ++ ns) = total ms + total ns := by
  induction ms with
  | nil => simp
  | cons m ms ih => simp [ih]; omega

/-- What the handles that have not fired can still set off. -/
def dormant (w : Scene) : Nat := total (w.registry.handles.map Handle.weight)

/-- The actions that are still to be carried out. -/
def Task.weight : Task → Nat
  | .perform a => a.weight
  | _ => 0

/-- All that can still happen by way of actions. -/
def weight (m : Machine) : Nat :=
  dormant m.scene + Task.weight m.task +
    total (m.levels.map fun l => Action.scriptWeight l.pending)

/-- Shutdowns that have not come to their sweep. -/
def Teardown.phase : Teardown → Nat
  | .shutdown .. => 1
  | _ => 0

def Purpose.phase : Purpose → Nat
  | .purge _ _ _ next => Teardown.phase next
  | _ => 0

def Task.phase : Task → Nat
  | .cancel _ why | .cancelled _ why => Purpose.phase why
  | .purge _ next | .purging _ _ _ next | .purged _ _ next => Teardown.phase next
  | .shuttingDown .. => 1
  | _ => 0

def phase (m : Machine) : Nat :=
  Task.phase m.task + total (m.levels.map fun l => Purpose.phase l.why)

/-- Sessions that are still to be torn down. -/
def Teardown.sessions : Teardown → Nat
  | .shutdown pending _ | .sweep pending _ => 3 * pending.length + 2
  | _ => 1

def Purpose.sessions : Purpose → Nat
  | .purge _ _ _ next => Teardown.sessions next
  | _ => 0

def Task.sessions : Task → Nat
  | .cancel _ why | .cancelled _ why => Purpose.sessions why
  | .purge _ next => 1 + Teardown.sessions next
  | .purging _ _ _ next | .purged _ _ next => Teardown.sessions next
  | .shuttingDown pending _ | .sweeping pending _ => 3 * pending.length + 1
  | _ => 0

def sessions (m : Machine) : Nat :=
  Task.sessions m.task + total (m.levels.map fun l => Purpose.sessions l.why)

/-- Handles that are still to be cancelled. -/
def Purpose.handles : Purpose → Nat
  | .purge _ pending _ _ => 3 * pending.length + 1
  | _ => 1

def Task.handles : Task → Nat
  | .cancel _ why => Purpose.handles why + 2
  | .cancelled _ why => Purpose.handles why + 1
  | .purging _ pending _ _ => 3 * pending.length + 1
  | .reply _ => 1
  | _ => 0

def handles (m : Machine) : Nat :=
  Task.handles m.task + total (m.levels.map fun l => Purpose.handles l.why + 1)

/-- How machines compare: by the first of the four in which they differ. -/
def Below (m n : Machine) : Prop :=
  m.weight < n.weight ∨ m.weight = n.weight ∧ (m.phase < n.phase ∨ m.phase = n.phase ∧
    (m.sessions < n.sessions ∨ m.sessions = n.sessions ∧ m.handles < n.handles))

/-! ## What a step leaves of the handles -/

@[simp] theorem cancelToken_handles (r : Registry) (t : TokenId) :
    (r.cancelToken t).handles = r.handles := by
  unfold Registry.cancelToken; split <;> rfl

@[simp] theorem dropRecord_handles (r : Registry) (s : SessionId) :
    (r.dropRecord s).handles = r.handles := by
  unfold Registry.dropRecord; split <;> simp

@[simp] theorem forget_handles (r : Registry) (s : SessionId) :
    (r.forget s).handles = r.handles := by
  simp [Registry.forget, Registry.dropContext]

theorem signalClose?_handles {r r' : Registry} {s : SessionId} (h : r.signalClose? s = some r') :
    r'.handles = r.handles := by
  obtain ⟨t, _, rfl⟩ := Option.map_eq_some_iff.1 h
  simp

theorem register_handles {r r' : Registry} {s : SessionId} {id : RequestId} {x : HandleId}
    (h : r.register s id x = .ok r') : r'.handles = r.handles := by
  unfold Registry.register at h
  split at h
  · cases h
  · cases h; rfl

theorem complete_handles {r r' : Registry} {s : SessionId} {id : RequestId} {x : HandleId}
    (h : r.complete s id = some (x, r')) : r'.handles = r.handles := by
  obtain ⟨y, _, hy⟩ := Option.map_eq_some_iff.1 h
  cases hy; rfl

theorem beginAbandon_handles {r r' : Registry} {s : SessionId} {id : RequestId} {x : HandleId}
    (h : r.beginAbandon s id = .taken x r') : r'.handles = r.handles := by
  unfold Registry.beginAbandon at h
  split at h
  · cases h
  · split at h
    · cases h; rfl
    · cases h

theorem beginPurge_handles {r r' : Registry} {s : SessionId} {hs : List HandleId}
    (h : r.beginPurge s = some (hs, r')) : r'.handles = r.handles := by
  unfold Registry.beginPurge at h
  split at h
  · cases h; rfl
  · cases h

theorem noteDenied_handles (r : Registry) (e : RegistryError) :
    (r.noteDenied e).handles = r.handles := by
  unfold Registry.noteDenied; split <;> rfl

theorem freshContext_handles {r r' : Registry} {cs : List Control} {c : SharedContext}
    (h : r.freshContext cs = .ok (c, r')) : r'.handles = r.handles := by
  unfold Registry.freshContext at h
  cases hc : r.config.anonymousContext cs with
  | error e => rw [hc] at h; cases h
  | ok x => rw [hc] at h; cases h; rfl

theorem getContext?_handles {r r' : Registry} {s : SessionId} {cs : List Control} {b : Bool}
    {c : Option SharedContext} (h : r.getContext? s cs b = .ok (c, r')) :
    r'.handles = r.handles := by
  unfold Registry.getContext? at h
  split at h
  · cases ha : Access.enforce _ r.anonymousAllowed false with
    | error e => rw [ha] at h; cases h
    | ok x => rw [ha] at h; cases h; rfl
  · split at h
    · cases h; rfl
    · cases ha : Access.enforce true r.anonymousAllowed false with
      | error e => rw [ha] at h; cases h
      | ok x =>
          rw [ha] at h
          cases hf : r.freshContext cs with
          | error e => rw [hf] at h; cases h
          | ok y => rw [hf] at h; cases h; exact freshContext_handles hf

theorem getContext_handles (r : Registry) (s : SessionId) (cs : List Control) (b : Bool) :
    (r.getContext s cs b).2.handles = r.handles := by
  unfold Registry.getContext
  split
  · rename_i h; exact getContext?_handles h
  · exact noteDenied_handles _ _

theorem getRootContext_handles (r : Registry) (s : SessionId) (cs : List Control) :
    (r.getRootContext s cs).2.handles = r.handles := by
  unfold Registry.getRootContext
  split
  · rfl
  · split
    · rename_i h; exact freshContext_handles h
    · rfl

theorem authorizeBind_handles (r : Registry) (b : Bool) :
    (r.authorizeBind b).2.handles = r.handles := by
  unfold Registry.authorizeBind
  split
  · rfl
  · exact noteDenied_handles _ _

@[simp] theorem nameContext_registry (w : Scene) (n : Option String) (c : SharedContext) :
    (w.nameContext n c).registry = w.registry := by
  unfold Scene.nameContext; split <;> rfl

@[simp] theorem nameToken_registry (w : Scene) (n : Option String) (t : TokenId) :
    (w.nameToken n t).registry = w.registry := by
  unfold Scene.nameToken; split <;> rfl

@[simp] theorem tokenOf_registry (w : Scene) (n : String) :
    (w.tokenOf n).2.registry = w.registry := by
  unfold Scene.tokenOf; split <;> simp

theorem makeHandle_handles (w : Scene) (spec : HandleSpec) (script : List Action) :
    ∃ h : Handle, (w.makeHandle spec script).registry.handles = w.registry.handles ++ [h] ∧
      h.weight ≤ 1 + Action.scriptWeight script := by
  unfold Scene.makeHandle
  cases spec.token with
  | none =>
      refine ⟨_, rfl, ?_⟩
      cases spec.ending <;> simp [Handle.weight]
  | some name =>
      refine ⟨_, by simp [Registry.makeHandle]; rfl, ?_⟩
      cases spec.ending <;> simp [Handle.weight]

theorem answer?_dormant {w w' : Scene} {a : Action} {r : Reply}
    (h : w.answer? a = some (w', r)) : dormant w' < dormant w + a.weight := by
  have same : w'.registry.handles = w.registry.handles → 1 ≤ a.weight →
      dormant w' < dormant w + a.weight := fun he hw => by
    simp only [dormant, he]; omega
  cases a with
  | makeHandle spec script =>
      simp only [Scene.answer?, Option.some.injEq, Prod.mk.injEq] at h
      obtain ⟨rfl, -⟩ := h
      obtain ⟨x, hx, hw⟩ := makeHandle_handles w spec script
      simp only [dormant, hx, List.map_append, total_append, List.map_cons, List.map_nil,
        total_cons, total_nil, Action.weight]
      omega
  | cancelToken name =>
      refine same ?_ (by simp [Action.weight])
      simp only [Scene.answer?, Option.some.injEq, Prod.mk.injEq] at h
      obtain ⟨rfl, -⟩ := h
      simp [Scene.withRegistry]
  | register s id n =>
      refine same ?_ (by simp [Action.weight])
      simp only [Scene.answer?] at h
      split at h
      · cases h; rfl
      · split at h
        · rename_i hr; cases h; exact register_handles hr
        · cases h; rfl
  | complete s id =>
      refine same ?_ (by simp [Action.weight])
      simp only [Scene.answer?] at h
      split at h
      · rename_i hr; cases h; exact complete_handles hr
      · cases h; rfl
  | getContext s cs b n =>
      refine same ?_ (by simp [Action.weight])
      have hg := getContext_handles w.registry s cs b
      simp only [Scene.answer?] at h
      split at h <;> rename_i hr <;> rw [hr] at hg <;> cases h
      · exact hg
      · simpa [Scene.replyContext, Scene.withRegistry] using hg
      · exact hg
  | getRootContext s cs n =>
      refine same ?_ (by simp [Action.weight])
      have hg := getRootContext_handles w.registry s cs
      simp only [Scene.answer?] at h
      split at h <;> rename_i hr <;> rw [hr] at hg <;> cases h
      · simpa [Scene.replyContext, Scene.withRegistry] using hg
      · exact hg
  | setContext s n =>
      refine same ?_ (by simp [Action.weight])
      simp only [Scene.answer?] at h
      split at h <;> cases h <;> rfl
  | authorizeBind s b =>
      refine same ?_ (by simp [Action.weight])
      have hg := authorizeBind_handles w.registry b
      simp only [Scene.answer?] at h
      split at h <;> rename_i hr <;> rw [hr] at hg <;> cases h <;> exact hg
  | makeContext n c =>
      refine same ?_ (by simp [Action.weight])
      simp only [Scene.answer?, Option.some.injEq, Prod.mk.injEq] at h
      obtain ⟨rfl, -⟩ := h
      simp [Scene.withRegistry, Registry.share]
  | openSession s n =>
      refine same ?_ (by simp [Action.weight])
      simp only [Scene.answer?, Option.some.injEq, Prod.mk.injEq] at h
      obtain ⟨rfl, -⟩ := h
      simp [Scene.withRegistry, Registry.openSession]
  | cancel _ => simp [Scene.answer?] at h
  | abandon _ _ => simp [Scene.answer?] at h
  | purge _ => simp [Scene.answer?] at h
  | closeSession _ => simp [Scene.answer?] at h
  | terminate _ => simp [Scene.answer?] at h
  | shutdown => simp [Scene.answer?] at h
  | _ =>
      refine same ?_ (by simp [Action.weight])
      simp only [Scene.answer?, Option.some.injEq, Prod.mk.injEq] at h
      obtain ⟨rfl, -⟩ := h
      rfl

theorem weight_pos (a : Action) : 0 < a.weight := by
  cases a <;> simp only [Action.weight] <;> omega

theorem total_set {xs : List Handle} {i : Nat} {x y : Handle} (h : xs[i]? = some x) :
    total ((xs.set i y).map Handle.weight) + x.weight =
      total (xs.map Handle.weight) + y.weight := by
  induction xs generalizing i with
  | nil => simp at h
  | cons z zs ih =>
      cases i with
      | zero => simp at h; subst h; simp; omega
      | succ i =>
          rw [List.getElem?_cons_succ] at h
          have := ih h
          simp only [List.set_cons_succ, List.map_cons, total_cons]
          omega

theorem fire_dormant {w : Scene} {h : HandleId} {x : Handle} (hx : w.registry.handle? h = some x)
    (hf : x.fired = false) :
    dormant (w.withRegistry (w.registry.fire h)) + x.weight = dormant w := by
  have : w.registry.handles[h.index]? = some x := hx
  have hs := total_set (y := { x with fired := true }) this
  have hy : Handle.weight { x with fired := true } = 0 := by simp [Handle.weight]
  simp only [dormant, Scene.withRegistry, Registry.fire, hx, hf, Bool.false_eq_true, if_false]
  omega

/-! ## Every step goes down -/

theorem begin_below (w : Scene) (a : Action) (ls : List Level) :
    Below (begin w a ls) ⟨w, .perform a, ls⟩ := by
  left
  have ha := weight_pos a
  have hd : dormant (begin w a ls).scene = dormant w ∧ Task.weight (begin w a ls).task = 0 ∧
      (begin w a ls).levels = ls := by
    unfold begin
    split
    · split <;> simp [Task.weight]
    · split
      · simp [Task.weight]
      · simp [Task.weight]
      · rename_i hr
        simp [Task.weight, dormant, Scene.withRegistry, beginAbandon_handles hr]
    · simp [Task.weight]
    · simp [Task.weight]
    · split
      · rename_i hr
        simp [Task.weight, dormant, Scene.withRegistry, signalClose?_handles hr]
      · simp [Task.weight]
    · simp [Task.weight]
    · simp [Task.weight]
  obtain ⟨h₁, h₂, h₃⟩ := hd
  unfold weight
  rw [h₁, h₂, h₃]
  simp only [Task.weight]
  omega

/-- Going on with a callback uses up an action, or the callback itself. -/
theorem proceed_measures (w : Scene) (l : Level) (ls : List Level) :
    (proceed w l ls).weight =
        dormant w + Action.scriptWeight l.pending +
          total (ls.map fun l => Action.scriptWeight l.pending) ∧
      (proceed w l ls).phase =
        Purpose.phase l.why + total (ls.map fun l => Purpose.phase l.why) ∧
      (proceed w l ls).sessions =
        Purpose.sessions l.why + total (ls.map fun l => Purpose.sessions l.why) ∧
      (proceed w l ls).handles ≤
        Purpose.handles l.why + 1 + total (ls.map fun l => Purpose.handles l.why + 1) := by
  unfold proceed
  split <;> rename_i h <;>
    simp [weight, phase, sessions, handles, dormant, Task.weight, Task.phase, Task.sessions,
      Task.handles, h, Action.scriptWeight]
  omega

theorem cancelHandle_below (w : Scene) (h : HandleId) (why : Purpose) (ls : List Level) :
    Below (cancelHandle w h why ls) ⟨w, .cancel h why, ls⟩ := by
  unfold cancelHandle
  split
  · right
    simp [weight, phase, sessions, handles, Task.weight, Task.phase, Task.sessions, Task.handles]
  · rename_i x hx
    split
    · right
      simp [weight, phase, sessions, handles, Task.weight, Task.phase, Task.sessions,
        Task.handles]
    · rename_i hf
      have hd := fire_dormant hx (by simpa using hf)
      simp only
      split
      · rename_i hc
        have hw : x.weight = 0 := by simp [Handle.weight, hc]
        right
        simp [weight, phase, sessions, handles, Task.weight, Task.phase, Task.sessions,
          Task.handles]
        omega
      · rename_i c hc
        have hw : x.weight = 1 + Action.scriptWeight c.script := by
          simp [Handle.weight, hc, hf]
        left
        have := (proceed_measures (w.withRegistry (w.registry.fire h))
          ⟨why, c, x.requestId, (w.registry.fire h).isCancelled x.token, c.script, []⟩ ls).1
        rw [this]
        simp only [weight, Task.weight]
        omega

theorem afterCancel_below (w : Scene) (r : CancelResult) (why : Purpose) (ls : List Level) :
    Below (afterCancel w r why ls) ⟨w, .cancelled r why, ls⟩ := by
  right
  cases why <;>
    simp [afterCancel, weight, phase, sessions, handles, dormant, Task.weight, Task.phase,
      Task.sessions, Task.handles, Purpose.phase, Purpose.sessions, Purpose.handles,
      Scene.withRegistry, Registry.endAbandon]

theorem afterPurge_below (w : Scene) (s : SessionId) (n : Nat) (next : Teardown)
    (ls : List Level) : Below (afterPurge w s n next ls) ⟨w, .purged s n next, ls⟩ := by
  cases next <;>
    simp [Below, afterPurge, weight, phase, sessions, handles, dormant, Task.weight, Task.phase,
      Task.sessions, Task.handles, Teardown.phase, Teardown.sessions, Scene.withRegistry]

/-- Every step goes down. -/
theorem step_below {m m' : Machine} (h : m.step = some m') : Below m' m := by
  obtain ⟨w, t, ls⟩ := m
  cases t with
  | perform a =>
      simp only [step] at h
      split at h
      · rename_i hr
        cases h
        left
        have := answer?_dormant hr
        simp [weight, Task.weight]
        omega
      · cases h; exact begin_below w a ls
  | cancel x why => cases h; exact cancelHandle_below w x why ls
  | cancelled r why => cases h; exact afterCancel_below w r why ls
  | purge s next =>
      simp only [step] at h
      split at h
      · rename_i hr
        cases h
        simp [Below, weight, phase, sessions, dormant, Task.weight, Task.phase, Task.sessions,
          Scene.withRegistry, beginPurge_handles hr]
      · cases h
        simp [Below, weight, phase, sessions, Task.weight, Task.phase, Task.sessions]
  | purging s pending n next =>
      cases pending with
      | cons x xs =>
          cases h
          right
          simp [weight, phase, sessions, handles, Task.weight, Task.phase, Task.sessions,
            Task.handles, Purpose.phase, Purpose.sessions, Purpose.handles]
          omega
      | nil =>
          cases h
          right
          simp [weight, phase, sessions, handles, dormant, Task.weight, Task.phase, Task.sessions,
            Task.handles, Scene.withRegistry, Registry.endPurge]
  | purged s n next => cases h; exact afterPurge_below w s n next ls
  | shuttingDown pending n =>
      cases pending with
      | cons x xs =>
          simp only [step] at h
          split at h
          · rename_i hr
            cases h
            simp [Below, weight, phase, sessions, dormant, Task.weight, Task.phase, Task.sessions,
              Teardown.phase, Teardown.sessions, Scene.withRegistry, signalClose?_handles hr]
            omega
          · cases h
            simp [Below, weight, phase, sessions, Task.weight, Task.phase, Task.sessions]
      | nil =>
          cases h
          simp [Below, weight, phase, Task.weight, Task.phase]
  | sweeping pending n =>
      cases pending with
      | cons x xs =>
          cases h
          simp [Below, weight, phase, sessions, Task.weight, Task.phase, Task.sessions,
            Teardown.phase, Teardown.sessions]
          omega
      | nil =>
          cases h
          simp [Below, weight, phase, sessions, Task.weight, Task.phase, Task.sessions]
  | reply r =>
      cases ls with
      | nil => cases h
      | cons l ls =>
          cases h
          right
          obtain ⟨h₁, h₂, h₃, h₄⟩ := proceed_measures w { l with replies := r :: l.replies } ls
          simp only at h₁ h₂ h₃ h₄
          refine ⟨?_, Or.inr ⟨?_, Or.inr ⟨?_, ?_⟩⟩⟩
          · rw [h₁]; simp [weight, Task.weight]; omega
          · rw [h₂]; simp [phase, Task.phase]
          · rw [h₃]; simp [sessions, Task.sessions]
          · have he : handles ⟨w, .reply r, l :: ls⟩ =
                1 + (Purpose.handles l.why + 1 +
                  total (ls.map fun l => Purpose.handles l.why + 1)) := by
              simp [handles, Task.handles]
            refine Nat.lt_of_le_of_lt h₄ ?_
            rw [he]
            omega

def run (m : Machine) : Scene × Reply :=
  match _h : m.step with
  | some m' => run m'
  | none => (m.scene, match m.task with
    | .reply r => r
    | _ => .nothing)
termination_by (m.weight, m.phase, m.sessions, m.handles)
decreasing_by
  have := step_below _h
  simp only [Prod.lex_def, Below] at this ⊢
  exact this

end Machine

/-- Carry out an action on a scene. -/
def Scene.perform (w : Scene) (a : Action) : Scene × Reply := Machine.run ⟨w, .perform a, []⟩

end DirectorySessions
