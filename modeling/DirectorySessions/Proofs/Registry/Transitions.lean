/-
# What a single step can do to requests and handles

Every step of the machine that cancels handles is one of nine transitions.  A
transition says what the step does to the request maps, to the handles, to
the names of handles, to the handles that still have to be cancelled, and to
the purges that are under way, and which events it gives rise to.  Invariants
of runs are proved by going through the transitions; none of them looks at the
machine itself.

An event tells of one registration or of one handle.  A step can give rise to
several: a registration that replaces another ends that one first, and a
purge ends all that is outstanding on its session.

Nine cases are enough because a step that calls back looks like one that does
not: the callback's actions are steps of their own, and what a step leaves to
be done is only that some handles wait (`Machine.waiting`) and that some
purges are under way (`Machine.purging`).
-/
import DirectorySessions.Proofs.Registry.Requests

namespace DirectorySessions

/-- How a registration comes to its end. -/
inductive RequestEnd where
  | completed
  | abandoned
  | purged
  | replaced
deriving DecidableEq

/-- Is the handle to be cancelled when its registration ends like this? -/
def RequestEnd.detaches : RequestEnd → Bool
  | .abandoned | .purged => true
  | .completed | .replaced => false

/-- What happens to a registration or a handle. -/
inductive Event where
  | registered (session : SessionId) (id : RequestId) (h : HandleId)
  | ended (session : SessionId) (id : RequestId) (h : HandleId) (how : RequestEnd)
  /-- Someone asks for the handle to be cancelled, other than by its request. -/
  | asked (h : HandleId)
  /-- The handle is cancelled, whether it had fired before or not. -/
  | cancelled (h : HandleId)
  /-- The handle's callback starts. -/
  | called (h : HandleId)
deriving DecidableEq

/-- Would the handle's callback start if it were cancelled now? -/
def Registry.wouldCall (r : Registry) (h : HandleId) : Bool :=
  match r.handle? h with
  | some x => !x.fired && x.callback.isSome
  | none => false

/-- The registration that another one under the same number would replace. -/
def Registry.replacing (r : Registry) (s : SessionId) (id : RequestId) : List Event :=
  match r.lookup s id with
  | some h => [.ended s id h .replaced]
  | none => []

/-- The registrations that a purge of the session ends. -/
def Registry.purgeEvents (r : Registry) (s : SessionId) : List Event :=
  (r.requestsOf s).entries.map fun e => .ended s e.1 e.2 .purged

/-- What comes of cancelling a handle. -/
def Registry.cancelEvents (r : Registry) (h : HandleId) : List Event :=
  .cancelled h :: if r.wouldCall h then [.called h] else []

/-- What the first step of an action gives rise to. -/
def Scene.events (w : Scene) : Action → List Event
  | .register s id name => match w.handleOf? name with
    | some h =>
      if w.registry.isClosing s then []
      else w.registry.replacing s id ++ [.registered s id h]
    | none => []
  | .complete s id => match w.registry.lookup s id with
    | some h => [.ended s id h .completed]
    | none => []
  | .abandon s id => match w.registry.beginAbandon s id with
    | .taken h _ => [.ended s id h .abandoned]
    | _ => []
  | .cancel name => match w.handleOf? name with
    | some h => [.asked h]
    | none => []
  | _ => []

namespace Machine

/-! ## What is left to do -/

/-- The handles that a purge has still to cancel. -/
def Purpose.waiting : Purpose → List HandleId
  | .purge _ pending _ _ => pending
  | _ => []

def Purpose.purging : Purpose → List SessionId
  | .purge s _ _ _ => [s]
  | _ => []

def Task.waiting : Task → List HandleId
  | .cancel h why => h :: Purpose.waiting why
  | .cancelled _ why => Purpose.waiting why
  | .purging _ pending _ _ => pending
  | _ => []

def Task.purging : Task → List SessionId
  | .cancel _ why | .cancelled _ why => Purpose.purging why
  | .purging s _ _ _ => [s]
  | _ => []

/-- The handles that have still to be cancelled, those for the callbacks under
way included. -/
def waiting (m : Machine) : List HandleId :=
  Task.waiting m.task ++ m.levels.flatMap fun l => Purpose.waiting l.why

/-- The sessions whose purges are under way, innermost first. -/
def purging (m : Machine) : List SessionId :=
  Task.purging m.task ++ m.levels.flatMap fun l => Purpose.purging l.why

/-- What the next step gives rise to. -/
def events (m : Machine) : List Event :=
  match m.task with
  | .perform a => m.scene.events a
  | .cancel h _ => m.scene.registry.cancelEvents h
  | .purge s _ => m.scene.registry.purgeEvents s
  | _ => []

end Machine

/-- Scenes with the same outstanding requests, handles, and names of handles. -/
structure Scene.Alike (w w' : Scene) : Prop where
  requests : w'.registry.requests = w.registry.requests
  handles : w'.registry.handles = w.registry.handles
  named : w'.names.handles = w.names.handles

/-- What a step from one machine to another does. -/
inductive Transition (m m' : Machine) : List Event → Prop
  | quiet (hw : m.scene.Alike m'.scene) (hd : m'.waiting = m.waiting)
      (hp : m'.purging = m.purging) : Transition m m' []
  | make (x : Handle) (name : String) (hf : x.fired = false)
      (hh : m'.scene.registry.handles = m.scene.registry.handles ++ [x])
      (hr : m'.scene.registry.requests = m.scene.registry.requests)
      (hn : m'.scene.names.handles = m.scene.names.handles.insert name m.scene.registry.nextHandle)
      (hd : m'.waiting = m.waiting) (hp : m'.purging = m.purging) : Transition m m' []
  | register (s : SessionId) (id : RequestId) (h : HandleId) (name : String)
      (hg : m.scene.handleOf? name = some h)
      (hr : m.scene.registry.register s id h = .ok m'.scene.registry)
      (hn : m'.scene.names = m.scene.names)
      (hd : m'.waiting = m.waiting) (hp : m'.purging = m.purging) :
      Transition m m' (m.scene.registry.replacing s id ++ [.registered s id h])
  | complete (s : SessionId) (id : RequestId) (h : HandleId)
      (hc : m.scene.registry.complete s id = some (h, m'.scene.registry))
      (hn : m'.scene.names = m.scene.names)
      (hd : m'.waiting = m.waiting) (hp : m'.purging = m.purging) :
      Transition m m' [.ended s id h .completed]
  | abandon (s : SessionId) (id : RequestId) (h : HandleId)
      (hb : m.scene.registry.beginAbandon s id = .taken h m'.scene.registry)
      (hn : m'.scene.names = m.scene.names)
      (hd : m'.waiting = h :: m.waiting) (hp : m'.purging = m.purging) :
      Transition m m' [.ended s id h .abandoned]
  | ask (h : HandleId) (name : String) (hg : m.scene.handleOf? name = some h)
      (hw : m'.scene = m.scene)
      (hd : m'.waiting = h :: m.waiting) (hp : m'.purging = m.purging) :
      Transition m m' [.asked h]
  | cancel (h : HandleId) (hr : m'.scene.registry = m.scene.registry.fire h)
      (hn : m'.scene.names = m.scene.names)
      (hd : m.waiting = h :: m'.waiting) (hp : m'.purging = m.purging) :
      Transition m m' (m.scene.registry.cancelEvents h)
  | purge (s : SessionId) (hs : List HandleId)
      (hb : m.scene.registry.beginPurge s = some (hs, m'.scene.registry))
      (hn : m'.scene.names = m.scene.names)
      (hd : m'.waiting = hs ++ m.waiting) (hp : m'.purging = s :: m.purging) :
      Transition m m' (m.scene.registry.purgeEvents s)
  | purged (s : SessionId) (n : Nat)
      (hr : m'.scene.registry = m.scene.registry.endPurge s n)
      (hn : m'.scene.names = m.scene.names)
      (hd : m'.waiting = m.waiting) (hp : m.purging = s :: m'.purging) : Transition m m' []

/-! ## Operations that leave requests and handles alone -/

/-- Registries with the same outstanding requests and the same handles. -/
def Registry.Alike (r r' : Registry) : Prop := r'.requests = r.requests ∧ r'.handles = r.handles

namespace Registry

variable {r r' : Registry}

theorem alike_refl (r : Registry) : r.Alike r := ⟨rfl, rfl⟩

theorem alike_trans {r'' : Registry} (h : r.Alike r') (h' : r'.Alike r'') : r.Alike r'' :=
  ⟨h'.1.trans h.1, h'.2.trans h.2⟩

theorem cancelToken_alike (r : Registry) (t : TokenId) : r.Alike (r.cancelToken t) :=
  ⟨cancelToken_requests r t, Machine.cancelToken_handles r t⟩

theorem dropRecord_alike (r : Registry) (s : SessionId) : r.Alike (r.dropRecord s) := by
  simp only [dropRecord]
  split
  · exact cancelToken_alike r _
  · exact alike_refl r

theorem forget_alike (r : Registry) (s : SessionId) : r.Alike (r.forget s) :=
  alike_trans ⟨rfl, rfl⟩ (dropRecord_alike (r.dropContext s) s)

theorem signalClose?_alike {s : SessionId} (h : r.signalClose? s = some r') : r.Alike r' := by
  obtain ⟨t, -, rfl⟩ := Option.map_eq_some_iff.mp h
  exact cancelToken_alike r t

theorem noteDenied_alike (r : Registry) (e : RegistryError) : r.Alike (r.noteDenied e) := by
  simp only [noteDenied]
  split <;> exact ⟨rfl, rfl⟩

theorem freshContext_alike {cs : List Control} {c : SharedContext}
    (h : r.freshContext cs = .ok (c, r')) : r.Alike r' := by
  simp only [freshContext] at h
  cases hc : r.config.anonymousContext cs with
  | error e =>
      rw [hc] at h
      cases h
  | ok x =>
      rw [hc] at h
      cases h
      exact ⟨rfl, rfl⟩

theorem getContext_alike (r : Registry) (s : SessionId) (cs : List Control) (b : Bool) :
    r.Alike (r.getContext s cs b).2 := by
  simp only [getContext]
  split
  · rename_i c r' h
    simp only [getContext?] at h
    split at h
    · cases ha : Access.enforce _ r.anonymousAllowed false with
      | error e =>
          rw [ha] at h
          cases h
      | ok x =>
          rw [ha] at h
          cases h
          exact alike_refl r
    · split at h
      · cases h
        exact alike_refl r
      · cases ha : Access.enforce true r.anonymousAllowed false with
        | error e =>
            rw [ha] at h
            cases h
        | ok x =>
            rw [ha] at h
            cases hf : r.freshContext cs with
            | error e =>
                rw [hf] at h
                cases h
            | ok y =>
                rw [hf] at h
                cases h
                exact freshContext_alike hf
  · exact noteDenied_alike r _

theorem getRootContext_alike (r : Registry) (s : SessionId) (cs : List Control) :
    r.Alike (r.getRootContext s cs).2 := by
  simp only [getRootContext]
  split
  · exact alike_refl r
  · split
    · rename_i h
      exact freshContext_alike h
    · exact alike_refl r

theorem share_alike (r : Registry) (c : SecurityContext) : r.Alike (r.share c).2 := ⟨rfl, rfl⟩

theorem openSession_alike (r : Registry) (s : SessionId) : r.Alike (r.openSession s).2 :=
  ⟨rfl, rfl⟩

theorem authorizeBind_alike (r : Registry) (b : Bool) : r.Alike (r.authorizeBind b).2 := by
  simp only [authorizeBind]
  split
  · exact alike_refl r
  · exact noteDenied_alike r _

end Registry

namespace Scene

variable {w w' : Scene}

theorem alike_withRegistry {r : Registry} (h : w.registry.Alike r) : w.Alike (w.withRegistry r) :=
  ⟨h.1, h.2, rfl⟩

theorem alike_trans {w'' : Scene} (h : w.Alike w') (h' : w'.Alike w'') : w.Alike w'' :=
  ⟨h'.1.trans h.1, h'.2.trans h.2, h'.3.trans h.3⟩

theorem nameContext_alike (w : Scene) (n : Option String) (c : SharedContext) :
    w.Alike (w.nameContext n c) := by
  simp only [nameContext]
  split <;> exact ⟨rfl, rfl, rfl⟩

theorem nameToken_alike (w : Scene) (n : Option String) (t : TokenId) :
    w.Alike (w.nameToken n t) := by
  simp only [nameToken]
  split <;> exact ⟨rfl, rfl, rfl⟩

theorem tokenOf_alike (w : Scene) (n : String) : w.Alike (w.tokenOf n).2 := by
  simp only [tokenOf]
  split
  · exact ⟨rfl, rfl, rfl⟩
  · exact nameToken_alike w (some n) (.named n)

end Scene

/-! ## Every step is a transition -/

namespace Scene

variable {w w' : Scene}

theorem makeHandle_spec (w : Scene) (spec : HandleSpec) (script : List Action) :
    ∃ x : Handle, x.fired = false ∧
      (w.makeHandle spec script).registry.handles = w.registry.handles ++ [x] ∧
      (w.makeHandle spec script).registry.requests = w.registry.requests ∧
      (w.makeHandle spec script).names.handles =
        w.names.handles.insert spec.name w.registry.nextHandle := by
  simp only [makeHandle]
  cases spec.token with
  | none => exact ⟨_, rfl, rfl, rfl, rfl⟩
  | some name =>
      obtain ⟨hr, hh, hn⟩ := tokenOf_alike w name
      refine ⟨⟨spec.requestId, spec.operation, spec.cancellable, (w.tokenOf name).1,
        spec.ending.map fun e => ⟨spec.name, script, e⟩,
        spec.context.bind (w.tokenOf name).2.names.contexts.get?, false⟩, rfl, ?_, hr, ?_⟩
      · simp only [Registry.makeHandle, Option.getD_some]
        rw [hh]
      · simp only [Registry.makeHandle, Registry.nextHandle]
        rw [hn, hh]

/-- An action that is carried out at once is quiet, makes a handle, registers
one, or takes a finished request out. -/
theorem answer?_transition {a : Action} {x : Reply} (h : w.answer? a = some (w', x))
    (ls : List Level) :
    Transition ⟨w, .perform a, ls⟩ ⟨w', .reply x, ls⟩ (w.events a) := by
  have quiet : w.events a = [] → w.Alike w' →
      Transition ⟨w, .perform a, ls⟩ ⟨w', .reply x, ls⟩ (w.events a) := by
    intro he hw
    rw [he]
    exact .quiet hw rfl rfl
  cases a with
  | makeHandle spec script =>
      simp only [answer?, Option.some.injEq, Prod.mk.injEq] at h
      obtain ⟨rfl, -⟩ := h
      obtain ⟨x, hf, hh, hr, hn⟩ := makeHandle_spec w spec script
      exact .make x spec.name hf hh hr hn rfl rfl
  | register s id name =>
      cases hg : w.handleOf? name with
      | none =>
          simp only [answer?, hg, Option.some.injEq, Prod.mk.injEq] at h
          obtain ⟨rfl, -⟩ := h
          exact quiet (by simp only [events, hg]) ⟨rfl, rfl, rfl⟩
      | some y =>
          cases hc : w.registry.isClosing s with
          | true =>
              simp only [answer?, hg, Registry.register_refused hc, Option.some.injEq,
                Prod.mk.injEq] at h
              obtain ⟨rfl, -⟩ := h
              exact quiet (by simp only [events, hg, hc, if_true]) ⟨rfl, rfl, rfl⟩
          | false =>
              have hr := Registry.register_ok hc id y
              simp only [answer?, hg, hr, Option.some.injEq, Prod.mk.injEq] at h
              obtain ⟨rfl, -⟩ := h
              simp only [events, hg, hc, Bool.false_eq_true, if_false]
              exact .register s id y name hg hr rfl rfl rfl
  | complete s id =>
      cases hc : w.registry.complete s id with
      | none =>
          simp only [answer?, hc, Option.some.injEq, Prod.mk.injEq] at h
          obtain ⟨rfl, -⟩ := h
          have hl : w.registry.lookup s id = none := by
            simpa [Registry.complete] using hc
          exact quiet (by simp only [events, hl]) ⟨rfl, rfl, rfl⟩
      | some y =>
          obtain ⟨y, r⟩ := y
          simp only [answer?, hc, Option.some.injEq, Prod.mk.injEq] at h
          obtain ⟨rfl, -⟩ := h
          simp only [events, (Registry.complete_eq_some hc).1]
          exact .complete s id y hc rfl rfl rfl
  | makeContext n c =>
      simp only [answer?, Option.some.injEq, Prod.mk.injEq] at h
      obtain ⟨rfl, -⟩ := h
      exact quiet rfl (alike_trans (alike_withRegistry (Registry.share_alike w.registry c))
        (nameContext_alike _ _ _))
  | cancelToken n =>
      simp only [answer?, Option.some.injEq, Prod.mk.injEq] at h
      obtain ⟨rfl, -⟩ := h
      exact quiet rfl
        (alike_trans (tokenOf_alike w n) (alike_withRegistry (Registry.cancelToken_alike _ _)))
  | openSession s n =>
      simp only [answer?, Option.some.injEq, Prod.mk.injEq] at h
      obtain ⟨rfl, -⟩ := h
      exact quiet rfl (alike_trans (alike_withRegistry (Registry.openSession_alike w.registry s))
        (nameToken_alike _ _ _))
  | getContext s cs b n =>
      have hg := Registry.getContext_alike w.registry s cs b
      refine quiet rfl ?_
      simp only [answer?] at h
      split at h <;> rename_i hr <;> rw [hr] at hg <;> cases h
      · exact alike_withRegistry hg
      · exact alike_trans (alike_withRegistry hg) (nameContext_alike _ _ _)
      · exact alike_withRegistry hg
  | getRootContext s cs n =>
      have hg := Registry.getRootContext_alike w.registry s cs
      refine quiet rfl ?_
      simp only [answer?] at h
      split at h <;> rename_i hr <;> rw [hr] at hg <;> cases h
      · exact alike_trans (alike_withRegistry hg) (nameContext_alike _ _ _)
      · exact alike_withRegistry hg
  | setContext s n =>
      refine quiet rfl ?_
      simp only [answer?] at h
      split at h <;> cases h <;> exact ⟨rfl, rfl, rfl⟩
  | authorizeBind s b =>
      have hg := Registry.authorizeBind_alike w.registry b
      refine quiet rfl ?_
      simp only [answer?] at h
      split at h <;> rename_i hr <;> rw [hr] at hg <;> cases h <;> exact alike_withRegistry hg
  | cancel n => cases h
  | abandon s id => cases h
  | purge s => cases h
  | closeSession s => cases h
  | terminate s => cases h
  | shutdown => cases h
  | setFlag b | inspect n | same a b | lookup s id | snapshot s | outstanding s
  | removeContext s | anonymousAllowed | isBound s | isEmpty | showConfig =>
      simp only [answer?, Option.some.injEq, Prod.mk.injEq] at h
      obtain ⟨rfl, -⟩ := h
      exact quiet rfl ⟨rfl, rfl, rfl⟩

end Scene

namespace Machine

variable {m m' : Machine}

/-- Going on with a callback leaves the scene as it is, but for its note, and
still has to cancel what its purpose says. -/
theorem proceed_spec (w : Scene) (l : Level) (ls : List Level) :
    (proceed w l ls).scene.registry = w.registry ∧ (proceed w l ls).scene.names = w.names ∧
      (proceed w l ls).waiting =
        Purpose.waiting l.why ++ ls.flatMap (fun l => Purpose.waiting l.why) ∧
      (proceed w l ls).purging =
        Purpose.purging l.why ++ ls.flatMap (fun l => Purpose.purging l.why) := by
  simp only [proceed]
  split
  · exact ⟨rfl, rfl, rfl, rfl⟩
  · exact ⟨rfl, rfl, rfl, rfl⟩

theorem begin_transition (w : Scene) (a : Action) (ls : List Level) (ha : w.answer? a = none) :
    Transition ⟨w, .perform a, ls⟩ (begin w a ls) (w.events a) := by
  have same : w.Alike w := ⟨rfl, rfl, rfl⟩
  cases a with
  | cancel name =>
      cases hg : w.handleOf? name with
      | none =>
          simp only [begin, Scene.events, hg]
          exact .quiet same rfl rfl
      | some h =>
          simp only [begin, Scene.events, hg]
          exact .ask h name hg rfl rfl rfl
  | abandon s id =>
      cases hb : w.registry.beginAbandon s id with
      | notFound =>
          simp only [begin, Scene.events, hb]
          exact .quiet same rfl rfl
      | notCancellable =>
          simp only [begin, Scene.events, hb]
          exact .quiet same rfl rfl
      | taken h r =>
          simp only [begin, Scene.events, hb]
          exact .abandon s id h hb rfl rfl rfl
  | terminate s =>
      cases hc : w.registry.signalClose? s with
      | none =>
          simp only [begin, hc]
          exact .quiet same rfl rfl
      | some r =>
          simp only [begin, hc]
          exact .quiet (Scene.alike_withRegistry (Registry.signalClose?_alike hc)) rfl rfl
  | purge s => exact .quiet same rfl rfl
  | closeSession s => exact .quiet same rfl rfl
  | shutdown => exact .quiet same rfl rfl
  | register _ _ _ | complete _ _ | getContext _ _ _ _ | getRootContext _ _ _ | setContext _ _
  | authorizeBind _ _ =>
      simp only [Scene.answer?] at ha
      grind
  | _ => cases ha

theorem cancelHandle_transition (w : Scene) (h : HandleId) (why : Purpose) (ls : List Level) :
    Transition ⟨w, .cancel h why, ls⟩ (cancelHandle w h why ls) (w.registry.cancelEvents h) := by
  cases hx : w.registry.handle? h with
  | none =>
      have hf : w.registry = w.registry.fire h := by simp only [Registry.fire, hx]
      simp only [cancelHandle, hx]
      exact .cancel h hf rfl rfl rfl
  | some x =>
      cases hfired : x.fired with
      | true =>
          have hf : w.registry = w.registry.fire h := by
            simp only [Registry.fire, hx, hfired, if_true]
          simp only [cancelHandle, hx, hfired, if_true]
          exact .cancel h hf rfl rfl rfl
      | false =>
          simp only [cancelHandle, hx, hfired, Bool.false_eq_true, if_false]
          cases hc : x.callback with
          | none => exact .cancel h rfl rfl rfl rfl
          | some c =>
              obtain ⟨hr, hn, hw, hp⟩ := proceed_spec (w.withRegistry (w.registry.fire h))
                ⟨why, c, x.requestId, (w.registry.fire h).isCancelled x.token, c.script, []⟩ ls
              exact .cancel h hr hn (congrArg (List.cons h) hw.symm) hp

theorem afterCancel_transition (w : Scene) (x : CancelResult) (why : Purpose) (ls : List Level) :
    Transition ⟨w, .cancelled x why, ls⟩ (afterCancel w x why ls) [] := by
  cases why with
  | direct => exact .quiet ⟨rfl, rfl, rfl⟩ rfl rfl
  | abandon => exact .quiet ⟨rfl, rfl, rfl⟩ rfl rfl
  | purge s pending n next => exact .quiet ⟨rfl, rfl, rfl⟩ rfl rfl

theorem afterPurge_transition (w : Scene) (s : SessionId) (n : Nat) (next : Teardown)
    (ls : List Level) : Transition ⟨w, .purged s n next, ls⟩ (afterPurge w s n next ls) [] := by
  have hf := Scene.alike_withRegistry (Registry.forget_alike w.registry s)
  cases next with
  | purge => exact .quiet ⟨rfl, rfl, rfl⟩ rfl rfl
  | close => exact .quiet hf rfl rfl
  | terminate => exact .quiet hf rfl rfl
  | shutdown pending closed => exact .quiet hf rfl rfl
  | sweep pending closed => exact .quiet hf rfl rfl

/-- What a step can do. -/
theorem step_transition (h : m.step = some m') : Transition m m' m.events := by
  obtain ⟨w, t, ls⟩ := m
  cases t with
  | perform a =>
      cases ha : w.answer? a with
      | none =>
          simp only [step, ha, Option.some.injEq] at h
          subst h
          exact begin_transition w a ls ha
      | some y =>
          simp only [step, ha, Option.some.injEq] at h
          subst h
          exact Scene.answer?_transition ha ls
  | cancel x why =>
      cases h
      exact cancelHandle_transition w x why ls
  | cancelled x why =>
      cases h
      exact afterCancel_transition w x why ls
  | purge s next =>
      cases hb : w.registry.beginPurge s with
      | none =>
          simp only [step, hb, Option.some.injEq] at h
          subst h
          have he : w.registry.purgeEvents s = [] := by
            rw [Registry.purgeEvents, Registry.beginPurge_eq_none hb]
            rfl
          simp only [events, he]
          exact .quiet ⟨rfl, rfl, rfl⟩ rfl rfl
      | some y =>
          obtain ⟨hs, r⟩ := y
          simp only [step, hb, Option.some.injEq] at h
          subst h
          exact .purge s hs hb rfl rfl rfl
  | purging s pending n next =>
      cases pending with
      | nil =>
          cases h
          exact .purged s n rfl rfl rfl rfl
      | cons x xs =>
          cases h
          exact .quiet ⟨rfl, rfl, rfl⟩ rfl rfl
  | purged s n next =>
      cases h
      exact afterPurge_transition w s n next ls
  | shuttingDown pending n =>
      cases pending with
      | nil =>
          cases h
          exact .quiet ⟨rfl, rfl, rfl⟩ rfl rfl
      | cons s ss =>
          cases hc : w.registry.signalClose? s with
          | none =>
              simp only [step, hc, Option.some.injEq] at h
              subst h
              exact .quiet ⟨rfl, rfl, rfl⟩ rfl rfl
          | some r =>
              simp only [step, hc, Option.some.injEq] at h
              subst h
              exact .quiet (Scene.alike_withRegistry (Registry.signalClose?_alike hc)) rfl rfl
  | sweeping pending n =>
      cases pending with
      | nil =>
          cases h
          exact .quiet ⟨rfl, rfl, rfl⟩ rfl rfl
      | cons s ss =>
          cases h
          exact .quiet ⟨rfl, rfl, rfl⟩ rfl rfl
  | reply x =>
      cases ls with
      | nil => cases h
      | cons l ls =>
          cases h
          obtain ⟨hr, hn, hw, hp⟩ := proceed_spec w { l with replies := x :: l.replies } ls
          exact .quiet ⟨congrArg Registry.requests hr, congrArg Registry.handles hr,
            congrArg Names.handles hn⟩ hw hp

end Machine

end DirectorySessions
