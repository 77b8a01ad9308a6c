/-
# What an action writes

`Transition` tells of requests and handles.  What becomes of the counters, the
records, the contexts and the tokens is said here, in two inversion lemmas:
`answer?_effect` for an action that is carried out at once, and `step_writes`
for every step of the machine.  Both give the registry after the step as an
update of the one before, together with the events of the step, so that what a
step does to a single component can be read off by cases.

A run that keeps the states it has gone through (`Passed`) lets what happened
be counted where events do not tell of it.

Some operations that only look at the registry write to it all the same: a
denied access is counted, and a context that is made is numbered.
-/
import DirectorySessions.Proofs.Registry.Runs

namespace DirectorySessions

/-! ## Counters and records -/

namespace Registry

variable {r r' : Registry} {s : SessionId} {id : RequestId} {h : HandleId}

theorem cancelToken_books (r : Registry) (t : TokenId) :
    (r.cancelToken t).stats = r.stats ∧ (r.cancelToken t).records = r.records := by
  simp only [cancelToken]
  split <;> exact ⟨rfl, rfl⟩

theorem fire_books (r : Registry) (h : HandleId) :
    (r.fire h).stats = r.stats ∧ (r.fire h).records = r.records := by
  simp only [fire]
  split
  · split
    · exact ⟨rfl, rfl⟩
    · exact cancelToken_books r _
  · exact ⟨rfl, rfl⟩

theorem signalClose?_books (hc : r.signalClose? s = some r') :
    r'.stats = r.stats ∧ r'.records = r.records := by
  obtain ⟨t, -, rfl⟩ := Option.map_eq_some_iff.mp hc
  exact cancelToken_books r t

theorem register_books (hr : r.register s id h = .ok r') :
    r'.stats = r.stats.countRegistered ∧ r'.records = r.records := by
  rw [register_ok (not_closing_of_register hr)] at hr
  cases hr
  exact ⟨rfl, rfl⟩

theorem complete_books (hc : r.complete s id = some (h, r')) :
    r'.stats = r.stats.countCompleted ∧ r'.records = r.records := by
  obtain ⟨x, hx, he⟩ := Option.map_eq_some_iff.mp hc
  cases he
  exact ⟨rfl, rfl⟩

theorem forget_books (r : Registry) (s : SessionId) :
    (r.forget s).stats = (if (r.records.get? s).isSome then r.stats.countClosed else r.stats) ∧
      ∀ s', (r.forget s).records.get? s' = if s = s' then none else r.records.get? s' := by
  simp only [forget, dropRecord]
  split
  · rename_i t ht
    have ht' : r.records.get? s = some t := ht
    refine ⟨?_, ?_⟩
    · rw [ht', Option.isSome_some, if_pos rfl]
      exact congrArg Stats.countClosed (cancelToken_books _ t).1
    · intro s'
      rw [(cancelToken_books _ t).2, Table.get?_erase]
      rfl
  · rename_i ht
    have ht' : r.records.get? s = none := ht
    refine ⟨?_, ?_⟩
    · rw [ht', Option.isSome_none, if_neg Bool.false_ne_true]
      rfl
    · intro s'
      split
      · rename_i hs
        rw [← hs]
        exact ht'
      · rfl

theorem forget_contexts (r : Registry) (s : SessionId) :
    (r.forget s).contexts = r.contexts.erase s := by
  simp only [forget, dropRecord]
  split
  · simp only [cancelToken]
    split <;> rfl
  · rfl

end Registry

/-! ## What is carried out at once -/

namespace Registry

variable {r r' : Registry}

/-- What an action that cancels nothing can do to the registry, and what it
gives rise to. -/
inductive Effect (r : Registry) : Action → List Event → Registry → Prop
  | none (a : Action) : Effect r a [] r
  | flag (allowed : Bool) : Effect r (.setFlag allowed) [] { r with anonymousAllowed := allowed }
  | handle (spec : HandleSpec) (script : List Action) (x : Handle) (hf : x.fired = false) :
      Effect r (.makeHandle spec script) [] { r with handles := r.handles ++ [x] }
  | token (name : String) (t : TokenId) : Effect r (.cancelToken name) [] (r.cancelToken t)
  | register {s : SessionId} {id : RequestId} {h : HandleId} {r' : Registry} (name : String)
      (hr : r.register s id h = .ok r') :
      Effect r (.register s id name) (r.replacing s id ++ [.registered s id h]) r'
  | complete {s : SessionId} {id : RequestId} {h : HandleId} {r' : Registry}
      (hc : r.complete s id = some (h, r')) :
      Effect r (.complete s id) [.ended s id h .completed] r'
  | denied (a : Action) : Effect r a [] { r with stats := r.stats.countDenied }
  | context (a : Action) : Effect r a [] { r with contextsMade := r.contextsMade + 1 }
  | bind (s : SessionId) (name : String) (c : SharedContext) :
      Effect r (.setContext s name) [] (r.setContext s c)
  | unbind (s : SessionId) : Effect r (.removeContext s) [] (r.dropContext s)
  | opened (s : SessionId) (name : Option String) :
      Effect r (.openSession s name) [] (r.openSession s).2

theorem noteDenied_effect (r : Registry) (a : Action) (e : RegistryError) :
    r.Effect a [] (r.noteDenied e) := by
  simp only [noteDenied]
  split
  · exact .denied a
  · exact .none a

theorem freshContext_effect {cs : List Control} {c : SharedContext} (a : Action)
    (h : r.freshContext cs = .ok (c, r')) : r.Effect a [] r' := by
  simp only [freshContext] at h
  cases hc : r.config.anonymousContext cs with
  | error e =>
      rw [hc] at h
      cases h
  | ok x =>
      rw [hc] at h
      cases h
      exact .context a

theorem getContext_effect (r : Registry) (a : Action) (s : SessionId) (cs : List Control)
    (b : Bool) : r.Effect a [] (r.getContext s cs b).2 := by
  simp only [getContext]
  split
  · rename_i c r' h
    simp only [getContext?] at h
    split at h
    · cases ha : Access.enforce _ r.anonymousAllowed false with
      | error e =>
          rw [ha] at h
          cases h
      | ok x =>
          rw [ha] at h
          cases h
          exact .none a
    · split at h
      · cases h
        exact .none a
      · cases ha : Access.enforce true r.anonymousAllowed false with
        | error e =>
            rw [ha] at h
            cases h
        | ok x =>
            rw [ha] at h
            cases hf : r.freshContext cs with
            | error e =>
                rw [hf] at h
                cases h
            | ok y =>
                rw [hf] at h
                cases h
                exact freshContext_effect a hf
  · exact noteDenied_effect r a _

theorem getRootContext_effect (r : Registry) (a : Action) (s : SessionId) (cs : List Control) :
    r.Effect a [] (r.getRootContext s cs).2 := by
  simp only [getRootContext]
  split
  · exact .none a
  · split
    · rename_i h
      exact freshContext_effect a h
    · exact .none a

theorem authorizeBind_effect (r : Registry) (a : Action) (b : Bool) :
    r.Effect a [] (r.authorizeBind b).2 := by
  simp only [authorizeBind]
  split
  · exact .none a
  · exact noteDenied_effect r a _

end Registry

namespace Scene

variable {w w' : Scene}

theorem makeHandle_effect (w : Scene) (spec : HandleSpec) (script : List Action) :
    w.registry.Effect (.makeHandle spec script) [] (w.makeHandle spec script).registry := by
  simp only [makeHandle]
  cases spec.token with
  | none => exact .handle spec script _ rfl
  | some name =>
      have hr := Machine.tokenOf_registry w name
      simp only [Registry.makeHandle]
      rw [hr]
      exact .handle spec script _ rfl

theorem answer?_effect {a : Action} {x : Reply} (h : w.answer? a = some (w', x)) :
    w.registry.Effect a (w.events a) w'.registry := by
  cases a with
  | setFlag b =>
      cases h
      exact .flag b
  | makeContext n c =>
      cases h
      rw [Machine.nameContext_registry]
      exact .context _
  | makeHandle spec script =>
      cases h
      exact makeHandle_effect w spec script
  | cancelToken n =>
      cases h
      show w.registry.Effect _ [] ((w.tokenOf n).2.registry.cancelToken (w.tokenOf n).1)
      rw [Machine.tokenOf_registry]
      exact .token n _
  | register s id name =>
      cases hg : w.handleOf? name with
      | none =>
          simp only [answer?, hg, Option.some.injEq, Prod.mk.injEq] at h
          obtain ⟨rfl, -⟩ := h
          simp only [events, hg]
          exact .none _
      | some y =>
          cases hc : w.registry.isClosing s with
          | true =>
              simp only [answer?, hg, Registry.register_refused hc, Option.some.injEq,
                Prod.mk.injEq] at h
              obtain ⟨rfl, -⟩ := h
              simp only [events, hg, hc, if_true]
              exact .none _
          | false =>
              have hr := Registry.register_ok hc id y
              simp only [answer?, hg, hr, Option.some.injEq, Prod.mk.injEq] at h
              obtain ⟨rfl, -⟩ := h
              simp only [events, hg, hc, Bool.false_eq_true, if_false]
              exact .register name hr
  | complete s id =>
      cases hc : w.registry.complete s id with
      | none =>
          simp only [answer?, hc, Option.some.injEq, Prod.mk.injEq] at h
          obtain ⟨rfl, -⟩ := h
          have hl : w.registry.lookup s id = none := by
            simpa [Registry.complete] using hc
          simp only [events, hl]
          exact .none _
      | some y =>
          obtain ⟨y, r⟩ := y
          simp only [answer?, hc, Option.some.injEq, Prod.mk.injEq] at h
          obtain ⟨rfl, -⟩ := h
          simp only [events, (Registry.complete_eq_some hc).1]
          exact .complete hc
  | getContext s cs b n =>
      have hg := Registry.getContext_effect w.registry (.getContext s cs b n) s cs b
      simp only [answer?] at h
      split at h <;> rename_i hr <;> rw [hr] at hg <;> cases h
      · exact hg
      · rw [Machine.nameContext_registry]
        exact hg
      · exact hg
  | getRootContext s cs n =>
      have hg := Registry.getRootContext_effect w.registry (.getRootContext s cs n) s cs
      simp only [answer?] at h
      split at h <;> rename_i hr <;> rw [hr] at hg <;> cases h
      · rw [Machine.nameContext_registry]
        exact hg
      · exact hg
  | setContext s n =>
      simp only [answer?] at h
      split at h <;> cases h
      · exact .none _
      · exact .bind s n _
  | removeContext s =>
      cases h
      exact .unbind s
  | openSession s n =>
      cases h
      rw [Machine.nameToken_registry]
      exact .opened s n
  | authorizeBind s b =>
      have hg := Registry.authorizeBind_effect w.registry (.authorizeBind s b) b
      simp only [answer?] at h
      split at h <;> rename_i hr <;> rw [hr] at hg <;> cases h <;> exact hg
  | cancel n | abandon s id | purge s | closeSession s | terminate s | shutdown => cases h
  | inspect n | same a b | lookup s id | snapshot s | outstanding s | anonymousAllowed
  | isBound s | isEmpty | showConfig =>
      cases h
      exact .none _

end Scene

namespace Machine

variable {m m' : Machine}

/-- What a step writes to the registry, and what it gives rise to. -/
inductive Writes (m : Machine) : List Event → Registry → Prop
  | nothing : Writes m [] m.scene.registry
  | effect {a : Action} {es : List Event} {r : Registry} (ht : m.task = .perform a)
      (he : m.scene.registry.Effect a es r) : Writes m es r
  | ask {name : String} (h : HandleId) (ht : m.task = .perform (.cancel name)) :
      Writes m [.asked h] m.scene.registry
  | takeOut {s : SessionId} {id : RequestId} {h : HandleId} {r : Registry}
      (ht : m.task = .perform (.abandon s id))
      (hb : m.scene.registry.beginAbandon s id = .taken h r) :
      Writes m [.ended s id h .abandoned] r
  | fire {h : HandleId} {why : Purpose} (ht : m.task = .cancel h why) :
      Writes m (m.scene.registry.cancelEvents h) (m.scene.registry.fire h)
  | countAbandoned {x : CancelResult} (ht : m.task = .cancelled x .abandon) :
      Writes m [] m.scene.registry.endAbandon
  | beginPurge {s : SessionId} {next : Teardown} {hs : List HandleId} {r : Registry}
      (ht : m.task = .purge s next) (hb : m.scene.registry.beginPurge s = some (hs, r)) :
      Writes m (m.scene.registry.purgeEvents s) r
  | endPurge {s : SessionId} {n : Nat} {next : Teardown} (ht : m.task = .purging s [] n next) :
      Writes m [] (m.scene.registry.endPurge s n)
  | forget {s : SessionId} {n : Nat} {next : Teardown} (ht : m.task = .purged s n next)
      (hn : next ≠ .purge) : Writes m [] (m.scene.registry.forget s)
  | signal {s : SessionId} {r : Registry} (hc : m.scene.registry.signalClose? s = some r) :
      Writes m [] r

theorem proceed_registry (w : Scene) (l : Level) (ls : List Level) :
    (proceed w l ls).scene.registry = w.registry :=
  (proceed_spec w l ls).1

theorem begin_writes (w : Scene) (a : Action) (ls : List Level) (ha : w.answer? a = none) :
    Writes ⟨w, .perform a, ls⟩ (w.events a) (begin w a ls).scene.registry := by
  cases a with
  | cancel name =>
      cases hg : w.handleOf? name with
      | none =>
          simp only [begin, Scene.events, hg]
          exact .nothing
      | some h =>
          simp only [begin, Scene.events, hg]
          exact .ask h rfl
  | abandon s id =>
      cases hb : w.registry.beginAbandon s id with
      | taken h r =>
          simp only [begin, Scene.events, hb]
          exact .takeOut rfl hb
      | _ =>
          simp only [begin, Scene.events, hb]
          exact .nothing
  | terminate s =>
      cases hc : w.registry.signalClose? s with
      | none =>
          simp only [begin, hc]
          exact .nothing
      | some r =>
          simp only [begin, hc]
          exact .signal hc
  | purge s | closeSession s | shutdown => exact .nothing
  | register _ _ _ | complete _ _ | getContext _ _ _ _ | getRootContext _ _ _ | setContext _ _
  | authorizeBind _ _ =>
      simp only [Scene.answer?] at ha
      grind
  | _ => cases ha

theorem cancelHandle_registry (w : Scene) (h : HandleId) (why : Purpose) (ls : List Level) :
    (cancelHandle w h why ls).scene.registry = w.registry.fire h := by
  simp only [cancelHandle]
  cases hx : w.registry.handle? h with
  | none => simp only [Registry.fire, hx]
  | some x =>
      cases hf : x.fired with
      | true => simp only [Registry.fire, hx, hf, if_true]
      | false =>
          simp only [hf, Bool.false_eq_true, if_false]
          split
          · rfl
          · rw [proceed_registry]
            rfl

theorem cancelHandle_names (w : Scene) (h : HandleId) (why : Purpose) (ls : List Level) :
    (cancelHandle w h why ls).scene.names = w.names := by
  simp only [cancelHandle]
  split
  · rfl
  · split
    · rfl
    · split
      · rfl
      · exact (proceed_spec _ _ _).2.1

theorem cancelHandle_writes (w : Scene) (h : HandleId) (why : Purpose) (ls : List Level) :
    Writes ⟨w, .cancel h why, ls⟩ (w.registry.cancelEvents h)
      (cancelHandle w h why ls).scene.registry := by
  rw [cancelHandle_registry]
  exact .fire rfl

theorem afterPurge_writes (w : Scene) (s : SessionId) (n : Nat) (next : Teardown)
    (ls : List Level) :
    Writes ⟨w, .purged s n next, ls⟩ [] (afterPurge w s n next ls).scene.registry := by
  cases next with
  | purge => exact .nothing
  | _ => exact .forget rfl (by simp)

theorem step_writes (h : m.step = some m') : m.Writes m.events m'.scene.registry := by
  obtain ⟨w, t, ls⟩ := m
  cases t with
  | perform a =>
      cases ha : w.answer? a with
      | none =>
          simp only [step, ha, Option.some.injEq] at h
          subst h
          exact begin_writes w a ls ha
      | some y =>
          simp only [step, ha, Option.some.injEq] at h
          subst h
          exact .effect rfl (Scene.answer?_effect ha)
  | cancel x why =>
      cases h
      exact cancelHandle_writes w x why ls
  | cancelled x why =>
      cases h
      cases why with
      | abandon => exact .countAbandoned rfl
      | _ => exact .nothing
  | purge s next =>
      cases hb : w.registry.beginPurge s with
      | none =>
          simp only [step, hb, Option.some.injEq] at h
          subst h
          have he : w.registry.purgeEvents s = [] := by
            rw [Registry.purgeEvents, Registry.beginPurge_eq_none hb]
            rfl
          simp only [events, he]
          exact .nothing
      | some y =>
          simp only [step, hb, Option.some.injEq] at h
          subst h
          exact .beginPurge rfl hb
  | purging s pending n next =>
      cases pending with
      | nil =>
          cases h
          exact .endPurge rfl
      | cons x xs =>
          cases h
          exact .nothing
  | purged s n next =>
      cases h
      exact afterPurge_writes w s n next ls
  | shuttingDown pending n =>
      cases pending with
      | nil =>
          cases h
          exact .nothing
      | cons s ss =>
          cases hc : w.registry.signalClose? s with
          | none =>
              simp only [step, hc, Option.some.injEq] at h
              subst h
              exact .nothing
          | some r =>
              simp only [step, hc, Option.some.injEq] at h
              subst h
              exact .signal hc
  | sweeping pending n => cases pending <;> cases h <;> exact .nothing
  | reply x =>
      cases ls with
      | nil => cases h
      | cons l ls =>
          cases h
          rw [proceed_registry]
          exact .nothing

end Machine

/-! ## Runs that keep their states -/

/-- From the first state the machine has gone through the others, the last of
which has taken its step or has come to its end. -/
inductive Passed (m₀ : Machine) : List Machine → Machine → Prop
  | refl : Passed m₀ [] m₀
  | step {ms : List Machine} {m m' : Machine} (h : Passed m₀ ms m) (hs : m.step = some m') :
      Passed m₀ (ms ++ [m]) m'
  /-- The operation under way has come to its end, and the next one begins. -/
  | next {ms : List Machine} {m : Machine} (h : Passed m₀ ms m) (hs : m.step = none)
      (a : Action) : Passed m₀ ms ⟨m.scene, .perform a, []⟩

namespace Passed

variable {m₀ m m' : Machine} {ms ms' : List Machine}

/-- The events of a run are those of the states it has gone through. -/
theorem runs (h : Passed m₀ ms m) : Runs m₀ (ms.flatMap Machine.events) m := by
  induction h with
  | refl => exact .refl
  | step h hs ih =>
      rw [List.flatMap_append, List.flatMap_singleton]
      exact ih.step hs
  | next h hs a ih => exact ih.next hs a

theorem trans (h : Passed m₀ ms m) (h' : Passed m ms' m') : Passed m₀ (ms ++ ms') m' := by
  induction h' with
  | refl =>
      rw [List.append_nil]
      exact h
  | step h' hs ih =>
      rw [← List.append_assoc]
      exact ih.step hs
  | next h' hs a ih => exact ih.next hs a

theorem single (hs : m.step = some m') : Passed m [m] m' := Passed.refl.step hs

end Passed

namespace Machine

/-- The states that a machine goes through before it comes to its end. -/
def path (m : Machine) : List Machine :=
  match _h : m.step with
  | some m' => m :: path m'
  | none => []
termination_by (m.weight, m.phase, m.sessions, m.handles)
decreasing_by
  have := step_below _h
  simp only [Prod.lex_def, Below] at this ⊢
  exact this

theorem path_of_step {m m' : Machine} (h : m.step = some m') : m.path = m :: m'.path := by
  rw [path]
  split
  · rename_i m'' hs
    rw [h] at hs
    cases hs
    rfl
  · rename_i hs
    rw [h] at hs
    cases hs

theorem path_of_end {m : Machine} (h : m.step = none) : m.path = [] := by
  rw [path]
  split
  · rename_i m'' hs
    rw [h] at hs
    cases hs
  · rfl

theorem passed_path (m : Machine) : Passed m m.path ⟨m.run.1, .reply m.run.2, []⟩ := by
  cases hs : m.step with
  | none =>
      obtain ⟨w, x, rfl⟩ := step_eq_none hs
      rw [path_of_end hs, run_reply]
      exact .refl
  | some m' =>
      rw [path_of_step hs, run_of_step hs]
      exact (Passed.single hs).trans (passed_path m')
termination_by (m.weight, m.phase, m.sessions, m.handles)
decreasing_by
  have := step_below hs
  simp only [Prod.lex_def, Below] at this ⊢
  exact this

end Machine

namespace Machine

/-- Take so many steps, or as many as there are, and keep the states. -/
def walk : Nat → Machine → List Machine × Machine
  | 0, m => ([], m)
  | n + 1, m => match m.step with
    | some m' => (m :: (walk n m').1, (walk n m').2)
    | none => ([], m)

theorem passed_walk (n : Nat) (m : Machine) : Passed m (walk n m).1 (walk n m).2 := by
  induction n generalizing m with
  | zero => exact .refl
  | succ n ih =>
      cases hs : m.step with
      | none =>
          simp only [walk, hs]
          exact .refl
      | some m' =>
          simp only [walk, hs]
          exact (Passed.single hs).trans (ih m')

theorem path_of_walk {n : Nat} {m : Machine} (h : (walk n m).2.step = none) :
    m.path = (walk n m).1 := by
  induction n generalizing m with
  | zero => exact path_of_end h
  | succ n ih =>
      cases hs : m.step with
      | none =>
          rw [path_of_end hs]
          simp only [walk, hs]
      | some m' =>
          simp only [walk, hs] at h ⊢
          rw [path_of_step hs, ih h]

/-- Begin actions in turn, each when the one before has come to its end, take
so many steps of each, and keep the states. -/
def tour (p : List Machine × Machine) : List (Action × Nat) → List Machine × Machine
  | [] => p
  | (a, n) :: as => match p.2.step with
    | none =>
      let q := walk n ⟨p.2.scene, .perform a, []⟩
      tour (p.1 ++ q.1, q.2) as
    | some _ => p

end Machine

theorem Passed.tour {m₀ : Machine} {p : List Machine × Machine} (h : Passed m₀ p.1 p.2)
    (as : List (Action × Nat)) : Passed m₀ (Machine.tour p as).1 (Machine.tour p as).2 := by
  induction as generalizing p with
  | nil => exact h
  | cons b as ih =>
      obtain ⟨a, n⟩ := b
      simp only [Machine.tour]
      split
      · rename_i hs
        exact ih ((h.next hs a).trans (Machine.passed_walk n _))
      · exact h

end DirectorySessions
