/-
# Callbacks that leave sessions alone

A callback may carry out any action.  Here are the operations during which no callback does
anything to sessions: what callbacks do is to look at things, to make and cancel handles, to
cancel tokens, and to return, fail or panic.  While such callbacks run, at whatever depth, the
tables of the registry stay as they are (`steps_cancel_calm`).  So a purge cancels what it has
taken out and lets go of the session's map, and that is all that happens to the tables
(`steps_purge_calm`).

What counts is what callbacks come to do (`Machine.Calm`), not what is written in them: a
callback that cancels a handle is to blame for what the handle's callback does.  If nothing of
the kind is written in the callbacks of the outstanding handles, nothing of the kind is
done (`Scene.calm_of_harmless`).
-/
import DirectorySessions.Proofs.Registry.Abandoning

namespace DirectorySessions

/-- Does the action do anything to sessions: to their records, to what is bound to them, or
to what is outstanding on them? -/
def Action.meddles : Action → Bool
  | .register .. | .complete .. | .abandon .. | .purge _ | .setContext .. | .removeContext _
  | .openSession .. | .closeSession _ | .terminate _ | .shutdown => true
  | _ => false

namespace Machine

/-- Is a callback about to do something to sessions? -/
def meddles (m : Machine) : Bool :=
  match m.levels, m.task with
  | _ :: _, .perform a => a.meddles
  | _, _ => false

/-- From here to the end no callback does anything to sessions. -/
def Calm (m : Machine) : Prop := ∀ y ∈ m.path, y.meddles = false

variable {m m' : Machine} {es : List Event}

theorem Calm.now (h : m.Calm) (hs : m.step = some m') : m.meddles = false := by
  refine h m ?_
  rw [path_of_step hs]
  exact List.mem_cons_self

theorem Calm.step (h : m.Calm) (hs : m.step = some m') : m'.Calm := by
  intro y hy
  refine h y ?_
  rw [path_of_step hs]
  exact List.mem_cons_of_mem _ hy

theorem Calm.steps (h : m.Calm) (t : Steps m es m') : m'.Calm := by
  induction t with
  | refl => exact h
  | head hs t ih => exact ih (h.step hs)

end Machine

/-! ## What does not go back -/

/-- In the second registry all handles of the first one are there, and whatever has fired or
is cancelled in the first one is so there too. -/
structure Registry.Grows (r r' : Registry) : Prop where
  kept : r.Kept r'
  fired : ∀ {x}, r.HasFired x → r'.HasFired x
  cancelled : ∀ {t}, t ∈ r.cancelled → t ∈ r'.cancelled

namespace Registry

variable {r r' r'' : Registry} {x : HandleId}

theorem grows_refl (r : Registry) : r.Grows r := ⟨kept_refl r, id, id⟩

theorem Grows.trans (h : r.Grows r') (h' : r'.Grows r'') : r.Grows r'' :=
  ⟨kept_trans h.kept h'.kept, fun hf => h'.fired (h.fired hf),
    fun ht => h'.cancelled (h.cancelled ht)⟩

theorem Grows.knows (h : r.Grows r') (hk : r.Knows x) : r'.Knows x := knows_of_kept h.kept hk

theorem Grows.of_hasFired {y : Handle} (h : r.Grows r') (hy : r.handle? x = some y)
    (hf : r'.HasFired x) : r'.handle? x = some { y with fired := true } := by
  obtain ⟨f, hkept⟩ := h.kept x y hy
  obtain ⟨z, hz, hfired⟩ := hf
  rw [hkept] at hz
  cases hz
  cases hfired
  exact hkept

end Registry

theorem Steps.grows {m m' : Machine} {es : List Event} (t : Steps m es m') :
    m.scene.registry.Grows m'.scene.registry := by
  induction t with
  | refl m => exact Registry.grows_refl _
  | head hs t ih =>
      have htrans := Machine.step_transition hs
      refine Registry.Grows.trans ⟨htrans.kept, htrans.hasFired, ?_⟩ ih
      intro token ht
      exact (Machine.step_cancelled hs).mpr (Or.inl ht)

/-! ## What leaves the tables alone -/

/-- Registries with the same records, contexts and request maps. -/
structure Registry.SameTables (r r' : Registry) : Prop where
  records : r'.records = r.records
  contexts : r'.contexts = r.contexts
  requests : r'.requests = r.requests

namespace Registry

variable {r r' r'' : Registry}

theorem sameTables_refl (r : Registry) : r.SameTables r := ⟨rfl, rfl, rfl⟩

theorem SameTables.trans (h : r.SameTables r') (h' : r'.SameTables r'') : r.SameTables r'' :=
  ⟨h'.records.trans h.records, h'.contexts.trans h.contexts, h'.requests.trans h.requests⟩

theorem cancelToken_sameTables (r : Registry) (t : TokenId) : r.SameTables (r.cancelToken t) :=
  ⟨(cancelToken_books r t).2, cancelToken_contexts r t, cancelToken_requests r t⟩

theorem fire_sameTables (r : Registry) (x : HandleId) : r.SameTables (r.fire x) :=
  ⟨(fire_books r x).2, fire_contexts r x, fire_requests r x⟩

theorem Effect.sameTables {a : Action} {es : List Event} (he : r.Effect a es r')
    (ha : a.meddles = false) : r.SameTables r' := by
  cases he with
  | token name t => exact cancelToken_sameTables r t
  | register name hr => cases ha
  | complete hc => cases ha
  | bind s name c => cases ha
  | unbind s => cases ha
  | opened s name => cases ha
  | _ => exact ⟨rfl, rfl, rfl⟩

end Registry

theorem Scene.cancel_of_answer?_eq_none {w : Scene} {a : Action} (h : w.answer? a = none)
    (ha : a.meddles = false) : ∃ name, a = .cancel name := by
  cases a with
  | cancel name => exact ⟨name, rfl⟩
  | getContext _ _ _ _ | getRootContext _ _ _ | authorizeBind _ _ =>
      simp only [answer?] at h
      grind
  | register _ _ _ | complete _ _ | abandon _ _ | purge _ | setContext _ _ | closeSession _
  | terminate _ | shutdown => cases ha
  | _ => cases h

namespace Machine

variable {m m' : Machine} {w : Scene} {x : HandleId} {why : Purpose} {es : List Event}

/-- Callbacks are under way: at the bottom that of a handle which is cancelled for this
purpose, above it those of handles which other callbacks cancel, and nothing else. -/
structure Within (why : Purpose) (m : Machine) : Prop where
  levels : ∃ ls l, m.levels = ls ++ [l] ∧ l.why = why ∧ ∀ k ∈ ls, k.why = .direct
  task : (∃ a, m.task = .perform a) ∨ (∃ x, m.task = .cancel x .direct) ∨
    (∃ r, m.task = .cancelled r .direct) ∨ ∃ r, m.task = .reply r

theorem Within.proceed {ls : List Level} {l : Level} (h : ∃ ls' l', l :: ls = ls' ++ [l'] ∧
      l'.why = why ∧ ∀ k ∈ ls', k.why = .direct) (w : Scene) (r : Reply) :
    Within why (proceed w { l with replies := r :: l.replies } ls) ∨
      (proceed w { l with replies := r :: l.replies } ls).levels = [] ∧
        ∃ r', (proceed w { l with replies := r :: l.replies } ls).task = .cancelled r' why := by
  obtain ⟨ls', l', hls, hwhy, hall⟩ := h
  have hgo := proceed_levels w { l with replies := r :: l.replies } ls
  generalize Machine.proceed w { l with replies := r :: l.replies } ls = m at hgo ⊢
  rcases ls' with _ | ⟨k, ks⟩
  · -- the callback is the one at the bottom
    obtain ⟨rfl, rfl⟩ := List.cons.inj hls
    rcases hgo with ⟨l₁, a, hl, hwhy₁, ht⟩ | ⟨hl, r', ht⟩
    · exact Or.inl ⟨⟨[], l₁, hl, hwhy₁.trans hwhy, List.forall_mem_nil _⟩, Or.inl ⟨a, ht⟩⟩
    · refine Or.inr ⟨hl, r', ?_⟩
      rw [ht]
      exact congrArg (Task.cancelled r') hwhy
  · obtain ⟨rfl, rfl⟩ := List.cons.inj hls
    have hdirect : l.why = .direct := hall l List.mem_cons_self
    have hrest : ∀ k ∈ ks, k.why = .direct := fun k hk => hall k (List.mem_cons_of_mem _ hk)
    rcases hgo with ⟨l₁, a, hl, hwhy₁, ht⟩ | ⟨hl, r', ht⟩
    · refine Or.inl ⟨⟨l₁ :: ks, l', hl, hwhy, ?_⟩, Or.inl ⟨a, ht⟩⟩
      exact List.forall_mem_cons.mpr ⟨hwhy₁.trans hdirect, hrest⟩
    · refine Or.inl ⟨⟨ks, l', hl, hwhy, hrest⟩, Or.inr (Or.inr (Or.inl ⟨r', ?_⟩))⟩
      rw [ht]
      exact congrArg (Task.cancelled r') hdirect

/-- A step of callbacks that leave sessions alone keeps the tables.  They go on, or the one
at the bottom ends. -/
theorem Within.step (h : m.Within why) (hq : m.meddles = false) (hs : m.step = some m') :
    m.scene.registry.SameTables m'.scene.registry ∧
      (m'.Within why ∨ m'.levels = [] ∧ ∃ r, m'.task = .cancelled r why) := by
  obtain ⟨w, t, ls⟩ := m
  obtain ⟨hlevels, htask⟩ := h
  dsimp only at hlevels htask
  rcases htask with ⟨a, rfl⟩ | ⟨x, rfl⟩ | ⟨r, rfl⟩ | ⟨r, rfl⟩
  · have ha : a.meddles = false := by
      obtain ⟨ls', l, rfl, -⟩ := hlevels
      cases ls' <;> exact hq
    cases hans : w.answer? a with
    | some y =>
        simp only [Machine.step, hans, Option.some.injEq] at hs
        subst hs
        exact ⟨(Scene.answer?_effect hans).sameTables ha,
          Or.inl ⟨hlevels, Or.inr (Or.inr (Or.inr ⟨_, rfl⟩))⟩⟩
    | none =>
        obtain ⟨name, rfl⟩ := Scene.cancel_of_answer?_eq_none hans ha
        simp only [Machine.step, hans, begin, Option.some.injEq] at hs
        split at hs
        · subst hs
          exact ⟨Registry.sameTables_refl _, Or.inl ⟨hlevels, Or.inr (Or.inl ⟨_, rfl⟩)⟩⟩
        · subst hs
          exact ⟨Registry.sameTables_refl _,
            Or.inl ⟨hlevels, Or.inr (Or.inr (Or.inr ⟨_, rfl⟩))⟩⟩
  · cases hs
    rw [cancelHandle_registry]
    refine ⟨Registry.fire_sameTables _ _, Or.inl ?_⟩
    rcases cancelHandle_levels w x .direct ls with ⟨l', a, hl, hwhy', ht⟩ | ⟨hl, r, ht⟩
    · obtain ⟨ls', l, rfl, hwhy, hall⟩ := hlevels
      refine ⟨⟨l' :: ls', l, hl, hwhy, ?_⟩, Or.inl ⟨a, ht⟩⟩
      exact List.forall_mem_cons.mpr ⟨hwhy', hall⟩
    · exact ⟨by rwa [hl], Or.inr (Or.inr (Or.inl ⟨r, ht⟩))⟩
  · cases hs
    exact ⟨Registry.sameTables_refl _, Or.inl ⟨hlevels, Or.inr (Or.inr (Or.inr ⟨_, rfl⟩))⟩⟩
  · cases ls with
    | nil => cases hs
    | cons l ls =>
        cases hs
        rw [proceed_registry]
        exact ⟨Registry.sameTables_refl _, Within.proceed hlevels w r⟩

/-- Callbacks that leave sessions alone come to their end, and the tables are as before. -/
theorem Within.steps (h : m.Within why) (hcalm : m.Calm) :
    ∃ es w r, Steps m es ⟨w, .cancelled r why, []⟩ ∧
      m.scene.registry.SameTables w.registry := by
  obtain ⟨es, t⟩ := m.steps_run
  generalize hend : (⟨m.run.1, .reply m.run.2, []⟩ : Machine) = z at t
  have hlast : z.levels = [] := by rw [← hend]
  clear hend
  induction t with
  | refl m =>
      obtain ⟨ls, l, hls, -⟩ := h.levels
      rw [hls] at hlast
      exact absurd hlast (List.append_ne_nil_of_right_ne_nil _ (List.cons_ne_nil _ _))
  | @head m m' _ _ hs t ih =>
      obtain ⟨htables, hnext⟩ := h.step (hcalm.now hs) hs
      rcases hnext with h' | ⟨hl, r, ht⟩
      · obtain ⟨es, w, r, t', htables'⟩ := ih h' (hcalm.step hs) hlast
        exact ⟨_, w, r, .head hs t', htables.trans htables'⟩
      · obtain ⟨w, task, ls⟩ := m'
        dsimp only at hl ht
        subst hl
        subst ht
        exact ⟨_, w, r, .single hs, htables⟩

/-- While a handle is cancelled whose callback leaves sessions alone, the tables stay as they
are. -/
theorem steps_cancel_calm (hcalm : Calm ⟨w, .cancel x why, []⟩) :
    ∃ es w' r, Steps ⟨w, .cancel x why, []⟩ es ⟨w', .cancelled r why, []⟩ ∧
      w.registry.SameTables w'.registry ∧ (w.registry.Knows x → w'.registry.HasFired x) := by
  have hs : step ⟨w, .cancel x why, []⟩ = some (cancelHandle w x why []) := rfl
  have htables : w.registry.SameTables (cancelHandle w x why []).scene.registry := by
    rw [cancelHandle_registry]
    exact Registry.fire_sameTables _ _
  have hfires : w.registry.Knows x → (cancelHandle w x why []).scene.registry.HasFired x := by
    rw [cancelHandle_registry]
    exact Registry.fire_hasFired
  have hrest := hcalm.step hs
  have hlevels := cancelHandle_levels w x why []
  generalize cancelHandle w x why [] = m at hs htables hfires hrest hlevels
  rcases hlevels with ⟨l, a, hl, hwhy, ht⟩ | ⟨hl, r, ht⟩
  · have hin : m.Within why := ⟨⟨[], l, hl, hwhy, List.forall_mem_nil _⟩, Or.inl ⟨a, ht⟩⟩
    obtain ⟨es, w', r, t, htables'⟩ := hin.steps hrest
    exact ⟨_, w', r, .head hs t, htables.trans htables', fun hk => t.grows.fired (hfires hk)⟩
  · obtain ⟨w', task, ls⟩ := m
    dsimp only at hl ht
    subst hl
    subst ht
    exact ⟨_, w', r, .single hs, htables, hfires⟩

/-! ## Purges -/

variable {s : SessionId} {next : Teardown}

theorem steps_purging_calm {hs : List HandleId} {n : Nat}
    (hcalm : Calm ⟨w, .purging s hs n next, []⟩) :
    ∃ es w' n', Steps ⟨w, .purging s hs n next, []⟩ es ⟨w', .purging s [] n' next, []⟩ ∧
      w.registry.SameTables w'.registry ∧
      ∀ x ∈ hs, w.registry.Knows x → w'.registry.HasFired x := by
  induction hs generalizing w n with
  | nil => exact ⟨[], w, n, .refl _, Registry.sameTables_refl _, List.forall_mem_nil _⟩
  | cons x hs ih =>
      have hcalm₁ : Calm ⟨w, .cancel x (.purge s hs n next), []⟩ := hcalm.step rfl
      obtain ⟨es₁, w₁, r, t₁, htables₁, hfired₁⟩ := steps_cancel_calm hcalm₁
      have t : Steps ⟨w, .purging s (x :: hs) n next, []⟩ _
          ⟨w₁, .purging s hs (if r.counts then n + 1 else n) next, []⟩ :=
        .head rfl (t₁.trans (.single rfl))
      obtain ⟨es₂, w', n', t₂, htables₂, hfired₂⟩ := ih (hcalm.steps t)
      refine ⟨_, w', n', t.trans t₂, htables₁.trans htables₂, ?_⟩
      intro y hy hk
      rcases List.mem_cons.mp hy with rfl | hy
      · exact t₂.grows.fired (hfired₁ hk)
      · exact hfired₂ y hy (t₁.grows.knows hk)

/-- A purge whose callbacks leave sessions alone lets go of the map of its session, and
changes no table otherwise.  What was outstanding has fired. -/
theorem steps_purge_calm (hc : w.registry.isClosing s = false)
    (hcalm : Calm ⟨w, .purge s next, []⟩) :
    ∃ es w' n, Steps ⟨w, .purge s next, []⟩ es ⟨w', .purged s n next, []⟩ ∧
      w'.registry.records = w.registry.records ∧ w'.registry.contexts = w.registry.contexts ∧
      (∀ s', w'.registry.requests.get? s' =
        if s = s' then none else w.registry.requests.get? s') ∧
      ∀ id x, w.registry.lookup s id = some x → w.registry.Knows x → w'.registry.HasFired x := by
  cases hb : w.registry.beginPurge s with
  | none =>
      have hs : step ⟨w, .purge s next, []⟩ = some ⟨w, .purged s 0 next, []⟩ := by
        simp only [step, hb]
      have habsent : w.registry.requests.get? s = none := by
        have hp : w.purge s = (w, 0) := by simp only [Scene.purge, hb]
        have := Scene.purge_absent hc
        rwa [hp] at this
      refine ⟨_, w, 0, .single hs, rfl, rfl, ?_, ?_⟩
      · intro s'
        split
        · rename_i he
          rw [← he]
          exact habsent
        · rfl
      · intro id x hl
        rw [Registry.lookup_eq_none (Registry.requestsOf_of_absent habsent)] at hl
        cases hl
  | some y =>
      obtain ⟨hs, r⟩ := y
      have hstep : step ⟨w, .purge s next, []⟩ =
          some ⟨w.withRegistry r, .purging s hs 0 next, []⟩ := by
        simp only [step, hb]
      have hvalues := Registry.beginPurge_values hb
      obtain ⟨map, -, -, rfl⟩ := Registry.beginPurge_eq_some hb
      obtain ⟨es, w', n, t, htables, hfired⟩ := steps_purging_calm (hcalm.step hstep)
      refine ⟨_, w'.withRegistry (w'.registry.endPurge s n), n, .head hstep (t.trans (.single rfl)),
        htables.records, htables.contexts, ?_, ?_⟩
      · intro s'
        show (w'.registry.endPurge s n).requests.get? s' = _
        rw [Registry.requests_endPurge, htables.requests]
        show (if s = s' then none else (w.registry.requests.insert s .closing).get? s') = _
        rw [Table.get?_insert]
        split <;> rfl
      · intro id x hl hk
        have hin : x ∈ hs := by
          rw [hvalues]
          exact List.mem_map.mpr ⟨_, Table.mem_of_get? hl, rfl⟩
        exact hfired x hin hk

end Machine

/-! ## Callbacks in which nothing of the kind is written -/

/-- Is the action neither one on sessions nor one that cancels a handle? -/
def Action.harmless : Action → Bool
  | .cancel _ => false
  | a => !a.meddles

def Handle.harmless (y : Handle) : Bool := y.callback.all fun c => c.script.all Action.harmless

/-- The handle was made, and is harmless. -/
def Registry.Harmless (r : Registry) (x : HandleId) : Prop :=
  ∃ y, r.handle? x = some y ∧ y.harmless = true

namespace Registry

variable {r r' : Registry} {x : HandleId}

theorem Harmless.kept (h : r.Harmless x) (hk : r.Kept r') : r'.Harmless x := by
  obtain ⟨y, hy, hharmless⟩ := h
  obtain ⟨f, hf⟩ := hk x y hy
  exact ⟨_, hf, hharmless⟩

theorem harmless_of_all (hall : ∀ y ∈ r.handles, y.harmless = true) (hk : r.Knows x) :
    r.Harmless x := by
  obtain ⟨y, hy⟩ := knows_iff.mp hk
  exact ⟨y, hy, hall y (List.mem_of_getElem? hy)⟩

end Registry

theorem Action.meddles_of_harmless {a : Action} (h : a.harmless = true) : a.meddles = false := by
  cases a <;> first | rfl | cases h

namespace Machine

variable {m m' : Machine} {w : Scene} {x : HandleId} {es : List Event}

theorem task_of_asked (hs : m.step = some m') (hin : .asked x ∈ m.events) :
    ∃ name, m.task = .perform (.cancel name) ∧ m.scene.handleOf? name = some x := by
  have hw := step_writes hs
  have hpos := List.count_pos_iff.mpr hin
  obtain ⟨name, ht⟩ : ∃ name, m.task = .perform (.cancel name) := by
    generalize m.events = es at hw hpos
    generalize m'.scene.registry = r at hw
    cases hw with
    | ask y ht => exact ⟨_, ht⟩
    | effect ht he =>
        cases he with
        | register name hr =>
            rw [List.count_append, Registry.count_replacing _ _ _ rfl] at hpos
            exact absurd hpos (Nat.lt_irrefl 0)
        | _ => exact absurd hpos (Nat.lt_irrefl 0)
    | fire ht =>
        rw [Registry.count_cancelEvents _ _ rfl] at hpos
        exact absurd hpos (Nat.lt_irrefl 0)
    | beginPurge ht hb =>
        rw [Registry.count_purgeEvents _ _ rfl] at hpos
        exact absurd hpos (Nat.lt_irrefl 0)
    | _ => exact absurd hpos (Nat.lt_irrefl 0)
  refine ⟨name, ht, ?_⟩
  simp only [events, ht, Scene.events] at hin
  split at hin
  · next y hg =>
    cases List.mem_singleton.mp hin
    exact hg
  · cases hin

/-- If nothing is registered, what is outstanding or about to be cancelled was so before, or is
what somebody asks to be cancelled. -/
theorem step_seated {Q : HandleId → Prop} (hs : m.step = some m')
    (hregister : ∀ s, m.registersOn s = false)
    (hask : ∀ name x, m.task = .perform (.cancel name) → m.scene.handleOf? name = some x → Q x)
    (hseated : ∀ s id x, m.scene.registry.lookup s id = some x → Q x)
    (hwaits : ∀ x ∈ m.waiting, Q x) :
    (∀ s id x, m'.scene.registry.lookup s id = some x → Q x) ∧ ∀ x ∈ m'.waiting, Q x := by
  have htrans := step_transition hs
  constructor
  · intro s id x hl
    have hnot : .registered s id x ∉ m.events := by
      intro hin
      have hon := task_of_registration hin (Or.inl rfl)
      rw [hregister s] at hon
      cases hon
    exact hseated s id x (htrans.lookup_of_not_registered hnot hl)
  · intro x hx
    rcases htrans.waiting_cases hx with hw | ⟨hin, -⟩ | ⟨s, id, hl⟩
    · exact hwaits x hw
    · obtain ⟨name, ht, hg⟩ := task_of_asked hs hin
      exact hask name x ht hg
    · exact hseated s id x hl

/-- What is outstanding or about to be cancelled stays harmless, if nothing is registered and
nobody asks for a handle to be cancelled. -/
theorem harmless_step (hs : m.step = some m') (hregister : ∀ s, m.registersOn s = false)
    (hask : ∀ name, m.task ≠ .perform (.cancel name))
    (hseated : ∀ s id x, m.scene.registry.lookup s id = some x → m.scene.registry.Harmless x)
    (hwaits : ∀ x ∈ m.waiting, m.scene.registry.Harmless x) :
    (∀ s id x, m'.scene.registry.lookup s id = some x → m'.scene.registry.Harmless x) ∧
      ∀ x ∈ m'.waiting, m'.scene.registry.Harmless x := by
  have hkept := (step_transition hs).kept
  exact step_seated hs hregister (fun name x ht => absurd ht (hask name))
    (fun s id x hl => (hseated s id x hl).kept hkept) fun x hx => (hwaits x hx).kept hkept

/-- Only harmless actions are left to carry out, for the callbacks under way and for those of
handles that are outstanding or about to be cancelled. -/
structure Tame (m : Machine) : Prop where
  seated : ∀ s id x, m.scene.registry.lookup s id = some x → m.scene.registry.Harmless x
  waits : ∀ x ∈ m.waiting, m.scene.registry.Harmless x
  pending : ∀ l ∈ m.levels, ∀ a ∈ l.pending, a.harmless = true
  task : ∀ a, m.task = .perform a → a.harmless = true

theorem Tame.meddles (h : m.Tame) : m.meddles = false := by
  simp only [Machine.meddles]
  split
  · rename_i ht
    exact Action.meddles_of_harmless (h.task _ ht)
  · rfl

theorem pending_proceed {P : Action → Prop} {l : Level} {ls : List Level}
    (hall : ∀ k ∈ l :: ls, ∀ a ∈ k.pending, P a) (w : Scene) :
    (∀ k ∈ (proceed w l ls).levels, ∀ a ∈ k.pending, P a) ∧
      ∀ a, (proceed w l ls).task = .perform a → P a := by
  obtain ⟨hl, hls⟩ := List.forall_mem_cons.mp hall
  simp only [proceed]
  split
  · rename_i a as he
    rw [he] at hl
    obtain ⟨ha, has⟩ := List.forall_mem_cons.mp hl
    refine ⟨List.forall_mem_cons.mpr ⟨has, hls⟩, ?_⟩
    intro b hb
    cases hb
    exact ha
  · exact ⟨hls, fun _ => Task.noConfusion⟩

/-- An action that comes next, or later for the callbacks under way, was left to them before or
is written in the callback of the handle that is cancelled. -/
theorem step_pending {P : Action → Prop} (hs : m.step = some m')
    (hpending : ∀ l ∈ m.levels, ∀ a ∈ l.pending, P a)
    (hscript : ∀ x why y c, m.task = .cancel x why → m.scene.registry.handle? x = some y →
      y.fired = false → y.callback = some c → ∀ a ∈ c.script, P a) :
    (∀ l ∈ m'.levels, ∀ a ∈ l.pending, P a) ∧ ∀ a, m'.task = .perform a → P a := by
  obtain ⟨w, t, ls⟩ := m
  cases t with
  | perform a =>
      cases hans : w.answer? a with
      | some y =>
          simp only [Machine.step, hans, Option.some.injEq] at hs
          subst hs
          exact ⟨hpending, fun _ => Task.noConfusion⟩
      | none =>
          simp only [Machine.step, hans, Option.some.injEq] at hs
          subst hs
          rw [begin_levels]
          refine ⟨hpending, ?_⟩
          intro b hb
          simp only [begin] at hb
          split at hb <;> first | cases hb | (split at hb <;> cases hb)
  | cancel x why =>
      cases hs
      simp only [cancelHandle]
      split
      · exact ⟨hpending, fun _ => Task.noConfusion⟩
      · rename_i y hy
        split
        · exact ⟨hpending, fun _ => Task.noConfusion⟩
        · rename_i hf
          split
          · exact ⟨hpending, fun _ => Task.noConfusion⟩
          · rename_i c hc
            refine pending_proceed (List.forall_mem_cons.mpr ⟨?_, hpending⟩) _
            exact hscript x why y c rfl hy (Bool.eq_false_iff.mpr hf) hc
  | reply r =>
      cases ls with
      | nil => cases hs
      | cons l ls =>
          cases hs
          obtain ⟨hl, hls⟩ := List.forall_mem_cons.mp hpending
          exact pending_proceed (l := { l with replies := r :: l.replies })
            (List.forall_mem_cons.mpr ⟨hl, hls⟩) w
  | _ =>
      obtain ⟨hl, hnot⟩ := step_between hs rfl
      rw [hl]
      exact ⟨hpending, fun a ht => absurd ht (hnot a)⟩

theorem mem_waiting_of_cancel {why : Purpose} (ht : m.task = .cancel x why) : x ∈ m.waiting := by
  simp only [waiting, ht, Task.waiting]
  exact List.mem_cons_self

theorem Tame.step (h : m.Tame) (hs : m.step = some m') : m'.Tame := by
  have hregister : ∀ s, m.registersOn s = false := by
    intro s
    simp only [registersOn]
    split
    · rename_i ht
      cases h.task _ ht
    · rfl
  have hask : ∀ name, m.task ≠ .perform (.cancel name) := by
    intro name ht
    cases h.task _ ht
  obtain ⟨hseated, hwaits⟩ := harmless_step hs hregister hask h.seated h.waits
  obtain ⟨hpending, htask⟩ := step_pending (P := fun a => a.harmless = true) hs h.pending (by
    intro x why y c ht hy hf hc
    obtain ⟨y', hy', hharmless⟩ := h.waits x (mem_waiting_of_cancel ht)
    cases hy.symm.trans hy'
    rw [Handle.harmless, hc] at hharmless
    exact List.all_eq_true.mp hharmless)
  exact ⟨hseated, hwaits, hpending, htask⟩

theorem Tame.steps (h : m.Tame) (t : Steps m es m') : m'.Tame := by
  induction t with
  | refl => exact h
  | head hs t ih => exact ih (h.step hs)

theorem Tame.calm (h : m.Tame) : m.Calm := by
  intro y hy
  obtain ⟨es, -, t, -⟩ := steps_through hy
  exact (h.steps t).meddles

end Machine

/-- If the callbacks of all outstanding handles have harmless actions only, an operation that
is not itself the cancelling of some handle goes by without a callback that does anything to
sessions. -/
theorem Scene.calm_of_harmless {w : Scene} {a : Action}
    (hall : ∀ s id x, w.registry.lookup s id = some x → w.registry.Harmless x)
    (ha : ∀ name, a ≠ .cancel name) : Machine.Calm ⟨w, .perform a, []⟩ := by
  cases hans : w.answer? a with
  | some y =>
      have hs : Machine.step ⟨w, .perform a, []⟩ = some ⟨y.1, .reply y.2, []⟩ := by
        simp only [Machine.step, hans]
      intro z hz
      rw [Machine.path_of_step hs, Machine.path_of_end rfl] at hz
      cases List.mem_singleton.mp hz
      rfl
  | none =>
      have hs : Machine.step ⟨w, .perform a, []⟩ = some (Machine.begin w a []) := by
        simp only [Machine.step, hans]
      have hregister : ∀ s, Machine.registersOn s ⟨w, .perform a, []⟩ = false := by
        intro s
        simp only [Machine.registersOn]
        split
        · rename_i ht
          cases ht
          simp only [answer?] at hans
          grind
        · rfl
      have hask : ∀ name, Task.perform a ≠ .perform (.cancel name) := by
        intro name ht
        cases ht
        exact ha name rfl
      obtain ⟨hseated, hwaits⟩ :=
        Machine.harmless_step hs hregister hask hall (List.forall_mem_nil _)
      have hbegun : (Machine.begin w a []).Tame := by
        refine ⟨hseated, hwaits, ?_, ?_⟩
        · rw [Machine.begin_levels]
          exact List.forall_mem_nil _
        · intro b hb
          simp only [Machine.begin] at hb
          split at hb <;> first | cases hb | (split at hb <;> cases hb)
      intro z hz
      rw [Machine.path_of_step hs] at hz
      rcases List.mem_cons.mp hz with rfl | hz
      · rfl
      · exact hbegun.calm z hz

end DirectorySessions
