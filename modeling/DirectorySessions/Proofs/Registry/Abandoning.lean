/-
# What abandoning a request comes to

There are three outcomes.  If nothing is outstanding under the number, or what is
cannot be cancelled, the answer says so and nothing has happened.  Otherwise the request is
taken out of the table first and its handle is cancelled afterwards, so that the callback
finds its own request gone and its token cancelled, and whatever it does the answer is the
same.

Nothing is done to the table after the callback.  So what is registered meanwhile
under the same number stays outstanding, unless something that the callback does ends it
(`abandon_has_three_outcomes`).  In between two steps of the abandoning there is either
a callback under way, or nothing left that touches requests (`Machine.Abandoning`).

## How the proof goes

The outcome is a function of the handle that is outstanding (`abandonOutcome`), and nothing
else is looked at.  What happens in between is read off the states that the operation goes
through.  A request that is registered in one of them can only have been registered by a
callback, as the machine itself registers nothing; and it is outstanding in the end unless
an event in one of the later states has ended it (`lookup_of_not_ended`).

All of this is said of an abandoning at any depth.  The callbacks that were under way
before it stay beneath it, and none of them goes on until it has returned.
-/
import DirectorySessions.Proofs.Registry.Endings
import DirectorySessions.Proofs.Registry.Firing

namespace DirectorySessions

namespace Registry

variable {r : Registry} {s : SessionId} {id : RequestId}

theorem beginAbandon_cases (hg : ∀ x, r.lookup s id = some x → r.Knows x) :
    (r.lookup s id = none ∧ r.beginAbandon s id = .notFound) ∨
    (∃ x y, r.lookup s id = some x ∧ r.handle? x = some y ∧ y.cancellable = false ∧
      r.beginAbandon s id = .notCancellable) ∨
    ∃ x y, r.lookup s id = some x ∧ r.handle? x = some y ∧ y.cancellable = true ∧
      r.beginAbandon s id = .taken x (r.setRequests s ((r.requestsOf s).erase id)) := by
  cases hl : r.lookup s id with
  | none => exact Or.inl ⟨rfl, beginAbandon_notFound hl⟩
  | some x =>
      obtain ⟨y, hy⟩ := knows_iff.mp (hg x hl)
      cases hc : y.cancellable with
      | false =>
          refine Or.inr (Or.inl ⟨x, y, rfl, hy, hc, ?_⟩)
          simp [beginAbandon, hl, hy, hc]
      | true =>
          refine Or.inr (Or.inr ⟨x, y, rfl, hy, hc, ?_⟩)
          simp [beginAbandon, hl, hy, hc]

/-- What abandoning a request comes to, as its beginning tells. -/
def abandonOutcome (r : Registry) (s : SessionId) (id : RequestId) : AbandonOutcome :=
  match r.beginAbandon s id with
  | .notFound => .notFound
  | .notCancellable => .notCancellable
  | .taken _ _ => .abandoned

theorem abandonOutcome_eq_notFound (hg : ∀ x, r.lookup s id = some x → r.Knows x) :
    r.abandonOutcome s id = .notFound ↔ r.lookup s id = none := by
  rcases beginAbandon_cases hg with ⟨hl, hb⟩ | ⟨x, y, hl, hy, hc, hb⟩ | ⟨x, y, hl, hy, hc, hb⟩
    <;> simp [abandonOutcome, hb, hl]

theorem abandonOutcome_eq_notCancellable (hg : ∀ x, r.lookup s id = some x → r.Knows x) :
    r.abandonOutcome s id = .notCancellable ↔ ∃ x y, r.lookup s id = some x ∧
      r.handle? x = some y ∧ y.cancellable = false := by
  rcases beginAbandon_cases hg with ⟨hl, hb⟩ | ⟨x, y, hl, hy, hc, hb⟩ | ⟨x, y, hl, hy, hc, hb⟩
    <;> simp [abandonOutcome, *]

theorem abandonOutcome_eq_abandoned (hg : ∀ x, r.lookup s id = some x → r.Knows x) :
    r.abandonOutcome s id = .abandoned ↔ ∃ x y, r.lookup s id = some x ∧
      r.handle? x = some y ∧ y.cancellable = true ∧
      r.beginAbandon s id = .taken x (r.setRequests s ((r.requestsOf s).erase id)) := by
  rcases beginAbandon_cases hg with ⟨hl, hb⟩ | ⟨x, y, hl, hy, hc, hb⟩ | ⟨x, y, hl, hy, hc, hb⟩
    <;> simp [abandonOutcome, *]

end Registry

namespace Machine

variable {m m' z : Machine} {s : SessionId} {id : RequestId} {x : HandleId}

/-! ## The states that an operation goes through -/

/-- A machine goes through the states of its path, and what is left of the path then is the
path of the next state. -/
theorem steps_of_path {ms₁ ms₂ : List Machine} (h : m.path = ms₁ ++ z :: ms₂) :
    ∃ es z', Steps m es z ∧ z.step = some z' ∧ ms₂ = z'.path := by
  induction ms₁ generalizing m with
  | nil =>
      cases hs : m.step with
      | none =>
          rw [path_of_end hs] at h
          cases h
      | some m' =>
          rw [path_of_step hs] at h
          obtain ⟨rfl, rfl⟩ := List.cons.inj h
          exact ⟨[], m', .refl _, hs, rfl⟩
  | cons m₀ ms₁ ih =>
      cases hs : m.step with
      | none =>
          rw [path_of_end hs] at h
          cases h
      | some m' =>
          rw [path_of_step hs] at h
          obtain ⟨es, z', t, hz, hms⟩ := ih (List.cons.inj h).2
          exact ⟨_, z', .head hs t, hz, hms⟩

/-- From each of the states on its path a machine comes to its end. -/
theorem steps_through (hz : z ∈ m.path) :
    ∃ es es', Steps m es z ∧ Steps z es' ⟨m.run.1, .reply m.run.2, []⟩ := by
  obtain ⟨ms₁, ms₂, hms⟩ := List.append_of_mem hz
  obtain ⟨es, z', t, -, -⟩ := steps_of_path hms
  obtain ⟨es', t'⟩ := z.steps_run
  rw [run_of_steps t]
  exact ⟨es, es', t, t'⟩

end Machine

theorem Steps.marked {m m' : Machine} {es : List Event} (t : Steps m es m') (hm : m.Marked) :
    m'.Marked := by
  induction t with
  | refl m => exact hm
  | head hs t ih => exact ih (hm.transition (Machine.step_transition hs))

theorem Transition.lookup_of_registered {m m' : Machine} {es : List Event} {s : SessionId}
    {id : RequestId} {x : HandleId} (h : Transition m m' es) (hin : .registered s id x ∈ es) :
    m'.scene.registry.lookup s id = some x := by
  have hpos := List.count_pos_iff.mpr hin
  cases h with
  | register s₁ id₁ y n hg hr hn hd hp =>
      rw [List.count_append, Registry.count_replacing _ _ _ rfl, Nat.zero_add] at hpos
      cases List.mem_singleton.mp (List.count_pos_iff.mp hpos)
      rw [Registry.lookup_register hr, if_pos ⟨rfl, rfl⟩]
  | cancel y hr hn hd hp =>
      rw [Registry.count_cancelEvents _ _ rfl] at hpos
      exact absurd hpos (Nat.lt_irrefl 0)
  | purge s₁ hs hb hn hd hp =>
      rw [Registry.count_purgeEvents _ _ rfl] at hpos
      exact absurd hpos (Nat.lt_irrefl 0)
  | _ => exact absurd hpos (Nat.lt_irrefl 0)

namespace Machine

variable {m m' z : Machine} {s : SessionId} {id : RequestId} {x : HandleId}

/-- What is outstanding stays so until it ends, with whatever callbacks are under way
beneath. -/
theorem lookup_of_not_ended {ls : List Level} {es : List Event} (t : Steps m es m')
    (hm : (m.onto ls).Marked) (hl : m.scene.registry.lookup s id = some x) :
    m'.scene.registry.lookup s id = some x ∨
      ∃ z ∈ m.path, ∃ how, .ended s id x how ∈ z.events := by
  induction t with
  | refl m => exact Or.inl hl
  | @head m m₁ m' es hs t ih =>
      have htrans := step_transition (step_onto hs ls)
      have hseat : m₁.scene.registry.seat s id x + m.events.countP (Event.ends s id x) =
          m.scene.registry.seat s id x + m.events.count (.registered s id x) :=
        htrans.seat hm s id x
      rw [path_of_step hs]
      by_cases hends : m.events.countP (Event.ends s id x) = 0
      · have hl₁ : m₁.scene.registry.lookup s id = some x := by
          simp only [Registry.seat, hl, if_true] at hseat
          split at hseat
          · assumption
          · omega
        rcases ih (hm.transition htrans) hl₁ with hl' | ⟨z, hz, how, hin⟩
        · exact Or.inl hl'
        · exact Or.inr ⟨z, List.mem_cons_of_mem _ hz, how, hin⟩
      · obtain ⟨e, he, hp⟩ := List.countP_pos_iff.mp (Nat.pos_of_ne_zero hends)
        obtain ⟨how, rfl⟩ := Event.ends_iff.mp hp
        exact Or.inr ⟨m, List.mem_cons_self, how, he⟩

/-! ## What happens in an abandoning -/

/-- A request is being abandoned: the callback is under way that this has set off, at the
bottom of all others, or there is none, and what is done next touches no requests. -/
def Abandoning (m : Machine) : Prop :=
  (∃ ls l, m.levels = ls ++ [l] ∧ l.why = .abandon) ∨
    m.levels = [] ∧ ((∃ x, m.task = .cancel x .abandon) ∨ (∃ r, m.task = .cancelled r .abandon) ∨
      ∃ r, m.task = .reply r)

theorem proceed_levels (w : Scene) (l : Level) (ls : List Level) :
    (∃ l' a, (proceed w l ls).levels = l' :: ls ∧ l'.why = l.why ∧
      (proceed w l ls).task = .perform a) ∨
      (proceed w l ls).levels = ls ∧ ∃ r, (proceed w l ls).task = .cancelled r l.why := by
  simp only [proceed]
  split
  · exact Or.inl ⟨_, _, rfl, rfl, rfl⟩
  · exact Or.inr ⟨rfl, _, rfl⟩

theorem begin_levels (w : Scene) (a : Action) (ls : List Level) : (begin w a ls).levels = ls := by
  simp only [begin]
  split <;> first | rfl | (split <;> rfl)

theorem cancelHandle_levels (w : Scene) (x : HandleId) (why : Purpose) (ls : List Level) :
    (∃ l a, (cancelHandle w x why ls).levels = l :: ls ∧ l.why = why ∧
      (cancelHandle w x why ls).task = .perform a) ∨
      (cancelHandle w x why ls).levels = ls ∧
        ∃ r, (cancelHandle w x why ls).task = .cancelled r why := by
  simp only [cancelHandle]
  split
  · exact Or.inr ⟨rfl, _, rfl⟩
  · split
    · exact Or.inr ⟨rfl, _, rfl⟩
    · split
      · exact Or.inr ⟨rfl, _, rfl⟩
      · exact proceed_levels _ _ _

/-- Is it neither an action, nor the cancelling of a handle, nor the return to a callback? -/
def Task.between : Task → Bool
  | .perform _ | .cancel _ _ | .reply _ => false
  | _ => true

theorem step_between (hs : m.step = some m') (hb : Task.between m.task = true) :
    m'.levels = m.levels ∧ ∀ a, m'.task ≠ .perform a := by
  obtain ⟨w, t, ls⟩ := m
  cases t with
  | perform a => cases hb
  | cancel x why => cases hb
  | reply r => cases hb
  | cancelled r why =>
      cases hs
      cases why <;> exact ⟨rfl, fun _ => Task.noConfusion⟩
  | purge s next =>
      cases hb : w.registry.beginPurge s with
      | none =>
          simp only [step, hb, Option.some.injEq] at hs
          subst hs
          exact ⟨rfl, fun _ => Task.noConfusion⟩
      | some y =>
          simp only [step, hb, Option.some.injEq] at hs
          subst hs
          exact ⟨rfl, fun _ => Task.noConfusion⟩
  | purging s pending n next =>
      cases pending <;> cases hs <;> exact ⟨rfl, fun _ => Task.noConfusion⟩
  | purged s n next =>
      cases hs
      cases next <;> exact ⟨rfl, fun _ => Task.noConfusion⟩
  | shuttingDown pending n =>
      cases pending with
      | nil =>
          cases hs
          exact ⟨rfl, fun _ => Task.noConfusion⟩
      | cons s ss =>
          cases hc : w.registry.signalClose? s with
          | none =>
              simp only [step, hc, Option.some.injEq] at hs
              subst hs
              exact ⟨rfl, fun _ => Task.noConfusion⟩
          | some r =>
              simp only [step, hc, Option.some.injEq] at hs
              subst hs
              exact ⟨rfl, fun _ => Task.noConfusion⟩
  | sweeping pending n => cases pending <;> cases hs <;> exact ⟨rfl, fun _ => Task.noConfusion⟩

/-- A step begins a callback, goes on with the innermost one or ends it, or leaves the
callbacks alone. -/
theorem step_levels (hs : m.step = some m') :
    m'.levels = m.levels ∨ (∃ l, m'.levels = l :: m.levels) ∨
      ∃ l ls, m.levels = l :: ls ∧ ((∃ l', m'.levels = l' :: ls ∧ l'.why = l.why) ∨
        m'.levels = ls ∧ ∃ r, m'.task = .cancelled r l.why) := by
  obtain ⟨w, t, ls⟩ := m
  cases t with
  | perform a =>
      left
      cases ha : w.answer? a with
      | none =>
          simp only [step, ha, Option.some.injEq] at hs
          subst hs
          exact begin_levels w a ls
      | some y =>
          simp only [step, ha, Option.some.injEq] at hs
          subst hs
          rfl
  | cancel x why =>
      cases hs
      rcases cancelHandle_levels w x why ls with ⟨l, a, hl, -⟩ | ⟨hl, -⟩
      · exact Or.inr (Or.inl ⟨l, hl⟩)
      · exact Or.inl hl
  | reply r =>
      cases ls with
      | nil => cases hs
      | cons l ls =>
          cases hs
          refine Or.inr (Or.inr ⟨l, ls, rfl, (proceed_levels _ _ _).imp_left ?_⟩)
          rintro ⟨l', a, hl, hwhy, -⟩
          exact ⟨l', hl, hwhy⟩
  | _ =>
      left
      exact (step_between hs rfl).1

theorem Abandoning.step (h : m.Abandoning) (hs : m.step = some m') : m'.Abandoning := by
  rcases h with ⟨ls, l, hls, hwhy⟩ | ⟨hnone, htask⟩
  · rcases step_levels hs with hl | ⟨l', hl⟩ | ⟨l₀, ls₀, hm, hl⟩
    · exact Or.inl ⟨ls, l, hl.trans hls, hwhy⟩
    · exact Or.inl ⟨l' :: ls, l, by rw [hl, hls, List.cons_append], hwhy⟩
    · -- the innermost callback goes on or ends; it may be the one at the bottom
      rw [hls] at hm
      rcases ls with _ | ⟨l₁, ls⟩
      · obtain ⟨rfl, rfl⟩ := List.cons.inj hm
        rcases hl with ⟨l', hl, hwhy'⟩ | ⟨hl, r, ht⟩
        · exact Or.inl ⟨[], l', hl, hwhy'.trans hwhy⟩
        · rw [hwhy] at ht
          exact Or.inr ⟨hl, Or.inr (Or.inl ⟨r, ht⟩)⟩
      · obtain ⟨rfl, rfl⟩ := List.cons.inj hm
        rcases hl with ⟨l', hl, -⟩ | ⟨hl, -⟩
        · exact Or.inl ⟨l' :: ls, l, hl, hwhy⟩
        · exact Or.inl ⟨ls, l, hl, hwhy⟩
  · obtain ⟨w, t, ls⟩ := m
    dsimp only at hnone htask
    subst hnone
    rcases htask with ⟨x, rfl⟩ | ⟨r, rfl⟩ | ⟨r, rfl⟩
    · cases hs
      rcases cancelHandle_levels w x .abandon [] with ⟨l, a, hl, hwhy, -⟩ | ⟨hl, r, ht⟩
      · exact Or.inl ⟨[], l, hl, hwhy⟩
      · exact Or.inr ⟨hl, Or.inr (Or.inl ⟨r, ht⟩)⟩
    · cases hs
      exact Or.inr ⟨rfl, Or.inr (Or.inr ⟨_, rfl⟩)⟩
    · cases hs

theorem Abandoning.steps {es : List Event} (h : m.Abandoning) (t : Steps m es z) :
    z.Abandoning := by
  induction t with
  | refl => exact h
  | head hs t ih => exact ih (h.step hs)

/-- Only callbacks end registrations while a request is being abandoned. -/
theorem Abandoning.nested (h : m.Abandoning) {how : RequestEnd}
    (hin : .ended s id x how ∈ m.events) : m.levels ≠ [] := by
  obtain ⟨w, t, ls⟩ := m
  rcases h with ⟨ls', l, hls, -⟩ | ⟨-, htask⟩
  · rw [hls]
    exact List.append_ne_nil_of_right_ne_nil _ (List.cons_ne_nil _ _)
  · dsimp only at htask
    rcases htask with ⟨y, rfl⟩ | ⟨r, rfl⟩ | ⟨r, rfl⟩
    · have hnone : (w.registry.cancelEvents y).countP (Event.ends s id x) = 0 :=
        Registry.countP_ends_cancelEvents w.registry y s id x
      exact absurd (Event.ends_iff.mpr ⟨how, rfl⟩) (List.countP_eq_zero.mp hnone _ hin)
    · exact absurd hin List.not_mem_nil
    · exact absurd hin List.not_mem_nil

theorem abandoning_of_begin {w : Scene} (hs : step ⟨w, .perform (.abandon s id), []⟩ = some m) :
    m.Abandoning := by
  refine Or.inr ?_
  simp only [Machine.step, Scene.answer?, begin, Option.some.injEq] at hs
  split at hs <;> cases hs
  · exact ⟨rfl, Or.inr (Or.inr ⟨_, rfl⟩)⟩
  · exact ⟨rfl, Or.inr (Or.inr ⟨_, rfl⟩)⟩
  · exact ⟨rfl, Or.inl ⟨_, rfl⟩⟩

end Machine

namespace Scene

variable {w : Scene} {s : SessionId} {id : RequestId} {x : HandleId}

/-- The states that an operation goes through are gone through also when callbacks are under
way beneath it. -/
theorem passage_onto {a : Action} {z : Machine} (hz : z ∈ w.passage a) (ls : List Level) :
    ∃ es₁ es₂, Steps ⟨w, .perform a, ls⟩ es₁ (z.onto ls) ∧
      Steps (z.onto ls) es₂ ⟨(w.perform a).1, .reply (w.perform a).2, ls⟩ := by
  obtain ⟨es₁, es₂, t₁, t₂⟩ := Machine.steps_through hz
  exact ⟨es₁, es₂, Machine.steps_onto t₁ ls, Machine.steps_onto t₂ ls⟩

/-- A request that is registered while another one is being abandoned is outstanding
afterwards, or a callback has ended it. -/
theorem registered_in_abandoning {ls : List Level}
    (hm : (⟨w, .perform (.abandon s id), ls⟩ : Machine).Marked) {ms₁ ms₂ : List Machine}
    {z : Machine} (hms : w.passage (.abandon s id) = ms₁ ++ z :: ms₂)
    (hin : .registered s id x ∈ z.events) :
    (w.perform (.abandon s id)).1.registry.lookup s id = some x ∨
      ∃ z' ∈ ms₂, z'.levels ≠ [] ∧ ∃ how, .ended s id x how ∈ z'.events := by
  obtain ⟨es, z', t, hs, rfl⟩ := Machine.steps_of_path hms
  obtain ⟨es', t'⟩ := z'.steps_run
  have hend : z'.run = w.perform (.abandon s id) := by
    rw [← Machine.run_of_step hs, ← Machine.run_of_steps t]
    rfl
  rw [hend] at t'
  have hl := (Machine.step_transition hs).lookup_of_registered hin
  have hm' : (z'.onto ls).Marked := (Machine.steps_onto (t.trans (.single hs)) ls).marked hm
  rcases Machine.lookup_of_not_ended t' hm' hl with hl' | ⟨y, hy, how, hended⟩
  · exact Or.inl hl'
  · have habandoning : z'.Abandoning := by
      cases t with
      | refl => exact Machine.abandoning_of_begin hs
      | head hs₁ t₁ => exact ((Machine.abandoning_of_begin hs₁).steps t₁).step hs
    obtain ⟨_, _, t₂, -⟩ := Machine.steps_through hy
    exact Or.inr ⟨y, hy, (habandoning.steps t₂).nested hended, how, hended⟩

end Scene

namespace Machine

variable {w : Scene} {ls : List Level} {s : SessionId} {id : RequestId} {x : HandleId} {y : Handle}

theorem step_abandon_refused (ls : List Level)
    (ho : w.registry.abandonOutcome s id ≠ .abandoned) :
    step ⟨w, .perform (.abandon s id), ls⟩ =
        some ⟨w, .reply (.abandon (w.registry.abandonOutcome s id)), ls⟩ ∧
      w.events (.abandon s id) = [] := by
  simp only [Registry.abandonOutcome] at ho ⊢
  cases hb : w.registry.beginAbandon s id with
  | taken x r => exact absurd (by rw [hb]) ho
  | _ => simp only [step, Scene.answer?, begin, Scene.events, hb, and_self]

theorem perform_abandon_reply (w : Scene) (s : SessionId) (id : RequestId) :
    (w.perform (.abandon s id)).2 = .abandon (w.registry.abandonOutcome s id) := by
  simp only [Registry.abandonOutcome]
  cases hb : w.registry.beginAbandon s id with
  | notFound => rw [Scene.perform_abandon_notFound hb]
  | notCancellable => rw [Scene.perform_abandon_notCancellable hb]
  | taken x r => rw [Scene.perform_abandon hb]

theorem steps_abandon (w : Scene) (s : SessionId) (id : RequestId) (ls : List Level) :
    ∃ es, Steps ⟨w, .perform (.abandon s id), ls⟩ es ⟨(w.perform (.abandon s id)).1,
        .reply (.abandon (w.registry.abandonOutcome s id)), ls⟩ ∧
      (w.registry.abandonOutcome s id ≠ .abandoned →
        (w.perform (.abandon s id)).1 = w ∧ es = []) := by
  by_cases ho : w.registry.abandonOutcome s id = .abandoned
  · obtain ⟨es, t⟩ := steps_perform w (.abandon s id) ls
    rw [perform_abandon_reply] at t
    exact ⟨es, t, fun hne => absurd ho hne⟩
  · obtain ⟨hs, hnone⟩ := step_abandon_refused ls ho
    have hp := perform_of_steps (.single (step_abandon_refused [] ho).1)
    refine ⟨_, ?_, fun _ => ⟨congrArg Prod.fst hp, hnone⟩⟩
    rw [congrArg Prod.fst hp]
    exact .single hs

/-- When a handle is cancelled, it has fired and its token is cancelled before its callback
starts, and requests are as they were. -/
theorem step_cancel_fires (hf : w.registry.Follows) (hy : w.registry.handle? x = some y)
    (why : Purpose) : ∃ m, step ⟨w, .cancel x why, ls⟩ = some m ∧
      (∀ s id, m.scene.registry.lookup s id = w.registry.lookup s id) ∧
      m.scene.registry.HasFired x ∧ y.token ∈ m.scene.registry.cancelled := by
  refine ⟨_, rfl, ?_⟩
  rw [cancelHandle_registry]
  refine ⟨fun s id => ?_, Registry.fire_hasFired (Registry.knows_iff.mpr ⟨y, hy⟩), ?_⟩
  · rw [Registry.lookup_congr (Registry.fire_requests _ _)]
  · exact of_decide_eq_true (hf.isCancelled_fire hy)

theorem mem_called_cancelEvents (hy : w.registry.handle? x = some y) :
    .called x ∈ w.registry.cancelEvents x ↔ y.fired = false ∧ y.callback.isSome = true := by
  rw [← List.count_pos_iff, Registry.count_called_cancelEvents]
  cases hf : y.fired <;> cases hc : y.callback <;> simp [Registry.wouldCall, hy, hf, hc]

/-- A request that is abandoned is out of the table when its handle is cancelled, and so it
is when the callback starts. -/
theorem steps_abandon_taken (hf : w.registry.Follows) (hy : w.registry.handle? x = some y)
    (hb : w.registry.beginAbandon s id =
      .taken x (w.registry.setRequests s ((w.registry.requestsOf s).erase id))) :
    ∃ m₁ m₂, step ⟨w, .perform (.abandon s id), ls⟩ = some m₁ ∧ m₁.task = .cancel x .abandon ∧
      m₁.scene.registry.lookup s id = none ∧
      (.called x ∈ m₁.events ↔ y.fired = false ∧ y.callback.isSome = true) ∧
      m₁.step = some m₂ ∧ m₂.scene.registry.lookup s id = none ∧
      m₂.scene.registry.HasFired x ∧ y.token ∈ m₂.scene.registry.cancelled := by
  have hs : step ⟨w, .perform (.abandon s id), ls⟩ =
      some ⟨w.withRegistry (w.registry.setRequests s ((w.registry.requestsOf s).erase id)),
        .cancel x .abandon, ls⟩ := by
    simp only [step, Scene.answer?, begin, hb]
  have hout : (w.registry.setRequests s ((w.registry.requestsOf s).erase id)).lookup s id =
      none := by
    rw [Registry.lookup_takeOut, if_pos ⟨rfl, rfl⟩]
  have hy' : (w.registry.setRequests s ((w.registry.requestsOf s).erase id)).handle? x =
      some y := hy
  obtain ⟨m₂, hs₂, hlookup, hfired, htoken⟩ :=
    @step_cancel_fires _ ls x y (step_follows hs hf) hy' .abandon
  exact ⟨_, m₂, hs, rfl, hout, mem_called_cancelEvents hy', hs₂, (hlookup s id).trans hout, hfired,
    htoken⟩

end Machine

/-- Whatever callbacks are under way, abandoning a request has one of three outcomes.  It is
not found exactly if nothing is outstanding under its number, and it is not cancellable
exactly if the handle outstanding there is not; then nothing has happened and nothing has
changed.  Otherwise it is abandoned, whatever the callback does: the first step takes the
request out of the table, and the second one fires the handle and cancels its token before
the callback starts.  A request registered meanwhile under the same number is outstanding
when the abandoning returns, unless a callback has ended it after that. -/
theorem abandon_has_three_outcomes {config : RegistryConfig} {allowed : Bool} {es : List Event}
    {m : Machine} (h : Reached config allowed es m) {s : SessionId} {id : RequestId}
    (ht : m.task = .perform (.abandon s id)) :
    ∃ es' outcome, Steps m es'
        ⟨(m.scene.perform (.abandon s id)).1, .reply (.abandon outcome), m.levels⟩ ∧
      (outcome = .notFound ↔ m.scene.registry.lookup s id = none) ∧
      (outcome = .notCancellable ↔ ∃ x y, m.scene.registry.lookup s id = some x ∧
        m.scene.registry.handle? x = some y ∧ y.cancellable = false) ∧
      (outcome ≠ .abandoned → (m.scene.perform (.abandon s id)).1 = m.scene ∧ es' = []) ∧
      (outcome = .abandoned → ∃ x y m₁ m₂, m.scene.registry.lookup s id = some x ∧
        m.scene.registry.handle? x = some y ∧ y.cancellable = true ∧
        m.step = some m₁ ∧ m₁.task = .cancel x .abandon ∧
        m₁.scene.registry.lookup s id = none ∧
        (.called x ∈ m₁.events ↔ y.fired = false ∧ y.callback.isSome = true) ∧
        m₁.step = some m₂ ∧ m₂.scene.registry.lookup s id = none ∧
        m₂.scene.registry.HasFired x ∧ y.token ∈ m₂.scene.registry.cancelled) ∧
      (∀ z ∈ m.scene.passage (.abandon s id), ∃ es₁ es₂, Steps m es₁ (z.onto m.levels) ∧
        Steps (z.onto m.levels) es₂
          ⟨(m.scene.perform (.abandon s id)).1, .reply (.abandon outcome), m.levels⟩) ∧
      ∀ ms₁ z ms₂ x, m.scene.passage (.abandon s id) = ms₁ ++ z :: ms₂ →
        .registered s id x ∈ z.events →
        (m.scene.perform (.abandon s id)).1.registry.lookup s id = some x ∨
          ∃ z' ∈ ms₂, z'.levels ≠ [] ∧ ∃ how, .ended s id x how ∈ z'.events := by
  have hg := h.grounded
  have hm := h.marked
  have hf := h.follows
  obtain ⟨w, t, ls⟩ := m
  dsimp only at ht hg hf ⊢
  subst ht
  have hknown : ∀ x, w.registry.lookup s id = some x → w.registry.Knows x :=
    fun x hl => hg.seated hl
  obtain ⟨es', t, hrefused⟩ := Machine.steps_abandon w s id ls
  refine ⟨es', _, t, Registry.abandonOutcome_eq_notFound hknown,
    Registry.abandonOutcome_eq_notCancellable hknown, hrefused, ?_, ?_, ?_⟩
  · intro ho
    obtain ⟨x, y, hl, hy, hc, hb⟩ := (Registry.abandonOutcome_eq_abandoned hknown).mp ho
    obtain ⟨m₁, m₂, hsteps⟩ := @Machine.steps_abandon_taken w ls s id x y hf hy hb
    exact ⟨x, y, m₁, m₂, hl, hy, hc, hsteps⟩
  · intro z hz
    rw [← Machine.perform_abandon_reply]
    exact Scene.passage_onto hz ls
  · intro ms₁ z ms₂ x hms hin
    exact Scene.registered_in_abandoning hm hms hin

/-- A callback is about to abandon a request whose own callback abandons it as well, finds
it gone, registers another one under its number, which cannot be abandoned, tries that, and
panics. -/
def abandoningWithin : List Event × Machine :=
  Machine.play ([], ⟨.new (.new ⟨"ldap:", .direct⟩ true), .reply .nothing, []⟩)
    [(.makeHandle ⟨"late", ⟨1⟩, "search", false, none, none, none⟩ [], 1),
      (.makeHandle ⟨"first", ⟨1⟩, "search", true, none, none, some (.panics none)⟩
        [.abandon ⟨"s"⟩ ⟨1⟩, .register ⟨"s"⟩ ⟨1⟩ "late", .abandon ⟨"s"⟩ ⟨1⟩], 1),
      (.makeHandle ⟨"outer", ⟨2⟩, "modify", true, none, none, some .returns⟩
        [.abandon ⟨"s"⟩ ⟨1⟩], 1),
      (.register ⟨"s"⟩ ⟨1⟩ "first", 1), (.cancel "outer", 2)]

/-- The request is abandoned although its callback panics, and the one that the callback
has registered is outstanding afterwards. -/
theorem registered_while_abandoned :
    ∃ es m, Steps abandoningWithin.2 es m ∧ m.task = .reply (.abandon .abandoned) ∧
      m.levels.length = 1 ∧ m.scene.registry.lookup ⟨"s"⟩ ⟨1⟩ = some ⟨0⟩ := by
  have h : Reached ⟨"ldap:", .direct⟩ true abandoningWithin.1 abandoningWithin.2 :=
    Runs.refl.play _
  have ht : abandoningWithin.2.task = .perform (.abandon ⟨"s"⟩ ⟨1⟩) := rfl
  obtain ⟨es, outcome, t, hfound, hkept, -, -, -, hstays⟩ := abandon_has_three_outcomes h ht
  have hpath : abandoningWithin.2.scene.passage (.abandon ⟨"s"⟩ ⟨1⟩) =
      (Machine.walk 20 ⟨abandoningWithin.2.scene, .perform (.abandon ⟨"s"⟩ ⟨1⟩), []⟩).1 :=
    Machine.path_of_walk rfl
  -- the callback registers in the fifth state, and in none of those after it that ends
  have hlate := hstays _ _ _ ⟨0⟩ (hpath.trans (List.take_append_drop 4 _).symm) (by decide)
  refine ⟨es, _, t, ?_, rfl, ?_⟩
  · cases outcome with
    | abandoned => rfl
    | notFound => cases hfound.mp rfl
    | notCancellable =>
        obtain ⟨x, y, hx, hy, hc⟩ := hkept.mp rfl
        cases hx
        cases hy
        cases hc
  · rcases hlate with hl | ⟨z, hz, -, how, hin⟩
    · exact hl
    · have hnone : ∀ z ∈ ((Machine.walk 20 ⟨abandoningWithin.2.scene,
          .perform (.abandon ⟨"s"⟩ ⟨1⟩), []⟩).1.drop 5), z.events = [] := by
        decide
      rw [hnone z hz] at hin
      cases hin

end DirectorySessions
