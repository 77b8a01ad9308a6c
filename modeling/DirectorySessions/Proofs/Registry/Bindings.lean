/-
# What is bound to a session

The table of bound contexts changes in two ways only: a context is bound to a
session, in place of what was bound to it before; or what is bound to a session is
dropped, because someone asks for it or because the session is closed.  Both are
read off the states that an operation goes through (`Machine.binding?`), and no
step does anything else to the table (`Machine.step_contexts`), so that at any
moment, also one within a callback, the context bound to a session is the one that
was bound to it last and not dropped since (`Passed.contexts`, `get?_foldl_apply`).

In particular, asking for a context binds none.

So the bound contexts after a run are a fold over the changes that it made,
whatever else it did, and what is bound to a session can be traced back to the
state in which it was bound (`Passed.before`).
-/
import DirectorySessions.Proofs.Registry.Passages

namespace DirectorySessions

/-- A change to the bound contexts. -/
inductive Binding where
  | bound (s : SessionId) (x : SharedContext)
  /-- What is bound to the session, if anything, is dropped. -/
  | dropped (s : SessionId)
deriving DecidableEq

namespace Binding

def session : Binding → SessionId
  | .bound s _ => s
  | .dropped s => s

def apply (t : Table SessionId SharedContext) : Binding → Table SessionId SharedContext
  | .bound s x => t.insert s x
  | .dropped s => t.erase s

/-- The context was bound to the session, and nothing was bound to it or dropped after. -/
def Last (s : SessionId) (x : SharedContext) (bs : List Binding) : Prop :=
  ∃ bs₁ bs₂, bs = bs₁ ++ .bound s x :: bs₂ ∧ ∀ b ∈ bs₂, b.session ≠ s

/-- What is bound to the session after the changes, given what was bound before: what was
bound last, or what was there, if the session was left alone. -/
def Holds (t : Table SessionId SharedContext) (bs : List Binding) (s : SessionId)
    (x : SharedContext) : Prop :=
  Last s x bs ∨ t.get? s = some x ∧ ∀ b ∈ bs, b.session ≠ s

variable {t : Table SessionId SharedContext} {bs : List Binding} {b : Binding} {s : SessionId}
  {x : SharedContext}

theorem last_cons :
    Last s x (b :: bs) ↔ Last s x bs ∨ b = .bound s x ∧ ∀ b' ∈ bs, b'.session ≠ s := by
  constructor
  · rintro ⟨bs₁, bs₂, he, hrest⟩
    cases bs₁ with
    | nil =>
        cases he
        exact Or.inr ⟨rfl, hrest⟩
    | cons b₁ bs₁ =>
        cases he
        exact Or.inl ⟨bs₁, bs₂, rfl, hrest⟩
  · rintro (⟨bs₁, bs₂, rfl, hrest⟩ | ⟨rfl, hrest⟩)
    · exact ⟨b :: bs₁, bs₂, rfl, hrest⟩
    · exact ⟨[], bs, rfl, hrest⟩

/-- Made in turn, the changes leave what was bound last. -/
theorem get?_foldl_apply : (bs.foldl apply t).get? s = some x ↔ Holds t bs s x := by
  induction bs generalizing t with
  | nil => simp [Holds, Last]
  | cons b bs ih =>
      rw [List.foldl_cons, ih, Holds, Holds, last_cons]
      cases b with
      | bound s' x' =>
          simp only [apply, Table.get?_insert, List.forall_mem_cons, session]
          grind
      | dropped s' =>
          simp only [apply, Table.get?_erase, List.forall_mem_cons, session]
          grind

end Binding

/-! ## Parts of the registry that bind nothing -/

namespace Registry

variable {r r' : Registry} {s : SessionId} {id : RequestId} {h : HandleId}

theorem cancelToken_contexts (r : Registry) (t : TokenId) :
    (r.cancelToken t).contexts = r.contexts := by
  simp only [cancelToken]
  split <;> rfl

theorem fire_contexts (r : Registry) (h : HandleId) : (r.fire h).contexts = r.contexts := by
  simp only [fire]
  split
  · split
    · rfl
    · exact cancelToken_contexts r _
  · rfl

theorem register_contexts (hr : r.register s id h = .ok r') : r'.contexts = r.contexts := by
  rw [register_ok (not_closing_of_register hr)] at hr
  cases hr
  rfl

theorem complete_contexts (hc : r.complete s id = some (h, r')) : r'.contexts = r.contexts := by
  obtain ⟨x, -, he⟩ := Option.map_eq_some_iff.mp hc
  cases he
  rfl

theorem Effect.contexts {a : Action} {es : List Event} (he : r.Effect a es r')
    (hset : ∀ s n, a ≠ .setContext s n) (hremove : ∀ s, a ≠ .removeContext s) :
    r'.contexts = r.contexts := by
  cases he with
  | register n hr => exact register_contexts hr
  | complete hc => exact complete_contexts hc
  | token n t => exact cancelToken_contexts r t
  | bind s n x => exact absurd rfl (hset s n)
  | unbind s => exact absurd rfl (hremove s)
  | _ => rfl

theorem getContext_contexts (r : Registry) (s : SessionId) (cs : List Control) (b : Bool) :
    (r.getContext s cs b).2.contexts = r.contexts :=
  (getContext_effect r .showConfig s cs b).contexts (fun _ _ => Action.noConfusion)
    fun _ => Action.noConfusion

theorem getRootContext_contexts (r : Registry) (s : SessionId) (cs : List Control) :
    (r.getRootContext s cs).2.contexts = r.contexts :=
  (getRootContext_effect r .showConfig s cs).contexts (fun _ _ => Action.noConfusion)
    fun _ => Action.noConfusion

theorem authorizeBind_contexts (r : Registry) (b : Bool) :
    (r.authorizeBind b).2.contexts = r.contexts :=
  (authorizeBind_effect r .showConfig b).contexts (fun _ _ => Action.noConfusion)
    fun _ => Action.noConfusion

end Registry

/-! ## The changes that a run makes -/

namespace Machine

variable {m m' : Machine}

/-- What the next step does to the bound contexts. -/
def binding? (m : Machine) : Option Binding :=
  match m.task with
  | .perform (.setContext s name) => (m.scene.names.contexts.get? name).map (.bound s)
  | .perform (.removeContext s) => some (.dropped s)
  | .purged s _ next => if next.forgets then some (.dropped s) else none
  | _ => none

theorem Writes.contexts {es : List Event} {r : Registry} (hw : m.Writes es r)
    (hset : ∀ s n, m.task ≠ .perform (.setContext s n))
    (hremove : ∀ s, m.task ≠ .perform (.removeContext s))
    (hpurged : ∀ s n next, m.task = .purged s n next → next = .purge) :
    r.contexts = m.scene.registry.contexts := by
  cases hw with
  | effect ht he =>
      rw [ht] at hset hremove
      exact he.contexts (fun s n ha => hset s n (ha ▸ rfl)) fun s ha => hremove s (ha ▸ rfl)
  | takeOut ht hb =>
      obtain ⟨-, rfl⟩ := Registry.beginAbandon_eq_taken hb
      rfl
  | fire ht => exact Registry.fire_contexts _ _
  | beginPurge ht hb =>
      obtain ⟨map, -, -, rfl⟩ := Registry.beginPurge_eq_some hb
      rfl
  | forget ht hn => exact absurd (hpurged _ _ _ ht) hn
  | signal hc =>
      obtain ⟨t, -, rfl⟩ := Option.map_eq_some_iff.mp hc
      exact Registry.cancelToken_contexts _ t
  | nothing | ask h ht | countAbandoned ht | endPurge ht => rfl

/-- A step makes the change that is read off it, and no other. -/
theorem step_contexts (h : m.step = some m') :
    m'.scene.registry.contexts =
      m.binding?.toList.foldl Binding.apply m.scene.registry.contexts := by
  obtain ⟨w, task, ls⟩ := m
  have hw := step_writes h
  cases task with
  | perform a =>
      cases a with
      | setContext s n =>
          cases hn : w.names.contexts.get? n with
          | none =>
              simp only [step, Scene.answer?, hn, Option.some.injEq] at h
              subst h
              simp only [binding?, hn]
              rfl
          | some x =>
              simp only [step, Scene.answer?, hn, Option.some.injEq] at h
              subst h
              simp only [binding?, hn]
              rfl
      | removeContext s =>
          cases h
          rfl
      | _ => exact hw.contexts (by simp) (by simp) (by simp)
  | purged s n next =>
      cases h
      cases next with
      | purge => rfl
      | _ => exact Registry.forget_contexts w.registry s
  | _ => exact hw.contexts (by simp) (by simp) (by simp)

end Machine

namespace Passed

variable {m₀ m : Machine} {ms : List Machine}

theorem contexts (h : Passed m₀ ms m) :
    m.scene.registry.contexts =
      (ms.filterMap Machine.binding?).foldl Binding.apply m₀.scene.registry.contexts := by
  induction h with
  | refl => rfl
  | @step ms m m' h hs ih =>
      have hone : [m].filterMap Machine.binding? = m.binding?.toList := by
        cases hb : m.binding? <;> simp [hb]
      rw [Machine.step_contexts hs, ih, List.filterMap_append, hone, List.foldl_append]
  | next h hs a ih => exact ih

theorem before {ms₁ ms₂ : List Machine} {x : Machine} (h : Passed m₀ ms m)
    (hms : ms = ms₁ ++ x :: ms₂) : Passed m₀ ms₁ x := by
  induction h generalizing ms₂ with
  | refl => exact absurd hms (by simp)
  | @step ms m m' h hs ih =>
      rcases List.eq_nil_or_concat ms₂ with rfl | ⟨ms₃, y, rfl⟩
      · obtain ⟨rfl, hm⟩ := List.append_inj' hms rfl
        cases hm
        exact h
      · rw [List.concat_eq_append, ← List.cons_append, ← List.append_assoc] at hms
        exact ih (List.append_inj' hms rfl).1
  | next h hs a ih => exact ih hms

end Passed

namespace Scene

theorem passage_contexts {w : Scene} {a : Action} {ms₁ ms₂ : List Machine} {m : Machine}
    (h : w.passage a = ms₁ ++ m :: ms₂) :
    m.scene.registry.contexts =
      (ms₁.filterMap Machine.binding?).foldl Binding.apply w.registry.contexts :=
  ((w.passed a).before h).contexts

theorem perform_contexts (w : Scene) (a : Action) :
    (w.perform a).1.registry.contexts =
      ((w.passage a).filterMap Machine.binding?).foldl Binding.apply w.registry.contexts :=
  (w.passed a).contexts

end Scene

end DirectorySessions
