/-
# What is done elsewhere

A machine that works for one session, `Machine.Belongs`, carries out its
actions, cancels its handles and purges it alone; its callbacks, at any depth,
do the same.  Every step of such a machine keeps the sessions in the scene
separated and leaves what is another session's untouched (`step_touchesOnly`),
and so does an action from its beginning to its end (`perform_touchesOnly`).
This is the frame of every operation, for closing and purging with their
callbacks too.

Callbacks are looked at where they are made: a handle that is made for a
session has a script of actions that concern the session, and since scripts
are never changed, whatever runs later was written then.
-/
import DirectorySessions.Proofs.Registry.Isolation.Ownership

namespace DirectorySessions

variable {o : Ownership} {os os' : List SessionId} {s S : SessionId}

/-- The sessions of the handles after an action of a session has begun. -/
def Action.owners (os : List SessionId) (s : SessionId) : Action → List SessionId
  | .makeHandle .. => os ++ [s]
  | _ => os

/-! ## What is carried out at once -/

/-- If the sessions are separated, they stay so, and only one of them is touched. -/
def Scene.TouchesOnly (o : Ownership) (os os' : List SessionId) (s : SessionId)
    (w w' : Scene) : Prop :=
  w.Separated o os → w'.Separated o os' ∧ ∀ S, S ≠ s → w.Untouched o os S w'

namespace Registry

variable {r r' : Registry}

end Registry

namespace Scene

variable {w w' w'' : Scene} {t : TokenId} {n : String}

theorem TouchesOnly.rfl : w.TouchesOnly o os os s w := fun hp => ⟨hp, fun _ _ => .rfl⟩

theorem TouchesOnly.trans (hd : w.TouchesOnly o os os s w') (hd' : w'.TouchesOnly o os os' s w'') :
    w.TouchesOnly o os os' s w'' := by
  intro hp
  obtain ⟨hp₁, hu₁⟩ := hd hp
  obtain ⟨hp₂, hu₂⟩ := hd' hp₁
  refine ⟨hp₂, ?_⟩
  intro S hS
  have hu₃ := hu₂ S hS
  rw [← List.append_nil os] at hu₃
  exact (hu₁ S hS).trans hu₃

theorem nameToken_touchesOnly {n : Option String} (hn : ∀ n', n = some n' → o.token n' = s)
    (ht : o.holder os t = some s) : w.TouchesOnly o os os s (w.nameToken n t) := by
  cases n with
  | none => exact .rfl
  | some n =>
      intro hp
      have hn := hn n (Eq.refl _)
      refine ⟨⟨hp.registry, Names.nameToken_separated hp.names (hn ▸ ht)⟩, ?_⟩
      intro S hS
      refine ⟨.rfl, ⟨fun _ _ => Eq.refl _, ?_, fun _ _ => Eq.refl _⟩, Eq.refl _⟩
      intro n' hn'
      simp only [nameToken, Table.get?_insert]
      rw [if_neg]
      rintro rfl
      exact hS (hn'.symm.trans hn)

theorem tokenOf_touchesOnly (hn : o.token n = s) : w.TouchesOnly o os os s (w.tokenOf n).2 := by
  simp only [tokenOf]
  split
  · exact .rfl
  · have hn' : ∀ n', some n = some n' → o.token n' = s := by
      intro n' he
      cases he
      exact hn
    have ht : o.holder os (.named n) = some s := by rw [Ownership.holder, hn]
    exact nameToken_touchesOnly hn' ht

end Scene

/-! ## Machines that work for a session -/

/-- One session is torn down, and no other. -/
def Teardown.single : Teardown → Bool
  | .purge | .close | .terminate => true
  | .shutdown .. | .sweep .. => false

def Purpose.Belongs (os : List SessionId) (s : SessionId) : Purpose → Prop
  | .direct | .abandon => True
  | .purge s' pending _ next => s' = s ∧ (∀ h ∈ pending, Owns os s h) ∧ next.single = true

def Task.Belongs (o : Ownership) (os : List SessionId) (s : SessionId) : Task → Prop
  | .perform a => a.concerns o s = true
  | .cancel h why => Owns os s h ∧ why.Belongs os s
  | .cancelled _ why => why.Belongs os s
  | .purge s' next => s' = s ∧ next.single = true
  | .purging s' pending _ next => s' = s ∧ (∀ h ∈ pending, Owns os s h) ∧ next.single = true
  | .purged s' _ next => s' = s ∧ next.single = true
  | .shuttingDown .. | .sweeping .. => False
  | .reply _ => True

structure Level.Belongs (o : Ownership) (os : List SessionId) (s : SessionId) (l : Level) :
    Prop where
  why : l.why.Belongs os s
  owner : o.handle l.callback.owner = s
  pending : Action.allConcern o s l.pending = true

/-- All that the machine does is the session's. -/
structure Machine.Belongs (o : Ownership) (os : List SessionId) (s : SessionId) (m : Machine) :
    Prop where
  task : m.task.Belongs o os s
  levels : ∀ l ∈ m.levels, l.Belongs o os s

/-- The sessions of the handles after the next step of a machine that works
for a session. -/
def Machine.owners (os : List SessionId) (s : SessionId) (m : Machine) : List SessionId :=
  match m.task with
  | .perform a => a.owners os s
  | _ => os

namespace Machine

variable {w w' : Scene} {ls : List Level} {m m' : Machine}

end Machine

end DirectorySessions
