/-
# What is written in the callbacks

Whether callbacks keep to themselves, in the sense of `Machine.Quiet`, shows when they run.
Here it is told from what is written in them (`Scene.Discreet`).  Only the callbacks of the
handles that are outstanding when a teardown begins count, since nothing is registered while
it goes on.  A callback may cancel its own handle, which has fired before it runs; but no
callback may give the name that it uses to another handle, which the name would refer to then.

That this is enough is an invariant of the machine (`Machine.Heeds`): the handles whose turn
is to come were outstanding at the beginning, and each action that is left to a callback is
written in the callback of such a handle, which has fired.
-/
import DirectorySessions.Proofs.Registry.Discretion

namespace DirectorySessions

def Action.tearsDown : Action → Bool
  | .purge _ | .closeSession _ | .terminate _ | .shutdown => true
  | _ => false

namespace Registry

def Seated (r : Registry) (x : HandleId) : Prop := ∃ s id, r.lookup s id = some x

/-- Whatever is outstanding was made. -/
def Founded (r : Registry) : Prop := ∀ s id x, r.lookup s id = some x → r.Knows x

/-- The action is written in the callback of the handle. -/
def Scripted (r : Registry) (x : HandleId) (a : Action) : Prop :=
  ∃ y c, r.handle? x = some y ∧ y.callback = some c ∧ a ∈ c.script

def Says (r : Registry) (x : HandleId) (a : Action) : Prop := r.Seated x ∧ r.Scripted x a

theorem length_fire (r : Registry) (x : HandleId) :
    (r.fire x).handles.length = r.handles.length := by
  simp only [fire]
  split
  · split
    · rfl
    · exact List.length_set
  · rfl

end Registry

/-- The callbacks of outstanding handles have no actions but such as keep out of the registry
and such as cancel the handle that the callback is of, by a name that none of them gives to a
handle. -/
structure Scene.Discreet (w : Scene) : Prop where
  keepsOut : ∀ x a, w.registry.Says x a → a.keepsOut = true ∨ ∃ n, a = .cancel n
  own : ∀ x n, w.registry.Says x (.cancel n) → ∀ h, w.handleOf? n = some h → h = x
  unshared : ∀ x n, w.registry.Says x (.cancel n) →
    ∀ x' spec script, w.registry.Says x' (.makeHandle spec script) → spec.name ≠ n

namespace Machine

variable {m m' : Machine} {es : List Event}

/-! ## Handles are made by making them -/

theorem step_makes (hs : m.step = some m') :
    m'.scene.registry.handles.length = m.scene.registry.handles.length ∨
      ∃ spec script x, m.task = .perform (.makeHandle spec script) ∧ x.fired = false ∧
        m'.scene.registry.handles = m.scene.registry.handles ++ [x] := by
  have hw := step_writes hs
  generalize m.events = es at hw
  generalize m'.scene.registry = r at hw
  cases hw with
  | effect ht he =>
      cases he with
      | handle spec script x hf => exact Or.inr ⟨spec, script, x, ht, hf, rfl⟩
      | register name hr => exact Or.inl (congrArg List.length (register_handles hr))
      | complete hc => exact Or.inl (congrArg List.length (complete_handles hc))
      | token name t => exact Or.inl (congrArg List.length (cancelToken_handles _ t))
      | _ => exact Or.inl rfl
  | takeOut ht hb => exact Or.inl (congrArg List.length (beginAbandon_handles hb))
  | @fire h why ht => exact Or.inl (Registry.length_fire _ h)
  | beginPurge ht hb => exact Or.inl (congrArg List.length (beginPurge_handles hb))
  | @forget s n next ht hn => exact Or.inl (congrArg List.length (forget_handles _ s))
  | signal hc => exact Or.inl (congrArg List.length (signalClose?_handles hc))
  | _ => exact Or.inl rfl

theorem step_named (hs : m.step = some m') :
    m'.scene.names.handles = m.scene.names.handles ∨
      ∃ spec script, m.task = .perform (.makeHandle spec script) ∧
        m'.scene.names.handles =
          m.scene.names.handles.insert spec.name m.scene.registry.nextHandle := by
  have htrans := step_transition hs
  generalize m.events = es at htrans
  cases htrans with
  | quiet hw hd hp => exact Or.inl hw.named
  | make x name hf hh hr hn hd hp =>
      rcases step_makes hs with hlength | ⟨spec, script, -, ht, -⟩
      · rw [hh, List.length_append, List.length_singleton] at hlength
        omega
      · obtain ⟨w, t, ls⟩ := m
        cases ht
        cases hs
        obtain ⟨-, -, -, -, hn⟩ := Scene.makeHandle_spec w spec script
        exact Or.inr ⟨spec, script, rfl, hn⟩
  | ask x name hg hw hd hp =>
      rw [hw]
      exact Or.inl rfl
  | register s id x name hg hr hn hd hp => exact Or.inl (congrArg Names.handles hn)
  | complete s id x hc hn hd hp => exact Or.inl (congrArg Names.handles hn)
  | abandon s id x hb hn hd hp => exact Or.inl (congrArg Names.handles hn)
  | cancel x hr hn hd hp => exact Or.inl (congrArg Names.handles hn)
  | purge s hs hb hn hd hp => exact Or.inl (congrArg Names.handles hn)
  | purged s n hr hn hd hp => exact Or.inl (congrArg Names.handles hn)

/-! ## What is under way -/

/-- The action is left to a callback that has begun: it is written in the callback of a handle
that was outstanding at first and has fired. -/
def Due (w : Scene) (r : Registry) (a : Action) : Prop := ∃ x, w.registry.Says x a ∧ r.HasFired x

theorem Due.grows {w : Scene} {r r' : Registry} {a : Action} (h : Due w r a)
    (hg : ∀ x, r.HasFired x → r'.HasFired x) : Due w r' a := by
  obtain ⟨x, hx, hf⟩ := h
  exact ⟨x, hx, hg x hf⟩

/-- What the machine has come to from this scene, by a teardown in which the callbacks did as
they were written. -/
structure Heeds (w : Scene) (m : Machine) : Prop where
  kept : w.registry.Kept m.scene.registry
  seated : ∀ s id x, m.scene.registry.lookup s id = some x → w.registry.Seated x
  waits : ∀ x ∈ m.waiting, w.registry.Seated x
  named : ∀ x n, w.registry.Says x (.cancel n) → m.scene.handleOf? n = w.handleOf? n
  pending : ∀ l ∈ m.levels, ∀ a ∈ l.pending, Due w m.scene.registry a
  task : ∀ a, m.task = .perform a →
    m.levels = [] ∧ a.tearsDown = true ∨ Due w m.scene.registry a

variable {w : Scene}

theorem heeds_start {a : Action} (ha : a.tearsDown = true) : Heeds w ⟨w, .perform a, []⟩ :=
  ⟨Registry.kept_refl _, fun s id _ hl => ⟨s, id, hl⟩, List.forall_mem_nil _, fun _ _ _ => rfl,
    List.forall_mem_nil _, fun _ hb => Or.inl ⟨rfl, Task.perform.inj hb ▸ ha⟩⟩

theorem Heeds.step (h : Heeds w m) (hd : w.Discreet) (hg : w.registry.Founded)
    (hs : m.step = some m') : Heeds w m' := by
  have htrans := step_transition hs
  -- nothing is registered, and what a callback cancels is a handle that was outstanding
  have hregister : ∀ s, m.registersOn s = false := by
    intro s
    simp only [registersOn]
    split
    · next s' id name ht =>
      rcases h.task _ ht with ⟨-, ha⟩ | ⟨x, hx, -⟩
      · cases ha
      · rcases hd.keepsOut x _ hx with hk | ⟨n, hn⟩
        · cases hk
        · cases hn
    · rfl
  have hask : ∀ name x, m.task = .perform (.cancel name) → m.scene.handleOf? name = some x →
      w.registry.Seated x := by
    intro name x ht hx
    rcases h.task _ ht with ⟨-, ha⟩ | ⟨y, hy, -⟩
    · cases ha
    · rw [h.named y name hy] at hx
      rw [hd.own y name hy x hx]
      exact hy.1
  obtain ⟨hseated, hwaits⟩ := step_seated hs hregister hask h.seated h.waits
  have hnamed : ∀ x n, w.registry.Says x (.cancel n) →
      m'.scene.handleOf? n = w.handleOf? n := by
    intro x n hx
    rw [← h.named x n hx]
    rcases step_named hs with hn | ⟨spec, script, ht, hn⟩
    · simp only [Scene.handleOf?, hn]
    · rcases h.task _ ht with ⟨-, ha⟩ | ⟨y, hy, -⟩
      · cases ha
      · simp only [Scene.handleOf?, hn, Table.get?_insert,
          if_neg (hd.unshared x n hx y spec script hy)]
  have hpending : ∀ l ∈ m.levels, ∀ a ∈ l.pending, Due w m'.scene.registry a :=
    fun l hl a ha => (h.pending l hl a ha).grows fun x => htrans.hasFired
  obtain ⟨hpending', htask⟩ := step_pending hs hpending (by
    -- a callback begins when its handle fires
    intro x why y c ht hy hf hc a ha
    have hin : .cancelled x ∈ m.events := by
      simp only [events, ht]
      exact List.mem_cons_self
    have hfires := htrans.hasFired_of_cancelled (Registry.knows_iff.mpr ⟨y, hy⟩) hin
    obtain ⟨s, id, hl⟩ := h.waits x (mem_waiting_of_cancel ht)
    obtain ⟨z, hz⟩ := Registry.knows_iff.mp (hg s id x hl)
    obtain ⟨f, hz'⟩ := h.kept x z hz
    cases hy.symm.trans hz'
    exact ⟨x, ⟨⟨s, id, hl⟩, z, c, hz, hc, ha⟩, hfires⟩)
  exact ⟨Registry.kept_trans h.kept htrans.kept, hseated, hwaits, hnamed, hpending',
    fun a ht => Or.inr (htask a ht)⟩

theorem Heeds.steps (h : Heeds w m) (hd : w.Discreet) (hg : w.registry.Founded)
    (t : Steps m es m') : Heeds w m' := by
  induction t with
  | refl => exact h
  | head hs t ih => exact ih (h.step hd hg hs)

theorem Heeds.disturbs (h : Heeds w m) (hd : w.Discreet) : m.disturbs = false := by
  simp only [Machine.disturbs]
  split
  · next l ls a hl ht =>
    rcases h.task a ht with ⟨hnil, -⟩ | ⟨x, hx, hf⟩
    · rw [hnil] at hl
      cases hl
    · rcases hd.keepsOut x a hx with hk | ⟨n, rfl⟩
      · exact Action.disturbs_of_keepsOut hk
      · -- the callback's own handle has fired
        obtain ⟨y, hy, hfired⟩ := hf
        simp only [Action.disturbs, h.named x n hx]
        cases hn : w.handleOf? n with
        | none => rfl
        | some z =>
            cases hd.own x n hx z hn
            simp [Registry.armed?, hy, hfired]
  · rfl

end Machine

/-- In a teardown callbacks keep to themselves if it is so written in those of the outstanding
handles. -/
theorem Scene.quiet_of_discreet {w : Scene} {a : Action} (hd : w.Discreet)
    (ha : a.tearsDown = true) (hg : w.registry.Founded) : Machine.Quiet ⟨w, .perform a, []⟩ := by
  intro y hy
  obtain ⟨es, -, t, -⟩ := Machine.steps_through hy
  exact ((Machine.heeds_start ha).steps hd hg t).disturbs hd

end DirectorySessions
