/-
# Runs of a connection side by side

What becomes of a connection is determined by what happens to it.  So two runs in
which the same happens at the same times come to the same, and a run can be cut
in two at any moment and be gone on with from there (`Onward`).

What is read at a time need not be the same in the two runs, as long as it makes
the same difference (`Indifferent`).  If it begins a bind, the binds need not be the
same either, as long as they are settled in the same way; while they are under way
the two connections differ in them and in nothing else (`SameButBind`).  Nor is it
asked that the jobs that finish are the same: it is enough that they have the same
handle, and that both come to what their work comes to, or both to the same thing
otherwise.  That they are the same then follows, since the handles of a connection's
jobs are all different (`JobsApart`).
-/
import DirectorySessions.Proofs.Connection.Diary
import Mathlib.Data.List.Forall2
import Mathlib.Data.List.Nodup

namespace DirectorySessions

namespace Connection

/-! ## Jobs are told apart by their handles -/

/-- The jobs of a connection have handles that were made, each another. -/
structure JobsApart (w : Scene) (c : Connection) : Prop where
  known : ∀ j ∈ c.jobs, w.registry.Knows j.handle
  apart : (c.jobs.map Job.handle).Nodup

namespace JobsApart

variable {sv : Services} {w w' : Scene} {c c' : Connection} {m : Moment}

theorem of_kept (h : JobsApart w c) (hk : w.registry.Kept w'.registry) (hj : c'.jobs = c.jobs) :
    JobsApart w' c' := by
  constructor
  · rw [hj]
    intro j hin
    exact Registry.knows_of_kept hk (h.known j hin)
  · rw [hj]
    exact h.apart

theorem accept (w : Scene) (s : SessionId) :
    JobsApart (Connection.accept w s).1 (Connection.accept w s).2 :=
  ⟨fun _ hj => absurd hj List.not_mem_nil, List.nodup_nil⟩

theorem eq_of_handle (h : JobsApart w c) {j j' : Job} (hj : j ∈ c.jobs) (hj' : j' ∈ c.jobs)
    (he : j'.handle = j.handle) : j' = j :=
  List.inj_on_of_nodup_map h.apart hj' hj he

/-- A job that begins has a handle that was not there before. -/
theorem next {allows : Scene → Action → Prop} (hp : m.Possible allows)
    (h : JobsApart m.scene m.connection) : JobsApart (m.next sv).1 (m.next sv).2 := by
  have hcomes := m.comes sv hp
  generalize (m.next sv).1 = w', (m.next sv).2 = c' at hcomes ⊢
  cases hcomes with
  | left hl => exact h.of_kept (Scene.perform_kept _ _) rfl
  | abandoned hq hop => exact h.of_kept (Scene.perform_kept _ _) rfl
  | taken hq hop hl => exact h.of_kept (Registry.kept_refl _) rfl
  | bound hq hop hfree => exact h.of_kept (bind_spec sv _ _ hfree).2 rfl
  | refused hq hop hfree hl => exact h.of_kept (launch_error hl).2 rfl
  | @launched q j r hq hop hfree hl =>
      have hj := (launch_ok hl).2
      constructor
      · intro j' hin
        rcases List.mem_append.mp hin with hin | hin
        · exact Registry.knows_of_kept hj.kept (h.known j' hin)
        · rw [List.mem_singleton.mp hin]
          obtain ⟨x, hx, -, -⟩ := hj.made
          exact Registry.knows_iff.mpr ⟨x, hx⟩
      · rw [List.map_append, List.map_singleton, List.nodup_append]
        refine ⟨h.apart, List.nodup_singleton _, ?_⟩
        intro x hx y hy
        obtain ⟨j', hin, rfl⟩ := List.mem_map.mp hx
        rw [List.mem_singleton.mp hy]
        intro he
        exact hj.fresh (he ▸ h.known j' hin)
  | begun ht hb =>
      obtain ⟨id, dn, password, cs, -, -, -, hr⟩ := beginBind?_eq_some.mp hb
      exact h.of_kept (registerBind_ok hr).2.2.2.kept rfl
  | settled ht hb => exact h.of_kept (settleBind_spec sv _ _ _).2 rfl
  | malformed ht hm => exact h.of_kept (Registry.kept_refl _) rfl
  | overlong ht => exact h.of_kept (Registry.kept_refl _) rfl
  | blank ht hb => exact h.of_kept (Registry.kept_refl _) rfl
  | @finished j o ht =>
      have hkept : m.scene.registry.Kept (m.connection.finishJob m.scene j o).1.registry := by
        rw [finishJob_registry]
        exact Registry.kept_of_handles (release_handles _ _ _)
      constructor
      · rw [finishJob_jobs]
        intro j' hin
        exact Registry.knows_of_kept hkept (h.known j' (List.mem_filter.mp hin).1)
      · rw [finishJob_jobs]
        exact h.apart.sublist (List.filter_sublist.map Job.handle)
  | acted ht => exact h.of_kept (Scene.perform_kept _ _) rfl

end JobsApart

/-! ## From some moment on -/

/-- What can become of a scene and a connection, with the moments on the way. -/
inductive Onward (sv : Services) (allows : Scene → Action → Prop) :
    Scene → Connection → List Moment → Scene → Connection → Prop
  | refl (w : Scene) (c : Connection) : Onward sv allows w c [] w c
  | turn {w w' : Scene} {c c' : Connection} {ms : List Moment} (t : Turn)
      (hp : Moment.Possible allows ⟨w, c, t⟩)
      (h : Onward sv allows (Moment.next sv ⟨w, c, t⟩).1 (Moment.next sv ⟨w, c, t⟩).2 ms w' c') :
      Onward sv allows w c (⟨w, c, t⟩ :: ms) w' c'

namespace Onward

variable {sv : Services} {allows : Scene → Action → Prop} {w w₁ w' w'' : Scene}
  {c c₁ c' c'' : Connection} {ms ms' : List Moment}

theorem trans (h : Onward sv allows w c ms w₁ c₁) (h' : Onward sv allows w₁ c₁ ms' w' c') :
    Onward sv allows w c (ms ++ ms') w' c' := by
  induction h with
  | refl w c => exact h'
  | turn t hp h ih => exact .turn t hp (ih h')

/-- A run can be cut at any moment. -/
theorem split (h : Onward sv allows w c (ms ++ ms') w' c') :
    ∃ w₁ c₁, Onward sv allows w c ms w₁ c₁ ∧ Onward sv allows w₁ c₁ ms' w' c' := by
  induction ms generalizing w c with
  | nil => exact ⟨w, c, .refl w c, h⟩
  | cons m ms ih =>
      cases h with
      | turn t hp h =>
          obtain ⟨w₁, c₁, h₁, h₂⟩ := ih h
          exact ⟨w₁, c₁, .turn t hp h₁, h₂⟩

theorem unique (h : Onward sv allows w c ms w' c') (h' : Onward sv allows w c ms w'' c'') :
    w'' = w' ∧ c'' = c' := by
  induction h with
  | refl w c =>
      cases h'
      exact ⟨rfl, rfl⟩
  | turn t hp h ih =>
      cases h' with
      | turn t hp h' => exact ih h'

end Onward

namespace Diary

variable {sv : Services} {allows : Scene → Action → Prop} {w₀ w₁ w : Scene} {s : SessionId}
  {ms ms' : List Moment} {c₁ c : Connection}

theorem onward (h : Diary sv allows w₀ s ms w c) :
    Onward sv allows (Connection.accept w₀ s).1 (Connection.accept w₀ s).2 ms w c := by
  induction h with
  | accept => exact .refl _ _
  | turn h t hp ih => exact ih.trans (.turn t hp (.refl _ _))

theorem goOn (h : Diary sv allows w₀ s ms w₁ c₁) (h' : Onward sv allows w₁ c₁ ms' w c) :
    Diary sv allows w₀ s (ms ++ ms') w c := by
  induction h' generalizing ms with
  | refl w c =>
      rw [List.append_nil]
      exact h
  | @turn w w' c c' ms' t hp h' ih =>
      rw [← List.singleton_append, ← List.append_assoc]
      exact ih (h.turn t hp)

theorem upTo {m : Moment} (h : Diary sv allows w₀ s (ms ++ m :: ms') w c) :
    Diary sv allows w₀ s ms m.scene m.connection := by
  obtain ⟨w₁, c₁, h₁, h₂⟩ := h.onward.split
  cases h₂ with
  | turn t hp h₂ => exact Diary.accept.goOn h₁

theorem rest (h₁ : Diary sv allows w₀ s ms w₁ c₁) (h : Diary sv allows w₀ s (ms ++ ms') w c) :
    Onward sv allows w₁ c₁ ms' w c := by
  obtain ⟨w₂, c₂, h₂, h'⟩ := h.onward.split
  obtain ⟨rfl, rfl⟩ := h₁.onward.unique h₂
  exact h'

end Diary

/-! ## Two runs -/

/-- What happens in two runs at the same time, if what is read is related: both
read, both begin a bind or both settle theirs, both notice that they are told to
close, a job with the same handle comes in both to what its work comes to, or to the
same thing otherwise, or others do the same to the registry. -/
inductive Turn.Alike (R : Input → Input → Prop) : Turn → Turn → Prop
  | receive {i i' : Input} (h : R i i') : Alike R (.receive i) (.receive i')
  | register {t t' : String} (h : R (.line t) (.line t')) : Alike R (.register t) (.register t')
  | settle : Alike R .settle .settle
  | told : Alike R .told .told
  | finish {j j' : Job} {o o' : Outcome} (hj : j'.handle = j.handle)
      (ho : o = j.work.outcome ∧ o' = j'.work.outcome ∨ o' = o) :
      Alike R (.finish j o) (.finish j' o')
  | act (a : Action) : Alike R (.act a) (.act a)

theorem Turn.Alike.refl {R : Input → Input → Prop} (hR : ∀ i, R i i) (t : Turn) : t.Alike R t := by
  cases t with
  | receive i => exact .receive (hR i)
  | register t => exact .register (hR _)
  | settle => exact .settle
  | told => exact .told
  | finish j o => exact .finish rfl (.inr rfl)
  | act a => exact .act a

/-- The connections differ in nothing but in the binds that they have under way, and
these are related. -/
structure SameButBind (P : PendingBind → PendingBind → Prop) (c c' : Connection) : Prop where
  rest : c' = { c with pending := c'.pending }
  pending : Option.Rel P c.pending c'.pending

namespace SameButBind

variable {P : PendingBind → PendingBind → Prop} {c c' : Connection}

theorem of_none (hn : c.pending = none) : SameButBind P c c :=
  ⟨rfl, by rw [hn]; exact .none⟩

theorem eq_of_none (h : SameButBind P c c') (hn : c.pending = none) : c' = c := by
  have hn' : c'.pending = none := by
    have hrel := h.pending
    rw [hn] at hrel
    generalize c'.pending = p' at hrel ⊢
    cases hrel
    rfl
  rw [h.rest, hn', ← hn]

theorem eq_of_eq (h : SameButBind Eq c c') : c' = c := by
  have hsame : c'.pending = c.pending := by
    have hrel := h.pending
    generalize c.pending = p, c'.pending = p' at hrel ⊢
    cases hrel with
    | some h => rw [h]
    | none => rfl
  rw [h.rest, hsame]

theorem finishJob (h : SameButBind P c c') (w : Scene) (j : Job) (o : Outcome) :
    (c'.finishJob w j o).1 = (c.finishJob w j o).1 ∧
      SameButBind P (c.finishJob w j o).2 (c'.finishJob w j o).2 := by
  have hpending : (c.finishJob w j o).2.pending = c.pending := finishJob_pending w c j o
  have hpending' : (c'.finishJob w j o).2.pending = c'.pending := finishJob_pending w c' j o
  have hsame : c'.finishJob w j o =
      ((c.finishJob w j o).1, { (c.finishJob w j o).2 with pending := c'.pending }) := by
    rw [h.rest]
    simp only [Connection.finishJob]
    split <;> rfl
  refine ⟨by rw [hsame], ?_, ?_⟩
  · rw [hpending']
    exact congrArg Prod.snd hsame
  · rw [hpending, hpending']
    exact h.pending

end SameButBind

/-- What is read may be replaced by what is related to it: it makes the same
difference, or it begins a bind that is settled in the same way. -/
structure Indifferent (sv : Services) (R : Input → Input → Prop)
    (P : PendingBind → PendingBind → Prop) : Prop where
  receive : ∀ {w c i i'}, R i i' → receive sv w c i' = receive sv w c i
  begin : ∀ {w : Scene} {c : Connection} {t t' : String} {b b' : PendingBind} {r r' : Registry},
    R (.line t) (.line t') → c.beginBind? w t = some (b, r) → c.beginBind? w t' = some (b', r') →
      r' = r ∧ P b b'
  settle : ∀ {b b'}, P b b' → ∀ r s, settleBind sv r s b' = settleBind sv r s b

theorem indifferent_eq (sv : Services) : Indifferent sv Eq Eq := by
  refine ⟨fun h => by rw [h], ?_, fun h r s => by rw [h]⟩
  intro w c t t' b b' r r' ht hb hb'
  cases ht
  rw [hb] at hb'
  cases hb'
  exact ⟨rfl, rfl⟩

/-- The same happens, but that something related is read. -/
inductive Turn.Reads (R : Input → Input → Prop) : Turn → Turn → Prop
  | same (t : Turn) : Reads R t t
  | receive {i i' : Input} (h : R i i') : Reads R (.receive i) (.receive i')
  | register {t t' : String} (h : R (.line t) (.line t')) : Reads R (.register t) (.register t')

/-- Moments of two runs that differ in nothing but in what is read and in the binds
that are under way. -/
structure Moment.Matches (R : Input → Input → Prop) (P : PendingBind → PendingBind → Prop)
    (m m' : Moment) : Prop where
  scene : m'.scene = m.scene
  connection : SameButBind P m.connection m'.connection
  turn : m.turn.Reads R m'.turn

theorem Moment.Matches.eq {m m' : Moment} (h : Matches Eq Eq m m') : m' = m := by
  obtain ⟨w, c, t⟩ := m
  obtain ⟨w', c', t'⟩ := m'
  obtain ⟨rfl, hc, ht⟩ := h
  cases hc.eq_of_eq
  cases ht with
  | same t => rfl
  | receive h => rw [h]
  | register h => cases h; rfl

namespace Onward

variable {sv : Services} {allows : Scene → Action → Prop} {R : Input → Input → Prop}
  {P : PendingBind → PendingBind → Prop} {w w₁ w₂ : Scene} {c c' c₁ c₂ : Connection}
  {ms ms' : List Moment}

theorem matches_of_alike {t t' : Turn} (hR : Indifferent sv R P) (ha : JobsApart w c)
    (hc : SameButBind P c c') (hp : Moment.Possible allows ⟨w, c, t⟩)
    (hp' : Moment.Possible allows ⟨w, c', t'⟩) (ht : t.Alike R t') :
    Moment.Matches R P ⟨w, c, t⟩ ⟨w, c', t'⟩ ∧
      (Moment.next sv ⟨w, c', t'⟩).1 = (Moment.next sv ⟨w, c, t⟩).1 ∧
      SameButBind P (Moment.next sv ⟨w, c, t⟩).2 (Moment.next sv ⟨w, c', t'⟩).2 := by
  cases ht with
  | @receive i i' h =>
      have hn : c.pending = none := Moment.pending_of_receive hp rfl
      have hnext : Moment.next sv ⟨w, c, .receive i'⟩ = Moment.next sv ⟨w, c, .receive i⟩ :=
        hR.receive h
      cases hc.eq_of_none hn
      refine ⟨⟨rfl, hc, .receive h⟩, by rw [hnext], ?_⟩
      rw [hnext]
      exact .of_none ((receive_cases sv w c i).stays.2.1.trans hn)
  | @register t t' h =>
      have hn : c.pending = none := (listens_iff.mp hp.1).2
      obtain ⟨⟨b, r⟩, hb⟩ := Option.isSome_iff_exists.mp hp.2
      obtain ⟨⟨b', r'⟩, hb'⟩ := Option.isSome_iff_exists.mp hp'.2
      cases hc.eq_of_none hn
      dsimp only at hb hb'
      obtain ⟨rfl, hbs⟩ := hR.begin h hb hb'
      have hnext : Moment.next sv ⟨w, c, .register t⟩ =
          (w.withRegistry r', { c with pending := some b }) := by
        simp only [Moment.next, hb]
      have hnext' : Moment.next sv ⟨w, c, .register t'⟩ =
          (w.withRegistry r', { c with pending := some b' }) := by
        simp only [Moment.next, hb']
      rw [hnext, hnext']
      exact ⟨⟨rfl, hc, .register h⟩, rfl, rfl, .some hbs⟩
  | settle =>
      obtain ⟨b, hb⟩ := Option.isSome_iff_exists.mp hp
      obtain ⟨b', hb'⟩ := Option.isSome_iff_exists.mp hp'
      dsimp only at hb hb'
      have hbs : P b b' := by
        have hrel := hc.pending
        rw [hb, hb'] at hrel
        cases hrel
        assumption
      have hnext : Moment.next sv ⟨w, c, .settle⟩ = c.settle sv w b := by
        simp only [Moment.next, hb]
      have hnext' : Moment.next sv ⟨w, c', .settle⟩ = c.settle sv w b := by
        simp only [Moment.next, hb']
        rw [hc.rest]
        simp only [Connection.settle, hR.settle hbs]
      rw [hnext, hnext']
      exact ⟨⟨rfl, hc, .same _⟩, rfl, .of_none rfl⟩
  | told =>
      have hn : c.pending = none := (listens_iff.mp hp.1).2
      cases hc.eq_of_none hn
      exact ⟨⟨rfl, hc, .same _⟩, rfl, .of_none hn⟩
  | @finish j j' o o' hj ho =>
      have hjobs : c'.jobs = c.jobs := by rw [hc.rest]
      have hin : j' ∈ c'.jobs := hp'
      rw [hjobs] at hin
      obtain rfl := ha.eq_of_handle hp hin hj
      have he : o' = o := by
        rcases ho with ⟨ho, ho'⟩ | ho
        · rw [ho, ho']
        · exact ho
      subst he
      exact ⟨⟨rfl, hc, .same _⟩, hc.finishJob w j' o'⟩
  | act a => exact ⟨⟨rfl, hc, .same _⟩, rfl, hc⟩

/-- Runs in which alike things happen go through the same scenes, and through the same
connections but for the binds that are under way. -/
theorem matches_all (hR : Indifferent sv R P) (ha : JobsApart w c) (hc : SameButBind P c c')
    (h : Onward sv allows w c ms w₁ c₁) (h' : Onward sv allows w c' ms' w₂ c₂)
    (ht : List.Forall₂ (Turn.Alike R) (ms.map Moment.turn) (ms'.map Moment.turn)) :
    w₂ = w₁ ∧ SameButBind P c₁ c₂ ∧ List.Forall₂ (Moment.Matches R P) ms ms' := by
  induction h generalizing c' ms' with
  | refl w c =>
      cases h' with
      | refl => exact ⟨rfl, hc, .nil⟩
      | turn t hp h' => cases ht
  | @turn w w₁ c c₁ ms t hp h ih =>
      cases h' with
      | refl => cases ht
      | @turn _ _ _ _ ms' t' hp' h' =>
          obtain ⟨ht, hrest⟩ := List.forall₂_cons.mp ht
          obtain ⟨hm, hw, hnext⟩ := matches_of_alike hR ha hc hp hp' ht
          rw [hw] at h'
          obtain ⟨hw, hc, hms⟩ := ih (JobsApart.next (m := ⟨w, c, t⟩) hp ha) hnext h' hrest
          exact ⟨hw, hc, .cons hm hms⟩

end Onward

end Connection

end DirectorySessions
