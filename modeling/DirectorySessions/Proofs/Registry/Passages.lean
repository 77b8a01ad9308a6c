/-
# What an operation does from beginning to end

An operation that begins when no purge is under way is followed through all
of the states it passes, with whatever its callbacks do.  When it has come to
its end, every registration that it ended in order to cancel the handle has its
handle fired, nothing fires twice or becomes unfired, and a record of a session
has gone exactly where `closing?` says so, which is also where sessions are
counted as closed.

Where the handles have no callbacks, as those of a connection have none,
nothing else is carried out in between, and the states of an operation can be
told beforehand (`closeSession_mute`, `abandon_mute`).
-/
import DirectorySessions.Proofs.Registry.Accounts
import DirectorySessions.Proofs.Registry.Effects

namespace DirectorySessions

namespace Registry

variable {r r' : Registry} {h x : HandleId}

def HasFired (r : Registry) (h : HandleId) : Prop :=
  ∃ y, r.handle? h = some y ∧ y.fired = true

def Idle (r : Registry) : Prop := ∀ s, r.isClosing s = false

/-- The number of records of a session: one or none. -/
def recorded (r : Registry) (s : SessionId) : Nat :=
  if (r.records.get? s).isSome then 1 else 0

theorem hasFired_of_handles (hh : r'.handles = r.handles) (hf : r.HasFired x) : r'.HasFired x := by
  obtain ⟨y, hy, hf⟩ := hf
  exact ⟨y, by rw [handle?_congr hh, hy], hf⟩

theorem hasFired_of_append {ys : List Handle} (hh : r'.handles = r.handles ++ ys)
    (hf : r.HasFired x) : r'.HasFired x := by
  obtain ⟨y, hy, hf⟩ := hf
  refine ⟨y, ?_, hf⟩
  simp only [handle?] at hy ⊢
  rw [hh, List.getElem?_append_left (List.getElem?_eq_some_iff.mp hy).1]
  exact hy

theorem hasFired_fire (hf : r.HasFired x) : (r.fire h).HasFired x := by
  obtain ⟨y, hy, hf⟩ := hf
  rw [HasFired, handle?_fire, hy]
  split
  · exact ⟨_, rfl, rfl⟩
  · exact ⟨y, rfl, hf⟩

theorem fire_hasFired (hk : r.Knows h) : (r.fire h).HasFired h := by
  obtain ⟨y, hy⟩ := knows_iff.mp hk
  refine ⟨{ y with fired := true }, ?_, rfl⟩
  rw [handle?_fire, if_pos rfl, hy]
  rfl

end Registry

namespace Transition

variable {m m' : Machine} {es : List Event} {x : HandleId}

theorem hasFired (h : Transition m m' es) (hf : m.scene.registry.HasFired x) :
    m'.scene.registry.HasFired x := by
  rcases h.handles_cases with ⟨hh, -⟩ | ⟨y, -, hh, -⟩ | ⟨y, -, hr, -⟩
  · exact Registry.hasFired_of_handles hh hf
  · exact Registry.hasFired_of_append hh hf
  · rw [hr]
    exact Registry.hasFired_fire hf

theorem hasFired_of_cancelled (h : Transition m m' es) (hk : m.scene.registry.Knows x)
    (hin : .cancelled x ∈ es) : m'.scene.registry.HasFired x := by
  rcases h.handles_cases with ⟨-, hq⟩ | ⟨y, -, -, rfl⟩ | ⟨y, -, hr, rfl⟩
  · cases hq _ hin
  · exact absurd hin List.not_mem_nil
  · have hy : y = x := by
      have hpos := List.count_pos_iff.mpr hin
      rw [Registry.count_cancelled_cancelEvents] at hpos
      split at hpos
      · assumption
      · exact absurd hpos (Nat.lt_irrefl 0)
    subst hy
    rw [hr]
    exact Registry.fire_hasFired hk

end Transition

/-! ## Records -/

/-- Is the session closed after the purge? -/
def Teardown.forgets : Teardown → Bool
  | .purge => false
  | _ => true

namespace Machine

variable {m m' : Machine}

/-- The session whose record the next step drops. -/
def closing? (m : Machine) : Option SessionId :=
  match m.task with
  | .purged s _ next =>
    if next.forgets && (m.scene.registry.records.get? s).isSome then some s else none
  | _ => none

def opens (s : SessionId) (m : Machine) : Bool :=
  match m.task with
  | .perform (.openSession s' _) => s' = s
  | _ => false

/-- Does the next step register a request on the session, or try to? -/
def registersOn (s : SessionId) (m : Machine) : Bool :=
  match m.task with
  | .perform (.register s' _ _) => s' = s
  | _ => false

/-- What a step does to the records: it drops one, which is counted; it opens a
session; or it leaves them alone. -/
theorem step_records (h : m.step = some m') :
    (∃ s, m.closing? = some s ∧ (m.scene.registry.records.get? s).isSome = true ∧
      (∀ s', m'.scene.registry.records.get? s' =
        if s = s' then none else m.scene.registry.records.get? s') ∧
      m'.scene.registry.stats.sessionsClosed = m.scene.registry.stats.sessionsClosed + 1) ∨
    m.closing? = none ∧
      m'.scene.registry.stats.sessionsClosed = m.scene.registry.stats.sessionsClosed ∧
      ((∃ s n t, m.task = .perform (.openSession s n) ∧
        m'.scene.registry.records = m.scene.registry.records.insert s t) ∨
      ∀ s, m'.scene.registry.records.get? s = m.scene.registry.records.get? s) := by
  by_cases hf : ∃ s n next, m.task = .purged s n next ∧ next.forgets = true
  · obtain ⟨w, t, ls⟩ := m
    obtain ⟨s, n, next, rfl, hn⟩ := hf
    have hr : m'.scene.registry = w.registry.forget s := by
      cases h
      cases next <;> first | rfl | cases hn
    obtain ⟨hstats, hrecords⟩ := Registry.forget_books w.registry s
    rw [hr]
    cases hs : (w.registry.records.get? s).isSome with
    | true =>
        refine Or.inl ⟨s, ?_, hs, hrecords, ?_⟩
        · simp only [closing?, hn, hs, Bool.and_self, if_true]
        · rw [hstats, hs]
          rfl
    | false =>
        refine Or.inr ⟨?_, ?_, Or.inr ?_⟩
        · simp only [closing?, hn, hs, Bool.and_false, Bool.false_eq_true, if_false]
        · rw [hstats, hs]
          rfl
        · intro s'
          rw [hrecords]
          split
          · rename_i he
            rw [← he]
            exact (Option.isSome_eq_false_iff.mp hs |> Option.isNone_iff_eq_none.mp).symm
          · rfl
  · have hno : m.closing? = none := by
      simp only [closing?]
      split
      · rename_i s n next ht
        have hn : next.forgets = false := Bool.eq_false_iff.mpr fun hn => hf ⟨s, n, next, ht, hn⟩
        simp only [hn, Bool.false_and, Bool.false_eq_true, if_false]
      · rfl
    have hw := step_writes h
    generalize m.events = es at hw
    refine Or.inr ⟨hno, ?_⟩
    generalize m'.scene.registry = r at hw ⊢
    have same : ∀ {st : Stats} {rs : Table SessionId TokenId},
        st.sessionsClosed = m.scene.registry.stats.sessionsClosed →
        rs = m.scene.registry.records → st.sessionsClosed = m.scene.registry.stats.sessionsClosed ∧
          ((∃ s n t, m.task = .perform (.openSession s n) ∧
            rs = m.scene.registry.records.insert s t) ∨
          ∀ s, rs.get? s = m.scene.registry.records.get? s) := by
      rintro st rs hst rfl
      exact ⟨hst, Or.inr fun _ => rfl⟩
    cases hw with
    | effect ht he =>
        cases he with
        | register name hr =>
            obtain ⟨hst, hrs⟩ := Registry.register_books hr
            exact same (by rw [hst]; rfl) hrs
        | complete hc =>
            obtain ⟨hst, hrs⟩ := Registry.complete_books hc
            exact same (by rw [hst]; rfl) hrs
        | token name t =>
            obtain ⟨hst, hrs⟩ := Registry.cancelToken_books m.scene.registry t
            exact same (by rw [hst]) hrs
        | opened s name => exact ⟨rfl, Or.inl ⟨s, name, _, ht, rfl⟩⟩
        | _ => exact same rfl rfl
    | takeOut ht hb =>
        obtain ⟨hl, rfl⟩ := Registry.beginAbandon_eq_taken hb
        exact same rfl rfl
    | @fire x why ht =>
        obtain ⟨hst, hrs⟩ := Registry.fire_books m.scene.registry x
        exact same (by rw [hst]) hrs
    | beginPurge ht hb =>
        obtain ⟨map, -, -, rfl⟩ := Registry.beginPurge_eq_some hb
        exact same rfl rfl
    | forget ht hn => 
        refine absurd ⟨_, _, _, ht, ?_⟩ hf
        rename_i next
        cases next <;> first | rfl | exact absurd rfl hn
    | signal hc =>
        obtain ⟨hst, hrs⟩ := Registry.signalClose?_books hc
        exact same (by rw [hst]) hrs
    | _ => exact same rfl rfl

end Machine

/-! ## Along a run -/

namespace Passed

variable {m₀ m : Machine} {ms : List Machine} {s : SessionId} {id : RequestId} {x : HandleId}

theorem marked (h : Passed m₀ ms m) (hm : m₀.Marked) : m.Marked := by
  induction h with
  | refl => exact hm
  | step h hs ih => exact ih.transition (Machine.step_transition hs)
  | next h hs a ih =>
      obtain ⟨w, x, rfl⟩ := Machine.step_eq_none hs
      exact ⟨ih.nodup, ih.closing⟩

theorem seat (h : Passed m₀ ms m) (hm : m₀.Marked) (s : SessionId) (id : RequestId)
    (x : HandleId) :
    m.scene.registry.seat s id x + (ms.flatMap Machine.events).countP (Event.ends s id x) =
      m₀.scene.registry.seat s id x + (ms.flatMap Machine.events).count (.registered s id x) := by
  induction h with
  | refl => rfl
  | step h hs ih =>
      have hc := (Machine.step_transition hs).seat (h.marked hm) s id x
      rw [List.flatMap_append, List.flatMap_singleton, List.countP_append, List.count_append]
      omega
  | next h hs a ih => exact ih

theorem owed (h : Passed m₀ ms m) (x : HandleId) :
    m.waiting.count x + (ms.flatMap Machine.events).count (.cancelled x) =
      m₀.waiting.count x + (ms.flatMap Machine.events).count (.asked x) +
        (ms.flatMap Machine.events).countP (Event.detaches x) := by
  induction h with
  | refl => rfl
  | step h hs ih =>
      have hc := (Machine.step_transition hs).owed x
      rw [List.flatMap_append, List.flatMap_singleton, List.countP_append, List.count_append,
        List.count_append]
      omega
  | next h hs a ih =>
      obtain ⟨w, y, rfl⟩ := Machine.step_eq_none hs
      exact ih

theorem kept (h : Passed m₀ ms m) : m₀.scene.registry.Kept m.scene.registry := by
  induction h with
  | refl => exact Registry.kept_refl _
  | step h hs ih => exact Registry.kept_trans ih (Machine.step_transition hs).kept
  | next h hs a ih => exact ih

theorem hasFired (h : Passed m₀ ms m) (hf : m₀.scene.registry.HasFired x) :
    m.scene.registry.HasFired x := by
  induction h with
  | refl => exact hf
  | step h hs ih => exact (Machine.step_transition hs).hasFired ih
  | next h hs a ih => exact ih

theorem hasFired_of_cancelled (h : Passed m₀ ms m) (hk : m₀.scene.registry.Knows x)
    (hin : .cancelled x ∈ ms.flatMap Machine.events) : m.scene.registry.HasFired x := by
  induction h with
  | refl => exact absurd hin List.not_mem_nil
  | step h hs ih =>
      rw [List.flatMap_append, List.flatMap_singleton, List.mem_append] at hin
      rcases hin with hin | hin
      · exact (Machine.step_transition hs).hasFired (ih hin)
      · exact (Machine.step_transition hs).hasFired_of_cancelled
          (Registry.knows_of_kept h.kept hk) hin
  | next h hs a ih => exact ih hin

theorem lookup_of_not_registered (h : Passed m₀ ms m)
    (hn : .registered s id x ∉ ms.flatMap Machine.events)
    (hl : m.scene.registry.lookup s id = some x) : m₀.scene.registry.lookup s id = some x := by
  induction h with
  | refl => exact hl
  | step h hs ih =>
      rw [List.flatMap_append, List.flatMap_singleton, List.mem_append, not_or] at hn
      exact ih hn.1 ((Machine.step_transition hs).lookup_of_not_registered hn.2 hl)
  | next h hs a ih => exact ih hn hl

theorem sessionsClosed (h : Passed m₀ ms m) :
    m.scene.registry.stats.sessionsClosed = m₀.scene.registry.stats.sessionsClosed +
      UInt64.ofNat (ms.filterMap Machine.closing?).length := by
  induction h with
  | refl => exact (UInt64.add_zero _).symm
  | @step ms m m' h hs ih =>
      rw [List.filterMap_append, List.length_append, UInt64.ofNat_add, ← UInt64.add_assoc, ← ih]
      rcases Machine.step_records hs with ⟨s, hc, -, -, hst⟩ | ⟨hc, hst, -⟩
      · rw [hst, List.filterMap_cons_some hc]
        rfl
      · rw [hst, List.filterMap_cons_none hc]
        exact (UInt64.add_zero _).symm
  | next h hs a ih => exact ih

/-- A record of a session that is not opened again goes where the session is
counted as closed. -/
theorem recorded (h : Passed m₀ ms m)
    (ho : ∀ m' ∈ ms, m'.opens s = false) :
    m.scene.registry.recorded s + (ms.filterMap Machine.closing?).count s =
      m₀.scene.registry.recorded s := by
  induction h with
  | refl => rfl
  | @step ms m m' h hs ih =>
      have hih := ih fun m' hm => ho m' (List.mem_append_left _ hm)
      have hm := ho m (List.mem_append_right _ List.mem_cons_self)
      rw [List.filterMap_append, List.count_append]
      rcases Machine.step_records hs with ⟨s', hc, hsome, hrec, -⟩ | ⟨hc, -, hrec⟩
      · rw [List.filterMap_cons_some hc, List.filterMap_nil]
        simp only [Registry.recorded, hrec] at hih ⊢
        by_cases he : s' = s
        · subst he
          simp only [hsome, if_true] at hih
          simp
          omega
        · simp [he] at hih ⊢
          omega
      · rw [List.filterMap_cons_none hc, List.filterMap_nil, List.count_nil]
        have hsame : m'.scene.registry.records.get? s = m.scene.registry.records.get? s := by
          rcases hrec with ⟨s', n, t, ht, hrec⟩ | hrec
          · rw [hrec, Table.get?_insert, if_neg]
            rintro rfl
            simp only [Machine.opens, ht, decide_true] at hm
            cases hm
          · exact hrec s
        simp only [Registry.recorded, hsame] at hih ⊢
        omega
  | next h hs a ih => exact ih ho

end Passed

/-! ## Operations -/

namespace Machine

variable {m : Machine} {s : SessionId} {id : RequestId} {x : HandleId}

theorem task_of_registration {e : Event} (hin : e ∈ m.events)
    (he : e = .registered s id x ∨ e = .ended s id x .replaced) :
    m.registersOn s = true := by
  obtain ⟨w, t, ls⟩ := m
  have none : e ∉ ([] : List Event) := List.not_mem_nil
  have other : ∀ e', e' ≠ .registered s id x → e' ≠ .ended s id x .replaced → e ∉ [e'] := by
    intro e' h₁ h₂ hin
    rw [List.mem_singleton.mp hin] at he
    exact he.elim h₁ h₂
  cases t with
  | perform a =>
      have hin : e ∈ w.events a := hin
      cases a with
      | register s' id' name =>
          simp only [Scene.events] at hin
          split at hin
          · split at hin
            · exact absurd hin none
            · -- both of its events are of the session it registers on
              have hs : s' = s := by
                rcases List.mem_append.mp hin with hin | hin
                · simp only [Registry.replacing] at hin
                  split at hin
                  · cases List.mem_singleton.mp hin
                    rcases he with he | he <;> cases he
                    rfl
                  · exact absurd hin none
                · cases List.mem_singleton.mp hin
                  rcases he with he | he <;> cases he
                  rfl
              exact decide_eq_true hs
          · exact absurd hin none
      | complete s' id' | abandon s' id' | cancel name =>
          simp only [Scene.events] at hin
          split at hin
          · exact absurd hin (other _ (by simp) (by simp))
          · exact absurd hin none
      | _ => exact absurd hin none
  | cancel h why =>
      have hin : e ∈ w.registry.cancelEvents h := hin
      simp only [Registry.cancelEvents] at hin
      rcases List.mem_cons.mp hin with rfl | hin
      · exact absurd List.mem_cons_self (other _ (by simp) (by simp))
      · split at hin
        · exact absurd hin (other _ (by simp) (by simp))
        · exact absurd hin none
  | purge s' next =>
      obtain ⟨p, -, rfl⟩ := List.mem_map.mp hin
      exact absurd List.mem_cons_self (other _ (by simp) (by simp))
  | _ => exact absurd hin none

end Machine

namespace Scene

variable {w : Scene} {a : Action} {s : SessionId} {id : RequestId} {x : HandleId}

/-- The states that an operation goes through. -/
def passage (w : Scene) (a : Action) : List Machine := (⟨w, .perform a, []⟩ : Machine).path

def story (w : Scene) (a : Action) : List Event := (w.passage a).flatMap Machine.events

theorem passed (w : Scene) (a : Action) :
    Passed ⟨w, .perform a, []⟩ (w.passage a) ⟨(w.perform a).1, .reply (w.perform a).2, []⟩ :=
  Machine.passed_path _

theorem marked_of_idle (hi : w.registry.Idle) (t : Task) (ht : Machine.Task.purging t = []) :
    (⟨w, t, []⟩ : Machine).Marked := by
  have hp : (⟨w, t, []⟩ : Machine).purging = [] := by
    rw [Machine.purging, ht]
    rfl
  refine ⟨by rw [hp]; exact List.nodup_nil, ?_⟩
  intro s
  rw [hp, hi s]
  simp

/-- When an operation has come to its end, no purge is under way. -/
theorem perform_idle (hi : w.registry.Idle) (a : Action) : (w.perform a).1.registry.Idle := by
  have hm := (w.passed a).marked (marked_of_idle hi _ rfl)
  intro s
  rw [Bool.eq_false_iff, ne_eq, hm.closing s]
  exact List.not_mem_nil

/-- The handles that an operation detaches have fired at its end. -/
theorem hasFired_of_detached {how : RequestEnd} (hk : w.registry.Knows x)
    (hin : .ended s id x how ∈ w.story a) (hd : how.detaches = true) :
    (w.perform a).1.registry.HasFired x := by
  have howed := (w.passed a).owed x
  have hpos : 0 < (w.story a).countP (Event.detaches x) :=
    List.countP_pos_iff.mpr ⟨_, hin, by simp [Event.detaches, hd]⟩
  have hnone : Machine.waiting ⟨(w.perform a).1, .reply (w.perform a).2, []⟩ = [] := rfl
  rw [hnone, List.count_nil] at howed
  refine (w.passed a).hasFired_of_cancelled hk (List.count_pos_iff.mp ?_)
  rw [story] at hpos
  omega

end Scene

/-! ## Operations that call nobody back -/

namespace Registry

def Mute (r : Registry) (h : HandleId) : Prop := ∀ y, r.handle? h = some y → y.callback = none

theorem mute_fire {r : Registry} {h x : HandleId} (hm : r.Mute x) : (r.fire h).Mute x := by
  intro y hy
  rw [handle?_fire] at hy
  split at hy
  · obtain ⟨z, hz, rfl⟩ := Option.map_eq_some_iff.mp hy
    exact hm z hz
  · exact hm y hy

end Registry

namespace Machine

variable {w : Scene} {h : HandleId} {ls : List Level}

theorem step_cancel_mute (hm : w.registry.Mute h) (why : Purpose) :
    step ⟨w, .cancel h why, ls⟩ =
      some ⟨(w.cancelHandle h).1, .cancelled (w.cancelHandle h).2 why, ls⟩ := by
  simp only [step, cancelHandle, Scene.cancelHandle]
  cases hx : w.registry.handle? h with
  | none => rfl
  | some x =>
      cases hf : x.fired with
      | true => simp only [hf, if_true]
      | false => simp only [hf, hm x hx, Bool.false_eq_true, if_false]

theorem cancelHandle_mute {x : HandleId} (hh : w.registry.Mute h) (hx : w.registry.Mute x) :
    (w.cancelHandle h).1.registry.Mute x := by
  simp only [Scene.cancelHandle]
  cases hy : w.registry.handle? h with
  | none => exact hx
  | some y =>
      cases hf : y.fired with
      | true =>
          simp only [hf, if_true]
          exact hx
      | false =>
          simp only [hf, hh y hy, Bool.false_eq_true, if_false]
          exact Registry.mute_fire hx

/-- The state carries out an action. -/
def Performs (m : Machine) : Prop := ∃ a, m.task = .perform a

theorem purging_mute {hs : List HandleId} (hm : ∀ h ∈ hs, w.registry.Mute h) (s : SessionId)
    (n : Nat) : ∀ m ∈ path ⟨w, .purging s hs n .close, []⟩, ¬ m.Performs := by
  induction hs generalizing w n with
  | nil =>
      rw [path_of_step rfl, path_of_step rfl, path_of_end rfl]
      intro m hin
      simp only [List.mem_cons, List.not_mem_nil, or_false] at hin
      rcases hin with rfl | rfl <;> rintro ⟨a, ha⟩ <;> cases ha
  | cons h hs ih =>
      have hh := hm h List.mem_cons_self
      rw [path_of_step rfl, path_of_step (step_cancel_mute hh _), path_of_step rfl]
      intro m hin
      simp only [List.mem_cons] at hin
      rcases hin with rfl | rfl | rfl | hin
      · rintro ⟨a, ha⟩
        cases ha
      · rintro ⟨a, ha⟩
        cases ha
      · rintro ⟨a, ha⟩
        cases ha
      · refine ih ?_ _ m hin
        intro x hx
        exact cancelHandle_mute hh (hm x (List.mem_cons_of_mem _ hx))

end Machine

namespace Scene

variable {w : Scene} {s : SessionId}

/-- Closing a session whose handles have no callbacks carries nothing else out. -/
theorem closeSession_mute (hm : ∀ id x, w.registry.lookup s id = some x → w.registry.Mute x) :
    ∀ m ∈ w.passage (.closeSession s), ∀ a, m.task = .perform a → a = .closeSession s := by
  intro m hin a ha
  have quiet : ∀ m' : Machine, m' ∈ Machine.path ⟨w, .purge s .close, []⟩ → ¬ m'.Performs := by
    intro m' hin'
    cases hb : w.registry.beginPurge s with
    | none =>
        have h₁ : Machine.step ⟨w, .purge s .close, []⟩ = some ⟨w, .purged s 0 .close, []⟩ := by
          simp only [Machine.step, hb]
        rw [Machine.path_of_step h₁, Machine.path_of_step rfl, Machine.path_of_end rfl] at hin'
        simp only [List.mem_cons, List.not_mem_nil, or_false] at hin'
        rcases hin' with rfl | rfl <;> rintro ⟨a, ha⟩ <;> cases ha
    | some y =>
        obtain ⟨hs, r⟩ := y
        have h₁ : Machine.step ⟨w, .purge s .close, []⟩ =
            some ⟨w.withRegistry r, .purging s hs 0 .close, []⟩ := by
          simp only [Machine.step, hb]
        rw [Machine.path_of_step h₁] at hin'
        rcases List.mem_cons.mp hin' with rfl | hin'
        · rintro ⟨a, ha⟩
          cases ha
        · refine Machine.purging_mute ?_ s 0 m' hin'
          intro x hx
          rw [Registry.beginPurge_values hb] at hx
          obtain ⟨⟨id, y⟩, hy, rfl⟩ := List.mem_map.mp hx
          have hmute := hm id y (Table.get?_of_mem hy)
          intro z hz
          refine hmute z ?_
          rw [← Registry.handle?_congr (Machine.beginPurge_handles hb)]
          exact hz
  rw [passage, Machine.path_of_step rfl] at hin
  rcases List.mem_cons.mp hin with rfl | hin
  · cases ha
    rfl
  · exact absurd ⟨a, ha⟩ (quiet m hin)

theorem abandon_mute {id : RequestId}
    (hm : ∀ x, w.registry.lookup s id = some x → w.registry.Mute x) :
    ∀ m ∈ w.passage (.abandon s id), ∀ a, m.task = .perform a → a = .abandon s id := by
  intro m hin a ha
  rw [passage] at hin
  cases hb : w.registry.beginAbandon s id with
  | taken x r =>
      obtain ⟨hl, rfl⟩ := Registry.beginAbandon_eq_taken hb
      have h₁ : Machine.step ⟨w, .perform (.abandon s id), []⟩ = some
          ⟨w.withRegistry (w.registry.setRequests s ((w.registry.requestsOf s).erase id)),
            .cancel x .abandon, []⟩ := by
        simp only [Machine.step, answer?, Machine.begin, hb]
      have hmute : (w.withRegistry (w.registry.setRequests s
          ((w.registry.requestsOf s).erase id))).registry.Mute x := hm x hl
      have h₂ := @Machine.step_cancel_mute _ x [] hmute .abandon
      rw [Machine.path_of_step h₁, Machine.path_of_step h₂, Machine.path_of_step rfl,
        Machine.path_of_end rfl] at hin
      simp only [List.mem_cons, List.not_mem_nil, or_false] at hin
      rcases hin with rfl | rfl | rfl <;> cases ha
      rfl
  | _ =>
      have h₁ : ∃ y, Machine.step ⟨w, .perform (.abandon s id), []⟩ =
          some ⟨w, .reply (.abandon y), []⟩ := by
        simp only [Machine.step, answer?, Machine.begin, hb]
        exact ⟨_, rfl⟩
      obtain ⟨y, h₁⟩ := h₁
      rw [Machine.path_of_step h₁, Machine.path_of_end rfl] at hin
      cases List.mem_singleton.mp hin
      cases ha
      rfl

end Scene

end DirectorySessions
