/-
# Callbacks that are called are carried out

That a callback is called is an event of the step that cancels its handle.
What it comes to is the machine's doing: the step puts the callback on the
stack, its script is carried out from there, and when it is done a note is
left.  So the calls of a run are the notes that were left and the callbacks
that are still under way, no more and no fewer (`Runs.calls`); and a call that
has begun carries the script out as a whole (`callsBack_of_called`).

With this an event can stand for the call that it announces.  The other
modules count events and leave it to this one that counting them is counting
calls.
-/
import DirectorySessions.Proofs.Registry.Accounts

namespace DirectorySessions

def Event.isCall : Event → Bool
  | .called _ => true
  | _ => false

namespace Registry

variable {r : Registry} {h h' : HandleId}

theorem wouldCall_iff : r.wouldCall h = true ↔
    ∃ x c, r.handle? h = some x ∧ x.fired = false ∧ x.callback = some c := by
  simp only [wouldCall]
  cases hx : r.handle? h with
  | none => simp
  | some x => simp [Option.isSome_iff_exists]

theorem wouldCall_of_mem (hin : .called h ∈ r.cancelEvents h') :
    h' = h ∧ r.wouldCall h' = true := by
  have hpos := List.count_pos_iff.mpr hin
  rw [count_called_cancelEvents] at hpos
  split at hpos
  · assumption
  · exact absurd hpos (Nat.lt_irrefl 0)

theorem countP_isCall_cancelEvents (r : Registry) (h : HandleId) :
    (r.cancelEvents h).countP Event.isCall = if r.wouldCall h = true then 1 else 0 := by
  simp only [cancelEvents]
  split <;> rfl

theorem countP_isCall_purgeEvents (r : Registry) (s : SessionId) :
    (r.purgeEvents s).countP Event.isCall = 0 := by
  refine List.countP_eq_zero.mpr ?_
  intro e he
  obtain ⟨p, -, rfl⟩ := List.mem_map.mp he
  exact Bool.false_ne_true

end Registry

namespace Scene

variable {w w' : Scene}

theorem countP_isCall_events (w : Scene) (a : Action) :
    (w.events a).countP Event.isCall = 0 := by
  refine List.countP_eq_zero.mpr ?_
  intro e he
  cases e with
  | called x =>
      cases a with
      | register s id name =>
          simp only [events, Registry.replacing] at he
          grind
      | complete s id | abandon s id | cancel name =>
          simp only [events] at he
          grind
      | _ => exact absurd he List.not_mem_nil
  | _ => exact Bool.false_ne_true

theorem nameContext_notes (w : Scene) (n : Option String) (c : SharedContext) :
    (w.nameContext n c).notes = w.notes := by
  cases n <;> rfl

theorem tokenOf_notes (w : Scene) (n : String) : (w.tokenOf n).2.notes = w.notes := by
  simp only [tokenOf]
  split <;> rfl

theorem answer?_notes {a : Action} {x : Reply} (h : w.answer? a = some (w', x)) :
    w'.notes = w.notes := by
  cases a with
  | cancelToken n =>
      cases h
      exact tokenOf_notes w n
  | makeContext n c =>
      cases h
      exact nameContext_notes _ _ _
  | makeHandle spec script =>
      cases h
      simp only [makeHandle]
      split
      · exact tokenOf_notes w _
      · rfl
  | openSession s n =>
      cases h
      cases n <;> rfl
  | register s id name | complete s id | setContext s name | authorizeBind s b =>
      simp only [answer?] at h
      grind [withRegistry]
  | getContext s cs b n | getRootContext s cs n =>
      simp only [answer?] at h
      grind [replyContext, withRegistry, nameContext_notes]
  | cancel n | abandon s id | purge s | closeSession s | terminate s | shutdown => cases h
  | _ =>
      cases h
      rfl

end Scene

namespace Machine

variable {m m' : Machine} {h : HandleId}

/-! ## Calls are counted -/

/-- How many callbacks have been carried out or are under way. -/
def calls (m : Machine) : Nat := m.scene.notes.length + m.levels.length

theorem proceed_calls (w : Scene) (l : Level) (ls : List Level) :
    (proceed w l ls).calls = w.notes.length + ls.length + 1 := by
  simp only [proceed]
  split
  · rfl
  · simp only [calls, List.length_cons]
    omega

theorem begin_calls (w : Scene) (a : Action) (ls : List Level) :
    (begin w a ls).calls = w.notes.length + ls.length := by
  simp only [begin]
  split <;> first | rfl | (split <;> rfl)

theorem cancelHandle_calls (w : Scene) (h : HandleId) (why : Purpose) (ls : List Level) :
    (cancelHandle w h why ls).calls =
      w.notes.length + ls.length + if w.registry.wouldCall h = true then 1 else 0 := by
  cases hx : w.registry.handle? h with
  | none =>
      simp only [cancelHandle, Registry.wouldCall, hx]
      rfl
  | some x =>
      cases hf : x.fired with
      | true =>
          simp only [cancelHandle, Registry.wouldCall, hx, hf, if_true]
          rfl
      | false =>
          cases hc : x.callback with
          | none =>
              simp only [cancelHandle, Registry.wouldCall, hx, hf, hc, Bool.false_eq_true, if_false]
              rfl
          | some c =>
              simp only [cancelHandle, Registry.wouldCall, hx, hf, hc, Bool.false_eq_true, if_false]
              exact proceed_calls _ _ _

/-- A step starts as many callbacks as its events say. -/
theorem step_calls (h : m.step = some m') :
    m'.calls = m.calls + m.events.countP Event.isCall := by
  obtain ⟨w, t, ls⟩ := m
  cases t with
  | perform a =>
      show _ = _ + (w.events a).countP Event.isCall
      rw [Scene.countP_isCall_events]
      cases ha : w.answer? a with
      | none =>
          simp only [step, ha, Option.some.injEq] at h
          subst h
          exact begin_calls w a ls
      | some y =>
          simp only [step, ha, Option.some.injEq] at h
          subst h
          simp only [calls, Scene.answer?_notes ha, Nat.add_zero]
  | cancel x why =>
      cases h
      show _ = _ + (w.registry.cancelEvents x).countP Event.isCall
      rw [Registry.countP_isCall_cancelEvents]
      exact cancelHandle_calls w x why ls
  | cancelled x why =>
      cases h
      cases why <;> rfl
  | purge s next =>
      show _ = _ + (w.registry.purgeEvents s).countP Event.isCall
      rw [Registry.countP_isCall_purgeEvents]
      cases hb : w.registry.beginPurge s with
      | none =>
          simp only [step, hb, Option.some.injEq] at h
          subst h
          rfl
      | some y =>
          simp only [step, hb, Option.some.injEq] at h
          subst h
          rfl
  | purging s pending n next => cases pending <;> cases h <;> rfl
  | purged s n next =>
      cases h
      cases next <;> rfl
  | shuttingDown pending n =>
      cases pending with
      | nil =>
          cases h
          rfl
      | cons s ss =>
          cases hc : w.registry.signalClose? s with
          | none =>
              simp only [step, hc, Option.some.injEq] at h
              subst h
              rfl
          | some r =>
              simp only [step, hc, Option.some.injEq] at h
              subst h
              rfl
  | sweeping pending n => cases pending <;> cases h <;> rfl
  | reply x =>
      cases ls with
      | nil => cases h
      | cons l ls =>
          cases h
          exact proceed_calls w _ ls

/-! ## Calls are carried out -/

/-- The callback of the handle is carried out and leaves its note, and the
handle has been cancelled with its ending. -/
def CallsBack (m : Machine) (h : HandleId) (x : Handle) : Prop :=
  ∃ why c es, m.task = .cancel h why ∧ x.callback = some c ∧
    Steps m es ⟨(m.scene.withRegistry (m.scene.registry.fire h)).callBack c x.requestId
      ((m.scene.registry.fire h).isCancelled x.token), .cancelled c.ending.result why, m.levels⟩

theorem callsBack_of_called (hin : .called h ∈ m.events) :
    ∃ x, m.scene.registry.handle? h = some x ∧ m.CallsBack h x := by
  obtain ⟨w, t, ls⟩ := m
  cases t with
  | perform a =>
      have hnone := List.countP_eq_zero.mp (Scene.countP_isCall_events w a) _ hin
      exact absurd rfl hnone
  | purge s next =>
      obtain ⟨p, -, hp⟩ := List.mem_map.mp hin
      cases hp
  | cancel h' why =>
      obtain ⟨rfl, hw⟩ := Registry.wouldCall_of_mem hin
      obtain ⟨x, c, hx, hf, hc⟩ := Registry.wouldCall_iff.mp hw
      obtain ⟨es, t⟩ := steps_cancel w h' why ls
      simp only [Scene.cancelHandle, hx, hf, hc, Bool.false_eq_true, if_false] at t
      exact ⟨x, hx, why, c, es, rfl, hc, t⟩
  | _ => exact absurd hin List.not_mem_nil

end Machine

/-! ## Along a run -/

namespace Runs

variable {config : RegistryConfig} {allowed : Bool} {m₀ m : Machine} {es : List Event}

theorem kept (h : Runs m₀ es m) : m₀.scene.registry.Kept m.scene.registry := by
  induction h with
  | refl => exact Registry.kept_refl _
  | step h hs ih => exact Registry.kept_trans ih (Machine.step_transition hs).kept
  | next h hs a ih => exact ih

/-- The callbacks that were called are those that have left their notes and
those that are under way. -/
theorem calls (h : Reached config allowed es m) : m.calls = es.countP Event.isCall := by
  induction h with
  | refl => rfl
  | step h hs ih => rw [Machine.step_calls hs, ih, List.countP_append]
  | next h hs a ih =>
      obtain ⟨w, x, rfl⟩ := Machine.step_eq_none hs
      exact ih

/-- Whatever the handle looks like later on, it was this callback of its that
was called. -/
theorem callsBack (h : Runs m₀ es m) {x : HandleId} {y : Handle}
    (hy : m.scene.registry.handle? x = some y) (hin : .called x ∈ m₀.events) :
    m₀.CallsBack x y := by
  obtain ⟨y₀, hy₀, why, c, es', ht, hc, t⟩ := Machine.callsBack_of_called hin
  obtain ⟨f, hf⟩ := h.kept x y₀ hy₀
  rw [hy] at hf
  cases hf
  exact ⟨why, c, es', ht, hc, t⟩

end Runs

end DirectorySessions
