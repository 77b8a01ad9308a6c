/-
# Requests are accounted for

Every registration is outstanding, was counted, or falls into one of two gaps:
it was replaced under its number, or a purge detached it and then found that
its handle had fired.  The counters are moved later than the maps: an
abandoned request is counted when its handle has been cancelled, and a purge
counts its requests when it has gone through all of them.  In between, within
whatever the callbacks do, the requests are in hand (`inHand`).

Four balances of a single step come together here.  What is outstanding moves
with the registrations and their ends (`step_allOutstanding`); requests that
were detached are in hand until they are counted or passed over
(`step_inHand`); and the counters move with registrations and completions
(`step_counters`) and with what leaves the hand (`step_cancellations`).

The four go into one invariant of runs that keep their states (`Ledger`),
which is kept by every step (`Ledger.step`); between operations nothing is in
hand, and what remains is `registrations_accounted`.  Counters are words of 64
bits, and sums of events are taken in them, so the equation is one modulo
2^64.  How often a registration was replaced, and how often a purge found a
handle fired, is not counted by the registry; here it is counted on the states
of the run.
-/
import DirectorySessions.Proofs.Registry.Balance

namespace DirectorySessions

namespace Machine

variable {m m' : Machine}

/-! ## Requests in hand -/

/-- For what is cancelled to this purpose: how many requests were taken out of
their maps and have been neither counted nor passed over. -/
def Purpose.inHand : Purpose → Nat
  | .direct => 0
  | .abandon => 1
  | .purge _ pending n _ => pending.length + n + 1

/-- Requests in hand, for a task. -/
def Task.inHand : Task → Nat
  | .cancel _ why => Purpose.inHand why
  | .cancelled x (.purge _ pending n _) => pending.length + if x.counts then n + 1 else n
  | .cancelled _ why => Purpose.inHand why
  | .purging _ pending n _ => pending.length + n
  | _ => 0

/-- Requests in hand, those of the callbacks under way included. -/
def inHand (m : Machine) : Nat :=
  Task.inHand m.task + (m.levels.map fun l => Purpose.inHand l.why).sum

/-- How many requests the next step adds to those abandoned and purged. -/
def counting (m : Machine) : Nat :=
  match m.task with
  | .cancelled _ .abandon => 1
  | .purging _ [] n _ => n
  | _ => 0

def replaces (m : Machine) : Bool :=
  match m.task with
  | .perform (.register s id name) =>
    (m.scene.handleOf? name).isSome && (m.scene.registry.lookup s id).isSome
  | _ => false

def findsFired (m : Machine) : Bool :=
  match m.task with
  | .cancel h (.purge ..) => ((m.scene.registry.handle? h).map Handle.fired).getD true
  | _ => false

theorem inHand_cancelled {x : CancelResult} (hx : x.counts = true) (why : Purpose) :
    Task.inHand (.cancelled x why) = Purpose.inHand why := by
  cases why with
  | purge s pending n next =>
      simp only [Task.inHand, Purpose.inHand, hx, if_true]
      omega
  | _ => rfl

theorem counts_result (e : CallbackEnding) : e.result.counts = true := by
  cases e <;> rfl

/-- A callback holds what its handle was cancelled for until it ends. -/
theorem proceed_inHand (w : Scene) (l : Level) (ls : List Level) :
    (proceed w l ls).inHand =
      Purpose.inHand l.why + (ls.map fun l => Purpose.inHand l.why).sum := by
  simp only [proceed]
  split
  · simp only [inHand, Task.inHand, List.map_cons, List.sum_cons]
    omega
  · simp only [inHand, inHand_cancelled (counts_result _)]

/-- Only a purge lets go of a request without counting it, when it comes to a
handle that has fired. -/
theorem cancelHandle_inHand (w : Scene) (h : HandleId) (why : Purpose) (ls : List Level) :
    (cancelHandle w h why ls).inHand +
        (if findsFired ⟨w, .cancel h why, ls⟩ then 1 else 0) =
      inHand ⟨w, .cancel h why, ls⟩ := by
  have already : ((w.registry.handle? h).map Handle.fired).getD true = true →
      inHand ⟨w, .cancelled .already why, ls⟩ +
          (if findsFired ⟨w, .cancel h why, ls⟩ then 1 else 0) =
        inHand ⟨w, .cancel h why, ls⟩ := by
    intro hf
    cases why with
    | purge s pending n next =>
        simp only [inHand, Task.inHand, Purpose.inHand, findsFired, hf, CancelResult.counts,
          if_true, Bool.false_eq_true, if_false]
        omega
    | _ => rfl
  simp only [cancelHandle]
  cases hx : w.registry.handle? h with
  | none => exact already (by rw [hx]; rfl)
  | some x =>
      cases hf : x.fired with
      | true =>
          simp only [hf, if_true]
          exact already (by simp only [hx, Option.map_some, hf, Option.getD_some])
      | false =>
          have hno : findsFired ⟨w, .cancel h why, ls⟩ = false := by
            cases why <;> simp only [findsFired, hx, Option.map_some, hf, Option.getD_some]
          simp only [hno, hf, Bool.false_eq_true, if_false, Nat.add_zero]
          cases x.callback with
          | none => exact congrArg (· + _) (inHand_cancelled (x := .fired) rfl why)
          | some c => exact proceed_inHand _ _ ls

theorem begin_inHand (w : Scene) (a : Action) (ls : List Level) (ha : w.answer? a = none) :
    (begin w a ls).inHand =
      inHand ⟨w, .perform a, ls⟩ + (w.events a).countP Event.isDetachment := by
  cases a with
  | cancel name =>
      simp only [begin, Scene.events]
      cases w.handleOf? name <;> simp [inHand, Task.inHand, Purpose.inHand, Event.isDetachment]
  | abandon s id =>
      simp only [begin, Scene.events]
      cases w.registry.beginAbandon s id <;>
        simp [inHand, Task.inHand, Purpose.inHand, Event.isDetachment, RequestEnd.detaches]
      omega
  | terminate s =>
      simp only [begin, Scene.events]
      cases w.registry.signalClose? s <;> rfl
  | purge s | closeSession s | shutdown => rfl
  | register _ _ _ | complete _ _ | getContext _ _ _ _ | getRootContext _ _ _ | setContext _ _
  | authorizeBind _ _ =>
      simp only [Scene.answer?] at ha
      grind
  | _ => cases ha

/-- A request that is detached is in hand until it is counted, or passed over
by a purge that finds its handle fired. -/
theorem step_inHand (h : m.step = some m') :
    m'.inHand + m.counting + (if m.findsFired then 1 else 0) =
      m.inHand + m.events.countP Event.isDetachment := by
  obtain ⟨w, t, ls⟩ := m
  cases t with
  | perform a =>
      cases ha : w.answer? a with
      | none =>
          simp only [step, ha, Option.some.injEq] at h
          subst h
          exact begin_inHand w a ls ha
      | some y =>
          simp only [step, ha, Option.some.injEq] at h
          subst h
          have he : events ⟨w, .perform a, ls⟩ = w.events a := rfl
          rw [he, (Scene.answer?_effect ha).countP_isDetachment]
          rfl
  | cancel x why =>
      cases h
      have he : events ⟨w, .cancel x why, ls⟩ = w.registry.cancelEvents x := rfl
      rw [he, Registry.countP_cancelEvents (by intro e he; cases e <;> first | rfl | cases he)]
      exact cancelHandle_inHand w x why ls
  | cancelled x why =>
      cases h
      cases why with
      | direct => rfl
      | abandon =>
          simp only [afterCancel, inHand, Task.inHand, counting, findsFired, events,
            Purpose.inHand, List.countP_nil, Bool.false_eq_true, if_false]
          omega
      | purge s pending n next => rfl
  | purge s next =>
      cases hb : w.registry.beginPurge s with
      | none =>
          simp only [step, hb, Option.some.injEq] at h
          subst h
          have he : events ⟨w, .purge s next, ls⟩ = [] := by
            show w.registry.purgeEvents s = []
            rw [Registry.purgeEvents, Registry.beginPurge_eq_none hb]
            rfl
          rw [he]
          rfl
      | some y =>
          obtain ⟨hs, r⟩ := y
          simp only [step, hb, Option.some.injEq] at h
          subst h
          have he : events ⟨w, .purge s next, ls⟩ = w.registry.purgeEvents s := rfl
          rw [he, Registry.countP_purgeEvents (b := true) fun _ _ => rfl, if_pos rfl,
            Registry.purgeEvents, List.length_map, Registry.beginPurge_values hb]
          simp [inHand, Task.inHand, counting, findsFired, Table.values]
          omega
  | purging s pending n next =>
      cases pending with
      | nil =>
          cases h
          simp [inHand, Task.inHand, counting, findsFired, events]
          omega
      | cons x xs =>
          cases h
          simp [inHand, Task.inHand, counting, findsFired, events, Purpose.inHand]
          omega
  | purged s n next =>
      cases h
      cases next <;> rfl
  | shuttingDown pending n =>
      cases pending with
      | nil =>
          cases h
          rfl
      | cons s ss =>
          cases hc : w.registry.signalClose? s with
          | none =>
              simp only [step, hc, Option.some.injEq] at h
              subst h
              rfl
          | some r =>
              simp only [step, hc, Option.some.injEq] at h
              subst h
              rfl
  | sweeping pending n => cases pending <;> cases h <;> rfl
  | reply x =>
      cases ls with
      | nil => cases h
      | cons l ls =>
          cases h
          simp only [proceed_inHand, counting, findsFired, events]
          simp [inHand, Task.inHand]

end Machine

/-! ## The counters of requests -/

namespace Machine

variable {m m' : Machine}

theorem step_counters (h : m.step = some m') :
    m'.scene.registry.stats.registered = m.scene.registry.stats.registered +
        UInt64.ofNat (m.events.countP Event.isRegistration) ∧
      m'.scene.registry.stats.completed = m.scene.registry.stats.completed +
        UInt64.ofNat (m.events.countP (Event.isEndBy .completed)) := by
  have hw := step_writes h
  generalize m.events = es at hw ⊢
  generalize m'.scene.registry = r at hw ⊢
  have same : ∀ {st : Stats}, es.countP Event.isRegistration = 0 →
      es.countP (Event.isEndBy .completed) = 0 →
      st.registered = m.scene.registry.stats.registered →
      st.completed = m.scene.registry.stats.completed →
      st.registered = m.scene.registry.stats.registered +
          UInt64.ofNat (es.countP Event.isRegistration) ∧
        st.completed = m.scene.registry.stats.completed +
          UInt64.ofNat (es.countP (Event.isEndBy .completed)) := by
    intro st h₁ h₂ h₃ h₄
    rw [h₁, h₂, h₃, h₄]
    exact ⟨(UInt64.add_zero _).symm, (UInt64.add_zero _).symm⟩
  cases hw with
  | effect ht he =>
      cases he with
      | register name hr =>
          rw [(Registry.register_books hr).1, List.countP_append, List.countP_append,
            Registry.countP_replacing (b := false) fun _ => rfl,
            Registry.countP_replacing (b := false) fun _ => rfl]
          exact ⟨rfl, (UInt64.add_zero _).symm⟩
      | complete hc =>
          rw [(Registry.complete_books hc).1]
          exact ⟨(UInt64.add_zero _).symm, rfl⟩
      | token name t =>
          rw [(Registry.cancelToken_books _ t).1]
          exact same rfl rfl rfl rfl
      | _ => exact same rfl rfl rfl rfl
  | takeOut ht hb =>
      obtain ⟨hl, rfl⟩ := Registry.beginAbandon_eq_taken hb
      exact same rfl rfl rfl rfl
  | fire ht =>
      rw [(Registry.fire_books _ _).1]
      refine same (Registry.countP_cancelEvents ?_) (Registry.countP_cancelEvents ?_) rfl rfl <;>
      · intro e he
        cases e <;> first | rfl | cases he
  | beginPurge ht hb =>
      obtain ⟨map, -, -, rfl⟩ := Registry.beginPurge_eq_some hb
      exact same (Registry.countP_purgeEvents (b := false) fun _ _ => rfl)
        (Registry.countP_purgeEvents (b := false) fun _ _ => rfl) rfl rfl
  | @forget s n next ht hn =>
      rw [(Registry.forget_books m.scene.registry s).1]
      split <;> exact same rfl rfl rfl rfl
  | signal hc =>
      rw [(Registry.signalClose?_books hc).1]
      exact same rfl rfl rfl rfl
  | _ => exact same rfl rfl rfl rfl

/-- The counters of abandoned and purged requests move when these leave the
hand. -/
theorem step_cancellations (h : m.step = some m') :
    m'.scene.registry.stats.abandoned + m'.scene.registry.stats.purged =
      m.scene.registry.stats.abandoned + m.scene.registry.stats.purged +
        UInt64.ofNat m.counting := by
  by_cases ha : ∃ x, m.task = .cancelled x .abandon
  · obtain ⟨w, t, ls⟩ := m
    obtain ⟨x, rfl⟩ := ha
    cases h
    show w.registry.stats.abandoned + 1 + w.registry.stats.purged =
      w.registry.stats.abandoned + w.registry.stats.purged + 1
    rw [UInt64.add_assoc, UInt64.add_comm 1, UInt64.add_assoc]
  by_cases hp : ∃ s n next, m.task = .purging s [] n next
  · obtain ⟨w, t, ls⟩ := m
    obtain ⟨s, n, next, rfl⟩ := hp
    cases h
    exact (UInt64.add_assoc _ _ _).symm
  have hz : m.counting = 0 := by
    simp only [counting]
    split
    · exact absurd ⟨_, ‹_›⟩ ha
    · exact absurd ⟨_, _, _, ‹_›⟩ hp
    · rfl
  rw [hz]
  refine Eq.trans ?_ (UInt64.add_zero _).symm
  have hw := step_writes h
  generalize m.events = es at hw
  generalize m'.scene.registry = r at hw ⊢
  cases hw with
  | effect ht he =>
      cases he with
      | register name hr => rw [(Registry.register_books hr).1]; rfl
      | complete hc => rw [(Registry.complete_books hc).1]; rfl
      | token name t => rw [(Registry.cancelToken_books _ t).1]
      | _ => rfl
  | takeOut ht hb =>
      obtain ⟨hl, rfl⟩ := Registry.beginAbandon_eq_taken hb
      rfl
  | fire ht => rw [(Registry.fire_books _ _).1]
  | beginPurge ht hb =>
      obtain ⟨map, -, -, rfl⟩ := Registry.beginPurge_eq_some hb
      rfl
  | @forget s n next ht hn =>
      rw [(Registry.forget_books m.scene.registry s).1]
      split <;> rfl
  | signal hc => rw [(Registry.signalClose?_books hc).1]
  | countAbandoned ht => exact absurd ⟨_, ht⟩ ha
  | endPurge ht => exact absurd ⟨_, _, _, ht⟩ hp
  | _ => rfl

/-- A registration is replaced where one is registered under a number that is
taken. -/
theorem countP_replaced (m : Machine) :
    m.events.countP (Event.isEndBy .replaced) = if m.replaces then 1 else 0 := by
  obtain ⟨w, t, ls⟩ := m
  cases t with
  | perform a =>
      show (w.events a).countP _ = _
      cases a with
      | register s id name =>
          cases hg : w.handleOf? name with
          | none => simp [Scene.events, replaces, hg]
          | some h =>
              cases hl : w.registry.lookup s id with
              | none =>
                  simp only [Scene.events, replaces, hg, hl, Registry.replacing]
                  split <;> rfl
              | some h' =>
                  have hc := Registry.isClosing_of_lookup hl
                  simp [Scene.events, replaces, hg, hl, hc, Registry.replacing, Event.isEndBy]
      | complete s id =>
          simp only [Scene.events, replaces]
          cases w.registry.lookup s id <;> rfl
      | abandon s id =>
          simp only [Scene.events, replaces]
          cases w.registry.beginAbandon s id <;> rfl
      | cancel name =>
          simp only [Scene.events, replaces]
          cases w.handleOf? name <;> rfl
      | _ => rfl
  | cancel h why =>
      refine (Registry.countP_cancelEvents ?_).trans rfl
      intro e he
      cases e <;> first | rfl | cases he
  | purge s next =>
      exact (Registry.countP_purgeEvents (b := false) fun _ _ => rfl).trans rfl
  | _ => rfl

end Machine

namespace Event

theorem countP_isEnd (es : List Event) :
    es.countP isEnd = es.countP (isEndBy .completed) + es.countP (isEndBy .replaced) +
      es.countP isDetachment := by
  induction es with
  | nil => rfl
  | cons e es ih =>
      simp only [List.countP_cons, ih]
      cases e with
      | ended s id h how =>
          cases how <;> simp [isEnd, isEndBy, isDetachment, RequestEnd.detaches] <;> omega
      | _ => rfl

end Event

/-! ## Along a run -/

/-- What the states that a run has gone through say about the maps and the
counters of the one it has come to. -/
structure Ledger (ms : List Machine) (m : Machine) : Prop where
  marked : m.Marked
  outstanding : m.scene.registry.allOutstanding +
      (ms.flatMap Machine.events).countP Event.isEnd =
    (ms.flatMap Machine.events).countP Event.isRegistration
  inHand : m.inHand + (ms.map Machine.counting).sum + ms.countP Machine.findsFired =
    (ms.flatMap Machine.events).countP Event.isDetachment
  replaced : (ms.flatMap Machine.events).countP (Event.isEndBy .replaced) =
    ms.countP Machine.replaces
  registered : m.scene.registry.stats.registered =
    UInt64.ofNat ((ms.flatMap Machine.events).countP Event.isRegistration)
  completed : m.scene.registry.stats.completed =
    UInt64.ofNat ((ms.flatMap Machine.events).countP (Event.isEndBy .completed))
  cancellations : m.scene.registry.stats.abandoned + m.scene.registry.stats.purged =
    UInt64.ofNat (ms.map Machine.counting).sum

namespace Ledger

variable {ms : List Machine} {m m' : Machine}

theorem step (hm : Ledger ms m) (h : m.step = some m') : Ledger (ms ++ [m]) m' := by
  obtain ⟨hr, hc⟩ := Machine.step_counters h
  constructor
  · exact hm.marked.transition (Machine.step_transition h)
  · have hout := Machine.step_allOutstanding h hm.marked
    have := hm.outstanding
    simp only [List.flatMap_append, List.flatMap_singleton, List.countP_append]
    omega
  · have hin := Machine.step_inHand h
    have := hm.inHand
    simp only [List.flatMap_append, List.flatMap_singleton, List.countP_append, List.map_append,
      List.map_cons, List.map_nil, List.sum_append, List.sum_singleton, List.countP_singleton]
    omega
  · simp only [List.flatMap_append, List.flatMap_singleton, List.countP_append,
      List.countP_singleton, hm.replaced, Machine.countP_replaced]
  · rw [hr, hm.registered, ← UInt64.ofNat_add, List.flatMap_append, List.flatMap_singleton,
      List.countP_append]
  · rw [hc, hm.completed, ← UInt64.ofNat_add, List.flatMap_append, List.flatMap_singleton,
      List.countP_append]
  · rw [Machine.step_cancellations h, hm.cancellations, ← UInt64.ofNat_add, List.map_append,
      List.sum_append]
    rfl

/-- All that was registered is in one of six places. -/
theorem balance (hm : Ledger ms m) :
    m.scene.registry.stats.registered =
      m.scene.registry.stats.completed + m.scene.registry.stats.abandoned +
        m.scene.registry.stats.purged + UInt64.ofNat m.scene.registry.allOutstanding +
        UInt64.ofNat (ms.countP Machine.replaces) + UInt64.ofNat (ms.countP Machine.findsFired) +
        UInt64.ofNat m.inHand := by
  have hends := Event.countP_isEnd (ms.flatMap Machine.events)
  have hout := hm.outstanding
  have hin := hm.inHand
  rw [hm.replaced] at hends
  have htotal : (ms.flatMap Machine.events).countP Event.isRegistration =
      (ms.flatMap Machine.events).countP (Event.isEndBy .completed) +
        (ms.map Machine.counting).sum + m.scene.registry.allOutstanding +
        ms.countP Machine.replaces + ms.countP Machine.findsFired + m.inHand := by
    omega
  rw [hm.registered, htotal, UInt64.add_assoc m.scene.registry.stats.completed,
    hm.completed, hm.cancellations]
  simp only [UInt64.ofNat_add]

end Ledger

namespace Passed

variable {config : RegistryConfig} {allowed : Bool} {ms : List Machine} {m : Machine}

theorem ledger (h : Passed ⟨.new (.new config allowed), .reply .nothing, []⟩ ms m) :
    Ledger ms m := by
  induction h with
  | refl => exact ⟨Runs.marked .refl, rfl, rfl, rfl, rfl, rfl, rfl⟩
  | step h hs ih => exact ih.step hs
  | next h hs a ih =>
      obtain ⟨w, x, rfl⟩ := Machine.step_eq_none hs
      exact ⟨⟨ih.marked.nodup, ih.marked.closing⟩, ih.outstanding, ih.inHand, ih.replaced,
        ih.registered, ih.completed, ih.cancellations⟩

end Passed

/-- Between operations, and modulo 2^64, every registration was completed,
abandoned or purged, is outstanding on a session, was replaced under its
number, or was detached by a purge that found its handle fired. -/
theorem registrations_accounted {config : RegistryConfig} {allowed : Bool} {ms : List Machine}
    {m : Machine} (h : Passed ⟨.new (.new config allowed), .reply .nothing, []⟩ ms m)
    (hend : m.step = none) :
    m.scene.registry.stats.registered =
      m.scene.registry.stats.completed + m.scene.registry.stats.abandoned +
        m.scene.registry.stats.purged +
        UInt64.ofNat (m.scene.registry.sessionsWithMap.map m.scene.registry.outstanding).sum +
        UInt64.ofNat (ms.countP Machine.replaces) +
        UInt64.ofNat (ms.countP Machine.findsFired) ∧
      m.scene.registry.sessionsWithMap.Nodup ∧
      ∀ s, s ∉ m.scene.registry.sessionsWithMap → m.scene.registry.outstanding s = 0 := by
  have hb := h.ledger.balance
  refine ⟨?_, m.scene.registry.requests.nodup, fun s => Registry.outstanding_of_not_mem⟩
  obtain ⟨w, x, rfl⟩ := Machine.step_eq_none hend
  exact hb.trans (UInt64.add_zero _)

/-- Of two requests on one session the first cancels the other's handle from
its callback, and the session is purged; on another session a request is
replaced, and the one that replaced it stays outstanding. -/
def purgedAndReplaced : List Machine × Machine :=
  Machine.tour ([], ⟨.new (.new ⟨"ldap:", .direct⟩ true), .reply .nothing, []⟩)
    [(.makeHandle ⟨"other", ⟨2⟩, "search", true, none, none, none⟩ [], 1),
      (.makeHandle ⟨"first", ⟨1⟩, "search", true, none, none, some .returns⟩
        [.cancel "other"], 1),
      (.register ⟨"s"⟩ ⟨1⟩ "first", 1), (.register ⟨"s"⟩ ⟨2⟩ "other", 1),
      (.register ⟨"t"⟩ ⟨1⟩ "first", 1), (.register ⟨"t"⟩ ⟨1⟩ "other", 1), (.purge ⟨"s"⟩, 16)]

/-- Four registrations: one purged, one outstanding, one replaced, and one
found fired. -/
theorem one_purged_one_replaced_one_found_fired :
    purgedAndReplaced.2.step = none ∧
      purgedAndReplaced.2.scene.registry.stats.toList = [0, 0, 4, 0, 0, 1, 0] ∧
      purgedAndReplaced.1.countP Machine.replaces = 1 ∧
      purgedAndReplaced.1.countP Machine.findsFired = 1 ∧
      purgedAndReplaced.2.scene.registry.stats.registered = 0 + 0 + 1 +
        UInt64.ofNat (purgedAndReplaced.2.scene.registry.sessionsWithMap.map
          purgedAndReplaced.2.scene.registry.outstanding).sum + 1 + 1 := by
  have hend : purgedAndReplaced.2.step = none := rfl
  exact ⟨hend, by decide, by decide, by decide,
    (registrations_accounted (Passed.refl.tour _) hend).1⟩

end DirectorySessions
