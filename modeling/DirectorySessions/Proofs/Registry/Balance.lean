/-
# What is outstanding on all sessions

The requests outstanding on all sessions together change with the registrations
and their ends, and with nothing else (`Machine.step_allOutstanding`): a purge
takes all requests of its session at once, so that the map is empty when it is
let go of.

Nothing is assumed of the handles: they may be shared between numbers and
sessions, and cancelled by anyone at any time.
-/
import Mathlib.Algebra.GroupWithZero.Nat
import DirectorySessions.Proofs.Registry.Accounts
import DirectorySessions.Proofs.Registry.Effects

namespace DirectorySessions

namespace Event

def isRegistration : Event → Bool
  | .registered .. => true
  | _ => false

def isEndBy (how : RequestEnd) : Event → Bool
  | .ended _ _ _ how' => how' = how
  | _ => false

def isDetachment : Event → Bool
  | .ended _ _ _ how => how.detaches
  | _ => false

end Event

/-! ## Sums over tables -/

namespace Table

variable {κ α : Type}

theorem find?_eq_none {k : κ} [DecidableEq κ] {es : List (κ × α)}
    (h : k ∉ es.map Prod.fst) : find? k es = none := by
  induction es with
  | nil => rfl
  | cons e es ih =>
      obtain ⟨k', a⟩ := e
      rw [List.map_cons, List.mem_cons, not_or] at h
      rw [find?, if_neg (Ne.symm h.1), ih h.2]

def sum (g : α → Nat) (t : Table κ α) : Nat := (t.values.map g).sum

theorem size_eq_sum (t : Table κ α) : t.size = t.sum fun _ => 1 := by
  rw [sum, List.map_const', List.sum_replicate_nat, Nat.mul_one, values, List.length_map, size]

variable [DecidableEq κ] (g : α → Nat) (t : Table κ α) (k : κ)

/-- The measure of the value under a key; nothing if there is none. -/
def at? : Nat := ((t.get? k).map g).getD 0

theorem sum_insert (a : α) : (t.insert k a).sum g + t.at? g k = t.sum g + g a := by
  obtain ⟨es, hnd⟩ := t
  simp only [sum, at?, insert, values, get?]
  clear hnd
  induction es with
  | nil => simp [put, find?]
  | cons e es ih =>
      obtain ⟨k', a'⟩ := e
      by_cases hk : k' = k
      · simp only [put, find?, hk, if_true, List.map_cons, List.sum_cons, Option.map_some,
          Option.getD_some]
        omega
      · simp only [put, find?, if_neg hk, List.map_cons, List.sum_cons]
        omega

theorem sum_erase : (t.erase k).sum g + t.at? g k = t.sum g := by
  obtain ⟨es, hnd⟩ := t
  simp only [sum, at?, erase, values, get?]
  induction es with
  | nil => rfl
  | cons e es ih =>
      obtain ⟨k', a'⟩ := e
      rw [List.map_cons, List.nodup_cons] at hnd
      have hrest := ih hnd.2
      by_cases hk : k' = k
      · subst hk
        rw [find?_eq_none hnd.1] at hrest
        rw [drop_cons, if_pos rfl, find?, if_pos rfl]
        simp only [List.map_cons, List.sum_cons, Option.map_some, Option.getD_some,
          Option.map_none, Option.getD_none] at hrest ⊢
        omega
      · rw [drop_cons, if_neg hk, find?, if_neg hk]
        simp only [List.map_cons, List.sum_cons]
        omega

end Table

/-! ## What is outstanding on all sessions -/

namespace Registry

variable {r r' : Registry} {s : SessionId} {id : RequestId} {h : HandleId}

def allOutstanding (r : Registry) : Nat := (r.sessionsWithMap.map r.outstanding).sum

theorem outstanding_of_not_mem (hs : s ∉ r.sessionsWithMap) : r.outstanding s = 0 := by
  have ha : r.requests.get? s = none := Table.find?_eq_none hs
  rw [outstanding, requestsOf_of_absent ha, Table.size_emptyCollection]

theorem outstanding_eq_at? (r : Registry) (s : SessionId) :
    r.outstanding s = r.requests.at? (fun map => map.handles.size) s := by
  simp only [outstanding, requestsOf, Table.at?]
  cases r.requests.get? s <;> rfl

theorem allOutstanding_eq_sum (r : Registry) :
    r.allOutstanding = r.requests.sum fun map => map.handles.size := by
  simp only [allOutstanding, sessionsWithMap, Table.keys, Table.sum, Table.values, List.map_map]
  refine congrArg List.sum (List.map_congr_left ?_)
  intro e he
  simp only [Function.comp, outstanding_eq_at?, Table.at?, Table.get?_of_mem he, Option.map_some,
    Option.getD_some]

theorem allOutstanding_congr (hr : r'.requests = r.requests) :
    r'.allOutstanding = r.allOutstanding := by
  rw [allOutstanding_eq_sum, allOutstanding_eq_sum, hr]

theorem allOutstanding_setRequests (r : Registry) (s : SessionId)
    (hs : Table RequestId HandleId) :
    (r.setRequests s hs).allOutstanding + r.outstanding s = r.allOutstanding + hs.size := by
  rw [allOutstanding_eq_sum, allOutstanding_eq_sum, outstanding_eq_at?]
  exact Table.sum_insert _ r.requests s (.accepting hs)

theorem allOutstanding_takeOut (hl : r.lookup s id = some h) :
    (r.setRequests s ((r.requestsOf s).erase id)).allOutstanding + 1 = r.allOutstanding := by
  have hsum := allOutstanding_setRequests r s ((r.requestsOf s).erase id)
  have herase := Table.sum_erase (fun _ => 1) (r.requestsOf s) id
  rw [← Table.size_eq_sum, ← Table.size_eq_sum] at herase
  have hone : (r.requestsOf s).at? (fun _ => 1) id = 1 := by
    simp only [lookup] at hl
    simp only [Table.at?, hl, Option.map_some, Option.getD_some]
  rw [outstanding] at hsum
  omega

theorem allOutstanding_register (hr : r.register s id h = .ok r') :
    r'.allOutstanding + (r.replacing s id).length = r.allOutstanding + 1 := by
  rw [allOutstanding_congr (register_requests hr)]
  have hsum := allOutstanding_setRequests r s ((r.requestsOf s).insert id h)
  have hinsert := Table.sum_insert (fun _ => 1) (r.requestsOf s) id h
  rw [← Table.size_eq_sum, ← Table.size_eq_sum] at hinsert
  have hlen : (r.replacing s id).length = (r.requestsOf s).at? (fun _ => 1) id := by
    simp only [replacing, lookup, Table.at?]
    cases (r.requestsOf s).get? id <;> rfl
  rw [outstanding] at hsum
  omega

theorem allOutstanding_beginPurge {hs : List HandleId} (hb : r.beginPurge s = some (hs, r')) :
    r'.allOutstanding + (r.purgeEvents s).length = r.allOutstanding := by
  have hlen : (r.purgeEvents s).length = r.outstanding s := by
    rw [purgeEvents, List.length_map]
    rfl
  obtain ⟨map, -, -, rfl⟩ := beginPurge_eq_some hb
  rw [hlen, allOutstanding_eq_sum, allOutstanding_eq_sum, outstanding_eq_at?]
  exact Table.sum_insert (fun map => map.handles.size) r.requests s .closing

theorem allOutstanding_endPurge (hc : r.isClosing s = true) (n : Nat) :
    (r.endPurge s n).allOutstanding = r.allOutstanding := by
  have herase := Table.sum_erase (fun map => map.handles.size) r.requests s
  rw [← outstanding_eq_at?, outstanding, requestsOf_of_closing hc, Table.size_emptyCollection]
    at herase
  rw [allOutstanding_eq_sum, allOutstanding_eq_sum]
  exact herase

end Registry

/-! ## The events of a step, counted by kind -/

namespace Registry

variable {r : Registry} {s : SessionId} {id : RequestId} {h : HandleId}

theorem countP_replacing {p : Event → Bool} {b : Bool}
    (hp : ∀ h, p (.ended s id h .replaced) = b) :
    (r.replacing s id).countP p = if b = true then (r.replacing s id).length else 0 := by
  simp only [replacing]
  split
  · simp only [List.countP_singleton, hp, List.length_singleton]
  · simp

theorem countP_purgeEvents {p : Event → Bool} {b : Bool}
    (hp : ∀ id h, p (.ended s id h .purged) = b) :
    (r.purgeEvents s).countP p = if b = true then (r.purgeEvents s).length else 0 := by
  simp only [purgeEvents, List.countP_map, List.length_map]
  cases b with
  | true => exact List.countP_eq_length.mpr fun e _ => hp e.1 e.2
  | false =>
      refine List.countP_eq_zero.mpr fun e _ => ?_
      simp only [Function.comp, hp, Bool.false_eq_true, not_false_eq_true]

theorem countP_cancelEvents {p : Event → Bool} (hp : ∀ e, e.isCancel = true → p e = false) :
    (r.cancelEvents h).countP p = 0 := by
  refine List.countP_eq_zero.mpr ?_
  intro e he
  have hc : e.isCancel = true := by
    simp only [cancelEvents] at he
    rcases List.mem_cons.mp he with rfl | he
    · rfl
    · split at he
      · rw [List.mem_singleton.mp he]
        rfl
      · exact absurd he List.not_mem_nil
  rw [hp e hc]
  exact Bool.false_ne_true

theorem Effect.countP_isDetachment {r' : Registry} {a : Action} {es : List Event}
    (h : r.Effect a es r') : es.countP Event.isDetachment = 0 := by
  cases h with
  | register name hr =>
      rw [List.countP_append, countP_replacing (b := false) fun _ => rfl]
      rfl
  | _ => rfl

end Registry

namespace Machine

variable {m m' : Machine}

/-- Registrations come in and go out with their events. -/
theorem step_allOutstanding (h : m.step = some m') (hm : m.Marked) :
    m'.scene.registry.allOutstanding + m.events.countP Event.isEnd =
      m.scene.registry.allOutstanding + m.events.countP Event.isRegistration := by
  have hw := step_writes h
  generalize m.events = es at hw ⊢
  generalize m'.scene.registry = r at hw ⊢
  cases hw with
  | nothing => rfl
  | ask x ht => rfl
  | effect ht he =>
      cases he with
      | register name hr =>
          have hout := Registry.allOutstanding_register hr
          simp only [List.countP_append, List.countP_singleton,
            Registry.countP_replacing (p := Event.isEnd) (b := true) fun _ => rfl,
            Registry.countP_replacing (p := Event.isRegistration) (b := false) fun _ => rfl]
          simpa [Event.isEnd, Event.isRegistration] using hout
      | complete hc =>
          obtain ⟨hl, hr⟩ := Registry.complete_eq_some hc
          rw [Registry.allOutstanding_congr hr]
          exact Registry.allOutstanding_takeOut hl
      | token name t =>
          rw [Registry.allOutstanding_congr (Registry.cancelToken_requests _ t)]
          rfl
      | _ => rfl
  | takeOut ht hb =>
      obtain ⟨hl, rfl⟩ := Registry.beginAbandon_eq_taken hb
      exact Registry.allOutstanding_takeOut hl
  | fire ht =>
      rw [Registry.allOutstanding_congr (Registry.fire_requests _ _),
        Registry.countP_cancelEvents, Registry.countP_cancelEvents] <;>
      · intro e he
        cases e <;> first | rfl | cases he
  | countAbandoned ht => rfl
  | beginPurge ht hb =>
      rw [Registry.countP_purgeEvents (b := true) fun _ _ => rfl,
        Registry.countP_purgeEvents (b := false) fun _ _ => rfl]
      exact Registry.allOutstanding_beginPurge hb
  | @endPurge s n next ht =>
      have hc : m.scene.registry.isClosing s = true := by
        rw [hm.closing s, purging, ht]
        exact List.mem_cons_self
      rw [Registry.allOutstanding_endPurge hc]
      rfl
  | @forget s n next ht hn =>
      rw [Registry.allOutstanding_congr (Registry.forget_requests _ s)]
      rfl
  | signal hc =>
      rw [Registry.allOutstanding_congr (Registry.signalClose?_alike hc).1]
      rfl

end Machine

end DirectorySessions
