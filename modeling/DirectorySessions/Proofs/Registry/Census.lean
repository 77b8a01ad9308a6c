/-
# Sessions are accounted for

Two kinds of step move the records of sessions.  A session is opened, which
puts a record in place of the one that it may have; and a session whose
requests have been purged is forgotten, which drops its record if it still has
one.  Everything else leaves the records alone, together with the counters of
sessions opened and closed (`Machine.step_roll`).

A session can be forgotten by a close, a termination or a shutdown, and by a
callback while one of these is under way for the same session.  Whoever comes
first finds the record, drops it and counts it; the others find none.  So the
records in the table are the sessions that were opened, less those counted as
closed and those whose record was replaced.

Nothing is assumed of callbacks, and the equation holds in every state, also
in one in which a session has been purged and not yet forgotten, since a
record and the counter are moved by the same step.  How often an opening
replaced a record is counted on the states of the run, as the registry does
not count it; that counters are words of 64 bits makes it an equation modulo
2^64.
-/
import DirectorySessions.Proofs.Registry.Balance
import DirectorySessions.Proofs.Registry.Passages

namespace DirectorySessions

namespace Table

variable {κ α : Type} [DecidableEq κ]

theorem mem_keys {t : Table κ α} {k : κ} : k ∈ t.keys ↔ (t.get? k).isSome = true := by
  constructor
  · intro hk
    obtain ⟨⟨k', a⟩, he, rfl⟩ := List.mem_map.mp hk
    rw [get?_of_mem he]
    rfl
  · intro hs
    obtain ⟨a, ha⟩ := Option.isSome_iff_exists.mp hs
    exact List.mem_map.mpr ⟨(k, a), mem_of_get? ha, rfl⟩

end Table

/-! ## What a step does to the records -/

/-- Registries with the same records and openings, and with the same counters
of sessions. -/
structure Registry.SameRoll (r r' : Registry) : Prop where
  records : r'.records = r.records
  openings : r'.openings = r.openings
  opened : r'.stats.sessionsOpened = r.stats.sessionsOpened
  closed : r'.stats.sessionsClosed = r.stats.sessionsClosed

namespace Registry

variable {r r' : Registry} {s : SessionId} {id : RequestId} {h : HandleId}

theorem sameRoll_refl (r : Registry) : r.SameRoll r := ⟨rfl, rfl, rfl, rfl⟩

theorem cancelToken_sameRoll (r : Registry) (t : TokenId) : r.SameRoll (r.cancelToken t) := by
  simp only [cancelToken]
  split <;> exact ⟨rfl, rfl, rfl, rfl⟩

theorem fire_sameRoll (r : Registry) (h : HandleId) : r.SameRoll (r.fire h) := by
  simp only [fire]
  split
  · rename_i x hx
    split
    · exact sameRoll_refl r
    · obtain ⟨h₁, h₂, h₃, h₄⟩ := cancelToken_sameRoll r x.token
      exact ⟨h₁, h₂, h₃, h₄⟩
  · exact sameRoll_refl r

theorem signalClose?_sameRoll (hc : r.signalClose? s = some r') : r.SameRoll r' := by
  obtain ⟨t, -, rfl⟩ := Option.map_eq_some_iff.mp hc
  exact cancelToken_sameRoll r t

theorem forget_sameRoll (hn : r.records.get? s = none) : r.SameRoll (r.forget s) := by
  have hd : (r.dropContext s).records.get? s = none := hn
  simp only [forget, dropRecord, hd]
  exact ⟨rfl, rfl, rfl, rfl⟩

theorem Effect.sameRoll {a : Action} {es : List Event} (he : r.Effect a es r')
    (ho : ∀ s n, a ≠ .openSession s n) : r.SameRoll r' := by
  cases he with
  | token name t => exact cancelToken_sameRoll r t
  | register name hr =>
      rw [register_ok (not_closing_of_register hr)] at hr
      cases hr
      exact ⟨rfl, rfl, rfl, rfl⟩
  | complete hc =>
      obtain ⟨x, -, he⟩ := Option.map_eq_some_iff.mp hc
      cases he
      exact ⟨rfl, rfl, rfl, rfl⟩
  | opened s n => exact absurd rfl (ho s n)
  | _ => exact ⟨rfl, rfl, rfl, rfl⟩

end Registry

namespace Machine

variable {m m' : Machine} {s : SessionId}

def opening? (m : Machine) : Option SessionId :=
  match m.task with
  | .perform (.openSession s _) => some s
  | _ => none

def reopens (m : Machine) : Bool :=
  m.opening?.any fun s => (m.scene.registry.records.get? s).isSome

theorem opening?_eq_some (h : m.opening? = some s) : ∃ n, m.task = .perform (.openSession s n) := by
  simp only [opening?] at h
  split at h
  · rename_i s' n ht
    cases h
    exact ⟨n, ht⟩
  · cases h

theorem closing?_of_opening (h : m.opening? = some s) : m.closing? = none := by
  obtain ⟨n, ht⟩ := opening?_eq_some h
  simp only [closing?, ht]

theorem closing?_eq_some (h : m.closing? = some s) :
    ∃ n next, m.task = .purged s n next ∧ next.forgets = true ∧
      (m.scene.registry.records.get? s).isSome = true := by
  simp only [closing?] at h
  split at h
  · rename_i s' n next ht
    split at h
    · rename_i hb
      cases h
      rw [Bool.and_eq_true] at hb
      exact ⟨n, next, ht, hb⟩
    · cases h
  · cases h

theorem closing?_of_purged {n : Nat} {next : Teardown} (ht : m.task = .purged s n next)
    (hn : next.forgets = true) (hs : (m.scene.registry.records.get? s).isSome = true) :
    m.closing? = some s := by
  simp only [closing?, ht, hn, hs, Bool.and_self, if_true]

theorem forgets_of_ne {next : Teardown} (hn : next ≠ .purge) : next.forgets = true := by
  cases next with
  | purge => exact absurd rfl hn
  | _ => rfl

theorem step_opening (h : m.step = some m') (ho : m.opening? = some s) :
    m'.scene.registry = (m.scene.registry.openSession s).2 := by
  obtain ⟨w, t, ls⟩ := m
  obtain ⟨n, ht⟩ := opening?_eq_some ho
  subst ht
  cases h
  exact nameToken_registry _ n _

theorem step_closing (h : m.step = some m') (hc : m.closing? = some s) :
    m'.scene.registry = m.scene.registry.forget s := by
  obtain ⟨w, t, ls⟩ := m
  obtain ⟨n, next, ht, hn, -⟩ := closing?_eq_some hc
  subst ht
  cases h
  cases next with
  | purge => cases hn
  | _ => rfl

theorem step_sameRoll (h : m.step = some m') (ho : m.opening? = none) (hc : m.closing? = none) :
    m.scene.registry.SameRoll m'.scene.registry := by
  have hw := step_writes h
  generalize m.events = es at hw
  generalize m'.scene.registry = r at hw ⊢
  cases hw with
  | effect ht he =>
      refine he.sameRoll ?_
      rintro s n rfl
      simp only [opening?, ht] at ho
      cases ho
  | takeOut ht hb =>
      obtain ⟨-, rfl⟩ := Registry.beginAbandon_eq_taken hb
      exact ⟨rfl, rfl, rfl, rfl⟩
  | @fire x why ht => exact Registry.fire_sameRoll _ x
  | beginPurge ht hb =>
      obtain ⟨map, -, -, rfl⟩ := Registry.beginPurge_eq_some hb
      exact ⟨rfl, rfl, rfl, rfl⟩
  | @forget s n next ht hn =>
      cases hr : m.scene.registry.records.get? s with
      | none => exact Registry.forget_sameRoll hr
      | some t =>
          have hs : (m.scene.registry.records.get? s).isSome = true := by rw [hr]; rfl
          rw [closing?_of_purged ht (forgets_of_ne hn) hs] at hc
          cases hc
  | signal hs => exact Registry.signalClose?_sameRoll hs
  | _ => exact ⟨rfl, rfl, rfl, rfl⟩

/-- A step opens a session, drops a session's record, or leaves the records and
the counters of sessions as they are. -/
theorem step_roll (h : m.step = some m') :
    (∃ s, m.opening? = some s ∧ m.closing? = none ∧
      m'.scene.registry = (m.scene.registry.openSession s).2) ∨
    (∃ s, m.opening? = none ∧ m.closing? = some s ∧
      (m.scene.registry.records.get? s).isSome = true ∧
      m'.scene.registry = m.scene.registry.forget s) ∨
    (m.opening? = none ∧ m.closing? = none ∧
      m.scene.registry.SameRoll m'.scene.registry) := by
  cases ho : m.opening? with
  | some s => exact Or.inl ⟨s, rfl, closing?_of_opening ho, step_opening h ho⟩
  | none =>
      cases hc : m.closing? with
      | some s =>
          obtain ⟨-, -, -, -, hs⟩ := closing?_eq_some hc
          exact Or.inr (Or.inl ⟨s, rfl, rfl, hs, step_closing h hc⟩)
      | none => exact Or.inr (Or.inr ⟨rfl, rfl, step_sameRoll h ho hc⟩)

end Machine

/-! ## The number of records -/

namespace Registry

variable {r : Registry} {s : SessionId}

theorem records_at? (r : Registry) (s : SessionId) :
    r.records.at? (fun _ => 1) s = r.recorded s := by
  simp only [Table.at?, recorded]
  cases r.records.get? s <;> rfl

theorem openSession_size (r : Registry) (s : SessionId) :
    (r.openSession s).2.records.size + r.recorded s = r.records.size + 1 := by
  rw [Table.size_eq_sum, Table.size_eq_sum, ← records_at?]
  exact Table.sum_insert _ r.records s _

theorem forget_size (hs : (r.records.get? s).isSome = true) :
    (r.forget s).records.size + 1 = r.records.size := by
  obtain ⟨t, ht⟩ := Option.isSome_iff_exists.mp hs
  have hd : (r.dropContext s).records.get? s = some t := ht
  have hone : r.records.at? (fun _ => 1) s = 1 := by
    rw [records_at?, recorded, if_pos hs]
  have hrec : (r.forget s).records = r.records.erase s := by
    simp only [forget, dropRecord, hd, (cancelToken_books _ t).2]
    rfl
  have hsum := Table.sum_erase (fun _ => 1) r.records s
  rw [hone, ← hrec, ← Table.size_eq_sum, ← Table.size_eq_sum] at hsum
  exact hsum

theorem forget_sessionsOpened (r : Registry) (s : SessionId) :
    (r.forget s).stats.sessionsOpened = r.stats.sessionsOpened := by
  rw [(forget_books r s).1]
  split <;> rfl

end Registry

namespace Machine

variable {m m' : Machine}

/-- A record comes in where a session is opened, and goes out where the session
is counted as closed or the record is replaced. -/
theorem step_census (h : m.step = some m') :
    m'.scene.registry.records.size + m.closing?.toList.length + m.reopens.toNat =
        m.scene.registry.records.size + m.opening?.toList.length ∧
      m'.scene.registry.stats.sessionsOpened = m.scene.registry.stats.sessionsOpened +
        UInt64.ofNat m.opening?.toList.length := by
  rcases step_roll h with ⟨s, ho, hc, hr⟩ | ⟨s, ho, hc, hs, hr⟩ | ⟨ho, hc, hr⟩
  · have hsize := Registry.openSession_size m.scene.registry s
    have hre : m.reopens.toNat = m.scene.registry.recorded s := by
      simp only [reopens, ho, Option.any_some, Registry.recorded]
      cases (m.scene.registry.records.get? s).isSome <;> rfl
    rw [hr, ho, hc, hre]
    exact ⟨hsize, rfl⟩
  · have hsize := Registry.forget_size hs
    have hre : m.reopens = false := by simp only [reopens, ho, Option.any_none]
    rw [hr, ho, hc, hre, Registry.forget_sessionsOpened]
    exact ⟨hsize, (UInt64.add_zero _).symm⟩
  · have hre : m.reopens = false := by simp only [reopens, ho, Option.any_none]
    rw [ho, hc, hre, hr.records, hr.opened]
    exact ⟨rfl, (UInt64.add_zero _).symm⟩

end Machine

/-! ## Along a run -/

namespace Passed

variable {m₀ m : Machine} {ms : List Machine}

theorem length_filterMap_snoc {α : Type} (f : Machine → Option α) (ms : List Machine)
    (m : Machine) :
    ((ms ++ [m]).filterMap f).length = (ms.filterMap f).length + (f m).toList.length := by
  rw [List.filterMap_append, List.length_append]
  cases hf : f m with
  | none => rw [List.filterMap_cons_none hf]; rfl
  | some a => rw [List.filterMap_cons_some hf]; rfl

/-- The records that came in are there, were counted as closed, or were replaced. -/
theorem census (h : Passed m₀ ms m) :
    m.scene.registry.records.size + (ms.filterMap Machine.closing?).length +
        ms.countP Machine.reopens =
      m₀.scene.registry.records.size + (ms.filterMap Machine.opening?).length := by
  induction h with
  | refl => rfl
  | @step ms m m' h hs ih =>
      have hstep := (Machine.step_census hs).1
      have hcount : (ms ++ [m]).countP Machine.reopens =
          ms.countP Machine.reopens + m.reopens.toNat := by
        rw [List.countP_append, List.countP_singleton]
        cases m.reopens <;> rfl
      rw [length_filterMap_snoc, length_filterMap_snoc, hcount]
      omega
  | next h hs a ih => exact ih

theorem sessionsOpened (h : Passed m₀ ms m) :
    m.scene.registry.stats.sessionsOpened = m₀.scene.registry.stats.sessionsOpened +
      UInt64.ofNat (ms.filterMap Machine.opening?).length := by
  induction h with
  | refl => exact (UInt64.add_zero _).symm
  | @step ms m m' h hs ih =>
      rw [length_filterMap_snoc, UInt64.ofNat_add, ← UInt64.add_assoc, ← ih]
      exact (Machine.step_census hs).2
  | next h hs a ih => exact ih

end Passed

/-! ## The list of sessions -/

namespace Registry

variable {r : Registry} {s : SessionId} {i : SessionInfo}

theorem length_listSessions (r : Registry) : r.listSessions.length = r.records.size := by
  rw [listSessions, List.length_map, openSessions, Table.keys, List.length_map, Table.size]

theorem ids_listSessions (r : Registry) : r.listSessions.map SessionInfo.id = r.records.keys := by
  rw [listSessions, List.map_map]
  exact List.map_id _

theorem mem_listSessions (hi : i ∈ r.listSessions) :
    i.bound = r.isBound i.id ∧ i.outstanding = r.outstanding i.id := by
  obtain ⟨s, -, rfl⟩ := List.mem_map.mp hi
  exact ⟨rfl, rfl⟩

theorem outstanding_eq_length (r : Registry) (s : SessionId) :
    ∃ ids : List RequestId, ids.Nodup ∧ ids.length = r.outstanding s ∧
      ∀ id, id ∈ ids ↔ ∃ h, r.lookup s id = some h := by
  refine ⟨(r.requestsOf s).keys, (r.requestsOf s).nodup, ?_, ?_⟩
  · exact List.length_map _
  · intro id
    rw [Table.mem_keys, Option.isSome_iff_exists]
    rfl

end Registry

/-- In every state of every run, within callbacks too, and modulo 2^64: the
sessions that were opened were closed, are listed, or had their record replaced
by a later opening.  The list has one entry for each session with a record, and
says of it whether a context is bound to it and how many requests are
outstanding on it. -/
theorem sessions_accounted {config : RegistryConfig} {allowed : Bool} {ms : List Machine}
    {m : Machine} (h : Passed ⟨.new (.new config allowed), .reply .nothing, []⟩ ms m) :
    m.scene.registry.stats.sessionsOpened =
        m.scene.registry.stats.sessionsClosed +
          UInt64.ofNat m.scene.registry.listSessions.length +
          UInt64.ofNat (ms.countP Machine.reopens) ∧
      (m.scene.registry.listSessions.map Registry.SessionInfo.id).Nodup ∧
      (∀ s, (∃ i ∈ m.scene.registry.listSessions, i.id = s) ↔
        ∃ t, m.scene.registry.records.get? s = some t) ∧
      ∀ i ∈ m.scene.registry.listSessions,
        (i.bound = true ↔ ∃ c, m.scene.registry.contexts.get? i.id = some c) ∧
        ∃ ids : List RequestId, ids.Nodup ∧ ids.length = i.outstanding ∧
          ∀ id, id ∈ ids ↔ ∃ x, m.scene.registry.lookup i.id id = some x := by
  refine ⟨?_, ?_, ?_, ?_⟩
  · have hcensus := h.census
    have hnone : (Registry.new config allowed).records.size = 0 := rfl
    rw [show (Scene.new (.new config allowed)).registry = .new config allowed from rfl, hnone,
      Nat.zero_add] at hcensus
    rw [h.sessionsOpened, h.sessionsClosed, ← hcensus, Registry.length_listSessions,
      UInt64.ofNat_add, UInt64.ofNat_add, UInt64.add_comm (UInt64.ofNat _) (UInt64.ofNat _),
      UInt64.add_assoc, UInt64.add_assoc, UInt64.add_assoc]
    rfl
  · rw [Registry.ids_listSessions]
    exact m.scene.registry.records.nodup
  · intro s
    rw [← List.mem_map, Registry.ids_listSessions, Table.mem_keys, Option.isSome_iff_exists]
  · intro i hi
    obtain ⟨hb, ho⟩ := Registry.mem_listSessions hi
    rw [hb, ho]
    refine ⟨?_, Registry.outstanding_eq_length _ _⟩
    rw [← Option.isSome_iff_exists]
    rfl

/-- A session is opened twice; while it is closed, a callback of one of its
requests closes it as well and opens it again. -/
def reopenedWhileClosed : List Machine × Machine :=
  Machine.tour ([], ⟨.new (.new ⟨"ldap:", .direct⟩ true), .reply .nothing, []⟩)
    [(.openSession ⟨"s"⟩ none, 1), (.openSession ⟨"s"⟩ none, 1),
      (.makeHandle ⟨"first", ⟨1⟩, "search", true, none, none, some .returns⟩
        [.closeSession ⟨"s"⟩, .openSession ⟨"s"⟩ none], 1),
      (.register ⟨"s"⟩ ⟨1⟩ "first", 1), (.closeSession ⟨"s"⟩, 9)]

/-- Three openings, seen from within the callback: one closed, one listed, and
one replaced. -/
theorem one_closed_one_listed_one_replaced :
    reopenedWhileClosed.2.levels.length = 1 ∧
      reopenedWhileClosed.2.scene.registry.stats.toList = [3, 1, 1, 0, 0, 0, 0] ∧
      reopenedWhileClosed.2.scene.registry.stats.sessionsOpened =
        1 + UInt64.ofNat reopenedWhileClosed.2.scene.registry.listSessions.length + 1 ∧
      reopenedWhileClosed.2.scene.registry.listSessions.map Registry.SessionInfo.id = [⟨"s"⟩] := by
  exact ⟨by decide, by decide, (sessions_accounted (Passed.refl.tour _)).1, by decide⟩

end DirectorySessions
