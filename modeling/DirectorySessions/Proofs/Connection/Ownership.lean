/-
# Whose response it is

A job that is done takes out whatever is outstanding under its number.  Its
handle is under that number as long as the request has not been abandoned,
purged or answered, and then the job answers for itself.  But a number may be
used again as soon as nothing is outstanding under it, and the job of an
abandoned request goes on until it notices.  If a later request has the number
by then, the job takes out that request, and answers in its place; the later
job then finds nothing and keeps silent.  A bind that is under way is taken
out in the same way, only that the bind does answer when it is settled, so
that the client hears twice.

`answers_own_unless_reused` draws the line exactly.  It rests on the balance
of `settles`: a handle that was brought in is outstanding until one of a few
things has happened to it, and only one of them ever does.

## What is assumed, and how the proof goes

Nothing is outstanding on the session when its connection is accepted, and the
others may take requests of the session out, but put none in (`Spares`).
Without the second a job could take out a request that the connection knows
nothing of.

Two invariants are carried along a course.  `Owned` says whose the outstanding
requests are: each is a job's or the bind's, under its number.  `Traced` says
how they got there: what is outstanding under a number and what was taken out
from it add up to what was brought in.  `Step.balance` is that sum for a
single step, and `Course.invariant` the induction.  Courses are followed to a
job that is about to finish, so the theorem is about every job at every
moment, whatever it comes to.
-/
import DirectorySessions.Proofs.Connection.Course

namespace DirectorySessions

namespace Connection

/-- What others may do: they may take requests of the session out, but put
none in, and they leave handles as they were made. -/
structure Spares (s : SessionId) (w w' : Scene) : Prop where
  lookup : ∀ id h, w'.registry.lookup s id = some h → w.registry.lookup s id = some h
  kept : w.registry.Kept w'.registry

namespace JobEvent

/-- Does a job or a bind begin with this handle? -/
def brings (h : HandleId) : JobEvent → Bool
  | .began j => j.handle = h
  | .bindBegan b => b.handle = h
  | _ => false

def begins (id : RequestId) (h : HandleId) : JobEvent → Bool
  | .began j => j.id = id ∧ j.handle = h
  | .bindBegan b => b.id = id ∧ b.handle = h
  | _ => false

/-- Does the event take the handle out from under the number? -/
def settles (id : RequestId) (h : HandleId) : JobEvent → Bool
  | .began _ | .bindBegan _ => false
  | .bindSettled b took => b.id = id ∧ took = some h
  | .abandoned id' h' => id' = id ∧ h' = h
  | .purged id' h' => id' = id ∧ h' = h
  | .finished j _ took => j.id = id ∧ took = some h

/-- Is a request lost, and nothing else? -/
def isLoss : JobEvent → Bool
  | .abandoned .. | .purged .. => true
  | _ => false

/-- The number that is in use from now on. -/
def taken? : JobEvent → Option RequestId
  | .began j => some j.id
  | .bindBegan b => some b.id
  | _ => none

theorem brings_of_begins {e : JobEvent} {id : RequestId} {h : HandleId}
    (he : e.begins id h = true) : e.brings h = true := by
  cases e with
  | began j =>
      simp only [begins, decide_eq_true_eq] at he
      simpa only [brings, decide_eq_true_eq] using he.2
  | bindBegan b =>
      simp only [begins, decide_eq_true_eq] at he
      simpa only [brings, decide_eq_true_eq] using he.2
  | _ => cases he

theorem isLoss_of_brings {e : JobEvent} {h : HandleId} (he : e.brings h = true) :
    e.isLoss = false := by
  cases e with
  | abandoned id x => cases he
  | purged id x => cases he
  | _ => rfl

end JobEvent

theorem isLoss_of_lost {s : SessionId} {w w' : Scene} {e : JobEvent}
    (he : e ∈ lostEvents s w w') : e.isLoss = true := by
  obtain ⟨p, -, rfl⟩ := List.mem_map.mp he
  rfl

section Invariants

variable {w w' : Scene} {c c' : Connection} {es es' : List JobEvent}

theorem Owned.eq_of_handle (ho : Owned w c) {j k : Job} (hj : j ∈ c.jobs) (hk : k ∈ c.jobs)
    (he : j.handle = k.handle) : j = k := by
  have hnd := ho.distinct
  generalize c.jobs = js at hj hk hnd
  induction js with
  | nil => exact absurd hj List.not_mem_nil
  | cons x xs ih =>
      obtain ⟨hnot, hnd⟩ := List.nodup_cons.mp hnd
      rcases List.mem_cons.mp hj with rfl | hj'
      · rcases List.mem_cons.mp hk with rfl | hk'
        · rfl
        · exact absurd (List.mem_map.mpr ⟨k, hk', he.symm⟩) hnot
      · rcases List.mem_cons.mp hk with rfl | hk'
        · exact absurd (List.mem_map.mpr ⟨j, hj', he⟩) hnot
        · exact ih hj' hk' hnd

theorem Owned.knows (ho : Owned w c) {j : Job} (hj : j ∈ c.jobs) : w.registry.Knows j.handle := by
  obtain ⟨x, hx, -⟩ := ho.made hj
  exact Registry.knows_iff.mpr ⟨x, hx⟩

theorem Owned.knows_of_lookup (ho : Owned w c) {id : RequestId} {h : HandleId}
    (hl : w.registry.lookup c.session id = some h) : w.registry.Knows h := by
  rcases ho.owner hl with ⟨j, hj, rfl, -⟩ | ⟨b, hb, rfl, -⟩
  · exact ho.knows hj
  · obtain ⟨x, hx, -⟩ := ho.bindMade hb
    exact Registry.knows_iff.mpr ⟨x, hx⟩

/-- A handle that is kept goes on calling nobody back. -/
theorem made_of_kept (hk : w.registry.Kept w'.registry) {h : HandleId} {b : Bool}
    (hmade : ∃ x, w.registry.handle? h = some x ∧ x.cancellable = b ∧ x.callback = none) :
    ∃ x, w'.registry.handle? h = some x ∧ x.cancellable = b ∧ x.callback = none := by
  obtain ⟨x, hx, hc⟩ := hmade
  obtain ⟨f, hf⟩ := hk _ x hx
  exact ⟨_, hf, hc⟩

theorem Owned.of_sparing (ho : Owned w c) (hs : c'.session = c.session)
    (hk : w.registry.Kept w'.registry) (hj : c'.jobs = c.jobs) (hp : c'.pending = c.pending)
    (hl : ∀ id h, w'.registry.lookup c.session id = some h →
      w.registry.lookup c.session id = some h) : Owned w' c' := by
  refine ⟨?_, by rw [hj]; exact ho.distinct, ?_, ?_, ?_⟩
  · intro id h hin
    rw [hs] at hin
    rw [hj, hp]
    exact ho.owner (hl id h hin)
  · intro j hin
    rw [hj] at hin
    exact made_of_kept hk (ho.made hin)
  · intro b hb
    rw [hp] at hb
    exact made_of_kept hk (ho.bindMade hb)
  · intro b h hb hin
    rw [hp] at hb
    rw [hs] at hin
    exact ho.alone hb (hl _ h hin)

theorem Owned.step (ho : Owned w c) (h : Step w c es w' c') : Owned w' c' := by
  obtain ⟨hs, hk, hc⟩ := h
  have still : ∀ {j}, j ∈ c.jobs → ∃ x, w'.registry.handle? j.handle = some x ∧
      x.cancellable = true ∧ x.callback = none :=
    fun hj => made_of_kept hk (ho.made hj)
  have without : ∀ {id id' : RequestId} {h : HandleId},
      (if id = id' then none else w.registry.lookup c.session id') = some h →
        id ≠ id' ∧ w.registry.lookup c.session id' = some h := by
    intro id id' h hin
    split at hin
    · cases hin
    · exact ⟨‹_›, hin⟩
  cases hc with
  | quiet hl hj hp => exact ho.of_sparing hs hk hj hp fun id h hin => by rwa [hl] at hin
  | lost hl hj hp => exact ho.of_sparing hs hk hj hp hl
  | abandoned id h hh hl hj hp =>
      refine ho.of_sparing hs hk hj hp ?_
      intro id' h' hin
      rw [hl] at hin
      exact (without hin).2
  | began j hfree hnew hmade hl hj hn hp =>
      refine ⟨?_, ?_, ?_, ?_, ?_⟩
      · intro id h hin
        rw [hs, hl] at hin
        rw [hj]
        split at hin
        · rename_i he
          cases hin
          exact Or.inl ⟨j, List.mem_append_right _ List.mem_cons_self, rfl, he⟩
        · obtain ⟨k, hk', hkh, hki⟩ := ho.job hn hin
          exact Or.inl ⟨k, List.mem_append_left _ hk', hkh, hki⟩
      · rw [hj, List.map_append, List.nodup_append]
        refine ⟨ho.distinct, List.nodup_cons.mpr ⟨List.not_mem_nil, List.nodup_nil⟩, ?_⟩
        intro a ha b hb heq
        obtain ⟨k, hk', rfl⟩ := List.mem_map.mp ha
        cases List.mem_singleton.mp hb
        exact hnew (heq ▸ ho.knows hk')
      · intro k hin
        rw [hj] at hin
        rcases List.mem_append.mp hin with hin | hin
        · exact still hin
        · cases List.mem_singleton.mp hin
          exact hmade
      · intro b hb
        rw [hp] at hb
        cases hb
      · intro b h hb
        rw [hp] at hb
        cases hb
  | bindBegan b hfree hnew hmade hl hj hn hp =>
      refine ⟨?_, by rw [hj]; exact ho.distinct, ?_, ?_, ?_⟩
      · intro id h hin
        rw [hs, hl] at hin
        rw [hj]
        split at hin
        · rename_i he
          cases hin
          exact Or.inr ⟨b, hp, rfl, he⟩
        · exact Or.inl (ho.job hn hin)
      · intro k hin
        rw [hj] at hin
        exact still hin
      · intro b' hb'
        cases hp.symm.trans hb'
        exact hmade
      · intro b' h hb' hin
        cases hp.symm.trans hb'
        rw [hs, hl, if_pos rfl] at hin
        cases hin
        rfl
  | bindSettled b hb hl hj hp =>
      refine ⟨?_, by rw [hj]; exact ho.distinct, ?_, ?_, ?_⟩
      · intro id h hin
        rw [hs, hl] at hin
        obtain ⟨hne, hin⟩ := without hin
        rw [hj]
        rcases ho.owner hin with hjob | ⟨b', hb', -, hid⟩
        · exact Or.inl hjob
        · cases hb.symm.trans hb'
          exact absurd hid hne
      · intro k hin
        rw [hj] at hin
        exact still hin
      · intro b' hb'
        rw [hp] at hb'
        cases hb'
      · intro b' h hb'
        rw [hp] at hb'
        cases hb'
  | finished j o hin₀ hl hj hp =>
      refine ⟨?_, ?_, ?_, ?_, ?_⟩
      · intro id h hin
        rw [hs, hl] at hin
        obtain ⟨hne, hin⟩ := without hin
        rcases ho.owner hin with ⟨k, hk', hkh, hki⟩ | hbind
        · refine Or.inl ⟨k, ?_, hkh, hki⟩
          rw [hj, List.mem_filter]
          refine ⟨hk', ?_⟩
          simp only [Bool.not_eq_true', decide_eq_false_iff_not]
          intro he
          rw [ho.eq_of_handle hk' hin₀ he] at hki
          exact hne hki
        · rw [hp]
          exact Or.inr hbind
      · rw [hj]
        exact ho.distinct.sublist (List.filter_sublist.map Job.handle)
      · intro k hin
        rw [hj, List.mem_filter] at hin
        exact still hin.1
      · intro b hb
        rw [hp] at hb
        exact made_of_kept hk (ho.bindMade hb)
      · intro b h hb hin
        rw [hp] at hb
        rw [hs, hl] at hin
        exact ho.alone hb (without hin).2

/-! ## The balance -/

theorem countP_begins_lost (s : SessionId) (w w' : Scene) (id : RequestId) (h : HandleId) :
    (lostEvents s w w').countP (JobEvent.begins id h) = 0 := by
  refine List.countP_eq_zero.mpr ?_
  intro e he
  obtain ⟨p, -, rfl⟩ := List.mem_map.mp he
  simp [JobEvent.begins]

theorem countP_settles_lost (s : SessionId) (w w' : Scene) (id : RequestId) (h : HandleId) :
    (lostEvents s w w').countP (JobEvent.settles id h) =
      if w'.registry.lookup s id = some h then 0 else w.registry.seat s id h := by
  simp only [lostEvents]
  rw [List.countP_map, List.countP_filter]
  split
  · rename_i hl
    refine List.countP_eq_zero.mpr ?_
    intro p _
    obtain ⟨i, y⟩ := p
    simp only [JobEvent.settles, Function.comp, Bool.and_eq_true, decide_eq_true_eq,
      Bool.not_eq_true', decide_eq_false_iff_not, not_and, Decidable.not_not]
    rintro ⟨rfl, rfl⟩
    exact hl
  · rename_i hl
    rw [Registry.seat, Registry.lookup, ← Table.count_entries, List.count_eq_countP]
    refine List.countP_congr ?_
    intro p _
    obtain ⟨i, y⟩ := p
    simp only [JobEvent.settles, Function.comp, Bool.and_eq_true, decide_eq_true_eq,
      Bool.not_eq_true', decide_eq_false_iff_not, beq_iff_eq, Prod.mk.injEq]
    constructor
    · exact fun hp => hp.1
    · rintro ⟨rfl, rfl⟩
      exact ⟨⟨rfl, rfl⟩, hl⟩

/-- A handle comes in with its job or bind, and goes out when it is settled. -/
theorem Step.balance (h : Step w c es w' c') (id : RequestId) (x : HandleId) :
    w'.registry.seat c.session id x + es.countP (JobEvent.settles id x) =
      w.registry.seat c.session id x + es.countP (JobEvent.begins id x) := by
  have hc := h.change
  cases hc with
  | quiet hl hj hp =>
      simp only [Registry.seat, hl]
      rfl
  | lost hl hj hp =>
      rw [countP_begins_lost, countP_settles_lost]
      simp only [Registry.seat]
      split
      · rename_i hin
        rw [if_pos (hl _ _ hin)]
      · omega
  | abandoned id' y hh hl hj hp =>
      simp only [Registry.seat, hl]
      by_cases he : id' = id
      · subst he
        simp [hh, JobEvent.settles, JobEvent.begins, List.countP_cons]
      · simp [he, JobEvent.settles, JobEvent.begins]
  | began j hfree hnew hmade hl hj hn hp =>
      simp only [Registry.seat, hl]
      by_cases he : j.id = id
      · subst he
        simp [hfree, JobEvent.settles, JobEvent.begins, List.countP_cons]
      · simp [he, JobEvent.settles, JobEvent.begins]
  | bindBegan b hfree hnew hmade hl hj hn hp =>
      simp only [Registry.seat, hl]
      by_cases he : b.id = id
      · subst he
        simp [hfree, JobEvent.settles, JobEvent.begins, List.countP_cons]
      · simp [he, JobEvent.settles, JobEvent.begins]
  | bindSettled b hb hl hj hp =>
      simp only [Registry.seat, hl]
      by_cases he : b.id = id
      · subst he
        simp [JobEvent.settles, JobEvent.begins, List.countP_cons]
      · simp [he, JobEvent.settles, JobEvent.begins]
  | finished j o hin hl hj hp =>
      simp only [Registry.seat, hl]
      by_cases he : j.id = id
      · subst he
        simp [JobEvent.settles, JobEvent.begins, List.countP_cons]
      · simp [he, JobEvent.settles, JobEvent.begins]

/-- What the events say about what is under way: no handle was brought in
twice, the jobs are those that began and are not done, the pending bind has
begun, and a bind took out nothing but its own handle. -/
structure Traced (es : List JobEvent) (w : Scene) (c : Connection) : Prop where
  once : ∀ x, es.countP (JobEvent.brings x) ≤ 1
  known : ∀ {e x}, e ∈ es → e.brings x = true → w.registry.Knows x
  ended : ∀ {j o t}, .finished j o t ∈ es → .began j ∈ es
  running : ∀ {j}, j ∈ c.jobs ↔ .began j ∈ es ∧ ∀ o t, .finished j o t ∉ es
  pending : ∀ {b}, c.pending = some b → .bindBegan b ∈ es
  settled : ∀ {b t}, .bindSettled b t ∈ es →
    .bindBegan b ∈ es ∧ ∀ x, t = some x → x = b.handle
  balance : ∀ id x, w.registry.seat c.session id x + es.countP (JobEvent.settles id x) =
    es.countP (JobEvent.begins id x)

theorem Traced.still (ht : Traced es w c) (h : Step w c es' w' c') (hj : c'.jobs = c.jobs)
    (hp : c'.pending = c.pending) (hq : ∀ e ∈ es', e.isLoss = true) :
    Traced (es ++ es') w' c' := by
  have old : ∀ {e}, e.isLoss = false → (e ∈ es ++ es' ↔ e ∈ es) := by
    intro e he
    rw [List.mem_append]
    refine or_iff_left ?_
    intro hin
    rw [hq e hin] at he
    cases he
  refine ⟨?_, ?_, ?_, ?_, ?_, ?_, ?_⟩
  · intro x
    have hz : es'.countP (JobEvent.brings x) = 0 := by
      refine List.countP_eq_zero.mpr ?_
      intro e he hb
      have hloss := hq e he
      rw [JobEvent.isLoss_of_brings hb] at hloss
      cases hloss
    rw [List.countP_append, hz]
    exact ht.once x
  · intro e x hin hb
    have hin := (old (JobEvent.isLoss_of_brings hb)).mp hin
    exact Registry.knows_of_kept h.kept (ht.known hin hb)
  · intro j o t hin
    exact (old rfl).mpr (ht.ended ((old rfl).mp hin))
  · intro j
    simp only [hj, old (e := .began _) rfl, old (e := .finished _ _ _) rfl]
    exact ht.running
  · intro b hb
    rw [hp] at hb
    exact (old rfl).mpr (ht.pending hb)
  · intro b t hin
    obtain ⟨hbegan, htook⟩ := ht.settled ((old rfl).mp hin)
    exact ⟨(old rfl).mpr hbegan, htook⟩
  · intro id x
    have hbal := h.balance id x
    rw [h.session, List.countP_append, List.countP_append]
    have := ht.balance id x
    omega

theorem Traced.once_snoc (ht : Traced es w c) {e : JobEvent} {h : HandleId}
    (hnew : ¬ w.registry.Knows h) (he : ∀ x, e.brings x = true → x = h) (x : HandleId) :
    (es ++ [e]).countP (JobEvent.brings x) ≤ 1 := by
  rw [List.countP_append, List.countP_singleton]
  split
  · rename_i hx
    have hz : es.countP (JobEvent.brings x) = 0 := by
      refine List.countP_eq_zero.mpr ?_
      intro e' he' hb
      have hknown := ht.known he' hb
      rw [he x hx] at hknown
      exact hnew hknown
    omega
  · exact ht.once x

theorem Traced.known_snoc (ht : Traced es w c) (hk : w.registry.Kept w'.registry)
    {e e' : JobEvent} {x : HandleId} (hin : e' ∈ es ++ [e]) (hb : e'.brings x = true)
    (he : ∀ x, e.brings x = true → w'.registry.Knows x) : w'.registry.Knows x := by
  rcases List.mem_append.mp hin with hin | hin
  · exact Registry.knows_of_kept hk (ht.known hin hb)
  · cases List.mem_singleton.mp hin
    exact he x hb

theorem Traced.step (ht : Traced es w c) (ho : Owned w c) (h : Step w c es' w' c') :
    Traced (es ++ es') w' c' := by
  have hbal : ∀ id x, w'.registry.seat c'.session id x +
      (es ++ es').countP (JobEvent.settles id x) = (es ++ es').countP (JobEvent.begins id x) := by
    intro id x
    have h₁ := h.balance id x
    have h₂ := ht.balance id x
    rw [h.session, List.countP_append, List.countP_append]
    omega
  have hc := h.change
  cases hc with
  | quiet hl hj hp => exact ht.still h hj hp fun e he => absurd he List.not_mem_nil
  | abandoned id y hh hl hj hp => exact ht.still h hj hp (by simp [JobEvent.isLoss])
  | lost hl hj hp => exact ht.still h hj hp fun e he => isLoss_of_lost he
  | began j hfree hnew hmade hl hj hn hp =>
      have hnot : .began j ∉ es := fun hin => hnew (ht.known hin (by simp [JobEvent.brings]))
      have hbrings : ∀ x, JobEvent.brings x (.began j) = true → x = j.handle := by
        intro x hx
        exact (of_decide_eq_true hx).symm
      obtain ⟨y, hy, -⟩ := hmade
      have hknows := Registry.knows_iff.mpr ⟨y, hy⟩
      refine ⟨ht.once_snoc hnew hbrings,
        fun hin hb => ht.known_snoc h.kept hin hb fun x hx => hbrings x hx ▸ hknows,
        ?_, ?_, ?_, ?_, hbal⟩
      · intro k o t hin
        rcases List.mem_append.mp hin with hin | hin
        · exact List.mem_append_left _ (ht.ended hin)
        · cases List.mem_singleton.mp hin
      · intro k
        rw [hj]
        simp only [List.mem_append, List.mem_singleton, ht.running, JobEvent.began.injEq,
          reduceCtorEq, or_false]
        constructor
        · rintro (⟨hb, hf⟩ | rfl)
          · exact ⟨Or.inl hb, hf⟩
          · exact ⟨Or.inr rfl, fun o t hin => hnot (ht.ended hin)⟩
        · rintro ⟨hb | rfl, hf⟩
          · exact Or.inl ⟨hb, hf⟩
          · exact Or.inr rfl
      · intro b hb
        rw [hp] at hb
        cases hb
      · intro b t hin
        obtain ⟨hbegan, htook⟩ := ht.settled (by simpa using hin)
        exact ⟨List.mem_append_left _ hbegan, htook⟩
  | bindBegan b hfree hnew hmade hl hj hn hp =>
      have hbrings : ∀ x, JobEvent.brings x (.bindBegan b) = true → x = b.handle := by
        intro x hx
        exact (of_decide_eq_true hx).symm
      obtain ⟨y, hy, -⟩ := hmade
      have hknows := Registry.knows_iff.mpr ⟨y, hy⟩
      refine ⟨ht.once_snoc hnew hbrings,
        fun hin hb => ht.known_snoc h.kept hin hb fun x hx => hbrings x hx ▸ hknows,
        ?_, ?_, ?_, ?_, hbal⟩
      · intro k o t hin
        exact List.mem_append_left _ (ht.ended (by simpa using hin))
      · intro k
        rw [hj]
        simp only [List.mem_append, List.mem_singleton, reduceCtorEq, or_false]
        exact ht.running
      · intro b' hb'
        cases hp.symm.trans hb'
        exact List.mem_append_right _ List.mem_cons_self
      · intro b' t hin
        obtain ⟨hbegan, htook⟩ := ht.settled (by simpa using hin)
        exact ⟨List.mem_append_left _ hbegan, htook⟩
  | bindSettled b hb hl hj hp =>
      refine ⟨?_, fun hin hb => ht.known_snoc h.kept hin hb fun _ hx => (nomatch hx),
        ?_, ?_, ?_, ?_, hbal⟩
      · intro x
        rw [List.countP_append]
        exact ht.once x
      · intro k o t hin
        exact List.mem_append_left _ (ht.ended (by simpa using hin))
      · intro k
        rw [hj]
        simp only [List.mem_append, List.mem_singleton, reduceCtorEq, or_false]
        exact ht.running
      · intro b' hb'
        rw [hp] at hb'
        cases hb'
      · intro b' t hin
        rcases List.mem_append.mp hin with hin | hin
        · obtain ⟨hbegan, htook⟩ := ht.settled hin
          exact ⟨List.mem_append_left _ hbegan, htook⟩
        · cases List.mem_singleton.mp hin
          exact ⟨List.mem_append_left _ (ht.pending hb), fun x hx => ho.alone hb hx⟩
  | finished j o hin₀ hl hj hp =>
      refine ⟨?_, fun hin hb => ht.known_snoc h.kept hin hb fun _ hx => (nomatch hx),
        ?_, ?_, ?_, ?_, hbal⟩
      · intro x
        rw [List.countP_append]
        exact ht.once x
      · intro k o t hin
        rcases List.mem_append.mp hin with hin | hin
        · exact List.mem_append_left _ (ht.ended hin)
        · cases List.mem_singleton.mp hin
          exact List.mem_append_left _ (ht.running.mp hin₀).1
      · intro k
        have hfilter : k ∈ c'.jobs ↔ k ∈ c.jobs ∧ k ≠ j := by
          rw [hj, List.mem_filter]
          simp only [Bool.not_eq_true', decide_eq_false_iff_not]
          refine and_congr_right fun hk => not_congr ⟨fun he => ho.eq_of_handle hk hin₀ he, ?_⟩
          rintro rfl
          rfl
        rw [hfilter, ht.running]
        simp only [List.mem_append, List.mem_singleton, reduceCtorEq, or_false,
          JobEvent.finished.injEq, not_or]
        constructor
        · rintro ⟨⟨hb, hf⟩, hne⟩
          exact ⟨hb, fun o' t => ⟨hf o' t, fun he => hne he.1⟩⟩
        · rintro ⟨hb, hf⟩
          refine ⟨⟨hb, fun o' t => (hf o' t).1⟩, ?_⟩
          rintro rfl
          exact (hf o (w.registry.lookup c.session k.id)).2 ⟨rfl, rfl, rfl⟩
      · intro b hb
        rw [hp] at hb
        exact List.mem_append_left _ (ht.pending hb)
      · intro b t hin
        obtain ⟨hbegan, htook⟩ := ht.settled (by simpa using hin)
        exact ⟨List.mem_append_left _ hbegan, htook⟩

theorem Step.finished_mem (h : Step w c es w' c') {j : Job} {o : Outcome} {t : Option HandleId}
    (hin : .finished j o t ∈ es) : j ∈ c.jobs ∧ t = w.registry.lookup c.session j.id := by
  have hc := h.change
  cases hc with
  | quiet hl hj hp => exact absurd hin List.not_mem_nil
  | finished k o' hin₀ hl hj hp =>
      cases List.mem_singleton.mp hin
      exact ⟨hin₀, rfl⟩
  | lost hl hj hp => cases isLoss_of_lost hin
  | _ => cases List.mem_singleton.mp hin

end Invariants

/-! ## Along the course of a connection -/

section

variable {sv : Services} {w₀ w : Scene} {s : SessionId} {c : Connection} {es es' : List JobEvent}

theorem accept_owned (hfree : ∀ id, w₀.registry.lookup s id = none) :
    Owned (accept w₀ s).1 (accept w₀ s).2 := by
  refine ⟨?_, List.nodup_nil, fun {j} hj => absurd hj List.not_mem_nil,
    fun {b} hb => (nomatch hb), fun {b h} hb => (nomatch hb)⟩
  intro id h hl
  have hsame : (accept w₀ s).1.registry.lookup s id = w₀.registry.lookup s id := rfl
  rw [show (accept w₀ s).2.session = s from rfl, hsame, hfree] at hl
  cases hl

theorem accept_traced (hfree : ∀ id, w₀.registry.lookup s id = none) :
    Traced [] (accept w₀ s).1 (accept w₀ s).2 := by
  refine ⟨fun x => Nat.zero_le 1, fun {e x} hin => absurd hin List.not_mem_nil,
    fun {j o t} hin => absurd hin List.not_mem_nil, ?_, fun {b} hb => (nomatch hb),
    fun {b t} hin => absurd hin List.not_mem_nil, ?_⟩
  · intro j
    constructor
    · intro hj
      exact absurd hj List.not_mem_nil
    · intro hj
      exact absurd hj.1 List.not_mem_nil
  · intro id x
    have hl : (accept w₀ s).1.registry.lookup s id = none := hfree id
    show Registry.seat _ s id x + 0 = 0
    rw [Registry.seat, hl]
    rfl

theorem others_step {w' : Scene} (hs : c.session = s) (ha : Spares s w w') :
    Step w c (lostEvents s w w') w' c := by
  subst hs
  exact ⟨rfl, ha.kept, .lost ha.lookup rfl rfl⟩

/-- What holds at first, and is kept by every step of a connection that owns
its requests, holds along a course. -/
theorem Course.along {P : List JobEvent → Scene → Connection → Prop}
    (hfree : ∀ id, w₀.registry.lookup s id = none)
    (hfirst : P [] (Connection.accept w₀ s).1 (Connection.accept w₀ s).2)
    (hstep : ∀ {es es' : List JobEvent} {w w' : Scene} {c c' : Connection},
      Course sv (Spares s) w₀ s es w c → Owned w c → P es w c → Step w c es' w' c' →
        P (es ++ es') w' c')
    (h : Course sv (Spares s) w₀ s es w c) : c.session = s ∧ Owned w c ∧ P es w c := by
  have on : ∀ {es es' : List JobEvent} {w w' : Scene} {c c' : Connection},
      Course sv (Spares s) w₀ s es w c → c.session = s ∧ Owned w c ∧ P es w c →
        Step w c es' w' c' → c'.session = s ∧ Owned w' c' ∧ P (es ++ es') w' c' := by
    rintro es es' w w' c c' h ⟨hs, ho, hp⟩ ht
    exact ⟨ht.session.trans hs, ho.step ht, hstep h ho hp ht⟩
  induction h with
  | accept => exact ⟨rfl, accept_owned hfree, hfirst⟩
  | @receive es w c h hr i ih =>
      exact on h ih ((receive_cases sv w c i).step ih.2.1 (listens_iff.mp hr).2)
  | @register es w c h hr t b r hb ih => exact on h ih (register_step (listens_iff.mp hr).2 hb)
  | @settle es w c h b hb ih =>
      have ht := settle_step sv (w := w) hb
      rw [ih.1] at ht
      exact on h ih ht
  | @leave es w c h hr htold ih =>
      have ht := leave_step w c
      rw [ih.1] at ht
      exact on h ih ht
  | @finish es w c h j hj o ih =>
      have ht := finish_step (w := w) hj o
      rw [ih.1] at ht
      exact on h ih ht
  | @others es w w' c h ha ih => exact on h ih (others_step ih.1 ha)

/-- The outstanding requests are the connection's own, and the events tell of
its jobs. -/
theorem Course.invariant (hfree : ∀ id, w₀.registry.lookup s id = none)
    (h : Course sv (Spares s) w₀ s es w c) : c.session = s ∧ Owned w c ∧ Traced es w c :=
  h.along hfree (accept_traced hfree) fun _ ho ht hstep => ht.step ho hstep

def Outstanding (w : Scene) (c : Connection) (j : Job) : Prop :=
  w.registry.lookup c.session j.id = some j.handle

/-- Is the request of a bind that is under way outstanding under the number? -/
def BindOutstanding (w : Scene) (c : Connection) (id : RequestId) : Prop :=
  ∃ b, c.pending = some b ∧ b.id = id ∧ w.registry.lookup c.session id = some b.handle

/-- Being done, the job answers nobody and changes nothing. -/
def KeepsSilent (w : Scene) (c : Connection) (j : Job) (o : Outcome) : Prop :=
  c.finishJob w j o = (w, c.without j)

/-- Being done, the job takes out its own request and no other, and answers it
once, with its own outcome. -/
def AnswersItself (w : Scene) (c : Connection) (j : Job) (o : Outcome) : Prop :=
  Outstanding w c j ∧
    (c.finishJob w j o).2 = (c.without j).respond (.ofOutcome j.id o) ∧
    ∀ id, (c.finishJob w j o).1.registry.lookup c.session id =
      if j.id = id then none else w.registry.lookup c.session id

/-- Being done, the job answers the request of another one, or of a bind, with
its own outcome, and takes that request out. -/
def AnswersFor (w : Scene) (c : Connection) (j : Job) (id : RequestId) (o : Outcome) : Prop :=
  (c.finishJob w j o).2 = (c.without j).respond (.ofOutcome id o) ∧
    (c.finishJob w j o).1.registry.lookup c.session id = none

/-- No job and no bind begins under a number that a job which began before it
and is not done has. -/
def NoReuse (es : List JobEvent) : Prop :=
  ∀ es₁ e es₂, es = es₁ ++ e :: es₂ → ∀ id, e.taken? = some id →
    ∀ k, .began k ∈ es₁ → k.id = id → ∃ o t, .finished k o t ∈ es₁

theorem NoReuse.front (h : NoReuse (es ++ es')) : NoReuse es := by
  intro es₁ e es₂ he
  refine h es₁ e (es₂ ++ es') ?_
  rw [he, List.append_assoc, List.cons_append]

/-! ## Who answers -/

theorem finishJob_of_outstanding {j k : Job} (hid : k.id = j.id) (hk : Outstanding w c k)
    (o : Outcome) :
    (c.finishJob w j o).2 = (c.without j).respond (.ofOutcome j.id o) ∧
      ∀ id, (c.finishJob w j o).1.registry.lookup c.session id =
        if j.id = id then none else w.registry.lookup c.session id := by
  simp only [Outstanding] at hk
  rw [hid] at hk
  obtain ⟨hr, hc⟩ := finishJob_of_some hk o
  refine ⟨hc, ?_⟩
  intro id
  rw [hr, release_lookup]

theorem answersItself_iff {j : Job} {o : Outcome} :
    AnswersItself w c j o ↔ Outstanding w c j :=
  ⟨fun ha => ha.1, fun ho => ⟨ho, finishJob_of_outstanding rfl ho o⟩⟩

theorem keepsSilent_iff {j : Job} {o : Outcome} :
    KeepsSilent w c j o ↔ w.registry.lookup c.session j.id = none := by
  constructor
  · intro hs
    cases hl : w.registry.lookup c.session j.id with
    | none => rfl
    | some h =>
        have hc := (finishJob_of_some hl o).2
        rw [hs] at hc
        have hlen := congrArg (fun c : Connection => c.responses.length) hc
        simp [respond] at hlen
  · intro hl
    exact finishJob_of_none hl o

/-- Nothing is outstanding under a number if neither a job's request is nor a
bind's. -/
theorem Owned.lookup_eq_none_iff (ho : Owned w c) (id : RequestId) :
    w.registry.lookup c.session id = none ↔
      (∀ k ∈ c.jobs, k.id = id → ¬ Outstanding w c k) ∧ ¬ BindOutstanding w c id := by
  constructor
  · intro hl
    refine ⟨?_, ?_⟩
    · intro k hk hid hout
      simp only [Outstanding] at hout
      rw [hid, hl] at hout
      cases hout
    · rintro ⟨b, -, -, hout⟩
      rw [hl] at hout
      cases hout
  · rintro ⟨hjobs, hbind⟩
    cases hl : w.registry.lookup c.session id with
    | none => rfl
    | some h =>
        rcases ho.owner hl with ⟨k, hk, rfl, rfl⟩ | ⟨b, hb, rfl, hid⟩
        · exact absurd hl (hjobs k hk rfl)
        · exact absurd ⟨b, hb, hid, hl⟩ hbind

/-- A job that is not done has its own request outstanding until something
takes it out. -/
theorem Traced.outstanding_iff (ht : Traced es w c) {j : Job} (hj : j ∈ c.jobs) :
    Outstanding w c j ↔ ∀ e ∈ es, ¬ JobEvent.settles j.id j.handle e = true := by
  have hone : es.countP (JobEvent.begins j.id j.handle) = 1 := by
    have hpos : 0 < es.countP (JobEvent.begins j.id j.handle) :=
      List.countP_pos_iff.mpr ⟨_, (ht.running.mp hj).1, by simp [JobEvent.begins]⟩
    have hle : es.countP (JobEvent.begins j.id j.handle) ≤
        es.countP (JobEvent.brings j.handle) :=
      List.countP_mono_left fun _ _ he => JobEvent.brings_of_begins he
    have := ht.once j.handle
    omega
  rw [← List.countP_eq_zero]
  exact Registry.lookup_iff_seat ((ht.balance j.id j.handle).trans hone)

/-- A handle comes in with one job or bind only. -/
theorem Traced.eq_of_brings (ht : Traced es w c) {e e' : JobEvent} {x : HandleId} (he : e ∈ es)
    (he' : e' ∈ es) (hx : e.brings x = true) (hx' : e'.brings x = true) : e = e' :=
  eq_of_countP_le_one (ht.once x) he he' hx hx'

theorem Traced.not_outstanding (ht : Traced es w c) {j : Job} (hj : j ∈ c.jobs)
    (ha : .abandoned j.id j.handle ∈ es) : ¬ Outstanding w c j := by
  intro hout
  exact (ht.outstanding_iff hj).mp hout _ ha (by simp [JobEvent.settles])

/-- The request of a job that was neither abandoned nor purged is outstanding until
a job takes it out that is done. -/
theorem Traced.outstanding_iff_not_taken (ht : Traced es w c) {j : Job} (hj : j ∈ c.jobs)
    (ha : .abandoned j.id j.handle ∉ es) (hp : .purged j.id j.handle ∉ es) :
    Outstanding w c j ↔ ∀ k o, k.id = j.id → .finished k o (some j.handle) ∉ es := by
  rw [ht.outstanding_iff hj]
  constructor
  · intro hall k o hid hin
    exact hall _ hin (by simp [JobEvent.settles, hid])
  · intro hall e he hs
    cases e with
    | began k => cases hs
    | bindBegan b => cases hs
    | bindSettled b took =>
        -- a bind takes out its own handle, and that is no job's
        simp only [JobEvent.settles, decide_eq_true_eq] at hs
        obtain ⟨hb, htook⟩ := ht.settled he
        have hhandle := htook _ hs.2
        cases ht.eq_of_brings (x := j.handle) (ht.running.mp hj).1 hb (by simp [JobEvent.brings])
          (by simp [JobEvent.brings, hhandle])
    | abandoned id y =>
        simp only [JobEvent.settles, decide_eq_true_eq] at hs
        exact ha (hs.1 ▸ hs.2 ▸ he)
    | purged id y =>
        simp only [JobEvent.settles, decide_eq_true_eq] at hs
        exact hp (hs.1 ▸ hs.2 ▸ he)
    | finished k o took =>
        simp only [JobEvent.settles, decide_eq_true_eq] at hs
        exact hall k o hs.1 (hs.2 ▸ he)

theorem began_before {j k : Job} (hj : .began j ∈ es) (hk : .began k ∈ es) (hne : j ≠ k) :
    (∃ es₁ es₂, es = es₁ ++ .began j :: es₂ ∧ .began k ∈ es₁) ∨
      ∃ es₁ es₂, es = es₁ ++ .began k :: es₂ ∧ .began j ∈ es₁ := by
  obtain ⟨as, bs, rfl⟩ := List.append_of_mem hj
  rcases List.mem_append.mp hk with hk | hk
  · exact Or.inl ⟨as, bs, rfl, hk⟩
  · rcases List.mem_cons.mp hk with he | hk
    · cases he
      exact absurd rfl hne
    · obtain ⟨bs₁, bs₂, rfl⟩ := List.append_of_mem hk
      refine Or.inr ⟨as ++ .began j :: bs₁, bs₂, ?_, ?_⟩
      · rw [List.append_assoc, List.cons_append]
      · exact List.mem_append_right _ List.mem_cons_self

/-- Where no number is used again too early, the jobs have different numbers. -/
theorem Traced.eq_of_id (ht : Traced es w c) (hn : NoReuse es) {j k : Job} (hj : j ∈ c.jobs)
    (hk : k ∈ c.jobs) (hid : j.id = k.id) : j = k := by
  obtain ⟨hbj, hfj⟩ := ht.running.mp hj
  obtain ⟨hbk, hfk⟩ := ht.running.mp hk
  refine Classical.byContradiction ?_
  intro hne
  rcases began_before hbj hbk hne with ⟨es₁, es₂, rfl, hin⟩ | ⟨es₁, es₂, rfl, hin⟩
  · obtain ⟨o, t, hf⟩ := hn es₁ (.began j) es₂ rfl j.id rfl k hin hid.symm
    exact hfk o t (List.mem_append_left _ hf)
  · obtain ⟨o, t, hf⟩ := hn es₁ (.began k) es₂ rfl k.id rfl j hin hid
    exact hfj o t (List.mem_append_left _ hf)

/-- Where no number is used again too early, the bind that is under way has one
that no job has. -/
theorem Course.bind_apart (hfree : ∀ id, w₀.registry.lookup s id = none)
    (h : Course sv (Spares s) w₀ s es w c) (hn : NoReuse es) {b : PendingBind}
    (hb : c.pending = some b) {k : Job} (hk : k ∈ c.jobs) : k.id ≠ b.id := by
  -- a job that has the number when the bind begins is done by then, and while the
  -- bind is under way no job begins
  have on : ∀ {es es' : List JobEvent} {w w' : Scene} {c c' : Connection},
      Course sv (Spares s) w₀ s es w c → Owned w c →
        (NoReuse es → ∀ b, c.pending = some b → ∀ k ∈ c.jobs, k.id ≠ b.id) →
          Step w c es' w' c' →
            NoReuse (es ++ es') → ∀ b, c'.pending = some b → ∀ k ∈ c'.jobs, k.id ≠ b.id := by
    intro es es' w w' c c' h ho ih hstep hn b hb k hk
    have hc := hstep.change
    have old : (∀ x ∈ c'.jobs, x ∈ c.jobs) → c'.pending = c.pending → k.id ≠ b.id :=
      fun hj hp => ih hn.front b (hp ▸ hb) k (hj k hk)
    cases hc with
    | quiet hl hj hp => exact old (fun x hx => hj ▸ hx) hp
    | lost hl hj hp => exact old (fun x hx => hj ▸ hx) hp
    | abandoned id y hh hl hj hp => exact old (fun x hx => hj ▸ hx) hp
    | finished j o hin hl hj hp =>
        refine old ?_ hp
        intro x hx
        rw [hj] at hx
        exact (List.mem_filter.mp hx).1
    | began j hf hnew hmade hl hj hnone hp =>
        rw [hp] at hb
        cases hb
    | bindSettled b' hb' hl hj hp =>
        rw [hp] at hb
        cases hb
    | bindBegan b' hf hnew hmade hl hj hnone hp =>
        cases hp.symm.trans hb
        intro hid
        rw [hj] at hk
        obtain ⟨hbegan, hrunning⟩ := (h.invariant hfree).2.2.running.mp hk
        obtain ⟨o, t, hfin⟩ := hn es (.bindBegan b) [] rfl b.id rfl k hbegan hid
        exact hrunning o t hfin
  exact (h.along (P := fun es _ c => NoReuse es → ∀ b, c.pending = some b →
    ∀ k ∈ c.jobs, k.id ≠ b.id) hfree (fun _ _ hb => nomatch hb) on).2.2 hn b hb k hk

/-- Where no number is used again too early, a job takes out its own request only. -/
theorem Course.took_own (hfree : ∀ id, w₀.registry.lookup s id = none)
    (h : Course sv (Spares s) w₀ s es w c) (hn : NoReuse es) {k : Job} {o : Outcome} {x : HandleId}
    (hin : .finished k o (some x) ∈ es) : x = k.handle := by
  -- what a job finds that is done is a request of the connection's, and so its own
  have on : ∀ {es es' : List JobEvent} {w w' : Scene} {c c' : Connection},
      Course sv (Spares s) w₀ s es w c → Owned w c →
        (NoReuse es → .finished k o (some x) ∈ es → x = k.handle) → Step w c es' w' c' →
          NoReuse (es ++ es') → .finished k o (some x) ∈ es ++ es' → x = k.handle := by
    intro es es' w w' c c' h ho ih hstep hn hin
    rcases List.mem_append.mp hin with hin | hin
    · exact ih hn.front hin
    · obtain ⟨hk, hl⟩ := hstep.finished_mem hin
      rcases ho.owner hl.symm with ⟨j, hj, rfl, hid⟩ | ⟨b, hb, rfl, hid⟩
      · rw [(h.invariant hfree).2.2.eq_of_id hn.front hj hk hid]
      · exact absurd hid.symm (h.bind_apart hfree hn.front hb hk)
  have hall : c.session = s ∧ Owned w c ∧
      (NoReuse es → .finished k o (some x) ∈ es → x = k.handle) :=
    h.along (P := fun es _ _ => NoReuse es → .finished k o (some x) ∈ es → x = k.handle) hfree
      (fun _ hin => absurd hin List.not_mem_nil) on
  exact hall.2.2 hn hin

/-- What a job does that is done, however the reading of requests, the ends of
other jobs, and what others do to the registry come in between.  If its request
was abandoned, it keeps silent unless the number is in use again, by another
job or by a bind that is under way.  If its request was neither abandoned nor
purged, it answers it, unless another job of its number has done so before.  A
job that finds the request of another one under its number, or that of a bind,
answers in its place, with what it came to itself.  None of this goes wrong
where a number is not used again before the job is done that had it. -/
theorem answers_own_unless_reused (hfree : ∀ id, w₀.registry.lookup s id = none)
    (h : Course sv (Spares s) w₀ s es w c) {j : Job} (hj : j ∈ c.jobs) (o : Outcome) :
    (.abandoned j.id j.handle ∈ es →
      (KeepsSilent w c j o ↔ (∀ k ∈ c.jobs, k ≠ j → k.id = j.id → ¬ Outstanding w c k) ∧
        ¬ BindOutstanding w c j.id)) ∧
    (.abandoned j.id j.handle ∉ es → .purged j.id j.handle ∉ es →
      (AnswersItself w c j o ↔
        ∀ k o', k.id = j.id → .finished k o' (some j.handle) ∉ es)) ∧
    (∀ k ∈ c.jobs, k ≠ j → k.id = j.id → Outstanding w c k → AnswersFor w c j k.id o) ∧
    (BindOutstanding w c j.id → AnswersFor w c j j.id o) ∧
    (NoReuse es →
      (.abandoned j.id j.handle ∈ es → KeepsSilent w c j o) ∧
      (.abandoned j.id j.handle ∉ es → .purged j.id j.handle ∉ es → AnswersItself w c j o)) := by
  obtain ⟨-, ho, ht⟩ := h.invariant hfree
  refine ⟨?_, ?_, ?_, ?_, ?_⟩
  · intro ha
    rw [keepsSilent_iff, ho.lookup_eq_none_iff]
    refine and_congr_left fun _ => ⟨fun hall k hk _ => hall k hk, ?_⟩
    intro hall k hk hid hout
    by_cases hkj : k = j
    · subst hkj
      exact ht.not_outstanding hj ha hout
    · exact hall k hk hkj hid hout
  · intro ha hp
    rw [answersItself_iff, ht.outstanding_iff_not_taken hj ha hp]
  · intro k hk _ hid hout
    obtain ⟨hc, hl⟩ := finishJob_of_outstanding hid hout o
    refine ⟨by rw [hc, hid], ?_⟩
    rw [hl, if_pos hid.symm]
  · rintro ⟨b, -, -, hout⟩
    obtain ⟨hr, hc⟩ := finishJob_of_some hout o
    refine ⟨hc, ?_⟩
    rw [hr, release_lookup, if_pos rfl]
  · intro hn
    constructor
    · intro ha
      rw [keepsSilent_iff, ho.lookup_eq_none_iff]
      refine ⟨?_, ?_⟩
      · intro k hk hid hout
        exact ht.not_outstanding hj ha (ht.eq_of_id hn hk hj hid ▸ hout)
      · rintro ⟨b, hb, hid, -⟩
        exact h.bind_apart hfree hn hb hj hid.symm
    · intro ha hp
      rw [answersItself_iff, ht.outstanding_iff_not_taken hj ha hp]
      intro k o' hid hin
      have hkj : JobEvent.began k = .began j :=
        ht.eq_of_brings (x := k.handle) (ht.ended hin) (ht.running.mp hj).1
          (by simp [JobEvent.brings]) (by simp [JobEvent.brings, h.took_own hfree hn hin])
      cases hkj
      exact (ht.running.mp hj).2 o' (some j.handle) hin

end

/-! ## A number used again too early -/

def emptyScene : Scene := .new (.new ⟨"ldap:", .direct⟩ true)

/-- Search below one base under the number 1, and then below another. -/
def firstSearch : Request := ⟨⟨1⟩, .search "ou=a" none, []⟩

def secondSearch : Request := ⟨⟨1⟩, .search "ou=b" none, []⟩

def searching : Scene × Connection :=
  (accept emptyScene ⟨"s"⟩).2.serve directoryServices (accept emptyScene ⟨"s"⟩).1 firstSearch

def abandoning : Scene :=
  (Machine.advance 4 ⟨searching.1, .perform (.abandon ⟨"s"⟩ ⟨1⟩), []⟩).2.scene

def searchingAgain : Scene × Connection :=
  searching.2.serve directoryServices abandoning secondSearch

def firstJob : Job :=
  ⟨⟨0⟩, ⟨1⟩, .search "ou=a" none, ⟨0, .anonymous [] "ldap:"⟩,
    directoryServices.backend.start (.search "ou=a" none) (.anonymous [] "ldap:")⟩

def secondJob : Job :=
  ⟨⟨1⟩, ⟨1⟩, .search "ou=b" none, ⟨1, .anonymous [] "ldap:"⟩,
    directoryServices.backend.start (.search "ou=b" none) (.anonymous [] "ldap:")⟩

theorem searching_course :
    Course directoryServices (Spares ⟨"s"⟩) emptyScene ⟨"s"⟩ [.began firstJob] searching.1
      searching.2 :=
  Course.accept.line rfl (t := "\x7b\"id\":1,\"op\":\"search\",\"base\":\"ou=a\"\x7d")
    (by decide) (q := firstSearch) (ofLine_eq (by decide +kernel))

theorem serve_abandoning :
    searching.2.serve directoryServices searching.1 ⟨⟨2⟩, .abandon ⟨1⟩, []⟩ =
      (abandoning, searching.2) := by
  have hp : searching.1.perform (.abandon ⟨"s"⟩ ⟨1⟩) = (abandoning, .abandon .abandoned) :=
    Machine.perform_of_steps (Machine.steps_advance 4 _)
  show ((searching.1.perform (.abandon ⟨"s"⟩ ⟨1⟩)).1, searching.2) = _
  rw [hp]

theorem searchingAgain_course :
    Course directoryServices (Spares ⟨"s"⟩) emptyScene ⟨"s"⟩
      [.began firstJob, .abandoned ⟨1⟩ ⟨0⟩, .began secondJob] searchingAgain.1
      searchingAgain.2 := by
  have ha := searching_course.line rfl
    (t := "\x7b\"id\":2,\"op\":\"abandon\",\"target\":1\x7d") (by decide)
    (q := ⟨⟨2⟩, .abandon ⟨1⟩, []⟩) (ofLine_eq (by decide +kernel))
  rw [serve_abandoning] at ha
  exact ha.line rfl (t := "\x7b\"id\":1,\"op\":\"search\",\"base\":\"ou=b\"\x7d")
    (by decide) (q := secondSearch) (ofLine_eq (by decide +kernel))

/-- A search that is left alone is answered with what it came to. -/
theorem search_answers_itself :
    AnswersItself searching.1 searching.2 firstJob (.entries []) := by
  have hj : firstJob ∈ searching.2.jobs := List.mem_singleton.mpr rfl
  have hfree : ∀ id, emptyScene.registry.lookup ⟨"s"⟩ id = none := fun _ => rfl
  have hanswers := answers_own_unless_reused hfree searching_course hj (.entries [])
  exact (hanswers.2.1 (by simp) (by simp)).mpr (by simp)

/-- The job of the first search was abandoned, and yet it answers when it is
done, and takes the second search out.  The job of the second search, which
nobody abandoned or purged, then has nothing to answer. -/
theorem abandoned_search_answers_for_next :
    Course directoryServices (Spares ⟨"s"⟩) emptyScene ⟨"s"⟩
        [.began firstJob, .abandoned ⟨1⟩ ⟨0⟩, .began secondJob] searchingAgain.1
        searchingAgain.2 ∧
      firstJob ∈ searchingAgain.2.jobs ∧ secondJob ∈ searchingAgain.2.jobs ∧
      ¬ KeepsSilent searchingAgain.1 searchingAgain.2 firstJob .cancelled ∧
      (searchingAgain.2.finishJob searchingAgain.1 firstJob .cancelled).2.responses =
        [.ofOutcome ⟨1⟩ .cancelled] ∧
      ∀ o, ¬ AnswersItself (searchingAgain.2.finishJob searchingAgain.1 firstJob .cancelled).1
        (searchingAgain.2.finishJob searchingAgain.1 firstJob .cancelled).2 secondJob o := by
  have hl : searchingAgain.1.registry.lookup ⟨"s"⟩ ⟨1⟩ = some ⟨1⟩ := by decide
  refine ⟨searchingAgain_course, List.mem_cons_self, List.mem_cons_of_mem _ List.mem_cons_self,
    ?_, rfl, ?_⟩
  · rw [keepsSilent_iff]
    intro hn
    rw [show searchingAgain.2.session = ⟨"s"⟩ from rfl, show firstJob.id = ⟨1⟩ from rfl, hl] at hn
    cases hn
  · intro o ha
    cases ha.1

end Connection

end DirectorySessions
