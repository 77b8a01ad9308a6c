/-
# The order of a teardown does not show

A purge goes through the handles of a session and a shutdown through the sessions, in the order
in which the tables happen to list them.  If all callbacks keep to themselves, what comes of
it can be told from the sessions alone that are purged and forgotten (`Scene.TornDown`): which
entries are gone, which handles have fired, which tokens are cancelled, and, by counting the
handles that fired and the records that have gone, how far the counters have moved.  Of one
teardown after another the same can be told (`Scene.TornDown.trans`), whether or not they
share sessions, handles or tokens.

So a teardown from tables in another order comes to the same
(`teardown_in_any_order`), though it may be that other callbacks run first and that a handle
fires on behalf of another session.
-/
import DirectorySessions.Proofs.Registry.Scripts
import DirectorySessions.Proofs.Registry.Shutdown

namespace DirectorySessions

namespace Table

variable {κ α : Type} [DecidableEq κ] {t t' : Table κ α}

theorem size_congr (h : ∀ k, t'.get? k = t.get? k) : t'.size = t.size := by
  have hperm : t'.keys.Perm t.keys := by
    refine (List.perm_ext_iff_of_nodup t'.nodup t.nodup).mpr ?_
    intro k
    exact mem_keys.trans ((iff_of_eq (by rw [h k])).trans mem_keys.symm)
  have hlength := hperm.length_eq
  rwa [keys, keys, List.length_map, List.length_map] at hlength

theorem mem_values {a : α} : a ∈ t.values ↔ ∃ k, t.get? k = some a := by
  constructor
  · intro ha
    obtain ⟨⟨k, a⟩, he, rfl⟩ := List.mem_map.mp ha
    exact ⟨k, get?_of_mem he⟩
  · rintro ⟨k, hk⟩
    exact List.mem_map.mpr ⟨(k, a), mem_of_get? hk, rfl⟩

end Table

/-- Count so many requests as purged and so many sessions as closed. -/
def Stats.countTeardown (s : Stats) (n k : Nat) : Stats :=
  { s with purged := s.purged + .ofNat n, sessionsClosed := s.sessionsClosed + .ofNat k }

namespace Stats

theorem countTeardown_zero (s : Stats) (n : Nat) : s.countTeardown n 0 = s.countPurged n := by
  simp [countTeardown, countPurged]

theorem countTeardown_closed (s : Stats) : s.countTeardown 0 1 = s.countClosed := by
  simp [countTeardown, countClosed]

theorem countTeardown_none (s : Stats) : s.countTeardown 0 0 = s := by
  simp [countTeardown]

theorem countTeardown_add (s : Stats) (n n' k k' : Nat) :
    (s.countTeardown n k).countTeardown n' k' = s.countTeardown (n + n') (k + k') := by
  simp only [countTeardown, UInt64.ofNat_add, UInt64.add_assoc]

end Stats

/-! ## What a teardown comes to -/

/-- The second scene is what comes of the first one when some sessions are purged and some are
forgotten.  The purged ones have no requests any more, but for those that were being purged
already, and what was outstanding on them is cancelled.  The forgotten ones have neither a
context nor a record any more, and the token in the record is cancelled.  The handles that fired
and the records that are gone are counted. -/
structure Scene.TornDown (w : Scene) (ps fs : List SessionId) (w' : Scene) : Prop where
  records : ∀ s, w'.registry.records.get? s =
    if s ∈ fs then none else w.registry.records.get? s
  contexts : ∀ s, w'.registry.contexts.get? s =
    if s ∈ fs then none else w.registry.contexts.get? s
  requests : ∀ s, w'.registry.requests.get? s =
    if s ∈ ps ∧ w.registry.isClosing s = false then none else w.registry.requests.get? s
  cancels : w.Cancels w' (fun x => ∃ s ∈ ps, ∃ id, w.registry.lookup s id = some x)
    fun t => ∃ s ∈ fs, w.registry.records.get? s = some t
  counted : ∃ k, w'.registry.records.size + k = w.registry.records.size ∧
    w'.registry.stats = w.registry.stats.countTeardown (w.registry.fresh w'.registry) k

namespace Scene.TornDown

variable {w w' w'' : Scene} {ps ps' fs fs' : List SessionId} {s : SessionId}

theorem isClosing (h : w.TornDown ps fs w') (s : SessionId) :
    w'.registry.isClosing s = w.registry.isClosing s := by
  have hget := h.requests s
  split at hget
  · next hs =>
    rw [hs.2]
    simp only [Registry.isClosing, hget]
  · simp only [Registry.isClosing, hget]

theorem lookup (h : w.TornDown ps fs w') (s : SessionId) (id : RequestId) :
    w'.registry.lookup s id = if s ∈ ps then none else w.registry.lookup s id := by
  have hget := h.requests s
  split at hget
  · next hs =>
    rw [if_pos hs.1]
    exact Registry.lookup_eq_none (Registry.requestsOf_of_absent hget) id
  · next hs =>
    rw [Registry.lookup_of_requests_eq hget]
    split
    · next hin =>
      -- nothing is outstanding on a session that is being purged
      have hclosing : w.registry.isClosing s = true := by
        cases hc : w.registry.isClosing s with
        | true => rfl
        | false => exact absurd ⟨hin, hc⟩ hs
      exact Registry.lookup_eq_none (Registry.requestsOf_of_closing hclosing) id
    · rfl

theorem lookup_of_lookup (h : w.TornDown ps fs w') {id : RequestId} {x : HandleId}
    (hl : w'.registry.lookup s id = some x) : w.registry.lookup s id = some x := by
  rw [h.lookup] at hl
  split at hl
  · cases hl
  · exact hl

theorem founded (h : w.TornDown ps fs w') (hg : w.registry.Founded) : w'.registry.Founded :=
  fun s id x hl =>
    Registry.knows_of_kept (Spends.kept h.cancels) (hg s id x (h.lookup_of_lookup hl))

/-- One teardown after the other is one of all their sessions. -/
theorem trans (h : w.TornDown ps fs w') (h' : w'.TornDown ps' fs' w'')
    (hg : w.registry.Founded) : w.TornDown (ps ++ ps') (fs ++ fs') w'' := by
  have both : ∀ {α : Type} {s : SessionId} {o o' o'' : Option α},
      (o' = if s ∈ fs then none else o) → (o'' = if s ∈ fs' then none else o') →
        o'' = if s ∈ fs ++ fs' then none else o := by
    rintro α s o o' o'' rfl rfl
    by_cases hs : s ∈ fs <;> simp [hs]
  refine ⟨fun s => both (h.records s) (h'.records s), fun s => both (h.contexts s) (h'.contexts s),
    ?_, ?_, ?_⟩
  · intro s
    rw [h'.requests, h.isClosing, h.requests]
    cases w.registry.isClosing s with
    | true => simp
    | false => by_cases hs : s ∈ ps <;> simp [hs]
  · refine (h.cancels.trans h'.cancels ?_).of_iff ?_ ?_
    · rintro x ⟨s, -, id, hl⟩
      exact hg s id x (h.lookup_of_lookup hl)
    · intro x
      simp only [h.lookup, List.mem_append]
      constructor
      · rintro (⟨s, hs, hl⟩ | ⟨s, hs, id, hl⟩)
        · exact ⟨s, Or.inl hs, hl⟩
        · split at hl
          · cases hl
          · exact ⟨s, Or.inr hs, id, hl⟩
      · rintro ⟨s, hs, id, hl⟩
        by_cases hin : s ∈ ps
        · exact Or.inl ⟨s, hin, id, hl⟩
        · exact Or.inr ⟨s, hs.resolve_left hin, id, by rwa [if_neg hin]⟩
    · intro t
      simp only [h.records, List.mem_append]
      constructor
      · rintro (⟨s, hs, ht⟩ | ⟨s, hs, ht⟩)
        · exact ⟨s, Or.inl hs, ht⟩
        · split at ht
          · cases ht
          · exact ⟨s, Or.inr hs, ht⟩
      · rintro ⟨s, hs, ht⟩
        by_cases hin : s ∈ fs
        · exact Or.inl ⟨s, hin, ht⟩
        · exact Or.inr ⟨s, hs.resolve_left hin, by rwa [if_neg hin]⟩
  · obtain ⟨k, hsize, hstats⟩ := h.counted
    obtain ⟨k', hsize', hstats'⟩ := h'.counted
    refine ⟨k + k', by omega, ?_⟩
    rw [hstats', hstats, Stats.countTeardown_add, fresh_trans h.cancels h'.cancels]

theorem congr (h : w.TornDown ps fs w') (hp : ∀ s, s ∈ ps ↔ s ∈ ps') (hf : ∀ s, s ∈ fs ↔ s ∈ fs') :
    w.TornDown ps' fs' w' := by
  refine ⟨?_, ?_, ?_, h.cancels.of_iff ?_ ?_, h.counted⟩
  · intro s
    rw [h.records, if_congr (hf s) rfl rfl]
  · intro s
    rw [h.contexts, if_congr (hf s) rfl rfl]
  · intro s
    rw [h.requests, if_congr (and_congr_left' (hp s)) rfl rfl]
  · intro x
    simp only [hp]
  · intro t
    simp only [hf]

end Scene.TornDown

namespace Scene

variable {w w' : Scene} {s : SessionId} {ps fs : List SessionId}

theorem tornDown_refl (w : Scene) : w.TornDown [] [] w := by
  refine ⟨fun s => rfl, fun s => rfl, fun s => ?_, (cancels_of_same rfl rfl rfl).of_iff ?_ ?_, 0,
    rfl, ?_⟩
  · rw [if_neg fun hs => absurd hs.1 List.not_mem_nil]
  · intro x
    simp
  · intro t
    simp
  · rw [Registry.fresh_congr fun _ => Iff.rfl, Stats.countTeardown_none]

theorem tornDown_of_none (hb : w.registry.beginPurge s = none) : w.TornDown [s] [] w := by
  have hnone := Registry.lookup_eq_none (Registry.beginPurge_eq_none hb)
  have hs : (w.purge s).1 = w := by simp only [purge, hb]
  have habsent := purge_absent (w := w) (s := s)
  rw [hs] at habsent
  refine ⟨fun s => rfl, fun s => rfl, ?_, (cancels_of_same rfl rfl rfl).of_iff ?_ ?_, 0, rfl, ?_⟩
  · intro s'
    split
    · next hs' =>
      cases List.mem_singleton.mp hs'.1
      exact habsent hs'.2
    · rfl
  · intro x
    simp [hnone]
  · intro t
    simp
  · rw [Registry.fresh_congr fun _ => Iff.rfl, Stats.countTeardown_none]

theorem mem_beginPurge {r : Registry} {hs : List HandleId}
    (hb : w.registry.beginPurge s = some (hs, r)) (x : HandleId) :
    x ∈ hs ↔ ∃ id, w.registry.lookup s id = some x := by
  rw [Registry.beginPurge_values hb]
  exact Table.mem_values

/-- The map of a session is marked, the handles on it are cancelled, and it is erased. -/
theorem tornDown_of_cancels {r : Registry} {hs : List HandleId} {v : Scene} {n : Nat}
    (hg : w.registry.Founded) (hb : w.registry.beginPurge s = some (hs, r))
    (hbooks : r.SameBooks v.registry)
    (hcancels : (w.withRegistry r).Cancels v (· ∈ hs) fun _ => False)
    (hn : n = w.registry.fresh v.registry) :
    w.TornDown [s] [] (v.withRegistry (v.registry.endPurge s n)) := by
  have hopen := Registry.not_closing_of_beginPurge hb
  obtain ⟨map, -, -, hr⟩ := Registry.beginPurge_eq_some hb
  have hbefore : w.Cancels (w.withRegistry r) (fun _ => False) fun _ => False :=
    cancels_of_same (by rw [hr]; rfl) (by rw [hr]; rfl) rfl
  subst hr
  refine ⟨?_, ?_, ?_, ?_, 0, ?_, ?_⟩
  · intro s'
    rw [if_neg List.not_mem_nil]
    exact congrArg (Table.get? · s') hbooks.records
  · intro s'
    rw [if_neg List.not_mem_nil]
    exact congrArg (Table.get? · s') hbooks.contexts
  · intro s'
    show (v.registry.endPurge s n).requests.get? s' = _
    rw [Registry.requests_endPurge, hbooks.requests]
    show (if s = s' then none else (w.registry.requests.insert s .closing).get? s') = _
    rw [Table.get?_insert]
    by_cases hs' : s = s'
    · rw [← hs', if_pos rfl, if_pos ⟨List.mem_singleton.mpr rfl, hopen⟩]
    · rw [if_neg hs', if_neg hs', if_neg fun hin => hs' (List.mem_singleton.mp hin.1).symm]
  · have hafter : v.Cancels (v.withRegistry (v.registry.endPurge s n)) (fun _ => False)
        fun _ => False := cancels_of_same rfl rfl rfl
    have hknows : ∀ x ∈ hs, w.registry.Knows x := by
      intro x hx
      obtain ⟨id, hl⟩ := (mem_beginPurge hb x).mp hx
      exact hg s id x hl
    refine ((hbefore.trans hcancels hknows).trans hafter fun _ => False.elim).of_iff ?_ ?_
    · intro x
      simp [mem_beginPurge hb]
    · intro t
      simp
  · exact congrArg Table.size hbooks.records
  · show v.registry.stats.countPurged n = _
    rw [Stats.countTeardown_zero, hbooks.stats, hn]
    rfl

/-- A purge whose callbacks keep to themselves counts the handles that fire. -/
theorem purge_quiet (next : Teardown) (hg : w.registry.Founded)
    (hq : Machine.Quiet ⟨w, .purge s next, []⟩) :
    w.TornDown [s] [] (w.purge s).1 ∧
      (w.purge s).2 = w.registry.fresh (w.purge s).1.registry := by
  cases hb : w.registry.beginPurge s with
  | none =>
      have hs : w.purge s = (w, 0) := by simp only [purge, hb]
      rw [hs]
      exact ⟨tornDown_of_none hb, (Registry.fresh_congr fun _ => Iff.rfl).symm⟩
  | some y =>
      obtain ⟨hs, r⟩ := y
      have hstep : Machine.step ⟨w, .purge s next, []⟩ =
          some ⟨w.withRegistry r, .purging s hs 0 next, []⟩ := by
        simp only [Machine.step, hb]
      have hhandles : r.handles = w.registry.handles := Machine.beginPurge_handles hb
      have hk : ∀ x ∈ hs, (w.withRegistry r).registry.Knows x := by
        intro x hx
        obtain ⟨id, hl⟩ := (mem_beginPurge hb x).mp hx
        exact (Registry.knows_congr hhandles x).mpr (hg s id x hl)
      obtain ⟨hbooks, hcancels, hcount⟩ := cancelAll_quiet 0 next hk (hq.step hstep)
      have hfresh : ((w.withRegistry r).cancelAll hs 0).2 =
          w.registry.fresh ((w.withRegistry r).cancelAll hs 0).1.registry := by
        rw [hcount, Nat.zero_add]
        simp only [Registry.fresh, withRegistry, Registry.hasFired_congr hhandles]
      simp only [purge, hb]
      exact ⟨tornDown_of_cancels hg hb hbooks hcancels hfresh, hfresh⟩

theorem forget_tornDown (w : Scene) (s : SessionId) :
    w.TornDown [] [s] (w.withRegistry (w.registry.forget s)) := by
  have hh := Machine.forget_handles w.registry s
  have hfresh : w.registry.fresh (w.registry.forget s) = 0 :=
    Registry.fresh_congr (Registry.hasFired_congr hh)
  obtain ⟨hstats, hrecords⟩ := Registry.forget_books w.registry s
  refine ⟨?_, ?_, ?_, ⟨Registry.kept_of_handles hh, ?_, ?_, tokenOf_congr rfl⟩, ?_⟩
  · intro s'
    simp only [withRegistry, hrecords, List.mem_singleton, eq_comm]
  · intro s'
    simp only [withRegistry, Registry.forget_contexts, Table.get?_erase, List.mem_singleton,
      eq_comm]
  · intro s'
    rw [if_neg fun hs' => absurd hs'.1 List.not_mem_nil]
    exact congrArg (Table.get? · s') (Registry.forget_requests w.registry s)
  · intro x
    simpa [withRegistry] using Registry.hasFired_congr hh x
  · intro t
    simpa [withRegistry] using Registry.mem_cancelled_forget
  · simp only [withRegistry, hfresh, hstats]
    cases hs : (w.registry.records.get? s).isSome with
    | true => exact ⟨1, Registry.forget_size hs, (Stats.countTeardown_closed _).symm⟩
    | false =>
        refine ⟨0, Table.size_congr ?_, (Stats.countTeardown_none _).symm⟩
        intro s'
        rw [hrecords]
        split
        · next he =>
          rw [← he]
          exact (Option.isSome_eq_false_iff.mp hs |> Option.isNone_iff_eq_none.mp).symm
        · rfl

theorem close_quiet (next : Teardown) (hg : w.registry.Founded)
    (hq : Machine.Quiet ⟨w, .purge s next, []⟩) :
    w.TornDown [s] [s] ((w.purge s).1.withRegistry ((w.purge s).1.registry.forget s)) ∧
      (w.purge s).2 = w.registry.fresh ((w.purge s).1.registry.forget s) := by
  obtain ⟨hpurged, hcount⟩ := purge_quiet next hg hq
  have hforgotten := forget_tornDown (w.purge s).1 s
  refine ⟨hpurged.trans hforgotten hg, ?_⟩
  have hnone : (w.purge s).1.registry.fresh ((w.purge s).1.registry.forget s) = 0 :=
    Registry.fresh_congr (Registry.hasFired_congr (Machine.forget_handles _ s))
  have hall := fresh_trans hpurged.cancels hforgotten.cancels
  rw [hcount]
  exact (hall.trans (by rw [withRegistry, hnone, Nat.add_zero])).symm

/-- To cancel the token of a session first makes no difference, if it is forgotten after. -/
theorem TornDown.after_signal {r : Registry} (hs : w.registry.signalClose? s = some r)
    (hin : s ∈ fs) (h : (w.withRegistry r).TornDown ps fs w') (hg : w.registry.Founded) :
    w.TornDown ps fs w' := by
  obtain ⟨token, htoken, rfl⟩ := Option.map_eq_some_iff.mp hs
  have hbooks : w.registry.SameBooks (w.withRegistry (w.registry.cancelToken token)).registry :=
    Registry.cancelToken_sameBooks w.registry token
  have hh := Machine.cancelToken_handles w.registry token
  have hfired : ∀ x, (w.registry.cancelToken token).HasFired x ↔ w.registry.HasFired x :=
    Registry.hasFired_congr hh
  have hlookup := Registry.lookup_congr hbooks.requests
  have hsignal : w.Cancels (w.withRegistry (w.registry.cancelToken token)) (fun _ => False)
      (· = token) := by
    refine ⟨Registry.kept_of_handles hh, ?_, ?_, tokenOf_congr rfl⟩
    · intro x
      simpa [withRegistry] using hfired x
    · intro t
      simpa [withRegistry, or_comm] using Registry.mem_cancelled_cancelToken
  refine ⟨?_, ?_, ?_, ?_, ?_⟩
  · intro s'
    rw [h.records, hbooks.records]
  · intro s'
    rw [h.contexts, hbooks.contexts]
  · intro s'
    rw [h.requests, hbooks.requests, Registry.isClosing_congr hbooks.requests]
  · refine (hsignal.trans h.cancels ?_).of_iff ?_ ?_
    · rintro x ⟨s', -, id, hl⟩
      rw [hlookup] at hl
      exact hg s' id x hl
    · intro x
      simp only [hlookup, false_or]
    · intro t
      simp only [hbooks.records, or_iff_right_iff_imp]
      rintro rfl
      exact ⟨s, hin, htoken⟩
  · obtain ⟨k, hsize, hstats⟩ := h.counted
    refine ⟨k, by rw [hsize, hbooks.records], ?_⟩
    rw [hstats, hbooks.stats, fresh_trans hsignal h.cancels,
      show w.registry.fresh (w.withRegistry (w.registry.cancelToken token)).registry = 0 from
        Registry.fresh_congr hfired, Nat.zero_add]

end Scene

namespace Machine

variable {w : Scene} {s : SessionId} {next : Teardown} {ss : List SessionId} {n : Nat} {a : Action}

theorem steps_terminate_quiet {r : Registry} (hs : w.registry.signalClose? s = some r)
    (hg : w.registry.Founded) (hq : Quiet ⟨w.withRegistry r, .purge s next, []⟩) :
    ∃ es v n, Steps ⟨w.withRegistry r, .purge s next, []⟩ es ⟨v, .purged s n next, []⟩ ∧
      w.TornDown [s] [s] (v.withRegistry (v.registry.forget s)) := by
  obtain ⟨es, t⟩ := steps_purge (w.withRegistry r) s next []
  refine ⟨es, _, _, t, ?_⟩
  have hg' : (w.withRegistry r).registry.Founded := by
    obtain ⟨token, -, rfl⟩ := Option.map_eq_some_iff.mp hs
    intro s' id x hl
    have hlookup := Registry.lookup_congr (Registry.cancelToken_requests w.registry token) s' id
    exact (Registry.knows_congr (cancelToken_handles _ _) x).mpr (hg s' id x (hlookup ▸ hl))
  exact (Scene.close_quiet next hg' hq).1.after_signal hs (List.mem_singleton.mpr rfl) hg

theorem steps_shuttingDown_quiet (hnodup : ss.Nodup)
    (hopen : ∀ s ∈ ss, (w.registry.records.get? s).isSome = true)
    (hg : w.registry.Founded) (hq : Quiet ⟨w, .shuttingDown ss n, []⟩) :
    ∃ es w', Steps ⟨w, .shuttingDown ss n, []⟩ es ⟨w', .shuttingDown [] (n + ss.length), []⟩ ∧
      w.TornDown ss ss w' := by
  induction ss generalizing w n with
  | nil => exact ⟨[], w, .refl _, w.tornDown_refl⟩
  | cons s ss ih =>
      obtain ⟨hs, hnodup⟩ := List.nodup_cons.mp hnodup
      obtain ⟨token, htoken⟩ := Option.isSome_iff_exists.mp (hopen s List.mem_cons_self)
      have hsignal : w.registry.signalClose? s = some (w.registry.cancelToken token) := by
        simp only [Registry.signalClose?, htoken, Option.map_some]
      have hstep : step ⟨w, .shuttingDown (s :: ss) n, []⟩ =
          some ⟨w.withRegistry (w.registry.cancelToken token), .purge s (.shutdown ss n), []⟩ := by
        simp only [step, hsignal]
      obtain ⟨es, v, k, t, htorn⟩ := steps_terminate_quiet hsignal hg (hq.step hstep)
      have t₁ : Steps ⟨w, .shuttingDown (s :: ss) n, []⟩ _
          ⟨v.withRegistry (v.registry.forget s), .shuttingDown ss (n + 1), []⟩ :=
        .head hstep (t.trans (.single rfl))
      have hrest : ∀ s' ∈ ss,
          ((v.withRegistry (v.registry.forget s)).registry.records.get? s').isSome = true := by
        intro s' hs'
        have hne : s' ∉ [s] := by
          rintro (_ | ⟨_, hin⟩)
          · exact hs hs'
          · cases hin
        rw [htorn.records, if_neg hne]
        exact hopen s' (List.mem_cons_of_mem _ hs')
      obtain ⟨es', w', t', htorn'⟩ := ih hnodup hrest (htorn.founded hg) (hq.steps t₁)
      rw [Nat.add_assoc, Nat.add_comm 1] at t'
      exact ⟨_, w', t₁.trans t', htorn.trans htorn' hg⟩

theorem steps_sweeping_quiet (hg : w.registry.Founded) (hq : Quiet ⟨w, .sweeping ss n, []⟩) :
    ∃ es w', Steps ⟨w, .sweeping ss n, []⟩ es ⟨w', .reply (.number n), []⟩ ∧
      w.TornDown ss ss w' := by
  induction ss generalizing w with
  | nil => exact ⟨_, w, .single rfl, w.tornDown_refl⟩
  | cons s ss ih =>
      have hq₁ : Quiet ⟨w, .purge s (.sweep ss n), []⟩ := hq.step rfl
      obtain ⟨htorn, -⟩ := Scene.close_quiet (.sweep ss n) hg hq₁
      obtain ⟨es, t⟩ := steps_purge w s (.sweep ss n) []
      have t₁ : Steps ⟨w, .sweeping (s :: ss) n, []⟩ _
          ⟨(w.purge s).1.withRegistry ((w.purge s).1.registry.forget s), .sweeping ss n, []⟩ :=
        .head rfl (t.trans (.single rfl))
      obtain ⟨es', w', t', htorn'⟩ := ih (htorn.founded hg) (hq.steps t₁)
      exact ⟨_, w', t₁.trans t', htorn.trans htorn' hg⟩

theorem steps_shutdown_quiet (hg : w.registry.Founded) (hq : Quiet ⟨w, .perform .shutdown, []⟩) :
    ∃ es w', Steps ⟨w, .perform .shutdown, []⟩ es
        ⟨w', .reply (.number w.registry.openSessions.length), []⟩ ∧
      w.TornDown (w.registry.openSessions ++ w.registry.sessionsWithMap)
        (w.registry.openSessions ++ w.registry.sessionsWithMap) w' := by
  have hs : step ⟨w, .perform .shutdown, []⟩ =
      some ⟨w, .shuttingDown w.registry.openSessions 0, []⟩ := rfl
  have hopen : ∀ s ∈ w.registry.openSessions, (w.registry.records.get? s).isSome = true :=
    fun s => Table.mem_keys.mp
  have hnodup : w.registry.openSessions.Nodup := w.registry.records.nodup
  obtain ⟨es₁, w₁, t₁, htorn₁⟩ := steps_shuttingDown_quiet hnodup hopen hg (hq.step hs)
  rw [Nat.zero_add] at t₁
  have t := (Steps.head hs t₁).trans (.single rfl)
  obtain ⟨es₂, w', t₂, htorn₂⟩ := steps_sweeping_quiet (htorn₁.founded hg) (hq.steps t)
  -- what is swept owned requests before
  have hswept : ∀ s, s ∈ w.registry.openSessions ++ w₁.registry.sessionsWithMap ↔
      s ∈ w.registry.openSessions ++ w.registry.sessionsWithMap := by
    intro s
    simp only [List.mem_append, Registry.sessionsWithMap, Table.mem_keys, htorn₁.requests s]
    split
    · next hs => simp [hs.1]
    · rfl
  exact ⟨_, w', t.trans t₂, (htorn₁.trans htorn₂ hg).congr hswept hswept⟩

end Machine

/-! ## Teardowns -/

namespace Action

def purged (r : Registry) : Action → List SessionId
  | .purge s | .closeSession s => [s]
  | .terminate s => if (r.records.get? s).isSome then [s] else []
  | .shutdown => r.openSessions ++ r.sessionsWithMap
  | _ => []

/-- The sessions that it forgets: a purge by itself leaves everything else in place. -/
def forgotten (r : Registry) : Action → List SessionId
  | .purge _ => []
  | a => a.purged r

/-- The reply to it, if so many handles have fired. -/
def verdict (r : Registry) (n : Nat) : Action → Reply
  | .purge _ | .closeSession _ => .number n
  | .terminate s => .truth (r.records.get? s).isSome
  | .shutdown => .number r.openSessions.length
  | _ => .nothing

end Action

theorem Machine.steps_teardown {w : Scene} {a : Action} (ha : a.tearsDown = true)
    (hg : w.registry.Founded) (hq : Quiet ⟨w, .perform a, []⟩) :
    ∃ es w', Steps ⟨w, .perform a, []⟩ es
        ⟨w', .reply (a.verdict w.registry (w.registry.fresh w'.registry)), []⟩ ∧
      w.TornDown (a.purged w.registry) (a.forgotten w.registry) w' := by
  cases a with
  | purge s =>
      have hs : step ⟨w, .perform (.purge s), []⟩ = some ⟨w, .purge s .purge, []⟩ := rfl
      obtain ⟨htorn, hcount⟩ := Scene.purge_quiet .purge hg (hq.step hs)
      obtain ⟨es, t⟩ := steps_purge w s .purge []
      refine ⟨_, _, .head hs (t.trans (.single ?_)), htorn⟩
      rw [Action.verdict, ← hcount]
      rfl
  | closeSession s =>
      have hs : step ⟨w, .perform (.closeSession s), []⟩ = some ⟨w, .purge s .close, []⟩ := rfl
      obtain ⟨htorn, hcount⟩ := Scene.close_quiet .close hg (hq.step hs)
      obtain ⟨es, t⟩ := steps_purge w s .close []
      refine ⟨_, _, .head hs (t.trans (.single ?_)), htorn⟩
      rw [Action.verdict, Scene.withRegistry, ← hcount]
      rfl
  | terminate s =>
      cases hsignal : w.registry.signalClose? s with
      | none =>
          have hnone : (w.registry.records.get? s).isSome = false := by
            simpa [Registry.signalClose?] using hsignal
          have hs : step ⟨w, .perform (.terminate s), []⟩ =
              some ⟨w, .reply (.truth false), []⟩ := by
            simp only [step, Scene.answer?, begin, hsignal]
          simp only [Action.verdict, Action.purged, Action.forgotten, hnone, Bool.false_eq_true,
            if_false]
          exact ⟨_, w, .single hs, w.tornDown_refl⟩
      | some r =>
          have hopen : (w.registry.records.get? s).isSome = true := by
            obtain ⟨token, ht, -⟩ := Option.map_eq_some_iff.mp hsignal
            rw [ht, Option.isSome_some]
          have hs : step ⟨w, .perform (.terminate s), []⟩ =
              some ⟨w.withRegistry r, .purge s .terminate, []⟩ := by
            simp only [step, Scene.answer?, begin, hsignal]
          obtain ⟨es, v, n, t, htorn⟩ := steps_terminate_quiet hsignal hg (hq.step hs)
          simp only [Action.verdict, Action.purged, Action.forgotten, hopen, if_true]
          exact ⟨_, _, .head hs (t.trans (.single rfl)), htorn⟩
  | shutdown => exact steps_shutdown_quiet hg hq
  | _ => cases ha

/-! ## Whatever the order -/

/-- Registries with the same entries in their tables, the same counters, and the same handles
fired and tokens cancelled. -/
structure Registry.Equivalent (r r' : Registry) : Prop where
  records : ∀ s, r'.records.get? s = r.records.get? s
  contexts : ∀ s, r'.contexts.get? s = r.contexts.get? s
  owners : ∀ s, (r'.requests.get? s).isSome = (r.requests.get? s).isSome
  closing : ∀ s, r'.isClosing s = r.isClosing s
  outstanding : ∀ s id, r'.lookup s id = r.lookup s id
  stats : r'.stats = r.stats
  fired : ∀ x, r'.HasFired x ↔ r.HasFired x
  cancelled : ∀ t, t ∈ r'.cancelled ↔ t ∈ r.cancelled

namespace Registry.Reordered

variable {r r' : Registry}

theorem owns (h : r.Reordered r') (s : SessionId) :
    (r'.requests.get? s).isSome = (r.requests.get? s).isSome := by
  rw [Bool.eq_iff_iff, ← Table.mem_keys, ← Table.mem_keys]
  exact h.owners.mem_iff

theorem purged (h : r.Reordered r') (a : Action) (s : SessionId) :
    s ∈ a.purged r' ↔ s ∈ a.purged r := by
  have hopen : ∀ s, r'.records.get? s = r.records.get? s := Table.get?_of_perm h.records
  cases a with
  | shutdown =>
      exact ((h.records.map Prod.fst).append h.owners).mem_iff
  | terminate s' => simp only [Action.purged, hopen]
  | _ => rfl

theorem forgotten (h : r.Reordered r') (a : Action) (s : SessionId) :
    s ∈ a.forgotten r' ↔ s ∈ a.forgotten r := by
  cases a with
  | terminate s' => exact h.purged (.terminate s') s
  | shutdown => exact h.purged .shutdown s
  | _ => rfl

theorem verdict (h : r.Reordered r') (a : Action) (n : Nat) : a.verdict r' n = a.verdict r n := by
  have hopen : ∀ s, r'.records.get? s = r.records.get? s := Table.get?_of_perm h.records
  cases a with
  | shutdown => simp only [Action.verdict, h.length_openSessions]
  | terminate s => simp only [Action.verdict, hopen]
  | _ => rfl

end Registry.Reordered

/-- What comes of tearing down the same sessions from tables in another order is the same. -/
theorem Scene.TornDown.equivalent {w w₁ w₂ : Scene} {r : Registry} {ps ps' fs fs' : List SessionId}
    (h : w.TornDown ps fs w₁) (h' : (w.withRegistry r).TornDown ps' fs' w₂)
    (ho : w.registry.Reordered r) (hp : ∀ s, s ∈ ps' ↔ s ∈ ps) (hf : ∀ s, s ∈ fs' ↔ s ∈ fs) :
    w₁.registry.Equivalent w₂.registry := by
  replace h' := h'.congr hp hf
  have hhandles : ∀ x, r.handle? x = w.registry.handle? x := Registry.handle?_congr ho.handles
  have htokens : ∀ n, ((w.withRegistry r).tokenOf n).1 = (w.tokenOf n).1 := by
    refine tokenOf_congr ?_
    rfl
  have hreaches : ∀ x t, (w.withRegistry r).Reaches x t ↔ w.Reaches x t := by
    intro x t
    simp only [Reaches, htokens]
    simp only [withRegistry, hhandles]
  have hopen : ∀ s, r.records.get? s = w.registry.records.get? s := Table.get?_of_perm ho.records
  have hfired : ∀ x, w₂.registry.HasFired x ↔ w₁.registry.HasFired x := by
    intro x
    refine (Spends.fired h'.cancels x).trans (Iff.trans ?_ (Spends.fired h.cancels x).symm)
    simp only [withRegistry, Registry.hasFired_congr ho.handles, ho.lookup]
  have hrecords : ∀ s, w₂.registry.records.get? s = w₁.registry.records.get? s := by
    intro s
    rw [h'.records, h.records]
    exact congrArg _ (hopen s)
  refine ⟨hrecords, ?_, ?_, ?_, ?_, ?_, hfired, ?_⟩
  · intro s
    rw [h'.contexts, h.contexts]
    exact congrArg _ (Table.get?_of_perm ho.contexts s)
  · intro s
    rw [h'.requests, h.requests]
    simp only [withRegistry, ho.closing]
    split
    · rfl
    · exact ho.owns s
  · intro s
    rw [h'.isClosing, h.isClosing]
    exact ho.closing s
  · intro s id
    rw [h'.lookup, h.lookup]
    exact congrArg _ (ho.lookup s id)
  · -- the same handles have fired and as many records are gone, so the same was counted
    obtain ⟨k, hsize, hstats⟩ := h.counted
    obtain ⟨k', hsize', hstats'⟩ := h'.counted
    have hbefore : r.records.size = w.registry.records.size := Table.size_congr hopen
    have hafter : w₂.registry.records.size = w₁.registry.records.size := Table.size_congr hrecords
    have hk : k' = k := by
      simp only [withRegistry] at hsize'
      omega
    have hfresh : r.fresh w₂.registry = w.registry.fresh w₁.registry := by
      simp only [Registry.fresh, hfired, Registry.hasFired_congr ho.handles]
    have hcounted : r.stats = w.registry.stats := by rw [ho.rest]
    rw [hstats', hstats]
    simp only [withRegistry, hk, hfresh, hcounted]
  · intro t
    refine (Spends.cancelled h'.cancels t).trans (Iff.trans ?_ (Spends.cancelled h.cancels t).symm)
    simp only [hreaches]
    simp only [withRegistry, ho.cancelled, ho.lookup, hopen]

/-- A handle's callback is called equally often where the same handles have fired. -/
theorem Machine.Recorded.count_called {m m₁ m₂ : Machine} {es es₁ es₂ : List Event}
    (h₁ : m₁.Recorded (es ++ es₁)) (h₂ : m₂.Recorded (es ++ es₂))
    (hk₁ : m.scene.registry.Kept m₁.scene.registry) (hk₂ : m.scene.registry.Kept m₂.scene.registry)
    (hfired : ∀ x, m₂.scene.registry.HasFired x ↔ m₁.scene.registry.HasFired x)
    (hmade : ∀ x, m₁.scene.registry.HasFired x → m.scene.registry.Knows x) (x : HandleId) :
    es₂.count (.called x) = es₁.count (.called x) := by
  suffices hall : (es ++ es₂).count (.called x) = (es ++ es₁).count (.called x) by
    simpa only [List.count_append, Nat.add_left_cancel_iff] using hall
  by_cases hk : m.scene.registry.Knows x
  · obtain ⟨y, hy⟩ := Registry.knows_iff.mp hk
    obtain ⟨f₁, hy₁⟩ := hk₁ x y hy
    obtain ⟨f₂, hy₂⟩ := hk₂ x y hy
    have hf : f₂ = true ↔ f₁ = true := by
      have hx := hfired x
      rwa [Registry.hasFired_iff hy₁, Registry.hasFired_iff hy₂] at hx
    rw [h₁.called hy₁, h₂.called hy₂]
    simp only [hf]
  · -- a handle that has been made meanwhile has not fired
    have hnever : ∀ {n : Machine} {es : List Event}, n.Recorded es →
        ¬ n.scene.registry.HasFired x → es.count (.called x) = 0 := by
      intro n es hr hn
      by_cases hkn : n.scene.registry.Knows x
      · obtain ⟨y, hy⟩ := Registry.knows_iff.mp hkn
        rw [Registry.hasFired_iff hy] at hn
        rw [hr.called hy, if_neg fun hf => hn hf.1]
      · exact List.count_eq_zero_of_not_mem (hr.unmade hkn).2
    have hn : ¬ m₁.scene.registry.HasFired x := fun hf => hk (hmade x hf)
    rw [hnever h₁ hn, hnever h₂ fun hf => hn ((hfired x).mp hf)]

theorem Scene.Discreet.reordered {w : Scene} {r : Registry} (hd : w.Discreet)
    (ho : w.registry.Reordered r) : (w.withRegistry r).Discreet := by
  have htold : ∀ x a, r.Says x a ↔ w.registry.Says x a := by
    intro x a
    simp only [Registry.Says, Registry.Seated, Registry.Scripted, ho.lookup,
      Registry.handle?_congr ho.handles]
  refine ⟨?_, ?_, ?_⟩
  · intro x a hx
    exact hd.keepsOut x a ((htold x a).mp hx)
  · intro x n hx
    exact hd.own x n ((htold x _).mp hx)
  · intro x n hx x' spec script hx'
    exact hd.unshared x n ((htold x _).mp hx) x' spec script ((htold x' _).mp hx')

/-- Let a purge, a close, a termination or a shutdown be about to begin, at whatever depth, and
let the callbacks of the outstanding handles keep to themselves; they may fail or panic.  From
tables that list their sessions, and the requests of each session, in another order it comes
to the same: it gives the same reply and leaves the same entries in the tables, the same
counters, and the same handles fired and tokens cancelled, and it has called the same callbacks
equally often. -/
theorem teardown_in_any_order {config : RegistryConfig} {allowed : Bool} {es : List Event}
    {m : Machine} (h : Reached config allowed es m) {a : Action} (ht : m.task = .perform a)
    (ha : a.tearsDown = true) (hd : m.scene.Discreet) {r : Registry}
    (ho : m.scene.registry.Reordered r) :
    ∃ es₁ w₁ es₂ w₂ x, Steps m es₁ ⟨w₁, .reply x, m.levels⟩ ∧
      Steps ⟨m.scene.withRegistry r, .perform a, m.levels⟩ es₂ ⟨w₂, .reply x, m.levels⟩ ∧
      w₁.registry.Equivalent w₂.registry ∧
      ∀ y, es₂.count (.called y) = es₁.count (.called y) := by
  obtain ⟨w, t, ls⟩ := m
  cases ht
  have hg : w.registry.Founded := fun _ _ _ => h.grounded.seated
  have hgrounded := h.grounded.reordered ho a
  have hg' : r.Founded := fun _ _ _ => hgrounded.seated
  have hd' := hd.reordered ho
  obtain ⟨es₁, w₁, t₁, htorn₁⟩ :=
    Machine.steps_teardown ha hg (Scene.quiet_of_discreet hd ha hg)
  obtain ⟨es₂, w₂, t₂, htorn₂⟩ :=
    Machine.steps_teardown ha hg' (Scene.quiet_of_discreet hd' ha hg')
  have heq := htorn₁.equivalent htorn₂ ho (ho.purged a) (ho.forgotten a)
  have hverdict : a.verdict r (r.fresh w₂.registry) =
      a.verdict w.registry (w.registry.fresh w₁.registry) := by
    simp only [ho.verdict, Registry.fresh, heq.fired, Registry.hasFired_congr ho.handles]
  have t₁' := Machine.steps_onto t₁ ls
  have t₂' : Steps ⟨w.withRegistry r, .perform a, ls⟩ es₂
      ⟨w₂, .reply (a.verdict r (r.fresh w₂.registry)), ls⟩ := Machine.steps_onto t₂ ls
  rw [hverdict] at t₂'
  refine ⟨es₁, w₁, es₂, w₂, _, t₁', t₂', heq, ?_⟩
  -- how often a callback was called is told by which handles have fired
  have hbefore : (⟨w.withRegistry r, .perform a, []⟩ : Machine).Recorded (es ++ []) :=
    h.recorded.same ho.handles (List.forall_mem_nil _)
  rw [List.append_nil] at hbefore
  have hkept : w.registry.Kept w₂.registry :=
    Registry.kept_trans (Registry.kept_of_handles ho.handles) (Scene.Spends.kept htorn₂.cancels)
  refine Machine.Recorded.count_called (m := ⟨w, .perform a, ls⟩)
    (t₁'.recorded h.grounded h.recorded) (t₂.recorded hgrounded hbefore)
    (Scene.Spends.kept htorn₁.cancels) hkept heq.fired ?_
  intro x hx
  rcases (Scene.Spends.fired htorn₁.cancels x).mp hx with hx | ⟨s, -, id, hl⟩
  · obtain ⟨y, hy, -⟩ := hx
    exact Registry.knows_iff.mpr ⟨y, hy⟩
  · exact hg s id x hl

/-- Two sessions are open and a third one only owns a request.  A handle stands on all three
whose callback cancels it again, cancels a token and fails; on one of them stands another one
with the same token, whose callback makes a handle and panics.  All sessions are about to be
closed. -/
def sharedAmongSessions : List Event × Machine :=
  Machine.play ([], ⟨.new (.new ⟨"ldap:", .direct⟩ true), .reply .nothing, []⟩)
    [(.openSession ⟨"s"⟩ none, 1), (.openSession ⟨"t"⟩ none, 1),
      (.makeHandle ⟨"shared", ⟨1⟩, "search", true, some "k", none, some (.fails "why")⟩
        [.cancel "shared", .cancelToken "j"], 1),
      (.makeHandle ⟨"panicking", ⟨2⟩, "modify", true, some "k", none, some (.panics none)⟩
        [.makeHandle ⟨"late", ⟨5⟩, "add", true, none, none, none⟩ [], .outstanding ⟨"t"⟩], 1),
      (.register ⟨"s"⟩ ⟨1⟩ "shared", 1), (.register ⟨"t"⟩ ⟨2⟩ "panicking", 1),
      (.register ⟨"t"⟩ ⟨4⟩ "shared", 1), (.register ⟨"v"⟩ ⟨4⟩ "shared", 1), (.shutdown, 0)]

theorem sharedAmongSessions_scripts {x : HandleId} {a : Action}
    (h : sharedAmongSessions.2.scene.registry.Says x a) :
    x = ⟨0⟩ ∧ (a = .cancel "shared" ∨ a = .cancelToken "j") ∨
      x = ⟨1⟩ ∧ (a = .makeHandle ⟨"late", ⟨5⟩, "add", true, none, none, none⟩ [] ∨
        a = .outstanding ⟨"t"⟩) := by
  obtain ⟨-, y, c, hy, hc, ha⟩ := h
  match x, hy with
  | ⟨0⟩, rfl =>
      cases hc
      exact Or.inl ⟨rfl, by simpa using ha⟩
  | ⟨1⟩, rfl =>
      cases hc
      exact Or.inr ⟨rfl, by simpa using ha⟩

theorem sharedAmongSessions_discreet : sharedAmongSessions.2.scene.Discreet := by
  refine ⟨?_, ?_, ?_⟩
  · intro x a hx
    rcases sharedAmongSessions_scripts hx with ⟨-, rfl | rfl⟩ | ⟨-, rfl | rfl⟩
    · exact Or.inr ⟨_, rfl⟩
    · exact Or.inl rfl
    · exact Or.inl rfl
    · exact Or.inl rfl
  · intro x n hx h hn
    rcases sharedAmongSessions_scripts hx with ⟨rfl, he | he⟩ | ⟨-, he | he⟩ <;> cases he
    exact (Option.some.inj hn).symm
  · intro x n hx x' spec script hx'
    rcases sharedAmongSessions_scripts hx with ⟨-, he | he⟩ | ⟨-, he | he⟩ <;> cases he
    rcases sharedAmongSessions_scripts hx' with ⟨-, he | he⟩ | ⟨-, he | he⟩ <;> cases he
    decide

/-- From tables in the opposite order, where the callbacks run in the opposite order as well,
two sessions are counted, too. -/
theorem two_sessions_in_either_order :
    ∃ es₁ w₁ es₂ w₂, Steps sharedAmongSessions.2 es₁ ⟨w₁, .reply (.number 2), []⟩ ∧
      Steps ⟨sharedAmongSessions.2.scene.withRegistry
          sharedAmongSessions.2.scene.registry.reversed, .perform .shutdown, []⟩ es₂
        ⟨w₂, .reply (.number 2), []⟩ ∧
      w₁.registry.Equivalent w₂.registry ∧
      es₂.count (.called ⟨0⟩) = es₁.count (.called ⟨0⟩) := by
  have h : Reached ⟨"ldap:", .direct⟩ true sharedAmongSessions.1 sharedAmongSessions.2 :=
    Runs.refl.play _
  have ho : sharedAmongSessions.2.scene.registry.Reordered
      sharedAmongSessions.2.scene.registry.reversed :=
    Registry.reordered_of_perm (List.reverse_perm _) (List.reverse_perm _) (List.reverse_perm _)
  obtain ⟨es₁, w₁, es₂, w₂, x, t₁, t₂, heq, hcalled⟩ :=
    teardown_in_any_order h (a := .shutdown) rfl rfl sharedAmongSessions_discreet ho
  have hx : x = .number 2 := by
    obtain ⟨w, hend⟩ : ∃ w, (Machine.advance 40 sharedAmongSessions.2).2 =
        ⟨w, .reply (.number 2), []⟩ := ⟨_, rfl⟩
    have hrun := (Machine.run_of_steps t₁).symm.trans
      (Machine.run_of_steps (Machine.steps_advance 40 sharedAmongSessions.2))
    have hlevels : sharedAmongSessions.2.levels = [] := rfl
    rw [hlevels, hend, Machine.run_reply, Machine.run_reply] at hrun
    cases hrun
    rfl
  rw [hx] at t₁ t₂
  exact ⟨es₁, w₁, es₂, w₂, t₁, t₂, heq, hcalled _⟩

end DirectorySessions
