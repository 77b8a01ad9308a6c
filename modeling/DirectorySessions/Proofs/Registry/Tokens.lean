/-
# Where tokens come from, and what cancels them

A token is cancelled in two ways.  A session that has a record is signalled or
closed, which cancels the token in the record; or someone cancels the token
outright, or a handle that it was given to.  `Machine.step_cancelled` says that
a step cancels these and no others.

A close token is in use nowhere before the session is opened: it is in no record,
no handle has it, no name stands for it, and it is not cancelled
(`Passed.dated`).  It is told from the other close tokens by the number of times
that the session had been opened, so that a session's record has the token of its
last opening.

Nothing else is assumed of tokens.  They may be shared by handles, cancelled
before anybody has them, and given to a handle after they were cancelled.
-/
import DirectorySessions.Proofs.Registry.Bindings
import DirectorySessions.Proofs.Registry.Census

namespace DirectorySessions

/-! ## What cancels a token -/

namespace Registry

variable {r r' : Registry} {s : SessionId} {h : HandleId} {t : TokenId}

/-- The token of a handle that has not fired. -/
def armed? (r : Registry) (h : HandleId) : Option TokenId :=
  ((r.handle? h).filter fun x => !x.fired).map Handle.token

theorem mem_cancelled_fire :
    t ∈ (r.fire h).cancelled ↔ t ∈ r.cancelled ∨ r.armed? h = some t := by
  simp only [fire, armed?]
  cases hx : r.handle? h with
  | none => simp
  | some x =>
      cases hf : x.fired with
      | true => simp [hf]
      | false =>
          have hc : ∀ hs, ({ r.cancelToken x.token with handles := hs } : Registry).cancelled =
              (r.cancelToken x.token).cancelled := fun _ => rfl
          simp only [Bool.false_eq_true, if_false, hc, mem_cancelled_cancelToken, Option.filter,
            hf, Bool.not_false, if_true, Option.map_some, Option.some.injEq]
          rw [or_comm, eq_comm]

theorem mem_cancelled_forget :
    t ∈ (r.forget s).cancelled ↔ t ∈ r.cancelled ∨ r.records.get? s = some t := by
  have hd : (r.dropContext s).records.get? s = r.records.get? s := rfl
  simp only [forget, dropRecord, hd]
  cases r.records.get? s with
  | none => simp [dropContext]
  | some u =>
      have hc : ∀ st rs, ({ (r.dropContext s).cancelToken u with
          records := rs, stats := st } : Registry).cancelled =
            ((r.dropContext s).cancelToken u).cancelled := fun _ _ => rfl
      rw [hc, mem_cancelled_cancelToken, Option.some.injEq, or_comm, eq_comm]
      rfl

theorem Effect.cancelled {a : Action} {es : List Event} (he : r.Effect a es r')
    (ha : ∀ n, a ≠ .cancelToken n) : r'.cancelled = r.cancelled := by
  cases he with
  | token name t => exact absurd rfl (ha name)
  | register name hr =>
      rw [register_ok (not_closing_of_register hr)] at hr
      cases hr
      rfl
  | complete hc =>
      obtain ⟨x, -, he⟩ := Option.map_eq_some_iff.mp hc
      cases he
      rfl
  | _ => rfl

theorem mem_cancelled_signalClose? :
    t ∈ ((r.signalClose? s).getD r).cancelled ↔ t ∈ r.cancelled ∨ r.records.get? s = some t := by
  simp only [signalClose?]
  cases r.records.get? s with
  | none => simp
  | some u =>
      rw [Option.map_some, Option.getD_some, mem_cancelled_cancelToken, Option.some.injEq, or_comm,
        eq_comm]

end Registry

namespace Machine

variable {m m' : Machine} {w : Scene} {s : SessionId} {t : TokenId}

/-- The session that the next step signals or closes, if it has a record. -/
def ending? (m : Machine) : Option SessionId :=
  match m.task with
  | .perform (.terminate s) => some s
  | .shuttingDown (s :: _) _ => some s
  | .purged s _ next => if next.forgets then some s else none
  | _ => none

/-- The next step signals or closes the session, whose record has the token. -/
def Ends (s : SessionId) (t : TokenId) (m : Machine) : Prop :=
  m.ending? = some s ∧ m.scene.registry.records.get? s = some t

/-- The token that the next step cancels outright, or with its handle. -/
def struck? (m : Machine) : Option TokenId :=
  match m.task with
  | .perform (.cancelToken name) => some (m.scene.tokenOf name).1
  | .cancel h _ => m.scene.registry.armed? h
  | _ => none

/-- The token that the next step cancels. -/
def cancelling? (m : Machine) : Option TokenId :=
  match m.ending? with
  | some s => m.scene.registry.records.get? s
  | none => m.struck?

theorem struck?_of_ending (h : m.ending? = some s) : m.struck? = none := by
  obtain ⟨w, task, ls⟩ := m
  cases task with
  | perform a => cases a <;> first | rfl | cases h
  | cancel x why => cases h
  | _ => rfl

theorem cancelling?_eq_some :
    m.cancelling? = some t ↔ (∃ s, m.Ends s t) ∨ m.struck? = some t := by
  simp only [cancelling?, Ends]
  cases he : m.ending? with
  | none => simp
  | some s => simp [struck?_of_ending he]

theorem begin_cancelled {a : Action} (ha : ∀ s, a ≠ .terminate s) (ls : List Level) :
    (begin w a ls).scene.registry.cancelled = w.registry.cancelled := by
  cases a with
  | cancel name =>
      simp only [begin]
      split <;> rfl
  | abandon s id =>
      simp only [begin]
      split
      · rfl
      · rfl
      · rename_i h r hb
        obtain ⟨-, rfl⟩ := Registry.beginAbandon_eq_taken hb
        rfl
  | terminate s => exact absurd rfl (ha s)
  | _ => rfl

theorem mem_cancelled_of_eq {r r' : Registry} (h : r'.cancelled = r.cancelled) :
    t ∈ r'.cancelled ↔ t ∈ r.cancelled ∨ none = some t := by
  rw [h]
  simp

theorem step_perform_cancelled {a : Action} {ls : List Level}
    (h : step ⟨w, .perform a, ls⟩ = some m') :
    t ∈ m'.scene.registry.cancelled ↔
      t ∈ w.registry.cancelled ∨ cancelling? ⟨w, .perform a, ls⟩ = some t := by
  cases ha : w.answer? a with
  | some y =>
      simp only [step, ha, Option.some.injEq] at h
      subst h
      have he := Scene.answer?_effect ha
      cases a with
      | cancelToken name =>
          cases ha
          show t ∈ ((w.tokenOf name).2.registry.cancelToken (w.tokenOf name).1).cancelled ↔
            t ∈ w.registry.cancelled ∨ some (w.tokenOf name).1 = some t
          rw [Registry.mem_cancelled_cancelToken, tokenOf_registry, Option.some.injEq, or_comm,
            eq_comm]
      | terminate s => cases ha
      | _ => exact mem_cancelled_of_eq (he.cancelled (by simp))
  | none =>
      simp only [step, ha, Option.some.injEq] at h
      subst h
      cases a with
      | cancelToken name => cases ha
      | terminate s =>
          refine (iff_of_eq ?_).trans Registry.mem_cancelled_signalClose?
          simp only [begin]
          cases w.registry.signalClose? s <;> rfl
      | _ => exact mem_cancelled_of_eq (begin_cancelled (by simp) ls)

/-- A step cancels the token in the record of the session that it ends, or the
token that it is asked to cancel, and no other. -/
theorem step_cancelled (h : m.step = some m') :
    t ∈ m'.scene.registry.cancelled ↔
      t ∈ m.scene.registry.cancelled ∨ m.cancelling? = some t := by
  obtain ⟨w, task, ls⟩ := m
  cases task with
  | perform a => exact step_perform_cancelled h
  | cancel x why =>
      cases h
      rw [cancelHandle_registry]
      exact Registry.mem_cancelled_fire
  | cancelled x why =>
      cases h
      cases why <;> exact mem_cancelled_of_eq rfl
  | purge s next =>
      cases hb : w.registry.beginPurge s with
      | none =>
          simp only [step, hb, Option.some.injEq] at h
          subst h
          exact mem_cancelled_of_eq rfl
      | some y =>
          obtain ⟨hs, r⟩ := y
          simp only [step, hb, Option.some.injEq] at h
          subst h
          obtain ⟨map, -, -, rfl⟩ := Registry.beginPurge_eq_some hb
          exact mem_cancelled_of_eq rfl
  | purging s pending n next =>
      cases pending <;> cases h <;> exact mem_cancelled_of_eq rfl
  | purged s n next =>
      cases h
      cases next with
      | purge => exact mem_cancelled_of_eq rfl
      | _ => exact Registry.mem_cancelled_forget
  | shuttingDown pending n =>
      cases pending with
      | nil =>
          cases h
          exact mem_cancelled_of_eq rfl
      | cons s ss =>
          refine (iff_of_eq ?_).trans Registry.mem_cancelled_signalClose?
          cases hc : w.registry.signalClose? s <;> simp only [step, hc, Option.some.injEq] at h <;>
            subst h <;> rfl
  | sweeping pending n => cases pending <;> cases h <;> exact mem_cancelled_of_eq rfl
  | reply x =>
      cases ls with
      | nil => cases h
      | cons l ls =>
          cases h
          exact mem_cancelled_of_eq (congrArg Registry.cancelled (proceed_registry w _ ls))

end Machine

/-! ## Where tokens are in use -/

/-- Every token that is in use satisfies the predicate: the one in a record, the
one of a handle, the one that a name stands for, and the one that is cancelled. -/
structure Scene.Only (P : TokenId → Prop) (w : Scene) : Prop where
  records : ∀ s t, w.registry.records.get? s = some t → P t
  handles : ∀ x ∈ w.registry.handles, P x.token
  named : ∀ n t, w.names.tokens.get? n = some t → P t
  cancelled : ∀ t ∈ w.registry.cancelled, P t

/-- Scenes with the same records, handles, names of tokens, and cancelled tokens. -/
structure Scene.SameTokens (w w' : Scene) : Prop where
  records : w'.registry.records = w.registry.records
  handles : w'.registry.handles = w.registry.handles
  named : w'.names.tokens = w.names.tokens
  cancelled : w'.registry.cancelled = w.registry.cancelled

namespace Scene

variable {P Q : TokenId → Prop} {w w' : Scene}

theorem Only.imp (hw : w.Only P) (h : ∀ t, P t → Q t) : w.Only Q :=
  ⟨fun s t hs => h t (hw.records s t hs), fun x hx => h x.token (hw.handles x hx),
    fun n t hn => h t (hw.named n t hn), fun t ht => h t (hw.cancelled t ht)⟩

theorem Only.of_same (hw : w.Only P) (h : w.SameTokens w') : w'.Only P := by
  constructor
  · rw [h.records]
    exact hw.records
  · rw [h.handles]
    exact hw.handles
  · rw [h.named]
    exact hw.named
  · rw [h.cancelled]
    exact hw.cancelled

theorem Only.nameToken (hw : w.Only P) (n : Option String) {t : TokenId} (ht : P t) :
    (w.nameToken n t).Only P := by
  cases n with
  | none => exact hw
  | some n =>
      refine ⟨hw.records, hw.handles, ?_, hw.cancelled⟩
      intro n' t' hn
      simp only [Scene.nameToken, Table.get?_insert] at hn
      split at hn
      · cases hn
        exact ht
      · exact hw.named n' t' hn

theorem Only.tokenOf (hw : w.Only P) (hP : ∀ n, P (.named n)) (n : String) :
    P (w.tokenOf n).1 ∧ (w.tokenOf n).2.Only P := by
  simp only [Scene.tokenOf]
  split
  · rename_i t ht
    exact ⟨hw.named n t ht, hw⟩
  · exact ⟨hP n, hw.nameToken (some n) (hP n)⟩

theorem Only.cancelToken (hw : w.Only P) {t : TokenId} (ht : P t) :
    (w.withRegistry (w.registry.cancelToken t)).Only P := by
  constructor
  · intro s u hs
    exact hw.records s u ((Registry.cancelToken_books w.registry t).2 ▸ hs)
  · intro x hx
    exact hw.handles x (Machine.cancelToken_handles w.registry t ▸ hx)
  · exact hw.named
  · intro u hu
    rcases Registry.mem_cancelled_cancelToken.mp hu with rfl | hu
    · exact ht
    · exact hw.cancelled u hu

theorem Only.fire (hw : w.Only P) (h : HandleId) :
    (w.withRegistry (w.registry.fire h)).Only P := by
  constructor
  · intro s t hs
    exact hw.records s t ((Registry.fire_books w.registry h).2 ▸ hs)
  · intro x hx
    obtain ⟨i, hi⟩ := List.mem_iff_getElem?.mp hx
    have hf := Registry.handle?_fire w.registry h ⟨i⟩
    rw [show (w.registry.fire h).handle? ⟨i⟩ = some x from hi] at hf
    split at hf
    · obtain ⟨y, hy, rfl⟩ := Option.map_eq_some_iff.mp hf.symm
      exact hw.handles y (List.mem_of_getElem? hy)
    · exact hw.handles x (List.mem_of_getElem? hf.symm)
  · exact hw.named
  · intro t ht
    rcases Registry.mem_cancelled_fire.mp ht with ht | ht
    · exact hw.cancelled t ht
    · simp only [Registry.armed?, Option.map_eq_some_iff, Option.filter_eq_some_iff] at ht
      obtain ⟨y, ⟨hy, -⟩, rfl⟩ := ht
      exact hw.handles y (List.mem_of_getElem? hy)

theorem Only.makeHandle (hw : w.Only P) (hP : ∀ n, P (.named n)) (hO : ∀ h, P (.own h))
    (spec : HandleSpec) (script : List Action) : (w.makeHandle spec script).Only P := by
  have made : ∀ {v : Scene} {x : Handle} {hs : Table String HandleId}, v.Only P → P x.token →
      Only P ⟨{ v.registry with handles := v.registry.handles ++ [x] },
        { v.names with handles := hs }, v.notes⟩ := by
    intro v x hs hv hx
    refine ⟨hv.records, ?_, hv.named, hv.cancelled⟩
    intro y hy
    rcases List.mem_append.mp hy with hy | hy
    · exact hv.handles y hy
    · rw [List.mem_singleton.mp hy]
      exact hx
  simp only [Scene.makeHandle]
  cases spec.token with
  | none => exact made hw (hO _)
  | some name =>
      obtain ⟨ht, hv⟩ := hw.tokenOf hP name
      exact made hv ht

theorem nameContext_tokens (w : Scene) (n : Option String) (c : SharedContext) :
    (w.nameContext n c).names.tokens = w.names.tokens := by
  simp only [nameContext]
  split <;> rfl

/-- What is carried out at once uses no other tokens than before, unless it opens
a session, makes a handle or cancels a token. -/
theorem answer?_sameTokens {a : Action} {x : Reply} (h : w.answer? a = some (w', x))
    (ho : ∀ s n, a ≠ .openSession s n) (hm : ∀ spec script, a ≠ .makeHandle spec script)
    (hc : ∀ n, a ≠ .cancelToken n) : w.SameTokens w' := by
  have he := answer?_effect h
  refine ⟨(he.sameRoll ho).records, ?_, ?_, he.cancelled hc⟩
  · generalize w.events a = es at he
    generalize w'.registry = r at he ⊢
    cases he with
    | handle spec script y hf => exact absurd rfl (hm spec script)
    | token n t => exact Machine.cancelToken_handles w.registry t
    | register n hr =>
        rw [Registry.register_ok (Registry.not_closing_of_register hr)] at hr
        cases hr
        rfl
    | complete hd =>
        obtain ⟨y, -, he⟩ := Option.map_eq_some_iff.mp hd
        cases he
        rfl
    | _ => rfl
  · cases a with
    | openSession s n => exact absurd rfl (ho s n)
    | makeHandle spec script => exact absurd rfl (hm spec script)
    | cancelToken n => exact absurd rfl (hc n)
    | makeContext n c =>
        cases h
        exact nameContext_tokens _ _ _
    | register s id n =>
        simp only [answer?] at h
        split at h
        · cases h
          rfl
        · split at h <;> cases h <;> rfl
    | getContext s cs b n =>
        simp only [answer?] at h
        split at h <;> cases h
        · rfl
        · exact nameContext_tokens _ _ _
        · rfl
    | getRootContext s cs n =>
        simp only [answer?] at h
        split at h <;> cases h
        · exact nameContext_tokens _ _ _
        · rfl
    | complete _ _ | setContext _ _ | authorizeBind _ _ =>
        simp only [answer?] at h
        split at h <;> cases h <;> rfl
    | cancel _ | abandon _ _ | purge _ | closeSession _ | terminate _ | shutdown => cases h
    | _ =>
        cases h
        rfl

end Scene

namespace Machine

variable {P : TokenId → Prop} {m m' : Machine} {w : Scene}

theorem begin_only (hw : w.Only P) (a : Action) (ls : List Level) :
    (begin w a ls).scene.Only P := by
  cases a with
  | cancel name =>
      simp only [begin]
      split <;> exact hw
  | abandon s id =>
      simp only [begin]
      split
      · exact hw
      · exact hw
      · rename_i h r hb
        obtain ⟨-, rfl⟩ := Registry.beginAbandon_eq_taken hb
        exact hw.of_same ⟨rfl, rfl, rfl, rfl⟩
  | terminate s =>
      simp only [begin]
      split
      · rename_i r hc
        obtain ⟨t, ht, rfl⟩ := Option.map_eq_some_iff.mp hc
        exact hw.cancelToken (hw.records s t ht)
      · exact hw
  | _ => exact hw

theorem forget_only (hw : w.Only P) (s : SessionId) :
    (w.withRegistry (w.registry.forget s)).Only P := by
  constructor
  · intro s' t hs
    have hr : (w.registry.forget s).records.get? s' = some t := hs
    rw [(Registry.forget_books w.registry s).2] at hr
    split at hr
    · cases hr
    · exact hw.records s' t hr
  · intro x hx
    exact hw.handles x ((Registry.forget_alike w.registry s).2 ▸ hx)
  · exact hw.named
  · intro t ht
    rcases Registry.mem_cancelled_forget.mp ht with ht | ht
    · exact hw.cancelled t ht
    · exact hw.records s t ht

/-- A close token comes into use when its session is opened, and in no other way. -/
theorem step_only (hP : ∀ t, (∀ s n, t ≠ .close s n) → P t) (h : m.step = some m')
    (hm : m.scene.Only P)
    (hnew : ∀ s, m.opening? = some s → P (m.scene.registry.openSession s).1) :
    m'.scene.Only P := by
  have hnamed : ∀ n, P (.named n) := fun n => hP _ (by simp)
  have hown : ∀ x, P (.own x) := fun x => hP _ (by simp)
  obtain ⟨w, task, ls⟩ := m
  cases task with
  | perform a =>
      cases ha : w.answer? a with
      | none =>
          simp only [step, ha, Option.some.injEq] at h
          subst h
          exact begin_only hm a ls
      | some y =>
          simp only [step, ha, Option.some.injEq] at h
          subst h
          cases a with
          | openSession s n =>
              cases ha
              refine Scene.Only.nameToken ?_ n (hnew s rfl)
              refine ⟨?_, hm.handles, hm.named, hm.cancelled⟩
              intro s' t hs
              have hr : ((w.registry.openSession s).2.records).get? s' = some t := hs
              simp only [Registry.openSession, Table.get?_insert] at hr
              split at hr
              · cases hr
                exact hnew s rfl
              · exact hm.records s' t hr
          | makeHandle spec script =>
              cases ha
              exact hm.makeHandle hnamed hown spec script
          | cancelToken n =>
              cases ha
              obtain ⟨ht, hv⟩ := hm.tokenOf hnamed n
              exact hv.cancelToken ht
          | _ => exact hm.of_same (Scene.answer?_sameTokens ha (by simp) (by simp) (by simp))
  | cancel x why =>
      cases h
      have hf := hm.fire x
      obtain ⟨hr, hn⟩ : (cancelHandle w x why ls).scene.registry = w.registry.fire x ∧
          (cancelHandle w x why ls).scene.names = w.names :=
        ⟨cancelHandle_registry w x why ls, cancelHandle_names w x why ls⟩
      exact hf.of_same ⟨congrArg Registry.records hr, congrArg Registry.handles hr,
        congrArg Names.tokens hn, congrArg Registry.cancelled hr⟩
  | cancelled x why =>
      cases h
      cases why <;> exact hm.of_same ⟨rfl, rfl, rfl, rfl⟩
  | purge s next =>
      cases hb : w.registry.beginPurge s with
      | none =>
          simp only [step, hb, Option.some.injEq] at h
          subst h
          exact hm
      | some y =>
          obtain ⟨hs, r⟩ := y
          simp only [step, hb, Option.some.injEq] at h
          subst h
          obtain ⟨map, -, -, rfl⟩ := Registry.beginPurge_eq_some hb
          exact hm.of_same ⟨rfl, rfl, rfl, rfl⟩
  | purging s pending n next =>
      cases pending <;> cases h <;> exact hm.of_same ⟨rfl, rfl, rfl, rfl⟩
  | purged s n next =>
      cases h
      cases next with
      | purge => exact hm
      | _ => exact forget_only hm s
  | shuttingDown pending n =>
      cases pending with
      | nil =>
          cases h
          exact hm
      | cons s ss =>
          cases hc : w.registry.signalClose? s with
          | none =>
              simp only [step, hc, Option.some.injEq] at h
              subst h
              exact hm
          | some r =>
              simp only [step, hc, Option.some.injEq] at h
              subst h
              obtain ⟨t, ht, rfl⟩ := Option.map_eq_some_iff.mp hc
              exact hm.cancelToken (hm.records s t ht)
  | sweeping pending n => cases pending <;> cases h <;> exact hm
  | reply x =>
      cases ls with
      | nil => cases h
      | cons l ls =>
          cases h
          obtain ⟨hr, hn, -, -⟩ := proceed_spec w { l with replies := x :: l.replies } ls
          exact hm.of_same ⟨congrArg Registry.records hr, congrArg Registry.handles hr,
            congrArg Names.tokens hn, congrArg Registry.cancelled hr⟩

end Machine

/-! ## Close tokens in the order of their making -/

namespace Registry

def opened (r : Registry) (s : SessionId) : Nat := (r.openings.get? s).getD 0

/-- The token was made, if it is a close token. -/
def Issued (r : Registry) : TokenId → Prop
  | .close s n => n < r.opened s
  | _ => True

theorem openSession_token (r : Registry) (s : SessionId) :
    (r.openSession s).1 = .close s (r.opened s) := rfl

theorem opened_openSession (r : Registry) (s s' : SessionId) :
    (r.openSession s).2.opened s' = if s = s' then r.opened s' + 1 else r.opened s' := by
  simp only [opened, openSession, Table.get?_insert]
  split
  · rename_i h
    subst h
    rfl
  · rfl

theorem forget_openings (r : Registry) (s : SessionId) : (r.forget s).openings = r.openings := by
  simp only [forget, dropRecord]
  split
  · simp only [cancelToken]
    split <;> rfl
  · rfl

end Registry

namespace Machine

variable {m m' : Machine}

theorem step_opened (h : m.step = some m') (s : SessionId) :
    m'.scene.registry.opened s =
      if m.opening? = some s then m.scene.registry.opened s + 1
      else m.scene.registry.opened s := by
  rcases step_roll h with ⟨s', ho, -, hr⟩ | ⟨s', ho, -, -, hr⟩ | ⟨ho, -, hr⟩
  · rw [hr, Registry.opened_openSession, ho]
    simp only [Option.some.injEq]
  · rw [ho, if_neg (by simp), Registry.opened, hr, Registry.forget_openings, Registry.opened]
  · rw [ho, if_neg (by simp), Registry.opened, hr.openings, Registry.opened]

theorem opened_le (h : m.step = some m') (s : SessionId) :
    m.scene.registry.opened s ≤ m'.scene.registry.opened s := by
  rw [step_opened h]
  split
  · exact Nat.le_succ _
  · exact Nat.le_refl _

end Machine

/-- The close tokens in use were all made, and the record of a session has the one
that was made last for it. -/
structure Scene.Dated (w : Scene) : Prop where
  issued : w.Only w.registry.Issued
  latest : ∀ s t, w.registry.records.get? s = some t →
    ∃ n, t = .close s n ∧ w.registry.opened s = n + 1

namespace Scene.Dated

variable {m m' : Machine} {w : Scene} {s : SessionId} {t : TokenId}

/-- The token of a session that is opened is new. -/
theorem fresh (hw : w.Dated) (s : SessionId) :
    (w.registry.openSession s).1 ∉ w.registry.cancelled := by
  intro hin
  have := hw.issued.cancelled _ hin
  rw [Registry.openSession_token] at this
  exact Nat.lt_irrefl _ this

theorem fresh_record (hw : w.Dated) (s s' : SessionId) :
    w.registry.records.get? s' ≠ some (w.registry.openSession s).1 := by
  intro hin
  have := hw.issued.records s' _ hin
  rw [Registry.openSession_token] at this
  exact Nat.lt_irrefl _ this

theorem step (h : m.step = some m') (hm : m.scene.Dated) : m'.scene.Dated := by
  have hgrow : ∀ t, m.scene.registry.Issued t → m'.scene.registry.Issued t := by
    intro t ht
    cases t with
    | close s n => exact Nat.lt_of_lt_of_le ht (Machine.opened_le h s)
    | _ => trivial
  constructor
  · refine Machine.step_only ?_ h (hm.issued.imp hgrow) ?_
    · intro t ht
      cases t with
      | close s n => exact absurd rfl (ht s n)
      | _ => trivial
    · intro s ho
      show m.scene.registry.opened s < m'.scene.registry.opened s
      rw [Machine.step_opened h, if_pos ho]
      exact Nat.lt_succ_self _
  · intro s t ht
    rcases Machine.step_roll h with ⟨s', ho, -, hr⟩ | ⟨s', ho, -, -, hr⟩ | ⟨ho, -, hr⟩
    · rw [hr] at ht ⊢
      rw [Registry.opened_openSession]
      simp only [Registry.openSession, Table.get?_insert] at ht
      split at ht
      · rename_i he
        subst he
        cases ht
        exact ⟨m.scene.registry.opened s', rfl, if_pos rfl⟩
      · rename_i hne
        rw [if_neg hne]
        exact hm.latest s t ht
    · rw [hr, (Registry.forget_books _ _).2] at ht
      split at ht
      · cases ht
      · rw [hr, Registry.opened, Registry.forget_openings]
        exact hm.latest s t ht
    · rw [hr.records] at ht
      rw [Registry.opened, hr.openings]
      exact hm.latest s t ht

end Scene.Dated

namespace Passed

variable {m₀ m : Machine} {ms : List Machine}

theorem dated (h : Passed m₀ ms m) (hm : m₀.scene.Dated) : m.scene.Dated := by
  induction h with
  | refl => exact hm
  | step h hs ih => exact ih.step hs
  | next h hs a ih => exact ih

end Passed

theorem Scene.dated_new (config : RegistryConfig) (allowed : Bool) :
    (Scene.new (.new config allowed)).Dated := by
  refine ⟨⟨?_, ?_, ?_, ?_⟩, ?_⟩
  · intro s t ht
    cases ht
  · intro x hx
    cases hx
  · intro n t ht
    cases ht
  · intro t ht
    cases ht
  · intro s t ht
    cases ht

end DirectorySessions
