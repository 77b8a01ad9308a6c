/-
# When a close token fires

A connection that was handed a close token waits for it.  The token is in the
record of its session from the opening on, and while it is there it fires when
the session is terminated, closed or shut down, at whatever depth of callbacks.

A session that is opened again gets another record, and the token of the first
one is let go of without being cancelled.  Unless it has fired by then, nothing
that is done to the session will fire it any more.  So a token fires, once its
session is gone, exactly if no later opening has displaced it
(`close_token_fires_unless_displaced`), the tokens aside that someone cancels by
hand; and `displaced_token_never_fires` is a session that is opened twice and
then terminated.

## How the proof goes

From its opening on a token is followed through the states of the run (`Fate`).
Either the session's record has it still, and has had it all along; or the
record has it no longer, and never will again, since every opening makes a token
that has not been there before (`Passed.dated`).  The equivalence is shown where
a step takes the token out of the record, and is kept by the steps that follow.

An operation need not be looked into for this.  That a close, a termination or a
shutdown has taken the record away is seen from a state that it goes through
(`Scene.removes_record`).
-/
import DirectorySessions.Proofs.Registry.Tokens

namespace DirectorySessions

/-! ## What becomes of a token -/

namespace Machine

variable {m m' : Machine} {s : SessionId} {n : Nat} {t : TokenId}

/-- Does the next step open a session whose record has the token, which has not
been cancelled? -/
def displaces (t : TokenId) (m : Machine) : Bool :=
  m.opening?.any fun s =>
    m.scene.registry.records.get? s = some t && !m.scene.registry.isCancelled t

theorem displaces_iff :
    m.displaces t = true ↔ ∃ s, m.opening? = some s ∧
      m.scene.registry.records.get? s = some t ∧ t ∉ m.scene.registry.cancelled := by
  simp [displaces, Option.any_eq_true, Registry.isCancelled]

theorem displaces_of_no_opening (ho : m.opening? = none) (t : TokenId) :
    m.displaces t = false := by
  simp only [displaces, ho, Option.any_none]

theorem displaces_close (hm : m.scene.Dated) (hd : m.displaces (.close s n) = true) :
    m.opening? = some s ∧ m.scene.registry.records.get? s = some (.close s n) := by
  obtain ⟨s', ho, hr, -⟩ := displaces_iff.mp hd
  obtain ⟨k, hk, -⟩ := hm.latest s' _ hr
  cases hk
  exact ⟨ho, hr⟩

theorem ends_close {s' : SessionId} (hm : m.scene.Dated) (he : m.Ends s' (.close s n)) :
    m.Ends s (.close s n) := by
  obtain ⟨k, hk, -⟩ := hm.latest s' _ he.2
  cases hk
  exact he

theorem cancelling?_of_opening (ho : m.opening? = some s) : m.cancelling? = none := by
  obtain ⟨w, task, ls⟩ := m
  obtain ⟨k, ht⟩ := opening?_eq_some ho
  subst ht
  rfl

theorem ending?_of_closing (hc : m.closing? = some s) : m.ending? = some s := by
  obtain ⟨k, next, ht, hn, -⟩ := closing?_eq_some hc
  simp only [ending?, ht, hn, if_true]

theorem record_of_opening (h : m.step = some m') (ho : m.opening? = some s) (s' : SessionId) :
    m'.scene.registry.records.get? s' =
      if s = s' then some (m.scene.registry.openSession s).1
      else m.scene.registry.records.get? s' := by
  rw [step_opening h ho]
  exact Table.get?_insert _ _ _ _

/-- A record loses its token when the session is opened again or closed. -/
theorem opening_or_closing (h : m.step = some m')
    (hr : m.scene.registry.records.get? s = some t)
    (hr' : m'.scene.registry.records.get? s ≠ some t) :
    m.opening? = some s ∨ m.closing? = some s := by
  rcases step_roll h with ⟨s', ho, -, -⟩ | ⟨s', -, hc, -, hreg⟩ | ⟨-, -, hreg⟩
  · rw [record_of_opening h ho] at hr'
    split at hr'
    · rename_i he
      rw [← he]
      exact Or.inl ho
    · exact absurd hr hr'
  · rw [hreg, (Registry.forget_books _ _).2] at hr'
    split at hr'
    · rename_i he
      rw [← he]
      exact Or.inr hc
    · exact absurd hr hr'
  · rw [hreg.records] at hr'
    exact absurd hr hr'

/-- A close token that was made and is not in the record of its session does not
get there any more. -/
theorem record_not_regained (h : m.step = some m') (hn : n < m.scene.registry.opened s)
    (hr : m.scene.registry.records.get? s ≠ some (.close s n)) :
    m'.scene.registry.records.get? s ≠ some (.close s n) := by
  rcases step_roll h with ⟨s', ho, -, -⟩ | ⟨s', -, -, -, hreg⟩ | ⟨-, -, hreg⟩
  · rw [record_of_opening h ho]
    split
    · intro he
      rw [Registry.openSession_token, Option.some.injEq, TokenId.close.injEq] at he
      rw [← he.1, he.2] at hn
      exact Nat.lt_irrefl _ hn
    · exact hr
  · rw [hreg, (Registry.forget_books _ _).2]
    split
    · simp
    · exact hr
  · rw [hreg.records]
    exact hr

end Machine

/-- What has become of the close token that a session was given when it was opened
for the `n`-th time, in the states gone through since: the session's record has
it still, or has had it no longer from one of them on. -/
inductive Whereabouts (s : SessionId) (n : Nat) (ms : List Machine) (w : Scene) : Prop
  | kept (hr : w.registry.records.get? s = some (.close s n))
      (hms : ∀ y ∈ ms, y.scene.registry.records.get? s = some (.close s n))
      (hd : ∀ y ∈ ms, y.displaces (.close s n) = false)
  | gone (hr : w.registry.records.get? s ≠ some (.close s n))
      (hc : .close s n ∈ w.registry.cancelled ↔
        (∀ y ∈ ms, y.displaces (.close s n) = false) ∨ ∃ y ∈ ms, y.struck? = some (.close s n))

/-- The token has been made, and where it is; it was cancelled if it was struck,
and if it was cancelled there was a cause. -/
structure Fate (s : SessionId) (n : Nat) (ms : List Machine) (w : Scene) : Prop where
  made : n < w.registry.opened s
  struck : (∃ y ∈ ms, y.struck? = some (.close s n)) → .close s n ∈ w.registry.cancelled
  cause : .close s n ∈ w.registry.cancelled →
    (∃ y ∈ ms, y.Ends s (.close s n)) ∨ ∃ y ∈ ms, y.struck? = some (.close s n)
  whereabouts : Whereabouts s n ms w

namespace Fate

variable {s : SessionId} {n : Nat} {ms ms' : List Machine} {w : Scene} {m m' : Machine}

theorem forall_mem_snoc {p : Machine → Prop} :
    (∀ y ∈ ms ++ [m], p y) ↔ (∀ y ∈ ms, p y) ∧ p m := by
  rw [List.forall_mem_append, List.forall_mem_singleton]

theorem exists_mem_snoc {p : Machine → Prop} :
    (∃ y ∈ ms ++ [m], p y) ↔ (∃ y ∈ ms, p y) ∨ p m := by
  simp only [List.mem_append, List.mem_singleton, or_and_right, exists_or, exists_eq_left]

/-- A record that is replaced displaces its token, unless the token was cancelled. -/
theorem gone_of_opening (hf : Fate s n ms m.scene) (h : m.step = some m')
    (hr : m.scene.registry.records.get? s = some (.close s n))
    (hd : ∀ y ∈ ms, y.displaces (.close s n) = false) (ho : m.opening? = some s) :
    .close s n ∈ m'.scene.registry.cancelled ↔
      (∀ y ∈ ms ++ [m], y.displaces (.close s n) = false) ∨
        ∃ y ∈ ms ++ [m], y.struck? = some (.close s n) := by
  have hnone := Machine.cancelling?_of_opening ho
  have hstruck : m.struck? ≠ some (.close s n) := by
    intro hs
    rw [Machine.cancelling?_eq_some.mpr (Or.inr hs)] at hnone
    cases hnone
  rw [Machine.step_cancelled h, hnone, forall_mem_snoc, exists_mem_snoc,
    or_iff_left (Option.some_ne_none _).symm, or_iff_left hstruck, and_iff_right hd]
  constructor
  · intro hin
    refine Or.inl (Bool.eq_false_iff.mpr fun hdm => ?_)
    obtain ⟨-, -, -, hnot⟩ := Machine.displaces_iff.mp hdm
    exact hnot hin
  · rintro (hdm | hs)
    · refine Decidable.byContradiction fun hnot => ?_
      rw [Machine.displaces_iff.mpr ⟨s, ho, hr, hnot⟩] at hdm
      cases hdm
    · exact hf.struck hs

theorem step (hf : Fate s n ms m.scene) (h : m.step = some m') (hm : m.scene.Dated) :
    Fate s n (ms ++ [m]) m'.scene := by
  have hcancelled := Machine.step_cancelled (t := .close s n) h
  rw [Machine.cancelling?_eq_some] at hcancelled
  have hends : (∃ s', m.Ends s' (.close s n)) ↔ m.Ends s (.close s n) :=
    ⟨fun ⟨_, he⟩ => Machine.ends_close hm he, fun he => ⟨s, he⟩⟩
  rw [hends] at hcancelled
  constructor
  · exact Nat.lt_of_lt_of_le hf.made (Machine.opened_le h s)
  · rw [exists_mem_snoc, hcancelled]
    rintro (hs | hs)
    · exact Or.inl (hf.struck hs)
    · exact Or.inr (Or.inr hs)
  · rw [exists_mem_snoc, exists_mem_snoc, hcancelled]
    rintro (hin | he | hs)
    · rcases hf.cause hin with he | hs
      · exact Or.inl (Or.inl he)
      · exact Or.inr (Or.inl hs)
    · exact Or.inl (Or.inr he)
    · exact Or.inr (Or.inr hs)
  · cases hf.whereabouts with
    | kept hr hms hd =>
        by_cases hr' : m'.scene.registry.records.get? s = some (.close s n)
        · refine .kept hr' (forall_mem_snoc.mpr ⟨hms, hr⟩) (forall_mem_snoc.mpr ⟨hd, ?_⟩)
          rw [Bool.eq_false_iff]
          intro hdm
          obtain ⟨ho, -⟩ := Machine.displaces_close hm hdm
          rw [Machine.record_of_opening h ho, if_pos rfl, ← hr] at hr'
          exact hm.fresh_record s s hr'.symm
        · refine .gone hr' ?_
          rcases Machine.opening_or_closing h hr hr' with ho | hc
          · exact hf.gone_of_opening h hr hd ho
          · have hin : .close s n ∈ m'.scene.registry.cancelled :=
              hcancelled.mpr (Or.inr (Or.inl ⟨Machine.ending?_of_closing hc, hr⟩))
            have hno : m.opening? = none := by
              cases ho : m.opening? with
              | none => rfl
              | some s' =>
                  rw [Machine.closing?_of_opening ho] at hc
                  cases hc
            exact iff_of_true hin (Or.inl (forall_mem_snoc.mpr
              ⟨hd, Machine.displaces_of_no_opening hno _⟩))
    | gone hr hc =>
        refine .gone (Machine.record_not_regained h hf.made hr) ?_
        have hdm : m.displaces (.close s n) = false :=
          Bool.eq_false_iff.mpr fun hdm => hr (Machine.displaces_close hm hdm).2
        have hno : ¬ m.Ends s (.close s n) := fun he => hr he.2
        rw [hcancelled, or_iff_right hno, forall_mem_snoc, exists_mem_snoc, and_iff_left hdm, hc,
          or_assoc]

/-- What becomes of a token from some state on is a matter of the states that are
gone through from there. -/
theorem passed {x : Machine} (hf : Fate s n ms x.scene) (hm : x.scene.Dated)
    (h : Passed x ms' m) :
    Fate s n (ms ++ ms') m.scene := by
  induction h with
  | refl =>
      rw [List.append_nil]
      exact hf
  | step h hs ih =>
      rw [← List.append_assoc]
      exact ih.step hs (h.dated hm)
  | next h hs a ih => exact ih

/-- Once the session has been without a record, its token is cancelled exactly if
it was not displaced, or if it was struck. -/
theorem cancelled_iff (hf : Fate s n ms w)
    (hgone : w.registry.records.get? s = none ∨
      ∃ y ∈ ms, y.scene.registry.records.get? s = none) :
    .close s n ∈ w.registry.cancelled ↔
      (∀ y ∈ ms, y.displaces (.close s n) = false) ∨
        ∃ y ∈ ms, y.struck? = some (.close s n) := by
  cases hf.whereabouts with
  | kept hr hms hd =>
      rcases hgone with hnone | ⟨y, hy, hnone⟩
      · rw [hr] at hnone
        cases hnone
      · rw [hms y hy] at hnone
        cases hnone
  | gone hr hc => exact hc

/-- The fate of a token begins with the opening that makes it. -/
theorem of_opening (h : m.step = some m') (hm : m.scene.Dated) (ho : m.opening? = some s) :
    Fate s (m.scene.registry.opened s) [] m'.scene := by
  have hout : .close s (m.scene.registry.opened s) ∉ m'.scene.registry.cancelled := by
    rw [Machine.step_cancelled h, Machine.cancelling?_of_opening ho]
    rintro (hin | hin)
    · exact hm.fresh s hin
    · cases hin
  constructor
  · rw [Machine.step_opened h, if_pos ho]
    exact Nat.lt_succ_self _
  · rintro ⟨y, hy, -⟩
    cases hy
  · intro hin
    exact absurd hin hout
  · refine .kept ?_ ?_ ?_
    · rw [Machine.record_of_opening h ho, if_pos rfl]
      rfl
    · intro y hy
      cases hy
    · intro y hy
      cases hy

end Fate

/-! ## Operations that take a record away -/

namespace Passed

variable {m₀ m x : Machine} {ms₁ ms₂ : List Machine}

theorem after (h : Passed m₀ (ms₁ ++ x :: ms₂) m) : ∃ x', x.step = some x' ∧ Passed x' ms₂ m := by
  generalize hms : ms₁ ++ x :: ms₂ = ms at h
  induction h generalizing ms₂ with
  | refl => exact absurd hms (by simp)
  | @step ms m m' h hs ih =>
      rcases List.eq_nil_or_concat ms₂ with rfl | ⟨ms₃, y, rfl⟩
      · obtain ⟨-, hm⟩ := List.append_inj' hms rfl
        cases hm
        exact ⟨m', hs, .refl⟩
      · rw [List.concat_eq_append, ← List.cons_append, ← List.append_assoc] at hms
        obtain ⟨hfirst, hlast⟩ := List.append_inj' hms rfl
        obtain ⟨x', hx, h'⟩ := ih hfirst
        cases hlast
        rw [List.concat_eq_append]
        exact ⟨x', hx, h'.step hs⟩
  | next h hs a ih =>
      obtain ⟨x', hx, h'⟩ := ih hms
      exact ⟨x', hx, h'.next hs a⟩

end Passed

namespace Machine

variable {m m' : Machine} {s : SessionId}

theorem path_of_steps {es : List Event} (h : Steps m es m') : ∃ ms, m.path = ms ++ m'.path := by
  induction h with
  | refl => exact ⟨[], rfl⟩
  | head hs t ih =>
      obtain ⟨ms, hms⟩ := ih
      exact ⟨_ :: ms, by rw [path_of_step hs, hms, List.cons_append]⟩

theorem mem_path (h : m.step = some m') : m ∈ m.path := by
  rw [path_of_step h]
  exact List.mem_cons_self

/-- A shutdown that has a session still before it comes to a state in which the
session has no record. -/
theorem shuttingDown_removes {pending : List SessionId} (hs : s ∈ pending) (w : Scene) (n : Nat) :
    ∃ y ∈ path ⟨w, .shuttingDown pending n, []⟩, y.scene.registry.records.get? s = none := by
  induction pending generalizing w n with
  | nil => cases hs
  | cons s' ss ih =>
      cases hc : w.registry.signalClose? s' with
      | none =>
          have hstep : step ⟨w, .shuttingDown (s' :: ss) n, []⟩ =
              some ⟨w, .shuttingDown ss n, []⟩ := by
            simp only [step, hc]
          rw [path_of_step hstep]
          rcases List.mem_cons.mp hs with rfl | hs
          · exact ⟨_, List.mem_cons_self, Option.map_eq_none_iff.mp hc⟩
          · obtain ⟨y, hy, hr⟩ := ih hs w n
            exact ⟨y, List.mem_cons_of_mem _ hy, hr⟩
      | some r =>
          have hstep : step ⟨w, .shuttingDown (s' :: ss) n, []⟩ =
              some ⟨w.withRegistry r, .purge s' (.shutdown ss n), []⟩ := by
            simp only [step, hc]
          obtain ⟨es, t⟩ := steps_purge (w.withRegistry r) s' (.shutdown ss n) []
          -- the session is forgotten, and the shutdown goes on with the others
          obtain ⟨v, t⟩ : ∃ v : Scene, ∃ es, Steps ⟨w, .shuttingDown (s' :: ss) n, []⟩ es
              ⟨v.withRegistry (v.registry.forget s'), .shuttingDown ss (n + 1), []⟩ :=
            ⟨_, _, .head hstep (t.trans (.single rfl))⟩
          obtain ⟨es, t⟩ := t
          obtain ⟨ms, hms⟩ := path_of_steps t
          rw [hms]
          rcases List.mem_cons.mp hs with rfl | hs
          · have hnone : (v.registry.forget s).records.get? s = none := by
              rw [(Registry.forget_books _ _).2, if_pos rfl]
            cases hn : step
                ⟨v.withRegistry (v.registry.forget s), .shuttingDown ss (n + 1), []⟩ with
            | none =>
                obtain ⟨w', x, he⟩ := step_eq_none hn
                cases he
            | some m' => exact ⟨_, List.mem_append_right _ (mem_path hn), hnone⟩
          · obtain ⟨y, hy, hr⟩ := ih hs (v.withRegistry (v.registry.forget s')) (n + 1)
            exact ⟨y, List.mem_append_right _ hy, hr⟩

end Machine

namespace Scene

variable {w : Scene} {s : SessionId} {a : Action}

/-- The operations that take away the record of a session, with the replies that say so. -/
inductive Removes (w : Scene) (s : SessionId) : Action → Reply → Prop
  | close (n : Nat) : Removes w s (.closeSession s) (.number n)
  | terminate : Removes w s (.terminate s) (.truth true)
  | shutdown (t : TokenId) (n : Nat) (hr : w.registry.records.get? s = some t) :
      Removes w s .shutdown (.number n)

/-- An operation that takes away the record of a session comes to a state in which
the session has none. -/
theorem removes_record (h : w.Removes s a (w.perform a).2) :
    (w.perform a).1.registry.records.get? s = none ∨
      ∃ y ∈ w.passage a, y.scene.registry.records.get? s = none := by
  generalize hx : (w.perform a).2 = x at h
  cases h with
  | close n =>
      rw [perform_closeSession]
      refine Or.inl ((Registry.forget_books _ s).2 s |>.trans (if_pos rfl))
  | terminate =>
      cases hc : w.registry.signalClose? s with
      | none =>
          have hstep : Machine.step ⟨w, .perform (.terminate s), []⟩ =
              some ⟨w, .reply (.truth false), []⟩ := by
            simp only [Machine.step, answer?, Machine.begin, hc]
          rw [Machine.perform_of_steps (.single hstep)] at hx
          cases hx
      | some r =>
          rw [perform_terminate hc]
          refine Or.inl ((Registry.forget_books _ s).2 s |>.trans (if_pos rfl))
  | shutdown t n hr =>
      have hs : s ∈ w.registry.openSessions := by
        rw [Registry.openSessions, Table.mem_keys, hr]
        rfl
      obtain ⟨y, hy, hnone⟩ := Machine.shuttingDown_removes hs w 0
      refine Or.inr ⟨y, ?_, hnone⟩
      rw [passage, Machine.path_of_step rfl]
      exact List.mem_cons_of_mem _ hy

end Scene

/-- In every run, at any depth of callbacks, let a session be opened and given a
token.  Once it has been without a record, and when a close, a termination or a
shutdown that takes its record away has come to its end, the token is cancelled
exactly if no later opening of the session displaced it, or if someone cancelled
it by hand.  And if it is cancelled, then because its session was terminated or
closed while its record had the token, or by hand. -/
theorem close_token_fires_unless_displaced {config : RegistryConfig} {allowed : Bool}
    {ms₁ ms₂ : List Machine} {x m : Machine} {s : SessionId} {t : TokenId}
    (h : Passed ⟨.new (.new config allowed), .reply .nothing, []⟩ (ms₁ ++ x :: ms₂) m)
    (ho : x.opening? = some s) (ht : (x.scene.registry.openSession s).1 = t) :
    ((∃ y ∈ ms₂ ++ [m], y.scene.registry.records.get? s = none) →
      (t ∈ m.scene.registry.cancelled ↔
        (∀ y ∈ ms₂, y.displaces t = false) ∨ ∃ y ∈ ms₂, y.struck? = some t)) ∧
    (∀ a, m.task = .perform a → m.scene.Removes s a (m.scene.perform a).2 →
      (t ∈ (m.scene.perform a).1.registry.cancelled ↔
        (∀ y ∈ ms₂ ++ m.scene.passage a, y.displaces t = false) ∨
          ∃ y ∈ ms₂ ++ m.scene.passage a, y.struck? = some t)) ∧
    (t ∈ m.scene.registry.cancelled →
      (∃ y ∈ ms₂, y.Ends s t) ∨ ∃ y ∈ ms₂, y.struck? = some t) := by
  have hx := (h.before rfl).dated (Scene.dated_new config allowed)
  have hm := h.dated (Scene.dated_new config allowed)
  obtain ⟨x', hs, h'⟩ := h.after
  have hf := (Fate.of_opening hs hx ho).passed (hx.step hs) h'
  rw [List.nil_append] at hf
  rw [Registry.openSession_token] at ht
  subst ht
  refine ⟨?_, ?_, hf.cause⟩
  · intro hgone
    refine hf.cancelled_iff ?_
    rw [or_comm, ← Fate.exists_mem_snoc]
    exact hgone
  · intro a ha hr
    have hend := hf.passed (x := ⟨m.scene, .perform a, []⟩) hm (m.scene.passed a)
    refine hend.cancelled_iff ?_
    rcases Scene.removes_record hr with hnone | ⟨y, hy, hnone⟩
    · exact Or.inl hnone
    · exact Or.inr ⟨y, List.mem_append_right _ hy, hnone⟩

/-- A session is terminated; a callback of one of its requests opens it again
before its record is dropped. -/
def reopenedWhileTerminated : List Machine × Machine :=
  Machine.tour ([], ⟨.new (.new ⟨"ldap:", .direct⟩ true), .reply .nothing, []⟩)
    [(.openSession ⟨"s"⟩ none, 1),
      (.makeHandle ⟨"first", ⟨1⟩, "search", true, none, none, some .returns⟩
        [.openSession ⟨"s"⟩ none], 1),
      (.register ⟨"s"⟩ ⟨1⟩ "first", 1), (.terminate ⟨"s"⟩, 16)]

/-- By the time the session is opened again its first token has fired. -/
theorem token_fires_before_reopening :
    reopenedWhileTerminated.2.scene.registry.records.get? ⟨"s"⟩ = none ∧
      (∀ y ∈ reopenedWhileTerminated.1.tail, y.displaces (.close ⟨"s"⟩ 0) = false) ∧
      .close ⟨"s"⟩ 0 ∈ reopenedWhileTerminated.2.scene.registry.cancelled := by
  have hgone : reopenedWhileTerminated.2.scene.registry.records.get? ⟨"s"⟩ = none := by decide
  have hnot : ∀ y ∈ reopenedWhileTerminated.1.tail, y.displaces (.close ⟨"s"⟩ 0) = false := by
    decide
  have hall : Passed ⟨.new (.new ⟨"ldap:", .direct⟩ true), .reply .nothing, []⟩
      reopenedWhileTerminated.1 reopenedWhileTerminated.2 := Passed.refl.tour _
  have h : Passed ⟨.new (.new ⟨"ldap:", .direct⟩ true), .reply .nothing, []⟩
      ([] ++ ⟨.new (.new ⟨"ldap:", .direct⟩ true), .perform (.openSession ⟨"s"⟩ none), []⟩ ::
        reopenedWhileTerminated.1.tail) reopenedWhileTerminated.2 := hall
  exact ⟨hgone, hnot, ((close_token_fires_unless_displaced h rfl rfl).1
    ⟨_, List.mem_append_right _ List.mem_cons_self, hgone⟩).mpr (Or.inl hnot)⟩

def openedTwiceAndTerminated : List Machine × Machine :=
  Machine.tour ([], ⟨.new (.new ⟨"ldap:", .direct⟩ true), .reply .nothing, []⟩)
    [(.openSession ⟨"a"⟩ none, 1), (.openSession ⟨"a"⟩ none, 1), (.terminate ⟨"a"⟩, 16)]

/-- The termination has succeeded and the session has no record; the token of its
second opening is cancelled, and that of its first is not. -/
theorem displaced_token_never_fires :
    openedTwiceAndTerminated.1.map Machine.opening? =
        [some ⟨"a"⟩, some ⟨"a"⟩, none, none, none] ∧
      openedTwiceAndTerminated.2.task = .reply (.truth true) ∧
      openedTwiceAndTerminated.2.scene.registry.records.get? ⟨"a"⟩ = none ∧
      .close ⟨"a"⟩ 1 ∈ openedTwiceAndTerminated.2.scene.registry.cancelled ∧
      .close ⟨"a"⟩ 0 ∉ openedTwiceAndTerminated.2.scene.registry.cancelled := by
  exact ⟨by decide, rfl, by decide, by decide, by decide⟩

end DirectorySessions
