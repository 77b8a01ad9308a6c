/-
# Every registration ends once

A registration may be ended by completing it, by abandoning it, by a purge of
its session, or by another one under its number.  Whichever comes first takes
the handle out of the request map, and the others do not see it any more; this
holds within callbacks as well, where a purge may be half done.

The handle's callback follows the end: it is called once if the registration
was abandoned or purged, and never otherwise.  The call has been made when the
operation that ended the registration returns.  For this it is assumed that
the handle was registered once and that nobody cancels it outright, since
otherwise the call may be owed to someone else.

## How the proof goes

That there is one end at most is a matter of counting: what is outstanding
and what has ended add up to what was registered (`Runs.seats`), and one
registration of a handle leaves room for one end.  The callback is counted in
the same way, through the handles that wait for their turn (`Runs.owed`).
When no operation is under way none waits.  In the middle of a run the
operation that ended the registration must have returned (`EndReturned`), and
then the handle's turn has come, whatever is still under way further out.
-/
import DirectorySessions.Proofs.Registry.Calls

namespace DirectorySessions

namespace Event

variable {s s' : SessionId} {id id' : RequestId} {x : HandleId} {e : Event}

theorem ends_iff : Event.ends s id x e = true ↔ ∃ how, e = .ended s id x how := by
  cases e with
  | ended s' id' x' how =>
      simp only [Event.ends, decide_eq_true_eq, Event.ended.injEq]
      constructor
      · rintro ⟨rfl, rfl, rfl⟩
        exact ⟨how, rfl, rfl, rfl, rfl⟩
      · rintro ⟨_, rfl, rfl, rfl, rfl⟩
        exact ⟨rfl, rfl, rfl⟩
  | _ => simp [Event.ends]

theorem detaches_iff :
    Event.detaches x e = true ↔ ∃ s id how, how.detaches = true ∧ e = .ended s id x how := by
  cases e with
  | ended s' id' x' how =>
      simp only [Event.detaches, decide_eq_true_eq]
      constructor
      · rintro ⟨rfl, hd⟩
        exact ⟨s', id', how, hd, rfl⟩
      · rintro ⟨_, _, _, hd, he⟩
        cases he
        exact ⟨rfl, hd⟩
  | _ => simp [Event.detaches]

end Event

/-- The operation that ended the registration has returned, to the callbacks
that were under way when it did so. -/
def EndReturned (config : RegistryConfig) (allowed : Bool) (s : SessionId) (id : RequestId)
    (x : HandleId) (es : List Event) (m : Machine) : Prop :=
  ∃ es₀ m₀ how es₁ w r es₂, Reached config allowed es₀ m₀ ∧ .ended s id x how ∈ m₀.events ∧
    Steps m₀ es₁ ⟨w, .reply r, m₀.levels⟩ ∧ Runs ⟨w, .reply r, m₀.levels⟩ es₂ m ∧
    es = es₀ ++ es₁ ++ es₂

namespace Runs

variable {config : RegistryConfig} {allowed : Bool} {m : Machine} {es : List Event}
  {s : SessionId} {id : RequestId} {x : HandleId}

theorem knows_registered (h : Reached config allowed es m) (hr : .registered s id x ∈ es) :
    m.scene.registry.Knows x := by
  induction h with
  | refl => exact absurd hr List.not_mem_nil
  | @step es m m' h hs ih =>
      have htrans := Machine.step_transition hs
      rcases List.mem_append.mp hr with hr | hr
      · exact htrans.knows (ih hr)
      · obtain ⟨n, hg⟩ := htrans.named_of_registered hr
        exact htrans.knows (h.grounded.named hg)
  | next h hs a ih => exact ih hr

/-- Between operations, whatever ended a registration has returned. -/
theorem endReturned (h : Reached config allowed es m) (hs : m.step = none)
    (he : ∃ how, .ended s id x how ∈ es) : EndReturned config allowed s id x es m := by
  obtain ⟨how, he⟩ := he
  obtain ⟨es₀, m₀, es₂, h₀, hm, h₂, rfl⟩ := h.mem_split he
  obtain ⟨es₁, w, r, t⟩ := m₀.steps_return
  rcases h₂.through t with ⟨es₃, h₃, rfl⟩ | ⟨es₃, t₃, rfl⟩
  · exact ⟨es₀, m₀, how, es₁, w, r, es₃, h₀, hm, t, h₃, (List.append_assoc _ _ _).symm⟩
  · cases t₃ with
    | refl =>
        rw [List.append_nil] at t
        exact ⟨es₀, m₀, how, es₂, w, r, [], h₀, hm, t, .refl, (List.append_nil _).symm⟩
    | head hs' t₃ =>
        rw [hs] at hs'
        cases hs'

theorem registered_of_ended (h : Reached config allowed es m) {how : RequestEnd}
    (he : .ended s id x how ∈ es) : .registered s id x ∈ es := by
  have hpos : 0 < es.countP (Event.ends s id x) :=
    List.countP_pos_iff.mpr ⟨_, he, Event.ends_iff.mpr ⟨how, rfl⟩⟩
  have hseat := h.seats s id x
  exact List.count_pos_iff.mp (by omega)

theorem ends_of_detaches (h : Reached config allowed es m) (hr : .registered s id x ∈ es)
    (hone : es.countP (Event.registers x) ≤ 1) {e : Event} (he : e ∈ es)
    (hd : Event.detaches x e = true) : ∃ how, how.detaches = true ∧ e = .ended s id x how := by
  obtain ⟨s', id', how, hhow, rfl⟩ := Event.detaches_iff.mp hd
  have hr' := h.registered_of_ended he
  have heq := eq_of_countP_le_one hone hr hr' (by simp [Event.registers])
    (by simp [Event.registers])
  cases heq
  exact ⟨how, hhow, rfl⟩

theorem count_registered (hr : .registered s id x ∈ es)
    (hone : es.countP (Event.registers x) ≤ 1) : es.count (.registered s id x) = 1 := by
  have hpos := List.count_pos_iff.mpr hr
  have hle : es.count (.registered s id x) ≤ es.countP (Event.registers x) := by
    rw [List.count_eq_countP]
    refine List.countP_mono_left ?_
    intro e _ he
    rw [eq_of_beq he]
    simp [Event.registers]
  omega

theorem lookup_iff_not_ended (h : Reached config allowed es m)
    (hreg : es.count (.registered s id x) = 1) :
    m.scene.registry.lookup s id = some x ↔ ∀ how, .ended s id x how ∉ es := by
  rw [Registry.lookup_iff_seat ((h.seats s id x).trans hreg), List.countP_eq_zero]
  constructor
  · intro hz how he
    exact hz _ he (Event.ends_iff.mpr ⟨how, rfl⟩)
  · intro hz e he hp
    obtain ⟨how, rfl⟩ := Event.ends_iff.mp hp
    exact hz how he

/-- A handle that was not detached, and that nobody asks to cancel, is not cancelled. -/
theorem not_cancelled (h : Reached config allowed es m) (hr : .registered s id x ∈ es)
    (hone : es.countP (Event.registers x) ≤ 1) (hask : .asked x ∉ es)
    (hkeep : ∀ how, .ended s id x how ∈ es → how.detaches = false) : .cancelled x ∉ es := by
  have hdet : es.countP (Event.detaches x) = 0 := by
    refine List.countP_eq_zero.mpr ?_
    intro e he hd
    obtain ⟨how, hhow, rfl⟩ := h.ends_of_detaches hr hone he hd
    rw [hkeep how he] at hhow
    cases hhow
  have hnoask := List.count_eq_zero_of_not_mem hask
  have howed := h.owed x
  exact List.count_eq_zero.mp (by omega)

/-- A handle that was detached is cancelled by the time the operation that did
it returns.  Nothing was owed to it before, so it cannot be among what the
callbacks beneath still have to cancel. -/
theorem cancelled_of_returned (h : Reached config allowed es m) (hr : .registered s id x ∈ es)
    (hone : es.countP (Event.registers x) ≤ 1) (hask : .asked x ∉ es)
    (hends : es.countP (Event.ends s id x) ≤ 1) {how : RequestEnd} (he : .ended s id x how ∈ es)
    (hhow : how.detaches = true) (hret : EndReturned config allowed s id x es m) :
    .cancelled x ∈ es := by
  obtain ⟨es₀, m₀, how', es₁, w, r, es₂, h₀, hm₀, t, h₂, rfl⟩ := hret
  obtain ⟨es₁', rfl⟩ : ∃ es₁', es₁ = m₀.events ++ es₁' := by
    generalize hm₁ : (⟨w, .reply r, m₀.levels⟩ : Machine) = m₁ at t
    cases t with
    | refl =>
        rw [← hm₁] at hm₀
        exact absurd hm₀ List.not_mem_nil
    | @head _ _ _ es₁' _ _ => exact ⟨es₁', rfl⟩
  have he₁ : .ended s id x how' ∈ es₀ ++ (m₀.events ++ es₁') :=
    List.mem_append_right _ (List.mem_append_left _ hm₀)
  have hsame : Event.ended s id x how = .ended s id x how' :=
    eq_of_countP_le_one hends he (List.mem_append_left _ he₁)
      (Event.ends_iff.mpr ⟨how, rfl⟩) (Event.ends_iff.mpr ⟨how', rfl⟩)
  cases hsame
  have hpos : 0 < m₀.events.countP (Event.ends s id x) :=
    List.countP_pos_iff.mpr ⟨_, hm₀, Event.ends_iff.mpr ⟨how, rfl⟩⟩
  have hdet₀ : es₀.countP (Event.detaches x) = 0 := by
    refine List.countP_eq_zero.mpr ?_
    intro e he₀ hd
    obtain ⟨how₀, -, rfl⟩ := h.ends_of_detaches hr hone
      (List.mem_append_left _ (List.mem_append_left _ he₀)) hd
    have hpos₀ : 0 < es₀.countP (Event.ends s id x) :=
      List.countP_pos_iff.mpr ⟨_, he₀, Event.ends_iff.mpr ⟨how₀, rfl⟩⟩
    simp only [List.countP_append] at hends
    omega
  have hnoask := List.count_eq_zero_of_not_mem hask
  simp only [List.count_append] at hnoask
  have howed₀ := h₀.owed x
  have hwait : (Machine.waiting ⟨w, .reply r, m₀.levels⟩).count x = 0 := by
    have hle : (Machine.waiting ⟨w, .reply r, m₀.levels⟩).count x ≤ m₀.waiting.count x := by
      simp only [Machine.waiting]
      rw [List.count_append, List.count_append]
      exact Nat.add_le_add_right (Nat.zero_le _) _
    omega
  have howed₁ := (h₀.steps t).owed x
  have hdet₁ : 0 < (es₀ ++ (m₀.events ++ es₁')).countP (Event.detaches x) :=
    List.countP_pos_iff.mpr ⟨_, he₁, Event.detaches_iff.mpr ⟨s, id, how, hhow, rfl⟩⟩
  exact List.mem_append_left _ (List.count_pos_iff.mp (by omega))

end Runs

/-- A registration ends at most once, and is outstanding until then.  If it is
abandoned or purged, the callback has been called once when that operation
has returned; otherwise it is not called.  A call carries the callback out,
and no callback is carried out without one. -/
theorem one_end_per_registration {config : RegistryConfig} {allowed : Bool} {es : List Event}
    {m : Machine} (h : Reached config allowed es m) {s : SessionId} {id : RequestId} {x : HandleId}
    (hr : .registered s id x ∈ es) (hone : es.countP (Event.registers x) ≤ 1)
    (hask : .asked x ∉ es) :
    es.countP (Event.ends s id x) ≤ 1 ∧
    (m.scene.registry.lookup s id = some x ↔ ∀ how, .ended s id x how ∉ es) ∧
    (m.scene.registry.lookup s id = some x ∨
      (∃ how, .ended s id x how ∈ es ∧ how.detaches = false) → .called x ∉ es) ∧
    (m.step = none → (∃ how, .ended s id x how ∈ es) → EndReturned config allowed s id x es m) ∧
    m.calls = es.countP Event.isCall ∧
    ∃ y, m.scene.registry.handle? x = some y ∧ es.count (.called x) ≤ 1 ∧
      (∀ how, .ended s id x how ∈ es → how.detaches = true →
        EndReturned config allowed s id x es m →
        es.count (.called x) = if y.callback.isSome = true then 1 else 0) ∧
      (.called x ∈ es → ∃ es₁ m₁ es₂, Reached config allowed es₁ m₁ ∧ .called x ∈ m₁.events ∧
        Runs m₁ es₂ m ∧ es = es₁ ++ es₂ ∧ m₁.CallsBack x y) := by
  have hreg := Runs.count_registered hr hone
  have hseat := h.seats s id x
  have hends : es.countP (Event.ends s id x) ≤ 1 := by omega
  obtain ⟨y, hy⟩ := Registry.knows_iff.mp (h.knows_registered hr)
  have hfired := h.recorded.fired hy
  have hcalled := h.recorded.called hy
  refine ⟨hends, h.lookup_iff_not_ended hreg, ?_, fun hs he => h.endReturned hs he, h.calls, y, hy,
    ?_, ?_, ?_⟩
  · intro hkeep
    have hall : ∀ how, .ended s id x how ∈ es → how.detaches = false := by
      intro how he
      rcases hkeep with hl | ⟨how', he', hhow'⟩
      · exact absurd he ((h.lookup_iff_not_ended hreg).mp hl how)
      · cases eq_of_countP_le_one hends he he' (Event.ends_iff.mpr ⟨how, rfl⟩)
          (Event.ends_iff.mpr ⟨how', rfl⟩)
        exact hhow'
    have hnot := h.not_cancelled hr hone hask hall
    refine List.count_eq_zero.mp ?_
    rw [hcalled, if_neg fun hc => hnot (hfired.mp hc.1)]
  · rw [hcalled]
    split <;> omega
  · intro how he hhow hret
    have hf : y.fired = true :=
      hfired.mpr (h.cancelled_of_returned hr hone hask hends he hhow hret)
    rw [hcalled, hf]
    simp only [true_and]
  · intro hin
    obtain ⟨es₁, m₁, es₂, h₁, hin₁, h₂, rfl⟩ := h.mem_split hin
    exact ⟨es₁, m₁, es₂, h₁, hin₁, h₂, rfl, h₂.callsBack hy hin₁⟩

/-- A request is purged whose callback abandons it, registers another one,
closes its session, and fails; then the session is purged again. -/
def endingWithinItself : List Event × Machine :=
  Machine.play ([], ⟨.new (.new ⟨"ldap:", .direct⟩ true), .reply .nothing, []⟩)
    [(.makeHandle ⟨"late", ⟨2⟩, "search", true, none, none, none⟩ [], 1),
      (.makeHandle ⟨"first", ⟨1⟩, "search", true, none, none, some (.fails "stuck")⟩
        [.abandon ⟨"s"⟩ ⟨1⟩, .register ⟨"s"⟩ ⟨2⟩ "late", .closeSession ⟨"s"⟩], 1),
      (.register ⟨"s"⟩ ⟨1⟩ "first", 1), (.purge ⟨"s"⟩, 20), (.purge ⟨"s"⟩, 4)]

theorem called_once_when_ending_within_itself :
    .registered ⟨"s"⟩ ⟨1⟩ ⟨1⟩ ∈ endingWithinItself.1 ∧
      endingWithinItself.1.countP (Event.ends ⟨"s"⟩ ⟨1⟩ ⟨1⟩) ≤ 1 ∧
      endingWithinItself.1.count (.called ⟨1⟩) = 1 := by
  have hrun : Reached ⟨"ldap:", .direct⟩ true endingWithinItself.1 endingWithinItself.2 :=
    Runs.refl.play _
  have hr : .registered ⟨"s"⟩ ⟨1⟩ ⟨1⟩ ∈ endingWithinItself.1 := by decide
  have hpurged : .ended ⟨"s"⟩ ⟨1⟩ ⟨1⟩ .purged ∈ endingWithinItself.1 := by decide
  have hone : endingWithinItself.1.countP (Event.registers ⟨1⟩) ≤ 1 := by decide
  have hask : .asked ⟨1⟩ ∉ endingWithinItself.1 := by decide
  obtain ⟨hends, -, -, hreturned, -, y, hy, -, hcalled, -⟩ :=
    one_end_per_registration hrun hr hone hask
  have hcallback : y.callback.isSome = true := by
    cases hy
    rfl
  have honce := hcalled .purged hpurged rfl (hreturned rfl ⟨.purged, hpurged⟩)
  rw [if_pos hcallback] at honce
  exact ⟨hr, hends, honce⟩

end DirectorySessions
