/-
# Lines that hold no request

A blank line is passed over, and a line that holds no request is complained of;
neither ends the reading, and neither touches the registry.  So it can be told
what a line more makes of a run in which otherwise the same happens at the same
times: nothing at all if it is blank, and else one response more, at its place
(`bad_line_disturbs_nothing`).

The reason is that a connection does not look at the responses it has given
(`Moment.next_tells`).  What has been said once too often stays where it is
while everything else takes its course.

## What is compared with what

There are two transcripts.  The client of the second one writes a line more, at
a line break or, without one, at the very end (`LineReader.Inserted`).  The
turns are otherwise alike, and the one in which the line is read is put in
where the connection listens, so not while a bind is under way.  Jobs may
finish, others may act, and the session may be closed at any time, as long as
this is the same in the two.

What is said is an equivalence: the longer transcript is possible, and no other
one is.  In it every moment before the line is what it was, and every moment
after it has the same scene, and the same connection up to the one response.
-/
import DirectorySessions.Proofs.Connection.Contexts
import DirectorySessions.Proofs.Connection.Replay
import DirectorySessions.Proofs.Connection.Stream

namespace DirectorySessions

namespace Connection

/-- The connection, if these were the responses it has given so far. -/
def telling (c : Connection) (as : List Response) : Connection := { c with responses := as }

/-- The connection, if it had given a response more, after the first `k`. -/
def withAnswer (k : Nat) (a : Response) (c : Connection) : Connection :=
  c.telling (c.responses.take k ++ a :: c.responses.drop k)

def Moment.withAnswer (k : Nat) (a : Response) (m : Moment) : Moment :=
  { m with connection := m.connection.withAnswer k a }

/-! ## Responses are given, and not looked at -/

section Telling

variable {sv : Services} {w : Scene} {c : Connection} {q : Request}

/-- Whatever it said so far, it does the same, and goes on with the same responses. -/
def Tells (f : Connection → Scene × Connection) (c : Connection) : Prop :=
  ∃ as, ∀ rs, f (c.telling rs) = ((f c).1, (f c).2.telling (rs ++ as))

theorem Tells.appends {f : Connection → Scene × Connection} (h : Tells f c) :
    ∃ as, (f c).2.responses = c.responses ++ as ∧
      ∀ rs, f (c.telling rs) = ((f c).1, (f c).2.telling (rs ++ as)) := by
  obtain ⟨as, has⟩ := h
  exact ⟨as, congrArg (fun x => x.2.responses) (has c.responses), has⟩

theorem tells_nothing {f : Connection → Scene × Connection}
    (h : ∀ rs, f (c.telling rs) = ((f c).1, (f c).2.telling rs)) : Tells f c :=
  ⟨[], fun rs => by rw [h, List.append_nil]⟩

theorem serve_of_forBackend (hop : q.operation.forBackend = true) :
    c.serve sv w q =
      if (w.registry.lookup c.session q.id).isSome then (w, c.respond (Connection.taken q.id))
      else match launch sv w.registry c.session q with
        | (.ok job, r) => (w.withRegistry r, { c with jobs := c.jobs ++ [job] })
        | (.error a, r) => (w.withRegistry r, c.respond a) := by
  obtain ⟨id, op, cs⟩ := q
  cases op with
  | search base filter => rfl
  | whoami => rfl
  | _ => cases hop

theorem launched_tells (sv : Services) (w : Scene) (c : Connection)
    (hop : q.operation.forBackend = true) : Tells (fun c => c.serve sv w q) c := by
  have hs : ∀ rs, (c.telling rs).session = c.session := fun _ => rfl
  simp only [Tells, serve_of_forBackend hop, hs]
  cases hl : (w.registry.lookup c.session q.id).isSome with
  | true => exact ⟨[Connection.taken q.id], fun rs => rfl⟩
  | false =>
      obtain ⟨res, r⟩ := launch sv w.registry c.session q
      cases res with
      | ok j => exact ⟨[], fun rs => by rw [List.append_nil]; rfl⟩
      | error a => exact ⟨[a], fun rs => rfl⟩

theorem bound_tells (sv : Services) (w : Scene) (c : Connection) {dn password : String}
    (hop : q.operation = .bind dn password) : Tells (fun c => c.serve sv w q) c := by
  have hs : ∀ rs, (c.telling rs).session = c.session := fun _ => rfl
  simp only [Tells, serve, hop, hs]
  cases hl : (w.registry.lookup c.session q.id).isSome with
  | true => exact ⟨[Connection.taken q.id], fun rs => rfl⟩
  | false =>
      exact ⟨[(bind sv w.registry c.session q.id (.ofBind dn password) q.controls).1],
        fun rs => rfl⟩

theorem serve_tells (sv : Services) (w : Scene) (c : Connection) (q : Request) :
    Tells (fun c => c.serve sv w q) c := by
  cases hop : q.operation with
  | unbind => exact tells_nothing fun rs => by simp only [serve, hop]; rfl
  | abandon target => exact tells_nothing fun rs => by simp only [serve, hop]; rfl
  | bind dn password => exact bound_tells sv w c hop
  | search base filter => exact launched_tells sv w c (by rw [hop]; rfl)
  | whoami => exact launched_tells sv w c (by rw [hop]; rfl)

theorem receive_tells (sv : Services) (w : Scene) (c : Connection) (i : Input) :
    Tells (fun c => c.receive sv w i) c := by
  cases i with
  | hangUp => exact tells_nothing fun rs => rfl
  | overlong => exact ⟨[tooLong], fun rs => rfl⟩
  | line t =>
      simp only [Tells, receive]
      cases hb : Text.allBlank t with
      | true => exact tells_nothing fun rs => rfl
      | false =>
          cases hq : Request.ofLine t with
          | ok q => exact serve_tells sv w c q
          | error e => exact ⟨[Connection.malformed t e], fun rs => rfl⟩

theorem register_tells (sv : Services) (w : Scene) (c : Connection) (t : String) :
    Tells (fun c => Moment.next sv ⟨w, c, .register t⟩) c := by
  have hb : ∀ rs, (c.telling rs).beginBind? w t = c.beginBind? w t := fun _ => rfl
  refine tells_nothing fun rs => ?_
  simp only [Moment.next, hb]
  cases c.beginBind? w t with
  | none => rfl
  | some x => rfl

theorem settle_tells (sv : Services) (w : Scene) (c : Connection) :
    Tells (fun c => Moment.next sv ⟨w, c, .settle⟩) c := by
  have hp : ∀ rs, (c.telling rs).pending = c.pending := fun _ => rfl
  simp only [Tells, Moment.next, hp]
  cases c.pending with
  | none => exact ⟨[], fun rs => by rw [List.append_nil]⟩
  | some b => exact ⟨[(settleBind sv w.registry c.session b).1], fun rs => rfl⟩

theorem finishJob_tells (w : Scene) (c : Connection) (j : Job) (o : Outcome) :
    Tells (fun c => c.finishJob w j o) c := by
  have hs : ∀ rs, (c.telling rs).session = c.session := fun _ => rfl
  simp only [Tells, finishJob, hs]
  cases hc : w.registry.complete c.session j.id with
  | none => exact ⟨[], fun rs => by rw [List.append_nil]; rfl⟩
  | some x => exact ⟨[.ofOutcome j.id o], fun rs => rfl⟩

theorem Moment.next_tells (sv : Services) (w : Scene) (c : Connection) (t : Turn) :
    Tells (fun c => Moment.next sv ⟨w, c, t⟩) c := by
  cases t with
  | receive i => exact receive_tells sv w c i
  | register t => exact register_tells sv w c t
  | settle => exact settle_tells sv w c
  | told => exact tells_nothing fun rs => rfl
  | finish j o => exact finishJob_tells w c j o
  | act a => exact tells_nothing fun rs => rfl

end Telling

/-! ## A response more -/

section More

variable {sv : Services} {allows : Scene → Action → Prop} {w w' : Scene} {c c' : Connection}
  {m : Moment} {ms : List Moment} {k : Nat} {a : Response}

theorem Moment.next_responses (sv : Services) (w : Scene) (c : Connection) (t : Turn) :
    c.responses <+: (Moment.next sv ⟨w, c, t⟩).2.responses := by
  obtain ⟨as, has, -⟩ := (Moment.next_tells sv w c t).appends
  rw [has]
  exact List.prefix_append c.responses as

theorem Moment.next_withAnswer (w : Scene) (t : Turn) (hk : k ≤ c.responses.length) :
    Moment.next sv ⟨w, c.withAnswer k a, t⟩ =
      ((Moment.next sv ⟨w, c, t⟩).1, (Moment.next sv ⟨w, c, t⟩).2.withAnswer k a) := by
  obtain ⟨as, has, hmore⟩ := (Moment.next_tells sv w c t).appends
  have hplace : (Moment.next sv ⟨w, c, t⟩).2.withAnswer k a =
      (Moment.next sv ⟨w, c, t⟩).2.telling
        (c.responses.take k ++ a :: c.responses.drop k ++ as) := by
    rw [Connection.withAnswer, has, List.take_append_of_le_length hk,
      List.drop_append_of_le_length hk, List.append_assoc, List.cons_append]
  rw [hplace]
  exact hmore _

theorem Moment.possible_withAnswer (k : Nat) (a : Response) :
    (m.withAnswer k a).Possible allows ↔ m.Possible allows := by
  obtain ⟨w, c, t⟩ := m
  cases t <;> exact Iff.rfl

/-- A run takes the same course after a response more. -/
theorem Onward.withAnswer (h : Onward sv allows w c ms w' c') (hk : k ≤ c.responses.length) :
    Onward sv allows w (c.withAnswer k a) (ms.map (Moment.withAnswer k a)) w'
      (c'.withAnswer k a) := by
  induction h with
  | refl w c => exact .refl w _
  | @turn w w' c c' ms t hp h ih =>
      have hrest := ih (Nat.le_trans hk (Moment.next_responses sv w c t).length_le)
      refine .turn t ((Moment.possible_withAnswer (m := ⟨w, c, t⟩) k a).mpr hp) ?_
      rw [Moment.next_withAnswer w t hk]
      exact hrest

theorem respond_eq_withAnswer (c : Connection) (a : Response) :
    c.respond a = c.withAnswer c.responses.length a := by
  rw [withAnswer, List.take_length, List.drop_length]
  rfl

end More

/-! ## A line more -/

section Insertion

variable {sv : Services} {allows : Scene → Action → Prop} {w₀ w₁ w w' : Scene} {s : SessionId}
  {before after bs bs' : List UInt8} {ended : Bool} {t : String} {ms₁ ms₂ ms₂' ms ms' : List Moment}
  {c₁ c c' : Connection}

/-- What happens at which time leaves nothing of a transcript open. -/
theorem Transcript.determined (h : Transcript sv allows w₀ s bs ended ms w c)
    (ht : List.Forall₂ (Turn.Alike Eq) (ms.map Moment.turn) (ms'.map Moment.turn)) :
    Transcript sv allows w₀ s bs ended ms' w' c' ↔ ms' = ms ∧ w' = w ∧ c' = c := by
  constructor
  · intro h'
    obtain ⟨hw, hc, hms⟩ := Onward.matches_all (indifferent_eq sv) (JobsApart.accept w₀ s)
      (.of_none rfl) h.diary.onward h'.diary.onward ht
    have hsame : List.Forall₂ Eq ms ms' := hms.imp fun _ _ hm => hm.eq.symm
    rw [List.forall₂_eq_eq_eq] at hsame
    exact ⟨hsame.symm, hw, hc.eq_of_eq⟩
  · rintro ⟨rfl, rfl, rfl⟩
    exact h

theorem Transcript.insert
    (hbreak : (LineReader.fresh.pushAll sv.maxLineBytes before).1 = LineReader.fresh)
    (hins : LineReader.Inserted sv.maxLineBytes t before after ended bs')
    (h₁ : Diary sv allows w₀ s ms₁ w₁ c₁) (hr : c₁.listens = true)
    (hread : ms₁.filterMap Moment.input? = (LineReader.fresh.pushAll sv.maxLineBytes before).2)
    (h : Transcript sv allows w₀ s (before ++ after) ended (ms₁ ++ ms₂) w c)
    (h₂ : Onward sv allows (Moment.next sv ⟨w₁, c₁, .receive (.line t)⟩).1
      (Moment.next sv ⟨w₁, c₁, .receive (.line t)⟩).2 ms₂' w' c')
    (hread₂ : ms₂'.filterMap Moment.input? = ms₂.filterMap Moment.input?) :
    Transcript sv allows w₀ s bs' ended (ms₁ ++ ⟨w₁, c₁, .receive (.line t)⟩ :: ms₂') w' c' := by
  constructor
  · have hd := (h₁.turn (.receive (.line t)) hr).goOn h₂
    rwa [List.append_assoc, List.singleton_append] at hd
  · have hprefix := h.read
    rw [List.filterMap_append, hread, LineReader.inputs_append hbreak,
      List.prefix_append_right_inj] at hprefix
    have hcons : List.filterMap Moment.input? (⟨w₁, c₁, .receive (.line t)⟩ :: ms₂') =
        .line t :: ms₂.filterMap Moment.input? :=
      congrArg (List.cons (Input.line t)) hread₂
    rw [List.filterMap_append, hcons, hread, hins.inputs hbreak, List.prefix_append_right_inj,
      List.cons_prefix_cons]
    exact ⟨rfl, hprefix⟩

theorem Moment.turn_withAnswer (k : Nat) (a : Response) (ms : List Moment) :
    (ms.map (Moment.withAnswer k a)).map Moment.turn = ms.map Moment.turn := by
  rw [List.map_map]
  rfl

theorem Moment.input_withAnswer (k : Nat) (a : Response) (ms : List Moment) :
    (ms.map (Moment.withAnswer k a)).filterMap Moment.input? = ms.filterMap Moment.input? := by
  rw [List.filterMap_map]
  rfl

/-- Where a connection reads on, a line that is put into what its client writes
disturbs nothing, if otherwise the same happens at the same times.  A blank line
makes no difference at all.  After a line that holds no request there is one
response more, at its place, which reports an error under the number zero; the
scene at every moment, the jobs and what they come to, and all other responses
are the same. -/
theorem bad_line_disturbs_nothing
    (hbreak : (LineReader.fresh.pushAll sv.maxLineBytes before).1 = LineReader.fresh)
    (hins : LineReader.Inserted sv.maxLineBytes t before after ended bs')
    (h₁ : Diary sv allows w₀ s ms₁ w₁ c₁) (hr : c₁.listens = true)
    (hread : ms₁.filterMap Moment.input? = (LineReader.fresh.pushAll sv.maxLineBytes before).2)
    (h : Transcript sv allows w₀ s (before ++ after) ended (ms₁ ++ ms₂) w c)
    (ht : List.Forall₂ (Turn.Alike Eq)
      (ms₁.map Moment.turn ++ .receive (.line t) :: ms₂.map Moment.turn)
      (ms'.map Moment.turn)) :
    (Text.allBlank t = true →
      (Transcript sv allows w₀ s bs' ended ms' w' c' ↔
        ms' = ms₁ ++ ⟨w₁, c₁, .receive (.line t)⟩ :: ms₂ ∧ w' = w ∧ c' = c)) ∧
    ∀ e, Text.allBlank t = false → Request.ofLine t = .error e →
      (malformed t e).id = .zero ∧ (malformed t e).status = .error ∧
      (Transcript sv allows w₀ s bs' ended ms' w' c' ↔
        ms' = ms₁ ++ ⟨w₁, c₁, .receive (.line t)⟩ ::
          ms₂.map (Moment.withAnswer c₁.responses.length (malformed t e)) ∧
        w' = w ∧ c' = c.withAnswer c₁.responses.length (malformed t e)) := by
  have hrest : Onward sv allows w₁ c₁ ms₂ w c := h₁.rest h.diary
  constructor
  · intro hb
    have hnext : Moment.next sv ⟨w₁, c₁, .receive (.line t)⟩ = (w₁, c₁) := by
      simp only [Moment.next, receive, hb, if_true]
    have hrun : Transcript sv allows w₀ s bs' ended
        (ms₁ ++ ⟨w₁, c₁, .receive (.line t)⟩ :: ms₂) w c :=
      .insert hbreak hins h₁ hr hread h (by rw [hnext]; exact hrest) rfl
    refine hrun.determined ?_
    rw [List.map_append, List.map_cons]
    exact ht
  · intro e hb hq
    have hnext : Moment.next sv ⟨w₁, c₁, .receive (.line t)⟩ =
        (w₁, c₁.withAnswer c₁.responses.length (malformed t e)) := by
      rw [← respond_eq_withAnswer]
      simp only [Moment.next, receive, hb, hq, Bool.false_eq_true, if_false]
    have hrun : Transcript sv allows w₀ s bs' ended
        (ms₁ ++ ⟨w₁, c₁, .receive (.line t)⟩ ::
          ms₂.map (Moment.withAnswer c₁.responses.length (malformed t e))) w
        (c.withAnswer c₁.responses.length (malformed t e)) := by
      refine .insert hbreak hins h₁ hr hread h ?_ (Moment.input_withAnswer _ _ _)
      rw [hnext]
      exact hrest.withAnswer (Nat.le_refl _)
    refine ⟨rfl, rfl, hrun.determined ?_⟩
    rw [List.map_append, List.map_cons, Moment.turn_withAnswer]
    exact ht

end Insertion

/-- What the client writes that is bound twice: until its question is under way, and
from then on. -/
def untilAsked : List String :=
  ["\x7b\"id\":1,\"op\":\"bind\",\"dn\":\"cn=a\",\"password\":\"p\"\x7d",
    "\x7b\"id\":2,\"op\":\"whoami\"\x7d"]

def sinceAsked : List String :=
  ["\x7b\"id\":3,\"op\":\"bind\",\"dn\":\"cn=b\",\"password\":\"p\"\x7d"]

theorem rebinding_transcript :
    Transcript directoryServices (fun _ _ => True) emptyScene ⟨"s"⟩
      (LineReader.written untilAsked ++ LineReader.written sinceAsked) false
      (rebinding.take 2 ++ rebinding.drop 2) toldLate.1 toldLate.2 := by
  have hread : rebinding.filterMap Moment.input? = LineReader.inputs directoryServices.maxLineBytes
      (LineReader.written untilAsked ++ LineReader.written sinceAsked) false := by
    decide +kernel
  rw [List.take_append_drop]
  exact ⟨rebinding_diary, hread ▸ List.prefix_rfl⟩

/-- A question mark is complained of between the binds, and a blank line is not; the
client learns as before who it was when it asked. -/
theorem complained_of_between_binds :
    (∃ e, Request.ofLine "?" = .error e ∧
      Transcript directoryServices (fun _ _ => True) emptyScene ⟨"s"⟩
        (LineReader.written untilAsked ++ LineReader.closed "?".toUTF8.toList ++
          LineReader.written sinceAsked) false
        (rebinding.take 2 ++ ⟨asking.1, asking.2, .receive (.line "?")⟩ ::
          (rebinding.drop 2).map (Moment.withAnswer 1 (malformed "?" e)))
        toldLate.1 (toldLate.2.withAnswer 1 (malformed "?" e))) ∧
    Transcript directoryServices (fun _ _ => True) emptyScene ⟨"s"⟩
      (LineReader.written untilAsked ++ LineReader.closed " ".toUTF8.toList ++
        LineReader.written sinceAsked) false
      (rebinding.take 2 ++ ⟨asking.1, asking.2, .receive (.line " ")⟩ :: rebinding.drop 2)
      toldLate.1 toldLate.2 := by
  have hlines : ∀ t ∈ untilAsked,
      LineReader.IsLine directoryServices.maxLineBytes t.toUTF8.toList t := by
    decide +kernel
  have hpush := LineReader.pushAll_written hlines
  have hread : (rebinding.take 2).filterMap Moment.input? = _ := (congrArg Prod.snd hpush).symm
  have hasking : Diary directoryServices (fun _ _ => True) emptyScene ⟨"s"⟩ (rebinding.take 2)
      asking.1 asking.2 :=
    rebinding_diary.upTo (m := ⟨asking.1, asking.2, _⟩)
  have hsame : ∀ ts : List Turn, List.Forall₂ (Turn.Alike Eq) ts ts :=
    fun ts => List.forall₂_same.mpr fun t _ => .refl (fun _ => rfl) t
  constructor
  · have hbad : (Request.ofLine "?").toOption.isNone = true := by decide +kernel
    have hline : LineReader.IsLine directoryServices.maxLineBytes "?".toUTF8.toList "?" := by
      decide +kernel
    cases hq : Request.ofLine "?" with
    | ok q =>
        rw [hq] at hbad
        cases hbad
    | error e =>
        refine ⟨e, rfl, ?_⟩
        exact ((bad_line_disturbs_nothing (congrArg Prod.fst hpush) (.closed hline) hasking rfl
          hread rebinding_transcript (hsame _)).2 e (by decide) hq).2.2.mpr ⟨rfl, rfl, rfl⟩
  · have hline : LineReader.IsLine directoryServices.maxLineBytes " ".toUTF8.toList " " := by
      decide +kernel
    exact ((bad_line_disturbs_nothing (congrArg Prod.fst hpush) (.closed hline) hasking rfl
      hread rebinding_transcript (hsame _)).1 (by decide)).mpr ⟨rfl, rfl, rfl⟩

end Connection

end DirectorySessions
