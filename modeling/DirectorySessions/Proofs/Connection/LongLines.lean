/-
# Lines beyond the limit

The first byte too many of a line ends the input: what is left of the line, and all
lines after it, are passed over (`LineReader.inputs_tooLong`).  The connection gives
one response and goes on reading, but nothing is left to read except that nothing
more will come, and with that it closes the session (`drain_of_hangUp`).

So a line beyond the limit comes to one response more in those runs that read no
other line after its place, and only in those (`long_line_ends_reading`).  A client
that writes on after such a line is not served any more
(`request_after_long_line_is_lost`).

## What is compared with what

The two transcripts are those that are compared for a line that holds no request,
with the line at a line break.  The statement is an equivalence, so where the
shorter transcript reads anything but the end after the place of the line, there is
no longer one to go with it: a connection that reads the line reads nothing but the
end afterwards.

That the connection stops once it has gone through its input, and that its session
then has no record, is said by itself, for every scene and for every connection that
still reads (`LineReader.inputs_tooLong`, `drain_of_hangUp`).
-/
import DirectorySessions.Exchange
import DirectorySessions.Proofs.Connection.BadLines
import DirectorySessions.Proofs.Connection.Departure

namespace DirectorySessions

namespace LineReader

variable {limit : Nat} {r : LineReader} {bs ln : List UInt8}

/-- The bytes are one line beyond the limit. -/
structure IsTooLong (limit : Nat) (ln : List UInt8) : Prop where
  unbroken : lineBreak ∉ ln
  long : limit < ln.length

theorem pushAll_ended (h : r.ended = true) (bs : List UInt8) : r.pushAll limit bs = (r, []) := by
  have hpush : ∀ b, r.push limit b = (r, []) := fun b => by rw [push, if_pos h]
  induction bs with
  | nil => rfl
  | cons b bs ih =>
      rw [pushAll_cons, hpush, ih]
      rfl

theorem push_tooMany {b : UInt8} (hopen : r.ended = false) (hb : b ≠ lineBreak)
    (hfull : limit ≤ r.size) : r.push limit b = (spent, [.overlong, .hangUp]) := by
  rw [push, hopen, if_neg Bool.false_ne_true, if_neg hb, if_pos hfull]

/-- A line beyond the limit ends the input, whatever comes after it. -/
theorem pushAll_tooLong (h : IsTooLong limit ln) (bs : List UInt8) :
    fresh.pushAll limit (ln ++ bs) = (spent, [.overlong, .hangUp]) := by
  obtain ⟨b, ln', hdrop⟩ := List.exists_cons_of_length_pos
    (show 0 < (ln.drop limit).length by rw [List.length_drop]; exact Nat.sub_pos_of_lt h.long)
  have hln : ln = ln.take limit ++ b :: ln' := by rw [← hdrop, List.take_append_drop]
  have htake : (ln.take limit).length = limit := List.length_take_of_le (Nat.le_of_lt h.long)
  have hheld : lineBreak ∉ ln.take limit := fun hin => h.unbroken (List.mem_of_mem_take hin)
  have hb : b ≠ lineBreak := by
    rintro rfl
    exact h.unbroken (List.mem_of_mem_drop (hdrop ▸ List.mem_cons_self))
  have hroom : fresh.size + (ln.take limit).length ≤ limit := by
    have hsize : fresh.size = 0 := rfl
    omega
  obtain ⟨h₁, h₂, h₃⟩ := pushAll_held (r := fresh) rfl hheld hroom
  have hfull : limit ≤ (fresh.pushAll limit (ln.take limit)).1.size := by
    rw [(fresh.pushAll limit (ln.take limit)).1.size_eq, h₁, List.length_append,
      List.length_reverse, htake]
    exact Nat.le_add_right _ _
  rw [hln, List.append_assoc, List.cons_append, pushAll_append, pushAll_cons,
    push_tooMany h₂ hb hfull, h₃, pushAll_ended rfl]
  rfl

theorem inputs_tooLong (hbreak : (fresh.pushAll limit bs).1 = fresh) (h : IsTooLong limit ln)
    (bs' : List UInt8) (ended : Bool) :
    inputs limit (bs ++ closed ln ++ bs') ended =
      (fresh.pushAll limit bs).2 ++ [.overlong, .hangUp] := by
  rw [List.append_assoc, inputs_append hbreak, closed, List.append_assoc, inputs,
    pushAll_tooLong h]
  cases ended with
  | true => rfl
  | false => rfl

end LineReader

namespace Connection

variable {sv : Services} {allows : Scene → Action → Prop} {w₀ w₁ w w' : Scene} {s : SessionId}
  {before after : List UInt8} {ended : Bool} {ln : List UInt8} {ms₁ ms₂ ms' : List Moment}
  {c₁ c c' : Connection}

/-! ## Reading to the end -/

/-- A connection that has something else to read besides the end of the input stops
reading all the same, if the end comes after it, and closes its session. -/
theorem drain_of_hangUp {is : List Input} (hr : c.reading = true) (hend : .hangUp ∈ is) :
    ∃ (w₁ : Scene) (c₁ : Connection), c₁.session = c.session ∧
      Link.drain sv w c is = c₁.leave w₁ := by
  induction is generalizing w c with
  | nil => cases hend
  | cons i is ih =>
      simp only [Link.drain, hr, Bool.not_true, Bool.false_eq_true, if_false]
      cases ht : c.isTold w with
      | true => exact ⟨w, c, rfl, rfl⟩
      | false =>
          simp only [Bool.false_eq_true, if_false]
          have hleft : c.receive sv w i = c.leave w → Link.drain sv (c.receive sv w i).1
              (c.receive sv w i).2 is = c.leave w := by
            intro hleave
            rw [hleave]
            cases is <;> rfl
          rcases List.mem_cons.mp hend with rfl | hmore
          · exact ⟨w, c, rfl, hleft rfl⟩
          · obtain ⟨hs, -, hr' | hleave⟩ := (receive_cases sv w c i).stays
            · obtain ⟨w₁, c₁, hs₁, hd⟩ := ih (w := (c.receive sv w i).1) (hr'.trans hr) hmore
              exact ⟨w₁, c₁, hs₁.trans hs, hd⟩
            · exact ⟨w, c, rfl, hleft hleave⟩

/-- Whatever comes before and after a line beyond the limit, a connection that has read
all there is to read has closed its session. -/
theorem drain_tooLong
    (hbreak : (LineReader.fresh.pushAll sv.maxLineBytes before).1 = LineReader.fresh)
    (hlong : LineReader.IsTooLong sv.maxLineBytes ln) (hr : c.reading = true)
    (w : Scene) (after : List UInt8) (ended : Bool) {p : Scene × Connection}
    (hp : p = Link.drain sv w c
      (LineReader.inputs sv.maxLineBytes (before ++ LineReader.closed ln ++ after) ended)) :
    p.2.reading = false ∧ p.1.registry.records.get? c.session = none := by
  have hend : Input.hangUp ∈
      LineReader.inputs sv.maxLineBytes (before ++ LineReader.closed ln ++ after) ended := by
    rw [LineReader.inputs_tooLong hbreak hlong]
    simp
  obtain ⟨w₁, c₁, hs, hd⟩ := drain_of_hangUp hr hend
  rw [hp, hd, ← hs]
  exact ⟨rfl, leave_records w₁ c₁⟩

/-! ## A line beyond the limit more -/

theorem Turn.Alike.filterMap_input? {ts ts' : List Turn}
    (h : List.Forall₂ (Turn.Alike Eq) ts ts') :
    ts.filterMap Turn.input? = ts'.filterMap Turn.input? := by
  induction h with
  | nil => rfl
  | cons h _ ih =>
      rw [List.filterMap_cons, List.filterMap_cons, ih]
      cases h with
      | receive h => rw [h]
      | register h => cases h; rfl
      | _ => rfl

/-- A connection that reads on, at a line break, reads of a line beyond the limit that it
is too long, and then no more than that nothing more will come. -/
theorem Transcript.cutShort
    (hbreak : (LineReader.fresh.pushAll sv.maxLineBytes before).1 = LineReader.fresh)
    (hlong : LineReader.IsTooLong sv.maxLineBytes ln)
    (h₁ : Diary sv allows w₀ s ms₁ w₁ c₁) (hr : c₁.listens = true)
    (hread : ms₁.filterMap Moment.input? = (LineReader.fresh.pushAll sv.maxLineBytes before).2)
    (h₂ : Onward sv allows w₁ (c₁.respond tooLong) ms₂ w c)
    (hrest : ms₂.filterMap Moment.input? <+: [.hangUp]) :
    Transcript sv allows w₀ s (before ++ LineReader.closed ln ++ after) ended
      (ms₁ ++ ⟨w₁, c₁, .receive .overlong⟩ :: ms₂) w c := by
  constructor
  · have hd := (h₁.turn (.receive .overlong) hr).goOn h₂
    rwa [List.append_assoc, List.singleton_append] at hd
  · have hcons : List.filterMap Moment.input? (⟨w₁, c₁, .receive .overlong⟩ :: ms₂) =
        .overlong :: ms₂.filterMap Moment.input? := rfl
    rw [List.filterMap_append, hcons, hread, LineReader.inputs_tooLong hbreak hlong,
      List.prefix_append_right_inj, List.cons_prefix_cons]
    exact ⟨rfl, hrest⟩

/-- A line beyond the limit ends the reading, after one response that says so.  Put in
where a connection reads on, it makes no other difference to a run, if otherwise the
same happens at the same times, exactly if the run reads no other line after its place.
A run that reads another line there does not read it any more: when everything is read
that there is to read, the session is closed, whatever the client wrote after it. -/
theorem long_line_ends_reading
    (hbreak : (LineReader.fresh.pushAll sv.maxLineBytes before).1 = LineReader.fresh)
    (hlong : LineReader.IsTooLong sv.maxLineBytes ln)
    (h₁ : Diary sv allows w₀ s ms₁ w₁ c₁) (hr : c₁.listens = true)
    (hread : ms₁.filterMap Moment.input? = (LineReader.fresh.pushAll sv.maxLineBytes before).2)
    (h : Transcript sv allows w₀ s (before ++ after) ended (ms₁ ++ ms₂) w c)
    (ht : List.Forall₂ (Turn.Alike Eq)
      (ms₁.map Moment.turn ++ .receive .overlong :: ms₂.map Moment.turn)
      (ms'.map Moment.turn)) :
    tooLong.id = .zero ∧ tooLong.status = .error ∧
    tooLong.message = some "request line too long" ∧
    (Transcript sv allows w₀ s (before ++ LineReader.closed ln ++ after) ended ms' w' c' ↔
      ms₂.filterMap Moment.input? <+: [.hangUp] ∧
      ms' = ms₁ ++ ⟨w₁, c₁, .receive .overlong⟩ ::
        ms₂.map (Moment.withAnswer c₁.responses.length tooLong) ∧
      w' = w ∧ c' = c.withAnswer c₁.responses.length tooLong) ∧
    ∀ w₂ c₂ p, c₂.reading = true →
      p = Link.drain sv w₂ c₂
        (LineReader.inputs sv.maxLineBytes (before ++ LineReader.closed ln ++ after) ended) →
      p.2.reading = false ∧ p.1.registry.records.get? c₂.session = none := by
  refine ⟨rfl, rfl, rfl, ?_, fun w₂ c₂ p hr₂ hp => drain_tooLong hbreak hlong hr₂ w₂ after ended hp⟩
  have hall : ms'.filterMap Moment.input? =
      ms₁.filterMap Moment.input? ++ .overlong :: ms₂.filterMap Moment.input? := by
    have hturns : ∀ ms : List Moment,
        (ms.map Moment.turn).filterMap Turn.input? = ms.filterMap Moment.input? :=
      fun ms => List.filterMap_map
    have hsame := Turn.Alike.filterMap_input? ht
    rw [hturns, List.filterMap_append, List.filterMap_cons, hturns, hturns] at hsame
    exact hsame.symm
  have hlonger (hrest : ms₂.filterMap Moment.input? <+: [.hangUp]) :
      Transcript sv allows w₀ s (before ++ LineReader.closed ln ++ after) ended
        (ms₁ ++ ⟨w₁, c₁, .receive .overlong⟩ ::
          ms₂.map (Moment.withAnswer c₁.responses.length tooLong)) w
        (c.withAnswer c₁.responses.length tooLong) := by
    refine .cutShort hbreak hlong h₁ hr hread ?_ (by rwa [Moment.input_withAnswer])
    rw [respond_eq_withAnswer]
    exact (h₁.rest h.diary).withAnswer (Nat.le_refl _)
  have halike : List.Forall₂ (Turn.Alike Eq)
      ((ms₁ ++ ⟨w₁, c₁, .receive .overlong⟩ ::
        ms₂.map (Moment.withAnswer c₁.responses.length tooLong)).map Moment.turn)
      (ms'.map Moment.turn) := by
    rw [List.map_append, List.map_cons, Moment.turn_withAnswer]
    exact ht
  constructor
  · intro h'
    have hrest : ms₂.filterMap Moment.input? <+: [.hangUp] := by
      have hprefix := h'.read
      rw [hall, hread, LineReader.inputs_tooLong hbreak hlong, List.prefix_append_right_inj,
        List.cons_prefix_cons] at hprefix
      exact hprefix.2
    exact ⟨hrest, ((hlonger hrest).determined halike).mp h'⟩
  · rintro ⟨hrest, hsame⟩
    exact ((hlonger hrest).determined halike).mpr hsame

/-! ## Before a long line and after it -/

def longLine : List UInt8 := List.replicate 4097 120

theorem longLine_isTooLong : LineReader.IsTooLong directoryServices.maxLineBytes longLine := by
  constructor
  · intro hin
    cases List.eq_of_mem_replicate hin
  · rw [longLine, List.length_replicate]
    decide

theorem pushAll_bind :
    LineReader.fresh.pushAll directoryServices.maxLineBytes
      (LineReader.written (untilAsked.take 1)) =
      (LineReader.fresh, (untilAsked.take 1).map .line) :=
  LineReader.pushAll_written (by decide +kernel)

theorem binding_diary :
    Diary directoryServices (fun _ _ => True) emptyScene ⟨"s"⟩ (rebinding.take 1) boundFirst.1
      boundFirst.2 :=
  rebinding_diary.upTo (m := ⟨boundFirst.1, boundFirst.2, _⟩)

/-- A client that binds, writes a long line and stops writing is told that the line is
too long before its session is closed, and else nothing is changed. -/
theorem long_line_before_parting :
    Transcript directoryServices (fun _ _ => True) emptyScene ⟨"s"⟩
      (LineReader.written (untilAsked.take 1) ++ LineReader.closed longLine ++ []) true
      (rebinding.take 1 ++ ⟨boundFirst.1, boundFirst.2, .receive .overlong⟩ ::
        [⟨boundFirst.1, boundFirst.2.withAnswer 1 tooLong, .receive .hangUp⟩])
      (boundFirst.2.leave boundFirst.1).1
      ((boundFirst.2.leave boundFirst.1).2.withAnswer 1 tooLong) := by
  have hreads : (rebinding.take 1).filterMap Moment.input? = _ :=
    (congrArg Prod.snd pushAll_bind).symm
  have hparting : Transcript directoryServices (fun _ _ => True) emptyScene ⟨"s"⟩
      (LineReader.written (untilAsked.take 1) ++ []) true
      (rebinding.take 1 ++ [⟨boundFirst.1, boundFirst.2, .receive .hangUp⟩])
      (boundFirst.2.leave boundFirst.1).1 (boundFirst.2.leave boundFirst.1).2 := by
    refine ⟨binding_diary.turn (.receive .hangUp) rfl, ?_⟩
    rw [List.append_nil, List.filterMap_append, hreads, LineReader.inputs, pushAll_bind]
    exact List.prefix_rfl
  exact (long_line_ends_reading (congrArg Prod.fst pushAll_bind) longLine_isTooLong binding_diary
    rfl hreads hparting (List.forall₂_same.mpr fun t _ => .refl (fun _ => rfl) t)).2.2.2.1.mpr
    ⟨List.prefix_rfl, rfl, rfl, rfl⟩

/-- A client that binds is bound, and told so.  If it writes a long line first, its bind
is never taken in: it is told that the line is too long, and the session is closed. -/
theorem request_after_long_line_is_lost :
    Transcript directoryServices (fun _ _ => True) emptyScene ⟨"s"⟩
        (LineReader.written (untilAsked.take 1)) false (rebinding.take 1) boundFirst.1
        boundFirst.2 ∧
      boundFirst.2.responses = [(Response.success ⟨1⟩).withIdentity "cn=a"] ∧
      boundFirst.1.registry.isBound ⟨"s"⟩ = true ∧
      (∀ ms w c, Transcript directoryServices (fun _ _ => True) emptyScene ⟨"s"⟩
        (LineReader.closed longLine ++ LineReader.written (untilAsked.take 1)) false ms w c →
          ∀ m ∈ ms, m.request? = none ∧ m.begun? = none) ∧
      ∀ p, p = Link.drain directoryServices (accept emptyScene ⟨"s"⟩).1
          (accept emptyScene ⟨"s"⟩).2
          (LineReader.inputs directoryServices.maxLineBytes
            (LineReader.closed longLine ++ LineReader.written (untilAsked.take 1)) false) →
        p.2.responses = [tooLong] ∧ p.2.reading = false ∧
          p.1.registry.records.get? ⟨"s"⟩ = none := by
  have hinputs : LineReader.inputs directoryServices.maxLineBytes
      (LineReader.closed longLine ++ LineReader.written (untilAsked.take 1)) false =
        [.overlong, .hangUp] := by
    have hbreak : (LineReader.fresh.pushAll directoryServices.maxLineBytes []).1 =
        LineReader.fresh := rfl
    exact LineReader.inputs_tooLong hbreak longLine_isTooLong _ _
  refine ⟨⟨binding_diary, ?_⟩, rfl, rfl, ?_, ?_⟩
  · rw [LineReader.inputs, pushAll_bind]
    exact List.prefix_rfl
  · intro ms w c h m hm
    have hno : ∀ ln, m.input? ≠ some (.line ln) := by
      intro ln hln
      have hin := h.read.subset (List.mem_filterMap.mpr ⟨m, hm, hln⟩)
      rw [hinputs] at hin
      simp at hin
    constructor
    · refine Option.eq_none_iff_forall_ne_some.mpr fun q hq => ?_
      obtain ⟨ln, ht, -, -⟩ := Moment.turn_of_request hq
      exact hno ln (by rw [Moment.input?, ht]; rfl)
    · refine Option.eq_none_iff_forall_ne_some.mpr fun b hb => ?_
      obtain ⟨ln, r, ht, -⟩ := Moment.turn_of_begun hb
      exact hno ln (by rw [Moment.input?, ht]; rfl)
  · intro p hp
    have hd : Link.drain directoryServices (accept emptyScene ⟨"s"⟩).1
        (accept emptyScene ⟨"s"⟩).2 [.overlong, .hangUp] =
          ((accept emptyScene ⟨"s"⟩).2.respond tooLong).leave (accept emptyScene ⟨"s"⟩).1 := rfl
    rw [hinputs, hd] at hp
    rw [hp]
    exact ⟨rfl, rfl, leave_records _ _⟩

end Connection

end DirectorySessions
