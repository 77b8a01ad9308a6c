/-
# From bytes to what is read

A line within the limit that is text is read as that line, wherever it stands:
after it the reader is as it was at the beginning, so what comes before a line
break and what comes after it are read independently of each other
(`LineReader.inputs_insert`).

A transcript is a diary of a connection whose client writes given bytes.  What
the connection reads is what there is to read in the bytes, in order; when it
reads it, and how much of it before it stops, is left open.

That the line is text and within the limit is `IsLine`; one that is too long
is no line in this sense, and what becomes of it is told elsewhere.  At the
end of the input a line may do without its line break (`Inserted`), unless it
is empty or a mere carriage return, which are not taken for lines there.
-/
import DirectorySessions.Proofs.Connection.Diary

namespace DirectorySessions

namespace LineReader

variable {limit : Nat} {r : LineReader} {bs bs' ln : List UInt8} {ended : Bool} {t : String}

/-- All that there is to read in the bytes of a client, who stops writing after
them or not. -/
def inputs (limit : Nat) (bs : List UInt8) (ended : Bool) : List Input :=
  (fresh.pushAll limit bs).2 ++
    if ended then (fresh.pushAll limit bs).1.finish.2 else []

def closed (ln : List UInt8) : List UInt8 := ln ++ [lineBreak]

/-- The bytes are one line of text within the limit. -/
structure IsLine (limit : Nat) (ln : List UInt8) (t : String) : Prop where
  unbroken : lineBreak ∉ ln
  short : ln.length ≤ limit
  text : textOf ln.reverse = some t

instance : Decidable (IsLine limit ln t) :=
  decidable_of_iff (lineBreak ∉ ln ∧ ln.length ≤ limit ∧ textOf ln.reverse = some t)
    ⟨fun ⟨h₁, h₂, h₃⟩ => ⟨h₁, h₂, h₃⟩, fun h => ⟨h.unbroken, h.short, h.text⟩⟩

/-- The bytes in which a client writes lines. -/
def written (ts : List String) : List UInt8 := ts.flatMap fun t => closed t.toUTF8.toList

theorem pushAll_cons (limit : Nat) (r : LineReader) (b : UInt8) (bs : List UInt8) :
    r.pushAll limit (b :: bs) =
      (((r.push limit b).1.pushAll limit bs).1,
        (r.push limit b).2 ++ ((r.push limit b).1.pushAll limit bs).2) :=
  rfl

theorem pushAll_append (limit : Nat) (r : LineReader) (bs bs' : List UInt8) :
    r.pushAll limit (bs ++ bs') =
      (((r.pushAll limit bs).1.pushAll limit bs').1,
        (r.pushAll limit bs).2 ++ ((r.pushAll limit bs).1.pushAll limit bs').2) := by
  induction bs generalizing r with
  | nil => rfl
  | cons b bs ih => rw [List.cons_append, pushAll_cons, pushAll_cons, ih, List.append_assoc]

theorem push_held {b : UInt8} (hopen : r.ended = false) (hb : b ≠ lineBreak)
    (hroom : r.size < limit) :
    (r.push limit b).1.held = b :: r.held ∧ (r.push limit b).1.size = r.size + 1 ∧
      (r.push limit b).1.ended = false ∧ (r.push limit b).2 = [] := by
  rw [push, hopen, if_neg Bool.false_ne_true, if_neg hb, if_neg (Nat.not_le_of_lt hroom)]
  exact ⟨rfl, rfl, rfl, rfl⟩

theorem pushAll_held (hopen : r.ended = false) (hn : lineBreak ∉ ln)
    (hl : r.size + ln.length ≤ limit) :
    (r.pushAll limit ln).1.held = ln.reverse ++ r.held ∧
      (r.pushAll limit ln).1.ended = false ∧ (r.pushAll limit ln).2 = [] := by
  induction ln generalizing r with
  | nil => exact ⟨rfl, hopen, rfl⟩
  | cons b ln ih =>
      rw [List.mem_cons, not_or] at hn
      rw [List.length_cons] at hl
      obtain ⟨hheld, hsize, hopen', hnone⟩ :=
        push_held hopen (Ne.symm hn.1) (show r.size < limit by omega)
      obtain ⟨h₁, h₂, h₃⟩ := ih hopen' hn.2 (by omega)
      rw [pushAll_cons, hnone]
      refine ⟨?_, h₂, h₃⟩
      rw [h₁, hheld, List.reverse_cons, List.append_assoc, List.singleton_append]

/-- A whole line is read, and the reader is as it was at the beginning. -/
theorem pushAll_closed (h : IsLine limit ln t) :
    fresh.pushAll limit (closed ln) = (fresh, [.line t]) := by
  have hroom : fresh.size + ln.length ≤ limit := by
    rw [show fresh.size = 0 from rfl, Nat.zero_add]
    exact h.short
  obtain ⟨h₁, h₂, h₃⟩ := pushAll_held (r := fresh) rfl h.unbroken hroom
  have hpush : (fresh.pushAll limit ln).1.push limit lineBreak = (fresh, [.line t]) := by
    rw [push, h₂, if_neg Bool.false_ne_true, if_pos rfl, h₁, finishLine,
      show fresh.held = [] from rfl, List.append_nil, h.text]
  rw [closed, pushAll_append, pushAll_cons, hpush, h₃]
  rfl

theorem pushAll_written {ts : List String} (h : ∀ t ∈ ts, IsLine limit t.toUTF8.toList t) :
    fresh.pushAll limit (written ts) = (fresh, ts.map .line) := by
  induction ts with
  | nil => rfl
  | cons t ts ih =>
      have hrest := ih fun t' ht' => h t' (List.mem_cons_of_mem t ht')
      rw [written, List.flatMap_cons, ← written, pushAll_append,
        pushAll_closed (h t List.mem_cons_self), hrest]
      rfl

/-- What comes before a line break is read before what comes after it. -/
theorem inputs_append (h : (fresh.pushAll limit bs).1 = fresh) (bs' : List UInt8)
    (ended : Bool) :
    inputs limit (bs ++ bs') ended = (fresh.pushAll limit bs).2 ++ inputs limit bs' ended := by
  rw [inputs, pushAll_append, h, inputs, List.append_assoc]

/-- A line that is inserted at a line break is read there, and makes no
difference to what is read before and after it. -/
theorem inputs_insert (h : (fresh.pushAll limit bs).1 = fresh) (hln : IsLine limit ln t)
    (bs' : List UInt8) (ended : Bool) :
    inputs limit (bs ++ closed ln ++ bs') ended =
      (fresh.pushAll limit bs).2 ++ .line t :: inputs limit bs' ended := by
  have hline := pushAll_closed hln
  have hfresh : (fresh.pushAll limit (closed ln)).1 = fresh := by rw [hline]
  rw [List.append_assoc, inputs_append h, inputs_append hfresh, hline]
  rfl

/-- A line without a line break is read when the client stops writing after it,
unless it is empty or only a carriage return. -/
theorem inputs_last (hln : IsLine limit ln t) (hne : ln ≠ []) (hcr : ln ≠ [carriageReturn]) :
    inputs limit ln true = .line t :: inputs limit [] true := by
  have hroom : fresh.size + ln.length ≤ limit := by
    rw [show fresh.size = 0 from rfl, Nat.zero_add]
    exact hln.short
  obtain ⟨h₁, h₂, h₃⟩ := pushAll_held (r := fresh) rfl hln.unbroken hroom
  rw [show fresh.held = [] from rfl, List.append_nil] at h₁
  have hnone : ¬(ln.reverse = [] ∨ ln.reverse = [carriageReturn]) := by
    rintro (h | h)
    · exact hne (List.reverse_eq_nil_iff.mp h)
    · exact hcr (List.reverse_eq_iff.mp h)
  have hfinish : (fresh.pushAll limit ln).1.finish = (spent, [.line t, .hangUp]) := by
    rw [finish, h₂, if_neg Bool.false_ne_true, h₁, if_neg hnone, hln.text]
  rw [inputs, h₃, hfinish]
  rfl

/-- Bytes with a line more after those that stand before it: with its line break,
or without one where no byte comes after it. -/
inductive Inserted (limit : Nat) (t : String) (before : List UInt8) :
    List UInt8 → Bool → List UInt8 → Prop
  | closed {ln after : List UInt8} {ended : Bool} (h : IsLine limit ln t) :
      Inserted limit t before after ended (before ++ closed ln ++ after)
  | last {ln : List UInt8} (h : IsLine limit ln t) (hne : ln ≠ [])
      (hcr : ln ≠ [carriageReturn]) : Inserted limit t before [] true (before ++ ln)

theorem Inserted.inputs {after : List UInt8} (h : Inserted limit t bs after ended bs')
    (hbreak : (fresh.pushAll limit bs).1 = fresh) :
    inputs limit bs' ended = (fresh.pushAll limit bs).2 ++ .line t :: inputs limit after ended := by
  cases h with
  | closed h => exact inputs_insert hbreak h after ended
  | last h hne hcr => rw [inputs_append hbreak, inputs_last h hne hcr]

end LineReader

namespace Connection

def Turn.input? : Turn → Option Input
  | .receive i => some i
  | .register t => some (.line t)
  | .settle | .told | .finish _ _ | .act _ => none

def Moment.input? (m : Moment) : Option Input := m.turn.input?

/-- What can have become of the scene and of a connection whose client wrote these
bytes, with the moments that the connection went through. -/
structure Transcript (sv : Services) (allows : Scene → Action → Prop) (w₀ : Scene)
    (s : SessionId) (bs : List UInt8) (ended : Bool) (ms : List Moment) (w : Scene)
    (c : Connection) : Prop where
  diary : Diary sv allows w₀ s ms w c
  read : ms.filterMap Moment.input? <+: LineReader.inputs sv.maxLineBytes bs ended

end Connection

end DirectorySessions
