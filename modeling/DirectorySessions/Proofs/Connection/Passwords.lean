/-
# Passwords leave no trace

Where the factory of the directory takes binds, a password decides by being there
or not, and by nothing else: it is not in the context, nor in any response.  So two
clients that write the same at the same times, except that they bind with different
passwords, are answered alike, and leave the same registry behind
(`passwords_leave_no_trace`).

The password is nowhere but in the line and, while the bind is under way, in the
bind.  That it is not seen there either is shown where a bind is settled
(`settleBind_password`), since nothing looks into a bind before that; from there it
goes through the lines that are read (`indifferent_password`) to runs, of which
`Onward.matches_all` tells that they agree if they read what makes no difference.
-/
import DirectorySessions.Proofs.Connection.Contexts
import DirectorySessions.Proofs.Connection.Replay
import DirectorySessions.Proofs.Connection.Stream
import DirectorySessions.Proofs.Request.Format

namespace DirectorySessions

/-! ## Blank lines -/

namespace Json

theorem isDigit_of_isBlank {c : Char} (hc : Text.isBlank c = true) : isDigit c = false := by
  simp only [Text.isBlank, Bool.or_eq_true, Bool.and_eq_true, decide_eq_true_eq, beq_iff_eq] at hc
  rw [isDigit, Bool.and_eq_false_iff]
  by_cases hz : '0' ≤ c
  · right
    have h0 : 48 ≤ c.toNat := hz
    have h9 : ¬c.toNat ≤ 57 := by omega
    exact decide_eq_false h9
  · left
    exact decide_eq_false hz

theorem scan_of_isBlank {c : Char} (hc : Text.isBlank c = true) (cs : List Char) (o : Nat) :
    Mark.of? c = none ∧
      scanScalar c cs o = (Token.broken o .other ⟨.noValue, o + 1⟩, cs) := by
  have hne : ∀ d, Text.isBlank d = false → c ≠ d := by
    rintro d hd rfl
    rw [hc] at hd
    cases hd
  have hdigit := isDigit_of_isBlank hc
  constructor
  · unfold Mark.of?
    split
    all_goals first | rfl | exact absurd rfl (hne _ (by decide))
  · unfold scanScalar
    split
    all_goals first | rw [hdigit]; rfl | exact absurd rfl (hne _ (by decide))

/-- Of blanks, nothing remains but a scalar that cannot be passed. -/
theorem lexemes_of_blank {cs : List Char} (h : cs.all Text.isBlank = true) (o : Nat) :
    ∃ t, lexemes cs o = [.scalar t] ∧ t.goesOn = false := by
  induction cs generalizing o with
  | nil =>
      rw [lexemes]
      exact ⟨_, rfl, rfl⟩
  | cons c cs ih =>
      rw [List.all_cons, Bool.and_eq_true] at h
      rw [lexemes]
      split
      · exact ih h.2 (o + 1)
      · obtain ⟨hmark, hscan⟩ := scan_of_isBlank h.1 cs o
        simp only [hmark, hscan]
        exact ⟨_, rfl, rfl⟩

end Json

theorem Request.ofLine_of_blank {t : String} (h : Text.allBlank t = true) (q : Request) :
    Request.ofLine t ≠ .ok q := by
  obtain ⟨l, hl, hstuck⟩ := Json.lexemes_of_blank h 0
  have hdoc : Json.Document.ofText t = Json.brokenValue l (.scalar l) [] := by
    rw [Json.Document.ofText, hl, Json.build]
    simp only [hstuck]
    rfl
  intro hq
  rw [Request.ofLine, Json.readText_eq_ok, hdoc] at hq
  cases hq.1

/-! ## Lines that bind -/

/-- The two are the same, or lines that ask for the same bind, with a password in
both, whichever that is. -/
inductive Input.SameButPassword : Input → Input → Prop
  | same (i : Input) : SameButPassword i i
  | bind {t t' : String} {id : RequestId} {dn p p' : String} {cs : List Control}
      (hq : Request.ofLine t = .ok ⟨id, .bind dn p, cs⟩)
      (hq' : Request.ofLine t' = .ok ⟨id, .bind dn p', cs⟩) (hp : p ≠ "") (hp' : p' ≠ "") :
      SameButPassword (.line t) (.line t')

/-- The two are the same, or the same bind with a password in both, whichever that
is. -/
inductive PendingBind.SameButPassword : PendingBind → PendingBind → Prop
  | same (b : PendingBind) : SameButPassword b b
  | password (h : HandleId) (id : RequestId) (dn : String) (cs : List Control) {p p' : String}
      (hp : p ≠ "") (hp' : p' ≠ "") :
      SameButPassword ⟨h, id, .ofBind dn p, cs⟩ ⟨h, id, .ofBind dn p', cs⟩

namespace Request

open Json

/-- The members, with another password where there is one. -/
def withPassword (p : String) (ms : Members) : Members :=
  ms.map fun m => if m.1 = "password" then (m.1, .string p) else m

theorem valuesOf_withPassword (p : String) (ms : Members) (key : String) :
    Members.valuesOf (withPassword p ms) key =
      if key = "password" then (Members.valuesOf ms key).map fun _ => .string p
      else Members.valuesOf ms key := by
  induction ms with
  | nil => split <;> rfl
  | cons m ms ih =>
      obtain ⟨k, v⟩ := m
      rw [withPassword, List.map_cons, ← withPassword]
      by_cases hk : k = "password"
      · rw [if_pos hk, Members.valuesOf_cons, Members.valuesOf_cons, ih]
        by_cases hkey : k = key
        · rw [if_pos hkey, if_pos hkey, if_pos (hkey ▸ hk), if_pos (hkey ▸ hk), List.map_cons]
        · rw [if_neg hkey, if_neg hkey]
      · rw [if_neg hk, Members.valuesOf_cons, Members.valuesOf_cons, ih]
        by_cases hkey : k = key
        · rw [if_pos hkey, if_pos hkey, if_neg (hkey ▸ hk), if_neg (hkey ▸ hk)]
        · rw [if_neg hkey, if_neg hkey]

theorem SaidBy.withPassword {ms : Members} {id : RequestId} {dn p : String} {cs : List Control}
    (h : SaidBy ms ⟨id, .bind dn p, cs⟩) (hp : p ≠ "") (p' : String) :
    SaidBy (withPassword p' ms) ⟨id, .bind dn p', cs⟩ := by
  have other : ∀ {key}, key ≠ "password" →
      Members.valuesOf (Request.withPassword p' ms) key = Members.valuesOf ms key := by
    intro key hkey
    rw [valuesOf_withPassword, if_neg hkey]
  have hpassword : Members.valuesOf (Request.withPassword p' ms) "password" = [.string p'] := by
    rw [valuesOf_withPassword, if_pos rfl, h.fields.2.resolve_right fun hnone => hp hnone.2]
    rfl
  refine ⟨?_, ?_, ?_, ?_, .inl hpassword⟩
  · rw [other (by decide)]
    exact h.id
  · rw [other (by decide)]
    exact h.controls
  · rw [other (by decide)]
    exact h.kind
  · rw [other (by decide)]
    exact h.fields.1

/-- Lines that hold the members of a bind, the one with another password than the
other, are the same but for that. -/
theorem sameButPassword_of_holds {t t' : String} {ms : Members} {id : RequestId}
    {dn p p' : String} {cs : List Control} (h : HoldsObject t ms)
    (h' : HoldsObject t' (withPassword p' ms)) (hq : ofLine t = .ok ⟨id, .bind dn p, cs⟩)
    (hp : p ≠ "") (hp' : p' ≠ "") : Input.SameButPassword (.line t) (.line t') :=
  .bind hq ((ofLine_eq_ok h' _).mpr (((ofLine_eq_ok h _).mp hq).withPassword hp p')) hp hp'

end Request

namespace Connection

/-! ## Binds -/

section Binds

variable {sv : Services} {url dn p p' : String} {cs : List Control}

theorem isAnonymous_ofBind (dn p : String) :
    (Credentials.ofBind dn p).isAnonymous = Text.allBlank dn := by
  rw [Credentials.ofBind]
  cases hb : Text.allBlank dn with
  | true => rfl
  | false => exact hb

/-- The factory sees whether there is a password. -/
theorem directory_password (url : String) (cs : List Control) (dn : String) (hp : p ≠ "")
    (hp' : p' ≠ "") :
    ContextFactory.directory url cs (.ofBind dn p') =
      ContextFactory.directory url cs (.ofBind dn p) := by
  rw [Credentials.ofBind, Credentials.ofBind]
  cases hb : Text.allBlank dn with
  | true => rfl
  | false =>
      have hsome : ∀ p : String, p ≠ "" → p.isEmpty = false := fun p hp => by simpa using hp
      simp only [ContextFactory.directory, hb, hsome p hp, hsome p' hp', Bool.false_eq_true,
        if_false]

theorem settleBind_password (hsv : sv.factory = .directory url) {b b' : PendingBind}
    (h : b.SameButPassword b') (r : Registry) (s : SessionId) :
    settleBind sv r s b' = settleBind sv r s b := by
  cases h with
  | same b => rfl
  | @password h id dn cs p p' hp hp' =>
      have hclear : clearBind sv r (.ofBind dn p') cs = clearBind sv r (.ofBind dn p) cs := by
        rw [clearBind, clearBind, isAnonymous_ofBind, isAnonymous_ofBind, hsv,
          directory_password url cs dn hp hp']
      simp only [settleBind, hclear]

theorem registerBind_password (r : Registry) (s : SessionId) (id : RequestId) (dn : String)
    (cs : List Control) (hp : p ≠ "") (hp' : p' ≠ "") :
    (∃ a r', registerBind r s id (.ofBind dn p) cs = (.error a, r') ∧
      registerBind r s id (.ofBind dn p') cs = (.error a, r')) ∨
    ∃ b b' r', registerBind r s id (.ofBind dn p) cs = (.ok b, r') ∧
      registerBind r s id (.ofBind dn p') cs = (.ok b', r') ∧ b.SameButPassword b' := by
  simp only [registerBind]
  split
  · exact Or.inl ⟨_, _, rfl, rfl⟩
  · exact Or.inr ⟨_, _, _, rfl, rfl, .password _ id dn cs hp hp'⟩

theorem bind_password (hsv : sv.factory = .directory url) (r : Registry) (s : SessionId)
    (id : RequestId) (dn : String) (cs : List Control) (hp : p ≠ "") (hp' : p' ≠ "") :
    bind sv r s id (.ofBind dn p') cs = bind sv r s id (.ofBind dn p) cs := by
  rcases registerBind_password r s id dn cs hp hp' with ⟨a, r', h, h'⟩ | ⟨b, b', r', h, h', hb⟩
  · simp only [bind, h, h']
  · simp only [bind, h, h', settleBind_password hsv hb]

theorem indifferent_password (hsv : sv.factory = .directory url) :
    Indifferent sv Input.SameButPassword PendingBind.SameButPassword := by
  refine ⟨?_, ?_, fun h => settleBind_password hsv h⟩
  · intro w c i i' h
    cases h with
    | same i => rfl
    | @bind t t' id dn p p' cs hq hq' hp hp' =>
        have hb : ¬Text.allBlank t = true := fun hb => Request.ofLine_of_blank hb _ hq
        have hb' : ¬Text.allBlank t' = true := fun hb => Request.ofLine_of_blank hb _ hq'
        simp only [receive, if_neg hb, if_neg hb', hq, hq', serve,
          bind_password hsv _ _ _ _ _ hp hp']
  · intro w c t t' b b' r r' h hb hb'
    generalize hi : Input.line t = i, hi' : Input.line t' = i' at h
    cases h with
    | same i =>
        cases hi
        cases hi'
        rw [hb] at hb'
        cases hb'
        exact ⟨rfl, .same b⟩
    | @bind t t' id dn p p' cs hq hq' hp hp' =>
        cases hi
        cases hi'
        obtain ⟨id₁, dn₁, p₁, cs₁, -, hq₁, -, hr⟩ := beginBind?_eq_some.mp hb
        obtain ⟨id₂, dn₂, p₂, cs₂, -, hq₂, -, hr'⟩ := beginBind?_eq_some.mp hb'
        rw [hq] at hq₁
        cases hq₁
        rw [hq'] at hq₂
        cases hq₂
        rcases registerBind_password w.registry c.session id dn cs hp hp' with
          ⟨a, r₁, h, h'⟩ | ⟨b₁, b₁', r₁, h, h', hbs⟩
        · rw [h] at hr
          cases hr
        · rw [h] at hr
          rw [h'] at hr'
          cases hr
          cases hr'
          exact ⟨rfl, hbs⟩

end Binds

/-! ## Runs -/

section Runs

variable {R : Input → Input → Prop}

/-- What is read at the same times out of inputs that are related is related. -/
theorem alike_of_inputs {ts ts' : List Turn} {is is' : List Input}
    (ht : List.Forall₂ (Turn.Alike fun _ _ => True) ts ts') (hi : List.Forall₂ R is is')
    (hr : ts.filterMap Turn.input? <+: is) (hr' : ts'.filterMap Turn.input? <+: is') :
    List.Forall₂ (Turn.Alike R) ts ts' := by
  induction ht generalizing is is' with
  | nil => exact .nil
  | cons h ht ih =>
      cases h with
      | @receive i i' h =>
          obtain ⟨rest, rfl⟩ := hr
          obtain ⟨rest', rfl⟩ := hr'
          obtain ⟨hread, hi⟩ := List.forall₂_cons.mp hi
          exact .cons (.receive hread) (ih hi (List.prefix_append _ _) (List.prefix_append _ _))
      | @register t t' h =>
          obtain ⟨rest, rfl⟩ := hr
          obtain ⟨rest', rfl⟩ := hr'
          obtain ⟨hread, hi⟩ := List.forall₂_cons.mp hi
          exact .cons (.register hread) (ih hi (List.prefix_append _ _) (List.prefix_append _ _))
      | settle => exact .cons .settle (ih hi hr hr')
      | told => exact .cons .told (ih hi hr hr')
      | finish hj ho => exact .cons (.finish hj ho) (ih hi hr hr')
      | act a => exact .cons (.act a) (ih hi hr hr')

end Runs

/-- Under the factory of the directory, two clients of which the one writes what the
other writes, with other passwords in its binds, go through the same, if the same
happens at the same times: at every moment the scene is the same, and so is the
connection, with its jobs and all of its responses, but that the binds that are under
way at that moment, if they are, have the passwords that were written. -/
theorem passwords_leave_no_trace {sv : Services} {url : String} {allows : Scene → Action → Prop}
    {w₀ w w' : Scene} {s : SessionId} {bs bs' : List UInt8} {ended : Bool} {ms ms' : List Moment}
    {c c' : Connection} (hsv : sv.factory = .directory url)
    (h : Transcript sv allows w₀ s bs ended ms w c)
    (h' : Transcript sv allows w₀ s bs' ended ms' w' c')
    (hi : List.Forall₂ Input.SameButPassword (LineReader.inputs sv.maxLineBytes bs ended)
      (LineReader.inputs sv.maxLineBytes bs' ended))
    (ht : List.Forall₂ (Turn.Alike fun _ _ => True) (ms.map Moment.turn) (ms'.map Moment.turn)) :
    w' = w ∧ SameButBind PendingBind.SameButPassword c c' ∧ (c.pending = none → c' = c) ∧
      List.Forall₂ (fun m m' => m'.scene = m.scene ∧
        SameButBind PendingBind.SameButPassword m.connection m'.connection ∧
        (m.connection.pending = none → m'.connection = m.connection)) ms ms' := by
  have hturns : List.Forall₂ (Turn.Alike Input.SameButPassword) (ms.map Moment.turn)
      (ms'.map Moment.turn) := by
    refine alike_of_inputs ht hi ?_ ?_
    · rw [List.filterMap_map]
      exact h.read
    · rw [List.filterMap_map]
      exact h'.read
  obtain ⟨hw, hc, hms⟩ := Onward.matches_all (indifferent_password hsv) (JobsApart.accept w₀ s)
    (.of_none rfl) h.diary.onward h'.diary.onward hturns
  exact ⟨hw, hc, hc.eq_of_none,
    hms.imp fun _ _ hm => ⟨hm.scene, hm.connection, hm.connection.eq_of_none⟩⟩

theorem Diary.receive {sv : Services} {allows : Scene → Action → Prop} {w₀ w : Scene}
    {s : SessionId} {ms : List Moment} {c : Connection} (h : Diary sv allows w₀ s ms w c)
    (hr : c.listens = true) (i : Input) :
    Diary sv allows w₀ s (ms ++ [⟨w, c, .receive i⟩]) (c.receive sv w i).1 (c.receive sv w i).2 :=
  h.turn (.receive i) hr

def bindMembers (p : String) : Json.Members :=
  [("id", .ofInt 1), ("op", .string "bind"), ("dn", .string "cn=a"), ("password", .string p)]

def bindLine (p : String) : String := (Json.Value.object (bindMembers p)).text

def whoamiLine : String := "\x7b\"id\":2,\"op\":\"whoami\"\x7d"

/-- The connection of a client that binds with a password, and then asks who it is. -/
def boundWith (p : String) : Scene × Connection :=
  (accept emptyScene ⟨"s"⟩).2.receive directoryServices (accept emptyScene ⟨"s"⟩).1
    (.line (bindLine p))

def askedWith (p : String) : Scene × Connection :=
  (boundWith p).2.receive directoryServices (boundWith p).1 (.line whoamiLine)

def askingWith (p : String) : List Moment :=
  [⟨(accept emptyScene ⟨"s"⟩).1, (accept emptyScene ⟨"s"⟩).2, .receive (.line (bindLine p))⟩,
    ⟨(boundWith p).1, (boundWith p).2, .receive (.line whoamiLine)⟩]

theorem inputs_askingWith {p : String} (hp : ∀ t ∈ [bindLine p, whoamiLine],
      LineReader.IsLine directoryServices.maxLineBytes t.toUTF8.toList t) :
    LineReader.inputs directoryServices.maxLineBytes
      (LineReader.written [bindLine p, whoamiLine]) false =
        [.line (bindLine p), .line whoamiLine] := by
  rw [LineReader.inputs, LineReader.pushAll_written hp]
  rfl

theorem askingWith_transcript {p : String} (hp : ∀ t ∈ [bindLine p, whoamiLine],
      LineReader.IsLine directoryServices.maxLineBytes t.toUTF8.toList t)
    (hr : (boundWith p).2.listens = true) :
    Transcript directoryServices (fun _ _ => True) emptyScene ⟨"s"⟩
      (LineReader.written [bindLine p, whoamiLine]) false (askingWith p) (askedWith p).1
      (askedWith p).2 := by
  constructor
  · have h₁ : Diary directoryServices (fun _ _ => True) emptyScene ⟨"s"⟩
        ((askingWith p).take 1) (boundWith p).1 (boundWith p).2 :=
      Diary.accept.receive rfl (.line (bindLine p))
    exact h₁.receive hr (.line whoamiLine)
  · rw [inputs_askingWith hp]
    exact List.prefix_rfl

/-- Two clients that bind with different passwords are answered alike, and what they
ask is under way alike. -/
theorem other_password_same_answers :
    askedWith "secret" = askedWith "p" ∧
      (askedWith "p").2.responses.map Response.identity = [some "cn=a"] ∧
      (askedWith "p").2.jobs.length = 1 := by
  have hlines : ∀ t ∈ [bindLine "p", whoamiLine],
      LineReader.IsLine directoryServices.maxLineBytes t.toUTF8.toList t := by
    decide +kernel
  have hlines' : ∀ t ∈ [bindLine "secret", whoamiLine],
      LineReader.IsLine directoryServices.maxLineBytes t.toUTF8.toList t := by
    decide +kernel
  have holds : ∀ p, Json.HoldsObject (bindLine p) (bindMembers p) := by
    intro p
    refine Json.holdsObject_text ?_ (.inr (show 1 < Json.depthLimit by decide))
    simp [bindMembers, Json.Value.ExactMembers, Json.Value.Exact, Json.Value.ofInt,
      Json.Number.Exact]
  have hread : Request.ofLine (bindLine "p") = .ok ⟨⟨1⟩, .bind "cn=a" "p", []⟩ :=
    (Request.ofLine_eq_ok (holds "p") _).mpr
      ⟨rfl, .inr ⟨rfl, rfl⟩, ⟨_, rfl, .inl rfl⟩, .inl rfl, .inl rfl⟩
  have hinputs : List.Forall₂ Input.SameButPassword
      (LineReader.inputs directoryServices.maxLineBytes
        (LineReader.written [bindLine "p", whoamiLine]) false)
      (LineReader.inputs directoryServices.maxLineBytes
        (LineReader.written [bindLine "secret", whoamiLine]) false) := by
    have hother : Request.withPassword "secret" (bindMembers "p") = bindMembers "secret" := by
      simp [Request.withPassword, bindMembers]
    have hlike : Input.SameButPassword (.line (bindLine "p")) (.line (bindLine "secret")) :=
      Request.sameButPassword_of_holds (holds "p") (hother ▸ holds "secret") hread (by decide)
        (by decide)
    rw [inputs_askingWith hlines, inputs_askingWith hlines']
    exact .cons hlike (.cons (.same _) .nil)
  have hturns : List.Forall₂ (Turn.Alike fun _ _ => True)
      ((askingWith "p").map Moment.turn) ((askingWith "secret").map Moment.turn) :=
    .cons (.receive trivial) (.cons (.receive trivial) .nil)
  obtain ⟨hw, -, hc, -⟩ := passwords_leave_no_trace rfl
    (askingWith_transcript hlines (by decide +kernel))
    (askingWith_transcript hlines' (by decide +kernel)) hinputs hturns
  exact ⟨Prod.ext hw (hc (by decide +kernel)), by decide +kernel, by decide +kernel⟩

end Connection

end DirectorySessions
