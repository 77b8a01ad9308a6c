/-
# The tree of a text

Readers and skippers need not agree on a scalar that is flawed, but they agree
on the others: a token that can be read can be passed (`Token.Honest`).  Cutting
yields honest tokens only, and building a tree puts no others into it
(`Document.ofText_honest`).  So a text that is read as a value has a tree
without a flaw, which spells that value (`Node.Honest.exists_spells`).

Being honest is asked of a token, not of a text: a text may well hold a scalar
that is flawed, as long as nobody reads it.  That is why readers are not
required to fail on such texts here, and why `HoldsObject` asks for a tree that
spells the object.
-/
import DirectorySessions.Proofs.Json.Written

namespace DirectorySessions.Json

/-! ## Honest tokens -/

/-- What can be read of the token can also be passed. -/
structure Token.Honest (t : Token) : Prop where
  spells : ∀ s, t.read = .ok s → t.Spells s

theorem Token.broken_honest (start : Nat) (lead : Lead) (f : Fault) :
    (Token.broken start lead f).Honest :=
  ⟨fun _ h => nomatch h⟩

@[simp] theorem Token.absent_honest (start : Nat) : (Token.absent start).Honest :=
  Token.broken_honest ..

theorem joinPieces_closed {finish : Finish} {high : Option Nat} {ps : List Piece} :
    ∀ {cs : List Char}, joinPieces finish high ps = .ok cs → ∃ o, finish = .closed o := by
  fun_induction joinPieces finish high ps with
  | case1 => exact fun _ => ⟨_, ‹_›⟩
  | case5 _ _ _ _ ih | case6 _ _ _ _ ih | case9 _ _ _ _ _ _ ih | case12 _ _ _ _ _ _ ih =>
      intro cs h
      obtain ⟨cs, h, -⟩ := map_eq_ok.1 h
      exact ih h
  | case8 _ _ _ _ _ _ ih => exact ih
  | _ => exact fun h => nomatch h

theorem scanString_honest (start : Nat) (cs : List Char) : (scanString start cs).1.Honest := by
  refine ⟨fun s h => ?_⟩
  obtain ⟨s, hs, rfl⟩ := map_eq_ok.1 h
  obtain ⟨o, ho⟩ := joinPieces_closed hs
  exact ⟨h, ⟨o + 1, by simp [scanString, ho, Finish.skip]⟩, rfl⟩

theorem Token.ofNumeral_honest (start : Nat) (n : Numeral) (stop : Nat) :
    (Token.ofNumeral start n stop).Honest := by
  refine ⟨fun s h => ?_⟩
  obtain ⟨x, -, rfl⟩ := map_eq_ok.1 h
  exact ⟨h, ⟨stop, rfl⟩, rfl⟩

theorem Token.brokenNumber_honest (start : Nat) (rest : List Char) (o : Nat) :
    (Token.brokenNumber start rest o).Honest := by
  unfold Token.brokenNumber
  split
  · exact ⟨fun _ h => nomatch h⟩
  · exact Token.broken_honest ..

theorem scanExponent_honest (start : Nat) (n : Numeral) (cs : List Char) (o : Nat) :
    (scanExponent start n cs o).1.Honest := by
  have digits : ∀ (after ds : List Char) (o stop : Nat) (n : Numeral),
      (if ds.isEmpty then (Token.brokenNumber start after o, after)
        else (Token.ofNumeral start n stop, after)).1.Honest := by
    intro after ds o stop n
    split
    · exact Token.brokenNumber_honest ..
    · exact Token.ofNumeral_honest ..
  unfold scanExponent
  split
  · split
    · exact digits ..
    · exact Token.ofNumeral_honest ..
  · exact Token.ofNumeral_honest ..

theorem scanFraction_honest (start : Nat) (n : Numeral) (cs : List Char) (o : Nat) :
    (scanFraction start n cs o).1.Honest := by
  unfold scanFraction
  split
  · simp only
    split
    · exact Token.brokenNumber_honest ..
    · exact scanExponent_honest ..
  · exact scanExponent_honest ..

theorem scanWhole_honest (start : Nat) (negative : Bool) (cs : List Char) (o : Nat) :
    (scanWhole start negative cs o).1.Honest := by
  unfold scanWhole
  simp only
  split
  · exact Token.brokenNumber_honest ..
  · exact Token.broken_honest ..
  · exact scanFraction_honest ..

theorem scanWord_honest (start : Nat) {value : Scalar} (hvalue : value.lead = .other)
    (letters cs : List Char) (o : Nat) : (scanWord start value letters cs o).1.Honest := by
  fun_induction scanWord start value letters cs o with
  | case1 cs o =>
      refine ⟨fun s h => ?_⟩
      cases h
      exact ⟨rfl, ⟨o, rfl⟩, hvalue.symm⟩
  | case2 => exact Token.broken_honest ..
  | case3 _ _ _ _ ih => exact ih
  | case4 => exact Token.broken_honest ..

theorem scanScalar_honest (c : Char) (cs : List Char) (o : Nat) :
    (scanScalar c cs o).1.Honest := by
  unfold scanScalar
  split
  · exact scanString_honest ..
  · exact scanWord_honest _ rfl ..
  · exact scanWord_honest _ rfl ..
  · exact scanWord_honest _ rfl ..
  · exact scanWhole_honest ..
  · split
    · exact scanWhole_honest ..
    · exact Token.broken_honest ..

def Lexeme.Honest : Lexeme → Prop
  | .mark _ _ => True
  | .scalar t => t.Honest

theorem lexemes_honest (cs : List Char) (o : Nat) : ∀ l ∈ lexemes cs o, l.Honest := by
  fun_induction lexemes cs o with
  | case1 o => simp [Lexeme.Honest]
  | case2 _ _ _ _ ih => exact ih
  | case3 _ _ _ _ _ _ ih => simpa [Lexeme.Honest] using ih
  | case4 o c cs => simpa [Lexeme.Honest] using scanScalar_honest c cs o
  | case5 o c cs _ _ _ _ _ _ ih =>
      simpa [Lexeme.Honest] using ⟨scanScalar_honest c cs o, ih⟩

/-! ## Honest trees -/

/-- Every token of the tree is honest. -/
inductive Node.Honest : Node → Prop
  | scalar {t : Token} : t.Honest → Node.Honest (.scalar t)
  | array {start : Nat} {items : List Node} {e : Ending} :
      (∀ n ∈ items, Node.Honest n) → Node.Honest (.array start items e)
  | object {start : Nat} {members : List (KeySite × Node)} {e : Ending} :
      (∀ m ∈ members, m.1.2.1.Honest) → (∀ m ∈ members, Node.Honest m.2) →
      Node.Honest (.object start members e)

def HonestMembers (members : List (KeySite × Node)) : Prop :=
  ∀ m ∈ members, m.1.2.1.Honest ∧ m.2.Honest

def Open.Honest : Open → Prop
  | .array _ items => ∀ n ∈ items, n.Honest
  | .object _ members site => HonestMembers members ∧ site.2.1.Honest

def Stage.Honest : Stage → Prop
  | .value => True
  | .item _ => True
  | .key _ members _ => HonestMembers members
  | .colon _ members _ t => HonestMembers members ∧ t.Honest
  | .after n => n.Honest

section

variable {start comma : Nat} {e : Ending} {n : Node} {t : Token} {items : List Node}
  {site : KeySite} {members : List (KeySite × Node)} {before : Option Nat} {m : Mark}

@[simp] theorem honest_mark : (Lexeme.mark m start).Honest := trivial

@[simp] theorem honest_lexeme : (Lexeme.scalar t).Honest ↔ t.Honest := Iff.rfl

@[simp] theorem honest_scalar : (Node.scalar t).Honest ↔ t.Honest :=
  ⟨fun h => by cases h with | scalar h => exact h, .scalar⟩

@[simp] theorem honest_array : (Node.array start items e).Honest ↔ ∀ n ∈ items, n.Honest :=
  ⟨fun h => by cases h with | array h => exact h, .array⟩

@[simp] theorem honest_object : (Node.object start members e).Honest ↔ HonestMembers members :=
  ⟨fun h => by cases h with | object hk h => exact fun m hm => ⟨hk m hm, h m hm⟩,
    fun h => .object (fun m hm => (h m hm).1) fun m hm => (h m hm).2⟩

@[simp] theorem honestMembers_nil : HonestMembers [] := fun _ h => absurd h List.not_mem_nil

@[simp] theorem honestMembers_cons : HonestMembers ((site, n) :: members) ↔
    (site.2.1.Honest ∧ n.Honest) ∧ HonestMembers members :=
  List.forall_mem_cons

@[simp] theorem honestMembers_append {members' : List (KeySite × Node)} :
    HonestMembers (members ++ members') ↔ HonestMembers members ∧ HonestMembers members' :=
  List.forall_mem_append

@[simp] theorem honestMembers_reverse : HonestMembers members.reverse ↔ HonestMembers members := by
  simp only [HonestMembers, List.mem_reverse]

@[simp] theorem honest_openArray : (Open.array start items).Honest ↔ ∀ n ∈ items, n.Honest :=
  Iff.rfl

@[simp] theorem honest_openObject : (Open.object start members site).Honest ↔
    HonestMembers members ∧ site.2.1.Honest :=
  Iff.rfl

@[simp] theorem honest_value : Stage.value.Honest := trivial

@[simp] theorem honest_item : (Stage.item start).Honest := trivial

@[simp] theorem honest_key : (Stage.key start members before).Honest ↔ HonestMembers members :=
  Iff.rfl

@[simp] theorem honest_colon : (Stage.colon start members comma t).Honest ↔
    HonestMembers members ∧ t.Honest :=
  Iff.rfl

@[simp] theorem honest_after : (Stage.after n).Honest ↔ n.Honest := Iff.rfl

end

@[simp] theorem sealBroken_honest (b : Break) (found : Lexeme) {n : Node} {stack : List Open}
    (hn : n.Honest) (hstack : ∀ o ∈ stack, o.Honest) : (sealBroken b found n stack).Honest := by
  fun_induction sealBroken b found n stack <;> simp_all [or_imp, forall_and]

@[simp] theorem brokenValue_honest {t : Token} (found : Lexeme) {stack : List Open}
    (ht : t.Honest) (hstack : ∀ o ∈ stack, o.Honest) :
    (brokenValue t found stack).root.Honest :=
  sealBroken_honest _ _ (.scalar ht) hstack

@[simp] theorem missingColon_honest (l : Lexeme) : (missingColon l).Honest :=
  Token.broken_honest ..

@[simp] theorem Mark.asToken_honest (o : Nat) : (Mark.asToken o).Honest := Token.broken_honest ..

theorem build_honest (stage : Stage) (stack : List Open) (ls : List Lexeme)
    (hstage : stage.Honest) (hstack : ∀ o ∈ stack, o.Honest) (hls : ∀ l ∈ ls, l.Honest) :
    (build stage stack ls).root.Honest := by
  fun_induction build stage stack ls
  all_goals simp_all +zetaDelta [or_imp, forall_and]

theorem Document.ofText_honest (text : String) : (Document.ofText text).root.Honest :=
  build_honest _ _ _ honest_value (fun _ h => absurd h List.not_mem_nil) (lexemes_honest _ _)

/-! ## What a text says -/

mutual

/-- An honest tree from which a value is read has no flaw. -/
theorem Node.Honest.exists_spells : ∀ {n : Node}, n.Honest → ∀ {level : Nat} {w : Value},
    n.readValue level = .ok w → ∃ v, n.Spells v
  | .scalar t, hn, level, w, h => by
      unfold Node.readValue at h
      split at h
      next s hs => exact ⟨_, .scalar ((honest_scalar.1 hn).spells s hs)⟩
      next => simp at h
  | .array start items e, hn, level, w, h => by
      unfold Node.readValue at h
      split at h
      · simp at h
      · simp only [bind_eq_ok] at h
        obtain ⟨ws, hws, -⟩ := h
        obtain ⟨vs, hvs, he⟩ := exists_spellsItems (honest_array.1 hn) hws
        exact ⟨_, .array hvs he⟩
  | .object start members e, hn, level, w, h => by
      unfold Node.readValue at h
      split at h
      · simp at h
      · simp only [bind_eq_ok] at h
        obtain ⟨ws, hws, -⟩ := h
        obtain ⟨ms, hms, he⟩ := exists_spellsMembers (honest_object.1 hn) hws
        exact ⟨_, .object hms he⟩

theorem exists_spellsItems : ∀ {ns : List Node}, (∀ n ∈ ns, n.Honest) →
    ∀ {e : Ending} {level : Nat} {ws : List Value}, Node.readValues level e ns = .ok ws →
    ∃ vs, Node.SpellsItems ns vs ∧ e.Whole
  | [], _, e, level, ws, h => by
      simp only [Node.readValues, bind_eq_ok, Ending.finish_eq_ok] at h
      obtain ⟨_, he, -⟩ := h
      exact ⟨[], .nil, he⟩
  | n :: ns, hns, e, level, ws, h => by
      simp only [Node.readValues, bind_eq_ok] at h
      obtain ⟨w, hw, ws, hws, -⟩ := h
      obtain ⟨hn, hns⟩ := List.forall_mem_cons.1 hns
      obtain ⟨v, hv⟩ := hn.exists_spells hw
      obtain ⟨vs, hvs, he⟩ := exists_spellsItems hns hws
      exact ⟨v :: vs, .cons hv hvs, he⟩

theorem exists_spellsMembers : ∀ {ns : List (KeySite × Node)}, HonestMembers ns →
    ∀ {e : Ending} {level : Nat} {ws : Members}, Node.readPairs level e ns = .ok ws →
    ∃ ms, Node.SpellsMembers ns ms ∧ e.Whole
  | [], _, e, level, ws, h => by
      simp only [Node.readPairs, bind_eq_ok, Ending.finish_eq_ok] at h
      obtain ⟨_, he, -⟩ := h
      exact ⟨[], .nil, he⟩
  | (site, n) :: ns, hns, e, level, ws, h => by
      simp only [Node.readPairs, bind_eq_ok] at h
      obtain ⟨k, hk, w, hw, ws, hws, -⟩ := h
      obtain ⟨⟨hsite, hn⟩, hns⟩ := honestMembers_cons.1 hns
      obtain ⟨v, hv⟩ := hn.exists_spells hw
      obtain ⟨ms, hms, he⟩ := exists_spellsMembers hns hws
      exact ⟨(k, v) :: ms, .cons (hsite.spells _ (Node.readString_scalar hk)) hv hms, he⟩

end

theorem readText_eq_ok {α : Type} {text : String} {read : Node → Reading α} {a : α} :
    readText text read = .ok a ↔
      read (Document.ofText text).root = .ok a ∧ (Document.ofText text).extra = none := by
  simp only [readText, bind_eq_ok]
  split <;> simp_all

/-- The text can be read as a value, and it is an object with these members, in
order and with repetitions. -/
structure HoldsObject (text : String) (ms : Members) : Prop where
  readable : ∃ v, readText text (·.readValue 0) = .ok v
  spells : (Document.ofText text).root.Spells (.object ms)

/-- Every text that is read as an object holds one, whose members are those
that are read, folded. -/
theorem exists_holdsObject {text : String} {ms : Members}
    (h : readText text (·.readValue 0) = .ok (.object ms)) :
    ∃ ps, HoldsObject text ps ∧ ms = Members.ofList (Value.foldedMembers ps) := by
  obtain ⟨v, hv⟩ := (Document.ofText_honest text).exists_spells (readText_eq_ok.1 h).1
  obtain ⟨-, hms⟩ := (hv.readValue_eq_ok 0 _).1 (readText_eq_ok.1 h).1
  cases v <;> simp only [Value.folded, reduceCtorEq] at hms
  next ps =>
    cases hms
    exact ⟨ps, ⟨⟨_, h⟩, hv⟩, rfl⟩

namespace HoldsObject

variable {text : String} {ps : Members}

theorem extra (h : HoldsObject text ps) : (Document.ofText text).extra = none := by
  obtain ⟨v, hv⟩ := h.readable
  exact (readText_eq_ok.1 hv).2

theorem fits (h : HoldsObject text ps) : FitsAt 1 (Value.depthMembers ps) := by
  obtain ⟨v, hv⟩ := h.readable
  have hfits := ((h.spells.readValue_eq_ok 0 v).1 (readText_eq_ok.1 hv).1).1
  exact (fitsAt_succ.1 hfits).2

/-- Whatever is read by a placeless reader is read from the members. -/
theorem readText_eq_ok {α : Type} {read : Node → Reading α} (hread : Placeless read)
    (h : HoldsObject text ps) (a : α) :
    readText text read = .ok a ↔ read (Value.object ps).toNode = .ok a := by
  simp [Json.readText_eq_ok, h.extra, hread.read_eq_ok h.spells]

end HoldsObject

end DirectorySessions.Json
