/-
# The format of a request line

Which lines are requests, and which requests they are, is told by the members of
the object alone, whatever their order (`Request.SaidBy`): the one number, at most one
list of controls, the one name of an operation, and at most one value for each
field of that operation.  Everything else is passed over.  A number is whole if the
reader takes it for whole: it is written without a point or an exponent, is not minus
zero, and fits 64 bits.

What is read eagerly and what is kept until the object is closed makes no
difference to that, and neither does folding the members that were kept: the values
that are asked for are scalars, which folding leaves alone.

## How the proof goes

The tag and the fields are read from the members that are left once the number and the
controls have been taken from among them (`kept`).  The number and the controls may be
there once at most (`TakenOnce`), which a fold over the members checks as it goes;
that what it takes does not depend on the order is what makes `SaidBy` a statement
about the members and not about the line.  The five operations have their fields in a
table, and one lemma says of all of them what reading does (`readMembers_eq_ok`).

`HoldsObject` is the only hypothesis.  Of lines that hold no object nothing is said
here, nor of the errors that are given for a line.
-/
import DirectorySessions.Proofs.Identifier
import DirectorySessions.Proofs.Json.Records
import DirectorySessions.Proofs.Json.RoundTrip
import DirectorySessions.Request.Reader
import Mathlib.Data.List.Forall2

namespace DirectorySessions

open Json

/-! ## The format -/

/-- The value names the kind of an operation, or is its place among all kinds. -/
def OperationKind.NamedBy (k : OperationKind) (v : Value) : Prop :=
  v = .string k.name ∨ ∃ i, v = .ofNat i ∧ OperationKind.all[i]? = some k

/-- A text that may be left out is given once, or it is empty. -/
def TextGiven (vs : List Value) (s : String) : Prop := vs = [.string s] ∨ vs = [] ∧ s = ""

/-- The members give the fields of an operation. -/
def Operation.GivenBy (ms : Members) : Operation → Prop
  | .bind dn password =>
    TextGiven (ms.valuesOf "dn") dn ∧ TextGiven (ms.valuesOf "password") password
  | .search base filter =>
    TextGiven (ms.valuesOf "base") base ∧
      match filter with
      | some f => ms.valuesOf "filter" = [.string f]
      | none => ms.valuesOf "filter" = [.null] ∨ ms.valuesOf "filter" = []
  | .abandon target => ms.valuesOf "target" = [.ofInt target.toInt]
  | .whoami | .unbind => True

/-- The members say this request. -/
structure Request.SaidBy (ms : Members) (q : Request) : Prop where
  id : ms.valuesOf "id" = [.ofInt q.id.toInt]
  controls : (∃ vs, ms.valuesOf "controls" = [.array vs] ∧
      List.Forall₂ (fun v c => readFrom v Control.ofNode = .ok c) vs q.controls) ∨
    ms.valuesOf "controls" = [] ∧ q.controls = []
  kind : ∃ v, ms.valuesOf "op" = [v] ∧ q.operation.kind.NamedBy v
  fields : q.operation.GivenBy ms

/-! ## The fields of an operation -/

namespace Operation

def look (op : Operation) (field : String) : Value :=
  match op, field with
  | .bind dn _, "dn" => .string dn
  | .bind _ password, "password" => .string password
  | .search base _, "base" => .string base
  | .search _ filter, "filter" => (filter.map .string).getD .null
  | .abandon target, "target" => target.toJson
  | _, _ => .null

def HasType (field : String) (v : Value) : Prop :=
  match field with
  | "filter" => v = .null ∨ ∃ s, v = .string s
  | "target" => ∃ id : RequestId, v = id.toJson
  | _ => ∃ s, v = .string s

section

variable {n : Node} {v : Value} (hn : n.Spells v) {op : Operation}
include hn

theorem put_dn {dn password : String} :
    put (.bind dn password) "dn" n = .ok op ↔ ∃ s, v = .string s ∧ .bind s password = op := by
  simp only [put, bind_eq_ok, hn.readString_eq_ok, pure_eq_ok]

theorem put_password {dn password : String} :
    put (.bind dn password) "password" n = .ok op ↔ ∃ s, v = .string s ∧ .bind dn s = op := by
  simp only [put, bind_eq_ok, hn.readString_eq_ok, pure_eq_ok]

theorem put_base {base : String} {filter : Option String} :
    put (.search base filter) "base" n = .ok op ↔ ∃ s, v = .string s ∧ .search s filter = op := by
  simp only [put, bind_eq_ok, hn.readString_eq_ok, pure_eq_ok]

theorem put_filter {base : String} {filter : Option String} :
    put (.search base filter) "filter" n = .ok op ↔
      v = .null ∧ .search base none = op ∨ ∃ s, v = .string s ∧ .search base (some s) = op := by
  simp only [put, bind_eq_ok, hn.readOptional_eq_ok, hn.readString_eq_ok, pure_eq_ok]
  grind

theorem put_target {target : RequestId} :
    put (.abandon target) "target" n = .ok op ↔
      ∃ id : RequestId, v = id.toJson ∧ .abandon id = op := by
  simp only [put, bind_eq_ok, RequestId.ofNode_eq_ok hn, pure_eq_ok]

end

theorem has_iff {k : OperationKind} {key : String} :
    k.shape.has key = true ↔ key ∈ k.fields.map Prod.fst := by
  rw [Shape.has_iff, List.mem_map]
  rfl

theorem mem_bind {key : String} (h : key ∈ OperationKind.bind.fields.map Prod.fst) :
    key = "dn" ∨ key = "password" := List.mem_pair.1 h

theorem mem_search {key : String} (h : key ∈ OperationKind.search.fields.map Prod.fst) :
    key = "base" ∨ key = "filter" := List.mem_pair.1 h

theorem mem_abandon {key : String} (h : key ∈ OperationKind.abandon.fields.map Prod.fst) :
    key = "target" := List.mem_singleton.1 h

theorem stores (k : OperationKind) :
    Stores k.shape put (fun op => op.kind = k) look HasType where
  put_sound := by
    intro op key n v op' hop hkey hn hput
    simp only [has_iff] at hkey ⊢
    subst hop
    cases op with
    | bind dn password =>
        rcases mem_bind hkey with rfl | rfl
        · obtain ⟨s, rfl, rfl⟩ := (put_dn hn).1 hput
          refine ⟨⟨s, rfl⟩, rfl, rfl, fun key' hkey' hne => ?_⟩
          obtain rfl := (mem_bind hkey').resolve_left hne
          rfl
        · obtain ⟨s, rfl, rfl⟩ := (put_password hn).1 hput
          refine ⟨⟨s, rfl⟩, rfl, rfl, fun key' hkey' hne => ?_⟩
          obtain rfl := (mem_bind hkey').resolve_right hne
          rfl
    | search base filter =>
        rcases mem_search hkey with rfl | rfl
        · obtain ⟨s, rfl, rfl⟩ := (put_base hn).1 hput
          refine ⟨⟨s, rfl⟩, rfl, rfl, fun key' hkey' hne => ?_⟩
          obtain rfl := (mem_search hkey').resolve_left hne
          rfl
        · rcases (put_filter hn).1 hput with ⟨rfl, rfl⟩ | ⟨s, rfl, rfl⟩
          · refine ⟨.inl rfl, rfl, rfl, fun key' hkey' hne => ?_⟩
            obtain rfl := (mem_search hkey').resolve_right hne
            rfl
          · refine ⟨.inr ⟨s, rfl⟩, rfl, rfl, fun key' hkey' hne => ?_⟩
            obtain rfl := (mem_search hkey').resolve_right hne
            rfl
    | abandon target =>
        obtain rfl := mem_abandon hkey
        obtain ⟨id, rfl, rfl⟩ := (put_target hn).1 hput
        exact ⟨⟨id, rfl⟩, rfl, rfl, fun key' hkey' hne => absurd (mem_abandon hkey') hne⟩
    | whoami => exact absurd hkey List.not_mem_nil
    | unbind => exact absurd hkey List.not_mem_nil
  put_total := by
    intro op key n v hop hkey hn hv
    simp only [has_iff] at hkey
    subst hop
    cases op with
    | bind dn password =>
        rcases mem_bind hkey with rfl | rfl
        · obtain ⟨s, rfl⟩ := hv
          exact ⟨_, (put_dn hn).2 ⟨s, rfl, rfl⟩⟩
        · obtain ⟨s, rfl⟩ := hv
          exact ⟨_, (put_password hn).2 ⟨s, rfl, rfl⟩⟩
    | search base filter =>
        rcases mem_search hkey with rfl | rfl
        · obtain ⟨s, rfl⟩ := hv
          exact ⟨_, (put_base hn).2 ⟨s, rfl, rfl⟩⟩
        · rcases hv with rfl | ⟨s, rfl⟩
          · exact ⟨_, (put_filter hn).2 (.inl ⟨rfl, rfl⟩)⟩
          · exact ⟨_, (put_filter hn).2 (.inr ⟨s, rfl, rfl⟩)⟩
    | abandon target =>
        obtain rfl := mem_abandon hkey
        obtain ⟨id, rfl⟩ := hv
        exact ⟨_, (put_target hn).2 ⟨id, rfl, rfl⟩⟩
    | whoami => exact absurd hkey List.not_mem_nil
    | unbind => exact absurd hkey List.not_mem_nil
  ext := by
    intro op op' hop hop' hlook
    simp only [has_iff] at hlook
    subst hop
    cases op with
    | bind dn password =>
        cases op' with
        | bind dn' password' =>
            have hdn : Value.string dn = .string dn' := hlook "dn" (List.mem_pair.2 (.inl rfl))
            have hpassword : Value.string password = .string password' :=
              hlook "password" (List.mem_pair.2 (.inr rfl))
            cases hdn
            cases hpassword
            rfl
        | _ => cases hop'
    | search base filter =>
        cases op' with
        | search base' filter' =>
            have hbase : Value.string base = .string base' :=
              hlook "base" (List.mem_pair.2 (.inl rfl))
            have hfilter :
                (filter.map Value.string).getD .null = (filter'.map .string).getD .null :=
              hlook "filter" (List.mem_pair.2 (.inr rfl))
            cases hbase
            cases filter <;> cases filter' <;> cases hfilter <;> rfl
        | _ => cases hop'
    | abandon target =>
        cases op' with
        | abandon target' =>
            have htarget : target.toJson = target'.toJson :=
              hlook "target" (List.mem_singleton.2 rfl)
            rw [RequestId.toJson_injective htarget]
        | _ => cases hop'
    | whoami => cases op' <;> first | rfl | cases hop'
    | unbind => cases op' <;> first | rfl | cases hop'

theorem textGiven_iff {vs : List Value} {s : String} :
    (vs = [] ∧ false = false ∧ Value.string s = .string "") ∨
      (vs = [.string s] ∧ ∃ t, Value.string s = .string t) ↔ TextGiven vs s := by
  simp [TextGiven, or_comm]

theorem readMembers_eq_ok (k : OperationKind) (ms : Members) (op : Operation) :
    readMembers k.shape put .whole k.blank [] (Value.toSites ms) = .ok op ↔
      op.kind = k ∧ op.GivenBy ms := by
  have hblank : k.blank.kind = k := by cases k <;> rfl
  rw [(stores k).readMembers_eq_ok hblank]
  refine and_congr_right fun hop => ?_
  subst hop
  cases op with
  | bind dn password =>
      show (∀ f ∈ [("dn", false), ("password", false)], _) ↔ _
      rw [List.forall_mem_cons, List.forall_mem_singleton]
      exact and_congr textGiven_iff textGiven_iff
  | search base filter =>
      show (∀ f ∈ [("base", false), ("filter", false)], _) ↔ _
      rw [List.forall_mem_cons, List.forall_mem_singleton]
      refine and_congr textGiven_iff ?_
      cases filter with
      | none =>
          have htype : HasType "filter" .null := .inl rfl
          show (_ ∧ false = false ∧ Value.null = .null) ∨ (_ = [Value.null] ∧ HasType _ .null) ↔ _
          simp [htype, or_comm]
      | some f =>
          have htype : HasType "filter" (.string f) := .inr ⟨f, rfl⟩
          show (_ ∧ false = false ∧ Value.string f = .null) ∨
            (_ = [Value.string f] ∧ HasType _ (.string f)) ↔ _
          simp [htype]
  | abandon target =>
      show (∀ f ∈ [("target", true)], _) ↔ _
      rw [List.forall_mem_singleton]
      have htype : HasType "target" target.toJson := ⟨target, rfl⟩
      show (_ ∧ true = false ∧ _) ∨ (_ = [target.toJson] ∧ HasType _ target.toJson) ↔ _
      exact ⟨fun h => (h.resolve_left nofun).1, fun h => .inr ⟨h, htype⟩⟩
  | whoami => exact ⟨fun _ => trivial, fun _ _ h => absurd h List.not_mem_nil⟩
  | unbind => exact ⟨fun _ => trivial, fun _ _ h => absurd h List.not_mem_nil⟩

end Operation

/-! ## Members that come once -/

/-- A member that may come once, after one that may have come before. -/
def TakenOnce {α : Type} (P : Value → α → Prop) (before : Option α) (vs : List Value)
    (after : Option α) : Prop :=
  vs = [] ∧ after = before ∨ before = none ∧ ∃ v a, vs = [v] ∧ P v a ∧ after = some a

section

variable {α : Type} {P : Value → α → Prop}

theorem takenOnce_nil {before after : Option α} : TakenOnce P before [] after ↔ after = before := by
  simp [TakenOnce]

theorem takenOnce_cons {before after : Option α} {v : Value} {vs : List Value} :
    TakenOnce P before (v :: vs) after ↔
      before = none ∧ ∃ a, P v a ∧ TakenOnce P (some a) vs after := by
  simp only [TakenOnce, reduceCtorEq, false_and, false_or, or_false, List.cons.injEq]
  grind

theorem takenOnce_some {vs : List Value} {a : α} :
    TakenOnce P none vs (some a) ↔ ∃ v, vs = [v] ∧ P v a := by
  simp only [TakenOnce, reduceCtorEq, and_false, false_or, true_and, Option.some.injEq]
  grind

theorem takenOnce_none {vs : List Value} : TakenOnce P none vs none ↔ vs = [] := by
  simp [TakenOnce]

end

namespace Operation

/-! ## The kind of an operation -/

theorem splitTag_eq_ok {readKind : Value → Reading OperationKind} {ms rest : Members}
    {kind kind' : Option OperationKind} :
    splitTag readKind kind ms = .ok (kind', rest) ↔
      TakenOnce (fun v k => readKind v = .ok k) kind (ms.valuesOf tagKey) kind' ∧
        rest = ms.filter fun m => decide (m.1 ≠ tagKey) := by
  induction ms generalizing kind rest with
  | nil => simp [splitTag, takenOnce_nil, eq_comm]
  | cons m ms ih =>
      obtain ⟨k, v⟩ := m
      rw [Members.valuesOf_cons]
      unfold splitTag
      split
      · next hk =>
        rw [takenOnce_cons]
        have hrest : ((k, v) :: ms).filter (fun m => decide (m.1 ≠ tagKey)) =
            ms.filter fun m => decide (m.1 ≠ tagKey) := by
          simp [hk]
        rw [hrest]
        cases kind with
        | some k' => simp
        | none =>
            simp only [bind_eq_ok, ih, true_and]
            grind
      · next hk =>
        have hrest : ((k, v) :: ms).filter (fun m => decide (m.1 ≠ tagKey)) =
            (k, v) :: ms.filter fun m => decide (m.1 ≠ tagKey) := by
          simp [hk]
        rw [hrest]
        simp only [bind_eq_ok, Prod.exists, pure_eq_ok, Prod.mk.injEq]
        grind

theorem ofName_eq_ok {s : String} {k : OperationKind} :
    OperationKind.ofName s = .ok k ↔ s = k.name := by
  have injective : ∀ k k' : OperationKind, k.name = k'.name → k = k' := by
    intro k k' h
    cases k <;> cases k' <;> first | rfl | exact absurd h (by decide)
  have complete : ∀ k : OperationKind, k ∈ OperationKind.all := by
    intro k
    cases k <;> decide
  unfold OperationKind.ofName
  split
  · next k' hfind =>
    have hname : k'.name = s := by simpa using List.find?_some hfind
    rw [← hname, Except.ok.injEq]
    exact ⟨fun h => h ▸ rfl, fun h => injective _ _ h⟩
  · next hfind =>
    refine ⟨nofun, fun h => ?_⟩
    simpa [h] using List.find?_eq_none.1 hfind k (complete k)

/-- A value is read as the kind that it names, folded or not. -/
theorem readTag_eq_ok {v : Value} {k : OperationKind} :
    OperationKind.readTag v.folded = .ok k ↔ k.NamedBy v := by
  have named : ∀ {v : Value}, (∀ s, v ≠ .string s) → (∀ i : Nat, v ≠ .ofNat i) → ¬ k.NamedBy v := by
    intro v hstring hindex h
    rcases h with h | ⟨i, h, -⟩
    · exact hstring _ h
    · exact hindex _ h
  cases v with
  | string s =>
      show OperationKind.ofName s = .ok k ↔ _
      rw [ofName_eq_ok]
      simp [OperationKind.NamedBy, Value.ofNat]
  | number n =>
      rcases n with (i | i) | x
      · have hnamed : k.NamedBy (.number (.integer (.ofNat i))) ↔
            OperationKind.all[i]? = some k := by
          simp only [OperationKind.NamedBy, Value.ofNat]
          grind
        rw [Value.folded, OperationKind.readTag, hnamed]
        · cases OperationKind.all[i]? <;> simp
        · exact nofun
        · exact nofun
      · exact ⟨nofun, fun h => absurd h (named nofun nofun)⟩
      · exact ⟨nofun, fun h => absurd h (named nofun nofun)⟩
  | null => exact ⟨nofun, fun h => absurd h (named nofun nofun)⟩
  | bool b => exact ⟨nofun, fun h => absurd h (named nofun nofun)⟩
  | array items => exact ⟨nofun, fun h => absurd h (named nofun nofun)⟩
  | object ms => exact ⟨nofun, fun h => absurd h (named nofun nofun)⟩

/-- The members name the kind of the operation once, and give its fields. -/
def SaidBy (ms : Members) (op : Operation) : Prop :=
  (∃ v, ms.valuesOf "op" = [v] ∧ op.kind.NamedBy v) ∧ op.GivenBy ms

/-- The same scalar stands alone under a key, or nothing does. -/
def SameScalars (vs vs' : List Value) : Prop :=
  (vs = [] ↔ vs' = []) ∧ ∀ s : Scalar, vs = [s.toValue] ↔ vs' = [s.toValue]

theorem sameScalars_of_eq {vs vs' : List Value} (h : vs = vs') : SameScalars vs vs' := by
  rw [h]
  exact ⟨Iff.rfl, fun _ => Iff.rfl⟩

theorem sameScalars_folded (vs : List Value) : SameScalars (vs.map Value.folded) vs := by
  refine ⟨List.map_eq_nil_iff, fun s => ?_⟩
  simp only [List.map_eq_singleton_iff, folded_eq_toValue, exists_eq_right]

theorem SameScalars.textGiven {vs vs' : List Value} (h : SameScalars vs vs') (s : String) :
    TextGiven vs s ↔ TextGiven vs' s :=
  or_congr (h.2 (.string s)) (and_congr_left fun _ => h.1)

/-- The fields of an operation are scalars, so that folding does not matter to them. -/
theorem givenBy_congr {ms ms' : Members} {op : Operation}
    (h : ∀ key ∈ op.kind.fields.map Prod.fst, SameScalars (ms.valuesOf key) (ms'.valuesOf key)) :
    op.GivenBy ms ↔ op.GivenBy ms' := by
  cases op with
  | bind dn password =>
      exact and_congr ((h "dn" (List.mem_pair.2 (.inl rfl))).textGiven dn)
        ((h "password" (List.mem_pair.2 (.inr rfl))).textGiven password)
  | search base filter =>
      have hfilter := h "filter" (List.mem_pair.2 (.inr rfl))
      refine and_congr ((h "base" (List.mem_pair.2 (.inl rfl))).textGiven base) ?_
      cases filter with
      | none => exact or_congr (hfilter.2 .null) hfilter.1
      | some f => exact hfilter.2 (.string f)
  | abandon target =>
      exact (h "target" (List.mem_singleton.2 rfl)).2 (.number (.integer target.toInt))
  | whoami => exact Iff.rfl
  | unbind => exact Iff.rfl

theorem field_keys {k : OperationKind} {key : String} (h : key ∈ k.fields.map Prod.fst) :
    key ≠ "id" ∧ key ≠ "controls" ∧ key ≠ tagKey := by
  revert key
  cases k <;> decide

theorem ofMembers_eq_ok (ms : Members) (op : Operation) :
    ofMembers OperationKind.readTag (Value.foldedMembers ms) = .ok op ↔ op.SaidBy ms := by
  have hrest : ∀ key ∈ op.kind.fields.map Prod.fst, SameScalars
      (Members.valuesOf ((Value.foldedMembers ms).filter fun m => decide (m.1 ≠ tagKey)) key)
      (ms.valuesOf key) := by
    intro key hkey
    have hne := (field_keys hkey).2.2
    rw [Members.valuesOf_filter (p := fun k => decide (k ≠ tagKey)) (by simp [hne]),
      Members.valuesOf_foldedMembers]
    exact sameScalars_folded _
  have hkind : ∀ k, TakenOnce (fun v k => OperationKind.readTag v = .ok k) none
      ((Value.foldedMembers ms).valuesOf tagKey) (some k) ↔
        ∃ v, ms.valuesOf "op" = [v] ∧ k.NamedBy v := by
    intro k
    rw [takenOnce_some, Members.valuesOf_foldedMembers]
    constructor
    · rintro ⟨w, hw, hread⟩
      obtain ⟨v, hv, rfl⟩ := List.map_eq_singleton_iff.1 hw
      exact ⟨v, hv, readTag_eq_ok.1 hread⟩
    · rintro ⟨v, hv, hnamed⟩
      exact ⟨v.folded, List.map_eq_singleton_iff.2 ⟨v, hv, rfl⟩, readTag_eq_ok.2 hnamed⟩
  unfold ofMembers SaidBy
  rw [bind_eq_ok]
  constructor
  · rintro ⟨⟨kind, rest⟩, hsplit, hop⟩
    obtain ⟨htaken, rfl⟩ := splitTag_eq_ok.1 hsplit
    cases kind with
    | none => cases hop
    | some k =>
        obtain ⟨rfl, hfields⟩ := (readMembers_eq_ok k _ op).1 (mapError_eq_ok.1 hop)
        exact ⟨(hkind _).1 htaken, (givenBy_congr hrest).1 hfields⟩
  · rintro ⟨hnamed, hfields⟩
    refine ⟨(some op.kind, _), splitTag_eq_ok.2 ⟨(hkind _).2 hnamed, rfl⟩, ?_⟩
    exact mapError_eq_ok.2 ((readMembers_eq_ok _ _ op).2 ⟨rfl, (givenBy_congr hrest).2 hfields⟩)

end Operation

/-! ## Reading a request line -/

theorem placeless_readByte : Placeless Control.readByte := (placeless_readInteger _).map _

theorem placeless_control : Placeless Control.ofNode := by
  refine placeless_readRecord (fun c field => ?_) _
  unfold Control.put
  split
  · exact placeless_readString.bind
  · exact placeless_readBool.bind
  · exact placeless_readByte.readList.readOptional.bind
  · exact placeless_pure c

theorem readList_eq_ok {α : Type} {read : Node → Reading α} (hread : Placeless read) {n : Node}
    {v : Value} (hn : n.Spells v) (as : List α) :
    n.readList read = .ok as ↔
      ∃ vs, v = .array vs ∧ List.Forall₂ (fun v a => readFrom v read = .ok a) vs as := by
  have items : ∀ vs as, readItems read .whole (Value.toNodes vs) = .ok as ↔
      List.Forall₂ (fun v a => readFrom v read = .ok a) vs as := by
    intro vs
    induction vs with
    | nil =>
        intro as
        simp only [Value.toNodes, readItems, bind_eq_ok, Ending.finish_eq_ok, Ending.whole_whole,
          pure_eq_ok, List.forall₂_nil_left_iff, exists_const, true_and]
        exact eq_comm
    | cons v vs ih =>
        intro as
        simp only [Value.toNodes, readItems, bind_eq_ok, pure_eq_ok, ih, List.forall₂_cons_left_iff,
          readFrom, mapError_eq_ok]
        grind
  rw [hread.readList.read_eq_ok hn]
  cases v with
  | array vs =>
      refine (items vs as).trans ⟨fun h => ⟨vs, rfl, h⟩, ?_⟩
      rintro ⟨_, heq, h⟩
      cases heq
      exact h
  | _ =>
      constructor
      · intro h
        cases h
      · rintro ⟨_, heq, -⟩
        cases heq

namespace Request

/-- The list of controls that a value is. -/
def IsControls (v : Value) (cs : List Control) : Prop :=
  ∃ vs, v = .array vs ∧ List.Forall₂ (fun v c => readFrom v Control.ofNode = .ok c) vs cs

section

variable {site : KeySite} {n : Node} {k : String} {v : Value} (hk : site.2.1.Spells (.string k))
  (hn : n.Spells v)
include hk hn

theorem add_id (h : k = "id") (d d' : Draft) :
    d.add site n = .ok d' ↔
      d.id = none ∧ ∃ id : RequestId, v = id.toJson ∧ { d with id := some id } = d' := by
  subst h
  simp only [Draft.add, hk.readString, bind_eq_ok, Except.ok.injEq, exists_eq_left', if_true]
  cases d.id <;> simp [RequestId.ofNode_eq_ok hn]

theorem add_controls (h : k = "controls") (d d' : Draft) :
    d.add site n = .ok d' ↔
      d.controls = none ∧ ∃ cs, IsControls v cs ∧ { d with controls := some cs } = d' := by
  subst h
  have hne : "controls" ≠ "id" := by decide
  simp only [Draft.add, hk.readString, bind_eq_ok, Except.ok.injEq, exists_eq_left', if_true, hne,
    if_false]
  cases d.controls <;> simp [readList_eq_ok placeless_control hn, IsControls]

theorem add_other (hid : k ≠ "id") (hcontrols : k ≠ "controls") (hfits : FitsAt 1 v.depth)
    (d d' : Draft) :
    d.add site n = .ok d' ↔ { d with kept := (k, v.folded) :: d.kept } = d' := by
  simp [Draft.add, hk.readString, hid, hcontrols, hn.readValue_eq_ok, hfits]

end

def kept (ms : Members) : Members := ms.filter fun m => decide (m.1 ≠ "id" ∧ m.1 ≠ "controls")

theorem addAll_eq_ok {ns : List (KeySite × Node)} {ms : Members}
    (hs : Node.SpellsMembers ns ms) (hfits : FitsAt 1 (Value.depthMembers ms)) (d d' : Draft) :
    d.addAll ns = .ok d' ↔
      TakenOnce (fun v id => v = id.toJson) d.id (ms.valuesOf "id") d'.id ∧
        TakenOnce IsControls d.controls (ms.valuesOf "controls") d'.controls ∧
        d'.kept = (Value.foldedMembers (kept ms)).reverse ++ d.kept := by
  induction ns generalizing ms d with
  | nil =>
      cases hs
      simp only [Draft.addAll, Members.valuesOf_nil, takenOnce_nil, Except.ok.injEq]
      constructor
      · rintro rfl
        exact ⟨rfl, rfl, rfl⟩
      · rintro ⟨hid, hcontrols, hkept⟩
        cases d
        cases d'
        simp_all [kept, Value.foldedMembers]
  | cons m ns ih =>
      obtain ⟨site, n⟩ := m
      cases hs with
      | @cons _ _ k v _ ms hk hn hns =>
      obtain ⟨hv, hms⟩ := fitsAt_max.1 hfits
      simp only [Draft.addAll, bind_eq_ok, ih hns hms, Members.valuesOf_cons]
      by_cases hid : k = "id"
      · have hkept : kept ((k, v) :: ms) = kept ms := by simp [kept, hid]
        have hcontrols : k ≠ "controls" := by rw [hid]; decide
        simp only [add_id hk hn hid, hkept, if_pos hid, if_neg hcontrols, takenOnce_cons]
        grind
      · by_cases hcontrols : k = "controls"
        · have hkept : kept ((k, v) :: ms) = kept ms := by simp [kept, hcontrols]
          simp only [add_controls hk hn hcontrols, hkept, if_neg hid, if_pos hcontrols,
            takenOnce_cons]
          grind
        · have hkept : Value.foldedMembers (kept ((k, v) :: ms)) =
              (k, v.folded) :: Value.foldedMembers (kept ms) := by
            simp [kept, hid, hcontrols, Value.foldedMembers]
          simp only [add_other hk hn hid hcontrols hv, hkept, if_neg hid, if_neg hcontrols,
            exists_eq_left', List.reverse_cons, List.append_assoc, List.singleton_append]

theorem finish_eq_ok {d : Draft} {q : Request} :
    d.finish = .ok q ↔ d.id = some q.id ∧
      Operation.ofMembers OperationKind.readTag d.kept.reverse = .ok q.operation ∧
        d.controls.getD [] = q.controls := by
  unfold Draft.finish
  cases hid : d.id with
  | none => simp
  | some id =>
      simp only [bind_eq_ok, pure_eq_ok]
      cases q
      simp
      grind

/-- The members that belong to the operation say all that is said of it. -/
theorem saidBy_kept {ms : Members} {op : Operation} : op.SaidBy (kept ms) ↔ op.SaidBy ms := by
  have hvalues : ∀ {key}, key ≠ "id" ∧ key ≠ "controls" →
      (kept ms).valuesOf key = ms.valuesOf key := by
    intro key hkey
    exact Members.valuesOf_filter (p := fun k => decide (k ≠ "id" ∧ k ≠ "controls"))
      (decide_eq_true hkey)
  unfold Operation.SaidBy
  rw [hvalues ⟨by decide, by decide⟩]
  refine and_congr_right fun _ => Operation.givenBy_congr fun key hkey => ?_
  obtain ⟨hid, hcontrols, -⟩ := Operation.field_keys hkey
  exact Operation.sameScalars_of_eq (hvalues ⟨hid, hcontrols⟩)

theorem takenOnce_controls {vs : List Value} {cs : List Control} :
    (∃ taken, TakenOnce IsControls none vs taken ∧ taken.getD [] = cs) ↔
      (∃ us, vs = [.array us] ∧
        List.Forall₂ (fun v c => readFrom v Control.ofNode = .ok c) us cs) ∨
      vs = [] ∧ cs = [] := by
  constructor
  · rintro ⟨taken, htaken, rfl⟩
    cases taken with
    | none => exact .inr ⟨takenOnce_none.1 htaken, rfl⟩
    | some cs =>
        obtain ⟨v, rfl, us, rfl, hcs⟩ := takenOnce_some.1 htaken
        exact .inl ⟨us, rfl, hcs⟩
  · rintro (⟨us, rfl, hcs⟩ | ⟨rfl, rfl⟩)
    · exact ⟨some cs, takenOnce_some.2 ⟨_, rfl, us, rfl, hcs⟩, rfl⟩
    · exact ⟨none, takenOnce_none.2 rfl, rfl⟩

/-- A request is read from an object exactly if its members say it. -/
theorem ofNode_eq_ok {n : Node} {ms : Members} (hn : n.Spells (.object ms))
    (hfits : FitsAt 1 (Value.depthMembers ms)) (q : Request) :
    ofNode n = .ok q ↔ q.SaidBy ms := by
  obtain ⟨start, members, e, rfl, hs, he⟩ := hn.eq_object
  simp only [ofNode, bind_eq_ok, addAll_eq_ok hs hfits, Ending.finish_eq_ok, he, mapError_eq_ok,
    finish_eq_ok]
  constructor
  · rintro ⟨d, ⟨hid, hcontrols, hkept⟩, -, -, hdid, hread, hdcontrols⟩
    rw [hdid] at hid
    obtain ⟨v, hv, rfl⟩ := takenOnce_some.1 hid
    have hfolded : d.kept.reverse = Value.foldedMembers (kept ms) := by simp [hkept, Draft.empty]
    rw [hfolded, Operation.ofMembers_eq_ok, saidBy_kept] at hread
    exact ⟨hv, takenOnce_controls.1 ⟨_, hcontrols, hdcontrols⟩, hread.1, hread.2⟩
  · intro hq
    obtain ⟨taken, hcontrols, hdcontrols⟩ := takenOnce_controls.2 hq.controls
    refine ⟨⟨some q.id, taken, (Value.foldedMembers (kept ms)).reverse⟩,
      ⟨takenOnce_some.2 ⟨_, hq.id, rfl⟩, hcontrols, (List.append_nil _).symm⟩, (), trivial, rfl, ?_,
      hdcontrols⟩
    rw [List.reverse_reverse, Operation.ofMembers_eq_ok, saidBy_kept]
    exact ⟨hq.kind, hq.fields⟩

theorem SaidBy.perm {ms ms' : Members} {q : Request} (h : q.SaidBy ms) (hp : ms.Perm ms') :
    q.SaidBy ms' := by
  have single : ∀ {key v}, ms.valuesOf key = [v] → ms'.valuesOf key = [v] := fun hv =>
    (Members.valuesOf_eq_of_perm hp (by simp [hv])).trans hv
  have none : ∀ {key}, ms.valuesOf key = [] → ms'.valuesOf key = [] := fun hv =>
    (Members.valuesOf_eq_of_perm hp (by simp [hv])).trans hv
  have text : ∀ {key s}, TextGiven (ms.valuesOf key) s → TextGiven (ms'.valuesOf key) s := by
    rintro key s (hv | ⟨hv, hs⟩)
    · exact .inl (single hv)
    · exact .inr ⟨none hv, hs⟩
  obtain ⟨id, op, cs⟩ := q
  refine ⟨single h.id, ?_, ?_, ?_⟩
  · rcases h.controls with ⟨vs, hvs, hcs⟩ | ⟨hvs, hcs⟩
    · exact .inl ⟨vs, single hvs, hcs⟩
    · exact .inr ⟨none hvs, hcs⟩
  · obtain ⟨v, hv, hnamed⟩ := h.kind
    exact ⟨v, single hv, hnamed⟩
  · have hfields := h.fields
    cases op with
    | bind dn password => exact ⟨text hfields.1, text hfields.2⟩
    | search base filter =>
        refine ⟨text hfields.1, ?_⟩
        cases filter with
        | none => exact hfields.2.imp single none
        | some f => exact single hfields.2
    | abandon target => exact single hfields
    | whoami => trivial
    | unbind => trivial

theorem ofLine_eq_ok {line : String} {ms : Members} (h : HoldsObject line ms) (q : Request) :
    ofLine line = .ok q ↔ q.SaidBy ms := by
  rw [ofLine, readText_eq_ok, ofNode_eq_ok h.spells h.fits]
  exact and_iff_left h.extra

/-- A line that holds an object is read as a request exactly if the members of the
object say it; and any line that holds the same members in another order is read as
the same request, or is no request either. -/
theorem ofLine_iff_saidBy {line : String} {ms : Members} (h : HoldsObject line ms) :
    (∀ q, ofLine line = .ok q ↔ q.SaidBy ms) ∧
      ∀ line' ms', HoldsObject line' ms' → ms'.Perm ms →
        ∀ q, ofLine line' = .ok q ↔ ofLine line = .ok q := by
  refine ⟨ofLine_eq_ok h, fun line' ms' h' hp q => ?_⟩
  rw [ofLine_eq_ok h, ofLine_eq_ok h']
  exact ⟨fun hq => hq.perm hp, fun hq => hq.perm hp.symm⟩

/-- The members of a search, among others: some repeat, and one has the key of a
field of another operation. -/
def searchMembers : Members :=
  [("base", .string "ou=a"), ("x", .array [.null]), ("id", .ofInt 7), ("dn", .ofInt 1),
    ("op", .string "search"), ("x", .bool true)]

/-- A search is read from these members in one order and in the other. -/
theorem search_read_in_either_order :
    HoldsObject (Value.object searchMembers).text searchMembers ∧
      HoldsObject (Value.object searchMembers.reverse).text searchMembers.reverse ∧
      ofLine (Value.object searchMembers).text = .ok ⟨.ofInt 7, .search "ou=a" none, []⟩ ∧
      ofLine (Value.object searchMembers.reverse).text =
        .ok ⟨.ofInt 7, .search "ou=a" none, []⟩ := by
  have hexact : Value.ExactMembers searchMembers := by
    simp [searchMembers, Value.ExactMembers, Value.ExactItems, Value.Exact, Value.ofInt,
      Number.Exact]
  have hexact' : Value.ExactMembers searchMembers.reverse :=
    exactMembers_iff.2 fun m hm => exactMembers_iff.1 hexact m (List.mem_reverse.1 hm)
  have hholds := holdsObject_text hexact (.inr (by decide))
  have hholds' := holdsObject_text hexact' (.inr (by decide))
  have hsaid : SaidBy searchMembers ⟨.ofInt 7, .search "ou=a" none, []⟩ :=
    ⟨rfl, .inr ⟨rfl, rfl⟩, ⟨_, rfl, .inl rfl⟩, .inl rfl, .inr rfl⟩
  have hread := (ofLine_iff_saidBy hholds).1 _ |>.2 hsaid
  exact ⟨hholds, hholds', hread,
    ((ofLine_iff_saidBy hholds).2 _ _ hholds' (List.reverse_perm _) _).2 hread⟩

end Request

end DirectorySessions
