/-
# What a record is read from

Only the members whose keys are fields of the record matter.  Of these each key
may come once, and reading is storing one after the other
(`readMembers_eq_ok_iff`).  Where each field keeps the value that it was given,
apart from the others (`Stores`), the order does not matter either: a record is
read exactly if every field has the one value that stands under its key, or none
does and it is as it was before (`Stores.readMembers_eq_ok`).

The argument has two halves.  Members whose keys are no fields are skipped, each
of them, and change nothing; so reading the members is reading the known ones.
On those it goes by induction with the record that has been read so far in
general position, since each member is stored in what the members before it have
left.  `FieldRead` says of a single field what it comes to, and so does not mind
in which order the members came.
-/
import DirectorySessions.Proofs.Json.Keys
import DirectorySessions.Proofs.Json.Written

namespace DirectorySessions.Json

/-! ## Folded members -/

theorem Members.valuesOf_foldedMembers (ms : Members) (key : String) :
    (Value.foldedMembers ms).valuesOf key = (ms.valuesOf key).map Value.folded := by
  induction ms with
  | nil => rfl
  | cons m ms ih =>
      obtain ⟨k, v⟩ := m
      rw [Value.foldedMembers, Members.valuesOf_cons, Members.valuesOf_cons, ih]
      split <;> rfl

theorem folded_eq_toValue {v : Value} {s : Scalar} : v.folded = s.toValue ↔ v = s.toValue := by
  constructor
  · cases v with
    | array items => cases s <;> exact nofun
    | object ms => cases s <;> exact nofun
    | _ => exact id
  · rintro rfl
    exact s.folded_toValue

/-! ## Known members -/

section

variable {σ : Type} {shape : Shape} {put : σ → String → Node → Reading σ}

/-- The members whose keys are fields of the record. -/
def Shape.known (shape : Shape) (ms : Members) : Members := ms.filter fun m => shape.has m.1

/-- Members of other keys are passed over, without any trace. -/
theorem readMembers_known (s : σ) (seen : List String) (ms : Members) :
    readMembers shape put .whole s seen (Value.toSites (shape.known ms)) =
      readMembers shape put .whole s seen (Value.toSites ms) := by
  have hkey : ∀ k, Node.readString (.scalar (Token.ofScalar (.string k))) = .ok k := fun _ => rfl
  induction ms generalizing s seen with
  | nil => rfl
  | cons m ms ih =>
      obtain ⟨k, v⟩ := m
      by_cases hk : shape.has k = true
      · have hknown : shape.known ((k, v) :: ms) = (k, v) :: shape.known ms := by
          simp [Shape.known, hk]
        simp only [hknown, Value.toSites, readMembers, ih]
      · have hknown : shape.known ((k, v) :: ms) = shape.known ms := by simp [Shape.known, hk]
        rw [hknown, ih, Value.toSites, readMembers, hkey, (Value.toNode_spells v).skip]
        exact (if_neg hk).symm

theorem Shape.get?_known {shape : Shape} {ms : Members} {key : String}
    (h : shape.has key = true) : (shape.known ms).get? key = ms.get? key := by
  induction ms with
  | nil => rfl
  | cons m ms ih =>
      obtain ⟨k, v⟩ := m
      unfold Shape.known at ih ⊢
      rw [Members.get?_cons, List.filter_cons]
      by_cases hk : k = key
      · simp [hk, h, Members.get?_cons]
      · rw [if_neg hk, ← ih]
        split
        · rw [Members.get?_cons, if_neg hk]
        · rfl

theorem Shape.get?_known_of_not {shape : Shape} {ms : Members} {key : String}
    (h : ¬ shape.has key = true) : (shape.known ms).get? key = none :=
  Members.get?_eq_none fun _ hm he => h (he ▸ (List.mem_filter.1 hm).2)

theorem Shape.missing?_eq_none {shape : Shape} {seen : List String} :
    shape.missing? seen = none ↔ ∀ f ∈ shape.fields, f.2 = true → f.1 ∈ seen := by
  simp [Shape.missing?]

theorem readMembers_eq_ok_iff {s a : σ} {seen : List String} {ms : Members} :
    readMembers shape put .whole s seen (Value.toSites ms) = .ok a ↔
      ((shape.known ms).map Prod.fst).Nodup ∧ (∀ k ∈ (shape.known ms).map Prod.fst, k ∉ seen) ∧
        (shape.known ms).foldlM (fun s m => put s m.1 m.2.toNode) s = .ok a ∧
        ∀ f ∈ shape.fields, f.2 = true → f.1 ∈ seen ∨ f.1 ∈ (shape.known ms).map Prod.fst := by
  induction ms generalizing s seen with
  | nil =>
      simp only [readMembers, Value.toSites, bind_eq_ok, Ending.finish_eq_ok, Ending.whole_whole]
      split
      · next f hf =>
        have hmissing := mt Shape.missing?_eq_none.2 (by rw [hf]; exact Option.some_ne_none f)
        simpa [Shape.known] using fun _ => hmissing
      · next hf =>
        simpa [Shape.known] using fun _ => Shape.missing?_eq_none.1 hf
  | cons m ms ih =>
      obtain ⟨k, v⟩ := m
      have hkey : Node.readString (.scalar (Token.ofScalar (.string k))) = .ok k := rfl
      simp only [readMembers, Value.toSites, hkey, (Value.toNode_spells v).skip, bind_eq_ok,
        Except.ok.injEq, exists_eq_left']
      split
      · next hk =>
        have hknown : shape.known ((k, v) :: ms) = (k, v) :: shape.known ms := by
          simp [Shape.known, hk]
        rw [hknown]
        split
        · next hseen =>
          have hmem : k ∈ seen := by simpa using hseen
          simp [hmem]
        · next hseen =>
          have hmem : k ∉ seen := by simpa using hseen
          simp only [bind_eq_ok, ih, List.map_cons, List.nodup_cons, List.foldlM_cons,
            List.mem_cons]
          grind
      · next hk =>
        have hknown : shape.known ((k, v) :: ms) = shape.known ms := by simp [Shape.known, hk]
        rw [hknown]
        exact ih

/-! ## Fields that keep what they are given -/

theorem Shape.has_iff {shape : Shape} {key : String} :
    shape.has key = true ↔ ∃ f ∈ shape.fields, f.1 = key := by
  simp [Shape.has]

/-- Every field of a good record keeps the value that it is given, if that has
the type of the field, and the other fields stay as they are. -/
structure Stores (shape : Shape) (put : σ → String → Node → Reading σ) (Good : σ → Prop)
    (look : σ → String → Value) (HasType : String → Value → Prop) : Prop where
  put_sound : ∀ {s k n v s'}, Good s → shape.has k = true → n.Spells v → put s k n = .ok s' →
    HasType k v ∧ Good s' ∧ look s' k = v ∧
      ∀ k', shape.has k' = true → k' ≠ k → look s' k' = look s k'
  put_total : ∀ {s k n v}, Good s → shape.has k = true → n.Spells v → HasType k v →
    ∃ s', put s k n = .ok s'
  ext : ∀ {s s'}, Good s → Good s' → (∀ k, shape.has k = true → look s k = look s' k) → s = s'

variable {Good : σ → Prop} {look : σ → String → Value} {HasType : String → Value → Prop}

/-- What a field holds in the end: the only value under its key, if there is one and
it was not filled before, and else what it held already. -/
def FieldRead (look : σ → String → Value) (HasType : String → Value → Prop) (s a : σ)
    (seen : List String) (ms : Members) (f : String × Bool) : Prop :=
  (ms.valuesOf f.1 = [] ∧ (f.1 ∈ seen ∨ f.2 = false) ∧ look a f.1 = look s f.1) ∨
    (f.1 ∉ seen ∧ ms.valuesOf f.1 = [look a f.1] ∧ HasType f.1 (look a f.1))

theorem fieldRead_cons_of_ne {s a : σ} {seen : List String} {k : String} {v : Value}
    {ms : Members} {f : String × Bool} (hk : k ≠ f.1) :
    FieldRead look HasType s a seen ((k, v) :: ms) f ↔ FieldRead look HasType s a seen ms f := by
  simp [FieldRead, Members.valuesOf_cons, hk]

theorem fieldRead_cons_self {s a : σ} {seen : List String} {v : Value} {ms : Members}
    {f : String × Bool} :
    FieldRead look HasType s a seen ((f.1, v) :: ms) f ↔
      f.1 ∉ seen ∧ ms.valuesOf f.1 = [] ∧ v = look a f.1 ∧ HasType f.1 v := by
  simp only [FieldRead, Members.valuesOf_cons, if_true, List.cons.injEq, reduceCtorEq, false_and,
    false_or]
  grind

/-- A field that was filled keeps what it holds, and nothing more comes under its key. -/
theorem fieldRead_of_mem {s a : σ} {seen : List String} {ms : Members} {f : String × Bool}
    (hf : f.1 ∈ seen) :
    FieldRead look HasType s a seen ms f ↔ ms.valuesOf f.1 = [] ∧ look a f.1 = look s f.1 := by
  simp [FieldRead, hf]

theorem fieldRead_after {s s₁ a : σ} {seen : List String} {k : String} {ms : Members}
    {f : String × Bool} (hk : f.1 ≠ k) (hlook : look s₁ f.1 = look s f.1) :
    FieldRead look HasType s₁ a (k :: seen) ms f ↔ FieldRead look HasType s a seen ms f := by
  simp [FieldRead, hk, hlook]

theorem Stores.readMembers_eq_ok_seen (h : Stores shape put Good look HasType) {s : σ}
    (hs : Good s) (a : σ) (seen : List String) (ms : Members) :
    readMembers shape put .whole s seen (Value.toSites ms) = .ok a ↔
      Good a ∧ ∀ f ∈ shape.fields, FieldRead look HasType s a seen ms f := by
  induction ms generalizing s seen with
  | nil =>
      simp only [readMembers, Value.toSites, bind_eq_ok, Ending.finish_eq_ok, Ending.whole_whole]
      have hfields : (∀ f ∈ shape.fields, FieldRead look HasType s a seen [] f) ↔
          shape.missing? seen = none ∧ ∀ k, shape.has k = true → look s k = look a k := by
        rw [Shape.missing?_eq_none]
        simp only [FieldRead, Members.valuesOf_nil, Shape.has_iff]
        grind
      rw [hfields]
      split
      · next f hf => simp [hf]
      · next hf =>
        simp only [hf, true_and, pure_eq_ok, exists_const]
        constructor
        · rintro rfl
          exact ⟨hs, fun _ _ => rfl⟩
        · rintro ⟨ha, hlook⟩
          exact h.ext hs ha hlook
  | cons m ms ih =>
      obtain ⟨k, v⟩ := m
      have hkey : Node.readString (.scalar (Token.ofScalar (.string k))) = .ok k := rfl
      simp only [readMembers, Value.toSites, hkey, (Value.toNode_spells v).skip, bind_eq_ok,
        Except.ok.injEq, exists_eq_left']
      split
      · next hk =>
        obtain ⟨f, hf, rfl⟩ := Shape.has_iff.1 hk
        split
        · next hseen =>
          have hmem : f.1 ∈ seen := by simpa using hseen
          constructor
          · intro hfail
            exact absurd hfail mismatchAt_ne_ok
          · rintro ⟨-, hall⟩
            exact absurd hmem (fieldRead_cons_self.1 (hall f hf)).1
        · next hseen =>
          have hmem : f.1 ∉ seen := by simpa using hseen
          rw [bind_eq_ok]
          constructor
          · rintro ⟨s₁, hput, hrest⟩
            obtain ⟨htype, hs₁, hself, hothers⟩ := h.put_sound hs hk (Value.toNode_spells v) hput
            obtain ⟨ha, hall⟩ := (ih hs₁ (f.1 :: seen)).1 hrest
            refine ⟨ha, fun g hg => ?_⟩
            by_cases hgf : g.1 = f.1
            · have hread := (fieldRead_of_mem (by simp [hgf])).1 (hall g hg)
              rw [hgf] at hread
              rw [← hgf, fieldRead_cons_self, hgf]
              exact ⟨hmem, hread.1, by rw [hread.2, hself], htype⟩
            · rw [fieldRead_cons_of_ne (Ne.symm hgf)]
              exact (fieldRead_after hgf (hothers g.1 (Shape.has_iff.2 ⟨g, hg, rfl⟩) hgf)).1
                (hall g hg)
          · rintro ⟨ha, hall⟩
            obtain ⟨-, hnone, hv, htype⟩ := fieldRead_cons_self.1 (hall f hf)
            obtain ⟨s₁, hput⟩ := h.put_total hs hk (Value.toNode_spells v) htype
            obtain ⟨-, hs₁, hself, hothers⟩ := h.put_sound hs hk (Value.toNode_spells v) hput
            refine ⟨s₁, hput, (ih hs₁ (f.1 :: seen)).2 ⟨ha, fun g hg => ?_⟩⟩
            by_cases hgf : g.1 = f.1
            · rw [fieldRead_of_mem (by simp [hgf]), hgf]
              exact ⟨hnone, by rw [hself, hv]⟩
            · have hread := (fieldRead_cons_of_ne (Ne.symm hgf)).1 (hall g hg)
              exact (fieldRead_after hgf (hothers g.1 (Shape.has_iff.2 ⟨g, hg, rfl⟩) hgf)).2 hread
      · next hk =>
        rw [ih hs]
        refine and_congr_right fun _ => forall₂_congr fun f hf => ?_
        have hne : k ≠ f.1 := fun he => hk (Shape.has_iff.2 ⟨f, hf, he.symm⟩)
        exact (fieldRead_cons_of_ne hne).symm

/-- A record is read exactly if every field has the only value under its key, which
is of its type, or there is none, and none need be given. -/
theorem Stores.readMembers_eq_ok (h : Stores shape put Good look HasType) {s : σ} (hs : Good s)
    (a : σ) (ms : Members) :
    readMembers shape put .whole s [] (Value.toSites ms) = .ok a ↔
      Good a ∧ ∀ f ∈ shape.fields,
        (ms.valuesOf f.1 = [] ∧ f.2 = false ∧ look a f.1 = look s f.1) ∨
          (ms.valuesOf f.1 = [look a f.1] ∧ HasType f.1 (look a f.1)) := by
  simp [h.readMembers_eq_ok_seen hs, FieldRead]

end

end DirectorySessions.Json
