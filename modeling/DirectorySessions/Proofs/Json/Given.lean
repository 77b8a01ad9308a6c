/-
# What the fields of a record are given

A tree may hold all sorts of things that nobody reads, even some that nobody could
read.  What matters to a record are the nodes that its fields are given: those
under their keys, or in their places where the record is written as a list
(`Node.given`).  If the record is read, no field is given two, and each was stored
from the one that it was given (`readRecord_field`).

This holds whatever else is in the tree, flawed scalars included, since it is
about the tree and not about a value that the tree would spell.  So it can be said
of every text that is read what its parts were given, and that a text which gives
a part anything else is refused.
-/
import DirectorySessions.Proofs.Json.Written
import Mathlib.Data.List.Forall2

namespace DirectorySessions.Json

/-- Members by their keys, as far as these can be read. -/
def keyed : List (KeySite × Node) → List (String × Node)
  | [] => []
  | (site, n) :: members => match Node.readString (.scalar site.2.1) with
    | .ok key => (key, n) :: keyed members
    | .error _ => keyed members

/-- What a tree gives to the fields of a record: members go by their keys, the items of a
list by their places. -/
def Node.given (n : Node) (shape : Shape) : List (String × Node) :=
  match n with
  | .scalar _ => []
  | .array _ items _ => (shape.fields.map Prod.fst).zip items
  | .object _ members _ => keyed members

/-- Those of the nodes that go by one key. -/
def under (field : String) (ms : List (String × Node)) : List Node :=
  (ms.filter fun m => m.1 = field).map Prod.snd

def Node.items : Node → List Node
  | .array _ items _ => items
  | _ => []

theorem under_cons (field k : String) (n : Node) (ms : List (String × Node)) :
    under field ((k, n) :: ms) = if k = field then n :: under field ms else under field ms := by
  unfold under
  by_cases h : k = field <;> simp [h]

theorem under_eq_nil {field : String} {ms : List (String × Node)}
    (h : field ∉ ms.map Prod.fst) : under field ms = [] := by
  simp only [under, List.map_eq_nil_iff, List.filter_eq_nil_iff, decide_eq_true_eq]
  rintro m hm rfl
  exact h (List.mem_map_of_mem hm)

theorem under_filter {field : String} {p : String → Bool} (h : p field = true)
    (ms : List (String × Node)) : under field (ms.filter fun m => p m.1) = under field ms := by
  induction ms with
  | nil => rfl
  | cons m ms ih =>
      obtain ⟨k, n⟩ := m
      by_cases hp : p k = true
      · simp [hp, under_cons, ih]
      · have hne : k ≠ field := fun he => hp (he ▸ h)
        simp [hp, under_cons, ih, hne]

section

variable {σ : Type} {shape : Shape} {put : σ → String → Node → Reading σ} {s a : σ}

/-- Of the members of an object those that go to a field are stored, one after the
other, and no field comes twice. -/
theorem readMembers_stores {e : Ending} {seen : List String} {members : List (KeySite × Node)}
    (h : readMembers shape put e s seen members = .ok a) :
    (((keyed members).filter fun m => shape.has m.1).map Prod.fst).Nodup ∧
      (∀ k ∈ ((keyed members).filter fun m => shape.has m.1).map Prod.fst, k ∉ seen) ∧
      ((keyed members).filter fun m => shape.has m.1).foldlM (fun s m => put s m.1 m.2) s =
        .ok a := by
  induction members generalizing s seen with
  | nil =>
      simp only [readMembers, bind_eq_ok] at h
      obtain ⟨_, -, h⟩ := h
      split at h
      · cases h
      · exact ⟨List.nodup_nil, fun _ hin => absurd hin List.not_mem_nil, h⟩
  | cons m members ih =>
      obtain ⟨site, n⟩ := m
      simp only [readMembers, bind_eq_ok] at h
      obtain ⟨key, hkey, h⟩ := h
      simp only [keyed, hkey]
      split at h
      · next hhas =>
        split at h
        · cases h
        · next hseen =>
          obtain ⟨s₁, hput, hrest⟩ := bind_eq_ok.1 h
          obtain ⟨hnodup, hfresh, hfold⟩ := ih hrest
          have hkey : key ∉ seen := by simpa using hseen
          simp only [List.filter_cons, hhas, if_true, List.map_cons, List.foldlM_cons]
          refine ⟨List.nodup_cons.2 ⟨fun hin => hfresh key hin List.mem_cons_self, hnodup⟩,
            List.forall_mem_cons.2 ⟨hkey, fun k hk hin => hfresh k hk (List.mem_cons_of_mem _ hin)⟩,
            bind_eq_ok.2 ⟨s₁, hput, hfold⟩⟩
      · next hhas =>
        simp only [List.filter_cons, if_neg hhas]
        split at h
        · cases h
        · exact ih h

theorem readFields_stores {e : Ending} {count index : Nat} {fs : List (String × Bool)}
    {items : List Node} (h : readFields shape put e count s index fs items = .ok a) :
    ((fs.map Prod.fst).zip items).foldlM (fun s m => put s m.1 m.2) s = .ok a := by
  induction fs generalizing s index items with
  | nil =>
      obtain ⟨_, -, h⟩ := bind_eq_ok.1 h
      exact h
  | cons f fs ih =>
      cases items with
      | nil =>
          obtain ⟨_, -, h⟩ := bind_eq_ok.1 h
          split at h
          · cases h
          · have hrest := ih h
            rw [List.zip_nil_right] at hrest
            exact hrest
      | cons n items =>
          obtain ⟨s₁, hput, hrest⟩ := bind_eq_ok.1 h
          exact bind_eq_ok.2 ⟨s₁, hput, ih hrest⟩

theorem zip_keys (keys : List String) (items : List Node) :
    ((keys.zip items).map Prod.fst).Sublist keys := by
  induction keys generalizing items with
  | nil => exact .slnil
  | cons key keys ih =>
      cases items with
      | nil => exact List.nil_sublist _
      | cons n items => exact (ih items).cons_cons key

/-- What a record is given is stored, one after the other, and no field is given two. -/
theorem readRecord_stores {n : Node} (hfields : (shape.fields.map Prod.fst).Nodup)
    (h : n.readRecord shape s put = .ok a) :
    (((n.given shape).filter fun m => shape.has m.1).map Prod.fst).Nodup ∧
      ((n.given shape).filter fun m => shape.has m.1).foldlM (fun s m => put s m.1 m.2) s =
        .ok a := by
  cases n with
  | scalar t => cases h
  | object start members e =>
      obtain ⟨hnodup, -, hfold⟩ := readMembers_stores h
      exact ⟨hnodup, hfold⟩
  | array start items e =>
      have hall : ((shape.fields.map Prod.fst).zip items).filter (fun m => shape.has m.1) =
          (shape.fields.map Prod.fst).zip items := by
        refine List.filter_eq_self.2 fun m hm => ?_
        obtain ⟨f, hf, hkey⟩ := List.mem_map.1 (List.of_mem_zip hm).1
        exact List.any_eq_true.2 ⟨f, hf, decide_eq_true hkey⟩
      simp only [Node.given, hall]
      exact ⟨hfields.sublist (zip_keys _ _), readFields_stores h⟩

variable {β : Type} (get : σ → β) (read : Node → Reading β) {field : String}

/-- Of a field that only its own key stores, one node is given and it holds what is read
from that, or none is given and it is as it was. -/
theorem field_of_foldlM (hput : ∀ {s n s'}, put s field n = .ok s' → read n = .ok (get s'))
    (hothers : ∀ {s k n s'}, k ≠ field → put s k n = .ok s' → get s' = get s)
    {ms : List (String × Node)} (hnodup : (ms.map Prod.fst).Nodup)
    (h : ms.foldlM (fun s m => put s m.1 m.2) s = .ok a) :
    under field ms = [] ∧ get a = get s ∨
      ∃ n, under field ms = [n] ∧ read n = .ok (get a) := by
  induction ms generalizing s with
  | nil =>
      cases h
      exact .inl ⟨rfl, rfl⟩
  | cons m ms ih =>
      obtain ⟨k, n⟩ := m
      rw [List.foldlM_cons] at h
      obtain ⟨s₁, hstore, hrest⟩ := bind_eq_ok.1 h
      obtain ⟨hk, hnodup⟩ := List.nodup_cons.1 hnodup
      rw [under_cons]
      by_cases he : k = field
      · subst he
        rw [if_pos rfl]
        rcases ih hnodup hrest with ⟨hnone, hget⟩ | ⟨n', hsome, -⟩
        · refine .inr ⟨n, by rw [hnone], ?_⟩
          rw [hget]
          exact hput hstore
        · rw [under_eq_nil hk] at hsome
          cases hsome
      · rw [if_neg he, ← hothers he hstore]
        exact ih hnodup hrest

/-- If a record is read, a field that only its own key stores is given one node, and holds
what was read from that, or it is given none and is as it was. -/
theorem readRecord_field {n : Node}
    (hput : ∀ {s n s'}, put s field n = .ok s' → read n = .ok (get s'))
    (hothers : ∀ {s k n s'}, k ≠ field → put s k n = .ok s' → get s' = get s)
    (hfields : (shape.fields.map Prod.fst).Nodup) (hfield : shape.has field = true)
    (h : n.readRecord shape s put = .ok a) :
    under field (n.given shape) = [] ∧ get a = get s ∨
      ∃ m, under field (n.given shape) = [m] ∧ read m = .ok (get a) := by
  obtain ⟨hnodup, hfold⟩ := readRecord_stores hfields h
  have hunder := field_of_foldlM get read hput hothers hnodup hfold
  rw [under_filter (p := shape.has) hfield] at hunder
  exact hunder

end

/-! ## What is read from lists and numbers -/

theorem readItems_each {α : Type} {read : Node → Reading α} {e : Ending} {ns : List Node}
    {as : List α} (h : readItems read e ns = .ok as) :
    List.Forall₂ (fun m a => read m = .ok a) ns as := by
  induction ns generalizing as with
  | nil =>
      obtain ⟨_, -, h⟩ := bind_eq_ok.1 h
      cases h
      exact .nil
  | cons n ns ih =>
      obtain ⟨a, ha, h⟩ := bind_eq_ok.1 h
      obtain ⟨as, has, h⟩ := bind_eq_ok.1 h
      cases h
      exact .cons ha (ih has)

theorem readList_each {α : Type} {read : Node → Reading α} {n : Node} {as : List α}
    (h : n.readList read = .ok as) : List.Forall₂ (fun m a => read m = .ok a) n.items as := by
  cases n with
  | array start ns e => exact readItems_each h
  | _ => cases h

def Node.integer? (n : Node) : Option Int :=
  match n with
  | .scalar ⟨_, _, .ok (.number (.integer i)), _⟩ => some i
  | _ => none

/-- A number of a type is read from a node that is that number, if the type has it, and
from nothing else. -/
theorem Node.readInteger_iff {n : Node} {k : IntegerKind} {i : Int} :
    n.readInteger k = .ok i ↔ n.integer? = some i ∧ k.least ≤ i ∧ i ≤ k.greatest := by
  constructor
  · intro h
    unfold Node.readInteger at h
    split at h
    · split at h
      · next hsize =>
        cases h
        exact ⟨rfl, hsize⟩
      · cases h
    · cases h
  · rintro ⟨hn, hsize⟩
    unfold Node.integer? at hn
    split at hn
    · cases hn
      simp only [Node.readInteger, if_pos hsize]
    · cases hn

end DirectorySessions.Json
