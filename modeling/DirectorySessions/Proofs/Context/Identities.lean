/-
# What an identity is read from

An identity is said by its kind and its content (`Identity.SaidBy`): by the items of a
list, or by two members of an object, in either order and among any others.  The kind is
a name, in an object also one over null.  Somebody's content is his name; nobody has
null for content, or, in an object, none.

Content that comes before the kind has to be kept until the kind is known.  This makes
no difference, since content that will do is a scalar, which is never nested too deep.

The reader does not go back: it takes the first of the two members that it meets, goes
on over the others, and needs the second.  So the argument has a part for each of the
two that may come first (`ofMembers_of_kind`, `ofMembers_of_content`), and what is left
of the members after it is again a list of members, of which as much is known.
-/
import DirectorySessions.Context.Json
import DirectorySessions.Proofs.Json.Written
import Mathlib.Data.List.Basic

namespace DirectorySessions.Identity

open Json

def kindName : Identity → String
  | .anonymous => "anonymous"
  | .principal _ => "principal"

def HasContent (i : Identity) (v : Value) : Prop :=
  match i with
  | .anonymous => v = .null
  | .principal name => v = .string name

/-- The members under the two keys that matter. -/
def relevant (ms : Members) : Members := ms.filter fun m => decide (m.1 = "kind" ∨ m.1 = "dn")

/-- The members that matter give the kind of the identity and its content. -/
def GivenBy (ms : Members) (i : Identity) : Prop :=
  ∃ k, (k = .string i.kindName ∨ k = .object [(i.kindName, .null)]) ∧
    (ms = [("kind", k)] ∧ i = .anonymous ∨
      ∃ v, i.HasContent v ∧ (ms = [("kind", k), ("dn", v)] ∨ ms = [("dn", v), ("kind", k)]))

def SaidBy (v : Value) (i : Identity) : Prop :=
  match v with
  | .array vs => ∃ w, vs = [.string i.kindName, w] ∧ i.HasContent w
  | .object ms => GivenBy (relevant ms) i
  | _ => False

/-! ## Content -/

theorem kindName_mem (i : Identity) : i.kindName ∈ kinds := by
  cases i <;> simp [kindName, kinds]

theorem readNothing_eq_ok {n : Node} {v : Value} (hn : n.Spells v) {u : Unit} :
    readNothing n = .ok u ↔ v = .null := by
  cases hn with
  | scalar ht => exact (Node.Spells.scalar ht).readNull_eq_ok _ u
  | array => simp [readNothing]
  | object => simp [readNothing]

theorem readContent_eq_ok {n : Node} {v : Value} (hn : n.Spells v) {kind : String}
    (hkind : kind ∈ kinds) (i : Identity) :
    readContent kind n = .ok i ↔ i.kindName = kind ∧ i.HasContent v := by
  rcases List.mem_pair.1 hkind with rfl | rfl
  · simp only [readContent, String.reduceEq, if_false, bind_eq_ok, readNothing_eq_ok hn, pure_eq_ok]
    cases i <;> simp [kindName, HasContent]
  · simp only [readContent, if_true, map_eq_ok, hn.readString_eq_ok]
    cases i <;> simp [kindName, HasContent]

theorem withoutContent_eq_ok {kind : String} (hkind : kind ∈ kinds) {o : Nat} (i : Identity) :
    withoutContent kind o = .ok i ↔ i.kindName = kind ∧ i = .anonymous := by
  rcases List.mem_pair.1 hkind with rfl | rfl
  · simp only [withoutContent, String.reduceEq, if_false]
    cases i <;> simp [kindName]
  · simp only [withoutContent, if_true]
    cases i <;> simp [kindName]

theorem HasContent.depth {i : Identity} {v : Value} (h : i.HasContent v) : v.depth = 0 := by
  cases i <;> cases h <;> rfl

/-! ## Members -/

section

variable {ns : List (KeySite × Node)} {ms : Members} {e : Ending}

theorem relevant_cons (k : String) (v : Value) (ms : Members) :
    relevant ((k, v) :: ms) =
      if k = "kind" ∨ k = "dn" then (k, v) :: relevant ms else relevant ms := by
  unfold relevant
  by_cases h : k = "kind" ∨ k = "dn" <;> simp [h]

theorem nextRelevant_of_nil (hs : Node.SpellsMembers ns ms) (he : e.Whole)
    (hnone : relevant ms = []) : nextRelevant e ns = .ok none := by
  induction ns generalizing ms with
  | nil => exact bind_eq_ok.2 ⟨(), Ending.finish_eq_ok.2 he, rfl⟩
  | cons m ns ih =>
      cases hs with
      | @cons site n k v _ ms hk hn hns =>
          rw [relevant_cons] at hnone
          split at hnone
          · cases hnone
          · next hne =>
            obtain ⟨hkind, hdn⟩ := not_or.1 hne
            simp only [nextRelevant, hk.readString, hn.skip, bind, Except.bind, if_neg hkind,
              if_neg hdn]
            exact ih hns hnone

theorem nextRelevant_of_cons (hs : Node.SpellsMembers ns ms) {k : String} {v : Value}
    {rest : Members} (hfirst : relevant ms = (k, v) :: rest) :
    ∃ r, nextRelevant e ns = .ok (some r) ∧ (r.isKind = true ↔ k = "kind") ∧
      (k = "kind" ∨ k = "dn") ∧ r.value.Spells v ∧
      ∃ ms', Node.SpellsMembers r.rest ms' ∧ relevant ms' = rest := by
  induction ns generalizing ms with
  | nil =>
      cases hs
      cases hfirst
  | cons m ns ih =>
      cases hs with
      | @cons site n k' v' _ ms hk hn hns =>
          rw [relevant_cons] at hfirst
          split at hfirst
          · next hkey =>
            cases hfirst
            rcases hkey with rfl | rfl
            · refine ⟨⟨true, site, n, ns⟩, ?_, by simp, .inl rfl, hn, ms, hns, rfl⟩
              simp only [nextRelevant, hk.readString, bind, Except.bind, if_true]
              rfl
            · refine ⟨⟨false, site, n, ns⟩, ?_, by simp, .inr rfl, hn, ms, hns, rfl⟩
              simp only [nextRelevant, hk.readString, bind, Except.bind, String.reduceEq, if_false,
                if_true]
              rfl
          · next hne =>
            obtain ⟨hkind, hdn⟩ := not_or.1 hne
            simp only [nextRelevant, hk.readString, hn.skip, bind, Except.bind, if_neg hkind,
              if_neg hdn]
            exact ih hns hfirst

/-- Nothing that matters may be left after kind and content. -/
theorem finishMembers_eq_ok (hs : Node.SpellsMembers ns ms) (he : e.Whole) (i j : Identity) :
    finishMembers e ns i = .ok j ↔ relevant ms = [] ∧ i = j := by
  cases hms : relevant ms with
  | nil => simp [finishMembers, nextRelevant_of_nil hs he hms]
  | cons m rest =>
      obtain ⟨r, hr, -⟩ := nextRelevant_of_cons (e := e) hs (k := m.1) (v := m.2) hms
      simp [finishMembers, hr]

theorem ofMembers_of_kind (hs : Node.SpellsMembers ns ms) (he : e.Whole) {k : Value}
    {rest : Members} (hms : relevant ms = ("kind", k) :: rest) (level : Nat) (i : Identity) :
    ofMembers level e ns = .ok i ↔
      (k = .string i.kindName ∨ k = .object [(i.kindName, .null)]) ∧
        (rest = [] ∧ i = .anonymous ∨ ∃ v, rest = [("dn", v)] ∧ i.HasContent v) := by
  obtain ⟨first, hfirst, hkey, -, hk, ms', hs', hrest⟩ := nextRelevant_of_cons (e := e) hs hms
  simp only [ofMembers, hfirst, hkey.2 rfl, if_true, bind_eq_ok, Except.ok.injEq,
    exists_eq_left', hk.readVariant_eq_ok]
  cases rest with
  | nil =>
      simp only [nextRelevant_of_nil hs' he hrest, Except.ok.injEq, exists_eq_left']
      constructor
      · rintro ⟨kind, ⟨hnames, hknown⟩, hi⟩
        obtain ⟨rfl, rfl⟩ := (withoutContent_eq_ok hknown i).1 hi
        exact ⟨hnames, .inl ⟨trivial, rfl⟩⟩
      · rintro ⟨hnames, ⟨-, rfl⟩ | ⟨v, hv, -⟩⟩
        · exact ⟨_, ⟨hnames, kindName_mem _⟩,
            (withoutContent_eq_ok (kindName_mem _) _).2 ⟨rfl, rfl⟩⟩
        · cases hv
  | cons m rest =>
      obtain ⟨k', v⟩ := m
      obtain ⟨second, hsecond, hkey', hkeys, hv, ms'', hs'', hrest'⟩ :=
        nextRelevant_of_cons (e := e) hs' hrest
      simp only [hsecond, Except.ok.injEq, exists_eq_left']
      by_cases hk' : k' = "kind"
      · -- the kind may not come again
        simp [hkey'.2 hk', hk']
      · obtain rfl := hkeys.resolve_left hk'
        have hcontent : ¬ second.isKind = true := fun h => hk' (hkey'.1 h)
        simp only [if_neg hcontent, bind_eq_ok, finishMembers_eq_ok hs'' he, hrest']
        constructor
        · rintro ⟨kind, ⟨hnames, hknown⟩, j, hj, rfl, rfl⟩
          obtain ⟨rfl, hc⟩ := (readContent_eq_ok hv hknown j).1 hj
          exact ⟨hnames, .inr ⟨v, rfl, hc⟩⟩
        · rintro ⟨hnames, ⟨hnil, -⟩ | ⟨w, hw, hc⟩⟩
          · cases hnil
          · cases hw
            exact ⟨_, ⟨hnames, kindName_mem i⟩, i,
              (readContent_eq_ok hv (kindName_mem i) i).2 ⟨rfl, hc⟩, rfl, rfl⟩

theorem ofMembers_of_content (hs : Node.SpellsMembers ns ms) (he : e.Whole) {v : Value}
    {rest : Members} (hms : relevant ms = ("dn", v) :: rest) (level : Nat) (i : Identity) :
    ofMembers level e ns = .ok i ↔
      ∃ k, rest = [("kind", k)] ∧ i.HasContent v ∧
        (k = .string i.kindName ∨ k = .object [(i.kindName, .null)]) := by
  obtain ⟨first, hfirst, hkey, -, hv, ms', hs', hrest⟩ := nextRelevant_of_cons (e := e) hs hms
  have hcontent : ¬ first.isKind = true := fun h => absurd (hkey.1 h) (by decide)
  simp only [ofMembers, hfirst, if_neg hcontent, bind_eq_ok, Except.ok.injEq, exists_eq_left',
    discard_eq_ok, hv.readValue_eq_ok]
  cases rest with
  | nil => simp [nextRelevant_of_nil hs' he hrest]
  | cons m rest =>
      obtain ⟨k', k⟩ := m
      obtain ⟨second, hsecond, hkey', hkeys, hk, ms'', hs'', hrest'⟩ :=
        nextRelevant_of_cons (e := e) hs' hrest
      simp only [hsecond, Except.ok.injEq, exists_eq_left']
      by_cases hk' : k' = "kind"
      · subst hk'
        simp only [hkey'.2 rfl, if_true, bind_eq_ok, hk.readVariant_eq_ok]
        constructor
        · rintro ⟨-, -, kind, ⟨hnames, hknown⟩, hi⟩
          split at hi
          · next j hj =>
            obtain ⟨hnil, rfl⟩ := (finishMembers_eq_ok hs'' he _ _).1 hi
            obtain ⟨rfl, hc⟩ := (readContent_eq_ok hv hknown _).1 hj
            exact ⟨k, by rw [← hrest', hnil], hc, hnames⟩
          · cases hi
        · rintro ⟨k, heq, hc, hnames⟩
          cases heq
          have hread := (readContent_eq_ok hv (kindName_mem i) i).2 ⟨rfl, hc⟩
          refine ⟨(), ⟨_, .inl hc.depth, rfl⟩, _, ⟨hnames, kindName_mem i⟩, ?_⟩
          rw [hread]
          exact (finishMembers_eq_ok hs'' he _ _).2 ⟨hrest', rfl⟩
      · -- the content may not come again
        have hcontent' : ¬ second.isKind = true := fun h => hk' (hkey'.1 h)
        simp [hcontent', hk']

theorem ofMembers_eq_ok (hs : Node.SpellsMembers ns ms) (he : e.Whole) (level : Nat)
    (i : Identity) : ofMembers level e ns = .ok i ↔ GivenBy (relevant ms) i := by
  cases hms : relevant ms with
  | nil => simp [ofMembers, nextRelevant_of_nil hs he hms, GivenBy]
  | cons m rest =>
      obtain ⟨key, v⟩ := m
      obtain ⟨-, -, -, hkeys, -⟩ := nextRelevant_of_cons (e := e) hs hms
      rcases hkeys with rfl | rfl
      · rw [ofMembers_of_kind hs he hms]
        constructor
        · rintro ⟨hnames, ⟨rfl, rfl⟩ | ⟨w, rfl, hw⟩⟩
          · exact ⟨v, hnames, .inl ⟨rfl, rfl⟩⟩
          · exact ⟨v, hnames, .inr ⟨w, hw, .inl rfl⟩⟩
        · rintro ⟨k, hnames, ⟨heq, rfl⟩ | ⟨w, hw, heq | heq⟩⟩ <;>
            simp only [List.cons.injEq, Prod.mk.injEq, String.reduceEq, true_and, false_and] at heq
          · obtain ⟨rfl, rfl⟩ := heq
            exact ⟨hnames, .inl ⟨rfl, rfl⟩⟩
          · obtain ⟨rfl, rfl⟩ := heq
            exact ⟨hnames, .inr ⟨w, rfl, hw⟩⟩
      · rw [ofMembers_of_content hs he hms]
        constructor
        · rintro ⟨k, rfl, hv, hnames⟩
          exact ⟨k, hnames, .inr ⟨v, hv, .inr rfl⟩⟩
        · rintro ⟨k, hnames, ⟨heq, rfl⟩ | ⟨w, hw, heq | heq⟩⟩ <;>
            simp only [List.cons.injEq, Prod.mk.injEq, String.reduceEq, true_and, false_and] at heq
          obtain ⟨rfl, rfl⟩ := heq
          exact ⟨k, rfl, hw, hnames⟩

end

/-! ## Items -/

theorem ofItems_eq_ok {ns : List Node} {vs : List Value} {e : Ending}
    (hs : Node.SpellsItems ns vs) (he : e.Whole) (i : Identity) :
    ofItems e ns = .ok i ↔ ∃ w, vs = [.string i.kindName, w] ∧ i.HasContent w := by
  cases hs with
  | nil => simp [ofItems]
  | @cons n k ns vs hk hs =>
      cases hs with
      | nil => simp [ofItems]
      | @cons n' v ns vs hv hs =>
          have hrest : ns = [] ↔ vs = [] := by cases hs <;> simp
          simp only [ofItems, bind_eq_ok, hk.readName_eq_ok, finishFixed_eq_ok he, hrest,
            pure_eq_ok]
          constructor
          · rintro ⟨kind, ⟨rfl, hknown⟩, j, hj, -, rfl, rfl⟩
            obtain ⟨rfl, hc⟩ := (readContent_eq_ok hv hknown j).1 hj
            exact ⟨v, rfl, hc⟩
          · rintro ⟨w, heq, hc⟩
            cases heq
            exact ⟨_, ⟨rfl, kindName_mem i⟩, i,
              (readContent_eq_ok hv (kindName_mem i) i).2 ⟨rfl, hc⟩, (), rfl, rfl⟩

/-! ## Identities -/

/-- An identity is read from what says it, wherever that stands. -/
theorem ofNode_eq_ok {n : Node} {v : Value} (hn : n.Spells v) (level : Nat) (i : Identity) :
    ofNode level n = .ok i ↔ SaidBy v i := by
  cases hn with
  | @scalar t s ht => cases s <;> exact ⟨nofun, False.elim⟩
  | array hs he => exact ofItems_eq_ok hs he i
  | object hs he => exact ofMembers_eq_ok hs he (level + 1) i

theorem placeless_ofNode (level : Nat) : Placeless (ofNode level) :=
  placeless_of_iff fun hn => ofNode_eq_ok hn level

theorem saidBy_toJson (i : Identity) : SaidBy i.toJson i := by
  cases i with
  | anonymous => exact ⟨_, .inl rfl, .inl ⟨rfl, rfl⟩⟩
  | principal name => exact ⟨_, .inl rfl, .inr ⟨_, rfl, .inl rfl⟩⟩

theorem ofNode_toJson (level : Nat) (i : Identity) : ofNode level i.toJson.toNode = .ok i :=
  (ofNode_eq_ok (Value.toNode_spells _) level i).2 (saidBy_toJson i)

end DirectorySessions.Identity
