/-
# Values along paths

A path of keys leads from a value into the objects that it holds (`Value.at?`).
Where two values both hold objects along a path, what stands at its end once the
second is laid over the first depends on nothing but what stands there in the two
(`at?_overlay`): what `get?_overlayMembers` says of one key, carried down the path.
Laying the same value on again changes nothing (`overlay_overlay`), at any depth,
with nulls in it or not.

Both are about values in whose objects keys ascend, and so about all values that are
read (`ordered_of_readText`).
-/
import DirectorySessions.Proofs.Json.RoundTrip

namespace DirectorySessions.Json

namespace Value

def isObject : Value → Bool
  | .object _ => true
  | _ => false

def member? : Value → String → Option Value
  | .object ms, key => Members.get? ms key
  | _, _ => none

/-- The value at the end of a path of keys. -/
def at? (v : Value) : List String → Option Value
  | [] => some v
  | key :: path => (v.member? key).bind fun w => w.at? path

/-- Before its end the path leads through objects only. -/
def ObjectsAlong (v : Value) (path : List String) : Prop :=
  ∀ p, p <+: path → p ≠ path → ∃ w, v.at? p = some w ∧ w.isObject = true

@[simp] theorem at?_nil (v : Value) : v.at? [] = some v := rfl

theorem at?_cons (v : Value) (key : String) (path : List String) :
    v.at? (key :: path) = (v.member? key).bind (·.at? path) := rfl

theorem isObject_iff {v : Value} : v.isObject = true ↔ ∃ ms, v = .object ms := by
  cases v <;> simp [isObject]

theorem isNull_iff {v : Value} : v.isNull = true ↔ v = .null := by
  cases v <;> simp [isNull]

theorem isNull_of_isObject {v : Value} (h : v.isObject = true) : v.isNull = false := by
  obtain ⟨ms, rfl⟩ := isObject_iff.1 h
  rfl

theorem ObjectsAlong.isObject {v : Value} {path : List String} (h : v.ObjectsAlong path)
    (hne : path ≠ []) : v.isObject = true := by
  obtain ⟨w, hw, hobj⟩ := h [] List.nil_prefix hne.symm
  cases hw
  exact hobj

theorem objectsAlong_singleton {v : Value} {key : String} :
    v.ObjectsAlong [key] ↔ v.isObject = true := by
  constructor
  · exact fun h => h.isObject (List.cons_ne_nil _ _)
  · rintro hobj p hp hne
    rcases List.prefix_cons_iff.1 hp with rfl | ⟨q, rfl, hq⟩
    · exact ⟨v, rfl, hobj⟩
    · exact absurd (by rw [List.prefix_nil.1 hq]) hne

/-- Along a path of two keys or more: the value is an object, and so is what the path
leads through under its first key. -/
theorem objectsAlong_cons_cons {v : Value} {key key' : String} {path : List String} :
    v.ObjectsAlong (key :: key' :: path) ↔
      v.isObject = true ∧ ∃ w, v.member? key = some w ∧ w.ObjectsAlong (key' :: path) := by
  constructor
  · intro h
    obtain ⟨u, hu, -⟩ := h [key] ⟨key' :: path, rfl⟩ (by simp)
    obtain ⟨w, hw, -⟩ := Option.bind_eq_some_iff.1 hu
    refine ⟨h.isObject (List.cons_ne_nil _ _), w, hw, fun p hp hne => ?_⟩
    obtain ⟨u, hu, huobj⟩ := h (key :: p) (List.cons_prefix_cons.2 ⟨rfl, hp⟩)
      fun heq => hne (List.cons.inj heq).2
    rw [at?_cons, hw] at hu
    exact ⟨u, hu, huobj⟩
  · rintro ⟨hobj, w, hw, hrest⟩ p hp hne
    rcases List.prefix_cons_iff.1 hp with rfl | ⟨q, rfl, hq⟩
    · exact ⟨v, rfl, hobj⟩
    · rw [at?_cons, hw]
      exact hrest q hq fun heq => hne (heq ▸ rfl)

/-! ## Values that were read -/

theorem OrderedMembers.insert {ms : Members} (h : OrderedMembers ms) (key : String) {v : Value}
    (hv : v.Ordered) : OrderedMembers (ms.insert key v) := by
  induction ms with
  | nil => exact ⟨hv, trivial⟩
  | cons m ms ih =>
      obtain ⟨k, w⟩ := m
      obtain ⟨hw, hms⟩ := h
      unfold Members.insert
      split
      · exact ⟨hv, hms⟩
      · split
        · exact ⟨hv, hw, hms⟩
        · exact ⟨hw, ih hms⟩

theorem OrderedMembers.ofList {ms : Members} (h : OrderedMembers ms) :
    OrderedMembers (Members.ofList ms) := by
  have fold : ∀ acc, OrderedMembers acc →
      OrderedMembers (ms.foldl (fun acc m => Members.insert acc m.1 m.2) acc) := by
    induction ms with
    | nil => exact fun acc hacc => hacc
    | cons m ms ih => exact fun acc hacc => ih h.2 _ (hacc.insert m.1 h.1)
  exact fold [] trivial

mutual

theorem ordered_folded : ∀ v : Value, v.folded.Ordered
  | .null => trivial
  | .bool _ => trivial
  | .number _ => trivial
  | .string _ => trivial
  | .array items => ordered_foldedItems items
  | .object ms => ⟨Members.ascending_ofList _, (ordered_foldedMembers ms).ofList⟩

theorem ordered_foldedItems : ∀ vs : List Value, OrderedItems (foldedItems vs)
  | [] => trivial
  | v :: vs => ⟨ordered_folded v, ordered_foldedItems vs⟩

theorem ordered_foldedMembers : ∀ ms : Members, OrderedMembers (foldedMembers ms)
  | [] => trivial
  | (_, v) :: ms => ⟨ordered_folded v, ordered_foldedMembers ms⟩

end

/-- Whatever free value is read from a text, its keys ascend. -/
theorem ordered_of_readText {text : String} {v : Value}
    (h : readText text (·.readValue 0) = .ok v) : v.Ordered := by
  obtain ⟨hread, -⟩ := Json.readText_eq_ok.1 h
  obtain ⟨w, hw⟩ := (Document.ofText_honest text).exists_spells hread
  obtain ⟨-, rfl⟩ := (hw.readValue_eq_ok 0 v).1 hread
  exact ordered_folded w

/-! ## What stands at the end of a path -/

theorem overlay_of_not_objects {below above : Value}
    (h : ¬ (below.isObject = true ∧ above.isObject = true)) : below.overlay above = above := by
  cases above with
  | object ms =>
      cases below with
      | object _ => exact absurd ⟨rfl, rfl⟩ h
      | _ => rfl
  | _ => rfl

theorem member?_overlay {below above : Value} (hbelow : below.isObject = true)
    (habove : above.isObject = true) (hord : above.Ordered) (key : String) :
    (below.overlay above).member? key =
      match above.member? key with
      | none => below.member? key
      | some v =>
          if v.isNull then below.member? key
          else some (match below.member? key with
            | some u => u.overlay v
            | none => v) := by
  obtain ⟨ms, rfl⟩ := isObject_iff.1 hbelow
  obtain ⟨ns, rfl⟩ := isObject_iff.1 habove
  exact Members.get?_overlayMembers ms hord.1 key

theorem OrderedMembers.get? {ms : Members} (h : OrderedMembers ms) {key : String} {v : Value}
    (hv : ms.get? key = some v) : v.Ordered := by
  induction ms with
  | nil => cases hv
  | cons m ms ih =>
      obtain ⟨k, w⟩ := m
      obtain ⟨hw, hms⟩ := h
      rw [Members.get?_cons] at hv
      split at hv
      · cases hv
        exact hw
      · exact ih hms hv

theorem Ordered.member? {v w : Value} (h : v.Ordered) {key : String}
    (hw : v.member? key = some w) : w.Ordered := by
  cases v with
  | object ms => exact OrderedMembers.get? h.2 hw
  | _ => cases hw

/-- The same at the end of a path: a value that is not null goes over what was there,
otherwise that stays. -/
theorem at?_overlay {below above : Value} (hord : above.Ordered) {path : List String}
    (hne : path ≠ []) (hbelow : below.ObjectsAlong path) (habove : above.ObjectsAlong path) :
    (below.overlay above).at? path =
      match above.at? path with
      | none => below.at? path
      | some v =>
          if v.isNull then below.at? path
          else some (match below.at? path with
            | some u => u.overlay v
            | none => v) := by
  induction path generalizing below above with
  | nil => exact absurd rfl hne
  | cons key path ih =>
      cases path with
      | nil =>
          have hmember := member?_overlay (objectsAlong_singleton.1 hbelow)
            (objectsAlong_singleton.1 habove) hord key
          simpa [at?_cons] using hmember
      | cons key' path =>
          obtain ⟨hb, u, hu, hualong⟩ := objectsAlong_cons_cons.1 hbelow
          obtain ⟨ha, v, hv, hvalong⟩ := objectsAlong_cons_cons.1 habove
          -- what the path leads through is an object, so it is not null and is gone into
          have hnull : v.isNull = false :=
            isNull_of_isObject (hvalong.isObject (List.cons_ne_nil _ _))
          have hstep : (below.overlay above).member? key = some (u.overlay v) := by
            rw [member?_overlay hb ha hord, hv, hu]
            simp [hnull]
          have hrest := ih (hord.member? hv) (List.cons_ne_nil _ _) hualong hvalong
          simpa only [at?_cons, hstep, hu, hv, Option.bind_some] using hrest

end Value

/-! ## Laying the same on again -/

theorem Members.overlayMembers_self {ms : Members} (hms : Ascending ms)
    (hself : ∀ key v, ms.get? key = some v → v.overlay v = v) :
    Value.overlayMembers ms ms = ms := by
  refine ascending_ext (ascending_overlayMembers hms ms) hms fun key => ?_
  rw [get?_overlayMembers _ hms]
  cases hv : ms.get? key with
  | none => rfl
  | some v => by_cases hnull : v.isNull = true <;> simp [hnull, hself key v hv]

theorem Members.overlayMembers_again {ms above : Members} (hms : Ascending ms)
    (habove : Ascending above)
    (hself : ∀ key v, above.get? key = some v → v.overlay v = v)
    (hagain : ∀ key u v, ms.get? key = some u → above.get? key = some v →
      (u.overlay v).overlay v = u.overlay v) :
    Value.overlayMembers (Value.overlayMembers ms above) above =
      Value.overlayMembers ms above := by
  have honce := ascending_overlayMembers hms above
  refine ascending_ext (ascending_overlayMembers honce above) honce fun key => ?_
  rw [get?_overlayMembers _ habove]
  cases hv : above.get? key with
  | none => rfl
  | some v =>
      by_cases hnull : v.isNull = true
      · simp only [hnull, if_true]
      · -- what the first time put under the key is what the second time finds there
        simp only [hnull, Bool.false_eq_true, if_false, get?_overlayMembers ms habove, hv]
        cases hu : ms.get? key with
        | none => exact congrArg some (hself key v hv)
        | some u => exact congrArg some (hagain key u v hu hv)

namespace Value

mutual

/-- A value laid on twice is as laid on once. -/
theorem overlay_overlay : ∀ {above : Value}, above.Ordered → ∀ {below : Value},
    below.Ordered → (below.overlay above).overlay above = below.overlay above
  | .null, _, _, _ => rfl
  | .bool _, _, _, _ => rfl
  | .number _, _, _, _ => rfl
  | .string _, _, _, _ => rfl
  | .array _, _, _, _ => rfl
  | .object above, ⟨hasc, habove⟩, below, hbelow => by
      -- a value over itself is that value laid twice over null
      have hself : ∀ key v, Members.get? above key = some v → v.overlay v = v := by
        intro key v hv
        have htwice : (Value.null.overlay v).overlay v = Value.null.overlay v :=
          overlay_overlay_member habove hv trivial
        have honce : Value.null.overlay v = v := overlay_of_not_objects (by simp [isObject])
        rwa [honce] at htwice
      by_cases hobj : below.isObject = true
      · obtain ⟨ms, rfl⟩ := isObject_iff.1 hobj
        refine congrArg Value.object (Members.overlayMembers_again hbelow.1 hasc hself ?_)
        exact fun key u v hu hv => overlay_overlay_member habove hv (hbelow.2.get? hu)
      · rw [overlay_of_not_objects fun h => hobj h.1]
        exact congrArg Value.object (Members.overlayMembers_self hasc hself)

theorem overlay_overlay_member : ∀ {above : Members}, OrderedMembers above →
    ∀ {key : String} {v : Value}, above.get? key = some v → ∀ {below : Value},
      below.Ordered → (below.overlay v).overlay v = below.overlay v
  | [], _, _, _, hv, _, _ => by cases hv
  | (k, w) :: above, ⟨hw, habove⟩, key, v, hv, below, hbelow => by
      rw [Members.get?_cons] at hv
      split at hv
      · cases hv
        exact overlay_overlay hw hbelow
      · exact overlay_overlay_member habove hv hbelow

end

/-- For all values whose keys ascend, and every path that is not empty and leads through
objects in both of them.  If the upper value has anything but null at its end, and that or
what the lower value has there is no object, the upper value's is what is there; if the
upper value has null there or nothing, what the lower value has there stays, be it nothing.
And laying the same value on again changes nothing. -/
theorem overlay_goes_by_paths {below above : Value} (hbelow : below.Ordered)
    (habove : above.Ordered) :
    (∀ path, path ≠ [] → below.ObjectsAlong path → above.ObjectsAlong path →
      (∀ v, above.at? path = some v → v ≠ .null →
        (v.isObject = false ∨ ∀ u, below.at? path = some u → u.isObject = false) →
          (below.overlay above).at? path = some v) ∧
      (above.at? path = none ∨ above.at? path = some .null →
        (below.overlay above).at? path = below.at? path)) ∧
      (below.overlay above).overlay above = below.overlay above := by
  refine ⟨fun path hne hb ha => ?_, overlay_overlay habove hbelow⟩
  have hpath := at?_overlay habove hne hb ha
  constructor
  · intro v hv hnull hscalar
    have hnonnull : ¬ v.isNull = true := mt isNull_iff.1 hnull
    rw [hpath, hv]
    simp only [if_neg hnonnull]
    cases hu : below.at? path with
    | none => rfl
    | some u =>
        refine congrArg some (overlay_of_not_objects ?_)
        rintro ⟨huobj, hvobj⟩
        rcases hscalar with hno | hno
        · exact Bool.false_ne_true (hno.symm.trans hvobj)
        · exact Bool.false_ne_true ((hno u hu).symm.trans huobj)
  · rintro (hv | hv)
    · rw [hpath, hv]
    · rw [hpath, hv]
      rfl

def lowerTree : Value :=
  .object [("a", .object [("x", .ofNat 1), ("y", .object [("z", .null)])]), ("b", .array [])]

/-- A value to lay over it: a null over a number, a truth value over an object, an object with
a null in it over a list, and a null over nothing. -/
def upperTree : Value :=
  .object [("a", .object [("x", .null), ("y", .bool true)]), ("b", .object [("c", .null)]),
    ("d", .null)]

/-- The number stays, the truth value and the object come, and nothing stays nothing. -/
theorem laid_over_at_four_paths :
    lowerTree.Ordered ∧ upperTree.Ordered ∧
      (lowerTree.ObjectsAlong ["a", "x"] ∧ upperTree.ObjectsAlong ["a", "x"] ∧
        (lowerTree.overlay upperTree).at? ["a", "x"] = some (.ofNat 1)) ∧
      (lowerTree.overlay upperTree).at? ["a", "y"] = some (.bool true) ∧
      (lowerTree.overlay upperTree).at? ["b"] = some (.object [("c", .null)]) ∧
      (lowerTree.overlay upperTree).at? ["d"] = none ∧
      (lowerTree.overlay upperTree).overlay upperTree = lowerTree.overlay upperTree := by
  have hlower : lowerTree.Ordered := by
    simp only [lowerTree, Ordered, OrderedItems, OrderedMembers, Members.Ascending, ofNat, and_true]
    decide
  have hupper : upperTree.Ordered := by
    simp only [upperTree, Ordered, OrderedMembers, Members.Ascending, and_true]
    decide
  have along : ∀ key, lowerTree.ObjectsAlong ["a", key] ∧ upperTree.ObjectsAlong ["a", key] :=
    fun key => ⟨objectsAlong_cons_cons.2 ⟨rfl, _, rfl, objectsAlong_singleton.2 rfl⟩,
      objectsAlong_cons_cons.2 ⟨rfl, _, rfl, objectsAlong_singleton.2 rfl⟩⟩
  have short : ∀ key, lowerTree.ObjectsAlong [key] ∧ upperTree.ObjectsAlong [key] :=
    fun key => ⟨objectsAlong_singleton.2 rfl, objectsAlong_singleton.2 rfl⟩
  obtain ⟨hpaths, htwice⟩ := overlay_goes_by_paths hlower hupper
  refine ⟨hlower, hupper, ⟨(along "x").1, (along "x").2, ?_⟩, ?_, ?_, ?_, htwice⟩
  · exact (hpaths _ (by decide) (along "x").1 (along "x").2).2 (.inr rfl)
  · exact (hpaths _ (by decide) (along "y").1 (along "y").2).1 _ rfl nofun (.inl rfl)
  · refine (hpaths _ (by decide) (short "b").1 (short "b").2).1 _ rfl nofun (.inr ?_)
    rintro u ⟨⟩
    rfl
  · exact (hpaths _ (by decide) (short "d").1 (short "d").2).2 (.inr rfl)

end Value

end DirectorySessions.Json
