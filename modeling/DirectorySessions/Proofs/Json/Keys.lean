/-
# The keys of an object

An object that is held as a free value has ascending keys, each once
(`Ascending`), and putting a value under a key sees to that.  Members as they come,
with repetitions, are told by the values under each key (`Members.valuesOf`);
folded, they keep the last of these.  Members laid over such an object are looked
up from the back (`get?_overlayMembers`).
-/
import DirectorySessions.Json.Overlay

namespace DirectorySessions.Json.Members

/-! ## The values under a key -/

def valuesOf (ms : Members) (key : String) : List Value :=
  (ms.filter fun m => decide (m.1 = key)).map Prod.snd

@[simp] theorem valuesOf_nil (key : String) : valuesOf [] key = [] := rfl

theorem valuesOf_cons (k : String) (v : Value) (ms : Members) (key : String) :
    valuesOf ((k, v) :: ms) key = if k = key then v :: valuesOf ms key else valuesOf ms key := by
  unfold valuesOf
  by_cases h : k = key <;> simp [h]

/-- Where at most one value stands under a key, the order of members does not matter. -/
theorem valuesOf_eq_of_perm {ms ms' : Members} (h : ms.Perm ms') {key : String}
    (hle : (valuesOf ms key).length ≤ 1) : valuesOf ms' key = valuesOf ms key := by
  have hperm : (valuesOf ms key).Perm (valuesOf ms' key) := (h.filter _).map _
  match hvs : valuesOf ms key, hle with
  | [], _ => exact List.nil_perm.1 (hvs ▸ hperm)
  | [v], _ => exact (List.singleton_perm.1 (hvs ▸ hperm)).symm

theorem valuesOf_filter {ms : Members} {p : String → Bool} {key : String} (h : p key = true) :
    valuesOf (ms.filter fun m => p m.1) key = valuesOf ms key := by
  induction ms with
  | nil => rfl
  | cons m ms ih =>
      obtain ⟨k, v⟩ := m
      by_cases hp : p k = true
      · simp [hp, valuesOf_cons, ih]
      · have hne : k ≠ key := fun he => hp (he ▸ h)
        simp [hp, valuesOf_cons, ih, hne]

/-! ## Ascending keys -/

/-- The keys ascend, so that each comes once. -/
def Ascending (ms : Members) : Prop := ms.Pairwise fun m m' => m.1 < m'.1

theorem get?_cons (k : String) (v : Value) (ms : Members) (key : String) :
    get? ((k, v) :: ms) key = if k = key then some v else get? ms key := rfl

theorem get?_eq_none {ms : Members} {key : String} (h : ∀ m ∈ ms, m.1 ≠ key) :
    get? ms key = none := by
  induction ms with
  | nil => rfl
  | cons m ms ih =>
      obtain ⟨k, v⟩ := m
      obtain ⟨hk, hms⟩ := List.forall_mem_cons.1 h
      rw [get?_cons, if_neg hk, ih hms]

theorem get?_tail {k : String} {v : Value} {ms : Members} (h : Ascending ((k, v) :: ms)) :
    get? ms k = none :=
  get?_eq_none fun m hm he => String.lt_irrefl k (he ▸ (List.pairwise_cons.1 h).1 m hm)

theorem valuesOf_of_ascending {ms : Members} (h : Ascending ms) (key : String) :
    valuesOf ms key = (get? ms key).toList := by
  induction ms with
  | nil => rfl
  | cons m ms ih =>
      obtain ⟨k, v⟩ := m
      rw [valuesOf_cons, ih (List.pairwise_cons.1 h).2, get?_cons]
      split
      · next heq =>
        subst heq
        rw [get?_tail h]
        rfl
      · rfl

theorem get?_of_mem {ms : Members} (h : Ascending ms) {k : String} {v : Value}
    (hm : (k, v) ∈ ms) : get? ms k = some v := by
  induction ms with
  | nil => exact absurd hm List.not_mem_nil
  | cons m ms ih =>
      obtain ⟨k', w⟩ := m
      rw [get?_cons]
      rcases List.mem_cons.1 hm with heq | hm
      · cases heq
        rw [if_pos rfl]
      · have hlt : k' < k := (List.pairwise_cons.1 h).1 _ hm
        have hne : k' ≠ k := fun he => String.lt_irrefl k (he ▸ hlt)
        rw [if_neg hne, ih (List.pairwise_cons.1 h).2 hm]

theorem mem_of_get? {ms : Members} {k : String} {v : Value} (h : get? ms k = some v) :
    (k, v) ∈ ms := by
  induction ms with
  | nil => cases h
  | cons m ms ih =>
      obtain ⟨k', w⟩ := m
      rw [get?_cons] at h
      split at h
      · next heq =>
        cases h
        exact heq ▸ List.mem_cons_self ..
      · exact List.mem_cons_of_mem _ (ih h)

/-- Members with ascending keys are told by what stands under each key. -/
theorem ascending_ext {ms ms' : Members} (h : Ascending ms) (h' : Ascending ms')
    (heq : ∀ key, get? ms key = get? ms' key) : ms = ms' := by
  have hmem : ∀ m, m ∈ ms ↔ m ∈ ms' := fun m =>
    ⟨fun hm => mem_of_get? ((heq m.1).symm.trans (get?_of_mem h hm)),
      fun hm => mem_of_get? ((heq m.1).trans (get?_of_mem h' hm))⟩
  have nodup : ∀ {ms : Members}, Ascending ms → List.Nodup ms := by
    intro ms h
    refine List.Pairwise.imp ?_ h
    rintro m _ hlt rfl
    exact String.lt_irrefl _ hlt
  exact List.Perm.eq_of_pairwise (fun _ _ _ _ hlt hgt => absurd hgt (String.lt_asymm hlt)) h h'
    ((List.perm_ext_iff_of_nodup (nodup h) (nodup h')).2 hmem)

/-! ## Putting a value under a key -/

theorem insert_keys {ms : Members} {key : String} {v : Value} {m : String × Value}
    (hm : m ∈ insert ms key v) : m.1 = key ∨ m ∈ ms := by
  induction ms with
  | nil =>
      obtain rfl := List.mem_singleton.1 hm
      exact .inl rfl
  | cons m' ms ih =>
      obtain ⟨k, w⟩ := m'
      unfold insert at hm
      split at hm
      · grind
      · split at hm
        · grind
        · grind

theorem ascending_insert {ms : Members} (h : Ascending ms) (key : String) (v : Value) :
    Ascending (insert ms key v) := by
  induction ms with
  | nil => exact List.pairwise_singleton _ _
  | cons m ms ih =>
      obtain ⟨k, w⟩ := m
      obtain ⟨hk, hms⟩ := List.pairwise_cons.1 h
      unfold insert
      split
      · next heq =>
        subst heq
        exact List.pairwise_cons.2 ⟨hk, hms⟩
      · split
        · next hlt =>
          refine List.pairwise_cons.2 ⟨?_, h⟩
          exact List.forall_mem_cons.2 ⟨hlt, fun m hm => String.lt_trans hlt (hk m hm)⟩
        · next hne hnlt =>
          have hkey : k < key := by
            rcases Std.lt_trichotomy k key with hlt | heq | hlt
            · exact hlt
            · exact absurd heq hne
            · exact absurd hlt hnlt
          refine List.pairwise_cons.2 ⟨fun m hm => ?_, ih hms⟩
          rcases insert_keys hm with heq | hm
          · rw [heq]; exact hkey
          · exact hk m hm

theorem get?_insert (ms : Members) (key key' : String) (v : Value) :
    (insert ms key v).get? key' = if key = key' then some v else ms.get? key' := by
  induction ms with
  | nil => rfl
  | cons m ms ih =>
      obtain ⟨k, w⟩ := m
      unfold insert
      grind [get?]

theorem insert_of_lt {ms : Members} {key : String} (h : ∀ m ∈ ms, m.1 < key) (v : Value) :
    insert ms key v = ms ++ [(key, v)] := by
  induction ms with
  | nil => rfl
  | cons m ms ih =>
      obtain ⟨k, w⟩ := m
      obtain ⟨hk, hms⟩ := List.forall_mem_cons.1 h
      have hne : k ≠ key := fun he => String.lt_irrefl k (he ▸ hk)
      rw [insert, if_neg hne, if_neg (String.lt_asymm hk), ih hms]
      rfl

/-! ## Folding members -/

theorem ascending_ofList (ms : Members) : Ascending (ofList ms) := by
  have fold : ∀ acc, Ascending acc →
      Ascending (ms.foldl (fun acc m => insert acc m.1 m.2) acc) := by
    induction ms with
    | nil => exact fun acc h => h
    | cons m ms ih => exact fun acc h => ih _ (ascending_insert h m.1 m.2)
  exact fold [] List.Pairwise.nil

theorem get?_ofList (ms : Members) (key : String) :
    get? (ofList ms) key = (valuesOf ms key).getLast? := by
  have fold : ∀ acc, get? (ms.foldl (fun acc m => insert acc m.1 m.2) acc) key =
      (valuesOf ms key).getLast?.or (get? acc key) := by
    induction ms with
    | nil => exact fun acc => rfl
    | cons m ms ih =>
        intro acc
        obtain ⟨k, v⟩ := m
        rw [List.foldl_cons, ih, get?_insert, valuesOf_cons]
        split
        · rw [List.getLast?_cons]
          cases (valuesOf ms key).getLast? <;> rfl
        · rfl
  simpa [ofList, get?] using fold []

theorem ofList_of_ascending {ms : Members} (h : Ascending ms) : ofList ms = ms := by
  have fold : ∀ acc, Ascending (acc ++ ms) →
      ms.foldl (fun acc m => insert acc m.1 m.2) acc = acc ++ ms := by
    clear h
    induction ms with
    | nil => exact fun acc _ => (List.append_nil acc).symm
    | cons m ms ih =>
        intro acc hacc
        have hlt : ∀ m' ∈ acc, m'.1 < m.1 := fun m' hm' =>
          (List.pairwise_append.1 hacc).2.2 m' hm' m (List.mem_cons_self ..)
        rw [List.foldl_cons, insert_of_lt hlt, ih, List.append_assoc]
        · rfl
        · rw [List.append_assoc]
          exact hacc
  simpa [ofList] using fold [] h

/-! ## Laying members over others -/

theorem ascending_overlayMembers {ms : Members} (h : Ascending ms) (above : Members) :
    Ascending (Value.overlayMembers ms above) := by
  induction above generalizing ms with
  | nil => exact h
  | cons m above ih =>
      obtain ⟨k, v⟩ := m
      rw [Value.overlayMembers]
      split
      · exact ih h
      · exact ih (ascending_insert h _ _)

/-- A value that is not null goes over what was under its key; otherwise that stays. -/
theorem get?_overlayMembers (ms : Members) {above : Members} (h : Ascending above)
    (key : String) :
    get? (Value.overlayMembers ms above) key =
      match get? above key with
      | none => get? ms key
      | some v =>
          if v.isNull then get? ms key
          else some (match get? ms key with
            | some below => below.overlay v
            | none => v) := by
  induction above generalizing ms with
  | nil => rfl
  | cons m above ih =>
      obtain ⟨k, v⟩ := m
      have hms := (List.pairwise_cons.1 h).2
      rw [Value.overlayMembers, get?_cons]
      by_cases hk : k = key
      · subst hk
        have hnone := get?_tail h
        by_cases hv : v.isNull = true
        · simp [hv, ih _ hms, hnone]
        · cases get? ms k <;> simp [hv, ih _ hms, hnone, get?_insert]
      · by_cases hv : v.isNull = true
        · simp [hv, hk, ih _ hms]
        · simp [hv, hk, ih _ hms, get?_insert]

end DirectorySessions.Json.Members
