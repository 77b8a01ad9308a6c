/-
# Tables

A finite map as a list of entries with distinct keys.  A new key goes to the
end; a key that is there keeps its place.
-/

namespace DirectorySessions

/-- A finite map. -/
structure Table (κ : Type) (α : Type) where
  entries : List (κ × α)
  nodup : (entries.map Prod.fst).Nodup

namespace Table

variable {κ α β : Type} [DecidableEq κ]

/-- Look a key up in a list of entries. -/
def find? (k : κ) : List (κ × α) → Option α
  | [] => none
  | (k', a) :: es => if k' = k then some a else find? k es

/-- Replace the entry of a key, or add one at the end. -/
def put (k : κ) (a : α) : List (κ × α) → List (κ × α)
  | [] => [(k, a)]
  | (k', a') :: es => if k' = k then (k, a) :: es else (k', a') :: put k a es

/-- Leave the entry of a key out. -/
def drop (k : κ) (es : List (κ × α)) : List (κ × α) := es.filter fun e => !decide (e.1 = k)

theorem mem_keys_put {k k' : κ} {a : α} {es : List (κ × α)} :
    k' ∈ (put k a es).map Prod.fst ↔ k' = k ∨ k' ∈ es.map Prod.fst := by
  induction es with
  | nil => simp [put]
  | cons e es ih =>
      obtain ⟨k₀, a₀⟩ := e
      by_cases h : k₀ = k
      · subst h; simp [put]
      · simp only [put, if_neg h, List.map_cons, List.mem_cons, ih]
        constructor
        · rintro (h₁ | h₁ | h₁) <;> simp [h₁]
        · rintro (h₁ | h₁ | h₁) <;> simp [h₁]

theorem nodup_put {k : κ} {a : α} {es : List (κ × α)} (h : (es.map Prod.fst).Nodup) :
    ((put k a es).map Prod.fst).Nodup := by
  induction es with
  | nil => simp [put]
  | cons e es ih =>
      obtain ⟨k₀, a₀⟩ := e
      simp only [List.map_cons, List.nodup_cons] at h
      by_cases hk : k₀ = k
      · subst hk; simpa [put] using h
      · simp only [put, if_neg hk, List.map_cons, List.nodup_cons]
        refine ⟨fun hm => ?_, ih h.2⟩
        rcases mem_keys_put.1 hm with h₁ | h₁
        · exact hk h₁
        · exact h.1 h₁

theorem nodup_drop {k : κ} {es : List (κ × α)} (h : (es.map Prod.fst).Nodup) :
    ((drop k es).map Prod.fst).Nodup :=
  h.sublist (List.filter_sublist.map Prod.fst)

def empty : Table κ α := ⟨[], List.nodup_nil⟩

def get? (t : Table κ α) (k : κ) : Option α := find? k t.entries

def insert (t : Table κ α) (k : κ) (a : α) : Table κ α := ⟨put k a t.entries, nodup_put t.nodup⟩

def erase (t : Table κ α) (k : κ) : Table κ α := ⟨drop k t.entries, nodup_drop t.nodup⟩

def contains (t : Table κ α) (k : κ) : Bool := (t.get? k).isSome

def keys (t : Table κ α) : List κ := t.entries.map Prod.fst

def values (t : Table κ α) : List α := t.entries.map Prod.snd

def size (t : Table κ α) : Nat := t.entries.length

instance : EmptyCollection (Table κ α) := ⟨empty⟩

instance : Inhabited (Table κ α) := ⟨empty⟩

@[simp] theorem get?_empty (k : κ) : (empty : Table κ α).get? k = none := rfl

theorem find?_put (k k' : κ) (a : α) (es : List (κ × α)) :
    find? k' (put k a es) = if k = k' then some a else find? k' es := by
  induction es with
  | nil => simp [put, find?]
  | cons e es ih => grind [put, find?]

theorem get?_insert (t : Table κ α) (k k' : κ) (a : α) :
    (t.insert k a).get? k' = if k = k' then some a else t.get? k' :=
  find?_put k k' a t.entries

theorem drop_cons (k : κ) (e : κ × α) (es : List (κ × α)) :
    drop k (e :: es) = if e.1 = k then drop k es else e :: drop k es := by
  by_cases h : e.1 = k <;> simp [drop, h]

theorem find?_drop (k k' : κ) (es : List (κ × α)) :
    find? k' (drop k es) = if k = k' then none else find? k' es := by
  induction es with
  | nil => simp [drop, find?]
  | cons e es ih => grind [drop_cons, find?]

theorem get?_erase (t : Table κ α) (k k' : κ) :
    (t.erase k).get? k' = if k = k' then none else t.get? k' :=
  find?_drop k k' t.entries

end Table

end DirectorySessions
