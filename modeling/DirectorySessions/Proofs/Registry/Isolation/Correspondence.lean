/-
# Which handle is which

A session's handles have higher numbers where other sessions have made handles
in between.  `Pair` says which handle is which, by counting the session's
handles only; it is one to one, what others make later does not change it, and
a handle that the session makes next is paired with the next one on the other
side.  Tokens, handles and tables then go together when they differ in the
numbers of handles at most.

Which number a handle has depends on the others, but which of its session's
handles it is, counted in the order of their making, does not.  So nothing has
to be remembered about which handle was made together with which.
-/
import Mathlib.Data.List.Forall2
import DirectorySessions.Proofs.Registry.Isolation.Elsewhere

namespace DirectorySessions

variable {o : Ownership} {os os' : List SessionId} {s S T : SessionId} {h h' k k' : HandleId}
  {t t' u u' : TokenId}

/-! ## Which handle is which -/

def ofSession (S : SessionId) (os : List SessionId) : List SessionId :=
  os.filter fun s => decide (s = S)

/-- Of the session's handles, `h` is the one that `k` is where there are no others. -/
structure Pair (os : List SessionId) (S : SessionId) (h k : HandleId) : Prop where
  owns : Owns os S h
  before : (ofSession S (os.take h.index)).length = k.index

theorem ofSession_append (S : SessionId) (os os' : List SessionId) :
    ofSession S (os ++ os') = ofSession S os ++ ofSession S os' :=
  List.filter_append ..

theorem ofSession_replicate_self (S : SessionId) (n : Nat) :
    ofSession S (List.replicate n S) = List.replicate n S :=
  List.filter_replicate_of_pos (decide_eq_true rfl)

theorem owns_of_append_other (hT : T ≠ S) {n : Nat} (ho : Owns (os ++ List.replicate n T) S h) :
    Owns os S h := by
  simp only [Owns, List.getElem?_append] at ho ⊢
  split at ho
  · exact ho
  · have hin := List.mem_of_getElem? ho
    exact absurd (List.eq_of_mem_replicate hin) hT.symm

theorem pair_append_iff (ho : Owns os S h) : Pair (os ++ os') S h k ↔ Pair os S h k := by
  have hlt : h.index ≤ os.length := Nat.le_of_lt (List.getElem?_eq_some_iff.mp ho).1
  have htake : (os ++ os').take h.index = os.take h.index := List.take_append_of_le_length hlt
  constructor
  · intro hp
    exact ⟨ho, htake ▸ hp.before⟩
  · intro hp
    exact ⟨owns_append ho os', htake.symm ▸ hp.before⟩

theorem Pair.append (hp : Pair os S h k) (os' : List SessionId) : Pair (os ++ os') S h k :=
  (pair_append_iff hp.owns).mpr hp

theorem Pair.of_append_other (hT : T ≠ S) {n : Nat}
    (hp : Pair (os ++ List.replicate n T) S h k) : Pair os S h k :=
  (pair_append_iff (owns_of_append_other hT hp.owns)).mp hp

/-- The session's handles before a later point are more than those before one
of its handles. -/
theorem length_ofSession_take_lt (ho : Owns os S h) {n : Nat} (hn : h.index < n) :
    (ofSession S (os.take h.index)).length < (ofSession S (os.take n)).length := by
  have hsucc : os.take (h.index + 1) = os.take h.index ++ [S] := by
    rw [List.take_add_one, ho]
    rfl
  have hle : (os.take (h.index + 1)).Sublist (os.take n) :=
    (List.take_prefix_take_left hn).sublist
  have hlen := (hle.filter fun s => decide (s = S)).length_le
  rw [hsucc] at hlen
  have happ := ofSession_append S (os.take h.index) [S]
  have hone : ofSession S [S] = [S] := ofSession_replicate_self S 1
  rw [hone] at happ
  simp only [ofSession] at happ hlen ⊢
  rw [happ, List.length_append] at hlen
  exact hlen

theorem Pair.right_unique (hp : Pair os S h k) (hp' : Pair os S h k') : k = k' :=
  HandleId.index_inj.mp (hp.before.symm.trans hp'.before)

theorem Pair.left_unique (hp : Pair os S h k) (hp' : Pair os S h' k) : h = h' := by
  have hsame := hp.before.trans hp'.before.symm
  rcases Nat.lt_trichotomy h.index h'.index with hlt | he | hlt
  · have := length_ofSession_take_lt hp.owns hlt
    omega
  · exact HandleId.index_inj.mp he
  · have := length_ofSession_take_lt hp'.owns hlt
    omega

theorem Pair.eq_iff (hp : Pair os S h k) (hp' : Pair os S h' k') : h = h' ↔ k = k' := by
  constructor
  · rintro rfl
    exact hp.right_unique hp'
  · rintro rfl
    exact hp.left_unique hp'

theorem Pair.lt (hp : Pair os S h k) : k.index < (ofSession S os).length := by
  have := length_ofSession_take_lt hp.owns (List.getElem?_eq_some_iff.mp hp.owns).1
  rw [List.take_length, hp.before] at this
  exact this

/-- A new handle is the next one on both sides. -/
theorem pair_new (os : List SessionId) (S : SessionId) :
    Pair (os ++ [S]) S ⟨os.length⟩ ⟨(ofSession S os).length⟩ := by
  refine ⟨owns_snoc_iff.mpr (.inr ⟨rfl, rfl⟩), ?_⟩
  simp

theorem pair_snoc (hp : Pair (os ++ [S]) S h k) :
    Pair os S h k ∨ h = ⟨os.length⟩ ∧ k = ⟨(ofSession S os).length⟩ := by
  rcases owns_snoc_iff.mp hp.owns with ho | ⟨he, -⟩
  · exact .inl ((pair_append_iff ho).mp hp)
  · have hh : h = ⟨os.length⟩ := HandleId.index_inj.mp he
    subst hh
    exact .inr ⟨rfl, hp.right_unique (pair_new os S)⟩

/-! ## Tokens, handles and tables -/

inductive TokenPair (o : Ownership) (os : List SessionId) (S : SessionId) :
    TokenId → TokenId → Prop
  | close (n : Nat) : TokenPair o os S (.close S n) (.close S n)
  | own {h k : HandleId} (hp : Pair os S h k) : TokenPair o os S (.own h) (.own k)
  | named {n : String} (hn : o.token n = S) : TokenPair o os S (.named n) (.named n)

theorem TokenPair.holder (hp : TokenPair o os S t t') : o.holder os t = some S := by
  cases hp with
  | close n => rfl
  | own hp => exact hp.owns
  | named hn => exact congrArg some hn

theorem TokenPair.append (hp : TokenPair o os S t t') (os' : List SessionId) :
    TokenPair o (os ++ os') S t t' := by
  cases hp with
  | close n => exact .close n
  | own hp => exact .own (hp.append os')
  | named hn => exact .named hn

theorem TokenPair.of_append_other (hT : T ≠ S) {n : Nat}
    (hp : TokenPair o (os ++ List.replicate n T) S t t') : TokenPair o os S t t' := by
  cases hp with
  | close n => exact .close n
  | own hp => exact .own (hp.of_append_other hT)
  | named hn => exact .named hn

theorem TokenPair.eq_iff (hp : TokenPair o os S t t') (hp' : TokenPair o os S u u') :
    t = u ↔ t' = u' := by
  cases hp with
  | close n => cases hp' <;> simp
  | own hp =>
      cases hp' with
      | own hp' =>
          simp only [TokenId.own.injEq]
          exact hp.eq_iff hp'
      | close n => simp
      | named hn => simp
  | named hn => cases hp' <;> simp

/-- The same handle in both, but for whose others there are. -/
structure HandlePair (o : Ownership) (os : List SessionId) (S : SessionId) (x y : Handle) :
    Prop where
  requestId : x.requestId = y.requestId
  operation : x.operation = y.operation
  cancellable : x.cancellable = y.cancellable
  token : TokenPair o os S x.token y.token
  callback : x.callback = y.callback
  context : x.context.map SharedContext.content = y.context.map SharedContext.content
  fired : x.fired = y.fired

theorem HandlePair.append {x y : Handle} (hp : HandlePair o os S x y) (os' : List SessionId) :
    HandlePair o (os ++ os') S x y :=
  { hp with token := hp.token.append os' }

theorem HandlePair.fire {x y : Handle} (hp : HandlePair o os S x y) :
    HandlePair o os S { x with fired := true } { y with fired := true } :=
  { hp with fired := rfl }

variable {α β : Type} {R R' : α → β → Prop}

theorem optionRel_imp {a : Option α} {b : Option β} (hr : Option.Rel R a b)
    (hi : ∀ x y, R x y → R' x y) : Option.Rel R' a b := by
  cases hr with
  | some h => exact .some (hi _ _ h)
  | none => exact .none

namespace Table

variable {κ : Type}

/-- Tables with the same keys in the same order, and values that go together. -/
def Corresponds (R : α → β → Prop) (t : Table κ α) (u : Table κ β) : Prop :=
  List.Forall₂ (fun e f => e.1 = f.1 ∧ R e.2 f.2) t.entries u.entries

variable {t : Table κ α} {u : Table κ β}

theorem corresponds_empty : Corresponds R (∅ : Table κ α) (∅ : Table κ β) := .nil

theorem Corresponds.imp (hc : t.Corresponds R u) (hR : ∀ a b, R a b → R' a b) :
    t.Corresponds R' u :=
  List.Forall₂.imp (fun _ _ he => ⟨he.1, hR _ _ he.2⟩) hc

theorem Corresponds.values (hc : t.Corresponds R u) : List.Forall₂ R t.values u.values := by
  simp only [Table.values, List.forall₂_map_left_iff, List.forall₂_map_right_iff]
  exact List.Forall₂.imp (fun _ _ he => he.2) hc

theorem Corresponds.size (hc : t.Corresponds R u) : t.size = u.size := List.Forall₂.length_eq hc

variable [DecidableEq κ]

theorem Corresponds.get? (hc : t.Corresponds R u) (k : κ) : Option.Rel R (t.get? k) (u.get? k) := by
  simp only [Corresponds] at hc
  simp only [Table.get?]
  generalize t.entries = es, u.entries = fs at hc ⊢
  induction hc with
  | nil => exact .none
  | @cons e f es fs he hes ih =>
      obtain ⟨i, a⟩ := e
      obtain ⟨j, b⟩ := f
      obtain ⟨rfl, hab⟩ := he
      simp only [find?]
      split
      · exact .some hab
      · exact ih

theorem Corresponds.insert (hc : t.Corresponds R u) (k : κ) {a : α} {b : β} (hab : R a b) :
    (t.insert k a).Corresponds R (u.insert k b) := by
  simp only [Corresponds] at hc ⊢
  simp only [Table.insert]
  generalize t.entries = es, u.entries = fs at hc ⊢
  induction hc with
  | nil => exact .cons ⟨rfl, hab⟩ .nil
  | @cons e f es fs he hes ih =>
      obtain ⟨i, a'⟩ := e
      obtain ⟨j, b'⟩ := f
      obtain ⟨rfl, hab'⟩ := he
      simp only [put]
      split
      · exact .cons ⟨rfl, hab⟩ hes
      · exact .cons ⟨rfl, hab'⟩ ih

theorem Corresponds.erase (hc : t.Corresponds R u) (k : κ) :
    (t.erase k).Corresponds R (u.erase k) := by
  simp only [Corresponds] at hc ⊢
  simp only [Table.erase]
  generalize t.entries = es, u.entries = fs at hc ⊢
  induction hc with
  | nil => exact .nil
  | @cons e f es fs he hes ih =>
      rw [drop_cons, drop_cons, ← he.1]
      split
      · exact ih
      · exact .cons he ih

end Table

end DirectorySessions
