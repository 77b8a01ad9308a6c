/-
# What a tree says, and who reads it

A tree without a flaw spells one value: its members as they come, repeated
ones included (`Spells`).  Where things stand in the text matters to the errors
of a reader alone.  So a reader that succeeds on a tree succeeds on any other
tree that spells the same value, with the same outcome; such a reader is called
placeless, and every reader of a record, a list or a scalar is (`Placeless`).

A free value is what is spelled, with the repetitions folded
(`Value.folded`).

Most readers are therefore described by one equation each: given that the tree
spells a value, the reader succeeds with an outcome exactly if the value is so
and so (`readString_eq_ok`, `readInteger_eq_ok`, `readOptional_eq_ok` and so
on).  The readers of the program are made from these, and their equations from
theirs.
-/
import DirectorySessions.Json.Reader

namespace DirectorySessions.Json

/-! ## Success of a reader -/

section

variable {ε : Type}

@[simp] theorem bind_eq_ok {α β : Type} {x : Except ε α} {f : α → Except ε β} {b : β} :
    (x >>= f) = .ok b ↔ ∃ a, x = .ok a ∧ f a = .ok b := by
  cases x <;> simp [bind, Except.bind]

@[simp] theorem pure_eq_ok {α : Type} {a b : α} : (pure a : Except ε α) = .ok b ↔ a = b := by
  simp [pure, Except.pure]

@[simp] theorem map_eq_ok {α β : Type} {x : Except ε α} {f : α → β} {b : β} :
    f <$> x = .ok b ↔ ∃ a, x = .ok a ∧ f a = b := by
  cases x <;> simp [Functor.map, Except.map]

@[simp] theorem mapError_eq_ok {ε' α : Type} {x : Except ε α} {f : ε → ε'} {a : α} :
    x.mapError f = .ok a ↔ x = .ok a := by
  cases x with
  | ok b =>
      show (.ok b : Except ε' α) = .ok a ↔ _
      simp
  | error e =>
      show (.error (f e) : Except ε' α) = .ok a ↔ _
      simp

theorem discard_eq_ok {α : Type} {x : Except ε α} {u : PUnit} :
    discard x = .ok u ↔ ∃ a, x = .ok a := by
  cases x <;> simp [Functor.discard, Functor.mapConst, Except.map]

theorem toOption_eq_some {α : Type} {x : Except ε α} {a : α} :
    x.toOption = some a ↔ x = .ok a := by
  cases x <;> simp [Except.toOption]

end

@[simp] theorem failAt_ne_ok {α : Type} {f : Fault} {a : α} : failAt f ≠ .ok a := nofun

@[simp] theorem mismatchAt_ne_ok {α : Type} {m : Mismatch} {o : Nat} {a : α} :
    mismatchAt m o ≠ .ok a := nofun

/-! ## What a tree spells -/

def Scalar.lead : Scalar → Lead
  | .string _ => .quote
  | _ => .other

/-- The token can be read and passed, and this is what it says. -/
structure Token.Spells (t : Token) (s : Scalar) : Prop where
  read : t.read = .ok s
  skip : ∃ o, t.skip = .ok o
  lead : t.lead = s.lead

/-- A container that does not break off. -/
def Ending.Whole (e : Ending) : Prop := e.skip = .ok ()

theorem Ending.finish_eq_ok {e : Ending} {u : Unit} : e.finish = .ok u ↔ e.Whole := by
  cases e <;> simp [Ending.finish, Ending.Whole, Ending.skip, failAt]

theorem Ending.whole_whole : Ending.whole.Whole := rfl


mutual

/-- The tree has no flaw, and this is the value that it spells. -/
inductive Node.Spells : Node → Value → Prop
  | scalar {t : Token} {s : Scalar} : t.Spells s → Node.Spells (.scalar t) s.toValue
  | array {start : Nat} {items : List Node} {e : Ending} {vs : List Value} :
      Node.SpellsItems items vs → e.Whole → Node.Spells (.array start items e) (.array vs)
  | object {start : Nat} {members : List (KeySite × Node)} {e : Ending} {ms : Members} :
      Node.SpellsMembers members ms → e.Whole →
      Node.Spells (.object start members e) (.object ms)

inductive Node.SpellsItems : List Node → List Value → Prop
  | nil : Node.SpellsItems [] []
  | cons {n : Node} {v : Value} {ns : List Node} {vs : List Value} :
      Node.Spells n v → Node.SpellsItems ns vs → Node.SpellsItems (n :: ns) (v :: vs)

/-- The same of the members of an object, in order and with repetitions. -/
inductive Node.SpellsMembers : List (KeySite × Node) → Members → Prop
  | nil : Node.SpellsMembers [] []
  | cons {site : KeySite} {n : Node} {k : String} {v : Value} {ns : List (KeySite × Node)}
      {ms : Members} : site.2.1.Spells (.string k) → Node.Spells n v →
      Node.SpellsMembers ns ms → Node.SpellsMembers ((site, n) :: ns) ((k, v) :: ms)

end

theorem Node.Spells.eq_object {n : Node} {ms : Members} (h : n.Spells (.object ms)) :
    ∃ start members e, n = .object start members e ∧ Node.SpellsMembers members ms ∧ e.Whole := by
  generalize hv : Value.object ms = v at h
  cases h with
  | @scalar t s ht => cases s <;> cases hv
  | array hs he => cases hv
  | object hs he =>
      cases hv
      exact ⟨_, _, _, rfl, hs, he⟩

theorem Token.Spells.eq {t : Token} {s : Scalar} (h : t.Spells s) :
    t = ⟨t.start, s.lead, .ok s, t.skip⟩ := by
  obtain ⟨start, lead, read, skip⟩ := t
  simp only [Token.mk.injEq]
  exact ⟨trivial, h.lead, h.read, trivial⟩

theorem Node.readString_scalar {t : Token} {k : String}
    (h : Node.readString (.scalar t) = .ok k) : t.read = .ok (.string k) := by
  unfold Node.readString at h
  split at h
  next hs => cases hs; cases h; rfl
  next => cases h

theorem Token.Spells.readString {t : Token} {k : String} (h : t.Spells (.string k)) :
    Node.readString (.scalar t) = .ok k := by
  rw [h.eq]
  rfl

theorem Token.ofScalar_spells (s : Scalar) : (Token.ofScalar s).Spells s :=
  ⟨rfl, ⟨0, rfl⟩, by cases s <;> rfl⟩

@[simp] theorem Scalar.toNode_toValue (s : Scalar) :
    s.toValue.toNode = .scalar (.ofScalar s) := by
  cases s <;> rfl

mutual

theorem Value.toNode_spells : ∀ v : Value, v.toNode.Spells v
  | .null => .scalar (Token.ofScalar_spells .null)
  | .bool b => .scalar (Token.ofScalar_spells (.bool b))
  | .number n => .scalar (Token.ofScalar_spells (.number n))
  | .string s => .scalar (Token.ofScalar_spells (.string s))
  | .array items => .array (Value.toNodes_spells items) rfl
  | .object members => .object (Value.toSites_spells members) rfl

theorem Value.toNodes_spells : ∀ vs : List Value, Node.SpellsItems (Value.toNodes vs) vs
  | [] => .nil
  | v :: vs => .cons (Value.toNode_spells v) (Value.toNodes_spells vs)

theorem Value.toSites_spells : ∀ ms : Members, Node.SpellsMembers (Value.toSites ms) ms
  | [] => .nil
  | (k, v) :: ms =>
      .cons (Token.ofScalar_spells (.string k)) (Value.toNode_spells v) (Value.toSites_spells ms)

end

mutual

/-- A tree without a flaw can be passed over. -/
theorem Node.Spells.skip : ∀ {n : Node} {v : Value}, n.Spells v → n.skip = .ok ()
  | .scalar t, _, .scalar ⟨_, ⟨o, h⟩, _⟩ => by simp [Node.skip, h, Except.map]
  | .array .., _, .array h he => by rw [Node.skip]; exact h.skip he
  | .object .., _, .object h he => by rw [Node.skip]; exact h.skip he

theorem Node.SpellsItems.skip : ∀ {ns : List Node} {vs : List Value} {e : Ending},
    Node.SpellsItems ns vs → e.Whole → Node.skipItems e ns = .ok ()
  | [], _, _, .nil, he => he
  | _ :: _, _, _, .cons h hs, he => by
      rw [Node.skipItems, h.skip]
      exact hs.skip he

theorem Node.SpellsMembers.skip : ∀ {ns : List (KeySite × Node)} {ms : Members} {e : Ending},
    Node.SpellsMembers ns ms → e.Whole → Node.skipMembers e ns = .ok ()
  | [], _, _, .nil, he => he
  | (_, _) :: _, _, _, .cons ⟨_, ⟨_, hk⟩, _⟩ h hs, he => by
      rw [Node.skipMembers, hk, h.skip]
      exact hs.skip he

end

/-! ## Readers that do not mind the place -/

/-- The reader succeeds on a tree exactly when it does on the value that the
tree spells, and with the same outcome. -/
structure Placeless {α : Type} (read : Node → Reading α) : Prop where
  read_eq_ok : ∀ {n : Node} {v : Value}, n.Spells v → ∀ a, read n = .ok a ↔ read v.toNode = .ok a

/-- A reader is placeless if its success can be told from what is spelled. -/
theorem placeless_of_iff {α : Type} {read : Node → Reading α} {P : Value → α → Prop}
    (h : ∀ {n : Node} {v : Value}, n.Spells v → ∀ a, read n = .ok a ↔ P v a) :
    Placeless read :=
  ⟨fun hn a => (h hn a).trans (h (Value.toNode_spells _) a).symm⟩

namespace Node.Spells

variable {n : Node} {v : Value}

theorem readString_eq_ok (h : n.Spells v) (s : String) :
    n.readString = .ok s ↔ v = .string s := by
  cases h with
  | @scalar t x ht =>
      rw [ht.eq]
      cases x <;> simp [Node.readString, Scalar.toValue]
  | array => simp [Node.readString]
  | object => simp [Node.readString]

theorem readBool_eq_ok (h : n.Spells v) (b : Bool) : n.readBool = .ok b ↔ v = .bool b := by
  cases h with
  | @scalar t x ht =>
      rw [ht.eq]
      cases x <;> simp [Node.readBool, Scalar.toValue]
  | array => simp [Node.readBool]
  | object => simp [Node.readBool]

theorem readNull_eq_ok (h : n.Spells v) (wanted : String) (u : Unit) :
    n.readNull wanted = .ok u ↔ v = .null := by
  cases h with
  | @scalar t x ht =>
      rw [ht.eq]
      cases x <;> simp [Node.readNull, Scalar.toValue]
  | array => simp [Node.readNull]
  | object => simp [Node.readNull]

theorem readInteger_eq_ok (h : n.Spells v) (k : IntegerKind) (i : Int) :
    n.readInteger k = .ok i ↔ v = .ofInt i ∧ k.least ≤ i ∧ i ≤ k.greatest := by
  cases h with
  | @scalar t x ht =>
      rw [ht.eq]
      rcases x with _ | _ | (j | _) | _ <;>
        simp only [Node.readInteger, Scalar.toValue, Value.ofInt]
      · simp
      · simp
      · split <;> simp <;> grind
      · simp
      · simp
  | array => simp [Node.readInteger, Value.ofInt]
  | object => simp [Node.readInteger, Value.ofInt]

theorem readOptional_eq_ok (h : n.Spells v) {α : Type} (read : Node → Reading α) (a : Option α) :
    n.readOptional read = .ok a ↔
      v = .null ∧ a = none ∨ v ≠ .null ∧ ∃ b, read n = .ok b ∧ a = some b := by
  cases h with
  | @scalar t x ht =>
      rw [ht.eq]
      cases x <;> simp [Node.readOptional, Scalar.toValue] <;> grind
  | array => simp [Node.readOptional]; grind
  | object => simp [Node.readOptional]; grind

end Node.Spells

theorem Placeless.map {α β : Type} {read : Node → Reading α} (h : Placeless read) (f : α → β) :
    Placeless fun n => f <$> read n := by
  refine ⟨fun {n v} hn b => ?_⟩
  simp [h.read_eq_ok hn]

theorem Placeless.bind {α β : Type} {read : Node → Reading α} {next : α → Reading β}
    (h : Placeless read) : Placeless fun n => read n >>= next := by
  refine ⟨fun {n v} hn b => ?_⟩
  simp [h.read_eq_ok hn]

theorem placeless_pure {α : Type} (a : α) : Placeless fun _ => (pure a : Reading α) :=
  ⟨fun _ _ => Iff.rfl⟩

theorem placeless_readString : Placeless Node.readString :=
  placeless_of_iff fun h => h.readString_eq_ok

theorem placeless_readBool : Placeless Node.readBool :=
  placeless_of_iff fun h => h.readBool_eq_ok

theorem placeless_readInteger (k : IntegerKind) : Placeless (·.readInteger k) :=
  placeless_of_iff fun h => h.readInteger_eq_ok k

theorem Placeless.readOptional {α : Type} {read : Node → Reading α} (h : Placeless read) :
    Placeless (·.readOptional read) := by
  refine ⟨fun {n v} hn a => ?_⟩
  simp only [hn.readOptional_eq_ok, (Value.toNode_spells v).readOptional_eq_ok,
    h.read_eq_ok hn]

theorem readItems_placeless {α : Type} {read : Node → Reading α} (h : Placeless read)
    {e e' : Ending} (he : e.Whole) (he' : e'.Whole) : ∀ {ns : List Node} {vs : List Value},
    Node.SpellsItems ns vs → ∀ as,
      readItems read e ns = .ok as ↔ readItems read e' (Value.toNodes vs) = .ok as
  | [], _, .nil, as => by simp [readItems, Value.toNodes, Ending.finish_eq_ok, he, he']
  | _ :: _, _, .cons hn hns, as => by
      simp [readItems, Value.toNodes, h.read_eq_ok hn, readItems_placeless h he he' hns]

theorem Placeless.readList {α : Type} {read : Node → Reading α} (h : Placeless read) :
    Placeless (·.readList read) := by
  refine ⟨fun {n v} hn a => ?_⟩
  cases hn with
  | scalar => simp [Node.readList]
  | array hs he => exact readItems_placeless h he Ending.whole_whole hs a
  | object => simp [Node.readList, Value.toNode]

/-! ### Names -/

theorem variantOf_eq_ok {name : String} {known : List String} {stop : Nat} {a : String} :
    variantOf name known stop = .ok a ↔ a = name ∧ name ∈ known := by
  unfold variantOf
  split
  · simp_all [eq_comm]
  · simp_all

/-- A choice is its name, or an object with the name as its only key and null
as its value. -/
theorem Node.Spells.readVariant_eq_ok {n : Node} {v : Value} (hn : n.Spells v)
    (known : List String) (a : String) :
    n.readVariant known = .ok a ↔
      (v = .string a ∨ v = .object [(a, .null)]) ∧ a ∈ known := by
  cases hn with
  | @scalar t x ht =>
      rw [ht.eq]
      cases x <;>
        simp [Node.readVariant, Scalar.lead, Node.readString, Scalar.toValue, variantOf_eq_ok]
      grind
  | array => simp [Node.readVariant]
  | @object start members e ms hs he =>
      cases hs with
      | nil => cases e <;> simp [Node.readVariant]
      | @cons site n k v ns ms hk hn hns =>
          simp only [Node.readVariant, hk.readString, bind_eq_ok, Except.ok.injEq, exists_eq_left',
            variantOf_eq_ok, hn.readNull_eq_ok]
          cases hns with
          | nil => cases e <;> simp_all [Ending.Whole, Ending.skip] <;> grind
          | cons => cases e <;> simp

theorem Node.Spells.readName_eq_ok {n : Node} {v : Value} (hn : n.Spells v)
    (known : List String) (a : String) :
    n.readName known = .ok a ↔ v = .string a ∧ a ∈ known := by
  cases hn with
  | @scalar t x ht =>
      rw [ht.eq]
      cases x <;> simp [Node.readName, Scalar.toValue, variantOf_eq_ok]
      grind
  | array => simp [Node.readName]
  | object => simp [Node.readName]

theorem placeless_readVariant (known : List String) : Placeless (·.readVariant known) :=
  placeless_of_iff fun h => h.readVariant_eq_ok known

/-! ### Records -/

section Records

variable {σ : Type} {shape : Shape} {put : σ → String → Node → Reading σ}

theorem readMembers_placeless (hput : ∀ s f, Placeless (put s f)) {e e' : Ending}
    (he : e.Whole) (he' : e'.Whole) : ∀ {ns : List (KeySite × Node)} {ms : Members},
    Node.SpellsMembers ns ms → ∀ s seen a, readMembers shape put e s seen ns = .ok a ↔
      readMembers shape put e' s seen (Value.toSites ms) = .ok a
  | [], _, .nil, s, seen, a => by
      simp only [readMembers, Value.toSites, bind_eq_ok, Ending.finish_eq_ok, he, he']
      split <;> simp
  | (site, n) :: ns, (k, v) :: ms, .cons hk hn hns, s, seen, a => by
      have hsite : Node.readString (.scalar (Token.ofScalar (.string k))) = .ok k := rfl
      simp only [readMembers, Value.toSites, hk.readString, hsite, hn.skip,
        (Value.toNode_spells v).skip, bind_eq_ok, Except.ok.injEq, exists_eq_left']
      split
      · split
        · simp
        · simp [(hput s k).read_eq_ok hn, readMembers_placeless hput he he' hns]
      · exact readMembers_placeless hput he he' hns s seen a

theorem finishFixed_eq_ok {count : Nat} {items : List Node} {e : Ending} (he : e.Whole)
    {u : Unit} : finishFixed count items e = .ok u ↔ items = [] := by
  cases items <;> cases e <;> simp_all [finishFixed, Ending.Whole, Ending.skip]

theorem readFields_placeless (hput : ∀ s f, Placeless (put s f)) {e e' : Ending}
    (he : e.Whole) (he' : e'.Whole) (count count' : Nat) (a : σ) :
    ∀ {fs : List (String × Bool)} {ns : List Node} {vs : List Value},
    Node.SpellsItems ns vs → ∀ s index, readFields shape put e count s index fs ns = .ok a ↔
      readFields shape put e' count' s index fs (Value.toNodes vs) = .ok a
  | [], _, _, hns, s, index => by
      simp only [readFields, bind_eq_ok, finishFixed_eq_ok he, finishFixed_eq_ok he', pure_eq_ok]
      cases hns <;> simp [Value.toNodes]
  | f :: fs, [], _, .nil, s, index => by
      simp only [readFields, Value.toNodes, bind_eq_ok, Ending.finish_eq_ok, he, he', true_and]
      split
      · simp
      · exact exists_congr fun _ =>
          readFields_placeless hput he he' count count' a .nil s (index + 1)
  | f :: fs, n :: ns, v :: vs, .cons hn hns, s, index => by
      simp only [readFields, Value.toNodes, bind_eq_ok, (hput s f.1).read_eq_ok hn,
        readFields_placeless hput he he' count count' a hns]

theorem placeless_readRecord (hput : ∀ s f, Placeless (put s f)) (init : σ) :
    Placeless (·.readRecord shape init put) := by
  refine ⟨fun {n v} hn a => ?_⟩
  cases hn with
  | scalar => simp [Node.readRecord]
  | array hs he => exact readFields_placeless hput he Ending.whole_whole _ _ a hs init 0
  | object hs he => exact readMembers_placeless hput he Ending.whole_whole hs init [] a

end Records

/-! ## Free values -/

mutual

/-- A value with the repetitions in its objects folded: keys ascend, and of
the members under one key the last counts. -/
def Value.folded : Value → Value
  | .array items => .array (Value.foldedItems items)
  | .object ms => .object (Members.ofList (Value.foldedMembers ms))
  | v => v

def Value.foldedItems : List Value → List Value
  | [] => []
  | v :: vs => v.folded :: Value.foldedItems vs

def Value.foldedMembers : Members → Members
  | [] => []
  | (k, v) :: ms => (k, v.folded) :: Value.foldedMembers ms

end

mutual

def Value.depth : Value → Nat
  | .array items => Value.depthItems items + 1
  | .object ms => Value.depthMembers ms + 1
  | _ => 0

def Value.depthItems : List Value → Nat
  | [] => 0
  | v :: vs => max v.depth (Value.depthItems vs)

def Value.depthMembers : Members → Nat
  | [] => 0
  | (_, v) :: ms => max v.depth (Value.depthMembers ms)

end

theorem depth_le_depthMembers {m : String × Value} {ms : Members} (h : m ∈ ms) :
    m.2.depth ≤ Value.depthMembers ms := by
  induction ms with
  | nil => exact absurd h List.not_mem_nil
  | cons m' ms ih =>
      obtain ⟨k, v⟩ := m'
      rw [Value.depthMembers]
      rcases List.mem_cons.1 h with rfl | h
      · exact Nat.le_max_left ..
      · exact Nat.le_trans (ih h) (Nat.le_max_right ..)

/-- Containers nested so deep may stand inside so many others. -/
def FitsAt (level depth : Nat) : Prop := depth = 0 ∨ level + depth < depthLimit

theorem fitsAt_max {level a b : Nat} :
    FitsAt level (max a b) ↔ FitsAt level a ∧ FitsAt level b := by
  unfold FitsAt; omega

theorem fitsAt_succ {level depth : Nat} :
    FitsAt level (depth + 1) ↔ ¬ depthLimit ≤ level + 1 ∧ FitsAt (level + 1) depth := by
  unfold FitsAt; omega

@[simp] theorem Scalar.folded_toValue (s : Scalar) : s.toValue.folded = s.toValue := by
  cases s <;> rfl

@[simp] theorem Scalar.depth_toValue (s : Scalar) : s.toValue.depth = 0 := by
  cases s <;> rfl

mutual

/-- A free value is read unless it is nested too deep, and it is what is
spelled, folded. -/
theorem Node.Spells.readValue_eq_ok : ∀ {n : Node} {v : Value}, n.Spells v →
    ∀ level w, n.readValue level = .ok w ↔ FitsAt level v.depth ∧ w = v.folded
  | .scalar t, _, .scalar (s := s) ht, level, w => by
      simp [Node.readValue, ht.read, FitsAt, eq_comm]
  | .array .., _, .array hs he, level, w => by
      simp only [Node.readValue, Value.depth, Value.folded, fitsAt_succ]
      split
      · simp_all
      · simp only [bind_eq_ok, hs.readValues_eq_ok he, pure_eq_ok]
        grind
  | .object .., _, .object hs he, level, w => by
      simp only [Node.readValue, Value.depth, Value.folded, fitsAt_succ]
      split
      · simp_all
      · simp only [bind_eq_ok, hs.readPairs_eq_ok he, pure_eq_ok]
        grind

theorem Node.SpellsItems.readValues_eq_ok : ∀ {ns : List Node} {vs : List Value},
    Node.SpellsItems ns vs → ∀ {e : Ending}, e.Whole → ∀ level ws,
    Node.readValues level e ns = .ok ws ↔
      FitsAt level (Value.depthItems vs) ∧ ws = Value.foldedItems vs
  | [], _, .nil, e, he, level, ws => by
      simp only [Node.readValues, bind_eq_ok, Ending.finish_eq_ok, he, pure_eq_ok]
      simp [Value.depthItems, Value.foldedItems, FitsAt, eq_comm]
  | n :: ns, _, .cons hn hns, e, he, level, ws => by
      simp only [Node.readValues, Value.depthItems, Value.foldedItems, fitsAt_max, bind_eq_ok,
        hn.readValue_eq_ok, hns.readValues_eq_ok he, pure_eq_ok]
      grind

theorem Node.SpellsMembers.readPairs_eq_ok : ∀ {ns : List (KeySite × Node)} {ms : Members},
    Node.SpellsMembers ns ms → ∀ {e : Ending}, e.Whole → ∀ level ws,
    Node.readPairs level e ns = .ok ws ↔
      FitsAt level (Value.depthMembers ms) ∧ ws = Value.foldedMembers ms
  | [], _, .nil, e, he, level, ws => by
      simp only [Node.readPairs, bind_eq_ok, Ending.finish_eq_ok, he, pure_eq_ok]
      simp [Value.depthMembers, Value.foldedMembers, FitsAt, eq_comm]
  | (site, n) :: ns, (k, v) :: ms, .cons hk hn hns, e, he, level, ws => by
      simp only [Node.readPairs, Value.depthMembers, Value.foldedMembers, fitsAt_max, bind_eq_ok,
        hk.readString, hn.readValue_eq_ok, hns.readPairs_eq_ok he, pure_eq_ok]
      grind

end

theorem readItems_readValue (level : Nat) (e : Ending) (ns : List Node) :
    readItems (·.readValue level) e ns = Node.readValues level e ns := by
  induction ns with
  | nil => rfl
  | cons n ns ih => rw [readItems, Node.readValues, ih]

theorem placeless_readValue (level : Nat) : Placeless (·.readValue level) :=
  placeless_of_iff fun h => h.readValue_eq_ok level

end DirectorySessions.Json
