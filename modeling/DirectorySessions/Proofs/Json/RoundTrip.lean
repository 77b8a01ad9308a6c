/-
# What is written is read

The text of a value is read as a tree that spells the value, whatever follows
it, as long as what follows cannot continue a number (`Value.builds`).
That takes values without floating-point numbers, whose whole numbers fit 64 bits
(`Value.Exact`); order and repetition of keys do not matter here.

The proof goes along the text.  A scalar of the value is a single lexeme that
spells it; a container is its items or members, with the marks between them, and
the builder comes out of each of them as it comes out of a scalar.
-/
import DirectorySessions.Json.Printer
import DirectorySessions.Proofs.Json.Keys
import DirectorySessions.Proofs.Json.Trees

namespace DirectorySessions.Json

/-! ## Strings -/

def Unit16.Spells : Unit16 → Char → Prop
  | .plain c, d => c = d
  | .escaped c, d => c = d
  | .code n, d => n < 0x20 ∧ n = d.toNat

theorem Unit16.Spells.joinPieces {u : Unit16} {c : Char} (h : u.Spells c) (finish : Finish)
    (start : Nat) (ps : List Piece) :
    joinPieces finish none (⟨start, u⟩ :: ps) = (c :: ·) <$> joinPieces finish none ps := by
  cases u with
  | plain d => obtain rfl : d = c := h; rfl
  | escaped d => obtain rfl : d = c := h; rfl
  | code n =>
      obtain ⟨hn, rfl⟩ := h
      have hlow : isLowHalf c.toNat = false := by simp [isLowHalf]; omega
      have hhigh : isHighHalf c.toNat = false := by simp [isHighHalf]; omega
      simp [Json.joinPieces, hlow, hhigh]

/-- A character stands for itself, or as a letter after a backslash, or, if it is
a control character, as four hexadecimal digits. -/
theorem escapeChar_cases (c : Char) :
    (escapeChar c = [c] ∧ c ≠ '"' ∧ c ≠ '\\' ∧ 0x20 ≤ c.toNat) ∨
    (∃ l, escapeChar c = ['\\', l] ∧ l ≠ 'u' ∧ unescape? l = some c) ∨
    ∃ x y, escapeChar c = ['\\', 'u', '0', '0', x, y] ∧ hexCode? '0' '0' x y = some c.toNat ∧
      c.toNat < 0x20 := by
  have hex : ∀ n < 0x20, hexCode? '0' '0' (hexDigit (n / 16)) (hexDigit (n % 16)) = some n := by
    decide
  have named : ∀ d : Char, c.toNat = d.toNat → c = d := fun d h => Char.toNat_inj.1 h
  unfold escapeChar
  split
  · next h => exact .inr (.inl ⟨'"', rfl, by decide, by rw [h]; rfl⟩)
  · split
    · next h => exact .inr (.inl ⟨'\\', rfl, by decide, by rw [h]; rfl⟩)
    · split
      · next hc =>
        split
        · next h => exact .inr (.inl ⟨'b', rfl, by decide, by rw [named '\x08' h]; rfl⟩)
        · next h => exact .inr (.inl ⟨'t', rfl, by decide, by rw [named '\t' h]; rfl⟩)
        · next h => exact .inr (.inl ⟨'n', rfl, by decide, by rw [named '\n' h]; rfl⟩)
        · next h => exact .inr (.inl ⟨'f', rfl, by decide, by rw [named '\x0c' h]; rfl⟩)
        · next h => exact .inr (.inl ⟨'r', rfl, by decide, by rw [named '\r' h]; rfl⟩)
        · exact .inr (.inr ⟨_, _, rfl, hex _ hc, hc⟩)
      · next hq hb hc => exact .inl ⟨rfl, hq, hb, by omega⟩

/-- A character of a string is read as one unit that stands for it. -/
theorem scanBody_escapeChar (c : Char) (cs : List Char) (o : Nat) :
    ∃ u o', u.Spells c ∧ scanBody (escapeChar c ++ cs) o = (scanBody cs o').cons ⟨o, u⟩ := by
  obtain ⟨he, hq, hb, hc⟩ | ⟨l, he, hl, hu⟩ | ⟨x, y, he, hx, hc⟩ := escapeChar_cases c
  · refine ⟨.plain c, o + c.utf8Size, rfl, ?_⟩
    rw [he, List.singleton_append, scanBody.eq_def]
    split <;> simp_all [Nat.not_lt_of_le]
  · refine ⟨.escaped c, o + 2, rfl, ?_⟩
    rw [he, List.cons_append, List.singleton_append, scanBody.eq_def]
    split <;> simp_all
    next hnil hcons heq => exact absurd heq.2.symm (hcons _ _ heq.1.symm)
  · refine ⟨.code c.toNat, o + 6, ⟨hc, rfl⟩, ?_⟩
    rw [he]
    simp [scanBody, hx]

theorem scanBody_bodyChars (cs rest : List Char) (o : Nat) :
    ∃ ps close, scanBody (bodyChars cs ++ rest) o = ⟨ps, .closed close, rest⟩ ∧
      joinPieces (.closed close) none ps = .ok cs := by
  induction cs generalizing o with
  | nil => exact ⟨[], o, by simp [bodyChars, scanBody], rfl⟩
  | cons c cs ih =>
      obtain ⟨u, o', hu, hscan⟩ := scanBody_escapeChar c (bodyChars cs ++ rest) o
      obtain ⟨ps, close, hps, hjoin⟩ := ih o'
      refine ⟨⟨o, u⟩ :: ps, close, ?_, ?_⟩
      · rw [bodyChars, List.append_assoc, hscan, hps]
        rfl
      · rw [hu.joinPieces, hjoin]
        rfl

theorem scanString_bodyChars (s : String) (rest : List Char) (start : Nat) :
    ∃ t o, scanString start (bodyChars s.toList ++ rest) = (t, rest) ∧ t.Spells (.string s) ∧
      t.skip = .ok o := by
  obtain ⟨ps, close, hscan, hjoin⟩ := scanBody_bodyChars s.toList rest (start + 1)
  refine ⟨⟨start, .quote, .ok (.string s), .ok (close + 1)⟩, close + 1, ?_,
    ⟨rfl, ⟨_, rfl⟩, rfl⟩, rfl⟩
  simp [scanString, hscan, hjoin, Functor.map, Except.map, Finish.skip]

/-! ## Numbers -/

/-- Nothing that could continue a number. -/
def EndsNumber (cs : List Char) : Prop :=
  ∀ c ∈ cs.head?, isDigit c = false ∧ c ≠ '.' ∧ c ≠ 'e' ∧ c ≠ 'E'

def Number.Exact : Number → Prop
  | .integer n => -9223372036854775808 ≤ n ∧ n ≤ 18446744073709551615
  | .real _ => False

/-- Digits that fit 64 bits are taken in whole. -/
theorem fillWord_eq {cs : List Char} {n : Nat} (h : Nat.ofDigitChars 10 cs n ≤ maxWord) :
    fillWord n cs = (Nat.ofDigitChars 10 cs n, []) := by
  induction cs generalizing n with
  | nil => rfl
  | cons c cs ih =>
      rw [Nat.ofDigitChars_cons] at h ⊢
      have hle : 10 * n + digitValue c ≤ maxWord := by
        have hpow : 0 < 10 ^ cs.length := Nat.pow_pos (by decide)
        rw [Nat.ofDigitChars_eq_ofDigitChars_zero] at h
        exact Nat.le_trans (Nat.le_trans (Nat.le_mul_of_pos_left _ hpow) (Nat.le_add_right _ _)) h
      rw [fillWord, if_pos hle]
      exact ih h

theorem fillWord_toDigits {n : Nat} (h : n ≤ maxWord) :
    fillWord 0 (Nat.toDigits 10 n) = (n, []) := by
  have hn := Nat.ofDigitChars_toDigits (b := 10) (n := n) (by decide) (by decide)
  rw [fillWord_eq (by rw [hn]; exact h), hn]

theorem isDigit_of_mem_toDigits {n : Nat} {c : Char} (h : c ∈ Nat.toDigits 10 n) :
    isDigit c = true := by
  have h := Nat.isDigit_of_mem_toDigits (by decide) (by decide) h
  simp only [Char.isDigit, Bool.and_eq_true, decide_eq_true_eq] at h
  simpa [isDigit, Char.le_def] using h

theorem toDigits_eq_zero_cons {n : Nat} {cs : List Char} (h : Nat.toDigits 10 n = '0' :: cs) :
    cs = [] := by
  induction n using Nat.strongRecOn generalizing cs with
  | ind n ih =>
      by_cases hn : n < 10
      · rw [Nat.toDigits_of_lt_base hn] at h
        exact (List.cons.inj h).2.symm
      · rw [Nat.toDigits_of_base_le (by decide) (by omega)] at h
        obtain ⟨c, ds, hds⟩ :=
          List.exists_cons_of_ne_nil (Nat.toDigits_ne_nil (n := n / 10) (b := 10))
        rw [hds, List.cons_append] at h
        obtain ⟨rfl, -⟩ := List.cons.inj h
        obtain rfl := ih (n / 10) (by omega) hds
        have hzero := Nat.ofDigitChars_toDigits (b := 10) (n := n / 10) (by decide) (by decide)
        rw [hds] at hzero
        simp [Nat.ofDigitChars] at hzero
        omega

theorem takeWhile_isDigit {cs : List Char} (h : EndsNumber cs) : cs.takeWhile isDigit = [] := by
  cases cs with
  | nil => rfl
  | cons c cs => simp [(h c (by simp)).1]

theorem dropWhile_isDigit {cs : List Char} (h : EndsNumber cs) : cs.dropWhile isDigit = cs := by
  cases cs with
  | nil => rfl
  | cons c cs => simp [(h c (by simp)).1]

theorem scanFraction_of_ends (start : Nat) (n : Numeral) {cs : List Char} (h : EndsNumber cs)
    (o : Nat) : scanFraction start n cs o = (Token.ofNumeral start n o, cs) := by
  cases cs with
  | nil => rfl
  | cons c cs =>
      obtain ⟨-, hpoint, he, hE⟩ := h c (by simp)
      unfold scanFraction
      split
      · simp_all
      · simp [scanExponent, he, hE]

theorem scanWhole_toDigits (n : Nat) {rest : List Char} (hrest : EndsNumber rest) (start o : Nat)
    (negative : Bool) :
    scanWhole start negative (Nat.toDigits 10 n ++ rest) o =
      (Token.ofNumeral start ⟨negative, Nat.toDigits 10 n, [], false, none⟩
        (o + (Nat.toDigits 10 n).length), rest) := by
  have hall : ∀ c ∈ Nat.toDigits 10 n, isDigit c = true := fun c => isDigit_of_mem_toDigits
  have htake : (Nat.toDigits 10 n ++ rest).takeWhile isDigit = Nat.toDigits 10 n := by
    rw [List.takeWhile_append_of_pos hall, takeWhile_isDigit hrest, List.append_nil]
  have hdrop : (Nat.toDigits 10 n ++ rest).dropWhile isDigit = rest := by
    rw [List.dropWhile_append_of_pos hall, dropWhile_isDigit hrest]
  unfold scanWhole
  simp only [htake, hdrop]
  split
  · next h => exact absurd h Nat.toDigits_ne_nil
  · next h => exact absurd (toDigits_eq_zero_cons h) (List.cons_ne_nil _ _)
  · exact scanFraction_of_ends start _ hrest _

theorem Numeral.value_toDigits {n : Nat} (hn : n ≤ maxWord) (stop : Nat) :
    Numeral.value ⟨false, Nat.toDigits 10 n, [], false, none⟩ stop = .ok (.integer n) := by
  simp [Numeral.value, fillWord_toDigits hn]

theorem Numeral.value_neg_toDigits {n : Nat} (hpos : n ≠ 0) (hn : n ≤ maxNegated) (stop : Nat) :
    Numeral.value ⟨true, Nat.toDigits 10 n, [], false, none⟩ stop = .ok (.integer (-n)) := by
  have hword : n ≤ maxWord := Nat.le_trans hn (by decide)
  simp [Numeral.value, fillWord_toDigits hword, hpos, hn]

/-! ## Lexemes -/

theorem lexemes_mark {c : Char} {m : Mark} (hc : isSpace c = false) (hm : Mark.of? c = some m)
    (cs : List Char) (o : Nat) : lexemes (c :: cs) o = .mark m o :: lexemes cs (o + 1) := by
  rw [lexemes]
  simp [hc, hm]

theorem lexemes_scalar {c : Char} (hc : isSpace c = false) (hm : Mark.of? c = none)
    {cs rest : List Char} {o stop : Nat} {t : Token} (hscan : scanScalar c cs o = (t, rest))
    (hskip : t.skip = .ok stop) : lexemes (c :: cs) o = .scalar t :: lexemes rest stop := by
  rw [lexemes]
  simp only [hc, hm, hscan, Bool.false_eq_true, if_false]
  rw [hskip]

theorem lexemes_string (s : String) (rest : List Char) (o : Nat) :
    ∃ t stop, t.Spells (.string s) ∧
      lexemes (stringChars s ++ rest) o = .scalar t :: lexemes rest stop := by
  obtain ⟨t, stop, hscan, ht, hskip⟩ := scanString_bodyChars s rest o
  exact ⟨t, stop, ht, lexemes_scalar (by decide) (by decide) hscan hskip⟩

theorem scanScalar_digit {c : Char} (h : isDigit c = true) (cs : List Char) (o : Nat) :
    isSpace c = false ∧ Mark.of? c = none ∧ scanScalar c cs o = scanWhole o false (c :: cs) o := by
  have other : ∀ d, isDigit d = false → c ≠ d := by
    rintro d hd rfl
    simp [h] at hd
  refine ⟨?_, ?_, ?_⟩
  · simp [isSpace, other ' ' rfl, other '\n' rfl, other '\t' rfl, other '\r' rfl]
  · unfold Mark.of?
    split <;> first | rfl | exact absurd h (by decide)
  · unfold scanScalar
    split <;> exact if_pos h

theorem Token.ofNumeral_spells {start stop : Nat} {n : Numeral} {x : Number}
    (h : n.value stop = .ok x) : (Token.ofNumeral start n stop).Spells (.number x) :=
  ⟨by simp [Token.ofNumeral, h], ⟨stop, rfl⟩, rfl⟩

theorem lexemes_integer {n : Int} (hn : (Number.integer n).Exact) {rest : List Char}
    (hrest : EndsNumber rest) (o : Nat) :
    ∃ t stop, t.Spells (.number (.integer n)) ∧
      lexemes (integerChars n ++ rest) o = .scalar t :: lexemes rest stop := by
  obtain ⟨hleast, hgreatest⟩ := hn
  unfold integerChars
  split
  · next hneg =>
    have hscan := scanWhole_toDigits n.natAbs hrest o (o + 1) true
    have hvalue := Numeral.value_neg_toDigits (n := n.natAbs) (by omega)
      (by unfold maxNegated; omega) (o + 1 + (Nat.toDigits 10 n.natAbs).length)
    refine ⟨_, _, Token.ofNumeral_spells ?_, lexemes_scalar (by decide) (by decide) hscan rfl⟩
    rw [hvalue]
    congr 2
    omega
  · next hneg =>
    have hscan := scanWhole_toDigits n.natAbs hrest o o false
    have hvalue := Numeral.value_toDigits (n := n.natAbs)
      (by unfold maxWord; omega) (o + (Nat.toDigits 10 n.natAbs).length)
    obtain ⟨c, cs, hcs⟩ :=
      List.exists_cons_of_ne_nil (Nat.toDigits_ne_nil (n := n.natAbs) (b := 10))
    have hc : isDigit c = true := isDigit_of_mem_toDigits (n := n.natAbs) (by simp [hcs])
    obtain ⟨hspace, hmark, hdigit⟩ := scanScalar_digit hc (cs ++ rest) o
    rw [hcs] at hscan hvalue ⊢
    refine ⟨_, _, Token.ofNumeral_spells ?_, lexemes_scalar hspace hmark (hdigit.trans hscan) rfl⟩
    rw [hvalue]
    congr 2
    omega

theorem scanWord_self (start : Nat) (value : Scalar) (letters rest : List Char) (o : Nat) :
    scanWord start value letters (letters ++ rest) o =
      (⟨start, .other, .ok value, .ok (o + letters.length)⟩, rest) := by
  induction letters generalizing o with
  | nil => rfl
  | cons l ls ih =>
      rw [List.cons_append, scanWord, if_pos rfl, ih, List.length_cons]
      congr 3
      omega

/-- The scalar is not a number that is written otherwise than it is read. -/
def Scalar.Exact : Scalar → Prop
  | .number n => n.Exact
  | _ => True

theorem lexemes_chars {s : Scalar} (hs : s.Exact) {rest : List Char} (hrest : EndsNumber rest)
    (o : Nat) : ∃ t stop, t.Spells s ∧
      lexemes (s.toValue.chars ++ rest) o = .scalar t :: lexemes rest stop := by
  have word : ∀ {value : Scalar} {c : Char} (letters : List Char), value.lead = .other →
      isSpace c = false → Mark.of? c = none →
      scanScalar c (letters ++ rest) o = scanWord o value letters (letters ++ rest) (o + 1) →
      ∃ t stop, t.Spells value ∧
        lexemes (c :: letters ++ rest) o = .scalar t :: lexemes rest stop := by
    intro value c letters hvalue hspace hmark hscan
    rw [scanWord_self] at hscan
    exact ⟨_, _, ⟨rfl, ⟨_, rfl⟩, hvalue.symm⟩, lexemes_scalar hspace hmark hscan rfl⟩
  rcases s with _ | (_ | _) | (n | x) | s
  · exact word ['u', 'l', 'l'] rfl (by decide) (by decide) rfl
  · exact word ['a', 'l', 's', 'e'] rfl (by decide) (by decide) rfl
  · exact word ['r', 'u', 'e'] rfl (by decide) (by decide) rfl
  · exact lexemes_integer hs hrest o
  · exact hs.elim
  · exact lexemes_string s rest o

/-! ## Trees -/

mutual

/-- The value holds no number that is written otherwise than it is read. -/
def Value.Exact : Value → Prop
  | .number n => n.Exact
  | .array items => Value.ExactItems items
  | .object ms => Value.ExactMembers ms
  | _ => True

def Value.ExactItems : List Value → Prop
  | [] => True
  | v :: vs => v.Exact ∧ Value.ExactItems vs

def Value.ExactMembers : Members → Prop
  | [] => True
  | (_, v) :: ms => v.Exact ∧ Value.ExactMembers ms

end

theorem exactItems_iff {vs : List Value} : Value.ExactItems vs ↔ ∀ v ∈ vs, v.Exact := by
  induction vs with
  | nil => exact ⟨fun _ _ h => absurd h List.not_mem_nil, fun _ => trivial⟩
  | cons v vs ih => rw [List.forall_mem_cons, ← ih]; rfl

theorem exactMembers_iff {ms : Members} :
    Value.ExactMembers ms ↔ ∀ m ∈ ms, m.2.Exact := by
  induction ms with
  | nil => exact ⟨fun _ _ h => absurd h List.not_mem_nil, fun _ => trivial⟩
  | cons m ms ih => rw [List.forall_mem_cons, ← ih]; rfl

/-- A value may start with the lexeme, so that a list does not end there. -/
def Lexeme.Opens : Lexeme → Prop
  | .mark m _ => m ≠ .closeList
  | .scalar t => t.lead ≠ .nothing

theorem build_item {l : Lexeme} (hl : l.Opens) (start : Nat) (stack : List Open)
    (ls : List Lexeme) :
    build (.item start) stack (l :: ls) = build .value (.array start [] :: stack) (l :: ls) := by
  cases l with
  | mark m o => cases m <;> simp_all [build, Lexeme.Opens]
  | scalar t => simp_all [build, Lexeme.Opens, Lexeme.isEnd]

theorem build_comma {l : Lexeme} (hl : l.Opens) (n : Node) (start o : Nat) (items : List Node)
    (stack : List Open) (ls : List Lexeme) :
    build (.after n) (.array start items :: stack) (.mark .comma o :: l :: ls) =
      build .value (.array start (n :: items) :: stack) (l :: ls) := by
  cases l with
  | mark m p => cases m <;> simp_all [build, Lexeme.Opens]
  | scalar t => simp [build]

theorem Token.Spells.goesOn {t : Token} {s : Scalar} (h : t.Spells s) : t.goesOn = true := by
  obtain ⟨o, ho⟩ := h.skip
  simp [Token.goesOn, ho]

theorem Token.Spells.opens {t : Token} {s : Scalar} (h : t.Spells s) : (Lexeme.scalar t).Opens := by
  show t.lead ≠ .nothing
  rw [h.lead]
  cases s <;> simp [Scalar.lead]

/-- From the text of a value, whatever follows, the builder makes a node that spells it. -/
def Builds (v : Value) : Prop :=
  ∀ {rest : List Char}, EndsNumber rest → ∀ o, ∃ n stop, n.Spells v ∧
    (∃ l ls, lexemes (v.chars ++ rest) o = l :: ls ∧ l.Opens) ∧
    ∀ stack, build .value stack (lexemes (v.chars ++ rest) o) =
      build (.after n) stack (lexemes rest stop)

theorem builds_scalar {s : Scalar} (hs : s.Exact) : Builds s.toValue := by
  intro rest hrest o
  obtain ⟨t, stop, ht, hlex⟩ := lexemes_chars hs hrest o
  refine ⟨.scalar t, stop, .scalar ht, ⟨_, _, hlex, ht.opens⟩, fun stack => ?_⟩
  rw [hlex]
  simp [build, ht.goesOn]

theorem endsNumber_cons {c : Char} (cs : List Char)
    (h : isDigit c = false ∧ c ≠ '.' ∧ c ≠ 'e' ∧ c ≠ 'E') : EndsNumber (c :: cs) := by
  intro d hd
  obtain rfl : c = d := by simpa using hd
  exact h

theorem endsNumber_moreItems (vs : List Value) (rest : List Char) :
    EndsNumber (Value.moreItems vs ++ rest) := by
  cases vs with
  | nil => exact endsNumber_cons _ (by decide)
  | cons v vs => exact endsNumber_cons _ (by decide)

theorem endsNumber_moreMembers (ms : Members) (rest : List Char) :
    EndsNumber (Value.moreMembers ms ++ rest) := by
  cases ms with
  | nil => exact endsNumber_cons _ (by decide)
  | cons m ms => exact endsNumber_cons _ (by decide)

theorem build_moreItems {vs : List Value} (hvs : ∀ v ∈ vs, Builds v) (rest : List Char)
    (o : Nat) : ∃ ns close stop, Node.SpellsItems ns vs ∧ ∀ start n items stack,
      build (.after n) (.array start items :: stack) (lexemes (Value.moreItems vs ++ rest) o) =
        build (.after (.array start ((n :: items).reverse ++ ns) (.closed close))) stack
          (lexemes rest stop) := by
  induction vs generalizing o with
  | nil =>
      refine ⟨[], o, o + 1, .nil, fun start n items stack => ?_⟩
      rw [Value.moreItems, List.singleton_append, lexemes_mark rfl rfl]
      simp [build]
  | cons v vs ih =>
      obtain ⟨hv, hvs⟩ := List.forall_mem_cons.1 hvs
      obtain ⟨n', mid, hn', ⟨l, ls, hlex, hl⟩, hbuild⟩ :=
        hv (endsNumber_moreItems vs rest) (o + 1)
      obtain ⟨ns, close, stop, hns, hmore⟩ := ih hvs mid
      refine ⟨n' :: ns, close, stop, .cons hn' hns, fun start n items stack => ?_⟩
      rw [Value.moreItems, List.cons_append, List.append_assoc, lexemes_mark rfl rfl]
      rw [hlex, build_comma hl, ← hlex, hbuild, hmore]
      simp

theorem builds_array {vs : List Value} (hvs : ∀ v ∈ vs, Builds v) : Builds (.array vs) := by
  intro rest hrest o
  cases vs with
  | nil =>
      refine ⟨.array o [] (.closed (o + 1)), o + 2, .array .nil rfl, ?_, fun stack => ?_⟩
      · exact ⟨_, _, lexemes_mark rfl rfl _ _, by simp [Lexeme.Opens]⟩
      · rw [Value.chars, List.cons_append, lexemes_mark rfl rfl, List.singleton_append,
          lexemes_mark rfl rfl]
        simp [build]
  | cons v vs =>
      obtain ⟨hv, hvs⟩ := List.forall_mem_cons.1 hvs
      obtain ⟨n, mid, hn, ⟨l, ls, hlex, hl⟩, hbuild⟩ := hv (endsNumber_moreItems vs rest) (o + 1)
      obtain ⟨ns, close, stop, hns, hmore⟩ := build_moreItems hvs rest mid
      refine ⟨.array o (n :: ns) (.closed close), stop, .array (.cons hn hns) rfl, ?_,
        fun stack => ?_⟩
      · exact ⟨_, _, lexemes_mark rfl rfl _ _, by simp [Lexeme.Opens]⟩
      · rw [Value.chars, List.cons_append, lexemes_mark rfl rfl, List.append_assoc]
        show build (.item o) stack (lexemes _ _) = _
        rw [hlex, build_item hl, ← hlex, hbuild, hmore]
        rfl

theorem build_member {v : Value} (hv : Builds v) (k : String) {rest : List Char}
    (hrest : EndsNumber rest) (o : Nat) : ∃ t p n stop, t.Spells (.string k) ∧ n.Spells v ∧
    ∀ start ms comma stack,
      build (.key start ms comma) stack
          (lexemes (stringChars k ++ ':' :: (v.chars ++ rest)) o) =
        build (.after n) (.object start ms (comma.getD t.start, t, .mark .colon p) :: stack)
          (lexemes rest stop) := by
  obtain ⟨t, p, ht, hlex⟩ := lexemes_string k (':' :: (v.chars ++ rest)) o
  obtain ⟨n, stop, hn, -, hbuild⟩ := hv hrest (p + 1)
  refine ⟨t, p, n, stop, ht, hn, fun start ms comma stack => ?_⟩
  rw [hlex, lexemes_mark rfl rfl]
  have hquote : t.lead = .quote := ht.lead
  simp [build, hquote, ht.goesOn, hbuild, Lexeme.start]

theorem build_moreMembers {vs : Members} (hvs : ∀ m ∈ vs, Builds m.2) (rest : List Char)
    (o : Nat) : ∃ ns close stop, Node.SpellsMembers ns vs ∧ ∀ start n ms site stack,
      build (.after n) (.object start ms site :: stack)
          (lexemes (Value.moreMembers vs ++ rest) o) =
        build (.after (.object start (((site, n) :: ms).reverse ++ ns) (.closed close))) stack
          (lexemes rest stop) := by
  induction vs generalizing o with
  | nil =>
      refine ⟨[], o, o + 1, .nil, fun start n ms site stack => ?_⟩
      rw [Value.moreMembers, List.singleton_append, lexemes_mark rfl rfl]
      simp [build]
  | cons m vs ih =>
      obtain ⟨k, v⟩ := m
      obtain ⟨hv, hvs⟩ := List.forall_mem_cons.1 hvs
      obtain ⟨t, p, n', mid, ht, hn', hbuild⟩ :=
        build_member hv k (endsNumber_moreMembers vs rest) (o + 1)
      obtain ⟨ns, close, stop, hns, hmore⟩ := ih hvs mid
      refine ⟨((o, t, .mark .colon p), n') :: ns, close, stop, .cons ht hn' hns,
        fun start n ms site stack => ?_⟩
      rw [Value.moreMembers, List.cons_append, List.append_assoc, List.cons_append,
        List.append_assoc, lexemes_mark rfl rfl]
      show build (.key start ((site, n) :: ms) (some o)) stack (lexemes _ _) = _
      rw [hbuild, hmore]
      simp

theorem builds_object {vs : Members} (hvs : ∀ m ∈ vs, Builds m.2) : Builds (.object vs) := by
  intro rest hrest o
  cases vs with
  | nil =>
      refine ⟨.object o [] (.closed (o + 1)), o + 2, .object .nil rfl, ?_, fun stack => ?_⟩
      · exact ⟨_, _, lexemes_mark rfl rfl _ _, by simp [Lexeme.Opens]⟩
      · rw [Value.chars, List.cons_append, lexemes_mark rfl rfl, List.singleton_append,
          lexemes_mark rfl rfl]
        simp [build]
  | cons m vs =>
      obtain ⟨k, v⟩ := m
      obtain ⟨hv, hvs⟩ := List.forall_mem_cons.1 hvs
      obtain ⟨t, p, n, mid, ht, hn, hbuild⟩ :=
        build_member hv k (endsNumber_moreMembers vs rest) (o + 1)
      obtain ⟨ns, close, stop, hns, hmore⟩ := build_moreMembers hvs rest mid
      refine ⟨.object o (((t.start, t, .mark .colon p), n) :: ns) (.closed close), stop,
        .object (.cons ht hn hns) rfl, ?_, fun stack => ?_⟩
      · exact ⟨_, _, lexemes_mark rfl rfl _ _, by simp [Lexeme.Opens]⟩
      · rw [Value.chars, List.cons_append, lexemes_mark rfl rfl, List.append_assoc,
          List.cons_append, List.append_assoc]
        show build (.key o [] none) stack (lexemes _ _) = _
        rw [hbuild, hmore]
        rfl

mutual

theorem Value.builds : ∀ {v : Value}, v.Exact → Builds v
  | .null, _ => builds_scalar (s := .null) trivial
  | .bool b, _ => builds_scalar (s := .bool b) trivial
  | .number n, h => builds_scalar (s := .number n) h
  | .string s, _ => builds_scalar (s := .string s) trivial
  | .array _, h => builds_array (builds_items h)
  | .object _, h => builds_object (builds_members h)

theorem builds_items : ∀ {vs : List Value}, Value.ExactItems vs → ∀ v ∈ vs, Builds v
  | [], _ => fun _ h => absurd h List.not_mem_nil
  | _ :: _, h => List.forall_mem_cons.2 ⟨Value.builds h.1, builds_items h.2⟩

theorem builds_members : ∀ {ms : Members}, Value.ExactMembers ms → ∀ m ∈ ms, Builds m.2
  | [], _ => fun _ h => absurd h List.not_mem_nil
  | (_, _) :: _, h => List.forall_mem_cons.2 ⟨Value.builds h.1, builds_members h.2⟩

end

/-- The text of a value is read as a tree that spells the value. -/
theorem Document.ofText_text {v : Value} (hv : v.Exact) :
    ∃ n, Document.ofText v.text = ⟨n, none⟩ ∧ n.Spells v := by
  have hends : EndsNumber [] := nofun
  obtain ⟨n, stop, hn, -, hbuild⟩ := Value.builds hv hends 0
  refine ⟨n, ?_, hn⟩
  have hend : build (.after n) [] (lexemes [] stop) = ⟨n, none⟩ := by
    rw [lexemes]
    rfl
  rw [Document.ofText, Value.text, String.toList_ofList, ← hend, ← hbuild, List.append_nil]

/-- From the text of a value a placeless reader reads what it reads from the value. -/
theorem readText_text {α : Type} {read : Node → Reading α} (hread : Placeless read) {v : Value}
    (hv : v.Exact) (a : α) : readText v.text read = .ok a ↔ read v.toNode = .ok a := by
  obtain ⟨n, hdoc, hn⟩ := Document.ofText_text hv
  simp [readText_eq_ok, hdoc, hread.read_eq_ok hn]

theorem holdsObject_text {ms : Members} (hms : Value.ExactMembers ms)
    (hdepth : FitsAt 1 (Value.depthMembers ms)) : HoldsObject (Value.object ms).text ms := by
  obtain ⟨n, hdoc, hn⟩ := Document.ofText_text (v := .object ms) hms
  have hroot : (Document.ofText (Value.object ms).text).root.Spells (.object ms) := by
    rw [hdoc]
    exact hn
  have hfits : FitsAt 0 (Value.object ms).depth := fitsAt_succ.2 ⟨by decide, hdepth⟩
  have hread := (hroot.readValue_eq_ok 0 (Value.object ms).folded).2 ⟨hfits, rfl⟩
  exact ⟨⟨_, readText_eq_ok.2 ⟨hread, by rw [hdoc]⟩⟩, hroot⟩

/-! ## Free values -/

mutual

/-- Keys ascend in every object of the value, as they do in every free value that
was read. -/
def Value.Ordered : Value → Prop
  | .array items => Value.OrderedItems items
  | .object ms => Members.Ascending ms ∧ Value.OrderedMembers ms
  | _ => True

def Value.OrderedItems : List Value → Prop
  | [] => True
  | v :: vs => v.Ordered ∧ Value.OrderedItems vs

def Value.OrderedMembers : Members → Prop
  | [] => True
  | (_, v) :: ms => v.Ordered ∧ Value.OrderedMembers ms

end

mutual

theorem Value.Ordered.folded_eq : ∀ {v : Value}, v.Ordered → v.folded = v
  | .null, _ => rfl
  | .bool _, _ => rfl
  | .number _, _ => rfl
  | .string _, _ => rfl
  | .array _, h => congrArg Value.array (foldedItems_eq h)
  | .object _, ⟨hasc, h⟩ => by
      rw [Value.folded, foldedMembers_eq h, Members.ofList_of_ascending hasc]

theorem foldedItems_eq : ∀ {vs : List Value}, Value.OrderedItems vs → Value.foldedItems vs = vs
  | [], _ => rfl
  | v :: vs, ⟨hv, hvs⟩ => by rw [Value.foldedItems, hv.folded_eq, foldedItems_eq hvs]

theorem foldedMembers_eq : ∀ {ms : Members}, Value.OrderedMembers ms →
    Value.foldedMembers ms = ms
  | [], _ => rfl
  | (k, v) :: ms, ⟨hv, hms⟩ => by rw [Value.foldedMembers, hv.folded_eq, foldedMembers_eq hms]

end

theorem readValue_text {v : Value} (hexact : v.Exact) (hord : v.Ordered)
    (hfits : FitsAt 0 v.depth) : readText v.text (·.readValue 0) = .ok v := by
  rw [readText_text (placeless_readValue 0) hexact, (Value.toNode_spells v).readValue_eq_ok]
  exact ⟨hfits, hord.folded_eq.symm⟩

/-! ## No control characters -/

theorem visible_of_all {cs : List Char} (h : (cs.all fun c => 0x20 ≤ c.toNat) = true) :
    ∀ c ∈ cs, 0x20 ≤ c.toNat :=
  fun c hc => of_decide_eq_true (List.all_eq_true.1 h c hc)

theorem escapeChar_visible (c : Char) : ∀ d ∈ escapeChar c, 0x20 ≤ d.toNat := by
  have hex : ∀ n < 0x10, 0x20 ≤ (hexDigit n).toNat := by decide
  unfold escapeChar
  split
  · exact visible_of_all (by decide)
  · split
    · exact visible_of_all (by decide)
    · split
      · next hc =>
        split <;> first | exact visible_of_all (by decide) | skip
        have hhigh := hex (c.toNat / 16) (by omega)
        have hlow := hex (c.toNat % 16) (by omega)
        simp [hhigh, hlow]
      · next hc => simpa using hc

theorem stringChars_visible (s : String) : ∀ c ∈ stringChars s, 0x20 ≤ c.toNat := by
  have body : ∀ cs, ∀ c ∈ bodyChars cs, 0x20 ≤ c.toNat := by
    intro cs
    induction cs with
    | nil => exact visible_of_all rfl
    | cons c cs ih => exact List.forall_mem_append.2 ⟨escapeChar_visible c, ih⟩
  exact List.forall_mem_cons.2 ⟨by decide, body _⟩

theorem integerChars_visible (n : Int) : ∀ c ∈ integerChars n, 0x20 ≤ c.toNat := by
  have digits : ∀ m, ∀ c ∈ Nat.toDigits 10 m, 0x20 ≤ c.toNat := by
    intro m c hc
    have hdigit := isDigit_of_mem_toDigits hc
    simp only [isDigit, Bool.and_eq_true, decide_eq_true_eq, Char.le_def, UInt32.le_iff_toNat_le]
      at hdigit
    exact Nat.le_trans (by decide) hdigit.1
  unfold integerChars
  split
  · exact List.forall_mem_cons.2 ⟨by decide, digits _⟩
  · exact digits _

mutual

/-- No control character stands in the text of a value. -/
theorem Value.chars_visible : ∀ {v : Value}, v.Exact → ∀ c ∈ v.chars, 0x20 ≤ c.toNat
  | .null, _ => visible_of_all (by decide)
  | .bool true, _ => visible_of_all (by decide)
  | .bool false, _ => visible_of_all (by decide)
  | .number (.integer n), _ => integerChars_visible n
  | .number (.real _), h => h.elim
  | .string s, _ => stringChars_visible s
  | .array [], _ => visible_of_all (by decide)
  | .array (v :: vs), h => by
      simp only [Value.chars, List.forall_mem_cons, List.forall_mem_append]
      exact ⟨by decide, Value.chars_visible h.1, moreItems_visible h.2⟩
  | .object [], _ => visible_of_all (by decide)
  | .object ((k, v) :: ms), h => by
      simp only [Value.chars, List.forall_mem_cons, List.forall_mem_append]
      exact ⟨by decide, stringChars_visible k, by decide, Value.chars_visible h.1,
        moreMembers_visible h.2⟩

theorem moreItems_visible : ∀ {vs : List Value}, Value.ExactItems vs →
    ∀ c ∈ Value.moreItems vs, 0x20 ≤ c.toNat
  | [], _ => visible_of_all (by decide)
  | v :: vs, h => by
      simp only [Value.moreItems, List.forall_mem_cons, List.forall_mem_append]
      exact ⟨by decide, Value.chars_visible h.1, moreItems_visible h.2⟩

theorem moreMembers_visible : ∀ {ms : Members}, Value.ExactMembers ms →
    ∀ c ∈ Value.moreMembers ms, 0x20 ≤ c.toNat
  | [], _ => visible_of_all (by decide)
  | (k, v) :: ms, h => by
      simp only [Value.moreMembers, List.forall_mem_cons, List.forall_mem_append]
      exact ⟨by decide, stringChars_visible k, by decide, Value.chars_visible h.1,
        moreMembers_visible h.2⟩

end

end DirectorySessions.Json
