/-
# Numbers between two bounds

A number is read from its digits if it fits a word of 64 bits and lies between the
bounds; it is never reduced.  Zeros in front of the digits do not count, however many
they are.  Digits only raise what was read before them (`le_ofDigitChars`), so a text
that begins with too large a number stays too large, whatever follows.

The bounds are arbitrary and need not be in order, and the text may be anything; a
size and a count are read in the same way, since a size has 64 bits here.  That no
wrong number is read is half of it.  The other half is that every number that could
be read is, so `bounded_numbers_never_wrap` is an equivalence.
-/
import DirectorySessions.Proofs.Decimal.Spelling

namespace DirectorySessions.Decimal

/-! ## After the sign -/

/-- What is left of a text without the plus sign in front, if there is one. -/
def afterSign : List Char → List Char
  | '+' :: cs => cs
  | cs => cs

def zeroPadded (k : Nat) (s : String) : String :=
  match s.toList with
  | '+' :: cs => String.ofList ('+' :: (List.replicate k '0' ++ cs))
  | cs => String.ofList (List.replicate k '0' ++ cs)

theorem afterSign_plus (cs : List Char) : afterSign ('+' :: cs) = cs := rfl

theorem afterSign_of_ne {cs : List Char} (h : ∀ ds, cs ≠ '+' :: ds) : afterSign cs = cs := by
  unfold afterSign
  split
  · next ds => exact absurd rfl (h ds)
  · rfl

theorem afterSign_append {cs : List Char} (h : afterSign cs ≠ []) (ds : List Char) :
    afterSign (cs ++ ds) = afterSign cs ++ ds := by
  cases cs with
  | nil => exact absurd rfl h
  | cons c cs =>
      by_cases hc : c = '+'
      · subst hc
        rfl
      · have hne : ∀ es es', c :: es ≠ '+' :: es' := fun _ _ heq => hc (List.cons.inj heq).1
        rw [afterSign_of_ne (hne cs), List.cons_append, afterSign_of_ne (hne _)]

theorem afterSign_eq_nil {s : String} : afterSign s.toList = [] ↔ s = "" ∨ s = "+" := by
  have hplus : s = "+" ↔ s.toList = ['+'] := String.toList_inj.symm
  have hempty : s = "" ↔ s.toList = [] := String.toList_inj.symm
  rw [hplus, hempty]
  unfold afterSign
  split
  · next cs hcs => simp [hcs]
  · next hcs => grind

theorem afterSign_zeroPadded (k : Nat) (s : String) :
    afterSign (zeroPadded k s).toList = List.replicate k '0' ++ afterSign s.toList := by
  unfold zeroPadded
  split
  · next cs hcs => rw [String.toList_ofList, hcs, afterSign_plus, afterSign_plus]
  · next hcs =>
    have hne : ∀ ds, List.replicate k '0' ++ s.toList ≠ '+' :: ds := by
      intro ds heq
      cases k with
      | zero => exact hcs ds heq
      | succ k => cases heq
    rw [String.toList_ofList, afterSign_of_ne hne, afterSign_of_ne hcs]

theorem denotes_iff {s : String} {n : Nat} :
    Denotes s n ↔ afterSign s.toList ≠ [] ∧ (∀ c ∈ afterSign s.toList, c.isDigit = true) ∧
      Nat.ofDigitChars 10 (afterSign s.toList) 0 = n := by
  have hread : readUnsigned s = readDigits (afterSign s.toList) := by
    unfold readUnsigned
    split
    · next cs hcs => rw [hcs, afterSign_plus]
    · next hcs => rw [afterSign_of_ne hcs]
  rw [← readUnsigned_eq_some, ← readDigits_eq_some, hread]

/-! ## Zeros in front, and digits behind -/

/-- Zeros in front of the digits do not count. -/
theorem denotes_zeroPadded {s : String} (h : afterSign s.toList ≠ []) (k n : Nat) :
    Denotes (zeroPadded k s) n ↔ Denotes s n := by
  have hzeros : ∀ c ∈ List.replicate k '0', c.isDigit = true := fun c hc => by
    rw [List.eq_of_mem_replicate hc]
    decide
  have hne : List.replicate k '0' ++ afterSign s.toList ≠ [] :=
    List.append_ne_nil_of_right_ne_nil _ h
  rw [denotes_iff, denotes_iff, afterSign_zeroPadded, List.forall_mem_append,
    Nat.ofDigitChars_append, Nat.ofDigitChars_replicate_zero, Nat.mul_zero]
  exact ⟨fun ⟨_, ⟨_, hdigits⟩, hn⟩ => ⟨h, hdigits, hn⟩,
    fun ⟨_, hdigits, hn⟩ => ⟨hne, ⟨hzeros, hdigits⟩, hn⟩⟩

theorem le_ofDigitChars (ds : List Char) (n : Nat) : n ≤ Nat.ofDigitChars 10 ds n := by
  rw [Nat.ofDigitChars_eq_ofDigitChars_zero]
  calc n ≤ 10 ^ ds.length * n := Nat.le_mul_of_pos_left n (Nat.pow_pos (by decide))
    _ ≤ _ := Nat.le_add_right _ _

/-- A number that begins with the digits of another is no less. -/
theorem Denotes.le_of_append {s t : String} {n m : Nat} (h : Denotes s n)
    (hm : Denotes (s ++ t) m) : n ≤ m := by
  obtain ⟨hne, -, rfl⟩ := denotes_iff.1 h
  obtain ⟨-, -, rfl⟩ := denotes_iff.1 hm
  rw [String.toList_append, afterSign_append hne, Nat.ofDigitChars_append]
  exact le_ofDigitChars ..

/-! ## Reading within bounds -/

/-- For all bounds and every text: a number is read if the text denotes it, a word of 64
bits holds it and it lies between the bounds, and no other is; a size is read as a count
is; more zeros in front of what stands behind the sign change nothing; and if the text
denotes more than a word holds, nothing is read from it, whatever is written behind it. -/
theorem bounded_numbers_never_wrap (lo hi : Nat) (s : String) :
    (∀ n, readCountWithin lo hi s = some n ↔
      Denotes s n ∧ n ≤ Nat.pow 2 64 - 1 ∧ lo ≤ n ∧ n ≤ hi) ∧
      readSizeWithin lo hi s = readCountWithin lo hi s ∧
      (∀ k, s ≠ "" → s ≠ "+" →
        readCountWithin lo hi (zeroPadded k s) = readCountWithin lo hi s) ∧
      ∀ n t, Denotes s n → Nat.pow 2 64 - 1 < n → readCountWithin lo hi (s ++ t) = none := by
  have read : ∀ s n, readCountWithin lo hi s = some n ↔
      Denotes s n ∧ n ≤ Nat.pow 2 64 - 1 ∧ lo ≤ n ∧ n ≤ hi := by
    intro s n
    have hword : n < Nat.pow 2 64 ↔ n ≤ Nat.pow 2 64 - 1 := Nat.lt_iff_le_pred (by decide)
    rw [readCountWithin, readWordWithin_eq_some, hword]
  refine ⟨read s, rfl, fun k hempty hplus => ?_, fun n t hn hlarge => ?_⟩
  · have hne : afterSign s.toList ≠ [] := fun hnil =>
      (afterSign_eq_nil.1 hnil).elim hempty hplus
    refine Option.ext fun n => ?_
    rw [read, read, denotes_zeroPadded hne]
  · refine Option.eq_none_iff_forall_ne_some.2 fun m hm => ?_
    obtain ⟨hdenotes, hword, -⟩ := (read _ m).1 hm
    exact absurd (Nat.le_trans (hn.le_of_append hdenotes) hword) (Nat.not_le.2 hlarge)

/-- The last number of a word, as it is and with zeros in front, and the first that is none,
with a digit behind. -/
theorem read_up_to_last_word :
    readCountWithin 1 18446744073709551615 "18446744073709551615" = some 18446744073709551615 ∧
      ("+18446744073709551615" ≠ "" ∧ "+18446744073709551615" ≠ "+" ∧
        readCountWithin 1 18446744073709551615 (zeroPadded 40 "+18446744073709551615") =
          some 18446744073709551615) ∧
      Denotes "18446744073709551616" 18446744073709551616 ∧
        Nat.pow 2 64 - 1 < 18446744073709551616 ∧
          readCountWithin 1 18446744073709551615 ("18446744073709551616" ++ "0") = none := by
  have hplain : Denotes "18446744073709551615" 18446744073709551615 :=
    readUnsigned_eq_some.1 (by decide)
  have hsigned : Denotes "+18446744073709551615" 18446744073709551615 :=
    readUnsigned_eq_some.1 (by decide)
  have hlarge : Denotes "18446744073709551616" 18446744073709551616 :=
    readUnsigned_eq_some.1 (by decide)
  have hlast := bounded_numbers_never_wrap 1 18446744073709551615
  refine ⟨((hlast _).1 _).2 ⟨hplain, by decide⟩, ⟨by decide, by decide, ?_⟩, hlarge, by decide,
    (hlast _).2.2.2 _ "0" hlarge (by decide)⟩
  rw [(hlast _).2.2.1 40 (by decide) (by decide)]
  exact ((hlast _).1 _).2 ⟨hsigned, by decide⟩

end DirectorySessions.Decimal
