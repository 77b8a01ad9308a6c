/-
# Which texts are numbers

A text denotes a number if it is made of digits, at least one, after a plus
sign or nothing (`Denotes`).  Such texts are read, and no others, and what is
read is the number, unless it does not fit the word it is meant for.
-/
import DirectorySessions.Decimal.Unsigned

namespace DirectorySessions.Decimal

/-- The text is a number in decimal: a plus sign or none, and one or more digits. -/
def Denotes (s : String) (n : Nat) : Prop :=
  ∃ ds, (s.toList = ds ∨ s.toList = '+' :: ds) ∧ ds ≠ [] ∧ (∀ c ∈ ds, c.isDigit = true) ∧
    Nat.ofDigitChars 10 ds 0 = n

theorem digit?_eq_some {c : Char} {d : Nat} :
    digit? c = some d ↔ c.isDigit = true ∧ c.toNat - '0'.toNat = d := by
  have hdigit : ('0' ≤ c ∧ c ≤ '9') ↔ c.isDigit = true := by
    simp [Char.isDigit, Char.le_def]
  unfold digit?
  split
  · next h => simp [hdigit.1 h]
  · next h => simp [mt hdigit.2 h]

theorem readMore_eq_some {ds : List Char} {n m : Nat} :
    readMore n ds = some m ↔ (∀ c ∈ ds, c.isDigit = true) ∧ Nat.ofDigitChars 10 ds n = m := by
  induction ds generalizing n with
  | nil => simp [readMore]
  | cons c ds ih =>
      rw [readMore, Nat.ofDigitChars_cons, List.forall_mem_cons]
      cases hd : digit? c with
      | none =>
          have hc : ¬ c.isDigit = true := fun h => by simp [digit?_eq_some.2 ⟨h, rfl⟩] at hd
          simp [hc]
      | some d =>
          obtain ⟨hc, rfl⟩ := digit?_eq_some.1 hd
          simp only [ih, hc, true_and]

theorem readDigits_eq_some {ds : List Char} {n : Nat} :
    readDigits ds = some n ↔
      ds ≠ [] ∧ (∀ c ∈ ds, c.isDigit = true) ∧ Nat.ofDigitChars 10 ds 0 = n := by
  cases ds with
  | nil => simp [readDigits]
  | cons c ds =>
      simp only [readDigits, readMore_eq_some, ne_eq, reduceCtorEq, not_false_eq_true, true_and]

/-- A text is read as the number that it denotes. -/
theorem readUnsigned_eq_some {s : String} {n : Nat} : readUnsigned s = some n ↔ Denotes s n := by
  have plus : ¬ '+'.isDigit = true := by decide
  unfold readUnsigned Denotes
  split
  · next cs hcs =>
    rw [readDigits_eq_some, hcs]
    constructor
    · rintro ⟨hne, hdigits, hn⟩
      exact ⟨cs, .inr rfl, hne, hdigits, hn⟩
    · rintro ⟨ds, rfl | heq, hne, hdigits, hn⟩
      · exact absurd (hdigits '+' (List.mem_cons_self ..)) plus
      · cases heq
        exact ⟨hne, hdigits, hn⟩
  · next hcs =>
    rw [readDigits_eq_some]
    constructor
    · rintro ⟨hne, hdigits, hn⟩
      exact ⟨_, .inl rfl, hne, hdigits, hn⟩
    · rintro ⟨ds, heq | heq, hne, hdigits, hn⟩
      · subst heq
        exact ⟨hne, hdigits, hn⟩
      · exact absurd heq (hcs ds)

theorem readWord_eq_some {bits : Nat} {s : String} {n : Nat} :
    readWord bits s = some n ↔ Denotes s n ∧ n < Nat.pow 2 bits := by
  simp [readWord, Option.filter_eq_some_iff, readUnsigned_eq_some]

theorem readWordWithin_eq_some {bits lo hi : Nat} {s : String} {n : Nat} :
    readWordWithin bits lo hi s = some n ↔
      Denotes s n ∧ n < Nat.pow 2 bits ∧ lo ≤ n ∧ n ≤ hi := by
  simp [readWordWithin, Option.filter_eq_some_iff, readWord_eq_some, and_assoc]

end DirectorySessions.Decimal
