/-
# Parts of a text

A text is cut at every occurrence of a character.  There is one part more
than there are cuts, so even the empty text has a part; and the parts, with
the character between them, are the text.
-/

namespace DirectorySessions.Text

/-- The parts of a text between the occurrences of a character. -/
def cutAt (mark : Char) : List Char → List (List Char)
  | [] => [[]]
  | c :: cs => if c = mark then [] :: cutAt mark cs else (cutAt mark cs).modifyHead (c :: ·)

theorem cutAt_ne_nil (mark : Char) (cs : List Char) : cutAt mark cs ≠ [] := by
  induction cs with
  | nil => simp [cutAt]
  | cons c cs ih => simp only [cutAt]; split <;> simp [ih]

theorem cutAt_append {mark : Char} {part : List Char} (h : mark ∉ part) (cs : List Char) :
    cutAt mark (part ++ mark :: cs) = part :: cutAt mark cs := by
  induction part with
  | nil => simp [cutAt]
  | cons c part ih =>
      simp only [List.mem_cons, not_or] at h
      simp [cutAt, Ne.symm h.1, ih h.2]

/-- Texts with a mark between them are cut like each of them. -/
theorem cutAt_append_mark (mark : Char) (cs ds : List Char) :
    cutAt mark (cs ++ mark :: ds) = cutAt mark cs ++ cutAt mark ds := by
  induction cs with
  | nil => simp [cutAt]
  | cons c cs ih =>
      obtain ⟨part, parts, hparts⟩ := List.exists_cons_of_ne_nil (cutAt_ne_nil mark cs)
      by_cases hc : c = mark <;> simp [cutAt, hc, ih, hparts]

theorem cutAt_eq_self {mark : Char} {cs : List Char} (h : mark ∉ cs) : cutAt mark cs = [cs] := by
  induction cs with
  | nil => rfl
  | cons c cs ih =>
      simp only [List.mem_cons, not_or] at h
      simp [cutAt, Ne.symm h.1, ih h.2]

end DirectorySessions.Text
