import Courier.Text.Blank
import Mathlib.Data.List.DropRight

/-!
# Texts without blanks at their ends

Trimming takes a text apart into blanks, the text that is left, and blanks. What is left neither
begins nor ends with a blank (`Bare`), and by this it is told: `trimmed_eq_iff` says that no other
way to take the text apart leaves a bare text. So blanks that are added at the ends, or taken away
there, are of no matter (`trimmed_pad`).
-/

namespace Courier.Text

/-- A text of blanks, or of nothing. -/
def AllBlank (s : List Char) : Prop := ∀ c ∈ s, isBlank c = true

/-- A text that neither begins nor ends with a blank. -/
structure Bare (s : List Char) : Prop where
  head : ∀ c, s.head? = some c → isBlank c = false
  last : ∀ c, s.getLast? = some c → isBlank c = false

/-- A text without any blank is bare. -/
theorem bare_of_any_isBlank {s : List Char} (h : s.any isBlank = false) : Bare s := by
  rw [List.any_eq_false] at h
  constructor
  · intro c hc
    simpa using h c (List.mem_of_mem_head? hc)
  · intro c hc
    simpa using h c (List.mem_of_getLast? hc)

theorem AllBlank.reverse {s : List Char} (h : AllBlank s) : AllBlank s.reverse :=
  fun c hc => h c (List.mem_reverse.mp hc)

theorem dropWhile_of_allBlank {s : List Char} (h : AllBlank s) : s.dropWhile isBlank = [] := by
  rw [List.dropWhile_eq_nil_iff]
  exact h

/-- Trimming as two steps, one at each end. -/
theorem trimmed_eq (s : List Char) : trimmed s = (s.dropWhile isBlank).rdropWhile isBlank := rfl

/-- The step at the end does not see blanks that are added there. -/
theorem rdropWhile_append_of_allBlank (s : List Char) {back : List Char} (h : AllBlank back) :
    (s ++ back).rdropWhile isBlank = s.rdropWhile isBlank := by
  rw [List.rdropWhile, List.reverse_append, List.dropWhile_append_of_pos h.reverse]
  rfl

/-- **Blanks at the ends of a text are of no matter.** -/
theorem trimmed_pad {front back : List Char} (hfront : AllBlank front) (hback : AllBlank back)
    (s : List Char) : trimmed (front ++ s ++ back) = trimmed s := by
  rw [trimmed_eq, trimmed_eq, List.append_assoc, List.dropWhile_append_of_pos hfront,
    List.dropWhile_append]
  split
  · rename_i hnone
    rw [List.isEmpty_iff] at hnone
    rw [dropWhile_of_allBlank hback, hnone]
  · exact rdropWhile_append_of_allBlank _ hback

/-- A text is blanks, what is left of it, and blanks. -/
theorem exists_pad (s : List Char) :
    ∃ front back, AllBlank front ∧ AllBlank back ∧ s = front ++ trimmed s ++ back := by
  have hblank : ∀ t : List Char, AllBlank (t.takeWhile isBlank) := fun t c hc =>
    List.mem_takeWhile_imp hc
  refine ⟨s.takeWhile isBlank, (s.dropWhile isBlank).rtakeWhile isBlank, hblank s,
    (hblank _).reverse, ?_⟩
  rw [trimmed_eq, List.append_assoc, List.rdropWhile, List.rtakeWhile, ← List.reverse_append,
    List.takeWhile_append_dropWhile, List.reverse_reverse, List.takeWhile_append_dropWhile]

theorem isBlank_of_head?_dropWhile {s : List Char} {c : Char}
    (h : (s.dropWhile isBlank).head? = some c) : isBlank c = false := by
  have hnot := List.head?_dropWhile_not isBlank s
  rw [h] at hnot
  simpa using hnot

/-- **What is left neither begins nor ends with a blank.** -/
theorem bare_trimmed (s : List Char) : Bare (trimmed s) where
  head c hc := by
    obtain ⟨more, hmore⟩ : trimmed s <+: s.dropWhile isBlank := List.rdropWhile_prefix isBlank _
    refine isBlank_of_head?_dropWhile (s := s) ?_
    rw [← hmore, List.head?_append, hc]
    rfl
  last c hc := by
    rw [trimmed, List.getLast?_reverse] at hc
    exact isBlank_of_head?_dropWhile hc

/-- There is nothing to take away from a bare text. -/
theorem Bare.trimmed_eq {s : List Char} (h : Bare s) : trimmed s = s := by
  have hfront : s.dropWhile isBlank = s := by
    cases s with
    | nil => rfl
    | cons c s => rw [List.dropWhile_cons_of_neg (by simp [h.head c rfl])]
  rw [Text.trimmed_eq, hfront, List.rdropWhile_eq_self_iff]
  intro hne hlast
  rw [h.last _ (List.getLast?_eq_some_getLast hne)] at hlast
  cases hlast

/-- **What is left is told by being bare between blanks.** -/
theorem trimmed_eq_iff {s t : List Char} :
    trimmed s = t ↔ Bare t ∧ ∃ front back, AllBlank front ∧ AllBlank back ∧
      s = front ++ t ++ back := by
  constructor
  · rintro rfl
    exact ⟨bare_trimmed s, exists_pad s⟩
  · rintro ⟨hbare, front, back, hfront, hback, rfl⟩
    rw [trimmed_pad hfront hback, hbare.trimmed_eq]

/-- Nothing is left of a text of blanks, and of no other. -/
theorem trimmed_eq_nil_iff {s : List Char} : trimmed s = [] ↔ AllBlank s := by
  constructor
  · intro h
    obtain ⟨front, back, hfront, hback, hs⟩ := exists_pad s
    rw [h, List.append_nil] at hs
    rw [hs]
    intro c hc
    rcases List.mem_append.mp hc with hc | hc
    · exact hfront c hc
    · exact hback c hc
  · intro h
    rw [trimmed_eq, dropWhile_of_allBlank h]
    rfl

end Courier.Text
