import Courier.Json.Reader

/-!
# String literals, both ways

A text is written as a literal character by character, and most stand for themselves. The reader
takes the literal apart into marks and joins these to characters; here one mark stands for each
character that was written (`Json.markOf`). A mark that is a number is one of a control, so no two
of them are taken for a pair of surrogates (`Json.join_map_markOf`), and the reader gives back the
text and what stands behind its literal (`Json.readLiteral_append`).
-/

namespace Courier

/-! ## 1. Hexadecimal digits -/

/-- The number of a control is told by two digits. -/
theorem Hex.fourDigits?_of_lt {n : Nat} (h : n < 256) :
    fourDigits? '0' '0' (digit (n / 16)) (digit (n % 16)) = some n := by
  have hzero : digitValue? '0' = some 0 := by decide
  rw [fourDigits?, hzero, digitValue?_digit _ (by omega), digitValue?_digit _ (by omega)]
  show some (4096 * 0 + 256 * 0 + 16 * (n / 16) + n % 16) = some n
  congr 1
  omega

namespace Json

/-! ## 2. One character -/

/-- A character that is written with the number of its bits. -/
def IsNumbered (c : Char) : Prop :=
  c.toNat < 32 ∧ c ≠ '\x08' ∧ c ≠ '\t' ∧ c ≠ '\n' ∧ c ≠ '\x0c' ∧ c ≠ '\r'

instance (c : Char) : Decidable (IsNumbered c) := inferInstanceAs (Decidable (_ ∧ _))

/-- The mark that a character is read as. -/
def markOf (c : Char) : Mark := if IsNumbered c then .unit c.toNat else .char c

/-- An escape of one letter is read as the character that it denotes. -/
theorem readMarks_escape {e c : Char} (h : escaped? e = some c) (rest : List Char) :
    readMarks ('\\' :: e :: rest) = (readMarks rest).map fun r => (.char c :: r.1, r.2) := by
  have hu : e ≠ 'u' := by
    rintro rfl
    rw [show escaped? 'u' = none by decide] at h
    cases h
  rw [readMarks.eq_def]
  simp [h, hu]

/-- An escape of four digits is read as the number that they denote. -/
theorem readMarks_unit {a b c d : Char} {n : Nat} (h : Hex.fourDigits? a b c d = some n)
    (rest : List Char) :
    readMarks ('\\' :: 'u' :: a :: b :: c :: d :: rest) =
      (readMarks rest).map fun r => (.unit n :: r.1, r.2) := by
  rw [readMarks.eq_def]
  simp [h]

/-- The closing quote ends the marks. -/
theorem readMarks_quote (rest : List Char) : readMarks ('"' :: rest) = some ([], rest) := by
  rw [readMarks.eq_def]
  simp

/-- A character that is neither a quote nor a backslash nor a control stands for itself. -/
theorem readMarks_char {c : Char} (hquote : c ≠ '"') (hslash : c ≠ '\\') (h : ¬ c.toNat < 32)
    (rest : List Char) :
    readMarks (c :: rest) = (readMarks rest).map fun r => (.char c :: r.1, r.2) := by
  rw [readMarks.eq_def]
  simp [hquote, hslash, h]

/-- **A character that is written is read as its mark, and the reader goes on behind it.** -/
theorem readMarks_literalChar (c : Char) (rest : List Char) :
    readMarks (literalChar c ++ rest) =
      (readMarks rest).map fun r => (markOf c :: r.1, r.2) := by
  unfold literalChar
  -- seven escapes of one letter, then the other controls, then what stands for itself
  split
  · subst_vars
    exact readMarks_escape rfl rest
  split
  · subst_vars
    exact readMarks_escape rfl rest
  split
  · subst_vars
    exact readMarks_escape rfl rest
  split
  · subst_vars
    exact readMarks_escape rfl rest
  split
  · subst_vars
    exact readMarks_escape rfl rest
  split
  · subst_vars
    exact readMarks_escape rfl rest
  split
  · subst_vars
    exact readMarks_escape rfl rest
  rename_i hquote hslash hb ht hn hf hr
  split
  · rename_i hlow
    rw [markOf, if_pos ⟨hlow, hb, ht, hn, hf, hr⟩]
    exact readMarks_unit (Hex.fourDigits?_of_lt (by omega)) rest
  · rename_i hlow
    rw [markOf, if_neg fun h => hlow h.1]
    exact readMarks_char hquote hslash hlow rest

/-! ## 3. A text -/

theorem readMarks_flatMap (s rest : List Char) :
    readMarks (s.flatMap literalChar ++ '"' :: rest) = some (s.map markOf, rest) := by
  induction s with
  | nil => exact readMarks_quote rest
  | cons c s ih =>
      rw [List.flatMap_cons, List.append_assoc, readMarks_literalChar, ih]
      rfl

/-- A number of a control is joined to no other mark. -/
theorem join_unit {n : Nat} (h : n < 32) (marks : List Mark) :
    join (.unit n :: marks) = some (Char.ofNat n) :: join marks := by
  have hhigh : isHigh n = false := by
    simp [isHigh]
    omega
  have hlow : isLow n = false := by
    simp [isLow]
    omega
  rcases marks with _ | ⟨_ | m, marks⟩
  · simp [join, hhigh, hlow]
  · simp [join, hhigh, hlow]
  · simp [join, hhigh, hlow]

/-- **The marks of a text are joined to its characters.** -/
theorem join_map_markOf (s : List Char) : join (s.map markOf) = s.map some := by
  induction s with
  | nil => rfl
  | cons c s ih =>
      rw [List.map_cons, List.map_cons, ← ih]
      by_cases h : IsNumbered c
      · rw [markOf, if_pos h, join_unit h.1, Char.ofNat_toNat]
      · rw [markOf, if_neg h, join]

/-- **What stands in a literal is read from it**, and nothing of what stands behind it. -/
theorem readLiteral_append (s rest : List Char) :
    readLiteral (s.flatMap literalChar ++ '"' :: rest) = some (s.map some, rest) := by
  rw [readLiteral, readMarks_flatMap, Option.map_some, join_map_markOf]

theorem literal_append (s : String) (rest : List Char) :
    literal s ++ rest = '"' :: (s.toList.flatMap literalChar ++ '"' :: rest) := by
  simp [literal]

/-- A literal of characters denotes the text of them. -/
theorem text?_map_some (s : List Char) : Literal.text? (s.map some) = some (String.ofList s) := by
  have hmapM : (s.map some).mapM id = some s := by
    induction s with
    | nil => rfl
    | cons c s ih => simp [ih]
  rw [Literal.text?, hmapM]
  rfl

end Json

end Courier
