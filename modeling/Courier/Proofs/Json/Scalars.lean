import Courier.Proofs.Json.Literals
import Courier.Proofs.Text.Wording
import Mathlib.Data.List.Basic

/-!
# Scalars, both ways

A scalar is a value that holds no other one: null, a truth value, a number or a text. What is
written for it has to be read as this value in front of whatever may stand behind it (`Json.Reads`),
and by one step of the reader (`Json.Scalar.reads`).

A number is told by its parts (`Json.Number`): a minus sign or none, the digits of a natural number,
digits behind a point, and an exponent. The grammar has no other numbers, because the digits of a
natural number have no zero in front of them. The reader takes one part after the other, and each
part ends where the next begins.
-/

namespace Courier.Json

/-! ## 1. Values in front of delimiters -/

/-- Nothing, or a text that begins with a character which ends a value. -/
def Delimits (rest : List Char) : Prop :=
  ∀ c, rest.head? = some c → c = ',' ∨ c = ']' ∨ c = '\x7d'

/-- A text is read as a value in front of any delimiter, by one step of the reader. -/
def Reads (written : List Char) (value : Json) : Prop :=
  ∀ fuel rest, Delimits rest → readValue (fuel + 1) (written ++ rest) = some (value, rest)

theorem delimits_cons {c : Char} (h : c = ',' ∨ c = ']' ∨ c = '\x7d') (rest : List Char) :
    Delimits (c :: rest) := by
  intro d hd
  rwa [← Option.some.inj hd]

theorem skipBlank_cons {c : Char} (h : isBlank c = false) (s : List Char) :
    skipBlank (c :: s) = c :: s := by
  rw [skipBlank, List.dropWhile_cons_of_neg (by simp [h])]

/-- The word for nothing is read as it. -/
theorem reads_null : Reads "null".toList .null := by
  intro fuel rest _
  simp [readValue, skipBlank, isBlank]

/-- The word of a truth value is read as it. -/
theorem reads_bool (flag : Bool) : Reads (if flag then "true" else "false").toList (.bool flag) := by
  intro fuel rest _
  cases flag with
  | false => simp [readValue, skipBlank, isBlank]
  | true => simp [readValue, skipBlank, isBlank]

/-- The literal of a text is read as its characters. -/
theorem reads_literal (s : String) : Reads (literal s) (.string (s.toList.map some)) := by
  intro fuel rest _
  rw [literal_append, readValue, skipBlank_cons (by decide)]
  simp only [readLiteral_append]
  rfl

/-! ## 2. Digits -/

theorem isDigit_iff {c : Char} : isDigit c = true ↔ Decimal.IsDigit c := by
  unfold isDigit
  by_cases h : Decimal.IsDigit c
  · simp [Decimal.digitValue?_of_isDigit h, h]
  · simp [Decimal.digitValue?_of_not_isDigit h, h]

/-- Nothing, or a text that begins with no digit. -/
def EndsDigits (rest : List Char) : Prop :=
  ∀ c, rest.head? = some c → ¬ Decimal.IsDigit c

theorem endsDigits_cons {c : Char} (h : ¬ Decimal.IsDigit c) (rest : List Char) :
    EndsDigits (c :: rest) := by
  intro d hd
  rwa [← Option.some.inj hd]

theorem Delimits.endsDigits {rest : List Char} (h : Delimits rest) : EndsDigits rest := by
  intro c hc
  rcases h c hc with rfl | rfl | rfl <;> decide

theorem readDigits_append {digits rest : List Char} (all : Decimal.AllDigits digits)
    (any : digits ≠ []) (h : EndsDigits rest) :
    readDigits (digits ++ rest) = some (digits, rest) := by
  have hall : ∀ c ∈ digits, isDigit c = true := fun c hc => isDigit_iff.mpr (all c hc)
  have hends : ∀ c, rest.head? = some c → isDigit c = false := fun c hc =>
    Bool.eq_false_iff.mpr (mt isDigit_iff.mp (h c hc))
  rw [readDigits, Text.takeWhile_run hall hends, Text.dropWhile_run hall hends]
  obtain ⟨c, more, rfl⟩ := List.exists_cons_of_ne_nil any
  rfl

theorem head?_digits_ne_zero (n : Nat) (h : 0 < n) : (Decimal.digits n).head? ≠ some '0' := by
  induction n using Nat.strongRecOn with
  | _ n ih =>
      by_cases hlt : n < 10
      · rw [Decimal.digits_of_lt n hlt]
        intro heq
        have hn := Decimal.digit_toNat n hlt
        rw [Option.some.inj heq] at hn
        have hzero : '0'.toNat = 48 := rfl
        omega
      · rw [Decimal.digits_of_ge n (by omega), List.head?_append_of_ne_nil _ (Decimal.digits_ne_nil _)]
        exact ih (n / 10) (by omega) (by omega)

/-- A number is written without zeros in front of its digits. -/
theorem digits_lead {n : Nat} {more : List Char} (h : Decimal.digits n = '0' :: more) :
    more = [] := by
  rcases Nat.eq_zero_or_pos n with rfl | hpos
  · rw [Decimal.digits_of_lt 0 (by decide)] at h
    exact (List.cons.inj h).2.symm
  · refine absurd ?_ (head?_digits_ne_zero n hpos)
    rw [h]
    rfl

theorem readWhole_append (n : Nat) {rest : List Char} (h : EndsDigits rest) :
    readWhole (Decimal.digits n ++ rest) = some (Decimal.digits n, rest) := by
  obtain ⟨all, -⟩ := Decimal.digits_spec n
  rw [readWhole, readDigits_append all (Decimal.digits_ne_nil n) h]
  split
  · rename_i heq
    cases digits_lead (Prod.mk.inj (Option.some.inj heq)).1
  · rfl

/-! ## 3. The parts of a number -/

/-- The exponent of a number. -/
structure Exponent where
  mark : Char
  sign : List Char
  digits : List Char
  mark_eq : mark = 'e' ∨ mark = 'E'
  sign_eq : sign = [] ∨ sign = ['+'] ∨ sign = ['-']
  all : Decimal.AllDigits digits
  any : digits ≠ []

/-- An exponent as it is written. -/
def Exponent.text (e : Exponent) : List Char := e.mark :: (e.sign ++ e.digits)

/-- A number of the grammar. -/
structure Number where
  negative : Bool
  whole : Nat
  /-- The digits behind the point; there is no point where there are none. -/
  fraction : List Char
  exponent : Option Exponent
  all : Decimal.AllDigits fraction

namespace Number

/-- The point and the digits behind it, as they are written. -/
def fractionText (n : Number) : List Char := if n.fraction = [] then [] else '.' :: n.fraction

/-- What is written for the exponent. -/
def exponentText (n : Number) : List Char :=
  match n.exponent with
  | none => []
  | some e => e.text

/-- A number without its sign, as it is written. -/
def unsigned (n : Number) : List Char :=
  Decimal.digits n.whole ++ (n.fractionText ++ n.exponentText)

/-- A number as it is written. -/
def text (n : Number) : List Char := if n.negative then '-' :: n.unsigned else n.unsigned

/-- A natural number. -/
def natural (n : Nat) : Number where
  negative := false
  whole := n
  fraction := []
  exponent := none
  all := fun _ h => absurd h List.not_mem_nil

@[simp] theorem text_natural (n : Nat) : (natural n).text = Decimal.digits n := List.append_nil _

end Number

theorem readSign_append {sign digits : List Char} (h : sign = [] ∨ sign = ['+'] ∨ sign = ['-'])
    (all : Decimal.AllDigits digits) (any : digits ≠ []) (rest : List Char) :
    readSign (sign ++ (digits ++ rest)) = (sign, digits ++ rest) := by
  rcases h with rfl | rfl | rfl
  · obtain ⟨c, more, rfl⟩ := List.exists_cons_of_ne_nil any
    have hc := (Decimal.allDigits_cons.mp all).1
    rw [readSign.eq_def]
    split
    · rename_i heq
      rw [(List.cons.inj heq).1] at hc
      exact absurd hc (by decide)
    · rename_i heq
      rw [(List.cons.inj heq).1] at hc
      exact absurd hc (by decide)
    · rfl
  · rfl
  · rfl

theorem Exponent.readExponent_append (e : Exponent) {rest : List Char} (h : EndsDigits rest) :
    readExponent (e.text ++ rest) = some (e.text, rest) := by
  rw [text, List.cons_append, List.append_assoc, readExponent, if_pos e.mark_eq,
    readSign_append e.sign_eq e.all e.any]
  dsimp only
  rw [readDigits_append e.all e.any h]
  rfl

namespace Number

variable (n : Number) {rest : List Char}

theorem readExponent_append (h : Delimits rest) :
    readExponent (n.exponentText ++ rest) = some (n.exponentText, rest) := by
  unfold exponentText
  cases n.exponent with
  | some e => exact e.readExponent_append h.endsDigits
  | none =>
      cases rest with
      | nil => rfl
      | cons c rest => rcases h c rfl with rfl | rfl | rfl <;> rfl

/-- Neither a digit nor a point follows the digits behind the point. -/
theorem head_exponentText (h : Delimits rest) {c : Char}
    (hc : (n.exponentText ++ rest).head? = some c) : ¬ Decimal.IsDigit c ∧ c ≠ '.' := by
  unfold exponentText at hc
  cases he : n.exponent with
  | some e =>
      rw [he] at hc
      rw [← Option.some.inj hc]
      rcases e.mark_eq with hmark | hmark <;> rw [hmark] <;> decide
  | none =>
      rw [he] at hc
      rcases h c hc with rfl | rfl | rfl <;> decide

theorem readFraction_append (h : Delimits rest) :
    readFraction (n.fractionText ++ (n.exponentText ++ rest)) =
      some (n.fractionText, n.exponentText ++ rest) := by
  have hhead := fun c => n.head_exponentText h (c := c)
  generalize n.exponentText ++ rest = behind at hhead
  unfold fractionText
  split
  · cases behind with
    | nil => rfl
    | cons c behind =>
        rw [List.nil_append, readFraction.eq_def]
        split
        · rename_i heq
          exact absurd (List.cons.inj heq).1 (hhead c rfl).2
        · rfl
  · rename_i hany
    rw [List.cons_append, readFraction, readDigits_append n.all hany fun c hc => (hhead c hc).1]
    rfl

/-- No digit follows those before the point. -/
theorem endsDigits_behind (h : Delimits rest) :
    EndsDigits (n.fractionText ++ (n.exponentText ++ rest)) := by
  unfold fractionText
  split
  · exact fun c hc => (n.head_exponentText h hc).1
  · exact endsDigits_cons (by decide) _

/-- **The parts of a number are read one after the other.** -/
theorem readUnsigned_append (h : Delimits rest) :
    readUnsigned (n.unsigned ++ rest) = some (n.unsigned, rest) := by
  rw [unsigned, List.append_assoc, List.append_assoc, readUnsigned,
    readWhole_append n.whole (n.endsDigits_behind h)]
  dsimp only
  rw [n.readFraction_append h]
  dsimp only
  rw [n.readExponent_append h, Option.map_some, List.append_assoc]

/-- A number without its sign begins with a digit. -/
theorem exists_unsigned_cons : ∃ c more, n.unsigned = c :: more ∧ Decimal.IsDigit c := by
  obtain ⟨hall, -⟩ := Decimal.digits_spec n.whole
  obtain ⟨c, more, hdigits⟩ := List.exists_cons_of_ne_nil (Decimal.digits_ne_nil n.whole)
  rw [hdigits] at hall
  rw [unsigned, hdigits]
  exact ⟨c, _, rfl, (Decimal.allDigits_cons.mp hall).1⟩

theorem exists_text_cons : ∃ c more, n.text = c :: more ∧ (Decimal.IsDigit c ∨ c = '-') := by
  unfold text
  cases n.negative with
  | true => exact ⟨'-', n.unsigned, rfl, .inr rfl⟩
  | false =>
      obtain ⟨c, more, hunsigned, hc⟩ := n.exists_unsigned_cons
      exact ⟨c, more, hunsigned, .inl hc⟩

theorem readNumber_append (h : Delimits rest) :
    readNumber (n.text ++ rest) = some (n.text, rest) := by
  have hread := n.readUnsigned_append h
  unfold text
  cases n.negative with
  | true =>
      rw [if_pos rfl, List.cons_append, readNumber, hread]
      rfl
  | false =>
      rw [if_neg Bool.false_ne_true]
      obtain ⟨c, more, htext, hc⟩ := n.exists_unsigned_cons
      rw [htext] at hread ⊢
      rw [← hread, readNumber.eq_def]
      split
      · rename_i heq
        rw [(List.cons.inj heq).1] at hc
        exact absurd hc (by decide)
      · rfl

end Number

/-- What is neither a digit nor a minus sign does not begin a number. -/
theorem ne_of_number {c d : Char} (h : Decimal.IsDigit c ∨ c = '-')
    (hd : ¬ (Decimal.IsDigit d ∨ d = '-')) : c ≠ d := by
  rintro rfl
  exact hd h

theorem isBlank_of_number {c : Char} (h : Decimal.IsDigit c ∨ c = '-') : isBlank c = false := by
  simp [isBlank, ne_of_number h (d := ' ') (by decide), ne_of_number h (d := '\t') (by decide),
    ne_of_number h (d := '\n') (by decide), ne_of_number h (d := '\r') (by decide)]

/-- A digit or a minus sign begins neither a word nor a literal nor a list nor an object. -/
theorem readValue_of_number {c : Char} (h : Decimal.IsDigit c ∨ c = '-') (fuel : Nat)
    (s : List Char) :
    readValue (fuel + 1) (c :: s) = (readNumber (c :: s)).map fun r => (.number r.1, r.2) := by
  have hne := fun d : Char => ne_of_number h (d := d)
  -- every other case of the reader begins with a character that begins no number
  rw [readValue.eq_def]
  simp [skipBlank_cons (isBlank_of_number h), hne 'n' (by decide), hne 't' (by decide),
    hne 'f' (by decide), hne '"' (by decide), hne '[' (by decide), hne '\x7b' (by decide)]

/-- **A number is read as it is written.** -/
theorem reads_number (n : Number) : Reads n.text (.number n.text) := by
  intro fuel rest hrest
  have hread := n.readNumber_append hrest
  obtain ⟨c, more, htext, hc⟩ := n.exists_text_cons
  rw [htext] at hread ⊢
  rw [List.cons_append, readValue_of_number hc, ← List.cons_append, hread]
  rfl

/-- The digits of a number are read as the number that they are. -/
theorem reads_digits (n : Nat) : Reads (Decimal.digits n) (.number (Decimal.digits n)) := by
  have hreads := reads_number (.natural n)
  rwa [Number.text_natural] at hreads

/-! ## 4. Scalars -/

/-- A value that holds no other one. -/
inductive Scalar
  | null
  | bool (flag : Bool)
  | number (n : Number)
  | string (text : String)

namespace Scalar

/-- A scalar as it is written. -/
def written : Scalar → List Char
  | .null => "null".toList
  | .bool flag => (if flag then "true" else "false").toList
  | .number n => n.text
  | .string text => literal text

/-- A scalar as it is read. -/
def value : Scalar → Json
  | .null => .null
  | .bool flag => .bool flag
  | .number n => .number n.text
  | .string text => .string (text.toList.map some)

/-- A scalar begins neither with a blank nor with the end of a list. -/
theorem exists_written_cons (x : Scalar) :
    ∃ c more, x.written = c :: more ∧ isBlank c = false ∧ c ≠ ']' := by
  cases x with
  | null => exact ⟨'n', _, rfl, by decide, by decide⟩
  | bool flag =>
      cases flag with
      | false => exact ⟨'f', _, rfl, by decide, by decide⟩
      | true => exact ⟨'t', _, rfl, by decide, by decide⟩
  | number n =>
      obtain ⟨c, more, htext, hc⟩ := n.exists_text_cons
      exact ⟨c, more, htext, isBlank_of_number hc, ne_of_number hc (by decide)⟩
  | string text => exact ⟨'"', _, rfl, by decide, by decide⟩

/-- **What is written for a scalar is read as it.** -/
theorem reads (x : Scalar) : Reads x.written x.value := by
  cases x with
  | null => exact reads_null
  | bool flag => exact reads_bool flag
  | number n => exact reads_number n
  | string text => exact reads_literal text

end Scalar

end Courier.Json
