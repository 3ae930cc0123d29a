import Courier.Decimal

/-!
# Numerals

What a numeral denotes is said here without a limit and without a reader: one plus sign or none, one
digit or more, and the value of the digits (`Decimal.Numeral`). The reader with a limit reads just
the numerals of numbers up to it (`Decimal.read_eq_ok_iff`). It judges a text from the left, so what
it reports of another text is decided by the digits in front: too large where their value exceeds
the limit at some point, a wrong character otherwise (`Decimal.read_eq_error_iff`).
-/

namespace Courier.Decimal

/-! ## 1. Digits and their value -/

/-- One of the ten ASCII digits. -/
def IsDigit (c : Char) : Prop := 48 ≤ c.toNat ∧ c.toNat ≤ 57

instance (c : Char) : Decidable (IsDigit c) := inferInstanceAs (Decidable (_ ∧ _))

/-- A text of digits, or of nothing. -/
def AllDigits (s : List Char) : Prop := ∀ c ∈ s, IsDigit c

/-- The value of digits that follow digits of the value `acc`. -/
def valueFrom (acc : Nat) (digits : List Char) : Nat :=
  digits.foldl (fun n c => 10 * n + (c.toNat - 48)) acc

/-- The value of digits. -/
def value (digits : List Char) : Nat := valueFrom 0 digits

/-- The numerals of a number: one plus sign or none, and one digit or more. -/
inductive Numeral : List Char → Nat → Prop
  | plain {digits : List Char} (any : digits ≠ []) (all : AllDigits digits) :
      Numeral digits (value digits)
  | signed {digits : List Char} (any : digits ≠ []) (all : AllDigits digits) :
      Numeral ('+' :: digits) (value digits)

/-- A text whose digits in front, behind one plus sign or none, have a value above the limit. -/
inductive Exceeds (limit : Nat) : List Char → Prop
  | plain {digits : List Char} (rest : List Char) (all : AllDigits digits)
      (above : limit < value digits) : Exceeds limit (digits ++ rest)
  | signed {digits : List Char} (rest : List Char) (all : AllDigits digits)
      (above : limit < value digits) : Exceeds limit ('+' :: digits ++ rest)

theorem Numeral.ne_nil {s : List Char} {n : Nat} (h : Numeral s n) : s ≠ [] := by
  cases h with
  | plain any all => exact any
  | signed any all => exact List.cons_ne_nil _ _

theorem allDigits_cons {c : Char} {s : List Char} :
    AllDigits (c :: s) ↔ IsDigit c ∧ AllDigits s := List.forall_mem_cons

theorem digitValue?_of_isDigit {c : Char} (h : IsDigit c) :
    digitValue? c = some (c.toNat - 48) := if_pos h

theorem digitValue?_of_not_isDigit {c : Char} (h : ¬ IsDigit c) : digitValue? c = none := if_neg h

theorem not_isDigit_plus : ¬ IsDigit '+' := by decide

/-- The value grows with every digit. -/
theorem le_valueFrom (acc : Nat) (digits : List Char) : acc ≤ valueFrom acc digits := by
  induction digits generalizing acc with
  | nil => exact Nat.le_refl acc
  | cons c digits ih =>
      have hle := ih (10 * acc + (c.toNat - 48))
      show acc ≤ valueFrom (10 * acc + (c.toNat - 48)) digits
      omega

/-! ## 2. Reading -/

theorem readOn_cons_of_isDigit {limit acc : Nat} {c : Char} {s : List Char} (h : IsDigit c) :
    readOn limit acc (c :: s) =
      if limit < 10 * acc + (c.toNat - 48) then .error .tooLarge
      else readOn limit (10 * acc + (c.toNat - 48)) s := by
  rw [readOn, digitValue?_of_isDigit h]

theorem readOn_cons_of_not_isDigit {limit acc : Nat} {c : Char} {s : List Char}
    (h : ¬ IsDigit c) : readOn limit acc (c :: s) = .error .invalidDigit := by
  rw [readOn, digitValue?_of_not_isDigit h]

/-- **Digits are read to the end just where their value keeps to the limit.** -/
theorem readOn_eq_ok_iff {limit acc n : Nat} {s : List Char} (hacc : acc ≤ limit) :
    readOn limit acc s = .ok n ↔ AllDigits s ∧ valueFrom acc s = n ∧ n ≤ limit := by
  induction s generalizing acc with
  | nil =>
      simp only [readOn, Except.ok.injEq, AllDigits, valueFrom, List.not_mem_nil,
        false_implies, implies_true, true_and, List.foldl_nil]
      omega
  | cons c s ih =>
      rw [allDigits_cons]
      by_cases hc : IsDigit c
      · rw [readOn_cons_of_isDigit hc]
        have hle := le_valueFrom (10 * acc + (c.toNat - 48)) s
        have hcons : valueFrom acc (c :: s) = valueFrom (10 * acc + (c.toNat - 48)) s := rfl
        by_cases habove : limit < 10 * acc + (c.toNat - 48)
        · rw [if_pos habove, hcons]
          simp only [reduceCtorEq, false_iff]
          omega
        · rw [if_neg habove, ih (Nat.not_lt.mp habove), hcons]
          simp only [hc, true_and]
      · rw [readOn_cons_of_not_isDigit hc]
        simp [hc]

/-- The digits in front decide whether a text is too large. -/
theorem readOn_eq_tooLarge_iff {limit acc : Nat} {s : List Char} (hacc : acc ≤ limit) :
    readOn limit acc s = .error .tooLarge ↔
      ∃ digits rest, s = digits ++ rest ∧ AllDigits digits ∧ limit < valueFrom acc digits := by
  induction s generalizing acc with
  | nil =>
      simp only [readOn, reduceCtorEq, false_iff]
      rintro ⟨digits, rest, hs, -, habove⟩
      obtain ⟨rfl, -⟩ := List.append_eq_nil_iff.mp hs.symm
      exact absurd habove (Nat.not_lt.mpr hacc)
  | cons c s ih =>
      have hcons : ∀ digits, valueFrom acc (c :: digits) =
          valueFrom (10 * acc + (c.toNat - 48)) digits := fun _ => rfl
      by_cases hc : IsDigit c
      · rw [readOn_cons_of_isDigit hc]
        by_cases habove : limit < 10 * acc + (c.toNat - 48)
        · rw [if_pos habove]
          exact iff_of_true rfl
            ⟨[c], s, rfl, allDigits_cons.mpr ⟨hc, by simp [AllDigits]⟩, habove⟩
        · rw [if_neg habove, ih (Nat.not_lt.mp habove)]
          constructor
          · rintro ⟨digits, rest, rfl, hall, hvalue⟩
            exact ⟨c :: digits, rest, rfl, allDigits_cons.mpr ⟨hc, hall⟩, hvalue⟩
          · rintro ⟨digits, rest, hs, hall, hvalue⟩
            cases digits with
            | nil => exact absurd hvalue (Nat.not_lt.mpr hacc)
            | cons d digits =>
                obtain ⟨rfl, rfl⟩ := List.cons.inj hs
                exact ⟨digits, rest, rfl, (allDigits_cons.mp hall).2, hvalue⟩
      · rw [readOn_cons_of_not_isDigit hc]
        simp only [Except.error.injEq, reduceCtorEq, false_iff]
        rintro ⟨digits, rest, hs, hall, hvalue⟩
        cases digits with
        | nil => exact absurd hvalue (Nat.not_lt.mpr hacc)
        | cons d digits =>
            obtain ⟨rfl, rfl⟩ := List.cons.inj hs
            exact hc (allDigits_cons.mp hall).1

theorem readOn_ne_empty {limit acc : Nat} {s : List Char} :
    readOn limit acc s ≠ .error .empty := by
  induction s generalizing acc with
  | nil => simp [readOn]
  | cons c s ih =>
      by_cases hc : IsDigit c
      · rw [readOn_cons_of_isDigit hc]
        split
        · simp
        · exact ih
      · simp [readOn_cons_of_not_isDigit hc]

/-- A text is read as digits, after its plus sign if it has one and more behind it. -/
theorem read_eq_readOn (limit : Nat) {s : List Char} (h : s ≠ []) :
    (∃ rest, rest ≠ [] ∧ s = '+' :: rest ∧ read limit s = readOn limit 0 rest) ∨
      (s = ['+'] ∧ read limit s = .error .invalidDigit) ∨
      ((∀ rest, s ≠ '+' :: rest) ∧ read limit s = readOn limit 0 s) := by
  fun_cases read limit s with
  | case1 => exact absurd rfl h
  | case2 => exact .inr (.inl ⟨rfl, rfl⟩)
  | case3 c rest => exact .inl ⟨c :: rest, List.cons_ne_nil _ _, rfl, rfl⟩
  | case4 s hnone hone hmore =>
      refine .inr (.inr ⟨?_, rfl⟩)
      rintro (_ | ⟨c, rest⟩) rfl
      · exact hone rfl
      · exact hmore c rest rfl

/-- A text that begins with a digit has no sign. -/
theorem AllDigits.ne_plus {digits : List Char} (h : AllDigits digits) (any : digits ≠ [])
    (rest after : List Char) : digits ++ rest ≠ '+' :: after := by
  obtain ⟨c, more, rfl⟩ := List.exists_cons_of_ne_nil any
  intro heq
  rw [List.cons_append, List.cons.injEq] at heq
  rw [heq.1] at h
  exact not_isDigit_plus (allDigits_cons.mp h).1

theorem read_of_allDigits (limit : Nat) {digits : List Char} (h : AllDigits digits)
    (any : digits ≠ []) (rest : List Char) :
    read limit (digits ++ rest) = readOn limit 0 (digits ++ rest) := by
  have hne : digits ++ rest ≠ [] := List.append_ne_nil_of_left_ne_nil any rest
  rcases read_eq_readOn limit hne with ⟨after, -, heq, -⟩ | ⟨heq, -⟩ | ⟨-, hread⟩
  · exact absurd heq (h.ne_plus any rest after)
  · exact absurd heq (h.ne_plus any rest [])
  · exact hread

theorem read_signed {limit : Nat} {s : List Char} (any : s ≠ []) :
    read limit ('+' :: s) = readOn limit 0 s := by
  obtain ⟨c, rest, rfl⟩ := List.exists_cons_of_ne_nil any
  rfl

/-- **The reader reads just the numerals of numbers up to its limit.** -/
theorem read_eq_ok_iff {limit n : Nat} {s : List Char} :
    read limit s = .ok n ↔ Numeral s n ∧ n ≤ limit := by
  constructor
  · intro h
    by_cases hs : s = []
    · subst hs
      cases h
    rcases read_eq_readOn limit hs with
      ⟨rest, hany, rfl, hread⟩ | ⟨-, hread⟩ | ⟨-, hread⟩
    · rw [hread, readOn_eq_ok_iff (Nat.zero_le _)] at h
      obtain ⟨hall, rfl, hle⟩ := h
      exact ⟨.signed hany hall, hle⟩
    · rw [hread] at h
      cases h
    · rw [hread, readOn_eq_ok_iff (Nat.zero_le _)] at h
      obtain ⟨hall, rfl, hle⟩ := h
      exact ⟨.plain hs hall, hle⟩
  · rintro ⟨hnumeral, hle⟩
    cases hnumeral with
    | plain any all =>
        have hread := read_of_allDigits limit all any []
        rw [List.append_nil] at hread
        rw [hread]
        exact (readOn_eq_ok_iff (Nat.zero_le _)).mpr ⟨all, rfl, hle⟩
    | signed any all =>
        rw [read_signed any]
        exact (readOn_eq_ok_iff (Nat.zero_le _)).mpr ⟨all, rfl, hle⟩

theorem ne_nil_of_lt_value {limit : Nat} {digits : List Char} (h : limit < value digits) :
    digits ≠ [] := by
  rintro rfl
  exact absurd h (Nat.not_lt_zero limit)

theorem read_eq_tooLarge_iff {limit : Nat} {s : List Char} :
    read limit s = .error .tooLarge ↔ Exceeds limit s := by
  constructor
  · intro h
    by_cases hs : s = []
    · subst hs
      cases h
    rcases read_eq_readOn limit hs with
      ⟨after, -, rfl, hread⟩ | ⟨-, hread⟩ | ⟨-, hread⟩
    · rw [hread, readOn_eq_tooLarge_iff (Nat.zero_le _)] at h
      obtain ⟨digits, rest, rfl, hall, habove⟩ := h
      exact .signed rest hall habove
    · rw [hread] at h
      cases h
    · rw [hread, readOn_eq_tooLarge_iff (Nat.zero_le _)] at h
      obtain ⟨digits, rest, rfl, hall, habove⟩ := h
      exact .plain rest hall habove
  · intro h
    cases h with
    | @plain digits rest all above =>
        rw [read_of_allDigits limit all (ne_nil_of_lt_value above) rest,
          readOn_eq_tooLarge_iff (Nat.zero_le _)]
        exact ⟨digits, rest, rfl, all, above⟩
    | @signed digits rest all above =>
        have any := List.append_ne_nil_of_left_ne_nil (ne_nil_of_lt_value above) rest
        rw [List.cons_append, read_signed any, readOn_eq_tooLarge_iff (Nat.zero_le _)]
        exact ⟨digits, rest, rfl, all, above⟩

/-- **What the reader reports of a text that it does not read**, if there is a text at all. -/
theorem read_eq_error_iff {limit : Nat} {s : List Char} (h : s ≠ []) {refusal : Refusal} :
    read limit s = .error refusal ↔ (∀ n, Numeral s n → limit < n) ∧
      ((refusal = .tooLarge ∧ Exceeds limit s) ∨ (refusal = .invalidDigit ∧ ¬ Exceeds limit s)) := by
  have hnumeral : (∀ n, Numeral s n → limit < n) ↔ ∀ n, read limit s ≠ .ok n := by
    refine forall_congr' fun n => ?_
    rw [Ne, read_eq_ok_iff, not_and, Nat.not_le]
  rw [hnumeral, ← read_eq_tooLarge_iff]
  cases hread : read limit s with
  | ok n => simp
  | error r =>
      have hr : r ≠ .empty := by
        rintro rfl
        rcases read_eq_readOn limit h with
          ⟨rest, -, -, hrest⟩ | ⟨-, hrest⟩ | ⟨-, hrest⟩
        · exact readOn_ne_empty (hrest.symm.trans hread)
        · rw [hread] at hrest
          cases hrest
        · exact readOn_ne_empty (hrest.symm.trans hread)
      cases r with
      | empty => exact absurd rfl hr
      | invalidDigit => cases refusal <;> simp
      | tooLarge => cases refusal <;> simp

/-- A numeral is one of one number. -/
theorem Numeral.unique {s : List Char} {m n : Nat} (hm : Numeral s m) (hn : Numeral s n) :
    m = n := by
  have hm := read_eq_ok_iff.mpr ⟨hm, Nat.le_max_left m n⟩
  have hn := read_eq_ok_iff.mpr ⟨hn, Nat.le_max_right m n⟩
  exact Except.ok.inj (hm.symm.trans hn)

/-! ## 3. Writing -/

/-- The digits that a number is written with are digits, and its value is theirs. -/
theorem digits_spec (n : Nat) : AllDigits (digits n) ∧ value (digits n) = n := by
  have hread := readOn_digits n n
  rw [if_pos (Nat.le_refl n), readOn_eq_ok_iff (Nat.zero_le _)] at hread
  exact ⟨hread.1, hread.2.1⟩

theorem value_zeros_append (zeros : Nat) (s : List Char) :
    value (List.replicate zeros '0' ++ s) = value s := by
  induction zeros with
  | zero => rfl
  | succ zeros ih =>
      rw [List.replicate_succ, List.cons_append, ← ih]
      rfl

/-- **A number may be written with a plus sign and with zeros in front of its digits.** -/
theorem numeral_zeros_digits (zeros n : Nat) :
    Numeral (List.replicate zeros '0' ++ digits n) n ∧
      Numeral ('+' :: (List.replicate zeros '0' ++ digits n)) n := by
  obtain ⟨hall, hvalue⟩ := digits_spec n
  have hany : List.replicate zeros '0' ++ digits n ≠ [] :=
    List.append_ne_nil_of_right_ne_nil _ (digits_ne_nil n)
  have hdigits : AllDigits (List.replicate zeros '0' ++ digits n) := by
    intro c hc
    rcases List.mem_append.mp hc with hc | hc
    · rw [List.eq_of_mem_replicate hc]
      exact ⟨by decide, by decide⟩
    · exact hall c hc
  have hplain := Numeral.plain hany hdigits
  have hsigned := Numeral.signed hany hdigits
  rw [value_zeros_append, hvalue] at hplain hsigned
  exact ⟨hplain, hsigned⟩

/-- **What a number is written as is a numeral of it**, of digits alone. -/
theorem numeral_text (n : Nat) : Numeral (text n).toList n ∧ AllDigits (text n).toList := by
  rw [text, String.toList_ofList]
  exact ⟨(numeral_zeros_digits 0 n).1, (digits_spec n).1⟩

end Courier.Decimal
