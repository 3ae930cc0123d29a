/-!
# Decimal numerals

A natural number is written with its decimal digits, the most significant first and without leading
zeros. Reading is for numerals with an upper limit:

* one plus sign may stand in front, a minus sign may not;
* the digits are the ten ASCII ones;
* characters are judged from the left, and at each one a wrong character is reported before a
  value above the limit, so `99x` with limit 50 is too large and `9x9` is a wrong digit.
-/

namespace Courier.Decimal

/-! ## 1. Writing -/

/-- The digit of a number below ten. -/
def digit (n : Nat) : Char := Char.ofNat (48 + n)

/-- The decimal digits of a number, the most significant first. -/
def digits (n : Nat) : List Char :=
  if n < 10 then [digit n] else digits (n / 10) ++ [digit (n % 10)]
termination_by n
decreasing_by omega

/-- The numeral of a number. -/
def text (n : Nat) : String := String.ofList (digits n)

theorem digits_of_lt (n : Nat) (h : n < 10) : digits n = [digit n] := by
  rw [digits, if_pos h]

theorem digits_of_ge (n : Nat) (h : 10 ≤ n) : digits n = digits (n / 10) ++ [digit (n % 10)] := by
  rw [digits, if_neg (by omega)]

theorem digit_toNat (n : Nat) (h : n < 10) : (digit n).toNat = 48 + n := by
  have : n = 0 ∨ n = 1 ∨ n = 2 ∨ n = 3 ∨ n = 4 ∨ n = 5 ∨ n = 6 ∨ n = 7 ∨ n = 8 ∨ n = 9 := by
    omega
  rcases this with h | h | h | h | h | h | h | h | h | h <;> subst h <;> rfl

theorem digits_ne_nil (n : Nat) : digits n ≠ [] := by
  by_cases h : n < 10
  · rw [digits_of_lt n h]
    exact List.cons_ne_nil _ _
  · rw [digits_of_ge n (by omega)]
    exact List.append_ne_nil_of_right_ne_nil _ (List.cons_ne_nil _ _)

/-- The numeral of a number, filled up with zeros in front to at least `width` digits. -/
def padded (width n : Nat) : List Char :=
  List.replicate (width - (digits n).length) '0' ++ digits n

/-! ## 2. Reading -/

/-- The value of an ASCII digit. -/
def digitValue? (c : Char) : Option Nat :=
  if 48 ≤ c.toNat ∧ c.toNat ≤ 57 then some (c.toNat - 48) else none

theorem digitValue?_digit (n : Nat) (h : n < 10) : digitValue? (digit n) = some n := by
  rw [digitValue?, digit_toNat n h, if_pos (by omega)]
  congr 1
  omega

/-- Why a text is no numeral below the limit. -/
inductive Refusal
  /-- There is no character at all. -/
  | empty
  /-- A character is no digit, or a sign stands alone. -/
  | invalidDigit
  /-- The value exceeds the limit. -/
  | tooLarge
  deriving DecidableEq, Repr

/-- The wording of a refusal. -/
def Refusal.message : Refusal → String
  | .empty => "cannot parse integer from empty string"
  | .invalidDigit => "invalid digit found in string"
  | .tooLarge => "number too large to fit in target type"

/-- Reads digits to the end, `acc` being the value of those before. -/
def readOn (limit : Nat) : Nat → List Char → Except Refusal Nat
  | acc, [] => .ok acc
  | acc, c :: rest =>
    match digitValue? c with
    | none => .error .invalidDigit
    | some d => if limit < 10 * acc + d then .error .tooLarge else readOn limit (10 * acc + d) rest

theorem readOn_append (limit acc : Nat) (s t : List Char) :
    readOn limit acc (s ++ t) =
      match readOn limit acc s with
      | .ok a => readOn limit a t
      | .error r => .error r := by
  induction s generalizing acc with
  | nil => rfl
  | cons c s ih =>
    simp only [List.cons_append, readOn]
    cases digitValue? c with
    | none => rfl
    | some d =>
      dsimp only
      split
      · rfl
      · exact ih _

/-- **Reading undoes writing**, up to the limit. -/
theorem readOn_digits (limit n : Nat) :
    readOn limit 0 (digits n) = if n ≤ limit then .ok n else .error .tooLarge := by
  induction n using Nat.strongRecOn with
  | _ n ih =>
    by_cases h : n < 10
    · rw [digits_of_lt n h, readOn, digitValue?_digit n h]
      by_cases hl : n ≤ limit
      · rw [if_pos hl]
        simp [readOn, Nat.not_lt.mpr hl]
      · rw [if_neg hl]
        simp [Nat.lt_of_not_le hl]
    · have h10 : 10 ≤ n := by omega
      rw [digits_of_ge n h10, readOn_append, ih (n / 10) (by omega)]
      have hd := digitValue?_digit (n % 10) (Nat.mod_lt _ (by decide))
      have hn : 10 * (n / 10) + n % 10 = n := Nat.div_add_mod n 10
      by_cases hq : n / 10 ≤ limit
      · rw [if_pos hq]
        simp only [readOn, hd, hn]
        by_cases hl : n ≤ limit
        · rw [if_pos hl, if_neg (by omega)]
        · rw [if_neg hl, if_pos (by omega)]
      · rw [if_neg hq, if_neg (by omega)]

/-- The number that a text denotes, at most `limit`. -/
def read (limit : Nat) : List Char → Except Refusal Nat
  | [] => .error .empty
  | '+' :: [] => .error .invalidDigit
  | '+' :: c :: rest => readOn limit 0 (c :: rest)
  | s => readOn limit 0 s

end Courier.Decimal
