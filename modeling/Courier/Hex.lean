/-!
# Hexadecimal digits

Lower-case digits for escapes that print the number of a character, upper-case ones for
percent-encoding, the value of a digit in either case, and numerals in bases up to sixteen.
-/

namespace Courier.Hex

/-! ## 1. Writing -/

/-- The lower-case digit of a number below sixteen. -/
def digit (n : Nat) : Char := Char.ofNat (if n < 10 then 48 + n else 87 + n)

/-- The upper-case digit of a number below sixteen. -/
def upperDigit (n : Nat) : Char := Char.ofNat (if n < 10 then 48 + n else 55 + n)

/-- The hexadecimal digits of a number, lower-case, the most significant first. -/
def digits (n : Nat) : List Char :=
  if n < 16 then [digit n] else digits (n / 16) ++ [digit (n % 16)]
termination_by n
decreasing_by omega

/-! ## 2. Reading -/

/-- The value of a hexadecimal digit of either case. -/
def digitValue? (c : Char) : Option Nat :=
  if 48 ≤ c.toNat ∧ c.toNat ≤ 57 then some (c.toNat - 48)
  else if 97 ≤ c.toNat ∧ c.toNat ≤ 102 then some (c.toNat - 87)
  else if 65 ≤ c.toNat ∧ c.toNat ≤ 70 then some (c.toNat - 55)
  else none

theorem digitValue?_digit : ∀ n < 16, digitValue? (digit n) = some n := by decide

/-- The number that four hexadecimal digits denote. -/
def fourDigits? (a b c d : Char) : Option Nat :=
  match digitValue? a, digitValue? b, digitValue? c, digitValue? d with
  | some a, some b, some c, some d => some (4096 * a + 256 * b + 16 * c + d)
  | _, _, _, _ => none

/-- The number that digits denote in a base of sixteen at most; no digits denote zero. -/
def numeral? (base : Nat) (digits : List Char) : Option Nat :=
  digits.foldl more (some 0)
where
  /-- One digit more. -/
  more (acc : Option Nat) (c : Char) : Option Nat :=
    match acc, digitValue? c with
    | some acc, some d => if d < base then some (base * acc + d) else none
    | _, _ => none

theorem numeral?_append (base : Nat) (s t : List Char) :
    numeral? base (s ++ t) = t.foldl (numeral?.more base) (numeral? base s) :=
  List.foldl_append

theorem more_digit (acc : Nat) {d : Nat} (h : d < 16) :
    numeral?.more 16 (some acc) (digit d) = some (16 * acc + d) := by
  unfold numeral?.more
  rw [digitValue?_digit d h]
  exact if_pos h

/-- **Reading undoes writing.** -/
theorem numeral?_digits (n : Nat) : numeral? 16 (digits n) = some n := by
  induction n using Nat.strongRecOn with
  | _ n ih =>
    rw [digits]
    by_cases h : n < 16
    · rw [if_pos h]
      show numeral?.more 16 (some 0) (digit n) = some n
      rw [more_digit 0 h, Nat.mul_zero, Nat.zero_add]
    · rw [if_neg h, numeral?_append, ih (n / 16) (by omega)]
      show numeral?.more 16 (some (n / 16)) (digit (n % 16)) = some n
      rw [more_digit _ (Nat.mod_lt _ (by decide)), Nat.div_add_mod]

/-- What is no digit ends a numeral for good. -/
theorem foldl_more_none (base : Nat) (s : List Char) :
    s.foldl (numeral?.more base) none = none := by
  induction s with
  | nil => rfl
  | cons c s ih => exact ih

/-- A numeral has digits only. -/
theorem isSome_digitValue?_of_mem {base n : Nat} {s : List Char} (h : numeral? base s = some n)
    {c : Char} (hc : c ∈ s) : (digitValue? c).isSome = true := by
  obtain ⟨front, back, rfl⟩ := List.append_of_mem hc
  cases hvalue : digitValue? c with
  | some d => rfl
  | none =>
    have hmore : ∀ acc, numeral?.more base acc c = none := by
      intro acc
      unfold numeral?.more
      rw [hvalue]
      cases acc <;> rfl
    rw [numeral?_append, List.foldl_cons, hmore, foldl_more_none] at h
    cases h

end Courier.Hex
