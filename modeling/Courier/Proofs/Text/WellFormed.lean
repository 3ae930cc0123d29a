import Courier.Proofs.Text.Utf8

/-!
# Well-formed UTF-8

Which bytes are a text can be said without the reader. The bits of a number are spread over one to
four bytes, of which the first tells how many follow (`Spells`); so a number may be spelled in
several ways, and numbers that belong to no character may be spelled as well. What spells a
character is the shortest of these ways, and its number is one of a character (`Proper`).
Well-formed bytes are proper sequences, one behind the other, and nothing else (`WellFormed`).

The ranges that the reader tests its bytes by come to just this (`form_iff_proper`), so bytes are
read as a text just where they are well-formed (`exists_decode_iff_wellFormed`).
-/

namespace Courier.Utf8

/-! ## 1. Numbers in bytes -/

/-- A sequence of bytes that spells a number, be it too long for it, or the number of no character:
    a first byte that begins with as many ones as there are bytes, or with a zero where it stands
    alone, and behind it bytes that begin with one and zero. All other bits are those of the
    number. -/
inductive Spells : Bytes → Nat → Prop
  | one {a : UInt8} (ha : a.toNat / 128 = 0b0) : Spells [a] a.toNat
  | two {a b : UInt8} (ha : a.toNat / 32 = 0b110) (hb : b.toNat / 64 = 0b10) :
      Spells [a, b] (a.toNat % 32 * 64 + b.toNat % 64)
  | three {a b c : UInt8} (ha : a.toNat / 16 = 0b1110) (hb : b.toNat / 64 = 0b10)
      (hc : c.toNat / 64 = 0b10) :
      Spells [a, b, c] (a.toNat % 16 * 4096 + b.toNat % 64 * 64 + c.toNat % 64)
  | four {a b c d : UInt8} (ha : a.toNat / 8 = 0b11110) (hb : b.toNat / 64 = 0b10)
      (hc : c.toNat / 64 = 0b10) (hd : d.toNat / 64 = 0b10) :
      Spells [a, b, c, d]
        (a.toNat % 8 * 262144 + b.toNat % 64 * 4096 + c.toNat % 64 * 64 + d.toNat % 64)

/-- How many numbers a number of bytes, four at most, has room for. -/
def capacity : Nat → Nat
  | 0 => 0
  | 1 => 0x80
  | 2 => 0x800
  | 3 => 0x10000
  | _ => 0x200000

variable {bytes : Bytes} {n : Nat}

theorem Spells.lt_capacity (h : Spells bytes n) : n < capacity bytes.length := by
  cases h <;> simp only [capacity, List.length_cons, List.length_nil] <;> omega

theorem Spells.length_pos_le (h : Spells bytes n) : 1 ≤ bytes.length ∧ bytes.length ≤ 4 := by
  cases h <;> simp

/-- Each number below the capacity of one, two or three bytes is spelled by as many. -/
theorem exists_spells {k : Nat} (hk : k ≤ 3) (h : n < capacity k) :
    ∃ other, Spells other n ∧ other.length = k := by
  match k with
  | 0 => exact absurd h (Nat.not_lt_zero n)
  | 1 =>
      have h : n < 128 := h
      have ha := toNat_ofNat_of_lt (n := n) (by omega)
      have hspells := Spells.one (a := .ofNat n) (by omega)
      rw [ha] at hspells
      exact ⟨_, hspells, rfl⟩
  | 2 =>
      have h : n < 2048 := h
      have ha := toNat_ofNat_of_lt (n := n / 64 + 192) (by omega)
      have hb := toNat_ofNat_of_lt (n := n % 64 + 128) (by omega)
      have hspells := Spells.two (a := .ofNat (n / 64 + 192)) (b := .ofNat (n % 64 + 128))
        (by omega) (by omega)
      rw [ha, hb, show (n / 64 + 192) % 32 * 64 + (n % 64 + 128) % 64 = n by omega] at hspells
      exact ⟨_, hspells, rfl⟩
  | 3 =>
      have h : n < 65536 := h
      have ha := toNat_ofNat_of_lt (n := n / 4096 + 224) (by omega)
      have hb := toNat_ofNat_of_lt (n := n / 64 % 64 + 128) (by omega)
      have hc := toNat_ofNat_of_lt (n := n % 64 + 128) (by omega)
      have hspells := Spells.three (a := .ofNat (n / 4096 + 224))
        (b := .ofNat (n / 64 % 64 + 128)) (c := .ofNat (n % 64 + 128))
        (by omega) (by omega) (by omega)
      rw [ha, hb, hc, show (n / 4096 + 224) % 16 * 4096 + (n / 64 % 64 + 128) % 64 * 64 +
        (n % 64 + 128) % 64 = n by omega] at hspells
      exact ⟨_, hspells, rfl⟩

theorem capacity_le_succ (k : Nat) : capacity k ≤ capacity (k + 1) := by
  match k with
  | 0 | 1 | 2 | 3 => decide
  | k + 4 => exact Nat.le_refl _

theorem capacity_mono {j k : Nat} (h : j ≤ k) : capacity j ≤ capacity k := by
  induction h with
  | refl => exact Nat.le_refl _
  | step _ ih => exact Nat.le_trans ih (capacity_le_succ _)

/-- **A spelling is the shortest just where one byte less has no room for the number.** -/
theorem Spells.shortest_iff (h : Spells bytes n) :
    (∀ other, Spells other n → bytes.length ≤ other.length) ↔ capacity (bytes.length - 1) ≤ n := by
  have hlength := h.length_pos_le
  constructor
  · intro shortest
    refine Nat.le_of_not_lt fun hroom => ?_
    obtain ⟨other, hother, hk⟩ := exists_spells (by omega) hroom
    have hle := shortest other hother
    omega
  · intro hroom other hother
    refine Nat.le_of_not_lt fun hshort => ?_
    have hmono : capacity other.length ≤ capacity (bytes.length - 1) :=
      capacity_mono (by omega)
    exact absurd hother.lt_capacity (Nat.not_lt.mpr (Nat.le_trans hmono hroom))

/-! ## 2. Characters -/

/-- A sequence of bytes that spells a character. -/
structure Proper (bytes : Bytes) (n : Nat) : Prop where
  /-- It spells a number. -/
  spells : Spells bytes n
  /-- No shorter one does. -/
  shortest : ∀ other, Spells other n → bytes.length ≤ other.length
  /-- The number is none of a surrogate. -/
  noSurrogate : ¬ (0xD800 ≤ n ∧ n ≤ 0xDFFF)
  /-- It is not above the last one of a character. -/
  le_last : n ≤ 0x10FFFF

theorem proper_iff : Proper bytes n ↔ Spells bytes n ∧ capacity (bytes.length - 1) ≤ n ∧
    ¬ (0xD800 ≤ n ∧ n ≤ 0xDFFF) ∧ n ≤ 0x10FFFF := by
  constructor
  · intro h
    exact ⟨h.spells, h.spells.shortest_iff.mp h.shortest, h.noSurrogate, h.le_last⟩
  · rintro ⟨hspells, hroom, hnone, hle⟩
    exact ⟨hspells, hspells.shortest_iff.mpr hroom, hnone, hle⟩

theorem Form.proper (h : Form bytes n) : Proper bytes n := by
  rw [proper_iff]
  cases h with
  | one ha => exact ⟨.one (by omega), Nat.zero_le _, by omega, by omega⟩
  | two low high hb =>
      rw [isTail_iff] at hb
      refine ⟨.two (by omega) (by omega), ?_⟩
      simp only [capacity, List.length_cons, List.length_nil, tailBits]
      omega
  | three low high hb hc =>
      rw [isSecondOfThree_iff] at hb
      rw [isTail_iff] at hc
      refine ⟨.three (by omega) (by omega) (by omega), ?_⟩
      simp only [capacity, List.length_cons, List.length_nil, tailBits]
      omega
  | four low high hb hc hd =>
      rw [isSecondOfFour_iff] at hb
      rw [isTail_iff] at hc hd
      refine ⟨.four (by omega) (by omega) (by omega) (by omega), ?_⟩
      simp only [capacity, List.length_cons, List.length_nil, tailBits]
      omega

theorem Proper.form (h : Proper bytes n) : Form bytes n := by
  obtain ⟨hspells, hroom, hnone, hle⟩ := proper_iff.mp h
  cases hspells with
  | one ha => exact .one (by omega)
  | two ha hb =>
      simp only [capacity, List.length_cons, List.length_nil] at hroom
      exact .two (by omega) (by omega) (isTail_iff.mpr (by omega))
  | three ha hb hc =>
      simp only [capacity, List.length_cons, List.length_nil] at hroom
      exact .three (by omega) (by omega) (isSecondOfThree_iff.mpr (by omega))
        (isTail_iff.mpr (by omega))
  | four ha hb hc hd =>
      simp only [capacity, List.length_cons, List.length_nil] at hroom
      exact .four (by omega) (by omega) (isSecondOfFour_iff.mpr (by omega))
        (isTail_iff.mpr (by omega)) (isTail_iff.mpr (by omega))

/-- **The ranges of the forms leave out what is too long, surrogates and numbers above U+10FFFF, and
    nothing else.** -/
theorem form_iff_proper : Form bytes n ↔ Proper bytes n := ⟨Form.proper, Proper.form⟩

/-! ## 3. Texts -/

/-- Well-formed bytes: what spells a character, any number of times, each to its end. -/
inductive WellFormed : Bytes → Prop
  | nil : WellFormed []
  | append {bytes rest : Bytes} {n : Nat} (first : Proper bytes n) (later : WellFormed rest) :
      WellFormed (bytes ++ rest)

theorem wellFormed_encode (s : List Char) : WellFormed (encode s) := by
  induction s with
  | nil => exact .nil
  | cons c s ih =>
      rw [encode_cons]
      exact .append (form_iff_proper.mp (form_encodeChar c)) ih

theorem WellFormed.exists_encode (h : WellFormed bytes) : ∃ s, bytes = encode s := by
  induction h with
  | nil => exact ⟨[], rfl⟩
  | append first later ih =>
      obtain ⟨s, rfl⟩ := ih
      exact ⟨_ :: s, by rw [encode_cons, ← (form_iff_proper.mpr first).eq_encodeChar]⟩

/-- **Bytes are read as a text just where they are well-formed.** -/
theorem exists_decode_iff_wellFormed : (∃ text, decode bytes = .ok text) ↔ WellFormed bytes := by
  constructor
  · rintro ⟨text, h⟩
    rw [decode_eq_ok_iff.mp h]
    exact wellFormed_encode _
  · intro h
    obtain ⟨s, rfl⟩ := h.exists_encode
    exact ⟨.ofList s, decode_eq_ok_iff.mpr (by rw [String.toList_ofList])⟩

end Courier.Utf8
