import Courier.Utf8

/-!
# UTF-8, both ways

The byte form of a character is one of four shapes (`Utf8.Form`): the number of the character is
spread over one to four bytes, and no other number and no longer form is allowed. This file says
that the strict reader reads just these.

* `form_encodeChar`, `Form.eq_encodeChar`: the forms are the bytes that characters are written with.
* `decodeFrom_append`: where a form stands in front, the reader reads it and goes on behind it.
* `decode_eq_ok_iff`: bytes are read as a text just where they are what the text is written with.
* `decode?_pad`: text in front of bytes or behind them is read as such, and does not make a text of
  bytes that are none.
-/

namespace Courier.Utf8

/-! ## 1. Bytes as numbers -/

theorem isTail_iff {b : UInt8} : isTail b = true ↔ 128 ≤ b.toNat ∧ b.toNat ≤ 191 := by
  simp [isTail, UInt8.le_iff_toNat_le]

theorem isSecondOfThree_iff {a b : UInt8} :
    isSecondOfThree a b = true ↔ (a.toNat = 224 → 160 ≤ b.toNat) ∧
      (a.toNat = 237 → b.toNat ≤ 159) ∧ 128 ≤ b.toNat ∧ b.toNat ≤ 191 := by
  unfold isSecondOfThree
  by_cases hlow : a = 224
  · simp [hlow, UInt8.le_iff_toNat_le]
    omega
  · have hlow' : a.toNat ≠ 224 := fun h => hlow (UInt8.toNat_inj.mp h)
    by_cases hhigh : a = 237
    · simp [hhigh, UInt8.le_iff_toNat_le]
      omega
    · have hhigh' : a.toNat ≠ 237 := fun h => hhigh (UInt8.toNat_inj.mp h)
      simp [hlow, hhigh, hlow', hhigh', isTail_iff]

theorem isSecondOfFour_iff {a b : UInt8} :
    isSecondOfFour a b = true ↔ (a.toNat = 240 → 144 ≤ b.toNat) ∧
      (a.toNat = 244 → b.toNat ≤ 143) ∧ 128 ≤ b.toNat ∧ b.toNat ≤ 191 := by
  unfold isSecondOfFour
  by_cases hlow : a = 240
  · simp [hlow, UInt8.le_iff_toNat_le]
    omega
  · have hlow' : a.toNat ≠ 240 := fun h => hlow (UInt8.toNat_inj.mp h)
    by_cases hhigh : a = 244
    · simp [hhigh, UInt8.le_iff_toNat_le]
      omega
    · have hhigh' : a.toNat ≠ 244 := fun h => hhigh (UInt8.toNat_inj.mp h)
      simp [hlow, hhigh, hlow', hhigh', isTail_iff]

/-! ## 2. Forms -/

/-- The byte form of the character with a number: one byte below 128, or a first byte that tells how
    many follow and those, with the bits of the number spread over them. The least second bytes
    leave out forms that are longer than need be, the greatest ones surrogates and numbers above
    U+10FFFF. -/
inductive Form : Bytes → Nat → Prop
  | one {a : UInt8} (ha : a.toNat < 128) : Form [a] a.toNat
  | two {a b : UInt8} (low : 194 ≤ a.toNat) (high : a.toNat ≤ 223) (hb : isTail b = true) :
      Form [a, b] (a.toNat % 32 * 64 + tailBits b)
  | three {a b c : UInt8} (low : 224 ≤ a.toNat) (high : a.toNat ≤ 239)
      (hb : isSecondOfThree a b = true) (hc : isTail c = true) :
      Form [a, b, c] (a.toNat % 16 * 4096 + tailBits b * 64 + tailBits c)
  | four {a b c d : UInt8} (low : 240 ≤ a.toNat) (high : a.toNat ≤ 244)
      (hb : isSecondOfFour a b = true) (hc : isTail c = true) (hd : isTail d = true) :
      Form [a, b, c, d]
        (a.toNat % 8 * 262144 + tailBits b * 4096 + tailBits c * 64 + tailBits d)

theorem toNat_ofNat_of_lt {n : Nat} (h : n < 256) : (UInt8.ofNat n).toNat = n := by
  rw [UInt8.toNat_ofNat']
  exact Nat.mod_eq_of_lt h

/-- The character with a number that is none of a surrogate and not above U+10FFFF has it. -/
theorem toNat_ofNat_of_valid {n : Nat} (h : n.isValidChar) : (Char.ofNat n).toNat = n := by
  rw [Char.ofNat, dif_pos h]
  rfl

/-- The number of a character is none of a surrogate, and not above U+10FFFF. -/
theorem isValidChar_toNat (c : Char) :
    c.toNat < 0xD800 ∨ (0xDFFF < c.toNat ∧ c.toNat < 0x110000) := c.valid

/-- **What a character is written with is a form of its number.** -/
theorem form_encodeChar (c : Char) : Form (String.utf8EncodeChar c) c.toNat := by
  have hvalid := isValidChar_toNat c
  have hn : c.val.toNat = c.toNat := rfl
  unfold String.utf8EncodeChar
  rw [hn]
  generalize c.toNat = n at hvalid
  dsimp only
  split
  · have hform := Form.one (a := UInt8.ofNat n) (by rw [toNat_ofNat_of_lt] <;> omega)
    rwa [toNat_ofNat_of_lt (by omega)] at hform
  · split
    · have ha := toNat_ofNat_of_lt (n := n / 64 % 32 + 192) (by omega)
      have hb := toNat_ofNat_of_lt (n := n % 64 + 128) (by omega)
      have hform := Form.two (a := UInt8.ofNat (n / 64 % 32 + 192)) (b := UInt8.ofNat (n % 64 + 128))
        (by omega) (by omega) (isTail_iff.mpr (by omega))
      have hbits : (n / 64 % 32 + 192) % 32 * 64 + (n % 64 + 128) % 64 = n := by omega
      rwa [tailBits, ha, hb, hbits] at hform
    · split
      · have ha := toNat_ofNat_of_lt (n := n / 4096 % 16 + 224) (by omega)
        have hb := toNat_ofNat_of_lt (n := n / 64 % 64 + 128) (by omega)
        have hc := toNat_ofNat_of_lt (n := n % 64 + 128) (by omega)
        have hform := Form.three (a := UInt8.ofNat (n / 4096 % 16 + 224))
          (b := UInt8.ofNat (n / 64 % 64 + 128)) (c := UInt8.ofNat (n % 64 + 128))
          (by omega) (by omega) (isSecondOfThree_iff.mpr (by omega)) (isTail_iff.mpr (by omega))
        have hbits : (n / 4096 % 16 + 224) % 16 * 4096 + (n / 64 % 64 + 128) % 64 * 64 +
            (n % 64 + 128) % 64 = n := by omega
        rwa [tailBits, tailBits, ha, hb, hc, hbits] at hform
      · have ha := toNat_ofNat_of_lt (n := n / 262144 % 8 + 240) (by omega)
        have hb := toNat_ofNat_of_lt (n := n / 4096 % 64 + 128) (by omega)
        have hc := toNat_ofNat_of_lt (n := n / 64 % 64 + 128) (by omega)
        have hd := toNat_ofNat_of_lt (n := n % 64 + 128) (by omega)
        have hform := Form.four (a := UInt8.ofNat (n / 262144 % 8 + 240))
          (b := UInt8.ofNat (n / 4096 % 64 + 128)) (c := UInt8.ofNat (n / 64 % 64 + 128))
          (d := UInt8.ofNat (n % 64 + 128)) (by omega) (by omega)
          (isSecondOfFour_iff.mpr (by omega)) (isTail_iff.mpr (by omega))
          (isTail_iff.mpr (by omega))
        have hbits : (n / 262144 % 8 + 240) % 8 * 262144 + (n / 4096 % 64 + 128) % 64 * 4096 +
            (n / 64 % 64 + 128) % 64 * 64 + (n % 64 + 128) % 64 = n := by omega
        rwa [tailBits, tailBits, tailBits, ha, hb, hc, hd, hbits] at hform

theorem Form.valid {bytes : Bytes} {n : Nat} (h : Form bytes n) : n.isValidChar := by
  cases h with
  | one ha => exact .inl (by omega)
  | two low high hb =>
      rw [isTail_iff] at hb
      simp only [tailBits, Nat.isValidChar]
      omega
  | three low high hb hc =>
      rw [isSecondOfThree_iff] at hb
      rw [isTail_iff] at hc
      simp only [tailBits, Nat.isValidChar]
      omega
  | four low high hb hc hd =>
      rw [isSecondOfFour_iff] at hb
      rw [isTail_iff] at hc hd
      simp only [tailBits, Nat.isValidChar]
      omega

/-- **A form of a number is what the character with this number is written with.** -/
theorem Form.eq_encodeChar {bytes : Bytes} {n : Nat} (h : Form bytes n) :
    bytes = String.utf8EncodeChar (Char.ofNat n) := by
  have hn : (Char.ofNat n).val.toNat = n := toNat_ofNat_of_valid h.valid
  cases h with
  | one ha =>
      unfold String.utf8EncodeChar
      rw [hn]
      dsimp only
      rw [if_pos (by omega), UInt8.ofNat_toNat]
  | @two a b low high hb =>
      rw [isTail_iff] at hb
      generalize hbits : a.toNat % 32 * 64 + tailBits b = n at hn ⊢
      rw [tailBits] at hbits
      have ha' : n / 64 % 32 + 192 = a.toNat := by omega
      have hb' : n % 64 + 128 = b.toNat := by omega
      unfold String.utf8EncodeChar
      rw [hn]
      dsimp only
      rw [if_neg (by omega), if_pos (by omega), ha', hb', UInt8.ofNat_toNat, UInt8.ofNat_toNat]
  | @three a b c low high hb hc =>
      rw [isSecondOfThree_iff] at hb
      rw [isTail_iff] at hc
      generalize hbits : a.toNat % 16 * 4096 + tailBits b * 64 + tailBits c = n at hn ⊢
      rw [tailBits, tailBits] at hbits
      have ha' : n / 4096 % 16 + 224 = a.toNat := by omega
      have hb' : n / 64 % 64 + 128 = b.toNat := by omega
      have hc' : n % 64 + 128 = c.toNat := by omega
      unfold String.utf8EncodeChar
      rw [hn]
      dsimp only
      rw [if_neg (by omega), if_neg (by omega), if_pos (by omega), ha', hb', hc',
        UInt8.ofNat_toNat, UInt8.ofNat_toNat, UInt8.ofNat_toNat]
  | @four a b c d low high hb hc hd =>
      rw [isSecondOfFour_iff] at hb
      rw [isTail_iff] at hc hd
      generalize hbits : a.toNat % 8 * 262144 + tailBits b * 4096 + tailBits c * 64 +
        tailBits d = n at hn ⊢
      rw [tailBits, tailBits, tailBits] at hbits
      have ha' : n / 262144 % 8 + 240 = a.toNat := by omega
      have hb' : n / 4096 % 64 + 128 = b.toNat := by omega
      have hc' : n / 64 % 64 + 128 = c.toNat := by omega
      have hd' : n % 64 + 128 = d.toNat := by omega
      unfold String.utf8EncodeChar
      rw [hn]
      dsimp only
      rw [if_neg (by omega), if_neg (by omega), if_neg (by omega), ha', hb', hc', hd',
        UInt8.ofNat_toNat, UInt8.ofNat_toNat, UInt8.ofNat_toNat, UInt8.ofNat_toNat]

/-! ## 3. The reader -/

/-- **Where a form stands in front, the reader reads it and goes on behind it.** -/
theorem Form.decodeFrom_append {bytes : Bytes} {n : Nat} (h : Form bytes n) (i : Nat)
    (rest : Bytes) :
    decodeFrom i (bytes ++ rest) =
      (decodeFrom (i + bytes.length) rest).map (Char.ofNat n :: ·) := by
  cases h with
  | @one a ha =>
      have h1 : a < 0x80 := UInt8.lt_iff_toNat_lt.mpr ha
      rw [List.cons_append, decodeFrom.eq_def]
      simp [h1]
  | @two a b low high hb =>
      have h1 : ¬ a < 0x80 := by rw [UInt8.lt_iff_toNat_lt]; simp; omega
      have h2 : 0xC2 ≤ a ∧ a ≤ 0xDF := by simp only [UInt8.le_iff_toNat_le]; exact ⟨low, high⟩
      rw [List.cons_append, decodeFrom.eq_def]
      simp [h1, h2, hb]
  | @three a b c low high hb hc =>
      have h1 : ¬ a < 0x80 := by rw [UInt8.lt_iff_toNat_lt]; simp; omega
      have h2 : ¬ (0xC2 ≤ a ∧ a ≤ 0xDF) := by simp [UInt8.le_iff_toNat_le]; omega
      have h3 : 0xE0 ≤ a ∧ a ≤ 0xEF := by simp only [UInt8.le_iff_toNat_le]; exact ⟨low, high⟩
      rw [List.cons_append, decodeFrom.eq_def]
      simp [h1, h2, h3, hb, hc]
  | @four a b c d low high hb hc hd =>
      have h1 : ¬ a < 0x80 := by rw [UInt8.lt_iff_toNat_lt]; simp; omega
      have h2 : ¬ (0xC2 ≤ a ∧ a ≤ 0xDF) := by simp [UInt8.le_iff_toNat_le]; omega
      have h3 : ¬ (0xE0 ≤ a ∧ a ≤ 0xEF) := by simp [UInt8.le_iff_toNat_le]; omega
      have h4 : 0xF0 ≤ a ∧ a ≤ 0xF4 := by simp only [UInt8.le_iff_toNat_le]; exact ⟨low, high⟩
      rw [List.cons_append, decodeFrom.eq_def]
      simp [h1, h2, h3, h4, hb, hc, hd]

theorem eq_ok_of_map_eq_ok {α β ε : Type} {f : α → β} {x : Except ε α} {b : β}
    (h : x.map f = .ok b) : ∃ a, x = .ok a ∧ f a = b := by
  cases x with
  | error e => cases h
  | ok a => exact ⟨a, rfl, Except.ok.inj h⟩

/-- **What the reader reads without an error begins with a form, or is nothing.** -/
theorem form_of_decodeFrom {i : Nat} {bytes : Bytes} {s : List Char}
    (h : decodeFrom i bytes = .ok s) :
    (bytes = [] ∧ s = []) ∨ ∃ form n rest text, Form form n ∧ bytes = form ++ rest ∧
      s = Char.ofNat n :: text ∧ decodeFrom (i + form.length) rest = .ok text := by
  cases bytes with
  | nil =>
      cases h
      exact .inl ⟨rfl, rfl⟩
  | cons a rest =>
      right
      rw [decodeFrom.eq_def] at h
      dsimp only at h
      split at h
      · rename_i h1
        obtain ⟨text, htext, rfl⟩ := eq_ok_of_map_eq_ok h
        exact ⟨_, _, rest, text, .one (UInt8.lt_iff_toNat_lt.mp h1), rfl, rfl, htext⟩
      split at h
      · rename_i h2
        simp only [UInt8.le_iff_toNat_le] at h2
        split at h
        · cases h
        split at h
        · rename_i hb
          obtain ⟨text, htext, rfl⟩ := eq_ok_of_map_eq_ok h
          exact ⟨_, _, _, text, .two h2.1 h2.2 hb, rfl, rfl, htext⟩
        · cases h
      split at h
      · rename_i h3
        simp only [UInt8.le_iff_toNat_le] at h3
        split at h
        · cases h
        split at h
        · rename_i hb
          split at h
          · cases h
          split at h
          · rename_i hc
            obtain ⟨text, htext, rfl⟩ := eq_ok_of_map_eq_ok h
            exact ⟨_, _, _, text, .three h3.1 h3.2 hb hc, rfl, rfl, htext⟩
          · cases h
        · cases h
      split at h
      · rename_i h4
        simp only [UInt8.le_iff_toNat_le] at h4
        split at h
        · cases h
        split at h
        · rename_i hb
          split at h
          · cases h
          split at h
          · rename_i hc
            split at h
            · cases h
            split at h
            · rename_i hd
              obtain ⟨text, htext, rfl⟩ := eq_ok_of_map_eq_ok h
              exact ⟨_, _, _, text, .four h4.1 h4.2 hb hc hd, rfl, rfl, htext⟩
            · cases h
          · cases h
        · cases h
      · cases h

/-! ## 4. Reading and writing -/

@[simp] theorem encode_nil : encode [] = [] := rfl

theorem encode_cons (c : Char) (s : List Char) :
    encode (c :: s) = String.utf8EncodeChar c ++ encode s := List.flatMap_cons

theorem encode_append (s t : List Char) : encode (s ++ t) = encode s ++ encode t :=
  List.flatMap_append

/-- **Text in front of bytes is read as such, and the reader goes on behind it.** -/
theorem decodeFrom_encode_append (i : Nat) (s : List Char) (rest : Bytes) :
    decodeFrom i (encode s ++ rest) =
      (decodeFrom (i + (encode s).length) rest).map (s ++ ·) := by
  induction s generalizing i with
  | nil =>
      rw [encode_nil, List.nil_append, List.length_nil, Nat.add_zero]
      cases decodeFrom i rest <;> rfl
  | cons c s ih =>
      rw [encode_cons, List.append_assoc, (form_encodeChar c).decodeFrom_append, ih,
        Char.ofNat_toNat, List.length_append, Nat.add_assoc]
      cases decodeFrom (i + ((String.utf8EncodeChar c).length + (encode s).length)) rest <;> rfl

/-- What is read without an error is what the text is written with. -/
theorem eq_encode_of_decodeFrom {i : Nat} {bytes : Bytes} {s : List Char}
    (h : decodeFrom i bytes = .ok s) : bytes = encode s := by
  induction s generalizing i bytes with
  | nil =>
      rcases form_of_decodeFrom h with ⟨rfl, -⟩ | ⟨form, n, rest, text, -, -, hs, -⟩
      · rfl
      · cases hs
  | cons c s ih =>
      rcases form_of_decodeFrom h with ⟨-, hs⟩ | ⟨form, n, rest, text, hform, rfl, hs, hrest⟩
      · cases hs
      · cases hs
        rw [encode_cons, ← hform.eq_encodeChar, ← ih hrest]

theorem decodeFrom_eq_ok_iff {i : Nat} {bytes : Bytes} {s : List Char} :
    decodeFrom i bytes = .ok s ↔ bytes = encode s := by
  constructor
  · exact eq_encode_of_decodeFrom
  · rintro rfl
    have happend := decodeFrom_encode_append i s []
    rw [List.append_nil] at happend
    rw [happend]
    show Except.ok (s ++ []) = _
    rw [List.append_nil]

/-- **Bytes are read as a text just where they are what the text is written with.** -/
theorem decode_eq_ok_iff {bytes : Bytes} {text : String} :
    decode bytes = .ok text ↔ bytes = encode text.toList := by
  rw [← decodeFrom_eq_ok_iff (i := 0), decode]
  constructor
  · intro h
    obtain ⟨s, hs, rfl⟩ := eq_ok_of_map_eq_ok h
    rw [hs, String.toList_ofList]
  · intro h
    rw [h]
    show Except.ok (String.ofList text.toList) = _
    rw [String.ofList_toList]

theorem decode?_eq_some_iff {bytes : Bytes} {text : String} :
    decode? bytes = some text ↔ bytes = encode text.toList := by
  rw [← decode_eq_ok_iff, decode?]
  cases decode bytes with
  | error malformed => simp
  | ok t => simp

theorem encode_injective {s t : List Char} (h : encode s = encode t) : s = t := by
  have hs : decodeFrom 0 (encode s) = .ok s := decodeFrom_eq_ok_iff.mpr rfl
  have ht : decodeFrom 0 (encode s) = .ok t := decodeFrom_eq_ok_iff.mpr h
  exact Except.ok.inj (hs.symm.trans ht)

/-! ## 5. Bytes between texts -/

/-- The first byte of a form continues none, and the others do. -/
theorem Form.exists_cons {bytes : Bytes} {n : Nat} (h : Form bytes n) :
    ∃ first more, bytes = first :: more ∧ isTail first = false ∧ ∀ b ∈ more, isTail b = true := by
  have not_tail : ∀ {b : UInt8}, b.toNat < 128 ∨ 191 < b.toNat → isTail b = false := by
    intro b hb
    rw [← Bool.not_eq_true, isTail_iff]
    omega
  cases h with
  | one ha => exact ⟨_, [], rfl, not_tail (.inl ha), by simp⟩
  | two low high hb => exact ⟨_, _, rfl, not_tail (.inr (by omega)), by simpa using hb⟩
  | three low high hb hc =>
      have hb : isTail _ = true := isTail_iff.mpr (isSecondOfThree_iff.mp hb).2.2
      exact ⟨_, _, rfl, not_tail (.inr (by omega)), by simp [hb, hc]⟩
  | four low high hb hc hd =>
      have hb : isTail _ = true := isTail_iff.mpr (isSecondOfFour_iff.mp hb).2.2
      exact ⟨_, _, rfl, not_tail (.inr (by omega)), by simp [hb, hc, hd]⟩

/-- No form begins in the middle of another, so a text that ends with a text has a text in front of
    it. -/
theorem exists_encode_of_append {bytes : Bytes} {back s : List Char}
    (h : bytes ++ encode back = encode s) : ∃ front, bytes = encode front := by
  induction s generalizing bytes with
  | nil => exact ⟨[], (List.append_eq_nil_iff.mp h).1⟩
  | cons c s ih =>
      rw [encode_cons] at h
      rcases List.append_eq_append_iff.mp h with ⟨within, hc, hback⟩ | ⟨behind, rfl, hs⟩
      · by_cases hbytes : bytes = []
        · exact ⟨[], hbytes⟩
        · by_cases hwithin : within = []
          · refine ⟨[c], ?_⟩
            rw [hwithin, List.append_nil] at hc
            rw [encode_cons, hc, encode_nil, List.append_nil]
          · exfalso
            obtain ⟨first, more, hfirst, -, htails⟩ := (form_encodeChar c).exists_cons
            obtain ⟨b, bytes, rfl⟩ := List.exists_cons_of_ne_nil hbytes
            obtain ⟨x, within, rfl⟩ := List.exists_cons_of_ne_nil hwithin
            rw [hc, List.cons_append, List.cons.injEq] at hfirst
            have htail : isTail x = true := htails x (by simp [← hfirst.2])
            cases back with
            | nil => simp at hback
            | cons d back =>
                obtain ⟨first', more', hd, hhead, -⟩ := (form_encodeChar d).exists_cons
                rw [encode_cons, hd, List.cons_append, List.cons_append,
                  List.cons.injEq] at hback
                rw [hback.1, htail] at hhead
                cases hhead
      · obtain ⟨front, rfl⟩ := ih hs.symm
        exact ⟨c :: front, (encode_cons c front).symm⟩

/-- **Text at the ends of bytes is read as such, and makes no text of bytes that are none.** -/
theorem decode?_pad (front back : List Char) (bytes : Bytes) :
    decode? (encode front ++ bytes ++ encode back) =
      (decode? bytes).map fun text => String.ofList (front ++ text.toList ++ back) := by
  cases hbytes : decode? bytes with
  | some text =>
      rw [decode?_eq_some_iff] at hbytes
      rw [Option.map_some, decode?_eq_some_iff, hbytes, String.toList_ofList, encode_append,
        encode_append]
  | none =>
      rw [Option.map_none, Option.eq_none_iff_forall_ne_some]
      intro text htext
      rw [decode?_eq_some_iff] at htext
      obtain ⟨s, hs⟩ := exists_encode_of_append htext
      -- the text in front is read off, and what is left is read as well
      have hread : decodeFrom 0 (encode front ++ bytes) = .ok s := decodeFrom_eq_ok_iff.mpr hs
      rw [decodeFrom_encode_append] at hread
      obtain ⟨rest, hrest, -⟩ := eq_ok_of_map_eq_ok hread
      have hsome : decode? bytes = some (String.ofList rest) := by
        rw [decode?_eq_some_iff, String.toList_ofList]
        exact eq_encode_of_decodeFrom hrest
      rw [hbytes] at hsome
      cases hsome

end Courier.Utf8
