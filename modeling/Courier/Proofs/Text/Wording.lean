import Courier.Proofs.Text.Numerals
import Courier.Text.Quoted

/-!
# What a wording tells

Wordings are put together from fixed parts, numbers and quoted texts. Where one sees the end of a
part, the part can be read off again, whatever stands behind it: a number up to the first character
that is no digit (`Decimal.text_append_inj`), a quoted text up to its closing quote
(`Text.quoted_append_inj`).

Between quotes a character is itself, a letter behind a backslash, or its number in braces
(`Text.Spelled`). No spelling of a character begins one of another (`Text.Spelled.append_inj`), and
none begins with a quote.
-/

namespace Courier

/-! ## 1. Where a part ends -/

namespace Text

variable {w w' u v : List Char}

/-- Characters of one kind are a run of it where no such character follows. -/
theorem takeWhile_run {p : Char → Bool} (hw : ∀ c ∈ w, p c = true)
    (hu : ∀ c, u.head? = some c → p c = false) : (w ++ u).takeWhile p = w := by
  rw [List.takeWhile_append_of_pos hw]
  cases u with
  | nil => exact List.append_nil w
  | cons c u => rw [List.takeWhile_cons_of_neg (by simp [hu c rfl]), List.append_nil]

theorem dropWhile_run {p : Char → Bool} (hw : ∀ c ∈ w, p c = true)
    (hu : ∀ c, u.head? = some c → p c = false) : (w ++ u).dropWhile p = u := by
  have hwhole : (w ++ u).takeWhile p ++ (w ++ u).dropWhile p = w ++ u :=
    List.takeWhile_append_dropWhile
  rw [takeWhile_run hw hu] at hwhole
  exact List.append_cancel_left hwhole

/-- A part of characters of one kind ends where another character follows, or nothing. -/
theorem append_inj_of_run {p : Char → Bool} (hw : ∀ c ∈ w, p c = true)
    (hw' : ∀ c ∈ w', p c = true) (hu : ∀ c, u.head? = some c → p c = false)
    (hv : ∀ c, v.head? = some c → p c = false) (h : w ++ u = w' ++ v) : w = w' ∧ u = v := by
  have hsame : w = w' := by rw [← takeWhile_run hw hu, h, takeWhile_run hw' hv]
  subst hsame
  exact ⟨rfl, List.append_cancel_left h⟩

/-- A part ends at the first character that cannot stand in it. -/
theorem append_cons_inj {c : Char} (hw : c ∉ w) (hw' : c ∉ w') (h : w ++ c :: u = w' ++ c :: v) :
    w = w' ∧ u = v := by
  have without : ∀ {s : List Char}, c ∉ s → ∀ d ∈ s, (d != c) = true := fun hs d hd =>
    bne_iff_ne.mpr fun heq => hs (heq ▸ hd)
  have ends : ∀ (s : List Char) (d : Char), (c :: s).head? = some d → (d != c) = false := by
    rintro s d hd
    rw [← Option.some.inj hd, bne_self_eq_false]
  obtain ⟨hsame, hrest⟩ := append_inj_of_run (without hw) (without hw') (ends u) (ends v) h
  exact ⟨hsame, (List.cons.inj hrest).2⟩

end Text

/-! ## 2. Numbers -/

/-- **A number can be read off what begins with it**, where a part follows that does not begin with
    a digit. -/
theorem Decimal.text_append_inj {m n : Nat} {part u v : String} {mark : Char}
    (hmark : part.toList.head? = some mark) (ends : ¬ IsDigit mark)
    (h : text m ++ (part ++ u) = text n ++ (part ++ v)) : m = n ∧ u = v := by
  have digits : ∀ k, ∀ c ∈ (text k).toList, decide (IsDigit c) = true := fun k c hc =>
    decide_eq_true ((numeral_text k).2 c hc)
  have behind : ∀ (t : String) (c : Char), (part ++ t).toList.head? = some c →
      decide (IsDigit c) = false := by
    intro t c hc
    rw [String.toList_append, List.head?_append, hmark] at hc
    rw [← Option.some.inj hc]
    exact decide_eq_false ends
  have hlist := congrArg String.toList h
  rw [@String.toList_append (text m), @String.toList_append (text n)] at hlist
  obtain ⟨htext, hrest⟩ :=
    Text.append_inj_of_run (digits m) (digits n) (behind u) (behind v) hlist
  have hnumeral := (numeral_text m).1
  rw [htext] at hnumeral
  exact ⟨hnumeral.unique (numeral_text n).1,
    (String.append_right_inj part).mp (String.toList_inj.mp hrest)⟩

/-! ## 3. Characters between quotes -/

namespace Text

/-- The character that a letter behind a backslash denotes. -/
def denoted? : Char → Option Char
  | '0' => some '\x00'
  | 't' => some '\t'
  | 'r' => some '\r'
  | 'n' => some '\n'
  | '\\' => some '\\'
  | '"' => some '"'
  | _ => none

/-- The ways to spell a character between quotes: by itself, by a letter, by its number. -/
inductive Spelled : Char → List Char → Prop
  | plain {c : Char} (hquote : c ≠ '"') (hslash : c ≠ '\\') : Spelled c [c]
  | letter {e c : Char} (denotes : denoted? e = some c) : Spelled c ['\\', e]
  | number {c : Char} {digits : List Char} (denotes : Hex.numeral? 16 digits = some c.toNat) :
      Spelled c ('\\' :: 'u' :: '\x7b' :: digits ++ ['\x7d'])

/-- A character is spelled in one of the ways. -/
theorem spelled_quotedChar (c : Char) : Spelled c (quotedChar c) := by
  unfold quotedChar
  -- six letters, then the numbers, then what stands for itself
  split
  · subst_vars
    exact .letter rfl
  split
  · subst_vars
    exact .letter rfl
  split
  · subst_vars
    exact .letter rfl
  split
  · subst_vars
    exact .letter rfl
  split
  · subst_vars
    exact .letter rfl
  split
  · subst_vars
    exact .letter rfl
  rename_i hslash hquote
  split
  · exact .number (Hex.numeral?_digits c.toNat)
  · exact .plain hquote hslash

/-- No spelling begins with a quote. -/
theorem Spelled.head {c : Char} {w : List Char} (h : Spelled c w) :
    ∃ e more, w = e :: more ∧ e ≠ '"' := by
  cases h with
  | plain hquote hslash => exact ⟨c, [], rfl, hquote⟩
  | letter denotes => exact ⟨_, _, rfl, by decide⟩
  | number denotes => exact ⟨_, _, rfl, by decide⟩

/-- No letter that denotes a character begins a number. -/
theorem ne_u_of_denoted? {e c : Char} (h : denoted? e = some c) : e ≠ 'u' := by
  rintro rfl
  rw [show denoted? 'u' = none by decide] at h
  cases h

/-- The closing brace is no digit, so it ends a number. -/
theorem brace_notMem_of_numeral? {base n : Nat} {digits : List Char}
    (h : Hex.numeral? base digits = some n) : '\x7d' ∉ digits := by
  intro hmem
  have hdigit := Hex.isSome_digitValue?_of_mem h hmem
  rw [show Hex.digitValue? '\x7d' = none by decide] at hdigit
  cases hdigit

/-- **A character can be read off what begins with a spelling of it.** -/
theorem Spelled.append_inj {c d : Char} {w w' u v : List Char} (h : Spelled c w)
    (h' : Spelled d w') (heq : w ++ u = w' ++ v) : c = d ∧ u = v := by
  cases h with
  | plain hquote hslash =>
    cases h' with
    | plain hquote' hslash' => exact List.cons.inj heq
    | letter denotes' => exact absurd (List.cons.inj heq).1 hslash
    | number denotes' => exact absurd (List.cons.inj heq).1 hslash
  | letter denotes =>
    cases h' with
    | plain hquote' hslash' => exact absurd (List.cons.inj heq).1.symm hslash'
    | letter denotes' =>
      obtain ⟨rfl, hrest⟩ := List.cons.inj (List.cons.inj heq).2
      exact ⟨Option.some.inj (denotes.symm.trans denotes'), hrest⟩
    | number denotes' =>
      exact absurd (List.cons.inj (List.cons.inj heq).2).1 (ne_u_of_denoted? denotes)
  | @number c digits denotes =>
    cases h' with
    | plain hquote' hslash' => exact absurd (List.cons.inj heq).1.symm hslash'
    | letter denotes' =>
      exact absurd (List.cons.inj (List.cons.inj heq).2).1.symm (ne_u_of_denoted? denotes')
    | @number d digits' denotes' =>
      have hdigits : digits ++ '\x7d' :: u = digits' ++ '\x7d' :: v := by simpa using heq
      obtain ⟨rfl, hrest⟩ := append_cons_inj (brace_notMem_of_numeral? denotes)
        (brace_notMem_of_numeral? denotes') hdigits
      exact ⟨Char.toNat_inj.mp (Option.some.inj (denotes.symm.trans denotes')), hrest⟩

/-! ## 4. Quoted texts -/

/-- What stands between quotes can be read off, up to the closing quote. -/
theorem flatMap_quotedChar_append_inj {x y u v : List Char}
    (h : x.flatMap quotedChar ++ '"' :: u = y.flatMap quotedChar ++ '"' :: v) : x = y ∧ u = v := by
  have noQuote : ∀ (c : Char) (s t : List Char), quotedChar c ++ s ≠ '"' :: t := by
    intro c s t heq
    obtain ⟨e, more, hw, hquote⟩ := (spelled_quotedChar c).head
    rw [hw] at heq
    exact hquote (List.cons.inj heq).1
  induction x generalizing y with
  | nil =>
    cases y with
    | nil => exact ⟨rfl, (List.cons.inj h).2⟩
    | cons d y =>
      rw [List.flatMap_cons, List.append_assoc] at h
      exact absurd h.symm (noQuote d _ _)
  | cons c x ih =>
    rw [List.flatMap_cons, List.append_assoc] at h
    cases y with
    | nil => exact absurd h (noQuote c _ _)
    | cons d y =>
      rw [List.flatMap_cons, List.append_assoc] at h
      obtain ⟨rfl, hrest⟩ := (spelled_quotedChar c).append_inj (spelled_quotedChar d) h
      obtain ⟨rfl, hbehind⟩ := ih hrest
      exact ⟨rfl, hbehind⟩

theorem toList_quoted (s : String) :
    (quoted s).toList = '"' :: s.toList.flatMap quotedChar ++ ['"'] := String.toList_ofList

/-- **A text can be read off what begins with it between quotes**, whatever stands behind it. -/
theorem quoted_append_inj {x y u v : String} (h : quoted x ++ u = quoted y ++ v) :
    x = y ∧ u = v := by
  have hlist := congrArg String.toList h
  simp only [String.toList_append, toList_quoted, List.cons_append, List.append_assoc,
    List.nil_append] at hlist
  obtain ⟨htext, hrest⟩ := flatMap_quotedChar_append_inj (List.cons.inj hlist).2
  exact ⟨String.toList_inj.mp htext, String.toList_inj.mp hrest⟩

/-- A character that stands for itself between quotes. -/
structure IsPlain (c : Char) : Prop where
  printable : isPrintable c = true
  apart : isCombining c = false
  notQuote : c ≠ '"'
  notSlash : c ≠ '\\'

theorem quotedChar_of_isPlain {c : Char} (h : IsPlain c) : quotedChar c = [c] := by
  have control : ∀ d, isPrintable d = false → c ≠ d := by
    rintro d hd rfl
    rw [h.printable] at hd
    cases hd
  rw [quotedChar, if_neg (control _ (by decide)), if_neg (control _ (by decide)),
    if_neg (control _ (by decide)), if_neg (control _ (by decide)), if_neg h.notSlash,
    if_neg h.notQuote, h.printable, h.apart]
  rfl

theorem flatMap_quotedChar_of_isPlain {s : List Char} (h : ∀ c ∈ s, IsPlain c) :
    s.flatMap quotedChar = s := by
  induction s with
  | nil => rfl
  | cons c s ih =>
    rw [List.flatMap_cons, quotedChar_of_isPlain (h c List.mem_cons_self),
      ih fun d hd => h d (List.mem_cons_of_mem c hd)]
    rfl

/-- A text of plain characters stands between the quotes as it is. -/
theorem toList_quoted_of_isPlain {s : String} (h : ∀ c ∈ s.toList, IsPlain c) :
    (quoted s).toList = '"' :: s.toList ++ ['"'] := by
  rw [toList_quoted, flatMap_quotedChar_of_isPlain h]

end Text

end Courier
