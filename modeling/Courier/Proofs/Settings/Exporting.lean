import Courier.Proofs.Settings.Environment

/-!
# Settings written to the environment

Each field is written into its variable: a number in decimal digits, with zeros in front of them and
with a plus sign if one likes, a truth value by its word, the content type as it is; and blanks may
stand at both ends (`Settings.Layout`). What is read from there is what has been written, for the
settings that a reader of the environment can have at all (`Settings.Portable`), and for these
however they are laid out (`Settings.environment_round_trip`).
-/

namespace Courier.Settings

open Text (AllBlank Bare isBlank)

/-! ## 1. Writing -/

/-- How a value is laid out in its variable. -/
structure Layout where
  /-- What stands in front of the value. -/
  front : List Char
  /-- What stands behind it. -/
  back : List Char
  front_blank : AllBlank front
  back_blank : AllBlank back
  /-- How many zeros stand in front of the digits of a number. -/
  zeros : Nat
  /-- Whether a plus sign stands in front of a number. -/
  plus : Bool

/-- The value alone. -/
def Layout.plain : Layout where
  front := []
  back := []
  front_blank := by simp [AllBlank]
  back_blank := by simp [AllBlank]
  zeros := 0
  plus := false

/-- A number in its variable. -/
def Layout.numeral (layout : Layout) (n : Nat) : List Char :=
  let digits := List.replicate layout.zeros '0' ++ Decimal.digits n
  if layout.plus then '+' :: digits else digits

/-- A value in the variable of its field, without the blanks around it. -/
def Field.written (layout : Layout) : (f : Field) → f.Value → List Char
  | .failOnHttpError, flag => (boolText flag).toList
  | .maxRetries, n => layout.numeral (UInt32.toNat n)
  | .timeoutMs, n | .retryBackoffMs, n | .maxBackoffMs, n | .maxParallel, n =>
    layout.numeral (UInt64.toNat n)
  | .postContentType, contentType => String.toList contentType

/-- The environment with the settings in the variables of their fields. -/
def toEnvironment (s : Settings) (layout : Field → Layout) (others : Environment) : Environment :=
  fun name =>
    match Field.all.find? fun f => f.variable == name with
    | some f =>
      some (Utf8.encode
        ((layout f).front ++ f.written (layout f) (s.get f) ++ (layout f).back))
    | none => others name

/-- Settings that can stand in an environment: at least one request runs at a time, and the content
    type is neither empty nor has a blank at one of its ends. -/
structure Portable (s : Settings) : Prop where
  one_le_maxParallel : 1 ≤ s.maxParallel
  bare : Bare s.postContentType.toList
  any : s.postContentType ≠ ""

variable {s : Settings} {f : Field}

/-- No two fields have one variable. -/
theorem find?_variable (f : Field) :
    (Field.all.find? fun g => g.variable == f.variable) = some f := by
  cases f <;> decide

/-! ## 2. Reading what is written -/

theorem not_blank_of_isDigit {c : Char} (h : Decimal.IsDigit c) : isBlank c = false := by
  obtain ⟨hlow, hhigh⟩ := h
  simp [isBlank]
  omega

theorem any_isBlank_of_allDigits {t : List Char} (h : Decimal.AllDigits t) :
    t.any isBlank = false := by
  rw [List.any_eq_false]
  intro c hc
  simp [not_blank_of_isDigit (h c hc)]

/-- There is no blank in a numeral. -/
theorem any_isBlank_of_numeral {t : List Char} {n : Nat} (h : Decimal.Numeral t n) :
    t.any isBlank = false := by
  cases h with
  | plain any all => exact any_isBlank_of_allDigits all
  | signed any all =>
      rw [List.any_cons, any_isBlank_of_allDigits all]
      decide

theorem numeral_numeral (layout : Layout) (n : Nat) : Decimal.Numeral (layout.numeral n) n := by
  obtain ⟨hplain, hsigned⟩ := Decimal.numeral_zeros_digits layout.zeros n
  unfold Layout.numeral
  by_cases hplus : layout.plus = true
  · rwa [if_pos hplus]
  · rwa [if_neg hplus]

/-- A text that denotes a value, and that blanks around it do not hide. -/
structure Legible (f : Field) (t : List Char) (value : f.Value) : Prop where
  denotes : f.Denotes (String.ofList t) value
  bare : Bare t
  any : t ≠ []

/-- **What is written for a value denotes it**, if a content type may be written at all. -/
theorem legible_written (h : Portable s) (layout : Layout) (f : Field) :
    Legible f (f.written layout (s.get f)) (s.get f) := by
  have number : ∀ n, Decimal.Numeral (String.ofList (layout.numeral n)).toList n ∧
      Bare (layout.numeral n) ∧ layout.numeral n ≠ [] := by
    intro n
    have hn := numeral_numeral layout n
    rw [String.toList_ofList]
    exact ⟨hn, Text.bare_of_any_isBlank (any_isBlank_of_numeral hn), hn.ne_nil⟩
  have word : ∀ flag, Bare (boolText flag).toList ∧ (boolText flag).toList ≠ [] := by
    intro flag
    cases flag with
    | false => exact ⟨Text.bare_of_any_isBlank (by decide), by decide⟩
    | true => exact ⟨Text.bare_of_any_isBlank (by decide), by decide⟩
  cases f with
  | failOnHttpError => exact ⟨String.ofList_toList, (word _).1, (word _).2⟩
  | maxRetries => exact ⟨(number _).1, (number _).2.1, (number _).2.2⟩
  | timeoutMs => exact ⟨(number _).1, (number _).2.1, (number _).2.2⟩
  | retryBackoffMs => exact ⟨(number _).1, (number _).2.1, (number _).2.2⟩
  | maxBackoffMs => exact ⟨(number _).1, (number _).2.1, (number _).2.2⟩
  | maxParallel => exact ⟨(number _).1, (number _).2.1, (number _).2.2⟩
  | postContentType =>
      refine ⟨String.ofList_toList, h.bare, fun hnil => h.any ?_⟩
      exact String.toList_inj.mp hnil

/-- A variable into which a legible text is written gives this text. -/
theorem gives_toEnvironment {value : f.Value} (layout : Field → Layout) (others : Environment)
    (h : Legible f (f.written (layout f) (s.get f)) value) :
    Gives (s.toEnvironment layout others) f (String.ofList (f.written (layout f) (s.get f))) := by
  have hvariable : s.toEnvironment layout others f.variable =
      some (Utf8.encode ((layout f).front ++ f.written (layout f) (s.get f) ++ (layout f).back)) := by
    rw [toEnvironment, find?_variable]
  refine ⟨⟨(layout f).front, (layout f).back, (layout f).front_blank, (layout f).back_blank, ?_⟩,
    ?_, ?_⟩
  · rw [String.toList_ofList, hvariable]
  · rw [String.toList_ofList]
    exact h.bare
  · rw [String.toList_ofList]
    exact h.any

theorem max_one_eq_of_one_le {n : UInt64} (h : 1 ≤ n) : max n 1 = n := by
  rw [← UInt64.toNat_inj, UInt64.toNat_max]
  exact Nat.max_eq_left (UInt64.le_iff_toNat_le.mp h)

theorem stored_get (h : Portable s) (f : Field) : f.stored (s.get f) = s.get f := by
  cases f with
  | maxParallel => exact max_one_eq_of_one_le h.one_le_maxParallel
  | failOnHttpError => rfl
  | maxRetries => rfl
  | timeoutMs => rfl
  | retryBackoffMs => rfl
  | maxBackoffMs => rfl
  | postContentType => rfl

/-- **What has been written is read again**, however it is laid out. -/
theorem ofEnvironment_toEnvironment (h : Portable s) (layout : Field → Layout)
    (others : Environment) : ofEnvironment (s.toEnvironment layout others) = .ok s := by
  rw [ofEnvironment_eq_ok_iff]
  intro f
  rw [readField_eq_ok_iff]
  have hlegible := legible_written h (layout f) f
  have hgives := gives_toEnvironment layout others hlegible
  refine ⟨fun text htext => ?_, fun hsilent => absurd hsilent hgives.not_silent⟩
  rw [htext.unique hgives]
  exact ⟨s.get f, hlegible.denotes, (stored_get h f).symm⟩

/-! ## 3. What can be read at all -/

theorem portable_default : Portable {} where
  one_le_maxParallel := by decide
  bare := Text.bare_of_any_isBlank (by decide)
  any := by decide

/-- **The settings that are read from an environment can stand in one.** -/
theorem portable_of_ofEnvironment {env : Environment} (h : ofEnvironment env = .ok s) :
    Portable s := by
  have hdecides : ∀ f, Decides env f (s.get f) := fun f =>
    readField_eq_ok_iff.mp (ofEnvironment_eq_ok_iff.mp h f)
  have hparallel : 1 ≤ s.maxParallel := by
    rcases silent_or_gives env .maxParallel with hsilent | ⟨text, hgives⟩
    · have hdefault : s.maxParallel = 5 := (hdecides .maxParallel).silent hsilent
      rw [hdefault]
      decide
    · obtain ⟨n, hmax⟩ : ∃ n : UInt64, s.maxParallel = max n 1 := by
        obtain ⟨n, -, hstored⟩ := (hdecides .maxParallel).given text hgives
        exact ⟨n, hstored⟩
      rw [hmax, UInt64.le_iff_toNat_le, UInt64.toNat_max]
      exact Nat.le_max_right _ _
  have hcontentType : Bare s.postContentType.toList ∧ s.postContentType ≠ "" := by
    rcases silent_or_gives env .postContentType with hsilent | ⟨text, hgives⟩
    · have hdefault : s.postContentType = defaultContentType :=
        (hdecides .postContentType).silent hsilent
      rw [hdefault]
      exact ⟨portable_default.bare, portable_default.any⟩
    · obtain ⟨contentType, hdenotes, hstored⟩ := (hdecides .postContentType).given text hgives
      have htext : s.postContentType = text := Eq.trans hstored (Eq.symm hdenotes)
      rw [htext]
      refine ⟨hgives.bare, ?_⟩
      rintro rfl
      exact hgives.any rfl
  exact ⟨hparallel, hcontentType.1, hcontentType.2⟩

/-- **The round trip through the environment.** Portable settings are read back as they are, however
    they are laid out and whatever else stands in the environment, and no other settings are; nor are
    other settings read from any environment. So what has been read may be written and read again. -/
theorem environment_round_trip (s : Settings) :
    (∀ layout others, ofEnvironment (s.toEnvironment layout others) = .ok s ↔ Portable s) ∧
    ((∃ env, ofEnvironment env = .ok s) ↔ Portable s) ∧
    (∀ env, ofEnvironment env = .ok s → ∀ layout others,
      ofEnvironment (s.toEnvironment layout others) = .ok s) := by
  refine ⟨fun layout others => ?_, ?_, fun env henv layout others => ?_⟩
  · exact ⟨portable_of_ofEnvironment, fun h => ofEnvironment_toEnvironment h layout others⟩
  · constructor
    · rintro ⟨env, henv⟩
      exact portable_of_ofEnvironment henv
    · intro h
      exact ⟨_, ofEnvironment_toEnvironment h (fun _ => .plain) fun _ => none⟩
  · exact ofEnvironment_toEnvironment (portable_of_ofEnvironment henv) layout others

end Courier.Settings
