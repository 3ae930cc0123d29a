import Courier.Proofs.Changes
import Courier.Proofs.Text.Numerals
import Courier.Proofs.Text.Trimming
import Courier.Proofs.Text.Utf8
import Courier.Settings.Environment

/-!
# What a variable makes of its field

Each field of the settings has a variable, and the variable decides on its field alone. It is silent
where it is not set, is no text, or is blank (`Settings.Silent`); otherwise it gives the text that is
left between the blanks (`Settings.Gives`). Such a text denotes a value of its field
(`Settings.Field.Denotes`), or it is not of the type of the field (`Settings.Field.OfType`) and there
is a complaint to be made of it (`Settings.Field.Complaint`).

The reader of one field (`Settings.readField`) goes by these: it has the value that is decided
(`Settings.readField_eq_ok_iff`) or makes the complaint (`Settings.readField_eq_error_iff`).
-/

namespace Courier.Settings

open Text (AllBlank Bare trimmed)

/-! ## 1. What a variable gives -/

/-- The variable of a field gives a text: between blanks there is this text, it is not empty, and it
    neither begins nor ends with a blank. -/
structure Gives (env : Environment) (f : Field) (text : String) : Prop where
  held : ∃ front back, AllBlank front ∧ AllBlank back ∧
    env f.variable = some (Utf8.encode (front ++ text.toList ++ back))
  bare : Bare text.toList
  any : text.toList ≠ []

/-- The variable of a field is not set, or what it holds is no text, or a blank one. -/
def Silent (env : Environment) (f : Field) : Prop :=
  ∀ bytes, env f.variable = some bytes →
    (∀ s, bytes ≠ Utf8.encode s) ∨ ∃ s, AllBlank s ∧ bytes = Utf8.encode s

variable {env : Environment} {f : Field} {text : String}

/-- The text in a variable, blanks at its ends included. -/
def held? (env : Environment) (f : Field) : Option String := (env f.variable).bind Utf8.decode?

/-- What is left of a text between the blanks at its ends, if anything is. -/
def left? (value : String) : Option String :=
  if trimmed value.toList = [] then none else some (Text.trim value)

theorem given?_eq (env : Environment) (f : Field) :
    given? env f = (held? env f).bind left? := by
  unfold given? held?
  cases (env f.variable).bind Utf8.decode? <;> rfl

theorem held?_eq_some_iff {value : String} :
    held? env f = some value ↔ env f.variable = some (Utf8.encode value.toList) := by
  unfold held?
  cases henv : env f.variable with
  | none => simp
  | some bytes => simp [Utf8.decode?_eq_some_iff]

theorem left?_eq_none_iff {value : String} : left? value = none ↔ AllBlank value.toList := by
  unfold left?
  rw [← Text.trimmed_eq_nil_iff]
  by_cases h : trimmed value.toList = []
  · simp [h]
  · simp [h]

theorem left?_eq_some_iff {value : String} :
    left? value = some text ↔ trimmed value.toList = text.toList ∧ text.toList ≠ [] := by
  have htrim : (Text.trim value).toList = trimmed value.toList := String.toList_ofList
  unfold left?
  rw [← htrim, String.toList_inj]
  by_cases h : (Text.trim value).toList = []
  · rw [if_pos h]
    constructor
    · rintro ⟨⟩
    · rintro ⟨rfl, hany⟩
      exact absurd h hany
  · rw [if_neg h, Option.some.injEq]
    constructor
    · rintro rfl
      exact ⟨rfl, h⟩
    · exact And.left

/-- **A text is left of a variable just where the variable gives it.** -/
theorem given?_eq_some_iff : given? env f = some text ↔ Gives env f text := by
  rw [given?_eq, Option.bind_eq_some_iff]
  constructor
  · rintro ⟨value, hvalue, hleft⟩
    obtain ⟨htrimmed, hany⟩ := left?_eq_some_iff.mp hleft
    obtain ⟨hbare, front, back, hfront, hback, hpad⟩ := Text.trimmed_eq_iff.mp htrimmed
    rw [held?_eq_some_iff, hpad] at hvalue
    exact ⟨⟨front, back, hfront, hback, hvalue⟩, hbare, hany⟩
  · rintro ⟨⟨front, back, hfront, hback, hheld⟩, hbare, hany⟩
    refine ⟨String.ofList (front ++ text.toList ++ back), ?_, left?_eq_some_iff.mpr ⟨?_, hany⟩⟩
    · rw [held?_eq_some_iff, String.toList_ofList, hheld]
    · rw [String.toList_ofList]
      exact Text.trimmed_eq_iff.mpr ⟨hbare, front, back, hfront, hback, rfl⟩

/-- Nothing is left of a variable just where it is silent. -/
theorem given?_eq_none_iff : given? env f = none ↔ Silent env f := by
  rw [given?_eq, Option.bind_eq_none_iff]
  constructor
  · intro h bytes hbytes
    by_cases htext : ∃ s, bytes = Utf8.encode s
    · obtain ⟨s, rfl⟩ := htext
      have hheld : held? env f = some (String.ofList s) := by
        rw [held?_eq_some_iff, String.toList_ofList, hbytes]
      have hblank := left?_eq_none_iff.mp (h _ hheld)
      rw [String.toList_ofList] at hblank
      exact .inr ⟨s, hblank, rfl⟩
    · exact .inl (not_exists.mp htext)
  · intro h value hvalue
    rcases h _ (held?_eq_some_iff.mp hvalue) with hno | ⟨s, hblank, heq⟩
    · exact absurd rfl (hno _)
    · rw [left?_eq_none_iff, Utf8.encode_injective heq]
      exact hblank

/-- A variable gives one text at most. -/
theorem Gives.unique {other : String} (h : Gives env f text) (h' : Gives env f other) :
    text = other :=
  Option.some.inj ((given?_eq_some_iff.mpr h).symm.trans (given?_eq_some_iff.mpr h'))

/-! ## 2. What is of the type of a field -/

/-- A text is a numeral of a number below the bound. -/
def IsNumberBelow (bound : Nat) (text : String) : Prop :=
  ∃ n < bound, Decimal.Numeral text.toList n

/-- A text is of the type of a field: a number below 2^32 or 2^64, a word for a truth value, or any
    text for the content type. -/
def Field.OfType (text : String) : Field → Prop
  | .failOnHttpError => text = "true" ∨ text = "false"
  | .maxRetries => IsNumberBelow UInt32.size text
  | .timeoutMs | .retryBackoffMs | .maxBackoffMs | .maxParallel => IsNumberBelow UInt64.size text
  | .postContentType => True

/-- A text denotes a value of a field. -/
def Field.Denotes (text : String) : (f : Field) → f.Value → Prop
  | .failOnHttpError, flag => text = boolText flag
  | .maxRetries, n => Decimal.Numeral text.toList (UInt32.toNat n)
  | .timeoutMs, n | .retryBackoffMs, n | .maxBackoffMs, n | .maxParallel, n =>
    Decimal.Numeral text.toList (UInt64.toNat n)
  | .postContentType, contentType => text = contentType

/-- The value that is stored for one that is given: at least one request runs at a time. -/
def Field.stored : (f : Field) → f.Value → f.Value
  | .maxParallel, n => (max n 1 : UInt64)
  | .failOnHttpError, flag => flag
  | .maxRetries, n => n
  | .timeoutMs, n | .retryBackoffMs, n | .maxBackoffMs, n => n
  | .postContentType, contentType => contentType

/-- What is said of a text that is no numeral of a number below the bound: that it is too large
    where the digits in front are, and else that there is a character that does not belong there. -/
def NumberComplaint (bound : Nat) (text reason : String) : Prop :=
  (Decimal.Exceeds (bound - 1) text.toList ∧
      reason = "number too large to fit in target type") ∨
    (¬ Decimal.Exceeds (bound - 1) text.toList ∧ reason = "invalid digit found in string")

/-- What is said of a text that is not of the type of its field. -/
def Field.Complaint (text reason : String) : Field → Prop
  | .failOnHttpError => reason = "provided string was not `true` or `false`"
  | .maxRetries => NumberComplaint UInt32.size text reason
  | .timeoutMs | .retryBackoffMs | .maxBackoffMs | .maxParallel =>
    NumberComplaint UInt64.size text reason
  | .postContentType => False

/-- The number that a text denotes, as a word. -/
def parseNumber {α : Type} (bound : Nat) (ofNat : Nat → α) (text : String) : Except String α :=
  match Decimal.read (bound - 1) text.toList with
  | .ok n => .ok (ofNat n)
  | .error refusal => .error refusal.message

/-- The value that a text denotes in a field. -/
def Field.parse (text : String) : (f : Field) → Except String f.Value
  | .failOnHttpError =>
    if text = "true" then .ok true
    else if text = "false" then .ok false
    else .error "provided string was not `true` or `false`"
  | .maxRetries => parseNumber UInt32.size UInt32.ofNat text
  | .timeoutMs | .retryBackoffMs | .maxBackoffMs | .maxParallel =>
    parseNumber UInt64.size UInt64.ofNat text
  | .postContentType => .ok text

theorem parseNumber_eq_ok_iff {α : Type} {bound : Nat} {ofNat : Nat → α} {toNat : α → Nat}
    (pos : 0 < bound) (left : ∀ n < bound, toNat (ofNat n) = n) (right : ∀ a, ofNat (toNat a) = a)
    (below : ∀ a, toNat a < bound) {a : α} :
    parseNumber bound ofNat text = .ok a ↔ Decimal.Numeral text.toList (toNat a) := by
  have hread : ∀ n, Decimal.read (bound - 1) text.toList = .ok n ↔
      Decimal.Numeral text.toList n ∧ n < bound := by
    intro n
    rw [Decimal.read_eq_ok_iff]
    exact and_congr_right fun _ => by omega
  unfold parseNumber
  constructor
  · intro h
    split at h
    · rename_i n hn
      obtain ⟨hnumeral, hlt⟩ := (hread n).mp hn
      cases h
      rwa [left n hlt]
    · cases h
  · intro h
    rw [(hread _).mpr ⟨h, below a⟩]
    show Except.ok (ofNat (toNat a)) = _
    rw [right]

theorem parseNumber_eq_error_iff {α : Type} {bound : Nat} {ofNat : Nat → α} (pos : 0 < bound)
    (any : text.toList ≠ []) {reason : String} :
    parseNumber bound ofNat text = .error reason ↔
      ¬ IsNumberBelow bound text ∧ NumberComplaint bound text reason := by
  have hnone : (∀ n, Decimal.Numeral text.toList n → bound - 1 < n) ↔
      ¬ IsNumberBelow bound text := by
    unfold IsNumberBelow
    constructor
    · rintro h ⟨n, hlt, hn⟩
      have := h n hn
      omega
    · intro h n hn
      refine Nat.lt_of_not_le fun hle => h ⟨n, by omega, hn⟩
  unfold parseNumber NumberComplaint
  rw [← hnone]
  constructor
  · intro h
    split at h
    · cases h
    · rename_i refusal hread
      obtain ⟨habove, hrefusal⟩ := (Decimal.read_eq_error_iff any).mp hread
      obtain rfl := Except.error.inj h
      refine ⟨habove, ?_⟩
      rcases hrefusal with ⟨rfl, hex⟩ | ⟨rfl, hex⟩
      · exact .inl ⟨hex, rfl⟩
      · exact .inr ⟨hex, rfl⟩
  · rintro ⟨habove, ⟨hex, rfl⟩ | ⟨hex, rfl⟩⟩
    · rw [(Decimal.read_eq_error_iff any).mpr ⟨habove, .inl ⟨rfl, hex⟩⟩]
      rfl
    · rw [(Decimal.read_eq_error_iff any).mpr ⟨habove, .inr ⟨rfl, hex⟩⟩]
      rfl

/-- **A value is read from a text just where the text denotes it.** -/
theorem Field.parse_eq_ok_iff {value : f.Value} :
    f.parse text = .ok value ↔ f.Denotes text value := by
  have word32 : ∀ n : UInt32, parseNumber UInt32.size UInt32.ofNat text = .ok n ↔
      Decimal.Numeral text.toList n.toNat := fun _ =>
    parseNumber_eq_ok_iff (by decide) (fun _ => UInt32.toNat_ofNat_of_lt')
      (fun _ => UInt32.ofNat_toNat) UInt32.toNat_lt_size
  have word64 : ∀ n : UInt64, parseNumber UInt64.size UInt64.ofNat text = .ok n ↔
      Decimal.Numeral text.toList n.toNat := fun _ =>
    parseNumber_eq_ok_iff (by decide) (fun _ => UInt64.toNat_ofNat_of_lt')
      (fun _ => UInt64.ofNat_toNat) UInt64.toNat_lt_size
  cases f with
  | failOnHttpError =>
      revert value
      show ∀ flag : Bool, (if text = "true" then Except.ok true
        else if text = "false" then Except.ok false
        else Except.error "provided string was not `true` or `false`") = Except.ok flag ↔
          text = boolText flag
      intro flag
      by_cases htrue : text = "true"
      · subst htrue
        cases flag <;> simp [boolText]
      · by_cases hfalse : text = "false"
        · subst hfalse
          cases flag <;> simp [boolText]
        · cases flag <;> simp [boolText, htrue, hfalse]
  | maxRetries => exact word32 value
  | timeoutMs => exact word64 value
  | retryBackoffMs => exact word64 value
  | maxBackoffMs => exact word64 value
  | maxParallel => exact word64 value
  | postContentType => exact ⟨Except.ok.inj, congrArg Except.ok⟩

/-- **A text is refused just where it is not of the type of its field**, with what is said of it. -/
theorem Field.parse_eq_error_iff (any : text.toList ≠ []) {reason : String} :
    f.parse text = .error reason ↔ ¬ f.OfType text ∧ f.Complaint text reason := by
  have word32 : parseNumber UInt32.size UInt32.ofNat text = .error reason ↔ _ :=
    parseNumber_eq_error_iff (by decide) any
  have word64 : parseNumber UInt64.size UInt64.ofNat text = .error reason ↔ _ :=
    parseNumber_eq_error_iff (by decide) any
  cases f with
  | failOnHttpError =>
      show (if text = "true" then Except.ok true else if text = "false" then Except.ok false
        else Except.error "provided string was not `true` or `false`") = Except.error reason ↔
          ¬ (text = "true" ∨ text = "false") ∧
            reason = "provided string was not `true` or `false`"
      by_cases htrue : text = "true"
      · simp [htrue]
      · by_cases hfalse : text = "false"
        · simp [hfalse]
        · simp [htrue, hfalse, eq_comm]
  | maxRetries => exact word32
  | timeoutMs => exact word64
  | retryBackoffMs => exact word64
  | maxBackoffMs => exact word64
  | maxParallel => exact word64
  | postContentType =>
      show Except.ok text = Except.error reason ↔ ¬ True ∧ False
      simp

/-! ## 3. One field -/

/-- The value that a field has by its variable. -/
structure Decides (env : Environment) (f : Field) (value : f.Value) : Prop where
  /-- A text in the variable denotes what is stored. -/
  given : ∀ text, Gives env f text → ∃ v, f.Denotes text v ∧ value = f.stored v
  /-- A silent variable leaves the default. -/
  silent : Silent env f → value = ({} : Settings).get f

/-- The variable of a field gives a text that is not of the type of the field. -/
structure IllTyped (env : Environment) (f : Field) (text : String) : Prop where
  given : Gives env f text
  not_ofType : ¬ f.OfType text

/-- The value of a field by its variable, or what is reported of the variable. -/
def readField (env : Environment) (f : Field) : Except Failure f.Value :=
  match given? env f with
  | none => .ok (({} : Settings).get f)
  | some text =>
    match f.parse text with
    | .ok value => .ok (f.stored value)
    | .error reason => .error (invalid f text reason)

theorem readField_of_silent (h : Silent env f) :
    readField env f = .ok (({} : Settings).get f) := by
  rw [readField, given?_eq_none_iff.mpr h]

theorem readField_of_gives (h : Gives env f text) :
    readField env f =
      match f.parse text with
      | .ok value => .ok (f.stored value)
      | .error reason => .error (invalid f text reason) := by
  rw [readField, given?_eq_some_iff.mpr h]

theorem silent_or_gives (env : Environment) (f : Field) :
    Silent env f ∨ ∃ text, Gives env f text := by
  cases hgiven : given? env f with
  | none => exact .inl (given?_eq_none_iff.mp hgiven)
  | some text => exact .inr ⟨text, given?_eq_some_iff.mp hgiven⟩

theorem Gives.not_silent (h : Gives env f text) : ¬ Silent env f := by
  rw [← given?_eq_none_iff, given?_eq_some_iff.mpr h]
  simp

/-- **A field is read as a value just where its variable decides on this value.** -/
theorem readField_eq_ok_iff {value : f.Value} :
    readField env f = .ok value ↔ Decides env f value := by
  rcases silent_or_gives env f with hsilent | ⟨text, hgives⟩
  · rw [readField_of_silent hsilent]
    constructor
    · intro h
      obtain rfl := Except.ok.inj h
      exact ⟨fun text hgives => absurd hsilent hgives.not_silent, fun _ => rfl⟩
    · intro h
      rw [h.silent hsilent]
  · rw [readField_of_gives hgives]
    constructor
    · intro h
      split at h
      · rename_i v hv
        obtain rfl := Except.ok.inj h
        refine ⟨fun other hother => ?_, fun hsilent => absurd hsilent hgives.not_silent⟩
        rw [hother.unique hgives]
        exact ⟨v, Field.parse_eq_ok_iff.mp hv, rfl⟩
      · cases h
    · intro h
      obtain ⟨v, hv, rfl⟩ := h.given text hgives
      rw [Field.parse_eq_ok_iff.mpr hv]

/-- **A field is not read just where its variable gives a text that is not of its type**, and then
    the complaint of this text is reported. -/
theorem readField_eq_error_iff {failure : Failure} :
    readField env f = .error failure ↔ ∃ text reason, IllTyped env f text ∧
      f.Complaint text reason ∧ failure = invalid f text reason := by
  rcases silent_or_gives env f with hsilent | ⟨text, hgives⟩
  · rw [readField_of_silent hsilent]
    simp only [reduceCtorEq, false_iff]
    rintro ⟨text, reason, hill, -⟩
    exact hill.given.not_silent hsilent
  · rw [readField_of_gives hgives]
    constructor
    · intro h
      split at h
      · cases h
      · rename_i reason hreason
        obtain ⟨hnot, hcomplaint⟩ := (Field.parse_eq_error_iff hgives.any).mp hreason
        exact ⟨text, reason, ⟨hgives, hnot⟩, hcomplaint, (Except.error.inj h).symm⟩
    · rintro ⟨other, reason, hill, hcomplaint, rfl⟩
      obtain rfl := hill.given.unique hgives
      rw [(Field.parse_eq_error_iff hgives.any).mpr ⟨hill.not_ofType, hcomplaint⟩]

end Courier.Settings
