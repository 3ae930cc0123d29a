import Courier.Proofs.Settings.Variables
import Courier.Proofs.Text.Wording

/-!
# What the environment makes of settings

The settings are read field by field, each by its own variable (`Settings.ofEnvironment_eq`). So they
are told field by field as well, and where there are none the first variable with a text that is not
of its type is reported (`Settings.FirstIllTyped`). Which variable it is and what text it has can be
read off the report (`Settings.invalid_inj`).

`Settings.read_environment` has both, and what follows for two environments: blanks at the ends of
variables are of no matter, and nothing is seen of a variable that has no part.
-/

namespace Courier.Settings

open Text (AllBlank)

variable {env env' : Environment} {f : Field} {text : String}

/-! ## 1. All fields -/

/-- The fields whose variables have a type, in the order in which they are read. -/
def Field.typed : List Field :=
  [.timeoutMs, .maxRetries, .retryBackoffMs, .maxBackoffMs, .failOnHttpError, .maxParallel]

/-- What is reported of the variable of a field, if anything is. -/
def refusal? (env : Environment) (f : Field) : Option Failure :=
  match readField env f with
  | .ok _ => none
  | .error failure => some failure

theorem refusal?_eq_some_iff {failure : Failure} :
    refusal? env f = some failure ↔ readField env f = .error failure := by
  unfold refusal?
  cases readField env f with
  | ok value => simp
  | error e => simp

/-- A field of numbers is read from the number in its variable. -/
theorem readField_eq_givenNumber {limit : Nat} {ofNat : Nat → f.Value}
    {store : Option Nat → f.Value} (parse : ∀ text, f.parse text = parseNumber (limit + 1) ofNat text)
    (silent : store none = ({} : Settings).get f)
    (given : ∀ n ≤ limit, store (some n) = f.stored (ofNat n)) :
    readField env f = (givenNumber env f limit).map store := by
  unfold readField givenNumber
  cases given? env f with
  | none => exact congrArg Except.ok silent.symm
  | some text =>
      dsimp only
      rw [parse, parseNumber, Nat.add_sub_cancel]
      cases hread : Decimal.read limit text.toList with
      | ok n => exact congrArg Except.ok (given n (Decimal.read_eq_ok_iff.mp hread).2).symm
      | error refusal => rfl

theorem readField_eq_givenBool :
    readField env .failOnHttpError =
      (givenBool env .failOnHttpError).map (Option.getD · true) := by
  unfold readField givenBool Field.parse
  cases given? env .failOnHttpError with
  | none => rfl
  | some text =>
      by_cases htrue : text = "true"
      · simp only [htrue, if_true]
        rfl
      · by_cases hfalse : text = "false"
        · simp only [hfalse]
          rfl
        · simp only [htrue, hfalse, if_false]
          rfl

theorem readField_eq_given? :
    readField env .postContentType =
      .ok ((given? env .postContentType).getD defaultContentType) := by
  unfold readField
  cases given? env .postContentType with
  | none => rfl
  | some text => rfl

theorem ofNat_max_one {n : Nat} (h : n < UInt64.size) :
    UInt64.ofNat (max 1 n) = max (UInt64.ofNat n) 1 := by
  rw [← UInt64.toNat_inj, UInt64.toNat_max, UInt64.toNat_ofNat_of_lt' h,
    UInt64.toNat_ofNat_of_lt' (Nat.max_lt.mpr ⟨by decide, h⟩), Nat.max_comm]
  rfl

/-- To go on from a field that is read by its variable is to go on from what is in the variable. -/
theorem readField_bind {α β : Type} {x : Except Failure β} {store : β → f.Value}
    (h : readField env f = x.map store) (k : f.Value → Except Failure α) :
    readField env f >>= k = x >>= fun b => k (store b) := by
  rw [h]
  cases x <;> rfl

/-- **The settings are read field by field**, in the order of the fields that have a type. -/
theorem ofEnvironment_eq (env : Environment) :
    ofEnvironment env = do
      let timeoutMs ← readField env .timeoutMs
      let maxRetries ← readField env .maxRetries
      let retryBackoffMs ← readField env .retryBackoffMs
      let maxBackoffMs ← readField env .maxBackoffMs
      let failOnHttpError ← readField env .failOnHttpError
      let maxParallel ← readField env .maxParallel
      let postContentType ← readField env .postContentType
      return { failOnHttpError, maxRetries, timeoutMs, retryBackoffMs, maxBackoffMs,
               postContentType, maxParallel } := by
  have htimeout : readField env .timeoutMs =
      (givenNumber env .timeoutMs (UInt64.size - 1)).map (word64 3000) :=
    readField_eq_givenNumber (fun _ => rfl) rfl fun _ _ => rfl
  have hretries : readField env .maxRetries =
      (givenNumber env .maxRetries (UInt32.size - 1)).map fun n => (n.map UInt32.ofNat).getD 3 :=
    readField_eq_givenNumber (fun _ => rfl) rfl fun _ _ => rfl
  have hwait : readField env .retryBackoffMs =
      (givenNumber env .retryBackoffMs (UInt64.size - 1)).map (word64 2000) :=
    readField_eq_givenNumber (fun _ => rfl) rfl fun _ _ => rfl
  have hmaxWait : readField env .maxBackoffMs =
      (givenNumber env .maxBackoffMs (UInt64.size - 1)).map (word64 60000) :=
    readField_eq_givenNumber (fun _ => rfl) rfl fun _ _ => rfl
  have hparallel : readField env .maxParallel =
      (givenNumber env .maxParallel (UInt64.size - 1)).map fun n => word64 5 (n.map (max 1)) :=
    readField_eq_givenNumber (fun _ => rfl) rfl fun n hn =>
      ofNat_max_one (Nat.lt_of_le_of_lt hn (by decide))
  -- one variable after the other: what is done behind it is the same
  symm
  refine (readField_bind htimeout _).trans (bind_congr fun timeout => ?_)
  refine (readField_bind hretries _).trans (bind_congr fun retries => ?_)
  refine (readField_bind hwait _).trans (bind_congr fun wait => ?_)
  refine (readField_bind hmaxWait _).trans (bind_congr fun maxWait => ?_)
  refine (readField_bind readField_eq_givenBool _).trans (bind_congr fun flag => ?_)
  refine (readField_bind hparallel _).trans (bind_congr fun parallel => ?_)
  rw [readField_eq_given?]
  rfl

/-- What can be read of a bind is read of its parts. -/
theorem exists_of_bind_eq_ok {ε α β : Type} {x : Except ε α} {k : α → Except ε β} {b : β}
    (h : x >>= k = .ok b) : ∃ a, x = .ok a ∧ k a = .ok b := by
  cases x with
  | error e => cases h
  | ok a => exact ⟨a, rfl, h⟩

/-- Settings are read just where every field is, and then they have the values that are read. -/
theorem ofEnvironment_eq_ok_iff {s : Settings} :
    ofEnvironment env = .ok s ↔ ∀ f, readField env f = .ok (s.get f) := by
  rw [ofEnvironment_eq]
  constructor
  · intro h
    obtain ⟨timeoutMs, htimeout, h⟩ := exists_of_bind_eq_ok h
    obtain ⟨maxRetries, hretries, h⟩ := exists_of_bind_eq_ok h
    obtain ⟨retryBackoffMs, hwait, h⟩ := exists_of_bind_eq_ok h
    obtain ⟨maxBackoffMs, hmaxWait, h⟩ := exists_of_bind_eq_ok h
    obtain ⟨failOnHttpError, hflag, h⟩ := exists_of_bind_eq_ok h
    obtain ⟨maxParallel, hparallel, h⟩ := exists_of_bind_eq_ok h
    obtain ⟨postContentType, hcontentType, h⟩ := exists_of_bind_eq_ok h
    obtain rfl := Except.ok.inj h
    intro f
    cases f with
    | timeoutMs => exact htimeout
    | maxRetries => exact hretries
    | retryBackoffMs => exact hwait
    | maxBackoffMs => exact hmaxWait
    | failOnHttpError => exact hflag
    | maxParallel => exact hparallel
    | postContentType => exact hcontentType
  · intro h
    rw [h .timeoutMs, h .maxRetries, h .retryBackoffMs, h .maxBackoffMs, h .failOnHttpError,
      h .maxParallel, h .postContentType]
    rfl

/-- Reading on after a field fails with what is reported of this field, or of those behind it. -/
theorem bind_readField_eq_error_iff {α : Type} {k : f.Value → Except Failure α}
    {fs : List Field} {failure : Failure}
    (h : ∀ value, k value = .error failure ↔ fs.findSome? (refusal? env) = some failure) :
    readField env f >>= k = .error failure ↔
      (f :: fs).findSome? (refusal? env) = some failure := by
  rw [List.findSome?_cons, refusal?]
  cases readField env f with
  | ok value => exact h value
  | error e =>
      show Except.error e = Except.error failure ↔ some e = some failure
      rw [Except.error.injEq, Option.some.injEq]

/-- No settings are read just where something is reported of a field that has a type, and then it is
    the first such report. -/
theorem ofEnvironment_eq_error_iff {failure : Failure} :
    ofEnvironment env = .error failure ↔
      Field.typed.findSome? (refusal? env) = some failure := by
  rw [ofEnvironment_eq]
  -- the content type is read last, and never with a report
  refine bind_readField_eq_error_iff fun _ => bind_readField_eq_error_iff fun _ =>
    bind_readField_eq_error_iff fun _ => bind_readField_eq_error_iff fun _ =>
    bind_readField_eq_error_iff fun _ => bind_readField_eq_error_iff fun _ => ?_
  rw [readField_eq_given?]
  simp only [List.findSome?_nil, reduceCtorEq, iff_false]
  rintro ⟨⟩

/-- The first field, in the order in which they are read, whose variable gives a text that is not of
    its type, and this text. -/
structure FirstIllTyped (env : Environment) (f : Field) (text : String) : Prop where
  first : ∃ before after, Field.typed = before ++ f :: after ∧
    ∀ g ∈ before, ∀ other, ¬ IllTyped env g other
  illTyped : IllTyped env f text

theorem exists_complaint (h : ¬ f.OfType text) :
    ∃ reason, f.Complaint text reason := by
  have number : ∀ bound, ∃ reason, NumberComplaint bound text reason := by
    intro bound
    by_cases habove : Decimal.Exceeds (bound - 1) text.toList
    · exact ⟨_, .inl ⟨habove, rfl⟩⟩
    · exact ⟨_, .inr ⟨habove, rfl⟩⟩
  cases f with
  | failOnHttpError => exact ⟨_, rfl⟩
  | maxRetries => exact number _
  | timeoutMs => exact number _
  | retryBackoffMs => exact number _
  | maxBackoffMs => exact number _
  | maxParallel => exact number _
  | postContentType => exact absurd trivial h

/-- Nothing is reported of a variable just where it gives no text that is not of its type. -/
theorem refusal?_eq_none_iff_not_illTyped :
    refusal? env f = none ↔ ∀ text, ¬ IllTyped env f text := by
  constructor
  · intro h text hill
    obtain ⟨reason, hreason⟩ := exists_complaint hill.not_ofType
    have herror := readField_eq_error_iff.mpr ⟨text, reason, hill, hreason, rfl⟩
    rw [refusal?_eq_some_iff.mpr herror] at h
    cases h
  · intro h
    rw [Option.eq_none_iff_forall_ne_some]
    intro failure hfailure
    obtain ⟨text, reason, hill, -⟩ :=
      readField_eq_error_iff.mp (refusal?_eq_some_iff.mp hfailure)
    exact h text hill

/-- **What is reported of an environment is said of the first text that is not of its type.** -/
theorem ofEnvironment_eq_error_iff_firstIllTyped {failure : Failure} :
    ofEnvironment env = .error failure ↔ ∃ f text reason, FirstIllTyped env f text ∧
      f.Complaint text reason ∧ failure = invalid f text reason := by
  rw [ofEnvironment_eq_error_iff, List.findSome?_eq_some_iff]
  constructor
  · rintro ⟨before, f, after, htyped, hreport, hbefore⟩
    obtain ⟨text, reason, hill, hcomplaint, hfailure⟩ :=
      readField_eq_error_iff.mp (refusal?_eq_some_iff.mp hreport)
    have hfirst : ∀ g ∈ before, ∀ other, ¬ IllTyped env g other := fun g hg =>
      refusal?_eq_none_iff_not_illTyped.mp (hbefore g hg)
    exact ⟨f, text, reason, ⟨⟨before, after, htyped, hfirst⟩, hill⟩, hcomplaint, hfailure⟩
  · rintro ⟨f, text, reason, ⟨⟨before, after, htyped, hfirst⟩, hill⟩, hcomplaint, hfailure⟩
    refine ⟨before, f, after, htyped, ?_, fun g hg => ?_⟩
    · exact refusal?_eq_some_iff.mpr
        (readField_eq_error_iff.mpr ⟨text, reason, hill, hcomplaint, hfailure⟩)
    · exact refusal?_eq_none_iff_not_illTyped.mpr (hfirst g hg)

/-- The first text that is not of its type is reported, with a complaint of it. -/
theorem FirstIllTyped.exists_report (h : FirstIllTyped env f text) :
    ∃ reason, f.Complaint text reason ∧ ofEnvironment env = .error (invalid f text reason) := by
  obtain ⟨reason, hreason⟩ := exists_complaint h.illTyped.not_ofType
  exact ⟨reason, hreason,
    ofEnvironment_eq_error_iff_firstIllTyped.mpr ⟨f, text, reason, h, hreason, rfl⟩⟩

/-! ## 2. What a report tells -/

theorem variable_injective : Function.Injective Field.variable := by
  intro f g h
  cases f <;> cases g <;> first | rfl | exact absurd h (by decide)

/-- The name of a variable ends where the sign stands. -/
theorem variable_append_inj {f g : Field} {u v : String}
    (h : f.variable ++ ("=" ++ u) = g.variable ++ ("=" ++ v)) : f = g ∧ u = v := by
  have noSign : ∀ k : Field, '=' ∉ k.variable.toList := by
    intro k
    cases k <;> decide
  have sign : "=".toList = ['='] := rfl
  have hlist := congrArg String.toList h
  simp only [String.toList_append, sign, List.singleton_append] at hlist
  obtain ⟨hname, hbehind⟩ := Text.append_cons_inj (noSign f) (noSign g) hlist
  exact ⟨variable_injective (String.toList_inj.mp hname), String.toList_inj.mp hbehind⟩

/-- **The field, the text and the complaint can be read off what is reported.** -/
theorem invalid_inj {f g : Field} {text other reason why : String}
    (h : invalid f text reason = invalid g other why) : f = g ∧ text = other ∧ reason = why := by
  have hreport := Failure.config.inj h
  simp only [String.append_assoc] at hreport
  obtain ⟨hfield, hbehind⟩ := variable_append_inj hreport
  obtain ⟨htext, hreason⟩ := Text.quoted_append_inj hbehind
  exact ⟨hfield, htext, (String.append_right_inj _).mp hreason⟩

/-- Where the same is reported of two environments, it is said of the same text of the same
    variable. -/
theorem FirstIllTyped.eq_of_report {failure : Failure} {f' : Field} {text' : String}
    (hreport : ofEnvironment env = .error failure) (hreport' : ofEnvironment env' = .error failure)
    (h : FirstIllTyped env f text) (h' : FirstIllTyped env' f' text') : f = f' ∧ text = text' := by
  obtain ⟨reason, -, herror⟩ := h.exists_report
  obtain ⟨reason', -, herror'⟩ := h'.exists_report
  have hfailure := Except.error.inj (herror.symm.trans hreport)
  have hfailure' := Except.error.inj (herror'.symm.trans hreport')
  obtain ⟨hfield, htext, -⟩ := invalid_inj (hfailure.trans hfailure'.symm)
  exact ⟨hfield, htext⟩

/-! ## 3. Pairs of environments -/

/-- Two variables hold the same but for blanks at the ends, or both are not set. -/
def SameBetweenBlanks (held held' : Option Bytes) : Prop :=
  (held = none ∧ held' = none) ∨
    ∃ bytes front back front' back', AllBlank front ∧ AllBlank back ∧ AllBlank front' ∧
      AllBlank back' ∧ held = some (Utf8.encode front ++ bytes ++ Utf8.encode back) ∧
      held' = some (Utf8.encode front' ++ bytes ++ Utf8.encode back')

/-- Blanks that are added at the ends of a text are not left. -/
theorem left?_pad {front back : List Char} (hfront : AllBlank front) (hback : AllBlank back)
    (value : String) :
    left? (String.ofList (front ++ value.toList ++ back)) = left? value := by
  rw [left?, left?, Text.trim, Text.trim, String.toList_ofList, Text.trimmed_pad hfront hback]

/-- What a variable gives is decided by the bytes between blanks. -/
theorem given?_of_pad {bytes : Bytes} {front back : List Char} (hfront : AllBlank front)
    (hback : AllBlank back)
    (h : env f.variable = some (Utf8.encode front ++ bytes ++ Utf8.encode back)) :
    given? env f = (Utf8.decode? bytes).bind left? := by
  rw [given?_eq, held?, h, Option.bind_some, Utf8.decode?_pad]
  cases Utf8.decode? bytes with
  | none => rfl
  | some value => exact left?_pad hfront hback value

theorem given?_congr (h : SameBetweenBlanks (env f.variable) (env' f.variable)) :
    given? env' f = given? env f := by
  rcases h with ⟨hnone, hnone'⟩ |
    ⟨bytes, front, back, front', back', hfront, hback, hfront', hback', hheld, hheld'⟩
  · rw [given?, given?, hnone, hnone']
  · rw [given?_of_pad hfront hback hheld, given?_of_pad hfront' hback' hheld']

/-- With the same variable, a field is read in the same way. -/
theorem readField_congr (h : given? env' f = given? env f) : readField env' f = readField env f := by
  rw [readField, readField, h]

theorem given?_of_eq (h : env' f.variable = env f.variable) : given? env' f = given? env f := by
  rw [given?, given?, h]

/-- Blanks at the ends of variables are of no matter. -/
theorem ofEnvironment_congr
    (h : ∀ f : Field, SameBetweenBlanks (env f.variable) (env' f.variable)) :
    ofEnvironment env' = ofEnvironment env := by
  have hread : ∀ f, readField env' f = readField env f := fun f =>
    readField_congr (given?_congr (h f))
  simp only [ofEnvironment_eq, hread]

/-- What is reported is decided by the variables up to the one that is reported. -/
theorem ofEnvironment_of_first {before after : List Field}
    (htyped : Field.typed = before ++ f :: after)
    (hsame : ∀ g ∈ before ++ [f], env' g.variable = env g.variable)
    (hbefore : ∀ g ∈ before, ∀ other, ¬ IllTyped env g other) (hill : IllTyped env f text) :
    ofEnvironment env' = ofEnvironment env := by
  have hrefusal : ∀ g ∈ before ++ [f], refusal? env' g = refusal? env g := fun g hg => by
    rw [refusal?, refusal?, readField_congr (given?_of_eq (hsame g hg))]
  obtain ⟨reason, hreason, herror⟩ :=
    FirstIllTyped.exists_report ⟨⟨before, after, htyped, hbefore⟩, hill⟩
  have hreport : refusal? env f = some (invalid f text reason) :=
    refusal?_eq_some_iff.mpr (readField_eq_error_iff.mpr ⟨text, reason, hill, hreason, rfl⟩)
  rw [herror, ofEnvironment_eq_error_iff, List.findSome?_eq_some_iff]
  refine ⟨before, f, after, htyped, ?_, fun g hg => ?_⟩
  · rw [hrefusal f (by simp), hreport]
  · rw [hrefusal g (List.mem_append_left _ hg)]
    exact refusal?_eq_none_iff_not_illTyped.mpr (hbefore g hg)

/-- There are no settings just where some variable has a text that is not of its type. -/
theorem exists_error_iff :
    (∃ e, ofEnvironment env = .error e) ↔ ∃ f ∈ Field.typed, ∃ text, IllTyped env f text := by
  constructor
  · rintro ⟨e, he⟩
    obtain ⟨f, text, -, ⟨⟨before, after, htyped, -⟩, hill⟩, -⟩ :=
      ofEnvironment_eq_error_iff_firstIllTyped.mp he
    exact ⟨f, by simp [htyped], text, hill⟩
  · rintro ⟨f, hf, text, hill⟩
    have hsome : (Field.typed.findSome? (refusal? env)).isSome = true := by
      rw [List.findSome?_isSome_iff]
      refine ⟨f, hf, ?_⟩
      rw [Option.isSome_iff_ne_none, Ne, refusal?_eq_none_iff_not_illTyped]
      exact fun h => h text hill
    obtain ⟨e, he⟩ := Option.isSome_iff_exists.mp hsome
    exact ⟨e, ofEnvironment_eq_error_iff.mpr he⟩

/-- **Settings from the environment.** There are settings just where each field is decided by its
    variable. Otherwise a variable has a text that is not of the type of its field, and what is
    reported is said of the first of these, whose name and text can be read off it; the variables
    behind it and the content type have no part in it. Blanks at the ends of variables are of no
    matter, and a field is the same in any two environments with the same variable. -/
theorem read_environment (env : Environment) :
    -- the settings, field by field
    (∀ s, ofEnvironment env = .ok s ↔ ∀ f, Decides env f (s.get f)) ∧
    -- where there are none, and what is reported then
    ((∃ e, ofEnvironment env = .error e) ↔ ∃ f ∈ Field.typed, ∃ text, IllTyped env f text) ∧
    (∀ e, ofEnvironment env = .error e ↔ ∃ f text reason, FirstIllTyped env f text ∧
      f.Complaint text reason ∧
      e = .config (f.variable ++ "=" ++ Text.quoted text ++ " is invalid: " ++ reason)) ∧
    -- the text stands in the report: it can be read off, and plain characters stand as they are
    (∀ text other behind behind', Text.quoted text ++ behind = Text.quoted other ++ behind' →
      text = other ∧ behind = behind') ∧
    (∀ text : String, (∀ c ∈ text.toList, Text.IsPlain c) →
      (Text.quoted text).toList = '"' :: text.toList ++ ['"']) ∧
    (∀ env' e f text f' text', ofEnvironment env = .error e → ofEnvironment env' = .error e →
      FirstIllTyped env f text → FirstIllTyped env' f' text' → f = f' ∧ text = text') ∧
    -- two environments: other blanks, the same up to what is reported, the same in one field
    (∀ env', (∀ f : Field, SameBetweenBlanks (env f.variable) (env' f.variable)) →
      ofEnvironment env' = ofEnvironment env) ∧
    (∀ env' before f after text, Field.typed = before ++ f :: after →
      (∀ g ∈ before ++ [f], env' g.variable = env g.variable) →
      (∀ g ∈ before, ∀ other, ¬ IllTyped env g other) → IllTyped env f text →
      ofEnvironment env' = ofEnvironment env) ∧
    (∀ env' s s', ofEnvironment env = .ok s → ofEnvironment env' = .ok s' →
      ∀ f : Field, env' f.variable = env f.variable → s'.get f = s.get f) := by
  refine ⟨fun s => ?_, exists_error_iff, fun e => ofEnvironment_eq_error_iff_firstIllTyped,
    fun text other behind behind' => Text.quoted_append_inj,
    fun text => Text.toList_quoted_of_isPlain,
    fun env' e f text f' text' => FirstIllTyped.eq_of_report, fun env' => ofEnvironment_congr,
    fun env' before f after text => ofEnvironment_of_first, fun env' s s' hs hs' f hf => ?_⟩
  · rw [ofEnvironment_eq_ok_iff]
    exact forall_congr' fun f => readField_eq_ok_iff
  · have hread := ofEnvironment_eq_ok_iff.mp hs' f
    rw [readField_congr (given?_of_eq hf), ofEnvironment_eq_ok_iff.mp hs f] at hread
    exact (Except.ok.inj hread).symm

end Courier.Settings
