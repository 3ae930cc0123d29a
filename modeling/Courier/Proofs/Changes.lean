import Courier.Agent
import Mathlib.Data.List.Induction

/-!
# What changes make of settings

Settings are changed step by step. A step puts values into some fields, whatever stood there, and
leaves the others alone (`Settings.get_apply`); so after any number of steps a field holds what the
last step that sets it has put there, or what it held at first (`Settings.get_applyAll`). All that
is said of a sequence of steps follows from this law (`Agent.building`):

* two steps that set no field in common may change places, and a step may be repeated;
* a span is stored in whole milliseconds, as far as a word holds them, and a time limit that is not
  zero as one millisecond at least (`Agent.Stores`);
* there is no time limit, or no parallelism asked for, only where the last step that sets it says so
  (`Settings.Decided`).
-/

namespace Courier

namespace Settings

/-! ## 1. Fields and what is put into them -/

/-- The values that a field may have. -/
def Field.Value : Field → Type
  | .failOnHttpError => Bool
  | .maxRetries => UInt32
  | .timeoutMs | .retryBackoffMs | .maxBackoffMs | .maxParallel => UInt64
  | .postContentType => String

/-- The value of a field. -/
def get (s : Settings) : (f : Field) → f.Value
  | .failOnHttpError => s.failOnHttpError
  | .maxRetries => s.maxRetries
  | .timeoutMs => s.timeoutMs
  | .retryBackoffMs => s.retryBackoffMs
  | .maxBackoffMs => s.maxBackoffMs
  | .postContentType => s.postContentType
  | .maxParallel => s.maxParallel

/-- Settings are told by the values of their fields. -/
theorem eq_of_get {s s' : Settings} (h : ∀ f, s.get f = s'.get f) : s = s' := by
  have h1 : s.failOnHttpError = s'.failOnHttpError := h .failOnHttpError
  have h2 : s.maxRetries = s'.maxRetries := h .maxRetries
  have h3 : s.timeoutMs = s'.timeoutMs := h .timeoutMs
  have h4 : s.retryBackoffMs = s'.retryBackoffMs := h .retryBackoffMs
  have h5 : s.maxBackoffMs = s'.maxBackoffMs := h .maxBackoffMs
  have h6 : s.postContentType = s'.postContentType := h .postContentType
  have h7 : s.maxParallel = s'.maxParallel := h .maxParallel
  obtain ⟨_, _, _, _, _, _, _⟩ := s
  obtain ⟨_, _, _, _, _, _, _⟩ := s'
  simp only at h1 h2 h3 h4 h5 h6 h7
  subst h1 h2 h3 h4 h5 h6 h7
  rfl

/-- The time limit that is stored for a span. -/
def storedLimit (d : Span) : UInt64 :=
  if d.isZero then 0 else if storedMillis d = 0 then 1 else storedMillis d

/-- The value that a step puts into a field, if it sets that field. -/
def Change.put? : Change → (f : Field) → Option f.Value
  | .all settings, f => some (settings.get f)
  | .timeout limit, .timeoutMs => some (storedLimit limit)
  | .waitTime wait, .retryBackoffMs => some (storedMillis wait)
  | .maxWaitTime wait, .maxBackoffMs => some (storedMillis wait)
  | .retries n, .maxRetries => some n
  | .maxParallel n, .maxParallel => some (if n = (0 : UInt64) then (1 : UInt64) else n)
  | .failOnHttpError flag, .failOnHttpError => some flag
  | .postContentType contentType, .postContentType => some contentType
  | _, _ => none

/-- Whether a step sets a field. -/
def Change.sets (c : Change) (f : Field) : Bool := (c.put? f).isSome

theorem Change.put?_eq_none {c : Change} {f : Field} (h : c.sets f = false) : c.put? f = none :=
  Option.isNone_iff_eq_none.mp (Option.isSome_eq_false_iff.mp h)

/-- **A step puts its values into the fields that it sets and leaves the others alone.** -/
theorem get_apply (s : Settings) (c : Change) (f : Field) :
    (s.apply c).get f = (c.put? f).getD (s.get f) := by
  cases c <;> cases f <;> rfl

/-- Steps that set no field in common may change places. -/
theorem apply_comm {c d : Change} (apart : ∀ f, c.sets f = false ∨ d.sets f = false)
    (s : Settings) : (s.apply c).apply d = (s.apply d).apply c := by
  refine eq_of_get fun f => ?_
  rw [get_apply, get_apply, get_apply, get_apply]
  rcases apart f with h | h
  · rw [Change.put?_eq_none h, Option.getD_none, Option.getD_none]
  · rw [Change.put?_eq_none h, Option.getD_none, Option.getD_none]

/-- A step once more changes nothing. -/
theorem apply_apply_self (s : Settings) (c : Change) : (s.apply c).apply c = s.apply c := by
  refine eq_of_get fun f => ?_
  rw [get_apply, get_apply]
  cases c.put? f <;> rfl

/-! ## 2. Sequences of steps -/

/-- The step that sets a field last. -/
def lastSetter? (f : Field) (changes : List Change) : Option Change :=
  changes.reverse.find? (·.sets f)

theorem applyAll_append (s : Settings) (xs ys : List Change) :
    s.applyAll (xs ++ ys) = (s.applyAll xs).applyAll ys := List.foldl_append

theorem lastSetter?_concat (f : Field) (changes : List Change) (c : Change) :
    lastSetter? f (changes ++ [c]) = if c.sets f then some c else lastSetter? f changes := by
  rw [lastSetter?, List.reverse_concat, List.find?_cons]
  cases c.sets f <;> rfl

/-- The step that sets a field last sets it, and no step behind it does. -/
theorem lastSetter?_eq_some_iff {f : Field} {changes : List Change} {c : Change} :
    lastSetter? f changes = some c ↔ c.sets f = true ∧
      ∃ before after, changes = before ++ c :: after ∧ ∀ d ∈ after, d.sets f = false := by
  rw [lastSetter?, List.find?_eq_some_iff_append]
  refine and_congr_right fun _ => ⟨?_, ?_⟩
  · rintro ⟨after, before, heq, hnone⟩
    refine ⟨before.reverse, after.reverse, ?_, fun d hd => ?_⟩
    · rw [← List.reverse_reverse changes, heq]
      simp
    · simpa using hnone d (List.mem_reverse.mp hd)
  · rintro ⟨before, after, rfl, hnone⟩
    refine ⟨after.reverse, before.reverse, by simp, fun d hd => ?_⟩
    simpa using hnone d (List.mem_reverse.mp hd)

theorem lastSetter?_eq_none_iff {f : Field} {changes : List Change} :
    lastSetter? f changes = none ↔ ∀ c ∈ changes, c.sets f = false := by
  simp [lastSetter?]

/-- **A field holds what the step that sets it last has put there, or what it held at first.** -/
theorem get_applyAll (s : Settings) (changes : List Change) (f : Field) :
    (s.applyAll changes).get f =
      ((lastSetter? f changes).bind (·.put? f)).getD (s.get f) := by
  induction changes using List.reverseRecOn with
  | nil => rfl
  | append_singleton changes c ih =>
    rw [applyAll_append, lastSetter?_concat]
    show ((s.applyAll changes).apply c).get f = _
    rw [get_apply, ih]
    cases hsets : c.sets f with
    | true =>
        obtain ⟨value, hvalue⟩ := Option.isSome_iff_exists.mp hsets
        rw [if_pos rfl, Option.bind_some, hvalue]
        rfl
    | false =>
        rw [if_neg Bool.false_ne_true, Change.put?_eq_none hsets]
        rfl

/-- The step that sets a field last has put there what it holds. -/
theorem put?_of_lastSetter? {s : Settings} {changes : List Change} {f : Field} {c : Change}
    (h : lastSetter? f changes = some c) : c.put? f = some ((s.applyAll changes).get f) := by
  obtain ⟨value, hvalue⟩ := Option.isSome_iff_exists.mp (lastSetter?_eq_some_iff.mp h).1
  rw [get_applyAll, h, Option.bind_some, hvalue]
  rfl

/-- A field that no step sets holds what it held at first. -/
theorem get_of_lastSetter?_eq_none {s : Settings} {changes : List Change} {f : Field}
    (h : lastSetter? f changes = none) : (s.applyAll changes).get f = s.get f := by
  rw [get_applyAll, h]
  rfl

/-! ## 3. Spans in milliseconds -/

/-- The whole milliseconds in a span, as far as a word holds them. -/
def wholeMillis (d : Span) : Nat := min (d.toNanos / 1000000) 18446744073709551615

theorem toNat_storedMillis (d : Span) : (storedMillis d).toNat = wholeMillis d := by
  have hle : wholeMillis d ≤ 18446744073709551615 := Nat.min_le_right _ _
  show (UInt64.ofNat (wholeMillis d)).toNat = wholeMillis d
  rw [UInt64.toNat_ofNat']
  exact Nat.mod_eq_of_lt (by omega)

theorem toNat_storedLimit (d : Span) :
    (storedLimit d).toNat = if d.toNanos = 0 then 0 else max 1 (wholeMillis d) := by
  have hstored := toNat_storedMillis d
  unfold storedLimit
  by_cases hzero : d.toNanos = 0
  · rw [if_pos ((Span.isZero_iff d).mpr hzero), if_pos hzero]
    rfl
  · rw [if_neg (mt (Span.isZero_iff d).mp hzero), if_neg hzero]
    by_cases hnone : storedMillis d = 0
    · rw [if_pos hnone]
      rw [hnone] at hstored
      rw [← hstored]
      rfl
    · have hpos : wholeMillis d ≠ 0 := fun h => hnone (UInt64.toNat_inj.mp (hstored.trans h))
      rw [if_neg hnone, hstored]
      omega

theorem wholeMillis_ofMillis (ms : UInt64) : wholeMillis (.ofMillis ms) = ms.toNat := by
  have hlt : ms.toNat < 2 ^ 64 := ms.toNat_lt
  rw [wholeMillis, Span.toNanos_ofMillis]
  omega

/-- Whole milliseconds are stored as they are. -/
theorem storedMillis_ofMillis (ms : UInt64) : storedMillis (.ofMillis ms) = ms :=
  UInt64.toNat_inj.mp ((toNat_storedMillis _).trans (wholeMillis_ofMillis ms))

theorem storedLimit_ofMillis (ms : UInt64) : storedLimit (.ofMillis ms) = ms := by
  refine UInt64.toNat_inj.mp ?_
  rw [toNat_storedLimit, wholeMillis_ofMillis, Span.toNanos_ofMillis]
  split <;> omega

/-- No time limit is stored just where there is no time at all. -/
theorem storedLimit_eq_zero_iff {d : Span} : storedLimit d = 0 ↔ d.toNanos = 0 := by
  rw [← UInt64.toNat_inj, toNat_storedLimit]
  split
  · rename_i hzero
    simp [hzero]
  · rename_i hzero
    simp only [hzero, iff_false]
    show max 1 (wholeMillis d) ≠ 0
    omega

/-! ## 4. What becomes of the defaults -/

/-- The settings that a sequence of steps makes of the defaults. -/
structure Decided (changes : List Change) (final : Settings) : Prop where
  /-- The step that sets a field last has put there what it holds. -/
  set : ∀ (f : Field) (c : Change), lastSetter? f changes = some c →
    c.put? f = some (final.get f)
  /-- A field that no step sets holds its default. -/
  unset : ∀ f : Field, lastSetter? f changes = none → final.get f = ({} : Settings).get f
  /-- There is no time limit just where the step that sets it last says so. -/
  unlimited : final.timeout = none ↔
    (∃ limit, lastSetter? .timeoutMs changes = some (.timeout limit) ∧ limit.toNanos = 0) ∨
      ∃ settings, lastSetter? .timeoutMs changes = some (.all settings) ∧ settings.timeoutMs = 0
  /-- No parallelism is stored just where the step that sets it last replaces all settings by such
      settings. -/
  zero : final.maxParallel = 0 ↔ ∃ settings,
    lastSetter? .maxParallel changes = some (.all settings) ∧ settings.maxParallel = 0
  /-- One request at least runs at a time. -/
  parallel : 1 ≤ final.parallelism.toNat

theorem timeout_eq_none_iff {s : Settings} : s.timeout = none ↔ s.timeoutMs = 0 := by
  unfold timeout
  split
  · rename_i h
    simp [h]
  · rename_i h
    simp [h]

theorem one_le_parallelism (s : Settings) : 1 ≤ s.parallelism.toNat :=
  Nat.one_le_iff_ne_zero.mpr fun h => s.parallelism_ne_zero (UInt64.toNat_inj.mp h)

theorem decided_applyAll (changes : List Change) :
    Decided changes (({} : Settings).applyAll changes) where
  set _ _ h := put?_of_lastSetter? h
  unset _ h := get_of_lastSetter?_eq_none h
  unlimited := by
    rw [timeout_eq_none_iff]
    cases hlast : lastSetter? .timeoutMs changes with
    | none =>
        have hdefault : (({} : Settings).applyAll changes).timeoutMs = 3000 :=
          get_of_lastSetter?_eq_none hlast
        simp [hdefault]
    | some c =>
        have hput := put?_of_lastSetter? (s := {}) hlast
        cases c with
        | all settings =>
            have hfield : settings.timeoutMs = (({} : Settings).applyAll changes).timeoutMs :=
              Option.some.inj hput
            simp [hfield]
        | timeout limit =>
            have hfield : storedLimit limit = (({} : Settings).applyAll changes).timeoutMs :=
              Option.some.inj hput
            simp [← storedLimit_eq_zero_iff, hfield]
        | _ => cases hput
  zero := by
    cases hlast : lastSetter? .maxParallel changes with
    | none =>
        have hdefault : (({} : Settings).applyAll changes).maxParallel = 5 :=
          get_of_lastSetter?_eq_none hlast
        simp [hdefault]
    | some c =>
        have hput := put?_of_lastSetter? (s := {}) hlast
        cases c with
        | all settings =>
            have hfield : settings.maxParallel = (({} : Settings).applyAll changes).maxParallel :=
              Option.some.inj hput
            simp [hfield]
        | maxParallel n =>
            have hfield : (if n = 0 then 1 else n) =
                (({} : Settings).applyAll changes).maxParallel := Option.some.inj hput
            rw [← hfield]
            by_cases hn : n = 0
            · simp [hn]
            · simp [hn]
        | _ => cases hput
  parallel := one_le_parallelism _

end Settings

namespace Agent

open Settings

variable {σ : Type}

/-! ## 5. Agents -/

/-- An agent after a sequence of changes of its settings. -/
def changeAll (a : Agent σ) (changes : List Change) : Agent σ := changes.foldl change a

theorem changeAll_eq (a : Agent σ) (changes : List Change) :
    a.changeAll changes = ⟨a.settings.applyAll changes, a.transport⟩ := by
  induction changes generalizing a with
  | nil => rfl
  | cons c changes ih => exact ih (a.change c)

/-- What the steps that take a span store of it. -/
structure Stores (a : Agent σ) (d : Span) : Prop where
  timeout : (a.change (.timeout d)).settings.timeoutMs.toNat =
    if d.toNanos = 0 then 0 else max 1 (wholeMillis d)
  waitTime : (a.change (.waitTime d)).settings.retryBackoffMs.toNat = wholeMillis d
  maxWaitTime : (a.change (.maxWaitTime d)).settings.maxBackoffMs.toNat = wholeMillis d

/-- **Building.** For any sequence of steps on an agent with the default settings: each field is
    decided by the last step that sets it, the transport stays, adjacent steps that set no field in
    common may change places, and a step may be repeated. Whatever an agent has been made of, a span
    is stored in whole milliseconds, and milliseconds are stored as they are. -/
theorem building (t : Transport σ) (changes : List Change) :
    let build : List Change → Agent σ := changeAll ⟨{}, t⟩
    Decided changes (build changes).settings ∧ (build changes).transport = t ∧
      (∀ before c d after, changes = before ++ c :: d :: after →
        (∀ f, c.sets f = false ∨ d.sets f = false) →
        build (before ++ d :: c :: after) = build changes) ∧
      (∀ before c after, changes = before ++ c :: after →
        build (before ++ c :: c :: after) = build changes) ∧
      (∀ d, (build changes).Stores d) ∧
      ∀ ms, ((build changes).change (.timeout (.ofMillis ms))).settings.timeoutMs = ms ∧
        ((build changes).change (.waitTime (.ofMillis ms))).settings.retryBackoffMs = ms ∧
        ((build changes).change (.maxWaitTime (.ofMillis ms))).settings.maxBackoffMs = ms := by
  intro build
  have hbuild : ∀ changes, build changes = ⟨({} : Settings).applyAll changes, t⟩ :=
    fun changes => changeAll_eq _ changes
  refine ⟨?_, ?_, ?_, ?_, fun d => ?_, fun ms => ?_⟩
  · rw [hbuild]
    exact decided_applyAll changes
  · rw [hbuild]
  · rintro before c d after rfl apart
    rw [hbuild, hbuild, applyAll_append, applyAll_append]
    show (⟨applyAll (apply (apply _ d) c) after, t⟩ : Agent σ) =
      ⟨applyAll (apply (apply _ c) d) after, t⟩
    rw [apply_comm apart]
  · rintro before c after rfl
    rw [hbuild, hbuild, applyAll_append, applyAll_append]
    show (⟨applyAll (apply (apply _ c) c) after, t⟩ : Agent σ) = ⟨applyAll (apply _ c) after, t⟩
    rw [apply_apply_self]
  · exact ⟨toNat_storedLimit d, toNat_storedMillis d, toNat_storedMillis d⟩
  · exact ⟨storedLimit_ofMillis ms, storedMillis_ofMillis ms, storedMillis_ofMillis ms⟩

/-- A time limit below a millisecond is one millisecond, and a wish for no parallelism is one for
    one request at a time. -/
example :
    let changes : List Change := [.timeout { seconds := 5, nanos := 0 }, .maxParallel 0,
      .timeout { seconds := 0, nanos := 300000 }]
    let s := ({} : Settings).applyAll changes
    (s.timeoutMs, s.maxParallel, s.maxRetries) = (1, 1, 3) := by
  decide

end Agent

end Courier
