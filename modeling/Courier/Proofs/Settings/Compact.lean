import Courier.Proofs.Changes
import Courier.Proofs.Json.Objects
import Courier.Settings.Json

/-!
# Settings as JSON, both ways

Settings are written as the compact object of their fields (`Settings.toJson_eq`). Each value that is
written is read as one of the type of its field, at the very bounds of the words and with any text as
content type (`Settings.reads_fieldJson`, `Settings.valueOf?_fieldValue`), and a member puts its
value into its field and leaves the others alone (`Settings.putMembers_field`). With a member for
every field the settings are those that have been written, so nothing of them is lost
(`Settings.json_round_trip`).
-/

namespace Courier.Settings

/-! ## 1. Fields and values -/

/-- The settings with another value in one field. -/
def set (s : Settings) : (f : Field) → f.Value → Settings
  | .failOnHttpError, flag => { s with failOnHttpError := flag }
  | .maxRetries, n => { s with maxRetries := n }
  | .timeoutMs, n => { s with timeoutMs := n }
  | .retryBackoffMs, n => { s with retryBackoffMs := n }
  | .maxBackoffMs, n => { s with maxBackoffMs := n }
  | .postContentType, contentType => { s with postContentType := contentType }
  | .maxParallel, n => { s with maxParallel := n }

/-- The value of the type of a field that a JSON value denotes, if it does. -/
def Field.valueOf? (value : Json) : (f : Field) → Option f.Value
  | .failOnHttpError => value.bool?
  | .maxRetries => (value.natural? (UInt32.size - 1)).map UInt32.ofNat
  | .timeoutMs | .retryBackoffMs | .maxBackoffMs | .maxParallel =>
    (value.natural? (UInt64.size - 1)).map UInt64.ofNat
  | .postContentType => value.text?

variable {s : Settings} {f : Field}

theorem get_set_self (s : Settings) (f : Field) (x : f.Value) : (s.set f x).get f = x := by
  cases f <;> rfl

theorem get_set_of_ne {g : Field} (h : g ≠ f) (s : Settings) (x : f.Value) :
    (s.set f x).get g = s.get g := by
  cases f <;> cases g <;> first | rfl | exact absurd rfl h

/-- A value that is put into settings is one of the type of its field. -/
theorem put?_eq (s : Settings) (f : Field) (value : Json) :
    s.put? f value = (f.valueOf? value).map (s.set f) := by
  have word : ∀ {α β : Type} (n : Option Nat) (ofNat : Nat → α) (store : α → β),
      n.map (fun n => store (ofNat n)) = (n.map ofNat).map store := fun n ofNat store =>
    (Option.map_map store ofNat n).symm
  cases f with
  | failOnHttpError => rfl
  | maxRetries => exact word _ UInt32.ofNat (s.set .maxRetries)
  | timeoutMs => exact word _ UInt64.ofNat (s.set .timeoutMs)
  | retryBackoffMs => exact word _ UInt64.ofNat (s.set .retryBackoffMs)
  | maxBackoffMs => exact word _ UInt64.ofNat (s.set .maxBackoffMs)
  | postContentType => rfl
  | maxParallel => exact word _ UInt64.ofNat (s.set .maxParallel)

/-! ## 2. Reading members -/

theorem ofKey?_key (f : Field) : Field.ofKey? f.key = some f := by
  cases f <;> decide

/-- **A member of a field puts its value there**, if there has been none for this field. -/
theorem putMembers_field {seen : List Field} {value : Json} {x : f.Value} (hseen : f ∉ seen)
    (hvalue : f.valueOf? value = some x) (s : Settings) (rest : List (Json.Literal × Json)) :
    putMembers seen s ((f.key.toList.map some, value) :: rest) =
      putMembers (f :: seen) (s.set f x) rest := by
  rw [putMembers, Json.text?_map_some, String.ofList_toList]
  simp only [ofKey?_key, if_neg hseen, put?_eq, hvalue, Option.map_some]

/-! ## 3. What is written -/

/-- The JSON value that is written for a field. -/
def fieldValue (s : Settings) : Field → Json
  | .failOnHttpError => .bool s.failOnHttpError
  | .maxRetries => .number (Decimal.digits s.maxRetries.toNat)
  | .timeoutMs => .number (Decimal.digits s.timeoutMs.toNat)
  | .retryBackoffMs => .number (Decimal.digits s.retryBackoffMs.toNat)
  | .maxBackoffMs => .number (Decimal.digits s.maxBackoffMs.toNat)
  | .postContentType => .string (s.postContentType.toList.map some)
  | .maxParallel => .number (Decimal.digits s.maxParallel.toNat)

/-- The member that is written for a field. -/
def member (s : Settings) (f : Field) : Json.Member := ⟨f.key, s.fieldJson f, s.fieldValue f⟩

/-- **Settings are written as the compact object of their fields.** -/
theorem toJson_eq (s : Settings) :
    s.toJson = String.ofList (Json.compact (Field.all.map s.member)) := rfl

-- the greatest number of attempts, no requests side by side, and a content type that needs escapes
example :
    ({ maxRetries := 4294967295, postContentType := "a\"\\\n\x01", maxParallel := 0 } :
        Settings).toJson =
      "\x7b\"fail_on_http_error\":true,\"max_retries\":4294967295,\"timeout_ms\":3000," ++
        "\"retry_backoff_ms\":2000,\"max_backoff_ms\":60000," ++
        "\"post_content_type\":\"a\\\"\\\\\\n\\u0001\",\"max_parallel\":0\x7d" := by
  decide +kernel

/-- What is written for a field is read as its value. -/
theorem reads_fieldJson (s : Settings) (f : Field) : Json.Reads (s.fieldJson f) (s.fieldValue f) := by
  cases f with
  | failOnHttpError => exact Json.reads_bool _
  | maxRetries => exact Json.reads_digits _
  | timeoutMs => exact Json.reads_digits _
  | retryBackoffMs => exact Json.reads_digits _
  | maxBackoffMs => exact Json.reads_digits _
  | postContentType => exact Json.reads_literal _
  | maxParallel => exact Json.reads_digits _

/-- The digits of a number denote it, up to the limit. -/
theorem natural?_digits {limit n : Nat} (h : n ≤ limit) :
    Json.natural? limit (.number (Decimal.digits n)) = some n := by
  obtain ⟨hall, hvalue⟩ := Decimal.digits_spec n
  have hdigits : (Decimal.digits n).all fun c => (Decimal.digitValue? c).isSome := by
    rw [List.all_eq_true]
    intro c hc
    rw [Decimal.digitValue?_of_isDigit (hall c hc)]
    rfl
  have hread : Decimal.read limit (Decimal.digits n) = .ok n :=
    Decimal.read_eq_ok_iff.mpr ⟨(Decimal.numeral_zeros_digits 0 n).1, h⟩
  rw [Json.natural?, if_pos hdigits, hread]

/-- **The value that is written for a field is the value of the field**, at the bounds too. -/
theorem valueOf?_fieldValue (s : Settings) (f : Field) :
    f.valueOf? (s.fieldValue f) = some (s.get f) := by
  have word32 : ∀ n : UInt32, (Json.natural? (UInt32.size - 1)
      (.number (Decimal.digits n.toNat))).map UInt32.ofNat = some n := fun n => by
    rw [natural?_digits (Nat.le_sub_one_of_lt n.toNat_lt_size), Option.map_some,
      UInt32.ofNat_toNat]
  have word64 : ∀ n : UInt64, (Json.natural? (UInt64.size - 1)
      (.number (Decimal.digits n.toNat))).map UInt64.ofNat = some n := fun n => by
    rw [natural?_digits (Nat.le_sub_one_of_lt n.toNat_lt_size), Option.map_some,
      UInt64.ofNat_toNat]
  cases f with
  | failOnHttpError => rfl
  | maxRetries => exact word32 _
  | timeoutMs => exact word64 _
  | retryBackoffMs => exact word64 _
  | maxBackoffMs => exact word64 _
  | postContentType =>
      show Json.Literal.text? (s.postContentType.toList.map some) = some s.postContentType
      rw [Json.text?_map_some, String.ofList_toList]
  | maxParallel => exact word64 _

/-! ## 4. The round trip -/

/-- The settings with the values of other settings in some fields. -/
def setAll (base s : Settings) (fields : List Field) : Settings :=
  fields.foldl (fun t f => t.set f (s.get f)) base

theorem get_setAll (base s : Settings) (fields : List Field) (f : Field) :
    (setAll base s fields).get f = if f ∈ fields then s.get f else base.get f := by
  induction fields generalizing base with
  | nil => rfl
  | cons g fields ih =>
      show (setAll (base.set g (s.get g)) s fields).get f = _
      rw [ih]
      by_cases hf : f ∈ fields
      · rw [if_pos hf, if_pos (List.mem_cons_of_mem _ hf)]
      · rw [if_neg hf]
        by_cases hg : f = g
        · subst hg
          rw [get_set_self, if_pos List.mem_cons_self]
        · rw [get_set_of_ne hg, if_neg (by simp [hf, hg])]

/-- **The members that are written for some fields put the values of these fields.** -/
theorem putMembers_members (base s : Settings) {fields seen : List Field} (once : fields.Nodup)
    (unseen : ∀ f ∈ fields, f ∉ seen) :
    putMembers seen base ((fields.map s.member).map Json.Member.read) =
      some (setAll base s fields) := by
  induction fields generalizing base seen with
  | nil => rfl
  | cons f fields ih =>
      obtain ⟨hnew, honce⟩ := List.nodup_cons.mp once
      have hunseen : ∀ g ∈ fields, g ∉ f :: seen := by
        intro g hg
        rw [List.mem_cons, not_or]
        refine ⟨?_, unseen g (List.mem_cons_of_mem _ hg)⟩
        rintro rfl
        exact hnew hg
      exact (putMembers_field (unseen f List.mem_cons_self) (valueOf?_fieldValue s f) base _).trans
        (ih (base.set f (s.get f)) honce hunseen)

/-- **What has been written is read again.** -/
theorem ofJson?_toJson (s : Settings) : ofJson? s.toJson = some s := by
  have hreads : ∀ m ∈ Field.all.map s.member, Json.Reads m.written m.value := fun m hm => by
    obtain ⟨f, -, rfl⟩ := List.mem_map.mp hm
    exact reads_fieldJson s f
  have hall : setAll {} s Field.all = s := by
    refine eq_of_get fun f => ?_
    rw [get_setAll, if_pos (by cases f <;> decide)]
  rw [ofJson?, toJson_eq, Json.read?_compact hreads]
  show putMembers [] {} _ = _
  rw [putMembers_members {} s (by decide) (by simp), hall]

/-- **The round trip through JSON.** Settings are read back as they are, so no two are written alike,
    and what any text is read as may be written and read again. -/
theorem json_round_trip (s : Settings) :
    ofJson? s.toJson = some s ∧ (∀ s', s'.toJson = s.toJson → s' = s) ∧
      ∀ text, ofJson? text = some s → ofJson? s.toJson = ofJson? text := by
  refine ⟨ofJson?_toJson s, fun s' h => ?_, fun text h => ?_⟩
  · have hread := ofJson?_toJson s'
    rw [h, ofJson?_toJson] at hread
    exact (Option.some.inj hread).symm
  · rw [ofJson?_toJson, h]

end Courier.Settings
