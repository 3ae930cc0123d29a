import Courier.Proofs.Settings.Compact
import Mathlib.Data.List.Nodup

/-!
# Some of the settings as JSON

An object need not have a member for every field, and it may have members that name none. What it
names is replaced in the defaults, whatever the order of the members, and the others are passed over
(`Settings.putMembers_scalars`). A field that is named twice is refused, whatever is bound to it
(`Settings.putMembers_of_twice`). A list has no names: its items stand for the first fields in the
order of their declaration (`Settings.putItems_map`), and it is refused where it has more items than
there are fields (`Settings.putItems_of_long`).

`Settings.overlay` says this of texts, and that the two forms come to the same settings.
-/

namespace Courier.Settings

variable {base s : Settings} {seen : List Field} {members : List (String × Json.Scalar)}

/-! ## 1. Members that name fields, and others -/

/-- What is written for a field. -/
def scalar (s : Settings) : Field → Json.Scalar
  | .failOnHttpError => .bool s.failOnHttpError
  | .maxRetries => .number (.natural s.maxRetries.toNat)
  | .timeoutMs => .number (.natural s.timeoutMs.toNat)
  | .retryBackoffMs => .number (.natural s.retryBackoffMs.toNat)
  | .maxBackoffMs => .number (.natural s.maxBackoffMs.toNat)
  | .postContentType => .string s.postContentType
  | .maxParallel => .number (.natural s.maxParallel.toNat)

/-- The fields that are named by the members of an object, in the order of the members. -/
def named (members : List (String × Json.Scalar)) : List Field :=
  members.filterMap fun m => Field.ofKey? m.1

/-- Every member that names a field has the value of this field. -/
def Supplies (s : Settings) (members : List (String × Json.Scalar)) : Prop :=
  ∀ m ∈ members, ∀ f : Field, m.1 = f.key → m.2 = s.scalar f

theorem value_scalar (s : Settings) (f : Field) : (s.scalar f).value = s.fieldValue f := by
  cases f with
  | failOnHttpError => rfl
  | postContentType => rfl
  | maxRetries | timeoutMs | retryBackoffMs | maxBackoffMs | maxParallel =>
      exact congrArg Json.number (Json.Number.text_natural _)

theorem ofKey?_eq_some_iff {key : String} {f : Field} :
    Field.ofKey? key = some f ↔ key = f.key := by
  constructor
  · intro h
    have hfound := List.find?_some (show Field.all.find? (fun f => f.key == key) = some f from h)
    exact (eq_of_beq hfound).symm
  · rintro rfl
    exact ofKey?_key f

theorem named_cons_other {key : String} (h : Field.ofKey? key = none) (x : Json.Scalar) :
    named ((key, x) :: members) = named members := List.filterMap_cons_none h

theorem named_cons_key (f : Field) (x : Json.Scalar) :
    named ((f.key, x) :: members) = f :: named members := List.filterMap_cons_some (ofKey?_key f)

theorem named_append (before after : List (String × Json.Scalar)) :
    named (before ++ after) = named before ++ named after := List.filterMap_append

theorem mem_named_iff {f : Field} : f ∈ named members ↔ ∃ x, (f.key, x) ∈ members := by
  simp only [named, List.mem_filterMap, ofKey?_eq_some_iff]
  constructor
  · rintro ⟨⟨key, x⟩, hmem, rfl⟩
    exact ⟨x, hmem⟩
  · rintro ⟨x, hmem⟩
    exact ⟨_, hmem, rfl⟩

/-! ## 2. Objects -/

/-- A member as the reader hands it on. -/
def readMember (m : String × Json.Scalar) : Json.Literal × Json := (m.1.toList.map some, m.2.value)

/-- A member that names no field is passed over. -/
theorem putMembers_other {key : String} (h : Field.ofKey? key = none) (x : Json.Scalar)
    (rest : List (Json.Literal × Json)) :
    putMembers seen base (readMember (key, x) :: rest) = putMembers seen base rest := by
  rw [readMember, putMembers, Json.text?_map_some, String.ofList_toList]
  simp only [h]

/-- A member that names a field for the second time is refused. -/
theorem putMembers_seen {f : Field} (h : f ∈ seen) (x : Json.Scalar)
    (rest : List (Json.Literal × Json)) :
    putMembers seen base (readMember (f.key, x) :: rest) = none := by
  rw [readMember, putMembers, Json.text?_map_some, String.ofList_toList]
  simp only [ofKey?_key, if_pos h]

/-- **The fields that are named are replaced**, in whatever order and whatever stands between. -/
theorem putMembers_scalars (supplies : s.Supplies members) (once : (named members).Nodup)
    (unseen : ∀ f ∈ named members, f ∉ seen) :
    putMembers seen base (members.map readMember) = some (setAll base s (named members)) := by
  induction members generalizing base seen with
  | nil => rfl
  | cons m members ih =>
      obtain ⟨key, x⟩ := m
      have hsupplies : s.Supplies members := fun m hm => supplies m (List.mem_cons_of_mem _ hm)
      rw [List.map_cons]
      cases hkey : Field.ofKey? key with
      | none =>
          rw [named_cons_other hkey] at once unseen ⊢
          rw [putMembers_other hkey]
          exact ih hsupplies once unseen
      | some f =>
          obtain rfl := ofKey?_eq_some_iff.mp hkey
          obtain rfl : x = s.scalar f := supplies _ List.mem_cons_self f rfl
          rw [named_cons_key] at once unseen ⊢
          obtain ⟨hnew, honce⟩ := List.nodup_cons.mp once
          have hunseen : ∀ g ∈ named members, g ∉ f :: seen := by
            intro g hg
            rw [List.mem_cons, not_or]
            refine ⟨?_, unseen g (List.mem_cons_of_mem _ hg)⟩
            rintro rfl
            exact hnew hg
          have hvalue : f.valueOf? (s.scalar f).value = some (s.get f) := by
            rw [value_scalar, valueOf?_fieldValue]
          rw [readMember, putMembers_field (unseen f List.mem_cons_self) hvalue]
          exact ih hsupplies honce hunseen

/-- **A field that is named twice is refused**, whatever values are bound to it. -/
theorem putMembers_of_twice
    (twice : ¬ ((named members).Nodup ∧ ∀ f ∈ named members, f ∉ seen)) :
    putMembers seen base (members.map readMember) = none := by
  induction members generalizing base seen with
  | nil => exact absurd ⟨List.nodup_nil, fun f hf => absurd hf List.not_mem_nil⟩ twice
  | cons m members ih =>
      obtain ⟨key, x⟩ := m
      rw [List.map_cons]
      cases hkey : Field.ofKey? key with
      | none =>
          rw [named_cons_other hkey] at twice
          rw [putMembers_other hkey]
          exact ih twice
      | some f =>
          obtain rfl := ofKey?_eq_some_iff.mp hkey
          by_cases hseen : f ∈ seen
          · exact putMembers_seen hseen x _
          · have hlater : ¬ ((named members).Nodup ∧ ∀ g ∈ named members, g ∉ f :: seen) := by
              rintro ⟨honce, hunseen⟩
              refine twice ?_
              rw [named_cons_key]
              refine ⟨List.nodup_cons.mpr ⟨fun hf => hunseen f hf List.mem_cons_self, honce⟩, ?_⟩
              intro g hg
              rcases List.mem_cons.mp hg with rfl | hg
              · exact hseen
              · exact fun hg' => hunseen g hg (List.mem_cons_of_mem _ hg')
            -- a value that is not one of the field is refused at once
            cases hvalue : f.valueOf? x.value with
            | none =>
                rw [readMember, putMembers, Json.text?_map_some, String.ofList_toList]
                simp only [ofKey?_key, if_neg hseen, put?_eq, hvalue, Option.map_none]
            | some y =>
                rw [readMember, putMembers_field hseen hvalue]
                exact ih hlater

/-! ## 3. Lists -/

/-- **The items of a list stand for the fields in their order**, and may end early. -/
theorem putItems_map (base s : Settings) (fields more : List Field) :
    putItems base (fields ++ more) (fields.map s.fieldValue) = some (setAll base s fields) := by
  induction fields generalizing base with
  | nil =>
      rw [List.map_nil, putItems]
      rfl
  | cons f fields ih =>
      rw [List.map_cons, List.cons_append, putItems, put?_eq, valueOf?_fieldValue]
      exact ih _

/-- A list with more items than there are fields is refused. -/
theorem putItems_of_long {fields : List Field} {items : List Json}
    (h : fields.length < items.length) : putItems base fields items = none := by
  induction items generalizing base fields with
  | nil => exact absurd h (Nat.not_lt_zero _)
  | cons value items ih =>
      cases fields with
      | nil => rfl
      | cons f fields =>
          rw [putItems]
          cases base.put? f value with
          | none => rfl
          | some t => exact ih (Nat.lt_of_succ_lt_succ h)

/-! ## 4. Texts -/

theorem ofJson?_objectText (members : List (String × Json.Scalar)) :
    ofJson? (Json.objectText members) = putMembers [] {} (members.map readMember) := by
  rw [ofJson?, Json.read?_objectText]
  rfl

/-- What is read of an object or of a list that has some of the settings. -/
structure Overlay (s : Settings) : Prop where
  /-- An object that names each field once at most replaces the fields that it names, whatever the
      order of its members, and whatever members with other names stand between them. -/
  object : ∀ members, s.Supplies members → (named members).Nodup →
    ∃ t, ofJson? (Json.objectText members) = some t ∧
      ∀ f, t.get f = if f ∈ named members then s.get f else ({} : Settings).get f
  /-- With a second member for a field, anywhere and with whatever value, nothing is read. -/
  twice : ∀ (before after : List (String × Json.Scalar)) (f : Field) (x y : Json.Scalar),
    (f.key, y) ∈ before ++ after →
    ofJson? (Json.objectText (before ++ (f.key, x) :: after)) = none
  /-- A list of the first fields is read as the object of these fields is. -/
  list : ∀ k ≤ 7,
    let fields := Field.all.take k
    ∃ t, ofJson? (Json.listText (fields.map s.scalar)) = some t ∧
      ofJson? (Json.objectText (fields.map fun f => (f.key, s.scalar f))) = some t ∧
      ∀ f, t.get f = if f ∈ fields then s.get f else ({} : Settings).get f
  /-- A list of more than seven scalars is refused. -/
  long : ∀ items : List Json.Scalar, 7 < items.length → ofJson? (Json.listText items) = none
  /-- So is any other text of a list that has more than seven items. -/
  longer : ∀ text items, Json.read? text = some (.list items) → 7 < items.length →
    ofJson? text = none

/-- **Some of the settings overlay the defaults**, be they given by an object or by a list. -/
theorem overlay (s : Settings) : s.Overlay where
  object members supplies once := by
    refine ⟨setAll {} s (named members), ?_, get_setAll {} s (named members)⟩
    rw [ofJson?_objectText, putMembers_scalars supplies once fun f _ => List.not_mem_nil]
  twice before after f x y hy := by
    have hf : f ∈ named (before ++ after) := mem_named_iff.mpr ⟨y, hy⟩
    rw [ofJson?_objectText]
    refine putMembers_of_twice fun ⟨once, _⟩ => ?_
    rw [named_append, named_cons_key, List.nodup_middle, List.nodup_cons, ← named_append] at once
    exact once.1 hf
  list k hk := by
    intro fields
    have hfields : fields ++ Field.all.drop k = Field.all := List.take_append_drop k Field.all
    have hsupplies : s.Supplies (fields.map fun f => (f.key, s.scalar f)) := by
      intro m hm f hkey
      obtain ⟨g, -, rfl⟩ := List.mem_map.mp hm
      have hg := ofKey?_key g
      rw [show g.key = f.key from hkey, ofKey?_key] at hg
      rw [Option.some.inj hg]
    have hnamed : named (fields.map fun f => (f.key, s.scalar f)) = fields := by
      rw [named, List.filterMap_map]
      simp only [Function.comp_def, ofKey?_key, List.filterMap_some]
    have honce : fields.Nodup := (List.take_sublist k Field.all).nodup (by decide)
    refine ⟨setAll {} s fields, ?_, ?_, get_setAll {} s fields⟩
    · rw [ofJson?, Json.read?_listText, List.map_map]
      show putItems {} Field.all (fields.map fun f => (s.scalar f).value) = _
      simp only [value_scalar]
      have hput := putItems_map {} s fields (Field.all.drop k)
      rwa [hfields] at hput
    · rw [ofJson?_objectText, putMembers_scalars hsupplies (by rwa [hnamed]) fun f _ =>
        List.not_mem_nil, hnamed]
  long items h := by
    rw [ofJson?, Json.read?_listText]
    exact putItems_of_long (by rwa [List.length_map])
  longer text items hread h := by
    rw [ofJson?, hread]
    exact putItems_of_long h

-- two of the fields, out of their order, and a name that is none of a field, twice
example :
    ofJson? ("\x7b\"max_parallel\":8,\"note\":-1.5e3,\"fail_on_http_error\":false," ++
        "\"note\":null\x7d") =
      some { failOnHttpError := false, maxParallel := 8 } := by
  decide +kernel

end Courier.Settings
