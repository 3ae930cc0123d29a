import Courier.Proofs.Json.Scalars

/-!
# Compact objects and lists, both ways

An object is written without blanks: members with commas between them, each a literal, a colon and a
value. A list is written so as well, with its items in the place of members. Where every value is
read as what it was written for, the reader gives back the members of the object and the items of
the list in their order (`Json.read?_compact`, `Json.read?_listText`), and the steps that it has for
a text of this length are enough.
-/

namespace Courier.Json

/-! ## 1. Members -/

/-- A member of an object, and how its value is written. -/
structure Member where
  key : String
  written : List Char
  value : Json

namespace Member

/-- A member as it is written. -/
def text (m : Member) : List Char := literal m.key ++ ':' :: m.written

/-- A member as it is read. -/
def read (m : Member) : Literal × Json := (m.key.toList.map some, m.value)

/-- Members as they are written. -/
def texts (members : List Member) : List Char := List.intercalate [','] (members.map text)

end Member

/-- Members as a compact object. -/
def compact (members : List Member) : List Char := '\x7b' :: Member.texts members ++ ['\x7d']

variable {m : Member} {members : List Member}

theorem texts_singleton (m : Member) : Member.texts [m] = m.text := List.intercalate_singleton

theorem texts_cons_cons (m m' : Member) (members : List Member) :
    Member.texts (m :: m' :: members) = m.text ++ ',' :: Member.texts (m' :: members) := by
  show List.intercalate _ _ = _
  rw [List.map_cons, List.map_cons, List.intercalate_cons_cons, List.append_assoc]
  rfl

/-- Members begin with the quote of a key. -/
theorem exists_texts_cons (m : Member) (members : List Member) :
    ∃ more, Member.texts (m :: members) = '"' :: more := by
  cases members with
  | nil => exact ⟨_, (texts_singleton m).trans (literal_append _ _)⟩
  | cons m' members =>
      rw [texts_cons_cons, Member.text, List.append_assoc, literal_append]
      exact ⟨_, rfl⟩

theorem readMembers_last (h : Reads m.written m.value) (fuel : Nat) (rest : List Char) :
    readMembers (fuel + 2) (m.text ++ '\x7d' :: rest) = some ([m.read], rest) := by
  have hvalue := h fuel ('\x7d' :: rest) (delimits_cons (by decide) rest)
  rw [Member.text, List.append_assoc, literal_append, readMembers, skipBlank_cons (by decide)]
  simp only [readLiteral_append, List.cons_append, skipBlank_cons (c := ':') (by decide), hvalue,
    skipBlank_cons (c := '\x7d') (by decide)]
  rfl

theorem readMembers_cons (h : Reads m.written m.value) (fuel : Nat) (rest : List Char) :
    readMembers (fuel + 2) (m.text ++ ',' :: rest) =
      (readMembers (fuel + 1) rest).map fun r => (m.read :: r.1, r.2) := by
  have hvalue := h fuel (',' :: rest) (delimits_cons (by decide) rest)
  rw [Member.text, List.append_assoc, literal_append, readMembers, skipBlank_cons (by decide)]
  simp only [readLiteral_append, List.cons_append, skipBlank_cons (c := ':') (by decide), hvalue,
    skipBlank_cons (c := ',') (by decide)]
  rfl

/-- **Members that are written are read in their order**, with a step more than there are members. -/
theorem readMembers_texts (any : members ≠ []) (h : ∀ m ∈ members, Reads m.written m.value)
    {fuel : Nat} (enough : members.length < fuel) (rest : List Char) :
    readMembers fuel (Member.texts members ++ '\x7d' :: rest) =
      some (members.map Member.read, rest) := by
  induction members generalizing fuel with
  | nil => exact absurd rfl any
  | cons m members ih =>
      have hm := h m List.mem_cons_self
      rw [List.length_cons] at enough
      -- one step is for the member, and one for the value in it
      obtain ⟨fuel, rfl⟩ : ∃ n, fuel = n + 2 := ⟨fuel - 2, by omega⟩
      cases members with
      | nil =>
          rw [texts_singleton]
          exact readMembers_last hm fuel rest
      | cons m' members =>
          have hrest : readMembers (fuel + 1) (Member.texts (m' :: members) ++ '\x7d' :: rest) =
              some ((m' :: members).map Member.read, rest) :=
            ih (List.cons_ne_nil _ _) (fun n hn => h n (List.mem_cons_of_mem _ hn)) (by omega)
          rw [texts_cons_cons, List.append_assoc, List.cons_append, readMembers_cons hm, hrest]
          rfl

/-- A text of members is no shorter than their number. -/
theorem length_le_length_texts (members : List Member) :
    members.length ≤ (Member.texts members).length := by
  induction members with
  | nil => exact Nat.zero_le _
  | cons m members ih =>
      cases members with
      | nil =>
          obtain ⟨more, hmore⟩ := exists_texts_cons m []
          rw [hmore]
          exact Nat.succ_le_succ (Nat.zero_le _)
      | cons m' members =>
          rw [texts_cons_cons]
          simp only [List.length_append, List.length_cons] at ih ⊢
          omega

theorem readValue_compact (h : ∀ m ∈ members, Reads m.written m.value) {fuel : Nat}
    (enough : members.length < fuel) :
    readValue (fuel + 1) (compact members) = some (.object (members.map Member.read), []) := by
  rw [compact, readValue, List.cons_append, skipBlank_cons (by decide)]
  cases members with
  | nil => rfl
  | cons m members =>
      have hread := readMembers_texts (List.cons_ne_nil m members) h enough []
      obtain ⟨more, hmore⟩ := exists_texts_cons m members
      rw [hmore, List.cons_append] at hread ⊢
      simp only [skipBlank_cons (c := '"') (by decide)]
      show (readMembers fuel ('"' :: (more ++ ['\x7d']))).map _ = _
      rw [hread]
      rfl

/-- **A compact object is read as its members.** -/
theorem read?_compact (h : ∀ m ∈ members, Reads m.written m.value) :
    read? (String.ofList (compact members)) = some (.object (members.map Member.read)) := by
  have hlength : members.length < 2 * (compact members).length + 1 := by
    have := length_le_length_texts members
    rw [compact, List.length_append, List.length_cons]
    omega
  unfold read?
  rw [String.toList_ofList]
  dsimp only
  rw [readValue_compact h hlength]
  rfl

/-! ## 2. Objects and lists of scalars -/

/-- The member that binds a scalar to a name. -/
def Scalar.member (m : String × Scalar) : Member := ⟨m.1, m.2.written, m.2.value⟩

/-- Scalars bound to names, as a compact object. -/
def objectText (members : List (String × Scalar)) : String :=
  String.ofList (compact (members.map Scalar.member))

theorem read?_objectText (members : List (String × Scalar)) :
    read? (objectText members) =
      some (.object (members.map fun m => (Scalar.member m).read)) := by
  have hreads : ∀ m ∈ members.map Scalar.member, Reads m.written m.value := fun m hm => by
    obtain ⟨x, -, rfl⟩ := List.mem_map.mp hm
    exact x.2.reads
  rw [objectText, read?_compact hreads, List.map_map]
  rfl

namespace Scalar

/-- Items as they are written. -/
def texts (items : List Scalar) : List Char := List.intercalate [','] (items.map written)

theorem texts_singleton (x : Scalar) : texts [x] = x.written := List.intercalate_singleton

theorem texts_cons_cons (x y : Scalar) (items : List Scalar) :
    texts (x :: y :: items) = x.written ++ ',' :: texts (y :: items) := by
  show List.intercalate _ _ = _
  rw [List.map_cons, List.map_cons, List.intercalate_cons_cons, List.append_assoc]
  rfl

/-- Items begin as the first one does. -/
theorem exists_texts_cons (x : Scalar) (items : List Scalar) :
    ∃ c more, texts (x :: items) = c :: more ∧ isBlank c = false ∧ c ≠ ']' := by
  obtain ⟨c, more, hx, hblank, hc⟩ := x.exists_written_cons
  cases items with
  | nil => exact ⟨c, more, (texts_singleton x).trans hx, hblank, hc⟩
  | cons y items =>
      rw [texts_cons_cons, hx]
      exact ⟨c, _, rfl, hblank, hc⟩

end Scalar

/-- Scalars as a compact list. -/
def listText (items : List Scalar) : String :=
  String.ofList ('[' :: Scalar.texts items ++ [']'])

theorem readItems_last (x : Scalar) (fuel : Nat) (rest : List Char) :
    readItems (fuel + 2) (x.written ++ ']' :: rest) = some ([x.value], rest) := by
  rw [readItems, x.reads fuel _ (delimits_cons (by decide) rest)]
  rfl

theorem readItems_cons (x : Scalar) (fuel : Nat) (rest : List Char) :
    readItems (fuel + 2) (x.written ++ ',' :: rest) =
      (readItems (fuel + 1) rest).map fun r => (x.value :: r.1, r.2) := by
  rw [readItems, x.reads fuel _ (delimits_cons (by decide) rest)]
  rfl

/-- **Items that are written are read in their order**, with a step more than there are items. -/
theorem readItems_texts {items : List Scalar} (any : items ≠ []) {fuel : Nat}
    (enough : items.length < fuel) (rest : List Char) :
    readItems fuel (Scalar.texts items ++ ']' :: rest) = some (items.map Scalar.value, rest) := by
  induction items generalizing fuel with
  | nil => exact absurd rfl any
  | cons x items ih =>
      rw [List.length_cons] at enough
      obtain ⟨fuel, rfl⟩ : ∃ n, fuel = n + 2 := ⟨fuel - 2, by omega⟩
      cases items with
      | nil =>
          rw [Scalar.texts_singleton]
          exact readItems_last x fuel rest
      | cons y items =>
          have fewer : (y :: items).length < fuel + 1 := by omega
          have hrest := ih (List.cons_ne_nil y items) fewer
          rw [Scalar.texts_cons_cons, List.append_assoc, List.cons_append, readItems_cons, hrest]
          rfl

/-- A text of items is shorter than their number by one at most. -/
theorem length_le_length_itemTexts (items : List Scalar) :
    items.length ≤ (Scalar.texts items).length + 1 := by
  induction items with
  | nil => exact Nat.zero_le _
  | cons x items ih =>
      cases items with
      | nil => exact Nat.le_add_left 1 _
      | cons y items =>
          rw [Scalar.texts_cons_cons]
          simp only [List.length_append, List.length_cons] at ih ⊢
          omega

theorem readValue_itemTexts {items : List Scalar} {fuel : Nat} (enough : items.length < fuel) :
    readValue (fuel + 1) ('[' :: Scalar.texts items ++ [']']) =
      some (.list (items.map Scalar.value), []) := by
  rw [readValue, List.cons_append, skipBlank_cons (by decide)]
  cases items with
  | nil => rfl
  | cons x items =>
      have hread := readItems_texts (List.cons_ne_nil x items) enough []
      obtain ⟨c, more, htexts, hblank, hc⟩ := Scalar.exists_texts_cons x items
      rw [htexts, List.cons_append] at hread ⊢
      simp only [skipBlank_cons hblank]
      -- the list does not end here, as its first item begins
      split
      · rename_i heq
        exact absurd (List.cons.inj heq).1 hc
      · rw [hread]
        rfl

/-- **A compact list is read as its items.** -/
theorem read?_listText (items : List Scalar) :
    read? (listText items) = some (.list (items.map Scalar.value)) := by
  have hlength : items.length < 2 * ('[' :: Scalar.texts items ++ [']']).length + 1 := by
    have := length_le_length_itemTexts items
    rw [List.length_append, List.length_cons]
    omega
  unfold read? listText
  rw [String.toList_ofList]
  dsimp only
  rw [readValue_itemTexts hlength]
  rfl

end Courier.Json
