import Courier.Group.Join
import Mathlib.Data.List.Sort

/-!
# One value or one failure for a group

Joined results are a value just where every result is one (`join_eq_ok_iff`), and otherwise the
failure that lists the failures among them, each with its index (`join_eq_error_iff`,
`mem_failuresFrom`). The list is in order, and nothing else than its entries and their order tells
it (`join_eq_group_iff`).

Results can be joined in one pass that adds up values and failures (`Pass.through`), and so part by
part: the failures of a part behind others are listed with higher indexes (`join_append`).
-/

namespace Courier.Group

variable {α : Type} {results : List (Except Failure α)} {i j : Nat} {failure : Failure}

/-! ## 1. The failures among results -/

/-- **Each failure is listed with its index, and nothing else is.** -/
theorem mem_failuresFrom :
    (j, failure) ∈ failuresFrom i results ↔
      ∃ l, results[l]? = some (.error failure) ∧ j = i + l := by
  induction results generalizing i with
  | nil => simp [failuresFrom]
  | cons result rest ih =>
    rw [← Nat.or_exists_add_one]
    simp only [List.getElem?_cons_zero, List.getElem?_cons_succ, Nat.add_zero, ← Nat.add_assoc,
      Nat.add_right_comm i _ 1]
    rw [← ih]
    cases result with
    | ok a => simp [failuresFrom]
    | error first => simp [failuresFrom, and_comm, eq_comm]

theorem failuresFrom_map_ok (i : Nat) (as : List α) : failuresFrom i (as.map .ok) = [] := by
  induction as generalizing i with
  | nil => rfl
  | cons a as ih => exact ih (i + 1)

theorem values_map_ok (as : List α) : values (as.map .ok) = as := by
  induction as with
  | nil => rfl
  | cons a as ih => exact congrArg (a :: ·) ih

/-- Results without a failure among them are values. -/
theorem eq_map_ok_of_failuresFrom (h : failuresFrom i results = []) :
    results = (values results).map .ok := by
  induction results generalizing i with
  | nil => rfl
  | cons result rest ih =>
    cases result with
    | ok a => exact congrArg (Except.ok a :: ·) (ih h)
    | error failure => cases h

/-- Where every result is the same failure, it is listed once for each. -/
theorem failuresFrom_replicate (i n : Nat) (failure : Failure) :
    failuresFrom i (List.replicate n (.error failure : Except Failure α)) =
      (List.range' i n).map fun j => (j, failure) := by
  induction n generalizing i with
  | zero => rfl
  | succ n ih =>
    rw [List.replicate_succ, failuresFrom, ih, List.range'_succ]
    rfl

/-! ## 2. Joining -/

/-- **Joined results are a value just where every result is one.** -/
theorem join_eq_ok_iff {as : List α} : join results = .ok as ↔ results = as.map .ok := by
  constructor
  · intro h
    unfold join at h
    split at h
    · rename_i hnone
      cases h
      exact eq_map_ok_of_failuresFrom hnone
    · cases h
  · rintro rfl
    rw [join, failuresFrom_map_ok, values_map_ok]

/-- **Otherwise they are the failure that lists those among them.** -/
theorem join_eq_error_iff :
    join results = .error failure ↔
      failuresFrom 0 results ≠ [] ∧ failure = .group (failuresFrom 0 results) := by
  unfold join
  split
  · rename_i hnone
    simp [hnone]
  · rename_i hsome
    constructor
    · intro h
      cases h
      exact ⟨fun hnone => hsome hnone, rfl⟩
    · rintro ⟨-, rfl⟩
      rfl

/-- The failure of joined results has an entry just where a result is a failure. -/
theorem mem_of_join {members : List (Nat × Failure)}
    (h : join results = .error (.group members)) :
    (i, failure) ∈ members ↔ results[i]? = some (.error failure) := by
  obtain ⟨-, hmembers⟩ := join_eq_error_iff.mp h
  cases hmembers
  simp [mem_failuresFrom]

/-- Joined results are a failure just where one of them is. -/
theorem exists_join_eq_error_iff :
    (∃ failure, join results = .error failure) ↔
      ∃ (i : Nat) (failure : Failure), results[i]? = some (.error failure) := by
  constructor
  · rintro ⟨failure, h⟩
    obtain ⟨hne, -⟩ := join_eq_error_iff.mp h
    obtain ⟨⟨i, entry⟩, hmem⟩ := List.exists_mem_of_ne_nil _ hne
    obtain ⟨l, hl, -⟩ := mem_failuresFrom.mp hmem
    exact ⟨l, entry, hl⟩
  · rintro ⟨i, failure, hi⟩
    have hmem : (i, failure) ∈ failuresFrom 0 results :=
      mem_failuresFrom.mpr ⟨i, hi, (Nat.zero_add i).symm⟩
    exact ⟨_, join_eq_error_iff.mpr ⟨List.ne_nil_of_mem hmem, rfl⟩⟩

/-- The same failure throughout is listed with every index, if there is any. -/
theorem join_replicate (n : Nat) (failure : Failure) :
    join (List.replicate n (.error failure : Except Failure α)) =
      if n = 0 then .ok [] else .error (.group ((List.range n).map fun i => (i, failure))) := by
  have hfailures : failuresFrom 0 (List.replicate n (.error failure : Except Failure α)) =
      (List.range n).map fun i => (i, failure) := by
    rw [failuresFrom_replicate, List.range_eq_range']
  split
  · rename_i hn
    subst hn
    rfl
  · rename_i hn
    refine join_eq_error_iff.mpr ⟨?_, by rw [hfailures]⟩
    rw [hfailures, Ne, List.map_eq_nil_iff, List.range_eq_nil]
    exact hn

/-! ## 3. The order of the failures -/

/-- The entry with the lower index. -/
def Before (a b : Nat × Failure) : Prop := a.1 < b.1

instance : Std.Irrefl Before where
  irrefl a := Nat.lt_irrefl a.1

instance : Std.Antisymm Before where
  antisymm _ _ h h' := absurd (Nat.lt_trans h h') (Nat.lt_irrefl _)

/-- The failures are listed in the order of their indexes, and no index twice. -/
theorem pairwise_failuresFrom (i : Nat) (results : List (Except Failure α)) :
    (failuresFrom i results).Pairwise Before := by
  induction results generalizing i with
  | nil => exact .nil
  | cons result rest ih =>
      cases result with
      | ok a => exact ih (i + 1)
      | error first =>
          refine List.pairwise_cons.mpr ⟨fun ⟨j, failure⟩ hmem => ?_, ih (i + 1)⟩
          obtain ⟨l, -, rfl⟩ := mem_failuresFrom.mp hmem
          show i < i + 1 + l
          omega

/-- **The failure of joined results is told by its entries and their order**: there is one, they
    are in the order of their indexes, and they are the failures among the results. -/
theorem join_eq_group_iff {members : List (Nat × Failure)} :
    join results = .error (.group members) ↔
      members ≠ [] ∧ members.Pairwise Before ∧
        ∀ i failure, (i, failure) ∈ members ↔ results[i]? = some (.error failure) := by
  have hlisted : ∀ i failure, (i, failure) ∈ failuresFrom 0 results ↔
      results[i]? = some (.error failure) := fun i failure => by
    simp [mem_failuresFrom]
  rw [join_eq_error_iff]
  constructor
  · rintro ⟨hne, heq⟩
    cases heq
    exact ⟨hne, pairwise_failuresFrom 0 results, hlisted⟩
  · rintro ⟨hne, hordered, hmem⟩
    obtain rfl : members = failuresFrom 0 results :=
      hordered.eq_of_mem_iff (pairwise_failuresFrom 0 results) fun ⟨i, failure⟩ =>
        (hmem i failure).trans (hlisted i failure).symm
    exact ⟨hne, rfl⟩

/-! ## 4. One pass -/

/-- A pass over results, as far as it has come. -/
structure Pass (α : Type) where
  /-- The index of the next result. -/
  index : Nat := 0
  /-- The values so far. -/
  values : List α := []
  /-- The failures so far, with their indexes. -/
  failures : List (Nat × Failure) := []

namespace Pass

/-- The pass goes on by one result. -/
def next (p : Pass α) : Except Failure α → Pass α
  | .ok a => { p with index := p.index + 1, values := p.values ++ [a] }
  | .error failure =>
    { p with index := p.index + 1, failures := p.failures ++ [(p.index, failure)] }

/-- The pass goes on over a list of results. -/
def through (p : Pass α) (results : List (Except Failure α)) : Pass α := results.foldl next p

/-- What the pass comes to. -/
def joined (p : Pass α) : Except Failure (List α) :=
  match p.failures with
  | [] => .ok p.values
  | failures => .error (.group failures)

/-- **A pass adds the values and the failures of the results to those before.** -/
theorem through_eq (p : Pass α) (results : List (Except Failure α)) :
    p.through results =
      ⟨p.index + results.length, p.values ++ Group.values results,
        p.failures ++ failuresFrom p.index results⟩ := by
  unfold through
  induction results generalizing p with
  | nil => simp [Group.values, failuresFrom]
  | cons result rest ih =>
      rw [List.foldl_cons, ih]
      cases result with
      | ok a => simp [next, Group.values, failuresFrom, Nat.add_assoc, Nat.add_comm 1]
      | error failure => simp [next, Group.values, failuresFrom, Nat.add_assoc, Nat.add_comm 1]

end Pass

/-- **Results are joined by one pass.** -/
theorem join_eq_pass (results : List (Except Failure α)) :
    join results = (({} : Pass α).through results).joined := by
  rw [Pass.through_eq]
  rfl

/-! ## 5. Part by part -/

/-- An entry whose result stands behind `n` others. -/
def behind (n : Nat) (entry : Nat × Failure) : Nat × Failure := (n + entry.1, entry.2)

theorem failuresFrom_eq_map (i : Nat) (results : List (Except Failure α)) :
    failuresFrom i results = (failuresFrom 0 results).map (behind i) := by
  suffices h : ∀ j, failuresFrom (i + j) results = (failuresFrom j results).map (behind i) from
    h 0
  intro j
  induction results generalizing j with
  | nil => rfl
  | cons result rest ih =>
      cases result with
      | ok a => exact ih (j + 1)
      | error failure => exact congrArg ((i + j, failure) :: ·) (ih (j + 1))

theorem failuresFrom_append (xs ys : List (Except Failure α)) :
    failuresFrom 0 (xs ++ ys) =
      failuresFrom 0 xs ++ (failuresFrom 0 ys).map (behind xs.length) := by
  -- a pass over both parts is one over the first and then one over the second
  have hparts : ({} : Pass α).through (xs ++ ys) = (({} : Pass α).through xs).through ys :=
    List.foldl_append
  rw [Pass.through_eq, Pass.through_eq, Pass.through_eq, failuresFrom_eq_map _ ys] at hparts
  simpa using congrArg Pass.failures hparts

/-- The failures that joined results tell of. There are none in a value. -/
def told : Except Failure (List α) → List (Nat × Failure)
  | .error (.group members) => members
  | _ => []

theorem told_join (results : List (Except Failure α)) :
    told (join results) = failuresFrom 0 results := by
  unfold join
  split
  · rename_i hnone
    exact hnone.symm
  · rfl

/-- Two parts are joined to a value just where each of them is. -/
theorem join_append_eq_ok_iff {xs ys : List (Except Failure α)} {as : List α} :
    join (xs ++ ys) = .ok as ↔
      ∃ bs cs, join xs = .ok bs ∧ join ys = .ok cs ∧ as = bs ++ cs := by
  simp only [join_eq_ok_iff]
  constructor
  · intro h
    obtain ⟨bs, cs, rfl, rfl, rfl⟩ := List.append_eq_map_iff.mp h
    exact ⟨bs, cs, rfl, rfl, rfl⟩
  · rintro ⟨bs, cs, rfl, rfl, rfl⟩
    exact List.map_append.symm

/-- **Two parts are joined to their values, or to the failures of the first and those of the second
    behind it.** -/
theorem join_append (xs ys : List (Except Failure α)) :
    join (xs ++ ys) =
      match join xs, join ys with
      | .ok bs, .ok cs => .ok (bs ++ cs)
      | first, second => .error (.group (told first ++ (told second).map (behind xs.length))) := by
  have hfailures := failuresFrom_append xs ys
  rw [← told_join xs, ← told_join ys] at hfailures
  split
  · rename_i bs cs hxs hys
    exact join_append_eq_ok_iff.mpr ⟨bs, cs, hxs, hys, rfl⟩
  · rename_i hother
    refine join_eq_error_iff.mpr ⟨fun hnone => ?_, by rw [hfailures]⟩
    have hvalue : join (xs ++ ys) = .ok (values (xs ++ ys)) := by rw [join, hnone]
    obtain ⟨bs, cs, hxs, hys, -⟩ := join_append_eq_ok_iff.mp hvalue
    exact hother bs cs hxs hys

/-! ## 6. All of it -/

/-- What becomes of results that are joined. -/
structure Joined (results : List (Except Failure α)) : Prop where
  /-- They are one value just where no result is a failure. -/
  whole : (∃ as, join results = .ok as) ↔
    ∀ (i : Nat) (failure : Failure), results[i]? ≠ some (.error failure)
  /-- It is the list of all their values, in order. -/
  values : ∀ as, join results = .ok as ↔ results = as.map .ok
  /-- Otherwise they are the failure of a group. -/
  group : ∀ failure, join results = .error failure → ∃ members, failure = .group members
  /-- It has an entry, its indexes go up, and its entries are the failures among the results. -/
  members : ∀ members, join results = .error (.group members) ↔
    members ≠ [] ∧ members.Pairwise (fun a b => a.1 < b.1) ∧
      ∀ i failure, (i, failure) ∈ members ↔ results[i]? = some (.error failure)
  /-- One pass over them, which adds up the values, the failures and the index, comes to that. -/
  onePass : join results = (({} : Pass α).through results).joined
  /-- With others behind them they are one value just where both are, namely one list behind the
      other. -/
  wholeWith : ∀ rest as, join (results ++ rest) = .ok as ↔
    ∃ bs cs, join results = .ok bs ∧ join rest = .ok cs ∧ as = bs ++ cs
  /-- Otherwise the failures of these are listed, and then those of the others with their number
      added to each index. -/
  membersWith : ∀ rest failure, join (results ++ rest) = .error failure →
    failure = .group (told (join results) ++
      (told (join rest)).map fun entry => (results.length + entry.1, entry.2))

/-- **No result is lost by joining.** Results of any number come to their values, or to all the
    failures among them, each with its index; and they can be joined part by part. -/
theorem joining (results : List (Except Failure α)) : Joined results where
  whole := by
    have hfails : (∃ failure, join results = .error failure) ↔
        ∃ (i : Nat) (failure : Failure), results[i]? = some (.error failure) :=
      exists_join_eq_error_iff
    constructor
    · rintro ⟨as, has⟩ i failure hi
      obtain ⟨failure, h⟩ := hfails.mpr ⟨i, failure, hi⟩
      rw [has] at h
      cases h
    · intro hnone
      cases h : join results with
      | ok as => exact ⟨as, rfl⟩
      | error failure =>
          obtain ⟨i, failure, hi⟩ := hfails.mp ⟨failure, h⟩
          exact absurd hi (hnone i failure)
  values _ := join_eq_ok_iff
  group _ h := ⟨_, (join_eq_error_iff.mp h).2⟩
  members _ := join_eq_group_iff
  onePass := join_eq_pass results
  wholeWith _ _ := join_append_eq_ok_iff
  membersWith rest failure h := by
    rw [join_append] at h
    split at h
    · cases h
    · cases h
      rfl

end Courier.Group
