import Mathlib.Algebra.BigOperators.Group.List.Basic
import Mathlib.Algebra.Group.Action.Defs
import Mathlib.Algebra.GroupWithZero.Nat
import Mathlib.Algebra.Order.BigOperators.Group.List
import Mathlib.Algebra.Order.Group.Nat
import Mathlib.Data.List.Sort

/-!
# Timetables

When members begin and end that share a number of permits and get them in order. Member `i` takes
over the permit that is given back first of those that are not taken over yet; `k` permits are there
at the start. So member `i` begins at the value with index `i` among `k` times the start and the
ends of the members before it, put in ascending order (`Timetable`).

From this rule alone follow the times of the first members and of the others (`Timetable.early`,
`Timetable.late`), that members begin in order (`Timetable.first_mono`), that more permits delay
nobody (`Timetable.first_le`), and how long all of it takes when the durations are known
(`Timetable.sum_le`, `Timetable.le_sum`). What carries the last two is that the times at which
members begin are among the times at which permits are given back (`Timetable.exists_rest`).
-/

namespace Courier.Group

/-! ## 1. Places in ascending order -/

/-- The value with index `i`, counted from 0, of a list put in ascending order. -/
def nthSmallest? (l : List Nat) (i : Nat) : Option Nat := l.mergeSort[i]?

/-- A value may stand at index `i` of a list put in ascending order: no more than `i` values are
    smaller, and more than `i` are not greater. -/
def Ranked (l : List Nat) (i x : Nat) : Prop :=
  l.countP (· < x) ≤ i ∧ i < l.countP (· ≤ x)

theorem Ranked.perm {l l' : List Nat} {i x : Nat} (h : Ranked l i x) (p : l.Perm l') :
    Ranked l' i x := by
  unfold Ranked at h ⊢
  rw [← p.countP_eq, ← p.countP_eq]
  exact h

/-- Where one list has as many values up to any bound as the other, its value at an index that is
    no greater is no greater. -/
theorem Ranked.le {l l' : List Nat} {i i' x x' : Nat} (h : Ranked l i x) (h' : Ranked l' i' x')
    (more : ∀ v, l.countP (· ≤ v) ≤ l'.countP (· ≤ v)) (hi : i' ≤ i) : x' ≤ x := by
  by_contra hlt
  have hsmaller : l'.countP (· ≤ x) ≤ l'.countP (· < x') :=
    List.countP_mono_left fun y _ hy => by
      simp only [decide_eq_true_eq] at hy ⊢
      omega
  have hmore := more x
  have hlow := h'.1
  have hhigh := h.2
  omega

/-- Only one value stands at an index. -/
theorem Ranked.unique {l : List Nat} {i x x' : Nat} (h : Ranked l i x) (h' : Ranked l i x') :
    x = x' :=
  Nat.le_antisymm (h'.le h (fun _ => Nat.le_refl _) (Nat.le_refl i))
    (h.le h' (fun _ => Nat.le_refl _) (Nat.le_refl i))

/-- In an ascending list the value at an index may stand there. -/
theorem ranked_of_ascending {l : List Nat} (hl : l.Pairwise (· ≤ ·)) {i x : Nat}
    (hx : l[i]? = some x) : Ranked l i x := by
  induction l generalizing i with
  | nil => cases hx
  | cons y l ih =>
    obtain ⟨hy, hl⟩ := List.pairwise_cons.mp hl
    cases i with
    | zero =>
      obtain rfl : y = x := Option.some.inj hx
      have hnone : (y :: l).countP (· < y) = 0 :=
        List.countP_eq_zero.mpr fun z hz => by
          rcases List.mem_cons.mp hz with rfl | hz
          · simp
          · simpa using hy z hz
      have hself : 0 < (y :: l).countP (· ≤ y) :=
        List.countP_pos_iff.mpr ⟨y, List.mem_cons_self, by simp⟩
      exact ⟨Nat.le_of_eq hnone, hself⟩
    | succ i =>
      rw [List.getElem?_cons_succ] at hx
      obtain ⟨hlow, hhigh⟩ := ih hl hx
      have hyx : y ≤ x := hy x (List.mem_of_getElem? hx)
      unfold Ranked
      rw [List.countP_cons, List.countP_cons, if_pos (decide_eq_true hyx)]
      refine ⟨?_, Nat.succ_lt_succ hhigh⟩
      split <;> omega

/-- **The value at an index is the one that no more than so many are smaller than, and more are not
    greater than.** -/
theorem nthSmallest?_eq_some_iff {l : List Nat} {i x : Nat} :
    nthSmallest? l i = some x ↔ Ranked l i x := by
  have hperm : (l.mergeSort).Perm l := List.mergeSort_perm l _
  have hsorted : (l.mergeSort).Pairwise (· ≤ ·) := List.pairwise_mergeSort' (· ≤ ·) l
  constructor
  · intro h
    exact (ranked_of_ascending hsorted h).perm hperm
  · intro h
    have hlt : i < (l.mergeSort).length := by
      rw [hperm.length_eq]
      exact Nat.lt_of_lt_of_le h.2 List.countP_le_length
    have hget : (l.mergeSort)[i]? = some (l.mergeSort)[i] := List.getElem?_eq_getElem hlt
    have hself := (ranked_of_ascending hsorted hget).perm hperm
    rw [nthSmallest?, hget, hself.unique h]

/-! ## 2. Timetables -/

/-- When `n` members begin and end that share `k` permits from a start on and get them in order. -/
structure Timetable (k start n : Nat) (first last : Nat → Nat) : Prop where
  /-- Nobody begins before the start. -/
  start_le : ∀ i < n, start ≤ first i
  /-- Nobody ends before it has begun. -/
  first_le_last : ∀ i < n, first i ≤ last i
  /-- Member `i` takes over permit number `i` of those that are given back, the `k` first ones being
      there at the start. -/
  ranked : ∀ i < n, Ranked (List.replicate k start ++ (List.range i).map last) i (first i)

namespace Timetable

variable {k k' start n : Nat} {first last first' last' : Nat → Nat}

theorem take (h : Timetable k start n first last) {n' : Nat} (hn : n' ≤ n) :
    Timetable k start n' first last where
  start_le i hi := h.start_le i (Nat.lt_of_lt_of_le hi hn)
  first_le_last i hi := h.first_le_last i (Nat.lt_of_lt_of_le hi hn)
  ranked i hi := h.ranked i (Nat.lt_of_lt_of_le hi hn)

theorem start_le_last (h : Timetable k start n first last) {i : Nat} (hi : i < n) :
    start ≤ last i := Nat.le_trans (h.start_le i hi) (h.first_le_last i hi)

theorem countP_permits (p : Nat → Bool) (l : List Nat) :
    (List.replicate k start ++ l).countP p = (if p start then k else 0) + l.countP p := by
  rw [List.countP_append, List.countP_replicate]

/-- **As many members as there are permits begin at the start.** -/
theorem early (h : Timetable k start n first last) {i : Nat} (hi : i < n) (hk : i < k) :
    first i = start := by
  refine Nat.le_antisymm ?_ (h.start_le i hi)
  by_contra hlt
  have hlow := (h.ranked i hi).1
  rw [countP_permits, if_pos (by simpa using hlt)] at hlow
  omega

/-- **Any other member begins when one of those before it ends**: the first at the first end, the
    next at the next, ends at the same time counted one by one. -/
theorem late (h : Timetable k start n first last) {i : Nat} (hi : i < n) (hk : k ≤ i) :
    nthSmallest? ((List.range i).map last) (i - k) = some (first i) := by
  rw [nthSmallest?_eq_some_iff]
  obtain ⟨hlow, hhigh⟩ := h.ranked i hi
  rw [countP_permits] at hlow hhigh
  rw [if_pos (decide_eq_true (h.start_le i hi))] at hhigh
  refine ⟨?_, by omega⟩
  rcases Nat.eq_or_lt_of_le (h.start_le i hi) with heq | hlt
  · -- nobody ends before the start
    have hnone : ((List.range i).map last).countP (· < first i) = 0 :=
      List.countP_eq_zero.mpr fun e he => by
        obtain ⟨j, hj, rfl⟩ := List.mem_map.mp he
        have := h.start_le_last (Nat.lt_trans (List.mem_range.mp hj) hi)
        simp only [decide_eq_true_eq]
        omega
    rw [hnone]
    exact Nat.zero_le _
  · rw [if_pos (decide_eq_true hlt)] at hlow
    omega

theorem first_le_succ (h : Timetable k start n first last) {i : Nat} (hi : i + 1 < n) :
    first i ≤ first (i + 1) := by
  by_contra hlt
  have hlow := (h.ranked i (Nat.lt_of_succ_lt hi)).1
  have hhigh := (h.ranked (i + 1) hi).2
  have hlast := h.first_le_last i (Nat.lt_of_succ_lt hi)
  rw [List.range_succ, List.map_append, List.map_singleton, ← List.append_assoc,
    List.countP_append, List.countP_singleton, if_neg (by simp; omega)] at hhigh
  have hsmaller : (List.replicate k start ++ (List.range i).map last).countP (· ≤ first (i + 1)) ≤
      (List.replicate k start ++ (List.range i).map last).countP (· < first i) :=
    List.countP_mono_left fun y _ hy => by
      simp only [decide_eq_true_eq] at hy ⊢
      omega
  omega

/-- **Members begin in order.** -/
theorem first_mono (h : Timetable k start n first last) {i j : Nat} (hij : i ≤ j) (hj : j < n) :
    first i ≤ first j := by
  induction hij with
  | refl => exact Nat.le_refl _
  | step hij ih => exact Nat.le_trans (ih (Nat.lt_of_succ_lt hj)) (h.first_le_succ hj)

/-- **More permits delay nobody**, where everybody takes as long as before. -/
theorem first_le (h : Timetable k start n first last) (h' : Timetable k' start n first' last')
    (hk : k ≤ k') {lasting : Nat → Nat} (hlast : ∀ i < n, last i = first i + lasting i)
    (hlast' : ∀ i < n, last' i = first' i + lasting i) {i : Nat} (hi : i < n) :
    first' i ≤ first i := by
  -- over the members before `i`: none of them begins later than it would, so none ends later
  induction i using Nat.strong_induction_on with
  | _ i ih =>
    refine (h.ranked i hi).le (h'.ranked i hi) (fun v => ?_) (Nat.le_refl i)
    rw [countP_permits, countP_permits, List.countP_map, List.countP_map]
    have hpermits : (if decide (start ≤ v) then k else 0) ≤
        if decide (start ≤ v) then k' else 0 := by
      split
      · exact hk
      · exact Nat.le_refl 0
    refine Nat.add_le_add hpermits (List.countP_mono_left fun j hj hv => ?_)
    have hj := List.mem_range.mp hj
    have hjn := Nat.lt_trans hj hi
    have hfirst := ih j hj hjn
    have hj1 := hlast j hjn
    have hj2 := hlast' j hjn
    simp only [Function.comp_apply, decide_eq_true_eq] at hv ⊢
    omega

/-! ## 3. Permits that are given back -/

/-- **The times at which members begin are among the times at which permits are given back**, and
    what is left is no earlier. -/
theorem exists_rest (h : Timetable k start n first last) :
    ∃ rest, ((List.range n).map first ++ rest).Perm
        (List.replicate k start ++ (List.range n).map last) ∧
      ∀ x ∈ rest, ∀ i < n, first i ≤ x := by
  induction n with
  | zero => exact ⟨List.replicate k start, by simp, fun _ _ i hi => absurd hi (Nat.not_lt_zero i)⟩
  | succ n ih =>
    obtain ⟨rest, hperm, hrest⟩ := ih (h.take (Nat.le_succ n))
    have hranked := (h.ranked n (Nat.lt_succ_self n)).perm hperm.symm
    obtain ⟨hlow, hhigh⟩ := hranked
    have hlength : ((List.range n).map first).length = n := by simp
    -- all who began before did so no later than any time that is left
    have hleast : ∀ x ∈ rest, first n ≤ x := by
      intro x hx
      by_contra hlt
      have hall : ((List.range n).map first).countP (· < first n) = n := by
        rw [List.countP_eq_length.mpr, hlength]
        intro y hy
        obtain ⟨i, hi, rfl⟩ := List.mem_map.mp hy
        have := hrest x hx i (List.mem_range.mp hi)
        simp only [decide_eq_true_eq]
        omega
      have hsome : 0 < rest.countP (· < first n) :=
        List.countP_pos_iff.mpr ⟨x, hx, by simpa using hlt⟩
      rw [List.countP_append, hall] at hlow
      omega
    have hmem : first n ∈ rest := by
      have hle : ((List.range n).map first).countP (· ≤ first n) ≤ n := by
        rw [← hlength]
        exact List.countP_le_length.trans (by simp)
      have hsome : 0 < rest.countP (· ≤ first n) := by
        rw [List.countP_append] at hhigh
        omega
      obtain ⟨x, hx, hxn⟩ := List.countP_pos_iff.mp hsome
      have hxn : x ≤ first n := by simpa using hxn
      rw [Nat.le_antisymm (hleast x hx) hxn]
      exact hx
    refine ⟨rest.erase (first n) ++ [last n], ?_, fun x hx i hi => ?_⟩
    · rw [List.range_succ, List.map_append, List.map_append, List.map_singleton,
        List.map_singleton, ← List.append_assoc, ← List.append_assoc]
      refine List.Perm.append_right _ ?_
      rw [List.append_assoc, List.singleton_append]
      exact ((List.perm_cons_erase hmem).symm.append_left _).trans hperm
    · have hin : first i ≤ first n := h.first_mono (Nat.le_of_lt_succ hi) (Nat.lt_succ_self n)
      rcases List.mem_append.mp hx with hx | hx
      · exact Nat.le_trans hin (hleast x (List.mem_of_mem_erase hx))
      · rw [List.mem_singleton.mp hx]
        exact Nat.le_trans hin (h.first_le_last n (Nat.lt_succ_self n))

/-! ## 4. How long it takes -/

section Durations

variable {lasting : Nat → Nat} {time longest : Nat}

/-- **The permits that are left at the end were given back after all the durations together**,
    counted from the start of each. -/
theorem exists_rest_of_lasting (h : Timetable k start n first last)
    (hlast : ∀ i < n, last i = first i + lasting i) :
    ∃ rest, rest.length = k ∧ rest.sum = k * start + ((List.range n).map lasting).sum ∧
      (∀ x ∈ rest, ∀ i < n, first i ≤ x) ∧
      ((List.range n).map first ++ rest).Perm
        (List.replicate k start ++ (List.range n).map last) := by
  obtain ⟨rest, hperm, hrest⟩ := h.exists_rest
  refine ⟨rest, ?_, ?_, hrest, hperm⟩
  · have hlength := hperm.length_eq
    simp only [List.length_append, List.length_map, List.length_range, List.length_replicate]
      at hlength
    omega
  · have hsum := hperm.sum_eq
    have hends : ((List.range n).map last).sum =
        ((List.range n).map first).sum + ((List.range n).map lasting).sum := by
      rw [← List.sum_map_add]
      exact congrArg List.sum (List.map_congr_left fun i hi => hlast i (List.mem_range.mp hi))
    rw [List.sum_append, List.sum_append, List.sum_replicate, smul_eq_mul, hends] at hsum
    omega

/-- **So many permits do in this time at least what there is to do.** -/
theorem sum_le (h : Timetable k start n first last)
    (hlast : ∀ i < n, last i = first i + lasting i) (inTime : ∀ i < n, last i ≤ start + time) :
    ((List.range n).map lasting).sum ≤ k * time := by
  obtain ⟨rest, hlength, hsum, -, hperm⟩ := h.exists_rest_of_lasting hlast
  have hbound : ∀ x ∈ rest, x ≤ start + time := by
    intro x hx
    have hmem := hperm.mem_iff.mp (List.mem_append_right _ hx)
    rcases List.mem_append.mp hmem with hx | hx
    · rw [List.eq_of_mem_replicate hx]
      exact Nat.le_add_right start time
    · obtain ⟨i, hi, rfl⟩ := List.mem_map.mp hx
      exact inTime i (List.mem_range.mp hi)
  have hle := List.sum_le_card_nsmul rest (start + time) hbound
  rw [hlength, hsum, smul_eq_mul, Nat.mul_add] at hle
  omega

/-- **Permits are idle only while the last member is at work.** -/
theorem le_sum (h : Timetable k start n first last) (pos : 0 < k)
    (hlast : ∀ i < n, last i = first i + lasting i)
    (reached : time = 0 ∨ ∃ i < n, last i = start + time) (hlong : ∀ i < n, lasting i ≤ longest) :
    k * time ≤ ((List.range n).map lasting).sum + (k - 1) * longest := by
  rcases reached with rfl | ⟨i, hi, hend⟩
  · exact Nat.zero_le _
  obtain ⟨rest, hlength, hsum, hrest, hperm⟩ := h.exists_rest_of_lasting hlast
  -- one permit is left at the end, and no other was given back before member `i` began
  obtain ⟨x, hx, hlate⟩ : ∃ x ∈ rest, start + time ≤ x := by
    have hmem : last i ∈ (List.range n).map first ++ rest :=
      hperm.mem_iff.mpr (List.mem_append_right _ (List.mem_map_of_mem (List.mem_range.mpr hi)))
    rcases List.mem_append.mp hmem with hmem | hmem
    · obtain ⟨j, hj, hfirst⟩ := List.mem_map.mp hmem
      obtain ⟨x, hx⟩ := List.exists_mem_of_length_pos (l := rest) (by omega)
      have := hrest x hx j (List.mem_range.mp hj)
      exact ⟨x, hx, by omega⟩
    · exact ⟨last i, hmem, Nat.le_of_eq hend.symm⟩
  have hothers := List.card_nsmul_le_sum (rest.erase x) (first i) fun y hy =>
    hrest y (List.mem_of_mem_erase hy) i hi
  have hsplit : rest.sum = x + (rest.erase x).sum := by
    rw [(List.perm_cons_erase hx).sum_eq, List.sum_cons]
  rw [List.length_erase_of_mem hx, hlength, smul_eq_mul] at hothers
  have hfirst : first i + lasting i = start + time := by
    rw [← hlast i hi, hend]
  have hwork : (k - 1) * first i + (k - 1) * lasting i = (k - 1) * (start + time) := by
    rw [← Nat.mul_add, hfirst]
  have hall : (start + time) + (k - 1) * (start + time) = k * start + k * time := by
    rw [← Nat.mul_add, Nat.add_comm, ← Nat.succ_mul, Nat.succ_eq_add_one, Nat.sub_add_cancel pos]
  have hmore := Nat.mul_le_mul_left (k - 1) (hlong i hi)
  omega

end Durations

end Timetable

end Courier.Group
