import Courier.Proofs.Uniformity

/-!
# Taking a body chunk by chunk

Whoever holds a response may ask its body for chunks, as often as they like, and then hand it over
or have the rest gathered. Call number `i` gives item number `i` of the body, and where there is
none it gives nothing (`Body.getElem?_takeChunks`); what is left are the items behind
(`Body.items_takeChunks`). So nothing is lost and nothing is given twice, wherever the body is
handed over, and a fault ends it no more than a chunk does.

Gathering is such a run of calls as well (`Body.Gathers`). It stops at the first fault and leaves
what stands behind it (`Body.gathers_gather`).
-/

namespace Courier

namespace Body

/-! ## 1. Calls for a chunk -/

/-- What `n` calls for a chunk give, one after the other, and the body that is left. -/
def takeChunks : Nat → Body → List (Option Item) × Body
  | 0, b => ([], b)
  | n + 1, b =>
    let later := takeChunks n b.chunk.2
    (b.chunk.1 :: later.1, later.2)

variable (b : Body)

/-- **What is left are the items behind those that were given.** -/
theorem items_takeChunks (n : Nat) : (b.takeChunks n).2.items = b.items.drop n := by
  induction n generalizing b with
  | zero => rfl
  | succ n ih =>
      show (b.chunk.2.takeChunks n).2.items = _
      rw [ih, b.items_chunk.2, List.drop_tail]

theorem length_takeChunks (n : Nat) : (b.takeChunks n).1.length = n := by
  induction n generalizing b with
  | zero => rfl
  | succ n ih => exact congrArg (· + 1) (ih b.chunk.2)

/-- **Call number `i` gives item number `i`**, and nothing where there is none. -/
theorem getElem?_takeChunks {n i : Nat} (h : i < n) :
    (b.takeChunks n).1[i]? = some b.items[i]? := by
  induction n generalizing b i with
  | zero => exact absurd h (Nat.not_lt_zero i)
  | succ n ih =>
      obtain ⟨hhead, htail⟩ := b.items_chunk
      cases i with
      | zero => exact congrArg some (hhead.trans List.head?_eq_getElem?)
      | succ i =>
          show (b.chunk.2.takeChunks n).1[i]? = _
          rw [ih b.chunk.2 (Nat.lt_of_succ_lt_succ h), htail, List.getElem?_tail]

/-- The items that are given are the first ones. -/
theorem filterMap_takeChunks (n : Nat) : (b.takeChunks n).1.filterMap id = b.items.take n := by
  induction n generalizing b with
  | zero => rfl
  | succ n ih =>
      obtain ⟨hhead, htail⟩ := b.items_chunk
      show (b.chunk.1 :: (b.chunk.2.takeChunks n).1).filterMap id = _
      rw [hhead]
      have hlater := ih b.chunk.2
      rw [htail] at hlater
      cases hitems : b.items with
      | nil =>
          rw [hitems, List.tail_nil, List.take_nil] at hlater
          exact hlater
      | cons item rest =>
          rw [hitems] at hlater
          exact congrArg (item :: ·) hlater

/-! ## 2. Gathering by calls -/

/-- A run of calls that gathers a body: what it comes to, and the body that it leaves. It goes on while
    there are chunks, and stops at a fault. -/
inductive Gathers : Body → Except Fault Bytes → Body → Prop
  | ended {b : Body} (h : b.chunk.1 = none) : Gathers b (.ok []) b.chunk.2
  | broken {b : Body} {fault : Fault} (h : b.chunk.1 = some (.fault fault)) :
      Gathers b (.error fault) b.chunk.2
  | more {b left : Body} {bytes : Bytes} {result : Except Fault Bytes}
      (h : b.chunk.1 = some (.bytes bytes)) (later : Gathers b.chunk.2 result left) :
      Gathers b (result.map (bytes ++ ·)) left

/-- **A body is gathered by such a run**, which leaves the items that were not taken. -/
theorem gathers_gather :
    ∃ left, b.Gathers (gather b.items).1 left ∧ left.items = b.items.drop (gather b.items).2 := by
  generalize hitems : b.items = items
  induction items generalizing b with
  | nil =>
      obtain ⟨hhead, htail⟩ := b.items_chunk
      rw [hitems] at hhead htail
      exact ⟨b.chunk.2, .ended hhead, htail⟩
  | cons item rest ih =>
      obtain ⟨hhead, htail⟩ := b.items_chunk
      rw [hitems] at hhead htail
      cases item with
      | fault fault => exact ⟨b.chunk.2, .broken hhead, htail⟩
      | bytes bytes =>
          obtain ⟨left, hrun, hleft⟩ := ih b.chunk.2 htail
          exact ⟨left, .more hhead hrun, hleft⟩

end Body

namespace Response

/-! ## 3. Responses -/

/-- What `n` calls on the body of a response give, and the response afterwards. -/
def takeChunks (n : Nat) (r : Response) : List (Option Item) × Response :=
  ((r.body.takeChunks n).1, { r with body := (r.body.takeChunks n).2 })

/-- What becomes of a response whose body is asked for `n` chunks. -/
structure Conserved (r : Response) (n : Nat) : Prop where
  /-- What the calls give and then what the body has left are its items, in order. -/
  items : let taken := r.takeChunks n
    taken.1.filterMap id ++ taken.2.body.items = r.body.items
  /-- What it has left is given by further calls. -/
  onward : ∀ k, r.body.items.length ≤ n + k →
    let taken := r.takeChunks n
    let later := taken.2.body.takeChunks k
    taken.1.filterMap id ++ later.1.filterMap id = r.body.items ∧ later.2.items = []
  /-- There is an answer to each call. It is an item as long as there are any, be they chunks or
      faults, and nothing from then on. -/
  each : (r.takeChunks n).1.length = n ∧
    ∀ i < n, (r.takeChunks n).1[i]? = some r.body.items[i]?
  /-- Behind a call that gave nothing, every other gives nothing. -/
  ended : ∀ i j, i ≤ j → j < n → (r.takeChunks n).1[i]? = some none →
    (r.takeChunks n).1[j]? = some none
  /-- What is left may be gathered. Without a fault among it, this gives all its chunks. Otherwise it
      gives the first fault, and leaves whatever stands behind it. -/
  gathered : let rest := (r.takeChunks n).2
    ∃ left, rest.body.Gathers rest.bytes left ∧
      ((∃ chunks : List Bytes, rest.body.items = chunks.map .bytes ∧
          rest.bytes = .ok chunks.flatten ∧ left.items = []) ∨
        ∃ (chunks : List Bytes) (fault : Fault) (behind : List Item),
          rest.body.items = chunks.map .bytes ++ .fault fault :: behind ∧
          rest.bytes = .error fault ∧ left.items = behind)

/-- **Conservation.** However many chunks a body is asked for by hand, be it held or arriving, with
    empty chunks or faults anywhere: nothing is lost, and nothing is given twice. -/
theorem conservation (r : Response) (n : Nat) : r.Conserved n where
  items := by
    show (r.body.takeChunks n).1.filterMap id ++ (r.body.takeChunks n).2.items = _
    rw [Body.filterMap_takeChunks, Body.items_takeChunks, List.take_append_drop]
  onward k hk := by
    show (r.body.takeChunks n).1.filterMap id ++
        ((r.body.takeChunks n).2.takeChunks k).1.filterMap id = _ ∧
      ((r.body.takeChunks n).2.takeChunks k).2.items = []
    have hrest : (r.body.items.drop n).length ≤ k := by
      rw [List.length_drop]
      omega
    rw [Body.filterMap_takeChunks, Body.filterMap_takeChunks, Body.items_takeChunks,
      Body.items_takeChunks, Body.items_takeChunks]
    rw [List.take_of_length_le hrest, List.take_append_drop]
    exact ⟨rfl, List.drop_eq_nil_of_le hrest⟩
  each := ⟨r.body.length_takeChunks n, fun i hi => r.body.getElem?_takeChunks hi⟩
  ended i j hij hj h := by
    have hi : some r.body.items[i]? = some none :=
      (r.body.getElem?_takeChunks (Nat.lt_of_le_of_lt hij hj)).symm.trans h
    have hend := List.getElem?_eq_none_iff.mp (Option.some.inj hi)
    refine (r.body.getElem?_takeChunks hj).trans (congrArg some ?_)
    exact List.getElem?_eq_none_iff.mpr (Nat.le_trans hend hij)
  gathered := by
    intro rest
    obtain ⟨left, hrun, hleft⟩ := rest.body.gathers_gather
    refine ⟨left, hrun, ?_⟩
    have hbytes : rest.bytes = (gather rest.body.items).1 := rfl
    rw [gather_eq] at hbytes hleft
    obtain ⟨behind, hitems, hhead⟩ := items_eq rest.body.items
    cases hfault : firstFault? rest.body.items with
    | none =>
        rw [hfault] at hbytes hleft hhead
        rw [List.head?_eq_none_iff.mp hhead, List.append_nil] at hitems
        refine .inl ⟨_, hitems, ?_, ?_⟩
        · rw [hbytes, flatten_chunksBeforeFault]
        · rw [hleft, length_chunksBeforeFault hfault, List.drop_length]
    | some fault =>
        rw [hfault] at hbytes hleft hhead
        obtain ⟨behind, rfl⟩ := List.head?_eq_some_iff.mp hhead
        refine .inr ⟨_, fault, behind, hitems, hbytes, ?_⟩
        dsimp only at hleft
        rw [hleft]
        generalize chunksBeforeFault rest.body.items = chunks at hitems
        have hlength : (chunks.map Item.bytes).length = chunks.length := List.length_map _
        rw [hitems, ← hlength, List.drop_length_add_append]
        rfl

end Response

end Courier
