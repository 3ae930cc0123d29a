import Courier.Failure
import Courier.Proofs.Text.Wording

/-!
# What lies in a failure

A failure is layers of members around one that is no member (`Failure.exists_wrapped`). The layers
decide how deep the walk down from it goes, and a status is looked for through them alone.

The walk comes by failures, faults, reports and causes (`Failure.Link`), and each of them but the
cause of a fault stands at the end of the wording of whatever it lies beneath
(`Failure.Walk.pairwise_endOf`). A group ends the walk. What it holds is told by its own wording
(`Failure.Within.occursIn`), as are the number of its entries and the index of a member.

`Failure.anatomy` puts this together for failures of any nesting.
-/

namespace Courier

/-! ## 1. Texts in texts -/

/-- The first text is the end of the second one, and something stands in front of it. -/
def EndOf (s t : String) : Prop := ∃ front, front ≠ "" ∧ t = front ++ s

/-- The first text occurs in the second one. -/
def OccursIn (s t : String) : Prop := ∃ front back, t = front ++ s ++ back

theorem EndOf.trans {s t u : String} (h : EndOf s t) (h' : EndOf t u) : EndOf s u := by
  obtain ⟨front, -, rfl⟩ := h
  obtain ⟨front', hne, rfl⟩ := h'
  refine ⟨front' ++ front, fun hempty => hne ?_, (String.append_assoc ..).symm⟩
  exact (String.append_eq_empty_iff.mp hempty).1

theorem OccursIn.refl (s : String) : OccursIn s s := ⟨"", "", by simp⟩

theorem OccursIn.trans {s t u : String} (h : OccursIn s t) (h' : OccursIn t u) : OccursIn s u := by
  obtain ⟨front, back, rfl⟩ := h
  obtain ⟨front', back', rfl⟩ := h'
  exact ⟨front' ++ front, back ++ back', by simp only [String.append_assoc]⟩

theorem occursIn_append (front s : String) : OccursIn s (front ++ s) := ⟨front, "", by simp⟩

/-- Each of the texts that are joined occurs in what they are joined to. -/
theorem occursIn_intercalate {texts : List String} {s : String} (h : s ∈ texts) (between : String) :
    OccursIn s (between.intercalate texts) := by
  induction texts with
  | nil => cases h
  | cons t texts ih =>
      cases texts with
      | nil =>
          rw [List.mem_singleton.mp h, String.intercalate_singleton]
          exact .refl t
      | cons u texts =>
          rw [String.intercalate_cons_cons]
          rcases List.mem_cons.mp h with rfl | h
          · exact ⟨"", between ++ between.intercalate (u :: texts), by simp [String.append_assoc]⟩
          · exact (ih h).trans (occursIn_append _ _)

namespace Failure

/-! ## 2. Layers of members -/

/-- A failure in layers of members, the outermost index first. -/
def wrapped (indices : List Nat) (core : Failure) : Failure := indices.foldr Failure.member core

/-- A failure that is no member. -/
def IsCore (f : Failure) : Prop := ∀ index inner, f ≠ .member index inner

/-- **Every failure is layers of members around one that is no member.** -/
theorem exists_wrapped : ∀ f : Failure, ∃ indices core, f = wrapped indices core ∧ core.IsCore
  | .member index inner => by
      obtain ⟨indices, core, heq, hcore⟩ := exists_wrapped inner
      exact ⟨index :: indices, core, congrArg (Failure.member index) heq, hcore⟩
  | .transport _ _ => ⟨[], _, rfl, nofun⟩
  | .http _ _ => ⟨[], _, rfl, nofun⟩
  | .read _ _ => ⟨[], _, rfl, nofun⟩
  | .mismatchedPayloads _ _ => ⟨[], _, rfl, nofun⟩
  | .noWriter _ => ⟨[], _, rfl, nofun⟩
  | .taskFailed _ _ => ⟨[], _, rfl, nofun⟩
  | .group _ => ⟨[], _, rfl, nofun⟩
  | .decode _ => ⟨[], _, rfl, nofun⟩
  | .config _ => ⟨[], _, rfl, nofun⟩

variable {f core : Failure} {indices : List Nat}

theorem status?_wrapped (indices : List Nat) (core : Failure) :
    (wrapped indices core).status? = core.status? := by
  induction indices with
  | nil => rfl
  | cons index indices ih => exact ih

/-- Only one failure that is no member has a status. -/
theorem IsCore.exists_of_status? {status : Status} (hcore : core.IsCore)
    (h : core.status? = some status) : ∃ url, core = .http status url := by
  cases core with
  | http status' url =>
      cases h
      exact ⟨url, rfl⟩
  | member index inner => exact absurd rfl (hcore index inner)
  | _ => cases h

/-- **A status is there just in layers of members around a failure that tells of it.** -/
theorem status?_eq_some_iff {status : Status} :
    f.status? = some status ↔ ∃ indices url, f = wrapped indices (.http status url) := by
  constructor
  · intro h
    obtain ⟨indices, core, rfl, hcore⟩ := exists_wrapped f
    rw [status?_wrapped] at h
    obtain ⟨url, rfl⟩ := hcore.exists_of_status? h
    exact ⟨indices, url, rfl⟩
  · rintro ⟨indices, url, rfl⟩
    exact status?_wrapped indices _

/-! ## 3. Walking down -/

/-- What a walk down from a failure comes by. -/
inductive Link
  | failure (f : Failure)
  | fault (d : Fault)
  /-- What the place written to reports. -/
  | report (text : String)
  /-- What the transport knows to lie beneath a fault. -/
  | cause (text : String)

namespace Link

/-- The wording of a link. -/
def message : Link → String
  | .failure f => f.message
  | .fault d => d.message
  | .report text => text
  | .cause text => text

/-- What lies directly beneath a link, if anything does. -/
def source? : Link → Option Link
  | .failure (.transport _ d) => some (.fault d)
  | .failure (.read _ (.body d)) => some (.fault d)
  | .failure (.read _ (.writing text)) => some (.report text)
  | .failure (.member _ inner) => some (.failure inner)
  | .failure _ => none
  | .fault d => d.cause.map .cause
  | .report _ => none
  | .cause _ => none

/-- Whether a link is the cause of a fault. -/
def isCause : Link → Bool
  | .cause _ => true
  | _ => false

/-- **What lies directly beneath a link ends its wording**, unless it is the cause of a fault. -/
theorem endOf_source {link next : Link} (h : link.source? = some next)
    (hnext : next.isCause = false) : EndOf next.message link.message := by
  have front : ∀ (word rest : String), word ≠ "" → word ++ rest ≠ "" := fun word rest hne hempty =>
    hne (String.append_eq_empty_iff.mp hempty).1
  cases link with
  | failure f =>
      cases f with
      | transport url d =>
          cases h
          exact ⟨"sending request to " ++ url ++ ": ", by
            rw [String.append_assoc]; exact front _ _ (by decide), rfl⟩
      | read url cause =>
          cases cause <;> cases h <;>
            exact ⟨"reading response from " ++ url ++ ": ", by
              rw [String.append_assoc]; exact front _ _ (by decide), rfl⟩
      | member index inner =>
          cases h
          exact ⟨"group response #" ++ Decimal.text index ++ ": ", by
            rw [String.append_assoc]; exact front _ _ (by decide), rfl⟩
      | _ => cases h
  | fault d =>
      obtain ⟨text, -, rfl⟩ := Option.map_eq_some_iff.mp (show d.cause.map cause = some next from h)
      cases hnext
  | report text => cases h
  | cause text => cases h

end Link

/-- A walk down from a link to the end, and the links that it comes by. -/
inductive Walk : Link → List Link → Prop
  | done {link : Link} (h : link.source? = none) : Walk link []
  | step {link next : Link} {links : List Link} (h : link.source? = some next)
      (later : Walk next links) : Walk link (next :: links)

namespace Walk

variable {link : Link} {links links' : List Link}

/-- There is one walk only. -/
theorem unique (h : Walk link links) (h' : Walk link links') : links' = links := by
  induction h generalizing links' with
  | done hend =>
      cases h' with
      | done => rfl
      | step hnext => rw [hend] at hnext; cases hnext
  | step hnext later ih =>
      cases h' with
      | done hend => rw [hend] at hnext; cases hnext
      | step hnext' later' =>
          rw [hnext] at hnext'
          obtain rfl := Option.some.inj hnext'
          rw [ih later']

/-- **Each link of a walk ends the wording of all links before it**, unless it is the cause of a
    fault. -/
theorem pairwise_endOf (h : Walk link links) :
    (link :: links).Pairwise fun a b => b.isCause = false → EndOf b.message a.message := by
  induction h with
  | done hend => exact List.pairwise_singleton _ _
  | @step link next links hnext later ih =>
      refine List.pairwise_cons.mpr ⟨fun b hmem hcause => ?_, ih⟩
      rcases List.mem_cons.mp hmem with rfl | hb
      · exact Link.endOf_source hnext hcause
      · have hend : EndOf b.message next.message := (List.pairwise_cons.mp ih).1 b hb hcause
        -- nothing lies beneath a cause
        cases hkind : next.isCause with
        | false => exact hend.trans (Link.endOf_source hnext hkind)
        | true =>
            cases next with
            | cause text =>
                cases later with
                | done => exact absurd hb List.not_mem_nil
                | step h => cases h
            | _ => cases hkind

end Walk

/-- The links beneath a fault. -/
def faultLinks (fault : Fault) : List Link := .fault fault :: fault.cause.toList.map .cause

/-- The links beneath a failure. -/
def links : Failure → List Link
  | .transport _ fault => faultLinks fault
  | .read _ (.body fault) => faultLinks fault
  | .read _ (.writing report) => [.report report]
  | .member _ inner => .failure inner :: inner.links
  | _ => []

theorem walk_fault (fault : Fault) : Walk (.fault fault) (fault.cause.toList.map .cause) := by
  obtain ⟨kind, report, cause⟩ := fault
  cases cause with
  | none => exact .done rfl
  | some text => exact .step rfl (.done rfl)

/-- **The walk down from a failure comes to an end**, and these are its links. -/
theorem walk_links : ∀ f : Failure, Walk (.failure f) f.links
  | .member _ inner => .step rfl (walk_links inner)
  | .transport _ fault => .step rfl (walk_fault fault)
  | .read _ (.body fault) => .step rfl (walk_fault fault)
  | .read _ (.writing _) => .step rfl (.done rfl)
  | .http _ _ => .done rfl
  | .mismatchedPayloads _ _ => .done rfl
  | .noWriter _ => .done rfl
  | .taskFailed _ _ => .done rfl
  | .group _ => .done rfl
  | .decode _ => .done rfl
  | .config _ => .done rfl

theorem map_message_faultLinks (fault : Fault) :
    (faultLinks fault).map Link.message = fault.message :: fault.cause.toList := by
  obtain ⟨kind, report, cause⟩ := fault
  cases cause <;> rfl

/-- The wording of the links is the chain of a failure. -/
theorem map_message_links : ∀ f : Failure, f.links.map Link.message = f.chain
  | .member _ inner => congrArg (inner.message :: ·) (map_message_links inner)
  | .transport _ fault => map_message_faultLinks fault
  | .read _ (.body fault) => map_message_faultLinks fault
  | .read _ (.writing _) => rfl
  | .http _ _ => rfl
  | .mismatchedPayloads _ _ => rfl
  | .noWriter _ => rfl
  | .taskFailed _ _ => rfl
  | .group _ => rfl
  | .decode _ => rfl
  | .config _ => rfl

/-- How many links lie beneath a failure that is no member: one for a fault or a report, and one more
    for the cause of the fault. -/
def beneath : Failure → Nat
  | .transport _ fault | .read _ (.body fault) => 1 + (if fault.cause.isSome then 1 else 0)
  | .read _ (.writing _) => 1
  | _ => 0

theorem length_faultLinks (fault : Fault) :
    (faultLinks fault).length = 1 + (if fault.cause.isSome then 1 else 0) := by
  obtain ⟨kind, report, cause⟩ := fault
  cases cause <;> rfl

theorem IsCore.length_links (h : core.IsCore) : core.links.length = core.beneath := by
  cases core with
  | transport url fault => exact length_faultLinks fault
  | read url cause =>
      cases cause with
      | body fault => exact length_faultLinks fault
      | writing report => rfl
  | member index inner => exact absurd rfl (h index inner)
  | _ => rfl

/-- Each layer is one link more. -/
theorem length_links_wrapped (indices : List Nat) (core : Failure) :
    (wrapped indices core).links.length = indices.length + core.links.length := by
  induction indices with
  | nil => exact (Nat.zero_add _).symm
  | cons index indices ih =>
      show (wrapped indices core).links.length + 1 = _
      rw [ih, List.length_cons, Nat.add_right_comm]

/-! ## 4. What groups hold -/

/-- A failure that is held by another one at any depth, through members and entries of groups. -/
inductive Within (inner : Failure) : Failure → Prop
  | self : Within inner inner
  | member (index : Nat) {outer : Failure} (h : Within inner outer) :
      Within inner (.member index outer)
  | entry {members : List (Nat × Failure)} {index : Nat} {outer : Failure}
      (hmem : (index, outer) ∈ members) (h : Within inner outer) : Within inner (.group members)

theorem entryText_eq (m : Nat × Failure) :
    entryText m = "#" ++ Decimal.text m.1 ++ ": " ++ m.2.message := by
  obtain ⟨index, inner⟩ := m
  rw [entryText]

theorem message_group_eq (members : List (Nat × Failure)) :
    (Failure.group members).message =
      Decimal.text members.length ++ " of the group requests failed: " ++
        String.intercalate "; " (members.map entryText) := by
  rw [← entryTexts_eq_map]
  rfl

/-- The wording of a member tells its index, and what is said of the failure in it. -/
theorem message_member_inj {i j : Nat} {inner other : Failure}
    (h : (member i inner).message = (member j other).message) :
    i = j ∧ inner.message = other.message := by
  have h : "group response #" ++ Decimal.text i ++ ": " ++ inner.message =
      "group response #" ++ Decimal.text j ++ ": " ++ other.message := h
  simp only [String.append_assoc] at h
  exact Decimal.text_append_inj rfl (by decide) ((String.append_right_inj _).mp h)

/-- The wording of a group tells how many entries it has. -/
theorem length_of_message_group {members others : List (Nat × Failure)}
    (h : (group members).message = (group others).message) : members.length = others.length := by
  rw [message_group_eq, message_group_eq] at h
  simp only [String.append_assoc] at h
  exact (Decimal.text_append_inj rfl (by decide) h).1

/-- **The wording of a failure has the wording of whatever the failure holds.** -/
theorem Within.occursIn {inner : Failure} (h : Within inner f) :
    OccursIn inner.message f.message := by
  induction h with
  | self => exact .refl _
  | @member index outer later ih =>
      exact ih.trans (occursIn_append ("group response #" ++ Decimal.text index ++ ": ") _)
  | @entry members index outer hmem later ih =>
      have hentry : OccursIn outer.message (entryText (index, outer)) := by
        rw [entryText_eq]
        exact occursIn_append _ _
      have hjoined : OccursIn (entryText (index, outer))
          (String.intercalate "; " (members.map entryText)) :=
        occursIn_intercalate (List.mem_map_of_mem hmem) "; "
      rw [message_group_eq]
      exact ((ih.trans hentry).trans hjoined).trans (occursIn_append _ _)

/-! ## 5. All failures -/

/-- What a failure tells, and what lies beneath it. -/
structure Anatomy (f : Failure) : Prop where
  /-- There is a status just in layers of members around a failure that tells of it. -/
  status : ∀ status, f.status? = some status ↔
    ∃ indices url, f = wrapped indices (.http status url)
  /-- The walk down comes to an end, there is one only, and the wording of its links is the
      chain. -/
  walk : Walk (.failure f) f.links ∧ (∀ links, Walk (.failure f) links → links = f.links) ∧
    f.chain = f.links.map Link.message
  /-- The failure is layers of members around one that is no member. -/
  layers : ∃ indices core, f = wrapped indices core ∧ core.IsCore
  /-- The chain has a link for each layer, and those beneath the failure in them. -/
  length : ∀ indices core, f = wrapped indices core → core.IsCore →
    f.chain.length = indices.length + core.beneath
  /-- The wording of a link ends that of the failure and of all links before it, and something
      stands in front of it there; not so the cause of a fault. -/
  ends : (Link.failure f :: f.links).Pairwise fun a b =>
    b.isCause = false → EndOf b.message a.message
  /-- A group tells how many entries it has and what they are, in order. Nothing lies beneath it. -/
  group : ∀ members, f = .group members →
    f.message = Decimal.text members.length ++ " of the group requests failed: " ++
      String.intercalate "; "
        (members.map fun m => "#" ++ Decimal.text m.1 ++ ": " ++ m.2.message) ∧
    f.chain = []
  /-- The number of entries can be read off the wording of a group, -/
  count : ∀ members others, f = .group members →
    f.message = (Failure.group others).message → members.length = others.length
  /-- and off that of a member its index and what is said of the failure in it. -/
  index : ∀ i j inner other, f = .member i inner →
    f.message = (Failure.member j other).message → i = j ∧ inner.message = other.message
  /-- Whatever a group or a member holds, at any depth, is told by its own wording. -/
  holds : ∀ inner, Within inner f → OccursIn inner.message f.message

/-- **The anatomy of failures.** It is so for every failure, whatever members and groups are nested
    in it. -/
theorem anatomy (f : Failure) : f.Anatomy where
  status status := status?_eq_some_iff
  walk := ⟨walk_links f, fun links h => (walk_links f).unique h, (map_message_links f).symm⟩
  layers := exists_wrapped f
  length := by
    rintro indices core rfl hcore
    rw [← map_message_links, List.length_map, length_links_wrapped, hcore.length_links]
  ends := (walk_links f).pairwise_endOf
  group members h := by
    subst h
    refine ⟨?_, rfl⟩
    rw [message_group_eq, List.map_congr_left fun m _ => entryText_eq m]
  count members others hf h := by
    subst hf
    exact length_of_message_group h
  index i j inner other hf h := by
    subst hf
    exact message_member_inj h
  holds inner h := h.occursIn

end Failure

end Courier
