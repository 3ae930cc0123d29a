import Courier.Proofs.SlotFailures
import Courier.Settings.Change
import Courier.Settings.Environment
import Courier.Settings.Json

/-!
# Groups as a whole

What goes wrong with a member of a group stays in its slot: over any transport, also one that
crashes, a group comes to one entry for each URL (`Agent.OnePerUrl`). There is one way in which a
group fails as a whole, and it has nothing to do with its members: more requests side by side than
there can be permits. The settings have a lower bound for that number and no upper one, wherever
they are from.

* `Agent.Dispatchable`: there can be so many permits, or none is asked for.
* `Agent.completion`: the three forms of a group have one entry for each URL just where it is
  dispatchable.
* `Agent.no_result_for_largest_wish`: settings that are not, from each of their sources.
-/

namespace Courier

/-! ## 1. Permits -/

/-- The lower bound of the parallelism is of no matter to the upper bound of permits. -/
theorem Settings.parallelism_le_maxPermits_iff (s : Settings) :
    s.parallelism.toNat ≤ Group.maxPermits ↔ s.maxParallel.toNat ≤ Group.maxPermits := by
  unfold parallelism
  split
  · rename_i hzero
    rw [hzero]
    decide
  · exact Iff.rfl

namespace Group

theorem permits?_eq_none_iff {wish : UInt64} : permits? wish = none ↔ maxPermits < wish.toNat := by
  have hpos : 1 ≤ maxPermits := by decide
  unfold permits?
  split
  · simp only [reduceCtorEq, false_iff]
    omega
  · simp only [true_iff]
    omega

theorem permits?_eq_some_iff {wish : UInt64} {k : Nat} :
    permits? wish = some k ↔ wish.toNat ≤ maxPermits ∧ k = max 1 wish.toNat := by
  have hpos : 1 ≤ maxPermits := by decide
  unfold permits?
  split
  · simp only [Option.some.injEq, eq_comm, iff_and_self]
    omega
  · simp only [reduceCtorEq, false_iff]
    omega

end Group

/-! ## 2. One entry for each URL -/

namespace Agent

variable {σ : Type} {a : Agent σ} {method : Method} {urls : List String} {payloads : List Bytes}
  {m : Moment σ}

/-- What reading responses comes to has as many entries as there are responses. -/
theorem exists_read_of_send {sent : Ran σ (List (Except Failure Response))} (sinks : List Sink)
    (hsent : a.sendGroup method urls payloads m = .ok sent) :
    ∃ fetched delivered,
      a.fetchGroup method urls payloads m = .ok fetched ∧
      a.deliverGroup method urls payloads sinks m = .ok delivered ∧
      fetched.result.length = sent.result.length ∧
      delivered.result.1.length = sent.result.length ∧
      delivered.result.2.length = sinks.length := by
  obtain ⟨fetched, -, hfetched, hread, -⟩ := fetchGroup_of_send hsent
  obtain ⟨delivered, -, hdelivered, hwritten, hsinks, -⟩ := deliverGroup_of_send sinks hsent
  obtain ⟨hresults, hwriters⟩ := Group.length_routeFrom (i := 0) sinks
  refine ⟨fetched, delivered, hfetched, hdelivered, ?_, ?_, ?_⟩
  · rw [hread, Group.length_read]
  · rw [hwritten]
    exact hresults
  · rw [hsinks]
    exact hwriters

/-! ## 3. Groups that fail as a whole -/

/-- There can be as many permits as the settings ask for, or the group asks for none, as it is not
    sent. -/
def Dispatchable (a : Agent σ) (method : Method) (urls : List String) (payloads : List Bytes) :
    Prop :=
  a.settings.maxParallel.toNat ≤ Group.maxPermits ∨
    method = .post ∧ urls.length ≠ payloads.length

theorem exists_sendGroup_of_dispatchable (h : a.Dispatchable method urls payloads)
    (m : Moment σ) :
    ∃ sent, a.sendGroup method urls payloads m = .ok sent ∧
      OnePerUrl method urls payloads sent.result := by
  rcases h with possible | ⟨rfl, unequal⟩
  · exact exists_onePerUrl (a.settings.parallelism_le_maxPermits_iff.mpr possible) m
  · exact ⟨_, sendGroup_of_unequal a m unequal, onePerUrl_mismatched unequal⟩

theorem sendGroup_of_not_dispatchable (h : ¬ a.Dispatchable method urls payloads) (m : Moment σ) :
    a.sendGroup method urls payloads m = .error (.tooManyPermits a.settings.parallelism) := by
  obtain ⟨impossible, sendable⟩ := not_or.mp h
  rw [← a.settings.parallelism_le_maxPermits_iff, Nat.not_le] at impossible
  cases hrequests : a.requests? method urls payloads with
  | none => exact absurd (requests?_eq_none_iff.mp hrequests) sendable
  | some requests =>
      rw [sendGroup, hrequests]
      dsimp only
      rw [Group.dispatch?, Group.permits?_eq_none_iff.mpr impossible]
      rfl

/-- The three forms of a group fail as a whole, each with the same report. -/
structure Aborted (a : Agent σ) (method : Method) (urls : List String) (payloads : List Bytes)
    (sinks : List Sink) (m : Moment σ) (abort : Abort) : Prop where
  sent : a.sendGroup method urls payloads m = .error abort
  fetched : a.fetchGroup method urls payloads m = .error abort
  delivered : a.deliverGroup method urls payloads sinks m = .error abort

theorem aborted_of_send {abort : Abort} (sinks : List Sink)
    (h : a.sendGroup method urls payloads m = .error abort) :
    a.Aborted method urls payloads sinks m abort where
  sent := h
  fetched := by rw [fetchGroup, h]
  delivered := by rw [deliverGroup, h]

/-- **Completion.** For any agent, any method, URLs, payloads and sinks, over any transport: where
    the group is dispatchable, its three forms have results with one entry for each URL, and so has
    every end that the group comes to however the steps of its members interleave. Where it is not,
    even for no URL at all, the three forms fail as a whole. -/
theorem completion (a : Agent σ) (method : Method) (urls : List String) (payloads : List Bytes)
    (sinks : List Sink) (m : Moment σ) :
    (a.Dispatchable method urls payloads → ∃ sent fetched delivered,
      a.sendGroup method urls payloads m = .ok sent ∧
      a.fetchGroup method urls payloads m = .ok fetched ∧
      a.deliverGroup method urls payloads sinks m = .ok delivered ∧
      OnePerUrl method urls payloads sent.result ∧
      fetched.result.length = urls.length ∧
      delivered.result.1.length = urls.length ∧ delivered.result.2.length = sinks.length) ∧
    (∀ requests k, a.requests? method urls payloads = some requests →
      Group.permits? a.settings.parallelism = some k →
      Group.ComesTo a.plan a.transport (.start requests k m) fun s =>
        OnePerUrl method urls payloads s.dispatched.results) ∧
    (¬ a.Dispatchable method urls payloads →
      a.Aborted method urls payloads sinks m (.tooManyPermits a.settings.parallelism)) := by
  refine ⟨fun h => ?_, fun requests k hrequests hk => ?_, fun h => ?_⟩
  · obtain ⟨sent, hsent, hone⟩ := exists_sendGroup_of_dispatchable h m
    obtain ⟨fetched, delivered, hfetched, hdelivered, hbytes, hwritten, hsinks⟩ :=
      exists_read_of_send sinks hsent
    exact ⟨sent, fetched, delivered, hsent, hfetched, hdelivered, hone, hbytes.trans hone.length,
      hwritten.trans hone.length, hsinks⟩
  · obtain ⟨-, rfl⟩ := Group.permits?_eq_some_iff.mp hk
    exact ⟨Group.no_endless_run, fun s hs => onePerUrl_of_complete hrequests hs a.permits_pos⟩
  · exact aborted_of_send sinks (sendGroup_of_not_dispatchable h m)

/-- The largest wish can be set by a step, by a variable and in written settings, and then there is
    no result for one URL or for none. -/
theorem no_result_for_largest_wish :
    let wish : UInt64 := 18446744073709551615
    let settings : Settings := { maxParallel := wish }
    let a : Agent Script.Served := ⟨settings, (Script.ofTable []).transport⟩
    let m : Moment Script.Served := ⟨0, Script.Served.none⟩
    let env : Settings.Environment := fun name =>
      if name = "HTTP_AGENT_MAX_PARALLEL" then some "18446744073709551615".toUTF8.toList else none
    Settings.apply {} (.maxParallel wish) = settings ∧
      (Settings.ofEnvironment env).toOption = some settings ∧
      Settings.ofJson? "\x7b\"max_parallel\":18446744073709551615\x7d" = some settings ∧
      (¬ ∃ sent, a.sendGroup .get ["http://host/a"] [] m = .ok sent ∧ sent.result.length = 1) ∧
      (¬ ∃ sent, a.sendGroup .get [] [] m = .ok sent ∧ sent.result.length = 0) := by
  intro wish settings a m env
  have aborted : ∀ urls sent, a.sendGroup .get urls [] m ≠ .ok sent := by
    intro urls sent h
    have hundispatchable : ¬ a.Dispatchable .get urls [] := by
      rintro (possible | ⟨hpost, -⟩)
      · exact absurd possible (by decide)
      · cases hpost
    rw [sendGroup_of_not_dispatchable hundispatchable] at h
    cases h
  refine ⟨rfl, by decide +kernel, by decide +kernel, ?_, ?_⟩
  · exact fun ⟨sent, h, _⟩ => aborted _ sent h
  · exact fun ⟨sent, h, _⟩ => aborted _ sent h

end Agent

end Courier
