import Courier.Proofs.Agreement

/-!
# The requests of a group

A group is dispatched as a list of requests. Each of them is for a URL of the group, and for POST it
has the payload with the same index (`request_of_requests?`). There is no such list just where a
POST group has not as many payloads as URLs (`requests?_eq_none_iff`), and then each form of the
group comes to that one failure throughout, before anything has happened
(`sendGroup_of_unequal`, `fetchGroup_of_unequal`, `deliverGroup_of_unequal`).
-/

namespace Courier

/-! ## 1. Nothing to read -/

namespace Group

/-- Without a response nothing is read into memory. -/
theorem readFrom_failures (failOnHttpError : Bool) (i : Nat) (failures : List Failure) :
    readFrom failOnHttpError i (failures.map .error) = ⟨failures.map .error, 0, []⟩ := by
  induction failures generalizing i with
  | nil => rfl
  | cons failure rest ih =>
    rw [List.map_cons, readFrom, ih]
    rfl

/-- Without a response nothing is read into writers, be there enough of them or not. -/
theorem routeFrom_failures (failOnHttpError : Bool) (i : Nat) (writers : List Sink)
    (failures : List Failure) :
    routeFrom failOnHttpError i writers (failures.map .error) =
      (⟨failures.map .error, 0, []⟩, writers) := by
  induction failures generalizing i with
  | nil => rfl
  | cons failure rest ih =>
    rw [List.map_cons, routeFrom, ih]
    rfl

end Group

namespace Agent

variable {σ : Type} {a : Agent σ} {method : Method} {urls : List String} {payloads : List Bytes}
  {m : Moment σ}

theorem mismatched_eq_map {α : Type} (urls payloads : Nat) :
    (mismatched urls payloads : List (Except Failure α)) =
      (List.replicate urls (.mismatchedPayloads urls payloads)).map .error :=
  List.map_replicate.symm

/-! ## 2. Requests -/

/-- **A group cannot be sent just where it is a POST group with unequal numbers of payloads and
    URLs.** -/
theorem requests?_eq_none_iff :
    a.requests? method urls payloads = none ↔
      method = .post ∧ urls.length ≠ payloads.length := by
  cases method with
  | get => simp [requests?]
  | head => simp [requests?]
  | post => simp [requests?]

theorem payable_of_requests? {requests : List Request}
    (h : a.requests? method urls payloads = some requests) (posted : method = .post) :
    payloads.length = urls.length := by
  by_contra hne
  rw [requests?_eq_none_iff.mpr ⟨posted, Ne.symm hne⟩] at h
  cases h

/-- A group has one request for each URL. -/
theorem length_of_requests? {requests : List Request}
    (h : a.requests? method urls payloads = some requests) : requests.length = urls.length := by
  obtain ⟨requests', hrequests', rfl, -⟩ := exists_requests a (payable_of_requests? h)
  cases h.symm.trans hrequests'
  exact (List.length_map Request.url).symm

/-- **Each request of a group is for the URL and the payload with its index.** -/
theorem request_of_requests? {requests : List Request} {i : Nat} {r : Request}
    (h : a.requests? method urls payloads = some requests) (hi : requests[i]? = some r) :
    ∃ url payload, urls[i]? = some url ∧ (method = .post → payloads[i]? = some payload) ∧
      r = a.request method url payload := by
  have payable := payable_of_requests? h
  obtain ⟨requests', hrequests', rfl, hown⟩ := exists_requests a payable
  cases h.symm.trans hrequests'
  have hurl : (requests.map Request.url)[i]? = some r.url := by
    rw [List.getElem?_map, hi]
    rfl
  obtain ⟨payload, hpayload⟩ : ∃ payload, method = .post → payloads[i]? = some payload := by
    by_cases hpost : method = .post
    · have hlt : i < payloads.length := by
        rw [payable hpost]
        exact (List.getElem?_eq_some_iff.mp hurl).1
      exact ⟨_, fun _ => List.getElem?_eq_getElem hlt⟩
    · exact ⟨[], fun h => absurd h hpost⟩
  have hrequest := hown i r.url payload hurl hpayload
  rw [hi] at hrequest
  exact ⟨r.url, payload, hurl, hpayload, Option.some.inj hrequest⟩

/-- Any group has a permit to hand out. -/
theorem permits_pos (a : Agent σ) : 0 < max 1 a.settings.parallelism.toNat :=
  Nat.lt_of_lt_of_le Nat.zero_lt_one (Nat.le_max_left _ _)

/-! ## 3. Groups that cannot be sent -/

variable (a) (m)

theorem sendGroup_of_unequal (unequal : urls.length ≠ payloads.length) :
    a.sendGroup .post urls payloads m =
      .ok ⟨mismatched urls.length payloads.length, m, [], 0⟩ := by
  rw [sendGroup, requests?_eq_none_iff.mpr ⟨rfl, unequal⟩]

theorem fetchGroup_of_unequal (unequal : urls.length ≠ payloads.length) :
    a.fetchGroup .post urls payloads m =
      .ok ⟨mismatched urls.length payloads.length, m, [], 0⟩ := by
  rw [fetchGroup, sendGroup_of_unequal a m unequal]
  dsimp only
  rw [Group.read, mismatched_eq_map, Group.readFrom_failures, mismatched_eq_map]
  rfl

theorem deliverGroup_of_unequal (sinks : List Sink) (unequal : urls.length ≠ payloads.length) :
    a.deliverGroup .post urls payloads sinks m =
      .ok ⟨(mismatched urls.length payloads.length, sinks), m, [], 0⟩ := by
  rw [deliverGroup, sendGroup_of_unequal a m unequal]
  dsimp only
  rw [Group.route, mismatched_eq_map, Group.routeFrom_failures, mismatched_eq_map]
  rfl

end Agent

end Courier
