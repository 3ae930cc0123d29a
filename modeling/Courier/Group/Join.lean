import Courier.Failure

/-!
# Joining results

The results of a group are one value when all went well: the list of the values. Otherwise they are
one failure that holds every failure with its index.
-/

namespace Courier.Group

/-- The values among results, in order. -/
def values {α : Type} : List (Except Failure α) → List α
  | [] => []
  | .ok a :: rest => a :: values rest
  | .error _ :: rest => values rest

/-- The failures among results, in order, with their indexes from `i` on. -/
def failuresFrom {α : Type} (i : Nat) : List (Except Failure α) → List (Nat × Failure)
  | [] => []
  | .ok _ :: rest => failuresFrom (i + 1) rest
  | .error failure :: rest => (i, failure) :: failuresFrom (i + 1) rest

/-- One value for all results, or one failure for all that failed. -/
def join {α : Type} (results : List (Except Failure α)) : Except Failure (List α) :=
  match failuresFrom 0 results with
  | [] => .ok (values results)
  | failures => .error (.group failures)

end Courier.Group
