/-!
# Sorted lists without repeats

Sets and maps that are shown in key order are kept as lists in that order.

- `Ordered.toSet` sorts a list and drops repeats, so that two lists with the same members give
  one result.
- `Ordered.update` changes the value of a key in an association list sorted by key.
-/

namespace Shuffle.Ordered

variable {α β : Type}

/-- Drops each element that equals the one before it. -/
def dropRepeats [DecidableEq α] : List α → List α
  | a :: b :: rest => if a = b then dropRepeats (b :: rest) else a :: dropRepeats (b :: rest)
  | rest => rest

/-- The members of a list, in ascending order and once each. -/
def toSet [DecidableEq α] (le : α → α → Bool) (members : List α) : List α :=
  dropRepeats (members.mergeSort le)

/-- Changes the value of `key`, which is `start` if the key is new. Keys stay in ascending order. -/
def update [DecidableEq α] (lt : α → α → Bool) (key : α) (start : β) (change : β → β) :
    List (α × β) → List (α × β)
  | [] => [(key, change start)]
  | (k, v) :: rest =>
    if k = key then (k, change v) :: rest
    else if lt key k then (key, change start) :: (k, v) :: rest
    else (k, v) :: update lt key start change rest

end Shuffle.Ordered
