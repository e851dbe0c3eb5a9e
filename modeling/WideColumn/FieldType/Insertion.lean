/-!
# Collections without duplicates

Two ways to keep a list free of elements that count as one: in the order of a comparison, or in the
order of their first arrival. In both a later element takes the place of an earlier one. Maps are
lists of entries that are compared by their keys.

* `WideColumn.Insertion.insertSorted`, `WideColumn.Insertion.sorted`: lists in increasing order;
* `WideColumn.Insertion.insertDistinct`, `WideColumn.Insertion.distinct`: lists in order of arrival.
-/

namespace WideColumn

namespace Insertion

variable {α : Type}

/-- An increasing list with one more element, or with the element in place of the one that compares
equal. -/
def insertSorted (cmp : α → α → Ordering) (x : α) : List α → List α
  | [] => [x]
  | y :: ys =>
    match cmp x y with
    | .lt => x :: y :: ys
    | .eq => x :: ys
    | .gt => y :: insertSorted cmp x ys

/-- The elements of a list in increasing order, the last one of those that compare equal. -/
def sorted (cmp : α → α → Ordering) (xs : List α) : List α :=
  xs.foldl (fun acc x => insertSorted cmp x acc) []

/-- A list with one more element at its end, or with the element in place of the one that compares
equal. -/
def insertDistinct (cmp : α → α → Ordering) (x : α) : List α → List α
  | [] => [x]
  | y :: ys => if cmp x y == .eq then x :: ys else y :: insertDistinct cmp x ys

/-- The elements of a list in the order of their first arrival, the last one of those that compare
equal. -/
def distinct (cmp : α → α → Ordering) (xs : List α) : List α :=
  xs.foldl (fun acc x => insertDistinct cmp x acc) []

end Insertion

end WideColumn
