import Mathlib.Algebra.Order.Group.Defs
import Mathlib.Algebra.Order.Sub.Basic
import Mathlib.Data.List.Basic

/-!
# Entries that expire

A store with one entry for each key, in which an entry counts for a limited time only.

* `last`: the last of the values that were put in for a key, over a whole history.
* `live`: the entries that count at a time.
* `live_live`, `live_put`: a store from which dead entries were removed at some time, and some
  were not, has the same live entries from then on as one from which none was removed.
-/

namespace Expiry

variable {κ α τ : Type}

/-! ## The last value -/

section Last

variable [DecidableEq κ]

/-- The last value of a key. -/
def last (key : α → κ) (history : List α) (k : κ) : Option α :=
  (history.filter fun v => key v = k).getLast?

theorem last_nil (key : α → κ) : last key [] = fun _ => none := rfl

theorem last_concat (key : α → κ) (history : List α) (v : α) :
    last key (history ++ [v]) = Function.update (last key history) (key v) (some v) := by
  funext k
  unfold last
  rw [List.filter_append]
  rcases eq_or_ne k (key v) with rfl | other
  · simp
  · simp [Function.update_of_ne other, other.symm]

end Last

/-! ## The live entries -/

variable [AddCommGroup τ] [LinearOrder τ] [IsOrderedAddMonoid τ] {age now now' : τ} {time : α → τ}

/-- The entries of a store that are at most `age` old at `now`. -/
def live (age : τ) (time : α → τ) (now : τ) (store : κ → Option α) : κ → Option α :=
  fun k => (store k).filter fun v => now - time v ≤ age

/-- What counts later has counted before. -/
theorem live_live (later : now ≤ now') (store : κ → Option α) :
    live age time now' (live age time now store) = live age time now' store := by
  funext k
  unfold live
  rw [Option.filter_filter]
  congr 1
  funext v
  rw [Bool.and_eq_right_iff_imp]
  intro young
  rw [decide_eq_true_eq] at young ⊢
  exact (sub_le_sub_right later _).trans young

/-- Putting in a value keeps the live entries of two stores the same. -/
theorem live_put [DecidableEq κ] {store store' : κ → Option α}
    (same : live age time now store = live age time now store') (k : κ) (v : α) :
    live age time now (Function.update store k (some v)) =
      live age time now (Function.update store' k (some v)) := by
  funext k'
  unfold live at same ⊢
  rcases eq_or_ne k' k with rfl | other
  · simp
  · simpa [Function.update_of_ne other] using congrFun same k'

end Expiry
