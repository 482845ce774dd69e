import Mathlib.Algebra.Order.BigOperators.Group.List
import AprsWx.Lib.Double

/-!
# Sums of doubles

A sum that its first summand starts, as an accumulator without an initial value has it: when it
is a positive number (`summed_pos_iff`).
-/

namespace Double

/-- The sum of a list from the left, and nothing for the empty list. -/
def summed {F : Type} [Add F] (xs : List F) : Option F :=
  xs.foldl (fun sum x => some (match sum with
    | some sum => sum + x
    | none => x)) none

section

variable {F : Type} [Add F]

theorem summed_concat (xs : List F) (x : F) :
    summed (xs ++ [x]) = some (match summed xs with
      | some sum => sum + x
      | none => x) := by
  unfold summed
  rw [List.foldl_append, List.foldl_cons, List.foldl_nil]

theorem summed_eq_none {xs : List F} : summed xs = none ↔ xs = [] := by
  induction xs using List.reverseRecOn with
  | nil => exact ⟨fun _ => rfl, fun _ => rfl⟩
  | append_singleton xs x _ =>
    rw [summed_concat]
    simp

end

namespace ExReal

/-- A sum of numbers is a number. -/
theorem summed_fin (xs : List ℝ) (nonempty : xs ≠ []) : summed (xs.map fin) = some (fin xs.sum) := by
  induction xs using List.reverseRecOn with
  | nil => exact absurd rfl nonempty
  | append_singleton xs x ih =>
    rw [List.map_append, List.map_singleton, summed_concat, List.sum_append, List.sum_singleton]
    rcases eq_or_ne xs [] with rfl | some
    · rw [List.sum_nil, zero_add]
      rfl
    · rw [ih some]
      rfl

/-- A sum that is a number is one of numbers. -/
theorem fin_of_summed {ws : List ExReal} {x : ℝ} (sum : summed ws = some (fin x)) :
    ∃ xs : List ℝ, ws = xs.map fin := by
  induction ws using List.reverseRecOn generalizing x with
  | nil => exact ⟨[], rfl⟩
  | append_singleton ws w ih =>
    rw [summed_concat] at sum
    have sum := Option.some.inj sum
    cases before : summed ws with
    | none =>
      rw [before] at sum
      rw [summed_eq_none.mp before, show w = fin x from sum]
      exact ⟨[x], rfl⟩
    | some s =>
      rw [before] at sum
      obtain ⟨⟨y, rfl⟩, z, rfl⟩ := fin_of_add sum
      obtain ⟨xs, rfl⟩ := ih before
      exact ⟨xs ++ [z], by rw [List.map_append, List.map_singleton]⟩

theorem exists_map_fin {ws : List ExReal} (finite : ∀ w ∈ ws, ∃ x, w = fin x) :
    ∃ xs : List ℝ, ws = xs.map fin := by
  induction ws with
  | nil => exact ⟨[], rfl⟩
  | cons w ws ih =>
    obtain ⟨x, rfl⟩ := finite w List.mem_cons_self
    obtain ⟨xs, rfl⟩ := ih fun w mem => finite w (List.mem_cons_of_mem _ mem)
    exact ⟨x :: xs, rfl⟩

/-- A sum of summands that are not negative, where they are numbers, is a positive number exactly
when all of them are numbers and one is positive. -/
theorem summed_pos_iff {ws : List ExReal} (nonneg : ∀ x, fin x ∈ ws → 0 ≤ x) :
    (∃ x, 0 < x ∧ summed ws = some (fin x)) ↔
      (∀ w ∈ ws, ∃ x, w = fin x) ∧ ∃ x, 0 < x ∧ fin x ∈ ws := by
  have mem_map : ∀ (xs : List ℝ) (x : ℝ), fin x ∈ xs.map fin ↔ x ∈ xs := by
    intro xs x
    simp
  constructor
  · rintro ⟨x, positive, sum⟩
    obtain ⟨xs, rfl⟩ := fin_of_summed sum
    refine ⟨?_, ?_⟩
    · intro w mem
      obtain ⟨y, -, rfl⟩ := List.mem_map.mp mem
      exact ⟨y, rfl⟩
    · by_contra none
      -- without a positive summand all of them are 0
      have zeros : ∀ y ∈ xs, y = 0 := by
        intro y mem
        refine le_antisymm (not_lt.mp fun more => none ⟨y, more, (mem_map xs y).mpr mem⟩) ?_
        exact nonneg y ((mem_map xs y).mpr mem)
      rcases eq_or_ne xs [] with rfl | some
      · cases sum
      · rw [summed_fin xs some, List.sum_eq_zero zeros] at sum
        exact positive.ne (ExReal.fin.inj (Option.some.inj sum))
  · rintro ⟨finite, x, positive, mem⟩
    obtain ⟨xs, rfl⟩ := exists_map_fin finite
    have inside := (mem_map xs x).mp mem
    have below : x ≤ xs.sum := List.single_le_sum (fun y mem => nonneg y ((mem_map xs y).mpr mem)) x inside
    exact ⟨xs.sum, positive.trans_le below, summed_fin xs (List.ne_nil_of_mem inside)⟩

end ExReal

end Double
