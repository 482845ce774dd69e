import Mathlib.Algebra.BigOperators.Group.List.Basic
import Mathlib.Algebra.Order.BigOperators.Group.List
import Mathlib.Algebra.Order.Field.Basic
import Mathlib.Data.Finset.Max
import Mathlib.Tactic.Ring

/-!
# Weighted means

The mean of a list of values, each with a weight.

* `mean_mul`: weights that are all multiplied by the same factor give the same mean.
* `exists_le_mean`, `exists_mean_le`: with weights that are not negative the mean lies between
  the least and the greatest value.
-/

namespace WeightedMean

variable {K : Type} [Field K]

/-- The sum of the weights of a list of weights and values. -/
def weight (l : List (K × K)) : K := (l.map Prod.fst).sum

/-- The sum of the values, each times its weight. -/
def moment (l : List (K × K)) : K := (l.map fun c => c.2 * c.1).sum

def mean (l : List (K × K)) : K := moment l / weight l

section Sums

variable (c : K × K) (l r : List (K × K))

@[simp] theorem weight_nil : weight ([] : List (K × K)) = 0 := rfl

@[simp] theorem moment_nil : moment ([] : List (K × K)) = 0 := rfl

@[simp] theorem weight_cons : weight (c :: l) = c.1 + weight l := List.sum_cons

@[simp] theorem moment_cons : moment (c :: l) = c.2 * c.1 + moment l := List.sum_cons

@[simp] theorem weight_append : weight (l ++ r) = weight l + weight r := by
  unfold weight
  rw [List.map_append, List.sum_append]

@[simp] theorem moment_append : moment (l ++ r) = moment l + moment r := by
  unfold moment
  rw [List.map_append, List.sum_append]

end Sums

/-- A factor of all weights is no factor of the mean. -/
theorem mean_mul {l : List (K × K)} {k : K} (nonzero : k ≠ 0) :
    k * moment l / (k * weight l) = mean l := mul_div_mul_left _ _ nonzero

variable [LinearOrder K] [IsStrictOrderedRing K] {l : List (K × K)} {bound : K}

theorem weight_nonneg (nonneg : ∀ c ∈ l, 0 ≤ c.1) : 0 ≤ weight l :=
  List.sum_nonneg (List.forall_mem_map.mpr nonneg)

theorem mul_weight_le_moment (nonneg : ∀ c ∈ l, 0 ≤ c.1) (low : ∀ c ∈ l, bound ≤ c.2) :
    bound * weight l ≤ moment l := by
  induction l with
  | nil => simp
  | cons c l ih =>
    obtain ⟨here, nonneg⟩ := List.forall_mem_cons.mp nonneg
    obtain ⟨first, low⟩ := List.forall_mem_cons.mp low
    rw [weight_cons, moment_cons, mul_add]
    exact add_le_add (mul_le_mul_of_nonneg_right first here) (ih nonneg low)

theorem moment_le_mul_weight (nonneg : ∀ c ∈ l, 0 ≤ c.1) (high : ∀ c ∈ l, c.2 ≤ bound) :
    moment l ≤ bound * weight l := by
  induction l with
  | nil => simp
  | cons c l ih =>
    obtain ⟨here, nonneg⟩ := List.forall_mem_cons.mp nonneg
    obtain ⟨first, high⟩ := List.forall_mem_cons.mp high
    rw [weight_cons, moment_cons, mul_add]
    exact add_le_add (mul_le_mul_of_nonneg_right first here) (ih nonneg high)

theorem le_mean (nonneg : ∀ c ∈ l, 0 ≤ c.1) (weighty : weight l ≠ 0) (low : ∀ c ∈ l, bound ≤ c.2) :
    bound ≤ mean l :=
  (le_div_iff₀ (lt_of_le_of_ne (weight_nonneg nonneg) weighty.symm)).mpr
    (mul_weight_le_moment nonneg low)

theorem mean_le (nonneg : ∀ c ∈ l, 0 ≤ c.1) (weighty : weight l ≠ 0) (high : ∀ c ∈ l, c.2 ≤ bound) :
    mean l ≤ bound :=
  (div_le_iff₀ (lt_of_le_of_ne (weight_nonneg nonneg) weighty.symm)).mpr
    (moment_le_mul_weight nonneg high)

omit [IsStrictOrderedRing K] in
theorem nonempty_of_weight (weighty : weight l ≠ 0) : l.toFinset.Nonempty := by
  rw [List.toFinset_nonempty_iff]
  rintro rfl
  exact weighty weight_nil

/-- The mean is not below the least value. -/
theorem exists_le_mean (nonneg : ∀ c ∈ l, 0 ≤ c.1) (weighty : weight l ≠ 0) :
    ∃ low ∈ l, (∀ c ∈ l, low.2 ≤ c.2) ∧ low.2 ≤ mean l := by
  obtain ⟨low, mem, least⟩ := l.toFinset.exists_min_image Prod.snd (nonempty_of_weight weighty)
  simp only [List.mem_toFinset] at mem least
  exact ⟨low, mem, least, le_mean nonneg weighty least⟩

/-- The mean is not above the greatest value. -/
theorem exists_mean_le (nonneg : ∀ c ∈ l, 0 ≤ c.1) (weighty : weight l ≠ 0) :
    ∃ high ∈ l, (∀ c ∈ l, c.2 ≤ high.2) ∧ mean l ≤ high.2 := by
  obtain ⟨high, mem, greatest⟩ := l.toFinset.exists_max_image Prod.snd (nonempty_of_weight weighty)
  simp only [List.mem_toFinset] at mem greatest
  exact ⟨high, mem, greatest, mean_le nonneg weighty greatest⟩

end WeightedMean
