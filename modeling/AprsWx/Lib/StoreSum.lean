import Mathlib.Algebra.BigOperators.Finprod
import AprsWx.Lib.ExtendedSum

/-!
# Sums over a store

What an accumulator adds up over the entries of a store, in the order in which the store lists
them, is a sum over its keys and has no order.

* `sum_eq_finsum`: the sum of a list of keys that has each key once.
* `ExReal.Sums.addCommMonoid`: exact sums commute, with the infinities and nan.
* `ExReal.Sums.nsmul_div_nsmul`: a quotient of sums, each of which counts everything `n` times.
-/

namespace Double

theorem summed_eq_sum {M : Type} [AddMonoid M] {xs : List M} (nonempty : xs ≠ []) :
    summed xs = some xs.sum := by
  induction xs using List.reverseRecOn with
  | nil => exact absurd rfl nonempty
  | append_singleton xs x ih =>
    rw [summed_concat, List.sum_append, List.sum_singleton]
    rcases eq_or_ne xs [] with rfl | some
    · rw [List.sum_nil, zero_add]
      rfl
    · rw [ih some]

/-- A list that has every key once, outside of which there is nothing to add. -/
theorem sum_eq_finsum {κ M : Type} [AddCommMonoid M] [DecidableEq κ] {keys : List κ}
    (once : keys.Nodup) {f : κ → M} (zero : ∀ k ∉ keys, f k = 0) :
    (keys.map f).sum = ∑ᶠ k, f k := by
  rw [← List.sum_toFinset f once, finsum_eq_sum_of_support_subset]
  intro k nonzero
  rw [Finset.mem_coe, List.mem_toFinset]
  by_contra other
  exact nonzero (zero k other)

/-- What each entry adds `n` times is added `n` times in all. -/
theorem sum_flatMap_replicate {α M : Type} [AddCommMonoid M] (n : Nat) (f : α → List M) (l : List α) :
    (l.flatMap fun a => (List.replicate n (f a)).flatten).sum = n • (l.map fun a => (f a).sum).sum := by
  have copies : ∀ (n : Nat) (l : List M), (List.replicate n l).flatten.sum = n • l.sum := by
    intro n l
    induction n with
    | zero => simp
    | succ n ih => rw [List.replicate_succ, List.flatten_cons, List.sum_append, ih, succ_nsmul']
  induction l with
  | nil => simp
  | cons a l ih => rw [List.flatMap_cons, List.sum_append, ih, copies, List.map_cons, List.sum_cons, nsmul_add]

namespace ExReal

namespace Sums

/-- `n` times the same summand. -/
noncomputable def times (n : Nat) : ExReal → ExReal
  | fin x => fin (n * x)
  | inf s => if n = 0 then fin 0 else inf s
  | nan => if n = 0 then fin 0 else nan

/-- An infinity that meets the other one is nan from then on, so the order does not matter. -/
noncomputable scoped instance addCommMonoid : AddCommMonoid ExReal where
  zero := fin 0
  zero_add a := by
    show add (fin 0) a = a
    cases a <;> simp [add]
  add_zero a := by
    show add a (fin 0) = a
    cases a <;> simp [add]
  add_comm a b := by
    show add a b = add b a
    cases a <;> cases b <;> simp [add, add_comm, eq_comm]
    next s t => rcases eq_or_ne s t with rfl | other <;> simp_all
  add_assoc a b c := by
    show add (add a b) c = add a (add b c)
    cases a <;> cases b <;> cases c <;> simp [add, add_assoc]
    all_goals split_ifs <;> simp_all
  nsmul := times
  nsmul_zero a := by
    show times 0 a = fin 0
    cases a <;> simp [times]
  nsmul_succ n a := by
    show times (n + 1) a = add (times n a) a
    cases a <;> rcases eq_or_ne n 0 with rfl | some <;> simp_all [times, add, add_mul]

/-- Counting everything `n` times changes no quotient of sums, whatever the sums are. -/
theorem nsmul_div_nsmul {n : Nat} (some : n ≠ 0) (a b : ExReal) : (n • a) / (n • b) = a / b := by
  have positive : (0 : ℝ) < n := by exact_mod_cast Nat.pos_of_ne_zero some
  have sign : ∀ x : ℝ, n * x < 0 ↔ x < 0 := fun x => by
    rw [mul_neg_iff]
    simp [positive, positive.not_gt]
  show div (times n a) (times n b) = div a b
  cases a <;> cases b <;> simp [times, div, some, sign, mul_div_mul_left, positive.ne']

end Sums

end ExReal

end Double
