import AprsWx.Lib.Prog

/-!
# Loops with fuel

A loop of a program is a recursion over fuel, and stops where the fuel is used up. It never is
where each turn takes something from the state of which there is less than fuel.

* `Takes μ k x`: the measure `μ` never grows in `x`, and `x` returns only after `μ` has
  become less by `k`.
* `Agree μ n x y`: `x` and `y` do the same from every state of measure less than `n`.
* `agree_of_turn`: with enough fuel, a loop each turn of which takes one does the same with more.
-/

namespace Prog

variable {ε σ τ α β : Type} {μ : σ → Nat} {k m n : Nat}

/-! ## Taking -/

def Takes (μ : σ → Nat) (k : Nat) (x : EStateM ε σ α) : Prop :=
  ∀ s, Ends x s (fun _ t => μ t + k ≤ μ s) (fun _ t => μ t ≤ μ s)

section Takes

theorem Takes.pure {a : α} : Takes μ 0 (pure a : EStateM ε σ α) := fun _ => Nat.le_refl _

theorem Takes.throw {e : ε} : Takes μ k (throw e : EStateM ε σ α) := fun _ => Nat.le_refl _

theorem Takes.get : Takes μ 0 (get : EStateM ε σ σ) := fun _ => Nat.le_refl _

theorem Takes.modify {f : σ → σ} (same : ∀ s, μ (f s) = μ s) :
    Takes μ 0 (modify f : EStateM ε σ PUnit) := fun s => Nat.le_of_eq (same s)

theorem Takes.bind_add {x : EStateM ε σ α} {f : α → EStateM ε σ β} (first : Takes μ k x)
    (rest : ∀ a, Takes μ m (f a)) : Takes μ (k + m) (x >>= f) := by
  intro s
  rw [ends_bind]
  refine (first s).mono (fun a t less => ?_) (fun _ _ less => less)
  exact (rest a t).mono (fun _ u less' => by omega) (fun _ u less' => by omega)

theorem Takes.bind {x : EStateM ε σ α} {f : α → EStateM ε σ β} (first : Takes μ k x)
    (rest : ∀ a, Takes μ 0 (f a)) : Takes μ k (x >>= f) := first.bind_add rest

theorem Takes.later {x : EStateM ε σ α} {f : α → EStateM ε σ β} (first : Takes μ 0 x)
    (rest : ∀ a, Takes μ k (f a)) : Takes μ k (x >>= f) := by
  have both := first.bind_add rest
  rwa [Nat.zero_add] at both

theorem Takes.ite {c : Prop} [Decidable c] {x y : EStateM ε σ α} (hx : Takes μ k x)
    (hy : Takes μ k y) : Takes μ k (if c then x else y) := by
  split
  · exact hx
  · exact hy

theorem Takes.weaken {x : EStateM ε σ α} (takes : Takes μ k x) (less : m ≤ k) : Takes μ m x :=
  fun s => (takes s).mono (fun _ _ more => by omega) (fun _ _ more => more)

/-- What moves along a relation that never makes the measure greater. -/
theorem Moves.takes {R : σ → σ → Prop} {E : ε → Prop} {x : EStateM ε σ α} (moves : Moves R E x)
    (less : ∀ s t, R s t → μ t ≤ μ s) : Takes μ 0 x :=
  fun s => (moves s).mono (fun _ t st => less s t st) (fun _ t st => less s t st.1)

theorem Takes.zoom {l : Lens σ τ} {ν : τ → Nat} {x : EStateM ε τ α} (takes : Takes ν k x)
    (part : ∀ s, μ s = ν (l.get s)) : Takes μ k (zoom l x) := by
  intro s
  rw [ends_zoom]
  refine (takes (l.get s)).mono (fun _ t less => ?_) (fun _ t less => ?_)
  · rw [part, part, l.get_set]
    exact less
  · rw [part, part, l.get_set]
    exact less

end Takes

/-! ## Agreement -/

def Agree (μ : σ → Nat) (n : Nat) (x y : EStateM ε σ α) : Prop := ∀ s, μ s < n → x.run s = y.run s

section Agree

theorem Agree.refl {x : EStateM ε σ α} : Agree μ n x x := fun _ _ => rfl

theorem Agree.bind_add {x : EStateM ε σ α} {f g : α → EStateM ε σ β} (first : Takes μ k x)
    (rest : ∀ a, Agree μ n (f a) (g a)) : Agree μ (n + k) (x >>= f) (x >>= g) := by
  intro s small
  rw [EStateM.run_bind, EStateM.run_bind]
  have taken := first s
  unfold Ends at taken
  cases run : x.run s with
  | ok a t =>
    rw [run] at taken
    exact rest a t (by omega)
  | error e t => rfl

theorem Agree.bind {x : EStateM ε σ α} {f g : α → EStateM ε σ β} (first : Takes μ 0 x)
    (rest : ∀ a, Agree μ n (f a) (g a)) : Agree μ n (x >>= f) (x >>= g) := Agree.bind_add first rest

/-- After a program that takes one, less agreement is enough. -/
theorem Agree.step {x : EStateM ε σ α} {f g : α → EStateM ε σ β} (first : Takes μ 1 x)
    (rest : ∀ a, Agree μ n (f a) (g a)) : Agree μ (n + 1) (x >>= f) (x >>= g) :=
  Agree.bind_add first rest

theorem Agree.ite {c : Prop} [Decidable c] {x x' y y' : EStateM ε σ α} (hx : Agree μ n x x')
    (hy : Agree μ n y y') : Agree μ n (if c then x else y) (if c then x' else y') := by
  split
  · exact hx
  · exact hy

/-- The induction over the fuel: if a turn takes one before it goes on to the next turn, then
the loop does the same with any two amounts of fuel that are enough. -/
theorem agree_of_turn {ι : Type} (loop : Nat → ι → EStateM ε σ α)
    (turn : ∀ fuel fuel' n, (∀ i, Agree μ n (loop fuel i) (loop fuel' i)) →
      ∀ i, Agree μ (n + 1) (loop (fuel + 1) i) (loop (fuel' + 1) i))
    {fuel fuel' : Nat} (enough : n ≤ fuel) (enough' : n ≤ fuel') (i : ι) :
    Agree μ n (loop fuel i) (loop fuel' i) := by
  induction n generalizing fuel fuel' i with
  | zero => exact fun s small => absurd small (Nat.not_lt_zero _)
  | succ n ih =>
    obtain ⟨fuel, rfl⟩ := Nat.exists_eq_add_of_le' enough
    obtain ⟨fuel', rfl⟩ := Nat.exists_eq_add_of_le' enough'
    exact turn (fuel + n) (fuel' + n) n
      (fun i => ih (Nat.le_add_left n fuel) (Nat.le_add_left n fuel') i) i

end Agree

end Prog
