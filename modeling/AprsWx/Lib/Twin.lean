import AprsWx.Lib.Prog

/-!
# Two runs

What relates two runs of programs that may stop, each from its own state: both return, or both
stop. With the rules along the structure of the programs, a simulation is one lemma for each
function.
-/

namespace Prog

variable {ε σ τ α β α' β' : Type}

/-- `x` from `s` and `y` from `t` both return with `Q`, or both stop with `E`. -/
def Twin (x : EStateM ε σ α) (y : EStateM ε τ β) (s : σ) (t : τ) (Q : α → σ → β → τ → Prop)
    (E : ε → σ → ε → τ → Prop) : Prop :=
  match x.run s, y.run t with
  | .ok a s', .ok b t' => Q a s' b t'
  | .error e s', .error e' t' => E e s' e' t'
  | _, _ => False

section

variable {s s' : σ} {t t' : τ} {Q : α → σ → β → τ → Prop} {E : ε → σ → ε → τ → Prop}
  {x : EStateM ε σ α} {y : EStateM ε τ β} {R : α' → σ → β' → τ → Prop} {f : α → EStateM ε σ α'}
  {g : β → EStateM ε τ β'}

theorem Twin.pure {a : α} {b : β} (related : Q a s b t) :
    Twin (pure a : EStateM ε σ α) (pure b : EStateM ε τ β) s t Q E := related

theorem Twin.of_ok {a : α} {b : β} (left : x.run s = .ok a s') (right : y.run t = .ok b t')
    (related : Q a s' b t') : Twin x y s t Q E := by
  unfold Twin
  rw [left, right]
  exact related

theorem Twin.of_error {e e' : ε} (left : x.run s = .error e s') (right : y.run t = .error e' t')
    (related : E e s' e' t') : Twin x y s t Q E := by
  unfold Twin
  rw [left, right]
  exact related

/-- The rule for a sequence: the results of the first programs are what the others start from. -/
theorem Twin.bind (first : Twin x y s t Q E)
    (rest : ∀ a s' b t', Q a s' b t' → Twin (f a) (g b) s' t' R E) :
    Twin (x >>= f) (y >>= g) s t R E := by
  unfold Twin at first rest ⊢
  rw [EStateM.run_bind, EStateM.run_bind]
  cases left : x.run s with
  | ok a s' =>
    cases right : y.run t with
    | ok b t' =>
      rw [left, right] at first
      exact rest a s' b t' first
    | error e t' =>
      rw [left, right] at first
      exact first.elim
  | error e s' =>
    cases right : y.run t with
    | ok b t' =>
      rw [left, right] at first
      exact first.elim
    | error e' t' =>
      rw [left, right] at first
      exact first

theorem Twin.bind_ok {a : α} {b : β} (left : x.run s = .ok a s') (right : y.run t = .ok b t')
    (rest : Twin (f a) (g b) s' t' R E) : Twin (x >>= f) (y >>= g) s t R E := by
  unfold Twin at rest ⊢
  rw [EStateM.run_bind, EStateM.run_bind, left, right]
  exact rest

theorem Twin.get_bind {f : σ → EStateM ε σ α} {g : τ → EStateM ε τ β}
    (rest : Twin (f s) (g t) s t Q E) : Twin (get >>= f) (get >>= g) s t Q E := rest

theorem Twin.modify_bind {l : σ → σ} {r : τ → τ} {f : PUnit → EStateM ε σ α}
    {g : PUnit → EStateM ε τ β} (rest : Twin (f ⟨⟩) (g ⟨⟩) (l s) (r t) Q E) :
    Twin (modify l >>= f) (modify r >>= g) s t Q E := rest

/-- A branch that both programs take alike. -/
theorem Twin.ite {c d : Prop} [Decidable c] [Decidable d] {x' : EStateM ε σ α} {y' : EStateM ε τ β}
    (same : c ↔ d) (positive : c → Twin x y s t Q E) (negative : ¬ c → Twin x' y' s t Q E) :
    Twin (if c then x else x') (if d then y else y') s t Q E := by
  by_cases holds : c
  · rw [if_pos holds, if_pos (same.mp holds)]
    exact positive holds
  · rw [if_neg holds, if_neg (mt same.mpr holds)]
    exact negative holds

end

end Prog
