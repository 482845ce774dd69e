import Mathlib.Order.Defs.Unbundled

/-!
# Programs that may stop

A program over a state `σ` returns a value or stops with some `ε`, and the state
reached is there in both cases: a stopped program leaves its effects behind, as a
C++ function does that throws after it has changed an object. `EStateM ε σ` is that
monad; this file adds what a development about such programs needs.

* `Ends x s Q E`: run from `s`, `x` returns with `Q` or stops with `E`. The lemmas
  `ends_*` compute it along the structure of a program, so that `simp only` with
  them executes a program symbolically.
* `Keeps I x`: whatever happens, `x` keeps the invariant `I`.
* `zoom`: a program on a part of the state, through a `Lens`.
* `andFinally` and `catching`: destructors and exception handlers.
-/

namespace Prog

variable {ε σ τ α β : Type}

/-! ## What holds at the end -/

/-- Run from `s`, the program `x` either returns some `a` in a state with `Q a`, or
stops with some `e` in a state with `E e`. -/
def Ends (x : EStateM ε σ α) (s : σ) (Q : α → σ → Prop) (E : ε → σ → Prop) : Prop :=
  match x.run s with
  | .ok a s' => Q a s'
  | .error e s' => E e s'

section Ends

variable {s : σ} {Q Q' : α → σ → Prop} {R : β → σ → Prop} {E E' : ε → σ → Prop}

@[simp] theorem ends_pure {a : α} : Ends (pure a : EStateM ε σ α) s Q E ↔ Q a s := Iff.rfl

@[simp] theorem ends_throw {e : ε} : Ends (throw e : EStateM ε σ α) s Q E ↔ E e s := Iff.rfl

@[simp] theorem ends_get {Q : σ → σ → Prop} : Ends (get : EStateM ε σ σ) s Q E ↔ Q s s := Iff.rfl

@[simp] theorem ends_set {t : σ} {Q : PUnit → σ → Prop} :
    Ends (set t : EStateM ε σ PUnit) s Q E ↔ Q ⟨⟩ t := Iff.rfl

@[simp] theorem ends_modify {f : σ → σ} {Q : PUnit → σ → Prop} :
    Ends (modify f : EStateM ε σ PUnit) s Q E ↔ Q ⟨⟩ (f s) := Iff.rfl

@[simp] theorem ends_bind {x : EStateM ε σ α} {f : α → EStateM ε σ β} :
    Ends (x >>= f) s R E ↔ Ends x s (fun a t => Ends (f a) t R E) E := by
  unfold Ends
  rw [EStateM.run_bind]
  cases x.run s <;> rfl

/-- Weakening of both postconditions. -/
theorem Ends.mono {x : EStateM ε σ α} (h : Ends x s Q E) (hQ : ∀ a t, Q a t → Q' a t)
    (hE : ∀ e t, E e t → E' e t) : Ends x s Q' E' := by
  unfold Ends at h ⊢
  cases hx : x.run s with
  | ok a t =>
    rw [hx] at h
    exact hQ a t h
  | error e t =>
    rw [hx] at h
    exact hE e t h

/-- The rule for a sequence: what the first program establishes is what the second starts from. -/
theorem Ends.bind {x : EStateM ε σ α} {f : α → EStateM ε σ β} (first : Ends x s Q E)
    (rest : ∀ a t, Q a t → Ends (f a) t R E) : Ends (x >>= f) s R E := by
  rw [ends_bind]
  exact first.mono rest fun _ _ stopped => stopped

/-- What always holds, holds at the end. -/
theorem Ends.of_forall {x : EStateM ε σ α} (hQ : ∀ a t, Q a t) (hE : ∀ e t, E e t) : Ends x s Q E := by
  unfold Ends
  split
  · exact hQ _ _
  · exact hE _ _

/-- Two facts about one run hold together. -/
theorem Ends.and {x : EStateM ε σ α} (h : Ends x s Q E) (h' : Ends x s Q' E') :
    Ends x s (fun a t => Q a t ∧ Q' a t) (fun e t => E e t ∧ E' e t) := by
  unfold Ends at h h' ⊢
  cases hx : x.run s with
  | ok a t =>
    rw [hx] at h h'
    exact ⟨h, h'⟩
  | error e t =>
    rw [hx] at h h'
    exact ⟨h, h'⟩

/-- The postcondition of a run that is known to return. -/
theorem Ends.of_ok {x : EStateM ε σ α} {a : α} {t : σ} (h : Ends x s Q E)
    (hx : x.run s = .ok a t) : Q a t := by
  unfold Ends at h
  rwa [hx] at h

/-- The postcondition of a run that is known to stop. -/
theorem Ends.of_error {x : EStateM ε σ α} {e : ε} {t : σ} (h : Ends x s Q E)
    (hx : x.run s = .error e t) : E e t := by
  unfold Ends at h
  rwa [hx] at h

theorem ends_of_ok {x : EStateM ε σ α} {a : α} {t : σ} (hx : x.run s = .ok a t) :
    Ends x s Q E ↔ Q a t := by
  unfold Ends
  rw [hx]

end Ends

/-- The state at the end of a run, however the run ends. -/
def final (r : EStateM.Result ε σ α) : σ :=
  match r with
  | .ok _ s => s
  | .error _ s => s

theorem Ends.final {x : EStateM ε σ α} {s : σ} {I : σ → Prop}
    (h : Ends x s (fun _ => I) (fun _ => I)) : I (Prog.final (x.run s)) := by
  unfold Ends at h
  cases hx : x.run s with
  | ok a t =>
    rw [hx] at h
    exact h
  | error e t =>
    rw [hx] at h
    exact h

/-! ## Invariants -/

/-- Whatever happens, `x` keeps the invariant `I`. -/
def Keeps (I : σ → Prop) (x : EStateM ε σ α) : Prop :=
  ∀ s, I s → Ends x s (fun _ => I) (fun _ => I)

section Keeps

variable {I : σ → Prop}

theorem Keeps.pure {a : α} : Keeps I (pure a : EStateM ε σ α) := fun _ h => h

theorem Keeps.throw {e : ε} : Keeps I (throw e : EStateM ε σ α) := fun _ h => h

theorem Keeps.get : Keeps I (get : EStateM ε σ σ) := fun _ h => h

theorem Keeps.modify {f : σ → σ} (h : ∀ s, I s → I (f s)) :
    Keeps I (modify f : EStateM ε σ PUnit) := fun s hs => h s hs

theorem Keeps.bind {x : EStateM ε σ α} {f : α → EStateM ε σ β} (hx : Keeps I x)
    (hf : ∀ a, Keeps I (f a)) : Keeps I (x >>= f) := by
  intro s hs
  rw [ends_bind]
  exact (hx s hs).mono (fun a t ht => hf a t ht) (fun _ _ h => h)

theorem Keeps.ite {c : Prop} [Decidable c] {x y : EStateM ε σ α} (hx : Keeps I x)
    (hy : Keeps I y) : Keeps I (if c then x else y) := by
  split
  · exact hx
  · exact hy

end Keeps

/-! ## Relations between the states -/

/-- Whatever happens, the state at the end of `x` is related to the state at its start, and `x`
stops with an `E` only. -/
def Moves (R : σ → σ → Prop) (E : ε → Prop) (x : EStateM ε σ α) : Prop :=
  ∀ s, Ends x s (fun _ t => R s t) (fun e t => R s t ∧ E e)

section Moves

variable {R : σ → σ → Prop} {E : ε → Prop}

theorem Moves.pure [Std.Refl R] {a : α} : Moves R E (pure a : EStateM ε σ α) := Std.Refl.refl

theorem Moves.throw [Std.Refl R] {e : ε} (stop : E e) : Moves R E (throw e : EStateM ε σ α) :=
  fun s => ⟨Std.Refl.refl s, stop⟩

theorem Moves.get [Std.Refl R] : Moves R E (get : EStateM ε σ σ) := Std.Refl.refl

theorem Moves.modify {f : σ → σ} (step : ∀ s, R s (f s)) :
    Moves R E (modify f : EStateM ε σ PUnit) := step

/-- What follows a program that moves from `s` to `t` moves from `s`. -/
theorem Moves.after [IsTrans σ R] {x : EStateM ε σ α} (moves : Moves R E x) {s t : σ} (st : R s t) :
    Ends x t (fun _ u => R s u) (fun e u => R s u ∧ E e) :=
  (moves t).mono (fun _ u tu => IsTrans.trans s t u st tu)
    (fun _ u ⟨tu, stop⟩ => ⟨IsTrans.trans s t u st tu, stop⟩)

theorem Moves.bind [IsTrans σ R] {x : EStateM ε σ α} {f : α → EStateM ε σ β}
    (first : Moves R E x) (rest : ∀ a, Moves R E (f a)) : Moves R E (x >>= f) := by
  intro s
  rw [ends_bind]
  exact (first s).mono (fun a _ st => (rest a).after st) (fun _ _ h => h)

/-- A new state that is related to the one it is computed from. -/
theorem Moves.get_set [IsTrans σ R] {f : σ → σ} {g : σ → EStateM ε σ α} (step : ∀ s, R s (f s))
    (rest : ∀ s, Moves R E (g s)) :
    Moves R E (MonadState.get >>= fun s => set (f s) >>= fun _ => g s) := by
  intro s
  rw [ends_bind, ends_get, ends_bind, ends_set]
  exact (rest s).after (step s)

theorem Moves.ite {c : Prop} [Decidable c] {x y : EStateM ε σ α} (hx : Moves R E x)
    (hy : Moves R E y) : Moves R E (if c then x else y) := by
  split
  · exact hx
  · exact hy

theorem Moves.imp {R' : σ → σ → Prop} {E' : ε → Prop} {x : EStateM ε σ α} (moves : Moves R E x)
    (rel : ∀ s t, R s t → R' s t) (stop : ∀ e, E e → E' e) : Moves R' E' x := fun s =>
  (moves s).mono (fun _ t st => rel s t st) (fun e t st => ⟨rel s t st.1, stop e st.2⟩)

/-- What is related to its start keeps what the relation keeps. -/
theorem Moves.keeps {I : σ → Prop} {x : EStateM ε σ α} (moves : Moves R E x)
    (keep : ∀ s t, R s t → I s → I t) : Keeps I x := fun s hs =>
  (moves s).mono (fun _ t st => keep s t st hs) (fun _ t st => keep s t st.1 hs)

end Moves

/-! ## A part of the state -/

/-- Access to a part `τ` of a state `σ`. -/
structure Lens (σ τ : Type) where
  get : σ → τ
  set : τ → σ → σ
  get_set : ∀ t s, get (set t s) = t
  set_get : ∀ s, set (get s) s = s

/-- A program on a part of the state, as a program on the whole. -/
def zoom (l : Lens σ τ) (x : EStateM ε τ α) : EStateM ε σ α := fun s =>
  match x.run (l.get s) with
  | .ok a t => .ok a (l.set t s)
  | .error e t => .error e (l.set t s)

@[simp] theorem ends_zoom {l : Lens σ τ} {x : EStateM ε τ α} {s : σ} {Q : α → σ → Prop}
    {E : ε → σ → Prop} :
    Ends (zoom l x) s Q E ↔
      Ends x (l.get s) (fun a t => Q a (l.set t s)) (fun e t => E e (l.set t s)) := by
  unfold Ends
  have hz : (zoom l x).run s = match x.run (l.get s) with
      | .ok a t => .ok a (l.set t s)
      | .error e t => .error e (l.set t s) := rfl
  rw [hz]
  cases x.run (l.get s) <;> rfl

/-- Where the run of the program on the part is known. -/
theorem ends_zoom_of_ok {l : Lens σ τ} {x : EStateM ε τ α} {s : σ} {part t : τ} {a : α}
    {Q : α → σ → Prop} {E : ε → σ → Prop} (run : x.run part = .ok a t) (here : l.get s = part) :
    Ends (zoom l x) s Q E ↔ Q a (l.set t s) := by
  rw [ends_zoom, here, ends_of_ok run]

theorem Keeps.zoom {l : Lens σ τ} {J : τ → Prop} {x : EStateM ε τ α} (keeps : Keeps J x) :
    Keeps (fun s => J (l.get s)) (zoom l x) := by
  intro s hs
  rw [ends_zoom]
  refine (keeps _ hs).mono (fun a t ht => ?_) (fun e t ht => ?_)
  · simpa only [l.get_set] using ht
  · simpa only [l.get_set] using ht

/-- What no new part breaks is kept by every program on the part. -/
theorem Keeps.zoom_frame {l : Lens σ τ} {I : σ → Prop} (frame : ∀ s t, I s → I (l.set t s))
    (x : EStateM ε τ α) : Keeps I (Prog.zoom l x) := by
  intro s hs
  rw [ends_zoom]
  exact .of_forall (fun _ t => frame s t hs) (fun _ t => frame s t hs)

/-- A program on a part moves the whole as it moves the part. -/
theorem Moves.zoom {l : Lens σ τ} {R : τ → τ → Prop} {S : σ → σ → Prop} {E : ε → Prop}
    {x : EStateM ε τ α} (moves : Moves R E x) (lift : ∀ s t, R (l.get s) t → S s (l.set t s)) :
    Moves S E (zoom l x) := by
  intro s
  rw [ends_zoom]
  exact (moves _).mono (fun _ t st => lift s t st) (fun _ t st => ⟨lift s t st.1, st.2⟩)

/-! ## Destructors and handlers -/

/-- `x`, and then `d` whether `x` returned or stopped with an `e` that unwinds the
stack. What `x` returned or stopped with is kept. -/
def andFinally (unwinds : ε → Bool) (x : EStateM ε σ α) (d : σ → σ) : EStateM ε σ α := fun s =>
  match x.run s with
  | .ok a t => .ok a (d t)
  | .error e t => .error e (if unwinds e then d t else t)

@[simp] theorem ends_andFinally {unwinds : ε → Bool} {x : EStateM ε σ α} {d : σ → σ} {s : σ}
    {Q : α → σ → Prop} {E : ε → σ → Prop} :
    Ends (andFinally unwinds x d) s Q E ↔
      Ends x s (fun a t => Q a (d t)) (fun e t => E e (if unwinds e then d t else t)) := by
  unfold Ends
  have hz : (andFinally unwinds x d).run s = match x.run s with
      | .ok a t => .ok a (d t)
      | .error e t => .error e (if unwinds e then d t else t) := rfl
  rw [hz]
  cases x.run s <;> rfl

theorem Keeps.andFinally {I : σ → Prop} {unwinds : ε → Bool} {x : EStateM ε σ α} {d : σ → σ}
    (keeps : Keeps I x) (destructor : ∀ s, I s → I (d s)) :
    Keeps I (Prog.andFinally unwinds x d) := by
  intro s hs
  rw [ends_andFinally]
  refine (keeps s hs).mono (fun _ t ht => destructor t ht) (fun e t ht => ?_)
  split
  · exact destructor t ht
  · exact ht

/-- `x` with a handler: where `x` stops with an `e` that `handler` accepts, the handler
goes on from the state reached. -/
def catching (x : EStateM ε σ α) (handler : ε → Option (EStateM ε σ α)) : EStateM ε σ α := fun s =>
  match x.run s with
  | .ok a t => .ok a t
  | .error e t =>
    match handler e with
    | some h => h.run t
    | none => .error e t

theorem catching_run_ok {x : EStateM ε σ α} {handler : ε → Option (EStateM ε σ α)} {s t : σ} {a : α}
    (hx : x.run s = .ok a t) : (catching x handler).run s = .ok a t := by
  unfold catching
  show EStateM.run (fun s => match x.run s with
    | .ok a t => EStateM.Result.ok a t
    | .error e t => match handler e with
      | some h => h.run t
      | none => .error e t) s = _
  simp only [EStateM.run] at hx ⊢
  rw [hx]

theorem catching_run_error {x h : EStateM ε σ α} {handler : ε → Option (EStateM ε σ α)} {s t : σ}
    {e : ε} (hx : x.run s = .error e t) (accepted : handler e = some h) :
    (catching x handler).run s = h.run t := by
  have hz : (catching x handler).run s = match x.run s with
      | .ok a t => .ok a t
      | .error e t => match handler e with
        | some h => h.run t
        | none => .error e t := rfl
  rw [hz, hx]
  dsimp only
  rw [accepted]

@[simp] theorem ends_catching {x : EStateM ε σ α} {handler : ε → Option (EStateM ε σ α)} {s : σ}
    {Q : α → σ → Prop} {E : ε → σ → Prop} :
    Ends (catching x handler) s Q E ↔
      Ends x s Q (fun e t => match handler e with
        | some h => Ends h t Q E
        | none => E e t) := by
  unfold Ends
  have hz : (catching x handler).run s = match x.run s with
      | .ok a t => .ok a t
      | .error e t => match handler e with
        | some h => h.run t
        | none => .error e t := rfl
  rw [hz]
  cases x.run s with
  | ok a t => rfl
  | error e t =>
    simp only
    cases handler e <;> rfl

theorem Moves.catching {R : σ → σ → Prop} [IsTrans σ R] {E : ε → Prop} {x : EStateM ε σ α}
    {handler : ε → Option (EStateM ε σ α)} (moves : Moves R E x)
    (handled : ∀ e y, handler e = some y → Moves R E y) : Moves R E (catching x handler) := by
  intro s
  rw [ends_catching]
  refine (moves s).mono (fun _ _ st => st) (fun e t st => ?_)
  cases accepted : handler e with
  | none => exact st
  | some y => exact (handled e y accepted).after st.1

end Prog
