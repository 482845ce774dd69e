import Mathlib.Data.List.Perm.Basic
import Mathlib.Data.List.Count

/-!
# Traces

A log of what a program did, and what is said about it.

* `after next q log`: a monitor reads the log from the state `q` on, and gives up at the
  first entry that it does not allow. A log that it reads to the end is allowed, and so
  is each of its prefixes.
* `Throughout`: what holds of every entry and the entries before it.
* `slot`: the monitor of resources of which one is held at a time. It gives up when a second
  one is acquired, and at the release of what is not held.
-/

namespace Trace

/-! ## Monitors -/

section Monitor

variable {σ ε : Type} {next : σ → ε → Option σ} {q p : σ} {l r : List ε} {e : ε}

/-- The state of a monitor after the entries of a log, from the state `q`. -/
def after (next : σ → ε → Option σ) (q : σ) (log : List ε) : Option σ := log.foldlM next q

theorem after_cons : after next q (e :: l) = (next q e).bind fun p => after next p l := rfl

theorem after_append :
    after next q (l ++ r) = (after next q l).bind fun p => after next p r := by
  unfold after
  rw [List.foldlM_append]
  rfl

theorem after_concat (read : after next q l = some p) : after next q (l ++ [e]) = next p e := by
  rw [after_append, read, Option.bind_some, after_cons]
  cases next p e <;> rfl

/-- A log that is read to the end splits at a state. -/
theorem after_split (read : after next q (l ++ r) = some p) :
    ∃ m, after next q l = some m ∧ after next m r = some p := by
  rw [after_append] at read
  exact Option.bind_eq_some_iff.mp read

/-- Entries that leave a state as it is. -/
theorem after_of_stay (stay : ∀ e ∈ l, next q e = some q) : after next q l = some q := by
  induction l with
  | nil => rfl
  | cons e l ih =>
    rw [after_cons, stay e List.mem_cons_self, Option.bind_some]
    exact ih fun e mem => stay e (List.mem_cons_of_mem _ mem)

end Monitor

/-! ## Histories -/

section History

variable {ε : Type} {h : List ε} {Q : List ε → ε → Prop}

/-- `Q` holds of every entry of a history and the entries before it. -/
def Throughout (Q : List ε → ε → Prop) (h : List ε) : Prop :=
  ∀ pre e post, h = pre ++ e :: post → Q pre e

theorem throughout_nil : Throughout Q [] := by
  intro pre e post split
  cases pre <;> cases split

/-- A history grows at its end. -/
theorem Throughout.concat (before : Throughout Q h) {e : ε} (last : Q h e) :
    Throughout Q (h ++ [e]) := by
  intro pre e' post split
  rcases List.eq_nil_or_concat' post with rfl | ⟨post, e'', rfl⟩
  · obtain ⟨rfl, equal⟩ := List.append_inj' split rfl
    cases equal
    exact last
  · rw [← List.cons_append, ← List.append_assoc] at split
    obtain ⟨rfl, -⟩ := List.append_inj' split rfl
    exact before pre e' post rfl

end History

/-! ## Slots -/

/-- Acquiring and releasing resources. -/
inductive Op (ρ : Type)
  | acquire (r : ρ)
  | release (r : ρ)
  deriving DecidableEq

section Slot

variable {ρ : Type} [DecidableEq ρ] {log : List (Op ρ)} {start held : Option ρ}

/-- The resource held: there is none when one is acquired, and it is the one that is released. -/
def slot (held : Option ρ) : Op ρ → Option (Option ρ)
  | .acquire r => if held = none then some (some r) else none
  | .release r => if held = some r then some none else none

/-- How often a slot holds `r`. -/
def holds (held : Option ρ) (r : ρ) : Nat := if held = some r then 1 else 0

theorem holds_none (r : ρ) : holds none r = 0 := rfl

theorem holds_self (r : ρ) : holds (some r) r = 1 := if_pos rfl

theorem holds_other {r s : ρ} (other : s ≠ r) : holds (some s) r = 0 :=
  if_neg fun equal => other (Option.some.inj equal)

/-- Every resource has been released as often as it was acquired, but for the one held. -/
theorem count_acquire (read : after slot start log = some held) (r : ρ) :
    holds start r + log.count (.acquire r) = log.count (.release r) + holds held r := by
  induction log generalizing start with
  | nil =>
    obtain rfl : start = held := Option.some.inj read
    simp
  | cons op log ih =>
    rw [after_cons] at read
    obtain ⟨next, step, rest⟩ := Option.bind_eq_some_iff.mp read
    have count := ih rest
    cases op with
    | acquire s =>
      obtain ⟨rfl, rfl⟩ : start = none ∧ some s = next := by simpa [slot] using step
      rw [holds_none, List.count_cons_of_ne (show Op.acquire s ≠ .release r by simp)]
      rcases eq_or_ne s r with rfl | other
      · rw [holds_self] at count
        rw [List.count_cons_self]
        omega
      · rw [holds_other other] at count
        rw [List.count_cons_of_ne (by simpa using other)]
        exact count
    | release s =>
      obtain ⟨rfl, rfl⟩ : start = some s ∧ none = next := by simpa [slot] using step
      rw [holds_none] at count
      rw [List.count_cons_of_ne (show Op.release s ≠ .acquire r by simp)]
      rcases eq_or_ne s r with rfl | other
      · rw [holds_self, List.count_cons_self]
        omega
      · rw [holds_other other, List.count_cons_of_ne (by simpa using other)]
        exact count

end Slot

end Trace
