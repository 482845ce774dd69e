import Mathlib.Data.Finset.Card
import AprsWx.Lib.Trace

/-!
# Owners of resources

Objects that hold one resource at most. An object acquires resources of a system, one at a time
and with the last one kept, releases the one it holds, or takes over that of another object. An
object that takes a resource while it holds another one loses that: it stays open and nobody can
release it any more.

* `opened`, `Fresh`, `Rightful`: the resources open after a log, and what the system and the
  objects owe each other.
* `Owned`: an open resource is lost or has one owner.
* `Step`, `Run`: what objects do, with the number of resources they lose.
* `Run.owned`: every run keeps `Owned`, releases nothing that is not open, and leaves behind as many
  lost resources as it has lost.
-/

namespace Ownership

open Trace

variable {ι ρ : Type} [DecidableEq ι] [DecidableEq ρ]

/-! ## Logs -/

/-- The resources open after an operation. -/
def next (live : Finset ρ) : Op ρ → Finset ρ
  | .acquire r => insert r live
  | .release r => live.erase r

/-- The resources open after a log. -/
def opened (live : Finset ρ) (log : List (Op ρ)) : Finset ρ := log.foldl next live

/-- The system hands out what is not open. -/
def Fresh : Finset ρ → List (Op ρ) → Prop
  | _, [] => True
  | live, op :: log => (∀ r, op = .acquire r → r ∉ live) ∧ Fresh (next live op) log

/-- Only what is open is released. -/
def Rightful : Finset ρ → List (Op ρ) → Prop
  | _, [] => True
  | live, op :: log => (∀ r, op = .release r → r ∈ live) ∧ Rightful (next live op) log

section Logs

variable {live : Finset ρ} {l r : List (Op ρ)}

theorem opened_append : opened live (l ++ r) = opened (opened live l) r := List.foldl_append

theorem fresh_append : Fresh live (l ++ r) ↔ Fresh live l ∧ Fresh (opened live l) r := by
  induction l generalizing live with
  | nil => exact (true_and _).to_iff.symm
  | cons op l ih =>
    rw [List.cons_append, Fresh, Fresh, ih, and_assoc]
    rfl

theorem rightful_append : Rightful live (l ++ r) ↔ Rightful live l ∧ Rightful (opened live l) r := by
  induction l generalizing live with
  | nil => exact (true_and _).to_iff.symm
  | cons op l ih =>
    rw [List.cons_append, Rightful, Rightful, ih, and_assoc]
    rfl

end Logs

/-! ## A slot among other resources -/

/-- The resources `live`, and the one that a slot holds. -/
def withSlot (live : Finset ρ) : Option ρ → Finset ρ
  | some r => insert r live
  | none => live

theorem mem_withSlot {live : Finset ρ} {held : Option ρ} {r : ρ} :
    r ∈ withSlot live held ↔ held = some r ∨ r ∈ live := by
  cases held with
  | none => simp [withSlot]
  | some s => simp [withSlot, eq_comm]

/-- What a slot does among other resources leaves these alone. -/
theorem slot_opened {live : Finset ρ} {log : List (Op ρ)} {start held : Option ρ}
    (read : after slot start log = some held) (apart : ∀ r, start = some r → r ∉ live)
    (fresh : Fresh (withSlot live start) log) :
    Rightful (withSlot live start) log ∧ opened (withSlot live start) log = withSlot live held ∧
      ∀ r, held = some r → r ∉ live := by
  induction log generalizing start with
  | nil =>
    obtain rfl : start = held := Option.some.inj read
    exact ⟨trivial, rfl, apart⟩
  | cons op log ih =>
    rw [after_cons] at read
    obtain ⟨middle, step, rest⟩ := Option.bind_eq_some_iff.mp read
    obtain ⟨first, fresh⟩ := fresh
    cases op with
    | acquire r =>
      obtain ⟨rfl, rfl⟩ : start = none ∧ some r = middle := by simpa [slot] using step
      have new : r ∉ live := first r rfl
      have alone : ∀ s, some r = some s → s ∉ live := fun s same => Option.some.inj same ▸ new
      obtain ⟨rightful, after_, apart⟩ := ih rest alone fresh
      exact ⟨⟨fun _ other => (by cases other), rightful⟩, after_, apart⟩
    | release r =>
      obtain ⟨rfl, rfl⟩ : start = some r ∧ none = middle := by simpa [slot] using step
      have left : next (insert r live) (.release r) = live :=
        Finset.erase_insert (apart r rfl)
      simp only [withSlot, left] at fresh
      obtain ⟨rightful, after_, apart⟩ := ih rest (fun _ none => by cases none) fresh
      refine ⟨⟨fun s same => ?_, ?_⟩, ?_, apart⟩
      · obtain rfl := Op.release.inj same
        exact Finset.mem_insert_self _ _
      · simp only [withSlot, left]
        exact rightful
      · show opened (next (insert r live) (.release r)) log = _
        rw [left]
        exact after_

/-! ## Owners -/

/-- The resource that each object holds, and the resources that are lost. -/
structure Owners (ι ρ : Type) where
  held : ι → Option ρ
  lost : Finset ρ

/-- Before anything has been acquired. -/
def Owners.start : Owners ι ρ := ⟨fun _ => none, ∅⟩

/-- An open resource is held by one object, or it is lost. -/
structure Owned (o : Owners ι ρ) (live : Finset ρ) : Prop where
  live_iff : ∀ r, r ∈ live ↔ (∃ i, o.held i = some r) ∨ r ∈ o.lost
  apart : ∀ i r, o.held i = some r → r ∉ o.lost
  single : ∀ i j r, o.held i = some r → o.held j = some r → i = j

omit [DecidableEq ι] [DecidableEq ρ] in
theorem Owned.start : Owned (Owners.start : Owners ι ρ) ∅ where
  live_iff r := by simp [Owners.start]
  apart i r none := by cases none
  single i j r none := by cases none

section Changes

variable (o : Owners ι ρ) (i j : ι)

/-- The object `i` forgets what it holds. -/
def Owners.lose : Owners ι ρ := ⟨Function.update o.held i none, withSlot o.lost (o.held i)⟩

/-- The object `i` has released what it holds. -/
def Owners.drop : Owners ι ρ := ⟨Function.update o.held i none, o.lost⟩

/-- The object `i` gets what it has acquired. -/
def Owners.give (got : Option ρ) : Owners ι ρ := ⟨Function.update o.held i got, o.lost⟩

/-- The object `i` gets what `j` holds. -/
def Owners.pass : Owners ι ρ := ⟨Function.update (Function.update o.held i (o.held j)) j none, o.lost⟩

theorem Owners.lose_self : (o.lose i).held i = none := by simp [Owners.lose]

/-- How many resources are lost when `i` forgets what it holds. -/
def Owners.losses : Nat := if (o.held i).isSome then 1 else 0

end Changes

section Owned

variable {o : Owners ι ρ} {live : Finset ρ} {i j : ι} {r : ρ}

omit [DecidableEq ρ] in
theorem update_none_iff {held : ι → Option ρ} {k : ι} :
    Function.update held i none k = some r ↔ k ≠ i ∧ held k = some r := by
  rcases eq_or_ne k i with rfl | other
  · simp
  · simp [other]

theorem Owned.lose (owned : Owned o live) : Owned (o.lose i) live where
  live_iff r := by
    rw [owned.live_iff]
    constructor
    · rintro (⟨k, held⟩ | lost)
      · rcases eq_or_ne k i with rfl | other
        · exact .inr (mem_withSlot.mpr (.inl held))
        · exact .inl ⟨k, update_none_iff.mpr ⟨other, held⟩⟩
      · exact .inr (mem_withSlot.mpr (.inr lost))
    · rintro (⟨k, held⟩ | lost)
      · exact .inl ⟨k, (update_none_iff.mp held).2⟩
      · rcases mem_withSlot.mp lost with held | lost
        · exact .inl ⟨i, held⟩
        · exact .inr lost
  apart k r held := by
    obtain ⟨other, held⟩ := update_none_iff.mp held
    intro lost
    rcases mem_withSlot.mp lost with held' | lost
    · exact other (owned.single k i r held held')
    · exact owned.apart k r held lost
  single k l r held held' :=
    owned.single k l r (update_none_iff.mp held).2 (update_none_iff.mp held').2

/-- What is lost was held, so it has not been lost before. -/
theorem Owned.card_lose (owned : Owned o live) :
    (o.lose i).lost.card = o.lost.card + o.losses i := by
  unfold Owners.lose Owners.losses
  cases held : o.held i with
  | none => rfl
  | some r => exact Finset.card_insert_of_notMem (owned.apart i r held)

theorem Owned.drop (owned : Owned o live) (held : o.held i = some r) :
    Owned (o.drop i) (live.erase r) where
  live_iff s := by
    rw [Finset.mem_erase, owned.live_iff]
    constructor
    · rintro ⟨other, ⟨k, held'⟩ | lost⟩
      · refine .inl ⟨k, update_none_iff.mpr ⟨?_, held'⟩⟩
        rintro rfl
        exact other (Option.some.inj (held'.symm.trans held))
      · exact .inr lost
    · rintro (⟨k, held'⟩ | lost)
      · obtain ⟨other, held'⟩ := update_none_iff.mp held'
        refine ⟨?_, .inl ⟨k, held'⟩⟩
        rintro rfl
        exact other (owned.single k i s held' held)
      · refine ⟨?_, .inr lost⟩
        rintro rfl
        exact owned.apart i s held lost
  apart k s held' := owned.apart k s (update_none_iff.mp held').2
  single k l s held' held'' :=
    owned.single k l s (update_none_iff.mp held').2 (update_none_iff.mp held'').2

/-- An object without a resource gets one that is new. -/
theorem Owned.give (owned : Owned o live) (empty : o.held i = none) {got : Option ρ}
    (new : ∀ r, got = some r → r ∉ live) : Owned (o.give i got) (withSlot live got) := by
  have held_iff : ∀ k r, (o.give i got).held k = some r ↔ k = i ∧ got = some r ∨ o.held k = some r := by
    intro k r
    unfold Owners.give
    rcases eq_or_ne k i with rfl | other
    · simp [empty]
    · simp [other]
  have known : ∀ k r, o.held k = some r → r ∈ live := fun k r held =>
    (owned.live_iff r).mpr (.inl ⟨k, held⟩)
  refine ⟨fun r => ?_, fun k r held => ?_, fun k l r held held' => ?_⟩
  · rw [mem_withSlot, owned.live_iff]
    constructor
    · rintro (is | ⟨k, held⟩ | lost)
      · exact .inl ⟨i, (held_iff i r).mpr (.inl ⟨rfl, is⟩)⟩
      · exact .inl ⟨k, (held_iff k r).mpr (.inr held)⟩
      · exact .inr lost
    · rintro (⟨k, held⟩ | lost)
      · rcases (held_iff k r).mp held with ⟨-, is⟩ | held
        · exact .inl is
        · exact .inr (.inl ⟨k, held⟩)
      · exact .inr (.inr lost)
  · rcases (held_iff k r).mp held with ⟨-, is⟩ | held
    · exact fun lost => new r is ((owned.live_iff r).mpr (.inr lost))
    · exact owned.apart k r held
  · rcases (held_iff k r).mp held with ⟨rfl, is⟩ | old <;>
      rcases (held_iff l r).mp held' with ⟨rfl, is'⟩ | old'
    · rfl
    · exact absurd (known l r old') (new r is)
    · exact absurd (known k r old) (new r is')
    · exact owned.single k l r old old'

omit [DecidableEq ρ] in
/-- An object without a resource gets that of another one. -/
theorem Owned.pass (owned : Owned o live) (empty : o.held i = none) : Owned (o.pass i j) live := by
  have held_iff : ∀ k r, (o.pass i j).held k = some r ↔
      k ≠ j ∧ (k = i ∧ o.held j = some r ∨ o.held k = some r) := by
    intro k r
    unfold Owners.pass
    rw [update_none_iff]
    rcases eq_or_ne k i with rfl | other
    · simp [empty]
    · simp [other]
  refine ⟨fun r => ?_, fun k r held => ?_, fun k l r held held' => ?_⟩
  · rw [owned.live_iff]
    constructor
    · rintro (⟨k, held⟩ | lost)
      · rcases eq_or_ne k j with rfl | other
        · rcases eq_or_ne i k with rfl | apart
          · rw [empty] at held
            cases held
          · exact .inl ⟨i, (held_iff i r).mpr ⟨apart, .inl ⟨rfl, held⟩⟩⟩
        · exact .inl ⟨k, (held_iff k r).mpr ⟨other, .inr held⟩⟩
      · exact .inr lost
    · rintro (⟨k, held⟩ | lost)
      · obtain ⟨-, ⟨-, held⟩ | held⟩ := (held_iff k r).mp held
        · exact .inl ⟨j, held⟩
        · exact .inl ⟨k, held⟩
      · exact .inr lost
  · obtain ⟨-, ⟨-, held⟩ | held⟩ := (held_iff k r).mp held
    · exact owned.apart j r held
    · exact owned.apart k r held
  · obtain ⟨apart, ⟨rfl, passed⟩ | kept⟩ := (held_iff k r).mp held <;>
      obtain ⟨apart', ⟨rfl, passed'⟩ | kept'⟩ := (held_iff l r).mp held'
    · rfl
    · exact absurd (owned.single l j r kept' passed) apart'
    · exact absurd (owned.single k j r kept passed') apart
    · exact owned.single k l r kept kept'

end Owned

/-! ## Runs -/

/-- What an object does, with the log of it and the number of resources that it loses. -/
inductive Step (o : Owners ι ρ) : List (Op ρ) → Nat → Owners ι ρ → Prop
  | acquire (i : ι) {log : List (Op ρ)} {got : Option ρ} (read : after slot none log = some got) :
      Step o log (o.losses i) ((o.lose i).give i got)
  | release (i : ι) {r : ρ} (held : o.held i = some r) : Step o [.release r] 0 (o.drop i)
  | pass (i j : ι) : Step o [] (o.losses i) ((o.lose i).pass i j)

/-- The steps of objects that start without resources. -/
inductive Run : List (Op ρ) → Nat → Owners ι ρ → Prop
  | start : Run [] 0 Owners.start
  | step {log l : List (Op ρ)} {n m : Nat} {o p : Owners ι ρ} :
      Run log n o → Step o l m p → Run (log ++ l) (n + m) p

section Runs

variable {o p : Owners ι ρ} {live : Finset ρ} {log : List (Op ρ)} {n : Nat}

theorem Step.owned (step : Step o log n p) (owned : Owned o live) (fresh : Fresh live log) :
    Owned p (opened live log) ∧ Rightful live log ∧ p.lost.card = o.lost.card + n := by
  cases step with
  | acquire i read =>
    obtain ⟨rightful, after_, new⟩ := slot_opened read (fun _ none => by cases none) fresh
    refine ⟨?_, rightful, owned.card_lose⟩
    have given := owned.lose.give (o.lose_self i) new
    exact after_ ▸ given
  | release i held =>
    refine ⟨owned.drop held, ⟨fun r same => ?_, trivial⟩, rfl⟩
    obtain rfl := Op.release.inj same
    exact (owned.live_iff _).mpr (.inl ⟨i, held⟩)
  | pass i j => exact ⟨owned.lose.pass (o.lose_self i), trivial, owned.card_lose⟩

theorem Run.owned (run : Run log n o) (fresh : Fresh ∅ log) :
    Owned o (opened ∅ log) ∧ Rightful ∅ log ∧ o.lost.card = n := by
  induction run with
  | start => exact ⟨.start, trivial, rfl⟩
  | step run step ih =>
    obtain ⟨before, fresh⟩ := fresh_append.mp fresh
    obtain ⟨owned, rightful, lost⟩ := ih before
    obtain ⟨owned', rightful', lost'⟩ := step.owned owned fresh
    refine ⟨?_, rightful_append.mpr ⟨rightful, rightful'⟩, ?_⟩
    · rw [opened_append]
      exact owned'
    · rw [lost', lost]

end Runs

end Ownership
