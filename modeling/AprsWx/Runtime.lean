import Mathlib.Algebra.Group.Nat.Defs
import Mathlib.Logic.Basic
import AprsWx.Lib.Prog

/-!
# What the C++ code rests on

How a run of the program can stop, and `std::string` with the cursors of type
`std::size_t` that walk over it.

A function of the source is a program over the object it belongs to. It stops with an
exception, with `exit`, or with undefined behaviour; a fourth way to stop, `pending`,
is no event of the program: it ends the observation of a run that goes on.
-/

namespace AprsWx

/-! ## Stopping -/

/-- The function that calls `.value()` on an optional, so that a `bad_optional_access`
says where it comes from. -/
inductive Site
  | setBearingDistance
  | aggregateData
  | printInfluxFormat
  | main
  deriving DecidableEq

/-- Exceptions, all of them derived from `std::exception`. -/
inductive Exn
  | outOfRange
  | rangeError
  | logicError
  | badOptionalAccess (site : Site)
  | weatherValueError
  deriving DecidableEq

/-- How a run stops other than by returning. -/
inductive Stop
  | pending
  | undefined
  | exited (code : Nat)
  | thrown (e : Exn)
  deriving DecidableEq

/-- Unwinding the stack runs destructors; `exit` does not. -/
def Stop.unwinds : Stop → Bool
  | .thrown _ => true
  | _ => false

/-- A stop that no optional of the aggregator causes. -/
def Stop.Elsewhere (e : Stop) : Prop :=
  e ≠ .thrown (.badOptionalAccess .aggregateData) ∧
    e ≠ .thrown (.badOptionalAccess .printInfluxFormat)

section
variable {σ α : Type}

/-- `o.value()`. -/
def value (site : Site) (o : Option α) : EStateM Stop σ α :=
  match o with
  | some a => pure a
  | none => throw (.thrown (.badOptionalAccess site))

@[simp] theorem value_some {site : Site} {a : α} :
    (value site (some a) : EStateM Stop σ α) = pure a := rfl

theorem ends_value {site : Site} {o : Option α} {s : σ} {Q : α → σ → Prop} {E : Stop → σ → Prop}
    (present : ∀ a, o = some a → Q a s) (absent : E (.thrown (.badOptionalAccess site)) s) :
    Prog.Ends (value site o) s Q E := by
  cases o with
  | none => exact absent
  | some a => exact present a rfl

theorem value_keeps {I : σ → Prop} (site : Site) (o : Option α) : Prog.Keeps I (value site o) :=
  fun _ holds => ends_value (fun _ _ => holds) holds

end

/-! ## std::size_t -/

/-- `std::string::npos`, the largest `std::size_t`. -/
def npos : Nat := 2 ^ 64 - 1

/-- `a + b` of type `std::size_t`. -/
def addSize (a b : Nat) : Nat := (a + b) % 2 ^ 64

/-- `a - b` of type `std::size_t`, with the borrow written out. -/
def subSize (a b : Nat) : Nat := if b ≤ a then a - b else 2 ^ 64 - (b - a)

/-- `std::string::max_size()`: a string is an array of `char`, so its size fits
`std::ptrdiff_t`. -/
def maxSize : Nat := 2 ^ 63 - 1

theorem addSize_eq {a b : Nat} (h : a + b < 2 ^ 64) : addSize a b = a + b := Nat.mod_eq_of_lt h

theorem subSize_zero (a : Nat) : subSize a 0 = a := if_pos (Nat.zero_le a)

theorem addSize_npos : addSize npos 1 = 0 := by decide

/-! ## std::string -/

/-- `find` splits a text at the first `c`. -/
theorem idxOf?_cases (c : Char) (text : List Char) :
    (text.idxOf? c = none ∧ c ∉ text) ∨
      ∃ i, text.idxOf? c = some i ∧ i < text.length ∧ c ∈ text ∧
        text.take i = text.takeWhile (· ≠ c) ∧ text.drop (i + 1) = (text.dropWhile (· ≠ c)).tail := by
  induction text with
  | nil => exact .inl ⟨rfl, List.not_mem_nil⟩
  | cons a text ih =>
    rcases eq_or_ne a c with rfl | ha
    · refine .inr ⟨0, ?_⟩
      simp [List.idxOf?_cons]
    · rcases ih with ⟨hnone, hmem⟩ | ⟨i, hsome, hi, hmem, htake, hdrop⟩
      · exact .inl ⟨by simp [List.idxOf?_cons, ha, hnone], by simp [ha.symm, hmem]⟩
      · refine .inr ⟨i + 1, by simp [List.idxOf?_cons, ha, hsome], by simp [hi], by simp [hmem], ?_, ?_⟩
        · simp [ha, htake]
        · simpa [ha] using hdrop

/-- A `std::string`. Only strings that a `std::size_t` cursor walks over are of this
type; other strings are plain lists of characters. -/
structure StdString where
  chars : List Char
  size_le : chars.length ≤ maxSize
  deriving DecidableEq

namespace StdString

/-- The string a `std::stringstream` holds after `cs` was written to it: at `max_size` it
fails and takes no more. -/
def ofChars (cs : List Char) : StdString :=
  ⟨cs.take maxSize, by rw [List.length_take]; exact Nat.min_le_left _ _⟩

def empty : StdString := ⟨[], Nat.zero_le _⟩

def size (s : StdString) : Nat := s.chars.length

/-- `find(c, pos)`. -/
def find (s : StdString) (c : Char) (pos : Nat) : Nat :=
  match (s.chars.drop pos).idxOf? c with
  | some i => pos + i
  | none => npos

/-- `substr(pos, n)`, which throws for a `pos` past the end. -/
def substr {σ : Type} (s : StdString) (pos n : Nat) : EStateM Stop σ (List Char) :=
  if pos ≤ s.size then pure ((s.chars.drop pos).take n) else throw (.thrown .outOfRange)

/-- `s[i]`: the terminator at the end, and no defined value past it. -/
def at_ {σ : Type} (s : StdString) (i : Nat) : EStateM Stop σ Char :=
  if i ≤ s.size then pure ((s.chars.drop i).headD '\x00') else throw .undefined

/-- `rfind(pre, 0) == 0`: the string starts with `pre`. -/
def startsWith (s : StdString) (pre : List Char) : Bool := pre.isPrefixOf s.chars

theorem size_lt (s : StdString) : s.size < 2 ^ 63 := by
  have h := s.size_le
  unfold maxSize at h
  unfold size
  omega

end StdString

end AprsWx
