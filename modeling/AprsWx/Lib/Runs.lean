import AprsWx.Lib.Numeral

/-!
# Runs of characters

The words and the numbers of a text: its maximal runs of certain characters, whatever is between
them.

* `runs_append`, `runs_word`: reading from left to right.
* `digitRuns`: the runs of decimal digits.
-/

namespace Numeral

section Runs

variable {p : Char → Bool} {c : Char} {word sep : List Char}

/-- The maximal runs of the characters, from left to right. -/
def runs (p : Char → Bool) (text : List Char) : List (List Char) :=
  (text.splitOnP fun c => !p c).filter (· ≠ [])

/-- A character between the runs. -/
theorem runs_skip (other : p c = false) (text : List Char) : runs p (c :: text) = runs p text := by
  unfold runs
  rw [List.splitOnP_cons_eq_if_modifyHead]
  simp [other]

theorem runs_append (other : ∀ c ∈ sep, p c = false) (text : List Char) :
    runs p (sep ++ text) = runs p text := by
  induction sep with
  | nil => rfl
  | cons c sep ih =>
    obtain ⟨first, rest⟩ := List.forall_mem_cons.mp other
    rw [List.cons_append, runs_skip first, ih rest]

/-- The last run. -/
theorem runs_end (inside : ∀ c ∈ word, p c = true) (some : word ≠ []) : runs p word = [word] := by
  unfold runs
  rw [List.splitOnP_eq_singleton fun c mem => by rw [inside c mem]; rfl]
  simp [some]

/-- A run with something after it. -/
theorem runs_cons (inside : ∀ c ∈ word, p c = true) (some : word ≠ []) (other : p c = false)
    (text : List Char) : runs p (word ++ c :: text) = word :: runs p text := by
  rw [← runs_skip other text]
  unfold runs
  rw [List.splitOnP_append_cons_of_forall_mem (fun c mem => by rw [inside c mem]; rfl) c
    (by rw [other]; rfl)]
  simp [some, List.splitOnP_cons_eq_if_modifyHead, other]

theorem runs_word (inside : ∀ c ∈ word, p c = true) (some : word ≠ [])
    (other : ∀ c ∈ sep, p c = false) (apart : sep ≠ []) (text : List Char) :
    runs p (word ++ (sep ++ text)) = word :: runs p text := by
  cases sep with
  | nil => exact absurd rfl apart
  | cons c sep =>
    obtain ⟨first, rest⟩ := List.forall_mem_cons.mp other
    rw [List.cons_append, runs_cons inside some first, runs_append rest]

end Runs

/-! ## Digits -/

/-- The maximal runs of digits of a text, from left to right. -/
def digitRuns (text : List Char) : List (List Char) := runs Char.isDigit text

theorem digitRuns_nil : digitRuns [] = [] := rfl

theorem digitRuns_drop {text : List Char} {n : Nat}
    (other : ∀ c ∈ text.take n, c.isDigit = false) : digitRuns text = digitRuns (text.drop n) := by
  conv_lhs => rw [← List.take_append_drop n text]
  exact runs_append other _

theorem drop_length_takeWhile {α : Type} (p : α → Bool) (l : List α) :
    l.drop (l.takeWhile p).length = l.dropWhile p := by
  have split := List.takeWhile_append_dropWhile (p := p) (l := l)
  calc l.drop (l.takeWhile p).length
      = (l.takeWhile p ++ l.dropWhile p).drop (l.takeWhile p).length := by rw [split]
    _ = l.dropWhile p := List.drop_left

/-- The run at the start of a text. -/
theorem digitRuns_run {text : List Char} (digit : ∃ c rest, text = c :: rest ∧ c.isDigit) :
    digitRuns text = text.takeWhile Char.isDigit :: digitRuns (text.dropWhile Char.isDigit) := by
  have digits : ∀ c ∈ text.takeWhile Char.isDigit, c.isDigit = true :=
    fun c mem => List.mem_takeWhile_imp mem
  have nonempty : text.takeWhile Char.isDigit ≠ [] := by
    obtain ⟨c, rest, rfl, digit⟩ := digit
    simp [digit]
  have split := List.takeWhile_append_dropWhile (p := Char.isDigit) (l := text)
  cases after : text.dropWhile Char.isDigit with
  | nil =>
    rw [after, List.append_nil] at split
    conv_lhs => rw [← split]
    exact runs_end digits nonempty
  | cons c rest =>
    have other : c.isDigit = false := by
      have := List.head?_dropWhile_not Char.isDigit text
      rw [after] at this
      simpa using this
    rw [after] at split
    conv_lhs => rw [← split]
    rw [show digitRuns (c :: rest) = digitRuns rest from runs_skip other rest]
    exact runs_cons digits nonempty other rest

/-- An unsigned number at the start of a text is a run of digits. -/
theorem fromChars_unsigned (hi : Int) {text : List Char}
    (digit : ∃ c rest, text = c :: rest ∧ c.isDigit) :
    fromChars 0 hi text =
      if (decimalValue (text.takeWhile Char.isDigit) : Int) ≤ hi then
        ⟨(text.takeWhile Char.isDigit).length, .ok, decimalValue (text.takeWhile Char.isDigit)⟩
      else ⟨(text.takeWhile Char.isDigit).length, .resultOutOfRange, 0⟩ := by
  obtain ⟨c, rest, rfl, digit⟩ := digit
  have nonempty : (c :: rest).takeWhile Char.isDigit ≠ [] := by simp [digit]
  have minus : c ≠ '-' := (IsPlain.not_sign (.inl digit)).1
  unfold fromChars
  split
  next neg n equal =>
  have start : neg = false ∧ n = 0 := by
    split at equal
    · next equal' => exact absurd (List.cons.inj equal').1 minus
    · exact ⟨(Prod.mk.inj equal).1.symm, (Prod.mk.inj equal).2.symm⟩
  obtain ⟨rfl, rfl⟩ := start
  simp only [List.drop_zero, nonempty, if_false, Bool.false_eq_true, Int.natCast_nonneg, true_and,
    Nat.zero_add]

end Numeral
