import AprsWx.Lib.NumberText

/-!
# The line protocol

The grammar of the format in which points are sent to a time series database, a point a line. A line
has a measurement with its tags, a blank, and a field with its value, which is a finite number:
the words for an infinity and for nan are no values.

`readBody_lines` says when a text is in the grammar, and for which points it stands then.
-/

namespace LineProtocol

open Numeral

/-! ## Reading -/

/-- What a point is of: a measurement, and tags that tell its series from others. -/
structure Series where
  measurement : List Char
  tags : List (List Char × List Char)
  deriving DecidableEq

/-- The value of one field. -/
structure Point where
  series : Series
  field : List Char
  number : ℚ
  deriving DecidableEq

/-- `key=value`. -/
def readPair (text : List Char) : Option (List Char × List Char) :=
  match text.splitOn '=' with
  | [key, v] => some (key, v)
  | _ => none

def readSeries (text : List Char) : Option Series :=
  match text.splitOn ',' with
  | measurement :: tags => (tags.mapM readPair).map fun tags => ⟨measurement, tags⟩
  | [] => none

/-- A number, and nothing after it. -/
def readNumber (text : List Char) : Option ℚ :=
  if text ≠ [] ∧ (strtod text).2 = text.length then (strtod text).1.number else none

def readPoint (line : List Char) : Option Point :=
  match line.splitOn ' ' with
  | [series, field] =>
    (readSeries series).bind fun series => (readPair field).bind fun field =>
      (readNumber field.2).map fun number => ⟨series, field.1, number⟩
  | _ => none

/-- The points of a text, each line of which ends in a line feed. -/
def readBody (text : List Char) : Option (List Point) :=
  if (text.splitOn '\n').getLast? = some [] then (text.splitOn '\n').dropLast.mapM readPoint
  else none

/-! ## Reading what was written -/

/-- A line of the series that `series` spells. -/
def line (series field number : List Char) : List Char := series ++ ' ' :: (field ++ '=' :: number)

section

variable {series field number : List Char}

/-- No separator is in a word. -/
structure Unseparated (text : List Char) : Prop where
  blank : ' ' ∉ text
  equals : '=' ∉ text
  feed : '\n' ∉ text

instance (text : List Char) : Decidable (Unseparated text) :=
  decidable_of_iff (' ' ∉ text ∧ '=' ∉ text ∧ '\n' ∉ text)
    ⟨fun h => ⟨h.1, h.2.1, h.2.2⟩, fun h => ⟨h.blank, h.equals, h.feed⟩⟩

theorem readPair_pair {key v : List Char} (left : '=' ∉ key) (right : '=' ∉ v) :
    readPair (key ++ '=' :: v) = some (key, v) := by
  unfold readPair
  rw [List.splitOn_append_cons_self_of_not_mem left, List.splitOn_eq_singleton right]

theorem unseparated_streamText (precision : ℕ) (l : Literal) : Unseparated (streamText precision l) where
  blank := IsForeign.notMem (by decide) precision l
  equals := IsForeign.notMem (by decide) precision l
  feed := IsForeign.notMem (by decide) precision l

theorem streamText_ne_nil (precision : ℕ) (l : Literal) : streamText precision l ≠ [] := by
  intro empty
  have read := congrArg Prod.snd (strtod_streamText precision l)
  obtain ⟨neg, magnitude⟩ := l
  cases neg with
  | true => cases empty
  | false =>
    cases magnitude with
    | finite q =>
      have text := (isDecimal_general (precision - 1) q).isUnsigned.head
      obtain ⟨c, rest, equal, -⟩ := text
      change general (precision - 1) q = [] at empty
      rw [equal] at empty
      cases empty
    | infinity => cases empty
    | nan => cases empty

/-- The number in the text of a stream is the rounded one. -/
theorem readNumber_streamText (precision : ℕ) (l : Literal) :
    readNumber (streamText precision l) = (l.rounded precision).number := by
  unfold readNumber
  rw [strtod_streamText]
  exact if_pos ⟨streamText_ne_nil precision l, rfl⟩

/-- The number in the text of an integer is the integer. -/
theorem readNumber_toString (n : ℤ) : readNumber (toString n).toList = some (n : ℚ) := by
  have nonempty : (toString n).toList ≠ [] := by
    rw [toList_toString]
    exact List.append_ne_nil_of_right_ne_nil _ Nat.toDigits_ne_nil
  unfold readNumber
  rw [strtod_toString, if_pos ⟨nonempty, rfl⟩]
  refine congrArg some ?_
  by_cases negative : n < 0
  · rw [decide_eq_true negative]
    show (-(n.natAbs : ℤ) : ℚ) = n
    exact_mod_cast (by omega : -(n.natAbs : ℤ) = n)
  · rw [decide_eq_false negative]
    show ((n.natAbs : ℤ) : ℚ) = n
    exact_mod_cast (by omega : (n.natAbs : ℤ) = n)

theorem unseparated_toString (n : ℤ) : Unseparated (toString n).toList where
  blank := IsForeign.notMem_toString (by decide) n
  equals := IsForeign.notMem_toString (by decide) n
  feed := IsForeign.notMem_toString (by decide) n

theorem readPoint_line (blank : ' ' ∉ series) (isField : Unseparated field) (isNumber : Unseparated number) :
    readPoint (line series field number) =
      (readSeries series).bind fun series => (readNumber number).map fun number =>
        ⟨series, field, number⟩ := by
  have words : (line series field number).splitOn ' ' = [series, field ++ '=' :: number] := by
    have inside : ' ' ∉ field ++ '=' :: number :=
      List.not_mem_append isField.blank
        (List.not_mem_cons_of_ne_of_not_mem (by decide) isNumber.blank)
    unfold line
    rw [List.splitOn_append_cons_self_of_not_mem blank, List.splitOn_eq_singleton inside]
  unfold readPoint
  rw [words]
  dsimp only
  rw [readPair_pair isField.equals isNumber.equals]
  rfl

end

/-- Lines, each with its line feed. -/
def unlines (ls : List (List Char)) : List Char := ls.flatMap fun l => l ++ ['\n']

theorem splitOn_unlines {ls : List (List Char)} (single : ∀ l ∈ ls, '\n' ∉ l) :
    (unlines ls).splitOn '\n' = ls ++ [[]] := by
  induction ls with
  | nil => rfl
  | cons l ls ih =>
    have rest := ih fun l mem => single l (List.mem_cons_of_mem _ mem)
    have split : unlines (l :: ls) = l ++ '\n' :: unlines ls := by
      simp [unlines]
    rw [split, List.splitOn_append_cons_self_of_not_mem (single l List.mem_cons_self), rest,
      List.cons_append]

/-- A body is read line by line. -/
theorem readBody_lines {ls : List (List Char)} (single : ∀ l ∈ ls, '\n' ∉ l) :
    readBody (unlines ls) = ls.mapM readPoint := by
  unfold readBody
  rw [splitOn_unlines single, List.getLast?_append, List.dropLast_concat]
  rfl

/-- All are read, or nothing is. -/
theorem mapM_spec {α β : Type} (f : α → Option β) (as : List α) :
    ((as.mapM f).isSome ↔ ∀ a ∈ as, (f a).isSome) ∧
      ∀ bs ∈ as.mapM f, List.Forall₂ (fun a b => f a = some b) as bs := by
  induction as with
  | nil =>
    refine ⟨⟨fun _ => List.forall_mem_nil _, fun _ => rfl⟩, ?_⟩
    rintro bs ⟨⟩
    exact .nil
  | cons a as ih =>
    obtain ⟨whole, each⟩ := ih
    rw [List.mapM_cons, List.forall_mem_cons, ← whole]
    cases here : f a with
    | none => exact ⟨⟨nofun, fun both => absurd both.1 Bool.false_ne_true⟩, nofun⟩
    | some b =>
      cases rest : as.mapM f with
      | none => exact ⟨⟨nofun, fun both => absurd both.2 Bool.false_ne_true⟩, nofun⟩
      | some bs =>
        refine ⟨⟨fun _ => ⟨rfl, rfl⟩, fun _ => rfl⟩, ?_⟩
        rintro _ ⟨⟩
        exact .cons here (each bs rest)

end LineProtocol
