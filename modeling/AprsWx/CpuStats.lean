import Mathlib.Data.BitVec
import Mathlib.Data.List.FinRange
import AprsWx.Lib.Double
import AprsWx.Lib.Runs
import AprsWx.Runtime

/-!
# CPU statistics

The class `CpuStats` of `sys_monitor.cpp`: the counters of the first line of `/proc/stat`, read
into `mData`, and the baseline `mPastData` that usage is computed from.

* `scanLine_run`: `getData` stores the runs of digits after the first space, in their order.
* `getData_fit`: where all of them fit, each counter is the number in its place.
* `getUsage_eq`: the two amounts that `getUsage` returns.
-/

namespace AprsWx

open Numeral

/-! ## The class -/

/-- `ProcStatDataType`, an `unsigned long long`. -/
abbrev ProcStatDataType : Type := BitVec 64

inductive Item
  | User
  | Nice
  | System
  | Idle
  | IOWait
  | IRQ
  | SoftIRQ
  | Steal
  | Guest
  | GuestNice
  | ItemCount
  deriving DecidableEq

/-- `static_cast<std::size_t>(ItemCount)`, the size of the arrays. -/
abbrev itemCount : Nat := 10

/-- `static_cast<Item>(idx)`; `none` for a value that no enumerator has. -/
def Item.ofIdx : Nat → Option Item
  | 0 => some .User
  | 1 => some .Nice
  | 2 => some .System
  | 3 => some .Idle
  | 4 => some .IOWait
  | 5 => some .IRQ
  | 6 => some .SoftIRQ
  | 7 => some .Steal
  | 8 => some .Guest
  | 9 => some .GuestNice
  | 10 => some .ItemCount
  | _ => none

/-- An array of counters. -/
abbrev Counters : Type := Fin itemCount → ProcStatDataType

structure CpuStats where
  mName : List Char := []
  mData : Counters := fun _ => 0
  mPastData : Counters := fun _ => 0

/-! ## getData -/

/-- `find_first_of("0123456789", pos)`. -/
def StdString.findDigit (s : StdString) (pos : Nat) : Nat :=
  match (s.chars.drop pos).findIdx? Char.isDigit with
  | some i => pos + i
  | none => npos

/-- How the loop over the numbers of a line is left. -/
inductive Scan
  | done
  | invalidArgument
  | resultOutOfRange
  deriving DecidableEq

/-- The loop over the numbers, with the places that are left and the position `p`. Each number
goes into the array as soon as it is read. -/
def readItems (line : StdString) : List (Fin itemCount) → Nat → CpuStats → Scan × CpuStats
  | [], _, s => (.done, s)
  | idx :: items, p, s =>
    if p ≠ npos then
      let r := fromChars 0 (2 ^ 64 - 1) (line.chars.drop p)
      match r.ec with
      | .ok => readItems line items (line.findDigit (p + r.ptr))
          { s with mData := Function.update s.mData idx (BitVec.ofInt 64 r.value) }
      | .invalidArgument => (.invalidArgument, s)
      | .resultOutOfRange => (.resultOutOfRange, s)
    else
      (.done, s)

/-- The line that was read, with its name: `none` where the file could not be opened. -/
def scanLine (file : Option StdString) (s : CpuStats) : Scan × CpuStats :=
  match file with
  | none => (.done, s)
  | some line =>
    let p := line.find ' ' 0
    readItems line (List.finRange itemCount) (line.findDigit p) { s with mName := line.chars.take p }

/-- `getData`, of a file with the first line `line`. -/
def CpuStats.getData (s : CpuStats) (file : Option StdString) : Bool × CpuStats :=
  let (scan, s) := scanLine file s
  (scan = .done, s)

def CpuStats.setPastData (s : CpuStats) : CpuStats := { s with mPastData := s.mData }

/-! ### The runs of a line -/

/-- The numbers of a line: the runs of digits after its first space. -/
def lineRuns (line : List Char) : List (List Char) := digitRuns (line.dropWhile (· ≠ ' '))

/-- What the loop does with runs of digits, one for each place. -/
def storeRuns : List (Fin itemCount) → List (List Char) → CpuStats → Scan × CpuStats
  | idx :: items, run :: runs, s =>
    if decimalValue run < 2 ^ 64 then
      storeRuns items runs
        { s with mData := Function.update s.mData idx (BitVec.ofNat 64 (decimalValue run)) }
    else (.resultOutOfRange, s)
  | _, _, s => (.done, s)

/-- `find_first_of` finds the first digit, which is where the runs of the rest start. -/
theorem findDigit_cases (line : StdString) (pos : Nat) :
    (line.findDigit pos = npos ∧ digitRuns (line.chars.drop pos) = []) ∨
      ∃ p, line.findDigit pos = p ∧ p ≠ npos ∧ (∃ c rest, line.chars.drop p = c :: rest ∧ c.isDigit) ∧
        digitRuns (line.chars.drop pos) = digitRuns (line.chars.drop p) := by
  have hsize := line.size_lt
  unfold StdString.findDigit
  cases found : (line.chars.drop pos).findIdx? Char.isDigit with
  | none =>
    refine .inl ⟨rfl, ?_⟩
    have other := List.findIdx?_eq_none_iff.mp found
    rw [digitRuns_drop (n := (line.chars.drop pos).length)]
    · rw [List.drop_length, digitRuns_nil]
    · exact fun c mem => other c (List.mem_of_mem_take mem)
  | some i =>
    obtain ⟨inside, digit, before⟩ := List.findIdx?_eq_some_iff_getElem.mp found
    refine .inr ⟨pos + i, rfl, ?_, ?_, ?_⟩
    · rw [List.length_drop] at inside
      unfold StdString.size at hsize
      unfold npos
      omega
    · refine ⟨(line.chars.drop pos)[i], (line.chars.drop pos).drop (i + 1), ?_, digit⟩
      rw [← List.drop_drop]
      exact List.drop_eq_getElem_cons inside
    · rw [← List.drop_drop]
      refine digitRuns_drop fun c mem => ?_
      obtain ⟨j, short, rfl⟩ := List.mem_take_iff_getElem.mp mem
      have := before j (by omega)
      simpa using this

/-- The loop stores the runs from the position on. -/
theorem readItems_run (line : StdString) (items : List (Fin itemCount)) (pos : Nat) (s : CpuStats) :
    readItems line items (line.findDigit pos) s = storeRuns items (digitRuns (line.chars.drop pos)) s := by
  induction items generalizing pos s with
  | nil => rfl
  | cons idx items ih =>
    unfold readItems
    rcases findDigit_cases line pos with ⟨none, runs⟩ | ⟨p, some, inside, digit, runs⟩
    · rw [none, runs]
      rfl
    · rw [some, if_pos inside, runs, digitRuns_run digit]
      have read := fromChars_unsigned (2 ^ 64 - 1) digit
      have rest : digitRuns ((line.chars.drop p).dropWhile Char.isDigit) =
          digitRuns (line.chars.drop (p + ((line.chars.drop p).takeWhile Char.isDigit).length)) := by
        rw [← List.drop_drop, drop_length_takeWhile]
      generalize (line.chars.drop p).takeWhile Char.isDigit = run at read rest ⊢
      rw [read, rest, storeRuns]
      by_cases fits : decimalValue run < 2 ^ 64
      · rw [if_pos fits, if_pos (show (decimalValue run : Int) ≤ 2 ^ 64 - 1 by omega)]
        simp only [BitVec.ofInt_natCast]
        exact ih _ _
      · rw [if_neg fits, if_neg (show ¬ (decimalValue run : Int) ≤ 2 ^ 64 - 1 by omega)]

theorem lineRuns_find (line : StdString) :
    digitRuns (line.chars.drop (line.find ' ' 0)) = lineRuns line.chars := by
  have hsize := line.size_lt
  unfold lineRuns StdString.find
  rw [List.drop_zero]
  rcases idxOf?_cases ' ' line.chars with ⟨none, absent⟩ | ⟨i, some, inside, -, before, -⟩
  -- from npos on there is nothing
  · have all : line.chars.dropWhile (· ≠ ' ') = [] := by
      rw [List.dropWhile_eq_nil_iff]
      exact fun c mem => decide_eq_true fun equal => absent (equal ▸ mem)
    rw [none, all, List.drop_eq_nil_of_le]
    unfold StdString.size at hsize
    show line.chars.length ≤ 2 ^ 64 - 1
    omega
  · have length : (line.chars.takeWhile (· ≠ ' ')).length = i := by
      rw [← before, List.length_take]
      omega
    rw [some]
    dsimp only
    rw [Nat.zero_add, ← length, drop_length_takeWhile]

/-- `getData` of a file that can be read stores the runs of its first line. -/
theorem scanLine_run (line : StdString) (s : CpuStats) :
    scanLine (some line) s = storeRuns (List.finRange itemCount) (lineRuns line.chars)
      { s with mName := line.chars.take (line.find ' ' 0) } := by
  unfold scanLine
  dsimp only
  rw [readItems_run, lineRuns_find]

/-! ### The counters that are stored -/

/-- A run denotes a number that `unsigned long long` holds. -/
def Fits (run : List Char) : Prop := decimalValue run < 2 ^ 64

instance : DecidablePred Fits := fun _ => Nat.decLt _ _

/-- The counters with the number of each run in its place. The others are as before. -/
def Counters.placed (mData : Counters) (runs : List (List Char)) : Counters := fun idx =>
  runs[idx.val]?.elim (mData idx) fun run => BitVec.ofNat 64 (decimalValue run)

/-- The runs that have a place. -/
def placeRuns (line : StdString) : List (List Char) := (lineRuns line.chars).take itemCount

/-- The runs that are stored: those before the first that does not fit. -/
def storedRuns (line : StdString) : List (List Char) := (placeRuns line).takeWhile (Fits ·)

/-- The loop stores the runs that have a place up to the first that does not fit, and ends well
where there is none. -/
theorem storeRuns_placed {items : List (Fin itemCount)} (distinct : items.Nodup)
    (runs : List (List Char)) (s : CpuStats) :
    ∃ mData : Counters, storeRuns items runs s =
        (if ∀ run ∈ runs.take items.length, Fits run then .done else .resultOutOfRange,
          { s with mData := mData }) ∧
      (∀ (k : Nat) (idx : Fin itemCount), items[k]? = some idx → mData idx =
        ((runs.take items.length).takeWhile (Fits ·))[k]?.elim (s.mData idx)
          fun run => BitVec.ofNat 64 (decimalValue run)) ∧
      ∀ idx ∉ items, mData idx = s.mData idx := by
  induction items generalizing runs s with
  | nil => exact ⟨s.mData, by simp [storeRuns], nofun, fun _ _ => rfl⟩
  | cons idx items ih =>
    obtain ⟨fresh, distinct⟩ := List.nodup_cons.mp distinct
    cases runs with
    | nil => exact ⟨s.mData, by simp [storeRuns], fun _ _ _ => by simp, fun _ _ => rfl⟩
    | cons run runs =>
      simp only [List.length_cons, List.take_succ_cons, List.forall_mem_cons]
      unfold storeRuns
      by_cases fits : Fits run
      · obtain ⟨mData, stored, placed, kept⟩ := ih distinct runs
          { s with mData := Function.update s.mData idx (BitVec.ofNat 64 (decimalValue run)) }
        refine ⟨mData, ?_, ?_, ?_⟩
        · rw [if_pos (show decimalValue run < 2 ^ 64 from fits), stored]
          simp only [fits, true_and]
        · rw [List.takeWhile_cons_of_pos (p := (Fits ·)) (decide_eq_true fits)]
          rintro (_ | k) idx' found
          · obtain rfl := Option.some.inj found
            exact (kept idx fresh).trans (Function.update_self ..)
          · have other : idx' ≠ idx := by
              rintro rfl
              exact fresh (List.mem_of_getElem? found)
            rw [placed k idx' found]
            dsimp only
            rw [Function.update_of_ne other]
            rfl
        · intro idx' absent
          rw [List.mem_cons, not_or] at absent
          exact (kept idx' absent.2).trans (Function.update_of_ne absent.1 ..)
      · refine ⟨s.mData, ?_, fun k idx' _ => ?_, fun _ _ => rfl⟩
        · rw [if_neg (show ¬ decimalValue run < 2 ^ 64 from fits)]
          simp only [fits, false_and, if_false]
        · rw [List.takeWhile_cons_of_neg (p := (Fits ·)) (by simpa using fits)]
          rfl

/-- What the loop does with the first line of the file. -/
theorem scanLine_placed (line : StdString) (s : CpuStats) :
    scanLine (some line) s =
      (if ∀ run ∈ placeRuns line, Fits run then .done else .resultOutOfRange,
        { s with mName := line.chars.take (line.find ' ' 0),
                 mData := s.mData.placed (storedRuns line) }) := by
  obtain ⟨mData, stored, placed, -⟩ := storeRuns_placed (List.nodup_finRange itemCount)
    (lineRuns line.chars) { s with mName := line.chars.take (line.find ' ' 0) }
  have same : mData = s.mData.placed (storedRuns line) := by
    funext idx
    have place : (List.finRange itemCount)[idx.val]? = some idx := by
      rw [List.getElem?_eq_getElem (by simp), List.getElem_finRange]
      rfl
    rw [placed idx.val idx place, List.length_finRange]
    rfl
  rw [scanLine_run, stored, same, List.length_finRange]
  rfl

/-- What `getData` does with a file that can be read. -/
theorem getData_placed (s : CpuStats) (line : StdString) :
    s.getData (some line) = (decide (∀ run ∈ placeRuns line, Fits run),
      { s with mName := line.chars.take (line.find ' ' 0),
               mData := s.mData.placed (storedRuns line) }) := by
  unfold CpuStats.getData
  rw [scanLine_placed]
  by_cases fit : ∀ run ∈ placeRuns line, Fits run
  · rw [if_pos fit, decide_eq_true fit]
    rfl
  · rw [if_neg fit, decide_eq_false fit]
    rfl

theorem storedRuns_fit {line : StdString} (fit : ∀ run ∈ placeRuns line, Fits run) :
    storedRuns line = placeRuns line :=
  List.takeWhile_eq_self_iff.mpr fun run mem => decide_eq_true (fit run mem)

theorem placed_placeRuns (mData : Counters) (line : StdString) :
    mData.placed (placeRuns line) = mData.placed (lineRuns line.chars) := by
  funext idx
  unfold Counters.placed placeRuns
  rw [List.getElem?_take_of_lt idx.isLt]

/-- Where some run does not fit, those before the first of them are stored. -/
theorem storedRuns_overflow {line : StdString} (overflow : ¬ ∀ run ∈ placeRuns line, Fits run) :
    ∃ run after, placeRuns line = storedRuns line ++ run :: after ∧
      (∀ run ∈ storedRuns line, Fits run) ∧ 2 ^ 64 ≤ decimalValue run := by
  have split := List.takeWhile_append_dropWhile (p := (Fits ·)) (l := placeRuns line)
  cases rest : (placeRuns line).dropWhile (Fits ·) with
  | nil =>
    rw [List.dropWhile_eq_nil_iff] at rest
    exact absurd (fun run mem => of_decide_eq_true (rest run mem)) overflow
  | cons run after =>
    have first := List.head?_dropWhile_not (Fits ·) (placeRuns line)
    rw [rest] at first split
    refine ⟨run, after, split.symm, fun run mem => ?_, ?_⟩
    · exact of_decide_eq_true (List.mem_takeWhile_imp (p := (Fits ·)) mem)
    · have overflow : ¬ Fits run := by simpa using first
      exact Nat.le_of_not_lt overflow

/-- `getData` of a line with numbers that all fit. -/
theorem getData_fit (s : CpuStats) {line : StdString}
    (fit : ∀ run ∈ (lineRuns line.chars).take itemCount, decimalValue run < 2 ^ 64) :
    ∃ mData : Counters, s.getData (some line) =
        (true, { s with mName := line.chars.take (line.find ' ' 0), mData := mData }) ∧
      ∀ (idx : Fin itemCount) run, (lineRuns line.chars)[idx.val]? = some run →
        mData idx = BitVec.ofNat 64 (decimalValue run) := by
  have fit : ∀ run ∈ placeRuns line, Fits run := fit
  refine ⟨s.mData.placed (lineRuns line.chars), ?_, fun idx run read => ?_⟩
  · rw [getData_placed, decide_eq_true fit, storedRuns_fit fit, placed_placeRuns]
  · unfold Counters.placed
    rw [read]
    rfl

/-! ## getUsage -/

/-- How much a counter has grown, modulo 2^64. -/
def CpuStats.increase (s : CpuStats) (idx : Fin itemCount) : ProcStatDataType :=
  s.mData idx - s.mPastData idx

/-- The loop's body, with the amounts `used` and `idle`. -/
def CpuStats.addUsage (s : CpuStats) (usage : ProcStatDataType × ProcStatDataType)
    (idx : Fin itemCount) : ProcStatDataType × ProcStatDataType :=
  match Item.ofIdx idx with
  | some .Idle
  | some .IOWait => (usage.1, usage.2 + s.increase idx)
  | some .User
  | some .Nice
  | some .System
  | some .IRQ
  | some .SoftIRQ
  | some .Steal
  | some .Guest
  | some .GuestNice
  | some .ItemCount => usage
  | none => (usage.1 + s.increase idx, usage.2)

/-- `getUsage`: `used` and `idle`. -/
def CpuStats.getUsage (s : CpuStats) : ProcStatDataType × ProcStatDataType :=
  (List.finRange itemCount).foldl s.addUsage (0, 0)

/-- Every place has an enumerator, so the switch's default is not reached. -/
theorem getUsage_eq (s : CpuStats) : s.getUsage = (0, s.increase 3 + s.increase 4) := by
  have loop : s.getUsage = (0, 0 + s.increase 3 + s.increase 4) := rfl
  rw [loop, zero_add]

end AprsWx
