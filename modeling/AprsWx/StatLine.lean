import AprsWx.Monitor

/-!
# A line of the stat file

What a call of `getData` makes of the first line of the stat file, and when it stores a sample as
a whole or not at all.

* `scanWhile_readItems`: the loop over the numbers is left after at most one turn for each counter.
* `getData_runs`: the counters that a line gives, and where the loop stops.
* `getData_allOrNothing_iff`: when a call stores the whole sample of a line, or nothing.
-/

namespace AprsWx

open Double Numeral Prog

/-! ## The loop as it is written -/

/-- `while (p != npos && idx < ItemCount)`, for less than `fuel` turns: `none` where it has not
been left by then. -/
def scanWhile (line : StdString) : Nat → Nat → Nat → CpuStats → Option (Scan × CpuStats)
  | 0, _, _, _ => none
  | fuel + 1, p, idx, s =>
    if inside : p ≠ npos ∧ idx < itemCount then
      let r := fromChars 0 (2 ^ 64 - 1) (line.chars.drop p)
      match r.ec with
      | .ok => scanWhile line fuel (line.findDigit (p + r.ptr)) (idx + 1)
          { s with mData := Function.update s.mData ⟨idx, inside.2⟩ (BitVec.ofInt 64 r.value) }
      | .invalidArgument => some (.invalidArgument, s)
      | .resultOutOfRange => some (.resultOutOfRange, s)
    else some (.done, s)

/-- Every turn that does not leave the loop counts `idx` up. -/
theorem scanWhile_readItems (line : StdString) {fuel idx : Nat} (bound : idx ≤ itemCount)
    (enough : itemCount < idx + fuel) (p : Nat) (s : CpuStats) :
    scanWhile line fuel p idx s = some (readItems line ((List.finRange itemCount).drop idx) p s) := by
  induction fuel generalizing idx p s with
  | zero => exact absurd bound (Nat.not_le_of_lt enough)
  | succ fuel ih =>
    unfold scanWhile
    rcases Nat.lt_or_eq_of_le bound with below | rfl
    · have places : (List.finRange itemCount).drop idx =
          ⟨idx, below⟩ :: (List.finRange itemCount).drop (idx + 1) := by
        rw [List.drop_eq_getElem_cons (by simpa using below), List.getElem_finRange]
        rfl
      rw [places, readItems]
      by_cases inside : p ≠ npos
      · rw [dif_pos ⟨inside, below⟩, if_pos inside]
        dsimp only
        cases (fromChars 0 (2 ^ 64 - 1) (line.chars.drop p)).ec with
        | ok => exact ih below (by omega) _ _
        | invalidArgument => rfl
        | resultOutOfRange => rfl
      · rw [dif_neg fun both => inside both.1, if_neg inside]
    · rw [dif_neg fun both => Nat.lt_irrefl _ both.2, List.drop_eq_nil_of_le (by simp)]
      rfl

/-! ## The counters of a line -/

/-- For every first line of the stat file, with the runs of decimal digits after its first space:
the loop ends, it finds no invalid argument, and the first ten runs decide what becomes of the
counters. -/
theorem getData_runs (s : CpuStats) (line : StdString) :
    (∀ fuel, itemCount < fuel →
      scanWhile line fuel (line.findDigit (line.find ' ' 0)) 0
          { s with mName := line.chars.take (line.find ' ' 0) } = some (scanLine (some line) s)) ∧
    (scanLine (some line) s).1 ≠ .invalidArgument ∧
    (' ' ∉ line.chars → lineRuns line.chars = []) ∧
    ((∀ run ∈ placeRuns line, Fits run) →
      s.getData (some line) = (true,
        { s with mName := line.chars.take (line.find ' ' 0),
                 mData := s.mData.placed (lineRuns line.chars) })) ∧
    ((¬ ∀ run ∈ placeRuns line, Fits run) →
      ∃ before run after, placeRuns line = before ++ run :: after ∧
        (∀ run ∈ before, Fits run) ∧ ¬ Fits run ∧
        (scanLine (some line) s).1 = .resultOutOfRange ∧
        s.getData (some line) = (false,
          { s with mName := line.chars.take (line.find ' ' 0),
                   mData := s.mData.placed before })) := by
  refine ⟨fun fuel enough => ?_, ?_, fun absent => ?_, fun fit => ?_, fun overflow => ?_⟩
  · exact scanWhile_readItems line (Nat.zero_le _) (by omega) _ _
  · rw [scanLine_placed]
    dsimp only
    split
    · exact Scan.noConfusion
    · exact Scan.noConfusion
  · have all : line.chars.dropWhile (· ≠ ' ') = [] := by
      rw [List.dropWhile_eq_nil_iff]
      exact fun c mem => decide_eq_true fun equal => absent (equal ▸ mem)
    rw [lineRuns, all, digitRuns_nil]
  · rw [getData_placed, decide_eq_true fit, storedRuns_fit fit, placed_placeRuns]
  · obtain ⟨run, after, split, before, large⟩ := storedRuns_overflow overflow
    refine ⟨storedRuns line, run, after, split, before, Nat.not_lt.mpr large, ?_, ?_⟩
    · rw [scanLine_placed, if_neg overflow]
    · rw [getData_placed, decide_eq_false overflow]

/-! ## The whole sample or nothing -/

/-- The counters of a line by themselves. A counter that the line has no number for is 0, as in
the constructor. -/
def sampleCounters (line : StdString) : Counters :=
  Counters.placed (fun _ => 0) (lineRuns line.chars)

/-- A call stores nothing where it fails, and the whole sample of a line where it succeeds. -/
structure CpuStats.AllOrNothing (s : CpuStats) (file : Option StdString) : Prop where
  failed : (s.getData file).1 = false → (s.getData file).2.mData = s.mData
  succeeded : (s.getData file).1 = true → ∃ line, file = some line ∧
    (s.getData file).2.mData = sampleCounters line

/-- The counters that a call leaves mixed are the same in both samples: those that a line with
too few numbers leaves as they are, and those that are stored before a number that does not
fit. -/
structure CpuStats.Steady (s : CpuStats) (line : StdString) : Prop where
  short : (∀ run ∈ placeRuns line, Fits run) →
    ∀ idx : Fin itemCount, (placeRuns line).length ≤ idx.val → s.mData idx = 0
  overflow : (¬ ∀ run ∈ placeRuns line, Fits run) →
    ∀ (idx : Fin itemCount) run, (storedRuns line)[idx.val]? = some run →
      s.mData idx = BitVec.ofNat 64 (decimalValue run)

theorem placed_eq_self {mData : Counters} {runs : List (List Char)} :
    mData.placed runs = mData ↔ ∀ (idx : Fin itemCount) run, runs[idx.val]? = some run →
      mData idx = BitVec.ofNat 64 (decimalValue run) := by
  unfold Counters.placed
  rw [funext_iff]
  refine forall_congr' fun idx => ?_
  cases runs[idx.val]? with
  | none => simp
  | some run => simpa using eq_comm

theorem placed_eq_placed {mData mData' : Counters} {runs : List (List Char)} :
    mData.placed runs = mData'.placed runs ↔
      ∀ idx : Fin itemCount, runs.length ≤ idx.val → mData idx = mData' idx := by
  unfold Counters.placed
  rw [funext_iff]
  refine forall_congr' fun idx => ?_
  cases found : runs[idx.val]? with
  | none => simp [List.getElem?_eq_none_iff.mp found]
  | some run =>
    have inside := (List.getElem?_eq_some_iff.mp found).1
    simp [Nat.not_le_of_lt inside]

theorem allOrNothing_line (s : CpuStats) (line : StdString) :
    s.AllOrNothing (some line) ↔ s.Steady line := by
  have data := getData_placed s line
  have sample : sampleCounters line = Counters.placed (fun _ => 0) (placeRuns line) :=
    (placed_placeRuns ..).symm
  by_cases fit : ∀ run ∈ placeRuns line, Fits run
  · rw [decide_eq_true fit, storedRuns_fit fit] at data
    constructor
    · intro holds
      refine ⟨fun _ => ?_, fun overflow => absurd fit overflow⟩
      obtain ⟨line', same, stored⟩ := holds.succeeded (by rw [data])
      obtain rfl := Option.some.inj same
      rw [data, sample] at stored
      exact placed_eq_placed.mp stored
    · intro steady
      refine ⟨fun failed => ?_, fun _ => ⟨line, rfl, ?_⟩⟩
      · rw [data] at failed
        exact Bool.noConfusion failed
      · rw [data, sample]
        exact placed_eq_placed.mpr (steady.short fit)
  · rw [decide_eq_false fit] at data
    constructor
    · intro holds
      refine ⟨fun fit' => absurd fit' fit, fun _ => ?_⟩
      have stored := holds.failed (by rw [data])
      rw [data] at stored
      exact placed_eq_self.mp stored
    · intro steady
      refine ⟨fun _ => ?_, fun succeeded => ?_⟩
      · rw [data]
        exact placed_eq_self.mpr (steady.overflow fit)
      · rw [data] at succeeded
        exact Bool.noConfusion succeeded

theorem allOrNothing_unopened (s : CpuStats) : ¬ s.AllOrNothing none := by
  intro holds
  obtain ⟨line, same, -⟩ := holds.succeeded rfl
  exact Option.some_ne_none line same.symm

/-- A turn of the loop of `main` measures usage exactly where `getData` returns true. -/
theorem measureUsage_reports {F : Type} [CDouble F] (m : Monitor F) (turn : Turn) :
    (∃ value t, (measureUsage turn).run m = .ok [.cpuUse value] t) ↔
      (m.cpuStats.getData turn.stat).1 = true := by
  unfold measureUsage
  rw [EStateM.run_bind, EStateM.run_get]
  dsimp only
  cases (m.cpuStats.getData turn.stat).1 with
  | true => exact iff_of_true ⟨_, _, rfl⟩ rfl
  | false =>
    refine iff_of_false ?_ Bool.false_ne_true
    rintro ⟨value, t, run⟩
    cases run

/-- A call is all or nothing exactly where the file was opened and the counters that it leaves
mixed are the same in both samples. The monitor reports usage whenever the call returns true. -/
theorem getData_allOrNothing_iff (s : CpuStats) (file : Option StdString) :
    (s.AllOrNothing file ↔ ∃ line, file = some line ∧ s.Steady line) ∧
      ∀ (m : Monitor ExReal) (turn : Turn), m.cpuStats = s → turn.stat = file →
        ((∃ value t, (measureUsage turn).run m = .ok [.cpuUse value] t) ↔
          (s.getData file).1 = true) := by
  refine ⟨?_, ?_⟩
  · cases file with
    | none =>
      refine iff_of_false (allOrNothing_unopened s) ?_
      rintro ⟨line, same, -⟩
      exact Option.some_ne_none line same.symm
    | some line =>
      rw [allOrNothing_line]
      constructor
      · exact fun steady => ⟨line, rfl, steady⟩
      · rintro ⟨line', same, steady⟩
        rwa [Option.some.inj same]
  · rintro m turn rfl rfl
    exact measureUsage_reports m turn

/-- A call returns true where the file cannot be opened, and a call that fails at the third number
of `longLine` has replaced the two counters before. -/
theorem allOrNothing_fails :
    ¬ ({} : CpuStats).AllOrNothing none ∧
      ¬ (({} : CpuStats).getData (some firstLine)).2.AllOrNothing (some longLine) := by
  refine ⟨allOrNothing_unopened _, fun holds => ?_⟩
  have kept := congrFun (holds.failed (by decide +kernel)) 0
  exact absurd kept (by decide +kernel)

end AprsWx
