import AprsWx.CpuStats

/-!
# The system monitor

`main` of `sys_monitor.cpp` from the point on where the configuration has been read: the loop
that measures the temperature and the usage and pushes both.

* `monitorLoop_idle`: in every run the idle amounts add up to the growth of the idle counters.
* `getUsage_busy_iff`: when the usage tells that the machine was busy.
-/

namespace AprsWx

open Double Numeral Prog

variable {F : Type}

/-! ## The loop -/

/-- What a turn of the loop finds: whether `run` is still set, the temperature and the first line
of the stat file, where the files can be opened, and whether the request is performed. -/
structure Turn where
  run : Bool
  temperature : Option Int
  stat : Option StdString
  performed : Bool

/-- A line of the body. -/
inductive Measurement (F : Type)
  | cpuTemp (value : Int)
  | cpuUse (value : F)

/-- A sample that was counted: the file it was read from, and what `getUsage` returned. -/
structure Sample where
  stat : Option StdString
  used : ProcStatDataType
  idle : ProcStatDataType
  deriving DecidableEq

/-- The state of the loop, with the samples that were counted and the bodies that were pushed. -/
structure Monitor (F : Type) where
  cpuStats : CpuStats
  samples : List Sample := []
  pushed : List (List (Measurement F)) := []

abbrev MonitorM (F α : Type) : Type := EStateM Stop (Monitor F) α

def measureTemperature (cpuZone : Bool) (turn : Turn) : List (Measurement F) :=
  if cpuZone then
    match turn.temperature with
    | some temperature => [.cpuTemp (temperature.tdiv 1000)]
    | none => []
  else []

section Loop

variable [CDouble F]

def percentUsage (used idle : ProcStatDataType) : F :=
  if used + idle ≠ 0 then
    ofRat 100 * ofRat (used.toNat : ℚ) / ofRat ((used + idle).toNat : ℚ)
  else ofRat 0

/-- The usage since the last counted sample, if `getData` succeeds. -/
def measureUsage (turn : Turn) : MonitorM F (List (Measurement F)) := do
  let (read, cpuStats) := (← get).cpuStats.getData turn.stat
  if read then
    let (used, idle) := cpuStats.getUsage
    modify fun s => { s with
      cpuStats := cpuStats.setPastData, samples := s.samples ++ [⟨turn.stat, used, idle⟩] }
    return [.cpuUse (percentUsage used idle)]
  else
    modify fun s => { s with cpuStats := cpuStats }
    return []

/-- The loop: what `main` returns. -/
def monitorLoop (cpuZone : Bool) : List Turn → MonitorM F Nat
  | [] => throw .pending
  | turn :: turns => do
    if turn.run then
      let usage ← measureUsage turn
      let data := measureTemperature cpuZone turn ++ usage
      if data ≠ [] then
        modify fun s => { s with pushed := s.pushed ++ [data] }
        if turn.performed then monitorLoop cpuZone turns else return 1
      else
        -- `run` is reset, and the loop ends at its next test
        return 0
    else
      return 0

/-- The statistics before the loop, where the first line of the stat file is `stat`. -/
def firstStats (stat : Option StdString) : CpuStats :=
  let (read, cpuStats) := ({} : CpuStats).getData stat
  if read then cpuStats.setPastData else cpuStats

end Loop

/-! ## Idle time -/

/-- The counters of idle time. -/
def idleTotal (counters : Counters) : ProcStatDataType := counters 3 + counters 4

theorem CpuStats.getUsage_idle (s : CpuStats) :
    s.getUsage.2 = idleTotal s.mData - idleTotal s.mPastData := by
  rw [getUsage_eq]
  exact sub_add_sub_comm _ _ _ _

/-- The numbers of a line of the stat file. -/
def lineNumbers (line : List Char) : List Nat := (lineRuns line).map decimalValue

/-- The baseline is the last counted sample: what was counted since the baseline `past` adds up to
it, and it has the numbers of the line it was read from. -/
structure Monitor.Counts (past : Counters) (s : Monitor F) : Prop where
  sum : (s.samples.map Sample.idle).sum = idleTotal s.cpuStats.mPastData - idleTotal past
  last : ∀ sample line, s.samples.getLast? = some sample → sample.stat = some line →
    (∀ n ∈ lineNumbers line.chars, n < 2 ^ 64) → ∀ (idx : Fin itemCount) n,
      (lineNumbers line.chars)[idx.val]? = some n → s.cpuStats.mPastData idx = BitVec.ofNat 64 n

theorem getData_mPastData (s : CpuStats) (stat : Option StdString) :
    (s.getData stat).2.mPastData = s.mPastData := by
  have stored : ∀ (items : List (Fin itemCount)) runs (s : CpuStats),
      (storeRuns items runs s).2.mPastData = s.mPastData := by
    intro items
    induction items with
    | nil => exact fun _ _ => rfl
    | cons idx items ih =>
      rintro (_ | ⟨run, runs⟩) s
      · rfl
      · unfold storeRuns
        split
        · exact ih _ _
        · rfl
  cases stat with
  | none => rfl
  | some line =>
    show (scanLine (some line) s).2.mPastData = _
    rw [scanLine_run, stored]

theorem getData_numbers (s : CpuStats) {line : StdString}
    (fit : ∀ n ∈ lineNumbers line.chars, n < 2 ^ 64) (idx : Fin itemCount) {n : Nat}
    (number : (lineNumbers line.chars)[idx.val]? = some n) :
    (s.getData (some line)).2.mData idx = BitVec.ofNat 64 n := by
  obtain ⟨mData, read, placed⟩ := getData_fit s fun run mem =>
    fit _ (List.mem_map_of_mem (List.mem_of_mem_take mem))
  rw [lineNumbers, List.getElem?_map] at number
  obtain ⟨run, found, rfl⟩ := Option.map_eq_some_iff.mp number
  rw [read]
  exact placed idx run found

variable [CDouble F] {past : Counters} {s : Monitor F}

/-- A turn counts one sample or none. -/
theorem measureUsage_counts (counts : s.Counts past) (turn : Turn) :
    Ends (measureUsage turn) s (fun _ t => t.Counts past) (fun _ t => t.Counts past) := by
  have kept := getData_mPastData s.cpuStats turn.stat
  have numbers := fun {line} (read : turn.stat = some line) =>
    read ▸ @getData_numbers s.cpuStats line
  unfold measureUsage
  rw [ends_bind, ends_get]
  generalize s.cpuStats.getData turn.stat = r at kept numbers
  obtain ⟨read, cpuStats⟩ := r
  dsimp only at kept ⊢
  split
  · rw [ends_bind, ends_modify]
    constructor
    · -- the new baseline is the sample, so its growth is counted from the old one
      show ((s.samples ++ [_]).map Sample.idle).sum = idleTotal cpuStats.mData - _
      rw [List.map_append, List.sum_append, counts.sum]
      show _ + (cpuStats.getUsage.2 + 0) = _
      rw [CpuStats.getUsage_idle, kept, add_zero, sub_add_sub_cancel']
    · intro sample line last read fit idx n number
      have last : (s.samples ++ [_]).getLast? = some sample := last
      rw [List.getLast?_concat] at last
      obtain rfl := Option.some.inj last
      exact numbers read fit idx number
  · rw [ends_bind, ends_modify]
    constructor
    · show _ = idleTotal cpuStats.mPastData - _
      rw [kept]
      exact counts.sum
    · show ∀ _ _, _ → _ → _ → ∀ _ _, _ → cpuStats.mPastData _ = _
      rw [kept]
      exact counts.last

theorem monitorLoop_counts (counts : s.Counts past) (cpuZone : Bool) (turns : List Turn) :
    Ends (monitorLoop cpuZone turns) s (fun _ t => t.Counts past) (fun _ t => t.Counts past) := by
  induction turns generalizing s with
  | nil => exact counts
  | cons turn turns ih =>
    unfold monitorLoop
    split
    · refine (measureUsage_counts counts turn).bind fun usage t counts => ?_
      dsimp only
      split
      · have counts' : ({ t with pushed := t.pushed ++ [measureTemperature cpuZone turn ++ usage] } :
            Monitor F).Counts past := ⟨counts.sum, counts.last⟩
        rw [ends_bind, ends_modify]
        split
        · exact ih counts'
        · exact counts'
      · exact counts
    · exact counts

/-- In every run of the loop, whatever the file holds in each turn and wherever the run stops:
where the last counted sample is a line with numbers that fit, all idle amounts together are the
idle time of this line less that of the first baseline, modulo 2^64. -/
theorem monitorLoop_idle (cpuZone : Bool) (turns : List Turn) (cpuStats : CpuStats) {sample : Sample}
    {line : StdString} {user nice system idle ioWait : Nat} {more : List Nat}
    (last : (final ((monitorLoop cpuZone turns).run
      ({ cpuStats := cpuStats } : Monitor F))).samples.getLast? = some sample)
    (read : sample.stat = some line)
    (numbers : lineNumbers line.chars = user :: nice :: system :: idle :: ioWait :: more)
    (fit : ∀ n ∈ lineNumbers line.chars, n < 2 ^ 64) :
    ((final ((monitorLoop cpuZone turns).run
        ({ cpuStats := cpuStats } : Monitor F))).samples.map Sample.idle).sum =
      (BitVec.ofNat 64 idle + BitVec.ofNat 64 ioWait) - idleTotal cpuStats.mPastData := by
  have start : ({ cpuStats := cpuStats } : Monitor F).Counts cpuStats.mPastData := by
    refine ⟨?_, nofun⟩
    rw [sub_self]
    rfl
  have counts := Ends.final (I := fun s : Monitor F => s.Counts cpuStats.mPastData)
    (monitorLoop_counts start cpuZone turns)
  rw [counts.sum]
  have placed := counts.last sample line last read fit
  have third := placed 3 idle (by rw [numbers]; rfl)
  have fourth := placed 4 ioWait (by rw [numbers]; rfl)
  unfold idleTotal
  rw [third, fourth]

section Sample

def firstLine : StdString := ⟨"cpu  10 0 5 40 2 0 0 0 0 0".toList, by decide⟩

/-- The third number does not fit, when two have been stored. -/
def longLine : StdString := ⟨"cpu  99 99 99999999999999999999 1 1".toList, by decide⟩

def lastLine : StdString := ⟨"cpu  20 1 9 70 3".toList, by decide⟩

/-- A sample, a line that fails, a file that cannot be opened, and a sample. -/
def sampleTurns : List Turn :=
  [⟨true, some 41000, some firstLine, true⟩, ⟨true, some 41000, some longLine, true⟩,
    ⟨true, none, none, true⟩, ⟨true, some 42000, some lastLine, true⟩]

theorem monitorLoop_idle_sampleTurns :
    ((final ((monitorLoop true sampleTurns).run
        ({ cpuStats := {} } : Monitor ExReal))).samples.map Sample.idle).sum =
      (BitVec.ofNat 64 70 + BitVec.ofNat 64 3) - idleTotal fun _ => 0 :=
  @monitorLoop_idle ExReal _ true sampleTurns {} ⟨some lastLine, 0, 31⟩ lastLine 20 1 9 70 3 []
    (by decide +kernel) rfl (by decide +kernel) (by decide +kernel)

end Sample

/-! ## Busy time -/

/-- The counters of busy time: `User`, `Nice`, `System`, `IRQ`, `SoftIRQ` and `Steal`. -/
def busyItems : List (Fin itemCount) := [0, 1, 2, 5, 6, 7]

/-- How much the counters of busy time have grown together, where none has decreased. -/
def CpuStats.busyIncrease (s : CpuStats) : Nat :=
  (busyItems.map fun idx => (s.mData idx).toNat - (s.mPastData idx).toNat).sum

theorem CpuStats.busyIncrease_eq_zero {s : CpuStats} (grown : ∀ idx, s.mPastData idx ≤ s.mData idx) :
    s.busyIncrease = 0 ↔ ∀ idx ∈ busyItems, s.mData idx = s.mPastData idx := by
  unfold busyIncrease
  rw [List.sum_eq_zero_iff]
  simp only [List.mem_map, forall_exists_index, and_imp, forall_apply_eq_imp_iff₂]
  refine forall₂_congr fun idx _ => ?_
  have ordered : (s.mPastData idx).toNat ≤ (s.mData idx).toNat := grown idx
  rw [Nat.sub_eq_zero_iff_le, ← BitVec.toNat_inj]
  omega

theorem percentUsage_zero (idle : ProcStatDataType) :
    (percentUsage 0 idle : ExReal) = ExReal.fin 0 := by
  unfold percentUsage
  rw [zero_add]
  split
  · next some =>
    have nonzero : ((idle.toNat : ℚ) : ℝ) ≠ 0 := by
      rw [Rat.cast_natCast, Nat.cast_ne_zero]
      exact fun zero => some (BitVec.eq_of_toNat_eq zero)
    simp only [ExReal.ofRat_eq, ExReal.fin_mul]
    rw [ExReal.fin_div nonzero]
    simp
  · simp

/-- The amount `used` covers the growth of the counters of busy time, and a percentage of 0 says
that none of them has grown, only where none of them has grown. -/
theorem getUsage_busy_iff (s : CpuStats) (grown : ∀ idx, s.mPastData idx ≤ s.mData idx) :
    (s.busyIncrease ≤ s.getUsage.1.toNat ∧
      ((percentUsage s.getUsage.1 s.getUsage.2 : ExReal) = ExReal.fin 0 →
        ∀ idx ∈ busyItems, s.mData idx = s.mPastData idx)) ↔
      ∀ idx ∈ busyItems, s.mData idx = s.mPastData idx := by
  have used : s.getUsage.1 = 0 := by rw [getUsage_eq]
  rw [used, percentUsage_zero]
  refine ⟨fun holds => holds.2 rfl, fun still => ⟨?_, fun _ => still⟩⟩
  rw [(CpuStats.busyIncrease_eq_zero grown).mpr still]
  exact Nat.zero_le _

/-- Statistics with one tick of `User`. -/
def userTick : CpuStats := { mData := Function.update (fun _ => 0) 0 1 }

theorem getUsage_busy_iff_userTick :
    (userTick.busyIncrease ≤ userTick.getUsage.1.toNat ∧
      ((percentUsage userTick.getUsage.1 userTick.getUsage.2 : ExReal) = ExReal.fin 0 →
        ∀ idx ∈ busyItems, userTick.mData idx = userTick.mPastData idx)) ↔
      ∀ idx ∈ busyItems, userTick.mData idx = userTick.mPastData idx :=
  getUsage_busy_iff userTick (by decide)

/-- The tick is not in the amount `used`. -/
theorem getUsage_userTick : (∀ idx, userTick.mPastData idx ≤ userTick.mData idx) ∧
    userTick.busyIncrease = 1 ∧ userTick.getUsage.1.toNat = 0 := by
  decide

end AprsWx
