import AprsWx.DhtSample

/-!
# A sensor on the library's callback

`dhtxx_pigpio.c`. A thread of the GPIO library calls `callback` for each change of the level of
the line, with the time in microseconds, which wraps around. `main` starts an attempt by resetting
what the callback collects, signals the sensor, and looks 50ms later at what has come.

The calls come at any time in between. A call that overlaps the reset or the test is a race, of
which C says nothing; there is none of them here.

* `callback_holds`: a call of the callback, and where it writes outside of the array.
* `dhtxx_runs`: every run of the program.
* `attempt_reads`, `attempt_rejects`: what a run prints of a transmission, and of a spoiled one.
-/

namespace AprsWx.Dhtxx

open Bits Binary Floating Dht

/-! ## The program -/

inductive Device
  | DHT11
  | DHT22
  deriving DecidableEq

/-- The variables of `main` and `callback`. -/
structure Globals where
  bitCount : Int := 0
  data : Fin 5 → ℕ := fun _ => 0
  startTick : BitVec 32 := 0

/-- The arguments of a call of `callback`. -/
structure Alert where
  level : ℕ
  tick : BitVec 32
  deriving DecidableEq

/-- `callback`; there is no state after a write outside of the array. -/
def callback (s : Globals) (alert : Alert) : Option Globals :=
  if alert.level = 0 then
    let duration := (alert.tick - s.startTick).toInt
    let bitCount := s.bitCount + 1
    if 0 < bitCount then
      if inside : ((bitCount - 1) / 8).toNat < 5 then
        let i : Fin 5 := ⟨((bitCount - 1) / 8).toNat, inside⟩
        let byte := s.data i <<< 1 ||| (decide (100 < duration)).toNat
        some ⟨bitCount, Function.update s.data i byte, alert.tick⟩
      else none
    else some ⟨bitCount, s.data, alert.tick⟩
  else some s

/-- What `main` does to the variables at the start of an attempt. -/
def Globals.reset (tick : BitVec 32) : Globals := ⟨-3, fun _ => 0, tick⟩

/-- The test of `main`. -/
def Globals.valid (s : Globals) : Bool :=
  s.bitCount == 40 && s.data 4 == (s.data 0 + s.data 1 + s.data 2 + s.data 3) &&& 0xff

def humidity (device : Device) (data : Fin 5 → ℕ) : Floating :=
  match device with
  | .DHT11 => add single (float (data 0)) (div single (float (data 1)) (float 10))
  | .DHT22 => div single (float (data 0 * 256 + data 1)) (float 10)

def tempC (device : Device) (data : Fin 5 → ℕ) : Floating :=
  match device with
  | .DHT11 => add single (float (data 2)) (div single (float (data 3)) (float 10))
  | .DHT22 =>
    let tempC := div single (float ((data 2 &&& 0x7f) * 256 + data 3)) (float 10)
    if data 2 &&& 0x80 ≠ 0 then mul single tempC (ofRat single (-1)) else tempC

/-- `Temperature: %.1fC %.1fF  Humidity: %.1f%%` -/
def printed (tempC tempF humidity : List Char) : List Char :=
  "Temperature: ".toList ++ tempC ++ "C ".toList ++ tempF ++ "F  Humidity: ".toList ++ humidity ++ ['%']

/-- The line that `main` prints after an attempt. -/
def Globals.line (device : Device) (s : Globals) : List Char :=
  if s.valid then
    let tempC := tempC device s.data
    printed tempC.fixed (fahrenheit tempC).fixed (humidity device s.data).fixed
  else
    "Data Invalid!".toList

/-- The calls of the callback around an attempt: before the reset, and between the reset and the
test; `tick` is the time at the reset. -/
structure Attempt where
  early : List Alert
  tick : BitVec 32
  alerts : List Alert

/-- Where a run is: in the middle of an attempt, at the end of `main`, or nowhere. -/
inductive Status
  | waiting
  | finished
  | undefined
  deriving DecidableEq

structure Run where
  lines : List (List Char)
  status : Status
  deriving DecidableEq

/-- The loop of `main`. -/
def attempts (device : Device) (loopFlag : Bool) : Int → Globals → List Attempt → Run
  | _, _, [] => ⟨[], .waiting⟩
  | tries, s, attempt :: rest =>
    match attempt.early.foldlM callback s with
    | none => ⟨[], .undefined⟩
    | some _ =>
      match attempt.alerts.foldlM callback (.reset attempt.tick) with
      | none => ⟨[], .undefined⟩
      | some s =>
        let tries := if s.valid then 0 else tries - 1
        if loopFlag ∨ tries ≠ 0 then
          let run := attempts device loopFlag tries s rest
          ⟨s.line device :: run.lines, run.status⟩
        else
          ⟨[s.line device], .finished⟩

/-! ## The callback -/

/-- When the line went low. -/
def lows (alerts : List Alert) : List (BitVec 32) := (alerts.filter (·.level = 0)).map Alert.tick

/-- The bit of each low, by the time since the one before. -/
def received : BitVec 32 → List (BitVec 32) → List Bool
  | _, [] => []
  | startTick, tick :: ticks => decide (100 < (tick - startTick).toInt) :: received tick ticks

@[simp] theorem length_received (startTick : BitVec 32) (ticks : List (BitVec 32)) :
    (received startTick ticks).length = ticks.length := by
  induction ticks generalizing startTick with
  | nil => rfl
  | cons tick ticks ih => rw [received, List.length_cons, ih, List.length_cons]

/-- The variables hold the bits of the lows since the reset; the first three are no data. -/
structure Globals.Holds (bs : List Bool) (s : Globals) : Prop where
  bitCount : s.bitCount = bs.length - 3
  data : ∀ i : Fin 5, s.data i = byteAt (bs.drop 3) i
  inside : bs.length ≤ 43

section Callback

variable {s : Globals} {bs : List Bool} {alert : Alert} {alerts : List Alert}

theorem holds_reset (tick : BitVec 32) : (Globals.reset tick).Holds [] :=
  ⟨rfl, fun _ => byteAt_nil.symm, by decide⟩

/-- Before the first reset the callback counts as after three lows. -/
theorem holds_start (b : Bool) : ({} : Globals).Holds [b, b, b] :=
  ⟨rfl, fun _ => byteAt_nil.symm, show 3 ≤ 43 by decide⟩

/-- The element that the next bit goes to. -/
theorem element_eq (holds : s.Holds bs) (data : 3 ≤ bs.length) :
    ((s.bitCount + 1 - 1) / 8).toNat = (bs.drop 3).length / 8 := by
  have count : s.bitCount + 1 - 1 = ((bs.drop 3).length : ℤ) := by
    rw [holds.bitCount, List.length_drop]
    omega
  rw [count]
  omega

/-- A low adds its bit. After 43 of them it is written outside of the array. -/
theorem callback_holds (holds : s.Holds bs) (low : alert.level = 0) :
    if bs.length < 43 then ∃ t, callback s alert = some t ∧ t.startTick = alert.tick ∧
      t.Holds (bs ++ [decide (100 < (alert.tick - s.startTick).toInt)])
    else callback s alert = none := by
  have bitCount := holds.bitCount
  obtain ⟨b, bit⟩ : ∃ b, decide (100 < (alert.tick - s.startTick).toInt) = b := ⟨_, rfl⟩
  have grown : s.bitCount + 1 = (bs ++ [b]).length - 3 := by
    rw [bitCount, List.length_append, List.length_singleton]
    push_cast
    ring
  unfold callback
  rw [if_pos low, bit]
  dsimp only
  rcases Nat.lt_or_ge bs.length 3 with ready | data
  · -- one of the lows before the data
    have early : (bs ++ [b]).drop 3 = bs.drop 3 := by
      have few : (bs ++ [b]).length ≤ 3 := by
        rw [List.length_append]
        exact ready
      rw [List.drop_eq_nil_of_le few, List.drop_eq_nil_of_le ready.le]
    rw [if_pos (by omega), if_neg (by omega)]
    refine ⟨_, rfl, rfl, grown, fun i => ?_, ?_⟩
    · rw [early]
      exact holds.data i
    · rw [List.length_append]
      exact Nat.succ_le_of_lt (ready.trans (by decide))
  · have count := element_eq holds data
    have length : (bs.drop 3).length = bs.length - 3 := List.length_drop
    rw [if_pos (show 0 < s.bitCount + 1 by omega)]
    split
    · next room =>
      have inside : ((s.bitCount + 1 - 1) / 8).toNat < 5 := by
        rw [count, length]
        omega
      rw [dif_pos inside]
      refine ⟨_, rfl, rfl, grown, fun i => ?_, ?_⟩
      · show Function.update s.data ⟨((s.bitCount + 1 - 1) / 8).toNat, inside⟩ _ i = _
        rw [List.drop_append_of_le_length data, ← bit]
        exact update_byteAt holds.data count.symm _ i
      · rw [List.length_append]
        exact Nat.succ_le_of_lt room
    · next full =>
      refine dif_neg ?_
      rw [count, length]
      omega

/-- What the calls of a time leave. -/
theorem alerts_hold (holds : s.Holds bs) (alerts : List Alert) :
    if bs.length + (lows alerts).length ≤ 43 then ∃ t, alerts.foldlM callback s = some t ∧
      t.Holds (bs ++ received s.startTick (lows alerts))
    else alerts.foldlM callback s = none := by
  induction alerts generalizing s bs with
  | nil =>
    rw [show lows [] = [] from rfl, List.length_nil, Nat.add_zero, if_pos holds.inside]
    exact ⟨s, rfl, by simpa [received] using holds⟩
  | cons alert alerts ih =>
    rw [List.foldlM_cons]
    by_cases low : alert.level = 0
    · have ticks : lows (alert :: alerts) = alert.tick :: lows alerts := by
        simp [lows, low]
      have step := callback_holds holds low
      rw [ticks, List.length_cons, received]
      by_cases room : bs.length < 43
      · rw [if_pos room] at step
        obtain ⟨t, called, start, holds⟩ := step
        have rest := ih holds
        rw [List.length_append, List.length_singleton, start, List.append_assoc, Nat.add_assoc,
          Nat.add_comm 1] at rest
        rw [called]
        exact rest
      · rw [if_neg room] at step
        rw [step, if_neg (by omega)]
        rfl
    · have ticks : lows (alert :: alerts) = lows alerts := by
        simp [lows, low]
      have same : callback s alert = some s := if_neg low
      rw [same, ticks]
      exact ih holds

end Callback

/-! ## An attempt -/

/-- The bits of the lows of an attempt. -/
def Attempt.bits (a : Attempt) : List Bool := received a.tick (lows a.alerts)

/-- The bytes that the attempt has received. -/
def Attempt.data (a : Attempt) (i : Fin 5) : ℕ := byteAt (a.bits.drop 3) i

/-- The attempt has received forty bits, and the last eight are right for the others. -/
def Attempt.Good (a : Attempt) : Prop :=
  (lows a.alerts).length = 43 ∧ Checked [a.data 0, a.data 1, a.data 2, a.data 3] (a.data 4)

instance (a : Attempt) : Decidable a.Good := inferInstanceAs (Decidable (_ ∧ _))

/-- There are more lows than there is room for, before the reset, where `before` lows had come,
or after it. -/
def Attempt.Overflows (before : ℕ) (a : Attempt) : Prop :=
  43 < before + (lows a.early).length ∨ 43 < (lows a.alerts).length

instance (before : ℕ) (a : Attempt) : Decidable (a.Overflows before) :=
  inferInstanceAs (Decidable (_ ∨ _))

/-- The numbers that a device means by its bytes. -/
def sample (device : Device) (data : Fin 5 → ℕ) : Sample :=
  match device with
  | .DHT11 => ⟨10 * data 0 + data 1, false, 10 * data 2 + data 3⟩
  | .DHT22 =>
    ⟨data 0 * 256 + data 1, decide (128 ≤ data 2), data 2 % 128 * 256 + data 3⟩

/-- What is right to print of an attempt. -/
def Attempt.line (device : Device) (a : Attempt) : List Char :=
  if a.Good then
    let r := sample device a.data
    printed r.celsiusText r.fahrenheitText r.humidityText
  else
    "Data Invalid!".toList

section Attempt

variable {s : Globals} {device : Device} {data : Fin 5 → ℕ}

theorem valid_iff {a : Attempt} (holds : s.Holds a.bits) : s.valid = true ↔ a.Good := by
  have length : a.bits.length = (lows a.alerts).length := length_received _ _
  have count : s.bitCount = 40 ↔ (lows a.alerts).length = 43 := by
    rw [holds.bitCount, length]
    omega
  have bytes : s.data = a.data := funext holds.data
  have mask : ∀ n : ℕ, n &&& 0xff = n % 256 := fun n => Nat.and_two_pow_sub_one_eq_mod n 8
  unfold Globals.valid Attempt.Good Checked
  rw [Bool.and_eq_true, beq_iff_eq, beq_iff_eq, count, bytes, mask]
  simp only [List.sum_cons, List.sum_nil, Nat.add_zero, Nat.add_assoc]

/-- Units and tenths. -/
theorem near_units {n m : ℕ} (small : n < 256) (small' : m < 256) :
    Near (add single (float n) (div single (float m) (float 10))) false (((10 * n + m : ℕ) : ℚ) / 10)
      (1 / 2500) := by
  have size : (n : ℚ) ≤ 255 := by exact_mod_cast Nat.lt_succ_iff.mp small
  have size' : (m : ℚ) ≤ 255 := by exact_mod_cast Nat.lt_succ_iff.mp small'
  have tenth := near_tenth (n := m) 26 (small'.trans (by decide)) (by linarith)
  have fraction := abs_le.mp (tenth.error.trans (single_error_le (1 / 10000) (by norm_num)))
  have exactly : n < 2 ^ 24 := small.trans (by decide)
  have units := float_magnitude exactly
  have sum := add_magnitude (f := single) (float_negative exactly) tenth.sign
    (282 : ℚ) (by rw [units]; linarith [fraction.2])
  rw [units] at sum
  have error := abs_le.mp (sum.2.trans (single_error_le (1 / 10000) (by norm_num)))
  refine ⟨sum.1, ?_⟩
  push_cast
  rw [abs_le]
  constructor <;> linarith [fraction.1, fraction.2, error.1, error.2]

theorem near_humidity (small : ∀ i, data i < 256) :
    Near (humidity device data) false ((sample device data).humidity / 10) (1 / 2500) := by
  cases device with
  | DHT11 => exact near_units (small 0) (small 1)
  | DHT22 =>
    have most : data 0 * 256 + data 1 < 65536 := pair_lt (small 0) (small 1)
    have size : ((data 0 * 256 + data 1 : ℕ) : ℚ) ≤ 65535 := by exact_mod_cast Nat.lt_succ_iff.mp most
    have near := near_tenth (n := data 0 * 256 + data 1) 6554 (most.trans (by decide)) (by linarith)
    exact ⟨near.sign, near.error.trans (single_error_le _ (by norm_num))⟩

theorem near_tempC (small : ∀ i, data i < 256) :
    Near (tempC device data) (sample device data).below ((sample device data).temperature / 10)
      (1 / 2000) := by
  cases device with
  | DHT11 =>
    have near := near_units (small 2) (small 3)
    exact ⟨near.sign, near.error.trans (by norm_num)⟩
  | DHT22 =>
    have low := small 3
    obtain ⟨sign, rest⟩ := sign_bit (small 2)
    have most : data 2 % 128 * 256 + data 3 < 32768 := by omega
    have size : ((data 2 % 128 * 256 + data 3 : ℕ) : ℚ) ≤ 32767 := by
      exact_mod_cast Nat.lt_succ_iff.mp most
    have near := near_tenth (n := data 2 % 128 * 256 + data 3) 3277 (most.trans (by decide)) (by linarith)
    have error : single.error 3277 ≤ 1 / 5000 := single_error_le _ (by norm_num)
    have near : Near _ false _ (1 / 5000) := ⟨near.sign, near.error.trans error⟩
    unfold tempC sample
    dsimp only
    rw [rest]
    by_cases below : 128 ≤ data 2
    · rw [if_pos (sign.mpr below), decide_eq_true below]
      have negated := near_negated near 3277 (by linarith)
      have error : single.error 3277 ≤ 1 / 5000 := single_error_le _ (by norm_num)
      exact ⟨negated.sign, negated.error.trans (by linarith)⟩
    · rw [if_neg (mt sign.mp below), decide_eq_false below]
      exact ⟨near.sign, near.error.trans (by norm_num)⟩

/-- The texts are right in spite of the rounding. -/
theorem printed_eq (small : ∀ i, data i < 256) :
    printed (tempC device data).fixed (fahrenheit (tempC device data)).fixed
        (humidity device data).fixed =
      printed (sample device data).celsiusText (sample device data).fahrenheitText
        (sample device data).humidityText := by
  have temperature : (sample device data).temperature < 32768 := by
    have third := small 2
    have fourth := small 3
    cases device with
    | DHT11 =>
      show 10 * data 2 + data 3 < 32768
      omega
    | DHT22 =>
      show data 2 % 128 * 256 + data 3 < 32768
      omega
  have celsius : Near (tempC device data) _ _ _ := near_tempC small
  rw [(near_humidity small).fixed (by norm_num), celsius.fixed (by norm_num),
    fixed_fahrenheit _ celsius temperature]
  rfl

theorem line_eq {a : Attempt} (holds : s.Holds a.bits) : s.line device = a.line device := by
  have small : ∀ i, s.data i < 256 := fun i => by
    rw [holds.data]
    exact byteAt_lt _ _
  have bytes : s.data = a.data := funext holds.data
  unfold Globals.line Attempt.line
  by_cases good : a.Good
  · rw [if_pos ((valid_iff holds).mpr good), if_pos good]
    dsimp only
    rw [printed_eq small, bytes]
  · rw [if_neg (mt (valid_iff holds).mp good), if_neg good]

end Attempt

/-! ## The program in a run -/

/-- How many lows have come since the last reset, where `before` had come at the start. -/
def lastLows (before : ℕ) (made : List Attempt) : ℕ :=
  (made.getLast?.map fun a => (lows a.alerts).length).getD before

/-- Attempts with room for all of their lows. -/
def Fit : ℕ → List Attempt → Prop
  | _, [] => True
  | before, a :: made => ¬ a.Overflows before ∧ Fit (lows a.alerts).length made

/-- What a run has made of the attempts that it was given: it has made the first of them, each for
itself, and has the others before it. -/
structure Course (device : Device) (loopFlag : Bool) (tries : Int) (before : ℕ)
    (made rest : List Attempt) (run : Run) : Prop where
  lines : run.lines = made.map (Attempt.line device)
  fit : Fit before made
  unfinished : run.status ≠ .finished → loopFlag = false → made.length < tries ∧ ∀ a ∈ made, ¬ a.Good
  waiting : run.status = .waiting → rest = []
  undefined : run.status = .undefined →
    ∃ a more, rest = a :: more ∧ a.Overflows (lastLows before made)
  finished : run.status = .finished → loopFlag = false ∧
    ∃ bad a, made = bad ++ [a] ∧ (∀ b ∈ bad, ¬ b.Good) ∧ made.length ≤ tries ∧
      (a.Good ∨ made.length = tries)

section Loop

variable {device : Device} {loopFlag : Bool} {tries : Int} {before : ℕ} {made rest : List Attempt}
  {run : Run} {a : Attempt} {s : Globals} {bs : List Bool}

/-- The calls around one attempt. -/
theorem attempt_holds (holds : s.Holds bs) (a : Attempt) :
    if a.Overflows bs.length then a.early.foldlM callback s = none ∨
      ((∃ t, a.early.foldlM callback s = some t) ∧
        a.alerts.foldlM callback (.reset a.tick) = none)
    else (∃ t, a.early.foldlM callback s = some t) ∧
      ∃ t, a.alerts.foldlM callback (.reset a.tick) = some t ∧ t.Holds a.bits := by
  have early := alerts_hold holds a.early
  have after := alerts_hold (holds_reset a.tick) a.alerts
  rw [List.length_nil, Nat.zero_add, List.nil_append] at after
  by_cases room : bs.length + (lows a.early).length ≤ 43
  · rw [if_pos room] at early
    obtain ⟨t, called, -⟩ := early
    by_cases room' : (lows a.alerts).length ≤ 43
    · have fits : ¬ a.Overflows bs.length := not_or.mpr ⟨Nat.not_lt.mpr room, Nat.not_lt.mpr room'⟩
      rw [if_pos room'] at after
      rw [if_neg fits]
      exact ⟨⟨t, called⟩, after⟩
    · have overflows : a.Overflows bs.length := .inr (Nat.lt_of_not_le room')
      rw [if_neg room'] at after
      rw [if_pos overflows]
      exact .inr ⟨⟨t, called⟩, after⟩
  · have overflows : a.Overflows bs.length := .inl (Nat.lt_of_not_le room)
    rw [if_neg room] at early
    rw [if_pos overflows]
    exact .inl early

theorem lastLows_cons (before : ℕ) (a : Attempt) (made : List Attempt) :
    lastLows before (a :: made) = lastLows (lows a.alerts).length made := by
  unfold lastLows
  rw [List.getLast?_cons]
  cases made.getLast? <;> rfl

/-- An attempt that is not the last one. -/
theorem Course.cons (course : Course device loopFlag tries (lows a.alerts).length made rest run)
    (fits : ¬ a.Overflows before) {tries' : Int}
    (bad : loopFlag = false → ¬ a.Good ∧ tries' = tries + 1) :
    Course device loopFlag tries' before (a :: made) rest
      ⟨a.line device :: run.lines, run.status⟩ where
  lines := by rw [List.map_cons, course.lines]
  fit := ⟨fits, course.fit⟩
  unfinished going once := by
    obtain ⟨fewer, none⟩ := course.unfinished going once
    obtain ⟨notGood, rfl⟩ := bad once
    refine ⟨?_, List.forall_mem_cons.mpr ⟨notGood, none⟩⟩
    rw [List.length_cons]
    push_cast
    linarith
  waiting := course.waiting
  undefined undefined := by
    rw [lastLows_cons]
    exact course.undefined undefined
  finished finished := by
    obtain ⟨once, others, last, rfl, none, most, reason⟩ := course.finished finished
    obtain ⟨notGood, rfl⟩ := bad once
    refine ⟨once, a :: others, last, rfl, List.forall_mem_cons.mpr ⟨notGood, none⟩, ?_, ?_⟩
    · rw [List.length_cons]
      push_cast
      linarith
    · refine reason.imp id fun all => ?_
      rw [List.length_cons]
      push_cast
      linarith

/-- The last attempt. -/
theorem Course.last (fits : ¬ a.Overflows before) (once : loopFlag = false)
    (reason : a.Good ∨ tries = 1) (some : 0 < tries) :
    Course device loopFlag tries before [a] rest ⟨[a.line device], .finished⟩ where
  lines := rfl
  fit := ⟨fits, trivial⟩
  unfinished going := absurd rfl going
  waiting waits := by cases waits
  undefined undefined := by cases undefined
  finished _ := by
    refine ⟨once, [], a, rfl, by simp, ?_, reason.imp id fun one => by rw [one]; rfl⟩
    rw [List.length_singleton]
    push_cast
    linarith

/-- The course of every run. -/
theorem attempts_course (holds : s.Holds bs) (some : loopFlag = false → 0 < tries)
    (as : List Attempt) :
    ∃ made rest, as = made ++ rest ∧
      Course device loopFlag tries bs.length made rest (attempts device loopFlag tries s as) := by
  induction as generalizing s bs tries with
  | nil =>
    refine ⟨[], [], rfl, rfl, trivial, fun _ once => ⟨some once, by simp⟩, fun _ => rfl, ?_, ?_⟩
    · exact fun undefined => by cases undefined
    · exact fun finished => by cases finished
  | cons a as ih =>
    have calls := attempt_holds holds a
    by_cases overflows : a.Overflows bs.length
    · rw [if_pos overflows] at calls
      have run : attempts device loopFlag tries s (a :: as) = ⟨[], .undefined⟩ := by
        unfold attempts
        rcases calls with early | ⟨⟨t, early⟩, after⟩
        · rw [early]
        · rw [early, after]
      rw [run]
      refine ⟨[], a :: as, rfl, rfl, trivial, fun _ once => ⟨some once, by simp⟩, ?_, ?_, ?_⟩
      · exact fun waits => by cases waits
      · exact fun _ => ⟨a, as, rfl, overflows⟩
      · exact fun finished => by cases finished
    · rw [if_neg overflows] at calls
      obtain ⟨⟨u, early⟩, t, after, holds⟩ := calls
      have length : a.bits.length = (lows a.alerts).length := length_received _ _
      unfold attempts
      rw [early, after]
      dsimp only
      rw [line_eq holds]
      obtain ⟨tries', counted⟩ : ∃ tries', (if t.valid then 0 else tries - 1) = tries' := ⟨_, rfl⟩
      rw [counted]
      have good_iff := valid_iff holds
      by_cases again : loopFlag = true ∨ tries' ≠ 0
      · rw [if_pos again]
        have left : loopFlag = false → ¬ a.Good ∧ tries' = tries - 1 ∧ 0 < tries' := fun once => by
          rcases again with forever | again
          · exact absurd (forever.symm.trans once) (by decide)
          · have notGood : ¬ a.Good := fun good =>
              again (counted.symm.trans (if_pos (good_iff.mpr good)))
            rw [if_neg (mt good_iff.mp notGood)] at counted
            have positive := some once
            exact ⟨notGood, counted.symm, by omega⟩
        obtain ⟨made, rest, rfl, course⟩ := ih holds fun once => (left once).2.2
        rw [length] at course
        refine ⟨a :: made, rest, rfl, course.cons overflows fun once => ⟨(left once).1, ?_⟩⟩
        rw [(left once).2.1, sub_add_cancel]
      · obtain ⟨forever, zero⟩ := not_or.mp again
        have once : loopFlag = false := Bool.eq_false_iff.mpr forever
        rw [if_neg again]
        refine ⟨[a], as, rfl, .last overflows once ?_ (some once)⟩
        by_cases good : a.Good
        · exact .inl good
        · rw [if_neg (mt good_iff.mp good)] at counted
          refine .inr ?_
          rw [not_not.mp zero] at counted
          exact sub_eq_zero.mp counted

end Loop

/-- In every run of the program, for either device and with any calls of the callback: an attempt
prints a measurement if and only if exactly 43 lows have come since its own reset and the last byte
of their bits is the sum of the others, and it is the measurement of these bits, to the right
decimals. Without `loop` there are three attempts at most, and a measurement ends the program;
with it the program does not end. There is room for 43 lows after a reset, and for 40 before the
first one: only with the next does the callback write outside of the array. -/
theorem dhtxx_runs (device : Device) (loopFlag : Bool) (as : List Attempt) :
    ∃ made rest, as = made ++ rest ∧
      Course device loopFlag 3 3 made rest (attempts device loopFlag 3 {} as) :=
  attempts_course (holds_start false) (fun _ => by decide) as

/-! ## One of the attempts -/

/-- The program makes the attempt after others: there is room for the lows of all of them, and
without `loop` none of the others has been good, and there are no more than two. -/
structure Reached (loopFlag : Bool) (before : List Attempt) (a : Attempt) : Prop where
  fit : Fit 3 (before ++ [a])
  again : loopFlag = false → before.length < 3 ∧ ∀ b ∈ before, ¬ b.Good

section Reached

variable {device : Device} {loopFlag : Bool} {before after made rest more : List Attempt}
  {a b : Attempt} {run : Run} {n : ℕ}

theorem Fit.not_overflows (fit : Fit n (made ++ b :: more)) : ¬ b.Overflows (lastLows n made) := by
  induction made generalizing n with
  | nil => exact fit.1
  | cons a made ih =>
    rw [lastLows_cons]
    exact ih fit.2

/-- A run with the attempt among those that it was given has made it. -/
theorem Course.reaches (course : Course device loopFlag 3 3 made rest run)
    (given : before ++ a :: after = made ++ rest) (reached : Reached loopFlag before a) :
    ∃ more, made = before ++ a :: more := by
  refine (made_or_ahead given).resolve_right ?_
  rintro ⟨others, rfl, rfl⟩
  cases status : run.status with
  | waiting => exact absurd (course.waiting status) (by simp)
  | undefined =>
    obtain ⟨b, more, next, overflows⟩ := course.undefined status
    obtain ⟨between, next⟩ := next_ahead next
    have fit := reached.fit
    rw [List.append_assoc, next] at fit
    exact fit.not_overflows overflows
  | finished =>
    obtain ⟨once, bad, last, rfl, -, -, reason⟩ := course.finished status
    obtain ⟨few, none⟩ := reached.again once
    rcases reason with good | all
    · exact none last (by simp) good
    · rw [List.length_append] at few
      omega

/-- Without `loop` the program ends with the attempt if and only if it is good or the third one. -/
theorem Course.ends_iff (course : Course device loopFlag 3 3 (before ++ a :: more) rest run) :
    run.status = .finished ∧ more = [] ↔ loopFlag = false ∧ (a.Good ∨ before.length = 2) := by
  constructor
  · rintro ⟨finished, rfl⟩
    obtain ⟨once, bad, last, split, -, -, reason⟩ := course.finished finished
    obtain ⟨-, same⟩ := List.append_inj' split rfl
    obtain ⟨rfl, -⟩ := List.cons.inj same
    refine ⟨once, reason.imp id fun all => ?_⟩
    rw [List.length_append, List.length_singleton] at all
    omega
  · rintro ⟨once, reason⟩
    have length : (before ++ a :: more).length = before.length + 1 + more.length := by
      rw [List.length_append, List.length_cons]
      omega
    have finished : run.status = .finished := by
      by_contra going
      obtain ⟨few, none⟩ := course.unfinished going once
      rcases reason with good | third
      · exact none a (by simp) good
      · omega
    refine ⟨finished, ?_⟩
    obtain ⟨-, bad, last, split, none, most, -⟩ := course.finished finished
    rcases reason with good | third
    · rcases List.eq_nil_or_concat' more with empty | ⟨others, m, rfl⟩
      · exact empty
      · -- the attempt is one of those before the last
        rw [← List.cons_append, ← List.append_assoc] at split
        obtain ⟨rfl, -⟩ := List.append_inj' split rfl
        exact absurd good (none a (by simp))
    · exact List.eq_nil_of_length_eq_zero (by omega)

/-- The run prints the line of the attempt. -/
theorem line_reached (device : Device) (reached : Reached loopFlag before a) (after : List Attempt) :
    let run := attempts device loopFlag 3 {} (before ++ a :: after)
    run.lines[before.length]? = some (a.line device) ∧
      (run.status = .finished ∧ run.lines.length = before.length + 1 ↔
        loopFlag = false ∧ (a.Good ∨ before.length = 2)) := by
  intro run
  obtain ⟨made, rest, given, course⟩ : ∃ made rest, before ++ a :: after = made ++ rest ∧
      Course device loopFlag 3 3 made rest run :=
    attempts_course (holds_start false) (fun _ => by decide) (before ++ a :: after)
  obtain ⟨more, rfl⟩ := course.reaches given reached
  have lines : run.lines = before.map (Attempt.line device) ++ a.line device :: more.map (Attempt.line device) := by
    rw [course.lines, List.map_append, List.map_cons]
  constructor
  · rw [lines, List.getElem?_append_right (by rw [List.length_map]), List.length_map, Nat.sub_self]
    rfl
  · have length : run.lines.length = before.length + 1 ↔ more = [] := by
      rw [lines, List.length_append, List.length_cons, List.length_map, List.length_map,
        ← List.length_eq_zero_iff]
      omega
    rw [length]
    exact course.ends_iff

end Reached

/-! ## Transmissions -/

/-- The clock at the ends of some gaps, which begin at a time in microseconds. -/
def ticksAfter : ℕ → List ℕ → List (BitVec 32)
  | _, [] => []
  | start, gap :: gaps => .ofNat 32 (start + gap) :: ticksAfter (start + gap) gaps

/-- The sensor tells a bit by the time between two lows. -/
def Spells (gaps : List ℕ) (bs : List Bool) : Prop :=
  List.Forall₂ (fun gap b => if b then 100 < gap ∧ gap < 2 ^ 31 else gap ≤ 100) gaps bs

/-- The sensor has answered and sent the bytes while the attempt waited. Where the clock stood is
of no account, nor is how long the sensor took before the data. -/
def Attempt.Sent (bytes : List ℕ) (a : Attempt) : Prop :=
  ∃ start ready gaps, a.tick = .ofNat 32 start ∧ ready.length = 3 ∧ Spells gaps (stream bytes) ∧
    lows a.alerts = ticksAfter start (ready ++ gaps)

section Sent

variable {bytes : List ℕ} {a : Attempt} {r : Sample}

theorem received_ticksAfter (start : ℕ) (gaps : List ℕ) :
    received (.ofNat 32 start) (ticksAfter start gaps) =
      gaps.map fun gap => decide (100 < (BitVec.ofNat 32 gap).toInt) := by
  induction gaps generalizing start with
  | nil => rfl
  | cons gap gaps ih =>
    have elapsed : BitVec.ofNat 32 (start + gap) - .ofNat 32 start = .ofNat 32 gap := by
      rw [Nat.add_comm, BitVec.ofNat_add, BitVec.add_sub_cancel]
    rw [ticksAfter, received, elapsed, ih, List.map_cons]

theorem Spells.bits {gaps : List ℕ} {bs : List Bool} (spells : Spells gaps bs) :
    gaps.map (fun gap => decide (100 < (BitVec.ofNat 32 gap).toInt)) = bs := by
  induction spells with
  | nil => rfl
  | @cons gap b gaps bs here rest ih =>
    obtain ⟨small, told⟩ : gap < 2 ^ 31 ∧ decide (100 < (gap : ℤ)) = b := by
      cases b with
      | false =>
        have short : gap ≤ 100 := here
        exact ⟨short.trans_lt (by decide), decide_eq_false (by exact_mod_cast short.not_gt)⟩
      | true =>
        obtain ⟨long, small⟩ : 100 < gap ∧ gap < 2 ^ 31 := here
        exact ⟨small, decide_eq_true (by exact_mod_cast long)⟩
    have exactly : (BitVec.ofNat 32 gap).toInt = gap := by
      rw [BitVec.toInt_ofNat']
      exact Int.bmod_eq_of_le (by omega) (by omega)
    rw [List.map_cons, ih, exactly, told]

/-- The callback collects the bytes that were sent. -/
theorem Attempt.Sent.received (sent : a.Sent bytes) (small : ∀ n ∈ bytes, n < 256) :
    (lows a.alerts).length = 3 + 8 * bytes.length ∧ ∀ i, a.data i = bytes.getD i 0 := by
  obtain ⟨start, ready, gaps, tick, three, spells, ticks⟩ := sent
  have bits : a.bits = (ready ++ gaps).map fun gap => decide (100 < (BitVec.ofNat 32 gap).toInt) := by
    unfold Attempt.bits
    rw [tick, ticks, received_ticksAfter]
  have data : a.bits.drop 3 = stream bytes := by
    rw [bits, List.map_append, List.drop_left' (by rw [List.length_map, three]), spells.bits]
  constructor
  · have length : a.bits.length = (lows a.alerts).length := length_received _ _
    rw [← length, bits, List.length_map, List.length_append, three, spells.length_eq, length_stream]
  · intro i
    unfold Attempt.data
    rw [data, byteAt_stream small]

/-- An attempt is good if a frame was sent, and only then. -/
theorem Attempt.Sent.good_iff (sent : a.Sent bytes) (small : ∀ n ∈ bytes, n < 256)
    (five : bytes.length = 5) : a.Good ↔ Whole bytes := by
  obtain ⟨lows, data⟩ := sent.received small
  obtain ⟨b₀, b₁, b₂, b₃, b₄, rfl⟩ : ∃ b₀ b₁ b₂ b₃ b₄, bytes = [b₀, b₁, b₂, b₃, b₄] := by
    match bytes, five with
    | [b₀, b₁, b₂, b₃, b₄], _ => exact ⟨b₀, b₁, b₂, b₃, b₄, rfl⟩
  have whole : Whole [b₀, b₁, b₂, b₃, b₄] ↔ Checked [b₀, b₁, b₂, b₃] b₄ :=
    show Whole ([b₀, b₁, b₂, b₃] ++ [b₄]) ↔ _ from whole_append
  unfold Attempt.Good
  rw [lows, data, data, data, data, data, whole]
  exact and_iff_right rfl

/-- A DHT22's bytes mean what it has measured. -/
theorem sample_frame (fits : r.Fits) {data : Fin 5 → ℕ} (received : ∀ i, data i = r.frame.getD i 0) :
    sample .DHT22 data = r := by
  obtain ⟨humidity, below, temperature⟩ := r
  have temperature_lt : temperature < 32768 := fits.temperature
  have first : data 0 = humidity / 256 := received 0
  have second : data 1 = humidity % 256 := received 1
  have third : data 2 = (if below then 128 else 0) + temperature / 256 := received 2
  have fourth : data 3 = temperature % 256 := received 3
  unfold sample
  dsimp only
  rw [first, second, third, fourth, Sample.mk.injEq]
  refine ⟨Nat.div_add_mod' humidity 256, ?_, ?_⟩
  · cases below with
    | false => exact decide_eq_false (by rw [if_neg Bool.false_ne_true]; omega)
    | true => exact decide_eq_true (by rw [if_pos rfl]; omega)
  · cases below with
    | false =>
      rw [if_neg Bool.false_ne_true]
      omega
    | true =>
      rw [if_pos rfl]
      omega

end Sent

/-- The gaps before the data, and those of the bits. -/
def answer : List ℕ := [80, 80, 80]

def gap (b : Bool) : ℕ := if b then 120 else 76

/-- A transmission as a sensor makes it, which begins at some time. -/
def transmission (start : ℕ) (bytes : List ℕ) : Attempt where
  early := []
  tick := .ofNat 32 start
  alerts := (ticksAfter start (answer ++ (stream bytes).map gap)).flatMap fun tick => [⟨1, tick⟩, ⟨0, tick⟩]

theorem transmission_sent (start : ℕ) (bytes : List ℕ) : (transmission start bytes).Sent bytes := by
  refine ⟨start, answer, (stream bytes).map gap, rfl, rfl, ?_, ?_⟩
  · refine List.forall₂_map_left_iff.mpr (List.forall₂_same.mpr fun b _ => ?_)
    cases b <;> decide
  · unfold lows transmission
    dsimp only
    generalize ticksAfter start _ = ticks
    induction ticks with
    | nil => rfl
    | cons tick ticks ih =>
      rw [List.flatMap_cons, List.filter_append, List.map_append, ih]
      rfl

section Transmission

variable {r : Sample} {a : Attempt} {loopFlag : Bool} {before : List Attempt}

theorem Attempt.Sent.line_eq (fits : r.Fits) (sent : a.Sent r.frame) :
    a.Good ∧ a.line .DHT22 = printed r.celsiusText r.fahrenheitText r.humidityText := by
  have small := r.frame_lt fits
  have good : a.Good := (sent.good_iff small rfl).mpr r.frame_whole
  refine ⟨good, ?_⟩
  unfold Attempt.line
  rw [if_pos good]
  dsimp only
  rw [sample_frame fits (sent.received small).2]

/-- Two transmissions, the first of them with another byte than was sent. -/
def spoiled : Attempt := transmission 0 ((Sample.frame ⟨652, true, 101⟩).set 1 141)

def wrapping : Attempt := transmission 4294960000 (Sample.frame ⟨652, true, 101⟩)

theorem reached_spoiled : Reached false [] spoiled :=
  ⟨⟨by decide +kernel, trivial⟩, fun _ => ⟨by decide, by simp⟩⟩

theorem reached_wrapping : Reached false [spoiled] wrapping :=
  ⟨⟨by decide +kernel, by decide +kernel, trivial⟩, fun _ => ⟨by decide, by decide +kernel⟩⟩

/-- What a run prints of the attempt with a transmission is what the sensor has measured: the
temperature in tenths of a degree with its sign, the nearest tenth of a degree Fahrenheit, and the
humidity. Without `loop` it is the last line. The clock may wrap around, and the arithmetic of
`float` is not exact. -/
theorem attempt_reads (fits : r.Fits) (reached : Reached loopFlag before a) (sent : a.Sent r.frame)
    (after : List Attempt) :
    let run := attempts .DHT22 loopFlag 3 {} (before ++ a :: after)
    run.lines[before.length]? = some (printed r.celsiusText r.fahrenheitText r.humidityText) ∧
      (loopFlag = false → run.status = .finished ∧ run.lines.length = before.length + 1) := by
  intro run
  obtain ⟨good, line⟩ := sent.line_eq fits
  obtain ⟨printed, ends⟩ := line_reached .DHT22 reached after
  rw [line] at printed
  exact ⟨printed, fun once => ends.mpr ⟨once, .inl good⟩⟩

theorem attempt_reads_wrapping :
    (attempts .DHT22 false 3 {} [spoiled, wrapping]).lines[1]? =
        some "Temperature: -10.1C 13.8F  Humidity: 65.2%".toList ∧
      (attempts .DHT22 false 3 {} [spoiled, wrapping]).status = .finished := by
  have fits : Sample.Fits ⟨652, true, 101⟩ := ⟨by decide, by decide⟩
  obtain ⟨line, ends⟩ := attempt_reads fits reached_wrapping (transmission_sent _ _) []
  exact ⟨line.trans (by decide), (ends rfl).1⟩

/-- Of a transmission with a spoiled byte, also the last one, a run prints no measurement. It ends the
program if and only if it is the third one without `loop`. -/
theorem attempt_rejects (device : Device) {i n : ℕ} (fits : r.Fits) (here : i < r.frame.length)
    (small : n < 256) (other : n ≠ r.frame[i]) (reached : Reached loopFlag before a)
    (sent : a.Sent (r.frame.set i n)) (after : List Attempt) :
    let run := attempts device loopFlag 3 {} (before ++ a :: after)
    run.lines[before.length]? = some "Data Invalid!".toList ∧
      (run.status = .finished ∧ run.lines.length = before.length + 1 ↔
        loopFlag = false ∧ before.length = 2) := by
  intro run
  have bytes : ∀ m ∈ r.frame.set i n, m < 256 := fun m mem => by
    rcases List.mem_or_eq_of_mem_set mem with mem | rfl
    · exact r.frame_lt fits m mem
    · exact small
  have broken : ¬ Whole (r.frame.set i n) :=
    r.frame_whole.not_set (r.frame_lt fits) here small other
  have bad : ¬ a.Good := mt (sent.good_iff bytes (List.length_set ..)).mp broken
  obtain ⟨printed, ends⟩ := line_reached device reached after
  have line : a.line device = "Data Invalid!".toList := if_neg bad
  rw [line] at printed
  rw [or_iff_right bad] at ends
  exact ⟨printed, ends⟩

theorem attempt_rejects_spoiled :
    (attempts .DHT22 false 3 {} [spoiled, wrapping]).lines[0]? = some "Data Invalid!".toList :=
  (attempt_rejects .DHT22 (r := ⟨652, true, 101⟩) (i := 1) (n := 141) ⟨by decide, by decide⟩ (by decide)
    (by decide) (by decide) reached_spoiled (transmission_sent _ _) [wrapping]).1

end Transmission

end AprsWx.Dhtxx
