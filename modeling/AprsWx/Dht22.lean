import AprsWx.Dhtxx

/-!
# A sensor on a polled pin

`DHT22.c`. The program reads the level of a pin again and again and counts how many readings it
stays the same, up to 255. It goes on for 85 levels, or until one of them has lasted 255 readings.

* `readLevels_holds`: what is read of a pin, and where it is written outside of the array.
* `tenth_BADVALUE`: the measurement that is taken for none.
* `readings_course`: a run, with what it keeps of earlier measurements.
* `transmission_good`: the pulses of a frame are read as its bytes.
* `siblings_agree`: the lines of the two programs for the same bytes.
-/

namespace AprsWx.Dht22

open Bits Binary Floating Dht

/-! ## The program -/

/-- The value of each `digitalRead` of a call. -/
abbrev Pin : Type := ℕ → Bool

/-- The inner loop, which may still make `left` turns: how many it has made, and how many readings
there were then. -/
def waitChange (pin : Pin) (lastState : Bool) : ℕ → ℕ → ℕ × ℕ
  | 0, n => (0, n + 1)
  | left + 1, n =>
    if pin n = lastState then
      let (stateDuration, n) := waitChange pin lastState left (n + 1)
      (stateDuration + 1, n)
    else (0, n + 1)

structure Bytes where
  data : Fin 5 → ℕ := fun _ => 0
  bitsRead : ℕ := 0

/-- A bit for a level that has lasted; there is no result of a write outside of the array. -/
def Bytes.shift (s : Bytes) (stateDuration : ℕ) : Option Bytes :=
  if inside : s.bitsRead / 8 < 5 then
    let i : Fin 5 := ⟨s.bitsRead / 8, inside⟩
    some ⟨Function.update s.data i (s.data i <<< 1 ||| (decide (16 < stateDuration)).toNat), s.bitsRead + 1⟩
  else none

/-- The loop over the levels, of which `left` are left. -/
def readLevels (pin : Pin) : ℕ → Bool → ℕ → Bytes → Option Bytes
  | 0, _, _, s => some s
  | left + 1, lastState, n, s =>
    let stateChanges := 84 - left
    let (stateDuration, n) := waitChange pin lastState 255 n
    let lastState := pin n
    let stored := if 2 < stateChanges ∧ stateChanges % 2 = 0 then s.shift stateDuration else some s
    match stored with
    | none => none
    | some s => if stateDuration < 255 then readLevels pin left lastState (n + 1) s else some s

def BADVALUE : Floating := ofRat single (9999 / 10)

/-- `cachedH` and `cachedC`. -/
structure Cache where
  cachedH : Floating := BADVALUE
  cachedC : Floating := BADVALUE

/-- `x / 10.0` of type `double`, as a `float`. -/
def tenth (n : ℕ) : Floating := convert single (div double (float n) (ofRat double (10 : ℕ)))

/-- `%-3.1f` -/
def padded (x : Floating) : List Char := x.fixed.rightpad 3 ' '

/-- The line of a measurement, or of none. -/
def line (dataType : String) (h c : Floating) : List Char :=
  if h.value = BADVALUE.value ∨ c.value = BADVALUE.value then
    "Data not good, Skipped".toList
  else
    let f := add single (mul single c (ofRat single (18 / 10))) (float 32)
    dataType.toList ++ ": ".toList ++ padded c ++ " *C  (".toList ++ padded f ++
      "*F)  Humidity: ".toList ++ padded h ++ ['%']

/-- `read_DHT_Data`: the line that is printed, and what is kept. -/
def readDHTData (pin : Pin) (cache : Cache) : Option (List Char × Cache) := do
  let s ← readLevels pin 85 true 0 {}
  if 40 ≤ s.bitsRead ∧ s.data 4 = (s.data 0 + s.data 1 + s.data 2 + s.data 3) &&& 0xff then
    let h := tenth (s.data 0 <<< 8 + s.data 1)
    let c := tenth (s.data 2 <<< 8 + s.data 3)
    -- the sign is still among the bits of the number
    let c := if s.data 2 &&& 0x80 ≠ 0 then mul single c (ofRat single (-1)) else c
    return (line "Temperature" h c, ⟨h, c⟩)
  else
    return (line "Cached Temp" cache.cachedH cache.cachedC, cache)

/-- The loop of `main` over its first readings: their lines, and whether all of them have come to
an end. -/
def readings (cache : Cache) : List Pin → List (List Char) × Bool
  | [] => ([], true)
  | pin :: pins =>
    match readDHTData pin cache with
    | none => ([], false)
    | some (line, cache) =>
      let (lines, whole) := readings cache pins
      (line :: lines, whole)

/-! ## Levels -/

/-- How long the levels last that the loop comes to. -/
def durations (pin : Pin) : ℕ → Bool → ℕ → List ℕ
  | 0, _, _ => []
  | left + 1, lastState, n =>
    let (stateDuration, n) := waitChange pin lastState 255 n
    stateDuration :: if stateDuration < 255 then durations pin left (pin n) (n + 1) else []

/-- The bits of levels from number `i` on. -/
def bitsFrom : ℕ → List ℕ → List Bool
  | _, [] => []
  | i, stateDuration :: ds =>
    (if 2 < i ∧ i % 2 = 0 then [decide (16 < stateDuration)] else []) ++ bitsFrom (i + 1) ds

/-- The bytes hold the bits. -/
structure Bytes.Holds (bs : List Bool) (s : Bytes) : Prop where
  data : ∀ i : Fin 5, s.data i = byteAt bs i
  bitsRead : s.bitsRead = bs.length
  inside : bs.length ≤ 40

section Levels

variable {pin : Pin} {lastState : Bool} {s : Bytes} {bs : List Bool} {stateDuration i left n : ℕ}

theorem length_bitsFrom (i : ℕ) (ds : List ℕ) :
    (bitsFrom i ds).length + (i - 3) / 2 = (i + ds.length - 3) / 2 := by
  induction ds generalizing i with
  | nil => rw [bitsFrom, List.length_nil, Nat.zero_add, List.length_nil, Nat.add_zero]
  | cons d ds ih =>
    have rest := ih (i + 1)
    rw [bitsFrom, List.length_append, List.length_cons]
    by_cases bit : 2 < i ∧ i % 2 = 0
    · rw [if_pos bit, List.length_singleton]
      omega
    · rw [if_neg bit, List.length_nil]
      omega

theorem shift_holds (holds : s.Holds bs) (stateDuration : ℕ) :
    if bs.length < 40 then
      ∃ t, s.shift stateDuration = some t ∧ t.Holds (bs ++ [decide (16 < stateDuration)])
    else s.shift stateDuration = none := by
  have bitsRead := holds.bitsRead
  unfold Bytes.shift
  split
  · next room =>
    have inside : s.bitsRead / 8 < 5 := by
      rw [bitsRead]
      exact Nat.div_lt_of_lt_mul room
    rw [dif_pos inside]
    refine ⟨_, rfl, fun i => ?_, ?_, ?_⟩
    · have element : bs.length / 8 = s.bitsRead / 8 := by rw [bitsRead]
      exact update_byteAt holds.data element _ i
    · show s.bitsRead + 1 = _
      rw [bitsRead, List.length_append, List.length_singleton]
    · rw [List.length_append]
      exact Nat.succ_le_of_lt room
  · next full =>
    refine dif_neg ?_
    omega

/-- The loop stores the bits of its levels, if there is room for them. -/
theorem readLevels_holds (pin : Pin) (holds : s.Holds bs) (enough : left ≤ 85) (lastState : Bool) (n : ℕ) :
    let all := bs ++ bitsFrom (85 - left) (durations pin left lastState n)
    if all.length ≤ 40 then ∃ t, readLevels pin left lastState n s = some t ∧ t.Holds all
    else readLevels pin left lastState n s = none := by
  induction left generalizing s bs lastState n with
  | zero =>
    intro all
    have same : all = bs := List.append_nil bs
    rw [same, if_pos holds.inside]
    exact ⟨s, rfl, holds⟩
  | succ left ih =>
    dsimp only
    have index : 85 - (left + 1) = 84 - left := by omega
    have index' : 84 - left + 1 = 85 - left := by omega
    unfold readLevels durations
    rw [index]
    obtain ⟨d, m⟩ := waitChange pin lastState 255 n
    dsimp only
    rw [bitsFrom, index']
    have rest : ∀ {t : Bytes} {cs : List Bool}, t.Holds cs →
        let all := cs ++ bitsFrom (85 - left) (if d < 255 then durations pin left (pin m) (m + 1) else [])
        let ends := if d < 255 then readLevels pin left (pin m) (m + 1) t else some t
        if all.length ≤ 40 then ∃ u, ends = some u ∧ u.Holds all else ends = none := by
      intro t cs holds
      by_cases longer : d < 255
      · simp only [if_pos longer]
        exact ih holds (by omega) (pin m) (m + 1)
      · simp only [if_neg longer]
        rw [bitsFrom, List.append_nil, if_pos holds.inside]
        exact ⟨t, rfl, holds⟩
    by_cases bit : 2 < 84 - left ∧ (84 - left) % 2 = 0
    · rw [if_pos bit, if_pos bit, ← List.append_assoc]
      have stored := shift_holds holds d
      by_cases room : bs.length < 40
      · rw [if_pos room] at stored
        obtain ⟨t, shifted, holds⟩ := stored
        rw [shifted]
        exact rest holds
      · rw [if_neg room] at stored
        rw [stored, if_neg]
        rw [List.length_append, List.length_append, List.length_singleton]
        omega
    · rw [if_neg bit, if_neg bit, List.nil_append]
      exact rest holds

end Levels

/-! ## Numbers -/

section Numbers

variable {r : Sample} {n : ℕ}

/-- What a `double` is divided by. -/
theorem double_ten :
    (ofRat double (10 : ℕ)).negative = false ∧ (ofRat double (10 : ℕ)).magnitude = 10 := by
  have exactly := ofRat_natCast double (n := 10) (by decide) (by decide)
  exact ⟨exactly.1, exactly.2.trans (by norm_num)⟩

theorem tenth_negative (small : n < 65536) : (tenth n).negative = false := by
  show ((float n).negative != (ofRat double (10 : ℕ)).negative) = false
  rw [float_negative (small.trans (by decide)), double_ten.1]
  rfl

/-- The number is rounded twice. -/
theorem tenth_magnitude (small : n < 65536) :
    (tenth n).magnitude = single.round (double.round (n / 10)) := by
  show single.round (double.round ((float n).magnitude / (ofRat double (10 : ℕ)).magnitude)) = _
  rw [float_magnitude (small.trans (by decide)), double_ten.2]

theorem near_rounded_twice (small : n < 65536) : Near (tenth n) false (n / 10) (1 / 2500) := by
  have size : (n : ℚ) ≤ 65535 := by exact_mod_cast Nat.lt_succ_iff.mp small
  have nonneg : (0 : ℚ) ≤ n / 10 := by positivity
  have first := double.rounded_error_of_le 6554 nonneg (by linarith)
  have tiny : double.error 6554 ≤ 1 / 1000000 := by
    have least : (2 : ℚ) ^ (double.least - double.digits) ≤ 2 ^ (-30 : ℤ) :=
      zpow_le_zpow_right₀ (by norm_num) (by decide)
    have power : (2 : ℚ) ^ (-30 : ℤ) = 1 / 2 ^ 30 := by norm_num
    rw [power] at least
    unfold Format.error
    rw [show (2 : ℚ) ^ double.digits = 2 ^ 52 from rfl]
    linarith
  have first := abs_le.mp (first.trans tiny)
  have second := single.rounded_error_of_le 6555 (double.round_nonneg (n / 10))
    (by linarith [first.2])
  have second := abs_le.mp (second.trans (single_error_le (1 / 2550) (by norm_num)))
  refine ⟨tenth_negative small, ?_⟩
  rw [tenth_magnitude small, abs_le]
  constructor <;> linarith [first.1, first.2, second.1, second.2]

/-- 999.9, in either way. -/
theorem tenth_BADVALUE : tenth 9999 = BADVALUE := by
  have once : double.round ((9999 : ℕ) / 10) = (8795213412905779 : ℕ) * 2 ^ ((9 : ℤ) - (52 : ℕ)) :=
    double.round_eq (by decide) (by norm_num) (by norm_num) (by
      rw [abs_lt]
      constructor <;> norm_num [double])
  have twice : single.round (double.round ((9999 : ℕ) / 10)) = (16382362 : ℕ) * 2 ^ ((9 : ℤ) - (23 : ℕ)) := by
    rw [once]
    refine single.round_eq (by decide) ?_ ?_ ?_
    · norm_num
    · norm_num
    · rw [abs_lt]
      constructor <;> norm_num [single]
  have direct : single.round |9999 / 10| = (16382362 : ℕ) * 2 ^ ((9 : ℤ) - (23 : ℕ)) := by
    rw [abs_of_pos (by norm_num)]
    refine single.round_eq (by decide) (by norm_num) (by norm_num) ?_
    rw [abs_lt]
    constructor <;> norm_num [single]
  have magnitude : (tenth 9999).magnitude = BADVALUE.magnitude := by
    rw [tenth_magnitude (by decide), twice]
    exact direct.symm
  have sign : (tenth 9999).negative = BADVALUE.negative := by
    rw [tenth_negative (by decide)]
    exact (decide_eq_false (by norm_num)).symm
  exact Floating.ext sign magnitude

/-- The temperature with its sign. -/
def signed (r : Sample) : Floating :=
  if r.below then mul single (tenth r.temperature) (ofRat single (-1)) else tenth r.temperature

/-- A sample whose sign is still among the bits of the temperature. -/
structure Raw (r : Sample) : Prop where
  humidity : r.humidity < 65536
  temperature : r.temperature < 65536
  below : r.below = decide (32768 ≤ r.temperature)

theorem near_signed (raw : Raw r) : Near (signed r) r.below (r.temperature / 10) (1 / 1250) := by
  have size : (r.temperature : ℚ) ≤ 65535 := by exact_mod_cast Nat.lt_succ_iff.mp raw.temperature
  have near := near_rounded_twice raw.temperature
  unfold signed
  cases r.below with
  | false =>
    rw [if_neg Bool.false_ne_true]
    exact ⟨near.sign, near.error.trans (by norm_num)⟩
  | true =>
    have negated := near_negated near 6555 (by linarith)
    have error : single.error 6555 ≤ 1 / 2550 := single_error_le _ (by norm_num)
    rw [if_pos rfl]
    exact ⟨negated.sign, negated.error.trans (by linarith)⟩

theorem BADVALUE_value : |BADVALUE.value - 9999 / 10| ≤ 1 / 2500 := by
  rw [← tenth_BADVALUE]
  have near := value_near (near_rounded_twice (n := 9999) (by decide))
  rw [if_neg Bool.false_ne_true] at near
  exact_mod_cast near

theorem tenth_eq_BADVALUE (small : n < 65536) : (tenth n).value = BADVALUE.value ↔ n = 9999 := by
  constructor
  · intro same
    have bad := abs_le.mp BADVALUE_value
    have near := value_near (near_rounded_twice small)
    rw [if_neg Bool.false_ne_true, same] at near
    have near := abs_le.mp near
    have less : (n : ℚ) < (10000 : ℕ) := by
      push_cast
      linarith [bad.1, bad.2, near.1, near.2]
    have more : ((9998 : ℕ) : ℚ) < n := by
      push_cast
      linarith [bad.1, bad.2, near.1, near.2]
    exact Nat.le_antisymm (Nat.lt_succ_iff.mp (by exact_mod_cast less))
      (Nat.succ_le_of_lt (by exact_mod_cast more))
  · rintro rfl
    rw [tenth_BADVALUE]

theorem signed_eq_BADVALUE (raw : Raw r) : (signed r).value = BADVALUE.value ↔ r.temperature = 9999 := by
  cases below : r.below with
  | false =>
    unfold signed
    rw [below, if_neg Bool.false_ne_true]
    exact tenth_eq_BADVALUE raw.temperature
  | true =>
    -- far below zero
    have large : 32768 ≤ r.temperature := of_decide_eq_true (raw.below.symm.trans below)
    have large' : (32768 : ℚ) ≤ r.temperature := by exact_mod_cast large
    have bad := abs_le.mp BADVALUE_value
    have near := value_near (near_signed raw)
    rw [below, if_pos rfl] at near
    have near := abs_le.mp near
    constructor
    · intro same
      linarith [bad.1, near.2]
    · intro same
      omega

/-- `c * 1.8f` -/
theorem near_scaled (raw : Raw r) :
    Near (mul single (signed r) (ofRat single (18 / 10))) r.below (9 * r.temperature / 50) (1 / 250) := by
  have size : (r.temperature : ℚ) ≤ 65535 := by exact_mod_cast Nat.lt_succ_iff.mp raw.temperature
  have nonneg : (0 : ℚ) ≤ r.temperature := Nat.cast_nonneg _
  have sign : (ofRat single (18 / 10)).negative = false := decide_eq_false (by norm_num)
  have near := near_signed raw
  have factor : |(ofRat single (18 / 10)).magnitude - 9 / 5| ≤ 1 / 8000000 := by
    have error := single.rounded_error_of_le (q := 18 / 10) 2 (by norm_num) (by norm_num)
    have same : (ofRat single (18 / 10)).magnitude = single.round (18 / 10) := by
      show single.round |18 / 10| = _
      rw [abs_of_pos (by norm_num)]
    rw [same]
    refine le_trans ?_ (error.trans (single_error_le _ (by norm_num)))
    norm_num
  obtain ⟨C, isC⟩ : ∃ C, (signed r).magnitude = C := ⟨_, rfl⟩
  obtain ⟨K, isK⟩ : ∃ K, (ofRat single (18 / 10)).magnitude = K := ⟨_, rfl⟩
  have given := near.error
  rw [isC] at given
  rw [isK] at factor
  have factor' := abs_le.mp factor
  have apart : |C * K - 9 * r.temperature / 50| ≤ 1 / 1250 * (181 / 100) + 6554 * (1 / 8000000) := by
    have split : C * K - 9 * r.temperature / 50 =
        (C - r.temperature / 10) * K + r.temperature / 10 * (K - 9 / 5) := by ring
    rw [split]
    refine (abs_add_le _ _).trans (add_le_add ?_ ?_)
    · rw [abs_mul]
      refine mul_le_mul given ?_ (abs_nonneg _) (by norm_num)
      rw [abs_le]
      constructor <;> linarith [factor'.1, factor'.2]
    · rw [abs_mul]
      refine mul_le_mul ?_ factor (abs_nonneg _) (by norm_num)
      rw [abs_le]
      constructor <;> linarith
  have apart := abs_le.mp apart
  have product := mul_error (f := single) (x := signed r) (y := ofRat single (18 / 10)) (11800 : ℚ)
    (by rw [isC, isK]; linarith [apart.2])
  rw [isC, isK] at product
  have product := abs_le.mp (product.trans (single_error_le (1 / 1400) (by norm_num)))
  constructor
  · show ((signed r).negative != (ofRat single (18 / 10)).negative) = r.below
    rw [near.sign, sign]
    cases r.below <;> rfl
  · rw [abs_le]
    constructor <;> linarith [apart.1, apart.2, product.1, product.2]

/-- A field of three characters is never too long for the text. -/
theorem padded_eq (x : Floating) : padded x = x.fixed := by
  have length : 3 ≤ x.fixed.length := by
    have units := Nat.length_toDigits_pos (b := 10) (n := Numeral.roundEven (x.magnitude * 10) / 10)
    have last := Nat.length_toDigits_pos (b := 10) (n := Numeral.roundEven (x.magnitude * 10) % 10)
    unfold Floating.fixed tenths
    rw [List.length_append, List.length_append, List.length_cons]
    omega
  unfold padded List.rightpad
  rw [Nat.sub_eq_zero_of_le length, List.replicate_zero, List.append_nil]

/-- The line that is right for a sample; 999.9 stands for none. -/
def lineOf (dataType : String) (r : Sample) : List Char :=
  if r.humidity = 9999 ∨ r.temperature = 9999 then
    "Data not good, Skipped".toList
  else
    dataType.toList ++ ": ".toList ++ r.celsiusText ++ " *C  (".toList ++ r.fahrenheitText ++
      "*F)  Humidity: ".toList ++ r.humidityText ++ ['%']

theorem line_eq (dataType : String) (raw : Raw r) :
    line dataType (tenth r.humidity) (signed r) = lineOf dataType r := by
  have celsius : (signed r).fixed = r.celsiusText := (near_signed raw).fixed (by norm_num)
  have humidity : (tenth r.humidity).fixed = r.humidityText :=
    (near_rounded_twice raw.humidity).fixed (by norm_num)
  have fahrenheit := fixed_add r (near_scaled raw) raw.temperature
  have none_iff := or_congr (tenth_eq_BADVALUE raw.humidity) (signed_eq_BADVALUE raw)
  unfold line lineOf
  by_cases none : r.humidity = 9999 ∨ r.temperature = 9999
  · rw [if_pos none, if_pos (none_iff.mpr none)]
  · rw [if_neg none, if_neg (mt none_iff.mp none)]
    dsimp only
    rw [padded_eq, padded_eq, padded_eq, celsius, humidity, fahrenheit]

end Numbers

/-! ## Calls -/

/-- How long the levels of a call have lasted. -/
def levels (pin : Pin) : List ℕ := durations pin 85 true 0

/-- The bytes of its bits. -/
def received (pin : Pin) (i : ℕ) : ℕ := byteAt (bitsFrom 0 (levels pin)) i

/-- The line did not rest at any of 84 levels. -/
def Overruns (pin : Pin) : Prop := (levels pin).length = 85

/-- The line has rested at level 82 or 83, and the last byte is the sum of the others. -/
def Good (pin : Pin) : Prop :=
  83 ≤ (levels pin).length ∧ Checked [received pin 0, received pin 1, received pin 2, received pin 3]
    (received pin 4)

instance (pin : Pin) : Decidable (Overruns pin) := inferInstanceAs (Decidable (_ = _))

instance (pin : Pin) : Decidable (Good pin) := inferInstanceAs (Decidable (_ ∧ _))

/-- The sample of a call. -/
def sample (pin : Pin) : Sample where
  humidity := received pin 0 * 256 + received pin 1
  below := decide (128 ≤ received pin 2)
  temperature := received pin 2 * 256 + received pin 3

section Calls

variable {pin : Pin} {cache : Cache} {r : Sample}

theorem length_durations (pin : Pin) (left : ℕ) (lastState : Bool) (n : ℕ) :
    (durations pin left lastState n).length ≤ left := by
  induction left generalizing lastState n with
  | zero => exact le_rfl
  | succ left ih =>
    unfold durations
    dsimp only
    rw [List.length_cons]
    split
    · exact Nat.succ_le_succ (ih _ _)
    · exact Nat.succ_le_succ left.zero_le

theorem raw_sample (pin : Pin) : Raw (sample pin) := by
  have small : ∀ i, received pin i < 256 := fun _ => byteAt_lt _ _
  have low := small 3
  constructor
  · exact pair_lt (small 0) (small 1)
  · exact pair_lt (small 2) low
  · show decide (128 ≤ received pin 2) = decide (32768 ≤ received pin 2 * 256 + received pin 3)
    rw [decide_eq_decide]
    omega

/-- The cache holds a sample; the values at the start are those of a certain one. -/
structure Cache.Holds (r : Sample) (cache : Cache) : Prop where
  raw : Raw r
  cachedH : cache.cachedH = tenth r.humidity
  cachedC : cache.cachedC = signed r

def noSample : Sample := ⟨9999, false, 9999⟩

theorem holds_noSample : ({} : Cache).Holds noSample :=
  ⟨⟨by decide, by decide, rfl⟩, tenth_BADVALUE.symm, tenth_BADVALUE.symm⟩

theorem readLevels_call (pin : Pin) :
    if Overruns pin then readLevels pin 85 true 0 {} = none
    else ∃ s, readLevels pin 85 true 0 {} = some s ∧ s.Holds (bitsFrom 0 (levels pin)) := by
  have start : ({} : Bytes).Holds [] := ⟨fun _ => byteAt_nil.symm, rfl, by decide⟩
  have call := readLevels_holds pin start le_rfl true 0
  dsimp only at call
  rw [List.nil_append, Nat.sub_self] at call
  have count := length_bitsFrom 0 (levels pin)
  have most : (levels pin).length ≤ 85 := length_durations pin 85 true 0
  by_cases overruns : Overruns pin
  · have many : ¬ (bitsFrom 0 (levels pin)).length ≤ 40 := by
      rw [show (levels pin).length = 85 from overruns] at count
      omega
    rw [if_pos overruns]
    exact (if_neg many).mp call
  · have few : (bitsFrom 0 (levels pin)).length ≤ 40 := by
      have : (levels pin).length ≠ 85 := overruns
      omega
    rw [if_neg overruns]
    exact (if_pos few).mp call

/-- A call prints its own sample, or else the one that is kept. -/
theorem readDHTData_holds (holds : cache.Holds r) (pin : Pin) :
    if Overruns pin then readDHTData pin cache = none
    else if Good pin then ∃ kept, kept.Holds (sample pin) ∧
      readDHTData pin cache = some (lineOf "Temperature" (sample pin), kept)
    else readDHTData pin cache = some (lineOf "Cached Temp" r, cache) := by
  have call := readLevels_call pin
  by_cases overruns : Overruns pin
  · rw [if_pos overruns] at call ⊢
    unfold readDHTData
    rw [call]
    rfl
  · rw [if_neg overruns] at call ⊢
    obtain ⟨s, read, bits⟩ := call
    have data : ∀ i : Fin 5, s.data i = received pin i := bits.data
    have mask : ∀ n : ℕ, n &&& 0xff = n % 256 := fun n => Nat.and_two_pow_sub_one_eq_mod n 8
    have good_iff : (40 ≤ s.bitsRead ∧
        s.data 4 = (s.data 0 + s.data 1 + s.data 2 + s.data 3) &&& 0xff) ↔ Good pin := by
      have count := length_bitsFrom 0 (levels pin)
      have enough : 40 ≤ s.bitsRead ↔ 83 ≤ (levels pin).length := by
        rw [bits.bitsRead]
        omega
      have checked : Checked [received pin 0, received pin 1, received pin 2, received pin 3]
          (received pin 4) ↔ received pin 4 =
            (received pin 0 + received pin 1 + received pin 2 + received pin 3) % 256 := by
        unfold Checked
        simp only [List.sum_cons, List.sum_nil, Nat.add_zero, Nat.add_assoc]
      rw [enough, mask, data, data, data, data, data]
      exact and_congr_right fun _ => checked.symm
    unfold readDHTData
    rw [read]
    by_cases good : Good pin
    · have third : s.data 2 < 256 := by
        rw [data]
        exact byteAt_lt _ _
      have raw := raw_sample pin
      have humidity : s.data 0 <<< 8 + s.data 1 = (sample pin).humidity := by
        rw [data, data, Nat.shiftLeft_eq]
        rfl
      have temperature : s.data 2 <<< 8 + s.data 3 = (sample pin).temperature := by
        rw [data, data, Nat.shiftLeft_eq]
        rfl
      have below : s.data 2 &&& 0x80 ≠ 0 ↔ (sample pin).below = true := by
        rw [(sign_bit third).1, data]
        exact decide_eq_true_iff.symm
      have signed_eq : (if s.data 2 &&& 0x80 ≠ 0 then
          mul single (tenth (sample pin).temperature) (ofRat single (-1))
          else tenth (sample pin).temperature) = signed (sample pin) := by
        unfold signed
        by_cases negative : (sample pin).below = true
        · rw [if_pos (below.mpr negative), if_pos negative]
        · rw [if_neg (mt below.mp negative), if_neg negative]
      rw [if_pos good]
      refine ⟨⟨tenth (sample pin).humidity, signed (sample pin)⟩, ⟨raw, rfl, rfl⟩, ?_⟩
      show (if _ then _ else _) = _
      rw [if_pos (good_iff.mpr good)]
      rw [humidity, temperature, signed_eq, line_eq _ raw]
      rfl
    · rw [if_neg good]
      show (if _ then _ else _) = _
      rw [if_neg (mt good_iff.mp good), holds.cachedH, holds.cachedC, line_eq _ holds.raw]
      rfl

/-! ## Runs -/

/-- What is kept after some calls: the sample of the last good one. -/
def kept (r : Sample) (pins : List Pin) : Sample := ((pins.filter Good).map sample).getLastD r

/-- The line of a call after others. -/
def lineAfter (r : Sample) (pins : List Pin) (pin : Pin) : List Char :=
  lineOf (if Good pin then "Temperature" else "Cached Temp") (kept r (pins ++ [pin]))

theorem kept_cons (r : Sample) (pin : Pin) (pins : List Pin) :
    kept r (pin :: pins) = kept (if Good pin then sample pin else r) pins := by
  unfold kept
  by_cases good : Good pin
  · rw [List.filter_cons_of_pos (by simpa using good), List.map_cons, List.getLastD_cons, if_pos good]
  · rw [List.filter_cons_of_neg (by simpa using good), if_neg good]

/-- What the calls of a run have come to: `made` of them have ended, and `rest` have not. -/
structure Course (r : Sample) (made rest : List Pin) (lines : List (List Char)) (whole : Bool) : Prop where
  inside : ∀ pin ∈ made, ¬ Overruns pin
  length : lines.length = made.length
  lines : ∀ before pin more, made = before ++ pin :: more →
    lines[before.length]? = some (lineAfter r before pin)
  ended : whole = true → rest = []
  undefined : whole = false → ∃ pin more, rest = pin :: more ∧ Overruns pin

theorem Course.cons {made rest : List Pin} {lines : List (List Char)} {whole : Bool}
    (inside : ¬ Overruns pin)
    (course : Course (if Good pin then sample pin else r) made rest lines whole) :
    Course r (pin :: made) rest (lineAfter r [] pin :: lines) whole where
  inside := List.forall_mem_cons.mpr ⟨inside, course.inside⟩
  length := congrArg Nat.succ course.length
  lines := by
    rintro (_ | ⟨pin', before⟩) pin'' more split
    · obtain ⟨rfl, -⟩ := List.cons.inj split
      rfl
    · obtain ⟨rfl, others⟩ := List.cons.inj split
      have line := course.lines before pin'' more others
      rw [List.length_cons, List.getElem?_cons_succ, line]
      unfold lineAfter
      rw [List.cons_append, kept_cons]
  ended := course.ended
  undefined := course.undefined

theorem readings_course (holds : cache.Holds r) (pins : List Pin) :
    ∃ made rest, pins = made ++ rest ∧
      Course r made rest (readings cache pins).1 (readings cache pins).2 := by
  induction pins generalizing cache r with
  | nil =>
    refine ⟨[], [], rfl, by simp, rfl, fun before pin more split => ?_, fun _ => rfl, ?_⟩
    · exact absurd split (by simp)
    · exact fun undefined => by cases undefined
  | cons pin pins ih =>
    have call := readDHTData_holds holds pin
    unfold readings
    by_cases overruns : Overruns pin
    · rw [if_pos overruns] at call
      rw [call]
      refine ⟨[], pin :: pins, rfl, by simp, rfl, fun before pin' more split => ?_, ?_, ?_⟩
      · exact absurd split (by simp)
      · exact fun whole => by cases whole
      · exact fun _ => ⟨pin, pins, rfl, overruns⟩
    · rw [if_neg overruns] at call
      have first : ∃ cache', cache'.Holds (if Good pin then sample pin else r) ∧
          readDHTData pin cache = some (lineAfter r [] pin, cache') := by
        unfold lineAfter
        rw [List.nil_append, kept_cons]
        by_cases good : Good pin
        · rw [if_pos good] at call
          rw [if_pos good, if_pos good]
          obtain ⟨cache', holds, called⟩ := call
          exact ⟨cache', holds, called⟩
        · rw [if_neg good] at call
          rw [if_neg good, if_neg good]
          exact ⟨cache, holds, call⟩
      obtain ⟨cache', holds, called⟩ := first
      obtain ⟨made, rest, rfl, course⟩ := ih holds
      rw [called]
      exact ⟨pin :: made, rest, rfl, course.cons overruns⟩

end Calls

/-- In every run of the program, whatever the line does: a call has a result if and only if the line
rests at one of its first 84 levels, and it prints its own sample if the bits are right, and else
the sample of the last call that had one. The texts are right to the decimals, but for the sign,
which is taken for 3276.8 degrees, and for 999.9, which is taken for no sample. -/
theorem dht22_runs (pins : List Pin) :
    ∃ made rest, pins = made ++ rest ∧
      Course noSample made rest (readings {} pins).1 (readings {} pins).2 :=
  readings_course holds_noSample pins

/-! ## Transmissions -/

/-- A line that keeps its level for so many readings each time, and rests after the last change. -/
def wave : Bool → List ℕ → Pin
  | level, [], _ => level
  | level, l :: ls, n => if n < l then level else wave (!level) ls (n - l)

/-- What the sensor does before the data, and for a bit, in turns of the loop over the readings. -/
def answer : List ℕ := [38, 38]

def pulse (b : Bool) : List ℕ := [23, if b then 33 else 11]

/-- A transmission as a sensor makes it. A change takes two readings; the line stays low at the
end. -/
def transmission (bytes : List ℕ) : Pin :=
  wave true (5 :: (answer ++ (stream bytes).flatMap pulse).map (· + 2))

section Transmission

variable {pin : Pin} {level : Bool} {l d left n : ℕ} {ls ds : List ℕ} {bytes : List ℕ}

theorem wave_add (level : Bool) (l : ℕ) (ls : List ℕ) (n : ℕ) :
    wave level (l :: ls) (l + n) = wave (!level) ls n := by
  rw [wave, if_neg (Nat.not_lt.mpr (Nat.le_add_right l n)), Nat.add_sub_cancel_left]

theorem wave_of_lt (large : ∀ l ∈ ls, n < l) : wave level ls n = level := by
  cases ls with
  | nil => rfl
  | cons l ls => exact if_pos (large l List.mem_cons_self)

theorem wave_sub (level : Bool) (l : ℕ) (ls : List ℕ) (n m : ℕ) :
    wave level ((l + m) :: ls) (n + m) = wave level (l :: ls) n := by
  rw [wave, wave, Nat.add_sub_add_right]
  exact if_congr (Nat.add_lt_add_iff_right) rfl rfl

/-- A level that ends while the loop counts. -/
theorem waitChange_ends (same : ∀ k < d, pin (n + k) = level) (change : pin (n + d) ≠ level)
    (soon : d ≤ left) : waitChange pin level left n = (d, n + d + 1) := by
  induction left generalizing d n with
  | zero =>
    obtain rfl := Nat.le_zero.mp soon
    rfl
  | succ left ih =>
    unfold waitChange
    cases d with
    | zero => exact if_neg change
    | succ d =>
      have now : pin n = level := same 0 d.succ_pos
      have step : ∀ k, n + 1 + k = n + (k + 1) := fun k => by rw [Nat.add_assoc, Nat.add_comm 1]
      have rest : waitChange pin level left (n + 1) = (d, n + 1 + d + 1) :=
        ih (fun k less => step k ▸ same (k + 1) (Nat.succ_lt_succ less)) (step d ▸ change)
          (Nat.le_of_succ_le_succ soon)
      rw [if_pos now, rest, step]

/-- A level that rests. -/
theorem waitChange_rests (same : ∀ k, pin (n + k) = level) (left : ℕ) :
    (waitChange pin level left n).1 = left := by
  induction left generalizing n with
  | zero => rfl
  | succ left ih =>
    have now : pin n = level := same 0
    have rest := ih (n := n + 1) fun k => by
      rw [Nat.add_assoc, Nat.add_comm 1]
      exact same (k + 1)
    unfold waitChange
    rw [if_pos now]
    exact congrArg Nat.succ rest

/-- The loop comes to the end of a level. The change takes two readings of the next one. -/
theorem durations_level (left : ℕ) (small : d < 255) (large : ∀ l ∈ ls, 1 < l)
    (shape : ∀ k, pin (n + k) = wave level (d :: ls) k) :
    (∀ k, pin (n + d + k) = wave (!level) ls k) ∧
      durations pin (left + 1) level n = d :: durations pin left (!level) (n + d + 2) := by
  have next : ∀ k, pin (n + d + k) = wave (!level) ls k := fun k => by
    rw [Nat.add_assoc, shape, wave_add]
  have change : pin (n + d) = !level := (next 0).trans (wave_of_lt fun l mem => (large l mem).le)
  have now : pin (n + d + 1) = !level := (next 1).trans (wave_of_lt large)
  have ends : waitChange pin level 255 n = (d, n + d + 1) := by
    refine waitChange_ends (fun k less => ?_) (fun same => ?_) small.le
    · rw [shape]
      exact if_pos less
    · rw [change] at same
      exact Bool.not_ne_self level same
  refine ⟨next, ?_⟩
  rw [durations, ends]
  dsimp only
  rw [if_pos small, now]

/-- The loop comes to each level of a line, and to the end. -/
theorem durations_wave (small : ∀ e ∈ d :: ds, e < 255) (enough : ds.length + 2 ≤ left)
    (shape : ∀ k, pin (n + k) = wave level (d :: ds.map (· + 2)) k) :
    durations pin left level n = d :: ds ++ [255] := by
  induction ds generalizing d n level left with
  | nil =>
    obtain ⟨left, rfl⟩ : ∃ m, left = m + 1 + 1 := Nat.exists_eq_add_of_le' enough
    obtain ⟨next, levels⟩ := durations_level (left + 1) (small d List.mem_cons_self)
      (List.forall_mem_nil _) shape
    have rests : (waitChange pin (!level) 255 (n + d + 2)).1 = 255 := by
      refine waitChange_rests (fun k => ?_) 255
      rw [Nat.add_assoc (n + d), next]
      rfl
    have last : durations pin (left + 1) (!level) (n + d + 2) = [255] := by
      rw [durations]
      dsimp only
      rw [rests, if_neg (lt_irrefl 255)]
    rw [levels, last]
    rfl
  | cons e ds ih =>
    obtain ⟨left, rfl⟩ : ∃ m, left = m + 1 := Nat.exists_eq_add_of_le' (by omega)
    obtain ⟨first, others⟩ := List.forall_mem_cons.mp small
    obtain ⟨next, levels⟩ := durations_level left first
      (List.forall_mem_map.mpr fun e _ => by omega) shape
    have rest : durations pin left (!level) (n + d + 2) = e :: ds ++ [255] := by
      refine ih others (Nat.le_of_succ_le_succ enough) fun k => ?_
      rw [Nat.add_assoc (n + d), next, Nat.add_comm 2, List.map_cons, wave_sub]
    rw [levels, rest]
    rfl

/-- The bits of the levels from the first of a byte on. -/
theorem bitsFrom_pulses {i : ℕ} (odd : i % 2 = 1) (data : 3 ≤ i) (bs : List Bool) :
    bitsFrom i (bs.flatMap pulse ++ [255]) = bs := by
  have low : ¬ (2 < i ∧ i % 2 = 0) := by omega
  have high : 2 < i + 1 ∧ (i + 1) % 2 = 0 := by omega
  induction bs generalizing i with
  | nil =>
    show (if 2 < i ∧ i % 2 = 0 then _ else []) ++ [] = []
    rw [if_neg low]
    rfl
  | cons b bs ih =>
    have rest : bitsFrom (i + 1 + 1) (bs.flatMap pulse ++ [255]) = bs :=
      ih (by omega) (by omega) (by omega) (by omega)
    have bit : decide (16 < if b then 33 else 11) = b := by cases b <;> rfl
    rw [List.flatMap_cons, pulse, List.append_assoc]
    simp only [List.cons_append, List.nil_append, bitsFrom]
    rw [if_neg low, if_pos high, rest, bit]
    rfl

theorem length_pulses (bytes : List ℕ) :
    ((stream bytes).flatMap pulse).length = 16 * bytes.length := by
  have two : ∀ b ∈ stream bytes, (pulse b).length = 2 := fun _ _ => rfl
  rw [List.length_flatMap, List.map_congr_left two, List.map_const', List.sum_replicate_nat,
    length_stream]
  omega

theorem levels_transmission (short : bytes.length ≤ 5) :
    levels (transmission bytes) = 5 :: (answer ++ (stream bytes).flatMap pulse) ++ [255] := by
  have small : ∀ b, ∀ e ∈ pulse b, e < 255 := by decide
  refine durations_wave ?_ ?_ fun k => ?_
  · refine List.forall_mem_cons.mpr ⟨by decide, List.forall_mem_append.mpr ⟨by decide, fun e mem => ?_⟩⟩
    obtain ⟨b, -, mem⟩ := List.mem_flatMap.mp mem
    exact small b e mem
  · rw [List.length_append, length_pulses]
    show 2 + 16 * bytes.length + 2 ≤ 85
    omega
  · rw [Nat.zero_add]
    rfl

/-- The loop reads the bytes that were sent. -/
theorem received_transmission (small : ∀ n ∈ bytes, n < 256) (short : bytes.length ≤ 5) (i : ℕ) :
    received (transmission bytes) i = bytes.getD i 0 := by
  have bits : bitsFrom 0 (levels (transmission bytes)) = stream bytes := by
    rw [levels_transmission short, List.cons_append, List.append_assoc]
    exact bitsFrom_pulses rfl le_rfl _
  unfold received
  rw [bits, byteAt_stream small]

/-- Of a frame it has all bits and the right sum. -/
theorem transmission_good {r : Sample} (fits : r.Fits) :
    ¬ Overruns (transmission r.frame) ∧ Good (transmission r.frame) := by
  have five : r.frame.length = 5 := rfl
  have data := received_transmission (r.frame_lt fits) five.le
  have length : (levels (transmission r.frame)).length = 84 := by
    rw [levels_transmission five.le, List.length_append, List.length_cons, List.length_append,
      length_pulses, five]
    rfl
  refine ⟨fun overruns => ?_, ?_, ?_⟩
  · exact absurd (length.symm.trans overruns) (by decide)
  · rw [length]
    decide
  · rw [data, data, data, data, data]
    exact rfl

end Transmission

/-! ## The two programs -/

section Siblings

variable {pins : List Pin} {pin : Pin} {r : Sample} {a : Dhtxx.Attempt}

/-- Where all calls up to this one come to an end, it prints its line. -/
theorem line_reached (inside : ∀ p ∈ pins ++ [pin], ¬ Overruns p) (more : List Pin) :
    (readings {} (pins ++ pin :: more)).1[pins.length]? = some (lineAfter noSample pins pin) := by
  obtain ⟨made, rest, given, course⟩ := readings_course holds_noSample (pins ++ pin :: more)
  obtain ⟨more', rfl⟩ : ∃ more', made = pins ++ pin :: more' := by
    refine (made_or_ahead given).resolve_right ?_
    rintro ⟨others, rfl, rfl⟩
    have stopped : (readings {} (made ++ others ++ pin :: more)).2 = false := by
      rw [Bool.eq_false_iff]
      exact fun whole => absurd (course.ended whole) (by simp)
    obtain ⟨next, rest, ahead, overruns⟩ := course.undefined stopped
    obtain ⟨between, ahead⟩ := next_ahead ahead
    refine inside next ?_ overruns
    rw [List.append_assoc, ahead]
    exact List.mem_append_right made List.mem_cons_self
  exact course.lines pins pin more' rfl

theorem lineAfter_good (good : Good pin) (r : Sample) (pins : List Pin) :
    lineAfter r pins pin = lineOf "Temperature" (sample pin) := by
  have last : kept r (pins ++ [pin]) = sample pin := by
    unfold kept
    rw [List.filter_append, List.filter_cons_of_pos (by simpa using good), List.filter_nil,
      List.map_append, List.map_singleton, List.getLastD_concat]
  unfold lineAfter
  rw [if_pos good, last]

/-- The sample that this program takes the bytes of a DHT22 for. -/
def misread (r : Sample) : Sample :=
  { r with temperature := (if r.below then 32768 else 0) + r.temperature }

theorem sample_misread (pin : Pin) {data : Fin 5 → ℕ} (same : ∀ i : Fin 5, data i = received pin i) :
    sample pin = misread (Dhtxx.sample .DHT22 data) := by
  have third : received pin 2 < 256 := byteAt_lt _ _
  have below_iff : decide (128 ≤ received pin 2) = true ↔ 128 ≤ received pin 2 := decide_eq_true_iff
  unfold sample misread Dhtxx.sample
  dsimp only
  rw [show data 0 = received pin 0 from same 0, show data 1 = received pin 1 from same 1,
    show data 2 = received pin 2 from same 2, show data 3 = received pin 3 from same 3,
    Sample.mk.injEq]
  refine ⟨rfl, rfl, ?_⟩
  by_cases below : 128 ≤ received pin 2
  · rw [if_pos (below_iff.mpr below)]
    omega
  · rw [if_neg (mt below_iff.mp below)]
    omega

theorem celsiusText_misread (r : Sample) :
    (misread r).celsiusText = r.celsiusText ↔ r.below = false := by
  unfold Sample.celsiusText misread
  rw [tenths_inj]
  cases r.below with
  | false => simp
  | true => simp

theorem fahrenheitText_misread (r : Sample) :
    (misread r).fahrenheitText = r.fahrenheitText ↔ r.below = false := by
  unfold Sample.fahrenheitText
  rw [tenths_inj, decide_eq_decide]
  unfold Sample.fiftieths misread
  cases r.below with
  | false => simp
  | true =>
    refine iff_of_false ?_ Bool.true_eq_false.mp
    rintro ⟨sign, size⟩
    simp only [if_pos] at sign size
    omega

/-- What this program prints of the bytes: of 999.9 nothing, and else three numbers. -/
theorem lineOf_misread (r : Sample) :
    if r.humidity = 9999 ∨ r.below = false ∧ r.temperature = 9999 then
      lineOf "Temperature" (misread r) = "Data not good, Skipped".toList
    else ∃ celsius fahrenheit,
      numbers (lineOf "Temperature" (misread r)) = [celsius, fahrenheit, r.humidityText] ∧
        (celsius = r.celsiusText ↔ r.below = false) ∧
        (fahrenheit = r.fahrenheitText ↔ r.below = false) := by
  have skipped_iff : (misread r).humidity = 9999 ∨ (misread r).temperature = 9999 ↔
      r.humidity = 9999 ∨ r.below = false ∧ r.temperature = 9999 := by
    have far : 32768 + r.temperature ≠ 9999 := by omega
    unfold misread
    cases r.below with
    | false => simp
    | true => simp [far]
  unfold lineOf
  by_cases skipped : r.humidity = 9999 ∨ r.below = false ∧ r.temperature = 9999
  · rw [if_pos skipped, if_pos (skipped_iff.mpr skipped)]
  · rw [if_neg skipped, if_neg (mt skipped_iff.mp skipped), numbers_line (by decide) (by decide)]
    exact ⟨_, _, rfl, celsiusText_misread r, fahrenheitText_misread r⟩

/-- What the two programs print for the same bytes. Of a sample with 999.9 this program prints no
number, and `dhtxx_pigpio.c` does. Else the humidity is the same in both lines, and the two
temperatures are the same if and only if they are not below zero. -/
theorem siblings_agree {loopFlag : Bool} {before : List Dhtxx.Attempt}
    (inside : ∀ p ∈ pins ++ [pin], ¬ Overruns p) (good : Good pin)
    (reached : Dhtxx.Reached loopFlag before a) (lows : (Dhtxx.lows a.alerts).length = 43)
    (same : ∀ i : Fin 5, a.data i = received pin i) (more : List Pin) (after : List Dhtxx.Attempt) :
    let r := Dhtxx.sample .DHT22 a.data
    ∃ line line',
      (readings {} (pins ++ pin :: more)).1[pins.length]? = some line ∧
      (Dhtxx.attempts .DHT22 loopFlag 3 {} (before ++ a :: after)).lines[before.length]? = some line' ∧
      numbers line' = [r.celsiusText, r.fahrenheitText, r.humidityText] ∧
      if r.humidity = 9999 ∨ r.below = false ∧ r.temperature = 9999 then
        line = "Data not good, Skipped".toList
      else ∃ celsius fahrenheit, numbers line = [celsius, fahrenheit, r.humidityText] ∧
        (celsius = r.celsiusText ↔ r.below = false) ∧
        (fahrenheit = r.fahrenheitText ↔ r.below = false) := by
  intro r
  have printed := line_reached inside more
  obtain ⟨printed', -⟩ := Dhtxx.line_reached .DHT22 reached after
  have good' : a.Good := by
    refine ⟨lows, ?_⟩
    rw [show a.data 0 = received pin 0 from same 0, show a.data 1 = received pin 1 from same 1,
      show a.data 2 = received pin 2 from same 2, show a.data 3 = received pin 3 from same 3,
      show a.data 4 = received pin 4 from same 4]
    exact good.2
  rw [lineAfter_good good, sample_misread pin same] at printed
  have line' : a.line .DHT22 = Dhtxx.printed r.celsiusText r.fahrenheitText r.humidityText :=
    if_pos good'
  rw [line'] at printed'
  exact ⟨_, _, printed, printed', numbers_line (by decide) (by decide) r, lineOf_misread r⟩

/-- A humidity of 999.9. -/
theorem siblings_agree_transmission :
    let bytes := Sample.frame ⟨9999, false, 250⟩
    (readings {} [transmission bytes]).1[0]? = some "Data not good, Skipped".toList ∧
      ∃ line, (Dhtxx.attempts .DHT22 false 3 {} [Dhtxx.transmission 0 bytes]).lines[0]? = some line ∧
        numbers line = ["25.0".toList, "77.0".toList, "999.9".toList] := by
  intro bytes
  have fits : Sample.Fits ⟨9999, false, 250⟩ := ⟨by decide, by decide⟩
  have small := Sample.frame_lt _ fits
  obtain ⟨inside, good⟩ := transmission_good fits
  obtain ⟨lows, data⟩ := (Dhtxx.transmission_sent 0 bytes).received small
  have same : ∀ i : Fin 5, (Dhtxx.transmission 0 bytes).data i = received (transmission bytes) i :=
    fun i => (data i).trans (received_transmission small le_rfl i).symm
  have reached : Dhtxx.Reached false [] (Dhtxx.transmission 0 bytes) :=
    ⟨⟨by decide +kernel, trivial⟩, fun _ => ⟨by decide, List.forall_mem_nil _⟩⟩
  have first : ∀ p ∈ [] ++ [transmission bytes], ¬ Overruns p := List.forall_mem_singleton.mpr inside
  have all := siblings_agree first good reached lows same [] []
  rw [Dhtxx.sample_frame fits data] at all
  obtain ⟨line, line', printed, printed', numbers, skipped⟩ := all
  rw [if_pos (.inl rfl)] at skipped
  exact ⟨printed.trans (congrArg some skipped), line', printed', numbers.trans (by decide)⟩

end Siblings

end AprsWx.Dht22
