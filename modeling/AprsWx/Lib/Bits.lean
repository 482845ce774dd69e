import Mathlib.Algebra.BigOperators.Group.List.Basic
import Mathlib.Data.List.Induction
import Mathlib.Data.Nat.Bitwise
import Mathlib.Data.Nat.ModEq
import Mathlib.Tactic.Ring

/-!
# Bits of a serial line

Bits that come one after the other, the first of a byte being its highest, and the bytes that
a receiver shifts them into.

* `word`: the number that bits spell, and `bits`, the bits of a number.
* `byteAt`: the bytes of a stream, also while it comes.
* `Whole`: bytes with their sum at the end, which are no longer whole after a change within one byte
  (`Whole.not_set`).
-/

namespace Bits

/-! ## Numbers -/

/-- The number that the bits spell, from the highest on. -/
def word (bs : List Bool) : ℕ := bs.foldl (fun n b => 2 * n + b.toNat) 0

/-- The `width` lowest bits of a number, from the highest on. -/
def bits (width n : ℕ) : List Bool := (List.range width).reverse.map n.testBit

section Word

variable {bs cs : List Bool} {b : Bool} {n width : ℕ}

@[simp] theorem word_nil : word [] = 0 := rfl

theorem word_concat : word (bs ++ [b]) = 2 * word bs + b.toNat := by
  unfold word
  rw [List.foldl_append]
  rfl

/-- A receiver shifts a bit in. -/
theorem shiftLeft_or (n : ℕ) (b : Bool) : n <<< 1 ||| b.toNat = 2 * n + b.toNat := by
  rw [← Nat.shiftLeft_add_eq_or_of_lt (by cases b <;> decide), Nat.shiftLeft_eq, pow_one,
    Nat.mul_comm]

theorem word_lt (bs : List Bool) : word bs < 2 ^ bs.length := by
  induction bs using List.reverseRecOn with
  | nil => decide
  | append_singleton bs b ih =>
    have bit : b.toNat ≤ 1 := Bool.toNat_le b
    rw [word_concat, List.length_append, List.length_singleton, pow_succ]
    omega

@[simp] theorem length_bits : (bits width n).length = width := by
  unfold bits
  rw [List.length_map, List.length_reverse, List.length_range]

theorem bits_succ : bits (width + 1) n = bits width (n / 2) ++ [n.testBit 0] := by
  unfold bits
  rw [List.range_succ_eq_map, List.reverse_cons, List.map_append, ← List.map_reverse, List.map_map]
  congr 1
  refine List.map_congr_left fun i _ => ?_
  rw [Function.comp_apply, Nat.testBit_succ]

/-- Reading what was written. -/
theorem word_bits (width n : ℕ) : word (bits width n) = n % 2 ^ width := by
  induction width generalizing n with
  | zero => rw [pow_zero, Nat.mod_one]; rfl
  | succ width ih =>
    have low : (n.testBit 0).toNat = n % 2 := by
      rw [Nat.testBit_zero]
      rcases Nat.mod_two_eq_zero_or_one n with even | odd
      · simp [even]
      · simp [odd]
    rw [bits_succ, word_concat, ih, low, pow_succ, Nat.mul_comm (2 ^ width) 2, Nat.mod_mul]
    exact Nat.add_comm _ _

theorem word_bits_of_lt (small : n < 2 ^ width) : word (bits width n) = n := by
  rw [word_bits, Nat.mod_eq_of_lt small]

end Word

/-! ## Bytes -/

/-- Byte `i` of a stream of bits; its lower bits are missing while they have not come. -/
def byteAt (bs : List Bool) (i : ℕ) : ℕ := word ((bs.drop (8 * i)).take 8)

/-- The bits of a list of bytes. -/
def stream (bytes : List ℕ) : List Bool := bytes.flatMap (bits 8)

section Bytes

variable {bs : List Bool} {b : Bool} {i : ℕ} {bytes : List ℕ}

theorem byteAt_lt (bs : List Bool) (i : ℕ) : byteAt bs i < 256 := by
  have short : ((bs.drop (8 * i)).take 8).length ≤ 8 := List.length_take_le 8 _
  exact (word_lt _).trans_le (Nat.pow_le_pow_right Nat.two_pos short)

theorem byteAt_nil : byteAt [] i = 0 := by
  unfold byteAt
  rw [List.drop_nil, List.take_nil, word_nil]

/-- The next bit goes into the byte that is not full. -/
theorem byteAt_concat_same (here : bs.length / 8 = i) :
    byteAt (bs ++ [b]) i = 2 * byteAt bs i + b.toNat := by
  have lower : 8 * i ≤ bs.length := here ▸ Nat.mul_div_le bs.length 8
  have upper : bs.length < 8 * i + 8 := by
    rw [← here]
    have := Nat.lt_mul_div_succ bs.length (show 0 < 8 by decide)
    omega
  unfold byteAt
  rw [List.drop_append_of_le_length lower, List.take_of_length_le, List.take_of_length_le, word_concat]
  · rw [List.length_drop]
    omega
  · rw [List.length_append, List.length_drop, List.length_singleton]
    omega

theorem byteAt_concat_other (other : bs.length / 8 ≠ i) : byteAt (bs ++ [b]) i = byteAt bs i := by
  unfold byteAt
  rcases Nat.lt_or_gt_of_ne other with later | full
  · -- the byte is not reached
    have past : bs.length + 1 ≤ 8 * i := (Nat.div_lt_iff_lt_mul (by decide)).mp later |>.trans_eq
      (Nat.mul_comm i 8)
    rw [List.drop_eq_nil_of_le (by simpa using past), List.drop_eq_nil_of_le (by omega)]
  · -- the byte has its eight bits
    have past : 8 * (i + 1) ≤ bs.length := by
      rw [Nat.mul_comm]
      exact (Nat.le_div_iff_mul_le (by decide)).mp full
    rw [List.drop_append_of_le_length (by omega), List.take_append_of_le_length]
    rw [List.length_drop]
    omega

/-- A receiver's array after the next bit. -/
theorem update_byteAt {m : ℕ} {data : Fin m → ℕ} (holds : ∀ j, data j = byteAt bs j) {e : Fin m}
    (here : bs.length / 8 = e) (b : Bool) (j : Fin m) :
    Function.update data e (data e <<< 1 ||| b.toNat) j = byteAt (bs ++ [b]) j := by
  rw [shiftLeft_or]
  rcases eq_or_ne j e with rfl | other
  · rw [Function.update_self, byteAt_concat_same here, holds]
  · rw [Function.update_of_ne other, byteAt_concat_other, holds]
    rw [here]
    exact fun same => other (Fin.ext same.symm)

/-- Reading the bytes that were sent. -/
theorem byteAt_stream (small : ∀ n ∈ bytes, n < 256) (i : ℕ) :
    byteAt (stream bytes) i = bytes.getD i 0 := by
  induction bytes generalizing i with
  | nil => exact byteAt_nil
  | cons n bytes ih =>
    obtain ⟨first, rest⟩ := List.forall_mem_cons.mp small
    have whole : stream (n :: bytes) = bits 8 n ++ stream bytes := rfl
    unfold byteAt at ih ⊢
    rw [whole]
    cases i with
    | zero =>
      rw [Nat.mul_zero, List.drop_zero, List.take_append_of_le_length (by simp),
        List.take_of_length_le (by simp), word_bits_of_lt first]
      rfl
    | succ i =>
      rw [List.drop_append, List.drop_eq_nil_of_le (by simp), List.nil_append, length_bits,
        show 8 * (i + 1) - 8 = 8 * i by omega, ih rest]
      rfl

/-- The highest bit of a byte, and the others. -/
theorem sign_bit {n : ℕ} (small : n < 256) : (n &&& 0x80 ≠ 0 ↔ 128 ≤ n) ∧ n &&& 0x7f = n % 128 := by
  refine ⟨?_, Nat.and_two_pow_sub_one_eq_mod n 7⟩
  rw [show n &&& 0x80 = (n.testBit 7).toNat * 2 ^ 7 from Nat.and_two_pow n 7,
    Nat.testBit_eq_decide_div_mod_eq]
  by_cases set : n / 2 ^ 7 % 2 = 1
  · simp only [set, decide_true, Bool.toNat_true]
    omega
  · simp only [set, decide_false, Bool.toNat_false]
    omega

/-- The number of two bytes. -/
theorem pair_lt {n m : ℕ} (high : n < 256) (low : m < 256) : n * 256 + m < 65536 :=
  calc n * 256 + m < n * 256 + 256 := Nat.add_lt_add_left low _
    _ = (n + 1) * 256 := (Nat.succ_mul n 256).symm
    _ ≤ 256 * 256 := Nat.mul_le_mul_right 256 high

theorem length_stream (bytes : List ℕ) : (stream bytes).length = 8 * bytes.length := by
  unfold stream
  rw [List.length_flatMap]
  simp [Nat.mul_comm]

end Bytes

/-! ## Checksums -/

/-- The last byte is the sum of the bytes before it. -/
def Checked (bytes : List ℕ) (check : ℕ) : Prop := check = bytes.sum % 256

instance (bytes : List ℕ) (check : ℕ) : Decidable (Checked bytes check) :=
  inferInstanceAs (Decidable (_ = _))

section Checked

variable {bytes : List ℕ} {check i n : ℕ}

/-- A byte that is not what it was does not go unnoticed. -/
theorem Checked.not_set (checked : Checked bytes check) (here : i < bytes.length)
    (small : bytes[i] < 256) (small' : n < 256) (other : n ≠ bytes[i]) :
    ¬ Checked (bytes.set i n) check := by
  intro again
  have sums : bytes.sum ≡ (bytes.set i n).sum [MOD 256] := checked.symm.trans again
  have split : bytes.sum = (bytes.take i).sum + bytes[i] + (bytes.drop (i + 1)).sum := by
    conv_lhs => rw [← List.take_append_drop i bytes, List.drop_eq_getElem_cons here]
    rw [List.sum_append, List.sum_cons, Nat.add_assoc]
  have split' : (bytes.set i n).sum = (bytes.take i).sum + n + (bytes.drop (i + 1)).sum := by
    rw [List.set_eq_take_append_cons_drop, if_pos here, List.sum_append, List.sum_cons, Nat.add_assoc]
  rw [split, split'] at sums
  have same : bytes[i] ≡ n [MOD 256] := (sums.add_right_cancel' _).add_left_cancel' _
  exact other (Nat.ModEq.eq_of_lt_of_lt same.symm small' small)

/-- Bytes with their sum at the end. -/
def Whole (frame : List ℕ) : Prop := ∃ bytes check, frame = bytes ++ [check] ∧ Checked bytes check

theorem whole_append : Whole (bytes ++ [check]) ↔ Checked bytes check := by
  constructor
  · rintro ⟨bytes', check', split, checked⟩
    obtain ⟨rfl, same⟩ := List.append_inj' split rfl
    cases same
    exact checked
  · exact fun checked => ⟨bytes, check, rfl, checked⟩

/-- Wherever one byte of them is spoiled, they are no longer whole. -/
theorem Whole.not_set {frame : List ℕ} (whole : Whole frame) (small : ∀ m ∈ frame, m < 256)
    (here : i < frame.length) (small' : n < 256) (other : n ≠ frame[i]) : ¬ Whole (frame.set i n) := by
  obtain ⟨bytes, check, rfl, checked⟩ := whole
  rcases Nat.lt_or_ge i bytes.length with byte | last
  · rw [List.getElem_append_left byte] at other
    rw [List.set_append_left _ _ byte, whole_append]
    exact checked.not_set byte (small _ (List.mem_append_left _ (List.getElem_mem byte))) small' other
  · rw [List.length_append, List.length_singleton] at here
    obtain rfl : i = bytes.length := Nat.le_antisymm (Nat.lt_succ_iff.mp here) last
    rw [List.getElem_append_right le_rfl] at other
    rw [List.set_append_right _ _ le_rfl, Nat.sub_self]
    refine fun again => other ?_
    have again : n = bytes.sum % 256 := whole_append.mp again
    rw [again, ← show check = bytes.sum % 256 from checked]
    simp

end Checked

end Bits
