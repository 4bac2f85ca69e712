import AngryUefi.Lib.Bytes
import Mathlib.Data.Nat.Bitwise

/-!
# Words that are put together byte by byte

The lanes of a 64-bit word are its bytes as they lie in memory.  Parts that
fill one lane each are joined by OR; then every lane has what its own part and
the initial word have there.
-/

namespace AngryUefi.Lanes

open AngryUefi.Bytes

def lane (word : UInt64) (index : ℕ) : UInt8 := UInt8.ofNat (word.toNat / 256 ^ index)

variable {word left right value : UInt64} {index place bit count : ℕ}

/-- Lanes are the bytes in memory. -/
theorem getElem?_littleEndian (width number : ℕ) (hindex : index < width) :
    (littleEndian width number)[index]? = some (UInt8.ofNat (number / 256 ^ index)) := by
  induction width generalizing number index with
  | zero => exact absurd hindex (Nat.not_lt_zero _)
  | succ width ih =>
      cases index with
      | zero => rw [littleEndian, List.getElem?_cons_zero, pow_zero, Nat.div_one]
      | succ index =>
          rw [littleEndian, List.getElem?_cons_succ, ih _ (Nat.lt_of_succ_lt_succ hindex),
            Nat.div_div_eq_div_mul, pow_succ, Nat.mul_comm]

theorem lane_eq_littleEndian (hindex : index < 8) :
    (littleEndian 8 word.toNat)[index]? = some (lane word index) :=
  getElem?_littleEndian 8 word.toNat hindex

theorem testBit_lane : (lane word index).toNat.testBit bit =
    (decide (bit < 8) && word.toNat.testBit (8 * index + bit)) := by
  have hpower : (256 : ℕ) ^ index = 2 ^ (8 * index) := by
    rw [pow_mul]
    rfl
  rw [lane, UInt8.toNat_ofNat', Nat.testBit_mod_two_pow, hpower, Nat.testBit_div_two_pow,
    Nat.add_comm]

theorem lane_or : lane (left ||| right) index = lane left index ||| lane right index := by
  apply byte_eq_of_testBit
  intro bit hbit
  rw [UInt8.toNat_or, Nat.testBit_or, testBit_lane, testBit_lane, testBit_lane, UInt64.toNat_or,
    Nat.testBit_or, Bool.and_or_distrib_left]

theorem lane_and : lane (left &&& right) index = lane left index &&& lane right index := by
  apply byte_eq_of_testBit
  intro bit hbit
  rw [UInt8.toNat_and, Nat.testBit_and, testBit_lane, testBit_lane, testBit_lane, UInt64.toNat_and,
    Nat.testBit_and, decide_eq_true hbit, Bool.true_and, Bool.true_and, Bool.true_and]

theorem toNat_shiftLeft_lane (hplace : place < 8) :
    (value <<< (UInt64.ofNat place * 8)).toNat = value.toNat * 2 ^ (8 * place) % 2 ^ 64 := by
  have hshift : (UInt64.ofNat place * 8).toNat % 64 = 8 * place := by
    rw [UInt64.toNat_mul, UInt64.toNat_ofNat']
    have height : (8 : UInt64).toNat = 8 := rfl
    rw [height]
    omega
  rw [UInt64.toNat_shiftLeft, hshift, Nat.shiftLeft_eq]

/-- A byte that is shifted to a lane is in that lane only. -/
theorem lane_shiftLeft (hvalue : value.toNat < 256) (hplace : place < 8) (hindex : index < 8) :
    lane (value <<< (UInt64.ofNat place * 8)) index =
      if index = place then value.toUInt8 else 0 := by
  apply byte_eq_of_testBit
  intro bit hbit
  have hinside : 8 * index + bit < 64 := by omega
  rw [testBit_lane, toNat_shiftLeft_lane hplace, Nat.testBit_mod_two_pow, Nat.testBit_mul_two_pow,
    decide_eq_true hbit, decide_eq_true hinside, Bool.true_and, Bool.true_and]
  by_cases hsame : index = place
  · subst hsame
    have hback : 8 * index + bit - 8 * index = bit := by omega
    rw [if_pos rfl, decide_eq_true (Nat.le_add_right _ _), Bool.true_and, hback,
      UInt64.toNat_toUInt8, Nat.testBit_mod_two_pow, decide_eq_true hbit, Bool.true_and]
  · rw [if_neg hsame]
    change _ = Nat.testBit 0 bit
    rw [Nat.zero_testBit]
    rcases Nat.lt_or_gt_of_ne hsame with hbefore | hbehind
    · rw [decide_eq_false (by omega), Bool.false_and]
    · have height : 8 ≤ 8 * index + bit - 8 * place := by omega
      have hhigh : value.toNat.testBit (8 * index + bit - 8 * place) = false := by
        apply Nat.testBit_lt_two_pow
        have hbyte : value.toNat < 2 ^ 8 := hvalue
        exact hbyte.trans_le (Nat.pow_le_pow_right (by decide) height)
      rw [hhigh, Bool.and_false]

theorem lane_zero : lane 0 index = 0 := by
  have hzero : (0 : UInt64).toNat = 0 := rfl
  rw [lane, hzero, Nat.zero_div]
  rfl

/-- A lane that is masked. -/
theorem lane_and_mask (hplace : place < 8) (hindex : index < 8) :
    lane (word &&& ((0xFF : UInt64) <<< (UInt64.ofNat place * 8))) index =
      if index = place then lane word index else 0 := by
  rw [lane_and, lane_shiftLeft (by decide) hplace hindex]
  have hones : (0xFF : UInt64).toUInt8 = -1 := rfl
  split_ifs
  · rw [hones, UInt8.and_neg_one]
  · exact UInt8.and_zero

/-- Parts that fill their own lanes, one after the other. -/
theorem lane_foldl_or {part : ℕ → UInt64} {byte : ℕ → UInt8}
    (hpart : ∀ place < count, lane (part place) index = if index = place then byte place else 0)
    (initial : UInt64) :
    lane ((List.range count).foldl (fun word place => word ||| part place) initial) index =
      if index < count then lane initial index ||| byte index else lane initial index := by
  induction count with
  | zero => rfl
  | succ count ih =>
      have hbefore := ih fun place hplace => hpart place (Nat.lt_succ_of_lt hplace)
      rw [List.range_succ, List.foldl_append, List.foldl_cons, List.foldl_nil, lane_or, hbefore,
        hpart count (Nat.lt_succ_self _)]
      by_cases hlast : index = count
      · subst hlast
        rw [if_neg (Nat.lt_irrefl _), if_pos rfl, if_pos (Nat.lt_succ_self _)]
      · have hsame : index < count ↔ index < count + 1 := by omega
        rw [if_neg hlast, UInt8.or_zero, if_congr hsame rfl rfl]

theorem and_bit_ne_zero_iff (hbit : bit < 64) :
    word &&& ((1 : UInt64) <<< UInt64.ofNat bit) ≠ 0 ↔ word.toNat.testBit bit = true := by
  have hmask : ((1 : UInt64) <<< UInt64.ofNat bit).toNat = 2 ^ bit := by
    have hshift : (UInt64.ofNat bit).toNat % 64 = bit := by
      rw [UInt64.toNat_ofNat']
      omega
    have hone : (1 : UInt64).toNat = 1 := rfl
    rw [UInt64.toNat_shiftLeft, hshift, hone, Nat.shiftLeft_eq, Nat.one_mul,
      Nat.mod_eq_of_lt (Nat.pow_lt_pow_right (by decide) hbit)]
  have hzero : (0 : UInt64).toNat = 0 := rfl
  rw [ne_eq, ← UInt64.toNat_inj, UInt64.toNat_and, hmask, Nat.and_two_pow, hzero]
  cases word.toNat.testBit bit
  · simp
  · simp

end AngryUefi.Lanes
