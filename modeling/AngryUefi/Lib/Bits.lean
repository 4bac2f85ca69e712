import AngryUefi.Lib.Bytes
import Mathlib.Data.Nat.Bits

/-!
# Bits of a memory

Bits are numbered from the lowest bit of the first byte on.  Toggling bits one
after the other changes a bit by the parity of how often it is toggled, so that
the order does not matter and the same list a second time undoes the first.
-/

namespace AngryUefi.Bits

open AngryUefi.Bytes

def bitOf (memory : Memory) (position : ℕ) : Bool :=
  (memory (position / 8)).toNat.testBit (position % 8)

def toggle (memory : Memory) (position : ℕ) : Memory :=
  memory.write (position / 8)
    [memory (position / 8) ^^^ (1 <<< UInt8.ofNat (position % 8))]

def toggleAll : Memory → List ℕ → Memory
  | memory, [] => memory
  | memory, position :: positions => toggleAll (toggle memory position) positions

variable {memory left right : Memory} {position address : ℕ} {positions : List ℕ}

theorem testBit_xor_shift (byte : UInt8) {shift index : ℕ} (hshift : shift < 8) :
    (byte ^^^ (1 <<< UInt8.ofNat shift)).toNat.testBit index =
      (byte.toNat.testBit index ^^ decide (shift = index)) := by
  have hpower : ∀ shift < 8, ((1 : UInt8) <<< UInt8.ofNat shift).toNat = 2 ^ shift := by decide
  rw [UInt8.toNat_xor, Nat.testBit_xor, hpower shift hshift, Nat.testBit_two_pow]

theorem toggle_of_ne (hbyte : address ≠ position / 8) :
    toggle memory position address = memory address := by
  rw [toggle]
  rcases Nat.lt_or_gt_of_ne hbyte with hbefore | hbehind
  · exact Memory.write_of_lt _ _ hbefore
  · exact Memory.write_of_le _ hbehind

theorem toggle_self (memory : Memory) (position : ℕ) :
    toggle memory position (position / 8) =
      memory (position / 8) ^^^ (1 <<< UInt8.ofNat (position % 8)) := by
  simp [toggle, Memory.write]

theorem bitOf_toggle (memory : Memory) (position bit : ℕ) :
    bitOf (toggle memory position) bit = (bitOf memory bit ^^ decide (position = bit)) := by
  by_cases hbyte : bit / 8 = position / 8
  · have hsame : position % 8 = bit % 8 ↔ position = bit := by omega
    rw [bitOf, bitOf, hbyte, toggle_self, testBit_xor_shift _ (Nat.mod_lt _ (by decide)),
      decide_eq_decide.mpr hsame]
  · have hother : position ≠ bit := by
      rintro rfl
      exact hbyte rfl
    rw [bitOf, bitOf, toggle_of_ne hbyte, decide_eq_false hother, Bool.xor_false]

/-- A bit changes by the parity of its occurrences. -/
theorem bitOf_toggleAll (memory : Memory) (positions : List ℕ) (bit : ℕ) :
    bitOf (toggleAll memory positions) bit =
      (bitOf memory bit ^^ (positions.count bit).bodd) := by
  induction positions generalizing memory with
  | nil => rw [toggleAll, List.count_nil, Nat.bodd_zero, Bool.xor_false]
  | cons position positions ih =>
      rw [toggleAll, ih, bitOf_toggle, List.count_cons, Nat.bodd_add, Bool.xor_assoc,
        Bool.xor_comm (decide _)]
      congr 2
      by_cases hsame : position = bit
      · simp [hsame]
      · simp [hsame]

theorem toggleAll_append (memory : Memory) (first second : List ℕ) :
    toggleAll memory (first ++ second) = toggleAll (toggleAll memory first) second := by
  induction first generalizing memory with
  | nil => rfl
  | cons position first ih => exact ih _

theorem toggleAll_of_ne (hbytes : ∀ position ∈ positions, address ≠ position / 8) :
    toggleAll memory positions address = memory address := by
  induction positions generalizing memory with
  | nil => rfl
  | cons position positions ih =>
      rw [List.forall_mem_cons] at hbytes
      rw [toggleAll, ih hbytes.2, toggle_of_ne hbytes.1]

/-- A byte of the memory is its bits. -/
theorem eq_of_bitOf (hbits : ∀ bit < 8, bitOf left (8 * address + bit) =
    bitOf right (8 * address + bit)) : left address = right address := by
  apply byte_eq_of_testBit
  intro bit hbit
  have hsame := hbits bit hbit
  rwa [bitOf, bitOf, Nat.mul_add_div (by decide), Nat.mul_add_mod, Nat.div_eq_of_lt hbit,
    Nat.mod_eq_of_lt hbit] at hsame

theorem toggleAll_perm {positions' : List ℕ} (hperm : positions.Perm positions')
    (memory : Memory) : toggleAll memory positions = toggleAll memory positions' := by
  funext address
  apply eq_of_bitOf
  intro bit _
  rw [bitOf_toggleAll, bitOf_toggleAll, hperm.count_eq]

/-- Toggling twice changes nothing. -/
theorem toggleAll_toggleAll (memory : Memory) (positions : List ℕ) :
    toggleAll (toggleAll memory positions) positions = memory := by
  funext address
  apply eq_of_bitOf
  intro bit _
  rw [bitOf_toggleAll, bitOf_toggleAll, Bool.xor_assoc, Bool.xor_self, Bool.xor_false]

/-! ## Byte strings -/

/-- The bit is toggled, if there is such a byte. -/
def toggleIn (bytes : List UInt8) (position : ℕ) : List UInt8 :=
  bytes.modify (position / 8) (· ^^^ (1 <<< UInt8.ofNat (position % 8)))

@[simp]
theorem length_toggleIn (bytes : List UInt8) (position : ℕ) :
    (toggleIn bytes position).length = bytes.length :=
  List.length_modify _ _ _

theorem toggleIn_of_le {bytes : List UInt8} (houtside : bytes.length ≤ position / 8) :
    toggleIn bytes position = bytes := by
  rw [toggleIn, List.modify_eq_self houtside]

theorem read_toggle (memory : Memory) (position length : ℕ) :
    (toggle memory position).read 0 length = toggleIn (memory.read 0 length) position := by
  apply List.ext_getElem
  · rw [Memory.length_read, length_toggleIn, Memory.length_read]
  intro index hleft hright
  simp only [toggleIn, List.getElem_modify]
  by_cases hbyte : position / 8 = index
  · subst hbyte
    simp [Memory.read, toggle_self]
  · rw [if_neg hbyte]
    simp [Memory.read, toggle_of_ne (Ne.symm hbyte)]

/-- What is read after toggling is what was read with its bits toggled. -/
theorem read_toggleAll (memory : Memory) (positions : List ℕ) (length : ℕ) :
    (toggleAll memory positions).read 0 length =
      positions.foldl toggleIn (memory.read 0 length) := by
  induction positions generalizing memory with
  | nil => rfl
  | cons position positions ih => rw [toggleAll, ih, read_toggle, List.foldl_cons]

/-- Positions outside the bytes toggle nothing. -/
theorem foldl_toggleIn_filter (positions : List ℕ) (bytes : List UInt8) :
    (positions.filter (· / 8 < bytes.length)).foldl toggleIn bytes =
      positions.foldl toggleIn bytes := by
  induction positions generalizing bytes with
  | nil => rfl
  | cons position positions ih =>
      have hlater := ih (toggleIn bytes position)
      rw [length_toggleIn] at hlater
      by_cases hinside : position / 8 < bytes.length
      · rw [List.filter_cons_of_pos (by simpa using hinside), List.foldl_cons, hlater,
          List.foldl_cons]
      · rw [toggleIn_of_le (Nat.not_lt.mp hinside)] at hlater
        rw [List.filter_cons_of_neg (by simpa using hinside), hlater, List.foldl_cons,
          toggleIn_of_le (Nat.not_lt.mp hinside)]

end AngryUefi.Bits
