import Mathlib.Data.List.Basic
import Mathlib.Data.UInt
import Mathlib.Tactic.Linarith

/-!
# Little-endian words and byte memories

A memory is a total function from offsets to bytes: it has no end, so that an
access beyond the object it stands for is still an access with a result, and
whether accesses stay inside is a property to prove.
-/

namespace AngryUefi.Bytes

/-- The `width` low bytes of a number, least significant first. -/
def littleEndian : ℕ → ℕ → List UInt8
  | 0, _ => []
  | width + 1, value => UInt8.ofNat value :: littleEndian width (value / 256)

/-- The number a list of bytes spells, least significant first. -/
def ofLittleEndian : List UInt8 → ℕ
  | [] => 0
  | byte :: bytes => byte.toNat + 256 * ofLittleEndian bytes

@[simp]
theorem length_littleEndian (width value : ℕ) :
    (littleEndian width value).length = width := by
  induction width generalizing value with
  | zero => rfl
  | succ width ih => simp [littleEndian, ih]

theorem ofLittleEndian_lt (bytes : List UInt8) :
    ofLittleEndian bytes < 256 ^ bytes.length := by
  induction bytes with
  | nil => simp [ofLittleEndian]
  | cons byte bytes ih =>
      have hbyte : byte.toNat < 256 := byte.toNat_lt
      simp only [ofLittleEndian, List.length_cons, pow_succ]
      omega

theorem ofLittleEndian_littleEndian (width value : ℕ) :
    ofLittleEndian (littleEndian width value) = value % 256 ^ width := by
  induction width generalizing value with
  | zero => simp [littleEndian, ofLittleEndian, Nat.mod_one]
  | succ width ih =>
      rw [littleEndian, ofLittleEndian, ih, pow_succ, Nat.mul_comm (256 ^ width),
        Nat.mod_mul]
      simp

theorem ofLittleEndian_littleEndian_of_lt {width value : ℕ}
    (hvalue : value < 256 ^ width) :
    ofLittleEndian (littleEndian width value) = value := by
  rw [ofLittleEndian_littleEndian, Nat.mod_eq_of_lt hvalue]

theorem littleEndian_ofLittleEndian (bytes : List UInt8) :
    littleEndian bytes.length (ofLittleEndian bytes) = bytes := by
  induction bytes with
  | nil => rfl
  | cons byte bytes ih =>
      have hbyte : byte.toNat < 256 := byte.toNat_lt
      have hdiv : (byte.toNat + 256 * ofLittleEndian bytes) / 256 =
          ofLittleEndian bytes := by omega
      have hmod : UInt8.ofNat (byte.toNat + 256 * ofLittleEndian bytes) = byte := by
        apply UInt8.toNat_inj.mp
        simp only [UInt8.toNat_ofNat', Nat.reducePow]
        omega
      rw [List.length_cons, littleEndian, ofLittleEndian, hdiv, hmod, ih]

/-- A byte is its eight bits. -/
theorem byte_eq_of_testBit {left right : UInt8}
    (hbits : ∀ bit < 8, left.toNat.testBit bit = right.toNat.testBit bit) : left = right := by
  apply UInt8.toNat_inj.mp
  apply Nat.eq_of_testBit_eq
  intro bit
  by_cases hbit : bit < 8
  · exact hbits bit hbit
  · have hzero (byte : UInt8) : byte.toNat.testBit bit = false := by
      apply Nat.testBit_lt_two_pow
      exact byte.toNat_lt.trans_le (Nat.pow_le_pow_right (by decide) (Nat.not_lt.mp hbit))
    rw [hzero, hzero]

/-- Bytes addressed from the start of the object they belong to. -/
abbrev Memory := ℕ → UInt8

namespace Memory

/-- The bytes at `[offset, offset + length)`. -/
def read (memory : Memory) (offset length : ℕ) : List UInt8 :=
  (List.range length).map fun index => memory (offset + index)

/-- Store a list of bytes from `offset` on. -/
def write (memory : Memory) (offset : ℕ) (bytes : List UInt8) : Memory :=
  fun address =>
    if offset ≤ address then (bytes[address - offset]?).getD (memory address)
    else memory address

/-- The memory seen from a pointer into it. -/
def shift (memory : Memory) (offset : ℕ) : Memory :=
  fun address => memory (offset + address)

/-- The little-endian word of `width` bytes at an offset. -/
def word (memory : Memory) (width offset : ℕ) : ℕ :=
  ofLittleEndian (memory.read offset width)

/-- Store a little-endian word. -/
def writeWord (memory : Memory) (width offset value : ℕ) : Memory :=
  memory.write offset (littleEndian width value)

variable (memory : Memory)

@[simp]
theorem length_read (offset length : ℕ) :
    (memory.read offset length).length = length := by
  simp [read]

@[simp]
theorem read_zero (offset : ℕ) : memory.read offset 0 = [] := rfl

theorem read_add (offset left right : ℕ) :
    memory.read offset (left + right) =
      memory.read offset left ++ memory.read (offset + left) right := by
  simp [read, List.range_add, Nat.add_assoc]

theorem read_congr {left right : Memory} {offset length : ℕ}
    (hagree : ∀ index < length, left (offset + index) = right (offset + index)) :
    left.read offset length = right.read offset length := by
  apply List.map_congr_left
  intro index hindex
  exact hagree index (List.mem_range.mp hindex)

/-- The first bytes of what was read. -/
theorem read_of_le {left right : Memory} {offset length longer : ℕ} (hlength : length ≤ longer)
    (hsame : left.read offset longer = right.read offset longer) :
    left.read offset length = right.read offset length := by
  obtain ⟨rest, rfl⟩ := Nat.exists_eq_add_of_le hlength
  rw [read_add, read_add] at hsame
  exact (List.append_inj hsame (by rw [length_read, length_read])).1

theorem write_of_lt {offset address : ℕ} (bytes : List UInt8)
    (haddress : address < offset) : memory.write offset bytes address = memory address := by
  simp [write, Nat.not_le.mpr haddress]

theorem write_of_le {offset address : ℕ} {bytes : List UInt8}
    (haddress : offset + bytes.length ≤ address) :
    memory.write offset bytes address = memory address := by
  have hoffset : offset ≤ address := by omega
  have houtside : bytes[address - offset]? = none :=
    List.getElem?_eq_none (by omega)
  simp [write, hoffset, houtside]

theorem write_nil (offset : ℕ) : memory.write offset [] = memory := by
  funext address
  simp [write]

/-- What was stored is what is read back. -/
@[simp]
theorem read_write (offset : ℕ) (bytes : List UInt8) :
    (memory.write offset bytes).read offset bytes.length = bytes := by
  apply List.ext_getElem (by simp)
  intro index hleft hright
  simp [read, write, hright]

theorem write_singleton (address : ℕ) (byte : UInt8) :
    memory.write address [byte] = Function.update memory address byte := by
  funext other
  by_cases hother : other = address
  · simp [write, hother]
  rw [Function.update_of_ne hother]
  rcases Nat.lt_or_gt_of_ne hother with hbelow | habove
  · exact memory.write_of_lt _ hbelow
  · exact memory.write_of_le habove

theorem word_four (offset : ℕ) :
    memory.word 4 offset = (memory offset).toNat + 256 * ((memory (offset + 1)).toNat +
      256 * ((memory (offset + 2)).toNat + 256 * (memory (offset + 3)).toNat)) := by
  simp [word, read, List.range_succ, ofLittleEndian]

/-- Copied bytes are the bytes of the source. -/
theorem write_read_apply (source : Memory) {start offset length index : ℕ}
    (hindex : index < length) :
    memory.write start (source.read offset length) (start + index) = source (offset + index) := by
  simp [write, read, hindex]

/-- A store below or above the bytes read does not change them. -/
theorem read_write_of_disjoint {offset length start : ℕ} {bytes : List UInt8}
    (hdisjoint : offset + length ≤ start ∨ start + bytes.length ≤ offset) :
    (memory.write start bytes).read offset length = memory.read offset length := by
  apply read_congr
  intro index hindex
  rcases hdisjoint with hbelow | habove
  · exact memory.write_of_lt bytes (by omega)
  · exact memory.write_of_le (by omega)

/-- Consecutive stores are one store. -/
theorem write_write_append (offset : ℕ) (left right : List UInt8) :
    (memory.write offset left).write (offset + left.length) right =
      memory.write offset (left ++ right) := by
  funext address
  by_cases hlow : address < offset
  · rw [write_of_lt _ _ (by omega), write_of_lt _ _ hlow, write_of_lt _ _ hlow]
  by_cases hleft : address < offset + left.length
  · rw [write_of_lt _ _ hleft]
    have hindex : address - offset < left.length := by omega
    simp [write, Nat.not_lt.mp hlow, hindex, List.getElem?_append_left hindex]
  · have hindex : left.length ≤ address - offset := by omega
    have hsub : address - offset - left.length = address - (offset + left.length) := by
      omega
    have hkeep : memory.write offset left address = memory address :=
      memory.write_of_le (by omega)
    simp only [write] at hkeep
    simp only [write, Nat.not_lt.mp hlow, Nat.not_lt.mp hleft, if_true]
    rw [List.getElem?_append_right hindex, hsub]
    simp only [Nat.not_lt.mp hlow, if_true] at hkeep
    rw [hkeep]

/-- A stored word is read back. -/
theorem word_write (width offset value : ℕ) :
    (memory.write offset (littleEndian width value)).word width offset = value % 256 ^ width := by
  have hread := memory.read_write offset (littleEndian width value)
  rw [length_littleEndian] at hread
  rw [word, hread, ofLittleEndian_littleEndian]

theorem word_write_of_disjoint {width offset start : ℕ} {bytes : List UInt8}
    (hdisjoint : offset + width ≤ start ∨ start + bytes.length ≤ offset) :
    (memory.write start bytes).word width offset = memory.word width offset := by
  rw [word, word, read_write_of_disjoint _ hdisjoint]

/-- A word that is stored where it was read changes nothing. -/
theorem writeWord_word (width offset : ℕ) :
    memory.writeWord width offset (memory.word width offset) = memory := by
  have hread : littleEndian width (memory.word width offset) = memory.read offset width := by
    have hbytes := littleEndian_ofLittleEndian (memory.read offset width)
    rwa [length_read] at hbytes
  rw [writeWord, hread]
  funext address
  by_cases hbelow : address < offset
  · exact memory.write_of_lt _ hbelow
  by_cases hinside : address < offset + width
  · obtain ⟨index, rfl⟩ := Nat.exists_eq_add_of_le (Nat.not_lt.mp hbelow)
    exact memory.write_read_apply memory (by omega)
  · exact memory.write_of_le (by rw [length_read]; omega)

/-- Bytes as a memory, with zeros behind them. -/
def ofBytes (bytes : List UInt8) : Memory := fun address => bytes.getD address 0

/-- Two memories have the same bytes below a limit. -/
def AgreeBelow (limit : ℕ) (left right : Memory) : Prop :=
  ∀ address < limit, left address = right address

namespace AgreeBelow

variable {limit : ℕ} {left right : Memory}

theorem read_eq (hagree : AgreeBelow limit left right) {offset length : ℕ}
    (hinside : offset + length ≤ limit) :
    left.read offset length = right.read offset length := by
  apply read_congr
  intro index hindex
  exact hagree (offset + index) (by omega)

theorem word_eq (hagree : AgreeBelow limit left right) {width offset : ℕ}
    (hinside : offset + width ≤ limit) :
    left.word width offset = right.word width offset := by
  rw [word, word, hagree.read_eq hinside]

theorem shift (hagree : AgreeBelow limit left right) (offset : ℕ) :
    AgreeBelow (limit - offset) (left.shift offset) (right.shift offset) := by
  intro address haddress
  exact hagree (offset + address) (by omega)

theorem ofBytes_read (memory : Memory) (length : ℕ) :
    AgreeBelow length (ofBytes (memory.read 0 length)) memory := by
  intro address haddress
  simp [ofBytes, read, haddress]

end AgreeBelow

end Memory

end AngryUefi.Bytes
