import AngryUefi.Lib.Bytes
import Mathlib.Logic.Function.Basic
import Mathlib.Tactic.IntervalCases

/-!
# A 64-bit address space

Bytes at 64-bit addresses, with loads and stores of quadwords.  Addresses wrap
around, and nothing is aligned: that two accesses do not meet is a fact about
their distance in both directions.
-/

namespace AngryUefi

open AngryUefi.Bytes

/-- The byte at each address. -/
abbrev AddressSpace := UInt64 → UInt8

namespace AddressSpace

/-- Bytes from an address on. -/
def writeBytes (memory : AddressSpace) (address : UInt64) (bytes : List UInt8) : AddressSpace :=
  fun other => (bytes[(other - address).toNat]?).getD (memory other)

def readBytes (memory : AddressSpace) (address : UInt64) (length : ℕ) : List UInt8 :=
  (List.range length).map fun index => memory (address + UInt64.ofNat index)

/-- The little-endian quadword at an address. -/
def load (memory : AddressSpace) (address : UInt64) : UInt64 :=
  UInt64.ofNat (ofLittleEndian
    ((List.range 8).map fun index => memory (address + UInt64.ofNat index)))

def store (memory : AddressSpace) (address value : UInt64) : AddressSpace :=
  fun other =>
    ((littleEndian 8 value.toNat)[(other - address).toNat]?).getD (memory other)

/-- The little-endian 32-bit word at an address. -/
def loadLong (memory : AddressSpace) (address : UInt64) : UInt32 :=
  UInt32.ofNat (ofLittleEndian
    ((List.range 4).map fun index => memory (address + UInt64.ofNat index)))

/-- The little-endian 16-bit word at an address. -/
def loadWord (memory : AddressSpace) (address : UInt64) : UInt16 :=
  UInt16.ofNat (ofLittleEndian
    ((List.range 2).map fun index => memory (address + UInt64.ofNat index)))

def storeWord (memory : AddressSpace) (address : UInt64) (value : UInt16) : AddressSpace :=
  fun other =>
    ((littleEndian 2 value.toNat)[(other - address).toNat]?).getD (memory other)

/-- The quadwords at two addresses have no byte in common. -/
def Apart (left right : UInt64) : Prop := 8 ≤ right - left ∧ 8 ≤ left - right

instance (left right : UInt64) : Decidable (Apart left right) :=
  inferInstanceAs (Decidable (_ ∧ _))

/-- Two ranges of bytes do not meet. -/
def Disjoint (left : UInt64) (leftLength : ℕ) (right : UInt64) (rightLength : ℕ) : Prop :=
  ∀ i j : UInt64, i.toNat < leftLength → j.toNat < rightLength → left + i ≠ right + j

variable {memory : AddressSpace} {left right address other value offset offset' : UInt64}
variable {leftLength rightLength : ℕ}

theorem Apart.symm (hapart : Apart left right) : Apart right left := ⟨hapart.2, hapart.1⟩

/-- Distances from a common base. -/
theorem apart_add_left {base : UInt64} : Apart (base + left) (base + right) ↔ Apart left right := by
  simp only [Apart, add_sub_add_left_eq_sub]

theorem load_congr {memory' : AddressSpace}
    (hsame : ∀ index < 8, memory (address + UInt64.ofNat index) =
      memory' (address + UInt64.ofNat index)) :
    memory.load address = memory'.load address := by
  rw [load, load]
  congr 2
  apply List.map_congr_left
  intro index hindex
  exact hsame index (List.mem_range.mp hindex)

/-- A quadword that does not wrap around lies above its address. -/
theorem load_congr_above {memory' : AddressSpace} (hinside : address.toNat + 8 ≤ 2 ^ 64)
    (hsame : ∀ other : UInt64, address.toNat ≤ other.toNat → memory' other = memory other) :
    memory'.load address = memory.load address := by
  apply load_congr
  intro index hindex
  apply hsame
  rw [UInt64.toNat_add, UInt64.toNat_ofNat', Nat.mod_eq_of_lt (a := index) (by omega),
    Nat.mod_eq_of_lt (by omega)]
  omega

variable {bytes : List UInt8} {length : ℕ}

theorem writeBytes_of_le (hfar : bytes.length ≤ (other - address).toNat) :
    memory.writeBytes address bytes other = memory other := by
  rw [writeBytes, List.getElem?_eq_none hfar]
  rfl

theorem readBytes_writeBytes (hlength : bytes.length ≤ 2 ^ 64) :
    (memory.writeBytes address bytes).readBytes address bytes.length = bytes := by
  apply List.ext_getElem (by simp [readBytes])
  intro index hleft hright
  have hindex : (UInt64.ofNat index).toNat = index := by
    rw [UInt64.toNat_ofNat', Nat.mod_eq_of_lt (by omega)]
  simp only [readBytes, List.getElem_map, List.getElem_range, writeBytes, add_sub_cancel_left,
    hindex, List.getElem?_eq_getElem hright, Option.getD_some]

theorem readBytes_congr {memory' : AddressSpace}
    (hsame : ∀ index < length, memory (address + UInt64.ofNat index) =
      memory' (address + UInt64.ofNat index)) :
    memory.readBytes address length = memory'.readBytes address length := by
  apply List.map_congr_left
  intro index hindex
  exact hsame index (List.mem_range.mp hindex)

theorem store_eq_writeBytes :
    memory.store address value = memory.writeBytes address (littleEndian 8 value.toNat) := rfl

theorem store_of_le (hfar : 8 ≤ (other - address).toNat) :
    memory.store address value other = memory other := by
  rw [store_eq_writeBytes]
  apply writeBytes_of_le
  rwa [length_littleEndian]

theorem loadLong_congr {memory' : AddressSpace}
    (hsame : ∀ index < 4, memory (address + UInt64.ofNat index) =
      memory' (address + UInt64.ofNat index)) :
    memory.loadLong address = memory'.loadLong address := by
  rw [loadLong, loadLong]
  congr 2
  apply List.map_congr_left
  intro index hindex
  exact hsame index (List.mem_range.mp hindex)

theorem loadWord_congr {memory' : AddressSpace}
    (hsame : ∀ index < 2, memory (address + UInt64.ofNat index) =
      memory' (address + UInt64.ofNat index)) :
    memory.loadWord address = memory'.loadWord address := by
  rw [loadWord, loadWord]
  congr 2
  apply List.map_congr_left
  intro index hindex
  exact hsame index (List.mem_range.mp hindex)

theorem storeWord_eq_writeBytes {word : UInt16} :
    memory.storeWord address word = memory.writeBytes address (littleEndian 2 word.toNat) := rfl

theorem loadWord_storeWord {word : UInt16} :
    (memory.storeWord address word).loadWord address = word := by
  have hread := @readBytes_writeBytes memory address (littleEndian 2 word.toNat) (by simp)
  rw [length_littleEndian] at hread
  change UInt16.ofNat (ofLittleEndian ((memory.storeWord address word).readBytes address 2)) = _
  rw [storeWord_eq_writeBytes, hread, ofLittleEndian_littleEndian_of_lt word.toNat_lt]
  exact UInt16.ofNat_toNat

/-- A quadword behind a word. -/
theorem loadWord_store_add_two :
    (memory.store (address + 2) value).loadWord address = memory.loadWord address := by
  have hsame : (memory.store (address + 2) value).readBytes address 2 =
      memory.readBytes address 2 := by
    apply readBytes_congr
    intro index hindex
    apply writeBytes_of_le
    rw [length_littleEndian]
    interval_cases index
    · have hback : address + UInt64.ofNat 0 - (address + 2) = 0xFFFFFFFFFFFFFFFE := by
        rw [← sub_sub, add_sub_cancel_left]
        rfl
      rw [hback]
      decide
    · have hback : address + UInt64.ofNat 1 - (address + 2) = 0xFFFFFFFFFFFFFFFF := by
        rw [← sub_sub, add_sub_cancel_left]
        rfl
      rw [hback]
      decide
  change UInt16.ofNat (ofLittleEndian ((memory.store (address + 2) value).readBytes address 2)) = _
  rw [hsame]
  rfl

/-- Memory that holds zeros only. -/
theorem load_zero : load (fun _ => 0) address = 0 := by
  have hbytes : ((List.range 8).map fun _ => (0 : UInt8)) = List.replicate 8 0 := rfl
  rw [load, hbytes]
  rfl

@[simp]
theorem load_store : (memory.store address value).load address = value := by
  have hbytes : ((List.range 8).map fun index =>
      memory.store address value (address + UInt64.ofNat index)) =
        littleEndian 8 value.toNat := by
    apply List.ext_getElem (by simp)
    intro index hleft hright
    have hindex : index < 8 := by simpa using hright
    have hmod : index % 2 ^ 64 = index := Nat.mod_eq_of_lt (by omega)
    simp only [List.getElem_map, List.getElem_range, store, add_sub_cancel_left,
      UInt64.toNat_ofNat', hmod, List.getElem?_eq_getElem hright, Option.getD_some]
  rw [load, hbytes, ofLittleEndian_littleEndian_of_lt value.toNat_lt]
  exact UInt64.ofNat_toNat

theorem load_store_of_apart (hapart : Apart address other) :
    (memory.store address value).load other = memory.load other := by
  apply load_congr
  intro index hindex
  have houtside : 8 ≤ (other + UInt64.ofNat index - address).toNat := by
    have hfar := UInt64.le_iff_toNat_le.mp hapart.1
    have hnear := UInt64.le_iff_toNat_le.mp hapart.2
    simp only [UInt64.toNat_sub, UInt64.toNat_add, UInt64.toNat_ofNat', UInt64.reduceToNat]
      at hfar hnear ⊢
    have hleft := address.toNat_lt
    have hright := other.toNat_lt
    omega
  have hnone : (littleEndian 8 value.toNat)[(other + UInt64.ofNat index - address).toNat]? =
      none := List.getElem?_eq_none (by simpa using houtside)
  rw [store, hnone]
  rfl

/-- The later of two quadwords that meet starts inside the earlier one. -/
theorem Disjoint.le_sub (hdisjoint : Disjoint left leftLength right rightLength)
    (hleft : offset.toNat + 8 ≤ leftLength) (hright : offset'.toNat < rightLength) :
    8 ≤ right + offset' - (left + offset) := by
  by_contra hnear
  have hdistance : (right + offset' - (left + offset)).toNat < 8 := by
    simpa [UInt64.le_iff_toNat_le] using hnear
  have hindex : (offset + (right + offset' - (left + offset))).toNat < leftLength := by
    have hsum := Nat.mod_le (offset.toNat + (right + offset' - (left + offset)).toNat) (2 ^ 64)
    rw [UInt64.toNat_add]
    omega
  apply hdisjoint _ _ hindex hright
  rw [← add_assoc, add_sub_cancel]

/-- A byte of one range is not in the other. -/
theorem Disjoint.outside (hdisjoint : Disjoint left leftLength right rightLength)
    (hoffset : offset.toNat < leftLength) : rightLength ≤ (left + offset - right).toNat := by
  by_contra hinside
  apply hdisjoint offset (left + offset - right) hoffset (Nat.not_le.mp hinside)
  rw [add_sub_cancel]

theorem Disjoint.symm (hdisjoint : Disjoint left leftLength right rightLength) :
    Disjoint right rightLength left leftLength :=
  fun i j hi hj hsame => hdisjoint j i hj hi hsame.symm

/-- Quadwords inside disjoint ranges are apart. -/
theorem Disjoint.apart (hdisjoint : Disjoint left leftLength right rightLength)
    (hleft : offset.toNat + 8 ≤ leftLength) (hright : offset'.toNat + 8 ≤ rightLength) :
    Apart (left + offset) (right + offset') := by
  constructor
  · exact hdisjoint.le_sub hleft (by omega)
  · exact hdisjoint.symm.le_sub hright (by omega)

theorem Disjoint.apart_base (hdisjoint : Disjoint left leftLength right rightLength)
    (hleft : 8 ≤ leftLength) (hright : 8 ≤ rightLength) : Apart left right := by
  have hzero : (0 : UInt64).toNat = 0 := rfl
  have hapart := hdisjoint.apart (by rwa [hzero, Nat.zero_add]) (by rwa [hzero, Nat.zero_add])
  rwa [UInt64.add_zero, UInt64.add_zero] at hapart

/-- Bytes that nothing has written to are read as before. -/
theorem Disjoint.readBytes {before after : AddressSpace}
    (hdisjoint : Disjoint left leftLength right rightLength) (hlength : leftLength ≤ 2 ^ 64)
    (hkept : ∀ other : UInt64, rightLength ≤ (other - right).toNat →
      after other = before other) :
    after.readBytes left leftLength = before.readBytes left leftLength := by
  apply readBytes_congr
  intro index hindex
  apply hkept
  apply hdisjoint.outside
  rw [UInt64.toNat_ofNat', Nat.mod_eq_of_lt (by omega)]
  exact hindex

/-- Ranges one behind the other. -/
theorem disjoint_of_toNat_le (hle : left.toNat + leftLength ≤ right.toNat)
    (hinside : right.toNat + rightLength ≤ 2 ^ 64) :
    Disjoint left leftLength right rightLength := by
  intro i j hi hj hsame
  have hnat := congrArg UInt64.toNat hsame
  rw [UInt64.toNat_add, UInt64.toNat_add, Nat.mod_eq_of_lt (by omega),
    Nat.mod_eq_of_lt (by omega)] at hnat
  omega

/-! ## Distances from a base -/

variable {base : UInt64}

/-- Quadwords at increasing distances from a base. -/
theorem apart_of_toNat_le (hle : left.toNat + 8 ≤ right.toNat)
    (hinside : right.toNat + 8 ≤ 2 ^ 64) : Apart left right := by
  simp only [Apart, UInt64.le_iff_toNat_le, UInt64.toNat_sub, UInt64.reduceToNat]
  have hright := right.toNat_lt
  omega

theorem load_store_add_of_le (hle : left.toNat + 8 ≤ right.toNat)
    (hinside : right.toNat + 8 ≤ 18446744073709551616) :
    (memory.store (base + left) value).load (base + right) = memory.load (base + right) :=
  load_store_of_apart (apart_add_left.mpr (apart_of_toNat_le hle hinside))

theorem load_store_add (hle : 8 ≤ right.toNat)
    (hinside : right.toNat + 8 ≤ 18446744073709551616) :
    (memory.store base value).load (base + right) = memory.load (base + right) := by
  have hzero : (0 : UInt64).toNat = 0 := rfl
  have hstore := @load_store_add_of_le memory 0 right value base (by omega) hinside
  rwa [add_zero] at hstore

/-! ## Ranges of quadwords -/

/-- The quadwords from a base on, as far as there are any. -/
def words (memory : AddressSpace) (base : UInt64) (count : ℕ) : ℕ → UInt64 :=
  fun index => if index < count then memory.load (base + UInt64.ofNat (8 * index)) else 0

variable {count index : ℕ}

theorem words_of_lt (hindex : index < count) :
    memory.words base count index = memory.load (base + UInt64.ofNat (8 * index)) :=
  if_pos hindex

theorem toNat_ofNat_mul (hindex : index < 2 ^ 60) :
    (UInt64.ofNat (8 * index)).toNat = 8 * index := by
  rw [UInt64.toNat_ofNat', Nat.mod_eq_of_lt (by omega)]

/-- A store to one of the quadwords. -/
theorem words_store (hcount : count < 2 ^ 60) (haligned : offset.toNat % 8 = 0)
    (hinside : offset.toNat / 8 < count) :
    (memory.store (base + offset) value).words base count =
      Function.update (memory.words base count) (offset.toNat / 8) value := by
  have hoffset : UInt64.ofNat (8 * (offset.toNat / 8)) = offset := by
    have hdiv : 8 * (offset.toNat / 8) = offset.toNat := by omega
    rw [hdiv, UInt64.ofNat_toNat]
  funext index
  by_cases hindex : index < count
  · rw [words_of_lt hindex]
    by_cases hsame : index = offset.toNat / 8
    · subst hsame
      rw [Function.update_self, hoffset, load_store]
    · rw [Function.update_of_ne hsame, words_of_lt hindex]
      apply load_store_of_apart
      rw [apart_add_left, ← hoffset]
      have hleft := @toNat_ofNat_mul (offset.toNat / 8) (by omega)
      have hright := @toNat_ofNat_mul index (by omega)
      simp only [Apart, UInt64.le_iff_toNat_le, UInt64.toNat_sub, hleft, hright,
        UInt64.reduceToNat]
      omega
  · have hother : index ≠ offset.toNat / 8 := by omega
    rw [Function.update_of_ne hother, words, words, if_neg hindex, if_neg hindex]

/-- A store elsewhere. -/
theorem words_store_of_apart
    (hapart : ∀ index < count, Apart address (base + UInt64.ofNat (8 * index))) :
    (memory.store address value).words base count = memory.words base count := by
  funext index
  simp only [words]
  split_ifs with hindex
  · exact load_store_of_apart (hapart index hindex)
  · rfl

/-! ## Stores in a row -/

/-- Stores at offsets from a base, one after the other. -/
def storeAll (memory : AddressSpace) (base : UInt64) (writes : List (UInt64 × UInt64)) :
    AddressSpace :=
  writes.foldl (fun memory write => memory.store (base + write.1) write.2) memory

variable {writes : List (UInt64 × UInt64)}

theorem load_storeAll_of_apart
    (hapart : ∀ offset ∈ writes.map Prod.fst, Apart (base + offset) other) :
    (memory.storeAll base writes).load other = memory.load other := by
  induction writes generalizing memory with
  | nil => rfl
  | cons write writes ih =>
      rw [List.map_cons, List.forall_mem_cons] at hapart
      rw [storeAll, List.foldl_cons]
      exact (ih hapart.2).trans (load_store_of_apart hapart.1)

theorem words_storeAll (hcount : count < 2 ^ 60)
    (hinside : ∀ offset ∈ writes.map Prod.fst,
      offset.toNat % 8 = 0 ∧ offset.toNat / 8 < count) :
    (memory.storeAll base writes).words base count =
      writes.foldl (fun words write => Function.update words (write.1.toNat / 8) write.2)
        (memory.words base count) := by
  induction writes generalizing memory with
  | nil => rfl
  | cons write writes ih =>
      rw [List.map_cons, List.forall_mem_cons] at hinside
      rw [storeAll, List.foldl_cons, List.foldl_cons,
        ← words_store hcount hinside.1.1 hinside.1.2]
      exact ih hinside.2

/-! ## Ranges that are left alone -/

/-- The bytes of these ranges are the same. -/
def Keeps (ranges : List (UInt64 × ℕ)) (before after : AddressSpace) : Prop :=
  ∀ range ∈ ranges, ∀ offset : UInt64, offset.toNat < range.2 →
    after (range.1 + offset) = before (range.1 + offset)

/-- The ranges do not meet another one. -/
def ClearOf (ranges : List (UInt64 × ℕ)) (start : UInt64) (length : ℕ) : Prop :=
  ∀ range ∈ ranges, Disjoint range.1 range.2 start length

variable {before after : AddressSpace} {ranges : List (UInt64 × ℕ)}

theorem Keeps.load {address : UInt64} (hkeeps : Keeps ranges before after)
    (hrange : (address, 8) ∈ ranges) : after.load address = before.load address := by
  apply load_congr
  intro index hindex
  apply hkeeps _ hrange
  rw [UInt64.toNat_ofNat', Nat.mod_eq_of_lt (by omega)]
  exact hindex

theorem Keeps.trans {later : AddressSpace} (hfirst : Keeps ranges before after)
    (hsecond : Keeps ranges after later) : Keeps ranges before later :=
  fun range hrange offset hoffset =>
    (hsecond range hrange offset hoffset).trans (hfirst range hrange offset hoffset)

/-- Writes elsewhere. -/
theorem ClearOf.keeps {start : UInt64} {length : ℕ} (hclear : ClearOf ranges start length)
    (hsame : ∀ address : UInt64, length ≤ (address - start).toNat →
      after address = before address) : Keeps ranges before after :=
  fun range hrange _ hoffset => hsame _ ((hclear range hrange).outside hoffset)

-- Code is run on memories that only the lemmas above speak of.
attribute [irreducible] load store

end AddressSpace

end AngryUefi
