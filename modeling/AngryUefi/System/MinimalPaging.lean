import AngryUefi.Handlers.Readout
import AngryUefi.Lib.PageWalk

/-!
# The page tables of an application processor

`create_minimal_paging` copies the two upper levels of core 0's page tables
and clears all entries behind the first four gigabytes.  Core 0 runs with an
identity mapping, so that the C code's pointers are physical addresses.
-/

namespace AngryUefi.System

open AngryUefi.PageWalk

/-! ## The code -/

def getPml4 (cr3 : ℕ) : ℕ := cr3

/-- `get_full_address` of the `addr` bits of an entry. -/
def getFullAddress (entry : UInt64) : ℕ := (Handlers.tableAddress entry).toNat

def getShortAddress (address : UInt64) : UInt64 := address >>> 12

def getPdptAt (memory : PhysicalMemory) (cr3 pml4Index : ℕ) : ℕ :=
  if pml4Index ≥ 512 then 0 else getFullAddress (memory (getPml4 cr3 + 8 * pml4Index))

def getPdAt (memory : PhysicalMemory) (cr3 pml4Index pdptIndex : ℕ) : ℕ :=
  let pdpt := getPdptAt memory cr3 pml4Index
  if pdpt = 0 ∨ pdptIndex ≥ 1024 then 0 else getFullAddress (memory (pdpt + 8 * pdptIndex))

/-- `CopyMem` of 8-byte entries. -/
def copyMem (memory : PhysicalMemory) (destination source count : ℕ) : PhysicalMemory :=
  fun address =>
    if destination ≤ address ∧ address < destination + 8 * count then
      memory (source + (address - destination))
    else memory address

/-- `bits.present = 0` -/
def clearPresent (entry : UInt64) : UInt64 := entry &&& 0xFFFFFFFFFFFFFFFE

/-- `bits.ps = 0` -/
def clearPs (entry : UInt64) : UInt64 := entry &&& 0xFFFFFFFFFFFFFF7F

/-- `bits.addr = addr` -/
def setAddr (entry addr : UInt64) : UInt64 :=
  let field : UInt64 := (addr &&& 0xFFFFFFFFFF) <<< 12
  (entry &&& 0xFFF0000000000FFF) ||| field

def updateEntry (change : UInt64 → UInt64) (table index : ℕ) (memory : PhysicalMemory) :
    PhysicalMemory :=
  Function.update memory (table + 8 * index) (change (memory (table + 8 * index)))

/-- A loop that changes `count` entries of a table from `index` on. -/
def updateEntries (change : UInt64 → UInt64) (table : ℕ) :
    (count index : ℕ) → PhysicalMemory → PhysicalMemory
  | 0, _, memory => memory
  | count + 1, index, memory =>
      updateEntries change table count (index + 1) (updateEntry change table index memory)

/-- `allocatePages call pages` is the result of the numbered call. -/
def createMinimalPaging (allocatePages : ℕ → ℕ → UInt64) (baseCr3 : ℕ)
    (memory : PhysicalMemory) : ℕ × PhysicalMemory :=
  let pml4 := getPml4 baseCr3
  let pml4New := allocatePages 0 1
  let memory := copyMem memory pml4New.toNat pml4 512
  let pdpt := getPdptAt memory baseCr3 0
  let pdptNew := allocatePages 1 2
  let memory := copyMem memory pdptNew.toNat pdpt 1024
  let pd := getPdAt memory baseCr3 0 0
  let pdNew := allocatePages 2 2
  let memory := copyMem memory pdNew.toNat pd 1024
  -- unmap all pages in PDPT[0], except first 4 GB
  let memory := updateEntries (fun entry => clearPs (clearPresent entry)) pdptNew.toNat 1020 4
    memory
  -- first entry of the new PML4 points to the new PDPT, the rest is unmapped
  let memory := updateEntry (fun entry => setAddr entry (getShortAddress pdptNew))
    pml4New.toNat 0 memory
  let memory := updateEntries clearPresent pml4New.toNat 511 1 memory
  (pml4New.toNat, memory)

/-! ## Bit fields -/

theorem bit_of_le {entry : UInt64} {position : ℕ} (hposition : 64 ≤ position) :
    bit entry position = false := by
  apply Nat.testBit_lt_two_pow
  exact entry.toNat_lt.trans_le (Nat.pow_le_pow_right (by decide) hposition)

theorem bit_clearPresent (entry : UInt64) (position : ℕ) :
    bit (clearPresent entry) position = (bit entry position && decide (position ≠ 0)) := by
  by_cases hposition : position < 64
  · have hmask : ∀ position < 64, Nat.testBit 0xFFFFFFFFFFFFFFFE position =
        decide (position ≠ 0) := by decide
    rw [← hmask position hposition, bit, bit, ← Nat.testBit_and]
    rfl
  · rw [bit_of_le (by omega), bit_of_le (by omega), Bool.false_and]

theorem bit_clearPs (entry : UInt64) (position : ℕ) :
    bit (clearPs entry) position = (bit entry position && decide (position ≠ 7)) := by
  by_cases hposition : position < 64
  · have hmask : ∀ position < 64, Nat.testBit 0xFFFFFFFFFFFFFF7F position =
        decide (position ≠ 7) := by decide
    rw [← hmask position hposition, bit, bit, ← Nat.testBit_and]
    rfl
  · rw [bit_of_le (by omega), bit_of_le (by omega), Bool.false_and]

theorem toNat_setAddr (entry addr : UInt64) :
    (setAddr entry addr).toNat = (entry.toNat &&& 0xFFF0000000000FFF) |||
      ((addr.toNat &&& (2 ^ 40 - 1)) <<< 12 % 2 ^ 64) := rfl

/-- The address field is replaced, the other bits are as before. -/
theorem bit_setAddr (entry addr : UInt64) (position : ℕ) :
    bit (setAddr entry addr) position =
      if 12 ≤ position ∧ position < 52 then bit addr (position - 12)
      else bit entry position := by
  by_cases hposition : position < 64
  · have hmask : ∀ position < 64, Nat.testBit 0xFFF0000000000FFF position =
        decide (¬ (12 ≤ position ∧ position < 52)) := by decide
    rw [bit, toNat_setAddr, Nat.testBit_or, Nat.testBit_and, hmask position hposition,
      Nat.testBit_mod_two_pow, Nat.testBit_shiftLeft, Nat.testBit_and,
      Nat.testBit_two_pow_sub_one]
    by_cases hfield : 12 ≤ position ∧ position < 52
    · have hlow : position - 12 < 40 := by omega
      simp [hfield, hposition, hlow, bit]
    · have hrange : 12 ≤ position → ¬ position - 12 < 40 := by omega
      simp only [hfield, bit, not_false_eq_true, decide_true, Bool.and_true, if_false,
        Bool.or_eq_left_iff_imp, Bool.and_eq_true, decide_eq_true_eq]
      rintro ⟨-, habove, -, hbelow⟩
      exact absurd hbelow (hrange habove)
  · rw [bit_of_le (by omega), if_neg (by omega), bit_of_le (by omega)]

theorem getFullAddress_eq (entry : UInt64) : getFullAddress entry = address entry := by
  have hfield : getFullAddress entry =
      (entry.toNat >>> 12 &&& (2 ^ 40 - 1)) <<< 12 % 2 ^ 64 := rfl
  rw [hfield, Nat.and_two_pow_sub_one_eq_mod, Nat.shiftRight_eq_div_pow, Nat.shiftLeft_eq,
    address]
  omega

theorem address_setAddr (entry : UInt64) {addr : UInt64} (haddr : addr.toNat < 2 ^ 40) :
    address (setAddr entry addr) = addr.toNat * 2 ^ 12 := by
  rw [address]
  congr 1
  apply Nat.eq_of_testBit_eq
  intro position
  rw [Nat.testBit_mod_two_pow, Nat.testBit_div_two_pow]
  have hbit := bit_setAddr entry addr (position + 12)
  rw [bit] at hbit
  rw [hbit]
  by_cases hposition : position < 40
  · rw [if_pos (by omega), Nat.add_sub_cancel]
    simp [hposition, bit]
  · have habove : addr.toNat.testBit position = false := by
      apply Nat.testBit_lt_two_pow
      exact haddr.trans_le (Nat.pow_le_pow_right (by decide) (by omega))
    simp [hposition, habove]

/-! ## What each step writes -/

theorem copyMem_apply (memory : PhysicalMemory) {destination source count index : ℕ}
    (hindex : index < count) :
    copyMem memory destination source count (destination + 8 * index) =
      memory (source + 8 * index) := by
  rw [copyMem, if_pos (by omega), Nat.add_sub_cancel_left]

theorem copyMem_of_outside (memory : PhysicalMemory) {destination source count address : ℕ}
    (houtside : address < destination ∨ destination + 8 * count ≤ address) :
    copyMem memory destination source count address = memory address := by
  rw [copyMem, if_neg (by omega)]

theorem updateEntry_of_ne {change : UInt64 → UInt64} {table index address : ℕ}
    {memory : PhysicalMemory} (hother : address ≠ table + 8 * index) :
    updateEntry change table index memory address = memory address :=
  Function.update_of_ne hother _ _

theorem updateEntries_of_outside {change : UInt64 → UInt64} {table count index address : ℕ}
    {memory : PhysicalMemory}
    (houtside : address < table + 8 * index ∨ table + 8 * (index + count) ≤ address) :
    updateEntries change table count index memory address = memory address := by
  induction count generalizing index memory with
  | zero => rfl
  | succ count ih =>
      rw [updateEntries, ih (by omega), updateEntry_of_ne (by omega)]

/-- The loop changes every entry of its range once. -/
theorem updateEntries_apply {change : UInt64 → UInt64} {table count first index : ℕ}
    {memory : PhysicalMemory} (hfirst : first ≤ index) (hindex : index < first + count) :
    updateEntries change table count first memory (table + 8 * index) =
      change (memory (table + 8 * index)) := by
  induction count generalizing first memory with
  | zero => omega
  | succ count ih =>
      rw [updateEntries]
      by_cases hhere : first = index
      · subst hhere
        rw [updateEntries_of_outside (by omega), updateEntry, Function.update_self]
      · rw [ih (by omega) (by omega), updateEntry_of_ne (by omega)]

/-! ## The new tables -/

/-- Two ranges of pages do not meet. -/
def Apart (left leftPages right rightPages : ℕ) : Prop :=
  left + 4096 * leftPages ≤ right ∨ right + 4096 * rightPages ≤ left

/-- The three allocations are page-aligned memory below 2^52, apart from each
other and from every table of the base. -/
structure FreshPages (allocatePages : ℕ → ℕ → UInt64) (baseCr3 : ℕ)
    (memory : PhysicalMemory) : Prop where
  pdptAligned : (allocatePages 1 2).toNat % 4096 = 0
  pdptBelow : (allocatePages 1 2).toNat + 8192 ≤ 2 ^ 52
  pml4Pdpt : Apart (allocatePages 0 1).toNat 1 (allocatePages 1 2).toNat 2
  pml4Pd : Apart (allocatePages 0 1).toNat 1 (allocatePages 2 2).toNat 2
  pdptPd : Apart (allocatePages 1 2).toNat 2 (allocatePages 2 2).toNat 2
  tables : ∀ below table, IsTable memory 3 baseCr3 below table →
    Apart table 1 (allocatePages 0 1).toNat 1 ∧ Apart table 1 (allocatePages 1 2).toNat 2 ∧
      Apart table 1 (allocatePages 2 2).toNat 2

section

variable {allocatePages : ℕ → ℕ → UInt64} {baseCr3 : ℕ} {memory : PhysicalMemory}

/-- Nothing is written outside the new pages. -/
theorem createMinimalPaging_of_outside {address : ℕ}
    (hpml4 : address < (allocatePages 0 1).toNat ∨
      (allocatePages 0 1).toNat + 4096 ≤ address)
    (hpdpt : address < (allocatePages 1 2).toNat ∨
      (allocatePages 1 2).toNat + 8192 ≤ address)
    (hpd : address < (allocatePages 2 2).toNat ∨
      (allocatePages 2 2).toNat + 8192 ≤ address) :
    (createMinimalPaging allocatePages baseCr3 memory).2 address = memory address := by
  simp only [createMinimalPaging]
  rw [updateEntries_of_outside (by omega), updateEntry_of_ne (by omega),
    updateEntries_of_outside (by omega), copyMem_of_outside _ (by omega),
    copyMem_of_outside _ (by omega), copyMem_of_outside _ (by omega)]

/-- The base tables are left as they are. -/
theorem FreshPages.table (hfresh : FreshPages allocatePages baseCr3 memory) {below table : ℕ}
    (htable : IsTable memory 3 baseCr3 below table) {index : ℕ} (hindex : index < 512) :
    (createMinimalPaging allocatePages baseCr3 memory).2 (table + 8 * index) =
      memory (table + 8 * index) := by
  obtain ⟨hpml4, hpdpt, hpd⟩ := hfresh.tables below table htable
  simp only [Apart] at hpml4 hpdpt hpd
  exact createMinimalPaging_of_outside (by omega) (by omega) (by omega)

/-- The first entry of the new PML4 points to the new PDPT. -/
theorem FreshPages.pml4_zero (hfresh : FreshPages allocatePages baseCr3 memory) :
    (createMinimalPaging allocatePages baseCr3 memory).2 (allocatePages 0 1).toNat =
      setAddr (memory baseCr3) (getShortAddress (allocatePages 1 2)) := by
  have hpdpt := hfresh.pml4Pdpt
  have hpd := hfresh.pml4Pd
  simp only [Apart] at hpdpt hpd
  simp only [createMinimalPaging]
  rw [updateEntries_of_outside (by omega), updateEntry, Nat.mul_zero, Nat.add_zero,
    Function.update_self, updateEntries_of_outside (by omega), copyMem_of_outside _ (by omega),
    copyMem_of_outside _ (by omega)]
  have hcopied := @copyMem_apply memory (allocatePages 0 1).toNat (getPml4 baseCr3) 512 0
    (by decide)
  rw [Nat.mul_zero, Nat.add_zero] at hcopied
  rw [hcopied]
  rfl

/-- The other entries of the new PML4 are not present. -/
theorem present_pml4 {index : ℕ} (hlow : 1 ≤ index) (hindex : index < 512) :
    present ((createMinimalPaging allocatePages baseCr3 memory).2
      ((allocatePages 0 1).toNat + 8 * index)) = false := by
  simp only [createMinimalPaging]
  rw [updateEntries_apply hlow (by omega), present, bit_clearPresent]
  simp

/-- The first four entries of the new PDPT are those of the base. -/
theorem FreshPages.pdpt_low (hfresh : FreshPages allocatePages baseCr3 memory) {index : ℕ}
    (hindex : index < 4)
    (htable : IsTable memory 3 baseCr3 2 (address (memory baseCr3))) :
    (createMinimalPaging allocatePages baseCr3 memory).2
        ((allocatePages 1 2).toNat + 8 * index) =
      memory (address (memory baseCr3) + 8 * index) := by
  have hpml4 := hfresh.pml4Pdpt
  have hpd := hfresh.pdptPd
  have hroot := (hfresh.tables 3 baseCr3 .root).1
  have hsource := (hfresh.tables 2 _ htable).1
  simp only [Apart] at hpml4 hpd hroot hsource
  simp only [createMinimalPaging]
  rw [updateEntries_of_outside (by omega), updateEntry_of_ne (by omega),
    updateEntries_of_outside (by omega), copyMem_of_outside _ (by omega),
    copyMem_apply _ (by omega)]
  have hpdpt : getPdptAt (copyMem memory (allocatePages 0 1).toNat (getPml4 baseCr3) 512)
      baseCr3 0 = address (memory baseCr3) := by
    rw [getPdptAt, if_neg (by decide), getFullAddress_eq, getPml4, Nat.mul_zero, Nat.add_zero,
      copyMem_of_outside _ (by omega)]
  rw [hpdpt, copyMem_of_outside _ (by omega)]

/-- Behind them nothing is present. -/
theorem FreshPages.present_pdpt (hfresh : FreshPages allocatePages baseCr3 memory) {index : ℕ}
    (hlow : 4 ≤ index) (hindex : index < 512) :
    present ((createMinimalPaging allocatePages baseCr3 memory).2
      ((allocatePages 1 2).toNat + 8 * index)) = false := by
  have hpml4 := hfresh.pml4Pdpt
  simp only [Apart] at hpml4
  simp only [createMinimalPaging]
  rw [updateEntries_of_outside (by omega), updateEntry_of_ne (by omega),
    updateEntries_apply hlow (by omega), present, bit_clearPs, bit_clearPresent]
  simp

theorem FreshPages.address_pml4 (hfresh : FreshPages allocatePages baseCr3 memory) :
    address (setAddr (memory baseCr3) (getShortAddress (allocatePages 1 2))) =
      (allocatePages 1 2).toNat := by
  have haligned := hfresh.pdptAligned
  have hbelow := hfresh.pdptBelow
  have hshort : (getShortAddress (allocatePages 1 2)).toNat =
      (allocatePages 1 2).toNat / 2 ^ 12 := Nat.shiftRight_eq_div_pow _ _
  rw [address_setAddr _ (by rw [hshort]; omega), hshort]
  omega

/-! ## Translation -/

/-- `setAddr` leaves everything but the address alone. -/
theorem through_setAddr (entry addr virtual : UInt64) (permissions : Permissions)
    (deeper : Translation) :
    through 3 virtual (setAddr entry addr) permissions deeper =
      through 3 virtual entry permissions deeper := by
  apply through_eq
  · exact bit_setAddr entry addr 0
  · exact bit_setAddr entry addr 7
  · exact ⟨rfl, rfl⟩

theorem restrict_setAddr (entry addr : UInt64) (permissions : Permissions) :
    permissions.restrict (setAddr entry addr) = permissions.restrict entry := by
  simp only [Permissions.restrict, bit_setAddr]
  rfl

/-- Walks below the first four entries of the new PDPT are walks of the base. -/
theorem FreshPages.walk_pdpt (hfresh : FreshPages allocatePages baseCr3 memory)
    (htable : IsTable memory 3 baseCr3 2 (address (memory baseCr3)))
    {virtual : UInt64} (hlow : tableIndex 2 virtual < 4) (permissions : Permissions) :
    walk (createMinimalPaging allocatePages baseCr3 memory).2 virtual 2
        (allocatePages 1 2).toNat permissions =
      walk memory virtual 2 (address (memory baseCr3)) permissions := by
  rw [walk_entry (hfresh.pdpt_low hlow htable)]
  refine Eq.trans ?_ (walk_entry rfl).symm
  apply through_congr
  intro hpresent hreserved hleaf
  apply walk_congr
  intro lower table hlower index hindex
  have hchild := htable.trans (IsTable.child rfl hpresent hreserved hleaf)
  exact hfresh.table (hchild.trans hlower) hindex

/-- The root of the walk through the new tables. -/
theorem FreshPages.translate_zero (hfresh : FreshPages allocatePages baseCr3 memory)
    {virtual : UInt64} (hindex : tableIndex 3 virtual = 0) :
    translateAddress (createMinimalPaging allocatePages baseCr3 memory).2
        (createMinimalPaging allocatePages baseCr3 memory).1 virtual =
      through 3 virtual (memory baseCr3) .all
        (walk (createMinimalPaging allocatePages baseCr3 memory).2 virtual 2
          (allocatePages 1 2).toNat (Permissions.all.restrict (memory baseCr3))) := by
  have hroot : (createMinimalPaging allocatePages baseCr3 memory).1 =
      (allocatePages 0 1).toNat := rfl
  have hentry : (createMinimalPaging allocatePages baseCr3 memory).2
      ((allocatePages 0 1).toNat + 8 * tableIndex 3 virtual) =
        setAddr (memory baseCr3) (getShortAddress (allocatePages 1 2)) := by
    rw [hindex, Nat.mul_zero, Nat.add_zero, hfresh.pml4_zero]
  rw [translateAddress, hroot, walk_entry hentry, through_setAddr, restrict_setAddr,
    hfresh.address_pml4]

/-- Below 4 GiB every address is translated as by the base tables. -/
theorem FreshPages.translate_low (hfresh : FreshPages allocatePages baseCr3 memory)
    {virtual : UInt64} (hlow : virtual.toNat < 2 ^ 32) :
    translateAddress (createMinimalPaging allocatePages baseCr3 memory).2
        (createMinimalPaging allocatePages baseCr3 memory).1 virtual =
      translateAddress memory baseCr3 virtual := by
  have hroot : tableIndex 3 virtual = 0 := by
    simp only [tableIndex, pageBits]
    omega
  have hpdpt : tableIndex 2 virtual < 4 := by
    simp only [tableIndex, pageBits]
    omega
  have hentry : memory (baseCr3 + 8 * tableIndex 3 virtual) = memory baseCr3 := by
    rw [hroot, Nat.mul_zero, Nat.add_zero]
  rw [hfresh.translate_zero hroot, translateAddress, walk_entry hentry]
  apply through_congr
  intro hpresent hreserved hleaf
  exact hfresh.walk_pdpt (.child hentry hpresent hreserved hleaf) hpdpt _

/-- At and above 4 GiB nothing is mapped. -/
theorem FreshPages.translate_high (hfresh : FreshPages allocatePages baseCr3 memory)
    {virtual : UInt64} (hcanonical : Canonical virtual) (hhigh : 2 ^ 32 ≤ virtual.toNat) :
    ∃ cause, translateAddress (createMinimalPaging allocatePages baseCr3 memory).2
      (createMinimalPaging allocatePages baseCr3 memory).1 virtual = .fault cause := by
  by_cases hroot : tableIndex 3 virtual = 0
  · have hpdpt : 4 ≤ tableIndex 2 virtual := by
      have hlt := virtual.toNat_lt
      simp only [tableIndex, pageBits] at hroot ⊢
      simp only [Canonical] at hcanonical
      omega
    have hdeeper := hfresh.present_pdpt hpdpt (tableIndex_lt 2 virtual)
    rw [hfresh.translate_zero hroot, walk_entry rfl, through_of_not_present hdeeper]
    exact through_fault rfl
  · have hentry := @present_pml4 allocatePages baseCr3 memory (tableIndex 3 virtual)
      (by omega) (tableIndex_lt 3 virtual)
    exact ⟨.notPresent, through_of_not_present hentry⟩

end

/-- The new tables map what the base maps below 4 GiB and nothing else, and
the base stays as it is. -/
theorem minimalPaging_exact {allocatePages : ℕ → ℕ → UInt64} {baseCr3 : ℕ}
    {memory : PhysicalMemory} (hfresh : FreshPages allocatePages baseCr3 memory) :
    (∀ virtual, Canonical virtual → virtual.toNat < 2 ^ 32 →
      translateAddress (createMinimalPaging allocatePages baseCr3 memory).2
          (createMinimalPaging allocatePages baseCr3 memory).1 virtual =
        translateAddress memory baseCr3 virtual) ∧
      (∀ virtual, Canonical virtual → 2 ^ 32 ≤ virtual.toNat →
        ∃ cause, translateAddress (createMinimalPaging allocatePages baseCr3 memory).2
          (createMinimalPaging allocatePages baseCr3 memory).1 virtual = .fault cause) ∧
      ∀ below table, IsTable memory 3 baseCr3 below table → ∀ index < 512,
        (createMinimalPaging allocatePages baseCr3 memory).2 (table + 8 * index) =
          memory (table + 8 * index) :=
  ⟨fun _ _ hlow => hfresh.translate_low hlow,
    fun _ hcanonical hhigh => hfresh.translate_high hcanonical hhigh,
    fun _ _ htable _ hindex => hfresh.table htable hindex⟩

/-- A page of each size below 4 GiB, and a second entry in the PML4. -/
def sampleTables : PhysicalMemory := fun address =>
  if address = 0x1000 then 0x2003
  else if address = 0x1008 then 0x2003
  else if address = 0x2000 then 0x83
  else if address = 0x2008 then 0x3003
  else if address = 0x3000 then 0x4003
  else if address = 0x3008 then 0x200083
  else if address = 0x4028 then 0x5001
  else 0

def sampleAllocation (call _ : ℕ) : UInt64 := 0x1000000 + 0x10000 * UInt64.ofNat call

theorem address_sampleTables (word : ℕ) : address (sampleTables word) < 0x400000 := by
  simp only [sampleTables]
  split_ifs <;> decide

theorem freshPages_sampleTables : FreshPages sampleAllocation 0x1000 sampleTables := by
  have hpml4 : (sampleAllocation 0 1).toNat = 0x1000000 := rfl
  have hpdpt : (sampleAllocation 1 2).toNat = 0x1010000 := rfl
  have hpd : (sampleAllocation 2 2).toNat = 0x1020000 := rfl
  constructor
  case tables =>
    intro below table htable
    have hlow : table < 0x400000 := by
      cases htable with
      | root => decide
      | next => exact address_sampleTables _
    simp only [Apart]
    omega
  case pdptAligned => omega
  case pdptBelow => omega
  all_goals
    simp only [Apart]
    omega

theorem minimalPaging_exact_sampleTables :
    translateAddress (createMinimalPaging sampleAllocation 0x1000 sampleTables).2
        (createMinimalPaging sampleAllocation 0x1000 sampleTables).1 0x40005123 =
      .page 0x5123 ⟨false, false, true⟩ := by
  have hexact := minimalPaging_exact freshPages_sampleTables
  rw [hexact.1 0x40005123 (.inl (by decide)) (by decide)]
  rfl

end AngryUefi.System
