import AngryUefi.Handlers.Kept
import AngryUefi.Lib.Transition

/-!
# The slots over a whole run

Three handlers write the slots.  Each slot must be empty or no longer than the
memory allocated for it, each store must stay inside that memory, and what reads
or flips an update must stay inside its length; what decides this are the sizes
that the client sends.
-/

namespace AngryUefi

open AngryUefi.Bytes AngryUefi.Programs AngryUefi.Transition

/-- `AllocatePages` succeeds. -/
def Firmware.Allocates (firmware : Firmware) : Prop :=
  ∀ number pages, firmware.allocatePages number pages ≠ none

/-- An empty slot has length zero, any other one at most the length of its
memory. -/
def Container.Safe (container : Container) : Prop :=
  (container.address = none ∧ container.length = 0) ∨
    (container.address ≠ none ∧ container.length.toNat ≤ container.allocated)

def SlotWrite.Inside (write : SlotWrite) : Prop := write.start + write.count ≤ write.allocated

namespace Handlers

/-- The size that a message wants to store in a slot that exists is at most that
of the slot's memory. -/
def SlotTable.SizeFits (table : SlotTable) (payload : Memory) (payloadLength : UInt64) : Prop :=
  8 ≤ payloadLength → payload.u32 0 ≤ table.count - 1 →
    (payload.u32 1).toNat ≤ table.allocSize

/-- That size consists of whole groups of eight bytes. -/
def SlotTable.SizeGrouped (table : SlotTable) (payload : Memory) (payloadLength : UInt64) :
    Prop :=
  8 ≤ payloadLength → payload.u32 0 ≤ table.count - 1 → (payload.u32 1).toNat % 8 = 0

/-! ## What leaves the slots alone -/

structure KeepsSlots (s t : Server) : Prop where
  ucodes : t.ucodes = s.ucodes
  machineCodes : t.machineCodes = s.machineCodes
  slotWrites : t.slotWrites = s.slotWrites

instance : IsPreorder Server KeepsSlots where
  refl _ := ⟨rfl, rfl, rfl⟩
  trans _ _ _ hleft hright :=
    ⟨hright.ucodes.trans hleft.ucodes, hright.machineCodes.trans hleft.machineCodes,
      hright.slotWrites.trans hleft.slotWrites⟩

theorem Quiet.keepsSlots {s t : Server} (hquiet : Quiet s t) : KeepsSlots s t :=
  ⟨hquiet.ucodes, hquiet.machineCodes, hquiet.slotWrites⟩

theorem KeepsSlots.slots {s t : Server} (hkeeps : KeepsSlots s t) (table : SlotTable) :
    table.slots t = table.slots s := by
  cases table with
  | ucodes => exact hkeeps.ucodes
  | machineCodes => exact hkeeps.machineCodes

section Keeps

variable {firmware : Firmware}

theorem keepsSlots_quiet {Result : Type} {program : Handler Result}
    (hquiet : Guarantees firmware Quiet program) : Guarantees firmware KeepsSlots program :=
  hquiet.mono fun _ _ => Quiet.keepsSlots

theorem keepsSlots_record (event : Event) : Guarantees firmware KeepsSlots (record event) :=
  Guarantees.modify fun _ => ⟨rfl, rfl, rfl⟩

theorem keepsSlots_constructMessage (bufferCapacity : UInt64) (messageType : UInt32)
    (payload : Memory) (payloadLength : UInt64) (lastMessage : Bool) :
    Guarantees firmware KeepsSlots
      (constructMessage bufferCapacity messageType payload payloadLength lastMessage) := by
  simp only [constructMessage]
  split
  · exact (keepsSlots_record _).bind fun _ => Guarantees.pure _
  · exact (Guarantees.modify fun _ => ⟨rfl, rfl, rfl⟩).bind fun _ =>
      (keepsSlots_record _).bind fun _ => Guarantees.pure _

theorem keepsSlots_sendMessage (messageSize : UInt64) :
    Guarantees firmware KeepsSlots (sendMessage messageSize) := by
  refine (keepsSlots_quiet quiet_ask).bind fun _ => Guarantees.read.bind fun _ =>
    Guarantees.get.bind fun _ => ?_
  dsimp only
  split
  · exact Guarantees.pure _
  split
  · exact Guarantees.pure _
  · refine (keepsSlots_record _).bind fun _ => ?_
    split
    · exact Guarantees.pure _
    · exact Guarantees.pure _

theorem keepsSlots_respond {report : String → EfiStatus → Handler Unit}
    (hreport : Reports report) (messageType : MessageType) (payload : Memory)
    (payloadLength messageSize : UInt64) (lastMessage : Bool) :
    Guarantees firmware KeepsSlots
      (respond report messageType payload payloadLength messageSize lastMessage) := by
  have hreported : ∀ text status, Guarantees firmware KeepsSlots (report text status) :=
    fun _ _ => keepsSlots_quiet (quiet_of_reports hreport _ _)
  refine (keepsSlots_constructMessage _ _ _ _ _).bind fun status => ?_
  split
  · exact (hreported _ _).bind fun _ => Guarantees.pure _
  refine (keepsSlots_sendMessage _).bind fun status => ?_
  split
  · exact (hreported _ _).bind fun _ => Guarantees.pure _
  · exact Guarantees.pure _

theorem sending_keepsSlots : Sending firmware KeepsSlots where
  ask := keepsSlots_quiet quiet_ask
  formatPrint _ _ := keepsSlots_quiet (quiet_formatPrint _ _)
  copyToPayload _ _ := keepsSlots_quiet (quiet_copyToPayload _ _)
  respond _ _ _ _ _ _ hreport _ := keepsSlots_respond hreport _ _ _ _ _

end Keeps

/-! ## The invariant -/

/-- Slots below this number exist in both tables. -/
def slotCount : ℕ := 10

/-- The readers of an update and `flip_bit` go no further than the length that
they are given.  `handle_apply_ucode` and `prepare_ucode_update` read in the same
loop. -/
structure BoundedBy (length : UInt64) : Prop where
  prefetch : prefetchEnd length.toNat ≤ length.toNat
  flip : ∀ firmware slot position s t,
    flipBit slot length position firmware s = some ((), t) →
      ∃ writes, t.slotWrites = s.slotWrites ++ writes ∧
        ∀ write ∈ writes, write.start + write.count ≤ length.toNat

/-- What is expected of the slots after every message. -/
structure SlotsSafe (s : Server) : Prop where
  slots : ∀ table : SlotTable, ∀ slot < slotCount, (table.slots s slot).Safe
  accesses : ∀ slot < slotCount, BoundedBy (s.ucodes slot).length
  writes : ∀ write ∈ s.slotWrites, write.Inside

/-- The slot has its memory, and uses no more of it than there is. -/
structure Holding (table : SlotTable) (container : Container) : Prop where
  address : container.address ≠ none
  allocated : container.allocated = table.allocSize
  length : container.length.toNat ≤ table.allocSize

/-- Every slot is empty or holding; every store was inside. -/
structure SlotInvariant (s : Server) : Prop where
  slots : ∀ table : SlotTable, ∀ slot < slotCount,
    ((table.slots s slot).address = none ∧ (table.slots s slot).length = 0) ∨
      Holding table (table.slots s slot)
  writes : ∀ write ∈ s.slotWrites, write.Inside

theorem SlotInvariant.safe {s : Server} (hinv : SlotInvariant s) (table : SlotTable) {slot : ℕ}
    (hslot : slot < slotCount) : (table.slots s slot).Safe := by
  rcases hinv.slots table slot hslot with hempty | hholding
  · exact .inl hempty
  · exact .inr ⟨hholding.address, by rw [hholding.allocated]; exact hholding.length⟩

theorem SlotInvariant.holding {s : Server} (hinv : SlotInvariant s) {table : SlotTable}
    {slot : ℕ} (hslot : slot < slotCount) (haddress : (table.slots s slot).address ≠ none) :
    Holding table (table.slots s slot) :=
  (hinv.slots table slot hslot).resolve_left fun hempty => haddress hempty.1

theorem SlotInvariant.keepsSlots {s t : Server} (hinv : SlotInvariant s)
    (hkeeps : KeepsSlots s t) : SlotInvariant t := by
  constructor
  · intro table
    rw [hkeeps.slots table]
    exact hinv.slots table
  · rw [hkeeps.slotWrites]
    exact hinv.writes

theorem slots_update (table other : SlotTable) (slot index : ℕ)
    (change : Container → Container) (s : Server) :
    other.slots (table.update slot change s) index =
      if other = table ∧ index = slot then change (table.slots s slot)
      else other.slots s index := by
  cases table <;> cases other <;>
    simp [SlotTable.slots, SlotTable.update, Function.update_apply]

@[simp]
theorem slotWrites_update (table : SlotTable) (slot : ℕ) (change : Container → Container)
    (s : Server) : (table.update slot change s).slotWrites = s.slotWrites := by
  cases table <;> rfl

/-- A change that leaves a slot holding keeps the invariant. -/
theorem SlotInvariant.update_of_holding {s : Server} (hinv : SlotInvariant s)
    {table : SlotTable} (slot : ℕ) (change : Container → Container)
    (hholding : Holding table (change (table.slots s slot))) :
    SlotInvariant (table.update slot change s) := by
  constructor
  · intro other index hindex
    rw [slots_update]
    split
    · rename_i hsame
      rw [hsame.1]
      exact .inr hholding
    · exact hinv.slots other index hindex
  · rw [slotWrites_update]
    exact hinv.writes

/-- A store inside the memory of a slot keeps the invariant. -/
theorem SlotInvariant.write {s : Server} (hinv : SlotInvariant s) {table : SlotTable}
    {slot start : ℕ} {bytes : List UInt8} (hholding : Holding table (table.slots s slot))
    (hinside : start + bytes.length ≤ table.allocSize) :
    SlotInvariant { table.update slot (fun container =>
        { container with contents := container.contents.write start bytes }) s with
      slotWrites := s.slotWrites ++
        [⟨start, bytes.length, (table.slots s slot).allocated⟩] } := by
  have hupdated : SlotInvariant (table.update slot (fun container =>
      { container with contents := container.contents.write start bytes }) s) :=
    hinv.update_of_holding slot _ ⟨hholding.address, hholding.allocated, hholding.length⟩
  refine ⟨?_, ?_⟩
  · intro other index hindex
    have hslot := hupdated.slots other index hindex
    cases other <;> exact hslot
  · intro write hwrite
    rcases List.mem_append.mp hwrite with hearlier | hlast
    · exact hinv.writes write hearlier
    · rw [List.mem_singleton.mp hlast]
      change start + bytes.length ≤ (table.slots s slot).allocated
      rw [hholding.allocated]
      exact hinside

/-! ## The three handlers -/

theorem slot_lt_of_range (table : SlotTable) {slot : UInt32}
    (hrange : ¬ slot > table.count - 1) : slot.toNat < slotCount := by
  have hcount := slot_lt_count table hrange
  cases table with
  | ucodes => exact hcount
  | machineCodes => exact hcount

section Steps

variable {firmware : Firmware} {s t : Server} {table : SlotTable} {slot : ℕ}

theorem slotOf_keepsSlots {container : Container}
    (hrun : slotOf table slot firmware s = some (container, t)) :
    container = table.slots s slot ∧ KeepsSlots s t := by
  cases hrun
  exact ⟨by cases table <;> rfl, rfl, rfl, rfl⟩

theorem setLength_keepsSlots {length : UInt64}
    (hrun : setLength table slot length firmware s = some ((), t)) :
    KeepsSlots (table.update slot (fun container => { container with length }) s) t := by
  cases hrun
  cases table <;> exact ⟨rfl, rfl, rfl⟩

theorem writeSlot_keepsSlots {start : ℕ} {bytes : List UInt8}
    (hrun : writeSlot table slot start bytes firmware s = some ((), t)) :
    KeepsSlots { table.update slot (fun container =>
        { container with contents := container.contents.write start bytes }) s with
      slotWrites := s.slotWrites ++
        [⟨start, bytes.length, (table.slots s slot).allocated⟩] } t := by
  cases hrun
  cases table <;> exact ⟨rfl, rfl, rfl⟩

/-- A slot is given its memory. -/
theorem allocatePages_allocates (hallocates : firmware.Allocates) {allocated : Bool}
    (hrun : allocatePages table slot firmware s = some (allocated, t)) :
    allocated = true ∧ ∃ address contents,
      KeepsSlots (table.update slot (fun container =>
        { container with
          address := some address, contents, allocated := table.allocSize }) s) t := by
  obtain ⟨number, middle, hask, hrest⟩ := bind_eq_some_iff.mp hrun
  cases hask
  obtain ⟨_, _, hread, hrest⟩ := bind_eq_some_iff.mp hrest
  cases hread
  obtain ⟨_, _, haccess, hmatch⟩ := bind_eq_some_iff.mp hrest
  cases haccess
  cases hfresh : firmware.allocatePages s.clock (table.allocSize / 4096) with
  | none => exact absurd hfresh (hallocates _ _)
  | some memory =>
      simp only [hfresh] at hmatch
      cases hmatch
      refine ⟨rfl, memory.1, memory.2, ?_⟩
      cases table <;> exact ⟨rfl, rfl, rfl⟩

/-- What `storeInSlot` does to a slot that has its memory. -/
structure Stored (table : SlotTable) (slot : ℕ) (size : UInt32) (s t : Server) : Prop where
  target : (table.slots t slot).address ≠ none ∧
    (table.slots t slot).allocated = table.allocSize ∧
    (table.slots t slot).length = size.toUInt64
  others : ∀ other index, ¬ (other = table ∧ index = slot) →
    SlotTable.slots other t index = other.slots s index
  writes : t.slotWrites = s.slotWrites ++ [⟨0, size.toNat, table.allocSize⟩]

theorem Stored.invariant {size : UInt32} (hstored : Stored table slot size s t)
    (hinv : SlotInvariant s) (hsize : size.toNat ≤ table.allocSize) : SlotInvariant t := by
  constructor
  · intro other index hindex
    by_cases hsame : other = table ∧ index = slot
    · obtain ⟨rfl, rfl⟩ := hsame
      exact .inr ⟨hstored.target.1, hstored.target.2.1, by
        rw [hstored.target.2.2, UInt32.toNat_toUInt64]
        exact hsize⟩
    · rw [hstored.others other index hsame]
      exact hinv.slots other index hindex
  · intro write hwrite
    rw [hstored.writes] at hwrite
    rcases List.mem_append.mp hwrite with hearlier | hlast
    · exact hinv.writes write hearlier
    · rw [List.mem_singleton.mp hlast]
      simpa [SlotWrite.Inside] using hsize

theorem Stored.not_slotsSafe {size : UInt32} (hstored : Stored table slot size s t)
    (hslot : slot < slotCount) (hsize : ¬ size.toNat ≤ table.allocSize) : ¬ SlotsSafe t := by
  intro hsafe
  rcases hsafe.slots table slot hslot with hempty | hholding
  · exact hstored.target.1 hempty.1
  · rw [hstored.target.2.2, hstored.target.2.1, UInt32.toNat_toUInt64] at hholding
    exact hsize hholding.2

theorem slots_setLength {length : UInt64}
    (hrun : setLength table slot length firmware s = some ((), t)) (other : SlotTable)
    (index : ℕ) :
    other.slots t index =
      if other = table ∧ index = slot then { table.slots s slot with length }
      else other.slots s index := by
  rw [(setLength_keepsSlots hrun).slots other, slots_update]

theorem slots_writeSlot {start : ℕ} {bytes : List UInt8}
    (hrun : writeSlot table slot start bytes firmware s = some ((), t)) (other : SlotTable)
    (index : ℕ) :
    other.slots t index =
      if other = table ∧ index = slot then
        { table.slots s slot with contents := (table.slots s slot).contents.write start bytes }
      else other.slots s index := by
  have hupdated := slots_update table other slot index (fun container =>
    { container with contents := container.contents.write start bytes }) s
  rw [(writeSlot_keepsSlots hrun).slots other, ← hupdated]
  cases other with
  | ucodes => rfl
  | machineCodes => rfl

theorem slots_storeInSlot {payload : Memory} {size : UInt32} {status : EfiStatus}
    (hrun : storeInSlot table slot payload size firmware s = some (status, t))
    (other : SlotTable) (index : ℕ) :
    other.slots t index =
      if other = table ∧ index = slot then
        { table.slots s slot with
          length := size.toUInt64
          contents := (table.slots s slot).contents.write 0 (payload.read 8 size.toNat) }
      else other.slots s index := by
  obtain ⟨_, first, hlength, hrest⟩ := bind_eq_some_iff.mp hrun
  obtain ⟨_, second, hwrite, hsucceed⟩ := bind_eq_some_iff.mp hrest
  have hself := slots_setLength hlength table slot
  rw [if_pos ⟨rfl, rfl⟩] at hself
  rw [(sending_keepsSlots.succeed _ _ _ hsucceed).slots other, slots_writeSlot hwrite, hself,
    slots_setLength hlength other index]
  split
  · rfl
  · rfl

theorem stored_storeInSlot {payload : Memory} {size : UInt32} {status : EfiStatus}
    (haddress : (table.slots s slot).address ≠ none)
    (hallocated : (table.slots s slot).allocated = table.allocSize)
    (hrun : storeInSlot table slot payload size firmware s = some (status, t)) :
    Stored table slot size s t := by
  constructor
  · rw [slots_storeInSlot hrun, if_pos ⟨rfl, rfl⟩]
    exact ⟨haddress, hallocated, rfl⟩
  · intro other index hother
    rw [slots_storeInSlot hrun, if_neg hother]
  · obtain ⟨_, first, hlength, hrest⟩ := bind_eq_some_iff.mp hrun
    obtain ⟨_, second, hwrite, hsucceed⟩ := bind_eq_some_iff.mp hrest
    have hself := slots_setLength hlength table slot
    rw [if_pos ⟨rfl, rfl⟩] at hself
    rw [(sending_keepsSlots.succeed _ _ _ hsucceed).slotWrites,
      (writeSlot_keepsSlots hwrite).slotWrites, hself, (setLength_keepsSlots hlength).slotWrites,
      slotWrites_update]
    simp [hallocated]

/-- The common end of the two storing handlers: the slot gets its memory if it
has none. -/
theorem stored_of_store (hallocates : firmware.Allocates) (hinv : SlotInvariant s)
    (hslot : slot < slotCount) {payload : Memory} {size : UInt32} {status : EfiStatus}
    {failed : Handler EfiStatus}
    (hrun : (do
      let container ← slotOf table slot
      if container.address.isNone then
        let allocated ← allocatePages table slot
        if allocated then storeInSlot table slot payload size else failed
      else storeInSlot table slot payload size : Handler EfiStatus) firmware s =
        some (status, t)) : Stored table slot size s t := by
  obtain ⟨container, middle, hslotOf, hrest⟩ := bind_eq_some_iff.mp hrun
  obtain ⟨rfl, hlooked⟩ := slotOf_keepsSlots hslotOf
  split at hrest
  · obtain ⟨allocated, after, hallocate, hstore⟩ := bind_eq_some_iff.mp hrest
    obtain ⟨rfl, address, contents, hkeeps⟩ := allocatePages_allocates hallocates hallocate
    rw [if_pos rfl] at hstore
    have hslots : ∀ other index, SlotTable.slots other after index = _ := fun other index => by
      rw [hkeeps.slots other, slots_update]
    have hself := hslots table slot
    rw [if_pos ⟨rfl, rfl⟩] at hself
    have hstored := stored_storeInSlot (by rw [hself]; nofun) (by rw [hself]) hstore
    refine ⟨hstored.target, fun other index hother => ?_, ?_⟩
    · rw [hstored.others other index hother, hslots, if_neg hother, hlooked.slots other]
    · rw [hstored.writes, hkeeps.slotWrites, slotWrites_update, hlooked.slotWrites]
  · rename_i haddress
    have hholding := hinv.holding hslot (by simpa using haddress)
    rw [← hlooked.slots table] at hholding
    have hstored := stored_storeInSlot hholding.address hholding.allocated hrest
    refine ⟨hstored.target, fun other index hother => ?_, ?_⟩
    · rw [hstored.others other index hother, hlooked.slots other]
    · rw [hstored.writes, hlooked.slotWrites]

/-- A storing handler leaves the slots alone, or it stores a size. -/
theorem handleSend_cases (hallocates : firmware.Allocates) (hinv : SlotInvariant s)
    {tooShort : UInt64 → Handler EfiStatus} {invalidSlot : UInt32 → Handler EfiStatus}
    {noMemory : Handler EfiStatus} {payload : Memory} {payloadLength : UInt64}
    {status : EfiStatus}
    (htooShort : ∀ length, Guarantees firmware KeepsSlots (tooShort length))
    (hinvalidSlot : ∀ slot, Guarantees firmware KeepsSlots (invalidSlot slot))
    (hrun : handleSend table tooShort invalidSlot noMemory payload payloadLength firmware s =
      some (status, t)) :
    (¬ (8 ≤ payloadLength ∧ payload.u32 0 ≤ table.count - 1) ∧ KeepsSlots s t) ∨
      ((8 ≤ payloadLength ∧ payload.u32 0 ≤ table.count - 1) ∧
        (payload.u32 0).toNat < slotCount ∧
        Stored table (payload.u32 0).toNat (payload.u32 1) s t) := by
  simp only [Handlers.handleSend] at hrun
  split at hrun
  · rename_i hshort
    exact .inl ⟨fun hstores => UInt64.not_lt.mpr hstores.1 hshort, htooShort _ _ _ _ hrun⟩
  split at hrun
  · rename_i hrange
    exact .inl ⟨fun hstores => UInt32.not_lt.mpr hstores.2 hrange, hinvalidSlot _ _ _ _ hrun⟩
  rename_i hlong hrange
  have hslot := slot_lt_of_range table hrange
  exact .inr ⟨⟨UInt64.not_lt.mp hlong, UInt32.not_lt.mp hrange⟩, hslot,
    stored_of_store hallocates hinv hslot hrun⟩

/-- A storing handler keeps the invariant if the size that it stores fits. -/
theorem SlotInvariant.handleSend (hallocates : firmware.Allocates) (hinv : SlotInvariant s)
    {tooShort : UInt64 → Handler EfiStatus} {invalidSlot : UInt32 → Handler EfiStatus}
    {noMemory : Handler EfiStatus} {payload : Memory} {payloadLength : UInt64}
    {status : EfiStatus}
    (htooShort : ∀ length, Guarantees firmware KeepsSlots (tooShort length))
    (hinvalidSlot : ∀ slot, Guarantees firmware KeepsSlots (invalidSlot slot))
    (hfits : table.SizeFits payload payloadLength)
    (hrun : Handlers.handleSend table tooShort invalidSlot noMemory payload payloadLength
      firmware s = some (status, t)) : SlotInvariant t := by
  rcases handleSend_cases hallocates hinv htooShort hinvalidSlot hrun with
    ⟨-, hkeeps⟩ | ⟨hstores, -, hstored⟩
  · exact hinv.keepsSlots hkeeps
  · exact hstored.invariant hinv (hfits hstores.1 hstores.2)

/-- The invariant while a microcode slot has its memory. -/
structure UcodeReady (slot : ℕ) (s : Server) : Prop where
  slot_lt : slot < slotCount
  invariant : SlotInvariant s
  address : (s.ucodes slot).address ≠ none

theorem UcodeReady.holding (hready : UcodeReady slot s) : Holding .ucodes (s.ucodes slot) :=
  (hready.invariant.slots .ucodes slot hready.slot_lt).resolve_left fun hempty =>
    hready.address hempty.1

theorem UcodeReady.keepsSlots (hready : UcodeReady slot s) (hkeeps : KeepsSlots s t) :
    UcodeReady slot t :=
  ⟨hready.slot_lt, hready.invariant.keepsSlots hkeeps, by
    rw [hkeeps.ucodes]
    exact hready.address⟩

theorem UcodeReady.write (hready : UcodeReady slot s) {start : ℕ} {bytes : List UInt8}
    (hinside : start + bytes.length ≤ ucodeAllocSize)
    (hrun : writeSlot .ucodes slot start bytes firmware s = some ((), t)) :
    UcodeReady slot t := by
  refine UcodeReady.keepsSlots ?_ (writeSlot_keepsSlots hrun)
  refine ⟨hready.slot_lt, hready.invariant.write hready.holding hinside, ?_⟩
  simpa [SlotTable.update] using hready.address

theorem UcodeReady.setLength (hready : UcodeReady slot s) {length : UInt64}
    (hlength : length.toNat ≤ ucodeAllocSize)
    (hrun : setLength .ucodes slot length firmware s = some ((), t)) : UcodeReady slot t := by
  have hholding := hready.holding
  have hchanged : Holding .ucodes { s.ucodes slot with length } :=
    ⟨hholding.address, hholding.allocated, hlength⟩
  refine UcodeReady.keepsSlots ?_ (setLength_keepsSlots hrun)
  refine ⟨hready.slot_lt, hready.invariant.update_of_holding slot (fun container =>
    { container with length }) hchanged, ?_⟩
  simpa [SlotTable.update] using hready.address

/-- A slot that is given its memory has length zero until it is filled. -/
theorem ucodeReady_allocatePages (hallocates : firmware.Allocates) (hslot : slot < slotCount)
    (hinv : SlotInvariant s) (haddress : (s.ucodes slot).address = none) {allocated : Bool}
    (hrun : allocatePages .ucodes slot firmware s = some (allocated, t)) :
    UcodeReady slot t := by
  obtain ⟨-, address, contents, hkeeps⟩ := allocatePages_allocates hallocates hrun
  have hempty : (s.ucodes slot).length = 0 := by
    rcases hinv.slots .ucodes slot hslot with hempty | hholding
    · exact hempty.2
    · exact absurd haddress hholding.address
  have hholding : Holding .ucodes
      { s.ucodes slot with
        address := some address, contents, allocated := SlotTable.ucodes.allocSize } :=
    ⟨nofun, rfl, by simp [hempty]⟩
  have hafter := hinv.update_of_holding slot (fun container =>
    { container with
      address := some address, contents, allocated := SlotTable.ucodes.allocSize }) hholding
  refine ⟨hslot, hafter.keepsSlots hkeeps, ?_⟩
  rw [hkeeps.ucodes]
  simp [SlotTable.update]

/-- The length that any microcode slot has is at most that of its memory. -/
theorem SlotInvariant.length_le (hinv : SlotInvariant s) (hslot : slot < slotCount) :
    (s.ucodes slot).length.toNat ≤ ucodeAllocSize := by
  rcases hinv.slots .ucodes slot hslot with hempty | hholding
  · have hlength : (s.ucodes slot).length = 0 := hempty.2
    simp [hlength]
  · exact hholding.length

/-- `flip_bit` stores one byte below the length it is given, or none. -/
theorem flipBit_cases {ucodeLength : UInt64} {position : UInt32}
    (hrun : flipBit slot ucodeLength position firmware s = some ((), t)) :
    t = s ∨ ∃ byte middle, KeepsSlots s middle ∧
      (position / 8).toNat < ucodeLength.toNat ∧
        writeSlot .ucodes slot (position / 8).toNat [byte] firmware middle = some ((), t) := by
  simp only [Handlers.flipBit] at hrun
  split at hrun
  · cases hrun
    exact .inl rfl
  · rename_i hposition
    obtain ⟨_, middle, hslotOf, hwrite⟩ := bind_eq_some_iff.mp hrun
    refine .inr ⟨_, middle, (slotOf_keepsSlots hslotOf).2, ?_, hwrite⟩
    rw [ge_iff_le, UInt64.le_iff_toNat_le, UInt32.toNat_toUInt64] at hposition
    omega

theorem UcodeReady.flipBit (hready : UcodeReady 1 s) {ucodeLength : UInt64}
    (hlength : ucodeLength.toNat ≤ ucodeAllocSize) {position : UInt32}
    (hrun : flipBit 1 ucodeLength position firmware s = some ((), t)) : UcodeReady 1 t := by
  rcases flipBit_cases hrun with rfl | ⟨byte, middle, hkeeps, hless, hwrite⟩
  · exact hready
  · refine (hready.keepsSlots hkeeps).write ?_ hwrite
    simp only [List.length_cons, List.length_nil]
    omega

theorem UcodeReady.flipBits (hslot : slot < slotCount) {payload : Memory}
    {index remaining : ℕ} (hready : UcodeReady 1 s)
    (hrun : flipBits payload slot index remaining firmware s = some ((), t)) :
    UcodeReady 1 t := by
  induction remaining generalizing index s with
  | zero =>
      cases hrun
      exact hready
  | succ remaining ih =>
      obtain ⟨_, _, hslotOf, hrest⟩ := bind_eq_some_iff.mp hrun
      obtain ⟨rfl, hlooked⟩ := slotOf_keepsSlots hslotOf
      obtain ⟨_, _, hflip, hrest⟩ := bind_eq_some_iff.mp hrest
      exact ih ((hready.keepsSlots hlooked).flipBit (hready.invariant.length_le hslot) hflip)
        hrest

/-- Slot 1 gets its memory, and then a copy of what the target slot holds. -/
theorem ucodeReady_copyToSlot1 (hallocates : firmware.Allocates) (hslot : slot < slotCount)
    (hinv : SlotInvariant s) (hrun : copyToSlot1 slot firmware s = some ((), t)) :
    UcodeReady 1 t := by
  have hcopy : ∀ {middle : Server}, UcodeReady 1 middle → (do
      let source ← slotOf .ucodes slot
      writeSlot .ucodes 1 0 (source.contents.read 0 source.length.toNat)
      setLength .ucodes 1 source.length : Handler Unit) firmware middle = some ((), t) →
        UcodeReady 1 t := by
    intro middle hready hrest
    obtain ⟨_, _, hslotOf, hrest⟩ := bind_eq_some_iff.mp hrest
    obtain ⟨rfl, hlooked⟩ := slotOf_keepsSlots hslotOf
    obtain ⟨_, _, hwrite, hlength⟩ := bind_eq_some_iff.mp hrest
    have hbound := hready.invariant.length_le hslot
    exact ((hready.keepsSlots hlooked).write (by simpa [SlotTable.slots] using hbound)
      hwrite).setLength hbound hlength
  obtain ⟨_, _, hslotOf, hrest⟩ := bind_eq_some_iff.mp hrun
  obtain ⟨rfl, hlooked⟩ := slotOf_keepsSlots hslotOf
  dsimp only at hrest
  split at hrest
  · rename_i haddress
    obtain ⟨_, after, hallocate, hrest⟩ := bind_eq_some_iff.mp hrest
    obtain ⟨_, _, hlength, hrest⟩ := bind_eq_some_iff.mp hrest
    have hready := ucodeReady_allocatePages hallocates (by decide) (hinv.keepsSlots hlooked)
      (by simpa [SlotTable.slots, hlooked.ucodes] using haddress) hallocate
    exact hcopy (hready.setLength (by decide) hlength) hrest
  · rename_i haddress
    have hready : UcodeReady 1 s :=
      ⟨by decide, hinv, by simpa [SlotTable.slots] using haddress⟩
    exact hcopy (hready.keepsSlots hlooked) hrest

theorem SlotInvariant.handleFlipBits (hallocates : firmware.Allocates)
    (hinv : SlotInvariant s) {payload : Memory} {payloadLength : UInt64} {status : EfiStatus}
    (hrun : handleFlipBits payload payloadLength firmware s = some (status, t)) :
    SlotInvariant t := by
  simp only [Handlers.handleFlipBits] at hrun
  split at hrun
  · exact hinv.keepsSlots (sending_keepsSlots.reject _ _ _ _ _ _ hrun)
  split at hrun
  · exact hinv.keepsSlots (sending_keepsSlots.reject _ _ _ _ _ _ hrun)
  rename_i hrange
  have hslot := slot_lt_of_range .ucodes hrange
  obtain ⟨_, _, hslotOf, hrest⟩ := bind_eq_some_iff.mp hrun
  obtain ⟨rfl, hlooked⟩ := slotOf_keepsSlots hslotOf
  split at hrest
  · exact (hinv.keepsSlots hlooked).keepsSlots (sending_keepsSlots.reject _ _ _ _ _ _ hrest)
  rename_i haddress
  have hflips : ∀ {middle : Server}, UcodeReady 1 middle → (do
      flipBits payload (payload.u32 0).toNat 0 (payload.u32 1).toNat
      succeed : Handler EfiStatus) firmware middle = some (status, t) → SlotInvariant t := by
    intro middle hready hrest
    obtain ⟨_, after, hflips, hsucceed⟩ := bind_eq_some_iff.mp hrest
    exact (hready.flipBits hslot hflips).invariant.keepsSlots
      (sending_keepsSlots.succeed _ _ _ hsucceed)
  split at hrest
  · obtain ⟨_, after, hcopy, hrest⟩ := bind_eq_some_iff.mp hrest
    exact hflips (ucodeReady_copyToSlot1 hallocates hslot (hinv.keepsSlots hlooked) hcopy) hrest
  · rename_i hself
    have hone : payload.u32 0 = 1 := not_not.mp hself
    rw [hone] at haddress
    have hready : UcodeReady 1 s :=
      ⟨by decide, hinv, by simpa [SlotTable.slots] using haddress⟩
    exact hflips (hready.keepsSlots hlooked) hrest

/-! ## Whole groups of bytes -/

theorem prefetchEnd_le_iff (length : ℕ) : prefetchEnd length ≤ length ↔ length % 8 = 0 := by
  rw [prefetchEnd]
  omega

/-- The readers stay inside a length of whole groups only, `flip_bit` inside any
length. -/
theorem boundedBy_iff (length : UInt64) : BoundedBy length ↔ length.toNat % 8 = 0 := by
  rw [← prefetchEnd_le_iff]
  refine ⟨BoundedBy.prefetch, fun hprefetch => ⟨hprefetch, ?_⟩⟩
  intro firmware slot position s t hrun
  rcases flipBit_cases hrun with rfl | ⟨byte, middle, hkeeps, hless, hwrite⟩
  · exact ⟨[], (List.append_nil _).symm, fun write hwrite => absurd hwrite List.not_mem_nil⟩
  · refine ⟨[⟨(position / 8).toNat, 1, (SlotTable.ucodes.slots middle slot).allocated⟩], ?_, ?_⟩
    · rw [(writeSlot_keepsSlots hwrite).slotWrites, ← hkeeps.slotWrites]
      rfl
    · rw [List.forall_mem_singleton]
      exact hless

/-- Every update consists of whole groups of eight bytes. -/
def Grouped (s : Server) : Prop :=
  ∀ slot < slotCount, (s.ucodes slot).length.toNat % 8 = 0

theorem SlotInvariant.slotsSafe (hinv : SlotInvariant s) (hgrouped : Grouped s) : SlotsSafe s where
  slots := fun table _ hslot => hinv.safe table hslot
  accesses := fun slot hslot => (boundedBy_iff _).mpr (hgrouped slot hslot)
  writes := hinv.writes

theorem Grouped.keepsSlots (hgrouped : Grouped s) (hkeeps : KeepsSlots s t) : Grouped t := by
  intro index hindex
  rw [hkeeps.ucodes]
  exact hgrouped index hindex

theorem Grouped.update (hgrouped : Grouped s) {change : Container → Container}
    (hchange : (change (s.ucodes slot)).length.toNat % 8 = 0) :
    Grouped (SlotTable.ucodes.update slot change s) := by
  intro index hindex
  have hslots := slots_update .ucodes .ucodes slot index change s
  change (SlotTable.ucodes.slots _ index).length.toNat % 8 = 0
  rw [hslots]
  split
  · exact hchange
  · exact hgrouped index hindex

theorem Grouped.setLength (hgrouped : Grouped s) {length : UInt64} (hlength : length.toNat % 8 = 0)
    (hrun : setLength .ucodes slot length firmware s = some ((), t)) : Grouped t :=
  Grouped.keepsSlots (hgrouped.update hlength) (setLength_keepsSlots hrun)

theorem Grouped.writeSlot (hgrouped : Grouped s) (hslot : slot < slotCount) {start : ℕ}
    {bytes : List UInt8} (hrun : writeSlot .ucodes slot start bytes firmware s = some ((), t)) :
    Grouped t := by
  have hupdated : Grouped (SlotTable.ucodes.update slot (fun container =>
      { container with contents := container.contents.write start bytes }) s) :=
    hgrouped.update (hgrouped slot hslot)
  intro index hindex
  rw [(writeSlot_keepsSlots hrun).ucodes]
  exact hupdated index hindex

theorem Grouped.allocatePages (hallocates : firmware.Allocates) (hgrouped : Grouped s)
    (hslot : slot < slotCount) {allocated : Bool}
    (hrun : allocatePages .ucodes slot firmware s = some (allocated, t)) : Grouped t := by
  obtain ⟨-, address, contents, hkeeps⟩ := allocatePages_allocates hallocates hrun
  exact Grouped.keepsSlots (hgrouped.update (hgrouped slot hslot)) hkeeps

/-- Of the two tables, only one holds updates. -/
theorem Stored.grouped {size : UInt32} (hstored : Stored table slot size s t)
    (hgrouped : Grouped s) (hsize : table = .ucodes → size.toNat % 8 = 0) : Grouped t := by
  intro index hindex
  by_cases hsame : SlotTable.ucodes = table ∧ index = slot
  · obtain ⟨rfl, rfl⟩ := hsame
    have hlength := hstored.target.2.2
    change (SlotTable.ucodes.slots t index).length.toNat % 8 = 0
    rw [hlength, UInt32.toNat_toUInt64]
    exact hsize rfl
  · have hother := hstored.others .ucodes index hsame
    change (SlotTable.ucodes.slots t index).length.toNat % 8 = 0
    rw [hother]
    exact hgrouped index hindex

theorem Stored.not_slotsSafe_of_ungrouped {size : UInt32} (hstored : Stored .ucodes slot size s t)
    (hslot : slot < slotCount) (hsize : ¬ size.toNat % 8 = 0) : ¬ SlotsSafe t := by
  intro hsafe
  have hlength : (t.ucodes slot).length = size.toUInt64 := hstored.target.2.2
  have hbounded := (boundedBy_iff _).mp (hsafe.accesses slot hslot)
  rw [hlength, UInt32.toNat_toUInt64] at hbounded
  exact hsize hbounded

theorem Grouped.flipBits (hgrouped : Grouped s) {payload : Memory} {index remaining : ℕ}
    (hrun : flipBits payload slot index remaining firmware s = some ((), t)) : Grouped t := by
  induction remaining generalizing index s with
  | zero =>
      cases hrun
      exact hgrouped
  | succ remaining ih =>
      obtain ⟨_, _, hslotOf, hrest⟩ := bind_eq_some_iff.mp hrun
      obtain ⟨rfl, hlooked⟩ := slotOf_keepsSlots hslotOf
      obtain ⟨_, middle, hflip, hrest⟩ := bind_eq_some_iff.mp hrest
      refine ih ?_ hrest
      rcases flipBit_cases hflip with rfl | ⟨byte, before, hkeeps, -, hwrite⟩
      · exact hgrouped.keepsSlots hlooked
      · exact ((hgrouped.keepsSlots hlooked).keepsSlots hkeeps).writeSlot (by decide) hwrite

/-- Slot 1 takes over the length of the target slot. -/
theorem Grouped.copyToSlot1 (hallocates : firmware.Allocates) (hgrouped : Grouped s)
    (hslot : slot < slotCount) (hrun : copyToSlot1 slot firmware s = some ((), t)) :
    Grouped t := by
  have hcopy : ∀ {middle : Server}, Grouped middle → (do
      let source ← slotOf .ucodes slot
      Handlers.writeSlot .ucodes 1 0 (source.contents.read 0 source.length.toNat)
      Handlers.setLength .ucodes 1 source.length : Handler Unit) firmware middle =
        some ((), t) → Grouped t := by
    intro middle hmiddle hrest
    obtain ⟨_, _, hslotOf, hrest⟩ := bind_eq_some_iff.mp hrest
    obtain ⟨rfl, hlooked⟩ := slotOf_keepsSlots hslotOf
    obtain ⟨_, _, hwrite, hlength⟩ := bind_eq_some_iff.mp hrest
    exact ((hmiddle.keepsSlots hlooked).writeSlot (by decide) hwrite).setLength
      (hmiddle slot hslot) hlength
  obtain ⟨_, _, hslotOf, hrest⟩ := bind_eq_some_iff.mp hrun
  obtain ⟨rfl, hlooked⟩ := slotOf_keepsSlots hslotOf
  have hbegun := hgrouped.keepsSlots hlooked
  dsimp only at hrest
  split at hrest
  · obtain ⟨_, _, hallocate, hrest⟩ := bind_eq_some_iff.mp hrest
    obtain ⟨_, _, hlength, hrest⟩ := bind_eq_some_iff.mp hrest
    exact hcopy ((hbegun.allocatePages hallocates (by decide) hallocate).setLength (by decide)
      hlength) hrest
  · exact hcopy hbegun hrest

theorem Grouped.handleFlipBits (hallocates : firmware.Allocates) (hgrouped : Grouped s)
    {payload : Memory} {payloadLength : UInt64} {status : EfiStatus}
    (hrun : handleFlipBits payload payloadLength firmware s = some (status, t)) : Grouped t := by
  simp only [Handlers.handleFlipBits] at hrun
  split at hrun
  · exact hgrouped.keepsSlots (sending_keepsSlots.reject _ _ _ _ _ _ hrun)
  split at hrun
  · exact hgrouped.keepsSlots (sending_keepsSlots.reject _ _ _ _ _ _ hrun)
  rename_i hrange
  have hslot := slot_lt_of_range .ucodes hrange
  obtain ⟨_, _, hslotOf, hrest⟩ := bind_eq_some_iff.mp hrun
  have hbegun := hgrouped.keepsSlots (slotOf_keepsSlots hslotOf).2
  split at hrest
  · exact hbegun.keepsSlots (sending_keepsSlots.reject _ _ _ _ _ _ hrest)
  have hflips : ∀ {middle : Server}, Grouped middle → (do
      Handlers.flipBits payload (payload.u32 0).toNat 0 (payload.u32 1).toNat
      succeed : Handler EfiStatus) firmware middle = some (status, t) → Grouped t := by
    intro middle hmiddle hrest
    obtain ⟨_, _, hflip, hsucceed⟩ := bind_eq_some_iff.mp hrest
    exact (hmiddle.flipBits hflip).keepsSlots (sending_keepsSlots.succeed _ _ _ hsucceed)
  split at hrest
  · obtain ⟨_, _, hcopy, hrest⟩ := bind_eq_some_iff.mp hrest
    exact hflips (hbegun.copyToSlot1 hallocates hslot hcopy) hrest
  · exact hflips hbegun hrest

end Steps

/-! ## Runs -/

/-- The messages that write slots. -/
inductive SlotMessage
  | sendUcode (payload : Memory) (payloadLength : UInt64)
  | flipBits (payload : Memory) (payloadLength : UInt64)
  | sendMachineCode (payload : Memory) (payloadLength : UInt64)

namespace SlotMessage

def handle : SlotMessage → Handler EfiStatus
  | sendUcode payload payloadLength => handleSendUcode payload payloadLength
  | flipBits payload payloadLength => handleFlipBits payload payloadLength
  | sendMachineCode payload payloadLength => handleSendMachineCode payload payloadLength

/-- `handle_message` passes these messages on. -/
theorem dispatch_eq_handle (payload : Memory) (payloadLength : UInt64) :
    dispatch MessageType.sendUcode.code payload payloadLength =
        (sendUcode payload payloadLength).handle ∧
      dispatch MessageType.flipBits.code payload payloadLength =
        (flipBits payload payloadLength).handle ∧
      dispatch MessageType.sendMachineCode.code payload payloadLength =
        (sendMachineCode payload payloadLength).handle := by
  simp only [dispatch, requestOf_code (by decide : MessageType.sendUcode ∈ requestTypes),
    requestOf_code (by decide : MessageType.flipBits ∈ requestTypes),
    requestOf_code (by decide : MessageType.sendMachineCode ∈ requestTypes)]
  exact ⟨rfl, rfl, rfl⟩

/-- A message that stores a size stores one that fits, and one of whole groups
for an update. -/
def SizeFits : SlotMessage → Prop
  | sendUcode payload payloadLength =>
      SlotTable.ucodes.SizeFits payload payloadLength ∧
        SlotTable.ucodes.SizeGrouped payload payloadLength
  | flipBits _ _ => True
  | sendMachineCode payload payloadLength =>
      SlotTable.machineCodes.SizeFits payload payloadLength

end SlotMessage

def slotStep (firmware : Firmware) (message : SlotMessage) (s : Server) : Option Server :=
  (message.handle firmware s).map Prod.snd

/-- Before `init_ucode`: all slots are zero. -/
structure Blank (s : Server) : Prop where
  slots : ∀ (table : SlotTable) (slot : ℕ),
    (table.slots s slot).address = none ∧ (table.slots s slot).length = 0
  writes : s.slotWrites = []

/-- After `init_ucode`. -/
def Initialised (firmware : Firmware) (s : Server) : Prop :=
  ∃ updates myCpuid blank, Blank blank ∧
    ensureUcodeSlot0 updates myCpuid firmware blank = some ((), s)

section Start

variable {firmware : Firmware} {s t : Server}

theorem getUpdateForCpuid_mem {cpuid : UInt32} {entry : UcodeDBEntry}
    (hentry : getUpdateForCpuid cpuid = some entry) : entry ∈ dbEntries := by
  have hfound : ∀ (entries : List UcodeDBEntry) (fallback : Option UcodeDBEntry),
      findUpdate cpuid fallback entries = some entry →
        entry ∈ entries ∨ fallback = some entry := by
    intro entries
    induction entries with
    | nil => exact fun _ hfallback => .inr hfallback
    | cons current entries ih =>
        intro fallback hfind
        simp only [findUpdate] at hfind
        split at hfind
        · rw [Option.some.inj hfind]
          exact .inl (by simp)
        · rcases ih _ hfind with hlater | hfallback
          · exact .inl (by simp [hlater])
          · split at hfallback
            · rw [Option.some.inj hfallback]
              exact .inl (by simp)
            · exact .inr hfallback
  rcases hfound dbEntries none hentry with hmem | hnone
  · exact hmem
  · cases hnone

/-- Every update of the database fits a slot. -/
theorem updateLength_le {cpuid : UInt32} {entry : UcodeDBEntry}
    (hentry : getUpdateForCpuid cpuid = some entry) :
    entry.updateLength.toNat ≤ ucodeAllocSize := by
  have hmem := getUpdateForCpuid_mem hentry
  simp only [dbEntries, List.mem_cons, List.not_mem_nil, or_false] at hmem
  rcases hmem with rfl | rfl | rfl <;> decide

theorem Blank.invariant (hblank : Blank s) : SlotInvariant s :=
  ⟨fun table slot _ => .inl (hblank.slots table slot), by simp [hblank.writes]⟩

/-- Every update of the database consists of whole groups. -/
theorem updateLength_mod {cpuid : UInt32} {entry : UcodeDBEntry}
    (hentry : getUpdateForCpuid cpuid = some entry) : entry.updateLength.toNat % 8 = 0 := by
  have hmem := getUpdateForCpuid_mem hentry
  simp only [dbEntries, List.mem_cons, List.not_mem_nil, or_false] at hmem
  rcases hmem with rfl | rfl | rfl <;> decide

theorem Blank.grouped (hblank : Blank s) : Grouped s := by
  intro slot _
  have hempty : (s.ucodes slot).length = 0 := (hblank.slots .ucodes slot).2
  rw [hempty]
  rfl

theorem setOriginalUcode_keepsSlots (hrun : setOriginalUcode firmware s = some ((), t)) :
    KeepsSlots s t := by
  cases hrun
  exact ⟨rfl, rfl, rfl⟩

/-- The update in slot 0 fits, whichever it is. -/
theorem copyUpdate_ready {updates : ℕ → Memory} {cpuid : UInt32} (hready : UcodeReady 0 s)
    (hgrouped : Grouped s)
    (hrun : copyUpdate updates (getUpdateForCpuid cpuid) firmware s = some ((), t)) :
    UcodeReady 0 t ∧ Grouped t := by
  cases hentry : getUpdateForCpuid cpuid with
  | none =>
      rw [hentry] at hrun
      cases hrun
      exact ⟨hready, hgrouped⟩
  | some entry =>
      rw [hentry] at hrun
      obtain ⟨_, _, hwrite, hlength⟩ := bind_eq_some_iff.mp hrun
      have hbound := updateLength_le hentry
      have hwhole := updateLength_mod hentry
      rw [← UInt32.toNat_toUInt64] at hwhole
      have hwritten := hready.write (by simpa using hbound) hwrite
      exact ⟨hwritten.setLength (by rwa [UInt32.toNat_toUInt64]) hlength,
        (hgrouped.writeSlot hready.slot_lt hwrite).setLength hwhole hlength⟩

theorem Initialised.ready (hallocates : firmware.Allocates)
    (hinitialised : Initialised firmware t) : SlotInvariant t ∧ Grouped t := by
  obtain ⟨updates, myCpuid, blank, hblank, hrun⟩ := hinitialised
  unfold ensureUcodeSlot0 at hrun
  obtain ⟨before, hkeeps, hrest⟩ :=
    (keepsSlots_quiet (quiet_formatPrint _ _)).before_rest hrun
  have hinv := hblank.invariant.keepsSlots hkeeps
  have haddress : (before.ucodes 0).address = none := by
    rw [hkeeps.ucodes]
    exact (hblank.slots .ucodes 0).1
  obtain ⟨_, _, hslotOf, hrest⟩ := bind_eq_some_iff.mp hrest
  obtain ⟨rfl, hlooked⟩ := slotOf_keepsSlots hslotOf
  rw [if_pos (by simp [SlotTable.slots, haddress])] at hrest
  obtain ⟨_, _, hallocate, hrest⟩ := bind_eq_some_iff.mp hrest
  obtain ⟨_, _, hlength, hrest⟩ := bind_eq_some_iff.mp hrest
  obtain ⟨_, _, hcopy, hset⟩ := bind_eq_some_iff.mp hrest
  have hready := (ucodeReady_allocatePages hallocates (by decide)
    (hinv.keepsSlots hlooked) (by rwa [hlooked.ucodes]) hallocate).setLength (by decide)
      hlength
  have hgrouped := (((hblank.grouped.keepsSlots hkeeps).keepsSlots hlooked).allocatePages
    hallocates (by decide) hallocate).setLength (by decide) hlength
  obtain ⟨hfilled, hwhole⟩ := copyUpdate_ready hready hgrouped hcopy
  have hkept := setOriginalUcode_keepsSlots hset
  exact ⟨hfilled.invariant.keepsSlots hkept, hwhole.keepsSlots hkept⟩

theorem Initialised.invariant (hallocates : firmware.Allocates)
    (hinitialised : Initialised firmware t) : SlotInvariant t :=
  (hinitialised.ready hallocates).1

end Start

/-- The size that a message stores decides whether the slots stay safe. -/
theorem slotStep_cases {firmware : Firmware} (hallocates : firmware.Allocates)
    {message : SlotMessage} {s t : Server} (hinv : SlotInvariant s) (hgrouped : Grouped s)
    (hstep : slotStep firmware message s = some t) :
    (message.SizeFits → SlotInvariant t ∧ Grouped t) ∧ (¬ message.SizeFits → ¬ SlotsSafe t) := by
  obtain ⟨⟨status, after⟩, hrun, rfl⟩ := Option.map_eq_some_iff.mp hstep
  cases message with
  | flipBits payload payloadLength =>
      exact ⟨fun _ => ⟨hinv.handleFlipBits hallocates hrun,
        hgrouped.handleFlipBits hallocates hrun⟩, fun hsize => absurd trivial hsize⟩
  | sendUcode payload payloadLength =>
      simp only [SlotMessage.handle, handleSendUcode] at hrun
      rcases handleSend_cases hallocates hinv (fun _ => sending_keepsSlots.rejectWith _ _)
        (fun _ => sending_keepsSlots.rejectWith _ _) hrun with
        ⟨hnothing, hkeeps⟩ | ⟨hstores, hslot, hstored⟩
      · have hvacuous : (SlotMessage.sendUcode payload payloadLength).SizeFits :=
          ⟨fun hlong hrange => absurd ⟨hlong, hrange⟩ hnothing,
            fun hlong hrange => absurd ⟨hlong, hrange⟩ hnothing⟩
        exact ⟨fun _ => ⟨hinv.keepsSlots hkeeps, hgrouped.keepsSlots hkeeps⟩,
          fun hsize => absurd hvacuous hsize⟩
      · constructor
        · rintro ⟨hfits, hwhole⟩
          exact ⟨hstored.invariant hinv (hfits hstores.1 hstores.2),
            hstored.grouped hgrouped fun _ => hwhole hstores.1 hstores.2⟩
        · intro hsize
          by_cases hfits : (payload.u32 1).toNat ≤ SlotTable.ucodes.allocSize
          · exact hstored.not_slotsSafe_of_ungrouped hslot fun hwhole =>
              hsize ⟨fun _ _ => hfits, fun _ _ => hwhole⟩
          · exact hstored.not_slotsSafe hslot hfits
  | sendMachineCode payload payloadLength =>
      simp only [SlotMessage.handle, handleSendMachineCode] at hrun
      rcases handleSend_cases hallocates hinv (fun _ => sending_keepsSlots.reject _ _ _)
        (fun _ => sending_keepsSlots.reject _ _ _) hrun with
        ⟨hnothing, hkeeps⟩ | ⟨hstores, hslot, hstored⟩
      · have hvacuous : (SlotMessage.sendMachineCode payload payloadLength).SizeFits :=
          fun hlong hrange => absurd ⟨hlong, hrange⟩ hnothing
        exact ⟨fun _ => ⟨hinv.keepsSlots hkeeps, hgrouped.keepsSlots hkeeps⟩,
          fun hsize => absurd hvacuous hsize⟩
      · exact ⟨fun hfits => ⟨hstored.invariant hinv (hfits hstores.1 hstores.2),
            hstored.grouped hgrouped nofun⟩,
          fun hsize => hstored.not_slotsSafe hslot fun hfits => hsize fun _ _ => hfits⟩

/-- The slots are safe after every message of a run exactly if no message stores
a size beyond its slot's memory, or an update that ends inside a group of eight
bytes. -/
theorem slotsSafe_iff_sizeFits {firmware : Firmware} (hallocates : firmware.Allocates)
    {past : List (Server × SlotMessage)} {s : Server}
    (hrun : Run (Initialised firmware) (slotStep firmware) past s) :
    Always SlotsSafe past s ↔ EachStep (fun _ message => message.SizeFits) past := by
  exact hrun.always_iff_eachStep
    (fun _ hinitialised => hinitialised.ready hallocates)
    (fun _ _ _ hinv hsize hstep => (slotStep_cases hallocates hinv.1 hinv.2 hstep).1 hsize)
    (fun _ hinv => hinv.1.slotsSafe hinv.2)
    (fun _ _ _ hinv hsize hstep => (slotStep_cases hallocates hinv.1 hinv.2 hstep).2 hsize)

theorem allocates_loopback : loopback.Allocates := nofun

theorem blank_idleServer : Blank idleServer := by
  refine ⟨fun table slot => ?_, rfl⟩
  cases table <;> exact ⟨rfl, rfl⟩

/-- A payload of three words: target slot, size or number of flips, contents or
the first flip. -/
def slotPayload (targetSlot size contents : ℕ) : Memory :=
  Memory.write (fun _ => 0) 0
    (littleEndian 4 targetSlot ++ littleEndian 4 size ++ littleEndian 4 contents)

/-- An update in slot 2, a flip of its tenth bit, machine code in slot 0. -/
def smallMessages : List SlotMessage :=
  [.sendUcode (slotPayload 2 8 0) 16, .flipBits (slotPayload 2 1 9) 12,
    .sendMachineCode (slotPayload 0 4 0xC3) 12]

theorem slotsSafe_iff_sizeFits_small :
    ∃ past s, Run (Initialised loopback) (slotStep loopback) past s ∧
      past.map Prod.snd = smallMessages.reverse ∧ (s.ucodes 1).contents 1 = 2 ∧
      (Always SlotsSafe past s ↔ EachStep (fun _ message => message.SizeFits) past) := by
  obtain ⟨a, b, c, d, hstart, hfirst, hsecond, hthird, hflipped⟩ :
      ∃ a b c d, ensureUcodeSlot0 (fun _ _ => 0) 0x00A20F12 loopback idleServer =
          some ((), a) ∧
        slotStep loopback (.sendUcode (slotPayload 2 8 0) 16) a = some b ∧
        slotStep loopback (.flipBits (slotPayload 2 1 9) 12) b = some c ∧
        slotStep loopback (.sendMachineCode (slotPayload 0 4 0xC3) 12) c = some d ∧
        (d.ucodes 1).contents 1 = 2 :=
    ⟨_, _, _, _, rfl, rfl, rfl, rfl, by rfl⟩
  have hinitialised : Initialised loopback a := ⟨_, _, _, blank_idleServer, hstart⟩
  have hrun := (((Run.start hinitialised).next hfirst).next hsecond).next hthird
  exact ⟨_, d, hrun, rfl, hflipped, slotsSafe_iff_sizeFits allocates_loopback hrun⟩

/-- 16392 bytes for slot 2 are more than its memory; of nine bytes the readers
read seven more. -/
theorem not_slotsSafe_oversized :
    (∃ past s, Run (Initialised loopback) (slotStep loopback) past s ∧
      past.map Prod.snd = [.sendUcode (slotPayload 2 0x4008 0) 12] ∧
      (s.ucodes 2).length = 0x4008 ∧ (s.ucodes 2).allocated = 0x4000 ∧ ¬ SlotsSafe s) ∧
    ∃ past s, Run (Initialised loopback) (slotStep loopback) past s ∧
      past.map Prod.snd = [.sendUcode (slotPayload 2 9 0) 17] ∧
      (s.ucodes 2).length = 9 ∧ prefetchEnd 9 = 16 ∧ ¬ SlotsSafe s := by
  obtain ⟨a, b, c, hstart, hlarge, haddress, hlength, hallocated, hodd, hnine⟩ :
      ∃ a b c, ensureUcodeSlot0 (fun _ _ => 0) 0x00A20F12 loopback idleServer = some ((), a) ∧
        slotStep loopback (.sendUcode (slotPayload 2 0x4008 0) 12) a = some b ∧
        (b.ucodes 2).address.isSome = true ∧
        (b.ucodes 2).length = 0x4008 ∧ (b.ucodes 2).allocated = 0x4000 ∧
        slotStep loopback (.sendUcode (slotPayload 2 9 0) 17) a = some c ∧
        (c.ucodes 2).length = 9 :=
    ⟨_, _, _, rfl, rfl, by rfl, by rfl, by rfl, rfl, by rfl⟩
  have hinitialised : Initialised loopback a := ⟨_, _, _, blank_idleServer, hstart⟩
  refine ⟨⟨_, b, (Run.start hinitialised).next hlarge, rfl, hlength, hallocated,
    fun hsafe => ?_⟩, _, c, (Run.start hinitialised).next hodd, rfl, hnine, rfl,
    fun hsafe => ?_⟩
  · have hcontainer : (b.ucodes 2).Safe := hsafe.slots .ucodes 2 (by decide)
    rcases hcontainer with hempty | hholding
    · rw [hempty.1] at haddress
      cases haddress
    · rw [hlength, hallocated] at hholding
      exact absurd hholding.2 (by decide)
  · have hbounded := (hsafe.accesses 2 (by decide)).prefetch
    rw [hnine] at hbounded
    exact absurd hbounded (by decide)

end Handlers

end AngryUefi
