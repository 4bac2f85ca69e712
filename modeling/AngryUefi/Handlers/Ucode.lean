import AngryUefi.Handlers.Protocol

/-!
# The slots

The handlers that fill, change and apply the microcode and machine code slots.
-/

namespace AngryUefi.Handlers

open AngryUefi.Bytes AngryUefi.Programs

def ucodeSlots : UInt32 := 10

def machineCodeSlots : UInt32 := 10

/-- `ROUND_UP(UCODE_SIZE, 4096)` -/
def ucodeAllocSize : ℕ := 4 * 4096

/-- `ROUND_UP(MACHINE_CODE_SIZE, 4096)` -/
def machineCodeAllocSize : ℕ := 1 * 1024 * 1024

/-- The two tables of slots. -/
inductive SlotTable
  | ucodes
  | machineCodes
  deriving DecidableEq

namespace SlotTable

def slots (table : SlotTable) (s : Server) : ℕ → Container :=
  match table with
  | ucodes => s.ucodes
  | machineCodes => s.machineCodes

def count : SlotTable → UInt32
  | ucodes => ucodeSlots
  | machineCodes => machineCodeSlots

def allocSize : SlotTable → ℕ
  | ucodes => ucodeAllocSize
  | machineCodes => machineCodeAllocSize

/-- `ucodes[slot]` or `machine_codes[slot]`. -/
def element (table : SlotTable) (slot : ℕ) : Access :=
  match table with
  | ucodes => .ucode slot
  | machineCodes => .machineCode slot

def update (table : SlotTable) (slot : ℕ) (change : Container → Container) (s : Server) :
    Server :=
  match table with
  | ucodes =>
      { s with ucodes := Function.update s.ucodes slot (change (s.ucodes slot)) }
  | machineCodes =>
      { s with machineCodes :=
          Function.update s.machineCodes slot (change (s.machineCodes slot)) }

end SlotTable

def slotOf (table : SlotTable) (slot : ℕ) : Handler Container := do
  access (table.element slot)
  let s ← get
  return table.slots s slot

def setLength (table : SlotTable) (slot : ℕ) (length : UInt64) : Handler Unit := do
  access (table.element slot)
  modify (table.update slot fun container => { container with length })

/-- `slot = AllocatePages(alloc_size / 4096)`; whether it succeeded. -/
def allocatePages (table : SlotTable) (slot : ℕ) : Handler Bool := do
  let number ← ask
  let firmware ← read
  access (table.element slot)
  match firmware.allocatePages number (table.allocSize / 4096) with
  | none =>
      modify (table.update slot fun container => { container with address := none })
      return false
  | some (address, contents) =>
      modify (table.update slot fun container =>
        { container with
          address := some address, contents, allocated := table.allocSize })
      return true

/-- A store to the memory behind a slot. -/
def writeSlot (table : SlotTable) (slot start : ℕ) (bytes : List UInt8) : Handler Unit := do
  access (table.element slot)
  modify fun s =>
    { table.update slot (fun container =>
        { container with contents := container.contents.write start bytes }) s with
      slotWrites := s.slotWrites ++
        [⟨start, bytes.length, (table.slots s slot).allocated⟩] }

/-- What `handle_send_ucode` and `handle_send_machine_code` do with a target
slot in range. -/
def storeInSlot (table : SlotTable) (slot : ℕ) (payload : Memory) (size : UInt32) :
    Handler EfiStatus := do
  setLength table slot size.toUInt64
  writeSlot table slot 0 (payload.read 8 size.toNat)
  succeed

/-- What the two storing handlers share; they differ in their table and in what
they answer to a message that they cannot store. -/
def handleSend (table : SlotTable) (tooShort : UInt64 → Handler EfiStatus)
    (invalidSlot : UInt32 → Handler EfiStatus) (noMemory : Handler EfiStatus)
    (payload : Memory) (payloadLength : UInt64) : Handler EfiStatus := do
  if payloadLength < 8 then tooShort payloadLength
  else
    let targetSlot := payload.u32 0
    let size := payload.u32 1
    if targetSlot > table.count - 1 then invalidSlot targetSlot
    else
      let container ← slotOf table targetSlot.toNat
      if container.address.isNone then
        let allocated ← allocatePages table targetSlot.toNat
        if allocated then storeInSlot table targetSlot.toNat payload size else noMemory
      else storeInSlot table targetSlot.toNat payload size

def handleSendUcode : Memory → UInt64 → Handler EfiStatus :=
  handleSend .ucodes (fun _ => rejectWith 0x1 .invalidParameter)
    (fun _ => rejectWith 0x2 .invalidParameter) (rejectWith 0x3 .invalidParameter)

def handleSendMachineCode : Memory → UInt64 → Handler EfiStatus :=
  handleSend .machineCodes
    (fun payloadLength =>
      reject 0x1 "SENDMACHINECODE is too short, need at least 8 Bytes, got %u.\n"
        [payloadLength])
    (fun targetSlot =>
      reject 0x2 "Invalid target slot, got %u, max %u.\n"
        [targetSlot.toUInt64, (machineCodeSlots - 1).toUInt64])
    (reject 0x3 "Unable to allocate memory for machine_code.\n" [])

/-- `flip_bit` of a slot's memory, given a length. -/
def flipBit (slot : ℕ) (ucodeLength : UInt64) (position : UInt32) : Handler Unit := do
  if (position / 8).toUInt64 ≥ ucodeLength then return
  else
    let container ← slotOf .ucodes slot
    let byte := container.contents (position / 8).toNat
    writeSlot .ucodes slot (position / 8).toNat [byte ^^^ (1 <<< (position % 8).toUInt8)]

/-- `for (UINTN i = 0; i < num_flips; i++)`; the length is read anew each time. -/
def flipBits (payload : Memory) (targetSlot index : ℕ) : ℕ → Handler Unit
  | 0 => return
  | remaining + 1 => do
      let container ← slotOf .ucodes targetSlot
      flipBit 1 container.length (payload.u32 (2 + index))
      flipBits payload targetSlot (index + 1) remaining

/-- Slot 1 becomes a copy of the target slot. -/
def copyToSlot1 (targetSlot : ℕ) : Handler Unit := do
  let container ← slotOf .ucodes 1
  if container.address.isNone then
    let _ ← allocatePages .ucodes 1
    setLength .ucodes 1 (UInt64.ofNat ucodeAllocSize)
  let source ← slotOf .ucodes targetSlot
  writeSlot .ucodes 1 0 (source.contents.read 0 source.length.toNat)
  setLength .ucodes 1 source.length

def handleFlipBits (payload : Memory) (payloadLength : UInt64) : Handler EfiStatus := do
  if payloadLength < 8 then
    reject 0x1 "FLIPBITS is too short, need at least 8 Bytes, got %u.\n" [payloadLength]
  else
    let targetSlot := payload.u32 0
    let numFlips := payload.u32 1
    if targetSlot > ucodeSlots - 1 then
      reject 0x2 "Invalid target slot, got %u, max %u.\n"
        [targetSlot.toUInt64, (ucodeSlots - 1).toUInt64]
    else
      let container ← slotOf .ucodes targetSlot.toNat
      if container.address.isNone then
        reject 0x3 "Slot %u is empty\n" [targetSlot.toUInt64]
      else
        if targetSlot ≠ 1 then copyToSlot1 targetSlot.toNat
        flipBits payload targetSlot.toNat 0 numFlips.toNat
        succeed

/-- Where the loops that read a whole update stop: they read whole groups of
eight bytes, as long as a group starts inside the length. -/
def prefetchEnd (length : ℕ) : ℕ := (length + 7) / 8 * 8

/-- The accumulator of such a loop. -/
def prefetch (contents : Memory) (length : ℕ) : UInt64 :=
  (List.range (prefetchEnd length)).foldl
    (fun dummy index =>
      dummy ^^^ ((contents index).toUInt64 <<< UInt64.ofNat (index % 8)))
    0xdeadbeefdeadc0de

def handleApplyUcode (payload : Memory) (payloadLength : UInt64) : Handler EfiStatus := do
  if payloadLength < 8 then
    reject 0x1 "MSG_APPLYUCODE is too short, need at least 8 Bytes, got %u.\n"
      [payloadLength]
  else
    let targetSlot := payload.u32 0
    let options := payload.u32 1
    let container ← slotOf .ucodes targetSlot.toNat
    if container.address.isNone ∨ container.length = 0 then
      reject 0x2 "Target slot %u is empty.\n" [targetSlot.toUInt64]
    else
      let number ← ask
      let firmware ← read
      let dummy := prefetch container.contents container.length.toNat
      let applied := firmware.applyUcode number (options &&& 0x01 == 0x01) dummy
      putPayload64 0 applied.1
      putPayload64 1 applied.2
      let responseSize : UInt64 := 16
      respondPayload printStatus .ucodeResponse responseSize (responseSize + headerSize) true

/-! ## Start-up -/

/-- An entry of the microcode database; `template` says which of the included
updates it is. -/
structure UcodeDBEntry where
  template : ℕ
  updateLength : UInt32
  matchingCpuids : List UInt32

def dbEntries : List UcodeDBEntry :=
  [⟨0, 5568, [0x00A20F12]⟩, ⟨1, 5568, [0x00A60F12]⟩, ⟨2, 3200, [0x00870F10, 0xFFFFFFFF]⟩]

def fallbackCpuid : UInt32 := 0xffffffff

def UcodeDBEntry.cpuidMatches (entry : UcodeDBEntry) (cpuid : UInt32) : Bool :=
  entry.matchingCpuids.contains cpuid

/-- The loop of `get_update_for_cpuid`. -/
def findUpdate (cpuid : UInt32) : Option UcodeDBEntry → List UcodeDBEntry → Option UcodeDBEntry
  | fallback, [] => fallback
  | fallback, current :: entries =>
      let fallback := if current.cpuidMatches fallbackCpuid then some current else fallback
      if current.cpuidMatches cpuid then some current else findUpdate cpuid fallback entries

def getUpdateForCpuid (cpuid : UInt32) : Option UcodeDBEntry :=
  findUpdate cpuid none dbEntries

/-- The update of an entry, if there is one, is copied to slot 0. -/
def copyUpdate (updates : ℕ → Memory) : Option UcodeDBEntry → Handler Unit
  | none => return
  | some entry => do
      writeSlot .ucodes 0 0 ((updates entry.template).read 0 entry.updateLength.toNat)
      setLength .ucodes 0 entry.updateLength.toUInt64

/-- `original_ucode = ucodes[0].ucode` -/
def setOriginalUcode : Handler Unit := do
  let container ← slotOf .ucodes 0
  modify fun s => { s with originalUcode := container.address }

/-- `updates` are the bytes of the included updates. -/
def ensureUcodeSlot0 (updates : ℕ → Memory) (myCpuid : UInt32) : Handler Unit := do
  let dbEntry := getUpdateForCpuid myCpuid
  if dbEntry.isNone then
    formatPrint "Warning: No known good update for CPUID 0x%x! Load ucode slot 0!\n"
      [myCpuid.toUInt64]
  let container ← slotOf .ucodes 0
  if container.address.isNone then
    let _ ← allocatePages .ucodes 0
    setLength .ucodes 0 (UInt64.ofNat ucodeAllocSize)
    copyUpdate updates dbEntry
    setOriginalUcode

end AngryUefi.Handlers
