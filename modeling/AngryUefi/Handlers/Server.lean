import AngryUefi.Cores.Machine
import AngryUefi.Lib.Program
import AngryUefi.Net.Status

/-!
# What the handlers work on

The message buffers, the slots, the cores and the bytes handed to the firmware.
Whatever the program does not decide itself is asked from the firmware, by the
number of the question; the processors may run whenever core 0 looks at a
context.  `ANGRYUEFI_DEBUG` is not defined, so `PrintDebug` and
`FormatPrintDebug` expand to nothing.
-/

namespace AngryUefi

open AngryUefi.Bytes AngryUefi.Programs

namespace Bytes.Memory

/-- `((UINT32*)memory)[index]` -/
def u32 (memory : Memory) (index : ℕ) : UInt32 := UInt32.ofNat (memory.word 4 (4 * index))

/-- `((UINT64*)memory)[index]` -/
def u64 (memory : Memory) (index : ℕ) : UInt64 := UInt64.ofNat (memory.word 8 (8 * index))

theorem u64_write (memory : Memory) (index : ℕ) (value : UInt64) :
    (memory.write (8 * index) (littleEndian 8 value.toNat)).u64 index = value := by
  have hvalue : value.toNat < 256 ^ 8 := value.toNat_lt
  rw [u64, word_write, Nat.mod_eq_of_lt hvalue, UInt64.ofNat_toNat]

theorem u64_write_of_disjoint (memory : Memory) {index start : ℕ} {bytes : List UInt8}
    (hdisjoint : 8 * index + 8 ≤ start ∨ start + bytes.length ≤ 8 * index) :
    (memory.write start bytes).u64 index = memory.u64 index := by
  rw [u64, u64, word_write_of_disjoint _ hdisjoint]

end Bytes.Memory

/-! ## The firmware -/

/-- What becomes of one `Transmit`, and the bytes it puts on the stream. -/
structure Transmission where
  createEvent : EfiStatus
  transmit : EfiStatus
  completion : EfiStatus
  delivered : List UInt8

/-- Answers by the number of the question.  `patience` bounds the iterations of
the loops that wait for something. -/
structure Firmware where
  patience : ℕ
  unicodeSPrint : String → List UInt64 → List UInt16
  transmit : ℕ → List UInt8 → Transmission
  allocatePages : ℕ → ℕ → Option (UInt64 × Memory)
  schedule : ℕ → List (ℕ × ApChoice)
  core0Choice : ℕ → Core0Choice
  startOnCore : ℕ → { status : EfiStatus // status ≠ .success }
  getNumberOfProcessors : ℕ → EfiStatus × UInt64
  getTsc : ℕ → UInt64
  readMsrStub : ℕ → UInt32 → UInt64
  applyUcode : ℕ → Bool → UInt64 → UInt64 × UInt64
  physicalMemory : ℕ → UInt64 → UInt64
  stackAddress : ℕ → UInt64
  stack : ℕ → UInt64 → UInt32 × UInt32
  resetReturns : ℕ → Bool → Bool

/-! ## The state -/

/-- `UcodeContainer` and `MachineCodeContainer`.  `contents` is what the pointer
points to, `allocated` the number of bytes it may be used for. -/
structure Container where
  address : Option UInt64
  length : UInt64
  contents : Memory
  allocated : ℕ

/-- A store to the memory of a slot, and what was allocated for it. -/
structure SlotWrite where
  start : ℕ
  count : ℕ
  allocated : ℕ

/-- What `construct_message` and `send_message` did. -/
inductive Event
  | constructed (messageType : UInt32) (payload : List UInt8) (lastMessage : Bool)
  | refused (payloadLength : UInt64)
  | sent (bytes : List UInt8)

/-- The index of an element of a table that the program worked on. -/
inductive Access
  | core (index : ℕ)
  | ucode (index : ℕ)
  | machineCode (index : ℕ)
  deriving DecidableEq

/-- `originalUcode` is a pointer, `clock` numbers the questions to the firmware;
`trace`, `slotWrites` and `accesses` are not part of the program. -/
structure Server where
  payloadBuffer : Memory
  responseBuffer : Memory
  formatBuffer : List UInt16
  ucodes : ℕ → Container
  originalUcode : Option UInt64
  machineCodes : ℕ → Container
  machine : Machine
  clock : ℕ
  trace : List Event
  slotWrites : List SlotWrite
  accesses : List Access

/-- The processors take steps, each with its choice. -/
def Machine.runProcessors (machine : Machine) : List (ℕ × ApChoice) → Machine
  | [] => machine
  | (coreId, choice) :: rest =>
      ((machine.step .twoStep (.ap coreId choice)).getD machine).runProcessors rest

/-- Core 0 takes a step of a job handler or of `start_core`. -/
def Machine.core0Move (machine : Machine) (coreId : ℕ) (choice : Core0Choice) :
    Option Machine :=
  ((machine.working coreId).core0Step .twoStep choice).map fun p =>
    { machine with target := coreId }.put coreId p.core0 p

/-- Core 0's steps are the machine's. -/
theorem Machine.core0Move_eq_step {machine : Machine} {coreId : ℕ} {choice : Core0Choice}
    (hcoreId : coreId ≠ 0) (hturn : coreId = machine.target ∨ machine.core0.pc.live = false) :
    machine.core0Move coreId choice = machine.step .twoStep (.core0 coreId choice) := by
  simp only [Machine.core0Move, Machine.step, hcoreId, hturn, ne_eq, not_false_eq_true,
    and_self, if_true]

/-! ## Small steps -/

abbrev Handler := Program Firmware Server

namespace Handlers

/-- The number of the next question. -/
def ask : Handler ℕ := do
  let s ← get
  modify fun s => { s with clock := s.clock + 1 }
  return s.clock

/-- The program works on an element of a table. -/
def access (element : Access) : Handler Unit :=
  modify fun s => { s with accesses := s.accesses ++ [element] }

def formatPrint (text : String) (arguments : List UInt64) : Handler Unit := do
  let firmware ← read
  modify fun s => { s with formatBuffer := firmware.unicodeSPrint text arguments }

/-- The processors run for a while. -/
def runProcessors : Handler Unit := do
  let number ← ask
  let firmware ← read
  modify fun s => { s with machine := s.machine.runProcessors (firmware.schedule number) }

/-- `core_contexts[core_id]`, looked at for one field. -/
def contextOf (coreId : UInt64) : Handler CoreContext := do
  runProcessors
  access (.core coreId.toNat)
  let s ← get
  return s.machine.contexts coreId.toNat

/-- The state when a context is looked at. -/
def lookedAt (firmware : Firmware) (coreId : UInt64) (s : Server) : Server :=
  { s with
    clock := s.clock + 1
    machine := s.machine.runProcessors (firmware.schedule s.clock)
    accesses := s.accesses ++ [.core coreId.toNat] }

theorem contextOf_run (firmware : Firmware) (coreId : UInt64) (s : Server) :
    contextOf coreId firmware s = some
      ((lookedAt firmware coreId s).machine.contexts coreId.toNat, lookedAt firmware coreId s) :=
  rfl

/-- `CopyMem(payload_buffer + offset, ...)` -/
def copyToPayload (offset : ℕ) (bytes : List UInt8) : Handler Unit :=
  modify fun s => { s with payloadBuffer := s.payloadBuffer.write offset bytes }

/-- `((UINT32*)payload_buffer)[index] = value` -/
def putPayload32 (index : ℕ) (value : UInt32) : Handler Unit :=
  copyToPayload (4 * index) (littleEndian 4 value.toNat)

/-- `((UINT64*)payload_buffer)[index] = value` -/
def putPayload64 (index : ℕ) (value : UInt64) : Handler Unit :=
  copyToPayload (8 * index) (littleEndian 8 value.toNat)

/-- What the client sees and what the slots hold is as it was. -/
structure Quiet (s t : Server) : Prop where
  responseBuffer : t.responseBuffer = s.responseBuffer
  ucodes : t.ucodes = s.ucodes
  machineCodes : t.machineCodes = s.machineCodes
  trace : t.trace = s.trace
  slotWrites : t.slotWrites = s.slotWrites

instance : IsPreorder Server Quiet where
  refl _ := ⟨rfl, rfl, rfl, rfl, rfl⟩
  trans _ _ _ hleft hright :=
    ⟨hright.responseBuffer.trans hleft.responseBuffer, hright.ucodes.trans hleft.ucodes,
      hright.machineCodes.trans hleft.machineCodes, hright.trace.trans hleft.trace,
      hright.slotWrites.trans hleft.slotWrites⟩

section Quiet

variable {firmware : Firmware}

theorem quiet_ask : Guarantees firmware Quiet ask :=
  Guarantees.get.bind fun _ => (Guarantees.modify fun _ => ⟨rfl, rfl, rfl, rfl, rfl⟩).bind
    fun _ => Guarantees.pure _

theorem quiet_access (element : Access) : Guarantees firmware Quiet (access element) :=
  Guarantees.modify fun _ => ⟨rfl, rfl, rfl, rfl, rfl⟩

theorem quiet_formatPrint (text : String) (arguments : List UInt64) :
    Guarantees firmware Quiet (formatPrint text arguments) :=
  Guarantees.read.bind fun _ => Guarantees.modify fun _ => ⟨rfl, rfl, rfl, rfl, rfl⟩

theorem quiet_runProcessors : Guarantees firmware Quiet runProcessors :=
  quiet_ask.bind fun _ => Guarantees.read.bind fun _ =>
    Guarantees.modify fun _ => ⟨rfl, rfl, rfl, rfl, rfl⟩

theorem quiet_copyToPayload (offset : ℕ) (bytes : List UInt8) :
    Guarantees firmware Quiet (copyToPayload offset bytes) :=
  Guarantees.modify fun _ => ⟨rfl, rfl, rfl, rfl, rfl⟩

end Quiet

/-- Firmware that delivers everything, on a machine where nothing else
happens. -/
def loopback : Firmware where
  patience := 100
  unicodeSPrint _ _ := []
  transmit _ message := ⟨.success, .success, .success, message⟩
  allocatePages _ _ := some (0x100000, fun _ => 0)
  schedule _ := []
  core0Choice _ := .next
  startOnCore _ := ⟨.aborted, by decide⟩
  getNumberOfProcessors _ := (.success, 4)
  getTsc _ := 0
  readMsrStub _ _ := 0
  applyUcode _ _ _ := (0, 0)
  physicalMemory _ _ := 0
  stackAddress _ := 0
  stack _ _ := (0, 0)
  resetReturns _ _ := false

/-- Before the first message, with empty slots. -/
def idleServer : Server where
  payloadBuffer _ := 0
  responseBuffer _ := 0
  formatBuffer := []
  ucodes _ := ⟨none, 0, fun _ => 0, 0⟩
  originalUcode := none
  machineCodes _ := ⟨none, 0, fun _ => 0, 0⟩
  machine := Machine.afterInit
  clock := 0
  trace := []
  slotWrites := []
  accesses := []

end Handlers

end AngryUefi
