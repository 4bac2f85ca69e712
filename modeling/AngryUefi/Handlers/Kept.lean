import AngryUefi.Handlers.Requests

/-!
# What every handler keeps

A relation that the primitive operations keep is kept by every handler, core
0's own steps included.

The elements of the tables that a handler accesses are of some kind.  Most
handlers check their indices, so that it is enough to know that all elements
inside the tables are of the kind.
-/

namespace AngryUefi

open AngryUefi.Bytes AngryUefi.Programs

/-- What the environment lets core 0 do next. -/
inductive Firmware.Chooses (firmware : Firmware) : Core0Choice → Prop
  | next : Chooses firmware .next
  | request (request : Request) : Chooses firmware (.request request)
  | asked (number : ℕ) : Chooses firmware (firmware.core0Choice number)

namespace Handlers

/-- Everything but the messages keeps a relation, as long as the elements
accessed are of a kind. -/
structure Working (firmware : Firmware) (relation : Server → Server → Prop)
    (kind : Access → Prop) : Prop extends Preparing firmware relation where
  runProcessors : Guarantees firmware relation runProcessors
  useStack : Guarantees firmware relation useStack
  access : ∀ element, kind element → Guarantees firmware relation (access element)
  core0Move : ∀ coreId choice, kind (.core coreId.toNat) → firmware.Chooses choice →
    Guarantees firmware relation (core0Move coreId choice)
  update : ∀ (table : SlotTable) slot change,
    Guarantees firmware relation (modify (table.update slot change) : Handler PUnit)
  writeSlot : ∀ (table : SlotTable) slot start bytes, kind (table.element slot) →
    Guarantees firmware relation (writeSlot table slot start bytes)

/-- The primitive operations keep a relation. -/
structure Kept (firmware : Firmware) (relation : Server → Server → Prop)
    (kind : Access → Prop) : Prop
    extends Sending firmware relation, Working firmware relation kind

/-- All elements inside the tables are of the kind. -/
structure Covers (kind : Access → Prop) : Prop where
  core : ∀ index < maxCoreCount.toNat, kind (.core index)
  slot : ∀ (table : SlotTable), ∀ slot < table.count.toNat, kind (table.element slot)

namespace Working

variable {firmware : Firmware} {relation : Server → Server → Prop} {kind : Access → Prop}
variable (hkept : Working firmware relation kind)
include hkept

theorem looking : Looking firmware relation kind where
  toPreparing := hkept.toPreparing
  runProcessors := hkept.runProcessors
  useStack := hkept.useStack
  access := hkept.access
  update table slot change _ := hkept.update table slot change
  writeSlot := hkept.writeSlot

variable [IsPreorder Server relation]

theorem contextOf {coreId : UInt64} (hcore : kind (.core coreId.toNat)) :
    Guarantees firmware relation (contextOf coreId) :=
  hkept.looking.contextOf hcore

theorem slotOf {table : SlotTable} {slot : ℕ} (hslot : kind (table.element slot)) :
    Guarantees firmware relation (slotOf table slot) :=
  hkept.looking.slotOf hslot

theorem setLength {table : SlotTable} {slot : ℕ} (hslot : kind (table.element slot))
    (length : UInt64) : Guarantees firmware relation (setLength table slot length) :=
  hkept.looking.setLength hslot length

theorem allocatePages {table : SlotTable} {slot : ℕ} (hslot : kind (table.element slot)) :
    Guarantees firmware relation (allocatePages table slot) :=
  hkept.looking.allocatePages hslot

theorem runCore0 {coreId : UInt64} (hcore : kind (.core coreId.toNat)) (patience : ℕ) :
    Guarantees firmware relation (runCore0 coreId patience) := by
  induction patience with
  | zero => exact Guarantees.failure
  | succ patience ih =>
      refine hkept.runProcessors.bind fun _ => hkept.ask.bind fun _ =>
        Guarantees.read.bind_of_returns Returns.read ?_
      rintro _ rfl
      refine Guarantees.get.bind fun s => ?_
      split
      · exact Guarantees.pure _
      · apply (hkept.core0Move _ _ hcore ?_).bind fun _ => ih
        split
        · exact .asked _
        · exact .next

theorem runRequest {coreId : UInt64} (hcore : kind (.core coreId.toNat)) (request : Request) :
    Guarantees firmware relation (runRequest coreId request) :=
  Guarantees.read.bind fun _ => (hkept.core0Move _ _ hcore (.request request)).bind fun _ =>
    hkept.runCore0 hcore _

variable (hcovers : Covers kind)
include hcovers

theorem flipBits (payload : Memory) {targetSlot : ℕ}
    (hslot : kind (SlotTable.ucodes.element targetSlot))
    (index remaining : ℕ) :
    Guarantees firmware relation (flipBits payload targetSlot index remaining) :=
  hkept.looking.flipBits payload hslot (hcovers.slot .ucodes 1 (by decide)) index remaining

theorem copyToSlot1 {targetSlot : ℕ} (hslot : kind (SlotTable.ucodes.element targetSlot)) :
    Guarantees firmware relation (copyToSlot1 targetSlot) :=
  hkept.looking.copyToSlot1 hslot (hcovers.slot .ucodes 1 (by decide))

end Working

namespace Kept

/-- What the handlers that do not check enough access is of the kind, too. -/
def Admits (kind : Access → Prop) (limit : UInt64) (request : Option MessageType)
    (payload : Memory) (payloadLength : UInt64) : Prop :=
  match request with
  | some .startCore => StartsInTable kind limit payload payloadLength
  | some .getCoreStatus => ReadsInTable kind payload payloadLength
  | some .getLastTestResult => ReadsInTable kind payload payloadLength
  | some .applyUcode => 8 ≤ payloadLength → kind (SlotTable.ucodes.element (payload.u32 0).toNat)
  | _ => True

/-- Where all elements inside the tables are of the kind, so is what a message
names. -/
theorem names {kind : Access → Prop} (hcovers : Covers kind) {limit : UInt64}
    {request : Option MessageType} {payload : Memory} {payloadLength : UInt64}
    (hadmits : Admits kind limit request payload payloadLength) :
    Names kind limit request payload payloadLength := by
  have hslot : ∀ table slot, SlotNamed kind table slot := fun table _ hrange =>
    hcovers.slot table _ hrange
  have hcore : ∀ coreId, CoreNamed kind coreId := fun _ hrange => hcovers.core _ hrange
  rcases request with _ | request
  · trivial
  cases request with
  | sendUcode => exact hslot _ _
  | sendMachineCode => exact hslot _ _
  | flipBits => exact ⟨hslot _ _, hcovers.slot .ucodes 1 (by decide)⟩
  | applyUcode => exact hadmits
  | executeMachineCode => exact ⟨hslot _ _, hcore _⟩
  | applyUcodeExcuteTest => exact ⟨hslot _ _, hslot _ _, hcore _⟩
  | readMsrOnCore => exact hcore _
  | startCore => exact hadmits
  | getCoreStatus => exact hadmits
  | getLastTestResult => exact hadmits
  | getPagingInfo => exact hcore _
  | getIbsBuffer => exact hcore _
  | getDsmBuffer => exact hcore _
  | _ => trivial

variable {firmware : Firmware} {relation : Server → Server → Prop} {kind : Access → Prop}
variable [IsPreorder Server relation] (hkept : Kept firmware relation kind)
include hkept

theorem requesting : Requesting firmware relation kind :=
  { hkept.toSending, hkept.toWorking.looking with
    runRequest := fun _ request hcore => hkept.toWorking.runRequest hcore request }

/-- The loop is bounded by what `GetNumberOfProcessors` says. -/
theorem startCores {limit : UInt64} (hlimit : firmware.ReportsAtMost limit)
    (hcore : ∀ index < limit.toNat, kind (.core index)) (index : UInt64) (patience : ℕ) :
    Guarantees firmware relation (startCores index patience) :=
  hkept.requesting.startCores hlimit hcore index patience

theorem handleMessage (hcovers : Covers kind) {limit : UInt64}
    (hlimit : firmware.ReportsAtMost limit)
    (message : Memory) (messageLength : UInt64)
    (hadmits : messageStatus message messageLength.toNat = .success →
      Admits kind limit (requestOf (message.u32 1)) (message.shift 8) (messageLength - 8)) :
    Guarantees firmware relation (handleMessage message messageLength) :=
  hkept.requesting.handleMessage hlimit message messageLength fun haccepted =>
    names hcovers (hadmits haccepted)

end Kept

/-! ## Accesses of any kind -/

theorem covers_all : Covers fun _ => True := ⟨fun _ _ => trivial, fun _ _ _ => trivial⟩

theorem reportsAtMost_max (firmware : Firmware) : firmware.ReportsAtMost (-1) := by
  refine fun number => .inr (UInt64.le_iff_toNat_le.mpr ?_)
  exact Nat.le_of_lt_succ (UInt64.toNat_lt _)

theorem admits_all (limit : UInt64) (request : Option MessageType) (payload : Memory)
    (payloadLength : UInt64) :
    Kept.Admits (fun _ => True) limit request payload payloadLength := by
  rcases request with _ | request
  · trivial
  cases request <;>
    first
    | trivial
    | exact fun _ => trivial
    | exact fun _ _ => trivial
    | exact fun _ _ => ⟨trivial, fun _ _ _ => trivial⟩

end Handlers

end AngryUefi
