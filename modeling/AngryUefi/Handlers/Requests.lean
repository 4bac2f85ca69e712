import AngryUefi.Handlers.Sending

/-!
# What the handlers keep

The handlers are walked through once, here.  Besides sending messages they look
at cores and slots and have core 0 serve a request of a core; a relation that
all this keeps is kept by every handler, as long as the elements of the tables
that a message names are of a kind.
-/

namespace AngryUefi

open AngryUefi.Bytes AngryUefi.Programs

namespace Handlers

/-- Looking at cores, and working with slots, keeps a relation, as long as the
elements accessed are of a kind. -/
structure Looking (firmware : Firmware) (relation : Server → Server → Prop)
    (kind : Access → Prop) : Prop extends Preparing firmware relation where
  runProcessors : Guarantees firmware relation runProcessors
  useStack : Guarantees firmware relation useStack
  access : ∀ element, kind element → Guarantees firmware relation (access element)
  update : ∀ (table : SlotTable) slot change, kind (table.element slot) →
    Guarantees firmware relation (modify (table.update slot change) : Handler PUnit)
  writeSlot : ∀ (table : SlotTable) slot start bytes, kind (table.element slot) →
    Guarantees firmware relation (writeSlot table slot start bytes)

/-- What a handler does that asks nothing of a core. -/
structure Reading (firmware : Firmware) (relation : Server → Server → Prop)
    (kind : Access → Prop) : Prop
    extends Sending firmware relation, Looking firmware relation kind

/-- In addition core 0 serves requests of cores of the kind. -/
structure Requesting (firmware : Firmware) (relation : Server → Server → Prop)
    (kind : Access → Prop) : Prop extends Reading firmware relation kind where
  runRequest : ∀ coreId request, kind (.core coreId.toNat) →
    Guarantees firmware relation (runRequest coreId request)

/-- A slot whose number passes its check is of the kind. -/
def SlotNamed (kind : Access → Prop) (table : SlotTable) (slot : UInt32) : Prop :=
  slot.toNat < table.count.toNat → kind (table.element slot.toNat)

/-- A core whose number passes its check is of the kind. -/
def CoreNamed (kind : Access → Prop) (coreId : UInt64) : Prop :=
  coreId.toNat < maxCoreCount.toNat → kind (.core coreId.toNat)

namespace Looking

variable {firmware : Firmware} {relation : Server → Server → Prop} {kind : Access → Prop}
variable [IsPreorder Server relation] (hkept : Looking firmware relation kind)
include hkept

theorem contextOf {coreId : UInt64} (hcore : kind (.core coreId.toNat)) :
    Guarantees firmware relation (contextOf coreId) :=
  hkept.runProcessors.bind fun _ => (hkept.access _ hcore).bind fun _ =>
    Guarantees.get.bind fun _ => Guarantees.pure _

theorem slotOf {table : SlotTable} {slot : ℕ} (hslot : kind (table.element slot)) :
    Guarantees firmware relation (slotOf table slot) :=
  (hkept.access _ hslot).bind fun _ => Guarantees.get.bind fun _ => Guarantees.pure _

theorem setLength {table : SlotTable} {slot : ℕ} (hslot : kind (table.element slot))
    (length : UInt64) : Guarantees firmware relation (setLength table slot length) :=
  (hkept.access _ hslot).bind fun _ => hkept.update _ _ _ hslot

theorem allocatePages {table : SlotTable} {slot : ℕ} (hslot : kind (table.element slot)) :
    Guarantees firmware relation (allocatePages table slot) := by
  refine hkept.ask.bind fun number => Guarantees.read.bind fun firmware =>
    (hkept.access _ hslot).bind fun _ => ?_
  cases firmware.allocatePages number (table.allocSize / 4096) with
  | none => exact (hkept.update _ _ _ hslot).bind fun _ => Guarantees.pure _
  | some memory => exact (hkept.update _ _ _ hslot).bind fun _ => Guarantees.pure _

theorem flipBit {slot : ℕ} (hslot : kind (SlotTable.ucodes.element slot))
    (ucodeLength : UInt64) (position : UInt32) :
    Guarantees firmware relation (flipBit slot ucodeLength position) := by
  simp only [Handlers.flipBit]
  split
  · exact Guarantees.pure _
  · exact (hkept.slotOf hslot).bind fun _ => hkept.writeSlot _ _ _ _ hslot

theorem copyEntries (stored : CoreContext → UInt64)
    (bytesAt : CoreContext → UInt64 → List UInt8) {coreId : UInt64}
    (hcore : kind (.core coreId.toNat)) (target : ℕ) (startIndex entryCount : UInt64) :
    Guarantees firmware relation
      (copyEntries stored bytesAt coreId target startIndex entryCount) := by
  have hcopy : ∀ endIndex : UInt64, Guarantees firmware relation (do
      let context ← Handlers.contextOf coreId
      Handlers.copyToPayload target
        ((List.range (endIndex.toNat - startIndex.toNat)).flatMap fun offset =>
          bytesAt context (startIndex + UInt64.ofNat offset))
      return endIndex - startIndex) := fun _ =>
    (hkept.contextOf hcore).bind fun _ => (hkept.copyToPayload _ _).bind fun _ =>
      Guarantees.pure _
  refine (hkept.contextOf hcore).bind fun _ => ?_
  split
  · exact Guarantees.pure _
  refine (hkept.contextOf hcore).bind fun _ => ?_
  dsimp only
  split
  · exact (Guarantees.pure _).bind hcopy
  · exact ((hkept.contextOf hcore).bind fun _ => Guarantees.pure _).bind hcopy

theorem flipBits (payload : Memory) {targetSlot : ℕ}
    (hslot : kind (SlotTable.ucodes.element targetSlot))
    (hone : kind (SlotTable.ucodes.element 1)) (index remaining : ℕ) :
    Guarantees firmware relation (flipBits payload targetSlot index remaining) := by
  induction remaining generalizing index with
  | zero => exact Guarantees.pure _
  | succ remaining ih =>
      exact (hkept.slotOf hslot).bind fun _ =>
        (hkept.flipBit hone _ _).bind fun _ => ih (index + 1)

theorem copyToSlot1 {targetSlot : ℕ} (hslot : kind (SlotTable.ucodes.element targetSlot))
    (hone : kind (SlotTable.ucodes.element 1)) :
    Guarantees firmware relation (copyToSlot1 targetSlot) := by
  have hcopy : Guarantees firmware relation (do
      let source ← Handlers.slotOf .ucodes targetSlot
      Handlers.writeSlot .ucodes 1 0 (source.contents.read 0 source.length.toNat)
      Handlers.setLength .ucodes 1 source.length) :=
    (hkept.slotOf hslot).bind fun _ => (hkept.writeSlot _ _ _ _ hone).bind fun _ =>
      hkept.setLength hone _
  refine (hkept.slotOf hone).bind fun container => ?_
  dsimp only
  split
  · exact (hkept.allocatePages hone).bind fun _ => (hkept.setLength hone _).bind fun _ => hcopy
  · exact hcopy

end Looking

namespace Reading

variable {firmware : Firmware} {relation : Server → Server → Prop} {kind : Access → Prop}
variable [IsPreorder Server relation] (hkept : Reading firmware relation kind)
include hkept

/-! ## The slots -/

theorem storeInSlot {table : SlotTable} {slot : ℕ} (hslot : kind (table.element slot))
    (payload : Memory) (size : UInt32) :
    Guarantees firmware relation (storeInSlot table slot payload size) :=
  (hkept.setLength hslot _).bind fun _ => (hkept.writeSlot _ _ _ _ hslot).bind fun _ =>
    hkept.succeed

theorem handleSend (table : SlotTable) {tooShort : UInt64 → Handler EfiStatus}
    {invalidSlot : UInt32 → Handler EfiStatus} {noMemory : Handler EfiStatus}
    (htooShort : ∀ length, Guarantees firmware relation (tooShort length))
    (hinvalidSlot : ∀ slot, Guarantees firmware relation (invalidSlot slot))
    (hnoMemory : Guarantees firmware relation noMemory)
    (payload : Memory) (payloadLength : UInt64) (hslot : SlotNamed kind table (payload.u32 0)) :
    Guarantees firmware relation
      (handleSend table tooShort invalidSlot noMemory payload payloadLength) := by
  simp only [Handlers.handleSend]
  split
  · exact htooShort _
  split
  · exact hinvalidSlot _
  rename_i hrange
  have hslot := hslot (slot_lt_count table hrange)
  refine (hkept.slotOf hslot).bind fun container => ?_
  split
  · refine (hkept.allocatePages hslot).bind fun allocated => ?_
    split
    · exact hkept.storeInSlot hslot _ _
    · exact hnoMemory
  · exact hkept.storeInSlot hslot _ _

theorem handleSendUcode (payload : Memory) (payloadLength : UInt64)
    (hslot : SlotNamed kind .ucodes (payload.u32 0)) :
    Guarantees firmware relation (handleSendUcode payload payloadLength) :=
  hkept.handleSend .ucodes (fun _ => hkept.rejectWith _ _)
    (fun _ => hkept.rejectWith _ _) (hkept.rejectWith _ _) _ _ hslot

theorem handleSendMachineCode (payload : Memory) (payloadLength : UInt64)
    (hslot : SlotNamed kind .machineCodes (payload.u32 0)) :
    Guarantees firmware relation (handleSendMachineCode payload payloadLength) :=
  hkept.handleSend .machineCodes (fun _ => hkept.reject _ _ _)
    (fun _ => hkept.reject _ _ _) (hkept.reject _ _ _) _ _ hslot

theorem handleFlipBits (payload : Memory) (payloadLength : UInt64)
    (hslot : SlotNamed kind .ucodes (payload.u32 0))
    (hone : kind (SlotTable.ucodes.element 1)) :
    Guarantees firmware relation (handleFlipBits payload payloadLength) := by
  simp only [Handlers.handleFlipBits]
  split
  · exact hkept.reject _ _ _
  split
  · exact hkept.reject _ _ _
  rename_i hrange
  have hslot : kind (SlotTable.ucodes.element (payload.u32 0).toNat) :=
    hslot (slot_lt_count .ucodes hrange)
  refine (hkept.slotOf hslot).bind fun container => ?_
  split
  · exact hkept.reject _ _ _
  split
  · exact (hkept.copyToSlot1 hslot hone).bind fun _ =>
      (hkept.flipBits _ hslot hone _ _).bind fun _ => hkept.succeed
  · exact (hkept.flipBits _ hslot hone _ _).bind fun _ => hkept.succeed

/-- `handle_apply_ucode` does not check its slot. -/
theorem handleApplyUcode (payload : Memory) (payloadLength : UInt64)
    (hslot : 8 ≤ payloadLength → kind (SlotTable.ucodes.element (payload.u32 0).toNat)) :
    Guarantees firmware relation (handleApplyUcode payload payloadLength) := by
  simp only [Handlers.handleApplyUcode]
  split
  · exact hkept.reject _ _ _
  rename_i hlong
  refine (hkept.slotOf (hslot (UInt64.not_lt.mp hlong))).bind
    fun container => ?_
  split
  · exact hkept.reject _ _ _
  · exact hkept.ask.bind fun _ => Guarantees.read.bind fun _ =>
      (hkept.putPayload64 _ _).bind fun _ => (hkept.putPayload64 _ _).bind fun _ =>
        hkept.respondPayload reports_printStatus _ (sizeMatches_add 16) _

theorem sendCoreStatus {coreId : UInt64} (hcore : kind (.core coreId.toNat))
    (isLastMessage : Bool) :
    Guarantees firmware relation (sendCoreStatus coreId isLastMessage) := by
  have hsend : ∀ responseSize, Guarantees firmware relation
      (Handlers.respondPayload printStatus .coreStatusResponse responseSize
        (responseSize + headerSize) isLastMessage) := fun responseSize =>
    hkept.respondPayload reports_printStatus _ (sizeMatches_add responseSize) _
  simp only [Handlers.sendCoreStatus]
  iterate 8 refine (hkept.contextOf hcore).bind fun _ => ?_
  refine hkept.ask.bind fun _ => Guarantees.read.bind fun _ => ?_
  iterate 4 refine (hkept.putPayload64 _ _).bind fun _ => ?_
  split
  · exact (hkept.putPayload64 _ _).bind fun _ => (hkept.contextOf hcore).bind fun _ =>
      (hkept.copyToPayload _ _).bind fun _ => hsend _
  · exact hsend _

end Reading

namespace Requesting

variable {firmware : Firmware} {relation : Server → Server → Prop} {kind : Access → Prop}
variable [IsPreorder Server relation] (hkept : Requesting firmware relation kind)
include hkept

/-! ## The cores -/

theorem submitJob (coreId : UInt64) (job : Job)
    {answer : HandlerResult → Handler EfiStatus}
    (hcore : CoreNamed kind coreId)
    (hanswer : ∀ result, Guarantees firmware relation (answer result)) :
    Guarantees firmware relation (submitJob coreId job answer) := by
  simp only [Handlers.submitJob]
  split
  · exact hkept.reject _ _ _
  rename_i hrange
  refine (hkept.runRequest _ _ (hcore (core_lt_of_range hrange))).bind fun result => ?_
  split
  · exact hkept.reject _ _ _
  · exact hanswer _

theorem handleExecuteMachineCode (payload : Memory) (payloadLength : UInt64)
    (hmachineCode : SlotNamed kind .machineCodes (payload.u32 0))
    (hcore : CoreNamed kind (payload.u32 1).toUInt64) :
    Guarantees firmware relation (handleExecuteMachineCode payload payloadLength) := by
  simp only [Handlers.handleExecuteMachineCode]
  split
  · exact hkept.reject _ _ _
  split
  · exact hkept.reject _ _ _
  rename_i hslot
  have hkind := hmachineCode (UInt32.lt_iff_toNat_lt.mp (UInt32.not_le.mp hslot))
  refine (hkept.slotOf hkind).bind fun container => ?_
  split
  · exact hkept.reject _ _ _
  · exact hkept.submitJob _ _ hcore hkept.answerTest

theorem handleApplyUcodeExecuteTest (payload : Memory) (payloadLength : UInt64)
    (hucode : SlotNamed kind .ucodes (payload.u32 0))
    (hmachineCode : SlotNamed kind .machineCodes (payload.u32 1))
    (hcore : CoreNamed kind (payload.u32 2).toUInt64) :
    Guarantees firmware relation (handleApplyUcodeExecuteTest payload payloadLength) := by
  simp only [Handlers.handleApplyUcodeExecuteTest]
  split
  · exact hkept.reject _ _ _
  split
  · exact hkept.reject _ _ _
  rename_i hucodeRange
  split
  · exact hkept.reject _ _ _
  rename_i hmachineCodeRange
  have hucodeKind := hucode (UInt32.lt_iff_toNat_lt.mp (UInt32.not_le.mp hucodeRange))
  have hmachineCodeKind :=
    hmachineCode (UInt32.lt_iff_toNat_lt.mp (UInt32.not_le.mp hmachineCodeRange))
  refine (hkept.slotOf hucodeKind).bind fun ucode => ?_
  split
  · exact hkept.reject _ _ _
  refine (hkept.slotOf hmachineCodeKind).bind fun machineCode => ?_
  split
  · exact hkept.reject _ _ _
  · exact hkept.submitJob _ _ hcore hkept.answerTest

theorem handleReadMsrOnCore (payload : Memory) (payloadLength : UInt64)
    (hcore : CoreNamed kind ((payload.shift 4).u64 0)) :
    Guarantees firmware relation (handleReadMsrOnCore payload payloadLength) := by
  simp only [Handlers.handleReadMsrOnCore]
  split
  · exact hkept.reject _ _ _
  split
  · exact hkept.handleReadMsr _ _
  · exact hkept.ask.bind fun _ => Guarantees.read.bind fun _ =>
      hkept.submitJob _ _ hcore (hkept.answerMsr _)

theorem startCore {coreId : UInt64} (hcore : kind (.core coreId.toNat)) :
    Guarantees firmware relation (startCore coreId) := by
  refine hkept.ask.bind fun _ => Guarantees.read.bind fun _ =>
    (hkept.runRequest _ _ hcore).bind fun result => ?_
  split
  · exact (hkept.formatPrint _ _).bind fun _ => hkept.rejectWith _ _
  · exact hkept.reject _ _ _
  · exact Guarantees.pure _

/-- The loop is bounded by what `GetNumberOfProcessors` says. -/
theorem startCores {limit : UInt64} (hlimit : firmware.ReportsAtMost limit)
    (hcore : ∀ index < limit.toNat, kind (.core index)) (index : UInt64) (patience : ℕ) :
    Guarantees firmware relation (startCores index patience) := by
  induction patience generalizing index with
  | zero => exact Guarantees.failure
  | succ patience ih =>
      refine hkept.getAvailableCores.bind_of_returns (returns_getAvailableCores hlimit)
        fun available havailable => ?_
      split
      · rename_i hindex
        have hbelow : index.toNat < limit.toNat :=
          UInt64.lt_iff_toNat_lt.mp (UInt64.lt_of_lt_of_le hindex havailable)
        have hkind := hcore index.toNat hbelow
        refine (hkept.contextOf hkind).bind fun context => ?_
        split
        · exact ih _
        · refine (hkept.startCore hkind).bind fun status => ?_
          split
          · exact Guarantees.pure _
          · exact ih _
      · exact hkept.succeed

end Requesting

namespace Kept

/-- `handle_start_core` lets the number 128 pass, and starts as many cores as
the firmware reports. -/
def StartsInTable (kind : Access → Prop) (limit : UInt64) (payload : Memory)
    (payloadLength : UInt64) : Prop :=
  8 ≤ payloadLength → payload.u64 0 ≤ maxCoreCount →
    kind (.core (payload.u64 0).toNat) ∧
      (payload.u64 0 = 0 → ∀ index < limit.toNat, kind (.core index))

/-- `handle_get_core_status` and `handle_get_last_test_result` let the number
128 pass. -/
def ReadsInTable (kind : Access → Prop) (payload : Memory) (payloadLength : UInt64) : Prop :=
  8 ≤ payloadLength → payload.u64 0 ≤ maxCoreCount → kind (.core (payload.u64 0).toNat)

end Kept

namespace Reading

variable {firmware : Firmware} {relation : Server → Server → Prop} {kind : Access → Prop}
variable [IsPreorder Server relation] (hkept : Reading firmware relation kind)
include hkept

theorem handleGetCoreStatus (payload : Memory) (payloadLength : UInt64)
    (hreads : Kept.ReadsInTable kind payload payloadLength) :
    Guarantees firmware relation (handleGetCoreStatus payload payloadLength) := by
  simp only [Handlers.handleGetCoreStatus]
  split
  · exact hkept.reject _ _ _
  rename_i hlong
  split
  · exact hkept.reject _ _ _
  rename_i hrange
  exact hkept.sendCoreStatus (hreads (UInt64.not_lt.mp hlong) (UInt64.not_lt.mp hrange)) _

theorem handleGetLastTestResult (payload : Memory) (payloadLength : UInt64)
    (hreads : Kept.ReadsInTable kind payload payloadLength) :
    Guarantees firmware relation (handleGetLastTestResult payload payloadLength) := by
  simp only [Handlers.handleGetLastTestResult]
  split
  · exact hkept.reject _ _ _
  rename_i hlong
  split
  · exact hkept.reject _ _ _
  rename_i hrange
  have hkind := hreads (UInt64.not_lt.mp hlong) (UInt64.not_lt.mp hrange)
  refine (hkept.sendCoreStatus hkind _).bind fun status => ?_
  split
  · exact Guarantees.pure _
  · iterate 5 refine (hkept.contextOf hkind).bind fun _ => ?_
    exact hkept.sendResultMessage _ _ _ _ _ _ _

/-! ## Events and page tables -/

theorem checkCoreId {coreId : UInt64} {proceed : Handler EfiStatus}
    (hcore : CoreNamed kind coreId)
    (hproceed : kind (.core coreId.toNat) → Guarantees firmware relation proceed) :
    Guarantees firmware relation (checkCoreId coreId proceed) := by
  simp only [Handlers.checkCoreId]
  split
  · exact hkept.reject _ _ _
  rename_i hrange
  have hcore := hcore (core_lt_of_range hrange)
  refine (hkept.contextOf hcore).bind fun _ => ?_
  split
  · exact hkept.reject _ _ _
  refine (hkept.contextOf hcore).bind fun _ => ?_
  split
  · exact hkept.reject _ _ _
  · exact hproceed hcore

theorem sendEvents {copy : ℕ → UInt64 → UInt64 → Handler UInt64}
    (hcopy : ∀ target startIndex entryCount,
      Guarantees firmware relation (copy target startIndex entryCount))
    (messageType : MessageType) (countIndex : ℕ) (minResponseSize : UInt64) (patience : ℕ)
    (startIndex eventsToSend : UInt64) :
    Guarantees firmware relation (sendEvents copy messageType countIndex minResponseSize
      patience startIndex eventsToSend) := by
  induction patience generalizing startIndex eventsToSend with
  | zero => exact Guarantees.failure
  | succ patience ih =>
      simp only [Handlers.sendEvents]
      split
      · exact Guarantees.pure _
      refine (hcopy _ _ _).bind fun _ => (hkept.putPayload64 _ _).bind fun _ =>
        (hkept.respondPayload reports_printStatusDebug _ (sizeMatches_add _) _).bind
          fun status => ?_
      split
      · exact Guarantees.pure _
      · exact ih _ _

theorem handleGetIbsBuffer (payload : Memory) (payloadLength : UInt64)
    (hcore : CoreNamed kind (payload.u64 0)) :
    Guarantees firmware relation (handleGetIbsBuffer payload payloadLength) := by
  have hempty : Guarantees firmware relation
      (Handlers.respondPayload printStatusDebug .ibsBuffer (4 * 8) (4 * 8 + headerSize) true) :=
    hkept.respondPayload reports_printStatusDebug _ (sizeMatches_add (4 * 8)) _
  simp only [Handlers.handleGetIbsBuffer]
  split
  · exact hkept.reject _ _ _
  refine hkept.checkCoreId hcore fun hcore => (hkept.contextOf hcore).bind fun _ => ?_
  split
  · iterate 4 refine (hkept.putPayload64 _ _).bind fun _ => ?_
    exact hempty
  refine (hkept.contextOf hcore).bind fun _ => ?_
  iterate 4 refine (hkept.putPayload64 _ _).bind fun _ => ?_
  split
  · exact hempty
  · exact Guarantees.read.bind fun _ => hkept.sendEvents
      (fun _ _ _ => hkept.copyEntries _ _ hcore _ _ _) _ _ _ _ _ _

theorem handleGetDsmBuffer (payload : Memory) (payloadLength : UInt64)
    (hcore : CoreNamed kind (payload.u64 0)) :
    Guarantees firmware relation (handleGetDsmBuffer payload payloadLength) := by
  simp only [Handlers.handleGetDsmBuffer]
  split
  · exact hkept.reject _ _ _
  refine hkept.checkCoreId hcore fun hcore => (hkept.contextOf hcore).bind fun _ => ?_
  split
  · iterate 2 refine (hkept.putPayload64 _ _).bind fun _ => ?_
    exact hkept.respondPayload reports_printStatusDebug _ (sizeMatches_add (2 * 8)) _
  iterate 2 refine (hkept.putPayload64 _ _).bind fun _ => ?_
  refine (hkept.contextOf hcore).bind fun _ => (hkept.copyToPayload _ _).bind fun _ =>
    (hkept.contextOf hcore).bind fun _ => ?_
  split
  · exact hkept.respondPayload reports_printStatusDebug _ (sizeMatches_add _) _
  · exact Guarantees.read.bind fun _ => hkept.sendEvents
      (fun _ _ _ => hkept.copyEntries _ _ hcore _ _ _) _ _ _ _ _ _

theorem handleGetPagingInfo (payload : Memory) (payloadLength : UInt64)
    (hcore : CoreNamed kind (payload.u64 0)) :
    Guarantees firmware relation (handleGetPagingInfo payload payloadLength) := by
  simp only [Handlers.handleGetPagingInfo]
  split
  · exact hkept.reject _ _ _
  refine hkept.checkCoreId hcore fun hcore => (hkept.contextOf hcore).bind fun _ => ?_
  split
  · exact hkept.sendTable _ _ _ _ _
  split
  · exact hkept.reject _ _ _
  refine (hkept.getPdptAt _ _).bind fun _ => hkept.pagingLevelStep _ _ _ _ _ _ _ _ _ ?_
  refine (hkept.getPdAt _ _ _).bind fun _ => hkept.pagingLevelStep _ _ _ _ _ _ _ _ _ ?_
  exact (hkept.getPtAt _ _ _ _).bind fun _ =>
    hkept.pagingLevelStep _ _ _ _ _ _ _ _ _ (hkept.sendEntry _ _ _ _ _)

end Reading

/-! ## The connection -/

/-- What a message names is of the kind, once the handler's checks have let it
pass. -/
def Names (kind : Access → Prop) (limit : UInt64) (request : Option MessageType)
    (payload : Memory) (payloadLength : UInt64) : Prop :=
  match request with
  | some .sendUcode => SlotNamed kind .ucodes (payload.u32 0)
  | some .sendMachineCode => SlotNamed kind .machineCodes (payload.u32 0)
  | some .flipBits =>
      SlotNamed kind .ucodes (payload.u32 0) ∧ kind (SlotTable.ucodes.element 1)
  | some .applyUcode => 8 ≤ payloadLength → kind (SlotTable.ucodes.element (payload.u32 0).toNat)
  | some .executeMachineCode =>
      SlotNamed kind .machineCodes (payload.u32 0) ∧ CoreNamed kind (payload.u32 1).toUInt64
  | some .applyUcodeExcuteTest =>
      SlotNamed kind .ucodes (payload.u32 0) ∧ SlotNamed kind .machineCodes (payload.u32 1) ∧
        CoreNamed kind (payload.u32 2).toUInt64
  | some .readMsrOnCore => CoreNamed kind ((payload.shift 4).u64 0)
  | some .startCore => Kept.StartsInTable kind limit payload payloadLength
  | some .getCoreStatus => Kept.ReadsInTable kind payload payloadLength
  | some .getLastTestResult => Kept.ReadsInTable kind payload payloadLength
  | some .getPagingInfo => CoreNamed kind (payload.u64 0)
  | some .getIbsBuffer => CoreNamed kind (payload.u64 0)
  | some .getDsmBuffer => CoreNamed kind (payload.u64 0)
  | _ => True

section Connection

variable {firmware : Firmware} {relation : Server → Server → Prop} {kind : Access → Prop}
variable [IsPreorder Server relation]

theorem Looking.handleMessage (hkept : Looking firmware relation kind) (message : Memory)
    (messageLength : UInt64)
    (hdispatch : messageStatus message messageLength.toNat = .success →
      Guarantees firmware relation
        (dispatch (message.u32 1) (message.shift 8) (messageLength - 8))) :
    Guarantees firmware relation (handleMessage message messageLength) := by
  simp only [Handlers.handleMessage]
  split
  · exact Guarantees.pure _
  · rename_i hstatus
    exact hkept.useStack.bind fun _ =>
      (hdispatch (messageStatus_eq_success hstatus)).bind fun _ => Guarantees.pure _

/-- What every message keeps, the connection does. -/
theorem guarantees_serveMessages {messages : List (Memory × UInt64)}
    (hmessages : ∀ message ∈ messages,
      Guarantees firmware relation (handleMessage message.1 message.2)) :
    Guarantees firmware relation (serveMessages messages) := by
  induction messages with
  | nil => exact Guarantees.pure _
  | cons message messages ih =>
      rw [List.forall_mem_cons] at hmessages
      refine hmessages.1.bind fun status => ?_
      split
      · exact Guarantees.pure _
      · exact ih hmessages.2

end Connection

/-- A message that has core 0 serve a request of a core. -/
def AsksCore : Option MessageType → Prop
  | some .executeMachineCode | some .applyUcodeExcuteTest | some .readMsrOnCore
  | some .startCore => True
  | _ => False

namespace Reading

variable {firmware : Firmware} {relation : Server → Server → Prop} {kind : Access → Prop}
variable [IsPreorder Server relation] (hkept : Reading firmware relation kind)
include hkept

/-- Where requests of cores are served otherwise. -/
theorem dispatch {limit : UInt64} (messageType : UInt32) (payload : Memory)
    (payloadLength : UInt64)
    (hnames : Names kind limit (requestOf messageType) payload payloadLength)
    (hasks : AsksCore (requestOf messageType) →
      Guarantees firmware relation (dispatch messageType payload payloadLength)) :
    Guarantees firmware relation (dispatch messageType payload payloadLength) := by
  simp only [Handlers.dispatch] at hasks ⊢
  cases hrequest : requestOf messageType with
  | none => exact (hkept.formatPrint _ _).bind fun _ => hkept.rejectWith _ _
  | some request =>
      rw [hrequest] at hnames hasks
      cases request with
      | ping => exact hkept.handlePing _ _
      | multiPing => exact hkept.handleMultiPing _ _
      | getMsgSize => exact hkept.handleGetMsgSize _
      | reboot => exact hkept.handleReboot _ _
      | sendUcode => exact hkept.handleSendUcode _ _ hnames
      | flipBits => exact hkept.handleFlipBits _ _ hnames.1 hnames.2
      | applyUcode => exact hkept.handleApplyUcode _ _ hnames
      | getLastTestResult => exact hkept.handleGetLastTestResult _ _ hnames
      | readMsr => exact hkept.handleReadMsr _ _
      | getCoreCount => exact hkept.handleGetCoreCount
      | getCoreStatus => exact hkept.handleGetCoreStatus _ _ hnames
      | sendMachineCode => exact hkept.handleSendMachineCode _ _ hnames
      | getPagingInfo => exact hkept.handleGetPagingInfo _ _ hnames
      | getIbsBuffer => exact hkept.handleGetIbsBuffer _ _ hnames
      | getDsmBuffer => exact hkept.handleGetDsmBuffer _ _ hnames
      | executeMachineCode => exact hasks trivial
      | applyUcodeExcuteTest => exact hasks trivial
      | readMsrOnCore => exact hasks trivial
      | startCore => exact hasks trivial
      | _ => exact (hkept.formatPrint _ _).bind fun _ => hkept.rejectWith _ _

end Reading

namespace Requesting

variable {firmware : Firmware} {relation : Server → Server → Prop} {kind : Access → Prop}
variable [IsPreorder Server relation] (hkept : Requesting firmware relation kind)
include hkept

theorem handleStartCore {limit : UInt64} (hlimit : firmware.ReportsAtMost limit)
    (payload : Memory) (payloadLength : UInt64)
    (hstarts : Kept.StartsInTable kind limit payload payloadLength) :
    Guarantees firmware relation (handleStartCore payload payloadLength) := by
  simp only [Handlers.handleStartCore]
  split
  · exact hkept.reject _ _ _
  rename_i hlong
  split
  · exact hkept.reject _ _ _
  rename_i hrange
  have hkinds := hstarts (UInt64.not_lt.mp hlong) (UInt64.not_lt.mp hrange)
  split
  · rename_i hall
    exact Guarantees.read.bind fun _ => hkept.startCores hlimit (hkinds.2 hall) _ _
  · refine (hkept.startCore hkinds.1).bind fun status => ?_
    split
    · exact Guarantees.pure _
    · exact hkept.succeed

theorem dispatch {limit : UInt64} (hlimit : firmware.ReportsAtMost limit)
    (messageType : UInt32) (payload : Memory) (payloadLength : UInt64)
    (hnames : Names kind limit (requestOf messageType) payload payloadLength) :
    Guarantees firmware relation (dispatch messageType payload payloadLength) := by
  refine hkept.toReading.dispatch messageType payload payloadLength hnames fun hasks => ?_
  simp only [Handlers.dispatch]
  cases hrequest : requestOf messageType with
  | none =>
      rw [hrequest] at hasks
      cases hasks
  | some request =>
      rw [hrequest] at hnames hasks
      cases request with
      | executeMachineCode => exact hkept.handleExecuteMachineCode _ _ hnames.1 hnames.2
      | applyUcodeExcuteTest =>
          exact hkept.handleApplyUcodeExecuteTest _ _ hnames.1 hnames.2.1 hnames.2.2
      | readMsrOnCore => exact hkept.handleReadMsrOnCore _ _ hnames
      | startCore => exact hkept.handleStartCore hlimit _ _ hnames
      | _ => cases hasks

theorem handleMessage {limit : UInt64} (hlimit : firmware.ReportsAtMost limit)
    (message : Memory) (messageLength : UInt64)
    (hnames : messageStatus message messageLength.toNat = .success →
      Names kind limit (requestOf (message.u32 1)) (message.shift 8) (messageLength - 8)) :
    Guarantees firmware relation (handleMessage message messageLength) :=
  hkept.toLooking.handleMessage message messageLength fun haccepted =>
    hkept.dispatch hlimit _ _ _ (hnames haccepted)

end Requesting

end Handlers

end AngryUefi
