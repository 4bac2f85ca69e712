import AngryUefi.Handlers.Dispatch

/-!
# What sending a message keeps

A relation between the state before and the state after that the primitive
operations keep is kept by every handler; which relation it is does not matter.
Here are the handlers that only prepare messages and send them.
-/

namespace AngryUefi

open AngryUefi.Bytes AngryUefi.Programs

/-- `GetNumberOfProcessors` reports at most so many processors, or an error. -/
def Firmware.ReportsAtMost (firmware : Firmware) (limit : UInt64) : Prop :=
  ∀ number, (firmware.getNumberOfProcessors number).1.isError = true ∨
    (firmware.getNumberOfProcessors number).2 ≤ limit

namespace Handlers

/-- A caller may send its message after constructing it: whenever the message
fits the response buffer, the byte count is that of the frame. -/
def SizeMatches (payloadLength messageSize : UInt64) : Prop :=
  payloadLength.toNat ≤ 1400 → messageSize.toNat = payloadLength.toNat + 12

theorem sizeMatches_add (payloadLength : UInt64) :
    SizeMatches payloadLength (payloadLength + headerSize) := by
  intro hlength
  have hheader : headerSize.toNat = 12 := rfl
  rw [UInt64.toNat_add, hheader, Nat.mod_eq_of_lt (by omega)]

/-- The sum of 32-bit words that the ping handlers compute. -/
theorem sizeMatches_ping (pingSize : UInt32) :
    SizeMatches (pingSize + 4).toUInt64 (pingSize + 4 + headerSize.toUInt32).toUInt64 := by
  intro hlength
  have hheader : headerSize.toUInt32.toNat = 12 := rfl
  rw [UInt32.toNat_toUInt64] at hlength
  rw [UInt32.toNat_toUInt64, UInt32.toNat_toUInt64, UInt32.toNat_add, hheader,
    Nat.mod_eq_of_lt (by omega)]

/-- The two ways to report an error of `construct_message` or `send_message`. -/
def Reports (report : String → EfiStatus → Handler Unit) : Prop :=
  report = printStatus ∨ report = printStatusDebug

theorem reports_printStatus : Reports printStatus := .inl rfl

theorem reports_printStatusDebug : Reports printStatusDebug := .inr rfl

theorem quiet_of_reports {firmware : Firmware}
    {report : String → EfiStatus → Handler Unit} (hreport : Reports report) (text : String)
    (status : EfiStatus) :
    Guarantees firmware Quiet (report text status) := by
  rcases hreport with rfl | rfl
  · exact quiet_formatPrint _ _
  · exact Guarantees.pure _

/-- What the steps of `construct_message` and `send_message` keep, a response keeps. -/
theorem guarantees_respond {firmware : Firmware} {relation : Server → Server → Prop}
    [IsPreorder Server relation] (hask : Guarantees firmware relation ask)
    (hformat : ∀ text arguments, Guarantees firmware relation (formatPrint text arguments))
    (hrecord : ∀ event, Guarantees firmware relation (record event))
    (hbuffer : ∀ s responseBuffer, relation s { s with responseBuffer })
    {report : String → EfiStatus → Handler Unit} (hreport : Reports report)
    (messageType : MessageType) (payload : Memory) (payloadLength messageSize : UInt64)
    (lastMessage : Bool) :
    Guarantees firmware relation
      (respond report messageType payload payloadLength messageSize lastMessage) := by
  have hreported : ∀ text status, Guarantees firmware relation (report text status) := by
    rcases hreport with rfl | rfl
    · exact fun _ _ => hformat _ _
    · exact fun _ _ => Guarantees.pure _
  have hconstruct : Guarantees firmware relation
      (constructMessage responseBufferSize messageType.code payload payloadLength
        lastMessage) := by
    simp only [constructMessage]
    split
    · exact (hrecord _).bind fun _ => Guarantees.pure _
    · exact (Guarantees.modify fun s => hbuffer s _).bind fun _ =>
        (hrecord _).bind fun _ => Guarantees.pure _
  have hsend : Guarantees firmware relation (sendMessage messageSize) := by
    refine hask.bind fun _ => Guarantees.read.bind fun _ => Guarantees.get.bind fun _ => ?_
    dsimp only
    split
    · exact Guarantees.pure _
    split
    · exact Guarantees.pure _
    · refine (hrecord _).bind fun _ => ?_
      split <;> exact Guarantees.pure _
  refine hconstruct.bind fun status => ?_
  split
  · exact (hreported _ _).bind fun _ => Guarantees.pure _
  refine hsend.bind fun status => ?_
  split
  · exact (hreported _ _).bind fun _ => Guarantees.pure _
  · exact Guarantees.pure _

/-- What only prepares a message keeps a relation. -/
structure Preparing (firmware : Firmware) (relation : Server → Server → Prop) : Prop where
  ask : Guarantees firmware relation ask
  formatPrint : ∀ text arguments, Guarantees firmware relation (formatPrint text arguments)
  copyToPayload : ∀ offset bytes, Guarantees firmware relation (copyToPayload offset bytes)

/-- What leads to a message keeps a relation. -/
structure Sending (firmware : Firmware) (relation : Server → Server → Prop) : Prop
    extends Preparing firmware relation where
  respond : ∀ report messageType payload payloadLength messageSize lastMessage,
    Reports report → SizeMatches payloadLength messageSize →
      Guarantees firmware relation
        (respond report messageType payload payloadLength messageSize lastMessage)

theorem messageStatus_eq_success {message : Memory} {messageLength : ℕ}
    (haccepted : ¬ (messageStatus message messageLength).isError = true) :
    messageStatus message messageLength = .success := by
  simp only [messageStatus] at haccepted ⊢
  split
  · rename_i hshort
    simp [hshort] at haccepted
  split
  · rename_i hlong hversion
    simp [hlong, hversion] at haccepted
  · rfl

theorem slot_lt_count (table : SlotTable) {slot : UInt32}
    (hrange : ¬ slot > table.count - 1) : slot.toNat < table.count.toNat := by
  have hcount : table.count = 10 := by cases table <;> rfl
  rw [hcount, gt_iff_lt, UInt32.lt_iff_toNat_lt] at hrange
  rw [hcount]
  exact Nat.lt_succ_of_le (Nat.le_of_not_lt hrange)

theorem core_lt_of_range {coreId : UInt64} (hrange : ¬ coreId ≥ maxCoreCount) :
    coreId.toNat < maxCoreCount.toNat :=
  UInt64.lt_iff_toNat_lt.mp (UInt64.not_le.mp hrange)

theorem returns_getAvailableCores {firmware : Firmware} {limit : UInt64}
    (hlimit : firmware.ReportsAtMost limit) :
    Returns firmware (· ≤ limit) getAvailableCores := by
  refine Returns.bind fun number => Returns.read.bind_of_returns ?_
  rintro _ rfl
  dsimp only
  split
  · exact Returns.bind fun _ => Returns.pure UInt64.zero_le
  · rename_i hsuccess
    exact Returns.pure ((hlimit number).resolve_left hsuccess)

namespace Preparing

variable {firmware : Firmware} {relation : Server → Server → Prop}
variable [IsPreorder Server relation] (hkept : Preparing firmware relation)
include hkept

omit [IsPreorder Server relation] in
theorem putPayload32 (index : ℕ) (value : UInt32) :
    Guarantees firmware relation (putPayload32 index value) :=
  hkept.copyToPayload _ _

omit [IsPreorder Server relation] in
theorem putPayload64 (index : ℕ) (value : UInt64) :
    Guarantees firmware relation (putPayload64 index value) :=
  hkept.copyToPayload _ _

theorem getAvailableCores : Guarantees firmware relation getAvailableCores := by
  refine hkept.ask.bind fun _ => Guarantees.read.bind fun _ => ?_
  dsimp only
  split
  · exact (hkept.formatPrint _ _).bind fun _ => Guarantees.pure _
  · exact Guarantees.pure _

theorem physicalWord (address : UInt64) :
    Guarantees firmware relation (physicalWord address) :=
  hkept.ask.bind fun _ => Guarantees.read.bind fun _ => Guarantees.pure _

theorem tableAt (table index : UInt64) :
    Guarantees firmware relation (tableAt table index) :=
  (hkept.physicalWord _).bind fun _ => Guarantees.pure _

theorem getPdptAt (cr3 pml4Index : UInt64) :
    Guarantees firmware relation (getPdptAt cr3 pml4Index) := by
  simp only [Handlers.getPdptAt]
  split
  · exact Guarantees.pure _
  · exact hkept.tableAt _ _

theorem getPdAt (cr3 pml4Index pdptIndex : UInt64) :
    Guarantees firmware relation (getPdAt cr3 pml4Index pdptIndex) := by
  refine (hkept.getPdptAt _ _).bind fun pdpt => ?_
  split
  · exact Guarantees.pure _
  · exact hkept.tableAt _ _

theorem getPtAt (cr3 pml4Index pdptIndex ptIndex : UInt64) :
    Guarantees firmware relation (getPtAt cr3 pml4Index pdptIndex ptIndex) := by
  refine (hkept.getPdAt _ _ _).bind fun pd => ?_
  split
  · exact Guarantees.pure _
  · exact hkept.tableAt _ _

theorem writeEntry (wordPosition : ℕ) (entry : UInt64) (position : UInt16)
    (pagingLevel : UInt8) :
    Guarantees firmware relation (writeEntry wordPosition entry position pagingLevel) :=
  (hkept.copyToPayload _ _).bind fun _ => hkept.putPayload64 _ _

end Preparing

namespace Sending

variable {firmware : Firmware} {relation : Server → Server → Prop}
variable [IsPreorder Server relation] (hkept : Sending firmware relation)
include hkept

theorem respondPayload {report : String → EfiStatus → Handler Unit} (hreport : Reports report)
    (messageType : MessageType) {payloadLength messageSize : UInt64}
    (hsize : SizeMatches payloadLength messageSize) (lastMessage : Bool) :
    Guarantees firmware relation
      (respondPayload report messageType payloadLength messageSize lastMessage) :=
  Guarantees.get.bind fun _ => hkept.respond _ _ _ _ _ _ hreport hsize

theorem sendStatus (statusCode : UInt32) (message : Option (List UInt16)) :
    Guarantees firmware relation (sendStatus statusCode message) := by
  have hsend : Guarantees firmware relation (do
      Handlers.putPayload32 0 statusCode
      Handlers.respondPayload printStatusDebug .status (8 + (message.map strSize).getD 0)
        (8 + (message.map strSize).getD 0 + headerSize) true) :=
    (hkept.putPayload32 _ _).bind fun _ =>
      hkept.respondPayload reports_printStatusDebug _ (sizeMatches_add _) _
  cases message with
  | none => exact (hkept.putPayload32 _ _).bind fun _ => hsend
  | some text =>
      exact (hkept.copyToPayload _ _).bind fun _ => (hkept.putPayload32 _ _).bind fun _ => hsend

theorem rejectWith (code : UInt32) (status : EfiStatus) :
    Guarantees firmware relation (rejectWith code status) :=
  Guarantees.get.bind fun _ => (hkept.sendStatus _ _).bind fun _ => Guarantees.pure _

theorem reject (code : UInt32) (text : String) (arguments : List UInt64) :
    Guarantees firmware relation (reject code text arguments) :=
  (hkept.formatPrint _ _).bind fun _ => hkept.rejectWith _ _

theorem succeed : Guarantees firmware relation succeed :=
  (hkept.sendStatus _ _).bind fun _ => Guarantees.pure _

/-! ## Pings, the message size, and the reset -/

theorem handlePing (payload : Memory) (payloadLength : UInt64) :
    Guarantees firmware relation (handlePing payload payloadLength) := by
  simp only [Handlers.handlePing]
  split
  · exact Guarantees.pure _
  split
  · exact Guarantees.pure _
  · exact (hkept.putPayload32 _ _).bind fun _ => (hkept.copyToPayload _ _).bind fun _ =>
      hkept.respondPayload reports_printStatusDebug _ (sizeMatches_ping _) _

theorem sendPongs (pingSize : UInt32) (remaining : ℕ) :
    Guarantees firmware relation
      (sendPongs pingSize (pingSize + 4 + headerSize.toUInt32).toUInt64 remaining) := by
  have hpong : ∀ lastMessage, Guarantees firmware relation
      (Handlers.respondPayload printStatusDebug .pong (pingSize + 4).toUInt64
        (pingSize + 4 + headerSize.toUInt32).toUInt64 lastMessage) := fun _ =>
    hkept.respondPayload reports_printStatusDebug _ (sizeMatches_ping _) _
  induction remaining with
  | zero => exact hpong true
  | succ remaining ih =>
      refine (hpong false).bind fun status => ?_
      split
      · exact Guarantees.pure _
      · exact ih

theorem handleMultiPing (payload : Memory) (payloadLength : UInt64) :
    Guarantees firmware relation (handleMultiPing payload payloadLength) := by
  simp only [Handlers.handleMultiPing]
  split
  · exact Guarantees.pure _
  split
  · exact Guarantees.pure _
  · exact (hkept.putPayload32 _ _).bind fun _ => (hkept.copyToPayload _ _).bind fun _ =>
      hkept.sendPongs _ _

theorem handleGetMsgSize (payloadLength : UInt64) :
    Guarantees firmware relation (handleGetMsgSize payloadLength) :=
  (hkept.putPayload32 _ _).bind fun _ =>
    hkept.respondPayload reports_printStatusDebug _ (sizeMatches_add 4) _

theorem handleReboot (payload : Memory) (payloadLength : UInt64) :
    Guarantees firmware relation (handleReboot payload payloadLength) := by
  simp only [Handlers.handleReboot]
  split
  · exact hkept.rejectWith _ _
  · refine (hkept.sendStatus _ _).bind fun _ => hkept.ask.bind fun _ =>
      Guarantees.read.bind fun _ => ?_
    split
    · exact Guarantees.pure _
    · exact Guarantees.failure

/-! ## Results, model-specific registers and page tables -/

theorem sendResultMessage (retRdtscValue retGpfValue flags length : UInt64)
    (copied : List UInt8) (size : UInt64) (isLastMessage : Bool) :
    Guarantees firmware relation
      (sendResultMessage retRdtscValue retGpfValue flags length copied size isLastMessage) :=
  (hkept.putPayload64 _ _).bind fun _ => (hkept.putPayload64 _ _).bind fun _ =>
    (hkept.putPayload64 _ _).bind fun _ => (hkept.putPayload64 _ _).bind fun _ =>
      (hkept.copyToPayload _ _).bind fun _ =>
        hkept.respondPayload reports_printStatus _ (sizeMatches_add _) _

theorem answerTest (result : HandlerResult) :
    Guarantees firmware relation (answerTest result) := by
  cases result with
  | testResult => exact hkept.sendResultMessage _ _ _ _ _ _ _
  | _ => exact Guarantees.failure

omit [IsPreorder Server relation] in
theorem sendMsrResponse (eax edx : UInt32) :
    Guarantees firmware relation (sendMsrResponse eax edx) :=
  hkept.respond _ _ _ _ _ _ reports_printStatus (sizeMatches_add (2 * 4))

theorem handleReadMsr (payload : Memory) (payloadLength : UInt64) :
    Guarantees firmware relation (handleReadMsr payload payloadLength) := by
  simp only [Handlers.handleReadMsr]
  split
  · exact hkept.reject _ _ _
  · exact hkept.ask.bind fun _ => Guarantees.read.bind fun _ => hkept.sendMsrResponse _ _

theorem answerMsr (coreId : UInt64) (result : HandlerResult) :
    Guarantees firmware relation (answerMsr coreId result) := by
  cases result with
  | msr eax edx => exact hkept.sendMsrResponse _ _
  | noResponse => exact (hkept.formatPrint _ _).bind fun _ => hkept.rejectWith _ _
  | _ => exact Guarantees.failure

theorem handleGetCoreCount : Guarantees firmware relation handleGetCoreCount :=
  hkept.getAvailableCores.bind fun _ => (hkept.putPayload64 _ _).bind fun _ =>
    hkept.respondPayload reports_printStatusDebug _ (sizeMatches_add 8) _

theorem sendPageinfo (pageinfoEntries : UInt64) (lastMessage : Bool)
    {proceed : Handler EfiStatus} (hproceed : Guarantees firmware relation proceed) :
    Guarantees firmware relation (sendPageinfo pageinfoEntries lastMessage proceed) := by
  have hsend : Guarantees firmware relation
      (sendPageinfoMessage pageinfoEntries lastMessage) :=
    (hkept.putPayload64 _ _).bind fun _ =>
      hkept.respondPayload reports_printStatusDebug _ (sizeMatches_add _) _
  refine hsend.bind fun status => ?_
  split
  · exact (hkept.formatPrint _ _).bind fun _ => hkept.rejectWith _ _
  · exact hproceed

theorem sendEntries (tableBase : UInt64) (pagingLevel : UInt8)
    (remaining index wordPosition : ℕ) :
    Guarantees firmware relation
      (sendEntries tableBase pagingLevel remaining index wordPosition) := by
  induction remaining generalizing index wordPosition with
  | zero => exact hkept.sendPageinfo _ _ (Guarantees.pure _)
  | succ remaining ih =>
      have hwrite : ∀ wordPosition, Guarantees firmware relation (do
          let entry ← Handlers.physicalWord (tableBase + 8 * UInt64.ofNat index)
          Handlers.writeEntry wordPosition entry (UInt16.ofNat index) pagingLevel
          Handlers.sendEntries tableBase pagingLevel remaining (index + 1)
            (wordPosition + 2)) :=
        fun _ => (hkept.physicalWord _).bind fun _ =>
          (hkept.writeEntry _ _ _ _).bind fun _ => ih _ _
      simp only [Handlers.sendEntries]
      split
      · exact hkept.sendPageinfo _ _ (hwrite 3)
      · exact hwrite _

theorem sendTable (tableBase : UInt64) (tableLength : ℕ) (pagingLevel : UInt8)
    (flags cr3Value : UInt64) :
    Guarantees firmware relation
      (sendTable tableBase tableLength pagingLevel flags cr3Value) :=
  (hkept.putPayload64 _ _).bind fun _ => (hkept.putPayload64 _ _).bind fun _ =>
    hkept.sendEntries _ _ _ _ _

theorem sendEntry (entryAddress : UInt64) (position : UInt16) (pagingLevel : UInt8)
    (flags cr3Value : UInt64) :
    Guarantees firmware relation
      (sendEntry entryAddress position pagingLevel flags cr3Value) :=
  (hkept.putPayload64 _ _).bind fun _ => (hkept.putPayload64 _ _).bind fun _ =>
    (hkept.physicalWord _).bind fun _ => (hkept.writeEntry _ _ _ _).bind fun _ =>
      hkept.sendPageinfo _ _ (Guarantees.pure _)

theorem pagingLevelStep (table above aboveIndex index flags cr3 : UInt64)
    (level : UInt8) (code : UInt32) (text : String) {deeper : Handler EfiStatus}
    (hdeeper : Guarantees firmware relation deeper) :
    Guarantees firmware relation
      (pagingLevelStep table above aboveIndex index flags cr3 level code text deeper) := by
  simp only [Handlers.pagingLevelStep]
  split
  · exact hkept.sendTable _ _ _ _ _
  split
  · exact hkept.sendEntry _ _ _ _ _
  split
  · exact hkept.reject _ _ _
  · exact hdeeper

end Sending

end Handlers

end AngryUefi
