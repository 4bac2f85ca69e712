import AngryUefi.Handlers.Emits

/-!
# One terminated reply

Every handler sends some messages with control byte 1 and then one with control
byte 0, unless a ping is malformed or too long for the response buffer, or the
last test result of the context behind the table is asked for.
-/

namespace AngryUefi

open AngryUefi.Bytes AngryUefi.Framing AngryUefi.Programs

namespace Handlers

/-- Where and how a request is served. -/
structure Serving (firmware : Firmware) (origin : Server) : Prop where
  delivers : firmware.Delivers
  prints : firmware.Prints
  formatBuffer : origin.formatBuffer.length < formatBufferLength
  resultBuffers : ∀ coreId < maxCoreCount.toNat,
    (origin.machine.contexts coreId).resultBufferLen ≤ resultBufferSize

namespace Serving

variable {firmware : Firmware} {origin : Server} (hserving : Serving firmware origin)
include hserving

theorem working : Working firmware (Silent firmware) fun _ => True :=
  working_silent hserving.prints _

theorem respond {report : String → EfiStatus → Handler Unit} (messageType : MessageType)
    (payload : Memory) {payloadLength messageSize : UInt64}
    (hlength : payloadLength.toNat ≤ 1400) (hsize : SizeMatches payloadLength messageSize)
    (lastMessage : Bool) :
    Emits firmware origin (Sent lastMessage)
      (respond report messageType payload payloadLength messageSize lastMessage) := by
  intro s hsteady result t hrun
  rw [respond_delivered hserving.delivers report messageType payload hlength hsize] at hrun
  cases hrun
  have hafter : Steady firmware origin s := hsteady
  refine ⟨⟨hafter.captured, hafter.formatBuffer⟩, _, rfl, rfl, ?_, rfl⟩
  exact .answered (by rwa [Memory.length_read]) .nil

theorem respondPayload {report : String → EfiStatus → Handler Unit} (messageType : MessageType)
    {payloadLength messageSize : UInt64} (hlength : payloadLength.toNat ≤ 1400)
    (hsize : SizeMatches payloadLength messageSize) (lastMessage : Bool) :
    Emits firmware origin (Sent lastMessage)
      (respondPayload report messageType payloadLength messageSize lastMessage) :=
  .silent_bind Guarantees.get fun _ => hserving.respond _ _ hlength hsize _

/-- A status with a text that fits `FormatBuffer`. -/
theorem sendStatus (statusCode : UInt32) {message : Option (List UInt16)}
    (hmessage : ∀ text ∈ message, text.length < formatBufferLength) :
    Emits firmware origin (Sent true) (sendStatus statusCode message) := by
  have hsend : ∀ responseSize : UInt64, responseSize.toNat ≤ 1400 →
      Emits firmware origin (Sent true) (do
        putPayload32 0 statusCode
        Handlers.respondPayload printStatusDebug .status responseSize
          (responseSize + headerSize) true) := fun responseSize hlength =>
    .silent_bind (hserving.working.putPayload32 _ _) fun _ =>
      hserving.respondPayload _ hlength (sizeMatches_add _) _
  cases message with
  | none =>
      apply Emits.silent_bind (hserving.working.putPayload32 _ _)
      intro _
      exact hsend _ (by decide)
  | some text =>
      have htext := hmessage text rfl
      have hsize : (8 + strSize text).toNat ≤ 1400 := by
        simp only [formatBufferLength] at htext
        simp only [strSize, UInt64.toNat_add, UInt64.toNat_mul, UInt64.toNat_ofNat']
        simp only [UInt64.reduceToNat]
        omega
      apply Emits.silent_bind (hserving.working.copyToPayload _ _)
      intro _
      apply Emits.silent_bind (hserving.working.putPayload32 _ _)
      intro _
      exact hsend _ hsize

theorem rejectWith (code : UInt32) (status : EfiStatus) :
    Emits firmware origin (fun result events => result = status ∧ Replied result events)
      (rejectWith code status) := by
  apply Emits.get.known_bind
  intro s hsteady
  have htext : ∀ text ∈ some s.formatBuffer, text.length < formatBufferLength := by
    rintro _ ⟨⟩
    exact hsteady.formatBuffer hserving.formatBuffer
  apply (hserving.sendStatus code htext).bind
  intro _ events hsent
  apply Emits.pure
  rw [List.append_nil]
  exact ⟨rfl, hsent.replied _⟩

theorem reject (code : UInt32) (text : String) (arguments : List UInt64) :
    Emits firmware origin (fun result events => result = .invalidParameter ∧ Replied result events)
      (reject code text arguments) :=
  .silent_bind (hserving.working.formatPrint _ _) fun _ => hserving.rejectWith _ _

theorem succeed : Emits firmware origin Replied succeed := by
  have hnone : ∀ text ∈ (none : Option (List UInt16)), text.length < formatBufferLength := nofun
  apply (hserving.sendStatus 0 hnone).bind
  intro _ events hsent
  apply Emits.pure
  rw [List.append_nil]
  exact hsent.replied _

/-- A message that does not fit is refused. -/
theorem respondPayload_refused {report : String → EfiStatus → Handler Unit}
    (hreport : Reports report) (messageType : MessageType) {payloadLength : UInt64}
    (hcapacity : responseBufferSize < payloadLength + 12) (messageSize : UInt64)
    (lastMessage : Bool) :
    Emits firmware origin (fun status events =>
        status = .invalidParameter ∧ sentBytes events = [])
      (Handlers.respondPayload report messageType payloadLength messageSize lastMessage) := by
  apply Emits.silent_bind Guarantees.get
  intro known s hsteady status t hrun
  have hafter : Steady firmware s t :=
    steady_respond hserving.prints hreport _ _ _ _ _ s status t hrun
  obtain ⟨rfl, htrace⟩ := respond_refused hreport hcapacity _ _ _ _ hrun
  exact ⟨trans_of (Steady firmware) hsteady hafter, _, htrace, rfl, rfl⟩

/-- Of a message that does not fit less than a header is sent. -/
theorem respondPayload_short {report : String → EfiStatus → Handler Unit}
    (hreport : Reports report) (messageType : MessageType) {payloadLength : UInt64}
    (hlong : ¬ payloadLength.toNat ≤ 1400) (lastMessage : Bool) :
    Emits firmware origin (fun _ events => (sentBytes events).length < 12)
      (Handlers.respondPayload report messageType payloadLength (payloadLength + headerSize)
        lastMessage) := by
  by_cases hcapacity : responseBufferSize < payloadLength + 12
  · apply (hserving.respondPayload_refused hreport messageType hcapacity _ lastMessage).mono
    rintro status events ⟨-, hevents⟩
    rw [hevents]
    decide
  · -- the sum wraps
    have hwraps : (payloadLength + headerSize).toNat < 12 := by
      have hnot := mt (length_le_of_capacity hcapacity) hlong
      have hheader : headerSize.toNat = 12 := rfl
      have hword := payloadLength.toNat_lt
      rw [UInt64.toNat_add, hheader]
      omega
    apply Emits.silent_bind Guarantees.get
    intro known s hsteady status t hrun
    have hafter : Steady firmware s t :=
      steady_respond hserving.prints hreport _ _ _ _ _ s status t hrun
    rw [respond_constructed hserving.delivers report messageType _ hcapacity] at hrun
    cases hrun
    refine ⟨trans_of (Steady firmware) hsteady hafter, _, rfl, ?_⟩
    simpa [sentBytes, Event.bytes] using hwraps

theorem replyPayload {report : String → EfiStatus → Handler Unit} (messageType : MessageType)
    {payloadLength messageSize : UInt64} (hlength : payloadLength.toNat ≤ 1400)
    (hsize : SizeMatches payloadLength messageSize) :
    Emits firmware origin Replied
      (Handlers.respondPayload report messageType payloadLength messageSize true) :=
  (hserving.respondPayload messageType hlength hsize true).mono
    fun status _ hsent => hsent.replied status

theorem rejected (code : UInt32) (text : String) (arguments : List UInt64) :
    Emits firmware origin Replied (Handlers.reject code text arguments) :=
  (hserving.reject code text arguments).mono fun _ _ hreplied => hreplied.2

theorem rejectedWith (code : UInt32) (status : EfiStatus) :
    Emits firmware origin Replied (Handlers.rejectWith code status) :=
  (hserving.rejectWith code status).mono fun _ _ hreplied => hreplied.2

/-! ## Pings, the message size, and the reset -/

theorem handlePing {payload : Memory} {payloadLength : UInt64} (hlong : 4 ≤ payloadLength)
    (hsize : (payload.u32 0).toUInt64 = payloadLength - 4)
    (hfits : (payload.u32 0 + 4).toNat ≤ 1400) :
    Emits firmware origin Replied (handlePing payload payloadLength) := by
  simp only [Handlers.handlePing, UInt64.not_lt.mpr hlong, hsize, ne_eq, not_true_eq_false,
    if_false]
  apply Emits.silent_bind (hserving.working.putPayload32 _ _)
  intro _
  apply Emits.silent_bind (hserving.working.copyToPayload _ _)
  intro _
  exact hserving.replyPayload _ hfits (sizeMatches_ping _)

theorem sendPongs {pingSize : UInt32} (hfits : (pingSize + 4).toNat ≤ 1400) (remaining : ℕ) :
    Emits firmware origin Replied
      (sendPongs pingSize (pingSize + 4 + headerSize.toUInt32).toUInt64 remaining) := by
  have hlength : (pingSize + 4).toUInt64.toNat ≤ 1400 := by rwa [UInt32.toNat_toUInt64]
  induction remaining with
  | zero => exact hserving.replyPayload _ hlength (sizeMatches_ping _)
  | succ remaining ih =>
      apply (hserving.respondPayload _ hlength (sizeMatches_ping pingSize) false).bind
      rintro _ events ⟨rfl, hflagged⟩
      exact ih.mono fun _ _ hreplied => hreplied.after ⟨rfl, hflagged⟩

theorem handleMultiPing {payload : Memory} {payloadLength : UInt64} (hlong : 8 ≤ payloadLength)
    (hsize : (payload.u32 1).toUInt64 = payloadLength - 8)
    (hfits : (payload.u32 1 + 4).toNat ≤ 1400) :
    Emits firmware origin Replied (handleMultiPing payload payloadLength) := by
  simp only [Handlers.handleMultiPing, UInt64.not_lt.mpr hlong, hsize, ne_eq,
    not_true_eq_false, if_false]
  apply Emits.silent_bind (hserving.working.putPayload32 _ _)
  intro _
  apply Emits.silent_bind (hserving.working.copyToPayload _ _)
  intro _
  exact hserving.sendPongs hfits _

omit hserving in
theorem capacity_of_ping {pingSize : UInt32} (hlong : ¬ (pingSize + 4).toNat ≤ 1400) :
    responseBufferSize < (pingSize + 4).toUInt64 + 12 := by
  have hsize : responseBufferSize.toNat = 1412 := rfl
  have htwelve : (12 : UInt64).toNat = 12 := rfl
  have hword := (pingSize + 4).toNat_lt
  rw [UInt64.lt_iff_toNat_lt, UInt64.toNat_add, UInt32.toNat_toUInt64, hsize, htwelve,
    Nat.mod_eq_of_lt (by omega)]
  omega

/-- A pong that does not fit is not sent. -/
theorem pong_refused {pingSize : UInt32} (hlong : ¬ (pingSize + 4).toNat ≤ 1400)
    (responseSize : UInt64) (lastMessage : Bool) :
    Emits firmware origin (fun status events =>
        status = .invalidParameter ∧ sentBytes events = [])
      (Handlers.respondPayload printStatusDebug .pong (pingSize + 4).toUInt64 responseSize
        lastMessage) :=
  hserving.respondPayload_refused reports_printStatusDebug _ (capacity_of_ping hlong) _ _

/-- A ping that is too short, of another size than it says, or too long. -/
theorem handlePing_unfinished {payload : Memory} {payloadLength : UInt64}
    (hfails : ¬ (4 ≤ payloadLength ∧ (payload.u32 0).toUInt64 = payloadLength - 4 ∧
      (payload.u32 0 + 4).toNat ≤ 1400)) :
    Emits firmware origin Unfinished (Handlers.handlePing payload payloadLength) := by
  simp only [Handlers.handlePing]
  split
  · exact Emits.pure (unfinished_of_silent rfl _)
  rename_i hlong
  split
  · exact Emits.pure (unfinished_of_silent rfl _)
  rename_i hsize
  have hbig : ¬ (payload.u32 0 + 4).toNat ≤ 1400 := fun hfits =>
    hfails ⟨UInt64.not_lt.mp hlong, not_not.mp hsize, hfits⟩
  apply Emits.silent_bind (hserving.working.putPayload32 _ _)
  intro _
  apply Emits.silent_bind (hserving.working.copyToPayload _ _)
  intro _
  exact (hserving.pong_refused hbig _ _).mono
    fun status _ hrefused => unfinished_of_silent hrefused.2 status

theorem handleMultiPing_unfinished {payload : Memory} {payloadLength : UInt64}
    (hfails : ¬ (8 ≤ payloadLength ∧ (payload.u32 1).toUInt64 = payloadLength - 8 ∧
      (payload.u32 1 + 4).toNat ≤ 1400)) :
    Emits firmware origin Unfinished (Handlers.handleMultiPing payload payloadLength) := by
  simp only [Handlers.handleMultiPing]
  split
  · exact Emits.pure (unfinished_of_silent rfl _)
  rename_i hlong
  split
  · exact Emits.pure (unfinished_of_silent rfl _)
  rename_i hsize
  have hbig : ¬ (payload.u32 1 + 4).toNat ≤ 1400 := fun hfits =>
    hfails ⟨UInt64.not_lt.mp hlong, not_not.mp hsize, hfits⟩
  apply Emits.silent_bind (hserving.working.putPayload32 _ _)
  intro _
  apply Emits.silent_bind (hserving.working.copyToPayload _ _)
  intro _
  -- the first pong is refused, be it the last one or not
  cases (payload.u32 0).toNat - 1 with
  | zero =>
      exact (hserving.pong_refused hbig _ _).mono
        fun status _ hrefused => unfinished_of_silent hrefused.2 status
  | succ remaining =>
      apply (hserving.pong_refused hbig _ _).bind
      rintro _ events ⟨rfl, hevents⟩
      apply Emits.pure
      rw [List.append_nil]
      exact unfinished_of_silent hevents _

theorem handleGetMsgSize (payloadLength : UInt64) :
    Emits firmware origin Replied (handleGetMsgSize payloadLength) := by
  apply Emits.silent_bind (hserving.working.putPayload32 _ _)
  intro _
  exact hserving.replyPayload _ (by decide) (sizeMatches_add 4)

theorem handleReboot (payload : Memory) (payloadLength : UInt64) :
    Emits firmware origin Replied (handleReboot payload payloadLength) := by
  have hnone : ∀ text ∈ (none : Option (List UInt16)), text.length < formatBufferLength := nofun
  simp only [Handlers.handleReboot]
  split
  · exact hserving.rejectedWith _ _
  · apply (hserving.sendStatus 0 hnone).bind
    intro _ events hsent
    apply Emits.silent_bind hserving.working.ask
    intro number
    apply Emits.silent_bind Guarantees.read
    intro environment
    split
    · apply Emits.pure
      rw [List.append_nil]
      exact hsent.replied _
    · exact Emits.failure

/-! ## The slots -/

theorem storeInSlot (table : SlotTable) (slot : ℕ) (payload : Memory) (size : UInt32) :
    Emits firmware origin Replied (storeInSlot table slot payload size) := by
  apply Emits.silent_bind (hserving.working.setLength trivial _)
  intro _
  apply Emits.silent_bind (hserving.working.writeSlot _ _ _ _ trivial)
  intro _
  exact hserving.succeed

theorem handleSend (table : SlotTable) {tooShort : UInt64 → Handler EfiStatus}
    {invalidSlot : UInt32 → Handler EfiStatus} {noMemory : Handler EfiStatus}
    (htooShort : ∀ length, Emits firmware origin Replied (tooShort length))
    (hinvalidSlot : ∀ slot, Emits firmware origin Replied (invalidSlot slot))
    (hnoMemory : Emits firmware origin Replied noMemory)
    (payload : Memory) (payloadLength : UInt64) :
    Emits firmware origin Replied
      (handleSend table tooShort invalidSlot noMemory payload payloadLength) := by
  simp only [Handlers.handleSend]
  split
  · exact htooShort _
  split
  · exact hinvalidSlot _
  apply Emits.silent_bind (hserving.working.slotOf trivial)
  intro container
  split
  · apply Emits.silent_bind (hserving.working.allocatePages trivial)
    intro allocated
    split
    · exact hserving.storeInSlot _ _ _ _
    · exact hnoMemory
  · exact hserving.storeInSlot _ _ _ _

theorem handleSendUcode (payload : Memory) (payloadLength : UInt64) :
    Emits firmware origin Replied (handleSendUcode payload payloadLength) :=
  hserving.handleSend .ucodes (fun _ => hserving.rejectedWith _ _)
    (fun _ => hserving.rejectedWith _ _) (hserving.rejectedWith _ _) _ _

theorem handleSendMachineCode (payload : Memory) (payloadLength : UInt64) :
    Emits firmware origin Replied (handleSendMachineCode payload payloadLength) :=
  hserving.handleSend .machineCodes (fun _ => hserving.rejected _ _ _)
    (fun _ => hserving.rejected _ _ _) (hserving.rejected _ _ _) _ _

theorem handleFlipBits (payload : Memory) (payloadLength : UInt64) :
    Emits firmware origin Replied (handleFlipBits payload payloadLength) := by
  simp only [Handlers.handleFlipBits]
  split
  · exact hserving.rejected _ _ _
  split
  · exact hserving.rejected _ _ _
  apply Emits.silent_bind (hserving.working.slotOf trivial)
  intro container
  split
  · exact hserving.rejected _ _ _
  split
  · apply Emits.silent_bind (hserving.working.copyToSlot1 covers_all trivial)
    intro _
    apply Emits.silent_bind (hserving.working.flipBits covers_all _ trivial _ _)
    intro _
    exact hserving.succeed
  · apply Emits.silent_bind (hserving.working.flipBits covers_all _ trivial _ _)
    intro _
    exact hserving.succeed

theorem handleApplyUcode (payload : Memory) (payloadLength : UInt64) :
    Emits firmware origin Replied (handleApplyUcode payload payloadLength) := by
  simp only [Handlers.handleApplyUcode]
  split
  · exact hserving.rejected _ _ _
  apply Emits.silent_bind (hserving.working.slotOf trivial)
  intro container
  split
  · exact hserving.rejected _ _ _
  apply Emits.silent_bind hserving.working.ask
  intro number
  apply Emits.silent_bind Guarantees.read
  intro environment
  apply Emits.silent_bind (hserving.working.putPayload64 _ _)
  intro _
  apply Emits.silent_bind (hserving.working.putPayload64 _ _)
  intro _
  exact hserving.replyPayload _ (by decide) (sizeMatches_add 16)

/-! ## The cores -/

theorem runRequest (coreId : UInt64) (request : Request) :
    Emits firmware origin (fun result events => events = [] ∧
        (Core0Pc.returned result).Measured
          (origin.machine.contexts coreId.toNat).resultBufferLen)
      (runRequest coreId request) := by
  intro s hsteady result t hrun
  have hsilent := hserving.working.runRequest trivial request s result t hrun
  have hmeasured := measured_runRequest hrun
  rw [hsteady.captured.resultBufferLen] at hmeasured
  have hafter := trans_of (Steady firmware) hsteady hsilent.toSteady
  exact ⟨hafter, [], by rw [hsilent.trace, List.append_nil], rfl, hmeasured⟩

theorem submitJob (coreId : UInt64) (job : Job) {answer : HandlerResult → Handler EfiStatus}
    (hanswer : ∀ result length, (Core0Pc.returned result).Measured length →
      length ≤ resultBufferSize → Emits firmware origin Replied (answer result)) :
    Emits firmware origin Replied (submitJob coreId job answer) := by
  simp only [Handlers.submitJob]
  split
  · exact hserving.rejected _ _ _
  rename_i hrange
  have hbuffer := hserving.resultBuffers coreId.toNat (core_lt_of_range hrange)
  apply (hserving.runRequest coreId (.job job)).known_bind
  intro result hmeasured
  split
  · exact hserving.rejected _ _ _
  · exact hanswer _ _ hmeasured hbuffer

theorem sendResultMessage (retRdtscValue retGpfValue flags length : UInt64)
    (copied : List UInt8) {size : UInt64} (hfits : (32 + size).toNat ≤ 1400)
    (isLastMessage : Bool) :
    Emits firmware origin (Sent isLastMessage)
      (sendResultMessage retRdtscValue retGpfValue flags length copied size isLastMessage) := by
  simp only [Handlers.sendResultMessage]
  iterate 4
    apply Emits.silent_bind (hserving.working.putPayload64 _ _)
    intro _
  apply Emits.silent_bind (hserving.working.copyToPayload _ _)
  intro _
  exact hserving.respondPayload _ hfits (sizeMatches_add _) _

omit hserving in
theorem result_fits {size : UInt64} (hsize : size ≤ resultBufferSize) :
    (32 + size).toNat ≤ 1400 := by
  have hbuffer : resultBufferSize.toNat = 1024 := rfl
  have hfixed : (32 : UInt64).toNat = 32 := rfl
  have hle := UInt64.le_iff_toNat_le.mp hsize
  rw [hbuffer] at hle
  rw [UInt64.toNat_add, hfixed, Nat.mod_eq_of_lt (by omega)]
  omega

theorem answerTest {result : HandlerResult} {length : UInt64}
    (hmeasured : (Core0Pc.returned result).Measured length)
    (hlength : length ≤ resultBufferSize) :
    Emits firmware origin Replied (answerTest result) := by
  cases result with
  | testResult timedOut fault retRdtscValue retGpfValue length copied size =>
      obtain ⟨-, rfl⟩ := hmeasured
      exact (hserving.sendResultMessage _ _ _ _ _ (result_fits hlength) _).mono
        fun status _ hsent => hsent.replied status
  | _ => exact Emits.failure

theorem sendMsrResponse (eax edx : UInt32) :
    Emits firmware origin Replied (sendMsrResponse eax edx) :=
  (hserving.respond _ _ (by decide) (sizeMatches_add (2 * 4)) true).mono
    fun status _ hsent => hsent.replied status

theorem handleReadMsr (payload : Memory) (payloadLength : UInt64) :
    Emits firmware origin Replied (handleReadMsr payload payloadLength) := by
  simp only [Handlers.handleReadMsr]
  split
  · exact hserving.rejected _ _ _
  apply Emits.silent_bind hserving.working.ask
  intro number
  apply Emits.silent_bind Guarantees.read
  intro environment
  exact hserving.sendMsrResponse _ _

theorem answerMsr (coreId : UInt64) (result : HandlerResult) :
    Emits firmware origin Replied (answerMsr coreId result) := by
  cases result with
  | msr eax edx => exact hserving.sendMsrResponse _ _
  | noResponse =>
      apply Emits.silent_bind (hserving.working.formatPrint _ _)
      intro _
      exact hserving.rejectedWith _ _
  | _ => exact Emits.failure

theorem handleExecuteMachineCode (payload : Memory) (payloadLength : UInt64) :
    Emits firmware origin Replied (handleExecuteMachineCode payload payloadLength) := by
  simp only [Handlers.handleExecuteMachineCode]
  split
  · exact hserving.rejected _ _ _
  split
  · exact hserving.rejected _ _ _
  apply Emits.silent_bind (hserving.working.slotOf trivial)
  intro container
  split
  · exact hserving.rejected _ _ _
  · exact hserving.submitJob _ _ fun _ _ hmeasured hlength =>
      hserving.answerTest hmeasured hlength

theorem handleApplyUcodeExecuteTest (payload : Memory) (payloadLength : UInt64) :
    Emits firmware origin Replied (handleApplyUcodeExecuteTest payload payloadLength) := by
  simp only [Handlers.handleApplyUcodeExecuteTest]
  split
  · exact hserving.rejected _ _ _
  split
  · exact hserving.rejected _ _ _
  split
  · exact hserving.rejected _ _ _
  apply Emits.silent_bind (hserving.working.slotOf trivial)
  intro ucode
  split
  · exact hserving.rejected _ _ _
  apply Emits.silent_bind (hserving.working.slotOf trivial)
  intro machineCode
  split
  · exact hserving.rejected _ _ _
  · exact hserving.submitJob _ _ fun _ _ hmeasured hlength =>
      hserving.answerTest hmeasured hlength

theorem handleReadMsrOnCore (payload : Memory) (payloadLength : UInt64) :
    Emits firmware origin Replied (handleReadMsrOnCore payload payloadLength) := by
  simp only [Handlers.handleReadMsrOnCore]
  split
  · exact hserving.rejected _ _ _
  split
  · exact hserving.handleReadMsr _ _
  apply Emits.silent_bind hserving.working.ask
  intro number
  apply Emits.silent_bind Guarantees.read
  intro environment
  exact hserving.submitJob _ _ fun result _ _ _ => hserving.answerMsr _ result

/-- `start_core` sends a status exactly when it fails. -/
theorem startCore (coreId : UInt64) :
    Emits firmware origin (fun status events =>
        status = .success ∧ events = [] ∨ status ≠ .success ∧ Replied status events)
      (startCore coreId) := by
  simp only [Handlers.startCore]
  apply Emits.silent_bind hserving.working.ask
  intro number
  apply Emits.silent_bind Guarantees.read
  intro environment
  apply Emits.silent_bind (hserving.working.runRequest trivial _)
  intro result
  split
  · apply Emits.silent_bind (hserving.working.formatPrint _ _)
    intro _
    apply (hserving.rejectWith _ _).mono
    rintro _ events ⟨rfl, hreplied⟩
    exact .inr ⟨(environment.startOnCore number).property, hreplied⟩
  · apply (hserving.reject _ _ _).mono
    rintro _ events ⟨rfl, hreplied⟩
    exact .inr ⟨by decide, hreplied⟩
  · exact Emits.pure (.inl ⟨rfl, rfl⟩)

theorem startCores (index : UInt64) (patience : ℕ) :
    Emits firmware origin Replied (startCores index patience) := by
  induction patience generalizing index with
  | zero => exact Emits.failure
  | succ patience ih =>
      simp only [Handlers.startCores]
      apply Emits.silent_bind hserving.working.getAvailableCores
      intro available
      split
      · apply Emits.silent_bind (hserving.working.contextOf trivial)
        intro context
        split
        · exact ih _
        apply (hserving.startCore index).bind
        rintro status events (⟨rfl, rfl⟩ | ⟨hstatus, hreplied⟩)
        · exact ih _
        · rw [if_pos hstatus]
          apply Emits.pure
          rwa [List.append_nil]
      · exact hserving.succeed

theorem handleStartCore (payload : Memory) (payloadLength : UInt64) :
    Emits firmware origin Replied (handleStartCore payload payloadLength) := by
  simp only [Handlers.handleStartCore]
  split
  · exact hserving.rejected _ _ _
  split
  · exact hserving.rejected _ _ _
  split
  · apply Emits.silent_bind Guarantees.read
    intro environment
    exact hserving.startCores _ _
  · apply (hserving.startCore _).bind
    rintro status events (⟨rfl, rfl⟩ | ⟨hstatus, hreplied⟩)
    · exact hserving.succeed
    · rw [if_pos hstatus]
      apply Emits.pure
      rwa [List.append_nil]

theorem handleGetCoreCount : Emits firmware origin Replied handleGetCoreCount := by
  apply Emits.silent_bind hserving.working.getAvailableCores
  intro available
  apply Emits.silent_bind (hserving.working.putPayload64 _ _)
  intro _
  exact hserving.replyPayload _ (by decide) (sizeMatches_add 8)

theorem sendCoreStatus (coreId : UInt64) (isLastMessage : Bool) :
    Emits firmware origin (Sent isLastMessage) (sendCoreStatus coreId isLastMessage) := by
  have hsend : ∀ responseSize : UInt64, responseSize.toNat ≤ 1400 →
      Emits firmware origin (Sent isLastMessage)
        (Handlers.respondPayload printStatus .coreStatusResponse responseSize
          (responseSize + headerSize) isLastMessage) := fun responseSize hlength =>
    hserving.respondPayload _ hlength (sizeMatches_add responseSize) _
  simp only [Handlers.sendCoreStatus]
  iterate 8
    apply Emits.silent_bind (hserving.working.contextOf trivial)
    intro _
  apply Emits.silent_bind hserving.working.ask
  intro number
  apply Emits.silent_bind Guarantees.read
  intro environment
  iterate 4
    apply Emits.silent_bind (hserving.working.putPayload64 _ _)
    intro _
  split
  · apply Emits.silent_bind (hserving.working.putPayload64 _ _)
    intro _
    apply Emits.silent_bind (hserving.working.contextOf trivial)
    intro _
    apply Emits.silent_bind (hserving.working.copyToPayload _ _)
    intro _
    exact hsend _ (by decide)
  · exact hsend _ (by decide)

theorem handleGetCoreStatus (payload : Memory) (payloadLength : UInt64) :
    Emits firmware origin Replied (handleGetCoreStatus payload payloadLength) := by
  simp only [Handlers.handleGetCoreStatus]
  split
  · exact hserving.rejected _ _ _
  split
  · exact hserving.rejected _ _ _
  · exact (hserving.sendCoreStatus _ _).mono fun status _ hsent => hsent.replied status

theorem contextOf (coreId : UInt64) :
    Emits firmware origin (fun context events => events = [] ∧
        context.resultBufferLen = (origin.machine.contexts coreId.toNat).resultBufferLen ∧
        ((∀ store, ¬ firmware.Stores coreId.toNat store) →
          (origin.machine.contexts coreId.toNat).SameCapture context)) (contextOf coreId) := by
  apply Emits.silent_bind hserving.working.runProcessors
  intro _
  apply Emits.silent_bind (hserving.working.access _ trivial)
  intro _
  apply Emits.get.known_bind
  intro s hsteady
  exact Emits.pure ⟨rfl, hsteady.captured.resultBufferLen _, hsteady.captured.sameCapture⟩

theorem handleGetLastTestResult {payload : Memory} {payloadLength : UInt64}
    (hfits : 8 ≤ payloadLength → payload.u64 0 ≤ maxCoreCount →
      (32 + (origin.machine.contexts (payload.u64 0).toNat).resultBufferLen).toNat ≤ 1400) :
    Emits firmware origin Replied (handleGetLastTestResult payload payloadLength) := by
  simp only [Handlers.handleGetLastTestResult]
  split
  · exact hserving.rejected _ _ _
  rename_i hlong
  split
  · exact hserving.rejected _ _ _
  rename_i hrange
  have hlength := hfits (UInt64.not_lt.mp hlong) (UInt64.not_lt.mp hrange)
  apply (hserving.sendCoreStatus _ false).bind
  rintro _ events ⟨rfl, hflagged⟩
  simp only [EfiStatus.isError_success, Bool.false_eq_true, if_false]
  iterate 4
    apply Emits.silent_bind (hserving.working.contextOf trivial)
    intro _
  apply (hserving.contextOf _).known_bind
  intro context hcontext
  rw [← hcontext.1] at hlength
  exact (hserving.sendResultMessage _ _ _ _ _ hlength true).mono
    fun status _ hsent => (hsent.replied status).after ⟨rfl, hflagged⟩

/-- The status of a core whose result does not fit: the client waits for a
second message. -/
theorem handleGetLastTestResult_unfinished {payload : Memory} {payloadLength : UInt64}
    (hlong : 8 ≤ payloadLength) (hrange : payload.u64 0 ≤ maxCoreCount)
    (hbig : ¬ (32 +
      (origin.machine.contexts (payload.u64 0).toNat).resultBufferLen).toNat ≤ 1400) :
    Emits firmware origin Unfinished
      (Handlers.handleGetLastTestResult payload payloadLength) := by
  simp only [Handlers.handleGetLastTestResult, UInt64.not_lt.mpr hlong, gt_iff_lt,
    UInt64.not_lt.mpr hrange, if_false]
  apply (hserving.sendCoreStatus _ false).bind
  rintro _ events ⟨rfl, hflagged⟩
  simp only [EfiStatus.isError_success, Bool.false_eq_true, if_false]
  iterate 4
    apply Emits.silent_bind (hserving.working.contextOf trivial)
    intro _
  apply (hserving.contextOf _).known_bind
  intro context hcontext
  rw [← hcontext.1] at hbig
  simp only [Handlers.sendResultMessage]
  iterate 4
    apply Emits.silent_bind (hserving.working.putPayload64 _ _)
    intro _
  apply Emits.silent_bind (hserving.working.copyToPayload _ _)
  intro _
  apply (hserving.respondPayload_short reports_printStatus _ hbig true).mono
  intro status later hshort
  exact ⟨1, events, later, rfl, hflagged, hshort⟩

/-! ## Events and page tables -/

theorem checkCoreId (coreId : UInt64) {proceed : Handler EfiStatus}
    (hproceed : Emits firmware origin Replied proceed) :
    Emits firmware origin Replied (checkCoreId coreId proceed) := by
  simp only [Handlers.checkCoreId]
  split
  · exact hserving.rejected _ _ _
  apply Emits.silent_bind (hserving.working.contextOf trivial)
  intro _
  split
  · exact hserving.rejected _ _ _
  apply Emits.silent_bind (hserving.working.contextOf trivial)
  intro _
  split
  · exact hserving.rejected _ _ _
  · exact hproceed

omit hserving in
/-- From `start` to the end of what is stored there are no more events than to the
end that was asked for. -/
theorem toNat_sub_le {start count stored : UInt64} (hstart : ¬ stored ≤ start)
    (hend : ¬ start + count < stored) : (stored - start).toNat ≤ count.toNat := by
  have hbefore := UInt64.lt_iff_toNat_lt.mp (UInt64.not_le.mp hstart)
  have hafter := UInt64.le_iff_toNat_le.mp (UInt64.not_lt.mp hend)
  have hcount := count.toNat_lt
  rw [UInt64.toNat_add] at hafter
  rw [UInt64.toNat_sub_of_le _ _ (UInt64.le_of_lt (UInt64.not_le.mp hstart))]
  omega

theorem copyEntries {stored : CoreContext → UInt64}
    (hstored : ∀ before after : CoreContext, before.SameCapture after →
      stored after = stored before)
    (bytesAt : CoreContext → UInt64 → List UInt8) {coreId : UInt64}
    (hleaves : ∀ store, ¬ firmware.Stores coreId.toNat store) (target : ℕ)
    (startIndex entryCount : UInt64) :
    Emits firmware origin (fun copied events => events = [] ∧ copied.toNat ≤ entryCount.toNat)
      (copyEntries stored bytesAt coreId target startIndex entryCount) := by
  have hcopy : ∀ endIndex : UInt64, (endIndex - startIndex).toNat ≤ entryCount.toNat →
      Emits firmware origin
        (fun copied events => events = [] ∧ copied.toNat ≤ entryCount.toNat) (do
          let context ← Handlers.contextOf coreId
          Handlers.copyToPayload target
            ((List.range (endIndex.toNat - startIndex.toNat)).flatMap fun offset =>
              bytesAt context (startIndex + UInt64.ofNat offset))
          return endIndex - startIndex) := by
    intro endIndex hcount
    apply Emits.silent_bind (hserving.working.contextOf trivial)
    intro _
    apply Emits.silent_bind (hserving.working.copyToPayload _ _)
    intro _
    exact Emits.pure ⟨rfl, hcount⟩
  simp only [Handlers.copyEntries]
  apply (hserving.contextOf coreId).known_bind
  intro first hfirst
  split
  · exact Emits.pure ⟨rfl, Nat.zero_le _⟩
  rename_i hstart
  rw [hstored _ _ (hfirst.2 hleaves)] at hstart
  apply (hserving.contextOf coreId).known_bind
  intro second hsecond
  split
  · exact hcopy _ (by rw [UInt64.add_comm, UInt64.add_sub_cancel])
  rename_i hend
  rw [hstored _ _ (hsecond.2 hleaves)] at hend
  have hlook : Emits firmware origin (fun count events => events = [] ∧
      count = stored (origin.machine.contexts coreId.toNat))
      (stored <$> Handlers.contextOf coreId) := by
    rw [map_eq_pure_bind]
    apply (hserving.contextOf coreId).known_bind
    intro third hthird
    exact Emits.pure ⟨rfl, hstored _ _ (hthird.2 hleaves)⟩
  apply hlook.known_bind
  rintro _ rfl
  exact hcopy _ (toNat_sub_le hstart hend)

theorem sendEvents {copy : ℕ → UInt64 → UInt64 → Handler UInt64}
    (hcopy : ∀ target startIndex entryCount, Emits firmware origin
      (fun copied events => events = [] ∧ copied.toNat ≤ entryCount.toNat)
      (copy target startIndex entryCount))
    (messageType : MessageType) (countIndex : ℕ) {minResponseSize : UInt64}
    (hmin : minResponseSize.toNat ≤ 64) (patience : ℕ) (startIndex : UInt64)
    {eventsToSend : UInt64} (hevents : eventsToSend ≠ 0) :
    Emits firmware origin Replied
      (sendEvents copy messageType countIndex minResponseSize patience startIndex
        eventsToSend) := by
  induction patience generalizing startIndex eventsToSend with
  | zero => exact Emits.failure
  | succ patience ih =>
      simp only [Handlers.sendEvents, hevents, if_false]
      apply (hcopy _ _ _).known_bind
      intro copied hcopied
      have hfits : (minResponseSize + copied * eventSize).toNat ≤ 1400 := by
        have hpacket := toNat_minimum_le eventsToSend
        have hevent : eventSize.toNat = 16 := rfl
        rw [UInt64.toNat_add, UInt64.toNat_mul, hevent]
        omega
      apply Emits.silent_bind (hserving.working.putPayload64 _ _)
      intro _
      apply (hserving.respondPayload _ hfits (sizeMatches_add _) _).bind
      rintro _ events ⟨rfl, hflagged⟩
      simp only [EfiStatus.isError_success, Bool.false_eq_true, if_false]
      by_cases hleft : eventsLeft eventsToSend copied = 0
      · simp only [hleft, BEq.rfl] at hflagged ⊢
        cases patience with
        | zero => exact Emits.failure
        | succ patience =>
            simp only [Handlers.sendEvents, if_true]
            apply Emits.pure
            rw [List.append_nil]
            exact ⟨0, hflagged⟩
      · rw [beq_eq_false_iff_ne.mpr hleft] at hflagged
        exact (ih _ hleft).mono fun _ _ hreplied => hreplied.after ⟨rfl, hflagged⟩

theorem handleGetIbsBuffer {payload : Memory}
    (hleaves : ∀ store, ¬ firmware.Stores (payload.u64 0).toNat store) (payloadLength : UInt64) :
    Emits firmware origin Replied (handleGetIbsBuffer payload payloadLength) := by
  have hempty : Emits firmware origin Replied
      (Handlers.respondPayload printStatusDebug .ibsBuffer (4 * 8) (4 * 8 + headerSize) true) :=
    hserving.replyPayload _ (by decide) (sizeMatches_add (4 * 8))
  simp only [Handlers.handleGetIbsBuffer]
  split
  · exact hserving.rejected _ _ _
  apply hserving.checkCoreId
  apply Emits.silent_bind (hserving.working.contextOf trivial)
  intro _
  split
  · iterate 4
      apply Emits.silent_bind (hserving.working.putPayload64 _ _)
      intro _
    exact hempty
  apply Emits.silent_bind (hserving.working.contextOf trivial)
  intro _
  iterate 4
    apply Emits.silent_bind (hserving.working.putPayload64 _ _)
    intro _
  split
  · exact hempty
  rename_i hevents
  simp only [not_or] at hevents
  apply Emits.silent_bind Guarantees.read
  intro environment
  exact hserving.sendEvents
    (fun _ _ _ => hserving.copyEntries (fun _ _ => ibsPosition_eq) _ hleaves _ _ _) _ _ (by decide)
    _ _ hevents.2.2

theorem handleGetDsmBuffer {payload : Memory}
    (hleaves : ∀ store, ¬ firmware.Stores (payload.u64 0).toNat store) (payloadLength : UInt64) :
    Emits firmware origin Replied (handleGetDsmBuffer payload payloadLength) := by
  simp only [Handlers.handleGetDsmBuffer]
  split
  · exact hserving.rejected _ _ _
  apply hserving.checkCoreId
  apply Emits.silent_bind (hserving.working.contextOf trivial)
  intro _
  split
  · iterate 2
      apply Emits.silent_bind (hserving.working.putPayload64 _ _)
      intro _
    exact hserving.replyPayload _ (by decide) (sizeMatches_add (2 * 8))
  iterate 2
    apply Emits.silent_bind (hserving.working.putPayload64 _ _)
    intro _
  apply Emits.silent_bind (hserving.working.contextOf trivial)
  intro _
  apply Emits.silent_bind (hserving.working.copyToPayload _ _)
  intro _
  apply Emits.silent_bind (hserving.working.contextOf trivial)
  intro _
  split
  · exact hserving.replyPayload _ (by decide) (sizeMatches_add _)
  rename_i hevents
  apply Emits.silent_bind Guarantees.read
  intro environment
  exact hserving.sendEvents
    (fun _ _ _ => hserving.copyEntries (fun _ _ => dsmItems_eq) _ hleaves _ _ _) _ _ (by decide)
    _ _ hevents

theorem sendPageinfo {pageinfoEntries : UInt64} (hentries : pageinfoEntries.toNat ≤ 80)
    (lastMessage : Bool) {proceed : Handler EfiStatus}
    {outcome : EfiStatus → List Event → Prop}
    (hproceed : ∀ events, Flagged [lastMessage] events →
      Emits firmware origin (fun status later => outcome status (events ++ later)) proceed) :
    Emits firmware origin outcome (sendPageinfo pageinfoEntries lastMessage proceed) := by
  have hfits : (pageinfoEntries * 16 + 3 * 8).toNat ≤ 1400 := by
    rw [UInt64.toNat_add, UInt64.toNat_mul]
    simp only [UInt64.reduceToNat, UInt64.reduceMul]
    omega
  have hsend : Emits firmware origin (Sent lastMessage)
      (sendPageinfoMessage pageinfoEntries lastMessage) :=
    .silent_bind (hserving.working.putPayload64 _ _) fun _ =>
      hserving.respondPayload _ hfits (sizeMatches_add _) _
  apply hsend.bind
  rintro _ events ⟨rfl, hflagged⟩
  simp only [ne_eq, not_true_eq_false, if_false]
  exact hproceed events hflagged

/-- Where the next entry goes: behind the entries since the last message. -/
structure EntryPosition (index wordPosition : ℕ) : Prop where
  full : index % maxEntriesPerPacket = 0 ∧ index ≠ 0 →
    wordPosition = 3 + 2 * maxEntriesPerPacket
  room : ¬ (index % maxEntriesPerPacket = 0 ∧ index ≠ 0) →
    wordPosition = 3 + 2 * (index % maxEntriesPerPacket)

omit hserving in
theorem EntryPosition.next {index position : ℕ}
    (hposition : position = 3 + 2 * (index % maxEntriesPerPacket)) :
    EntryPosition (index + 1) (position + 2) := by
  simp only [maxEntriesPerPacket] at hposition
  constructor
  · intro hfull
    simp only [maxEntriesPerPacket] at hfull ⊢
    omega
  · intro hroom
    simp only [maxEntriesPerPacket] at hroom ⊢
    omega

omit hserving in
theorem EntryPosition.entries_le {index wordPosition : ℕ}
    (hposition : EntryPosition index wordPosition) :
    (UInt64.ofNat ((wordPosition - 3) / 2)).toNat ≤ 80 := by
  obtain ⟨hfull, hroom⟩ := hposition
  simp only [maxEntriesPerPacket] at hfull hroom
  have hle : (wordPosition - 3) / 2 ≤ 80 := by omega
  rw [UInt64.toNat_ofNat']
  omega

theorem sendEntries (tableBase : UInt64) (pagingLevel : UInt8) (remaining : ℕ)
    {index wordPosition : ℕ} (hposition : EntryPosition index wordPosition) :
    Emits firmware origin Replied
      (sendEntries tableBase pagingLevel remaining index wordPosition) := by
  induction remaining generalizing index wordPosition with
  | zero =>
      apply hserving.sendPageinfo hposition.entries_le
      intro events hflagged
      apply Emits.pure
      rw [List.append_nil]
      exact ⟨0, hflagged⟩
  | succ remaining ih =>
      have hwrite : ∀ position, position = 3 + 2 * (index % maxEntriesPerPacket) →
          Emits firmware origin Replied (do
            let entry ← physicalWord (tableBase + 8 * UInt64.ofNat index)
            writeEntry position entry (UInt16.ofNat index) pagingLevel
            Handlers.sendEntries tableBase pagingLevel remaining (index + 1)
              (position + 2)) := by
        intro position hplace
        apply Emits.silent_bind (hserving.working.physicalWord _)
        intro entry
        apply Emits.silent_bind (hserving.working.writeEntry _ _ _ _)
        intro _
        exact ih (.next hplace)
      simp only [Handlers.sendEntries]
      by_cases hfull : index % maxEntriesPerPacket = 0 ∧ index ≠ 0
      · rw [if_pos hfull]
        apply hserving.sendPageinfo (by decide)
        intro events hflagged
        apply (hwrite 3 (by rw [hfull.1])).mono
        exact fun status _ hreplied => hreplied.after ⟨rfl, hflagged⟩
      · rw [if_neg hfull]
        exact hwrite _ (hposition.room hfull)

theorem sendTable (tableBase : UInt64) (tableLength : ℕ) (pagingLevel : UInt8)
    (flags cr3Value : UInt64) :
    Emits firmware origin Replied
      (sendTable tableBase tableLength pagingLevel flags cr3Value) := by
  apply Emits.silent_bind (hserving.working.putPayload64 _ _)
  intro _
  apply Emits.silent_bind (hserving.working.putPayload64 _ _)
  intro _
  exact hserving.sendEntries _ _ _ ⟨nofun, fun _ => rfl⟩

theorem sendEntry (entryAddress : UInt64) (position : UInt16) (pagingLevel : UInt8)
    (flags cr3Value : UInt64) :
    Emits firmware origin Replied
      (sendEntry entryAddress position pagingLevel flags cr3Value) := by
  apply Emits.silent_bind (hserving.working.putPayload64 _ _)
  intro _
  apply Emits.silent_bind (hserving.working.putPayload64 _ _)
  intro _
  apply Emits.silent_bind (hserving.working.physicalWord _)
  intro entry
  apply Emits.silent_bind (hserving.working.writeEntry _ _ _ _)
  intro _
  apply hserving.sendPageinfo (by decide)
  intro events hflagged
  apply Emits.pure
  rw [List.append_nil]
  exact ⟨0, hflagged⟩

theorem pagingLevelStep (table above aboveIndex index flags cr3 : UInt64) (level : UInt8)
    (code : UInt32) (text : String) {deeper : Handler EfiStatus}
    (hdeeper : Emits firmware origin Replied deeper) :
    Emits firmware origin Replied
      (pagingLevelStep table above aboveIndex index flags cr3 level code text deeper) := by
  simp only [Handlers.pagingLevelStep]
  split
  · exact hserving.sendTable _ _ _ _ _
  split
  · exact hserving.sendEntry _ _ _ _ _
  split
  · exact hserving.rejected _ _ _
  · exact hdeeper

theorem handleGetPagingInfo (payload : Memory) (payloadLength : UInt64) :
    Emits firmware origin Replied (handleGetPagingInfo payload payloadLength) := by
  simp only [Handlers.handleGetPagingInfo]
  split
  · exact hserving.rejected _ _ _
  apply hserving.checkCoreId
  apply Emits.silent_bind (hserving.working.contextOf trivial)
  intro _
  split
  · exact hserving.sendTable _ _ _ _ _
  split
  · exact hserving.rejected _ _ _
  apply Emits.silent_bind (hserving.working.getPdptAt _ _)
  intro pdpt
  apply hserving.pagingLevelStep
  apply Emits.silent_bind (hserving.working.getPdAt _ _ _)
  intro pd
  apply hserving.pagingLevelStep
  apply Emits.silent_bind (hserving.working.getPtAt _ _ _ _)
  intro pt
  apply hserving.pagingLevelStep
  exact hserving.sendEntry _ _ _ _ _

end Serving

/-! ## Requests -/

/-- The payload of a ping is as long as it says, and its pong fits. -/
structure PongFits (pingSize : UInt32) (headLength payloadLength : UInt64) : Prop where
  long : headLength ≤ payloadLength
  size : pingSize.toUInt64 = payloadLength - headLength
  fits : (pingSize + 4).toNat ≤ 1400

/-- The requests that are answered in full.  `handle_get_last_test_result` lets
the number 128 pass; what is behind the table has any size. -/
def Answered (request : Option MessageType) (payload : Memory) (payloadLength : UInt64)
    (s : Server) : Prop :=
  match request with
  | some .ping => PongFits (payload.u32 0) 4 payloadLength
  | some .multiPing => PongFits (payload.u32 1) 8 payloadLength
  | some .getLastTestResult => 8 ≤ payloadLength → payload.u64 0 ≤ maxCoreCount →
      (32 + (s.machine.contexts (payload.u64 0).toNat).resultBufferLen).toNat ≤ 1400
  | _ => True

/-- While the events of a core are asked for, no job stores or clears them. -/
def EventsStay (firmware : Firmware) (request : Option MessageType) (payload : Memory) : Prop :=
  match request with
  | some .getIbsBuffer | some .getDsmBuffer =>
      ∀ store, ¬ firmware.Stores (payload.u64 0).toNat store
  | _ => True

namespace Serving

variable {firmware : Firmware} {origin : Server} (hserving : Serving firmware origin)
include hserving

theorem dispatch {messageType : UInt32} {payload : Memory} {payloadLength : UInt64}
    (hstay : EventsStay firmware (requestOf messageType) payload)
    (hanswered : Answered (requestOf messageType) payload payloadLength origin) :
    Emits firmware origin Replied (dispatch messageType payload payloadLength) := by
  simp only [Handlers.dispatch]
  split
  · rename_i hrequest
    rw [hrequest] at hanswered
    exact hserving.handlePing hanswered.long hanswered.size hanswered.fits
  · rename_i hrequest
    rw [hrequest] at hanswered
    exact hserving.handleMultiPing hanswered.long hanswered.size hanswered.fits
  · exact hserving.handleGetMsgSize _
  · exact hserving.handleReboot _ _
  · exact hserving.handleSendUcode _ _
  · exact hserving.handleFlipBits _ _
  · exact hserving.handleApplyUcode _ _
  · exact hserving.handleApplyUcodeExecuteTest _ _
  · rename_i hrequest
    rw [hrequest] at hanswered
    exact hserving.handleGetLastTestResult hanswered
  · exact hserving.handleExecuteMachineCode _ _
  · exact hserving.handleReadMsr _ _
  · exact hserving.handleReadMsrOnCore _ _
  · exact hserving.handleGetCoreCount
  · exact hserving.handleStartCore _ _
  · exact hserving.handleGetCoreStatus _ _
  · exact hserving.handleSendMachineCode _ _
  · exact hserving.handleGetPagingInfo _ _
  · rename_i hrequest
    rw [hrequest] at hstay
    exact hserving.handleGetIbsBuffer hstay _
  · rename_i hrequest
    rw [hrequest] at hstay
    exact hserving.handleGetDsmBuffer hstay _
  · apply Emits.silent_bind (hserving.working.formatPrint _ _)
    intro _
    exact hserving.rejectedWith _ _

theorem dispatch_unfinished {messageType : UInt32} {payload : Memory} {payloadLength : UInt64}
    (hfails : ¬ Answered (requestOf messageType) payload payloadLength origin) :
    Emits firmware origin Unfinished (Handlers.dispatch messageType payload payloadLength) := by
  simp only [Handlers.dispatch]
  cases hrequest : requestOf messageType with
  | none => exact absurd (by rw [hrequest]; trivial) hfails
  | some request =>
      rw [hrequest] at hfails
      cases request
      case ping =>
        refine hserving.handlePing_unfinished ?_
        rintro ⟨hlong, hsize, hfits⟩
        exact hfails ⟨hlong, hsize, hfits⟩
      case multiPing =>
        refine hserving.handleMultiPing_unfinished ?_
        rintro ⟨hlong, hsize, hfits⟩
        exact hfails ⟨hlong, hsize, hfits⟩
      case getLastTestResult =>
        simp only [Answered, Classical.not_imp] at hfails
        exact hserving.handleGetLastTestResult_unfinished hfails.1 hfails.2.1 hfails.2.2
      all_goals exact absurd trivial hfails

/-- What a message that is accepted sends is what its handler sends. -/
theorem handleMessage {message : Memory} {messageLength : UInt64}
    {outcome : EfiStatus → List Event → Prop}
    (haccepted : messageStatus message messageLength.toNat = .success)
    (hdispatch : Emits firmware origin outcome
      (Handlers.dispatch (message.u32 1) (message.shift 8) (messageLength - 8))) :
    Emits firmware origin (fun _ events => ∃ status, outcome status events)
      (handleMessage message messageLength) := by
  simp only [Handlers.handleMessage, haccepted, EfiStatus.isError_success, Bool.false_eq_true,
    if_false]
  apply Emits.silent_bind hserving.working.useStack
  intro _
  apply hdispatch.bind
  intro status events houtcome
  apply Emits.pure
  rw [List.append_nil]
  exact ⟨status, houtcome⟩

end Serving

/-! ## What the client makes of it -/

/-- The control byte of a message that the client can parse. -/
def controlOf (body : List UInt8) : Option UInt8 :=
  if (parseMessage body).isSome then body[2]? else none

theorem controlOf_messageBody (messageType : UInt32) (payload : List UInt8)
    (lastMessage : Bool) :
    controlOf (messageBody messageType payload lastMessage) =
      some (if lastMessage then 0 else 1) := by
  simp only [controlOf, parseMessage_messageBody, Option.isSome_some, if_true]
  rfl

theorem controlOf_of_short {body : List UInt8} (hshort : body.length < 8) :
    controlOf body = none := by
  have hparse : parseMessage body = none := by
    rcases body with _ | ⟨_, _ | ⟨_, _ | ⟨_, _ | ⟨_, rest⟩⟩⟩⟩
    case cons.cons.cons.cons =>
      simp only [List.length_cons] at hshort
      have hrest : ¬ 4 ≤ rest.length := by omega
      simp [parseMessage, hrest]
    all_goals rfl
  simp [controlOf, hparse]

/-- The request was answered by whole messages, all but the last with control
byte 1, and the last with control byte 0. -/
def Terminated (s t : Server) : Prop :=
  ∃ bytes more, sentBytes t.trace = sentBytes s.trace ++ bytes ∧ (frames bytes).2 = [] ∧
    (frames bytes).1.map controlOf = List.replicate more (some 1) ++ [some 0]

theorem sentBytes_append (before after : List Event) :
    sentBytes (before ++ after) = sentBytes before ++ sentBytes after :=
  List.flatMap_append

/-- The control bytes of messages that are sent as frames, and what follows
them. -/
theorem Flagged.frames_append {flags : List Bool} {events : List Event}
    (hflagged : Flagged flags events) (rest : List UInt8) :
    (frames (sentBytes events ++ rest)).1.map controlOf =
        flags.map (fun lastMessage => some (if lastMessage then 0 else 1)) ++
          (frames rest).1.map controlOf ∧
      (frames (sentBytes events ++ rest)).2 = (frames rest).2 := by
  have hbodies : ∀ body ∈ (constructedTriples events).map (fun triple =>
      messageBody triple.1 triple.2.1 triple.2.2), body.length < 2 ^ 32 := by
    intro body hbody
    obtain ⟨triple, htriple, rfl⟩ := List.mem_map.mp hbody
    have hlength := hflagged.paired.length_le triple htriple
    rw [length_messageBody]
    omega
  rw [hflagged.paired.sentBytes_eq, frames_encode_append hbodies, ← hflagged.lastFlags_eq]
  refine ⟨?_, rfl⟩
  have hcontrols : controlOf ∘ (fun triple : UInt32 × List UInt8 × Bool =>
        messageBody triple.1 triple.2.1 triple.2.2) =
      (fun lastMessage => some (if lastMessage then 0 else 1)) ∘ fun triple => triple.2.2 := by
    funext triple
    exact controlOf_messageBody _ _ _
  simp only [List.map_append, List.map_map, lastFlags, hcontrols]

theorem Replied.terminated {status : EfiStatus} {s t : Server} {events : List Event}
    (hreplied : Replied status events) (htrace : t.trace = s.trace ++ events) :
    Terminated s t := by
  obtain ⟨more, hflagged⟩ := hreplied
  obtain ⟨hcontrols, hnothing⟩ := hflagged.frames_append []
  rw [List.append_nil] at hcontrols hnothing
  refine ⟨sentBytes events, more, by rw [htrace, sentBytes_append], hnothing, ?_⟩
  rw [hcontrols]
  simp [frames, framesWith]

theorem Unfinished.not_terminated {status : EfiStatus} {s t : Server} {events : List Event}
    (hunfinished : Unfinished status events) (htrace : t.trace = s.trace ++ events) :
    ¬ Terminated s t := by
  rintro ⟨bytes, count, hbytes, -, hterminated⟩
  rw [htrace, sentBytes_append] at hbytes
  obtain rfl := List.append_cancel_left hbytes
  obtain ⟨more, opening, rest, rfl, hflagged, hshort⟩ := hunfinished
  rw [sentBytes_append, (hflagged.frames_append _).1, List.map_replicate] at hterminated
  have hlast : some 0 ∈ List.replicate more (some (if false = true then (0 : UInt8) else 1)) ++
      (frames (sentBytes rest)).1.map controlOf := by
    rw [hterminated]
    simp
  rcases List.mem_append.mp hlast with hopening | hrest
  · cases List.eq_of_mem_replicate hopening
  · obtain ⟨body, hbody, hcontrol⟩ := List.mem_map.mp hrest
    have hlength := length_of_mem_frames hbody
    rw [controlOf_of_short (by omega)] at hcontrol
    cases hcontrol

/-- What a request needs to be served it leaves for the next one. -/
theorem Serving.steady {firmware : Firmware} {s t : Server} (hserving : Serving firmware s)
    (hsteady : Steady firmware s t) : Serving firmware t where
  delivers := hserving.delivers
  prints := hserving.prints
  formatBuffer := hsteady.formatBuffer hserving.formatBuffer
  resultBuffers coreId hcoreId := by
    rw [hsteady.captured.resultBufferLen]
    exact hserving.resultBuffers coreId hcoreId

theorem Serving.of_handleMessage {firmware : Firmware} {message : Memory}
    {messageLength : UInt64} {s t : Server} {status : EfiStatus}
    (hserving : Serving firmware s)
    (hrun : Handlers.handleMessage message messageLength firmware s = some (status, t)) :
    Serving firmware t := by
  have hkept : Kept firmware (Steady firmware) fun _ => True := kept_steady hserving.prints _
  have hmessage := hkept.handleMessage covers_all (reportsAtMost_max firmware) message
    messageLength fun _ => admits_all _ _ _ _
  exact hserving.steady (hmessage s status t hrun)

/-- A request is answered by one terminated reply exactly if it is one of those
that are answered in full. -/
theorem terminated_iff_answered {firmware : Firmware} {message : Memory}
    {messageLength : UInt64} {s t : Server} {status : EfiStatus}
    (hserving : Serving firmware s)
    (haccepted : messageStatus message messageLength.toNat = .success)
    (hstay : EventsStay firmware (requestOf (message.u32 1)) (message.shift 8))
    (hrun : handleMessage message messageLength firmware s = some (status, t)) :
    Terminated s t ↔
      Answered (requestOf (message.u32 1)) (message.shift 8) (messageLength - 8) s := by
  constructor
  · intro hterminated
    by_contra hfails
    have hemits := hserving.handleMessage haccepted (hserving.dispatch_unfinished hfails)
    obtain ⟨-, events, htrace, _, hunfinished⟩ :=
      hemits s (refl_of (Steady firmware) s) status t hrun
    exact hunfinished.not_terminated htrace hterminated
  · intro hanswered
    have hemits := hserving.handleMessage haccepted (hserving.dispatch hstay hanswered)
    obtain ⟨-, events, htrace, _, hreplied⟩ := hemits s (refl_of (Steady firmware) s) status t hrun
    exact hreplied.terminated htrace

theorem serving_loopback : Serving loopback idleServer where
  delivers := delivers_loopback
  prints _ _ := Nat.zero_lt_succ _
  formatBuffer := Nat.zero_lt_succ _
  resultBuffers _ _ := UInt64.le_refl _

theorem terminated_iff_answered_ping :
    ∃ t, handleMessage pingMessage 14 loopback idleServer = some (.success, t) ∧
      Terminated idleServer t := by
  obtain ⟨t, hrun⟩ :
      ∃ t, handleMessage pingMessage 14 loopback idleServer = some (.success, t) := ⟨_, rfl⟩
  have hstay : EventsStay loopback (requestOf (pingMessage.u32 1)) (pingMessage.shift 8) :=
    trivial
  refine ⟨t, hrun, (terminated_iff_answered serving_loopback rfl hstay hrun).mpr ?_⟩
  exact ⟨by decide, by decide, by decide⟩

/-- A ping without its size. -/
def shortPingMessage : Memory :=
  Memory.write (fun _ => 0) 0 [1, 0, 0, 0, 1, 0, 0, 0]

/-- The client waits for a pong that is never sent. -/
theorem not_terminated_shortPing :
    ∃ t, handleMessage shortPingMessage 8 loopback idleServer = some (.success, t) ∧
      ¬ Terminated idleServer t := by
  obtain ⟨t, hrun, htrace⟩ :
      ∃ t, handleMessage shortPingMessage 8 loopback idleServer = some (.success, t) ∧
        t.trace = idleServer.trace ++ [] := ⟨_, rfl, rfl⟩
  exact ⟨t, hrun, (unfinished_of_silent rfl .success).not_terminated htrace⟩

end Handlers

end AngryUefi
