import AngryUefi.Handlers.Admission
import AngryUefi.Handlers.Leaks
import AngryUefi.Handlers.Pongs
import AngryUefi.Handlers.Flips
import AngryUefi.Handlers.Running

/-!
# Every request is answered

A job whose client names a timeout keeps core 0 waiting for so many steps and no
more.  Requests of this kind, and those that wait for nobody, are answered one
after the other, whatever the processors do meanwhile.
-/

namespace AngryUefi

open AngryUefi.Bytes AngryUefi.Framing AngryUefi.Programs

theorem Job.answers_of_inInvocation {job : Job} {invocation : ℕ} {result : HandlerResult}
    (hanswers : (job.inInvocation invocation).Answers result) : job.Answers result := by
  cases job with
  | readMsrOnCore targetMsr buffer =>
      cases result with
      | testResult =>
          exact absurd rfl (hanswers targetMsr { buffer with invocation := invocation })
      | rejected => trivial
      | noResponse => exact ⟨targetMsr, buffer, rfl⟩
      | msr => exact ⟨targetMsr, buffer, rfl⟩
      | nothing => exact hanswers
      | started => exact hanswers
  | _ => exact hanswers

namespace Handlers

variable {firmware : Firmware} {s : Server}

/-! ## Jobs -/

/-- More iterations than the longest timeout allows. -/
def longestWait : ℕ := 7 * 2 ^ 32 + 29

/-- Core 0 serves no request. -/
def AtRest (s : Server) : Prop := s.machine.core0.pc.live = false

theorem asksFirmware_of_handles {pc : Core0Pc} {job : Job} (hhandles : pc.Handles job) :
    asksFirmware pc = false := by
  cases pc <;> first | rfl | cases hhandles

variable (firmware s) in
theorem core0_afterProcessors :
    (afterProcessors firmware s).machine.core0 = s.machine.core0 :=
  (Machine.moves_runProcessors (firmware.schedule s.clock) s.machine).2.1

/-- Every iteration brings the result nearer. -/
theorem runCore0_answers {coreId : UInt64} (hcoreId : coreId.toNat ≠ 0) {patience : ℕ}
    (hhandles : s.machine.core0.pc.Handles s.machine.core0.job)
    (hbounded : s.machine.core0.Bounded) (hpatience : s.machine.core0.stepsLeft < patience) :
    ∃ result t, runCore0 coreId patience firmware s = some (result, t) ∧
      s.machine.core0.job.Answers result := by
  induction patience generalizing s with
  | zero => exact absurd hpatience (Nat.not_lt_zero _)
  | succ patience ih =>
      have hcore0 := core0_afterProcessors firmware s
      cases hlive : s.machine.core0.pc.live with
      | false =>
          obtain ⟨result, hpc⟩ := Core0Pc.returned_of_not_live hlive
          refine ⟨result, _, runCore0_returned (by rw [hcore0]; exact hpc), ?_⟩
          rw [hpc] at hhandles
          exact hhandles
      | true =>
          rw [← hcore0] at hhandles hbounded hpatience hlive
          obtain ⟨p, hp⟩ := Pair.exists_nextStep
            (s := (afterProcessors firmware s).machine.working coreId.toNat) .twoStep
            hlive hhandles
          obtain ⟨hjob, hnearer, hstill⟩ := Pair.nearer_of_core0Step hlive hbounded hp
          have hkept := Pair.handles_of_nextStep hcoreId hhandles hp
          rw [runCore0_step hlive (asksFirmware_of_handles hhandles)
            (congrArg (Option.map _) hp)]
          have hanswers := @ih { afterProcessors firmware s with
            machine := { (afterProcessors firmware s).machine with
              target := coreId.toNat }.put coreId.toNat p.core0 p
            accesses := s.accesses ++ [.core coreId.toNat] } (hjob.symm ▸ hkept) hstill
              (hnearer.trans_le (Nat.lt_succ_iff.mp hpatience))
          rw [← hcore0]
          exact hjob ▸ hanswers

theorem timeout_lt_longestWait (job : Job) : 7 * job.timeout + 28 < longestWait := by
  simp only [longestWait]
  cases job with
  | readMsrOnCore targetMsr buffer => simp [Job.timeout]
  | executeMachineCode machineCode timeout =>
      have hword : timeout.toNat < 2 ^ 32 := timeout.toNat_lt
      simp only [Job.timeout]
      omega
  | applyUcodeExecuteTest ucode ucodeLength machineCode timeout options =>
      have hword : timeout.toNat < 2 ^ 32 := timeout.toNat_lt
      simp only [Job.timeout]
      omega

/-- The state in which core 0 begins to serve a request. -/
def afterRequest (coreId : ℕ) (request : Request) (s : Server) : Server :=
  { s with
    machine := { s.machine with target := coreId }.put coreId
      ((s.machine.working coreId).beginRequest request).core0
      ((s.machine.working coreId).beginRequest request)
    accesses := s.accesses ++ [.core coreId] }

theorem runRequest_eq (hrest : AtRest s) (coreId : UInt64) (request : Request) :
    runRequest coreId request firmware s =
      runCore0 coreId firmware.patience firmware (afterRequest coreId.toNat request s) := by
  obtain ⟨before, hpc⟩ := Core0Pc.returned_of_not_live hrest
  have hbegin : (s.machine.working coreId.toNat).core0Step .twoStep (.request request) =
      some ((s.machine.working coreId.toNat).beginRequest request) := by
    simp only [Pair.core0Step, Machine.working, hpc]
  have hmove : core0Move coreId (.request request) firmware s =
      some ((), afterRequest coreId.toNat request s) := by
    refine bind_eq_some_iff.mpr ⟨(), _, rfl, bind_eq_some_iff.mpr ⟨_, _, rfl, ?_⟩⟩
    simp only [Machine.core0Move, hbegin, Option.map_some]
    rfl
  have hread : (read : Handler Firmware) firmware s = some (firmware, s) := rfl
  rw [runRequest, bind_of_eq_some hread, bind_of_eq_some hmove]

theorem runRequest_answers {coreId : UInt64} (hcoreId : coreId.toNat ≠ 0) {job : Job}
    (htimeout : job.timeout ≠ 0) (hpatience : longestWait ≤ firmware.patience)
    (hrest : AtRest s) :
    ∃ result t, runRequest coreId (.job job) firmware s = some (result, t) ∧
      job.Answers result := by
  have hrequest : Request.Bounded (.job job) := htimeout
  obtain ⟨hbounded, hsteps⟩ := Pair.bounded_beginRequest (s := s.machine.working coreId.toNat)
    hrequest
  have hhandles : (afterRequest coreId.toNat (.job job) s).machine.core0.pc.Handles
      (afterRequest coreId.toNat (.job job) s).machine.core0.job := trivial
  have hwait : (afterRequest coreId.toNat (.job job) s).machine.core0.stepsLeft <
      firmware.patience :=
    (hsteps.trans_lt (timeout_lt_longestWait job)).trans_le hpatience
  obtain ⟨result, t, hrun, hanswers⟩ := runCore0_answers hcoreId hhandles hbounded hwait
  rw [runRequest_eq hrest]
  exact ⟨result, t, hrun, Job.answers_of_inInvocation hanswers⟩

/-- A message about a core that is not core 0. -/
theorem completes_submitJob {coreId : UInt64} (hcoreId : coreId.toNat ≠ 0) {job : Job}
    (htimeout : job.timeout ≠ 0) (hpatience : longestWait ≤ firmware.patience)
    {answer : HandlerResult → Handler EfiStatus}
    (hanswer : ∀ result, job.Answers result → (∀ code, result ≠ .rejected code) →
      Completes firmware (answer result)) :
    CompletesFrom firmware AtRest (submitJob coreId job answer) := by
  simp only [submitJob]
  split
  · exact (completes_reject _ _ _).from_initial AtRest
  intro s hrest
  obtain ⟨result, middle, hrun, hanswers⟩ :=
    runRequest_answers hcoreId htimeout hpatience hrest
  rw [bind_of_eq_some hrun]
  split
  · exact completes_reject _ _ _ _
  · rename_i hserved
    exact hanswer result hanswers hserved _

theorem completes_printStatus (text : String) (status : EfiStatus) :
    Completes firmware (printStatus text status) := completes_formatPrint _ _

theorem completes_respondPayload {report : String → EfiStatus → Handler Unit}
    (hreport : Reports report) (messageType : MessageType)
    (payloadLength messageSize : UInt64) (lastMessage : Bool) :
    Completes firmware
      (respondPayload report messageType payloadLength messageSize lastMessage) := by
  refine Completes.get.bind fun _ => completes_respond (fun _ _ => ?_) _ _ _ _ _
  rcases hreport with rfl | rfl
  · exact completes_printStatus _ _
  · exact Completes.pure _

theorem completes_putPayload64 (index : ℕ) (value : UInt64) :
    Completes firmware (putPayload64 index value) := Completes.modify _

theorem completes_sendResultMessage (retRdtscValue retGpfValue flags length : UInt64)
    (copied : List UInt8) (size : UInt64) (isLastMessage : Bool) :
    Completes firmware
      (sendResultMessage retRdtscValue retGpfValue flags length copied size isLastMessage) :=
  (completes_putPayload64 _ _).bind fun _ => (completes_putPayload64 _ _).bind fun _ =>
    (completes_putPayload64 _ _).bind fun _ => (completes_putPayload64 _ _).bind fun _ =>
      (Completes.modify _).bind fun _ => completes_respondPayload reports_printStatus _ _ _ _

theorem completes_answerTest {job : Job} {result : HandlerResult}
    (hjob : ∀ targetMsr buffer, job ≠ .readMsrOnCore targetMsr buffer)
    (hanswers : job.Answers result) (hserved : ∀ code, result ≠ .rejected code) :
    Completes firmware (answerTest result) := by
  cases result with
  | testResult => exact completes_sendResultMessage _ _ _ _ _ _ _
  | rejected code => exact absurd rfl (hserved code)
  | noResponse =>
      obtain ⟨targetMsr, buffer, hreads⟩ := hanswers
      exact absurd hreads (hjob targetMsr buffer)
  | msr =>
      obtain ⟨targetMsr, buffer, hreads⟩ := hanswers
      exact absurd hreads (hjob targetMsr buffer)
  | nothing => cases hanswers
  | started => cases hanswers

theorem completes_sendMsrResponse (eax edx : UInt32) :
    Completes firmware (sendMsrResponse eax edx) :=
  completes_respond completes_printStatus _ _ _ _ _

theorem completes_answerMsr (coreId : UInt64) {targetMsr : UInt32} {buffer : StackBuffer}
    {result : HandlerResult} (hanswers : (Job.readMsrOnCore targetMsr buffer).Answers result)
    (hserved : ∀ code, result ≠ .rejected code) :
    Completes firmware (answerMsr coreId result) := by
  cases result with
  | msr eax edx => exact completes_sendMsrResponse _ _
  | noResponse => exact (completes_formatPrint _ _).bind fun _ => completes_rejectWith _ _
  | rejected code => exact absurd rfl (hserved code)
  | testResult => exact absurd rfl (hanswers targetMsr buffer)
  | nothing => cases hanswers
  | started => cases hanswers

/-! ## Slots -/

theorem completes_slotOf (table : SlotTable) (slot : ℕ) :
    Completes firmware (slotOf table slot) :=
  (Completes.modify _).bind fun _ => Completes.get.bind fun _ => Completes.pure _

theorem completes_setLength (table : SlotTable) (slot : ℕ) (length : UInt64) :
    Completes firmware (setLength table slot length) :=
  (Completes.modify _).bind fun _ => Completes.modify _

theorem completes_writeSlot (table : SlotTable) (slot start : ℕ) (bytes : List UInt8) :
    Completes firmware (writeSlot table slot start bytes) :=
  (Completes.modify _).bind fun _ => Completes.modify _

theorem completes_storeInSlot (table : SlotTable) (slot : ℕ) (payload : Memory)
    (size : UInt32) : Completes firmware (storeInSlot table slot payload size) :=
  (completes_setLength _ _ _).bind fun _ => (completes_writeSlot _ _ _ _).bind fun _ =>
    completes_succeed

theorem completes_handleSend (table : SlotTable) {tooShort : UInt64 → Handler EfiStatus}
    {invalidSlot : UInt32 → Handler EfiStatus} {noMemory : Handler EfiStatus}
    (htooShort : ∀ length, Completes firmware (tooShort length))
    (hinvalidSlot : ∀ slot, Completes firmware (invalidSlot slot))
    (hnoMemory : Completes firmware noMemory) (payload : Memory) (payloadLength : UInt64) :
    Completes firmware
      (handleSend table tooShort invalidSlot noMemory payload payloadLength) := by
  simp only [handleSend]
  split
  · exact htooShort _
  split
  · exact hinvalidSlot _
  refine (completes_slotOf _ _).bind fun container => ?_
  split
  · refine (completes_allocatePages firmware _ _).bind fun allocated => ?_
    split
    · exact completes_storeInSlot _ _ _ _
    · exact hnoMemory
  · exact completes_storeInSlot _ _ _ _

theorem completes_flipBit (slot : ℕ) (ucodeLength : UInt64) (position : UInt32) :
    Completes firmware (flipBit slot ucodeLength position) := by
  simp only [flipBit]
  split
  · exact Completes.pure _
  · exact (completes_slotOf _ _).bind fun _ => completes_writeSlot _ _ _ _

theorem completes_flipBits (payload : Memory) (targetSlot index remaining : ℕ) :
    Completes firmware (flipBits payload targetSlot index remaining) := by
  induction remaining generalizing index with
  | zero => exact Completes.pure _
  | succ remaining ih =>
      exact (completes_slotOf _ _).bind fun _ => (completes_flipBit _ _ _).bind fun _ => ih _

theorem completes_copyToSlot1 (targetSlot : ℕ) :
    Completes firmware (copyToSlot1 targetSlot) := by
  have hcopy : Completes firmware (do
      let source ← slotOf .ucodes targetSlot
      writeSlot .ucodes 1 0 (source.contents.read 0 source.length.toNat)
      setLength .ucodes 1 source.length) :=
    (completes_slotOf _ _).bind fun _ => (completes_writeSlot _ _ _ _).bind fun _ =>
      completes_setLength _ _ _
  refine (completes_slotOf _ _).bind fun container => ?_
  dsimp only
  split
  · exact (completes_allocatePages firmware _ _).bind fun _ =>
      (completes_setLength _ _ _).bind fun _ => hcopy
  · exact hcopy

theorem completes_handleFlipBits (payload : Memory) (payloadLength : UInt64) :
    Completes firmware (handleFlipBits payload payloadLength) := by
  have hflips : ∀ targetSlot numFlips, Completes firmware (do
      flipBits payload targetSlot 0 numFlips
      succeed) := fun _ _ => (completes_flipBits _ _ _ _).bind fun _ => completes_succeed
  simp only [handleFlipBits]
  split
  · exact completes_reject _ _ _
  split
  · exact completes_reject _ _ _
  refine (completes_slotOf _ _).bind fun container => ?_
  split
  · exact completes_reject _ _ _
  split
  · exact (completes_copyToSlot1 _).bind fun _ => hflips _ _
  · exact hflips _ _

theorem completes_handleApplyUcode (payload : Memory) (payloadLength : UInt64) :
    Completes firmware (handleApplyUcode payload payloadLength) := by
  simp only [handleApplyUcode]
  split
  · exact completes_reject _ _ _
  refine (completes_slotOf _ _).bind fun container => ?_
  split
  · exact completes_reject _ _ _
  · exact completes_ask.bind fun _ => Completes.read.bind fun _ =>
      (completes_putPayload64 _ _).bind fun _ => (completes_putPayload64 _ _).bind fun _ =>
        completes_respondPayload reports_printStatus _ _ _ _

/-! ## Pings, and the state of a core -/

theorem completes_handlePing (payload : Memory) (payloadLength : UInt64) :
    Completes firmware (handlePing payload payloadLength) := by
  simp only [handlePing]
  split
  · exact Completes.pure _
  split
  · exact Completes.pure _
  · exact (Completes.modify _).bind fun _ => (Completes.modify _).bind fun _ =>
      completes_respondPayload reports_printStatusDebug _ _ _ _

theorem completes_handleMultiPing (payload : Memory) (payloadLength : UInt64) :
    Completes firmware (handleMultiPing payload payloadLength) := by
  simp only [handleMultiPing]
  split
  · exact Completes.pure _
  split
  · exact Completes.pure _
  · exact (Completes.modify _).bind fun _ => (Completes.modify _).bind fun _ =>
      completes_sendPongs firmware _ _ _

theorem completes_handleReadMsr (payload : Memory) (payloadLength : UInt64) :
    Completes firmware (handleReadMsr payload payloadLength) := by
  simp only [handleReadMsr]
  split
  · exact completes_reject _ _ _
  · exact completes_ask.bind fun _ => Completes.read.bind fun _ => completes_sendMsrResponse _ _

theorem completes_getAvailableCores : Completes firmware getAvailableCores := by
  refine completes_ask.bind fun number => Completes.read.bind fun environment => ?_
  dsimp only
  split
  · exact (completes_formatPrint _ _).bind fun _ => Completes.pure _
  · exact Completes.pure _

theorem completes_contextOf (coreId : UInt64) : Completes firmware (contextOf coreId) :=
  (passes_contextOf coreId).completes

theorem completes_sendCoreStatus (coreId : UInt64) (isLastMessage : Bool) :
    Completes firmware (sendCoreStatus coreId isLastMessage) := by
  simp only [sendCoreStatus]
  iterate 8 refine (completes_contextOf _).bind fun _ => ?_
  refine completes_ask.bind fun _ => Completes.read.bind fun _ => ?_
  iterate 4 refine (completes_putPayload64 _ _).bind fun _ => ?_
  split
  · exact (completes_putPayload64 _ _).bind fun _ => (completes_contextOf _).bind fun _ =>
      (Completes.modify _).bind fun _ => completes_respondPayload reports_printStatus _ _ _ _
  · exact completes_respondPayload reports_printStatus _ _ _ _

theorem completes_handleGetLastTestResult (payload : Memory) (payloadLength : UInt64) :
    Completes firmware (handleGetLastTestResult payload payloadLength) := by
  simp only [handleGetLastTestResult]
  split
  · exact completes_reject _ _ _
  split
  · exact completes_reject _ _ _
  refine (completes_sendCoreStatus _ _).bind fun status => ?_
  split
  · exact Completes.pure _
  iterate 5 refine (completes_contextOf _).bind fun _ => ?_
  exact completes_sendResultMessage _ _ _ _ _ _ _

/-! ## Page tables -/

theorem completes_sendTable (tableBase : UInt64) (tableLength : ℕ) (pagingLevel : UInt8)
    (flags cr3Value : UInt64) :
    Completes firmware (sendTable tableBase tableLength pagingLevel flags cr3Value) :=
  (completes_putPayload64 _ _).bind fun _ => (completes_putPayload64 _ _).bind fun _ =>
    completes_sendEntries _ _ _ _ _

theorem completes_sendEntry (entryAddress : UInt64) (position : UInt16) (pagingLevel : UInt8)
    (flags cr3Value : UInt64) :
    Completes firmware (sendEntry entryAddress position pagingLevel flags cr3Value) :=
  (completes_putPayload64 _ _).bind fun _ => (completes_putPayload64 _ _).bind fun _ =>
    (passes_physicalWord _).completes.bind fun _ =>
      ((Completes.modify _).bind fun _ => Completes.modify _).bind fun _ =>
        completes_sendPageinfo _ _ (Completes.pure _)

theorem completes_pagingLevelStep {deeper : Handler EfiStatus}
    (hdeeper : Completes firmware deeper) (table above aboveIndex index flags cr3 : UInt64)
    (level : UInt8) (code : UInt32) (text : String) :
    Completes firmware
      (pagingLevelStep table above aboveIndex index flags cr3 level code text deeper) := by
  simp only [pagingLevelStep]
  split
  · exact completes_sendTable _ _ _ _ _
  split
  · exact completes_sendEntry _ _ _ _ _
  split
  · exact completes_reject _ _ _
  · exact hdeeper

theorem completes_checkCoreId (coreId : UInt64) {proceed : Handler EfiStatus}
    (hproceed : Completes firmware proceed) : Completes firmware (checkCoreId coreId proceed) := by
  simp only [checkCoreId]
  split
  · exact completes_reject _ _ _
  refine (completes_contextOf _).bind fun _ => ?_
  split
  · exact completes_reject _ _ _
  refine (completes_contextOf _).bind fun _ => ?_
  split
  · exact completes_reject _ _ _
  · exact hproceed

theorem completes_handleGetPagingInfo (payload : Memory) (payloadLength : UInt64) :
    Completes firmware (handleGetPagingInfo payload payloadLength) := by
  simp only [handleGetPagingInfo]
  split
  · exact completes_reject _ _ _
  refine completes_checkCoreId _ ((completes_contextOf _).bind fun context => ?_)
  split
  · exact completes_sendTable _ _ _ _ _
  split
  · exact completes_reject _ _ _
  refine (passes_getPdptAt _ _).completes.bind fun pdpt => completes_pagingLevelStep ?_ _ _ _ _ _ _
    _ _ _
  refine (passes_getPdAt _ _ _).completes.bind fun pd => completes_pagingLevelStep ?_ _ _ _ _ _ _
    _ _ _
  refine (passes_getPtAt _ _ _ _).completes.bind fun pt => completes_pagingLevelStep ?_ _ _ _ _ _
    _ _ _ _
  exact completes_sendEntry _ _ _ _ _

/-! ## Requests -/

/-- The requests during which core 0 waits for nobody, or for a processor as
long as the client says, and which are answered in full. -/
def Prompt (request : Option MessageType) (payload : Memory) (payloadLength : UInt64) : Prop :=
  match request with
  | some .ping => PongFits (payload.u32 0) 4 payloadLength
  | some .multiPing => PongFits (payload.u32 1) 8 payloadLength
  | some .getLastTestResult => payload.u64 0 ≠ maxCoreCount
  | some .executeMachineCode => payload.u32 1 ≠ 0 ∧ payload.u32 2 ≠ 0
  | some .applyUcodeExcuteTest => payload.u32 2 ≠ 0 ∧ payload.u32 3 ≠ 0
  | some .reboot | some .startCore | some .getIbsBuffer | some .getDsmBuffer => False
  | _ => True

/-- None of them is about captured events. -/
theorem eventsStay_of_prompt {request : Option MessageType} {payload : Memory}
    {payloadLength : UInt64} (hprompt : Prompt request payload payloadLength) :
    EventsStay firmware request payload := by
  cases request with
  | none => trivial
  | some request => cases request <;> trivial

theorem answered_of_prompt {request : Option MessageType} {payload : Memory}
    {payloadLength : UInt64} (hserving : Serving firmware s)
    (hprompt : Prompt request payload payloadLength) :
    Answered request payload payloadLength s := by
  cases request with
  | none => trivial
  | some request =>
      cases request
      case ping => exact hprompt
      case multiPing => exact hprompt
      case getLastTestResult =>
        intro _ hmost
        have hinside : (payload.u64 0).toNat < maxCoreCount.toNat :=
          UInt64.lt_iff_toNat_lt.mp (UInt64.lt_of_le_of_ne hmost hprompt)
        exact Serving.result_fits (hserving.resultBuffers _ hinside)
      all_goals trivial

theorem keeps_atRest {Result : Type} {program : Handler Result}
    (hmoved : Guarantees firmware Moved program) :
    Guarantees firmware (fun s t => AtRest s → AtRest t) program :=
  hmoved.mono fun _ _ hmoves hrest => (hmoves hrest).2

theorem toNat_ne_zero_of_core {coreId : UInt32} (hcoreId : coreId ≠ 0) :
    coreId.toUInt64.toNat ≠ 0 := by
  rw [UInt32.toNat_toUInt64]
  exact fun hzero => hcoreId (UInt32.toNat_inj.mp hzero)

theorem timeout_ne_zero {timeout : UInt32} (htimeout : timeout ≠ 0) : timeout.toNat ≠ 0 :=
  fun hzero => htimeout (UInt32.toNat_inj.mp hzero)

theorem completes_slotOf_bind {table : SlotTable} {slot : ℕ}
    {next : Container → Handler EfiStatus}
    (hnext : ∀ container, CompletesFrom firmware AtRest (next container)) :
    CompletesFrom firmware AtRest (slotOf table slot >>= next) :=
  ((completes_slotOf _ _).from_initial AtRest).bind
    (keeps_atRest ((requesting_moved fun _ => True).toLooking.slotOf trivial)) hnext

section Waiting

variable (hpatience : longestWait ≤ firmware.patience)
include hpatience

theorem completes_handleExecuteMachineCode {payload : Memory} (payloadLength : UInt64)
    (hcoreId : payload.u32 1 ≠ 0) (htimeout : payload.u32 2 ≠ 0) :
    CompletesFrom firmware AtRest (handleExecuteMachineCode payload payloadLength) := by
  simp only [handleExecuteMachineCode]
  split
  · exact (completes_reject _ _ _).from_initial _
  split
  · exact (completes_reject _ _ _).from_initial _
  refine completes_slotOf_bind fun container => ?_
  split
  · exact (completes_reject _ _ _).from_initial _
  · refine completes_submitJob (toNat_ne_zero_of_core hcoreId) ?_ hpatience
      fun _ hanswers hserved => completes_answerTest (by rintro _ _ ⟨⟩) hanswers hserved
    exact timeout_ne_zero htimeout

theorem completes_handleApplyUcodeExecuteTest {payload : Memory} (payloadLength : UInt64)
    (hcoreId : payload.u32 2 ≠ 0) (htimeout : payload.u32 3 ≠ 0) :
    CompletesFrom firmware AtRest (handleApplyUcodeExecuteTest payload payloadLength) := by
  simp only [handleApplyUcodeExecuteTest]
  split
  · exact (completes_reject _ _ _).from_initial _
  split
  · exact (completes_reject _ _ _).from_initial _
  split
  · exact (completes_reject _ _ _).from_initial _
  refine completes_slotOf_bind fun ucode => ?_
  split
  · exact (completes_reject _ _ _).from_initial _
  refine completes_slotOf_bind fun machineCode => ?_
  split
  · exact (completes_reject _ _ _).from_initial _
  · refine completes_submitJob (toNat_ne_zero_of_core hcoreId) ?_ hpatience
      fun _ hanswers hserved => completes_answerTest (by rintro _ _ ⟨⟩) hanswers hserved
    exact timeout_ne_zero htimeout

theorem completes_handleReadMsrOnCore (payload : Memory) (payloadLength : UInt64) :
    CompletesFrom firmware AtRest (handleReadMsrOnCore payload payloadLength) := by
  simp only [handleReadMsrOnCore]
  split
  · exact (completes_reject _ _ _).from_initial _
  split
  · exact (completes_handleReadMsr _ _).from_initial _
  rename_i hcoreId
  refine (completes_ask.from_initial AtRest).bind (keeps_atRest onMachine_ask) fun number => ?_
  refine (Completes.read.from_initial AtRest).bind (keeps_atRest Guarantees.read)
    fun environment => ?_
  have hboot : ((payload.shift 4).u64 0).toNat ≠ 0 := fun hzero =>
    hcoreId (UInt64.toNat_inj.mp hzero)
  exact completes_submitJob hboot (by simp [Job.timeout]) hpatience
    fun _ hanswers hserved => completes_answerMsr _ hanswers hserved

theorem completes_dispatch {messageType : UInt32} {payload : Memory} {payloadLength : UInt64}
    (hprompt : Prompt (requestOf messageType) payload payloadLength) :
    CompletesFrom firmware AtRest (dispatch messageType payload payloadLength) := by
  simp only [dispatch]
  split
  all_goals rename_i hrequest
  all_goals try rw [hrequest] at hprompt
  · exact (completes_handlePing _ _).from_initial _
  · exact (completes_handleMultiPing _ _).from_initial _
  · exact ((Completes.modify _).bind fun _ =>
      completes_respondPayload reports_printStatusDebug _ _ _ _).from_initial _
  · cases hprompt
  · exact (completes_handleSend _ (fun _ => completes_rejectWith _ _)
      (fun _ => completes_rejectWith _ _) (completes_rejectWith _ _) _ _).from_initial _
  · exact (completes_handleFlipBits _ _).from_initial _
  · exact (completes_handleApplyUcode _ _).from_initial _
  · exact completes_handleApplyUcodeExecuteTest hpatience _ hprompt.1 hprompt.2
  · exact (completes_handleGetLastTestResult _ _).from_initial _
  · exact completes_handleExecuteMachineCode hpatience _ hprompt.1 hprompt.2
  · exact (completes_handleReadMsr _ _).from_initial _
  · exact completes_handleReadMsrOnCore hpatience _ _
  · exact (completes_getAvailableCores.bind fun _ => (completes_putPayload64 _ _).bind fun _ =>
      completes_respondPayload reports_printStatusDebug _ _ _ _).from_initial _
  · cases hprompt
  · refine Completes.from_initial ?_ _
    simp only [handleGetCoreStatus]
    split
    · exact completes_reject _ _ _
    split
    · exact completes_reject _ _ _
    · exact completes_sendCoreStatus _ _
  · exact (completes_handleSend _ (fun _ => completes_reject _ _ _)
      (fun _ => completes_reject _ _ _) (completes_reject _ _ _) _ _).from_initial _
  · exact (completes_handleGetPagingInfo _ _).from_initial _
  · cases hprompt
  · cases hprompt
  · exact ((completes_formatPrint _ _).bind fun _ => completes_rejectWith _ _).from_initial _

end Waiting

/-- The client reads so many replies one after the other, each of whole messages
of which only the last has control byte 0. -/
def Replies (count : ℕ) (s t : Server) : Prop :=
  ∃ bytes, sentBytes t.trace = sentBytes s.trace ++ bytes ∧ (frames bytes).2 = [] ∧
    ∃ mores : List ℕ, mores.length = count ∧ (frames bytes).1.map controlOf =
      mores.flatMap fun more => List.replicate more (some 1) ++ [some 0]

theorem Flagged.replies {mores : List ℕ} {events : List Event} {t : Server}
    (hflagged : Flagged (mores.flatMap fun more => List.replicate more false ++ [true]) events)
    (htrace : t.trace = s.trace ++ events) : Replies mores.length s t := by
  obtain ⟨hcontrols, hnothing⟩ := hflagged.frames_append []
  rw [List.append_nil] at hcontrols hnothing
  refine ⟨sentBytes events, by rw [htrace, sentBytes_append], hnothing, mores, rfl, ?_⟩
  rw [hcontrols]
  simp [frames, framesWith, List.map_flatMap]

/-- A message that a connection may bring. -/
structure PromptMessage (message : Memory) (messageLength : UInt64) : Prop where
  accepted : messageStatus message messageLength.toNat = .success
  prompt : Prompt (requestOf (message.u32 1)) (message.shift 8) (messageLength - 8)

theorem moved_handleMessage (message : Memory) (messageLength : UInt64) :
    Guarantees firmware Moved (handleMessage message messageLength) :=
  (requesting_moved fun _ => True).handleMessage (reportsAtMost_max firmware) message
    messageLength fun _ => names_all _ _ _ _

theorem handleMessage_answers {message : Memory} {messageLength : UInt64}
    (hpatience : longestWait ≤ firmware.patience) (hserving : Serving firmware s)
    (hrest : AtRest s) (hmessage : PromptMessage message messageLength) :
    ∃ t events more, handleMessage message messageLength firmware s = some (.success, t) ∧
      Serving firmware t ∧ AtRest t ∧ t.trace = s.trace ++ events ∧
        Flagged (List.replicate more false ++ [true]) events := by
  obtain ⟨haccepted, hprompt⟩ := hmessage
  obtain ⟨status, t, hdispatch⟩ :=
    completes_dispatch hpatience hprompt (onStack firmware s) hrest
  have hrun := handleMessage_of_dispatch haccepted hdispatch
  have hanswered := answered_of_prompt hserving hprompt
  have hemits := hserving.handleMessage haccepted
    (hserving.dispatch (eventsStay_of_prompt hprompt) hanswered)
  obtain ⟨-, events, htrace, _, more, hflagged⟩ := hemits s (refl_of (Steady firmware) s) _ t hrun
  have hafter := (moved_handleMessage message messageLength s _ t hrun hrest).2
  exact ⟨t, events, more, hrun, hserving.of_handleMessage hrun, hafter, htrace, hflagged⟩

/-- A connection of such requests is served to its end, and as many replies are
sent as requests came, whatever the processors do. -/
theorem serveMessages_replies {messages : List (Memory × UInt64)}
    (hpatience : longestWait ≤ firmware.patience) (hserving : Serving firmware s)
    (hrest : AtRest s)
    (hmessages : ∀ message ∈ messages, PromptMessage message.1 message.2) :
    ∃ t, serveMessages messages firmware s = some (.success, t) ∧ AtRest t ∧
      Replies messages.length s t := by
  obtain ⟨t, hrun, hafter, events, mores, htrace, hmores, hflagged⟩ :
      ∃ t, serveMessages messages firmware s = some (.success, t) ∧ AtRest t ∧
        ∃ events, ∃ mores : List ℕ, t.trace = s.trace ++ events ∧
          mores.length = messages.length ∧
          Flagged (mores.flatMap fun more => List.replicate more false ++ [true]) events := by
    induction messages generalizing s with
    | nil => exact ⟨s, rfl, hrest, [], [], (List.append_nil _).symm, rfl, .nil⟩
    | cons message messages ih =>
        rw [List.forall_mem_cons] at hmessages
        obtain ⟨middle, opening, more, hfirst, hserved, hbetween, htrace, hflagged⟩ :=
          handleMessage_answers hpatience hserving hrest hmessages.1
        obtain ⟨t, hlater, hafter, events, mores, hmore, hlength, hlast⟩ :=
          ih hserved hbetween hmessages.2
        refine ⟨t, ?_, hafter, opening ++ events, more :: mores, ?_, ?_, ?_⟩
        · exact bind_eq_some_iff.mpr ⟨.success, middle, hfirst, hlater⟩
        · rw [hmore, htrace, List.append_assoc]
        · rw [List.length_cons, List.length_cons, hlength]
        · rw [List.flatMap_cons]
          exact hflagged.append hlast
  exact ⟨t, hrun, hafter, hmores ▸ hflagged.replies htrace⟩

/-- EXECUTEMACHINECODE of slot 0 on core 1 with a timeout of five milliseconds,
which finds the slot empty, and READMSRONCORE for core 2. -/
def jobsConnection : List (Memory × UInt64) :=
  [(Memory.write (fun _ => 0) 0
      ([1, 0, 0, 0] ++ littleEndian 4 0x153 ++ littleEndian 4 0 ++ littleEndian 4 1 ++
        littleEndian 4 5), 20),
    (Memory.write (fun _ => 0) 0
      ([1, 0, 0, 0] ++ littleEndian 4 0x202 ++ littleEndian 4 0x10 ++ littleEndian 8 2), 20)]

theorem serveMessages_replies_jobsConnection :
    ∃ t, serveMessages jobsConnection { loopback with patience := longestWait } idleServer =
        some (.success, t) ∧ AtRest t ∧ Replies 2 idleServer t := by
  refine serveMessages_replies le_rfl ⟨delivers_loopback, fun _ _ => Nat.zero_lt_succ _,
    Nat.zero_lt_succ _, fun _ _ => UInt64.le_refl _⟩ rfl ?_
  rintro message hmessage
  simp only [jobsConnection, List.mem_cons, List.not_mem_nil, or_false] at hmessage
  rcases hmessage with rfl | rfl
  · exact ⟨by decide, And.intro (by decide) (by decide)⟩
  · exact ⟨by decide, trivial⟩

end Handlers

end AngryUefi
