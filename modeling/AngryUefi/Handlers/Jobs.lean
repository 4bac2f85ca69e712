import AngryUefi.Handlers.Ucode

/-!
# The handlers that work with cores

What these handlers do to a context is the two-party program of core 0 and a
processor; here that program runs until core 0 has a result for the client.
-/

namespace AngryUefi.Handlers

open AngryUefi.Bytes AngryUefi.Programs

def maxCoreCount : UInt64 := 128

/-- Core 0 waits for something its environment decides. -/
def asksFirmware : Core0Pc → Bool
  | .bootCallFunctions | .startCr3 | .startOnCore => true
  | _ => false

/-- A step on `core_contexts[core_id]`. -/
def core0Move (coreId : UInt64) (choice : Core0Choice) : Handler Unit := do
  access (.core coreId.toNat)
  let s ← get
  match s.machine.core0Move coreId.toNat choice with
  | none => failure
  | some machine => modify fun s => { s with machine }

/-- Core 0's steps up to its result. -/
def runCore0 (coreId : UInt64) : ℕ → Handler HandlerResult
  | 0 => failure
  | patience + 1 => do
      runProcessors
      let number ← ask
      let firmware ← read
      let s ← get
      match s.machine.core0.pc with
      | .returned result => return result
      | pc =>
          core0Move coreId (if asksFirmware pc then firmware.core0Choice number else .next)
          runCore0 coreId patience

def runRequest (coreId : UInt64) (request : Request) : Handler HandlerResult := do
  let firmware ← read
  core0Move coreId (.request request)
  runCore0 coreId firmware.patience

/-- What is printed with the status that a check of `acquire_core_lock_for_job`
or of `start_core` sends. -/
def rejectionText (code : UInt32) : String :=
  if code = 0x202 ∨ code = 0x3 then "Core id %u is not present on this CPU.\n"
  else if code = 0x203 then "Core id %u is not started.\n"
  else if code = 0x204 then "Core id %u context is already locked, invalid state.\n"
  else if code = 0x205 then "Core id %u is not ready to accept a job.\n"
  else if code = 0x206 then "Core id %u already has a job queued.\n"
  else if code = 0x4 then "Core id %u is already started.\n"
  else "Core id %u already has a locked context.\n"

def outOfRangeText : String :=
  "Core id %u is out of range, only max %u cores are supported.\n"

/-- `acquire_core_lock_for_job`, the job, and what the handler makes of its
result. -/
def submitJob (coreId : UInt64) (job : Job) (answer : HandlerResult → Handler EfiStatus) :
    Handler EfiStatus := do
  if coreId ≥ maxCoreCount then reject 0x201 outOfRangeText [coreId, maxCoreCount]
  else
    let result ← runRequest coreId (.job job)
    match result with
    | .rejected code => reject code (rejectionText code) [coreId]
    | result => answer result

/-! ## The jobs -/

def sendResultMessage (retRdtscValue retGpfValue flags length : UInt64)
    (copied : List UInt8) (size : UInt64) (isLastMessage : Bool) : Handler EfiStatus := do
  putPayload64 0 retRdtscValue
  putPayload64 1 retGpfValue
  putPayload64 2 flags
  putPayload64 3 length
  copyToPayload 32 copied
  let responseSize := 32 + size
  respondPayload printStatus .ucodeExecuteTestResponse responseSize
    (responseSize + headerSize) isLastMessage

/-- The end of `handle_execute_machine_code` and of
`handle_apply_ucode_execute_test`. -/
def answerTest : HandlerResult → Handler EfiStatus
  | .testResult timedOut fault retRdtscValue retGpfValue length copied size =>
      let flags : UInt64 := (if timedOut then 0x1 else 0) ||| (if fault then 0x2 else 0)
      sendResultMessage retRdtscValue retGpfValue flags length copied size true
  | _ => failure

def handleExecuteMachineCode (payload : Memory) (payloadLength : UInt64) :
    Handler EfiStatus := do
  if payloadLength < 12 then
    reject 0x1 "MSG_EXECUTEMACHINECODE is too short, need at least 12 Bytes, got %u.\n"
      [payloadLength]
  else
    let targetMachineCodeSlot := payload.u32 0
    let targetCoreId := payload.u32 1
    let timeout := payload.u32 2
    if targetMachineCodeSlot ≥ machineCodeSlots then
      reject 0x2 "Target machine code slot %u is unsupported, only have %u slots.\n"
        [targetMachineCodeSlot.toUInt64, machineCodeSlots.toUInt64]
    else
      let container ← slotOf .machineCodes targetMachineCodeSlot.toNat
      if container.address.isNone ∨ container.length = 0 then
        reject 0x3 "Target machine code slot %u is empty.\n"
          [targetMachineCodeSlot.toUInt64]
      else
        submitJob targetCoreId.toUInt64
          (.executeMachineCode (container.address.getD 0) timeout) answerTest

def handleApplyUcodeExecuteTest (payload : Memory) (payloadLength : UInt64) :
    Handler EfiStatus := do
  if payloadLength < 20 then
    reject 0x1 "MSG_APPLYUCODEEXCUTETEST is too short, need at least 20 Bytes, got %u.\n"
      [payloadLength]
  else
    let ucodeSlot := payload.u32 0
    let machineCodeSlot := payload.u32 1
    let coreId := payload.u32 2
    let timeout := payload.u32 3
    let options := payload.u32 4
    -- check_job_parameters
    if ucodeSlot ≥ ucodeSlots then
      reject 0x101 "Target ucode slot %u is unsupported, only have %u slots.\n"
        [ucodeSlot.toUInt64, ucodeSlots.toUInt64]
    else if machineCodeSlot ≥ machineCodeSlots then
      reject 0x102 "Target machine code slot %u is unsupported, only have %u slots.\n"
        [machineCodeSlot.toUInt64, machineCodeSlots.toUInt64]
    else
      let ucode ← slotOf .ucodes ucodeSlot.toNat
      if ucode.address.isNone ∨ ucode.length = 0 then
        reject 0x103 "Target ucode slot %u is empty.\n" [ucodeSlot.toUInt64]
      else
        let machineCode ← slotOf .machineCodes machineCodeSlot.toNat
        if machineCode.address.isNone ∨ machineCode.length = 0 then
          reject 0x104 "Target machine code slot %u is empty.\n" [machineCodeSlot.toUInt64]
        else
          submitJob coreId.toUInt64
            (.applyUcodeExecuteTest (ucode.address.getD 0) ucode.length
              (machineCode.address.getD 0) timeout options) answerTest

/-- `send_msr_response` of a local array. -/
def sendMsrResponse (eax edx : UInt32) : Handler EfiStatus := do
  let payloadSize : UInt64 := 2 * 4
  let values : Memory :=
    Memory.write (fun _ => 0) 0 (littleEndian 4 eax.toNat ++ littleEndian 4 edx.toNat)
  respond printStatus .msrResponse values payloadSize (payloadSize + headerSize) true

def handleReadMsr (payload : Memory) (payloadLength : UInt64) : Handler EfiStatus := do
  if payloadLength < 4 then
    reject 0x1 "MSG_READMSR is too short, need at least 4 Bytes, got %u.\n" [payloadLength]
  else
    let targetMsr := payload.u32 0
    let number ← ask
    let firmware ← read
    let ret := firmware.readMsrStub number targetMsr
    sendMsrResponse ret.toUInt32 (ret >>> 32).toUInt32

/-- The end of `handle_read_msr_on_core`. -/
def answerMsr (coreId : UInt64) : HandlerResult → Handler EfiStatus
  | .msr eax edx => sendMsrResponse eax edx
  | .noResponse => do
      formatPrint
        "Core %u was ready, but did not respond to read msr in 100ms, likely stuck?\n"
        [coreId]
      rejectWith 0x2 .timeout
  | _ => failure

def handleReadMsrOnCore (payload : Memory) (payloadLength : UInt64) :
    Handler EfiStatus := do
  if payloadLength < 12 then
    reject 0x1 "MSG_READMSRONCORE is too short, need at least 12 Bytes, got %u.\n"
      [payloadLength]
  else
    let targetMsr := payload.u32 0
    let coreId := (payload.shift 4).u64 0
    if coreId = 0 then handleReadMsr payload payloadLength
    else
      let number ← ask
      let firmware ← read
      submitJob coreId (.readMsrOnCore targetMsr ⟨firmware.stackAddress number, 0⟩)
        (answerMsr coreId)

/-! ## The cores -/

def getAvailableCores : Handler UInt64 := do
  let number ← ask
  let firmware ← read
  let answer := firmware.getNumberOfProcessors number
  if answer.1.isError then
    formatPrint "GetNumberOfProcessors failed: %r\n" [answer.1]
    return 0
  else return answer.2

def startCore (coreId : UInt64) : Handler EfiStatus := do
  let number ← ask
  let firmware ← read
  let result ← runRequest coreId .startCore
  match result with
  | .rejected 0x6 => do
      let status := firmware.startOnCore number
      formatPrint "Core id %u can not be started: %r.\n" [coreId, status.val]
      rejectWith 0x6 status.val
  | .rejected code => reject code (rejectionText code) [coreId]
  | _ => return .success

/-- `for (UINTN i = 1; i < get_available_cores(); i++)`, and the status after
it. -/
def startCores (index : UInt64) : ℕ → Handler EfiStatus
  | 0 => failure
  | patience + 1 => do
      let available ← getAvailableCores
      if index < available then
        let context ← contextOf index
        if context.started = 1 then startCores (index + 1) patience
        else
          let status ← startCore index
          if status ≠ .success then return status
          else startCores (index + 1) patience
      else succeed

def handleStartCore (payload : Memory) (payloadLength : UInt64) : Handler EfiStatus := do
  if payloadLength < 8 then
    reject 0x1 "MSG_STARTCORE is too short, need at least 8 Bytes, got %u.\n"
      [payloadLength]
  else
    let coreToStart := payload.u64 0
    if coreToStart > maxCoreCount then
      reject 0x2 "Core id %u is out of range, only %u max cores are supported.\n"
        [coreToStart, maxCoreCount]
    else if coreToStart = 0 then
      let firmware ← read
      startCores 1 firmware.patience
    else
      let status ← startCore coreToStart
      if status ≠ .success then return status
      else succeed

def handleGetCoreCount : Handler EfiStatus := do
  let coreCount ← getAvailableCores
  putPayload64 0 coreCount
  respondPayload printStatusDebug .coreCountResponse 8 (8 + headerSize) true

/-- `sizeof(CoreFaultInfo)` -/
def faultInfoSize : UInt64 := 27 * 8

/-- `(value & 0x1) << bit` -/
def flag (value bit : UInt64) : UInt64 := (value &&& 0x1) <<< bit

/-- `send_core_status`; every field is read on its own. -/
def sendCoreStatus (coreId : UInt64) (isLastMessage : Bool) : Handler EfiStatus := do
  let present := (← contextOf coreId).present
  let started := (← contextOf coreId).started
  let ready := (← contextOf coreId).ready
  let jobQueued := (← contextOf coreId).jobQueued
  let lock := (← contextOf coreId).lock
  let occured := (← contextOf coreId).faultOccured
  let dumpFaultInfo := (← contextOf coreId).faultOccured ≠ 0
  let flags := flag present 0 ||| flag started 1 ||| flag ready 2 ||| flag jobQueued 3 |||
    flag lock 4 ||| flag occured 5
  let heartbeat := (← contextOf coreId).heartbeat
  let number ← ask
  let firmware ← read
  putPayload64 0 flags
  putPayload64 1 heartbeat
  putPayload64 2 (firmware.getTsc number)
  putPayload64 3 0
  if dumpFaultInfo then
    putPayload64 3 faultInfoSize
    let info := ((← contextOf coreId).faultInfo).getD CoreFaultInfo.zero
    copyToPayload 32 (info.words.flatMap fun word => littleEndian 8 word.toNat)
    let responseSize := 4 * 8 + faultInfoSize
    respondPayload printStatus .coreStatusResponse responseSize (responseSize + headerSize)
      isLastMessage
  else
    let responseSize : UInt64 := 4 * 8
    respondPayload printStatus .coreStatusResponse responseSize (responseSize + headerSize)
      isLastMessage

def handleGetCoreStatus (payload : Memory) (payloadLength : UInt64) :
    Handler EfiStatus := do
  if payloadLength < 8 then
    reject 0x1 "MSG_GETCORESTATUS is too short, need at least 8 Bytes, got %u.\n"
      [payloadLength]
  else
    let coreId := payload.u64 0
    if coreId > maxCoreCount then
      reject 0x2 "Core id %u is out of range, only %u max cores are supported.\n"
        [coreId, maxCoreCount]
    else sendCoreStatus coreId true

def handleGetLastTestResult (payload : Memory) (payloadLength : UInt64) :
    Handler EfiStatus := do
  if payloadLength < 8 then
    reject 0x1 "MSG_GETLASTTESTRESULT is too short, need at least 8 Bytes, got %u.\n"
      [payloadLength]
  else
    let coreId := payload.u64 0
    if coreId > maxCoreCount then
      reject 0x2 "Core id %u is out of range, only %u max cores are supported.\n"
        [coreId, maxCoreCount]
    else
      let status ← sendCoreStatus coreId false
      if status.isError then return status
      else
        let retRdtscValue := (← contextOf coreId).retRdtscValue
        let retGpfValue := (← contextOf coreId).retGpfValue
        let length := (← contextOf coreId).resultBufferLen
        let context ← contextOf coreId
        let copied := context.resultBuffer.read 0 context.resultBufferLen.toNat
        let size := (← contextOf coreId).resultBufferLen
        sendResultMessage retRdtscValue retGpfValue 0 length copied size true

end AngryUefi.Handlers
