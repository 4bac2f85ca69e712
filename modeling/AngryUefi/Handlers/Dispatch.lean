import AngryUefi.Handlers.Debug
import AngryUefi.Handlers.Readout
import AngryUefi.Net.Receive

/-!
# Dispatching messages
-/

namespace AngryUefi.Handlers

open AngryUefi.Bytes AngryUefi.Programs

/-- The cases of the switch in `handle_message`. -/
def requestTypes : List MessageType :=
  [.ping, .multiPing, .getMsgSize, .reboot, .sendUcode, .flipBits, .applyUcode,
    .applyUcodeExcuteTest, .getLastTestResult, .executeMachineCode, .readMsr,
    .readMsrOnCore, .getCoreCount, .startCore, .getCoreStatus, .sendMachineCode,
    .getPagingInfo, .getIbsBuffer, .getDsmBuffer]

def requestOf (code : UInt32) : Option MessageType :=
  requestTypes.find? fun messageType => messageType.code == code

/-- Every case is reached by its own message type. -/
theorem requestOf_code {messageType : MessageType} (hrequest : messageType ∈ requestTypes) :
    requestOf messageType.code = some messageType := by
  revert messageType
  decide

/-- The frames of the handlers use core 0's stack again. -/
def useStack : Handler Unit := do
  let number ← ask
  let firmware ← read
  modify fun s => { s with machine := { s.machine with stack := firmware.stack number } }

def dispatch (messageType : UInt32) (payload : Memory) (payloadLength : UInt64) :
    Handler EfiStatus :=
  match requestOf messageType with
  | some .ping => handlePing payload payloadLength
  | some .multiPing => handleMultiPing payload payloadLength
  | some .getMsgSize => handleGetMsgSize payloadLength
  | some .reboot => handleReboot payload payloadLength
  | some .sendUcode => handleSendUcode payload payloadLength
  | some .flipBits => handleFlipBits payload payloadLength
  | some .applyUcode => handleApplyUcode payload payloadLength
  | some .applyUcodeExcuteTest => handleApplyUcodeExecuteTest payload payloadLength
  | some .getLastTestResult => handleGetLastTestResult payload payloadLength
  | some .executeMachineCode => handleExecuteMachineCode payload payloadLength
  | some .readMsr => handleReadMsr payload payloadLength
  | some .readMsrOnCore => handleReadMsrOnCore payload payloadLength
  | some .getCoreCount => handleGetCoreCount
  | some .startCore => handleStartCore payload payloadLength
  | some .getCoreStatus => handleGetCoreStatus payload payloadLength
  | some .sendMachineCode => handleSendMachineCode payload payloadLength
  | some .getPagingInfo => handleGetPagingInfo payload payloadLength
  | some .getIbsBuffer => handleGetIbsBuffer payload payloadLength
  | some .getDsmBuffer => handleGetDsmBuffer payload payloadLength
  | _ => do
      formatPrint "Unknown message type 0x%08X\n" [messageType.toUInt64]
      rejectWith 0x80000001 .success

def handleMessage (message : Memory) (messageLength : UInt64) : Handler EfiStatus := do
  let status := messageStatus message messageLength.toNat
  if status.isError then return status
  else
    useStack
    let _ ← dispatch (message.u32 1) (message.shift 8) (messageLength - 8)
    return status

/-- The messages of a connection, one after the other: the bytes in the receive
buffer and how many of them are the message. -/
def serveMessages : List (Memory × UInt64) → Handler EfiStatus
  | [] => return .success
  | (message, messageLength) :: messages => do
      let status ← handleMessage message messageLength
      if status.isError then return status
      else serveMessages messages

/-- The status that the receiving loops see is the one of the header checks. -/
theorem returns_handleMessage (firmware : Firmware) (message : Memory)
    (messageLength : UInt64) :
    Returns firmware (· = messageStatus message messageLength.toNat)
      (handleMessage message messageLength) := by
  simp only [handleMessage]
  split
  · exact Returns.pure rfl
  · exact Returns.bind fun _ => Returns.bind fun _ => Returns.pure rfl

/-- The state after `useStack`. -/
def onStack (firmware : Firmware) (s : Server) : Server :=
  { s with
    clock := s.clock + 1
    machine := { s.machine with stack := firmware.stack s.clock } }

theorem handleMessage_of_dispatch {message : Memory} {messageLength : UInt64}
    {firmware : Firmware} {s t : Server} {status : EfiStatus}
    (haccepted : messageStatus message messageLength.toNat = .success)
    (hrun : dispatch (message.u32 1) (message.shift 8) (messageLength - 8) firmware
      (onStack firmware s) = some (status, t)) :
    handleMessage message messageLength firmware s = some (.success, t) := by
  simp only [handleMessage, haccepted, EfiStatus.isError_success, Bool.false_eq_true, if_false]
  refine bind_eq_some_iff.mpr ⟨(), onStack firmware s, rfl, ?_⟩
  exact bind_eq_some_iff.mpr ⟨status, t, hrun, rfl⟩

end AngryUefi.Handlers
