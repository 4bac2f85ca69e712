import AngryUefi.Handlers.Server
import AngryUefi.Lib.Framing

/-!
# Building and sending messages

`construct_message`, `send_message`, `send_status`, and the client's side of
the same format.  Every response goes through `respond`: a message is
constructed, and if that succeeds as many bytes are sent as the caller says.
-/

namespace AngryUefi

open AngryUefi.Bytes AngryUefi.Framing AngryUefi.Programs

inductive MessageType
  | ping | multiPing | getMsgSize
  | getPagingInfo
  | reboot
  | sendUcode | flipBits | applyUcode | applyUcodeExcuteTest | getLastTestResult
  | executeMachineCode
  | readMsr | readMsrOnCore | getCoreCount | startCore | getCoreStatus
  | sendMachineCode
  | getIbsBuffer
  | getDsmBuffer
  | status | pong | msgSize
  | pagingInfo
  | ucodeResponse | ucodeExecuteTestResponse | msrResponse | coreCountResponse
  | coreStatusResponse | ibsBuffer | dsmBuffer
  deriving DecidableEq

namespace MessageType

def code : MessageType → UInt32
  | ping => 0x1
  | multiPing => 0x2
  | getMsgSize => 0x3
  | getPagingInfo => 0x11
  | reboot => 0x21
  | sendUcode => 0x101
  | flipBits => 0x121
  | applyUcode => 0x141
  | applyUcodeExcuteTest => 0x151
  | getLastTestResult => 0x152
  | executeMachineCode => 0x153
  | readMsr => 0x201
  | readMsrOnCore => 0x202
  | getCoreCount => 0x211
  | startCore => 0x212
  | getCoreStatus => 0x213
  | sendMachineCode => 0x301
  | getIbsBuffer => 0x401
  | getDsmBuffer => 0x501
  | status => 0x80000000
  | pong => 0x80000001
  | msgSize => 0x80000003
  | pagingInfo => 0x80000011
  | ucodeResponse => 0x80000141
  | ucodeExecuteTestResponse => 0x80000151
  | msrResponse => 0x80000201
  | coreCountResponse => 0x80000211
  | coreStatusResponse => 0x80000213
  | ibsBuffer => 0x80000401
  | dsmBuffer => 0x80000501

end MessageType

/-- `sizeof(response_buffer)` -/
def responseBufferSize : UInt64 := 1412

def headerSize : UInt64 := 12

/-! ## The format -/

/-- `MetaData` of version 1.0, message type, payload. -/
def messageBody (messageType : UInt32) (payload : List UInt8) (lastMessage : Bool) :
    List UInt8 :=
  [1, 0, if lastMessage then 0 else 1, 0] ++ littleEndian 4 messageType.toNat ++ payload

/-- What a client makes of a message body: its type, its payload, and whether
the control byte says that it is the last one. -/
def parseMessage (body : List UInt8) : Option (UInt32 × List UInt8 × Bool) :=
  match body with
  | major :: minor :: control :: _reserved :: rest =>
      if major = 1 ∧ minor = 0 ∧ 4 ≤ rest.length then
        some (UInt32.ofNat (ofLittleEndian (rest.take 4)), rest.drop 4, control == 0)
      else none
  | _ => none

theorem parseMessage_messageBody (messageType : UInt32) (payload : List UInt8)
    (lastMessage : Bool) :
    parseMessage (messageBody messageType payload lastMessage) =
      some (messageType, payload, lastMessage) := by
  have htype : (littleEndian 4 messageType.toNat ++ payload).take 4 =
      littleEndian 4 messageType.toNat := List.take_left' (length_littleEndian 4 _)
  have hpayload : (littleEndian 4 messageType.toNat ++ payload).drop 4 = payload :=
    List.drop_left' (length_littleEndian 4 _)
  have hcode : ofLittleEndian (littleEndian 4 messageType.toNat) = messageType.toNat :=
    ofLittleEndian_littleEndian_of_lt messageType.toNat_lt
  cases lastMessage <;>
    simp [messageBody, parseMessage, htype, hpayload, hcode]

@[simp]
theorem length_messageBody (messageType : UInt32) (payload : List UInt8)
    (lastMessage : Bool) :
    (messageBody messageType payload lastMessage).length = 8 + payload.length := by
  simp only [messageBody, List.length_append, List.length_cons, List.length_nil,
    length_littleEndian]

/-- The stores of `construct_message`, in program order. -/
def writeMessage (buffer : Memory) (messageType : UInt32) (payload : List UInt8)
    (lastMessage : Bool) : Memory :=
  (((buffer.writeWord 4 0 (payload.length + 8)).write 4
    [1, 0, if lastMessage then 0 else 1, 0]).writeWord 4 8 messageType.toNat).write 12 payload

/-- The stores add up to one frame. -/
theorem writeMessage_eq (buffer : Memory) (messageType : UInt32) (payload : List UInt8)
    (lastMessage : Bool) :
    writeMessage buffer messageType payload lastMessage =
      buffer.write 0 (frame (messageBody messageType payload lastMessage)) := by
  have hmeta := buffer.write_write_append 0 (littleEndian 4 (payload.length + 8))
    [1, 0, if lastMessage then 0 else 1, 0]
  have htype := buffer.write_write_append 0
    (littleEndian 4 (payload.length + 8) ++ [1, 0, if lastMessage then 0 else 1, 0])
    (littleEndian 4 messageType.toNat)
  have hpayload := buffer.write_write_append 0
    (littleEndian 4 (payload.length + 8) ++ [1, 0, if lastMessage then 0 else 1, 0] ++
      littleEndian 4 messageType.toNat) payload
  simp only [List.length_append, length_littleEndian, List.length_cons, List.length_nil,
    Nat.zero_add, Nat.reduceAdd] at hmeta htype hpayload
  rw [writeMessage, Memory.writeWord, Memory.writeWord, hmeta, htype, hpayload, frame,
    length_messageBody, messageBody, Nat.add_comm 8]
  simp only [List.append_assoc]

theorem read_writeMessage (buffer : Memory) (messageType : UInt32) (payload : List UInt8)
    (lastMessage : Bool) :
    (writeMessage buffer messageType payload lastMessage).read 0 (payload.length + 12) =
      frame (messageBody messageType payload lastMessage) := by
  have hlength : payload.length + 12 =
      (frame (messageBody messageType payload lastMessage)).length := by
    rw [length_frame, length_messageBody]
    omega
  rw [writeMessage_eq, hlength]
  exact buffer.read_write 0 _

/-! ## The functions -/

namespace Handlers

def record (event : Event) : Handler Unit :=
  modify fun s => { s with trace := s.trace ++ [event] }

def constructMessage (bufferCapacity : UInt64) (messageType : UInt32) (payload : Memory)
    (payloadLength : UInt64) (lastMessage : Bool) : Handler EfiStatus := do
  if bufferCapacity < payloadLength + 12 then
    record (.refused payloadLength)
    return .invalidParameter
  else
    let bytes := payload.read 0 payloadLength.toNat
    modify fun s =>
      { s with responseBuffer := writeMessage s.responseBuffer messageType bytes lastMessage }
    record (.constructed messageType bytes lastMessage)
    return .success

/-- `send_message` of bytes of the response buffer. -/
def sendMessage (messageSize : UInt64) : Handler EfiStatus := do
  let number ← ask
  let firmware ← read
  let s ← get
  let transmission :=
    firmware.transmit number (s.responseBuffer.read 0 messageSize.toNat)
  if transmission.createEvent.isError then return transmission.createEvent
  else if transmission.transmit.isError then return transmission.transmit
  else
    record (.sent transmission.delivered)
    if transmission.completion.isError then return transmission.completion
    else return .success

/-- `FormatPrint` of a status, and `FormatPrintDebug` of one. -/
def printStatus (text : String) (status : EfiStatus) : Handler Unit :=
  formatPrint text [status]

def printStatusDebug (_text : String) (_status : EfiStatus) : Handler Unit := return

/-- What every sender of a response does once its payload is in place.
`report` is how it reports an error. -/
def respond (report : String → EfiStatus → Handler Unit) (messageType : MessageType)
    (payload : Memory) (payloadLength messageSize : UInt64) (lastMessage : Bool) :
    Handler EfiStatus := do
  let status ← constructMessage responseBufferSize messageType.code payload payloadLength
    lastMessage
  if status.isError then
    report "Unable to construct message: %r.\n" status
    return status
  else
    let status ← sendMessage messageSize
    if status.isError then
      report "Unable to send message: %r.\n" status
      return status
    else return .success

/-- A response whose payload is in the payload buffer. -/
def respondPayload (report : String → EfiStatus → Handler Unit) (messageType : MessageType)
    (payloadLength messageSize : UInt64) (lastMessage : Bool) : Handler EfiStatus := do
  let s ← get
  respond report messageType s.payloadBuffer payloadLength messageSize lastMessage

/-- `StrSize`: the characters and their terminator. -/
def strSize (message : List UInt16) : UInt64 := 2 * UInt64.ofNat (message.length + 1)

def utf16 (message : List UInt16) : List UInt8 :=
  (message ++ [0]).flatMap fun character : UInt16 => littleEndian 2 character.toNat

def sendStatus (statusCode : UInt32) (message : Option (List UInt16)) :
    Handler EfiStatus := do
  let responseSize : UInt64 := 8 + (message.map strSize).getD 0
  match message with
  | some text =>
      copyToPayload 8 (utf16 text)
      putPayload32 1 (strSize text).toUInt32
  | none => putPayload32 1 0
  putPayload32 0 statusCode
  respondPayload printStatusDebug .status responseSize (responseSize + headerSize) true

/-- `send_status(code, FormatBuffer, ctx); return status;` -/
def rejectWith (code : UInt32) (status : EfiStatus) : Handler EfiStatus := do
  let s ← get
  let _ ← sendStatus code (some s.formatBuffer)
  return status

/-- A check failed, and what was found is printed. -/
def reject (code : UInt32) (text : String) (arguments : List UInt64) :
    Handler EfiStatus := do
  formatPrint text arguments
  rejectWith code .invalidParameter

/-- `send_status(0x0, NULL, ctx); return EFI_SUCCESS;` -/
def succeed : Handler EfiStatus := do
  let _ ← sendStatus 0x0 none
  return .success

/-! ## Sending always returns -/

section Completes

variable {firmware : Firmware}

theorem completes_ask : Completes firmware ask :=
  Completes.get.bind fun _ => (Completes.modify _).bind fun _ => Completes.pure _

theorem completes_formatPrint (text : String) (arguments : List UInt64) :
    Completes firmware (formatPrint text arguments) :=
  Completes.read.bind fun _ => Completes.modify _

theorem completes_constructMessage (bufferCapacity : UInt64) (messageType : UInt32)
    (payload : Memory) (payloadLength : UInt64) (lastMessage : Bool) :
    Completes firmware
      (constructMessage bufferCapacity messageType payload payloadLength lastMessage) := by
  simp only [constructMessage]
  split
  · exact (Completes.modify _).bind fun _ => Completes.pure _
  · exact (Completes.modify _).bind fun _ => (Completes.modify _).bind fun _ => Completes.pure _

/-- `send_message` by what becomes of the transmission. -/
theorem sendMessage_run (messageSize : UInt64) (s : Server) :
    sendMessage messageSize firmware s =
      let outcome := firmware.transmit s.clock (s.responseBuffer.read 0 messageSize.toNat)
      if outcome.createEvent.isError then
        some (outcome.createEvent, { s with clock := s.clock + 1 })
      else if outcome.transmit.isError then
        some (outcome.transmit, { s with clock := s.clock + 1 })
      else some (if outcome.completion.isError then outcome.completion else .success, { s with
        clock := s.clock + 1
        trace := s.trace ++ [.sent outcome.delivered] }) := by
  refine (bind_of_eq_some rfl _).trans ((bind_of_eq_some rfl _).trans
    ((bind_of_eq_some rfl _).trans ?_))
  dsimp only
  split_ifs
  · rfl
  · rfl
  · rfl
  · rfl

theorem completes_sendMessage (messageSize : UInt64) :
    Completes firmware (sendMessage messageSize) := by
  intro s
  rw [sendMessage_run]
  dsimp only
  split_ifs
  · exact ⟨_, _, rfl⟩
  · exact ⟨_, _, rfl⟩
  · exact ⟨_, _, rfl⟩
  · exact ⟨_, _, rfl⟩

theorem completes_respond {report : String → EfiStatus → Handler Unit}
    (hreport : ∀ text status, Completes firmware (report text status))
    (messageType : MessageType) (payload : Memory) (payloadLength messageSize : UInt64)
    (lastMessage : Bool) :
    Completes firmware
      (respond report messageType payload payloadLength messageSize lastMessage) := by
  refine (completes_constructMessage _ _ _ _ _).bind fun status => ?_
  split
  · exact (hreport _ _).bind fun _ => Completes.pure _
  refine (completes_sendMessage _).bind fun status => ?_
  split
  · exact (hreport _ _).bind fun _ => Completes.pure _
  · exact Completes.pure _

theorem completes_sendStatus (statusCode : UInt32) (message : Option (List UInt16)) :
    Completes firmware (sendStatus statusCode message) := by
  have hsend : ∀ responseSize, Completes firmware (do
      putPayload32 0 statusCode
      respondPayload printStatusDebug .status responseSize (responseSize + headerSize) true) :=
    fun _ => (Completes.modify _).bind fun _ => Completes.get.bind fun _ =>
      completes_respond (fun _ _ => Completes.pure _) _ _ _ _ _
  cases message with
  | none => exact (Completes.modify _).bind fun _ => hsend _
  | some text =>
      exact (Completes.modify _).bind fun _ => (Completes.modify _).bind fun _ => hsend _

theorem completes_rejectWith (code : UInt32) (status : EfiStatus) :
    Completes firmware (rejectWith code status) :=
  Completes.get.bind fun _ => (completes_sendStatus _ _).bind fun _ => Completes.pure _

theorem completes_reject (code : UInt32) (text : String) (arguments : List UInt64) :
    Completes firmware (reject code text arguments) :=
  (completes_formatPrint _ _).bind fun _ => completes_rejectWith _ _

theorem completes_succeed : Completes firmware succeed :=
  (completes_sendStatus _ _).bind fun _ => Completes.pure _

end Completes

end Handlers

end AngryUefi
