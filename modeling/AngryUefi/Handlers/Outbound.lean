import AngryUefi.Handlers.Kept

/-!
# What the client receives

Every message is sent right after it was constructed and with its own length,
so the bytes of a connection are the frames of the messages constructed.
-/

namespace AngryUefi

open AngryUefi.Bytes AngryUefi.Framing AngryUefi.Programs

/-- `Transmit` delivers all bytes passed to `send_message`. -/
def Firmware.Delivers (firmware : Firmware) : Prop :=
  ∀ number message, (firmware.transmit number message).createEvent.isError = false ∧
    (firmware.transmit number message).transmit.isError = false ∧
    (firmware.transmit number message).completion.isError = false ∧
    (firmware.transmit number message).delivered = message

namespace Event

/-- `payload_length + 12` does not wrap. -/
def Fits : Event → Prop
  | constructed _ payload _ => payload.length + 12 < 2 ^ 64
  | refused payloadLength => payloadLength.toNat + 12 < 2 ^ 64
  | sent _ => True

def triple : Event → Option (UInt32 × List UInt8 × Bool)
  | constructed messageType payload lastMessage => some (messageType, payload, lastMessage)
  | _ => none

def bytes : Event → List UInt8
  | sent bytes => bytes
  | _ => []

end Event

/-- The messages constructed, with their types, payloads and whether they were
the last ones. -/
def constructedTriples (trace : List Event) : List (UInt32 × List UInt8 × Bool) :=
  trace.filterMap Event.triple

/-- Everything that was sent. -/
def sentBytes (trace : List Event) : List UInt8 := trace.flatMap Event.bytes

/-- Each constructed message is sent next, as one frame; a refused one is not
sent. -/
inductive Paired : List Event → Prop
  | nil : Paired []
  | refused {payloadLength : UInt64} {events : List Event} (hrest : Paired events) :
      Paired (.refused payloadLength :: events)
  | answered {messageType : UInt32} {payload : List UInt8} {lastMessage : Bool}
      {events : List Event} (hlength : payload.length ≤ 1400) (hrest : Paired events) :
      Paired (.constructed messageType payload lastMessage ::
        .sent (frame (messageBody messageType payload lastMessage)) :: events)

namespace Paired

theorem append {left right : List Event} (hleft : Paired left) (hright : Paired right) :
    Paired (left ++ right) := by
  induction hleft with
  | nil => exact hright
  | refused _ ih => exact .refused ih
  | answered hlength _ ih => exact .answered hlength ih

/-- The bytes sent are the frames of the constructed messages. -/
theorem sentBytes_eq {events : List Event} (hpaired : Paired events) :
    sentBytes events = encode ((constructedTriples events).map fun triple =>
      messageBody triple.1 triple.2.1 triple.2.2) := by
  induction hpaired with
  | nil => rfl
  | refused _ ih => exact ih
  | answered _ _ ih =>
      simp only [sentBytes, constructedTriples] at ih
      simp [sentBytes, constructedTriples, Event.bytes, Event.triple, List.filterMap_cons, ih]

theorem length_le {events : List Event} (hpaired : Paired events) :
    ∀ triple ∈ constructedTriples events, triple.2.1.length ≤ 1400 := by
  induction hpaired with
  | nil => nofun
  | refused _ ih => exact ih
  | answered hlength _ ih =>
      intro triple htriple
      rcases List.mem_cons.mp htriple with rfl | hlater
      · exact hlength
      · exact ih triple hlater

/-- What the client parses is what was constructed, with no bytes left over. -/
theorem roundTrip {events : List Event} (hpaired : Paired events) :
    (frames (sentBytes events)).1.map parseMessage =
        (constructedTriples events).map some ∧
      (frames (sentBytes events)).2 = [] := by
  have hbodies : ∀ body ∈ (constructedTriples events).map (fun triple =>
      messageBody triple.1 triple.2.1 triple.2.2), body.length < 2 ^ 32 := by
    intro body hbody
    obtain ⟨triple, htriple, rfl⟩ := List.mem_map.mp hbody
    have hlength := hpaired.length_le triple htriple
    rw [length_messageBody]
    omega
  rw [hpaired.sentBytes_eq, frames_encode hbodies]
  refine ⟨?_, rfl⟩
  rw [List.map_map]
  refine List.map_congr_left fun triple _ => ?_
  exact parseMessage_messageBody _ _ _

end Paired

namespace Handlers

/-- The trace grows by paired events, as long as no length wraps. -/
def Orderly (s t : Server) : Prop :=
  ∃ events, t.trace = s.trace ++ events ∧ ((∀ event ∈ events, event.Fits) → Paired events)

instance : IsPreorder Server Orderly where
  refl s := ⟨[], by simp, fun _ => .nil⟩
  trans _ _ _ := by
    rintro ⟨left, hleft, hpairedLeft⟩ ⟨right, hright, hpairedRight⟩
    refine ⟨left ++ right, by rw [hright, hleft, List.append_assoc], fun hfits => ?_⟩
    simp only [List.mem_append, or_imp, forall_and] at hfits
    exact (hpairedLeft hfits.1).append (hpairedRight hfits.2)

theorem Quiet.orderly {s t : Server} (hquiet : Quiet s t) : Orderly s t :=
  ⟨[], by rw [hquiet.trace, List.append_nil], fun _ => .nil⟩

section Runs

variable {firmware : Firmware}

/-- A refused message leaves the response buffer as it is. -/
theorem constructMessage_refused {bufferCapacity payloadLength : UInt64}
    (hcapacity : bufferCapacity < payloadLength + 12) (messageType : UInt32)
    (payload : Memory) (lastMessage : Bool) (s : Server) :
    constructMessage bufferCapacity messageType payload payloadLength lastMessage firmware s =
      some (.invalidParameter, { s with trace := s.trace ++ [.refused payloadLength] }) := by
  simp only [constructMessage, hcapacity, if_true]
  rfl

theorem constructMessage_constructed {bufferCapacity payloadLength : UInt64}
    (hcapacity : ¬ bufferCapacity < payloadLength + 12) (messageType : UInt32)
    (payload : Memory) (lastMessage : Bool) (s : Server) :
    constructMessage bufferCapacity messageType payload payloadLength lastMessage firmware s =
      some (.success, { s with
        responseBuffer := writeMessage s.responseBuffer messageType
          (payload.read 0 payloadLength.toNat) lastMessage
        trace := s.trace ++
          [.constructed messageType (payload.read 0 payloadLength.toNat) lastMessage] }) := by
  simp only [constructMessage, hcapacity, if_false]
  rfl

theorem sendMessage_delivers (hdelivers : firmware.Delivers) (messageSize : UInt64)
    (s : Server) :
    sendMessage messageSize firmware s =
      some (.success, { s with
        clock := s.clock + 1
        trace := s.trace ++ [.sent (s.responseBuffer.read 0 messageSize.toNat)] }) := by
  obtain ⟨hcreate, htransmit, hcompletion, hdelivered⟩ :=
    hdelivers s.clock (s.responseBuffer.read 0 messageSize.toNat)
  refine (bind_eq_some_iff).mpr ⟨s.clock, _, rfl, ?_⟩
  refine (bind_eq_some_iff).mpr ⟨firmware, _, rfl, ?_⟩
  refine (bind_eq_some_iff).mpr ⟨_, _, rfl, ?_⟩
  simp only [hcreate, htransmit, Bool.false_eq_true, if_false]
  refine (bind_eq_some_iff).mpr ⟨(), _, rfl, ?_⟩
  simp only [hcompletion, Bool.false_eq_true, if_false, hdelivered]
  rfl

theorem length_le_of_capacity {payloadLength : UInt64}
    (hcapacity : ¬ responseBufferSize < payloadLength + 12)
    (hfits : payloadLength.toNat + 12 < 2 ^ 64) : payloadLength.toNat ≤ 1400 := by
  have hsize : responseBufferSize.toNat = 1412 := rfl
  have htwelve : (12 : UInt64).toNat = 12 := rfl
  rw [UInt64.lt_iff_toNat_lt, UInt64.toNat_add, hsize, htwelve, Nat.mod_eq_of_lt hfits] at hcapacity
  omega

theorem capacity_of_length_le {payloadLength : UInt64} (hlength : payloadLength.toNat ≤ 1400) :
    ¬ responseBufferSize < payloadLength + 12 := by
  have hsize : responseBufferSize.toNat = 1412 := rfl
  have htwelve : (12 : UInt64).toNat = 12 := rfl
  rw [UInt64.lt_iff_toNat_lt, UInt64.toNat_add, hsize, htwelve, Nat.mod_eq_of_lt (by omega)]
  omega

/-- What `construct_message` lets pass is sent, as many bytes as the caller
says. -/
theorem respond_constructed (hdelivers : firmware.Delivers)
    (report : String → EfiStatus → Handler Unit) (messageType : MessageType)
    (payload : Memory) {payloadLength : UInt64}
    (hcapacity : ¬ responseBufferSize < payloadLength + 12) (messageSize : UInt64)
    (lastMessage : Bool) (s : Server) :
    respond report messageType payload payloadLength messageSize lastMessage firmware s =
      some (.success, { s with
        responseBuffer := writeMessage s.responseBuffer messageType.code
          (payload.read 0 payloadLength.toNat) lastMessage
        clock := s.clock + 1
        trace := s.trace ++
          [.constructed messageType.code (payload.read 0 payloadLength.toNat) lastMessage,
            .sent ((writeMessage s.responseBuffer messageType.code
              (payload.read 0 payloadLength.toNat) lastMessage).read 0 messageSize.toNat)] }) := by
  rw [respond, bind_of_eq_some
    (constructMessage_constructed hcapacity messageType.code payload lastMessage s)]
  simp only [EfiStatus.isError_success, Bool.false_eq_true, if_false]
  rw [bind_of_eq_some (sendMessage_delivers hdelivers _ _)]
  simp only [EfiStatus.isError_success, Bool.false_eq_true, if_false, List.append_assoc,
    List.cons_append, List.nil_append]
  rfl

/-- A message that fits is sent as one frame. -/
theorem respond_delivered (hdelivers : firmware.Delivers)
    (report : String → EfiStatus → Handler Unit) (messageType : MessageType)
    (payload : Memory) {payloadLength messageSize : UInt64}
    (hlength : payloadLength.toNat ≤ 1400) (hsize : SizeMatches payloadLength messageSize)
    (lastMessage : Bool) (s : Server) :
    respond report messageType payload payloadLength messageSize lastMessage firmware s =
      some (.success, { s with
        responseBuffer := writeMessage s.responseBuffer messageType.code
          (payload.read 0 payloadLength.toNat) lastMessage
        clock := s.clock + 1
        trace := s.trace ++
          [.constructed messageType.code (payload.read 0 payloadLength.toNat) lastMessage,
            .sent (frame (messageBody messageType.code (payload.read 0 payloadLength.toNat)
              lastMessage))] }) := by
  have hframe := read_writeMessage s.responseBuffer messageType.code
    (payload.read 0 payloadLength.toNat) lastMessage
  rw [Memory.length_read, ← hsize hlength] at hframe
  rw [respond_constructed hdelivers report messageType payload (capacity_of_length_le hlength),
    hframe]

/-- A rejection sends its code and the text in `FormatBuffer`, and it changes
buffers only. -/
theorem rejectWith_delivered (hdelivers : firmware.Delivers) (code : UInt32) (status : EfiStatus)
    {s : Server} (hformat : s.formatBuffer.length < 128) :
    ∃ text t, rejectWith code status firmware s = some (status, t) ∧
      text.length = 6 + 2 * s.formatBuffer.length ∧
      t.trace = s.trace ++
        [.constructed MessageType.status.code (littleEndian 4 code.toNat ++ text) true,
          .sent (frame (messageBody MessageType.status.code (littleEndian 4 code.toNat ++ text)
            true))] ∧
      t.machine = s.machine ∧ t.ucodes = s.ucodes ∧ t.machineCodes = s.machineCodes := by
  obtain ⟨printed, hprinted⟩ : ∃ printed, printed = s.formatBuffer := ⟨_, rfl⟩
  rw [← hprinted] at hformat ⊢
  have hsize : (8 + strSize printed).toNat = 4 + (6 + 2 * printed.length) := by
    rw [strSize, UInt64.toNat_add, UInt64.toNat_mul, UInt64.toNat_ofNat']
    simp only [UInt64.reduceToNat]
    omega
  have hlength : (8 + strSize printed).toNat ≤ 1400 := by omega
  obtain ⟨written, hwritten⟩ : ∃ written : Server, written =
    { s with
      payloadBuffer := ((s.payloadBuffer.write 8 (utf16 printed)).write 4
        (littleEndian 4 (strSize printed).toUInt32.toNat)).write 0 (littleEndian 4 code.toNat) } :=
    ⟨_, rfl⟩
  have hbytes : written.payloadBuffer.read 0 (8 + strSize printed).toNat =
      littleEndian 4 code.toNat ++ written.payloadBuffer.read 4 (6 + 2 * printed.length) := by
    have hcode := Memory.read_write ((s.payloadBuffer.write 8 (utf16 printed)).write 4
      (littleEndian 4 (strSize printed).toUInt32.toNat)) 0 (littleEndian 4 code.toNat)
    rw [length_littleEndian] at hcode
    rw [hsize, Memory.read_add, ← hcode, hwritten]
  have hsend := respond_delivered hdelivers printStatusDebug .status
    written.payloadBuffer hlength (sizeMatches_add _) true written
  rw [hbytes] at hsend
  have htrace : written.trace = s.trace := by rw [hwritten]
  obtain ⟨t, hrun, hsent⟩ : ∃ t, sendStatus code (some printed) firmware s = some (.success, t) ∧
      t.trace = s.trace ++
        [.constructed MessageType.status.code
            (littleEndian 4 code.toNat ++ written.payloadBuffer.read 4 (6 + 2 * printed.length))
            true,
          .sent (frame (messageBody MessageType.status.code (littleEndian 4 code.toNat ++
            written.payloadBuffer.read 4 (6 + 2 * printed.length)) true))] ∧
      t.machine = s.machine ∧ t.ucodes = s.ucodes ∧ t.machineCodes = s.machineCodes := by
    refine ⟨_, bind_eq_some_iff.mpr ⟨(), _, rfl, bind_eq_some_iff.mpr ⟨(), _, rfl,
      bind_eq_some_iff.mpr ⟨(), written, by rw [hwritten]; rfl,
        bind_eq_some_iff.mpr ⟨written, written, rfl, hsend⟩⟩⟩⟩, ?_, ?_, ?_, ?_⟩
    · rw [← htrace]
    · rw [hwritten]
    · rw [hwritten]
    · rw [hwritten]
  rw [hprinted] at hrun
  exact ⟨_, t, bind_eq_some_iff.mpr ⟨s, s, rfl, bind_eq_some_iff.mpr ⟨.success, t, hrun, rfl⟩⟩,
    Memory.length_read _ _ _, hsent⟩

/-- A message that does not fit is not sent, and the caller learns it. -/
theorem respond_refused {report : String → EfiStatus → Handler Unit} (hreport : Reports report)
    {payloadLength : UInt64} (hcapacity : responseBufferSize < payloadLength + 12)
    (messageType : MessageType) (payload : Memory) (messageSize : UInt64)
    (lastMessage : Bool) {s t : Server} {status : EfiStatus}
    (hrun : respond report messageType payload payloadLength messageSize lastMessage firmware s =
      some (status, t)) :
    status = .invalidParameter ∧ t.trace = s.trace ++ [.refused payloadLength] := by
  obtain ⟨refused, middle, hconstruct, hrest⟩ := bind_eq_some_iff.mp hrun
  rw [constructMessage_refused hcapacity] at hconstruct
  cases hconstruct
  simp only [EfiStatus.isError_invalidParameter, if_true] at hrest
  obtain ⟨_, last, hreported, hlast⟩ := bind_eq_some_iff.mp hrest
  cases hlast
  exact ⟨rfl, (quiet_of_reports hreport _ _ _ _ _ hreported).trace⟩

theorem orderly_respond (hdelivers : firmware.Delivers)
    {report : String → EfiStatus → Handler Unit} (hreport : Reports report)
    (messageType : MessageType) (payload : Memory) {payloadLength messageSize : UInt64}
    (hsize : SizeMatches payloadLength messageSize) (lastMessage : Bool) :
    Guarantees firmware Orderly
      (respond report messageType payload payloadLength messageSize lastMessage) := by
  intro s result t hrun
  by_cases hcapacity : responseBufferSize < payloadLength + 12
  · have hrefused := respond_refused hreport hcapacity messageType payload messageSize
      lastMessage hrun
    exact ⟨[.refused payloadLength], hrefused.2, fun _ => .refused .nil⟩
  by_cases hlength : payloadLength.toNat ≤ 1400
  · rw [respond_delivered hdelivers report messageType payload hlength hsize] at hrun
    cases hrun
    exact ⟨_, rfl, fun _ => .answered (by rwa [Memory.length_read]) .nil⟩
  · rw [respond_constructed hdelivers report messageType payload hcapacity] at hrun
    cases hrun
    refine ⟨_, rfl, fun hfits => ?_⟩
    have hwraps : payloadLength.toNat + 12 < 2 ^ 64 := by
      have hevent := hfits (.constructed messageType.code
        (payload.read 0 payloadLength.toNat) lastMessage) (by simp)
      simpa [Event.Fits] using hevent
    exact absurd (length_le_of_capacity hcapacity hwraps) hlength

theorem orderly_quiet {Result : Type} {program : Handler Result}
    (hquiet : Guarantees firmware Quiet program) : Guarantees firmware Orderly program :=
  hquiet.mono fun _ _ => Quiet.orderly

/-- What leaves the trace alone keeps it orderly. -/
theorem orderly_modify {change : Server → Server}
    (htrace : ∀ s, (change s).trace = s.trace) :
    Guarantees firmware Orderly (modify change : Handler PUnit) :=
  Guarantees.modify fun s => ⟨[], by rw [htrace, List.append_nil], fun _ => .nil⟩

theorem quiet_core0Move (coreId : UInt64) (choice : Core0Choice) :
    Guarantees firmware Quiet (core0Move coreId choice) := by
  refine (quiet_access _).bind fun _ => Guarantees.get.bind fun s => ?_
  split
  · exact Guarantees.failure
  · exact Guarantees.modify fun _ => ⟨rfl, rfl, rfl, rfl, rfl⟩

theorem quiet_useStack : Guarantees firmware Quiet useStack :=
  quiet_ask.bind fun _ => Guarantees.read.bind fun _ =>
    Guarantees.modify fun _ => ⟨rfl, rfl, rfl, rfl, rfl⟩

/-- Whatever the handlers index, what they send is orderly. -/
theorem kept_orderly (hdelivers : firmware.Delivers) (kind : Access → Prop) :
    Kept firmware Orderly kind where
  ask := orderly_quiet quiet_ask
  formatPrint _ _ := orderly_quiet (quiet_formatPrint _ _)
  copyToPayload _ _ := orderly_quiet (quiet_copyToPayload _ _)
  respond _ _ _ _ _ _ hreport hsize := orderly_respond hdelivers hreport _ _ hsize _
  runProcessors := orderly_quiet quiet_runProcessors
  useStack := orderly_quiet quiet_useStack
  access _ _ := orderly_quiet (quiet_access _)
  core0Move _ _ _ _ := orderly_quiet (quiet_core0Move _ _)
  update table _ _ := orderly_modify fun _ => by cases table <;> rfl
  writeSlot table _ _ _ _ :=
    (orderly_quiet (quiet_access _)).bind fun _ => orderly_modify fun _ => by
      cases table <;> rfl

end Runs

theorem orderly_handleMessage {firmware : Firmware} (hdelivers : firmware.Delivers)
    (message : Memory) (messageLength : UInt64) :
    Guarantees firmware Orderly (handleMessage message messageLength) :=
  (kept_orderly hdelivers _).handleMessage covers_all (reportsAtMost_max firmware) _ _
    fun _ => admits_all _ _ _ _

theorem orderly_serveMessages {firmware : Firmware} (hdelivers : firmware.Delivers)
    (messages : List (Memory × UInt64)) :
    Guarantees firmware Orderly (serveMessages messages) := by
  induction messages with
  | nil => exact Guarantees.pure _
  | cons message messages ih =>
      refine (orderly_handleMessage hdelivers _ _).bind fun status => ?_
      split
      · exact Guarantees.pure _
      · exact ih

/-- The client recovers from the bytes of a connection exactly the messages that
were constructed; a refused message changes nothing and is not sent. -/
structure RoundTrip (firmware : Firmware) (trace : List Event) : Prop where
  parsed : (frames (sentBytes trace)).1.map parseMessage =
    (constructedTriples trace).map some
  nothingLeft : (frames (sentBytes trace)).2 = []
  paired : Paired trace
  unchanged : ∀ bufferCapacity messageType payload payloadLength lastMessage s t,
    constructMessage bufferCapacity messageType payload payloadLength lastMessage firmware s =
      some (.invalidParameter, t) → t.responseBuffer = s.responseBuffer

/-- For every connection whose handlers return. -/
theorem roundTrip_serveMessages {firmware : Firmware} (hdelivers : firmware.Delivers)
    {messages : List (Memory × UInt64)} {s t : Server} {status : EfiStatus}
    (hstart : s.trace = []) (hrun : serveMessages messages firmware s = some (status, t))
    (hfits : ∀ event ∈ t.trace, event.Fits) : RoundTrip firmware t.trace := by
  obtain ⟨events, htrace, hpaired⟩ := orderly_serveMessages hdelivers messages s status t hrun
  rw [hstart, List.nil_append] at htrace
  rw [htrace] at hfits ⊢
  have hround := (hpaired hfits).roundTrip
  refine ⟨hround.1, hround.2, hpaired hfits, ?_⟩
  intro bufferCapacity messageType payload payloadLength lastMessage before after hconstruct
  by_cases hcapacity : bufferCapacity < payloadLength + 12
  · rw [constructMessage_refused hcapacity] at hconstruct
    cases hconstruct
    rfl
  · rw [constructMessage_constructed hcapacity] at hconstruct
    cases hconstruct

theorem delivers_loopback : loopback.Delivers := fun _ _ =>
  ⟨EfiStatus.isError_success, EfiStatus.isError_success, EfiStatus.isError_success, rfl⟩

/-- A ping of two bytes. -/
def pingMessage : Memory :=
  Memory.write (fun _ => 0) 0 [1, 0, 0, 0, 1, 0, 0, 0, 2, 0, 0, 0, 0xAB, 0xCD]

/-- Two pings of two bytes in one message. -/
def multiPingMessage : Memory :=
  Memory.write (fun _ => 0) 0 [1, 0, 0, 0, 2, 0, 0, 0, 2, 0, 0, 0, 2, 0, 0, 0, 0xAB, 0xCD]

theorem roundTrip_serveMessages_pings :
    ∃ t, serveMessages [(pingMessage, 14), (multiPingMessage, 18)] loopback idleServer =
        some (.success, t) ∧
      constructedTriples t.trace = [
        (0x80000001, [2, 0, 0, 0, 0xAB, 0xCD], true),
        (0x80000001, [2, 0, 0, 0, 0xAB, 0xCD], false),
        (0x80000001, [2, 0, 0, 0, 0xAB, 0xCD], true)] ∧
      RoundTrip loopback t.trace := by
  obtain ⟨t, hrun, htrace⟩ :
      ∃ t, serveMessages [(pingMessage, 14), (multiPingMessage, 18)] loopback idleServer =
          some (.success, t) ∧
        t.trace = [.constructed 0x80000001 [2, 0, 0, 0, 0xAB, 0xCD] true,
          .sent [14, 0, 0, 0, 1, 0, 0, 0, 1, 0, 0, 0x80, 2, 0, 0, 0, 0xAB, 0xCD],
          .constructed 0x80000001 [2, 0, 0, 0, 0xAB, 0xCD] false,
          .sent [14, 0, 0, 0, 1, 0, 1, 0, 1, 0, 0, 0x80, 2, 0, 0, 0, 0xAB, 0xCD],
          .constructed 0x80000001 [2, 0, 0, 0, 0xAB, 0xCD] true,
          .sent [14, 0, 0, 0, 1, 0, 0, 0, 1, 0, 0, 0x80, 2, 0, 0, 0, 0xAB, 0xCD]] :=
    ⟨_, rfl, by rfl⟩
  refine ⟨t, hrun, by rw [htrace]; rfl, roundTrip_serveMessages delivers_loopback rfl hrun ?_⟩
  rw [htrace]
  simp [Event.Fits]

end Handlers

end AngryUefi
