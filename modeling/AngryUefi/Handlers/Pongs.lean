import AngryUefi.Handlers.Packets

/-!
# Pongs

PING and MULTIPING over any transport.  The data is copied into the payload
buffer before anything looks at its size, and the last pong is sent even if none
was asked for.
-/

namespace AngryUefi

open AngryUefi.Bytes AngryUefi.Framing AngryUefi.Programs

namespace Firmware

/-- The transport delivers this message. -/
def Transmits (firmware : Firmware) (number : ℕ) (message : List UInt8) : Prop :=
  (firmware.transmit number message).createEvent.isError = false ∧
    (firmware.transmit number message).transmit.isError = false ∧
    (firmware.transmit number message).completion.isError = false ∧
    (firmware.transmit number message).delivered = message

/-- The transport does not take this message. -/
def Declines (firmware : Firmware) (number : ℕ) (message : List UInt8) : Prop :=
  (firmware.transmit number message).createEvent.isError = true ∨
    (firmware.transmit number message).transmit.isError = true

theorem Transmits.not_declines {firmware : Firmware} {number : ℕ} {message : List UInt8}
    (htransmits : firmware.Transmits number message) : ¬ firmware.Declines number message := by
  rintro (hcreate | htransmit)
  · exact Bool.false_ne_true (htransmits.1.symm.trans hcreate)
  · exact Bool.false_ne_true (htransmits.2.1.symm.trans htransmit)

end Firmware

namespace Handlers

/-! ## What is asked for, and what is answered -/

/-- The requests that are answered by pongs. -/
inductive PingRequest
  | ping
  | multiPing

namespace PingRequest

/-- The bytes in front of the data. -/
def head : PingRequest → ℕ
  | ping => 4
  | multiPing => 8

/-- How many pongs are asked for. -/
def count : PingRequest → Memory → ℕ
  | ping, _ => 1
  | multiPing, payload => (payload.u32 0).toNat

/-- The declared size of the data. -/
def size : PingRequest → Memory → UInt32
  | ping, payload => payload.u32 0
  | multiPing, payload => payload.u32 1

def handle : PingRequest → Memory → UInt64 → Handler EfiStatus
  | ping => handlePing
  | multiPing => handleMultiPing

/-- The payload of every pong. -/
def pong (request : PingRequest) (payload : Memory) : List UInt8 :=
  littleEndian 4 (request.size payload).toNat ++
    payload.read request.head (request.size payload).toNat

end PingRequest

def pongFrame (pong : List UInt8) (lastMessage : Bool) : List UInt8 :=
  frame (messageBody MessageType.pong.code pong lastMessage)

/-- As many pongs as asked for are sent, the last one marked as such. -/
def Echoed (pong : List UInt8) (count : ℕ) (s : Server) (status : EfiStatus) (t : Server) : Prop :=
  status = .success ∧ t.trace = s.trace ++ sentPackets .pong (List.replicate count pong)

/-- An error is returned, and no pong was given to the transport. -/
def EchoFailed (s : Server) (status : EfiStatus) (t : Server) : Prop :=
  status.isError = true ∧ ∃ events, t.trace = s.trace ++ events ∧ ∀ bytes, .sent bytes ∉ events

/-- Nothing is different but the two message buffers. -/
structure WritesInside (s t : Server) : Prop where
  payloadBuffer : ∀ address, 1400 ≤ address → t.payloadBuffer address = s.payloadBuffer address
  responseBuffer : ∀ address, responseBufferSize.toNat ≤ address →
    t.responseBuffer address = s.responseBuffer address
  formatBuffer : t.formatBuffer = s.formatBuffer
  ucodes : t.ucodes = s.ucodes
  machineCodes : t.machineCodes = s.machineCodes
  machine : t.machine = s.machine

instance : IsPreorder Server WritesInside where
  refl _ := ⟨fun _ _ => rfl, fun _ _ => rfl, rfl, rfl, rfl, rfl⟩
  trans _ _ _ hleft hright :=
    ⟨fun address hbehind => (hright.payloadBuffer address hbehind).trans
        (hleft.payloadBuffer address hbehind),
      fun address hbehind => (hright.responseBuffer address hbehind).trans
        (hleft.responseBuffer address hbehind),
      hright.formatBuffer.trans hleft.formatBuffer, hright.ucodes.trans hleft.ucodes,
      hright.machineCodes.trans hleft.machineCodes, hright.machine.trans hleft.machine⟩

/-- Whatever is in the buffers and behind them. -/
def StaysInside (firmware : Firmware) (program : Handler EfiStatus) (s : Server) : Prop :=
  ∀ payloadBuffer responseBuffer, ∃ status t,
    program firmware { s with
      payloadBuffer := payloadBuffer
      responseBuffer := responseBuffer } = some (status, t) ∧
    WritesInside { s with
      payloadBuffer := payloadBuffer
      responseBuffer := responseBuffer } t

/-- The pongs asked for or an error without any, and no byte is written outside of
the buffers. -/
def EchoesInside (request : PingRequest) (payload : Memory) (payloadLength : UInt64)
    (firmware : Firmware) (s : Server) : Prop :=
  (∃ status t, request.handle payload payloadLength firmware s = some (status, t) ∧
    (Echoed (request.pong payload) (request.count payload) s status t ∨ EchoFailed s status t)) ∧
  StaysInside firmware (request.handle payload payloadLength) s

variable {firmware : Firmware} {s t : Server} {status : EfiStatus}

/-! ## One message -/

/-- What became of a message that was passed to `send_message`. -/
inductive Outcome (firmware : Firmware) (message : List UInt8) (s : Server) (status : EfiStatus)
    (t : Server) : Prop
  | declined (hdeclines : firmware.Declines s.clock message) (herror : status.isError = true)
      (htrace : t.trace = s.trace)
  | lost (hdeclines : ¬ firmware.Declines s.clock message)
      (htransmits : ¬ firmware.Transmits s.clock message) (herror : status.isError = true)
      (delivered : List UInt8) (htrace : t.trace = s.trace ++ [.sent delivered])
  | altered (hdeclines : ¬ firmware.Declines s.clock message)
      (htransmits : ¬ firmware.Transmits s.clock message) (hsuccess : status = .success)
      (delivered : List UInt8) (hdelivered : delivered ≠ message)
      (htrace : t.trace = s.trace ++ [.sent delivered])
  | transmitted (htransmits : firmware.Transmits s.clock message) (hsuccess : status = .success)
      (htrace : t.trace = s.trace ++ [.sent message])

variable (firmware) in
/-- `send_message` over a transport that may fail. -/
theorem sendMessage_outcome {messageSize : UInt64} {message : List UInt8}
    (hmessage : s.responseBuffer.read 0 messageSize.toNat = message) :
    ∃ status t, sendMessage messageSize firmware s = some (status, t) ∧
      t.payloadBuffer = s.payloadBuffer ∧ t.clock = s.clock + 1 ∧
        Outcome firmware message s status t := by
  obtain ⟨outcome, houtcome⟩ : ∃ outcome, outcome = firmware.transmit s.clock message := ⟨_, rfl⟩
  have hdeclines : firmware.Declines s.clock message ↔
      outcome.createEvent.isError = true ∨ outcome.transmit.isError = true := by
    rw [houtcome, Firmware.Declines]
  have htransmits : firmware.Transmits s.clock message ↔ outcome.createEvent.isError = false ∧
      outcome.transmit.isError = false ∧ outcome.completion.isError = false ∧
        outcome.delivered = message := by
    rw [houtcome, Firmware.Transmits]
  rw [sendMessage_run, hmessage, ← houtcome]
  dsimp only
  split_ifs with hcreate htransmit hcompletion
  · exact ⟨_, _, rfl, rfl, rfl, .declined (hdeclines.mpr (.inl hcreate)) hcreate rfl⟩
  · exact ⟨_, _, rfl, rfl, rfl, .declined (hdeclines.mpr (.inr htransmit)) htransmit rfl⟩
  · refine ⟨_, _, rfl, rfl, rfl, .lost ?_ ?_ hcompletion _ rfl⟩
    · exact mt hdeclines.mp (not_or.mpr ⟨hcreate, htransmit⟩)
    · exact fun hall => Bool.false_ne_true ((htransmits.mp hall).2.2.1.symm.trans hcompletion)
  · by_cases hdelivered : outcome.delivered = message
    · refine ⟨_, _, rfl, rfl, rfl, .transmitted ?_ rfl (by rw [hdelivered])⟩
      exact htransmits.mpr ⟨Bool.eq_false_of_not_eq_true hcreate,
        Bool.eq_false_of_not_eq_true htransmit, Bool.eq_false_of_not_eq_true hcompletion,
        hdelivered⟩
    · refine ⟨_, _, rfl, rfl, rfl, .altered ?_ ?_ rfl _ hdelivered rfl⟩
      · exact mt hdeclines.mp (not_or.mpr ⟨hcreate, htransmit⟩)
      · exact fun hall => hdelivered (htransmits.mp hall).2.2.2

variable (firmware) in
/-- A pong that fits is constructed and passed on. -/
theorem respondPong_outcome {payloadLength messageSize : UInt64}
    (hlength : payloadLength.toNat ≤ 1400) (hsize : SizeMatches payloadLength messageSize)
    {pong : List UInt8} (hpong : s.payloadBuffer.read 0 payloadLength.toNat = pong)
    (lastMessage : Bool) :
    ∃ constructed status t, constructed.clock = s.clock ∧
      constructed.trace = s.trace ++ [.constructed MessageType.pong.code pong lastMessage] ∧
      respondPayload printStatusDebug .pong payloadLength messageSize lastMessage firmware s =
        some (status, t) ∧
      t.payloadBuffer = s.payloadBuffer ∧ t.clock = s.clock + 1 ∧
        Outcome firmware (pongFrame pong lastMessage) constructed status t := by
  have hpongLength : pong.length = payloadLength.toNat := by
    rw [← hpong, Memory.length_read]
  obtain ⟨constructed, hconstructed⟩ : ∃ constructed : Server, constructed = { s with
      responseBuffer := writeMessage s.responseBuffer MessageType.pong.code pong lastMessage
      trace := s.trace ++ [.constructed MessageType.pong.code pong lastMessage] } := ⟨_, rfl⟩
  have hconstruct : constructMessage responseBufferSize MessageType.pong.code s.payloadBuffer
      payloadLength lastMessage firmware s = some (.success, constructed) := by
    rw [constructMessage_constructed (capacity_of_length_le hlength), hpong, hconstructed]
  have hframe : constructed.responseBuffer.read 0 messageSize.toNat =
      pongFrame pong lastMessage := by
    have hwritten := read_writeMessage s.responseBuffer MessageType.pong.code pong lastMessage
    rw [hpongLength, ← hsize hlength] at hwritten
    rw [hconstructed]
    exact hwritten
  obtain ⟨status, t, hsend, hbuffer, hclock, houtcome⟩ :=
    sendMessage_outcome firmware hframe
  refine ⟨constructed, status, t, by rw [hconstructed], by rw [hconstructed], ?_, ?_, ?_,
    houtcome⟩
  · refine (bind_of_eq_some rfl _).trans ?_
    rw [respond, bind_of_eq_some hconstruct, if_neg (by decide), bind_of_eq_some hsend]
    cases houtcome with
    | declined _ herror => rw [if_pos herror]; rfl
    | lost _ _ herror => rw [if_pos herror]; rfl
    | altered _ _ hsuccess => rw [hsuccess]; rfl
    | transmitted _ hsuccess => rw [hsuccess]; rfl
  · rw [hbuffer, hconstructed]
  · rw [hclock, hconstructed]

/-! ## All pongs -/

/-- What became of a number of pongs. -/
structure PongsRun (firmware : Firmware) (pong : List UInt8) (count : ℕ) (s : Server)
    (status : EfiStatus) (t : Server) : Prop where
  goesOn : ∃ lastMessage events,
    t.trace = s.trace ++ .constructed MessageType.pong.code pong lastMessage :: events
  echoed : Echoed pong count s status t ↔ ∀ number < count,
    firmware.Transmits (s.clock + number) (pongFrame pong (decide (number + 1 = count)))
  failed : EchoFailed s status t ↔ firmware.Declines s.clock (pongFrame pong (decide (1 = count)))

variable {pong : List UInt8} {count : ℕ} {lastMessage : Bool} {constructed : Server}

/-- What was given to the transport stays in the trace. -/
theorem not_echoFailed {bytes : List UInt8} {events : List Event} {event : Event}
    (htrace : t.trace = s.trace ++ event :: .sent bytes :: events) :
    ¬ EchoFailed s status t := by
  rintro ⟨-, later, hlater, hnothing⟩
  rw [htrace, List.append_cancel_left_eq] at hlater
  apply hnothing bytes
  rw [← hlater]
  exact List.mem_cons_of_mem _ (List.mem_cons_self ..)

section

variable (hclock : constructed.clock = s.clock)
variable (hconstructed : constructed.trace =
  s.trace ++ [.constructed MessageType.pong.code pong lastMessage])

include hclock hconstructed

/-- The first pong is not taken. -/
theorem PongsRun.declined (hlast : lastMessage = decide (1 = count)) (hpositive : 0 < count)
    (hdeclines : firmware.Declines constructed.clock (pongFrame pong lastMessage))
    (herror : status.isError = true) (htrace : t.trace = constructed.trace) :
    PongsRun firmware pong count s status t := by
  rw [hclock, hlast] at hdeclines
  rw [hconstructed] at htrace
  refine ⟨⟨_, _, htrace⟩, iff_of_false ?_ ?_, iff_of_true ⟨herror, _, htrace, ?_⟩ hdeclines⟩
  · exact fun hechoed => EfiStatus.ne_success_of_isError herror hechoed.1
  · intro hall
    have hfirst := hall 0 hpositive
    rw [Nat.add_zero, Nat.zero_add] at hfirst
    exact hfirst.not_declines hdeclines
  · rintro bytes hsent
    cases List.mem_singleton.mp hsent

/-- The first pong is not delivered as it is. -/
theorem PongsRun.undelivered (hlast : lastMessage = decide (1 = count)) (hpositive : 0 < count)
    (hdeclines : ¬ firmware.Declines constructed.clock (pongFrame pong lastMessage))
    (htransmits : ¬ firmware.Transmits constructed.clock (pongFrame pong lastMessage))
    {delivered : List UInt8} {events : List Event}
    (htrace : t.trace = constructed.trace ++ .sent delivered :: events)
    (hdiffers : status.isError = true ∨ delivered ≠ pongFrame pong lastMessage) :
    PongsRun firmware pong count s status t := by
  rw [hclock] at hdeclines htransmits
  rw [hconstructed, List.append_assoc, List.singleton_append] at htrace
  refine ⟨⟨_, _, htrace⟩, iff_of_false ?_ ?_, iff_of_false (not_echoFailed htrace) ?_⟩
  · rintro ⟨hsuccess, hechoed⟩
    rcases hdiffers with herror | hdelivered
    · exact EfiStatus.ne_success_of_isError herror hsuccess
    · obtain ⟨more, rfl⟩ := Nat.exists_eq_succ_of_ne_zero hpositive.ne'
      rw [htrace, List.append_cancel_left_eq, List.replicate_succ, sentPackets, List.cons.injEq,
        List.cons.injEq, Event.constructed.injEq, Event.sent.injEq] at hechoed
      rw [hechoed.1.2.2] at hdelivered
      exact hdelivered hechoed.2.1
  · intro hall
    have hfirst := hall 0 hpositive
    rw [Nat.add_zero, Nat.zero_add, ← hlast] at hfirst
    exact htransmits hfirst
  · rwa [← hlast]

end

/-- The last pong is delivered. -/
theorem PongsRun.last (htransmits : firmware.Transmits s.clock (pongFrame pong true))
    (hsuccess : status = .success)
    (htrace : t.trace = s.trace ++ [.constructed MessageType.pong.code pong true,
      .sent (pongFrame pong true)]) : PongsRun firmware pong 1 s status t := by
  refine ⟨⟨_, _, htrace⟩, iff_of_true ⟨hsuccess, htrace⟩ ?_,
    iff_of_false (not_echoFailed htrace) htransmits.not_declines⟩
  intro number hnumber
  cases Nat.lt_one_iff.mp hnumber
  exact htransmits

/-- A pong is delivered in front of others. -/
theorem PongsRun.cons {middle : Server} {remaining : ℕ}
    (hrest : PongsRun firmware pong (remaining + 1) middle status t)
    (htransmits : firmware.Transmits s.clock (pongFrame pong false))
    (hclock : middle.clock = s.clock + 1)
    (htrace : middle.trace = s.trace ++ [.constructed MessageType.pong.code pong false,
      .sent (pongFrame pong false)]) : PongsRun firmware pong (remaining + 2) s status t := by
  obtain ⟨lastMessage, events, hextends⟩ := hrest.goesOn
  rw [htrace, List.append_assoc] at hextends
  refine ⟨⟨_, _, hextends⟩, ?_, iff_of_false (not_echoFailed hextends) ?_⟩
  · have hpackets : sentPackets .pong (List.replicate (remaining + 2) pong) =
        [.constructed MessageType.pong.code pong false, .sent (pongFrame pong false)] ++
          sentPackets .pong (List.replicate (remaining + 1) pong) := rfl
    have hsame : Echoed pong (remaining + 2) s status t ↔
        Echoed pong (remaining + 1) middle status t := by
      rw [Echoed, Echoed, htrace, hpackets, List.append_assoc]
    rw [hsame, hrest.echoed, @Nat.forall_lt_succ_left (remaining + 1), hclock]
    have hfirst : decide (0 + 1 = remaining + 2) = false := decide_eq_false (by omega)
    rw [Nat.add_zero s.clock, hfirst, and_iff_right htransmits]
    refine forall₂_congr fun number hnumber => ?_
    rw [Nat.add_assoc, Nat.add_comm 1 number]
    simp only [Nat.add_right_cancel_iff]
  · have hmore : decide (1 = remaining + 2) = false := decide_eq_false (by omega)
    rw [hmore]
    exact htransmits.not_declines

/-- The loop and the message behind it. -/
theorem sendPongs_run {pingSize : UInt32} (hlength : (pingSize + 4).toUInt64.toNat ≤ 1400)
    (hpong : s.payloadBuffer.read 0 (pingSize + 4).toUInt64.toNat = pong) (remaining : ℕ) :
    ∃ status t, sendPongs pingSize (pingSize + 4 + headerSize.toUInt32).toUInt64 remaining
        firmware s = some (status, t) ∧
      PongsRun firmware pong (remaining + 1) s status t := by
  induction remaining generalizing s with
  | zero =>
      obtain ⟨constructed, status, t, hclock, htrace, hrun, hbuffer, hlater, houtcome⟩ :=
        respondPong_outcome firmware hlength (sizeMatches_ping pingSize) hpong true
      refine ⟨status, t, hrun, ?_⟩
      cases houtcome with
      | declined hdeclines herror hsame =>
          exact .declined hclock htrace rfl one_pos hdeclines herror hsame
      | lost hdeclines htransmits herror delivered hsent =>
          exact .undelivered hclock htrace rfl one_pos hdeclines htransmits hsent (.inl herror)
      | altered hdeclines htransmits hsuccess delivered hdelivered hsent =>
          exact .undelivered hclock htrace rfl one_pos hdeclines htransmits hsent (.inr hdelivered)
      | transmitted htransmits hsuccess hsent =>
          rw [hclock] at htransmits
          rw [htrace, List.append_assoc] at hsent
          exact .last htransmits hsuccess hsent
  | succ remaining ih =>
      obtain ⟨constructed, status, middle, hclock, htrace, hrun, hbuffer, hlater, houtcome⟩ :=
        respondPong_outcome firmware hlength (sizeMatches_ping pingSize) hpong false
      have hlast : false = decide (1 = remaining + 1 + 1) :=
        (decide_eq_false (by omega)).symm
      rw [← hbuffer] at hpong
      have hstop (herror : status.isError = true) :
          sendPongs pingSize (pingSize + 4 + headerSize.toUInt32).toUInt64 (remaining + 1)
            firmware s = some (status, middle) := by
        rw [sendPongs, bind_of_eq_some hrun, if_pos herror]
        rfl
      have hproceed (hsuccess : status = .success) :
          sendPongs pingSize (pingSize + 4 + headerSize.toUInt32).toUInt64 (remaining + 1)
              firmware s =
            sendPongs pingSize (pingSize + 4 + headerSize.toUInt32).toUInt64 remaining
              firmware middle := by
        rw [sendPongs, bind_of_eq_some hrun, hsuccess]
        rfl
      cases houtcome with
      | declined hdeclines herror hsame =>
          exact ⟨status, middle, hstop herror,
            .declined hclock htrace hlast (Nat.succ_pos _) hdeclines herror hsame⟩
      | lost hdeclines htransmits herror delivered hsent =>
          exact ⟨status, middle, hstop herror, .undelivered hclock htrace hlast (Nat.succ_pos _)
            hdeclines htransmits hsent (.inl herror)⟩
      | altered hdeclines htransmits hsuccess delivered hdelivered hsent =>
          obtain ⟨final, t, hrest, hpongs⟩ := ih hpong
          obtain ⟨_, events, hextends⟩ := hpongs.goesOn
          rw [hsent, List.append_assoc, List.singleton_append] at hextends
          exact ⟨final, t, (hproceed hsuccess).trans hrest, .undelivered hclock htrace hlast
            (Nat.succ_pos _) hdeclines htransmits hextends (.inr hdelivered)⟩
      | transmitted htransmits hsuccess hsent =>
          obtain ⟨final, t, hrest, hpongs⟩ := ih hpong
          rw [hclock] at htransmits
          rw [htrace, List.append_assoc] at hsent
          exact ⟨final, t, (hproceed hsuccess).trans hrest, hpongs.cons htransmits hlater hsent⟩

/-! ## Nothing else is written -/

/-- A change of the trace and the clock. -/
theorem writesInside_modify {change : Server → Server}
    (hchange : ∀ s, ∃ clock trace, change s = { s with clock := clock, trace := trace }) :
    Guarantees firmware WritesInside (modify change : Handler PUnit) := by
  apply Guarantees.modify
  intro s
  obtain ⟨clock, trace, hsame⟩ := hchange s
  rw [hsame]
  exact ⟨fun _ _ => rfl, fun _ _ => rfl, rfl, rfl, rfl, rfl⟩

theorem writesInside_record (event : Event) :
    Guarantees firmware WritesInside (record event) :=
  writesInside_modify fun s => ⟨s.clock, _, rfl⟩

theorem writesInside_constructMessage (messageType : UInt32) (payload : Memory)
    {payloadLength : UInt64} (hfits : payloadLength.toNat + 12 < 2 ^ 64) (lastMessage : Bool) :
    Guarantees firmware WritesInside
      (constructMessage responseBufferSize messageType payload payloadLength lastMessage) := by
  simp only [constructMessage]
  split_ifs with hcapacity
  · exact (writesInside_record _).bind fun _ => Guarantees.pure _
  have hlength := length_le_of_capacity hcapacity hfits
  have hsize : responseBufferSize.toNat = 1412 := rfl
  have hwrites : Guarantees firmware WritesInside (modify fun s : Server => { s with
      responseBuffer := writeMessage s.responseBuffer messageType
        (payload.read 0 payloadLength.toNat) lastMessage } : Handler PUnit) := by
    apply Guarantees.modify
    intro s
    refine ⟨fun _ _ => rfl, fun address hbehind => ?_, rfl, rfl, rfl, rfl⟩
    rw [hsize] at hbehind
    dsimp only
    rw [writeMessage_eq, Memory.write_of_le]
    rw [length_frame, length_messageBody, Memory.length_read]
    omega
  exact hwrites.bind fun _ => (writesInside_record _).bind fun _ => Guarantees.pure _

theorem writesInside_sendMessage (messageSize : UInt64) :
    Guarantees firmware WritesInside (sendMessage messageSize) := by
  have hask : Guarantees firmware WritesInside ask :=
    Guarantees.get.bind fun _ =>
      (writesInside_modify fun s => ⟨s.clock + 1, s.trace, rfl⟩).bind fun _ => Guarantees.pure _
  refine hask.bind fun number => Guarantees.read.bind fun _ => Guarantees.get.bind fun s => ?_
  dsimp only
  split_ifs
  · exact Guarantees.pure _
  · exact Guarantees.pure _
  · exact (writesInside_record _).bind fun _ => Guarantees.pure _
  · exact (writesInside_record _).bind fun _ => Guarantees.pure _

theorem writesInside_respondPayload (messageType : MessageType) {payloadLength : UInt64}
    (hfits : payloadLength.toNat + 12 < 2 ^ 64) (messageSize : UInt64) (lastMessage : Bool) :
    Guarantees firmware WritesInside
      (respondPayload printStatusDebug messageType payloadLength messageSize lastMessage) := by
  refine Guarantees.get.bind fun s =>
    (writesInside_constructMessage _ _ hfits _).bind fun status => ?_
  split_ifs
  · exact (Guarantees.pure _).bind fun _ => Guarantees.pure _
  refine (writesInside_sendMessage _).bind fun status => ?_
  split_ifs
  · exact (Guarantees.pure _).bind fun _ => Guarantees.pure _
  · exact Guarantees.pure _

theorem writesInside_sendPongs (pingSize : UInt32) (responseSize : UInt64) (remaining : ℕ) :
    Guarantees firmware WritesInside (sendPongs pingSize responseSize remaining) := by
  have hfits : (pingSize + 4).toUInt64.toNat + 12 < 2 ^ 64 := by
    rw [UInt32.toNat_toUInt64]
    have hword := (pingSize + 4).toNat_lt
    omega
  induction remaining with
  | zero => exact writesInside_respondPayload _ hfits _ _
  | succ remaining ih =>
      refine (writesInside_respondPayload _ hfits _ _).bind fun status => ?_
      split_ifs
      · exact Guarantees.pure _
      · exact ih

variable (firmware) in
theorem completes_sendPongs (pingSize : UInt32) (responseSize : UInt64) (remaining : ℕ) :
    Completes firmware (sendPongs pingSize responseSize remaining) := by
  have hrespond (lastMessage : Bool) : Completes firmware (respondPayload printStatusDebug .pong
      (pingSize + 4).toUInt64 responseSize lastMessage) :=
    Completes.get.bind fun _ => completes_respond (fun _ _ => Completes.pure _) _ _ _ _ _
  induction remaining with
  | zero => exact hrespond true
  | succ remaining ih =>
      refine (hrespond false).bind fun status => ?_
      split_ifs
      · exact Completes.pure _
      · exact ih

/-! ## The handlers -/

/-- The server once the data is in the payload buffer. -/
def echoCopied (request : PingRequest) (payload : Memory) (s : Server) : Server :=
  { s with payloadBuffer := s.payloadBuffer.write 0 (request.pong payload) }

variable {request : PingRequest} {payload : Memory} {payloadLength : UInt64}

theorem PingRequest.length_pong (request : PingRequest) (payload : Memory) :
    (request.pong payload).length = 4 + (request.size payload).toNat := by
  rw [PingRequest.pong, List.length_append, length_littleEndian, Memory.length_read]

/-- The declared size is the actual one. -/
def PingRequest.Matches (request : PingRequest) (payload : Memory) (payloadLength : UInt64) :
    Prop :=
  payloadLength.toNat = request.head + (request.size payload).toNat

theorem sub_eq_toUInt64 {size : UInt32} {head : UInt64} (hmatches : payloadLength.toNat =
    head.toNat + size.toNat) : size.toUInt64 = payloadLength - head := by
  apply UInt64.toNat_inj.mp
  rw [UInt32.toNat_toUInt64, UInt64.toNat_sub_of_le _ _ (UInt64.le_iff_toNat_le.mpr (by omega)),
    hmatches, Nat.add_sub_cancel_left]

/-- The size and the data make up the payload of a pong. -/
theorem echoCopied_run (request : PingRequest) (payload : Memory) (next : Handler EfiStatus)
    (s : Server) :
    (do
      putPayload32 0 (request.size payload)
      copyToPayload 4 (payload.read request.head (request.size payload).toNat)
      next) firmware s = next firmware (echoCopied request payload s) := by
  have hcopied := s.payloadBuffer.write_write_append 0
    (littleEndian 4 (request.size payload).toNat)
    (payload.read request.head (request.size payload).toNat)
  rw [length_littleEndian, Nat.zero_add] at hcopied
  rw [echoCopied, PingRequest.pong, ← hcopied]
  rfl

/-- Both handlers copy and then send. -/
theorem PingRequest.handle_eq (hmatches : request.Matches payload payloadLength) (s : Server) :
    request.handle payload payloadLength firmware s =
      sendPongs (request.size payload)
        (request.size payload + 4 + headerSize.toUInt32).toUInt64 (request.count payload - 1)
        firmware (echoCopied request payload s) := by
  cases request with
  | ping =>
      have hlong : ¬ payloadLength < 4 := by
        rw [UInt64.lt_iff_toNat_lt, hmatches]
        exact Nat.not_lt.mpr (Nat.le_add_right 4 _)
      have hsame : (payload.u32 0).toUInt64 = payloadLength - 4 := sub_eq_toUInt64 hmatches
      rw [PingRequest.handle, handlePing, if_neg hlong, if_neg (not_not.mpr hsame)]
      exact echoCopied_run .ping payload _ s
  | multiPing =>
      have hlong : ¬ payloadLength < 8 := by
        rw [UInt64.lt_iff_toNat_lt, hmatches]
        exact Nat.not_lt.mpr (Nat.le_add_right 8 _)
      have hsame : (payload.u32 1).toUInt64 = payloadLength - 8 := sub_eq_toUInt64 hmatches
      rw [PingRequest.handle, handleMultiPing, if_neg hlong, if_neg (not_not.mpr hsame)]
      exact echoCopied_run .multiPing payload _ s

variable (firmware s) in
/-- What is behind the payload buffer stays there when the data fits. -/
theorem staysInside_of_fits (hmatches : request.Matches payload payloadLength)
    (hfits : (request.size payload).toNat ≤ 1396) :
    StaysInside firmware (request.handle payload payloadLength) s := by
  intro payloadBuffer responseBuffer
  obtain ⟨before, hbefore⟩ : ∃ before : Server, before = { s with
      payloadBuffer := payloadBuffer
      responseBuffer := responseBuffer } := ⟨_, rfl⟩
  rw [← hbefore, PingRequest.handle_eq hmatches]
  obtain ⟨status, t, hrun⟩ := completes_sendPongs firmware (request.size payload)
    (request.size payload + 4 + headerSize.toUInt32).toUInt64 (request.count payload - 1)
    (echoCopied request payload before)
  have hcopied : WritesInside before (echoCopied request payload before) := by
    refine ⟨fun address hbehind => ?_, fun _ _ => rfl, rfl, rfl, rfl, rfl⟩
    rw [echoCopied]
    dsimp only
    rw [Memory.write_of_le]
    rw [request.length_pong]
    omega
  exact ⟨status, t, hrun,
    trans_of WritesInside hcopied (writesInside_sendPongs _ _ _ _ status t hrun)⟩

variable (firmware s) in
/-- Data that does not fit is copied all the same. -/
theorem not_staysInside_of_long (hmatches : request.Matches payload payloadLength)
    (hlong : 1396 < (request.size payload).toNat) :
    ¬ StaysInside firmware (request.handle payload payloadLength) s := by
  intro hinside
  have hlength := request.length_pong payload
  have hbyte : 1400 < (request.pong payload).length := by omega
  -- a byte that is not the one written
  obtain ⟨other, hother⟩ : ∃ other : UInt8, other = (request.pong payload)[1400] + 1 := ⟨_, rfl⟩
  obtain ⟨status, t, hrun, hwrites⟩ := hinside (fun _ => other) (fun _ => 0)
  rw [PingRequest.handle_eq hmatches] at hrun
  have hkept := (writesInside_sendPongs _ _ _ _ status t hrun).payloadBuffer 1400 le_rfl
  have hbehind := hwrites.payloadBuffer 1400 le_rfl
  rw [hkept] at hbehind
  have hwritten : (request.pong payload)[1400] = other := by
    simpa [echoCopied, Memory.write, hbyte] using hbehind
  rw [hother] at hwritten
  exact absurd hwritten (by
    intro hsame
    have hnat := congrArg UInt8.toNat hsame
    rw [UInt8.toNat_add] at hnat
    have hone : (1 : UInt8).toNat = 1 := rfl
    omega)

variable (firmware) in
/-- The pongs of a request with data that fits. -/
theorem handle_pongsRun (hmatches : request.Matches payload payloadLength)
    (hfits : (request.size payload).toNat ≤ 1396) (s : Server) :
    ∃ status t, request.handle payload payloadLength firmware s = some (status, t) ∧
      PongsRun firmware (request.pong payload) (request.count payload - 1 + 1)
        (echoCopied request payload s) status t := by
  have hsum : (request.size payload + 4).toUInt64.toNat = (request.pong payload).length := by
    have hfour : (4 : UInt32).toNat = 4 := rfl
    rw [request.length_pong, UInt32.toNat_toUInt64, UInt32.toNat_add, hfour,
      Nat.mod_eq_of_lt (by omega), Nat.add_comm]
  have hlength := request.length_pong payload
  have hpong : (echoCopied request payload s).payloadBuffer.read 0
      (request.size payload + 4).toUInt64.toNat = request.pong payload := by
    rw [hsum, echoCopied, Memory.read_write]
  rw [PingRequest.handle_eq hmatches]
  exact sendPongs_run (by omega) hpong _

/-- The exact condition: the data fits behind its size; and the transport does not
take the first pong, or at least one pong is asked for and all are delivered. -/
theorem echoesInside_iff (hmatches : request.Matches payload payloadLength) (firmware : Firmware)
    (s : Server) :
    EchoesInside request payload payloadLength firmware s ↔
      (request.size payload).toNat ≤ 1396 ∧
        (firmware.Declines s.clock
            (pongFrame (request.pong payload) (decide (request.count payload ≤ 1))) ∨
          0 < request.count payload ∧ ∀ number < request.count payload,
            firmware.Transmits (s.clock + number) (pongFrame (request.pong payload)
              (decide (number + 1 = request.count payload)))) := by
  by_cases hfits : (request.size payload).toNat ≤ 1396
  swap
  · have hlong := not_staysInside_of_long firmware s hmatches
      (Nat.not_le.mp hfits)
    exact iff_of_false (fun hechoes => hlong hechoes.2) (fun hboth => hfits hboth.1)
  obtain ⟨status, t, hrun, hpongs⟩ := handle_pongsRun firmware hmatches hfits s
  have hfirst : decide (1 = request.count payload - 1 + 1) =
      decide (request.count payload ≤ 1) := by
    rw [decide_eq_decide]
    omega
  have hfailed : EchoFailed s status t ↔ firmware.Declines s.clock
      (pongFrame (request.pong payload) (decide (request.count payload ≤ 1))) := by
    rw [← hfirst]
    exact hpongs.failed
  have hechoed : Echoed (request.pong payload) (request.count payload) s status t ↔
      0 < request.count payload ∧ ∀ number < request.count payload,
        firmware.Transmits (s.clock + number) (pongFrame (request.pong payload)
          (decide (number + 1 = request.count payload))) := by
    by_cases hpositive : 0 < request.count payload
    · rw [and_iff_right hpositive]
      have hall := hpongs.echoed
      rw [Nat.sub_add_cancel hpositive] at hall
      exact hall
    · refine iff_of_false ?_ fun hboth => hpositive hboth.1
      rintro ⟨-, hsilent⟩
      obtain ⟨lastMessage, events, hevents⟩ := hpongs.goesOn
      rw [Nat.eq_zero_of_not_pos hpositive, List.replicate_zero, sentPackets] at hsilent
      have hsame : (echoCopied request payload s).trace = s.trace := rfl
      rw [hsilent, hsame, List.append_cancel_left_eq] at hevents
      cases hevents
  rw [and_iff_right hfits, EchoesInside,
    and_iff_left (staysInside_of_fits firmware s hmatches hfits), ← hfailed,
    ← hechoed, or_comm]
  constructor
  · rintro ⟨status', t', hrun', hanswered⟩
    rw [hrun] at hrun'
    cases hrun'
    exact hanswered
  · exact fun hanswered => ⟨status, t, hrun, hanswered⟩

/-- Three pongs of two bytes. -/
def threePings : Memory :=
  Memory.write (fun _ => 0) 0 [3, 0, 0, 0, 2, 0, 0, 0, 0xAB, 0xCD]

theorem transmits_loopback (number : ℕ) (message : List UInt8) :
    loopback.Transmits number message :=
  delivers_loopback number message

theorem echoesInside_threePings :
    EchoesInside .multiPing threePings 10 loopback idleServer := by
  have hmatches : PingRequest.multiPing.Matches threePings 10 := rfl
  apply (echoesInside_iff hmatches loopback idleServer).mpr
  refine ⟨by decide, .inr ⟨by decide, fun number _ => transmits_loopback _ _⟩⟩

/-- A ping of one byte more than fits. -/
def longPing : Memory := Memory.write (fun _ => 0) 0 (littleEndian 4 1397)

/-- A ping that is too long is written behind the payload buffer, and to no pong at
all a pong is sent. -/
theorem not_echoesInside_samples :
    PingRequest.ping.Matches longPing 1401 ∧
      ¬ EchoesInside .ping longPing 1401 loopback idleServer ∧
      PingRequest.multiPing.Matches (fun _ => 0) 8 ∧
      ¬ EchoesInside .multiPing (fun _ => 0) 8 loopback idleServer := by
  have hlong : PingRequest.ping.Matches longPing 1401 := rfl
  have hnone : PingRequest.multiPing.Matches (fun _ => 0) 8 := rfl
  refine ⟨hlong, fun hechoes => ?_, hnone, fun hechoes => ?_⟩
  · exact not_staysInside_of_long loopback idleServer hlong (by decide) hechoes.2
  · obtain ⟨status, t, hrun, hanswered⟩ := hechoes.1
    obtain ⟨_, _, hpongs, hsent⟩ := handle_pongsRun loopback hnone
      (Nat.zero_le 1396) idleServer
    rw [hrun, Option.some.injEq, Prod.mk.injEq] at hpongs
    rw [← hpongs.1, ← hpongs.2] at hsent
    rcases hanswered with hechoed | hfailed
    · obtain ⟨lastMessage, events, hevents⟩ := hsent.goesOn
      have hsilent : t.trace = [] := hechoed.2
      rw [hsilent] at hevents
      cases hevents
    · exact (transmits_loopback _ _).not_declines (hsent.failed.mp hfailed)

end Handlers

end AngryUefi
