import AngryUefi.Lib.Bytes
import AngryUefi.Net.Status

/-!
# Receiving messages

`receive_messages` as a state machine.  A state stands where the loops wait for
`receive_chunk`, or where a message is being handled; a label is what the
firmware reports to one `receive_chunk`, or the return of the handler.
-/

namespace AngryUefi

open AngryUefi.Bytes

/-- `RECEIVE_BUFFER_SIZE` -/
def receiveBufferSize : ℕ := 1 * 1024 * 1024 + 12

/-- What the firmware reports to one `receive_chunk`: the statuses of
`CreateEvent` and `Receive`, and those of the completed token with the bytes it
has put into the fragment. -/
structure ReceiveOutcome where
  createEvent : EfiStatus
  receive : EfiStatus
  completion : EfiStatus
  data : List UInt8

/-- The result of `receive_chunk`: its status, the chunk length, the bytes that
are now in the chunk. -/
def receiveChunk (outcome : ReceiveOutcome) : EfiStatus × List UInt8 :=
  if outcome.createEvent.isError then (outcome.createEvent, [])
  else if outcome.receive = .connectionFin then (.success, [])
  else if outcome.receive.isError then (outcome.receive, [])
  else if outcome.completion = .connectionFin then (.success, [])
  else if outcome.completion.isError then (outcome.completion, [])
  else (.success, outcome.data)

/-- The firmware reports no error, and these bytes. -/
def delivered (data : List UInt8) : ReceiveOutcome :=
  { createEvent := .success, receive := .success, completion := .success, data }

@[simp]
theorem receiveChunk_delivered (data : List UInt8) :
    receiveChunk (delivered data) = (.success, data) := by
  simp [receiveChunk, delivered, EfiStatus.connectionFin, EfiStatus.success,
    EfiStatus.isError]

/-- The part of `handle_message` that decides its status: the handlers' own
statuses are dropped. -/
def messageStatus (message : Memory) (messageLength : ℕ) : EfiStatus :=
  if messageLength < 8 then .invalidParameter
  else if message 0 ≠ 1 ∨ message 1 ≠ 0 then .invalidParameter
  else .success

/-- Where `receive_messages` stands. -/
inductive ReceiveLoop
  | header
  | body (headerMessageLength currentMessageSize : ℕ)
  | handling (messageLength : ℕ)
  | stopped (status : EfiStatus)
  deriving DecidableEq

/-- `received` is what the peer's bytes were so far, `dispatched` the message
bodies handed to `handle_message`, `closed` whether the peer was seen to
close. -/
structure Receiver where
  receiveBuffer : Memory
  loop : ReceiveLoop
  received : List UInt8
  dispatched : List (List UInt8)
  closed : Bool

namespace Receiver

def stop (s : Receiver) (status : EfiStatus) : Receiver :=
  { s with loop := .stopped status }

/-- What follows the inner loop. -/
def afterBody (s : Receiver) (headerMessageLength currentMessageSize : ℕ) : Receiver :=
  if currentMessageSize ≠ headerMessageLength then s.stop .aborted
  else
    { s with
      loop := .handling currentMessageSize
      dispatched := s.dispatched ++ [s.receiveBuffer.read 0 currentMessageSize] }

/-- The head of the inner loop. -/
def receiveBody (s : Receiver) (headerMessageLength currentMessageSize : ℕ) : Receiver :=
  if currentMessageSize < headerMessageLength then
    { s with loop := .body headerMessageLength currentMessageSize }
  else s.afterBody headerMessageLength currentMessageSize

/-- A chunk has been stored at an offset of the receive buffer. -/
def store (s : Receiver) (offset : ℕ) (chunk : List UInt8) : Receiver :=
  { s with
    receiveBuffer := s.receiveBuffer.write offset chunk
    received := s.received ++ chunk }

def close (s : Receiver) : Receiver := { s with closed := true }

@[simp]
theorem received_stop (s : Receiver) (status : EfiStatus) :
    (s.stop status).received = s.received := rfl

@[simp]
theorem received_close (s : Receiver) : s.close.received = s.received := rfl

@[simp]
theorem received_store (s : Receiver) (offset : ℕ) (chunk : List UInt8) :
    (s.store offset chunk).received = s.received ++ chunk := rfl

@[simp]
theorem received_afterBody (s : Receiver) (headerMessageLength currentMessageSize : ℕ) :
    (s.afterBody headerMessageLength currentMessageSize).received = s.received := by
  simp only [afterBody]
  split <;> rfl

@[simp]
theorem received_receiveBody (s : Receiver) (headerMessageLength currentMessageSize : ℕ) :
    (s.receiveBody headerMessageLength currentMessageSize).received = s.received := by
  simp only [receiveBody]
  split
  · rfl
  · exact received_afterBody _ _ _

inductive Label
  | chunk (outcome : ReceiveOutcome)
  | handled

def step : Label → Receiver → Option Receiver
  | .chunk outcome, s =>
      let status := (receiveChunk outcome).1
      let chunk := (receiveChunk outcome).2
      match s.loop with
      | .header =>
          some (if status.isError then s.stop status
            else if chunk.length = 0 then s.close.stop .success
            else if chunk.length ≠ 4 then (s.store 0 chunk).stop .aborted
            else (s.store 0 chunk).receiveBody
              ((s.store 0 chunk).receiveBuffer.word 4 0) 0)
      | .body headerMessageLength currentMessageSize =>
          some (if status.isError then s.stop status
            else if chunk.length = 0 then
              s.close.afterBody headerMessageLength currentMessageSize
            else (s.store currentMessageSize chunk).receiveBody headerMessageLength
              (currentMessageSize + chunk.length))
      | _ => none
  | .handled, s =>
      match s.loop with
      | .handling messageLength =>
          let status := messageStatus s.receiveBuffer messageLength
          some (if status.isError then s.stop status else { s with loop := .header })
      | _ => none

/-- A new connection: whatever is in the buffer, nothing was received yet. -/
structure Accepted (s : Receiver) : Prop where
  loop : s.loop = .header
  received : s.received = []
  dispatched : s.dispatched = []
  closed : s.closed = false

/-- A connection accepted when the buffer holds these bytes. -/
def accept (receiveBuffer : Memory) : Receiver :=
  { receiveBuffer, loop := .header, received := [], dispatched := [], closed := false }

theorem accepted_accept (receiveBuffer : Memory) : Accepted (accept receiveBuffer) :=
  ⟨rfl, rfl, rfl, rfl⟩

/-- The fragment that the next `receive_chunk` hands to the firmware, as its
offset in the receive buffer and its length. -/
def fragment (s : Receiver) : Option (ℕ × ℕ) :=
  match s.loop with
  | .header => some (0, 4)
  | .body headerMessageLength currentMessageSize =>
      some (currentMessageSize, headerMessageLength - currentMessageSize)
  | _ => none

/-- The kinds of steps of `receive_messages`. -/
inductive Effect (s : Receiver) : Label → Receiver → Prop
  | fail {outcome : ReceiveOutcome}
      (hloop : s.loop = .header ∨ ∃ length size, s.loop = .body length size)
      (herror : (receiveChunk outcome).1.isError = true) :
      Effect s (.chunk outcome) (s.stop (receiveChunk outcome).1)
  | closeHeader {outcome : ReceiveOutcome} (hloop : s.loop = .header)
      (hstatus : (receiveChunk outcome).1.isError = false)
      (hnothing : (receiveChunk outcome).2 = []) :
      Effect s (.chunk outcome) (s.close.stop .success)
  | shortHeader {outcome : ReceiveOutcome} (hloop : s.loop = .header)
      (hstatus : (receiveChunk outcome).1.isError = false)
      (hchunk : (receiveChunk outcome).2 ≠ [])
      (hlength : (receiveChunk outcome).2.length ≠ 4) :
      Effect s (.chunk outcome) ((s.store 0 (receiveChunk outcome).2).stop .aborted)
  | lengthWord {outcome : ReceiveOutcome} (hloop : s.loop = .header)
      (hstatus : (receiveChunk outcome).1.isError = false)
      (hlength : (receiveChunk outcome).2.length = 4) :
      Effect s (.chunk outcome) ((s.store 0 (receiveChunk outcome).2).receiveBody
        (ofLittleEndian (receiveChunk outcome).2) 0)
  | closeBody {outcome : ReceiveOutcome} {length size : ℕ} (hloop : s.loop = .body length size)
      (hstatus : (receiveChunk outcome).1.isError = false)
      (hnothing : (receiveChunk outcome).2 = []) :
      Effect s (.chunk outcome) (s.close.afterBody length size)
  | bodyChunk {outcome : ReceiveOutcome} {length size : ℕ} (hloop : s.loop = .body length size)
      (hstatus : (receiveChunk outcome).1.isError = false)
      (hchunk : (receiveChunk outcome).2 ≠ []) :
      Effect s (.chunk outcome) ((s.store size (receiveChunk outcome).2).receiveBody length
        (size + (receiveChunk outcome).2.length))
  | refuse {length : ℕ} (hloop : s.loop = .handling length)
      (herror : (messageStatus s.receiveBuffer length).isError = true) :
      Effect s .handled (s.stop (messageStatus s.receiveBuffer length))
  | serve {length : ℕ} (hloop : s.loop = .handling length)
      (hstatus : (messageStatus s.receiveBuffer length).isError = false) :
      Effect s .handled { s with loop := .header }

theorem word_store (s : Receiver) {chunk : List UInt8} (hlength : chunk.length = 4) :
    (s.store 0 chunk).receiveBuffer.word 4 0 = ofLittleEndian chunk := by
  have hread := s.receiveBuffer.read_write 0 chunk
  rw [hlength] at hread
  rw [Memory.word, store, hread]

/-- Every step is of one of these kinds. -/
theorem effect_of_step {label : Label} {s t : Receiver} (hstep : step label s = some t) :
    Effect s label t := by
  cases label with
  | chunk outcome =>
      cases hloop : s.loop with
      | header =>
          simp only [step, hloop, Option.some.injEq] at hstep
          split_ifs at hstep with hstatus hnothing hlength
          · subst hstep
            exact .fail (.inl hloop) hstatus
          · subst hstep
            exact .closeHeader hloop (by simpa using hstatus) (List.length_eq_zero_iff.mp hnothing)
          · subst hstep
            refine .shortHeader hloop (by simpa using hstatus) ?_ hlength
            exact fun hempty => hnothing (by rw [hempty]; rfl)
          · subst hstep
            have hword := s.word_store (not_not.mp hlength)
            rw [hword]
            exact .lengthWord hloop (by simpa using hstatus) (not_not.mp hlength)
      | body length size =>
          simp only [step, hloop, Option.some.injEq] at hstep
          split_ifs at hstep with hstatus hnothing
          · subst hstep
            exact .fail (.inr ⟨length, size, hloop⟩) hstatus
          · subst hstep
            exact .closeBody hloop (by simpa using hstatus) (List.length_eq_zero_iff.mp hnothing)
          · subst hstep
            refine .bodyChunk hloop (by simpa using hstatus) ?_
            exact fun hempty => hnothing (by rw [hempty]; rfl)
      | handling length => simp [step, hloop] at hstep
      | stopped status => simp [step, hloop] at hstep
  | handled =>
      cases hloop : s.loop with
      | handling length =>
          simp only [step, hloop, Option.some.injEq] at hstep
          split_ifs at hstep with hstatus
          · subst hstep
            exact .refuse hloop hstatus
          · subst hstep
            exact .serve hloop (by simpa using hstatus)
      | _ => simp [step, hloop] at hstep

end Receiver

end AngryUefi
