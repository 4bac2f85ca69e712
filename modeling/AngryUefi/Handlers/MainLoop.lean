import AngryUefi.Handlers.Running
import AngryUefi.Handlers.Startup
import AngryUefi.Net.Inbound

/-!
# The main loop

`AngryUEFI` accepts one connection after the other and leaves each to
`receive_messages`, which hands the message bodies to the handlers.  A
connection that ends with an error ends the program.  Here the receiving loops
and the handlers run together, over any number of connections.
-/

namespace AngryUefi

open AngryUefi.Bytes AngryUefi.Framing AngryUefi.Handlers AngryUefi.Programs
open AngryUefi.Transition

/-- The bodies that the handlers have returned from. -/
def Receiver.handled (s : Receiver) : List (List UInt8) :=
  match s.loop with
  | .handling _ => s.dispatched.dropLast
  | _ => s.dispatched

/-- Where the loop stands. -/
inductive MainPc
  | accepting
  | serving
  | ended
  deriving DecidableEq

/-- What the firmware reports for a connection: the statuses of `Accept`, of
the completed token and of `OpenProtocol`. -/
structure AcceptOutcome where
  accept : EfiStatus
  completion : EfiStatus
  openProtocol : EfiStatus

def AcceptOutcome.isError (outcome : AcceptOutcome) : Bool :=
  outcome.accept.isError || outcome.completion.isError || outcome.openProtocol.isError

/-- `closed` lists the connections that the peer has closed, `messages` what
was handed to `handle_message`; they are not part of the program. -/
structure MainLoop where
  pc : MainPc
  receiver : Receiver
  server : Server
  closed : List Receiver
  messages : List (Memory × UInt64)

namespace MainLoop

/-- The message that the handlers get. -/
def message (s : MainLoop) (messageLength : ℕ) : Memory × UInt64 :=
  (s.receiver.receiveBuffer, UInt64.ofNat messageLength)

/-- `handle_message` has returned. -/
def handled (s : MainLoop) (messageLength : ℕ) (status : EfiStatus) (server : Server) :
    MainLoop :=
  { s with
    receiver :=
      if status.isError then s.receiver.stop status else { s.receiver with loop := .header }
    server
    messages := s.messages ++ [s.message messageLength] }

inductive Label
  | accept (outcome : AcceptOutcome)
  | chunk (outcome : ReceiveOutcome)
  | handleMessage
  | returned

def step (firmware : Firmware) : Label → MainLoop → Option MainLoop
  | .accept outcome, s =>
      if s.pc = .accepting then
        some { s with pc := if outcome.isError then .ended else .serving }
      else none
  | .chunk outcome, s =>
      if s.pc = .serving then
        (Receiver.step (.chunk outcome) s.receiver).map fun receiver => { s with receiver }
      else none
  | .handleMessage, s =>
      match s.pc, s.receiver.loop with
      | .serving, .handling messageLength =>
          (handleMessage s.receiver.receiveBuffer (UInt64.ofNat messageLength) firmware
            s.server).map fun returned => s.handled messageLength returned.1 returned.2
      | _, _ => none
  | .returned, s =>
      match s.pc, s.receiver.loop with
      | .serving, .stopped status =>
          some (if status.isError then { s with pc := .ended }
            else
              { s with
                pc := .accepting
                receiver := .accept s.receiver.receiveBuffer
                closed := s.closed ++ [s.receiver] })
      | _, _ => none

/-- Before the first connection. -/
structure Starts (start : Server) (s : MainLoop) : Prop where
  pc : s.pc = .accepting
  receiver : s.receiver.Accepted
  server : s.server = start
  closed : s.closed = []
  messages : s.messages = []

/-- The handlers have served frames of all connections, each once and in the
order in which the peers sent them: every frame of the connections that were
closed, and of the current one the first frames. -/
structure InOrder (firmware : Firmware) (start : Server) (s : MainLoop) : Prop where
  served : ∃ status, serveMessages s.messages firmware start = some (status, s.server)
  bodies : s.messages.map (fun message => message.1.read 0 message.2.toNat) =
    s.closed.flatMap (fun receiver => (frames receiver.received).1) ++ s.receiver.handled
  whole : ∀ receiver ∈ s.closed, (frames receiver.received).2 = []
  current : s.receiver.handled <+: (frames s.receiver.received).1

/-- No receive returns more bytes than it asks for. -/
def WithinRequest (s : MainLoop) : Label → Prop
  | .chunk outcome =>
      ∀ fragment ∈ s.receiver.fragment, (receiveChunk outcome).2.length ≤ fragment.2
  | _ => True

instance (s : MainLoop) : DecidablePred s.WithinRequest
  | .chunk outcome => inferInstanceAs
      (Decidable (∀ fragment ∈ s.receiver.fragment, (receiveChunk outcome).2.length ≤ fragment.2))
  | .accept _ | .handleMessage | .returned => inferInstanceAs (Decidable True)

/-- Of the bytes that the current connection has received, every whole frame has
been handled, but for the one that is being handled. -/
structure CaughtUp (s : MainLoop) : Prop where
  handling : ∀ length, s.receiver.loop = .handling length →
    (frames s.receiver.received).1 =
      s.receiver.handled ++ [s.receiver.receiveBuffer.read 0 length]
  otherwise : (∀ length, s.receiver.loop ≠ .handling length) →
    (frames s.receiver.received).1 = s.receiver.handled

end MainLoop

/-! ## One connection -/

namespace Receiver

/-- A loop that stops does so with an error or with success. -/
def StopsRight (s : Receiver) : Prop :=
  ∀ status, s.loop = .stopped status → status.isError = true ∨ status = .success

theorem stopsRight_of_loop {s : Receiver} (hloop : ∀ status, s.loop ≠ .stopped status) :
    s.StopsRight := fun status hstopped => absurd hstopped (hloop status)

theorem stopsRight_stop {s : Receiver} {status : EfiStatus}
    (hstatus : status.isError = true ∨ status = .success) : (s.stop status).StopsRight := by
  rintro _ ⟨⟩
  exact hstatus

theorem stopsRight_afterBody (s : Receiver) (headerMessageLength currentMessageSize : ℕ) :
    (s.afterBody headerMessageLength currentMessageSize).StopsRight := by
  simp only [afterBody]
  split
  · exact stopsRight_stop (.inl EfiStatus.isError_aborted)
  · exact stopsRight_of_loop (by rintro _ ⟨⟩)

theorem stopsRight_receiveBody (s : Receiver) (headerMessageLength currentMessageSize : ℕ) :
    (s.receiveBody headerMessageLength currentMessageSize).StopsRight := by
  simp only [receiveBody]
  split
  · exact stopsRight_of_loop (by rintro _ ⟨⟩)
  · exact stopsRight_afterBody _ _ _

theorem stopsRight_step {label : Label} {s t : Receiver} (hstep : step label s = some t) :
    t.StopsRight := by
  cases effect_of_step hstep with
  | fail _ herror => exact stopsRight_stop (.inl herror)
  | closeHeader => exact stopsRight_stop (.inr rfl)
  | shortHeader => exact stopsRight_stop (.inl EfiStatus.isError_aborted)
  | lengthWord => exact stopsRight_receiveBody _ _ _
  | closeBody => exact stopsRight_afterBody _ _ _
  | bodyChunk => exact stopsRight_receiveBody _ _ _
  | refuse _ herror => exact stopsRight_stop (.inl herror)
  | serve => exact stopsRight_of_loop (by rintro _ ⟨⟩)

theorem handled_of_loop {s : Receiver} (hloop : ∀ length, s.loop ≠ .handling length) :
    s.handled = s.dispatched := by
  unfold handled
  split
  · rename_i length hhandling
    exact absurd hhandling (hloop length)
  · rfl

theorem handled_afterBody (s : Receiver) (headerMessageLength currentMessageSize : ℕ) :
    (s.afterBody headerMessageLength currentMessageSize).handled = s.dispatched := by
  simp only [afterBody]
  split
  · rfl
  · exact List.dropLast_concat

theorem handled_receiveBody (s : Receiver) (headerMessageLength currentMessageSize : ℕ) :
    (s.receiveBody headerMessageLength currentMessageSize).handled = s.dispatched := by
  simp only [receiveBody]
  split
  · rfl
  · exact handled_afterBody _ _ _

theorem handled_prefix (s : Receiver) : s.handled <+: s.dispatched := by
  unfold handled
  split
  · exact List.dropLast_prefix _
  · exact List.prefix_refl _

/-- Receiving handles nothing. -/
theorem handled_chunk {outcome : ReceiveOutcome} {s t : Receiver}
    (hstep : step (.chunk outcome) s = some t) : t.handled = s.handled := by
  have hbefore : ∀ loop, s.loop = loop → (∀ length, loop ≠ .handling length) →
      s.handled = s.dispatched := by
    rintro loop rfl hloop
    exact handled_of_loop hloop
  cases effect_of_step hstep with
  | fail hloop =>
      rcases hloop with hloop | ⟨length, size, hloop⟩
      · exact (hbefore _ hloop (by rintro _ ⟨⟩)).symm
      · exact (hbefore _ hloop (by rintro _ ⟨⟩)).symm
  | closeHeader hloop => exact (hbefore _ hloop (by rintro _ ⟨⟩)).symm
  | shortHeader hloop => exact (hbefore _ hloop (by rintro _ ⟨⟩)).symm
  | lengthWord hloop =>
      rw [handled_receiveBody, hbefore _ hloop (by rintro _ ⟨⟩)]
      rfl
  | closeBody hloop =>
      rw [handled_afterBody, hbefore _ hloop (by rintro _ ⟨⟩)]
      rfl
  | bodyChunk hloop =>
      rw [handled_receiveBody, hbefore _ hloop (by rintro _ ⟨⟩)]
      rfl

/-- The handler returns from the message that was dispatched last. -/
theorem InStep.handled_handling {s : Receiver} {length : ℕ} (hinStep : s.InStep)
    (hloop : s.loop = .handling length) :
    length < 2 ^ 32 ∧ s.dispatched = s.handled ++ [s.receiveBuffer.read 0 length] := by
  have haccount := hinStep.account
  rw [hloop] at haccount
  obtain ⟨earlier, hdispatched, -, -⟩ := haccount
  constructor
  · have hlength := hinStep.lengths (s.receiveBuffer.read 0 length) (by simp [hdispatched])
    rwa [Memory.length_read] at hlength
  · rw [handled, hloop, hdispatched, List.dropLast_concat]

/-- Every whole frame that was received has been dispatched. -/
def AllDispatched (s : Receiver) : Prop := (frames s.received).1 = s.dispatched

/-- As long as the loop goes on, what was received says so. -/
theorem InStep.allDispatched {s : Receiver} (hinStep : s.InStep)
    (hloop : ∀ status, s.loop ≠ .stopped status) : s.AllDispatched := by
  have haccount := hinStep.account
  rw [AllDispatched]
  cases hwhere : s.loop with
  | header =>
      rw [hwhere] at haccount
      rw [haccount.1, frames_encode hinStep.lengths]
  | body length size =>
      rw [hwhere] at haccount
      obtain ⟨hless, hlength, hreceived, -⟩ := haccount
      have hbody : (s.receiveBuffer.read 0 size).length < length := by
        rwa [Memory.length_read]
      rw [hreceived, List.append_assoc, frames_encode_append hinStep.lengths,
        frames_partialBody hlength hbody, List.append_nil]
  | handling length =>
      rw [hwhere] at haccount
      obtain ⟨_, _, hreceived, _⟩ := haccount
      rw [hreceived, frames_encode hinStep.lengths]
  | stopped status => exact absurd hwhere (hloop status)

theorem stop_of_afterBody {s : Receiver} {length size : ℕ} {status : EfiStatus}
    (hstopped : (s.afterBody length size).loop = .stopped status) :
    s.afterBody length size = s.stop .aborted := by
  simp only [afterBody] at hstopped ⊢
  split
  · rfl
  · rename_i hsize
    rw [if_neg hsize] at hstopped
    cases hstopped

/-- A loop that stops leaves no whole frame behind, unless the firmware returns
more than it was asked for. -/
theorem AllDispatched.step {outcome : ReceiveOutcome} {s t : Receiver}
    (hall : s.AllDispatched) (hinStep : s.InStep)
    (hwithin : ∀ fragment ∈ s.fragment, (receiveChunk outcome).2.length ≤ fragment.2)
    (hstep : Receiver.step (.chunk outcome) s = some t) : t.AllDispatched := by
  by_cases hgoesOn : ∀ status, t.loop ≠ .stopped status
  · exact (hinStep.step hstep).allDispatched hgoesOn
  obtain ⟨status, hstopped⟩ : ∃ status, t.loop = .stopped status := by
    simpa only [not_forall, not_not] using hgoesOn
  cases effect_of_step hstep with
  | fail => exact hall
  | closeHeader => exact hall
  | shortHeader hloop hstatus hchunk hlength =>
      have haccount := hinStep.account
      rw [hloop] at haccount
      have hfour := hwithin (0, 4) (by rw [fragment, hloop]; rfl)
      have hshort : (receiveChunk outcome).2.length < 4 := by omega
      rw [AllDispatched, received_stop, received_store, haccount.1,
        frames_encode_append hinStep.lengths, frames_of_incomplete (.inl hshort),
        List.append_nil]
      rfl
  | lengthWord hloop hstatus hfour =>
      simp only [receiveBody] at hstopped ⊢
      split at hstopped
      · cases hstopped
      · rename_i hzero
        have hempty : ofLittleEndian (receiveChunk outcome).2 = 0 := by omega
        rw [hempty, afterBody, if_neg (not_not.mpr rfl)] at hstopped
        cases hstopped
  | closeBody hloop =>
      rw [stop_of_afterBody hstopped]
      exact hall
  | @bodyChunk _ length size hloop hstatus hchunk =>
      have haccount := hinStep.account
      rw [hloop] at haccount
      have hbound := hwithin (size, length - size) (by rw [fragment, hloop]; rfl)
      simp only [receiveBody] at hstopped ⊢
      split at hstopped
      · cases hstopped
      · rename_i hwhole
        have hsize : size + (receiveChunk outcome).2.length = length := by
          have hless := haccount.1
          omega
        rw [hsize, afterBody, if_neg (not_not.mpr rfl)] at hstopped
        cases hstopped

theorem AllDispatched.handled {s : Receiver} (hall : s.AllDispatched) (hinStep : s.InStep) :
    (∀ length, s.loop = .handling length →
        (frames s.received).1 = s.handled ++ [s.receiveBuffer.read 0 length]) ∧
      ((∀ length, s.loop ≠ .handling length) → (frames s.received).1 = s.handled) := by
  constructor
  · intro length hloop
    rw [hall, (hinStep.handled_handling hloop).2]
  · intro hloop
    rw [hall, handled_of_loop hloop]

end Receiver

namespace MainLoop

/-- The main loop hands a message to the handlers, and the receiving loop goes
on with what it makes of the header. -/
theorem receiver_handled {firmware : Firmware} {s : MainLoop} {length : ℕ}
    {returned : EfiStatus × Server} (hlength : length < 2 ^ 32)
    (hloop : s.receiver.loop = .handling length)
    (hrun : handleMessage s.receiver.receiveBuffer (UInt64.ofNat length) firmware s.server =
      some returned) :
    Receiver.step .handled s.receiver = some (s.handled length returned.1 returned.2).receiver := by
  have hstatus := returns_handleMessage firmware s.receiver.receiveBuffer (UInt64.ofNat length)
    s.server returned.1 returned.2 hrun
  have hwrap : (UInt64.ofNat length).toNat = length := by
    rw [UInt64.toNat_ofNat', Nat.mod_eq_of_lt (by omega)]
  rw [hwrap] at hstatus
  simp only [Receiver.step, hloop, handled, hstatus]

end MainLoop

/-! ## All connections -/

namespace Handlers

/-- One message more. -/
theorem serveMessages_concat {firmware : Firmware} {messages : List (Memory × UInt64)}
    (message : Memory × UInt64) {s t u : Server} {status last : EfiStatus}
    (hserved : serveMessages messages firmware s = some (status, t))
    (hstatus : status.isError = false)
    (hlast : handleMessage message.1 message.2 firmware t = some (last, u)) :
    ∃ final, serveMessages (messages ++ [message]) firmware s = some (final, u) ∧
      (final.isError = true → last.isError = true) := by
  induction messages generalizing s with
  | nil =>
      cases hserved
      rw [List.nil_append, serveMessages, bind_of_eq_some hlast]
      split
      · exact ⟨last, rfl, id⟩
      · exact ⟨.success, rfl, fun herror => by simp at herror⟩
  | cons first messages ih =>
      obtain ⟨middleStatus, middle, hfirst, hrest⟩ := bind_eq_some_iff.mp hserved
      rw [List.cons_append, serveMessages, bind_of_eq_some hfirst]
      split
      · rename_i herror
        rw [if_pos herror] at hrest
        cases hrest
        simp [hstatus] at herror
      · rename_i herror
        rw [if_neg herror] at hrest
        exact ih hrest

end Handlers

namespace MainLoop

/-- The invariant of the main loop. -/
structure Faithful (firmware : Firmware) (start : Server) (s : MainLoop) : Prop where
  inStep : s.receiver.InStep
  stopsRight : s.receiver.StopsRight
  closed : ∀ receiver ∈ s.closed,
    receiver.InStep ∧ receiver.loop = .stopped .success
  served : ∃ status, serveMessages s.messages firmware start = some (status, s.server) ∧
    (status.isError = true → ∃ stopped, s.receiver.loop = .stopped stopped ∧
      stopped.isError = true)
  bodies : s.messages.map (fun message => message.1.read 0 message.2.toNat) =
    s.closed.flatMap Receiver.dispatched ++ s.receiver.handled

theorem Faithful.inOrder {firmware : Firmware} {start : Server} {s : MainLoop}
    (hfaithful : s.Faithful firmware start) : s.InOrder firmware start := by
  have hframes : ∀ receiver ∈ s.closed, frames receiver.received = (receiver.dispatched, []) :=
    fun receiver hclosed =>
      have hreceiver := hfaithful.closed receiver hclosed
      hreceiver.1.framesInStep.boundary hreceiver.2
  constructor
  · obtain ⟨status, hserved, -⟩ := hfaithful.served
    exact ⟨status, hserved⟩
  · rw [hfaithful.bodies]
    congr 1
    exact List.flatMap_congr fun receiver hclosed => by rw [hframes receiver hclosed]
  · exact fun receiver hclosed => by rw [hframes receiver hclosed]
  · exact s.receiver.handled_prefix.trans
      (hfaithful.inStep.framesInStep.dispatched _ (List.prefix_refl _))

theorem Faithful.receive {firmware : Firmware} {start : Server} {s : MainLoop}
    {outcome : ReceiveOutcome} {receiver : Receiver} (hfaithful : s.Faithful firmware start)
    (hstep : Receiver.step (.chunk outcome) s.receiver = some receiver) :
    ({ s with receiver } : MainLoop).Faithful firmware start := by
  obtain ⟨status, hserved, hstatus⟩ := hfaithful.served
  refine ⟨hfaithful.inStep.step hstep, Receiver.stopsRight_step hstep, hfaithful.closed,
    ⟨status, hserved, fun herror => ?_⟩, ?_⟩
  · obtain ⟨stopped, hloop, -⟩ := hstatus herror
    simp [Receiver.step, hloop] at hstep
  · rw [Receiver.handled_chunk hstep]
    exact hfaithful.bodies

theorem Faithful.handle {firmware : Firmware} {start : Server} {s : MainLoop} {length : ℕ}
    {returned : EfiStatus × Server} (hfaithful : s.Faithful firmware start)
    (hloop : s.receiver.loop = .handling length)
    (hrun : handleMessage s.receiver.receiveBuffer (UInt64.ofNat length) firmware s.server =
      some returned) :
    (s.handled length returned.1 returned.2).Faithful firmware start := by
  obtain ⟨hlength, hdispatched⟩ := hfaithful.inStep.handled_handling hloop
  have hstep := receiver_handled hlength hloop hrun
  obtain ⟨status, hserved, hstatus⟩ := hfaithful.served
  have hwrap : (UInt64.ofNat length).toNat = length := by
    rw [UInt64.toNat_ofNat', Nat.mod_eq_of_lt (by omega)]
  refine ⟨hfaithful.inStep.step hstep, Receiver.stopsRight_step hstep, hfaithful.closed, ?_, ?_⟩
  · have hnoError : status.isError = false := by
      by_contra herror
      obtain ⟨stopped, hstopped, -⟩ := hstatus (by simpa using herror)
      rw [hloop] at hstopped
      cases hstopped
    obtain ⟨final, hfinal, hlast⟩ :=
      serveMessages_concat (s.message length) hserved hnoError hrun
    refine ⟨final, hfinal, fun herror => ⟨returned.1, ?_, hlast herror⟩⟩
    simp [handled, hlast herror, Receiver.stop]
  · have hafter : (s.handled length returned.1 returned.2).receiver.handled =
        s.receiver.dispatched := by
      simp only [handled]
      split <;> rfl
    rw [hafter, hdispatched]
    simp [handled, message, hfaithful.bodies, hwrap]

theorem Faithful.close {firmware : Firmware} {start : Server} {s : MainLoop}
    {status : EfiStatus} (hfaithful : s.Faithful firmware start)
    (hloop : s.receiver.loop = .stopped status) (hstatus : ¬ status.isError = true) :
    ({ s with
        pc := .accepting
        receiver := .accept s.receiver.receiveBuffer
        closed := s.closed ++ [s.receiver] } : MainLoop).Faithful firmware start := by
  have hsuccess := (hfaithful.stopsRight status hloop).resolve_left hstatus
  subst hsuccess
  obtain ⟨served, hserved, herror⟩ := hfaithful.served
  refine ⟨Receiver.inStep_of_accepted (Receiver.accepted_accept _),
    Receiver.stopsRight_of_loop (by rintro _ ⟨⟩), ?_, ⟨served, hserved, fun hbad => ?_⟩, ?_⟩
  · intro receiver hreceiver
    rcases List.mem_append.mp hreceiver with hearlier | hlast
    · exact hfaithful.closed receiver hearlier
    · rw [List.mem_singleton.mp hlast]
      exact ⟨hfaithful.inStep, hloop⟩
  · obtain ⟨stopped, hstopped, hisError⟩ := herror hbad
    rw [hloop, ReceiveLoop.stopped.injEq] at hstopped
    rw [← hstopped] at hisError
    exact absurd hisError hstatus
  · have hhandled : s.receiver.handled = s.receiver.dispatched := by
      rw [Receiver.handled, hloop]
    have hfresh : (Receiver.accept s.receiver.receiveBuffer).handled = [] := rfl
    rw [hfresh, List.append_nil, List.flatMap_append, hfaithful.bodies, hhandled]
    simp

theorem Faithful.step {firmware : Firmware} {start : Server} {label : Label} {s t : MainLoop}
    (hfaithful : s.Faithful firmware start) (hstep : step firmware label s = some t) :
    t.Faithful firmware start := by
  cases label with
  | accept outcome =>
      simp only [MainLoop.step, Option.ite_none_right_eq_some, Option.some.injEq] at hstep
      obtain ⟨-, rfl⟩ := hstep
      exact ⟨hfaithful.inStep, hfaithful.stopsRight, hfaithful.closed, hfaithful.served,
        hfaithful.bodies⟩
  | chunk outcome =>
      simp only [MainLoop.step, Option.ite_none_right_eq_some, Option.map_eq_some_iff] at hstep
      obtain ⟨-, receiver, hreceiver, rfl⟩ := hstep
      exact hfaithful.receive hreceiver
  | handleMessage =>
      cases hpc : s.pc <;> cases hloop : s.receiver.loop
      all_goals simp only [MainLoop.step, hpc, hloop, reduceCtorEq,
        Option.map_eq_some_iff] at hstep
      obtain ⟨returned, hrun, rfl⟩ := hstep
      exact hfaithful.handle hloop hrun
  | returned =>
      cases hpc : s.pc <;> cases hloop : s.receiver.loop
      all_goals simp only [MainLoop.step, hpc, hloop, reduceCtorEq, Option.some.injEq] at hstep
      subst hstep
      split
      · exact ⟨hfaithful.inStep, hfaithful.stopsRight, hfaithful.closed, hfaithful.served,
          hfaithful.bodies⟩
      · rename_i hstatus
        exact hfaithful.close hloop hstatus

/-- The initial state. -/
theorem Starts.faithful {firmware : Firmware} {start : Server} {s : MainLoop}
    (hstarts : s.Starts start) : s.Faithful firmware start := by
  have hreceiver := hstarts.receiver
  constructor
  · exact Receiver.inStep_of_accepted hreceiver
  · exact Receiver.stopsRight_of_loop fun status hstopped => by
      rw [hreceiver.loop] at hstopped
      cases hstopped
  · simp [hstarts.closed]
  · refine ⟨.success, ?_, fun herror => by simp at herror⟩
    rw [hstarts.messages, hstarts.server]
    rfl
  · have hhandled : s.receiver.handled = [] := by
      rw [Receiver.handled, hreceiver.loop, hreceiver.dispatched]
    simp [hstarts.messages, hstarts.closed, hhandled]

theorem always_faithful {firmware : Firmware} {start : Server}
    {past : List (MainLoop × Label)} {s : MainLoop}
    (hrun : Run (Starts start) (step firmware) past s) : Always (Faithful firmware start) past s :=
  hrun.always_of_step (fun _ hstarts => hstarts.faithful)
    fun _ _ _ hfaithful hstep => hfaithful.step hstep

/-- The invariant of the current connection. -/
theorem allDispatched_step {firmware : Firmware} {start : Server} {label : Label}
    {s t : MainLoop} (hfaithful : s.Faithful firmware start) (hall : s.receiver.AllDispatched)
    (hwithin : s.WithinRequest label) (hstep : step firmware label s = some t) :
    t.receiver.AllDispatched := by
  cases label with
  | accept outcome =>
      simp only [MainLoop.step, Option.ite_none_right_eq_some, Option.some.injEq] at hstep
      obtain ⟨-, rfl⟩ := hstep
      exact hall
  | chunk outcome =>
      simp only [MainLoop.step, Option.ite_none_right_eq_some, Option.map_eq_some_iff] at hstep
      obtain ⟨-, receiver, hreceiver, rfl⟩ := hstep
      exact hall.step hfaithful.inStep hwithin hreceiver
  | handleMessage =>
      cases hpc : s.pc <;> cases hloop : s.receiver.loop
      all_goals simp only [MainLoop.step, hpc, hloop, reduceCtorEq,
        Option.map_eq_some_iff] at hstep
      obtain ⟨returned, hrun, rfl⟩ := hstep
      simp only [MainLoop.handled]
      split <;> exact hall
  | returned =>
      cases hpc : s.pc <;> cases hloop : s.receiver.loop
      all_goals simp only [MainLoop.step, hpc, hloop, reduceCtorEq, Option.some.injEq] at hstep
      subst hstep
      split
      · exact hall
      · rfl

/-- Over any number of connections, however the bytes arrive and whatever the
handlers do, each whole frame among them is handled once and in order. -/
theorem always_inOrder {firmware : Firmware} {start : Server}
    {past : List (MainLoop × Label)} {s : MainLoop}
    (hrun : Run (Starts start) (step firmware) past s) :
    Always (InOrder firmware start) past s ∧
      (EachStep WithinRequest past → Always CaughtUp past s) := by
  refine ⟨(always_faithful hrun).mono fun _ hfaithful => hfaithful.inOrder, fun hwithin => ?_⟩
  have hinitial (first : MainLoop) (hstarts : Starts start first) :
      first.Faithful firmware start ∧ first.receiver.AllDispatched := by
    have hfaithful : first.Faithful firmware start := hstarts.faithful
    refine ⟨hfaithful, hfaithful.inStep.allDispatched fun status hstopped => ?_⟩
    rw [hstarts.receiver.loop] at hstopped
    cases hstopped
  refine (hrun.always hinitial ?_ hwithin).mono fun _ hcurrent => ?_
  · rintro s label t ⟨hfaithful, hall⟩ hlabel hstep
    exact ⟨hfaithful.step hstep, allDispatched_step hfaithful hall hlabel hstep⟩
  · have hhandled := hcurrent.2.handled hcurrent.1.inStep
    exact ⟨hhandled.1, hhandled.2⟩

/-- The server is where its messages have led it. -/
theorem always_served {firmware : Firmware} {start : Server}
    {past : List (MainLoop × Label)} {s : MainLoop}
    (hrun : Run (Starts start) (step firmware) past s) :
    Always (fun s => ∃ status, serveMessages s.messages firmware start = some (status, s.server))
      past s :=
  (always_faithful hrun).mono fun _ hfaithful =>
    hfaithful.served.imp fun _ hserved => hserved.1

/-- The receive buffer is zero in the image. -/
def initial (start : Server) : MainLoop where
  pc := .accepting
  receiver := .accept Receiver.zeroed
  server := start
  closed := []
  messages := []

theorem starts_initial (start : Server) : (initial start).Starts start :=
  ⟨rfl, Receiver.accepted_accept _, rfl, rfl, rfl⟩

/-- Two connections; the first sends two pings, the second nothing. -/
def twoConnections : List Label :=
  let accepted : AcceptOutcome := ⟨.success, .success, .success⟩
  let ping : List Label :=
    [.chunk (delivered [8, 0, 0, 0]), .chunk (delivered [1, 0, 0]),
      .chunk (delivered [0, 1, 0, 0, 0]), .handleMessage]
  .accept accepted :: ping ++ ping ++
    [.chunk (delivered []), .returned, .accept accepted, .chunk (delivered []), .returned]

theorem always_inOrder_twoConnections :
    ∃ past t, exec (guarded WithinRequest (step loopback)) twoConnections (initial idleServer) =
        some t ∧
      Run (Starts idleServer) (step loopback) past t ∧ t.closed.length = 2 ∧
      t.messages.length = 2 ∧ Always (InOrder loopback idleServer) past t ∧
      Always CaughtUp past t := by
  obtain ⟨t, hexec, hclosed, hmessages⟩ :
      ∃ t, exec (guarded WithinRequest (step loopback)) twoConnections (initial idleServer) =
        some t ∧ t.closed.length = 2 ∧ t.messages.length = 2 := ⟨_, rfl, rfl, rfl⟩
  obtain ⟨past, hguarded⟩ := run_of_exec (starts_initial idleServer) _ hexec
  obtain ⟨hrun, hwithin⟩ := hguarded.of_guarded
  obtain ⟨hinOrder, hcaughtUp⟩ := always_inOrder hrun
  exact ⟨past, t, hexec, hrun, hclosed, hmessages, hinOrder, hcaughtUp hwithin⟩

/-! ## The machine -/

/-- All cores are present, and core 0 is ready. -/
def startedServer : Server := { idleServer with machine := Machine.withBootCore }

end MainLoop

end AngryUefi
