import AngryUefi.Lib.Framing
import AngryUefi.Lib.Transition
import AngryUefi.Net.Receive

/-!
# What reaches the receive buffer and the message handlers

Two questions about every run of `receive_messages`, whatever the peer sends
and however it arrives: do the fragments handed to the firmware lie inside the
receive buffer, and do the dispatched bodies stay in step with the frames of
the byte stream.
-/

namespace AngryUefi

open AngryUefi.Bytes AngryUefi.Framing AngryUefi.Transition

namespace Receiver

/-! ## The bound of the receive buffer -/

/-- The fragment lies inside the receive buffer. -/
def FragmentInside (s : Receiver) : Prop :=
  ∀ start length, s.fragment = some (start, length) →
    start + length ≤ receiveBufferSize

/-- A length word that arrives in one piece is at most the buffer's size. -/
def LengthFits (s : Receiver) : Label → Prop
  | .chunk outcome => s.loop = .header → (receiveChunk outcome).1.isError = false →
      (receiveChunk outcome).2.length = 4 →
        ofLittleEndian (receiveChunk outcome).2 ≤ receiveBufferSize
  | .handled => True

/-- The inner loop receives into a message that fits. -/
def BodyFits (s : Receiver) : Prop :=
  ∀ headerMessageLength currentMessageSize,
    s.loop = .body headerMessageLength currentMessageSize →
      currentMessageSize < headerMessageLength ∧ headerMessageLength ≤ receiveBufferSize

theorem BodyFits.fragmentInside {s : Receiver} (hfits : s.BodyFits) :
    s.FragmentInside := by
  intro start length hfragment
  cases hloop : s.loop with
  | header =>
      simp only [fragment, hloop, Option.some.injEq, Prod.mk.injEq] at hfragment
      obtain ⟨rfl, rfl⟩ := hfragment
      simp [receiveBufferSize]
  | body headerMessageLength currentMessageSize =>
      simp only [fragment, hloop, Option.some.injEq, Prod.mk.injEq] at hfragment
      obtain ⟨rfl, rfl⟩ := hfragment
      have hbound := hfits _ _ hloop
      omega
  | handling messageLength => simp [fragment, hloop] at hfragment
  | stopped status => simp [fragment, hloop] at hfragment

theorem bodyFits_stop (s : Receiver) (status : EfiStatus) : (s.stop status).BodyFits :=
  nofun

theorem bodyFits_afterBody (s : Receiver) (headerMessageLength currentMessageSize : ℕ) :
    (s.afterBody headerMessageLength currentMessageSize).BodyFits := by
  simp only [afterBody]
  split
  · exact bodyFits_stop _ _
  · rintro _ _ ⟨⟩

theorem bodyFits_receiveBody (s : Receiver) {headerMessageLength currentMessageSize : ℕ}
    (hfits : headerMessageLength ≤ receiveBufferSize) :
    (s.receiveBody headerMessageLength currentMessageSize).BodyFits := by
  simp only [receiveBody]
  split
  · rename_i hless
    rintro _ _ ⟨⟩
    exact ⟨hless, hfits⟩
  · exact bodyFits_afterBody _ _ _

/-- A step whose length word fits keeps the inner loop inside the buffer. -/
theorem BodyFits.step {label : Label} {s t : Receiver} (hfits : s.BodyFits)
    (hlength : s.LengthFits label) (hstep : Receiver.step label s = some t) :
    t.BodyFits := by
  cases effect_of_step hstep with
  | fail => exact bodyFits_stop _ _
  | closeHeader => exact bodyFits_stop _ _
  | shortHeader => exact bodyFits_stop _ _
  | lengthWord hloop hstatus hfour =>
      exact bodyFits_receiveBody _ (hlength hloop hstatus hfour)
  | closeBody => exact bodyFits_afterBody _ _ _
  | bodyChunk hloop => exact bodyFits_receiveBody _ (hfits _ _ hloop).2
  | refuse => exact bodyFits_stop _ _
  | serve => nofun

/-- A length word beyond the buffer's size is the length of the next
fragment. -/
theorem not_fragmentInside_of_lengthWord {label : Label} {s t : Receiver}
    (hlength : ¬ s.LengthFits label) (hstep : Receiver.step label s = some t) :
    ¬ t.FragmentInside := by
  cases label with
  | handled => exact absurd trivial hlength
  | chunk outcome =>
      simp only [LengthFits, Classical.not_imp, not_le] at hlength
      obtain ⟨hloop, hstatus, hfour, hbeyond⟩ := hlength
      have hpositive : 0 < ofLittleEndian (receiveChunk outcome).2 := by omega
      cases effect_of_step hstep with
      | fail hloop herror => simp [hstatus] at herror
      | closeHeader hloop hstatus hnothing => simp [hnothing] at hfour
      | shortHeader hloop hstatus hchunk hshort => exact absurd hfour hshort
      | closeBody hbody => simp [hloop] at hbody
      | bodyChunk hbody => simp [hloop] at hbody
      | lengthWord =>
          intro hinside
          have hbound := hinside 0 (ofLittleEndian (receiveChunk outcome).2)
            (by simp [receiveBody, fragment, hpositive])
          omega

/-- Every fragment of a run lies inside the receive buffer exactly if every
length word the peer sends is at most the buffer's size. -/
theorem fragmentInside_iff_lengthFits {past : List (Receiver × Label)} {s : Receiver}
    (hrun : Run Accepted Receiver.step past s) :
    Always FragmentInside past s ↔ EachStep LengthFits past := by
  have hinitial : ∀ s, Accepted s → BodyFits s := by
    intro s haccepted _ _ hloop
    rw [haccepted.loop] at hloop
    cases hloop
  refine hrun.always_iff_eachStep hinitial ?_ ?_ ?_
  · exact fun _ _ _ hfits hlength hstep => hfits.step hlength hstep
  · exact fun _ hfits => hfits.fragmentInside
  · exact fun _ _ _ _ hlength hstep => not_fragmentInside_of_lengthWord hlength hstep

/-- A buffer that holds zeros only. -/
def zeroed : Memory := fun _ => 0

/-- The body of a ping: `MetaData` and message type. -/
def pingBody : List UInt8 := [1, 0, 0, 0, 1, 0, 0, 0]

def pingLabels : List Label :=
  [.chunk (delivered [8, 0, 0, 0]), .chunk (delivered pingBody), .handled]

theorem fragmentInside_iff_lengthFits_ping :
    ∃ past t, exec Receiver.step pingLabels (accept zeroed) = some t ∧
      Run Accepted Receiver.step past t ∧
      (Always FragmentInside past t ↔ EachStep LengthFits past) := by
  obtain ⟨t, hexec⟩ : ∃ t, exec Receiver.step pingLabels (accept zeroed) = some t := ⟨_, rfl⟩
  obtain ⟨past, hrun⟩ := run_of_exec (accepted_accept zeroed) pingLabels hexec
  exact ⟨past, t, hexec, hrun, fragmentInside_iff_lengthFits hrun⟩

/-- A client whose first four bytes announce a body of 2^32 - 1 bytes. -/
def hugeLengthLabels : List Label := [.chunk (delivered [0xff, 0xff, 0xff, 0xff])]

theorem not_fragmentInside_hugeLength :
    ∃ past t, exec Receiver.step hugeLengthLabels (accept zeroed) = some t ∧
      Run Accepted Receiver.step past t ∧
      t.fragment = some (0, 2 ^ 32 - 1) ∧ ¬ t.FragmentInside := by
  obtain ⟨t, hexec, hfragment⟩ :
      ∃ t, exec Receiver.step hugeLengthLabels (accept zeroed) = some t ∧
        t.fragment = some (0, 2 ^ 32 - 1) := ⟨_, rfl, by decide⟩
  obtain ⟨past, hrun⟩ := run_of_exec (accepted_accept zeroed) _ hexec
  refine ⟨past, t, hexec, hrun, hfragment, fun hinside => ?_⟩
  have hbound := hinside _ _ hfragment
  simp [receiveBufferSize] at hbound

/-! ## The frames of the byte stream -/

/-- `handle_message` serves this body: it has a header of version 1.0. -/
def Served (body : List UInt8) : Prop :=
  8 ≤ body.length ∧ body.take 2 = [1, 0]

theorem served_read {memory : Memory} {length : ℕ}
    (hstatus : (messageStatus memory length).isError = false) :
    Served (memory.read 0 length) := by
  simp only [messageStatus] at hstatus
  split_ifs at hstatus with hshort hversion
  · simp at hstatus
  · simp at hstatus
  · push Not at hshort hversion
    obtain ⟨hmajor, hminor⟩ := hversion
    refine ⟨by simpa using hshort, ?_⟩
    obtain ⟨rest, rfl⟩ : ∃ rest, length = 2 + rest := ⟨length - 2, by omega⟩
    rw [Memory.read_add, List.take_left' (Memory.length_read _ _ _)]
    simp [Memory.read, List.range_succ, hmajor, hminor]

/-- What was dispatched is a prefix of the reference frames of any stream that
the peer may be sending; success means a close at a frame boundary, with every
dispatched body served. -/
structure FramesInStep (s : Receiver) : Prop where
  dispatched : ∀ stream, s.received <+: stream → s.dispatched <+: (frames stream).1
  closed : s.loop = .stopped .success → s.closed = true
  boundary : s.loop = .stopped .success → frames s.received = (s.dispatched, [])
  served : s.loop = .stopped .success → ∀ body ∈ s.dispatched, Served body

/-- What `receive_messages` has received, told from where it stands. -/
def Account (s : Receiver) : ReceiveLoop → Prop
  | .header => s.received = encode s.dispatched ∧ ∀ body ∈ s.dispatched, Served body
  | .body headerMessageLength currentMessageSize =>
      currentMessageSize < headerMessageLength ∧ headerMessageLength < 2 ^ 32 ∧
        s.received = encode s.dispatched ++ littleEndian 4 headerMessageLength ++
          s.receiveBuffer.read 0 currentMessageSize ∧
        ∀ body ∈ s.dispatched, Served body
  | .handling messageLength =>
      ∃ earlier, s.dispatched = earlier ++ [s.receiveBuffer.read 0 messageLength] ∧
        s.received = encode s.dispatched ∧ ∀ body ∈ earlier, Served body
  | .stopped status =>
      encode s.dispatched <+: s.received ∧
        (status = .success → s.received = encode s.dispatched ∧ s.closed = true ∧
          ∀ body ∈ s.dispatched, Served body)

/-- The invariant of both loops. -/
structure InStep (s : Receiver) : Prop where
  lengths : ∀ body ∈ s.dispatched, body.length < 2 ^ 32
  account : s.Account s.loop

theorem InStep.received_begins {s : Receiver} (hstep : s.InStep) :
    encode s.dispatched <+: s.received := by
  have haccount := hstep.account
  cases hloop : s.loop with
  | header =>
      rw [hloop] at haccount
      rw [haccount.1]
  | body length size =>
      rw [hloop] at haccount
      rw [haccount.2.2.1, List.append_assoc]
      exact List.prefix_append _ _
  | handling length =>
      rw [hloop] at haccount
      obtain ⟨_, _, hreceived, _⟩ := haccount
      rw [hreceived]
  | stopped status =>
      rw [hloop] at haccount
      exact haccount.1

theorem InStep.framesInStep {s : Receiver} (hstep : s.InStep) : s.FramesInStep := by
  have hsuccess : s.loop = .stopped .success → s.received = encode s.dispatched ∧
      s.closed = true ∧ ∀ body ∈ s.dispatched, Served body := by
    intro hloop
    have haccount := hstep.account
    rw [hloop] at haccount
    exact haccount.2 rfl
  constructor
  · intro stream hstream
    obtain ⟨rest, rfl⟩ := hstep.received_begins.trans hstream
    rw [frames_encode_append hstep.lengths]
    exact List.prefix_append _ _
  · exact fun hloop => (hsuccess hloop).2.1
  · intro hloop
    rw [(hsuccess hloop).1]
    exact frames_encode hstep.lengths
  · exact fun hloop => (hsuccess hloop).2.2

theorem inStep_of_accepted {s : Receiver} (haccepted : Accepted s) : s.InStep := by
  refine ⟨by simp [haccepted.dispatched], ?_⟩
  rw [haccepted.loop]
  simp [Account, haccepted.received, haccepted.dispatched]

theorem InStep.stop {s : Receiver} {status : EfiStatus}
    (hlengths : ∀ body ∈ s.dispatched, body.length < 2 ^ 32)
    (hbegins : encode s.dispatched <+: s.received) (herror : status.isError = true) :
    (s.stop status).InStep :=
  ⟨hlengths, hbegins, fun hsuccess => absurd hsuccess (EfiStatus.ne_success_of_isError herror)⟩

/-- The inner loop's head: a message that is complete is dispatched, one that
is not is received further, and one that is too long stops the loop. -/
theorem InStep.receiveBody {s : Receiver} {length size : ℕ}
    (hlengths : ∀ body ∈ s.dispatched, body.length < 2 ^ 32) (hlength : length < 2 ^ 32)
    (hreceived : s.received = encode s.dispatched ++ littleEndian 4 length ++
      s.receiveBuffer.read 0 size)
    (hserved : ∀ body ∈ s.dispatched, Served body) :
    (s.receiveBody length size).InStep := by
  simp only [Receiver.receiveBody]
  split
  · exact ⟨hlengths, by assumption, hlength, hreceived, hserved⟩
  simp only [afterBody]
  split
  · refine InStep.stop hlengths ?_ EfiStatus.isError_aborted
    rw [hreceived, List.append_assoc]
    exact List.prefix_append _ _
  · rename_i _ hsize
    obtain rfl : size = length := not_not.mp hsize
    refine ⟨?_, s.dispatched, rfl, ?_, hserved⟩
    · intro body hbody
      rcases List.mem_append.mp hbody with hearlier | hlast
      · exact hlengths body hearlier
      · rw [List.mem_singleton.mp hlast, Memory.length_read]
        exact hlength
    · change s.received = encode (s.dispatched ++ [s.receiveBuffer.read 0 size])
      rw [hreceived, encode_append, encode_cons, encode_nil, frame, Memory.length_read,
        List.append_nil, List.append_assoc]

theorem InStep.step {label : Label} {s t : Receiver} (hinStep : s.InStep)
    (hstep : Receiver.step label s = some t) : t.InStep := by
  have hbegins := hinStep.received_begins
  have haccount := hinStep.account
  cases effect_of_step hstep with
  | fail _ herror => exact InStep.stop hinStep.lengths hbegins herror
  | closeHeader hloop =>
      rw [hloop] at haccount
      exact ⟨hinStep.lengths, hbegins, fun _ => ⟨haccount.1, rfl, haccount.2⟩⟩
  | shortHeader =>
      exact InStep.stop hinStep.lengths (hbegins.trans (List.prefix_append _ _))
        EfiStatus.isError_aborted
  | @lengthWord outcome hloop hstatus hfour =>
      rw [hloop] at haccount
      have hword : littleEndian 4 (ofLittleEndian (receiveChunk outcome).2) =
          (receiveChunk outcome).2 := by
        rw [← hfour]
        exact littleEndian_ofLittleEndian _
      have hlength : ofLittleEndian (receiveChunk outcome).2 < 2 ^ 32 := by
        have hlt := ofLittleEndian_lt (receiveChunk outcome).2
        rw [hfour] at hlt
        omega
      refine InStep.receiveBody hinStep.lengths hlength ?_ haccount.2
      simp [store, hword, haccount.1]
  | closeBody hloop =>
      rw [hloop] at haccount
      simp only [afterBody, ne_of_lt haccount.1, ne_eq, not_false_eq_true, if_true]
      exact InStep.stop hinStep.lengths hbegins EfiStatus.isError_aborted
  | @bodyChunk outcome length size hloop =>
      rw [hloop] at haccount
      obtain ⟨_, hlength, hreceived, hserved⟩ := haccount
      refine InStep.receiveBody hinStep.lengths hlength ?_ hserved
      simp [store, hreceived, Memory.read_add, Memory.read_write_of_disjoint]
  | refuse hloop herror => exact InStep.stop hinStep.lengths hbegins herror
  | serve hloop hstatus =>
      rw [hloop] at haccount
      obtain ⟨earlier, hdispatched, hreceived, hserved⟩ := haccount
      refine ⟨hinStep.lengths, hreceived, ?_⟩
      intro body hbody
      change body ∈ s.dispatched at hbody
      rw [hdispatched] at hbody
      rcases List.mem_append.mp hbody with hearlier | hlast
      · exact hserved body hearlier
      · rw [List.mem_singleton.mp hlast]
        exact served_read hstatus

/-- However the bytes arrive, the dispatched bodies stay in step with the
frames of the stream. -/
theorem always_framesInStep {past : List (Receiver × Label)} {s : Receiver}
    (hrun : Run Accepted Receiver.step past s) : Always FramesInStep past s := by
  have hinStep := hrun.always_of_step (fun _ haccepted => inStep_of_accepted haccepted)
    (fun _ _ _ hbefore hstep => InStep.step hbefore hstep)
  exact hinStep.mono fun _ hcurrent => hcurrent.framesInStep

theorem always_framesInStep_ping :
    ∃ past t, exec Receiver.step (pingLabels ++ [.chunk (delivered [])]) (accept zeroed) = some t ∧
      Run Accepted Receiver.step past t ∧ t.loop = .stopped .success ∧
      Always FramesInStep past t := by
  obtain ⟨t, hexec, hloop⟩ :
      ∃ t, exec Receiver.step (pingLabels ++ [.chunk (delivered [])]) (accept zeroed) = some t ∧
        t.loop = .stopped .success := ⟨_, rfl, rfl⟩
  obtain ⟨past, hrun⟩ := run_of_exec (accepted_accept zeroed) _ hexec
  exact ⟨past, t, hexec, hrun, hloop, always_framesInStep hrun⟩

end Receiver

end AngryUefi
