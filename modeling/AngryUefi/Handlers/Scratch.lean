import AngryUefi.Handlers.Emits
import AngryUefi.Lib.TwoRuns

/-!
# What earlier requests leave behind

`payload_buffer`, `response_buffer` and `FormatBuffer` keep what the last
request wrote.  Two states that differ in nothing else are followed through the
handlers, together with the bytes of the payload that the handler has written
itself so far.
-/

namespace AngryUefi

open AngryUefi.Bytes AngryUefi.Programs

/-- The three global buffers. -/
structure Buffers where
  payload : Memory
  response : Memory
  format : List UInt16

/-- The state, had earlier requests left this behind. -/
def Server.withBuffers (s : Server) (buffers : Buffers) : Server :=
  { s with
    payloadBuffer := buffers.payload
    responseBuffer := buffers.response
    formatBuffer := buffers.format }

namespace Handlers

/-- Two states that differ in the buffers only, and there neither in the fresh
bytes of the payload nor, once it is printed, in the text.  The cores' buffers
hold what they held in `origin` or what jobs have stored since. -/
inductive Agree (firmware : Firmware) (origin : Server) (fresh : ℕ → Prop) (format : Prop)
    (s : Server) : Server → Prop
  | intro (buffers : Buffers) (hcaptured : origin.machine.StoredBy firmware.Stores s.machine)
      (hpayload : ∀ offset, fresh offset → buffers.payload offset = s.payloadBuffer offset)
      (hformat : format → buffers.format = s.formatBuffer) :
      Agree firmware origin fresh format s (s.withBuffers buffers)

/-- Nothing is fresh. -/
abbrev Alike (firmware : Firmware) (origin : Server) : Server → Server → Prop :=
  Agree firmware origin (fun _ => False) False

/-- These bytes are fresh, too. -/
def Written (fresh : ℕ → Prop) (start count offset : ℕ) : Prop :=
  fresh offset ∨ start ≤ offset ∧ offset < start + count

variable {Result Next : Type}

/-- Whatever is fresh stays fresh. -/
def Oblivious (firmware : Firmware) (origin : Server) (program : Handler Result) : Prop :=
  ∀ fresh format, Couples firmware (Agree firmware origin fresh format)
    (fun _ => Agree firmware origin fresh format) program

/-- With these bytes fresh, what is left does not depend on the buffers. -/
def Blind (firmware : Firmware) (origin : Server) (fresh : ℕ → Prop) (format : Prop)
    (program : Handler Result) : Prop :=
  Couples firmware (Agree firmware origin fresh format) (fun _ => Alike firmware origin) program

section Oblivious

variable {firmware : Firmware} {origin : Server}

theorem Agree.mono {fresh fewer : ℕ → Prop} {format less : Prop} {s t : Server}
    (hagree : Agree firmware origin fresh format s t)
    (hfresh : ∀ offset, fewer offset → fresh offset)
    (hformat : less → format) : Agree firmware origin fewer less s t := by
  obtain ⟨buffers, hcaptured, hpayload, hbuffer⟩ := hagree
  exact .intro buffers hcaptured (fun offset hoffset => hpayload offset (hfresh offset hoffset))
    fun hless => hbuffer (hformat hless)

theorem Agree.alike {fresh : ℕ → Prop} {format : Prop} {s t : Server}
    (hagree : Agree firmware origin fresh format s t) : Alike firmware origin s t :=
  hagree.mono (fun _ => False.elim) False.elim

namespace Oblivious

theorem pure (result : Result) :
    Oblivious firmware origin (pure result : Handler Result) :=
  fun _ _ => Couples.pure fun _ _ => id

theorem failure : Oblivious firmware origin (failure : Handler Result) :=
  fun _ _ => Couples.failure

theorem bind {program : Handler Result} {next : Result → Handler Next}
    (hprogram : Oblivious firmware origin program)
    (hnext : ∀ result, Oblivious firmware origin (next result)) :
    Oblivious firmware origin (program >>= next) :=
  fun fresh format => (hprogram fresh format).bind fun result => hnext result fresh format

theorem read_bind {next : Firmware → Handler Next}
    (hnext : Oblivious firmware origin (next firmware)) :
    Oblivious firmware origin (read >>= next) :=
  fun fresh format => Couples.read_bind (hnext fresh format)

/-- The program looks at none of the buffers. -/
theorem get_bind {next : Server → Handler Next}
    (hsame : ∀ s buffers, next (Server.withBuffers s buffers) = next s)
    (hnext : ∀ s, Oblivious firmware origin (next s)) :
    Oblivious firmware origin (get >>= next) := by
  intro fresh format
  apply Couples.get_bind
  · rintro s _ ⟨buffers, _, _, _⟩
    exact hsame s buffers
  · exact fun s _ _ => hnext s fresh format

theorem modify {change : Server → Server}
    (hbuffers : ∀ s buffers,
      change (Server.withBuffers s buffers) = (change s).withBuffers buffers)
    (hpayload : ∀ s, (change s).payloadBuffer = s.payloadBuffer)
    (hformat : ∀ s, (change s).formatBuffer = s.formatBuffer)
    (hcaptured : ∀ s : Server, s.machine.StoredBy firmware.Stores (change s).machine) :
    Oblivious firmware origin (modify change : Handler PUnit) := by
  intro fresh format
  apply Couples.modify
  rintro s _ ⟨buffers, hstart, hfresh, hbuffer⟩
  rw [hbuffers]
  apply Agree.intro
  · exact hstart.trans (hcaptured s)
  · rw [hpayload]
    exact hfresh
  · rw [hformat]
    exact hbuffer

end Oblivious

theorem oblivious_ask : Oblivious firmware origin ask := by
  apply Oblivious.get_bind
  · exact fun _ _ => rfl
  intro s
  apply Oblivious.bind
  · apply Oblivious.modify <;> intro s
    · exact fun _ => rfl
    · rfl
    · rfl
    · exact .rfl
  · exact fun _ => Oblivious.pure _

theorem oblivious_access (element : Access) :
    Oblivious firmware origin (access element) := by
  apply Oblivious.modify <;> intro s
  · exact fun _ => rfl
  · rfl
  · rfl
  · exact .rfl

theorem oblivious_runProcessors : Oblivious firmware origin runProcessors := by
  refine oblivious_ask.bind fun number => Oblivious.read_bind ?_
  apply Oblivious.modify <;> intro s
  · exact fun _ => rfl
  · rfl
  · rfl
  · exact captured_runProcessors firmware _ _

/-! ## The slots -/

theorem oblivious_slotOf (table : SlotTable) (slot : ℕ) :
    Oblivious firmware origin (slotOf table slot) := by
  refine (oblivious_access _).bind fun _ => Oblivious.get_bind ?_ fun _ => Oblivious.pure _
  intro s buffers
  cases table <;> rfl

theorem oblivious_update (table : SlotTable) (slot : ℕ) (change : Container → Container) :
    Oblivious firmware origin (modify (table.update slot change) : Handler PUnit) := by
  apply Oblivious.modify <;> intro s
  · intro buffers
    cases table <;> rfl
  · cases table <;> rfl
  · cases table <;> rfl
  · cases table <;> exact .rfl

theorem oblivious_setLength (table : SlotTable) (slot : ℕ) (length : UInt64) :
    Oblivious firmware origin (setLength table slot length) :=
  (oblivious_access _).bind fun _ => oblivious_update _ _ _

theorem oblivious_allocatePages (table : SlotTable) (slot : ℕ) :
    Oblivious firmware origin (allocatePages table slot) := by
  refine oblivious_ask.bind fun number => Oblivious.read_bind
    ((oblivious_access _).bind fun _ => ?_)
  cases firmware.allocatePages number (table.allocSize / 4096) with
  | none => exact (oblivious_update _ _ _).bind fun _ => Oblivious.pure _
  | some memory => exact (oblivious_update _ _ _).bind fun _ => Oblivious.pure _

theorem oblivious_writeSlot (table : SlotTable) (slot start : ℕ) (bytes : List UInt8) :
    Oblivious firmware origin (writeSlot table slot start bytes) := by
  refine (oblivious_access _).bind fun _ => ?_
  apply Oblivious.modify <;> intro s
  · intro buffers
    cases table <;> rfl
  · cases table <;> rfl
  · cases table <;> rfl
  · cases table <;> exact .rfl

theorem oblivious_flipBit (slot : ℕ) (ucodeLength : UInt64) (position : UInt32) :
    Oblivious firmware origin (flipBit slot ucodeLength position) := by
  simp only [flipBit]
  split
  · exact Oblivious.pure _
  · exact (oblivious_slotOf _ _).bind fun _ => oblivious_writeSlot _ _ _ _

theorem oblivious_flipBits (payload : Memory) (targetSlot index remaining : ℕ) :
    Oblivious firmware origin (flipBits payload targetSlot index remaining) := by
  induction remaining generalizing index with
  | zero => exact Oblivious.pure _
  | succ remaining ih =>
      exact (oblivious_slotOf _ _).bind fun _ => (oblivious_flipBit _ _ _).bind fun _ =>
        ih (index + 1)

theorem oblivious_copyToSlot1 (targetSlot : ℕ) :
    Oblivious firmware origin (copyToSlot1 targetSlot) := by
  have hcopy : Oblivious firmware origin (do
      let source ← slotOf .ucodes targetSlot
      writeSlot .ucodes 1 0 (source.contents.read 0 source.length.toNat)
      setLength .ucodes 1 source.length) :=
    (oblivious_slotOf _ _).bind fun _ => (oblivious_writeSlot _ _ _ _).bind fun _ =>
      oblivious_setLength _ _ _
  refine (oblivious_slotOf _ _).bind fun container => ?_
  dsimp only
  split
  · exact (oblivious_allocatePages _ _).bind fun _ =>
      (oblivious_setLength _ _ _).bind fun _ => hcopy
  · exact hcopy

/-! ## The cores and the page tables -/

theorem oblivious_contextOf (coreId : UInt64) :
    Oblivious firmware origin (contextOf coreId) :=
  oblivious_runProcessors.bind fun _ => (oblivious_access _).bind fun _ =>
    Oblivious.get_bind (fun _ _ => rfl) fun _ => Oblivious.pure _

theorem oblivious_core0Move (coreId : UInt64) {choice : Core0Choice}
    (hchoice : firmware.Chooses choice) :
    Oblivious firmware origin (core0Move coreId choice) := by
  intro fresh format
  refine ((oblivious_access _) fresh format).bind fun _ => ?_
  rintro s _ ⟨buffers, hcaptured, hpayload, hformat⟩ result s' hrun
  obtain ⟨_, _, hget, hrest⟩ := bind_eq_some_iff.mp hrun
  cases hget
  cases hmove : s.machine.core0Move coreId.toNat choice with
  | none =>
      rw [hmove] at hrest
      cases hrest
  | some machine =>
      rw [hmove] at hrest
      cases hrest
      refine ⟨{ s.withBuffers buffers with machine }, ?_, ?_⟩
      · refine bind_eq_some_iff.mpr ⟨s.withBuffers buffers, _, rfl, ?_⟩
        have hsame : (s.withBuffers buffers).machine.core0Move coreId.toNat choice =
            some machine := hmove
        simp only [hsame]
        rfl
      · exact .intro buffers (hcaptured.trans (captured_core0Move hchoice hmove)) hpayload hformat

theorem oblivious_runCore0 (coreId : UInt64) (patience : ℕ) :
    Oblivious firmware origin (runCore0 coreId patience) := by
  induction patience with
  | zero => exact Oblivious.failure
  | succ patience ih =>
      refine oblivious_runProcessors.bind fun _ => oblivious_ask.bind fun number =>
        Oblivious.read_bind (Oblivious.get_bind (fun _ _ => rfl) fun s => ?_)
      split
      · exact Oblivious.pure _
      · apply (oblivious_core0Move _ ?_).bind fun _ => ih
        split
        · exact .asked _
        · exact .next

theorem oblivious_runRequest (coreId : UInt64) (request : Request) :
    Oblivious firmware origin (runRequest coreId request) :=
  Oblivious.read_bind ((oblivious_core0Move _ (.request request)).bind fun _ =>
    oblivious_runCore0 _ _)

theorem oblivious_formatPrint (text : String) (arguments : List UInt64) :
    Oblivious firmware origin (formatPrint text arguments) := by
  intro fresh format
  apply Couples.read_bind
  apply Couples.modify
  rintro s _ ⟨buffers, hcaptured, hpayload, _⟩
  exact .intro { buffers with format := firmware.unicodeSPrint text arguments } hcaptured
    hpayload fun _ => rfl

theorem oblivious_getAvailableCores : Oblivious firmware origin getAvailableCores := by
  refine oblivious_ask.bind fun number => Oblivious.read_bind ?_
  dsimp only
  split
  · exact (oblivious_formatPrint _ _).bind fun _ => Oblivious.pure _
  · exact Oblivious.pure _

theorem oblivious_physicalWord (address : UInt64) :
    Oblivious firmware origin (physicalWord address) :=
  oblivious_ask.bind fun _ => Oblivious.read_bind (Oblivious.pure _)

theorem oblivious_tableAt (table index : UInt64) :
    Oblivious firmware origin (tableAt table index) :=
  (oblivious_physicalWord _).bind fun _ => Oblivious.pure _

theorem oblivious_getPdptAt (cr3 pml4Index : UInt64) :
    Oblivious firmware origin (getPdptAt cr3 pml4Index) := by
  simp only [getPdptAt]
  split
  · exact Oblivious.pure _
  · exact oblivious_tableAt _ _

theorem oblivious_getPdAt (cr3 pml4Index pdptIndex : UInt64) :
    Oblivious firmware origin (getPdAt cr3 pml4Index pdptIndex) := by
  refine (oblivious_getPdptAt _ _).bind fun pdpt => ?_
  split
  · exact Oblivious.pure _
  · exact oblivious_tableAt _ _

theorem oblivious_getPtAt (cr3 pml4Index pdptIndex ptIndex : UInt64) :
    Oblivious firmware origin (getPtAt cr3 pml4Index pdptIndex ptIndex) := by
  refine (oblivious_getPdAt _ _ _).bind fun pd => ?_
  split
  · exact Oblivious.pure _
  · exact oblivious_tableAt _ _

end Oblivious

/-! ## Programs that send -/

section Blind

variable {firmware : Firmware} {origin : Server} {fresh : ℕ → Prop} {format : Prop}

/-- The bytes copied are fresh from now on. -/
theorem couples_copyToPayload (offset : ℕ) (bytes : List UInt8) :
    Couples firmware (Agree firmware origin fresh format)
      (fun _ => Agree firmware origin (Written fresh offset bytes.length) format)
      (copyToPayload offset bytes) := by
  apply Couples.modify
  rintro s _ ⟨buffers, hcaptured, hpayload, hformat⟩
  have hbytes : ∀ address, Written fresh offset bytes.length address →
      buffers.payload.write offset bytes address =
        s.payloadBuffer.write offset bytes address := by
    rintro address (hfresh | ⟨hlow, hhigh⟩)
    · simp only [Memory.write, hpayload address hfresh]
    · have hindex : address - offset < bytes.length := by omega
      simp [Memory.write, hlow, hindex]
  exact .intro { buffers with payload := buffers.payload.write offset bytes } hcaptured hbytes
    hformat

namespace Blind

theorem pure (result : Result) :
    Blind firmware origin fresh format (pure result : Handler Result) :=
  Couples.pure fun _ _ => Agree.alike

theorem failure : Blind firmware origin fresh format (failure : Handler Result) :=
  Couples.failure

theorem of_kept {program : Handler Result}
    (hprogram : Couples firmware (Agree firmware origin fresh format)
      (fun _ => Agree firmware origin fresh format) program) :
    Blind firmware origin fresh format program :=
  hprogram.weaken (fun _ _ => id) fun _ _ _ => Agree.alike

theorem mono {fewer : ℕ → Prop} {less : Prop} {program : Handler Result}
    (hprogram : Blind firmware origin fewer less program)
    (hfresh : ∀ offset, fewer offset → fresh offset) (hformat : less → format) :
    Blind firmware origin fresh format program :=
  hprogram.weaken (fun _ _ hagree => hagree.mono hfresh hformat) fun _ _ _ => id

/-- What comes first keeps what is fresh, and returns such a result. -/
theorem known_bind {known : Result → Prop} {program : Handler Result}
    {next : Result → Handler Next}
    (hprogram : Couples firmware (Agree firmware origin fresh format)
      (fun result s t => known result ∧ Agree firmware origin fresh format s t) program)
    (hnext : ∀ result, known result → Blind firmware origin fresh format (next result)) :
    Blind firmware origin fresh format (program >>= next) := by
  apply Couples.bind hprogram
  rintro result s t ⟨hresult, hagree⟩
  exact hnext result hresult s t hagree

theorem kept_bind {program : Handler Result} {next : Result → Handler Next}
    (hprogram : Couples firmware (Agree firmware origin fresh format)
      (fun _ => Agree firmware origin fresh format) program)
    (hnext : ∀ result, Blind firmware origin fresh format (next result)) :
    Blind firmware origin fresh format (program >>= next) :=
  Couples.bind hprogram hnext

theorem after {program : Handler Result} {next : Result → Handler Next}
    (hprogram : Oblivious firmware origin program)
    (hnext : ∀ result, Blind firmware origin fresh format (next result)) :
    Blind firmware origin fresh format (program >>= next) :=
  Couples.bind (hprogram fresh format) hnext

theorem read_bind {next : Firmware → Handler Next}
    (hnext : Blind firmware origin fresh format (next firmware)) :
    Blind firmware origin fresh format (read >>= next) :=
  Couples.read_bind hnext

theorem copyToPayload_bind {offset : ℕ} {bytes : List UInt8} {next : Unit → Handler Next}
    (hnext : ∀ value, Blind firmware origin (Written fresh offset bytes.length) format
      (next value)) :
    Blind firmware origin fresh format (copyToPayload offset bytes >>= next) :=
  Couples.bind (couples_copyToPayload offset bytes) hnext

theorem putPayload32_bind {index : ℕ} {value : UInt32} {next : Unit → Handler Next}
    (hnext : ∀ value, Blind firmware origin (Written fresh (4 * index) 4) format (next value)) :
    Blind firmware origin fresh format (putPayload32 index value >>= next) := by
  apply copyToPayload_bind
  rw [length_littleEndian]
  exact hnext

theorem putPayload64_bind {index : ℕ} {value : UInt64} {next : Unit → Handler Next}
    (hnext : ∀ value, Blind firmware origin (Written fresh (8 * index) 8) format (next value)) :
    Blind firmware origin fresh format (putPayload64 index value >>= next) := by
  apply copyToPayload_bind
  rw [length_littleEndian]
  exact hnext

/-- The text is fresh from now on. -/
theorem formatPrint_bind {text : String} {arguments : List UInt64}
    {next : Unit → Handler Next}
    (hnext : ∀ value, Blind firmware origin fresh True (next value)) :
    Blind firmware origin fresh format (formatPrint text arguments >>= next) := by
  apply Couples.bind _ hnext
  apply Couples.read_bind
  apply Couples.modify
  rintro s _ ⟨buffers, hcaptured, hpayload, _⟩
  exact .intro { buffers with format := firmware.unicodeSPrint text arguments } hcaptured
    hpayload fun _ => rfl

end Blind

/-- Only the bytes of the payload count for a response. -/
theorem respond_congr {report : String → EfiStatus → Handler Unit} {messageType : MessageType}
    {left right : Memory} {payloadLength messageSize : UInt64} {lastMessage : Bool}
    (hsame : left.read 0 payloadLength.toNat = right.read 0 payloadLength.toNat) :
    respond report messageType left payloadLength messageSize lastMessage =
      respond report messageType right payloadLength messageSize lastMessage := by
  simp only [respond, constructMessage, hsame]

/-- A message that is refused is not looked at. -/
theorem respond_congr_of_refused {report : String → EfiStatus → Handler Unit}
    {messageType : MessageType} (left right : Memory) {payloadLength messageSize : UInt64}
    {lastMessage : Bool} (hcapacity : responseBufferSize < payloadLength + 12) :
    respond report messageType left payloadLength messageSize lastMessage =
      respond report messageType right payloadLength messageSize lastMessage := by
  simp only [respond, constructMessage, hcapacity, if_true]

/-- The response buffers have the same bytes to send. -/
def Sendable (firmware : Firmware) (origin : Server) (fresh : ℕ → Prop) (format : Prop)
    (messageSize : UInt64) (s t : Server) : Prop :=
  Agree firmware origin fresh format s t ∧
    t.responseBuffer.read 0 messageSize.toNat = s.responseBuffer.read 0 messageSize.toNat

theorem couples_sendMessage (messageSize : UInt64) :
    Couples firmware (Sendable firmware origin fresh format messageSize)
      (fun _ => Agree firmware origin fresh format) (sendMessage messageSize) := by
  have hask : Couples firmware (Sendable firmware origin fresh format messageSize)
      (fun _ => Sendable firmware origin fresh format messageSize) ask := by
    rintro s _ ⟨⟨buffers, hcaptured, hpayload, hformat⟩, hresponse⟩ _ s' ⟨⟩
    exact ⟨_, rfl, .intro buffers hcaptured hpayload hformat, hresponse⟩
  have hrecord : ∀ event, Oblivious firmware origin (record event) := by
    intro event
    apply Oblivious.modify <;> intro s
    · exact fun _ => rfl
    · rfl
    · rfl
    · exact .rfl
  apply hask.bind
  intro number
  apply Couples.read_bind
  apply Couples.get_bind
  · rintro s t ⟨_, hresponse⟩
    rw [hresponse]
  · rintro known _ -
    have hrest : Oblivious firmware origin (do
        let transmission :=
          firmware.transmit number (known.responseBuffer.read 0 messageSize.toNat)
        if transmission.createEvent.isError then return transmission.createEvent
        else if transmission.transmit.isError then return transmission.transmit
        else
          record (.sent transmission.delivered)
          if transmission.completion.isError then return transmission.completion
          else return .success) := by
      dsimp only
      split
      · exact Oblivious.pure _
      split
      · exact Oblivious.pure _
      · refine (hrecord _).bind fun _ => ?_
        split
        · exact Oblivious.pure _
        · exact Oblivious.pure _
    exact (hrest fresh format).weaken (fun _ _ hsendable => hsendable.1) fun _ _ _ => id

theorem couples_constructMessage (messageType : MessageType) (payload : Memory)
    {payloadLength messageSize : UInt64}
    (hsize : messageSize.toNat ≤ payloadLength.toNat + 12) (lastMessage : Bool) :
    Couples firmware (Agree firmware origin fresh format)
      (fun status s t => Agree firmware origin fresh format s t ∧
        (status.isError = false → Sendable firmware origin fresh format messageSize s t))
      (constructMessage responseBufferSize messageType.code payload payloadLength
        lastMessage) := by
  rintro s _ ⟨buffers, hcaptured, hpayload, hformat⟩ status s' hrun
  by_cases hcapacity : responseBufferSize < payloadLength + 12
  · rw [constructMessage_refused hcapacity] at hrun
    cases hrun
    refine ⟨_, constructMessage_refused hcapacity _ _ _ _, ?_, nofun⟩
    exact .intro buffers hcaptured hpayload hformat
  · rw [constructMessage_constructed hcapacity] at hrun
    cases hrun
    refine ⟨_, constructMessage_constructed hcapacity _ _ _ _, ?_, fun _ => ⟨?_, ?_⟩⟩
    iterate 2
      exact .intro { buffers with
        response := writeMessage buffers.response messageType.code
          (payload.read 0 payloadLength.toNat) lastMessage } hcaptured hpayload hformat
    have hleft := read_writeMessage buffers.response messageType.code
      (payload.read 0 payloadLength.toNat) lastMessage
    have hright := read_writeMessage s.responseBuffer messageType.code
      (payload.read 0 payloadLength.toNat) lastMessage
    rw [Memory.length_read] at hleft hright
    exact Memory.read_of_le hsize (hleft.trans hright.symm)

/-- What is sent are bytes of the message that was constructed last. -/
theorem oblivious_respond {report : String → EfiStatus → Handler Unit} (hreport : Reports report)
    (messageType : MessageType) (payload : Memory) {payloadLength messageSize : UInt64}
    (hsize : messageSize.toNat ≤ payloadLength.toNat + 12) (lastMessage : Bool) :
    Oblivious firmware origin
      (respond report messageType payload payloadLength messageSize lastMessage) := by
  have hreported : ∀ text status, Oblivious firmware origin (do
      report text status
      return status) := by
    intro text status
    rcases hreport with rfl | rfl
    · exact (oblivious_formatPrint _ _).bind fun _ => Oblivious.pure _
    · exact (Oblivious.pure _).bind fun _ => Oblivious.pure _
  intro fresh format
  apply (couples_constructMessage messageType payload hsize lastMessage).bind
  intro status
  split
  · exact (hreported _ _ fresh format).weaken (fun _ _ hagree => hagree.1) fun _ _ _ => id
  rename_i hsuccess
  apply Couples.bind ((couples_sendMessage messageSize).weaken
    (fun _ _ hagree => hagree.2 (Bool.eq_false_iff.mpr hsuccess)) fun _ _ _ => id)
  intro status
  split
  · exact hreported _ _ fresh format
  · exact Oblivious.pure _ fresh format

/-- A response whose payload is fresh, or that is refused. -/
theorem kept_respondPayload {report : String → EfiStatus → Handler Unit}
    (hreport : Reports report) (messageType : MessageType) {payloadLength messageSize : UInt64}
    (hfresh : ¬ responseBufferSize < payloadLength + 12 →
      ∀ offset < payloadLength.toNat, fresh offset)
    (hsize : messageSize.toNat ≤ payloadLength.toNat + 12) (lastMessage : Bool) :
    Couples firmware (Agree firmware origin fresh format)
      (fun _ => Agree firmware origin fresh format)
      (respondPayload report messageType payloadLength messageSize lastMessage) := by
  apply Couples.get_bind
  · rintro s _ ⟨buffers, _, hpayload, _⟩
    by_cases hcapacity : responseBufferSize < payloadLength + 12
    · exact respond_congr_of_refused _ _ hcapacity
    · apply respond_congr
      apply Memory.read_congr
      intro index hindex
      rw [Nat.zero_add]
      exact hpayload index (hfresh hcapacity index hindex)
  · exact fun s _ _ => oblivious_respond hreport _ _ hsize _ fresh format

theorem toNat_add_headerSize_le (payloadLength : UInt64) :
    (payloadLength + headerSize).toNat ≤ payloadLength.toNat + 12 := by
  rw [UInt64.toNat_add]
  exact Nat.mod_le _ _

theorem blind_respondPayload {report : String → EfiStatus → Handler Unit}
    (hreport : Reports report) (messageType : MessageType) {payloadLength : UInt64}
    (hfresh : ∀ offset < payloadLength.toNat, fresh offset) (lastMessage : Bool) :
    Blind firmware origin fresh format
      (respondPayload report messageType payloadLength (payloadLength + headerSize)
        lastMessage) :=
  .of_kept (kept_respondPayload hreport messageType (fun _ => hfresh)
    (toNat_add_headerSize_le _) _)

theorem length_utf16 (message : List UInt16) :
    (utf16 message).length = 2 * (message.length + 1) := by
  simp only [utf16, List.length_flatMap, length_littleEndian, List.map_const',
    List.length_append, List.length_singleton, List.sum_replicate_nat]
  omega

theorem blind_sendStatus (statusCode : UInt32) (message : Option (List UInt16)) :
    Blind firmware origin fresh format (sendStatus statusCode message) := by
  cases message with
  | none =>
      apply Blind.putPayload32_bind
      intro _
      apply Blind.putPayload32_bind
      intro _
      apply blind_respondPayload reports_printStatusDebug
      intro offset hoffset
      change offset < 8 at hoffset
      simp only [Written]
      omega
  | some text =>
      have hsize : (8 + strSize text).toNat ≤ 8 + 2 * (text.length + 1) := by
        rw [strSize, UInt64.toNat_add, UInt64.toNat_mul, UInt64.toNat_ofNat']
        simp only [UInt64.reduceToNat]
        omega
      apply Blind.copyToPayload_bind
      intro _
      apply Blind.putPayload32_bind
      intro _
      apply Blind.putPayload32_bind
      intro _
      apply blind_respondPayload reports_printStatusDebug
      intro offset hoffset
      replace hoffset := Nat.lt_of_lt_of_le hoffset hsize
      simp only [Written, length_utf16]
      omega

/-- A rejection whose text is fresh. -/
theorem blind_rejectWith (code : UInt32) (status : EfiStatus) :
    Blind firmware origin fresh True (rejectWith code status) := by
  apply Couples.get_bind
  · rintro s _ ⟨buffers, _, _, hformat⟩
    simp only [Server.withBuffers, hformat trivial]
  · intro s _ _
    exact Couples.bind (blind_sendStatus code _) fun _ => Blind.pure _

theorem blind_reject (code : UInt32) (text : String) (arguments : List UInt64) :
    Blind firmware origin fresh format (reject code text arguments) := by
  apply Blind.formatPrint_bind
  intro _
  exact blind_rejectWith _ _

theorem blind_succeed : Blind firmware origin fresh format succeed :=
  Couples.bind (blind_sendStatus 0x0 none) fun _ => Blind.pure _

/-! ## Pings, the message size, and the reset -/

theorem toNat_pong_le (pingSize : UInt32) :
    (pingSize + 4).toUInt64.toNat ≤ 4 + pingSize.toNat := by
  rw [UInt32.toNat_toUInt64, UInt32.toNat_add, Nat.add_comm 4]
  exact Nat.mod_le _ _

theorem toNat_pong_add_le (pingSize : UInt32) :
    (pingSize + 4 + headerSize.toUInt32).toUInt64.toNat ≤
      (pingSize + 4).toUInt64.toNat + 12 := by
  rw [UInt32.toNat_toUInt64, UInt32.toNat_toUInt64, UInt32.toNat_add (pingSize + 4)]
  exact Nat.mod_le _ _

/-- The size of a pong and the bytes copied behind it. -/
theorem pong_fresh {pingSize : UInt32} {payload : Memory} {source offset : ℕ}
    (hoffset : offset < (pingSize + 4).toUInt64.toNat) :
    Written (Written fresh (4 * 0) 4) 4 (payload.read source pingSize.toNat).length offset := by
  replace hoffset := Nat.lt_of_lt_of_le hoffset (toNat_pong_le pingSize)
  simp only [Written, Memory.length_read]
  omega

theorem blind_handlePing (payload : Memory) (payloadLength : UInt64) :
    Blind firmware origin fresh format (handlePing payload payloadLength) := by
  simp only [handlePing]
  split
  · exact Blind.pure _
  split
  · exact Blind.pure _
  apply Blind.putPayload32_bind
  intro _
  apply Blind.copyToPayload_bind
  intro _
  apply Blind.of_kept
  apply kept_respondPayload reports_printStatusDebug
  · exact fun _ _ => pong_fresh
  · exact toNat_pong_add_le _

theorem kept_sendPongs {pingSize : UInt32}
    (hfresh : ∀ offset < (pingSize + 4).toUInt64.toNat, fresh offset) (remaining : ℕ) :
    Couples firmware (Agree firmware origin fresh format)
      (fun _ => Agree firmware origin fresh format)
      (sendPongs pingSize (pingSize + 4 + headerSize.toUInt32).toUInt64 remaining) := by
  have hpong : ∀ lastMessage, Couples firmware (Agree firmware origin fresh format)
      (fun _ => Agree firmware origin fresh format)
      (respondPayload printStatusDebug .pong (pingSize + 4).toUInt64
        (pingSize + 4 + headerSize.toUInt32).toUInt64 lastMessage) := fun _ =>
    kept_respondPayload reports_printStatusDebug _ (fun _ => hfresh)
      (toNat_pong_add_le pingSize) _
  induction remaining with
  | zero => exact hpong true
  | succ remaining ih =>
      apply (hpong false).bind
      intro status
      split
      · exact Oblivious.pure _ fresh format
      · exact ih

theorem blind_handleMultiPing (payload : Memory) (payloadLength : UInt64) :
    Blind firmware origin fresh format (handleMultiPing payload payloadLength) := by
  simp only [handleMultiPing]
  split
  · exact Blind.pure _
  split
  · exact Blind.pure _
  apply Blind.putPayload32_bind
  intro _
  apply Blind.copyToPayload_bind
  intro _
  apply Blind.of_kept
  exact kept_sendPongs (fun _ => pong_fresh) _

theorem blind_handleGetMsgSize (payloadLength : UInt64) :
    Blind firmware origin fresh format (handleGetMsgSize payloadLength) := by
  apply Blind.putPayload32_bind
  intro _
  apply blind_respondPayload reports_printStatusDebug
  intro offset hoffset
  change offset < 4 at hoffset
  simp only [Written]
  omega

/-- A reset whose options are missing is rejected with a text that is not
printed in this build. -/
theorem blind_handleReboot (payload : Memory) {payloadLength : UInt64}
    (hlong : 4 ≤ payloadLength) :
    Blind firmware origin fresh format (handleReboot payload payloadLength) := by
  simp only [handleReboot, UInt64.not_lt.mpr hlong, if_false]
  apply Couples.bind (blind_sendStatus 0x0 none)
  intro _
  apply Blind.after oblivious_ask
  intro number
  apply Blind.read_bind
  split
  · exact Blind.pure _
  · exact Blind.failure

/-! ## The slots -/

theorem blind_storeInSlot (table : SlotTable) (slot : ℕ) (payload : Memory) (size : UInt32) :
    Blind firmware origin fresh format (storeInSlot table slot payload size) := by
  apply Blind.after (oblivious_setLength _ _ _)
  intro _
  apply Blind.after (oblivious_writeSlot _ _ _ _)
  intro _
  exact blind_succeed

theorem blind_handleSendMachineCode (payload : Memory) (payloadLength : UInt64) :
    Blind firmware origin fresh format (handleSendMachineCode payload payloadLength) := by
  simp only [handleSendMachineCode, handleSend]
  split
  · exact blind_reject _ _ _
  split
  · exact blind_reject _ _ _
  apply Blind.after (oblivious_slotOf _ _)
  intro container
  split
  · apply Blind.after (oblivious_allocatePages _ _)
    intro allocated
    split
    · exact blind_storeInSlot _ _ _ _
    · exact blind_reject _ _ _
  · exact blind_storeInSlot _ _ _ _

theorem blind_handleFlipBits (payload : Memory) (payloadLength : UInt64) :
    Blind firmware origin fresh format (handleFlipBits payload payloadLength) := by
  simp only [handleFlipBits]
  split
  · exact blind_reject _ _ _
  split
  · exact blind_reject _ _ _
  apply Blind.after (oblivious_slotOf _ _)
  intro container
  split
  · exact blind_reject _ _ _
  split
  · apply Blind.after (oblivious_copyToSlot1 _)
    intro _
    apply Blind.after (oblivious_flipBits _ _ _ _)
    intro _
    exact blind_succeed
  · apply Blind.after (oblivious_flipBits _ _ _ _)
    intro _
    exact blind_succeed

theorem blind_handleApplyUcode (payload : Memory) (payloadLength : UInt64) :
    Blind firmware origin fresh format (handleApplyUcode payload payloadLength) := by
  simp only [handleApplyUcode]
  split
  · exact blind_reject _ _ _
  apply Blind.after (oblivious_slotOf _ _)
  intro container
  split
  · exact blind_reject _ _ _
  apply Blind.after oblivious_ask
  intro number
  apply Blind.read_bind
  apply Blind.putPayload64_bind
  intro _
  apply Blind.putPayload64_bind
  intro _
  apply blind_respondPayload reports_printStatus
  intro offset hoffset
  change offset < 16 at hoffset
  simp only [Written]
  omega

/-! ## The cores -/

theorem known_runRequest (coreId : UInt64) (request : Request) :
    Couples firmware (Agree firmware origin fresh format)
      (fun result s t => (Core0Pc.returned result).Measured
          (origin.machine.contexts coreId.toNat).resultBufferLen ∧
        Agree firmware origin fresh format s t)
      (runRequest coreId request) := by
  intro s t hagree result s' hrun
  have hmeasured := measured_runRequest hrun
  have hcaptured : origin.machine.StoredBy firmware.Stores s.machine := by
    cases hagree
    assumption
  rw [hcaptured.resultBufferLen] at hmeasured
  obtain ⟨t', hother, hafter⟩ :=
    oblivious_runRequest coreId request fresh format s t hagree result s' hrun
  exact ⟨t', hother, hmeasured, hafter⟩

theorem blind_submitJob (coreId : UInt64) (job : Job)
    {answer : HandlerResult → Handler EfiStatus}
    (hanswer : ∀ result length, (Core0Pc.returned result).Measured length →
      Blind firmware origin fresh format (answer result)) :
    Blind firmware origin fresh format (submitJob coreId job answer) := by
  simp only [submitJob]
  split
  · exact blind_reject _ _ _
  apply Blind.known_bind (known_runRequest coreId (.job job))
  intro result hmeasured
  split
  · exact blind_reject _ _ _
  · exact hanswer _ _ hmeasured

theorem blind_sendResultMessage (retRdtscValue retGpfValue flags length : UInt64)
    {copied : List UInt8} {size : UInt64} (hcopied : copied.length = size.toNat)
    (isLastMessage : Bool) :
    Blind firmware origin fresh format
      (sendResultMessage retRdtscValue retGpfValue flags length copied size isLastMessage) := by
  simp only [sendResultMessage]
  iterate 4
    apply Blind.putPayload64_bind
    intro _
  apply Blind.copyToPayload_bind
  intro _
  apply blind_respondPayload reports_printStatus
  intro offset hoffset
  have hle : (32 + size).toNat ≤ 32 + size.toNat := by
    rw [UInt64.toNat_add]
    exact Nat.mod_le _ _
  simp only [Written, hcopied]
  omega

theorem blind_answerTest {result : HandlerResult} {length : UInt64}
    (hmeasured : (Core0Pc.returned result).Measured length) :
    Blind firmware origin fresh format (answerTest result) := by
  cases result with
  | testResult timedOut fault retRdtscValue retGpfValue stated copied size =>
      obtain ⟨hcopied, rfl⟩ := hmeasured
      exact blind_sendResultMessage _ _ _ _ hcopied _
  | _ => exact Blind.failure

theorem blind_sendMsrResponse (eax edx : UInt32) :
    Blind firmware origin fresh format (sendMsrResponse eax edx) :=
  .of_kept (oblivious_respond reports_printStatus _ _ (toNat_add_headerSize_le (2 * 4)) _
    fresh format)

theorem blind_handleReadMsr (payload : Memory) (payloadLength : UInt64) :
    Blind firmware origin fresh format (handleReadMsr payload payloadLength) := by
  simp only [handleReadMsr]
  split
  · exact blind_reject _ _ _
  apply Blind.after oblivious_ask
  intro number
  apply Blind.read_bind
  exact blind_sendMsrResponse _ _

theorem blind_answerMsr (coreId : UInt64) (result : HandlerResult) :
    Blind firmware origin fresh format (answerMsr coreId result) := by
  cases result with
  | msr eax edx => exact blind_sendMsrResponse _ _
  | noResponse =>
      apply Blind.formatPrint_bind
      intro _
      exact blind_rejectWith _ _
  | _ => exact Blind.failure

theorem blind_handleExecuteMachineCode (payload : Memory) (payloadLength : UInt64) :
    Blind firmware origin fresh format (handleExecuteMachineCode payload payloadLength) := by
  simp only [handleExecuteMachineCode]
  split
  · exact blind_reject _ _ _
  split
  · exact blind_reject _ _ _
  apply Blind.after (oblivious_slotOf _ _)
  intro container
  split
  · exact blind_reject _ _ _
  · exact blind_submitJob _ _ fun _ _ hmeasured => blind_answerTest hmeasured

theorem blind_handleApplyUcodeExecuteTest (payload : Memory) (payloadLength : UInt64) :
    Blind firmware origin fresh format
      (handleApplyUcodeExecuteTest payload payloadLength) := by
  simp only [handleApplyUcodeExecuteTest]
  split
  · exact blind_reject _ _ _
  split
  · exact blind_reject _ _ _
  split
  · exact blind_reject _ _ _
  apply Blind.after (oblivious_slotOf _ _)
  intro ucode
  split
  · exact blind_reject _ _ _
  apply Blind.after (oblivious_slotOf _ _)
  intro machineCode
  split
  · exact blind_reject _ _ _
  · exact blind_submitJob _ _ fun _ _ hmeasured => blind_answerTest hmeasured

theorem blind_handleReadMsrOnCore (payload : Memory) (payloadLength : UInt64) :
    Blind firmware origin fresh format (handleReadMsrOnCore payload payloadLength) := by
  simp only [handleReadMsrOnCore]
  split
  · exact blind_reject _ _ _
  split
  · exact blind_handleReadMsr _ _
  apply Blind.after oblivious_ask
  intro number
  apply Blind.read_bind
  exact blind_submitJob _ _ fun result _ _ => blind_answerMsr _ result

theorem blind_startCore (coreId : UInt64) :
    Blind firmware origin fresh format (startCore coreId) := by
  simp only [startCore]
  apply Blind.after oblivious_ask
  intro number
  apply Blind.read_bind
  apply Blind.after (oblivious_runRequest _ _)
  intro result
  split
  · apply Blind.formatPrint_bind
    intro _
    exact blind_rejectWith _ _
  · exact blind_reject _ _ _
  · exact Blind.pure _

theorem blind_startCores (index : UInt64) (patience : ℕ) :
    Blind firmware origin fresh format (startCores index patience) := by
  induction patience generalizing index fresh format with
  | zero => exact Blind.failure
  | succ patience ih =>
      simp only [startCores]
      apply Blind.after oblivious_getAvailableCores
      intro available
      split
      · apply Blind.after (oblivious_contextOf _)
        intro context
        split
        · exact ih _
        apply Couples.bind (blind_startCore index)
        intro status
        split
        · exact Blind.pure _
        · exact ih _
      · exact blind_succeed

theorem blind_handleStartCore (payload : Memory) (payloadLength : UInt64) :
    Blind firmware origin fresh format (handleStartCore payload payloadLength) := by
  simp only [handleStartCore]
  split
  · exact blind_reject _ _ _
  split
  · exact blind_reject _ _ _
  split
  · apply Blind.read_bind
    exact blind_startCores _ _
  · apply Couples.bind (blind_startCore _)
    intro status
    split
    · exact Blind.pure _
    · exact blind_succeed

theorem blind_handleGetCoreCount : Blind firmware origin fresh format handleGetCoreCount := by
  apply Blind.after oblivious_getAvailableCores
  intro available
  apply Blind.putPayload64_bind
  intro _
  apply blind_respondPayload reports_printStatusDebug
  intro offset hoffset
  change offset < 8 at hoffset
  simp only [Written]
  omega

theorem blind_sendCoreStatus (coreId : UInt64) (isLastMessage : Bool) :
    Blind firmware origin fresh format (sendCoreStatus coreId isLastMessage) := by
  simp only [sendCoreStatus]
  iterate 8
    apply Blind.after (oblivious_contextOf _)
    intro _
  apply Blind.after oblivious_ask
  intro number
  apply Blind.read_bind
  iterate 4
    apply Blind.putPayload64_bind
    intro _
  split
  · apply Blind.putPayload64_bind
    intro _
    apply Blind.after (oblivious_contextOf _)
    intro context
    apply Blind.copyToPayload_bind
    intro _
    apply blind_respondPayload reports_printStatus
    intro offset hoffset
    change offset < 248 at hoffset
    have hwords : (((context.faultInfo).getD CoreFaultInfo.zero).words.flatMap
        fun word => littleEndian 8 word.toNat).length = 216 := by
      simp only [CoreFaultInfo.words, List.length_flatMap, length_littleEndian, List.map_const',
        List.length_cons, List.length_nil, List.sum_replicate_nat]
    simp only [Written, hwords]
    omega
  · apply blind_respondPayload reports_printStatus
    intro offset hoffset
    change offset < 32 at hoffset
    simp only [Written]
    omega

theorem blind_handleGetCoreStatus (payload : Memory) (payloadLength : UInt64) :
    Blind firmware origin fresh format (handleGetCoreStatus payload payloadLength) := by
  simp only [handleGetCoreStatus]
  split
  · exact blind_reject _ _ _
  split
  · exact blind_reject _ _ _
  · exact blind_sendCoreStatus _ _

/-- What a look at the context of the core may find. -/
def Seen (firmware : Firmware) (origin : Server) (coreId : ℕ) (context : CoreContext) : Prop :=
  ∃ stores, (∀ store ∈ stores, firmware.Stores coreId store) ∧
    (CaptureStore.applyAll (origin.machine.contexts coreId) stores).SameCapture context

theorem Seen.resultBufferLen {coreId : ℕ} {context : CoreContext}
    (hseen : Seen firmware origin coreId context) :
    context.resultBufferLen = (origin.machine.contexts coreId).resultBufferLen := by
  obtain ⟨stores, -, hsame⟩ := hseen
  rw [hsame.resultBufferLen, CaptureStore.resultBufferLen_applyAll]

theorem known_contextOf (coreId : UInt64) :
    Couples firmware (Agree firmware origin fresh format)
      (fun context s t => Seen firmware origin coreId.toNat context ∧
        Agree firmware origin fresh format s t) (contextOf coreId) := by
  apply Couples.bind (oblivious_runProcessors fresh format)
  intro _
  apply Couples.bind (oblivious_access _ fresh format)
  intro _
  apply Couples.get_bind
  · rintro s _ ⟨buffers, _, _, _⟩
    rfl
  · rintro s _ ⟨_, hcaptured, _, _⟩
    exact Couples.pure fun _ _ hagree => ⟨hcaptured coreId.toNat, hagree⟩

theorem blind_handleGetLastTestResult (payload : Memory) (payloadLength : UInt64) :
    Blind firmware origin fresh format (handleGetLastTestResult payload payloadLength) := by
  simp only [handleGetLastTestResult]
  split
  · exact blind_reject _ _ _
  split
  · exact blind_reject _ _ _
  apply Couples.bind (blind_sendCoreStatus _ _)
  intro status
  split
  · exact Blind.pure _
  iterate 3
    apply Blind.after (oblivious_contextOf _)
    intro _
  apply Blind.known_bind (known_contextOf _)
  intro context hcontext
  apply Blind.known_bind (known_contextOf _)
  intro later hlater
  apply blind_sendResultMessage
  rw [Memory.length_read, hcontext.resultBufferLen, hlater.resultBufferLen]

/-! ## Events -/

theorem blind_checkCoreId {coreId : UInt64} {proceed : Handler EfiStatus}
    (hproceed : coreId.toNat < maxCoreCount.toNat → Blind firmware origin fresh format proceed) :
    Blind firmware origin fresh format (checkCoreId coreId proceed) := by
  simp only [checkCoreId]
  split
  · exact blind_reject _ _ _
  rename_i hrange
  apply Blind.after (oblivious_contextOf _)
  intro _
  split
  · exact blind_reject _ _ _
  apply Blind.after (oblivious_contextOf _)
  intro _
  split
  · exact blind_reject _ _ _
  exact hproceed (core_lt_of_range hrange)

/-- `MAXIMUM_DSM_ENTRIES` -/
def maximumDsmEntries : UInt64 := 128

/-- A count that a job stores is inside the buffer. -/
def StoresInside : CaptureStore → Prop
  | .dsmWord .numItems value => value ≤ maximumDsmEntries
  | _ => True

theorem ibsPosition_applyAll_le {context : CoreContext}
    (hbelow : ibsPosition context ≤ maxIbsEntries) (stores : List CaptureStore) :
    ibsPosition (CaptureStore.applyAll context stores) ≤ maxIbsEntries := by
  induction stores generalizing context with
  | nil => exact hbelow
  | cons store stores ih =>
      apply ih
      simp only [ibsPosition, CaptureStore.apply, Option.map_map] at hbelow ⊢
      cases hcontrol : context.ibsControl with
      | none => exact UInt64.zero_le
      | some control =>
          rw [hcontrol] at hbelow
          have hposition : control.currentPosition ≤ maxIbsEntries := hbelow
          cases store with
          | ibsEvent event =>
              simp only [Option.map_some, Function.comp_apply, Option.getD_some,
                CaptureStore.applyIbs]
              split <;> exact hposition
          | ibsAdvance =>
              simp only [Option.map_some, Function.comp_apply, Option.getD_some,
                CaptureStore.applyIbs]
              split
              · exact hposition
              · rename_i hspace
                have hmax : maxIbsEntries.toNat = 262144 := rfl
                have hless := UInt64.lt_iff_toNat_lt.mp (UInt64.not_le.mp hspace)
                rw [UInt64.le_iff_toNat_le, UInt64.toNat_add, UInt64.toNat_one]
                omega
          | ibsClear => exact UInt64.zero_le
          | _ => exact hposition

theorem dsmItems_applyAll_le {context : CoreContext}
    (hbelow : dsmItems context ≤ maximumDsmEntries) {stores : List CaptureStore}
    (hstores : ∀ store ∈ stores, StoresInside store) :
    dsmItems (CaptureStore.applyAll context stores) ≤ maximumDsmEntries := by
  induction stores generalizing context with
  | nil => exact hbelow
  | cons store stores ih =>
      obtain ⟨hstore, hrest⟩ := List.forall_mem_cons.mp hstores
      refine ih ?_ hrest
      simp only [dsmItems, CaptureStore.apply, Option.map_map] at hbelow ⊢
      cases hcontrol : context.dsmControl with
      | none => exact UInt64.zero_le
      | some control =>
          rw [hcontrol] at hbelow
          have hitems : control.fileHeader.numItems ≤ maximumDsmEntries := hbelow
          cases store with
          | dsmWord word value =>
              cases word with
              | numItems => exact hstore
              | _ => exact hitems
          | _ => exact hitems

theorem isSome_ibsControl_applyAll (context : CoreContext) (stores : List CaptureStore) :
    (CaptureStore.applyAll context stores).ibsControl.isSome = context.ibsControl.isSome := by
  induction stores generalizing context with
  | nil => rfl
  | cons store stores ih => exact (ih _).trans Option.isSome_map

theorem isSome_dsmControl_applyAll (context : CoreContext) (stores : List CaptureStore) :
    (CaptureStore.applyAll context stores).dsmControl.isSome = context.dsmControl.isSome := by
  induction stores generalizing context with
  | nil => rfl
  | cons store stores ih => exact (ih _).trans Option.isSome_map

/-- The events of a core are where its control structure says, and they end
inside the buffer. -/
structure EventsStored (stored : CoreContext → UInt64)
    (bytesAt : CoreContext → UInt64 → List UInt8) (seen : CoreContext → Prop) : Prop where
  length_eq : ∀ context, seen context → ∀ index, (bytesAt context index).length = 16
  below : ∀ context, seen context → stored context ≤ maxIbsEntries

/-- The bytes of this many events.  A count that has wrapped around, because the
job has cleared events meanwhile, comes with none. -/
def copiedBytes (copied : UInt64) : ℕ :=
  if copied.toNat ≤ maxIbsEntries.toNat then 16 * copied.toNat else 0

/-- The count has not wrapped around, or by less than the buffer holds. -/
def CountedNear (copied : UInt64) : Prop :=
  copied.toNat ≤ maxIbsEntries.toNat ∨ 2 ^ 64 - maxIbsEntries.toNat ≤ copied.toNat

theorem countedNear_sub {startIndex endIndex : UInt64} (hstart : startIndex ≤ maxIbsEntries)
    (hend : endIndex ≤ maxIbsEntries) :
    CountedNear (endIndex - startIndex) ∧
      copiedBytes (endIndex - startIndex) = 16 * (endIndex.toNat - startIndex.toNat) := by
  have hstart := UInt64.le_iff_toNat_le.mp hstart
  have hend := UInt64.le_iff_toNat_le.mp hend
  have hmax : maxIbsEntries.toNat = 262144 := rfl
  have hless := startIndex.toNat_lt
  simp only [CountedNear, copiedBytes, UInt64.toNat_sub, hmax] at *
  split <;> constructor <;> omega

/-- The bytes that `copyEntries` says it copied are fresh. -/
theorem couples_copyEntries {stored : CoreContext → UInt64}
    {bytesAt : CoreContext → UInt64 → List UInt8} {coreId : UInt64}
    (hstored : EventsStored stored bytesAt (Seen firmware origin coreId.toNat))
    (target : ℕ) (startIndex : UInt64) {entryCount : UInt64} :
    Couples firmware (Agree firmware origin fresh format)
      (fun copied s t => CountedNear copied ∧
        Agree firmware origin (Written fresh target (copiedBytes copied)) format s t)
      (copyEntries stored bytesAt coreId target startIndex entryCount) := by
  have hcopy : ∀ endIndex : UInt64, startIndex ≤ maxIbsEntries → endIndex ≤ maxIbsEntries →
      Couples firmware (Agree firmware origin fresh format)
        (fun copied s t => CountedNear copied ∧
          Agree firmware origin (Written fresh target (copiedBytes copied)) format s t) (do
          let context ← contextOf coreId
          copyToPayload target
            ((List.range (endIndex.toNat - startIndex.toNat)).flatMap fun offset =>
              bytesAt context (startIndex + UInt64.ofNat offset))
          return endIndex - startIndex) := by
    intro endIndex hstart hend
    obtain ⟨hnear, hbytes⟩ := countedNear_sub hstart hend
    apply Couples.bind (known_contextOf coreId)
    intro context
    apply Couples.of_fact
    intro hcontext
    have hlength : ((List.range (endIndex.toNat - startIndex.toNat)).flatMap fun offset =>
        bytesAt context (startIndex + UInt64.ofNat offset)).length =
          copiedBytes (endIndex - startIndex) := by
      simp only [List.length_flatMap, hstored.length_eq context hcontext, List.map_const',
        List.length_range, List.sum_replicate_nat, hbytes]
      omega
    apply Couples.bind (couples_copyToPayload target _)
    intro _
    apply Couples.pure
    rw [hlength]
    exact fun _ _ hagree => ⟨hnear, hagree⟩
  have hnothing : Couples firmware (Agree firmware origin fresh format)
      (fun copied s t => CountedNear copied ∧
        Agree firmware origin (Written fresh target (copiedBytes copied)) format s t)
      (pure 0 : Handler UInt64) := by
    apply Couples.pure
    intro s t hagree
    refine ⟨.inl (Nat.zero_le _), hagree.mono ?_ id⟩
    rintro offset (hfresh | ⟨hlow, hhigh⟩)
    · exact hfresh
    · exact absurd hhigh (Nat.not_lt.mpr hlow)
  simp only [copyEntries]
  apply Couples.bind (known_contextOf coreId)
  intro first
  apply Couples.of_fact
  intro hfirst
  split
  · exact hnothing
  rename_i hstart
  have hstart := UInt64.le_trans (UInt64.le_of_lt (UInt64.not_le.mp hstart))
    (hstored.below first hfirst)
  apply Couples.bind (known_contextOf coreId)
  intro second
  apply Couples.of_fact
  intro hsecond
  split
  · rename_i hend
    exact hcopy _ hstart (UInt64.le_trans (UInt64.le_of_lt hend) (hstored.below second hsecond))
  · rw [map_eq_pure_bind, bind_assoc]
    apply Couples.bind (known_contextOf coreId)
    intro third
    apply Couples.of_fact
    intro hthird
    rw [pure_bind]
    exact hcopy _ hstart (hstored.below third hthird)

/-- A packet that is not refused has no bytes behind those that were copied. -/
theorem toNat_packet_le {minResponseSize copied : UInt64} (hmin : minResponseSize.toNat ≤ 64)
    (haligned : minResponseSize.toNat % 16 = 0) (hnear : CountedNear copied)
    (hcapacity : ¬ responseBufferSize < minResponseSize + copied * eventSize + 12) :
    (minResponseSize + copied * eventSize).toNat ≤
      minResponseSize.toNat + copiedBytes copied := by
  have hevent : eventSize.toNat = 16 := rfl
  have hbuffer : responseBufferSize.toNat = 1412 := rfl
  have hmax : maxIbsEntries.toNat = 262144 := rfl
  have htwelve : (12 : UInt64).toNat = 12 := rfl
  have hless := copied.toNat_lt
  rw [UInt64.lt_iff_toNat_lt, not_lt, UInt64.toNat_add, UInt64.toNat_add, UInt64.toNat_mul,
    hevent, hbuffer, htwelve] at hcapacity
  rw [UInt64.toNat_add, UInt64.toNat_mul, hevent]
  simp only [CountedNear, copiedBytes, hmax] at hnear ⊢
  split <;> omega

/-- The head of a packet is written before the first one, and its count in each
one. -/
theorem blind_sendEvents {copy : ℕ → UInt64 → UInt64 → Handler UInt64}
    {minResponseSize : UInt64} (hmin : minResponseSize.toNat ≤ 64)
    (haligned : minResponseSize.toNat % 16 = 0)
    (hcopy : ∀ startIndex entryCount : UInt64,
      Couples firmware (Agree firmware origin fresh format)
        (fun copied s t => CountedNear copied ∧ Agree firmware origin
          (Written fresh minResponseSize.toNat (copiedBytes copied)) format s t)
        (copy minResponseSize.toNat startIndex entryCount))
    (hhead : ∀ offset < minResponseSize.toNat, fresh offset) (messageType : MessageType)
    (countIndex patience : ℕ) (startIndex eventsToSend : UInt64) :
    Blind firmware origin fresh format
      (sendEvents copy messageType countIndex minResponseSize patience startIndex
        eventsToSend) := by
  induction patience generalizing startIndex eventsToSend with
  | zero => exact Blind.failure
  | succ patience ih =>
      simp only [sendEvents]
      split
      · exact Blind.pure _
      apply Couples.bind (hcopy _ _)
      intro copied
      apply Couples.of_fact
      intro hnear
      apply Blind.putPayload64_bind
      intro _
      apply Blind.kept_bind
      · apply kept_respondPayload reports_printStatusDebug _ _ (toNat_add_headerSize_le _)
        intro hcapacity offset hoffset
        have hle := toNat_packet_le hmin haligned hnear hcapacity
        left
        by_cases hinside : offset < minResponseSize.toNat
        · exact .inl (hhead offset hinside)
        · exact .inr ⟨by omega, by omega⟩
      · intro status
        split
        · exact Blind.pure _
        · exact (ih _ _).mono (fun _ hfresh => .inl (.inl hfresh)) id

/-- The event counters of the cores are inside their buffers, and jobs keep them
there. -/
structure CountsInside (firmware : Firmware) (origin : Server) : Prop where
  ibs : ∀ coreId < maxCoreCount.toNat,
    ibsPosition (origin.machine.contexts coreId) ≤ maxIbsEntries
  dsm : ∀ coreId < maxCoreCount.toNat,
    dsmItems (origin.machine.contexts coreId) ≤ maximumDsmEntries
  stores : ∀ coreId store, firmware.Stores coreId store → StoresInside store

theorem eventsStored_ibs {coreId : ℕ}
    (hcontrol : (origin.machine.contexts coreId).ibsControl.isSome)
    (hbelow : ibsPosition (origin.machine.contexts coreId) ≤ maxIbsEntries) :
    EventsStored ibsPosition ibsEntry (Seen firmware origin coreId) where
  length_eq := by
    rintro context ⟨stores, -, hsame⟩ index
    have hevents := congrArg Option.isSome hsame.ibsEvents
    rw [Option.isSome_map, Option.isSome_map, isSome_ibsControl_applyAll, hcontrol] at hevents
    obtain ⟨control, hsome⟩ := Option.isSome_iff_exists.mp hevents
    simp only [ibsEntry, hsome, List.length_append, length_littleEndian]
  below := by
    rintro context ⟨stores, -, hsame⟩
    rw [ibsPosition_eq hsame]
    exact ibsPosition_applyAll_le hbelow stores

theorem eventsStored_dsm {coreId : ℕ} (hinside : CountsInside firmware origin)
    (hcoreId : coreId < maxCoreCount.toNat)
    (hcontrol : (origin.machine.contexts coreId).dsmControl.isSome) :
    EventsStored dsmItems dsmEntry (Seen firmware origin coreId) where
  length_eq := by
    rintro context ⟨stores, -, hsame⟩ index
    rw [← isSome_dsmControl_applyAll _ stores, ← hsame.dsmControl] at hcontrol
    obtain ⟨control, hsome⟩ := Option.isSome_iff_exists.mp hcontrol
    simp only [dsmEntry, hsome, List.length_append, length_littleEndian]
  below := by
    rintro context ⟨stores, hstores, hsame⟩
    rw [dsmItems_eq hsame]
    have hitems := dsmItems_applyAll_le (hinside.dsm coreId hcoreId)
      fun store hstore => hinside.stores coreId store (hstores store hstore)
    exact UInt64.le_trans hitems (by decide)

theorem blind_handleGetIbsBuffer (hinside : CountsInside firmware origin) (payload : Memory)
    (payloadLength : UInt64) :
    Blind firmware origin fresh format (handleGetIbsBuffer payload payloadLength) := by
  have hempty : ∀ {written : ℕ → Prop}, (∀ offset < 32, written offset) →
      Blind firmware origin written format
        (respondPayload printStatusDebug .ibsBuffer (4 * 8) (4 * 8 + headerSize) true) := by
    intro written hwritten
    apply blind_respondPayload reports_printStatusDebug
    exact hwritten
  simp only [handleGetIbsBuffer]
  split
  · exact blind_reject _ _ _
  apply blind_checkCoreId
  intro hcoreId
  apply Blind.known_bind (known_contextOf _)
  intro context hcontext
  split
  · iterate 4
      apply Blind.putPayload64_bind
      intro _
    apply hempty
    intro offset hoffset
    simp only [Written]
    omega
  rename_i hcontrol
  apply Blind.after (oblivious_contextOf _)
  intro _
  iterate 4
    apply Blind.putPayload64_bind
    intro _
  split
  · apply hempty
    intro offset hoffset
    simp only [Written]
    omega
  apply Blind.read_bind
  have hsome : (origin.machine.contexts (payload.u64 0).toNat).ibsControl.isSome = true := by
    obtain ⟨stores, -, hsame⟩ := hcontext
    have hevents := congrArg Option.isSome hsame.ibsEvents
    rw [Option.isSome_map, Option.isSome_map, isSome_ibsControl_applyAll] at hevents
    rw [← hevents, ← Option.not_isNone, Bool.eq_false_iff.mpr hcontrol]
    rfl
  have hstored : EventsStored ibsPosition ibsEntry (Seen firmware origin _) :=
    eventsStored_ibs hsome (hinside.ibs _ hcoreId)
  apply blind_sendEvents (by decide) (by decide) fun _ _ => couples_copyEntries hstored _ _
  intro offset hoffset
  change offset < 32 at hoffset
  simp only [Written]
  omega

theorem blind_handleGetDsmBuffer (hinside : CountsInside firmware origin) (payload : Memory)
    (payloadLength : UInt64) :
    Blind firmware origin fresh format (handleGetDsmBuffer payload payloadLength) := by
  simp only [handleGetDsmBuffer]
  split
  · exact blind_reject _ _ _
  apply blind_checkCoreId
  intro hcoreId
  apply Blind.known_bind (known_contextOf _)
  intro context hcontext
  split
  · iterate 2
      apply Blind.putPayload64_bind
      intro _
    apply blind_respondPayload reports_printStatusDebug
    intro offset hoffset
    change offset < 16 at hoffset
    simp only [Written]
    omega
  rename_i control hcontrol
  iterate 2
    apply Blind.putPayload64_bind
    intro _
  apply Blind.after (oblivious_contextOf _)
  intro current
  apply Blind.copyToPayload_bind
  intro _
  apply Blind.after (oblivious_contextOf _)
  intro _
  have hhead : (fileHeaderBytes ((current.dsmControl).getD control).fileHeader).length = 48 := by
    simp only [fileHeaderBytes, List.length_flatMap, length_littleEndian, List.map_const',
      List.length_cons, List.length_nil, List.sum_replicate_nat]
  split
  · apply blind_respondPayload reports_printStatusDebug
    intro offset hoffset
    change offset < 64 at hoffset
    simp only [Written, hhead]
    omega
  apply Blind.read_bind
  have hsome : (origin.machine.contexts (payload.u64 0).toNat).dsmControl.isSome = true := by
    obtain ⟨stores, -, hsame⟩ := hcontext
    rw [← isSome_dsmControl_applyAll _ stores, ← hsame.dsmControl, hcontrol]
    rfl
  have hstored := eventsStored_dsm hinside hcoreId hsome
  apply blind_sendEvents (by decide) (by decide) fun _ _ => couples_copyEntries hstored _ _
  intro offset hoffset
  change offset < 64 at hoffset
  simp only [Written, hhead]
  omega

end Blind

end Handlers

end AngryUefi
