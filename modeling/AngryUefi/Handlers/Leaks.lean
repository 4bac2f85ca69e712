import AngryUefi.Handlers.Replies
import AngryUefi.Handlers.Scratch

/-!
# Replies that tell about earlier requests

`write_entry` leaves five bytes of every page entry as they are, and the
rejections of SENDUCODE and REBOOT send `FormatBuffer` although
`FormatPrintDebug` has printed nothing into it.  Every other reply consists of
bytes that its own handler has written.
-/

namespace AngryUefi

open AngryUefi.Bytes AngryUefi.Framing AngryUefi.Programs

/-- A text in `FormatBuffer` with its terminator. -/
def Buffers.Terminated (buffers : Buffers) : Prop :=
  buffers.format.length < formatBufferLength

namespace Handlers

/-! ## The condition -/

/-- Neither a table nor an entry, and no index into a table. -/
def IndexRefused (index : UInt64) : Prop :=
  index ≠ currentTable ∧ index ≠ previousEntry ∧ 1024 ≤ index

/-- The first index that is used and not in its table. -/
def IndicesRefused (pml4Index pdptIndex pdIndex ptIndex : UInt64) : Prop :=
  pml4Index ≠ currentTable ∧ 512 ≤ pml4Index ∨
    pml4Index < 512 ∧ (IndexRefused pdptIndex ∨
      pdptIndex < 1024 ∧ (IndexRefused pdIndex ∨
        pdIndex < 1024 ∧ IndexRefused ptIndex))

/-- The core is present when it is looked at first, and started when it is
looked at next. -/
def PassesCheck (firmware : Firmware) (coreId : UInt64) (s : Server) : Prop :=
  let first := s.machine.runProcessors (firmware.schedule s.clock)
  let second := first.runProcessors (firmware.schedule (s.clock + 1))
  coreId < maxCoreCount ∧ (first.contexts coreId.toNat).present = 1 ∧
    (second.contexts coreId.toNat).started = 1

/-- Entries of a page table are sent. -/
structure SendsEntries (firmware : Firmware) (payload : Memory) (payloadLength : UInt64)
    (s : Server) : Prop where
  long : 40 ≤ payloadLength
  passes : PassesCheck firmware (payload.u64 0) s
  accepted : ¬ IndicesRefused (payload.u64 1) (payload.u64 2) (payload.u64 3) (payload.u64 4)

/-- An update that is stored. -/
structure StoresUcode (firmware : Firmware) (payload : Memory) (payloadLength : UInt64)
    (s : Server) : Prop where
  long : 8 ≤ payloadLength
  slot : payload.u32 0 ≤ ucodeSlots - 1
  memory : (s.ucodes (payload.u32 0).toNat).address.isSome = true ∨
    (firmware.allocatePages s.clock (ucodeAllocSize / 4096)).isSome = true

/-- The requests whose reply is written by their handler. -/
def RepliesFresh (firmware : Firmware) (request : Option MessageType) (payload : Memory)
    (payloadLength : UInt64) (s : Server) : Prop :=
  match request with
  | some .sendUcode => StoresUcode firmware payload payloadLength s
  | some .reboot => 4 ≤ payloadLength
  | some .getPagingInfo => ¬ SendsEntries firmware payload payloadLength s
  | _ => True

/-! ## Fresh replies -/

section Fresh

variable {firmware : Firmware} {origin : Server} {fresh : ℕ → Prop} {format : Prop}
variable {Result Next : Type}

/-- From a known state the first part of a program is known. -/
theorem Blind.run_bind {start middle : Server} {result : Result} {program : Handler Result}
    {next : Result → Handler Next} (hrun : program firmware start = some (result, middle))
    (hprogram : Oblivious firmware origin program)
    (hnext : Couples firmware (fun s t => s = middle ∧ Agree firmware origin fresh format s t)
      (fun _ => Alike firmware origin) (next result)) :
    Couples firmware (fun s t => s = start ∧ Agree firmware origin fresh format s t)
      (fun _ => Alike firmware origin) (program >>= next) := by
  rintro _ t ⟨rfl, hagree⟩ final s' hwhole
  obtain ⟨other, hother, hmiddle⟩ := hprogram fresh format _ t hagree result middle hrun
  rw [bind_of_eq_some hrun] at hwhole
  rw [bind_of_eq_some hother]
  exact hnext middle other ⟨rfl, hmiddle⟩ final s' hwhole

theorem Blind.at_start {start : Server} {program : Handler Result}
    (hprogram : Blind firmware origin fresh format program) :
    Couples firmware (fun s t => s = start ∧ Agree firmware origin fresh format s t)
      (fun _ => Alike firmware origin) program :=
  hprogram.weaken (fun _ _ hagree => hagree.2) fun _ _ _ => id

/-- Whether the firmware has pages for the slot. -/
theorem allocatePages_run (table : SlotTable) (slot : ℕ) (s : Server) :
    ∃ t, allocatePages table slot firmware s =
        some ((firmware.allocatePages s.clock (table.allocSize / 4096)).isSome, t) ∧
      t.formatBuffer = s.formatBuffer ∧ t.trace = s.trace := by
  let looked : Server :=
    { s with
      clock := s.clock + 1
      accesses := s.accesses ++ [table.element slot] }
  have hlooked : ∀ change, (table.update slot change looked).formatBuffer = s.formatBuffer ∧
      (table.update slot change looked).trace = s.trace := fun _ => by
    cases table <;> exact ⟨rfl, rfl⟩
  cases hpages : firmware.allocatePages s.clock (table.allocSize / 4096) with
  | none =>
      refine ⟨_, ?_, hlooked fun container => { container with address := none }⟩
      refine bind_eq_some_iff.mpr ⟨s.clock, _, rfl, bind_eq_some_iff.mpr ⟨firmware, _, rfl, ?_⟩⟩
      refine bind_eq_some_iff.mpr ⟨(), looked, rfl, ?_⟩
      simp only [hpages]
      rfl
  | some memory =>
      refine ⟨_, ?_, hlooked fun container =>
        { container with
          address := some memory.1, contents := memory.2, allocated := table.allocSize }⟩
      refine bind_eq_some_iff.mpr ⟨s.clock, _, rfl, bind_eq_some_iff.mpr ⟨firmware, _, rfl, ?_⟩⟩
      refine bind_eq_some_iff.mpr ⟨(), looked, rfl, ?_⟩
      simp only [hpages]
      rfl

theorem blind_handleSendUcode {start : Server} {payload : Memory} {payloadLength : UInt64}
    (hstores : StoresUcode firmware payload payloadLength start) :
    Couples firmware (fun s t => s = start ∧ Agree firmware origin fresh format s t)
      (fun _ => Alike firmware origin) (handleSendUcode payload payloadLength) := by
  have hslot : ¬ payload.u32 0 > SlotTable.ucodes.count - 1 := UInt32.not_lt.mpr hstores.slot
  simp only [handleSendUcode, handleSend, UInt64.not_lt.mpr hstores.long, hslot, if_false]
  apply Blind.run_bind rfl (oblivious_slotOf _ _)
  split
  · rename_i hnone
    change (start.ucodes (payload.u32 0).toNat).address.isNone = true at hnone
    have hallocates : (firmware.allocatePages start.clock (ucodeAllocSize / 4096)).isSome := by
      apply hstores.memory.resolve_left
      rw [Option.isNone_iff_eq_none.mp hnone]
      exact Bool.false_ne_true
    obtain ⟨allocated, hrun, -⟩ := @allocatePages_run firmware .ucodes
      (payload.u32 0).toNat { start with
        accesses := start.accesses ++ [SlotTable.ucodes.element (payload.u32 0).toNat] }
    apply Blind.run_bind hrun (oblivious_allocatePages _ _)
    change Couples _ _ _ (if (firmware.allocatePages start.clock
      (ucodeAllocSize / 4096)).isSome = true then _ else _)
    rw [if_pos hallocates]
    exact (blind_storeInSlot _ _ _ _).at_start
  · exact (blind_storeInSlot _ _ _ _).at_start

/-- A core that is not present or not started. -/
theorem blind_checkCoreId_refused {start : Server} {coreId : UInt64} {proceed : Handler EfiStatus}
    (hfails : ¬ PassesCheck firmware coreId start) :
    Couples firmware (fun s t => s = start ∧ Agree firmware origin fresh format s t)
      (fun _ => Alike firmware origin) (checkCoreId coreId proceed) := by
  simp only [checkCoreId]
  split
  · exact (blind_reject _ _ _).at_start
  rename_i hrange
  apply Blind.run_bind rfl (oblivious_contextOf _)
  split
  · exact (blind_reject _ _ _).at_start
  rename_i hpresent
  apply Blind.run_bind rfl (oblivious_contextOf _)
  split
  · exact (blind_reject _ _ _).at_start
  rename_i hstarted
  exact absurd ⟨UInt64.not_le.mp hrange, not_not.mp hpresent, not_not.mp hstarted⟩ hfails

theorem blind_pagingLevelStep {index : UInt64} {deeper : Handler EfiStatus}
    (hindex : IndexRefused index ∨ index < 1024 ∧ Blind firmware origin fresh format deeper)
    (table above aboveIndex flags cr3 : UInt64) (level : UInt8) (code : UInt32) (text : String) :
    Blind firmware origin fresh format
      (pagingLevelStep table above aboveIndex index flags cr3 level code text deeper) := by
  rcases hindex with ⟨hcurrent, hprevious, hbig⟩ | ⟨hsmall, hdeeper⟩
  · simp only [pagingLevelStep, hcurrent, hprevious, if_false, ge_iff_le, hbig, if_true]
    exact blind_reject _ _ _
  · have hcurrent : index ≠ currentTable := by
      rintro rfl
      exact absurd hsmall (by decide)
    have hprevious : index ≠ previousEntry := by
      rintro rfl
      exact absurd hsmall (by decide)
    simp only [pagingLevelStep, hcurrent, hprevious, if_false, ge_iff_le,
      UInt64.not_le.mpr hsmall]
    exact hdeeper

theorem blind_handleGetPagingInfo {start : Server} {payload : Memory} {payloadLength : UInt64}
    (hrefused : ¬ SendsEntries firmware payload payloadLength start) :
    Couples firmware (fun s t => s = start ∧ Agree firmware origin fresh format s t)
      (fun _ => Alike firmware origin) (handleGetPagingInfo payload payloadLength) := by
  simp only [handleGetPagingInfo]
  split
  · exact (blind_reject _ _ _).at_start
  rename_i hlong
  by_cases hpasses : PassesCheck firmware (payload.u64 0) start
  · have hindices : IndicesRefused (payload.u64 1) (payload.u64 2) (payload.u64 3)
        (payload.u64 4) := by
      by_contra haccepted
      exact hrefused ⟨UInt64.not_lt.mp hlong, hpasses, haccepted⟩
    apply Blind.at_start
    apply blind_checkCoreId
    intro _
    apply Blind.after (oblivious_contextOf _)
    intro context
    have hcurrent : payload.u64 1 ≠ currentTable := by
      rcases hindices with ⟨hcurrent, -⟩ | ⟨hsmall, -⟩
      · exact hcurrent
      · intro hcurrent
        rw [hcurrent] at hsmall
        exact absurd hsmall (by decide)
    rw [if_neg hcurrent]
    split
    · exact blind_reject _ _ _
    rename_i hsmall
    have hdeeper := (hindices.resolve_left fun hbig => hsmall hbig.2).2
    apply Blind.after (oblivious_getPdptAt _ _)
    intro pdpt
    apply blind_pagingLevelStep
    apply hdeeper.imp_right
    rintro ⟨hpdpt, hdeeper⟩
    refine ⟨hpdpt, Blind.after (oblivious_getPdAt _ _ _) fun pd => ?_⟩
    apply blind_pagingLevelStep
    apply hdeeper.imp_right
    rintro ⟨hpd, hpt⟩
    refine ⟨hpd, Blind.after (oblivious_getPtAt _ _ _ _) fun pt => ?_⟩
    exact blind_pagingLevelStep (.inl hpt) _ _ _ _ _ _ _ _
  · exact blind_checkCoreId_refused hpasses

theorem blind_dispatch {start : Server} {messageType : UInt32} {payload : Memory}
    {payloadLength : UInt64} (hinside : CountsInside firmware origin)
    (hfresh : RepliesFresh firmware (requestOf messageType) payload payloadLength start) :
    Couples firmware (fun s t => s = start ∧ Agree firmware origin fresh format s t)
      (fun _ => Alike firmware origin) (dispatch messageType payload payloadLength) := by
  simp only [dispatch]
  split
  · exact (blind_handlePing _ _).at_start
  · exact (blind_handleMultiPing _ _).at_start
  · exact (blind_handleGetMsgSize _).at_start
  · rename_i hrequest
    rw [hrequest] at hfresh
    exact (blind_handleReboot _ hfresh).at_start
  · rename_i hrequest
    rw [hrequest] at hfresh
    exact blind_handleSendUcode hfresh
  · exact (blind_handleFlipBits _ _).at_start
  · exact (blind_handleApplyUcode _ _).at_start
  · exact (blind_handleApplyUcodeExecuteTest _ _).at_start
  · exact (blind_handleGetLastTestResult _ _).at_start
  · exact (blind_handleExecuteMachineCode _ _).at_start
  · exact (blind_handleReadMsr _ _).at_start
  · exact (blind_handleReadMsrOnCore _ _).at_start
  · exact blind_handleGetCoreCount.at_start
  · exact (blind_handleStartCore _ _).at_start
  · exact (blind_handleGetCoreStatus _ _).at_start
  · exact (blind_handleSendMachineCode _ _).at_start
  · rename_i hrequest
    rw [hrequest] at hfresh
    exact blind_handleGetPagingInfo hfresh
  · exact (blind_handleGetIbsBuffer hinside _ _).at_start
  · exact (blind_handleGetDsmBuffer hinside _ _).at_start
  · apply Blind.at_start
    apply Blind.formatPrint_bind
    intro _
    exact blind_rejectWith _ _

end Fresh

/-! ## Uniform replies -/

/-- Whatever earlier requests have left behind, the frames sent in reply are the
same. -/
def Uniform (firmware : Firmware) (message : Memory) (messageLength : UInt64) (s : Server) :
    Prop :=
  ∀ left right : Buffers, left.Terminated → right.Terminated → ∀ status t,
    handleMessage message messageLength firmware (s.withBuffers left) = some (status, t) →
      ∃ t', handleMessage message messageLength firmware (s.withBuffers right) =
          some (status, t') ∧ sentBytes t'.trace = sentBytes t.trace

theorem dispatch_of_handleMessage {firmware : Firmware} {message : Memory}
    {messageLength : UInt64} {s t : Server} {status : EfiStatus}
    (haccepted : messageStatus message messageLength.toNat = .success)
    (hrun : handleMessage message messageLength firmware s = some (status, t)) :
    ∃ answer, dispatch (message.u32 1) (message.shift 8) (messageLength - 8) firmware
      (onStack firmware s) = some (answer, t) ∧ status = .success := by
  simp only [handleMessage, haccepted, EfiStatus.isError_success, Bool.false_eq_true,
    if_false] at hrun
  obtain ⟨_, middle, hstack, hrest⟩ := bind_eq_some_iff.mp hrun
  cases hstack
  obtain ⟨answer, after, hdispatch, hlast⟩ := bind_eq_some_iff.mp hrest
  cases hlast
  exact ⟨answer, hdispatch, rfl⟩

/-- The condition does not look at the buffers. -/
theorem repliesFresh_withBuffers {firmware : Firmware} {request : Option MessageType}
    {payload : Memory} {payloadLength : UInt64} {s : Server} (buffers : Buffers)
    (hfresh : RepliesFresh firmware request payload payloadLength (onStack firmware s)) :
    RepliesFresh firmware request payload payloadLength
      (onStack firmware (s.withBuffers buffers)) := by
  rcases request with _ | request
  · trivial
  cases request
  case sendUcode => exact ⟨hfresh.long, hfresh.slot, hfresh.memory⟩
  case getPagingInfo =>
    exact fun hsends => hfresh ⟨hsends.long, hsends.passes, hsends.accepted⟩
  all_goals exact hfresh

theorem uniform_of_fresh {firmware : Firmware} {message : Memory} {messageLength : UInt64}
    {s : Server} (haccepted : messageStatus message messageLength.toNat = .success)
    (hinside : CountsInside firmware s)
    (hfresh : RepliesFresh firmware (requestOf (message.u32 1)) (message.shift 8)
      (messageLength - 8) (onStack firmware s)) :
    Uniform firmware message messageLength s := by
  intro left right _ _ status t hrun
  obtain ⟨answer, hdispatch, rfl⟩ := dispatch_of_handleMessage haccepted hrun
  have hagree : Alike firmware s (onStack firmware (s.withBuffers left))
      (onStack firmware (s.withBuffers right)) :=
    .intro right .rfl (fun _ => False.elim) False.elim
  obtain ⟨t', hother, hafter⟩ := blind_dispatch hinside (repliesFresh_withBuffers left hfresh)
    _ _ ⟨rfl, hagree⟩ answer t hdispatch
  refine ⟨t', handleMessage_of_dispatch haccepted hother, ?_⟩
  obtain ⟨buffers, -, -, -⟩ := hafter
  rfl

/-! ## Leaks -/

section Leaks

variable {firmware : Firmware} {Result Next : Type}

/-- The program always returns, sends nothing and leaves the payload alone. -/
def Passes (firmware : Firmware) (program : Handler Result) : Prop :=
  ∀ s, ∃ result t, program firmware s = some (result, t) ∧ t.trace = s.trace ∧
    t.payloadBuffer = s.payloadBuffer

namespace Passes

theorem pure (result : Result) : Passes firmware (pure result : Handler Result) :=
  fun s => ⟨result, s, rfl, rfl, rfl⟩

theorem bind {program : Handler Result} {next : Result → Handler Next}
    (hprogram : Passes firmware program) (hnext : ∀ result, Passes firmware (next result)) :
    Passes firmware (program >>= next) := by
  intro s
  obtain ⟨first, middle, hfirst, htrace, hpayload⟩ := hprogram s
  obtain ⟨result, t, hrest, hlater, hkept⟩ := hnext first middle
  exact ⟨result, t, bind_eq_some_iff.mpr ⟨first, middle, hfirst, hrest⟩, hlater.trans htrace,
    hkept.trans hpayload⟩

end Passes

theorem passes_contextOf (coreId : UInt64) : Passes firmware (contextOf coreId) :=
  fun _ => ⟨_, _, rfl, rfl, rfl⟩

theorem passes_physicalWord (address : UInt64) : Passes firmware (physicalWord address) :=
  fun _ => ⟨_, _, rfl, rfl, rfl⟩

theorem passes_tableAt (table index : UInt64) : Passes firmware (tableAt table index) :=
  (passes_physicalWord _).bind fun _ => Passes.pure _

theorem passes_getPdptAt (cr3 pml4Index : UInt64) :
    Passes firmware (getPdptAt cr3 pml4Index) := by
  simp only [getPdptAt]
  split
  · exact Passes.pure _
  · exact passes_tableAt _ _

theorem passes_getPdAt (cr3 pml4Index pdptIndex : UInt64) :
    Passes firmware (getPdAt cr3 pml4Index pdptIndex) := by
  apply (passes_getPdptAt _ _).bind
  intro pdpt
  split
  · exact Passes.pure _
  · exact passes_tableAt _ _

theorem passes_getPtAt (cr3 pml4Index pdptIndex ptIndex : UInt64) :
    Passes firmware (getPtAt cr3 pml4Index pdptIndex ptIndex) := by
  apply (passes_getPdAt _ _ _).bind
  intro pd
  split
  · exact Passes.pure _
  · exact passes_tableAt _ _

/-- Where the padding of the first entry is in the payload. -/
def paddingOffset : ℕ := 27

/-- The first frame sent shows the byte that was in the padding before. -/
def Shows (firmware : Firmware) (byte : UInt8) (program : Handler EfiStatus) : Prop :=
  ∀ s, s.payloadBuffer paddingOffset = byte → ∃ status t,
    program firmware s = some (status, t) ∧
      (sentBytes t.trace)[(sentBytes s.trace).length + (12 + paddingOffset)]? = some byte

namespace Shows

variable {byte : UInt8}

theorem passes_bind {program : Handler Result} {next : Result → Handler EfiStatus}
    (hprogram : Passes firmware program) (hnext : ∀ result, Shows firmware byte (next result)) :
    Shows firmware byte (program >>= next) := by
  intro s hbyte
  obtain ⟨first, middle, hfirst, htrace, hpayload⟩ := hprogram s
  obtain ⟨status, t, hrest, hshown⟩ := hnext first middle (by rwa [hpayload])
  rw [htrace] at hshown
  exact ⟨status, t, bind_eq_some_iff.mpr ⟨first, middle, hfirst, hrest⟩, hshown⟩

/-- A write that does not reach the padding. -/
theorem copyToPayload_bind {offset : ℕ} {bytes : List UInt8} {next : Unit → Handler EfiStatus}
    (hbeside : offset + bytes.length ≤ paddingOffset ∨ paddingOffset < offset)
    (hnext : Shows firmware byte (next ())) :
    Shows firmware byte (copyToPayload offset bytes >>= next) := by
  intro s hbyte
  have hkept : s.payloadBuffer.write offset bytes paddingOffset = byte := by
    rw [← hbyte]
    rcases hbeside with hbelow | habove
    · exact Memory.write_of_le _ hbelow
    · exact Memory.write_of_lt _ _ habove
  obtain ⟨status, t, hrest, hshown⟩ :=
    hnext { s with payloadBuffer := s.payloadBuffer.write offset bytes } hkept
  exact ⟨status, t, bind_eq_some_iff.mpr ⟨(), _, rfl, hrest⟩, hshown⟩

theorem putPayload64_bind {index : ℕ} {value : UInt64} {next : Unit → Handler EfiStatus}
    (hbeside : 8 * index + 8 ≤ paddingOffset ∨ paddingOffset < 8 * index)
    (hnext : Shows firmware byte (next ())) :
    Shows firmware byte (putPayload64 index value >>= next) := by
  apply copyToPayload_bind _ hnext
  rwa [length_littleEndian]

end Shows

/-- The payload is behind the length word and the header. -/
theorem getElem?_frame_messageBody (messageType : UInt32) (payload : List UInt8)
    (lastMessage : Bool) (index : ℕ) :
    (frame (messageBody messageType payload lastMessage))[12 + index]? = payload[index]? := by
  have hhead : (littleEndian 4 (messageBody messageType payload lastMessage).length ++
      ([1, 0, if lastMessage then 0 else 1, 0] ++ littleEndian 4 messageType.toNat)).length =
        12 := by
    simp only [List.length_append, length_littleEndian, List.length_cons, List.length_nil]
  rw [frame, messageBody, ← List.append_assoc, List.getElem?_append_right (by
    rw [← messageBody, hhead]; omega), ← messageBody, hhead, Nat.add_sub_cancel_left]

theorem shows_sendPageinfo (hdelivers : firmware.Delivers) {byte : UInt8}
    {pageinfoEntries : UInt64} (hsome : 1 ≤ pageinfoEntries.toNat)
    (hmost : pageinfoEntries.toNat ≤ 80) (lastMessage : Bool) {proceed : Handler EfiStatus}
    (hcompletes : Completes firmware proceed) (horderly : Guarantees firmware Orderly proceed) :
    Shows firmware byte (sendPageinfo pageinfoEntries lastMessage proceed) := by
  intro s hbyte
  have hsize : (pageinfoEntries * 16 + 3 * 8).toNat = 16 * pageinfoEntries.toNat + 24 := by
    rw [UInt64.toNat_add, UInt64.toNat_mul]
    simp only [UInt64.reduceToNat, UInt64.reduceMul]
    omega
  have hlength : (pageinfoEntries * 16 + 3 * 8).toNat ≤ 1400 := by omega
  let counted : Server :=
    { s with payloadBuffer := s.payloadBuffer.write 16 (littleEndian 8 pageinfoEntries.toNat) }
  have hsend := respond_delivered hdelivers (fun _ _ => return) .pagingInfo
    counted.payloadBuffer hlength (sizeMatches_add _) lastMessage counted
  obtain ⟨status, t, hproceed⟩ := hcompletes _
  obtain ⟨later, htrace, -⟩ := horderly _ _ _ hproceed
  refine ⟨status, t, bind_eq_some_iff.mpr ⟨.success, _, ?_, hproceed⟩, ?_⟩
  · exact bind_eq_some_iff.mpr ⟨(), counted, rfl,
      bind_eq_some_iff.mpr ⟨counted, counted, rfl, hsend⟩⟩
  · have hkept : counted.payloadBuffer paddingOffset = byte := by
      rw [← hbyte]
      have hbelow : 16 + (littleEndian 8 pageinfoEntries.toNat).length ≤ paddingOffset := by
        rw [length_littleEndian]
        decide
      exact s.payloadBuffer.write_of_le hbelow
    have hpadding : (counted.payloadBuffer.read 0
        (pageinfoEntries * 16 + 3 * 8).toNat)[paddingOffset]? = some byte := by
      have hinside : paddingOffset < (pageinfoEntries * 16 + 3 * 8).toNat := by
        simp only [paddingOffset]
        omega
      simp only [Memory.read, List.getElem?_map, List.getElem?_range hinside, Option.map_some,
        Nat.zero_add, hkept]
    rw [htrace, sentBytes_append, sentBytes_append, List.append_assoc,
      List.getElem?_append_right (Nat.le_add_right _ _), Nat.add_sub_cancel_left]
    have hfirst : sentBytes [.constructed MessageType.pagingInfo.code
          (counted.payloadBuffer.read 0 (pageinfoEntries * 16 + 3 * 8).toNat) lastMessage,
        .sent (frame (messageBody MessageType.pagingInfo.code
          (counted.payloadBuffer.read 0 (pageinfoEntries * 16 + 3 * 8).toNat) lastMessage))] =
        frame (messageBody MessageType.pagingInfo.code
          (counted.payloadBuffer.read 0 (pageinfoEntries * 16 + 3 * 8).toNat) lastMessage) := by
      simp [sentBytes, Event.bytes]
    rw [hfirst, List.getElem?_append_left, getElem?_frame_messageBody]
    · exact hpadding
    · rw [length_frame, length_messageBody, Memory.length_read]
      simp only [paddingOffset]
      omega

theorem completes_sendPageinfo (pageinfoEntries : UInt64) (lastMessage : Bool)
    {proceed : Handler EfiStatus} (hproceed : Completes firmware proceed) :
    Completes firmware (sendPageinfo pageinfoEntries lastMessage proceed) := by
  have hsend : Completes firmware (sendPageinfoMessage pageinfoEntries lastMessage) :=
    (Completes.modify _).bind fun _ => Completes.get.bind fun _ =>
      completes_respond (fun _ _ => Completes.pure _) _ _ _ _ _
  apply hsend.bind
  intro status
  split
  · exact (completes_formatPrint _ _).bind fun _ => completes_rejectWith _ _
  · exact hproceed

theorem Passes.completes {program : Handler Result} (hprogram : Passes firmware program) :
    Completes firmware program := by
  intro s
  obtain ⟨result, t, hrun, -⟩ := hprogram s
  exact ⟨result, t, hrun⟩

theorem completes_sendEntries (tableBase : UInt64) (pagingLevel : UInt8)
    (remaining index wordPosition : ℕ) :
    Completes firmware (sendEntries tableBase pagingLevel remaining index wordPosition) := by
  induction remaining generalizing index wordPosition with
  | zero => exact completes_sendPageinfo _ _ (Completes.pure _)
  | succ remaining ih =>
      have hwrite : ∀ position, Completes firmware (do
          let entry ← physicalWord (tableBase + 8 * UInt64.ofNat index)
          writeEntry position entry (UInt16.ofNat index) pagingLevel
          sendEntries tableBase pagingLevel remaining (index + 1) (position + 2)) := by
        intro position
        apply (passes_physicalWord _).completes.bind
        intro entry
        apply ((Completes.modify _).bind fun _ => Completes.modify _).bind
        intro _
        exact ih _ _
      simp only [sendEntries]
      split
      · exact completes_sendPageinfo _ _ (hwrite 3)
      · exact hwrite _

/-- The first packet of a table that is not empty. -/
theorem shows_sendEntries (hdelivers : firmware.Delivers) {byte : UInt8} (tableBase : UInt64)
    (pagingLevel : UInt8) {remaining index : ℕ} (hindex : index ≤ maxEntriesPerPacket)
    (hsome : 1 ≤ index ∨ 1 ≤ remaining) :
    Shows firmware byte
      (sendEntries tableBase pagingLevel remaining index (3 + 2 * index)) := by
  simp only [maxEntriesPerPacket] at hindex
  induction remaining generalizing index with
  | zero =>
      have hentries : (UInt64.ofNat ((3 + 2 * index - 3) / 2)).toNat = index := by
        rw [UInt64.toNat_ofNat']
        omega
      apply shows_sendPageinfo hdelivers
      · omega
      · omega
      · exact Completes.pure _
      · exact Guarantees.pure _
  | succ remaining ih =>
      simp only [sendEntries]
      by_cases hfull : index % maxEntriesPerPacket = 0 ∧ index ≠ 0
      · rw [if_pos hfull]
        apply shows_sendPageinfo hdelivers (by decide) (by decide)
        · apply (passes_physicalWord _).completes.bind
          intro entry
          apply ((Completes.modify _).bind fun _ => Completes.modify _).bind
          intro _
          exact completes_sendEntries _ _ _ _ _
        · have hkept := kept_orderly hdelivers fun _ => True
          exact (hkept.physicalWord _).bind fun _ => (hkept.writeEntry _ _ _ _).bind fun _ =>
            hkept.sendEntries _ _ _ _ _
      · rw [if_neg hfull]
        simp only [maxEntriesPerPacket] at hfull
        apply Shows.passes_bind (passes_physicalWord _)
        intro entry
        simp only [writeEntry, bind_assoc]
        apply Shows.copyToPayload_bind
        · simp only [List.length_append, length_littleEndian, List.length_cons, List.length_nil,
            paddingOffset]
          omega
        apply Shows.putPayload64_bind
        · simp only [paddingOffset]
          omega
        exact ih (by omega) (.inl (by omega))

theorem shows_sendTable (hdelivers : firmware.Delivers) {byte : UInt8} (tableBase : UInt64)
    {tableLength : ℕ} (hsome : 1 ≤ tableLength) (pagingLevel : UInt8)
    (flags cr3Value : UInt64) :
    Shows firmware byte (sendTable tableBase tableLength pagingLevel flags cr3Value) := by
  apply Shows.putPayload64_bind (.inl (by decide))
  apply Shows.putPayload64_bind (.inl (by decide))
  exact shows_sendEntries hdelivers _ _ (Nat.zero_le _) (.inr hsome)

theorem shows_sendEntry (hdelivers : firmware.Delivers) {byte : UInt8} (entryAddress : UInt64)
    (position : UInt16) (pagingLevel : UInt8) (flags cr3Value : UInt64) :
    Shows firmware byte (sendEntry entryAddress position pagingLevel flags cr3Value) := by
  apply Shows.putPayload64_bind (.inl (by decide))
  apply Shows.putPayload64_bind (.inl (by decide))
  apply Shows.passes_bind (passes_physicalWord _)
  intro entry
  simp only [writeEntry, bind_assoc]
  apply Shows.copyToPayload_bind
  · simp only [List.length_append, length_littleEndian, List.length_cons, List.length_nil,
      paddingOffset]
    omega
  apply Shows.putPayload64_bind (.inr (by decide))
  exact shows_sendPageinfo hdelivers (by decide) (by decide) _ (Completes.pure _)
    (Guarantees.pure _)

theorem shows_pagingLevelStep (hdelivers : firmware.Delivers) {byte : UInt8} {index : UInt64}
    {deeper : Handler EfiStatus} (hindex : ¬ IndexRefused index)
    (hdeeper : index < 1024 → Shows firmware byte deeper)
    (table above aboveIndex flags cr3 : UInt64) (level : UInt8) (code : UInt32) (text : String) :
    Shows firmware byte
      (pagingLevelStep table above aboveIndex index flags cr3 level code text deeper) := by
  simp only [pagingLevelStep]
  split
  · exact shows_sendTable hdelivers _ (by decide) _ _ _
  split
  · exact shows_sendEntry hdelivers _ _ _ _ _
  split
  · rename_i hcurrent hprevious hbig
    exact absurd ⟨hcurrent, hprevious, hbig⟩ hindex
  · rename_i hsmall
    exact hdeeper (UInt64.not_le.mp hsmall)

/-- A core that passes the checks. -/
theorem checkCoreId_run {coreId : UInt64} {s : Server} (hpasses : PassesCheck firmware coreId s)
    (proceed : Handler EfiStatus) :
    checkCoreId coreId proceed firmware s =
      proceed firmware (lookedAt firmware coreId (lookedAt firmware coreId s)) := by
  obtain ⟨hrange, hpresent, hstarted⟩ := hpasses
  have hfirst : ((lookedAt firmware coreId s).machine.contexts coreId.toNat).present = 1 :=
    hpresent
  have hsecond : ((lookedAt firmware coreId (lookedAt firmware coreId s)).machine.contexts
      coreId.toNat).started = 1 := hstarted
  simp only [checkCoreId, ge_iff_le, UInt64.not_le.mpr hrange, if_false]
  rw [bind_of_eq_some (contextOf_run _ _ _), if_neg (not_not.mpr hfirst),
    bind_of_eq_some (contextOf_run _ _ _), if_neg (not_not.mpr hsecond)]

theorem shows_checkCoreId {byte : UInt8} {coreId : UInt64} {s : Server}
    (hpasses : PassesCheck firmware coreId s) (hbyte : s.payloadBuffer paddingOffset = byte)
    {proceed : Handler EfiStatus} (hproceed : Shows firmware byte proceed) :
    ∃ status t, checkCoreId coreId proceed firmware s = some (status, t) ∧
      (sentBytes t.trace)[(sentBytes s.trace).length + (12 + paddingOffset)]? = some byte := by
  rw [checkCoreId_run hpasses]
  exact hproceed (lookedAt firmware coreId (lookedAt firmware coreId s)) hbyte

theorem shows_handleGetPagingInfo (hdelivers : firmware.Delivers) {byte : UInt8}
    {payload : Memory} {payloadLength : UInt64} {s : Server}
    (hsends : SendsEntries firmware payload payloadLength s)
    (hbyte : s.payloadBuffer paddingOffset = byte) :
    ∃ status t, handleGetPagingInfo payload payloadLength firmware s = some (status, t) ∧
      (sentBytes t.trace)[(sentBytes s.trace).length + (12 + paddingOffset)]? = some byte := by
  have haccepted := hsends.accepted
  simp only [IndicesRefused, not_or, not_and] at haccepted
  simp only [handleGetPagingInfo, UInt64.not_lt.mpr hsends.long, if_false]
  apply shows_checkCoreId hsends.passes hbyte
  apply Shows.passes_bind (passes_contextOf _)
  intro context
  split
  · exact shows_sendTable hdelivers _ (by decide) _ _ _
  rename_i hcurrent
  split
  · rename_i hbig
    exact absurd hbig (haccepted.1 hcurrent)
  rename_i hsmall
  obtain ⟨hpdpt, hdeeper⟩ := haccepted.2 (UInt64.not_le.mp hsmall)
  apply Shows.passes_bind (passes_getPdptAt _ _)
  intro pdpt
  apply shows_pagingLevelStep hdelivers hpdpt
  intro hpdptSmall
  obtain ⟨hpd, hdeepest⟩ := hdeeper hpdptSmall
  apply Shows.passes_bind (passes_getPdAt _ _ _)
  intro pd
  apply shows_pagingLevelStep hdelivers hpd
  intro hpdSmall
  apply Shows.passes_bind (passes_getPtAt _ _ _ _)
  intro pt
  apply shows_pagingLevelStep hdelivers (hdeepest hpdSmall)
  intro _
  exact shows_sendEntry hdelivers _ _ _ _ _

/-- A rejection is as long as the text in `FormatBuffer`. -/
theorem rejectWith_run (hdelivers : firmware.Delivers) (code : UInt32) (status : EfiStatus)
    {s : Server} (hformat : s.formatBuffer.length < formatBufferLength) :
    ∃ t, rejectWith code status firmware s = some (status, t) ∧
      (sentBytes t.trace).length =
        (sentBytes s.trace).length + (22 + 2 * s.formatBuffer.length) := by
  obtain ⟨text, t, hrun, htext, htrace, -⟩ :=
    rejectWith_delivered hdelivers code status hformat
  refine ⟨t, hrun, ?_⟩
  rw [htrace, sentBytes_append, List.length_append]
  simp only [sentBytes, Event.bytes, List.flatMap_cons, List.flatMap_nil, List.nil_append,
    List.append_nil, length_frame, length_messageBody, List.length_append, length_littleEndian,
    htext]
  omega

/-- An update that is not stored. -/
theorem handleSendUcode_run (hdelivers : firmware.Delivers) {payload : Memory}
    {payloadLength : UInt64} {s : Server}
    (hfails : ¬ StoresUcode firmware payload payloadLength s)
    (hformat : s.formatBuffer.length < formatBufferLength) :
    ∃ status t, handleSendUcode payload payloadLength firmware s = some (status, t) ∧
      (sentBytes t.trace).length =
        (sentBytes s.trace).length + (22 + 2 * s.formatBuffer.length) := by
  simp only [handleSendUcode, handleSend]
  split
  · obtain ⟨t, hrun, hsent⟩ := rejectWith_run hdelivers 0x1 .invalidParameter hformat
    exact ⟨_, t, hrun, hsent⟩
  rename_i hlong
  split
  · obtain ⟨t, hrun, hsent⟩ := rejectWith_run hdelivers 0x2 .invalidParameter hformat
    exact ⟨_, t, hrun, hsent⟩
  rename_i hslot
  have hlooked : slotOf .ucodes (payload.u32 0).toNat firmware s =
      some (s.ucodes (payload.u32 0).toNat, { s with
        accesses := s.accesses ++ [SlotTable.ucodes.element (payload.u32 0).toNat] }) := rfl
  rw [bind_of_eq_some hlooked]
  cases hmemory : (s.ucodes (payload.u32 0).toNat).address.isSome with
  | true => exact absurd ⟨UInt64.not_lt.mp hlong, UInt32.not_lt.mp hslot, .inl hmemory⟩ hfails
  | false =>
      have hnone : (s.ucodes (payload.u32 0).toNat).address.isNone = true := by
        rw [← Option.not_isSome, hmemory]
        rfl
      obtain ⟨allocated, hallocate, hsame, htrace⟩ := @allocatePages_run firmware .ucodes
        (payload.u32 0).toNat { s with
          accesses := s.accesses ++ [SlotTable.ucodes.element (payload.u32 0).toNat] }
      have hrefused : (firmware.allocatePages s.clock (ucodeAllocSize / 4096)).isSome = false := by
        apply Bool.eq_false_iff.mpr
        intro hsome
        exact hfails ⟨UInt64.not_lt.mp hlong, UInt32.not_lt.mp hslot, .inr hsome⟩
      change allocatePages _ _ _ _ = some
        ((firmware.allocatePages s.clock (ucodeAllocSize / 4096)).isSome, _) at hallocate
      rw [hrefused] at hallocate
      rw [if_pos hnone, bind_of_eq_some hallocate]
      obtain ⟨t, hrun, hsent⟩ := rejectWith_run hdelivers 0x3 .invalidParameter
        (s := allocated) (by rw [hsame]; exact hformat)
      rw [htrace, hsame] at hsent
      exact ⟨_, t, hrun, hsent⟩

/-! ## Exactly the fresh replies are uniform -/

/-- Two runs of which one property tells them apart. -/
theorem not_uniform {message : Memory} {messageLength : UInt64} {s : Server}
    {left right : Buffers} (hleft : left.Terminated) (hright : right.Terminated)
    (property : List UInt8 → Prop)
    (hshows : ∃ status t, handleMessage message messageLength firmware (s.withBuffers left) =
      some (status, t) ∧ property (sentBytes t.trace))
    (hhides : ∃ status t, handleMessage message messageLength firmware (s.withBuffers right) =
      some (status, t) ∧ ¬ property (sentBytes t.trace)) :
    ¬ Uniform firmware message messageLength s := by
  intro huniform
  obtain ⟨status, t, hrun, hproperty⟩ := hshows
  obtain ⟨other, t', hother, hnot⟩ := hhides
  obtain ⟨t'', hsame, hbytes⟩ := huniform left right hleft hright status t hrun
  rw [hother] at hsame
  cases hsame
  exact hnot (hbytes ▸ hproperty)

/-- What was in the buffers before, nothing but one byte of the payload and a
text. -/
def leftBehind (byte : UInt8) (text : List UInt16) : Buffers where
  payload _ := byte
  response _ := 0
  format := text

theorem not_uniform_of_text {message : Memory} {messageLength : UInt64} {s : Server}
    (haccepted : messageStatus message messageLength.toNat = .success)
    (hruns : ∀ text : List UInt16, text.length < formatBufferLength →
      ∃ status t, dispatch (message.u32 1) (message.shift 8) (messageLength - 8) firmware
          (onStack firmware (s.withBuffers (leftBehind 0 text))) = some (status, t) ∧
        (sentBytes t.trace).length = (sentBytes s.trace).length + (22 + 2 * text.length)) :
    ¬ Uniform firmware message messageLength s := by
  have hmessage : ∀ text : List UInt16, text.length < formatBufferLength →
      ∃ status t, handleMessage message messageLength firmware
          (s.withBuffers (leftBehind 0 text)) = some (status, t) ∧
        (sentBytes t.trace).length = (sentBytes s.trace).length + (22 + 2 * text.length) := by
    intro text htext
    obtain ⟨status, t, hrun, hlength⟩ := hruns text htext
    exact ⟨.success, t, handleMessage_of_dispatch haccepted hrun, hlength⟩
  have hempty : (leftBehind 0 []).Terminated := Nat.zero_lt_succ _
  have hletter : ([65] : List UInt16).length < formatBufferLength := by decide
  apply not_uniform hempty (show (leftBehind 0 [65]).Terminated from hletter)
    (fun bytes => bytes.length = (sentBytes s.trace).length + 22) (hmessage [] hempty)
  obtain ⟨status, t, hrun, hlength⟩ := hmessage [65] hletter
  refine ⟨status, t, hrun, ?_⟩
  rw [hlength]
  simp

theorem fresh_of_uniform (hdelivers : firmware.Delivers) {message : Memory}
    {messageLength : UInt64} {s : Server}
    (haccepted : messageStatus message messageLength.toNat = .success)
    (huniform : Uniform firmware message messageLength s) :
    RepliesFresh firmware (requestOf (message.u32 1)) (message.shift 8) (messageLength - 8)
      (onStack firmware s) := by
  by_contra hfails
  cases hrequest : requestOf (message.u32 1) with
  | none =>
      rw [hrequest] at hfails
      exact hfails trivial
  | some request =>
      rw [hrequest] at hfails
      cases request
      case sendUcode =>
        apply not_uniform_of_text haccepted _ huniform
        intro text htext
        simp only [dispatch, hrequest]
        apply handleSendUcode_run hdelivers _ htext
        exact fun hstores => hfails ⟨hstores.long, hstores.slot, hstores.memory⟩
      case reboot =>
        apply not_uniform_of_text haccepted _ huniform
        intro text htext
        have hshort : messageLength - 8 < 4 := UInt64.not_le.mp hfails
        simp only [dispatch, hrequest, handleReboot, hshort, if_true]
        obtain ⟨t, hrun, hsent⟩ := rejectWith_run hdelivers 0x1 .invalidParameter
          (s := onStack firmware (s.withBuffers (leftBehind 0 text))) htext
        exact ⟨_, t, hrun, hsent⟩
      case getPagingInfo =>
        have hsends := not_not.mp hfails
        have hmessage : ∀ byte : UInt8, ∃ status t,
            handleMessage message messageLength firmware
              (s.withBuffers (leftBehind byte [])) = some (status, t) ∧
            (sentBytes t.trace)[(sentBytes s.trace).length + (12 + paddingOffset)]? =
              some byte := by
          intro byte
          obtain ⟨status, t, hrun, hbyte⟩ := shows_handleGetPagingInfo hdelivers
            (s := onStack firmware (s.withBuffers (leftBehind byte [])))
            ⟨hsends.long, hsends.passes, hsends.accepted⟩ rfl
          have hdispatch : dispatch (message.u32 1) (message.shift 8) (messageLength - 8) firmware
              (onStack firmware (s.withBuffers (leftBehind byte []))) = some (status, t) := by
            simp only [dispatch, hrequest]
            exact hrun
          exact ⟨.success, t, handleMessage_of_dispatch haccepted hdispatch, hbyte⟩
        have hempty : ∀ byte, (leftBehind byte []).Terminated := fun _ => Nat.zero_lt_succ _
        apply not_uniform (hempty 0) (hempty 1) (fun bytes =>
          bytes[(sentBytes s.trace).length + (12 + paddingOffset)]? = some 0) (hmessage 0) _
          huniform
        obtain ⟨status, t, hrun, hbyte⟩ := hmessage 1
        refine ⟨status, t, hrun, ?_⟩
        rw [hbyte]
        decide
      all_goals exact hfails trivial

end Leaks

/-- The requests whose reply is written by their handler are exactly those whose
reply does not tell about earlier requests; those are safe even if sends fail. -/
theorem uniform_iff_repliesFresh {firmware : Firmware} {message : Memory}
    {messageLength : UInt64} {s : Server}
    (haccepted : messageStatus message messageLength.toNat = .success)
    (hinside : CountsInside firmware s) :
    (RepliesFresh firmware (requestOf (message.u32 1)) (message.shift 8) (messageLength - 8)
        (onStack firmware s) → Uniform firmware message messageLength s) ∧
      (firmware.Delivers → Uniform firmware message messageLength s →
        RepliesFresh firmware (requestOf (message.u32 1)) (message.shift 8)
          (messageLength - 8) (onStack firmware s)) :=
  ⟨uniform_of_fresh haccepted hinside, fun hdelivers huniform =>
    fresh_of_uniform hdelivers haccepted huniform⟩

theorem countsInside_idleServer : CountsInside loopback idleServer where
  ibs _ _ := UInt64.zero_le
  dsm _ _ := UInt64.zero_le
  stores coreId store hstore := absurd hstore (not_stores_loopback coreId store)

theorem uniform_iff_repliesFresh_ping : Uniform loopback pingMessage 14 idleServer :=
  (uniform_iff_repliesFresh rfl countsInside_idleServer).1 trivial

/-- REBOOT without its options. -/
def shortRebootMessage : Memory :=
  Memory.write (fun _ => 0) 0 [1, 0, 0, 0, 0x21, 0, 0, 0]

/-- The text of the rejection is what is left in `FormatBuffer`. -/
theorem not_uniform_shortReboot : ¬ Uniform loopback shortRebootMessage 8 idleServer := by
  intro huniform
  have hshort : ¬ (4 : UInt64) ≤ 8 - 8 := by decide
  exact hshort (fresh_of_uniform delivers_loopback rfl huniform)

end Handlers

end AngryUefi
