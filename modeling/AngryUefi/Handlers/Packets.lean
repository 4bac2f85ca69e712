import AngryUefi.Handlers.Emits
import AngryUefi.Asr.Copying

/-!
# Captured events in packets

What GETIBSBUFFER and GETDSMBUFFER send when the events of the core stay what
they are: the packets follow each other through the events.
-/

namespace AngryUefi.Handlers

open AngryUefi.Bytes AngryUefi.Framing AngryUefi.Programs AngryUefi.Slices

variable {firmware : Firmware} {s t : Server}

/-! ## Looking at a core -/

/-- Nothing of what is to be sent has changed. -/
structure Looked (core : ℕ) (s t : Server) : Prop where
  capture : (s.machine.contexts core).SameCapture (t.machine.contexts core)
  present : (t.machine.contexts core).present = (s.machine.contexts core).present
  started : (s.machine.contexts core).started = 1 → (t.machine.contexts core).started = 1
  payloadBuffer : t.payloadBuffer = s.payloadBuffer
  trace : t.trace = s.trace

theorem flags_runProcessors (choices : List (ℕ × ApChoice)) (m : Machine) (core : ℕ) :
    ((m.runProcessors choices).contexts core).present = (m.contexts core).present ∧
      ((m.contexts core).started = 1 →
        ((m.runProcessors choices).contexts core).started = 1) := by
  induction choices generalizing m with
  | nil => exact ⟨rfl, id⟩
  | cons choice choices ih =>
      obtain ⟨hpresent, hstarted⟩ :=
        ih ((m.step .twoStep (.ap choice.1 choice.2)).getD m)
      rw [Machine.runProcessors, hpresent]
      cases hstep : m.step .twoStep (.ap choice.1 choice.2) with
      | none =>
          rw [hstep] at hstarted
          exact ⟨rfl, hstarted⟩
      | some next =>
          rw [hstep] at hstarted
          have hflags : (m.contexts core).ApFlags (next.contexts core) := by
            simp only [Machine.step, Option.ite_none_right_eq_some,
              Option.map_eq_some_iff] at hstep
            obtain ⟨-, p, hp, rfl⟩ := hstep
            by_cases hcore : core = choice.1
            · subst hcore
              have hpair := Pair.apFlags_apStep hp
              rw [Machine.pair_context] at hpair
              simpa only [Machine.put, Function.update_self] using hpair
            · simpa only [Machine.put, Function.update_of_ne hcore] using .rfl
          exact ⟨hflags.present, hstarted ∘ hflags.started⟩

theorem contextOf_looked {coreId : UInt64} (hleaves : firmware.LeavesEvents coreId.toNat)
    (s : Server) :
    ∃ t, contextOf coreId firmware s = some (t.machine.contexts coreId.toNat, t) ∧
      Looked coreId.toNat s t := by
  refine ⟨lookedAt firmware coreId s, contextOf_run firmware coreId s, ?_⟩
  obtain ⟨hpresent, hstarted⟩ :=
    flags_runProcessors (firmware.schedule s.clock) s.machine coreId.toNat
  exact ⟨sameCapture_runProcessors hleaves _ _, hpresent, hstarted, rfl, rfl⟩

/-- What a look at the context shows of its events. -/
structure ShowsEvents (stored : CoreContext → UInt64) (bytesAt : CoreContext → UInt64 → List UInt8)
    (count : UInt64) (entryAt : ℕ → List UInt8) (context : CoreContext) : Prop where
  stored_eq : ∀ after, context.SameCapture after → stored after = count
  bytesAt_eq : ∀ after, context.SameCapture after →
    ∀ index, bytesAt after index = entryAt index.toNat

variable {stored : CoreContext → UInt64} {bytesAt : CoreContext → UInt64 → List UInt8}
  {count : UInt64} {entryAt : ℕ → List UInt8} {coreId : UInt64}

theorem ShowsEvents.of_capture {before after : CoreContext}
    (hshows : ShowsEvents stored bytesAt count entryAt before)
    (hcapture : before.SameCapture after) :
    ShowsEvents stored bytesAt count entryAt after :=
  ⟨fun later hlater => hshows.stored_eq later (hcapture.trans hlater),
    fun later hlater => hshows.bytesAt_eq later (hcapture.trans hlater)⟩

/-- The loop of the handlers' copy routine, event by event. -/
theorem flatMap_range_eq (entryAt : ℕ → List UInt8) (startIndex endIndex : UInt64) :
    ((List.range (endIndex.toNat - startIndex.toNat)).flatMap fun offset =>
        entryAt (startIndex + UInt64.ofNat offset).toNat) =
      (List.range' startIndex.toNat (endIndex.toNat - startIndex.toNat)).flatMap entryAt := by
  rw [List.range'_eq_map_range, List.flatMap_map]
  apply List.flatMap_congr
  intro offset hoffset
  have hinside := List.mem_range.mp hoffset
  have hend := endIndex.toNat_lt
  rw [UInt64.toNat_add, UInt64.toNat_ofNat', Nat.mod_eq_of_lt (by omega : offset < 2 ^ 64),
    Nat.mod_eq_of_lt (by omega)]

/-- What the copy routine leaves behind for the handler. -/
structure Copied (core : ℕ) (payloadBuffer : Memory) (s t : Server) : Prop where
  capture : (s.machine.contexts core).SameCapture (t.machine.contexts core)
  payloadBuffer : t.payloadBuffer = payloadBuffer
  trace : t.trace = s.trace

/-- For the handlers, the copy routine works on the payload buffer. -/
theorem copyEntries_run (hleaves : firmware.LeavesEvents coreId.toNat)
    (hsize : ∀ index, (entryAt index).length = 16)
    (hshows : ShowsEvents stored bytesAt count entryAt (s.machine.contexts coreId.toNat))
    (target : ℕ) (startIndex entryCount : UInt64) :
    ∃ t, copyEntries stored bytesAt coreId target startIndex entryCount firmware s =
        some ((Asr.copyEvents count entryAt target startIndex entryCount s.payloadBuffer).1, t) ∧
      Copied coreId.toNat
        (Asr.copyEvents count entryAt target startIndex entryCount s.payloadBuffer).2 s t := by
  have hcopy : ∀ (middle : Server) (endIndex : UInt64),
      Copied coreId.toNat s.payloadBuffer s middle → ∃ t,
        (do let context ← contextOf coreId
            copyToPayload target
              ((List.range (endIndex.toNat - startIndex.toNat)).flatMap fun offset =>
                bytesAt context (startIndex + UInt64.ofNat offset))
            return endIndex - startIndex : Handler UInt64) firmware middle =
          some (endIndex - startIndex, t) ∧
        Copied coreId.toNat (Asr.copyLoop entryAt endIndex startIndex target s.payloadBuffer)
          s t := by
    intro middle endIndex hmiddle
    obtain ⟨last, hlast, hlooked⟩ := contextOf_looked hleaves middle
    have hcapture := hmiddle.capture.trans hlooked.capture
    rw [bind_of_eq_some hlast]
    refine ⟨_, rfl, hcapture, ?_, hlooked.trace.trans hmiddle.trace⟩
    change last.payloadBuffer.write target _ = _
    simp only [hshows.bytesAt_eq _ hcapture, flatMap_range_eq]
    rw [Asr.copyLoop_eq hsize, hlooked.payloadBuffer, hmiddle.payloadBuffer]
  obtain ⟨first, hfirst, hlooked⟩ := contextOf_looked hleaves s
  rw [copyEntries, bind_of_eq_some hfirst, Asr.copyEvents, hshows.stored_eq _ hlooked.capture]
  by_cases hstored : count ≤ startIndex
  · rw [if_pos hstored, if_pos hstored]
    exact ⟨first, rfl, hlooked.capture, hlooked.payloadBuffer, hlooked.trace⟩
  rw [if_neg hstored, if_neg hstored, minimum]
  obtain ⟨second, hsecond, hagain⟩ := contextOf_looked hleaves first
  have hcapture := hlooked.capture.trans hagain.capture
  rw [bind_of_eq_some hsecond, hshows.stored_eq _ hcapture]
  by_cases hshort : startIndex + entryCount < count
  · rw [if_pos hshort, if_pos hshort]
    exact hcopy second _ ⟨hcapture, hagain.payloadBuffer.trans hlooked.payloadBuffer,
      hagain.trace.trans hlooked.trace⟩
  · rw [if_neg hshort, if_neg hshort]
    obtain ⟨third, hthird, hlast⟩ := contextOf_looked hleaves second
    have hcaptureLast := hcapture.trans hlast.capture
    have hmap : (stored <$> contextOf coreId : Handler UInt64) firmware second =
        some (count, third) := by
      rw [map_eq_pure_bind, bind_of_eq_some hthird, hshows.stored_eq _ hcaptureLast]
      rfl
    rw [bind_of_eq_some hmap]
    exact hcopy third _ ⟨hcaptureLast,
      (hlast.payloadBuffer.trans hagain.payloadBuffer).trans hlooked.payloadBuffer,
      (hlast.trace.trans hagain.trace).trans hlooked.trace⟩

/-! ## The packets -/

/-- Messages one after the other, the last of them marked as such. -/
def sentPackets (messageType : MessageType) : List (List UInt8) → List Event
  | [] => []
  | payload :: rest =>
      .constructed messageType.code payload rest.isEmpty ::
        .sent (frame (messageBody messageType.code payload rest.isEmpty)) ::
          sentPackets messageType rest

/-- Behind the head of a packet: how many events it has, and the events. -/
def packetBytes (head : List UInt8) (entryAt : ℕ → List UInt8) (indices : List ℕ) :
    List UInt8 :=
  head ++ (littleEndian 8 indices.length ++ indices.flatMap entryAt)

theorem length_flatMap_entries (hsize : ∀ index, (entryAt index).length = 16)
    (indices : List ℕ) : (indices.flatMap entryAt).length = 16 * indices.length := by
  induction indices with
  | nil => rfl
  | cons index indices ih =>
      rw [List.flatMap_cons, List.length_append, hsize, ih, List.length_cons]
      omega

/-- A packet in the payload buffer. -/
theorem read_packet (hsize : ∀ index, (entryAt index).length = 16) (memory : Memory)
    (countIndex : ℕ) (indices : List ℕ) :
    ((memory.write (8 * countIndex + 8) (indices.flatMap entryAt)).write (8 * countIndex)
        (littleEndian 8 indices.length)).read 0 (8 * countIndex + 8 + 16 * indices.length) =
      packetBytes (memory.read 0 (8 * countIndex)) entryAt indices := by
  have hcount := length_littleEndian 8 indices.length
  have hevents := length_flatMap_entries hsize indices
  rw [Memory.read_add, Memory.read_add, packetBytes, List.append_assoc]
  congr 1
  · rw [Memory.read_write_of_disjoint _ (.inl (by omega)),
      Memory.read_write_of_disjoint _ (.inl (by omega))]
  · rw [Nat.zero_add, Nat.zero_add]
    congr 1
    · have hread := Memory.read_write
        (memory.write (8 * countIndex + 8) (indices.flatMap entryAt)) (8 * countIndex)
        (littleEndian 8 indices.length)
      rwa [hcount] at hread
    · rw [Memory.read_write_of_disjoint _ (.inr (by omega))]
      have hread := Memory.read_write memory (8 * countIndex + 8) (indices.flatMap entryAt)
      rwa [hevents] at hread

/-- A packet of the slice: what is copied, and what is left. -/
theorem copyEvents_packet (hsize : ∀ index, (entryAt index).length = 16)
    {startIndex eventsToSend : UInt64}
    (hinside : startIndex.toNat + eventsToSend.toNat ≤ count.toNat) (target : ℕ)
    (memory : Memory) :
    Asr.copyEvents count entryAt target startIndex (minimum maxEventsPerPacket eventsToSend)
        memory =
      (minimum maxEventsPerPacket eventsToSend, memory.write target
        ((List.range' startIndex.toNat
          (minimum maxEventsPerPacket eventsToSend).toNat).flatMap entryAt)) := by
  have hbelow := count.toNat_lt
  have hpacket : (minimum maxEventsPerPacket eventsToSend).toNat ≤ eventsToSend.toNat := by
    rw [toNat_minimum]
    exact Nat.min_le_right _ _
  obtain ⟨hreturned, hwritten⟩ := (Asr.copiesSlice_copyEvents_iff hsize count target startIndex
    (minimum maxEventsPerPacket eventsToSend) memory).mpr fun hwraps => by
      have := hwraps.2
      omega
  have hmin : min (minimum maxEventsPerPacket eventsToSend).toNat
      (count.toNat - startIndex.toNat) = (minimum maxEventsPerPacket eventsToSend).toNat := by
    omega
  rw [length_slice, hmin] at hreturned
  rw [slice_eq_range', hmin] at hwritten
  exact Prod.ext (UInt64.toNat_inj.mp hreturned) hwritten

theorem copyEntries_packet (hleaves : firmware.LeavesEvents coreId.toNat)
    (hsize : ∀ index, (entryAt index).length = 16)
    (hshows : ShowsEvents stored bytesAt count entryAt (s.machine.contexts coreId.toNat))
    {startIndex eventsToSend : UInt64}
    (hinside : startIndex.toNat + eventsToSend.toNat ≤ count.toNat) (target : ℕ) :
    ∃ t, copyEntries stored bytesAt coreId target startIndex
          (minimum maxEventsPerPacket eventsToSend) firmware s =
        some (minimum maxEventsPerPacket eventsToSend, t) ∧
      Copied coreId.toNat (s.payloadBuffer.write target
        ((List.range' startIndex.toNat
          (minimum maxEventsPerPacket eventsToSend).toNat).flatMap entryAt)) s t := by
  have hrun := copyEntries_run hleaves hsize hshows target startIndex
    (minimum maxEventsPerPacket eventsToSend)
  rwa [copyEvents_packet hsize hinside] at hrun

/-- Packets that follow each other through the events at these indices. -/
structure Packets (indices : List ℕ) (packets : List (List ℕ)) : Prop where
  flatten : packets.flatten = indices
  nonempty : ∀ packet ∈ packets, packet ≠ []
  bounded : ∀ packet ∈ packets, packet.length ≤ 64

theorem Packets.eq_nil_iff {indices : List ℕ} {packets : List (List ℕ)}
    (hpackets : Packets indices packets) : packets = [] ↔ indices = [] := by
  constructor
  · rintro rfl
    exact hpackets.flatten.symm
  · intro hindices
    have hflatten := hpackets.flatten.trans hindices
    cases packets with
    | nil => rfl
    | cons packet rest =>
        rw [List.flatten_cons, List.append_eq_nil_iff] at hflatten
        exact absurd hflatten.1 (hpackets.nonempty packet List.mem_cons_self)

theorem Packets.cons {indices packet : List ℕ} {packets : List (List ℕ)}
    (hpackets : Packets indices packets) (hpacket : packet ≠ []) (hlength : packet.length ≤ 64) :
    Packets (packet ++ indices) (packet :: packets) where
  flatten := by rw [List.flatten_cons, hpackets.flatten]
  nonempty := List.forall_mem_cons.mpr ⟨hpacket, hpackets.nonempty⟩
  bounded := List.forall_mem_cons.mpr ⟨hlength, hpackets.bounded⟩

/-- The state behind a packet of so many events. -/
def packetSent (messageType : MessageType) (countIndex : ℕ) (responseSize entriesCopied : UInt64)
    (lastMessage : Bool) (s : Server) : Server :=
  let payloadBuffer :=
    s.payloadBuffer.write (8 * countIndex) (littleEndian 8 entriesCopied.toNat)
  let payload := payloadBuffer.read 0 responseSize.toNat
  { s with
    payloadBuffer
    responseBuffer := writeMessage s.responseBuffer messageType.code payload lastMessage
    clock := s.clock + 1
    trace := s.trace ++ [.constructed messageType.code payload lastMessage,
      .sent (frame (messageBody messageType.code payload lastMessage))] }

/-- A packet that fits is counted and sent. -/
theorem packet_delivered (hdelivers : firmware.Delivers)
    (report : String → EfiStatus → Handler Unit) (messageType : MessageType) (countIndex : ℕ)
    {responseSize : UInt64} (entriesCopied : UInt64) (lastMessage : Bool) (s : Server)
    (hfits : responseSize.toNat ≤ 1400) :
    ∃ counted, putPayload64 countIndex entriesCopied firmware s = some ((), counted) ∧
      respondPayload report messageType responseSize (responseSize + headerSize)
          lastMessage firmware counted =
        some (.success,
          packetSent messageType countIndex responseSize entriesCopied lastMessage s) := by
  obtain ⟨counted, hcounted⟩ : ∃ counted : Server, counted = { s with
      payloadBuffer := s.payloadBuffer.write (8 * countIndex)
        (littleEndian 8 entriesCopied.toNat) } := ⟨_, rfl⟩
  have hrespond := respond_delivered hdelivers report messageType
    counted.payloadBuffer hfits (sizeMatches_add _) lastMessage counted
  refine ⟨counted, ?_, ?_⟩
  · rw [hcounted]
    rfl
  · rw [hcounted] at hrespond ⊢
    exact hrespond

/-- One packet, whatever the copy routine does. -/
theorem sendEvents_step (hdelivers : firmware.Delivers)
    {copy : ℕ → UInt64 → UInt64 → Handler UInt64} (messageType : MessageType)
    (countIndex : ℕ) {minResponseSize : UInt64} (patience : ℕ)
    {startIndex eventsToSend entriesCopied : UInt64} {copied : Server}
    (hevents : eventsToSend ≠ 0)
    (hcopy : copy minResponseSize.toNat startIndex (minimum maxEventsPerPacket eventsToSend)
      firmware s = some (entriesCopied, copied))
    (hfits : (minResponseSize + entriesCopied * eventSize).toNat ≤ 1400) :
    sendEvents copy messageType countIndex minResponseSize (patience + 1) startIndex
        eventsToSend firmware s =
      sendEvents copy messageType countIndex minResponseSize patience
        (startIndex + entriesCopied) (eventsLeft eventsToSend entriesCopied) firmware
        (packetSent messageType countIndex (minResponseSize + entriesCopied * eventSize)
          entriesCopied (eventsLeft eventsToSend entriesCopied == 0) copied) := by
  obtain ⟨counted, hput, hpayload⟩ := packet_delivered hdelivers printStatusDebug
    messageType countIndex entriesCopied (eventsLeft eventsToSend entriesCopied == 0) copied hfits
  rw [sendEvents, if_neg hevents, bind_of_eq_some hcopy, bind_of_eq_some hput,
    bind_of_eq_some hpayload]
  rfl

/-- The packets lead through the slice. -/
theorem sendEvents_packets (hdelivers : firmware.Delivers)
    (hleaves : firmware.LeavesEvents coreId.toNat)
    (hsize : ∀ index, (entryAt index).length = 16) (messageType : MessageType)
    (countIndex : ℕ) (minResponseSize : UInt64) (hcount : countIndex ≤ 7)
    (hmin : minResponseSize.toNat = 8 * countIndex + 8) (patience : ℕ)
    (startIndex eventsToSend : UInt64)
    (hshows : ShowsEvents stored bytesAt count entryAt (s.machine.contexts coreId.toNat))
    (hinside : startIndex.toNat + eventsToSend.toNat ≤ count.toNat)
    (hpatience : (eventsToSend.toNat + 63) / 64 < patience) :
    ∃ t packets,
      sendEvents (copyEntries stored bytesAt coreId) messageType countIndex minResponseSize
          patience startIndex eventsToSend firmware s = some (.success, t) ∧
        Packets (List.range' startIndex.toNat eventsToSend.toNat) packets ∧
        t.trace = s.trace ++ sentPackets messageType (packets.map
          (packetBytes (s.payloadBuffer.read 0 (8 * countIndex)) entryAt)) := by
  induction patience generalizing startIndex eventsToSend s with
  | zero => omega
  | succ patience ih =>
      by_cases hevents : eventsToSend = 0
      · subst hevents
        exact ⟨s, [], rfl, ⟨rfl, nofun, nofun⟩, (List.append_nil _).symm⟩
      obtain ⟨packet, hpacket⟩ :
          ∃ packet, packet = minimum maxEventsPerPacket eventsToSend := ⟨_, rfl⟩
      have hpacketSize : packet.toNat = min 64 eventsToSend.toNat := by
        rw [hpacket, toNat_minimum]
        rfl
      have hpositive : 0 < eventsToSend.toNat :=
        Nat.pos_of_ne_zero fun hzero => hevents (UInt64.toNat_inj.mp hzero)
      have hle : packet ≤ eventsToSend := UInt64.le_iff_toNat_le.mpr (by omega)
      have hleft : (eventsLeft eventsToSend packet).toNat =
          eventsToSend.toNat - packet.toNat := by
        rw [eventsLeft, if_pos hle, UInt64.toNat_sub_of_le _ _ hle]
      have hbelow := count.toNat_lt
      have hstart : (startIndex + packet).toNat = startIndex.toNat + packet.toNat := by
        rw [UInt64.toNat_add]
        omega
      have hfits : (minResponseSize + packet * eventSize).toNat =
          8 * countIndex + 8 + 16 * packet.toNat := by
        have hevent : eventSize.toNat = 16 := rfl
        rw [UInt64.toNat_add, UInt64.toNat_mul, hevent]
        omega
      obtain ⟨copied, hcopy, hcopied⟩ := copyEntries_packet hleaves hsize hshows
        hinside minResponseSize.toNat
      have hstep := sendEvents_step hdelivers messageType countIndex patience hevents hcopy
        (by rw [← hpacket]; omega)
      rw [← hpacket] at hstep hcopied
      obtain ⟨sent, hsent⟩ : ∃ sent, sent = packetSent messageType countIndex
          (minResponseSize + packet * eventSize) packet (eventsLeft eventsToSend packet == 0)
          copied := ⟨_, rfl⟩
      rw [← hsent] at hstep
      have hshowsSent : ShowsEvents stored bytesAt count entryAt
          (sent.machine.contexts coreId.toNat) := by
        rw [hsent]
        exact hshows.of_capture hcopied.capture
      have hindices : (List.range' startIndex.toNat packet.toNat).length = packet.toNat :=
        List.length_range'
      have hbytes : (copied.payloadBuffer.write (8 * countIndex)
            (littleEndian 8 packet.toNat)).read 0 (8 * countIndex + 8 + 16 * packet.toNat) =
          packetBytes (s.payloadBuffer.read 0 (8 * countIndex)) entryAt
            (List.range' startIndex.toNat packet.toNat) := by
        have hread := read_packet hsize s.payloadBuffer countIndex
          (List.range' startIndex.toNat packet.toNat)
        rw [hindices] at hread
        rw [← hread, hcopied.payloadBuffer, hmin]
      have hhead : sent.payloadBuffer.read 0 (8 * countIndex) =
          s.payloadBuffer.read 0 (8 * countIndex) := by
        have hcopiedHead : copied.payloadBuffer.read 0 (8 * countIndex) =
            s.payloadBuffer.read 0 (8 * countIndex) := by
          rw [hcopied.payloadBuffer, Memory.read_write_of_disjoint _ (.inl (by omega))]
        rw [hsent, ← hcopiedHead]
        exact Memory.read_write_of_disjoint _ (.inl (by omega))
      obtain ⟨t, packets, hrest, hpackets, htrace⟩ := ih (startIndex + packet)
        (eventsLeft eventsToSend packet) hshowsSent (by omega) (by omega)
      have hlast : (eventsLeft eventsToSend packet == 0) = packets.isEmpty := by
        rw [Bool.eq_iff_iff, beq_iff_eq, List.isEmpty_iff, hpackets.eq_nil_iff,
          List.range'_eq_nil_iff, ← UInt64.toNat_inj]
        rfl
      refine ⟨t, List.range' startIndex.toNat packet.toNat :: packets, hstep.trans hrest,
        ?_, ?_⟩
      · have hnonempty : List.range' startIndex.toNat packet.toNat ≠ [] := by
          rw [Ne, List.range'_eq_nil_iff]
          omega
        have hnext := hpackets.cons hnonempty (by omega)
        rw [hstart, hleft, List.range'_append_1] at hnext
        rwa [Nat.add_sub_cancel' (by omega)] at hnext
      · rw [htrace, hhead, hsent, List.map_cons, sentPackets, List.isEmpty_map, ← hlast]
        simp only [packetSent, hfits, hbytes, hcopied.trace, List.append_assoc,
          List.cons_append, List.nil_append]

/-! ## GETIBSBUFFER -/

theorem Looked.trans {core : ℕ} {middle : Server} (hfirst : Looked core s middle)
    (hsecond : Looked core middle t) : Looked core s t :=
  ⟨hfirst.capture.trans hsecond.capture, hsecond.present.trans hfirst.present,
    hsecond.started ∘ hfirst.started, hsecond.payloadBuffer.trans hfirst.payloadBuffer,
    hsecond.trace.trans hfirst.trace⟩

/-- A core that handlers read from. -/
structure Readable (coreId : UInt64) (s : Server) : Prop where
  inRange : coreId < maxCoreCount
  present : (s.machine.contexts coreId.toNat).present = 1
  started : (s.machine.contexts coreId.toNat).started = 1

theorem checkCoreId_looked (hleaves : firmware.LeavesEvents coreId.toNat)
    (hreadable : Readable coreId s) :
    ∃ t, Looked coreId.toNat s t ∧
      ∀ proceed, checkCoreId coreId proceed firmware s = proceed firmware t := by
  obtain ⟨first, hfirst, hlooked⟩ := contextOf_looked hleaves s
  obtain ⟨second, hsecond, hagain⟩ := contextOf_looked hleaves first
  have hpresent : ¬ (first.machine.contexts coreId.toNat).present ≠ 1 :=
    not_not.mpr (hlooked.present.trans hreadable.present)
  have hstarted : ¬ (second.machine.contexts coreId.toNat).started ≠ 1 :=
    not_not.mpr (hagain.started (hlooked.started hreadable.started))
  refine ⟨second, hlooked.trans hagain, fun proceed => ?_⟩
  rw [checkCoreId, if_neg (UInt64.not_le.mpr hreadable.inRange), bind_of_eq_some hfirst,
    if_neg hpresent, bind_of_eq_some hsecond, if_neg hstarted]

/-- The words of a packet before the number of its events. -/
def ibsHead : Option IBSControl → List UInt64
  | none => [0, 0, 0]
  | some control => [1, control.currentPosition, maxIbsEntries]

def wordBytes (words : List UInt64) : List UInt8 :=
  words.flatMap fun word => littleEndian 8 word.toNat

theorem length_wordBytes (words : List UInt64) :
    (wordBytes words).length = 8 * words.length := by
  induction words with
  | nil => rfl
  | cons word words ih =>
      rw [wordBytes, List.flatMap_cons, List.length_append, length_littleEndian,
        List.length_cons]
      change 8 + (wordBytes words).length = _
      omega

/-- How many events a count stands for. -/
def requested (entryCount storedEvents : UInt64) : ℕ :=
  if entryCount = 0 then storedEvents.toNat else entryCount.toNat

/-- The events at these indices are sent, in packets that fit the buffers. -/
def SendsEvents (messageType : MessageType) (packetOf : List ℕ → List UInt8)
    (indices : List ℕ) (s t : Server) : Prop :=
  ∃ packets : List (List ℕ), packets ≠ [] ∧ packets.flatten = indices ∧
    t.trace = s.trace ++ sentPackets messageType (packets.map packetOf) ∧
    ∀ packet ∈ packets, packet.length ≤ 64 ∧ (packetOf packet).length ≤ 1400 ∧
      (packetOf packet).length + 12 ≤ responseBufferSize.toNat

theorem SendsEvents.of_trace {messageType : MessageType} {packetOf : List ℕ → List UInt8}
    {indices : List ℕ} {middle : Server}
    (hsends : SendsEvents messageType packetOf indices middle t)
    (htrace : middle.trace = s.trace) : SendsEvents messageType packetOf indices s t := by
  obtain ⟨packets, hpackets, hflatten, hsent, hbounded⟩ := hsends
  exact ⟨packets, hpackets, hflatten, by rw [hsent, htrace], hbounded⟩

variable (entryAt) in
/-- A message without events. -/
theorem respondPayload_empty (hdelivers : firmware.Delivers) (messageType : MessageType)
    {head : List UInt8} (responseSize : UInt64)
    (hhead : s.payloadBuffer.read 0 responseSize.toNat = head ++ littleEndian 8 0)
    (hsize : responseSize.toNat ≤ 1400) :
    ∃ t, respondPayload printStatusDebug messageType responseSize (responseSize + headerSize)
        true firmware s = some (.success, t) ∧
      SendsEvents messageType (packetBytes head entryAt) [] s t := by
  have hsend := respond_delivered hdelivers printStatusDebug messageType s.payloadBuffer hsize
    (sizeMatches_add _) true s
  have hempty : packetBytes head entryAt [] = head ++ littleEndian 8 0 := by
    rw [packetBytes]
    simp only [List.length_nil, List.flatMap_nil, List.append_nil]
  have hlength := congrArg List.length hhead
  rw [Memory.length_read, ← hempty] at hlength
  rw [hhead, ← hempty] at hsend
  refine ⟨_, hsend, [[]], nofun, rfl, rfl, ?_⟩
  have hbuffer : responseBufferSize.toNat = 1412 := rfl
  rw [List.forall_mem_singleton, ← hlength]
  exact ⟨Nat.zero_le _, hsize, by omega⟩

/-- The packets of a slice that is not empty. -/
theorem Packets.sendsEvents {indices : List ℕ} {packets : List (List ℕ)} {head : List UInt8}
    (hpackets : Packets indices packets) (hindices : indices ≠ []) (messageType : MessageType)
    (hsize : ∀ index, (entryAt index).length = 16) (hhead : head.length ≤ 56)
    (htrace : t.trace = s.trace ++
      sentPackets messageType (packets.map (packetBytes head entryAt))) :
    SendsEvents messageType (packetBytes head entryAt) indices s t := by
  refine ⟨packets, fun hnil => hindices (hpackets.eq_nil_iff.mp hnil), hpackets.flatten, htrace,
    fun packet hpacket => ?_⟩
  have hbound := hpackets.bounded packet hpacket
  have hlength : (packetBytes head entryAt packet).length =
      head.length + (8 + 16 * packet.length) := by
    rw [packetBytes, List.length_append, List.length_append, length_littleEndian,
      length_flatMap_entries hsize]
  have hbuffer : responseBufferSize.toNat = 1412 := rfl
  exact ⟨hbound, by omega, by omega⟩

theorem toNat_orAll (entryCount storedEvents : UInt64) :
    (orAll entryCount storedEvents).toNat = requested entryCount storedEvents := by
  rw [orAll, requested]
  split <;> rfl

/-- How far the requested slice reaches. -/
theorem toNat_eventsToSend {storedEvents startIndex : UInt64} (entryCount : UInt64)
    (hstart : ¬ storedEvents ≤ startIndex) :
    (minimum (orAll entryCount storedEvents) (storedEvents - startIndex)).toNat =
      min (startIndex.toNat + requested entryCount storedEvents) storedEvents.toNat -
        startIndex.toNat := by
  have hless := UInt64.not_le.mp hstart
  have hbelow := UInt64.lt_iff_toNat_lt.mp hless
  rw [toNat_minimum, toNat_orAll, UInt64.toNat_sub_of_le _ _ (UInt64.le_of_lt hless)]
  omega

/-- Where the handler finds nothing to send, the slice is empty. -/
theorem slice_eq_nil_of_refused {storedEvents startIndex entryCount : UInt64}
    (hnothing : storedEvents ≤ startIndex ∨ orAll entryCount storedEvents = 0 ∨
      minimum (orAll entryCount storedEvents) (storedEvents - startIndex) = 0) :
    min (startIndex.toNat + requested entryCount storedEvents) storedEvents.toNat -
      startIndex.toNat = 0 := by
  by_cases hstart : storedEvents ≤ startIndex
  · have := UInt64.le_iff_toNat_le.mp hstart
    omega
  rw [← toNat_eventsToSend entryCount hstart]
  rcases hnothing with hstored | hcount | hevents
  · exact absurd hstored hstart
  · rw [toNat_minimum, hcount]
    exact Nat.zero_min _
  · rw [hevents]
    rfl

/-- Four words from the start of the payload buffer on. -/
def headed (first second third fourth : UInt64) (s : Server) : Server :=
  { s with
    payloadBuffer := (((s.payloadBuffer.write 0 (littleEndian 8 first.toNat)).write 8
      (littleEndian 8 second.toNat)).write 16 (littleEndian 8 third.toNat)).write 24
        (littleEndian 8 fourth.toNat) }

theorem headed_run (first second third fourth : UInt64) (rest : Handler EfiStatus) (s : Server) :
    (do putPayload64 0 first
        putPayload64 1 second
        putPayload64 2 third
        putPayload64 3 fourth
        rest) firmware s = rest firmware (headed first second third fourth s) := rfl

theorem read_headed (first second third fourth : UInt64) (s : Server) :
    (headed first second third fourth s).payloadBuffer.read 0 32 =
      wordBytes [first, second, third] ++ littleEndian 8 fourth.toNat := by
  have hfirst := Memory.write_write_append s.payloadBuffer 0 (littleEndian 8 first.toNat)
    (littleEndian 8 second.toNat)
  have hsecond := Memory.write_write_append s.payloadBuffer 0
    (littleEndian 8 first.toNat ++ littleEndian 8 second.toNat) (littleEndian 8 third.toNat)
  have hthird := Memory.write_write_append s.payloadBuffer 0
    (littleEndian 8 first.toNat ++ littleEndian 8 second.toNat ++ littleEndian 8 third.toNat)
    (littleEndian 8 fourth.toNat)
  simp only [List.length_append, length_littleEndian, Nat.zero_add] at hfirst hsecond hthird
  have hread := Memory.read_write s.payloadBuffer 0 (littleEndian 8 first.toNat ++
    littleEndian 8 second.toNat ++ littleEndian 8 third.toNat ++ littleEndian 8 fourth.toNat)
  rw [← hthird, ← hsecond, ← hfirst] at hread
  simp only [List.length_append, length_littleEndian] at hread
  rw [headed, wordBytes]
  simp only [List.flatMap_cons, List.flatMap_nil, List.append_nil, ← List.append_assoc]
  exact hread

/-- The bytes of an event that the core has stored. -/
def ibsEntryAt (context : CoreContext) (index : ℕ) : List UInt8 :=
  match context.ibsControl with
  | none => []
  | some control => Asr.ibsEventBytes (control.eventBuffer index)

/-- Every look at the context shows these events. -/
theorem showsEvents_ibs (context : CoreContext) :
    ShowsEvents ibsPosition ibsEntry (ibsPosition context) (ibsEntryAt context) context where
  stored_eq after hcapture := ibsPosition_eq hcapture
  bytesAt_eq after hcapture index := by
    have hevents := hcapture.ibsEvents
    rw [ibsEntry, ibsEntryAt]
    cases hbefore : context.ibsControl <;> cases hafter : after.ibsControl
    · rfl
    · rw [hbefore, hafter] at hevents
      cases hevents
    · rw [hbefore, hafter] at hevents
      cases hevents
    · rw [hbefore, hafter] at hevents
      injection hevents with hpair
      injection hpair with hbuffer
      simp only [Asr.ibsEventBytes, hbuffer]

theorem length_ibsEntryAt {context : CoreContext} (hcontrol : context.ibsControl.isSome)
    (index : ℕ) : (ibsEntryAt context index).length = 16 := by
  rw [ibsEntryAt]
  cases hsome : context.ibsControl with
  | none =>
      rw [hsome] at hcontrol
      cases hcontrol
  | some control => exact Asr.length_ibsEventBytes _

/-- A packet of GETIBSBUFFER with the events at these indices. -/
def ibsPacket (context : CoreContext) : List ℕ → List UInt8 :=
  packetBytes (wordBytes (ibsHead context.ibsControl)) (ibsEntryAt context)

variable {payload : Memory} {payloadLength : UInt64}

/-- The indices of the events that are asked for and stored. -/
def requestedSlice (startIndex entryCount storedEvents : UInt64) : List ℕ :=
  List.range' startIndex.toNat
    (min (startIndex.toNat + requested entryCount storedEvents) storedEvents.toNat -
      startIndex.toNat)

/-- GETIBSBUFFER sends the events that are asked for, each of them once. -/
theorem getIbsBuffer_slice (hdelivers : firmware.Delivers)
    (hleaves : firmware.LeavesEvents (payload.u64 0).toNat) (hlong : 24 ≤ payloadLength)
    (hreadable : Readable (payload.u64 0) s) {context : CoreContext}
    (hcontext : context = s.machine.contexts (payload.u64 0).toNat)
    (hpatience : ((ibsPosition context).toNat + 63) / 64 < firmware.patience) :
    ∃ t, handleGetIbsBuffer payload payloadLength firmware s = some (.success, t) ∧
      SendsEvents .ibsBuffer (ibsPacket context)
        (requestedSlice (payload.u64 1) (payload.u64 2) (ibsPosition context)) s t := by
  obtain ⟨checked, hchecked, hcheck⟩ := checkCoreId_looked hleaves hreadable
  obtain ⟨first, hfirst, hlookedFirst⟩ :=
    contextOf_looked hleaves checked
  have hlooked := hchecked.trans hlookedFirst
  have hcapture := hlooked.capture
  rw [← hcontext] at hcapture
  have hsome : (first.machine.contexts (payload.u64 0).toNat).ibsControl.isNone =
      context.ibsControl.isNone := by
    have hevents := congrArg Option.isNone hcapture.ibsEvents
    rwa [Option.isNone_map, Option.isNone_map] at hevents
  have hlength : ¬ payloadLength < 3 * 8 := UInt64.not_lt.mpr hlong
  rw [handleGetIbsBuffer, if_neg hlength]
  dsimp only
  rw [hcheck, bind_of_eq_some hfirst, hsome]
  cases hcontrol : context.ibsControl with
  | none =>
      rw [if_pos Option.isNone_none, headed_run]
      obtain ⟨t, hrun, hsends⟩ := respondPayload_empty (ibsEntryAt context)
        hdelivers .ibsBuffer (4 * 8) (read_headed 0 0 0 0 first) (by decide)
      have hnothing : requestedSlice (payload.u64 1) (payload.u64 2) (ibsPosition context) =
          [] := by
        have hposition : ibsPosition context = 0 := by
          rw [ibsPosition, hcontrol]
          rfl
        rw [requestedSlice, hposition]
        have hzero : (0 : UInt64).toNat = 0 := rfl
        rw [hzero, Nat.min_zero, Nat.zero_sub, List.range'_zero]
      refine ⟨t, hrun, ?_⟩
      rw [hnothing, ibsPacket, hcontrol]
      exact hsends.of_trace hlooked.trace
  | some control =>
      rw [if_neg (by rw [Option.isNone_some]; decide)]
      obtain ⟨second, hsecond, hlookedSecond⟩ :=
        contextOf_looked hleaves first
      have hcaptureSecond := hcapture.trans hlookedSecond.capture
      have htraceSecond := hlookedSecond.trace.trans hlooked.trace
      rw [bind_of_eq_some hsecond, ibsPosition_eq hcaptureSecond, headed_run]
      obtain ⟨begun, hbegun⟩ : ∃ begun, begun =
        headed 1 (ibsPosition context) maxIbsEntries 0 second := ⟨_, rfl⟩
      have htraceBegun : begun.trace = s.trace := by rwa [hbegun]
      have hposition : ibsPosition context = control.currentPosition := by
        rw [ibsPosition, hcontrol]
        rfl
      have hread := read_headed 1 (ibsPosition context) maxIbsEntries 0 second
      rw [← hbegun] at hread ⊢
      have hhead : begun.payloadBuffer.read 0 (8 * 3) =
          wordBytes (ibsHead context.ibsControl) := by
        rw [hcontrol, ibsHead, ← hposition]
        exact (List.append_inj ((Memory.read_add _ 0 24 8).symm.trans hread)
          (by rw [Memory.length_read]; rfl)).1
      split
      · rename_i hnothing
        obtain ⟨t, hrun, hsends⟩ := respondPayload_empty (ibsEntryAt context)
          hdelivers .ibsBuffer (4 * 8) hread (by decide)
        refine ⟨t, hrun, ?_⟩
        rw [requestedSlice, slice_eq_nil_of_refused hnothing, List.range'_zero, ibsPacket,
          hcontrol, ibsHead, ← hposition]
        exact hsends.of_trace htraceBegun
      · rename_i hevents
        rw [not_or, not_or] at hevents
        have hsize : ∀ index, (ibsEntryAt context index).length = 16 :=
          length_ibsEntryAt (by rw [hcontrol]; rfl)
        have hcount := toNat_eventsToSend (payload.u64 2) hevents.1
        have hshows : ShowsEvents ibsPosition ibsEntry (ibsPosition context) (ibsEntryAt context)
            (begun.machine.contexts (payload.u64 0).toNat) := by
          rw [hbegun]
          exact (showsEvents_ibs context).of_capture hcaptureSecond
        have hbehind := UInt64.lt_iff_toNat_lt.mp (UInt64.not_le.mp hevents.1)
        obtain ⟨t, packets, hrun, hpackets, htrace⟩ := sendEvents_packets hdelivers hleaves hsize
          .ibsBuffer 3 (4 * 8) (by decide) rfl firmware.patience (payload.u64 1)
          (minimum (orAll (payload.u64 2) (ibsPosition context))
            (ibsPosition context - payload.u64 1)) hshows (by omega) (by omega)
        refine ⟨t, hrun, ?_⟩
        rw [hcount] at hpackets
        rw [hhead, htraceBegun] at htrace
        refine hpackets.sendsEvents ?_ .ibsBuffer hsize ?_ htrace
        · rw [Ne, List.range'_eq_nil_iff, ← hcount]
          exact fun hzero => hevents.2.2 (UInt64.toNat_inj.mp hzero)
        · rw [hcontrol, length_wordBytes]
          exact Nat.le_of_ble_eq_true rfl

/-- Three events are stored on core 1. -/
def sampledServer : Server :=
  { idleServer with
    machine := { Machine.afterInit with
      contexts := fun _ => { Pair.initContext with
        started := 1
        ibsControl := some ⟨fun index => ⟨UInt64.ofNat index, 0⟩, 3, 0⟩ } } }

/-- A request for all events of core 1 from the second one on. -/
def ibsRequest : Memory := (Memory.write (fun _ => 0) 0 (littleEndian 8 1)).write 8
  (littleEndian 8 1)

theorem getIbsBuffer_slice_sample :
    ∃ t, handleGetIbsBuffer ibsRequest 24 loopback sampledServer = some (.success, t) ∧
      SendsEvents .ibsBuffer (ibsPacket (sampledServer.machine.contexts 1)) [1, 2]
        sampledServer t := by
  have hreadable : Readable (ibsRequest.u64 0) sampledServer := ⟨by decide, rfl, rfl⟩
  exact getIbsBuffer_slice delivers_loopback (leavesEvents_loopback _) (by decide) hreadable rfl
    (by decide)

end AngryUefi.Handlers
