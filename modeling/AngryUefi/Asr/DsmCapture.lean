import AngryUefi.Handlers.Packets

/-!
# A debug capture and its way to the client

`store_dsm_capture` unrolls the ring of the debug array into the event buffer;
GETDSMBUFFER sends it in packets that repeat the file header.

The debug array is behind instructions that microcode replaces.  The model
takes them as a port and states what a capture relies on: a selector register,
an index, and a ring that nobody writes while it is read.
-/

namespace AngryUefi.Asr

open AngryUefi.Bytes AngryUefi.Programs AngryUefi.Handlers

def maximumDsmEntries : ℕ := 128

/-- `write_fenced_fptan` and `read_fenced_fpatan` -/
structure DebugPort (Device : Type) where
  writeFencedFptan : (register value : UInt64) → Device → Device
  readFencedFpatan : (register : UInt64) → Device → UInt64 × Device

/-- How the port reaches a ring of events: an index is written with selector
`0x80003001`, the halves of its entry are read with `0x3003` and `0x3002`, and
the word with the write position is read with `0x3000`. -/
structure DebugArray {Device : Type} (port : DebugPort Device) (ring : ℕ → DSMEvent)
    (indexWord : UInt64) where
  selector : Device → UInt64
  index : Device → UInt64
  selector_select : ∀ value device,
    selector (port.writeFencedFptan 0x03d0 value device) = value
  index_select : ∀ value device,
    index (port.writeFencedFptan 0x03d0 value device) = index device
  index_write : ∀ value device, selector device = 0x80003001 →
    index (port.writeFencedFptan 0x03d2 value device) = value
  index_read : ∀ device, index (port.readFencedFpatan 0x03d2 device).2 = index device
  data0_read : ∀ device, selector device = 0x3003 → (index device).toNat < maximumDsmEntries →
    (port.readFencedFpatan 0x03d2 device).1 = (ring (index device).toNat).data0
  data1_read : ∀ device, selector device = 0x3002 → (index device).toNat < maximumDsmEntries →
    (port.readFencedFpatan 0x03d2 device).1 = (ring (index device).toNat).data1
  indexWord_read : ∀ device, selector device = 0x3000 →
    (port.readFencedFpatan 0x03d2 device).1 = indexWord

section Capture

variable {Device : Type} (port : DebugPort Device)

/-- One iteration of the loop: the event at an index of the ring. -/
def readEntry (index : UInt64) (device : Device) : DSMEvent × Device :=
  let device := port.writeFencedFptan 0x03d0 0x80003001 device
  let device := port.writeFencedFptan 0x03d2 index device
  let device := port.writeFencedFptan 0x03d0 0x00003003 device
  let first := port.readFencedFpatan 0x03d2 device
  let device := port.writeFencedFptan 0x03d0 0x00003002 first.2
  let second := port.readFencedFpatan 0x03d2 device
  (⟨first.1, second.1⟩, second.2)

/-- The loop, from `index` on. -/
def storeEntries (indexOffset : UInt64) :
    (remaining index : ℕ) → (ℕ → DSMEvent) → Device → (ℕ → DSMEvent) × Device
  | 0, _, eventBuffer, device => (eventBuffer, device)
  | remaining + 1, index, eventBuffer, device =>
      let entry := readEntry port
        ((indexOffset + UInt64.ofNat index) &&& UInt64.ofNat (maximumDsmEntries - 1)) device
      storeEntries indexOffset remaining (index + 1)
        (Function.update eventBuffer index entry.1) entry.2

/-- Pauses and fences change nothing here. -/
def storeDsmCapture (control : DSMControl) (device : Device) : DSMControl × Device :=
  let device := port.writeFencedFptan 0x03d0 0x00003000 device
  let info := port.readFencedFpatan 0x03d2 device
  let indexOffset := (info.1 >>> 48) &&& UInt64.ofNat (maximumDsmEntries - 1)
  let stored := storeEntries port indexOffset maximumDsmEntries 0 control.eventBuffer info.2
  let device := port.writeFencedFptan 0x03d0 0x80001000 stored.2
  let device := port.writeFencedFptan 0x03d2 control.orig device
  let device := port.writeFencedFptan 0x03d0 0x00001000 device
  ({ control with
      fileHeader := { control.fileHeader with
        idxInfo := info.1
        numItems := UInt64.ofNat maximumDsmEntries }
      eventBuffer := stored.1 }, device)

end Capture

/-! ## The unrolled ring -/

section Ring

variable {Device : Type} {port : DebugPort Device} {ring : ℕ → DSMEvent} {indexWord : UInt64}

theorem readEntry_eq (array : DebugArray port ring indexWord) {index : UInt64}
    (hindex : index.toNat < maximumDsmEntries) (device : Device) :
    (readEntry port index device).1 = ring index.toNat := by
  obtain ⟨pointed, hpointed⟩ : ∃ pointed, pointed = port.writeFencedFptan 0x03d2 index
      (port.writeFencedFptan 0x03d0 0x80003001 device) := ⟨_, rfl⟩
  have hpoint : array.index pointed = index := by
    rw [hpointed, array.index_write _ _ (array.selector_select _ _)]
  obtain ⟨first, hfirst⟩ : ∃ first, first = port.writeFencedFptan 0x03d0 0x00003003 pointed :=
    ⟨_, rfl⟩
  have hfirstIndex : array.index first = index := by
    rw [hfirst, array.index_select, hpoint]
  have hdata0 := array.data0_read first (by rw [hfirst, array.selector_select])
    (by rwa [hfirstIndex])
  obtain ⟨second, hsecond⟩ : ∃ second, second = port.writeFencedFptan 0x03d0 0x00003002
      (port.readFencedFpatan 0x03d2 first).2 := ⟨_, rfl⟩
  have hsecondIndex : array.index second = index := by
    rw [hsecond, array.index_select, array.index_read, hfirstIndex]
  have hdata1 := array.data1_read second (by rw [hsecond, array.selector_select])
    (by rwa [hsecondIndex])
  rw [hfirstIndex] at hdata0
  rw [hsecondIndex] at hdata1
  rw [readEntry]
  dsimp only
  rw [← hpointed, ← hfirst, ← hsecond, hdata0, hdata1]

/-- Behind the write position, around the ring. -/
def ringIndex (indexOffset index : ℕ) : ℕ := (indexOffset + index) % maximumDsmEntries

theorem toNat_masked (value : UInt64) :
    (value &&& UInt64.ofNat (maximumDsmEntries - 1)).toNat =
      value.toNat % maximumDsmEntries := by
  rw [UInt64.toNat_and]
  exact Nat.and_two_pow_sub_one_eq_mod value.toNat 7

theorem storeEntries_eq (array : DebugArray port ring indexWord) (indexOffset : UInt64)
    {remaining index : ℕ} (hindex : index + remaining ≤ maximumDsmEntries)
    (eventBuffer : ℕ → DSMEvent) (device : Device) (position : ℕ) :
    (storeEntries port indexOffset remaining index eventBuffer device).1 position =
      if index ≤ position ∧ position < index + remaining then
        ring (ringIndex indexOffset.toNat position)
      else eventBuffer position := by
  induction remaining generalizing index eventBuffer device with
  | zero => rw [storeEntries, if_neg (by omega)]
  | succ remaining ih =>
      have hentry : (readEntry port ((indexOffset + UInt64.ofNat index) &&&
          UInt64.ofNat (maximumDsmEntries - 1)) device).1 =
            ring (ringIndex indexOffset.toNat index) := by
        rw [readEntry_eq array (by rw [toNat_masked]; exact Nat.mod_lt _ (by decide)),
          toNat_masked, ringIndex]
        congr 1
        rw [UInt64.toNat_add, UInt64.toNat_ofNat']
        simp only [maximumDsmEntries] at hindex ⊢
        omega
      rw [storeEntries, ih (by omega), hentry]
      by_cases hposition : position = index
      · subst hposition
        rw [if_neg (by omega), if_pos (by omega), Function.update_self]
      · rw [Function.update_of_ne hposition]
        by_cases hinside : index + 1 ≤ position ∧ position < index + 1 + remaining
        · rw [if_pos hinside, if_pos (by omega)]
        · rw [if_neg hinside, if_neg (by omega)]

/-- The bits of the index word that say where the ring begins. -/
def ringOffset (indexWord : UInt64) : ℕ := indexWord.toNat / 2 ^ 48 % maximumDsmEntries

theorem storeDsmCapture_eq (array : DebugArray port ring indexWord) (control : DSMControl)
    (device : Device) :
    (storeDsmCapture port control device).1.fileHeader = { control.fileHeader with
        idxInfo := indexWord
        numItems := 128 } ∧
      ∀ index < maximumDsmEntries,
        (storeDsmCapture port control device).1.eventBuffer index =
          ring (ringIndex (ringOffset indexWord) index) := by
  have hinfo := array.indexWord_read (port.writeFencedFptan 0x03d0 0x00003000 device)
    (array.selector_select _ _)
  have hoffset : ((indexWord >>> 48) &&& UInt64.ofNat (maximumDsmEntries - 1)).toNat =
      ringOffset indexWord := by
    rw [toNat_masked, ringOffset, UInt64.toNat_shiftRight, Nat.shiftRight_eq_div_pow]
    rfl
  constructor
  · rw [storeDsmCapture]
    dsimp only
    rw [hinfo]
    rfl
  · intro index hindex
    rw [storeDsmCapture]
    dsimp only
    rw [hinfo, storeEntries_eq array _ (by omega), if_pos (by omega), hoffset]

/-- Around the ring, every entry is met once. -/
theorem perm_ringIndex (indexOffset : ℕ) :
    ((List.range maximumDsmEntries).map (ringIndex indexOffset)).Perm
      (List.range maximumDsmEntries) := by
  have hinj : ∀ left ∈ List.range maximumDsmEntries, ∀ right ∈ List.range maximumDsmEntries,
      ringIndex indexOffset left = ringIndex indexOffset right → left = right := by
    intro left hleft right hright hsame
    rw [List.mem_range] at hleft hright
    simp only [ringIndex, maximumDsmEntries] at hleft hright hsame
    omega
  apply (List.perm_ext_iff_of_nodup (List.Nodup.map_on hinj List.nodup_range)
    List.nodup_range).mpr
  intro position
  rw [List.mem_map, List.mem_range]
  constructor
  · rintro ⟨index, -, rfl⟩
    exact Nat.mod_lt _ (by decide)
  · intro hposition
    refine ⟨(position + maximumDsmEntries - indexOffset % maximumDsmEntries) %
      maximumDsmEntries, List.mem_range.mpr (Nat.mod_lt _ (by decide)), ?_⟩
    simp only [ringIndex, maximumDsmEntries] at hposition ⊢
    omega

end Ring

/-! ## GETDSMBUFFER -/

/-- The words of a packet before the number of its events: the flags, the size
of the file header, and the file header up to its last word. -/
def dsmHead (header : DSMFileHeader) : List UInt64 :=
  [1, fileHeaderSize, header.versionInfo, header.mask, header.sel, header.types, header.idxInfo]

/-- A packet of GETDSMBUFFER with the events at these indices. -/
def dsmPacket (header : DSMFileHeader) (eventAt : ℕ → DSMEvent) : List ℕ → List UInt8 :=
  packetBytes (wordBytes (dsmHead header)) fun index => dsmEventBytes (eventAt index)

variable {firmware : Firmware} {s : Server} {payload : Memory} {payloadLength : UInt64}

theorem showsEvents_dsm {context : CoreContext} {control : DSMControl}
    (hcontrol : context.dsmControl = some control) :
    ShowsEvents dsmItems dsmEntry control.fileHeader.numItems
      (fun index => dsmEventBytes (control.eventBuffer index)) context where
  stored_eq after hcapture := by
    rw [dsmItems_eq hcapture, dsmItems, hcontrol]
    rfl
  bytesAt_eq after hcapture index := by
    rw [dsmEntry, hcapture.dsmControl, hcontrol]
    rfl

/-- The head of a packet, once the handler has written it. -/
theorem read_dsmHead (header : DSMFileHeader) (memory : Memory) :
    (((memory.write 0 (littleEndian 8 (1 : UInt64).toNat)).write 8
        (littleEndian 8 fileHeaderSize.toNat)).write 16 (fileHeaderBytes header)).read 0 64 =
      wordBytes (dsmHead header) ++ littleEndian 8 header.numItems.toNat := by
  have hlength : (fileHeaderBytes header).length = 48 := rfl
  have hfirst := Memory.write_write_append memory 0 (littleEndian 8 (1 : UInt64).toNat)
    (littleEndian 8 fileHeaderSize.toNat)
  have hsecond := Memory.write_write_append memory 0
    (littleEndian 8 (1 : UInt64).toNat ++ littleEndian 8 fileHeaderSize.toNat)
    (fileHeaderBytes header)
  simp only [List.length_append, length_littleEndian, Nat.zero_add] at hfirst hsecond
  have hread := Memory.read_write memory 0 (littleEndian 8 (1 : UInt64).toNat ++
    littleEndian 8 fileHeaderSize.toNat ++ fileHeaderBytes header)
  rw [← hsecond, ← hfirst] at hread
  simp only [List.length_append, length_littleEndian, hlength] at hread
  refine hread.trans ?_
  simp only [fileHeaderBytes, dsmHead, wordBytes, List.flatMap_cons, List.flatMap_nil,
    List.append_nil, List.append_assoc]

/-- GETDSMBUFFER sends every event once. -/
theorem getDsmBuffer_packets (hdelivers : firmware.Delivers)
    (hleaves : firmware.LeavesEvents (payload.u64 0).toNat) (hlong : 8 ≤ payloadLength)
    (hreadable : Readable (payload.u64 0) s) {control : DSMControl}
    (hcontrol : (s.machine.contexts (payload.u64 0).toNat).dsmControl = some control)
    (hitems : control.fileHeader.numItems ≠ 0)
    (hpatience : (control.fileHeader.numItems.toNat + 63) / 64 < firmware.patience) :
    ∃ t, handleGetDsmBuffer payload payloadLength firmware s = some (.success, t) ∧
      SendsEvents .dsmBuffer (dsmPacket control.fileHeader control.eventBuffer)
        (List.range control.fileHeader.numItems.toNat) s t := by
  obtain ⟨checked, hchecked, hcheck⟩ := checkCoreId_looked hleaves hreadable
  obtain ⟨first, hfirst, hlookedFirst⟩ :=
    contextOf_looked hleaves checked
  have hlooked := hchecked.trans hlookedFirst
  obtain ⟨begun, hbegun⟩ : ∃ begun : Server, begun = { first with
      payloadBuffer := (first.payloadBuffer.write 0 (littleEndian 8 (1 : UInt64).toNat)).write 8
        (littleEndian 8 fileHeaderSize.toNat) } := ⟨_, rfl⟩
  obtain ⟨second, hsecond, hlookedSecond⟩ :=
    contextOf_looked hleaves begun
  obtain ⟨copied, hcopied⟩ : ∃ copied : Server, copied = { second with
      payloadBuffer := second.payloadBuffer.write 16 (fileHeaderBytes control.fileHeader) } :=
    ⟨_, rfl⟩
  obtain ⟨third, hthird, hlookedThird⟩ :=
    contextOf_looked hleaves copied
  have hbegunCapture : (first.machine.contexts (payload.u64 0).toNat).SameCapture
      (begun.machine.contexts (payload.u64 0).toNat) := by
    rw [hbegun]
    exact .rfl
  have hcopiedCapture : (second.machine.contexts (payload.u64 0).toNat).SameCapture
      (copied.machine.contexts (payload.u64 0).toNat) := by
    rw [hcopied]
    exact .rfl
  have hcaptureSecond :=
    (hlooked.capture.trans hbegunCapture).trans hlookedSecond.capture
  have hcaptureThird := (hcaptureSecond.trans hcopiedCapture).trans hlookedThird.capture
  have hcontrolFirst := hlooked.capture.dsmControl.trans hcontrol
  have hcontrolSecond := hcaptureSecond.dsmControl.trans hcontrol
  have hshows := (showsEvents_dsm hcontrol).of_capture hcaptureThird
  have htrace : third.trace = s.trace := by
    rw [hlookedThird.trace, hcopied]
    dsimp only
    rw [hlookedSecond.trace, hbegun, hlooked.trace]
  have hread : third.payloadBuffer.read 0 64 =
      wordBytes (dsmHead control.fileHeader) ++
        littleEndian 8 control.fileHeader.numItems.toNat := by
    rw [hlookedThird.payloadBuffer, hcopied]
    dsimp only
    rw [hlookedSecond.payloadBuffer, hbegun]
    exact read_dsmHead control.fileHeader first.payloadBuffer
  have hhead : third.payloadBuffer.read 0 (8 * 7) = wordBytes (dsmHead control.fileHeader) :=
    (List.append_inj ((Memory.read_add _ 0 56 8).symm.trans hread)
      (by rw [Memory.length_read, length_wordBytes]; rfl)).1
  have hputs : ∀ rest : Handler EfiStatus,
      (do putPayload64 0 0x1
          putPayload64 1 fileHeaderSize
          rest) firmware first = rest firmware begun := by
    intro rest
    rw [hbegun]
    rfl
  have hcopy : copyToPayload 16 (fileHeaderBytes control.fileHeader) firmware second =
      some ((), copied) := by
    rw [hcopied]
    rfl
  have hlength : ¬ payloadLength < 1 * 8 := UInt64.not_lt.mpr hlong
  have hpositive : 0 < control.fileHeader.numItems.toNat :=
    Nat.pos_of_ne_zero fun hzero => hitems (UInt64.toNat_inj.mp hzero)
  obtain ⟨t, packets, hrun, hpackets, hsent⟩ := sendEvents_packets hdelivers hleaves
    (fun index => length_dsmEventBytes (control.eventBuffer index)) .dsmBuffer
    7 (2 * 8 + fileHeaderSize) (by decide) rfl firmware.patience 0 control.fileHeader.numItems
    hshows (Nat.zero_add _).le hpatience
  refine ⟨t, ?_, ?_⟩
  · rw [handleGetDsmBuffer, if_neg hlength]
    dsimp only
    rw [hcheck, bind_of_eq_some hfirst, hcontrolFirst]
    dsimp only
    rw [hputs, bind_of_eq_some hsecond, hcontrolSecond, Option.getD_some, bind_of_eq_some hcopy,
      bind_of_eq_some hthird, hshows.stored_eq _ .rfl, if_neg hitems]
    exact hrun
  · rw [hhead, htrace] at hsent
    have hindices : List.range' (0 : UInt64).toNat control.fileHeader.numItems.toNat =
        List.range control.fileHeader.numItems.toNat := List.range_eq_range'.symm
    rw [hindices] at hpackets
    refine hpackets.sendsEvents ?_ .dsmBuffer
      (fun index => length_dsmEventBytes (control.eventBuffer index)) ?_ hsent
    · rw [Ne, List.range_eq_nil]
      omega
    · rw [length_wordBytes]
      exact Nat.le_of_ble_eq_true rfl

theorem sum_length_eq {packets : List (List ℕ)} {indices : List ℕ}
    (hflatten : packets.flatten = indices) :
    (packets.map List.length).sum = indices.length := by
  rw [← hflatten, List.length_flatten]

/-- Packets are about the events at their indices only. -/
theorem map_dsmPacket_congr (header : DSMFileHeader) {left right : ℕ → DSMEvent} {bound : ℕ}
    (hevents : ∀ index < bound, left index = right index) {packets : List (List ℕ)}
    (hflatten : packets.flatten = List.range bound) :
    packets.map (dsmPacket header left) = packets.map (dsmPacket header right) := by
  apply List.map_congr_left
  intro packet hpacket
  have hbytes : packet.flatMap (fun index => dsmEventBytes (left index)) =
      packet.flatMap fun index => dsmEventBytes (right index) := by
    apply List.flatMap_congr
    intro index hindex
    have hmem : index ∈ packets.flatten := List.mem_flatten.mpr ⟨packet, hpacket, hindex⟩
    rw [hflatten, List.mem_range] at hmem
    rw [hevents index hmem]
  rw [dsmPacket, dsmPacket, packetBytes, packetBytes, hbytes]

/-- The client gets the ring from its beginning on, every entry of it once, in
packets that repeat the file header. -/
structure RingSent (header : DSMFileHeader) (ring : ℕ → DSMEvent) (indexOffset : ℕ)
    (s t : Server) (packets : List (List ℕ)) : Prop where
  trace : t.trace = s.trace ++ sentPackets .dsmBuffer
    (packets.map (dsmPacket header fun index => ring (ringIndex indexOffset index)))
  unrolled : packets.flatten = List.range maximumDsmEntries
  once : ((packets.flatten).map (ringIndex indexOffset)).Perm (List.range maximumDsmEntries)
  numItems : (packets.map List.length).sum = maximumDsmEntries
  fits : ∀ packet ∈ packets, packet.length ≤ 64 ∧
    ∀ eventAt, (dsmPacket header eventAt packet).length ≤ 1400 ∧
      (dsmPacket header eventAt packet).length + 12 ≤ responseBufferSize.toNat

theorem dsmCapture_unrolled {Device : Type} {port : DebugPort Device} {ring : ℕ → DSMEvent}
    {indexWord : UInt64} (array : DebugArray port ring indexWord) (control : DSMControl)
    (device : Device) (hdelivers : firmware.Delivers)
    (hleaves : firmware.LeavesEvents (payload.u64 0).toNat) (hlong : 8 ≤ payloadLength)
    (hreadable : Readable (payload.u64 0) s)
    (hstored : (s.machine.contexts (payload.u64 0).toNat).dsmControl =
      some (storeDsmCapture port control device).1)
    (hpatience : 2 < firmware.patience) :
    ∃ t packets, handleGetDsmBuffer payload payloadLength firmware s = some (.success, t) ∧
      RingSent (storeDsmCapture port control device).1.fileHeader ring (ringOffset indexWord)
        s t packets := by
  obtain ⟨hheader, hevents⟩ := storeDsmCapture_eq array control device
  have hitems : (storeDsmCapture port control device).1.fileHeader.numItems = 128 := by
    rw [hheader]
  obtain ⟨t, hrun, packets, -, hflatten, htrace, hfits⟩ :=
    getDsmBuffer_packets hdelivers hleaves hlong hreadable hstored (by rw [hitems]; decide)
      (by rw [hitems]; exact hpatience)
  have hrange : packets.flatten = List.range maximumDsmEntries := by
    rw [hflatten, hitems]
    rfl
  rw [map_dsmPacket_congr _ hevents hrange] at htrace
  refine ⟨t, packets, hrun, htrace, hrange, ?_, ?_, ?_⟩
  · rw [hrange]
    exact perm_ringIndex _
  · rw [sum_length_eq hrange, List.length_range]
  · intro packet hpacket
    obtain ⟨hbound, hpayload, hbuffer⟩ := hfits packet hpacket
    refine ⟨hbound, fun eventAt => ?_⟩
    have hsame : (dsmPacket (storeDsmCapture port control device).1.fileHeader eventAt
        packet).length = (dsmPacket (storeDsmCapture port control device).1.fileHeader
          (storeDsmCapture port control device).1.eventBuffer packet).length := by
      simp only [dsmPacket, packetBytes, List.length_append,
        length_flatMap_entries (fun _ => length_dsmEventBytes _)]
    rw [hsame]
    exact ⟨hpayload, hbuffer⟩

/-- The ring begins at its entry 5. -/
def sampleIndexWord : UInt64 := 0x0005000000000000

/-- The entries of the ring carry their numbers. -/
def sampleRing (index : ℕ) : DSMEvent := ⟨UInt64.ofNat index, 0⟩

def samplePort : DebugPort (UInt64 × UInt64) where
  writeFencedFptan register value device :=
    if register = 0x03d0 then (value, device.2)
    else if device.1 = 0x80003001 then (device.1, value)
    else device
  readFencedFpatan _ device :=
    (if device.1 = 0x3000 then sampleIndexWord
      else if device.1 = 0x3003 then device.2
      else 0, device)

def sampleArray : DebugArray samplePort sampleRing sampleIndexWord where
  selector := Prod.fst
  index := Prod.snd
  selector_select _ _ := rfl
  index_select _ _ := rfl
  index_write value device hselector := by
    rw [samplePort]
    dsimp only
    rw [if_neg (by decide), if_pos hselector]
  index_read _ := rfl
  data0_read device hselector _ := by
    rw [samplePort, sampleRing]
    dsimp only
    rw [hselector, if_neg (by decide), if_pos rfl, UInt64.ofNat_toNat]
  data1_read device hselector _ := by
    rw [samplePort]
    dsimp only
    rw [hselector, if_neg (by decide), if_neg (by decide)]
    rfl
  indexWord_read device hselector := by
    rw [samplePort]
    dsimp only
    rw [hselector, if_pos rfl]

/-- Nothing is captured yet. -/
def sampleControl : DSMControl := ⟨⟨0, 0, 0, 0, 0, 0⟩, fun _ => ⟨0, 0⟩, 0⟩

/-- Every core has stored its capture. -/
def capturedServer : Server :=
  { idleServer with
    machine := { Machine.afterInit with
      contexts := fun _ => { Pair.initContext with
        started := 1
        dsmControl := some (storeDsmCapture samplePort sampleControl (0, 0)).1 } } }

theorem dsmCapture_unrolled_sample :
    ∃ t packets, handleGetDsmBuffer (fun _ => 0) 8 loopback capturedServer =
        some (.success, t) ∧
      RingSent (storeDsmCapture samplePort sampleControl (0, 0)).1.fileHeader
        sampleRing (ringOffset sampleIndexWord) capturedServer t packets :=
  dsmCapture_unrolled sampleArray sampleControl (0, 0) delivers_loopback
    (leavesEvents_loopback _) (by decide)
    ⟨by decide, rfl, rfl⟩ rfl (by decide)

end AngryUefi.Asr
