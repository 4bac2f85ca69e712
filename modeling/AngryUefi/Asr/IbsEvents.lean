import AngryUefi.Asr.IbsRegisters
import AngryUefi.Handlers.Readout

/-!
# Samples and their events

`store_ibs_entry` packs what the sampling registers hold into two quadwords.
-/

namespace AngryUefi.Asr

open AngryUefi.BitFields AngryUefi.Handlers

def ibsFilterAll : UInt64 := 0x0
def ibsFilterAlu : UInt64 := 0x1
def ibsFilterLoad : UInt64 := 0x2
def ibsFilterStore : UInt64 := 0x3
def ibsFilterLoadStore : UInt64 := 0x4
def ibsFilterUpdate : UInt64 := 0x5

/-! ## Source -/

/-- What `init_ibs_for_context` allocates. -/
def initIbsForContext : IBSControl := ⟨fun _ => ⟨0, 0⟩, 0, ibsFilterAll⟩

def shouldStore (control : IBSControl) (event : IBSEvent) : Bool :=
  let filter := control.ibsFilter
  let load := event.field EventFields.load
  let store := event.field EventFields.store
  if filter = ibsFilterAll then true
  else if filter = ibsFilterAlu then load == 0 && store == 0
  else if filter = ibsFilterLoad then load == 1 && store == 0
  else if filter = ibsFilterStore then load == 0 && store == 1
  else if filter = ibsFilterLoadStore then load == 1 || store == 1
  else if filter = ibsFilterUpdate then load == 1 && store == 1
  else true

def fillFromData3 (event : IBSEvent) (data3 : UInt64) : IBSEvent :=
  event
    |>.setField EventFields.load (OpData3.ibsLdOp.read data3.toBitVec)
    |>.setField EventFields.store (OpData3.ibsStOp.read data3.toBitVec)
    |>.setField EventFields.uncachable (OpData3.ibsDcUcMemAcc.read data3.toBitVec)
    |>.setField EventFields.linearValid (OpData3.ibsDcLinAddrValid.read data3.toBitVec)
    |>.setField EventFields.physValid (OpData3.ibsDcPhyAddrValid.read data3.toBitVec)
    |>.setField EventFields.prefetch (OpData3.ibsSwPf.read data3.toBitVec)
    |>.setField EventFields.size (OpData3.ibsOpMemWidth.read data3.toBitVec)

def fillFromControl (event : IBSEvent) (control : UInt64) : IBSEvent :=
  event.setField EventFields.valid (OpCtl.ibsOpVal.read control.toBitVec)

def fillFromData1 (event : IBSEvent) (data1 : UInt64) : IBSEvent :=
  event.setField EventFields.microcode (OpData.ibsOpMicrocode.read data1.toBitVec)

def fillFromData2 (event : IBSEvent) (data2 : UInt64) : IBSEvent :=
  event.setField EventFields.dataSource (OpData2.dataSrc.read data2.toBitVec)

/-- The part of `store_ibs_entry` about the two addresses. -/
def fillAddresses (event : IBSEvent) (physAddr linAddr : UInt64) : IBSEvent :=
  let event := event.setField EventFields.phys (physAddr >>> 12).toNat
  let event := { event with q2 := linAddr }
  if event.field EventFields.linearValid = 0 then
    { event with q2 := (linAddr >>> 12 <<< 12) ||| (physAddr &&& 0xfff) }
  else event

variable (msrs : UInt32 → UInt64)

/-- The event of a sample, with every register read. -/
def sampledEvent : IBSEvent :=
  let event := fillFromData3 ⟨0, 0⟩ (msrs ibsMsrOpData3)
  let event := fillFromControl event (msrs ibsExecutionControl)
  let event := fillFromData1 event (msrs ibsMsrOpData)
  let event := fillFromData2 event (msrs ibsMsrOpData2)
  fillAddresses event (msrs ibsMsrDcPhysicalAddress) (msrs ibsMsrDcLinearAddress)

/-- What the routine returns and the control structure it leaves, with the
registers as it finds them.  It reads each of them at most once. -/
def storeIbsEntry (control : IBSControl) : UInt64 × IBSControl :=
  if maxIbsEntries ≤ control.currentPosition then (0, control)
  else if shouldStore control (fillFromData3 ⟨0, 0⟩ (msrs ibsMsrOpData3)) then
    let control := { control with
      eventBuffer := Function.update control.eventBuffer control.currentPosition.toNat
        (sampledEvent msrs)
      currentPosition := control.currentPosition + 1 }
    (maxIbsEntries - control.currentPosition, control)
  else (maxIbsEntries - control.currentPosition, control)

/-! ## What is stored -/

/-- The filters as the header describes them. -/
structure Accepts (filter data3 : UInt64) : Prop where
  alu : filter = ibsFilterAlu →
    OpData3.ibsLdOp.read data3.toBitVec = 0 ∧ OpData3.ibsStOp.read data3.toBitVec = 0
  load : filter = ibsFilterLoad →
    OpData3.ibsLdOp.read data3.toBitVec = 1 ∧ OpData3.ibsStOp.read data3.toBitVec = 0
  store : filter = ibsFilterStore →
    OpData3.ibsLdOp.read data3.toBitVec = 0 ∧ OpData3.ibsStOp.read data3.toBitVec = 1
  loadStore : filter = ibsFilterLoadStore →
    OpData3.ibsLdOp.read data3.toBitVec = 1 ∨ OpData3.ibsStOp.read data3.toBitVec = 1
  update : filter = ibsFilterUpdate →
    OpData3.ibsLdOp.read data3.toBitVec = 1 ∧ OpData3.ibsStOp.read data3.toBitVec = 1

instance (filter data3 : UInt64) : Decidable (Accepts filter data3) :=
  decidable_of_iff (_ ∧ _ ∧ _ ∧ _ ∧ _)
    ⟨fun ⟨halu, hload, hstore, hloadStore, hupdate⟩ =>
        ⟨halu, hload, hstore, hloadStore, hupdate⟩,
      fun haccepts => ⟨haccepts.alu, haccepts.load, haccepts.store, haccepts.loadStore,
        haccepts.update⟩⟩

/-- There is space, and the filter lets the sample pass. -/
structure Appends (control : IBSControl) : Prop where
  space : control.currentPosition < maxIbsEntries
  accepted : Accepts control.ibsFilter (msrs ibsMsrOpData3)

variable {msrs} {control : IBSControl} {event : IBSEvent}

/-- The store of the upper bits leaves the field that decides about the lower
ones. -/
theorem fillAddresses_eq (event : IBSEvent) (physAddr linAddr : UInt64) :
    fillAddresses event physAddr linAddr =
      { event.setField EventFields.phys (physAddr >>> 12).toNat with
        q2 := if event.field EventFields.linearValid = 0 then
            (linAddr >>> 12 <<< 12) ||| (physAddr &&& 0xfff)
          else linAddr } := by
  have hkept : (event.setField EventFields.phys (physAddr >>> 12).toNat).field
      EventFields.linearValid = event.field EventFields.linearValid :=
    IBSEvent.field_setField_of_apart (by decide) _
  by_cases hinvalid : event.field EventFields.linearValid = 0
  · rw [if_pos hinvalid]
    exact if_pos (hkept.trans hinvalid)
  · rw [if_neg hinvalid]
    exact if_neg (mt hkept.symm.trans hinvalid)

theorem field_fillAddresses {place : Field} (hapart : place.Apart EventFields.phys)
    (physAddr linAddr : UInt64) :
    (fillAddresses event physAddr linAddr).field place = event.field place := by
  rw [fillAddresses_eq]
  exact IBSEvent.field_setField_of_apart hapart _

variable (msrs) in
/-- The status fields of an event, with what the registers have for them. -/
def sampledFields : List (Field × ℕ) :=
  let data1 := (msrs ibsMsrOpData).toBitVec
  let data2 := (msrs ibsMsrOpData2).toBitVec
  let data3 := (msrs ibsMsrOpData3).toBitVec
  [(EventFields.microcode, OpData.ibsOpMicrocode.read data1),
    (EventFields.dataSource, OpData2.dataSrc.read data2),
    (EventFields.size, OpData3.ibsOpMemWidth.read data3),
    (EventFields.prefetch, OpData3.ibsSwPf.read data3),
    (EventFields.physValid, OpData3.ibsDcPhyAddrValid.read data3),
    (EventFields.linearValid, OpData3.ibsDcLinAddrValid.read data3),
    (EventFields.uncachable, OpData3.ibsDcUcMemAcc.read data3),
    (EventFields.store, OpData3.ibsStOp.read data3),
    (EventFields.load, OpData3.ibsLdOp.read data3),
    (EventFields.valid, OpCtl.ibsOpVal.read (msrs ibsExecutionControl).toBitVec)]

/-- No fill disturbs what another one has stored. -/
theorem sampledEvent_field :
    ∀ entry ∈ sampledFields msrs, (sampledEvent msrs).field entry.1 = entry.2 := by
  simp only [sampledFields, List.forall_mem_cons]
  simp (disch := decide) only [sampledEvent, field_fillAddresses, fillFromData1, fillFromData2,
    fillFromData3, fillFromControl, IBSEvent.field_setField_of_apart,
    IBSEvent.field_setField_read, List.not_mem_nil, IsEmpty.forall_iff, implies_true, and_self]

theorem shouldStore_iff (data3 : UInt64) :
    shouldStore control (fillFromData3 ⟨0, 0⟩ data3) = true ↔
      Accepts control.ibsFilter data3 := by
  have hload : (fillFromData3 ⟨0, 0⟩ data3).field EventFields.load =
      OpData3.ibsLdOp.read data3.toBitVec := by
    simp (disch := decide) only [fillFromData3, IBSEvent.field_setField_of_apart,
      IBSEvent.field_setField_read]
  have hstore : (fillFromData3 ⟨0, 0⟩ data3).field EventFields.store =
      OpData3.ibsStOp.read data3.toBitVec := by
    simp (disch := decide) only [fillFromData3, IBSEvent.field_setField_of_apart,
      IBSEvent.field_setField_read]
  rw [shouldStore]
  rw [hload, hstore]
  constructor
  · intro hstores
    constructor
    all_goals
      intro hfilter
      simpa [hfilter, ibsFilterAll, ibsFilterAlu, ibsFilterLoad, ibsFilterStore,
        ibsFilterLoadStore, ibsFilterUpdate] using hstores
  · intro haccepts
    split_ifs with hall halu hload hstore hloadStore hupdate
    · rfl
    · simpa using haccepts.alu halu
    · simpa using haccepts.load hload
    · simpa using haccepts.store hstore
    · simpa using haccepts.loadStore hloadStore
    · simpa using haccepts.update hupdate
    · rfl

/-! ### The exits of the store -/

theorem storeIbsEntry_full (hfull : maxIbsEntries ≤ control.currentPosition) :
    storeIbsEntry msrs control = (0, control) :=
  if_pos hfull

theorem storeIbsEntry_rejected (hspace : control.currentPosition < maxIbsEntries)
    (hrejected : ¬ Accepts control.ibsFilter (msrs ibsMsrOpData3)) :
    storeIbsEntry msrs control = (maxIbsEntries - control.currentPosition, control) := by
  rw [storeIbsEntry, if_neg (UInt64.not_le.mpr hspace),
    if_neg (mt (shouldStore_iff _).mp hrejected)]

theorem storeIbsEntry_appended (happends : Appends msrs control) :
    storeIbsEntry msrs control =
      (maxIbsEntries - (control.currentPosition + 1), { control with
        eventBuffer := Function.update control.eventBuffer control.currentPosition.toNat
          (sampledEvent msrs)
        currentPosition := control.currentPosition + 1 }) := by
  rw [storeIbsEntry, if_neg (UInt64.not_le.mpr happends.space),
    if_pos ((shouldStore_iff _).mpr happends.accepted)]

variable (msrs control) in
/-- The event at the place where the store appends. -/
def appendedEvent : IBSEvent :=
  (storeIbsEntry msrs control).2.eventBuffer control.currentPosition.toNat

theorem appendedEvent_eq (happends : Appends msrs control) :
    appendedEvent msrs control = sampledEvent msrs := by
  rw [appendedEvent, storeIbsEntry_appended happends]
  exact Function.update_self ..

/-! ## The layouts of the reference -/

/-! ### Where the processor has the fields that are sampled -/

namespace Ppr

def ibsOpMicrocode : Field := ⟨40, 1⟩
def dataSrc : Field := ⟨0, 3⟩
def ibsLdOp : Field := ⟨0, 1⟩
def ibsStOp : Field := ⟨1, 1⟩
def ibsDcUcMemAcc : Field := ⟨14, 1⟩
def ibsDcLinAddrValid : Field := ⟨17, 1⟩
def ibsDcPhyAddrValid : Field := ⟨18, 1⟩
def ibsSwPf : Field := ⟨21, 1⟩
def ibsOpMemWidth : Field := ⟨22, 4⟩
def ibsOpVal : Field := ⟨18, 1⟩

end Ppr

/-- The status fields of an event are the bits that the reference names. -/
structure DecodesPpr (msrs : UInt32 → UInt64) (event : IBSEvent) : Prop where
  microcode : event.field EventFields.microcode =
    Ppr.ibsOpMicrocode.read (msrs ibsMsrOpData).toBitVec
  dataSource : event.field EventFields.dataSource =
    Ppr.dataSrc.read (msrs ibsMsrOpData2).toBitVec
  load : event.field EventFields.load = Ppr.ibsLdOp.read (msrs ibsMsrOpData3).toBitVec
  store : event.field EventFields.store = Ppr.ibsStOp.read (msrs ibsMsrOpData3).toBitVec
  uncachable : event.field EventFields.uncachable =
    Ppr.ibsDcUcMemAcc.read (msrs ibsMsrOpData3).toBitVec
  linearValid : event.field EventFields.linearValid =
    Ppr.ibsDcLinAddrValid.read (msrs ibsMsrOpData3).toBitVec
  physValid : event.field EventFields.physValid =
    Ppr.ibsDcPhyAddrValid.read (msrs ibsMsrOpData3).toBitVec
  prefetch : event.field EventFields.prefetch = Ppr.ibsSwPf.read (msrs ibsMsrOpData3).toBitVec
  size : event.field EventFields.size = Ppr.ibsOpMemWidth.read (msrs ibsMsrOpData3).toBitVec
  valid : event.field EventFields.valid = Ppr.ibsOpVal.read (msrs ibsExecutionControl).toBitVec

/-- The unions for OP_DATA and OP_DATA2 list their fields from the highest bit
down.  What they take for a field agrees with the field. -/
structure ReversalAgrees (msrs : UInt32 → UInt64) : Prop where
  microcode : (msrs ibsMsrOpData).toBitVec.extractLsb' 23 1 =
    (msrs ibsMsrOpData).toBitVec.extractLsb' 40 1
  dataSource : (msrs ibsMsrOpData2).toBitVec.extractLsb' 61 3 =
    (msrs ibsMsrOpData2).toBitVec.extractLsb' 0 3

theorem decodesPpr_iff (happends : Appends msrs control) :
    DecodesPpr msrs (appendedEvent msrs control) ↔ ReversalAgrees msrs := by
  have hstatus := @sampledEvent_field msrs
  simp only [sampledFields, List.forall_mem_cons] at hstatus
  obtain ⟨hmicrocode, hdataSource, hsize, hprefetch, hphysValid, hlinearValid, huncachable,
    hstore, hload, hvalid, -⟩ := hstatus
  rw [appendedEvent_eq happends]
  constructor
  · intro hdecodes
    constructor
    · exact BitVec.eq_of_toNat_eq (hmicrocode.symm.trans hdecodes.microcode)
    · exact BitVec.eq_of_toNat_eq (hdataSource.symm.trans hdecodes.dataSource)
  · intro hagrees
    exact {
      microcode := hmicrocode.trans (congrArg BitVec.toNat hagrees.microcode)
      dataSource := hdataSource.trans (congrArg BitVec.toNat hagrees.dataSource)
      load := hload
      store := hstore
      uncachable := huncachable
      linearValid := hlinearValid
      physValid := hphysValid
      prefetch := hprefetch
      size := hsize
      valid := hvalid }

/-- A load with valid addresses, from the registers of a sample. -/
def loadSample : UInt32 → UInt64 := fun msr =>
  if msr = ibsExecutionControl then 0x40000
  else if msr = ibsMsrOpData3 then 0x1060001
  else if msr = ibsMsrDcLinearAddress then 0xffff800012345678
  else if msr = ibsMsrDcPhysicalAddress then 0x7fe12345678
  else 0

/-- The same, of an operation from microcode. -/
def microcodeSample : UInt32 → UInt64 :=
  Function.update loadSample ibsMsrOpData 0x10000000000

theorem appends_of_all {msrs : UInt32 → UInt64} : Appends msrs initIbsForContext := by
  refine ⟨by decide, ?_, ?_, ?_, ?_, ?_⟩
  all_goals
    intro hfilter
    exact absurd hfilter (by decide)

theorem decodesPpr_iff_loadSample : DecodesPpr loadSample
    (appendedEvent loadSample initIbsForContext) :=
  (decodesPpr_iff appends_of_all).mpr ⟨by decide, by decide⟩

theorem not_decodesPpr_microcodeSample : ¬ ∀ (msrs : UInt32 → UInt64) (control : IBSControl),
    Appends msrs control → DecodesPpr msrs (appendedEvent msrs control) := by
  intro hdecodes
  have hmicrocode := (hdecodes microcodeSample initIbsForContext appends_of_all).microcode
  have hstatus := @sampledEvent_field microcodeSample
  simp only [sampledFields, List.forall_mem_cons] at hstatus
  rw [appendedEvent_eq appends_of_all, hstatus.1] at hmicrocode
  exact absurd hmicrocode (by decide)

/-! ## The two addresses -/

theorem getLsbD_pageMask (bit : ℕ) :
    (0xfff : UInt64).toBitVec.getLsbD bit = decide (bit < 12) := by
  have hmask : (0xfff : UInt64).toBitVec = (BitVec.allOnes 12).setWidth 64 := by decide
  rw [hmask, BitVec.getLsbD_setWidth, BitVec.getLsbD_allOnes]
  by_cases hlow : bit < 12
  · have hsize : bit < 64 := by omega
    simp [hlow, hsize]
  · simp [hlow]

/-- The upper bits of one word and the lower bits of another one. -/
theorem getLsbD_spliced (high low : UInt64) {bit : ℕ} (hbit : bit < 64) :
    ((high >>> 12 <<< 12) ||| (low &&& 0xfff)).toBitVec.getLsbD bit =
      if bit < 12 then low.toBitVec.getLsbD bit else high.toBitVec.getLsbD bit := by
  rw [UInt64.toBitVec_or, UInt64.toBitVec_and, BitVec.getLsbD_or, BitVec.getLsbD_and,
    getLsbD_pageMask]
  simp only [UInt64.toBitVec_shiftLeft, UInt64.toBitVec_shiftRight]
  by_cases hlow : bit < 12
  · simp [hlow]
  · have hplace : 12 + (bit - 12) = bit := by omega
    simp [hlow, hplace, hbit]

theorem spliced_high (high low : UInt64) :
    ((high >>> 12 <<< 12) ||| (low &&& 0xfff)) >>> 12 = high >>> 12 := by
  apply UInt64.eq_of_toBitVec_eq
  apply BitVec.eq_of_getLsbD_eq
  intro bit hbit
  have hshift : ∀ word : UInt64,
      (word >>> 12).toBitVec.getLsbD bit = word.toBitVec.getLsbD (12 + bit) := by
    intro word
    simp [UInt64.toBitVec_shiftRight]
  rw [hshift, hshift]
  by_cases hinside : 12 + bit < 64
  · rw [getLsbD_spliced _ _ hinside, if_neg (by omega)]
  · rw [BitVec.getLsbD_of_ge _ _ (Nat.not_lt.mp hinside),
      BitVec.getLsbD_of_ge _ _ (Nat.not_lt.mp hinside)]

/-- What was spliced in is found again. -/
theorem spliced_low (high low : UInt64) :
    (low >>> 12 <<< 12) ||| (((high >>> 12 <<< 12) ||| (low &&& 0xfff)) &&& 0xfff) = low := by
  apply UInt64.eq_of_toBitVec_eq
  apply BitVec.eq_of_getLsbD_eq
  intro bit hbit
  rw [getLsbD_spliced _ _ hbit, getLsbD_spliced _ _ hbit]
  split_ifs
  · rfl
  · rfl

theorem fillAddresses_linear {physAddr linAddr : UInt64}
    (hvalid : event.field EventFields.linearValid = 1) :
    (fillAddresses event physAddr linAddr).q2 = linAddr := by
  rw [fillAddresses_eq, hvalid, if_neg Nat.one_ne_zero]

theorem fillAddresses_spliced {physAddr linAddr : UInt64}
    (hinvalid : event.field EventFields.linearValid = 0) :
    (fillAddresses event physAddr linAddr).q2 =
      (linAddr >>> 12 <<< 12) ||| (physAddr &&& 0xfff) := by
  rw [fillAddresses_eq]
  exact if_pos hinvalid

theorem fillAddresses_phys {physAddr linAddr : UInt64} (hphys : physAddr.toNat < 2 ^ 48) :
    (fillAddresses event physAddr linAddr).field EventFields.phys = (physAddr >>> 12).toNat := by
  have hfits : (physAddr >>> 12).toNat % 2 ^ EventFields.phys.width = (physAddr >>> 12).toNat := by
    apply Nat.mod_eq_of_lt
    rw [UInt64.toNat_shiftRight, Nat.shiftRight_eq_div_pow]
    exact Nat.div_lt_of_lt_mul hphys
  rw [fillAddresses_eq]
  exact (IBSEvent.field_setField (by decide) _).trans hfits

/-! ## Packing -/

variable (msrs) in
/-- The addresses are filled in last. -/
theorem sampledEvent_eq_fillAddresses : ∃ event : IBSEvent,
    sampledEvent msrs = fillAddresses event (msrs ibsMsrDcPhysicalAddress)
      (msrs ibsMsrDcLinearAddress) :=
  ⟨_, rfl⟩

/-- What the two quadwords are to say about a sample. -/
structure Recovers (msrs : UInt32 → UInt64) (event : IBSEvent) : Prop where
  status : ∀ entry ∈ sampledFields msrs, event.field entry.1 = entry.2
  linear : event.field EventFields.linearValid = 1 →
    event.q2 = msrs ibsMsrDcLinearAddress ∧
      event.field EventFields.phys = (msrs ibsMsrDcPhysicalAddress >>> 12).toNat
  spliced : event.field EventFields.linearValid = 0 →
    (UInt64.ofNat (event.field EventFields.phys) <<< 12) ||| (event.q2 &&& 0xfff) =
        msrs ibsMsrDcPhysicalAddress ∧
      event.q2 >>> 12 = msrs ibsMsrDcLinearAddress >>> 12

/-- The fields do not meet, and a decoder finds everything that was sampled. -/
theorem recovers_appendedEvent (happends : Appends msrs control)
    (hphys : (msrs ibsMsrDcPhysicalAddress).toNat < 2 ^ 48) :
    EventFields.all.Pairwise Field.Apart ∧ (∀ field ∈ EventFields.all, field.Within 64) ∧
      (∀ entry ∈ sampledFields msrs, entry.1 ∈ EventFields.all) ∧
      Recovers msrs (appendedEvent msrs control) := by
  have hplaces : ∀ entry ∈ sampledFields msrs, entry.1 ∈ EventFields.all := by
    simp only [sampledFields, List.forall_mem_cons]
    decide
  rw [appendedEvent_eq happends]
  refine ⟨EventFields.pairwise_apart, EventFields.all_within, hplaces, sampledEvent_field, ?_, ?_⟩
  · obtain ⟨event, hevent⟩ := sampledEvent_eq_fillAddresses msrs
    intro hvalid
    rw [hevent] at hvalid ⊢
    rw [field_fillAddresses (by decide)] at hvalid
    exact ⟨fillAddresses_linear hvalid, fillAddresses_phys hphys⟩
  · obtain ⟨event, hevent⟩ := sampledEvent_eq_fillAddresses msrs
    intro hinvalid
    rw [hevent] at hinvalid ⊢
    rw [field_fillAddresses (by decide)] at hinvalid
    rw [fillAddresses_phys hphys, fillAddresses_spliced hinvalid, UInt64.ofNat_toNat]
    exact ⟨spliced_low _ _, spliced_high _ _⟩

theorem recovers_appendedEvent_loadSample :
    Recovers loadSample (appendedEvent loadSample initIbsForContext) :=
  (recovers_appendedEvent appends_of_all (by decide)).2.2.2

end AngryUefi.Asr
