import AngryUefi.Asr.IbsInit
import AngryUefi.Cores.BootCore
import AngryUefi.Handlers.SlotStore

/-!
# Start-up

`init_ucode` fills slot 0 and the core contexts.  The system starts in the
state that it leaves: core 0 is ready, the other cores that the firmware
reports are present, those that it reports have their buffers, and no slot but
the first one holds anything.
-/

namespace AngryUefi

open AngryUefi.Asr AngryUefi.Bytes AngryUefi.Programs

/-- `core_contexts` in the image. -/
def CoreContext.zero : CoreContext where
  resultBuffer := fun _ => 0
  resultBufferLen := 0
  currentMachineCodeSlotAddress := 0
  currentMicrocodeSlotAddress := 0
  retGpfValue := 0
  retRdtscValue := 0
  faultInfo := none
  recoveryRsp := 0
  coreFunctions := fun _ => ⟨none, none⟩
  heartbeat := 0
  currentMicrocodeLen := 0
  cr3Value := 0
  ibsControl := none
  dsmControl := none
  present := 0
  started := 0
  ready := 0
  jobQueued := 0
  lock := 0

/-- What core 0 finds: its CPUID leaves, CR3, the known updates, and what
`AllocatePages` returns for the events of a core. -/
structure Platform where
  callCpuid : UInt32 → UInt32
  callCpuidEcx : UInt32 → UInt32
  cr3 : UInt64
  updates : ℕ → Memory
  dsmEvents : ℕ → ℕ → DSMEvent

def initIbsForContext (callCpuidEcx : UInt32 → UInt32) (context : CoreContext) : CoreContext :=
  if isIbsSupported callCpuidEcx then
    { context with
      ibsControl := some
        { eventBuffer := fun _ => ⟨0, 0⟩, currentPosition := 0, ibsFilter := 0 } }
  else context

def initDsmForContext (events : ℕ → DSMEvent) (context : CoreContext) : CoreContext :=
  { context with
    dsmControl := some
      { fileHeader := ⟨0, 0, 0, 0, 0, 0⟩, eventBuffer := events, orig := 0 } }

/-- An iteration of `init_core_contexts`. -/
def initCoreContext (platform : Platform) (coreCount : UInt64) (i : ℕ) (context : CoreContext) :
    CoreContext :=
  let current :=
    if UInt64.ofNat i < coreCount then { context with present := 1 } else context
  if current.present ≠ 0 then
    initDsmForContext (platform.dsmEvents i) (initIbsForContext platform.callCpuidEcx
      { current with resultBuffer := fun _ => 0, resultBufferLen := 1024 })
  else current

/-- The contexts after some iterations. -/
def initContextsUpTo (platform : Platform) (coreCount : UInt64) (contexts : ℕ → CoreContext) :
    ℕ → ℕ → CoreContext
  | 0 => contexts
  | i + 1 =>
      let filled := initContextsUpTo platform coreCount contexts i
      Function.update filled i (initCoreContext platform coreCount i (filled i))

namespace Handlers

/-- `init_cores` -/
def initCoreContexts (platform : Platform) : Handler Unit := do
  let coreCount ← getAvailableCores
  modify fun s =>
    let contexts :=
      initContextsUpTo platform coreCount s.machine.contexts maxCoreCount.toNat
    { s with
      machine := { s.machine with
        contexts := Function.update contexts 0
          { contexts 0 with present := 1, started := 1, ready := 1, cr3Value := platform.cr3 } } }

/-- `init_ucode`, but for the interrupt gate; `init_ucode_execute` leaves the
machine code slots as they are and calls `init_cores`. -/
def initUcode (platform : Platform) : Handler Unit := do
  ensureUcodeSlot0 platform.updates (platform.callCpuid 1)
  initCoreContexts platform

end Handlers

/-- The image is loaded, and no processor but the boot processor runs. -/
structure Machine.Loaded (m : Machine) : Prop where
  core0 : m.core0.pc.live = false
  aps : ∀ coreId, (m.aps coreId).pc = .off
  contexts : ∀ coreId, m.contexts coreId = .zero
  histories : ∀ coreId, m.histories coreId = .empty

/-- The state after `init_cores`. -/
structure Machine.AfterInit (m : Machine) : Prop where
  booted : m.Booted
  idle : Pair.Idle (m.contexts 0)

theorem Machine.AfterInit.live {m : Machine} (hinit : m.AfterInit) :
    m.core0.pc.live = false := by
  obtain ⟨result, hpc⟩ := (hinit.booted 1 one_ne_zero).core0
  have hcore0 : m.core0.pc = .returned result := hpc
  rw [hcore0]
  rfl

/-- A context that core 0 has not used yet. -/
structure CoreContext.Unused (context : CoreContext) : Prop where
  started : context.started = 0
  ready : context.ready = 0
  jobQueued : context.jobQueued = 0
  lock : context.lock = 0
  faultInfo : context.faultInfo = none

theorem CoreContext.unused_zero : CoreContext.zero.Unused := ⟨rfl, rfl, rfl, rfl, rfl⟩

/-- `IBSControl` of a core on which nothing has been sampled. -/
def IBSControl.empty : IBSControl where
  eventBuffer := fun _ => ⟨0, 0⟩
  currentPosition := 0
  ibsFilter := 0

/-- The buffers of a core that the firmware reports. -/
structure CoreContext.Equipped (platform : Platform) (i : ℕ) (context : CoreContext) :
    Prop where
  resultBuffer : ∀ offset, context.resultBuffer offset = 0
  resultBufferLen : context.resultBufferLen = 1024
  ibsControl : context.ibsControl =
    if isIbsSupported platform.callCpuidEcx then some .empty else none
  dsmControl : context.dsmControl = some
    { fileHeader := ⟨0, 0, 0, 0, 0, 0⟩, eventBuffer := platform.dsmEvents i, orig := 0 }

/-- No buffer of a context is there. -/
structure CoreContext.Bare (context : CoreContext) : Prop where
  resultBufferLen : context.resultBufferLen = 0
  ibsControl : context.ibsControl = none
  dsmControl : context.dsmControl = none

theorem CoreContext.bare_zero : CoreContext.zero.Bare := ⟨rfl, rfl, rfl⟩

section Contexts

variable (platform : Platform) (coreCount : UInt64)

theorem initIbsForContext_flags (context : CoreContext) :
    (initIbsForContext platform.callCpuidEcx context).present = context.present ∧
      (context.Unused → (initIbsForContext platform.callCpuidEcx context).Unused) := by
  unfold initIbsForContext
  split
  · exact ⟨rfl, fun hunused => ⟨hunused.started, hunused.ready, hunused.jobQueued,
      hunused.lock, hunused.faultInfo⟩⟩
  · exact ⟨rfl, id⟩

theorem initCoreContext_of_reported {i : ℕ} (hreported : UInt64.ofNat i < coreCount) :
    (initCoreContext platform coreCount i .zero).Unused ∧
      (initCoreContext platform coreCount i .zero).present = 1 ∧
      (initCoreContext platform coreCount i .zero).Equipped platform i := by
  obtain ⟨hflag, hunused⟩ := initIbsForContext_flags platform
    { CoreContext.zero with present := 1, resultBuffer := fun _ => 0, resultBufferLen := 1024 }
  have hkept := hunused ⟨rfl, rfl, rfl, rfl, rfl⟩
  simp only [initCoreContext, hreported, if_true, initDsmForContext]
  refine ⟨⟨hkept.started, hkept.ready, hkept.jobQueued, hkept.lock, hkept.faultInfo⟩, hflag,
    ?_⟩
  rw [if_pos (by decide), initIbsForContext]
  split
  · rename_i hsupported
    exact ⟨fun _ => rfl, rfl, by rw [hsupported]; rfl, rfl⟩
  · rename_i hunsupported
    exact ⟨fun _ => rfl, rfl, by rw [if_neg hunsupported]; rfl, rfl⟩

theorem initCoreContext_of_not_reported {i : ℕ} (hreported : ¬ UInt64.ofNat i < coreCount) :
    initCoreContext platform coreCount i .zero = .zero := by
  simp only [initCoreContext, hreported, if_false]
  rfl

theorem initContextsUpTo_apply (contexts : ℕ → CoreContext) (count coreId : ℕ) :
    initContextsUpTo platform coreCount contexts count coreId =
      if coreId < count then initCoreContext platform coreCount coreId (contexts coreId)
      else contexts coreId := by
  induction count with
  | zero => rfl
  | succ count ih =>
      by_cases hlast : coreId = count
      · subst hlast
        simp only [initContextsUpTo, Function.update_self, Nat.lt_succ_self, if_true]
        rw [ih, if_neg (lt_irrefl _)]
      · have hbound : coreId < count + 1 ↔ coreId < count := by omega
        simp only [initContextsUpTo, Function.update_of_ne hlast, ih, hbound]

end Contexts

/-- `get_available_cores`, asked as the question with this number. -/
def Firmware.reportedCores (firmware : Firmware) (number : ℕ) : UInt64 :=
  let answer := firmware.getNumberOfProcessors number
  if answer.1.isError then 0 else answer.2

/-- The table has `MAX_CORE_COUNT` entries. -/
def ReportedCore (coreCount : UInt64) (coreId : ℕ) : Prop :=
  coreId < Handlers.maxCoreCount.toNat ∧ UInt64.ofNat coreId < coreCount

instance (coreCount : UInt64) : DecidablePred (ReportedCore coreCount) := fun _ =>
  inferInstanceAs (Decidable (_ ∧ _))

/-- Core 0 is present in any case. -/
def PresentCore (coreCount : UInt64) (coreId : ℕ) : Prop :=
  coreId = 0 ∨ ReportedCore coreCount coreId

instance (coreCount : UInt64) : DecidablePred (PresentCore coreCount) := fun _ =>
  inferInstanceAs (Decidable (_ ∨ _))

namespace Handlers

variable {firmware : Firmware} {platform : Platform} {s t : Server}

/-- What `init_cores` leaves of the contexts.  Core 0 has no buffers when it is
not among the reported cores. -/
structure CoresReady (platform : Platform) (coreCount : UInt64) (t : Server) : Prop where
  machine : t.machine.AfterInit
  present : ∀ coreId, (t.machine.contexts coreId).present =
    if PresentCore coreCount coreId then 1 else 0
  equipped : ∀ coreId, ReportedCore coreCount coreId →
    (t.machine.contexts coreId).Equipped platform coreId
  bare : ∀ coreId, ¬ ReportedCore coreCount coreId → (t.machine.contexts coreId).Bare
  cr3Value : (t.machine.contexts 0).cr3Value = platform.cr3
  idle : ∀ coreId ≠ 0, (t.machine.contexts coreId).Unused

/-- At most the first ucode slot has changed of what the client can see. -/
structure FirstSlotOnly (s t : Server) : Prop where
  machine : t.machine = s.machine
  trace : t.trace = s.trace
  machineCodes : t.machineCodes = s.machineCodes
  ucodes : ∀ slot ≠ 0, t.ucodes slot = s.ucodes slot

instance : IsPreorder Server FirstSlotOnly where
  refl _ := ⟨rfl, rfl, rfl, fun _ _ => rfl⟩
  trans _ _ _ hleft hright :=
    ⟨hright.machine.trans hleft.machine, hright.trace.trans hleft.trace,
      hright.machineCodes.trans hleft.machineCodes,
      fun slot hslot => (hright.ucodes slot hslot).trans (hleft.ucodes slot hslot)⟩

theorem preparing_firstSlotOnly : Preparing firmware FirstSlotOnly where
  ask := by
    refine Guarantees.get.bind fun _ => Guarantees.bind ?_ fun _ => Guarantees.pure _
    exact Guarantees.modify fun _ => ⟨rfl, rfl, rfl, fun _ _ => rfl⟩
  formatPrint _ _ :=
    Guarantees.read.bind fun _ => Guarantees.modify fun _ => ⟨rfl, rfl, rfl, fun _ _ => rfl⟩
  copyToPayload _ _ := Guarantees.modify fun _ => ⟨rfl, rfl, rfl, fun _ _ => rfl⟩

theorem firstSlotOnly_access (element : Access) :
    Guarantees firmware FirstSlotOnly (access element) :=
  Guarantees.modify fun _ => ⟨rfl, rfl, rfl, fun _ _ => rfl⟩

theorem firstSlotOnly_update (change : Container → Container) :
    Guarantees firmware FirstSlotOnly
      (modify (SlotTable.ucodes.update 0 change) : Handler PUnit) :=
  Guarantees.modify fun _ => ⟨rfl, rfl, rfl, fun _ hslot => Function.update_of_ne hslot _ _⟩

theorem firstSlotOnly_slotOf : Guarantees firmware FirstSlotOnly (slotOf .ucodes 0) :=
  (firstSlotOnly_access _).bind fun _ => Guarantees.get.bind fun _ => Guarantees.pure _

theorem firstSlotOnly_setLength (length : UInt64) :
    Guarantees firmware FirstSlotOnly (setLength .ucodes 0 length) :=
  (firstSlotOnly_access _).bind fun _ => firstSlotOnly_update _

theorem firstSlotOnly_allocatePages :
    Guarantees firmware FirstSlotOnly (allocatePages .ucodes 0) := by
  refine preparing_firstSlotOnly.ask.bind fun number => Guarantees.read.bind fun firmware =>
    (firstSlotOnly_access _).bind fun _ => ?_
  cases firmware.allocatePages number (SlotTable.ucodes.allocSize / 4096) with
  | none => exact (firstSlotOnly_update _).bind fun _ => Guarantees.pure _
  | some memory => exact (firstSlotOnly_update _).bind fun _ => Guarantees.pure _

theorem firstSlotOnly_writeSlot (start : ℕ) (bytes : List UInt8) :
    Guarantees firmware FirstSlotOnly (writeSlot .ucodes 0 start bytes) :=
  (firstSlotOnly_access _).bind fun _ => Guarantees.modify fun _ =>
    ⟨rfl, rfl, rfl, fun _ hslot => Function.update_of_ne hslot _ _⟩

theorem firstSlotOnly_copyUpdate (updates : ℕ → Memory) (entry : Option UcodeDBEntry) :
    Guarantees firmware FirstSlotOnly (copyUpdate updates entry) := by
  cases entry with
  | none => exact Guarantees.pure _
  | some entry =>
      exact (firstSlotOnly_writeSlot _ _).bind fun _ => firstSlotOnly_setLength _

theorem firstSlotOnly_ensureUcodeSlot0 (updates : ℕ → Memory) (myCpuid : UInt32) :
    Guarantees firmware FirstSlotOnly (ensureUcodeSlot0 updates myCpuid) := by
  intro s _ t hrun
  unfold ensureUcodeSlot0 at hrun
  obtain ⟨printed, hprinted, hrest⟩ := (preparing_firstSlotOnly.formatPrint _ _).before_rest hrun
  refine trans_of FirstSlotOnly hprinted ?_
  obtain ⟨container, looked, hslotOf, hrest⟩ := bind_eq_some_iff.mp hrest
  refine trans_of FirstSlotOnly (firstSlotOnly_slotOf _ _ _ hslotOf) ?_
  split at hrest
  · obtain ⟨_, allocated, hallocate, hrest⟩ := bind_eq_some_iff.mp hrest
    obtain ⟨_, measured, hlength, hrest⟩ := bind_eq_some_iff.mp hrest
    refine trans_of FirstSlotOnly (firstSlotOnly_allocatePages _ _ _ hallocate)
      (trans_of FirstSlotOnly (firstSlotOnly_setLength _ _ _ _ hlength) ?_)
    obtain ⟨_, copied, hcopy, hset⟩ := bind_eq_some_iff.mp hrest
    refine trans_of FirstSlotOnly (firstSlotOnly_copyUpdate _ _ _ _ _ hcopy) ?_
    cases hset
    exact ⟨rfl, rfl, rfl, fun _ _ => rfl⟩
  · cases hrest
    exact refl_of FirstSlotOnly _

section Filled

variable {contexts : ℕ → CoreContext} (platform : Platform) (coreCount : UInt64)

theorem initContextsUpTo_of_reported (hzero : ∀ coreId, contexts coreId = .zero) {coreId : ℕ}
    (hreported : ReportedCore coreCount coreId) :
    initContextsUpTo platform coreCount contexts maxCoreCount.toNat coreId =
      initCoreContext platform coreCount coreId .zero := by
  rw [initContextsUpTo_apply, hzero, if_pos hreported.1]

theorem initContextsUpTo_of_not_reported (hzero : ∀ coreId, contexts coreId = .zero)
    {coreId : ℕ} (hreported : ¬ ReportedCore coreCount coreId) :
    initContextsUpTo platform coreCount contexts maxCoreCount.toNat coreId = .zero := by
  rw [initContextsUpTo_apply, hzero]
  split
  · rename_i hinside
    exact initCoreContext_of_not_reported platform coreCount fun hless =>
      hreported ⟨hinside, hless⟩
  · rfl

theorem unused_initContextsUpTo (hzero : ∀ coreId, contexts coreId = .zero) (coreId : ℕ) :
    (initContextsUpTo platform coreCount contexts maxCoreCount.toNat coreId).Unused := by
  by_cases hreported : ReportedCore coreCount coreId
  · rw [initContextsUpTo_of_reported platform coreCount hzero hreported]
    exact (initCoreContext_of_reported platform coreCount hreported.2).1
  · rw [initContextsUpTo_of_not_reported platform coreCount hzero hreported]
    exact CoreContext.unused_zero

theorem present_initContextsUpTo (hzero : ∀ coreId, contexts coreId = .zero) {coreId : ℕ}
    (hcoreId : coreId ≠ 0) :
    (initContextsUpTo platform coreCount contexts maxCoreCount.toNat coreId).present =
      if PresentCore coreCount coreId then 1 else 0 := by
  have hpresent : PresentCore coreCount coreId ↔ ReportedCore coreCount coreId :=
    or_iff_right hcoreId
  by_cases hreported : ReportedCore coreCount coreId
  · rw [initContextsUpTo_of_reported platform coreCount hzero hreported,
      if_pos (hpresent.mpr hreported)]
    exact (initCoreContext_of_reported platform coreCount hreported.2).2.1
  · rw [initContextsUpTo_of_not_reported platform coreCount hzero hreported,
      if_neg fun hcore => hreported (hpresent.mp hcore)]
    rfl

end Filled

theorem getAvailableCores_reported {coreCount : UInt64}
    (hrun : getAvailableCores firmware s = some (coreCount, t)) :
    coreCount = firmware.reportedCores s.clock ∧ t.originalUcode = s.originalUcode := by
  obtain ⟨_, _, hask, hrest⟩ := bind_eq_some_iff.mp hrun
  cases hask
  obtain ⟨_, _, hread, hrest⟩ := bind_eq_some_iff.mp hrest
  cases hread
  rw [Firmware.reportedCores]
  dsimp only at hrest ⊢
  split at hrest
  · rename_i herror
    cases hrest
    exact ⟨(if_pos herror).symm, rfl⟩
  · rename_i hsuccess
    cases hrest
    exact ⟨(if_neg hsuccess).symm, rfl⟩

/-- Core 0's context is idle and nobody has used the others. -/
theorem afterInit_of_unused {m : Machine} (hloaded : m.Loaded) {contexts : ℕ → CoreContext}
    (hidle : Pair.Idle (contexts 0)) (hunused : ∀ coreId ≠ 0, (contexts coreId).Unused) :
    Machine.AfterInit { m with contexts } := by
  refine ⟨fun coreId hcoreId => ?_, hidle⟩
  obtain ⟨hstarted, hready, hjobQueued, hlock, hfaultInfo⟩ := hunused coreId hcoreId
  obtain ⟨result, hpc⟩ := Core0Pc.returned_of_not_live hloaded.core0
  exact ⟨hcoreId, ⟨result, hpc⟩, hloaded.aps coreId, hfaultInfo, hstarted, hready, hjobQueued,
    hlock, hloaded.histories coreId⟩

theorem initCoreContexts_ready (hloaded : s.machine.Loaded)
    (hrun : initCoreContexts platform firmware s = some ((), t)) :
    CoresReady platform (firmware.reportedCores s.clock) t ∧
      FirstSlotOnly s { t with machine := s.machine } ∧ KeepsSlots s t ∧
        t.originalUcode = s.originalUcode := by
  obtain ⟨coreCount, counted, hcount, hfill⟩ := bind_eq_some_iff.mp hrun
  have hsame := preparing_firstSlotOnly.getAvailableCores _ _ _ hcount
  have hslots := sending_keepsSlots.getAvailableCores _ _ _ hcount
  obtain ⟨hreported, horiginal⟩ := getAvailableCores_reported hcount
  rw [← hreported]
  cases hfill
  have hzero : ∀ coreId, counted.machine.contexts coreId = .zero := by
    rw [hsame.machine]
    exact hloaded.contexts
  have hunused := unused_initContextsUpTo platform coreCount hzero
  refine ⟨?_, ⟨rfl, hsame.trace, hsame.machineCodes, hsame.ucodes⟩,
    ⟨hslots.ucodes, hslots.machineCodes, hslots.slotWrites⟩, horiginal⟩
  constructor
  case machine =>
    rw [← hsame.machine] at hloaded
    refine afterInit_of_unused hloaded ?_ fun coreId hcoreId => ?_
    · rw [Function.update_self]
      exact ⟨rfl, rfl, (hunused 0).lock, rfl, (hunused 0).jobQueued⟩
    · rw [Function.update_of_ne hcoreId]
      exact hunused coreId
  case present =>
    intro coreId
    by_cases hcoreId : coreId = 0
    · subst hcoreId
      simp [PresentCore]
    · simp only [Function.update_of_ne hcoreId]
      exact present_initContextsUpTo platform coreCount hzero hcoreId
  case equipped =>
    intro coreId hreported
    have hequipped := (initCoreContext_of_reported platform coreCount hreported.2).2.2
    rw [← initContextsUpTo_of_reported platform coreCount hzero hreported] at hequipped
    by_cases hcoreId : coreId = 0
    · subst hcoreId
      simp only [Function.update_self]
      exact ⟨hequipped.resultBuffer, hequipped.resultBufferLen, hequipped.ibsControl,
        hequipped.dsmControl⟩
    · simp only [Function.update_of_ne hcoreId]
      exact hequipped
  case bare =>
    intro coreId hreported
    have hbare := CoreContext.bare_zero
    rw [← initContextsUpTo_of_not_reported platform coreCount hzero hreported] at hbare
    by_cases hcoreId : coreId = 0
    · subst hcoreId
      simp only [Function.update_self]
      exact ⟨hbare.resultBufferLen, hbare.ibsControl, hbare.dsmControl⟩
    · simp only [Function.update_of_ne hcoreId]
      exact hbare
  case cr3Value => simp only [Function.update_self]
  case idle =>
    intro coreId hcoreId
    simp only [Function.update_of_ne hcoreId]
    exact hunused coreId

/-- Slot 0 holds an update. -/
structure HoldsUpdate (update : Memory) (entry : UcodeDBEntry) (container : Container) : Prop where
  address : container.address ≠ none
  length : container.length = entry.updateLength.toUInt64
  contents : container.contents.read 0 entry.updateLength.toNat =
    update.read 0 entry.updateLength.toNat

/-- What `ensure_ucode_slot_0` leaves of slot 0 when it was empty, and where
`original_ucode` points. -/
structure Slot0Ready (updates : ℕ → Memory) (myCpuid : UInt32) (t : Server) : Prop where
  address : (t.ucodes 0).address ≠ none
  originalUcode : t.originalUcode = (t.ucodes 0).address
  update : ∀ entry, getUpdateForCpuid myCpuid = some entry →
    HoldsUpdate (updates entry.template) entry (t.ucodes 0)
  unknown : getUpdateForCpuid myCpuid = none →
    (t.ucodes 0).length = UInt64.ofNat ucodeAllocSize

theorem Slot0Ready.keepsSlots {updates : ℕ → Memory} {myCpuid : UInt32}
    (hready : Slot0Ready updates myCpuid s) (hkeeps : KeepsSlots s t)
    (horiginal : t.originalUcode = s.originalUcode) : Slot0Ready updates myCpuid t := by
  obtain ⟨haddress, hpointer, hupdate, hunknown⟩ := hready
  rw [← hkeeps.ucodes] at haddress hpointer hupdate hunknown
  exact ⟨haddress, horiginal.trans hpointer, hupdate, hunknown⟩

/-- The slots are as they were, and the firmware has not been asked. -/
structure Unasked (s t : Server) : Prop where
  ucodes : t.ucodes = s.ucodes
  clock : t.clock = s.clock

instance : IsPreorder Server Unasked where
  refl _ := ⟨rfl, rfl⟩
  trans _ _ _ hleft hright :=
    ⟨hright.ucodes.trans hleft.ucodes, hright.clock.trans hleft.clock⟩

theorem allocatePages_slot0 (hallocates : firmware.Allocates) {allocated : Bool}
    (hrun : allocatePages .ucodes 0 firmware s = some (allocated, t)) :
    (t.ucodes 0).address ≠ none ∧ t.clock = s.clock + 1 := by
  obtain ⟨number, _, hask, hallocate⟩ := bind_eq_some_iff.mp hrun
  cases hask
  obtain ⟨_, _, hread, hallocate⟩ := bind_eq_some_iff.mp hallocate
  cases hread
  obtain ⟨_, _, haccess, hallocate⟩ := bind_eq_some_iff.mp hallocate
  cases haccess
  cases hpages : firmware.allocatePages s.clock (SlotTable.ucodes.allocSize / 4096) with
  | none => exact absurd hpages (hallocates _ _)
  | some memory =>
      simp only [hpages] at hallocate
      cases hallocate
      exact ⟨by simp [SlotTable.update], rfl⟩

/-- Slot 0 stays where it is. -/
theorem copyUpdate_slot0 {updates : ℕ → Memory} {found : Option UcodeDBEntry}
    (haddress : (s.ucodes 0).address ≠ none)
    (hrun : copyUpdate updates found firmware s = some ((), t)) :
    (t.ucodes 0).address ≠ none ∧ t.clock = s.clock ∧
      (∀ entry, found = some entry →
        HoldsUpdate (updates entry.template) entry (t.ucodes 0)) ∧
      (found = none → (t.ucodes 0).length = (s.ucodes 0).length) := by
  cases found with
  | none =>
      cases hrun
      exact ⟨haddress, rfl, by rintro _ ⟨⟩, fun _ => rfl⟩
  | some entry =>
      obtain ⟨_, written, hwrite, hlength⟩ := bind_eq_some_iff.mp hrun
      cases hwrite
      cases hlength
      have hread := Memory.read_write (s.ucodes 0).contents 0
        ((updates entry.template).read 0 entry.updateLength.toNat)
      rw [Memory.length_read] at hread
      refine ⟨haddress, rfl, ?_, by rintro ⟨⟩⟩
      rintro _ ⟨⟩
      exact ⟨haddress, rfl, hread⟩

/-- The pages of slot 0 are the only question to the firmware. -/
theorem ensureUcodeSlot0_ready (hallocates : firmware.Allocates) {updates : ℕ → Memory}
    {myCpuid : UInt32} (hempty : (s.ucodes 0).address = none)
    (hrun : ensureUcodeSlot0 updates myCpuid firmware s = some ((), t)) :
    Slot0Ready updates myCpuid t ∧ t.clock = s.clock + 1 := by
  unfold ensureUcodeSlot0 at hrun
  have hprint : Guarantees firmware Unasked (formatPrint
      "Warning: No known good update for CPUID 0x%x! Load ucode slot 0!\n"
        [myCpuid.toUInt64]) :=
    Guarantees.read.bind fun _ => Guarantees.modify fun _ => ⟨rfl, rfl⟩
  obtain ⟨printed, hprinted, hrest⟩ := hprint.before_rest hrun
  rw [← hprinted.ucodes] at hempty
  obtain ⟨container, looked, hslotOf, hrest⟩ := bind_eq_some_iff.mp hrest
  cases hslotOf
  rw [if_pos (by simp [SlotTable.slots, hempty])] at hrest
  obtain ⟨_, allocated, hallocate, hrest⟩ := bind_eq_some_iff.mp hrest
  obtain ⟨haddress, hclock⟩ := allocatePages_slot0 hallocates hallocate
  obtain ⟨_, measured, hlength, hrest⟩ := bind_eq_some_iff.mp hrest
  cases hlength
  obtain ⟨_, copied, hcopy, hset⟩ := bind_eq_some_iff.mp hrest
  obtain ⟨hcopied, hlater, hupdate, hunknown⟩ := copyUpdate_slot0 (by exact haddress) hcopy
  cases hset
  refine ⟨⟨hcopied, rfl, hupdate, hunknown⟩, ?_⟩
  exact hlater.trans (hclock.trans (congrArg (· + 1) hprinted.clock))

/-- What the system starts with, when the firmware reports so many cores. -/
structure Ready (platform : Platform) (coreCount : UInt64) (t : Server) : Prop where
  cores : CoresReady platform coreCount t
  slots : SlotInvariant t
  slot0 : Slot0Ready platform.updates (platform.callCpuid 1) t
  empty : ∀ (table : SlotTable) slot, table = .machineCodes ∨ slot ≠ 0 →
    (table.slots t slot).address = none ∧ (table.slots t slot).length = 0

theorem ready_of_initUcode (hallocates : firmware.Allocates) (hloaded : s.machine.Loaded)
    (hblank : Blank s) (hrun : initUcode platform firmware s = some ((), t)) :
    Ready platform (firmware.reportedCores (s.clock + 1)) t ∧ t.trace = s.trace := by
  obtain ⟨_, filled, hslot, hcontexts⟩ := bind_eq_some_iff.mp hrun
  have hfirst := firstSlotOnly_ensureUcodeSlot0 _ _ _ _ _ hslot
  rw [← hfirst.machine] at hloaded
  obtain ⟨hcores, hlater, hkeeps, horiginal⟩ := initCoreContexts_ready hloaded hcontexts
  have hinitialised : Initialised firmware filled := ⟨_, _, s, hblank, hslot⟩
  obtain ⟨hslot0, hclock⟩ :=
    ensureUcodeSlot0_ready hallocates (hblank.slots .ucodes 0).1 hslot
  rw [hclock] at hcores
  refine ⟨⟨hcores, (hinitialised.invariant hallocates).keepsSlots hkeeps,
    hslot0.keepsSlots hkeeps horiginal, ?_⟩, hlater.trace.trans hfirst.trace⟩
  intro table slot hother
  cases table with
  | machineCodes =>
      simp only [SlotTable.slots, hkeeps.machineCodes, hfirst.machineCodes]
      exact hblank.slots .machineCodes slot
  | ucodes =>
      have hslot0 : slot ≠ 0 := hother.resolve_left (by rintro ⟨⟩)
      simp only [SlotTable.slots, hkeeps.ucodes, hfirst.ucodes slot hslot0]
      exact hblank.slots .ucodes slot

/-- Whatever number of processors the firmware reports, `init_ucode` leaves the
system ready. -/
theorem initUcode_ready (hallocates : firmware.Allocates) (hloaded : s.machine.Loaded)
    (hblank : Blank s) (hrun : initUcode platform firmware s = some ((), t)) :
    Ready platform (firmware.reportedCores (s.clock + 1)) t ∧ t.trace = s.trace :=
  ready_of_initUcode hallocates hloaded hblank hrun

/-- The image with nothing in it. -/
def loadedServer : Server :=
  { idleServer with
    machine := { Machine.afterInit with contexts := fun _ => .zero } }

theorem loaded_loadedServer : loadedServer.machine.Loaded :=
  ⟨rfl, fun _ => rfl, fun _ => rfl, fun _ => rfl⟩

/-- A processor that the database has an update for. -/
def knownPlatform : Platform where
  callCpuid _ := 0x00A20F12
  callCpuidEcx _ := 0
  cr3 := 0x1000
  updates _ _ := 0x21
  dsmEvents _ _ := ⟨0, 0⟩

theorem blank_loadedServer : Blank loadedServer :=
  ⟨blank_idleServer.slots, blank_idleServer.writes⟩

theorem initUcode_ready_loadedServer :
    ∃ t, initUcode knownPlatform loopback loadedServer = some ((), t) ∧
      (t.ucodes 0).length = 5568 ∧ (t.machine.contexts 3).present = 1 ∧
      (t.machine.contexts 4).present = 0 ∧
      Ready knownPlatform (loopback.reportedCores 1) t ∧ t.trace = loadedServer.trace := by
  obtain ⟨t, hrun, hlength, hpresent, habsent⟩ :
      ∃ t, initUcode knownPlatform loopback loadedServer = some ((), t) ∧
        (t.ucodes 0).length = 5568 ∧ (t.machine.contexts 3).present = 1 ∧
        (t.machine.contexts 4).present = 0 := ⟨_, rfl, rfl, by rfl, by rfl⟩
  exact ⟨t, hrun, hlength, hpresent, habsent,
    initUcode_ready allocates_loopback loaded_loadedServer blank_loadedServer hrun⟩

end Handlers

end AngryUefi
