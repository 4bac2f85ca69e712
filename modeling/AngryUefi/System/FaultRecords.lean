import AngryUefi.Lib.Transition
import AngryUefi.System.FaultDelivery

/-!
# What a fault leaves behind

The record after the faults of a job, and the registers of code that a #GP
handler resumes.  `proto_handler_13` returns with RCX changed, and a vector
without an error code leaves the error code of the fault before it in the
record.
-/

namespace AngryUefi.System

open AngryUefi.X86 AngryUefi.AddressSpace Workspace
open AngryUefi.Transition (Run)

variable {w : Workspace} {m : Cpu} {vector : ℕ} {errorCode : UInt64}

/-! ## Resuming -/

/-- The interrupted code goes on behind its two-byte instruction, with 0xDEAD
in RAX. -/
structure ResumesBehind (m resumed : Cpu) : Prop where
  rip : resumed.rip = m.rip + 2
  cs : resumed.cs = m.cs
  rflags : resumed.rflags = m.rflags
  reg : resumed.reg = Function.update m.reg .rax 0xDEAD

/-- A #GP on core 0, whose gate 13 holds `gpf_handler`. -/
def deliverOnCore0 (image : Image Label) (depth : ℕ) (errorCode : UInt64) (m : Cpu) :
    Outcome :=
  exec image code depth .gpfHandler (m.interrupt (some errorCode) (image.address .gpfHandler))

theorem resumesBehind_deliverOnCore0 (image : Image Label) (depth : ℕ) :
    (deliverOnCore0 image (depth + 1) errorCode m).Interrupted fun final =>
      ResumesBehind m final.interruptReturn := by
  refine (interrupted_gpfHandler image (exec image code depth)
    (m.interrupt (some errorCode) (image.address .gpfHandler))).mono fun final hfinal => ?_
  obtain ⟨hreg, hmemory⟩ := hfinal
  have hframe : HoldsFrame m (m.interrupt (some errorCode) (image.address .gpfHandler)).memory
      (m.frameEntry (some errorCode) + 8) := Cpu.holdsFrame_interrupt_some
  rw [Cpu.reg_interrupt, Function.update_self] at hreg hmemory
  have hrsp : final.reg .rsp = m.frameEntry (some errorCode) + 8 := by
    rw [hreg, Function.update_self]
  have hword (place : UInt64) (hlow : 8 ≤ place.toNat)
      (hhigh : place.toNat + 8 ≤ 18446744073709551616) :
      final.peek place = (m.interrupt (some errorCode) (image.address .gpfHandler)).memory.load
        (m.frameEntry (some errorCode) + 8 + place) := by
    rw [Cpu.peek, hrsp, hmemory, load_store_add hlow hhigh]
  constructor
  case rip =>
    change final.top = _
    rw [Cpu.top, hrsp, hmemory, load_store, hframe.rip]
  case cs => exact (hword 8 (by decide) (by decide)).trans hframe.cs
  case rflags => exact (hword 16 (by decide) (by decide)).trans hframe.rflags
  case reg =>
    have hold : final.peek 24 = m.reg .rsp := (hword 24 (by decide) (by decide)).trans hframe.rsp
    rw [Cpu.reg_interruptReturn, hold, hreg]
    funext r
    cases r <;> simp [Function.update]

/-- The core's own handler resumes the code with the RSP of its entry in RCX. -/
structure ResumesWithRcx (m resumed : Cpu) (rcx : UInt64) : Prop where
  rip : resumed.rip = m.rip + 2
  cs : resumed.cs = m.cs
  rflags : resumed.rflags = m.rflags
  reg : resumed.reg = Function.update (Function.update m.reg .rcx rcx) .rax 0xDEAD

theorem resumesWithRcx_deliver (hf : Arrives w 13 errorCode m) (depth : ℕ) :
    (deliver w.image (depth + 2) 13 errorCode m).Interrupted fun final =>
      ResumesWithRcx m final.interruptReturn w.entry := by
  have hframe := (hf.holdsFrame_of_mem (by decide)).1
  refine (hf.delivered_generalProtection depth).mono fun final hfinal => ?_
  obtain ⟨hrip, hreg, hend⟩ := hfinal
  have hword (place : UInt64) (hlow : 8 ≤ place.toNat) (hhigh : place.toNat ≤ 32) :
      final.peek place =
        (entered w.image 13 errorCode m).memory.load (w.entry + 8 + place) := by
    have height : (8 : UInt64).toNat = 8 := rfl
    have hsum : (8 + place).toNat = 8 + place.toNat := by
      rw [UInt64.toNat_add, height]
      omega
    rw [Cpu.peek, hend.rsp, add_assoc, hend.frame _ (by omega) (by omega)]
  constructor
  case rip => exact hrip.trans (congrArg (· + 2) hframe.rip)
  case cs => exact (hword 8 (by decide) (by decide)).trans hframe.cs
  case rflags => exact (hword 16 (by decide) (by decide)).trans hframe.rflags
  case reg =>
    have hold : final.peek 24 = m.reg .rsp := (hword 24 (by decide) (by decide)).trans hframe.rsp
    rw [Cpu.reg_interruptReturn, hold, hreg, entered, Cpu.reg_interrupt]
    funext r
    cases r <;> simp [Function.update]

theorem ResumesWithRcx.resumesBehind_iff_rcx {resumed : Cpu} {rcx : UInt64}
    (hresumed : ResumesWithRcx m resumed rcx) : ResumesBehind m resumed ↔ m.reg .rcx = rcx := by
  constructor
  · intro hbehind
    have hreg := congrFun (hbehind.reg.symm.trans hresumed.reg) .rcx
    simpa using hreg
  · intro hrcx
    have hsame : Function.update m.reg .rcx rcx = m.reg := by
      rw [← hrcx, Function.update_eq_self]
    exact ⟨hresumed.rip, hresumed.cs, hresumed.rflags, by rw [hresumed.reg, hsame]⟩

/-- Both #GP handlers resume the code with its registers exactly when RCX is
what the core's handler leaves there. -/
theorem resumesBehind_iff (hf : Arrives w 13 errorCode m) (depth : ℕ) :
    ((deliver w.image (depth + 2) 13 errorCode m).Interrupted fun final =>
        ResumesBehind m final.interruptReturn) ∧
      ((deliverOnCore0 w.image (depth + 1) errorCode m).Interrupted fun final =>
        ResumesBehind m final.interruptReturn) ↔
    m.reg .rcx = (m.reg .rsp &&& 0xFFFFFFFFFFFFFFF0) - 48 := by
  have hentry : w.entry = (m.reg .rsp &&& 0xFFFFFFFFFFFFFFF0) - 48 := hf.entry
  have hresumed := resumesWithRcx_deliver hf depth
  rw [← hentry]
  constructor
  · rintro ⟨hbehind, -⟩
    by_contra hrcx
    refine Outcome.not_interrupted_of hresumed (fun final hfinal => ?_) hbehind
    rwa [hfinal.resumesBehind_iff_rcx]
  · intro hrcx
    refine ⟨hresumed.mono fun final hfinal => ?_, resumesBehind_deliverOnCore0 w.image depth⟩
    exact hfinal.resumesBehind_iff_rcx.mpr hrcx

theorem resumesBehind_iff_sample :
    ((deliver (sampleWorkspace 13).image 2 13 0 sampleMachine).Interrupted fun final =>
        ResumesBehind sampleMachine final.interruptReturn) ∧
      ((deliverOnCore0 (sampleWorkspace 13).image 1 0 sampleMachine).Interrupted fun final =>
        ResumesBehind sampleMachine final.interruptReturn) ↔
    sampleMachine.reg .rcx = (sampleMachine.reg .rsp &&& 0xFFFFFFFFFFFFFFF0) - 48 :=
  resumesBehind_iff (arrives_sample (by decide) 0) 0

/-- A write of the patch loader's register that faults. -/
theorem not_resumesBehind_sample :
    ¬∀ (w : Workspace) (m : Cpu) (errorCode : UInt64), Arrives w 13 errorCode m →
      ((deliver w.image 2 13 errorCode m).Interrupted fun final =>
        ResumesBehind m final.interruptReturn) ∧
      ((deliverOnCore0 w.image 1 errorCode m).Interrupted fun final =>
        ResumesBehind m final.interruptReturn) := by
  intro hall
  have harrives := arrives_sample (show 13 < 256 by decide) 0
  refine Outcome.not_interrupted_of (resumesWithRcx_deliver harrives 0) (fun final hfinal => ?_)
    (hall _ _ _ harrives).1
  rw [hfinal.resumesBehind_iff_rcx]
  decide

/-! ## Recording -/

/-- A core's copy of the stubs, with its context and record. -/
structure StubCopy where
  image : Image Label
  context : UInt64
  info : UInt64

/-- A fault in code that runs at privilege level 0; bit 1 of RFLAGS is always
set. -/
structure Fault where
  machine : Cpu
  vector : ℕ
  errorCode : UInt64
  supervisor : machine.cs &&& 3 = 0
  fixedFlag : machine.rflags &&& 2 = 2

/-- Where the handler of a fault works. -/
def StubCopy.workspace (core : StubCopy) (f : Fault) : Workspace where
  image := core.image
  context := core.context
  info := core.info
  entry := f.machine.frameEntry (pushedErrorCode f.vector f.errorCode)

namespace Fault

def Reaches (core : StubCopy) (f : Fault) : Prop :=
  Arrives (core.workspace f) f.vector f.errorCode f.machine

/-- What the record is to say of a fault. -/
def description (core : StubCopy) (f : Fault) : CoreFaultInfo where
  faultOccured := 1
  faultNumber :=
    if f.vector < protoFaultHandlersOffsets.length then UInt64.ofNat f.vector else 0x100
  errorCode := (pushedErrorCode f.vector f.errorCode).getD 0
  oldRip := f.machine.rip
  raxValue := f.machine.reg .rax
  rbxValue := f.machine.reg .rbx
  rcxValue := f.machine.reg .rcx
  rdxValue := f.machine.reg .rdx
  rsiValue := f.machine.reg .rsi
  rdiValue := f.machine.reg .rdi
  rspValue := (core.workspace f).entry
  rbpValue := f.machine.reg .rbp
  r8Value := f.machine.reg .r8
  r9Value := f.machine.reg .r9
  r10Value := f.machine.reg .r10
  r11Value := f.machine.reg .r11
  r12Value := f.machine.reg .r12
  r13Value := f.machine.reg .r13
  r14Value := f.machine.reg .r14
  r15Value := f.machine.reg .r15
  rflagsValue := f.machine.rflags
  cr0Value := f.machine.control .cr0
  cr2Value := f.machine.control .cr2
  cr3Value := f.machine.control .cr3
  cr4Value := f.machine.control .cr4
  csValue := f.machine.cs
  originalRsp := f.machine.reg .rsp

end Fault

/-- Vectors whose installed handler stores the error code. -/
def storingVectors : List ℕ := [8, 10, 11, 12, 13, 14, 17]

/-- Vectors with an error code that the fallback handler serves. -/
def shiftedVectors : List ℕ := [21, 29, 30]

/-- What the record does say: the error code of an earlier fault may be left,
and the words of a frame may be one too low. -/
def Fault.recorded (core : StubCopy) (f : Fault) (before : CoreFaultInfo) : CoreFaultInfo :=
  { f.description core with
    faultNumber := installedNumber f.vector
    errorCode := if f.vector ∈ storingVectors then f.errorCode else before.errorCode
    oldRip := if f.vector ∈ shiftedVectors then f.errorCode else f.machine.rip
    csValue := if f.vector ∈ shiftedVectors then f.machine.rip else f.machine.cs
    rflagsValue := if f.vector ∈ shiftedVectors then f.machine.cs else f.machine.rflags
    originalRsp := if f.vector ∈ shiftedVectors then f.machine.rflags else f.machine.reg .rsp }

/-- A fault of the job: its handler starts from the record that the fault
before it left. -/
def faultStep (core : StubCopy) (f : Fault) (before : CoreFaultInfo) : Option CoreFaultInfo :=
  match deliver core.image 2 f.vector f.errorCode f.machine with
  | .interruptReturned final =>
      if (core.workspace f).faultInfo f.machine.memory = before then
        some ((core.workspace f).faultInfo final.memory)
      else none
  | _ => none

variable {core : StubCopy} {f : Fault} {before : CoreFaultInfo}

theorem faultStep_of_interrupted {recorded : CoreFaultInfo}
    (hfound : (core.workspace f).faultInfo f.machine.memory = before)
    (hends : (deliver core.image 2 f.vector f.errorCode f.machine).Interrupted fun final =>
      (core.workspace f).faultInfo final.memory = recorded) :
    faultStep core f before = some recorded := by
  rw [faultStep]
  cases hrun : deliver core.image 2 f.vector f.errorCode f.machine with
  | interruptReturned final =>
      rw [hrun] at hends
      simp only [if_pos hfound]
      exact congrArg some hends
  | _ =>
      rw [hrun] at hends
      exact hends.elim

/-- The registers and a frame that a handler finds. -/
theorem frameRecorded_entered (handlerId slot : UInt64) :
    frameRecorded (entered core.image f.vector f.errorCode f.machine).memory slot
        (innerRecorded handlerId (entered core.image f.vector f.errorCode f.machine) before) =
      { f.description core with
        faultNumber := handlerId
        errorCode := before.errorCode
        oldRip := (entered core.image f.vector f.errorCode f.machine).memory.load slot
        csValue := (entered core.image f.vector f.errorCode f.machine).memory.load (slot + 8)
        rflagsValue := (entered core.image f.vector f.errorCode f.machine).memory.load (slot + 16)
        originalRsp :=
          (entered core.image f.vector f.errorCode f.machine).memory.load (slot + 24) } := by
  have hreg : (entered core.image f.vector f.errorCode f.machine).reg =
      Function.update f.machine.reg .rsp (core.workspace f).entry := Cpu.reg_interrupt
  have hcontrol : (entered core.image f.vector f.errorCode f.machine).control =
      f.machine.control := Cpu.control_interrupt
  simp only [frameRecorded, innerRecorded, registersRecorded, hreg, hcontrol, Fault.description,
    Function.update_self, Function.update_of_ne, ne_eq, reduceCtorEq, not_false_eq_true]

/-- A handler that reads the frame where the processor put it. -/
theorem recorded_of_holdsFrame {slot : UInt64}
    (hframe : HoldsFrame f.machine
      (entered core.image f.vector f.errorCode f.machine).memory slot)
    (hshifted : f.vector ∉ shiftedVectors) :
    frameRecorded (entered core.image f.vector f.errorCode f.machine).memory slot
        (innerRecorded (installedNumber f.vector)
          (entered core.image f.vector f.errorCode f.machine) before) =
      { f.recorded core before with errorCode := before.errorCode } := by
  rw [frameRecorded_entered, hframe.rip, hframe.cs, hframe.rflags, hframe.rsp]
  simp only [Fault.recorded, if_neg hshifted]

theorem faultStep_eq (hf : f.Reaches core)
    (hfound : (core.workspace f).faultInfo f.machine.memory = before) :
    faultStep core f before = some (f.recorded core before) := by
  apply faultStep_of_interrupted hfound
  have hstoring : f.vector ∈ storingVectors →
      f.vector ∈ errorCodeVectors ∧ f.vector ∉ shiftedVectors := by
    simp only [storingVectors, errorCodeVectors, shiftedVectors, List.mem_cons, List.not_mem_nil,
      or_false]
    omega
  have hstored (hcode : f.vector ∈ storingVectors) :
      { frameRecorded (entered core.image f.vector f.errorCode f.machine).memory
          ((core.workspace f).entry + 8)
          (innerRecorded (installedNumber f.vector)
            (entered core.image f.vector f.errorCode f.machine) before) with
        errorCode := (entered core.image f.vector f.errorCode f.machine).memory.load
          (core.workspace f).entry } = f.recorded core before := by
    obtain ⟨hframe, hload⟩ := hf.holdsFrame_of_mem (hstoring hcode).1
    rw [recorded_of_holdsFrame hframe (hstoring hcode).2]
    have hloaded : (entered core.image f.vector f.errorCode f.machine).memory.load
        (core.workspace f).entry = f.errorCode := hload
    simp only [hloaded, Fault.recorded, if_pos hcode]
  by_cases hdouble : f.vector = 8
  · obtain ⟨machine, vector, code, hsupervisor, hfixed⟩ := f
    obtain rfl : vector = 8 := hdouble
    refine (Arrives.delivered_doubleFault hf 0).mono fun final hfinal => ?_
    rw [hfinal.2.faultInfo, hfound]
    exact hstored (show 8 ∈ storingVectors by decide)
  by_cases hprotection : f.vector = 13
  · obtain ⟨machine, vector, code, hsupervisor, hfixed⟩ := f
    obtain rfl : vector = 13 := hprotection
    refine (Arrives.delivered_generalProtection hf 0).mono fun final hfinal => ?_
    rw [hfinal.2.2.faultInfo, hfound]
    exact hstored (show 13 ∈ storingVectors by decide)
  by_cases hpopping : f.vector ∈ poppingVectors
  · have hcode : f.vector ∈ storingVectors := by
      simp only [poppingVectors, storingVectors, List.mem_cons, List.not_mem_nil, or_false]
        at hpopping ⊢
      omega
    refine (hf.delivered_withErrorCode 0 hpopping).mono fun final hfinal => ?_
    rw [hfinal.2.faultInfo, hfound]
    exact hstored hcode
  have hends := hf.delivered_noErrorCode 0 hdouble hprotection hpopping
  have hnotStoring : f.vector ∉ storingVectors := by
    simp only [poppingVectors, storingVectors, List.mem_cons, List.not_mem_nil, or_false]
      at hpopping ⊢
    omega
  refine hends.mono fun final hfinal => ?_
  rw [hfinal.2.faultInfo, hfound]
  by_cases hcode : f.vector ∈ errorCodeVectors
  · have hshifted : f.vector ∈ shiftedVectors := by
      simp only [errorCodeVectors, shiftedVectors, storingVectors, List.mem_cons,
        List.not_mem_nil, or_false] at hcode hnotStoring ⊢
      omega
    obtain ⟨hframe, hload⟩ := hf.holdsFrame_of_mem hcode
    have hrip := hframe.rip
    have hcs := hframe.cs
    have hrflags := hframe.rflags
    rw [add_assoc] at hcs hrflags
    refine (frameRecorded_entered _ _).trans ?_
    simp only [Fault.recorded, if_neg hnotStoring, if_pos hshifted]
    congr 1
  · have hshifted : f.vector ∉ shiftedVectors := by
      simp only [errorCodeVectors, shiftedVectors, List.mem_cons, List.not_mem_nil, or_false]
        at hcode ⊢
      omega
    refine (recorded_of_holdsFrame (hf.holdsFrame_of_not_mem hcode) hshifted).trans ?_
    simp only [Fault.recorded, if_neg hnotStoring]

/-- The error code in the record before a fault of the job, the faults before
it most recent first. -/
def staleErrorCode : List (CoreFaultInfo × Fault) → UInt64
  | [] => 0
  | (_, f) :: past =>
      if f.vector ∈ storingVectors then f.errorCode else staleErrorCode past

theorem found_of_faultStep {after : CoreFaultInfo} (hstep : faultStep core f before = some after) :
    (core.workspace f).faultInfo f.machine.memory = before := by
  rw [faultStep] at hstep
  split at hstep
  · split_ifs at hstep with hfound
    exact hfound
  · cases hstep

/-- The record's error code over the faults of a job. -/
theorem errorCode_of_run {past : List (CoreFaultInfo × Fault)}
    (hrun : Run (· = CoreFaultInfo.zero) (faultStep core) past before)
    (hreaches : ∀ entry ∈ past, entry.2.Reaches core) :
    before.errorCode = staleErrorCode past := by
  induction hrun with
  | start hinitial =>
      rw [hinitial]
      rfl
  | @next past s t f hearlier hstep ih =>
      rw [List.forall_mem_cons] at hreaches
      rw [faultStep_eq hreaches.1 (found_of_faultStep hstep), Option.some.injEq] at hstep
      rw [← hstep, staleErrorCode, ← ih hreaches.2]
      rfl

theorem cs_ne_rflags (f : Fault) : f.machine.cs ≠ f.machine.rflags := by
  intro hsame
  have hbit : (f.machine.cs &&& 3) &&& 2 = f.machine.rflags &&& 2 := by
    rw [hsame, UInt64.and_assoc]
    rfl
  rw [f.supervisor, f.fixedFlag] at hbit
  exact absurd hbit (by decide)

/-- The number a fault is to have. -/
theorem installedNumber_eq_iff (vector : ℕ) :
    installedNumber vector =
        (if vector < protoFaultHandlersOffsets.length then UInt64.ofNat vector else 0x100) ↔
      vector ≠ 0 ∧ vector ≠ 21 := by
  have hlength : protoFaultHandlersOffsets.length = 22 := rfl
  rw [installedNumber, protoFaultHandlersCount, hlength]
  by_cases hzero : vector = 0
  · subst hzero
    decide
  by_cases hlast : vector = 21
  · subst hlast
    decide
  rw [if_neg hzero]
  have hsame : vector < 21 ↔ vector < 22 := by omega
  simp only [hsame, ne_eq, hzero, hlast, not_false_eq_true, and_self]

theorem recorded_eq_iff :
    f.recorded core before = f.description core ↔
      f.vector ∉ [0, 21, 29, 30] ∧ (f.vector ∈ errorCodeVectors ∨ before.errorCode = 0) := by
  have hstoring : f.vector ∈ storingVectors ↔
      f.vector ∈ errorCodeVectors ∧ f.vector ∉ shiftedVectors := by
    simp only [storingVectors, errorCodeVectors, shiftedVectors, List.mem_cons, List.not_mem_nil,
      or_false]
    omega
  have hlist : f.vector ∉ [0, 21, 29, 30] ↔
      (f.vector ≠ 0 ∧ f.vector ≠ 21) ∧ f.vector ∉ shiftedVectors := by
    simp only [shiftedVectors, List.mem_cons, List.not_mem_nil, or_false]
    omega
  rw [hlist, ← installedNumber_eq_iff]
  constructor
  · intro hsame
    have hnumber := congrArg CoreFaultInfo.faultNumber hsame
    have hcode := congrArg CoreFaultInfo.errorCode hsame
    have hflags := congrArg CoreFaultInfo.rflagsValue hsame
    have hshifted : f.vector ∉ shiftedVectors := by
      intro hshifted
      simp only [Fault.recorded, if_pos hshifted] at hflags
      exact cs_ne_rflags f hflags
    refine ⟨⟨hnumber, hshifted⟩, ?_⟩
    by_contra hneither
    rw [not_or] at hneither
    have hnotStoring : f.vector ∉ storingVectors := fun h => hneither.1 (hstoring.mp h).1
    simp only [Fault.recorded, if_neg hnotStoring, Fault.description, pushedErrorCode,
      if_neg hneither.1, Option.getD_none] at hcode
    exact hneither.2 hcode
  · rintro ⟨⟨hnumber, hshifted⟩, hcode⟩
    have herror : (if f.vector ∈ storingVectors then f.errorCode else before.errorCode) =
        (pushedErrorCode f.vector f.errorCode).getD 0 := by
      rw [pushedErrorCode]
      by_cases hpushed : f.vector ∈ errorCodeVectors
      · rw [if_pos (hstoring.mpr ⟨hpushed, hshifted⟩), if_pos hpushed]
        rfl
      · rw [if_neg fun h => hpushed (hstoring.mp h).1, if_neg hpushed]
        exact hcode.resolve_left hpushed
    rw [Fault.recorded, herror, hnumber]
    simp only [if_neg hshifted]
    rfl

/-- After the faults of a job the record describes the last of them exactly
when its handler knows its vector and no error code is left. -/
theorem describesLastFault_iff {past : List (CoreFaultInfo × Fault)}
    (hrun : Run (· = CoreFaultInfo.zero) (faultStep core) past before)
    (hreaches : ∀ entry ∈ past, entry.2.Reaches core) (hlast : f.Reaches core)
    (hfound : (core.workspace f).faultInfo f.machine.memory = before) :
    faultStep core f before = some (f.description core) ↔
      f.vector ∉ [0, 21, 29, 30] ∧
        (f.vector ∈ errorCodeVectors ∨ staleErrorCode past = 0) := by
  rw [faultStep_eq hlast hfound, Option.some.injEq, recorded_eq_iff,
    errorCode_of_run hrun hreaches]

def sampleCopy : StubCopy where
  image := sampleImage
  context := 0x3000
  info := 0x4000

/-- The sample machine faults. -/
def sampleFault (vector : ℕ) : Fault where
  machine := sampleMachine
  vector := vector
  errorCode := 0
  supervisor := by decide
  fixedFlag := by decide

theorem workspace_sampleFault (hvector : vector < 256) :
    sampleCopy.workspace (sampleFault vector) = sampleWorkspace vector := by
  have hentry := (arrives_sample hvector 0).entry
  change Workspace.mk sampleImage 0x3000 0x4000
    (sampleMachine.frameEntry (pushedErrorCode vector 0)) = _
  rw [← hentry]
  rfl

theorem reaches_sampleFault (hvector : vector < 256) :
    (sampleFault vector).Reaches sampleCopy := by
  rw [Fault.Reaches, workspace_sampleFault hvector]
  exact arrives_sample hvector 0

theorem faultInfo_sampleFault :
    (sampleCopy.workspace (sampleFault vector)).faultInfo (sampleFault vector).machine.memory =
      .zero := by
  have hfar (address : UInt64) (haddress : address.toNat + 8 ≤ (0x4000 : UInt64).toNat) :
      ∀ index < 27, Apart address (0x4000 + UInt64.ofNat (8 * index)) := by
    intro index hindex
    have hrange : Disjoint address 8 0x4000 216 := disjoint_of_toNat_le haddress (by decide)
    have hplace := @toNat_ofNat_mul index (by omega)
    have hzero : (0 : UInt64).toNat + 8 ≤ 8 := by decide
    have hinside : (UInt64.ofNat (8 * index)).toNat + 8 ≤ 216 := by omega
    have hapart := hrange.apart hzero hinside
    rwa [add_zero] at hapart
  have hrecord : sampleMemory.words 0x4000 27 = fun _ => 0 := by
    rw [sampleMemory, words_store_of_apart (hfar 0x1008 (by decide)),
      words_store_of_apart (hfar 0x3048 (by decide)),
      words_store_of_apart (hfar 0x1000 (by decide))]
    funext index
    simp only [words, load_zero, ite_self]
  have hfound : (sampleCopy.workspace (sampleFault vector)).record
      (sampleFault vector).machine.memory = fun _ => 0 := hrecord
  rw [Workspace.faultInfo, hfound]
  rfl

theorem describesLastFault_iff_sample :
    faultStep sampleCopy (sampleFault 6) .zero = some ((sampleFault 6).description sampleCopy) ↔
      6 ∉ [0, 21, 29, 30] ∧ (6 ∈ errorCodeVectors ∨ staleErrorCode [] = 0) :=
  describesLastFault_iff (.start rfl) (fun _ hentry => absurd hentry (by simp))
    (reaches_sampleFault (by decide)) faultInfo_sampleFault

/-- A division by zero. -/
theorem not_describesLastFault_divideError :
    ¬∀ (core : StubCopy) (past : List (CoreFaultInfo × Fault)) (before : CoreFaultInfo) (f : Fault),
      Run (· = CoreFaultInfo.zero) (faultStep core) past before →
      (∀ entry ∈ past, entry.2.Reaches core) → f.Reaches core →
      (core.workspace f).faultInfo f.machine.memory = before →
        faultStep core f before = some (f.description core) := by
  intro hall
  have hreaches := reaches_sampleFault (show 0 < 256 by decide)
  have hsame := hall sampleCopy [] .zero (sampleFault 0) (.start rfl)
    (fun _ hentry => absurd hentry (by simp)) hreaches faultInfo_sampleFault
  rw [faultStep_eq hreaches faultInfo_sampleFault, Option.some.injEq, recorded_eq_iff] at hsame
  exact absurd hsame.1 (show ¬0 ∉ [0, 21, 29, 30] by decide)

end AngryUefi.System
