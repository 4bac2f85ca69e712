import AngryUefi.System.FaultExits
import Mathlib.Tactic.IntervalCases

/-!
# Faults on a core

A processor delivers a vector through the core's table.  For every vector: what
the installed handler finds on the stack, how it ends, and whether its `iretq`
pops the frame that was pushed.
-/

namespace AngryUefi.System

open AngryUefi.X86 AngryUefi.AddressSpace Workspace

/-- The vectors the processor pushes an error code for. -/
def errorCodeVectors : List ℕ := [8, 10, 11, 12, 13, 14, 17, 21, 29, 30]

def pushedErrorCode (vector : ℕ) (errorCode : UInt64) : Option UInt64 :=
  if vector ∈ errorCodeVectors then some errorCode else none

/-- The processor goes through the gate of the vector; it runs the installed
handler when the gate leads to it. -/
def deliver (image : Image Label) (depth vector : ℕ) (errorCode : UInt64) (m : Cpu) :
    Outcome :=
  match (initFaultHandlersOnCore image)[vector]? with
  | none => .lost
  | some gate =>
      if gate.LeadsTo (image.address (installedHandler vector)) then
        exec image code depth (installedHandler vector)
          (m.interrupt (pushedErrorCode vector errorCode) gate.handlerAddress)
      else .lost

/-- What the installed handler writes as the fault number. -/
def installedNumber (vector : ℕ) : UInt64 :=
  if vector = 0 then 1
  else if vector < protoFaultHandlersCount then UInt64.ofNat vector
  else 0x100

/-- Vectors whose installed handler takes an error code and recovers. -/
def poppingVectors : List ℕ := [10, 11, 12, 14, 17]

theorem code_installedHandler (vector : ℕ) :
    code (installedHandler vector) =
      if vector = 8 then protoHandler8
      else if vector = 13 then protoHandler13
      else if vector ∈ poppingVectors then handlerWithErrorCode (installedNumber vector)
      else handlerNoErrorCode (installedNumber vector) := by
  by_cases hvector : vector < protoFaultHandlersCount
  · rw [protoFaultHandlersCount] at hvector
    interval_cases vector <;> rfl
  · have hpopping : vector ∉ poppingVectors := by
      rw [protoFaultHandlersCount] at hvector
      simp only [poppingVectors, List.mem_cons, List.not_mem_nil, or_false]
      omega
    have hdouble : vector ≠ 8 := by
      rw [protoFaultHandlersCount] at hvector
      omega
    have hprotection : vector ≠ 13 := by
      rw [protoFaultHandlersCount] at hvector
      omega
    have hzero : vector ≠ 0 := by
      rw [protoFaultHandlersCount] at hvector
      omega
    rw [if_neg hdouble, if_neg hprotection, if_neg hpopping, installedHandler, if_neg hvector,
      installedNumber, if_neg hzero, if_neg hvector]
    rfl

variable {w : Workspace} {m : Cpu} {depth vector : ℕ} {errorCode : UInt64}

theorem deliver_of_lt (hvector : vector < 256) :
    deliver w.image (depth + 1) vector errorCode m =
      execBlock w.image (exec w.image code depth) (code (installedHandler vector))
        (m.interrupt (pushedErrorCode vector errorCode)
          (w.image.address (installedHandler vector))) := by
  have hgate : (initFaultHandlersOnCore w.image)[vector]? =
      some (idtEntry (w.image.address (installedHandler vector))) := by
    simp [initFaultHandlersOnCore, hvector]
  rw [deliver, hgate]
  simp only [leadsTo_idtEntry, handlerAddress_idtEntry, if_true, exec]

/-- The processor pushes the frame inside of the handler's stack. -/
theorem placed_interrupt (hw : w.Separate) (hplaced : w.Placed m.memory)
    (code : Option UInt64) (handler : UInt64) (hentry : w.entry = m.frameEntry code) :
    w.Placed (m.interrupt code handler).memory ∧
      w.faultInfo (m.interrupt code handler).memory = w.faultInfo m.memory := by
  have hzero (memory : AddressSpace) (value : UInt64) :
      memory.store w.entry value = memory.store (w.entry + 0) value := by rw [add_zero]
  cases code with
  | none =>
      rw [Cpu.memory_interrupt_none, ← hentry, hzero]
      constructor
      · exact ((((hplaced.store_stack hw (by decide)).store_stack hw (by decide)).store_stack hw
          (by decide)).store_stack hw (by decide)).store_stack hw (by decide)
      · rw [hw.faultInfo_store_stack (by decide), hw.faultInfo_store_stack (by decide),
          hw.faultInfo_store_stack (by decide), hw.faultInfo_store_stack (by decide),
          hw.faultInfo_store_stack (by decide)]
  | some code =>
      rw [Cpu.memory_interrupt_some, ← hentry, hzero]
      constructor
      · exact (((((hplaced.store_stack hw (by decide)).store_stack hw (by decide)).store_stack hw
          (by decide)).store_stack hw (by decide)).store_stack hw (by decide)).store_stack hw
            (by decide)
      · rw [hw.faultInfo_store_stack (by decide), hw.faultInfo_store_stack (by decide),
          hw.faultInfo_store_stack (by decide), hw.faultInfo_store_stack (by decide),
          hw.faultInfo_store_stack (by decide), hw.faultInfo_store_stack (by decide)]

/-- The machine on entry to the installed handler. -/
def entered (image : Image Label) (vector : ℕ) (errorCode : UInt64) (m : Cpu) : Cpu :=
  m.interrupt (pushedErrorCode vector errorCode) (image.address (installedHandler vector))

/-- A fault arrives at a handler whose stack, record and data are in place. -/
structure Arrives (w : Workspace) (vector : ℕ) (errorCode : UInt64) (m : Cpu) : Prop where
  inTable : vector < 256
  separate : w.Separate
  placed : w.Placed m.memory
  entry : w.entry = m.frameEntry (pushedErrorCode vector errorCode)

namespace Arrives

variable (hf : Arrives w vector errorCode m)
include hf

theorem rsp_entered : (entered w.image vector errorCode m).reg .rsp = w.entry := by
  rw [entered, Cpu.reg_interrupt, Function.update_self, hf.entry]

theorem placed_entered : w.Placed (entered w.image vector errorCode m).memory :=
  (placed_interrupt hf.separate hf.placed _ _ hf.entry).1

theorem faultInfo_entered :
    w.faultInfo (entered w.image vector errorCode m).memory = w.faultInfo m.memory :=
  (placed_interrupt hf.separate hf.placed _ _ hf.entry).2

/-- The frame of a vector without an error code is where RSP is. -/
theorem holdsFrame_of_not_mem (hcode : vector ∉ errorCodeVectors) :
    HoldsFrame m (entered w.image vector errorCode m).memory w.entry := by
  have hnone : pushedErrorCode vector errorCode = none := if_neg hcode
  rw [entered, hf.entry, hnone]
  exact Cpu.holdsFrame_interrupt_none

/-- The frame of a vector with an error code is behind the error code. -/
theorem holdsFrame_of_mem (hcode : vector ∈ errorCodeVectors) :
    HoldsFrame m (entered w.image vector errorCode m).memory (w.entry + 8) ∧
      (entered w.image vector errorCode m).memory.load w.entry = errorCode := by
  have hsome : pushedErrorCode vector errorCode = some errorCode := if_pos hcode
  rw [entered, hf.entry, hsome]
  exact ⟨Cpu.holdsFrame_interrupt_some, Cpu.load_interrupt_some⟩

/-- The handler that pops nothing is installed for most vectors. -/
theorem delivered_noErrorCode (depth : ℕ) (hdouble : vector ≠ 8) (hprotection : vector ≠ 13)
    (hpopping : vector ∉ poppingVectors) :
    (deliver w.image (depth + 2) vector errorCode m).Interrupted fun final =>
      EntersRecovery w final ∧
        HandlerEnd w 0
          (frameRecorded (entered w.image vector errorCode m).memory w.entry
            (innerRecorded (installedNumber vector) (entered w.image vector errorCode m)
              (w.faultInfo m.memory)))
          (entered w.image vector errorCode m) final := by
  rw [deliver_of_lt hf.inTable, code_installedHandler, if_neg hdouble, if_neg hprotection,
    if_neg hpopping, ← hf.faultInfo_entered]
  exact interrupted_handlerNoErrorCode hf.separate hf.placed_entered hf.rsp_entered _

theorem delivered_withErrorCode (depth : ℕ) (hpopping : vector ∈ poppingVectors) :
    (deliver w.image (depth + 2) vector errorCode m).Interrupted fun final =>
      EntersRecovery w final ∧
        HandlerEnd w 8
          { frameRecorded (entered w.image vector errorCode m).memory (w.entry + 8)
              (innerRecorded (installedNumber vector) (entered w.image vector errorCode m)
                (w.faultInfo m.memory)) with
            errorCode := (entered w.image vector errorCode m).memory.load w.entry }
          (entered w.image vector errorCode m) final := by
  have hdouble : vector ≠ 8 := by
    rintro rfl
    exact absurd hpopping (by decide)
  have hprotection : vector ≠ 13 := by
    rintro rfl
    exact absurd hpopping (by decide)
  rw [deliver_of_lt hf.inTable, code_installedHandler, if_neg hdouble, if_neg hprotection,
    if_pos hpopping, ← hf.faultInfo_entered]
  exact interrupted_handlerWithErrorCode hf.separate hf.placed_entered hf.rsp_entered _

end Arrives

theorem Arrives.delivered_doubleFault (hf : Arrives w 8 errorCode m) (depth : ℕ) :
    (deliver w.image (depth + 2) 8 errorCode m).Interrupted fun final =>
      final.top = w.image.address .dummyLoop ∧
        HandlerEnd w 0
          { frameRecorded (entered w.image 8 errorCode m).memory (w.entry + 8)
              (innerRecorded 8 (entered w.image 8 errorCode m) (w.faultInfo m.memory)) with
            errorCode := (entered w.image 8 errorCode m).memory.load w.entry }
          (entered w.image 8 errorCode m) final := by
  rw [deliver_of_lt hf.inTable, ← hf.faultInfo_entered]
  exact interrupted_protoHandler8 hf.separate hf.placed_entered hf.rsp_entered

theorem Arrives.delivered_generalProtection (hf : Arrives w 13 errorCode m) (depth : ℕ) :
    (deliver w.image (depth + 2) 13 errorCode m).Interrupted fun final =>
      final.top = (entered w.image 13 errorCode m).memory.load (w.entry + 8) + 2 ∧
        final.reg = Function.update (Function.update (Function.update
          (entered w.image 13 errorCode m).reg .rcx w.entry) .rax 0xDEAD) .rsp (w.entry + 8) ∧
        HandlerEnd w 8
          { frameRecorded (entered w.image 13 errorCode m).memory (w.entry + 8)
              (innerRecorded 13 (entered w.image 13 errorCode m) (w.faultInfo m.memory)) with
            errorCode := (entered w.image 13 errorCode m).memory.load w.entry }
          (entered w.image 13 errorCode m) final := by
  rw [deliver_of_lt hf.inTable, ← hf.faultInfo_entered]
  exact interrupted_protoHandler13 hf.separate hf.placed_entered hf.rsp_entered

/-! ## A core at fixed addresses -/

/-- The stubs at 0x1000, the main loop at 0x2000. -/
def sampleImage : Image Label where
  address
    | .protoFaultStubContextPtr => 0x1000
    | .recoveryAddress => 0x1008
    | .coreMainLoopStubRecovery => 0x2000
    | _ => 0x1100
  length := fun _ => 2
  flags := fun _ rflags _ _ => rflags
  timeStamp := fun _ => 0
  auxiliary := fun _ => 0
  faults := fun _ _ _ => false
  handled := id
  foreign := fun _ _ => .lost

/-- The data of the stubs. -/
def sampleMemory : AddressSpace :=
  ((AddressSpace.store (fun _ => 0) 0x1000 0x3000).store 0x3048 0x4000).store 0x1008 0x2000

/-- The context at 0x3000 with its record at 0x4000, and RSP at 0x5000. -/
def sampleMachine : Cpu where
  reg
    | .rsp => 0x5000
    | .rcx => 0xC0010020
    | _ => 0
  rip := 0x6000
  rflags := 0x2
  cs := 0x38
  ss := 0x30
  control := fun _ => 0
  idtr := ⟨0, 0⟩
  memory := sampleMemory
  events := []

def sampleWorkspace (vector : ℕ) : Workspace where
  image := sampleImage
  context := 0x3000
  info := 0x4000
  entry := if vector ∈ errorCodeVectors then 0x4FD0 else 0x4FD8

theorem sampleMemory_contextPtr : sampleMemory.load 0x1000 = 0x3000 := by
  have hrecovery : Apart 0x1008 0x1000 := by decide
  have hcontext : Apart 0x3048 0x1000 := by decide
  rw [sampleMemory, load_store_of_apart hrecovery, load_store_of_apart hcontext, load_store]

theorem sampleMemory_faultInfo : sampleMemory.load 0x3048 = 0x4000 := by
  have hrecovery : Apart 0x1008 0x3048 := by decide
  rw [sampleMemory, load_store_of_apart hrecovery, load_store]

theorem arrives_sample (hvector : vector < 256) (errorCode : UInt64) :
    Arrives (sampleWorkspace vector) vector errorCode sampleMachine := by
  have hstack : (0x4FB0 : UInt64).toNat ≤ ((sampleWorkspace vector).entry - 32).toNat ∧
      ((sampleWorkspace vector).entry - 32).toNat + 80 ≤ 2 ^ 64 := by
    rw [sampleWorkspace]
    split_ifs <;> decide
  have hinfo : (0x4000 : UInt64).toNat + 216 ≤ (0x4FB0 : UInt64).toNat := by decide
  have hdata : ∀ address ∈ ([0x1000, 0x3048, 0x1008] : List UInt64),
      address.toNat + 8 ≤ (0x4000 : UInt64).toNat := by simp
  constructor
  case inTable => exact hvector
  case separate =>
    constructor
    · exact disjoint_of_toNat_le (hinfo.trans hstack.1) hstack.2
    · intro address haddress
      have hbelow := hdata address haddress
      exact disjoint_of_toNat_le (by omega) hstack.2
    · intro address haddress
      have hlimit : (0x4000 : UInt64).toNat + 216 ≤ 2 ^ 64 := by decide
      exact disjoint_of_toNat_le (hdata address haddress) hlimit
  case placed =>
    constructor
    · exact sampleMemory_contextPtr
    · exact sampleMemory_faultInfo
    · exact load_store
  case entry =>
    rw [sampleWorkspace, Cpu.frameEntry, pushedErrorCode]
    split_ifs <;> first | rfl | simp_all

/-! ## Frames -/

/-- The slot of RIP in the frame of a vector. -/
def ripSlot (w : Workspace) (vector : ℕ) : UInt64 :=
  if vector ∈ errorCodeVectors then w.entry + 8 else w.entry

/-- The handler's `iretq` pops the frame that was pushed, and the vectors other
than 8 and 13 go back to the main loop. -/
structure MatchesFrame (w : Workspace) (vector : ℕ) (m final : Cpu) : Prop where
  slot : final.reg .rsp = ripSlot w vector
  cs : final.interruptReturn.cs = m.cs
  rflags : final.interruptReturn.rflags = m.rflags
  rsp : final.interruptReturn.reg .rsp = m.reg .rsp
  ss : final.interruptReturn.ss = m.ss
  recovery : vector ≠ 8 → vector ≠ 13 →
    final.interruptReturn.rip = w.image.address .coreMainLoopStubRecovery ∧
      final.interruptReturn.reg .rdi = w.context

variable {final entry : Cpu} {info : CoreFaultInfo}

/-- A handler that ends at the slot of RIP pops the frame. -/
theorem HandlerEnd.matchesFrame {slot : UInt64} (hend : HandlerEnd w slot info entry final)
    (hframe : HoldsFrame m entry.memory (w.entry + slot)) (hsmall : slot.toNat ≤ 8)
    (hslot : w.entry + slot = ripSlot w vector)
    (hrecovery : vector ≠ 8 → vector ≠ 13 → EntersRecovery w final) :
    MatchesFrame w vector m final := by
  have hword (place : UInt64) (hlow : 8 ≤ place.toNat) (hhigh : place.toNat ≤ 32) :
      final.peek place = entry.memory.load (w.entry + slot + place) := by
    have hsum : (slot + place).toNat = slot.toNat + place.toNat := by
      rw [UInt64.toNat_add]
      omega
    rw [Cpu.peek, hend.rsp, add_assoc, hend.frame _ (by omega) (by omega)]
  constructor
  case slot => rw [hend.rsp, hslot]
  case cs => exact (hword 8 (by decide) (by decide)).trans hframe.cs
  case rflags => exact (hword 16 (by decide) (by decide)).trans hframe.rflags
  case rsp =>
    rw [Cpu.reg_interruptReturn, Function.update_self]
    exact (hword 24 (by decide) (by decide)).trans hframe.rsp
  case ss => exact (hword 32 (by decide) (by decide)).trans hframe.ss
  case recovery =>
    intro hdouble hprotection
    obtain ⟨hrip, hrdi⟩ := hrecovery hdouble hprotection
    rw [Cpu.reg_interruptReturn, Function.update_of_ne (by decide)]
    exact ⟨hrip, hrdi⟩

/-- A handler that ends at the error code does not. -/
theorem HandlerEnd.not_matchesFrame (hend : HandlerEnd w 0 info entry final)
    (hcode : vector ∈ errorCodeVectors) : ¬MatchesFrame w vector m final := by
  intro hmatches
  have hslot := hmatches.slot
  rw [hend.rsp, ripSlot, if_pos hcode] at hslot
  exact absurd (add_left_cancel hslot) (by decide)

/-- The installed handlers of the other vectors end at the slot of RIP. -/
theorem Arrives.interrupted_matchesFrame (hf : Arrives w vector errorCode m) (depth : ℕ)
    (hfits : vector ∉ [8, 21, 29, 30]) :
    (deliver w.image (depth + 2) vector errorCode m).Interrupted (MatchesFrame w vector m) := by
  have hzero : w.entry + 0 = w.entry := add_zero _
  have hdouble : vector ≠ 8 := by
    rintro rfl
    exact hfits (by decide)
  by_cases hprotection : vector = 13
  · subst hprotection
    refine (hf.delivered_generalProtection depth).mono fun final hfinal => ?_
    refine hfinal.2.2.matchesFrame (hf.holdsFrame_of_mem (by decide)).1 (by decide) rfl ?_
    exact fun _ hother => absurd rfl hother
  by_cases hpopping : vector ∈ poppingVectors
  · have hcode : vector ∈ errorCodeVectors := by
      simp only [poppingVectors, errorCodeVectors, List.mem_cons, List.not_mem_nil,
        or_false] at hpopping ⊢
      omega
    refine (hf.delivered_withErrorCode depth hpopping).mono fun final hfinal => ?_
    exact hfinal.2.matchesFrame (hf.holdsFrame_of_mem hcode).1 (by decide) (if_pos hcode).symm
      fun _ _ => hfinal.1
  have hcode : vector ∉ errorCodeVectors := by
    simp only [poppingVectors, errorCodeVectors, List.mem_cons, List.not_mem_nil,
      or_false] at hpopping hfits ⊢
    omega
  refine (hf.delivered_noErrorCode depth hdouble hprotection hpopping).mono fun final hfinal => ?_
  refine hfinal.2.matchesFrame ?_ (by decide) ?_ fun _ _ => hfinal.1
  · rw [hzero]
    exact hf.holdsFrame_of_not_mem hcode
  · rw [hzero, ripSlot, if_neg hcode]

theorem matchesFrame_iff (hf : Arrives w vector errorCode m) (depth : ℕ) :
    (deliver w.image (depth + 2) vector errorCode m).Interrupted (MatchesFrame w vector m) ↔
      vector ∉ [8, 21, 29, 30] := by
  refine ⟨fun hmatches hunfit => ?_, hf.interrupted_matchesFrame depth⟩
  by_cases hdouble : vector = 8
  · subst hdouble
    have hends := hf.delivered_doubleFault depth
    exact Outcome.not_interrupted_of hends
      (fun final hfinal => hfinal.2.not_matchesFrame (by decide)) hmatches
  have hcode : vector ∈ errorCodeVectors ∧ vector ≠ 13 ∧ vector ∉ poppingVectors := by
    simp only [poppingVectors, errorCodeVectors, List.mem_cons, List.not_mem_nil,
      or_false] at hunfit ⊢
    omega
  have hends := hf.delivered_noErrorCode depth hdouble hcode.2.1 hcode.2.2
  exact Outcome.not_interrupted_of hends
    (fun final hfinal => hfinal.2.not_matchesFrame hcode.1) hmatches

theorem matchesFrame_iff_sample :
    (deliver (sampleWorkspace 6).image 2 6 0 sampleMachine).Interrupted
        (MatchesFrame (sampleWorkspace 6) 6 sampleMachine) ↔
      6 ∉ [8, 21, 29, 30] :=
  matchesFrame_iff (arrives_sample (by decide) 0) 0

/-- A control protection fault is served by the handler without an error
code. -/
theorem not_matchesFrame_controlProtection :
    ¬∀ (w : Workspace) (m : Cpu) (vector : ℕ) (errorCode : UInt64),
      Arrives w vector errorCode m →
        (deliver w.image 2 vector errorCode m).Interrupted (MatchesFrame w vector m) := by
  intro hall
  have harrives := arrives_sample (show 21 < 256 by decide) 3
  have hends := harrives.delivered_noErrorCode 0 (by decide) (by decide) (by decide)
  refine Outcome.not_interrupted_of hends (fun final hfinal => ?_) (hall _ _ _ _ harrives)
  exact hfinal.2.not_matchesFrame (by decide)

end AngryUefi.System
