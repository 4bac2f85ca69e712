import AngryUefi.Lib.SystemV
import AngryUefi.System.UcodeRestore

/-!
# Machine code under test

`apply_ucode_execute_machine_code_simple` and `…_restore` load the microcode of
a context and call its machine code.  The registers of the caller wait in a
frame on the stack, the context in R8.
-/

namespace AngryUefi.System

open AngryUefi.X86 AngryUefi.X86.Instruction AngryUefi.AddressSpace AngryUefi.SystemV

variable {image : Image StubLabel} {m : Cpu} {info : UInt64}

/-! ## The frame -/

/-- Where `m_save_regs` leaves RSP. -/
def frameBase (m : Cpu) : UInt64 := m.reg .rsp - 120

/-- Where a register is in the frame; the return address is above it. -/
def frameSlot : Reg → UInt64
  | .rax => 112
  | .rcx => 104
  | .rdx => 96
  | .rsi => 88
  | .rdi => 80
  | .r8 => 72
  | .r9 => 64
  | .r10 => 56
  | .r11 => 48
  | .rbx => 40
  | .rbp => 32
  | .r12 => 24
  | .r13 => 16
  | .r14 => 8
  | .r15 => 0
  | .rsp => 120

/-- The frame of a caller and the address it wants to go on at. -/
structure FrameSaved (m : Cpu) (memory : AddressSpace) : Prop where
  reg : ∀ r : Reg, r ≠ .rsp → memory.load (frameBase m + frameSlot r) = m.reg r
  top : memory.load (frameBase m + 120) = m.top

theorem FrameSaved.congr {before after : AddressSpace} (hsaved : FrameSaved m before)
    (hsame : ∀ offset : UInt64, offset.toNat + 8 ≤ 128 →
      after.load (frameBase m + offset) = before.load (frameBase m + offset)) :
    FrameSaved m after := by
  constructor
  · intro r hr
    rw [hsame, hsaved.reg r hr]
    cases r <;> decide
  · rw [hsame 120 (by decide), hsaved.top]

/-- The stub up to the first expansion of `m_apply_ucode`. -/
def enterContext : StubCode := saveRegs ++ [.mov .rdi .r8, .load 40 .rdi .rdi]

/-- The machine that the microcode of the context is loaded on. -/
def contextEntered (image : Image StubLabel) (m : Cpu) : Cpu := runBlock image enterContext m

theorem memory_saveRegs (image : Image StubLabel) (m : Cpu) :
    (runBlock image saveRegs m).memory = m.memory.storeAll (frameBase m) [
      (112, m.reg .rax), (104, m.reg .rcx), (96, m.reg .rdx), (88, m.reg .rsi),
      (80, m.reg .rdi), (72, m.reg .r8), (64, m.reg .r9), (56, m.reg .r10), (48, m.reg .r11),
      (40, m.reg .rbx), (32, m.reg .rbp), (24, m.reg .r12), (16, m.reg .r13), (8, m.reg .r14),
      (0, m.reg .r15)] := by
  have hadd (offset distance : UInt64) (hsum : offset + distance = 120) :
      m.reg .rsp - 120 + offset = m.reg .rsp - distance := by grind
  simp only [runBlock, saveRegs, List.foldl_cons, List.foldl_nil, run, Cpu.push, Cpu.setReg,
    Cpu.store, Function.update_self, Function.update_of_ne, ne_eq, reduceCtorEq,
    not_false_eq_true, storeAll, frameBase, hadd 112 8 rfl, hadd 104 16 rfl, hadd 96 24 rfl,
    hadd 88 32 rfl, hadd 80 40 rfl, hadd 72 48 rfl, hadd 64 56 rfl, hadd 56 64 rfl,
    hadd 48 72 rfl, hadd 40 80 rfl, hadd 32 88 rfl, hadd 24 96 rfl, hadd 16 104 rfl,
    hadd 8 112 rfl, hadd 0 120 rfl, sub_sub, UInt64.reduceAdd]

theorem reg_saveRegs (image : Image StubLabel) (m : Cpu) :
    (runBlock image saveRegs m).reg = Function.update m.reg .rsp (frameBase m) := by
  have hpushes : saveRegs = pushes [.rax, .rcx, .rdx, .rsi, .rdi, .r8, .r9, .r10, .r11, .rbx, .rbp,
    .r12, .r13, .r14, .r15] := rfl
  rw [hpushes, reg_pushes]
  rfl

theorem frameSaved_saveRegs (image : Image StubLabel) (m : Cpu) :
    FrameSaved m (runBlock image saveRegs m).memory := by
  rw [memory_saveRegs]
  constructor
  · intro r hr
    cases r
    case rsp => exact absurd rfl hr
    all_goals
      simp only [storeAll, List.foldl_cons, List.foldl_nil, frameSlot, load_store_add_of_le,
        load_store, UInt64.reduceToNat, Nat.reduceAdd, Nat.reduceLeDiff]
  · have htop : frameBase m + 120 = m.reg .rsp := by rw [frameBase, sub_add_cancel]
    simp only [storeAll, List.foldl_cons, List.foldl_nil, load_store_add_of_le,
      UInt64.reduceToNat, Nat.reduceAdd, Nat.reduceLeDiff]
    rw [htop, Cpu.top]

theorem popped_restoreRegs (image : Image StubLabel) (framed : Cpu) :
    Popped [.r15, .r14, .r13, .r12, .rbp, .rbx, .r11, .r10, .r9, .r8, .rdi, .rsi, .rdx, .rcx, .rax]
      (fun r => framed.memory.load (framed.reg .rsp + frameSlot r)) framed
        (runBlock image restoreRegs framed) := by
  apply popped_pops image (by decide)
  simp only [List.map_cons, List.map_nil, StackHolds, frameSlot, UInt64.add_assoc,
    UInt64.reduceAdd, UInt64.add_zero, and_self]

theorem reg_restoreRegs (image : Image StubLabel) (framed : Cpu) {r : Reg} (hr : r ≠ .rsp) :
    (runBlock image restoreRegs framed).reg r =
      framed.memory.load (framed.reg .rsp + frameSlot r) := by
  apply (popped_restoreRegs image framed).popped
  cases r
  case rsp => exact absurd rfl hr
  all_goals decide

theorem rsp_restoreRegs (image : Image StubLabel) (framed : Cpu) :
    (runBlock image restoreRegs framed).reg .rsp = framed.reg .rsp + 120 :=
  (popped_restoreRegs image framed).rsp

theorem memory_restoreRegs (image : Image StubLabel) (framed : Cpu) :
    (runBlock image restoreRegs framed).memory = framed.memory := rfl

theorem events_restoreRegs (image : Image StubLabel) (framed : Cpu) :
    (runBlock image restoreRegs framed).events = framed.events := rfl

/-- A machine that goes on behind the call of the stub. -/
structure ReturnedToCaller (m final : Cpu) : Prop where
  rip : final.rip = m.top
  reg : ∀ r : Reg, r ≠ .rsp → final.reg r = m.reg r
  rsp : final.reg .rsp = m.reg .rsp + 8

/-- `m_restore_regs` and `ret`, over a frame that is still there. -/
theorem execBlock_restoreRegs (routine : StubLabel → Cpu → Outcome) (framed : Cpu) :
    ∃ final, execBlock image routine (restoreRegs ++ [.ret]) framed = .returned final ∧
      final.events = framed.events ∧ final.memory = framed.memory ∧
        (FrameSaved m framed.memory → framed.reg .rsp = frameBase m →
          ReturnedToCaller m final) := by
  have hreg (r : Reg) (hr : r ≠ .rsp) := reg_restoreRegs image framed hr
  have hrsp := rsp_restoreRegs image framed
  have hmemory := memory_restoreRegs image framed
  have hevents := events_restoreRegs image framed
  rw [execBlock_straight rfl]
  obtain ⟨restored, hrestored⟩ : ∃ restored, restored = runBlock image restoreRegs framed :=
    ⟨_, rfl⟩
  rw [← hrestored] at hrsp hmemory hevents ⊢
  refine ⟨_, rfl, hevents, hmemory, fun hsaved hbase => ?_⟩
  have hback : restored.reg .rsp = m.reg .rsp := by
    rw [hrsp, hbase, frameBase, sub_add_cancel]
  constructor
  · change restored.memory.load (restored.reg .rsp) = m.top
    rw [hmemory, hrsp, hbase, hsaved.top]
  · intro r hr
    refine (Function.update_of_ne hr _ _).trans ?_
    change restored.reg r = m.reg r
    rw [hrestored, hreg r hr, hbase, hsaved.reg r hr]
  · change restored.reg .rsp + 8 = m.reg .rsp + 8
    rw [hback]

/-! ## Up to the call -/

/-- What the stubs store, and the comparison that decides about the call. -/
def storeResults : StubCode :=
  [.store .r9 56 .r8, .store .rax 64 .r8, .cmpWordImm 0xDEAD .r9]

/-- The machine that the microcode of the context has been loaded on. -/
structure ContextApplied (image : Image StubLabel) (info : UInt64) (m compared : Cpu) : Prop where
  events : compared.events = appliedEvents image (contextEntered image m)
  zero : compared.zero = ((loaderResult image (contextEntered image m)).toUInt16 == 0xDEAD)
  r8 : compared.reg .r8 = m.reg .rdi
  rsp : compared.reg .rsp = frameBase m
  memory : ∃ applied, KeptOutside info (frameBase m) (contextEntered image m).memory applied ∧
    compared.memory = (applied.store (m.reg .rdi + 56)
      (loaderResult image (contextEntered image m))).store (m.reg .rdi + 64)
        (elapsed image (contextEntered image m))

/-- The machine behind `m_save_regs` with the context in R8 and its microcode
in RDI. -/
structure ContextEntered (m entered : Cpu) : Prop where
  events : entered.events = m.events
  r8 : entered.reg .r8 = m.reg .rdi
  rdi : entered.reg .rdi = entered.memory.load (m.reg .rdi + 40)
  rsp : entered.reg .rsp = frameBase m

theorem events_saveRegs (image : Image StubLabel) (m : Cpu) :
    (runBlock image saveRegs m).events = m.events := rfl

/-- The context in R8 and its microcode in RDI. -/
def takeContext : StubCode := [.mov .rdi .r8, .load 40 .rdi .rdi]

theorem contextEntered_eq (image : Image StubLabel) (m : Cpu) :
    contextEntered image m = runBlock image takeContext (runBlock image saveRegs m) := by
  rw [contextEntered, enterContext, runBlock, List.foldl_append]
  rfl

theorem memory_contextEntered (image : Image StubLabel) (m : Cpu) :
    (contextEntered image m).memory = (runBlock image saveRegs m).memory := by
  rw [contextEntered_eq]
  generalize runBlock image saveRegs m = saved
  rfl

theorem contextEntered_entered (image : Image StubLabel) (m : Cpu) :
    ContextEntered m (contextEntered image m) := by
  have hreg := reg_saveRegs image m
  have hevents := events_saveRegs image m
  rw [contextEntered_eq]
  obtain ⟨saved, hsaved⟩ : ∃ saved, saved = runBlock image saveRegs m := ⟨_, rfl⟩
  rw [← hsaved] at hreg hevents ⊢
  have hrdi : saved.reg .rdi = m.reg .rdi := by
    rw [hreg, Function.update_of_ne (by decide)]
  have hrsp : saved.reg .rsp = frameBase m := by rw [hreg, Function.update_self]
  constructor
  · exact hevents
  · exact hrdi
  · change saved.memory.load (saved.reg .rdi + 40) = saved.memory.load (m.reg .rdi + 40)
    rw [hrdi]
  · exact hrsp

theorem contextApplied_storeResults {applied : Cpu}
    (happlied : UcodeApplied image info (contextEntered image m) applied) :
    ContextApplied image info m (runBlock image storeResults applied) := by
  have hentered := contextEntered_entered image m
  have hr8 : applied.reg .r8 = m.reg .rdi := by
    rw [happlied.reg .r8 (by decide), hentered.r8]
  have hrsp : applied.reg .rsp = frameBase m := by
    rw [happlied.reg .rsp (by decide), hentered.rsp]
  constructor
  case events => exact happlied.events
  case zero =>
    refine (zero_run_cmpWordImm _ 0xDEAD .r9).trans ?_
    change ((applied.reg .r9).toUInt16 == 0xDEAD) = _
    rw [happlied.r9]
  case r8 => exact hr8
  case rsp => exact hrsp
  case memory =>
    refine ⟨applied.memory, ?_, ?_⟩
    · rw [← hentered.rsp]
      exact happlied.memory
    · change (applied.memory.store (applied.reg .r8 + 56) (applied.reg .r9)).store
        (applied.reg .r8 + 64) (applied.reg .rax) = _
      rw [hr8, happlied.r9, happlied.rax]

theorem execBlock_applyContextUcode (himage : HandlesGpf image info)
    (routine : StubLabel → Cpu → Outcome) (m : Cpu) (rest : StubCode) :
    ∃ compared, ContextApplied image info m compared ∧
      execBlock image routine (applyContextUcode ++ rest) m =
        execBlock image routine rest compared := by
  obtain ⟨applied, happlied, hrun⟩ := execBlock_mApplyUcode routine himage
    (contextEntered image m) (storeResults ++ rest)
  refine ⟨runBlock image storeResults applied, ?_, ?_⟩
  · exact contextApplied_storeResults happlied
  · rw [← execBlock_straight rfl, ← hrun, contextEntered, ← execBlock_straight rfl]
    rfl

/-- The machine that the machine code starts on. -/
structure MachineCodeCalled (compared called : Cpu) : Prop where
  rip : called.rip = compared.memory.load (compared.reg .r8 + 32)
  rax : called.reg .rax = compared.reg .r8
  rsp : called.reg .rsp = compared.reg .rsp - 8
  memory : called.memory = compared.memory.store (compared.reg .rsp - 8) called.top
  events : called.events = compared.events ++ [.call called.rip (called.reg .rax) called.memory]

variable (image) in
theorem execBlock_callMachineCode (routine : StubLabel → Cpu → Outcome) (compared : Cpu)
    (rest : StubCode) :
    ∃ called, MachineCodeCalled compared called ∧
      execBlock image routine (callMachineCode ++ rest) compared =
        (((image.foreign called.rip called).withEvents called.events).backTo
          called.top).andThen (execBlock image routine rest) := by
  obtain ⟨prepared, hprepared⟩ : ∃ prepared, prepared =
      runBlock image [.mov .r8 .rax, .load 32 .r8 .r8] compared := ⟨_, rfl⟩
  have hrax : prepared.reg .rax = compared.reg .r8 := by rw [hprepared]; rfl
  have hr8 : prepared.reg .r8 = compared.memory.load (compared.reg .r8 + 32) := by
    rw [hprepared]; rfl
  have hrsp : prepared.reg .rsp = compared.reg .rsp := by rw [hprepared]; rfl
  have hmemory : prepared.memory = compared.memory := by rw [hprepared]; rfl
  have hevents : prepared.events = compared.events := by rw [hprepared]; rfl
  obtain ⟨back, hback⟩ : ∃ back, back = prepared.rip + image.length (.callReg .r8) := ⟨_, rfl⟩
  have hsplit : callMachineCode ++ rest =
      [.mov .r8 .rax, .load 32 .r8 .r8] ++ (.callReg .r8 :: rest) := rfl
  obtain ⟨pushed, hpushed⟩ : ∃ pushed, pushed = ({ prepared with rip := back }).push back :=
    ⟨_, rfl⟩
  have htop : pushed.top = back := by
    rw [hpushed]
    exact load_store
  rw [hsplit, execBlock_straight rfl, ← hprepared]
  simp only [execBlock]
  rw [← hback, ← hpushed, hr8, hrax]
  refine ⟨{ pushed.event (.call (compared.memory.load (compared.reg .r8 + 32))
    (compared.reg .r8) pushed.memory) with
      rip := compared.memory.load (compared.reg .r8 + 32) }, ?_, ?_⟩
  · constructor
    case rip => rfl
    case rax =>
      rw [← hrax, hpushed]
      rfl
    case rsp =>
      rw [← hrsp, hpushed]
      rfl
    case memory =>
      change pushed.memory = compared.memory.store (compared.reg .rsp - 8) pushed.top
      rw [htop, ← hrsp, ← hmemory, hpushed]
      rfl
    case events =>
      change pushed.events ++ _ = compared.events ++ [.call _ (pushed.reg .rax) pushed.memory]
      have hpushedEvents : pushed.events = compared.events := by rw [← hevents, hpushed]; rfl
      have hpushedRax : pushed.reg .rax = compared.reg .r8 := by rw [← hrax, hpushed]; rfl
      rw [hpushedEvents, hpushedRax]
  · rw [← htop]
    rfl

/-! ## Gating -/

/-- What others see of `m_apply_ucode`: two readings of the counter and, between
them, the write with the memory at that time. -/
structure Loading where
  started : UInt64
  stopped : UInt64
  faulted : Bool
  memory : AddressSpace

def Loading.events (loading : Loading) (image : Image StubLabel) (ucode : UInt64) :
    List X86.Event := [
  .rdtscp loading.started,
  .wrmsr (loading.memory.loadLong (image.address .ucodePatchAddress)) ucode loading.faulted
    loading.memory,
  .rdtscp loading.stopped]

/-- How the microcode in RDI is loaded. -/
def loadingOf (image : Image StubLabel) (m : Cpu) : Loading where
  started := image.timeStamp m.events
  stopped := image.timeStamp (writeEvents image m)
  faulted := writeFaults image m
  memory := m.memory

theorem appliedEvents_eq (image : Image StubLabel) (m : Cpu) :
    appliedEvents image m = m.events ++ (loadingOf image m).events image (m.reg .rdi) := by
  rw [appliedEvents, writeEvents, startEvents, List.append_assoc, List.append_assoc]
  rfl

/-- `ucode` of a context. -/
def contextUcode (m : Cpu) : UInt64 := m.memory.load (m.reg .rdi + 40)

/-- `machine_code` of a context. -/
def contextTarget (m : Cpu) : UInt64 := m.memory.load (m.reg .rdi + 32)

/-- The fields of the context that the stubs use, the frame, and what handlers
of faults write to lie apart. -/
structure ContextPlaced (info : UInt64) (m : Cpu) : Prop where
  context : Sheltered info (frameBase m) (m.reg .rdi + 32) 40
  frame : Disjoint (frameBase m) 128 info 216
  apart : Disjoint (m.reg .rdi + 32) 40 (frameBase m) 128

/-- The machine code, called as the stubs call it, returns with the stack
pointer it was called with and leaves the frame alone. -/
def MachineCodeReturns (image : Image StubLabel) (m : Cpu) : Prop :=
  ∀ called : Cpu, called.rip = contextTarget m → called.reg .rax = m.reg .rdi →
    called.reg .rsp = m.reg .rsp - 128 →
      (image.foreign called.rip called).Returned fun back =>
        back.rip = called.top ∧ back.reg .rsp = called.reg .rsp + 8 ∧
          ∀ offset : UInt64, offset.toNat < 128 →
            back.memory (frameBase m + offset) = called.memory (frameBase m + offset)

/-- A run of a stub.  `called` is the memory at the call of the machine code,
which can change the results; without a call they are in the memory at the
end. -/
structure Gated (image : Image StubLabel) (m final : Cpu) (loading : Loading)
    (called : AddressSpace) (later : List X86.Event) : Prop where
  events : final.events = m.events ++ loading.events image (contextUcode m) ++ later
  calls : later.filter X86.Event.isCall =
    if loading.faulted then [] else [.call (contextTarget m) (m.reg .rdi) called]
  gpf : (if loading.faulted then final.memory else called).load (m.reg .rdi + 56) = 0xDEAD ↔
    loading.faulted
  rdtsc : (if loading.faulted then final.memory else called).load (m.reg .rdi + 64) =
    loading.stopped - loading.started
  back : ReturnedToCaller m final

theorem sheltered_frame (hplaced : ContextPlaced info m) :
    Sheltered info (frameBase m) (frameBase m) 128 := by
  refine ⟨?_, hplaced.frame⟩
  intro i j hi hj hsame
  have hdistance : i + 96 = j := by grind
  have hnat := congrArg UInt64.toNat hdistance
  have hlength : (96 : UInt64).toNat = 96 := rfl
  rw [UInt64.toNat_add, hlength] at hnat
  omega

/-- The fields that the stubs read are as the caller left them. -/
theorem load_saveRegs (hplaced : ContextPlaced info m) {offset : UInt64}
    (hoffset : offset.toNat + 8 ≤ 40) :
    (runBlock image saveRegs m).memory.load (m.reg .rdi + 32 + offset) =
      m.memory.load (m.reg .rdi + 32 + offset) := by
  rw [memory_saveRegs]
  apply load_storeAll_of_apart
  intro slot hslot
  apply (hplaced.apart.apart hoffset _).symm
  revert slot
  simp

variable (image) in
theorem rdi_contextEntered (hplaced : ContextPlaced info m) :
    (contextEntered image m).reg .rdi = contextUcode m := by
  have hplace : m.reg .rdi + 40 = m.reg .rdi + 32 + 8 := by
    rw [add_assoc]
    rfl
  rw [(contextEntered_entered image m).rdi, memory_contextEntered, contextUcode, hplace]
  exact load_saveRegs hplaced (by decide)

/-- Memory at the comparison. -/
structure ResultsInContext (image : Image StubLabel) (m : Cpu) (memory : AddressSpace) : Prop where
  target : memory.load (m.reg .rdi + 32) = contextTarget m
  gpf : memory.load (m.reg .rdi + 56) = loaderResult image (contextEntered image m)
  rdtsc : memory.load (m.reg .rdi + 64) = elapsed image (contextEntered image m)
  frame : FrameSaved m memory

/-- The places of the results from the address that is kept of the context. -/
theorem gpf_place (m : Cpu) : m.reg .rdi + 56 = m.reg .rdi + 32 + 24 := by
  rw [add_assoc]
  rfl

theorem rdtsc_place (m : Cpu) : m.reg .rdi + 64 = m.reg .rdi + 32 + 32 := by
  rw [add_assoc]
  rfl

theorem resultsInContext_compared (hplaced : ContextPlaced info m) {compared : Cpu}
    (hcompared : ContextApplied image info m compared) :
    ResultsInContext image m compared.memory := by
  obtain ⟨applied, hkept, hmemory⟩ := hcompared.memory
  have hfar {left right : UInt64} (hle : left.toNat + 8 ≤ right.toNat)
      (hinside : right.toNat + 8 ≤ 2 ^ 64) :
      AddressSpace.Apart (m.reg .rdi + left) (m.reg .rdi + right) :=
    apart_add_left.mpr (apart_of_toNat_le hle hinside)
  rw [hmemory]
  constructor
  case target =>
    have hload := hkept.load_base hplaced.context (by decide) (by decide)
    have hsaved := @load_saveRegs image m info hplaced 0 (by decide)
    rw [UInt64.add_zero] at hsaved
    rw [load_store_of_apart (hfar (by decide) (by decide)).symm,
      load_store_of_apart (hfar (by decide) (by decide)).symm, hload, memory_contextEntered,
      hsaved, contextTarget]
  case gpf => rw [load_store_of_apart (hfar (by decide) (by decide)).symm, load_store]
  case rdtsc => rw [load_store]
  case frame =>
    apply (frameSaved_saveRegs image m).congr
    intro offset hoffset
    rw [gpf_place, rdtsc_place, load_store_of_apart (hplaced.apart.apart (by decide) hoffset),
      load_store_of_apart (hplaced.apart.apart (by decide) hoffset),
      hkept.load (sheltered_frame hplaced) hoffset (by decide), memory_contextEntered]

/-- Memory of the machine code's frame does not matter to the caller's. -/
theorem ResultsInContext.called (hplaced : ContextPlaced info m) {memory : AddressSpace}
    (hresults : ResultsInContext image m memory) (value : UInt64) :
    ResultsInContext image m (memory.store (frameBase m - 8) value) := by
  have hslot : frameBase m - 8 = frameBase m - 96 + 88 := by grind
  have hcontext {offset : UInt64} (hoffset : offset.toNat + 8 ≤ 40) :
      (memory.store (frameBase m - 8) value).load (m.reg .rdi + 32 + offset) =
        memory.load (m.reg .rdi + 32 + offset) := by
    rw [hslot]
    exact load_store_of_apart (hplaced.context.stack.apart hoffset (by decide)).symm
  constructor
  case target =>
    have hoffset : (0 : UInt64).toNat + 8 ≤ 40 := by decide
    have hload := hcontext hoffset
    rw [UInt64.add_zero] at hload
    rw [hload, hresults.target]
  case gpf => rw [gpf_place, hcontext (by decide), ← gpf_place, hresults.gpf]
  case rdtsc => rw [rdtsc_place, hcontext (by decide), ← rdtsc_place, hresults.rdtsc]
  case frame =>
    apply hresults.frame.congr
    intro offset hoffset
    rw [hslot]
    exact load_store_of_apart ((sheltered_frame hplaced).stack.apart hoffset (by decide)).symm

variable (image) in
/-- The address of a page does not end in 0xDEAD. -/
theorem loaderResult_aligned (halignment : (m.reg .rdi).toNat % 4096 = 0) :
    ((loaderResult image m).toUInt16 = 0xDEAD ↔ writeFaults image m) ∧
      (loaderResult image m = 0xDEAD ↔ writeFaults image m) := by
  have hmask : (0xFFFFFFFF : ℕ) = 2 ^ 32 - 1 := rfl
  have hword : (m.reg .rdi &&& 0xFFFFFFFF).toUInt16 ≠ 0xDEAD := by
    intro hequal
    have hnat := congrArg UInt16.toNat hequal
    have hdead : (0xDEAD : UInt16).toNat = 57005 := rfl
    simp only [UInt64.toNat_toUInt16, UInt64.toNat_and, UInt64.reduceToNat, hmask,
      Nat.and_two_pow_sub_one_eq_mod] at hnat
    omega
  rw [loaderResult]
  by_cases hfault : writeFaults image m
  · simp [hfault]
  · rw [if_neg hfault]
    refine ⟨iff_of_false hword hfault, iff_of_false (fun hequal => hword ?_) hfault⟩
    rw [hequal]
    rfl

/-- Code that goes back to the caller when the frame is there, and makes no
call. -/
def ReturnsToCaller (image : Image StubLabel) (routine : StubLabel → Cpu → Outcome) (m : Cpu)
    (rest : StubCode) : Prop :=
  ∀ framed : Cpu, FrameSaved m framed.memory → framed.reg .rsp = frameBase m →
    (execBlock image routine rest framed).Returned fun final =>
      ReturnedToCaller m final ∧ ∃ later, final.events = framed.events ++ later ∧
        later.filter X86.Event.isCall = []

variable {routine : StubLabel → Cpu → Outcome}

theorem returnsToCaller_restoreRegs : ReturnsToCaller image routine m (restoreRegs ++ [.ret]) := by
  intro framed hsaved hrsp
  obtain ⟨final, hrun, hevents, -, hback⟩ := execBlock_restoreRegs (m := m) routine framed
  rw [hrun]
  exact ⟨hback hsaved hrsp, [], hevents.trans (List.append_nil _).symm, rfl⟩

/-- The stub behind the call, when the microcode is restored. -/
def restoreUcode : StubCode :=
  [.leaRip .originalUcodeS .rdi] ++ mApplyUcode ++ restoreRegs ++ [.ret]

variable (routine) in
theorem execBlock_restoreUcode (himage : HandlesGpf image info) (framed : Cpu) :
    ∃ applied,
      UcodeApplied image info (framed.setReg .rdi (image.address .originalUcodeS)) applied ∧
        execBlock image routine restoreUcode framed =
          execBlock image routine (restoreRegs ++ [.ret]) applied := by
  obtain ⟨loaded, hloaded⟩ : ∃ loaded, loaded =
      runBlock image [.leaRip .originalUcodeS .rdi] framed := ⟨_, rfl⟩
  obtain ⟨applied, happlied, hrun⟩ := execBlock_mApplyUcode routine himage loaded
    (restoreRegs ++ [.ret])
  have hsplit : restoreUcode =
      [.leaRip .originalUcodeS .rdi] ++ (mApplyUcode ++ (restoreRegs ++ [.ret])) := rfl
  refine ⟨applied, ?_, ?_⟩
  · -- the instruction pointer does not matter to the macro
    rw [hloaded] at happlied
    exact ⟨happlied.events, happlied.rax, happlied.r9, happlied.reg, happlied.memory⟩
  · rw [hsplit, execBlock_straight rfl, ← hloaded, hrun]

theorem returnsToCaller_restoreUcode (himage : HandlesGpf image info)
    (hplaced : ContextPlaced info m) : ReturnsToCaller image routine m restoreUcode := by
  intro framed hsaved hrsp
  obtain ⟨applied, happlied, hrun⟩ := execBlock_restoreUcode routine himage framed
  have happliedRsp : applied.reg .rsp = frameBase m :=
    (happlied.reg .rsp (by decide)).trans hrsp
  have hkept : KeptOutside info (frameBase m) framed.memory applied.memory := by
    rw [← hrsp]
    exact happlied.memory
  have happliedSaved : FrameSaved m applied.memory := by
    apply hsaved.congr
    intro offset hoffset
    exact hkept.load (sheltered_frame hplaced) hoffset (by decide)
  obtain ⟨final, hfinal, hevents, -, hback⟩ := execBlock_restoreRegs (m := m) routine applied
  have hlater : final.events = framed.events ++
      (loadingOf image (framed.setReg .rdi (image.address .originalUcodeS))).events image
        (image.address .originalUcodeS) := by
    rw [hevents, happlied.events, ← appliedEvents, appliedEvents_eq]
    rfl
  rw [hrun, hfinal]
  exact ⟨hback happliedSaved happliedRsp, _, hlater, rfl⟩

theorem events_compared (hplaced : ContextPlaced info m) {compared : Cpu}
    (hcompared : ContextApplied image info m compared) :
    compared.events =
      m.events ++ (loadingOf image (contextEntered image m)).events image (contextUcode m) := by
  rw [hcompared.events, appliedEvents_eq, (contextEntered_entered image m).events,
    rdi_contextEntered image hplaced]

/-- A run whose write faults. -/
theorem gated_of_faults (hplaced : ContextPlaced info m)
    (haligned : (contextUcode m).toNat % 4096 = 0)
    (hfault : writeFaults image (contextEntered image m)) {compared final : Cpu}
    (hcompared : ContextApplied image info m compared) (hevents : final.events = compared.events)
    (hmemory : final.memory = compared.memory) (hback : ReturnedToCaller m final) :
    Gated image m final (loadingOf image (contextEntered image m)) compared.memory [] := by
  have hresults := resultsInContext_compared hplaced hcompared
  have hloader := (loaderResult_aligned image
    ((rdi_contextEntered image hplaced).symm ▸ haligned)).2
  have hfaulted : (loadingOf image (contextEntered image m)).faulted = true := hfault
  constructor
  case events => rw [hevents, List.append_nil, events_compared hplaced hcompared]
  case calls => rw [hfaulted]; rfl
  case gpf =>
    rw [hfaulted, if_pos rfl, hmemory, hresults.gpf]
    exact iff_of_true (hloader.mpr hfault) rfl
  case rdtsc =>
    rw [hfaulted, if_pos rfl, hmemory, hresults.rdtsc]
    rfl
  case back => exact hback

/-- The machine code starts on the context, with the results in it. -/
structure MachineCodeStarted (image : Image StubLabel) (m called : Cpu) : Prop where
  rip : called.rip = contextTarget m
  rax : called.reg .rax = m.reg .rdi
  rsp : called.reg .rsp = frameBase m - 8
  results : ResultsInContext image m called.memory
  events : called.events =
    m.events ++ (loadingOf image (contextEntered image m)).events image (contextUcode m) ++
      [.call (contextTarget m) (m.reg .rdi) called.memory]

theorem machineCodeStarted_called (hplaced : ContextPlaced info m) {compared called : Cpu}
    (hcompared : ContextApplied image info m compared)
    (hcalled : MachineCodeCalled compared called) : MachineCodeStarted image m called := by
  have hresults := resultsInContext_compared hplaced hcompared
  have hrip : called.rip = contextTarget m := by
    rw [hcalled.rip, hcompared.r8, hresults.target]
  have hrax : called.reg .rax = m.reg .rdi := by
    rw [hcalled.rax, hcompared.r8]
  constructor
  case rip => exact hrip
  case rax => exact hrax
  case rsp => rw [hcalled.rsp, hcompared.rsp]
  case results =>
    rw [hcalled.memory, hcompared.rsp]
    exact hresults.called hplaced _
  case events => rw [hcalled.events, events_compared hplaced hcompared, hrip, hrax]

/-- A run whose write does not fault. -/
theorem gated_of_called (hplaced : ContextPlaced info m)
    (haligned : (contextUcode m).toNat % 4096 = 0)
    (hfault : ¬writeFaults image (contextEntered image m)) {called final : Cpu}
    (hstarted : MachineCodeStarted image m called) {later : List X86.Event}
    (hevents : final.events = called.events ++ later) (hcalls : later.filter X86.Event.isCall = [])
    (hback : ReturnedToCaller m final) :
    Gated image m final (loadingOf image (contextEntered image m)) called.memory
      (.call (contextTarget m) (m.reg .rdi) called.memory :: later) := by
  have hloader := (loaderResult_aligned image
    ((rdi_contextEntered image hplaced).symm ▸ haligned)).2
  have hfaulted : (loadingOf image (contextEntered image m)).faulted = false :=
    Bool.eq_false_iff.mpr hfault
  constructor
  case events => rw [hevents, hstarted.events, List.append_assoc, List.singleton_append]
  case calls =>
    rw [hfaulted, List.filter_cons, hcalls]
    rfl
  case gpf =>
    rw [hfaulted, if_neg Bool.false_ne_true, hstarted.results.gpf, hloader]
    exact iff_of_false hfault Bool.false_ne_true
  case rdtsc =>
    rw [hfaulted, if_neg Bool.false_ne_true, hstarted.results.rdtsc]
    rfl
  case back => exact hback

/-- Both stubs: `rest` is what they do behind the call. -/
theorem gated_of_returnsToCaller (himage : HandlesGpf image info) (hplaced : ContextPlaced info m)
    (haligned : (contextUcode m).toNat % 4096 = 0) (hcode : MachineCodeReturns image m)
    {inner : StubLabel → Cpu → Outcome} {ret : StubLabel} {rest : StubCode}
    (hret : ∀ framed, routine ret framed = execBlock image inner (restoreRegs ++ [.ret]) framed)
    (hrest : ReturnsToCaller image routine m rest) :
    (execBlock image routine (applyContextUcode ++ (.je ret :: (callMachineCode ++ rest)))
      m).Returned fun final =>
        ∃ loading called later, Gated image m final loading called later := by
  obtain ⟨before, hbefore, hrun⟩ := execBlock_applyContextUcode himage routine m
    (.je ret :: (callMachineCode ++ rest))
  obtain ⟨compared, hnext⟩ : ∃ compared, compared =
      { before with rip := before.rip + image.length (.je ret) } := ⟨_, rfl⟩
  have hcompared : ContextApplied image info m compared := by
    rw [hnext]
    exact ⟨hbefore.events, hbefore.zero, hbefore.r8, hbefore.rsp, hbefore.memory⟩
  have hloader := (loaderResult_aligned image
    ((rdi_contextEntered image hplaced).symm ▸ haligned)).1
  rw [hrun]
  simp only [execBlock]
  rw [← hnext, hcompared.zero]
  by_cases hfault : writeFaults image (contextEntered image m)
  · rw [if_pos (beq_iff_eq.mpr (hloader.mpr hfault)), hret]
    obtain ⟨jumped, hjumped⟩ : ∃ jumped, jumped =
        { before with rip := image.address ret } := ⟨_, rfl⟩
    obtain ⟨final, hfinal, hevents, hmemory, hback⟩ := execBlock_restoreRegs (m := m) inner jumped
    have hsaved := (resultsInContext_compared hplaced hbefore).frame
    rw [← hjumped, hfinal]
    rw [hjumped] at hevents hmemory hback
    exact ⟨_, _, _, gated_of_faults hplaced haligned hfault hbefore hevents hmemory
      (hback hsaved hbefore.rsp)⟩
  · rw [if_neg (fun hequal => hfault (hloader.mp (beq_iff_eq.mp hequal)))]
    obtain ⟨called, hcalled, hcallRun⟩ := execBlock_callMachineCode image routine compared rest
    have hstarted := machineCodeStarted_called hplaced hcompared hcalled
    have hentry : called.reg .rsp = m.reg .rsp - 128 := by
      rw [hstarted.rsp, frameBase, sub_sub]
      rfl
    have hcontract := hcode called hstarted.rip hstarted.rax hentry
    rw [hcallRun]
    cases hforeign : image.foreign called.rip called with
    | returned back =>
        rw [hforeign] at hcontract
        obtain ⟨hrip, hrsp, hframe⟩ := hcontract
        simp only [Outcome.withEvents, Outcome.backTo]
        rw [if_pos hrip, Outcome.andThen]
        have hsaved : FrameSaved m back.memory := by
          apply hstarted.results.frame.congr
          intro offset hoffset
          apply load_congr
          intro index hindex
          rw [add_assoc]
          apply hframe
          rw [UInt64.toNat_add, UInt64.toNat_ofNat', Nat.mod_eq_of_lt (a := index) (by omega)]
          omega
        have hbase : back.reg .rsp = frameBase m := by
          rw [hrsp, hstarted.rsp, sub_add_cancel]
        refine (hrest { back with events := called.events } hsaved hbase).mono
          fun final hfinal => ?_
        obtain ⟨hback, later, hevents, hcalls⟩ := hfinal
        exact ⟨_, _, _, gated_of_called hplaced haligned hfault hstarted hevents hcalls hback⟩
    | _ =>
        rw [hforeign] at hcontract
        exact hcontract.elim

/-- The machine code is called once when the microcode is loaded and not when
the write faults; the results are in the context and the registers of the
caller are as they were. -/
theorem gated_executeMachineCode (himage : HandlesGpf image info)
    (hplaced : ContextPlaced info m) (haligned : (contextUcode m).toNat % 4096 = 0)
    (hcode : MachineCodeReturns image m) (depth : ℕ) {label : StubLabel}
    (hlabel : label = .applyUcodeExecuteMachineCodeSimple ∨
      label = .applyUcodeExecuteMachineCodeRestore) :
    (exec image stubCode (depth + 2) label m).Returned fun final =>
      ∃ loading called later, Gated image m final loading called later := by
  obtain rfl | rfl := hlabel
  · exact gated_of_returnsToCaller himage hplaced haligned hcode (fun _ => rfl)
      returnsToCaller_restoreRegs
  · exact gated_of_returnsToCaller himage hplaced haligned hcode (fun _ => rfl)
      (returnsToCaller_restoreUcode himage hplaced)

theorem contextPlaced_sampleCaller : ContextPlaced 0x6000 sampleCaller := by
  have hbehind {left right : UInt64} {length length' : ℕ}
      (hle : left.toNat + length ≤ right.toNat) (hinside : right.toNat + length' ≤ 2 ^ 64) :
      Disjoint right length' left length := by
    intro i j hi hj hsame
    exact disjoint_of_toNat_le hle hinside j i hj hi hsame.symm
  constructor
  case context => exact ⟨hbehind (by decide) (by decide), hbehind (by decide) (by decide)⟩
  case frame => exact disjoint_of_toNat_le (by decide) (by decide)
  case apart => exact hbehind (by decide) (by decide)

theorem gated_executeMachineCode_sample :
    (exec sampleStubs stubCode 2 .applyUcodeExecuteMachineCodeRestore sampleCaller).Returned
      fun final => ∃ loading called later,
        Gated sampleStubs sampleCaller final loading called later := by
  have haligned : (contextUcode sampleCaller).toNat % 4096 = 0 := by
    rw [contextUcode, sampleCaller, load_zero]
    rfl
  have hcode : MachineCodeReturns sampleStubs sampleCaller :=
    fun called _ _ _ => ⟨rfl, rfl, fun _ _ => rfl⟩
  exact gated_executeMachineCode (handlesGpf_sampleStubs 0x6000) contextPlaced_sampleCaller
    haligned hcode 0 (Or.inr rfl)

end AngryUefi.System
