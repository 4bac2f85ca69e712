import AngryUefi.Lib.X86

/-!
# The stubs that load microcode

The assembly of `stubs.s` around the write of the patch loader's register.  A
write that faults is resumed by a #GP handler behind the instruction, with
0xDEAD in RAX.
-/

namespace AngryUefi.System

open AngryUefi.X86 AngryUefi.X86.Instruction AngryUefi.AddressSpace

inductive StubLabel
  | ucodePatchAddress
  | originalUcodeS
  | applyUcodeSimple
  | applyUcodeRestore
  | applyUcodeExecuteMachineCodeSimple
  | applyUcodeExecuteMachineCodeSimpleRet
  | applyUcodeExecuteMachineCodeRestore
  | applyUcodeExecuteMachineCodeRestoreRet
  deriving DecidableEq

abbrev StubCode := List (Instruction StubLabel)

/-- `m_save_regs` -/
def saveRegs : StubCode := [
  .push .rax,
  .push .rcx,
  .push .rdx,
  .push .rsi,
  .push .rdi,
  .push .r8,
  .push .r9,
  .push .r10,
  .push .r11,
  .push .rbx,
  .push .rbp,
  .push .r12,
  .push .r13,
  .push .r14,
  .push .r15]

/-- `m_restore_regs` -/
def restoreRegs : StubCode := [
  .pop .r15,
  .pop .r14,
  .pop .r13,
  .pop .r12,
  .pop .rbp,
  .pop .rbx,
  .pop .r11,
  .pop .r10,
  .pop .r9,
  .pop .r8,
  .pop .rdi,
  .pop .rsi,
  .pop .rdx,
  .pop .rcx,
  .pop .rax]

/-- `m_apply_ucode` up to the write. -/
def startTimer : StubCode := [
  .leaRip .ucodePatchAddress .r10,
  .loadLong 0 .r10 .r10,
  .rdtscp,
  .shlImm 32 .rdx,
  .or .rdx .rax,
  .mov .rax .r11,
  -- the number and the value of the register
  .movLong .r10 .rcx,
  .movLong .rdi .rax,
  .mov .rdi .rdx,
  .shrImm 32 .rdx]

/-- `m_apply_ucode` behind the write. -/
def stopTimer : StubCode := [
  -- 0xDEAD after a fault
  .mov .rax .r9,
  .rdtscp,
  .shlImm 32 .rdx,
  .or .rdx .rax,
  .sub .r11 .rax]

/-- `m_apply_ucode` -/
def mApplyUcode : StubCode := startTimer ++ [.wrmsr] ++ stopTimer

def applyUcodeSimple : StubCode := mApplyUcode ++ [.store .r9 0 .rsi, .ret]

def applyUcodeRestore : StubCode :=
  mApplyUcode ++ [.store .r9 0 .rsi, .mov .rax .r9, .leaRip .originalUcodeS .rdi] ++
    mApplyUcode ++ [.mov .r9 .rax, .ret]

/-- Load the microcode of the context and store the results there. -/
def applyContextUcode : StubCode :=
  saveRegs ++ [.mov .rdi .r8, .load 40 .rdi .rdi] ++ mApplyUcode ++
    [.store .r9 56 .r8, .store .rax 64 .r8, .cmpWordImm 0xDEAD .r9]

/-- Call the machine code of the context. -/
def callMachineCode : StubCode := [.mov .r8 .rax, .load 32 .r8 .r8, .callReg .r8]

def applyUcodeExecuteMachineCodeSimple : StubCode :=
  applyContextUcode ++ [.je .applyUcodeExecuteMachineCodeSimpleRet] ++ callMachineCode ++
    restoreRegs ++ [.ret]

def applyUcodeExecuteMachineCodeRestore : StubCode :=
  applyContextUcode ++ [.je .applyUcodeExecuteMachineCodeRestoreRet] ++ callMachineCode ++
    [.leaRip .originalUcodeS .rdi] ++ mApplyUcode ++ restoreRegs ++ [.ret]

/-- The code behind the labels; the first two are constants. -/
def stubCode : StubLabel → StubCode
  | .ucodePatchAddress | .originalUcodeS => []
  | .applyUcodeSimple => applyUcodeSimple
  | .applyUcodeRestore => applyUcodeRestore
  | .applyUcodeExecuteMachineCodeSimple => applyUcodeExecuteMachineCodeSimple
  | .applyUcodeExecuteMachineCodeSimpleRet => restoreRegs ++ [.ret]
  | .applyUcodeExecuteMachineCodeRestore => applyUcodeExecuteMachineCodeRestore
  | .applyUcodeExecuteMachineCodeRestoreRet => restoreRegs ++ [.ret]

/-! ## The write -/

/-- What a #GP handler leaves: it works on 96 bytes of the stack and on a
record, and returns behind a two-byte instruction. -/
structure GpfHandled (info : UInt64) (m resumed : Cpu) : Prop where
  rip : resumed.rip = m.rip + 2
  rax : resumed.reg .rax = 0xDEAD
  reg : ∀ r : Reg, r ≠ .rax → r ≠ .rcx → resumed.reg r = m.reg r
  memory : ∀ address : UInt64, 96 ≤ (address - (m.reg .rsp - 96)).toNat →
    216 ≤ (address - info).toNat → resumed.memory address = m.memory address

/-- Faults of the write are handled so. -/
structure HandlesGpf (image : Image StubLabel) (info : UInt64) : Prop where
  length : image.length .wrmsr = 2
  handled : ∀ m : Cpu, GpfHandled info m (image.handled m)

theorem join_halves (value : UInt64) :
    value &&& (0xFFFFFFFF : UInt64) ||| ((value >>> 32) <<< 32) = value := by
  apply UInt64.toNat_inj.mp
  apply Nat.eq_of_testBit_eq
  intro index
  have hmask : (0xFFFFFFFF : ℕ) = 2 ^ 32 - 1 := rfl
  simp only [UInt64.toNat_or, UInt64.toNat_and, UInt64.toNat_shiftLeft, UInt64.toNat_shiftRight,
    UInt64.reduceToNat, Nat.reduceMod, hmask, Nat.testBit_or, Nat.testBit_and,
    Nat.testBit_two_pow_sub_one, Nat.testBit_mod_two_pow, Nat.testBit_shiftLeft,
    Nat.testBit_shiftRight]
  by_cases hlow : index < 32
  · simp [hlow]
  by_cases hhigh : index < 64
  · have hback : 32 + (index - 32) = index := by omega
    simp [hlow, hhigh, hback, Nat.not_lt.mp hlow]
  · have hzero : value.toNat.testBit index = false := by
      apply Nat.testBit_lt_two_pow
      exact value.toNat_lt.trans_le (Nat.pow_le_pow_right (by decide) (Nat.not_lt.mp hhigh))
    simp [hlow, hhigh, hzero]

variable {image : Image StubLabel} {m : Cpu} {info : UInt64}

/-- The machine before the write: the first reading of the counter is in R11,
the number and the value of the register are in place. -/
structure TimerStarted (image : Image StubLabel) (m started : Cpu) : Prop where
  events : started.events = m.events ++ [.rdtscp (image.timeStamp m.events)]
  number : (started.reg .rcx).toUInt32 = m.memory.loadLong (image.address .ucodePatchAddress)
  value : started.pair = m.reg .rdi
  r11 : started.reg .r11 = image.timeStamp m.events
  rax : started.reg .rax = m.reg .rdi &&& 0xFFFFFFFF
  reg : ∀ r : Reg, r ∉ [Reg.rax, .rcx, .rdx, .r10, .r11] → started.reg r = m.reg r
  memory : started.memory = m.memory

theorem toUInt32_and_mask (value : UInt32) :
    (value.toUInt64 &&& (0xFFFFFFFF : UInt64)).toUInt32 = value := by
  apply UInt32.toNat_inj.mp
  have hmask : (0xFFFFFFFF : ℕ) = 2 ^ 32 - 1 := rfl
  have hvalue := value.toNat_lt
  simp only [UInt64.toNat_toUInt32, UInt64.toNat_and, UInt32.toNat_toUInt64, UInt64.reduceToNat,
    hmask, Nat.and_two_pow_sub_one_eq_mod]
  omega

theorem and_mask_mask (value : UInt64) :
    value &&& (0xFFFFFFFF : UInt64) &&& (0xFFFFFFFF : UInt64) =
      value &&& (0xFFFFFFFF : UInt64) := by
  rw [UInt64.and_assoc]
  rfl

theorem shiftRight_and_mask (value : UInt64) :
    value >>> 32 &&& (0xFFFFFFFF : UInt64) = value >>> 32 := by
  apply UInt64.toNat_inj.mp
  have hmask : (0xFFFFFFFF : ℕ) = 2 ^ 32 - 1 := rfl
  have hvalue := value.toNat_lt
  simp only [UInt64.toNat_and, UInt64.toNat_shiftRight, UInt64.reduceToNat, Nat.reduceMod, hmask,
    Nat.and_two_pow_sub_one_eq_mod, Nat.shiftRight_eq_div_pow]
  omega

theorem timerStarted_startTimer (image : Image StubLabel) (m : Cpu) :
    TimerStarted image m (runBlock image startTimer m) := by
  constructor
  all_goals
    simp only [runBlock, startTimer, List.foldl_cons, List.foldl_nil, run, arithmetic,
      Cpu.setReg, Cpu.event]
  case number =>
    simp only [Function.update_self, Function.update_of_ne, ne_eq, reduceCtorEq,
      not_false_eq_true, UInt64.add_zero, toUInt32_and_mask]
  case value =>
    simp only [Function.update_self, Function.update_of_ne, ne_eq, reduceCtorEq,
      not_false_eq_true, Cpu.pair, shiftRight_and_mask, and_mask_mask]
    rw [UInt64.or_comm, join_halves]
  case r11 =>
    simp only [Function.update_self, Function.update_of_ne, ne_eq, reduceCtorEq,
      not_false_eq_true, join_halves]
  case rax =>
    simp only [Function.update_self, Function.update_of_ne, ne_eq, reduceCtorEq,
      not_false_eq_true]
  case reg =>
    intro r hr
    simp only [List.mem_cons, List.not_mem_nil, or_false, not_or] at hr
    simp only [Function.update_of_ne, ne_eq, hr, not_false_eq_true]

/-- The machine after the second reading. -/
structure TimerStopped (image : Image StubLabel) (m stopped : Cpu) : Prop where
  events : stopped.events = m.events ++ [.rdtscp (image.timeStamp m.events)]
  rax : stopped.reg .rax = image.timeStamp m.events - m.reg .r11
  r9 : stopped.reg .r9 = m.reg .rax
  reg : ∀ r : Reg, r ∉ [Reg.rax, .rcx, .rdx, .r9] → stopped.reg r = m.reg r
  memory : stopped.memory = m.memory

theorem timerStopped_stopTimer (image : Image StubLabel) (m : Cpu) :
    TimerStopped image m (runBlock image stopTimer m) := by
  constructor
  all_goals
    simp only [runBlock, stopTimer, List.foldl_cons, List.foldl_nil, run, arithmetic,
      Cpu.setReg, Cpu.event]
  case rax =>
    simp only [Function.update_self, Function.update_of_ne, ne_eq, reduceCtorEq,
      not_false_eq_true, join_halves]
  case r9 =>
    simp only [Function.update_self, Function.update_of_ne, ne_eq, reduceCtorEq,
      not_false_eq_true]
  case reg =>
    intro r hr
    simp only [List.mem_cons, List.not_mem_nil, or_false, not_or] at hr
    simp only [Function.update_of_ne, ne_eq, hr, not_false_eq_true]

/-- The number of the register that is written. -/
def loaderNumber (image : Image StubLabel) (m : Cpu) : UInt32 :=
  m.memory.loadLong (image.address .ucodePatchAddress)

/-- The events up to the write. -/
def startEvents (image : Image StubLabel) (m : Cpu) : List X86.Event :=
  m.events ++ [.rdtscp (image.timeStamp m.events)]

/-- The write of the microcode in RDI faults. -/
def writeFaults (image : Image StubLabel) (m : Cpu) : Bool :=
  image.faults (startEvents image m) (loaderNumber image m) (m.reg .rdi)

/-- The events up to and with the write. -/
def writeEvents (image : Image StubLabel) (m : Cpu) : List X86.Event :=
  startEvents image m ++
    [.wrmsr (loaderNumber image m) (m.reg .rdi) (writeFaults image m) m.memory]

/-- The difference of the readings around the write. -/
def elapsed (image : Image StubLabel) (m : Cpu) : UInt64 :=
  image.timeStamp (writeEvents image m) - image.timeStamp m.events

/-- RAX after the write. -/
def loaderResult (image : Image StubLabel) (m : Cpu) : UInt64 :=
  if writeFaults image m then 0xDEAD else m.reg .rdi &&& 0xFFFFFFFF

/-- Memory outside of a handler's stack and record is as before. -/
def KeptOutside (info rsp : UInt64) (before after : AddressSpace) : Prop :=
  ∀ address : UInt64, 96 ≤ (address - (rsp - 96)).toNat → 216 ≤ (address - info).toNat →
    after address = before address

/-- What `m_apply_ucode` does for the microcode in RDI. -/
structure UcodeApplied (image : Image StubLabel) (info : UInt64) (m after : Cpu) : Prop where
  events : after.events =
    writeEvents image m ++ [.rdtscp (image.timeStamp (writeEvents image m))]
  rax : after.reg .rax = elapsed image m
  r9 : after.reg .r9 = loaderResult image m
  reg : ∀ r : Reg, r ∉ [Reg.rax, .rcx, .rdx, .r9, .r10, .r11] → after.reg r = m.reg r
  memory : KeptOutside info (m.reg .rsp) m.memory after.memory

/-- The write itself. -/
theorem execBlock_wrmsr (routine : StubLabel → Cpu → Outcome) (himage : HandlesGpf image info)
    {started : Cpu} (hstarted : TimerStarted image m started) (rest : StubCode) :
    ∃ written : Cpu, written.events = writeEvents image m ∧
      written.reg .rax = loaderResult image m ∧ written.reg .r11 = image.timeStamp m.events ∧
      (∀ r : Reg, r ∉ [Reg.rax, .rcx, .rdx, .r10, .r11] → written.reg r = m.reg r) ∧
      KeptOutside info (m.reg .rsp) m.memory written.memory ∧
      execBlock image routine (.wrmsr :: rest) started = execBlock image routine rest written := by
  have hfaults : image.faults started.events (started.reg .rcx).toUInt32 started.pair =
      writeFaults image m := by
    rw [hstarted.events, hstarted.number, hstarted.value]
    rfl
  have hevents : (started.event (.wrmsr (started.reg .rcx).toUInt32 started.pair
      (writeFaults image m) started.memory)).events = writeEvents image m := by
    rw [Cpu.event, hstarted.events, hstarted.number, hstarted.value, hstarted.memory]
    rfl
  have hrsp : started.reg .rsp = m.reg .rsp := hstarted.reg .rsp (by decide)
  simp only [execBlock, hfaults]
  by_cases hfault : writeFaults image m
  · obtain ⟨written, hwritten⟩ : ∃ written, written =
        started.event (.wrmsr (started.reg .rcx).toUInt32 started.pair (writeFaults image m)
          started.memory) := ⟨_, rfl⟩
    have hhandled := himage.handled written
    have hreg : written.reg = started.reg := by rw [hwritten, Cpu.event]
    have hmemory : written.memory = m.memory := by rw [hwritten, ← hstarted.memory, Cpu.event]
    have hrip : (image.handled written).rip = started.rip + image.length .wrmsr := by
      rw [hhandled.rip, himage.length, hwritten, Cpu.event]
    rw [← hwritten] at hevents ⊢
    rw [if_pos hfault, if_pos hrip]
    refine ⟨{ image.handled written with events := written.events }, hevents, ?_, ?_, ?_, ?_, rfl⟩
    · rw [loaderResult, if_pos hfault]
      exact hhandled.rax
    · rw [← hstarted.r11, ← hreg]
      exact hhandled.reg .r11 (by decide) (by decide)
    · intro r hr
      have hlist := hr
      simp only [List.mem_cons, List.not_mem_nil, or_false, not_or] at hlist
      rw [← hstarted.reg r hr, ← hreg]
      exact hhandled.reg r hlist.1 hlist.2.1
    · intro address hstack hrecord
      rw [← hmemory]
      apply hhandled.memory address _ hrecord
      rwa [hreg, hrsp]
  · rw [if_neg hfault]
    refine ⟨{ started.event (.wrmsr (started.reg .rcx).toUInt32 started.pair
        (writeFaults image m) started.memory) with rip := started.rip + image.length .wrmsr },
      hevents, ?_, ?_, ?_, ?_, rfl⟩
    · rw [loaderResult, if_neg hfault]
      exact hstarted.rax
    · exact hstarted.r11
    · exact hstarted.reg
    · intro address _ _
      exact congrFun hstarted.memory address

theorem execBlock_mApplyUcode (routine : StubLabel → Cpu → Outcome)
    (himage : HandlesGpf image info) (m : Cpu) (rest : StubCode) :
    ∃ after, UcodeApplied image info m after ∧
      execBlock image routine (mApplyUcode ++ rest) m = execBlock image routine rest after := by
  have hsplit : mApplyUcode ++ rest = startTimer ++ (.wrmsr :: (stopTimer ++ rest)) := rfl
  obtain ⟨written, hevents, hrax, hr11, hreg, hmemory, hrun⟩ :=
    execBlock_wrmsr routine himage (timerStarted_startTimer image m) (stopTimer ++ rest)
  have hstopped := timerStopped_stopTimer image written
  rw [hsplit, execBlock_straight rfl, hrun, execBlock_straight rfl]
  refine ⟨_, ?_, rfl⟩
  constructor
  case events => rw [hstopped.events, hevents]
  case rax => rw [hstopped.rax, hevents, hr11, elapsed]
  case r9 => rw [hstopped.r9, hrax]
  case reg =>
    intro r hr
    simp only [List.mem_cons, List.not_mem_nil, or_false, not_or] at hr
    rw [hstopped.reg r (by simp [hr]), hreg r (by simp [hr])]
  case memory =>
    rw [hstopped.memory]
    exact hmemory

end AngryUefi.System
