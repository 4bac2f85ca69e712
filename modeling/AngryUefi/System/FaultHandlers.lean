import AngryUefi.Cores.Context
import AngryUefi.Lib.X86

/-!
# The fault handlers of a core

The assembly of `fault_handling_stubs.s`, which every core has a copy of, core
0's `gpf_handler`, and the table that `init_fault_handlers_on_core` makes of
the handlers.
-/

namespace AngryUefi.System

open AngryUefi.X86 AngryUefi.X86.Instruction

/-- The labels of the stubs.  A core's copy has its own context pointer. -/
inductive Label
  | protoFaultStubContextPtr
  | recoveryAddress
  | storeRegisters
  | getCoreCtxPtr
  | getReturnPtr
  | dummyLoop
  | protoHandler0 | protoHandler1 | protoHandler2 | protoHandler3 | protoHandler4
  | protoHandler5 | protoHandler6 | protoHandler7 | protoHandler8 | protoHandler9
  | protoHandler10 | protoHandler11 | protoHandler12 | protoHandler13 | protoHandler14
  | protoHandler15 | protoHandler16 | protoHandler17 | protoHandler18 | protoHandler19
  | protoHandler20 | protoHandler21
  | fallbackHandler
  | gpfHandler
  | coreMainLoopStubRecovery
  | coreMainLoop
  | setIdtr
  deriving DecidableEq

abbrev Code := List (Instruction Label)

def storeRegisters : Code := [
  -- another scratch register
  .store .rcx 0x30 .rax,
  .load 0x10 .rsp .rcx,
  .store .rcx 0x20 .rax,
  .load 0x8 .rsp .rcx,
  .store .rcx 0x28 .rax,
  .load 0x18 .rsp .rcx,
  .store .rcx 0x50 .rax,
  .store .rdx 0x38 .rax,
  .store .rsi 0x40 .rax,
  .store .rdi 0x48 .rax,
  .store .rbp 0x58 .rax,
  .store .r8 0x60 .rax,
  .store .r9 0x68 .rax,
  .store .r10 0x70 .rax,
  .store .r11 0x78 .rax,
  .store .r12 0x80 .rax,
  .store .r13 0x88 .rax,
  .store .r14 0x90 .rax,
  .store .r15 0x98 .rax,
  .movControl .cr0 .rbx,
  .store .rbx 0xA8 .rax,
  .movControl .cr2 .rbx,
  .store .rbx 0xB0 .rax,
  .movControl .cr3 .rbx,
  .store .rbx 0xB8 .rax,
  .movControl .cr4 .rbx,
  .store .rbx 0xC0 .rax,
  .ret]

def getCoreCtxPtr : Code := [.loadRip .protoFaultStubContextPtr .rax, .ret]

def getReturnPtr : Code := [.loadRip .recoveryAddress .rax, .ret]

def dummyLoop : Code := [.jmp .dummyLoop]

/-- `m_handler_inner` -/
def handlerInner (handlerId : UInt64) : Code := [
  .push .rsp,
  .push .rax,
  .push .rbx,
  .call .getCoreCtxPtr,
  .load 72 .rax .rax,
  .call .storeRegisters,
  .storeImm 1 0 .rax,
  .storeImm handlerId 0x8 .rax,
  .pop .rbx,
  .pop .rax,
  .pop .rsp]

/-- Recovery expects the context in RDI. -/
def recover : Code := [
  .call .getCoreCtxPtr,
  .mov .rax .rdi,
  .call .getReturnPtr,
  .store .rax 0 .rsp,
  .iretq]

/-- `m_handler_no_error_code` -/
def handlerNoErrorCode (handlerId : UInt64) : Code :=
  handlerInner handlerId ++ [
    .call .getCoreCtxPtr,
    .load 72 .rax .rax,
    .load 0 .rsp .rcx,
    .store .rcx 0x18 .rax,
    .load 0x8 .rsp .rcx,
    .store .rcx 0xC8 .rax,
    .load 0x10 .rsp .rcx,
    .store .rcx 0xA0 .rax,
    .load 0x18 .rsp .rcx,
    .store .rcx 0xD0 .rax] ++
  recover

/-- What the handlers with an error code store of the frame. -/
def storeFrame : Code := [
  .call .getCoreCtxPtr,
  .load 72 .rax .rax,
  .load 0 .rsp .rcx,
  .store .rcx 0x10 .rax,
  .load 0x8 .rsp .rcx,
  .store .rcx 0x18 .rax,
  .load 0x10 .rsp .rcx,
  .store .rcx 0xC8 .rax,
  .load 0x18 .rsp .rcx,
  .store .rcx 0xA0 .rax,
  .load 0x20 .rsp .rcx,
  .store .rcx 0xD0 .rax]

/-- `m_handler_with_error_code` -/
def handlerWithErrorCode (handlerId : UInt64) : Code :=
  handlerInner handlerId ++ storeFrame ++ [.pop .rax] ++ recover

/-- The double fault handler locks up the core. -/
def protoHandler8 : Code :=
  handlerInner 8 ++ storeFrame ++ [
    .leaRip .dummyLoop .rax,
    .store .rax 0 .rsp,
    .iretq]

/-- The #GP handler resumes behind the instruction. -/
def protoHandler13 : Code :=
  handlerInner 13 ++ [
    .push .rcx,
    .push .rax,
    .call .getCoreCtxPtr,
    .load 72 .rax .rax,
    .load 0x10 .rsp .rcx,
    .store .rcx 0x10 .rax,
    .load 0x18 .rsp .rcx,
    .store .rcx 0x18 .rax,
    .load 0x20 .rsp .rcx,
    .store .rcx 0xC8 .rax,
    .load 0x28 .rsp .rcx,
    .store .rcx 0xA0 .rax,
    .load 0x30 .rsp .rcx,
    .store .rcx 0xD0 .rax,
    .pop .rax,
    .pop .rcx,
    -- the error code, then the return RIP
    .pop .rax,
    .pop .rax,
    .addImm 2 .rax,
    .push .rax,
    .movImm 0xDEAD .rax,
    .iretq]

def fallbackHandler : Code := handlerNoErrorCode 0x100

/-- Core 0's #GP handler. -/
def gpfHandler : Code := [
  .load 8 .rsp .rax,
  .addImm 2 .rax,
  .store .rax 8 .rsp,
  .movImm 0xDEAD .rax,
  .addImm 8 .rsp,
  .iretq]

def coreMainLoopStubRecovery : Code := [.load 80 .rdi .rsp, .jmp .coreMainLoop]

/-- The limit is in SI and the base in RDI; a descriptor is built on the
stack. -/
def setIdtr : Code := [
  .push .rbp,
  .mov .rsp .rbp,
  .subImm 16 .rsp,
  .storeWord .rsi 0 .rsp,
  .store .rdi 2 .rsp,
  .lidt 0 .rsp,
  .addImm 16 .rsp,
  .pop .rbp,
  .ret]

/-- The code behind the labels; `core_main_loop` is compiled C, the two first
labels are data. -/
def code : Label → Code
  | .protoFaultStubContextPtr | .recoveryAddress | .coreMainLoop => []
  | .storeRegisters => storeRegisters
  | .getCoreCtxPtr => getCoreCtxPtr
  | .getReturnPtr => getReturnPtr
  | .dummyLoop => dummyLoop
  | .protoHandler0 => handlerNoErrorCode 1
  | .protoHandler1 => handlerNoErrorCode 1
  | .protoHandler2 => handlerNoErrorCode 2
  | .protoHandler3 => handlerNoErrorCode 3
  | .protoHandler4 => handlerNoErrorCode 4
  | .protoHandler5 => handlerNoErrorCode 5
  | .protoHandler6 => handlerNoErrorCode 6
  | .protoHandler7 => handlerNoErrorCode 7
  | .protoHandler8 => protoHandler8
  | .protoHandler9 => handlerNoErrorCode 9
  | .protoHandler10 => handlerWithErrorCode 10
  | .protoHandler11 => handlerWithErrorCode 11
  | .protoHandler12 => handlerWithErrorCode 12
  | .protoHandler13 => protoHandler13
  | .protoHandler14 => handlerWithErrorCode 14
  | .protoHandler15 => handlerNoErrorCode 15
  | .protoHandler16 => handlerNoErrorCode 16
  | .protoHandler17 => handlerWithErrorCode 17
  | .protoHandler18 => handlerNoErrorCode 18
  | .protoHandler19 => handlerNoErrorCode 19
  | .protoHandler20 => handlerNoErrorCode 20
  | .protoHandler21 => handlerWithErrorCode 21
  | .fallbackHandler => fallbackHandler
  | .gpfHandler => gpfHandler
  | .coreMainLoopStubRecovery => coreMainLoopStubRecovery
  | .setIdtr => setIdtr

/-! ## The interrupt descriptor table -/

/-- `proto_fault_handlers_offsets`, as the labels the offsets are of. -/
def protoFaultHandlersOffsets : List Label := [
  .protoHandler0, .protoHandler1, .protoHandler2, .protoHandler3, .protoHandler4,
  .protoHandler5, .protoHandler6, .protoHandler7, .protoHandler8, .protoHandler9,
  .protoHandler10, .protoHandler11, .protoHandler12, .protoHandler13, .protoHandler14,
  .protoHandler15, .protoHandler16, .protoHandler17, .protoHandler18, .protoHandler19,
  .protoHandler20, .protoHandler21]

def protoFaultHandlersCount : ℕ := 21

structure IdtEntry where
  offsetLow : UInt16
  segmentSelector : UInt16
  ist : UInt8
  attributes : UInt8
  offsetMid : UInt16
  offsetHigh : UInt32
  reserved : UInt32
  deriving DecidableEq

/-- `CODE_SEGMENT`; the firmware's descriptor table has a 64-bit code segment of
privilege level 0 there. -/
def codeSegment : UInt16 := 0x38

/-- The handler that the loop of `init_fault_handlers_on_core` takes for a
vector. -/
def installedHandler (vector : ℕ) : Label :=
  if vector < protoFaultHandlersCount then
    (protoFaultHandlersOffsets[vector]?).getD .fallbackHandler
  else .fallbackHandler

/-- A gate of the table, for the address of its handler in the core's copy. -/
def idtEntry (handlerAddress : UInt64) : IdtEntry where
  offsetLow := (handlerAddress &&& 0xFFFF).toUInt16
  segmentSelector := codeSegment
  -- the current stack is used
  ist := 0
  attributes := 0x8E
  offsetMid := ((handlerAddress >>> 16) &&& 0xFFFF).toUInt16
  offsetHigh := ((handlerAddress >>> 32) &&& 0xFFFFFFFF).toUInt32
  reserved := 0

/-- The table that `init_fault_handlers_on_core` fills. -/
def initFaultHandlersOnCore (image : Image Label) : List IdtEntry :=
  (List.range 256).map fun vector => idtEntry (image.address (installedHandler vector))

/-- The address a processor takes from a gate. -/
def IdtEntry.handlerAddress (entry : IdtEntry) : UInt64 :=
  entry.offsetLow.toUInt64 ||| (entry.offsetMid.toUInt64 <<< 16) |||
    (entry.offsetHigh.toUInt64 <<< 32)

/-- The three parts of a gate's offset are the address again. -/
theorem handlerAddress_idtEntry (address : UInt64) :
    (idtEntry address).handlerAddress = address := by
  apply UInt64.toNat_inj.mp
  apply Nat.eq_of_testBit_eq
  intro index
  have hlow : (0xFFFF : ℕ) = 2 ^ 16 - 1 := rfl
  have hhigh : (0xFFFFFFFF : ℕ) = 2 ^ 32 - 1 := rfl
  simp only [IdtEntry.handlerAddress, idtEntry, UInt64.toNat_or, UInt64.toNat_shiftLeft,
    UInt16.toNat_toUInt64, UInt32.toNat_toUInt64, UInt64.toNat_toUInt16, UInt64.toNat_toUInt32,
    UInt64.toNat_and, UInt64.toNat_shiftRight, UInt64.reduceToNat, Nat.reduceMod, Nat.testBit_or,
    Nat.testBit_mod_two_pow, Nat.testBit_shiftLeft, Nat.testBit_and, Nat.testBit_shiftRight,
    hlow, hhigh, Nat.testBit_two_pow_sub_one]
  by_cases hword : index < 16
  · have hmid : ¬16 ≤ index := by omega
    have hupper : ¬32 ≤ index := by omega
    simp [hword, hmid, hupper]
  by_cases hlong : index < 32
  · have hmid : 16 + (index - 16) = index := by omega
    have hinside : index - 16 < 16 := by omega
    have hlimit : index < 64 := by omega
    have hupper : ¬32 ≤ index := by omega
    simp [hword, hmid, hinside, hlimit, hupper, Nat.not_lt.mp hword]
  by_cases hquad : index < 64
  · have hupper : 32 + (index - 32) = index := by omega
    have hinside : index - 32 < 32 := by omega
    have houtside : ¬index - 16 < 16 := by omega
    simp [hword, hupper, hinside, houtside, hquad, Nat.not_lt.mp hlong]
  · have hzero : address.toNat.testBit index = false := by
      apply Nat.testBit_lt_two_pow
      exact address.toNat_lt.trans_le (Nat.pow_le_pow_right (by decide) (Nat.not_lt.mp hquad))
    simp [hword, hquad, hzero]

/-- A processor in 64-bit mode goes through a gate to an address, on the stack it
has: the gate is a present interrupt gate for `CODE_SEGMENT`. -/
structure IdtEntry.LeadsTo (entry : IdtEntry) (handler : UInt64) : Prop where
  present : entry.attributes &&& 0x80 ≠ 0
  interruptGate : entry.attributes &&& 0x1F = 0x0E
  currentStack : entry.ist &&& 7 = 0
  segment : entry.segmentSelector = codeSegment
  address : entry.handlerAddress = handler

instance (entry : IdtEntry) (handler : UInt64) : Decidable (entry.LeadsTo handler) :=
  decidable_of_iff (entry.attributes &&& 0x80 ≠ 0 ∧ entry.attributes &&& 0x1F = 0x0E ∧
      entry.ist &&& 7 = 0 ∧ entry.segmentSelector = codeSegment ∧
        entry.handlerAddress = handler)
    ⟨fun hleads => ⟨hleads.1, hleads.2.1, hleads.2.2.1, hleads.2.2.2.1, hleads.2.2.2.2⟩,
      fun hleads => ⟨hleads.present, hleads.interruptGate, hleads.currentStack,
        hleads.segment, hleads.address⟩⟩

theorem leadsTo_idtEntry (address : UInt64) : (idtEntry address).LeadsTo address where
  present := (by decide : (0x8E : UInt8) &&& 0x80 ≠ 0)
  interruptGate := (by decide : (0x8E : UInt8) &&& 0x1F = 0x0E)
  currentStack := (by decide : (0 : UInt8) &&& 7 = 0)
  segment := rfl
  address := handlerAddress_idtEntry address

end AngryUefi.System
