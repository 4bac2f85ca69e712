import AngryUefi.System.FaultHandlers

/-!
# What the fault handlers do

A handler works on the interrupt frame at its RSP, on a few quadwords below
it, on the record that the context points to, and on three quadwords of data
that it only reads.  As long as these do not overlap, each piece of handler
code is described by what it makes of the registers and of the record.
-/

namespace AngryUefi.System

open AngryUefi.X86 AngryUefi.X86.Instruction AngryUefi.AddressSpace

/-- A core's copy of the stubs, its context and record, and RSP on entry to a
handler. -/
structure Workspace where
  image : Image Label
  context : UInt64
  info : UInt64
  entry : UInt64

namespace Workspace

/-- The data that handlers read: the context pointer, the context's pointer to
the record, and the recovery address. -/
def data (w : Workspace) : List UInt64 :=
  [w.image.address .protoFaultStubContextPtr, w.context + 72,
    w.image.address .recoveryAddress]

/-- The stack from 32 bytes below RSP up to the end of the frame, the record,
and the data do not overlap. -/
structure Separate (w : Workspace) : Prop where
  infoStack : Disjoint w.info 216 (w.entry - 32) 80
  dataStack : ∀ address ∈ w.data, Disjoint address 8 (w.entry - 32) 80
  dataInfo : ∀ address ∈ w.data, Disjoint address 8 w.info 216

/-- The data are what `init_fault_handlers_on_core` and the assembler put
there. -/
structure Placed (w : Workspace) (memory : AddressSpace) : Prop where
  contextPtr : memory.load (w.image.address .protoFaultStubContextPtr) = w.context
  faultInfo : memory.load (w.context + 72) = w.info
  recovery : memory.load (w.image.address .recoveryAddress) =
    w.image.address .coreMainLoopStubRecovery

/-- The quadwords of the record. -/
def record (w : Workspace) (memory : AddressSpace) : ℕ → UInt64 := memory.words w.info 27

/-- The record as the structure it is. -/
def faultInfo (w : Workspace) (memory : AddressSpace) : CoreFaultInfo :=
  let words := w.record memory
  ⟨words 0, words 1, words 2, words 3, words 4, words 5, words 6, words 7, words 8,
    words 9, words 10, words 11, words 12, words 13, words 14, words 15, words 16,
    words 17, words 18, words 19, words 20, words 21, words 22, words 23, words 24,
    words 25, words 26⟩

/-- The writes hit quadwords of the record. -/
def Fields (writes : List (UInt64 × UInt64)) : Prop :=
  ∀ offset ∈ writes.map Prod.fst, offset.toNat % 8 = 0 ∧ offset.toNat / 8 < 27

instance (writes : List (UInt64 × UInt64)) : Decidable (Fields writes) :=
  inferInstanceAs (Decidable (∀ offset ∈ writes.map Prod.fst, _))

end Workspace

/-- Stack addresses are written as sums. -/
theorem sub_eight (address : UInt64) : address - 8 = address + 0xFFFFFFFFFFFFFFF8 := by
  rw [UInt64.sub_eq_add_neg]
  rfl

namespace Workspace.Separate

variable {w : Workspace} {memory : AddressSpace} {offset place value address : UInt64}
variable {writes : List (UInt64 × UInt64)}

theorem apart_info_stack (hw : w.Separate) (hoffset : offset.toNat + 8 ≤ 216)
    (hplace : (place + 32).toNat + 8 ≤ 80) : Apart (w.info + offset) (w.entry + place) := by
  have hapart := hw.infoStack.apart hoffset hplace
  have hsame : w.entry - 32 + (place + 32) = w.entry + place := by
    rw [add_comm place, ← add_assoc, sub_add_cancel]
  rwa [hsame] at hapart

theorem apart_data_stack (hw : w.Separate) (hdata : address ∈ w.data)
    (hplace : (place + 32).toNat + 8 ≤ 80) : Apart address (w.entry + place) := by
  have hzero : (0 : UInt64).toNat + 8 ≤ 8 := by decide
  have hapart := (hw.dataStack address hdata).apart hzero hplace
  have hsame : w.entry - 32 + (place + 32) = w.entry + place := by
    rw [add_comm place, ← add_assoc, sub_add_cancel]
  rwa [hsame, add_zero] at hapart

theorem apart_data_info (hw : w.Separate) (hdata : address ∈ w.data)
    (hoffset : offset.toNat + 8 ≤ 216) : Apart address (w.info + offset) := by
  have hzero : (0 : UInt64).toNat + 8 ≤ 8 := by decide
  have hapart := (hw.dataInfo address hdata).apart hzero hoffset
  rwa [add_zero] at hapart

/-- A store to the record, seen from the stack. -/
theorem load_stack (hw : w.Separate) (memory : AddressSpace) (offset place value : UInt64)
    (hoffset : offset.toNat + 8 ≤ 216) (hplace : (place + 32).toNat + 8 ≤ 80) :
    (memory.store (w.info + offset) value).load (w.entry + place) =
      memory.load (w.entry + place) :=
  load_store_of_apart (hw.apart_info_stack hoffset hplace)

/-- A store to the stack, seen from the record. -/
theorem record_store_stack (hw : w.Separate) (memory : AddressSpace) (place value : UInt64)
    (hplace : (place + 32).toNat + 8 ≤ 80) :
    w.record (memory.store (w.entry + place) value) = w.record memory := by
  apply words_store_of_apart
  intro index hindex
  apply (hw.apart_info_stack _ hplace).symm
  rw [toNat_ofNat_mul (by omega)]
  omega

theorem load_faultInfo (hw : w.Separate) (memory : AddressSpace) (place value : UInt64)
    (hplace : (place + 32).toNat + 8 ≤ 80) :
    (memory.store (w.entry + place) value).load (w.context + 72) =
      memory.load (w.context + 72) :=
  load_store_of_apart (hw.apart_data_stack (by simp [data]) hplace).symm

theorem load_storeAll_stack (hw : w.Separate) (hfields : Fields writes)
    (hplace : (place + 32).toNat + 8 ≤ 80) :
    (memory.storeAll w.info writes).load (w.entry + place) = memory.load (w.entry + place) := by
  apply load_storeAll_of_apart
  intro offset hoffset
  have hinside := hfields offset hoffset
  exact hw.apart_info_stack (by omega) hplace

theorem load_storeAll_data (hw : w.Separate) (hfields : Fields writes)
    (hdata : address ∈ w.data) :
    (memory.storeAll w.info writes).load address = memory.load address := by
  apply load_storeAll_of_apart
  intro offset hoffset
  have hinside := hfields offset hoffset
  exact (hw.apart_data_info hdata (by omega)).symm

end Workspace.Separate

namespace Workspace

variable {w : Workspace} {memory : AddressSpace} {place above : UInt64}
variable {writes : List (UInt64 × UInt64)}

theorem record_storeAll (hfields : Fields writes) :
    w.record (memory.storeAll w.info writes) =
      writes.foldl (fun words write => Function.update words (write.1.toNat / 8) write.2)
        (w.record memory) :=
  words_storeAll (by decide) hfields

theorem load_stored {value : UInt64} (hplace : (place + 32).toNat + 8 ≤ (above + 32).toNat)
    (habove : (above + 32).toNat + 8 ≤ 80) :
    (memory.store (w.entry + place) value).load (w.entry + above) =
      memory.load (w.entry + above) := by
  apply load_store_of_apart
  rw [apart_add_left]
  simp only [Apart, UInt64.toNat_add, UInt64.le_iff_toNat_le, UInt64.toNat_sub,
    UInt64.reduceToNat] at hplace habove ⊢
  have hlow := place.toNat_lt
  have hhigh := above.toNat_lt
  omega
end Workspace

section

variable {w : Workspace} {m : Cpu} {memory : AddressSpace}
variable {place above : UInt64} {writes : List (UInt64 × UInt64)} {depth : ℕ}

open Workspace

/-- What `store_registers` stores, for the values of RAX, RBX and RSP that are
on the stack. -/
def registerWrites (m : Cpu) (rax rbx rsp : UInt64) : List (UInt64 × UInt64) := [
  (0x30, m.reg .rcx),
  (0x20, rax),
  (0x28, rbx),
  (0x50, rsp),
  (0x38, m.reg .rdx),
  (0x40, m.reg .rsi),
  (0x48, m.reg .rdi),
  (0x58, m.reg .rbp),
  (0x60, m.reg .r8),
  (0x68, m.reg .r9),
  (0x70, m.reg .r10),
  (0x78, m.reg .r11),
  (0x80, m.reg .r12),
  (0x88, m.reg .r13),
  (0x90, m.reg .r14),
  (0x98, m.reg .r15),
  (0xA8, m.control .cr0),
  (0xB0, m.control .cr2),
  (0xB8, m.control .cr3),
  (0xC0, m.control .cr4)]

theorem exec_storeRegisters (hw : w.Separate) (depth : ℕ) (hrax : m.reg .rax = w.info)
    (hrsp : m.reg .rsp = w.entry + 0xFFFFFFFFFFFFFFE0) :
    exec w.image code (depth + 1) .storeRegisters m = .returned
      { m with
        reg := Function.update (Function.update (Function.update m.reg .rcx (m.peek 0x18)) .rbx
          (m.control .cr4)) .rsp (m.reg .rsp + 8)
        rip := m.top
        memory := m.memory.storeAll w.info
          (registerWrites m (m.peek 0x10) (m.peek 0x8) (m.peek 0x18)) } := by
  simp only [exec, code, storeRegisters, execBlock, run, Cpu.setReg, Cpu.store,
    Function.update_self, Function.update_of_ne, ne_eq, reduceCtorEq, not_false_eq_true, hrax,
    hrsp, UInt64.add_assoc, UInt64.reduceAdd, Cpu.peek, Cpu.top, hw.load_stack,
    UInt64.reduceToNat, Nat.reduceAdd, Nat.reduceLeDiff, registerWrites, storeAll,
    List.foldl_cons, List.foldl_nil]
  congr 2
  funext r
  cases r <;> simp [Function.update]

/-- A call of a routine that loads a quadword of the data into RAX. -/
theorem execBlock_callLoad {label symbol : Label} {value : UInt64}
    (hcode : code label = [.loadRip symbol .rax, .ret]) (hw : w.Separate)
    (hdata : w.image.address symbol ∈ w.data)
    (hvalue : m.memory.load (w.image.address symbol) = value)
    (hrsp : m.reg .rsp = w.entry + place)
    (hplace : (place + 0xFFFFFFFFFFFFFFF8 + 32).toNat + 8 ≤ 80) (rest : Code) :
    execBlock w.image (exec w.image code (depth + 1)) (.call label :: rest) m =
      execBlock w.image (exec w.image code (depth + 1)) rest
        { m with
          reg := Function.update m.reg .rax value
          rip := m.rip + w.image.length (.call label)
          memory := m.memory.store (w.entry + (place + 0xFFFFFFFFFFFFFFF8))
            (m.rip + w.image.length (.call label)) } := by
  have hload : (m.memory.store (w.entry + (place + 0xFFFFFFFFFFFFFFF8))
      (m.rip + w.image.length (.call label))).load (w.image.address symbol) = value :=
    (load_store_of_apart (hw.apart_data_stack hdata hplace).symm).trans hvalue
  have hroutine (called : Cpu) : exec w.image code (depth + 1) label called = .returned
      { (called.setReg .rax (called.memory.load (w.image.address symbol))).setReg .rsp
          (called.reg .rsp + 8) with
        rip := called.top } := by
    simp only [exec, hcode, execBlock, run, Cpu.setReg, Cpu.top, Function.update_of_ne,
      ne_eq, reduceCtorEq, not_false_eq_true]
  rw [execBlock_call (hroutine _)]
  · congr 1
    simp only [Cpu.push, Cpu.store, Cpu.setReg, hrsp, sub_eight, UInt64.add_assoc,
      hload, Function.update_self, Cpu.top, load_store]
    congr 1
    funext r
    cases r <;> simp [Function.update, hrsp]
  · simp only [Cpu.push, Cpu.store, Cpu.setReg, Cpu.top, Function.update_self,
      load_store]

/-- A call of `store_registers`, with RSP, RAX and RBX of the interrupted code
on the stack. -/
theorem execBlock_storeRegisters (hw : w.Separate) (hrax : m.reg .rax = w.info)
    (hrsp : m.reg .rsp = w.entry + 0xFFFFFFFFFFFFFFE8) (rest : Code) :
    execBlock w.image (exec w.image code (depth + 1)) (.call .storeRegisters :: rest) m =
      execBlock w.image (exec w.image code (depth + 1)) rest
        { m with
          reg := Function.update (Function.update m.reg .rcx (m.peek 0x10)) .rbx (m.control .cr4)
          rip := m.rip + w.image.length (.call .storeRegisters)
          memory := (m.memory.store (w.entry + 0xFFFFFFFFFFFFFFE0)
            (m.rip + w.image.length (.call .storeRegisters))).storeAll w.info
              (registerWrites m (m.peek 0x8) (m.peek 0x0) (m.peek 0x10)) } := by
  rw [execBlock_call (exec_storeRegisters hw depth _ _)]
  · congr 1
    simp only [Cpu.push, Cpu.store, Cpu.setReg, hrsp, sub_eight, UInt64.add_assoc,
      registerWrites, Cpu.peek, Function.update_self, Function.update_of_ne, ne_eq,
      reduceCtorEq, not_false_eq_true, UInt64.reduceAdd, load_stored, UInt64.reduceToNat,
      Nat.reduceAdd, Nat.reduceLeDiff, Cpu.top, load_store]
    congr 1
    funext r
    cases r <;> simp [Function.update, hrsp]
  · simp only [Cpu.push, Cpu.store, Cpu.setReg, Cpu.top, Function.update_self,
      load_store]
  · simpa [Cpu.push, Cpu.store, Cpu.setReg, Function.update] using hrax
  · simp only [Cpu.push, Cpu.store, Cpu.setReg, Function.update_self, hrsp, sub_eight,
      UInt64.add_assoc, UInt64.reduceAdd]

theorem Workspace.Placed.store_stack {value : UInt64} (hw : w.Separate) (hplaced : w.Placed memory)
    (hplace : (place + 32).toNat + 8 ≤ 80) : w.Placed (memory.store (w.entry + place) value) := by
  have hkept {address : UInt64} (hdata : address ∈ w.data) :
      (memory.store (w.entry + place) value).load address = memory.load address :=
    load_store_of_apart (hw.apart_data_stack hdata hplace).symm
  constructor
  · rw [hkept (by simp [data]), hplaced.contextPtr]
  · rw [hkept (by simp [data]), hplaced.faultInfo]
  · rw [hkept (by simp [data]), hplaced.recovery]

theorem Workspace.Placed.storeAll (hw : w.Separate) (hplaced : w.Placed memory)
    (hfields : Fields writes) : w.Placed (memory.storeAll w.info writes) := by
  constructor
  · rw [hw.load_storeAll_data hfields (by simp [data]), hplaced.contextPtr]
  · rw [hw.load_storeAll_data hfields (by simp [data]), hplaced.faultInfo]
  · rw [hw.load_storeAll_data hfields (by simp [data]), hplaced.recovery]

theorem Workspace.Separate.faultInfo_store_stack {value : UInt64} (hw : w.Separate)
    (hplace : (place + 32).toNat + 8 ≤ 80) :
    w.faultInfo (memory.store (w.entry + place) value) = w.faultInfo memory := by
  simp only [Workspace.faultInfo, hw.record_store_stack memory place value hplace]

/-- The record with the registers of a handler's entry. -/
def registersRecorded (m : Cpu) (old : CoreFaultInfo) : CoreFaultInfo :=
  { old with
    raxValue := m.reg .rax
    rbxValue := m.reg .rbx
    rcxValue := m.reg .rcx
    rdxValue := m.reg .rdx
    rsiValue := m.reg .rsi
    rdiValue := m.reg .rdi
    rspValue := m.reg .rsp
    rbpValue := m.reg .rbp
    r8Value := m.reg .r8
    r9Value := m.reg .r9
    r10Value := m.reg .r10
    r11Value := m.reg .r11
    r12Value := m.reg .r12
    r13Value := m.reg .r13
    r14Value := m.reg .r14
    r15Value := m.reg .r15
    cr0Value := m.control .cr0
    cr2Value := m.control .cr2
    cr3Value := m.control .cr3
    cr4Value := m.control .cr4 }

/-- What `m_handler_inner` makes of the machine on entry: RCX is not
restored. -/
structure AfterInner (w : Workspace) (handlerId : UInt64) (m after : Cpu) : Prop where
  reg : after.reg = Function.update m.reg .rcx w.entry
  placed : w.Placed after.memory
  frame : ∀ place : UInt64, place.toNat + 8 ≤ 48 →
    after.memory.load (w.entry + place) = m.memory.load (w.entry + place)
  faultInfo : w.faultInfo after.memory =
    { registersRecorded m (w.faultInfo m.memory) with
      faultOccured := 1
      faultNumber := handlerId }

/-- RSP, RAX and RBX of a handler's entry are on the stack, and the rest is as
on entry, but for RCX. -/
structure Saved (w : Workspace) (m after : Cpu) : Prop where
  rsp : after.reg .rsp = w.entry + 0xFFFFFFFFFFFFFFE8
  others : ∀ r : Reg, r ≠ .rax → r ≠ .rbx → r ≠ .rcx → r ≠ .rsp → after.reg r = m.reg r
  control : after.control = m.control
  placed : w.Placed after.memory
  oldRsp : after.memory.load (w.entry + 0xFFFFFFFFFFFFFFF8) = w.entry
  oldRax : after.memory.load (w.entry + 0xFFFFFFFFFFFFFFF0) = m.reg .rax
  oldRbx : after.memory.load (w.entry + 0xFFFFFFFFFFFFFFE8) = m.reg .rbx
  frame : ∀ place : UInt64, place.toNat + 8 ≤ 48 →
    after.memory.load (w.entry + place) = m.memory.load (w.entry + place)

/-- `m_handler_inner` up to its first call. -/
def saveScratch : Code := [.push .rsp, .push .rax, .push .rbx]

/-- `m_handler_inner` behind its last call. -/
def finishRecord (handlerId : UInt64) : Code := [
  .storeImm 1 0 .rax,
  .storeImm handlerId 0x8 .rax,
  .pop .rbx,
  .pop .rax,
  .pop .rsp]

theorem toNat_add_frame (hplace : place.toNat + 8 ≤ 48) :
    (place + 32).toNat = place.toNat + 32 := by
  have hconst : (32 : UInt64).toNat = 32 := rfl
  rw [UInt64.toNat_add, hconst]
  omega

theorem load_frame_of_store_below {value : UInt64} (habove : above.toNat + 8 ≤ 48)
    (hplace : (place + 32).toNat + 8 ≤ 32) :
    (memory.store (w.entry + place) value).load (w.entry + above) =
      memory.load (w.entry + above) := by
  have hsum := toNat_add_frame habove
  exact load_stored (by omega) (by omega)

theorem memory_saveScratch (hrsp : m.reg .rsp = w.entry) :
    (runBlock w.image saveScratch m).memory =
      ((m.memory.store (w.entry + 0xFFFFFFFFFFFFFFF8) w.entry).store
        (w.entry + 0xFFFFFFFFFFFFFFF0) (m.reg .rax)).store
          (w.entry + 0xFFFFFFFFFFFFFFE8) (m.reg .rbx) := by
  simp only [runBlock, saveScratch, List.foldl_cons, List.foldl_nil, run, Cpu.push,
    Cpu.setReg, Cpu.store, Function.update_self, Function.update_of_ne,
    Function.update_idem, ne_eq, reduceCtorEq, not_false_eq_true, hrsp, sub_eight,
    UInt64.add_assoc, UInt64.reduceAdd]

theorem saved_saveScratch (hw : w.Separate) (hplaced : w.Placed m.memory)
    (hrsp : m.reg .rsp = w.entry) : Saved w m (runBlock w.image saveScratch m) := by
  have hmemory := memory_saveScratch hrsp
  constructor
  case rsp =>
    simp only [runBlock, saveScratch, List.foldl_cons, List.foldl_nil, run, Cpu.push,
      Cpu.setReg, Cpu.store, Function.update_self, hrsp, sub_eight, UInt64.add_assoc,
      UInt64.reduceAdd]
  case others =>
    intro r hrax hrbx hrcx hrsp
    simp only [runBlock, saveScratch, List.foldl_cons, List.foldl_nil, run, Cpu.push,
      Cpu.setReg, Cpu.store, Function.update_of_ne hrsp]
  case control => rfl
  case placed =>
    rw [hmemory]
    exact ((hplaced.store_stack hw (by decide)).store_stack hw (by decide)).store_stack hw
      (by decide)
  case oldRsp =>
    rw [hmemory, load_stored (by decide) (by decide), load_stored (by decide) (by decide),
      load_store]
  case oldRax => rw [hmemory, load_stored (by decide) (by decide), load_store]
  case oldRbx => rw [hmemory, load_store]
  case frame =>
    intro place hplace
    rw [hmemory, load_frame_of_store_below hplace (by decide),
      load_frame_of_store_below hplace (by decide), load_frame_of_store_below hplace (by decide)]

/-- The address of the record goes to RAX. -/
theorem execBlock_loadFaultInfo (hw : w.Separate) (hplaced : w.Placed m.memory)
    (hrsp : m.reg .rsp = w.entry + place)
    (hplace : (place + 0xFFFFFFFFFFFFFFF8 + 32).toNat + 8 ≤ 80) (rest : Code) :
    execBlock w.image (exec w.image code (depth + 1))
        (.call .getCoreCtxPtr :: .load 72 .rax .rax :: rest) m =
      execBlock w.image (exec w.image code (depth + 1)) rest
        { m with
          reg := Function.update m.reg .rax w.info
          rip := m.rip + w.image.length (.call .getCoreCtxPtr) +
            w.image.length (.load 72 .rax .rax)
          memory := m.memory.store (w.entry + (place + 0xFFFFFFFFFFFFFFF8))
            (m.rip + w.image.length (.call .getCoreCtxPtr)) } := by
  have hcons : (.load 72 .rax .rax :: rest : Code) = [.load 72 .rax .rax] ++ rest := rfl
  have hinfo : (m.memory.store (w.entry + (place + 0xFFFFFFFFFFFFFFF8))
      (m.rip + w.image.length (.call .getCoreCtxPtr))).load (w.context + 72) = w.info :=
    (hw.load_faultInfo _ _ _ hplace).trans hplaced.faultInfo
  rw [execBlock_callLoad rfl hw (by simp [data]) hplaced.contextPtr hrsp hplace, hcons,
    execBlock_straight rfl]
  congr 1
  simp only [runBlock, List.foldl_cons, List.foldl_nil, run, Cpu.setReg, Function.update_self,
    Function.update_idem, hinfo]

theorem fields_registerWrites (rax rbx rsp : UInt64) : Fields (registerWrites m rax rbx rsp) := by
  simp [Fields, registerWrites]

theorem faultInfo_registerWrites :
    w.faultInfo (memory.storeAll w.info
        (registerWrites m (m.reg .rax) (m.reg .rbx) (m.reg .rsp))) =
      registersRecorded m (w.faultInfo memory) := by
  rw [Workspace.faultInfo, record_storeAll (fields_registerWrites _ _ _)]
  simp only [registerWrites, List.foldl_cons, List.foldl_nil, UInt64.reduceToNat, Nat.reduceDiv]
  rfl

/-- Code that works on RAX, RBX, RCX and below the saved registers. -/
theorem Saved.keep {after next : Cpu} (hsaved : Saved w m after)
    (hreg : ∀ r : Reg, r ≠ .rax → r ≠ .rbx → r ≠ .rcx → next.reg r = after.reg r)
    (hcontrol : next.control = after.control) (hplaced : w.Placed next.memory)
    (hstack : ∀ place : UInt64, 8 ≤ (place + 32).toNat → (place + 32).toNat + 8 ≤ 80 →
      next.memory.load (w.entry + place) = after.memory.load (w.entry + place)) :
    Saved w m next := by
  constructor
  case rsp => rw [hreg .rsp (by decide) (by decide) (by decide), hsaved.rsp]
  case others =>
    intro r hrax hrbx hrcx hrsp
    rw [hreg r hrax hrbx hrcx, hsaved.others r hrax hrbx hrcx hrsp]
  case control => rw [hcontrol, hsaved.control]
  case placed => exact hplaced
  case oldRsp => rw [hstack _ (by decide) (by decide), hsaved.oldRsp]
  case oldRax => rw [hstack _ (by decide) (by decide), hsaved.oldRax]
  case oldRbx => rw [hstack _ (by decide) (by decide), hsaved.oldRbx]
  case frame =>
    intro place hplace
    have hsum := toNat_add_frame hplace
    rw [hstack place (by omega) (by omega), hsaved.frame place hplace]

/-- `store_registers` finds the registers of the handler's entry. -/
theorem execBlock_record {saved : Cpu} (depth : ℕ) (hw : w.Separate)
    (hsaved : Saved w m saved)
    (hrsp : m.reg .rsp = w.entry) (hrcx : saved.reg .rcx = m.reg .rcx) (rest : Code) :
    ∃ after, Saved w m after ∧ after.reg .rax = w.info ∧ after.reg .rcx = w.entry ∧
      w.faultInfo after.memory = registersRecorded m (w.faultInfo saved.memory) ∧
      execBlock w.image (exec w.image code (depth + 1))
          (.call .getCoreCtxPtr :: .load 72 .rax .rax :: .call .storeRegisters :: rest) saved =
        execBlock w.image (exec w.image code (depth + 1)) rest after := by
  have hscratch {memory : AddressSpace} {value place : UInt64} (hlow : 8 ≤ (place + 32).toNat)
      (hhigh : (place + 32).toNat + 8 ≤ 80) :
      (memory.store (w.entry + 0xFFFFFFFFFFFFFFE0) value).load (w.entry + place) =
        memory.load (w.entry + place) :=
    load_stored hlow hhigh
  obtain ⟨loaded, hloaded⟩ : ∃ loaded : Cpu, loaded =
      { saved with
        reg := Function.update saved.reg .rax w.info
        rip := saved.rip + w.image.length (.call .getCoreCtxPtr) +
          w.image.length (.load 72 .rax .rax)
        memory := saved.memory.store (w.entry + 0xFFFFFFFFFFFFFFE0)
          (saved.rip + w.image.length (.call .getCoreCtxPtr)) } := ⟨_, rfl⟩
  have hloadedReg : loaded.reg = Function.update saved.reg .rax w.info := by rw [hloaded]
  have hsame : Saved w m loaded := by
    apply hsaved.keep
    · intro r hrax hrbx hrcx
      rw [hloadedReg, Function.update_of_ne hrax]
    · rw [hloaded]
    · rw [hloaded]
      exact hsaved.placed.store_stack hw (by decide)
    · intro place hlow hhigh
      rw [hloaded]
      exact hscratch hlow hhigh
  have hrax : loaded.reg .rax = w.info := by
    rw [hloadedReg, Function.update_self]
  have hinfo : w.faultInfo loaded.memory = w.faultInfo saved.memory := by
    rw [hloaded]
    exact hw.faultInfo_store_stack (by decide)
  have hloadedRcx : loaded.reg .rcx = m.reg .rcx := by
    rw [hloadedReg, Function.update_of_ne (by decide), hrcx]
  have hwrites : registerWrites loaded (loaded.peek 0x8) (loaded.peek 0x0) (loaded.peek 0x10) =
      registerWrites m (m.reg .rax) (m.reg .rbx) (m.reg .rsp) := by
    simp only [Cpu.peek, hsame.rsp, UInt64.add_assoc, UInt64.reduceAdd, hsame.oldRsp,
      hsame.oldRax, hsame.oldRbx, hrsp, registerWrites, hsame.control, hloadedRcx, hsame.others,
      ne_eq, reduceCtorEq, not_false_eq_true]
  have hbelow : (0xFFFFFFFFFFFFFFE8 + 0xFFFFFFFFFFFFFFF8 : UInt64) = 0xFFFFFFFFFFFFFFE0 := rfl
  rw [execBlock_loadFaultInfo hw hsaved.placed hsaved.rsp (by decide), hbelow, ← hloaded,
    execBlock_storeRegisters hw hrax hsame.rsp, hwrites]
  refine ⟨_, ?_, ?_, ?_, ?_, rfl⟩
  · apply hsame.keep
    · intro r hrax hrbx hrcx
      simp only [Function.update_of_ne hrbx, Function.update_of_ne hrcx]
    · rfl
    · exact (hsame.placed.store_stack hw (by decide)).storeAll hw (fields_registerWrites _ _ _)
    · intro place hlow hhigh
      rw [hw.load_storeAll_stack (fields_registerWrites _ _ _) hhigh]
      exact hscratch hlow hhigh
  · simp [hrax]
  · simp [Cpu.peek, hsame.rsp, add_assoc, hsame.oldRsp]
  · rw [faultInfo_registerWrites, hw.faultInfo_store_stack (by decide), hinfo]

theorem execBlock_handlerInner (depth : ℕ) (hw : w.Separate) (hplaced : w.Placed m.memory)
    (hrsp : m.reg .rsp = w.entry) (handlerId : UInt64) (rest : Code) :
    ∃ after, AfterInner w handlerId m after ∧
      execBlock w.image (exec w.image code (depth + 1)) (handlerInner handlerId ++ rest) m =
        execBlock w.image (exec w.image code (depth + 1)) rest after := by
  have hsplit : handlerInner handlerId ++ rest =
      saveScratch ++ (.call .getCoreCtxPtr :: .load 72 .rax .rax :: .call .storeRegisters ::
        (finishRecord handlerId ++ rest)) := rfl
  have hrcx : (runBlock w.image saveScratch m).reg .rcx = m.reg .rcx := by
    simp [runBlock, saveScratch, run, Cpu.push, Cpu.setReg, Cpu.store]
  have hinfo : w.faultInfo (runBlock w.image saveScratch m).memory =
      w.faultInfo m.memory := by
    rw [memory_saveScratch hrsp, hw.faultInfo_store_stack (by decide),
      hw.faultInfo_store_stack (by decide), hw.faultInfo_store_stack (by decide)]
  obtain ⟨stored, hstored, hraxStored, hrcxStored, hinfoStored, hrun⟩ :=
    execBlock_record depth hw (saved_saveScratch hw hplaced hrsp) hrsp hrcx
      (finishRecord handlerId ++ rest)
  rw [hsplit, execBlock_straight rfl, hrun, execBlock_straight rfl]
  refine ⟨_, ?_, rfl⟩
  have hmemory : (runBlock w.image (finishRecord handlerId) stored).memory =
      stored.memory.storeAll w.info [(0, 1), (8, handlerId)] := by
    simp only [runBlock, finishRecord, List.foldl_cons, List.foldl_nil, run, Cpu.setReg,
      Cpu.store, storeAll, hraxStored]
  have hfields : Fields [(0, 1), (8, handlerId)] := by simp [Fields]
  constructor
  case reg =>
    funext r
    simp only [runBlock, finishRecord, List.foldl_cons, List.foldl_nil, run, Cpu.setReg,
      Cpu.store, Cpu.top, hraxStored, hstored.rsp, Function.update_self,
      Function.update_of_ne, ne_eq, reduceCtorEq, not_false_eq_true, UInt64.add_assoc,
      UInt64.reduceAdd, UInt64.reduceToNat, Nat.reduceAdd, Nat.reduceLeDiff, hw.load_stack,
      hstored.oldRsp, hstored.oldRax, hstored.oldRbx]
    cases r <;> simp [Function.update, hstored.others, hrcxStored, hrsp]
  case placed =>
    rw [hmemory]
    exact hstored.placed.storeAll hw hfields
  case frame =>
    intro place hplace
    have hsum := toNat_add_frame hplace
    rw [hmemory, hw.load_storeAll_stack hfields (by omega), hstored.frame place hplace]
  case faultInfo =>
    rw [hmemory, ← hinfo, ← hinfoStored, Workspace.faultInfo, record_storeAll hfields]
    simp only [List.foldl_cons, List.foldl_nil, UInt64.reduceToNat, Nat.reduceDiv]
    rfl
end

end AngryUefi.System
