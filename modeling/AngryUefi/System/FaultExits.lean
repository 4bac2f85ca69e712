import AngryUefi.System.FaultStubs

/-!
# How the fault handlers end

A handler reaches `iretq` with RSP at some slot of the interrupt frame.  For
each kind of handler: where RSP is, what is left of the frame, what the record
holds, and where the processor goes on.
-/

namespace AngryUefi.System

open AngryUefi.X86 AngryUefi.X86.Instruction AngryUefi.AddressSpace Workspace

variable {w : Workspace} {m : Cpu} {depth : ℕ} {place slot : UInt64}

/-- Quadwords of the stack that go to the record, through RCX. -/
def copyWords (pairs : List (UInt64 × UInt64)) : Code :=
  pairs.flatMap fun pair => [.load pair.1 .rsp .rcx, .store .rcx pair.2 .rax]

theorem straight_copyWords {pairs : List (UInt64 × UInt64)} :
    (copyWords pairs).all Instruction.straight := by
  simp [copyWords, Instruction.straight]

/-- What `copyWords` writes. -/
def copied (m : Cpu) (pairs : List (UInt64 × UInt64)) : List (UInt64 × UInt64) :=
  pairs.map fun pair => (pair.2, m.peek pair.1)

/-- `copyWords` changes RCX and the record. -/
structure Copied (w : Workspace) (pairs : List (UInt64 × UInt64)) (m after : Cpu) : Prop where
  reg : ∀ r : Reg, r ≠ .rcx → after.reg r = m.reg r
  control : after.control = m.control
  memory : after.memory = m.memory.storeAll w.info (copied m pairs)

theorem copied_copyWords (hw : w.Separate) (hrax : m.reg .rax = w.info)
    (hrsp : m.reg .rsp = w.entry + slot) (pairs : List (UInt64 × UInt64))
    (hplaces : ∀ pair ∈ pairs, (slot + pair.1 + 32).toNat + 8 ≤ 80 ∧ pair.2.toNat + 8 ≤ 216) :
    Copied w pairs m (runBlock w.image (copyWords pairs) m) := by
  induction pairs generalizing m with
  | nil => exact ⟨fun _ _ => rfl, rfl, rfl⟩
  | cons pair pairs ih =>
      rw [List.forall_mem_cons] at hplaces
      obtain ⟨next, hnext⟩ : ∃ next, next =
          runBlock w.image [.load pair.1 .rsp .rcx, .store .rcx pair.2 .rax] m := ⟨_, rfl⟩
      have hreg (r : Reg) (hr : r ≠ .rcx) : next.reg r = m.reg r := by
        rw [hnext]
        exact Function.update_of_ne hr _ _
      have hmemory : next.memory = m.memory.store (w.info + pair.2) (m.peek pair.1) := by
        simp [hnext, runBlock, run, Cpu.store, Cpu.setReg, Cpu.peek, hrax]
      have hpeek : copied next pairs = copied m pairs := by
        apply List.map_congr_left
        intro other hother
        rw [Cpu.peek, hreg .rsp (by decide), hmemory, hrsp, add_assoc,
          hw.load_stack _ _ _ _ hplaces.1.2 (hplaces.2 other hother).1, ← add_assoc, ← hrsp]
        rfl
      have hnextRax : next.reg .rax = w.info := by rw [hreg .rax (by decide), hrax]
      have hnextRsp : next.reg .rsp = w.entry + slot := by rw [hreg .rsp (by decide), hrsp]
      have hrest := ih hnextRax hnextRsp hplaces.2
      have hrun : runBlock w.image (copyWords (pair :: pairs)) m =
          runBlock w.image (copyWords pairs) next := by
        rw [hnext]
        rfl
      rw [hrun]
      constructor
      · intro r hr
        rw [hrest.reg r hr, hreg r hr]
      · rw [hrest.control, hnext]
        rfl
      · rw [hrest.memory, hpeek, hmemory]
        rfl

theorem faultInfo_storeAll_congr {memory memory' : AddressSpace} {writes : List (UInt64 × UInt64)}
    (hsame : w.record memory = w.record memory') (hfields : Fields writes) :
    w.faultInfo (memory.storeAll w.info writes) = w.faultInfo (memory'.storeAll w.info writes) := by
  rw [Workspace.faultInfo, Workspace.faultInfo, record_storeAll hfields, record_storeAll hfields,
    hsame]

/-- Code that copies quadwords of the stack into the record leaves the stack
from a place on. -/
structure FrameCopied (w : Workspace) (slot : UInt64) (pairs : List (UInt64 × UInt64))
    (m after : Cpu) : Prop where
  reg : ∀ r : Reg, r ≠ .rax → r ≠ .rcx → after.reg r = m.reg r
  placed : w.Placed after.memory
  stack : ∀ place : UInt64, (slot + 32).toNat ≤ (place + 32).toNat →
    (place + 32).toNat + 8 ≤ 80 →
      after.memory.load (w.entry + place) = m.memory.load (w.entry + place)
  faultInfo : w.faultInfo after.memory =
    w.faultInfo (m.memory.storeAll w.info (copied m pairs))

theorem execBlock_copyFrame (depth : ℕ) (hw : w.Separate) (hplaced : w.Placed m.memory)
    (hrsp : m.reg .rsp = w.entry + slot) (hslot : 8 ≤ (slot + 32).toNat)
    (hinside : (slot + 32).toNat + 8 ≤ 80) (pairs : List (UInt64 × UInt64))
    (hplaces : ∀ pair ∈ pairs, (slot + 32).toNat ≤ (slot + pair.1 + 32).toNat ∧
      (slot + pair.1 + 32).toNat + 8 ≤ 80)
    (hfields : Fields (copied m pairs)) (rest : Code) :
    ∃ after, FrameCopied w slot pairs m after ∧
      execBlock w.image (exec w.image code (depth + 1))
          (.call .getCoreCtxPtr :: .load 72 .rax .rax :: (copyWords pairs ++ rest)) m =
        execBlock w.image (exec w.image code (depth + 1)) rest after := by
  have hbelow : (slot + 0xFFFFFFFFFFFFFFF8 + 32).toNat + 8 = (slot + 32).toNat := by
    simp only [UInt64.toNat_add, UInt64.reduceToNat] at hslot hinside ⊢
    omega
  have hkept {value place : UInt64} (hlow : (slot + 32).toNat ≤ (place + 32).toNat)
      (hhigh : (place + 32).toNat + 8 ≤ 80) :
      (m.memory.store (w.entry + (slot + 0xFFFFFFFFFFFFFFF8)) value).load (w.entry + place) =
        m.memory.load (w.entry + place) :=
    load_stored (by omega) hhigh
  rw [execBlock_loadFaultInfo hw hplaced hrsp (by omega)]
  obtain ⟨loaded, hloaded⟩ : ∃ loaded : Cpu, loaded =
      { m with
        reg := Function.update m.reg .rax w.info
        rip := m.rip + w.image.length (.call .getCoreCtxPtr) +
          w.image.length (.load 72 .rax .rax)
        memory := m.memory.store (w.entry + (slot + 0xFFFFFFFFFFFFFFF8))
          (m.rip + w.image.length (.call .getCoreCtxPtr)) } := ⟨_, rfl⟩
  have hreg : loaded.reg = Function.update m.reg .rax w.info := by rw [hloaded]
  have hmemory : loaded.memory = m.memory.store (w.entry + (slot + 0xFFFFFFFFFFFFFFF8))
      (m.rip + w.image.length (.call .getCoreCtxPtr)) := by rw [hloaded]
  have hloadedRsp : loaded.reg .rsp = w.entry + slot := by
    rw [hreg, Function.update_of_ne (by decide), hrsp]
  have hwords : copied loaded pairs = copied m pairs := by
    apply List.map_congr_left
    intro pair hpair
    rw [Cpu.peek, Cpu.peek, hloadedRsp, hrsp, hmemory, add_assoc,
      hkept (hplaces pair hpair).1 (hplaces pair hpair).2]
  have hloadedRax : loaded.reg .rax = w.info := by rw [hreg, Function.update_self]
  have hinside : ∀ pair ∈ pairs, (slot + pair.1 + 32).toNat + 8 ≤ 80 ∧ pair.2.toNat + 8 ≤ 216 := by
    intro pair hpair
    have hmem : pair.2 ∈ (copied m pairs).map Prod.fst := by
      rw [copied, List.map_map]
      exact List.mem_map_of_mem hpair
    have hfield := hfields pair.2 hmem
    exact ⟨(hplaces pair hpair).2, by omega⟩
  have hcopied := copied_copyWords hw hloadedRax hloadedRsp pairs hinside
  rw [← hloaded, execBlock_straight straight_copyWords]
  refine ⟨_, ?_, rfl⟩
  constructor
  case reg =>
    intro r hrax hrcx
    rw [hcopied.reg r hrcx, hreg, Function.update_of_ne hrax]
  case placed =>
    rw [hcopied.memory, hwords, hmemory]
    exact (hplaced.store_stack hw (by omega)).storeAll hw hfields
  case stack =>
    intro place hlow hhigh
    rw [hcopied.memory, hwords, hw.load_storeAll_stack hfields hhigh, hmemory, hkept hlow hhigh]
  case faultInfo =>
    rw [hcopied.memory, hwords, hmemory]
    exact faultInfo_storeAll_congr (hw.record_store_stack _ _ _ (by omega)) hfields

/-- A handler that ends in recovery is about to return to the stub that
restores the core's stack, with the context in RDI. -/
structure Recovers (w : Workspace) (slot : UInt64) (m final : Cpu) : Prop where
  rsp : final.reg .rsp = w.entry + slot
  rdi : final.reg .rdi = w.context
  rip : final.memory.load (w.entry + slot) = w.image.address .coreMainLoopStubRecovery
  frame : ∀ place : UInt64, (slot + 32).toNat + 8 ≤ (place + 32).toNat →
    (place + 32).toNat + 8 ≤ 80 →
      final.memory.load (w.entry + place) = m.memory.load (w.entry + place)
  faultInfo : w.faultInfo final.memory = w.faultInfo m.memory

theorem execBlock_recover (depth : ℕ) (hw : w.Separate) (hplaced : w.Placed m.memory)
    (hrsp : m.reg .rsp = w.entry + slot) (hslot : 8 ≤ (slot + 32).toNat)
    (hinside : (slot + 32).toNat + 8 ≤ 80) :
    (execBlock w.image (exec w.image code (depth + 1)) recover m).Interrupted
      (Recovers w slot m) := by
  have hbelow : (slot + 0xFFFFFFFFFFFFFFF8 + 32).toNat + 8 = (slot + 32).toNat := by
    simp only [UInt64.toNat_add, UInt64.reduceToNat] at hslot hinside ⊢
    omega
  have hmov (rest : Code) : (.mov .rax .rdi :: rest : Code) = [.mov .rax .rdi] ++ rest := rfl
  obtain ⟨called, hcalled⟩ : ∃ called : Cpu, called = runBlock w.image [.mov .rax .rdi]
      { m with
        reg := Function.update m.reg .rax w.context
        rip := m.rip + w.image.length (.call .getCoreCtxPtr)
        memory := m.memory.store (w.entry + (slot + 0xFFFFFFFFFFFFFFF8))
          (m.rip + w.image.length (.call .getCoreCtxPtr)) } := ⟨_, rfl⟩
  have hreg : called.reg =
      Function.update (Function.update m.reg .rax w.context) .rdi w.context := by
    simp [hcalled, runBlock, run, Cpu.setReg]
  have hmemory : called.memory = m.memory.store (w.entry + (slot + 0xFFFFFFFFFFFFFFF8))
      (m.rip + w.image.length (.call .getCoreCtxPtr)) := by
    rw [hcalled]
    rfl
  have hcalledRsp : called.reg .rsp = w.entry + slot := by
    rw [hreg, Function.update_of_ne (by decide), Function.update_of_ne (by decide), hrsp]
  have hcalledPlaced : w.Placed called.memory := by
    rw [hmemory]
    exact hplaced.store_stack hw (by omega)
  rw [recover, execBlock_callLoad rfl hw (by simp [data]) hplaced.contextPtr hrsp (by omega),
    hmov, execBlock_straight rfl, ← hcalled,
    execBlock_callLoad rfl hw (by simp [data]) hcalledPlaced.recovery hcalledRsp (by omega)]
  constructor
  case rsp => simp [run, Cpu.store, hcalledRsp]
  case rdi => simp [run, Cpu.store, hreg]
  case rip => simp [run, Cpu.store, hcalledRsp]
  case frame =>
    intro place hlow hhigh
    simp only [run, Cpu.store, Function.update_of_ne, ne_eq, reduceCtorEq, not_false_eq_true,
      hcalledRsp, UInt64.add_zero]
    rw [load_stored hlow hhigh, load_stored (by omega) hhigh, hmemory, load_stored (by omega) hhigh]
  case faultInfo =>
    simp only [run, Cpu.store, Function.update_of_ne, ne_eq, reduceCtorEq, not_false_eq_true,
      hcalledRsp, UInt64.add_zero]
    rw [hw.faultInfo_store_stack hinside, hw.faultInfo_store_stack (by omega), hmemory,
      hw.faultInfo_store_stack (by omega)]

/-! ## The handlers -/

/-- The record after `m_handler_inner`. -/
def innerRecorded (handlerId : UInt64) (m : Cpu) (old : CoreFaultInfo) : CoreFaultInfo :=
  { registersRecorded m old with
    faultOccured := 1
    faultNumber := handlerId }

/-- The record with the four words of a frame whose RIP is at an address. -/
def frameRecorded (memory : AddressSpace) (rip : UInt64) (old : CoreFaultInfo) : CoreFaultInfo :=
  { old with
    oldRip := memory.load rip
    csValue := memory.load (rip + 8)
    rflagsValue := memory.load (rip + 16)
    originalRsp := memory.load (rip + 24) }

/-- How a handler leaves the frame and the record, RSP at the slot of RIP. -/
structure HandlerEnd (w : Workspace) (slot : UInt64) (info : CoreFaultInfo) (m final : Cpu) :
    Prop where
  rsp : final.reg .rsp = w.entry + slot
  frame : ∀ place : UInt64, slot.toNat + 8 ≤ place.toNat → place.toNat + 8 ≤ 48 →
    final.memory.load (w.entry + place) = m.memory.load (w.entry + place)
  faultInfo : w.faultInfo final.memory = info

/-- The way back into the main loop. -/
def EntersRecovery (w : Workspace) (final : Cpu) : Prop :=
  final.top = w.image.address .coreMainLoopStubRecovery ∧ final.reg .rdi = w.context

theorem faultInfo_frameWrites (memory : AddressSpace) (rip cs rflags rsp : UInt64) :
    w.faultInfo (memory.storeAll w.info [(0x18, rip), (0xC8, cs), (0xA0, rflags), (0xD0, rsp)]) =
      { w.faultInfo memory with
        oldRip := rip
        csValue := cs
        rflagsValue := rflags
        originalRsp := rsp } := by
  rw [Workspace.faultInfo, record_storeAll (by simp [Fields])]
  simp only [List.foldl_cons, List.foldl_nil, UInt64.reduceToNat, Nat.reduceDiv]
  rfl

theorem faultInfo_frameWrites_errorCode (memory : AddressSpace)
    (errorCode rip cs rflags rsp : UInt64) :
    w.faultInfo (memory.storeAll w.info
        [(0x10, errorCode), (0x18, rip), (0xC8, cs), (0xA0, rflags), (0xD0, rsp)]) =
      { w.faultInfo memory with
        errorCode := errorCode
        oldRip := rip
        csValue := cs
        rflagsValue := rflags
        originalRsp := rsp } := by
  rw [Workspace.faultInfo, record_storeAll (by simp [Fields])]
  simp only [List.foldl_cons, List.foldl_nil, UInt64.reduceToNat, Nat.reduceDiv]
  rfl

/-- A handler once it has copied the frame: the record is that of
`m_handler_inner` with the copies. -/
structure FaultRecorded (w : Workspace) (handlerId : UInt64) (pairs : List (UInt64 × UInt64))
    (m after : Cpu) : Prop where
  rsp : after.reg .rsp = w.entry
  placed : w.Placed after.memory
  frame : ∀ place : UInt64, place.toNat + 8 ≤ 48 →
    after.memory.load (w.entry + place) = m.memory.load (w.entry + place)
  faultInfo : ∃ memory : AddressSpace,
    w.faultInfo memory = innerRecorded handlerId m (w.faultInfo m.memory) ∧
      w.faultInfo after.memory = w.faultInfo (memory.storeAll w.info
        (pairs.map fun pair => (pair.2, m.memory.load (w.entry + pair.1))))

theorem execBlock_recordFault (depth : ℕ) (hw : w.Separate) (hplaced : w.Placed m.memory)
    (hrsp : m.reg .rsp = w.entry) (handlerId : UInt64) (pairs : List (UInt64 × UInt64))
    (hplaces : ∀ pair ∈ pairs, pair.1.toNat + 8 ≤ 48)
    (hfields : ∀ writes : List (UInt64 × UInt64),
      writes.map Prod.fst = pairs.map Prod.snd → Fields writes)
    (rest : Code) :
    ∃ after, FaultRecorded w handlerId pairs m after ∧
      execBlock w.image (exec w.image code (depth + 1)) (handlerInner handlerId ++
          (.call .getCoreCtxPtr :: .load 72 .rax .rax :: (copyWords pairs ++ rest))) m =
        execBlock w.image (exec w.image code (depth + 1)) rest after := by
  obtain ⟨inner, hinner, hinnerRun⟩ := execBlock_handlerInner depth hw hplaced hrsp
    handlerId (.call .getCoreCtxPtr :: .load 72 .rax .rax :: (copyWords pairs ++ rest))
  have hinnerRsp : inner.reg .rsp = w.entry + 0 := by
    rw [hinner.reg, Function.update_of_ne (by decide), hrsp, add_zero]
  have hcopiedPlaces : ∀ pair ∈ pairs, ((0 : UInt64) + 32).toNat ≤ (0 + pair.1 + 32).toNat ∧
      (0 + pair.1 + 32).toNat + 8 ≤ 80 := by
    intro pair hpair
    have hbound := hplaces pair hpair
    have hsum := toNat_add_frame hbound
    have hsame : 0 + pair.1 = pair.1 := zero_add _
    have hzero : ((0 : UInt64) + 32).toNat = 32 := rfl
    rw [hsame]
    constructor
    · omega
    · omega
  obtain ⟨after, hafter, hafterRun⟩ := execBlock_copyFrame depth hw hinner.placed
    hinnerRsp (by decide) (by decide) pairs hcopiedPlaces
    (hfields _ (by simp only [copied, List.map_map]; rfl)) rest
  rw [hinnerRun, hafterRun]
  refine ⟨after, ?_, rfl⟩
  constructor
  case rsp => rw [hafter.reg _ (by decide) (by decide), hinnerRsp, add_zero]
  case placed => exact hafter.placed
  case frame =>
    intro place hplace
    have hsum := toNat_add_frame hplace
    rw [hafter.stack place (by simp [hsum]) (by omega), hinner.frame place hplace]
  case faultInfo =>
    refine ⟨inner.memory, hinner.faultInfo, ?_⟩
    have hwords : copied inner pairs =
        pairs.map fun pair => (pair.2, m.memory.load (w.entry + pair.1)) := by
      apply List.map_congr_left
      intro pair hpair
      rw [Cpu.peek, hinnerRsp, add_zero, hinner.frame pair.1 (hplaces pair hpair)]
    rw [hafter.faultInfo, hwords]

theorem interrupted_handlerNoErrorCode (hw : w.Separate) (hplaced : w.Placed m.memory)
    (hrsp : m.reg .rsp = w.entry) (handlerId : UInt64) :
    (execBlock w.image (exec w.image code (depth + 1)) (handlerNoErrorCode handlerId) m).Interrupted
      fun final => EntersRecovery w final ∧
        HandlerEnd w 0 (frameRecorded m.memory w.entry
          (innerRecorded handlerId m (w.faultInfo m.memory))) m final := by
  have hsplit : handlerNoErrorCode handlerId =
      handlerInner handlerId ++ (.call .getCoreCtxPtr :: .load 72 .rax .rax ::
        (copyWords [(0, 0x18), (0x8, 0xC8), (0x10, 0xA0), (0x18, 0xD0)] ++ recover)) := by
    rw [handlerNoErrorCode, List.append_assoc]
    rfl
  obtain ⟨after, hafter, hafterRun⟩ := execBlock_recordFault depth hw hplaced hrsp
    handlerId [(0, 0x18), (0x8, 0xC8), (0x10, 0xA0), (0x18, 0xD0)]
    (by simp) (by intro writes hwrites; simp [Fields, hwrites]) recover
  obtain ⟨memory, hmemory, hinfo⟩ := hafter.faultInfo
  have hafterRsp : after.reg .rsp = w.entry + 0 := by rw [hafter.rsp, add_zero]
  have hrecover := execBlock_recover depth hw hafter.placed hafterRsp (by decide) (by decide)
  rw [hsplit, hafterRun]
  refine hrecover.mono fun final hfinal => ⟨⟨?_, hfinal.rdi⟩, hfinal.rsp, ?_, ?_⟩
  · rw [Cpu.top, hfinal.rsp, hfinal.rip]
  · intro place hlow hhigh
    have hsum := toNat_add_frame hhigh
    rw [hfinal.frame place (by simpa [hsum] using hlow) (by omega), hafter.frame place hhigh]
  · rw [hfinal.faultInfo, hinfo]
    simp only [List.map_cons, List.map_nil]
    rw [faultInfo_frameWrites, hmemory, add_zero]
    rfl

theorem interrupted_handlerWithErrorCode (hw : w.Separate) (hplaced : w.Placed m.memory)
    (hrsp : m.reg .rsp = w.entry) (handlerId : UInt64) :
    (execBlock w.image (exec w.image code (depth + 1))
        (handlerWithErrorCode handlerId) m).Interrupted
      fun final => EntersRecovery w final ∧
        HandlerEnd w 8 { frameRecorded m.memory (w.entry + 8)
            (innerRecorded handlerId m (w.faultInfo m.memory)) with
          errorCode := m.memory.load w.entry } m final := by
  have hsplit : handlerWithErrorCode handlerId =
      handlerInner handlerId ++ (.call .getCoreCtxPtr :: .load 72 .rax .rax ::
        (copyWords [(0, 0x10), (0x8, 0x18), (0x10, 0xC8), (0x18, 0xA0), (0x20, 0xD0)] ++
          ([.pop .rax] ++ recover))) := by
    rw [handlerWithErrorCode, List.append_assoc, List.append_assoc]
    rfl
  obtain ⟨after, hafter, hafterRun⟩ := execBlock_recordFault depth hw hplaced hrsp
    handlerId [(0, 0x10), (0x8, 0x18), (0x10, 0xC8), (0x18, 0xA0), (0x20, 0xD0)]
    (by simp) (by intro writes hwrites; simp [Fields, hwrites]) ([.pop .rax] ++ recover)
  obtain ⟨memory, hmemory, hinfo⟩ := hafter.faultInfo
  -- the error code goes
  have hpopped : (runBlock w.image [.pop .rax] after).reg .rsp = w.entry + 8 := by
    simp [runBlock, run, Cpu.setReg, hafter.rsp]
  have hrecover := @execBlock_recover w (runBlock w.image [.pop .rax] after) _ depth hw
    hafter.placed hpopped (by decide) (by decide)
  rw [hsplit, hafterRun, execBlock_straight rfl]
  refine hrecover.mono fun final hfinal => ⟨⟨?_, hfinal.rdi⟩, hfinal.rsp, ?_, ?_⟩
  · rw [Cpu.top, hfinal.rsp, hfinal.rip]
  · intro place hlow hhigh
    have hsum := toNat_add_frame hhigh
    have hslot : ((8 : UInt64) + 32).toNat = (8 : UInt64).toNat + 32 := rfl
    rw [hfinal.frame place (by omega) (by omega)]
    exact hafter.frame place hhigh
  · rw [hfinal.faultInfo]
    refine hinfo.trans ?_
    simp only [List.map_cons, List.map_nil]
    rw [faultInfo_frameWrites_errorCode, hmemory, add_zero]
    simp only [frameRecorded, add_assoc]
    rfl

/-- The double fault handler takes the error code's slot for RIP's. -/
theorem interrupted_protoHandler8 (hw : w.Separate) (hplaced : w.Placed m.memory)
    (hrsp : m.reg .rsp = w.entry) :
    (execBlock w.image (exec w.image code (depth + 1)) protoHandler8 m).Interrupted
      fun final => final.top = w.image.address .dummyLoop ∧
        HandlerEnd w 0 { frameRecorded m.memory (w.entry + 8)
            (innerRecorded 8 m (w.faultInfo m.memory)) with
          errorCode := m.memory.load w.entry } m final := by
  have hsplit : protoHandler8 =
      handlerInner 8 ++ (.call .getCoreCtxPtr :: .load 72 .rax .rax ::
        (copyWords [(0, 0x10), (0x8, 0x18), (0x10, 0xC8), (0x18, 0xA0), (0x20, 0xD0)] ++
          ([.leaRip .dummyLoop .rax, .store .rax 0 .rsp] ++ [.iretq]))) := by
    rw [protoHandler8, List.append_assoc]
    rfl
  obtain ⟨after, hafter, hafterRun⟩ := execBlock_recordFault depth hw hplaced hrsp 8
    [(0, 0x10), (0x8, 0x18), (0x10, 0xC8), (0x18, 0xA0), (0x20, 0xD0)]
    (by simp) (by intro writes hwrites; simp [Fields, hwrites])
    ([.leaRip .dummyLoop .rax, .store .rax 0 .rsp] ++ [.iretq])
  obtain ⟨memory, hmemory, hinfo⟩ := hafter.faultInfo
  obtain ⟨final, hfinal⟩ : ∃ final, final =
      runBlock w.image [.leaRip .dummyLoop .rax, .store .rax 0 .rsp] after := ⟨_, rfl⟩
  have hfinalRsp : final.reg .rsp = w.entry + 0 := by
    simp [hfinal, runBlock, run, Cpu.setReg, Cpu.store, hafter.rsp]
  have hfinalMemory : final.memory =
      after.memory.store (w.entry + 0) (w.image.address .dummyLoop) := by
    simp [hfinal, runBlock, run, Cpu.setReg, Cpu.store, hafter.rsp]
  rw [hsplit, hafterRun, execBlock_straight rfl, ← hfinal]
  refine ⟨?_, hfinalRsp, ?_, ?_⟩
  · simp [Cpu.top, hfinalRsp, hfinalMemory]
  · intro place hlow hhigh
    have hsum := toNat_add_frame hhigh
    simp only [hfinalMemory]
    rw [load_stored (by simpa [hsum] using hlow) (by omega), hafter.frame place hhigh]
  · simp only [hfinalMemory]
    rw [hw.faultInfo_store_stack (by decide), hinfo]
    simp only [List.map_cons, List.map_nil]
    rw [faultInfo_frameWrites_errorCode, hmemory, add_zero]
    simp only [frameRecorded, add_assoc]
    rfl

/-- The words of the frame that `proto_handler_13` copies, seen from below its
two pushes. -/
def gpfFrame : List (UInt64 × UInt64) :=
  [(0x10, 0x10), (0x18, 0x18), (0x20, 0xC8), (0x28, 0xA0), (0x30, 0xD0)]

/-- `proto_handler_13` from its pops to `iretq`. -/
def gpfResume : Code := [
  .pop .rax,
  .pop .rcx,
  .pop .rax,
  .pop .rax,
  .addImm 2 .rax,
  .push .rax,
  .movImm 0xDEAD .rax]

/-- The stack of `proto_handler_13` below the frame. -/
theorem memory_pushScratch {inner : Cpu} (hrsp : inner.reg .rsp = w.entry) :
    (runBlock w.image [.push .rcx, .push .rax] inner).memory =
      (inner.memory.store (w.entry + 0xFFFFFFFFFFFFFFF8) (inner.reg .rcx)).store
        (w.entry + 0xFFFFFFFFFFFFFFF0) (inner.reg .rax) := by
  simp only [runBlock, List.foldl_cons, List.foldl_nil, run, Cpu.push, Cpu.setReg,
    Cpu.store, Function.update_self, Function.update_of_ne, ne_eq, reduceCtorEq,
    not_false_eq_true, hrsp, sub_eight, UInt64.add_assoc, UInt64.reduceAdd]

theorem reg_pushScratch {inner : Cpu} (hrsp : inner.reg .rsp = w.entry) :
    (runBlock w.image [.push .rcx, .push .rax] inner).reg =
      Function.update inner.reg .rsp (w.entry + 0xFFFFFFFFFFFFFFF0) := by
  simp only [runBlock, List.foldl_cons, List.foldl_nil, run, Cpu.push, Cpu.setReg,
    Cpu.store, Function.update_self, Function.update_of_ne, Function.update_idem, ne_eq,
    reduceCtorEq, not_false_eq_true, hrsp, sub_eight, UInt64.add_assoc, UInt64.reduceAdd]

/-- The #GP handler resumes two bytes further on, with the RSP of the handler's
entry in RCX. -/
theorem interrupted_protoHandler13 (hw : w.Separate) (hplaced : w.Placed m.memory)
    (hrsp : m.reg .rsp = w.entry) :
    (execBlock w.image (exec w.image code (depth + 1)) protoHandler13 m).Interrupted
      fun final => final.top = m.memory.load (w.entry + 8) + 2 ∧
        final.reg = Function.update (Function.update (Function.update m.reg .rcx w.entry)
          .rax 0xDEAD) .rsp (w.entry + 8) ∧
        HandlerEnd w 8 { frameRecorded m.memory (w.entry + 8)
            (innerRecorded 13 m (w.faultInfo m.memory)) with
          errorCode := m.memory.load w.entry } m final := by
  have hsplit : protoHandler13 =
      handlerInner 13 ++ ([.push .rcx, .push .rax] ++ (.call .getCoreCtxPtr ::
        .load 72 .rax .rax :: (copyWords gpfFrame ++ (gpfResume ++ [.iretq])))) := rfl
  obtain ⟨inner, hinner, hinnerRun⟩ := execBlock_handlerInner depth hw hplaced hrsp 13
    ([.push .rcx, .push .rax] ++ (.call .getCoreCtxPtr ::
      .load 72 .rax .rax :: (copyWords gpfFrame ++ (gpfResume ++ [.iretq]))))
  have hinnerRsp : inner.reg .rsp = w.entry := by
    rw [hinner.reg, Function.update_of_ne (by decide), hrsp]
  obtain ⟨pushed, hpushed⟩ : ∃ pushed, pushed =
      runBlock w.image [.push .rcx, .push .rax] inner := ⟨_, rfl⟩
  have hpushedReg := reg_pushScratch hinnerRsp
  have hpushedMemory := memory_pushScratch hinnerRsp
  rw [← hpushed] at hpushedReg hpushedMemory
  have hpushedRsp : pushed.reg .rsp = w.entry + 0xFFFFFFFFFFFFFFF0 := by
    rw [hpushedReg, Function.update_self]
  have hpushedPlaced : w.Placed pushed.memory := by
    rw [hpushedMemory]
    exact (hinner.placed.store_stack hw (by decide)).store_stack hw (by decide)
  have hpushedFrame (place : UInt64) (hplace : place.toNat + 8 ≤ 48) :
      pushed.memory.load (w.entry + place) = m.memory.load (w.entry + place) := by
    rw [hpushedMemory, load_frame_of_store_below hplace (by decide),
      load_frame_of_store_below hplace (by decide), hinner.frame place hplace]
  obtain ⟨after, hafter, hafterRun⟩ := execBlock_copyFrame depth hw hpushedPlaced
    hpushedRsp (by decide) (by decide) gpfFrame (by simp [gpfFrame])
    (by simp [Fields, copied, gpfFrame]) (gpfResume ++ [.iretq])
  have hafterFrame (place : UInt64) (hplace : place.toNat + 8 ≤ 48) :
      after.memory.load (w.entry + place) = m.memory.load (w.entry + place) := by
    have hsum := toNat_add_frame hplace
    rw [hafter.stack place _ (by omega), hpushedFrame place hplace]
    have hlow : ((0xFFFFFFFFFFFFFFF0 : UInt64) + 32).toNat = 16 := rfl
    omega
  obtain ⟨final, hfinal⟩ : ∃ final, final = runBlock w.image gpfResume after := ⟨_, rfl⟩
  have hafterRsp : after.reg .rsp = w.entry + 0xFFFFFFFFFFFFFFF0 := by
    rw [hafter.reg _ (by decide) (by decide), hpushedRsp]
  have hrcx : after.memory.load (w.entry + 0xFFFFFFFFFFFFFFF8) = w.entry := by
    rw [hafter.stack _ (by decide) (by decide), hpushedMemory, load_stored (by decide) (by decide),
      load_store, hinner.reg, Function.update_self]
  have hfinalMemory : final.memory =
      after.memory.store (w.entry + 8) (m.memory.load (w.entry + 8) + 2) := by
    rw [hfinal]
    simp only [runBlock, gpfResume, List.foldl_cons, List.foldl_nil, run, arithmetic,
      Cpu.push, Cpu.setReg, Cpu.store, Cpu.top, Function.update_self,
      Function.update_of_ne, ne_eq, reduceCtorEq, not_false_eq_true, hafterRsp, sub_eight,
      UInt64.add_assoc, UInt64.reduceAdd, hafterFrame 8 (by decide)]
  have hfinalReg : final.reg = Function.update (Function.update (Function.update m.reg .rcx w.entry)
      .rax 0xDEAD) .rsp (w.entry + 8) := by
    rw [hfinal]
    simp only [runBlock, gpfResume, List.foldl_cons, List.foldl_nil, run, arithmetic,
      Cpu.push, Cpu.setReg, Cpu.store, Cpu.top, Function.update_self,
      Function.update_of_ne, ne_eq, reduceCtorEq, not_false_eq_true, hafterRsp, sub_eight,
      UInt64.add_assoc, UInt64.reduceAdd, hrcx]
    funext r
    cases r <;> simp [Function.update, hafter.reg, hpushedReg, hinner.reg]
  rw [hsplit, hinnerRun, execBlock_straight rfl, ← hpushed, hafterRun, execBlock_straight rfl,
    ← hfinal]
  refine ⟨?_, hfinalReg, ?_, ?_, ?_⟩
  · simp [Cpu.top, hfinalReg, hfinalMemory]
  · simp [hfinalReg]
  · intro place hlow hhigh
    have hsum := toNat_add_frame hhigh
    have hslot : ((8 : UInt64) + 32).toNat = (8 : UInt64).toNat + 32 := rfl
    simp only [hfinalMemory]
    rw [load_stored (by omega) (by omega), hafterFrame place hhigh]
  · simp only [hfinalMemory]
    have herror : pushed.memory.load w.entry = m.memory.load w.entry := by
      simpa using hpushedFrame 0 (by decide)
    have hwords : copied pushed gpfFrame =
        [(0x10, m.memory.load w.entry), (0x18, m.memory.load (w.entry + 8)),
          (0xC8, m.memory.load (w.entry + 16)), (0xA0, m.memory.load (w.entry + 24)),
          (0xD0, m.memory.load (w.entry + 32))] := by
      simp only [copied, gpfFrame, List.map_cons, List.map_nil, Cpu.peek, hpushedRsp,
        UInt64.add_assoc, UInt64.reduceAdd, UInt64.add_zero, herror, hpushedFrame 8 (by decide),
        hpushedFrame 16 (by decide), hpushedFrame 24 (by decide), hpushedFrame 32 (by decide)]
    rw [hw.faultInfo_store_stack (by decide), hafter.faultInfo, hwords,
      faultInfo_frameWrites_errorCode, hpushedMemory, hw.faultInfo_store_stack (by decide),
      hw.faultInfo_store_stack (by decide), hinner.faultInfo]
    simp only [frameRecorded, add_assoc]
    rfl

/-- Core 0's #GP handler keeps every register but RAX. -/
theorem interrupted_gpfHandler (image : Image Label) (routine : Label → Cpu → Outcome)
    (m : Cpu) :
    (execBlock image routine gpfHandler m).Interrupted fun final =>
      final.reg = Function.update (Function.update m.reg .rax 0xDEAD) .rsp (m.reg .rsp + 8) ∧
        final.memory = m.memory.store (m.reg .rsp + 8) (m.memory.load (m.reg .rsp + 8) + 2) := by
  constructor
  · funext r
    cases r <;> simp [run, arithmetic, Cpu.setReg, Cpu.store, Function.update]
  · simp [run, arithmetic, Cpu.setReg, Cpu.store]

end AngryUefi.System
