import AngryUefi.System.FaultRecords

/-!
# What the fault handlers leave alone

On its way to `iretq` a handler writes to the record and to 80 bytes of the
stack, from 32 bytes below its entry on.  Everything else in memory is as it was
when the fault came.
-/

namespace AngryUefi.System

open AngryUefi.X86 AngryUefi.X86.Instruction AngryUefi.AddressSpace Workspace

variable {w : Workspace} {m : Cpu} {before after : AddressSpace} {depth vector : ℕ}
variable {place slot value errorCode : UInt64} {writes pairs : List (UInt64 × UInt64)}

namespace Workspace

/-- The memory outside of the record and of the handler's stack is the same. -/
def Spares (w : Workspace) (before after : AddressSpace) : Prop :=
  ∀ address : UInt64, 216 ≤ (address - w.info).toNat →
    80 ≤ (address - (w.entry - 32)).toNat → after address = before address

theorem Spares.refl : w.Spares before before := fun _ _ _ => rfl

theorem Spares.trans {later : AddressSpace} (hfirst : w.Spares before after)
    (hsecond : w.Spares after later) : w.Spares before later :=
  fun address hinfo hstack => (hsecond address hinfo hstack).trans (hfirst address hinfo hstack)

theorem Spares.store_stack (hspares : w.Spares before after)
    (hplace : (place + 32).toNat + 8 ≤ 80) :
    w.Spares before (after.store (w.entry + place) value) := by
  intro address hinfo hstack
  have hdistance : address - (w.entry + place) = address - (w.entry - 32) - (place + 32) := by
    grind
  have hle : place + 32 ≤ address - (w.entry - 32) := by
    rw [UInt64.le_iff_toNat_le]
    omega
  rw [store_of_le, hspares address hinfo hstack]
  rw [hdistance, UInt64.toNat_sub_of_le _ _ hle]
  omega

theorem Spares.storeAll (hspares : w.Spares before after) (hfields : Fields writes) :
    w.Spares before (after.storeAll w.info writes) := by
  induction writes generalizing after with
  | nil => exact hspares
  | cons write writes ih =>
      rw [Fields, List.map_cons, List.forall_mem_cons] at hfields
      obtain ⟨hoffset, hrest⟩ := hfields
      have hfirst : w.Spares before (after.store (w.info + write.1) write.2) := by
        intro address hinfo hstack
        have hle : write.1 ≤ address - w.info := by
          rw [UInt64.le_iff_toNat_le]
          omega
        rw [store_of_le, hspares address hinfo hstack]
        rw [← sub_sub, UInt64.toNat_sub_of_le _ _ hle]
        omega
      exact ih hfirst hrest

end Workspace

/-! ## The pieces of a handler -/

theorem spares_handlerInner (depth : ℕ) (hw : w.Separate) (hplaced : w.Placed m.memory)
    (hrsp : m.reg .rsp = w.entry) (handlerId : UInt64) :
    ∃ inner, execBlock w.image (exec w.image code (depth + 1)) (handlerInner handlerId) m =
        .next inner ∧ AfterInner w handlerId m inner ∧ w.Spares m.memory inner.memory := by
  obtain ⟨inner, hinner, hrun⟩ := execBlock_handlerInner depth hw hplaced hrsp handlerId []
  rw [List.append_nil] at hrun
  refine ⟨inner, hrun, hinner, ?_⟩
  have hsplit : handlerInner handlerId =
      saveScratch ++ (.call .getCoreCtxPtr :: .load 72 .rax .rax :: .call .storeRegisters ::
        (finishRecord handlerId ++ [])) := rfl
  have hsaved := saved_saveScratch hw hplaced hrsp
  have hmemory := memory_saveScratch (w := w) hrsp
  obtain ⟨saved, hsavedEq⟩ : ∃ saved, saved = runBlock w.image saveScratch m := ⟨_, rfl⟩
  rw [← hsavedEq] at hsaved hmemory
  have hsavedSpares : w.Spares m.memory saved.memory := by
    rw [hmemory]
    exact ((Spares.refl.store_stack (by decide)).store_stack (by decide)).store_stack (by decide)
  rw [hsplit, execBlock_straight rfl, ← hsavedEq,
    execBlock_loadFaultInfo hw hsaved.placed hsaved.rsp (by decide)] at hrun
  obtain ⟨loaded, hloaded⟩ : ∃ loaded : Cpu, loaded =
      { saved with
        reg := Function.update saved.reg .rax w.info
        rip := saved.rip + w.image.length (.call .getCoreCtxPtr) +
          w.image.length (.load 72 .rax .rax)
        memory := saved.memory.store (w.entry + (0xFFFFFFFFFFFFFFE8 + 0xFFFFFFFFFFFFFFF8))
          (saved.rip + w.image.length (.call .getCoreCtxPtr)) } := ⟨_, rfl⟩
  have hreg : loaded.reg = Function.update saved.reg .rax w.info := by rw [hloaded]
  have hloadedSpares : w.Spares m.memory loaded.memory := by
    rw [hloaded]
    exact hsavedSpares.store_stack (by decide)
  have hrax : loaded.reg .rax = w.info := by rw [hreg, Function.update_self]
  have hloadedRsp : loaded.reg .rsp = w.entry + 0xFFFFFFFFFFFFFFE8 := by
    rw [hreg, Function.update_of_ne (by decide), hsaved.rsp]
  rw [← hloaded, execBlock_storeRegisters hw hrax hloadedRsp, execBlock_straight rfl] at hrun
  obtain rfl := Outcome.next.inj hrun
  have hfields : Fields [(0, 1), (8, handlerId)] := by simp [Fields]
  have hfinish (stored : Cpu) (hstored : stored.reg .rax = w.info) :
      (runBlock w.image (finishRecord handlerId) stored).memory =
        stored.memory.storeAll w.info [(0, 1), (8, handlerId)] := by
    simp only [runBlock, finishRecord, List.foldl_cons, List.foldl_nil, run, Cpu.setReg,
      Cpu.store, storeAll, hstored]
  rw [hfinish _ (by simp [hrax])]
  exact ((hloadedSpares.store_stack (by decide)).storeAll
    (fields_registerWrites _ _ _)).storeAll hfields

theorem spares_copyFrame (depth : ℕ) (hw : w.Separate) (hplaced : w.Placed m.memory)
    (hrsp : m.reg .rsp = w.entry + slot) (hslot : 8 ≤ (slot + 32).toNat)
    (hinside : (slot + 32).toNat + 8 ≤ 80) (pairs : List (UInt64 × UInt64))
    (hplaces : ∀ pair ∈ pairs, (slot + 32).toNat ≤ (slot + pair.1 + 32).toNat ∧
      (slot + pair.1 + 32).toNat + 8 ≤ 80)
    (hfields : ∀ writes : List (UInt64 × UInt64),
      writes.map Prod.fst = pairs.map Prod.snd → Fields writes) :
    ∃ after, execBlock w.image (exec w.image code (depth + 1))
        (.call .getCoreCtxPtr :: .load 72 .rax .rax :: copyWords pairs) m = .next after ∧
      FrameCopied w slot pairs m after ∧ w.Spares m.memory after.memory := by
  have hcopiedFields (m : Cpu) : Fields (copied m pairs) := by
    apply hfields
    simp only [copied, List.map_map]
    rfl
  obtain ⟨after, hafter, hrun⟩ := execBlock_copyFrame depth hw hplaced hrsp hslot hinside pairs
    hplaces (hcopiedFields m) []
  have hbelow : (slot + 0xFFFFFFFFFFFFFFF8 + 32).toNat + 8 ≤ 80 := by
    simp only [UInt64.toNat_add, UInt64.reduceToNat] at hslot hinside ⊢
    omega
  have hinsideRecord : ∀ pair ∈ pairs,
      (slot + pair.1 + 32).toNat + 8 ≤ 80 ∧ pair.2.toNat + 8 ≤ 216 := by
    intro pair hpair
    have hmem : pair.2 ∈ (copied m pairs).map Prod.fst := by
      rw [copied, List.map_map]
      exact List.mem_map_of_mem hpair
    have hfield := hcopiedFields m pair.2 hmem
    exact ⟨(hplaces pair hpair).2, by omega⟩
  obtain ⟨loaded, hloaded⟩ : ∃ loaded : Cpu, loaded =
      { m with
        reg := Function.update m.reg .rax w.info
        rip := m.rip + w.image.length (.call .getCoreCtxPtr) +
          w.image.length (.load 72 .rax .rax)
        memory := m.memory.store (w.entry + (slot + 0xFFFFFFFFFFFFFFF8))
          (m.rip + w.image.length (.call .getCoreCtxPtr)) } := ⟨_, rfl⟩
  have hreg : loaded.reg = Function.update m.reg .rax w.info := by rw [hloaded]
  have hrax : loaded.reg .rax = w.info := by rw [hreg, Function.update_self]
  have hloadedRsp : loaded.reg .rsp = w.entry + slot := by
    rw [hreg, Function.update_of_ne (by decide), hrsp]
  have hspares : w.Spares m.memory loaded.memory := by
    rw [hloaded]
    exact Spares.refl.store_stack hbelow
  refine ⟨after, by rwa [List.append_nil] at hrun, hafter, ?_⟩
  rw [execBlock_loadFaultInfo hw hplaced hrsp hbelow, ← hloaded,
    execBlock_straight straight_copyWords] at hrun
  obtain rfl := Outcome.next.inj hrun
  rw [(copied_copyWords hw hrax hloadedRsp pairs hinsideRecord).memory]
  exact hspares.storeAll (hcopiedFields loaded)

theorem spares_recover (depth : ℕ) (hw : w.Separate) (hplaced : w.Placed m.memory)
    (hrsp : m.reg .rsp = w.entry + slot)
    (hbelow : (slot + 0xFFFFFFFFFFFFFFF8 + 32).toNat + 8 ≤ 80)
    (hinside : (slot + 32).toNat + 8 ≤ 80) :
    (execBlock w.image (exec w.image code (depth + 1)) recover m).Interrupted fun final =>
      w.Spares m.memory final.memory := by
  have hmov (rest : Code) : (.mov .rax .rdi :: rest : Code) = [.mov .rax .rdi] ++ rest := rfl
  rw [recover, execBlock_callLoad rfl hw (by simp [data]) hplaced.contextPtr hrsp hbelow, hmov,
    execBlock_straight rfl]
  obtain ⟨called, hcalled⟩ : ∃ called : Cpu, called = runBlock w.image [.mov .rax .rdi]
      { m with
        reg := Function.update m.reg .rax w.context
        rip := m.rip + w.image.length (.call .getCoreCtxPtr)
        memory := m.memory.store (w.entry + (slot + 0xFFFFFFFFFFFFFFF8))
          (m.rip + w.image.length (.call .getCoreCtxPtr)) } := ⟨_, rfl⟩
  have hmemory : called.memory = m.memory.store (w.entry + (slot + 0xFFFFFFFFFFFFFFF8))
      (m.rip + w.image.length (.call .getCoreCtxPtr)) := by
    rw [hcalled]
    rfl
  have hcalledRsp : called.reg .rsp = w.entry + slot := by
    simp [hcalled, runBlock, run, Cpu.setReg, hrsp]
  have hcalledPlaced : w.Placed called.memory := by
    rw [hmemory]
    exact hplaced.store_stack hw hbelow
  rw [← hcalled, execBlock_callLoad rfl hw (by simp [data]) hcalledPlaced.recovery hcalledRsp
    hbelow]
  simp only [execBlock, run, Outcome.Interrupted, Cpu.store, Function.update_self,
    Function.update_of_ne, ne_eq, reduceCtorEq, not_false_eq_true, hcalledRsp, UInt64.add_zero,
    hmemory]
  exact ((Spares.refl.store_stack hbelow).store_stack hbelow).store_stack hinside

/-! ## The handlers -/

theorem spares_recordFault (depth : ℕ) (hw : w.Separate) (hplaced : w.Placed m.memory)
    (hrsp : m.reg .rsp = w.entry) (handlerId : UInt64) (pairs : List (UInt64 × UInt64))
    (hplaces : ∀ pair ∈ pairs, pair.1.toNat + 8 ≤ 48)
    (hfields : ∀ writes : List (UInt64 × UInt64),
      writes.map Prod.fst = pairs.map Prod.snd → Fields writes) :
    ∃ after, execBlock w.image (exec w.image code (depth + 1)) (handlerInner handlerId ++
        (.call .getCoreCtxPtr :: .load 72 .rax .rax :: copyWords pairs)) m = .next after ∧
      FaultRecorded w handlerId pairs m after ∧ w.Spares m.memory after.memory := by
  obtain ⟨after, hafter, hrun⟩ :=
    execBlock_recordFault depth hw hplaced hrsp handlerId pairs hplaces hfields []
  rw [List.append_nil] at hrun
  refine ⟨after, hrun, hafter, ?_⟩
  obtain ⟨inner, hinnerRun, hinner, hspares⟩ := spares_handlerInner depth hw hplaced hrsp handlerId
  have hinnerRsp : inner.reg .rsp = w.entry + 0 := by
    rw [hinner.reg, Function.update_of_ne (by decide), hrsp, add_zero]
  have hcopiedPlaces : ∀ pair ∈ pairs, ((0 : UInt64) + 32).toNat ≤ (0 + pair.1 + 32).toNat ∧
      (0 + pair.1 + 32).toNat + 8 ≤ 80 := by
    intro pair hpair
    have hplace := hplaces pair hpair
    have hsum := toNat_add_frame hplace
    have hsame : 0 + pair.1 = pair.1 := zero_add _
    have hzero : ((0 : UInt64) + 32).toNat = 32 := rfl
    rw [hsame]
    constructor
    · omega
    · omega
  obtain ⟨copied, hcopied, -, hcopiedSpares⟩ := spares_copyFrame depth hw hinner.placed hinnerRsp
    (by decide) (by decide) pairs hcopiedPlaces hfields
  rw [execBlock_append, hinnerRun, Outcome.andThen, hcopied] at hrun
  obtain rfl := Outcome.next.inj hrun
  exact hspares.trans hcopiedSpares

theorem spares_handlerNoErrorCode (hw : w.Separate) (hplaced : w.Placed m.memory)
    (hrsp : m.reg .rsp = w.entry) (handlerId : UInt64) :
    (execBlock w.image (exec w.image code (depth + 1)) (handlerNoErrorCode handlerId)
      m).Interrupted fun final => w.Spares m.memory final.memory := by
  have hsplit : handlerNoErrorCode handlerId =
      handlerInner handlerId ++ (.call .getCoreCtxPtr :: .load 72 .rax .rax ::
        copyWords [(0, 0x18), (0x8, 0xC8), (0x10, 0xA0), (0x18, 0xD0)]) ++ recover := rfl
  obtain ⟨after, hrun, hafter, hspares⟩ := spares_recordFault depth hw hplaced hrsp handlerId
    [(0, 0x18), (0x8, 0xC8), (0x10, 0xA0), (0x18, 0xD0)] (by simp)
    (by intro writes hwrites; simp [Fields, hwrites])
  have hafterRsp : after.reg .rsp = w.entry + 0 := by rw [hafter.rsp, add_zero]
  rw [hsplit, execBlock_append, hrun, Outcome.andThen]
  exact (spares_recover depth hw hafter.placed hafterRsp (by decide) (by decide)).mono
    fun final hfinal => hspares.trans hfinal

/-- The words that the handlers with an error code copy. -/
def errorCodeFrame : List (UInt64 × UInt64) :=
  [(0, 0x10), (0x8, 0x18), (0x10, 0xC8), (0x18, 0xA0), (0x20, 0xD0)]

theorem spares_storeFrame (depth : ℕ) (hw : w.Separate) (hplaced : w.Placed m.memory)
    (hrsp : m.reg .rsp = w.entry) (handlerId : UInt64) :
    ∃ after, execBlock w.image (exec w.image code (depth + 1))
        (handlerInner handlerId ++ storeFrame) m = .next after ∧
      FaultRecorded w handlerId errorCodeFrame m after ∧ w.Spares m.memory after.memory :=
  spares_recordFault depth hw hplaced hrsp handlerId errorCodeFrame (by simp [errorCodeFrame])
    (by intro writes hwrites; simp [Fields, hwrites, errorCodeFrame])

theorem spares_handlerWithErrorCode (hw : w.Separate) (hplaced : w.Placed m.memory)
    (hrsp : m.reg .rsp = w.entry) (handlerId : UInt64) :
    (execBlock w.image (exec w.image code (depth + 1)) (handlerWithErrorCode handlerId)
      m).Interrupted fun final => w.Spares m.memory final.memory := by
  obtain ⟨after, hrun, hafter, hspares⟩ := spares_storeFrame depth hw hplaced hrsp handlerId
  have hpopped : (runBlock w.image [.pop .rax] after).reg .rsp = w.entry + 8 := by
    simp [runBlock, run, Cpu.setReg, hafter.rsp]
  have hrecover := @spares_recover w (runBlock w.image [.pop .rax] after) _ depth hw
    hafter.placed hpopped (by decide) (by decide)
  rw [handlerWithErrorCode, List.append_assoc, execBlock_append, hrun, Outcome.andThen,
    execBlock_straight rfl]
  exact hrecover.mono fun final hfinal => hspares.trans hfinal

theorem spares_protoHandler8 (hw : w.Separate) (hplaced : w.Placed m.memory)
    (hrsp : m.reg .rsp = w.entry) :
    (execBlock w.image (exec w.image code (depth + 1)) protoHandler8 m).Interrupted fun final =>
      w.Spares m.memory final.memory := by
  obtain ⟨after, hrun, hafter, hspares⟩ := spares_storeFrame depth hw hplaced hrsp 8
  have hmemory : (runBlock w.image [.leaRip .dummyLoop .rax, .store .rax 0 .rsp] after).memory =
      after.memory.store (w.entry + 0) (w.image.address .dummyLoop) := by
    simp [runBlock, run, Cpu.setReg, Cpu.store, hafter.rsp]
  have hend : [.leaRip .dummyLoop .rax, .store .rax 0 .rsp, .iretq] =
      ([.leaRip .dummyLoop .rax, .store .rax 0 .rsp] ++ [.iretq] : Code) := rfl
  rw [protoHandler8, execBlock_append, hrun, Outcome.andThen, hend, execBlock_straight rfl]
  have hstored : w.Spares m.memory
      (runBlock w.image [.leaRip .dummyLoop .rax, .store .rax 0 .rsp] after).memory := by
    rw [hmemory]
    exact hspares.store_stack (by decide)
  exact hstored

theorem spares_protoHandler13 (hw : w.Separate) (hplaced : w.Placed m.memory)
    (hrsp : m.reg .rsp = w.entry) :
    (execBlock w.image (exec w.image code (depth + 1)) protoHandler13 m).Interrupted fun final =>
      w.Spares m.memory final.memory := by
  have hsplit : protoHandler13 =
      handlerInner 13 ++ ([.push .rcx, .push .rax] ++ ((.call .getCoreCtxPtr ::
        .load 72 .rax .rax :: copyWords gpfFrame) ++ (gpfResume ++ [.iretq]))) := rfl
  obtain ⟨inner, hinnerRun, hinner, hspares⟩ := spares_handlerInner depth hw hplaced hrsp 13
  have hinnerRsp : inner.reg .rsp = w.entry := by
    rw [hinner.reg, Function.update_of_ne (by decide), hrsp]
  obtain ⟨pushed, hpushed⟩ : ∃ pushed, pushed =
      runBlock w.image [.push .rcx, .push .rax] inner := ⟨_, rfl⟩
  have hpushedReg := reg_pushScratch hinnerRsp
  have hpushedMemory := memory_pushScratch hinnerRsp
  rw [← hpushed] at hpushedReg hpushedMemory
  have hpushedRsp : pushed.reg .rsp = w.entry + 0xFFFFFFFFFFFFFFF0 := by
    rw [hpushedReg, Function.update_self]
  have hpushedPlaced : w.Placed pushed.memory := by
    rw [hpushedMemory]
    exact (hinner.placed.store_stack hw (by decide)).store_stack hw (by decide)
  have hpushedSpares : w.Spares m.memory pushed.memory := by
    rw [hpushedMemory]
    exact (hspares.store_stack (by decide)).store_stack (by decide)
  obtain ⟨after, hrun, hafter, hcopied⟩ := spares_copyFrame depth hw hpushedPlaced hpushedRsp
    (by decide) (by decide) gpfFrame (by simp [gpfFrame])
    (by intro writes hwrites; simp [Fields, hwrites, gpfFrame])
  have hafterRsp : after.reg .rsp = w.entry + 0xFFFFFFFFFFFFFFF0 := by
    rw [hafter.reg _ (by decide) (by decide), hpushedRsp]
  have hmemory : (runBlock w.image gpfResume after).memory =
      after.memory.store (w.entry + 8) (after.memory.load (w.entry + 8) + 2) := by
    simp only [runBlock, gpfResume, List.foldl_cons, List.foldl_nil, run, arithmetic,
      Cpu.push, Cpu.setReg, Cpu.store, Cpu.top, Function.update_self,
      Function.update_of_ne, ne_eq, reduceCtorEq, not_false_eq_true, hafterRsp, sub_eight,
      UInt64.add_assoc, UInt64.reduceAdd]
  have hresumed : w.Spares m.memory (runBlock w.image gpfResume after).memory := by
    rw [hmemory]
    exact ((hpushedSpares.trans hcopied)).store_stack (by decide)
  rw [hsplit, execBlock_append, hinnerRun, Outcome.andThen, execBlock_straight rfl, ← hpushed,
    execBlock_append, hrun, Outcome.andThen, execBlock_straight rfl]
  exact hresumed

/-- The processor pushes the frame onto the handler's stack. -/
theorem spares_interrupt (code : Option UInt64) (handler : UInt64)
    (hentry : w.entry = m.frameEntry code) :
    w.Spares m.memory (m.interrupt code handler).memory := by
  have hzero (memory : AddressSpace) (value : UInt64) :
      memory.store w.entry value = memory.store (w.entry + 0) value := by rw [add_zero]
  cases code with
  | none =>
      rw [Cpu.memory_interrupt_none, ← hentry, hzero]
      exact ((((Spares.refl.store_stack (by decide)).store_stack (by decide)).store_stack
        (by decide)).store_stack (by decide)).store_stack (by decide)
  | some code =>
      rw [Cpu.memory_interrupt_some, ← hentry, hzero]
      exact (((((Spares.refl.store_stack (by decide)).store_stack (by decide)).store_stack
        (by decide)).store_stack (by decide)).store_stack (by decide)).store_stack (by decide)

/-- A fault of any vector, from the interrupted code up to `iretq`. -/
theorem Arrives.spares_deliver (hf : Arrives w vector errorCode m) (depth : ℕ) :
    (deliver w.image (depth + 2) vector errorCode m).Interrupted fun final =>
      w.Spares m.memory final.memory := by
  have hinterrupt : w.Spares m.memory (entered w.image vector errorCode m).memory :=
    spares_interrupt _ _ hf.entry
  have hhandler : (execBlock w.image (exec w.image code (depth + 1))
      (code (installedHandler vector)) (entered w.image vector errorCode m)).Interrupted
        fun final => w.Spares (entered w.image vector errorCode m).memory final.memory := by
    rw [code_installedHandler]
    split_ifs with hdouble hprotection hpopping
    · exact spares_protoHandler8 hf.separate hf.placed_entered hf.rsp_entered
    · exact spares_protoHandler13 hf.separate hf.placed_entered hf.rsp_entered
    · exact spares_handlerWithErrorCode hf.separate hf.placed_entered hf.rsp_entered _
    · exact spares_handlerNoErrorCode hf.separate hf.placed_entered hf.rsp_entered _
  rw [deliver_of_lt hf.inTable]
  exact hhandler.mono fun final hfinal => hinterrupt.trans hfinal

/-! ## The table stays loaded -/

theorem code_keepsIdtr (label : Label) (hlabel : label ≠ .setIdtr) :
    ∀ instruction ∈ code label, instruction.keepsIdtr = true ∧
      ∀ target, instruction.target = some target → target ≠ .setIdtr := by
  have hall : (code label).all (fun instruction =>
      instruction.keepsIdtr && decide (instruction.target ≠ some .setIdtr)) = true := by
    cases label with
    | setIdtr => exact absurd rfl hlabel
    | _ => rfl
  intro instruction hinstruction
  have hone := List.all_eq_true.mp hall instruction hinstruction
  rw [Bool.and_eq_true, decide_eq_true_iff] at hone
  exact ⟨hone.1, by rintro _ htarget rfl; exact hone.2 htarget⟩

theorem Arrives.idtr_deliver (hf : Arrives w vector errorCode m) (depth : ℕ) :
    (deliver w.image (depth + 1) vector errorCode m).Leaves (·.idtr = m.idtr) := by
  have hinstalled : installedHandler vector ≠ .setIdtr := by
    rw [installedHandler]
    split_ifs with hvector
    · rw [protoFaultHandlersCount] at hvector
      interval_cases vector <;> decide
    · decide
  have hentered : (entered w.image vector errorCode m).idtr = m.idtr := by
    rw [entered]
    cases pushedErrorCode vector errorCode <;> rfl
  have hhandler : (exec w.image code (depth + 1) (installedHandler vector)
      (entered w.image vector errorCode m)).Leaves (·.idtr = m.idtr) :=
    idtr_exec code_keepsIdtr (depth + 1) hinstalled hentered
  rw [deliver_of_lt hf.inTable]
  exact hhandler

end AngryUefi.System
