import AngryUefi.System.MachineCode

/-!
# The microcode that is restored

The second write of the stubs that restore the microcode.  The constant
`original_ucode_s` holds the address of the variable `original_ucode`, which
holds the address of the microcode; the stubs take the address of the constant.
-/

namespace AngryUefi.System

open AngryUefi.X86 AngryUefi.X86.Instruction AngryUefi.AddressSpace

variable {image : Image StubLabel} {m : Cpu} {info : UInt64}

/-- The variable `original_ucode`. -/
def originalUcode (image : Image StubLabel) (memory : AddressSpace) : UInt64 :=
  memory.load (memory.load (image.address .originalUcodeS))

/-- The writes of the patch loader's register by the stub that `m` enters. -/
def writesSince (m final : Cpu) : List X86.Event :=
  (final.events.drop m.events.length).filter X86.Event.isWrite

/-- The second write, if there is one, is of the original microcode. -/
def RestoresOriginal (image : Image StubLabel) (m final : Cpu) : Prop :=
  ∀ number value faulted memory,
    (writesSince m final)[1]? = some (.wrmsr number value faulted memory) →
      number = memory.loadLong (image.address .ucodePatchAddress) ∧
        value = originalUcode image memory

/-- `apply_ucode_execute_machine_code_restore` up to the return of the machine
code, which it reaches when the write does not fault. -/
def machineCodeReturn (image : Image StubLabel) (depth : ℕ) (m : Cpu) : Outcome :=
  execBlock image (exec image stubCode depth)
    (applyContextUcode ++ (.je .applyUcodeExecuteMachineCodeRestoreRet :: callMachineCode)) m

/-- Behind the machine code there is a second write, and it is of the original
microcode. -/
structure RestoresBehindCode (image : Image StubLabel) (depth : ℕ) (m : Cpu) : Prop where
  value : ∀ final, exec image stubCode (depth + 1) .applyUcodeExecuteMachineCodeRestore m =
    .returned final → RestoresOriginal image m final
  happens : ∀ back, machineCodeReturn image depth m = .next back →
    (exec image stubCode (depth + 1) .applyUcodeExecuteMachineCodeRestore m).Returned fun final =>
      (writesSince m final).length = 2

/-- The two writes of a stub. -/
structure WritesTwice (image : Image StubLabel) (m final : Cpu) (first second : Loading)
    (ucode : UInt64) (between : List X86.Event) : Prop where
  events : final.events = m.events ++ first.events image ucode ++ between ++
    second.events image (image.address .originalUcodeS)
  between : between.filter X86.Event.isWrite = []

variable {final : Cpu} {first second : Loading} {ucode : UInt64} {between : List X86.Event}

theorem WritesTwice.writesSince_eq
    (htwice : WritesTwice image m final first second ucode between) :
    writesSince m final =
      [.wrmsr (first.memory.loadLong (image.address .ucodePatchAddress)) ucode first.faulted
          first.memory,
        .wrmsr (second.memory.loadLong (image.address .ucodePatchAddress))
          (image.address .originalUcodeS) second.faulted second.memory] := by
  rw [writesSince, htwice.events, List.append_assoc, List.append_assoc, List.drop_left,
    List.filter_append, List.filter_append, htwice.between]
  rfl

theorem WritesTwice.secondLoads_iff
    (htwice : WritesTwice image m final first second ucode between) :
    RestoresOriginal image m final ↔
      originalUcode image second.memory = image.address .originalUcodeS := by
  rw [RestoresOriginal, htwice.writesSince_eq]
  constructor
  · intro hrestores
    exact (hrestores _ _ _ _ rfl).2.symm
  · rintro horiginal number value faulted memory hwrite
    cases hwrite
    exact ⟨rfl, horiginal.symm⟩

theorem WritesTwice.length_writesSince
    (htwice : WritesTwice image m final first second ucode between) :
    (writesSince m final).length = 2 := by
  rw [htwice.writesSince_eq]
  rfl

/-! ## `apply_ucode_restore` -/

/-- What the constant and the variable lie apart from. -/
structure OriginalPlaced (image : Image StubLabel) (info : UInt64) (m : Cpu) : Prop where
  constant : Sheltered info (m.reg .rsp) (image.address .originalUcodeS) 8
  constantApart : Disjoint (image.address .originalUcodeS) 8 (m.reg .rsi) 8
  original : Sheltered info (m.reg .rsp) (m.memory.load (image.address .originalUcodeS)) 8
  originalApart : Disjoint (m.memory.load (image.address .originalUcodeS)) 8 (m.reg .rsi) 8

/-- Where the first write has gone to, the original is as it was. -/
theorem originalUcode_stored (hplaced : OriginalPlaced image info m) {stored : Cpu}
    (hstored : ResultStored image info m stored) :
    originalUcode image stored.memory = originalUcode image m.memory := by
  obtain ⟨applied, hkept, hmemory⟩ := hstored.memory
  have hload {address : UInt64} (hsheltered : Sheltered info (m.reg .rsp) address 8)
      (hresult : Disjoint address 8 (m.reg .rsi) 8) :
      stored.memory.load address = m.memory.load address := by
    have happart := hresult.apart_base (by decide) (by decide)
    have hsame := hkept.load_base hsheltered (by decide) (by decide)
    rw [hmemory, load_store_of_apart happart.symm, hsame]
  rw [originalUcode, originalUcode, hload hplaced.constant hplaced.constantApart,
    hload hplaced.original hplaced.originalApart]

theorem returned_writesTwice (himage : HandlesGpf image info) (depth : ℕ) (m : Cpu) :
    (exec image stubCode (depth + 1) .applyUcodeRestore m).Returned fun final =>
      ∃ stored, ResultStored image info m stored ∧
        WritesTwice image m final (loadingOf image m) (loadingOf image stored) (m.reg .rdi) [] := by
  obtain ⟨stored, restored, hstored, hrestored, hexec⟩ := exec_applyUcodeRestore himage depth m
  rw [hexec]
  refine ⟨stored, hstored, ?_, rfl⟩
  change restored.events = _
  rw [hrestored.events, ← appliedEvents, appliedEvents_eq, hstored.events, appliedEvents_eq,
    hstored.rdi, List.append_nil]

theorem returned_restoresOriginal_iff (himage : HandlesGpf image info)
    (hplaced : OriginalPlaced image info m) (depth : ℕ) :
    (exec image stubCode (depth + 1) .applyUcodeRestore m).Returned (RestoresOriginal image m) ↔
      originalUcode image m.memory = image.address .originalUcodeS := by
  refine (returned_writesTwice himage depth m).returned_iff fun final hfinal => ?_
  obtain ⟨stored, hstored, htwice⟩ := hfinal
  rw [htwice.secondLoads_iff, ← originalUcode_stored hplaced hstored]
  rfl

/-! ## `apply_ucode_execute_machine_code_restore` -/

/-- The first write of the stub that calls machine code. -/
def contextEvents (image : Image StubLabel) (m : Cpu) : List X86.Event :=
  m.events ++ (loadingOf image (contextEntered image m)).events image
    ((contextEntered image m).reg .rdi)

/-- The machine code has been called and has come back, or the stub has
returned without a call. -/
def CalledOrNot (events : List X86.Event) : Outcome → Prop
  | .next back => ∃ target rax memory, back.events = events ++ [.call target rax memory]
  | .returned final => final.events = events
  | _ => True

theorem calledOrNot_machineCodeReturn (himage : HandlesGpf image info) (depth : ℕ) (m : Cpu) :
    CalledOrNot (contextEvents image m) (machineCodeReturn image depth m) := by
  obtain ⟨before, hbefore, hrun⟩ := execBlock_applyContextUcode himage (exec image stubCode depth)
    m (.je .applyUcodeExecuteMachineCodeRestoreRet :: callMachineCode)
  obtain ⟨compared, hcompared⟩ : ∃ compared, compared = { before with
      rip := before.rip + image.length (.je .applyUcodeExecuteMachineCodeRestoreRet) } := ⟨_, rfl⟩
  obtain ⟨jumped, hjumped⟩ : ∃ jumped, jumped = { before with
      rip := image.address .applyUcodeExecuteMachineCodeRestoreRet } := ⟨_, rfl⟩
  have hevents : before.events = contextEvents image m := by
    rw [hbefore.events, appliedEvents_eq, (contextEntered_entered image m).events, contextEvents]
  have hcomparedEvents : compared.events = contextEvents image m := by rw [hcompared, hevents]
  have hjumpedEvents : jumped.events = contextEvents image m := by rw [hjumped, hevents]
  rw [machineCodeReturn, hrun]
  simp only [execBlock]
  rw [← hcompared, ← hjumped]
  cases compared.zero with
  | true =>
      rw [if_pos rfl]
      cases depth with
      | zero => trivial
      | succ depth =>
          obtain ⟨final, hfinal, hfinalEvents, -⟩ :=
            execBlock_restoreRegs (m := m) (exec image stubCode depth) jumped
          have hexec : exec image stubCode (depth + 1) .applyUcodeExecuteMachineCodeRestoreRet
              jumped = .returned final := hfinal
          rw [hexec]
          exact hfinalEvents.trans hjumpedEvents
  | false =>
      rw [if_neg Bool.false_ne_true]
      obtain ⟨called, hcalled, hcall⟩ := execBlock_callMachineCode image
        (exec image stubCode depth) compared []
      rw [List.append_nil] at hcall
      rw [hcall]
      cases image.foreign called.rip called with
      | returned back =>
          simp only [Outcome.withEvents, Outcome.backTo]
          by_cases hrip : back.rip = called.top
          · rw [if_pos hrip]
            refine ⟨called.rip, called.reg .rax, called.memory, ?_⟩
            rw [← hcomparedEvents, ← hcalled.events]
          · rw [if_neg hrip]
            trivial
      | _ => trivial

theorem exec_executeMachineCodeRestore (image : Image StubLabel) (depth : ℕ) (m : Cpu) :
    exec image stubCode (depth + 1) .applyUcodeExecuteMachineCodeRestore m =
      (machineCodeReturn image depth m).andThen
        (execBlock image (exec image stubCode depth) restoreUcode) := by
  have hsplit : applyUcodeExecuteMachineCodeRestore =
      (applyContextUcode ++ (.je .applyUcodeExecuteMachineCodeRestoreRet :: callMachineCode)) ++
        restoreUcode := rfl
  rw [exec, stubCode, hsplit, execBlock_append, machineCodeReturn]

/-- Behind the machine code the microcode is restored. -/
theorem returned_behind_machineCodeReturn (himage : HandlesGpf image info) (depth : ℕ) {back : Cpu}
    (hback : machineCodeReturn image depth m = .next back) :
    (exec image stubCode (depth + 1) .applyUcodeExecuteMachineCodeRestore m).Returned fun final =>
      ∃ between, WritesTwice image m final (loadingOf image (contextEntered image m))
        (loadingOf image (back.setReg .rdi (image.address .originalUcodeS)))
        ((contextEntered image m).reg .rdi) between := by
  obtain ⟨applied, happlied, hrun⟩ := execBlock_restoreUcode
    (exec image stubCode depth) himage back
  obtain ⟨final, hfinal, hevents, -⟩ :=
    execBlock_restoreRegs (m := m) (exec image stubCode depth) applied
  have hexec : exec image stubCode (depth + 1) .applyUcodeExecuteMachineCodeRestore m =
      .returned final := by
    rw [exec_executeMachineCodeRestore, hback, Outcome.andThen, hrun, hfinal]
  have hcalled := calledOrNot_machineCodeReturn himage depth m
  rw [hback] at hcalled
  obtain ⟨target, rax, memory, hbackEvents⟩ := hcalled
  rw [hexec]
  refine ⟨[.call target rax memory], ?_, rfl⟩
  rw [hevents, happlied.events, ← appliedEvents, appliedEvents_eq]
  change back.events ++ _ = _
  rw [hbackEvents, contextEvents]
  rfl

theorem restoresBehindCode_iff (himage : HandlesGpf image info) (depth : ℕ) :
    RestoresBehindCode image depth m ↔
      ∀ back, machineCodeReturn image depth m = .next back →
        originalUcode image back.memory = image.address .originalUcodeS := by
  constructor
  · intro hrestores back hback
    have hreturned := returned_behind_machineCodeReturn himage depth hback
    cases hexec : exec image stubCode (depth + 1) .applyUcodeExecuteMachineCodeRestore m with
    | returned final =>
        rw [hexec] at hreturned
        obtain ⟨between, htwice⟩ := hreturned
        exact htwice.secondLoads_iff.mp (hrestores.value final hexec)
    | _ =>
        rw [hexec] at hreturned
        exact hreturned.elim
  · intro horiginal
    constructor
    case happens =>
      intro back hback
      refine (returned_behind_machineCodeReturn himage depth hback).mono fun final hfinal => ?_
      obtain ⟨between, htwice⟩ := hfinal
      exact htwice.length_writesSince
    case value =>
      intro final hfinal
      have hcalled := calledOrNot_machineCodeReturn himage depth m
      rw [exec_executeMachineCodeRestore] at hfinal
      cases hreturn : machineCodeReturn image depth m with
      | next back =>
          have hreturned := returned_behind_machineCodeReturn himage depth hreturn
          rw [exec_executeMachineCodeRestore, hfinal] at hreturned
          obtain ⟨between, htwice⟩ := hreturned
          exact htwice.secondLoads_iff.mpr (horiginal back hreturn)
      | returned other =>
          -- a write that faults is the only one
          rw [hreturn] at hfinal hcalled
          cases hfinal
          intro number value faulted memory hwrite
          rw [writesSince, hcalled, contextEvents, List.drop_left] at hwrite
          cases hwrite
      | _ =>
          rw [hreturn] at hfinal
          cases hfinal

/-- The restoring write is of the address of the constant. -/
theorem restoresOriginal_iff (himage : HandlesGpf image info)
    (hplaced : OriginalPlaced image info m) (depth : ℕ) :
    ((exec image stubCode (depth + 1) .applyUcodeRestore m).Returned (RestoresOriginal image m) ∧
      RestoresBehindCode image depth m) ↔
        originalUcode image m.memory = image.address .originalUcodeS ∧
          ∀ back, machineCodeReturn image depth m = .next back →
            originalUcode image back.memory = image.address .originalUcodeS :=
  and_congr (returned_restoresOriginal_iff himage hplaced depth)
    (restoresBehindCode_iff himage depth)

/-- The constants, the variable at 0x2000, and the original microcode at
0x8000. -/
def sampleRestore : Cpu :=
  { sampleCaller with
    memory := ((AddressSpace.store (fun _ => 0) 0x1000 0xC0010020).store 0x1008 0x2000).store
      0x2000 0x8000 }

theorem load_sampleRestore : sampleRestore.memory.load 0x1008 = 0x2000 := by
  have hvariable : AddressSpace.Apart 0x2000 0x1008 := by decide
  rw [sampleRestore, load_store_of_apart hvariable, load_store]

theorem originalUcode_sampleRestore : originalUcode sampleStubs sampleRestore.memory = 0x8000 := by
  have hconstant : sampleRestore.memory.load (sampleStubs.address .originalUcodeS) = 0x2000 :=
    load_sampleRestore
  rw [originalUcode, hconstant, sampleRestore, load_store]

theorem originalPlaced_sampleRestore : OriginalPlaced sampleStubs 0x6000 sampleRestore := by
  have hconstant : sampleRestore.memory.load (sampleStubs.address .originalUcodeS) = 0x2000 :=
    load_sampleRestore
  constructor
  case constant => exact ⟨disjoint_of_toNat_le (by decide) (by decide),
    disjoint_of_toNat_le (by decide) (by decide)⟩
  case constantApart => exact disjoint_of_toNat_le (by decide) (by decide)
  case original =>
    rw [hconstant]
    exact ⟨disjoint_of_toNat_le (by decide) (by decide),
      disjoint_of_toNat_le (by decide) (by decide)⟩
  case originalApart =>
    rw [hconstant]
    exact disjoint_of_toNat_le (by decide) (by decide)

theorem restoresOriginal_iff_sample :
    ((exec sampleStubs stubCode 2 .applyUcodeRestore sampleRestore).Returned
        (RestoresOriginal sampleStubs sampleRestore) ∧
      RestoresBehindCode sampleStubs 1 sampleRestore) ↔
        originalUcode sampleStubs sampleRestore.memory = sampleStubs.address .originalUcodeS ∧
          ∀ back, machineCodeReturn sampleStubs 1 sampleRestore = .next back →
            originalUcode sampleStubs back.memory = sampleStubs.address .originalUcodeS :=
  restoresOriginal_iff (handlesGpf_sampleStubs 0x6000) originalPlaced_sampleRestore 1

/-- 0x1008 is written for 0x8000. -/
theorem not_restoresOriginal_sampleRestore :
    ¬∀ (image : Image StubLabel) (info : UInt64) (m : Cpu), HandlesGpf image info →
      OriginalPlaced image info m →
        (exec image stubCode 2 .applyUcodeRestore m).Returned (RestoresOriginal image m) ∧
          RestoresBehindCode image 1 m := by
  intro hall
  have himage := handlesGpf_sampleStubs 0x6000
  have hrestores := (hall _ _ _ himage originalPlaced_sampleRestore).1
  have hsame := (returned_restoresOriginal_iff himage originalPlaced_sampleRestore 1).mp hrestores
  rw [originalUcode_sampleRestore] at hsame
  exact absurd hsame (by decide)

end AngryUefi.System
