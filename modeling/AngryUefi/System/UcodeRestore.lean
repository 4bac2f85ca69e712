import AngryUefi.System.FaultDelivery
import AngryUefi.System.UcodeStubs

/-!
# Restoring the microcode

`apply_ucode_restore` loads the microcode under test and then the original one,
with the same macro and the same scratch registers.  What it returns, and which
microcode it restores.
-/

namespace AngryUefi.System

open AngryUefi.X86 AngryUefi.X86.Instruction AngryUefi.AddressSpace

variable {image : Image StubLabel} {m : Cpu} {info rsp base offset : UInt64} {length : ℕ}
variable {before after : AddressSpace}

/-- A range that handlers of faults do not write to. -/
structure Sheltered (info rsp base : UInt64) (length : ℕ) : Prop where
  stack : Disjoint base length (rsp - 96) 96
  record : Disjoint base length info 216

theorem KeptOutside.byte (hkept : KeptOutside info rsp before after)
    (hsheltered : Sheltered info rsp base length) (hoffset : offset.toNat < length) :
    after (base + offset) = before (base + offset) :=
  hkept _ (hsheltered.stack.outside hoffset) (hsheltered.record.outside hoffset)

theorem KeptOutside.load (hkept : KeptOutside info rsp before after)
    (hsheltered : Sheltered info rsp base length) (hoffset : offset.toNat + 8 ≤ length)
    (hlength : length ≤ 2 ^ 64) : after.load (base + offset) = before.load (base + offset) := by
  apply load_congr
  intro index hindex
  rw [add_assoc]
  apply hkept.byte hsheltered
  rw [UInt64.toNat_add, UInt64.toNat_ofNat', Nat.mod_eq_of_lt (a := index) (by omega)]
  omega

theorem KeptOutside.load_base (hkept : KeptOutside info rsp before after)
    (hsheltered : Sheltered info rsp base length) (hroom : 8 ≤ length)
    (hlength : length ≤ 2 ^ 64) : after.load base = before.load base := by
  have hoffset : (0 : UInt64).toNat + 8 ≤ length := by simpa using hroom
  have hload := hkept.load hsheltered hoffset hlength
  rwa [UInt64.add_zero] at hload

theorem KeptOutside.loadLong (hkept : KeptOutside info rsp before after)
    (hsheltered : Sheltered info rsp base 4) : after.loadLong base = before.loadLong base := by
  apply loadLong_congr
  intro index hindex
  apply hkept.byte hsheltered
  rw [UInt64.toNat_ofNat', Nat.mod_eq_of_lt (by omega)]
  exact hindex

/-! ## What is returned -/

/-- The time that the write of the microcode in RDI takes, and RAX after it. -/
structure ReportsWrite (image : Image StubLabel) (m final : Cpu) : Prop where
  rax : final.reg .rax = elapsed image m
  result : final.memory.load (m.reg .rsi) = loaderResult image m

/-- The events up to the second reading. -/
def appliedEvents (image : Image StubLabel) (m : Cpu) : List X86.Event :=
  writeEvents image m ++ [.rdtscp (image.timeStamp (writeEvents image m))]

/-- The write that restores the microcode faults. -/
def restoreFaults (image : Image StubLabel) (m : Cpu) : Bool :=
  let events := appliedEvents image m
  image.faults (events ++ [.rdtscp (image.timeStamp events)]) (loaderNumber image m)
    (image.address .originalUcodeS)

/-- RAX after the write that restores the microcode. -/
def restoreResult (image : Image StubLabel) (m : Cpu) : UInt64 :=
  if restoreFaults image m then 0xDEAD else image.address .originalUcodeS &&& 0xFFFFFFFF

/-- `apply_ucode_restore` between its two expansions of the macro. -/
def storeResult : StubCode :=
  [.store .r9 0 .rsi, .mov .rax .r9, .leaRip .originalUcodeS .rdi]

/-- The machine before the second expansion. -/
structure ResultStored (image : Image StubLabel) (info : UInt64) (m stored : Cpu) : Prop where
  events : stored.events = appliedEvents image m
  rdi : stored.reg .rdi = image.address .originalUcodeS
  r9 : stored.reg .r9 = elapsed image m
  rsi : stored.reg .rsi = m.reg .rsi
  rsp : stored.reg .rsp = m.reg .rsp
  memory : ∃ applied, KeptOutside info (m.reg .rsp) m.memory applied ∧
    stored.memory = applied.store (m.reg .rsi) (loaderResult image m)

theorem resultStored_storeResult {applied : Cpu} (happlied : UcodeApplied image info m applied) :
    ResultStored image info m (runBlock image storeResult applied) := by
  have hrsi : applied.reg .rsi = m.reg .rsi := happlied.reg .rsi (by decide)
  have hrsp : applied.reg .rsp = m.reg .rsp := happlied.reg .rsp (by decide)
  have hrun : runBlock image storeResult applied =
      { (((applied.store (m.reg .rsi) (loaderResult image m)).setReg .r9
          (elapsed image m)).setReg .rdi (image.address .originalUcodeS)) with
        rip := (runBlock image storeResult applied).rip } := by
    simp only [runBlock, storeResult, List.foldl_cons, List.foldl_nil, run, Cpu.setReg, Cpu.store,
      UInt64.add_zero, hrsi, happlied.r9, happlied.rax]
  rw [hrun]
  exact ⟨happlied.events, rfl, rfl, hrsi, hrsp, _, happlied.memory, rfl⟩

/-- `apply_ucode_simple` -/
theorem returned_applyUcodeSimple (himage : HandlesGpf image info) (depth : ℕ) (m : Cpu) :
    (exec image stubCode (depth + 1) .applyUcodeSimple m).Returned (ReportsWrite image m) := by
  obtain ⟨applied, happlied, hrun⟩ := execBlock_mApplyUcode (exec image stubCode depth) himage m
    [.store .r9 0 .rsi, .ret]
  have hexec : exec image stubCode (depth + 1) .applyUcodeSimple m =
      execBlock image (exec image stubCode depth) [.store .r9 0 .rsi, .ret] applied := hrun
  have hrsi : applied.reg .rsi = m.reg .rsi := happlied.reg .rsi (by decide)
  rw [hexec]
  constructor
  · exact happlied.rax
  · change ((applied.memory.store (applied.reg .rsi + 0) (applied.reg .r9)).load (m.reg .rsi)) = _
    rw [hrsi, UInt64.add_zero, load_store, happlied.r9]

/-- What both writes need of the memory: the result and the number of the
register stay where they are. -/
structure ResultPlaced (image : Image StubLabel) (info : UInt64) (m : Cpu) : Prop where
  result : Sheltered info (m.reg .rsp) (m.reg .rsi) 8
  number : Sheltered info (m.reg .rsp) (image.address .ucodePatchAddress) 4
  apart : Disjoint (image.address .ucodePatchAddress) 4 (m.reg .rsi) 8

theorem loaderNumber_stored (hplaced : ResultPlaced image info m) {stored : Cpu}
    (hstored : ResultStored image info m stored) :
    loaderNumber image stored = loaderNumber image m := by
  obtain ⟨applied, hkept, hmemory⟩ := hstored.memory
  rw [loaderNumber, loaderNumber, hmemory, ← hkept.loadLong hplaced.number]
  apply loadLong_congr
  intro index hindex
  apply store_of_le
  apply hplaced.apart.outside
  rw [UInt64.toNat_ofNat', Nat.mod_eq_of_lt (by omega)]
  exact hindex

/-- Two expansions of the macro in a row. -/
theorem exec_applyUcodeRestore (himage : HandlesGpf image info) (depth : ℕ) (m : Cpu) :
    ∃ stored restored, ResultStored image info m stored ∧
      UcodeApplied image info stored restored ∧
        exec image stubCode (depth + 1) .applyUcodeRestore m =
          execBlock image (exec image stubCode depth) [.mov .r9 .rax, .ret] restored := by
  obtain ⟨applied, happlied, hfirst⟩ := execBlock_mApplyUcode (exec image stubCode depth) himage m
    (storeResult ++ (mApplyUcode ++ [.mov .r9 .rax, .ret]))
  obtain ⟨restored, hrestored, hsecond⟩ := execBlock_mApplyUcode (exec image stubCode depth) himage
    (runBlock image storeResult applied) [.mov .r9 .rax, .ret]
  refine ⟨_, restored, resultStored_storeResult happlied, hrestored, ?_⟩
  rw [← hsecond, ← execBlock_straight rfl, ← hfirst]
  rfl

/-- The restoring write's RAX takes the place of the time. -/
theorem returned_applyUcodeRestore (himage : HandlesGpf image info) (depth : ℕ)
    (hplaced : ResultPlaced image info m) :
    (exec image stubCode (depth + 1) .applyUcodeRestore m).Returned fun final =>
      final.reg .rax = restoreResult image m ∧
        final.memory.load (m.reg .rsi) = loaderResult image m := by
  obtain ⟨stored, restored, hstored, hrestored, hexec⟩ := exec_applyUcodeRestore himage depth m
  rw [hexec]
  constructor
  · change restored.reg .r9 = restoreResult image m
    have hfaults : writeFaults image stored = restoreFaults image m := by
      rw [writeFaults, startEvents, loaderNumber_stored hplaced hstored, hstored.rdi,
        hstored.events]
      rfl
    rw [hrestored.r9, loaderResult, hfaults, hstored.rdi, restoreResult]
  · change restored.memory.load (m.reg .rsi) = loaderResult image m
    obtain ⟨memory, -, hmemory⟩ := hstored.memory
    have hkept := hrestored.memory
    rw [hstored.rsp] at hkept
    rw [hkept.load_base hplaced.result (by decide) (by decide), hmemory, load_store]

/-- R9 holds the time over the second expansion, which overwrites it: the
caller gets the time only where RAX after the restoring write is the same
number. -/
theorem reportsWrite_iff (himage : HandlesGpf image info) (depth : ℕ)
    (hplaced : ResultPlaced image info m) :
    ((exec image stubCode (depth + 1) .applyUcodeSimple m).Returned (ReportsWrite image m) ∧
      (exec image stubCode (depth + 1) .applyUcodeRestore m).Returned (ReportsWrite image m)) ↔
        image.timeStamp (writeEvents image m) - image.timeStamp m.events =
          if restoreFaults image m then 0xDEAD
          else image.address .originalUcodeS &&& 0xFFFFFFFF := by
  rw [and_iff_right (returned_applyUcodeSimple himage depth m)]
  refine (returned_applyUcodeRestore himage depth hplaced).returned_iff fun final hfinal => ?_
  obtain ⟨hrax, hresult⟩ := hfinal
  constructor
  · intro hreports
    exact hreports.rax.symm.trans hrax
  · intro htime
    exact ⟨hrax.trans htime.symm, hresult⟩

/-- The constants at 0x1000, a counter that counts the events in hundreds, and
machine code that returns at once. -/
def sampleStubs : Image StubLabel where
  address
    | .ucodePatchAddress => 0x1000
    | .originalUcodeS => 0x1008
    | _ => 0x1100
  length
    | .wrmsr => 2
    | _ => 4
  flags := fun _ rflags _ _ => rflags
  timeStamp := fun events => 100 * UInt64.ofNat events.length
  auxiliary := fun _ => 0
  faults := fun _ _ _ => false
  handled := fun m => { m.setReg .rax 0xDEAD with rip := m.rip + 2 }
  foreign := fun _ called =>
    .returned { called.setReg .rsp (called.reg .rsp + 8) with rip := called.top }

/-- The microcode under test at 0x7000, the result at 0x3000, and RSP at
0x5000. -/
def sampleCaller : Cpu :=
  { sampleMachine with
    reg := fun
      | .rdi => 0x7000
      | .rsi => 0x3000
      | .rsp => 0x5000
      | _ => 0
    memory := fun _ => 0 }

theorem handlesGpf_sampleStubs (info : UInt64) : HandlesGpf sampleStubs info := by
  refine ⟨rfl, fun m => ⟨rfl, rfl, fun r hrax _ => Function.update_of_ne hrax _ _, ?_⟩⟩
  intro address _ _
  rfl

theorem resultPlaced_sampleCaller : ResultPlaced sampleStubs 0x6000 sampleCaller where
  result := ⟨disjoint_of_toNat_le (by decide) (by decide),
    disjoint_of_toNat_le (by decide) (by decide)⟩
  number := ⟨disjoint_of_toNat_le (by decide) (by decide),
    disjoint_of_toNat_le (by decide) (by decide)⟩
  apart := disjoint_of_toNat_le (by decide) (by decide)

theorem reportsWrite_iff_sample :
    ((exec sampleStubs stubCode 1 .applyUcodeSimple sampleCaller).Returned
        (ReportsWrite sampleStubs sampleCaller) ∧
      (exec sampleStubs stubCode 1 .applyUcodeRestore sampleCaller).Returned
        (ReportsWrite sampleStubs sampleCaller)) ↔
        sampleStubs.timeStamp (writeEvents sampleStubs sampleCaller) -
            sampleStubs.timeStamp sampleCaller.events =
          if restoreFaults sampleStubs sampleCaller then 0xDEAD
          else sampleStubs.address .originalUcodeS &&& 0xFFFFFFFF :=
  reportsWrite_iff (handlesGpf_sampleStubs 0x6000) 0 resultPlaced_sampleCaller

/-- 200 cycles, and the caller gets the address of a constant. -/
theorem not_reportsWrite_sampleCaller :
    ¬∀ (image : Image StubLabel) (info : UInt64) (m : Cpu), HandlesGpf image info →
      ResultPlaced image info m →
        (exec image stubCode 1 .applyUcodeSimple m).Returned (ReportsWrite image m) ∧
          (exec image stubCode 1 .applyUcodeRestore m).Returned (ReportsWrite image m) := by
  intro hall
  have himage := handlesGpf_sampleStubs 0x6000
  have hreports := (hall sampleStubs 0x6000 sampleCaller himage resultPlaced_sampleCaller).2
  have hreturned := returned_applyUcodeRestore himage 0 resultPlaced_sampleCaller
  revert hreports
  refine (iff_false_right not_false).mp (hreturned.returned_iff fun final hfinal => ?_)
  refine iff_of_false (fun hreports => ?_) not_false
  have htime : elapsed sampleStubs sampleCaller = 200 := rfl
  have hrestore : restoreResult sampleStubs sampleCaller = 0x1008 := rfl
  have hrax := hreports.rax.symm.trans hfinal.1
  rw [htime, hrestore] at hrax
  exact absurd hrax (by decide)

end AngryUefi.System
