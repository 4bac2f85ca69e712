import AngryUefi.Asr.IbsControl
import AngryUefi.Asr.IbsEvents

/-!
# Instruction based sampling on a core

`init_ibs_on_core` runs when a core enters its main loop, at start-up and after
every fault that it recovers from.
-/

namespace AngryUefi.Asr

open AngryUefi.Bytes AngryUefi.BitFields

def ibsCpuidLeaf : UInt32 := 0x80000001

def amdVendorCheck : UInt32 := 0x444D4163

/-- What the routine reaches on its core.  The interrupt controller is in the
memory, and the places that were stored to are kept. -/
structure IbsCore where
  msrs : MsrFile
  memory : Memory
  stores : List ℕ
  control : IBSControl

/-! ## Source -/

def isIbsSupported (callCpuidEcx : UInt32 → UInt32) : Bool :=
  if callCpuidEcx 0 ≠ amdVendorCheck then false
  else callCpuidEcx ibsCpuidLeaf &&& ((1 : UInt32) <<< 10) ≠ 0

/-- The entry of the local vector table at an address. -/
def lvtEntry (address : ℕ) (s : IbsCore) : BitVec 32 := BitVec.ofNat 32 (s.memory.word 4 address)

/-- `ibs_reg->bits.<field> = value` -/
def storeLvtField (ibsReg : UInt64) (place : Field) (value : ℕ) (s : IbsCore) : IbsCore :=
  { s with
    memory := s.memory.writeWord 4 ibsReg.toNat
      (place.assign value (lvtEntry ibsReg.toNat s)).toNat
    stores := s.stores ++ [ibsReg.toNat] }

/-- The entry is set up, field after field. -/
def storeLvtEntry (ibsReg : UInt64) (s : IbsCore) : IbsCore :=
  let s := storeLvtField ibsReg LvtEntry.vector 0x2 s
  let s := storeLvtField ibsReg LvtEntry.msgType 0b100 s
  storeLvtField ibsReg LvtEntry.mask 1 s

def initIbsOnCore (callCpuidEcx : UInt32 → UInt32) (s : IbsCore) : IbsCore :=
  if isIbsSupported callCpuidEcx then
    let val := readMsrStub ibsExecutionControl s.msrs
    let val := withBits OpCtl.ibsOpEn 0 val
    let val := withBits OpCtl.ibsOpCntCtl 1 val
    let s := { s with msrs := writeMsrStub ibsExecutionControl val s.msrs }
    let apicBase := readMsrStub ia32ApicBaseMsr s.msrs
    let s := storeLvtEntry (apicBase + 0x500) s
    { s with control := { s.control with ibsFilter := ibsFilterAll } }
  else s

/-! ## The task -/

/-- Where the entry is: in the page that the register names above its flags. -/
def lvtAddress (apicBase : UInt64) : ℕ := apicBase.toNat / 2 ^ 12 * 2 ^ 12 + 0x500

structure Initialised (before after : IbsCore) : Prop where
  disabled : bits OpCtl.ibsOpEn (after.msrs.values ibsExecutionControl) = 0
  countsOps : bits OpCtl.ibsOpCntCtl (after.msrs.values ibsExecutionControl) = 1
  otherBits : ∀ bit, ¬ OpCtl.ibsOpEn.Contains bit → ¬ OpCtl.ibsOpCntCtl.Contains bit →
    (after.msrs.values ibsExecutionControl).toBitVec.getLsbD bit =
      (before.msrs.values ibsExecutionControl).toBitVec.getLsbD bit
  otherMsrs : ∀ msr, msr ≠ ibsExecutionControl → after.msrs.values msr = before.msrs.values msr
  stores : ∃ added, added ≠ [] ∧ after.stores = before.stores ++ added ∧
    ∀ store ∈ added, store = lvtAddress (before.msrs.values ia32ApicBaseMsr)
  entry : LvtEntry.vector.read
        (lvtEntry (lvtAddress (before.msrs.values ia32ApicBaseMsr)) after) = 2 ∧
      LvtEntry.msgType.read
        (lvtEntry (lvtAddress (before.msrs.values ia32ApicBaseMsr)) after) = 0b100 ∧
      LvtEntry.mask.read (lvtEntry (lvtAddress (before.msrs.values ia32ApicBaseMsr)) after) = 1
  otherEntryBits : ∀ bit, ¬ LvtEntry.vector.Contains bit → ¬ LvtEntry.msgType.Contains bit →
    ¬ LvtEntry.mask.Contains bit →
    (lvtEntry (lvtAddress (before.msrs.values ia32ApicBaseMsr)) after).getLsbD bit =
      (lvtEntry (lvtAddress (before.msrs.values ia32ApicBaseMsr)) before).getLsbD bit
  otherMemory : ∀ address, address < lvtAddress (before.msrs.values ia32ApicBaseMsr) ∨
      lvtAddress (before.msrs.values ia32ApicBaseMsr) + 4 ≤ address →
    after.memory address = before.memory address
  filter : after.control.ibsFilter = ibsFilterAll
  events : after.control.eventBuffer = before.control.eventBuffer ∧
    after.control.currentPosition = before.control.currentPosition

/-- The same state, however often it was stored. -/
structure SameState (left right : IbsCore) : Prop where
  values : right.msrs.values = left.msrs.values
  memory : right.memory = left.memory
  control : right.control = left.control

/-- The core is initialised, and further runs leave it as it is. -/
def InitialisesIbs (callCpuidEcx : UInt32 → UInt32) (s : IbsCore) : Prop :=
  Initialised s (initIbsOnCore callCpuidEcx s) ∧
    ∀ count, SameState (initIbsOnCore callCpuidEcx s)
      ((initIbsOnCore callCpuidEcx)^[count] (initIbsOnCore callCpuidEcx s))

variable {callCpuidEcx : UInt32 → UInt32} {s : IbsCore} {ibsReg : UInt64} {place : Field}

/-! ## The entry -/

theorem toNat_lvtEntry (address : ℕ) (s : IbsCore) :
    (lvtEntry address s).toNat = s.memory.word 4 address := by
  have hlt := ofLittleEndian_lt (s.memory.read address 4)
  rw [Memory.length_read] at hlt
  rw [lvtEntry, BitVec.toNat_ofNat]
  exact Nat.mod_eq_of_lt hlt

theorem lvtEntry_storeLvtField (value : ℕ) :
    lvtEntry ibsReg.toNat (storeLvtField ibsReg place value s) =
      place.assign value (lvtEntry ibsReg.toNat s) := by
  have hlt := (place.assign value (lvtEntry ibsReg.toNat s)).isLt
  apply BitVec.eq_of_toNat_eq
  rw [toNat_lvtEntry, storeLvtField]
  dsimp only
  rw [Memory.writeWord, Memory.word_write]
  exact Nat.mod_eq_of_lt hlt

theorem storeLvtField_frame (value : ℕ) {address : ℕ}
    (hout : address < ibsReg.toNat ∨ ibsReg.toNat + 4 ≤ address) :
    (storeLvtField ibsReg place value s).memory address = s.memory address := by
  rcases hout with hbelow | habove
  · exact s.memory.write_of_lt _ hbelow
  · exact s.memory.write_of_le (by rw [length_littleEndian]; exact habove)

/-- A field that has the value already. -/
theorem storeLvtField_memory {value : ℕ}
    (hread : place.read (lvtEntry ibsReg.toNat s) = value) :
    (storeLvtField ibsReg place value s).memory = s.memory := by
  rw [storeLvtField]
  dsimp only
  rw [Field.assign_eq_self hread, toNat_lvtEntry, Memory.writeWord_word]

theorem lvtEntry_storeLvtEntry : lvtEntry ibsReg.toNat (storeLvtEntry ibsReg s) =
    LvtEntry.mask.assign 1 (LvtEntry.msgType.assign 0b100
      (LvtEntry.vector.assign 0x2 (lvtEntry ibsReg.toNat s))) := by
  rw [storeLvtEntry, lvtEntry_storeLvtField, lvtEntry_storeLvtField, lvtEntry_storeLvtField]

/-- The entry delivers to the NMI handler and is masked. -/
structure Masked (entry : BitVec 32) : Prop where
  vector : LvtEntry.vector.read entry = 2
  msgType : LvtEntry.msgType.read entry = 0b100
  mask : LvtEntry.mask.read entry = 1

theorem masked_storeLvtEntry : Masked (lvtEntry ibsReg.toNat (storeLvtEntry ibsReg s)) := by
  rw [lvtEntry_storeLvtEntry]
  constructor
  all_goals
    simp (disch := decide) only [Field.read_assign, Field.read_assign_of_apart]
    rfl

theorem storeLvtEntry_frame {address : ℕ}
    (hout : address < ibsReg.toNat ∨ ibsReg.toNat + 4 ≤ address) :
    (storeLvtEntry ibsReg s).memory address = s.memory address := by
  rw [storeLvtEntry, storeLvtField_frame _ hout, storeLvtField_frame _ hout,
    storeLvtField_frame _ hout]

theorem storeLvtEntry_stores : (storeLvtEntry ibsReg s).stores =
    s.stores ++ [ibsReg.toNat, ibsReg.toNat, ibsReg.toNat] := by
  simp [storeLvtEntry, storeLvtField]

/-- An entry that is set up already. -/
theorem storeLvtEntry_memory (hmasked : Masked (lvtEntry ibsReg.toNat s)) :
    (storeLvtEntry ibsReg s).memory = s.memory := by
  have hsame : ∀ {left right : IbsCore}, left.memory = right.memory →
      lvtEntry ibsReg.toNat left = lvtEntry ibsReg.toNat right := by
    intro left right hmemory
    rw [lvtEntry, lvtEntry, hmemory]
  have hvector := storeLvtField_memory hmasked.vector
  have hmsgType := storeLvtField_memory ((congrArg _ (hsame hvector)).trans hmasked.msgType)
  have hboth := hmsgType.trans hvector
  exact (storeLvtField_memory ((congrArg _ (hsame hboth)).trans hmasked.mask)).trans hboth

/-! ## One run -/

/-- The value that is written to the control register. -/
def idleControl (val : UInt64) : UInt64 :=
  withBits OpCtl.ibsOpCntCtl 1 (withBits OpCtl.ibsOpEn 0 val)

/-- The address that the entry is stored to. -/
def ibsRegister (s : IbsCore) : UInt64 := s.msrs.values ia32ApicBaseMsr + 0x500

/-- What a run leaves, and what it finds when it runs again. -/
structure Settled (s : IbsCore) : Prop where
  disabled : bits OpCtl.ibsOpEn (s.msrs.values ibsExecutionControl) = 0
  countsOps : bits OpCtl.ibsOpCntCtl (s.msrs.values ibsExecutionControl) = 1
  masked : Masked (lvtEntry (ibsRegister s).toNat s)
  filter : s.control.ibsFilter = ibsFilterAll

theorem idleControl_of_settled (hsettled : Settled s) :
    idleControl (s.msrs.values ibsExecutionControl) = s.msrs.values ibsExecutionControl := by
  have hdisabled := withBits_eq_self hsettled.disabled
  have hcountsOps := withBits_eq_self hsettled.countsOps
  rw [idleControl, hdisabled, hcountsOps]

section Supported

variable (hsupported : isIbsSupported callCpuidEcx = true)

include hsupported

theorem initIbsOnCore_eq : initIbsOnCore callCpuidEcx s =
    { msrs := writeMsrStub ibsExecutionControl
        (idleControl (s.msrs.values ibsExecutionControl)) s.msrs
      memory := (storeLvtEntry (ibsRegister s) s).memory
      stores := (storeLvtEntry (ibsRegister s) s).stores
      control := { s.control with ibsFilter := ibsFilterAll } } := by
  rw [initIbsOnCore, if_pos hsupported]
  rfl

theorem initIbsOnCore_control : (initIbsOnCore callCpuidEcx s).msrs.values ibsExecutionControl =
    idleControl (s.msrs.values ibsExecutionControl) := by
  rw [initIbsOnCore_eq hsupported, writeMsrStub]
  dsimp only
  rw [Function.update_self]

theorem initIbsOnCore_otherMsrs {msr : UInt32} (hmsr : msr ≠ ibsExecutionControl) :
    (initIbsOnCore callCpuidEcx s).msrs.values msr = s.msrs.values msr := by
  rw [initIbsOnCore_eq hsupported, writeMsrStub]
  dsimp only
  rw [Function.update_of_ne hmsr]

theorem ibsRegister_initIbsOnCore :
    ibsRegister (initIbsOnCore callCpuidEcx s) = ibsRegister s := by
  rw [ibsRegister, initIbsOnCore_otherMsrs hsupported (by decide), ibsRegister]

theorem lvtEntry_initIbsOnCore (address : ℕ) :
    lvtEntry address (initIbsOnCore callCpuidEcx s) =
      lvtEntry address (storeLvtEntry (ibsRegister s) s) := by
  rw [initIbsOnCore_eq hsupported, lvtEntry, lvtEntry]

theorem settled_initIbsOnCore : Settled (initIbsOnCore callCpuidEcx s) := by
  constructor
  · rw [initIbsOnCore_control hsupported, idleControl, bits_withBits_of_apart (by decide),
      bits_withBits (by decide), Nat.zero_mod]
  · rw [initIbsOnCore_control hsupported, idleControl, bits_withBits (by decide)]
    rfl
  · rw [ibsRegister_initIbsOnCore hsupported, lvtEntry_initIbsOnCore hsupported]
    exact masked_storeLvtEntry
  · rw [initIbsOnCore_eq hsupported]

/-! ## Further runs -/

theorem sameState_of_settled (hsettled : Settled s) :
    SameState s (initIbsOnCore callCpuidEcx s) := by
  rw [initIbsOnCore_eq hsupported]
  constructor
  · dsimp only [writeMsrStub]
    rw [idleControl_of_settled hsettled, Function.update_eq_self]
  · dsimp only
    rw [storeLvtEntry_memory hsettled.masked]
  · dsimp only
    rw [← hsettled.filter]

theorem sameState_iterate (count : ℕ) :
    Settled ((initIbsOnCore callCpuidEcx)^[count] (initIbsOnCore callCpuidEcx s)) ∧
      SameState (initIbsOnCore callCpuidEcx s)
        ((initIbsOnCore callCpuidEcx)^[count] (initIbsOnCore callCpuidEcx s)) := by
  induction count with
  | zero => exact ⟨settled_initIbsOnCore hsupported, rfl, rfl, rfl⟩
  | succ count ih =>
      rw [Function.iterate_succ_apply']
      obtain ⟨hsettled, hsame⟩ := ih
      have hnext := sameState_of_settled hsupported hsettled
      exact ⟨settled_initIbsOnCore hsupported, hnext.values.trans hsame.values,
        hnext.memory.trans hsame.memory, hnext.control.trans hsame.control⟩

/-! ## The right entry -/

omit hsupported in
/-- The address is the one of the entry when no flag is added to it. -/
theorem ibsRegister_eq_iff : (ibsRegister s).toNat = lvtAddress (s.msrs.values ia32ApicBaseMsr) ↔
    (s.msrs.values ia32ApicBaseMsr).toNat % 2 ^ 12 = 0 := by
  have hbase := (s.msrs.values ia32ApicBaseMsr).toNat_lt
  have hoffset : (0x500 : UInt64).toNat = 0x500 := rfl
  rw [ibsRegister, lvtAddress, UInt64.toNat_add, hoffset]
  omega

theorem initialised_initIbsOnCore
    (hflags : (s.msrs.values ia32ApicBaseMsr).toNat % 2 ^ 12 = 0) :
    Initialised s (initIbsOnCore callCpuidEcx s) := by
  have hsettled := settled_initIbsOnCore hsupported (s := s)
  have haddress := ibsRegister_eq_iff.mpr hflags
  have hmasked := hsettled.masked
  rw [ibsRegister_initIbsOnCore hsupported] at hmasked
  exact {
    disabled := hsettled.disabled
    countsOps := hsettled.countsOps
    otherBits := by
      intro bit hopEn hcntCtl
      rw [initIbsOnCore_control hsupported]
      exact (Field.getLsbD_assign_of_not_contains hcntCtl _).trans
        (Field.getLsbD_assign_of_not_contains hopEn _)
    otherMsrs := fun msr hmsr => initIbsOnCore_otherMsrs hsupported hmsr
    stores := by
      refine ⟨[(ibsRegister s).toNat, (ibsRegister s).toNat, (ibsRegister s).toNat],
        by simp, ?_, ?_⟩
      · rw [initIbsOnCore_eq hsupported]
        dsimp only
        rw [storeLvtEntry_stores]
      · simp [haddress]
    entry := by
      rw [← haddress]
      exact ⟨hmasked.vector, hmasked.msgType, hmasked.mask⟩
    otherEntryBits := by
      intro bit hvector hmsgType hmask
      rw [← haddress, lvtEntry_initIbsOnCore hsupported, lvtEntry_storeLvtEntry,
        Field.getLsbD_assign_of_not_contains hmask,
        Field.getLsbD_assign_of_not_contains hmsgType,
        Field.getLsbD_assign_of_not_contains hvector]
    otherMemory := by
      intro address hout
      rw [← haddress] at hout
      rw [initIbsOnCore_eq hsupported]
      dsimp only
      rw [storeLvtEntry_frame hout]
    filter := hsettled.filter
    events := by
      rw [initIbsOnCore_eq hsupported]
      exact ⟨rfl, rfl⟩ }

theorem flags_of_initialised (hinitialised : Initialised s (initIbsOnCore callCpuidEcx s)) :
    (s.msrs.values ia32ApicBaseMsr).toNat % 2 ^ 12 = 0 := by
  obtain ⟨added, -, hadded, hentry⟩ := hinitialised.stores
  rw [initIbsOnCore_eq hsupported] at hadded
  have hstores := List.append_cancel_left (storeLvtEntry_stores.symm.trans hadded)
  exact ibsRegister_eq_iff.mp (hentry _ (by rw [← hstores]; exact List.mem_cons_self))

/-- The routine adds the offset to the register as it is, flags included. -/
theorem initialisesIbs_iff : InitialisesIbs callCpuidEcx s ↔
    (s.msrs.values ia32ApicBaseMsr).toNat % 2 ^ 12 = 0 := by
  constructor
  · intro hinitialises
    exact flags_of_initialised hsupported hinitialises.1
  · intro hflags
    exact ⟨initialised_initIbsOnCore hsupported hflags,
      fun count => (sameState_iterate hsupported count).2⟩

end Supported

/-! ## Two cores -/

def amdCpuidEcx : UInt32 → UInt32 := fun leaf =>
  if leaf = 0 then amdVendorCheck else if leaf = ibsCpuidLeaf then 0x400 else 0

/-- A core after start-up, but for the value of one register. -/
def coreWithApicBase (apicBase : UInt64) : IbsCore where
  msrs := ⟨Function.update (fun _ => 0) ia32ApicBaseMsr apicBase, []⟩
  memory := fun _ => 0
  stores := []
  control := initIbsForContext

theorem initialisesIbs_iff_withoutFlags :
    InitialisesIbs amdCpuidEcx (coreWithApicBase 0xFEE00000) :=
  (initialisesIbs_iff (by decide)).mpr (by decide)

/-- The controller is enabled, and the core is the one that booted. -/
theorem not_initialisesIbs_bootCore : ¬ ∀ (callCpuidEcx : UInt32 → UInt32) (s : IbsCore),
    isIbsSupported callCpuidEcx = true → InitialisesIbs callCpuidEcx s := by
  intro hinitialises
  have hsupported : isIbsSupported amdCpuidEcx = true := by decide
  have hflags := flags_of_initialised hsupported
    (hinitialises amdCpuidEcx (coreWithApicBase 0xFEE00900) hsupported).1
  exact absurd hflags (by decide)

end AngryUefi.Asr
