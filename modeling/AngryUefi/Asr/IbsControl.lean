import AngryUefi.Asr.IbsRegisters

/-!
# The control register of instruction based sampling

Sampling is programmed by reading the control register, changing some of its
fields and writing it back.  A register reads as what was written to it last.
-/

namespace AngryUefi.Asr

open AngryUefi.BitFields

/-- The model specific registers, and the writes to them so far. -/
structure MsrFile where
  values : UInt32 → UInt64
  writes : List (UInt32 × UInt64)

/-- `val.bits.<field>` -/
def bits (place : Field) (val : UInt64) : ℕ := place.read val.toBitVec

/-- `val.bits.<field> = value` -/
def withBits (place : Field) (value : ℕ) (val : UInt64) : UInt64 :=
  ⟨place.assign value val.toBitVec⟩

/-! ## Source -/

def readMsrStub (msr : UInt32) (s : MsrFile) : UInt64 := s.values msr

def writeMsrStub (msr : UInt32) (value : UInt64) (s : MsrFile) : MsrFile :=
  ⟨Function.update s.values msr value, s.writes ++ [(msr, value)]⟩

def startIbs (s : MsrFile) : MsrFile :=
  let val := readMsrStub ibsExecutionControl s
  let val := withBits OpCtl.ibsOpEn 1 val
  let val := withBits OpCtl.ibsOpCntCtl 1 val
  writeMsrStub ibsExecutionControl val s

def setIbsOffset (ibsOffset : UInt64) (s : MsrFile) : MsrFile :=
  let val := readMsrStub ibsExecutionControl s
  let maxCount := (1 : UInt64) <<< 20
  let maxCount := maxCount >>> 4
  let currentCount := ((1 : UInt64) <<< 20) - ibsOffset
  let val := withBits OpCtl.ibsOpCurCnt currentCount.toNat val
  let val := withBits OpCtl.ibsOpMaxCntLow (maxCount &&& 0xFFFF).toNat val
  let val := withBits OpCtl.ibsOpMaxCntHigh ((maxCount >>> 16) &&& 0x7f).toNat val
  writeMsrStub ibsExecutionControl val s

def startWithIbsOffset (ibsOffset : UInt64) (s : MsrFile) : MsrFile :=
  startIbs (setIbsOffset ibsOffset s)

def clearIbs (s : MsrFile) : MsrFile :=
  let val := readMsrStub ibsExecutionControl s
  let val := withBits OpCtl.ibsOpEn 0 val
  let s := writeMsrStub ibsExecutionControl val s
  let val := readMsrStub ibsExecutionControl s
  let val := withBits OpCtl.ibsOpCntCtl 1 val
  let val := withBits OpCtl.ibsOpVal 0 val
  let s := writeMsrStub ibsExecutionControl val s
  let s := writeMsrStub ibsMsrDcPhysicalAddress 0x0 s
  writeMsrStub ibsMsrDcLinearAddress 0x0 s

def clearStartWithIbsOffset (ibsOffset : UInt64) (s : MsrFile) : MsrFile :=
  startIbs (setIbsOffset ibsOffset (clearIbs s))

/-! ## Fields -/

variable {left right : Field} {val : UInt64}

theorem bits_withBits (hwithin : left.Within 64) (value : ℕ) :
    bits left (withBits left value val) = value % 2 ^ left.width :=
  Field.read_assign hwithin value _

theorem bits_withBits_of_apart (hapart : left.Apart right) (value : ℕ) :
    bits left (withBits right value val) = bits left val :=
  Field.read_assign_of_apart hapart value _

theorem withBits_eq_self {value : ℕ} (hbits : bits left val = value) :
    withBits left value val = val :=
  UInt64.eq_of_toBitVec_eq (Field.assign_eq_self hbits)

/-! ## What a write leaves -/

variable {s : MsrFile} {offset : UInt64}

/-- The values that `clear_ibs` writes to the control register. -/
def disabledControl (val : UInt64) : UInt64 := withBits OpCtl.ibsOpEn 0 val

def clearedControl (val : UInt64) : UInt64 :=
  withBits OpCtl.ibsOpVal 0 (withBits OpCtl.ibsOpCntCtl 1 (disabledControl val))

/-- The value that `set_ibs_offset` writes to it. -/
def offsetControl (offset val : UInt64) : UInt64 :=
  withBits OpCtl.ibsOpMaxCntHigh 1 (withBits OpCtl.ibsOpMaxCntLow 0
    (withBits OpCtl.ibsOpCurCnt (((1 : UInt64) <<< 20) - offset).toNat val))

/-- The value that `start_ibs` writes to it. -/
def startedControl (val : UInt64) : UInt64 :=
  withBits OpCtl.ibsOpCntCtl 1 (withBits OpCtl.ibsOpEn 1 val)

theorem startIbs_eq :
    startIbs s =
      writeMsrStub ibsExecutionControl (startedControl (s.values ibsExecutionControl)) s :=
  rfl

theorem setIbsOffset_eq :
    setIbsOffset offset s =
      writeMsrStub ibsExecutionControl (offsetControl offset (s.values ibsExecutionControl)) s :=
  rfl

theorem clearIbs_control :
    (clearIbs s).values ibsExecutionControl = clearedControl (s.values ibsExecutionControl) := by
  simp [clearIbs, writeMsrStub, readMsrStub, clearedControl, disabledControl,
    ibsExecutionControl, ibsMsrDcPhysicalAddress, ibsMsrDcLinearAddress]

theorem clearIbs_writes : (clearIbs s).writes = s.writes ++
    [(ibsExecutionControl, disabledControl (s.values ibsExecutionControl)),
      (ibsExecutionControl, clearedControl (s.values ibsExecutionControl)),
      (ibsMsrDcPhysicalAddress, 0), (ibsMsrDcLinearAddress, 0)] := by
  simp [clearIbs, writeMsrStub, readMsrStub, clearedControl, disabledControl]

/-- The value that is left in the control register. -/
def programmedControl (offset val : UInt64) : UInt64 :=
  startedControl (offsetControl offset (clearedControl val))

theorem clearStartWithIbsOffset_control :
    (clearStartWithIbsOffset offset s).values ibsExecutionControl =
      programmedControl offset (s.values ibsExecutionControl) := by
  rw [clearStartWithIbsOffset, startIbs_eq, setIbsOffset_eq, clearIbs_control]
  simp only [writeMsrStub, Function.update_self]
  rfl

/-- The writes before the last one. -/
def preparingWrites (offset val : UInt64) : List (UInt32 × UInt64) :=
  [(ibsExecutionControl, disabledControl val), (ibsExecutionControl, clearedControl val),
    (ibsMsrDcPhysicalAddress, 0), (ibsMsrDcLinearAddress, 0),
    (ibsExecutionControl, offsetControl offset (clearedControl val))]

theorem clearStartWithIbsOffset_writes :
    (clearStartWithIbsOffset offset s).writes =
      s.writes ++ preparingWrites offset (s.values ibsExecutionControl) ++
        [(ibsExecutionControl, programmedControl offset (s.values ibsExecutionControl))] := by
  rw [clearStartWithIbsOffset, startIbs_eq, setIbsOffset_eq, clearIbs_control]
  simp only [writeMsrStub, Function.update_self, clearIbs_writes, preparingWrites,
    programmedControl, List.append_assoc, List.cons_append, List.nil_append]

/-! ## Programming an offset -/

/-- Sampling is on, counts operations, and is to happen at the offset. -/
structure Programmed (offset : UInt64) (before after : MsrFile) : Prop where
  enabled : bits OpCtl.ibsOpEn (after.values ibsExecutionControl) = 1
  countsOps : bits OpCtl.ibsOpCntCtl (after.values ibsExecutionControl) = 1
  invalid : bits OpCtl.ibsOpVal (after.values ibsExecutionControl) = 0
  maximum : 16 * (bits OpCtl.ibsOpMaxCntHigh (after.values ibsExecutionControl) * 2 ^ 16 +
    bits OpCtl.ibsOpMaxCntLow (after.values ibsExecutionControl)) = 2 ^ 20
  current : ((2 ^ 20 : ℤ) - bits OpCtl.ibsOpCurCnt (after.values ibsExecutionControl)) % 2 ^ 27 =
    (offset.toNat : ℤ) % 2 ^ 27
  reserved : ∀ place ∈ [OpCtl.reserved0, OpCtl.reserved1, OpCtl.reserved2],
    bits place (after.values ibsExecutionControl) =
      bits place (before.values ibsExecutionControl)

/-- Only the last write switches sampling on. -/
def EnabledLast (before after : MsrFile) : Prop :=
  ∃ earlier, after.writes = before.writes ++ earlier ++
      [(ibsExecutionControl, after.values ibsExecutionControl)] ∧
    ∀ write ∈ earlier, write.1 = ibsExecutionControl → bits OpCtl.ibsOpEn write.2 = 0

theorem enabledLast_clearStartWithIbsOffset :
    EnabledLast s (clearStartWithIbsOffset offset s) := by
  refine ⟨preparingWrites offset (s.values ibsExecutionControl), ?_, ?_⟩
  · rw [clearStartWithIbsOffset_writes, clearStartWithIbsOffset_control]
  · simp only [preparingWrites, List.forall_mem_cons]
    simp (disch := decide) only [offsetControl, clearedControl, disabledControl, bits_withBits,
      bits_withBits_of_apart, Nat.zero_mod, implies_true, true_and, List.not_mem_nil,
      IsEmpty.forall_iff, and_true]
    exact ⟨fun hsame => absurd hsame (by decide), fun hsame => absurd hsame (by decide)⟩

theorem currentCount_toNat (offset : UInt64) :
    ((2 ^ 20 : ℤ) - ((((1 : UInt64) <<< 20) - offset).toNat % 2 ^ 27 : ℕ)) % 2 ^ 27 =
      (offset.toNat : ℤ) % 2 ^ 27 := by
  have hone : ((1 : UInt64) <<< 20).toNat = 2 ^ 20 := rfl
  have hoffset := offset.toNat_lt
  rw [UInt64.toNat_sub, hone]
  omega

theorem programmed_clearStartWithIbsOffset :
    Programmed offset s (clearStartWithIbsOffset offset s) := by
  constructor
  all_goals rw [clearStartWithIbsOffset_control]
  case reserved =>
    simp only [List.forall_mem_cons]
    simp (disch := decide) only [programmedControl, startedControl, offsetControl,
      clearedControl, disabledControl, bits_withBits_of_apart, List.not_mem_nil,
      IsEmpty.forall_iff, implies_true, and_self]
  all_goals
    simp (disch := decide) only [programmedControl, startedControl, offsetControl,
      clearedControl, disabledControl, bits_withBits, bits_withBits_of_apart]
  case enabled => rfl
  case countsOps => rfl
  case invalid => rfl
  case maximum => rfl
  case current => exact currentCount_toNat offset

/-- Whatever was in the control register, sampling is programmed for the offset
in the end, and the two ways to do so agree. -/
theorem ibsOffset_programmed (offset : UInt64) (s : MsrFile) :
    Programmed offset s (clearStartWithIbsOffset offset s) ∧
      EnabledLast s (clearStartWithIbsOffset offset s) ∧
      startWithIbsOffset offset (clearIbs s) = clearStartWithIbsOffset offset s :=
  ⟨programmed_clearStartWithIbsOffset, enabledLast_clearStartWithIbsOffset, rfl⟩

end AngryUefi.Asr
