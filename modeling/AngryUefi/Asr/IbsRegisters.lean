import AngryUefi.Cores.Context
import AngryUefi.Lib.BitFields

/-!
# The registers of instruction based sampling

The unions of `ibs.h`, each as its fields in the order of their declaration, up
to the last one that is used.
-/

namespace AngryUefi

open AngryUefi.BitFields

namespace Asr

/-! ## Registers -/

/-- `IBS_MSR_IBS_Execution_Control` -/
def ibsExecutionControl : UInt32 := 0xC0011033

def ibsMsrOpData : UInt32 := 0xC0011035

def ibsMsrOpData2 : UInt32 := 0xC0011036

def ibsMsrOpData3 : UInt32 := 0xC0011037

def ibsMsrDcLinearAddress : UInt32 := 0xC0011038

def ibsMsrDcPhysicalAddress : UInt32 := 0xC0011039

def ia32ApicBaseMsr : UInt32 := 0x1B

/-! ### `IBS_OP_CTL` -/

namespace OpCtl

def ibsOpMaxCntLow : Field := ⟨0, 16⟩
def reserved0 : Field := ibsOpMaxCntLow.next 1
def ibsOpEn : Field := reserved0.next 1
def ibsOpVal : Field := ibsOpEn.next 1
def ibsOpCntCtl : Field := ibsOpVal.next 1
def ibsOpMaxCntHigh : Field := ibsOpCntCtl.next 7
def reserved1 : Field := ibsOpMaxCntHigh.next 5
def ibsOpCurCnt : Field := reserved1.next 27
def reserved2 : Field := ibsOpCurCnt.next 5

/-- Every field, in order. -/
def all : List Field :=
  [ibsOpMaxCntLow, reserved0, ibsOpEn, ibsOpVal, ibsOpCntCtl, ibsOpMaxCntHigh, reserved1,
    ibsOpCurCnt, reserved2]

theorem all_within : ∀ field ∈ all, field.Within 64 := by
  decide

theorem pairwise_apart : all.Pairwise Field.Apart := by
  decide

end OpCtl

/-! ### `IBS_OP_DATA_REGISTER` -/

namespace OpData

def reserved1 : Field := ⟨0, 23⟩
def ibsOpMicrocode : Field := reserved1.next 1

end OpData

/-! ### `IBS_OP_DATA2_REGISTER` -/

namespace OpData2

def reserved1 : Field := ⟨0, 58⟩
def cacheHitSt : Field := reserved1.next 1
def rmtNode : Field := cacheHitSt.next 1
def reserved2 : Field := rmtNode.next 1
def dataSrc : Field := reserved2.next 3

end OpData2

/-! ### `IBS_OP_DATA3_REGISTER` -/

namespace OpData3

def ibsLdOp : Field := ⟨0, 1⟩
def ibsStOp : Field := ibsLdOp.next 1
def ibsDcL1tlbMiss : Field := ibsStOp.next 1
def ibsDcL2TlbMiss : Field := ibsDcL1tlbMiss.next 1
def ibsDcL1TlbHit2M : Field := ibsDcL2TlbMiss.next 1
def ibsDcL1TlbHit1G : Field := ibsDcL1TlbHit2M.next 1
def ibsDcL2tlbHit2M : Field := ibsDcL1TlbHit1G.next 1
def ibsDcMiss : Field := ibsDcL2tlbHit2M.next 1
def ibsDcMisAcc : Field := ibsDcMiss.next 1
def reserved0 : Field := ibsDcMisAcc.next 4
def ibsDcWcMemAcc : Field := reserved0.next 1
def ibsDcUcMemAcc : Field := ibsDcWcMemAcc.next 1
def ibsDcLockedOp : Field := ibsDcUcMemAcc.next 1
def dcMissNoMabAlloc : Field := ibsDcLockedOp.next 1
def ibsDcLinAddrValid : Field := dcMissNoMabAlloc.next 1
def ibsDcPhyAddrValid : Field := ibsDcLinAddrValid.next 1
def ibsDcL2TlbHit1G : Field := ibsDcPhyAddrValid.next 1
def ibsL2Miss : Field := ibsDcL2TlbHit1G.next 1
def ibsSwPf : Field := ibsL2Miss.next 1
def ibsOpMemWidth : Field := ibsSwPf.next 4

end OpData3

/-! ### `LVTEntry` -/

namespace LvtEntry

def vector : Field := ⟨0, 8⟩
def msgType : Field := vector.next 3
def reserved1 : Field := msgType.next 1
def ds : Field := reserved1.next 1
def reserved2 : Field := ds.next 3
def mask : Field := reserved2.next 1

end LvtEntry

/-! ### `IBSEvent.q1.fields` -/

namespace EventFields

def phys : Field := ⟨0, 36⟩
def microcode : Field := phys.next 1
def dataSource : Field := microcode.next 3
def size : Field := dataSource.next 4
def prefetch : Field := size.next 1
def physValid : Field := prefetch.next 1
def linearValid : Field := physValid.next 1
def uncachable : Field := linearValid.next 1
def store : Field := uncachable.next 1
def load : Field := store.next 1
def valid : Field := load.next 1
def reserved : Field := valid.next 13

/-- Every field, in order. -/
def all : List Field :=
  [phys, microcode, dataSource, size, prefetch, physValid, linearValid, uncachable, store, load,
    valid, reserved]

/-- The fields that are declared as `UINT8`. -/
def bytes : List Field :=
  [microcode, dataSource, size, prefetch, physValid, linearValid, uncachable, store, load, valid]

/-- No field crosses a unit of its declared type, so that there is no padding. -/
theorem unpadded : (∀ field ∈ bytes, field.offset / 8 = (field.offset + field.width - 1) / 8) ∧
    48 ≤ reserved.offset ∧ reserved.offset + reserved.width = 64 := by
  decide

theorem pairwise_apart : all.Pairwise Field.Apart := by
  decide

theorem all_within : ∀ field ∈ all, field.Within 64 := by
  decide

end EventFields

end Asr

namespace IBSEvent

/-- `event->q1.fields.<field>` -/
def field (event : IBSEvent) (place : Field) : ℕ := place.read event.q1.toBitVec

/-- `event->q1.fields.<field> = value` -/
def setField (place : Field) (value : ℕ) (event : IBSEvent) : IBSEvent :=
  { event with q1 := ⟨place.assign value event.q1.toBitVec⟩ }

variable {event : IBSEvent} {left right : Field}

theorem field_setField (hwithin : left.Within 64) (value : ℕ) :
    (event.setField left value).field left = value % 2 ^ left.width :=
  Field.read_assign hwithin value _

/-- A field of the same width fits. -/
theorem field_setField_read {source : Field} (hwithin : left.Within 64)
    (hwidth : source.width ≤ left.width) {size : ℕ} (register : BitVec size) :
    (event.setField left (source.read register)).field left = source.read register := by
  have hlt := lt_of_lt_of_le (source.read_lt register)
    (Nat.pow_le_pow_right Nat.two_pos hwidth)
  rw [field_setField hwithin, Nat.mod_eq_of_lt hlt]

theorem field_setField_of_apart (hapart : left.Apart right) (value : ℕ) :
    (event.setField right value).field left = event.field left :=
  Field.read_assign_of_apart hapart value _

end IBSEvent

end AngryUefi
