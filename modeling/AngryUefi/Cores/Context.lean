import AngryUefi.Lib.Bytes

/-!
# The control structure of a core

One `CoreContext` per core is all that core 0 and that core share.  Core 0
writes a job into it, the core runs the job and writes the results back.  The
C structure's pointers are replaced by what they point to; the fields that
neither a handler nor the main loop reads (scratch space, ASR registry, IDT
descriptor, events) are not kept.
-/

namespace AngryUefi

open AngryUefi.Bytes

/-- What a fault handler leaves for core 0, in the order of the C fields. -/
structure CoreFaultInfo where
  faultOccured : UInt64
  faultNumber : UInt64
  errorCode : UInt64
  oldRip : UInt64
  raxValue : UInt64
  rbxValue : UInt64
  rcxValue : UInt64
  rdxValue : UInt64
  rsiValue : UInt64
  rdiValue : UInt64
  rspValue : UInt64
  rbpValue : UInt64
  r8Value : UInt64
  r9Value : UInt64
  r10Value : UInt64
  r11Value : UInt64
  r12Value : UInt64
  r13Value : UInt64
  r14Value : UInt64
  r15Value : UInt64
  rflagsValue : UInt64
  cr0Value : UInt64
  cr2Value : UInt64
  cr3Value : UInt64
  cr4Value : UInt64
  csValue : UInt64
  originalRsp : UInt64
  deriving DecidableEq

namespace CoreFaultInfo

/-- `AllocateZeroPool` at start-up and `ZeroMem` on job acceptance. -/
def zero : CoreFaultInfo :=
  ⟨0, 0, 0, 0, 0, 0, 0, 0, 0, 0, 0, 0, 0, 0, 0, 0, 0, 0, 0, 0, 0, 0, 0, 0, 0, 0, 0⟩

/-- The quadwords of the packed structure. -/
def words (info : CoreFaultInfo) : List UInt64 :=
  [info.faultOccured, info.faultNumber, info.errorCode, info.oldRip,
    info.raxValue, info.rbxValue, info.rcxValue, info.rdxValue, info.rsiValue,
    info.rdiValue, info.rspValue, info.rbpValue, info.r8Value, info.r9Value,
    info.r10Value, info.r11Value, info.r12Value, info.r13Value, info.r14Value,
    info.r15Value, info.rflagsValue, info.cr0Value, info.cr2Value,
    info.cr3Value, info.cr4Value, info.csValue, info.originalRsp]

end CoreFaultInfo

/-- The functions core 0 puts into `core_functions`. -/
inductive CoreFunction
  | prepareUcodeUpdate
  | applyUcodeExecuteMachineCodeSimple
  | applyUcodeExecuteMachineCodeRestore
  | executeMachineCode
  | readMsr
  deriving DecidableEq

/-- The stack array `buf_u32` of one invocation of `handle_read_msr_on_core`.
Later invocations may use the same address; the invocation's number tells
their local variables apart and is not part of the program. -/
structure StackBuffer where
  address : UInt64
  invocation : ℕ
  deriving DecidableEq

/-- The `arg` pointer of a core function; `none` is `NULL`. -/
abbrev Argument := Option StackBuffer

structure CoreFunctionCall where
  func : Option CoreFunction
  arg : Argument
  deriving DecidableEq

def coreFunctionSlots : ℕ := 3

structure IBSEvent where
  q1 : UInt64
  q2 : UInt64
  deriving DecidableEq

structure IBSControl where
  eventBuffer : ℕ → IBSEvent
  currentPosition : UInt64
  ibsFilter : UInt64

structure DSMEvent where
  data0 : UInt64
  data1 : UInt64
  deriving DecidableEq

structure DSMFileHeader where
  versionInfo : UInt64
  mask : UInt64
  sel : UInt64
  types : UInt64
  idxInfo : UInt64
  numItems : UInt64
  deriving DecidableEq

structure DSMControl where
  fileHeader : DSMFileHeader
  eventBuffer : ℕ → DSMEvent
  orig : UInt64

structure CoreContext where
  resultBuffer : Memory
  resultBufferLen : UInt64
  currentMachineCodeSlotAddress : UInt64
  currentMicrocodeSlotAddress : UInt64
  retGpfValue : UInt64
  retRdtscValue : UInt64
  faultInfo : Option CoreFaultInfo
  recoveryRsp : UInt64
  coreFunctions : ℕ → CoreFunctionCall
  heartbeat : UInt64
  currentMicrocodeLen : UInt64
  cr3Value : UInt64
  ibsControl : Option IBSControl
  dsmControl : Option DSMControl
  present : UInt64
  started : UInt64
  ready : UInt64
  jobQueued : UInt64
  lock : UInt64

namespace CoreContext

/-- `fault_info->fault_occured`, zero while no fault information is
allocated. -/
def faultOccured (context : CoreContext) : UInt64 :=
  (context.faultInfo.map CoreFaultInfo.faultOccured).getD 0

end CoreContext

/-! ## Captured events -/

def maxIbsEntries : UInt64 := 64 * 1024 * 4

/-- The words of `DSM_file_header`. -/
inductive DSMHeaderWord
  | versionInfo
  | mask
  | sel
  | types
  | idxInfo
  | numItems

/-- A store of a job to the buffers that the event handlers read. -/
inductive CaptureStore
  | ibsEvent (event : IBSEvent)
  | ibsAdvance
  | ibsClear
  | ibsFilter (filter : UInt64)
  | dsmWord (word : DSMHeaderWord) (value : UInt64)
  | dsmEvent (index : ℕ) (event : DSMEvent)
  | dsmOrig (orig : UInt64)

namespace CaptureStore

def applyIbs (control : IBSControl) : CaptureStore → IBSControl
  -- store_ibs_entry does nothing once the buffer is full
  | ibsEvent event =>
      if control.currentPosition ≥ maxIbsEntries then control
      else { control with
        eventBuffer :=
          Function.update control.eventBuffer control.currentPosition.toNat event }
  | ibsAdvance =>
      if control.currentPosition ≥ maxIbsEntries then control
      else { control with currentPosition := control.currentPosition + 1 }
  | ibsClear => { control with currentPosition := 0 }
  | ibsFilter filter => { control with ibsFilter := filter }
  | _ => control

def applyHeader (header : DSMFileHeader) (value : UInt64) : DSMHeaderWord → DSMFileHeader
  | .versionInfo => { header with versionInfo := value }
  | .mask => { header with mask := value }
  | .sel => { header with sel := value }
  | .types => { header with types := value }
  | .idxInfo => { header with idxInfo := value }
  | .numItems => { header with numItems := value }

def applyDsm (control : DSMControl) : CaptureStore → DSMControl
  | dsmWord word value =>
      { control with fileHeader := applyHeader control.fileHeader value word }
  | dsmEvent index event =>
      { control with eventBuffer := Function.update control.eventBuffer index event }
  | dsmOrig orig => { control with orig := orig }
  | _ => control

def apply (context : CoreContext) (store : CaptureStore) : CoreContext :=
  { context with
    ibsControl := context.ibsControl.map fun control => applyIbs control store
    dsmControl := context.dsmControl.map fun control => applyDsm control store }

def applyAll (context : CoreContext) (stores : List CaptureStore) : CoreContext :=
  stores.foldl apply context

end CaptureStore

/-! ## Jobs -/

/-- A request that core 0 turned into work for a core, with the addresses its
handler looked up in the slot tables. -/
inductive Job
  | executeMachineCode (machineCode : UInt64) (timeout : UInt32)
  | applyUcodeExecuteTest (ucode ucodeLength machineCode : UInt64)
      (timeout options : UInt32)
  | readMsrOnCore (targetMsr : UInt32) (buffer : StackBuffer)
  deriving DecidableEq

/-- One write of core 0 to a context it has locked. -/
inductive ContextWrite
  | func (slot : ℕ) (value : Option CoreFunction)
  | arg (slot : ℕ) (value : Argument)
  | retGpfValue (value : UInt64)
  | retRdtscValue (value : UInt64)
  | currentMachineCodeSlotAddress (value : UInt64)
  | currentMicrocodeSlotAddress (value : UInt64)
  | currentMicrocodeLen (value : UInt64)
  | zeroResultBuffer
  deriving DecidableEq

namespace ContextWrite

def setCall (calls : ℕ → CoreFunctionCall) (slot : ℕ)
    (change : CoreFunctionCall → CoreFunctionCall) : ℕ → CoreFunctionCall :=
  fun index => if index = slot then change (calls index) else calls index

def apply (context : CoreContext) : ContextWrite → CoreContext
  | .func slot value =>
      { context with
        coreFunctions := setCall context.coreFunctions slot fun call =>
          { call with func := value } }
  | .arg slot value =>
      { context with
        coreFunctions := setCall context.coreFunctions slot fun call =>
          { call with arg := value } }
  | .retGpfValue value => { context with retGpfValue := value }
  | .retRdtscValue value => { context with retRdtscValue := value }
  | .currentMachineCodeSlotAddress value =>
      { context with currentMachineCodeSlotAddress := value }
  | .currentMicrocodeSlotAddress value =>
      { context with currentMicrocodeSlotAddress := value }
  | .currentMicrocodeLen value => { context with currentMicrocodeLen := value }
  | .zeroResultBuffer =>
      { context with
        resultBuffer := context.resultBuffer.write 0
          (List.replicate context.resultBufferLen.toNat 0) }

def applyAll (context : CoreContext) (writes : List ContextWrite) : CoreContext :=
  writes.foldl apply context

end ContextWrite

/-- `ZeroMem(context->core_functions, ...)`. -/
def clearCoreFunctions : List ContextWrite :=
  [.func 0 none, .arg 0 none, .func 1 none, .arg 1 none, .func 2 none, .arg 2 none]

namespace Job

/-- `handle_execute_machine_code` passes its 32-bit timeout on, as does
`handle_apply_ucode_execute_test`; `handle_read_msr_on_core` uses 100. -/
def timeout : Job → ℕ
  | executeMachineCode _ timeout => timeout.toNat
  | applyUcodeExecuteTest _ _ _ timeout _ => timeout.toNat
  | readMsrOnCore _ _ => 100

/-- The local variables of the invocation that serves the job. -/
def inInvocation (invocation : ℕ) : Job → Job
  | readMsrOnCore targetMsr buffer =>
      readMsrOnCore targetMsr { buffer with invocation := invocation }
  | job => job

/-- What the handler writes between locking the context and `job_queued = 1`,
in program order. -/
def writes : Job → List ContextWrite
  | executeMachineCode machineCode _ =>
      clearCoreFunctions ++
        [.retGpfValue 0, .retRdtscValue 0,
          .func 0 (some .executeMachineCode), .arg 0 none,
          .currentMachineCodeSlotAddress machineCode, .zeroResultBuffer]
  | applyUcodeExecuteTest ucode ucodeLength machineCode _ options =>
      [.zeroResultBuffer, .currentMachineCodeSlotAddress machineCode,
          .currentMicrocodeSlotAddress ucode, .retGpfValue 0, .retRdtscValue 0,
          .currentMicrocodeLen ucodeLength] ++
        clearCoreFunctions ++
        [.func 0 (some .prepareUcodeUpdate),
          .func 1 (some
            (if options &&& 1 = 1 then .applyUcodeExecuteMachineCodeRestore
              else .applyUcodeExecuteMachineCodeSimple))]
  | readMsrOnCore _ buffer =>
      clearCoreFunctions ++ [.func 0 (some .readMsr), .arg 0 (some buffer)]

/-- The `core_functions` table that belongs to a job. -/
def calls : Job → ℕ → CoreFunctionCall
  | executeMachineCode _ _, 0 => ⟨some .executeMachineCode, none⟩
  | applyUcodeExecuteTest _ _ _ _ _, 0 => ⟨some .prepareUcodeUpdate, none⟩
  | applyUcodeExecuteTest _ _ _ _ options, 1 =>
      ⟨some (if options &&& 1 = 1 then .applyUcodeExecuteMachineCodeRestore
        else .applyUcodeExecuteMachineCodeSimple), none⟩
  | readMsrOnCore _ buffer, 0 => ⟨some .readMsr, some buffer⟩
  | _, _ => ⟨none, none⟩

/-- The context holds exactly what core 0 wrote for this job.  A job that does
not name a slot says nothing about that slot's fields. -/
structure WrittenIn (job : Job) (context : CoreContext) : Prop where
  coreFunctions : ∀ slot < coreFunctionSlots, context.coreFunctions slot = job.calls slot
  machineCode : ∀ machineCode timeout,
    job = executeMachineCode machineCode timeout →
      context.currentMachineCodeSlotAddress = machineCode
  update : ∀ ucode ucodeLength machineCode timeout options,
    job = applyUcodeExecuteTest ucode ucodeLength machineCode timeout options →
      context.currentMachineCodeSlotAddress = machineCode ∧
      context.currentMicrocodeSlotAddress = ucode ∧
      context.currentMicrocodeLen = ucodeLength

theorem writtenIn_applyAll_writes (job : Job) (context : CoreContext) :
    job.WrittenIn (ContextWrite.applyAll context job.writes) := by
  cases job with
  | executeMachineCode machineCode timeout =>
      refine ⟨fun slot hslot => ?_, ?_, by simp⟩
      · have hcases : slot = 0 ∨ slot = 1 ∨ slot = 2 := by
          simp only [coreFunctionSlots] at hslot
          omega
        rcases hcases with rfl | rfl | rfl <;> rfl
      · rintro _ _ ⟨⟩
        rfl
  | applyUcodeExecuteTest ucode ucodeLength machineCode timeout options =>
      refine ⟨fun slot hslot => ?_, by simp, ?_⟩
      · have hcases : slot = 0 ∨ slot = 1 ∨ slot = 2 := by
          simp only [coreFunctionSlots] at hslot
          omega
        rcases hcases with rfl | rfl | rfl <;> rfl
      · rintro _ _ _ _ _ ⟨⟩
        exact ⟨rfl, rfl, rfl⟩
  | readMsrOnCore targetMsr buffer =>
      refine ⟨fun slot hslot => ?_, by simp, by simp⟩
      have hcases : slot = 0 ∨ slot = 1 ∨ slot = 2 := by
        simp only [coreFunctionSlots] at hslot
        omega
      rcases hcases with rfl | rfl | rfl <;> rfl

/-- Only the fields of the job matter for what is written for it. -/
theorem WrittenIn.congr {job : Job} {left right : CoreContext}
    (hwritten : job.WrittenIn left)
    (hcalls : right.coreFunctions = left.coreFunctions)
    (hmachineCode : right.currentMachineCodeSlotAddress =
      left.currentMachineCodeSlotAddress)
    (hmicrocode : right.currentMicrocodeSlotAddress =
      left.currentMicrocodeSlotAddress)
    (hlength : right.currentMicrocodeLen = left.currentMicrocodeLen) :
    job.WrittenIn right := by
  constructor
  · rw [hcalls]
    exact hwritten.coreFunctions
  · rw [hmachineCode]
    exact hwritten.machineCode
  · rw [hmachineCode, hmicrocode, hlength]
    exact hwritten.update

end Job

end AngryUefi
