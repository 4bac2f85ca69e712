import AngryUefi.Cores.Context
import Mathlib.Tactic.Simps.Basic

/-!
# Core 0 and one application processor

Core 0's job handlers and the main loop of the processor that owns a context,
as two programs over that context.  Every step performs at most one read,
write or compare-exchange of a context field, and the two programs interleave
freely.  A program counter says which access comes next.

`History` is not part of the program: it numbers the jobs core 0 has queued
and remembers what became of them, so that a statement can name them.
-/

namespace AngryUefi

open AngryUefi.Bytes

/-! ## Core 0 -/

/-- What a handler hands to the code that builds its reply.  The three reads
of `result_buffer_len` in `send_result_message` are kept apart. -/
inductive HandlerResult
  | nothing
  | rejected (status : UInt32)
  | started
  | noResponse
  | testResult (timedOut fault : Bool) (retRdtscValue retGpfValue : UInt64)
      (length : UInt64) (copied : List UInt8) (size : UInt64)
  | msr (eax edx : UInt32)

/-- Where core 0 continues after `unlock_context`. -/
inductive AfterUnlock
  | reject (status : UInt32)
  | waitOnApExec
  | pause (iterations : ℕ)
  | jobFinished
  | bootCoreFinished

/-- Core 0's next access. -/
inductive Core0Pc
  | returned (result : HandlerResult)
  -- acquire_core_lock_for_job
  | jobPresent
  | jobStarted
  | jobTryLock
  | jobReady
  | jobQueued
  -- the handler fills the context
  | write (rest : List ContextWrite)
  -- synchronous execution on the boot core
  | bootClearReady
  | bootClearQueued
  | bootCallFunctions
  | bootSetReady
  -- wait_on_ap_exec
  | waitLock (iterations : ℕ)
  | waitTryLock (iterations : ℕ)
  | waitReady (iterations : ℕ)
  | waitQueued (iterations : ℕ)
  | waitPause (iterations : ℕ)
  | readFault (timedOut : Bool)
  -- send_result_message
  | sendRdtsc (timedOut fault : Bool)
  | sendGpf (timedOut fault : Bool) (retRdtscValue : UInt64)
  | sendLength (timedOut fault : Bool) (retRdtscValue retGpfValue : UInt64)
  | sendBuffer (timedOut fault : Bool) (retRdtscValue retGpfValue length : UInt64)
  | sendSize (timedOut fault : Bool) (retRdtscValue retGpfValue length : UInt64)
      (copied : List UInt8)
  -- send_msr_response
  | sendMsrLow
  | sendMsrHigh (eax : UInt32)
  -- start_core
  | startPresent
  | startStarted
  | startTryLock
  | startFaultInfo
  | startCr3
  | startOnCore
  -- unlock_context
  | unlockStore (next : AfterUnlock)
  | unlockCompareExchange (next : AfterUnlock)

/-- `invocation` counts the handler invocations. -/
structure Core0 where
  pc : Core0Pc
  job : Job
  invocation : ℕ

inductive Request
  | job (job : Job)
  | startCore

/-- What core 0's environment decides at a step.  `elsewhere` is a message that
does not concern this core; its handler leaves the stack as it likes. -/
inductive Core0Choice
  | next
  | request (request : Request)
  | elsewhere (stack : UInt64 → UInt32 × UInt32)
  | newCr3 (value : UInt64)
  | startup (rsp : Option UInt64)
  | ranOnBootCore (resultBuffer : Memory) (retGpfValue retRdtscValue : UInt64)
      (captured : List CaptureStore)

/-- `unlock_context` as it is compiled, or as one atomic release. -/
inductive UnlockMode
  | twoStep
  | atomic
  deriving DecidableEq

namespace Core0Pc

/-- Between a successful `try_lock_context` and the first store of the
matching `unlock_context`. -/
def holds : Core0Pc → Bool
  | jobReady | jobQueued | write _ | bootClearReady | bootClearQueued
  | bootCallFunctions | bootSetReady | waitReady _ | waitQueued _
  | startFaultInfo | startCr3 | startOnCore | unlockStore _ => true
  | _ => false

/-- Between the two operations of `unlock_context`. -/
def unlocking : Core0Pc → Bool
  | unlockCompareExchange _ => true
  | _ => false

/-- The handler invocation is still running. -/
def live : Core0Pc → Bool
  | returned _ => false
  | _ => true

end Core0Pc

/-- `wait_on_ap_exec` has returned for this job. -/
def Job.afterWait (job : Job) (timedOut : Bool) : Core0Pc :=
  match job with
  | .readMsrOnCore _ _ => if timedOut then .returned .noResponse else .sendMsrLow
  | _ => .readFault timedOut

def AfterUnlock.pc (job : Job) : AfterUnlock → Core0Pc
  | reject status => .returned (.rejected status)
  | waitOnApExec => .waitLock 0
  | pause iterations => .waitPause iterations
  | jobFinished => job.afterWait false
  | bootCoreFinished => .sendRdtsc false false

/-! ## The application processor -/

/-- A function that `call_core_functions` is calling. -/
structure CallFrame where
  slot : ℕ
  func : CoreFunction
  arg : Argument
  deriving DecidableEq

/-- The next access inside a core function. -/
inductive BodyPc
  | ret
  -- prepare_ucode_update
  | prefetchLen (i : UInt64)
  | prefetchByte (i : UInt64) (j : ℕ)
  | storeScratch
  -- apply_ucode_execute_machine_code_simple and _restore
  | loadUcode (restore : Bool)
  | patchLoad (restore : Bool) (ucode : UInt64)
  | timeStamp (restore : Bool) (gpf : UInt64)
  | storeGpf (restore : Bool) (gpf rdtsc : UInt64)
  | storeRdtsc (restore : Bool) (gpf rdtsc : UInt64)
  | patchRestore
  -- and execute_machine_code
  | loadCode (restore : Bool)
  | machineCode (restore : Bool) (code : UInt64)
  -- read_msr
  | loadMsr
  | rdmsr (targetMsr : UInt32)
  | storeLow (value : UInt64)
  | storeHigh (value : UInt64)
  -- the iretq of a handler that left the error code on the stack, and the handler
  -- that follows it, which is entered as for a fault of its own
  | handlerIretq (vector : UInt64)
  | behindHandler (vector : UInt64)
  deriving DecidableEq

namespace BodyPc

def entry : CoreFunction → BodyPc
  | .prepareUcodeUpdate => prefetchLen 0
  | .applyUcodeExecuteMachineCodeSimple => loadUcode false
  | .applyUcodeExecuteMachineCodeRestore => loadUcode true
  | .executeMachineCode => loadCode false
  | .readMsr => loadMsr

/-- `proto_handler_13` resumes two bytes further on with `0xDEAD` in RAX:
behind a `wrmsr`, a `rdmsr` or an `iretq`, elsewhere still inside the same code. -/
def resume : BodyPc → BodyPc
  | patchLoad restore _ => timeStamp restore 0xDEAD
  | patchRestore => ret
  | rdmsr _ => storeLow 0xDEAD
  | handlerIretq vector => behindHandler vector
  | body => body

end BodyPc

/-- The processor's next access. -/
inductive ApPc
  | off
  -- core_main_loop_entry_point, core_main_loop_stub_wrapper
  | entryPoint
  | stubWrapper
  -- core_main_loop up to its unlock_context
  | writeIdt
  | storeCr3
  | initIbs
  | setStarted
  | setReady
  | clearJobQueued
  -- the spin loop
  | spin
  | spinLock
  | spinQueued
  -- handle_job
  | jobTryLock
  | jobRecheck
  | jobClearReady
  | jobClearQueued
  | jobReadFault
  | jobZeroFault
  | call (slot : ℕ)
  | callArg (slot : ℕ) (func : CoreFunction)
  | body (frame : CallFrame) (pc : BodyPc)
  | jobSetReady
  -- a fault handler of this core, core_main_loop_stub_recovery
  | handlerStore (frame : CallFrame) (pc : BodyPc) (vector : UInt64)
      (info : CoreFaultInfo)
  | handlerOccured (frame : CallFrame) (pc : BodyPc) (vector : UInt64)
  | handlerNumber (frame : CallFrame) (pc : BodyPc) (vector : UInt64)
  | stubRecovery
  -- unlock_context
  | unlockStore
  | unlockCompareExchange
  deriving DecidableEq

namespace ApPc

/-- Between taking the lock (or being handed it) and the first store of the
matching `unlock_context`. -/
def holds : ApPc → Bool
  | off | spin | spinLock | spinQueued | jobTryLock | unlockCompareExchange => false
  | _ => true

/-- Between the two operations of `unlock_context`. -/
def unlocking : ApPc → Bool
  | unlockCompareExchange => true
  | _ => false

end ApPc

/-- `job` numbers the job accepted last; it is part of the history. -/
structure Ap where
  pc : ApPc
  rsp : UInt64
  job : ℕ

inductive ApChoice
  | next
  | value (value : UInt64)
  | store (offset : ℕ) (bytes : List UInt8)
  | capture (store : CaptureStore)
  | ret
  | fault (vector : UInt64) (info : CoreFaultInfo)

/-! ## The two together -/

/-- What a job left behind where its reply is read from. -/
structure Results where
  retRdtscValue : UInt64
  retGpfValue : UInt64
  resultBufferLen : UInt64
  resultBuffer : Memory
  stack : UInt64 → UInt32 × UInt32

/-- A reply at the moment its message is built.  `raised` says whether the job
has a fault recorded by then. -/
structure ReplyRecord where
  number : ℕ
  job : Job
  result : HandlerResult
  raised : Bool

/-- Job numbers count the writes of `job_queued = 1`.  `faultOwner` is the job
that `fault_info` was last zeroed for. -/
structure History where
  jobs : List Job
  accepted : List ℕ
  ended : List (ℕ × Results)
  faulted : List ℕ
  faultOwner : Option ℕ
  replies : List ReplyRecord

def History.empty : History := ⟨[], [], [], [], none, []⟩

/-- Core 0, one application processor, the context they share and the part of
core 0's stack that holds `buf_u32` arrays. -/
structure Pair where
  coreId : ℕ
  core0 : Core0
  ap : Ap
  context : CoreContext
  stack : UInt64 → UInt32 × UInt32
  history : History

namespace Pair

def results (s : Pair) : Results :=
  ⟨s.context.retRdtscValue, s.context.retGpfValue, s.context.resultBufferLen,
    s.context.resultBuffer, s.stack⟩

/-- The number of the job core 0 queued last. -/
def lastJob (s : Pair) : ℕ := s.history.jobs.length - 1

@[simps]
def setCore0Pc (s : Pair) (pc : Core0Pc) : Pair :=
  { s with core0 := { s.core0 with pc := pc } }

@[simps]
def setApPc (s : Pair) (pc : ApPc) : Pair :=
  { s with ap := { s.ap with pc := pc } }

/-- `interlocked_compare_exchange_64(&context->lock, compare, exchange)`. -/
def compareExchange (context : CoreContext) (compare exchange : UInt64) :
    UInt64 × CoreContext :=
  (context.lock,
    if context.lock = compare then { context with lock := exchange } else context)

/-- The handler returns with this result and its reply is on record. -/
def reply (s : Pair) (result : HandlerResult) : Pair :=
  { s.setCore0Pc (.returned result) with
    history := { s.history with
      replies :=
        ⟨s.lastJob, s.core0.job, result, decide (s.lastJob ∈ s.history.faulted)⟩ ::
          s.history.replies } }

/-- A new message reaches a job handler, or `start_core`. -/
def beginRequest (s : Pair) : Request → Pair
  | .startCore =>
      { s with core0 := { s.core0 with
          pc := .startPresent, invocation := s.core0.invocation + 1 } }
  | .job job =>
      let invocation := s.core0.invocation + 1
      { s with
        core0 := ⟨.jobPresent, job.inInvocation invocation, invocation⟩
        stack := match job with
          -- buf_u32[2] = {0}; buf_u32[0] = target_msr
          | .readMsrOnCore targetMsr buffer =>
              Function.update s.stack buffer.address (targetMsr, 0)
          | _ => s.stack }

/-- The writes of a handler to its locked context, then `job_queued = 1`. -/
def fillContext (s : Pair) : List ContextWrite → Pair
  | write :: rest =>
      { s.setCore0Pc (.write rest) with context := write.apply s.context }
  | [] =>
      { s.setCore0Pc
          (if s.coreId = 0 then .bootClearReady else .unlockStore .waitOnApExec) with
        context := { s.context with jobQueued := 1 }
        history := { s.history with jobs := s.history.jobs ++ [s.core0.job] } }

/-- The timeout handling at the end of an iteration of `wait_on_ap_exec`. -/
def pauseWait (s : Pair) (iterations : ℕ) : Pair :=
  if s.core0.job.timeout ≠ 0 then
    if s.core0.job.timeout ≤ iterations + 1 then
      s.setCore0Pc (s.core0.job.afterWait true)
    else s.setCore0Pc (.waitLock (iterations + 1))
  else s.setCore0Pc (.waitLock iterations)

def core0Step (mode : UnlockMode) (choice : Core0Choice) (s : Pair) : Option Pair :=
  match s.core0.pc, choice with
  | .returned _, .request request => some (s.beginRequest request)
  | .returned _, .elsewhere stack => some { s with stack := stack }
  | .jobPresent, .next =>
      some (s.setCore0Pc
        (if s.context.present ≠ 1 then .returned (.rejected 0x202) else .jobStarted))
  | .jobStarted, .next =>
      some (s.setCore0Pc
        (if s.context.started ≠ 1 then .returned (.rejected 0x203) else .jobTryLock))
  | .jobTryLock, .next =>
      let locked := compareExchange s.context 0 1
      some { s.setCore0Pc
          (if locked.1 = 0 then .jobReady else .returned (.rejected 0x204)) with
        context := locked.2 }
  | .jobReady, .next =>
      some (s.setCore0Pc
        (if s.context.ready ≠ 1 then .unlockStore (.reject 0x205) else .jobQueued))
  | .jobQueued, .next =>
      some (s.setCore0Pc
        (if s.context.jobQueued = 1 then .unlockStore (.reject 0x206)
          else .write s.core0.job.writes))
  | .write rest, .next => some (s.fillContext rest)
  | .bootClearReady, .next =>
      some { s.setCore0Pc .bootClearQueued with
        context := { s.context with ready := 0 } }
  | .bootClearQueued, .next =>
      some { s.setCore0Pc .bootCallFunctions with
        context := { s.context with jobQueued := 0 } }
  | .bootCallFunctions, .ranOnBootCore resultBuffer retGpfValue retRdtscValue captured =>
      some { s.setCore0Pc .bootSetReady with
        context := { s.context with
          resultBuffer := resultBuffer
          retGpfValue := retGpfValue
          retRdtscValue := retRdtscValue
          ibsControl := (CaptureStore.applyAll s.context captured).ibsControl
          dsmControl := (CaptureStore.applyAll s.context captured).dsmControl } }
  | .bootSetReady, .next =>
      some { s.setCore0Pc (.unlockStore .bootCoreFinished) with
        context := { s.context with ready := 1 } }
  | .waitLock iterations, .next =>
      some (s.setCore0Pc
        (if s.context.lock = 0 then .waitTryLock iterations else .waitPause iterations))
  | .waitTryLock iterations, .next =>
      let locked := compareExchange s.context 0 1
      some { s.setCore0Pc
          (if locked.1 = 0 then .waitReady iterations else .waitPause iterations) with
        context := locked.2 }
  | .waitReady iterations, .next =>
      some (s.setCore0Pc
        (if s.context.ready = 1 then .waitQueued iterations
          else .unlockStore (.pause iterations)))
  | .waitQueued iterations, .next =>
      some (s.setCore0Pc
        (if s.context.jobQueued = 0 then .unlockStore .jobFinished
          else .unlockStore (.pause iterations)))
  | .waitPause iterations, .next => some (s.pauseWait iterations)
  | .readFault timedOut, .next =>
      some (s.setCore0Pc (.sendRdtsc timedOut (decide (s.context.faultOccured = 1))))
  | .sendRdtsc timedOut fault, .next =>
      some (s.setCore0Pc (.sendGpf timedOut fault s.context.retRdtscValue))
  | .sendGpf timedOut fault rdtsc, .next =>
      some (s.setCore0Pc (.sendLength timedOut fault rdtsc s.context.retGpfValue))
  | .sendLength timedOut fault rdtsc gpf, .next =>
      some (s.setCore0Pc
        (.sendBuffer timedOut fault rdtsc gpf s.context.resultBufferLen))
  | .sendBuffer timedOut fault rdtsc gpf length, .next =>
      some (s.setCore0Pc (.sendSize timedOut fault rdtsc gpf length
        (s.context.resultBuffer.read 0 s.context.resultBufferLen.toNat)))
  | .sendSize timedOut fault rdtsc gpf length copied, .next =>
      some (s.reply (.testResult timedOut fault rdtsc gpf length copied
        s.context.resultBufferLen))
  | .sendMsrLow, .next =>
      match s.core0.job with
      | .readMsrOnCore _ buffer =>
          some (s.setCore0Pc (.sendMsrHigh (s.stack buffer.address).1))
      | _ => none
  | .sendMsrHigh eax, .next =>
      match s.core0.job with
      | .readMsrOnCore _ buffer => some (s.reply (.msr eax (s.stack buffer.address).2))
      | _ => none
  | .startPresent, .next =>
      some (s.setCore0Pc
        (if s.context.present ≠ 1 then .returned (.rejected 0x3) else .startStarted))
  | .startStarted, .next =>
      some (s.setCore0Pc
        (if s.context.started = 1 then .returned (.rejected 0x4) else .startTryLock))
  | .startTryLock, .next =>
      let locked := compareExchange s.context 0 1
      some { s.setCore0Pc
          (if locked.1 = 0 then .startFaultInfo else .returned (.rejected 0x5)) with
        context := locked.2 }
  | .startFaultInfo, .next =>
      some { s.setCore0Pc .startCr3 with
        context := { s.context with faultInfo := some CoreFaultInfo.zero } }
  | .startCr3, .newCr3 value =>
      some { s.setCore0Pc .startOnCore with
        context := { s.context with cr3Value := value } }
  | .startOnCore, .startup none => some (s.setCore0Pc (.unlockStore (.reject 0x6)))
  | .startOnCore, .startup (some rsp) =>
      -- StartupThisAP only accepts a processor that runs nothing yet
      if s.ap.pc = .off then
        some { s.setCore0Pc (.returned .started) with
          ap := { s.ap with pc := .entryPoint, rsp := rsp } }
      else none
  | .unlockStore next, .next =>
      some { s.setCore0Pc (match mode with
          | .twoStep => .unlockCompareExchange next
          | .atomic => next.pc s.core0.job) with
        context := { s.context with lock := 0 } }
  | .unlockCompareExchange next, .next =>
      some { s.setCore0Pc (next.pc s.core0.job) with
        context := (compareExchange s.context 1 0).2 }
  | _, _ => none

/-- The job the processor works on has ended. -/
def endJob (s : Pair) : Pair :=
  { s with history := { s.history with
      ended := (s.ap.job, s.results) :: s.history.ended } }

def setFaultInfo (s : Pair) (change : CoreFaultInfo → CoreFaultInfo) : Pair :=
  { s with context := { s.context with faultInfo := s.context.faultInfo.map change } }

/-- `fault_info` now speaks about the accepted job. -/
def ownFaultInfo (s : Pair) : Pair :=
  { s with history := { s.history with faultOwner := some s.ap.job } }

/-- The address of the `buf_u32` array behind a function's argument. -/
def CallFrame.bufferAddress (frame : CallFrame) : UInt64 :=
  (frame.arg.map StackBuffer.address).getD 0

/-- One access of a core function. -/
def bodyStep (frame : CallFrame) (pc : BodyPc) (choice : ApChoice) (s : Pair) :
    Option Pair :=
  let goto := fun next => s.setApPc (.body frame next)
  match pc, choice with
  | pc, .fault vector info => some (s.setApPc (.handlerStore frame pc vector info))
  | .ret, .next => some (s.setApPc (.call (frame.slot + 1)))
  | .prefetchLen i, .next =>
      some (goto
        (if i < s.context.currentMicrocodeLen then .prefetchByte i 0 else .storeScratch))
  | .prefetchByte i j, .next =>
      -- reads current_microcode_slot_address
      some (goto (if j + 1 < 8 then .prefetchByte i (j + 1) else .prefetchLen (i + 8)))
  | .storeScratch, .next => some (goto .ret)
  | .loadUcode restore, .next =>
      some (goto (.patchLoad restore s.context.currentMicrocodeSlotAddress))
  | .patchLoad restore ucode, .next =>
      some (goto (.timeStamp restore (ucode &&& 0xFFFFFFFF)))
  | .timeStamp restore gpf, .value rdtsc => some (goto (.storeGpf restore gpf rdtsc))
  | .storeGpf restore gpf rdtsc, .next =>
      some { goto (.storeRdtsc restore gpf rdtsc) with
        context := { s.context with retGpfValue := gpf } }
  | .storeRdtsc restore gpf rdtsc, .next =>
      some { goto (if gpf &&& 0xFFFF = 0xDEAD then .ret else .loadCode restore) with
        context := { s.context with retRdtscValue := rdtsc } }
  | .patchRestore, .next => some (goto .ret)
  | .loadCode restore, .next =>
      some (goto (.machineCode restore s.context.currentMachineCodeSlotAddress))
  | .machineCode restore code, .store offset bytes =>
      some { goto (.machineCode restore code) with
        context := { s.context with
          resultBuffer := s.context.resultBuffer.write offset bytes } }
  -- through the ASR gate, machine code calls the functions that capture events
  | .machineCode restore code, .capture store =>
      some { goto (.machineCode restore code) with
        context := CaptureStore.apply s.context store }
  | .machineCode restore _, .ret => some (goto (if restore then .patchRestore else .ret))
  | .loadMsr, .next => some (goto (.rdmsr (s.stack (CallFrame.bufferAddress frame)).1))
  | .rdmsr _, .value value => some (goto (.storeLow value))
  | .storeLow value, .next =>
      let address := CallFrame.bufferAddress frame
      some { goto (.storeHigh value) with
        stack := Function.update s.stack address (value.toUInt32, (s.stack address).2) }
  | .storeHigh value, .next =>
      let address := CallFrame.bufferAddress frame
      some { goto .ret with
        stack := Function.update s.stack address
          ((s.stack address).1, (value >>> 32).toUInt32) }
  | _, _ => none

/-- Where the handler of a vector returns to.  `proto_handler_8` leaves the error
code on the stack, so its `iretq` takes the old RIP for CS, which selects no code
segment, and raises #GP.  From there `proto_handler_13` resumes in
`proto_handler_9`, which pops the same frame; behind its `iretq` follows
`proto_handler_10`, which drops the error code. -/
def afterHandler (frame : CallFrame) (pc : BodyPc) (vector : UInt64) : ApPc :=
  if vector = 13 then .body frame pc.resume
  else if vector = 8 ∨ vector = 9 ∧ pc = .behindHandler 8 then
    .body frame (.handlerIretq vector)
  else .stubRecovery

def apStep (mode : UnlockMode) (choice : ApChoice) (s : Pair) : Option Pair :=
  match s.ap.pc, choice with
  | .entryPoint, .next => some (s.setApPc .stubWrapper)
  | .stubWrapper, .next =>
      some { s.setApPc .writeIdt with
        context := { s.context with recoveryRsp := s.ap.rsp } }
  | .writeIdt, .next => some (s.setApPc .storeCr3)
  | .storeCr3, .value value =>
      some { s.setApPc .initIbs with context := { s.context with cr3Value := value } }
  | .initIbs, .next =>
      some { s.setApPc .setStarted with
        context := { s.context with
          ibsControl := s.context.ibsControl.map fun control =>
            { control with ibsFilter := 0 } } }
  | .setStarted, .next =>
      some { s.setApPc .setReady with context := { s.context with started := 1 } }
  | .setReady, .next =>
      some { s.setApPc .clearJobQueued with context := { s.context with ready := 1 } }
  | .clearJobQueued, .next =>
      some { s.setApPc .unlockStore with context := { s.context with jobQueued := 0 } }
  | .spin, .value tsc =>
      some { s.setApPc .spinLock with context := { s.context with heartbeat := tsc } }
  | .spinLock, .next =>
      some (s.setApPc (if s.context.lock ≠ 0 then .spin else .spinQueued))
  | .spinQueued, .next =>
      some (s.setApPc (if s.context.jobQueued ≠ 0 then .jobTryLock else .spin))
  | .jobTryLock, .next =>
      let locked := compareExchange s.context 0 1
      some { s.setApPc (if locked.1 = 0 then .jobRecheck else .spin) with
        context := locked.2 }
  | .jobRecheck, .next =>
      some (s.setApPc (if s.context.jobQueued = 0 then .unlockStore else .jobClearReady))
  | .jobClearReady, .next =>
      some { s.setApPc .jobClearQueued with context := { s.context with ready := 0 } }
  | .jobClearQueued, .next =>
      some { s with
        ap := { s.ap with pc := .jobReadFault, job := s.lastJob }
        context := { s.context with jobQueued := 0 }
        history := { s.history with accepted := s.lastJob :: s.history.accepted } }
  | .jobReadFault, .next =>
      some (if s.context.faultOccured ≠ 0 then s.setApPc .jobZeroFault
        else s.ownFaultInfo.setApPc (.call 0))
  | .jobZeroFault, .next =>
      some ((s.setFaultInfo fun _ => CoreFaultInfo.zero).ownFaultInfo.setApPc (.call 0))
  | .call slot, .next =>
      some (if slot < coreFunctionSlots then
          match (s.context.coreFunctions slot).func with
          | none => s.setApPc (.call (slot + 1))
          | some func => s.setApPc (.callArg slot func)
        else s.endJob.setApPc .jobSetReady)
  | .callArg slot func, .next =>
      some (s.setApPc (.body ⟨slot, func, (s.context.coreFunctions slot).arg⟩
        (BodyPc.entry func)))
  | .body frame pc, choice => s.bodyStep frame pc choice
  | .jobSetReady, .next =>
      some { s.setApPc .unlockStore with context := { s.context with ready := 1 } }
  | .handlerStore frame pc vector info, .next =>
      some ((s.setFaultInfo fun old =>
        { info with faultOccured := old.faultOccured, faultNumber := old.faultNumber }
        ).setApPc (.handlerOccured frame pc vector))
  | .handlerOccured frame pc vector, .next =>
      some { (s.setFaultInfo fun old => { old with faultOccured := 1 }).setApPc
          (.handlerNumber frame pc vector) with
        history := { s.history with faulted := s.ap.job :: s.history.faulted } }
  | .handlerNumber frame pc vector, .next =>
      some ((s.setFaultInfo fun old => { old with faultNumber := vector }).setApPc
        (afterHandler frame pc vector))
  | .stubRecovery, .next =>
      some { s.endJob with
        ap := { s.ap with pc := .writeIdt, rsp := s.context.recoveryRsp } }
  | .unlockStore, .next =>
      some { s.setApPc (match mode with
          | .twoStep => .unlockCompareExchange
          | .atomic => .spin) with
        context := { s.context with lock := 0 } }
  | .unlockCompareExchange, .next =>
      some { s.setApPc .spin with context := (compareExchange s.context 1 0).2 }
  | _, _ => none

/-- Who moves, and what its environment decides. -/
inductive Label
  | core0 (choice : Core0Choice)
  | ap (choice : ApChoice)

def step (mode : UnlockMode) : Label → Pair → Option Pair
  | .core0 choice, s => s.core0Step mode choice
  | .ap choice, s => s.apStep mode choice

/-- What `init_core_contexts` leaves of a present core's context on a processor
without IBS. -/
def initContext : CoreContext where
  resultBuffer := fun _ => 0
  resultBufferLen := 1024
  currentMachineCodeSlotAddress := 0
  currentMicrocodeSlotAddress := 0
  retGpfValue := 0
  retRdtscValue := 0
  faultInfo := none
  recoveryRsp := 0
  coreFunctions := fun _ => ⟨none, none⟩
  heartbeat := 0
  currentMicrocodeLen := 0
  cr3Value := 0
  ibsControl := none
  dsmControl := some ⟨⟨0, 0, 0, 0, 0, 0⟩, fun _ => ⟨0, 0⟩, 0⟩
  present := 1
  started := 0
  ready := 0
  jobQueued := 0
  lock := 0

/-- A present core after `init_cores`, with an empty stack. -/
def afterInit (coreId : ℕ) : Pair where
  coreId := coreId
  core0 := ⟨.returned .nothing, .executeMachineCode 0 0, 0⟩
  ap := ⟨.off, 0, 0⟩
  context := initContext
  stack := fun _ => (0, 0)
  history := .empty

/-- After `init_cores`, for a context other than the boot core's: nothing has
been started or queued, and core 0 is between two messages. -/
structure Booted (s : Pair) : Prop where
  coreId : s.coreId ≠ 0
  core0 : ∃ result, s.core0.pc = .returned result
  ap : s.ap.pc = .off
  faultInfo : s.context.faultInfo = none
  started : s.context.started = 0
  ready : s.context.ready = 0
  jobQueued : s.context.jobQueued = 0
  lock : s.context.lock = 0
  history : s.history = .empty

theorem booted_afterInit {coreId : ℕ} (hcoreId : coreId ≠ 0) :
    (afterInit coreId).Booted :=
  ⟨hcoreId, ⟨_, rfl⟩, rfl, rfl, rfl, rfl, rfl, rfl, rfl⟩

/-- STARTCORE up to the hand-over, then the processor up to its first store to
the lock. -/
def startUp : List Label :=
  [.core0 (.request .startCore), .core0 .next, .core0 .next, .core0 .next,
    .core0 .next, .core0 (.newCr3 0), .core0 (.startup (some 0)), .ap .next, .ap .next,
    .ap .next, .ap (.value 0), .ap .next, .ap .next, .ap .next, .ap .next, .ap .next]

/-- EXECUTEMACHINECODE without a timeout, up to the first store to the lock. -/
def submit : List Label :=
  .core0 (.request (.job (.executeMachineCode 0x1000 0))) ::
    List.replicate 19 (.core0 .next)

/-- The processor finds the job and runs it up to the machine code. -/
def reachMachineCode : List Label := .ap (.value 0) :: List.replicate 10 (.ap .next)

/-- The compare-exchange of `unlock_context` fails: the lock is not taken, the
other party has not acquired it since the store. -/
def CleanUnlock (s : Pair) : Label → Prop
  | .core0 _ => s.core0.pc.unlocking = true → s.context.lock ≠ 1
  | .ap _ => s.ap.pc.unlocking = true → s.context.lock ≠ 1

instance (s : Pair) : DecidablePred s.CleanUnlock
  | .core0 _ => inferInstanceAs (Decidable (_ → _))
  | .ap _ => inferInstanceAs (Decidable (_ → _))

end Pair

end AngryUefi
