import AngryUefi.Cores.Pair

/-!
# What one step can do

Each party's step function is inverted once, into the few kinds of effect that
the invariants tell apart.  The program counters are grouped into phases: for
core 0 by what it knows about the job it handles, for the processor by how far
it is with the job it accepted.
-/

namespace AngryUefi

/-- What core 0 is doing with respect to the job protocol.  `starting` knows
that the core is not started, `handing` has allocated its fault information.
`requested` has a job to place, `checked` knows that the core is started,
`admitting` holds the lock, `waiting` has queued its job, `finished` has seen it
done and `gaveUp` has not. -/
inductive Core0Phase
  | outside
  | starting
  | handing
  | requested
  | checked
  | admitting
  | filling (rest : List ContextWrite)
  | waiting
  | finished
  | gaveUp
  | boot
  deriving DecidableEq

/-- `running` lasts from accepting a job to its end: the return of
`call_core_functions` or the re-entry of `core_main_loop`. -/
inductive ApPhase
  | off
  | starting
  | idle
  | taking
  | running
  deriving DecidableEq

def AfterUnlock.phase : AfterUnlock → Core0Phase
  | reject _ => .outside
  | waitOnApExec => .waiting
  | pause _ => .waiting
  | jobFinished => .finished
  | bootCoreFinished => .boot

/-- After `wait_on_ap_exec`: it gave up, or it saw the job done. -/
def Core0Phase.afterWait (timedOut : Bool) : Core0Phase :=
  if timedOut then .gaveUp else .finished

namespace Core0Pc

def phase : Core0Pc → Core0Phase
  | returned _ | startPresent | startStarted => .outside
  | jobPresent | jobStarted => .requested
  | startTryLock | startFaultInfo => .starting
  | startCr3 | startOnCore => .handing
  | jobTryLock => .checked
  | jobReady | jobQueued => .admitting
  | write rest => .filling rest
  | bootClearReady | bootClearQueued | bootCallFunctions | bootSetReady => .boot
  | waitLock _ | waitTryLock _ | waitReady _ | waitQueued _ | waitPause _ => .waiting
  | readFault timedOut | sendRdtsc timedOut _ | sendGpf timedOut _ _
  | sendLength timedOut _ _ _ | sendBuffer timedOut _ _ _ _
  | sendSize timedOut _ _ _ _ _ => Core0Phase.afterWait timedOut
  | sendMsrLow | sendMsrHigh _ => .finished
  | unlockStore next | unlockCompareExchange next => next.phase

/-- Bit 1 of the reply's flags, once core 0 has read it. -/
def faultFlag : Core0Pc → Option Bool
  | sendRdtsc _ fault | sendGpf _ fault _ | sendLength _ fault _ _
  | sendBuffer _ fault _ _ _ | sendSize _ fault _ _ _ _ => some fault
  | _ => none

/-- What core 0 has read for its reply so far is what these results hold. -/
def SentFrom (job : Job) (results : Results) : Core0Pc → Prop
  | sendMsrHigh eax => ∀ targetMsr buffer, job = .readMsrOnCore targetMsr buffer →
      eax = (results.stack buffer.address).1
  | sendGpf _ _ rdtsc => rdtsc = results.retRdtscValue
  | sendLength _ _ rdtsc gpf => rdtsc = results.retRdtscValue ∧ gpf = results.retGpfValue
  | sendBuffer _ _ rdtsc gpf length =>
      rdtsc = results.retRdtscValue ∧ gpf = results.retGpfValue ∧
        length = results.resultBufferLen
  | sendSize _ _ rdtsc gpf length copied =>
      rdtsc = results.retRdtscValue ∧ gpf = results.retGpfValue ∧
        length = results.resultBufferLen ∧
        copied = results.resultBuffer.read 0 results.resultBufferLen.toNat
  | _ => True

end Core0Pc

/-- The words of a reply are those a job left behind, and it has the whole result
buffer. -/
def Job.ReplyFrom (job : Job) (results : Results) : HandlerResult → Prop
  | .testResult _ _ rdtsc gpf length copied size =>
      rdtsc = results.retRdtscValue ∧ gpf = results.retGpfValue ∧
        length = results.resultBufferLen ∧ size = results.resultBufferLen ∧
        copied = results.resultBuffer.read 0 results.resultBufferLen.toNat
  | .msr eax edx => ∀ targetMsr buffer, job = .readMsrOnCore targetMsr buffer →
      (eax, edx) = results.stack buffer.address
  | _ => True

/-- Bit 0 of the reply's flags. -/
def HandlerResult.timedOut : HandlerResult → Bool
  | testResult timedOut _ _ _ _ _ _ => timedOut
  | _ => false

def HandlerResult.faultFlag : HandlerResult → Option Bool
  | testResult _ fault _ _ _ _ _ => some fault
  | _ => none

namespace ApPc

def phase : ApPc → ApPhase
  | off => .off
  | entryPoint | stubWrapper | writeIdt | storeCr3 | initIbs | setStarted | setReady
  | clearJobQueued => .starting
  | jobClearReady | jobClearQueued => .taking
  | spin | spinLock | spinQueued | jobTryLock | jobRecheck | jobSetReady
  | unlockStore | unlockCompareExchange => .idle
  | jobReadFault | jobZeroFault | call _ | callArg _ _ | body _ _
  | handlerStore _ _ _ _ | handlerOccured _ _ _ | handlerNumber _ _ _
  | stubRecovery => .running

/-- The functions in the slots below this one have been called. -/
def nextSlot : ApPc → Option ℕ
  | jobReadFault | jobZeroFault => some 0
  | call slot | callArg slot _ => some slot
  | body frame _ | handlerStore frame _ _ _ | handlerOccured frame _ _
  | handlerNumber frame _ _ => some (frame.slot + 1)
  | _ => none

/-- Before `handle_job` has zeroed `fault_info` for the accepted job. -/
def beforeZeroing : ApPc → Bool
  | jobReadFault | jobZeroFault => true
  | _ => false

end ApPc

/-- The addresses a core function holds in registers are those it read from
the context. -/
def BodyPc.LoadedFrom (context : CoreContext) : BodyPc → Prop
  | patchLoad _ ucode => ucode = context.currentMicrocodeSlotAddress
  | machineCode _ code => code = context.currentMachineCodeSlotAddress
  | _ => True

/-- The call in progress is the one in the context's table. -/
def CallFrame.LoadedFrom (frame : CallFrame) (context : CoreContext) : Prop :=
  frame.slot < coreFunctionSlots ∧
    context.coreFunctions frame.slot = ⟨some frame.func, frame.arg⟩

def ApPc.LoadedFrom (context : CoreContext) : ApPc → Prop
  | callArg slot func =>
      slot < coreFunctionSlots ∧ (context.coreFunctions slot).func = some func
  | body frame pc | handlerStore frame pc _ _ | handlerOccured frame pc _
  | handlerNumber frame pc _ => frame.LoadedFrom context ∧ pc.LoadedFrom context
  | _ => True

@[simp]
theorem Job.holds_afterWait (job : Job) (timedOut : Bool) :
    (job.afterWait timedOut).holds = false := by
  cases job <;> cases timedOut <;> rfl

@[simp]
theorem AfterUnlock.holds_pc (next : AfterUnlock) (job : Job) :
    (next.pc job).holds = false := by
  cases next with
  | jobFinished => exact job.holds_afterWait false
  | _ => rfl

theorem AfterUnlock.phase_pc (next : AfterUnlock) (job : Job)
    (hboot : next.phase ≠ .boot) : (next.pc job).phase = next.phase := by
  cases next with
  | bootCoreFinished => exact absurd rfl hboot
  | jobFinished => cases job <;> rfl
  | _ => rfl

theorem AfterUnlock.faultFlag_pc (next : AfterUnlock) (job : Job)
    (hboot : next.phase ≠ .boot) : (next.pc job).faultFlag = none := by
  cases next with
  | bootCoreFinished => exact absurd rfl hboot
  | jobFinished => cases job <;> rfl
  | _ => rfl

theorem AfterUnlock.sentFrom_pc (next : AfterUnlock) (job : Job) (results : Results) :
    (next.pc job).SentFrom job results := by
  cases next with
  | jobFinished => cases job <;> trivial
  | _ => trivial

/-- The fields a core function takes its inputs from. -/
structure CoreContext.SameInputs (left right : CoreContext) : Prop where
  coreFunctions : right.coreFunctions = left.coreFunctions
  machineCode :
    right.currentMachineCodeSlotAddress = left.currentMachineCodeSlotAddress
  microcode : right.currentMicrocodeSlotAddress = left.currentMicrocodeSlotAddress
  microcodeLen : right.currentMicrocodeLen = left.currentMicrocodeLen

/-- In addition the fields through which the two parties synchronise. -/
structure CoreContext.SameCalls (left right : CoreContext) : Prop
    extends left.SameInputs right where
  jobQueued : right.jobQueued = left.jobQueued
  lock : right.lock = left.lock
  faultInfo : right.faultInfo = left.faultInfo
  started : left.started = 1 → right.started = 1

/-- In addition the fields that carry a job's results. -/
structure CoreContext.SameResults (left right : CoreContext) : Prop
    extends left.SameCalls right where
  retRdtscValue : right.retRdtscValue = left.retRdtscValue
  retGpfValue : right.retGpfValue = left.retGpfValue
  resultBufferLen : right.resultBufferLen = left.resultBufferLen
  resultBuffer : right.resultBuffer = left.resultBuffer

theorem CoreContext.SameInputs.writtenIn {left right : CoreContext}
    (hinputs : left.SameInputs right) {job : Job} (hwritten : job.WrittenIn left) :
    job.WrittenIn right :=
  hwritten.congr hinputs.coreFunctions hinputs.machineCode hinputs.microcode
    hinputs.microcodeLen

/-- The same writes leave the same inputs. -/
theorem CoreContext.SameInputs.applyAll {left right : CoreContext}
    (hinputs : left.SameInputs right) (writes : List ContextWrite) :
    (ContextWrite.applyAll left writes).SameInputs
      (ContextWrite.applyAll right writes) := by
  induction writes generalizing left right with
  | nil => exact hinputs
  | cons write rest ih =>
      apply ih
      obtain ⟨hfunctions, hmachineCode, hmicrocode, hlength⟩ := hinputs
      cases write <;>
        exact ⟨by simp [ContextWrite.apply, hfunctions],
          by simp [ContextWrite.apply, hmachineCode],
          by simp [ContextWrite.apply, hmicrocode],
          by simp [ContextWrite.apply, hlength]⟩

theorem BodyPc.LoadedFrom.congr {left right : CoreContext} {pc : BodyPc}
    (hloaded : pc.LoadedFrom left) (hinputs : left.SameInputs right) :
    pc.LoadedFrom right := by
  cases pc with
  | patchLoad restore ucode => exact hloaded.trans hinputs.microcode.symm
  | machineCode restore code => exact hloaded.trans hinputs.machineCode.symm
  | _ => trivial

theorem ApPc.LoadedFrom.congr {left right : CoreContext} {pc : ApPc}
    (hloaded : pc.LoadedFrom left) (hinputs : left.SameInputs right) :
    pc.LoadedFrom right := by
  cases pc with
  | callArg slot func => exact ⟨hloaded.1, by rw [hinputs.coreFunctions]; exact hloaded.2⟩
  | body frame pc =>
      exact ⟨⟨hloaded.1.1, by rw [hinputs.coreFunctions]; exact hloaded.1.2⟩,
        hloaded.2.congr hinputs⟩
  | handlerStore frame pc vector info =>
      exact ⟨⟨hloaded.1.1, by rw [hinputs.coreFunctions]; exact hloaded.1.2⟩,
        hloaded.2.congr hinputs⟩
  | handlerOccured frame pc vector =>
      exact ⟨⟨hloaded.1.1, by rw [hinputs.coreFunctions]; exact hloaded.1.2⟩,
        hloaded.2.congr hinputs⟩
  | handlerNumber frame pc vector =>
      exact ⟨⟨hloaded.1.1, by rw [hinputs.coreFunctions]; exact hloaded.1.2⟩,
        hloaded.2.congr hinputs⟩
  | _ => trivial

theorem BodyPc.LoadedFrom.resume {context : CoreContext} {pc : BodyPc}
    (hloaded : pc.LoadedFrom context) : pc.resume.LoadedFrom context := by
  cases pc with
  | machineCode restore code => exact hloaded
  | _ => trivial

@[simp]
theorem Job.unlocking_afterWait (job : Job) (timedOut : Bool) :
    (job.afterWait timedOut).unlocking = false := by
  cases job <;> cases timedOut <;> rfl

@[simp]
theorem AfterUnlock.unlocking_pc (next : AfterUnlock) (job : Job) :
    (next.pc job).unlocking = false := by
  cases next with
  | jobFinished => exact job.unlocking_afterWait false
  | _ => rfl

theorem Core0Pc.unlocking_iff {pc : Core0Pc} :
    pc.unlocking = true ↔ ∃ next, pc = .unlockCompareExchange next := by
  cases pc <;> simp [unlocking]

theorem ApPc.phase_eq_off {pc : ApPc} : pc.phase = .off ↔ pc = .off := by
  cases pc <;> simp [phase]

theorem ApPc.unlocking_iff {pc : ApPc} :
    pc.unlocking = true ↔ pc = .unlockCompareExchange := by
  cases pc <;> simp [unlocking]

namespace Pair

/-- The kinds of steps of core 0, for a context other than the boot core's. -/
inductive Core0Effect (s : Pair) : Pair → Prop
  | request {result : HandlerResult} (request : Request)
      (hpc : s.core0.pc = .returned result) : Core0Effect s (s.beginRequest request)
  | elsewhere {result : HandlerResult} (stack : UInt64 → UInt32 × UInt32)
      (hpc : s.core0.pc = .returned result) : Core0Effect s { s with stack := stack }
  | look {pc : Core0Pc} (hphase : pc.phase = s.core0.pc.phase)
      (hholds : pc.holds = s.core0.pc.holds)
      (hflag : pc.faultFlag = s.core0.pc.faultFlag)
      (hsent : s.core0.pc.SentFrom s.core0.job s.results → pc.SentFrom s.core0.job s.results) :
      Core0Effect s (s.setCore0Pc pc)
  | check (hpc : s.core0.pc = .jobStarted) (hstarted : s.context.started = 1) :
      Core0Effect s (s.setCore0Pc .jobTryLock)
  | checkStart (hpc : s.core0.pc = .startStarted) (hstarted : s.context.started ≠ 1) :
      Core0Effect s (s.setCore0Pc .startTryLock)
  | busy {status : UInt32}
      (hphase : s.core0.pc.phase = .requested ∨ s.core0.pc.phase = .checked ∨
        s.core0.pc.phase = .starting)
      (hholds : s.core0.pc.holds = false) :
      Core0Effect s (s.setCore0Pc (.returned (.rejected status)))
  | acquire {pc : Core0Pc} (hfree : s.context.lock = 0)
      (hbefore : s.core0.pc.holds = false) (hafter : pc.holds = true)
      (hphase : pc.phase = s.core0.pc.phase ∨
        s.core0.pc.phase = .checked ∧ pc.phase = .admitting)
      (hflag : pc.faultFlag = s.core0.pc.faultFlag) (hsent : pc.SentFrom s.core0.job s.results) :
      Core0Effect s { s.setCore0Pc pc with context := { s.context with lock := 1 } }
  | refuse {status : UInt32}
      (hphase : s.core0.pc.phase = .admitting ∨ s.core0.pc.phase = .handing)
      (hholds : s.core0.pc.holds = true) :
      Core0Effect s (s.setCore0Pc (.unlockStore (.reject status)))
  | fill (hpc : s.core0.pc = .jobQueued) (hqueued : s.context.jobQueued ≠ 1) :
      Core0Effect s (s.setCore0Pc (.write s.core0.job.writes))
  | write {write : ContextWrite} {rest : List ContextWrite}
      (hpc : s.core0.pc = .write (write :: rest)) :
      Core0Effect s
        { s.setCore0Pc (.write rest) with context := write.apply s.context }
  | queue (hpc : s.core0.pc = .write []) :
      Core0Effect s
        { s.setCore0Pc (.unlockStore .waitOnApExec) with
          context := { s.context with jobQueued := 1 }
          history := { s.history with jobs := s.history.jobs ++ [s.core0.job] } }
  | finish {iterations : ℕ} (hpc : s.core0.pc = .waitQueued iterations)
      (hqueued : s.context.jobQueued = 0) :
      Core0Effect s (s.setCore0Pc (.unlockStore .jobFinished))
  | readFlag {timedOut : Bool} (hpc : s.core0.pc = .readFault timedOut) :
      Core0Effect s (s.setCore0Pc
        (.sendRdtsc timedOut (decide (s.context.faultOccured = 1))))
  | timeOut {iterations : ℕ} (hpc : s.core0.pc = .waitPause iterations)
      (hjob : ∀ targetMsr buffer, s.core0.job ≠ .readMsrOnCore targetMsr buffer) :
      Core0Effect s (s.setCore0Pc (.readFault true))
  | giveUp {iterations : ℕ} {targetMsr : UInt32} {buffer : StackBuffer}
      (hpc : s.core0.pc = .waitPause iterations)
      (hjob : s.core0.job = .readMsrOnCore targetMsr buffer)
      (htimeout : s.core0.job.timeout ≠ 0 ∧ s.core0.job.timeout ≤ iterations + 1) :
      Core0Effect s (s.setCore0Pc (.returned .noResponse))
  | reply {result : HandlerResult}
      (hphase : s.core0.pc.phase = .gaveUp ∧ result.timedOut = true ∨
        s.core0.pc.phase = .finished)
      (hholds : s.core0.pc.holds = false)
      (hflag : result.faultFlag = s.core0.pc.faultFlag)
      (hsent : s.core0.pc.SentFrom s.core0.job s.results →
        s.core0.job.ReplyFrom s.results result) :
      Core0Effect s (s.reply result)
  | allocateFaultInfo (hpc : s.core0.pc = .startFaultInfo) :
      Core0Effect s { s.setCore0Pc .startCr3 with
        context := { s.context with faultInfo := some CoreFaultInfo.zero } }
  | setCr3 (value : UInt64) (hpc : s.core0.pc = .startCr3) :
      Core0Effect s { s.setCore0Pc .startOnCore with
        context := { s.context with cr3Value := value } }
  | handOver (rsp : UInt64) (hpc : s.core0.pc = .startOnCore) (hap : s.ap.pc = .off) :
      Core0Effect s { s.setCore0Pc (.returned .started) with
        ap := { s.ap with pc := .entryPoint, rsp := rsp } }
  | release {pc : Core0Pc} (hbefore : s.core0.pc.holds = true)
      (hafter : pc.holds = false) (hphase : pc.phase = s.core0.pc.phase)
      (hflag : pc.faultFlag = none) (hbeforeFlag : s.core0.pc.faultFlag = none)
      (hsent : pc.SentFrom s.core0.job s.results) :
      Core0Effect s { s.setCore0Pc pc with context := { s.context with lock := 0 } }
  | clear {next : AfterUnlock} {lock : UInt64}
      (hpc : s.core0.pc = .unlockCompareExchange next) :
      Core0Effect s { s.setCore0Pc (next.pc s.core0.job) with
        context := { s.context with lock := lock } }

theorem compareExchange_snd (context : CoreContext) (compare exchange : UInt64) :
    (compareExchange context compare exchange).2 =
      { context with
        lock := if context.lock = compare then exchange else context.lock } := by
  simp only [compareExchange]
  split <;> rfl

theorem compareExchange_free {context : CoreContext} (hfree : context.lock = 0) :
    compareExchange context 0 1 = (0, { context with lock := 1 }) := by
  simp [compareExchange, hfree]

theorem compareExchange_taken {context : CoreContext} (htaken : context.lock ≠ 0) :
    compareExchange context 0 1 = (context.lock, context) := by
  simp [compareExchange, htaken]

theorem Core0Effect.lookFrom {s : Pair} {before pc : Core0Pc}
    (hpc : s.core0.pc = before) (hphase : pc.phase = before.phase)
    (hholds : pc.holds = before.holds) (hflag : pc.faultFlag = before.faultFlag)
    (hsent : before.SentFrom s.core0.job s.results → pc.SentFrom s.core0.job s.results) :
    Core0Effect s (s.setCore0Pc pc) := by
  subst before
  exact .look hphase hholds hflag hsent

/-- Every step of core 0 has one of these effects. -/
theorem core0Effect {mode : UnlockMode} {choice : Core0Choice} {s t : Pair}
    (hcoreId : s.coreId ≠ 0) (hboot : s.core0.pc.phase ≠ .boot)
    (hstep : s.core0Step mode choice = some t) : Core0Effect s t := by
  unfold core0Step at hstep
  cases hpc : s.core0.pc
  all_goals rw [hpc] at hstep
  all_goals cases choice
  all_goals simp only [reduceCtorEq, Option.some.injEq] at hstep
  case returned.request result request =>
    subst hstep
    exact .request request hpc
  case returned.elsewhere result stack =>
    subst hstep
    exact .elsewhere stack hpc
  case sendMsrLow.next =>
    cases hjob : s.core0.job with
    | readMsrOnCore targetMsr buffer =>
        simp only [hjob, Option.some.injEq] at hstep
        subst hstep
        refine Core0Effect.lookFrom hpc rfl rfl rfl ?_
        rintro - _ _ heq
        cases hjob.symm.trans heq
        rfl
    | _ => simp [hjob] at hstep
  case sendMsrHigh.next eax =>
    cases hjob : s.core0.job with
    | readMsrOnCore targetMsr buffer =>
        simp only [hjob, Option.some.injEq] at hstep
        subst hstep
        refine .reply (.inr (by rw [hpc]; rfl)) (by rw [hpc]; rfl) (by rw [hpc]; rfl) ?_
        intro hsent _ _ heq
        rw [hpc] at hsent
        have heax := hsent _ _ heq
        cases hjob.symm.trans heq
        rw [heax]
        rfl
    | _ => simp [hjob] at hstep
  case startOnCore.startup rsp =>
    cases rsp with
    | none =>
        simp only [Option.some.injEq] at hstep
        subst hstep
        exact .refuse (.inr (by rw [hpc]; rfl)) (by rw [hpc]; rfl)
    | some rsp =>
        simp only [Option.ite_none_right_eq_some, Option.some.injEq] at hstep
        obtain ⟨hap, rfl⟩ := hstep
        exact .handOver rsp hpc hap
  case startCr3.newCr3 value =>
    subst hstep
    exact .setCr3 value hpc
  case bootCallFunctions.ranOnBootCore => exact absurd (by rw [hpc]; rfl) hboot
  all_goals subst hstep
  case bootClearReady.next => exact absurd (by rw [hpc]; rfl) hboot
  case bootClearQueued.next => exact absurd (by rw [hpc]; rfl) hboot
  case bootSetReady.next => exact absurd (by rw [hpc]; rfl) hboot
  case jobPresent.next =>
    split
    · exact .busy (.inl (by rw [hpc]; rfl)) (by rw [hpc]; rfl)
    · exact .lookFrom hpc rfl rfl rfl id
  case jobStarted.next =>
    split
    · exact .busy (.inl (by rw [hpc]; rfl)) (by rw [hpc]; rfl)
    · rename_i hstarted
      exact .check hpc (not_not.mp hstarted)
  case jobTryLock.next =>
    by_cases hfree : s.context.lock = 0
    · simp only [compareExchange_free hfree, if_true]
      exact .acquire hfree (by rw [hpc]; rfl) rfl (.inr ⟨by rw [hpc]; rfl, rfl⟩)
        (by rw [hpc]; rfl) trivial
    · simp only [compareExchange_taken hfree, if_neg hfree]
      exact .busy (.inr (.inl (by rw [hpc]; rfl))) (by rw [hpc]; rfl)
  case jobReady.next =>
    split
    · exact .refuse (.inl (by rw [hpc]; rfl)) (by rw [hpc]; rfl)
    · exact .lookFrom hpc rfl rfl rfl id
  case jobQueued.next =>
    split
    · exact .refuse (.inl (by rw [hpc]; rfl)) (by rw [hpc]; rfl)
    · rename_i hqueued
      exact .fill hpc hqueued
  case write.next rest =>
    cases rest with
    | nil =>
        simp only [fillContext, if_neg hcoreId]
        exact .queue hpc
    | cons write rest => exact .write hpc
  case waitLock.next => split <;> exact .lookFrom hpc rfl rfl rfl id
  case waitTryLock.next =>
    by_cases hfree : s.context.lock = 0
    · simp only [compareExchange_free hfree, if_true]
      exact .acquire hfree (by rw [hpc]; rfl) rfl (.inl (by rw [hpc]; rfl))
        (by rw [hpc]; rfl) trivial
    · simp only [compareExchange_taken hfree, if_neg hfree]
      exact .lookFrom hpc rfl rfl rfl id
  case waitReady.next => split <;> exact .lookFrom hpc rfl rfl rfl id
  case waitQueued.next =>
    split
    · rename_i hqueued
      exact .finish hpc hqueued
    · exact .lookFrom hpc rfl rfl rfl id
  case waitPause.next iterations =>
    simp only [pauseWait]
    split_ifs with htimeout hreached
    · cases hjob : s.core0.job with
      | readMsrOnCore targetMsr buffer => exact .giveUp hpc hjob ⟨htimeout, hreached⟩
      | _ => exact .timeOut hpc (by simp [hjob])
    · exact .lookFrom hpc rfl rfl rfl id
    · exact .lookFrom hpc rfl rfl rfl id
  case readFault.next => exact .readFlag hpc
  case sendRdtsc.next => exact .lookFrom hpc rfl rfl rfl fun _ => rfl
  case sendGpf.next => exact .lookFrom hpc rfl rfl rfl fun hsent => ⟨hsent, rfl⟩
  case sendLength.next =>
    exact .lookFrom hpc rfl rfl rfl fun hsent => ⟨hsent.1, hsent.2, rfl⟩
  case sendBuffer.next =>
    exact .lookFrom hpc rfl rfl rfl fun hsent => ⟨hsent.1, hsent.2.1, hsent.2.2, rfl⟩
  case sendSize.next timedOut fault rdtsc gpf length copied =>
    refine .reply ?_ (by rw [hpc]; rfl) (by rw [hpc]; rfl) ?_
    · rw [hpc]
      cases timedOut
      · exact .inr rfl
      · exact .inl ⟨rfl, rfl⟩
    · rw [hpc]
      rintro ⟨hrdtsc, hgpf, hlength, hcopied⟩
      exact ⟨hrdtsc, hgpf, hlength, rfl, hcopied⟩
  case startPresent.next => split <;> exact .lookFrom hpc rfl rfl rfl id
  case startStarted.next =>
    split
    · exact .lookFrom hpc rfl rfl rfl id
    · rename_i hstarted
      exact .checkStart hpc hstarted
  case startTryLock.next =>
    by_cases hfree : s.context.lock = 0
    · simp only [compareExchange_free hfree, if_true]
      exact .acquire hfree (by rw [hpc]; rfl) rfl (.inl (by rw [hpc]; rfl))
        (by rw [hpc]; rfl) trivial
    · simp only [compareExchange_taken hfree, if_neg hfree]
      exact .busy (.inr (.inr (by rw [hpc]; rfl))) (by rw [hpc]; rfl)
  case startFaultInfo.next => exact .allocateFaultInfo hpc
  case unlockStore.next next =>
    rw [hpc] at hboot
    cases mode with
    | twoStep =>
        exact .release (by rw [hpc]; rfl) rfl (by rw [hpc]; rfl) rfl (by rw [hpc]; rfl)
          trivial
    | atomic =>
        exact .release (by rw [hpc]; rfl) (next.holds_pc _)
          (by rw [hpc]; exact next.phase_pc _ hboot) (next.faultFlag_pc _ hboot)
          (by rw [hpc]; rfl) (next.sentFrom_pc _ _)
  case unlockCompareExchange.next =>
    rw [compareExchange_snd]
    exact .clear hpc

/-- What a step of core 0 leaves of the context, wherever it is taken. -/
inductive ContextEffect (s : Pair) : CoreContext → Prop
  | same : ContextEffect s s.context
  | acquire (hpc : s.core0.pc = .jobTryLock ∨
      (∃ iterations, s.core0.pc = .waitTryLock iterations) ∨ s.core0.pc = .startTryLock) :
      ContextEffect s (compareExchange s.context 0 1).2
  | fill {write : ContextWrite} {rest : List ContextWrite}
      (hpc : s.core0.pc = .write (write :: rest)) : ContextEffect s (write.apply s.context)
  | queue (hpc : s.core0.pc = .write []) : ContextEffect s { s.context with jobQueued := 1 }
  | clearReady (hpc : s.core0.pc = .bootClearReady) :
      ContextEffect s { s.context with ready := 0 }
  | clearQueued (hpc : s.core0.pc = .bootClearQueued) :
      ContextEffect s { s.context with jobQueued := 0 }
  | ranOnBootCore (hpc : s.core0.pc = .bootCallFunctions) (resultBuffer : Bytes.Memory)
      (retGpfValue retRdtscValue : UInt64) (captured : List CaptureStore) :
      ContextEffect s { s.context with
        resultBuffer := resultBuffer
        retGpfValue := retGpfValue
        retRdtscValue := retRdtscValue
        ibsControl := (CaptureStore.applyAll s.context captured).ibsControl
        dsmControl := (CaptureStore.applyAll s.context captured).dsmControl }
  | setReady (hpc : s.core0.pc = .bootSetReady) : ContextEffect s { s.context with ready := 1 }
  | allocateFaultInfo (hpc : s.core0.pc = .startFaultInfo) :
      ContextEffect s { s.context with faultInfo := some CoreFaultInfo.zero }
  | setCr3 (hpc : s.core0.pc = .startCr3) (value : UInt64) :
      ContextEffect s { s.context with cr3Value := value }
  | release {next : AfterUnlock} (hpc : s.core0.pc = .unlockStore next) :
      ContextEffect s { s.context with lock := 0 }
  | clear {next : AfterUnlock} (hpc : s.core0.pc = .unlockCompareExchange next) :
      ContextEffect s (compareExchange s.context 1 0).2

theorem contextEffect {mode : UnlockMode} {choice : Core0Choice} {s t : Pair}
    (hstep : s.core0Step mode choice = some t) : ContextEffect s t.context := by
  unfold core0Step at hstep
  cases hpc : s.core0.pc
  all_goals rw [hpc] at hstep
  all_goals cases choice
  all_goals simp only [reduceCtorEq, Option.some.injEq] at hstep
  case write.next rest =>
    subst hstep
    cases rest with
    | nil => exact .queue hpc
    | cons write rest => exact .fill hpc
  case startOnCore.startup rsp =>
    cases rsp with
    | none =>
        cases hstep
        exact .same
    | some rsp =>
        simp only [Option.ite_none_right_eq_some, Option.some.injEq] at hstep
        obtain ⟨-, rfl⟩ := hstep
        exact .same
  case sendMsrLow.next =>
    cases hjob : s.core0.job <;> simp only [hjob, Option.some.injEq, reduceCtorEq] at hstep
    subst hstep
    exact .same
  case sendMsrHigh.next eax =>
    cases hjob : s.core0.job <;> simp only [hjob, Option.some.injEq, reduceCtorEq] at hstep
    subst hstep
    exact .same
  case returned.request result request =>
    subst hstep
    cases request <;> exact .same
  case waitPause.next iterations =>
    subst hstep
    simp only [pauseWait]
    split
    · split <;> exact .same
    · exact .same
  all_goals subst hstep
  case jobTryLock.next => exact .acquire (.inl hpc)
  case waitTryLock.next => exact .acquire (.inr (.inl ⟨_, hpc⟩))
  case startTryLock.next => exact .acquire (.inr (.inr hpc))
  case bootClearReady.next => exact .clearReady hpc
  case bootClearQueued.next => exact .clearQueued hpc
  case bootCallFunctions.ranOnBootCore => exact .ranOnBootCore hpc _ _ _ _
  case bootSetReady.next => exact .setReady hpc
  case startFaultInfo.next => exact .allocateFaultInfo hpc
  case startCr3.newCr3 => exact .setCr3 hpc _
  case unlockStore.next => exact .release hpc
  case unlockCompareExchange.next => exact .clear hpc
  all_goals exact .same

/-- The kinds of steps of the application processor. -/
inductive ApEffect (s : Pair) : Pair → Prop
  | look {pc : ApPc} {context : CoreContext}
      (hsame : s.context.SameResults context) (hphase : pc.phase = s.ap.pc.phase)
      (hoff : pc ≠ .off) (hholds : pc.holds = s.ap.pc.holds)
      (hzeroing : pc.beforeZeroing = s.ap.pc.beforeZeroing)
      (hloaded : s.ap.pc.LoadedFrom s.context → pc.LoadedFrom s.context) :
      ApEffect s { s.setApPc pc with context := context }
  | acquire (hpc : s.ap.pc = .jobTryLock) (hfree : s.context.lock = 0) :
      ApEffect s { s.setApPc .jobRecheck with context := { s.context with lock := 1 } }
  | take (hpc : s.ap.pc = .jobRecheck) (hqueued : s.context.jobQueued ≠ 0) :
      ApEffect s (s.setApPc .jobClearReady)
  | clearQueued (hpc : s.ap.pc = .clearJobQueued) :
      ApEffect s { s.setApPc .unlockStore with
        context := { s.context with jobQueued := 0 } }
  | accept (hpc : s.ap.pc = .jobClearQueued) :
      ApEffect s { s with
        ap := { s.ap with pc := .jobReadFault, job := s.lastJob }
        context := { s.context with jobQueued := 0 }
        history := { s.history with accepted := s.lastJob :: s.history.accepted } }
  | own (hpc : s.ap.pc = .jobReadFault) (hclear : s.context.faultOccured = 0) :
      ApEffect s (s.ownFaultInfo.setApPc (.call 0))
  | zero (hpc : s.ap.pc = .jobZeroFault) :
      ApEffect s ((s.setFaultInfo fun _ => CoreFaultInfo.zero).ownFaultInfo.setApPc
        (.call 0))
  | compute {frame : CallFrame} {before after : BodyPc} {context : CoreContext}
      {stack : UInt64 → UInt32 × UInt32} (hpc : s.ap.pc = .body frame before)
      (hsame : s.context.SameCalls context)
      (hloaded : before.LoadedFrom s.context → after.LoadedFrom s.context) :
      ApEffect s { s.setApPc (.body frame after) with
        context := context
        stack := stack }
  | storeFault {pc : ApPc} {change : CoreFaultInfo → CoreFaultInfo}
      (hbefore : s.ap.pc.phase = .running ∧ s.ap.pc.beforeZeroing = false)
      (hafter : pc.phase = .running ∧ pc.beforeZeroing = false)
      (hholds : pc.holds = s.ap.pc.holds)
      (hchange : ∀ old, (change old).faultOccured = old.faultOccured)
      (hloaded : s.ap.pc.LoadedFrom s.context → pc.LoadedFrom s.context) :
      ApEffect s ((s.setFaultInfo change).setApPc pc)
  | recordFault {frame : CallFrame} {pc : BodyPc} {vector : UInt64}
      (hpc : s.ap.pc = .handlerOccured frame pc vector) :
      ApEffect s
        { (s.setFaultInfo fun old => { old with faultOccured := 1 }).setApPc
            (.handlerNumber frame pc vector) with
          history := { s.history with faulted := s.ap.job :: s.history.faulted } }
  | endReturn {slot : ℕ} (hpc : s.ap.pc = .call slot) (hslot : ¬ slot < coreFunctionSlots) :
      ApEffect s (s.endJob.setApPc .jobSetReady)
  | endRecovery (hpc : s.ap.pc = .stubRecovery) :
      ApEffect s { s.endJob with
        ap := { s.ap with pc := .writeIdt, rsp := s.context.recoveryRsp } }
  | release {pc : ApPc} (hpc : s.ap.pc = .unlockStore)
      (hafter : pc = .unlockCompareExchange ∨ pc = .spin) :
      ApEffect s { s.setApPc pc with context := { s.context with lock := 0 } }
  | clear {lock : UInt64} (hpc : s.ap.pc = .unlockCompareExchange) :
      ApEffect s { s.setApPc .spin with context := { s.context with lock := lock } }

theorem ApEffect.lookFrom {s : Pair} {before pc : ApPc} (hpc : s.ap.pc = before)
    (hphase : pc.phase = before.phase) (hoff : pc ≠ .off)
    (hholds : pc.holds = before.holds)
    (hzeroing : pc.beforeZeroing = before.beforeZeroing)
    (hloaded : before.LoadedFrom s.context → pc.LoadedFrom s.context) :
    ApEffect s (s.setApPc pc) := by
  subst before
  have hsame : s.context.SameResults s.context :=
    ⟨⟨⟨rfl, rfl, rfl, rfl⟩, rfl, rfl, rfl, id⟩, rfl, rfl, rfl, rfl⟩
  exact .look hsame hphase hoff hholds hzeroing hloaded

/-- Every step of a core function has one of these effects. -/
theorem bodyEffect {frame : CallFrame} {pc : BodyPc} {choice : ApChoice} {s t : Pair}
    (hpc : s.ap.pc = .body frame pc) (hstep : s.bodyStep frame pc choice = some t) :
    ApEffect s t := by
  cases pc
  all_goals cases choice
  all_goals simp only [bodyStep, reduceCtorEq, Option.some.injEq] at hstep
  all_goals subst hstep
  case storeGpf.next =>
    exact .compute hpc ⟨⟨rfl, rfl, rfl, rfl⟩, rfl, rfl, rfl, id⟩ fun _ => trivial
  case storeRdtsc.next restore gpf rdtsc =>
    refine .compute hpc ⟨⟨rfl, rfl, rfl, rfl⟩, rfl, rfl, rfl, id⟩ fun _ => ?_
    split <;> trivial
  case machineCode.store =>
    exact .compute hpc ⟨⟨rfl, rfl, rfl, rfl⟩, rfl, rfl, rfl, id⟩ id
  case machineCode.capture =>
    exact .compute hpc ⟨⟨rfl, rfl, rfl, rfl⟩, rfl, rfl, rfl, id⟩ id
  case storeLow.next =>
    exact .compute hpc ⟨⟨rfl, rfl, rfl, rfl⟩, rfl, rfl, rfl, id⟩ fun _ => trivial
  case storeHigh.next =>
    exact .compute hpc ⟨⟨rfl, rfl, rfl, rfl⟩, rfl, rfl, rfl, id⟩ fun _ => trivial
  case loadUcode.next =>
    exact .lookFrom hpc rfl nofun rfl rfl fun hloaded => ⟨hloaded.1, rfl⟩
  case loadCode.next =>
    exact .lookFrom hpc rfl nofun rfl rfl fun hloaded => ⟨hloaded.1, rfl⟩
  case ret.next => exact .lookFrom hpc rfl nofun rfl rfl fun _ => trivial
  case prefetchLen.next =>
    split <;> exact .lookFrom hpc rfl nofun rfl rfl fun hloaded => ⟨hloaded.1, trivial⟩
  case prefetchByte.next =>
    split <;> exact .lookFrom hpc rfl nofun rfl rfl fun hloaded => ⟨hloaded.1, trivial⟩
  case machineCode.ret restore code =>
    cases restore <;>
      exact .lookFrom hpc rfl nofun rfl rfl fun hloaded => ⟨hloaded.1, trivial⟩
  all_goals first
    | exact .lookFrom hpc rfl nofun rfl rfl id
    | exact .lookFrom hpc rfl nofun rfl rfl fun hloaded => ⟨hloaded.1, trivial⟩

/-- Every step of the processor has one of these effects. -/
theorem apEffect {mode : UnlockMode} {choice : ApChoice} {s t : Pair}
    (hstep : s.apStep mode choice = some t) : ApEffect s t := by
  unfold apStep at hstep
  cases hpc : s.ap.pc
  all_goals rw [hpc] at hstep
  case body frame pc =>
    exact bodyEffect hpc hstep
  all_goals cases choice
  all_goals simp only [reduceCtorEq, Option.some.injEq] at hstep
  all_goals subst hstep
  case clearJobQueued.next => exact .clearQueued hpc
  case jobTryLock.next =>
    by_cases hfree : s.context.lock = 0
    · simp only [compareExchange_free hfree, if_true]
      exact .acquire hpc hfree
    · simp only [compareExchange_taken hfree, if_neg hfree]
      exact .lookFrom hpc rfl nofun rfl rfl id
  case jobRecheck.next =>
    split
    · exact .lookFrom hpc rfl nofun rfl rfl id
    · rename_i hqueued
      exact .take hpc hqueued
  case jobClearQueued.next => exact .accept hpc
  case jobReadFault.next =>
    split
    · exact .lookFrom hpc rfl nofun rfl rfl id
    · rename_i hclear
      exact .own hpc (not_not.mp hclear)
  case jobZeroFault.next => exact .zero hpc
  case call.next slot =>
    split
    · rename_i hslot
      split
      · exact .lookFrom hpc rfl nofun rfl rfl id
      · rename_i func hfunc
        exact .lookFrom hpc rfl nofun rfl rfl fun _ => ⟨hslot, hfunc⟩
    · rename_i hslot
      exact .endReturn hpc hslot
  case callArg.next slot func =>
    refine .lookFrom hpc rfl nofun rfl rfl fun hloaded => ⟨⟨hloaded.1, ?_⟩, ?_⟩
    · rw [← hloaded.2]
    · cases func <;> trivial
  case handlerStore.next frame pc vector info =>
    exact .storeFault (by rw [hpc]; exact ⟨rfl, rfl⟩) ⟨rfl, rfl⟩ (by rw [hpc]; rfl)
      (fun _ => rfl) (by rw [hpc]; exact id)
  case setStarted.next =>
    exact .look ⟨⟨⟨rfl, rfl, rfl, rfl⟩, rfl, rfl, rfl, fun _ => rfl⟩, rfl, rfl, rfl, rfl⟩
      (by rw [hpc]; rfl) nofun (by rw [hpc]; rfl) (by rw [hpc]; rfl) fun _ => trivial
  case handlerOccured.next frame pc vector => exact .recordFault hpc
  case handlerNumber.next frame pc vector =>
    have hrunning : s.ap.pc.phase = .running ∧ s.ap.pc.beforeZeroing = false := by
      rw [hpc]
      exact ⟨rfl, rfl⟩
    have hafter : (afterHandler frame pc vector).phase = .running ∧
        (afterHandler frame pc vector).beforeZeroing = false := by
      simp only [afterHandler]
      split_ifs <;> exact ⟨rfl, rfl⟩
    have hholds : (afterHandler frame pc vector).holds = s.ap.pc.holds := by
      rw [hpc]
      simp only [afterHandler]
      split_ifs <;> rfl
    refine .storeFault hrunning hafter hholds (fun _ => rfl) ?_
    rw [hpc]
    simp only [afterHandler]
    split_ifs
    · exact fun hloaded => ⟨hloaded.1, hloaded.2.resume⟩
    · exact fun hloaded => ⟨hloaded.1, trivial⟩
    · exact fun _ => trivial
  case stubRecovery.next => exact .endRecovery hpc
  case unlockStore.next =>
    cases mode with
    | twoStep => exact .release hpc (.inl rfl)
    | atomic => exact .release hpc (.inr rfl)
  case unlockCompareExchange.next =>
    rw [compareExchange_snd]
    exact .clear hpc
  case spinLock.next => split <;> exact .lookFrom hpc rfl nofun rfl rfl id
  case spinQueued.next => split <;> exact .lookFrom hpc rfl nofun rfl rfl id
  all_goals first
    | exact .lookFrom hpc rfl nofun rfl rfl id
    | exact .look ⟨⟨⟨rfl, rfl, rfl, rfl⟩, rfl, rfl, rfl, id⟩, rfl, rfl, rfl, rfl⟩
        (by rw [hpc]; rfl) nofun (by rw [hpc]; rfl) (by rw [hpc]; rfl) fun _ => trivial

/-- A processor that has not been started takes no step. -/
theorem phase_ne_off_of_apStep {mode : UnlockMode} {choice : ApChoice} {s t : Pair}
    (hstep : s.apStep mode choice = some t) : s.ap.pc.phase ≠ .off := by
  intro hoff
  unfold apStep at hstep
  rw [ApPc.phase_eq_off.mp hoff] at hstep
  cases hstep

/-- The context belongs to an application processor, and core 0 does not run
jobs in it itself. -/
structure OfProcessor (s : Pair) : Prop where
  coreId : s.coreId ≠ 0
  phase : s.core0.pc.phase ≠ .boot

theorem Booted.ofProcessor {s : Pair} (hbooted : s.Booted) : s.OfProcessor := by
  obtain ⟨result, hpc⟩ := hbooted.core0
  exact ⟨hbooted.coreId, by rw [hpc]; nofun⟩

/-- `unlock_context` ends in the phase it began in. -/
theorem OfProcessor.phase_clear {s : Pair} (hs : s.OfProcessor) {next : AfterUnlock}
    (hpc : s.core0.pc = .unlockCompareExchange next) :
    (next.pc s.core0.job).phase = s.core0.pc.phase := by
  have hboot := hs.phase
  rw [hpc] at hboot ⊢
  exact next.phase_pc _ hboot

theorem OfProcessor.core0Step {mode : UnlockMode} {choice : Core0Choice} {s t : Pair}
    (hs : s.OfProcessor) (hstep : s.core0Step mode choice = some t) : t.OfProcessor := by
  cases core0Effect hs.coreId hs.phase hstep with
  | request request hpc => cases request <;> exact ⟨hs.coreId, nofun⟩
  | elsewhere stack hpc => exact ⟨hs.coreId, hs.phase⟩
  | look hphase => exact ⟨hs.coreId, by rw [setCore0Pc_core0_pc, hphase]; exact hs.phase⟩
  | acquire hfree hbefore hafter hphase =>
      refine ⟨hs.coreId, ?_⟩
      rcases hphase with hphase | ⟨-, hphase⟩
      · exact hphase ▸ hs.phase
      · exact hphase ▸ nofun
  | release hbefore hafter hphase => exact ⟨hs.coreId, hphase ▸ hs.phase⟩
  | clear hpc => exact ⟨hs.coreId, hs.phase_clear hpc ▸ hs.phase⟩
  | @readFlag timedOut hpc => exact ⟨hs.coreId, by cases timedOut <;> nofun⟩
  | _ => exact ⟨hs.coreId, nofun⟩

theorem OfProcessor.apStep {mode : UnlockMode} {choice : ApChoice} {s t : Pair}
    (hs : s.OfProcessor) (hstep : s.apStep mode choice = some t) : t.OfProcessor := by
  cases apEffect hstep <;> exact ⟨hs.coreId, hs.phase⟩

theorem OfProcessor.step {mode : UnlockMode} {label : Label} {s t : Pair}
    (hs : s.OfProcessor) (hstep : Pair.step mode label s = some t) : t.OfProcessor := by
  cases label with
  | core0 choice => exact hs.core0Step hstep
  | ap choice => exact hs.apStep hstep

end Pair

end AngryUefi
