import AngryUefi.Cores.Effects
import AngryUefi.Lib.Transition

/-!
# Back to the spin loop after a fault

A job leaves the main loop through a fault handler at any point, and
`core_main_loop_stub_recovery` enters `core_main_loop` again.  Here RSP is
whatever the compiled code, the job and the handler make it; only the two
assembly stubs say what it is.  Machine code may write the part of the context
that assembly stubs use, except the saved stack pointer and the pointer to the
fault information.
-/

namespace AngryUefi

open AngryUefi.Bytes AngryUefi.Transition

/-- The context fields that machine code may write. -/
structure StubFields where
  resultBuffer : Memory
  resultBufferLen : UInt64
  currentMachineCodeSlotAddress : UInt64
  currentMicrocodeSlotAddress : UInt64
  retGpfValue : UInt64
  retRdtscValue : UInt64

def CoreContext.setStubFields (context : CoreContext) (fields : StubFields) : CoreContext :=
  { context with
    resultBuffer := fields.resultBuffer
    resultBufferLen := fields.resultBufferLen
    currentMachineCodeSlotAddress := fields.currentMachineCodeSlotAddress
    currentMicrocodeSlotAddress := fields.currentMicrocodeSlotAddress
    retGpfValue := fields.retGpfValue
    retRdtscValue := fields.retRdtscValue }

namespace ApPc

/-- Looking for a job, in the endless loop of `core_main_loop`.  An attempt of
`handle_job` to take the lock that finds it taken is one more round. -/
def spins : ApPc → Bool
  | spin | spinLock | spinQueued | jobTryLock => true
  | _ => false

/-- One of the stubs that jump to `core_main_loop`. -/
def isStub : ApPc → Bool
  | stubWrapper | stubRecovery => true
  | _ => false

/-- The job that was accepted last has just ended, by a return or by a fault. -/
def endsJob : ApPc → Bool
  | jobSetReady | stubRecovery => true
  | _ => false

/-- No job has been accepted since the last one ended. -/
def rests (pc : ApPc) : Prop := pc.phase ≠ .running ∨ pc.endsJob = true

def inMachineCode : ApPc → Bool
  | body _ (.machineCode _ _) => true
  | _ => false

end ApPc

/-- An access by which core 0 places a job or looks whether it is done. -/
def Core0Pc.queues : Core0Pc → Bool
  | jobTryLock | write _ | waitTryLock _ | unlockStore _ | unlockCompareExchange _ => true
  | _ => false

namespace Pair

/-- Who moves.  `rsp` is what the processor's step makes of RSP unless a stub
determines it. -/
inductive RecoveryLabel
  | core0 (choice : Core0Choice)
  | ap (choice : ApChoice) (rsp : UInt64)
  | machineCode (fields : StubFields)

def recoveryStep : RecoveryLabel → Pair → Option Pair
  | .core0 choice, s => s.core0Step .twoStep choice
  | .ap choice rsp, s =>
      (s.apStep .twoStep choice).map fun t =>
        { t with ap := { t.ap with rsp := if s.ap.pc.isStub then t.ap.rsp else rsp } }
  | .machineCode fields, s =>
      if s.ap.pc.inMachineCode then
        some { s with context := s.context.setStubFields fields }
      else none

/-- Core 0's next access changes the context. -/
def core0Writes (s : Pair) : Bool :=
  match s.core0.pc with
  | .jobTryLock | .waitTryLock _ | .startTryLock => s.context.lock == 0
  | .unlockCompareExchange _ => s.context.lock == 1
  | .write _ | .bootClearReady | .bootClearQueued | .bootCallFunctions | .bootSetReady
  | .startFaultInfo | .startCr3 | .unlockStore _ => true
  | _ => false

/-- Core 0 writes to the context only to queue a job, and only while the
processor is in its spin loop. -/
def QueuesWhileSpinning (s : Pair) : RecoveryLabel → Prop
  | .core0 _ => s.core0Writes = true → s.core0.pc.queues = true ∧ s.ap.pc.spins = true
  | _ => True

instance (s : Pair) : DecidablePred s.QueuesWhileSpinning
  | .core0 _ => inferInstanceAs (Decidable (_ → _))
  | .ap _ _ => inferInstanceAs (Decidable True)
  | .machineCode _ => inferInstanceAs (Decidable True)

/-- The processor enters `core_main_loop_stub_wrapper` for the first time, with
this RSP and with the lock that `start_core` took. -/
structure AtWrapper (saved : UInt64) (s : Pair) : Prop where
  coreId : s.coreId ≠ 0
  core0 : ∃ result, s.core0.pc = .returned result
  ap : s.ap.pc = .stubWrapper
  rsp : s.ap.rsp = saved
  lock : s.context.lock = 1
  faultInfo : s.context.faultInfo = some .zero

/-! ## The invariant -/

/-- What holds of the flags, the stack pointers and the lock at each access of
the processor. -/
def Expects (saved rsp : UInt64) (context : CoreContext) : ApPc → Prop
  | .off | .entryPoint => False
  | .stubWrapper => rsp = saved ∧ context.lock = 1
  | .writeIdt => context.recoveryRsp = saved ∧ rsp = saved ∧ context.lock = 1
  | .storeCr3 | .initIbs | .setStarted | .stubRecovery =>
      context.recoveryRsp = saved ∧ context.lock = 1
  | .setReady => context.recoveryRsp = saved ∧ context.lock = 1 ∧ context.started = 1
  | .clearJobQueued | .jobRecheck =>
      context.recoveryRsp = saved ∧ context.lock = 1 ∧ context.started = 1 ∧
        context.ready = 1
  | .unlockStore =>
      context.recoveryRsp = saved ∧ context.lock = 1 ∧ context.started = 1 ∧
        context.ready = 1 ∧ context.jobQueued = 0
  | .unlockCompareExchange =>
      context.recoveryRsp = saved ∧ context.lock = 0 ∧ context.started = 1 ∧
        context.ready = 1 ∧ context.jobQueued = 0
  | .spin | .spinLock | .spinQueued | .jobTryLock =>
      context.recoveryRsp = saved ∧ context.started = 1 ∧ context.ready = 1
  | .jobClearReady | .jobClearQueued =>
      context.recoveryRsp = saved ∧ context.lock = 1 ∧ context.started = 1
  | .jobReadFault | .jobZeroFault | .call _ | .callArg _ _ | .body _ _ | .jobSetReady
  | .handlerStore _ _ _ _ | .handlerOccured _ _ _ | .handlerNumber _ _ _ =>
      context.recoveryRsp = saved ∧ context.lock = 1 ∧ context.started = 1 ∧
        context.jobQueued = 0

/-- A fault record without `fault_occured` is all zero, unless a handler is
writing it. -/
def RecordSound (faultInfo : Option CoreFaultInfo) : ApPc → Prop
  | .call 0 => faultInfo = some .zero
  | .handlerOccured _ _ _ => faultInfo.isSome = true
  | .handlerNumber _ _ _ => ∃ info, faultInfo = some info ∧ info.faultOccured ≠ 0
  | _ => ∃ info, faultInfo = some info ∧ (info.faultOccured = 0 → info = .zero)

structure Recoverable (saved : UInt64) (s : Pair) : Prop where
  ofProcessor : s.OfProcessor
  expects : Expects saved s.ap.rsp s.context s.ap.pc
  record : RecordSound s.context.faultInfo s.ap.pc
  apLock : s.ap.pc.holds = true → s.core0.pc.holds = false
  core0Lock : s.core0.pc.holds = true → s.context.lock = 1

theorem AtWrapper.recoverable {saved : UInt64} {s : Pair} (hwrapper : s.AtWrapper saved) :
    s.Recoverable saved := by
  obtain ⟨result, hpc⟩ := hwrapper.core0
  have hholds : s.core0.pc.holds = false := by rw [hpc]; rfl
  constructor
  case ofProcessor => exact ⟨hwrapper.coreId, by rw [hpc]; nofun⟩
  case expects =>
    rw [hwrapper.ap]
    exact ⟨hwrapper.rsp, hwrapper.lock⟩
  case record =>
    rw [hwrapper.ap]
    exact ⟨.zero, hwrapper.faultInfo, fun _ => rfl⟩
  case apLock => exact fun _ => hholds
  case core0Lock =>
    intro hnow
    rw [hholds] at hnow
    cases hnow

/-! ## Core 0 -/

/-- The fields that recovery rests on, apart from the lock and the queue. -/
structure SameRecovery (before after : CoreContext) : Prop where
  recoveryRsp : after.recoveryRsp = before.recoveryRsp
  started : after.started = before.started
  ready : after.ready = before.ready
  faultInfo : after.faultInfo = before.faultInfo

theorem sameRecovery_write (write : ContextWrite) (context : CoreContext) :
    SameRecovery context (write.apply context) := by
  cases write <;> exact ⟨rfl, rfl, rfl, rfl⟩

theorem sameRecovery_compareExchange (context : CoreContext) (compare exchange : UInt64) :
    SameRecovery context (compareExchange context compare exchange).2 := by
  rw [compareExchange_snd]
  exact ⟨rfl, rfl, rfl, rfl⟩

/-- Whatever core 0 does to place a job leaves these fields alone. -/
theorem sameRecovery_core0Step {mode : UnlockMode} {choice : Core0Choice} {s t : Pair}
    (hqueues : s.core0.pc.queues = true) (hstep : s.core0Step mode choice = some t) :
    SameRecovery s.context t.context := by
  have heffect := contextEffect hstep
  generalize t.context = context at heffect ⊢
  cases heffect with
  | @fill write => exact sameRecovery_write write s.context
  | acquire => exact sameRecovery_compareExchange s.context _ _
  | clear => exact sameRecovery_compareExchange s.context _ _
  | clearReady hpc => simp [hpc, Core0Pc.queues] at hqueues
  | clearQueued hpc => simp [hpc, Core0Pc.queues] at hqueues
  | ranOnBootCore hpc => simp [hpc, Core0Pc.queues] at hqueues
  | setReady hpc => simp [hpc, Core0Pc.queues] at hqueues
  | allocateFaultInfo hpc => simp [hpc, Core0Pc.queues] at hqueues
  | setCr3 hpc => simp [hpc, Core0Pc.queues] at hqueues
  | _ => exact ⟨rfl, rfl, rfl, rfl⟩

theorem compareExchange_eq {context : CoreContext} {compare exchange : UInt64}
    (hother : context.lock ≠ compare) :
    (compareExchange context compare exchange).2 = context := by
  simp [compareExchange, hother]

theorem context_core0Step {mode : UnlockMode} {choice : Core0Choice} {s t : Pair}
    (hreads : s.core0Writes = false) (hstep : s.core0Step mode choice = some t) :
    t.context = s.context := by
  have heffect := contextEffect hstep
  generalize t.context = context at heffect ⊢
  cases heffect with
  | same => rfl
  | acquire hpc =>
      apply compareExchange_eq
      rcases hpc with hpc | ⟨iterations, hpc⟩ | hpc
      all_goals simpa [core0Writes, hpc] using hreads
  | clear hpc => exact compareExchange_eq (by simpa [core0Writes, hpc] using hreads)
  | fill hpc => simp [core0Writes, hpc] at hreads
  | queue hpc => simp [core0Writes, hpc] at hreads
  | clearReady hpc => simp [core0Writes, hpc] at hreads
  | clearQueued hpc => simp [core0Writes, hpc] at hreads
  | ranOnBootCore hpc => simp [core0Writes, hpc] at hreads
  | setReady hpc => simp [core0Writes, hpc] at hreads
  | allocateFaultInfo hpc => simp [core0Writes, hpc] at hreads
  | setCr3 hpc => simp [core0Writes, hpc] at hreads
  | release hpc => simp [core0Writes, hpc] at hreads

/-- Core 0 moves the processor only when it has not been started. -/
theorem ap_core0Step {mode : UnlockMode} {choice : Core0Choice} {s t : Pair}
    (hs : s.OfProcessor) (hstarted : s.ap.pc ≠ .off)
    (hstep : s.core0Step mode choice = some t) : t.ap = s.ap := by
  cases core0Effect hs.coreId hs.phase hstep with
  | request request => cases request <;> rfl
  | handOver rsp hpc hap => exact absurd hap hstarted
  | _ => rfl

/-- Where core 0 may write, the processor expects nothing of the lock and of
the queue. -/
theorem Expects.congr {saved rsp : UInt64} {before after : CoreContext} {pc : ApPc}
    (hexpects : Expects saved rsp before pc) (hspins : pc.spins = true)
    (hsame : SameRecovery before after) : Expects saved rsp after pc := by
  cases pc with
  | spin | spinLock | spinQueued | jobTryLock =>
      obtain ⟨hsaved, hstarted, hready⟩ := hexpects
      exact ⟨hsame.recoveryRsp.trans hsaved, hsame.started.trans hstarted,
        hsame.ready.trans hready⟩
  | _ => cases hspins

theorem Expects.lock {saved rsp : UInt64} {context : CoreContext} {pc : ApPc}
    (hexpects : Expects saved rsp context pc) (hholds : pc.holds = true) :
    context.lock = 1 := by
  cases pc with
  | off | entryPoint => exact hexpects.elim
  | spin | spinLock | spinQueued | jobTryLock | unlockCompareExchange => cases hholds
  | stubWrapper | storeCr3 | initIbs | setStarted | stubRecovery =>
      exact hexpects.2
  | writeIdt => exact hexpects.2.2
  | _ => exact hexpects.2.1

theorem holds_core0Step {mode : UnlockMode} {choice : Core0Choice} {s t : Pair}
    (hs : s.OfProcessor) (hlock : s.context.lock ≠ 0) (hbefore : s.core0.pc.holds = false)
    (hstep : s.core0Step mode choice = some t) : t.core0.pc.holds = false := by
  cases core0Effect hs.coreId hs.phase hstep with
  | request request hpc => cases request <;> rfl
  | elsewhere stack hpc => exact hbefore
  | look hphase hholds => exact hholds.trans hbefore
  | acquire hfree => exact absurd hfree hlock
  | release hholds hafter => exact hafter
  | clear hpc => exact AfterUnlock.holds_pc _ _
  | refuse hphase hholds =>
      rw [hholds] at hbefore
      cases hbefore
  | fill hpc | write hpc | queue hpc | finish hpc | allocateFaultInfo hpc | setCr3 value hpc =>
      rw [hpc] at hbefore
      cases hbefore
  | _ => rfl

theorem lock_write (write : ContextWrite) (context : CoreContext) :
    (write.apply context).lock = context.lock := by
  cases write <;> rfl

theorem lock_core0Step {mode : UnlockMode} {choice : Core0Choice} {s t : Pair}
    (hs : s.OfProcessor) (hbefore : s.core0.pc.holds = true → s.context.lock = 1)
    (hstep : s.core0Step mode choice = some t) :
    t.core0.pc.holds = true → t.context.lock = 1 := by
  intro hnow
  cases core0Effect hs.coreId hs.phase hstep with
  | request request hpc => cases request <;> cases hnow
  | elsewhere stack hpc => exact hbefore hnow
  | look hphase hholds => exact hbefore (hholds.symm.trans hnow)
  | acquire hfree => rfl
  | release hholds hafter =>
      rw [setCore0Pc_core0_pc, hafter] at hnow
      cases hnow
  | clear hpc =>
      rw [setCore0Pc_core0_pc, AfterUnlock.holds_pc] at hnow
      cases hnow
  | refuse hphase hholds => exact hbefore hholds
  | write hpc =>
      rw [lock_write]
      exact hbefore (by rw [hpc]; rfl)
  | fill hpc | queue hpc | finish hpc | allocateFaultInfo hpc | setCr3 value hpc =>
      exact hbefore (by rw [hpc]; rfl)
  | _ => cases hnow

/-- Core 0 leaves the processor alone, and what recovery rests on. -/
theorem Recoverable.frame {saved : UInt64} {choice : Core0Choice} {s t : Pair}
    (hs : s.Recoverable saved)
    (hqueues : s.core0Writes = true → s.core0.pc.queues = true ∧ s.ap.pc.spins = true)
    (hstep : s.core0Step .twoStep choice = some t) :
    t.ap = s.ap ∧ (t.context = s.context ∨
      s.ap.pc.spins = true ∧ SameRecovery s.context t.context) := by
  have hstarted : s.ap.pc ≠ .off := by
    intro hoff
    have hexpects := hs.expects
    rw [hoff] at hexpects
    exact hexpects
  refine ⟨ap_core0Step hs.ofProcessor hstarted hstep, ?_⟩
  cases hwrites : s.core0Writes with
  | false => exact .inl (context_core0Step hwrites hstep)
  | true =>
      have hallowed := hqueues hwrites
      exact .inr ⟨hallowed.2, sameRecovery_core0Step hallowed.1 hstep⟩

theorem Recoverable.frame_core0Step {saved : UInt64} {choice : Core0Choice} {s t : Pair}
    (hs : s.Recoverable saved)
    (hqueues : s.core0Writes = true → s.core0.pc.queues = true ∧ s.ap.pc.spins = true)
    (hstep : s.core0Step .twoStep choice = some t) :
    t.ap = s.ap ∧ t.context.faultInfo = s.context.faultInfo := by
  obtain ⟨hap, hcontext⟩ := hs.frame hqueues hstep
  refine ⟨hap, ?_⟩
  rcases hcontext with hsame | ⟨-, hsame⟩
  · rw [hsame]
  · exact hsame.faultInfo

theorem Recoverable.core0Step {saved : UInt64} {choice : Core0Choice} {s t : Pair}
    (hs : s.Recoverable saved)
    (hqueues : s.core0Writes = true → s.core0.pc.queues = true ∧ s.ap.pc.spins = true)
    (hstep : s.core0Step .twoStep choice = some t) : t.Recoverable saved := by
  obtain ⟨hap, hcontext⟩ := hs.frame hqueues hstep
  have hfaultInfo := (hs.frame_core0Step hqueues hstep).2
  constructor
  case ofProcessor => exact hs.ofProcessor.core0Step hstep
  case expects =>
    rw [hap]
    rcases hcontext with hsame | ⟨hspins, hsame⟩
    · rw [hsame]
      exact hs.expects
    · exact hs.expects.congr hspins hsame
  case record =>
    rw [hap, hfaultInfo]
    exact hs.record
  case apLock =>
    rw [hap]
    intro hholds
    have hlock : s.context.lock ≠ 0 := by
      rw [hs.expects.lock hholds]
      decide
    exact holds_core0Step hs.ofProcessor hlock (hs.apLock hholds) hstep
  case core0Lock => exact lock_core0Step hs.ofProcessor hs.core0Lock hstep

/-! ## The processor -/

/-- What a step of the processor leads to, whatever it makes of RSP. -/
structure Resumes (saved : UInt64) (s t : Pair) : Prop where
  expects : ∀ rsp, (s.ap.pc.isStub = true → rsp = t.ap.rsp) →
    Expects saved rsp t.context t.ap.pc
  record : RecordSound t.context.faultInfo t.ap.pc

theorem resumes_bodyStep {saved : UInt64} {frame : CallFrame} {pc : BodyPc} {choice : ApChoice}
    {s t : Pair} (hs : s.Recoverable saved) (hpc : s.ap.pc = .body frame pc)
    (hstep : s.bodyStep frame pc choice = some t) : Resumes saved s t := by
  have hexpects := hs.expects
  have hrecord := hs.record
  rw [hpc] at hexpects hrecord
  cases pc
  all_goals cases choice
  all_goals simp only [bodyStep, reduceCtorEq, Option.some.injEq] at hstep
  all_goals subst hstep
  all_goals exact ⟨fun _ _ => hexpects, hrecord⟩

theorem resumes_handlerNumber {saved : UInt64} {choice : ApChoice} {s t : Pair}
    {frame : CallFrame} {pc : BodyPc} {vector : UInt64}
    (hs : s.Recoverable saved) (hpc : s.ap.pc = .handlerNumber frame pc vector)
    (hstep : s.apStep .twoStep choice = some t) : Resumes saved s t := by
  have hexpects := hs.expects
  have hrecord := hs.record
  rw [hpc] at hexpects hrecord
  obtain ⟨info, hinfo, hoccured⟩ := hrecord
  unfold apStep at hstep
  rw [hpc] at hstep
  cases choice
  all_goals simp only [reduceCtorEq, Option.some.injEq] at hstep
  subst hstep
  have hsome : (s.context.faultInfo.map fun old => { old with faultNumber := vector }) =
      some { info with faultNumber := vector } := by
    rw [hinfo]
    rfl
  have hfresh : ∃ info, (s.context.faultInfo.map fun old =>
      { old with faultNumber := vector }) = some info ∧ (info.faultOccured = 0 → info = .zero) :=
    ⟨_, hsome, fun hzero => absurd hzero hoccured⟩
  obtain ⟨hsaved, hlock, hstarted, hqueued⟩ := hexpects
  simp only [afterHandler]
  split
  · exact ⟨fun _ _ => ⟨hsaved, hlock, hstarted, hqueued⟩, hfresh⟩
  · split
    · exact ⟨fun _ _ => ⟨hsaved, hlock, hstarted, hqueued⟩, hfresh⟩
    · exact ⟨fun _ _ => ⟨hsaved, hlock⟩, hfresh⟩

theorem resumes_apStep {saved : UInt64} {choice : ApChoice} {s t : Pair}
    (hs : s.Recoverable saved) (hstep : s.apStep .twoStep choice = some t) :
    Resumes saved s t := by
  have hexpects := hs.expects
  have hrecord := hs.record
  have htaken := hstep
  unfold apStep at hstep
  cases hpc : s.ap.pc
  all_goals rw [hpc] at hstep
  case body frame pc =>
    exact resumes_bodyStep hs hpc hstep
  case handlerNumber frame pc vector => exact resumes_handlerNumber hs hpc htaken
  all_goals rw [hpc] at hexpects hrecord
  all_goals cases choice
  all_goals simp only [reduceCtorEq, Option.some.injEq] at hstep
  all_goals subst hstep
  case entryPoint.next => exact hexpects.elim
  case stubWrapper.next =>
    obtain ⟨hrsp, hlock⟩ := hexpects
    refine ⟨fun rsp hstub => ⟨hrsp, ?_, hlock⟩, hrecord⟩
    rw [hstub (by rw [hpc]; rfl)]
    exact hrsp
  case writeIdt.next => exact ⟨fun _ _ => ⟨hexpects.1, hexpects.2.2⟩, hrecord⟩
  case setStarted.next => exact ⟨fun _ _ => ⟨hexpects.1, hexpects.2, rfl⟩, hrecord⟩
  case setReady.next =>
    exact ⟨fun _ _ => ⟨hexpects.1, hexpects.2.1, hexpects.2.2, rfl⟩, hrecord⟩
  case clearJobQueued.next =>
    obtain ⟨hsaved, hlock, hstarted, hready⟩ := hexpects
    exact ⟨fun _ _ => ⟨hsaved, hlock, hstarted, hready, rfl⟩, hrecord⟩
  case spinLock.next => split <;> exact ⟨fun _ _ => hexpects, hrecord⟩
  case spinQueued.next => split <;> exact ⟨fun _ _ => hexpects, hrecord⟩
  case jobTryLock.next =>
    obtain ⟨hsaved, hstarted, hready⟩ := hexpects
    by_cases hfree : s.context.lock = 0
    · simp only [compareExchange_free hfree, if_true]
      exact ⟨fun _ _ => ⟨hsaved, rfl, hstarted, hready⟩, hrecord⟩
    · simp only [compareExchange_taken hfree, if_neg hfree]
      exact ⟨fun _ _ => ⟨hsaved, hstarted, hready⟩, hrecord⟩
  case jobRecheck.next =>
    obtain ⟨hsaved, hlock, hstarted, hready⟩ := hexpects
    split
    · rename_i hqueued
      exact ⟨fun _ _ => ⟨hsaved, hlock, hstarted, hready, hqueued⟩, hrecord⟩
    · exact ⟨fun _ _ => ⟨hsaved, hlock, hstarted⟩, hrecord⟩
  case jobClearQueued.next =>
    obtain ⟨hsaved, hlock, hstarted⟩ := hexpects
    exact ⟨fun _ _ => ⟨hsaved, hlock, hstarted, rfl⟩, hrecord⟩
  case jobReadFault.next =>
    split
    · exact ⟨fun _ _ => hexpects, hrecord⟩
    · rename_i hclear
      refine ⟨fun _ _ => hexpects, ?_⟩
      obtain ⟨info, hinfo, hzero⟩ := hrecord
      simp only [CoreContext.faultOccured, hinfo, not_not] at hclear
      exact hinfo.trans (congrArg some (hzero hclear))
  case jobZeroFault.next =>
    refine ⟨fun _ _ => hexpects, ?_⟩
    obtain ⟨info, hinfo, -⟩ := hrecord
    change s.context.faultInfo.map (fun _ => CoreFaultInfo.zero) = some .zero
    rw [hinfo]
    rfl
  case call.next slot =>
    have hkept : ∃ info, s.context.faultInfo = some info ∧
        (info.faultOccured = 0 → info = .zero) := by
      cases slot with
      | zero => exact ⟨.zero, hrecord, fun _ => rfl⟩
      | succ slot => exact hrecord
    split
    · split <;> exact ⟨fun _ _ => hexpects, hkept⟩
    · exact ⟨fun _ _ => hexpects, hkept⟩
  case jobSetReady.next =>
    obtain ⟨hsaved, hlock, hstarted, hqueued⟩ := hexpects
    exact ⟨fun _ _ => ⟨hsaved, hlock, hstarted, rfl, hqueued⟩, hrecord⟩
  case handlerStore.next frame pc vector info =>
    refine ⟨fun _ _ => hexpects, ?_⟩
    obtain ⟨old, hold, -⟩ := hrecord
    change (s.context.faultInfo.map _).isSome = true
    rw [hold]
    rfl
  case handlerOccured.next frame pc vector =>
    refine ⟨fun _ _ => hexpects, ?_⟩
    obtain ⟨old, hold⟩ := Option.isSome_iff_exists.mp hrecord
    refine ⟨{ old with faultOccured := 1 }, ?_, (by decide : (1 : UInt64) ≠ 0)⟩
    change s.context.faultInfo.map (fun old => { old with faultOccured := 1 }) = _
    rw [hold]
    rfl
  case stubRecovery.next =>
    obtain ⟨hsaved, hlock⟩ := hexpects
    refine ⟨fun rsp hstub => ⟨hsaved, ?_, hlock⟩, hrecord⟩
    rw [hstub (by rw [hpc]; rfl)]
    exact hsaved
  case unlockStore.next =>
    obtain ⟨hsaved, -, hstarted, hready, hqueued⟩ := hexpects
    exact ⟨fun _ _ => ⟨hsaved, rfl, hstarted, hready, hqueued⟩, hrecord⟩
  case unlockCompareExchange.next =>
    obtain ⟨hsaved, hlock, hstarted, hready, -⟩ := hexpects
    have hother : s.context.lock ≠ 1 := by
      rw [hlock]
      decide
    rw [compareExchange_eq hother]
    exact ⟨fun _ _ => ⟨hsaved, hstarted, hready⟩, hrecord⟩
  all_goals exact ⟨fun _ _ => hexpects, hrecord⟩

/-- The lock changes hands as the processor's own steps say. -/
theorem locks_apStep {saved : UInt64} {choice : ApChoice} {s t : Pair}
    (hs : s.Recoverable saved) (hstep : s.apStep .twoStep choice = some t) :
    (t.ap.pc.holds = true → t.core0.pc.holds = false) ∧
      (t.core0.pc.holds = true → t.context.lock = 1) := by
  have hfree : s.context.lock = 0 → s.core0.pc.holds = false := by
    intro hzero
    by_contra hholds
    have hone := hs.core0Lock (by simpa using hholds)
    rw [hone] at hzero
    cases hzero
  have hclear : s.ap.pc.holds = true → s.core0.pc.holds = true → False := by
    intro hheld hholds
    rw [hs.apLock hheld] at hholds
    cases hholds
  cases apEffect hstep with
  | look hsame hphase hoff hholds =>
      refine ⟨fun hnow => hs.apLock (hholds.symm.trans hnow), fun hnow => ?_⟩
      exact hsame.lock.trans (hs.core0Lock hnow)
  | acquire hpc hzero => exact ⟨fun _ => hfree hzero, fun _ => rfl⟩
  | release hpc => exact ⟨fun _ => hs.apLock (by rw [hpc]; rfl), fun hnow =>
      (hclear (by rw [hpc]; rfl) hnow).elim⟩
  | clear hpc =>
      have hexpects := hs.expects
      rw [hpc] at hexpects
      refine ⟨fun hnow => absurd hnow nofun, fun hnow => ?_⟩
      rw [setApPc_core0, hfree hexpects.2.1] at hnow
      cases hnow
  | storeFault hbefore hafter hholds =>
      exact ⟨fun hnow => hs.apLock (hholds.symm.trans hnow), hs.core0Lock⟩
  | compute hpc hsame =>
      exact ⟨fun _ => hs.apLock (by rw [hpc]; rfl), fun hnow =>
        hsame.lock.trans (hs.core0Lock hnow)⟩
  | take hpc | clearQueued hpc | accept hpc | own hpc | zero hpc | recordFault hpc
  | endReturn hpc | endRecovery hpc =>
      exact ⟨fun _ => hs.apLock (by rw [hpc]; rfl), hs.core0Lock⟩

theorem Recoverable.recoveryStep {saved : UInt64} {label : RecoveryLabel} {s t : Pair}
    (hs : s.Recoverable saved) (hqueues : s.QueuesWhileSpinning label)
    (hstep : Pair.recoveryStep label s = some t) : t.Recoverable saved := by
  cases label with
  | core0 choice => exact hs.core0Step hqueues hstep
  | machineCode fields =>
      simp only [Pair.recoveryStep, Option.ite_none_right_eq_some, Option.some.injEq] at hstep
      obtain ⟨hmachine, rfl⟩ := hstep
      have hexpects := hs.expects
      have hrecord := hs.record
      refine ⟨⟨hs.ofProcessor.coreId, hs.ofProcessor.phase⟩, ?_, ?_, hs.apLock, hs.core0Lock⟩
      · cases hpc : s.ap.pc with
        | body frame pc =>
            rw [hpc] at hexpects
            exact hexpects
        | _ => simp [hpc, ApPc.inMachineCode] at hmachine
      · exact hrecord
  | ap choice rsp =>
      simp only [Pair.recoveryStep, Option.map_eq_some_iff] at hstep
      obtain ⟨u, hu, rfl⟩ := hstep
      have hresumes := resumes_apStep hs hu
      have hlocks := locks_apStep hs hu
      have hprocessor := hs.ofProcessor.apStep hu
      exact ⟨⟨hprocessor.coreId, hprocessor.phase⟩,
        hresumes.expects _ fun hstub => if_pos hstub, hresumes.record,
        hlocks.1, hlocks.2⟩

/-! ## Entering the spin loop, and the record of a fault -/

/-- The spin loop is entered from the second operation of `unlock_context`
only. -/
theorem pc_of_spins {choice : ApChoice} {s t : Pair} (houtside : s.ap.pc.spins = false)
    (hinside : t.ap.pc.spins = true) (hstep : s.apStep .twoStep choice = some t) :
    s.ap.pc = .unlockCompareExchange ∧ t.context = (compareExchange s.context 1 0).2 := by
  unfold apStep at hstep
  cases hpc : s.ap.pc
  all_goals rw [hpc] at hstep
  case body frame pc =>
    cases pc
    all_goals cases choice
    all_goals simp only [bodyStep, reduceCtorEq, Option.some.injEq] at hstep
    all_goals subst hstep
    all_goals cases hinside
  all_goals simp only [hpc, ApPc.spins, Bool.true_eq_false] at houtside
  all_goals cases choice
  all_goals simp only [reduceCtorEq, Option.some.injEq] at hstep
  all_goals subst hstep
  case unlockCompareExchange.next => exact ⟨rfl, rfl⟩
  case jobRecheck.next =>
    revert hinside
    split <;> rintro ⟨⟩
  case jobReadFault.next =>
    revert hinside
    split <;> rintro ⟨⟩
  case call.next =>
    revert hinside
    split
    · split <;> rintro ⟨⟩
    · rintro ⟨⟩
  case handlerNumber.next =>
    revert hinside
    simp only [afterHandler]
    split
    · rintro ⟨⟩
    · split <;> rintro ⟨⟩
  all_goals cases hinside

theorem accepted_core0Step {mode : UnlockMode} {choice : Core0Choice} {s t : Pair}
    (hs : s.OfProcessor) (hstep : s.core0Step mode choice = some t) :
    t.history.accepted = s.history.accepted := by
  cases core0Effect hs.coreId hs.phase hstep with
  | request request => cases request <;> rfl
  | _ => rfl

theorem accepted_apStep {mode : UnlockMode} {choice : ApChoice} {s t : Pair}
    (hstep : s.apStep mode choice = some t) :
    t.history.accepted = s.history.accepted ∨
      t.history.accepted = s.lastJob :: s.history.accepted := by
  cases apEffect hstep with
  | accept hpc => exact .inr rfl
  | _ => exact .inl rfl

theorem faultInfo_apStep {mode : UnlockMode} {choice : ApChoice} {s t : Pair}
    (hrests : s.ap.pc.rests) (hstep : s.apStep mode choice = some t)
    (haccepted : t.history.accepted = s.history.accepted) :
    t.context.faultInfo = s.context.faultInfo ∧ t.ap.pc.rests := by
  by_cases hpc : s.ap.pc = .stubRecovery
  · unfold apStep at hstep
    rw [hpc] at hstep
    cases choice
    all_goals simp only [reduceCtorEq, Option.some.injEq] at hstep
    subst hstep
    exact ⟨rfl, .inl nofun⟩
  have hphase : s.ap.pc.phase ≠ .running := by
    rcases hrests with hphase | hends
    · exact hphase
    · generalize s.ap.pc = pc at *
      cases pc with
      | jobSetReady => nofun
      | stubRecovery => exact absurd rfl hpc
      | _ => cases hends
  cases apEffect hstep with
  | look hsame hkept => exact ⟨hsame.faultInfo, .inl (hkept ▸ hphase)⟩
  | accept hnow => exact absurd haccepted (by simp)
  | own hnow | zero hnow | compute hnow | recordFault hnow | endReturn hnow =>
      exact absurd (by rw [hnow]; rfl) hphase
  | storeFault hbefore => exact absurd hbefore.1 hphase
  | endRecovery hnow => exact absurd hnow hpc
  | release hnow hafter => exact ⟨rfl, .inl (by rcases hafter with rfl | rfl <;> nofun)⟩
  | _ => exact ⟨rfl, .inl nofun⟩

theorem Recoverable.faultInfo_recoveryStep {saved : UInt64} {label : RecoveryLabel} {s t : Pair}
    (hs : s.Recoverable saved) (hqueues : s.QueuesWhileSpinning label)
    (hrests : s.ap.pc.rests) (hstep : Pair.recoveryStep label s = some t)
    (haccepted : t.history.accepted = s.history.accepted) :
    t.context.faultInfo = s.context.faultInfo ∧ t.ap.pc.rests := by
  cases label with
  | core0 choice =>
      have hcore0 := hs.frame_core0Step hqueues hstep
      exact ⟨hcore0.2, hcore0.1 ▸ hrests⟩
  | machineCode fields =>
      simp only [Pair.recoveryStep, Option.ite_none_right_eq_some, Option.some.injEq] at hstep
      obtain ⟨-, rfl⟩ := hstep
      exact ⟨rfl, hrests⟩
  | ap choice rsp =>
      simp only [Pair.recoveryStep, Option.map_eq_some_iff] at hstep
      obtain ⟨u, hu, rfl⟩ := hstep
      exact faultInfo_apStep (t := u) hrests hu haccepted

theorem Recoverable.accepted_recoveryStep {saved : UInt64} {label : RecoveryLabel} {s t : Pair}
    (hs : s.Recoverable saved) (hstep : Pair.recoveryStep label s = some t) :
    t.history.accepted = s.history.accepted ∨
      t.history.accepted = s.lastJob :: s.history.accepted := by
  cases label with
  | core0 choice =>
      have hcore0 : s.core0Step .twoStep choice = some t := hstep
      exact .inl (accepted_core0Step hs.ofProcessor hcore0)
  | machineCode fields =>
      simp only [Pair.recoveryStep, Option.ite_none_right_eq_some, Option.some.injEq] at hstep
      obtain ⟨-, rfl⟩ := hstep
      exact .inl rfl
  | ap choice rsp =>
      simp only [Pair.recoveryStep, Option.map_eq_some_iff] at hstep
      obtain ⟨u, hu, rfl⟩ := hstep
      exact accepted_apStep (t := u) hu

/-! ## Runs -/

/-- `core_main_loop` is entered with the stack pointer that was saved at first
and with the lock held for the processor. -/
def EntersClean (saved : UInt64) (s : Pair) : Prop :=
  s.ap.pc = .writeIdt →
    s.ap.rsp = saved ∧ s.context.lock = 1 ∧ s.core0.pc.holds = false

/-- No core function has run for the accepted job yet: its fault record is
zero. -/
def CallsClean (s : Pair) : Prop :=
  s.ap.pc = .call 0 → s.context.faultInfo = some .zero

/-- A step into the spin loop finds the core idle. -/
def SpinsClean (s t : Pair) : Prop :=
  s.ap.pc.spins = false → t.ap.pc.spins = true →
    t.context.started = 1 ∧ t.context.ready = 1 ∧ t.context.jobQueued = 0 ∧
      t.context.lock = 0

/-- What a job left in `fault_info` is there until the next job is accepted. -/
def KeepsRecord (past : List (Pair × RecoveryLabel)) (s : Pair) : Prop :=
  ∀ entry ∈ past, entry.1.ap.pc.endsJob = true →
    entry.1.history.accepted = s.history.accepted →
      s.context.faultInfo = entry.1.context.faultInfo

theorem Recoverable.entersClean {saved : UInt64} {s : Pair} (hs : s.Recoverable saved) :
    s.EntersClean saved := by
  intro hpc
  have hexpects := hs.expects
  have hholds : s.ap.pc.holds = true := by rw [hpc]; rfl
  rw [hpc] at hexpects
  exact ⟨hexpects.2.1, hexpects.2.2, hs.apLock hholds⟩

theorem Recoverable.callsClean {saved : UInt64} {s : Pair} (hs : s.Recoverable saved) :
    s.CallsClean := by
  intro hpc
  have hrecord := hs.record
  rw [hpc] at hrecord
  exact hrecord

theorem Recoverable.spinsClean {saved : UInt64} {label : RecoveryLabel} {s t : Pair}
    (hs : s.Recoverable saved) (hqueues : s.QueuesWhileSpinning label)
    (hstep : Pair.recoveryStep label s = some t) : SpinsClean s t := by
  intro houtside hinside
  cases label with
  | core0 choice =>
      have hcore0 := hs.frame_core0Step hqueues hstep
      rw [hcore0.1, houtside] at hinside
      cases hinside
  | machineCode fields =>
      simp only [Pair.recoveryStep, Option.ite_none_right_eq_some, Option.some.injEq] at hstep
      obtain ⟨-, rfl⟩ := hstep
      change s.ap.pc.spins = true at hinside
      rw [houtside] at hinside
      cases hinside
  | ap choice rsp =>
      simp only [Pair.recoveryStep, Option.map_eq_some_iff] at hstep
      obtain ⟨u, hu, rfl⟩ := hstep
      obtain ⟨hpc, hcontext⟩ := pc_of_spins (t := u) houtside hinside hu
      have hexpects := hs.expects
      rw [hpc] at hexpects
      obtain ⟨-, hlock, hstarted, hready, hqueued⟩ := hexpects
      have hother : s.context.lock ≠ 1 := by
        rw [hlock]
        decide
      rw [compareExchange_eq hother] at hcontext
      simp only [hcontext]
      exact ⟨hstarted, hready, hqueued, hlock⟩

theorem always_recoverable {saved : UInt64} {past : List (Pair × RecoveryLabel)} {s : Pair}
    (hrun : Run (AtWrapper saved) recoveryStep past s)
    (hqueues : EachStep QueuesWhileSpinning past) : Always (Recoverable saved) past s := by
  refine hrun.always ?_ ?_ hqueues
  · intro s hwrapper
    exact hwrapper.recoverable
  · intro s label t hs hallowed hstep
    exact hs.recoveryStep hallowed hstep

/-- The record is in place and the processor has accepted nothing new. -/
theorem keepsRecord_rests {saved : UInt64} {past : List (Pair × RecoveryLabel)} {s : Pair}
    (hrun : Run (AtWrapper saved) recoveryStep past s)
    (heach : EachStep QueuesWhileSpinning past) :
    ∀ entry ∈ past, entry.1.history.accepted.length ≤ s.history.accepted.length ∧
      (entry.1.ap.pc.endsJob = true → entry.1.history.accepted = s.history.accepted →
        s.context.faultInfo = entry.1.context.faultInfo ∧ s.ap.pc.rests) := by
  induction hrun with
  | start hinitial =>
      intro entry hentry
      cases hentry
  | @next past s t label hearlier hstep ih =>
      rw [eachStep_cons] at heach
      have hs := (always_recoverable hearlier heach.2).1
      have hgrows := hs.accepted_recoveryStep hstep
      have hlength : s.history.accepted.length ≤ t.history.accepted.length := by
        rcases hgrows with hsame | hmore
        · rw [hsame]
        · simp [hmore]
      intro entry hentry
      rcases List.mem_cons.mp hentry with hlast | hbefore
      · have hstate : entry.1 = s := congrArg Prod.fst hlast
        rw [hstate]
        refine ⟨hlength, fun hends haccepted => ?_⟩
        have hrests : s.ap.pc.rests := .inr hends
        exact hs.faultInfo_recoveryStep heach.1 hrests hstep haccepted.symm
      · obtain ⟨hle, hkept⟩ := ih heach.2 entry hbefore
        refine ⟨hle.trans hlength, fun hends haccepted => ?_⟩
        have hsame : t.history.accepted = s.history.accepted := by
          rcases hgrows with hsame | hmore
          · exact hsame
          · rw [haccepted, hmore, List.length_cons] at hle
            omega
        have hearlierRecord := hkept hends (haccepted.trans hsame)
        have hstepRecord :=
          hs.faultInfo_recoveryStep heach.1 hearlierRecord.2 hstep hsame
        exact ⟨hstepRecord.1.trans hearlierRecord.1, hstepRecord.2⟩

/-- After any number of jobs, returned or faulted, the core is idle again. -/
theorem recovers_of_queuesWhileSpinning {saved : UInt64}
    {past : List (Pair × RecoveryLabel)} {s : Pair}
    (hrun : Run (AtWrapper saved) recoveryStep past s)
    (hqueues : EachStep QueuesWhileSpinning past) :
    Always (EntersClean saved) past s ∧ Always CallsClean past s ∧
      EachMove SpinsClean past s ∧ KeepsRecord past s := by
  have halways := always_recoverable hrun hqueues
  refine ⟨halways.mono fun _ hs => hs.entersClean, halways.mono fun _ hs => hs.callsClean,
    ?_, ?_⟩
  · refine hrun.eachMove (fun s hwrapper => AtWrapper.recoverable hwrapper) ?_ ?_ hqueues
    · intro s label t hs hallowed hstep
      exact hs.recoveryStep hallowed hstep
    · intro s label t hs hallowed hstep
      exact hs.spinsClean hallowed hstep
  · intro entry hentry hends haccepted
    exact ((keepsRecord_rests hrun hqueues entry hentry).2 hends haccepted).1

/-- Started with RSP `0x7000`, before the first instruction of the stub. -/
def wrapped : Pair :=
  { afterInit 1 with
    core0 := ⟨.returned .started, .executeMachineCode 0 0, 1⟩
    ap := ⟨.stubWrapper, 0x7000, 0⟩
    context := { initContext with lock := 1, faultInfo := some .zero } }

/-- The first start, a job whose machine code changes its own context and then
faults with RSP elsewhere, and the way back to the spin loop. -/
def faultAndRecover : List RecoveryLabel :=
  let next := .ap .next 0x6F00
  [next, next, .ap (.value 0) 0x6F00] ++ List.replicate 6 next ++
    .core0 (.request (.job (.executeMachineCode 0x1000 0))) ::
    List.replicate 20 (.core0 .next) ++
    .ap (.value 0) 0x6F00 :: List.replicate 10 next ++
    [.machineCode ⟨fun _ => 1, 0, 0, 0, 7, 7⟩, .ap (.fault 14 .zero) 0x100] ++
    List.replicate 3 (.ap .next 0x100) ++ List.replicate 2 next ++
    [.ap (.value 0) 0x6F00] ++ List.replicate 6 next

theorem recovers_of_queuesWhileSpinning_faultAndRecover :
    ∃ past t, exec (guarded QueuesWhileSpinning recoveryStep) faultAndRecover wrapped = some t ∧
      t.history.faulted = [0] ∧ t.ap.pc = .spin ∧
      Always (EntersClean 0x7000) past t ∧ Always CallsClean past t ∧
        EachMove SpinsClean past t ∧ KeepsRecord past t := by
  obtain ⟨t, hexec, hfaulted, hpc⟩ :
      ∃ t, exec (guarded QueuesWhileSpinning recoveryStep) faultAndRecover wrapped = some t ∧
        t.history.faulted = [0] ∧ t.ap.pc = .spin := ⟨_, rfl, rfl, rfl⟩
  have hwrapper : wrapped.AtWrapper 0x7000 :=
    ⟨one_ne_zero, ⟨_, rfl⟩, rfl, rfl, rfl, rfl⟩
  obtain ⟨past, hguarded⟩ := run_of_exec hwrapper _ hexec
  obtain ⟨hrun, hqueues⟩ := hguarded.of_guarded
  exact ⟨past, t, hexec, hfaulted, hpc, recovers_of_queuesWhileSpinning hrun hqueues⟩

/-- `start_core` on a core that has never run hands over such a processor. -/
theorem atWrapper_startCore {s t : Pair} {cr3 rsp : UInt64} (hbooted : s.Booted)
    (hexec : exec (Pair.step .twoStep)
      [.core0 (.request .startCore), .core0 .next, .core0 .next, .core0 .next, .core0 .next,
        .core0 (.newCr3 cr3), .core0 (.startup (some rsp)), .ap .next] s = some t) :
    t.AtWrapper rsp := by
  obtain ⟨result, hpc⟩ := hbooted.core0
  have hrequest : Pair.step .twoStep (.core0 (.request .startCore)) s =
      some (s.beginRequest .startCore) := by simp only [Pair.step, Pair.core0Step, hpc]
  replace hexec := exec_cons_of_step hrequest hexec
  by_cases hpresent : s.context.present = 1
  · have hstep : Pair.step .twoStep (.core0 .next) (s.beginRequest .startCore) =
        some ((s.beginRequest .startCore).setCore0Pc .startStarted) := by
      change some (setCore0Pc _ (if s.context.present ≠ 1 then _ else _)) = _
      rw [if_neg (by simpa using hpresent)]
    replace hexec := exec_cons_of_step hstep hexec
    have hstep : Pair.step .twoStep (.core0 .next)
        ((s.beginRequest .startCore).setCore0Pc .startStarted) =
        some ((s.beginRequest .startCore).setCore0Pc .startTryLock) := by
      change some (setCore0Pc _ (if s.context.started = 1 then _ else _)) = _
      rw [hbooted.started]
      rfl
    replace hexec := exec_cons_of_step hstep hexec
    have hstep : Pair.step .twoStep (.core0 .next)
        ((s.beginRequest .startCore).setCore0Pc .startTryLock) =
        some { (s.beginRequest .startCore).setCore0Pc .startFaultInfo with
          context := { s.context with lock := 1 } } := by
      have hfree := compareExchange_free hbooted.lock
      change some { setCore0Pc _ (if (compareExchange s.context 0 1).1 = 0 then _ else _) with
        context := (compareExchange s.context 0 1).2 } = _
      rw [hfree]
      rfl
    replace hexec := exec_cons_of_step hstep hexec
    -- the fault information, the page tables and the hand-over
    change (if s.ap.pc = .off then _ else none).bind _ = some t at hexec
    rw [if_pos hbooted.ap] at hexec
    cases hexec
    exact ⟨hbooted.coreId, ⟨_, rfl⟩, rfl, rfl, rfl, rfl⟩
  · have hstep : Pair.step .twoStep (.core0 .next) (s.beginRequest .startCore) =
        some ((s.beginRequest .startCore).setCore0Pc (.returned (.rejected 0x3))) := by
      change some (setCore0Pc _ (if s.context.present ≠ 1 then _ else _)) = _
      rw [if_pos hpresent]
    cases exec_cons_of_step hstep hexec

end Pair

end AngryUefi
