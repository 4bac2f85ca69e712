import AngryUefi.Cores.Jobs

/-!
# Core 0 and all application processors

Core 0 works on one context at a time and may turn to another between two
messages; every processor works on its own.  Seen from one context, the rest of
the machine does nothing but change the stack, so the invariants of a pair
carry over.

`handle_read_msr_on_core` passes the address of its own `buf_u32` to the
processor.  The array is gone once the handler has returned.
-/

namespace AngryUefi

open AngryUefi.Transition

/-- The handler invocation serves a job it has not yet seen done. -/
def Core0Phase.serving : Core0Phase → Bool
  | requested | checked | admitting | filling _ | waiting => true
  | _ => false

/-- The argument of the core function the processor is executing. -/
def ApPc.argument : ApPc → Argument
  | body frame _ | handlerStore frame _ _ _ | handlerOccured frame _ _
  | handlerNumber frame _ _ => frame.arg
  | _ => none

/-- `handle_read_msr_on_core` is about to give up. -/
def Core0.givesUp (core0 : Core0) : Bool :=
  match core0.pc, core0.job with
  | .waitPause iterations, .readMsrOnCore targetMsr buffer =>
      decide ((Job.readMsrOnCore targetMsr buffer).timeout ≤ iterations + 1)
  | _, _ => false

/-- Only `handle_read_msr_on_core` passes an argument. -/
theorem Job.readMsr_of_calls {job : Job} {slot : ℕ} {func : Option CoreFunction}
    {buffer : StackBuffer} (hcalls : job.calls slot = ⟨func, some buffer⟩) :
    ∃ targetMsr, job = .readMsrOnCore targetMsr buffer := by
  cases job with
  | executeMachineCode machineCode timeout =>
      cases slot <;> cases hcalls
  | applyUcodeExecuteTest ucode ucodeLength machineCode timeout options =>
      rcases slot with _ | _ | slot <;> cases hcalls
  | readMsrOnCore targetMsr other =>
      cases slot with
      | zero =>
          cases hcalls
          exact ⟨targetMsr, rfl⟩
      | succ slot => cases hcalls

theorem Core0Pc.live_of_serving {pc : Core0Pc} (hserving : pc.phase.serving = true) :
    pc.live = true := by
  cases pc <;> first | rfl | cases hserving

theorem Core0Pc.returned_of_not_live {pc : Core0Pc} (hlive : pc.live = false) :
    ∃ result, pc = .returned result := by
  cases pc <;> first | exact ⟨_, rfl⟩ | cases hlive

namespace Pair

/-- `handle_read_msr_on_core` gives up only on a job that has ended meanwhile. -/
def AnsweredInTime (s : Pair) : Label → Prop
  | .core0 _ => s.core0.givesUp = true → s.lastJob ∈ s.history.ended.map Prod.fst
  | .ap _ => True

instance (s : Pair) : DecidablePred s.AnsweredInTime
  | .core0 _ => inferInstanceAs (Decidable (_ → _))
  | .ap _ => inferInstanceAs (Decidable True)

/-- A job that reads an MSR through a handler's array is outstanding only while
that handler waits for it. -/
structure BufferInvariant (s : Pair) : Prop where
  own : s.core0.pc.phase.serving = true → ∀ targetMsr buffer,
    s.core0.job = .readMsrOnCore targetMsr buffer →
      buffer.invocation = s.core0.invocation
  pending : s.history.jobs.length = s.history.ended.length + 1 →
    ∀ targetMsr buffer,
      s.history.jobs.getLast? = some (.readMsrOnCore targetMsr buffer) →
        s.core0.pc.phase = .waiting ∧ s.core0.job = .readMsrOnCore targetMsr buffer

theorem Booted.bufferInvariant {s : Pair} (hbooted : s.Booted) : s.BufferInvariant := by
  obtain ⟨result, hpc⟩ := hbooted.core0
  constructor
  · rw [hpc]
    nofun
  · simp [hbooted.history, History.empty]

/-- A step of core 0 outside its waiting for a job. -/
theorem BufferInvariant.away {s t : Pair} (hbuffer : s.BufferInvariant)
    (hphase : s.core0.pc.phase ≠ .waiting) (hhistory : t.history.jobs = s.history.jobs)
    (hended : t.history.ended = s.history.ended) (hcore0 : t.core0.job = s.core0.job)
    (hinvocation : t.core0.invocation = s.core0.invocation)
    (hserving : t.core0.pc.phase.serving = true → s.core0.pc.phase.serving = true) :
    t.BufferInvariant := by
  refine ⟨fun hnow targetMsr buffer => ?_, fun hcount targetMsr buffer hlast => ?_⟩
  · rw [hcore0, hinvocation]
    exact hbuffer.own (hserving hnow) targetMsr buffer
  · rw [hhistory, hended] at hcount
    rw [hhistory] at hlast
    exact absurd (hbuffer.pending hcount targetMsr buffer hlast).1 hphase

theorem BufferInvariant.samePhase {s t : Pair} (hbuffer : s.BufferInvariant)
    (hphase : t.core0.pc.phase = s.core0.pc.phase)
    (hhistory : t.history.jobs = s.history.jobs)
    (hended : t.history.ended = s.history.ended) (hcore0 : t.core0.job = s.core0.job)
    (hinvocation : t.core0.invocation = s.core0.invocation) : t.BufferInvariant := by
  constructor
  all_goals simp only [hphase, hhistory, hended, hcore0, hinvocation]
  · exact hbuffer.own
  · exact hbuffer.pending

theorem BufferInvariant.core0Step {mode : UnlockMode} {choice : Core0Choice} {s t : Pair}
    (hs : s.OfProcessor) (ht : t.JobInvariant) (hbuffer : s.BufferInvariant)
    (hanswered : s.AnsweredInTime (.core0 choice)) (hprogress : s.Progress)
    (hstep : s.core0Step mode choice = some t) : t.BufferInvariant := by
  cases core0Effect hs.coreId hs.phase hstep with
  | request request hpc =>
      have hidle : s.core0.pc.phase ≠ .waiting := by
        rw [hpc]
        rintro ⟨⟩
      cases request with
      | startCore =>
          exact ⟨by rintro ⟨⟩, fun hcount targetMsr buffer hlast =>
            absurd (hbuffer.pending hcount targetMsr buffer hlast).1 hidle⟩
      | job job =>
          refine ⟨fun _ targetMsr buffer hjob => ?_, fun hcount targetMsr buffer hlast =>
            absurd (hbuffer.pending hcount targetMsr buffer hlast).1 hidle⟩
          cases job <;> cases hjob
          rfl
  | elsewhere stack hpc => exact hbuffer.samePhase rfl rfl rfl rfl rfl
  | look hphase => exact hbuffer.samePhase hphase rfl rfl rfl rfl
  | check hpc hstarted =>
      exact hbuffer.away (by rw [hpc]; rintro ⟨⟩) rfl rfl rfl rfl (by rw [hpc]; exact id)
  | checkStart hpc => exact hbuffer.away (by rw [hpc]; rintro ⟨⟩) rfl rfl rfl rfl (by rintro ⟨⟩)
  | busy hphase =>
      refine hbuffer.away (fun hwaiting => ?_) rfl rfl rfl rfl (by rintro ⟨⟩)
      simp [hwaiting] at hphase
  | acquire hfree hbefore hafter hphase =>
      rcases hphase with hphase | ⟨hchecked, hphase⟩
      · exact hbuffer.samePhase hphase rfl rfl rfl rfl
      · exact hbuffer.away (by simp [hchecked]) rfl rfl rfl rfl fun _ => by
          rw [hchecked]
          rfl
  | refuse hphase =>
      refine hbuffer.away (fun hwaiting => ?_) rfl rfl rfl rfl (by rintro ⟨⟩)
      simp [hwaiting] at hphase
  | fill hpc =>
      exact hbuffer.away (by rw [hpc]; rintro ⟨⟩) rfl rfl rfl rfl fun _ => by rw [hpc]; rfl
  | write hpc =>
      exact hbuffer.away (by rw [hpc]; rintro ⟨⟩) rfl rfl rfl rfl fun _ => by rw [hpc]; rfl
  | queue hpc =>
      refine ⟨fun _ => hbuffer.own (by rw [hpc]; rfl), fun _ targetMsr buffer hlast => ?_⟩
      rw [List.getLast?_concat, Option.some.injEq] at hlast
      exact ⟨rfl, hlast⟩
  | finish hpc =>
      refine ⟨by rintro ⟨⟩, fun hcount => ?_⟩
      have hall := ht.knows.2.2
      omega
  | @readFlag timedOut hpc =>
      refine hbuffer.samePhase ?_ rfl rfl rfl rfl
      rw [hpc]
      rfl
  | timeOut hpc hjob =>
      exact ⟨by rintro ⟨⟩, fun hcount targetMsr buffer hlast =>
        absurd (hbuffer.pending hcount targetMsr buffer hlast).2 (hjob _ _)⟩
  | giveUp hpc hjob htimeout =>
      refine ⟨by rintro ⟨⟩, fun hcount => ?_⟩
      have hgivesUp : s.core0.givesUp = true := by
        simp only [Core0.givesUp, hpc, hjob, decide_eq_true_eq]
        exact hjob ▸ htimeout.2
      have hended := hanswered hgivesUp
      rw [hprogress.ended, List.mem_reverse, List.mem_range] at hended
      simp only [lastJob, setCore0Pc_history] at hended hcount
      omega
  | reply hphase =>
      refine hbuffer.away (fun hwaiting => ?_) rfl rfl rfl rfl (by rintro ⟨⟩)
      simp [hwaiting] at hphase
  | allocateFaultInfo hpc =>
      exact hbuffer.away (by rw [hpc]; rintro ⟨⟩) rfl rfl rfl rfl (by rintro ⟨⟩)
  | setCr3 value hpc => exact hbuffer.away (by rw [hpc]; rintro ⟨⟩) rfl rfl rfl rfl (by rintro ⟨⟩)
  | handOver rsp hpc => exact hbuffer.away (by rw [hpc]; rintro ⟨⟩) rfl rfl rfl rfl (by rintro ⟨⟩)
  | release hbefore hafter hphase => exact hbuffer.samePhase hphase rfl rfl rfl rfl
  | clear hpc => exact hbuffer.samePhase (hs.phase_clear hpc) rfl rfl rfl rfl

theorem BufferInvariant.apStep {mode : UnlockMode} {choice : ApChoice} {s t : Pair}
    (hbuffer : s.BufferInvariant) (hprogress : s.Progress)
    (hstep : s.apStep mode choice = some t) : t.BufferInvariant := by
  have hframe := (Pair.apEffect hstep).frame
  have hbound : s.history.jobs.length ≤ s.history.ended.length + 1 := by
    by_cases hrunning : s.ap.pc.phase = .running
    · have hcounts := hprogress.running hrunning
      omega
    · have hnone := hprogress.notRunning hrunning
      rcases hprogress.queued with ⟨-, hcount⟩ | ⟨-, hcount⟩ <;> omega
  refine ⟨?_, fun hcount targetMsr buffer hlast => ?_⟩
  · rw [hframe.core0]
    exact hbuffer.own
  · have hgrown := hframe.ended
    rw [hframe.jobs] at hcount hlast
    rw [hframe.core0]
    exact hbuffer.pending (by omega) targetMsr buffer hlast

/-- No job outlives its argument, for one processor. -/
theorem BufferInvariant.argument {s : Pair} (hinv : s.JobInvariant)
    (hbuffer : s.BufferInvariant) {buffer : StackBuffer}
    (hargument : s.ap.pc.argument = some buffer) :
    s.core0.pc.phase = .waiting ∧ buffer.invocation = s.core0.invocation := by
  have hrunning : s.ap.pc.phase = .running := by
    cases hpc : s.ap.pc <;> rw [hpc] at hargument <;> first | rfl | cases hargument
  obtain ⟨job, hjob, hwritten, hloaded⟩ := hinv.unmixedJobs.inputs hrunning
  obtain ⟨haccepted, hjobs, hnumber⟩ := hinv.progress.running hrunning
  have hframe : ∃ frame : CallFrame, frame.LoadedFrom s.context ∧ frame.arg = some buffer := by
    cases hpc : s.ap.pc <;> rw [hpc] at hargument hloaded
    case body frame pc => exact ⟨frame, hloaded.1, hargument⟩
    case handlerStore frame pc vector info => exact ⟨frame, hloaded.1, hargument⟩
    case handlerOccured frame pc vector => exact ⟨frame, hloaded.1, hargument⟩
    case handlerNumber frame pc vector => exact ⟨frame, hloaded.1, hargument⟩
    all_goals cases hargument
  obtain ⟨frame, ⟨hslot, hcall⟩, harg⟩ := hframe
  have hcalls : job.calls frame.slot = ⟨some frame.func, some buffer⟩ := by
    rw [← hwritten.coreFunctions _ hslot, hcall, harg]
  have hlast : s.history.jobs.getLast? = some job := by
    rw [← hjob, List.getLast?_eq_getElem?, hnumber, hjobs, haccepted]
    rfl
  obtain ⟨targetMsr, rfl⟩ := job.readMsr_of_calls hcalls
  obtain ⟨hwaiting, hown⟩ := hbuffer.pending (by omega) targetMsr buffer hlast
  exact ⟨hwaiting, hbuffer.own (by rw [hwaiting]; rfl) targetMsr buffer hown⟩

/-- Two states that agree on a context and its processor; core 0 is the same
or between two messages in both. -/
structure SameCore (s t : Pair) : Prop where
  coreId : t.coreId = s.coreId
  ap : t.ap = s.ap
  context : t.context = s.context
  history : t.history = s.history
  core0 : t.core0 = s.core0 ∨ s.core0.pc.live = false ∧ t.core0.pc.live = false

theorem SameCore.pc {s t : Pair} (hsame : s.SameCore t) :
    t.core0.pc.holds = s.core0.pc.holds ∧ t.core0.pc.phase = s.core0.pc.phase := by
  rcases hsame.core0 with hcore0 | ⟨hbefore, hafter⟩
  · rw [hcore0]
    exact ⟨rfl, rfl⟩
  · obtain ⟨before, hbefore⟩ := Core0Pc.returned_of_not_live hbefore
    obtain ⟨after, hafter⟩ := Core0Pc.returned_of_not_live hafter
    rw [hbefore, hafter]
    exact ⟨rfl, rfl⟩

theorem JobInvariant.sameCore {s t : Pair} (hinv : s.JobInvariant)
    (hsame : s.SameCore t) : t.JobInvariant := by
  obtain ⟨hholds, hphase⟩ := hsame.pc
  have hlockState : t.lockState = s.lockState := by
    apply lockState_eq
    · rw [hsame.context]
    · exact hholds
    · rw [hsame.ap]
  have hinputs : s.context.SameInputs t.context := by
    rw [hsame.context]
    exact ⟨rfl, rfl, rfl, rfl⟩
  constructor
  · constructor
    · exact ⟨hsame.coreId ▸ hinv.lock.ofProcessor.coreId,
        hphase ▸ hinv.lock.ofProcessor.phase⟩
    · exact hlockState ▸ hinv.lock.owned
  · exact hinv.progress.congr hsame.ap (by rw [hsame.history]) (by rw [hsame.history])
      (by rw [hsame.history]) hinputs (by rw [hsame.context]) (by rw [hsame.context])
  · rw [hphase]
    rcases hsame.core0 with hcore0 | ⟨hbefore, -⟩
    · exact hinv.knows.congr (by rw [hsame.ap]; exact id) (by rw [hcore0])
        (by rw [hsame.history]) (by rw [hsame.history]) hinputs
    · obtain ⟨before, hbefore⟩ := Core0Pc.returned_of_not_live hbefore
      rw [hbefore]
      trivial

theorem BufferInvariant.sameCore {s t : Pair} (hbuffer : s.BufferInvariant)
    (hsame : s.SameCore t) : t.BufferInvariant := by
  rcases hsame.core0 with hcore0 | ⟨hbefore, hafter⟩
  · exact hbuffer.samePhase hsame.pc.2 (by rw [hsame.history]) (by rw [hsame.history])
      (by rw [hcore0]) (by rw [hcore0])
  · obtain ⟨before, hbefore⟩ := Core0Pc.returned_of_not_live hbefore
    obtain ⟨after, hafter⟩ := Core0Pc.returned_of_not_live hafter
    refine ⟨by rw [hafter]; nofun, fun hcount targetMsr buffer hlast => ?_⟩
    rw [hsame.history] at hcount hlast
    have hwaiting := (hbuffer.pending hcount targetMsr buffer hlast).1
    rw [hbefore] at hwaiting
    cases hwaiting

theorem coreId_of_core0Step {mode : UnlockMode} {choice : Core0Choice} {s t : Pair}
    (hs : s.OfProcessor) (hstep : s.core0Step mode choice = some t) :
    t.coreId = s.coreId := by
  cases core0Effect hs.coreId hs.phase hstep with
  | request request => cases request <;> rfl
  | _ => rfl

theorem coreId_of_apStep {mode : UnlockMode} {choice : ApChoice} {s t : Pair}
    (hstep : s.apStep mode choice = some t) : t.coreId = s.coreId := by
  cases Pair.apEffect hstep <;> rfl

end Pair

/-- `target` is the core whose context core 0's handler works on. -/
structure Machine where
  core0 : Core0
  target : ℕ
  stack : UInt64 → UInt32 × UInt32
  aps : ℕ → Ap
  contexts : ℕ → CoreContext
  histories : ℕ → History

namespace Machine

/-- Core 0 working on the context of a core. -/
def working (m : Machine) (coreId : ℕ) : Pair where
  coreId := coreId
  core0 := m.core0
  ap := m.aps coreId
  context := m.contexts coreId
  stack := m.stack
  history := m.histories coreId

/-- The machine as seen from the context of one core. -/
def pair (m : Machine) (coreId : ℕ) : Pair :=
  if coreId = m.target then m.working coreId
  else { m.working coreId with core0 := { m.core0 with pc := .returned .nothing } }

/-- What core 0 or a processor did while working on the context of a core. -/
def put (m : Machine) (coreId : ℕ) (core0 : Core0) (p : Pair) : Machine where
  core0 := core0
  target := m.target
  stack := p.stack
  aps := Function.update m.aps coreId p.ap
  contexts := Function.update m.contexts coreId p.context
  histories := Function.update m.histories coreId p.history

/-- Core 0's steps name the core they are about: between two messages core 0
may turn to another one. -/
inductive Label
  | core0 (coreId : ℕ) (choice : Core0Choice)
  | ap (coreId : ℕ) (choice : ApChoice)

def step (mode : UnlockMode) : Label → Machine → Option Machine
  | .core0 coreId choice, m =>
      if coreId ≠ 0 ∧ (coreId = m.target ∨ m.core0.pc.live = false) then
        ((m.working coreId).core0Step mode choice).map fun p =>
          { m with target := coreId }.put coreId p.core0 p
      else none
  | .ap coreId choice, m =>
      if coreId ≠ 0 then
        ((m.pair coreId).apStep mode choice).map (m.put coreId m.core0)
      else none

/-- Core 0 is between two messages and no other core has been started. -/
def Booted (m : Machine) : Prop :=
  ∀ coreId ≠ 0, (m.working coreId).Booted

/-- No job outlives its argument: a processor that executes a function with an
argument does so during the handler invocation the argument belongs to. -/
def NoDanglingArgument (m : Machine) : Prop :=
  ∀ coreId ≠ 0, ∀ buffer, (m.aps coreId).pc.argument = some buffer →
    m.core0.pc.live = true ∧ buffer.invocation = m.core0.invocation

/-- No lock is stolen, and `handle_read_msr_on_core` gives up only on a job that
has ended. -/
def SafeStep (m : Machine) : Label → Prop
  | .core0 coreId choice => (m.working coreId).CleanUnlock (.core0 choice) ∧
      (m.working coreId).AnsweredInTime (.core0 choice)
  | .ap coreId choice => (m.pair coreId).CleanUnlock (.ap choice)

instance (m : Machine) : DecidablePred m.SafeStep
  | .core0 _ _ => inferInstanceAs (Decidable (_ ∧ _))
  | .ap coreId choice => inferInstanceAs (Decidable ((m.pair coreId).CleanUnlock (.ap choice)))

/-- The invariants of every pair. -/
def Invariant (m : Machine) : Prop :=
  ∀ coreId ≠ 0, (m.pair coreId).JobInvariant ∧ (m.pair coreId).BufferInvariant

theorem sameCore_working {m : Machine} {coreId : ℕ}
    (hturn : coreId = m.target ∨ m.core0.pc.live = false) :
    (m.pair coreId).SameCore (m.working coreId) := by
  by_cases htarget : coreId = m.target
  · simp only [pair, htarget, if_true]
    exact ⟨rfl, rfl, rfl, rfl, .inl rfl⟩
  · simp only [pair, htarget, if_false]
    exact ⟨rfl, rfl, rfl, rfl, .inr ⟨rfl, hturn.resolve_left htarget⟩⟩

@[simp]
theorem pair_coreId (m : Machine) (coreId : ℕ) : (m.pair coreId).coreId = coreId := by
  simp only [pair]
  split <;> rfl

@[simp]
theorem pair_ap (m : Machine) (coreId : ℕ) : (m.pair coreId).ap = m.aps coreId := by
  simp only [pair]
  split <;> rfl

@[simp]
theorem pair_context (m : Machine) (coreId : ℕ) :
    (m.pair coreId).context = m.contexts coreId := by
  simp only [pair]
  split <;> rfl

@[simp]
theorem pair_history (m : Machine) (coreId : ℕ) :
    (m.pair coreId).history = m.histories coreId := by
  simp only [pair]
  split <;> rfl

theorem pair_core0 (m : Machine) (coreId : ℕ) :
    (m.pair coreId).core0 = if coreId = m.target then m.core0
      else { m.core0 with pc := .returned .nothing } := by
  simp only [pair]
  split <;> rfl

/-- A step on one context is invisible from another. -/
theorem sameCore_put {m : Machine} {coreId other target : ℕ} {core0 : Core0} {p : Pair}
    (hother : other ≠ coreId)
    (hturn : core0 = m.core0 ∧ target = m.target ∨
      target = coreId ∧ (coreId = m.target ∨ m.core0.pc.live = false)) :
    (m.pair other).SameCore
      (({ m with target := target }.put coreId core0 p).pair other) := by
  constructor
  · simp
  · simp [put, Function.update_of_ne hother]
  · simp [put, Function.update_of_ne hother]
  · simp [put, Function.update_of_ne hother]
  · rcases hturn with ⟨rfl, rfl⟩ | ⟨rfl, hturn⟩
    · left
      simp only [pair_core0, put]
    · right
      constructor
      · by_cases htarget : other = m.target
        · rw [pair_core0, if_pos htarget]
          exact hturn.resolve_left fun hsame => hother (htarget.trans hsame.symm)
        · rw [pair_core0, if_neg htarget]
          rfl
      · simp only [pair_core0, put, hother, if_false]
        rfl

theorem pair_put_core0 {m : Machine} {coreId : ℕ} {p : Pair} (hcoreId : p.coreId = coreId) :
    ({ m with target := coreId }.put coreId p.core0 p).pair coreId = p := by
  subst hcoreId
  simp [pair, put, working]

theorem pair_put_ap {m : Machine} {coreId : ℕ} {p : Pair} (hcoreId : p.coreId = coreId)
    (hcore0 : p.core0 = (m.pair coreId).core0) :
    (m.put coreId m.core0 p).pair coreId = p := by
  subst hcoreId
  obtain ⟨coreId, core0, ap, context, stack, history⟩ := p
  simp only at hcore0
  subst hcore0
  by_cases htarget : coreId = m.target
  · simp [pair, put, working, htarget]
  · simp [pair, put, working, htarget]

theorem Booted.invariant {m : Machine} (hbooted : m.Booted) : m.Invariant := by
  intro coreId hcoreId
  have hpair := hbooted coreId hcoreId
  obtain ⟨result, hpc⟩ := hpair.core0
  have hlive : m.core0.pc.live = false := by
    change m.core0.pc = _ at hpc
    rw [hpc]
    rfl
  have hsame : (m.working coreId).SameCore (m.pair coreId) := by
    by_cases htarget : coreId = m.target
    · simp only [pair, htarget, if_true]
      exact ⟨rfl, rfl, rfl, rfl, .inl rfl⟩
    · simp only [pair, htarget, if_false]
      exact ⟨rfl, rfl, rfl, rfl, .inr ⟨hlive, rfl⟩⟩
  exact ⟨hpair.jobInvariant.sameCore hsame, hpair.bufferInvariant.sameCore hsame⟩

theorem Invariant.step {mode : UnlockMode} {label : Label} {m n : Machine}
    (hinv : m.Invariant) (hsafe : m.SafeStep label)
    (hstep : Machine.step mode label m = some n) :
    n.Invariant := by
  cases label with
  | core0 coreId choice =>
      simp only [Machine.step, Option.ite_none_right_eq_some,
        Option.map_eq_some_iff] at hstep
      obtain ⟨⟨hcoreId, hturn⟩, p, hp, rfl⟩ := hstep
      obtain ⟨hjobs, hbuffer⟩ := hinv coreId hcoreId
      have hsame := sameCore_working hturn
      have hbefore := hjobs.sameCore hsame
      have hafter := hbefore.core0Step hsafe.1 hp
      intro other hother
      by_cases heq : other = coreId
      · subst heq
        have hid : p.coreId = other :=
          Pair.coreId_of_core0Step hbefore.lock.ofProcessor hp
        rw [pair_put_core0 hid]
        exact ⟨hafter, (hbuffer.sameCore hsame).core0Step hbefore.lock.ofProcessor hafter
          hsafe.2 hbefore.progress hp⟩
      · have hother := hinv other hother
        have hunseen : (m.pair other).SameCore
            (({ m with target := coreId }.put coreId p.core0 p).pair other) :=
          sameCore_put heq (.inr ⟨rfl, hturn⟩)
        exact ⟨hother.1.sameCore hunseen, hother.2.sameCore hunseen⟩
  | ap coreId choice =>
      simp only [Machine.step, Option.ite_none_right_eq_some,
        Option.map_eq_some_iff] at hstep
      obtain ⟨hcoreId, p, hp, rfl⟩ := hstep
      obtain ⟨hjobs, hbuffer⟩ := hinv coreId hcoreId
      intro other hother
      by_cases heq : other = coreId
      · subst heq
        have hid : p.coreId = other := by
          rw [Pair.coreId_of_apStep hp, pair_coreId]
        rw [pair_put_ap hid (Pair.apEffect hp).frame.core0]
        exact ⟨hjobs.apStep hsafe hp, hbuffer.apStep hjobs.progress hp⟩
      · have hother := hinv other hother
        have hunseen : (m.pair other).SameCore ((m.put coreId m.core0 p).pair other) :=
          sameCore_put heq (.inl ⟨rfl, rfl⟩)
        exact ⟨hother.1.sameCore hunseen, hother.2.sameCore hunseen⟩

theorem Invariant.noDanglingArgument {m : Machine} (hinv : m.Invariant) :
    m.NoDanglingArgument := by
  intro coreId hcoreId buffer hargument
  obtain ⟨hjobs, hbuffer⟩ := hinv coreId hcoreId
  rw [← pair_ap] at hargument
  obtain ⟨hwaiting, hown⟩ := hbuffer.argument hjobs hargument
  by_cases htarget : coreId = m.target
  · simp only [pair, htarget, if_true] at hwaiting hown
    have hserving : m.core0.pc.phase.serving = true := by
      rw [show m.core0.pc.phase = .waiting from hwaiting]
      rfl
    exact ⟨Core0Pc.live_of_serving hserving, hown⟩
  · simp only [pair, htarget, if_false] at hwaiting
    cases hwaiting

/-- In a run without stolen locks in which `handle_read_msr_on_core` never gives
up on an outstanding job, no job outlives its argument. -/
theorem noDanglingArgument_of_safeStep {past : List (Machine × Label)} {m : Machine}
    (hrun : Run Booted (Machine.step .twoStep) past m) (hsafe : EachStep SafeStep past) :
    Always NoDanglingArgument past m :=
  (hrun.always (fun _ hbooted => hbooted.invariant)
    (fun _ _ _ hinv hcondition hstep => hinv.step hcondition hstep) hsafe).mono
    fun _ hinv => hinv.noDanglingArgument

/-- `init_cores` with every core present. -/
def afterInit : Machine where
  core0 := (Pair.afterInit 1).core0
  target := 1
  stack := fun _ => (0, 0)
  aps := fun _ => (Pair.afterInit 1).ap
  contexts := fun _ => Pair.initContext
  histories := fun _ => .empty

theorem booted_afterInit : afterInit.Booted :=
  fun _ hcoreId => Pair.booted_afterInit hcoreId

def Label.onCore (coreId : ℕ) : Pair.Label → Label
  | .core0 choice => .core0 coreId choice
  | .ap choice => .ap coreId choice

/-- STARTCORE and READMSRONCORE up to the polling of the job. -/
def submitReadMsr : List Pair.Label :=
  Pair.startUp ++ [.ap .next] ++
    .core0 (.request (.job (.readMsrOnCore 0x10 ⟨0x7000, 0⟩))) ::
      List.replicate 16 (.core0 .next)

/-- The processor calls `read_msr` at once. -/
def callReadMsr : List Pair.Label := .ap (.value 0) :: List.replicate 9 (.ap .next)

theorem noDanglingArgument_of_safeStep_callReadMsr :
    ∃ past m, exec (guarded SafeStep (Machine.step .twoStep))
        ((submitReadMsr ++ callReadMsr).map (Label.onCore 1)) afterInit = some m ∧
      Run Booted (Machine.step .twoStep) past m ∧ EachStep SafeStep past ∧
      (m.aps 1).pc.argument = some ⟨0x7000, 2⟩ ∧ Always NoDanglingArgument past m := by
  obtain ⟨m, hexec, hargument⟩ :
      ∃ m, exec (guarded SafeStep (Machine.step .twoStep))
          ((submitReadMsr ++ callReadMsr).map (Label.onCore 1)) afterInit = some m ∧
        (m.aps 1).pc.argument = some ⟨0x7000, 2⟩ := ⟨_, rfl, rfl⟩
  obtain ⟨past, hguarded⟩ := run_of_exec booted_afterInit _ hexec
  obtain ⟨hrun, hsafe⟩ := hguarded.of_guarded
  exact ⟨past, m, hexec, hrun, hsafe, hargument,
    noDanglingArgument_of_safeStep hrun hsafe⟩

/-- The processor takes the lock and is delayed for the 100 rounds that core 0
polls; it calls `read_msr` after the handler has returned. -/
def callReadMsrLate : List Pair.Label :=
  .ap (.value 0) :: List.replicate 3 (.ap .next) ++
    List.replicate 200 (.core0 .next) ++ List.replicate 6 (.ap .next)

set_option maxRecDepth 4000 in
theorem not_noDanglingArgument_callReadMsrLate :
    ∃ past m, exec (Machine.step .twoStep)
        ((submitReadMsr ++ callReadMsrLate).map (Label.onCore 1)) afterInit = some m ∧
      Run Booted (Machine.step .twoStep) past m ∧ ¬ m.NoDanglingArgument := by
  obtain ⟨m, hexec, hargument, hlive⟩ :
      ∃ m, exec (Machine.step .twoStep)
          ((submitReadMsr ++ callReadMsrLate).map (Label.onCore 1)) afterInit = some m ∧
        (m.aps 1).pc.argument = some ⟨0x7000, 2⟩ ∧ m.core0.pc.live = false :=
    ⟨_, rfl, rfl, rfl⟩
  obtain ⟨past, hrun⟩ := run_of_exec booted_afterInit _ hexec
  refine ⟨past, m, hexec, hrun, fun hnone => ?_⟩
  have hcontra := (hnone 1 one_ne_zero _ hargument).1
  simp [hlive] at hcontra

end Machine

end AngryUefi
