import AngryUefi.Cores.Effects
import AngryUefi.Lib.Transition

/-!
# Whose fault the reply reports

The processor zeroes `fault_info` when it accepts a job, and core 0 reads it
when its wait for a job ends.  If that is before the job was accepted, core 0
reads what an earlier job left.  None of the facts below rests on the lock.
-/

namespace AngryUefi

open AngryUefi.Transition

/-- About to read `fault_occured` for the reply. -/
def Core0Pc.readsFault : Core0Pc → Bool
  | readFault _ => true
  | _ => false

/-- About to set `fault_occured`. -/
def ApPc.recordsFault : ApPc → Bool
  | handlerOccured _ _ _ => true
  | _ => false

namespace Pair

/-- The fault bit of a reply says whether the job it answers has raised a fault
by the time the reply is built. -/
def FlagBelongs (s : Pair) : Prop :=
  ∀ reply ∈ s.history.replies, ∀ fault, reply.result.faultFlag = some fault →
    fault = reply.raised

/-- The flag is read after `fault_info` has been zeroed for the job, and the
job records no first fault between that read and the reply. -/
def FlagCurrent (s : Pair) : Label → Prop
  | .core0 _ => s.core0.pc.readsFault = true → s.context.faultOccured = 1 →
      s.history.faultOwner = some s.lastJob
  | .ap _ => s.ap.pc.recordsFault = true → s.ap.job = s.lastJob →
      s.core0.pc.faultFlag ≠ some false

instance (s : Pair) : DecidablePred s.FlagCurrent
  | .core0 _ => inferInstanceAs (Decidable (_ → _ → _))
  | .ap _ => inferInstanceAs (Decidable (_ → _ → _))

/-- How `fault_info` relates to the jobs accepted so far. -/
structure FaultState (s : Pair) : Prop where
  acceptedLt : ∀ number ∈ s.history.accepted, number < s.history.jobs.length
  queued : s.context.jobQueued ≠ 0 → s.history.jobs ≠ [] ∧
    ∀ number ∈ s.history.accepted, number + 1 < s.history.jobs.length
  taking : s.ap.pc.phase = .taking → s.context.jobQueued ≠ 0
  unstarted : s.context.started ≠ 1 → s.history.jobs = []
  allocated : s.ap.pc.phase ≠ .off → s.context.faultInfo.isSome = true
  newest : s.ap.pc.phase = .running → s.ap.job ∈ s.history.accepted ∧
    ∀ number ∈ s.history.accepted, number ≤ s.ap.job
  owned : s.ap.pc.phase = .running → s.ap.pc.beforeZeroing = false →
    s.history.faultOwner = some s.ap.job
  fresh : s.ap.pc.phase = .running → s.ap.pc.beforeZeroing = true →
    s.ap.job ∉ s.history.faulted
  owner : ∀ number, s.history.faultOwner = some number → number ∈ s.history.accepted
  faulted : ∀ number ∈ s.history.faulted,
    ∃ later, s.history.faultOwner = some later ∧ number ≤ later
  flag : s.context.faultOccured = 0 ∧
      (∀ number, s.history.faultOwner = some number → number ∉ s.history.faulted) ∨
    s.context.faultOccured = 1 ∧
      ∃ number, s.history.faultOwner = some number ∧ number ∈ s.history.faulted

/-- What core 0 knows about the processor in each phase. -/
def FaultKnows (s : Pair) : Core0Phase → Prop
  | .starting => s.history.jobs = []
  | .handing => s.history.jobs = [] ∧ s.context.faultInfo.isSome = true
  | .checked | .admitting | .filling _ => s.context.started = 1
  | _ => True

/-- What core 0 has read into the reply's flags is still true. -/
def FlagSent (s : Pair) : Prop :=
  ∀ fault, s.core0.pc.faultFlag = some fault →
    (fault = true ↔ s.lastJob ∈ s.history.faulted)

/-- The latest job is the only one whose fault a flag of `fault_info` that
belongs to it can report. -/
theorem FaultState.faultOwner_of_lastJob {s : Pair} (hstate : s.FaultState)
    (hfaulted : s.lastJob ∈ s.history.faulted) :
    s.history.faultOwner = some s.lastJob := by
  obtain ⟨later, howner, hle⟩ := hstate.faulted _ hfaulted
  have hlt := hstate.acceptedLt _ (hstate.owner _ howner)
  have heq : later = s.lastJob := by
    simp only [lastJob] at hle ⊢
    omega
  rw [howner, heq]

theorem FaultState.faultOccured_iff {s : Pair} (hstate : s.FaultState)
    (hcurrent : s.context.faultOccured = 1 → s.history.faultOwner = some s.lastJob) :
    s.context.faultOccured = 1 ↔ s.lastJob ∈ s.history.faulted := by
  constructor
  · intro hflag
    have howner := hcurrent hflag
    rcases hstate.flag with ⟨hzero, -⟩ | ⟨-, number, hnumber, hfaulted⟩
    · rw [hzero] at hflag
      cases hflag
    · rw [howner, Option.some.injEq] at hnumber
      rw [hnumber]
      exact hfaulted
  · intro hfaulted
    have howner := hstate.faultOwner_of_lastJob hfaulted
    rcases hstate.flag with ⟨-, hnone⟩ | ⟨hone, -⟩
    · exact absurd hfaulted (hnone _ howner)
    · exact hone

/-! ## The invariant -/

/-- A step that neither accepts a job nor touches `fault_occured`. -/
theorem FaultState.quiet {s t : Pair} (hstate : s.FaultState)
    (hjobs : t.history.jobs = s.history.jobs)
    (haccepted : t.history.accepted = s.history.accepted)
    (hfaulted : t.history.faulted = s.history.faulted)
    (howner : t.history.faultOwner = s.history.faultOwner)
    (hjob : t.ap.job = s.ap.job)
    (hqueued : t.context.jobQueued ≠ 0 → s.context.jobQueued ≠ 0)
    (htaking : t.ap.pc.phase = .taking → t.context.jobQueued ≠ 0)
    (hstarted : s.context.started = 1 → t.context.started = 1)
    (hallocated : t.ap.pc.phase ≠ .off → t.context.faultInfo.isSome = true)
    (hrunning : t.ap.pc.phase = .running → s.ap.pc.phase = .running ∧
      t.ap.pc.beforeZeroing = s.ap.pc.beforeZeroing)
    (hoccured : t.context.faultOccured = s.context.faultOccured) : t.FaultState := by
  constructor
  case queued =>
    intro hnow
    have hbefore := hstate.queued (hqueued hnow)
    simpa only [hjobs, haccepted] using hbefore
  case taking => exact htaking
  case unstarted =>
    intro hnow
    rw [hjobs]
    exact hstate.unstarted fun hbefore => hnow (hstarted hbefore)
  case allocated => exact hallocated
  all_goals simp only [hjobs, haccepted, hfaulted, howner, hjob, hoccured]
  · exact hstate.acceptedLt
  · exact fun hnow => hstate.newest (hrunning hnow).1
  · intro hnow hzeroed
    obtain ⟨hbefore, hsame⟩ := hrunning hnow
    exact hstate.owned hbefore (hsame ▸ hzeroed)
  · intro hnow hzeroing
    obtain ⟨hbefore, hsame⟩ := hrunning hnow
    exact hstate.fresh hbefore (hsame ▸ hzeroing)
  · exact hstate.owner
  · exact hstate.faulted
  · exact hstate.flag

/-- A step of core 0 that leaves the processor and the history's jobs alone. -/
theorem FaultState.core0Quiet {s t : Pair} (hstate : s.FaultState) (hap : t.ap = s.ap)
    (hjobs : t.history.jobs = s.history.jobs)
    (haccepted : t.history.accepted = s.history.accepted)
    (hfaulted : t.history.faulted = s.history.faulted)
    (howner : t.history.faultOwner = s.history.faultOwner)
    (hqueued : t.context.jobQueued = s.context.jobQueued)
    (hstarted : t.context.started = s.context.started)
    (hfaultInfo : t.context.faultInfo = s.context.faultInfo) : t.FaultState := by
  apply hstate.quiet hjobs haccepted hfaulted howner
  · rw [hap]
  · exact fun hnow => hqueued ▸ hnow
  · rw [hap, hqueued]
    exact hstate.taking
  · exact fun hbefore => hstarted.trans hbefore
  · rw [hap, hfaultInfo]
    exact hstate.allocated
  · rw [hap]
    exact fun hnow => ⟨hnow, rfl⟩
  · simp only [CoreContext.faultOccured, hfaultInfo]

/-- Core 0 queues another job. -/
theorem FaultState.queue {s t : Pair} (hstate : s.FaultState)
    (hstarted : s.context.started = 1) (hap : t.ap = s.ap)
    (hcontext : t.context = { s.context with jobQueued := 1 })
    (hhistory : t.history = { s.history with
      jobs := s.history.jobs ++ [s.core0.job] }) : t.FaultState := by
  have hgrow : ∀ number ∈ s.history.accepted,
      number < (s.history.jobs ++ [s.core0.job]).length := by
    intro number hnumber
    have hlt := hstate.acceptedLt number hnumber
    simp only [List.length_append]
    omega
  constructor
  all_goals simp only [hap, hcontext, hhistory]
  · exact hgrow
  · refine fun _ => ⟨by simp, fun number hnumber => ?_⟩
    have hlt := hstate.acceptedLt number hnumber
    simp only [List.length_append, List.length_singleton]
    omega
  · exact fun _ => by decide
  · exact fun hnow => absurd hstarted hnow
  · exact hstate.allocated
  · exact hstate.newest
  · exact hstate.owned
  · exact hstate.fresh
  · exact hstate.owner
  · exact hstate.faulted
  · exact hstate.flag

/-- Core 0 allocates the fault information of a core that has never run. -/
theorem FaultState.allocate {s t : Pair} (hstate : s.FaultState)
    (hjobs : s.history.jobs = []) (hap : t.ap = s.ap)
    (hcontext : t.context = { s.context with faultInfo := some CoreFaultInfo.zero })
    (hhistory : t.history = s.history) : t.FaultState := by
  have hnobody : ∀ number, s.history.faultOwner = some number → False := by
    intro number howner
    have hlt := hstate.acceptedLt _ (hstate.owner _ howner)
    simp [hjobs] at hlt
  constructor
  case flag =>
    rw [hcontext, hhistory]
    exact .inl ⟨rfl, fun number howner => (hnobody number howner).elim⟩
  all_goals simp only [hap, hcontext, hhistory]
  · exact hstate.acceptedLt
  · exact hstate.queued
  · exact hstate.taking
  · exact hstate.unstarted
  · exact fun _ => rfl
  · exact hstate.newest
  · exact hstate.owned
  · exact hstate.fresh
  · exact hstate.owner
  · exact hstate.faulted

/-- The processor accepts a job. -/
theorem FaultState.accept {s t : Pair} (hstate : s.FaultState)
    (hphase : s.ap.pc.phase = .taking)
    (hap : t.ap = { s.ap with pc := .jobReadFault, job := s.lastJob })
    (hcontext : t.context = { s.context with jobQueued := 0 })
    (hhistory : t.history = { s.history with
      accepted := s.lastJob :: s.history.accepted }) : t.FaultState := by
  obtain ⟨hjobs, hearlier⟩ := hstate.queued (hstate.taking hphase)
  have hpos := List.length_pos_iff.mpr hjobs
  have hlt : ∀ number ∈ s.history.accepted, number < s.lastJob := by
    intro number hnumber
    have hnext := hearlier number hnumber
    simp only [lastJob]
    omega
  constructor
  all_goals simp only [hap, hcontext, hhistory]
  · intro number hnumber
    rcases List.mem_cons.mp hnumber with rfl | hnumber
    · simp only [lastJob]
      omega
    · exact hstate.acceptedLt number hnumber
  · exact fun hnow => absurd rfl hnow
  · nofun
  · exact hstate.unstarted
  · exact fun _ => hstate.allocated (by rw [hphase]; nofun)
  · refine fun _ => ⟨List.mem_cons_self, fun number hnumber => ?_⟩
    rcases List.mem_cons.mp hnumber with rfl | hnumber
    · exact le_rfl
    · exact (hlt number hnumber).le
  · nofun
  · intro _ _ hfaulted
    obtain ⟨later, howner, hle⟩ := hstate.faulted _ hfaulted
    have hbefore := hlt later (hstate.owner later howner)
    omega
  · exact fun number howner => List.mem_cons_of_mem _ (hstate.owner number howner)
  · exact hstate.faulted
  · exact hstate.flag

/-- `fault_info` is zero and belongs to the accepted job from now on. -/
theorem FaultState.own {s t : Pair} (hstate : s.FaultState)
    (hphase : s.ap.pc.phase = .running) (hzeroing : s.ap.pc.beforeZeroing = true)
    (hap : t.ap = { s.ap with pc := .call 0 })
    (hjobQueued : t.context.jobQueued = s.context.jobQueued)
    (hstarted : t.context.started = s.context.started)
    (hsome : t.context.faultInfo.isSome = true) (hoccured : t.context.faultOccured = 0)
    (hhistory : t.history = { s.history with faultOwner := some s.ap.job }) :
    t.FaultState := by
  obtain ⟨hmem, hnewest⟩ := hstate.newest hphase
  have hfresh := hstate.fresh hphase hzeroing
  constructor
  all_goals simp only [hap, hjobQueued, hstarted, hsome, hoccured, hhistory]
  · exact hstate.acceptedLt
  · exact hstate.queued
  · nofun
  · exact hstate.unstarted
  · exact fun _ => trivial
  · exact fun _ => ⟨hmem, hnewest⟩
  · exact fun _ _ => trivial
  · nofun
  · rintro number ⟨⟩
    exact hmem
  · intro number hnumber
    obtain ⟨later, howner, hle⟩ := hstate.faulted number hnumber
    exact ⟨s.ap.job, rfl, hle.trans (hnewest _ (hstate.owner _ howner))⟩
  · refine .inl ⟨trivial, ?_⟩
    rintro number ⟨⟩
    exact hfresh

/-- A fault handler records a fault of the running job. -/
theorem FaultState.record {s t : Pair} (hstate : s.FaultState) {pc : ApPc}
    (hphase : s.ap.pc.phase = .running) (hzeroed : s.ap.pc.beforeZeroing = false)
    (hap : t.ap = { s.ap with pc := pc }) (hrunning : pc.phase = .running)
    (hafter : pc.beforeZeroing = false)
    (hjobQueued : t.context.jobQueued = s.context.jobQueued)
    (hstarted : t.context.started = s.context.started)
    (hsome : t.context.faultInfo.isSome = true) (hoccured : t.context.faultOccured = 1)
    (hhistory : t.history = { s.history with
      faulted := s.ap.job :: s.history.faulted }) : t.FaultState := by
  have howner := hstate.owned hphase hzeroed
  constructor
  all_goals simp only [hap, hjobQueued, hstarted, hsome, hoccured, hhistory, hrunning, hafter]
  · exact hstate.acceptedLt
  · exact hstate.queued
  · nofun
  · exact hstate.unstarted
  · exact fun _ => trivial
  · exact fun _ => hstate.newest hphase
  · exact fun _ _ => howner
  · nofun
  · exact hstate.owner
  · intro number hnumber
    rcases List.mem_cons.mp hnumber with rfl | hnumber
    · exact ⟨_, howner, le_rfl⟩
    · exact hstate.faulted number hnumber
  · exact .inr ⟨trivial, s.ap.job, howner, List.mem_cons_self⟩

structure FaultInvariant (s : Pair) : Prop where
  ofProcessor : s.OfProcessor
  state : s.FaultState
  knows : s.FaultKnows s.core0.pc.phase

/-- What core 0 knows depends on little. -/
theorem FaultKnows.congr {s t : Pair} {phase : Core0Phase} (hknows : s.FaultKnows phase)
    (hjobs : t.history.jobs = s.history.jobs)
    (hstarted : s.context.started = 1 → t.context.started = 1)
    (hfaultInfo : s.context.faultInfo.isSome = true →
      t.context.faultInfo.isSome = true) : t.FaultKnows phase := by
  cases phase with
  | starting => exact hjobs.trans hknows
  | handing => exact ⟨hjobs.trans hknows.1, hfaultInfo hknows.2⟩
  | checked => exact hstarted hknows
  | admitting => exact hstarted hknows
  | filling rest => exact hstarted hknows
  | _ => trivial

theorem Core0Effect.faultState {s t : Pair} (heffect : Core0Effect s t)
    (hinv : s.FaultInvariant) : t.FaultState := by
  have hknows := hinv.knows
  cases heffect with
  | request request hpc =>
      cases request <;> exact hinv.state.core0Quiet rfl rfl rfl rfl rfl rfl rfl rfl
  | @write write rest hpc =>
      have hsame : (write.apply s.context).jobQueued = s.context.jobQueued ∧
          (write.apply s.context).started = s.context.started ∧
          (write.apply s.context).faultInfo = s.context.faultInfo := by
        cases write <;> exact ⟨rfl, rfl, rfl⟩
      obtain ⟨hqueued, hstarted, hfaultInfo⟩ := hsame
      exact hinv.state.core0Quiet rfl rfl rfl rfl rfl hqueued hstarted hfaultInfo
  | queue hpc =>
      rw [hpc] at hknows
      exact hinv.state.queue hknows rfl rfl rfl
  | allocateFaultInfo hpc =>
      rw [hpc] at hknows
      exact hinv.state.allocate hknows rfl rfl rfl
  | handOver rsp hpc hap =>
      rw [hpc] at hknows
      exact hinv.state.quiet rfl rfl rfl rfl rfl id nofun id (fun _ => hknows.2) nofun rfl
  | _ => exact hinv.state.core0Quiet rfl rfl rfl rfl rfl rfl rfl rfl

theorem Core0Effect.faultKnows {s t : Pair} (heffect : Core0Effect s t)
    (hinv : s.FaultInvariant) : t.FaultKnows t.core0.pc.phase := by
  have hknows := hinv.knows
  cases heffect with
  | request request hpc => cases request <;> trivial
  | elsewhere stack hpc => exact hknows.congr rfl id id
  | look hphase =>
      rw [setCore0Pc_core0_pc, hphase]
      exact hknows.congr rfl id id
  | check hpc hstarted => exact hstarted
  | checkStart hpc hstarted => exact hinv.state.unstarted hstarted
  | acquire hfree hbefore hafter hphase =>
      rcases hphase with hphase | ⟨hchecked, hphase⟩
      · simp only [setCore0Pc_core0_pc, hphase]
        exact hknows.congr rfl id id
      · simp only [setCore0Pc_core0_pc, hphase]
        rw [hchecked] at hknows
        exact hknows
  | fill hpc hqueued =>
      rw [hpc] at hknows
      exact hknows
  | @write write rest hpc =>
      rw [hpc] at hknows
      cases write <;> exact hknows
  | @readFlag timedOut hpc => cases timedOut <;> trivial
  | allocateFaultInfo hpc =>
      rw [hpc] at hknows
      exact ⟨hknows, rfl⟩
  | setCr3 value hpc =>
      rw [hpc] at hknows
      exact hknows
  | release hbefore hafter hphase =>
      simp only [setCore0Pc_core0_pc, hphase]
      exact hknows.congr rfl id id
  | clear hpc =>
      simp only [setCore0Pc_core0_pc, hinv.ofProcessor.phase_clear hpc]
      exact hknows.congr rfl id id
  | _ => trivial

theorem FaultInvariant.core0Step {mode : UnlockMode} {choice : Core0Choice} {s t : Pair}
    (hinv : s.FaultInvariant) (hstep : s.core0Step mode choice = some t) :
    t.FaultInvariant := by
  have heffect := core0Effect hinv.ofProcessor.coreId hinv.ofProcessor.phase hstep
  exact ⟨hinv.ofProcessor.core0Step hstep, heffect.faultState hinv, heffect.faultKnows hinv⟩

theorem faultOccured_setFaultInfo {s : Pair} {change : CoreFaultInfo → CoreFaultInfo}
    {value : UInt64} (hsome : s.context.faultInfo.isSome = true)
    (hvalue : ∀ old, (change old).faultOccured = value) :
    (s.setFaultInfo change).context.faultOccured = value := by
  obtain ⟨info, hinfo⟩ := Option.isSome_iff_exists.mp hsome
  simp [setFaultInfo, CoreContext.faultOccured, hinfo, hvalue]

theorem faultOccured_setFaultInfo_keep {s : Pair}
    {change : CoreFaultInfo → CoreFaultInfo}
    (hkeep : ∀ old, (change old).faultOccured = old.faultOccured) :
    (s.setFaultInfo change).context.faultOccured = s.context.faultOccured := by
  cases hinfo : s.context.faultInfo <;>
    simp [setFaultInfo, CoreContext.faultOccured, hinfo, hkeep]

theorem isSome_setFaultInfo {s : Pair} {change : CoreFaultInfo → CoreFaultInfo} :
    (s.setFaultInfo change).context.faultInfo.isSome = s.context.faultInfo.isSome := by
  simp [setFaultInfo]

theorem FaultState.apEffect {s t : Pair} (hstate : s.FaultState)
    (heffect : ApEffect s t) (hon : s.context.faultInfo.isSome = true) : t.FaultState := by
  cases heffect with
  | look hsame hphase hoff hholds hzeroing =>
      refine hstate.quiet rfl rfl rfl rfl rfl ?_ ?_ hsame.started ?_ ?_ ?_
      · exact fun hnow => hsame.jobQueued ▸ hnow
      · intro hnow
        have hqueued := hstate.taking (hphase.symm.trans hnow)
        exact hsame.jobQueued ▸ hqueued
      · exact fun _ => hsame.faultInfo ▸ hon
      · exact fun hnow => ⟨hphase.symm.trans hnow, hzeroing⟩
      · simp only [CoreContext.faultOccured, hsame.faultInfo]
  | acquire | endReturn | endRecovery | clear =>
      exact hstate.quiet rfl rfl rfl rfl rfl id (by rintro ⟨⟩) id (fun _ => hon)
        (by rintro ⟨⟩) rfl
  | take hpc hqueued =>
      exact hstate.quiet rfl rfl rfl rfl rfl id (fun _ => hqueued) id (fun _ => hon)
        (by rintro ⟨⟩) rfl
  | clearQueued hpc =>
      exact hstate.quiet rfl rfl rfl rfl rfl (fun hnow => absurd rfl hnow) (by rintro ⟨⟩) id
        (fun _ => hon) (by rintro ⟨⟩) rfl
  | accept hpc => exact hstate.accept (by rw [hpc]; rfl) rfl rfl rfl
  | own hpc hclear =>
      exact hstate.own (by rw [hpc]; rfl) (by rw [hpc]; rfl) rfl rfl rfl hon hclear rfl
  | zero hpc =>
      exact hstate.own (by rw [hpc]; rfl) (by rw [hpc]; rfl) rfl rfl rfl
        (isSome_setFaultInfo.trans hon) (faultOccured_setFaultInfo hon fun _ => rfl) rfl
  | compute hpc hsame =>
      refine hstate.quiet rfl rfl rfl rfl rfl ?_ (by rintro ⟨⟩) hsame.started ?_ ?_ ?_
      · exact fun hnow => hsame.jobQueued ▸ hnow
      · exact fun _ => hsame.faultInfo ▸ hon
      · exact fun _ => by simp [hpc, ApPc.phase, ApPc.beforeZeroing]
      · simp only [CoreContext.faultOccured, hsame.faultInfo]
  | storeFault hbefore hafter hholds hchange =>
      refine hstate.quiet rfl rfl rfl rfl rfl id ?_ id
        (fun _ => isSome_setFaultInfo.trans hon) ?_ (faultOccured_setFaultInfo_keep hchange)
      · intro hnow
        rw [setApPc_ap_pc, hafter.1] at hnow
        cases hnow
      · exact fun _ => ⟨hbefore.1, hafter.2.trans hbefore.2.symm⟩
  | recordFault hpc =>
      exact hstate.record (by rw [hpc]; rfl) (by rw [hpc]; rfl) rfl rfl rfl rfl rfl
        (isSome_setFaultInfo.trans hon) (faultOccured_setFaultInfo hon fun _ => rfl) rfl
  | release hpc hafter =>
      rcases hafter with rfl | rfl
      all_goals
        exact hstate.quiet rfl rfl rfl rfl rfl id (by rintro ⟨⟩) id (fun _ => hon)
          (by rintro ⟨⟩) rfl

/-- What a step of the processor leaves to core 0's knowledge. -/
theorem ApEffect.faultFrame {s t : Pair} (heffect : ApEffect s t) :
    t.core0 = s.core0 ∧ t.history.jobs = s.history.jobs ∧
      (s.context.started = 1 → t.context.started = 1) ∧
      (s.context.faultInfo.isSome = true → t.context.faultInfo.isSome = true) := by
  cases heffect with
  | look hsame => exact ⟨rfl, rfl, hsame.started, fun hsome => hsame.faultInfo ▸ hsome⟩
  | compute hpc hsame =>
      exact ⟨rfl, rfl, hsame.started, fun hsome => hsame.faultInfo ▸ hsome⟩
  | zero => exact ⟨rfl, rfl, id, isSome_setFaultInfo.trans⟩
  | storeFault => exact ⟨rfl, rfl, id, isSome_setFaultInfo.trans⟩
  | recordFault => exact ⟨rfl, rfl, id, isSome_setFaultInfo.trans⟩
  | _ => exact ⟨rfl, rfl, id, id⟩

theorem FaultInvariant.apStep {mode : UnlockMode} {choice : ApChoice} {s t : Pair}
    (hinv : s.FaultInvariant) (hstep : s.apStep mode choice = some t) :
    t.FaultInvariant := by
  have heffect := Pair.apEffect hstep
  have hon := hinv.state.allocated (phase_ne_off_of_apStep hstep)
  have hstate := hinv.state.apEffect heffect hon
  obtain ⟨hcore0, hjobs, hstarted, hallocated⟩ := heffect.faultFrame
  refine ⟨hinv.ofProcessor.apStep hstep, hstate, ?_⟩
  rw [hcore0]
  exact hinv.knows.congr hjobs hstarted hallocated

theorem FaultInvariant.step {mode : UnlockMode} {label : Label} {s t : Pair}
    (hinv : s.FaultInvariant) (hstep : Pair.step mode label s = some t) :
    t.FaultInvariant := by
  cases label with
  | core0 choice => exact hinv.core0Step hstep
  | ap choice => exact hinv.apStep hstep

theorem Booted.faultInvariant {s : Pair} (hbooted : s.Booted) : s.FaultInvariant := by
  obtain ⟨result, hpc⟩ := hbooted.core0
  refine ⟨hbooted.ofProcessor, ?_, by rw [hpc]; trivial⟩
  constructor
  all_goals simp [hbooted.history, History.empty, hbooted.ap, hbooted.jobQueued,
    hbooted.faultInfo, ApPc.phase, CoreContext.faultOccured]

/-! ## Flags that belong to the job -/

theorem flagSent_of_none {s : Pair} (hflag : s.core0.pc.faultFlag = none) :
    s.FlagSent := by
  intro fault hfault
  rw [hflag] at hfault
  cases hfault

theorem FlagSent.core0Step {mode : UnlockMode} {choice : Core0Choice} {s t : Pair}
    (hinv : s.FaultInvariant) (hsent : s.FlagSent)
    (hcurrent : s.FlagCurrent (.core0 choice))
    (hstep : s.core0Step mode choice = some t) : t.FlagSent := by
  have hs := hinv.ofProcessor
  cases core0Effect hs.coreId hs.phase hstep with
  | request request hpc => cases request <;> nofun
  | elsewhere stack hpc => exact hsent
  | look hphase hholds hflag => exact fun fault hfault => hsent fault (hflag ▸ hfault)
  | @acquire pc hfree hbefore hafter hphase hflag =>
      exact fun fault hfault => hsent fault (hflag ▸ hfault)
  | @readFlag timedOut hpc =>
      rintro fault ⟨⟩
      rw [decide_eq_true_iff]
      exact hinv.state.faultOccured_iff (hcurrent (by rw [hpc]; rfl))
  | release hbefore hafter hphase hflag => exact flagSent_of_none hflag
  | @clear next lock hpc =>
      have hboot := hs.phase
      rw [hpc] at hboot
      exact flagSent_of_none (next.faultFlag_pc _ hboot)
  | _ => nofun

theorem FlagSent.apStep {mode : UnlockMode} {choice : ApChoice} {s t : Pair}
    (hsent : s.FlagSent) (hcurrent : s.FlagCurrent (.ap choice))
    (hstep : s.apStep mode choice = some t) : t.FlagSent := by
  cases Pair.apEffect hstep with
  | recordFault hpc =>
      intro fault hfault
      have hbefore := hsent fault hfault
      cases fault with
      | true => exact iff_of_true rfl (List.mem_cons_of_mem _ (hbefore.mp rfl))
      | false =>
          have hother : s.ap.job ≠ s.lastJob := fun hjob =>
            hcurrent (by rw [hpc]; rfl) hjob hfault
          refine iff_of_false nofun fun hmem => ?_
          rcases List.mem_cons.mp hmem with hjob | hmem
          · exact hother hjob.symm
          · exact absurd (hbefore.mpr hmem) nofun
  | _ => exact hsent

theorem FlagSent.step {mode : UnlockMode} {label : Label} {s t : Pair}
    (hinv : s.FaultInvariant) (hsent : s.FlagSent) (hcurrent : s.FlagCurrent label)
    (hstep : Pair.step mode label s = some t) : t.FlagSent := by
  cases label with
  | core0 choice => exact FlagSent.core0Step hinv hsent hcurrent hstep
  | ap choice => exact FlagSent.apStep hsent hcurrent hstep

theorem FlagBelongs.step {mode : UnlockMode} {label : Label} {s t : Pair}
    (hinv : s.FaultInvariant) (hsent : s.FlagSent) (hbelongs : s.FlagBelongs)
    (hstep : Pair.step mode label s = some t) : t.FlagBelongs := by
  have hs := hinv.ofProcessor
  cases label with
  | core0 choice =>
      change s.core0Step mode choice = some t at hstep
      cases core0Effect hs.coreId hs.phase hstep with
      | request request => cases request <;> exact hbelongs
      | reply hphase hholds hflag =>
          intro reply hreply fault hfault
          rcases List.mem_cons.mp hreply with rfl | hreply
          · have hfresh : fault = true ↔
                decide (s.lastJob ∈ s.history.faulted) = true := by
              rw [decide_eq_true_iff]
              exact hsent fault (hflag ▸ hfault)
            exact Bool.eq_iff_iff.mpr hfresh
          · exact hbelongs reply hreply fault hfault
      | _ => exact hbelongs
  | ap choice =>
      change s.apStep mode choice = some t at hstep
      cases Pair.apEffect hstep <;> exact hbelongs

/-- If core 0 reads the fault flag only after it was zeroed for the job, and the
job records no fault between that read and the reply, every reply says whether
its own job has faulted. -/
theorem flagBelongs_of_flagCurrent {past : List (Pair × Label)} {s : Pair}
    (hrun : Run Booted (Pair.step .twoStep) past s)
    (hcurrent : EachStep FlagCurrent past) : Always FlagBelongs past s := by
  have hinvariant :
      Always (fun s => s.FaultInvariant ∧ s.FlagSent ∧ s.FlagBelongs) past s := by
    refine hrun.always (fun s hbooted => ?_) ?_ hcurrent
    · obtain ⟨result, hpc⟩ := hbooted.core0
      refine ⟨hbooted.faultInvariant, flagSent_of_none (by rw [hpc]; rfl), ?_⟩
      simp [FlagBelongs, hbooted.history, History.empty]
    · rintro s label t ⟨hinv, hsent, hbelongs⟩ hcondition hstep
      exact ⟨hinv.step hstep, FlagSent.step hinv hsent hcondition hstep,
        FlagBelongs.step hinv hsent hbelongs hstep⟩
  exact hinvariant.mono fun s hs => hs.2.2

/-- A job without a timeout whose machine code faults, the processor's recovery
and core 0's reply. -/
def faultingJob : List Label :=
  startUp ++ [.ap .next] ++ submit ++ [.core0 .next] ++ reachMachineCode ++
    [.ap (.fault 14 .zero)] ++ List.replicate 5 (.ap .next) ++ [.ap (.value 0)] ++
    List.replicate 6 (.ap .next) ++ List.replicate 12 (.core0 .next)

theorem flagBelongs_of_flagCurrent_faultingJob :
    ∃ past t, exec (guarded FlagCurrent (Pair.step .twoStep)) faultingJob
        (afterInit 1) = some t ∧
      Run Booted (Pair.step .twoStep) past t ∧ EachStep FlagCurrent past ∧
      t.history.faulted = [0] ∧ t.history.replies.length = 1 ∧
      Always FlagBelongs past t := by
  obtain ⟨t, hexec, hfaulted, hreplies⟩ :
      ∃ t, exec (guarded FlagCurrent (Pair.step .twoStep)) faultingJob
          (afterInit 1) = some t ∧
        t.history.faulted = [0] ∧ t.history.replies.length = 1 := ⟨_, rfl, rfl, rfl⟩
  obtain ⟨past, hguarded⟩ := run_of_exec (booted_afterInit one_ne_zero) _ hexec
  obtain ⟨hrun, hcurrent⟩ := hguarded.of_guarded
  exact ⟨past, t, hexec, hrun, hcurrent, hfaulted, hreplies,
    flagBelongs_of_flagCurrent hrun hcurrent⟩

/-- The next job, with a timeout of one round, that the processor does not
accept in time. -/
def lateJob : List Label :=
  .core0 (.request (.job (.executeMachineCode 0x1000 1))) ::
    List.replicate 33 (.core0 .next)

theorem not_flagBelongs_lateJob :
    ∃ past t, exec (Pair.step .twoStep) (faultingJob ++ lateJob) (afterInit 1) = some t ∧
      Run Booted (Pair.step .twoStep) past t ∧ ¬ t.FlagBelongs := by
  obtain ⟨t, hexec, hexists⟩ :
      ∃ t, exec (Pair.step .twoStep) (faultingJob ++ lateJob) (afterInit 1) = some t ∧
        ∃ reply ∈ t.history.replies, reply.number = 1 ∧
          reply.result.faultFlag = some true ∧ reply.raised = false :=
    ⟨_, rfl, _, List.mem_cons_self, rfl, rfl, rfl⟩
  obtain ⟨past, hrun⟩ := run_of_exec (booted_afterInit one_ne_zero) _ hexec
  obtain ⟨reply, hreply, -, hfault, hraised⟩ := hexists
  refine ⟨past, t, hexec, hrun, fun hbelongs => ?_⟩
  have hsame := hbelongs reply hreply true hfault
  simp [hraised] at hsame

end Pair

end AngryUefi
