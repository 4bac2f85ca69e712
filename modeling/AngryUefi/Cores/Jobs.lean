import AngryUefi.Cores.Locking

/-!
# Jobs, one after the other

While nobody's lock is freed behind its back, core 0 and the processor pass a
context back and forth: core 0 fills it and queues a job, the processor takes
the job, runs it and ends it, and only then core 0 fills it again.  The
invariant counts the jobs queued, accepted and ended.
-/

namespace AngryUefi

open AngryUefi.SpinLock AngryUefi.Transition

namespace Pair

/-- How far the jobs are, as seen without core 0's program counter. -/
structure Progress (s : Pair) : Prop where
  accepted : s.history.accepted = (List.range s.history.accepted.length).reverse
  ended : s.history.ended.map Prod.fst = (List.range s.history.ended.length).reverse
  running : s.ap.pc.phase = .running →
    s.history.accepted.length = s.history.ended.length + 1 ∧
      s.history.jobs.length = s.history.accepted.length ∧
      s.ap.job = s.history.ended.length
  notRunning : s.ap.pc.phase ≠ .running →
    s.history.accepted.length = s.history.ended.length
  queued : s.context.jobQueued = 1 ∧
      s.history.jobs.length = s.history.accepted.length + 1 ∨
    s.context.jobQueued = 0 ∧ s.history.jobs.length = s.history.accepted.length
  taking : s.ap.pc.phase = .taking →
    s.history.jobs.length = s.history.accepted.length + 1
  unready : s.ap.pc.phase = .off ∨ s.ap.pc.phase = .starting →
    s.history.jobs.length = s.history.accepted.length
  started : s.context.started = 1 → s.ap.pc.phase ≠ .off
  current : s.history.jobs.length = s.history.ended.length + 1 →
    ∀ job ∈ s.history.jobs.getLast?, job.WrittenIn s.context
  loaded : s.ap.pc.LoadedFrom s.context

/-- What core 0 knows about the jobs in each phase. -/
def Core0Knows (s : Pair) : Core0Phase → Prop
  | .outside | .starting | .handing | .requested | .boot => True
  | .checked | .admitting => s.ap.pc.phase ≠ .off
  | .filling rest => s.ap.pc.phase ≠ .off ∧
      s.history.jobs.length ≤ s.history.ended.length ∧
      s.core0.job.WrittenIn (ContextWrite.applyAll s.context rest)
  | .waiting | .gaveUp => s.ap.pc.phase ≠ .off ∧ s.history.jobs.getLast? = some s.core0.job
  | .finished => s.ap.pc.phase ≠ .off ∧ s.history.jobs.getLast? = some s.core0.job ∧
      s.history.jobs.length ≤ s.history.ended.length

/-- The invariant of runs without a stolen lock. -/
structure JobInvariant (s : Pair) : Prop where
  lock : s.LockInvariant
  progress : s.Progress
  knows : s.Core0Knows s.core0.pc.phase

/-- A processor that does not hold the lock is not started or has nothing to
do. -/
theorem phase_of_outside {pc : ApPc} (houtside : pc.holds = false) :
    pc.phase = .off ∨ pc.phase = .idle := by
  cases pc <;> simp_all [ApPc.holds, ApPc.phase]

theorem ApPc.loadedFrom_of_notRunning {pc : ApPc} (hrunning : pc.phase ≠ .running)
    (context : CoreContext) : pc.LoadedFrom context := by
  cases pc <;> trivial

theorem ApPc.notRunning_of_outside {pc : ApPc} (houtside : pc.holds = false) :
    pc.phase ≠ .running := by
  rcases phase_of_outside houtside with hphase | hphase
  all_goals rw [hphase]; nofun

theorem LockInvariant.outside_ap {s : Pair} (hlock : s.LockInvariant)
    (hcore0 : s.core0.pc.holds = true) : s.ap.pc.holds = false := by
  simpa [hcore0] using hlock.mutualExclusion.exclusive

/-- A step that leaves the processor, the jobs and the fields between them
alone. -/
theorem Progress.congr {s t : Pair} (hprogress : s.Progress) (hap : t.ap = s.ap)
    (hjobs : t.history.jobs = s.history.jobs)
    (haccepted : t.history.accepted = s.history.accepted)
    (hended : t.history.ended = s.history.ended)
    (hinputs : s.context.SameInputs t.context)
    (hqueued : t.context.jobQueued = s.context.jobQueued)
    (hstarted : t.context.started = s.context.started) : t.Progress := by
  constructor
  all_goals simp only [hap, hjobs, haccepted, hended, hqueued, hstarted]
  · exact hprogress.accepted
  · exact hprogress.ended
  · exact hprogress.running
  · exact hprogress.notRunning
  · exact hprogress.queued
  · exact hprogress.taking
  · exact hprogress.unready
  · exact hprogress.started
  · intro hcurrent job hjob
    exact hinputs.writtenIn (hprogress.current hcurrent job hjob)
  · exact hprogress.loaded.congr hinputs

/-- With the lock in core 0's hands no job is running. -/
theorem JobInvariant.notRunning {s : Pair} (hinv : s.JobInvariant)
    (hholds : s.core0.pc.holds = true) :
    s.history.accepted.length = s.history.ended.length := by
  exact hinv.progress.notRunning (ApPc.notRunning_of_outside (hinv.lock.outside_ap hholds))

theorem Progress.ended_le {s : Pair} (hprogress : s.Progress) :
    s.history.ended.length ≤ s.history.accepted.length := by
  by_cases hrunning : s.ap.pc.phase = .running
  · have hcounts := hprogress.running hrunning
    omega
  · have hcounts := hprogress.notRunning hrunning
    omega

theorem Progress.accepted_le {s : Pair} (hprogress : s.Progress) :
    s.history.accepted.length ≤ s.history.jobs.length := by
  rcases hprogress.queued with ⟨-, hcount⟩ | ⟨-, hcount⟩ <;> omega

/-- A job that core 0 queues while it holds the lock. -/
theorem Progress.queue {s t : Pair} (hprogress : s.Progress)
    (houtside : s.ap.pc.holds = false) (hon : s.ap.pc.phase ≠ .off)
    (hall : s.history.jobs.length ≤ s.history.ended.length)
    (hwritten : s.core0.job.WrittenIn s.context) (hap : t.ap = s.ap)
    (hcontext : t.context = { s.context with jobQueued := 1 })
    (hhistory : t.history = { s.history with
      jobs := s.history.jobs ++ [s.core0.job] }) : t.Progress := by
  have hidle : s.ap.pc.phase = .idle := (phase_of_outside houtside).resolve_left hon
  have hended := hprogress.ended_le
  have haccepted := hprogress.accepted_le
  have hrunning : s.ap.pc.phase ≠ .running := by rw [hidle]; nofun
  have hnone := hprogress.notRunning hrunning
  constructor
  all_goals simp only [hap, hcontext, hhistory]
  · exact hprogress.accepted
  · exact hprogress.ended
  · exact fun hphase => absurd hphase hrunning
  · exact fun _ => hnone
  · refine .inl ⟨trivial, ?_⟩
    simp only [List.length_append, List.length_singleton]
    omega
  · simp [hidle]
  · simp [hidle]
  · exact hprogress.started
  · intro _ job hjob
    simp only [List.getLast?_concat, Option.mem_some_iff] at hjob
    subst hjob
    exact hwritten.congr rfl rfl rfl rfl
  · exact ApPc.loadedFrom_of_notRunning (ApPc.notRunning_of_outside houtside) _

/-- A write of core 0 to the context it is filling. -/
theorem Progress.write {s t : Pair} (hprogress : s.Progress) (write : ContextWrite)
    (houtside : s.ap.pc.holds = false)
    (hall : s.history.jobs.length ≤ s.history.ended.length) (hap : t.ap = s.ap)
    (hcontext : t.context = write.apply s.context) (hhistory : t.history = s.history) :
    t.Progress := by
  have hqueued : (write.apply s.context).jobQueued = s.context.jobQueued := by
    cases write <;> rfl
  have hstarted : (write.apply s.context).started = s.context.started := by
    cases write <;> rfl
  constructor
  all_goals simp only [hap, hcontext, hhistory, hqueued, hstarted]
  · exact hprogress.accepted
  · exact hprogress.ended
  · exact hprogress.running
  · exact hprogress.notRunning
  · exact hprogress.queued
  · exact hprogress.taking
  · exact hprogress.unready
  · exact hprogress.started
  · intro hcurrent
    omega
  · exact ApPc.loadedFrom_of_notRunning (ApPc.notRunning_of_outside houtside) _

/-- Core 0 hands its lock over to a processor it has started. -/
theorem Progress.handOver {s t : Pair} (hprogress : s.Progress) (hoff : s.ap.pc = .off)
    (hap : t.ap.pc = .entryPoint) (hcontext : t.context = s.context)
    (hhistory : t.history = s.history) : t.Progress := by
  have hnone := hprogress.notRunning (by rw [hoff]; nofun)
  have hunready := hprogress.unready (.inl (by rw [hoff]; rfl))
  constructor
  all_goals simp only [hap, hcontext, hhistory]
  · exact hprogress.accepted
  · exact hprogress.ended
  · nofun
  · exact fun _ => hnone
  · exact hprogress.queued
  · nofun
  · exact fun _ => hunready
  · nofun
  · exact hprogress.current
  · trivial

theorem Core0Knows.congr {s t : Pair} {phase : Core0Phase} (hknows : s.Core0Knows phase)
    (hap : s.ap.pc.phase ≠ .off → t.ap.pc.phase ≠ .off) (hjob : t.core0.job = s.core0.job)
    (hjobs : t.history.jobs = s.history.jobs)
    (hended : s.history.ended.length ≤ t.history.ended.length)
    (hinputs : s.context.SameInputs t.context) : t.Core0Knows phase := by
  cases phase with
  | outside => trivial
  | starting => trivial
  | handing => trivial
  | requested => trivial
  | boot => trivial
  | checked => exact hap hknows
  | admitting => exact hap hknows
  | filling rest =>
      obtain ⟨hon, hall, hwritten⟩ := hknows
      refine ⟨hap hon, ?_, ?_⟩
      · rw [hjobs]
        exact hall.trans hended
      · rw [hjob]
        exact (hinputs.applyAll rest).writtenIn hwritten
  | waiting =>
      obtain ⟨hon, hlast⟩ := hknows
      refine ⟨hap hon, ?_⟩
      rw [hjobs, hjob, hlast]
  | gaveUp =>
      obtain ⟨hon, hlast⟩ := hknows
      refine ⟨hap hon, ?_⟩
      rw [hjobs, hjob, hlast]
  | finished =>
      obtain ⟨hon, hlast, hall⟩ := hknows
      refine ⟨hap hon, ?_, ?_⟩
      · rw [hjobs, hjob, hlast]
      · rw [hjobs]
        exact hall.trans hended

/-- Whatever core 0 does, the processor's progress stays in order. -/
theorem Core0Effect.progress {s t : Pair} (heffect : Core0Effect s t)
    (hinv : s.JobInvariant) : t.Progress := by
  have hknows := hinv.knows
  cases heffect with
  | request request hpc =>
      cases request <;>
        exact hinv.progress.congr rfl rfl rfl rfl ⟨rfl, rfl, rfl, rfl⟩ rfl rfl
  | @write write rest hpc =>
      have houtside := hinv.lock.outside_ap (by rw [hpc]; rfl)
      rw [hpc] at hknows
      exact hinv.progress.write write houtside hknows.2.1 rfl rfl rfl
  | queue hpc =>
      have houtside := hinv.lock.outside_ap (by rw [hpc]; rfl)
      rw [hpc] at hknows
      obtain ⟨hon, hall, hwritten⟩ := hknows
      exact hinv.progress.queue houtside hon hall hwritten rfl rfl rfl
  | handOver rsp hpc hap => exact hinv.progress.handOver hap rfl rfl rfl
  | _ => exact hinv.progress.congr rfl rfl rfl rfl ⟨rfl, rfl, rfl, rfl⟩ rfl rfl

/-- With the lock in core 0's hands and no job queued, all jobs have ended. -/
theorem JobInvariant.all_ended {s : Pair} (hinv : s.JobInvariant)
    (hholds : s.core0.pc.holds = true) (hqueued : s.context.jobQueued ≠ 1) :
    s.history.jobs.length ≤ s.history.ended.length := by
  have hnone := hinv.notRunning hholds
  rcases hinv.progress.queued with ⟨hone, -⟩ | ⟨-, hcount⟩
  · exact absurd hone hqueued
  · exact (hcount.trans hnone).le

theorem Core0Effect.knows {s t : Pair} (heffect : Core0Effect s t)
    (hinv : s.JobInvariant) : t.Core0Knows t.core0.pc.phase := by
  have hknows := hinv.knows
  have hsame : s.context.SameInputs s.context := ⟨rfl, rfl, rfl, rfl⟩
  cases heffect with
  | request request hpc => cases request <;> trivial
  | elsewhere stack hpc => exact hknows.congr id rfl rfl le_rfl hsame
  | look hphase =>
      simp only [setCore0Pc_core0_pc, hphase]
      exact hknows.congr id rfl rfl le_rfl hsame
  | check hpc hstarted => exact hinv.progress.started hstarted
  | acquire hfree hbefore hafter hphase =>
      have hlocked : s.context.SameInputs { s.context with lock := 1 } := ⟨rfl, rfl, rfl, rfl⟩
      rcases hphase with hphase | ⟨hchecked, hphase⟩
      · simp only [setCore0Pc_core0_pc, hphase]
        exact hknows.congr id rfl rfl le_rfl hlocked
      · simp only [setCore0Pc_core0_pc, hphase]
        rw [hchecked] at hknows
        exact hknows
  | fill hpc hqueued =>
      have hall := hinv.all_ended (by rw [hpc]; rfl) hqueued
      rw [hpc] at hknows
      exact ⟨hknows, hall, Job.writtenIn_applyAll_writes _ _⟩
  | write hpc =>
      rw [hpc] at hknows
      exact hknows
  | queue hpc =>
      rw [hpc] at hknows
      exact ⟨hknows.1, List.getLast?_concat⟩
  | finish hpc hqueued =>
      have hall := hinv.all_ended (by rw [hpc]; rfl) (by rw [hqueued]; decide)
      rw [hpc] at hknows
      exact ⟨hknows.1, hknows.2, hall⟩
  | @readFlag timedOut hpc =>
      rw [hpc] at hknows
      exact Core0Knows.congr hknows id rfl rfl le_rfl hsame
  | timeOut hpc =>
      rw [hpc] at hknows
      exact hknows
  | release hbefore hafter hphase =>
      simp only [setCore0Pc_core0_pc, hphase]
      exact hknows.congr id rfl rfl le_rfl ⟨rfl, rfl, rfl, rfl⟩
  | clear hpc =>
      simp only [setCore0Pc_core0_pc, hinv.lock.ofProcessor.phase_clear hpc]
      exact hknows.congr id rfl rfl le_rfl ⟨rfl, rfl, rfl, rfl⟩
  | _ => trivial

/-- Core 0's steps keep the invariant. -/
theorem JobInvariant.core0Step {mode : UnlockMode} {choice : Core0Choice} {s t : Pair}
    (hinv : s.JobInvariant) (hclean : s.CleanUnlock (.core0 choice))
    (hstep : s.core0Step mode choice = some t) : t.JobInvariant := by
  have heffect := core0Effect hinv.lock.ofProcessor.coreId hinv.lock.ofProcessor.phase hstep
  exact ⟨hinv.lock.step hclean hstep, heffect.progress hinv, heffect.knows hinv⟩

/-- What every step of the processor leaves alone. -/
structure ApFrame (s t : Pair) : Prop where
  core0 : t.core0 = s.core0
  on : t.ap.pc.phase ≠ .off
  jobs : t.history.jobs = s.history.jobs
  ended : s.history.ended.length ≤ t.history.ended.length
  inputs : s.context.SameInputs t.context

theorem ApEffect.frame {s t : Pair} (heffect : ApEffect s t) : ApFrame s t := by
  cases heffect with
  | look hsame hphase hoff =>
      exact ⟨rfl, mt ApPc.phase_eq_off.mp hoff, rfl, le_rfl, hsame.toSameInputs⟩
  | compute hpc hsame => exact ⟨rfl, nofun, rfl, le_rfl, hsame.toSameInputs⟩
  | storeFault hbefore hafter =>
      refine ⟨rfl, ?_, rfl, le_rfl, ⟨rfl, rfl, rfl, rfl⟩⟩
      simp only [setApPc_ap_pc, hafter.1]
      nofun
  | release hpc hafter =>
      refine ⟨rfl, ?_, rfl, le_rfl, ⟨rfl, rfl, rfl, rfl⟩⟩
      rcases hafter with rfl | rfl <;> nofun
  | endReturn => exact ⟨rfl, nofun, rfl, by simp [endJob], ⟨rfl, rfl, rfl, rfl⟩⟩
  | endRecovery => exact ⟨rfl, nofun, rfl, by simp [endJob], ⟨rfl, rfl, rfl, rfl⟩⟩
  | _ => exact ⟨rfl, nofun, rfl, le_rfl, ⟨rfl, rfl, rfl, rfl⟩⟩

/-- A step within one phase of the processor. -/
theorem Progress.samePhase {s t : Pair} (hprogress : s.Progress)
    (hphase : t.ap.pc.phase = s.ap.pc.phase) (hjob : t.ap.job = s.ap.job)
    (hoff : t.ap.pc.phase ≠ .off) (hjobs : t.history.jobs = s.history.jobs)
    (haccepted : t.history.accepted = s.history.accepted)
    (hended : t.history.ended = s.history.ended)
    (hinputs : s.context.SameInputs t.context)
    (hqueued : t.context.jobQueued = s.context.jobQueued)
    (hloaded : t.ap.pc.LoadedFrom s.context) : t.Progress := by
  constructor
  case loaded => exact hloaded.congr hinputs
  all_goals simp only [hphase, hjob, hjobs, haccepted, hended, hqueued]
  · exact hprogress.accepted
  · exact hprogress.ended
  · exact hprogress.running
  · exact hprogress.notRunning
  · exact hprogress.queued
  · exact hprogress.taking
  · exact hprogress.unready
  · exact fun _ => hphase ▸ hoff
  · intro hcurrent job hjob
    exact hinputs.writtenIn (hprogress.current hcurrent job hjob)

/-- The processor moves on without a job. -/
theorem Progress.idle {s t : Pair} (hprogress : s.Progress)
    (hbefore : s.ap.pc.phase ≠ .running) (hafter : t.ap.pc.phase = .idle ∨
      t.ap.pc.phase = .taking ∧ s.history.jobs.length = s.history.accepted.length + 1)
    (hhistory : t.history = s.history) (hinputs : s.context.SameInputs t.context)
    (hqueued : t.context.jobQueued = s.context.jobQueued ∨
      t.context.jobQueued = 0 ∧ s.history.jobs.length = s.history.accepted.length) :
    t.Progress := by
  have hnone := hprogress.notRunning hbefore
  have hrunning : t.ap.pc.phase ≠ .running := by
    rcases hafter with hafter | ⟨hafter, -⟩ <;> rw [hafter] <;> nofun
  constructor
  case started =>
    intro _ hphase
    rcases hafter with hafter | ⟨hafter, -⟩ <;> simp [hafter] at hphase
  case loaded => exact ApPc.loadedFrom_of_notRunning hrunning _
  all_goals simp only [hhistory]
  · exact hprogress.accepted
  · exact hprogress.ended
  · exact fun hphase => absurd hphase hrunning
  · exact fun _ => hnone
  · rcases hqueued with hqueued | hqueued
    · rw [hqueued]
      exact hprogress.queued
    · exact .inr hqueued
  · intro hphase
    rcases hafter with hafter | ⟨-, hcount⟩
    · rw [hafter] at hphase
      cases hphase
    · exact hcount
  · intro hphase
    rcases hafter with hafter | ⟨hafter, -⟩ <;> simp [hafter] at hphase
  · intro hcurrent job hjob
    exact hinputs.writtenIn (hprogress.current hcurrent job hjob)

/-- The processor accepts the queued job. -/
theorem Progress.accept {s t : Pair} (hprogress : s.Progress)
    (hphase : s.ap.pc.phase = .taking)
    (hap : t.ap = { s.ap with pc := .jobReadFault, job := s.lastJob })
    (hcontext : t.context = { s.context with jobQueued := 0 })
    (hhistory : t.history = { s.history with
      accepted := s.lastJob :: s.history.accepted }) : t.Progress := by
  have hcount := hprogress.taking hphase
  have hnone := hprogress.notRunning (by rw [hphase]; nofun)
  have hlast : s.lastJob = s.history.accepted.length := by simp [lastJob, hcount]
  constructor
  all_goals simp only [hap, hcontext, hhistory, hlast, List.length_cons]
  · rw [List.range_succ, List.reverse_append]
    exact congrArg _ hprogress.accepted
  · exact hprogress.ended
  · exact fun _ => ⟨by omega, by omega, hnone⟩
  · exact fun hrunning => absurd rfl hrunning
  · exact .inr ⟨trivial, hcount⟩
  · nofun
  · nofun
  · nofun
  · intro hcurrent job hjob
    exact (hprogress.current hcurrent job hjob).congr rfl rfl rfl rfl
  · trivial

/-- The running job ends. -/
theorem Progress.endJob {s t : Pair} (hprogress : s.Progress)
    (hphase : s.ap.pc.phase = .running)
    (hafter : t.ap.pc.phase = .idle ∨ t.ap.pc.phase = .starting)
    (hcontext : t.context = s.context) (hhistory : t.history = s.endJob.history) :
    t.Progress := by
  obtain ⟨haccepted, hcount, hjob⟩ := hprogress.running hphase
  have hrunning : t.ap.pc.phase ≠ .running := by
    rcases hafter with hafter | hafter <;> rw [hafter] <;> nofun
  constructor
  case started =>
    intro _ hoff
    rcases hafter with hafter | hafter <;> simp [hafter] at hoff
  case loaded => exact ApPc.loadedFrom_of_notRunning hrunning _
  all_goals simp only [hcontext, hhistory, Pair.endJob, List.length_cons]
  · exact hprogress.accepted
  · rw [List.range_succ, List.reverse_append, hjob]
    exact congrArg _ hprogress.ended
  · exact fun hagain => absurd hagain hrunning
  · exact fun _ => haccepted
  · exact hprogress.queued
  · intro htaking
    rcases hafter with hafter | hafter <;> simp [hafter] at htaking
  · exact fun _ => hcount
  · intro hcurrent
    omega

theorem Progress.apEffect {s t : Pair} (hprogress : s.Progress) (heffect : ApEffect s t) :
    t.Progress := by
  have hframe := heffect.frame
  have hloaded := hprogress.loaded
  cases heffect with
  | look hsame hphase hoff hholds hzeroing hload =>
      exact hprogress.samePhase hphase rfl hframe.on rfl rfl rfl hframe.inputs
        hsame.jobQueued (hload hloaded)
  | acquire hpc hfree =>
      exact hprogress.idle (by rw [hpc]; nofun) (.inl rfl) rfl hframe.inputs (.inl rfl)
  | take hpc hqueued =>
      have hcount : s.history.jobs.length = s.history.accepted.length + 1 := by
        rcases hprogress.queued with ⟨-, hcount⟩ | ⟨hzero, -⟩
        · exact hcount
        · exact absurd hzero hqueued
      exact hprogress.idle (by rw [hpc]; nofun) (.inr ⟨rfl, hcount⟩) rfl hframe.inputs
        (.inl rfl)
  | clearQueued hpc =>
      have hcount := hprogress.unready (.inr (by rw [hpc]; rfl))
      exact hprogress.idle (by rw [hpc]; nofun) (.inl rfl) rfl hframe.inputs
        (.inr ⟨rfl, hcount⟩)
  | accept hpc => exact hprogress.accept (by rw [hpc]; rfl) rfl rfl rfl
  | own hpc hclear =>
      exact hprogress.samePhase (by rw [hpc]; rfl) rfl hframe.on rfl rfl rfl hframe.inputs
        rfl trivial
  | zero hpc =>
      exact hprogress.samePhase (by rw [hpc]; rfl) rfl hframe.on rfl rfl rfl hframe.inputs
        rfl trivial
  | compute hpc hsame hload =>
      rw [hpc] at hloaded
      exact hprogress.samePhase (by rw [hpc]; rfl) rfl hframe.on rfl rfl rfl hframe.inputs
        hsame.jobQueued ⟨hloaded.1, hload hloaded.2⟩
  | storeFault hbefore hafter hholds hchange hload =>
      have hphase := hafter.1.trans hbefore.1.symm
      exact hprogress.samePhase hphase rfl hframe.on rfl rfl rfl hframe.inputs rfl
        (hload hloaded)
  | recordFault hpc =>
      rw [hpc] at hloaded
      exact hprogress.samePhase (by rw [hpc]; rfl) rfl hframe.on rfl rfl rfl hframe.inputs
        rfl hloaded
  | endReturn hpc hslot =>
      exact hprogress.endJob (by rw [hpc]; rfl) (.inl rfl) rfl rfl
  | endRecovery hpc => exact hprogress.endJob (by rw [hpc]; rfl) (.inr rfl) rfl rfl
  | release hpc hafter =>
      have hidle : ∀ after : ApPc, after = .unlockCompareExchange ∨ after = .spin →
          after.phase = .idle := by
        rintro after (rfl | rfl) <;> rfl
      exact hprogress.idle (by rw [hpc]; nofun) (.inl (hidle _ hafter)) rfl hframe.inputs
        (.inl rfl)
  | clear hpc =>
      exact hprogress.idle (by rw [hpc]; nofun) (.inl rfl) rfl hframe.inputs (.inl rfl)

/-- The processor's steps keep the invariant. -/
theorem JobInvariant.apStep {mode : UnlockMode} {choice : ApChoice} {s t : Pair}
    (hinv : s.JobInvariant) (hclean : s.CleanUnlock (.ap choice))
    (hstep : s.apStep mode choice = some t) : t.JobInvariant := by
  have heffect := Pair.apEffect hstep
  have hframe := heffect.frame
  have hlock : t.LockInvariant :=
    hinv.lock.step hclean (show Pair.step mode (.ap choice) s = some t from hstep)
  refine ⟨hlock, hinv.progress.apEffect heffect, ?_⟩
  rw [hframe.core0]
  exact hinv.knows.congr (fun _ => hframe.on) (by rw [hframe.core0]) hframe.jobs hframe.ended
    hframe.inputs

theorem JobInvariant.step {mode : UnlockMode} {label : Label} {s t : Pair}
    (hinv : s.JobInvariant) (hclean : s.CleanUnlock label)
    (hstep : Pair.step mode label s = some t) : t.JobInvariant := by
  cases label with
  | core0 choice => exact hinv.core0Step hclean hstep
  | ap choice => exact hinv.apStep hclean hstep

theorem Booted.jobInvariant {s : Pair} (hbooted : s.Booted) : s.JobInvariant := by
  obtain ⟨result, hpc⟩ := hbooted.core0
  refine ⟨hbooted.lockInvariant, ?_, by rw [hpc]; trivial⟩
  constructor
  all_goals simp [hbooted.history, History.empty, hbooted.ap, hbooted.started,
    hbooted.jobQueued, ApPc.phase, ApPc.LoadedFrom]

/-! ## Locks released in one step -/

/-- Neither party is in the middle of `unlock_context`. -/
structure Released (s : Pair) : Prop where
  core0 : s.core0.pc.unlocking = false
  ap : s.ap.pc.unlocking = false

theorem core0_released {choice : Core0Choice} {s t : Pair}
    (hstep : s.core0Step .atomic choice = some t) : t.core0.pc.unlocking = false := by
  unfold core0Step at hstep
  cases hpc : s.core0.pc
  all_goals rw [hpc] at hstep
  all_goals cases choice
  all_goals simp only [reduceCtorEq, Option.some.injEq] at hstep
  case returned.request result request =>
    subst hstep
    cases request <;> rfl
  case sendMsrLow.next =>
    split at hstep <;> cases hstep
    rfl
  case sendMsrHigh.next =>
    split at hstep <;> cases hstep
    rfl
  case startOnCore.startup rsp =>
    cases rsp with
    | none =>
        cases hstep
        rfl
    | some rsp =>
        simp only [Option.ite_none_right_eq_some, Option.some.injEq] at hstep
        obtain ⟨-, rfl⟩ := hstep
        rfl
  all_goals subst hstep
  case returned.elsewhere =>
    rw [hpc]
    rfl
  case unlockStore.next after => exact after.unlocking_pc _
  case unlockCompareExchange.next after => exact after.unlocking_pc _
  case write.next rest =>
    cases rest with
    | nil =>
      simp only [fillContext]
      split <;> rfl
    | cons => rfl
  case waitPause.next iterations =>
    simp only [pauseWait]
    split_ifs
    · exact s.core0.job.unlocking_afterWait true
    · rfl
    · rfl
  all_goals first
    | (simp only [setCore0Pc_core0_pc]; split <;> rfl)
    | rfl

theorem ap_released {choice : ApChoice} {s t : Pair}
    (hstep : s.apStep .atomic choice = some t) : t.ap.pc.unlocking = false := by
  unfold apStep at hstep
  cases hpc : s.ap.pc
  all_goals rw [hpc] at hstep
  case body frame pc =>
    cases pc
    all_goals cases choice
    all_goals simp only [bodyStep, reduceCtorEq, Option.some.injEq] at hstep
    all_goals subst hstep
    all_goals rfl
  all_goals cases choice
  all_goals simp only [reduceCtorEq, Option.some.injEq] at hstep
  all_goals subst hstep
  case call.next =>
    split
    · split <;> rfl
    · rfl
  case handlerNumber.next =>
    simp only [setApPc_ap_pc, afterHandler]
    split_ifs <;> rfl
  all_goals first
    | (simp only [setApPc_ap_pc]; split <;> rfl)
    | (split <;> rfl)
    | rfl

/-- Core 0 moves the processor only to start it. -/
theorem Core0Effect.ap {s t : Pair} (heffect : Core0Effect s t) :
    t.ap = s.ap ∨ t.ap.pc = .entryPoint := by
  cases heffect with
  | request request => cases request <;> exact .inl rfl
  | handOver => exact .inr rfl
  | _ => exact .inl rfl

theorem Core0Effect.accepted {s t : Pair} (heffect : Core0Effect s t) :
    t.history.accepted = s.history.accepted := by
  cases heffect with
  | request request => cases request <;> rfl
  | _ => rfl

theorem Released.step {label : Label} {s t : Pair} (hs : s.OfProcessor)
    (hreleased : s.Released) (hstep : Pair.step .atomic label s = some t) :
    t.Released := by
  cases label with
  | core0 choice =>
      change s.core0Step .atomic choice = some t at hstep
      refine ⟨core0_released hstep, ?_⟩
      rcases (core0Effect hs.coreId hs.phase hstep).ap with hap | hap
      · rw [hap]
        exact hreleased.ap
      · rw [hap]
        rfl
  | ap choice =>
      change s.apStep .atomic choice = some t at hstep
      refine ⟨?_, ap_released hstep⟩
      rw [(Pair.apEffect hstep).frame.core0]
      exact hreleased.core0

theorem Released.cleanUnlock {s : Pair} (hreleased : s.Released) (label : Label) :
    s.CleanUnlock label := by
  cases label with
  | core0 choice => simp [CleanUnlock, hreleased.core0]
  | ap choice => simp [CleanUnlock, hreleased.ap]

/-- What the processor runs is one accepted job at a time, with the inputs that
core 0 wrote for it; a job is accepted, and a context filled for the next one,
only after all earlier jobs have ended. -/
structure UnmixedJobs (s : Pair) : Prop where
  acceptedOnce : s.history.accepted.Nodup
  running : s.ap.pc.phase = .running →
    s.history.accepted.head? = some s.ap.job ∧
      s.ap.job ∉ s.history.ended.map Prod.fst
  inputs : s.ap.pc.phase = .running →
    ∃ job, s.history.jobs[s.ap.job]? = some job ∧ job.WrittenIn s.context ∧
      s.ap.pc.LoadedFrom s.context
  accepting : ∀ later ∈ s.history.accepted, ∀ earlier < later,
    earlier ∈ s.history.ended.map Prod.fst
  filling : ∀ rest, s.core0.pc = .write rest → ∀ earlier < s.history.jobs.length,
    earlier ∈ s.history.ended.map Prod.fst

theorem JobInvariant.unmixedJobs {s : Pair} (hinv : s.JobInvariant) : s.UnmixedJobs := by
  have hprogress := hinv.progress
  have hended_le := hprogress.ended_le
  constructor
  · rw [hprogress.accepted]
    exact List.nodup_reverse.mpr List.nodup_range
  · intro hrunning
    obtain ⟨haccepted, -, hjob⟩ := hprogress.running hrunning
    rw [hprogress.accepted, hprogress.ended, hjob, haccepted]
    simp [List.range_succ]
  · intro hrunning
    obtain ⟨haccepted, hjobs, hjob⟩ := hprogress.running hrunning
    have hlast : s.history.jobs.getLast? = s.history.jobs[s.ap.job]? := by
      rw [List.getLast?_eq_getElem?, hjobs, haccepted, hjob]
      rfl
    have hbound : s.ap.job < s.history.jobs.length := by omega
    have hget : s.history.jobs[s.ap.job]? = some s.history.jobs[s.ap.job] :=
      List.getElem?_eq_getElem hbound
    refine ⟨_, hget, ?_, hprogress.loaded⟩
    exact hprogress.current (by omega) _ (hlast.trans hget)
  · intro later hlater earlier hearlier
    rw [hprogress.accepted] at hlater
    rw [hprogress.ended]
    simp only [List.mem_reverse, List.mem_range] at hlater ⊢
    by_cases hrunning : s.ap.pc.phase = .running
    · have hcount := hprogress.running hrunning
      omega
    · have hcount := hprogress.notRunning hrunning
      omega
  · intro rest hpc earlier hearlier
    have hknows := hinv.knows
    rw [hpc] at hknows
    have hall := hknows.2.1
    rw [hprogress.ended]
    simp only [List.mem_reverse, List.mem_range]
    omega

/-! ## Calls -/

/-- The step calls the function in a slot of the job that is running. -/
def callMade (s : Pair) : Label → Option (ℕ × ℕ)
  | .ap _ =>
      match s.ap.pc with
      | .callArg slot _ => some (s.ap.job, slot)
      | _ => none
  | .core0 _ => none

/-- The calls of a run, the last one first. -/
def callsMade (past : List (Pair × Label)) : List (ℕ × ℕ) :=
  past.filterMap fun entry => entry.1.callMade entry.2

/-- `call_core_functions` goes up through the slots. -/
structure CalledInOrder (calls : List (ℕ × ℕ)) (s : Pair) : Prop where
  once : calls.Nodup
  accepted : ∀ call ∈ calls, call.1 ∈ s.history.accepted
  below : ∀ slot ∈ s.ap.pc.nextSlot, ∀ call ∈ calls, call.1 = s.ap.job → call.2 < slot

theorem CalledInOrder.core0Step {mode : UnlockMode} {choice : Core0Choice} {s t : Pair}
    {calls : List (ℕ × ℕ)} (hs : s.OfProcessor) (hcalls : s.CalledInOrder calls)
    (hstep : s.core0Step mode choice = some t) : t.CalledInOrder calls := by
  have heffect := core0Effect hs.coreId hs.phase hstep
  refine ⟨hcalls.once, ?_, ?_⟩
  · rw [heffect.accepted]
    exact hcalls.accepted
  · rcases heffect.ap with hap | hap
    · rw [hap]
      exact hcalls.below
    · rw [hap]
      rintro _ ⟨⟩

/-- A step of the processor that calls nothing. -/
theorem CalledInOrder.goOn {s t : Pair} {calls : List (ℕ × ℕ)} (hcalls : s.CalledInOrder calls)
    (hjob : t.ap.job = s.ap.job) (haccepted : t.history.accepted = s.history.accepted)
    (hslot : ∀ slot ∈ t.ap.pc.nextSlot, ∃ before ∈ s.ap.pc.nextSlot, before ≤ slot) :
    t.CalledInOrder calls := by
  refine ⟨hcalls.once, haccepted ▸ hcalls.accepted, ?_⟩
  intro slot hnext call hcall hsame
  obtain ⟨before, hbefore, hle⟩ := hslot slot hnext
  exact (hcalls.below before hbefore call hcall (hsame.trans hjob)).trans_le hle

theorem CalledInOrder.bodyStep {frame : CallFrame} {pc : BodyPc} {choice : ApChoice}
    {s t : Pair} {calls : List (ℕ × ℕ)} (hpc : s.ap.pc = .body frame pc)
    (hcalls : s.CalledInOrder calls) (hstep : s.bodyStep frame pc choice = some t) :
    t.CalledInOrder calls := by
  have hslot : ∀ slot, slot = frame.slot + 1 → ∃ before ∈ s.ap.pc.nextSlot, before ≤ slot := by
    rintro slot rfl
    rw [hpc]
    exact ⟨_, rfl, le_rfl⟩
  cases pc
  all_goals cases choice
  all_goals simp only [Pair.bodyStep, reduceCtorEq, Option.some.injEq] at hstep
  all_goals subst hstep
  all_goals exact hcalls.goOn rfl rfl fun slot hnext => hslot slot (Option.some.inj hnext).symm

theorem CalledInOrder.apStep {mode : UnlockMode} {choice : ApChoice} {s t : Pair}
    {calls : List (ℕ × ℕ)} (hs : s.UnmixedJobs) (ht : t.UnmixedJobs)
    (hcalls : s.CalledInOrder calls) (hstep : s.apStep mode choice = some t) :
    t.CalledInOrder ((s.callMade (.ap choice)).toList ++ calls) := by
  unfold Pair.apStep at hstep
  cases hpc : s.ap.pc
  all_goals rw [hpc] at hstep
  case body frame pc => simpa [callMade, hpc] using hcalls.bodyStep hpc hstep
  all_goals cases choice
  all_goals simp only [reduceCtorEq, Option.some.injEq] at hstep
  all_goals simp only [callMade, hpc, Option.toList_none, Option.toList_some, List.nil_append,
    List.singleton_append]
  case callArg.next slot func =>
    -- the call itself: its slot is above those of the job's earlier calls
    have hbelow := hcalls.below slot (by rw [hpc]; rfl)
    have hrunning := (hs.running (by rw [hpc]; rfl)).1
    subst hstep
    refine ⟨?_, ?_, ?_⟩
    · refine List.nodup_cons.mpr ⟨fun hmem => ?_, hcalls.once⟩
      exact lt_irrefl _ (hbelow _ hmem rfl)
    · refine List.forall_mem_cons.mpr ⟨?_, hcalls.accepted⟩
      exact List.mem_of_mem_head? hrunning
    · rintro _ ⟨⟩
      refine List.forall_mem_cons.mpr ⟨fun _ => Nat.lt_succ_self _, ?_⟩
      exact fun call hcall hsame => (hbelow call hcall hsame).trans (Nat.lt_succ_self _)
  case jobClearQueued.next =>
    -- no job that was accepted before has the number of this one
    have honce := ht.acceptedOnce
    subst hstep
    refine ⟨hcalls.once, fun call hcall => List.mem_cons_of_mem _ (hcalls.accepted call hcall), ?_⟩
    rintro _ - call hcall hsame
    have hbefore := hcalls.accepted call hcall
    rw [hsame] at hbefore
    exact absurd hbefore (List.nodup_cons.mp honce).1
  all_goals subst hstep
  case jobReadFault.next =>
    split <;> exact hcalls.goOn rfl rfl (by rintro _ ⟨⟩; rw [hpc]; exact ⟨_, rfl, le_rfl⟩)
  case jobZeroFault.next =>
    exact hcalls.goOn rfl rfl (by rintro _ ⟨⟩; rw [hpc]; exact ⟨_, rfl, le_rfl⟩)
  case call.next slot =>
    split
    · split
      · exact hcalls.goOn rfl rfl (by rintro _ ⟨⟩; rw [hpc]; exact ⟨_, rfl, Nat.le_succ _⟩)
      · exact hcalls.goOn rfl rfl (by rintro _ ⟨⟩; rw [hpc]; exact ⟨_, rfl, le_rfl⟩)
    · exact hcalls.goOn rfl rfl (by rintro _ ⟨⟩)
  case handlerStore.next =>
    exact hcalls.goOn rfl rfl (by rintro _ ⟨⟩; rw [hpc]; exact ⟨_, rfl, le_rfl⟩)
  case handlerOccured.next =>
    exact hcalls.goOn rfl rfl (by rintro _ ⟨⟩; rw [hpc]; exact ⟨_, rfl, le_rfl⟩)
  case handlerNumber.next frame pc vector =>
    refine hcalls.goOn rfl rfl ?_
    rw [hpc]
    simp only [setApPc_ap_pc, afterHandler]
    split_ifs <;> rintro _ ⟨⟩ <;> exact ⟨_, rfl, le_rfl⟩
  case unlockStore.next => cases mode <;> exact hcalls.goOn rfl rfl (by rintro _ ⟨⟩)
  all_goals first
    | exact hcalls.goOn rfl rfl (by rintro _ ⟨⟩)
    | exact hcalls.goOn rfl rfl (by simp only [setApPc_ap_pc]; split <;> rintro _ ⟨⟩)

theorem calledInOrder_of_run {past : List (Pair × Label)} {s : Pair}
    (hrun : Run Booted (Pair.step .atomic) past s)
    (hinvariant : Always JobInvariant past s) : s.CalledInOrder (callsMade past) := by
  induction hrun with
  | start hbooted =>
      refine ⟨List.nodup_nil, by rintro _ ⟨⟩, ?_⟩
      rw [hbooted.ap]
      rintro _ ⟨⟩
  | @next past s t label hrun hstep ih =>
      obtain ⟨ht, hbefore⟩ := always_cons.mp hinvariant
      have hmade : callsMade ((s, label) :: past) =
          (s.callMade label).toList ++ callsMade past := by
        rw [callsMade, List.filterMap_cons]
        cases s.callMade label <;> rfl
      rw [hmade]
      cases label with
      | core0 choice =>
          have htaken : s.core0Step .atomic choice = some t := hstep
          exact (ih hbefore).core0Step hbefore.1.lock.ofProcessor htaken
      | ap choice =>
          have htaken : s.apStep .atomic choice = some t := hstep
          exact (ih hbefore).apStep hbefore.1.unmixedJobs ht.unmixedJobs htaken

theorem always_unmixedJobs {past : List (Pair × Label)} {s : Pair}
    (hrun : Run Booted (Pair.step .atomic) past s) :
    Always UnmixedJobs past s ∧ (callsMade past).Nodup := by
  have hinvariant : Always (fun s => s.JobInvariant ∧ s.Released) past s := by
    apply hrun.always_of_step
    · intro s hbooted
      obtain ⟨result, hpc⟩ := hbooted.core0
      exact ⟨hbooted.jobInvariant, by rw [hpc]; rfl, by rw [hbooted.ap]; rfl⟩
    · rintro s label t ⟨hinv, hreleased⟩ hstep
      exact ⟨hinv.step (hreleased.cleanUnlock label) hstep,
        hreleased.step hinv.lock.ofProcessor hstep⟩
  exact ⟨hinvariant.mono fun s hs => hs.1.unmixedJobs,
    (calledInOrder_of_run hrun (hinvariant.mono fun s hs => hs.1)).once⟩

theorem always_unmixedJobs_machineCode :
    ∃ past t, exec (Pair.step .atomic) (startUp ++ submit ++ reachMachineCode)
        (afterInit 1) = some t ∧
      Run Booted (Pair.step .atomic) past t ∧ t.ap.pc.phase = .running ∧
      Always UnmixedJobs past t ∧ (callsMade past).Nodup := by
  obtain ⟨t, hexec, hrunning⟩ :
      ∃ t, exec (Pair.step .atomic) (startUp ++ submit ++ reachMachineCode)
        (afterInit 1) = some t ∧ t.ap.pc.phase = .running := ⟨_, rfl, rfl⟩
  obtain ⟨past, hrun⟩ := run_of_exec (booted_afterInit one_ne_zero) _ hexec
  exact ⟨past, t, hexec, hrun, hrunning, always_unmixedJobs hrun⟩

end Pair

end AngryUefi
