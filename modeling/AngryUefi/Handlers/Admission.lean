import AngryUefi.Handlers.Replies

/-!
# Which jobs a core gets

A job message is checked field by field, then `acquire_core_lock_for_job` checks
the core's context; every check that fails sends one status and undoes what has
been done so far.
-/

namespace AngryUefi

open AngryUefi.Bytes AngryUefi.Framing AngryUefi.Programs

namespace Machine

/-- A step that is another processor's own, or leaves the other cores alone. -/
def Apart (coreId : ℕ) (before after : Machine) : Prop :=
  (∃ other choice, other ≠ coreId ∧ before.step .twoStep (.ap other choice) = some after) ∨
    ∀ other ≠ coreId, after.contexts other = before.contexts other ∧
      after.aps other = before.aps other ∧ after.histories other = before.histories other

/-- What has become of the other cores is their own work. -/
def OthersRan (coreId : ℕ) : Machine → Machine → Prop := Relation.ReflTransGen (Apart coreId)

/-- What core 0 works with when it works on the context of a core. -/
structure View where
  core0 : Core0
  context : CoreContext
  history : History

def view (m : Machine) (coreId : ℕ) : View :=
  ⟨m.core0, m.contexts coreId, m.histories coreId⟩

/-- A step of core 0, whatever the rest of the machine is. -/
def View.Goes (coreId : ℕ) (before after : View) : Prop :=
  ∀ p : Pair, p.coreId = coreId → p.core0 = before.core0 → p.context = before.context →
    p.history = before.history → ∃ q, p.core0Step .twoStep .next = some q ∧
      q.core0 = after.core0 ∧ q.context = after.context ∧ q.history = after.history

theorem core0Move_of_goes {m : Machine} {coreId : ℕ} {after : View}
    (hgoes : (m.view coreId).Goes coreId after) :
    ∃ n, m.core0Move coreId .next = some n ∧ n.view coreId = after ∧ m.Apart coreId n := by
  obtain ⟨q, hstep, hcore0, hcontext, hhistory⟩ := hgoes (m.working coreId) rfl rfl rfl rfl
  refine ⟨_, congrArg (Option.map _) hstep, ?_, .inr ?_⟩
  · simp only [view, put, Function.update_self, hcore0, hcontext, hhistory]
  · intro other hother
    simp only [put, Function.update_of_ne hother, and_self]

theorem view_runProcessors {coreId : ℕ} {choices : List (ℕ × ApChoice)}
    (hstill : ∀ choice ∈ choices, choice.1 ≠ coreId) (m : Machine) :
    (m.runProcessors choices).view coreId = m.view coreId ∧
      m.OthersRan coreId (m.runProcessors choices) := by
  induction choices generalizing m with
  | nil => exact ⟨rfl, .refl⟩
  | cons choice choices ih =>
      rw [List.forall_mem_cons] at hstill
      obtain ⟨hview, hran⟩ := ih hstill.2 ((m.step .twoStep (.ap choice.1 choice.2)).getD m)
      rw [runProcessors, hview]
      cases hstep : m.step .twoStep (.ap choice.1 choice.2) with
      | none =>
          rw [hstep] at hran
          exact ⟨rfl, hran⟩
      | some next =>
          rw [hstep] at hran
          refine ⟨?_, hran.head (.inl ⟨_, _, hstill.1, hstep⟩)⟩
          simp only [step, Option.ite_none_right_eq_some, Option.map_eq_some_iff] at hstep
          obtain ⟨-, p, -, rfl⟩ := hstep
          simp only [Option.getD_some, view, put, Function.update_of_ne hstill.1.symm]

end Machine

namespace Handlers

variable {firmware : Firmware} {s t : Server}

/-! ## Rejections -/

/-- One status is sent, and only buffers have changed. -/
structure StatusSent (code : UInt32) (s t : Server) : Prop where
  trace : ∃ text, t.trace = s.trace ++
    [.constructed MessageType.status.code (littleEndian 4 code.toNat ++ text) true,
      .sent (frame (messageBody MessageType.status.code (littleEndian 4 code.toNat ++ text) true))]
  machine : t.machine = s.machine
  ucodes : t.ucodes = s.ucodes
  machineCodes : t.machineCodes = s.machineCodes

/-- The text that a rejection prints is sent behind its code. -/
theorem reject_run (hdelivers : firmware.Delivers) (hprints : firmware.Prints) (code : UInt32)
    (text : String) (arguments : List UInt64) (s : Server) :
    ∃ t, reject code text arguments firmware s = some (.invalidParameter, t) ∧
      StatusSent code s t := by
  obtain ⟨sent, t, hrest, -, htrace, hmachine, hucodes, hmachineCodes⟩ :=
    rejectWith_delivered hdelivers code .invalidParameter (s := { s with
      formatBuffer := firmware.unicodeSPrint text arguments }) (hprints text arguments)
  exact ⟨t, bind_eq_some_iff.mpr ⟨(), _, rfl, hrest⟩, ⟨sent, htrace⟩, hmachine, hucodes,
    hmachineCodes⟩

/-! ## Core 0's steps -/

/-- The processor of a core takes no step at these questions. -/
def Still (firmware : Firmware) (coreId first last : ℕ) : Prop :=
  ∀ number, first ≤ number → number < last →
    ∀ choice ∈ firmware.schedule number, choice.1 ≠ coreId

/-- Only the machine has changed, and of the other cores only what they did. -/
structure Worked (coreId : ℕ) (s t : Server) : Prop where
  others : s.machine.OthersRan coreId t.machine
  quiet : Quiet s t

theorem Worked.refl (coreId : ℕ) (s : Server) : Worked coreId s s :=
  ⟨.refl, refl_of Quiet s⟩

theorem Worked.trans {coreId : ℕ} {middle : Server} (hfirst : Worked coreId s middle)
    (hsecond : Worked coreId middle t) : Worked coreId s t :=
  ⟨hfirst.others.trans hsecond.others, trans_of Quiet hfirst.quiet hsecond.quiet⟩

variable {coreId : UInt64} {patience : ℕ} {view : Machine.View}

/-- The state in which `runCore0` looks at core 0. -/
def afterProcessors (firmware : Firmware) (s : Server) : Server :=
  { s with
    clock := s.clock + 2
    machine := s.machine.runProcessors (firmware.schedule s.clock) }

theorem worked_afterProcessors {last : ℕ} (hstill : Still firmware coreId.toNat s.clock last)
    (hlast : s.clock < last) :
    Worked coreId.toNat s (afterProcessors firmware s) ∧
      (afterProcessors firmware s).machine.view coreId.toNat = s.machine.view coreId.toNat := by
  obtain ⟨hview, hothers⟩ := Machine.view_runProcessors (hstill s.clock le_rfl hlast) s.machine
  exact ⟨⟨hothers, ⟨rfl, rfl, rfl, rfl, rfl⟩⟩, hview⟩

theorem runCore0_returned {result : HandlerResult}
    (hpc : (afterProcessors firmware s).machine.core0.pc = .returned result) :
    runCore0 coreId (patience + 1) firmware s = some (result, afterProcessors firmware s) := by
  refine bind_eq_some_iff.mpr ⟨(), _, rfl, bind_eq_some_iff.mpr ⟨_, _, rfl,
    bind_eq_some_iff.mpr ⟨firmware, _, rfl, bind_eq_some_iff.mpr ⟨_, _, rfl, ?_⟩⟩⟩⟩
  simp only [afterProcessors] at hpc
  simp only [hpc]
  rfl

/-- An iteration that takes a step. -/
theorem runCore0_step {machine : Machine}
    (hlive : (afterProcessors firmware s).machine.core0.pc.live = true)
    (hasks : asksFirmware (afterProcessors firmware s).machine.core0.pc = false)
    (hmove : (afterProcessors firmware s).machine.core0Move coreId.toNat .next = some machine) :
    runCore0 coreId (patience + 1) firmware s = runCore0 coreId patience firmware
      { afterProcessors firmware s with
        machine, accesses := s.accesses ++ [.core coreId.toNat] } := by
  obtain ⟨looked, hlooked⟩ : ∃ looked, looked = afterProcessors firmware s := ⟨_, rfl⟩
  have hmoved : core0Move coreId .next firmware looked = some ((),
      { looked with machine, accesses := looked.accesses ++ [.core coreId.toNat] }) := by
    rw [← hlooked] at hmove
    refine bind_eq_some_iff.mpr ⟨(), _, rfl, bind_eq_some_iff.mpr ⟨_, _, rfl, ?_⟩⟩
    simp only [hmove]
    rfl
  have hran : runProcessors firmware s = some ((), { looked with clock := s.clock + 1 }) := by
    rw [hlooked]
    rfl
  rw [← hlooked] at hlive hasks
  rw [runCore0, bind_of_eq_some hran]
  have hask : ask firmware { looked with clock := s.clock + 1 } =
      some (s.clock + 1, looked) := by
    rw [hlooked]
    rfl
  have hread : (read : Handler Firmware) firmware looked = some (firmware, looked) := rfl
  have hget : (get : Handler Server) firmware looked = some (looked, looked) := rfl
  rw [bind_of_eq_some hask, bind_of_eq_some hread, bind_of_eq_some hget]
  have hsame : ({ afterProcessors firmware s with
      machine, accesses := s.accesses ++ [Access.core coreId.toNat] } : Server) =
        { looked with machine, accesses := looked.accesses ++ [Access.core coreId.toNat] } := by
    rw [hlooked]
    rfl
  rw [hsame]
  generalize looked.machine.core0.pc = pc at hlive hasks
  split
  · cases hlive
  · rw [if_neg (by rw [hasks]; decide), bind_of_eq_some hmoved]

/-- Core 0 takes a step that does not depend on the rest of the machine. -/
theorem runCore0_goes {last : ℕ} (hstill : Still firmware coreId.toNat s.clock last)
    (hlast : s.clock < last) (hlive : s.machine.core0.pc.live = true)
    (hasks : asksFirmware s.machine.core0.pc = false)
    (hgoes : (s.machine.view coreId.toNat).Goes coreId.toNat view) (patience : ℕ) :
    ∃ t, Worked coreId.toNat s t ∧ t.clock = s.clock + 2 ∧
      t.machine.view coreId.toNat = view ∧
        runCore0 coreId (patience + 1) firmware s = runCore0 coreId patience firmware t := by
  obtain ⟨hworked, hview⟩ := worked_afterProcessors hstill hlast
  have hcore0 : (afterProcessors firmware s).machine.core0 = s.machine.core0 :=
    congrArg Machine.View.core0 hview
  rw [← hview] at hgoes
  obtain ⟨machine, hmove, hmoved, hapart⟩ := Machine.core0Move_of_goes hgoes
  rw [← hcore0] at hlive hasks
  refine ⟨_, hworked.trans ?_, rfl, hmoved, runCore0_step hlive hasks hmove⟩
  exact ⟨.single hapart, ⟨rfl, rfl, rfl, rfl, rfl⟩⟩

/-- Some steps of core 0 one after the other. -/
inductive Path (coreId : ℕ) : ℕ → Machine.View → Machine.View → Prop
  | refl (view : Machine.View) : Path coreId 0 view view
  | step {count : ℕ} {before middle after : Machine.View}
      (hlive : before.core0.pc.live = true) (hasks : asksFirmware before.core0.pc = false)
      (hgoes : before.Goes coreId middle) (hpath : Path coreId count middle after) :
      Path coreId (count + 1) before after

theorem runCore0_path {count last : ℕ} {before : Machine.View}
    (hpath : Path coreId.toNat count before view) (hbefore : s.machine.view coreId.toNat = before)
    (hstill : Still firmware coreId.toNat s.clock last) (hlast : s.clock + 2 * count ≤ last)
    (patience : ℕ) :
    ∃ t, Worked coreId.toNat s t ∧ t.clock = s.clock + 2 * count ∧
      t.machine.view coreId.toNat = view ∧
        runCore0 coreId (patience + count) firmware s = runCore0 coreId patience firmware t := by
  induction hpath generalizing s with
  | refl => exact ⟨s, Worked.refl _ s, rfl, hbefore, rfl⟩
  | @step count before middle after hlive hasks hgoes hpath ih =>
      subst hbefore
      obtain ⟨moved, hworked, hclock, hview, hrun⟩ :=
        runCore0_goes hstill (by omega) hlive hasks hgoes (patience + count)
      have hstillMoved : Still firmware coreId.toNat moved.clock last :=
        fun number hfirst hbound => hstill number (by omega) hbound
      obtain ⟨t, hrest, hclockRest, hviewRest, hrunRest⟩ := ih hview hstillMoved (by omega)
      exact ⟨t, hworked.trans hrest, by omega, hviewRest, hrun.trans hrunRest⟩

/-! ## `acquire_core_lock_for_job` -/

/-- The status of the first check that fails. -/
def rejectionCode (context : CoreContext) : Option UInt32 :=
  if context.present ≠ 1 then some 0x202
  else if context.started ≠ 1 then some 0x203
  else if context.lock ≠ 0 then some 0x204
  else if context.ready ≠ 1 then some 0x205
  else if context.jobQueued = 1 then some 0x206
  else none

variable {core : ℕ} {job : Job} {invocation : ℕ} {context : CoreContext} {history : History}

/-- Core 0 works on a job. -/
def serving (pc : Core0Pc) (job : Job) (invocation : ℕ) (context : CoreContext)
    (history : History) : Machine.View :=
  ⟨⟨pc, job, invocation⟩, context, history⟩

/-- A step that leaves the history alone. -/
theorem goes_of_step {before after : Core0Pc} {changed : CoreContext}
    (hstep : ∀ p : Pair, p.coreId = core → p.core0 = ⟨before, job, invocation⟩ →
      p.context = context → p.core0Step .twoStep .next =
        some { p.setCore0Pc after with context := changed }) :
    (serving before job invocation context history).Goes core
      (serving after job invocation changed history) := by
  intro p hcoreId hcore0 hcontext hhistory
  refine ⟨_, hstep p hcoreId hcore0 hcontext, ?_, rfl, hhistory⟩
  change (⟨after, p.core0.job, p.core0.invocation⟩ : Core0) = ⟨after, job, invocation⟩
  rw [hcore0]
  rfl

/-- A check of one field. -/
theorem goes_jobPresent :
    (serving .jobPresent job invocation context history).Goes core
      (serving (if context.present ≠ 1 then .returned (.rejected 0x202) else .jobStarted)
        job invocation context history) := by
  apply goes_of_step
  rintro p - hcore0 rfl
  simp only [Pair.core0Step, hcore0]
  rfl

theorem goes_jobStarted :
    (serving .jobStarted job invocation context history).Goes core
      (serving (if context.started ≠ 1 then .returned (.rejected 0x203) else .jobTryLock)
        job invocation context history) := by
  apply goes_of_step
  rintro p - hcore0 rfl
  simp only [Pair.core0Step, hcore0]
  rfl

theorem goes_jobTryLock :
    (serving .jobTryLock job invocation context history).Goes core
      (serving (if context.lock = 0 then .jobReady else .returned (.rejected 0x204)) job
        invocation (Pair.compareExchange context 0 1).2 history) := by
  apply goes_of_step
  rintro p - hcore0 rfl
  simp only [Pair.core0Step, hcore0]
  rfl

theorem goes_jobReady :
    (serving .jobReady job invocation context history).Goes core
      (serving (if context.ready ≠ 1 then .unlockStore (.reject 0x205) else .jobQueued)
        job invocation context history) := by
  apply goes_of_step
  rintro p - hcore0 rfl
  simp only [Pair.core0Step, hcore0]
  rfl

theorem goes_jobQueued :
    (serving .jobQueued job invocation context history).Goes core
      (serving (if context.jobQueued = 1 then .unlockStore (.reject 0x206)
        else .write job.writes) job invocation context history) := by
  apply goes_of_step
  rintro p - hcore0 rfl
  simp only [Pair.core0Step, hcore0]
  rfl

theorem goes_unlockStore {next : AfterUnlock} :
    (serving (.unlockStore next) job invocation context history).Goes core
      (serving (.unlockCompareExchange next) job invocation { context with lock := 0 }
        history) := by
  apply goes_of_step
  rintro p - hcore0 rfl
  simp only [Pair.core0Step, hcore0]

theorem goes_unlockCompareExchange {next : AfterUnlock} :
    (serving (.unlockCompareExchange next) job invocation context history).Goes core
      (serving (next.pc job) job invocation (Pair.compareExchange context 1 0).2 history) := by
  apply goes_of_step
  rintro p - hcore0 rfl
  simp only [Pair.core0Step, hcore0]

theorem Path.append {count more : ℕ} {before middle after : Machine.View}
    (hfirst : Path core count before middle) (hsecond : Path core more middle after) :
    Path core (count + more) before after := by
  induction hfirst with
  | refl => rwa [Nat.zero_add]
  | @step count before next middle hlive hasks hgoes _ ih =>
      rw [Nat.succ_add]
      exact .step hlive hasks hgoes (ih hsecond)

variable (core job invocation history) in
/-- The first three checks, when they succeed. -/
theorem path_locked (hpresent : context.present = 1) (hstarted : context.started = 1)
    (hfree : context.lock = 0) :
    Path core 3 (serving .jobPresent job invocation context history)
      (serving .jobReady job invocation { context with lock := 1 } history) := by
  have hfirst := @goes_jobPresent core job invocation context history
  have hsecond := @goes_jobStarted core job invocation context history
  have hthird := @goes_jobTryLock core job invocation context history
  rw [if_neg (not_not.mpr hpresent)] at hfirst
  rw [if_neg (not_not.mpr hstarted)] at hsecond
  rw [if_pos hfree, Pair.compareExchange_free hfree] at hthird
  exact .step rfl rfl hfirst (.step rfl rfl hsecond (.step rfl rfl hthird (.refl _)))

/-- A lock that was free before is free again. -/
theorem path_unlock (code : UInt32) (hfree : context.lock = 0) :
    Path core 2 (serving (.unlockStore (.reject code)) job invocation
        { context with lock := 1 } history)
      (serving (.returned (.rejected code)) job invocation context history) := by
  have hstore := @goes_unlockStore core job invocation { context with lock := 1 } history
    (.reject code)
  have hclear := @goes_unlockCompareExchange core job invocation { context with lock := 0 } history
    (.reject code)
  have hsame : { context with lock := 0 } = context := by
    rw [← hfree]
  have hkept : (Pair.compareExchange { context with lock := 0 } 1 0).2 = context := by
    rw [hsame, Pair.compareExchange_snd, if_neg (by rw [hfree]; decide)]
  rw [hkept] at hclear
  exact .step rfl rfl hstore (.step rfl rfl hclear (.refl _))

variable (core) in
/-- A check that fails leaves the context as it was. -/
theorem path_rejected {code : UInt32} (hcode : rejectionCode context = some code) :
    ∃ count ≤ 7, Path core count (serving .jobPresent job invocation context history)
      (serving (.returned (.rejected code)) job invocation context history) := by
  have hfirst := @goes_jobPresent core job invocation context history
  have hsecond := @goes_jobStarted core job invocation context history
  have hthird := @goes_jobTryLock core job invocation context history
  have hfourth := @goes_jobReady core job invocation { context with lock := 1 } history
  have hfifth := @goes_jobQueued core job invocation { context with lock := 1 } history
  rw [rejectionCode] at hcode
  split_ifs at hcode with hpresent hstarted hlock hready hqueued <;> cases hcode
  · rw [if_pos hpresent] at hfirst
    exact ⟨1, by decide, .step rfl rfl hfirst (.refl _)⟩
  · rw [if_neg hpresent] at hfirst
    rw [if_pos hstarted] at hsecond
    exact ⟨2, by decide, .step rfl rfl hfirst (.step rfl rfl hsecond (.refl _))⟩
  · rw [if_neg hpresent] at hfirst
    rw [if_neg hstarted] at hsecond
    rw [if_neg hlock, Pair.compareExchange_taken hlock] at hthird
    exact ⟨3, by decide, .step rfl rfl hfirst
      (.step rfl rfl hsecond (.step rfl rfl hthird (.refl _)))⟩
  · have hlocked := path_locked core job invocation history
      (not_not.mp hpresent) (not_not.mp hstarted) (not_not.mp hlock)
    rw [if_pos hready] at hfourth
    exact ⟨6, by decide, hlocked.append
      (.step rfl rfl hfourth (path_unlock 0x205 (not_not.mp hlock)))⟩
  · have hlocked := path_locked core job invocation history
      (not_not.mp hpresent) (not_not.mp hstarted) (not_not.mp hlock)
    rw [if_neg hready] at hfourth
    rw [if_pos hqueued] at hfifth
    exact ⟨7, by decide, hlocked.append (.step rfl rfl hfourth
      (.step rfl rfl hfifth (path_unlock 0x206 (not_not.mp hlock))))⟩

variable (core job invocation history) in
/-- The five checks of a core that is free. -/
theorem path_admitted (hcode : rejectionCode context = none) :
    Path core 5 (serving .jobPresent job invocation context history)
      (serving (.write job.writes) job invocation { context with lock := 1 } history) := by
  have hfourth := @goes_jobReady core job invocation { context with lock := 1 } history
  have hfifth := @goes_jobQueued core job invocation { context with lock := 1 } history
  rw [rejectionCode] at hcode
  split_ifs at hcode with hpresent hstarted hlock hready hqueued
  have hlocked := path_locked core job invocation history
    (not_not.mp hpresent) (not_not.mp hstarted) (not_not.mp hlock)
  rw [if_neg hready] at hfourth
  rw [if_neg hqueued] at hfifth
  exact hlocked.append (.step rfl rfl hfourth (.step rfl rfl hfifth (.refl _)))

/-! ## The job -/

/-- The processors neither queue jobs nor move core 0. -/
theorem jobs_runProcessors (choices : List (ℕ × ApChoice)) (m : Machine) (coreId : ℕ) :
    (m.runProcessors choices).core0 = m.core0 ∧
      ((m.runProcessors choices).histories coreId).jobs = (m.histories coreId).jobs := by
  induction choices generalizing m with
  | nil => exact ⟨rfl, rfl⟩
  | cons choice choices ih =>
      obtain ⟨hcore0, hjobs⟩ := ih ((m.step .twoStep (.ap choice.1 choice.2)).getD m)
      rw [Machine.runProcessors, hcore0, hjobs]
      cases hstep : m.step .twoStep (.ap choice.1 choice.2) with
      | none => exact ⟨rfl, rfl⟩
      | some next =>
          simp only [Machine.step, Option.ite_none_right_eq_some,
            Option.map_eq_some_iff] at hstep
          obtain ⟨-, p, hp, rfl⟩ := hstep
          have hframe := (Pair.apEffect hp).frame
          refine ⟨rfl, ?_⟩
          by_cases hsame : coreId = choice.1
          · subst hsame
            simp only [Option.getD_some, Machine.put, Function.update_self, hframe.jobs,
              Machine.pair_history]
          · simp only [Option.getD_some, Machine.put, Function.update_of_ne hsame]

/-- The context of a core has its job. -/
structure Handed (coreId : ℕ) (job : Job) (s t : Server) : Prop where
  jobs : (t.machine.histories coreId).jobs = (s.machine.histories coreId).jobs ++ [job]
  jobQueued : (t.machine.contexts coreId).jobQueued = 1
  core0 : t.machine.core0.job = job

variable (firmware coreId) in
/-- Whatever the processors do meanwhile, the job is written and queued. -/
theorem runCore0_write {rest : List ContextWrite}
    (hcore0 : s.machine.core0 = ⟨.write rest, job, invocation⟩) (patience : ℕ) :
    ∃ t, Handed coreId.toNat job s t ∧ Quiet s t ∧
      runCore0 coreId (patience + (rest.length + 1)) firmware s =
        runCore0 coreId patience firmware t := by
  induction rest generalizing s with
  | nil =>
      obtain ⟨hran, hjobs⟩ :=
        jobs_runProcessors (firmware.schedule s.clock) s.machine coreId.toNat
      have hpc : (afterProcessors firmware s).machine.core0 = ⟨.write [], job, invocation⟩ :=
        hran.trans hcore0
      have hstep : (((afterProcessors firmware s).machine.working coreId.toNat).core0Step .twoStep
          .next) = some (((afterProcessors firmware s).machine.working coreId.toNat).fillContext
            []) := by
        simp only [Pair.core0Step, Machine.working, hpc]
      refine ⟨_, ?_, ?_, runCore0_step ?_ ?_ (congrArg (Option.map _) hstep)⟩
      · constructor
        · simp only [Machine.put, Function.update_self, Pair.fillContext, Machine.working, hpc]
          rw [← hjobs]
          rfl
        · simp only [Machine.put, Function.update_self, Pair.fillContext]
        · change (afterProcessors firmware s).machine.core0.job = job
          rw [hpc]
      · exact ⟨rfl, rfl, rfl, rfl, rfl⟩
      · rw [hpc]; rfl
      · rw [hpc]; rfl
  | cons write rest ih =>
      obtain ⟨hran, hjobs⟩ :=
        jobs_runProcessors (firmware.schedule s.clock) s.machine coreId.toNat
      have hpc : (afterProcessors firmware s).machine.core0 =
          ⟨.write (write :: rest), job, invocation⟩ := hran.trans hcore0
      have hstep : (((afterProcessors firmware s).machine.working coreId.toNat).core0Step .twoStep
          .next) = some (((afterProcessors firmware s).machine.working coreId.toNat).fillContext
            (write :: rest)) := by
        simp only [Pair.core0Step, Machine.working, hpc]
      obtain ⟨moved, hmoved⟩ : ∃ moved : Server, moved =
          { afterProcessors firmware s with
            machine := { (afterProcessors firmware s).machine with target := coreId.toNat }.put
              coreId.toNat
              (((afterProcessors firmware s).machine.working coreId.toNat).fillContext
                (write :: rest)).core0
              (((afterProcessors firmware s).machine.working coreId.toNat).fillContext
                (write :: rest))
            accesses := s.accesses ++ [.core coreId.toNat] } := ⟨_, rfl⟩
      have hmovedCore0 : moved.machine.core0 = ⟨.write rest, job, invocation⟩ := by
        simp only [hmoved, Machine.put, Pair.fillContext, Pair.setCore0Pc, Machine.working, hpc]
      have hmovedJobs : (moved.machine.histories coreId.toNat).jobs =
          (s.machine.histories coreId.toNat).jobs := by
        rw [← hjobs, hmoved]
        simp only [Machine.put, Function.update_self]
        rfl
      have hquiet : Quiet s moved := by
        rw [hmoved]
        exact ⟨rfl, rfl, rfl, rfl, rfl⟩
      obtain ⟨t, hhanded, hrest, hrun⟩ := ih hmovedCore0
      refine ⟨t, ⟨?_, hhanded.jobQueued, hhanded.core0⟩, trans_of Quiet hquiet hrest, ?_⟩
      · rw [hhanded.jobs, hmovedJobs]
      · rw [← hrun, hmoved]
        exact runCore0_step (by rw [hpc]; rfl) (by rw [hpc]; rfl)
          (congrArg (Option.map _) hstep)

variable (firmware coreId) in
/-- The request reaches its handler. -/
theorem core0Move_request (hturn : ∃ result, s.machine.core0.pc = .returned result) (job : Job) :
    ∃ t, Worked coreId.toNat s t ∧ t.clock = s.clock ∧
      t.machine.view coreId.toNat =
        serving .jobPresent (job.inInvocation (s.machine.core0.invocation + 1))
          (s.machine.core0.invocation + 1) (s.machine.contexts coreId.toNat)
          (s.machine.histories coreId.toNat) ∧
        core0Move coreId (.request (.job job)) firmware s = some ((), t) := by
  obtain ⟨result, hpc⟩ := hturn
  have hstep : (s.machine.working coreId.toNat).core0Step .twoStep (.request (.job job)) =
      some ((s.machine.working coreId.toNat).beginRequest (.job job)) := by
    simp only [Pair.core0Step, Machine.working, hpc]
  obtain ⟨machine, hmachine⟩ : ∃ machine, machine =
      { s.machine with target := coreId.toNat }.put coreId.toNat
        ((s.machine.working coreId.toNat).beginRequest (.job job)).core0
        ((s.machine.working coreId.toNat).beginRequest (.job job)) := ⟨_, rfl⟩
  have hmove : s.machine.core0Move coreId.toNat (.request (.job job)) = some machine := by
    rw [hmachine]
    exact congrArg (Option.map _) hstep
  refine ⟨{ s with machine, accesses := s.accesses ++ [.core coreId.toNat] },
    ⟨.single (.inr ?_), ⟨rfl, rfl, rfl, rfl, rfl⟩⟩, rfl,
    ?_, ?_⟩
  · intro other hother
    simp only [hmachine, Machine.put, Function.update_of_ne hother, and_self]
  · simp only [hmachine, Machine.view, Machine.put, Function.update_self, Pair.beginRequest]
    rfl
  · refine bind_eq_some_iff.mpr ⟨(), _, rfl, bind_eq_some_iff.mpr ⟨_, _, rfl, ?_⟩⟩
    simp only [hmove]
    rfl

/-- A core that is not free gets no job. -/
theorem runRequest_rejected (hturn : ∃ result, s.machine.core0.pc = .returned result)
    (hpatience : 8 ≤ firmware.patience)
    (hstill : Still firmware coreId.toNat s.clock (s.clock + 16)) (job : Job) {code : UInt32}
    (hcode : rejectionCode (s.machine.contexts coreId.toNat) = some code) :
    ∃ t, Worked coreId.toNat s t ∧
      t.machine.contexts coreId.toNat = s.machine.contexts coreId.toNat ∧
      t.machine.histories coreId.toNat = s.machine.histories coreId.toNat ∧
        runRequest coreId (.job job) firmware s = some (.rejected code, t) := by
  obtain ⟨begun, hbegun, hclock, hview, hrequest⟩ :=
    core0Move_request firmware coreId hturn job
  obtain ⟨count, hcount, hpath⟩ := path_rejected coreId.toNat hcode
  have hstillBegun : Still firmware coreId.toNat begun.clock (s.clock + 16) := by
    rwa [hclock]
  obtain ⟨ended, hended, hclockEnded, hviewEnded, hrun⟩ := runCore0_path hpath hview hstillBegun
    (by omega) (firmware.patience - count)
  have hstillEnded : Still firmware coreId.toNat ended.clock (s.clock + 16) :=
    fun number hfirst hlast => hstill number (by omega) hlast
  obtain ⟨hlast, hviewLast⟩ := worked_afterProcessors hstillEnded (by omega)
  rw [hviewEnded] at hviewLast
  have hpc : (afterProcessors firmware ended).machine.core0.pc = .returned (.rejected code) :=
    congrArg (fun view => view.core0.pc) hviewLast
  refine ⟨afterProcessors firmware ended, (hbegun.trans hended).trans hlast,
    congrArg Machine.View.context hviewLast, congrArg Machine.View.history hviewLast, ?_⟩
  refine bind_eq_some_iff.mpr ⟨firmware, _, rfl, bind_eq_some_iff.mpr ⟨(), begun, hrequest, ?_⟩⟩
  have hsplit : firmware.patience = firmware.patience - count + count := by omega
  have hmore : firmware.patience - count = firmware.patience - count - 1 + 1 := by omega
  rw [hsplit, hrun, hmore]
  exact runCore0_returned hpc

/-- How many steps the writes of a job take. -/
theorem length_writes_le (job : Job) : job.writes.length ≤ 14 := by
  cases job <;> simp [Job.writes, clearCoreFunctions]

/-- A core that is free gets the job, and core 0 goes on waiting for it. -/
theorem runRequest_handed (hturn : ∃ result, s.machine.core0.pc = .returned result)
    (hpatience : 20 ≤ firmware.patience)
    (hstill : Still firmware coreId.toNat s.clock (s.clock + 16)) (job : Job)
    (hcode : rejectionCode (s.machine.contexts coreId.toNat) = none) :
    ∃ t patience, Handed coreId.toNat (job.inInvocation (s.machine.core0.invocation + 1)) s t ∧
      Quiet s t ∧
        runRequest coreId (.job job) firmware s = runCore0 coreId patience firmware t := by
  obtain ⟨begun, hbegun, hclock, hview, hrequest⟩ :=
    core0Move_request firmware coreId hturn job
  have hpath := path_admitted coreId.toNat
    (job.inInvocation (s.machine.core0.invocation + 1)) (s.machine.core0.invocation + 1)
    (s.machine.histories coreId.toNat) hcode
  have hstillBegun : Still firmware coreId.toNat begun.clock (s.clock + 16) := by
    rwa [hclock]
  have hwrites := length_writes_le (job.inInvocation (s.machine.core0.invocation + 1))
  obtain ⟨left, hleft⟩ : ∃ left, firmware.patience =
      left + ((job.inInvocation (s.machine.core0.invocation + 1)).writes.length + 1) + 5 :=
    ⟨firmware.patience - ((job.inInvocation (s.machine.core0.invocation + 1)).writes.length + 1)
      - 5, by omega⟩
  obtain ⟨admitted, hadmitted, -, hviewAdmitted, hrun⟩ := runCore0_path hpath hview hstillBegun
    (by omega) (left + ((job.inInvocation (s.machine.core0.invocation + 1)).writes.length + 1))
  have hcore0 : admitted.machine.core0 = ⟨.write _, _, _⟩ :=
    congrArg Machine.View.core0 hviewAdmitted
  have hhistory : admitted.machine.histories coreId.toNat = s.machine.histories coreId.toNat :=
    congrArg Machine.View.history hviewAdmitted
  obtain ⟨t, hhanded, hquiet, hwritten⟩ :=
    runCore0_write firmware coreId hcore0 left
  refine ⟨t, left, ⟨?_, hhanded.jobQueued, hhanded.core0⟩, ?_, ?_⟩
  · rw [hhanded.jobs, hhistory]
  · exact trans_of Quiet (hbegun.trans hadmitted).quiet hquiet
  · have hread : (read : Handler Firmware) firmware s = some (firmware, s) := rfl
    rw [runRequest, bind_of_eq_some hread, bind_of_eq_some hrequest, hleft, hrun, hwritten]

/-! ## The requests -/

/-- Why a request for a core is turned down, once its message is in order. -/
def coreRejection (s : Server) (coreId : UInt64) : Option UInt32 :=
  if coreId ≥ maxCoreCount then some 0x201
  else rejectionCode (s.machine.contexts coreId.toNat)

/-- The rest of `submitJob` when the job is queued. -/
def awaitJob (coreId : UInt64) (answer : HandlerResult → Handler EfiStatus) (patience : ℕ) :
    Handler EfiStatus := do
  let result ← runCore0 coreId patience
  match result with
  | .rejected code => reject code (rejectionText code) [coreId]
  | result => answer result

/-- A request that is turned down: one status with a code, and nothing else that
anybody could see. -/
structure Refused (coreId : ℕ) (s t : Server) : Prop where
  trace : ∃ code ≠ 0, ∃ text, t.trace = s.trace ++
    [.constructed MessageType.status.code (littleEndian 4 (code : UInt32).toNat ++ text) true,
      .sent (frame (messageBody MessageType.status.code (littleEndian 4 code.toNat ++ text) true))]
  context : t.machine.contexts coreId = s.machine.contexts coreId
  history : t.machine.histories coreId = s.machine.histories coreId
  others : s.machine.OthersRan coreId t.machine
  ucodes : t.ucodes = s.ucodes
  machineCodes : t.machineCodes = s.machineCodes

theorem StatusSent.refused {code : UInt32} (hsent : StatusSent code s t) (hcode : code ≠ 0)
    (coreId : ℕ) : Refused coreId s t := by
  obtain ⟨text, htrace⟩ := hsent.trace
  have hothers : s.machine.OthersRan coreId t.machine := by
    rw [hsent.machine]
    exact .refl
  exact ⟨⟨code, hcode, text, htrace⟩, by rw [hsent.machine], by rw [hsent.machine], hothers,
    hsent.ucodes, hsent.machineCodes⟩

/-- After work that nobody sees. -/
theorem Refused.after {middle : Server} (hworked : Worked core s middle)
    (hcontext : middle.machine.contexts core = s.machine.contexts core)
    (hhistory : middle.machine.histories core = s.machine.histories core)
    (hrefused : Refused core middle t) : Refused core s t := by
  obtain ⟨code, hcode, text, htrace⟩ := hrefused.trace
  refine ⟨⟨code, hcode, text, ?_⟩, hrefused.context.trans hcontext,
    hrefused.history.trans hhistory, hworked.others.trans hrefused.others,
    hrefused.ucodes.trans hworked.quiet.ucodes,
    hrefused.machineCodes.trans hworked.quiet.machineCodes⟩
  rw [htrace, hworked.quiet.trace]

theorem rejectionCode_ne_zero {code : UInt32} (hcode : rejectionCode context = some code) :
    code ≠ 0 := by
  rw [rejectionCode] at hcode
  split_ifs at hcode <;> cases hcode <;> decide

theorem submitJob_refused {answer : HandlerResult → Handler EfiStatus}
    (hdelivers : firmware.Delivers) (hprints : firmware.Prints)
    (hturn : ∃ result, s.machine.core0.pc = .returned result) (hpatience : 8 ≤ firmware.patience)
    (hstill : Still firmware coreId.toNat s.clock (s.clock + 16)) (job : Job) {code : UInt32}
    (hcode : coreRejection s coreId = some code) :
    ∃ t, submitJob coreId job answer firmware s = some (.invalidParameter, t) ∧
      Refused coreId.toNat s t := by
  rw [coreRejection] at hcode
  rw [submitJob]
  split_ifs at hcode ⊢ with hrange
  · obtain ⟨t, hrun, hsent⟩ := reject_run hdelivers hprints 0x201 outOfRangeText
      [coreId, maxCoreCount] s
    exact ⟨t, hrun, hsent.refused (by decide) _⟩
  · obtain ⟨ended, hworked, hcontext, hhistory, hrequest⟩ :=
      runRequest_rejected hturn hpatience hstill job hcode
    obtain ⟨t, hrun, hsent⟩ :=
      reject_run hdelivers hprints code (rejectionText code) [coreId] ended
    refine ⟨t, ?_, (hsent.refused (rejectionCode_ne_zero hcode) _).after hworked hcontext hhistory⟩
    rw [bind_of_eq_some hrequest]
    exact hrun

theorem submitJob_handed (answer : HandlerResult → Handler EfiStatus)
    (hturn : ∃ result, s.machine.core0.pc = .returned result) (hpatience : 20 ≤ firmware.patience)
    (hstill : Still firmware coreId.toNat s.clock (s.clock + 16)) (job : Job)
    (hcode : coreRejection s coreId = none) :
    ∃ t patience, Handed coreId.toNat (job.inInvocation (s.machine.core0.invocation + 1)) s t ∧
      Quiet s t ∧
        submitJob coreId job answer firmware s = awaitJob coreId answer patience firmware t := by
  rw [coreRejection] at hcode
  split_ifs at hcode with hrange
  obtain ⟨t, patience, hhanded, hquiet, hrun⟩ := runRequest_handed hturn hpatience hstill job hcode
  refine ⟨t, patience, hhanded, hquiet, ?_⟩
  rw [submitJob, if_neg hrange, awaitJob]
  exact congrArg (fun outcome => outcome >>= _) hrun

/-- The messages that become a job. -/
inductive JobMessage
  | executeMachineCode
  | applyUcodeExecuteTest
  | readMsrOnCore

namespace JobMessage

def handle : JobMessage → Memory → UInt64 → Handler EfiStatus
  | executeMachineCode => handleExecuteMachineCode
  | applyUcodeExecuteTest => handleApplyUcodeExecuteTest
  | readMsrOnCore => handleReadMsrOnCore

def minimumLength : JobMessage → UInt64
  | executeMachineCode => 12
  | applyUcodeExecuteTest => 20
  | readMsrOnCore => 12

/-- The core a message is for. -/
def targetCore : JobMessage → Memory → UInt64
  | executeMachineCode, payload => (payload.u32 1).toUInt64
  | applyUcodeExecuteTest, payload => (payload.u32 2).toUInt64
  | readMsrOnCore, payload => (payload.shift 4).u64 0

end JobMessage

/-- A slot in range that is not empty. -/
structure SlotFilled (table : SlotTable) (slot : UInt32) (s : Server) : Prop where
  inRange : slot < table.count
  address : (table.slots s slot.toNat).address.isSome
  length : (table.slots s slot.toNat).length ≠ 0

/-- A core that can be given a job. -/
structure CoreFree (context : CoreContext) : Prop where
  present : context.present = 1
  started : context.started = 1
  lock : context.lock = 0
  ready : context.ready = 1
  jobQueued : context.jobQueued = 0

namespace JobMessage

def SlotsFilled : JobMessage → Memory → Server → Prop
  | executeMachineCode, payload, s => SlotFilled .machineCodes (payload.u32 0) s
  | applyUcodeExecuteTest, payload, s =>
      SlotFilled .ucodes (payload.u32 0) s ∧ SlotFilled .machineCodes (payload.u32 1) s
  | readMsrOnCore, _, _ => True

structure Admissible (message : JobMessage) (payload : Memory) (payloadLength : UInt64)
    (s : Server) : Prop where
  long : message.minimumLength ≤ payloadLength
  slots : message.SlotsFilled payload s
  core : message.targetCore payload < maxCoreCount
  free : CoreFree (s.machine.contexts (message.targetCore payload).toNat)

/-- The job that a message asks for. -/
def Asks : JobMessage → Memory → Server → Job → Prop
  | executeMachineCode, payload, s, job =>
      job = .executeMachineCode
        ((s.machineCodes (payload.u32 0).toNat).address.getD 0) (payload.u32 2)
  | applyUcodeExecuteTest, payload, s, job =>
      job = .applyUcodeExecuteTest ((s.ucodes (payload.u32 0).toNat).address.getD 0)
        (s.ucodes (payload.u32 0).toNat).length
        ((s.machineCodes (payload.u32 1).toNat).address.getD 0) (payload.u32 3) (payload.u32 4)
  | readMsrOnCore, payload, _, job => ∃ buffer, job = .readMsrOnCore (payload.u32 0) buffer

end JobMessage

/-- `job_queued` is a flag. -/
def QueuedFlags (machine : Machine) : Prop :=
  ∀ coreId, (machine.contexts coreId).jobQueued = 0 ∨ (machine.contexts coreId).jobQueued = 1

theorem coreRejection_eq_none_iff (hflags : QueuedFlags s.machine) :
    coreRejection s coreId = none ↔
      coreId < maxCoreCount ∧ CoreFree (s.machine.contexts coreId.toNat) := by
  rw [coreRejection]
  by_cases hrange : coreId ≥ maxCoreCount
  · rw [if_pos hrange]
    exact iff_of_false nofun fun hfree => absurd hfree.1 (UInt64.not_lt.mpr hrange)
  rw [if_neg hrange, rejectionCode]
  constructor
  · intro hnone
    split_ifs at hnone with hpresent hstarted hlock hready hqueued
    exact ⟨UInt64.not_le.mp hrange, not_not.mp hpresent, not_not.mp hstarted, not_not.mp hlock,
      not_not.mp hready, (hflags coreId.toNat).resolve_right hqueued⟩
  · rintro ⟨-, hfree⟩
    rw [if_neg (not_not.mpr hfree.present), if_neg (not_not.mpr hfree.started),
      if_neg (not_not.mpr hfree.lock), if_neg (not_not.mpr hfree.ready),
      if_neg (by rw [hfree.jobQueued]; decide)]

/-- The program looks at an element of a table. -/
def accessed (element : Access) (s : Server) : Server :=
  { s with accesses := s.accesses ++ [element] }

theorem worked_accessed (core : ℕ) (element : Access) (s : Server) :
    Worked core s (accessed element s) :=
  ⟨.refl, ⟨rfl, rfl, rfl, rfl, rfl⟩⟩

theorem slotOf_run (table : SlotTable) (slot : ℕ) (s : Server) :
    slotOf table slot firmware s =
      some (table.slots s slot, accessed (table.element slot) s) := rfl

/-- A check of a slot. -/
theorem slotEmpty_iff {table : SlotTable} {slot : UInt32} (hrange : slot < table.count) :
    ((table.slots s slot.toNat).address.isNone ∨ (table.slots s slot.toNat).length = 0) ↔
      ¬ SlotFilled table slot s := by
  constructor
  · rintro hempty ⟨-, haddress, hlength⟩
    rcases hempty with hnone | hzero
    · rw [Option.isNone_iff_eq_none] at hnone
      rw [hnone] at haddress
      cases haddress
    · exact hlength hzero
  · intro hempty
    by_contra hfilled
    rw [not_or, Bool.not_eq_true, Option.isNone_eq_false_iff] at hfilled
    exact hempty ⟨hrange, hfilled.1, hfilled.2⟩

/-- What a request's handler is run in. -/
structure Receiving (firmware : Firmware) (core : ℕ) (s : Server) : Prop where
  delivers : firmware.Delivers
  prints : firmware.Prints
  turn : ∃ result, s.machine.core0.pc = .returned result
  patience : 20 ≤ firmware.patience
  still : Still firmware core s.clock (s.clock + 17)

theorem Receiving.accessed (hreceiving : Receiving firmware core s) (element : Access) :
    Receiving firmware core (accessed element s) :=
  ⟨hreceiving.delivers, hreceiving.prints, hreceiving.turn, hreceiving.patience,
    hreceiving.still⟩

theorem Receiving.rejected (hreceiving : Receiving firmware core s) {code : UInt32}
    (hcode : code ≠ 0) (text : String) (arguments : List UInt64) :
    ∃ t, reject code text arguments firmware s = some (.invalidParameter, t) ∧
      Refused core s t := by
  obtain ⟨t, hrun, hsent⟩ :=
    reject_run hreceiving.delivers hreceiving.prints code text arguments s
  exact ⟨t, hrun, hsent.refused hcode core⟩

/-- What follows a look at a slot. -/
theorem Refused.accessed {element : Access} (hrefused : Refused core (accessed element s) t) :
    Refused core s t :=
  hrefused.after (worked_accessed core element s) rfl rfl

theorem Receiving.submitJob (hreceiving : Receiving firmware coreId.toNat s) (job : Job)
    (answer : HandlerResult → Handler EfiStatus) {code : UInt32}
    (hcode : coreRejection s coreId = some code) :
    ∃ t, submitJob coreId job answer firmware s = some (.invalidParameter, t) ∧
      Refused coreId.toNat s t :=
  submitJob_refused hreceiving.delivers hreceiving.prints hreceiving.turn
    (by have := hreceiving.patience; omega)
    (fun number hfirst hlast => hreceiving.still number hfirst (by omega)) job hcode

/-- A message that does not make a job. -/
def Refuses (message : JobMessage) (payload : Memory) (payloadLength : UInt64)
    (firmware : Firmware) (s : Server) : Prop :=
  ∃ t, message.handle payload payloadLength firmware s = some (.invalidParameter, t) ∧
    Refused (message.targetCore payload).toNat s t

variable {payload : Memory} {payloadLength : UInt64}

theorem refuses_executeMachineCode
    (hreceiving : Receiving firmware (payload.u32 1).toUInt64.toNat s)
    (hcode : 12 ≤ payloadLength → SlotFilled .machineCodes (payload.u32 0) s →
      ∃ code, coreRejection s (payload.u32 1).toUInt64 = some code) :
    Refuses .executeMachineCode payload payloadLength firmware s := by
  simp only [Refuses, JobMessage.handle, JobMessage.targetCore, handleExecuteMachineCode]
  split
  · exact hreceiving.rejected (by decide) _ _
  rename_i hlong
  split
  · exact hreceiving.rejected (by decide) _ _
  rename_i hrange
  rw [bind_of_eq_some (slotOf_run _ _ _)]
  split
  · have hnonzero : (0x3 : UInt32) ≠ 0 := by decide
    obtain ⟨t, hrun, hrefused⟩ :=
      (hreceiving.accessed (.machineCode (payload.u32 0).toNat)).rejected hnonzero
        "Target machine code slot %u is empty.\n" [(payload.u32 0).toUInt64]
    exact ⟨t, hrun, hrefused.accessed⟩
  · rename_i hfilled
    rw [slotEmpty_iff (UInt32.not_le.mp hrange), not_not] at hfilled
    obtain ⟨code, hcode⟩ := hcode (UInt64.not_lt.mp hlong) hfilled
    obtain ⟨t, hrun, hrefused⟩ := (hreceiving.accessed
      (.machineCode (payload.u32 0).toNat)).submitJob _ answerTest hcode
    exact ⟨t, hrun, hrefused.accessed⟩

theorem refuses_applyUcodeExecuteTest
    (hreceiving : Receiving firmware (payload.u32 2).toUInt64.toNat s)
    (hcode : 20 ≤ payloadLength → SlotFilled .ucodes (payload.u32 0) s →
      SlotFilled .machineCodes (payload.u32 1) s →
        ∃ code, coreRejection s (payload.u32 2).toUInt64 = some code) :
    Refuses .applyUcodeExecuteTest payload payloadLength firmware s := by
  simp only [Refuses, JobMessage.handle, JobMessage.targetCore, handleApplyUcodeExecuteTest]
  split
  · exact hreceiving.rejected (by decide) _ _
  rename_i hlong
  split
  · exact hreceiving.rejected (by decide) _ _
  rename_i hucodeRange
  split
  · exact hreceiving.rejected (by decide) _ _
  rename_i hcodeRange
  rw [bind_of_eq_some (slotOf_run _ _ _)]
  have hlooked := hreceiving.accessed (.ucode (payload.u32 0).toNat)
  split
  · have hnonzero : (0x103 : UInt32) ≠ 0 := by decide
    obtain ⟨t, hrun, hrefused⟩ := hlooked.rejected hnonzero
      "Target ucode slot %u is empty.\n" [(payload.u32 0).toUInt64]
    exact ⟨t, hrun, hrefused.accessed⟩
  rename_i hucode
  rw [slotEmpty_iff (UInt32.not_le.mp hucodeRange), not_not] at hucode
  rw [bind_of_eq_some (slotOf_run _ _ _)]
  have hlookedAgain := hlooked.accessed (.machineCode (payload.u32 1).toNat)
  split
  · have hnonzero : (0x104 : UInt32) ≠ 0 := by decide
    obtain ⟨t, hrun, hrefused⟩ := hlookedAgain.rejected hnonzero
      "Target machine code slot %u is empty.\n" [(payload.u32 1).toUInt64]
    exact ⟨t, hrun, hrefused.accessed.accessed⟩
  · rename_i hmachineCode
    have hfilled := not_not.mp (mt (slotEmpty_iff (s := accessed (.ucode (payload.u32 0).toNat) s)
      (UInt32.not_le.mp hcodeRange)).mpr hmachineCode)
    obtain ⟨code, hcode⟩ := hcode (UInt64.not_lt.mp hlong) hucode
      ⟨hfilled.inRange, hfilled.address, hfilled.length⟩
    obtain ⟨t, hrun, hrefused⟩ := hlookedAgain.submitJob _ answerTest hcode
    exact ⟨t, hrun, hrefused.accessed.accessed⟩

/-- The address of the handler's array is asked for. -/
def asked (s : Server) : Server := { s with clock := s.clock + 1 }

theorem worked_asked (core : ℕ) (s : Server) : Worked core s (asked s) :=
  ⟨.refl, ⟨rfl, rfl, rfl, rfl, rfl⟩⟩

theorem refuses_readMsrOnCore
    (hreceiving : Receiving firmware ((payload.shift 4).u64 0).toNat s)
    (hother : 12 ≤ payloadLength → (payload.shift 4).u64 0 ≠ 0)
    (hcode : 12 ≤ payloadLength → ∃ code, coreRejection s ((payload.shift 4).u64 0) = some code) :
    Refuses .readMsrOnCore payload payloadLength firmware s := by
  simp only [Refuses, JobMessage.handle, JobMessage.targetCore, handleReadMsrOnCore]
  split
  · exact hreceiving.rejected (by decide) _ _
  rename_i hlong
  rw [if_neg (hother (UInt64.not_lt.mp hlong))]
  obtain ⟨code, hcode⟩ := hcode (UInt64.not_lt.mp hlong)
  have hask : ask firmware s = some (s.clock, asked s) := rfl
  have hread : (read : Handler Firmware) firmware (asked s) = some (firmware, asked s) := rfl
  rw [bind_of_eq_some hask, bind_of_eq_some hread]
  have hclock : (asked s).clock = s.clock + 1 := rfl
  obtain ⟨t, hrun, hrefused⟩ := submitJob_refused (s := asked s) hreceiving.delivers
    hreceiving.prints hreceiving.turn (by have := hreceiving.patience; omega)
    (fun number hfirst hlast => hreceiving.still number (by omega) (by omega))
    (.readMsrOnCore (payload.u32 0) ⟨firmware.stackAddress s.clock, 0⟩) hcode
  exact ⟨t, hrun, hrefused.after (worked_asked _ s) rfl rfl⟩

/-- The job of a message is queued, and its handler goes on from there. -/
def HandsOver (message : JobMessage) (payload : Memory) (payloadLength : UInt64)
    (firmware : Firmware) (s : Server) : Prop :=
  ∃ job queued patience answer, message.Asks payload s job ∧
    Handed (message.targetCore payload).toNat job s queued ∧ Quiet s queued ∧
      message.handle payload payloadLength firmware s =
        awaitJob (message.targetCore payload) answer patience firmware queued

theorem handsOver_executeMachineCode
    (hreceiving : Receiving firmware (payload.u32 1).toUInt64.toNat s)
    (hlong : 12 ≤ payloadLength) (hfilled : SlotFilled .machineCodes (payload.u32 0) s)
    (hcode : coreRejection s (payload.u32 1).toUInt64 = none) :
    HandsOver .executeMachineCode payload payloadLength firmware s := by
  have hnonempty := mt (slotEmpty_iff hfilled.inRange).mp (not_not.mpr hfilled)
  have hrange : ¬ payload.u32 0 ≥ machineCodeSlots := UInt32.not_le.mpr hfilled.inRange
  have hlooked := hreceiving.accessed (.machineCode (payload.u32 0).toNat)
  obtain ⟨queued, patience, hhanded, hquiet, hrun⟩ := submitJob_handed answerTest
    hlooked.turn hlooked.patience
    (fun number hfirst hlast => hlooked.still number hfirst (by omega))
    (.executeMachineCode ((s.machineCodes (payload.u32 0).toNat).address.getD 0) (payload.u32 2))
    hcode
  refine ⟨_, queued, patience, answerTest, rfl, ⟨hhanded.jobs, hhanded.jobQueued, hhanded.core0⟩,
    trans_of Quiet (worked_accessed 0 _ s).quiet hquiet, ?_⟩
  change handleExecuteMachineCode payload payloadLength firmware s = _
  rw [handleExecuteMachineCode, if_neg (UInt64.not_lt.mpr hlong), if_neg hrange,
    bind_of_eq_some (slotOf_run _ _ _), if_neg hnonempty]
  exact hrun

theorem handsOver_applyUcodeExecuteTest
    (hreceiving : Receiving firmware (payload.u32 2).toUInt64.toNat s)
    (hlong : 20 ≤ payloadLength) (hucode : SlotFilled .ucodes (payload.u32 0) s)
    (hmachineCode : SlotFilled .machineCodes (payload.u32 1) s)
    (hcode : coreRejection s (payload.u32 2).toUInt64 = none) :
    HandsOver .applyUcodeExecuteTest payload payloadLength firmware s := by
  have hnonempty := mt (slotEmpty_iff hucode.inRange).mp (not_not.mpr hucode)
  have hnonemptyCode := mt (slotEmpty_iff hmachineCode.inRange).mp (not_not.mpr hmachineCode)
  have hucodeRange : ¬ payload.u32 0 ≥ ucodeSlots := UInt32.not_le.mpr hucode.inRange
  have hcodeRange : ¬ payload.u32 1 ≥ machineCodeSlots := UInt32.not_le.mpr hmachineCode.inRange
  have hlooked := (hreceiving.accessed (.ucode (payload.u32 0).toNat)).accessed
    (.machineCode (payload.u32 1).toNat)
  obtain ⟨queued, patience, hhanded, hquiet, hrun⟩ := submitJob_handed answerTest
    hlooked.turn hlooked.patience
    (fun number hfirst hlast => hlooked.still number hfirst (by omega))
    (.applyUcodeExecuteTest ((s.ucodes (payload.u32 0).toNat).address.getD 0)
      (s.ucodes (payload.u32 0).toNat).length
      ((s.machineCodes (payload.u32 1).toNat).address.getD 0) (payload.u32 3) (payload.u32 4))
    hcode
  refine ⟨_, queued, patience, answerTest, rfl, ⟨hhanded.jobs, hhanded.jobQueued, hhanded.core0⟩,
    trans_of Quiet (trans_of Quiet (worked_accessed 0 _ s).quiet (worked_accessed 0 _ _).quiet)
      hquiet, ?_⟩
  change handleApplyUcodeExecuteTest payload payloadLength firmware s = _
  rw [handleApplyUcodeExecuteTest, if_neg (UInt64.not_lt.mpr hlong), if_neg hucodeRange,
    if_neg hcodeRange, bind_of_eq_some (slotOf_run _ _ _), if_neg hnonempty,
    bind_of_eq_some (slotOf_run _ _ _)]
  exact (congrFun (congrFun (if_neg hnonemptyCode) firmware) _).trans hrun

theorem handsOver_readMsrOnCore
    (hreceiving : Receiving firmware ((payload.shift 4).u64 0).toNat s)
    (hlong : 12 ≤ payloadLength) (hother : (payload.shift 4).u64 0 ≠ 0)
    (hcode : coreRejection s ((payload.shift 4).u64 0) = none) :
    HandsOver .readMsrOnCore payload payloadLength firmware s := by
  have hclock : (asked s).clock = s.clock + 1 := rfl
  obtain ⟨queued, patience, hhanded, hquiet, hrun⟩ := submitJob_handed (s := asked s)
    (answerMsr ((payload.shift 4).u64 0)) hreceiving.turn hreceiving.patience
    (fun number hfirst hlast => hreceiving.still number (by omega) (by omega))
    (.readMsrOnCore (payload.u32 0) ⟨firmware.stackAddress s.clock, 0⟩) hcode
  refine ⟨_, queued, patience, answerMsr ((payload.shift 4).u64 0), ⟨_, rfl⟩,
    ⟨hhanded.jobs, hhanded.jobQueued, hhanded.core0⟩,
    trans_of Quiet (worked_asked 0 s).quiet hquiet, ?_⟩
  have hask : ask firmware s = some (s.clock, asked s) := rfl
  have hread : (read : Handler Firmware) firmware (asked s) = some (firmware, asked s) := rfl
  change handleReadMsrOnCore payload payloadLength firmware s = _
  rw [handleReadMsrOnCore, if_neg (UInt64.not_lt.mpr hlong)]
  refine (congrFun (congrFun (if_neg hother) firmware) s).trans ?_
  rw [bind_of_eq_some hask, bind_of_eq_some hread]
  exact hrun

/-! ## Every state -/

theorem queued_core0Step {mode : UnlockMode} {choice : Core0Choice} {p q : Pair}
    (hstep : p.core0Step mode choice = some q) :
    q.context.jobQueued = p.context.jobQueued ∨ q.context.jobQueued = 0 ∨
      q.context.jobQueued = 1 := by
  have heffect := Pair.contextEffect hstep
  generalize q.context = context at heffect ⊢
  cases heffect with
  | queue => exact .inr (.inr rfl)
  | clearQueued => exact .inr (.inl rfl)
  | @fill write => exact .inl (by cases write <;> rfl)
  | acquire => exact .inl (by rw [Pair.compareExchange_snd])
  | clear => exact .inl (by rw [Pair.compareExchange_snd])
  | _ => exact .inl rfl

theorem queuedFlags_put {m : Machine} {coreId : ℕ} (target : ℕ) {core0 : Core0} {p : Pair}
    (hflags : QueuedFlags m)
    (hflag : p.context.jobQueued = (m.contexts coreId).jobQueued ∨ p.context.jobQueued = 0 ∨
      p.context.jobQueued = 1) :
    QueuedFlags ({ m with target := target }.put coreId core0 p) := by
  intro other
  by_cases hother : other = coreId
  · subst hother
    simp only [Machine.put, Function.update_self]
    rcases hflag with hsame | hflag
    · rw [hsame]
      exact hflags other
    · exact hflag
  · simp only [Machine.put, Function.update_of_ne hother]
    exact hflags other

theorem queuedFlags_core0Move {m n : Machine} {core : ℕ} {choice : Core0Choice}
    (hmove : m.core0Move core choice = some n) (hflags : QueuedFlags m) : QueuedFlags n := by
  obtain ⟨p, hp, rfl⟩ := Option.map_eq_some_iff.mp hmove
  exact queuedFlags_put core hflags (queued_core0Step hp)

theorem queuedFlags_runProcessors (choices : List (ℕ × ApChoice)) {m : Machine}
    (hflags : QueuedFlags m) : QueuedFlags (m.runProcessors choices) := by
  induction choices generalizing m with
  | nil => exact hflags
  | cons choice choices ih =>
      apply ih
      cases hstep : m.step .twoStep (.ap choice.1 choice.2) with
      | none => exact hflags
      | some next =>
          simp only [Machine.step, Option.ite_none_right_eq_some,
            Option.map_eq_some_iff] at hstep
          obtain ⟨-, p, hp, rfl⟩ := hstep
          have hflag := (Pair.apFlags_apStep hp).jobQueued
          rw [Machine.pair_context] at hflag
          exact queuedFlags_put m.target hflags (hflag.imp_right .inl)

/-- The flags of the cores stay flags. -/
def FlagsKept (s t : Server) : Prop := QueuedFlags s.machine → QueuedFlags t.machine

instance : IsPreorder Server FlagsKept where
  refl _ := id
  trans _ _ _ hleft hright := hright ∘ hleft

theorem flagsKept_modify {change : Server → Server}
    (hmachine : ∀ s, (change s).machine = s.machine) :
    Guarantees firmware FlagsKept (modify change : Handler PUnit) :=
  Guarantees.modify fun s hflags => by rwa [hmachine]

theorem flagsKept_ask : Guarantees firmware FlagsKept ask :=
  Guarantees.get.bind fun _ => (Guarantees.modify fun _ => id).bind fun _ => Guarantees.pure _

theorem flagsKept_formatPrint (text : String) (arguments : List UInt64) :
    Guarantees firmware FlagsKept (formatPrint text arguments) :=
  Guarantees.read.bind fun _ => flagsKept_modify fun _ => rfl

theorem flagsKept_core0Move (coreId : UInt64) (choice : Core0Choice) :
    Guarantees firmware FlagsKept (core0Move coreId choice) := by
  intro s _ t hrun hflags
  obtain ⟨machine, hmove, rfl⟩ := core0Move_eq_some hrun
  exact queuedFlags_core0Move hmove hflags

/-- Whatever the handlers index, the flags stay flags. -/
theorem kept_flags (kind : Access → Prop) : Kept firmware FlagsKept kind where
  ask := flagsKept_ask
  formatPrint := flagsKept_formatPrint
  copyToPayload _ _ := flagsKept_modify fun _ => rfl
  respond _ _ _ _ _ _ hreport _ := guarantees_respond flagsKept_ask flagsKept_formatPrint
    (fun _ => flagsKept_modify fun _ => rfl) (fun _ _ => id) hreport _ _ _ _ _
  runProcessors :=
    flagsKept_ask.bind fun _ => Guarantees.read.bind fun _ =>
      Guarantees.modify fun _ => queuedFlags_runProcessors _
  useStack :=
    flagsKept_ask.bind fun _ => Guarantees.read.bind fun _ => Guarantees.modify fun _ => id
  access _ _ := flagsKept_modify fun _ => rfl
  core0Move _ _ _ _ := flagsKept_core0Move _ _
  update table _ _ := flagsKept_modify fun _ => by cases table <;> rfl
  writeSlot table _ _ _ _ :=
    (Guarantees.modify fun _ => id).bind fun _ =>
      Guarantees.modify fun _ hflags => by cases table <;> exact hflags

theorem flagsKept_serveMessages (messages : List (Memory × UInt64)) :
    Guarantees firmware FlagsKept (serveMessages messages) := by
  induction messages with
  | nil => exact Guarantees.pure _
  | cons message messages ih =>
      have hkept : Kept firmware FlagsKept fun _ => True := kept_flags _
      have hmessage := hkept.handleMessage covers_all (reportsAtMost_max firmware)
        message.1 message.2 fun _ => admits_all _ _ _ _
      refine hmessage.bind fun status => ?_
      split
      · exact Guarantees.pure _
      · exact ih

/-! ## Admission -/

theorem handsOver_of_admissible {message : JobMessage}
    (hreceiving : Receiving firmware (message.targetCore payload).toNat s)
    (hflags : QueuedFlags s.machine)
    (hother : message = .readMsrOnCore → message.minimumLength ≤ payloadLength →
      message.targetCore payload ≠ 0)
    (hadmissible : message.Admissible payload payloadLength s) :
    HandsOver message payload payloadLength firmware s := by
  have hcode := (coreRejection_eq_none_iff hflags).mpr ⟨hadmissible.core, hadmissible.free⟩
  cases message with
  | executeMachineCode =>
      exact handsOver_executeMachineCode hreceiving hadmissible.long hadmissible.slots hcode
  | applyUcodeExecuteTest =>
      exact handsOver_applyUcodeExecuteTest hreceiving hadmissible.long hadmissible.slots.1
        hadmissible.slots.2 hcode
  | readMsrOnCore =>
      exact handsOver_readMsrOnCore hreceiving hadmissible.long (hother rfl hadmissible.long)
        hcode

theorem refuses_of_not_admissible {message : JobMessage}
    (hreceiving : Receiving firmware (message.targetCore payload).toNat s)
    (hflags : QueuedFlags s.machine)
    (hother : message = .readMsrOnCore → message.minimumLength ≤ payloadLength →
      message.targetCore payload ≠ 0)
    (hinadmissible : ¬ message.Admissible payload payloadLength s) :
    Refuses message payload payloadLength firmware s := by
  have hcode : message.minimumLength ≤ payloadLength → message.SlotsFilled payload s →
      ∃ code, coreRejection s (message.targetCore payload) = some code := by
    intro hlong hslots
    cases hcode : coreRejection s (message.targetCore payload) with
    | some code => exact ⟨code, rfl⟩
    | none =>
        obtain ⟨hcore, hfree⟩ := (coreRejection_eq_none_iff hflags).mp hcode
        exact absurd ⟨hlong, hslots, hcore, hfree⟩ hinadmissible
  cases message with
  | executeMachineCode => exact refuses_executeMachineCode hreceiving hcode
  | applyUcodeExecuteTest =>
      exact refuses_applyUcodeExecuteTest hreceiving fun hlong hucode hmachineCode =>
        hcode hlong ⟨hucode, hmachineCode⟩
  | readMsrOnCore =>
      exact refuses_readMsrOnCore hreceiving (hother rfl) fun hlong => hcode hlong trivial

/-- In every state of the server, a message makes a job exactly when everything
it names is there and its core is free; otherwise the client is told so and
nothing else has happened. -/
theorem jobs_admitted_iff {start : Server} {messages : List (Memory × UInt64)} {status : EfiStatus}
    (hstart : QueuedFlags start.machine)
    (hserved : serveMessages messages firmware start = some (status, s)) (message : JobMessage)
    (hreceiving : Receiving firmware (message.targetCore payload).toNat s)
    (hother : message = .readMsrOnCore → message.minimumLength ≤ payloadLength →
      message.targetCore payload ≠ 0) :
    (message.Admissible payload payloadLength s →
        HandsOver message payload payloadLength firmware s) ∧
      (¬ message.Admissible payload payloadLength s →
        Refuses message payload payloadLength firmware s) := by
  have hflags := flagsKept_serveMessages messages start status s hserved hstart
  exact ⟨handsOver_of_admissible hreceiving hflags hother,
    refuses_of_not_admissible hreceiving hflags hother⟩

/-- Every core is started and waits for a job. -/
def readyServer : Server :=
  { idleServer with
    machine := { Machine.afterInit with
      contexts := fun _ => { Pair.initContext with started := 1, ready := 1 } } }

/-- READMSRONCORE of one register on a core. -/
def readMsrPayload (coreId : UInt64) : Memory :=
  (Memory.write (fun _ => 0) 0 (littleEndian 4 0x10)).write 4 (littleEndian 8 coreId.toNat)

theorem jobs_admitted_iff_readMsr :
    ∃ s, serveMessages [(pingMessage, 14)] loopback readyServer = some (.success, s) ∧
      HandsOver .readMsrOnCore (readMsrPayload 1) 12 loopback s ∧
      Refuses .readMsrOnCore (readMsrPayload 5000) 12 loopback s ∧
      Refuses .readMsrOnCore (readMsrPayload 1) 11 loopback s := by
  obtain ⟨s, hserved, hturn, hcontexts⟩ :
      ∃ s, serveMessages [(pingMessage, 14)] loopback readyServer = some (.success, s) ∧
        (∃ result, s.machine.core0.pc = .returned result) ∧
        s.machine.contexts = readyServer.machine.contexts := ⟨_, rfl, ⟨_, rfl⟩, rfl⟩
  have hflags : QueuedFlags readyServer.machine := fun _ => .inl rfl
  have hreceiving : ∀ core, Receiving loopback core s := fun core =>
    ⟨delivers_loopback, fun _ _ => Nat.zero_lt_succ _, hturn, by decide,
      fun _ _ _ => nofun⟩
  refine ⟨s, hserved, ?_, ?_, ?_⟩
  · refine (jobs_admitted_iff hflags hserved .readMsrOnCore (hreceiving _)
      fun _ _ => by decide).1 ⟨by decide, trivial, by decide, ?_⟩
    rw [hcontexts]
    exact ⟨rfl, rfl, rfl, rfl, rfl⟩
  · exact (jobs_admitted_iff hflags hserved .readMsrOnCore (hreceiving _)
      fun _ _ => by decide).2 fun hadmissible => absurd hadmissible.core (by decide)
  · exact (jobs_admitted_iff hflags hserved .readMsrOnCore (hreceiving _)
      fun _ _ => by decide).2 fun hadmissible => absurd hadmissible.long (by decide)

end Handlers

end AngryUefi
