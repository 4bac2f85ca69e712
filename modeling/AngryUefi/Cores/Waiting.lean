import AngryUefi.Cores.Machine

/-!
# Waiting for a job

Core 0 never waits for a processor longer than the client allows: with a
timeout, the number of steps that a job handler takes is bounded, whatever the
processors do meanwhile and even if they do nothing.
-/

namespace AngryUefi

open AngryUefi.Transition

/-- Steps left from the polling of the lock in this round of
`wait_on_ap_exec`; the reply takes six more once the waiting is over. -/
def Job.pollingLeft (job : Job) (iterations : ℕ) : ℕ :=
  7 * (job.timeout - (iterations + 1)) + 13

def AfterUnlock.stepsLeft (job : Job) : AfterUnlock → ℕ
  | reject _ => 0
  | waitOnApExec => job.pollingLeft 0
  | pause iterations => job.pollingLeft iterations - 6
  | jobFinished => 6
  | bootCoreFinished => 5

/-- An upper bound on core 0's steps until the handler returns. -/
def Core0Pc.stepsLeft (job : Job) : Core0Pc → ℕ
  | returned _ => 0
  | jobPresent => job.writes.length + job.pollingLeft 0 + 8
  | jobStarted => job.writes.length + job.pollingLeft 0 + 7
  | jobTryLock => job.writes.length + job.pollingLeft 0 + 6
  | jobReady => job.writes.length + job.pollingLeft 0 + 5
  | jobQueued => job.writes.length + job.pollingLeft 0 + 4
  | write rest => rest.length + job.pollingLeft 0 + 3
  | bootClearReady => 11
  | bootClearQueued => 10
  | bootCallFunctions => 9
  | bootSetReady => 8
  | waitLock iterations => job.pollingLeft iterations
  | waitTryLock iterations => job.pollingLeft iterations - 1
  | waitReady iterations => job.pollingLeft iterations - 2
  | waitQueued iterations => job.pollingLeft iterations - 3
  | waitPause iterations => job.pollingLeft iterations - 6
  | readFault _ => 6
  | sendRdtsc _ _ => 5
  | sendGpf _ _ _ => 4
  | sendLength _ _ _ _ => 3
  | sendBuffer _ _ _ _ _ => 2
  | sendSize _ _ _ _ _ _ => 1
  | sendMsrLow => 2
  | sendMsrHigh _ => 1
  | startPresent => 8
  | startStarted => 7
  | startTryLock => 6
  | startFaultInfo => 5
  | startCr3 => 4
  | startOnCore => 3
  | unlockStore next => next.stepsLeft job + 2
  | unlockCompareExchange next => next.stepsLeft job + 1

def Core0.stepsLeft (core0 : Core0) : ℕ := core0.pc.stepsLeft core0.job

theorem Core0.stepsLeft_pos {core0 : Core0} (hlive : core0.pc.live = true) :
    0 < core0.stepsLeft := by
  unfold Core0.stepsLeft
  cases hpc : core0.pc
  all_goals rw [hpc] at hlive
  case returned => cases hlive
  all_goals simp only [Core0Pc.stepsLeft, Job.pollingLeft]
  all_goals omega

theorem Job.stepsLeft_afterWait (job : Job) (timedOut : Bool) :
    (job.afterWait timedOut).stepsLeft job ≤ 6 := by
  cases job <;> cases timedOut <;> simp [Job.afterWait, Core0Pc.stepsLeft]

theorem AfterUnlock.stepsLeft_pc (next : AfterUnlock) (job : Job) :
    (next.pc job).stepsLeft job ≤ next.stepsLeft job := by
  cases next with
  | jobFinished => exact job.stepsLeft_afterWait false
  | _ => exact le_rfl

/-- A handler writes at most fourteen fields. -/
theorem Job.length_writes_le (job : Job) : job.writes.length ≤ 14 := by
  cases job <;> simp [Job.writes, clearCoreFunctions]

def AfterUnlock.rejects : AfterUnlock → Bool
  | reject _ => true
  | _ => false

namespace Core0Pc

/-- The accesses of `start_core`, which waits for nobody. -/
def starts : Core0Pc → Bool
  | returned _ | startPresent | startStarted | startTryLock | startFaultInfo | startCr3
  | startOnCore => true
  | unlockStore next | unlockCompareExchange next => next.rejects
  | _ => false

/-- The words of an MSR are read for a reply to a job that reads one. -/
def RepliesTo (job : Job) : Core0Pc → Prop
  | sendMsrLow | sendMsrHigh _ => ∃ targetMsr buffer, job = .readMsrOnCore targetMsr buffer
  | _ => True

end Core0Pc

/-- Core 0 serves a request that it will not wait for without end. -/
structure Core0.Bounded (core0 : Core0) : Prop where
  timeout : core0.pc.starts = true ∨ core0.job.timeout ≠ 0
  replies : core0.pc.RepliesTo core0.job

theorem Job.repliesTo_afterWait (job : Job) (timedOut : Bool) :
    (job.afterWait timedOut).RepliesTo job := by
  cases job with
  | readMsrOnCore targetMsr buffer =>
      cases timedOut
      · exact ⟨targetMsr, buffer, rfl⟩
      · trivial
  | _ => trivial

theorem AfterUnlock.repliesTo_pc (next : AfterUnlock) (job : Job) :
    (next.pc job).RepliesTo job := by
  cases next with
  | jobFinished => exact job.repliesTo_afterWait false
  | _ => trivial

theorem AfterUnlock.starts_pc {next : AfterUnlock} (job : Job)
    (hrejects : next.rejects = true) : (next.pc job).starts = true := by
  cases next <;> first | rfl | cases hrejects

namespace Pair

/-- A step to a nearer access of the same invocation. -/
def Nearer (s t : Pair) : Prop :=
  t.core0.job = s.core0.job ∧ t.core0.stepsLeft < s.core0.stepsLeft ∧ t.core0.Bounded

theorem nearer_of_pc {s t : Pair} {before after : Core0Pc} (hpc : s.core0.pc = before)
    (hcore0 : t.core0 = { s.core0 with pc := after })
    (hless : after.stepsLeft s.core0.job < before.stepsLeft s.core0.job)
    (hstarts : before.starts = true → after.starts = true)
    (hreplies : after.RepliesTo s.core0.job) (hbounded : s.core0.Bounded) : Nearer s t := by
  subst hpc
  rw [Nearer, hcore0]
  exact ⟨rfl, hless, hbounded.timeout.imp_left hstarts, hreplies⟩

theorem nearer_of_pauseWait {s : Pair} {iterations : ℕ}
    (hpc : s.core0.pc = .waitPause iterations) (hbounded : s.core0.Bounded) :
    Nearer s (s.pauseWait iterations) := by
  have htimeout : s.core0.job.timeout ≠ 0 := by
    refine hbounded.timeout.resolve_left ?_
    rw [hpc]
    rintro ⟨⟩
  simp only [pauseWait, if_pos htimeout]
  split
  · refine nearer_of_pc hpc rfl ((s.core0.job.stepsLeft_afterWait true).trans_lt ?_)
      (by rintro ⟨⟩) (s.core0.job.repliesTo_afterWait true) hbounded
    simp only [Core0Pc.stepsLeft, Job.pollingLeft]
    omega
  · refine nearer_of_pc hpc rfl ?_ (by rintro ⟨⟩) trivial hbounded
    simp only [Core0Pc.stepsLeft, Job.pollingLeft]
    omega

/-- While the handler runs, each step of core 0 brings its return nearer. -/
theorem nearer_of_core0Step {mode : UnlockMode} {choice : Core0Choice} {s t : Pair}
    (hlive : s.core0.pc.live = true) (hbounded : s.core0.Bounded)
    (hstep : s.core0Step mode choice = some t) : Nearer s t := by
  unfold core0Step at hstep
  cases hpc : s.core0.pc
  all_goals rw [hpc] at hstep hlive
  all_goals cases choice
  all_goals simp only [reduceCtorEq, Option.some.injEq] at hstep
  case returned.request => cases hlive
  case returned.elsewhere => cases hlive
  case sendMsrLow.next =>
    obtain ⟨targetMsr, buffer, hjob⟩ : Core0Pc.sendMsrLow.RepliesTo s.core0.job :=
      hpc ▸ hbounded.replies
    simp only [hjob, Option.some.injEq] at hstep
    subst hstep
    exact nearer_of_pc hpc rfl (by simp [Core0Pc.stepsLeft]) (by rintro ⟨⟩)
      ⟨targetMsr, buffer, hjob⟩ hbounded
  case sendMsrHigh.next eax =>
    obtain ⟨targetMsr, buffer, hjob⟩ : (Core0Pc.sendMsrHigh eax).RepliesTo s.core0.job :=
      hpc ▸ hbounded.replies
    simp only [hjob, Option.some.injEq] at hstep
    subst hstep
    exact nearer_of_pc hpc rfl (by simp [Core0Pc.stepsLeft]) (by rintro ⟨⟩) trivial hbounded
  case startOnCore.startup rsp =>
    cases rsp with
    | none =>
        cases hstep
        exact nearer_of_pc hpc rfl (by simp [Core0Pc.stepsLeft, AfterUnlock.stepsLeft])
          (fun _ => rfl) trivial hbounded
    | some rsp =>
        simp only [Option.ite_none_right_eq_some, Option.some.injEq] at hstep
        obtain ⟨-, rfl⟩ := hstep
        exact nearer_of_pc hpc rfl (by simp [Core0Pc.stepsLeft]) (fun _ => rfl) trivial hbounded
  all_goals subst hstep
  case write.next rest =>
    cases rest with
    | nil =>
        simp only [fillContext]
        refine nearer_of_pc hpc rfl ?_ (by rintro ⟨⟩) (by split <;> trivial) hbounded
        split <;> simp only [Core0Pc.stepsLeft, AfterUnlock.stepsLeft, Job.pollingLeft] <;> omega
    | cons write rest =>
        exact nearer_of_pc hpc rfl (by simp [Core0Pc.stepsLeft]) (by rintro ⟨⟩) trivial hbounded
  case waitPause.next iterations => exact nearer_of_pauseWait hpc hbounded
  case unlockCompareExchange.next next =>
    exact nearer_of_pc hpc rfl ((next.stepsLeft_pc s.core0.job).trans_lt (Nat.lt_succ_self _))
      (next.starts_pc _) (next.repliesTo_pc _) hbounded
  case unlockStore.next next =>
    cases mode with
    | twoStep =>
        exact nearer_of_pc hpc rfl (Nat.lt_succ_self _) (fun hrejects => hrejects) trivial hbounded
    | atomic =>
        exact nearer_of_pc hpc rfl
          ((next.stepsLeft_pc s.core0.job).trans_lt (Nat.lt_add_of_pos_right two_pos))
          (next.starts_pc _) (next.repliesTo_pc _) hbounded
  all_goals refine nearer_of_pc hpc rfl ?_ ?_ ?_ hbounded
  all_goals first
    | exact trivial
    | (split <;> trivial)
    | exact fun _ => rfl
    | rintro ⟨⟩
    | skip
  all_goals try split
  all_goals simp only [Core0Pc.stepsLeft, AfterUnlock.stepsLeft, Job.pollingLeft]
  all_goals omega

/-- Core 0 is never stuck in a handler. -/
theorem exists_core0Step {s : Pair} (mode : UnlockMode) (hlive : s.core0.pc.live = true)
    (hbounded : s.core0.Bounded) : ∃ choice t, s.core0Step mode choice = some t := by
  have hreplies := hbounded.replies
  unfold core0Step
  cases hpc : s.core0.pc
  all_goals rw [hpc] at hlive hreplies
  case returned => cases hlive
  case bootCallFunctions => exact ⟨.ranOnBootCore s.context.resultBuffer 0 0 [], _, rfl⟩
  case startCr3 => exact ⟨.newCr3 0, _, rfl⟩
  case startOnCore => exact ⟨.startup none, _, rfl⟩
  case sendMsrLow =>
    obtain ⟨targetMsr, buffer, hjob⟩ := hreplies
    simp only [hjob]
    exact ⟨.next, _, rfl⟩
  case sendMsrHigh =>
    obtain ⟨targetMsr, buffer, hjob⟩ := hreplies
    simp only [hjob]
    exact ⟨.next, _, rfl⟩
  all_goals exact ⟨.next, _, rfl⟩

end Pair

/-- The client named a timeout, or asked for nothing that takes one. -/
def Request.Bounded : Request → Prop
  | .job submitted => submitted.timeout ≠ 0
  | .startCore => True

def Request.maxSteps : Request → ℕ
  | .job submitted => 7 * submitted.timeout + 28
  | .startCore => 8

theorem Pair.bounded_beginRequest {s : Pair} {request : Request} (hbounded : request.Bounded) :
    (s.beginRequest request).core0.Bounded ∧
      (s.beginRequest request).core0.stepsLeft ≤ request.maxSteps := by
  cases request with
  | startCore => exact ⟨⟨.inl rfl, trivial⟩, le_rfl⟩
  | job job =>
      have htimeout : (job.inInvocation (s.core0.invocation + 1)).timeout = job.timeout := by
        cases job <;> rfl
      have hwrites := (job.inInvocation (s.core0.invocation + 1)).length_writes_le
      refine ⟨⟨.inr ?_, trivial⟩, ?_⟩
      · simp only [beginRequest, htimeout]
        exact hbounded
      · simp only [beginRequest, Core0.stepsLeft, Core0Pc.stepsLeft, Job.pollingLeft, htimeout,
          Request.maxSteps]
        simp only [Request.Bounded] at hbounded
        omega

/-! ## The jobs of the other cores -/

/-- What the handler of a job may come to. -/
def Job.Answers (job : Job) : HandlerResult → Prop
  | .rejected _ => True
  | .testResult .. => ∀ targetMsr buffer, job ≠ .readMsrOnCore targetMsr buffer
  | .noResponse | .msr _ _ => ∃ targetMsr buffer, job = .readMsrOnCore targetMsr buffer
  | .nothing | .started => False

/-- The accesses of the handler of a job that another core than the boot core
has to do; none of them needs an answer of the firmware. -/
def Core0Pc.Handles (job : Job) : Core0Pc → Prop
  | returned result => job.Answers result
  | readFault _ | sendRdtsc _ _ | sendGpf _ _ _ | sendLength _ _ _ _ | sendBuffer _ _ _ _ _
  | sendSize _ _ _ _ _ _ => ∀ targetMsr buffer, job ≠ .readMsrOnCore targetMsr buffer
  | sendMsrLow | sendMsrHigh _ => ∃ targetMsr buffer, job = .readMsrOnCore targetMsr buffer
  | bootClearReady | bootClearQueued | bootCallFunctions | bootSetReady | startPresent
  | startStarted | startTryLock | startFaultInfo | startCr3 | startOnCore
  | unlockStore .bootCoreFinished | unlockCompareExchange .bootCoreFinished => False
  | _ => True

theorem Job.handles_afterWait (job : Job) (timedOut : Bool) :
    (job.afterWait timedOut).Handles job := by
  cases job with
  | readMsrOnCore targetMsr buffer => cases timedOut <;> exact ⟨targetMsr, buffer, rfl⟩
  | _ => rintro _ _ ⟨⟩

theorem AfterUnlock.handles_pc {next : AfterUnlock} {job : Job}
    (hhandles : (Core0Pc.unlockStore next).Handles job) : (next.pc job).Handles job := by
  cases next with
  | bootCoreFinished => cases hhandles
  | jobFinished => exact job.handles_afterWait false
  | _ => trivial

namespace Pair

theorem exists_nextStep {s : Pair} (mode : UnlockMode) (hlive : s.core0.pc.live = true)
    (hhandles : s.core0.pc.Handles s.core0.job) : ∃ t, s.core0Step mode .next = some t := by
  unfold core0Step
  cases hpc : s.core0.pc
  all_goals rw [hpc] at hlive hhandles
  case returned => cases hlive
  case bootCallFunctions => cases hhandles
  case startCr3 => cases hhandles
  case startOnCore => cases hhandles
  case sendMsrLow =>
    obtain ⟨targetMsr, buffer, hjob⟩ := hhandles
    simp only [hjob]
    exact ⟨_, rfl⟩
  case sendMsrHigh =>
    obtain ⟨targetMsr, buffer, hjob⟩ := hhandles
    simp only [hjob]
    exact ⟨_, rfl⟩
  all_goals exact ⟨_, rfl⟩

theorem handles_of_nextStep {mode : UnlockMode} {s t : Pair} (hcoreId : s.coreId ≠ 0)
    (hhandles : s.core0.pc.Handles s.core0.job)
    (hstep : s.core0Step mode .next = some t) : t.core0.pc.Handles s.core0.job := by
  unfold core0Step at hstep
  cases hpc : s.core0.pc
  all_goals rw [hpc] at hstep hhandles
  all_goals simp only [reduceCtorEq, Option.some.injEq] at hstep
  case sendMsrLow =>
    obtain ⟨targetMsr, buffer, hjob⟩ := hhandles
    simp only [hjob, Option.some.injEq] at hstep
    subst hstep
    exact ⟨targetMsr, buffer, hjob⟩
  case sendMsrHigh =>
    obtain ⟨targetMsr, buffer, hjob⟩ := hhandles
    simp only [hjob, Option.some.injEq] at hstep
    subst hstep
    exact ⟨targetMsr, buffer, hjob⟩
  all_goals subst hstep
  case bootClearReady => cases hhandles
  case bootClearQueued => cases hhandles
  case bootSetReady => cases hhandles
  case startPresent => cases hhandles
  case startStarted => cases hhandles
  case startTryLock => cases hhandles
  case startFaultInfo => cases hhandles
  case write rest =>
    cases rest with
    | cons write rest => trivial
    | nil =>
        simp only [fillContext, if_neg hcoreId]
        trivial
  case waitPause iterations =>
    simp only [pauseWait]
    split
    · split
      · exact s.core0.job.handles_afterWait true
      · trivial
    · trivial
  case unlockStore next =>
    cases mode with
    | twoStep => cases next <;> exact hhandles
    | atomic => exact AfterUnlock.handles_pc hhandles
  case unlockCompareExchange next =>
    have hstore : (Core0Pc.unlockStore next).Handles s.core0.job := by
      cases next <;> exact hhandles
    exact AfterUnlock.handles_pc hstore
  all_goals first
    | exact hhandles
    | trivial
    | (split <;> trivial)

end Pair

namespace Machine

/-- The steps that core 0 takes. -/
def byCore0 : Label → Bool
  | .core0 _ _ => true
  | .ap _ _ => false

/-- A request for a core has just reached its handler, in any state. -/
def Requested (mode : UnlockMode) (coreId : ℕ) (request : Request) (m : Machine) : Prop :=
  ∃ before, Machine.step mode (.core0 coreId (.request request)) before = some m

/-- The handler still runs. -/
def Running (m : Machine) (_ : Label) : Prop := m.core0.pc.live = true

/-- Core 0 is at work on the context of this core. -/
structure Serving (coreId : ℕ) (m : Machine) : Prop where
  target : m.target = coreId
  processor : coreId ≠ 0
  bounded : m.core0.Bounded

theorem Requested.serving {mode : UnlockMode} {coreId : ℕ} {request : Request} {m : Machine}
    (hrequested : m.Requested mode coreId request) (hbounded : request.Bounded) :
    m.Serving coreId ∧ m.core0.stepsLeft ≤ request.maxSteps := by
  obtain ⟨before, hstep⟩ := hrequested
  simp only [Machine.step, Option.ite_none_right_eq_some, Option.map_eq_some_iff] at hstep
  obtain ⟨⟨hcoreId, -⟩, p, hp, rfl⟩ := hstep
  have hbegun : p = (before.working coreId).beginRequest request := by
    unfold Pair.core0Step at hp
    split at hp <;> simp_all
  subst hbegun
  obtain ⟨hbegun, hsteps⟩ := Pair.bounded_beginRequest (s := before.working coreId) hbounded
  exact ⟨⟨rfl, hcoreId, hbegun⟩, hsteps⟩

theorem Serving.core0Step {mode : UnlockMode} {coreId other : ℕ} {choice : Core0Choice}
    {m n : Machine} (hserving : m.Serving coreId) (hlive : m.core0.pc.live = true)
    (hstep : Machine.step mode (.core0 other choice) m = some n) :
    n.Serving coreId ∧ n.core0.stepsLeft < m.core0.stepsLeft := by
  simp only [Machine.step, Option.ite_none_right_eq_some, Option.map_eq_some_iff] at hstep
  obtain ⟨⟨-, hturn⟩, p, hp, rfl⟩ := hstep
  have hother : other = coreId := by
    rcases hturn with hturn | hturn
    · exact hturn.trans hserving.target
    · simp [hlive] at hturn
  obtain ⟨-, hless, hbounded⟩ := Pair.nearer_of_core0Step hlive hserving.bounded hp
  exact ⟨⟨hother, hserving.processor, hbounded⟩, hless⟩

/-- A processor does not touch what core 0 does next. -/
theorem core0_of_apStep {mode : UnlockMode} {coreId : ℕ} {choice : ApChoice} {m n : Machine}
    (hstep : Machine.step mode (.ap coreId choice) m = some n) :
    n.core0 = m.core0 ∧ n.target = m.target := by
  simp only [Machine.step, Option.ite_none_right_eq_some, Option.map_eq_some_iff] at hstep
  obtain ⟨-, p, -, rfl⟩ := hstep
  exact ⟨rfl, rfl⟩

theorem Serving.step {mode : UnlockMode} {coreId : ℕ} {label : Label} {m n : Machine}
    (hserving : m.Serving coreId) (hlive : m.Running label)
    (hstep : Machine.step mode label m = some n) : n.Serving coreId := by
  cases label with
  | core0 other choice => exact (hserving.core0Step hlive hstep).1
  | ap other choice =>
      obtain ⟨hcore0, htarget⟩ := core0_of_apStep hstep
      exact ⟨htarget.trans hserving.target, hserving.processor, hcore0 ▸ hserving.bounded⟩

/-- However the processors are scheduled, and even if they never move, a handler
returns within a number of core 0's own steps that the client's timeout
determines; until then core 0 can always take the next one. -/
theorem returns_within_maxSteps {mode : UnlockMode} {coreId : ℕ} {request : Request}
    (hbounded : request.Bounded) {past : List (Machine × Label)} {m : Machine}
    (hrun : Run (Requested mode coreId request) (Machine.step mode) past m)
    (hrunning : EachStep Running past) :
    turns byCore0 past ≤ request.maxSteps ∧
      (m.core0.pc.live = true → turns byCore0 past < request.maxSteps ∧
        ∃ choice n, Machine.step mode (.core0 coreId choice) m = some n) := by
  have hinitial : ∀ m : Machine, m.Requested mode coreId request →
      m.Serving coreId ∧ m.core0.stepsLeft ≤ request.maxSteps :=
    fun m hrequested => hrequested.serving hbounded
  have hserving : m.Serving coreId :=
    (hrun.always (fun m hm => (hinitial m hm).1)
      (fun _ _ _ hserving hlive hstep => hserving.step hlive hstep) hrunning).1
  have hcount : turns byCore0 past + m.core0.stepsLeft ≤ request.maxSteps := by
    refine hrun.turns_le hinitial
      (fun _ _ _ hserving hlive hstep => hserving.step hlive hstep) ?_ ?_ hrunning
    · intro m label n hserving hlive hown hstep
      cases label with
      | core0 other choice => exact (hserving.core0Step hlive hstep).2
      | ap other choice => cases hown
    · intro m label n hserving hlive hother hstep
      cases label with
      | core0 other choice => cases hother
      | ap other choice => rw [(core0_of_apStep hstep).1]
  refine ⟨by omega, fun hlive => ⟨?_, ?_⟩⟩
  · have hleft := Core0.stepsLeft_pos hlive
    omega
  · obtain ⟨choice, p, hp⟩ :=
      Pair.exists_core0Step (s := m.working coreId) mode hlive hserving.bounded
    refine ⟨choice, { m with target := coreId }.put coreId p.core0 p, ?_⟩
    simp only [Machine.step, hserving.target, hserving.processor, ne_eq, not_false_eq_true,
      true_or, and_self, if_true, hp, Option.map_some]

/-- READMSRONCORE for a processor that has not been started, and one step. -/
theorem returns_within_maxSteps_readMsr :
    ∃ m n, Machine.step .twoStep
        (.core0 1 (.request (.job (.readMsrOnCore 0x10 ⟨0x7000, 0⟩)))) afterInit = some m ∧
      Machine.step .twoStep (.core0 1 .next) m = some n ∧ n.core0.pc.live = true ∧
      1 < 728 ∧ ∃ choice next, Machine.step .twoStep (.core0 1 choice) n = some next := by
  obtain ⟨m, n, hrequest, hnext, hlive, hbegun⟩ :
      ∃ m n, Machine.step .twoStep
          (.core0 1 (.request (.job (.readMsrOnCore 0x10 ⟨0x7000, 0⟩)))) afterInit = some m ∧
        Machine.step .twoStep (.core0 1 .next) m = some n ∧ n.core0.pc.live = true ∧
        m.core0.pc.live = true := ⟨_, _, rfl, rfl, rfl, rfl⟩
  have hrun : Run (Requested .twoStep 1 (.job (.readMsrOnCore 0x10 ⟨0x7000, 0⟩)))
      (Machine.step .twoStep) [(m, .core0 1 .next)] n := .next (.start ⟨afterInit, hrequest⟩) hnext
  have hreturns := returns_within_maxSteps (by simp [Request.Bounded, Job.timeout]) hrun
    (eachStep_cons.mpr ⟨hbegun, eachStep_nil⟩)
  exact ⟨m, n, hrequest, hnext, hlive, hreturns.2 hlive⟩

end Machine

end AngryUefi
