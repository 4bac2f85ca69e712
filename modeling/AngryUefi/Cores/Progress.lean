import AngryUefi.Cores.Steady
import AngryUefi.Cores.Waiting

/-!
# Nobody waits in vain

The two parties poll, and each can be kept from the context while the other one
has the lock.  When core 0 has given a job up, its processor accepts it all the
same; when the processor has nothing left to do, core 0 notices.  Neither
depends on the order of the moves, nor on a timeout.
-/

namespace AngryUefi

open AngryUefi.Transition

/-! ## A job that core 0 has given up -/

/-- An upper bound on the processor's steps until it has accepted a job. -/
def ApPc.acceptLeft : ApPc → ℕ
  | jobSetReady => 10
  | unlockStore => 9
  | unlockCompareExchange => 8
  | spin => 7
  | spinLock => 6
  | spinQueued => 5
  | jobTryLock => 4
  | jobRecheck => 3
  | jobClearReady => 2
  | jobClearQueued => 1
  | _ => 0

namespace Pair

/-- A job is queued, and the processor has no other one. -/
structure Pending (s : Pair) : Prop where
  queued : s.context.jobQueued ≠ 0
  phase : s.ap.pc.phase = .idle ∨ s.ap.pc.phase = .taking

instance : DecidablePred Pending := fun s =>
  decidable_of_iff (s.context.jobQueued ≠ 0 ∧ (s.ap.pc.phase = .idle ∨ s.ap.pc.phase = .taking))
    ⟨fun hpending => ⟨hpending.1, hpending.2⟩, fun hpending => ⟨hpending.1, hpending.2⟩⟩

/-- The processor has just accepted the job that was queued last. -/
structure Accepted (s : Pair) : Prop where
  pc : s.ap.pc = .jobReadFault
  job : s.ap.job = s.lastJob
  accepted : s.history.accepted.head? = some s.lastJob
  queued : s.context.jobQueued = 0

theorem acceptLeft_le (pc : ApPc) : pc.acceptLeft ≤ 10 := by
  cases pc <;> simp [ApPc.acceptLeft]

/-- Nobody is in the way of the processor, and every step brings it nearer to
the job. -/
theorem Pending.apStep {choice : ApChoice} {s t : Pair} (hpending : s.Pending)
    (hsteady : s.Steady) (haway : s.core0.pc.live = false)
    (hstep : s.apStep .twoStep choice = some t) :
    (t.Pending ∨ t.Accepted) ∧ t.ap.pc.acceptLeft < s.ap.pc.acceptLeft := by
  obtain ⟨hqueued, hphase⟩ := hpending
  have hfree : s.ap.pc.holds = false → s.context.lock = 0 := by
    obtain ⟨result, hpc⟩ := Core0Pc.returned_of_not_live haway
    exact hsteady.free (by rw [hpc]; rfl)
  unfold Pair.apStep at hstep
  cases hpc : s.ap.pc
  all_goals rw [hpc] at hstep hphase hfree
  all_goals simp only [ApPc.phase, reduceCtorEq, or_self] at hphase
  all_goals cases choice
  all_goals simp only [reduceCtorEq, Option.some.injEq] at hstep
  all_goals subst hstep
  case spinLock.next =>
    have hfree := hfree rfl
    simp only [hfree, ne_eq, not_true_eq_false, if_false]
    exact ⟨.inl ⟨hqueued, .inl rfl⟩, Nat.lt_succ_self _⟩
  case spinQueued.next =>
    rw [if_pos hqueued]
    exact ⟨.inl ⟨hqueued, .inl rfl⟩, Nat.lt_succ_self _⟩
  case jobTryLock.next =>
    rw [compareExchange_free (hfree rfl), if_pos rfl]
    exact ⟨.inl ⟨hqueued, .inl rfl⟩, Nat.lt_succ_self _⟩
  case jobRecheck.next =>
    rw [if_neg hqueued]
    exact ⟨.inl ⟨hqueued, .inr rfl⟩, Nat.lt_succ_self _⟩
  case jobClearReady.next => exact ⟨.inl ⟨hqueued, .inr rfl⟩, Nat.lt_succ_self _⟩
  case jobClearQueued.next => exact ⟨.inr ⟨rfl, rfl, rfl, rfl⟩, Nat.lt_succ_self _⟩
  case unlockCompareExchange.next =>
    rw [compareExchange_snd]
    exact ⟨.inl ⟨hqueued, .inl rfl⟩, Nat.lt_succ_self _⟩
  all_goals exact ⟨.inl ⟨hqueued, .inl rfl⟩, Nat.lt_succ_self _⟩

theorem Pending.exists_apStep {s : Pair} (hpending : s.Pending) :
    ∃ choice t, s.apStep .twoStep choice = some t := by
  have hphase := hpending.phase
  unfold Pair.apStep
  cases hpc : s.ap.pc
  all_goals rw [hpc] at hphase
  all_goals simp only [ApPc.phase, reduceCtorEq, or_self] at hphase
  case spin => exact ⟨.value 0, _, rfl⟩
  all_goals exact ⟨.next, _, rfl⟩

theorem Pending.acceptLeft_pos {s : Pair} (hpending : s.Pending) : 0 < s.ap.pc.acceptLeft := by
  have hphase := hpending.phase
  cases hpc : s.ap.pc
  all_goals rw [hpc] at hphase
  all_goals simp only [ApPc.phase, reduceCtorEq, or_self] at hphase
  all_goals exact Nat.succ_pos _

theorem Pending.sameCore {s t : Pair} (hpending : s.Pending) (hsame : s.SameCore t) :
    t.Pending :=
  ⟨by rw [hsame.context]; exact hpending.queued, by rw [hsame.ap]; exact hpending.phase⟩

end Pair

namespace Machine

/-- The moves of one processor. -/
def Move.byAp (coreId : ℕ) : Move → Bool
  | step (.ap worked _) => worked == coreId
  | _ => false

/-- Core 0's moves on one context. -/
def Move.byCore0 (coreId : ℕ) : Move → Bool
  | step (.core0 worked _) => worked == coreId
  | _ => false

theorem byAp_eq_false {coreId : ℕ} {move : Move}
    (hother : ∀ label, move ≠ .step (Label.onCore coreId label)) :
    move.byAp coreId = false := by
  rcases move with (⟨worked, choice⟩ | ⟨worked, choice⟩) | choice | stack
  · rfl
  · have hne : worked ≠ coreId := by
      rintro rfl
      exact hother (.ap choice) rfl
    simp [Move.byAp, hne]
  · rfl
  · rfl

theorem byCore0_eq_false {coreId : ℕ} {move : Move}
    (hother : ∀ label, move ≠ .step (Label.onCore coreId label)) :
    move.byCore0 coreId = false := by
  rcases move with (⟨worked, choice⟩ | ⟨worked, choice⟩) | choice | stack
  · have hne : worked ≠ coreId := by
      rintro rfl
      exact hother (.core0 choice) rfl
    simp [Move.byCore0, hne]
  · rfl
  · rfl
  · rfl

/-- Core 0 no longer works on a context in which a job is queued. -/
structure Abandoned (coreId : ℕ) (m : Machine) : Prop where
  reached : m.Reached
  away : (m.pair coreId).core0.pc.live = false
  pending : (m.pair coreId).Pending

/-- It does not come back before the job is accepted. -/
def LeftPending (coreId : ℕ) (m : Machine) (move : Move) : Prop :=
  (m.pair coreId).Pending ∧ move.byCore0 coreId = false

instance (coreId : ℕ) (m : Machine) : DecidablePred (m.LeftPending coreId) :=
  fun _ => inferInstanceAs (Decidable (_ ∧ _))

theorem live_sameCore {s t : Pair} (hsame : s.SameCore t) (hlive : s.core0.pc.live = false) :
    t.core0.pc.live = false := by
  rcases hsame.core0 with hcore0 | ⟨-, hafter⟩
  · rw [hcore0]
    exact hlive
  · exact hafter

/-- Until the processor has accepted the job. -/
structure AwaitsProcessor (coreId : ℕ) (m : Machine) : Prop where
  steady : (m.pair coreId).Steady
  away : (m.pair coreId).core0.pc.live = false
  job : (m.pair coreId).Pending ∨ (m.pair coreId).Accepted

theorem AwaitsProcessor.move {coreId : ℕ} {move : Move} {m n : Machine}
    (hawaits : m.AwaitsProcessor coreId) (hleft : m.LeftPending coreId move)
    (hmove : Machine.move move m = some n) :
    n.AwaitsProcessor coreId ∧
      (n.pair coreId).ap.pc.acceptLeft + (if move.byAp coreId then 1 else 0) ≤
        (m.pair coreId).ap.pc.acceptLeft := by
  obtain ⟨hsteady, haway, -⟩ := hawaits
  obtain ⟨hpending, hnotCore0⟩ := hleft
  have hafter := steady_move hsteady hmove
  cases seen_of_move hsteady.ofProcessor hmove with
  | @own s label hsame hstack hclean hstep =>
      cases label with
      | core0 choice => simp [Move.byCore0, Label.onCore] at hnotCore0
      | ap choice =>
          have hstep : s.apStep .twoStep choice = some (n.pair coreId) := hstep
          have haway := live_sameCore hsame haway
          obtain ⟨hjob, hless⟩ := (hpending.sameCore hsame).apStep (hsteady.sameCore hsame)
            haway hstep
          rw [hsame.ap] at hless
          refine ⟨⟨hafter, ?_, hjob⟩, ?_⟩
          · rw [(Pair.apEffect hstep).frame.core0]
            exact haway
          · simp only [Move.byAp, Label.onCore, beq_self_eq_true, if_true]
            omega
  | other hsame hother =>
      refine ⟨⟨hafter, live_sameCore hsame haway, .inl (hpending.sameCore hsame)⟩, ?_⟩
      rw [hsame.ap, byAp_eq_false hother]
      exact le_rfl

/-- A job that core 0 has given up is not lost: whatever the rest of the machine
does, its processor accepts it within ten steps of its own, and until then can
always take the next one. -/
theorem abandonedJob_accepted {coreId : ℕ} (hcoreId : coreId ≠ 0)
    {past : List (Machine × Move)} {m : Machine}
    (hrun : Run (Abandoned coreId) Machine.move past m)
    (hleft : EachStep (LeftPending coreId) past) :
    turns (Move.byAp coreId) past ≤ 10 ∧
      ((m.pair coreId).Accepted ∨ (m.pair coreId).Pending ∧
        turns (Move.byAp coreId) past < 10 ∧
        ∃ choice n, Machine.move (.step (.ap coreId choice)) m = some n) := by
  have hinitial : ∀ m : Machine, m.Abandoned coreId →
      m.AwaitsProcessor coreId ∧ (m.pair coreId).ap.pc.acceptLeft ≤ 10 :=
    fun m habandoned => ⟨⟨habandoned.reached.steady hcoreId, habandoned.away,
      .inl habandoned.pending⟩, Pair.acceptLeft_le _⟩
  obtain ⟨hawaits, hcount⟩ : m.AwaitsProcessor coreId ∧
      turns (Move.byAp coreId) past + (m.pair coreId).ap.pc.acceptLeft ≤ 10 :=
    hrun.turns_add_le hinitial (fun _ _ _ hawaits hleft hmove => hawaits.move hleft hmove) hleft
  refine ⟨by omega, ?_⟩
  rcases hawaits.job with hpending | haccepted
  · have hpos := hpending.acceptLeft_pos
    obtain ⟨choice, p, hp⟩ := hpending.exists_apStep
    refine .inr ⟨hpending, by omega, choice, m.put coreId m.core0 p, ?_⟩
    simp only [Machine.move, Machine.step, ne_eq, hcoreId, not_false_eq_true, if_true, hp,
      Option.map_some]
  · exact .inl haccepted

/-- EXECUTEMACHINECODE with a timeout, for which the processor is too late. -/
def giveUp : List Pair.Label :=
  Pair.startUp ++ [.ap .next] ++
    .core0 (.request (.job (.executeMachineCode 0x1000 1))) ::
      List.replicate 33 (.core0 .next)

def acceptLate : List Pair.Label := .ap (.value 0) :: List.replicate 6 (.ap .next)

theorem abandonedJob_accepted_acceptLate :
    ∃ before past m, exec Machine.move (Move.onCore 1 giveUp) afterInit = some before ∧
      exec (guarded (LeftPending 1) Machine.move) (Move.onCore 1 acceptLate) before = some m ∧
      Run (Abandoned 1) Machine.move past m ∧ EachStep (LeftPending 1) past ∧
      (m.pair 1).ap.pc = .jobReadFault ∧ turns (Move.byAp 1) past ≤ 10 ∧
      ((m.pair 1).Accepted ∨ (m.pair 1).Pending ∧ turns (Move.byAp 1) past < 10 ∧
        ∃ choice n, Machine.move (.step (.ap 1 choice)) m = some n) := by
  have hseen : (exec Machine.move (Move.onCore 1 giveUp) afterInit).bind (fun before =>
      (exec (guarded (LeftPending 1) Machine.move) (Move.onCore 1 acceptLate) before).map
        fun m => ((before.pair 1).core0.pc.live, decide (before.pair 1).Pending,
          (m.pair 1).ap.pc)) = some (false, true, .jobReadFault) := by
    decide +kernel
  obtain ⟨before, hbefore, hlater⟩ := Option.bind_eq_some_iff.mp hseen
  obtain ⟨m, hexec, hfields⟩ := Option.map_eq_some_iff.mp hlater
  obtain ⟨haway, hfields⟩ := Prod.mk.inj hfields
  obtain ⟨hpending, hpc⟩ := Prod.mk.inj hfields
  have habandoned : Abandoned 1 before :=
    ⟨run_of_exec booted_afterInit _ hbefore, haway, of_decide_eq_true hpending⟩
  obtain ⟨past, hguarded⟩ := run_of_exec habandoned _ hexec
  obtain ⟨hrun, hleft⟩ := hguarded.of_guarded
  exact ⟨before, past, m, hbefore, hexec, hrun, hleft, hpc,
    abandonedJob_accepted one_ne_zero hrun hleft⟩

end Machine

/-! ## A processor that spins again -/

/-- The processor looks for a job. -/
def ApPc.polls : ApPc → Bool
  | spin | spinLock | spinQueued => true
  | _ => false

/-- Core 0 has queued its job. -/
def AfterUnlock.awaits : AfterUnlock → Bool
  | waitOnApExec | pause _ | jobFinished => true
  | _ => false

def AfterUnlock.noticeLeft : AfterUnlock → ℕ
  | waitOnApExec => 12
  | pause _ => 13
  | jobFinished => 6
  | _ => 0

namespace Core0Pc

/-- `wait_on_ap_exec`, and the reply to the job it has waited for. -/
def awaits : Core0Pc → Bool
  | returned _ | waitLock _ | waitTryLock _ | waitReady _ | waitQueued _ | waitPause _
  | readFault _ | sendRdtsc _ _ | sendGpf _ _ _ | sendLength _ _ _ _ | sendBuffer _ _ _ _ _
  | sendSize _ _ _ _ _ _ | sendMsrLow | sendMsrHigh _ => true
  | unlockStore next | unlockCompareExchange next => next.awaits
  | _ => false

/-- An upper bound on core 0's steps once the processor has nothing to do. -/
def noticeLeft : Core0Pc → ℕ
  | waitPause _ => 13
  | waitLock _ => 12
  | waitTryLock _ => 11
  | waitReady _ => 10
  | waitQueued _ => 9
  | readFault _ => 6
  | sendRdtsc _ _ => 5
  | sendGpf _ _ _ => 4
  | sendLength _ _ _ _ => 3
  | sendBuffer _ _ _ _ _ => 2
  | sendSize _ _ _ _ _ _ => 1
  | sendMsrLow => 2
  | sendMsrHigh _ => 1
  | unlockStore next => next.noticeLeft + 2
  | unlockCompareExchange next => next.noticeLeft + 1
  | _ => 0

end Core0Pc

namespace Pair

/-- Core 0 waits for a processor that has nothing to do. -/
structure NothingLeft (s : Pair) : Prop where
  polls : s.ap.pc.polls = true
  queued : s.context.jobQueued = 0
  awaits : s.core0.pc.awaits = true
  handles : s.core0.pc.Handles s.core0.job

theorem noticeLeft_le (pc : Core0Pc) : pc.noticeLeft ≤ 15 := by
  cases pc with
  | unlockStore next => cases next <;> simp [Core0Pc.noticeLeft, AfterUnlock.noticeLeft]
  | unlockCompareExchange next => cases next <;> simp [Core0Pc.noticeLeft, AfterUnlock.noticeLeft]
  | _ => simp [Core0Pc.noticeLeft]

theorem awaits_afterWait (job : Job) (timedOut : Bool) :
    (job.afterWait timedOut).awaits = true ∧ (job.afterWait timedOut).noticeLeft ≤ 6 := by
  cases job <;> cases timedOut <;> simp [Job.afterWait, Core0Pc.awaits, Core0Pc.noticeLeft]

/-- Core 0's wait and reply take no answer of the firmware. -/
theorem next_of_awaits {choice : Core0Choice} {s t : Pair} (hawaits : s.core0.pc.awaits = true)
    (hlive : s.core0.pc.live = true) (hstep : s.core0Step .twoStep choice = some t) :
    choice = .next := by
  unfold Pair.core0Step at hstep
  cases hpc : s.core0.pc
  all_goals rw [hpc] at hstep hawaits hlive
  case returned => cases hlive
  all_goals simp only [Core0Pc.awaits, Bool.false_eq_true] at hawaits
  all_goals cases choice
  all_goals first | rfl | cases hstep

theorem NothingLeft.goto {s t : Pair} {before : Core0Pc} (after : Core0Pc)
    (hnothing : s.NothingLeft) (hcore0 : t.core0 = { s.core0 with pc := after })
    (hap : t.ap = s.ap) (hqueued : t.context.jobQueued = s.context.jobQueued)
    (hhandles : t.core0.pc.Handles s.core0.job) (hawaits : after.awaits = true)
    (hless : after.noticeLeft < before.noticeLeft) :
    t.NothingLeft ∧ t.core0.pc.noticeLeft < before.noticeLeft := by
  rw [hcore0] at hhandles
  constructor
  · constructor
    · exact hap ▸ hnothing.polls
    · exact hqueued.trans hnothing.queued
    · rw [hcore0]
      exact hawaits
    · rw [hcore0]
      exact hhandles
  · rw [hcore0]
    exact hless

theorem holds_of_polls {pc : ApPc} (hpolls : pc.polls = true) :
    pc.holds = false ∧ pc.readyFlag = some 1 := by
  cases pc <;> first | exact ⟨rfl, rfl⟩ | cases hpolls

/-- Core 0 finds the lock free, the processor ready and no job queued. -/
theorem NothingLeft.core0Step {choice : Core0Choice} {s t : Pair} (hnothing : s.NothingLeft)
    (hsteady : s.Steady) (hlive : s.core0.pc.live = true)
    (hstep : s.core0Step .twoStep choice = some t) :
    t.NothingLeft ∧ t.core0.pc.noticeLeft < s.core0.pc.noticeLeft := by
  have hqueued := hnothing.queued
  have hawaits := hnothing.awaits
  obtain rfl := next_of_awaits hawaits hlive hstep
  have hhandles := handles_of_nextStep hsteady.ofProcessor.coreId hnothing.handles hstep
  obtain ⟨houtside, hflag⟩ := holds_of_polls hnothing.polls
  have hready := hsteady.flags.ready 1 hflag
  have hfree : s.core0.pc.holds = false → s.context.lock = 0 :=
    fun hholds => hsteady.free hholds houtside
  unfold Pair.core0Step at hstep
  cases hpc : s.core0.pc
  all_goals rw [hpc] at hstep hawaits hlive hfree
  case returned => cases hlive
  all_goals simp only [Core0Pc.awaits, Bool.false_eq_true] at hawaits
  all_goals simp only [Option.some.injEq] at hstep
  case waitLock iterations =>
    subst hstep
    rw [if_pos (hfree rfl)] at hhandles ⊢
    exact hnothing.goto (.waitTryLock iterations) rfl rfl rfl hhandles rfl (Nat.lt_succ_self _)
  case waitTryLock iterations =>
    subst hstep
    simp only [compareExchange_free (hfree rfl), if_true] at hhandles ⊢
    exact hnothing.goto (.waitReady iterations) rfl rfl rfl hhandles rfl (Nat.lt_succ_self _)
  case waitReady iterations =>
    subst hstep
    rw [if_pos hready] at hhandles ⊢
    exact hnothing.goto (.waitQueued iterations) rfl rfl rfl hhandles rfl (Nat.lt_succ_self _)
  case waitQueued iterations =>
    subst hstep
    rw [if_pos hqueued] at hhandles ⊢
    exact hnothing.goto (.unlockStore .jobFinished) rfl rfl rfl hhandles rfl (Nat.lt_succ_self _)
  case waitPause iterations =>
    subst hstep
    obtain ⟨hafter, hleft⟩ := awaits_afterWait s.core0.job true
    by_cases htimeout : s.core0.job.timeout ≠ 0
    · by_cases hlast : s.core0.job.timeout ≤ iterations + 1
      · simp only [pauseWait, if_pos htimeout, if_pos hlast] at hhandles ⊢
        exact hnothing.goto _ rfl rfl rfl hhandles hafter
          (hleft.trans_lt (by simp [Core0Pc.noticeLeft]))
      · simp only [pauseWait, if_pos htimeout, if_neg hlast] at hhandles ⊢
        exact hnothing.goto _ rfl rfl rfl hhandles rfl (Nat.lt_succ_self _)
    · simp only [pauseWait, if_neg htimeout] at hhandles ⊢
      exact hnothing.goto _ rfl rfl rfl hhandles rfl (Nat.lt_succ_self _)
  case sendMsrLow =>
    cases hjob : s.core0.job
    all_goals simp only [hjob, reduceCtorEq, Option.some.injEq] at hstep
    subst hstep
    exact hnothing.goto (.sendMsrHigh _) rfl rfl rfl hhandles rfl (Nat.lt_succ_self _)
  case sendMsrHigh eax =>
    cases hjob : s.core0.job
    all_goals simp only [hjob, reduceCtorEq, Option.some.injEq] at hstep
    subst hstep
    exact hnothing.goto (.returned _) rfl rfl rfl hhandles rfl (Nat.lt_succ_self _)
  case unlockStore next =>
    subst hstep
    exact hnothing.goto (.unlockCompareExchange next) rfl rfl rfl hhandles hawaits
      (Nat.lt_succ_self _)
  case unlockCompareExchange next =>
    subst hstep
    have hqueued : (compareExchange s.context 1 0).2.jobQueued = s.context.jobQueued := by
      rw [compareExchange_snd]
    cases next
    case waitOnApExec =>
      exact hnothing.goto (.waitLock 0) rfl rfl hqueued hhandles rfl (Nat.lt_succ_self _)
    case pause iterations =>
      exact hnothing.goto (.waitPause iterations) rfl rfl hqueued hhandles rfl
        (Nat.lt_succ_self _)
    case jobFinished =>
      obtain ⟨hafter, hleft⟩ := awaits_afterWait s.core0.job false
      exact hnothing.goto _ rfl rfl hqueued hhandles hafter (Nat.lt_succ_of_le hleft)
    all_goals cases hawaits
  all_goals subst hstep
  all_goals exact hnothing.goto _ rfl rfl rfl hhandles rfl (Nat.lt_succ_self _)

/-- The processor goes on looking for a job. -/
theorem NothingLeft.apStep {choice : ApChoice} {s t : Pair} (hnothing : s.NothingLeft)
    (hstep : s.apStep .twoStep choice = some t) : t.NothingLeft ∧ t.core0 = s.core0 := by
  obtain ⟨hpolls, hqueued, hawaits, hhandles⟩ := hnothing
  unfold Pair.apStep at hstep
  cases hpc : s.ap.pc
  all_goals rw [hpc] at hstep hpolls
  all_goals simp only [ApPc.polls, Bool.false_eq_true] at hpolls
  all_goals cases choice
  all_goals simp only [reduceCtorEq, Option.some.injEq] at hstep
  all_goals subst hstep
  case spin.value tsc => exact ⟨⟨rfl, hqueued, hawaits, hhandles⟩, rfl⟩
  case spinLock.next => split <;> exact ⟨⟨rfl, hqueued, hawaits, hhandles⟩, rfl⟩
  case spinQueued.next =>
    rw [if_neg (not_not.mpr hqueued)]
    exact ⟨⟨rfl, hqueued, hawaits, hhandles⟩, rfl⟩

/-- Core 0 at `wait_on_ap_exec` takes no answer of the firmware. -/
theorem handles_of_waiting {pc : Core0Pc} (job : Job) (hwaiting : pc.phase = .waiting) :
    pc.awaits = true ∧ pc.Handles job := by
  cases pc with
  | unlockStore next => cases next <;> first | exact ⟨rfl, trivial⟩ | cases hwaiting
  | unlockCompareExchange next => cases next <;> first | exact ⟨rfl, trivial⟩ | cases hwaiting
  | readFault timedOut => cases timedOut <;> cases hwaiting
  | sendRdtsc timedOut => cases timedOut <;> cases hwaiting
  | sendGpf timedOut => cases timedOut <;> cases hwaiting
  | sendLength timedOut => cases timedOut <;> cases hwaiting
  | sendBuffer timedOut => cases timedOut <;> cases hwaiting
  | sendSize timedOut => cases timedOut <;> cases hwaiting
  | _ => first | exact ⟨rfl, trivial⟩ | cases hwaiting

end Pair

namespace Machine

/-- Core 0 waits for a job of this core, and its processor looks for one. -/
structure SpinsAgain (coreId : ℕ) (m : Machine) : Prop where
  reached : m.Reached
  waiting : (m.pair coreId).core0.pc.phase = .waiting
  polls : (m.pair coreId).ap.pc.polls = true
  queued : (m.pair coreId).context.jobQueued = 0

/-- The handler has not returned. -/
def Serves (coreId : ℕ) (m : Machine) (_ : Move) : Prop :=
  (m.pair coreId).core0.pc.live = true

instance (coreId : ℕ) (m : Machine) : DecidablePred (m.Serves coreId) :=
  fun _ => inferInstanceAs (Decidable (_ = true))

theorem core0_sameCore {s t : Pair} (hsame : s.SameCore t) (hlive : s.core0.pc.live = true) :
    t.core0 = s.core0 := by
  rcases hsame.core0 with hcore0 | ⟨hbefore, -⟩
  · exact hcore0
  · rw [hlive] at hbefore
    cases hbefore

theorem nothingLeft_move {coreId : ℕ} {move : Move} {m n : Machine}
    (hsteady : (m.pair coreId).Steady) (hnothing : (m.pair coreId).NothingLeft)
    (hserves : m.Serves coreId move) (hmove : Machine.move move m = some n) :
    (n.pair coreId).NothingLeft ∧
      (n.pair coreId).core0.pc.noticeLeft + (if move.byCore0 coreId then 1 else 0) ≤
        (m.pair coreId).core0.pc.noticeLeft := by
  have hsameCore {s : Pair} (hsame : (m.pair coreId).SameCore s) : s.NothingLeft := by
    have hcore0 := core0_sameCore hsame hserves
    exact ⟨by rw [hsame.ap]; exact hnothing.polls, by rw [hsame.context]; exact hnothing.queued,
      by rw [hcore0]; exact hnothing.awaits, by rw [hcore0]; exact hnothing.handles⟩
  cases seen_of_move hsteady.ofProcessor hmove with
  | @own s label hsame hstack hclean hstep =>
      have hcore0 := core0_sameCore hsame hserves
      cases label with
      | core0 choice =>
          have hlive : s.core0.pc.live = true := by
            rw [hcore0]
            exact hserves
          obtain ⟨hafter, hless⟩ := (hsameCore hsame).core0Step (hsteady.sameCore hsame) hlive
            hstep
          rw [hcore0] at hless
          refine ⟨hafter, ?_⟩
          simp only [Move.byCore0, Label.onCore, beq_self_eq_true, if_true]
          omega
      | ap choice =>
          obtain ⟨hafter, hkept⟩ := (hsameCore hsame).apStep hstep
          refine ⟨hafter, ?_⟩
          rw [hkept, hcore0]
          exact le_rfl
  | other hsame hother =>
      refine ⟨hsameCore hsame, ?_⟩
      rw [core0_sameCore hsame hserves, byCore0_eq_false hother]
      exact le_rfl

/-- Core 0 is never stuck while it works on a context. -/
theorem exists_core0Move {coreId : ℕ} {choice : Core0Choice} {m : Machine} {p : Pair}
    (hcoreId : coreId ≠ 0) (hserves : (m.pair coreId).core0.pc.live = true)
    (hstep : (m.pair coreId).core0Step .twoStep choice = some p) :
    ∃ n, Machine.move (.step (.core0 coreId choice)) m = some n := by
  have htarget : coreId = m.target := by
    by_contra hother
    rw [pair_core0, if_neg hother] at hserves
    cases hserves
  rw [pair, if_pos htarget] at hstep
  refine ⟨{ m with target := coreId }.put coreId p.core0 p, ?_⟩
  simp only [Machine.move, Machine.step, ne_eq, hcoreId, not_false_eq_true, htarget.symm, true_or,
    and_self, if_true, hstep, Option.map_some]

/-- Whether or not the client has set a timeout: once the processor looks for a
job and finds none, core 0's handler returns within fifteen steps of core 0, and
until then can always take the next one. -/
theorem spinning_noticed {coreId : ℕ} (hcoreId : coreId ≠ 0)
    {past : List (Machine × Move)} {m : Machine}
    (hrun : Run (SpinsAgain coreId) Machine.move past m)
    (hserves : EachStep (Serves coreId) past) :
    turns (Move.byCore0 coreId) past ≤ 15 ∧
      ((m.pair coreId).core0.pc.live = true →
        ∃ n, Machine.move (.step (.core0 coreId .next)) m = some n) := by
  have hinitial : ∀ m : Machine, m.SpinsAgain coreId →
      ((m.pair coreId).Steady ∧ (m.pair coreId).NothingLeft) ∧
        (m.pair coreId).core0.pc.noticeLeft ≤ 15 := by
    intro m hspins
    obtain ⟨hawaits, hhandles⟩ :=
      Pair.handles_of_waiting (m.pair coreId).core0.job hspins.waiting
    exact ⟨⟨hspins.reached.steady hcoreId, hspins.polls, hspins.queued, hawaits, hhandles⟩,
      Pair.noticeLeft_le _⟩
  obtain ⟨⟨-, hnothing⟩, hcount⟩ :
      ((m.pair coreId).Steady ∧ (m.pair coreId).NothingLeft) ∧
        turns (Move.byCore0 coreId) past + (m.pair coreId).core0.pc.noticeLeft ≤ 15 := by
    refine hrun.turns_add_le hinitial (fun m move n hinv hserves hmove => ?_) hserves
    obtain ⟨hafter, hless⟩ := nothingLeft_move hinv.1 hinv.2 hserves hmove
    exact ⟨⟨steady_move hinv.1 hmove, hafter⟩, hless⟩
  refine ⟨by omega, fun hlive => ?_⟩
  obtain ⟨p, hp⟩ := Pair.exists_nextStep .twoStep hlive hnothing.handles
  exact exists_core0Move hcoreId hlive hp

/-- EXECUTEMACHINECODE without a timeout; the processor runs the job and spins
again. -/
def spinAgain : List Pair.Label :=
  Pair.startUp ++ [.ap .next] ++ Pair.submit ++ [.core0 .next] ++ Pair.reachMachineCode ++
    [.ap (.store 0 [42]), .ap .ret] ++ List.replicate 7 (.ap .next)

/-- Core 0 polls once more and replies. -/
def noticeAndReply : List Pair.Label := List.replicate 12 (.core0 .next)

theorem spinning_noticed_noticeAndReply :
    ∃ before past m, exec Machine.move (Move.onCore 1 spinAgain) afterInit = some before ∧
      exec (guarded (Serves 1) Machine.move) (Move.onCore 1 noticeAndReply) before = some m ∧
      Run (SpinsAgain 1) Machine.move past m ∧ EachStep (Serves 1) past ∧
      (m.histories 1).replies.length = 1 ∧ turns (Move.byCore0 1) past ≤ 15 ∧
      ((m.pair 1).core0.pc.live = true →
        ∃ n, Machine.move (.step (.core0 1 .next)) m = some n) := by
  have hseen : (exec Machine.move (Move.onCore 1 spinAgain) afterInit).bind (fun before =>
      (exec (guarded (Serves 1) Machine.move) (Move.onCore 1 noticeAndReply) before).map
        fun m => ((before.pair 1).core0.pc.phase, (before.pair 1).ap.pc.polls,
          (before.pair 1).context.jobQueued, (m.histories 1).replies.length)) =
            some (.waiting, true, 0, 1) := by
    decide +kernel
  obtain ⟨before, hbefore, hlater⟩ := Option.bind_eq_some_iff.mp hseen
  obtain ⟨m, hexec, hfields⟩ := Option.map_eq_some_iff.mp hlater
  obtain ⟨hwaiting, hfields⟩ := Prod.mk.inj hfields
  obtain ⟨hpolls, hfields⟩ := Prod.mk.inj hfields
  obtain ⟨hqueued, hreplies⟩ := Prod.mk.inj hfields
  have hspins : SpinsAgain 1 before :=
    ⟨run_of_exec booted_afterInit _ hbefore, hwaiting, hpolls, hqueued⟩
  obtain ⟨past, hguarded⟩ := run_of_exec hspins _ hexec
  obtain ⟨hrun, hserves⟩ := hguarded.of_guarded
  exact ⟨before, past, m, hbefore, hexec, hrun, hserves, hreplies,
    spinning_noticed one_ne_zero hrun hserves⟩

end Machine

end AngryUefi
