import AngryUefi.Cores.Machine

/-!
# Core 0's own context

Core 0 also serves requests that name core 0 itself.  It runs such a job in the
handler, so that nobody else works on its context, and `init_core_contexts`
says that it is always ready: it is, between any two requests.
-/

namespace AngryUefi

open AngryUefi.Transition

namespace Core0Pc

/-- Between the two stores to `ready` around a job of core 0's own. -/
def busy : Core0Pc → Bool
  | bootClearQueued | bootCallFunctions | bootSetReady => true
  | _ => false

/-- Between the two stores to `job_queued` around it. -/
def queued : Core0Pc → Bool
  | bootClearReady | bootClearQueued => true
  | _ => false

/-- The part of `start_core` that works on a core that has not been started. -/
def startsCore : Core0Pc → Bool
  | startTryLock | startFaultInfo | startCr3 | startOnCore => true
  | _ => false

end Core0Pc

theorem ContextWrite.flags_apply (write : ContextWrite) (context : CoreContext) :
    (write.apply context).present = context.present ∧
      (write.apply context).started = context.started ∧
      (write.apply context).ready = context.ready ∧
      (write.apply context).jobQueued = context.jobQueued ∧
      (write.apply context).lock = context.lock := by
  cases write <;> exact ⟨rfl, rfl, rfl, rfl, rfl⟩

namespace Pair

/-- Core 0's context, whose flags tell where in a handler core 0 is. -/
structure BootCore (s : Pair) : Prop where
  coreId : s.coreId = 0
  present : s.context.present = 1
  started : s.context.started = 1
  lock : s.context.lock = if s.core0.pc.holds then 1 else 0
  ready : s.context.ready = if s.core0.pc.busy then 0 else 1
  jobQueued : s.context.jobQueued = if s.core0.pc.queued then 1 else 0
  starts : s.core0.pc.startsCore = false

/-- Nobody works on core 0's context. -/
structure Idle (context : CoreContext) : Prop where
  present : context.present = 1
  started : context.started = 1
  lock : context.lock = 0
  ready : context.ready = 1
  jobQueued : context.jobQueued = 0

theorem BootCore.idle {s : Pair} (hboot : s.BootCore) (hlive : s.core0.pc.live = false) :
    Idle s.context := by
  obtain ⟨result, hpc⟩ := Core0Pc.returned_of_not_live hlive
  have hlock := hboot.lock
  have hready := hboot.ready
  have hjobQueued := hboot.jobQueued
  rw [hpc] at hlock hready hjobQueued
  exact ⟨hboot.present, hboot.started, hlock, hready, hjobQueued⟩

theorem bootCore_of_idle {s : Pair} (hcoreId : s.coreId = 0) (hlive : s.core0.pc.live = false)
    (hidle : Idle s.context) : s.BootCore := by
  obtain ⟨result, hpc⟩ := Core0Pc.returned_of_not_live hlive
  constructor
  case coreId => exact hcoreId
  case present => exact hidle.present
  case started => exact hidle.started
  all_goals rw [hpc]
  · exact hidle.lock
  · exact hidle.ready
  · exact hidle.jobQueued
  · rfl

theorem BootCore.sameCore {s t : Pair} (hboot : s.BootCore) (hsame : s.SameCore t) :
    t.BootCore := by
  rcases hsame.core0 with hcore0 | ⟨hbefore, hafter⟩
  · obtain ⟨hcoreId, hpresent, hstarted, hlock, hready, hjobQueued, hstarts⟩ := hboot
    constructor
    all_goals simp only [hsame.coreId, hsame.context, hcore0]
    all_goals assumption
  · exact bootCore_of_idle (hsame.coreId.trans hboot.coreId) hafter
      (hsame.context ▸ hboot.idle hbefore)

/-- A step that leaves the context alone, and moves between accesses at which
the flags are the same. -/
theorem BootCore.goto {s : Pair} {before after : Core0Pc} (hboot : s.BootCore)
    (hpc : s.core0.pc = before) (hholds : after.holds = before.holds)
    (hbusy : after.busy = before.busy) (hqueued : after.queued = before.queued)
    (hstarts : after.startsCore = false) : (s.setCore0Pc after).BootCore := by
  subst hpc
  constructor
  case coreId => exact hboot.coreId
  case present => exact hboot.present
  case started => exact hboot.started
  case lock => exact hholds ▸ hboot.lock
  case ready => exact hbusy ▸ hboot.ready
  case jobQueued => exact hqueued ▸ hboot.jobQueued
  case starts => exact hstarts

/-- A successful `try_lock_context`: nobody else takes this lock. -/
theorem BootCore.take {s : Pair} {before : Core0Pc} (after refused : Core0Pc)
    (hboot : s.BootCore) (hpc : s.core0.pc = before) (hfree : before.holds = false)
    (hholds : after.holds = true) (hbusy : after.busy = before.busy)
    (hqueued : after.queued = before.queued) (hstarts : after.startsCore = false) :
    { s.setCore0Pc (if (compareExchange s.context 0 1).1 = 0 then after else refused) with
      context := (compareExchange s.context 0 1).2 }.BootCore := by
  subst hpc
  have hlock : s.context.lock = 0 := by
    rw [hboot.lock, hfree]
    rfl
  simp only [compareExchange, hlock, if_true]
  constructor
  case coreId => exact hboot.coreId
  case present => exact hboot.present
  case started => exact hboot.started
  case lock => simp [hholds]
  case ready => exact hbusy ▸ hboot.ready
  case jobQueued => exact hqueued ▸ hboot.jobQueued
  case starts => exact hstarts

theorem BootCore.write {s : Pair} {rest : List ContextWrite} (hboot : s.BootCore)
    (hpc : s.core0.pc = .write rest) : (s.fillContext rest).BootCore := by
  obtain ⟨hcoreId, hpresent, hstarted, hlock, hready, hjobQueued, hstarts⟩ := hboot
  rw [hpc] at hlock hready hjobQueued
  cases rest with
  | cons write rest =>
      obtain ⟨hpresent', hstarted', hready', hjobQueued', hlock'⟩ := write.flags_apply s.context
      exact ⟨hcoreId, hpresent'.trans hpresent, hstarted'.trans hstarted, hlock'.trans hlock,
        hready'.trans hready, hjobQueued'.trans hjobQueued, rfl⟩
  | nil =>
      simp only [fillContext, hcoreId, if_true]
      exact ⟨hcoreId, hpresent, hstarted, hlock, hready, rfl, rfl⟩

theorem BootCore.request {s : Pair} (hboot : s.BootCore) (hlive : s.core0.pc.live = false)
    (request : Request) : (s.beginRequest request).BootCore := by
  obtain ⟨hpresent, hstarted, hlock, hready, hjobQueued⟩ := hboot.idle hlive
  cases request <;> exact ⟨hboot.coreId, hpresent, hstarted, hlock, hready, hjobQueued, rfl⟩

theorem away_afterWait (job : Job) (timedOut : Bool) :
    (job.afterWait timedOut).holds = false ∧ (job.afterWait timedOut).busy = false ∧
      (job.afterWait timedOut).queued = false ∧
      (job.afterWait timedOut).startsCore = false := by
  cases job <;> cases timedOut <;> exact ⟨rfl, rfl, rfl, rfl⟩

theorem away_pc (next : AfterUnlock) (job : Job) :
    (next.pc job).holds = false ∧ (next.pc job).busy = false ∧ (next.pc job).queued = false ∧
      (next.pc job).startsCore = false := by
  cases next with
  | jobFinished => exact away_afterWait job false
  | _ => exact ⟨rfl, rfl, rfl, rfl⟩

theorem BootCore.unlock {s : Pair} {next : AfterUnlock} {after : Core0Pc} (hboot : s.BootCore)
    (hpc : s.core0.pc = .unlockStore next)
    (haway : after.holds = false ∧ after.busy = false ∧ after.queued = false ∧
      after.startsCore = false) :
    { s.setCore0Pc after with context := { s.context with lock := 0 } }.BootCore := by
  obtain ⟨hcoreId, hpresent, hstarted, hlock, hready, hjobQueued, hstarts⟩ := hboot
  obtain ⟨hholds, hbusy, hqueued, hstarts⟩ := haway
  rw [hpc] at hready hjobQueued
  constructor
  case lock => simp [hholds]
  case ready =>
    rw [setCore0Pc_core0_pc, hbusy]
    exact hready
  case jobQueued =>
    rw [setCore0Pc_core0_pc, hqueued]
    exact hjobQueued
  all_goals assumption

/-- The reply is on record. -/
theorem BootCore.replied {s : Pair} {before : Core0Pc} {result : HandlerResult}
    (hboot : s.BootCore) (hpc : s.core0.pc = before) (hfree : before.holds = false)
    (hbusy : before.busy = false) (hqueued : before.queued = false) :
    (s.reply result).BootCore := by
  have hreturned : (s.setCore0Pc (.returned result)).BootCore :=
    hboot.goto hpc hfree.symm hbusy.symm hqueued.symm rfl
  obtain ⟨hcoreId, hpresent, hstarted, hlock, hready, hjobQueued, hstarts⟩ := hreturned
  exact ⟨hcoreId, hpresent, hstarted, hlock, hready, hjobQueued, hstarts⟩

/-- The second half of `unlock_context` finds the lock free. -/
theorem BootCore.clear {s : Pair} {next : AfterUnlock} (hboot : s.BootCore)
    (hpc : s.core0.pc = .unlockCompareExchange next) :
    { s.setCore0Pc (next.pc s.core0.job) with
      context := (compareExchange s.context 1 0).2 }.BootCore := by
  have hlock : s.context.lock = 0 := by
    rw [hboot.lock, hpc]
    rfl
  obtain ⟨hholds, hbusy, hqueued, hstarts⟩ := away_pc next s.core0.job
  simp only [compareExchange, hlock]
  rw [if_neg (by decide)]
  exact hboot.goto hpc hholds hbusy hqueued hstarts

/-- Core 0's steps keep the flags of its own context right. -/
theorem BootCore.core0Step {mode : UnlockMode} {choice : Core0Choice} {s t : Pair}
    (hboot : s.BootCore) (hstep : s.core0Step mode choice = some t) : t.BootCore := by
  have hstarts := hboot.starts
  have hlock := hboot.lock
  have hready := hboot.ready
  have hjobQueued := hboot.jobQueued
  unfold Pair.core0Step at hstep
  cases hpc : s.core0.pc
  all_goals rw [hpc] at hstep hstarts hlock hready hjobQueued
  all_goals cases choice
  all_goals simp only [reduceCtorEq, Option.some.injEq] at hstep
  case sendMsrLow.next =>
    cases hjob : s.core0.job
    all_goals simp only [hjob, reduceCtorEq, Option.some.injEq] at hstep
    subst hstep
    exact hboot.goto hpc rfl rfl rfl rfl
  case sendMsrHigh.next eax =>
    cases hjob : s.core0.job
    all_goals simp only [hjob, reduceCtorEq, Option.some.injEq] at hstep
    subst hstep
    exact hboot.replied hpc rfl rfl rfl
  case startOnCore.startup => cases hstarts
  all_goals subst hstep
  case returned.request result request => exact hboot.request (by rw [hpc]; rfl) request
  case returned.elsewhere result stack =>
    exact hboot.sameCore ⟨rfl, rfl, rfl, rfl, .inl rfl⟩
  case jobTryLock.next => exact hboot.take .jobReady _ hpc rfl rfl rfl rfl rfl
  case waitTryLock.next iterations =>
    exact hboot.take (.waitReady iterations) _ hpc rfl rfl rfl rfl rfl
  case write.next rest => exact hboot.write hpc
  case unlockCompareExchange.next next => exact hboot.clear hpc
  case unlockStore.next next =>
    cases mode with
    | twoStep => exact hboot.unlock hpc ⟨rfl, rfl, rfl, rfl⟩
    | atomic => exact hboot.unlock hpc (away_pc next _)
  case sendSize.next => exact hboot.replied hpc rfl rfl rfl
  case startTryLock.next => cases hstarts
  case startFaultInfo.next => cases hstarts
  case startCr3.newCr3 => cases hstarts
  case startStarted.next =>
    rw [if_pos hboot.started]
    exact hboot.goto hpc rfl rfl rfl rfl
  case bootClearReady.next =>
    exact ⟨hboot.coreId, hboot.present, hboot.started, hlock, rfl, hjobQueued, rfl⟩
  case bootClearQueued.next =>
    exact ⟨hboot.coreId, hboot.present, hboot.started, hlock, hready, rfl, rfl⟩
  case bootCallFunctions.ranOnBootCore =>
    exact ⟨hboot.coreId, hboot.present, hboot.started, hlock, hready, hjobQueued,
      rfl⟩
  case bootSetReady.next =>
    exact ⟨hboot.coreId, hboot.present, hboot.started, hlock, rfl, hjobQueued, rfl⟩
  case waitPause.next iterations =>
    obtain ⟨hholds, hbusy, hqueued, hstarts⟩ := away_afterWait s.core0.job true
    simp only [pauseWait]
    split
    · split
      · exact hboot.goto hpc hholds hbusy hqueued hstarts
      · exact hboot.goto hpc rfl rfl rfl rfl
    · exact hboot.goto hpc rfl rfl rfl rfl
  all_goals try split
  all_goals exact hboot.goto hpc rfl rfl rfl rfl

end Pair

namespace Machine

/-- Besides the steps on the other contexts, core 0 works on its own one, and
the handlers' frames use its stack again between two requests. -/
inductive Move
  | step (label : Label)
  | boot (choice : Core0Choice)
  | useStack (stack : UInt64 → UInt32 × UInt32)

def move : Move → Machine → Option Machine
  | .step label, m => Machine.step .twoStep label m
  | .boot choice, m =>
      if 0 = m.target ∨ m.core0.pc.live = false then
        ((m.working 0).core0Step .twoStep choice).map fun p =>
          { m with target := 0 }.put 0 p.core0 p
      else none
  | .useStack stack, m => if m.core0.pc.live = false then some { m with stack } else none

/-- Only steps on the other contexts can be unsafe. -/
def SafeMove (m : Machine) : Move → Prop
  | .step label => m.SafeStep label
  | .boot _ => True
  | .useStack _ => True

instance (m : Machine) : DecidablePred m.SafeMove
  | .step label => inferInstanceAs (Decidable (m.SafeStep label))
  | .boot _ => inferInstanceAs (Decidable True)
  | .useStack _ => inferInstanceAs (Decidable True)

/-- What a move on one context looks like from another one. -/
theorem sameCore_boot {m : Machine} {other : ℕ} {p : Pair} (hother : other ≠ 0)
    (hturn : 0 = m.target ∨ m.core0.pc.live = false) :
    (m.pair other).SameCore (({ m with target := 0 }.put 0 p.core0 p).pair other) :=
  sameCore_put hother (.inr ⟨rfl, hturn⟩)

theorem sameCore_useStack (m : Machine) (coreId : ℕ) (stack : UInt64 → UInt32 × UInt32) :
    (m.pair coreId).SameCore ({ m with stack }.pair coreId) := by
  constructor
  case core0 => exact .inl (by simp only [pair_core0])
  all_goals simp

theorem Invariant.move {move : Move} {m n : Machine} (hinv : m.Invariant)
    (hsafe : m.SafeMove move) (hmove : Machine.move move m = some n) : n.Invariant := by
  cases move with
  | step label => exact hinv.step hsafe hmove
  | boot choice =>
      simp only [Machine.move, Option.ite_none_right_eq_some, Option.map_eq_some_iff] at hmove
      obtain ⟨hturn, p, -, rfl⟩ := hmove
      intro other hother
      have hsame := sameCore_boot (p := p) hother hturn
      exact ⟨(hinv other hother).1.sameCore hsame, (hinv other hother).2.sameCore hsame⟩
  | useStack stack =>
      simp only [Machine.move, Option.ite_none_right_eq_some, Option.some.injEq] at hmove
      obtain ⟨-, rfl⟩ := hmove
      intro other hother
      have hsame := sameCore_useStack m other stack
      exact ⟨(hinv other hother).1.sameCore hsame, (hinv other hother).2.sameCore hsame⟩

/-- Core 0's own context is in order. -/
def BootReady (m : Machine) : Prop := (m.pair 0).BootCore

theorem BootReady.idle {m : Machine} (hready : m.BootReady) (hlive : m.core0.pc.live = false) :
    Pair.Idle (m.contexts 0) := by
  have hidle := Pair.BootCore.idle hready
  rw [pair_context, pair_core0] at hidle
  refine hidle ?_
  split
  · exact hlive
  · rfl

theorem bootReady_of_idle {m : Machine} (hlive : m.core0.pc.live = false)
    (hidle : Pair.Idle (m.contexts 0)) : m.BootReady := by
  refine Pair.bootCore_of_idle (pair_coreId m 0) ?_ (by rw [pair_context]; exact hidle)
  rw [pair_core0]
  split
  · exact hlive
  · rfl

/-- All cores are present, and core 0 is ready. -/
def withBootCore : Machine :=
  { afterInit with
    contexts := Function.update afterInit.contexts 0
      { Pair.initContext with started := 1, ready := 1 } }

theorem bootReady_withBootCore : withBootCore.BootReady :=
  bootReady_of_idle rfl ⟨rfl, rfl, rfl, rfl, rfl⟩

/-- No move of any party disturbs core 0's own context. -/
theorem BootReady.move {move : Move} {m n : Machine} (hready : m.BootReady)
    (hmove : Machine.move move m = some n) : n.BootReady := by
  cases move with
  | step label =>
      cases label with
      | core0 coreId choice =>
          simp only [Machine.move, Machine.step, Option.ite_none_right_eq_some,
            Option.map_eq_some_iff] at hmove
          obtain ⟨⟨hcoreId, hturn⟩, p, -, rfl⟩ := hmove
          exact Pair.BootCore.sameCore hready (sameCore_put hcoreId.symm (.inr ⟨rfl, hturn⟩))
      | ap coreId choice =>
          simp only [Machine.move, Machine.step, Option.ite_none_right_eq_some,
            Option.map_eq_some_iff] at hmove
          obtain ⟨hcoreId, p, -, rfl⟩ := hmove
          exact Pair.BootCore.sameCore hready (sameCore_put hcoreId.symm (.inl ⟨rfl, rfl⟩))
  | boot choice =>
      simp only [Machine.move, Option.ite_none_right_eq_some, Option.map_eq_some_iff] at hmove
      obtain ⟨hturn, p, hp, rfl⟩ := hmove
      have hboot := (Pair.BootCore.sameCore hready (sameCore_working hturn)).core0Step hp
      rw [BootReady, pair_put_core0 hboot.coreId]
      exact hboot
  | useStack stack =>
      simp only [Machine.move, Option.ite_none_right_eq_some, Option.some.injEq] at hmove
      obtain ⟨-, rfl⟩ := hmove
      exact Pair.BootCore.sameCore hready (sameCore_useStack m 0 stack)

end Machine

end AngryUefi
