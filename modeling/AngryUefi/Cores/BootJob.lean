import AngryUefi.Cores.BootCore
import AngryUefi.Cores.Waiting

/-!
# A job on the boot core

A job that names core 0 is not handed to anybody: core 0 runs its functions in
the handler.  Nobody can turn it down, nobody is waited for, and the reply is
made of what the functions have left behind.
-/

namespace AngryUefi

open AngryUefi.Bytes AngryUefi.Transition

/-- What the functions of a job leave in core 0's context. -/
structure BootResults where
  resultBuffer : Memory
  retGpfValue : UInt64
  retRdtscValue : UInt64

namespace BootResults

/-- The context still has them. -/
structure In (results : BootResults) (context : CoreContext) : Prop where
  resultBuffer : context.resultBuffer = results.resultBuffer
  retGpfValue : context.retGpfValue = results.retGpfValue
  retRdtscValue : context.retRdtscValue = results.retRdtscValue

/-- The reply that is made of them. -/
def reply (results : BootResults) (length : UInt64) : HandlerResult :=
  .testResult false false results.retRdtscValue results.retGpfValue length
    (results.resultBuffer.read 0 length.toNat) length

end BootResults

/-- The functions of a job return. -/
def Core0Choice.ran : Core0Choice → Option BootResults
  | ranOnBootCore resultBuffer retGpfValue retRdtscValue _ =>
      some ⟨resultBuffer, retGpfValue, retRdtscValue⟩
  | _ => none

namespace Core0Pc

/-- The reply is being built. -/
def Building (context : CoreContext) (results : BootResults) : Core0Pc → Prop
  | bootSetReady | unlockStore .bootCoreFinished | unlockCompareExchange .bootCoreFinished =>
      results.In context
  | sendRdtsc timedOut fault => results.In context ∧ timedOut = false ∧ fault = false
  | sendGpf timedOut fault rdtsc =>
      results.In context ∧ timedOut = false ∧ fault = false ∧ rdtsc = results.retRdtscValue
  | sendLength timedOut fault rdtsc gpf =>
      results.In context ∧ timedOut = false ∧ fault = false ∧ rdtsc = results.retRdtscValue ∧
        gpf = results.retGpfValue
  | sendBuffer timedOut fault rdtsc gpf length =>
      results.In context ∧ timedOut = false ∧ fault = false ∧ rdtsc = results.retRdtscValue ∧
        gpf = results.retGpfValue ∧ length = context.resultBufferLen
  | sendSize timedOut fault rdtsc gpf length copied =>
      timedOut = false ∧ fault = false ∧ rdtsc = results.retRdtscValue ∧
        gpf = results.retGpfValue ∧ length = context.resultBufferLen ∧
        copied = results.resultBuffer.read 0 context.resultBufferLen.toNat
  | returned result => result = results.reply context.resultBufferLen
  | _ => False

/-- The job's functions have not been called yet. -/
def preparing : Core0Pc → Bool
  | jobPresent | jobStarted | jobTryLock | jobReady | jobQueued | write _ | bootClearReady
  | bootClearQueued | bootCallFunctions => true
  | _ => false

/-- Core 0 serves a job of its own whose functions have run so often. -/
def ServesBoot (context : CoreContext) (ran : List BootResults) (pc : Core0Pc) : Prop :=
  pc.preparing = true ∧ ran = [] ∨ ∃ results, ran = [results] ∧ pc.Building context results

/-- An upper bound on the steps until the handler returns. -/
def bootStepsLeft : Core0Pc → ℕ
  | jobPresent => 31
  | jobStarted => 30
  | jobTryLock => 29
  | jobReady => 28
  | jobQueued => 27
  | write rest => rest.length + 12
  | bootClearReady => 11
  | bootClearQueued => 10
  | bootCallFunctions => 9
  | bootSetReady => 8
  | unlockStore _ => 7
  | unlockCompareExchange _ => 6
  | sendRdtsc _ _ => 5
  | sendGpf _ _ _ => 4
  | sendLength _ _ _ _ => 3
  | sendBuffer _ _ _ _ _ => 2
  | sendSize _ _ _ _ _ _ => 1
  | _ => 0

end Core0Pc

namespace Pair

/-- What one step of core 0 does for its own job. -/
structure BootStep (ran : List BootResults) (s t : Pair) : Prop where
  serves : t.core0.pc.ServesBoot t.context ran
  nearer : t.core0.pc.bootStepsLeft < s.core0.pc.bootStepsLeft

theorem bootStep_of_pc {ran : List BootResults} {s t : Pair} {before : Core0Pc}
    (after : Core0Pc) (hpc : s.core0.pc = before) (hafter : t.core0.pc = after)
    (hserves : after.ServesBoot t.context ran)
    (hless : after.bootStepsLeft < before.bootStepsLeft) : BootStep ran s t :=
  ⟨hafter.symm ▸ hserves, by rw [hpc, hafter]; exact hless⟩

/-- Before the functions are called. -/
theorem bootStep_preparing {choice : Core0Choice} {s t : Pair} (hboot : s.BootCore)
    (hpreparing : s.core0.pc.preparing = true) (hstep : s.core0Step .twoStep choice = some t) :
    BootStep choice.ran.toList s t := by
  have hlock := hboot.lock
  have hready := hboot.ready
  have hjobQueued := hboot.jobQueued
  unfold Pair.core0Step at hstep
  cases hpc : s.core0.pc
  all_goals rw [hpc] at hstep hpreparing hlock hready hjobQueued
  all_goals cases choice
  all_goals simp only [reduceCtorEq, Option.some.injEq, Core0Pc.preparing, Bool.false_eq_true]
    at hstep hpreparing
  all_goals subst hstep
  case jobPresent.next =>
    rw [if_neg (not_not.mpr hboot.present)]
    exact bootStep_of_pc .jobStarted hpc rfl (.inl ⟨rfl, rfl⟩) (by decide)
  case jobStarted.next =>
    rw [if_neg (not_not.mpr hboot.started)]
    exact bootStep_of_pc .jobTryLock hpc rfl (.inl ⟨rfl, rfl⟩) (by decide)
  case jobTryLock.next =>
    -- nobody else takes this lock
    have hfree : s.context.lock = 0 := hlock
    simp only [compareExchange, hfree, if_true]
    exact bootStep_of_pc .jobReady hpc rfl (.inl ⟨rfl, rfl⟩) (by decide)
  case jobReady.next =>
    have hset : s.context.ready = 1 := hready
    rw [if_neg (not_not.mpr hset)]
    exact bootStep_of_pc .jobQueued hpc rfl (.inl ⟨rfl, rfl⟩) (by decide)
  case jobQueued.next =>
    have hclear : s.context.jobQueued = 0 := hjobQueued
    have hwrites := s.core0.job.length_writes_le
    rw [if_neg (by rw [hclear]; decide)]
    refine bootStep_of_pc (.write _) hpc rfl (.inl ⟨rfl, rfl⟩) ?_
    simp only [Core0Pc.bootStepsLeft]
    omega
  case write.next rest =>
    cases rest with
    | nil =>
        simp only [fillContext, hboot.coreId, if_true]
        exact bootStep_of_pc .bootClearReady hpc rfl (.inl ⟨rfl, rfl⟩) (by decide)
    | cons write rest =>
        exact bootStep_of_pc (.write rest) hpc rfl (.inl ⟨rfl, rfl⟩)
          (by simp [Core0Pc.bootStepsLeft])
  case bootClearReady.next =>
    exact bootStep_of_pc .bootClearQueued hpc rfl (.inl ⟨rfl, rfl⟩) (by decide)
  case bootClearQueued.next =>
    exact bootStep_of_pc .bootCallFunctions hpc rfl (.inl ⟨rfl, rfl⟩) (by decide)
  case bootCallFunctions.ranOnBootCore resultBuffer retGpfValue retRdtscValue =>
    refine bootStep_of_pc .bootSetReady hpc rfl (.inr ⟨_, rfl, ?_⟩) (by decide)
    exact ⟨rfl, rfl, rfl⟩

/-- Once they have returned. -/
theorem bootStep_building {choice : Core0Choice} {s t : Pair} {results : BootResults}
    (hboot : s.BootCore) (hlive : s.core0.pc.live = true)
    (hbuilding : s.core0.pc.Building s.context results)
    (hstep : s.core0Step .twoStep choice = some t) :
    choice.ran = none ∧ BootStep [results] s t := by
  unfold Pair.core0Step at hstep
  cases hpc : s.core0.pc
  all_goals rw [hpc] at hstep hlive hbuilding
  case returned => cases hlive
  case unlockStore next =>
    cases next
    case bootCoreFinished =>
      cases choice
      all_goals simp only [reduceCtorEq, Option.some.injEq] at hstep
      subst hstep
      exact ⟨rfl, bootStep_of_pc (.unlockCompareExchange .bootCoreFinished) hpc rfl
        (.inr ⟨results, rfl, hbuilding.1, hbuilding.2, hbuilding.3⟩) (by decide)⟩
    all_goals cases hbuilding
  case unlockCompareExchange next =>
    cases next
    case bootCoreFinished =>
      cases choice
      all_goals simp only [reduceCtorEq, Option.some.injEq] at hstep
      subst hstep
      have hlock : s.context.lock = 0 := by
        rw [hboot.lock, hpc]
        rfl
      have hkept : (compareExchange s.context 1 0).2 = s.context := by
        simp only [compareExchange, hlock]
        rw [if_neg (by decide)]
      refine ⟨rfl, bootStep_of_pc (.sendRdtsc false false) hpc rfl (.inr ⟨results, rfl, ?_⟩) ?_⟩
      · exact ⟨hkept.symm ▸ hbuilding, rfl, rfl⟩
      · simp [Core0Pc.bootStepsLeft]
    all_goals cases hbuilding
  all_goals cases choice
  all_goals simp only [reduceCtorEq, Option.some.injEq] at hstep
  case bootSetReady.next =>
    subst hstep
    exact ⟨rfl, bootStep_of_pc (.unlockStore .bootCoreFinished) hpc rfl
      (.inr ⟨results, rfl, hbuilding.1, hbuilding.2, hbuilding.3⟩) (by decide)⟩
  case sendRdtsc.next timedOut fault =>
    obtain ⟨hin, rfl, rfl⟩ := hbuilding
    subst hstep
    exact ⟨rfl, bootStep_of_pc (.sendGpf _ _ _) hpc rfl
      (.inr ⟨results, rfl, hin, rfl, rfl, hin.retRdtscValue⟩) (Nat.lt_succ_self _)⟩
  case sendGpf.next timedOut fault rdtsc =>
    obtain ⟨hin, rfl, rfl, rfl⟩ := hbuilding
    subst hstep
    exact ⟨rfl, bootStep_of_pc (.sendLength _ _ _ _) hpc rfl
      (.inr ⟨results, rfl, hin, rfl, rfl, rfl, hin.retGpfValue⟩) (Nat.lt_succ_self _)⟩
  case sendLength.next timedOut fault rdtsc gpf =>
    obtain ⟨hin, rfl, rfl, rfl, rfl⟩ := hbuilding
    subst hstep
    exact ⟨rfl, bootStep_of_pc (.sendBuffer _ _ _ _ _) hpc rfl
      (.inr ⟨results, rfl, hin, rfl, rfl, rfl, rfl, rfl⟩) (Nat.lt_succ_self _)⟩
  case sendBuffer.next timedOut fault rdtsc gpf length =>
    obtain ⟨hin, rfl, rfl, rfl, rfl, rfl⟩ := hbuilding
    subst hstep
    refine ⟨rfl, bootStep_of_pc (.sendSize _ _ _ _ _ _) hpc rfl
      (.inr ⟨results, rfl, rfl, rfl, rfl, rfl, rfl, ?_⟩) (Nat.lt_succ_self _)⟩
    rw [hin.resultBuffer]
    rfl
  case sendSize.next timedOut fault rdtsc gpf length copied =>
    obtain ⟨rfl, rfl, rfl, rfl, rfl, rfl⟩ := hbuilding
    subst hstep
    exact ⟨rfl, bootStep_of_pc (.returned _) hpc rfl (.inr ⟨results, rfl, rfl⟩)
      (Nat.lt_succ_self _)⟩
  all_goals cases hbuilding

theorem bootStep_of_serves {choice : Core0Choice} {s t : Pair} {ran : List BootResults}
    (hboot : s.BootCore) (hlive : s.core0.pc.live = true)
    (hserves : s.core0.pc.ServesBoot s.context ran)
    (hstep : s.core0Step .twoStep choice = some t) :
    BootStep (choice.ran.toList ++ ran) s t := by
  rcases hserves with ⟨hpreparing, rfl⟩ | ⟨results, rfl, hbuilding⟩
  · rw [List.append_nil]
    exact bootStep_preparing hboot hpreparing hstep
  · obtain ⟨hnone, hbootStep⟩ := bootStep_building hboot hlive hbuilding hstep
    rw [hnone]
    exact hbootStep

/-- Core 0 is never stuck with a job of its own. -/
theorem exists_bootStep {s : Pair} {ran : List BootResults} (hlive : s.core0.pc.live = true)
    (hserves : s.core0.pc.ServesBoot s.context ran) :
    ∃ choice t, s.core0Step .twoStep choice = some t := by
  unfold core0Step
  rcases hserves with ⟨hpreparing, -⟩ | ⟨results, -, hbuilding⟩
  · cases hpc : s.core0.pc
    all_goals rw [hpc] at hpreparing
    all_goals simp only [Core0Pc.preparing, Bool.false_eq_true] at hpreparing
    case bootCallFunctions => exact ⟨.ranOnBootCore s.context.resultBuffer 0 0 [], _, rfl⟩
    all_goals exact ⟨.next, _, rfl⟩
  · cases hpc : s.core0.pc
    all_goals rw [hpc] at hlive hbuilding
    case returned => cases hlive
    case bootCallFunctions => cases hbuilding
    case startCr3 => cases hbuilding
    case startOnCore => cases hbuilding
    case sendMsrLow => cases hbuilding
    case sendMsrHigh => cases hbuilding
    all_goals exact ⟨.next, _, rfl⟩

end Pair

namespace Machine

/-- The functions of core 0's job return. -/
def Move.ran : Move → Option BootResults
  | boot choice => choice.ran
  | _ => none

def Move.byBootCore : Move → Bool
  | boot _ => true
  | _ => false

/-- A job for core 0 has just reached its handler.  READMSRONCORE is none of
them: for core 0 its handler reads the MSR itself. -/
def BootRequested (job : Job) (m : Machine) : Prop :=
  ∃ before : Machine, before.BootReady ∧ before.core0.pc.live = false ∧
    Machine.move (.boot (.request (.job job))) before = some m

/-- The handler still runs. -/
def Busy (m : Machine) (_ : Move) : Prop := m.core0.pc.live = true

instance (m : Machine) : DecidablePred m.Busy :=
  fun _ => inferInstanceAs (Decidable (m.core0.pc.live = true))

/-- Core 0 serves a job of its own. -/
structure BootServing (ran : List BootResults) (m : Machine) : Prop where
  target : m.target = 0
  ready : m.BootReady
  serves : m.core0.pc.ServesBoot (m.contexts 0) ran

theorem BootServing.bootCore {ran : List BootResults} {m : Machine}
    (hserving : m.BootServing ran) : (m.working 0).BootCore := by
  have hready := hserving.ready
  rwa [BootReady, pair, if_pos hserving.target.symm] at hready

theorem BootRequested.serving {job : Job} {m : Machine} (hrequested : m.BootRequested job) :
    m.BootServing [] ∧ m.core0.pc.bootStepsLeft ≤ 31 := by
  obtain ⟨before, hready, hlive, hmove⟩ := hrequested
  have hafter := hready.move hmove
  obtain ⟨result, hpc⟩ := Core0Pc.returned_of_not_live hlive
  simp only [Machine.move, Option.ite_none_right_eq_some, Option.map_eq_some_iff] at hmove
  obtain ⟨-, p, hp, rfl⟩ := hmove
  have hbegun : p = (before.working 0).beginRequest (.job job) := by
    simpa only [Pair.core0Step, working, hpc, Option.some.injEq, eq_comm] using hp
  subst hbegun
  exact ⟨⟨rfl, hafter, .inl ⟨rfl, rfl⟩⟩, le_rfl⟩

/-- A move while core 0 serves a job of its own is core 0's, or does not concern
it. -/
theorem BootServing.move {ran : List BootResults} {move : Move} {m n : Machine}
    (hserving : m.BootServing ran) (hlive : m.Busy move)
    (hmove : Machine.move move m = some n) :
    n.BootServing (move.ran.toList ++ ran) ∧
      n.core0.pc.bootStepsLeft + (if move.byBootCore then 1 else 0) ≤
        m.core0.pc.bootStepsLeft := by
  have hready := hserving.ready.move hmove
  cases move with
  | boot choice =>
      simp only [Machine.move, Option.ite_none_right_eq_some, Option.map_eq_some_iff] at hmove
      obtain ⟨-, p, hp, rfl⟩ := hmove
      obtain ⟨hserves, hnearer⟩ :=
        Pair.bootStep_of_serves hserving.bootCore hlive hserving.serves hp
      refine ⟨⟨rfl, hready, ?_⟩, hnearer⟩
      simpa only [put, Function.update_self, Move.ran] using hserves
  | useStack stack =>
      simp only [Machine.move, Option.ite_none_right_eq_some] at hmove
      rw [Busy, hmove.1] at hlive
      cases hlive
  | step label =>
      cases label with
      | core0 coreId choice =>
          simp only [Machine.move, Machine.step, Option.ite_none_right_eq_some] at hmove
          rcases hmove.1.2 with hturn | hturn
          · exact absurd (hturn.trans hserving.target) hmove.1.1
          · rw [Busy, hturn] at hlive
            cases hlive
      | ap coreId choice =>
          obtain ⟨hcore0, htarget⟩ := core0_of_apStep hmove
          simp only [Machine.move, Machine.step, Option.ite_none_right_eq_some,
            Option.map_eq_some_iff] at hmove
          obtain ⟨hcoreId, p, -, rfl⟩ := hmove
          refine ⟨⟨htarget.trans hserving.target, hready, ?_⟩, le_rfl⟩
          have hcontext : (m.put coreId m.core0 p).contexts 0 = m.contexts 0 :=
            Function.update_of_ne hcoreId.symm _ _
          rw [hcontext]
          exact hserving.serves

/-- Whatever the other cores do meanwhile, a job for core 0 is never turned down:
within 31 steps of core 0 its functions are called once and the reply is made of
what they have left behind. -/
theorem bootJob_served {job : Job} {past : List (Machine × Move)} {m : Machine}
    (hrun : Run (BootRequested job) Machine.move past m) (hbusy : EachStep Busy past) :
    turns Move.byBootCore past ≤ 31 ∧
      (m.core0.pc.live = true → ∃ choice n, Machine.move (.boot choice) m = some n) ∧
      ∀ result, m.core0.pc = .returned result →
        ∃ results, past.filterMap (fun entry => entry.2.ran) = [results] ∧
          result = results.reply (m.contexts 0).resultBufferLen := by
  have hserving : m.BootServing (past.filterMap fun entry => entry.2.ran) :=
    hrun.observed (fun _ hrequested => hrequested.serving.1)
      (fun _ _ _ _ hserving hlive hmove => (hserving.move hlive hmove).1) hbusy
  refine ⟨?_, fun hlive => ?_, fun result hpc => ?_⟩
  · have hinitial : ∀ m : Machine, m.BootRequested job →
        (∃ ran, m.BootServing ran) ∧ m.core0.pc.bootStepsLeft ≤ 31 :=
      fun m hrequested => ⟨⟨[], hrequested.serving.1⟩, hrequested.serving.2⟩
    have hcount : turns Move.byBootCore past + m.core0.pc.bootStepsLeft ≤ 31 := by
      refine (hrun.turns_add_le hinitial ?_ hbusy).2
      rintro m move n ⟨ran, hserving⟩ hlive hmove
      obtain ⟨hafter, hless⟩ := hserving.move hlive hmove
      exact ⟨⟨_, hafter⟩, hless⟩
    omega
  · obtain ⟨choice, p, hp⟩ := Pair.exists_bootStep (s := m.working 0) hlive hserving.serves
    refine ⟨choice, { m with target := 0 }.put 0 p.core0 p, ?_⟩
    simp only [Machine.move, hserving.target, true_or, if_true]
    exact congrArg (Option.map _) hp
  · rcases hserving.serves with ⟨hpreparing, -⟩ | ⟨results, hran, hbuilding⟩
    · rw [hpc] at hpreparing
      cases hpreparing
    · rw [hpc] at hbuilding
      exact ⟨results, hran, hbuilding⟩

/-- EXECUTEMACHINECODE on core 0 without a timeout, up to its reply. -/
def executeOnBootCore : List Move :=
  List.replicate 20 (.boot .next) ++ [.boot (.ranOnBootCore (fun _ => 0x5A) 0 0x1234 [])] ++
    List.replicate 8 (.boot .next)

theorem bootJob_served_executeOnBootCore :
    ∃ begun past m,
      Machine.move (.boot (.request (.job (.executeMachineCode 0x1000 0)))) withBootCore =
          some begun ∧
        exec Machine.move executeOnBootCore begun = some m ∧
        Run (BootRequested (.executeMachineCode 0x1000 0)) Machine.move past m ∧
        m.core0.pc.live = false ∧ turns Move.byBootCore past ≤ 31 ∧
        ∀ result, m.core0.pc = .returned result →
          ∃ results, past.filterMap (fun entry => entry.2.ran) = [results] ∧
            result = results.reply (m.contexts 0).resultBufferLen := by
  obtain ⟨begun, m, hrequest, hexec, hbusy, hreturned⟩ :
      ∃ begun m, Machine.move (.boot (.request (.job (.executeMachineCode 0x1000 0))))
            withBootCore = some begun ∧
          exec Machine.move executeOnBootCore begun = some m ∧
          exec (guarded Busy Machine.move) executeOnBootCore begun = some m ∧
          m.core0.pc.live = false := ⟨_, _, rfl, rfl, rfl, rfl⟩
  have hbegun : BootRequested (.executeMachineCode 0x1000 0) begun :=
    ⟨withBootCore, bootReady_withBootCore, rfl, hrequest⟩
  obtain ⟨past, hguarded⟩ := run_of_exec hbegun _ hbusy
  obtain ⟨hrun, hbusy⟩ := hguarded.of_guarded
  have hserved := bootJob_served hrun hbusy
  exact ⟨begun, past, m, hrequest, hexec, hrun, hreturned, hserved.1, hserved.2.2⟩

end Machine

end AngryUefi
