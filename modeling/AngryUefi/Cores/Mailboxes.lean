import AngryUefi.Cores.BootCore
import AngryUefi.Cores.Mailbox

/-!
# The mailboxes of all processors

Every processor has a context of its own, but core 0 has one stack, and the
array that READMSRONCORE is answered from lies there.  While no job outlives its
argument, only the processor that core 0 waits for writes to it; then every
context of the whole machine is a mailbox, whatever happens on the others.
-/

namespace AngryUefi

open AngryUefi.Mailbox AngryUefi.Transition

/-! ## Who writes to core 0's stack -/

/-- The accesses of `read_msr`. -/
def BodyPc.ofReadMsr : BodyPc → Bool
  | loadMsr | rdmsr _ | storeLow _ | storeHigh _ => true
  | _ => false

/-- A processor is in `read_msr` only where it was called. -/
def ApPc.CalledReadMsr : ApPc → Prop
  | body frame pc | handlerStore frame pc _ _ | handlerOccured frame pc _
  | handlerNumber frame pc _ => pc.ofReadMsr = true → frame.func = .readMsr
  | _ => True

theorem BodyPc.ofReadMsr_entry {func : CoreFunction}
    (hbody : (BodyPc.entry func).ofReadMsr = true) : func = .readMsr := by
  cases func <;> first | rfl | cases hbody

theorem BodyPc.ofReadMsr_resume {pc : BodyPc} (hbody : pc.resume.ofReadMsr = true) :
    pc.ofReadMsr = true := by
  cases pc <;> first | rfl | cases hbody

/-- A job that calls `read_msr` passes an array. -/
theorem Job.argument_of_readMsr {job : Job} {slot : ℕ} {arg : Argument}
    (hcalls : job.calls slot = ⟨some .readMsr, arg⟩) : ∃ buffer, arg = some buffer := by
  cases job with
  | executeMachineCode machineCode timeout => cases slot <;> cases hcalls
  | applyUcodeExecuteTest ucode ucodeLength machineCode timeout options =>
      rcases slot with _ | _ | slot
      · cases hcalls
      · have hfunc := congrArg CoreFunctionCall.func hcalls
        simp only [calls] at hfunc
        split at hfunc <;> cases hfunc
      · cases hcalls
  | readMsrOnCore targetMsr buffer =>
      cases slot with
      | zero =>
          cases hcalls
          exact ⟨buffer, rfl⟩
      | succ slot => cases hcalls

namespace Pair

theorem calledReadMsr_bodyStep {frame : CallFrame} {pc : BodyPc} {choice : ApChoice} {s t : Pair}
    (hcalled : pc.ofReadMsr = true → frame.func = .readMsr)
    (hstep : s.bodyStep frame pc choice = some t) : t.ap.pc.CalledReadMsr := by
  cases pc
  all_goals cases choice
  all_goals simp only [bodyStep, reduceCtorEq, Option.some.injEq] at hstep
  all_goals subst hstep
  case prefetchLen.next i => exact fun hbody => by split at hbody <;> cases hbody
  case prefetchByte.next i j => exact fun hbody => by split at hbody <;> cases hbody
  case storeRdtsc.next restore gpf rdtsc => exact fun hbody => by split at hbody <;> cases hbody
  case machineCode.ret restore code => exact fun hbody => by split at hbody <;> cases hbody
  case storeHigh.next value => exact fun hbody => by cases hbody
  case ret.next => trivial
  all_goals exact hcalled

theorem calledReadMsr_apStep {mode : UnlockMode} {choice : ApChoice} {s t : Pair}
    (hcalled : s.ap.pc.CalledReadMsr) (hstep : s.apStep mode choice = some t) :
    t.ap.pc.CalledReadMsr := by
  unfold apStep at hstep
  cases hpc : s.ap.pc
  all_goals rw [hpc] at hstep hcalled
  case body frame pc => exact calledReadMsr_bodyStep hcalled hstep
  all_goals cases choice
  all_goals simp only [reduceCtorEq, Option.some.injEq] at hstep
  all_goals subst hstep
  case callArg.next slot func => exact BodyPc.ofReadMsr_entry
  case handlerStore.next => exact hcalled
  case handlerOccured.next => exact hcalled
  case handlerNumber.next frame pc vector =>
    simp only [setApPc_ap_pc, afterHandler]
    split_ifs
    · exact fun hbody => hcalled (BodyPc.ofReadMsr_resume hbody)
    · exact fun hbody => by cases hbody
    · trivial
  case jobReadFault.next => split <;> trivial
  case call.next slot =>
    split
    · split <;> trivial
    · trivial
  case spinLock.next => simp only [setApPc_ap_pc]; split <;> trivial
  case spinQueued.next => simp only [setApPc_ap_pc]; split <;> trivial
  case jobTryLock.next => simp only [setApPc_ap_pc]; split <;> trivial
  case jobRecheck.next => simp only [setApPc_ap_pc]; split <;> trivial
  case unlockStore.next => cases mode <;> trivial
  all_goals trivial

theorem calledReadMsr_step {mode : UnlockMode} {label : Label} {s t : Pair}
    (hs : s.OfProcessor) (hcalled : s.ap.pc.CalledReadMsr)
    (hstep : Pair.step mode label s = some t) : t.ap.pc.CalledReadMsr := by
  cases label with
  | core0 choice =>
      cases core0Effect hs.coreId hs.phase hstep with
      | request request => cases request <;> exact hcalled
      | handOver => trivial
      | _ => exact hcalled
  | ap choice => exact calledReadMsr_apStep hcalled hstep

theorem stack_apStep {mode : UnlockMode} {choice : ApChoice} {s t : Pair}
    (hstep : s.apStep mode choice = some t) :
    t.stack = s.stack ∨ ∃ frame pc, s.ap.pc = .body frame pc ∧ pc.ofReadMsr = true := by
  unfold apStep at hstep
  cases hpc : s.ap.pc
  all_goals rw [hpc] at hstep
  case body frame pc =>
    cases pc
    all_goals cases choice
    all_goals simp only [bodyStep, reduceCtorEq, Option.some.injEq] at hstep
    all_goals subst hstep
    case storeLow.next => exact .inr ⟨_, _, rfl, rfl⟩
    case storeHigh.next => exact .inr ⟨_, _, rfl, rfl⟩
    all_goals exact .inl rfl
  all_goals cases choice
  all_goals simp only [reduceCtorEq, Option.some.injEq] at hstep
  all_goals subst hstep
  case jobReadFault.next => split <;> exact .inl rfl
  case call.next slot =>
    split
    · split <;> exact .inl rfl
    · exact .inl rfl
  all_goals exact .inl rfl

/-- A processor that core 0 does not wait for leaves core 0's stack alone. -/
theorem stack_of_notWaiting {mode : UnlockMode} {choice : ApChoice} {s t : Pair}
    (hinv : s.JobInvariant) (hbuffer : s.BufferInvariant) (hcalled : s.ap.pc.CalledReadMsr)
    (hphase : s.core0.pc.phase ≠ .waiting) (hstep : s.apStep mode choice = some t) :
    t.stack = s.stack := by
  rcases stack_apStep hstep with hsame | ⟨frame, pc, hpc, hbody⟩
  · exact hsame
  · rw [hpc] at hcalled
    have hfunc : frame.func = .readMsr := hcalled hbody
    obtain ⟨job, -, hwritten, hloaded⟩ := hinv.unmixedJobs.inputs (by rw [hpc]; rfl)
    rw [hpc] at hloaded
    obtain ⟨⟨hslot, hcall⟩, -⟩ := hloaded
    rw [hwritten.coreFunctions _ hslot, hfunc] at hcall
    obtain ⟨buffer, hargument⟩ := Job.argument_of_readMsr hcall
    have hargument : s.ap.pc.argument = some buffer := by
      rw [hpc]
      exact hargument
    exact absurd (hbuffer.argument hinv hargument).1 hphase

/-! ## One context of many -/

theorem OfProcessor.sameCore {s t : Pair} (hs : s.OfProcessor) (hsame : s.SameCore t) :
    t.OfProcessor :=
  ⟨hsame.coreId ▸ hs.coreId, hsame.pc.2 ▸ hs.phase⟩

theorem ResultsInvariant.sameCore {s t : Pair} (hresults : s.ResultsInvariant)
    (hsame : s.SameCore t) (hstack : s.core0.pc.live = true → t.stack = s.stack) :
    t.ResultsInvariant := by
  rcases hsame.core0 with hcore0 | ⟨hbefore, hafter⟩
  · have hlive : s.core0.pc.phase = .waiting ∨ s.core0.pc.phase = .finished →
        t.results = s.results := by
      intro hphase
      have hlive : s.core0.pc.live = true := by
        cases hpc : s.core0.pc with
        | returned result => simp [hpc, Core0Pc.phase] at hphase
        | _ => rfl
      simp only [results, hsame.context, hstack hlive]
    refine ⟨fun hphase hcount => ?_, fun hphase => ?_, ?_⟩
    · rw [hcore0] at hphase
      rw [hsame.history] at hcount ⊢
      rw [hlive hphase]
      exact hresults.kept hphase hcount
    · rw [hcore0] at hphase ⊢
      rw [hlive (.inr hphase)]
      exact hresults.sent hphase
    · rw [hsame.history]
      exact hresults.replies
  · obtain ⟨after, hafter⟩ := Core0Pc.returned_of_not_live hafter
    refine ⟨?_, ?_, ?_⟩
    · rw [hafter]
      rintro (hphase | hphase) <;> cases hphase
    · rw [hafter]
      intro hphase
      cases hphase
    · rw [hsame.history]
      exact hresults.replies

theorem Holds.sameCore {s t : Pair} {content : Content Job Results} (hholds : s.Holds content)
    (hsame : s.SameCore t) : t.Holds content := by
  obtain ⟨-, hphase⟩ := hsame.pc
  cases content
  all_goals simp only [Holds, hsame.history, hphase]
  all_goals exact hholds

theorem event_sameCore {s t u : Pair} (hsame : s.SameCore t) : event s u = event t u := by
  simp only [event, hsame.history, hsame.context]

end Pair

namespace Machine

@[simp]
theorem pair_stack (m : Machine) (coreId : ℕ) : (m.pair coreId).stack = m.stack := by
  simp only [pair]
  split <;> rfl

/-- What a move is for one context: a step of its own two parties, or nothing
but that core 0 turns to another context and that its stack changes. -/
inductive Seen (coreId : ℕ) (m n : Machine) : Move → Prop
  | own {s : Pair} (label : Pair.Label) (hsame : (m.pair coreId).SameCore s)
      (hstack : s.stack = (m.pair coreId).stack)
      (hclean : m.SafeMove (.step (Label.onCore coreId label)) → s.CleanUnlock label)
      (hstep : Pair.step .twoStep label s = some (n.pair coreId)) :
      Seen coreId m n (.step (Label.onCore coreId label))
  | other {move : Move} (hsame : (m.pair coreId).SameCore (n.pair coreId))
      (hmove : ∀ label, move ≠ .step (Label.onCore coreId label))
      (hstack : (m.pair coreId).core0.pc.live = true → ∃ worked ≠ 0, worked ≠ coreId ∧
        ∃ choice p, (m.pair worked).apStep .twoStep choice = some p ∧ n.stack = p.stack) :
      Seen coreId m n move

/-- Core 0 works on one context at a time. -/
theorem live_pair_of_ne {m : Machine} {coreId other : ℕ} (hother : other ≠ coreId)
    (hturn : coreId = m.target ∨ m.core0.pc.live = false) :
    (m.pair other).core0.pc.live = false := by
  rw [pair_core0]
  split
  · rename_i htarget
    exact hturn.resolve_left fun hsame => hother (htarget.trans hsame.symm)
  · rfl

theorem seen_core0Step {m : Machine} {coreId other : ℕ} {move : Move} {p : Pair}
    (hother : other ≠ coreId) (hmove : ∀ label, move ≠ .step (Label.onCore other label))
    (hturn : coreId = m.target ∨ m.core0.pc.live = false) :
    Seen other m ({ m with target := coreId }.put coreId p.core0 p) move := by
  refine .other (sameCore_put hother (.inr ⟨rfl, hturn⟩)) hmove fun hlive => ?_
  rw [live_pair_of_ne hother hturn] at hlive
  cases hlive

theorem seen_of_move {coreId : ℕ} {move : Move} {m n : Machine}
    (hs : (m.pair coreId).OfProcessor) (hmove : Machine.move move m = some n) :
    Seen coreId m n move := by
  have hcoreId : coreId ≠ 0 := by simpa only [pair_coreId] using hs.coreId
  cases move with
  | step label =>
      cases label with
      | core0 worked choice =>
          simp only [Machine.move, Machine.step, Option.ite_none_right_eq_some,
            Option.map_eq_some_iff] at hmove
          obtain ⟨⟨-, hturn⟩, p, hp, rfl⟩ := hmove
          by_cases heq : coreId = worked
          · subst heq
            have hsame := sameCore_working hturn
            have hid : p.coreId = coreId := Pair.coreId_of_core0Step (hs.sameCore hsame) hp
            refine .own (.core0 choice) hsame (pair_stack m coreId).symm And.left ?_
            rw [pair_put_core0 hid]
            exact hp
          · refine seen_core0Step heq ?_ hturn
            rintro (choice | choice) ⟨⟩
            exact heq rfl
      | ap worked choice =>
          simp only [Machine.move, Machine.step, Option.ite_none_right_eq_some,
            Option.map_eq_some_iff] at hmove
          obtain ⟨hworked, p, hp, rfl⟩ := hmove
          by_cases heq : coreId = worked
          · subst heq
            have hid : p.coreId = coreId := by
              rw [Pair.coreId_of_apStep hp, pair_coreId]
            refine .own (.ap choice) ⟨rfl, rfl, rfl, rfl, .inl rfl⟩ rfl id ?_
            rw [pair_put_ap hid (Pair.apEffect hp).frame.core0]
            exact hp
          · refine .other (sameCore_put heq (.inl ⟨rfl, rfl⟩)) ?_ fun _ =>
              ⟨worked, hworked, Ne.symm heq, choice, p, hp, rfl⟩
            rintro (choice | choice) ⟨⟩
            exact heq rfl
  | boot choice =>
      simp only [Machine.move, Option.ite_none_right_eq_some, Option.map_eq_some_iff] at hmove
      obtain ⟨hturn, p, -, rfl⟩ := hmove
      exact seen_core0Step hcoreId (by rintro _ ⟨⟩) hturn
  | useStack stack =>
      simp only [Machine.move, Option.ite_none_right_eq_some, Option.some.injEq] at hmove
      obtain ⟨hidle, rfl⟩ := hmove
      refine .other (sameCore_useStack m coreId stack) (by rintro _ ⟨⟩) fun hlive => ?_
      rw [pair_core0] at hlive
      split at hlive
      · rw [hidle] at hlive
        cases hlive
      · cases hlive

/-- What holds of the machine while no job outlives its argument. -/
structure Sound (m : Machine) : Prop where
  invariant : m.Invariant
  called : ∀ coreId ≠ 0, (m.pair coreId).ap.pc.CalledReadMsr
  results : ∀ coreId ≠ 0, (m.pair coreId).ResultsInvariant

theorem Sound.seen {coreId : ℕ} {move : Move} {m n : Machine} (hsound : m.Sound)
    (hcoreId : coreId ≠ 0) (hmove : Machine.move move m = some n) : Seen coreId m n move :=
  seen_of_move (hsound.invariant coreId hcoreId).1.lock.ofProcessor hmove

/-- While core 0 works on a context, no other processor writes to its stack. -/
theorem Sound.stack_apStep {coreId worked : ℕ} {m : Machine} {choice : ApChoice} {p : Pair}
    (hsound : m.Sound) (hlive : (m.pair coreId).core0.pc.live = true) (hworked : worked ≠ 0)
    (hother : worked ≠ coreId) (hstep : (m.pair worked).apStep .twoStep choice = some p) :
    p.stack = m.stack := by
  obtain ⟨hjobs, hbuffer⟩ := hsound.invariant worked hworked
  rw [← pair_stack m worked]
  refine Pair.stack_of_notWaiting hjobs hbuffer (hsound.called worked hworked) ?_ hstep
  intro hwaiting
  rw [pair_core0] at hlive hwaiting
  split at hwaiting
  · rename_i htarget
    rw [if_neg fun hsame => hother (htarget.trans hsame.symm)] at hlive
    cases hlive
  · cases hwaiting

theorem Sound.move {move : Move} {m n : Machine} (hsound : m.Sound) (hsafe : m.SafeMove move)
    (hmove : Machine.move move m = some n) : n.Sound := by
  refine ⟨hsound.invariant.move hsafe hmove, fun coreId hcoreId => ?_, fun coreId hcoreId => ?_⟩
  · have hcalled := hsound.called coreId hcoreId
    cases hsound.seen hcoreId hmove with
    | own label hsame hstack hclean hstep =>
        have hbefore := (hsound.invariant coreId hcoreId).1.sameCore hsame
        rw [← hsame.ap] at hcalled
        exact Pair.calledReadMsr_step hbefore.lock.ofProcessor hcalled hstep
    | other hsame => rwa [hsame.ap]
  · have hresults := hsound.results coreId hcoreId
    cases hsound.seen hcoreId hmove with
    | own label hsame hstack hclean hstep =>
        have hbefore := (hsound.invariant coreId hcoreId).1.sameCore hsame
        exact (hresults.sameCore hsame fun _ => hstack).step hbefore hstep
    | other hsame hmove hstack =>
        refine hresults.sameCore hsame fun hlive => ?_
        obtain ⟨worked, hworked, hother, choice, p, hstep, hstack⟩ := hstack hlive
        rw [pair_stack, pair_stack, hstack]
        exact hsound.stack_apStep hlive hworked hother hstep

/-- The machine's events at one context. -/
def jobEvents (coreId : ℕ) : List (Machine × Move) → Machine → List Pair.JobEvent :=
  events fun m n => Pair.event (m.pair coreId) (n.pair coreId)

theorem Booted.live {m : Machine} (hbooted : m.Booted) : m.core0.pc.live = false := by
  obtain ⟨result, hpc⟩ := (hbooted 1 one_ne_zero).core0
  change m.core0.pc = _ at hpc
  rw [hpc]
  rfl

theorem sameCore_of_not_live {m : Machine} (hlive : m.core0.pc.live = false) (coreId : ℕ) :
    (m.working coreId).SameCore (m.pair coreId) := by
  refine ⟨pair_coreId m coreId, pair_ap m coreId, pair_context m coreId, pair_history m coreId,
    .inr ⟨hlive, ?_⟩⟩
  rw [pair_core0]
  split
  · exact hlive
  · rfl

theorem Booted.sound {m : Machine} (hbooted : m.Booted) : m.Sound := by
  refine ⟨hbooted.invariant, fun coreId hcoreId => ?_, fun coreId hcoreId => ?_⟩
  · have hap : (m.aps coreId).pc = .off := (hbooted coreId hcoreId).ap
    rw [pair_ap, hap]
    trivial
  · exact (hbooted coreId hcoreId).resultsInvariant.sameCore
      (sameCore_of_not_live hbooted.live coreId) fun _ => pair_stack m coreId

theorem Sound.noFalseCompletion {m : Machine} (hsound : m.Sound) :
    ∀ coreId ≠ 0, (m.pair coreId).NoFalseCompletion := fun coreId hcoreId =>
  (hsound.invariant coreId hcoreId).1.noFalseCompletion (hsound.results coreId hcoreId)

theorem trace_of_safeMove {past : List (Machine × Move)} {m : Machine}
    (hrun : Run Booted Machine.move past m) (hsafe : EachStep SafeMove past) {coreId : ℕ}
    (hcoreId : coreId ≠ 0) :
    ∃ content, Trace (· = .empty) (Allows Job.WrittenIn Pair.Answers) (jobEvents coreId past m)
      content ∧ (m.pair coreId).Holds content := by
  have hfollows : ∀ m move n content, m.Sound → m.SafeMove move →
      Machine.move move m = some n → (m.pair coreId).Holds content →
        ∃ after, Follows (Allows Job.WrittenIn Pair.Answers) content
          ((m.pair coreId).event (n.pair coreId)) after ∧ (n.pair coreId).Holds after := by
    intro m move n content hsound hcondition hmove hholds
    cases hsound.seen hcoreId hmove with
    | own label hsame hstack hclean hstep =>
        have hinv := (hsound.invariant coreId hcoreId).1.sameCore hsame
        have hresults := (hsound.results coreId hcoreId).sameCore hsame fun _ => hstack
        rw [Pair.event_sameCore hsame]
        exact (hholds.sameCore hsame).step hinv hresults hstep
    | other hsame =>
        refine ⟨content, ?_, hholds.sameCore hsame⟩
        rw [Pair.event_of_same]
        · exact .stays
        all_goals rw [hsame.history]
  refine hrun.refines (fun _ hbooted => hbooted.sound)
    (fun _ _ _ hsound hcondition hmove => hsound.move hcondition hmove) (fun m hbooted => ?_)
    hfollows hsafe
  exact ⟨.empty, rfl, (hbooted coreId hcoreId).holds_empty.sameCore
    (sameCore_of_not_live hbooted.live coreId)⟩

/-- On every processor, whatever happens on the others meanwhile, the jobs are
taken with their own inputs, finished and collected one after the other, and a
reply tells of its own job. -/
theorem contexts_inTurn {past : List (Machine × Move)} {m : Machine}
    (hrun : Run Booted Machine.move past m) (hsafe : EachStep SafeMove past) :
    (∀ coreId ≠ 0, InTurn Job.WrittenIn Pair.Answers (jobEvents coreId past m)) ∧
      Always (fun m => ∀ coreId ≠ 0, (m.pair coreId).NoFalseCompletion) past m := by
  constructor
  · intro coreId hcoreId
    obtain ⟨content, htrace, -⟩ := trace_of_safeMove hrun hsafe hcoreId
    exact inTurn_of_trace htrace
  · exact (hrun.always (fun _ hbooted => hbooted.sound)
      (fun _ _ _ hsound hcondition hmove => hsound.move hcondition hmove) hsafe).mono
      fun _ hsound => hsound.noFalseCompletion

def Move.onCore (coreId : ℕ) (labels : List Pair.Label) : List Move :=
  labels.map fun label => .step (Label.onCore coreId label)

/-- EXECUTEMACHINECODE with a timeout; core 0 gives up before the processor
accepts the job. -/
def abandonJob : List Pair.Label :=
  Pair.startUp ++ [.ap .next] ++
    .core0 (.request (.job (.executeMachineCode 0x1000 1))) ::
      List.replicate 33 (.core0 .next) ++ Pair.reachMachineCode

/-- READMSRONCORE up to its reply. -/
def answerReadMsr : List Pair.Label :=
  submitReadMsr ++ callReadMsr ++ .ap .next :: .ap (.value 7) ::
    List.replicate 9 (.ap .next) ++ List.replicate 8 (.core0 .next)

theorem contexts_inTurn_answerReadMsr :
    ∃ past m, exec (guarded SafeMove Machine.move)
        (Move.onCore 2 abandonJob ++ Move.onCore 1 answerReadMsr) afterInit = some m ∧
      Run Booted Machine.move past m ∧ EachStep SafeMove past ∧
      (m.histories 1).replies.length = 1 ∧ (m.histories 2).accepted.length = 1 ∧
      (∀ coreId ≠ 0, InTurn Job.WrittenIn Pair.Answers (jobEvents coreId past m)) ∧
      Always (fun m => ∀ coreId ≠ 0, (m.pair coreId).NoFalseCompletion) past m := by
  have hseen : (exec (guarded SafeMove Machine.move)
      (Move.onCore 2 abandonJob ++ Move.onCore 1 answerReadMsr) afterInit).map (fun m =>
        ((m.histories 1).replies.length, (m.histories 2).accepted.length)) = some (1, 1) := by
    decide +kernel
  obtain ⟨m, hexec, hcounts⟩ := Option.map_eq_some_iff.mp hseen
  obtain ⟨hreplies, haccepted⟩ := Prod.mk.inj hcounts
  obtain ⟨past, hguarded⟩ := run_of_exec booted_afterInit _ hexec
  obtain ⟨hrun, hsafe⟩ := hguarded.of_guarded
  obtain ⟨hturns, hreplied⟩ := contexts_inTurn hrun hsafe
  exact ⟨past, m, hexec, hrun, hsafe, hreplies, haccepted, hturns, hreplied⟩

end Machine

end AngryUefi
