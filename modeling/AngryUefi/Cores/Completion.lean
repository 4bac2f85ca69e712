import AngryUefi.Cores.Jobs

/-!
# Seeing a job done

`wait_on_ap_exec` returns `FALSE` once it finds the context unlocked, ready and
without a queued job.  While no lock is stolen, that is a proof that the job
core 0 waits for has ended, and nobody touches its results until the reply is
on its way.
-/

namespace AngryUefi

open AngryUefi.Transition

/-- The reply speaks about an accepted job that has ended, and carries what
that job left behind. -/
def ReplyRecord.Completed (history : History) (reply : ReplyRecord) : Prop :=
  history.jobs[reply.number]? = some reply.job ∧ reply.number ∈ history.accepted ∧
    ∃ results, (reply.number, results) ∈ history.ended ∧
      reply.job.ReplyFrom results reply.result

/-- Histories only grow. -/
structure History.Extends (left right : History) : Prop where
  jobs : ∀ (number : ℕ) job, left.jobs[number]? = some job →
    right.jobs[number]? = some job
  accepted : ∀ number ∈ left.accepted, number ∈ right.accepted
  ended : ∀ entry ∈ left.ended, entry ∈ right.ended

theorem ReplyRecord.Completed.mono {left right : History} {reply : ReplyRecord}
    (hcompleted : reply.Completed left) (hextends : left.Extends right) :
    reply.Completed right := by
  obtain ⟨hjob, haccepted, results, hended, hfrom⟩ := hcompleted
  exact ⟨hextends.jobs _ _ hjob, hextends.accepted _ haccepted, results,
    hextends.ended _ hended, hfrom⟩

namespace Pair

/-- No false completion: core 0 takes a job for done, or replies without the
timeout flag, only if the processor has accepted and ended that very job. -/
structure NoFalseCompletion (s : Pair) : Prop where
  finished : s.core0.pc.phase = .finished →
    s.history.jobs[s.lastJob]? = some s.core0.job ∧
      s.lastJob ∈ s.history.accepted ∧ s.lastJob ∈ s.history.ended.map Prod.fst
  replies : ∀ reply ∈ s.history.replies, reply.result.timedOut = false →
    reply.Completed s.history

/-- What core 0 finds in the context is what the last job left there. -/
structure ResultsInvariant (s : Pair) : Prop where
  kept : s.core0.pc.phase = .waiting ∨ s.core0.pc.phase = .finished →
    s.history.jobs.length = s.history.ended.length →
      ∀ entry ∈ s.history.ended.head?, entry.2 = s.results
  sent : s.core0.pc.phase = .finished → s.core0.pc.SentFrom s.core0.job s.results
  replies : ∀ reply ∈ s.history.replies, reply.result.timedOut = false →
    reply.Completed s.history

/-- A step of core 0 away from its waiting for a job. -/
theorem ResultsInvariant.away {s t : Pair} (hresults : s.ResultsInvariant)
    (hwaiting : t.core0.pc.phase ≠ .waiting) (hfinished : t.core0.pc.phase ≠ .finished)
    (hhistory : t.history = s.history) : t.ResultsInvariant := by
  refine ⟨fun hphase => ?_, fun hphase => absurd hphase hfinished, ?_⟩
  · exact absurd hphase (by simp [hwaiting, hfinished])
  · rw [hhistory]
    exact hresults.replies

/-- A step of core 0 that writes no results. -/
theorem ResultsInvariant.quiet {s t : Pair} (hresults : s.ResultsInvariant)
    (hphase : t.core0.pc.phase = s.core0.pc.phase ∨
      t.core0.pc.phase ≠ .waiting ∧ t.core0.pc.phase ≠ .finished ∨
      s.core0.pc.phase = .waiting)
    (hsame : t.results = s.results) (hhistory : t.history = s.history)
    (hsent : t.core0.pc.phase = .finished → t.core0.pc.SentFrom t.core0.job t.results) :
    t.ResultsInvariant := by
  refine ⟨fun hnow => ?_, hsent, ?_⟩
  · rw [hhistory, hsame]
    apply hresults.kept
    rcases hphase with hphase | ⟨hwaiting, hfinished⟩ | hphase
    · exact hphase ▸ hnow
    · exact absurd hnow (by simp [hwaiting, hfinished])
    · exact .inl hphase
  · rw [hhistory]
    exact hresults.replies

theorem JobInvariant.completed {s : Pair} (hinv : s.JobInvariant)
    (hphase : s.core0.pc.phase = .finished) :
    s.history.jobs[s.lastJob]? = some s.core0.job ∧
      s.lastJob ∈ s.history.accepted ∧
      ∃ results earlier, s.history.ended = (s.lastJob, results) :: earlier := by
  have hknows := hinv.knows
  rw [hphase] at hknows
  obtain ⟨-, hlast, hall⟩ := hknows
  have hended := hinv.progress.ended_le
  have haccepted := hinv.progress.accepted_le
  have hpos : 0 < s.history.jobs.length := by
    rw [List.length_pos_iff]
    rintro hnone
    simp [hnone] at hlast
  refine ⟨?_, ?_, ?_⟩
  · rw [← hlast, List.getLast?_eq_getElem?]
    rfl
  · rw [hinv.progress.accepted]
    simp only [List.mem_reverse, List.mem_range, lastJob]
    omega
  · have hnumbers := hinv.progress.ended
    cases hlist : s.history.ended with
    | nil =>
        rw [hlist, List.length_nil] at hall
        omega
    | cons entry earlier =>
        obtain ⟨number, results⟩ := entry
        refine ⟨results, earlier, ?_⟩
        rw [hlist, List.length_cons, List.range_succ, List.reverse_append] at hnumbers
        have hnumber : number = earlier.length := (List.cons.inj hnumbers).1
        rw [hlist, List.length_cons] at hall hended
        have hlastJob : s.lastJob = number := by
          simp only [lastJob]
          omega
        rw [hlastJob]

/-- Core 0's steps keep what the last job left. -/
theorem ResultsInvariant.core0Step {mode : UnlockMode} {choice : Core0Choice}
    {s t : Pair} (hinv : s.JobInvariant) (hresults : s.ResultsInvariant)
    (hstep : s.core0Step mode choice = some t) : t.ResultsInvariant := by
  have hs := hinv.lock.ofProcessor
  cases core0Effect hs.coreId hs.phase hstep with
  | request request hpc => cases request <;> exact hresults.away nofun nofun rfl
  | elsewhere stack hpc =>
      exact hresults.away (by simp [hpc, Core0Pc.phase]) (by simp [hpc, Core0Pc.phase]) rfl
  | look hphase hholds hflag hsent =>
      refine hresults.quiet (.inl hphase) rfl rfl fun hfinished => hsent ?_
      exact hresults.sent (hphase.symm.trans hfinished)
  | check hpc => exact hresults.away nofun nofun rfl
  | checkStart hpc => exact hresults.away nofun nofun rfl
  | busy hphase => exact hresults.away nofun nofun rfl
  | acquire hfree hbefore hafter hphase hflag hsent =>
      refine hresults.quiet ?_ rfl rfl fun _ => hsent
      rcases hphase with hphase | ⟨-, hphase⟩
      · exact .inl hphase
      · exact .inr (.inl (by simp [hphase]))
  | refuse hphase => exact hresults.away nofun nofun rfl
  | fill hpc => exact hresults.away nofun nofun rfl
  | write hpc => exact hresults.away nofun nofun rfl
  | queue hpc =>
      have hended := hinv.progress.ended_le
      have haccepted := hinv.progress.accepted_le
      refine ⟨fun _ hcount => ?_, nofun, fun reply hreply htimedOut => ?_⟩
      · simp only [List.length_append, List.length_singleton] at hcount
        omega
      · have hextends : s.history.Extends
            { s.history with jobs := s.history.jobs ++ [s.core0.job] } := by
          refine ⟨fun number job hjob => ?_, fun _ h => h, fun _ h => h⟩
          rw [List.getElem?_append_left (List.getElem?_eq_some_iff.mp hjob).1]
          exact hjob
        exact ReplyRecord.Completed.mono (hresults.replies reply hreply htimedOut) hextends
  | finish hpc =>
      have hphase : s.core0.pc.phase = .waiting := by rw [hpc]; rfl
      exact hresults.quiet (.inr (.inr hphase)) rfl rfl fun _ => trivial
  | @readFlag timedOut hpc =>
      exact hresults.quiet (.inl (by rw [hpc]; rfl)) rfl rfl fun _ => trivial
  | timeOut hpc => exact hresults.away nofun nofun rfl
  | giveUp hpc => exact hresults.away nofun nofun rfl
  | @reply result hphase hholds hflag hsent =>
      refine ⟨nofun, nofun, fun reply hreply htimedOut => ?_⟩
      rcases List.mem_cons.mp hreply with rfl | hreply
      · have hfinished : s.core0.pc.phase = .finished := by
          rcases hphase with ⟨-, hresult⟩ | hfinished
          · rw [hresult] at htimedOut
            cases htimedOut
          · exact hfinished
        obtain ⟨hjob, haccepted, results, earlier, hended⟩ := hinv.completed hfinished
        refine ⟨hjob, haccepted, results, by simp [reply, hended], ?_⟩
        have hcount : s.history.jobs.length = s.history.ended.length := by
          have hknows := hinv.knows
          rw [hfinished] at hknows
          have hended_le := hinv.progress.ended_le
          have haccepted_le := hinv.progress.accepted_le
          have hall := hknows.2.2
          omega
        have hkept : results = s.results :=
          hresults.kept (.inr hfinished) hcount (s.lastJob, results) (by simp [hended])
        rw [hkept]
        exact hsent (hresults.sent hfinished)
      · exact hresults.replies reply hreply htimedOut
  | allocateFaultInfo hpc => exact hresults.away nofun nofun rfl
  | setCr3 value hpc => exact hresults.away nofun nofun rfl
  | handOver rsp hpc => exact hresults.away nofun nofun rfl
  | release hbefore hafter hphase hflag hbeforeFlag hsent =>
      exact hresults.quiet (.inl hphase) rfl rfl fun _ => hsent
  | @clear next lock hpc =>
      exact hresults.quiet (.inl (hs.phase_clear hpc)) rfl rfl fun _ => next.sentFrom_pc _ _

/-- What a step of the processor does to results: only a running job writes
them, and its end files them. -/
theorem ApEffect.results {s t : Pair} (heffect : ApEffect s t) :
    s.ap.pc.phase = .running ∧ t.history.ended = s.history.ended ∨
      t.results = s.results ∧ (t.history.ended = s.history.ended ∨
        t.history.ended = (s.ap.job, s.results) :: s.history.ended) := by
  cases heffect with
  | look hsame =>
      refine .inr ⟨?_, .inl rfl⟩
      simp only [Pair.results, hsame.retRdtscValue, hsame.retGpfValue, hsame.resultBufferLen,
        hsame.resultBuffer]
      rfl
  | compute hpc => exact .inl ⟨by rw [hpc]; rfl, rfl⟩
  | endReturn => exact .inr ⟨rfl, .inr rfl⟩
  | endRecovery => exact .inr ⟨rfl, .inr rfl⟩
  | _ => exact .inr ⟨rfl, .inl rfl⟩

theorem ApEffect.extends {s t : Pair} (heffect : ApEffect s t) :
    s.history.Extends t.history ∧ t.history.replies = s.history.replies := by
  cases heffect with
  | accept => exact ⟨⟨fun _ _ h => h, fun _ => List.mem_cons_of_mem _, fun _ h => h⟩, rfl⟩
  | endReturn => exact ⟨⟨fun _ _ h => h, fun _ h => h, fun _ => List.mem_cons_of_mem _⟩, rfl⟩
  | endRecovery =>
      exact ⟨⟨fun _ _ h => h, fun _ h => h, fun _ => List.mem_cons_of_mem _⟩, rfl⟩
  | _ => exact ⟨⟨fun _ _ h => h, fun _ h => h, fun _ h => h⟩, rfl⟩

/-- The processor's steps keep what the last job left until the next one
runs. -/
theorem ResultsInvariant.apStep {mode : UnlockMode} {choice : ApChoice} {s t : Pair}
    (hinv : s.JobInvariant) (hresults : s.ResultsInvariant)
    (hstep : s.apStep mode choice = some t) : t.ResultsInvariant := by
  have heffect := Pair.apEffect hstep
  have hframe := heffect.frame
  have hrunning : s.ap.pc.phase = .running →
      s.history.jobs.length = s.history.ended.length + 1 := by
    intro hphase
    have hcounts := hinv.progress.running hphase
    omega
  refine ⟨fun hphase hcount entry hentry => ?_, fun hfinished => ?_,
    fun reply hreply htimedOut => ?_⟩
  · rw [hframe.core0] at hphase
    rw [hframe.jobs] at hcount
    rcases heffect.results with ⟨hrun, hended⟩ | ⟨hsame, hended | hended⟩
    · have hcounts := hrunning hrun
      rw [hended] at hcount
      omega
    · rw [hended] at hcount hentry
      rw [hsame]
      exact hresults.kept hphase hcount entry hentry
    · rw [hended, List.head?_cons, Option.mem_some_iff] at hentry
      rw [hsame, ← hentry]
  · rw [hframe.core0] at hfinished ⊢
    have hknows := hinv.knows
    rw [hfinished] at hknows
    rcases heffect.results with ⟨hrun, -⟩ | ⟨hsame, -⟩
    · have hcounts := hrunning hrun
      have hall := hknows.2.2
      omega
    · rw [hsame]
      exact hresults.sent hfinished
  · obtain ⟨hextends, hreplies⟩ := heffect.extends
    rw [hreplies] at hreply
    exact ReplyRecord.Completed.mono (hresults.replies reply hreply htimedOut) hextends

theorem ResultsInvariant.step {mode : UnlockMode} {label : Label} {s t : Pair}
    (hinv : s.JobInvariant) (hresults : s.ResultsInvariant)
    (hstep : Pair.step mode label s = some t) : t.ResultsInvariant := by
  cases label with
  | core0 choice => exact hresults.core0Step hinv hstep
  | ap choice => exact hresults.apStep hinv hstep

theorem Booted.resultsInvariant {s : Pair} (hbooted : s.Booted) : s.ResultsInvariant := by
  obtain ⟨result, hpc⟩ := hbooted.core0
  constructor
  all_goals simp [hbooted.history, History.empty, hpc, Core0Pc.phase]

theorem JobInvariant.noFalseCompletion {s : Pair} (hinv : s.JobInvariant)
    (hresults : s.ResultsInvariant) : s.NoFalseCompletion := by
  refine ⟨fun hfinished => ?_, hresults.replies⟩
  obtain ⟨hjob, haccepted, results, earlier, hended⟩ := hinv.completed hfinished
  exact ⟨hjob, haccepted, by simp [hended]⟩

/-- In a run whose `unlock_context` calls never free the other party's lock, a
job that core 0 reports as done has been done. -/
theorem noFalseCompletion_of_cleanUnlock {past : List (Pair × Label)} {s : Pair}
    (hrun : Run Booted (Pair.step .twoStep) past s) (hclean : EachStep CleanUnlock past) :
    Always NoFalseCompletion past s := by
  have hinvariant : Always (fun s => s.JobInvariant ∧ s.ResultsInvariant) past s := by
    refine hrun.always (fun s hbooted => ⟨hbooted.jobInvariant, hbooted.resultsInvariant⟩)
      ?_ hclean
    rintro s label t ⟨hinv, hresults⟩ hcondition hstep
    exact ⟨hinv.step hcondition hstep, hresults.step hinv hstep⟩
  exact hinvariant.mono fun s hs => hs.1.noFalseCompletion hs.2

/-- The machine code stores its result and returns, core 0 polls and replies. -/
def finishJob : List Label :=
  [.ap (.store 0 [42]), .ap .ret] ++ List.replicate 7 (.ap .next) ++
    List.replicate 12 (.core0 .next)

theorem noFalseCompletion_finishJob :
    ∃ past t, exec (guarded CleanUnlock (Pair.step .twoStep))
        (startUp ++ [.ap .next] ++ submit ++ [.core0 .next] ++ reachMachineCode ++
          finishJob) (afterInit 1) = some t ∧
      Run Booted (Pair.step .twoStep) past t ∧ EachStep CleanUnlock past ∧
      t.history.replies.length = 1 ∧ Always NoFalseCompletion past t := by
  obtain ⟨t, hexec, hreplies⟩ :
      ∃ t, exec (guarded CleanUnlock (Pair.step .twoStep))
        (startUp ++ [.ap .next] ++ submit ++ [.core0 .next] ++ reachMachineCode ++
          finishJob) (afterInit 1) = some t ∧ t.history.replies.length = 1 := ⟨_, rfl, rfl⟩
  obtain ⟨past, hguarded⟩ := run_of_exec (booted_afterInit one_ne_zero) _ hexec
  obtain ⟨hrun, hclean⟩ := hguarded.of_guarded
  exact ⟨past, t, hexec, hrun, hclean, hreplies,
    noFalseCompletion_of_cleanUnlock hrun hclean⟩

/-- The processor takes the lock before core 0's compare-exchange frees it;
core 0 then finds the context unlocked and still ready, and no job queued once
the processor has accepted it. -/
def acceptWhilePolled : List Label :=
  [.ap (.value 0), .ap .next, .ap .next, .ap .next, .core0 .next, .ap .next,
    .core0 .next, .core0 .next, .core0 .next, .ap .next, .ap .next] ++
    List.replicate 9 (.core0 .next)

theorem not_noFalseCompletion_acceptWhilePolled :
    ∃ past t, exec (Pair.step .twoStep)
        (startUp ++ [.ap .next] ++ submit ++ acceptWhilePolled) (afterInit 1) = some t ∧
      Run Booted (Pair.step .twoStep) past t ∧ ¬ t.NoFalseCompletion := by
  obtain ⟨t, hexec, hended, reply, hreplies, htimedOut⟩ :
      ∃ t, exec (Pair.step .twoStep)
          (startUp ++ [.ap .next] ++ submit ++ acceptWhilePolled) (afterInit 1) = some t ∧
        t.history.ended = [] ∧
        ∃ reply, t.history.replies = [reply] ∧ reply.result.timedOut = false :=
    ⟨_, rfl, rfl, _, rfl, rfl⟩
  obtain ⟨past, hrun⟩ := run_of_exec (booted_afterInit one_ne_zero) _ hexec
  refine ⟨past, t, hexec, hrun, fun hnone => ?_⟩
  have hcompleted := hnone.replies reply (by simp [hreplies]) htimedOut
  obtain ⟨-, -, results, hmem, -⟩ := hcompleted
  simp [hended] at hmem

end Pair

end AngryUefi
