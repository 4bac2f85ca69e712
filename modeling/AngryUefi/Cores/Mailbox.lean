import AngryUefi.Cores.Completion
import AngryUefi.Lib.Mailbox

/-!
# A context as a mailbox

What the job fields of a context are for: core 0 posts a job, the processor
takes it with the inputs it finds there and finishes it, and the reply to the
request collects what the job left.  A reply with the timeout flag collects
nothing.
-/

namespace AngryUefi

open AngryUefi.Mailbox AngryUefi.Transition

namespace Pair

/-- The mailbox's events between core 0 and one processor.  A job is taken with
the context it was read from. -/
abbrev JobEvent := Mailbox.Event Job CoreContext Results ReplyRecord

/-- The reply speaks about the job and carries what it left behind. -/
def Answers (job : Job) (results : Results) (reply : ReplyRecord) : Prop :=
  reply.job = job ∧ job.ReplyFrom results reply.result

def replyEvent (reply : ReplyRecord) : JobEvent :=
  if reply.result.timedOut then .giveUp reply.job else .collect reply

/-- What a step shows: the entry it makes in the history. -/
def event (s t : Pair) : Option JobEvent :=
  if s.history.jobs.length < t.history.jobs.length then
    t.history.jobs.getLast?.map .post
  else if s.history.accepted.length < t.history.accepted.length then
    some (.take s.context)
  else if s.history.ended.length < t.history.ended.length then
    t.history.ended.head?.map fun entry => .finish entry.2
  else if s.history.replies.length < t.history.replies.length then
    t.history.replies.head?.map replyEvent
  else none

/-- What is in the mailbox. -/
def Holds (s : Pair) : Content Job Results → Prop
  | .empty => s.history.jobs.length = s.history.ended.length ∧
      s.core0.pc.phase ≠ .waiting ∧ s.core0.pc.phase ≠ .gaveUp ∧ s.core0.pc.phase ≠ .finished
  | .posted job => s.history.jobs.getLast? = some job ∧
      s.history.jobs.length = s.history.accepted.length + 1
  | .taken job => s.history.jobs.getLast? = some job ∧
      s.history.jobs.length = s.history.accepted.length ∧
      s.history.accepted.length = s.history.ended.length + 1
  | .done job results => s.history.jobs.getLast? = some job ∧
      s.history.jobs.length = s.history.ended.length ∧
      s.history.ended.head?.map Prod.snd = some results

/-- Core 0 is not waiting for a job after the step unless it was before. -/
def WaitsNoMore (s t : Pair) : Prop :=
  t.core0.pc.phase = .waiting ∨ t.core0.pc.phase = .gaveUp ∨ t.core0.pc.phase = .finished →
    s.core0.pc.phase = .waiting ∨ s.core0.pc.phase = .gaveUp ∨ s.core0.pc.phase = .finished

theorem WaitsNoMore.away {s t : Pair} (hwaiting : t.core0.pc.phase ≠ .waiting)
    (hgaveUp : t.core0.pc.phase ≠ .gaveUp) (hfinished : t.core0.pc.phase ≠ .finished) :
    WaitsNoMore s t := by
  rintro (hphase | hphase | hphase)
  · exact absurd hphase hwaiting
  · exact absurd hphase hgaveUp
  · exact absurd hphase hfinished

theorem event_of_same {s t : Pair} (hjobs : t.history.jobs = s.history.jobs)
    (haccepted : t.history.accepted = s.history.accepted)
    (hended : t.history.ended = s.history.ended)
    (hreplies : t.history.replies = s.history.replies) : event s t = none := by
  simp [event, hjobs, haccepted, hended, hreplies]

/-- A step that makes no entry leaves the mailbox alone. -/
theorem Holds.stays {s t : Pair} {content : Content Job Results} (hholds : s.Holds content)
    (hjobs : t.history.jobs = s.history.jobs)
    (haccepted : t.history.accepted = s.history.accepted)
    (hended : t.history.ended = s.history.ended)
    (hreplies : t.history.replies = s.history.replies) (hwaits : WaitsNoMore s t) :
    ∃ after, Follows (Allows Job.WrittenIn Answers) content (event s t) after ∧
      t.Holds after := by
  rw [event_of_same hjobs haccepted hended hreplies]
  refine ⟨content, .stays, ?_⟩
  cases content with
  | empty =>
      obtain ⟨hcount, hphases⟩ := hholds
      refine ⟨by rw [hjobs, hended]; exact hcount, ?_⟩
      have hnot := mt hwaits (by simpa only [not_or] using hphases)
      simpa only [not_or] using hnot
  | posted job =>
      simp only [Holds, hjobs, haccepted]
      exact hholds
  | taken job =>
      simp only [Holds, hjobs, haccepted, hended]
      exact hholds
  | done job results =>
      simp only [Holds, hjobs, hended]
      exact hholds

/-- Once all jobs have ended the mailbox is empty or holds a finished job. -/
theorem Holds.free {s : Pair} {content : Content Job Results} (hinv : s.JobInvariant)
    (hholds : s.Holds content) (hall : s.history.jobs.length ≤ s.history.ended.length) :
    content = .empty ∨ ∃ job results, content = .done job results := by
  have haccepted := hinv.progress.accepted_le
  have hended := hinv.progress.ended_le
  cases content with
  | empty => exact .inl rfl
  | posted job =>
      have hcount := hholds.2
      omega
  | taken job =>
      have hcount := hholds.2
      omega
  | done job results => exact .inr ⟨job, results, rfl⟩

/-- Core 0 posts the job it has written to the context. -/
theorem Holds.post {s t : Pair} {content : Content Job Results} (hinv : s.JobInvariant)
    (hholds : s.Holds content) (hall : s.history.jobs.length ≤ s.history.ended.length)
    (hhistory : t.history = { s.history with
      jobs := s.history.jobs ++ [s.core0.job] }) :
    ∃ after, Follows (Allows Job.WrittenIn Answers) content (event s t) after ∧
      t.Holds after := by
  have haccepted := hinv.progress.accepted_le
  have hended := hinv.progress.ended_le
  have hevent : event s t = some (.post s.core0.job) := by
    simp [event, hhistory]
  refine ⟨.posted s.core0.job, ?_, ?_⟩
  · rw [hevent]
    rcases hholds.free hinv hall with rfl | ⟨old, results, rfl⟩
    · exact .moves (.post _)
    · exact .moves (.replace old results _)
  · simp only [Holds, hhistory, List.getLast?_concat, List.length_append,
      List.length_singleton]
    exact ⟨trivial, by omega⟩

/-- Core 0 waits for nothing once it has replied. -/
theorem holds_empty_reply {s : Pair} {result : HandlerResult}
    (hcount : s.history.jobs.length = s.history.ended.length) :
    (s.reply result).Holds .empty := by
  refine ⟨hcount, ?_, ?_, ?_⟩
  all_goals rintro ⟨⟩

/-- The last word on a job: the reply to its request. -/
theorem Holds.reply {s : Pair} {content : Content Job Results} {result : HandlerResult}
    (hinv : s.JobInvariant) (hresults : s.ResultsInvariant) (hholds : s.Holds content)
    (hphase : s.core0.pc.phase = .gaveUp ∧ result.timedOut = true ∨
      s.core0.pc.phase = .finished)
    (hsent : s.core0.pc.SentFrom s.core0.job s.results →
      s.core0.job.ReplyFrom s.results result) :
    ∃ after, Follows (Allows Job.WrittenIn Answers) content (event s (s.reply result)) after ∧
      (s.reply result).Holds after := by
  have hevent : event s (s.reply result) = some (replyEvent
      ⟨s.lastJob, s.core0.job, result, decide (s.lastJob ∈ s.history.faulted)⟩) := by
    simp [event, Pair.reply]
  have hlast : s.history.jobs.getLast? = some s.core0.job := by
    have hknows := hinv.knows
    rcases hphase with ⟨hgaveUp, -⟩ | hfinished
    · rw [hgaveUp] at hknows
      exact hknows.2
    · rw [hfinished] at hknows
      exact hknows.2.1
  have hjob : content.job = some s.core0.job := by
    cases content with
    | empty =>
        obtain ⟨-, -, hnotGaveUp, hnotFinished⟩ := hholds
        rcases hphase with ⟨hgaveUp, -⟩ | hfinished
        · exact absurd hgaveUp hnotGaveUp
        · exact absurd hfinished hnotFinished
    | posted job => exact hholds.1.symm.trans hlast
    | taken job => exact hholds.1.symm.trans hlast
    | done job results => exact hholds.1.symm.trans hlast
  rw [hevent]
  by_cases htimedOut : result.timedOut = true
  · -- the reply leaves the job where it is
    refine ⟨content, ?_, ?_⟩
    · simp only [replyEvent, htimedOut, if_true]
      exact .moves (.giveUp hjob)
    · cases content with
      | empty => exact holds_empty_reply hholds.1
      | posted job => exact hholds
      | taken job => exact hholds
      | done job results => exact hholds
  · have hfinished : s.core0.pc.phase = .finished := by
      rcases hphase with ⟨-, hresult⟩ | hfinished
      · exact absurd hresult htimedOut
      · exact hfinished
    have hknows := hinv.knows
    rw [hfinished] at hknows
    have hall := hknows.2.2
    have haccepted := hinv.progress.accepted_le
    have hended := hinv.progress.ended_le
    refine ⟨.empty, ?_, holds_empty_reply (by omega)⟩
    simp only [replyEvent, htimedOut]
    rcases hholds.free hinv hall with rfl | ⟨job, results, rfl⟩
    · cases hjob
    · cases hjob
      have hkept : results = s.results := by
        obtain ⟨-, hcount, hhead⟩ := hholds
        rw [Option.map_eq_some_iff] at hhead
        obtain ⟨entry, hentry, rfl⟩ := hhead
        exact hresults.kept (.inr hfinished) hcount entry (by simp [hentry])
      rw [hkept]
      exact .moves (.collect ⟨rfl, hsent (hresults.sent hfinished)⟩)

theorem Holds.core0Step {mode : UnlockMode} {choice : Core0Choice} {s t : Pair}
    {content : Content Job Results} (hinv : s.JobInvariant) (hresults : s.ResultsInvariant)
    (hholds : s.Holds content) (hstep : s.core0Step mode choice = some t) :
    ∃ after, Follows (Allows Job.WrittenIn Answers) content (event s t) after ∧
      t.Holds after := by
  have hs := hinv.lock.ofProcessor
  cases core0Effect hs.coreId hs.phase hstep with
  | request request hpc =>
      cases request <;> exact hholds.stays rfl rfl rfl rfl (.away nofun nofun nofun)
  | elsewhere stack hpc => exact hholds.stays rfl rfl rfl rfl id
  | look hphase =>
      refine hholds.stays rfl rfl rfl rfl ?_
      simp only [WaitsNoMore, setCore0Pc_core0_pc, hphase]
      exact id
  | acquire hfree hbefore hafter hphase =>
      rcases hphase with hphase | ⟨-, hphase⟩
      · refine hholds.stays rfl rfl rfl rfl ?_
        simp only [WaitsNoMore, setCore0Pc_core0_pc, hphase]
        exact id
      · exact hholds.stays rfl rfl rfl rfl
          (.away (by simp [hphase]) (by simp [hphase]) (by simp [hphase]))
  | queue hpc =>
      have hknows := hinv.knows
      rw [hpc] at hknows
      exact hholds.post hinv hknows.2.1 rfl
  | finish hpc =>
      exact hholds.stays rfl rfl rfl rfl fun _ => .inl (by rw [hpc]; rfl)
  | @readFlag timedOut hpc =>
      refine hholds.stays rfl rfl rfl rfl ?_
      simp only [WaitsNoMore, hpc]
      exact id
  | timeOut hpc =>
      exact hholds.stays rfl rfl rfl rfl fun _ => .inl (by rw [hpc]; rfl)
  | reply hphase hnotHolds hflag hsent => exact hholds.reply hinv hresults hphase hsent
  | release hbefore hafter hphase =>
      refine hholds.stays rfl rfl rfl rfl ?_
      simp only [WaitsNoMore, setCore0Pc_core0_pc, hphase]
      exact id
  | clear hpc =>
      refine hholds.stays rfl rfl rfl rfl ?_
      simp only [WaitsNoMore, setCore0Pc_core0_pc, hs.phase_clear hpc]
      exact id
  | _ => exact hholds.stays rfl rfl rfl rfl (.away nofun nofun nofun)

/-- The processor accepts the job that was posted, with the inputs core 0 wrote
for it. -/
theorem Holds.accept {s t : Pair} {content : Content Job Results} (hinv : s.JobInvariant)
    (hholds : s.Holds content) (hphase : s.ap.pc.phase = .taking)
    (hhistory : t.history = { s.history with
      accepted := s.lastJob :: s.history.accepted }) :
    ∃ after, Follows (Allows Job.WrittenIn Answers) content (event s t) after ∧
      t.Holds after := by
  have hcount := hinv.progress.taking hphase
  have hnone := hinv.progress.notRunning (by rw [hphase]; nofun)
  have hevent : event s t = some (.take s.context) := by
    simp [event, hhistory]
  rw [hevent]
  cases content with
  | posted job =>
      have hwritten := hinv.progress.current (by omega) job hholds.1
      refine ⟨.taken job, .moves (.take hwritten), ?_⟩
      simp only [Holds, hhistory, List.length_cons]
      exact ⟨hholds.1, by omega, by omega⟩
  | empty =>
      have hended := hholds.1
      omega
  | taken job =>
      have haccepted := hholds.2
      omega
  | done job results =>
      have hended := hholds.2
      omega

/-- The running job ends. -/
theorem Holds.finish {s t : Pair} {content : Content Job Results} (hinv : s.JobInvariant)
    (hholds : s.Holds content) (hphase : s.ap.pc.phase = .running)
    (hhistory : t.history = s.endJob.history) :
    ∃ after, Follows (Allows Job.WrittenIn Answers) content (event s t) after ∧
      t.Holds after := by
  obtain ⟨haccepted, hcount, -⟩ := hinv.progress.running hphase
  have hevent : event s t = some (.finish s.results) := by
    simp [event, hhistory, Pair.endJob]
  rw [hevent]
  cases content with
  | taken job =>
      refine ⟨.done job s.results, .moves (.finish job _), ?_⟩
      simp only [Holds, hhistory, Pair.endJob, List.length_cons, List.head?_cons,
        Option.map_some]
      exact ⟨hholds.1, by omega, trivial⟩
  | empty =>
      have hended := hholds.1
      omega
  | posted job =>
      have hposted := hholds.2
      omega
  | done job results =>
      have hended := hholds.2
      omega

theorem Holds.apStep {mode : UnlockMode} {choice : ApChoice} {s t : Pair}
    {content : Content Job Results} (hinv : s.JobInvariant) (hholds : s.Holds content)
    (hstep : s.apStep mode choice = some t) :
    ∃ after, Follows (Allows Job.WrittenIn Answers) content (event s t) after ∧
      t.Holds after := by
  have heffect := Pair.apEffect hstep
  cases heffect with
  | accept hpc => exact hholds.accept hinv (by rw [hpc]; rfl) rfl
  | endReturn hpc => exact hholds.finish hinv (by rw [hpc]; rfl) rfl
  | endRecovery hpc => exact hholds.finish hinv (by rw [hpc]; rfl) rfl
  | _ => exact hholds.stays rfl rfl rfl rfl id

theorem Holds.step {mode : UnlockMode} {label : Label} {s t : Pair}
    {content : Content Job Results} (hinv : s.JobInvariant) (hresults : s.ResultsInvariant)
    (hholds : s.Holds content) (hstep : Pair.step mode label s = some t) :
    ∃ after, Follows (Allows Job.WrittenIn Answers) content (event s t) after ∧
      t.Holds after := by
  cases label with
  | core0 choice => exact hholds.core0Step hinv hresults hstep
  | ap choice => exact hholds.apStep hinv hstep

theorem Booted.holds_empty {s : Pair} (hbooted : s.Booted) : s.Holds .empty := by
  obtain ⟨result, hpc⟩ := hbooted.core0
  simp [Holds, hbooted.history, History.empty, hpc, Core0Pc.phase]

/-- Where no lock is freed behind the other party's back, the context is a
mailbox. -/
theorem trace_of_cleanUnlock {mode : UnlockMode} {past : List (Pair × Label)} {s : Pair}
    (hrun : Run Booted (Pair.step mode) past s) (hclean : EachStep CleanUnlock past) :
    ∃ content, Trace (· = .empty) (Allows Job.WrittenIn Answers) (events event past s)
      content ∧ s.Holds content := by
  have hinitial : ∀ s : Pair, s.Booted → s.JobInvariant ∧ s.ResultsInvariant :=
    fun s hbooted => ⟨hbooted.jobInvariant, hbooted.resultsInvariant⟩
  refine hrun.refines hinitial ?_ (fun s hbooted => ⟨.empty, rfl, hbooted.holds_empty⟩)
    ?_ hclean
  · rintro s label t ⟨hinv, hresults⟩ hcondition hstep
    exact ⟨hinv.step hcondition hstep, hresults.step hinv hstep⟩
  · rintro s label t content ⟨hinv, hresults⟩ - hstep hholds
    exact hholds.step hinv hresults hstep

/-- The jobs of a context are taken with their own inputs, finished and
collected one after the other. -/
theorem jobs_inTurn {past : List (Pair × Label)} {s : Pair}
    (hrun : Run Booted (Pair.step .twoStep) past s) (hclean : EachStep CleanUnlock past) :
    InTurn Job.WrittenIn Answers (events event past s) := by
  obtain ⟨content, htrace, -⟩ := trace_of_cleanUnlock hrun hclean
  exact inTurn_of_trace htrace

theorem jobs_inTurn_finishJob :
    ∃ past t, exec (guarded CleanUnlock (Pair.step .twoStep))
        (startUp ++ [.ap .next] ++ submit ++ [.core0 .next] ++ reachMachineCode ++
          finishJob) (afterInit 1) = some t ∧
      Run Booted (Pair.step .twoStep) past t ∧ EachStep CleanUnlock past ∧
      t.history.replies.length = 1 ∧
      InTurn Job.WrittenIn Answers (events event past t) := by
  obtain ⟨t, hexec, hreplies⟩ :
      ∃ t, exec (guarded CleanUnlock (Pair.step .twoStep))
        (startUp ++ [.ap .next] ++ submit ++ [.core0 .next] ++ reachMachineCode ++
          finishJob) (afterInit 1) = some t ∧ t.history.replies.length = 1 := ⟨_, rfl, rfl⟩
  obtain ⟨past, hguarded⟩ := run_of_exec (booted_afterInit one_ne_zero) _ hexec
  obtain ⟨hrun, hclean⟩ := hguarded.of_guarded
  exact ⟨past, t, hexec, hrun, hclean, hreplies, jobs_inTurn hrun hclean⟩

/-- An `unlock_context` that is one step is always clean. -/
theorem eachStep_cleanUnlock {past : List (Pair × Label)} {s : Pair}
    (hrun : Run Booted (Pair.step .atomic) past s) : EachStep CleanUnlock past := by
  have hreleased : Always (fun s => s.OfProcessor ∧ s.Released) past s := by
    apply hrun.always_of_step
    · intro s hbooted
      obtain ⟨result, hpc⟩ := hbooted.core0
      exact ⟨hbooted.ofProcessor, by rw [hpc]; rfl, by rw [hbooted.ap]; rfl⟩
    · rintro s label t ⟨hs, hreleased⟩ hstep
      exact ⟨hs.step hstep, hreleased.step hs hstep⟩
  exact fun entry hentry => (hreleased.2 entry hentry).2.cleanUnlock entry.2

/-- With such an `unlock_context` the context is a mailbox in every order of the
two parties' steps. -/
theorem refines_mailbox {past : List (Pair × Label)} {s : Pair}
    (hrun : Run Booted (Pair.step .atomic) past s) :
    ∃ content, Trace (· = .empty) (Allows Job.WrittenIn Answers) (events event past s)
      content ∧ s.Holds content := by
  exact trace_of_cleanUnlock hrun (eachStep_cleanUnlock hrun)

end Pair

end AngryUefi
