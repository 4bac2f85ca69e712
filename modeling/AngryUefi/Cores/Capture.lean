import AngryUefi.Cores.Machine

/-!
# Captured events

The size of the result buffer and the buffers of captured events are set up
before the first message.  Core 0's handlers and the main loop of a processor
only read them; what changes the events is what a job stores through the
functions behind the ASR gate.
-/

namespace AngryUefi

/-- The same size of the result buffer and the same captured events. -/
structure CoreContext.SameCapture (before after : CoreContext) : Prop where
  resultBufferLen : after.resultBufferLen = before.resultBufferLen
  ibsEvents : after.ibsControl.map (fun control => (control.eventBuffer, control.currentPosition)) =
    before.ibsControl.map fun control => (control.eventBuffer, control.currentPosition)
  dsmControl : after.dsmControl = before.dsmControl

namespace CoreContext.SameCapture

theorem rfl {context : CoreContext} : SameCapture context context := ⟨.refl _, .refl _, .refl _⟩

theorem trans {first second third : CoreContext} (hleft : SameCapture first second)
    (hright : SameCapture second third) : SameCapture first third :=
  ⟨hright.resultBufferLen.trans hleft.resultBufferLen, hright.ibsEvents.trans hleft.ibsEvents,
    hright.dsmControl.trans hleft.dsmControl⟩

end CoreContext.SameCapture

namespace CaptureStore

/-- Stores to the same buffers leave the same buffers. -/
theorem sameCapture_apply {left right : CoreContext} (hsame : left.SameCapture right)
    (store : CaptureStore) : (apply left store).SameCapture (apply right store) := by
  obtain ⟨hlength, hibs, hdsm⟩ := hsame
  refine ⟨hlength, ?_, ?_⟩
  · simp only [apply, Option.map_map]
    cases hleft : left.ibsControl <;> cases hright : right.ibsControl
    · rfl
    · rw [hleft, hright] at hibs
      cases hibs
    · rw [hleft, hright] at hibs
      cases hibs
    · rw [hleft, hright] at hibs
      injection hibs with hpair
      injection hpair with hbuffer hposition
      cases store <;>
        simp only [Option.map_some, Function.comp_apply, applyIbs, hbuffer, hposition]
      all_goals split <;> simp only [hbuffer, hposition]
  · simp only [apply, hdsm]

theorem sameCapture_applyAll {left right : CoreContext} (hsame : left.SameCapture right)
    (stores : List CaptureStore) :
    (applyAll left stores).SameCapture (applyAll right stores) := by
  induction stores generalizing left right with
  | nil => exact hsame
  | cons store stores ih => exact ih (sameCapture_apply hsame store)

@[simp]
theorem resultBufferLen_applyAll (context : CoreContext) (stores : List CaptureStore) :
    (applyAll context stores).resultBufferLen = context.resultBufferLen := by
  induction stores generalizing context with
  | nil => rfl
  | cons store stores ih => exact ih (apply context store)

end CaptureStore

/-- What the job on the boot core stores to the buffers of captured events. -/
def Core0Choice.captured : Core0Choice → List CaptureStore
  | .ranOnBootCore _ _ _ captured => captured
  | _ => []

def ApChoice.captured : ApChoice → List CaptureStore
  | .capture captured => [captured]
  | _ => []

/-- What a processor may do to the flags of its own context. -/
structure CoreContext.ApFlags (before after : CoreContext) : Prop where
  present : after.present = before.present
  started : before.started = 1 → after.started = 1
  jobQueued : after.jobQueued = before.jobQueued ∨ after.jobQueued = 0

theorem CoreContext.ApFlags.rfl {context : CoreContext} : ApFlags context context :=
  ⟨.refl _, id, .inl (.refl _)⟩

/-- What core 0 has for the client is as long as the result buffer. -/
def Core0Pc.Measured (length : UInt64) : Core0Pc → Prop
  | .sendSize _ _ _ _ _ copied => copied.length = length.toNat
  | .returned (.testResult _ _ _ _ _ copied size) =>
      copied.length = length.toNat ∧ size = length
  | _ => True

namespace Pair

open AngryUefi.Bytes CoreContext

theorem sameCapture_write (write : ContextWrite) (context : CoreContext) :
    context.SameCapture (write.apply context) := by
  cases write <;> exact ⟨rfl, rfl, rfl⟩

theorem sameCapture_compareExchange (context : CoreContext) (compare exchange : UInt64) :
    context.SameCapture (compareExchange context compare exchange).2 := by
  simp only [compareExchange]
  split
  · exact ⟨rfl, rfl, rfl⟩
  · exact .rfl

/-- Only the job on the boot core captures events. -/
theorem captured_eq_nil {mode : UnlockMode} {choice : Core0Choice} {s t : Pair}
    (hstep : s.core0Step mode choice = some t) (hboot : s.core0.pc ≠ .bootCallFunctions) :
    choice.captured = [] := by
  unfold core0Step at hstep
  cases hpc : s.core0.pc
  all_goals rw [hpc] at hstep hboot
  case bootCallFunctions => exact absurd rfl hboot
  all_goals cases choice
  case startOnCore.ranOnBootCore => cases hstep
  all_goals simp only [reduceCtorEq, Option.some.injEq] at hstep
  all_goals rfl

/-- A step of core 0 stores what the job that runs on the boot core stores. -/
theorem captured_core0Step {mode : UnlockMode} {choice : Core0Choice} {s t : Pair}
    (hstep : s.core0Step mode choice = some t) :
    (CaptureStore.applyAll s.context choice.captured).SameCapture t.context := by
  by_cases hboot : s.core0.pc = .bootCallFunctions
  · unfold core0Step at hstep
    rw [hboot] at hstep
    cases choice
    all_goals simp only [reduceCtorEq, Option.some.injEq] at hstep
    subst hstep
    refine ⟨?_, rfl, rfl⟩
    rw [CaptureStore.resultBufferLen_applyAll]
  · rw [captured_eq_nil hstep hboot]
    have heffect := contextEffect hstep
    generalize t.context = context at heffect ⊢
    cases heffect with
    | same => exact .rfl
    | @fill write => exact sameCapture_write write s.context
    | acquire => exact sameCapture_compareExchange s.context _ _
    | clear => exact sameCapture_compareExchange s.context _ _
    | ranOnBootCore hpc => exact absurd hpc hboot
    | _ => exact ⟨rfl, rfl, rfl⟩

theorem measured_afterWait (length : UInt64) (job : Job) (timedOut : Bool) :
    (job.afterWait timedOut).Measured length := by
  cases job <;> simp only [Job.afterWait] <;> first | trivial | (split <;> trivial)

theorem measured_afterUnlock (length : UInt64) (job : Job) (next : AfterUnlock) :
    (next.pc job).Measured length := by
  cases next with
  | jobFinished => exact measured_afterWait length job false
  | _ => trivial

/-- The reads of `send_result_message` find the same length. -/
theorem measured_core0Step {mode : UnlockMode} {choice : Core0Choice} {s t : Pair}
    (hmeasured : s.core0.pc.Measured s.context.resultBufferLen)
    (hstep : s.core0Step mode choice = some t) :
    t.core0.pc.Measured s.context.resultBufferLen := by
  unfold core0Step at hstep
  cases hpc : s.core0.pc
  all_goals rw [hpc] at hstep
  all_goals cases choice
  all_goals simp only [reduceCtorEq, Option.some.injEq] at hstep
  case returned.elsewhere =>
    subst hstep
    exact hmeasured
  case sendBuffer.next =>
    subst hstep
    exact Memory.length_read _ _ _
  case sendSize.next =>
    subst hstep
    rw [hpc] at hmeasured
    exact ⟨hmeasured, rfl⟩
  case write.next rest =>
    subst hstep
    cases rest with
    | nil =>
        simp only [fillContext, setCore0Pc]
        split <;> trivial
    | cons write rest => trivial
  case startOnCore.startup rsp =>
    cases rsp with
    | none =>
        cases hstep
        trivial
    | some rsp =>
        simp only [Option.ite_none_right_eq_some, Option.some.injEq] at hstep
        obtain ⟨-, rfl⟩ := hstep
        trivial
  case sendMsrLow.next =>
    cases hjob : s.core0.job <;> simp only [hjob, Option.some.injEq, reduceCtorEq] at hstep
    subst hstep
    trivial
  case sendMsrHigh.next eax =>
    cases hjob : s.core0.job <;> simp only [hjob, Option.some.injEq, reduceCtorEq] at hstep
    subst hstep
    trivial
  case returned.request result request =>
    subst hstep
    cases request <;> trivial
  case waitPause.next iterations =>
    subst hstep
    simp only [pauseWait]
    split
    · split
      · exact measured_afterWait _ s.core0.job true
      · trivial
    · trivial
  case unlockCompareExchange.next next =>
    subst hstep
    exact measured_afterUnlock _ s.core0.job next
  case unlockStore.next next =>
    subst hstep
    cases mode with
    | twoStep => trivial
    | atomic => exact measured_afterUnlock _ s.core0.job next
  all_goals subst hstep
  all_goals first
    | trivial
    | (simp only [setCore0Pc]
       split <;> trivial)

theorem captured_bodyStep {frame : CallFrame} {pc : BodyPc} {choice : ApChoice} {s t : Pair}
    (hstep : s.bodyStep frame pc choice = some t) :
    (CaptureStore.applyAll s.context choice.captured).SameCapture t.context := by
  cases pc
  all_goals cases choice
  all_goals simp only [bodyStep, reduceCtorEq, Option.some.injEq] at hstep
  all_goals subst hstep
  all_goals exact ⟨rfl, rfl, rfl⟩

/-- A step of the processor stores what its job stores. -/
theorem captured_apStep {mode : UnlockMode} {choice : ApChoice} {s t : Pair}
    (hstep : s.apStep mode choice = some t) :
    (CaptureStore.applyAll s.context choice.captured).SameCapture t.context := by
  unfold apStep at hstep
  cases hpc : s.ap.pc
  all_goals rw [hpc] at hstep
  case body frame pc =>
    exact captured_bodyStep hstep
  all_goals cases choice
  all_goals simp only [reduceCtorEq, Option.some.injEq] at hstep
  all_goals subst hstep
  case initIbs.next =>
    refine ⟨rfl, ?_, rfl⟩
    change (s.context.ibsControl.map _).map _ = _
    rw [Option.map_map]
    rfl
  case jobReadFault.next => split <;> exact .rfl
  case call.next slot =>
    split
    · split <;> exact .rfl
    · exact .rfl
  all_goals first
    | exact ⟨rfl, rfl, rfl⟩
    | exact sameCapture_compareExchange s.context _ _

theorem apFlags_compareExchange (context : CoreContext) (compare exchange : UInt64) :
    context.ApFlags (compareExchange context compare exchange).2 := by
  simp only [compareExchange]
  split
  · exact ⟨rfl, id, .inl rfl⟩
  · exact .rfl

theorem apFlags_bodyStep {frame : CallFrame} {pc : BodyPc} {choice : ApChoice} {s t : Pair}
    (hstep : s.bodyStep frame pc choice = some t) : s.context.ApFlags t.context := by
  cases pc
  all_goals cases choice
  all_goals simp only [bodyStep, reduceCtorEq, Option.some.injEq] at hstep
  all_goals subst hstep
  all_goals exact ⟨rfl, id, .inl rfl⟩

theorem apFlags_apStep {mode : UnlockMode} {choice : ApChoice} {s t : Pair}
    (hstep : s.apStep mode choice = some t) : s.context.ApFlags t.context := by
  unfold apStep at hstep
  cases hpc : s.ap.pc
  all_goals rw [hpc] at hstep
  case body frame pc =>
    exact apFlags_bodyStep hstep
  all_goals cases choice
  all_goals simp only [reduceCtorEq, Option.some.injEq] at hstep
  all_goals subst hstep
  case setStarted.next => exact ⟨rfl, fun _ => rfl, .inl rfl⟩
  case jobReadFault.next => split <;> exact .rfl
  case call.next slot =>
    split
    · split <;> exact .rfl
    · exact .rfl
  all_goals first
    | exact ⟨rfl, id, .inl rfl⟩
    | exact ⟨rfl, id, .inr rfl⟩
    | exact apFlags_compareExchange s.context _ _

end Pair

namespace Machine

/-- The cores' buffers differ in such stores. -/
def StoredBy (possible : ℕ → CaptureStore → Prop) (before after : Machine) : Prop :=
  ∀ coreId, ∃ stores, (∀ store ∈ stores, possible coreId store) ∧
    (CaptureStore.applyAll (before.contexts coreId) stores).SameCapture (after.contexts coreId)

namespace StoredBy

variable {possible : ℕ → CaptureStore → Prop} {first second third : Machine}

theorem rfl : first.StoredBy possible first := fun _ => ⟨[], nofun, .rfl⟩

theorem trans (hleft : first.StoredBy possible second) (hright : second.StoredBy possible third) :
    first.StoredBy possible third := by
  intro coreId
  obtain ⟨stores, hstores, hsame⟩ := hleft coreId
  obtain ⟨later, hlater, hthen⟩ := hright coreId
  refine ⟨stores ++ later, List.forall_mem_append.mpr ⟨hstores, hlater⟩, ?_⟩
  rw [CaptureStore.applyAll, List.foldl_append]
  exact (CaptureStore.sameCapture_applyAll hsame later).trans hthen

theorem mono {weaker : ℕ → CaptureStore → Prop} (hstored : first.StoredBy possible second)
    (himplies : ∀ coreId store, possible coreId store → weaker coreId store) :
    first.StoredBy weaker second := by
  intro coreId
  obtain ⟨stores, hstores, hsame⟩ := hstored coreId
  exact ⟨stores, fun store hstore => himplies coreId store (hstores store hstore), hsame⟩

theorem resultBufferLen (hstored : first.StoredBy possible second) (coreId : ℕ) :
    (second.contexts coreId).resultBufferLen = (first.contexts coreId).resultBufferLen := by
  obtain ⟨stores, -, hsame⟩ := hstored coreId
  rw [hsame.resultBufferLen, CaptureStore.resultBufferLen_applyAll]

theorem sameCapture (hstored : first.StoredBy possible second) {coreId : ℕ}
    (hnone : ∀ store, ¬ possible coreId store) :
    (first.contexts coreId).SameCapture (second.contexts coreId) := by
  obtain ⟨stores, hstores, hsame⟩ := hstored coreId
  cases stores with
  | nil => exact hsame
  | cons store stores => exact absurd (hstores store List.mem_cons_self) (hnone store)

/-- Only the context that core 0 or a processor worked on is another. -/
theorem put {m : Machine} {coreId target : ℕ} {core0 : Core0} {p : Pair}
    {stores : List CaptureStore}
    (hsame : (CaptureStore.applyAll (m.contexts coreId) stores).SameCapture p.context) :
    m.StoredBy (fun other store => other = coreId ∧ store ∈ stores)
      ({ m with target := target }.put coreId core0 p) := by
  intro other
  by_cases hother : other = coreId
  · subst hother
    exact ⟨stores, fun store hstore => ⟨.refl _, hstore⟩, by simpa [Machine.put] using hsame⟩
  · refine ⟨[], fun store hstore => absurd hstore List.not_mem_nil, ?_⟩
    simp only [Machine.put, Function.update_of_ne hother]
    exact .rfl

end StoredBy

theorem storedBy_core0Step {mode : UnlockMode} {coreId : ℕ} {choice : Core0Choice}
    {m : Machine} {p : Pair} (hstep : (m.working coreId).core0Step mode choice = some p) :
    m.StoredBy (fun other store => other = coreId ∧ store ∈ choice.captured)
      ({ m with target := coreId }.put coreId p.core0 p) := by
  apply StoredBy.put
  exact Pair.captured_core0Step hstep

theorem storedBy_apStep {mode : UnlockMode} {coreId : ℕ} {choice : ApChoice}
    {m n : Machine} (hstep : m.step mode (.ap coreId choice) = some n) :
    m.StoredBy (fun other store => other = coreId ∧ store ∈ choice.captured) n ∧
      n.core0 = m.core0 := by
  simp only [step, Option.ite_none_right_eq_some, Option.map_eq_some_iff] at hstep
  obtain ⟨-, p, hp, rfl⟩ := hstep
  constructor
  · apply StoredBy.put
    have hcapture := Pair.captured_apStep hp
    rwa [pair_context] at hcapture
  · rfl

end Machine

end AngryUefi
