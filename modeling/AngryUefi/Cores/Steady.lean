import AngryUefi.Cores.Mailboxes

/-!
# What holds in every order

`unlock_context` may free a lock that the other party has taken meanwhile.  Some
things hold all the same, in every order of the parties' moves: a lock that is
taken has been taken by a party that still holds it, and `started` and `ready`
say how far the processor is.
-/

namespace AngryUefi

open AngryUefi.SpinLock AngryUefi.Transition

namespace ApPc

/-- `core_main_loop` has set `started`. -/
def hasStarted : ApPc → Bool
  | off | entryPoint | stubWrapper | writeIdt | storeCr3 | initIbs | setStarted => false
  | _ => true

/-- What the processor has set `ready` to. -/
def readyFlag : ApPc → Option UInt64
  | clearJobQueued | spin | spinLock | spinQueued | jobTryLock | jobRecheck | jobClearReady
  | unlockStore | unlockCompareExchange => some 1
  | jobClearQueued | jobReadFault | jobZeroFault | call _ | callArg _ _ | body _ _
  | handlerStore _ _ _ _ | handlerOccured _ _ _ | handlerNumber _ _ _ | stubRecovery
  | jobSetReady => some 0
  | _ => none

end ApPc

namespace Pair

/-- `started` and `ready` tell how far the processor is. -/
structure FlagsTell (context : CoreContext) (pc : ApPc) : Prop where
  started : pc.hasStarted = true → context.started = 1
  ready : ∀ value, pc.readyFlag = some value → context.ready = value

/-- What holds in every order of the two parties' steps. -/
structure Steady (s : Pair) : Prop where
  ofProcessor : s.OfProcessor
  word : s.context.lock = 0 ∨ s.context.lock = 1
  held : Held s.lockState
  flags : FlagsTell s.context s.ap.pc

/-- A lock that neither party holds is free. -/
theorem Steady.free {s : Pair} (hsteady : s.Steady) (hcore0 : s.core0.pc.holds = false)
    (hap : s.ap.pc.holds = false) : s.context.lock = 0 := by
  rcases hsteady.word with hfree | htaken
  · exact hfree
  · obtain ⟨party, hinside⟩ := hsteady.held (beq_iff_eq.mpr htaken)
    cases party with
    | core0 => exact absurd (hcore0.symm.trans hinside) (by decide)
    | ap => exact absurd (hap.symm.trans hinside) (by decide)

theorem Booted.steady {s : Pair} (hbooted : s.Booted) : s.Steady := by
  refine ⟨hbooted.ofProcessor, .inl hbooted.lock, hbooted.lockInvariant.owned.2, ?_⟩
  rw [hbooted.ap]
  exact ⟨by rintro ⟨⟩, by rintro _ ⟨⟩⟩

theorem Steady.sameCore {s t : Pair} (hsteady : s.Steady) (hsame : s.SameCore t) :
    t.Steady := by
  have hlockState : t.lockState = s.lockState :=
    lockState_eq (by rw [hsame.context]) hsame.pc.1 (by rw [hsame.ap])
  refine ⟨hsteady.ofProcessor.sameCore hsame, ?_, hlockState ▸ hsteady.held, ?_⟩
  · rw [hsame.context]
    exact hsteady.word
  · rw [hsame.context, hsame.ap]
    exact hsteady.flags

/-- The word is only ever set to 0 or 1. -/
theorem word_compareExchange {context : CoreContext} {compare exchange : UInt64}
    (hword : context.lock = 0 ∨ context.lock = 1) (hexchange : exchange = 0 ∨ exchange = 1) :
    (compareExchange context compare exchange).2.lock = 0 ∨
      (compareExchange context compare exchange).2.lock = 1 := by
  rw [compareExchange_snd]
  split
  · exact hexchange
  · exact hword

theorem flagsTell_compareExchange {context : CoreContext} {compare exchange : UInt64} {pc : ApPc}
    (hflags : FlagsTell context pc) :
    FlagsTell (compareExchange context compare exchange).2 pc := by
  rw [compareExchange_snd]
  exact ⟨hflags.started, hflags.ready⟩

/-- Core 0 leaves these flags to the processor. -/
theorem steady_contextEffect {s : Pair} {context : CoreContext} (hs : s.OfProcessor)
    (hword : s.context.lock = 0 ∨ s.context.lock = 1) {pc : ApPc}
    (hflags : FlagsTell s.context pc) (heffect : ContextEffect s context) :
    (context.lock = 0 ∨ context.lock = 1) ∧ FlagsTell context pc := by
  have hnotBoot := hs.phase
  cases heffect with
  | same => exact ⟨hword, hflags⟩
  | acquire =>
      exact ⟨word_compareExchange hword (.inr rfl), flagsTell_compareExchange hflags⟩
  | clear => exact ⟨word_compareExchange hword (.inl rfl), flagsTell_compareExchange hflags⟩
  | @fill write =>
      obtain ⟨-, hstarted, hready, -, hlock⟩ := write.flags_apply s.context
      rw [hlock]
      exact ⟨hword, fun hpast => hstarted.trans (hflags.started hpast),
        fun value hvalue => hready.trans (hflags.ready value hvalue)⟩
  | clearReady hpc => exact absurd (by rw [hpc]; rfl) hnotBoot
  | clearQueued hpc => exact absurd (by rw [hpc]; rfl) hnotBoot
  | ranOnBootCore hpc => exact absurd (by rw [hpc]; rfl) hnotBoot
  | setReady hpc => exact absurd (by rw [hpc]; rfl) hnotBoot
  | release => exact ⟨.inl rfl, hflags.started, hflags.ready⟩
  | queue => exact ⟨hword, hflags.started, hflags.ready⟩
  | allocateFaultInfo => exact ⟨hword, hflags.started, hflags.ready⟩
  | setCr3 => exact ⟨hword, hflags.started, hflags.ready⟩

theorem pc_of_core0Step {mode : UnlockMode} {choice : Core0Choice} {s t : Pair}
    (hs : s.OfProcessor) (hstep : s.core0Step mode choice = some t) :
    t.ap = s.ap ∨ t.ap.pc = .entryPoint := by
  cases core0Effect hs.coreId hs.phase hstep with
  | request request => cases request <;> exact .inl rfl
  | handOver => exact .inr rfl
  | _ => exact .inl rfl

theorem Steady.core0Step {mode : UnlockMode} {choice : Core0Choice} {s t : Pair}
    (hsteady : s.Steady) (hstep : s.core0Step mode choice = some t) : t.Steady := by
  obtain ⟨action, haction, -⟩ := core0_lockStep hsteady.ofProcessor hstep
  obtain ⟨hword, hflags⟩ := steady_contextEffect hsteady.ofProcessor hsteady.word hsteady.flags
    (contextEffect hstep)
  refine ⟨hsteady.ofProcessor.core0Step hstep, hword, hsteady.held.step haction, ?_⟩
  rcases pc_of_core0Step hsteady.ofProcessor hstep with hap | hpc
  · rw [hap]
    exact hflags
  · rw [hpc]
    exact ⟨by rintro ⟨⟩, by rintro _ ⟨⟩⟩

theorem flagsTell_bodyStep {frame : CallFrame} {pc : BodyPc} {choice : ApChoice} {s t : Pair}
    (hflags : FlagsTell s.context (.body frame pc))
    (hstep : s.bodyStep frame pc choice = some t) :
    t.context.lock = s.context.lock ∧ FlagsTell t.context t.ap.pc := by
  cases pc
  all_goals cases choice
  all_goals simp only [bodyStep, reduceCtorEq, Option.some.injEq] at hstep
  all_goals subst hstep
  all_goals exact ⟨rfl, hflags.started, hflags.ready⟩

/-- The processor sets the flags as it goes on. -/
theorem flagsTell_apStep {mode : UnlockMode} {choice : ApChoice} {s t : Pair}
    (hword : s.context.lock = 0 ∨ s.context.lock = 1) (hflags : FlagsTell s.context s.ap.pc)
    (hstep : s.apStep mode choice = some t) :
    (t.context.lock = 0 ∨ t.context.lock = 1) ∧ FlagsTell t.context t.ap.pc := by
  unfold apStep at hstep
  cases hpc : s.ap.pc
  all_goals rw [hpc] at hstep hflags
  case body frame pc =>
    obtain ⟨hlock, hflags⟩ := flagsTell_bodyStep hflags hstep
    rw [hlock]
    exact ⟨hword, hflags⟩
  all_goals cases choice
  all_goals simp only [reduceCtorEq, Option.some.injEq] at hstep
  all_goals subst hstep
  case setStarted.next => exact ⟨hword, fun _ => rfl, by rintro _ ⟨⟩⟩
  case setReady.next => exact ⟨hword, fun _ => hflags.started rfl, by rintro _ ⟨⟩; rfl⟩
  case jobClearReady.next => exact ⟨hword, hflags.started, by rintro _ ⟨⟩; rfl⟩
  case jobSetReady.next => exact ⟨hword, hflags.started, by rintro _ ⟨⟩; rfl⟩
  case stubRecovery.next => exact ⟨hword, by rintro ⟨⟩, by rintro _ ⟨⟩⟩
  case jobTryLock.next =>
    refine ⟨word_compareExchange hword (.inr rfl), flagsTell_compareExchange ?_⟩
    simp only [setApPc_ap_pc]
    split <;> exact ⟨hflags.started, hflags.ready⟩
  case unlockCompareExchange.next =>
    exact ⟨word_compareExchange hword (.inl rfl),
      flagsTell_compareExchange ⟨hflags.started, hflags.ready⟩⟩
  case unlockStore.next => cases mode <;> exact ⟨.inl rfl, hflags.started, hflags.ready⟩
  case handlerNumber.next frame pc vector =>
    simp only [setApPc_ap_pc, afterHandler]
    split_ifs <;> exact ⟨hword, hflags.started, hflags.ready⟩
  case spinLock.next =>
    simp only [setApPc_ap_pc]
    split <;> exact ⟨hword, hflags.started, hflags.ready⟩
  case spinQueued.next =>
    simp only [setApPc_ap_pc]
    split <;> exact ⟨hword, hflags.started, hflags.ready⟩
  case jobRecheck.next =>
    simp only [setApPc_ap_pc]
    split <;> exact ⟨hword, hflags.started, hflags.ready⟩
  case jobReadFault.next => split <;> exact ⟨hword, hflags.started, hflags.ready⟩
  case call.next slot =>
    split
    · split <;> exact ⟨hword, hflags.started, hflags.ready⟩
    · exact ⟨hword, hflags.started, hflags.ready⟩
  all_goals exact ⟨hword, hflags.started, hflags.ready⟩

theorem Steady.apStep {mode : UnlockMode} {choice : ApChoice} {s t : Pair}
    (hsteady : s.Steady) (hstep : s.apStep mode choice = some t) : t.Steady := by
  obtain ⟨action, haction, -⟩ := ap_lockStep hstep
  obtain ⟨hword, hflags⟩ := flagsTell_apStep hsteady.word hsteady.flags hstep
  exact ⟨hsteady.ofProcessor.apStep hstep, hword, hsteady.held.step haction, hflags⟩

theorem Steady.step {mode : UnlockMode} {label : Label} {s t : Pair} (hsteady : s.Steady)
    (hstep : Pair.step mode label s = some t) : t.Steady := by
  cases label with
  | core0 choice => exact hsteady.core0Step hstep
  | ap choice => exact hsteady.apStep hstep

end Pair

namespace Machine

/-- What the system comes to from its start, in whatever order its parties move. -/
def Reached (m : Machine) : Prop := ∃ past, Run Booted Machine.move past m

theorem steady_move {coreId : ℕ} {move : Move} {m n : Machine}
    (hsteady : (m.pair coreId).Steady) (hmove : Machine.move move m = some n) :
    (n.pair coreId).Steady := by
  cases seen_of_move hsteady.ofProcessor hmove with
  | own label hsame hstack hclean hstep => exact (hsteady.sameCore hsame).step hstep
  | other hsame => exact hsteady.sameCore hsame

theorem Reached.steady {coreId : ℕ} {m : Machine} (hreached : m.Reached) (hcoreId : coreId ≠ 0) :
    (m.pair coreId).Steady := by
  obtain ⟨past, hrun⟩ := hreached
  have halways : Always (fun m : Machine => (m.pair coreId).Steady) past m :=
    hrun.always_of_step
      (fun m hbooted => (hbooted coreId hcoreId).steady.sameCore
        (sameCore_of_not_live hbooted.live coreId))
      fun _ _ _ hsteady hmove => steady_move hsteady hmove
  exact halways.1

end Machine

end AngryUefi
