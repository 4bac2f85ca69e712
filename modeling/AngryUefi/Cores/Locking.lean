import AngryUefi.Cores.Effects
import AngryUefi.Lib.SpinLock
import AngryUefi.Lib.Transition

/-!
# Who holds a context's lock

Core 0 and the processor are the two parties of a spin lock.  Every step of
either is one of the lock's actions; the compare-exchange in `unlock_context`
is the one that frees the lock from outside.
-/

namespace AngryUefi

open AngryUefi.SpinLock AngryUefi.Transition

inductive Party
  | core0
  | ap
  deriving DecidableEq

namespace Pair

/-- At most one party is between taking the lock and beginning to release it,
and the lock is taken while one is. -/
structure MutualExclusion (s : Pair) : Prop where
  exclusive : ¬ (s.core0.pc.holds = true ∧ s.ap.pc.holds = true)
  core0 : s.core0.pc.holds = true → s.context.lock = 1
  ap : s.ap.pc.holds = true → s.context.lock = 1

/-- The context's lock and the two regions it guards. -/
def lockState (s : Pair) : LockState Party where
  taken := s.context.lock == 1
  inside
    | .core0 => s.core0.pc.holds
    | .ap => s.ap.pc.holds

theorem lockState_eq {s : Pair} {taken : Bool} {inside : Party → Bool}
    (htaken : (s.context.lock == 1) = taken)
    (hcore0 : s.core0.pc.holds = inside .core0) (hap : s.ap.pc.holds = inside .ap) :
    s.lockState = ⟨taken, inside⟩ := by
  have hinside : s.lockState.inside = inside := by
    funext party
    cases party with
    | core0 => exact hcore0
    | ap => exact hap
  rw [← htaken, ← hinside]
  rfl

theorem mutualExclusion_iff {s : Pair} : s.MutualExclusion ↔ Exclusive s.lockState := by
  constructor
  · intro hmutual
    refine ⟨fun left right hleft hright => ?_, fun party hinside => ?_⟩
    · cases left with
      | core0 =>
          cases right with
          | core0 => rfl
          | ap => exact absurd ⟨hleft, hright⟩ hmutual.exclusive
      | ap =>
          cases right with
          | core0 => exact absurd ⟨hright, hleft⟩ hmutual.exclusive
          | ap => rfl
    · cases party with
      | core0 => exact beq_iff_eq.mpr (hmutual.core0 hinside)
      | ap => exact beq_iff_eq.mpr (hmutual.ap hinside)
  · intro hexclusive
    refine ⟨fun hboth => ?_, fun hcore0 => ?_, fun hap => ?_⟩
    · have hsame := hexclusive.1 .core0 .ap hboth.1 hboth.2
      cases hsame
    · exact beq_iff_eq.mp (hexclusive.2 .core0 hcore0)
    · exact beq_iff_eq.mp (hexclusive.2 .ap hap)

theorem lockStep_keep {s t : Pair} (hlock : t.context.lock = s.context.lock)
    (hcore0 : t.core0.pc.holds = s.core0.pc.holds)
    (hap : t.ap.pc.holds = s.ap.pc.holds) : Step s.lockState .keep t.lockState := by
  have hsame : t.lockState = s.lockState := lockState_eq (by rw [hlock]) hcore0 hap
  rw [hsame]
  exact .keep _

theorem lockStep_acquire {s t : Pair} {party : Party} (hfree : s.context.lock = 0)
    (houtside : s.lockState.inside party = false) (hlock : t.context.lock = 1)
    (hcore0 : t.core0.pc.holds = Function.update s.lockState.inside party true .core0)
    (hap : t.ap.pc.holds = Function.update s.lockState.inside party true .ap) :
    Step s.lockState (.acquire party) t.lockState := by
  have hsame : t.lockState = ⟨true, Function.update s.lockState.inside party true⟩ :=
    lockState_eq (by simp [hlock]) hcore0 hap
  rw [hsame]
  exact .acquire (by simp [lockState, hfree]) houtside

theorem lockStep_release {s t : Pair} {party : Party}
    (hinside : s.lockState.inside party = true) (hlock : t.context.lock = 0)
    (hcore0 : t.core0.pc.holds = Function.update s.lockState.inside party false .core0)
    (hap : t.ap.pc.holds = Function.update s.lockState.inside party false .ap) :
    Step s.lockState (.release party) t.lockState := by
  have hsame : t.lockState = ⟨false, Function.update s.lockState.inside party false⟩ :=
    lockState_eq (by simp [hlock]) hcore0 hap
  rw [hsame]
  exact .release hinside

theorem lockStep_handOver {s t : Pair} (hinside : s.lockState.inside .core0 = true)
    (hlock : t.context.lock = s.context.lock) (hcore0 : t.core0.pc.holds = false)
    (hap : t.ap.pc.holds = true) :
    Step s.lockState (.handOver .core0 .ap) t.lockState := by
  have hsame : t.lockState = ⟨s.lockState.taken,
      Function.update (Function.update s.lockState.inside .core0 false) .ap true⟩ :=
    lockState_eq (by rw [hlock]; rfl) hcore0 hap
  rw [hsame]
  exact .handOver nofun hinside

/-- The second operation of `unlock_context`, executed by a party that no
longer holds the lock. -/
theorem lockStep_clear {s t : Pair} {party : Party}
    (houtside : s.lockState.inside party = false)
    (hlock : t.context.lock = (compareExchange s.context 1 0).2.lock)
    (hcore0 : t.core0.pc.holds = s.core0.pc.holds)
    (hap : t.ap.pc.holds = s.ap.pc.holds) :
    Step s.lockState (.forceFree party) t.lockState := by
  have hsame : t.lockState = ⟨false, s.lockState.inside⟩ := by
    refine lockState_eq ?_ hcore0 hap
    by_cases htaken : s.context.lock = 1
    · simp [hlock, compareExchange, htaken]
    · simp [hlock, compareExchange, htaken]
  rw [hsame]
  exact .forceFree houtside

theorem harmless_clear {s : Pair} {party : Party} :
    Harmless s.lockState (.forceFree party) ↔ s.context.lock ≠ 1 := by
  simp [Harmless, lockState]

/-- Every step of core 0 is an action on the lock, harmless exactly if it is
not the compare-exchange that frees somebody else's lock. -/
theorem core0_lockStep {mode : UnlockMode} {choice : Core0Choice} {s t : Pair}
    (hs : s.OfProcessor) (hstep : s.core0Step mode choice = some t) :
    ∃ action, Step s.lockState action t.lockState ∧
      (Harmless s.lockState action ↔ s.CleanUnlock (.core0 choice)) := by
  by_cases hclear : s.core0.pc.unlocking = true
  · obtain ⟨next, hpc⟩ := Core0Pc.unlocking_iff.mp hclear
    unfold core0Step at hstep
    rw [hpc] at hstep
    cases choice
    all_goals simp only [reduceCtorEq, Option.some.injEq] at hstep
    subst hstep
    have houtside : s.lockState.inside .core0 = false := by simp [lockState, hpc, Core0Pc.holds]
    refine ⟨.forceFree .core0, lockStep_clear houtside rfl ?_ rfl, ?_⟩
    · rw [hpc]
      exact next.holds_pc _
    · simp [harmless_clear, CleanUnlock, hclear]
  · have hclean : s.CleanUnlock (.core0 choice) := fun hagain => absurd hagain hclear
    simp only [hclean, iff_true]
    cases core0Effect hs.coreId hs.phase hstep with
    | request request hpc =>
        refine ⟨.keep, lockStep_keep ?_ ?_ ?_, trivial⟩
        all_goals cases request <;> first | rfl | (rw [hpc]; rfl)
    | look hphase hholds => exact ⟨.keep, lockStep_keep rfl hholds rfl, trivial⟩
    | acquire hfree hbefore hafter =>
        exact ⟨.acquire .core0, lockStep_acquire hfree hbefore rfl hafter rfl, trivial⟩
    | release hbefore hafter =>
        exact ⟨.release .core0, lockStep_release hbefore rfl hafter rfl, trivial⟩
    | clear hpc => exact absurd (Core0Pc.unlocking_iff.mpr ⟨_, hpc⟩) hclear
    | handOver rsp hpc =>
        have hinside : s.lockState.inside .core0 = true := by
          simp [lockState, hpc, Core0Pc.holds]
        exact ⟨.handOver .core0 .ap, lockStep_handOver hinside rfl rfl rfl, trivial⟩
    | checkStart hpc => exact ⟨.keep, lockStep_keep rfl (by rw [hpc]; rfl) rfl, trivial⟩
    | busy hphase hholds => exact ⟨.keep, lockStep_keep rfl hholds.symm rfl, trivial⟩
    | refuse hphase hholds => exact ⟨.keep, lockStep_keep rfl hholds.symm rfl, trivial⟩
    | @write write rest hpc =>
        refine ⟨.keep, lockStep_keep ?_ (by rw [hpc]; rfl) rfl, trivial⟩
        cases write <;> rfl
    | reply hphase hholds => exact ⟨.keep, lockStep_keep rfl hholds.symm rfl, trivial⟩
    | elsewhere stack hpc => exact ⟨.keep, lockStep_keep rfl rfl rfl, trivial⟩
    | check hpc => exact ⟨.keep, lockStep_keep rfl (by rw [hpc]; rfl) rfl, trivial⟩
    | fill hpc => exact ⟨.keep, lockStep_keep rfl (by rw [hpc]; rfl) rfl, trivial⟩
    | queue hpc => exact ⟨.keep, lockStep_keep rfl (by rw [hpc]; rfl) rfl, trivial⟩
    | finish hpc => exact ⟨.keep, lockStep_keep rfl (by rw [hpc]; rfl) rfl, trivial⟩
    | readFlag hpc => exact ⟨.keep, lockStep_keep rfl (by rw [hpc]; rfl) rfl, trivial⟩
    | timeOut hpc => exact ⟨.keep, lockStep_keep rfl (by rw [hpc]; rfl) rfl, trivial⟩
    | giveUp hpc => exact ⟨.keep, lockStep_keep rfl (by rw [hpc]; rfl) rfl, trivial⟩
    | allocateFaultInfo hpc =>
        exact ⟨.keep, lockStep_keep rfl (by rw [hpc]; rfl) rfl, trivial⟩
    | setCr3 value hpc => exact ⟨.keep, lockStep_keep rfl (by rw [hpc]; rfl) rfl, trivial⟩

/-- The same for the processor. -/
theorem ap_lockStep {mode : UnlockMode} {choice : ApChoice} {s t : Pair}
    (hstep : s.apStep mode choice = some t) :
    ∃ action, Step s.lockState action t.lockState ∧
      (Harmless s.lockState action ↔ s.CleanUnlock (.ap choice)) := by
  by_cases hclear : s.ap.pc.unlocking = true
  · have hpc := ApPc.unlocking_iff.mp hclear
    unfold apStep at hstep
    rw [hpc] at hstep
    cases choice
    all_goals simp only [reduceCtorEq, Option.some.injEq] at hstep
    subst hstep
    have houtside : s.lockState.inside .ap = false := by simp [lockState, hpc, ApPc.holds]
    refine ⟨.forceFree .ap, lockStep_clear houtside rfl rfl (by rw [hpc]; rfl), ?_⟩
    simp [harmless_clear, CleanUnlock, hclear]
  · have hclean : s.CleanUnlock (.ap choice) := fun hagain => absurd hagain hclear
    simp only [hclean, iff_true]
    cases apEffect hstep with
    | look hsame hphase hoff hholds =>
        exact ⟨.keep, lockStep_keep hsame.lock rfl hholds, trivial⟩
    | acquire hpc hfree =>
        have houtside : s.lockState.inside .ap = false := by
          simp [lockState, hpc, ApPc.holds]
        exact ⟨.acquire .ap, lockStep_acquire hfree houtside rfl rfl rfl, trivial⟩
    | @release pc hpc hafter =>
        have hinside : s.lockState.inside .ap = true := by simp [lockState, hpc, ApPc.holds]
        have houtside : pc.holds = false := by rcases hafter with rfl | rfl <;> rfl
        exact ⟨.release .ap, lockStep_release hinside rfl rfl houtside, trivial⟩
    | clear hpc => exact absurd (ApPc.unlocking_iff.mpr hpc) hclear
    | storeFault hbefore hafter hholds =>
        exact ⟨.keep, lockStep_keep rfl rfl hholds, trivial⟩
    | compute hpc hsame =>
        exact ⟨.keep, lockStep_keep hsame.lock rfl (by rw [hpc]; rfl), trivial⟩
    | take hpc => exact ⟨.keep, lockStep_keep rfl rfl (by rw [hpc]; rfl), trivial⟩
    | clearQueued hpc => exact ⟨.keep, lockStep_keep rfl rfl (by rw [hpc]; rfl), trivial⟩
    | accept hpc => exact ⟨.keep, lockStep_keep rfl rfl (by rw [hpc]; rfl), trivial⟩
    | own hpc => exact ⟨.keep, lockStep_keep rfl rfl (by rw [hpc]; rfl), trivial⟩
    | zero hpc => exact ⟨.keep, lockStep_keep rfl rfl (by rw [hpc]; rfl), trivial⟩
    | recordFault hpc => exact ⟨.keep, lockStep_keep rfl rfl (by rw [hpc]; rfl), trivial⟩
    | endReturn hpc => exact ⟨.keep, lockStep_keep rfl rfl (by rw [hpc]; rfl), trivial⟩
    | endRecovery hpc => exact ⟨.keep, lockStep_keep rfl rfl (by rw [hpc]; rfl), trivial⟩

theorem lockStep {mode : UnlockMode} {label : Label} {s t : Pair} (hs : s.OfProcessor)
    (hstep : Pair.step mode label s = some t) :
    ∃ action, Step s.lockState action t.lockState ∧
      (Harmless s.lockState action ↔ s.CleanUnlock label) := by
  cases label with
  | core0 choice => exact core0_lockStep hs hstep
  | ap choice => exact ap_lockStep hstep

/-- The lock is taken for exactly one party or for nobody. -/
structure LockInvariant (s : Pair) : Prop where
  ofProcessor : s.OfProcessor
  owned : Owned s.lockState

theorem Booted.lockInvariant {s : Pair} (hbooted : s.Booted) : s.LockInvariant := by
  obtain ⟨result, hpc⟩ := hbooted.core0
  have hfree : s.lockState = ⟨false, fun _ => false⟩ := by
    apply lockState_eq
    · simp [hbooted.lock]
    · rw [hpc]
      rfl
    · rw [hbooted.ap]
      rfl
  refine ⟨hbooted.ofProcessor, ?_⟩
  rw [hfree]
  exact ⟨⟨by simp, by simp⟩, by simp⟩

/-- Steps that do not free the other party's lock keep the lock invariant. -/
theorem LockInvariant.step {mode : UnlockMode} {label : Label} {s t : Pair}
    (hlock : s.LockInvariant) (hclean : s.CleanUnlock label)
    (hstep : Pair.step mode label s = some t) : t.LockInvariant := by
  obtain ⟨action, haction, hharmless⟩ := lockStep hlock.ofProcessor hstep
  exact ⟨hlock.ofProcessor.step hstep, hlock.owned.step haction (hharmless.mpr hclean)⟩

theorem LockInvariant.mutualExclusion {s : Pair} (hlock : s.LockInvariant) :
    s.MutualExclusion :=
  mutualExclusion_iff.mpr hlock.owned.1

/-- The one step that breaks mutual exclusion. -/
theorem LockInvariant.not_mutualExclusion {mode : UnlockMode} {label : Label} {s t : Pair}
    (hlock : s.LockInvariant) (hclean : ¬ s.CleanUnlock label)
    (hstep : Pair.step mode label s = some t) : ¬ t.MutualExclusion := by
  obtain ⟨action, haction, hharmless⟩ := lockStep hlock.ofProcessor hstep
  have hharmful := fun h => hclean (hharmless.mp h)
  intro hmutual
  exact hlock.owned.not_exclusive_of_step haction hharmful (mutualExclusion_iff.mp hmutual)

/-- A run keeps mutual exclusion exactly if no `unlock_context` in it frees a
lock that the other party has taken since the store. -/
theorem mutualExclusion_iff_cleanUnlock {past : List (Pair × Label)} {s : Pair}
    (hrun : Run Booted (Pair.step .twoStep) past s) :
    Always MutualExclusion past s ↔ EachStep CleanUnlock past :=
  hrun.always_iff_eachStep (fun _ hbooted => hbooted.lockInvariant)
    (fun _ _ _ hlock hclean hstep => hlock.step hclean hstep)
    (fun _ hlock => hlock.mutualExclusion)
    (fun _ _ _ hlock hclean hstep => hlock.not_mutualExclusion hclean hstep)

theorem mutualExclusion_iff_cleanUnlock_startUp :
    ∃ past t, exec (Pair.step .twoStep) startUp (afterInit 1) = some t ∧
      Run Booted (Pair.step .twoStep) past t ∧
      (Always MutualExclusion past t ↔ EachStep CleanUnlock past) := by
  obtain ⟨t, hexec⟩ : ∃ t, exec (Pair.step .twoStep) startUp (afterInit 1) = some t :=
    ⟨_, rfl⟩
  obtain ⟨past, hrun⟩ := run_of_exec (booted_afterInit one_ne_zero) startUp hexec
  exact ⟨past, t, hexec, hrun, mutualExclusion_iff_cleanUnlock hrun⟩

/-- Between the two operations of the processor's release core 0 takes the lock
for a job, and the compare-exchange frees it. -/
def releasedTwice : List Label :=
  startUp ++
    [.core0 (.request (.job (.executeMachineCode 0 0))), .core0 .next, .core0 .next,
      .core0 .next, .ap .next]

theorem not_mutualExclusion_releasedTwice :
    ∃ past t, exec (Pair.step .twoStep) releasedTwice (afterInit 1) = some t ∧
      Run Booted (Pair.step .twoStep) past t ∧ ¬ t.MutualExclusion := by
  obtain ⟨t, hexec, hholds, hlock⟩ :
      ∃ t, exec (Pair.step .twoStep) releasedTwice (afterInit 1) = some t ∧
        t.core0.pc.holds = true ∧ t.context.lock = 0 := ⟨_, rfl, rfl, rfl⟩
  obtain ⟨past, hrun⟩ := run_of_exec (booted_afterInit one_ne_zero) releasedTwice hexec
  refine ⟨past, t, hexec, hrun, fun hmutual => ?_⟩
  have htaken := hmutual.core0 hholds
  simp [hlock] at htaken

end Pair

end AngryUefi
