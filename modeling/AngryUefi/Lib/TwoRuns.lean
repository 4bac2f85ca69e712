import AngryUefi.Lib.Program

/-!
# Two runs of one program

What a program returns and how it leaves a state may be independent of a part
of the state.  Runs from two related states are followed side by side: they
return the same result, in related states again.
-/

namespace AngryUefi.Programs

variable {Environment State Result Next : Type}

/-- Whenever one run returns, so does the other, with the same result. -/
def Couples (environment : Environment) (before : State → State → Prop)
    (after : Result → State → State → Prop) (program : Program Environment State Result) :
    Prop :=
  ∀ s t, before s t → ∀ result s', program environment s = some (result, s') →
    ∃ t', program environment t = some (result, t') ∧ after result s' t'

namespace Couples

variable {environment : Environment} {before : State → State → Prop}

theorem weaken {stronger : State → State → Prop} {after weaker : Result → State → State → Prop}
    {program : Program Environment State Result}
    (hprogram : Couples environment before after program)
    (hbefore : ∀ s t, stronger s t → before s t)
    (hafter : ∀ result s t, after result s t → weaker result s t) :
    Couples environment stronger weaker program := by
  intro s t hstart result s' hrun
  obtain ⟨t', hother, hend⟩ := hprogram s t (hbefore s t hstart) result s' hrun
  exact ⟨t', hother, hafter result s' t' hend⟩

theorem pure {after : Result → State → State → Prop} {result : Result}
    (hafter : ∀ s t, before s t → after result s t) :
    Couples environment before after (pure result : Program Environment State Result) := by
  rintro s t hstart _ s' ⟨⟩
  exact ⟨t, rfl, hafter s t hstart⟩

theorem failure {after : Result → State → State → Prop} :
    Couples environment before after (failure : Program Environment State Result) := by
  rintro s t _ result s' ⟨⟩

theorem modify {after : PUnit → State → State → Prop} {change : State → State}
    (hchange : ∀ s t, before s t → after ⟨⟩ (change s) (change t)) :
    Couples environment before after
      (modify change : Program Environment State PUnit) := by
  rintro s t hstart _ s' ⟨⟩
  exact ⟨change t, rfl, hchange s t hstart⟩

theorem bind {middle : Result → State → State → Prop} {after : Next → State → State → Prop}
    {program : Program Environment State Result}
    {next : Result → Program Environment State Next}
    (hprogram : Couples environment before middle program)
    (hnext : ∀ result, Couples environment (middle result) after (next result)) :
    Couples environment before after (program >>= next) := by
  intro s t hstart result s' hrun
  obtain ⟨first, between, hfirst, hrest⟩ := bind_eq_some_iff.mp hrun
  obtain ⟨other, hother, hmiddle⟩ := hprogram s t hstart first between hfirst
  obtain ⟨t', hlast, hend⟩ := hnext first between other hmiddle result s' hrest
  exact ⟨t', bind_eq_some_iff.mpr ⟨first, other, hother, hlast⟩, hend⟩

theorem read_bind {after : Next → State → State → Prop}
    {next : Environment → Program Environment State Next}
    (hnext : Couples environment before after (next environment)) :
    Couples environment before after (read >>= next) :=
  fun s t hstart => hnext s t hstart

/-- The program looks only at a part of the state that is the same. -/
theorem get_bind {after : Next → State → State → Prop}
    {next : State → Program Environment State Next}
    (hsame : ∀ s t, before s t → next t = next s)
    (hnext : ∀ s t, before s t → Couples environment before after (next s)) :
    Couples environment before after (get >>= next) := by
  intro s t hstart result s' hrun
  obtain ⟨t', hother, hend⟩ := hnext s t hstart s t hstart result s' hrun
  rw [← hsame s t hstart] at hother
  exact ⟨t', hother, hend⟩

/-- What is known besides. -/
theorem of_fact {fact : Prop} {after : Result → State → State → Prop}
    {program : Program Environment State Result}
    (hprogram : fact → Couples environment before after program) :
    Couples environment (fun s t => fact ∧ before s t) after program := by
  rintro s t ⟨hfact, hstart⟩
  exact hprogram hfact s t hstart

end Couples

end AngryUefi.Programs
