import Mathlib.Control.Basic
import Mathlib.Order.Defs.Unbundled

/-!
# Programs over a state and an environment

A program reads an environment that it does not change, changes a state, and
may fail to return.  What a program does to the state is stated as a preorder
between the state before and the state after, so that guarantees compose along
the program's text.
-/

namespace AngryUefi.Programs

/-- A program that returns nothing does not return. -/
abbrev Program (Environment State Result : Type) :=
  ReaderT Environment (StateT State Option) Result

variable {Environment State Result Next : Type}

/-- Every run that returns relates the state before to the state after. -/
def Guarantees (environment : Environment) (relation : State → State → Prop)
    (program : Program Environment State Result) : Prop :=
  ∀ s result t, program environment s = some (result, t) → relation s t

/-- From every state, the run returns. -/
def Completes (environment : Environment)
    (program : Program Environment State Result) : Prop :=
  ∀ s, ∃ result t, program environment s = some (result, t)

/-- From such a state, the run returns. -/
def CompletesFrom (environment : Environment) (initial : State → Prop)
    (program : Program Environment State Result) : Prop :=
  ∀ s, initial s → ∃ result t, program environment s = some (result, t)

/-- Every run that returns has such a result. -/
def Returns (environment : Environment) (property : Result → Prop)
    (program : Program Environment State Result) : Prop :=
  ∀ s result t, program environment s = some (result, t) → property result

theorem bind_eq_some_iff {program : Program Environment State Result}
    {next : Result → Program Environment State Next} {environment : Environment}
    {s t : State} {result : Next} :
    (program >>= next) environment s = some (result, t) ↔
      ∃ first middle, program environment s = some (first, middle) ∧
        next first environment middle = some (result, t) := by
  change (program environment s >>= fun pair => next pair.1 environment pair.2) = _ ↔ _
  rw [Option.bind_eq_bind, Option.bind_eq_some_iff]
  simp

/-- The rest of a program runs from where its first part ended. -/
theorem bind_of_eq_some {program : Program Environment State Result}
    {environment : Environment} {s middle : State} {first : Result}
    (hfirst : program environment s = some (first, middle))
    (next : Result → Program Environment State Next) :
    (program >>= next) environment s = next first environment middle := by
  change (program environment s >>= fun pair => next pair.1 environment pair.2) = _
  rw [hfirst]
  rfl

namespace Completes

variable {environment : Environment}

theorem pure (result : Result) :
    Completes environment (pure result : Program Environment State Result) :=
  fun s => ⟨result, s, rfl⟩

theorem get : Completes environment (get : Program Environment State State) :=
  fun s => ⟨s, s, rfl⟩

theorem read : Completes environment (read : Program Environment State Environment) :=
  fun s => ⟨environment, s, rfl⟩

theorem modify (change : State → State) :
    Completes environment (modify change : Program Environment State PUnit) :=
  fun s => ⟨⟨⟩, change s, rfl⟩

theorem bind {program : Program Environment State Result}
    {next : Result → Program Environment State Next}
    (hprogram : Completes environment program)
    (hnext : ∀ result, Completes environment (next result)) :
    Completes environment (program >>= next) := by
  intro s
  obtain ⟨first, middle, hfirst⟩ := hprogram s
  obtain ⟨result, t, hrest⟩ := hnext first middle
  exact ⟨result, t, bind_eq_some_iff.mpr ⟨first, middle, hfirst, hrest⟩⟩

/-- A program that always returns does so from some states. -/
theorem from_initial {program : Program Environment State Result}
    (hprogram : Completes environment program) (initial : State → Prop) :
    CompletesFrom environment initial program :=
  fun s _ => hprogram s

end Completes

/-- One program after the other, where the first leads to a state that the second
returns from. -/
theorem CompletesFrom.bind {environment : Environment} {initial : State → Prop}
    {program : Program Environment State Result}
    {next : Result → Program Environment State Next}
    (hprogram : CompletesFrom environment initial program)
    (hkept : Guarantees environment (fun s t => initial s → initial t) program)
    (hnext : ∀ result, CompletesFrom environment initial (next result)) :
    CompletesFrom environment initial (program >>= next) := by
  intro s hinitial
  obtain ⟨first, middle, hfirst⟩ := hprogram s hinitial
  obtain ⟨result, t, hrest⟩ := hnext first middle (hkept s first middle hfirst hinitial)
  exact ⟨result, t, bind_eq_some_iff.mpr ⟨first, middle, hfirst, hrest⟩⟩

namespace Returns

variable {environment : Environment} {property : Next → Prop}

theorem pure {result : Next} (hresult : property result) :
    Returns environment property (pure result : Program Environment State Next) := by
  rintro s _ t ⟨⟩
  exact hresult

theorem read : Returns environment (· = environment)
    (read : Program Environment State Environment) := by
  rintro s _ t ⟨⟩
  rfl

theorem bind_of_returns {known : Result → Prop} {program : Program Environment State Result}
    {next : Result → Program Environment State Next}
    (hprogram : Returns environment known program)
    (hnext : ∀ result, known result → Returns environment property (next result)) :
    Returns environment property (program >>= next) := by
  intro s result t hrun
  obtain ⟨first, middle, hfirst, hrest⟩ := bind_eq_some_iff.mp hrun
  exact hnext first (hprogram s first middle hfirst) middle result t hrest

theorem bind {program : Program Environment State Result}
    {next : Result → Program Environment State Next}
    (hnext : ∀ result, Returns environment property (next result)) :
    Returns environment property (program >>= next) :=
  bind_of_returns (fun _ _ _ _ => trivial) fun result _ => hnext result

end Returns

namespace Guarantees

variable {environment : Environment} {relation : State → State → Prop}

theorem mono {weaker : State → State → Prop}
    {program : Program Environment State Result}
    (hprogram : Guarantees environment relation program)
    (himplies : ∀ s t, relation s t → weaker s t) :
    Guarantees environment weaker program :=
  fun s result t hrun => himplies s t (hprogram s result t hrun)

theorem failure :
    Guarantees environment relation (failure : Program Environment State Result) :=
  nofun

theorem modify {change : State → State} (hchange : ∀ s, relation s (change s)) :
    Guarantees environment relation
      (modify change : Program Environment State PUnit) := by
  rintro s _ t ⟨⟩
  exact hchange s

variable [IsPreorder State relation]

theorem pure (result : Result) :
    Guarantees environment relation (pure result : Program Environment State Result) := by
  rintro s _ t ⟨⟩
  exact refl_of relation s

theorem get : Guarantees environment relation (get : Program Environment State State) := by
  rintro s _ t ⟨⟩
  exact refl_of relation s

theorem read :
    Guarantees environment relation (read : Program Environment State Environment) := by
  rintro s _ t ⟨⟩
  exact refl_of relation s

/-- One program after the other, which may rely on the result of the first. -/
theorem bind_of_returns {known : Result → Prop} {program : Program Environment State Result}
    {next : Result → Program Environment State Next}
    (hprogram : Guarantees environment relation program)
    (hreturns : Returns environment known program)
    (hnext : ∀ result, known result → Guarantees environment relation (next result)) :
    Guarantees environment relation (program >>= next) := by
  intro s result t hrun
  obtain ⟨first, middle, hfirst, hrest⟩ := bind_eq_some_iff.mp hrun
  have hknown := hreturns s first middle hfirst
  exact trans_of relation (hprogram s first middle hfirst)
    (hnext first hknown middle result t hrest)

/-- One program after the other. -/
theorem bind {program : Program Environment State Result}
    {next : Result → Program Environment State Next}
    (hprogram : Guarantees environment relation program)
    (hnext : ∀ result, Guarantees environment relation (next result)) :
    Guarantees environment relation (program >>= next) :=
  bind_of_returns hprogram (fun _ _ _ _ => trivial) fun result _ => hnext result

/-- Where the rest of a program begins that does something first, or does not. -/
theorem before_rest {condition : Prop} [Decidable condition]
    {program : Program Environment State Unit} {next : Unit → Program Environment State Next}
    {s t : State} {result : Next} (hprogram : Guarantees environment relation program)
    (hrun : (if condition then program >>= next else next ()) environment s = some (result, t)) :
    ∃ middle, relation s middle ∧ next () environment middle = some (result, t) := by
  split at hrun
  · obtain ⟨_, middle, hfirst, hrest⟩ := bind_eq_some_iff.mp hrun
    exact ⟨middle, hprogram s _ middle hfirst, hrest⟩
  · exact ⟨s, refl_of relation s, hrun⟩

end Guarantees

end AngryUefi.Programs
