import Mathlib.Data.List.Basic

/-!
# Runs of labelled transition systems

A system is a partial step function: a label names the party that moves and
the choices its environment makes, and `none` means that the label is not
enabled.  A run keeps every state it left together with the label it left it
by, so that a statement can speak about every state reached and about every
step taken.
-/

namespace AngryUefi.Transition

variable {State Label : Type*}

/-- Finite runs.  `past` lists the states left so far with the label taken
there, most recent first. -/
inductive Run (initial : State → Prop) (step : Label → State → Option State) :
    List (State × Label) → State → Prop
  | start {s : State} (hinitial : initial s) : Run initial step [] s
  | next {past : List (State × Label)} {s t : State} {label : Label}
      (hrun : Run initial step past s) (hstep : step label s = some t) :
      Run initial step ((s, label) :: past) t

/-- A property of every state a run went through. -/
def Always (property : State → Prop) (past : List (State × Label))
    (current : State) : Prop :=
  property current ∧ ∀ entry ∈ past, property entry.1

/-- A condition on every step a run took. -/
def EachStep (condition : State → Label → Prop)
    (past : List (State × Label)) : Prop :=
  ∀ entry ∈ past, condition entry.1 entry.2

/-- A relation between the states before and after every step of a run. -/
def EachMove (relation : State → State → Prop) : List (State × Label) → State → Prop
  | [], _ => True
  | (s, _) :: past, t => relation s t ∧ EachMove relation past s

variable {initial : State → Prop} {step : Label → State → Option State}
variable {property invariant : State → Prop}
variable {condition : State → Label → Prop}
variable {past : List (State × Label)} {current : State}

@[simp]
theorem eachStep_nil : EachStep condition ([] : List (State × Label)) := by
  simp [EachStep]

@[simp]
theorem eachStep_cons {s : State} {label : Label} :
    EachStep condition ((s, label) :: past) ↔
      condition s label ∧ EachStep condition past := by
  simp [EachStep]

theorem EachStep.mono {stronger weaker : State → Label → Prop}
    (himplies : ∀ s label, stronger s label → weaker s label)
    (heach : EachStep stronger past) : EachStep weaker past :=
  fun entry hentry => himplies entry.1 entry.2 (heach entry hentry)

theorem always_cons {s t : State} {label : Label} :
    Always property ((s, label) :: past) t ↔
      property t ∧ Always property past s := by
  simp [Always]

theorem Always.mono {stronger weaker : State → Prop}
    (himplies : ∀ s, stronger s → weaker s)
    (halways : Always stronger past current) : Always weaker past current :=
  ⟨himplies _ halways.1, fun entry hentry =>
    himplies _ (halways.2 entry hentry)⟩

/-- The induction rule: an invariant that the condition's steps keep holds in
every state of a run that takes such steps only. -/
theorem Run.always (hrun : Run initial step past current)
    (hinitial : ∀ s, initial s → invariant s)
    (hkeeps : ∀ s label t, invariant s → condition s label →
      step label s = some t → invariant t)
    (heach : EachStep condition past) : Always invariant past current := by
  induction hrun with
  | start hstart => exact ⟨hinitial _ hstart, by simp⟩
  | next hearlier hstep ih =>
      rw [eachStep_cons] at heach
      have hbefore := ih heach.2
      exact always_cons.mpr
        ⟨hkeeps _ _ _ hbefore.1 heach.1 hstep, hbefore⟩

/-- The induction rule for an invariant that every step keeps. -/
theorem Run.always_of_step (hrun : Run initial step past current)
    (hinitial : ∀ s, initial s → invariant s)
    (hkeeps : ∀ s label t, invariant s → step label s = some t → invariant t) :
    Always invariant past current :=
  have heach : EachStep (fun _ _ => True) past := by simp [EachStep]
  hrun.always hinitial
    (fun s label t hinvariant _ => hkeeps s label t hinvariant) heach

/-- The induction rule for an invariant that speaks of what was observed of the
steps so far, the last one first. -/
theorem Run.observed {Observation : Type*} {observe : Label → Option Observation}
    {invariant : List Observation → State → Prop} (hrun : Run initial step past current)
    (hinitial : ∀ s, initial s → invariant [] s)
    (hkeeps : ∀ seen s label t, invariant seen s → condition s label →
      step label s = some t → invariant ((observe label).toList ++ seen) t)
    (heach : EachStep condition past) :
    invariant (past.filterMap fun entry => observe entry.2) current := by
  induction hrun with
  | start hstart => exact hinitial _ hstart
  | next hearlier hstep ih =>
      rw [eachStep_cons] at heach
      have hafter := hkeeps _ _ _ _ (ih heach.2) heach.1 hstep
      rw [List.filterMap_cons]
      split
      · rename_i hnone
        rwa [hnone] at hafter
      · rename_i hsome
        rwa [hsome] at hafter

/-- Every step from the invariant makes a move of the relation. -/
theorem Run.eachMove {relation : State → State → Prop}
    (hrun : Run initial step past current)
    (hinitial : ∀ s, initial s → invariant s)
    (hkeeps : ∀ s label t, invariant s → condition s label →
      step label s = some t → invariant t)
    (hmoves : ∀ s label t, invariant s → condition s label →
      step label s = some t → relation s t)
    (heach : EachStep condition past) : EachMove relation past current := by
  induction hrun with
  | start hstart => trivial
  | next hearlier hstep ih =>
      rw [eachStep_cons] at heach
      have hbefore := (hearlier.always hinitial hkeeps heach.2).1
      exact ⟨hmoves _ _ _ hbefore heach.1 hstep, ih heach.2⟩

/-- The rule for termination: where the condition's steps decrease a measure, a
run that takes such steps only has no more of them than the measure allows. -/
theorem Run.length_le {measure : State → ℕ} {bound : ℕ}
    (hrun : Run initial step past current)
    (hinitial : ∀ s, initial s → measure s ≤ bound)
    (hdecreases : ∀ s label t, condition s label → step label s = some t →
      measure t < measure s)
    (heach : EachStep condition past) : past.length + measure current ≤ bound := by
  induction hrun with
  | start hstart =>
      rw [List.length_nil, Nat.zero_add]
      exact hinitial _ hstart
  | next hearlier hstep ih =>
      rw [eachStep_cons] at heach
      have hbefore := ih heach.2
      have hless := hdecreases _ _ _ heach.1 hstep
      rw [List.length_cons]
      omega

/-- How many of the steps of a run one party took. -/
def turns (own : Label → Bool) (past : List (State × Label)) : ℕ :=
  past.countP fun entry => own entry.2

/-- The rule for waiting: where a party's own steps decrease a measure and the
others do not increase it, the party takes no more steps than the measure
allows, however often the others move. -/
theorem Run.turns_le {own : Label → Bool} {measure : State → ℕ} {bound : ℕ}
    (hrun : Run initial step past current)
    (hinitial : ∀ s, initial s → invariant s ∧ measure s ≤ bound)
    (hkeeps : ∀ s label t, invariant s → condition s label →
      step label s = some t → invariant t)
    (hown : ∀ s label t, invariant s → condition s label → own label = true →
      step label s = some t → measure t < measure s)
    (hothers : ∀ s label t, invariant s → condition s label → own label = false →
      step label s = some t → measure t ≤ measure s)
    (heach : EachStep condition past) : turns own past + measure current ≤ bound := by
  induction hrun with
  | start hstart =>
      rw [turns, List.countP_nil, Nat.zero_add]
      exact (hinitial _ hstart).2
  | @next past s t label hearlier hstep ih =>
      rw [eachStep_cons] at heach
      have hbefore := ih heach.2
      have hinvariant : invariant s :=
        (hearlier.always (fun s hs => (hinitial s hs).1) hkeeps heach.2).1
      cases hlabel : own label with
      | true =>
          have hless := hown _ _ _ hinvariant heach.1 hlabel hstep
          simp only [turns, List.countP_cons, hlabel, if_true] at hbefore ⊢
          omega
      | false =>
          have hle := hothers _ _ _ hinvariant heach.1 hlabel hstep
          simp only [turns, List.countP_cons, hlabel, Bool.false_eq_true, if_false] at hbefore ⊢
          omega

/-- The rule for waiting, for a step lemma that speaks of both kinds of steps. -/
theorem Run.turns_add_le {own : Label → Bool} {measure : State → ℕ} {bound : ℕ}
    (hrun : Run initial step past current)
    (hinitial : ∀ s, initial s → invariant s ∧ measure s ≤ bound)
    (hmoves : ∀ s label t, invariant s → condition s label → step label s = some t →
      invariant t ∧ measure t + (if own label then 1 else 0) ≤ measure s)
    (heach : EachStep condition past) :
    invariant current ∧ turns own past + measure current ≤ bound := by
  constructor
  · exact (hrun.always (fun s hs => (hinitial s hs).1)
      (fun s label t hinvariant hcondition hstep =>
        (hmoves s label t hinvariant hcondition hstep).1) heach).1
  · refine hrun.turns_le hinitial
      (fun s label t hinvariant hcondition hstep =>
        (hmoves s label t hinvariant hcondition hstep).1) ?_ ?_ heach
    · intro s label t hinvariant hcondition hown hstep
      have hless := (hmoves s label t hinvariant hcondition hstep).2
      rw [if_pos hown] at hless
      omega
    · intro s label t hinvariant hcondition hother hstep
      have hle := (hmoves s label t hinvariant hcondition hstep).2
      omega

/-- The rule for divergence: where the invariant always allows another of the
condition's steps, each adding one to a cost, a run goes on for any cost. -/
theorem Run.exists_extension {cost : State → ℕ} (hrun : Run initial step past current)
    (hcurrent : invariant current)
    (hprogress : ∀ s, invariant s → ∃ label t, condition s label ∧ step label s = some t ∧
      invariant t ∧ cost t = cost s + 1) (count : ℕ) :
    ∃ steps t, EachStep condition steps ∧ Run initial step (steps ++ past) t ∧ invariant t ∧
      cost t = cost current + count := by
  induction count with
  | zero => exact ⟨[], current, eachStep_nil, hrun, hcurrent, rfl⟩
  | succ count ih =>
      obtain ⟨steps, s, heach, hreached, hinvariant, hcost⟩ := ih
      obtain ⟨label, t, hcondition, hstep, hnext, hmore⟩ := hprogress s hinvariant
      refine ⟨(s, label) :: steps, t, eachStep_cons.mpr ⟨hcondition, heach⟩,
        hreached.next hstep, hnext, ?_⟩
      rw [hmore, hcost, Nat.add_assoc]

/-- The exact-condition rule.  If the condition's steps keep an invariant that
implies the property, and any other step from the invariant breaks the
property, then a run satisfies the property throughout exactly when all its
steps meet the condition. -/
theorem Run.always_iff_eachStep (hrun : Run initial step past current)
    (hinitial : ∀ s, initial s → invariant s)
    (hkeeps : ∀ s label t, invariant s → condition s label →
      step label s = some t → invariant t)
    (himplies : ∀ s, invariant s → property s)
    (hbreaks : ∀ s label t, invariant s → ¬ condition s label →
      step label s = some t → ¬ property t) :
    Always property past current ↔ EachStep condition past := by
  constructor
  · intro halways
    induction hrun with
    | start hstart => simp
    | next hearlier hstep ih =>
        rw [always_cons] at halways
        have heach := ih halways.2
        have hbefore := (hearlier.always hinitial hkeeps heach).1
        refine eachStep_cons.mpr ⟨?_, heach⟩
        by_contra hcondition
        exact hbreaks _ _ _ hbefore hcondition hstep halways.1
  · intro heach
    exact (hrun.always hinitial hkeeps heach).mono himplies

/-- A run that goes on where another one stopped. -/
theorem Run.trans {more : List (State × Label)} {s t : State} (hrun : Run initial step past s)
    (hmore : Run (· = s) step more t) : Run initial step (more ++ past) t := by
  induction hmore with
  | start hstart =>
      subst hstart
      exact hrun
  | next hearlier hstep ih => exact ih.next hstep

/-- Take the labels of a list one after the other. -/
def exec (step : Label → State → Option State) :
    List Label → State → Option State
  | [], s => some s
  | label :: labels, s => (step label s).bind (exec step labels)

theorem exec_append {first second : List Label} {s : State} :
    exec step (first ++ second) s = (exec step first s).bind (exec step second) := by
  induction first generalizing s with
  | nil => rfl
  | cons label first ih =>
      have hrest : exec step (first ++ second) =
          fun t => (exec step first t).bind (exec step second) := funext fun _ => ih
      simp only [List.cons_append, exec, Option.bind_assoc, hrest]

theorem exec_cons_of_step {label : Label} {labels : List Label} {s t u : State}
    (hstep : step label s = some t) (hexec : exec step (label :: labels) s = some u) :
    exec step labels t = some u := by
  rw [exec, hstep] at hexec
  exact hexec

theorem Run.exec {s t : State} (hrun : Run initial step past s)
    (labels : List Label) (hexec : exec step labels s = some t) :
    ∃ steps, Run initial step (steps ++ past) t := by
  induction labels generalizing s past with
  | nil =>
      simp only [Transition.exec, Option.some.injEq] at hexec
      subst hexec
      exact ⟨[], hrun⟩
  | cons label labels ih =>
      simp only [Transition.exec, Option.bind_eq_some_iff] at hexec
      obtain ⟨middle, hstep, hrest⟩ := hexec
      obtain ⟨steps, hfull⟩ := ih (hrun.next hstep) hrest
      exact ⟨steps ++ [(s, label)], by simpa using hfull⟩

/-- A successful execution from an initial state is a run. -/
theorem run_of_exec {s t : State} (hinitial : initial s) (labels : List Label)
    (hexec : Transition.exec step labels s = some t) :
    ∃ past, Run initial step past t := by
  have hstart : Run initial step [] s := .start hinitial
  obtain ⟨steps, hrun⟩ := hstart.exec labels hexec
  exact ⟨steps ++ [], hrun⟩

/-- The steps that meet a condition. -/
def guarded (condition : State → Label → Prop) [∀ s, DecidablePred (condition s)]
    (step : Label → State → Option State) (label : Label) (s : State) : Option State :=
  if condition s label then step label s else none

theorem Run.of_guarded [∀ s, DecidablePred (condition s)]
    (hrun : Run initial (guarded condition step) past current) :
    Run initial step past current ∧ EachStep condition past := by
  induction hrun with
  | start hinitial => exact ⟨.start hinitial, eachStep_nil⟩
  | next hearlier hstep ih =>
      simp only [guarded, Option.ite_none_right_eq_some] at hstep
      exact ⟨.next ih.1 hstep.2, eachStep_cons.mpr ⟨hstep.1, ih.2⟩⟩

end AngryUefi.Transition
