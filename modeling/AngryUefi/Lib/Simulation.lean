import AngryUefi.Lib.Transition

/-!
# Refinement of a specification

A specification is a relation between states, labelled with the events that it
allows there.  A system refines it when each of its steps either shows one
event, which the specification allows next, or shows none and leaves the
specification where it is.  The events of every run are then a trace of the
specification.
-/

namespace AngryUefi.Transition

variable {State Label Abstract Event : Type*}

/-- The events that the steps of a run show, most recent first. -/
def events (observe : State → State → Option Event) :
    List (State × Label) → State → List Event
  | [], _ => []
  | (s, _) :: past, t => (observe s t).toList ++ events observe past s

/-- The traces of a specification, most recent event first. -/
inductive Trace (start : Abstract → Prop) (allows : Abstract → Event → Abstract → Prop) :
    List Event → Abstract → Prop
  | start {a : Abstract} (hstart : start a) : Trace start allows [] a
  | next {earlier : List Event} {a b : Abstract} {event : Event}
      (htrace : Trace start allows earlier a) (hallows : allows a event b) :
      Trace start allows (event :: earlier) b

/-- How the specification follows a step of the system. -/
inductive Follows (allows : Abstract → Event → Abstract → Prop) (a : Abstract) :
    Option Event → Abstract → Prop
  | stays : Follows allows a none a
  | moves {event : Event} {b : Abstract} (hallows : allows a event b) :
      Follows allows a (some event) b

variable {initial : State → Prop} {step : Label → State → Option State}
variable {start : Abstract → Prop} {allows : Abstract → Event → Abstract → Prop}

theorem Trace.follows {earlier : List Event} {a b : Abstract} {event : Option Event}
    (htrace : Trace start allows earlier a) (hfollows : Follows allows a event b) :
    Trace start allows (event.toList ++ earlier) b := by
  cases hfollows with
  | stays => exact htrace
  | moves hallows => exact htrace.next hallows

/-- What precedes an event of a trace is a trace, and the event is allowed
after it. -/
theorem Trace.split {later earlier : List Event} {event : Event} {a : Abstract}
    (htrace : Trace start allows (later ++ event :: earlier) a) :
    ∃ before after, Trace start allows earlier before ∧ allows before event after := by
  induction later generalizing a with
  | nil =>
      cases htrace with
      | next hearlier hallows => exact ⟨_, _, hearlier, hallows⟩
  | cons first later ih =>
      cases htrace with
      | next hearlier hallows => exact ih hearlier

/-- The refinement rule: if from the invariant the specification can follow
each of the condition's steps, it can follow a run that takes such steps only. -/
theorem Run.refines {related : State → Abstract → Prop} {invariant : State → Prop}
    {condition : State → Label → Prop} {observe : State → State → Option Event}
    {past : List (State × Label)} {current : State}
    (hrun : Run initial step past current)
    (hinitial : ∀ s, initial s → invariant s)
    (hkeeps : ∀ s label t, invariant s → condition s label →
      step label s = some t → invariant t)
    (hstart : ∀ s, initial s → ∃ a, start a ∧ related s a)
    (hfollows : ∀ s label t a, invariant s → condition s label → step label s = some t →
      related s a → ∃ b, Follows allows a (observe s t) b ∧ related t b)
    (heach : EachStep condition past) :
    ∃ a, Trace start allows (events observe past current) a ∧ related current a := by
  induction hrun with
  | start hs =>
      obtain ⟨a, ha, hrelated⟩ := hstart _ hs
      exact ⟨a, .start ha, hrelated⟩
  | next hearlier hstep ih =>
      rw [eachStep_cons] at heach
      have hbefore := (hearlier.always hinitial hkeeps heach.2).1
      obtain ⟨a, htrace, hrelated⟩ := ih heach.2
      obtain ⟨b, hmoved, hnow⟩ := hfollows _ _ _ a hbefore heach.1 hstep hrelated
      exact ⟨b, htrace.follows hmoved, hnow⟩

end AngryUefi.Transition
