import Mathlib.Logic.Function.Basic

/-!
# A lock word and the parties that use it

Parties acquire the lock by changing the word from free to taken, hand it over
to each other, and release it by freeing the word.  `forceFree` is the one
action that a correct lock does not have: a party that is outside frees the
word, whoever may have taken it.
-/

namespace AngryUefi.SpinLock

/-- The word, and who is between acquiring and releasing it. -/
structure LockState (Party : Type*) where
  taken : Bool
  inside : Party → Bool

inductive Action (Party : Type*)
  | keep
  | acquire (party : Party)
  | release (party : Party)
  | handOver (giver taker : Party)
  | forceFree (party : Party)

variable {Party : Type*}

/-- Mutual exclusion under a lock: at most one party is inside, and while one
is, the word is taken. -/
def Exclusive (s : LockState Party) : Prop :=
  (∀ left right, s.inside left = true → s.inside right = true → left = right) ∧
    ∀ party, s.inside party = true → s.taken = true

/-- The inductive invariant: in addition the word is taken for a party only. -/
def Owned (s : LockState Party) : Prop :=
  Exclusive s ∧ (s.taken = true → ∃ party, s.inside party = true)

/-- The word is free whenever an outsider frees it. -/
def Harmless (s : LockState Party) : Action Party → Prop
  | .forceFree _ => s.taken = false
  | _ => True

theorem Exclusive.outside {s : LockState Party} (hexclusive : Exclusive s)
    {party other : Party} (hinside : s.inside party = true) (hne : other ≠ party) :
    s.inside other = false := by
  by_contra hother
  exact hne (hexclusive.1 other party (by simpa using hother) hinside)

/-- Nobody is inside while the word is free. -/
theorem Exclusive.outside_of_free {s : LockState Party} (hexclusive : Exclusive s)
    (hfree : s.taken = false) (party : Party) : s.inside party = false := by
  by_contra hinside
  have htaken := hexclusive.2 party (by simpa using hinside)
  simp [hfree] at htaken

variable [DecidableEq Party]

/-- What each action may do. -/
inductive Step : LockState Party → Action Party → LockState Party → Prop
  | keep (s : LockState Party) : Step s .keep s
  | acquire {s : LockState Party} {party : Party}
      (hfree : s.taken = false) (houtside : s.inside party = false) :
      Step s (.acquire party) ⟨true, Function.update s.inside party true⟩
  | release {s : LockState Party} {party : Party}
      (hinside : s.inside party = true) :
      Step s (.release party) ⟨false, Function.update s.inside party false⟩
  | handOver {s : LockState Party} {giver taker : Party} (hne : giver ≠ taker)
      (hinside : s.inside giver = true) :
      Step s (.handOver giver taker)
        ⟨s.taken, Function.update (Function.update s.inside giver false) taker true⟩
  | forceFree {s : LockState Party} {party : Party}
      (houtside : s.inside party = false) :
      Step s (.forceFree party) ⟨false, s.inside⟩

/-- Harmless actions keep the invariant. -/
theorem Owned.step {s t : LockState Party} {action : Action Party} (howned : Owned s)
    (hstep : Step s action t) (hharmless : Harmless s action) : Owned t := by
  cases hstep with
  | keep => exact howned
  | @acquire party hfree houtside =>
      have hnobody := howned.1.outside_of_free hfree
      refine ⟨⟨fun left right hleft hright => ?_, fun _ _ => rfl⟩,
        fun _ => ⟨party, by simp⟩⟩
      have honly : ∀ other, Function.update s.inside party true other = true →
          other = party := by
        intro other hother
        by_contra hne
        simp [Function.update_of_ne hne, hnobody other] at hother
      rw [honly left hleft, honly right hright]
  | @release party hinside =>
      have hnobody : ∀ other, Function.update s.inside party false other = false := by
        intro other
        by_cases hother : other = party
        · subst other
          simp
        · simp [Function.update_of_ne hother, howned.1.outside hinside hother]
      exact ⟨⟨by simp [hnobody], by simp [hnobody]⟩, by simp⟩
  | @handOver giver taker hne hinside =>
      have honly : ∀ other,
          Function.update (Function.update s.inside giver false) taker true other = true →
            other = taker := by
        intro other hother
        by_contra htaker
        rw [Function.update_of_ne htaker] at hother
        by_cases hgiver : other = giver
        · subst other
          simp at hother
        · rw [Function.update_of_ne hgiver,
            howned.1.outside hinside hgiver] at hother
          cases hother
      refine ⟨⟨fun left right hleft hright => ?_, fun _ _ => howned.1.2 giver hinside⟩,
        fun _ => ⟨taker, by simp⟩⟩
      rw [honly left hleft, honly right hright]
  | forceFree houtside =>
      have hnobody := howned.1.outside_of_free hharmless
      exact ⟨⟨by simp [hnobody], by simp [hnobody]⟩, by simp⟩

/-- Any other action takes the lock away from the party that is inside. -/
theorem Owned.not_exclusive_of_step {s t : LockState Party} {action : Action Party}
    (howned : Owned s) (hstep : Step s action t) (hharmful : ¬ Harmless s action) :
    ¬ Exclusive t := by
  intro hexclusive
  cases hstep with
  | keep => exact hharmful trivial
  | acquire => exact hharmful trivial
  | release => exact hharmful trivial
  | handOver => exact hharmful trivial
  | forceFree houtside =>
      have htaken : s.taken = true := by simpa [Harmless] using hharmful
      obtain ⟨owner, hinside⟩ := howned.2 htaken
      have hcontra := hexclusive.2 owner hinside
      simp at hcontra

/-- A word that is taken was taken by somebody who is still inside. -/
def Held (s : LockState Party) : Prop := s.taken = true → ∃ party, s.inside party = true

/-- No action leaves the word taken for nobody, not even the wrong one: whoever
leaves frees it. -/
theorem Held.step {s t : LockState Party} {action : Action Party} (hheld : Held s)
    (hstep : Step s action t) : Held t := by
  cases hstep with
  | keep => exact hheld
  | @acquire party => exact fun _ => ⟨party, Function.update_self ..⟩
  | release => exact fun htaken => by cases htaken
  | @handOver giver taker => exact fun _ => ⟨taker, Function.update_self ..⟩
  | forceFree => exact fun htaken => by cases htaken

end AngryUefi.SpinLock
