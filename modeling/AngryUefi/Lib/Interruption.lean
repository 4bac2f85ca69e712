import Mathlib.Data.List.Basic

/-!
# Programs that may be interrupted

A program as the list of its steps.  When it is interrupted, some first steps
have been taken and the others never are.  A part of the state that every such
beginning of a program keeps is a view that the program keeps, and programs
that keep a view are closed under the ways to put them together.
-/

namespace AngryUefi.Interruption

variable {State View Index : Type*}

/-- All steps. -/
def run (steps : List (State → State)) (s : State) : State :=
  steps.foldl (fun s step => step s) s

/-- The first steps only, up to a number of them. -/
def runFor (count : ℕ) (steps : List (State → State)) (s : State) : State :=
  run (steps.take count) s

variable {count : ℕ} {steps left right : List (State → State)} {s : State}

theorem run_append : run (left ++ right) s = run right (run left s) :=
  List.foldl_append

theorem runFor_of_length_le (hlength : steps.length ≤ count) :
    runFor count steps s = run steps s := by
  rw [runFor, List.take_of_length_le hlength]

theorem runFor_append :
    runFor count (left ++ right) s =
      runFor (count - left.length) right (runFor count left s) := by
  rw [runFor, List.take_append, run_append, runFor, runFor]

/-- Wherever the program is interrupted, the view is the one before it. -/
def Keeps (view : State → View) (steps : List (State → State)) : Prop :=
  ∀ count s, view (runFor count steps s) = view s

variable {view : State → View}

theorem keeps_nil : Keeps view [] := by
  intro count s
  rw [runFor, List.take_nil, run, List.foldl_nil]

theorem Keeps.run_eq (hkeeps : Keeps view steps) (s : State) : view (run steps s) = view s := by
  have hall := hkeeps steps.length s
  rwa [runFor_of_length_le (Nat.le_refl _)] at hall

theorem Keeps.append (hleft : Keeps view left) (hright : Keeps view right) :
    Keeps view (left ++ right) := by
  intro count s
  rw [runFor_append, hright, hleft]

/-- No step changes the view. -/
theorem keeps_of_forall (hsteps : ∀ step ∈ steps, ∀ s, view (step s) = view s) :
    Keeps view steps := by
  induction steps with
  | nil => exact keeps_nil
  | cons step steps ih =>
      have htail := ih fun other hother => hsteps other (List.mem_cons_of_mem _ hother)
      intro count s
      cases count with
      | zero => rfl
      | succ count =>
          calc view (runFor (count + 1) (step :: steps) s)
              = view (runFor count steps (step s)) := rfl
            _ = view (step s) := htail count _
            _ = view s := hsteps step List.mem_cons_self s

theorem Keeps.flatMap {program : Index → List (State → State)} {indices : List Index}
    (hprogram : ∀ index ∈ indices, Keeps view (program index)) :
    Keeps view (indices.flatMap program) := by
  induction indices with
  | nil => exact keeps_nil
  | cons index indices ih =>
      rw [List.flatMap_cons]
      exact (hprogram index List.mem_cons_self).append
        (ih fun other hother => hprogram other (List.mem_cons_of_mem _ hother))

end AngryUefi.Interruption
