import Mathlib.Data.List.Basic

/-!
# Logs of bounded size

Slots are filled one after the other until a bound is reached.  What is logged
later than that is lost.
-/

namespace AngryUefi.BoundedLog

variable {Entry : Type*} {capacity count : ℕ} {slots : ℕ → Entry} {entries : List Entry}

/-- The slots in use hold the first entries, as many as there may be. -/
def Keeps (capacity : ℕ) (slots : ℕ → Entry) (count : ℕ) (entries : List Entry) : Prop :=
  (List.range count).map slots = entries.take capacity

theorem keeps_nil (capacity : ℕ) (slots : ℕ → Entry) : Keeps capacity slots 0 [] := by
  rw [Keeps, List.range_zero, List.map_nil, List.take_nil]

theorem Keeps.count_eq (hkeeps : Keeps capacity slots count entries) :
    count = min capacity entries.length := by
  have hlength := congrArg List.length hkeeps
  rwa [List.length_map, List.length_range, List.length_take] at hlength

theorem map_range_update (slots : ℕ → Entry) (count : ℕ) (entry : Entry) :
    (List.range count).map (Function.update slots count entry) =
      (List.range count).map slots := by
  apply List.map_congr_left
  intro index hindex
  exact Function.update_of_ne (Nat.ne_of_lt (List.mem_range.mp hindex)) _ _

/-- There is a slot for one entry more. -/
theorem Keeps.push (hkeeps : Keeps capacity slots count entries) (hspace : count < capacity)
    (entry : Entry) :
    Keeps capacity (Function.update slots count entry) (count + 1) (entries ++ [entry]) := by
  have hcount := hkeeps.count_eq
  have hall : entries.length = count := by omega
  rw [Keeps, List.take_of_length_le (by omega)] at hkeeps
  rw [Keeps, List.range_succ, List.map_append, map_range_update, hkeeps, List.map_singleton,
    Function.update_self, List.take_of_length_le (by simp; omega)]

/-- There is none, and the entry is lost. -/
theorem Keeps.lose (hkeeps : Keeps capacity slots count entries) (hfull : capacity ≤ count)
    (entry : Entry) : Keeps capacity slots count (entries ++ [entry]) := by
  have hcount := hkeeps.count_eq
  rw [Keeps, List.take_append_of_le_length (by omega)]
  exact hkeeps

end AngryUefi.BoundedLog
