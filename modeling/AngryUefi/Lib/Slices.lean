import Mathlib.Data.List.Basic
import Mathlib.Data.List.Range
import Mathlib.Data.UInt

/-!
# Slices of an array

The indices of a slice, and how a list is cut into packets of a bounded size.
-/

namespace AngryUefi.Slices

/-- The indices below `bound` from `first` on, at most `count` of them. -/
def slice (first count bound : ℕ) : List ℕ :=
  (List.range bound).filter fun index => first ≤ index ∧ index - first < count

theorem mem_slice {first count bound index : ℕ} :
    index ∈ slice first count bound ↔
      index < bound ∧ first ≤ index ∧ index - first < count := by
  simp [slice]

/-- The indices of a slice follow each other. -/
theorem slice_eq_range' (first count bound : ℕ) :
    slice first count bound = List.range' first (min count (bound - first)) := by
  apply List.Perm.eq_of_pairwise' (r := (· ≤ ·))
  · exact List.pairwise_le_range.filter _
  · exact List.pairwise_le_range'
  · apply (List.perm_ext_iff_of_nodup (List.nodup_range.filter _) List.nodup_range').mpr
    intro index
    change index ∈ slice first count bound ↔ _
    rw [mem_slice, List.mem_range'_1]
    omega

theorem length_slice (first count bound : ℕ) :
    (slice first count bound).length = min count (bound - first) := by
  rw [slice_eq_range', List.length_range']

/-- Nothing lies behind the end. -/
theorem slice_eq_nil {first bound : ℕ} (hbound : bound ≤ first) (count : ℕ) :
    slice first count bound = [] := by
  rw [slice_eq_range', Nat.sub_eq_zero_of_le hbound, Nat.min_zero, List.range'_zero]

end AngryUefi.Slices
