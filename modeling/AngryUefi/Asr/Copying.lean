import AngryUefi.Handlers.Readout
import AngryUefi.Lib.Slices

/-!
# Copying captured events

`copy_ibs_entries` and `copy_dsm_entries`.  The handlers call them once for a
packet; machine code calls the first one with arguments of its own.  The target
buffer lies apart from the event buffer, so that no copied event is read back.
-/

namespace AngryUefi.Asr

open AngryUefi.Bytes AngryUefi.Slices AngryUefi.Handlers

/-- The bytes of an `IBSEvent`. -/
def ibsEventBytes (event : IBSEvent) : List UInt8 :=
  littleEndian 8 event.q1.toNat ++ littleEndian 8 event.q2.toNat

/-- The bytes of a `DSMEvent`. -/
def dsmEventBytes (event : DSMEvent) : List UInt8 :=
  littleEndian 8 event.data0.toNat ++ littleEndian 8 event.data1.toNat

/-- The loop of the copy routines. -/
def copyLoop (entryAt : ℕ → List UInt8) (endIndex index : UInt64) (targetBuffer : ℕ)
    (memory : Memory) : Memory :=
  if index < endIndex then
    copyLoop entryAt endIndex (index + 1) (targetBuffer + eventSize.toNat)
      (memory.write targetBuffer (entryAt index.toNat))
  else memory
termination_by endIndex.toNat - index.toNat
decreasing_by
  rename_i hless
  have hbelow := UInt64.lt_iff_toNat_lt.mp hless
  have hend := endIndex.toNat_lt
  have hone : (1 : UInt64).toNat = 1 := rfl
  rw [UInt64.toNat_add, hone, Nat.mod_eq_of_lt (by omega)]
  omega

/-- Both routines, with what they return and the memory they leave. -/
def copyEvents (stored : UInt64) (entryAt : ℕ → List UInt8) (targetBuffer : ℕ)
    (startIndex entryCount : UInt64) (memory : Memory) : UInt64 × Memory :=
  if stored ≤ startIndex then (0, memory)
  else
    let endIndex := minimum (startIndex + entryCount) stored
    (endIndex - startIndex, copyLoop entryAt endIndex startIndex targetBuffer memory)

def copyIbsEntries (status : IBSControl) : ℕ → UInt64 → UInt64 → Memory → UInt64 × Memory :=
  copyEvents status.currentPosition fun index => ibsEventBytes (status.eventBuffer index)

def copyDsmEntries (status : DSMControl) : ℕ → UInt64 → UInt64 → Memory → UInt64 × Memory :=
  copyEvents status.fileHeader.numItems fun index => dsmEventBytes (status.eventBuffer index)

/-! ## What is copied -/

theorem length_ibsEventBytes (event : IBSEvent) : (ibsEventBytes event).length = 16 := by
  rw [ibsEventBytes, List.length_append, length_littleEndian, length_littleEndian]

theorem length_dsmEventBytes (event : DSMEvent) : (dsmEventBytes event).length = 16 := by
  rw [dsmEventBytes, List.length_append, length_littleEndian, length_littleEndian]

variable {entryAt : ℕ → List UInt8}

/-- The loop stores the entries one behind the other. -/
theorem copyLoop_eq (hsize : ∀ index, (entryAt index).length = 16) (endIndex index : UInt64)
    (targetBuffer : ℕ) (memory : Memory) :
    copyLoop entryAt endIndex index targetBuffer memory = memory.write targetBuffer
      ((List.range' index.toNat (endIndex.toNat - index.toNat)).flatMap entryAt) := by
  induction index, targetBuffer, memory using copyLoop.induct entryAt endIndex with
  | case1 index targetBuffer memory hless ih =>
      have hbelow := UInt64.lt_iff_toNat_lt.mp hless
      have hend := endIndex.toNat_lt
      have hone : (1 : UInt64).toNat = 1 := rfl
      have hnext : (index + 1).toNat = index.toNat + 1 := by
        rw [UInt64.toNat_add, hone, Nat.mod_eq_of_lt (by omega)]
      have hevent : eventSize.toNat = 16 := rfl
      have hcount : endIndex.toNat - index.toNat =
          endIndex.toNat - (index.toNat + 1) + 1 := by omega
      rw [copyLoop, if_pos hless, ih, hnext, hevent, hcount, List.range'_succ,
        List.flatMap_cons, ← hsize index.toNat, Memory.write_write_append]
  | case2 index targetBuffer memory hless =>
      have habove := UInt64.le_iff_toNat_le.mp (UInt64.not_lt.mp hless)
      rw [copyLoop, if_neg hless, Nat.sub_eq_zero_of_le habove, List.range'_zero,
        List.flatMap_nil, Memory.write_nil]

/-- A slice of the entries is in the target buffer, their number is returned,
and nothing else is written. -/
structure CopiesSlice (stored : UInt64) (entryAt : ℕ → List UInt8) (targetBuffer : ℕ)
    (startIndex entryCount : UInt64) (memory : Memory) (result : UInt64 × Memory) : Prop where
  returned : result.1.toNat =
    (slice startIndex.toNat entryCount.toNat stored.toNat).length
  written : result.2 = memory.write targetBuffer
    ((slice startIndex.toNat entryCount.toNat stored.toNat).flatMap entryAt)

/-- Some entries were asked for, up to an index that is not a word. -/
def EndWraps (stored startIndex entryCount : UInt64) : Prop :=
  startIndex < stored ∧ 2 ^ 64 ≤ startIndex.toNat + entryCount.toNat

theorem copiesSlice_copyEvents_iff (hsize : ∀ index, (entryAt index).length = 16)
    (stored : UInt64) (targetBuffer : ℕ) (startIndex entryCount : UInt64) (memory : Memory) :
    CopiesSlice stored entryAt targetBuffer startIndex entryCount memory
        (copyEvents stored entryAt targetBuffer startIndex entryCount memory) ↔
      ¬ EndWraps stored startIndex entryCount := by
  have hbelow := stored.toNat_lt
  have hcount := entryCount.toNat_lt
  by_cases hstored : stored ≤ startIndex
  · have hbehind := UInt64.le_iff_toNat_le.mp hstored
    rw [copyEvents, if_pos hstored]
    refine iff_of_true ⟨?_, ?_⟩ fun hwraps => absurd hwraps.1 (UInt64.not_lt.mpr hstored)
    · rw [slice_eq_nil hbehind]
      rfl
    · rw [slice_eq_nil hbehind, List.flatMap_nil, Memory.write_nil]
  have hless := UInt64.not_le.mp hstored
  have hstart := UInt64.lt_iff_toNat_lt.mp hless
  rw [copyEvents, if_neg hstored]
  dsimp only
  by_cases hwraps : 2 ^ 64 ≤ startIndex.toNat + entryCount.toNat
  · -- the end lies before the start, and their difference is the count again
    have hend : (startIndex + entryCount).toNat =
        startIndex.toNat + entryCount.toNat - 2 ^ 64 := by
      rw [UInt64.toNat_add]
      omega
    have hminimum : minimum (startIndex + entryCount) stored = startIndex + entryCount := by
      rw [minimum, if_pos (UInt64.lt_iff_toNat_lt.mpr (by omega))]
    refine iff_of_false (fun hcopies => ?_) (not_not.mpr ⟨hless, hwraps⟩)
    have hreturned : (minimum (startIndex + entryCount) stored - startIndex).toNat = _ :=
      hcopies.returned
    rw [length_slice, hminimum, UInt64.add_comm, UInt64.add_sub_cancel] at hreturned
    omega
  · have hend : (startIndex + entryCount).toNat = startIndex.toNat + entryCount.toNat := by
      rw [UInt64.toNat_add]
      omega
    have hminimum : (minimum (startIndex + entryCount) stored).toNat =
        min (startIndex.toNat + entryCount.toNat) stored.toNat := by
      rw [toNat_minimum, hend]
    have hlength : min (startIndex.toNat + entryCount.toNat) stored.toNat - startIndex.toNat =
        min entryCount.toNat (stored.toNat - startIndex.toNat) := by omega
    refine iff_of_true ⟨?_, ?_⟩ fun hboth => hwraps hboth.2
    · have hle : startIndex ≤ minimum (startIndex + entryCount) stored :=
        UInt64.le_iff_toNat_le.mpr (by omega)
      rw [length_slice, UInt64.toNat_sub_of_le _ _ hle, hminimum, hlength]
    · rw [slice_eq_range', copyLoop_eq hsize, hminimum, hlength]

/-- Both routines copy and count the slice exactly if its end does not wrap. -/
theorem copies_slice_iff (ibsStatus : IBSControl) (dsmStatus : DSMControl) (targetBuffer : ℕ)
    (startIndex entryCount : UInt64) (memory : Memory) :
    (CopiesSlice ibsStatus.currentPosition
        (fun index => ibsEventBytes (ibsStatus.eventBuffer index))
        targetBuffer startIndex entryCount memory
        (copyIbsEntries ibsStatus targetBuffer startIndex entryCount memory) ↔
      ¬ EndWraps ibsStatus.currentPosition startIndex entryCount) ∧
    (CopiesSlice dsmStatus.fileHeader.numItems
        (fun index => dsmEventBytes (dsmStatus.eventBuffer index))
        targetBuffer startIndex entryCount memory
        (copyDsmEntries dsmStatus targetBuffer startIndex entryCount memory) ↔
      ¬ EndWraps dsmStatus.fileHeader.numItems startIndex entryCount) :=
  ⟨copiesSlice_copyEvents_iff (fun _ => length_ibsEventBytes _) _ _ _ _ _,
    copiesSlice_copyEvents_iff (fun _ => length_dsmEventBytes _) _ _ _ _ _⟩

/-- Four stored events, all of them but the first asked for with the largest
count there is. -/
def sampleStatus : IBSControl := ⟨fun index => ⟨UInt64.ofNat index, 0⟩, 4, 0⟩

/-- Nothing is copied, and the count is returned. -/
theorem not_copiesSlice_sampleStatus :
    copyIbsEntries sampleStatus 0 1 (-1) (fun _ => 0) = (-1, fun _ => 0) ∧
      ¬ CopiesSlice sampleStatus.currentPosition
        (fun index => ibsEventBytes (sampleStatus.eventBuffer index)) 0 1 (-1) (fun _ => 0)
        (copyIbsEntries sampleStatus 0 1 (-1) fun _ => 0) := by
  have hrun : copyIbsEntries sampleStatus 0 1 (-1) (fun _ => 0) = (-1, fun _ => 0) := by
    rw [copyIbsEntries, copyEvents, if_neg (by decide)]
    refine Prod.ext rfl ?_
    change copyLoop _ 0 1 0 _ = _
    rw [copyLoop, if_neg (by decide)]
  refine ⟨hrun, fun hcopies => ?_⟩
  have hreturned := hcopies.returned
  rw [hrun, length_slice] at hreturned
  exact absurd hreturned (by decide)

end AngryUefi.Asr
