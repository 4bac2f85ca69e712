import AngryUefi.Asr.Copying
import AngryUefi.Asr.IbsEvents
import AngryUefi.Lib.BoundedLog

/-!
# The log of samples

The event buffer of a core over all calls of machine code: it holds the samples
that were accepted since it was cleared last, until it is full.
-/

namespace AngryUefi.Asr

open AngryUefi.Bytes AngryUefi.BitFields AngryUefi.BoundedLog AngryUefi.Handlers

/-! ## Source -/

def clearIbsResults (control : IBSControl) : UInt64 × IBSControl :=
  (maxIbsEntries, { control with currentPosition := 0 })

def clearIbsResultsResetFilter (control : IBSControl) : UInt64 × IBSControl :=
  clearIbsResults { control with ibsFilter := ibsFilterAll }

/-- What machine code may do about the log.  It finds other values in the
registers every time, and it sets the filter by a store of its own. -/
inductive LogCall
  | storeIbsEntry (msrs : UInt32 → UInt64)
  | clearIbsResults
  | clearIbsResultsResetFilter
  | copyIbsEntries (targetBuffer : ℕ) (startIndex entryCount : UInt64)
  | writeIbsFilter (filter : UInt64)

/-- The memory is without the control structure and the event buffer. -/
structure LogState where
  control : IBSControl
  memory : Memory
  returned : UInt64

namespace LogState

def withResult (s : LogState) (result : UInt64 × IBSControl) : LogState :=
  { s with control := result.2, returned := result.1 }

def call (s : LogState) : LogCall → LogState
  | .storeIbsEntry msrs => s.withResult (Asr.storeIbsEntry msrs s.control)
  | .clearIbsResults => s.withResult (Asr.clearIbsResults s.control)
  | .clearIbsResultsResetFilter => s.withResult (Asr.clearIbsResultsResetFilter s.control)
  | .copyIbsEntries targetBuffer startIndex entryCount =>
      let copied := Asr.copyIbsEntries s.control targetBuffer startIndex entryCount s.memory
      { s with memory := copied.2, returned := copied.1 }
  | .writeIbsFilter filter => { s with control := { s.control with ibsFilter := filter } }

end LogState

/-! ## Samples without a bound -/

/-- The filter and the samples it has accepted since the last clear. -/
structure SampleLog where
  accepted : List IBSEvent
  filter : UInt64

namespace SampleLog

def empty : SampleLog := ⟨[], ibsFilterAll⟩

def after (log : SampleLog) : LogCall → SampleLog
  | .storeIbsEntry msrs =>
      if Accepts log.filter (msrs ibsMsrOpData3) then
        { log with accepted := log.accepted ++ [sampledEvent msrs] }
      else log
  | .clearIbsResults => { log with accepted := [] }
  | .clearIbsResultsResetFilter => empty
  | .copyIbsEntries .. => log
  | .writeIbsFilter filter => { log with filter := filter }

end SampleLog

/-- The buffer is the beginning of the log. -/
structure Exact (log : SampleLog) (control : IBSControl) : Prop where
  bounded : control.currentPosition ≤ maxIbsEntries
  recorded : Keeps maxIbsEntries.toNat control.eventBuffer control.currentPosition.toNat
    log.accepted
  filter : control.ibsFilter = log.filter

/-- A store returns what space is left, and a full buffer stays as it is. -/
structure StoreIsExact (log : SampleLog) (s : LogState) (msrs : UInt32 → UInt64) : Prop where
  space : (s.call (.storeIbsEntry msrs)).returned.toNat =
    maxIbsEntries.toNat - (s.call (.storeIbsEntry msrs)).control.currentPosition.toNat
  full : maxIbsEntries.toNat ≤ log.accepted.length →
    s.call (.storeIbsEntry msrs) = { s with returned := 0 }

variable {log : SampleLog} {control : IBSControl} {s : LogState}

/-! ## One call -/

theorem exact_initIbsForContext : Exact SampleLog.empty initIbsForContext :=
  ⟨by decide, keeps_nil _ _, rfl⟩

theorem toNat_currentPosition_succ (hspace : control.currentPosition < maxIbsEntries) :
    (control.currentPosition + 1).toNat = control.currentPosition.toNat + 1 := by
  have hbelow := UInt64.lt_iff_toNat_lt.mp hspace
  have hmax : maxIbsEntries.toNat = 262144 := rfl
  have hone : (1 : UInt64).toNat = 1 := rfl
  rw [UInt64.toNat_add, hone, Nat.mod_eq_of_lt (by omega)]

/-- A sample is lost without a trace when the buffer is full. -/
theorem Exact.after_full (hexact : Exact log control)
    (hfull : maxIbsEntries ≤ control.currentPosition) (msrs : UInt32 → UInt64) :
    Exact (log.after (.storeIbsEntry msrs)) control := by
  rw [SampleLog.after]
  split_ifs
  · exact ⟨hexact.bounded, hexact.recorded.lose (UInt64.le_iff_toNat_le.mp hfull) _,
      hexact.filter⟩
  · exact hexact

theorem Exact.after_storeIbsEntry (hexact : Exact log control) (msrs : UInt32 → UInt64) :
    Exact (log.after (.storeIbsEntry msrs)) (storeIbsEntry msrs control).2 := by
  by_cases hfull : maxIbsEntries ≤ control.currentPosition
  · rw [storeIbsEntry_full hfull]
    exact hexact.after_full hfull msrs
  have hspace := UInt64.not_le.mp hfull
  by_cases haccepted : Accepts control.ibsFilter (msrs ibsMsrOpData3)
  · have hbelow := UInt64.lt_iff_toNat_lt.mp hspace
    have hnext := toNat_currentPosition_succ hspace
    rw [storeIbsEntry_appended ⟨hspace, haccepted⟩, SampleLog.after,
      if_pos (hexact.filter ▸ haccepted)]
    refine ⟨UInt64.le_iff_toNat_le.mpr ?_, ?_, hexact.filter⟩
    · exact hnext.trans_le hbelow
    · dsimp only
      rw [hnext]
      exact hexact.recorded.push hbelow _
  · rw [storeIbsEntry_rejected hspace haccepted, SampleLog.after,
      if_neg (hexact.filter ▸ haccepted)]
    exact hexact

/-- Every exit of the store returns the space behind the position it leaves. -/
theorem storeIbsEntry_space (hbounded : control.currentPosition ≤ maxIbsEntries)
    (msrs : UInt32 → UInt64) : (storeIbsEntry msrs control).1.toNat =
      maxIbsEntries.toNat - (storeIbsEntry msrs control).2.currentPosition.toNat := by
  by_cases hfull : maxIbsEntries ≤ control.currentPosition
  · have hat := UInt64.le_iff_toNat_le.mp hfull
    rw [storeIbsEntry_full hfull, le_antisymm (UInt64.le_iff_toNat_le.mp hbounded) hat,
      Nat.sub_self]
    rfl
  have hspace := UInt64.not_le.mp hfull
  by_cases haccepted : Accepts control.ibsFilter (msrs ibsMsrOpData3)
  · have hnext : control.currentPosition + 1 ≤ maxIbsEntries :=
      UInt64.le_iff_toNat_le.mpr
        ((toNat_currentPosition_succ hspace).trans_le (UInt64.lt_iff_toNat_lt.mp hspace))
    rw [storeIbsEntry_appended ⟨hspace, haccepted⟩]
    exact UInt64.toNat_sub_of_le _ _ hnext
  · rw [storeIbsEntry_rejected hspace haccepted]
    exact UInt64.toNat_sub_of_le _ _ hbounded

theorem Exact.storeIsExact (hexact : Exact log s.control) (msrs : UInt32 → UInt64) :
    StoreIsExact log s msrs := by
  refine ⟨storeIbsEntry_space hexact.bounded msrs, fun hlength => ?_⟩
  have hcount := hexact.recorded.count_eq
  have hfull : maxIbsEntries ≤ s.control.currentPosition :=
    UInt64.le_iff_toNat_le.mpr (by omega)
  rw [LogState.call, storeIbsEntry_full hfull, LogState.withResult]

theorem Exact.after_call (hexact : Exact log s.control) (call : LogCall) :
    Exact (log.after call) (s.call call).control := by
  have hnone : (0 : UInt64) ≤ maxIbsEntries := by decide
  cases call with
  | storeIbsEntry msrs => exact hexact.after_storeIbsEntry msrs
  | clearIbsResults => exact ⟨hnone, keeps_nil _ _, hexact.filter⟩
  | clearIbsResultsResetFilter => exact ⟨hnone, keeps_nil _ _, rfl⟩
  | copyIbsEntries targetBuffer startIndex entryCount => exact hexact
  | writeIbsFilter filter => exact ⟨hexact.bounded, hexact.recorded, rfl⟩

/-! ## All calls -/

theorem exact_foldl (hexact : Exact log s.control) (calls : List LogCall) :
    Exact (calls.foldl SampleLog.after log) (calls.foldl LogState.call s).control := by
  induction calls generalizing s log with
  | nil => exact hexact
  | cons call calls ih => exact ih (hexact.after_call call)

/-- After every sequence of calls the buffer is the beginning of the samples
that were accepted, and the next store tells what space it leaves. -/
theorem ibsLog_exact (memory : Memory) (returned : UInt64) (calls : List LogCall) :
    Exact (calls.foldl SampleLog.after SampleLog.empty)
        (calls.foldl LogState.call ⟨initIbsForContext, memory, returned⟩).control ∧
      ∀ msrs, StoreIsExact (calls.foldl SampleLog.after SampleLog.empty)
        (calls.foldl LogState.call ⟨initIbsForContext, memory, returned⟩) msrs := by
  have hexact : Exact (calls.foldl SampleLog.after SampleLog.empty)
      (calls.foldl LogState.call ⟨initIbsForContext, memory, returned⟩).control :=
    exact_foldl exact_initIbsForContext calls
  exact ⟨hexact, hexact.storeIsExact⟩

end AngryUefi.Asr
