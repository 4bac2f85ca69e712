import AngryUefi.Asr.DsmCapture
import AngryUefi.Lib.Interruption

/-!
# Captures that are abandoned

A capture switches tracing off, on and off again by writes to one debug
register, from a copy of it that was made when the capture was prepared.  A
fault of the code that is traced may end a job between any two steps, and the
next job begins a new capture.
-/

namespace AngryUefi.Asr

open AngryUefi.Interruption

/-! ## The debug registers -/

/-- The registers are reached through a selector, and some ports without one. -/
structure DebugFile where
  selector : UInt64
  registers : UInt64 → UInt64
  ports : UInt64 → UInt64

namespace DebugFile

/-- Bit 31 of a selector is for writes. -/
def writeBit : UInt64 := 0x80000000

/-- The register that a selector stands for. -/
def index (selector : UInt64) : UInt64 := selector &&& ~~~writeBit

def write (register value : UInt64) (file : DebugFile) : DebugFile :=
  if register = 0x03d0 then { file with selector := value }
  else if register = 0x03d2 then
    if file.selector &&& writeBit = 0 then file
    else { file with registers := Function.update file.registers (index file.selector) value }
  else { file with ports := Function.update file.ports register value }

def read (register : UInt64) (file : DebugFile) : UInt64 × DebugFile :=
  if register = 0x03d0 then (file.selector, file)
  else if register = 0x03d2 then (file.registers (index file.selector), file)
  else (file.ports register, file)

/-- `write_fenced_fprem` needs no selector. -/
def writeFencedFprem (register value : UInt64) (file : DebugFile) : DebugFile :=
  { file with registers := Function.update file.registers (index register) value }

def port : DebugPort DebugFile where
  writeFencedFptan := write
  readFencedFpatan := read

end DebugFile

/-- The register that switches tracing. -/
def traceRegister : UInt64 := 0x1000

/-- The bit of it that traces. -/
def traceBit : UInt64 := (1 : UInt64) <<< 50

/-- What `prepare_dsm` configures. -/
def traceConfiguration : UInt64 := 0xF24040000000001

/-! ## Source -/

/-- `prepare_dsm` after the bit in CR4. -/
def prepareDsm (file : DebugFile) : DebugFile :=
  let file := DebugFile.write 0x03d0 0x80000000 file
  let file := DebugFile.write 0x03d2 0x1e file
  let file := DebugFile.write 0x03d0 0x80001000 file
  let file := DebugFile.write 0x03d2 0xF24040000000001 file
  let file := DebugFile.write 0x03d0 0x80003000 file
  let file := DebugFile.write 0x03d2 0x110 file
  let file := DebugFile.write 0x03d0 0x80003000 file
  let file := DebugFile.write 0x03d2 0x100 file
  let file := DebugFile.write 0x03d0 0x80003000 file
  let file := DebugFile.write 0x03d2 0x110 file
  let val := (DebugFile.read 0x22b file).1
  let file := DebugFile.write 0x22b (val &&& ~~~0xFFFFFFFFFFFFFFFF) file
  let val := (DebugFile.read 0x22c file).1
  let file := DebugFile.write 0x22c (val &&& ~~~0xFFFF) file
  let file := DebugFile.write 0x248 0x7017161211151413 file
  let file := DebugFile.write 0x249 0xde0aff01 file
  let file := DebugFile.write 0x03d0 0x80001032 file
  let file := DebugFile.write 0x03d2 0xfffffffffff0003f file
  DebugFile.write 0x03d0 0x0 file

/-- What the routines reach, with the local variable that is live between two
steps of a loop. -/
structure DsmCore where
  control : DSMControl
  file : DebugFile
  data0 : UInt64

abbrev DsmStep := DsmCore → DsmCore

/-- `write_fenced_fptan` -/
def fptan (register : UInt64) (value : DsmCore → UInt64) : DsmStep := fun s =>
  { s with file := DebugFile.write register (value s) s.file }

/-- `read_fenced_fpatan`, and what is done with the value. -/
def fpatan (register : UInt64) (keep : UInt64 → DsmStep) : DsmStep := fun s =>
  keep (DebugFile.read register s.file).1 s

def select (selector : UInt64) : DsmStep := fptan 0x03d0 fun _ => selector

/-- A write to a register: the selector, then the value. -/
def selectWrite (selector : UInt64) (value : DsmCore → UInt64) : List DsmStep :=
  [select selector, fptan 0x03d2 value]

def onHeader (change : DSMFileHeader → DSMFileHeader) : DsmStep := fun s =>
  { s with control := { s.control with fileHeader := change s.control.fileHeader } }

def setEvent (index : ℕ) (event : DsmCore → DSMEvent) : DsmStep := fun s =>
  { s with control := { s.control with
      eventBuffer := Function.update s.control.eventBuffer index (event s) } }

/-- The loop over the counters that are enabled. -/
def countedEvents (g1 c1 g2 c2 : UInt64) (header : DSMFileHeader) : DSMFileHeader :=
  (List.range 8).foldl (fun header idx =>
    let idx := UInt64.ofNat idx
    if c2 &&& 1 ≠ 0 ∧ c2 &&& ((0x01 : UInt64) <<< (idx + 8)) ≠ 0 then
      { header with
        types := header.types ||| ((0x01 : UInt64) <<< (idx * 8))
        sel := header.sel ||| (g2 &&& ((0xFF : UInt64) <<< (idx * 8))) }
    else if c1 &&& 1 ≠ 0 ∧ c1 &&& ((0x01 : UInt64) <<< (idx + 8)) ≠ 0 then
      { header with
        types := header.types ||| ((0x02 : UInt64) <<< (idx * 8))
        sel := header.sel ||| (g1 &&& ((0xFF : UInt64) <<< (idx * 8))) }
    else header) header

/-- `prepare_dsm_capture` up to the copy of the register. -/
def prepareBuffers : List DsmStep :=
  [onHeader fun _ => ⟨((48 : UInt64) <<< 32) ||| 0x2, 0, 0, 0, 0, 0⟩,
    select 0x00001032,
    fpatan 0x03d2 fun mask => onHeader fun header => { header with mask := mask },
    fpatan 0x22b fun g1 => fpatan 0x22c fun c1 => fpatan 0x248 fun g2 => fpatan 0x249 fun c2 =>
      onHeader (countedEvents g1 c1 g2 c2)] ++
    (List.range maximumDsmEntries).map fun index => setEvent index fun _ => ⟨0, 0⟩

def saveTrace : List DsmStep :=
  [select 0x00001000,
    fpatan 0x03d2 fun orig s => { s with control := { s.control with orig := orig } }]

def clearTrace : List DsmStep := selectWrite 0x80001000 fun s => s.control.orig &&& ~~~traceBit

def clearEntry (index : ℕ) : List DsmStep :=
  selectWrite 0x80003001 (fun _ => 0x80000000 ||| UInt64.ofNat index) ++
    selectWrite 0x80003003 (fun _ => 0) ++ selectWrite 0x80003002 (fun _ => 0)

def resetIndex : List DsmStep :=
  selectWrite 0x80003000 (fun _ => 0x110) ++ selectWrite 0x80003000 (fun _ => 0x100)

/-- `prepare_dsm_capture` from there on. -/
def prepareRing : List DsmStep :=
  resetIndex ++ (List.range maximumDsmEntries).flatMap clearEntry ++
    selectWrite 0x80003001 (fun _ => 0x0) ++ resetIndex

def prepareDsmCapture : List DsmStep :=
  prepareBuffers ++ (saveTrace ++ (clearTrace ++ prepareRing))

def startDsmCapture : List DsmStep :=
  [fun s => { s with file := DebugFile.writeFencedFprem 0x80001000 s.control.orig s.file }]

def stopDsmCapture : List DsmStep :=
  [fun s => { s with
    file := DebugFile.writeFencedFprem 0x80001000 (s.control.orig &&& ~~~traceBit) s.file }]

def storeEntry (index : ℕ) : List DsmStep :=
  selectWrite 0x80003001 (fun s =>
      (((s.control.fileHeader.idxInfo >>> 48) &&& UInt64.ofNat (maximumDsmEntries - 1)) +
        UInt64.ofNat index) &&& UInt64.ofNat (maximumDsmEntries - 1)) ++
    [select 0x00003003,
      fpatan 0x03d2 fun data0 s => { s with data0 := data0 },
      select 0x00003002,
      fpatan 0x03d2 fun data1 => setEvent index fun s => ⟨s.data0, data1⟩]

/-- `store_dsm_capture` up to the register. -/
def storeRing : List DsmStep :=
  [select 0x00003000,
    fpatan 0x03d2 fun info => onHeader fun header => { header with idxInfo := info }] ++
    (List.range maximumDsmEntries).flatMap storeEntry

def restoreTrace : List DsmStep := selectWrite 0x80001000 fun s => s.control.orig

def storeDsmCaptureSteps : List DsmStep :=
  storeRing ++ (restoreTrace ++ [select 0x00001000,
    onHeader fun header => { header with numItems := UInt64.ofNat maximumDsmEntries }])

inductive DsmRoutine
  | prepareDsmCapture
  | startDsmCapture
  | stopDsmCapture
  | storeDsmCapture
  deriving DecidableEq

def DsmRoutine.steps : DsmRoutine → List DsmStep
  | .prepareDsmCapture => Asr.prepareDsmCapture
  | .startDsmCapture => Asr.startDsmCapture
  | .stopDsmCapture => Asr.stopDsmCapture
  | .storeDsmCapture => storeDsmCaptureSteps

/-- A call, and how many of its steps were taken before a fault ended the job.
With as many as there are it returned.  `init_dsm_on_core` does nothing then. -/
structure DsmCall where
  routine : DsmRoutine
  taken : ℕ
  deriving DecidableEq

namespace DsmCall

def run (s : DsmCore) (call : DsmCall) : DsmCore := runFor call.taken call.routine.steps s

/-- The register was copied. -/
def Saves (call : DsmCall) : Prop :=
  call.routine = .prepareDsmCapture ∧ prepareBuffers.length + 2 ≤ call.taken

/-- The register was written without its bit. -/
def Clears (call : DsmCall) : Prop :=
  call.routine = .prepareDsmCapture ∧ prepareBuffers.length + 4 ≤ call.taken ∨
    call.routine = .stopDsmCapture ∧ 1 ≤ call.taken

/-- The copy was written to the register. -/
def WritesBack (call : DsmCall) : Prop :=
  call.routine = .startDsmCapture ∧ 1 ≤ call.taken ∨
    call.routine = .storeDsmCapture ∧ storeRing.length + 2 ≤ call.taken

instance (call : DsmCall) : Decidable call.Saves := inferInstanceAs (Decidable (_ ∧ _))

instance (call : DsmCall) : Decidable call.Clears := inferInstanceAs (Decidable (_ ∨ _))

instance (call : DsmCall) : Decidable call.WritesBack := inferInstanceAs (Decidable (_ ∨ _))

end DsmCall

/-! ## Captures in a row -/

/-- What `init_dsm_for_context` allocates, with whatever is in the event buffer. -/
def initDsmForContext (eventBuffer : ℕ → DSMEvent) : DSMControl :=
  ⟨⟨0, 0, 0, 0, 0, 0⟩, eventBuffer, 0⟩

/-- What the calls have done about the configuration, by their order alone:
whether it is in the register, and whether it is in the copy. -/
structure TracePhase where
  written : Bool
  saved : Bool
  deriving DecidableEq

namespace TracePhase

/-- After `prepare_dsm` the register has it, and there is no copy yet. -/
def prepared : TracePhase := ⟨true, false⟩

/-- A call that writes back takes it from the copy, and one that saves takes it
from the register. -/
def next (phase : TracePhase) (call : DsmCall) : TracePhase where
  written := if call.WritesBack then phase.saved else if call.Clears then false else phase.written
  saved := if call.Saves then phase.written else phase.saved

end TracePhase

/-- Whatever is copied is the configuration, and once there is a copy, what is
written back is the configuration as well.  It traces. -/
structure Rearms (configuration : UInt64) (start : DsmCore) (earlier : List DsmCall)
    (call : DsmCall) : Prop where
  saved : call.Saves →
    (call.run (earlier.foldl DsmCall.run start)).control.orig = configuration
  written : call.WritesBack → (∃ other ∈ earlier, other.Saves) →
    (call.run (earlier.foldl DsmCall.run start)).file.registers traceRegister = configuration
  traces : configuration &&& traceBit ≠ 0

/-- Every call of a sequence. -/
def AlwaysRearms (configuration : UInt64) (start : DsmCore) (calls : List DsmCall) : Prop :=
  ∀ earlier call later, calls = earlier ++ call :: later → Rearms configuration start earlier call

/-- No copy is made while a capture is held up: the last call that cleared the
bit was followed by one that wrote the configuration back. -/
def AlwaysWrittenBack (calls : List DsmCall) : Prop :=
  ∀ earlier call later, calls = earlier ++ call :: later → call.Saves →
    (earlier.foldl TracePhase.next TracePhase.prepared).written = true

/-! ## Steps -/

variable {s : DsmCore} {file : DebugFile} {count : ℕ} {selector : UInt64}

namespace DebugFile

theorem write_selector (value : UInt64) :
    write 0x03d0 value file = { file with selector := value } := by
  rw [write, if_pos rfl]

theorem write_data {value : UInt64} (hwrites : file.selector &&& writeBit ≠ 0) :
    write 0x03d2 value file =
      { file with registers := Function.update file.registers (index file.selector) value } := by
  rw [write, if_neg (by decide), if_pos rfl, if_neg hwrites]

theorem write_data_of_ne {register : UInt64} (hindex : index file.selector ≠ register)
    (value : UInt64) : (write 0x03d2 value file).registers register = file.registers register := by
  rw [write, if_neg (by decide), if_pos rfl]
  split_ifs
  · rfl
  · exact Function.update_of_ne hindex.symm ..

theorem read_data : read 0x03d2 file = (file.registers (index file.selector), file) := by
  rw [read, if_neg (by decide), if_pos rfl]

theorem registers_write_selector (value : UInt64) :
    (write 0x03d0 value file).registers = file.registers := by
  rw [write_selector]

theorem registers_write_port {register : UInt64} (hselector : register ≠ 0x03d0)
    (hdata : register ≠ 0x03d2) (value : UInt64) :
    (write register value file).registers = file.registers := by
  rw [write, if_neg hselector, if_neg hdata]

theorem write_pair_of_ne {register : UInt64} (hindex : index selector ≠ register)
    (value : UInt64) : (write 0x03d2 value (write 0x03d0 selector file)).registers register =
      file.registers register := by
  rw [write_selector]
  exact write_data_of_ne hindex value

theorem write_pair (hwrites : selector &&& writeBit ≠ 0) (value : UInt64) :
    (write 0x03d2 value (write 0x03d0 selector file)).registers (index selector) = value := by
  rw [write_selector, write_data hwrites]
  exact Function.update_self ..

end DebugFile

/-- The register and the copy of it. -/
def trace (s : DsmCore) : UInt64 × UInt64 := (s.file.registers traceRegister, s.control.orig)

theorem trace_select (selector : UInt64) (s : DsmCore) : trace (select selector s) = trace s := by
  rw [select, fptan, DebugFile.write_selector, trace, trace]

theorem selector_select (selector : UInt64) (s : DsmCore) :
    (select selector s).file.selector = selector := by
  rw [select, fptan, DebugFile.write_selector]

/-- All steps but the first have been taken. -/
theorem runFor_selectWrite (value : DsmCore → UInt64) :
    runFor (count + 2) (selectWrite selector value) s =
      fptan 0x03d2 value (select selector s) := by
  rw [runFor_of_length_le (by simp [selectWrite])]
  rfl

/-- A write to another register. -/
theorem keeps_selectWrite (hselector : DebugFile.index selector ≠ traceRegister)
    (value : DsmCore → UInt64) : Keeps trace (selectWrite selector value) := by
  intro count s
  rcases count with - | - | count
  · rfl
  · exact trace_select selector s
  · have hother : DebugFile.index (select selector s).file.selector ≠ traceRegister := by
      rwa [selector_select]
    rw [runFor_selectWrite, ← trace_select selector s, trace, fptan]
    dsimp only
    rw [DebugFile.write_data_of_ne hother, trace]

/-- A write to the register takes two steps. -/
theorem trace_selectWrite (value : DsmCore → UInt64) (count : ℕ) (s : DsmCore) :
    trace (runFor count (selectWrite 0x80001000 value) s) =
      if 2 ≤ count then (value (select 0x80001000 s), (trace s).2) else trace s := by
  rcases count with - | - | count
  · rfl
  · exact trace_select _ s
  · have hwrites : (select 0x80001000 s).file.selector &&& DebugFile.writeBit ≠ 0 := by
      rw [selector_select]
      decide
    have hindex : DebugFile.index 0x80001000 = traceRegister := by decide
    rw [if_pos (by omega), runFor_selectWrite, ← trace_select 0x80001000 s, trace, fptan]
    dsimp only
    rw [DebugFile.write_data hwrites, selector_select, hindex]
    dsimp only
    rw [Function.update_self, trace]

/-- So does the copy. -/
theorem trace_saveTrace (count : ℕ) (s : DsmCore) : trace (runFor count saveTrace s) =
    if 2 ≤ count then ((trace s).1, (trace s).1) else trace s := by
  rcases count with - | - | count
  · rfl
  · exact trace_select _ s
  · have hindex : DebugFile.index 0x00001000 = traceRegister := by decide
    have hsaved : runFor (count + 2) saveTrace s = fpatan 0x03d2
        (fun orig s => { s with control := { s.control with orig := orig } })
        (select 0x00001000 s) := by
      rw [runFor_of_length_le (by simp [saveTrace])]
      rfl
    rw [if_pos (by omega), hsaved, ← trace_select 0x00001000 s, fpatan, DebugFile.read_data,
      selector_select, hindex, trace, trace]

/-! ## The parts that leave the register alone -/

theorem keeps_prepareBuffers : Keeps trace prepareBuffers := by
  apply keeps_of_forall
  intro step hstep s
  simp only [prepareBuffers, List.mem_append, List.mem_cons, List.not_mem_nil, or_false,
    List.mem_map] at hstep
  rcases hstep with (rfl | rfl | rfl | rfl) | ⟨index, -, rfl⟩
  · rfl
  · exact trace_select _ s
  · rfl
  · rfl
  · rfl

theorem keeps_resetIndex : Keeps trace resetIndex :=
  (keeps_selectWrite (by decide) _).append (keeps_selectWrite (by decide) _)

theorem keeps_clearEntry (index : ℕ) : Keeps trace (clearEntry index) :=
  ((keeps_selectWrite (by decide) _).append (keeps_selectWrite (by decide) _)).append
    (keeps_selectWrite (by decide) _)

theorem keeps_prepareRing : Keeps trace prepareRing :=
  ((keeps_resetIndex.append (.flatMap fun index _ => keeps_clearEntry index)).append
    (keeps_selectWrite (by decide) _)).append keeps_resetIndex

theorem keeps_storeEntry (index : ℕ) : Keeps trace (storeEntry index) := by
  refine (keeps_selectWrite (by decide) _).append (keeps_of_forall fun step hstep s => ?_)
  simp only [List.mem_cons, List.not_mem_nil, or_false] at hstep
  rcases hstep with rfl | rfl | rfl | rfl
  · exact trace_select _ s
  · rfl
  · exact trace_select _ s
  · rfl

theorem keeps_storeRing : Keeps trace storeRing := by
  refine Keeps.append (keeps_of_forall fun step hstep s => ?_)
    (.flatMap fun index _ => keeps_storeEntry index)
  simp only [List.mem_cons, List.not_mem_nil, or_false] at hstep
  rcases hstep with rfl | rfl
  · exact trace_select _ s
  · rfl

theorem keeps_afterRestore : Keeps trace [select 0x00001000,
    onHeader fun header => { header with numItems := UInt64.ofNat maximumDsmEntries }] := by
  refine keeps_of_forall fun step hstep s => ?_
  simp only [List.mem_cons, List.not_mem_nil, or_false] at hstep
  rcases hstep with rfl | rfl
  · exact trace_select _ s
  · rfl

/-! ## The routine as a whole -/

/-- Where an iteration of the loop reads. -/
def entryIndex (idxInfo : UInt64) (index : ℕ) : UInt64 :=
  (((idxInfo >>> 48) &&& UInt64.ofNat (maximumDsmEntries - 1)) + UInt64.ofNat index) &&&
    UInt64.ofNat (maximumDsmEntries - 1)

theorem run_storeEntry (index : ℕ) (s : DsmCore) :
    run (storeEntry index) s =
      { control := { s.control with
          eventBuffer := Function.update s.control.eventBuffer index
            (readEntry DebugFile.port (entryIndex s.control.fileHeader.idxInfo index) s.file).1 }
        file := (readEntry DebugFile.port
          (entryIndex s.control.fileHeader.idxInfo index) s.file).2
        data0 := (readEntry DebugFile.port
          (entryIndex s.control.fileHeader.idxInfo index) s.file).1.data0 } :=
  rfl

theorem run_storeEntries (remaining index : ℕ) (s : DsmCore) :
    let stored := storeEntries DebugFile.port
      ((s.control.fileHeader.idxInfo >>> 48) &&& UInt64.ofNat (maximumDsmEntries - 1))
      remaining index s.control.eventBuffer s.file
    (run ((List.range' index remaining).flatMap storeEntry) s).control =
        { s.control with eventBuffer := stored.1 } ∧
      (run ((List.range' index remaining).flatMap storeEntry) s).file = stored.2 := by
  induction remaining generalizing index s with
  | zero => exact ⟨rfl, rfl⟩
  | succ remaining ih =>
      obtain ⟨next, hnext⟩ : ∃ next, next = run (storeEntry index) s := ⟨_, rfl⟩
      have hrest := ih (index + 1) next
      rw [List.range'_succ, List.flatMap_cons, run_append, ← hnext]
      rw [run_storeEntry] at hnext
      subst hnext
      exact hrest

/-- Step by step, `store_dsm_capture` is the routine that unrolls the ring. -/
theorem run_storeDsmCaptureSteps (s : DsmCore) :
    (run storeDsmCaptureSteps s).control = (storeDsmCapture DebugFile.port s.control s.file).1 ∧
      (run storeDsmCaptureSteps s).file = (storeDsmCapture DebugFile.port s.control s.file).2 := by
  obtain ⟨selected, hselected⟩ : ∃ selected, selected =
      DebugFile.port.writeFencedFptan 0x03d0 0x00003000 s.file := ⟨_, rfl⟩
  obtain ⟨info, hinfo⟩ : ∃ info, DebugFile.port.readFencedFpatan 0x03d2 selected =
      (info, selected) := ⟨_, DebugFile.read_data⟩
  obtain ⟨begun, hbegun⟩ : ∃ begun : DsmCore, begun = { s with
      control := { s.control with fileHeader := { s.control.fileHeader with idxInfo := info } }
      file := selected } := ⟨_, rfl⟩
  have hbegin : run [select 0x00003000, fpatan 0x03d2 fun info =>
      onHeader fun header => { header with idxInfo := info }] s = begun := by
    have hvalue : info = (DebugFile.port.readFencedFpatan 0x03d2 selected).1 := by rw [hinfo]
    rw [hbegun, hvalue, hselected]
    rfl
  obtain ⟨hcontrol, hfile⟩ := run_storeEntries maximumDsmEntries 0 begun
  obtain ⟨unrolled, hunrolled⟩ : ∃ unrolled,
      unrolled = run ((List.range' 0 maximumDsmEntries).flatMap storeEntry) begun := ⟨_, rfl⟩
  have hsteps : run storeDsmCaptureSteps s = run (restoreTrace ++ [select 0x00001000,
      onHeader fun header => { header with numItems := UInt64.ofNat maximumDsmEntries }])
      unrolled := by
    have hring : run storeRing s = unrolled := by
      rw [storeRing, run_append, hbegin, List.range_eq_range', hunrolled]
    rw [storeDsmCaptureSteps, run_append, hring]
  rw [← hunrolled, hbegun] at hcontrol hfile
  rw [storeDsmCapture, ← hselected]
  dsimp only at hcontrol hfile ⊢
  rw [hinfo]
  dsimp only
  constructor
  · calc (run storeDsmCaptureSteps s).control
        = { unrolled.control with fileHeader :=
            { unrolled.control.fileHeader with
              numItems := UInt64.ofNat maximumDsmEntries } } := by rw [hsteps]; rfl
      _ = _ := by rw [hcontrol]
  · calc (run storeDsmCaptureSteps s).file
        = DebugFile.write 0x03d0 0x00001000 (DebugFile.write 0x03d2 unrolled.control.orig
            (DebugFile.write 0x03d0 0x80001000 unrolled.file)) := by rw [hsteps]; rfl
      _ = _ := by
          rw [hcontrol, hfile]
          rfl

/-! ## One call -/

theorem trace_prepareDsmCapture (count : ℕ) (s : DsmCore) :
    trace (runFor count prepareDsmCapture s) =
      if prepareBuffers.length + 4 ≤ count then ((trace s).1 &&& ~~~traceBit, (trace s).1)
      else if prepareBuffers.length + 2 ≤ count then ((trace s).1, (trace s).1)
      else trace s := by
  have hlength : saveTrace.length = 2 := rfl
  obtain ⟨begun, hbegun⟩ : ∃ begun, begun = runFor count prepareBuffers s := ⟨_, rfl⟩
  obtain ⟨saved, hsaved⟩ : ∃ saved,
      saved = runFor (count - prepareBuffers.length) saveTrace begun := ⟨_, rfl⟩
  have hbegunTrace : trace begun = trace s := by
    rw [hbegun, keeps_prepareBuffers]
  have hsavedTrace := trace_saveTrace (count - prepareBuffers.length) begun
  rw [← hsaved, hbegunTrace] at hsavedTrace
  have hcleared : ∀ selected : DsmCore, selected = select 0x80001000 saved →
      selected.control.orig = (trace saved).2 := by
    rintro selected rfl
    rw [← trace_select 0x80001000 saved, trace]
  rw [prepareDsmCapture, runFor_append, runFor_append, runFor_append, ← hbegun, ← hsaved,
    keeps_prepareRing, clearTrace, trace_selectWrite, hcleared _ rfl, hlength, hsavedTrace]
  by_cases hclears : prepareBuffers.length + 4 ≤ count
  · rw [if_pos hclears, if_pos (by omega), if_pos (by omega)]
  · rw [if_neg hclears, if_neg (by omega)]
    by_cases hsaves : prepareBuffers.length + 2 ≤ count
    · rw [if_pos hsaves, if_pos (by omega)]
    · rw [if_neg hsaves, if_neg (by omega)]

theorem trace_storeDsmCaptureSteps (count : ℕ) (s : DsmCore) :
    trace (runFor count storeDsmCaptureSteps s) =
      if storeRing.length + 2 ≤ count then ((trace s).2, (trace s).2) else trace s := by
  obtain ⟨unrolled, hunrolled⟩ : ∃ unrolled, unrolled = runFor count storeRing s := ⟨_, rfl⟩
  have hunrolledTrace : trace unrolled = trace s := by
    rw [hunrolled, keeps_storeRing]
  have horig : ∀ selected : DsmCore, selected = select 0x80001000 unrolled →
      selected.control.orig = (trace unrolled).2 := by
    rintro selected rfl
    rw [← trace_select 0x80001000 unrolled, trace]
  rw [storeDsmCaptureSteps, runFor_append, runFor_append, ← hunrolled, keeps_afterRestore,
    restoreTrace, trace_selectWrite, horig _ rfl, hunrolledTrace]
  by_cases hrestores : storeRing.length + 2 ≤ count
  · rw [if_pos hrestores, if_pos (by omega)]
  · rw [if_neg hrestores, if_neg (by omega)]

theorem trace_startDsmCapture (count : ℕ) (s : DsmCore) :
    trace (runFor count startDsmCapture s) =
      if 1 ≤ count then ((trace s).2, (trace s).2) else trace s := by
  have hindex : DebugFile.index 0x80001000 = traceRegister := by decide
  rcases count with - | count
  · rfl
  · rw [if_pos (by omega), runFor_of_length_le (by simp [startDsmCapture]), trace]
    simp [startDsmCapture, run, DebugFile.writeFencedFprem, hindex, trace]

theorem trace_stopDsmCapture (count : ℕ) (s : DsmCore) :
    trace (runFor count stopDsmCapture s) =
      if 1 ≤ count then ((trace s).2 &&& ~~~traceBit, (trace s).2) else trace s := by
  have hindex : DebugFile.index 0x80001000 = traceRegister := by decide
  rcases count with - | count
  · rfl
  · rw [if_pos (by omega), runFor_of_length_le (by simp [stopDsmCapture]), trace]
    simp [stopDsmCapture, run, DebugFile.writeFencedFprem, hindex, trace]

/-- What a call does to the register and to its copy. -/
structure Moves (before after : UInt64 × UInt64) (call : DsmCall) : Prop where
  saves : call.Saves → after.2 = before.1
  keepsCopy : ¬ call.Saves → after.2 = before.2
  writesBack : call.WritesBack → after.1 = before.2
  clears : call.Clears → ∃ value, after.1 = value &&& ~~~traceBit
  keepsRegister : ¬ call.WritesBack → ¬ call.Clears → after.1 = before.1

theorem moves_prepareDsmCapture (s : DsmCore) (taken : ℕ) :
    Moves (trace s) (trace (runFor taken prepareDsmCapture s)) ⟨.prepareDsmCapture, taken⟩ := by
  rw [trace_prepareDsmCapture]
  by_cases hclears : prepareBuffers.length + 4 ≤ taken
  · have hsaves : prepareBuffers.length + 2 ≤ taken := by omega
    rw [if_pos hclears]
    constructor
    all_goals simp [DsmCall.Saves, DsmCall.Clears, DsmCall.WritesBack, hclears, hsaves]
    exact ⟨_, rfl⟩
  rw [if_neg hclears]
  by_cases hsaves : prepareBuffers.length + 2 ≤ taken
  · rw [if_pos hsaves]
    constructor
    all_goals simp [DsmCall.Saves, DsmCall.Clears, DsmCall.WritesBack, hclears, hsaves]
  · rw [if_neg hsaves]
    constructor
    all_goals simp [DsmCall.Saves, DsmCall.Clears, DsmCall.WritesBack, hclears, hsaves]

/-- A call that does nothing but write back, after so many steps. -/
theorem moves_of_writesBack {call : DsmCall} {before after : UInt64 × UInt64} {steps : ℕ}
    (hwrites : call.WritesBack ↔ steps ≤ call.taken) (hsaves : ¬ call.Saves)
    (hclears : ¬ call.Clears)
    (hafter : after = if steps ≤ call.taken then (before.2, before.2) else before) :
    Moves before after call := by
  by_cases htaken : steps ≤ call.taken
  · rw [if_pos htaken] at hafter
    subst hafter
    exact ⟨fun hthis => absurd hthis hsaves, fun _ => rfl, fun _ => rfl,
      fun hthis => absurd hthis hclears, fun hthis => absurd (hwrites.mpr htaken) hthis⟩
  · rw [if_neg htaken] at hafter
    subst hafter
    exact ⟨fun hthis => absurd hthis hsaves, fun _ => rfl,
      fun hthis => absurd (hwrites.mp hthis) htaken, fun hthis => absurd hthis hclears,
      fun _ _ => rfl⟩

theorem moves_startDsmCapture (s : DsmCore) (taken : ℕ) :
    Moves (trace s) (trace (runFor taken startDsmCapture s)) ⟨.startDsmCapture, taken⟩ := by
  apply moves_of_writesBack _ _ _ (trace_startDsmCapture taken s)
  · simp [DsmCall.WritesBack]
  · simp [DsmCall.Saves]
  · simp [DsmCall.Clears]

theorem moves_stopDsmCapture (s : DsmCore) (taken : ℕ) :
    Moves (trace s) (trace (runFor taken stopDsmCapture s)) ⟨.stopDsmCapture, taken⟩ := by
  rw [trace_stopDsmCapture]
  by_cases hclears : 1 ≤ taken
  · rw [if_pos hclears]
    constructor
    all_goals simp [DsmCall.Saves, DsmCall.Clears, DsmCall.WritesBack, hclears]
    exact ⟨_, rfl⟩
  · rw [if_neg hclears]
    constructor
    all_goals simp [DsmCall.Saves, DsmCall.Clears, DsmCall.WritesBack, hclears]

theorem moves_storeDsmCapture (s : DsmCore) (taken : ℕ) :
    Moves (trace s) (trace (runFor taken storeDsmCaptureSteps s)) ⟨.storeDsmCapture, taken⟩ := by
  have hafter := trace_storeDsmCaptureSteps taken s
  obtain ⟨steps, hsteps⟩ : ∃ steps, steps = storeRing.length + 2 := ⟨_, rfl⟩
  rw [← hsteps] at hafter
  apply moves_of_writesBack _ _ _ hafter
  · simp [DsmCall.WritesBack, hsteps]
  · simp [DsmCall.Saves]
  · simp [DsmCall.Clears]

theorem moves_call (s : DsmCore) (call : DsmCall) :
    Moves (trace s) (trace (call.run s)) call := by
  obtain ⟨routine, taken⟩ := call
  cases routine with
  | prepareDsmCapture => exact moves_prepareDsmCapture s taken
  | startDsmCapture => exact moves_startDsmCapture s taken
  | stopDsmCapture => exact moves_stopDsmCapture s taken
  | storeDsmCapture => exact moves_storeDsmCapture s taken

/-! ## All calls -/

/-- The phase tells where the configuration is. -/
structure Tracks (configuration : UInt64) (phase : TracePhase) (s : DsmCore) : Prop where
  written : phase.written = true ↔ (trace s).1 = configuration
  saved : phase.saved = true ↔ (trace s).2 = configuration

variable {configuration : UInt64} {phase : TracePhase}

theorem cleared_ne (htraces : configuration &&& traceBit ≠ 0) (value : UInt64) :
    value &&& ~~~traceBit ≠ configuration := by
  rintro rfl
  apply htraces
  rw [UInt64.and_assoc]
  simp

theorem Tracks.next (htracks : Tracks configuration phase s)
    (htraces : configuration &&& traceBit ≠ 0) (call : DsmCall) :
    Tracks configuration (phase.next call) (call.run s) := by
  have hmoves := moves_call s call
  rw [TracePhase.next]
  constructor
  · dsimp only
    by_cases hwrites : call.WritesBack
    · rw [if_pos hwrites, hmoves.writesBack hwrites, htracks.saved]
    rw [if_neg hwrites]
    by_cases hclears : call.Clears
    · obtain ⟨value, hvalue⟩ := hmoves.clears hclears
      rw [if_pos hclears, hvalue]
      exact iff_of_false Bool.false_ne_true (cleared_ne htraces value)
    · rw [if_neg hclears, hmoves.keepsRegister hwrites hclears, htracks.written]
  · dsimp only
    by_cases hsaves : call.Saves
    · rw [if_pos hsaves, hmoves.saves hsaves, htracks.written]
    · rw [if_neg hsaves, hmoves.keepsCopy hsaves, htracks.saved]

theorem Tracks.foldl (htracks : Tracks configuration phase s)
    (htraces : configuration &&& traceBit ≠ 0) (calls : List DsmCall) :
    Tracks configuration (calls.foldl TracePhase.next phase) (calls.foldl DsmCall.run s) := by
  induction calls generalizing phase s with
  | nil => exact htracks
  | cons call calls ih => exact ih (htracks.next htraces call)

/-- Where every copy is made of the configuration, there is none of anything
else. -/
theorem saved_of_alwaysWrittenBack {calls : List DsmCall} (hback : AlwaysWrittenBack calls)
    (hsaves : ∃ call ∈ calls, call.Saves) :
    (calls.foldl TracePhase.next TracePhase.prepared).saved = true := by
  induction calls using List.reverseRecOn with
  | nil =>
      obtain ⟨call, hcall, -⟩ := hsaves
      exact absurd hcall List.not_mem_nil
  | append_singleton calls call ih =>
      rw [List.foldl_append, List.foldl_cons, List.foldl_nil, TracePhase.next]
      dsimp only
      by_cases hlast : call.Saves
      · rw [if_pos hlast]
        exact hback calls call [] rfl hlast
      · rw [if_neg hlast]
        apply ih
        · intro earlier other later hcalls
          exact hback earlier other (later ++ [call]) (by rw [hcalls]; simp)
        · obtain ⟨other, hother, hothers⟩ := hsaves
          rcases List.mem_append.mp hother with hearlier | hhere
          · exact ⟨other, hearlier, hothers⟩
          · exact absurd (List.mem_singleton.mp hhere ▸ hothers) hlast

theorem alwaysRearms_iff_of_tracks (htraces : configuration &&& traceBit ≠ 0)
    (htracks : Tracks configuration TracePhase.prepared s) (calls : List DsmCall) :
    AlwaysRearms configuration s calls ↔ AlwaysWrittenBack calls := by
  constructor
  · intro hrearms earlier call later hcalls hsaves
    have hsaved := (hrearms earlier call later hcalls).saved hsaves
    have hbefore := htracks.foldl htraces earlier
    have hmoves := moves_call (earlier.foldl DsmCall.run s) call
    exact hbefore.written.mpr ((hmoves.saves hsaves).symm.trans hsaved)
  · intro hback earlier call later hcalls
    have hbefore := htracks.foldl htraces earlier
    have hmoves := moves_call (earlier.foldl DsmCall.run s) call
    refine ⟨fun hsaves => ?_, fun hwrites hearlier => ?_, htraces⟩
    · have hwritten := hbefore.written.mp (hback earlier call later hcalls hsaves)
      exact (hmoves.saves hsaves).trans hwritten
    · have hbackEarlier : AlwaysWrittenBack earlier := fun first other rest hsplit =>
        hback first other (rest ++ call :: later) (by rw [hcalls, hsplit]; simp)
      have hsaved := hbefore.saved.mp (saved_of_alwaysWrittenBack hbackEarlier hearlier)
      exact (hmoves.writesBack hwrites).trans hsaved

/-! ## After the configuration -/

theorem prepareDsm_traceRegister (file : DebugFile) :
    (prepareDsm file).registers traceRegister = traceConfiguration := by
  have hindex : traceRegister = DebugFile.index 0x80001000 := by decide
  rw [hindex]
  simp (disch := decide) only [prepareDsm, DebugFile.registers_write_selector,
    DebugFile.registers_write_port, DebugFile.write_pair_of_ne, DebugFile.write_pair]
  rfl

theorem traceConfiguration_traces : traceConfiguration &&& traceBit ≠ 0 := by
  decide

theorem tracks_prepared (file : DebugFile) (eventBuffer : ℕ → DSMEvent) (data0 : UInt64) :
    Tracks traceConfiguration TracePhase.prepared
      ⟨initDsmForContext eventBuffer, prepareDsm file, data0⟩ := by
  have hcopy : (0 : UInt64) ≠ traceConfiguration := by decide
  exact ⟨iff_of_true rfl (prepareDsm_traceRegister file), iff_of_false Bool.false_ne_true hcopy⟩

/-- A capture can be armed again exactly when the one before it was not held up. -/
theorem alwaysRearms_iff (file : DebugFile) (eventBuffer : ℕ → DSMEvent) (data0 : UInt64)
    (calls : List DsmCall) :
    AlwaysRearms ((prepareDsm file).registers traceRegister)
        ⟨initDsmForContext eventBuffer, prepareDsm file, data0⟩ calls ↔
      AlwaysWrittenBack calls := by
  rw [prepareDsm_traceRegister]
  exact alwaysRearms_iff_of_tracks traceConfiguration_traces
    (tracks_prepared file eventBuffer data0) calls

theorem length_prepareBuffers : prepareBuffers.length = 132 := by
  simp [prepareBuffers, maximumDsmEntries]

/-- A preparation that returned, with more steps allowed than it has. -/
def preparation : DsmCall := ⟨.prepareDsmCapture, 1000⟩

theorem saves_preparation : preparation.Saves :=
  ⟨rfl, by rw [length_prepareBuffers, preparation]; decide⟩

theorem clears_preparation : preparation.Clears :=
  .inl ⟨rfl, by rw [length_prepareBuffers, preparation]; decide⟩

theorem not_writesBack_preparation : ¬ preparation.WritesBack := by
  simp [DsmCall.WritesBack, preparation]

/-- The code under test faults before the capture is started, and the next job
prepares its own. -/
theorem not_alwaysRearms_abandoned : ¬ ∀ (file : DebugFile) (eventBuffer : ℕ → DSMEvent)
    (data0 : UInt64) (calls : List DsmCall),
    AlwaysRearms ((prepareDsm file).registers traceRegister)
      ⟨initDsmForContext eventBuffer, prepareDsm file, data0⟩ calls := by
  intro hrearms
  obtain ⟨file, hfile⟩ : ∃ file : DebugFile, file = ⟨0, fun _ => 0, fun _ => 0⟩ := ⟨_, rfl⟩
  have hprepared := hrearms file (fun _ => ⟨0, 0⟩) 0 [preparation, preparation]
  rw [prepareDsm_traceRegister, alwaysRearms_iff_of_tracks traceConfiguration_traces
    (tracks_prepared file _ 0)] at hprepared
  have hwritten := hprepared [preparation] preparation [] rfl saves_preparation
  rw [List.foldl_cons, List.foldl_nil, TracePhase.next] at hwritten
  dsimp only at hwritten
  rw [if_neg not_writesBack_preparation, if_pos clears_preparation] at hwritten
  exact Bool.false_ne_true hwritten

end AngryUefi.Asr
