import AngryUefi.Asr.DsmTrace
import AngryUefi.Lib.Lanes

/-!
# Which counters a capture shows

Eight counters come from two groups of registers.  `prepare_dsm_capture` tells
the client in one byte for each counter which group it belongs to, and in
another one what it was selected for.
-/

namespace AngryUefi.Asr

open AngryUefi.Bytes AngryUefi.Interruption AngryUefi.Lanes

/-- A control register enables its group, and each counter of the group. -/
def Counts (control : UInt64) (counter : ℕ) : Prop :=
  control.toNat.testBit 0 = true ∧ control.toNat.testBit (counter + 8) = true

instance (control : UInt64) (counter : ℕ) : Decidable (Counts control counter) :=
  inferInstanceAs (Decidable (_ ∧ _))

/-- What a byte has for a counter of the second group, for one of the first
group, and for one that is off. -/
def byGroup (c1 c2 : UInt64) (counter : ℕ) (first second : UInt8) : UInt8 :=
  if Counts c2 counter then second else if Counts c1 counter then first else 0

/-- The bytes as they lie in the file. -/
structure Summarises (g1 c1 g2 c2 : UInt64) (header : DSMFileHeader) : Prop where
  types : ∀ counter < 8, (littleEndian 8 header.types.toNat)[counter]? =
    some (byGroup c1 c2 counter 2 1)
  sel : ∀ counter < 8, (littleEndian 8 header.sel.toNat)[counter]? =
    some (byGroup c1 c2 counter (lane g1 counter) (lane g2 counter))

/-- Two captures that find the same about one counter. -/
structure SameCounter (left right : DebugFile) (counter : ℕ) : Prop where
  first : Counts (left.ports 0x22c) counter ↔ Counts (right.ports 0x22c) counter
  second : Counts (left.ports 0x249) counter ↔ Counts (right.ports 0x249) counter
  selected : lane (left.ports 0x22b) counter = lane (right.ports 0x22b) counter
  selectedSecond : lane (left.ports 0x248) counter = lane (right.ports 0x248) counter

/-! ## The loop -/

variable {g1 c1 g2 c2 : UInt64} {index counter : ℕ} {s : DsmCore} {file : DebugFile}

/-- What one iteration adds to `types`. -/
def typesPart (c1 c2 : UInt64) (index : ℕ) : UInt64 :=
  if Counts c2 index then (0x01 : UInt64) <<< (UInt64.ofNat index * 8)
  else if Counts c1 index then (0x02 : UInt64) <<< (UInt64.ofNat index * 8)
  else 0

/-- What one iteration adds to `sel`. -/
def selPart (g1 c1 g2 c2 : UInt64) (index : ℕ) : UInt64 :=
  if Counts c2 index then g2 &&& ((0xFF : UInt64) <<< (UInt64.ofNat index * 8))
  else if Counts c1 index then g1 &&& ((0xFF : UInt64) <<< (UInt64.ofNat index * 8))
  else 0

/-- The test of the loop. -/
theorem counts_iff (control : UInt64) (hindex : index < 8) :
    (control &&& 1 ≠ 0 ∧ control &&& ((0x01 : UInt64) <<< (UInt64.ofNat index + 8)) ≠ 0) ↔
      Counts control index := by
  have hlow : (1 : UInt64) = (1 : UInt64) <<< UInt64.ofNat 0 := rfl
  have hhigh : UInt64.ofNat index + 8 = UInt64.ofNat (index + 8) := by
    rw [UInt64.ofNat_add]
    rfl
  rw [hhigh, and_bit_ne_zero_iff (by omega), Counts]
  nth_rewrite 1 [hlow]
  rw [and_bit_ne_zero_iff (by decide)]

/-- Every iteration adds its parts. -/
theorem countedEvents_eq (g1 c1 g2 c2 : UInt64) (header : DSMFileHeader) :
    countedEvents g1 c1 g2 c2 header = { header with
      types := (List.range 8).foldl (fun word index => word ||| typesPart c1 c2 index) header.types
      sel := (List.range 8).foldl (fun word index => word ||| selPart g1 c1 g2 c2 index)
        header.sel } := by
  have hall : ∀ index ∈ List.range 8, index < 8 := fun index => List.mem_range.mp
  rw [countedEvents]
  generalize List.range 8 = indices at hall
  induction indices generalizing header with
  | nil => rfl
  | cons index indices ih =>
      rw [List.forall_mem_cons] at hall
      rw [List.foldl_cons, List.foldl_cons, List.foldl_cons, ih _ hall.2]
      dsimp only
      rw [if_congr (counts_iff c2 hall.1) rfl rfl, if_congr (counts_iff c1 hall.1) rfl rfl,
        typesPart, selPart]
      split_ifs
      · rfl
      · rfl
      · rw [UInt64.or_zero, UInt64.or_zero]

/-- A part that is one of two, or nothing. -/
theorem lane_part {first second : UInt64} {firstByte secondByte : UInt8}
    (hfirst : lane first counter = if counter = index then firstByte else 0)
    (hsecond : lane second counter = if counter = index then secondByte else 0) :
    lane (if Counts c2 index then second else if Counts c1 index then first else 0) counter =
      if counter = index then byGroup c1 c2 index firstByte secondByte else 0 := by
  rw [byGroup]
  by_cases hgroup2 : Counts c2 index
  · rw [if_pos hgroup2, if_pos hgroup2, hsecond]
  rw [if_neg hgroup2, if_neg hgroup2]
  by_cases hgroup1 : Counts c1 index
  · rw [if_pos hgroup1, if_pos hgroup1, hfirst]
  · rw [if_neg hgroup1, if_neg hgroup1, lane_zero, ite_self]

theorem lane_typesPart (hindex : index < 8) (hcounter : counter < 8) :
    lane (typesPart c1 c2 index) counter =
      if counter = index then byGroup c1 c2 index 2 1 else 0 :=
  lane_part (lane_shiftLeft (by decide) hindex hcounter)
    (lane_shiftLeft (by decide) hindex hcounter)

theorem lane_selPart (hindex : index < 8) (hcounter : counter < 8) :
    lane (selPart g1 c1 g2 c2 index) counter =
      if counter = index then byGroup c1 c2 index (lane g1 counter) (lane g2 counter) else 0 :=
  lane_part (lane_and_mask hindex hcounter) (lane_and_mask hindex hcounter)

/-- The loop on a header that was zeroed. -/
theorem summarises_countedEvents {header : DSMFileHeader} (htypes : header.types = 0)
    (hsel : header.sel = 0) :
    Summarises g1 c1 g2 c2 (countedEvents g1 c1 g2 c2 header) := by
  rw [countedEvents_eq, htypes, hsel]
  constructor
  · intro counter hcounter
    rw [lane_eq_littleEndian hcounter,
      lane_foldl_or fun place hplace => lane_typesPart hplace hcounter, if_pos hcounter, lane_zero,
      UInt8.zero_or]
  · intro counter hcounter
    rw [lane_eq_littleEndian hcounter]
    have hpart : ∀ place < 8, lane (selPart g1 c1 g2 c2 place) counter =
        if counter = place then byGroup c1 c2 place (lane g1 place) (lane g2 place) else 0 := by
      intro place hplace
      rw [lane_selPart hplace hcounter]
      by_cases hsame : counter = place
      · rw [if_pos hsame, if_pos hsame, hsame]
      · rw [if_neg hsame, if_neg hsame]
    rw [lane_foldl_or hpart, if_pos hcounter, lane_zero, UInt8.zero_or]

/-! ## The routine -/

def fileHeader (s : DsmCore) : DSMFileHeader := s.control.fileHeader

theorem read_port {register : UInt64} (hselector : register ≠ 0x03d0) (hdata : register ≠ 0x03d2) :
    DebugFile.read register file = (file.ports register, file) := by
  rw [DebugFile.read, if_neg hselector, if_neg hdata]

theorem keeps_select_header (selector : UInt64) (value : DsmCore → UInt64) :
    Keeps fileHeader (selectWrite selector value) := by
  apply keeps_of_forall
  intro step hstep s
  simp only [selectWrite, List.mem_cons, List.not_mem_nil, or_false] at hstep
  rcases hstep with rfl | rfl
  · rfl
  · rfl

/-- Nothing behind the loop changes the header. -/
theorem keeps_prepareRing_header : Keeps fileHeader prepareRing := by
  have hreset : Keeps fileHeader resetIndex :=
    (keeps_select_header _ _).append (keeps_select_header _ _)
  have hclear (index : ℕ) : Keeps fileHeader (clearEntry index) :=
    ((keeps_select_header _ _).append (keeps_select_header _ _)).append (keeps_select_header _ _)
  exact ((hreset.append (.flatMap fun index _ => hclear index)).append
    (keeps_select_header _ _)).append hreset

theorem keeps_saveTrace_header : Keeps fileHeader saveTrace := by
  apply keeps_of_forall
  intro step hstep s
  simp only [saveTrace, List.mem_cons, List.not_mem_nil, or_false] at hstep
  rcases hstep with rfl | rfl
  · rfl
  · rfl

theorem keeps_clearEvents_header : Keeps fileHeader
    ((List.range maximumDsmEntries).map fun index => setEvent index fun _ => ⟨0, 0⟩) := by
  apply keeps_of_forall
  intro step hstep s
  obtain ⟨index, -, rfl⟩ := List.mem_map.mp hstep
  rfl

theorem keeps_clearTrace_header : Keeps fileHeader clearTrace := keeps_select_header _ _

/-- The header is what the loop has made of a fresh one. -/
theorem fileHeader_prepareDsmCapture (s : DsmCore) :
    ∃ header : DSMFileHeader, header.types = 0 ∧ header.sel = 0 ∧
      fileHeader (run prepareDsmCapture s) = countedEvents (s.file.ports 0x22b)
        (s.file.ports 0x22c) (s.file.ports 0x248) (s.file.ports 0x249) header := by
  have hbehind := (keeps_clearEvents_header.append (keeps_saveTrace_header.append
    (keeps_clearTrace_header.append keeps_prepareRing_header))).run_eq
  obtain ⟨selected, hselected⟩ : ∃ selected, selected =
    DebugFile.write 0x03d0 0x00001032 s.file := ⟨_, rfl⟩
  have hports : selected.ports = s.file.ports := by
    rw [hselected, DebugFile.write_selector]
  have hread (register : UInt64) (hselector : register ≠ 0x03d0) (hdata : register ≠ 0x03d2) :
      (DebugFile.read register selected).1 = s.file.ports register := by
    rw [read_port hselector hdata, hports]
  refine ⟨⟨((48 : UInt64) <<< 32) ||| 0x2, (DebugFile.read 0x03d2 selected).1, 0, 0, 0, 0⟩,
    rfl, rfl, ?_⟩
  rw [prepareDsmCapture, prepareBuffers, List.append_assoc, run_append, hbehind,
    ← hread 0x22b (by decide) (by decide), ← hread 0x22c (by decide) (by decide),
    ← hread 0x248 (by decide) (by decide), ← hread 0x249 (by decide) (by decide), hselected]
  rfl

/-- Whatever a capture before has left, each byte tells of its counter, and of
nothing but its counter. -/
theorem summarises_prepareDsmCapture (s : DsmCore) :
    Summarises (s.file.ports 0x22b) (s.file.ports 0x22c) (s.file.ports 0x248) (s.file.ports 0x249)
        (run prepareDsmCapture s).control.fileHeader ∧
      ∀ t : DsmCore, ∀ counter < 8, SameCounter s.file t.file counter →
        lane (run prepareDsmCapture s).control.fileHeader.types counter =
            lane (run prepareDsmCapture t).control.fileHeader.types counter ∧
          lane (run prepareDsmCapture s).control.fileHeader.sel counter =
            lane (run prepareDsmCapture t).control.fileHeader.sel counter := by
  have hsummary (s : DsmCore) : Summarises (s.file.ports 0x22b) (s.file.ports 0x22c)
      (s.file.ports 0x248) (s.file.ports 0x249) (run prepareDsmCapture s).control.fileHeader := by
    obtain ⟨header, htypes, hsel, hheader⟩ := fileHeader_prepareDsmCapture s
    rw [← fileHeader, hheader]
    exact summarises_countedEvents htypes hsel
  refine ⟨hsummary s, ?_⟩
  intro t counter hcounter hsame
  have hgroup (first second : UInt8) :
      byGroup (s.file.ports 0x22c) (s.file.ports 0x249) counter first second =
        byGroup (t.file.ports 0x22c) (t.file.ports 0x249) counter first second := by
    rw [byGroup, byGroup, if_congr hsame.second rfl rfl, if_congr hsame.first rfl rfl]
  constructor
  · have hleft := (hsummary s).types counter hcounter
    have hright := (hsummary t).types counter hcounter
    rw [lane_eq_littleEndian hcounter, Option.some.injEq] at hleft hright
    rw [hleft, hright, hgroup]
  · have hleft := (hsummary s).sel counter hcounter
    have hright := (hsummary t).sel counter hcounter
    rw [lane_eq_littleEndian hcounter, Option.some.injEq] at hleft hright
    rw [hleft, hright, hgroup, hsame.selected, hsame.selectedSecond]

end AngryUefi.Asr
