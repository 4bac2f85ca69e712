import AngryUefi.Handlers.Admission
import AngryUefi.Handlers.Leaks
import AngryUefi.Handlers.PageTables
import AngryUefi.System.MinimalPaging

/-!
# Page tables for the client

GETPAGINGINFO against the page walk.  The handler takes an index of the client
for a place in a table of 1024 entries behind the PML4, and follows the address
bits of any entry there.
-/

namespace AngryUefi.System

open AngryUefi.Bytes AngryUefi.Framing AngryUefi.Handlers AngryUefi.PageWalk AngryUefi.Programs

/-! ## What a request asks for -/

/-- The indices of a request. -/
structure PageIndices where
  pml4 : UInt64
  pdpt : UInt64
  pd : UInt64
  pt : UInt64

namespace PageIndices

def ofPayload (payload : Memory) : PageIndices :=
  ⟨payload.u64 1, payload.u64 2, payload.u64 3, payload.u64 4⟩

/-- The indices that lead from table to table. -/
def path (indices : PageIndices) : List ℕ :=
  [indices.pml4.toNat, indices.pdpt.toNat, indices.pd.toNat]

/-- How many tables below the PML4 the requested one is, and the requested entry
unless it is the whole table. -/
def request (indices : PageIndices) : ℕ × Option ℕ :=
  if indices.pml4 = currentTable then (0, none)
  else if indices.pdpt = currentTable then (1, none)
  else if indices.pdpt = previousEntry then (0, some indices.pml4.toNat)
  else if indices.pd = currentTable then (2, none)
  else if indices.pd = previousEntry then (1, some indices.pdpt.toNat)
  else if indices.pt = currentTable then (3, none)
  else if indices.pt = previousEntry then (2, some indices.pd.toNat)
  else (3, some indices.pt.toNat)

/-- Refused by the handler. -/
def Refused (indices : PageIndices) : Prop :=
  IndicesRefused indices.pml4 indices.pdpt indices.pd indices.pt

end PageIndices

/-- The table that the walk comes to by the first indices. -/
def walkedTable (memory : PhysicalMemory) (cr3 : ℕ) (indices : PageIndices) (depth : ℕ) :
    Option ℕ :=
  tableAlong memory 3 cr3 (indices.path.take depth)

/-- The walk comes to what is requested. -/
def Walkable (memory : PhysicalMemory) (cr3 : ℕ) (indices : PageIndices) : Prop :=
  ∃ table, walkedTable memory cr3 indices indices.request.1 = some table ∧
    ∀ position ∈ indices.request.2, position < 512

/-! ## What the client is told -/

/-- The entries in a frame. -/
def pageEntries : Event → List PageInfo
  | .sent bytes =>
      match parseMessage (bytes.drop 4) with
      | some (messageType, payload, _) =>
          if messageType = MessageType.pagingInfo.code then entriesOf payload else []
      | none => []
  | _ => []

/-- The entries in the frames that were sent between two states. -/
def reportedEntries (s t : Server) : List PageInfo :=
  (t.trace.drop s.trace.length).flatMap pageEntries

/-- Nothing but an error is sent. -/
def ErrorSent (s t : Server) : Prop :=
  ∃ (code : UInt32) (text : List UInt8), code ≠ 0 ∧ t.trace = s.trace ++
    [.constructed MessageType.status.code (littleEndian 4 code.toNat ++ text) true,
      .sent (frame (messageBody MessageType.status.code (littleEndian 4 code.toNat ++ text) true))]

/-- The entry is what the walk reads there. -/
def ReadByWalk (memory : PhysicalMemory) (cr3 : ℕ) (indices : PageIndices) (info : PageInfo) :
    Prop :=
  info.position.toNat < 512 ∧ ∃ depth table, depth ≤ 3 ∧ info.level.toNat = 4 - depth ∧
    walkedTable memory cr3 indices depth = some table ∧
      info.entry = memory (table + 8 * info.position.toNat)

/-- Every entry is what the walk reads, and what it does not come to is answered
by an error. -/
structure FollowsWalk (memory : PhysicalMemory) (cr3 : ℕ) (indices : PageIndices)
    (s t : Server) : Prop where
  entries : ∀ info ∈ reportedEntries s t, ReadByWalk memory cr3 indices info
  refused : ¬ Walkable memory cr3 indices → reportedEntries s t = [] ∧ ErrorSent s t

/-! ## What the handler does -/

def getPtAt (memory : PhysicalMemory) (cr3 pml4Index pdptIndex ptIndex : ℕ) : ℕ :=
  let pd := getPdAt memory cr3 pml4Index pdptIndex
  if pd = 0 ∨ ptIndex ≥ 1024 then 0 else getFullAddress (memory (pd + 8 * ptIndex))

/-- What the handler sends. -/
inductive PageReply
  | table (base : ℕ) (length : UInt16) (level : UInt8)
  | entry (base : ℕ) (index : UInt64) (level : UInt8)
  | refused

/-- The reply of `pagingLevelStep`. -/
def levelReply (table above : ℕ) (aboveIndex index : UInt64) (level : UInt8)
    (deeper : PageReply) : PageReply :=
  if index = currentTable then .table table 1024 level
  else if index = previousEntry then .entry above aboveIndex (level + 1)
  else if index ≥ 1024 then .refused
  else deeper

/-- The reply of `handleGetPagingInfo`, when the memory stays what it is. -/
def pageReply (memory : PhysicalMemory) (cr3 : ℕ) (indices : PageIndices) : PageReply :=
  let pdpt := getPdptAt memory cr3 indices.pml4.toNat
  let pd := getPdAt memory cr3 indices.pml4.toNat indices.pdpt.toNat
  let pt := getPtAt memory cr3 indices.pml4.toNat indices.pdpt.toNat indices.pd.toNat
  if indices.pml4 = currentTable then .table cr3 512 4
  else if indices.pml4 ≥ 512 then .refused
  else
    levelReply pdpt cr3 indices.pml4 indices.pdpt 3
      (levelReply pd pdpt indices.pdpt indices.pd 2
        (levelReply pt pd indices.pd indices.pt 1 (.entry pt indices.pt 1)))

variable {firmware : Firmware} {memory : UInt64 → UInt64} {s t : Server}

/-- The memory by the numbers of its bytes. -/
def physical (memory : UInt64 → UInt64) : PhysicalMemory :=
  fun address => memory (UInt64.ofNat address)

/-- The reply was sent. -/
def Replied (firmware : Firmware) (flags cr3 : UInt64) (s t : Server) : PageReply → Prop
  | .table base length level => ∃ infos,
      List.Forall₂ (EntryRead firmware (UInt64.ofNat base) level) (List.range length.toNat)
        infos ∧ TableSent flags cr3 infos s t
  | .entry base index level => ∃ info,
      EntryRead firmware (UInt64.ofNat base) level index.toNat info ∧
        TableSent flags cr3 [info] s t
  | .refused => ErrorSent s t

/-- Nothing was sent or prepared for it. -/
structure Unsent (s t : Server) : Prop where
  trace : t.trace = s.trace
  payloadBuffer : t.payloadBuffer = s.payloadBuffer

/-- The program finds a table, and sends nothing. -/
def Finds (firmware : Firmware) (program : Handler UInt64) (table : ℕ) : Prop :=
  ∀ s, ∃ t, program firmware s = some (UInt64.ofNat table, t) ∧ Unsent s t

theorem Unsent.trans {middle : Server} (hfirst : Unsent s middle) (hsecond : Unsent middle t) :
    Unsent s t :=
  ⟨hsecond.trace.trans hfirst.trace, hsecond.payloadBuffer.trans hfirst.payloadBuffer⟩

/-- Whatever ran before does not matter to what is sent. -/
theorem Unsent.replied {middle : Server} {flags cr3 : UInt64} {reply : PageReply}
    (hunsent : Unsent s middle) (hreplied : Replied firmware flags cr3 middle t reply) :
    Replied firmware flags cr3 s t reply := by
  have hbuffer (address : ℕ) (_ : 1400 ≤ address) :
      middle.payloadBuffer address = s.payloadBuffer address :=
    congrFun hunsent.payloadBuffer address
  cases reply with
  | table base length level =>
      obtain ⟨infos, hread, hsent⟩ := hreplied
      exact ⟨infos, hread, hsent.of_headed hunsent.trace hbuffer⟩
  | entry base index level =>
      obtain ⟨info, hread, hsent⟩ := hreplied
      exact ⟨info, hread, hsent.of_headed hunsent.trace hbuffer⟩
  | refused =>
      obtain ⟨code, text, hcode, htrace⟩ := hreplied
      rw [hunsent.trace] at htrace
      exact ⟨code, text, hcode, htrace⟩

theorem physical_add (memory : UInt64 → UInt64) (base : ℕ) (index : UInt64) :
    physical memory (base + 8 * index.toNat) = memory (UInt64.ofNat base + 8 * index) := by
  rw [physical, UInt64.ofNat_add, UInt64.ofNat_mul, UInt64.ofNat_toNat]
  rfl

theorem finds_tableAt (hmemory : ∀ time, firmware.physicalMemory time = memory) (base : ℕ)
    (index : UInt64) :
    Finds firmware (tableAt (UInt64.ofNat base) index)
      (getFullAddress (physical memory (base + 8 * index.toNat))) := by
  intro s
  refine ⟨{ s with clock := s.clock + 1 }, ?_, ⟨rfl, rfl⟩⟩
  rw [getFullAddress, UInt64.ofNat_toNat, physical_add, ← hmemory s.clock]
  rfl

theorem finds_getPdptAt (hmemory : ∀ time, firmware.physicalMemory time = memory)
    (cr3 pml4Index : UInt64) :
    Finds firmware (Handlers.getPdptAt cr3 pml4Index)
      (getPdptAt (physical memory) cr3.toNat pml4Index.toNat) := by
  intro s
  rw [Handlers.getPdptAt, getPdptAt, getPml4]
  have hrange : pml4Index ≥ 512 ↔ pml4Index.toNat ≥ 512 := UInt64.le_iff_toNat_le
  by_cases hbig : pml4Index ≥ 512
  · rw [if_pos hbig, if_pos (hrange.mp hbig)]
    exact ⟨s, rfl, ⟨rfl, rfl⟩⟩
  · rw [if_neg hbig, if_neg (mt hrange.mpr hbig)]
    have hfound := finds_tableAt hmemory cr3.toNat pml4Index s
    rwa [UInt64.ofNat_toNat] at hfound

theorem getFullAddress_lt (entry : UInt64) : getFullAddress entry < 2 ^ 64 :=
  (Handlers.tableAddress entry).toNat_lt

/-- The table two levels up is looked up first. -/
theorem finds_below (hmemory : ∀ time, firmware.physicalMemory time = memory)
    {above : Handler UInt64} {table : ℕ} (habove : Finds firmware above table)
    (hbound : table < 2 ^ 64) (index : UInt64) :
    Finds firmware (do
        let found ← above
        if found = 0 ∨ index ≥ 1024 then return 0 else tableAt found index)
      (if table = 0 ∨ index.toNat ≥ 1024 then 0
        else getFullAddress (physical memory (table + 8 * index.toNat))) := by
  intro s
  obtain ⟨middle, hrun, hunsent⟩ := habove s
  have hzero : UInt64.ofNat table = 0 ↔ table = 0 := by
    rw [← UInt64.toNat_inj, UInt64.toNat_ofNat', Nat.mod_eq_of_lt hbound]
    rfl
  have hrange : index ≥ 1024 ↔ index.toNat ≥ 1024 := UInt64.le_iff_toNat_le
  rw [bind_of_eq_some hrun]
  by_cases hnull : UInt64.ofNat table = 0 ∨ index ≥ 1024
  · rw [if_pos hnull, if_pos ((or_congr hzero hrange).mp hnull)]
    exact ⟨middle, rfl, hunsent⟩
  · rw [if_neg hnull, if_neg (mt (or_congr hzero hrange).mpr hnull)]
    obtain ⟨t, hfound, hlater⟩ := finds_tableAt hmemory table index middle
    exact ⟨t, hfound, hunsent.trans hlater⟩

theorem getPdptAt_lt (memory : PhysicalMemory) (cr3 pml4Index : ℕ) :
    getPdptAt memory cr3 pml4Index < 2 ^ 64 := by
  rw [getPdptAt]
  split
  · decide
  · exact getFullAddress_lt _

theorem getPdAt_lt (memory : PhysicalMemory) (cr3 pml4Index pdptIndex : ℕ) :
    getPdAt memory cr3 pml4Index pdptIndex < 2 ^ 64 := by
  rw [getPdAt]
  split
  · decide
  · exact getFullAddress_lt _

theorem finds_getPdAt (hmemory : ∀ time, firmware.physicalMemory time = memory)
    (cr3 pml4Index pdptIndex : UInt64) :
    Finds firmware (Handlers.getPdAt cr3 pml4Index pdptIndex)
      (getPdAt (physical memory) cr3.toNat pml4Index.toNat pdptIndex.toNat) :=
  finds_below hmemory (finds_getPdptAt hmemory cr3 pml4Index) (getPdptAt_lt _ _ _) pdptIndex

theorem finds_getPtAt (hmemory : ∀ time, firmware.physicalMemory time = memory)
    (cr3 pml4Index pdptIndex ptIndex : UInt64) :
    Finds firmware (Handlers.getPtAt cr3 pml4Index pdptIndex ptIndex)
      (getPtAt (physical memory) cr3.toNat pml4Index.toNat pdptIndex.toNat ptIndex.toNat) :=
  finds_below hmemory (finds_getPdAt hmemory cr3 pml4Index pdptIndex) (getPdAt_lt _ _ _ _) ptIndex

theorem reject_replied (hdelivers : firmware.Delivers) (hprints : firmware.Prints)
    {code : UInt32} (hcode : code ≠ 0) (text : String) (arguments : List UInt64)
    (flags cr3 : UInt64) (s : Server) :
    ∃ status t, reject code text arguments firmware s = some (status, t) ∧
      Replied firmware flags cr3 s t .refused := by
  obtain ⟨t, hrun, hsent⟩ := reject_run hdelivers hprints code text arguments s
  obtain ⟨text, htrace⟩ := hsent.trace
  exact ⟨_, t, hrun, code, text, hcode, htrace⟩

theorem sendEntry_replied (hdelivers : firmware.Delivers) (base : ℕ) {index : UInt64}
    (hindex : index < 1024) (level : UInt8) (flags cr3 : UInt64) (s : Server) :
    ∃ status t, sendEntry (UInt64.ofNat base + 8 * index) index.toUInt16 level flags cr3 firmware
        s = some (status, t) ∧
      Replied firmware flags cr3 s t (.entry base index level) := by
  have hbelow : index.toNat < 1024 := UInt64.lt_iff_toNat_lt.mp hindex
  obtain ⟨t, info, hrun, hread, hsent⟩ := sendEntry_sends hdelivers (UInt64.ofNat base)
    (by omega : index.toNat < 2 ^ 16) level flags cr3 s
  rw [UInt64.ofNat_toNat] at hrun
  exact ⟨_, t, hrun, info, hread, hsent⟩

/-- A level sends its reply when the levels below it do. -/
theorem pagingLevelStep_replied (hdelivers : firmware.Delivers) (hprints : firmware.Prints)
    (table above : ℕ) {aboveIndex index flags cr3 : UInt64} (habove : aboveIndex < 1024)
    (level : UInt8) {code : UInt32} (hcode : code ≠ 0) (text : String) {deeper : Handler EfiStatus}
    {reply : PageReply}
    (hdeeper : index < 1024 → ∃ status t, deeper firmware s = some (status, t) ∧
      Replied firmware flags cr3 s t reply) :
    ∃ status t, pagingLevelStep (UInt64.ofNat table) (UInt64.ofNat above) aboveIndex index flags
        cr3 level code text deeper firmware s = some (status, t) ∧
      Replied firmware flags cr3 s t
        (levelReply table above aboveIndex index level reply) := by
  rw [pagingLevelStep, levelReply]
  by_cases hcurrent : index = currentTable
  · rw [if_pos hcurrent, if_pos hcurrent]
    obtain ⟨t, infos, hrun, hread, hsent⟩ :=
      sendTable_sends hdelivers (UInt64.ofNat table) 1024 level flags cr3 s
    exact ⟨_, t, hrun, infos, hread, hsent⟩
  rw [if_neg hcurrent, if_neg hcurrent]
  by_cases hprevious : index = previousEntry
  · rw [if_pos hprevious, if_pos hprevious]
    exact sendEntry_replied hdelivers above habove (level + 1) flags cr3 s
  rw [if_neg hprevious, if_neg hprevious]
  by_cases hbig : index ≥ 1024
  · rw [if_pos hbig, if_pos hbig]
    exact reject_replied hdelivers hprints hcode text [index] flags cr3 s
  · rw [if_neg hbig, if_neg hbig]
    exact hdeeper (UInt64.not_le.mp hbig)

/-- What the handler finds in CR3 of the core. -/
def cr3Seen (firmware : Firmware) (coreId : UInt64) (s : Server) : UInt64 :=
  let looked := lookedAt firmware coreId (lookedAt firmware coreId (lookedAt firmware coreId s))
  (looked.machine.contexts coreId.toNat).cr3Value

/-- The levels of the handler, from the state it has found CR3 in. -/
def pagingLevels (cr3 : UInt64) (indices : PageIndices) : Handler EfiStatus :=
  if indices.pml4 = currentTable then sendTable cr3 512 4 1 cr3
  else if indices.pml4 ≥ 512 then
    reject 0x2 "PML4 index %u is out of range, max 511.\n" [indices.pml4]
  else do
    let pdpt ← Handlers.getPdptAt cr3 indices.pml4
    pagingLevelStep pdpt cr3 indices.pml4 indices.pdpt 1 cr3 3 0x3
      "PDPT index %u is out of range, max 1023.\n" do
      let pd ← Handlers.getPdAt cr3 indices.pml4 indices.pdpt
      pagingLevelStep pd pdpt indices.pdpt indices.pd 1 cr3 2 0x4
        "PD index %u is out of range, max 1023.\n" do
        let pt ← Handlers.getPtAt cr3 indices.pml4 indices.pdpt indices.pd
        pagingLevelStep pt pd indices.pd indices.pt 1 cr3 1 0x5
          "PT index %u is out of range, max 1023.\n"
          (sendEntry (pt + 8 * indices.pt) indices.pt.toUInt16 1 1 cr3)

/-- What is found and then sent. -/
theorem Finds.replied {program : Handler UInt64} {table : ℕ} {flags cr3 : UInt64}
    {reply : PageReply} {next : UInt64 → Handler EfiStatus}
    (hfinds : Finds firmware program table) (s : Server)
    (hnext : ∀ s, ∃ status t, next (UInt64.ofNat table) firmware s = some (status, t) ∧
      Replied firmware flags cr3 s t reply) :
    ∃ status t, (program >>= next) firmware s = some (status, t) ∧
      Replied firmware flags cr3 s t reply := by
  obtain ⟨middle, hrun, hunsent⟩ := hfinds s
  obtain ⟨status, t, hrest, hreplied⟩ := hnext middle
  exact ⟨status, t, by rw [bind_of_eq_some hrun, hrest], hunsent.replied hreplied⟩

theorem pagingLevels_replied (hdelivers : firmware.Delivers) (hprints : firmware.Prints)
    (hmemory : ∀ time, firmware.physicalMemory time = memory) (cr3 : UInt64)
    (indices : PageIndices) (s : Server) :
    ∃ status t, pagingLevels cr3 indices firmware s = some (status, t) ∧
      Replied firmware 1 cr3 s t (pageReply (physical memory) cr3.toNat indices) := by
  rw [pagingLevels, pageReply]
  by_cases hcurrent : indices.pml4 = currentTable
  · rw [if_pos hcurrent, if_pos hcurrent]
    obtain ⟨t, infos, hrun, hread, hsent⟩ := sendTable_sends hdelivers cr3 512 4 1 cr3 s
    rw [← cr3.ofNat_toNat] at hread
    exact ⟨_, t, hrun, infos, hread, hsent⟩
  rw [if_neg hcurrent, if_neg hcurrent]
  by_cases hbig : indices.pml4 ≥ 512
  · rw [if_pos hbig, if_pos hbig]
    exact reject_replied hdelivers hprints (by decide) _ _ _ _ _
  rw [if_neg hbig, if_neg hbig]
  have hpml4 : indices.pml4 < 1024 := by
    have hsmall := UInt64.lt_iff_toNat_lt.mp (UInt64.not_le.mp hbig)
    have hbound : (512 : UInt64).toNat = 512 := rfl
    exact UInt64.lt_iff_toNat_lt.mpr (by rw [hbound] at hsmall; exact hsmall.trans (by decide))
  apply (finds_getPdptAt hmemory cr3 indices.pml4).replied s
  intro s
  have hroot := @pagingLevelStep_replied firmware s hdelivers hprints
    (getPdptAt (physical memory) cr3.toNat indices.pml4.toNat) cr3.toNat
  rw [UInt64.ofNat_toNat] at hroot
  apply hroot hpml4 3 (by decide)
  intro hpdpt
  apply (finds_getPdAt hmemory cr3 indices.pml4 indices.pdpt).replied s
  intro s
  apply pagingLevelStep_replied hdelivers hprints _ _ hpdpt 2 (by decide)
  intro hpd
  apply (finds_getPtAt hmemory cr3 indices.pml4 indices.pdpt indices.pd).replied s
  intro s
  apply pagingLevelStep_replied hdelivers hprints _ _ hpd 1 (by decide)
  intro hpt
  exact sendEntry_replied hdelivers _ hpt 1 1 cr3 s

theorem handleGetPagingInfo_replied (hdelivers : firmware.Delivers) (hprints : firmware.Prints)
    (hmemory : ∀ time, firmware.physicalMemory time = memory) {payload : Memory}
    {payloadLength : UInt64} (hlong : 40 ≤ payloadLength)
    (hpasses : PassesCheck firmware (payload.u64 0) s) :
    ∃ status t, handleGetPagingInfo payload payloadLength firmware s = some (status, t) ∧
      Replied firmware 1 (cr3Seen firmware (payload.u64 0) s) s t
        (pageReply (physical memory) (cr3Seen firmware (payload.u64 0) s).toNat
          (.ofPayload payload)) := by
  obtain ⟨looked, hlooked⟩ : ∃ looked, looked = lookedAt firmware (payload.u64 0)
      (lookedAt firmware (payload.u64 0) (lookedAt firmware (payload.u64 0) s)) := ⟨_, rfl⟩
  have hunsent : Unsent s looked := by
    rw [hlooked]
    exact ⟨rfl, rfl⟩
  have hlevels := pagingLevels_replied hdelivers hprints hmemory
    (cr3Seen firmware (payload.u64 0) s) (.ofPayload payload) looked
  -- the reply is not to be computed
  obtain ⟨reply, hreply⟩ : ∃ reply, reply = pageReply (physical memory)
      (cr3Seen firmware (payload.u64 0) s).toNat (.ofPayload payload) := ⟨_, rfl⟩
  rw [← hreply] at hlevels ⊢
  obtain ⟨status, t, hrun, hreplied⟩ := hlevels
  refine ⟨status, t, ?_, hunsent.replied hreplied⟩
  simp only [handleGetPagingInfo, UInt64.not_lt.mpr hlong, if_false]
  rw [checkCoreId_run hpasses, bind_of_eq_some (contextOf_run _ _ _), ← hlooked, ← hrun]
  rw [pagingLevels, cr3Seen, ← hlooked]
  rfl

/-! ## What the client is told by each reply -/

theorem reportedEntries_of_trace {events : List Event} (htrace : t.trace = s.trace ++ events) :
    reportedEntries s t = events.flatMap pageEntries := by
  rw [reportedEntries, htrace, List.drop_left]

theorem pageEntries_sent (messageType : UInt32) (payload : List UInt8) (lastMessage : Bool) :
    pageEntries (.sent (frame (messageBody messageType payload lastMessage))) =
      if messageType = MessageType.pagingInfo.code then entriesOf payload else [] := by
  have hbody : (frame (messageBody messageType payload lastMessage)).drop 4 =
      messageBody messageType payload lastMessage := List.drop_left' (length_littleEndian 4 _)
  rw [pageEntries, hbody, parseMessage_messageBody]

theorem pageEntries_sentPackets (payloads : List (List UInt8)) :
    (sentPackets .pagingInfo payloads).flatMap pageEntries = payloads.flatMap entriesOf := by
  induction payloads with
  | nil => rfl
  | cons payload payloads ih =>
      have hconstructed (messageType : UInt32) (lastMessage : Bool) :
          pageEntries (.constructed messageType payload lastMessage) = [] := rfl
      rw [sentPackets, List.flatMap_cons, List.flatMap_cons, List.flatMap_cons, ih, hconstructed,
        pageEntries_sent, if_pos rfl, List.nil_append]

variable {indices : PageIndices} {cr3 : ℕ}

theorem reportedEntries_of_sent {flags cr3Value : UInt64} {infos : List PageInfo}
    (hsent : TableSent flags cr3Value infos s t) : reportedEntries s t = infos := by
  obtain ⟨⟨payloads, -, hinfos, htrace, -⟩, -⟩ := hsent
  rw [reportedEntries_of_trace htrace, pageEntries_sentPackets, hinfos]

theorem reportedEntries_of_error (herror : ErrorSent s t) : reportedEntries s t = [] := by
  obtain ⟨code, text, -, htrace⟩ := herror
  rw [reportedEntries_of_trace htrace, List.flatMap_cons, List.flatMap_singleton,
    pageEntries_sent, if_neg (by decide)]
  rfl

theorem followsWalk_of_error {memory : PhysicalMemory} (herror : ErrorSent s t) :
    FollowsWalk memory cr3 indices s t := by
  have hnothing := reportedEntries_of_error herror
  refine ⟨fun info hinfo => ?_, fun _ => ⟨hnothing, herror⟩⟩
  rw [hnothing] at hinfo
  cases hinfo

/-- A whole table behind the PML4 has positions that no table has. -/
theorem not_followsWalk_of_table {memory : PhysicalMemory} {base : UInt64} {level : UInt8}
    {flags cr3Value : UInt64} {infos : List PageInfo}
    (hread : List.Forall₂ (EntryRead firmware base level) (List.range 1024) infos)
    (hsent : TableSent flags cr3Value infos s t) : ¬ FollowsWalk memory cr3 indices s t := by
  intro hfollows
  have hlength : infos.length = 1024 := by
    rw [← hread.length_eq, List.length_range]
  obtain ⟨info, hinfo⟩ : ∃ info, infos[512]? = some info := ⟨_, List.getElem?_eq_getElem (by omega)⟩
  have hentry : EntryRead firmware base level 512 info := by
    have hget := (List.forall₂_iff_get.mp hread).2 512 (by rw [List.length_range]; decide)
      (by omega)
    rw [List.getElem?_eq_getElem (by omega), Option.some.injEq] at hinfo
    simpa [hinfo] using hget
  have hreported : info ∈ reportedEntries s t := by
    rw [reportedEntries_of_sent hsent]
    exact List.mem_of_getElem? hinfo
  have hposition := (hfollows.entries info hreported).1
  rw [hentry.position] at hposition
  exact absurd hposition (lt_irrefl 512)

/-- An entry that is reported alone. -/
theorem followsWalk_entry_iff {memory : PhysicalMemory} {info : PageInfo} {depth index base : ℕ}
    (hreported : reportedEntries s t = [info]) (hrequest : indices.request = (depth, some index))
    (hdepth : depth ≤ 3) (hlevel : info.level.toNat = 4 - depth)
    (hposition : info.position.toNat = index) (hentry : info.entry = memory (base + 8 * index)) :
    FollowsWalk memory cr3 indices s t ↔ index < 512 ∧ ∃ table,
      walkedTable memory cr3 indices depth = some table ∧
        memory (base + 8 * index) = memory (table + 8 * index) := by
  constructor
  · intro hfollows
    obtain ⟨hinside, depth', table, hdepth', hlevel', hwalked, hread⟩ :=
      hfollows.entries info (by rw [hreported]; exact List.mem_singleton_self info)
    have hsame : depth' = depth := by omega
    rw [hsame] at hwalked
    rw [hposition] at hinside hread
    exact ⟨hinside, table, hwalked, hentry.symm.trans hread⟩
  · rintro ⟨hinside, table, hwalked, hread⟩
    have hwalkable : Walkable memory cr3 indices := by
      rw [Walkable, hrequest]
      exact ⟨table, hwalked, fun position hposition => by
        cases hposition
        exact hinside⟩
    refine ⟨fun other hother => ?_, fun hnot => absurd hwalkable hnot⟩
    rw [hreported, List.mem_singleton] at hother
    rw [hother, ReadByWalk, hposition]
    exact ⟨hinside, depth, table, hdepth, hlevel, hwalked, hentry.trans hread⟩

/-! ## The exact condition -/

/-- A table on the way is at address 0, which the lookups take for a failure. -/
def PassesNull (memory : PhysicalMemory) (cr3 : ℕ) (indices : PageIndices) (depth : ℕ) : Prop :=
  ∃ shorter, 0 < shorter ∧ shorter < depth ∧ walkedTable memory cr3 indices shorter = some 0

/-- The request is refused, is about the PML4, or is about one entry that the walk
comes to; behind a table at address 0 the entry at this position of page 0 has to be
the same. -/
def Conforms (memory : PhysicalMemory) (cr3 : ℕ) (indices : PageIndices) : Prop :=
  indices.Refused ∨ indices.request.1 = 0 ∨ ∃ position table,
    indices.request.2 = some position ∧ position < 512 ∧
      walkedTable memory cr3 indices indices.request.1 = some table ∧
        (PassesNull memory cr3 indices indices.request.1 →
          memory (8 * position) = memory (table + 8 * position))

/-- The handler's table at a depth agrees with the walk's, but for null. -/
def TableAgrees (memory : PhysicalMemory) (cr3 : ℕ) (indices : PageIndices) (depth base : ℕ) :
    Prop :=
  ∀ table, walkedTable memory cr3 indices depth = some table →
    (PassesNull memory cr3 indices depth → base = 0) ∧
      (¬ PassesNull memory cr3 indices depth → base = table)

theorem tableAgrees_root (memory : PhysicalMemory) : TableAgrees memory cr3 indices 0 cr3 := by
  intro table hwalked
  rw [walkedTable, List.take_zero, tableAlong_nil, Option.some.injEq] at hwalked
  exact ⟨fun ⟨shorter, hpositive, hless, _⟩ => absurd hless (by omega), fun _ => hwalked⟩

theorem tableAgrees_pdpt (memory : PhysicalMemory) :
    TableAgrees memory cr3 indices 1 (getPdptAt memory cr3 indices.pml4.toNat) := by
  intro table hwalked
  obtain ⟨middle, hmiddle, hindex, htable⟩ := @tableAlong_concat _ _ _ _ [] _ hwalked
  rw [tableAlong_nil, Option.some.injEq] at hmiddle
  refine ⟨fun ⟨shorter, hpositive, hless, _⟩ => absurd hless (by omega), fun _ => ?_⟩
  rw [getPdptAt, if_neg (by omega), getFullAddress_eq, getPml4, hmiddle, htable]

/-- One table further, the handler takes address 0 for a failure. -/
theorem TableAgrees.succ {memory : PhysicalMemory} {depth base index : ℕ}
    (hagrees : TableAgrees memory cr3 indices depth base) (hpositive : 0 < depth)
    (hpath : indices.path.take (depth + 1) = indices.path.take depth ++ [index]) :
    TableAgrees memory cr3 indices (depth + 1)
      (if base = 0 ∨ index ≥ 1024 then 0 else getFullAddress (memory (base + 8 * index))) := by
  intro table hwalked
  rw [walkedTable, hpath] at hwalked
  obtain ⟨middle, hmiddle, hindex, htable⟩ := tableAlong_concat hwalked
  obtain ⟨hnull, hsame⟩ := hagrees middle hmiddle
  have hpasses : PassesNull memory cr3 indices (depth + 1) ↔
      PassesNull memory cr3 indices depth ∨ middle = 0 := by
    constructor
    · rintro ⟨shorter, hshorter, hless, hzero⟩
      rcases Nat.lt_succ_iff_lt_or_eq.mp hless with hbefore | rfl
      · exact .inl ⟨shorter, hshorter, hbefore, hzero⟩
      · rw [walkedTable, hmiddle, Option.some.injEq] at hzero
        exact .inr hzero
    · rintro (⟨shorter, hshorter, hless, hzero⟩ | rfl)
      · exact ⟨shorter, hshorter, hless.trans (Nat.lt_succ_self _), hzero⟩
      · exact ⟨depth, hpositive, Nat.lt_succ_self _, hmiddle⟩
  constructor
  · intro hboth
    rcases hpasses.mp hboth with hbefore | rfl
    · rw [if_pos (.inl (hnull hbefore))]
    · by_cases hbefore : PassesNull memory cr3 indices depth
      · rw [if_pos (.inl (hnull hbefore))]
      · rw [if_pos (.inl (hsame hbefore))]
  · intro hneither
    obtain ⟨hbefore, hnonzero⟩ := not_or.mp (mt hpasses.mpr hneither)
    rw [hsame hbefore, if_neg (by omega), getFullAddress_eq, htable]

theorem tableAgrees_pd (memory : PhysicalMemory) :
    TableAgrees memory cr3 indices 2
      (getPdAt memory cr3 indices.pml4.toNat indices.pdpt.toNat) :=
  (tableAgrees_pdpt memory).succ (Nat.succ_pos 0) rfl

theorem tableAgrees_pt (memory : PhysicalMemory) :
    TableAgrees memory cr3 indices 3
      (getPtAt memory cr3 indices.pml4.toNat indices.pdpt.toNat indices.pd.toNat) :=
  (tableAgrees_pd memory).succ (Nat.succ_pos 1) rfl

/-! ## The claim of the walk for every reply -/

/-- What the client is told by the reply follows the walk exactly when the
request conforms. -/
def Judged (firmware : Firmware) (flags cr3 : UInt64) (memory : PhysicalMemory)
    (indices : PageIndices) (s t : Server) (reply : PageReply) : Prop :=
  Replied firmware flags cr3 s t reply →
    (FollowsWalk memory cr3.toNat indices s t ↔ Conforms memory cr3.toNat indices)

section

variable {memory : UInt64 → UInt64} {flags cr3 : UInt64} {indices : PageIndices}
variable {depth : ℕ}

theorem entry_of_read (hmemory : ∀ time, firmware.physicalMemory time = memory)
    {base index : ℕ} {level : UInt8} {info : PageInfo}
    (hread : EntryRead firmware (UInt64.ofNat base) level index info) (hindex : index < 2 ^ 64) :
    info.entry = physical memory (base + 8 * index) := by
  obtain ⟨time, htime⟩ := hread.entry
  have hsame : (UInt64.ofNat index).toNat = index := UInt64.toNat_ofNat_of_lt' hindex
  have haddress := physical_add memory base (UInt64.ofNat index)
  rw [hsame] at haddress
  rw [htime, hmemory, haddress]

theorem judged_refused {memory : PhysicalMemory} (hrefused : indices.Refused) :
    Judged firmware flags cr3 memory indices s t .refused :=
  fun herror => iff_of_true (followsWalk_of_error herror) (.inl hrefused)

/-- The PML4 has as many entries as the handler sends. -/
theorem judged_root (hmemory : ∀ time, firmware.physicalMemory time = memory)
    (hrequest : indices.request = (0, none)) :
    Judged firmware flags cr3 (physical memory) indices s t (.table cr3.toNat 512 4) := by
  rintro ⟨infos, hread, hsent⟩
  have hwalked : walkedTable (physical memory) cr3.toNat indices 0 = some cr3.toNat :=
    tableAlong_nil
  have hwalkable : Walkable (physical memory) cr3.toNat indices := by
    rw [Walkable, hrequest]
    exact ⟨_, hwalked, fun position hposition => by cases hposition⟩
  refine iff_of_true ⟨fun info hinfo => ?_, fun hnot => absurd hwalkable hnot⟩
    (.inr (.inl (by rw [hrequest])))
  rw [reportedEntries_of_sent hsent] at hinfo
  obtain ⟨index, hindex, hentry⟩ : ∃ index ∈ List.range 512,
      EntryRead firmware (UInt64.ofNat cr3.toNat) 4 index info := by
    obtain ⟨number, hnumber, hget⟩ := List.getElem_of_mem hinfo
    have hinside : number < (List.range 512).length := by
      have hlength := hread.length_eq
      exact lt_of_lt_of_eq hnumber hlength.symm
    refine ⟨_, List.getElem_mem hinside, ?_⟩
    rw [← hget]
    exact (List.forall₂_iff_get.mp hread).2 number hinside hnumber
  have hinside := List.mem_range.mp hindex
  have hread := entry_of_read hmemory hentry (hinside.trans (by decide))
  rw [← hentry.position] at hinside hread
  refine ⟨hinside, 0, cr3.toNat, Nat.zero_le 3, ?_, hwalked, hread⟩
  rw [hentry.level]
  rfl

/-- Behind the PML4 a whole table is never right. -/
theorem judged_table {memory : PhysicalMemory} {base : ℕ} {level : UInt8}
    (haccepted : ¬ indices.Refused) (hrequest : indices.request = (depth + 1, none)) :
    Judged firmware flags cr3 memory indices s t (.table base 1024 level) := by
  rintro ⟨infos, hread, hsent⟩
  refine iff_of_false (not_followsWalk_of_table hread hsent) ?_
  rintro (hrefused | hroot | ⟨position, table, hposition, -⟩)
  · exact haccepted hrefused
  · rw [hrequest] at hroot
    cases hroot
  · rw [hrequest] at hposition
    cases hposition

/-- The condition on an entry that is asked for, by the table the handler reads. -/
theorem conforms_entry_iff {memory : PhysicalMemory} {cr3 index base : ℕ}
    (haccepted : ¬ indices.Refused) (hrequest : indices.request = (depth, some index))
    (hroot : depth = 0 → index < 512) (hagrees : TableAgrees memory cr3 indices depth base) :
    Conforms memory cr3 indices ↔ index < 512 ∧ ∃ table,
      walkedTable memory cr3 indices depth = some table ∧
        memory (base + 8 * index) = memory (table + 8 * index) := by
  rw [Conforms, hrequest]
  constructor
  · rintro (hrefused | hzero | ⟨position, table, hposition, hinside, hwalked, hnull⟩)
    · exact absurd hrefused haccepted
    · change depth = 0 at hzero
      subst hzero
      have hwalked : walkedTable memory cr3 indices 0 = some cr3 := tableAlong_nil
      have hnone : ¬ PassesNull memory cr3 indices 0 :=
        fun ⟨shorter, _, hless, _⟩ => absurd hless (by omega)
      exact ⟨hroot rfl, cr3, hwalked, by rw [(hagrees cr3 hwalked).2 hnone]⟩
    · cases hposition
      refine ⟨hinside, table, hwalked, ?_⟩
      by_cases hpasses : PassesNull memory cr3 indices depth
      · rw [(hagrees table hwalked).1 hpasses, Nat.zero_add]
        exact hnull hpasses
      · rw [(hagrees table hwalked).2 hpasses]
  · rintro ⟨hinside, table, hwalked, hsame⟩
    refine .inr (.inr ⟨index, table, rfl, hinside, hwalked, fun hpasses => ?_⟩)
    rw [(hagrees table hwalked).1 hpasses, Nat.zero_add] at hsame
    exact hsame

theorem judged_entry (hmemory : ∀ time, firmware.physicalMemory time = memory)
    {index : UInt64} {level : UInt8} {base : ℕ} (haccepted : ¬ indices.Refused)
    (hrequest : indices.request = (depth, some index.toNat)) (hdepth : depth ≤ 3)
    (hlevel : level.toNat = 4 - depth) (hroot : depth = 0 → index.toNat < 512)
    (hagrees : TableAgrees (physical memory) cr3.toNat indices depth base) :
    Judged firmware flags cr3 (physical memory) indices s t (.entry base index level) := by
  rintro ⟨info, hread, hsent⟩
  rw [conforms_entry_iff haccepted hrequest hroot hagrees]
  exact followsWalk_entry_iff (reportedEntries_of_sent hsent) hrequest hdepth
    (hread.level ▸ hlevel) hread.position (entry_of_read hmemory hread index.toNat_lt)

/-- A level of the handler: the table below, the entry above, or deeper. -/
theorem judged_levelReply (hmemory : ∀ time, firmware.physicalMemory time = memory)
    {table above : ℕ} {aboveIndex index : UInt64} {level : UInt8} {deeper : PageReply}
    (hagrees : TableAgrees (physical memory) cr3.toNat indices depth above)
    (hdepth : depth ≤ 3) (hlevel : (level + 1).toNat = 4 - depth)
    (hroot : depth = 0 → aboveIndex.toNat < 512)
    (hrefused : IndexRefused index → indices.Refused)
    (haccepted : index = currentTable ∨ index = previousEntry → ¬ indices.Refused)
    (hcurrent : index = currentTable → indices.request = (depth + 1, none))
    (hprevious : index ≠ currentTable → index = previousEntry →
      indices.request = (depth, some aboveIndex.toNat))
    (hdeeper : index < 1024 → Judged firmware flags cr3 (physical memory) indices s t deeper) :
    Judged firmware flags cr3 (physical memory) indices s t
      (levelReply table above aboveIndex index level deeper) := by
  rw [levelReply]
  by_cases hwhole : index = currentTable
  · rw [if_pos hwhole]
    exact judged_table (haccepted (.inl hwhole)) (hcurrent hwhole)
  rw [if_neg hwhole]
  by_cases hentry : index = previousEntry
  · rw [if_pos hentry]
    exact judged_entry hmemory (haccepted (.inr hentry)) (hprevious hwhole hentry) hdepth hlevel
      hroot hagrees
  rw [if_neg hentry]
  by_cases hbig : index ≥ 1024
  · rw [if_pos hbig]
    exact judged_refused (hrefused ⟨hwhole, hentry, hbig⟩)
  · rw [if_neg hbig]
    exact hdeeper (UInt64.not_le.mp hbig)

/-- Neither of the two special indices is refused or an index of a table. -/
theorem not_refused_of_special {index : UInt64} {rest : Prop}
    (hspecial : index = currentTable ∨ index = previousEntry) :
    ¬ (IndexRefused index ∨ index < 1024 ∧ rest) := by
  rintro (⟨hcurrent, hprevious, -⟩ | ⟨hsmall, -⟩)
  · exact hspecial.elim hcurrent hprevious
  · rcases hspecial with rfl | rfl
    · exact absurd hsmall (by decide)
    · exact absurd hsmall (by decide)

theorem ordinary_of_lt {index : UInt64} (hsmall : index < 1024) :
    index ≠ currentTable ∧ index ≠ previousEntry := by
  constructor
  · rintro rfl
    exact absurd hsmall (by decide)
  · rintro rfl
    exact absurd hsmall (by decide)

theorem judged_pageReply (hmemory : ∀ time, firmware.physicalMemory time = memory) :
    Judged firmware flags cr3 (physical memory) indices s t
      (pageReply (physical memory) cr3.toNat indices) := by
  rw [pageReply]
  by_cases hpml4 : indices.pml4 = currentTable
  · rw [if_pos hpml4]
    exact judged_root hmemory (by rw [PageIndices.request, if_pos hpml4])
  rw [if_neg hpml4]
  by_cases hbig : indices.pml4 ≥ 512
  · rw [if_pos hbig]
    exact judged_refused (.inl ⟨hpml4, hbig⟩)
  rw [if_neg hbig]
  have hsmall := UInt64.not_le.mp hbig
  have hrefused : indices.Refused ↔ IndexRefused indices.pdpt ∨ indices.pdpt < 1024 ∧
      (IndexRefused indices.pd ∨ indices.pd < 1024 ∧ IndexRefused indices.pt) := by
    rw [PageIndices.Refused, IndicesRefused, or_iff_right (fun hroot => hbig hroot.2),
      and_iff_right hsmall]
  apply judged_levelReply hmemory (tableAgrees_root _) (Nat.zero_le 3) rfl
  · exact fun _ => UInt64.lt_iff_toNat_lt.mp hsmall
  · exact fun hpdpt => hrefused.mpr (.inl hpdpt)
  · exact fun hspecial => mt hrefused.mp (not_refused_of_special hspecial)
  · intro hcurrent
    rw [PageIndices.request, if_neg hpml4, if_pos hcurrent]
  · intro hcurrent hprevious
    rw [PageIndices.request, if_neg hpml4, if_neg hcurrent, if_pos hprevious]
  intro hpdpt
  obtain ⟨hpdptCurrent, hpdptPrevious⟩ := ordinary_of_lt hpdpt
  have hrefusedPd : indices.Refused ↔ IndexRefused indices.pd ∨ indices.pd < 1024 ∧
      IndexRefused indices.pt := by
    rw [hrefused, or_iff_right (fun hnot => UInt64.not_le.mpr hpdpt hnot.2.2),
      and_iff_right hpdpt]
  apply judged_levelReply hmemory (tableAgrees_pdpt _) (Nat.le_add_left 1 2) rfl
  · exact fun hzero => absurd hzero (by decide)
  · exact fun hpd => hrefusedPd.mpr (.inl hpd)
  · exact fun hspecial => mt hrefusedPd.mp (not_refused_of_special hspecial)
  · intro hcurrent
    rw [PageIndices.request, if_neg hpml4, if_neg hpdptCurrent, if_neg hpdptPrevious,
      if_pos hcurrent]
  · intro hcurrent hprevious
    rw [PageIndices.request, if_neg hpml4, if_neg hpdptCurrent, if_neg hpdptPrevious,
      if_neg hcurrent, if_pos hprevious]
  intro hpd
  obtain ⟨hpdCurrent, hpdPrevious⟩ := ordinary_of_lt hpd
  have hrefusedPt : indices.Refused ↔ IndexRefused indices.pt := by
    rw [hrefusedPd, or_iff_right (fun hnot => UInt64.not_le.mpr hpd hnot.2.2),
      and_iff_right hpd]
  have hdeep : indices.request = if indices.pt = currentTable then (3, none)
      else if indices.pt = previousEntry then (2, some indices.pd.toNat)
      else (3, some indices.pt.toNat) := by
    rw [PageIndices.request, if_neg hpml4, if_neg hpdptCurrent, if_neg hpdptPrevious,
      if_neg hpdCurrent, if_neg hpdPrevious]
  apply judged_levelReply hmemory (tableAgrees_pd _) (Nat.le_add_left 2 1) rfl
  · exact fun hzero => absurd hzero (by decide)
  · exact hrefusedPt.mpr
  · rintro hspecial hnot
    exact (not_refused_of_special hspecial : ¬ (_ ∨ _ ∧ False)) (.inl (hrefusedPt.mp hnot))
  · intro hcurrent
    rw [hdeep, if_pos hcurrent]
  · intro hcurrent hprevious
    rw [hdeep, if_neg hcurrent, if_pos hprevious]
  intro hpt
  obtain ⟨hptCurrent, hptPrevious⟩ := ordinary_of_lt hpt
  apply judged_entry hmemory _ _ (le_refl 3) rfl _ (tableAgrees_pt _)
  · exact mt hrefusedPt.mp fun hnot => UInt64.not_le.mpr hpt hnot.2.2
  · rw [hdeep, if_neg hptCurrent, if_neg hptPrevious]
  · exact fun hzero => absurd hzero (by decide)

end

/-- What a request for page tables is answered with follows the walk exactly when
the request is too short, or conforms. -/
theorem followsWalk_iff (hdelivers : firmware.Delivers) (hprints : firmware.Prints)
    (hmemory : ∀ time, firmware.physicalMemory time = memory) (payload : Memory)
    (payloadLength : UInt64) (hpasses : PassesCheck firmware (payload.u64 0) s) :
    ∃ status t, handleGetPagingInfo payload payloadLength firmware s = some (status, t) ∧
      (FollowsWalk (physical memory) (cr3Seen firmware (payload.u64 0) s).toNat
          (.ofPayload payload) s t ↔
        payloadLength < 40 ∨ Conforms (physical memory)
          (cr3Seen firmware (payload.u64 0) s).toNat (.ofPayload payload)) := by
  by_cases hshort : payloadLength < 40
  · obtain ⟨status, t, hrun, herror⟩ := reject_replied hdelivers hprints
      (by decide : (0x1 : UInt32) ≠ 0)
      "MSG_GETPAGINGINFO is too short, need at least 40 Bytes, got %u.\n" [payloadLength] 1 0 s
    refine ⟨status, t, ?_, iff_of_true (followsWalk_of_error herror) (.inl hshort)⟩
    rw [handleGetPagingInfo, if_pos hshort]
    exact hrun
  · have hreplies := handleGetPagingInfo_replied hdelivers hprints hmemory
      (UInt64.not_lt.mp hshort) hpasses
    have hjudged (t : Server) := @judged_pageReply firmware s t memory 1
      (cr3Seen firmware (payload.u64 0) s) (.ofPayload payload) hmemory
    -- the reply is not to be computed
    obtain ⟨reply, hreply⟩ : ∃ reply, reply = pageReply (physical memory)
        (cr3Seen firmware (payload.u64 0) s).toNat (.ofPayload payload) := ⟨_, rfl⟩
    rw [← hreply] at hreplies hjudged
    obtain ⟨status, t, hrun, hreplied⟩ := hreplies
    refine ⟨status, t, hrun, ?_⟩
    rw [or_iff_right hshort]
    exact hjudged t hreplied

/-- Firmware with a table at 0x1000 whose entries all lead to it. -/
def pagedFirmware : Firmware := { loopback with physicalMemory := fun _ _ => 0x1003 }

/-- The cores are started on that table. -/
def pagedServer : Server :=
  { idleServer with
    machine := { Machine.afterInit with
      contexts := fun _ => { Pair.initContext with
        started := 1
        cr3Value := 0x1000 } } }

/-- The request for the table behind the first entry of the PML4 of core 0. -/
def pdptRequest : Memory := Memory.write (fun _ => 0) 16 (littleEndian 8 currentTable.toNat)

theorem delivers_pagedFirmware : pagedFirmware.Delivers := delivers_loopback

theorem prints_pagedFirmware : pagedFirmware.Prints := fun _ _ => Nat.zero_lt_succ 127

theorem passesCheck_pagedServer : PassesCheck pagedFirmware 0 pagedServer :=
  ⟨by decide, rfl, rfl⟩

/-- The entry at the end of the walk by zeros. -/
theorem followsWalk_iff_zeros :
    ∃ status t, handleGetPagingInfo (fun _ => 0) 40 pagedFirmware pagedServer = some (status, t) ∧
      FollowsWalk (physical fun _ => 0x1003) 0x1000 (.ofPayload fun _ => 0) pagedServer t := by
  obtain ⟨status, t, hrun, hfollows⟩ := followsWalk_iff delivers_pagedFirmware
    prints_pagedFirmware (fun _ => rfl) (fun _ => 0) 40 passesCheck_pagedServer
  have hwalked : walkedTable (physical fun _ => 0x1003) 0x1000 (.ofPayload fun _ => 0) 3 =
      some 0x1000 := rfl
  have hconforms : Conforms (physical fun _ => 0x1003) 0x1000 (.ofPayload fun _ => 0) :=
    .inr (.inr ⟨0, 0x1000, rfl, by decide, hwalked, fun _ => rfl⟩)
  exact ⟨status, t, hrun, hfollows.mpr (.inr hconforms)⟩

/-- The table behind the first entry of the PML4 can be walked to, and 1024 entries
are reported of it. -/
theorem pdptRequest_not_followsWalk :
    PassesCheck pagedFirmware (pdptRequest.u64 0) pagedServer ∧
      Walkable (physical fun _ => 0x1003) 0x1000 (.ofPayload pdptRequest) ∧
        ∃ status t, handleGetPagingInfo pdptRequest 40 pagedFirmware pagedServer =
            some (status, t) ∧
          ¬ FollowsWalk (physical fun _ => 0x1003) 0x1000 (.ofPayload pdptRequest) pagedServer
            t := by
  have hpasses : PassesCheck pagedFirmware (pdptRequest.u64 0) pagedServer :=
    ⟨by decide, rfl, rfl⟩
  refine ⟨hpasses, ⟨0x1000, rfl, fun position hposition => by cases hposition⟩, ?_⟩
  obtain ⟨status, t, hrun, hreplied⟩ := handleGetPagingInfo_replied delivers_pagedFirmware
    prints_pagedFirmware (fun _ => rfl) (by decide : (40 : UInt64) ≤ 40) hpasses
  obtain ⟨infos, hread, hsent⟩ := hreplied
  exact ⟨status, t, hrun, not_followsWalk_of_table hread hsent⟩

end AngryUefi.System
