import AngryUefi.Handlers.Jobs

/-!
# Sampling buffers and page tables

The handlers whose answer takes several messages: captured events of a core,
and the entries of its page tables.
-/

namespace AngryUefi.Handlers

open AngryUefi.Bytes AngryUefi.Programs

/-- `check_core_id`, and the same checks of `handle_get_paging_info`. -/
def checkCoreId (coreId : UInt64) (proceed : Handler EfiStatus) : Handler EfiStatus := do
  if coreId ≥ maxCoreCount then reject 0x201 outOfRangeText [coreId, maxCoreCount]
  else if (← contextOf coreId).present ≠ 1 then
    reject 0x202 (rejectionText 0x202) [coreId]
  else if (← contextOf coreId).started ≠ 1 then
    reject 0x203 (rejectionText 0x203) [coreId]
  else proceed

/-! ## Captured events -/

def maxEventsPerPacket : UInt64 := 64

/-- `sizeof(IBSEvent)` and `sizeof(DSMEvent)` -/
def eventSize : UInt64 := 16

/-- `MIN(left, right)` -/
def minimum (left right : UInt64) : UInt64 := if left < right then left else right

theorem toNat_minimum (left right : UInt64) :
    (minimum left right).toNat = min left.toNat right.toNat := by
  rw [minimum]
  split
  · rename_i hless
    rw [Nat.min_eq_left (UInt64.lt_iff_toNat_lt.mp hless).le]
  · rename_i hless
    rw [Nat.min_eq_right (UInt64.le_iff_toNat_le.mp (UInt64.not_lt.mp hless))]

theorem toNat_minimum_le (events : UInt64) :
    (minimum maxEventsPerPacket events).toNat ≤ 64 := by
  rw [toNat_minimum]
  exact Nat.min_le_left _ _

/-- `copy_ibs_entries` and `copy_dsm_entries`, given how the number of stored
events and the events themselves are looked up. -/
def copyEntries (stored : CoreContext → UInt64) (bytesAt : CoreContext → UInt64 → List UInt8)
    (coreId : UInt64) (target : ℕ) (startIndex entryCount : UInt64) : Handler UInt64 := do
  if stored (← contextOf coreId) ≤ startIndex then return 0
  else
    -- MIN evaluates the smaller argument a second time
    let endIndex ← if startIndex + entryCount < stored (← contextOf coreId) then
        pure (startIndex + entryCount)
      else stored <$> contextOf coreId
    let context ← contextOf coreId
    copyToPayload target
      ((List.range (endIndex.toNat - startIndex.toNat)).flatMap fun offset =>
        bytesAt context (startIndex + UInt64.ofNat offset))
    return endIndex - startIndex

def ibsPosition (context : CoreContext) : UInt64 :=
  (context.ibsControl.map IBSControl.currentPosition).getD 0

def ibsEntry (context : CoreContext) (index : UInt64) : List UInt8 :=
  match context.ibsControl with
  | none => []
  | some control =>
      littleEndian 8 (control.eventBuffer index.toNat).q1.toNat ++
        littleEndian 8 (control.eventBuffer index.toNat).q2.toNat

def dsmItems (context : CoreContext) : UInt64 :=
  (context.dsmControl.map fun control => control.fileHeader.numItems).getD 0

def dsmEntry (context : CoreContext) (index : UInt64) : List UInt8 :=
  match context.dsmControl with
  | none => []
  | some control =>
      littleEndian 8 (control.eventBuffer index.toNat).data0.toNat ++
        littleEndian 8 (control.eventBuffer index.toNat).data1.toNat

/-- How many events are left after a packet. -/
def eventsLeft (eventsToSend entriesCopied : UInt64) : UInt64 :=
  if entriesCopied ≤ eventsToSend then eventsToSend - entriesCopied else 0

/-- The packets of both event handlers: `copy` copies the events of a packet and
`countIndex` is where the packet says how many they are. -/
def sendEvents (copy : ℕ → UInt64 → UInt64 → Handler UInt64) (messageType : MessageType)
    (countIndex : ℕ) (minResponseSize : UInt64) :
    ℕ → (startIndex eventsToSend : UInt64) → Handler EfiStatus
  | 0, _, _ => failure
  | patience + 1, startIndex, eventsToSend => do
      if eventsToSend = 0 then return .success
      else
        let iterationEventsToSend := minimum maxEventsPerPacket eventsToSend
        let entriesCopied ← copy minResponseSize.toNat startIndex iterationEventsToSend
        let left := eventsLeft eventsToSend entriesCopied
        putPayload64 countIndex entriesCopied
        let responseSize := minResponseSize + entriesCopied * eventSize
        let status ← respondPayload printStatusDebug messageType responseSize
          (responseSize + headerSize) (left == 0)
        if status.isError then return status
        else
          sendEvents copy messageType countIndex minResponseSize patience
            (startIndex + entriesCopied) left

/-- A count of zero requests everything. -/
def orAll (entryCount storedEvents : UInt64) : UInt64 :=
  if entryCount = 0 then storedEvents else entryCount

def handleGetIbsBuffer (payload : Memory) (payloadLength : UInt64) : Handler EfiStatus := do
  if payloadLength < 3 * 8 then
    reject 0x1 "MSG_GETISBBUFFER is too short, need at least 24 Bytes, got %u.\n"
      [payloadLength]
  else
    let coreId := payload.u64 0
    let startIndex := payload.u64 1
    let entryCount := payload.u64 2
    checkCoreId coreId do
      let minResponseSize : UInt64 := 4 * 8
      if (← contextOf coreId).ibsControl.isNone then
        putPayload64 0 0x0
        putPayload64 1 0
        putPayload64 2 0
        putPayload64 3 0
        respondPayload printStatusDebug .ibsBuffer minResponseSize
          (minResponseSize + headerSize) true
      else
        let storedEvents := ibsPosition (← contextOf coreId)
        putPayload64 0 0x1
        putPayload64 1 storedEvents
        putPayload64 2 maxIbsEntries
        putPayload64 3 0
        let entryCount := orAll entryCount storedEvents
        let eventsToSend := minimum entryCount (storedEvents - startIndex)
        if storedEvents ≤ startIndex ∨ entryCount = 0 ∨ eventsToSend = 0 then
          respondPayload printStatusDebug .ibsBuffer minResponseSize
            (minResponseSize + headerSize) true
        else
          let firmware ← read
          sendEvents (copyEntries ibsPosition ibsEntry coreId) .ibsBuffer 3 minResponseSize
            firmware.patience startIndex eventsToSend

/-- The words of `DSM_file_header`. -/
def fileHeaderBytes (header : DSMFileHeader) : List UInt8 :=
  [header.versionInfo, header.mask, header.sel, header.types, header.idxInfo,
    header.numItems].flatMap fun word => littleEndian 8 word.toNat

/-- `sizeof(DSM_file_header)` -/
def fileHeaderSize : UInt64 := 6 * 8

def handleGetDsmBuffer (payload : Memory) (payloadLength : UInt64) : Handler EfiStatus := do
  if payloadLength < 1 * 8 then
    reject 0x1 "MSG_GETDSMBUFFER is too short, need at least 8 Bytes, got %u.\n"
      [payloadLength]
  else
    let coreId := payload.u64 0
    checkCoreId coreId do
      let context ← contextOf coreId
      match context.dsmControl with
      | none =>
          let minResponseSize : UInt64 := 2 * 8
          putPayload64 0 0x0
          putPayload64 1 0x0
          respondPayload printStatusDebug .dsmBuffer minResponseSize
            (minResponseSize + headerSize) true
      | some control =>
          putPayload64 0 0x1
          putPayload64 1 fileHeaderSize
          let current := ((← contextOf coreId).dsmControl).getD control
          copyToPayload 16 (fileHeaderBytes current.fileHeader)
          let minResponseSize := 2 * 8 + fileHeaderSize
          let eventsToSend := dsmItems (← contextOf coreId)
          if eventsToSend = 0 then
            respondPayload printStatusDebug .dsmBuffer minResponseSize
              (minResponseSize + headerSize) true
          else
            let firmware ← read
            -- num_items is the last word of the file header in the payload
            sendEvents (copyEntries dsmItems dsmEntry coreId) .dsmBuffer 7 minResponseSize
              firmware.patience 0 eventsToSend

/-! ## Page tables -/

/-- The word at a physical address. -/
def physicalWord (address : UInt64) : Handler UInt64 := do
  let number ← ask
  let firmware ← read
  return firmware.physicalMemory number address

/-- `get_full_address` of the `addr` bits of an entry. -/
def tableAddress (entry : UInt64) : UInt64 :=
  ((entry >>> 12) &&& 0xFFFFFFFFFF) <<< 12

/-- The table that an entry of a table points to. -/
def tableAt (table index : UInt64) : Handler UInt64 := do
  let entry ← physicalWord (table + 8 * index)
  return tableAddress entry

def getPdptAt (cr3 pml4Index : UInt64) : Handler UInt64 := do
  if pml4Index ≥ 512 then return 0 else tableAt cr3 pml4Index

def getPdAt (cr3 pml4Index pdptIndex : UInt64) : Handler UInt64 := do
  let pdpt ← getPdptAt cr3 pml4Index
  if pdpt = 0 ∨ pdptIndex ≥ 1024 then return 0 else tableAt pdpt pdptIndex

def getPtAt (cr3 pml4Index pdptIndex ptIndex : UInt64) : Handler UInt64 := do
  let pd ← getPdAt cr3 pml4Index pdptIndex
  if pd = 0 ∨ ptIndex ≥ 1024 then return 0 else tableAt pd ptIndex

def maxEntriesPerPacket : ℕ := 80

/-- `write_entry`, at a position counted in words. -/
def writeEntry (wordPosition : ℕ) (entry : UInt64) (position : UInt16) (pagingLevel : UInt8) :
    Handler Unit := do
  copyToPayload (8 * wordPosition) (littleEndian 2 position.toNat ++ [pagingLevel])
  putPayload64 (wordPosition + 1) entry

def sendPageinfoMessage (pageinfoEntries : UInt64) (lastMessage : Bool) :
    Handler EfiStatus := do
  putPayload64 2 pageinfoEntries
  let payloadSize := pageinfoEntries * 16 + 3 * 8
  respondPayload (fun _ _ => return) .pagingInfo payloadSize (payloadSize + headerSize)
    lastMessage

/-- `send_pageinfo_message` and what its callers do when it fails. -/
def sendPageinfo (pageinfoEntries : UInt64) (lastMessage : Bool) (proceed : Handler EfiStatus) :
    Handler EfiStatus := do
  let status ← sendPageinfoMessage pageinfoEntries lastMessage
  if status ≠ .success then
    formatPrint "Unable to send pageinfo message: %r\n" [status]
    rejectWith 0x101 status
  else proceed

/-- The loop of `send_table` from entry `index` on, with the next entry's place
in the payload, and the message after it. -/
def sendEntries (tableBase : UInt64) (pagingLevel : UInt8) :
    (remaining index wordPosition : ℕ) → Handler EfiStatus
  | 0, _, wordPosition =>
      sendPageinfo (UInt64.ofNat ((wordPosition - 3) / 2)) true (return .success)
  | remaining + 1, index, wordPosition => do
      let writeAt : ℕ → Handler EfiStatus := fun wordPosition => do
        let entry ← physicalWord (tableBase + 8 * UInt64.ofNat index)
        writeEntry wordPosition entry (UInt16.ofNat index) pagingLevel
        sendEntries tableBase pagingLevel remaining (index + 1) (wordPosition + 2)
      if index % maxEntriesPerPacket = 0 ∧ index ≠ 0 then
        sendPageinfo (UInt64.ofNat maxEntriesPerPacket) false (writeAt 3)
      else writeAt wordPosition

def sendTable (tableBase : UInt64) (tableLength : ℕ) (pagingLevel : UInt8)
    (flags cr3Value : UInt64) : Handler EfiStatus := do
  putPayload64 0 flags
  putPayload64 1 cr3Value
  sendEntries tableBase pagingLevel tableLength 0 3

def sendEntry (entryAddress : UInt64) (position : UInt16) (pagingLevel : UInt8)
    (flags cr3Value : UInt64) : Handler EfiStatus := do
  putPayload64 0 flags
  putPayload64 1 cr3Value
  let entry ← physicalWord entryAddress
  writeEntry 3 entry position pagingLevel
  sendPageinfo 1 true (return .success)

def currentTable : UInt64 := 0xffff

def previousEntry : UInt64 := 0xfffe

/-- What one level of `handle_get_paging_info` does with its index: send the
whole table, send the entry above it, refuse the index, or go a level down. -/
def pagingLevelStep (table above aboveIndex index flags cr3 : UInt64) (level : UInt8)
    (code : UInt32) (text : String) (deeper : Handler EfiStatus) : Handler EfiStatus := do
  if index = currentTable then sendTable table 1024 level flags cr3
  else if index = previousEntry then
    sendEntry (above + 8 * aboveIndex) aboveIndex.toUInt16 (level + 1) flags cr3
  else if index ≥ 1024 then reject code text [index]
  else deeper

def handleGetPagingInfo (payload : Memory) (payloadLength : UInt64) :
    Handler EfiStatus := do
  if payloadLength < 40 then
    reject 0x1 "MSG_GETPAGINGINFO is too short, need at least 40 Bytes, got %u.\n"
      [payloadLength]
  else
    let coreId := payload.u64 0
    let pml4Index := payload.u64 1
    let pdptIndex := payload.u64 2
    let pdIndex := payload.u64 3
    let ptIndex := payload.u64 4
    checkCoreId coreId do
      let cr3 := (← contextOf coreId).cr3Value
      let flags : UInt64 := 0x1
      if pml4Index = currentTable then sendTable cr3 512 4 flags cr3
      else if pml4Index ≥ 512 then
        reject 0x2 "PML4 index %u is out of range, max 511.\n" [pml4Index]
      else
        let pdpt ← getPdptAt cr3 pml4Index
        pagingLevelStep pdpt cr3 pml4Index pdptIndex flags cr3 3 0x3
          "PDPT index %u is out of range, max 1023.\n" do
          let pd ← getPdAt cr3 pml4Index pdptIndex
          pagingLevelStep pd pdpt pdptIndex pdIndex flags cr3 2 0x4
            "PD index %u is out of range, max 1023.\n" do
            let pt ← getPtAt cr3 pml4Index pdptIndex pdIndex
            pagingLevelStep pt pd pdIndex ptIndex flags cr3 1 0x5
              "PT index %u is out of range, max 1023.\n"
              (sendEntry (pt + 8 * ptIndex) ptIndex.toUInt16 1 flags cr3)

end AngryUefi.Handlers
