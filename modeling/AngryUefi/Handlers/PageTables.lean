import AngryUefi.Handlers.Packets

/-!
# Page tables in packets

What `send_table` and `send_entry` send.  The entries of a packet are filled in
one by one; a full packet is flushed by the entry behind it, and what is left
after the last entry is the last packet.
-/

namespace AngryUefi.Handlers

open AngryUefi.Bytes AngryUefi.Framing AngryUefi.Programs

variable {firmware : Firmware} {s t : Server}

/-! ## Packets as the client reads them -/

/-- An entry of a page table with its place. -/
structure PageInfo where
  position : UInt16
  level : UInt8
  entry : UInt64
  deriving DecidableEq

/-- The entry number `index` of a payload. -/
def pageInfoAt (payload : Memory) (index : ℕ) : PageInfo where
  position := UInt16.ofNat (payload.word 2 (8 * (3 + 2 * index)))
  level := payload (8 * (3 + 2 * index) + 2)
  entry := payload.u64 (3 + 2 * index + 1)

def pageInfos (payload : Memory) (count : ℕ) : List PageInfo :=
  (List.range count).map (pageInfoAt payload)

/-- The entries of a message. -/
def entriesOf (payload : List UInt8) : List PageInfo :=
  pageInfos (Memory.ofBytes payload) ((Memory.ofBytes payload).u64 2).toNat

/-- A message of `PAGINGINFO` that fits the buffers and has as many entries as it
says. -/
structure PageinfoMessage (flags cr3 : UInt64) (payload : List UInt8) : Prop where
  flags : (Memory.ofBytes payload).u64 0 = flags
  cr3 : (Memory.ofBytes payload).u64 1 = cr3
  count : payload.length = 24 + 16 * ((Memory.ofBytes payload).u64 2).toNat
  bounded : ((Memory.ofBytes payload).u64 2).toNat ≤ maxEntriesPerPacket
  fits : payload.length + 12 ≤ responseBufferSize.toNat

/-- The entries are sent, only the last message is marked as such, and nothing is
written behind the payload buffer. -/
def TableSent (flags cr3 : UInt64) (infos : List PageInfo) (s t : Server) : Prop :=
  (∃ payloads : List (List UInt8), payloads ≠ [] ∧ payloads.flatMap entriesOf = infos ∧
    t.trace = s.trace ++ sentPackets .pagingInfo payloads ∧
    ∀ payload ∈ payloads, PageinfoMessage flags cr3 payload) ∧
  ∀ address, 1400 ≤ address → t.payloadBuffer address = s.payloadBuffer address

/-! ## The payload buffer -/

section

variable {payload : Memory} {flags cr3 : UInt64} {infos : List PageInfo}

/-- What `write_entry` makes of the payload, for the entry number `index`. -/
def entryWritten (payload : Memory) (index : ℕ) (info : PageInfo) : Memory :=
  (payload.write (8 * (3 + 2 * index)) (littleEndian 2 info.position.toNat ++ [info.level])).write
    (8 * (3 + 2 * index + 1)) (littleEndian 8 info.entry.toNat)

theorem length_entryHead (info : PageInfo) :
    (littleEndian 2 info.position.toNat ++ [info.level]).length = 3 := by
  rw [List.length_append, length_littleEndian, List.length_singleton]

theorem entryWritten_of_le (info : PageInfo) {index address : ℕ}
    (hbehind : 8 * (3 + 2 * index) + 16 ≤ address) :
    entryWritten payload index info address = payload address := by
  have hhead := length_entryHead info
  rw [entryWritten, Memory.write_of_le _ (by rw [length_littleEndian]; omega),
    Memory.write_of_le _ (by omega)]

theorem entryWritten_of_lt (info : PageInfo) {index address : ℕ}
    (hbefore : address < 8 * (3 + 2 * index)) :
    entryWritten payload index info address = payload address := by
  rw [entryWritten, Memory.write_of_lt _ _ (by omega), Memory.write_of_lt _ _ hbefore]

/-- What was written is what the client reads. -/
theorem pageInfoAt_written (payload : Memory) (index : ℕ) (info : PageInfo) :
    pageInfoAt (entryWritten payload index info) index = info := by
  have hhead := length_entryHead info
  have hread := payload.read_write (8 * (3 + 2 * index))
    (littleEndian 2 info.position.toNat ++ [info.level])
  rw [hhead, Memory.read_add _ _ 2 1] at hread
  obtain ⟨hposition, hlevel⟩ := List.append_inj hread (by
    rw [Memory.length_read, length_littleEndian])
  have hword : (entryWritten payload index info).word 2 (8 * (3 + 2 * index)) =
      info.position.toNat := by
    have hbelow := info.position.toNat_lt
    rw [entryWritten, Memory.word_write_of_disjoint _ (.inl (by omega)), Memory.word, hposition,
      ofLittleEndian_littleEndian_of_lt hbelow]
  have hbyte : entryWritten payload index info (8 * (3 + 2 * index) + 2) = info.level := by
    rw [entryWritten, Memory.write_of_lt _ _ (by omega)]
    simpa [Memory.read] using hlevel
  have hentry : (entryWritten payload index info).u64 (3 + 2 * index + 1) = info.entry :=
    Memory.u64_write _ _ _
  rw [pageInfoAt, hword, hbyte, hentry, UInt16.ofNat_toNat]

theorem pageInfoAt_congr {left right : Memory} {limit index : ℕ}
    (hagree : Memory.AgreeBelow limit left right) (hinside : 8 * (3 + 2 * index) + 16 ≤ limit) :
    pageInfoAt left index = pageInfoAt right index := by
  rw [pageInfoAt, pageInfoAt, Memory.u64, Memory.u64, hagree.word_eq (by omega),
    hagree.word_eq (by omega), hagree _ (by omega)]

theorem pageInfos_congr {left right : Memory} {limit count : ℕ}
    (hagree : Memory.AgreeBelow limit left right) (hinside : 24 + 16 * count ≤ limit) :
    pageInfos left count = pageInfos right count := by
  apply List.map_congr_left
  intro index hindex
  have hbelow := List.mem_range.mp hindex
  exact pageInfoAt_congr hagree (by omega)

/-- The entries that wait in the payload to be sent. -/
structure Pending (flags cr3 : UInt64) (infos : List PageInfo) (payload : Memory) : Prop where
  flags : payload.u64 0 = flags
  cr3 : payload.u64 1 = cr3
  infos : pageInfos payload infos.length = infos

/-- One entry more. -/
theorem Pending.entryWritten (hpending : Pending flags cr3 infos payload) (info : PageInfo) :
    Pending flags cr3 (infos ++ [info]) (entryWritten payload infos.length info) := by
  have hagree : Memory.AgreeBelow (8 * (3 + 2 * infos.length))
      (Handlers.entryWritten payload infos.length info) payload :=
    fun address hbelow => entryWritten_of_lt info hbelow
  constructor
  · rw [← hpending.flags, Memory.u64, Memory.u64, hagree.word_eq (by omega)]
  · rw [← hpending.cr3, Memory.u64, Memory.u64, hagree.word_eq (by omega)]
  · rw [List.length_append, List.length_singleton, pageInfos, List.range_succ, List.map_append,
      List.map_singleton, pageInfoAt_written]
    congr 1
    have hsame := pageInfos_congr hagree (by omega : 24 + 16 * infos.length ≤ _)
    rw [hpending.infos] at hsame
    exact hsame

/-- The head of the payload does not change when its entries are counted. -/
theorem Pending.counted (hpending : Pending flags cr3 infos payload) {count : UInt64} :
    Pending flags cr3 [] (payload.write (8 * 2) (littleEndian 8 count.toNat)) := by
  refine ⟨?_, ?_, rfl⟩
  · rw [Memory.u64_write_of_disjoint _ (.inl (by decide)), hpending.flags]
  · rw [Memory.u64_write_of_disjoint _ (.inl (by decide)), hpending.cr3]

/-- The entries once they are counted, as the payload of a message. -/
theorem Pending.message (hpending : Pending flags cr3 infos payload)
    (hmost : infos.length ≤ maxEntriesPerPacket) {size : ℕ} (hsize : size = 24 + 16 * infos.length)
    {count : UInt64} (hcount : count.toNat = infos.length) :
    PageinfoMessage flags cr3
        ((payload.write (8 * 2) (littleEndian 8 count.toNat)).read 0 size) ∧
      entriesOf ((payload.write (8 * 2) (littleEndian 8 count.toNat)).read 0 size) = infos := by
  obtain ⟨counted, hcounted⟩ : ∃ counted,
      counted = payload.write (8 * 2) (littleEndian 8 count.toNat) := ⟨_, rfl⟩
  have hword (index : ℕ) (hindex : index < 2) : counted.u64 index = payload.u64 index := by
    rw [hcounted, Memory.u64_write_of_disjoint _ (.inl (by omega))]
  have hcountWord : counted.u64 2 = count := by
    rw [hcounted, Memory.u64_write]
  have hinfos : pageInfos counted infos.length = infos := by
    refine Eq.trans (List.map_congr_left fun index hindex => ?_) hpending.infos
    have hlength := length_littleEndian 8 count.toNat
    rw [hcounted, pageInfoAt, pageInfoAt, Memory.u64_write_of_disjoint _ (.inr (by omega)),
      Memory.word_write_of_disjoint _ (.inr (by omega)), Memory.write_of_le _ (by omega)]
  rw [← hcounted]
  have hagree := Memory.AgreeBelow.ofBytes_read counted size
  have hread (index : ℕ) (hindex : index < 3) :
      (Memory.ofBytes (counted.read 0 size)).u64 index = counted.u64 index := by
    rw [Memory.u64, Memory.u64, hagree.word_eq (by omega)]
  have hnumber : ((Memory.ofBytes (counted.read 0 size)).u64 2).toNat = infos.length := by
    rw [hread 2 (by decide), hcountWord, hcount]
  have hbuffer : responseBufferSize.toNat = 1412 := rfl
  simp only [maxEntriesPerPacket] at hmost
  refine ⟨⟨?_, ?_, ?_, ?_, ?_⟩, ?_⟩
  · rw [hread 0 (by decide), hword 0 (by decide), hpending.flags]
  · rw [hread 1 (by decide), hword 1 (by decide), hpending.cr3]
  · rw [hnumber, Memory.length_read, hsize]
  · rw [hnumber]
    exact hmost
  · rw [Memory.length_read]
    omega
  · rw [entriesOf, hnumber, pageInfos_congr hagree (by omega), hinfos]

end

/-! ## The packets of a table -/

/-- A message that is full or the last one is counted and sent, and its caller
goes on. -/
theorem sendPageinfo_delivered (hdelivers : firmware.Delivers) {pageinfoEntries : UInt64}
    (hmost : pageinfoEntries.toNat ≤ maxEntriesPerPacket) (lastMessage : Bool)
    (proceed : Handler EfiStatus) (s : Server) :
    sendPageinfo pageinfoEntries lastMessage proceed firmware s =
      proceed firmware (packetSent .pagingInfo 2 (pageinfoEntries * 16 + 3 * 8) pageinfoEntries
        lastMessage s) := by
  simp only [maxEntriesPerPacket] at hmost
  have hfits : (pageinfoEntries * 16 + 3 * 8).toNat ≤ 1400 := by
    rw [UInt64.toNat_add, UInt64.toNat_mul]
    simp only [UInt64.reduceToNat, UInt64.reduceMul]
    omega
  obtain ⟨counted, hput, hrespond⟩ := packet_delivered hdelivers (fun _ _ => return) .pagingInfo
    2 pageinfoEntries lastMessage s hfits
  have hmessage : sendPageinfoMessage pageinfoEntries lastMessage firmware s =
      some (.success, packetSent .pagingInfo 2 (pageinfoEntries * 16 + 3 * 8) pageinfoEntries
        lastMessage s) := by
    rw [sendPageinfoMessage, bind_of_eq_some hput]
    exact hrespond
  rw [sendPageinfo, bind_of_eq_some hmessage, if_neg (not_not.mpr rfl)]

/-- How many entries wait in the payload when the loop comes to an index. -/
def waiting (index : ℕ) : ℕ :=
  if index % maxEntriesPerPacket = 0 ∧ index ≠ 0 then maxEntriesPerPacket
  else index % maxEntriesPerPacket

theorem waiting_le (index : ℕ) : waiting index ≤ maxEntriesPerPacket := by
  rw [waiting]
  split
  · exact le_rfl
  · exact (Nat.mod_lt _ (by decide)).le

/-- One entry waits more than there were behind the last full packet. -/
theorem waiting_succ (index : ℕ) : waiting (index + 1) = index % maxEntriesPerPacket + 1 := by
  rw [waiting, maxEntriesPerPacket]
  by_cases hfull : (index + 1) % 80 = 0 ∧ index + 1 ≠ 0
  · rw [if_pos hfull]
    omega
  · rw [if_neg hfull]
    omega

/-- An entry of the table as the firmware's memory held it at some time. -/
structure EntryRead (firmware : Firmware) (tableBase : UInt64) (level : UInt8) (index : ℕ)
    (info : PageInfo) : Prop where
  position : info.position.toNat = index
  level : info.level = level
  entry : ∃ time, info.entry =
    firmware.physicalMemory time (tableBase + 8 * UInt64.ofNat index)

variable {flags cr3 : UInt64} {pending infos : List PageInfo}

/-- A message more in front. -/
theorem TableSent.cons {payload : List UInt8} {middle : Server}
    (hsent : TableSent flags cr3 infos middle t) (hmessage : PageinfoMessage flags cr3 payload)
    (htrace : middle.trace = s.trace ++
      [.constructed MessageType.pagingInfo.code payload false,
        .sent (frame (messageBody MessageType.pagingInfo.code payload false))])
    (hbuffer : ∀ address, 1400 ≤ address → middle.payloadBuffer address = s.payloadBuffer address) :
    TableSent flags cr3 (entriesOf payload ++ infos) s t := by
  obtain ⟨⟨payloads, hnonempty, hinfos, hlater, hmessages⟩, hkept⟩ := hsent
  refine ⟨⟨payload :: payloads, List.cons_ne_nil _ _, ?_, ?_, ?_⟩, ?_⟩
  · rw [List.flatMap_cons, hinfos]
  · have hmore : payloads.isEmpty = false := by
      rw [List.isEmpty_eq_false_iff]
      exact hnonempty
    rw [hlater, htrace, sentPackets, hmore, List.append_assoc]
    rfl
  · exact List.forall_mem_cons.mpr ⟨hmessage, hmessages⟩
  · exact fun address hbehind => (hkept address hbehind).trans (hbuffer address hbehind)

variable (firmware) in
/-- An entry is read and written behind those that wait. -/
theorem writeAt_run (tableBase : UInt64) (level : UInt8) (index : ℕ)
    (hpending : Pending flags cr3 pending s.payloadBuffer) :
    ∃ info middle, Pending flags cr3 (pending ++ [info]) middle.payloadBuffer ∧
      (index < 2 ^ 16 → EntryRead firmware tableBase level index info) ∧
        middle.trace = s.trace ∧
          (∀ address, 24 + 16 * (pending.length + 1) ≤ address →
            middle.payloadBuffer address = s.payloadBuffer address) ∧
          ∀ rest : Handler EfiStatus, (do
            let entry ← physicalWord (tableBase + 8 * UInt64.ofNat index)
            writeEntry (3 + 2 * pending.length) entry (UInt16.ofNat index) level
            rest) firmware s = rest firmware middle := by
  obtain ⟨info, hinfo⟩ : ∃ info : PageInfo, info = ⟨UInt16.ofNat index, level,
      firmware.physicalMemory s.clock (tableBase + 8 * UInt64.ofNat index)⟩ := ⟨_, rfl⟩
  refine ⟨info, { s with
      payloadBuffer := entryWritten s.payloadBuffer pending.length info
      clock := s.clock + 1 }, hpending.entryWritten info, ?_, rfl, ?_, ?_⟩
  · intro hindex
    rw [hinfo]
    exact ⟨UInt16.toNat_ofNat_of_lt' hindex, rfl, _, rfl⟩
  · exact fun address hbehind => entryWritten_of_le info (by omega)
  · intro rest
    rw [hinfo]
    rfl

/-- The loop from any index on: it sends what waits and then the entries left. -/
theorem sendEntries_sends (hdelivers : firmware.Delivers) (tableBase : UInt64) (level : UInt8)
    {remaining index : ℕ} (hlength : index + remaining < 2 ^ 16)
    (hwaiting : pending.length = waiting index)
    (hpending : Pending flags cr3 pending s.payloadBuffer) :
    ∃ t infos, sendEntries tableBase level remaining index (3 + 2 * pending.length) firmware s =
        some (.success, t) ∧
      List.Forall₂ (EntryRead firmware tableBase level) (List.range' index remaining) infos ∧
        TableSent flags cr3 (pending ++ infos) s t := by
  have hmax : maxEntriesPerPacket = 80 := rfl
  induction remaining generalizing index pending s with
  | zero =>
      have hmost : pending.length ≤ maxEntriesPerPacket := hwaiting ▸ waiting_le index
      obtain ⟨count, hcount⟩ : ∃ count, count = UInt64.ofNat ((3 + 2 * pending.length - 3) / 2) :=
        ⟨_, rfl⟩
      have hentries : count.toNat = pending.length := by
        rw [hcount, UInt64.toNat_ofNat']
        omega
      have hsize : (count * 16 + 3 * 8).toNat = 24 + 16 * pending.length := by
        rw [UInt64.toNat_add, UInt64.toNat_mul]
        simp only [UInt64.reduceToNat, UInt64.reduceMul]
        omega
      obtain ⟨hmessage, hinfos⟩ := hpending.message hmost hsize hentries
      refine ⟨packetSent .pagingInfo 2 (count * 16 + 3 * 8) count true s, [], ?_, .nil,
        ⟨⟨[_], List.cons_ne_nil _ _, ?_, rfl, ?_⟩, ?_⟩⟩
      · rw [sendEntries, ← hcount, sendPageinfo_delivered hdelivers (by omega)]
        rfl
      · rw [List.flatMap_singleton, List.append_nil]
        exact hinfos
      · exact List.forall_mem_singleton.mpr hmessage
      · intro address hbehind
        exact Memory.write_of_le _ (by rw [length_littleEndian]; omega)
  | succ remaining ih =>
      -- the rest of the loop, once there is room for the entry
      have hwrite {before : List PageInfo} {u : Server}
          (hroom : before.length + 1 = waiting (index + 1))
          (hbefore : Pending flags cr3 before u.payloadBuffer) :
          ∃ t infos, (do
              let entry ← physicalWord (tableBase + 8 * UInt64.ofNat index)
              writeEntry (3 + 2 * before.length) entry (UInt16.ofNat index) level
              sendEntries tableBase level remaining (index + 1) (3 + 2 * before.length + 2))
                firmware u = some (.success, t) ∧
            List.Forall₂ (EntryRead firmware tableBase level)
              (List.range' index (remaining + 1)) infos ∧
              TableSent flags cr3 (before ++ infos) u t := by
        obtain ⟨info, middle, hmiddle, hread, htrace, hkept, hrun⟩ :=
          writeAt_run firmware tableBase level index hbefore
        have hlengthMiddle : (before ++ [info]).length = waiting (index + 1) := by
          rw [List.length_append, List.length_singleton, hroom]
        obtain ⟨t, infos, hrest, hinfos, hsent, hlater⟩ := ih (by omega) hlengthMiddle hmiddle
        have hposition : 3 + 2 * (before ++ [info]).length = 3 + 2 * before.length + 2 := by
          rw [List.length_append, List.length_singleton]
          omega
        rw [hposition] at hrest
        rw [htrace, List.append_assoc] at hsent
        refine ⟨t, info :: infos, (hrun _).trans hrest, ?_, hsent, fun address hbehind => ?_⟩
        · rw [List.range'_succ]
          exact .cons (hread (by omega)) hinfos
        · have hmost := waiting_le (index + 1)
          exact (hlater address hbehind).trans (hkept address (by omega))
      rw [sendEntries]
      by_cases hfull : index % maxEntriesPerPacket = 0 ∧ index ≠ 0
      · -- a full packet is sent first
        rw [waiting, if_pos hfull] at hwaiting
        have hsize : (UInt64.ofNat maxEntriesPerPacket * 16 + 3 * 8).toNat =
            24 + 16 * pending.length := by
          rw [hwaiting]
          rfl
        have hentries : (UInt64.ofNat maxEntriesPerPacket).toNat = pending.length := by
          rw [hwaiting]
          rfl
        obtain ⟨hmessage, hinfos⟩ := hpending.message hwaiting.le hsize hentries
        obtain ⟨flushed, hflushed⟩ : ∃ flushed, flushed = packetSent .pagingInfo 2
            (UInt64.ofNat maxEntriesPerPacket * 16 + 3 * 8) (UInt64.ofNat maxEntriesPerPacket)
            false s := ⟨_, rfl⟩
        have hempty : Pending flags cr3 [] flushed.payloadBuffer := by
          rw [hflushed]
          exact hpending.counted
        obtain ⟨t, infos, hrun, hread, hsent⟩ :=
          hwrite (by rw [waiting_succ, hfull.1]; rfl) hempty
        refine ⟨t, infos, ?_, hread, ?_⟩
        · rw [if_pos hfull, sendPageinfo_delivered hdelivers (by decide), ← hflushed]
          exact hrun
        · rw [← hinfos]
          refine hsent.cons hmessage (by rw [hflushed]; rfl) fun address hbehind => ?_
          rw [hflushed]
          exact Memory.write_of_le _ (by rw [length_littleEndian]; omega)
      · rw [if_neg hfull]
        rw [waiting, if_neg hfull] at hwaiting
        exact hwrite (by rw [waiting_succ, hwaiting]) hpending

theorem TableSent.of_headed {middle : Server} (hsent : TableSent flags cr3 infos middle t)
    (htrace : middle.trace = s.trace)
    (hbuffer : ∀ address, 1400 ≤ address → middle.payloadBuffer address = s.payloadBuffer address) :
    TableSent flags cr3 infos s t := by
  obtain ⟨⟨payloads, hnonempty, hinfos, hlater, hmessages⟩, hkept⟩ := hsent
  rw [htrace] at hlater
  exact ⟨⟨payloads, hnonempty, hinfos, hlater, hmessages⟩,
    fun address hbehind => (hkept address hbehind).trans (hbuffer address hbehind)⟩

variable (firmware) in
/-- The head that both functions write first. -/
theorem pageHead_run (flags cr3 : UInt64) (s : Server) :
    ∃ middle, Pending flags cr3 [] middle.payloadBuffer ∧ middle.trace = s.trace ∧
      (∀ address, 16 ≤ address → middle.payloadBuffer address = s.payloadBuffer address) ∧
        ∀ rest : Handler EfiStatus, (do
          putPayload64 0 flags
          putPayload64 1 cr3
          rest) firmware s = rest firmware middle := by
  refine ⟨{ s with payloadBuffer := (s.payloadBuffer.write (8 * 0)
      (littleEndian 8 flags.toNat)).write (8 * 1) (littleEndian 8 cr3.toNat) }, ⟨?_, ?_, rfl⟩,
    rfl, ?_, fun rest => rfl⟩
  · rw [Memory.u64_write_of_disjoint _ (.inl (by decide)), Memory.u64_write]
  · exact Memory.u64_write _ _ _
  · intro address hbehind
    have hflags := length_littleEndian 8 flags.toNat
    have hcr3 := length_littleEndian 8 cr3.toNat
    dsimp only
    rw [Memory.write_of_le _ (by omega), Memory.write_of_le _ (by omega)]

/-- A table is sent once and in order. -/
theorem sendTable_sends (hdelivers : firmware.Delivers) (tableBase : UInt64)
    (tableLength : UInt16) (level : UInt8) (flags cr3 : UInt64) (s : Server) :
    ∃ t infos, sendTable tableBase tableLength.toNat level flags cr3 firmware s =
        some (.success, t) ∧
      List.Forall₂ (EntryRead firmware tableBase level) (List.range tableLength.toNat) infos ∧
        TableSent flags cr3 infos s t := by
  obtain ⟨middle, hhead, htrace, hbuffer, hrun⟩ :=
    pageHead_run firmware flags cr3 s
  obtain ⟨t, infos, hentries, hread, hsent⟩ := sendEntries_sends hdelivers tableBase level
    (by rw [Nat.zero_add]; exact tableLength.toNat_lt) rfl hhead
  rw [← List.range_eq_range'] at hread
  exact ⟨t, infos, (hrun _).trans hentries, hread,
    hsent.of_headed htrace fun address hbehind => hbuffer address (by omega)⟩

/-- Two full packets. -/
theorem sendTable_sends_twice :
    ∃ t infos, sendTable 0x1000 160 4 1 0x1000 loopback idleServer = some (.success, t) ∧
      List.Forall₂ (EntryRead loopback 0x1000 4) (List.range 160) infos ∧
        TableSent 1 0x1000 infos idleServer t :=
  sendTable_sends delivers_loopback 0x1000 160 4 1 0x1000 idleServer

/-- An entry is sent alone. -/
theorem sendEntry_sends (hdelivers : firmware.Delivers) (table : UInt64) {index : ℕ}
    (hindex : index < 2 ^ 16) (level : UInt8) (flags cr3 : UInt64) (s : Server) :
    ∃ t info, sendEntry (table + 8 * UInt64.ofNat index) (UInt16.ofNat index) level flags cr3
        firmware s = some (.success, t) ∧
      EntryRead firmware table level index info ∧ TableSent flags cr3 [info] s t := by
  obtain ⟨middle, hhead, htrace, hbuffer, hrun⟩ :=
    pageHead_run firmware flags cr3 s
  obtain ⟨info, written, hwritten, hread, htraceWritten, hkept, hwrite⟩ :=
    writeAt_run firmware table level index hhead
  rw [List.nil_append] at hwritten
  have hcount : (1 : UInt64).toNat = [info].length := rfl
  obtain ⟨hmessage, hinfos⟩ := hwritten.message (Nat.le_add_left 1 79) rfl hcount
  refine ⟨packetSent .pagingInfo 2 (1 * 16 + 3 * 8) 1 true written, info, ?_, hread hindex,
    ⟨[_], List.cons_ne_nil _ _, ?_, ?_, List.forall_mem_singleton.mpr hmessage⟩, ?_⟩
  · refine (hrun _).trans ((hwrite _).trans ?_)
    rw [sendPageinfo_delivered hdelivers (by decide)]
    rfl
  · rw [List.flatMap_singleton]
    exact hinfos
  · rw [← htrace, ← htraceWritten]
    rfl
  · intro address hbehind
    refine (Memory.write_of_le _ (by rw [length_littleEndian]; omega)).trans ?_
    exact (hkept address (by rw [List.length_nil]; omega)).trans (hbuffer address (by omega))

end AngryUefi.Handlers
