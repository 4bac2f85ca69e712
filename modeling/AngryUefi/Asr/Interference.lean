import AngryUefi.Asr.DsmCapture
import AngryUefi.Lib.Transition

/-!
# Reading events while they change

The event handlers take no lock, and a job on the core may store and clear
events between any two of their looks at its context.  One packet of the send
loop is a step; its label says what the job stores before each look.
-/

namespace AngryUefi

open AngryUefi.Bytes

/-- A call of a job that changes the buffers. -/
inductive CaptureCall
  | storeIbsEntry (event : IBSEvent)
  | clearIbsResults
  | clearIbsResultsResetFilter
  | prepareDsmCapture (versionInfo mask : UInt64) (selected : List (UInt64 × UInt64))
      (orig : UInt64)
  | storeDsmCapture (idxInfo : UInt64) (eventAt : ℕ → DSMEvent)

namespace CaptureCall

open CaptureStore

/-- The stores of a call, in their order. -/
def stores : CaptureCall → List CaptureStore
  | storeIbsEntry event => [ibsEvent event, ibsAdvance]
  | clearIbsResults => [ibsClear]
  | clearIbsResultsResetFilter => [ibsFilter 0, ibsClear]
  | prepareDsmCapture version maskValue selected orig =>
      -- ZeroMem, then what the header is filled with
      [dsmWord .versionInfo 0, dsmWord .mask 0, dsmWord .sel 0, dsmWord .types 0,
        dsmWord .idxInfo 0, dsmWord .numItems 0, dsmWord .versionInfo version,
        dsmWord .mask maskValue] ++
      (selected.flatMap fun pair => [dsmWord .types pair.1, dsmWord .sel pair.2]) ++
      ((List.range Asr.maximumDsmEntries).map fun index => dsmEvent index ⟨0, 0⟩) ++
      [dsmOrig orig]
  | storeDsmCapture idxInfo eventAt =>
      [dsmWord .idxInfo idxInfo] ++
      ((List.range Asr.maximumDsmEntries).map fun index => dsmEvent index (eventAt index)) ++
      [dsmWord .numItems (UInt64.ofNat Asr.maximumDsmEntries)]

end CaptureCall

namespace Asr

open AngryUefi.Framing AngryUefi.Programs AngryUefi.Transition AngryUefi.Handlers

/-! ## The send loop -/

/-- Before its look number `n`, the copy routine leaves time for `stores n`. -/
abbrev Meanwhile := ℕ → List CaptureStore

def storesOnCore (core : ℕ) (stores : List CaptureStore) (s : Server) : Server :=
  { s with machine := { s.machine with
      contexts := Function.update s.machine.contexts core
        (CaptureStore.applyAll (s.machine.contexts core) stores) } }

/-- A look at the context once the job has gone on. -/
def contextAmid (stores : List CaptureStore) (coreId : UInt64) : Handler CoreContext := do
  modify (storesOnCore coreId.toNat stores)
  contextOf coreId

/-- `copyEntries`, with time between its looks. -/
def copyEntriesAmid (meanwhile : Meanwhile) (stored : CoreContext → UInt64)
    (bytesAt : CoreContext → UInt64 → List UInt8) (coreId : UInt64) (target : ℕ)
    (startIndex entryCount : UInt64) : Handler UInt64 := do
  if stored (← contextAmid (meanwhile 0) coreId) ≤ startIndex then return 0
  else
    let endIndex ←
      if startIndex + entryCount < stored (← contextAmid (meanwhile 1) coreId) then
        pure (startIndex + entryCount)
      else stored <$> contextAmid (meanwhile 2) coreId
    let context ← contextAmid (meanwhile 3) coreId
    copyToPayload target
      ((List.range (endIndex.toNat - startIndex.toNat)).flatMap fun offset =>
        bytesAt context (startIndex + UInt64.ofNat offset))
    return endIndex - startIndex

/-- The two kinds of events. -/
inductive EventKind
  | ibs
  | dsm

namespace EventKind

def stored : EventKind → CoreContext → UInt64
  | ibs => ibsPosition
  | dsm => dsmItems

def bytesAt : EventKind → CoreContext → UInt64 → List UInt8
  | ibs => ibsEntry
  | dsm => dsmEntry

def messageType : EventKind → MessageType
  | ibs => .ibsBuffer
  | dsm => .dsmBuffer

/-- Where a packet says how many events it has. -/
def countIndex : EventKind → ℕ
  | ibs => 3
  | dsm => 7

def minResponseSize : EventKind → UInt64
  | ibs => 4 * 8
  | dsm => 2 * 8 + fileHeaderSize

end EventKind

/-- The body of the loop of both handlers: the status of the message, and how
many events it has. -/
def sendPacket (copy : ℕ → UInt64 → UInt64 → Handler UInt64) (kind : EventKind)
    (startIndex eventsToSend : UInt64) : Handler (EfiStatus × UInt64) := do
  let iterationEventsToSend := minimum maxEventsPerPacket eventsToSend
  let entriesCopied ← copy kind.minResponseSize.toNat startIndex iterationEventsToSend
  let left := eventsLeft eventsToSend entriesCopied
  putPayload64 kind.countIndex entriesCopied
  let responseSize := kind.minResponseSize + entriesCopied * eventSize
  let status ← respondPayload printStatusDebug kind.messageType responseSize
    (responseSize + headerSize) (left == 0)
  return (status, entriesCopied)

/-- Where the loop is. -/
inductive SendLoop
  | sending (server : Server) (startIndex eventsToSend : UInt64)
  | returned (status : EfiStatus) (server : Server)

namespace SendLoop

def server : SendLoop → Server
  | sending s _ _ => s
  | returned _ s => s

end SendLoop

/-- One packet, or the end of the loop. -/
def sendStep (firmware : Firmware) (kind : EventKind) (coreId : UInt64)
    (meanwhile : Meanwhile) : SendLoop → Option SendLoop
  | .returned _ _ => none
  | .sending s startIndex eventsToSend =>
      if eventsToSend = 0 then some (.returned .success s)
      else
        (sendPacket (copyEntriesAmid meanwhile kind.stored kind.bytesAt coreId) kind startIndex
          eventsToSend firmware s).map fun result =>
            if result.1.1.isError then .returned result.1.1 result.2
            else .sending result.2 (startIndex + result.1.2)
              (eventsLeft eventsToSend result.1.2)

/-! ## The loop without interference -/

theorem contextAmid_nil (coreId : UInt64) : contextAmid [] coreId = contextOf coreId := by
  funext firmware s
  change contextOf coreId firmware (storesOnCore coreId.toNat [] s) = _
  rw [storesOnCore, CaptureStore.applyAll, List.foldl_nil, Function.update_eq_self]

theorem copyEntriesAmid_idle (stored : CoreContext → UInt64)
    (bytesAt : CoreContext → UInt64 → List UInt8) (coreId : UInt64) :
    copyEntriesAmid (fun _ => []) stored bytesAt coreId =
      copyEntries stored bytesAt coreId := by
  funext target startIndex entryCount
  simp only [copyEntriesAmid, contextAmid_nil, copyEntries]

theorem sendEvents_succ (copy : ℕ → UInt64 → UInt64 → Handler UInt64) (kind : EventKind)
    (patience : ℕ) (startIndex eventsToSend : UInt64) :
    sendEvents copy kind.messageType kind.countIndex kind.minResponseSize (patience + 1)
        startIndex eventsToSend =
      if eventsToSend = 0 then return .success
      else sendPacket copy kind startIndex eventsToSend >>= fun result =>
        if result.1.isError then return result.1
        else
          sendEvents copy kind.messageType kind.countIndex kind.minResponseSize patience
            (startIndex + result.2) (eventsLeft eventsToSend result.2) := by
  rw [sendEvents]
  split
  · rfl
  · simp only [sendPacket, bind_assoc, pure_bind]

/-- Nothing is stored meanwhile. -/
def Idle (_ : SendLoop) (meanwhile : Meanwhile) : Prop := meanwhile = fun _ => []

variable {firmware : Firmware} {kind : EventKind} {coreId : UInt64} {s t : Server}

/-- What the handlers do is a run in which nothing is stored meanwhile. -/
theorem run_of_sendEvents {initial : SendLoop → Prop} {past : List (SendLoop × Meanwhile)}
    {patience : ℕ} {startIndex eventsToSend : UInt64} {status : EfiStatus}
    (hpast : Run initial (sendStep firmware kind coreId) past
      (.sending s startIndex eventsToSend))
    (hrun : sendEvents (copyEntries kind.stored kind.bytesAt coreId) kind.messageType
      kind.countIndex kind.minResponseSize patience startIndex eventsToSend firmware s =
        some (status, t)) :
    ∃ steps, EachStep Idle steps ∧
      Run initial (sendStep firmware kind coreId) (steps ++ past) (.returned status t) := by
  induction patience generalizing past startIndex eventsToSend s with
  | zero => cases hrun
  | succ patience ih =>
      rw [sendEvents_succ] at hrun
      by_cases hevents : eventsToSend = 0
      · rw [if_pos hevents] at hrun
        cases hrun
        refine ⟨[(_, fun _ => [])], eachStep_cons.mpr ⟨rfl, eachStep_nil⟩, hpast.next ?_⟩
        rw [sendStep, if_pos hevents]
      rw [if_neg hevents] at hrun
      obtain ⟨result, middle, hpacket, hrest⟩ := bind_eq_some_iff.mp hrun
      have hstep : sendStep firmware kind coreId (fun _ => []) (.sending s startIndex
          eventsToSend) = some (if result.1.isError then .returned result.1 middle
            else .sending middle (startIndex + result.2) (eventsLeft eventsToSend result.2)) := by
        rw [sendStep, if_neg hevents, copyEntriesAmid_idle, hpacket]
        rfl
      by_cases herror : result.1.isError = true
      · rw [if_pos herror] at hrest hstep
        cases hrest
        exact ⟨[(_, fun _ => [])], eachStep_cons.mpr ⟨rfl, eachStep_nil⟩, hpast.next hstep⟩
      · rw [if_neg herror] at hrest hstep
        obtain ⟨steps, hidle, hsteps⟩ := ih (hpast.next hstep) hrest
        refine ⟨steps ++ [(.sending s startIndex eventsToSend, fun _ => [])], ?_, ?_⟩
        · intro entry hentry
          rcases List.mem_append.mp hentry with hearly | hlast
          · exact hidle entry hearly
          · rw [List.mem_singleton.mp hlast]
            rfl
        · rw [List.append_assoc]
          exact hsteps

/-! ## How long the loop lasts -/

/-- How many frames a trace has. -/
def framesSent (trace : List Event) : ℕ :=
  trace.countP fun event => match event with
    | .sent _ => true
    | _ => false

theorem framesSent_append (trace events : List Event) :
    framesSent (trace ++ events) = framesSent trace + framesSent events :=
  List.countP_append

theorem sendMessage_frames {messageSize : UInt64} {status : EfiStatus}
    (hrun : sendMessage messageSize firmware s = some (status, t)) :
    framesSent t.trace ≤ framesSent s.trace + 1 := by
  obtain ⟨_, asked, hask, hrest⟩ := bind_eq_some_iff.mp hrun
  cases hask
  obtain ⟨_, _, hread, hrest⟩ := bind_eq_some_iff.mp hrest
  cases hread
  obtain ⟨_, _, hget, hrest⟩ := bind_eq_some_iff.mp hrest
  cases hget
  dsimp only at hrest
  split at hrest
  · cases hrest
    exact Nat.le_succ _
  split at hrest
  · cases hrest
    exact Nat.le_succ _
  obtain ⟨_, sent, hrecord, hrest⟩ := bind_eq_some_iff.mp hrest
  cases hrecord
  split at hrest <;> cases hrest <;> exact (framesSent_append _ _).le

variable (firmware) in
theorem respondPayload_frames (messageType : MessageType) (payloadLength messageSize : UInt64)
    (lastMessage : Bool) (s : Server) :
    ∃ status t, respondPayload printStatusDebug messageType payloadLength messageSize
        lastMessage firmware s = some (status, t) ∧
      framesSent t.trace ≤ framesSent s.trace + 1 := by
  have hreport (text : String) (status : EfiStatus) :
      Completes firmware (printStatusDebug text status) := Completes.pure _
  obtain ⟨status, t, hrun⟩ := completes_respond hreport messageType s.payloadBuffer
    payloadLength messageSize lastMessage s
  refine ⟨status, t, hrun, ?_⟩
  obtain ⟨constructed, middle, hconstruct, hrest⟩ := bind_eq_some_iff.mp hrun
  by_cases hcapacity : responseBufferSize < payloadLength + 12
  · rw [constructMessage_refused hcapacity] at hconstruct
    cases hconstruct
    cases hrest
    exact (framesSent_append _ _).le.trans (Nat.le_succ _)
  · rw [constructMessage_constructed hcapacity] at hconstruct
    cases hconstruct
    obtain ⟨delivered, sent, hsend, hrest⟩ := bind_eq_some_iff.mp hrest
    have hframes := sendMessage_frames hsend
    rw [framesSent_append] at hframes
    split at hrest <;> cases hrest <;> exact hframes

variable (firmware) in
/-- The state at the looks of the copy routine. -/
def serverSeen (coreId : UInt64) (meanwhile : Meanwhile) (s : Server) : ℕ → Server
  | 0 => s
  | looks + 1 =>
      lookedAt firmware coreId
        (storesOnCore coreId.toNat (meanwhile looks) (serverSeen coreId meanwhile s looks))

variable (firmware) in
/-- The counter that a look of the copy routine finds. -/
def counterSeen (kind : EventKind) (coreId : UInt64) (meanwhile : Meanwhile) (looks : ℕ)
    (s : Server) : UInt64 :=
  kind.stored ((serverSeen firmware coreId meanwhile s looks).machine.contexts coreId.toNat)

variable (firmware) in
/-- The counter leaves a packet whole: the first look finds it above the start
of the packet, and then either the second look finds it above the packet's end
or the third one as many events after the start as the packet is to have. -/
def PacketStored (kind : EventKind) (coreId : UInt64) (loop : SendLoop)
    (meanwhile : Meanwhile) : Prop :=
  ∀ s startIndex eventsToSend, loop = .sending s startIndex eventsToSend →
    eventsToSend ≠ 0 →
      startIndex < counterSeen firmware kind coreId meanwhile 1 s ∧
        (startIndex + minimum maxEventsPerPacket eventsToSend <
            counterSeen firmware kind coreId meanwhile 2 s ∨
          minimum maxEventsPerPacket eventsToSend ≤
            counterSeen firmware kind coreId meanwhile 3 s - startIndex)

variable (firmware) in
/-- A look finds the counter that belongs to its number. -/
theorem contextAmid_seen (kind : EventKind) (coreId : UInt64) (meanwhile : Meanwhile)
    (s : Server) (looks : ℕ) :
    ∃ t, contextAmid (meanwhile looks) coreId firmware
          (serverSeen firmware coreId meanwhile s looks) =
        some (t.machine.contexts coreId.toNat, t) ∧
      t = serverSeen firmware coreId meanwhile s (looks + 1) ∧
      kind.stored (t.machine.contexts coreId.toNat) =
        counterSeen firmware kind coreId meanwhile (looks + 1) s ∧
      t.trace = (serverSeen firmware coreId meanwhile s looks).trace :=
  ⟨_, rfl, rfl, rfl, rfl⟩

variable (firmware) in
/-- The copy routine comes to an end, and it copies as much as it was to when the
counter lets it. -/
theorem copyEntriesAmid_run (kind : EventKind) (coreId : UInt64) (meanwhile : Meanwhile)
    (target : ℕ) (startIndex entryCount : UInt64) (s : Server) :
    ∃ copied t, copyEntriesAmid meanwhile kind.stored kind.bytesAt coreId target startIndex
        entryCount firmware s = some (copied, t) ∧ t.trace = s.trace ∧
      (startIndex < counterSeen firmware kind coreId meanwhile 1 s ∧
          (startIndex + entryCount < counterSeen firmware kind coreId meanwhile 2 s ∨
            entryCount ≤ counterSeen firmware kind coreId meanwhile 3 s - startIndex) →
        entryCount ≤ copied) := by
  obtain ⟨first, hfirst, hfirstSeen, hseen, htrace⟩ :=
    contextAmid_seen firmware kind coreId meanwhile s 0
  obtain ⟨second, hsecond, hsecondSeen, hseenSecond, htraceSecond⟩ :=
    contextAmid_seen firmware kind coreId meanwhile s 1
  obtain ⟨third, hthird, -, hseenThird, htraceThird⟩ :=
    contextAmid_seen firmware kind coreId meanwhile s 2
  rw [← hfirstSeen] at hsecond htraceSecond
  rw [← hsecondSeen] at hthird htraceThird
  have htraceUntil : second.trace = s.trace := htraceSecond.trans htrace
  -- the last look is at the events, and the end is known
  have hcopy : ∀ (middle : Server) (endIndex : UInt64), middle.trace = s.trace →
      ∃ t, (do let context ← contextAmid (meanwhile 3) coreId
               copyToPayload target
                 ((List.range (endIndex.toNat - startIndex.toNat)).flatMap fun offset =>
                   kind.bytesAt context (startIndex + UInt64.ofNat offset))
               return endIndex - startIndex : Handler UInt64) firmware middle =
          some (endIndex - startIndex, t) ∧ t.trace = s.trace := by
    intro middle endIndex hmiddle
    exact ⟨_, rfl, hmiddle⟩
  have hbegin : contextAmid (meanwhile 0) coreId firmware s =
      some (first.machine.contexts coreId.toNat, first) := hfirst
  rw [copyEntriesAmid, bind_of_eq_some hbegin, hseen]
  by_cases hstored : counterSeen firmware kind coreId meanwhile 1 s ≤ startIndex
  · rw [if_pos hstored]
    exact ⟨0, first, rfl, htrace,
      fun henough => absurd henough.1 (UInt64.not_lt.mpr hstored)⟩
  rw [if_neg hstored, bind_of_eq_some hsecond, hseenSecond]
  by_cases hshort : startIndex + entryCount < counterSeen firmware kind coreId meanwhile 2 s
  · rw [if_pos hshort]
    obtain ⟨t, hrun, htraceLast⟩ := hcopy second (startIndex + entryCount) htraceUntil
    refine ⟨_, t, hrun, htraceLast, fun _ => ?_⟩
    rw [UInt64.add_comm, UInt64.add_sub_cancel]
    exact UInt64.le_refl _
  · rw [if_neg hshort]
    have hmap : (kind.stored <$> contextAmid (meanwhile 2) coreId : Handler UInt64) firmware
        second = some (counterSeen firmware kind coreId meanwhile 3 s, third) := by
      rw [map_eq_pure_bind, bind_of_eq_some hthird, hseenThird]
      rfl
    rw [bind_of_eq_some hmap]
    obtain ⟨t, hrun, htraceLast⟩ := hcopy third (counterSeen firmware kind coreId meanwhile 3 s)
      (htraceThird.trans htraceUntil)
    exact ⟨_, t, hrun, htraceLast, fun henough => henough.2.resolve_left hshort⟩

variable (firmware) in
/-- A step of the loop, whatever is stored meanwhile. -/
theorem sendStep_sending (kind : EventKind) (coreId : UInt64) (meanwhile : Meanwhile)
    (s : Server) (startIndex : UInt64) {eventsToSend : UInt64} (hevents : eventsToSend ≠ 0) :
    ∃ status copied t, sendStep firmware kind coreId meanwhile
        (.sending s startIndex eventsToSend) =
          some (if status.isError then .returned status t
            else .sending t (startIndex + copied) (eventsLeft eventsToSend copied)) ∧
      framesSent t.trace ≤ framesSent s.trace + 1 ∧
      (PacketStored firmware kind coreId (.sending s startIndex eventsToSend) meanwhile →
        minimum maxEventsPerPacket eventsToSend ≤ copied) := by
  obtain ⟨copied, middle, hcopy, htrace, henough⟩ :=
    copyEntriesAmid_run firmware kind coreId meanwhile
      kind.minResponseSize.toNat startIndex (minimum maxEventsPerPacket eventsToSend) s
  obtain ⟨counted, hcounted⟩ : ∃ counted : Server, counted = { middle with
      payloadBuffer := middle.payloadBuffer.write (8 * kind.countIndex)
        (littleEndian 8 copied.toNat) } := ⟨_, rfl⟩
  have hcount : putPayload64 kind.countIndex copied firmware middle = some ((), counted) := by
    rw [hcounted]
    rfl
  have htraceCounted : counted.trace = s.trace := by rw [hcounted, ← htrace]
  obtain ⟨status, t, hrespond, hframes⟩ := respondPayload_frames firmware
    kind.messageType (kind.minResponseSize + copied * eventSize)
    (kind.minResponseSize + copied * eventSize + headerSize)
    (eventsLeft eventsToSend copied == 0) counted
  have hpacket : sendPacket (copyEntriesAmid meanwhile kind.stored kind.bytesAt coreId) kind
      startIndex eventsToSend firmware s = some ((status, copied), t) := by
    rw [sendPacket, bind_of_eq_some hcopy]
    exact bind_eq_some_iff.mpr ⟨(), counted, hcount,
      bind_eq_some_iff.mpr ⟨status, t, hrespond, rfl⟩⟩
  refine ⟨status, copied, t, ?_, htraceCounted ▸ hframes, fun hstored =>
    henough (hstored s startIndex eventsToSend rfl hevents)⟩
  rw [sendStep, if_neg hevents, hpacket]
  rfl

/-- How many packets the loop still needs when they are whole. -/
def packetsLeft : SendLoop → ℕ
  | .sending _ _ eventsToSend => (eventsToSend.toNat + 63) / 64
  | .returned _ _ => 0

/-- How many steps the loop still takes then: the last one is its end. -/
def stepsLeft : SendLoop → ℕ
  | .sending _ _ eventsToSend => (eventsToSend.toNat + 63) / 64 + 1
  | .returned _ _ => 0

/-- A whole packet leaves that many events fewer. -/
theorem eventsLeft_whole {eventsToSend copied : UInt64} (hevents : eventsToSend ≠ 0)
    (hwhole : minimum maxEventsPerPacket eventsToSend ≤ copied) :
    ((eventsLeft eventsToSend copied).toNat + 63) / 64 + 1 ≤ (eventsToSend.toNat + 63) / 64 := by
  have hsome : 0 < eventsToSend.toNat :=
    Nat.pos_of_ne_zero fun hzero => hevents (UInt64.toNat_inj.mp hzero)
  have hcopied := UInt64.le_iff_toNat_le.mp hwhole
  rw [toNat_minimum] at hcopied
  have hmax : maxEventsPerPacket.toNat = 64 := rfl
  rw [hmax] at hcopied
  rw [eventsLeft]
  split
  · rename_i hle
    rw [UInt64.toNat_sub_of_le _ _ hle]
    omega
  · have hzero : (0 : UInt64).toNat = 0 := rfl
    rw [hzero]
    omega

variable {loop next : SendLoop} {meanwhile : Meanwhile}

/-- What a step does to the loop when its packet is whole. -/
theorem sendStep_whole (hstored : PacketStored firmware kind coreId loop meanwhile)
    (hstep : sendStep firmware kind coreId meanwhile loop = some next) :
    stepsLeft next < stepsLeft loop ∧
      framesSent next.server.trace + packetsLeft next ≤
        framesSent loop.server.trace + packetsLeft loop := by
  cases loop with
  | returned status s => cases hstep
  | sending s startIndex eventsToSend =>
      by_cases hevents : eventsToSend = 0
      · rw [sendStep, if_pos hevents] at hstep
        cases hstep
        exact ⟨Nat.succ_pos _, Nat.le_add_right _ _⟩
      obtain ⟨status, copied, t, hpacket, hframes, hwhole⟩ :=
        sendStep_sending firmware kind coreId meanwhile s startIndex hevents
      have hfewer := eventsLeft_whole hevents (hwhole hstored)
      rw [hpacket] at hstep
      cases hstep
      split
      · refine ⟨Nat.succ_pos _, ?_⟩
        simp only [SendLoop.server, packetsLeft]
        omega
      · simp only [SendLoop.server, packetsLeft, stepsLeft]
        omega

/-- Only a loop that has returned has no step. -/
theorem returned_of_stuck (hstuck : sendStep firmware kind coreId meanwhile loop = none) :
    ∃ status t, loop = .returned status t := by
  cases loop with
  | returned status t => exact ⟨status, t, rfl⟩
  | sending s startIndex eventsToSend =>
      by_cases hevents : eventsToSend = 0
      · rw [sendStep, if_pos hevents] at hstuck
        cases hstuck
      · obtain ⟨status, copied, t, hpacket, -, -⟩ :=
          sendStep_sending firmware kind coreId meanwhile s startIndex hevents
        rw [hpacket] at hstuck
        cases hstuck

/-- The loop began with `eventsToSend` events in `s`; it sends one frame for each
64 of them at most, and it cannot go on for longer. -/
structure QueryEnds (firmware : Firmware) (kind : EventKind) (coreId : UInt64) (s : Server)
    (eventsToSend : UInt64) (past : List (SendLoop × Meanwhile)) (current : SendLoop) :
    Prop where
  steps : past.length ≤ (eventsToSend.toNat + 63) / 64 + 1
  frames : framesSent current.server.trace ≤
    framesSent s.trace + (eventsToSend.toNat + 63) / 64
  proceeds : ∀ meanwhile, sendStep firmware kind coreId meanwhile current = none →
    ∃ status t, current = .returned status t

/-- Where the counter leaves every packet whole, the loop ends whatever is stored
meanwhile. -/
theorem query_ends {past : List (SendLoop × Meanwhile)} {current : SendLoop}
    {startIndex eventsToSend : UInt64}
    (hrun : Run (· = .sending s startIndex eventsToSend) (sendStep firmware kind coreId) past
      current)
    (hstored : EachStep (PacketStored firmware kind coreId) past) :
    QueryEnds firmware kind coreId s eventsToSend past current := by
  have hinitialSteps (loop : SendLoop) (hloop : loop = .sending s startIndex eventsToSend) :
      stepsLeft loop ≤ (eventsToSend.toNat + 63) / 64 + 1 := by
    rw [hloop, stepsLeft]
  have hsteps := hrun.length_le hinitialSteps
    (fun loop meanwhile next hpacket hstep => (sendStep_whole hpacket hstep).1) hstored
  have hinitialFrames (loop : SendLoop) (hloop : loop = .sending s startIndex eventsToSend) :
      framesSent loop.server.trace + packetsLeft loop ≤
        framesSent s.trace + (eventsToSend.toNat + 63) / 64 := by
    rw [hloop, SendLoop.server, packetsLeft]
  have hframes := (hrun.always hinitialFrames
    (fun loop meanwhile next hbefore hpacket hstep =>
      (sendStep_whole hpacket hstep).2.trans hbefore) hstored).1
  exact ⟨by omega, by omega, fun meanwhile hstuck => returned_of_stuck hstuck⟩

/-- Before its first look, the copy routine leaves time for a call. -/
def callFirst (call : CaptureCall) : Meanwhile
  | 0 => call.stores
  | _ + 1 => []

theorem query_ends_storeIbsEntry :
    ∃ past t,
      Run (· = .sending sampledServer 0 3) (sendStep loopback .ibs 1) past
          (.returned .success t) ∧
        QueryEnds loopback .ibs 1 sampledServer 3 past (.returned .success t) := by
  obtain ⟨t, hpacket⟩ : ∃ t, sendStep loopback .ibs 1 (callFirst (.storeIbsEntry ⟨5, 6⟩))
      (.sending sampledServer 0 3) = some (.sending t 3 0) := ⟨_, rfl⟩
  have hstored : PacketStored loopback .ibs 1 (.sending sampledServer 0 3)
      (callFirst (.storeIbsEntry ⟨5, 6⟩)) := by
    intro s startIndex eventsToSend hloop _
    cases hloop
    exact ⟨by decide, .inl (by decide)⟩
  have hlast : PacketStored loopback .ibs 1 (.sending t 3 0) fun _ => [] := by
    intro s startIndex eventsToSend hloop hevents
    cases hloop
    exact absurd rfl hevents
  have hend : sendStep loopback .ibs 1 (fun _ => []) (.sending t 3 0) =
      some (.returned .success t) := rfl
  have hrun := ((Run.start rfl : Run (· = SendLoop.sending sampledServer 0 3)
    (sendStep loopback .ibs 1) [] _).next hpacket).next hend
  exact ⟨_, t, hrun, query_ends hrun
    (eachStep_cons.mpr ⟨hlast, eachStep_cons.mpr ⟨hstored, eachStep_nil⟩⟩)⟩

/-! ## A loop that does not end -/

/-- Where the first look finds no events behind the start, the packet is empty
and the loop is where it was. -/
theorem sendStep_starved (hdelivers : firmware.Delivers) (meanwhile : Meanwhile)
    {startIndex eventsToSend : UInt64} (hevents : eventsToSend ≠ 0)
    (hstarved : counterSeen firmware kind coreId meanwhile 1 s ≤ startIndex) :
    ∃ t, sendStep firmware kind coreId meanwhile (.sending s startIndex eventsToSend) =
        some (.sending t startIndex eventsToSend) ∧
      kind.stored (t.machine.contexts coreId.toNat) =
          counterSeen firmware kind coreId meanwhile 1 s ∧
        framesSent t.trace = framesSent s.trace + 1 := by
  obtain ⟨first, hfirst, -, hseen, htrace⟩ :=
    contextAmid_seen firmware kind coreId meanwhile s 0
  have hbegin : contextAmid (meanwhile 0) coreId firmware s =
      some (first.machine.contexts coreId.toNat, first) := hfirst
  have hcopy : copyEntriesAmid meanwhile kind.stored kind.bytesAt coreId
      kind.minResponseSize.toNat startIndex (minimum maxEventsPerPacket eventsToSend) firmware s =
        some (0, first) := by
    rw [copyEntriesAmid, bind_of_eq_some hbegin, hseen, if_pos hstarved]
    rfl
  have hfits : (kind.minResponseSize + 0 * eventSize).toNat ≤ 1400 := by
    cases kind <;> decide
  obtain ⟨counted, hput, hrespond⟩ := packet_delivered hdelivers printStatusDebug kind.messageType
    kind.countIndex 0 (eventsLeft eventsToSend 0 == 0) first hfits
  obtain ⟨sent, hsent⟩ : ∃ sent, sent = packetSent kind.messageType kind.countIndex
      (kind.minResponseSize + 0 * eventSize) 0 (eventsLeft eventsToSend 0 == 0) first :=
    ⟨_, rfl⟩
  rw [← hsent] at hrespond
  have hpacket : sendPacket (copyEntriesAmid meanwhile kind.stored kind.bytesAt coreId) kind
      startIndex eventsToSend firmware s = some ((.success, 0), sent) := by
    rw [sendPacket, bind_of_eq_some hcopy]
    exact bind_eq_some_iff.mpr ⟨(), counted, hput,
      bind_eq_some_iff.mpr ⟨.success, sent, hrespond, rfl⟩⟩
  have hleft : eventsLeft eventsToSend 0 = eventsToSend := by
    rw [eventsLeft, if_pos (UInt64.le_iff_toNat_le.mpr (Nat.zero_le _)), UInt64.sub_zero]
  refine ⟨sent, ?_, ?_, ?_⟩
  · rw [sendStep, if_neg hevents, hpacket, Option.map_some, UInt64.add_zero, hleft]
    rfl
  · rw [hsent]
    exact hseen
  · rw [hsent, packetSent, framesSent_append, htrace]
    rfl

theorem EventKind.stored_eq (kind : EventKind) {before after : CoreContext}
    (hcapture : before.SameCapture after) : kind.stored after = kind.stored before := by
  cases kind with
  | ibs => exact ibsPosition_eq hcapture
  | dsm => exact dsmItems_eq hcapture

/-- The first look finds what was stored before it. -/
theorem counterSeen_one (hleaves : firmware.LeavesEvents coreId.toNat) (kind : EventKind)
    (meanwhile : Meanwhile) (s : Server) :
    counterSeen firmware kind coreId meanwhile 1 s = kind.stored
      (CaptureStore.applyAll (s.machine.contexts coreId.toNat) (meanwhile 0)) := by
  have hstored : (storesOnCore coreId.toNat (meanwhile 0) s).machine.contexts coreId.toNat =
      CaptureStore.applyAll (s.machine.contexts coreId.toNat) (meanwhile 0) :=
    Function.update_self ..
  rw [← hstored]
  exact kind.stored_eq (sameCapture_runProcessors hleaves _ _)

theorem counterSeen_idle (hleaves : firmware.LeavesEvents coreId.toNat) (kind : EventKind)
    (s : Server) :
    counterSeen firmware kind coreId (fun _ => []) 1 s =
      kind.stored (s.machine.contexts coreId.toNat) :=
  counterSeen_one hleaves kind _ s

/-- Once the counter is not above the start of a packet, the loop sends empty
packets for as long as nothing is stored. -/
theorem endless_of_starved {initial : SendLoop → Prop} {past : List (SendLoop × Meanwhile)}
    {startIndex eventsToSend : UInt64} (hdelivers : firmware.Delivers)
    (hleaves : firmware.LeavesEvents coreId.toNat) (hevents : eventsToSend ≠ 0)
    (hrun : Run initial (sendStep firmware kind coreId) past
      (.sending s startIndex eventsToSend))
    (hstarved : kind.stored (s.machine.contexts coreId.toNat) ≤ startIndex) (count : ℕ) :
    ∃ steps t, EachStep Idle steps ∧
      Run initial (sendStep firmware kind coreId) (steps ++ past) t ∧
        framesSent t.server.trace = framesSent s.trace + count := by
  have hprogress (loop : SendLoop) (hloop : ∃ t, loop = .sending t startIndex eventsToSend ∧
      kind.stored (t.machine.contexts coreId.toNat) ≤ startIndex) :
      ∃ meanwhile next, Idle loop meanwhile ∧
        sendStep firmware kind coreId meanwhile loop = some next ∧
          (∃ t, next = .sending t startIndex eventsToSend ∧
            kind.stored (t.machine.contexts coreId.toNat) ≤ startIndex) ∧
            framesSent next.server.trace = framesSent loop.server.trace + 1 := by
    obtain ⟨before, rfl, hbefore⟩ := hloop
    rw [← counterSeen_idle hleaves] at hbefore
    obtain ⟨after, hstep, hstored, hframes⟩ :=
      sendStep_starved hdelivers (fun _ => []) hevents hbefore
    refine ⟨_, _, rfl, hstep, ⟨after, rfl, ?_⟩, hframes⟩
    rw [hstored]
    exact hbefore
  obtain ⟨steps, t, hidle, hreached, -, hframes⟩ :=
    hrun.exists_extension ⟨s, rfl, hstarved⟩ hprogress count
  exact ⟨steps, t, hidle, hreached, hframes⟩

/-- What takes the events of a kind away. -/
def clearing : EventKind → CaptureCall
  | .ibs => .clearIbsResults
  | .dsm => .prepareDsmCapture 0x3000000002 0 [] 0

/-- Every store but the one of `num_items`. -/
def KeepsItems : CaptureStore → Prop
  | .dsmWord .numItems _ => False
  | _ => True

theorem dsmItems_apply {store : CaptureStore} (hkeeps : KeepsItems store)
    (context : CoreContext) : dsmItems (CaptureStore.apply context store) = dsmItems context := by
  simp only [dsmItems, CaptureStore.apply, Option.map_map]
  cases context.dsmControl with
  | none => rfl
  | some control =>
      cases store with
      | dsmWord word value => cases word <;> first | rfl | cases hkeeps
      | _ => rfl

theorem dsmItems_applyAll {stores : List CaptureStore} (hkeep : ∀ store ∈ stores, KeepsItems store)
    (context : CoreContext) :
    dsmItems (CaptureStore.applyAll context stores) = dsmItems context := by
  induction stores generalizing context with
  | nil => rfl
  | cons store stores ih =>
      rw [List.forall_mem_cons] at hkeep
      exact (ih hkeep.2 _).trans (dsmItems_apply hkeep.1 context)

theorem dsmItems_cleared (context : CoreContext) :
    dsmItems (CaptureStore.apply context (.dsmWord .numItems 0)) = 0 := by
  simp only [dsmItems, CaptureStore.apply, Option.map_map]
  cases context.dsmControl <;> rfl

/-- Whoever clears the events leaves none. -/
theorem stored_clearing (kind : EventKind) (context : CoreContext) :
    kind.stored (CaptureStore.applyAll context (clearing kind).stores) = 0 := by
  cases kind with
  | ibs =>
      change ibsPosition (CaptureStore.apply context .ibsClear) = 0
      simp only [ibsPosition, CaptureStore.apply, Option.map_map]
      cases context.ibsControl <;> rfl
  | dsm =>
      obtain ⟨before, after, hstores, hkeep⟩ : ∃ before after,
          (clearing .dsm).stores = before ++ .dsmWord .numItems 0 :: after ∧
            ∀ store ∈ after, KeepsItems store := by
        refine ⟨[.dsmWord .versionInfo 0, .dsmWord .mask 0, .dsmWord .sel 0, .dsmWord .types 0,
            .dsmWord .idxInfo 0],
          [.dsmWord .versionInfo 0x3000000002, .dsmWord .mask 0] ++
            ((List.range maximumDsmEntries).map fun index => .dsmEvent index ⟨0, 0⟩) ++
              [.dsmOrig 0], rfl, ?_⟩
        intro store hstore
        rw [List.mem_append, List.mem_append, List.mem_map] at hstore
        rcases hstore with (hheader | ⟨index, -, rfl⟩) | horig
        · rcases List.mem_cons.mp hheader with rfl | hmask
          · trivial
          · rw [List.mem_singleton.mp hmask]
            trivial
        · trivial
        · rw [List.mem_singleton.mp horig]
          trivial
      change dsmItems (CaptureStore.applyAll context (clearing .dsm).stores) = 0
      rw [hstores, CaptureStore.applyAll, List.foldl_append, List.foldl_cons]
      exact (dsmItems_applyAll hkeep _).trans (dsmItems_cleared _)

/-- The job on the core only takes the events away. -/
def Clears (kind : EventKind) (_ : SendLoop) (meanwhile : Meanwhile) : Prop :=
  ∀ look, meanwhile look = [] ∨ meanwhile look = (clearing kind).stores

/-- Cleared events keep the loop from its end: it sends more frames than any
bound allows. -/
theorem not_bounded_of_clears (hdelivers : firmware.Delivers) (kind : EventKind) (coreId : UInt64)
    (hleaves : firmware.LeavesEvents coreId.toNat) (s : Server) {eventsToSend : UInt64}
    (hevents : eventsToSend ≠ 0) :
    ¬ ∃ bound, ∀ past current,
      Run (· = .sending s 0 eventsToSend) (sendStep firmware kind coreId) past current →
        EachStep (Clears kind) past → framesSent current.server.trace ≤ bound := by
  rintro ⟨bound, hbound⟩
  have hseen : counterSeen firmware kind coreId (callFirst (clearing kind)) 1 s = 0 :=
    (counterSeen_one hleaves kind _ s).trans (stored_clearing kind _)
  obtain ⟨cleared, hstep, hstored, hframes⟩ := sendStep_starved hdelivers
    (callFirst (clearing kind)) hevents (UInt64.le_of_eq hseen)
  have hfirst := (Run.start rfl : Run (· = SendLoop.sending s 0 eventsToSend)
    (sendStep firmware kind coreId) [] _).next hstep
  rw [hseen] at hstored
  obtain ⟨steps, t, hidle, hrun, hmore⟩ := endless_of_starved hdelivers hleaves hevents hfirst
    (UInt64.le_of_eq hstored) bound
  have hclears : EachStep (Clears kind)
      (steps ++ [(.sending s 0 eventsToSend, callFirst (clearing kind))]) := by
    intro entry hentry
    rcases List.mem_append.mp hentry with hearly | hlast
    · rw [Clears, hidle entry hearly]
      exact fun _ => .inl rfl
    · rw [List.mem_singleton.mp hlast]
      intro look
      cases look with
      | zero => exact .inr rfl
      | succ look => exact .inl rfl
  have hle := hbound _ _ hrun hclears
  omega

theorem not_bounded_sampleEvents :
    (¬ ∃ bound, ∀ past current,
      Run (· = .sending sampledServer 0 3) (sendStep loopback .ibs 1) past current →
        EachStep (Clears .ibs) past → framesSent current.server.trace ≤ bound) ∧
    ¬ ∃ bound, ∀ past current,
      Run (· = .sending capturedServer 0 128) (sendStep loopback .dsm 1) past current →
        EachStep (Clears .dsm) past → framesSent current.server.trace ≤ bound :=
  ⟨not_bounded_of_clears delivers_loopback .ibs 1 (leavesEvents_loopback _) sampledServer
    (by decide),
    not_bounded_of_clears delivers_loopback .dsm 1 (leavesEvents_loopback _) capturedServer
      (by decide)⟩

end Asr

end AngryUefi
