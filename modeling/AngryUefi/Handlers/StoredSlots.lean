import AngryUefi.Handlers.Flips
import AngryUefi.Handlers.MainLoop

/-!
# What the slots are for

A client keeps byte strings in the slots: SENDUCODE and SENDMACHINECODE put one
under a number, FLIPBITS puts one under number 1 in which some bits of another
are toggled, and no other message touches them.  The tables of addresses,
lengths and pages refine this store, over all connections.
-/

namespace AngryUefi

open AngryUefi.Bits AngryUefi.Bytes AngryUefi.Handlers AngryUefi.Programs
open AngryUefi.Transition

/-! ## The store -/

/-- What is kept under the numbers of both tables. -/
abbrev Store := SlotTable × ℕ → Option (List UInt8)

namespace Store

/-- A byte string is put under the number that the message names, if there is
such a slot. -/
def send (table : SlotTable) (payload : Memory) (payloadLength : UInt64) (store : Store) :
    Store :=
  if 8 ≤ payloadLength ∧ payload.u32 0 < table.count then
    Function.update store (table, (payload.u32 0).toNat)
      (some (payload.read 8 (payload.u32 1).toNat))
  else store

/-- The update of a slot is put under number 1 with bits toggled, if there is
one. -/
def flip (payload : Memory) (payloadLength : UInt64) (store : Store) : Store :=
  if 8 ≤ payloadLength ∧ payload.u32 0 < ucodeSlots then
    match store (.ucodes, (payload.u32 0).toNat) with
    | none => store
    | some bytes =>
        Function.update store (.ucodes, 1)
          (some ((requestedFlips payload).foldl toggleIn bytes))
  else store

theorem flip_of_some {payload : Memory} {payloadLength : UInt64} {store : Store}
    {bytes : List UInt8} (hlength : 8 ≤ payloadLength) (hinside : payload.u32 0 < ucodeSlots)
    (hkept : store (.ucodes, (payload.u32 0).toNat) = some bytes) :
    flip payload payloadLength store = Function.update store (.ucodes, 1)
      (some ((requestedFlips payload).foldl toggleIn bytes)) := by
  rw [flip, if_pos ⟨hlength, hinside⟩, hkept]

/-- What a request asks of the store. -/
def request (request : Option MessageType) (payload : Memory) (payloadLength : UInt64)
    (store : Store) : Store :=
  match request with
  | some .sendUcode => send .ucodes payload payloadLength store
  | some .sendMachineCode => send .machineCodes payload payloadLength store
  | some .flipBits => flip payload payloadLength store
  | _ => store

/-- A message that puts something into a slot. -/
def Stores : Option MessageType → Prop
  | some .sendUcode | some .sendMachineCode | some .flipBits => True
  | _ => False

theorem request_of_not_stores {message : Option MessageType} (hstores : ¬ Stores message)
    (payload : Memory) (payloadLength : UInt64) (store : Store) :
    request message payload payloadLength store = store := by
  rcases message with _ | message
  · rfl
  cases message with
  | sendUcode => exact absurd trivial hstores
  | sendMachineCode => exact absurd trivial hstores
  | flipBits => exact absurd trivial hstores
  | _ => rfl

/-- What the messages ask of it, up to the first one that is malformed. -/
def serve : List (Memory × UInt64) → Store → Store
  | [], store => store
  | (message, messageLength) :: messages, store =>
      if (messageStatus message messageLength.toNat).isError then store
      else serve messages
        (request (requestOf (message.u32 1)) (message.shift 8) (messageLength - 8) store)

end Store

/-- The bytes in use, of a slot that was ever given memory. -/
def Container.bytes (container : Container) : Option (List UInt8) :=
  container.address.map fun _ => container.contents.read 0 container.length.toNat

/-- What the tables stand for. -/
def Server.store (s : Server) : Store := fun key => (key.1.slots s key.2).bytes

namespace Handlers

variable {firmware : Firmware} {s t : Server}

theorem KeepsSlots.store (hkeeps : KeepsSlots s t) : t.store = s.store := by
  funext key
  rw [Server.store, Server.store, hkeeps.slots key.1]

/-! ## The messages that put something into a slot -/

theorem count_eq (table : SlotTable) : table.count = 10 := by
  cases table <;> rfl

theorem inside_iff (table : SlotTable) (slot : UInt32) :
    slot < table.count ↔ ¬ slot > table.count - 1 := by
  rw [count_eq, UInt32.not_lt, UInt32.lt_iff_toNat_lt, UInt32.le_iff_toNat_le]
  simp only [UInt32.reduceSub, UInt32.reduceToNat]
  omega

/-- What is stored is what is kept. -/
theorem store_storeInSlot {table : SlotTable} {slot : ℕ} {payload : Memory} {size : UInt32}
    {status : EfiStatus} (haddress : (table.slots s slot).address ≠ none)
    (hrun : storeInSlot table slot payload size firmware s = some (status, t)) :
    t.store =
      Function.update s.store (table, slot) (some (payload.read 8 size.toNat)) := by
  funext key
  obtain ⟨other, index⟩ := key
  simp only [Server.store, slots_storeInSlot hrun, Function.update_apply, Prod.mk.injEq]
  split
  · obtain ⟨address, hsome⟩ := Option.ne_none_iff_exists'.mp haddress
    have hread := ((table.slots s slot).contents).read_write 0 (payload.read 8 size.toNat)
    rw [Memory.length_read] at hread
    simp only [Container.bytes, hsome, Option.map_some, UInt32.toNat_toUInt64, hread]
  · rfl

theorem store_handleSend (hallocates : firmware.Allocates) {table : SlotTable}
    {tooShort : UInt64 → Handler EfiStatus} {invalidSlot : UInt32 → Handler EfiStatus}
    {noMemory : Handler EfiStatus} {payload : Memory} {payloadLength : UInt64}
    {status : EfiStatus}
    (htooShort : ∀ length, Guarantees firmware KeepsSlots (tooShort length))
    (hinvalidSlot : ∀ slot, Guarantees firmware KeepsSlots (invalidSlot slot))
    (hrun : handleSend table tooShort invalidSlot noMemory payload payloadLength firmware s =
      some (status, t)) :
    t.store = Store.send table payload payloadLength s.store := by
  simp only [handleSend] at hrun
  simp only [Store.send, inside_iff, ← UInt64.not_lt]
  split at hrun
  · rename_i hshort
    rw [if_neg fun hsend => hsend.1 hshort, (htooShort _ _ _ _ hrun).store]
  split at hrun
  · rename_i hrange
    rw [if_neg fun hsend => hsend.2 hrange, (hinvalidSlot _ _ _ _ hrun).store]
  rename_i hlong hrange
  rw [if_pos ⟨hlong, hrange⟩]
  obtain ⟨container, looked, hslotOf, hrest⟩ := bind_eq_some_iff.mp hrun
  obtain ⟨rfl, hlooked⟩ := slotOf_keepsSlots hslotOf
  split at hrest
  · obtain ⟨allocated, given, hallocate, hstore⟩ := bind_eq_some_iff.mp hrest
    obtain ⟨rfl, address, contents, hkeeps⟩ := allocatePages_allocates hallocates hallocate
    rw [if_pos rfl] at hstore
    have hgiven : ∀ other index, SlotTable.slots other given index = _ := fun other index => by
      rw [hkeeps.slots other, slots_update]
    have hself := hgiven table (payload.u32 0).toNat
    rw [if_pos ⟨rfl, rfl⟩] at hself
    rw [store_storeInSlot (by rw [hself]; rintro ⟨⟩) hstore]
    -- the slot's memory is overwritten at once
    funext key
    obtain ⟨other, index⟩ := key
    simp only [Function.update_apply, Prod.mk.injEq]
    split
    · rfl
    · rename_i hother
      simp only [Server.store, hgiven, if_neg hother, hlooked.slots other]
  · rename_i haddress
    have hfilled : (table.slots looked (payload.u32 0).toNat).address ≠ none := by
      rw [hlooked.slots table]
      simpa using haddress
    rw [store_storeInSlot hfilled hrest, hlooked.store]

/-- Slot 1 when it is flipped. -/
theorem bytes_slot1After {payload : Memory} {payloadLength : UInt64}
    (hrequest : FlipRequest payload payloadLength s) (havailable : Slot1Available firmware s) :
    (slot1After firmware payload s).bytes = some ((requestedFlips payload).foldl toggleIn
      ((s.ucodes (payload.u32 0).toNat).contents.read 0
        (s.ucodes (payload.u32 0).toNat).length.toNat)) := by
  have haddress : (slot1After firmware payload s).address ≠ none := by
    rw [slot1After_address]
    exact (slot1Before_address hrequest.source).mpr havailable
  obtain ⟨address, hsome⟩ := Option.ne_none_iff_exists'.mp haddress
  have hcopied := (slot1Before_agree firmware (payload.u32 0).toNat s).read_eq
    (Nat.le_of_eq (Nat.zero_add _))
  have hflipped := foldl_toggleIn_filter (requestedFlips payload)
    ((s.ucodes (payload.u32 0).toNat).contents.read 0
      (s.ucodes (payload.u32 0).toNat).length.toNat)
  rw [Memory.length_read] at hflipped
  rw [Container.bytes, hsome, Option.map_some, slot1After_length, slot1Before_length, slot1After,
    insideFlips, read_toggleAll, hcopied, hflipped]

theorem store_handleFlipBits (hallocates : firmware.Allocates) (hinv : SlotInvariant s)
    {payload : Memory} {payloadLength : UInt64} {status : EfiStatus}
    (hrun : handleFlipBits payload payloadLength firmware s = some (status, t)) :
    t.store = Store.flip payload payloadLength s.store := by
  by_cases hrequest : FlipRequest payload payloadLength s
  · obtain ⟨status', t', hrun', hchanges⟩ := handleFlipBits_run firmware hrequest
    rw [hrun, Option.some.injEq, Prod.mk.injEq] at hrun'
    obtain ⟨-, rfl⟩ := hrun'
    have havailable : Slot1Available firmware s := .inr (hallocates _ _)
    obtain ⟨address, hsome⟩ := Option.ne_none_iff_exists'.mp hrequest.source
    have hkept : s.store (.ucodes, (payload.u32 0).toNat) = some
        ((s.ucodes (payload.u32 0).toNat).contents.read 0
          (s.ucodes (payload.u32 0).toNat).length.toNat) := by
      simp only [Server.store, SlotTable.slots, Container.bytes, hsome, Option.map_some]
    have hinside : payload.u32 0 < ucodeSlots :=
      (inside_iff .ucodes _).mpr (UInt32.not_lt.mpr hrequest.slot)
    rw [Store.flip_of_some hrequest.length hinside hkept]
    funext key
    obtain ⟨table, index⟩ := key
    cases table with
    | ucodes =>
        by_cases hone : index = 1
        · subst hone
          rw [Function.update_self, ← bytes_slot1After hrequest havailable]
          exact congrArg Container.bytes hchanges.self
        · rw [Function.update_of_ne (by simpa using hone)]
          exact congrArg Container.bytes (hchanges.of_ne hone)
    | machineCodes =>
        rw [Function.update_of_ne (by simp)]
        simp only [Server.store, SlotTable.slots, hchanges.machineCodes]
  · simp only [handleFlipBits] at hrun
    split at hrun
    · rename_i hshort
      rw [Store.flip, if_neg fun hflip => UInt64.not_lt.mpr hflip.1 hshort,
        (sending_keepsSlots.reject _ _ _ _ _ _ hrun).store]
    split at hrun
    · rename_i hrange
      rw [Store.flip, if_neg fun hflip => (inside_iff .ucodes _).mp hflip.2 hrange,
        (sending_keepsSlots.reject _ _ _ _ _ _ hrun).store]
    rename_i hlong hrange
    obtain ⟨container, looked, hslotOf, hrest⟩ := bind_eq_some_iff.mp hrun
    obtain ⟨rfl, hlooked⟩ := slotOf_keepsSlots hslotOf
    split at hrest
    · rename_i hempty
      have hnone : s.store (.ucodes, (payload.u32 0).toNat) = none := by
        rw [Server.store, Container.bytes, Option.isNone_iff_eq_none.mp hempty, Option.map_none]
      rw [(sending_keepsSlots.reject _ _ _ _ _ _ hrest).store, hlooked.store, Store.flip, hnone]
      split <;> rfl
    · rename_i hfilled
      refine absurd ⟨UInt64.not_lt.mp hlong, UInt32.not_lt.mp hrange, ?_, ?_⟩ hrequest
      · simpa [SlotTable.slots] using hfilled
      · exact hinv.length_le (slot_lt_of_range .ucodes hrange)

/-! ## The other messages -/

/-- A core, and not a slot. -/
def IsCore (element : Access) : Prop := ∃ index, element = .core index

theorem not_isCore_element (table : SlotTable) (slot : ℕ) : ¬ IsCore (table.element slot) := by
  rintro ⟨index, hcore⟩
  cases table <;> cases hcore

theorem quiet_runCore0 (coreId : UInt64) (patience : ℕ) :
    Guarantees firmware Quiet (runCore0 coreId patience) := by
  induction patience with
  | zero => exact Guarantees.failure
  | succ patience ih =>
      refine quiet_runProcessors.bind fun _ => quiet_ask.bind fun _ =>
        Guarantees.read.bind fun _ => Guarantees.get.bind fun s => ?_
      split
      · exact Guarantees.pure _
      · exact (quiet_core0Move _ _).bind fun _ => ih

/-- Nothing that has to do with cores touches the slots. -/
theorem requesting_keepsSlots : Requesting firmware KeepsSlots IsCore where
  toSending := sending_keepsSlots
  runProcessors := keepsSlots_quiet quiet_runProcessors
  useStack := keepsSlots_quiet quiet_useStack
  access _ _ := keepsSlots_quiet (quiet_access _)
  update table slot _ hslot := absurd hslot (not_isCore_element table slot)
  writeSlot table slot _ _ hslot := absurd hslot (not_isCore_element table slot)
  runRequest _ _ _ := keepsSlots_quiet (Guarantees.read.bind fun _ =>
    (quiet_core0Move _ _).bind fun _ => quiet_runCore0 _ _)

theorem isCore_named (coreId : UInt64) : CoreNamed IsCore coreId := fun _ => ⟨_, rfl⟩

theorem keepsSlots_slotOf (table : SlotTable) (slot : ℕ) :
    Guarantees firmware KeepsSlots (slotOf table slot) :=
  fun _ _ _ hrun => (slotOf_keepsSlots hrun).2

theorem keepsSlots_submitJob (coreId : UInt64) (job : Job) :
    Guarantees firmware KeepsSlots (submitJob coreId job answerTest) := by
  have hkept : Requesting firmware KeepsSlots IsCore := requesting_keepsSlots
  exact hkept.submitJob _ _ (isCore_named coreId) hkept.answerTest

/-! Three handlers look at slots. -/

theorem keepsSlots_handleApplyUcode (payload : Memory) (payloadLength : UInt64) :
    Guarantees firmware KeepsSlots (handleApplyUcode payload payloadLength) := by
  have hkept : Requesting firmware KeepsSlots IsCore := requesting_keepsSlots
  simp only [handleApplyUcode]
  split
  · exact hkept.reject _ _ _
  refine (keepsSlots_slotOf _ _).bind fun container => ?_
  split
  · exact hkept.reject _ _ _
  · exact hkept.ask.bind fun _ => Guarantees.read.bind fun _ =>
      (hkept.putPayload64 _ _).bind fun _ => (hkept.putPayload64 _ _).bind fun _ =>
        hkept.respondPayload reports_printStatus _ (sizeMatches_add _) _

theorem keepsSlots_handleExecuteMachineCode (payload : Memory) (payloadLength : UInt64) :
    Guarantees firmware KeepsSlots (handleExecuteMachineCode payload payloadLength) := by
  have hkept : Requesting firmware KeepsSlots IsCore := requesting_keepsSlots
  simp only [handleExecuteMachineCode]
  split
  · exact hkept.reject _ _ _
  split
  · exact hkept.reject _ _ _
  refine (keepsSlots_slotOf _ _).bind fun container => ?_
  split
  · exact hkept.reject _ _ _
  · exact keepsSlots_submitJob _ _

theorem keepsSlots_handleApplyUcodeExecuteTest (payload : Memory) (payloadLength : UInt64) :
    Guarantees firmware KeepsSlots (handleApplyUcodeExecuteTest payload payloadLength) := by
  have hkept : Requesting firmware KeepsSlots IsCore := requesting_keepsSlots
  simp only [handleApplyUcodeExecuteTest]
  split
  · exact hkept.reject _ _ _
  split
  · exact hkept.reject _ _ _
  split
  · exact hkept.reject _ _ _
  refine (keepsSlots_slotOf _ _).bind fun ucode => ?_
  split
  · exact hkept.reject _ _ _
  refine (keepsSlots_slotOf _ _).bind fun machineCode => ?_
  split
  · exact hkept.reject _ _ _
  · exact keepsSlots_submitJob _ _

/-- No other message touches the slots. -/
theorem keepsSlots_dispatch {messageType : UInt32}
    (hstores : ¬ Store.Stores (requestOf messageType)) (payload : Memory) (payloadLength : UInt64) :
    Guarantees firmware KeepsSlots (dispatch messageType payload payloadLength) := by
  have haway : Names IsCore (-1) (requestOf messageType) payload payloadLength →
      Guarantees firmware KeepsSlots (dispatch messageType payload payloadLength) :=
    requesting_keepsSlots.dispatch (reportsAtMost_max firmware) _ _ _
  simp only [dispatch] at haway ⊢
  cases hrequest : requestOf messageType with
  | none =>
      rw [hrequest] at haway
      exact haway trivial
  | some request =>
      rw [hrequest] at haway hstores
      cases request with
      | sendUcode => exact absurd trivial hstores
      | sendMachineCode => exact absurd trivial hstores
      | flipBits => exact absurd trivial hstores
      | applyUcode => exact keepsSlots_handleApplyUcode _ _
      | executeMachineCode => exact keepsSlots_handleExecuteMachineCode _ _
      | applyUcodeExcuteTest => exact keepsSlots_handleApplyUcodeExecuteTest _ _
      | startCore => exact haway fun _ _ => ⟨⟨_, rfl⟩, fun _ _ _ => ⟨_, rfl⟩⟩
      | getCoreStatus => exact haway fun _ _ => ⟨_, rfl⟩
      | getLastTestResult => exact haway fun _ _ => ⟨_, rfl⟩
      | readMsrOnCore => exact haway (isCore_named _)
      | getPagingInfo => exact haway (isCore_named _)
      | getIbsBuffer => exact haway (isCore_named _)
      | getDsmBuffer => exact haway (isCore_named _)
      | _ => exact haway trivial

/-! ## Connections -/

/-- A size that a message stores fits a slot. -/
def MessageFits (request : Option MessageType) (payload : Memory) (payloadLength : UInt64) :
    Prop :=
  match request with
  | some .sendUcode => SlotTable.ucodes.SizeFits payload payloadLength
  | some .sendMachineCode => SlotTable.machineCodes.SizeFits payload payloadLength
  | _ => True

/-- The tables still are in order, and stand for what was asked for. -/
structure Holds (store : Store) (s : Server) : Prop where
  invariant : SlotInvariant s
  store : s.store = store

theorem holds_of_keepsSlots {Result : Type} {program : Handler Result} {result : Result}
    (hinv : SlotInvariant s) (hkept : Guarantees firmware KeepsSlots program)
    (hrun : program firmware s = some (result, t)) : Holds s.store t :=
  ⟨hinv.keepsSlots (hkept _ _ _ hrun), (hkept _ _ _ hrun).store⟩

theorem holds_dispatch (hallocates : firmware.Allocates) (hinv : SlotInvariant s)
    {messageType : UInt32} {payload : Memory} {payloadLength : UInt64} {status : EfiStatus}
    (hfits : MessageFits (requestOf messageType) payload payloadLength)
    (hrun : dispatch messageType payload payloadLength firmware s = some (status, t)) :
    Holds (Store.request (requestOf messageType) payload payloadLength s.store) t := by
  by_cases hstores : Store.Stores (requestOf messageType)
  · simp only [dispatch] at hrun
    rcases hrequest : requestOf messageType with _ | request
    all_goals rw [hrequest] at hstores hfits hrun
    · cases hstores
    cases request
    case sendUcode =>
      exact ⟨hinv.handleSend hallocates (fun _ => sending_keepsSlots.rejectWith _ _)
        (fun _ => sending_keepsSlots.rejectWith _ _) hfits hrun,
        store_handleSend hallocates (fun _ => sending_keepsSlots.rejectWith _ _)
          (fun _ => sending_keepsSlots.rejectWith _ _) hrun⟩
    case sendMachineCode =>
      exact ⟨hinv.handleSend hallocates (fun _ => sending_keepsSlots.reject _ _ _)
        (fun _ => sending_keepsSlots.reject _ _ _) hfits hrun,
        store_handleSend hallocates (fun _ => sending_keepsSlots.reject _ _ _)
          (fun _ => sending_keepsSlots.reject _ _ _) hrun⟩
    case flipBits =>
      exact ⟨hinv.handleFlipBits hallocates hrun, store_handleFlipBits hallocates hinv hrun⟩
    all_goals cases hstores
  · rw [Store.request_of_not_stores hstores]
    exact holds_of_keepsSlots hinv (keepsSlots_dispatch hstores _ _) hrun

theorem holds_serveMessages (hallocates : firmware.Allocates) (hinv : SlotInvariant s)
    {messages : List (Memory × UInt64)} {status : EfiStatus}
    (hfits : ∀ message ∈ messages,
      MessageFits (requestOf (message.1.u32 1)) (message.1.shift 8) (message.2 - 8))
    (hrun : serveMessages messages firmware s = some (status, t)) :
    Holds (Store.serve messages s.store) t := by
  induction messages generalizing s with
  | nil =>
      cases hrun
      exact ⟨hinv, rfl⟩
  | cons message messages ih =>
      rw [List.forall_mem_cons] at hfits
      obtain ⟨first, middle, hfirst, hrest⟩ := bind_eq_some_iff.mp hrun
      have hstatus := returns_handleMessage firmware _ _ _ _ _ hfirst
      simp only [Store.serve]
      simp only [handleMessage] at hfirst
      split at hfirst
      · rename_i herror
        cases hfirst
        rw [if_pos herror] at hrest ⊢
        cases hrest
        exact ⟨hinv, rfl⟩
      · rename_i herror
        obtain ⟨_, onStack, huse, hfirst⟩ := bind_eq_some_iff.mp hfirst
        obtain ⟨_, served, hdispatch, hreturn⟩ := bind_eq_some_iff.mp hfirst
        cases hreturn
        rw [if_neg herror] at hrest ⊢
        have hstack := holds_of_keepsSlots hinv (keepsSlots_quiet quiet_useStack) huse
        have hserved := holds_dispatch hallocates hstack.invariant hfits.1 hdispatch
        rw [← hstack.store, ← hserved.store]
        exact ih hserved.invariant hfits.2 hrest

end Handlers

/-! ## The program -/

namespace MainLoop

/-- The messages so far store sizes that fit. -/
def AllFit (s : MainLoop) : Prop :=
  ∀ message ∈ s.messages,
    MessageFits (requestOf (message.1.u32 1)) (message.1.shift 8) (message.2 - 8)

/-- Over any number of connections, and whatever else the messages ask for, the
slots hold what was put into them. -/
theorem always_holds {firmware : Firmware} (hallocates : firmware.Allocates) {start : Server}
    (hinv : SlotInvariant start) {past : List (MainLoop × Label)} {s : MainLoop}
    (hrun : Run (Starts start) (step firmware) past s) :
    Always (fun s => s.AllFit → Holds (Store.serve s.messages start.store) s.server) past s := by
  refine (always_served hrun).mono ?_
  rintro s ⟨status, hserved⟩ hfits
  exact holds_serveMessages hallocates hinv hfits hserved

/-- SENDUCODE of two bytes for slot 2. -/
def slotConnection : List Label :=
  [.accept ⟨.success, .success, .success⟩, .chunk (delivered [18, 0, 0, 0]),
    .chunk (delivered ([1, 0, 0, 0] ++ littleEndian 4 MessageType.sendUcode.code.toNat ++
      [2, 0, 0, 0, 2, 0, 0, 0, 0x5A, 0xA5])), .handleMessage]

theorem always_holds_slotConnection :
    ∃ past t, exec (step loopback) slotConnection (initial idleServer) = some t ∧
      Run (Starts idleServer) (step loopback) past t ∧ t.messages.length = 1 ∧
      Always (fun s => s.AllFit → Holds (Store.serve s.messages idleServer.store) s.server)
        past t := by
  obtain ⟨t, hexec, hmessages⟩ :
      ∃ t, exec (step loopback) slotConnection (initial idleServer) = some t ∧
        t.messages.length = 1 := ⟨_, rfl, rfl⟩
  obtain ⟨past, hrun⟩ := run_of_exec (starts_initial idleServer) _ hexec
  exact ⟨past, t, hexec, hrun, hmessages,
    always_holds allocates_loopback blank_idleServer.invariant hrun⟩

end MainLoop

end AngryUefi
