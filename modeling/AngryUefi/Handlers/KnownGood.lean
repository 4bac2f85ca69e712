import AngryUefi.Handlers.StoredSlots

/-!
# The known good update

`init_ucode` puts the update that belongs to the processor into slot 0 and
remembers in `original_ucode` where it is.  No message moves a slot that has
memory or stores to `original_ucode`, and only a SENDUCODE for slot 0 replaces
what slot 0 holds.
-/

namespace AngryUefi

open AngryUefi.Bytes AngryUefi.Handlers AngryUefi.Programs AngryUefi.Transition

namespace Handlers

variable {firmware : Firmware} {s t : Server}

/-! ## Addresses -/

/-- Slots that have memory keep it where it is. -/
def KeepsAddresses (s t : Server) : Prop :=
  ∀ (table : SlotTable) slot, (table.slots s slot).address ≠ none →
    (table.slots t slot).address = (table.slots s slot).address

instance : IsPreorder Server KeepsAddresses where
  refl _ _ _ _ := rfl
  trans _ _ _ hleft hright table slot haddress := by
    have hmiddle := hleft table slot haddress
    exact (hright table slot (hmiddle ▸ haddress)).trans hmiddle

theorem KeepsSlots.keepsAddresses (hkeeps : KeepsSlots s t) : KeepsAddresses s t :=
  fun table slot _ => by rw [hkeeps.slots table]

theorem keepsAddresses_of_keepsSlots {Result : Type} {program : Handler Result}
    (hkept : Guarantees firmware KeepsSlots program) :
    Guarantees firmware KeepsAddresses program :=
  hkept.mono fun _ _ => KeepsSlots.keepsAddresses

/-- A change of a slot that does not concern its address. -/
theorem keepsAddresses_update {table : SlotTable} {slot : ℕ} {change : Container → Container}
    (hchange : (change (table.slots s slot)).address = (table.slots s slot).address) :
    KeepsAddresses s (table.update slot change s) := by
  intro other index _
  rw [slots_update]
  split
  · rename_i hself
    rw [hchange, hself.1, hself.2]
  · rfl

theorem keepsAddresses_slotOf (table : SlotTable) (slot : ℕ) :
    Guarantees firmware KeepsAddresses (slotOf table slot) :=
  keepsAddresses_of_keepsSlots (keepsSlots_slotOf table slot)

theorem keepsAddresses_setLength (table : SlotTable) (slot : ℕ) (length : UInt64) :
    Guarantees firmware KeepsAddresses (setLength table slot length) := by
  intro s _ t hrun
  refine trans_of KeepsAddresses (keepsAddresses_update ?_)
    (setLength_keepsSlots hrun).keepsAddresses
  rfl

theorem keepsAddresses_writeSlot (table : SlotTable) (slot start : ℕ) (bytes : List UInt8) :
    Guarantees firmware KeepsAddresses (writeSlot table slot start bytes) := by
  intro s _ t hrun
  refine trans_of KeepsAddresses (fun other index haddress => ?_)
    (writeSlot_keepsSlots hrun).keepsAddresses
  have hupdate : KeepsAddresses s (table.update slot (fun container =>
      { container with contents := container.contents.write start bytes }) s) :=
    keepsAddresses_update (by rfl)
  cases other <;> exact hupdate _ index haddress

/-- Only a slot without memory is given some. -/
theorem keepsAddresses_allocatePages {table : SlotTable} {slot : ℕ} {allocated : Bool}
    (hempty : (table.slots s slot).address = none)
    (hrun : allocatePages table slot firmware s = some (allocated, t)) : KeepsAddresses s t := by
  obtain ⟨number, asked, hask, hrest⟩ := bind_eq_some_iff.mp hrun
  obtain ⟨_, _, hread, hrest⟩ := bind_eq_some_iff.mp hrest
  cases hread
  obtain ⟨_, looked, haccess, hrest⟩ := bind_eq_some_iff.mp hrest
  have hasked : KeepsSlots s asked := keepsSlots_quiet quiet_ask _ _ _ hask
  have hlooked : KeepsSlots s looked :=
    trans_of KeepsSlots hasked (keepsSlots_quiet (quiet_access _) _ _ _ haccess)
  have hupdate : ∀ change, KeepsAddresses s (table.update slot change looked) := by
    intro change
    refine trans_of KeepsAddresses hlooked.keepsAddresses fun other index haddress => ?_
    rw [slots_update, if_neg]
    rintro ⟨rfl, rfl⟩
    rw [hlooked.slots] at haddress
    exact haddress hempty
  cases hpages : firmware.allocatePages number (table.allocSize / 4096) with
  | none =>
      simp only [hpages] at hrest
      cases hrest
      exact hupdate _
  | some memory =>
      simp only [hpages] at hrest
      cases hrest
      exact hupdate _

theorem keepsAddresses_storeInSlot (table : SlotTable) (slot : ℕ) (payload : Memory)
    (size : UInt32) : Guarantees firmware KeepsAddresses (storeInSlot table slot payload size) :=
  (keepsAddresses_setLength _ _ _).bind fun _ => (keepsAddresses_writeSlot _ _ _ _).bind
    fun _ => keepsAddresses_of_keepsSlots sending_keepsSlots.succeed

theorem keepsAddresses_handleSend {table : SlotTable} {tooShort : UInt64 → Handler EfiStatus}
    {invalidSlot : UInt32 → Handler EfiStatus} {noMemory : Handler EfiStatus}
    (htooShort : ∀ length, Guarantees firmware KeepsSlots (tooShort length))
    (hinvalidSlot : ∀ slot, Guarantees firmware KeepsSlots (invalidSlot slot))
    (hnoMemory : Guarantees firmware KeepsSlots noMemory) (payload : Memory)
    (payloadLength : UInt64) :
    Guarantees firmware KeepsAddresses
      (handleSend table tooShort invalidSlot noMemory payload payloadLength) := by
  simp only [handleSend]
  split
  · exact keepsAddresses_of_keepsSlots (htooShort _)
  split
  · exact keepsAddresses_of_keepsSlots (hinvalidSlot _)
  intro s status t hrun
  obtain ⟨container, looked, hslotOf, hrest⟩ := bind_eq_some_iff.mp hrun
  obtain ⟨rfl, hlooked⟩ := slotOf_keepsSlots hslotOf
  refine trans_of KeepsAddresses hlooked.keepsAddresses ?_
  split at hrest
  · rename_i hempty
    rw [Option.isNone_iff_eq_none, ← hlooked.slots table] at hempty
    obtain ⟨allocated, given, hallocate, hrest⟩ := bind_eq_some_iff.mp hrest
    refine trans_of KeepsAddresses (keepsAddresses_allocatePages hempty hallocate) ?_
    split at hrest
    · exact keepsAddresses_storeInSlot _ _ _ _ _ _ _ hrest
    · exact keepsAddresses_of_keepsSlots hnoMemory _ _ _ hrest
  · exact keepsAddresses_storeInSlot _ _ _ _ _ _ _ hrest

theorem keepsAddresses_copyToSlot1 (targetSlot : ℕ) :
    Guarantees firmware KeepsAddresses (copyToSlot1 targetSlot) := by
  have hcopy : Guarantees firmware KeepsAddresses (do
      let source ← slotOf .ucodes targetSlot
      writeSlot .ucodes 1 0 (source.contents.read 0 source.length.toNat)
      setLength .ucodes 1 source.length) :=
    (keepsAddresses_slotOf _ _).bind fun _ => (keepsAddresses_writeSlot _ _ _ _).bind
      fun _ => keepsAddresses_setLength _ _ _
  intro s _ t hrun
  obtain ⟨container, looked, hslotOf, hrest⟩ := bind_eq_some_iff.mp hrun
  obtain ⟨rfl, hlooked⟩ := slotOf_keepsSlots hslotOf
  refine trans_of KeepsAddresses hlooked.keepsAddresses ?_
  dsimp only at hrest
  split at hrest
  · rename_i hempty
    rw [Option.isNone_iff_eq_none, ← hlooked.slots .ucodes] at hempty
    obtain ⟨_, given, hallocate, hrest⟩ := bind_eq_some_iff.mp hrest
    refine trans_of KeepsAddresses (keepsAddresses_allocatePages hempty hallocate) ?_
    exact ((keepsAddresses_setLength _ _ _).bind fun _ => hcopy) _ _ _ hrest
  · exact hcopy _ _ _ hrest

theorem keepsAddresses_flipBits (payload : Memory) (targetSlot index remaining : ℕ) :
    Guarantees firmware KeepsAddresses (flipBits payload targetSlot index remaining) := by
  have hflip : ∀ length position,
      Guarantees firmware KeepsAddresses (flipBit 1 length position) := by
    intro length position
    simp only [flipBit]
    split
    · exact Guarantees.pure _
    · exact (keepsAddresses_slotOf _ _).bind fun _ => keepsAddresses_writeSlot _ _ _ _
  induction remaining generalizing index with
  | zero => exact Guarantees.pure _
  | succ remaining ih =>
      exact (keepsAddresses_slotOf _ _).bind fun _ => (hflip _ _).bind fun _ => ih _

theorem keepsAddresses_handleFlipBits (payload : Memory) (payloadLength : UInt64) :
    Guarantees firmware KeepsAddresses (handleFlipBits payload payloadLength) := by
  have hreject : ∀ code text arguments,
      Guarantees firmware KeepsAddresses (reject code text arguments) := fun _ _ _ =>
    keepsAddresses_of_keepsSlots (sending_keepsSlots.reject _ _ _)
  have hflips : Guarantees firmware KeepsAddresses (do
      flipBits payload (payload.u32 0).toNat 0 (payload.u32 1).toNat
      succeed) := (keepsAddresses_flipBits _ _ _ _).bind fun _ =>
    keepsAddresses_of_keepsSlots sending_keepsSlots.succeed
  simp only [handleFlipBits]
  split
  · exact hreject _ _ _
  split
  · exact hreject _ _ _
  refine (keepsAddresses_slotOf _ _).bind fun container => ?_
  split
  · exact hreject _ _ _
  split
  · exact (keepsAddresses_copyToSlot1 _).bind fun _ => hflips
  · exact hflips

theorem keepsAddresses_dispatch (messageType : UInt32) (payload : Memory)
    (payloadLength : UInt64) :
    Guarantees firmware KeepsAddresses (dispatch messageType payload payloadLength) := by
  by_cases hstores : Store.Stores (requestOf messageType)
  · simp only [dispatch]
    rcases hrequest : requestOf messageType with _ | request
    all_goals rw [hrequest] at hstores
    · cases hstores
    cases request
    case sendUcode =>
      exact keepsAddresses_handleSend (fun _ => sending_keepsSlots.rejectWith _ _)
        (fun _ => sending_keepsSlots.rejectWith _ _) (sending_keepsSlots.rejectWith _ _) _ _
    case sendMachineCode =>
      exact keepsAddresses_handleSend (fun _ => sending_keepsSlots.reject _ _ _)
        (fun _ => sending_keepsSlots.reject _ _ _) (sending_keepsSlots.reject _ _ _) _ _
    case flipBits => exact keepsAddresses_handleFlipBits _ _
    all_goals cases hstores
  · exact keepsAddresses_of_keepsSlots (keepsSlots_dispatch hstores _ _)

theorem keepsAddresses_serveMessages (messages : List (Memory × UInt64)) :
    Guarantees firmware KeepsAddresses (serveMessages messages) := by
  refine guarantees_serveMessages fun message _ => ?_
  simp only [handleMessage]
  split
  · exact Guarantees.pure _
  · exact (keepsAddresses_of_keepsSlots (keepsSlots_quiet quiet_useStack)).bind fun _ =>
      (keepsAddresses_dispatch _ _ _).bind fun _ => Guarantees.pure _

/-- `original_ucode` points where it did. -/
def KeepsOriginal (s t : Server) : Prop := t.originalUcode = s.originalUcode

instance : IsPreorder Server KeepsOriginal where
  refl _ := rfl
  trans _ _ _ hleft hright := hright.trans hleft

theorem keepsOriginal_modify {change : Server → Server}
    (hchange : ∀ s, (change s).originalUcode = s.originalUcode) :
    Guarantees firmware KeepsOriginal (modify change : Handler PUnit) :=
  Guarantees.modify hchange

theorem keepsOriginal_ask : Guarantees firmware KeepsOriginal ask := by
  refine Guarantees.get.bind fun _ => Guarantees.bind ?_ fun _ => Guarantees.pure _
  exact keepsOriginal_modify fun _ => rfl

theorem keepsOriginal_formatPrint (text : String) (arguments : List UInt64) :
    Guarantees firmware KeepsOriginal (formatPrint text arguments) :=
  Guarantees.read.bind fun _ => keepsOriginal_modify fun _ => rfl

theorem keepsOriginal_access (element : Access) :
    Guarantees firmware KeepsOriginal (access element) :=
  keepsOriginal_modify fun _ => rfl

/-- Only `ensure_ucode_slot_0` stores to the pointer. -/
theorem kept_original (kind : Access → Prop) : Kept firmware KeepsOriginal kind where
  ask := keepsOriginal_ask
  formatPrint := keepsOriginal_formatPrint
  copyToPayload _ _ := keepsOriginal_modify fun _ => rfl
  respond _ _ _ _ _ _ hreport _ := guarantees_respond keepsOriginal_ask
    keepsOriginal_formatPrint (fun _ => keepsOriginal_modify fun _ => rfl) (fun _ _ => rfl)
    hreport _ _ _ _ _
  runProcessors := keepsOriginal_ask.bind fun _ => Guarantees.read.bind fun _ =>
    keepsOriginal_modify fun _ => rfl
  useStack := keepsOriginal_ask.bind fun _ => Guarantees.read.bind fun _ =>
    keepsOriginal_modify fun _ => rfl
  access element _ := keepsOriginal_access element
  core0Move coreId choice _ _ := by
    refine (keepsOriginal_access _).bind fun _ => Guarantees.get.bind fun s => ?_
    split
    · exact Guarantees.failure
    · exact keepsOriginal_modify fun _ => rfl
  update table _ _ := keepsOriginal_modify fun _ => by cases table <;> rfl
  writeSlot table _ _ _ _ := by
    refine (keepsOriginal_access _).bind fun _ => keepsOriginal_modify fun s => ?_
    cases table <;> rfl

theorem keepsOriginal_serveMessages (messages : List (Memory × UInt64)) :
    Guarantees firmware KeepsOriginal (serveMessages messages) :=
  guarantees_serveMessages fun message _ =>
    (kept_original fun _ => True).handleMessage covers_all (reportsAtMost_max firmware)
      message.1 message.2 fun _ => admits_all _ _ _ _

/-! ## Contents -/

/-- The message sends an update for the slot. -/
def Replaces (slot : ℕ) (request : Option MessageType) (payload : Memory) : Prop :=
  request = some .sendUcode ∧ (payload.u32 0).toNat = slot

/-- No message of a connection does. -/
def NoneReplaces (slot : ℕ) (messages : List (Memory × UInt64)) : Prop :=
  ∀ message ∈ messages,
    ¬ Replaces slot (requestOf (message.1.u32 1)) (message.1.shift 8)

/-- FLIPBITS writes to slot 1 only. -/
theorem request_of_not_replaces {slot : ℕ} (hslot : slot ≠ 1) {request : Option MessageType}
    {payload : Memory} (hreplaces : ¬ Replaces slot request payload) (payloadLength : UInt64)
    (store : Store) :
    Store.request request payload payloadLength store (.ucodes, slot) =
      store (.ucodes, slot) := by
  by_cases hstores : Store.Stores request
  · rcases request with _ | request
    · cases hstores
    cases request
    case sendUcode =>
      have hother : (payload.u32 0).toNat ≠ slot := fun hself => hreplaces ⟨rfl, hself⟩
      simp only [Store.request, Store.send]
      split
      · exact Function.update_of_ne (fun hkey => hother (congrArg Prod.snd hkey).symm) _ _
      · rfl
    case sendMachineCode =>
      simp only [Store.request, Store.send]
      split
      · exact Function.update_of_ne (by rintro ⟨⟩) _ _
      · rfl
    case flipBits =>
      simp only [Store.request, Store.flip]
      split
      · cases hkept : store (.ucodes, (payload.u32 0).toNat) with
        | none => rfl
        | some bytes => exact Function.update_of_ne (fun hkey => hslot (congrArg Prod.snd hkey)) _ _
      · rfl
    all_goals cases hstores
  · rw [Store.request_of_not_stores hstores]

theorem serve_of_noneReplaces {slot : ℕ} (hslot : slot ≠ 1) {messages : List (Memory × UInt64)}
    (hnone : NoneReplaces slot messages) (store : Store) :
    Store.serve messages store (.ucodes, slot) = store (.ucodes, slot) := by
  induction messages generalizing store with
  | nil => rfl
  | cons message messages ih =>
      obtain ⟨hfirst, hlater⟩ := List.forall_mem_cons.mp hnone
      simp only [Store.serve]
      split
      · rfl
      · rw [ih hlater, request_of_not_replaces hslot hfirst]

/-- Slot 0 holds an update when the bytes in use are the update's. -/
theorem holdsUpdate_iff {update : Memory} {entry : UcodeDBEntry} {container : Container} :
    HoldsUpdate update entry container ↔
      container.bytes = some (update.read 0 entry.updateLength.toNat) := by
  constructor
  · rintro ⟨haddress, hlength, hcontents⟩
    obtain ⟨address, hsome⟩ := Option.ne_none_iff_exists'.mp haddress
    rw [Container.bytes, hsome, Option.map_some, hlength, UInt32.toNat_toUInt64, hcontents]
  · intro hbytes
    obtain ⟨address, hsome, hread⟩ := Option.map_eq_some_iff.mp hbytes
    have hlength : container.length.toNat = entry.updateLength.toNat := by
      simpa only [Memory.length_read] using congrArg List.length hread
    refine ⟨by rw [hsome]; rintro ⟨⟩, ?_, hlength ▸ hread⟩
    exact UInt64.toNat_inj.mp (hlength.trans (UInt32.toNat_toUInt64 _).symm)

end Handlers

namespace MainLoop

/-- Slot 0 once the system has started, which `original_ucode` points to. -/
structure KnownGood (platform : Platform) (entry : UcodeDBEntry) (start : Server)
    (s : MainLoop) : Prop where
  allocated : (s.server.ucodes 0).address ≠ none
  address : (s.server.ucodes 0).address = (start.ucodes 0).address
  originalUcode : s.server.originalUcode = (s.server.ucodes 0).address
  update : s.AllFit → NoneReplaces 0 s.messages →
    HoldsUpdate (platform.updates entry.template) entry (s.server.ucodes 0)

/-- From the start on, whatever the messages are, `original_ucode` points to
slot 0, and the update that belongs to the processor is there until a message
sends another one. -/
theorem always_knownGood {firmware : Firmware} (hallocates : firmware.Allocates)
    {platform : Platform} {loaded start : Server} (hloaded : loaded.machine.Loaded)
    (hblank : Blank loaded) {entry : UcodeDBEntry}
    (hentry : getUpdateForCpuid (platform.callCpuid 1) = some entry)
    (hinit : initUcode platform firmware loaded = some ((), start))
    {past : List (MainLoop × Label)} {s : MainLoop}
    (hrun : Run (Starts start) (step firmware) past s) :
    Always (KnownGood platform entry start) past s := by
  obtain ⟨hready, -⟩ := ready_of_initUcode hallocates hloaded hblank hinit
  have hslot0 := hready.slot0
  refine (always_served hrun).mono ?_
  rintro s ⟨status, hserved⟩
  have haddresses := keepsAddresses_serveMessages s.messages start status s.server hserved
  have haddress : (s.server.ucodes 0).address = (start.ucodes 0).address :=
    haddresses .ucodes 0 hslot0.address
  have hpointer : s.server.originalUcode = start.originalUcode :=
    keepsOriginal_serveMessages s.messages start status s.server hserved
  refine ⟨haddress ▸ hslot0.address, haddress, ?_, fun hfits hnone => ?_⟩
  · rw [hpointer, haddress]
    exact hslot0.originalUcode
  have hholds := holds_serveMessages hallocates hready.slots hfits hserved
  have hkept : s.server.store (.ucodes, 0) = start.store (.ucodes, 0) := by
    rw [hholds.store, serve_of_noneReplaces (by decide) hnone]
  exact holdsUpdate_iff.mpr (hkept.trans (holdsUpdate_iff.mp (hslot0.update entry hentry)))

/-- FLIPBITS of slot 0, with one position. -/
def flipConnection : List Label :=
  [.accept ⟨.success, .success, .success⟩, .chunk (delivered [20, 0, 0, 0]),
    .chunk (delivered ([1, 0, 0, 0] ++ littleEndian 4 MessageType.flipBits.code.toNat ++
      [0, 0, 0, 0, 1, 0, 0, 0, 3, 0, 0, 0])), .handleMessage]

theorem always_knownGood_flipConnection :
    ∃ entry start past t,
      getUpdateForCpuid (knownPlatform.callCpuid 1) = some entry ∧
        initUcode knownPlatform loopback loadedServer = some ((), start) ∧
        exec (step loopback) flipConnection (initial start) = some t ∧
        Run (Starts start) (step loopback) past t ∧
        (t.server.ucodes 1).length = entry.updateLength.toUInt64 ∧
        NoneReplaces 0 t.messages ∧ Always (KnownGood knownPlatform entry start) past t := by
  obtain ⟨entry, start, hentry, hinit, hlength, hseen⟩ :
      ∃ entry start, getUpdateForCpuid (knownPlatform.callCpuid 1) = some entry ∧
        initUcode knownPlatform loopback loadedServer = some ((), start) ∧
        entry.updateLength.toUInt64 = 5568 ∧
        (exec (step loopback) flipConnection (initial start)).map (fun t =>
          ((t.server.ucodes 1).length, t.messages.map fun message =>
            requestOf (message.1.u32 1))) = some (5568, [some .flipBits]) :=
    ⟨_, _, rfl, rfl, rfl, by decide +kernel⟩
  obtain ⟨t, hexec, hfields⟩ := Option.map_eq_some_iff.mp hseen
  obtain ⟨hflipped, hmessages⟩ := Prod.mk.inj hfields
  have hnone : NoneReplaces 0 t.messages := by
    intro message hmessage hreplaces
    have hone := List.mem_map_of_mem (f := fun message : Memory × UInt64 =>
      requestOf (message.1.u32 1)) hmessage
    rw [hmessages, List.mem_singleton, hreplaces.1] at hone
    cases hone
  obtain ⟨past, hrun⟩ := run_of_exec (starts_initial start) _ hexec
  exact ⟨entry, start, past, t, hentry, hinit, hexec, hrun, hflipped.trans hlength.symm, hnone,
    always_knownGood allocates_loopback loaded_loadedServer blank_loadedServer hentry hinit hrun⟩

end MainLoop

end AngryUefi
