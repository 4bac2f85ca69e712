import AngryUefi.Handlers.SlotStore
import AngryUefi.Lib.Bits

/-!
# Flipped bits

FLIPBITS by the parity of its positions.  Slot 1 is given its memory when it is
first written; the handler does not look whether there was any.
-/

namespace AngryUefi.Handlers

open AngryUefi.Bits AngryUefi.Bytes AngryUefi.Programs

/-- The positions from an index of the message's list on. -/
def flipPositions (payload : Memory) (index count : ℕ) : List ℕ :=
  (List.range' index count).map fun flip => (payload.u32 (2 + flip)).toNat

/-- The positions that a request asks for. -/
def requestedFlips (payload : Memory) : List ℕ :=
  flipPositions payload 0 (payload.u32 1).toNat

/-! ## What is expected -/

/-- Slot 1 holds the update of the slot with its bits toggled, and nothing else
changes. -/
structure Toggled (slot : ℕ) (positions : List ℕ) (s t : Server) : Prop where
  filled : (t.ucodes 1).address ≠ none
  length : (t.ucodes 1).length = (s.ucodes slot).length
  bits : ∀ position, position / 8 < (s.ucodes slot).length.toNat →
    bitOf (t.ucodes 1).contents position =
      (bitOf (s.ucodes slot).contents position ^^ (positions.count position).bodd)
  beyond : ∀ address, (s.ucodes slot).length.toNat ≤ address → (s.ucodes 1).address ≠ none →
    (t.ucodes 1).contents address = (s.ucodes 1).contents address
  others : ∀ other, other ≠ 1 → t.ucodes other = s.ucodes other
  machineCodes : t.machineCodes = s.machineCodes
  inside : ∃ writes, t.slotWrites = s.slotWrites ++ writes ∧
    ∀ write ∈ writes, write.start + write.count ≤ ucodeAllocSize

/-- A list of flips acts by parity, in any order, and undoes itself on slot 1. -/
def TogglesByParity (payload : Memory) (payloadLength : UInt64) (firmware : Firmware)
    (s : Server) : Prop :=
  ∃ status t, handleFlipBits payload payloadLength firmware s = some (status, t) ∧
    Toggled (payload.u32 0).toNat (requestedFlips payload) s t ∧
    (∀ (other : Memory) (otherLength : UInt64), 8 ≤ otherLength → other.u32 0 = payload.u32 0 →
      (requestedFlips other).Perm (requestedFlips payload) →
      ∃ status t', handleFlipBits other otherLength firmware s = some (status, t') ∧
        t'.ucodes = t.ucodes) ∧
    (∀ (again : Memory) (againLength : UInt64), 8 ≤ againLength → again.u32 0 = 1 →
      requestedFlips again = requestedFlips payload →
      ∃ status t', handleFlipBits again againLength firmware t = some (status, t') ∧
        (t'.ucodes 1).length = (s.ucodes (payload.u32 0).toNat).length ∧
        Memory.AgreeBelow (s.ucodes (payload.u32 0).toNat).length.toNat (t'.ucodes 1).contents
          (s.ucodes (payload.u32 0).toNat).contents)

/-! ## The flips -/

/-- Nothing but slot 1 is different, and what was stored is inside its pages. -/
structure ChangesSlot1 (container : Container) (s t : Server) : Prop where
  ucodes : t.ucodes = Function.update s.ucodes 1 container
  machineCodes : t.machineCodes = s.machineCodes
  inside : ∃ writes, t.slotWrites = s.slotWrites ++ writes ∧
    ∀ write ∈ writes, write.start + write.count ≤ ucodeAllocSize

variable {firmware : Firmware} {s t middle : Server} {payload : Memory} {payloadLength : UInt64}

theorem ChangesSlot1.of_keepsSlots {container : Container} (hkeeps : KeepsSlots s t)
    (hcontainer : s.ucodes 1 = container) : ChangesSlot1 container s t := by
  refine ⟨?_, hkeeps.machineCodes, [], ?_, nofun⟩
  · rw [← hcontainer, Function.update_eq_self, hkeeps.ucodes]
  · rw [hkeeps.slotWrites, List.append_nil]

theorem ChangesSlot1.trans {first second : Container} (hfirst : ChangesSlot1 first s middle)
    (hsecond : ChangesSlot1 second middle t) : ChangesSlot1 second s t := by
  obtain ⟨left, hleft, hleftInside⟩ := hfirst.inside
  obtain ⟨right, hright, hrightInside⟩ := hsecond.inside
  refine ⟨?_, hsecond.machineCodes.trans hfirst.machineCodes, left ++ right, ?_, ?_⟩
  · rw [hsecond.ucodes, hfirst.ucodes, Function.update_idem]
  · rw [hright, hleft, List.append_assoc]
  · exact List.forall_mem_append.mpr ⟨hleftInside, hrightInside⟩

theorem ChangesSlot1.self {container : Container} (hchanges : ChangesSlot1 container s t) :
    t.ucodes 1 = container := by
  rw [hchanges.ucodes, Function.update_self]

theorem ChangesSlot1.of_ne {container : Container} (hchanges : ChangesSlot1 container s t)
    {other : ℕ} (hother : other ≠ 1) : t.ucodes other = s.ucodes other := by
  rw [hchanges.ucodes, Function.update_of_ne hother]

variable (firmware s) in
/-- A store to slot 1. -/
theorem changesSlot1_write {start : ℕ} {bytes : List UInt8}
    (hinside : start + bytes.length ≤ ucodeAllocSize) :
    ∃ t, writeSlot .ucodes 1 start bytes firmware s = some ((), t) ∧
      ChangesSlot1 { s.ucodes 1 with
        contents := (s.ucodes 1).contents.write start bytes } s t := by
  refine ⟨_, rfl, rfl, rfl, _, rfl, ?_⟩
  exact List.forall_mem_singleton.mpr hinside

variable (firmware s) in
/-- A position below the length is toggled. -/
theorem flipBit_toggles {ucodeLength : UInt64} (hlength : ucodeLength.toNat ≤ ucodeAllocSize)
    (position : UInt32) :
    ∃ t, flipBit 1 ucodeLength position firmware s = some ((), t) ∧
      ChangesSlot1 { s.ucodes 1 with
        contents := toggleAll (s.ucodes 1).contents
          ([position.toNat].filter (· / 8 < ucodeLength.toNat)) } s t := by
  have height : (8 : UInt32).toNat = 8 := rfl
  have hbyte : (position / 8).toNat = position.toNat / 8 := by
    rw [UInt32.toNat_div, height]
  have hbit : (position % 8).toUInt8 = UInt8.ofNat (position.toNat % 8) := by
    rw [← height, ← UInt32.toNat_mod]
    rfl
  have hinside : (position / 8).toUInt64 ≥ ucodeLength ↔
      ¬ position.toNat / 8 < ucodeLength.toNat := by
    rw [ge_iff_le, UInt64.le_iff_toNat_le, UInt32.toNat_toUInt64, hbyte, Nat.not_lt]
  by_cases hposition : position.toNat / 8 < ucodeLength.toNat
  · obtain ⟨looked, hlooked⟩ : ∃ looked, slotOf .ucodes 1 firmware s =
        some (s.ucodes 1, looked) := ⟨_, rfl⟩
    have hkeeps := (slotOf_keepsSlots hlooked).2
    obtain ⟨t, hrun, hchanges⟩ := @changesSlot1_write firmware looked
      (position / 8).toNat [(s.ucodes 1).contents (position / 8).toNat ^^^
        (1 <<< (position % 8).toUInt8)] (by rw [hbyte, List.length_singleton]; omega)
    refine ⟨t, ?_, ?_⟩
    · rw [flipBit, if_neg (mt hinside.mp (not_not.mpr hposition)), bind_of_eq_some hlooked]
      exact hrun
    · rw [List.filter_cons_of_pos (by simpa using hposition), List.filter_nil, toggleAll,
        toggleAll, toggle, ← hbit, ← hbyte]
      rw [hkeeps.ucodes] at hchanges
      exact (ChangesSlot1.of_keepsSlots hkeeps rfl).trans hchanges
  · refine ⟨s, ?_, ?_⟩
    · rw [flipBit, if_pos (hinside.mpr hposition)]
      rfl
    · rw [List.filter_cons_of_neg (by simpa using hposition), List.filter_nil, toggleAll]
      exact .of_keepsSlots (refl_of KeepsSlots s) rfl

variable (firmware) in
/-- The loop: slot 1 may be the slot whose length is read, but its length stays. -/
theorem flipBits_toggles (payload : Memory) {slot : ℕ}
    (hlength : (s.ucodes slot).length.toNat ≤ ucodeAllocSize) (index remaining : ℕ) :
    ∃ t, flipBits payload slot index remaining firmware s = some ((), t) ∧
      ChangesSlot1 { s.ucodes 1 with
        contents := toggleAll (s.ucodes 1).contents
          ((flipPositions payload index remaining).filter
            (· / 8 < (s.ucodes slot).length.toNat)) } s t := by
  induction remaining generalizing index s with
  | zero => exact ⟨s, rfl, .of_keepsSlots (refl_of KeepsSlots s) rfl⟩
  | succ remaining ih =>
      obtain ⟨looked, hlooked⟩ : ∃ looked, slotOf .ucodes slot firmware s =
          some (s.ucodes slot, looked) := ⟨_, rfl⟩
      have hkeeps := (slotOf_keepsSlots hlooked).2
      obtain ⟨flipped, hflip, hfirst⟩ := flipBit_toggles firmware looked
        hlength (payload.u32 (2 + index))
      have hsame : (flipped.ucodes slot).length = (s.ucodes slot).length := by
        rw [hfirst.ucodes, hkeeps.ucodes, Function.update_apply]
        split_ifs with hone
        · rw [hone]
        · rfl
      rw [← hsame] at hlength
      obtain ⟨t, hrest, hlater⟩ := ih hlength (index + 1)
      refine ⟨t, ?_, ?_⟩
      · rw [flipBits, bind_of_eq_some hlooked, bind_of_eq_some hflip]
        exact hrest
      · rw [hfirst.self, hsame, hkeeps.ucodes] at hlater
        rw [hkeeps.ucodes] at hfirst
        have hsplit : flipPositions payload index (remaining + 1) =
            [(payload.u32 (2 + index)).toNat] ++ flipPositions payload (index + 1) remaining := rfl
        rw [hsplit, List.filter_append, toggleAll_append]
        exact ((ChangesSlot1.of_keepsSlots hkeeps rfl).trans hfirst).trans hlater

/-! ## The copy -/

/-- Slot 1 once it was given memory, if there was any. -/
def slot1Memory (firmware : Firmware) (s : Server) : Container :=
  if (s.ucodes 1).address = none then
    match firmware.allocatePages s.clock (ucodeAllocSize / 4096) with
    | none => s.ucodes 1
    | some (address, contents) =>
        { s.ucodes 1 with address := some address, contents, allocated := ucodeAllocSize }
  else s.ucodes 1

/-- Slot 1 when the flips begin. -/
def slot1Before (firmware : Firmware) (slot : ℕ) (s : Server) : Container :=
  if slot = 1 then s.ucodes 1
  else
    { slot1Memory firmware s with
      contents := (slot1Memory firmware s).contents.write 0
        ((s.ucodes slot).contents.read 0 (s.ucodes slot).length.toNat)
      length := (s.ucodes slot).length }

/-- There is memory for slot 1. -/
def Slot1Available (firmware : Firmware) (s : Server) : Prop :=
  (s.ucodes 1).address ≠ none ∨ firmware.allocatePages s.clock (ucodeAllocSize / 4096) ≠ none

theorem slot1Memory_address (firmware : Firmware) (s : Server) :
    (slot1Memory firmware s).address ≠ none ↔ Slot1Available firmware s := by
  rw [slot1Memory, Slot1Available]
  split_ifs with hempty
  · cases hfresh : firmware.allocatePages s.clock (ucodeAllocSize / 4096) with
    | none => simp [hempty]
    | some memory => simp
  · exact iff_of_true hempty (.inl hempty)

variable (firmware s) in
theorem changesSlot1_setLength (length : UInt64) :
    ∃ t, setLength .ucodes 1 length firmware s = some ((), t) ∧
      ChangesSlot1 { s.ucodes 1 with length } s t :=
  ⟨_, rfl, rfl, rfl, [], (List.append_nil _).symm, nofun⟩

variable (firmware) in
theorem completes_allocatePages (table : SlotTable) (slot : ℕ) :
    Completes firmware (allocatePages table slot) := by
  refine completes_ask.bind fun number => Completes.read.bind fun firmware =>
    (Completes.modify _).bind fun _ => ?_
  split
  · exact (Completes.modify _).bind fun _ => Completes.pure _
  · exact (Completes.modify _).bind fun _ => Completes.pure _

variable (firmware) in
theorem changesSlot1_allocatePages (hempty : (s.ucodes 1).address = none) :
    ∃ allocated t, allocatePages .ucodes 1 firmware s = some (allocated, t) ∧
      ChangesSlot1 (slot1Memory firmware s) s t := by
  obtain ⟨allocated, t, hrun⟩ := completes_allocatePages firmware .ucodes 1 s
  refine ⟨allocated, t, hrun, ?_⟩
  obtain ⟨number, _, hask, hrest⟩ := bind_eq_some_iff.mp hrun
  cases hask
  obtain ⟨_, _, hread, hrest⟩ := bind_eq_some_iff.mp hrest
  cases hread
  obtain ⟨_, _, haccess, hmatch⟩ := bind_eq_some_iff.mp hrest
  cases haccess
  rw [slot1Memory, if_pos hempty]
  cases hfresh : firmware.allocatePages s.clock (ucodeAllocSize / 4096) with
  | none =>
      have hnone : firmware.allocatePages s.clock (SlotTable.ucodes.allocSize / 4096) = none :=
        hfresh
      simp only [hnone] at hmatch
      cases hmatch
      refine ⟨?_, rfl, [], (List.append_nil _).symm, nofun⟩
      have hsame : { s.ucodes 1 with address := none } = s.ucodes 1 := by rw [← hempty]
      exact congrArg (Function.update s.ucodes 1) hsame
  | some memory =>
      have hsome : firmware.allocatePages s.clock (SlotTable.ucodes.allocSize / 4096) =
        some memory := hfresh
      simp only [hsome] at hmatch
      cases hmatch
      exact ⟨rfl, rfl, [], (List.append_nil _).symm, nofun⟩

variable (firmware) in
/-- What is copied into slot 1, once it has its memory. -/
theorem copySource_run {slot : ℕ}
    (hlength : (s.ucodes slot).length.toNat ≤ ucodeAllocSize) :
    ∃ t, (do
        let source ← slotOf .ucodes slot
        writeSlot .ucodes 1 0 (source.contents.read 0 source.length.toNat)
        setLength .ucodes 1 source.length : Handler Unit) firmware s = some ((), t) ∧
      ChangesSlot1 { s.ucodes 1 with
        contents := (s.ucodes 1).contents.write 0
          ((s.ucodes slot).contents.read 0 (s.ucodes slot).length.toNat)
        length := (s.ucodes slot).length } s t := by
  obtain ⟨looked, hlooked⟩ : ∃ looked, slotOf .ucodes slot firmware s =
      some (s.ucodes slot, looked) := ⟨_, rfl⟩
  have hkeeps := (slotOf_keepsSlots hlooked).2
  obtain ⟨written, hwrite, hfirst⟩ := @changesSlot1_write firmware looked 0
    ((s.ucodes slot).contents.read 0 (s.ucodes slot).length.toNat)
    (by rw [Memory.length_read]; omega)
  obtain ⟨t, hset, hsecond⟩ := changesSlot1_setLength firmware written
    (s.ucodes slot).length
  refine ⟨t, ?_, ?_⟩
  · rw [bind_of_eq_some hlooked, bind_of_eq_some hwrite]
    exact hset
  · rw [hfirst.self, hkeeps.ucodes] at hsecond
    exact ((ChangesSlot1.of_keepsSlots hkeeps rfl).trans hfirst).trans hsecond

variable (firmware) in
theorem copyToSlot1_run {slot : ℕ} (hslot : slot ≠ 1)
    (hlength : (s.ucodes slot).length.toNat ≤ ucodeAllocSize) :
    ∃ t, copyToSlot1 slot firmware s = some ((), t) ∧
      ChangesSlot1 (slot1Before firmware slot s) s t := by
  obtain ⟨looked, hlooked⟩ : ∃ looked, slotOf .ucodes 1 firmware s =
      some (s.ucodes 1, looked) := ⟨_, rfl⟩
  have hkeeps := (slotOf_keepsSlots hlooked).2
  have hclock : looked.clock = s.clock := by
    cases hlooked
    rfl
  have hmemory : slot1Memory firmware looked = slot1Memory firmware s := by
    rw [slot1Memory, slot1Memory, hkeeps.ucodes, hclock]
  obtain ⟨ready, hready, hchanges⟩ : ∃ ready, (∀ rest : Handler Unit, (do
      if (s.ucodes 1).address.isNone then
        let _ ← allocatePages .ucodes 1
        setLength .ucodes 1 (UInt64.ofNat ucodeAllocSize)
      rest) firmware looked = rest firmware ready) ∧
      ∃ length, ChangesSlot1 { slot1Memory firmware s with length } s ready := by
    by_cases hempty : (s.ucodes 1).address = none
    · have hnone : (s.ucodes 1).address.isNone = true := Option.isNone_iff_eq_none.mpr hempty
      rw [← hkeeps.ucodes] at hempty
      obtain ⟨allocated, given, hallocate, hfirst⟩ :=
        changesSlot1_allocatePages firmware hempty
      obtain ⟨ready, hset, hsecond⟩ := changesSlot1_setLength firmware given
        (UInt64.ofNat ucodeAllocSize)
      rw [hfirst.self, hmemory] at hsecond
      refine ⟨ready, fun rest => ?_, _,
        ((ChangesSlot1.of_keepsSlots hkeeps rfl).trans hfirst).trans hsecond⟩
      rw [if_pos hnone, bind_of_eq_some hallocate, bind_of_eq_some hset]
    · have hsome : ¬ (s.ucodes 1).address.isNone = true := mt Option.isNone_iff_eq_none.mp hempty
      refine ⟨looked, fun rest => ?_, (s.ucodes 1).length, ?_⟩
      · rw [if_neg hsome]
      · rw [slot1Memory, if_neg hempty]
        exact .of_keepsSlots hkeeps rfl
  obtain ⟨length, hchanges⟩ := hchanges
  have hsource : ready.ucodes slot = s.ucodes slot := hchanges.of_ne hslot
  rw [← hsource] at hlength
  obtain ⟨t, hcopy, hlast⟩ := copySource_run firmware hlength
  rw [hsource, hchanges.self] at hlast
  refine ⟨t, ?_, ?_⟩
  · rw [copyToSlot1, bind_of_eq_some hlooked, hready]
    exact hcopy
  · rw [slot1Before, if_neg hslot]
    exact hchanges.trans hlast

/-! ## The handler -/

/-- What a request finds and what it asks for. -/
structure FlipRequest (payload : Memory) (payloadLength : UInt64) (s : Server) : Prop where
  length : 8 ≤ payloadLength
  slot : payload.u32 0 ≤ ucodeSlots - 1
  source : (s.ucodes (payload.u32 0).toNat).address ≠ none
  sourceLength : (s.ucodes (payload.u32 0).toNat).length.toNat ≤ ucodeAllocSize

/-- The positions that are inside the update. -/
def insideFlips (payload : Memory) (s : Server) : List ℕ :=
  (requestedFlips payload).filter (· / 8 < (s.ucodes (payload.u32 0).toNat).length.toNat)

/-- Slot 1 after the request. -/
def slot1After (firmware : Firmware) (payload : Memory) (s : Server) : Container :=
  { slot1Before firmware (payload.u32 0).toNat s with
    contents := toggleAll (slot1Before firmware (payload.u32 0).toNat s).contents
      (insideFlips payload s) }

@[simp]
theorem slot1After_address (firmware : Firmware) (payload : Memory) (s : Server) :
    (slot1After firmware payload s).address =
      (slot1Before firmware (payload.u32 0).toNat s).address := by
  rw [slot1After]

@[simp]
theorem slot1After_length (firmware : Firmware) (payload : Memory) (s : Server) :
    (slot1After firmware payload s).length =
      (slot1Before firmware (payload.u32 0).toNat s).length := by
  rw [slot1After]

theorem toNat_eq_one_iff (slot : UInt32) : slot.toNat = 1 ↔ slot = 1 := by
  rw [← UInt32.toNat_inj]
  rfl

variable (firmware) in
theorem handleFlipBits_run (hrequest : FlipRequest payload payloadLength s) :
    ∃ status t, handleFlipBits payload payloadLength firmware s = some (status, t) ∧
      ChangesSlot1 (slot1After firmware payload s) s t := by
  obtain ⟨slot, hslot⟩ : ∃ slot, slot = (payload.u32 0).toNat := ⟨_, rfl⟩
  obtain ⟨looked, hlooked⟩ : ∃ looked, slotOf .ucodes slot firmware s =
      some (s.ucodes slot, looked) := ⟨_, rfl⟩
  have hkeeps := (slotOf_keepsSlots hlooked).2
  have hclock : looked.clock = s.clock := by
    cases hlooked
    rfl
  have hsource := hrequest.source
  have hlength := hrequest.sourceLength
  rw [← hslot] at hsource hlength
  have hbefore : slot1Before firmware slot looked = slot1Before firmware slot s := by
    rw [slot1Before, slot1Before, slot1Memory, slot1Memory, hkeeps.ucodes, hclock]
  obtain ⟨copied, hcopy, hfirst⟩ : ∃ copied : Server,
      (∀ rest : Handler EfiStatus, (do
        if payload.u32 0 ≠ 1 then copyToSlot1 slot
        rest) firmware looked = rest firmware copied) ∧
      ChangesSlot1 (slot1Before firmware slot s) s copied := by
    by_cases hone : payload.u32 0 = 1
    · have hself : slot = 1 := hslot.trans ((toNat_eq_one_iff _).mpr hone)
      refine ⟨looked, fun rest => by rw [if_neg (not_not.mpr hone)], ?_⟩
      rw [slot1Before, if_pos hself]
      exact .of_keepsSlots hkeeps rfl
    · have hother : slot ≠ 1 := fun hself => hone ((toNat_eq_one_iff _).mp (hslot ▸ hself))
      rw [← hkeeps.ucodes] at hlength
      obtain ⟨copied, hrun, hchanges⟩ := copyToSlot1_run firmware hother hlength
      rw [hbefore] at hchanges
      exact ⟨copied, fun rest => by rw [if_pos hone, bind_of_eq_some hrun],
        (ChangesSlot1.of_keepsSlots hkeeps rfl).trans hchanges⟩
  have hsame : (copied.ucodes slot).length = (s.ucodes slot).length := by
    rw [hfirst.ucodes, Function.update_apply, slot1Before]
    split_ifs with hone
    · rw [hone]
    · rfl
  rw [← hsame] at hlength
  obtain ⟨flipped, hflips, hsecond⟩ := flipBits_toggles firmware payload hlength 0
    (payload.u32 1).toNat
  rw [hsame, hfirst.self] at hsecond
  obtain ⟨status, t, hsucceed⟩ := @completes_succeed firmware flipped
  refine ⟨status, t, ?_, ?_⟩
  · have hlong : ¬ payloadLength < 8 := UInt64.not_lt.mpr hrequest.length
    have hrange : ¬ payload.u32 0 > ucodeSlots - 1 := UInt32.not_lt.mpr hrequest.slot
    have hfilled : ¬ (s.ucodes slot).address.isNone = true :=
      mt Option.isNone_iff_eq_none.mp hsource
    rw [handleFlipBits, if_neg hlong]
    dsimp only
    rw [if_neg hrange, ← hslot, bind_of_eq_some hlooked, if_neg hfilled, hcopy,
      bind_of_eq_some hflips]
    exact hsucceed
  · have hlast := ChangesSlot1.of_keepsSlots (sending_keepsSlots.succeed _ _ _ hsucceed)
      hsecond.self
    rw [slot1After, insideFlips, requestedFlips, ← hslot]
    exact (hfirst.trans hsecond).trans hlast

/-! ## Parity -/

theorem slot1Before_address {slot : ℕ} (hsource : (s.ucodes slot).address ≠ none) :
    (slot1Before firmware slot s).address ≠ none ↔ Slot1Available firmware s := by
  rw [slot1Before]
  split_ifs with hself
  · rw [hself] at hsource
    exact iff_of_true hsource (.inl hsource)
  · exact slot1Memory_address firmware s

theorem slot1Before_length (firmware : Firmware) (slot : ℕ) (s : Server) :
    (slot1Before firmware slot s).length = (s.ucodes slot).length := by
  rw [slot1Before]
  split_ifs with hself
  · rw [hself]
  · rfl

/-- The flips begin with the bytes of the source. -/
theorem slot1Before_agree (firmware : Firmware) (slot : ℕ) (s : Server) :
    Memory.AgreeBelow (s.ucodes slot).length.toNat (slot1Before firmware slot s).contents
      (s.ucodes slot).contents := by
  intro address haddress
  rw [slot1Before]
  split_ifs with hself
  · rw [hself]
  · have hbyte := @Memory.write_read_apply (slot1Memory firmware s).contents
      (s.ucodes slot).contents 0 0 _ _ haddress
    simpa using hbyte

theorem slot1Before_beyond {slot address : ℕ}
    (haddress : (s.ucodes slot).length.toNat ≤ address) (hfilled : (s.ucodes 1).address ≠ none) :
    (slot1Before firmware slot s).contents address = (s.ucodes 1).contents address := by
  rw [slot1Before]
  split_ifs with hself
  · rfl
  · dsimp only
    rw [slot1Memory, if_neg hfilled, Memory.write_of_le]
    rw [Memory.length_read]
    omega

theorem count_insideFlips {position : ℕ}
    (hinside : position / 8 < (s.ucodes (payload.u32 0).toNat).length.toNat) :
    (insideFlips payload s).count position = (requestedFlips payload).count position := by
  rw [insideFlips, List.count_filter]
  simpa using hinside

/-- The request toggles by parity as soon as there is memory for slot 1. -/
theorem toggled_of_changes (hrequest : FlipRequest payload payloadLength s)
    (hchanges : ChangesSlot1 (slot1After firmware payload s) s t)
    (havailable : Slot1Available firmware s) :
    Toggled (payload.u32 0).toNat (requestedFlips payload) s t := by
  have hself := hchanges.self
  refine ⟨?_, ?_, ?_, ?_, fun other hother => hchanges.of_ne hother, hchanges.machineCodes,
    hchanges.inside⟩
  · rw [hself, slot1After_address]
    exact (slot1Before_address hrequest.source).mpr havailable
  · rw [hself, slot1After_length, slot1Before_length]
  · intro position hinside
    rw [hself, slot1After, bitOf_toggleAll, count_insideFlips hinside, bitOf,
      slot1Before_agree _ _ _ _ hinside, bitOf]
  · intro address haddress hfilled
    rw [hself, slot1After]
    dsimp only
    rw [toggleAll_of_ne, slot1Before_beyond haddress hfilled]
    intro position hposition
    have hinside := (List.mem_filter.mp hposition).2
    have hless := of_decide_eq_true hinside
    omega

/-- Exactly when there is memory for slot 1. -/
theorem togglesByParity_iff (firmware : Firmware)
    (hrequest : FlipRequest payload payloadLength s) :
    TogglesByParity payload payloadLength firmware s ↔ Slot1Available firmware s := by
  obtain ⟨status, t, hrun, hchanges⟩ := handleFlipBits_run firmware hrequest
  constructor
  · rintro ⟨status', t', hrun', htoggled, -⟩
    rw [hrun, Option.some.injEq, Prod.mk.injEq] at hrun'
    have hfilled := htoggled.filled
    rw [← hrun'.2, hchanges.self, slot1After_address] at hfilled
    exact (slot1Before_address hrequest.source).mp hfilled
  intro havailable
  have htoggled := toggled_of_changes hrequest hchanges havailable
  refine ⟨status, t, hrun, htoggled, ?_, ?_⟩
  · intro other otherLength hlong hslot hperm
    have hother : FlipRequest other otherLength s :=
      ⟨hlong, hslot ▸ hrequest.slot, hslot ▸ hrequest.source, hslot ▸ hrequest.sourceLength⟩
    obtain ⟨status', t', hrun', hchanges'⟩ := handleFlipBits_run firmware hother
    refine ⟨status', t', hrun', ?_⟩
    rw [hchanges.ucodes, hchanges'.ucodes, slot1After, slot1After, insideFlips, insideFlips, hslot,
      toggleAll_perm (hperm.filter _)]
  · intro again againLength hlong hslot hsame
    have hone : (again.u32 0).toNat = 1 := by
      rw [hslot]
      rfl
    have hagain : FlipRequest again againLength t := by
      refine ⟨hlong, by rw [hslot]; decide, ?_, ?_⟩
      · rw [hone]
        exact htoggled.filled
      · rw [hone, htoggled.length]
        exact hrequest.sourceLength
    obtain ⟨status', t', hrun', hchanges'⟩ := handleFlipBits_run firmware hagain
    refine ⟨status', t', hrun', ?_, ?_⟩
    · rw [hchanges'.self, slot1After, hone, slot1Before_length, htoggled.length]
    · have hinside : insideFlips again t = insideFlips payload s := by
        rw [insideFlips, insideFlips, hsame, hone, htoggled.length]
      rw [hchanges'.self, slot1After, hone, hinside, slot1Before, if_pos rfl, hchanges.self,
        slot1After, toggleAll_toggleAll]
      dsimp only
      exact slot1Before_agree _ _ _

/-- An update of two bytes in slot 0. -/
def flipServer : Server :=
  { idleServer with
    ucodes := fun slot =>
      if slot = 0 then ⟨some 0x200000, 2, fun _ => 0xA5, ucodeAllocSize⟩
      else ⟨none, 0, fun _ => 0, 0⟩ }

/-- Bit 9 twice and bit 3 once, of slot 0. -/
def flipsPayload : Memory :=
  Memory.write (fun _ => 0) 4 [3, 0, 0, 0, 9, 0, 0, 0, 3, 0, 0, 0, 9, 0, 0, 0]

theorem flipRequest_flipsPayload : FlipRequest flipsPayload 20 flipServer :=
  ⟨by decide, by decide, nofun, by decide⟩

theorem togglesByParity_flipsPayload : TogglesByParity flipsPayload 20 loopback flipServer :=
  (togglesByParity_iff loopback flipRequest_flipsPayload).mpr (.inr nofun)

/-- Firmware without free pages. -/
def exhausted : Firmware := { loopback with allocatePages := fun _ _ => none }

/-- Without memory for slot 1 the handler goes on. -/
theorem not_togglesByParity_exhausted :
    FlipRequest flipsPayload 20 flipServer ∧
      (∃ t, handleFlipBits flipsPayload 20 exhausted flipServer = some (.success, t) ∧
        (t.ucodes 1).address = none) ∧
      ¬ TogglesByParity flipsPayload 20 exhausted flipServer := by
  obtain ⟨status, t, hrun, hchanges⟩ := handleFlipBits_run exhausted flipRequest_flipsPayload
  have hempty : (t.ucodes 1).address = none := by
    rw [hchanges.self]
    rfl
  have hsuccess : status = .success := by
    have hresult : (handleFlipBits flipsPayload 20 exhausted flipServer).map Prod.fst =
        some .success := rfl
    rw [hrun] at hresult
    exact Option.some.inj hresult
  refine ⟨flipRequest_flipsPayload, ⟨t, hsuccess ▸ hrun, hempty⟩, ?_⟩
  rintro ⟨status', t', hrun', htoggled, -⟩
  rw [hrun, Option.some.injEq, Prod.mk.injEq] at hrun'
  exact htoggled.filled (hrun'.2 ▸ hempty)

end AngryUefi.Handlers
