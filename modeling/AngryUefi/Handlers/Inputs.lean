import AngryUefi.Handlers.SlotStore

/-!
# What of the receive buffer a message reads

The handlers get a pointer into the receive buffer, where the bytes behind the
message are what earlier, longer messages left.  Most handlers read the words
that their check of the length covers; three trust a count in the message.
-/

namespace AngryUefi

open AngryUefi.Bytes AngryUefi.Programs

namespace Bytes.Memory.AgreeBelow

variable {limit : ℕ} {left right : Memory}

theorem u32_eq (hagree : AgreeBelow limit left right) {index : ℕ}
    (hinside : 4 * index + 4 ≤ limit) : left.u32 index = right.u32 index := by
  rw [u32, u32, hagree.word_eq hinside]

theorem u64_eq (hagree : AgreeBelow limit left right) {index : ℕ}
    (hinside : 8 * index + 8 ≤ limit) : left.u64 index = right.u64 index := by
  rw [u64, u64, hagree.word_eq hinside]

end Bytes.Memory.AgreeBelow

namespace Handlers

/-- The check of a minimum length, in natural numbers. -/
theorem le_of_checked {payloadLength : UInt64} {least : UInt64}
    (hchecked : ¬ payloadLength < least) : least.toNat ≤ payloadLength.toNat :=
  UInt64.le_iff_toNat_le.mp (UInt64.not_lt.mp hchecked)

section Congruence

variable {left right : Memory} {payloadLength : UInt64}
variable (hagree : Memory.AgreeBelow payloadLength.toNat left right)
include hagree

theorem handlePing_congr :
    handlePing left payloadLength = handlePing right payloadLength := by
  simp only [handlePing]
  split
  · rfl
  rename_i hchecked
  have hlong : 4 ≤ payloadLength.toNat := le_of_checked hchecked
  rw [hagree.u32_eq (by omega)]
  split
  · rfl
  rename_i hsize
  have hwhole : 4 + (right.u32 0).toNat ≤ payloadLength.toNat := by
    have hequal := congrArg UInt64.toNat (not_not.mp hsize)
    rw [UInt32.toNat_toUInt64, UInt64.toNat_sub_of_le _ _ (UInt64.not_lt.mp hchecked)] at hequal
    have hfour : (4 : UInt64).toNat = 4 := rfl
    omega
  rw [hagree.read_eq hwhole]

theorem handleMultiPing_congr :
    handleMultiPing left payloadLength = handleMultiPing right payloadLength := by
  simp only [handleMultiPing]
  split
  · rfl
  rename_i hchecked
  have hlong : 8 ≤ payloadLength.toNat := le_of_checked hchecked
  rw [hagree.u32_eq (show 4 * 0 + 4 ≤ payloadLength.toNat by omega),
    hagree.u32_eq (show 4 * 1 + 4 ≤ payloadLength.toNat by omega)]
  split
  · rfl
  rename_i hsize
  have hwhole : 8 + (right.u32 1).toNat ≤ payloadLength.toNat := by
    have hequal := congrArg UInt64.toNat (not_not.mp hsize)
    rw [UInt32.toNat_toUInt64, UInt64.toNat_sub_of_le _ _ (UInt64.not_lt.mp hchecked)] at hequal
    have height : (8 : UInt64).toNat = 8 := rfl
    omega
  rw [hagree.read_eq hwhole]

theorem handleReboot_congr :
    handleReboot left payloadLength = handleReboot right payloadLength := by
  simp only [handleReboot]
  split
  · rfl
  rename_i hchecked
  have hlong : 4 ≤ payloadLength.toNat := le_of_checked hchecked
  rw [hagree.u32_eq (by omega)]

/-- A size that fits the message makes the storing handlers read the message
only. -/
theorem handleSend_congr (table : SlotTable) (tooShort : UInt64 → Handler EfiStatus)
    (invalidSlot : UInt32 → Handler EfiStatus) (noMemory : Handler EfiStatus)
    (hsize : 8 ≤ payloadLength → left.u32 0 ≤ table.count - 1 →
      8 + (left.u32 1).toNat ≤ payloadLength.toNat) :
    handleSend table tooShort invalidSlot noMemory left payloadLength =
      handleSend table tooShort invalidSlot noMemory right payloadLength := by
  simp only [handleSend]
  split
  · rfl
  rename_i hchecked
  have hlong : 8 ≤ payloadLength.toNat := le_of_checked hchecked
  have hslot : left.u32 0 = right.u32 0 := hagree.u32_eq (by omega)
  have hword : left.u32 1 = right.u32 1 := hagree.u32_eq (by omega)
  rw [← hslot, ← hword]
  split
  · rfl
  rename_i hrange
  have hwhole := hsize (UInt64.not_lt.mp hchecked) (UInt32.not_lt.mp hrange)
  simp only [storeInSlot, hagree.read_eq hwhole]

omit hagree in
theorem flipBits_congr (targetSlot index remaining : ℕ)
    (hflips : ∀ flip, index ≤ flip → flip < index + remaining →
      left.u32 (2 + flip) = right.u32 (2 + flip)) :
    flipBits left targetSlot index remaining = flipBits right targetSlot index remaining := by
  induction remaining generalizing index with
  | zero => rfl
  | succ remaining ih =>
      have hrest := ih (index + 1) fun flip hlow hhigh => hflips flip (by omega) (by omega)
      simp only [flipBits, hflips index le_rfl (by omega), hrest]

/-- A count of flips that fits the message makes the handler read the message
only. -/
theorem handleFlipBits_congr
    (hflips : 8 ≤ payloadLength → left.u32 0 ≤ ucodeSlots - 1 →
      8 + 4 * (left.u32 1).toNat ≤ payloadLength.toNat) :
    handleFlipBits left payloadLength = handleFlipBits right payloadLength := by
  simp only [handleFlipBits]
  split
  · rfl
  rename_i hchecked
  have hlong : 8 ≤ payloadLength.toNat := le_of_checked hchecked
  have hslot : left.u32 0 = right.u32 0 := hagree.u32_eq (by omega)
  have hword : left.u32 1 = right.u32 1 := hagree.u32_eq (by omega)
  rw [← hslot, ← hword]
  split
  · rfl
  rename_i hrange
  have hwhole := hflips (UInt64.not_lt.mp hchecked) (UInt32.not_lt.mp hrange)
  rw [flipBits_congr _ 0 (left.u32 1).toNat fun flip _ hflip =>
    hagree.u32_eq (by omega)]

theorem handleApplyUcode_congr :
    handleApplyUcode left payloadLength = handleApplyUcode right payloadLength := by
  simp only [handleApplyUcode]
  split
  · rfl
  rename_i hchecked
  have hlong : 8 ≤ payloadLength.toNat := le_of_checked hchecked
  rw [hagree.u32_eq (show 4 * 0 + 4 ≤ payloadLength.toNat by omega),
    hagree.u32_eq (show 4 * 1 + 4 ≤ payloadLength.toNat by omega)]

theorem handleApplyUcodeExecuteTest_congr :
    handleApplyUcodeExecuteTest left payloadLength =
      handleApplyUcodeExecuteTest right payloadLength := by
  simp only [handleApplyUcodeExecuteTest]
  split
  · rfl
  rename_i hchecked
  have hlong : 20 ≤ payloadLength.toNat := le_of_checked hchecked
  have hwords : ∀ index < 5, left.u32 index = right.u32 index :=
    fun index hindex => hagree.u32_eq (by omega)
  rw [hwords 0 (by decide), hwords 1 (by decide), hwords 2 (by decide),
    hwords 3 (by decide), hwords 4 (by decide)]

theorem handleExecuteMachineCode_congr :
    handleExecuteMachineCode left payloadLength =
      handleExecuteMachineCode right payloadLength := by
  simp only [handleExecuteMachineCode]
  split
  · rfl
  rename_i hchecked
  have hlong : 12 ≤ payloadLength.toNat := le_of_checked hchecked
  have hwords : ∀ index < 3, left.u32 index = right.u32 index :=
    fun index hindex => hagree.u32_eq (by omega)
  rw [hwords 0 (by decide), hwords 1 (by decide), hwords 2 (by decide)]

theorem handleReadMsr_congr :
    handleReadMsr left payloadLength = handleReadMsr right payloadLength := by
  simp only [handleReadMsr]
  split
  · rfl
  rename_i hchecked
  have hlong : 4 ≤ payloadLength.toNat := le_of_checked hchecked
  rw [hagree.u32_eq (by omega)]

theorem handleReadMsrOnCore_congr :
    handleReadMsrOnCore left payloadLength = handleReadMsrOnCore right payloadLength := by
  simp only [handleReadMsrOnCore, handleReadMsr_congr hagree]
  split
  · rfl
  rename_i hchecked
  have hlong : 12 ≤ payloadLength.toNat := le_of_checked hchecked
  rw [hagree.u32_eq (show 4 * 0 + 4 ≤ payloadLength.toNat by omega),
    (hagree.shift 4).u64_eq (by omega)]

theorem handleStartCore_congr :
    handleStartCore left payloadLength = handleStartCore right payloadLength := by
  simp only [handleStartCore]
  split
  · rfl
  rename_i hchecked
  have hlong : 8 ≤ payloadLength.toNat := le_of_checked hchecked
  rw [hagree.u64_eq (by omega)]

theorem handleGetCoreStatus_congr :
    handleGetCoreStatus left payloadLength = handleGetCoreStatus right payloadLength := by
  simp only [handleGetCoreStatus]
  split
  · rfl
  rename_i hchecked
  have hlong : 8 ≤ payloadLength.toNat := le_of_checked hchecked
  rw [hagree.u64_eq (by omega)]

theorem handleGetLastTestResult_congr :
    handleGetLastTestResult left payloadLength =
      handleGetLastTestResult right payloadLength := by
  simp only [handleGetLastTestResult]
  split
  · rfl
  rename_i hchecked
  have hlong : 8 ≤ payloadLength.toNat := le_of_checked hchecked
  rw [hagree.u64_eq (by omega)]

theorem handleGetIbsBuffer_congr :
    handleGetIbsBuffer left payloadLength = handleGetIbsBuffer right payloadLength := by
  simp only [handleGetIbsBuffer]
  split
  · rfl
  rename_i hchecked
  have hlong : 3 * 8 ≤ payloadLength.toNat := le_of_checked hchecked
  have hwords : ∀ index < 3, left.u64 index = right.u64 index :=
    fun index hindex => hagree.u64_eq (by omega)
  rw [hwords 0 (by decide), hwords 1 (by decide), hwords 2 (by decide)]

theorem handleGetDsmBuffer_congr :
    handleGetDsmBuffer left payloadLength = handleGetDsmBuffer right payloadLength := by
  simp only [handleGetDsmBuffer]
  split
  · rfl
  rename_i hchecked
  have hlong : 8 ≤ payloadLength.toNat := le_of_checked hchecked
  rw [hagree.u64_eq (by omega)]

theorem handleGetPagingInfo_congr :
    handleGetPagingInfo left payloadLength = handleGetPagingInfo right payloadLength := by
  simp only [handleGetPagingInfo]
  split
  · rfl
  rename_i hchecked
  have hlong : 40 ≤ payloadLength.toNat := le_of_checked hchecked
  have hwords : ∀ index < 5, left.u64 index = right.u64 index :=
    fun index hindex => hagree.u64_eq (by omega)
  rw [hwords 0 (by decide), hwords 1 (by decide), hwords 2 (by decide),
    hwords 3 (by decide), hwords 4 (by decide)]

end Congruence

/-! ## The counts -/

/-- The bytes that a storing message or a FLIPBITS with an existing slot asks for
are part of the message. -/
structure CountsFit (message : Memory) (messageLength : UInt64) : Prop where
  stored : requestOf (message.u32 1) = some .sendUcode ∨
      requestOf (message.u32 1) = some .sendMachineCode →
    16 + ((message.shift 8).u32 1).toNat ≤ messageLength.toNat
  flips : requestOf (message.u32 1) = some .flipBits →
    16 + 4 * ((message.shift 8).u32 1).toNat ≤ messageLength.toNat

/-- Whatever follows the message in the receive buffer, it is handled alike from
every state. -/
def SameEffect (message : Memory) (messageLength : UInt64) : Prop :=
  ∀ stale : Memory, Memory.AgreeBelow messageLength.toNat message stale →
    ∀ (firmware : Firmware) (s : Server),
      handleMessage message messageLength firmware s =
        handleMessage stale messageLength firmware s

theorem dispatch_congr {left right : Memory} {payloadLength : UInt64} (messageType : UInt32)
    (hagree : Memory.AgreeBelow payloadLength.toNat left right)
    (hstored : requestOf messageType = some .sendUcode ∨
        requestOf messageType = some .sendMachineCode →
      8 ≤ payloadLength → left.u32 0 ≤ 9 → 8 + (left.u32 1).toNat ≤ payloadLength.toNat)
    (hflips : requestOf messageType = some .flipBits → 8 ≤ payloadLength →
      left.u32 0 ≤ 9 → 8 + 4 * (left.u32 1).toNat ≤ payloadLength.toNat) :
    dispatch messageType left payloadLength = dispatch messageType right payloadLength := by
  cases hrequest : requestOf messageType with
  | none => simp only [dispatch, hrequest]
  | some request =>
      cases request <;> simp only [dispatch, hrequest]
      case ping => exact handlePing_congr hagree
      case multiPing => exact handleMultiPing_congr hagree
      case reboot => exact handleReboot_congr hagree
      case sendUcode =>
          exact handleSend_congr hagree _ _ _ _ (hstored (.inl hrequest))
      case flipBits => exact handleFlipBits_congr hagree (hflips hrequest)
      case applyUcode => exact handleApplyUcode_congr hagree
      case applyUcodeExcuteTest => exact handleApplyUcodeExecuteTest_congr hagree
      case getLastTestResult => exact handleGetLastTestResult_congr hagree
      case executeMachineCode => exact handleExecuteMachineCode_congr hagree
      case readMsr => exact handleReadMsr_congr hagree
      case readMsrOnCore => exact handleReadMsrOnCore_congr hagree
      case startCore => exact handleStartCore_congr hagree
      case getCoreStatus => exact handleGetCoreStatus_congr hagree
      case sendMachineCode =>
          exact handleSend_congr hagree _ _ _ _ (hstored (.inr hrequest))
      case getPagingInfo => exact handleGetPagingInfo_congr hagree
      case getIbsBuffer => exact handleGetIbsBuffer_congr hagree
      case getDsmBuffer => exact handleGetDsmBuffer_congr hagree

theorem messageStatus_congr {left right : Memory} {messageLength : ℕ}
    (hagree : Memory.AgreeBelow messageLength left right) :
    messageStatus left messageLength = messageStatus right messageLength := by
  simp only [messageStatus]
  split
  · rfl
  · rw [hagree 0 (by omega), hagree 1 (by omega)]

theorem le_of_accepted {message : Memory} {messageLength : UInt64}
    (haccepted : messageStatus message messageLength.toNat = .success) :
    8 ≤ messageLength := by
  rw [UInt64.le_iff_toNat_le]
  by_contra hshort
  have hless : messageLength.toNat < 8 := Nat.lt_of_not_le hshort
  simp [messageStatus, hless, EfiStatus.success, EfiStatus.invalidParameter] at haccepted

theorem toNat_payloadLength {message : Memory} {messageLength : UInt64}
    (haccepted : messageStatus message messageLength.toNat = .success) :
    (messageLength - 8).toNat = messageLength.toNat - 8 :=
  UInt64.toNat_sub_of_le _ _ (le_of_accepted haccepted)

/-- A message whose counts fit is all that its handler reads. -/
theorem sameEffect_of_countsFit {message : Memory} {messageLength : UInt64}
    (hcounts : messageStatus message messageLength.toNat = .success → 8 ≤ messageLength - 8 →
      (message.shift 8).u32 0 ≤ 9 → CountsFit message messageLength) :
    SameEffect message messageLength := by
  intro stale hagree firmware s
  have hstatus := messageStatus_congr hagree
  simp only [handleMessage, ← hstatus]
  split
  · rfl
  rename_i haccepted
  have hsuccess := messageStatus_eq_success haccepted
  have hlength := toNat_payloadLength hsuccess
  have hlong : 8 ≤ messageLength.toNat :=
    UInt64.le_iff_toNat_le.mp (le_of_accepted hsuccess)
  have hpayload := hagree.shift 8
  rw [← hlength] at hpayload
  have htype : message.u32 1 = stale.u32 1 := hagree.u32_eq (by omega)
  have hcongr := dispatch_congr (message.u32 1) hpayload
    (fun hrequest hwords hslot => by
      have hfits := (hcounts hsuccess hwords hslot).stored hrequest
      omega)
    (fun hrequest hwords hslot => by
      have hfits := (hcounts hsuccess hwords hslot).flips hrequest
      omega)
  rw [← htype, hcongr]

/-! ## What stale bytes change -/

/-- The message, with another byte at an address. -/
def withByte (message : Memory) (address : ℕ) : Memory :=
  Function.update message address (message address + 1)

theorem agreeBelow_withByte (message : Memory) {limit address : ℕ} (haddress : limit ≤ address) :
    Memory.AgreeBelow limit message (withByte message address) := by
  intro other hother
  exact (Function.update_of_ne (by omega) _ _).symm

theorem ne_withByte (message : Memory) (address : ℕ) :
    message address ≠ withByte message address address := by
  intro hequal
  rw [withByte, Function.update_self] at hequal
  simp at hequal

theorem storeInSlot_contents (table : SlotTable) (slot : ℕ) (payload : Memory) (size : UInt32)
    (firmware : Firmware) (s : Server) :
    ∃ status t, storeInSlot table slot payload size firmware s = some (status, t) ∧
      (table.slots t slot).contents =
        (table.slots s slot).contents.write 0 (payload.read 8 size.toNat) := by
  have hmodify : ∀ element change, Completes firmware (do
      access element
      modify change : Handler Unit) :=
    fun _ _ => (Completes.modify _).bind fun _ => Completes.modify _
  have hcompletes : Completes firmware (storeInSlot table slot payload size) :=
    (hmodify _ _).bind fun _ => (hmodify _ _).bind fun _ => completes_succeed
  obtain ⟨status, t, hrun⟩ := hcompletes s
  refine ⟨status, t, hrun, ?_⟩
  rw [slots_storeInSlot hrun, if_pos ⟨rfl, rfl⟩]

/-- An empty slot is filled with the bytes that the message announces. -/
theorem handleSend_contents (table : SlotTable) (tooShort : UInt64 → Handler EfiStatus)
    (invalidSlot : UInt32 → Handler EfiStatus) (noMemory : Handler EfiStatus)
    (payload : Memory) {payloadLength : UInt64} (hlong : 8 ≤ payloadLength)
    (hslot : payload.u32 0 ≤ table.count - 1) :
    ∃ status t, handleSend table tooShort invalidSlot noMemory payload payloadLength loopback
        (onStack loopback idleServer) = some (status, t) ∧
      (table.slots t (payload.u32 0).toNat).contents =
        Memory.write (fun _ => 0) 0 (payload.read 8 (payload.u32 1).toNat) := by
  let slot := (payload.u32 0).toNat
  obtain ⟨looked, hlooked⟩ : ∃ looked, slotOf table slot loopback (onStack loopback idleServer) =
      some (⟨none, 0, fun _ => 0, 0⟩, looked) := by
    cases table <;> exact ⟨_, rfl⟩
  obtain ⟨allocated, hallocated, hblank⟩ : ∃ allocated,
      allocatePages table slot loopback looked = some (true, allocated) ∧
        (table.slots allocated slot).contents = fun _ => 0 := by
    cases table <;> exact ⟨_, rfl, by simp [SlotTable.slots, SlotTable.update]⟩
  obtain ⟨status, t, hrun, hcontents⟩ :=
    storeInSlot_contents table slot payload (payload.u32 1) loopback allocated
  rw [hblank] at hcontents
  refine ⟨status, t, ?_, hcontents⟩
  have hrange : ¬ payload.u32 0 > table.count - 1 := UInt32.not_lt.mpr hslot
  simp only [handleSend, UInt64.not_lt.mpr hlong, hrange, if_false]
  rw [bind_of_eq_some hlooked]
  simp only [Option.isNone_none, if_true]
  rw [bind_of_eq_some hallocated]
  simpa using hrun

/-- Two messages that leave different contents in a slot are not handled alike. -/
theorem not_sameEffect_of_contents {message stale : Memory} {messageLength : UInt64}
    {table : SlotTable} {slot address : ℕ} {firmware : Firmware} {s left right : Server}
    {leftStatus rightStatus : EfiStatus}
    (haccepted : messageStatus message messageLength.toNat = .success)
    (hagree : Memory.AgreeBelow messageLength.toNat message stale)
    (hleft : dispatch (message.u32 1) (message.shift 8) (messageLength - 8) firmware
      (onStack firmware s) = some (leftStatus, left))
    (hright : dispatch (message.u32 1) (stale.shift 8) (messageLength - 8) firmware
      (onStack firmware s) = some (rightStatus, right))
    (hcontents : (table.slots left slot).contents address ≠
      (table.slots right slot).contents address) :
    ¬ SameEffect message messageLength := by
  intro hsame
  have hstale : messageStatus stale messageLength.toNat = .success := by
    rw [← messageStatus_congr hagree]
    exact haccepted
  have hlong := UInt64.le_iff_toNat_le.mp (le_of_accepted haccepted)
  have htype : message.u32 1 = stale.u32 1 := hagree.u32_eq hlong
  rw [htype] at hright
  have hequal := hsame stale hagree firmware s
  rw [handleMessage_of_dispatch haccepted hleft, handleMessage_of_dispatch hstale hright] at hequal
  have hstates : left = right := (Prod.mk.inj (Option.some.inj hequal)).2
  rw [hstates] at hcontents
  exact hcontents rfl

/-- A size beyond the message puts the byte behind the message into a slot. -/
theorem not_sameEffect_of_size {message : Memory} {messageLength : UInt64} {table : SlotTable}
    {tooShort : UInt64 → Handler EfiStatus} {invalidSlot : UInt32 → Handler EfiStatus}
    {noMemory : Handler EfiStatus}
    (haccepted : messageStatus message messageLength.toNat = .success)
    (hlong : 8 ≤ messageLength - 8)
    (hdispatch : ∀ payload, dispatch (message.u32 1) payload (messageLength - 8) =
      handleSend table tooShort invalidSlot noMemory payload (messageLength - 8))
    (hslot : (message.shift 8).u32 0 ≤ table.count - 1)
    (hsize : ¬ 16 + ((message.shift 8).u32 1).toNat ≤ messageLength.toNat) :
    ¬ SameEffect message messageLength := by
  let stale := withByte message messageLength.toNat
  have hagree : Memory.AgreeBelow messageLength.toNat message stale :=
    agreeBelow_withByte message le_rfl
  have hpayload := hagree.shift 8
  have hlength := toNat_payloadLength haccepted
  have hwords : 8 ≤ messageLength.toNat - 8 := by
    rw [← hlength]
    exact UInt64.le_iff_toNat_le.mp hlong
  have hfirst : (message.shift 8).u32 0 = (stale.shift 8).u32 0 := hpayload.u32_eq (by omega)
  have hsecond : (message.shift 8).u32 1 = (stale.shift 8).u32 1 := hpayload.u32_eq (by omega)
  obtain ⟨leftStatus, left, hleft, hleftContents⟩ :=
    handleSend_contents table tooShort invalidSlot noMemory (message.shift 8) hlong hslot
  rw [hfirst] at hslot
  obtain ⟨rightStatus, right, hright, hrightContents⟩ :=
    handleSend_contents table tooShort invalidSlot noMemory (stale.shift 8) hlong hslot
  rw [← hfirst, ← hsecond] at hrightContents
  rw [← hdispatch] at hleft hright
  have hindex : messageLength.toNat - 16 < ((message.shift 8).u32 1).toNat := by omega
  have hcopied : ∀ source : Memory, Memory.write (fun _ => 0) 0
      ((source.shift 8).read 8 ((message.shift 8).u32 1).toNat) (messageLength.toNat - 16) =
        source messageLength.toNat := by
    intro source
    have happly := @Memory.write_read_apply (fun _ => 0) (source.shift 8) 0 8 _ _ hindex
    rw [Nat.zero_add] at happly
    rw [happly]
    exact congrArg source (by omega)
  have hcontents : (table.slots left ((message.shift 8).u32 0).toNat).contents
      (messageLength.toNat - 16) ≠
        (table.slots right ((message.shift 8).u32 0).toNat).contents
          (messageLength.toNat - 16) := by
    rw [hleftContents, hrightContents, hcopied, hcopied]
    exact ne_withByte message messageLength.toNat
  exact not_sameEffect_of_contents haccepted hagree hleft hright hcontents

/-! ### Flips -/

/-- Every microcode slot holds a long update. -/
structure Long (s : Server) : Prop where
  address : ∀ slot, (s.ucodes slot).address ≠ none
  length : ∀ slot, (s.ucodes slot).length = 0x20000000

/-- The state before the message. -/
def longServer : Server :=
  { idleServer with ucodes := fun _ => ⟨some 0x100000, 0x20000000, fun _ => 0, 0⟩ }

theorem Long.keepsSlots {s t : Server} (hlong : Long s) (hkeeps : KeepsSlots s t) : Long t := by
  constructor
  · rw [hkeeps.ucodes]
    exact hlong.address
  · rw [hkeeps.ucodes]
    exact hlong.length

theorem Long.isNone {s : Server} (hlong : Long s) (slot : ℕ) :
    (s.ucodes slot).address.isNone = false := by
  rw [Option.isNone_eq_false_iff, Option.isSome_iff_ne_none]
  exact hlong.address slot

section Flips

variable {firmware : Firmware} {s t : Server}

theorem Long.setLength (hlong : Long s) {slot : ℕ}
    (hrun : setLength .ucodes slot 0x20000000 firmware s = some ((), t)) : Long t := by
  have hslots : ∀ index, t.ucodes index = _ := slots_setLength hrun .ucodes
  constructor
  · intro index
    rw [hslots]
    split
    · exact hlong.address slot
    · exact hlong.address index
  · intro index
    rw [hslots]
    split
    · rfl
    · exact hlong.length index

theorem Long.writeSlot (hlong : Long s) {slot start : ℕ} {bytes : List UInt8}
    (hrun : writeSlot .ucodes slot start bytes firmware s = some ((), t)) : Long t := by
  have hslots : ∀ index, t.ucodes index = _ := slots_writeSlot hrun .ucodes
  constructor
  · intro index
    rw [hslots]
    split
    · exact hlong.address slot
    · exact hlong.address index
  · intro index
    rw [hslots]
    split
    · exact hlong.length slot
    · exact hlong.length index

/-- What one flip does to slot 1; every 32-bit position is inside a long update. -/
theorem flipBit_long (hlong : Long s) (position : UInt32) :
    ∃ t, flipBit 1 0x20000000 position firmware s = some ((), t) ∧ Long t ∧
      (t.ucodes 1).contents = (s.ucodes 1).contents.write (position / 8).toNat
        [(s.ucodes 1).contents (position / 8).toNat ^^^ (1 <<< (position % 8).toUInt8)] := by
  have hinside : ¬ (position / 8).toUInt64 ≥ 0x20000000 := by
    rw [ge_iff_le, UInt64.le_iff_toNat_le, UInt32.toNat_toUInt64, UInt32.toNat_div]
    have hposition := position.toNat_lt
    have height : (8 : UInt32).toNat = 8 := rfl
    have hlength : (0x20000000 : UInt64).toNat = 0x20000000 := rfl
    rw [height, hlength]
    omega
  let byte := (s.ucodes 1).contents (position / 8).toNat
  obtain ⟨looked, hlooked⟩ : ∃ looked, slotOf .ucodes 1 firmware s =
      some (s.ucodes 1, looked) := ⟨_, rfl⟩
  have hkeeps := (slotOf_keepsSlots hlooked).2
  obtain ⟨t, hwrite⟩ : ∃ t, Handlers.writeSlot .ucodes 1 (position / 8).toNat
      [byte ^^^ (1 <<< (position % 8).toUInt8)] firmware looked = some ((), t) := ⟨_, rfl⟩
  refine ⟨t, ?_, (hlong.keepsSlots hkeeps).writeSlot hwrite, ?_⟩
  · simp only [flipBit, hinside, if_false]
    rw [bind_of_eq_some hlooked]
    exact hwrite
  · have hslots : ∀ index, t.ucodes index = _ := slots_writeSlot hwrite .ucodes
    rw [hslots, if_pos ⟨rfl, rfl⟩]
    change (looked.ucodes 1).contents.write _ _ = _
    rw [hkeeps.ucodes]

theorem flipBits_long (payload : Memory) (targetSlot index remaining : ℕ) (hlong : Long s) :
    ∃ t, flipBits payload targetSlot index remaining firmware s = some ((), t) ∧ Long t := by
  induction remaining generalizing index s with
  | zero => exact ⟨s, rfl, hlong⟩
  | succ remaining ih =>
      obtain ⟨looked, hlooked⟩ : ∃ looked, slotOf .ucodes targetSlot firmware s =
          some (s.ucodes targetSlot, looked) := ⟨_, rfl⟩
      have hlookedLong := hlong.keepsSlots (slotOf_keepsSlots hlooked).2
      obtain ⟨flipped, hflip, hflipped, -⟩ :=
        @flipBit_long firmware looked hlookedLong (payload.u32 (2 + index))
      obtain ⟨t, hrest, ht⟩ := ih (index + 1) hflipped
      refine ⟨t, ?_, ht⟩
      rw [flipBits, bind_of_eq_some hlooked, hlong.length targetSlot, bind_of_eq_some hflip]
      exact hrest

/-- The last flip comes last. -/
theorem flipBits_succ (payload : Memory) (targetSlot index remaining : ℕ) :
    flipBits payload targetSlot index (remaining + 1) = (do
      flipBits payload targetSlot index remaining
      flipBits payload targetSlot (index + remaining) 1) := by
  induction remaining generalizing index with
  | zero => rfl
  | succ remaining ih =>
      rw [flipBits, ih (index + 1), Nat.add_assoc, Nat.add_comm 1 remaining]
      simp only [flipBits, bind_assoc]

theorem copyToSlot1_long (targetSlot : ℕ) (hlong : Long s) :
    ∃ t, copyToSlot1 targetSlot firmware s = some ((), t) ∧ Long t := by
  obtain ⟨looked, hlooked⟩ : ∃ looked, slotOf .ucodes 1 firmware s =
      some (s.ucodes 1, looked) := ⟨_, rfl⟩
  have hlookedLong := hlong.keepsSlots (slotOf_keepsSlots hlooked).2
  obtain ⟨read, hread⟩ : ∃ read, slotOf .ucodes targetSlot firmware looked =
      some (looked.ucodes targetSlot, read) := ⟨_, rfl⟩
  have hreadLong := hlookedLong.keepsSlots (slotOf_keepsSlots hread).2
  obtain ⟨copied, hcopied⟩ : ∃ copied, Handlers.writeSlot .ucodes 1 0
      ((looked.ucodes targetSlot).contents.read 0 (looked.ucodes targetSlot).length.toNat)
        firmware read = some ((), copied) := ⟨_, rfl⟩
  obtain ⟨t, hlength⟩ : ∃ t, Handlers.setLength .ucodes 1 0x20000000 firmware copied =
      some ((), t) := ⟨_, rfl⟩
  refine ⟨t, ?_, (hreadLong.writeSlot hcopied).setLength hlength⟩
  have haddress := hlong.isNone 1
  rw [copyToSlot1, bind_of_eq_some hlooked]
  simp only [haddress, Bool.false_eq_true, if_false]
  rw [bind_of_eq_some hread, bind_of_eq_some hcopied, hlookedLong.length targetSlot]
  exact hlength

/-- The handler comes to its last flip in the same state for all payloads that
agree on the flips before it. -/
theorem handleFlipBits_long (payload : Memory) {payloadLength : UInt64} (hlong : Long s)
    (hchecked : 8 ≤ payloadLength) (hslot : payload.u32 0 ≤ ucodeSlots - 1) {count : ℕ}
    (hcount : (payload.u32 1).toNat = count + 1) :
    ∃ before, Long before ∧ ∀ other : Memory, payload.u32 0 = other.u32 0 →
      payload.u32 1 = other.u32 1 →
      (∀ flip < count, payload.u32 (2 + flip) = other.u32 (2 + flip)) →
      ∃ status t, handleFlipBits other payloadLength firmware s = some (status, t) ∧
        (t.ucodes 1).contents = (before.ucodes 1).contents.write
          (other.u32 (2 + count) / 8).toNat
          [(before.ucodes 1).contents (other.u32 (2 + count) / 8).toNat ^^^
            (1 <<< (other.u32 (2 + count) % 8).toUInt8)] := by
  let slot := (payload.u32 0).toNat
  obtain ⟨looked, hlooked⟩ : ∃ looked, slotOf .ucodes slot firmware s =
      some (s.ucodes slot, looked) := ⟨_, rfl⟩
  have hlookedLong := hlong.keepsSlots (slotOf_keepsSlots hlooked).2
  obtain ⟨copied, hcopied, hcopiedLong⟩ : ∃ copied : Server,
      (if payload.u32 0 ≠ 1 then copyToSlot1 slot else pure ()) firmware looked =
        some ((), copied) ∧ Long copied := by
    split
    · exact copyToSlot1_long slot hlookedLong
    · exact ⟨looked, rfl, hlookedLong⟩
  obtain ⟨before, hbefore, hbeforeLong⟩ :=
    @flipBits_long firmware copied payload slot 0 count hcopiedLong
  refine ⟨before, hbeforeLong, fun other hfirst hsecond hflips => ?_⟩
  obtain ⟨again, hagain⟩ : ∃ again, slotOf .ucodes slot firmware before =
      some (before.ucodes slot, again) := ⟨_, rfl⟩
  have hkeeps := (slotOf_keepsSlots hagain).2
  obtain ⟨flipped, hflip, -, hcontents⟩ :=
    @flipBit_long firmware again (hbeforeLong.keepsSlots hkeeps) (other.u32 (2 + count))
  obtain ⟨status, t, hsucceed⟩ := @completes_succeed firmware flipped
  refine ⟨status, t, ?_, ?_⟩
  · have hall : flipBits other slot 0 (count + 1) firmware copied = some ((), flipped) := by
      rw [flipBits_succ, ← flipBits_congr slot 0 count fun flip _ hflip =>
        hflips flip (by omega), bind_of_eq_some hbefore, Nat.zero_add, flipBits,
        bind_of_eq_some hagain, hbeforeLong.length slot, bind_of_eq_some hflip]
      rfl
    have hrange : ¬ payload.u32 0 > ucodeSlots - 1 := UInt32.not_lt.mpr hslot
    simp only [handleFlipBits, ← hfirst, ← hsecond, UInt64.not_lt.mpr hchecked, hrange, if_false]
    rw [bind_of_eq_some hlooked]
    simp only [hlong.isNone slot, Bool.false_eq_true, if_false, hcount]
    split at hcopied
    · rename_i hother
      rw [if_pos hother]
      change (copyToSlot1 slot >>= fun _ => flipBits other slot 0 (count + 1) >>= fun _ =>
        succeed) firmware looked = _
      rw [bind_of_eq_some hcopied, bind_of_eq_some hall]
      exact hsucceed
    · rename_i hother
      cases hcopied
      rw [if_neg hother]
      change (flipBits other slot 0 (count + 1) >>= fun _ => succeed) firmware looked = _
      rw [bind_of_eq_some hall]
      exact hsucceed
  · rw [(sending_keepsSlots.succeed _ _ _ hsucceed).ucodes, hcontents, hkeeps.ucodes]

end Flips

/-- Another highest byte makes a position of another byte. -/
theorem flipByte_ne {left right : Memory} {index : ℕ}
    (hbyte : left (4 * index + 3) ≠ right (4 * index + 3)) :
    (left.u32 index / 8).toNat ≠ (right.u32 index / 8).toNat := by
  intro hequal
  have hword : ∀ memory : Memory, (memory.u32 index).toNat = memory.word 4 (4 * index) := by
    intro memory
    have hbound := ofLittleEndian_lt (memory.read (4 * index) 4)
    rw [Memory.length_read] at hbound
    exact UInt32.toNat_ofNat_of_lt hbound
  have height : (8 : UInt32).toNat = 8 := rfl
  rw [UInt32.toNat_div, UInt32.toNat_div, hword, hword, height, Memory.word_four,
    Memory.word_four] at hequal
  have hbounds : ∀ (memory : Memory) (address : ℕ), (memory address).toNat < 256 :=
    fun memory address => (memory address).toNat_lt
  have hleft := hbounds left
  have hright := hbounds right
  have hsame : (left (4 * index + 3)).toNat = (right (4 * index + 3)).toNat := by
    have := hleft (4 * index)
    have := hleft (4 * index + 1)
    have := hleft (4 * index + 2)
    have := hright (4 * index)
    have := hright (4 * index + 1)
    have := hright (4 * index + 2)
    omega
  exact hbyte (UInt8.toNat_inj.mp hsame)

theorem xor_bit_ne (byte : UInt8) (position : UInt32) :
    byte ^^^ (1 <<< (position % 8).toUInt8) ≠ byte := by
  intro hequal
  have hzero : (1 : UInt8) <<< (position % 8).toUInt8 = 0 := by
    have hcancel := congrArg (byte ^^^ ·) hequal
    simpa [← UInt8.xor_assoc] using hcancel
  obtain ⟨bit, hbit, hposition⟩ : ∃ bit < 8, (position % 8).toUInt8 = UInt8.ofNat bit := by
    refine ⟨(position % 8).toNat, ?_, rfl⟩
    rw [UInt32.toNat_mod]
    exact Nat.mod_lt _ (by decide)
  rw [hposition] at hzero
  have hbits : ∀ bit < 8, (1 : UInt8) <<< UInt8.ofNat bit ≠ 0 := by decide
  exact hbits bit hbit hzero

/-- A count of flips beyond the message takes a position from behind it. -/
theorem not_sameEffect_of_flips {message : Memory} {messageLength : UInt64}
    (haccepted : messageStatus message messageLength.toNat = .success)
    (hlong : 8 ≤ messageLength - 8)
    (hrequest : requestOf (message.u32 1) = some .flipBits)
    (hslot : (message.shift 8).u32 0 ≤ ucodeSlots - 1)
    (hflips : ¬ 16 + 4 * ((message.shift 8).u32 1).toNat ≤ messageLength.toNat) :
    ¬ SameEffect message messageLength := by
  have hdispatch : ∀ payload, dispatch (message.u32 1) payload (messageLength - 8) =
      handleFlipBits payload (messageLength - 8) := by
    intro payload
    simp only [dispatch, hrequest]
  have hlength := toNat_payloadLength haccepted
  have hwords : 8 ≤ messageLength.toNat - 8 := by
    rw [← hlength]
    exact UInt64.le_iff_toNat_le.mp hlong
  obtain ⟨count, hcount⟩ : ∃ count, ((message.shift 8).u32 1).toNat = count + 1 :=
    Nat.exists_eq_succ_of_ne_zero (by omega)
  -- the highest byte of the last position
  let address := 16 + 4 * count + 3
  let stale := withByte message address
  have hbehind : messageLength.toNat ≤ address := by
    change messageLength.toNat ≤ 16 + 4 * count + 3
    omega
  have hagree : Memory.AgreeBelow address message stale := agreeBelow_withByte message le_rfl
  have hpayload := hagree.shift 8
  have hplace : address - 8 = 4 * (2 + count) + 3 := by
    change 16 + 4 * count + 3 - 8 = _
    omega
  rw [hplace] at hpayload
  have hlast : (message.shift 8) (4 * (2 + count) + 3) ≠
      (stale.shift 8) (4 * (2 + count) + 3) := by
    have hne := ne_withByte message address
    have hshift : address = 8 + (4 * (2 + count) + 3) := by omega
    change message (8 + (4 * (2 + count) + 3)) ≠ stale (8 + (4 * (2 + count) + 3))
    rwa [← hshift]
  have hstart : Long (onStack loopback longServer) :=
    ⟨fun _ => Option.some_ne_none _, fun _ => rfl⟩
  obtain ⟨before, -, hruns⟩ :=
    @handleFlipBits_long loopback _ (message.shift 8) _ hstart hlong hslot count hcount
  obtain ⟨leftStatus, left, hleft, hleftContents⟩ :=
    hruns (message.shift 8) rfl rfl fun _ _ => rfl
  obtain ⟨rightStatus, right, hright, hrightContents⟩ :=
    hruns (stale.shift 8) (hpayload.u32_eq (by omega)) (hpayload.u32_eq (by omega))
      fun flip _ => hpayload.u32_eq (by omega)
  rw [← hdispatch] at hleft hright
  let flipped := ((message.shift 8).u32 (2 + count) / 8).toNat
  have hcontents : (SlotTable.ucodes.slots left 1).contents flipped ≠
      (SlotTable.ucodes.slots right 1).contents flipped := by
    change (left.ucodes 1).contents flipped ≠ (right.ucodes 1).contents flipped
    rw [hleftContents, hrightContents, Memory.write_singleton, Memory.write_singleton,
      Function.update_self, Function.update_of_ne (flipByte_ne hlast)]
    exact xor_bit_ne _ _
  have hstale : Memory.AgreeBelow messageLength.toNat message stale :=
    agreeBelow_withByte message hbehind
  exact not_sameEffect_of_contents haccepted hstale hleft hright hcontents

/-- A message is handled alike whatever follows it in the receive buffer, exactly
if the counts of an accepted storing message or FLIPBITS for an existing slot
fit the message. -/
theorem sameEffect_iff_countsFit (message : Memory) (messageLength : UInt64) :
    SameEffect message messageLength ↔
      (messageStatus message messageLength.toNat = .success → 8 ≤ messageLength - 8 →
        (message.shift 8).u32 0 ≤ 9 → CountsFit message messageLength) := by
  refine ⟨fun hsame haccepted hlong hslot => ?_, sameEffect_of_countsFit⟩
  constructor
  · rintro (hrequest | hrequest)
    · by_contra hsize
      have hdispatch : ∀ payload, dispatch (message.u32 1) payload (messageLength - 8) =
          handleSendUcode payload (messageLength - 8) := by
        intro payload
        simp only [dispatch, hrequest]
      exact not_sameEffect_of_size haccepted hlong hdispatch hslot hsize hsame
    · by_contra hsize
      have hdispatch : ∀ payload, dispatch (message.u32 1) payload (messageLength - 8) =
          handleSendMachineCode payload (messageLength - 8) := by
        intro payload
        simp only [dispatch, hrequest]
      exact not_sameEffect_of_size haccepted hlong hdispatch hslot hsize hsame
  · intro hrequest
    by_contra hflips
    exact not_sameEffect_of_flips haccepted hlong hrequest hslot hflips hsame

/-- SENDUCODE of four bytes that are not part of the message; the byte behind it
is left over. -/
def staleUpdateMessage (leftover : UInt8) : Memory :=
  Memory.write (fun _ => 0) 0
    ([1, 0, 0, 0] ++ littleEndian 4 0x101 ++ littleEndian 4 2 ++ littleEndian 4 4 ++ [leftover])

theorem not_sameEffect_sendUcode :
    (∃ left right,
      handleMessage (staleUpdateMessage 0) 16 loopback idleServer = some (.success, left) ∧
      handleMessage (staleUpdateMessage 0xCC) 16 loopback idleServer = some (.success, right) ∧
      (left.ucodes 2).contents 0 = 0 ∧ (right.ucodes 2).contents 0 = 0xCC) ∧
    Memory.AgreeBelow 16 (staleUpdateMessage 0) (staleUpdateMessage 0xCC) ∧
    ¬ SameEffect (staleUpdateMessage 0) 16 := by
  have hagree : Memory.AgreeBelow 16 (staleUpdateMessage 0) (staleUpdateMessage 0xCC) := by
    unfold Memory.AgreeBelow
    decide
  obtain ⟨left, right, hleft, hright, hzero, hleftover⟩ : ∃ left right,
      handleMessage (staleUpdateMessage 0) 16 loopback idleServer = some (.success, left) ∧
      handleMessage (staleUpdateMessage 0xCC) 16 loopback idleServer = some (.success, right) ∧
      (left.ucodes 2).contents 0 = 0 ∧ (right.ucodes 2).contents 0 = 0xCC :=
    ⟨_, _, rfl, rfl, by rfl, by rfl⟩
  refine ⟨⟨left, right, hleft, hright, hzero, hleftover⟩, hagree, fun hsame => ?_⟩
  have hequal := hsame _ hagree loopback idleServer
  rw [hleft, hright] at hequal
  have hstates : left = right := (Prod.mk.inj (Option.some.inj hequal)).2
  rw [hstates, hleftover] at hzero
  exact absurd hzero (by decide)

end Handlers

end AngryUefi
