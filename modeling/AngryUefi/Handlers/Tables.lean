import AngryUefi.Handlers.Kept

/-!
# What the handlers index

Every handler checks the numbers a message brings before it uses them as an
index, each in its own way.  Here is which messages make a handler access an
element of `core_contexts`, `ucodes` or `machine_codes` that does not exist.
-/

namespace AngryUefi

open AngryUefi.Bytes AngryUefi.Programs

namespace Access

/-- An access to `core_contexts` stays below `MAX_CORE_COUNT`. -/
def CoreInTable : Access → Prop
  | core index => index < Handlers.maxCoreCount.toNat
  | _ => True

/-- An access to `ucodes` or `machine_codes` stays below the number of slots. -/
def SlotInTable : Access → Prop
  | core _ => True
  | ucode index => index < Handlers.ucodeSlots.toNat
  | machineCode index => index < Handlers.machineCodeSlots.toNat

end Access

namespace Handlers

theorem covers_coreInTable : Covers Access.CoreInTable :=
  ⟨fun _ hindex => hindex, fun table _ _ => by cases table <;> trivial⟩

theorem covers_slotInTable : Covers Access.SlotInTable :=
  ⟨fun _ _ => trivial, fun table _ hslot => by cases table <;> exact hslot⟩

/-! ## The log of accesses -/

/-- All that was accessed in between is of a kind. -/
def Accessing (kind : Access → Prop) (s t : Server) : Prop :=
  ∃ elements, t.accesses = s.accesses ++ elements ∧ ∀ element ∈ elements, kind element

instance (kind : Access → Prop) : IsPreorder Server (Accessing kind) where
  refl s := ⟨[], by simp, nofun⟩
  trans _ _ _ := by
    rintro ⟨left, hleft, hkindLeft⟩ ⟨right, hright, hkindRight⟩
    refine ⟨left ++ right, by rw [hright, hleft, List.append_assoc], fun element helement => ?_⟩
    rcases List.mem_append.mp helement with hmem | hmem
    · exact hkindLeft element hmem
    · exact hkindRight element hmem

/-- An access that is on the log afterwards and was not before. -/
theorem not_accessing_of_mem {kind : Access → Prop} {element : Access} {s t : Server}
    (helement : element ∈ t.accesses) (hbefore : element ∉ s.accesses)
    (hkind : ¬ kind element) : ¬ Accessing kind s t := by
  rintro ⟨elements, hlog, hkinds⟩
  rw [hlog] at helement
  exact hkind (hkinds element ((List.mem_append.mp helement).resolve_left hbefore))

theorem Accessing.mem {kind : Access → Prop} {element : Access} {s t : Server}
    (haccessing : Accessing kind s t) (helement : element ∈ s.accesses) :
    element ∈ t.accesses := by
  obtain ⟨elements, hlog, -⟩ := haccessing
  rw [hlog]
  exact List.mem_append_left _ helement

section Kinds

variable {firmware : Firmware} {kind : Access → Prop}

theorem accessing_of_eq {s t : Server} (hlog : t.accesses = s.accesses) :
    Accessing kind s t :=
  ⟨[], by rw [hlog, List.append_nil], nofun⟩

theorem accessing_access {element : Access} (helement : kind element) :
    Guarantees firmware (Accessing kind) (access element) :=
  Guarantees.modify fun s => ⟨[element], rfl, by simpa using helement⟩

theorem accessing_ask : Guarantees firmware (Accessing kind) ask :=
  Guarantees.get.bind fun _ =>
    (Guarantees.modify fun _ => by exact accessing_of_eq rfl).bind fun _ => Guarantees.pure _

theorem accessing_formatPrint (text : String) (arguments : List UInt64) :
    Guarantees firmware (Accessing kind) (formatPrint text arguments) :=
  Guarantees.read.bind fun _ => Guarantees.modify fun _ => accessing_of_eq rfl

theorem accessing_record (event : Event) :
    Guarantees firmware (Accessing kind) (record event) :=
  Guarantees.modify fun _ => accessing_of_eq rfl

theorem accessing_core0Move (coreId : UInt64) (choice : Core0Choice)
    (hcore : kind (.core coreId.toNat)) :
    Guarantees firmware (Accessing kind) (core0Move coreId choice) := by
  refine (accessing_access hcore).bind fun _ => Guarantees.get.bind fun s => ?_
  split
  · exact Guarantees.failure
  · exact Guarantees.modify fun _ => accessing_of_eq rfl

theorem kept_accessing : Kept firmware (Accessing kind) kind where
  ask := accessing_ask
  formatPrint := accessing_formatPrint
  copyToPayload _ _ := Guarantees.modify fun _ => accessing_of_eq rfl
  respond _ _ _ _ _ _ hreport _ := guarantees_respond accessing_ask accessing_formatPrint
    accessing_record (fun _ _ => accessing_of_eq rfl) hreport _ _ _ _ _
  runProcessors :=
    accessing_ask.bind fun _ => Guarantees.read.bind fun _ =>
      Guarantees.modify fun _ => accessing_of_eq rfl
  useStack :=
    accessing_ask.bind fun _ => Guarantees.read.bind fun _ =>
      Guarantees.modify fun _ => accessing_of_eq rfl
  access _ helement := accessing_access helement
  core0Move coreId choice hkind _ := accessing_core0Move coreId choice hkind
  update table _ _ := Guarantees.modify fun _ => accessing_of_eq (by cases table <;> rfl)
  writeSlot table _ _ _ hslot :=
    (accessing_access hslot).bind fun _ =>
      Guarantees.modify fun _ => accessing_of_eq (by cases table <;> rfl)

end Kinds

/-! ## Firmware and states -/

/-- Firmware that reports so many processors. -/
def reporting (count : UInt64) : Firmware :=
  { loopback with
    patience := count.toNat + 100
    getNumberOfProcessors := fun _ => (.success, count) }

theorem reportsAtMost_reporting {count limit : UInt64} (hcount : count ≤ limit) :
    (reporting count).ReportsAtMost limit :=
  fun _ => .inr hcount

/-- No core is present, also behind the table. -/
def absentServer : Server :=
  { idleServer with
    machine := { Machine.afterInit with
      contexts := fun _ => { Pair.initContext with present := 0 } } }

/-- Every core is started, also behind the table. -/
def startedServer : Server :=
  { idleServer with
    machine := { Machine.afterInit with
      contexts := fun _ => { Pair.initContext with started := 1 } } }

/-! ## The contexts -/

/-- However the message is handled, no access leaves `core_contexts`, when the MP
services report at most `limit` processors. -/
def CoreTableSafe (message : Memory) (messageLength limit : UInt64) : Prop :=
  ∀ firmware : Firmware, firmware.ReportsAtMost limit → ∀ s status t,
    handleMessage message messageLength firmware s = some (status, t) →
      Accessing Access.CoreInTable s t

/-- The message does not name core 128 where that number passes the check, and
does not start all cores where there are more of them than contexts. -/
structure CoreIdsInTable (message : Memory) (messageLength limit : UInt64) : Prop where
  startCore : requestOf (message.u32 1) = some .startCore →
    (message.shift 8).u64 0 ≠ maxCoreCount ∧
      ((message.shift 8).u64 0 = 0 → limit ≤ maxCoreCount)
  read : requestOf (message.u32 1) = some .getCoreStatus ∨
    requestOf (message.u32 1) = some .getLastTestResult →
      (message.shift 8).u64 0 ≠ maxCoreCount

theorem coreInTable_of_ne {coreId : UInt64} (hrange : coreId ≤ maxCoreCount)
    (hlast : coreId ≠ maxCoreCount) : Access.CoreInTable (.core coreId.toNat) := by
  change coreId.toNat < maxCoreCount.toNat
  have hle := UInt64.le_iff_toNat_le.mp hrange
  have hne : coreId.toNat ≠ maxCoreCount.toNat := fun heq => hlast (UInt64.toNat_inj.mp heq)
  omega

theorem CoreIdsInTable.admits {message : Memory} {messageLength limit : UInt64}
    (hids : 8 ≤ messageLength - 8 → CoreIdsInTable message messageLength limit) :
    Kept.Admits Access.CoreInTable limit (requestOf (message.u32 1)) (message.shift 8)
      (messageLength - 8) := by
  cases hrequest : requestOf (message.u32 1) with
  | none => trivial
  | some request =>
      cases request with
      | startCore =>
          intro hlong hrange
          obtain ⟨hlast, hall⟩ := (hids hlong).startCore hrequest
          refine ⟨coreInTable_of_ne hrange hlast, fun hzero index hindex => ?_⟩
          exact Nat.lt_of_lt_of_le hindex (UInt64.le_iff_toNat_le.mp (hall hzero))
      | getCoreStatus =>
          intro hlong hrange
          exact coreInTable_of_ne hrange ((hids hlong).read (.inl hrequest))
      | getLastTestResult =>
          intro hlong hrange
          exact coreInTable_of_ne hrange ((hids hlong).read (.inr hrequest))
      | applyUcode => exact fun _ => trivial
      | _ => trivial

/-- Core 128 is accessed. -/
theorem not_coreInTable_last : ¬ Access.CoreInTable (.core 128) := Nat.lt_irrefl 128

/-- Started cores are skipped, up to the number that the firmware reports. -/
theorem startCores_started {count : UInt64} (patience : ℕ) {index : UInt64} {s : Server}
    (hpatience : count.toNat - index.toNat < patience)
    (hstarted : ∀ coreId, (s.machine.contexts coreId).started = 1) :
    ∃ status t, startCores index patience (reporting count) s = some (status, t) ∧
      ∀ coreId, index.toNat ≤ coreId → coreId < count.toNat →
        Access.core coreId ∈ t.accesses := by
  induction patience generalizing index s with
  | zero => omega
  | succ patience ih =>
      by_cases hindex : index < count
      · have hless := UInt64.lt_iff_toNat_lt.mp hindex
        have hcount := count.toNat_lt
        have hone : (1 : UInt64).toNat = 1 := rfl
        have hnext : (index + 1).toNat = index.toNat + 1 := by
          rw [UInt64.toNat_add, hone, Nat.mod_eq_of_lt (by omega)]
        let asked : Server := { s with clock := s.clock + 1 }
        let looked : Server :=
          { asked with clock := s.clock + 2, accesses := s.accesses ++ [.core index.toNat] }
        have hstart : startCores index (patience + 1) (reporting count) s =
            startCores (index + 1) patience (reporting count) looked := by
          rw [startCores, bind_of_eq_some (show getAvailableCores (reporting count) s =
            some (count, asked) from rfl)]
          simp only [hindex, if_true]
          rw [bind_of_eq_some (show contextOf index (reporting count) asked =
            some (s.machine.contexts index.toNat, looked) from rfl)]
          simp only [hstarted, if_true]
        obtain ⟨status, t, hrun, hcores⟩ := @ih (index + 1) looked (by omega) hstarted
        refine ⟨status, t, hstart.trans hrun, fun coreId hlow hhigh => ?_⟩
        rcases Nat.eq_or_lt_of_le hlow with rfl | hlater
        · have hkept : Guarantees (reporting count) (Accessing fun _ => True)
              (startCores (index + 1) patience) :=
            kept_accessing.startCores (reportsAtMost_reporting (UInt64.le_refl _))
              (fun _ _ => trivial) _ _
          exact (hkept _ _ _ hrun).mem (by simp [looked])
        · exact hcores coreId (by omega) hhigh
      · have hdone : startCores index (patience + 1) (reporting count) s =
            succeed (reporting count) { s with clock := s.clock + 1 } := by
          rw [startCores, bind_of_eq_some (show getAvailableCores (reporting count) s =
            some (count, { s with clock := s.clock + 1 }) from rfl)]
          simp only [hindex, if_false]
        obtain ⟨status, t, hrun⟩ := completes_succeed { s with clock := s.clock + 1 }
        refine ⟨status, t, hdone.trans hrun, fun coreId hlow hhigh => ?_⟩
        rw [UInt64.lt_iff_toNat_lt] at hindex
        omega

/-- A run that accesses the first context behind the table. -/
theorem not_coreTableSafe_of_run {message : Memory} {messageLength limit count : UInt64}
    {s : Server} (hcount : count ≤ limit) (hempty : s.accesses = [])
    (haccepted : messageStatus message messageLength.toNat = .success)
    (hrun : ∃ status t, dispatch (message.u32 1) (message.shift 8) (messageLength - 8)
      (reporting count) (onStack (reporting count) s) = some (status, t) ∧
        Access.core 128 ∈ t.accesses) :
    ¬ CoreTableSafe message messageLength limit := by
  intro hsafe
  obtain ⟨status, t, hdispatch, hlast⟩ := hrun
  have haccessing := hsafe _ (reportsAtMost_reporting hcount) s _ t
    (handleMessage_of_dispatch haccepted hdispatch)
  exact not_accessing_of_mem hlast (by simp [hempty]) not_coreInTable_last haccessing

section Last

variable {payload : Memory} {payloadLength : UInt64} (hlong : 8 ≤ payloadLength)
include hlong

theorem handleStartCore_last (hlast : payload.u64 0 = maxCoreCount) :
    ∃ status t, handleStartCore payload payloadLength (reporting 0)
      (onStack (reporting 0) absentServer) = some (status, t) ∧
        Access.core 128 ∈ t.accesses := by
  have hchecked : handleStartCore payload payloadLength = (do
      let status ← startCore maxCoreCount
      if status ≠ .success then return status else succeed) := by
    simp only [handleStartCore, hlast, UInt64.not_lt.mpr hlong, if_false]
    rfl
  rw [hchecked]
  exact ⟨_, _, rfl, by decide⟩

theorem handleStartCore_all {count : UInt64} (hall : payload.u64 0 = 0)
    (hcount : maxCoreCount < count) :
    ∃ status t, handleStartCore payload payloadLength (reporting count)
      (onStack (reporting count) startedServer) = some (status, t) ∧
        Access.core 128 ∈ t.accesses := by
  have hchecked : handleStartCore payload payloadLength (reporting count)
      (onStack (reporting count) startedServer) =
        startCores 1 (count.toNat + 100) (reporting count)
          (onStack (reporting count) startedServer) := by
    simp only [handleStartCore, hall, UInt64.not_lt.mpr hlong, if_false]
    rfl
  obtain ⟨status, t, hrun, hcores⟩ :=
    @startCores_started count (count.toNat + 100) 1 (onStack (reporting count) startedServer)
      (by omega) (fun _ => rfl)
  exact ⟨status, t, hchecked.trans hrun,
    hcores 128 (by decide) (UInt64.lt_iff_toNat_lt.mp hcount)⟩

theorem handleGetCoreStatus_last (hlast : payload.u64 0 = maxCoreCount) :
    ∃ status t, handleGetCoreStatus payload payloadLength (reporting 0)
      (onStack (reporting 0) absentServer) = some (status, t) ∧
        Access.core 128 ∈ t.accesses := by
  have hchecked : handleGetCoreStatus payload payloadLength =
      sendCoreStatus maxCoreCount true := by
    simp only [handleGetCoreStatus, hlast, UInt64.not_lt.mpr hlong, if_false]
    rfl
  rw [hchecked]
  exact ⟨_, _, rfl, by decide⟩

theorem handleGetLastTestResult_last (hlast : payload.u64 0 = maxCoreCount) :
    ∃ status t, handleGetLastTestResult payload payloadLength (reporting 0)
      (onStack (reporting 0) absentServer) = some (status, t) ∧
        Access.core 128 ∈ t.accesses := by
  simp only [handleGetLastTestResult, hlast, UInt64.not_lt.mpr hlong, if_false]
  exact ⟨_, _, rfl, by decide⟩

end Last

/-- Every access to `core_contexts` is inside the table, whatever the state and
whatever count up to `limit` the firmware reports, exactly if an accepted
message with a core number does not name core 128 to one of three handlers, and
does not ask for all of more than 128 cores. -/
theorem coreTableSafe_iff_coreIdsInTable (message : Memory) (messageLength limit : UInt64) :
    CoreTableSafe message messageLength limit ↔
      (messageStatus message messageLength.toNat = .success → 8 ≤ messageLength - 8 →
        CoreIdsInTable message messageLength limit) := by
  constructor
  · intro hsafe haccepted hlong
    constructor
    · intro hrequest
      constructor
      · intro hlast
        refine not_coreTableSafe_of_run (s := absentServer) UInt64.zero_le rfl haccepted ?_ hsafe
        simpa only [dispatch, hrequest] using handleStartCore_last hlong hlast
      · intro hall
        by_contra hmany
        refine not_coreTableSafe_of_run (s := startedServer) (UInt64.le_refl limit) rfl haccepted
          ?_ hsafe
        simpa only [dispatch, hrequest] using
          handleStartCore_all hlong hall (UInt64.not_le.mp hmany)
    · rintro (hrequest | hrequest) hlast
      · refine not_coreTableSafe_of_run (s := absentServer) UInt64.zero_le rfl haccepted ?_ hsafe
        simpa only [dispatch, hrequest] using handleGetCoreStatus_last hlong hlast
      · refine not_coreTableSafe_of_run (s := absentServer) UInt64.zero_le rfl haccepted ?_ hsafe
        simpa only [dispatch, hrequest] using handleGetLastTestResult_last hlong hlast
  · intro hids firmware hlimit s status t hrun
    have hkept : Kept firmware (Accessing Access.CoreInTable) Access.CoreInTable :=
      kept_accessing
    exact hkept.handleMessage covers_coreInTable hlimit message messageLength
      (fun haccepted => CoreIdsInTable.admits (hids haccepted)) s status t hrun

/-- GETCORESTATUS for core 128. -/
def lastCoreMessage : Memory :=
  Memory.write (fun _ => 0) 0
    ([1, 0, 0, 0] ++ littleEndian 4 0x213 ++ littleEndian 8 128)

theorem not_coreTableSafe_getCoreStatus :
    (∃ t, handleMessage lastCoreMessage 16 loopback absentServer = some (.success, t) ∧
      Access.core 128 ∈ t.accesses) ∧ ¬ CoreTableSafe lastCoreMessage 16 4 := by
  obtain ⟨t, hrun, hlast⟩ :
      ∃ t, handleMessage lastCoreMessage 16 loopback absentServer = some (.success, t) ∧
        Access.core 128 ∈ t.accesses := ⟨_, rfl, by decide⟩
  refine ⟨⟨t, hrun, hlast⟩, fun hsafe => ?_⟩
  have haccessing := hsafe loopback (fun _ => .inr (UInt64.le_refl 4)) absentServer _ t hrun
  exact not_accessing_of_mem hlast (by simp [absentServer, idleServer]) not_coreInTable_last
    haccessing

/-! ## The slots -/

/-- The ASRs that take the number of a slot. -/
inductive SlotAsr
  | getUcodeSlotAddr
  | getMachineSlotAddr
  deriving DecidableEq

def getUcodeSlotAddr (slotNumber : UInt64) : Handler (Option UInt64) := do
  if slotNumber ≥ ucodeSlots.toUInt64 then return none
  else return (← slotOf .ucodes slotNumber.toNat).address

def getMachineSlotAddr (slotNumber : UInt64) : Handler (Option UInt64) := do
  if slotNumber ≥ machineCodeSlots.toUInt64 then return none
  else return (← slotOf .machineCodes slotNumber.toNat).address

/-- What reaches the slot tables: a message, or machine code that calls one of
the ASRs 0x1001 and 0x1002. -/
inductive SlotUse
  | message (body : Memory) (length : UInt64)
  | asr (function : SlotAsr) (slotNumber : UInt64)

def SlotUse.run : SlotUse → Handler Unit
  | .message body length => do
      let _ ← handleMessage body length
  | .asr .getUcodeSlotAddr slotNumber => do
      let _ ← getUcodeSlotAddr slotNumber
  | .asr .getMachineSlotAddr slotNumber => do
      let _ ← getMachineSlotAddr slotNumber

/-- In every state, no access leaves `ucodes` or `machine_codes`. -/
def SlotTableSafe (use : SlotUse) : Prop :=
  ∀ (firmware : Firmware) s t, use.run firmware s = some ((), t) →
    Accessing Access.SlotInTable s t

/-- An accepted APPLYUCODE with a slot names one that exists. -/
def AppliesSlotInTable : SlotUse → Prop
  | .message body length =>
      messageStatus body length.toNat = .success →
        requestOf (body.u32 1) = some .applyUcode → 8 ≤ length - 8 →
          (body.shift 8).u32 0 < ucodeSlots
  | .asr _ _ => True

theorem slotInTable_asr {firmware : Firmware} (function : SlotAsr) (slotNumber : UInt64) :
    Guarantees firmware (Accessing Access.SlotInTable) (SlotUse.asr function slotNumber).run := by
  have hkept : Kept firmware (Accessing Access.SlotInTable) Access.SlotInTable := kept_accessing
  cases function with
  | getUcodeSlotAddr =>
      simp only [SlotUse.run, getUcodeSlotAddr]
      split
      · exact Guarantees.pure _
      rename_i hslot
      have hkind := covers_slotInTable.slot .ucodes slotNumber.toNat
        (UInt64.lt_iff_toNat_lt.mp (UInt64.not_le.mp hslot))
      exact (hkept.slotOf hkind).bind fun _ => Guarantees.pure _
  | getMachineSlotAddr =>
      simp only [SlotUse.run, getMachineSlotAddr]
      split
      · exact Guarantees.pure _
      rename_i hslot
      have hkind := covers_slotInTable.slot .machineCodes slotNumber.toNat
        (UInt64.lt_iff_toNat_lt.mp (UInt64.not_le.mp hslot))
      exact (hkept.slotOf hkind).bind fun _ => Guarantees.pure _

theorem admits_slotInTable {body : Memory} {length limit : UInt64}
    (hslot : requestOf (body.u32 1) = some .applyUcode → 8 ≤ length - 8 →
      (body.shift 8).u32 0 < ucodeSlots) :
    Kept.Admits Access.SlotInTable limit (requestOf (body.u32 1)) (body.shift 8)
      (length - 8) := by
  cases hrequest : requestOf (body.u32 1) with
  | none => trivial
  | some request =>
      cases request with
      | applyUcode =>
          exact fun hlong => UInt32.lt_iff_toNat_lt.mp (hslot hrequest hlong)
      | startCore => exact fun _ _ => ⟨trivial, fun _ _ _ => trivial⟩
      | getCoreStatus => exact fun _ _ => trivial
      | getLastTestResult => exact fun _ _ => trivial
      | _ => trivial

/-- With empty slots everywhere, the handler rejects what it has looked up. -/
theorem handleApplyUcode_empty (payload : Memory) {payloadLength : UInt64}
    (hlong : 8 ≤ payloadLength) :
    ∃ status t, handleApplyUcode payload payloadLength loopback
      (onStack loopback idleServer) = some (status, t) ∧
        Access.ucode (payload.u32 0).toNat ∈ t.accesses := by
  let looked : Server :=
    { onStack loopback idleServer with accesses := [.ucode (payload.u32 0).toNat] }
  have hchecked : handleApplyUcode payload payloadLength loopback (onStack loopback idleServer) =
      reject 0x2 "Target slot %u is empty.\n" [(payload.u32 0).toUInt64] loopback looked := by
    simp only [handleApplyUcode, UInt64.not_lt.mpr hlong, if_false]
    rw [bind_of_eq_some (show slotOf .ucodes (payload.u32 0).toNat loopback
      (onStack loopback idleServer) = some (⟨none, 0, fun _ => 0, 0⟩, looked) from rfl)]
    rfl
  obtain ⟨status, t, hrun⟩ := completes_reject 0x2 "Target slot %u is empty.\n"
    [(payload.u32 0).toUInt64] looked
  have hkept : Guarantees loopback (Accessing fun _ => True)
      (reject 0x2 "Target slot %u is empty.\n" [(payload.u32 0).toUInt64]) :=
    kept_accessing.reject _ _ _
  exact ⟨status, t, hchecked.trans hrun, (hkept _ _ _ hrun).mem (by simp [looked])⟩

/-- Every access to the slot tables is inside them, whatever the state, exactly
if the slot that an APPLYUCODE names exists. -/
theorem slotTableSafe_iff_appliesSlotInTable (use : SlotUse) :
    SlotTableSafe use ↔ AppliesSlotInTable use := by
  cases use with
  | asr function slotNumber =>
      exact ⟨fun _ => trivial,
        fun _ firmware s t hrun => slotInTable_asr function slotNumber s () t hrun⟩
  | message body length =>
      constructor
      · intro hsafe haccepted hrequest hlong
        by_contra hslot
        have hdispatch : dispatch (body.u32 1) (body.shift 8) (length - 8) =
            handleApplyUcode (body.shift 8) (length - 8) := by
          simp only [dispatch, hrequest]
        obtain ⟨status, t, happly, hmem⟩ := handleApplyUcode_empty (body.shift 8) hlong
        rw [← hdispatch] at happly
        have hrun : (SlotUse.message body length).run loopback idleServer = some ((), t) :=
          bind_eq_some_iff.mpr ⟨.success, t, handleMessage_of_dispatch haccepted happly, rfl⟩
        refine not_accessing_of_mem hmem (by simp [idleServer]) ?_ (hsafe loopback _ _ hrun)
        exact fun hkind => hslot (UInt32.lt_iff_toNat_lt.mpr hkind)
      · intro hslot firmware s t hrun
        obtain ⟨status, middle, hmessage, hlast⟩ := bind_eq_some_iff.mp hrun
        cases hlast
        have hkept : Kept firmware (Accessing Access.SlotInTable) Access.SlotInTable :=
          kept_accessing
        exact hkept.handleMessage covers_slotInTable (reportsAtMost_max firmware) body length
          (fun haccepted => admits_slotInTable (hslot haccepted)) s status t hmessage

/-- APPLYUCODE for slot 10. -/
def applySlot10Message : Memory :=
  Memory.write (fun _ => 0) 0
    ([1, 0, 0, 0] ++ littleEndian 4 0x141 ++ littleEndian 4 10 ++ littleEndian 4 0)

theorem not_slotTableSafe_applyUcode :
    (∃ t, handleMessage applySlot10Message 16 loopback idleServer = some (.success, t) ∧
      Access.ucode 10 ∈ t.accesses) ∧ ¬ SlotTableSafe (.message applySlot10Message 16) := by
  obtain ⟨t, hrun, hmem⟩ :
      ∃ t, handleMessage applySlot10Message 16 loopback idleServer = some (.success, t) ∧
        Access.ucode 10 ∈ t.accesses := ⟨_, rfl, by decide⟩
  refine ⟨⟨t, hrun, hmem⟩, fun hsafe => ?_⟩
  have haccessing := hsafe loopback idleServer t
    (bind_eq_some_iff.mpr ⟨.success, t, hrun, rfl⟩)
  exact not_accessing_of_mem hmem (by simp [idleServer]) (Nat.lt_irrefl 10) haccessing

end Handlers

end AngryUefi
