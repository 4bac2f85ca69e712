import AngryUefi.Handlers.MainLoop

/-!
# Cores that are left alone

A core that no message starts and that no message gives a job is left alone,
whatever the other messages do to the other cores: what becomes of its context
is its own processor's work.
-/

namespace AngryUefi

open AngryUefi.Bytes AngryUefi.Handlers AngryUefi.Programs AngryUefi.Transition

namespace Machine

/-- A step of the core's own processor, or one that leaves the core as it is. -/
def LeavesAlone (coreId : ℕ) (m n : Machine) : Prop :=
  (∃ choice, m.step .twoStep (.ap coreId choice) = some n) ∨
    n.contexts coreId = m.contexts coreId ∧ n.aps coreId = m.aps coreId ∧
      n.histories coreId = m.histories coreId

/-- What has become of the core is its own work. -/
def Alone (coreId : ℕ) : Machine → Machine → Prop := Relation.ReflTransGen (LeavesAlone coreId)

instance (coreId : ℕ) : IsPreorder Machine (Alone coreId) where
  refl _ := .refl
  trans _ _ _ := Relation.ReflTransGen.trans

/-- Processors of other cores do not concern it. -/
theorem leavesAlone_apStep {coreId other : ℕ} {choice : ApChoice} {m n : Machine}
    (hstep : m.step .twoStep (.ap other choice) = some n) : m.LeavesAlone coreId n := by
  by_cases hother : other = coreId
  · subst hother
    exact .inl ⟨choice, hstep⟩
  · simp only [step, Option.ite_none_right_eq_some, Option.map_eq_some_iff] at hstep
    obtain ⟨-, p, -, rfl⟩ := hstep
    refine .inr ?_
    simp only [put, Function.update_of_ne (Ne.symm hother), and_self]

theorem alone_runProcessors (coreId : ℕ) (choices : List (ℕ × ApChoice)) (m : Machine) :
    m.Alone coreId (m.runProcessors choices) := by
  induction choices generalizing m with
  | nil => exact .refl
  | cons choice choices ih =>
      simp only [runProcessors]
      cases hstep : m.step .twoStep (.ap choice.1 choice.2) with
      | none => exact ih m
      | some n => exact .head (leavesAlone_apStep hstep) (ih n)

/-- Core 0 works on one context only. -/
theorem alone_core0Move {coreId other : ℕ} {choice : Core0Choice} {m n : Machine}
    (hother : other ≠ coreId) (hmove : m.core0Move other choice = some n) :
    m.Alone coreId n := by
  simp only [core0Move, Option.map_eq_some_iff] at hmove
  obtain ⟨p, -, rfl⟩ := hmove
  refine .single (.inr ?_)
  simp only [put, Function.update_of_ne hother.symm, and_self]

/-- The boot processor is not an application processor, and one that has not
been started does nothing. -/
theorem Alone.unchanged {coreId : ℕ} {m n : Machine} (halone : m.Alone coreId n)
    (hoff : coreId = 0 ∨ (m.aps coreId).pc = .off) :
    n.contexts coreId = m.contexts coreId ∧ n.aps coreId = m.aps coreId ∧
      n.histories coreId = m.histories coreId := by
  induction halone with
  | refl => exact ⟨rfl, rfl, rfl⟩
  | tail _ hlast ih =>
      obtain ⟨hcontext, hap, hhistory⟩ := ih
      rcases hlast with ⟨choice, hstep⟩ | ⟨hcontext', hap', hhistory'⟩
      · simp only [step, Option.ite_none_right_eq_some, Option.map_eq_some_iff] at hstep
        obtain ⟨hcoreId, p, hp, -⟩ := hstep
        have hpc := hoff.resolve_left hcoreId
        rw [← hap] at hpc
        simp [Pair.apStep, hpc] at hp
      · exact ⟨hcontext'.trans hcontext, hap'.trans hap, hhistory'.trans hhistory⟩

end Machine

namespace Handlers

variable {firmware : Firmware} {coreId : ℕ}

/-- An element that is not the core. -/
def OtherThan (coreId : ℕ) (element : Access) : Prop := element ≠ .core coreId

theorem slotNamed_otherThan (table : SlotTable) (slot : UInt32) :
    SlotNamed (OtherThan coreId) table slot := by
  intro _
  cases table <;> rintro ⟨⟩

theorem coreNamed_otherThan {other : UInt64} (hother : other.toNat ≠ coreId) :
    CoreNamed (OtherThan coreId) other := by
  intro _ hcore
  exact hother (Access.core.inj hcore)

theorem reading_alone (coreId : ℕ) (kind : Access → Prop) :
    Reading firmware (OnMachine (Machine.Alone coreId)) kind :=
  reading_onMachine (Machine.alone_runProcessors coreId)
    (fun _ _ => .single (.inr ⟨rfl, rfl, rfl⟩)) kind

theorem alone_core0Move {other : UInt64} {choice : Core0Choice}
    (hother : other.toNat ≠ coreId) :
    Guarantees firmware (OnMachine (Machine.Alone coreId)) (core0Move other choice) := by
  intro s _ t hrun
  obtain ⟨machine, hmove, rfl⟩ := core0Move_eq_some hrun
  exact Machine.alone_core0Move hother hmove

theorem requesting_alone (coreId : ℕ) :
    Requesting firmware (OnMachine (Machine.Alone coreId)) (OtherThan coreId) where
  toReading := reading_alone coreId _
  runRequest other request hkind := by
    have hother : other.toNat ≠ coreId := fun heq => hkind (congrArg Access.core heq)
    have hkept : Reading firmware (OnMachine (Machine.Alone coreId)) fun _ => True :=
      reading_alone coreId _
    have hserve : ∀ patience, Guarantees firmware (OnMachine (Machine.Alone coreId))
        (runCore0 other patience) := by
      intro patience
      induction patience with
      | zero => exact Guarantees.failure
      | succ patience ih =>
          refine hkept.runProcessors.bind fun _ => hkept.ask.bind fun _ =>
            Guarantees.read.bind fun _ => Guarantees.get.bind fun s => ?_
          split
          · exact Guarantees.pure _
          · exact (alone_core0Move hother).bind fun _ => ih
    exact Guarantees.read.bind fun _ => (alone_core0Move hother).bind fun _ => hserve _

/-- The message has core 0 start the core or gives it a job; 0 stands for all
processors that the firmware may report. -/
def AsksFor (coreId : ℕ) (limit : UInt64) (request : Option MessageType) (payload : Memory) :
    Prop :=
  match request with
  | some .executeMachineCode => (payload.u32 1).toNat = coreId
  | some .applyUcodeExcuteTest => (payload.u32 2).toNat = coreId
  | some .readMsrOnCore => ((payload.shift 4).u64 0).toNat = coreId
  | some .startCore =>
      (payload.u64 0).toNat = coreId ∨ payload.u64 0 = 0 ∧ coreId < limit.toNat
  | _ => False

theorem alone_dispatch {limit : UInt64} (hlimit : firmware.ReportsAtMost limit)
    {messageType : UInt32} {payload : Memory} {payloadLength : UInt64}
    (hasks : ¬ AsksFor coreId limit (requestOf messageType) payload) :
    Guarantees firmware (OnMachine (Machine.Alone coreId))
      (dispatch messageType payload payloadLength) := by
  refine @Reading.dispatch _ _ _ _ (reading_alone coreId fun _ => True) limit messageType payload
    payloadLength (names_all _ _ _ _) fun hcore => ?_
  refine (requesting_alone coreId).dispatch hlimit messageType payload payloadLength ?_
  cases hrequest : requestOf messageType with
  | none => trivial
  | some request =>
      rw [hrequest] at hasks hcore
      cases request with
      | executeMachineCode =>
          refine ⟨slotNamed_otherThan _ _, coreNamed_otherThan ?_⟩
          rwa [UInt32.toNat_toUInt64]
      | applyUcodeExcuteTest =>
          refine ⟨slotNamed_otherThan _ _, slotNamed_otherThan _ _, coreNamed_otherThan ?_⟩
          rwa [UInt32.toNat_toUInt64]
      | readMsrOnCore => exact coreNamed_otherThan hasks
      | startCore =>
          obtain ⟨hone, hall⟩ := not_or.mp hasks
          intro _ _
          refine ⟨fun hcore => hone (Access.core.inj hcore), fun hzero index hindex hcore => ?_⟩
          exact hall ⟨hzero, Access.core.inj hcore ▸ hindex⟩
      | _ => cases hcore

/-- No message of a connection asks for the core. -/
def NoneAsksFor (coreId : ℕ) (limit : UInt64) (messages : List (Memory × UInt64)) : Prop :=
  ∀ message ∈ messages,
    ¬ AsksFor coreId limit (requestOf (message.1.u32 1)) (message.1.shift 8)

theorem alone_serveMessages {limit : UInt64} (hlimit : firmware.ReportsAtMost limit)
    {messages : List (Memory × UInt64)} (hmessages : NoneAsksFor coreId limit messages) :
    Guarantees firmware (OnMachine (Machine.Alone coreId)) (serveMessages messages) :=
  guarantees_serveMessages fun message hmessage =>
    (reading_alone coreId fun _ => True).handleMessage message.1 message.2 fun _ =>
      alone_dispatch hlimit (hmessages message hmessage)

end Handlers

namespace MainLoop

/-- As long as no message asks for a core, it is left alone: its context is
what its own processor makes of it, and nothing changes in it when the processor
has not been started. -/
theorem always_alone {firmware : Firmware} {limit : UInt64}
    (hlimit : firmware.ReportsAtMost limit) (coreId : ℕ) {start : Server}
    {past : List (MainLoop × Label)} {s : MainLoop}
    (hrun : Run (Starts start) (step firmware) past s) :
    Always (fun s => NoneAsksFor coreId limit s.messages →
      start.machine.Alone coreId s.server.machine ∧
        (coreId = 0 ∨ (start.machine.aps coreId).pc = .off →
          s.server.machine.contexts coreId = start.machine.contexts coreId ∧
            s.server.machine.aps coreId = start.machine.aps coreId ∧
            s.server.machine.histories coreId = start.machine.histories coreId)) past s := by
  refine (always_served hrun).mono ?_
  rintro s ⟨status, hserved⟩ hnone
  have halone := alone_serveMessages hlimit hnone start status s.server hserved
  exact ⟨halone, fun hoff => halone.unchanged hoff⟩

/-- STARTCORE for core 1. -/
def startConnection : List Label :=
  [.accept ⟨.success, .success, .success⟩, .chunk (delivered [16, 0, 0, 0]),
    .chunk (delivered ([1, 0, 0, 0] ++ littleEndian 4 MessageType.startCore.code.toNat ++
      littleEndian 8 1)), .handleMessage]

/-- Firmware that starts a processor on its new page tables. -/
def starting : Firmware :=
  { loopback with
    core0Choice := fun number =>
      if number % 4 = 3 then .newCr3 0x2000 else .startup (some 0x8000) }

theorem always_alone_startConnection :
    ∃ past t, exec (step starting) startConnection (initial startedServer) = some t ∧
      Run (Starts startedServer) (step starting) past t ∧
      (t.server.machine.contexts 1).cr3Value = 0x2000 ∧ NoneAsksFor 2 4 t.messages ∧
      Always (fun s => NoneAsksFor 2 4 s.messages →
        startedServer.machine.Alone 2 s.server.machine ∧
          (2 = 0 ∨ (startedServer.machine.aps 2).pc = .off →
            s.server.machine.contexts 2 = startedServer.machine.contexts 2 ∧
              s.server.machine.aps 2 = startedServer.machine.aps 2 ∧
              s.server.machine.histories 2 = startedServer.machine.histories 2)) past t := by
  have hseen : (exec (step starting) startConnection (initial startedServer)).map (fun t =>
      ((t.server.machine.contexts 1).cr3Value, t.messages.map fun message =>
        (requestOf (message.1.u32 1), (message.1.shift 8).u64 0))) =
      some (0x2000, [(some .startCore, 1)]) := by decide +kernel
  obtain ⟨t, hexec, hfields⟩ := Option.map_eq_some_iff.mp hseen
  obtain ⟨hstarted, hmessages⟩ := Prod.mk.inj hfields
  have hnone : NoneAsksFor 2 4 t.messages := by
    intro message hmessage
    have hone := List.mem_map_of_mem (f := fun message : Memory × UInt64 =>
      (requestOf (message.1.u32 1), (message.1.shift 8).u64 0)) hmessage
    rw [hmessages, List.mem_singleton, Prod.mk.injEq] at hone
    rw [hone.1, AsksFor, hone.2]
    decide
  obtain ⟨past, hrun⟩ := run_of_exec (starts_initial startedServer) _ hexec
  exact ⟨past, t, hexec, hrun, hstarted, hnone,
    always_alone (fun _ => .inr (UInt64.le_refl _)) 2 hrun⟩

end MainLoop

end AngryUefi
