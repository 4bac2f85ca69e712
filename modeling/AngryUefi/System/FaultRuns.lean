import AngryUefi.Cores.Pair
import AngryUefi.System.FaultFootprint
import AngryUefi.System.GpfGate

/-!
# Fault after fault

What happens to an application processor from the stub that starts its main loop
on: compiled and machine code runs, faults come through the core's table, and
the handlers' exits lead back into the code.  In the model of the two processors
a handler is three writes to the context and a jump.
-/

namespace AngryUefi.System

open AngryUefi.X86 AngryUefi.AddressSpace AngryUefi.Bytes Workspace
open AngryUefi.Transition (Run EachStep Always eachStep_cons eachStep_nil)

/-- `core_main_loop_stub_wrapper`, with the context in RDI. -/
def coreMainLoopStubWrapper : Code := [.store .rsp 80 .rdi, .jmp .coreMainLoop]

/-- The two stubs in front of `core_main_loop` jump to compiled code. -/
def runStub (image : Image Label) (stub : Code) (m : Cpu) : Outcome :=
  execBlock image (fun _ => .jumped) stub m

/-- Compiled or machine code runs and leaves some state, `write_idt_on_core` or
the recovery stub runs, or a fault comes and its handler runs up to `iretq`. -/
inductive CoreEvent
  | code (after : Cpu)
  | writeIdt
  | recover
  | fault (vector : ℕ) (errorCode : UInt64)

/-- A core's copy of the stubs, with its context, record and table. -/
structure Core extends StubCopy where
  idt : UInt64

namespace Core

/-- What `init_fault_handlers_on_core` sets the table's fields to. -/
def fields (core : Core) : IdtFields where
  idtBase := core.idt
  idtLimit := highestFaultHandler

/-- The context pointer, the context's pointer to the record and the recovery
address. -/
def pointers (core : Core) : List (UInt64 × ℕ) := [
  (core.image.address .protoFaultStubContextPtr, 8),
  (core.context + 72, 8),
  (core.image.address .recoveryAddress, 8)]

/-- What the handlers and the processor read: the pointers and the table. -/
def data (core : Core) : List (UInt64 × ℕ) := (core.idt, 4096) :: core.pointers

/-- The data, and `recovery_rsp`. -/
def reserved (core : Core) : List (UInt64 × ℕ) := (core.context + 80, 8) :: core.data

/-- The data are what core 0 and the assembler put there. -/
structure Laid (core : Core) (memory : AddressSpace) : Prop where
  contextPtr : memory.load (core.image.address .protoFaultStubContextPtr) = core.context
  faultInfo : memory.load (core.context + 72) = core.info
  recovery : memory.load (core.image.address .recoveryAddress) =
    core.image.address .coreMainLoopStubRecovery
  gates : ∀ vector < 256, memory.readBytes (gateAddress core.idt vector) 16 =
    (idtEntry (core.image.address (installedHandler vector))).bytes

/-- The stub has saved RSP, and the table is loaded. -/
structure Prepared (core : Core) (saved : UInt64) (m : Cpu) : Prop extends
    Laid core m.memory where
  recoveryRsp : m.memory.load (core.context + 80) = saved
  idtr : m.idtr = { limit := 0xff, base := core.idt }

/-- Places in memory that are given to a core. -/
structure Apart (core : Core) : Prop where
  recoveryRsp : ClearOf core.data (core.context + 80) 8
  info : ClearOf core.reserved core.info 216

/-- A handler with this RSP on entry works apart from the data. -/
structure HasRoom (core : Core) (entry : UInt64) : Prop where
  reserved : ClearOf core.reserved (entry - 32) 80
  info : Disjoint core.info 216 (entry - 32) 80

variable {core : Core} {before after : AddressSpace} {m n : Cpu} {saved : UInt64}

theorem gate_of_keeps {vector : ℕ} (hkeeps : Keeps core.data before after)
    (hvector : vector < 256) :
    after.readBytes (gateAddress core.idt vector) 16 =
      before.readBytes (gateAddress core.idt vector) 16 := by
  apply readBytes_congr
  intro index hindex
  rw [gateAddress, add_assoc]
  apply hkeeps (core.idt, 4096) (by simp [data, pointers])
  have hwrap : (2 : ℕ) ^ 64 = 18446744073709551616 := rfl
  have hgate := @UInt64.toNat_ofNat' (16 * vector)
  have hoffset := @UInt64.toNat_ofNat' index
  rw [hwrap, Nat.mod_eq_of_lt (by omega)] at hgate hoffset
  rw [UInt64.toNat_add, hgate, hoffset]
  omega

theorem Laid.keeps (hlaid : core.Laid before) (hkeeps : Keeps core.data before after) :
    core.Laid after := by
  constructor
  · rw [hkeeps.load (by simp [data, pointers]), hlaid.contextPtr]
  · rw [hkeeps.load (by simp [data, pointers]), hlaid.faultInfo]
  · rw [hkeeps.load (by simp [data, pointers]), hlaid.recovery]
  · intro vector hvector
    rw [gate_of_keeps hkeeps hvector, hlaid.gates vector hvector]

/-- Core 0 fills the table where the pointers are not. -/
theorem laid_initIdt (hclear : ClearOf core.pointers core.idt 4096)
    (hcontext : before.load (core.image.address .protoFaultStubContextPtr) = core.context)
    (hinfo : before.load (core.context + 72) = core.info)
    (hrecovery : before.load (core.image.address .recoveryAddress) =
      core.image.address .coreMainLoopStubRecovery) :
    core.Laid (initIdt core.image core.idt before).2 := by
  have hkeeps : Keeps core.pointers before (initIdt core.image core.idt before).2 :=
    hclear.keeps fun _ hfar => fillIdt_of_le (by decide) hfar
  constructor
  · rw [hkeeps.load (by simp [pointers]), hcontext]
  · rw [hkeeps.load (by simp [pointers]), hinfo]
  · rw [hkeeps.load (by simp [pointers]), hrecovery]
  · exact fun vector hvector => readBytes_fillIdt (by decide) hvector

theorem keeps_data (hkeeps : Keeps core.reserved before after) : Keeps core.data before after :=
  fun range hrange => hkeeps range (List.mem_cons_of_mem _ hrange)

theorem Prepared.keeps (hprepared : core.Prepared saved m)
    (hkeeps : Keeps core.reserved m.memory n.memory)
    (hidtr : n.idtr = { limit := 0xff, base := core.idt }) : core.Prepared saved n := by
  refine ⟨hprepared.toLaid.keeps (keeps_data hkeeps), ?_, hidtr⟩
  rw [hkeeps.load (by simp [reserved]), hprepared.recoveryRsp]

/-- A handler leaves the reserved ranges alone. -/
theorem keeps_of_spares {entry : UInt64} {w : Workspace} (hapart : core.Apart)
    (hroom : core.HasRoom entry) (hinfo : w.info = core.info) (hentry : w.entry = entry)
    (hspares : w.Spares before after) : Keeps core.reserved before after := by
  intro range hrange offset hoffset
  apply hspares
  · rw [hinfo]
    exact (hapart.info range hrange).outside hoffset
  · rw [hentry]
    exact (hroom.reserved range hrange).outside hoffset

/-! ## What happens on the core -/

def event (core : Core) : CoreEvent → Cpu → Option Cpu
  | .code after, _ => some after
  | .writeIdt, m =>
      match writeIdtOnCore core.image 1 core.fields m with
      | .returned n => some n
      | _ => none
  | .recover, m =>
      if m.rip = core.image.address .coreMainLoopStubRecovery then
        match runStub core.image coreMainLoopStubRecovery m with
        | .jumped n => some n
        | _ => none
      else none
  | .fault vector errorCode, m =>
      if GateLoaded vector (core.image.address (installedHandler vector)) m then
        match deliver core.image 2 vector errorCode m with
        | .interruptReturned final => some final.interruptReturn
        | _ => none
      else none

/-- Code leaves what the stubs and the table need, and the stack does not run
into it. -/
def Careful (core : Core) (m : Cpu) : CoreEvent → Prop
  | .code after => Keeps core.reserved m.memory after.memory ∧ after.idtr = m.idtr
  | .writeIdt => ClearOf core.reserved (m.reg .rsp - 24) 24
  | .recover => True
  | .fault vector errorCode => core.HasRoom (m.frameEntry (pushedErrorCode vector errorCode))

/-- The stub has jumped to `core_main_loop`, whose first call has loaded the
table. -/
def Started (core : Core) (saved : UInt64) (m : Cpu) : Prop :=
  ∃ before called : Cpu, core.Laid before.memory ∧ before.reg .rsp = saved ∧
    before.reg .rdi = core.context ∧
    ((runStub core.image coreMainLoopStubWrapper before).Jumped fun entered =>
      Keeps core.reserved entered.memory called.memory) ∧
    ClearOf core.reserved (called.reg .rsp - 24) 24 ∧ core.event .writeIdt called = some m

theorem event_writeIdt (hclear : ClearOf core.reserved (m.reg .rsp - 24) 24)
    (hevent : core.event .writeIdt m = some n) :
    Keeps core.reserved m.memory n.memory ∧ n.idtr = { limit := 0xff, base := core.idt } := by
  obtain ⟨final, hfinal, hidtr, hmemory⟩ :=
    (returned_writeIdtOnCore core.image 0 core.fields m).exists_eq
  simp only [event, hfinal, Option.some.injEq] at hevent
  subst hevent
  exact ⟨hclear.keeps hmemory, hidtr⟩

theorem Started.prepared (hapart : core.Apart) (hstarted : core.Started saved m) :
    core.Prepared saved m := by
  obtain ⟨before, called, hlaid, hrsp, hrdi, hentered, hclear, hevent⟩ := hstarted
  obtain ⟨hwritten, hidtr⟩ := event_writeIdt hclear hevent
  have hjumped : Keeps core.reserved
      (before.memory.store (before.reg .rdi + 80) (before.reg .rsp)) called.memory := hentered
  rw [hrdi, hrsp] at hjumped
  have hsaved : Keeps core.data before.memory
      (before.memory.store (core.context + 80) saved) :=
    hapart.recoveryRsp.keeps fun _ hfar => store_of_le hfar
  have hkept := hjumped.trans hwritten
  refine ⟨(hlaid.keeps hsaved).keeps (keeps_data hkept), ?_, hidtr⟩
  rw [hkept.load (by simp [reserved]), load_store]

theorem Prepared.gateLoaded (hprepared : core.Prepared saved m) {vector : ℕ}
    (hvector : vector < 16) :
    GateLoaded vector (core.image.address (installedHandler vector)) m := by
  have hgate : gateAt m vector = idtEntry (core.image.address (installedHandler vector)) := by
    rw [gateAt, hprepared.idtr]
    exact (congrArg IdtEntry.ofBytes (hprepared.gates vector (by omega))).trans
      (IdtEntry.ofBytes_bytes _)
  constructor
  · rw [hprepared.idtr]
    change 16 * vector + 15 ≤ 255
    omega
  · rw [hgate]
    exact leadsTo_idtEntry _

/-- What a handler finds. -/
theorem Prepared.arrives (hprepared : core.Prepared saved m) (hapart : core.Apart) {vector : ℕ}
    {errorCode : UInt64} (hvector : vector < 256)
    (hroom : core.HasRoom (m.frameEntry (pushedErrorCode vector errorCode))) :
    Arrives ⟨core.image, core.context, core.info, m.frameEntry (pushedErrorCode vector errorCode)⟩
      vector errorCode m := by
  have hdata : ∀ address ∈ (⟨core.image, core.context, core.info,
      m.frameEntry (pushedErrorCode vector errorCode)⟩ : Workspace).data,
        (address, 8) ∈ core.reserved := by
    simp [Workspace.data, reserved, data, pointers]
  constructor
  case inTable => exact hvector
  case separate =>
    exact ⟨hroom.info, fun address haddress => hroom.reserved _ (hdata address haddress),
      fun address haddress => hapart.info _ (hdata address haddress)⟩
  case placed => exact ⟨hprepared.contextPtr, hprepared.faultInfo, hprepared.recovery⟩
  case entry => rfl

/-- A fault leaves the core prepared for the next one. -/
theorem Prepared.fault (hprepared : core.Prepared saved m) (hapart : core.Apart) {vector : ℕ}
    {errorCode : UInt64} (hroom : core.HasRoom (m.frameEntry (pushedErrorCode vector errorCode)))
    (hevent : core.event (.fault vector errorCode) m = some n) : core.Prepared saved n := by
  rw [event] at hevent
  split_ifs at hevent with hgate
  have hinside := hgate.inside
  have hlimit : m.idtr.limit.toNat = 255 := by
    rw [hprepared.idtr]
    rfl
  have hvector : vector < 256 := by omega
  have harrives := hprepared.arrives hapart hvector hroom
  obtain ⟨final, hfinal, hspares⟩ := (harrives.spares_deliver 0).exists_eq
  have hidtr := harrives.idtr_deliver 1
  rw [hfinal] at hidtr hevent
  simp only [Option.some.injEq] at hevent
  subst hevent
  exact hprepared.keeps (keeps_of_spares hapart hroom rfl rfl hspares)
    (hidtr.trans hprepared.idtr)

theorem Prepared.kept (hprepared : core.Prepared saved m) (hapart : core.Apart)
    {event : CoreEvent} (hcareful : core.Careful m event) (hevent : core.event event m = some n) :
    core.Prepared saved n := by
  cases event with
  | code after =>
      cases hevent
      exact hprepared.keeps hcareful.1 (hcareful.2.trans hprepared.idtr)
  | writeIdt =>
      obtain ⟨hkeeps, hidtr⟩ := event_writeIdt hcareful hevent
      exact hprepared.keeps hkeeps hidtr
  | recover =>
      rw [Core.event] at hevent
      split_ifs at hevent
      cases hevent
      exact hprepared.keeps (fun _ _ _ _ => rfl) hprepared.idtr
  | fault vector errorCode => exact hprepared.fault hapart hcareful hevent

/-! ## The handlers' exits -/

/-- The record. -/
def record (core : Core) (memory : AddressSpace) : CoreFaultInfo :=
  (⟨core.image, core.context, core.info, 0⟩ : Workspace).faultInfo memory

/-- The context of the other model shows what is in memory. -/
structure Shows (core : Core) (m : Cpu) (p : Pair) : Prop where
  faultInfo : p.context.faultInfo = some (core.record m.memory)
  recoveryRsp : p.context.recoveryRsp = m.memory.load (core.context + 80)

/-- A fault in a core function and its handler, in the other model. -/
def faultLabels (core : Core) (f : Fault) : List Pair.Label :=
  .ap (.fault (installedNumber f.vector)
    (f.recorded core.toStubCopy (core.record f.machine.memory))) :: List.replicate 3 (.ap .next)

/-- The code goes on behind the instruction, and so does the core function of
the other model. -/
structure GoesOn (core : Core) (f : Fault) (resumed : Cpu) : Prop where
  resumes : ResumesWithRcx f.machine resumed (core.workspace f).entry
  record : core.record resumed.memory =
    f.recorded core.toStubCopy (core.record f.machine.memory)
  refines : ∀ mode (p : Pair) (frame : CallFrame) (pc : BodyPc), p.ap.pc = .body frame pc →
    core.Shows f.machine p → ∃ q, Transition.exec (Pair.step mode) (core.faultLabels f) p = some q ∧
      core.Shows resumed q ∧ q.ap.pc = .body frame pc.resume

/-- The main loop starts again, with the RSP of its first start, and so does that
of the other model.  Behind the `iretq` of `proto_handler_8` that model is in no
core function any more. -/
structure StartsAgain (core : Core) (saved : UInt64) (f : Fault) (entered : Cpu) : Prop where
  rip : entered.rip = core.image.address .coreMainLoop
  rsp : entered.reg .rsp = saved
  rdi : entered.reg .rdi = core.context
  cs : entered.cs = f.machine.cs
  rflags : entered.rflags = f.machine.rflags
  ss : entered.ss = f.machine.ss
  record : core.record entered.memory =
    f.recorded core.toStubCopy (core.record f.machine.memory)
  refines : ∀ mode (p : Pair) (frame : CallFrame) (pc : BodyPc), p.ap.pc = .body frame pc →
    pc ≠ .behindHandler 8 → core.Shows f.machine p → ∃ q,
      Transition.exec (Pair.step mode) (core.faultLabels f ++ [.ap .next]) p = some q ∧
      core.Shows entered q ∧ q.ap.pc = .writeIdt ∧ q.ap.rsp = entered.reg .rsp

/-- The fault comes through the core's table, and its handler returns to the code
or, by the recovery stub, to the main loop. -/
def Handles (core : Core) (saved : UInt64) (f : Fault) : Prop :=
  (f.vector = 13 → ∃ resumed,
    core.event (.fault f.vector f.errorCode) f.machine = some resumed ∧ core.GoesOn f resumed) ∧
  (f.vector ≠ 13 → ∃ stub entered,
    core.event (.fault f.vector f.errorCode) f.machine = some stub ∧
      core.event .recover stub = some entered ∧ core.StartsAgain saved f entered)

theorem installedNumber_of_lt {vector : ℕ} (hvector : vector < 16) (hdouble : vector ≠ 8)
    (hprotection : vector ≠ 13) : installedNumber vector ≠ 13 ∧ installedNumber vector ≠ 8 := by
  interval_cases vector
  all_goals first | exact absurd rfl hdouble | exact absurd rfl hprotection | decide

/-- The other model on the way from the fault to `iretq`. -/
theorem exec_faultLabels {f : Fault} (mode : UnlockMode) {p : Pair} {frame : CallFrame}
    {pc : BodyPc} (hpc : p.ap.pc = .body frame pc) (hshows : core.Shows f.machine p) :
    ∃ q, Transition.exec (Pair.step mode) (core.faultLabels f) p = some q ∧
      q.context.faultInfo =
        some (f.recorded core.toStubCopy (core.record f.machine.memory)) ∧
      q.context.recoveryRsp = p.context.recoveryRsp ∧
      q.ap.pc = Pair.afterHandler frame pc (installedNumber f.vector) := by
  obtain ⟨info, hinfo⟩ : ∃ info, info =
      f.recorded core.toStubCopy (core.record f.machine.memory) := ⟨_, rfl⟩
  have hfault : Pair.step mode (.ap (.fault (installedNumber f.vector) info)) p =
      some (p.setApPc (.handlerStore frame pc (installedNumber f.vector) info)) := by
    simp only [Pair.step, Pair.apStep, hpc, Pair.bodyStep]
  rw [faultLabels, ← hinfo, Transition.exec, hfault, Option.bind_some]
  refine ⟨_, rfl, ?_, rfl, rfl⟩
  simp only [Pair.setFaultInfo, Pair.setApPc, hshows.faultInfo, Option.map_some]
  rw [hinfo]
  rfl

/-- A fault that the table reaches, up to `iretq`. -/
theorem Prepared.event_fault {f : Fault} (hprepared : core.Prepared saved f.machine)
    (hapart : core.Apart) (hvector : f.vector < 16)
    (hroom : core.HasRoom (f.machine.frameEntry (pushedErrorCode f.vector f.errorCode))) :
    ∃ final, deliver core.image 2 f.vector f.errorCode f.machine = .interruptReturned final ∧
      core.event (.fault f.vector f.errorCode) f.machine = some final.interruptReturn ∧
      core.Prepared saved final.interruptReturn ∧
      core.record final.memory =
        f.recorded core.toStubCopy (core.record f.machine.memory) := by
  have hreaches : f.Reaches core.toStubCopy := hprepared.arrives hapart (by omega) hroom
  have hrecorded := faultStep_eq hreaches rfl
  rw [faultStep] at hrecorded
  cases hrun : deliver core.image 2 f.vector f.errorCode f.machine with
  | interruptReturned final =>
      have hevent : core.event (.fault f.vector f.errorCode) f.machine =
          some final.interruptReturn := by
        rw [event, if_pos (hprepared.gateLoaded hvector), hrun]
      rw [hrun] at hrecorded
      simp only [if_true, Option.some.injEq] at hrecorded
      exact ⟨final, rfl, hevent, hprepared.fault hapart hroom hevent, hrecorded⟩
  | _ =>
      rw [hrun] at hrecorded
      cases hrecorded

theorem Prepared.goesOn {f : Fault} (hprepared : core.Prepared saved f.machine)
    (hapart : core.Apart) (hprotection : f.vector = 13)
    (hroom : core.HasRoom (f.machine.frameEntry (pushedErrorCode f.vector f.errorCode))) :
    ∃ resumed, core.event (.fault f.vector f.errorCode) f.machine = some resumed ∧
      core.GoesOn f resumed := by
  obtain ⟨final, hrun, hevent, hkept, hrecord⟩ :=
    hprepared.event_fault hapart (by omega) hroom
  have harrives := hprepared.arrives hapart (show f.vector < 256 by omega) hroom
  have hresumes : (deliver core.image 2 f.vector f.errorCode f.machine).Interrupted fun final =>
      ResumesWithRcx f.machine final.interruptReturn (core.workspace f).entry := by
    rw [StubCopy.workspace]
    rw [hprotection] at harrives ⊢
    exact resumesWithRcx_deliver harrives 0
  rw [hrun] at hresumes
  refine ⟨_, hevent, hresumes, hrecord, fun mode p frame pc hpc hshows => ?_⟩
  obtain ⟨q, hexec, hinfo, hrecovery, hafter⟩ := core.exec_faultLabels mode hpc hshows
  have hnumber : installedNumber f.vector = 13 := by
    rw [hprotection]
    decide
  refine ⟨q, hexec, ⟨?_, ?_⟩, ?_⟩
  · rw [hinfo, ← hrecord]
    rfl
  · rw [hrecovery, hshows.recoveryRsp, hprepared.recoveryRsp, hkept.recoveryRsp]
  · rw [hafter, hnumber]
    rfl

/-- The recovery stub, behind the handler's `iretq`. -/
theorem event_recover (hrip : m.rip = core.image.address .coreMainLoopStubRecovery) :
    ∃ entered, core.event .recover m = some entered ∧
      entered.rip = core.image.address .coreMainLoop ∧
      entered.reg = Function.update m.reg .rsp (m.memory.load (m.reg .rdi + 80)) ∧
      entered.cs = m.cs ∧ entered.rflags = m.rflags ∧ entered.ss = m.ss ∧
      entered.memory = m.memory := by
  rw [event, if_pos hrip]
  exact ⟨_, rfl, rfl, rfl, rfl, rfl, rfl, rfl⟩

theorem Prepared.startsAgain {f : Fault} (hprepared : core.Prepared saved f.machine)
    (hapart : core.Apart) (hvector : f.vector < 16) (hdouble : f.vector ≠ 8)
    (hprotection : f.vector ≠ 13)
    (hroom : core.HasRoom (f.machine.frameEntry (pushedErrorCode f.vector f.errorCode))) :
    ∃ stub entered, core.event (.fault f.vector f.errorCode) f.machine = some stub ∧
      core.event .recover stub = some entered ∧ core.StartsAgain saved f entered := by
  obtain ⟨final, hrun, hevent, hkept, hrecord⟩ := hprepared.event_fault hapart hvector hroom
  have harrives := hprepared.arrives hapart (show f.vector < 256 by omega) hroom
  have hmatches := harrives.interrupted_matchesFrame 0 (by
    simp only [List.mem_cons, List.not_mem_nil, or_false]
    omega)
  rw [hrun] at hmatches
  obtain ⟨hrip, hrdi⟩ := hmatches.recovery hdouble hprotection
  obtain ⟨entered, hrecover, henteredRip, hreg, hcs, hrflags, hss, hmemory⟩ :=
    core.event_recover hrip
  have hsaved : entered.memory.load (core.context + 80) = saved := by
    rw [hmemory, hkept.recoveryRsp]
  have hrsp : entered.reg .rsp = saved := by
    rw [hreg, Function.update_self, hrdi, hkept.recoveryRsp]
  refine ⟨_, entered, hevent, hrecover, ?_⟩
  constructor
  case rip => exact henteredRip
  case rsp => exact hrsp
  case rdi => rw [hreg, Function.update_of_ne (by decide), hrdi]
  case cs => rw [hcs, hmatches.cs]
  case rflags => rw [hrflags, hmatches.rflags]
  case ss => rw [hss, hmatches.ss]
  case record =>
    rw [hmemory]
    exact hrecord
  case refines =>
    intro mode p frame pc hpc hinside hshows
    obtain ⟨q, hexec, hinfo, hrecovery, hafter⟩ := core.exec_faultLabels mode hpc hshows
    obtain ⟨hnotProtection, hnotDouble⟩ := installedNumber_of_lt hvector hdouble hprotection
    have hstub : q.ap.pc = .stubRecovery := by
      rw [hafter, Pair.afterHandler, if_neg hnotProtection, if_neg]
      rintro (hnumber | ⟨-, hbehind⟩)
      · exact hnotDouble hnumber
      · exact hinside hbehind
    have hnext : Pair.step mode (.ap .next) q = some { q.endJob with
        ap := { q.ap with pc := .writeIdt, rsp := q.context.recoveryRsp } } := by
      simp only [Pair.step, Pair.apStep, hstub]
    have hrecoveryRsp : q.context.recoveryRsp = entered.memory.load (core.context + 80) := by
      rw [hrecovery, hshows.recoveryRsp, hprepared.recoveryRsp, hsaved]
    have hrun : Transition.exec (Pair.step mode) (core.faultLabels f ++ [.ap .next]) p =
        some { q.endJob with
          ap := { q.ap with pc := .writeIdt, rsp := q.context.recoveryRsp } } := by
      rw [Transition.exec_append, hexec, Option.bind_some, Transition.exec, hnext]
      rfl
    refine ⟨_, hrun, ⟨?_, hrecoveryRsp⟩, rfl, ?_⟩
    · rw [hmemory]
      exact hinfo.trans (congrArg some hrecord.symm)
    · rw [hrsp, ← hsaved]
      exact hrecoveryRsp

/-- From the stub on, whatever code has run and whatever faults have come, the
next fault is handled. -/
theorem always_handles (hapart : core.Apart) {past : List (Cpu × CoreEvent)}
    (hrun : Run (core.Started saved) core.event past m) (hcareful : EachStep core.Careful past) :
    Always (fun m => ∀ f : Fault, f.machine = m → f.vector < 16 → f.vector ≠ 8 →
      core.HasRoom (m.frameEntry (pushedErrorCode f.vector f.errorCode)) →
        core.Handles saved f) past m := by
  have halways : Always (core.Prepared saved) past m :=
    hrun.always (fun _ hstarted => hstarted.prepared hapart)
      (fun _ _ _ hprepared hcareful hevent => hprepared.kept hapart hcareful hevent) hcareful
  refine halways.mono fun m hprepared f hmachine hvector hdouble hroom => ?_
  subst hmachine
  exact ⟨fun hprotection => hprepared.goesOn hapart hprotection hroom,
    fun hprotection => hprepared.startsAgain hapart hvector hdouble hprotection hroom⟩

end Core

/-- The sample core with its table at 0x7000. -/
def sampleCore : Core where
  toStubCopy := sampleCopy
  idt := 0x7000

theorem clear_sampleCore_stack {start : UInt64} {length : ℕ}
    (hlow : (0x4000 : UInt64).toNat ≤ start.toNat)
    (hhigh : start.toNat + length ≤ (0x7000 : UInt64).toNat) :
    ClearOf sampleCore.reserved start length := by
  intro range hrange
  have hmem : range ∈ ([(0x3050, 8), (0x7000, 4096), (0x1000, 8), (0x3048, 8), (0x1008, 8)] :
      List (UInt64 × ℕ)) := hrange
  have hlimit : (0x7000 : UInt64).toNat ≤ 2 ^ 64 := by decide
  simp only [List.mem_cons, List.not_mem_nil, or_false] at hmem
  obtain rfl | rfl | rfl | rfl | rfl := hmem
  · exact disjoint_of_toNat_le (le_trans (by decide) hlow) (hhigh.trans hlimit)
  · exact (disjoint_of_toNat_le hhigh (by decide)).symm
  · exact disjoint_of_toNat_le (le_trans (by decide) hlow) (hhigh.trans hlimit)
  · exact disjoint_of_toNat_le (le_trans (by decide) hlow) (hhigh.trans hlimit)
  · exact disjoint_of_toNat_le (le_trans (by decide) hlow) (hhigh.trans hlimit)

theorem apart_sampleCore : sampleCore.Apart where
  recoveryRsp range hrange := by
    have hmem : range ∈ ([(0x7000, 4096), (0x1000, 8), (0x3048, 8), (0x1008, 8)] :
        List (UInt64 × ℕ)) := hrange
    simp only [List.mem_cons, List.not_mem_nil, or_false] at hmem
    obtain rfl | rfl | rfl | rfl := hmem
    · exact (disjoint_of_toNat_le (by decide) (by decide)).symm
    · exact disjoint_of_toNat_le (by decide) (by decide)
    · exact disjoint_of_toNat_le (by decide) (by decide)
    · exact disjoint_of_toNat_le (by decide) (by decide)
  info := clear_sampleCore_stack (by decide) (by decide)

theorem hasRoom_sampleCore {m : Cpu} (hrsp : m.reg .rsp = 0x5000) (code : Option UInt64) :
    sampleCore.HasRoom (m.frameEntry code) := by
  have hentry : m.frameEntry code = 0x4FD8 ∨ m.frameEntry code = 0x4FD0 := by
    cases code with
    | none => exact .inl (by rw [Cpu.frameEntry, hrsp]; decide)
    | some code => exact .inr (by rw [Cpu.frameEntry, hrsp, Option.isSome_some]; decide)
  obtain hentry | hentry := hentry
  · rw [hentry]
    exact ⟨clear_sampleCore_stack (by decide) (by decide),
      disjoint_of_toNat_le (by decide) (by decide)⟩
  · rw [hentry]
    exact ⟨clear_sampleCore_stack (by decide) (by decide),
      disjoint_of_toNat_le (by decide) (by decide)⟩

/-- The sample core is in front of the stub. -/
def beforeStub : Cpu :=
  { sampleMachine.setReg .rdi 0x3000 with
    memory := (initIdt sampleImage 0x7000 sampleMemory).2 }

theorem exists_started : ∃ m, sampleCore.Started 0x5000 m := by
  obtain ⟨called, hcalled⟩ : ∃ called : Cpu, called =
      { beforeStub with memory := beforeStub.memory.store (0x3000 + 80) 0x5000 } := ⟨_, rfl⟩
  obtain ⟨m, hwrite, -⟩ :=
    (returned_writeIdtOnCore sampleImage 0 sampleCore.fields called).exists_eq
  have hevent : sampleCore.event .writeIdt called = some m := by
    have hsame : writeIdtOnCore sampleCore.image 1 sampleCore.fields called = .returned m :=
      hwrite
    simp only [Core.event, hsame]
  have hclear : ClearOf sampleCore.pointers sampleCore.idt 4096 := by
    intro range hrange
    have hmem : range ∈ ([(0x1000, 8), (0x3048, 8), (0x1008, 8)] : List (UInt64 × ℕ)) := hrange
    simp only [List.mem_cons, List.not_mem_nil, or_false] at hmem
    obtain rfl | rfl | rfl := hmem
    · exact disjoint_of_toNat_le (by decide) (by decide)
    · exact disjoint_of_toNat_le (by decide) (by decide)
    · exact disjoint_of_toNat_le (by decide) (by decide)
  refine ⟨m, beforeStub, called, ?_, rfl, rfl, ?_, ?_, hevent⟩
  · exact Core.laid_initIdt hclear sampleMemory_contextPtr sampleMemory_faultInfo load_store
  · rw [hcalled]
    exact fun _ _ _ _ => rfl
  · rw [hcalled]
    exact clear_sampleCore_stack (by decide) (by decide)

theorem always_handles_sampleCore :
    ∃ past m, Run (sampleCore.Started 0x5000) sampleCore.event past m ∧
      EachStep sampleCore.Careful past ∧ past.length = 2 ∧
      ∃ f : Fault, f.machine = m ∧ f.vector = 6 ∧ sampleCore.Handles 0x5000 f := by
  obtain ⟨m, hstarted⟩ := exists_started
  obtain ⟨after, hafter⟩ : ∃ after : Cpu, after =
      { sampleMachine with idtr := m.idtr, memory := m.memory } := ⟨_, rfl⟩
  have hcode : Core.Careful sampleCore m (.code after) := by
    rw [hafter]
    exact ⟨fun _ _ _ _ => rfl, rfl⟩
  obtain ⟨first, hfirst⟩ : ∃ first : Fault, first.machine = after ∧ first.vector = 13 := by
    refine ⟨⟨after, 13, 0, ?_, ?_⟩, rfl, rfl⟩
    · rw [hafter]
      exact (sampleFault 13).supervisor
    · rw [hafter]
      exact (sampleFault 13).fixedFlag
  have hprepared : sampleCore.Prepared 0x5000 first.machine := by
    rw [hfirst.1]
    exact (hstarted.prepared apart_sampleCore).kept apart_sampleCore hcode rfl
  have hfirstRsp : first.machine.reg .rsp = 0x5000 := by
    rw [hfirst.1, hafter]
    rfl
  obtain ⟨resumed, hevent, hgoesOn⟩ := hprepared.goesOn apart_sampleCore hfirst.2
    (hasRoom_sampleCore hfirstRsp _)
  have hrsp : resumed.reg .rsp = 0x5000 := by
    rw [hgoesOn.resumes.reg, Function.update_of_ne (by decide),
      Function.update_of_ne (by decide), hfirstRsp]
  have hsupervisor : resumed.cs &&& 3 = 0 := by
    rw [hgoesOn.resumes.cs]
    exact first.supervisor
  have hfixed : resumed.rflags &&& 2 = 2 := by
    rw [hgoesOn.resumes.rflags]
    exact first.fixedFlag
  rw [hfirst.1] at hevent
  have hrun : Run (sampleCore.Started 0x5000) sampleCore.event
      [(after, .fault first.vector first.errorCode), (m, .code after)] resumed :=
    .next (.next (.start hstarted) rfl) hevent
  have hcareful : EachStep sampleCore.Careful
      [(after, .fault first.vector first.errorCode), (m, .code after)] := by
    rw [eachStep_cons, eachStep_cons]
    refine ⟨?_, hcode, eachStep_nil⟩
    rw [← hfirst.1]
    exact hasRoom_sampleCore hfirstRsp _
  refine ⟨_, resumed, hrun, hcareful, rfl, ⟨resumed, 6, 0, hsupervisor, hfixed⟩, rfl, rfl, ?_⟩
  exact (Core.always_handles apart_sampleCore hrun hcareful).1 _ rfl
    (show 6 < 16 by decide) (show 6 ≠ 8 by decide) (hasRoom_sampleCore hrsp _)

end AngryUefi.System
