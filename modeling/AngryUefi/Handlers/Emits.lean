import AngryUefi.Handlers.Outbound
import AngryUefi.Cores.Capture

/-!
# What a program sends

The events that a program adds to the trace, composed along its text.  Whether
a message fits the response buffer depends on two sizes that no request
changes, those of `FormatBuffer` and of the result buffers of the cores, and on
the events a core has captured, which only jobs on that core change.
-/

namespace AngryUefi

open AngryUefi.Bytes AngryUefi.Framing AngryUefi.Programs

/-- Characters of `FormatBuffer`. -/
def formatBufferLength : ℕ := 128

/-- `RESULT_BUFFER_SIZE` -/
def resultBufferSize : UInt64 := 1 * 1024

/-- `UnicodeSPrint` stays inside the `sizeof(FormatBuffer)` bytes it is given,
the terminator included. -/
def Firmware.Prints (firmware : Firmware) : Prop :=
  ∀ text arguments, (firmware.unicodeSPrint text arguments).length < formatBufferLength

/-! ## What jobs capture -/

/-- The jobs on the core's processor leave its captured events alone. -/
def Firmware.LeavesEvents (firmware : Firmware) (coreId : ℕ) : Prop :=
  ∀ number choice, (coreId, choice) ∈ firmware.schedule number → choice.captured = []

/-- A job makes this store to the captured events of the core: one on its
processor, or one that core 0 runs itself. -/
inductive Firmware.Stores (firmware : Firmware) (coreId : ℕ) (store : CaptureStore) : Prop
  | processor {number : ℕ} {choice : ApChoice}
      (hchoice : (coreId, choice) ∈ firmware.schedule number) (hstore : store ∈ choice.captured)
  | bootCore {number : ℕ} (hstore : store ∈ (firmware.core0Choice number).captured)

namespace Handlers

theorem leavesEvents_loopback (coreId : ℕ) : loopback.LeavesEvents coreId := by
  rintro number choice ⟨⟩

theorem not_stores_loopback (coreId : ℕ) (store : CaptureStore) :
    ¬ loopback.Stores coreId store := by
  intro hstore
  cases hstore with
  | processor hchoice => cases hchoice
  | bootCore hstore => cases hstore

/-! ## What no request changes -/

/-- The text is inside `FormatBuffer`, and the cores' buffers hold what they
held or what jobs have stored there. -/
structure Steady (firmware : Firmware) (s t : Server) : Prop where
  captured : s.machine.StoredBy firmware.Stores t.machine
  formatBuffer : s.formatBuffer.length < formatBufferLength →
    t.formatBuffer.length < formatBufferLength

instance {firmware : Firmware} : IsPreorder Server (Steady firmware) where
  refl _ := ⟨.rfl, id⟩
  trans _ _ _ hleft hright :=
    ⟨hleft.captured.trans hright.captured, hright.formatBuffer ∘ hleft.formatBuffer⟩

/-- Nothing is sent meanwhile. -/
structure Silent (firmware : Firmware) (s t : Server) : Prop extends Steady firmware s t where
  trace : t.trace = s.trace

instance {firmware : Firmware} : IsPreorder Server (Silent firmware) where
  refl s := ⟨refl_of (Steady firmware) s, rfl⟩
  trans _ _ _ hleft hright :=
    ⟨trans_of (Steady firmware) hleft.toSteady hright.toSteady,
      hright.trace.trans hleft.trace⟩

theorem silent_of_machine {firmware : Firmware} {s t : Server}
    (hmachine : t.machine = s.machine) (hformat : t.formatBuffer = s.formatBuffer)
    (htrace : t.trace = s.trace) : Silent firmware s t :=
  ⟨⟨hmachine ▸ .rfl, fun hlength => hformat ▸ hlength⟩, htrace⟩

/-- What is stored while the processors run is what their jobs store. -/
theorem storedBy_runProcessors (choices : List (ℕ × ApChoice)) (machine : Machine) :
    machine.StoredBy
        (fun coreId store => ∃ choice, (coreId, choice) ∈ choices ∧ store ∈ choice.captured)
        (machine.runProcessors choices) ∧
      (machine.runProcessors choices).core0 = machine.core0 := by
  induction choices generalizing machine with
  | nil => exact ⟨.rfl, rfl⟩
  | cons choice choices ih =>
      simp only [Machine.runProcessors]
      cases hstep : machine.step .twoStep (.ap choice.1 choice.2) with
      | none =>
          obtain ⟨hrest, hcore0⟩ := ih machine
          refine ⟨hrest.mono ?_, hcore0⟩
          rintro coreId store ⟨later, hlater, hstore⟩
          exact ⟨later, List.mem_cons_of_mem _ hlater, hstore⟩
      | some middle =>
          obtain ⟨hfirst, hkept⟩ := Machine.storedBy_apStep hstep
          obtain ⟨hrest, hcore0⟩ := ih middle
          refine ⟨(hfirst.mono ?_).trans (hrest.mono ?_), hcore0.trans hkept⟩
          · rintro coreId store ⟨rfl, hstore⟩
            exact ⟨choice.2, List.mem_cons_self, hstore⟩
          · rintro coreId store ⟨later, hlater, hstore⟩
            exact ⟨later, List.mem_cons_of_mem _ hlater, hstore⟩

theorem captured_runProcessors (firmware : Firmware) (number : ℕ) (machine : Machine) :
    machine.StoredBy firmware.Stores (machine.runProcessors (firmware.schedule number)) := by
  apply (storedBy_runProcessors (firmware.schedule number) machine).1.mono
  rintro coreId store ⟨choice, hchoice, hstore⟩
  exact .processor hchoice hstore

theorem sameCapture_runProcessors {firmware : Firmware} {coreId : ℕ}
    (hleaves : firmware.LeavesEvents coreId) (number : ℕ) (machine : Machine) :
    (machine.contexts coreId).SameCapture
      ((machine.runProcessors (firmware.schedule number)).contexts coreId) := by
  apply (storedBy_runProcessors (firmware.schedule number) machine).1.sameCapture
  rintro store ⟨choice, hchoice, hstore⟩
  rw [hleaves number choice hchoice] at hstore
  cases hstore

theorem storedBy_core0Move {machine next : Machine} {coreId : ℕ} {choice : Core0Choice}
    (hmove : machine.core0Move coreId choice = some next) :
    machine.StoredBy (fun other store => other = coreId ∧ store ∈ choice.captured) next := by
  obtain ⟨p, hp, rfl⟩ := Option.map_eq_some_iff.mp hmove
  exact Machine.storedBy_core0Step hp

theorem captured_core0Move {firmware : Firmware} {machine next : Machine} {coreId : ℕ}
    {choice : Core0Choice} (hchoice : firmware.Chooses choice)
    (hmove : machine.core0Move coreId choice = some next) :
    machine.StoredBy firmware.Stores next := by
  apply (storedBy_core0Move hmove).mono
  rintro other store ⟨-, hstore⟩
  cases hchoice with
  | next => cases hstore
  | request => cases hstore
  | asked number => exact .bootCore hstore

section Silent

variable {firmware : Firmware}

theorem silent_modify {change : Server → Server} (hmachine : ∀ s, (change s).machine = s.machine)
    (hformat : ∀ s, (change s).formatBuffer = s.formatBuffer)
    (htrace : ∀ s, (change s).trace = s.trace) :
    Guarantees firmware (Silent firmware) (modify change : Handler PUnit) :=
  Guarantees.modify fun s => silent_of_machine (hmachine s) (hformat s) (htrace s)

theorem silent_ask : Guarantees firmware (Silent firmware) ask := by
  refine Guarantees.get.bind fun _ => Guarantees.bind ?_ fun _ => Guarantees.pure _
  apply silent_modify <;> intro s <;> rfl

theorem silent_access (element : Access) : Guarantees firmware (Silent firmware) (access element) :=
  silent_modify (fun _ => rfl) (fun _ => rfl) fun _ => rfl

theorem silent_runProcessors : Guarantees firmware (Silent firmware) runProcessors := by
  refine silent_ask.bind fun number => Guarantees.read.bind_of_returns Returns.read ?_
  rintro environment henvironment
  subst henvironment
  exact Guarantees.modify fun s => ⟨⟨captured_runProcessors _ _ _, id⟩, rfl⟩

theorem measured_core0Move {machine next : Machine} {coreId : ℕ} {choice : Core0Choice}
    (hmeasured : machine.core0.pc.Measured (machine.contexts coreId).resultBufferLen)
    (hmove : machine.core0Move coreId choice = some next) :
    next.core0.pc.Measured (machine.contexts coreId).resultBufferLen := by
  obtain ⟨p, hp, rfl⟩ := Option.map_eq_some_iff.mp hmove
  exact Pair.measured_core0Step hmeasured hp

/-- At the start of a request there is nothing to measure. -/
theorem measured_request {machine next : Machine} {coreId : ℕ} {request : Request}
    (length : UInt64) (hmove : machine.core0Move coreId (.request request) = some next) :
    next.core0.pc.Measured length := by
  obtain ⟨p, hp, rfl⟩ := Option.map_eq_some_iff.mp hmove
  change p.core0.pc.Measured length
  simp only [Pair.core0Step] at hp
  split at hp
  · rename_i hchoice
    cases hchoice
    cases hp
    cases request <;> trivial
  all_goals first
    | (rename_i hchoice; cases hchoice)
    | cases hp

/-- What `core0Move` does to the state. -/
theorem core0Move_eq_some {firmware : Firmware} {coreId : UInt64} {choice : Core0Choice}
    {s t : Server} (hrun : core0Move coreId choice firmware s = some ((), t)) :
    ∃ machine, s.machine.core0Move coreId.toNat choice = some machine ∧ t.machine = machine := by
  obtain ⟨_, middle, haccess, hrest⟩ := bind_eq_some_iff.mp hrun
  cases haccess
  obtain ⟨_, _, hget, hlast⟩ := bind_eq_some_iff.mp hrest
  cases hget
  cases hmove : s.machine.core0Move coreId.toNat choice with
  | none =>
      rw [hmove] at hlast
      cases hlast
  | some machine =>
      rw [hmove] at hlast
      cases hlast
      exact ⟨machine, rfl, rfl⟩

theorem silent_core0Move (coreId : UInt64) {choice : Core0Choice}
    (hchoice : firmware.Chooses choice) :
    Guarantees firmware (Silent firmware) (core0Move coreId choice) := by
  apply (silent_access _).bind
  rintro ⟨⟩ s result t hrun
  obtain ⟨_, _, hget, hrest⟩ := bind_eq_some_iff.mp hrun
  cases hget
  cases hmove : s.machine.core0Move coreId.toNat choice with
  | none =>
      rw [hmove] at hrest
      cases hrest
  | some machine =>
      rw [hmove] at hrest
      cases hrest
      exact ⟨⟨captured_core0Move hchoice hmove, id⟩, rfl⟩

/-- Only a response is ever sent. -/
theorem working_silent (hprints : firmware.Prints) (kind : Access → Prop) :
    Working firmware (Silent firmware) kind where
  ask := silent_ask
  formatPrint text arguments := by
    refine Guarantees.read.bind_of_returns Returns.read ?_
    rintro _ rfl
    exact Guarantees.modify fun _ => ⟨⟨.rfl, fun _ => hprints text arguments⟩, rfl⟩
  copyToPayload _ _ := silent_modify (fun _ => rfl) (fun _ => rfl) fun _ => rfl
  runProcessors := silent_runProcessors
  useStack := by
    refine silent_ask.bind fun number => Guarantees.read.bind fun environment => ?_
    exact Guarantees.modify fun _ => ⟨⟨.rfl, id⟩, rfl⟩
  access _ _ := silent_access _
  core0Move _ _ _ hchoice := silent_core0Move _ hchoice
  update table _ _ := by
    apply silent_modify <;> intro s <;> cases table <;> rfl
  writeSlot table _ _ _ _ := by
    apply (silent_access _).bind
    intro _
    apply silent_modify <;> intro s <;> cases table <;> rfl

theorem steady_modify {change : Server → Server} (hmachine : ∀ s, (change s).machine = s.machine)
    (hformat : ∀ s, (change s).formatBuffer = s.formatBuffer) :
    Guarantees firmware (Steady firmware) (modify change : Handler PUnit) :=
  Guarantees.modify fun s => ⟨hmachine s ▸ .rfl, fun hlength => hformat s ▸ hlength⟩

theorem steady_respond (hprints : firmware.Prints) {report : String → EfiStatus → Handler Unit}
    (hreport : Reports report) (messageType : MessageType) (payload : Memory)
    (payloadLength messageSize : UInt64) (lastMessage : Bool) :
    Guarantees firmware (Steady firmware)
      (respond report messageType payload payloadLength messageSize lastMessage) := by
  have hsteady : ∀ {s t : Server}, Silent firmware s t → Steady firmware s t :=
    fun hsilent => hsilent.toSteady
  have hformat := (working_silent hprints fun _ => True).formatPrint
  apply guarantees_respond (silent_ask.mono fun _ _ => hsteady)
    (fun text arguments => (hformat text arguments).mono fun _ _ => hsteady)
    (fun _ => steady_modify (fun _ => rfl) fun _ => rfl) _ hreport
  intro s responseBuffer
  exact ⟨.rfl, id⟩

/-- Every handler leaves the sizes as they are. -/
theorem kept_steady (hprints : firmware.Prints) (kind : Access → Prop) :
    Kept firmware (Steady firmware) kind :=
  have hworking := working_silent hprints kind
  have hsteady : ∀ s t, Silent firmware s t → Steady firmware s t := fun _ _ => Silent.toSteady
  { ask := hworking.ask.mono hsteady
    formatPrint := fun text arguments => (hworking.formatPrint text arguments).mono hsteady
    copyToPayload := fun offset bytes => (hworking.copyToPayload offset bytes).mono hsteady
    respond := fun _ _ _ _ _ _ hreport _ => steady_respond hprints hreport _ _ _ _ _
    runProcessors := hworking.runProcessors.mono hsteady
    useStack := hworking.useStack.mono hsteady
    access := fun element hkind => (hworking.access element hkind).mono hsteady
    core0Move := fun coreId choice hkind hchoice =>
      (hworking.core0Move coreId choice hkind hchoice).mono hsteady
    update := fun table slot change => (hworking.update table slot change).mono hsteady
    writeSlot := fun table slot start bytes hkind =>
      (hworking.writeSlot table slot start bytes hkind).mono hsteady }

end Silent

theorem ibsPosition_eq {before after : CoreContext} (hcapture : before.SameCapture after) :
    ibsPosition after = ibsPosition before := by
  have hposition := congrArg (Option.map Prod.snd) hcapture.ibsEvents
  simp only [Option.map_map] at hposition
  exact congrArg (Option.getD · 0) hposition

theorem dsmItems_eq {before after : CoreContext} (hcapture : before.SameCapture after) :
    dsmItems after = dsmItems before := by
  simp only [dsmItems, hcapture.dsmControl]

/-- Core 0's result is as long as the core's buffer. -/
theorem measured_runCore0 {firmware : Firmware} {coreId : UInt64} {patience : ℕ}
    {s t : Server} {result : HandlerResult} {length : UInt64}
    (hlength : (s.machine.contexts coreId.toNat).resultBufferLen = length)
    (hmeasured : s.machine.core0.pc.Measured length)
    (hrun : runCore0 coreId patience firmware s = some (result, t)) :
    (Core0Pc.returned result).Measured length := by
  induction patience generalizing s with
  | zero => cases hrun
  | succ patience ih =>
      obtain ⟨_, ran, hran, hrest⟩ := bind_eq_some_iff.mp hrun
      have hran : (ran.machine.contexts coreId.toNat).resultBufferLen = length ∧
          ran.machine.core0.pc.Measured length := by
        cases hran
        obtain ⟨hstored, hcore0⟩ :=
          storedBy_runProcessors (firmware.schedule s.clock) s.machine
        exact ⟨(hstored.resultBufferLen coreId.toNat).trans hlength, hcore0 ▸ hmeasured⟩
      obtain ⟨_, asked, hasked, hrest⟩ := bind_eq_some_iff.mp hrest
      cases hasked
      obtain ⟨_, _, hread, hrest⟩ := bind_eq_some_iff.mp hrest
      cases hread
      obtain ⟨_, _, hget, hrest⟩ := bind_eq_some_iff.mp hrest
      cases hget
      dsimp only at hrest
      generalize hpc : ran.machine.core0.pc = pc at hrest
      split at hrest
      · cases hrest
        rw [← hpc]
        exact hran.2
      · obtain ⟨_, moved, hmoved, hrest⟩ := bind_eq_some_iff.mp hrest
        obtain ⟨machine, hmove, rfl⟩ := core0Move_eq_some hmoved
        obtain ⟨hbefore, hpcMeasured⟩ := hran
        refine ih ?_ ?_ hrest
        · exact ((storedBy_core0Move hmove).resultBufferLen coreId.toNat).trans hbefore
        · subst hbefore
          exact measured_core0Move hpcMeasured hmove

theorem measured_runRequest {firmware : Firmware} {coreId : UInt64} {request : Request}
    {s t : Server} {result : HandlerResult}
    (hrun : runRequest coreId request firmware s = some (result, t)) :
    (Core0Pc.returned result).Measured (s.machine.contexts coreId.toNat).resultBufferLen := by
  obtain ⟨_, _, hread, hrest⟩ := bind_eq_some_iff.mp hrun
  cases hread
  obtain ⟨_, moved, hmoved, hrest⟩ := bind_eq_some_iff.mp hrest
  obtain ⟨machine, hmove, rfl⟩ := core0Move_eq_some hmoved
  exact measured_runCore0 ((storedBy_core0Move hmove).resultBufferLen coreId.toNat)
    (measured_request _ hmove) hrest

/-! ## The messages of a program -/

/-- Whether the messages were constructed as the last ones. -/
def lastFlags (events : List Event) : List Bool :=
  (constructedTriples events).map fun triple => triple.2.2

/-- The messages are sent as frames, with these flags. -/
structure Flagged (flags : List Bool) (events : List Event) : Prop where
  paired : Paired events
  lastFlags_eq : lastFlags events = flags

theorem Flagged.nil : Flagged [] [] := ⟨.nil, rfl⟩

theorem Flagged.append {left right : List Bool} {before after : List Event}
    (hbefore : Flagged left before) (hafter : Flagged right after) :
    Flagged (left ++ right) (before ++ after) := by
  refine ⟨hbefore.paired.append hafter.paired, ?_⟩
  rw [← hbefore.lastFlags_eq, ← hafter.lastFlags_eq]
  simp only [lastFlags, constructedTriples, List.filterMap_append, List.map_append]

variable {Result Next : Type}

/-- From every state that `origin` may have become, the program adds such events
to the trace. -/
def Emits (firmware : Firmware) (origin : Server) (outcome : Result → List Event → Prop)
    (program : Handler Result) : Prop :=
  ∀ s, Steady firmware origin s → ∀ result t, program firmware s = some (result, t) →
    Steady firmware origin t ∧ ∃ events, t.trace = s.trace ++ events ∧ outcome result events

namespace Emits

variable {firmware : Firmware} {origin : Server}

theorem mono {outcome weaker : Result → List Event → Prop} {program : Handler Result}
    (hprogram : Emits firmware origin outcome program)
    (himplies : ∀ result events, outcome result events → weaker result events) :
    Emits firmware origin weaker program := by
  intro s hsteady result t hrun
  obtain ⟨hafter, events, htrace, houtcome⟩ := hprogram s hsteady result t hrun
  exact ⟨hafter, events, htrace, himplies result events houtcome⟩

theorem failure {outcome : Result → List Event → Prop} :
    Emits firmware origin outcome (failure : Handler Result) := by
  rintro s _ result t ⟨⟩

theorem pure {outcome : Result → List Event → Prop} {result : Result}
    (houtcome : outcome result []) :
    Emits firmware origin outcome (pure result : Handler Result) := by
  rintro s hsteady _ t ⟨⟩
  exact ⟨hsteady, [], (List.append_nil _).symm, houtcome⟩

theorem get : Emits firmware origin (fun s events => events = [] ∧ Steady firmware origin s)
    (get : Handler Server) := by
  rintro s hsteady _ t ⟨⟩
  exact ⟨hsteady, [], (List.append_nil _).symm, rfl, hsteady⟩

theorem read : Emits firmware origin (fun result events => events = [] ∧ result = firmware)
    (read : Handler Firmware) := by
  rintro s hsteady _ t ⟨⟩
  exact ⟨hsteady, [], (List.append_nil _).symm, rfl, rfl⟩

theorem of_silent {program : Handler Result}
    (hsilent : Guarantees firmware (Silent firmware) program) :
    Emits firmware origin (fun _ events => events = []) program := by
  intro s hsteady result t hrun
  have hafter := hsilent s result t hrun
  have hthen := trans_of (Steady firmware) hsteady hafter.toSteady
  exact ⟨hthen, [], by rw [hafter.trace, List.append_nil], rfl⟩

theorem bind {first : Result → List Event → Prop} {outcome : Next → List Event → Prop}
    {program : Handler Result} {next : Result → Handler Next}
    (hprogram : Emits firmware origin first program)
    (hnext : ∀ result events, first result events →
      Emits firmware origin (fun final later => outcome final (events ++ later)) (next result)) :
    Emits firmware origin outcome (program >>= next) := by
  intro s hsteady result t hrun
  obtain ⟨known, middle, hfirst, hrest⟩ := bind_eq_some_iff.mp hrun
  obtain ⟨hmiddle, events, htrace, hknown⟩ := hprogram s hsteady known middle hfirst
  obtain ⟨hafter, later, hlater, houtcome⟩ :=
    hnext known events hknown middle hmiddle result t hrest
  refine ⟨hafter, events ++ later, ?_, houtcome⟩
  rw [hlater, htrace, List.append_assoc]

/-- What comes first sends nothing. -/
theorem silent_bind {outcome : Next → List Event → Prop} {program : Handler Result}
    {next : Result → Handler Next} (hprogram : Guarantees firmware (Silent firmware) program)
    (hnext : ∀ result, Emits firmware origin outcome (next result)) :
    Emits firmware origin outcome (program >>= next) := by
  apply (of_silent hprogram).bind
  rintro result _ rfl
  exact hnext result

/-- What comes first sends nothing and returns such a result. -/
theorem known_bind {known : Result → Prop} {outcome : Next → List Event → Prop}
    {program : Handler Result} {next : Result → Handler Next}
    (hprogram : Emits firmware origin (fun result events => events = [] ∧ known result) program)
    (hnext : ∀ result, known result → Emits firmware origin outcome (next result)) :
    Emits firmware origin outcome (program >>= next) := by
  apply hprogram.bind
  rintro result _ ⟨rfl, hresult⟩
  exact hnext result hresult

end Emits

/-- One message was sent. -/
structure Sent (lastMessage : Bool) (status : EfiStatus) (events : List Event) : Prop where
  status_eq : status = .success
  flagged : Flagged [lastMessage] events

/-- Some messages and a last one. -/
def Replied (_status : EfiStatus) (events : List Event) : Prop :=
  ∃ more, Flagged (List.replicate more false ++ [true]) events

theorem Sent.replied {status : EfiStatus} {events : List Event}
    (hsent : Sent true status events) (any : EfiStatus) : Replied any events :=
  ⟨0, hsent.flagged⟩

/-- One more message before the reply. -/
theorem Replied.after {status any : EfiStatus} {events later : List Event}
    (hsent : Sent false status events) (hreplied : Replied any later) :
    Replied any (events ++ later) := by
  obtain ⟨more, hflagged⟩ := hreplied
  exact ⟨more + 1, hsent.flagged.append hflagged⟩

/-- Some messages that are not the last one, then nothing that is a message. -/
def Unfinished (_status : EfiStatus) (events : List Event) : Prop :=
  ∃ more opening rest, events = opening ++ rest ∧ Flagged (List.replicate more false) opening ∧
    (sentBytes rest).length < 12

theorem unfinished_of_silent {events : List Event} (hevents : sentBytes events = [])
    (status : EfiStatus) : Unfinished status events :=
  ⟨0, [], events, rfl, .nil, by rw [hevents]; decide⟩

end Handlers

end AngryUefi
