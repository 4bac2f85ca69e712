import AngryUefi.Cores.BootCore
import AngryUefi.Cores.Waiting
import AngryUefi.Handlers.Emits

/-!
# The server runs the machine

What the handlers do to the cores is a run of the machine: the processors move
when the firmware lets them, core 0 serves one request after the other, and
between two messages it serves none.  What holds in every run of the machine
therefore holds while the server runs.
-/

namespace AngryUefi

open AngryUefi.Bytes AngryUefi.Programs AngryUefi.Transition

namespace Machine

/-- The machine can go from one state to the other. -/
def Moves (m n : Machine) : Prop := ∃ past, Run (· = m) Machine.move past n

theorem Moves.refl (m : Machine) : m.Moves m := ⟨[], .start rfl⟩

theorem Moves.trans {m n o : Machine} (hfirst : m.Moves n) (hsecond : n.Moves o) :
    m.Moves o := by
  obtain ⟨past, hrun⟩ := hfirst
  obtain ⟨more, hmore⟩ := hsecond
  exact ⟨more ++ past, hrun.trans hmore⟩

theorem Moves.single {m n : Machine} (move : Move) (hmove : Machine.move move m = some n) :
    m.Moves n := ⟨[(m, move)], .next (.start rfl) hmove⟩

theorem moves_runProcessors (choices : List (ℕ × ApChoice)) (m : Machine) :
    m.Moves (m.runProcessors choices) ∧ (m.runProcessors choices).core0 = m.core0 ∧
      (m.runProcessors choices).target = m.target := by
  induction choices generalizing m with
  | nil => exact ⟨.refl m, rfl, rfl⟩
  | cons choice choices ih =>
      simp only [runProcessors]
      cases hstep : m.step .twoStep (.ap choice.1 choice.2) with
      | none => exact ih m
      | some n =>
          have hsingle : m.Moves n := .single (.step (.ap choice.1 choice.2)) hstep
          obtain ⟨hcore0, htarget⟩ := core0_of_apStep hstep
          obtain ⟨hmoves, hcore0s, htargets⟩ := ih n
          exact ⟨hsingle.trans hmoves, hcore0s.trans hcore0, htargets.trans htarget⟩

theorem moves_core0Move {coreId : ℕ} {choice : Core0Choice} {m n : Machine}
    (hturn : coreId = m.target ∨ m.core0.pc.live = false)
    (hmove : m.core0Move coreId choice = some n) : m.Moves n ∧ n.target = coreId := by
  constructor
  · by_cases hboot : coreId = 0
    · subst hboot
      exact .single (.boot choice) ((if_pos hturn).trans hmove)
    · exact .single (.step (.core0 coreId choice))
        ((core0Move_eq_step hboot hturn).symm.trans hmove)
  · simp only [core0Move, Option.map_eq_some_iff] at hmove
    obtain ⟨p, -, rfl⟩ := hmove
    rfl

end Machine

namespace Handlers

section OnMachine

/-- A relation between machines, of what the handlers leave of theirs. -/
def OnMachine (relation : Machine → Machine → Prop) (s t : Server) : Prop :=
  relation s.machine t.machine

variable {firmware : Firmware} {relation : Machine → Machine → Prop}
variable [IsPreorder Machine relation]

instance : IsPreorder Server (OnMachine relation) where
  refl s := refl_of relation s.machine
  trans _ _ _ hleft hright := trans_of relation hleft hright

theorem onMachine_of_machine {s t : Server} (hmachine : t.machine = s.machine) :
    OnMachine relation s t := by
  rw [OnMachine, hmachine]
  exact refl_of relation s.machine

theorem onMachine_modify {change : Server → Server}
    (hmachine : ∀ s, (change s).machine = s.machine) :
    Guarantees firmware (OnMachine relation) (modify change : Handler PUnit) :=
  Guarantees.modify fun s => onMachine_of_machine (hmachine s)

theorem onMachine_ask : Guarantees firmware (OnMachine relation) ask := by
  refine Guarantees.get.bind fun _ => Guarantees.bind ?_ fun _ => Guarantees.pure _
  exact onMachine_modify fun _ => rfl

theorem onMachine_formatPrint (text : String) (arguments : List UInt64) :
    Guarantees firmware (OnMachine relation) (formatPrint text arguments) :=
  Guarantees.read.bind fun _ => onMachine_modify fun _ => rfl

/-- Apart from requests, a handler changes of the machine only what the
processors do and what else becomes of core 0's stack. -/
theorem reading_onMachine
    (hprocessors : ∀ choices (m : Machine), relation m (m.runProcessors choices))
    (hstack : ∀ stack (m : Machine), relation m { m with stack }) (kind : Access → Prop) :
    Reading firmware (OnMachine relation) kind where
  ask := onMachine_ask
  formatPrint := onMachine_formatPrint
  copyToPayload _ _ := onMachine_modify fun _ => rfl
  respond _ _ _ _ _ _ hreport _ := guarantees_respond onMachine_ask onMachine_formatPrint
    (fun _ => onMachine_modify fun _ => rfl) (fun _ _ => onMachine_of_machine rfl) hreport
    _ _ _ _ _
  runProcessors := onMachine_ask.bind fun _ => Guarantees.read.bind fun _ =>
    Guarantees.modify fun s => hprocessors _ s.machine
  useStack := onMachine_ask.bind fun _ => Guarantees.read.bind fun _ =>
    Guarantees.modify fun s => hstack _ s.machine
  access _ _ := onMachine_modify fun _ => rfl
  update table _ _ _ := onMachine_modify fun _ => by cases table <;> rfl
  writeSlot table _ _ _ _ := by
    refine Guarantees.bind (onMachine_modify fun _ => rfl) fun _ => Guarantees.modify fun _ => ?_
    exact onMachine_of_machine (by cases table <;> rfl)

end OnMachine

/-- From a state between two messages, the machine moves to one. -/
def MovesBetween (m n : Machine) : Prop :=
  m.core0.pc.live = false → m.Moves n ∧ n.core0.pc.live = false

instance : IsPreorder Machine MovesBetween where
  refl m hidle := ⟨.refl m, hidle⟩
  trans _ _ _ hleft hright hidle := by
    obtain ⟨hfirst, hbetween⟩ := hleft hidle
    obtain ⟨hsecond, hafter⟩ := hright hbetween
    exact ⟨hfirst.trans hsecond, hafter⟩

abbrev Moved : Server → Server → Prop := OnMachine MovesBetween

variable {firmware : Firmware}

theorem reading_moved (kind : Access → Prop) : Reading firmware Moved kind := by
  refine reading_onMachine (fun choices m hidle => ?_) (fun stack m hidle => ⟨?_, hidle⟩) kind
  · obtain ⟨hmoves, hcore0, -⟩ := Machine.moves_runProcessors choices m
    exact ⟨hmoves, by rw [hcore0]; exact hidle⟩
  · exact .single (.useStack stack) (if_pos hidle)

/-- Core 0 serves the request until it has a result. -/
theorem moves_runCore0 {coreId : UInt64} {patience : ℕ} {s t : Server} {result : HandlerResult}
    (htarget : s.machine.target = coreId.toNat)
    (hrun : runCore0 coreId patience firmware s = some (result, t)) :
    s.machine.Moves t.machine ∧ t.machine.core0.pc.live = false := by
  induction patience generalizing s with
  | zero => cases hrun
  | succ patience ih =>
      obtain ⟨_, ran, hran, hrest⟩ := bind_eq_some_iff.mp hrun
      have hschedule : ran.machine =
          s.machine.runProcessors (firmware.schedule s.clock) := by
        cases hran
        rfl
      obtain ⟨hmoves, hcore0, hsame⟩ :=
        Machine.moves_runProcessors (firmware.schedule s.clock) s.machine
      rw [← hschedule] at hmoves hcore0 hsame
      obtain ⟨number, looked, hask, hrest⟩ := bind_eq_some_iff.mp hrest
      cases hask
      obtain ⟨_, _, hread, hrest⟩ := bind_eq_some_iff.mp hrest
      cases hread
      obtain ⟨_, _, hget, hrest⟩ := bind_eq_some_iff.mp hrest
      cases hget
      dsimp only at hrest
      generalize hpc : ran.machine.core0.pc = pc at hrest
      split at hrest
      · rename_i hpc
        cases hrest
        exact ⟨hmoves, by rw [hpc]; rfl⟩
      · obtain ⟨_, moved, hmove, hrest⟩ := bind_eq_some_iff.mp hrest
        obtain ⟨machine, hstep, rfl⟩ := core0Move_eq_some hmove
        have hturn : coreId.toNat = ran.machine.target := (hsame.trans htarget).symm
        obtain ⟨hmoved, htargeted⟩ := Machine.moves_core0Move (.inl hturn) hstep
        obtain ⟨hlater, hidle⟩ := ih htargeted hrest
        exact ⟨(hmoves.trans hmoved).trans hlater, hidle⟩

theorem moved_runRequest (coreId : UInt64) (request : Request) :
    Guarantees firmware Moved (runRequest coreId request) := by
  intro s result t hrun hidle
  obtain ⟨_, _, hread, hrest⟩ := bind_eq_some_iff.mp hrun
  cases hread
  obtain ⟨_, begun, hmove, hserve⟩ := bind_eq_some_iff.mp hrest
  obtain ⟨machine, hstep, rfl⟩ := core0Move_eq_some hmove
  obtain ⟨hmoved, htarget⟩ := Machine.moves_core0Move (.inr hidle) hstep
  obtain ⟨hserved, hafter⟩ := moves_runCore0 htarget hserve
  exact ⟨hmoved.trans hserved, hafter⟩

theorem requesting_moved (kind : Access → Prop) : Requesting firmware Moved kind where
  toReading := reading_moved kind
  runRequest coreId request _ := moved_runRequest coreId request

theorem names_all (limit : UInt64) (request : Option MessageType) (payload : Memory)
    (payloadLength : UInt64) : Names (fun _ => True) limit request payload payloadLength :=
  Kept.names covers_all (admits_all _ _ _ _)

end Handlers

end AngryUefi
