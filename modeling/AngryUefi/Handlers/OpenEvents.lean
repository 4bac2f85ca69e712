import AngryUefi.Handlers.Protocol
import AngryUefi.Lib.Transition
import AngryUefi.Net.Receive
import Mathlib.Data.Finset.Card

/-!
# Open events

`receive_chunk` and `send_message` with the events they create for their tokens.
Every exit closes the event but one: a transmission that succeeds.
-/

namespace AngryUefi

open AngryUefi.Bytes AngryUefi.Programs AngryUefi.Transition

/-- The token has not completed. -/
def EfiStatus.notReady : EfiStatus := 0x8000000000000006

namespace OpenEvents

/-! ## The calls -/

/-- What the firmware does about one token: the event it creates, what `Receive`
or `Transmit` returns, and the token's status whenever it is looked at. -/
structure IoToken where
  createEvent : EfiStatus
  event : ℕ
  start : EfiStatus
  status : ℕ → EfiStatus
  data : List UInt8

/-- `while (CompletionToken.Status == EFI_NOT_READY) Stall(...)` -/
def waitReady (status : ℕ → EfiStatus) : ℕ → ℕ → Option EfiStatus
  | 0, _ => none
  | patience + 1, look =>
      if status look = .notReady then waitReady status patience (look + 1)
      else some (status look)

def sendMessage (patience : ℕ) (token : IoToken) (opened : Finset ℕ) :
    Option (EfiStatus × Finset ℕ) :=
  if token.createEvent.isError then some (token.createEvent, opened)
  else
    let created := insert token.event opened
    if token.start.isError then some (token.start, created.erase token.event)
    else
      (waitReady token.status patience 0).map fun completion =>
        if completion.isError then (completion, created.erase token.event)
        else (.success, created)

/-- The result is the status and the chunk. -/
def receiveChunk (patience : ℕ) (token : IoToken) (opened : Finset ℕ) :
    Option ((EfiStatus × List UInt8) × Finset ℕ) :=
  if token.createEvent.isError then some ((token.createEvent, []), opened)
  else
    let created := insert token.event opened
    if token.start = .connectionFin then some ((.success, []), created.erase token.event)
    else if token.start.isError then some ((token.start, []), created.erase token.event)
    else
      (waitReady token.status patience 0).map fun completion =>
        if completion = .connectionFin then ((.success, []), created.erase token.event)
        else if completion.isError then ((completion, []), created.erase token.event)
        else if token.data.length = 0 then ((.success, []), created.erase token.event)
        else ((.success, token.data), created.erase token.event)

/-- A token that completes some time is waited for. -/
theorem exists_waitReady {status : ℕ → EfiStatus} {count look : ℕ}
    (hready : status (look + count) ≠ .notReady) :
    ∃ completion, waitReady status (count + 1) look = some completion := by
  induction count generalizing look with
  | zero => exact ⟨_, if_neg hready⟩
  | succ count ih =>
      rw [waitReady]
      split_ifs
      · apply ih
        rwa [Nat.add_assoc, Nat.add_comm 1 count]
      · exact ⟨_, rfl⟩

/-- A call with what the firmware does about its token. -/
inductive Call
  | receive (token : IoToken)
  | send (token : IoToken)

namespace Call

def token : Call → IoToken
  | receive token => token
  | send token => token

/-- The events that are open when the call returns. -/
def opened (patience : ℕ) : Call → Finset ℕ → Option (Finset ℕ)
  | receive token, before => (receiveChunk patience token before).map Prod.snd
  | send token, before => (sendMessage patience token before).map Prod.snd

/-- The event is created, `Transmit` takes the token, and the token completes
without an error. -/
def Transmits (patience : ℕ) : Call → Prop
  | receive _ => False
  | send token => token.createEvent.isError = false ∧ token.start.isError = false ∧
      ∃ completion, waitReady token.status patience 0 = some completion ∧
        completion.isError = false

end Call

/-- A call that returns.  A created event is none of the open ones. -/
def step (patience : ℕ) (call : Call) (opened : Finset ℕ) : Option (Finset ℕ) :=
  if call.token.createEvent.isError = false ∧ call.token.event ∈ opened then none
  else call.opened patience opened

/-- Every call has closed what it created, and the number of open events never
changes. -/
def LeaksNothing (opened : Finset ℕ) (past : List (Finset ℕ × Call)) (current : Finset ℕ) : Prop :=
  EachMove (fun before after => after = before) past current ∧
    Always (fun reached => reached.card = opened.card) past current

variable {patience : ℕ} {token : IoToken} {opened after : Finset ℕ}

/-- The results are those of a call that is told how the token completed. -/
theorem receiveChunk_result {result : EfiStatus × List UInt8}
    (hcall : receiveChunk patience token opened = some (result, after)) :
    ∃ completion, result = AngryUefi.receiveChunk
      { createEvent := token.createEvent, receive := token.start, completion,
        data := token.data } := by
  rw [receiveChunk] at hcall
  simp only [AngryUefi.receiveChunk]
  by_cases hcreate : token.createEvent.isError = true
  · rw [if_pos hcreate] at hcall
    simp only [if_pos hcreate]
    cases hcall
    exact ⟨.success, rfl⟩
  rw [if_neg hcreate] at hcall
  simp only [if_neg hcreate]
  by_cases hclosed : token.start = .connectionFin
  · rw [if_pos hclosed] at hcall
    simp only [if_pos hclosed]
    cases hcall
    exact ⟨.success, rfl⟩
  rw [if_neg hclosed] at hcall
  simp only [if_neg hclosed]
  by_cases herror : token.start.isError = true
  · rw [if_pos herror] at hcall
    simp only [if_pos herror]
    cases hcall
    exact ⟨.success, rfl⟩
  rw [if_neg herror] at hcall
  simp only [if_neg herror]
  obtain ⟨completion, -, hresult⟩ := Option.map_eq_some_iff.mp hcall
  refine ⟨completion, ?_⟩
  by_cases hnothing : token.data.length = 0
  · have hempty := List.length_eq_zero_iff.mp hnothing
    rw [if_pos hnothing] at hresult
    split_ifs at hresult ⊢ <;> cases hresult
    · rfl
    · rfl
    · rw [hempty]
  · rw [if_neg hnothing] at hresult
    split_ifs at hresult ⊢ <;> cases hresult
    · rfl
    · rfl
    · rfl

theorem sendMessage_result {status : EfiStatus}
    (hcall : sendMessage patience token opened = some (status, after)) :
    ∃ completion, ∀ (firmware : Firmware) (messageSize : UInt64) (s : Server)
      (delivered : List UInt8),
      firmware.transmit s.clock (s.responseBuffer.read 0 messageSize.toNat) =
        ⟨token.createEvent, token.start, completion, delivered⟩ →
      (Handlers.sendMessage messageSize firmware s).map Prod.fst = some status := by
  rw [sendMessage] at hcall
  by_cases hcreate : token.createEvent.isError = true
  · rw [if_pos hcreate] at hcall
    cases hcall
    refine ⟨.success, fun firmware messageSize s delivered htransmit => ?_⟩
    rw [Handlers.sendMessage_run, htransmit]
    dsimp only
    rw [if_pos hcreate]
    rfl
  rw [if_neg hcreate] at hcall
  by_cases herror : token.start.isError = true
  · simp only [if_pos herror] at hcall
    cases hcall
    refine ⟨.success, fun firmware messageSize s delivered htransmit => ?_⟩
    rw [Handlers.sendMessage_run, htransmit]
    dsimp only
    rw [if_neg hcreate, if_pos herror]
    rfl
  simp only [if_neg herror] at hcall
  obtain ⟨completion, -, hresult⟩ := Option.map_eq_some_iff.mp hcall
  refine ⟨completion, fun firmware messageSize s delivered htransmit => ?_⟩
  rw [Handlers.sendMessage_run, htransmit]
  dsimp only
  rw [if_neg hcreate, if_neg herror]
  split_ifs at hresult ⊢ <;> cases hresult
  · rfl
  · rfl

/-! ## Runs -/

theorem receiveChunk_closes {result : EfiStatus × List UInt8}
    (hfresh : token.createEvent.isError = true ∨ token.event ∉ opened)
    (hcall : receiveChunk patience token opened = some (result, after)) : after = opened := by
  rw [receiveChunk] at hcall
  by_cases hcreate : token.createEvent.isError = true
  · rw [if_pos hcreate] at hcall
    cases hcall
    rfl
  have hnew := hfresh.resolve_left hcreate
  rw [if_neg hcreate] at hcall
  simp only [Finset.erase_insert hnew] at hcall
  by_cases hclosed : token.start = .connectionFin
  · rw [if_pos hclosed] at hcall
    cases hcall
    rfl
  rw [if_neg hclosed] at hcall
  by_cases herror : token.start.isError = true
  · rw [if_pos herror] at hcall
    cases hcall
    rfl
  rw [if_neg herror] at hcall
  obtain ⟨completion, -, hresult⟩ := Option.map_eq_some_iff.mp hcall
  split_ifs at hresult <;> cases hresult <;> rfl

/-- What a call does to the open events. -/
theorem step_cases {call : Call} (hstep : step patience call opened = some after) :
    (¬ call.Transmits patience ∧ after = opened) ∨
      (call.Transmits patience ∧ call.token.event ∉ opened ∧
        after = insert call.token.event opened) := by
  rw [step] at hstep
  split_ifs at hstep with hfresh
  have hnew : call.token.createEvent.isError = true ∨ call.token.event ∉ opened := by
    rw [not_and_or, Bool.not_eq_false] at hfresh
    exact hfresh
  cases call with
  | receive token =>
      obtain ⟨⟨result, rest⟩, hcall, rfl⟩ := Option.map_eq_some_iff.mp hstep
      exact .inl ⟨id, receiveChunk_closes hnew hcall⟩
  | send token =>
      obtain ⟨⟨status, rest⟩, hcall, rfl⟩ := Option.map_eq_some_iff.mp hstep
      rw [sendMessage] at hcall
      by_cases hcreate : token.createEvent.isError = true
      · rw [if_pos hcreate] at hcall
        cases hcall
        exact .inl ⟨fun htransmits => Bool.false_ne_true (htransmits.1.symm.trans hcreate), rfl⟩
      have hevent : token.event ∉ opened := hnew.resolve_left hcreate
      rw [if_neg hcreate] at hcall
      simp only [Finset.erase_insert hevent] at hcall
      by_cases herror : token.start.isError = true
      · rw [if_pos herror] at hcall
        cases hcall
        exact .inl ⟨fun htransmits => Bool.false_ne_true (htransmits.2.1.symm.trans herror), rfl⟩
      rw [if_neg herror] at hcall
      obtain ⟨completion, hready, hresult⟩ := Option.map_eq_some_iff.mp hcall
      split_ifs at hresult with hfailed
      · cases hresult
        refine .inl ⟨?_, rfl⟩
        rintro ⟨-, -, other, hother, hsucceeds⟩
        rw [hready, Option.some.injEq] at hother
        rw [← hother] at hsucceeds
        exact Bool.false_ne_true (hsucceeds.symm.trans hfailed)
      · cases hresult
        refine .inr ⟨⟨?_, ?_, completion, hready, ?_⟩, hevent, rfl⟩
        · exact Bool.eq_false_of_not_eq_true hcreate
        · exact Bool.eq_false_of_not_eq_true herror
        · exact Bool.eq_false_of_not_eq_true hfailed

variable {past : List (Finset ℕ × Call)} {current : Finset ℕ}

/-- A run of calls leaks nothing exactly when no transmission succeeds. -/
theorem leaksNothing_iff (hrun : Run (· = opened) (step patience) past current) :
    LeaksNothing opened past current ↔
      EachStep (fun _ call => ¬ call.Transmits patience) past := by
  constructor
  · rintro ⟨hmoves, -⟩
    induction hrun with
    | start hinitial => exact eachStep_nil
    | next hearlier hstep ih =>
        refine eachStep_cons.mpr ⟨?_, ih hmoves.2⟩
        intro htransmits
        rcases step_cases hstep with ⟨hnot, -⟩ | ⟨-, hnew, hinsert⟩
        · exact hnot htransmits
        · rw [hmoves.1] at hinsert
          exact hnew (hinsert ▸ Finset.mem_insert_self _ _)
  · intro heach
    have hkeeps (before : Finset ℕ) (call : Call) (after : Finset ℕ)
        (hnot : ¬ call.Transmits patience) (hstep : step patience call before = some after) :
        after = before := by
      rcases step_cases hstep with ⟨-, hsame⟩ | ⟨htransmits, -, -⟩
      · exact hsame
      · exact absurd htransmits hnot
    constructor
    · exact hrun.eachMove (fun _ _ => trivial) (fun _ _ _ _ _ _ => trivial)
        (fun before call after _ => hkeeps before call after) heach
    · refine hrun.always (fun _ hstart => by rw [hstart]) ?_ heach
      intro before call after hcard hnot hstep
      rw [hkeeps before call after hnot hstep, hcard]

/-- A token that is taken and completes at the second look. -/
def sentToken (event : ℕ) : IoToken where
  createEvent := .success
  event := event
  start := .success
  status look := if look = 0 then .notReady else .success
  data := []

/-- A token that completes with an error. -/
def failedToken (event : ℕ) : IoToken := { sentToken event with status := fun _ => .aborted }

/-- A message is received, and its answer is not transmitted. -/
theorem leaksNothing_failedToken :
    ∃ past current, past.length = 2 ∧ LeaksNothing ∅ past current := by
  have hstart : Run (· = ∅) (step 2) [] (∅ : Finset ℕ) := .start rfl
  have hreceive : Run (· = ∅) (step 2) [(∅, .receive (sentToken 1))] ∅ := hstart.next rfl
  have hsend : Run (· = ∅) (step 2) [(∅, .send (failedToken 2)), (∅, .receive (sentToken 1))] ∅ :=
    hreceive.next rfl
  refine ⟨_, _, rfl, (leaksNothing_iff hsend).mpr ?_⟩
  rw [eachStep_cons, eachStep_cons]
  refine ⟨?_, id, eachStep_nil⟩
  rintro ⟨-, -, completion, hready, hsucceeds⟩
  cases hready
  exact Bool.false_ne_true hsucceeds.symm

/-- A transmission that succeeds leaves its event open. -/
theorem not_leaksNothing_sentToken :
    ∃ past current, Run (· = ∅) (step 2) past current ∧ current = {1} ∧
      ¬ LeaksNothing ∅ past current := by
  have hstart : Run (· = ∅) (step 2) [] (∅ : Finset ℕ) := .start rfl
  have hsend : Run (· = ∅) (step 2) [(∅, .send (sentToken 1))] {1} := hstart.next rfl
  refine ⟨_, _, hsend, rfl, ?_⟩
  rintro ⟨-, hsame, -⟩
  cases hsame

end OpenEvents

end AngryUefi
