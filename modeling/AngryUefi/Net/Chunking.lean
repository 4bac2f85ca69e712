import AngryUefi.Net.Inbound

/-!
# How TCP splits the stream

The stream of the client is fixed; what varies is where the receives end.  A
set of cuts says after which bytes of the stream one receive ends at the
latest: every delivery of the stream is the delivery by some set of cuts.
-/

namespace AngryUefi

open AngryUefi.Bytes AngryUefi.Framing AngryUefi.Transition

/-- `cuts n` says that no receive goes on beyond the first `n` bytes. -/
abbrev Cuts := ℕ → Bool

/-- How many bytes a receive returns from a position of the stream on. -/
def untilCut (cuts : Cuts) (position : ℕ) : ℕ → ℕ
  | 0 => 0
  | limit + 1 =>
      if cuts (position + 1) then 1 else 1 + untilCut cuts (position + 1) limit

theorem untilCut_le (cuts : Cuts) (position limit : ℕ) :
    untilCut cuts position limit ≤ limit := by
  induction limit generalizing position with
  | zero => simp [untilCut]
  | succ limit ih =>
      have hrest := ih (position + 1)
      simp only [untilCut]
      split <;> omega

theorem untilCut_pos {cuts : Cuts} {position limit : ℕ} (hlimit : 0 < limit) :
    0 < untilCut cuts position limit := by
  cases limit with
  | zero => omega
  | succ limit =>
      simp only [untilCut]
      split <;> omega

theorem untilCut_le_of_cut {cuts : Cuts} {position limit index : ℕ} (hindex : 0 < index)
    (hcut : cuts (position + index) = true) : untilCut cuts position limit ≤ index := by
  induction limit generalizing position index with
  | zero => simp [untilCut]
  | succ limit ih =>
      simp only [untilCut]
      split
      · omega
      · rename_i hopen
        have hmore : index ≠ 1 := by
          rintro rfl
          exact hopen hcut
        have hrest := @ih (position + 1) (index - 1) (by omega)
          (by rwa [show position + 1 + (index - 1) = position + index by omega])
        omega

/-- The first cut, or the whole request, ends the receive. -/
theorem untilCut_eq {cuts : Cuts} {position limit count : ℕ} (hpositive : 0 < count)
    (hlimit : count ≤ limit)
    (hbetween : ∀ index, 0 < index → index < count → cuts (position + index) = false)
    (hend : cuts (position + count) = true ∨ count = limit) :
    untilCut cuts position limit = count := by
  induction limit generalizing position count with
  | zero => omega
  | succ limit ih =>
      simp only [untilCut]
      rcases Nat.eq_or_lt_of_le (Nat.succ_le_of_lt hpositive) with hone | hmore
      · obtain rfl : count = 1 := hone.symm
        rcases hend with hcut | hlast
        · rw [if_pos hcut]
        · obtain rfl : limit = 0 := by omega
          simp [untilCut]
      · have hopen : cuts (position + 1) = false := hbetween 1 one_pos hmore
        rw [if_neg (by simp [hopen]), @ih (position + 1) (count - 1) (by omega) (by omega)]
        · omega
        · intro index hindex hless
          have hcut := hbetween (index + 1) (by omega) (by omega)
          rwa [Nat.add_comm index, ← Nat.add_assoc] at hcut
        · rcases hend with hcut | hlast
          · left
            rwa [show position + 1 + (count - 1) = position + count by omega]
          · right
            omega

namespace Receiver

/-- The bytes that the next `receive_chunk` delivers; nothing at the end of the
stream. -/
def deliver (cuts : Cuts) (stream : List UInt8) (s : Receiver) : List UInt8 :=
  match s.fragment with
  | some (_, length) =>
      (stream.drop s.received.length).take (untilCut cuts s.received.length length)
  | none => []

/-- The label goes on with the stream: between one byte and the number
requested, and none only at the stream's end. -/
def GoesOn (stream : List UInt8) (s : Receiver) : Label → Prop
  | .chunk outcome => ∃ start length data, s.fragment = some (start, length) ∧
      receiveChunk outcome = (.success, data) ∧
      data <+: stream.drop s.received.length ∧ data.length ≤ length ∧
      (data = [] → stream.length ≤ s.received.length)
  | .handled => True

/-- The label delivers what the cuts say. -/
def SplitBy (cuts : Cuts) (stream : List UInt8) (s : Receiver) : Label → Prop
  | .chunk outcome => receiveChunk outcome = (.success, s.deliver cuts stream)
  | .handled => True

theorem received_step {outcome : ReceiveOutcome} {s t : Receiver} {data : List UInt8}
    (hreceive : receiveChunk outcome = (.success, data))
    (hstep : step (.chunk outcome) s = some t) : t.received = s.received ++ data := by
  cases effect_of_step hstep with
  | fail _ herror => simp [hreceive] at herror
  | closeHeader _ _ hnothing =>
      rw [hreceive] at hnothing
      simp [show data = [] from hnothing]
  | shortHeader => simp [hreceive]
  | lengthWord => simp [hreceive]
  | closeBody _ _ hnothing =>
      rw [hreceive] at hnothing
      simp [show data = [] from hnothing]
  | bodyChunk => simp [hreceive]

theorem received_handled {s t : Receiver} (hstep : step .handled s = some t) :
    t.received = s.received := by
  cases effect_of_step hstep with
  | refuse => rfl
  | serve => rfl

/-- The positions of the stream at which a receive of the run ended. -/
def Ends (past : List (Receiver × Label)) (s : Receiver) (position : ℕ) : Prop :=
  s.received.length = position ∨ ∃ entry ∈ past, entry.1.received.length = position

theorem Ends.le_received {past : List (Receiver × Label)} {s : Receiver}
    {stream : List UInt8} (hrun : Run Accepted step past s)
    (hgoesOn : EachStep (GoesOn stream) past) {position : ℕ} (hends : Ends past s position) :
    position ≤ s.received.length := by
  induction hrun with
  | start => rcases hends with hhere | ⟨entry, hentry, _⟩ <;> simp_all
  | @next past s t label hrun hstep ih =>
      rw [eachStep_cons] at hgoesOn
      have hgrows : s.received.length ≤ t.received.length := by
        cases label with
        | handled => rw [received_handled hstep]
        | chunk outcome =>
            obtain ⟨_, _, data, _, hreceive, _⟩ := hgoesOn.1
            rw [received_step hreceive hstep, List.length_append]
            omega
      rcases hends with hhere | ⟨entry, hentry, hposition⟩
      · omega
      · rcases List.mem_cons.mp hentry with rfl | hearlier
        · change s.received.length = position at hposition
          omega
        · have hbefore := ih hgoesOn.2 (.inr ⟨entry, hearlier, hposition⟩)
          omega

/-- The cuts that a run's own receives make deliver that run. -/
theorem splitBy_of_ends {past : List (Receiver × Label)} {s : Receiver}
    {stream : List UInt8} {cuts : Cuts} (hrun : Run Accepted step past s)
    (hgoesOn : EachStep (GoesOn stream) past)
    (hcuts : ∀ position ≤ s.received.length, cuts position = true ↔ Ends past s position) :
    EachStep (SplitBy cuts stream) past := by
  induction hrun with
  | start => exact eachStep_nil
  | @next past s t label hrun hstep ih =>
      rw [eachStep_cons] at hgoesOn ⊢
      have hbefore : ∀ position, Ends past s position → position ≤ s.received.length :=
        fun _ hends => hends.le_received hrun hgoesOn.2
      cases label with
      | handled =>
          have hsame := received_handled hstep
          refine ⟨trivial, ih hgoesOn.2 fun position hposition => ?_⟩
          rw [hcuts position (by rwa [hsame])]
          simp only [Ends, List.mem_cons, exists_eq_or_imp, hsame]
          tauto
      | chunk outcome =>
          obtain ⟨start, length, data, hfragment, hreceive, hbegins, hlength, hend⟩ :=
            hgoesOn.1
          have hgrown := received_step hreceive hstep
          have hlengths : t.received.length = s.received.length + data.length := by
            rw [hgrown, List.length_append]
          have hends : ∀ position, Ends ((s, .chunk outcome) :: past) t position ↔
              t.received.length = position ∨ Ends past s position := by
            intro position
            simp only [Ends, List.mem_cons, exists_eq_or_imp]
          refine ⟨?_, ih hgoesOn.2 fun position hposition => ?_⟩
          · suffices hdata : s.deliver cuts stream = data by
              rw [SplitBy, hreceive, hdata]
            simp only [deliver, hfragment]
            rcases Nat.eq_zero_or_pos data.length with hnothing | hpositive
            · obtain rfl : data = [] := List.length_eq_zero_iff.mp hnothing
              rw [List.drop_eq_nil_of_le (hend rfl), List.take_nil]
            · rw [untilCut_eq hpositive hlength]
              · exact (List.prefix_iff_eq_take.mp hbegins).symm
              · intro index hindex hless
                rw [Bool.eq_false_iff, ne_eq, hcuts _ (by omega), hends]
                rintro (hhere | hearlier)
                · omega
                · have hbound := hbefore _ hearlier
                  omega
              · left
                rw [hcuts _ (by omega), hends]
                left
                omega
          · rw [hcuts position (by omega), hends]
            constructor
            · rintro (hhere | hearlier)
              · left
                omega
              · exact hearlier
            · exact .inr

/-- Every way to receive a stream is the delivery by some set of cuts. -/
theorem exists_cuts {past : List (Receiver × Label)} {s : Receiver} {stream : List UInt8}
    (hrun : Run Accepted step past s) (hgoesOn : EachStep (GoesOn stream) past) :
    ∃ cuts, EachStep (SplitBy cuts stream) past := by
  classical
  refine ⟨fun position => decide (Ends past s position), splitBy_of_ends hrun hgoesOn ?_⟩
  intro position _
  exact decide_eq_true_iff

/-! ## Serving a stream -/

section Serve

variable (returns : List (List UInt8) → Bool) (cuts : Cuts) (stream : List UInt8)

/-- What happens next to a connection; `returns` says whether the handler of
the body dispatched last returns. -/
def next (s : Receiver) : Option Label :=
  match s.loop with
  | .stopped _ => none
  | .handling _ => if returns s.dispatched then some .handled else none
  | _ => some (.chunk (delivered (s.deliver cuts stream)))

def serve : ℕ → Receiver → Receiver
  | 0, s => s
  | fuel + 1, s =>
      match (s.next returns cuts stream).bind fun label => step label s with
      | none => s
      | some t => serve fuel t

/-- What `receive_messages` returns, if it does. -/
def ending (s : Receiver) : Option EfiStatus :=
  match s.loop with
  | .stopped status => some status
  | _ => none

/-- The message bodies that `receive_messages` passes to `handle_message`, and
the status it returns. -/
def receiveMessages (receiveBuffer : Memory) : List (List UInt8) × Option EfiStatus :=
  let s := serve returns cuts stream (stream.length + 1) (accept receiveBuffer)
  (s.dispatched, s.ending)

/-- A length word at this position takes more than one receive. -/
def splitWord (position : ℕ) : Bool :=
  cuts (position + 1) || cuts (position + 2) || cuts (position + 3)

instance (body : List UInt8) : Decidable (Served body) :=
  inferInstanceAs (Decidable (_ ∧ _))

/-- The frame whose length word is the first to be split, among the frames that
are served or refused. -/
def firstSplit : List (List UInt8) → List (List UInt8) → Option ℕ
  | _, [] => none
  | done, body :: bodies =>
      if splitWord cuts (encode done).length then some done.length
      else if returns (done ++ [body]) ∧ Served body then
        firstSplit (done ++ [body]) bodies
      else none

/-- The outcome of a stream of whole frames. -/
def outcome : List (List UInt8) → List (List UInt8) → List (List UInt8) × Option EfiStatus
  | done, [] => (done, some .success)
  | done, body :: bodies =>
      if splitWord cuts (encode done).length then (done, some .aborted)
      else if returns (done ++ [body]) = false then (done ++ [body], none)
      else if Served body then outcome (done ++ [body]) bodies
      else (done ++ [body], some .invalidParameter)

variable {returns cuts stream}

theorem serve_of_step {s t : Receiver} {label : Label}
    (hnext : s.next returns cuts stream = some label) (hstep : step label s = some t)
    (fuel : ℕ) :
    serve returns cuts stream (fuel + 1) s = serve returns cuts stream fuel t := by
  simp only [serve, hnext, Option.bind_some, hstep]

theorem serve_of_next_none {s : Receiver} (hnext : s.next returns cuts stream = none)
    (fuel : ℕ) : serve returns cuts stream fuel s = s := by
  cases fuel with
  | zero => rfl
  | succ fuel => simp only [serve, hnext, Option.bind_none]

/-- Serving is a run of the receiver that the cuts split. -/
theorem run_serve {past : List (Receiver × Label)} {s : Receiver}
    (hrun : Run Accepted step past s) (hsplit : EachStep (SplitBy cuts stream) past)
    (fuel : ℕ) : ∃ whole, Run Accepted step whole (serve returns cuts stream fuel s) ∧
      EachStep (SplitBy cuts stream) whole := by
  induction fuel generalizing past s with
  | zero => exact ⟨past, hrun, hsplit⟩
  | succ fuel ih =>
      simp only [serve]
      split
      · exact ⟨past, hrun, hsplit⟩
      · rename_i t hstep
        obtain ⟨label, hnext, hstep⟩ := Option.bind_eq_some_iff.mp hstep
        refine ih (hrun.next hstep) (eachStep_cons.mpr ⟨?_, hsplit⟩)
        cases label with
        | handled => trivial
        | chunk outcome =>
            simp only [next] at hnext
            split at hnext
            · simp at hnext
            · simp at hnext
            · simp only [Option.some.injEq, Label.chunk.injEq] at hnext
              rw [SplitBy, ← hnext, receiveChunk_delivered]

/-- The loop waits for the header of the frame after `done`. -/
structure AtHeader (done : List (List UInt8)) (s : Receiver) : Prop where
  loop : s.loop = .header
  received : s.received = encode done
  dispatched : s.dispatched = done

/-- The first `size` bytes of the body after `done` are in the buffer. -/
structure AtBody (done : List (List UInt8)) (body : List UInt8) (size : ℕ)
    (s : Receiver) : Prop where
  size_le : size ≤ body.length
  received : s.received = encode done ++ littleEndian 4 body.length ++ body.take size
  buffer : s.receiveBuffer.read 0 size = body.take size
  dispatched : s.dispatched = done

/-- The body after `done` is being handled. -/
structure AtHandler (done : List (List UInt8)) (body : List UInt8) (s : Receiver) :
    Prop where
  loop : s.loop = .handling body.length
  received : s.received = encode (done ++ [body])
  buffer : s.receiveBuffer.read 0 body.length = body
  dispatched : s.dispatched = done ++ [body]

theorem AtBody.atHandler {done : List (List UInt8)} {body : List UInt8} {s : Receiver}
    (hbody : s.AtBody done body body.length) :
    (s.receiveBody body.length body.length).AtHandler done body := by
  have hbuffer : s.receiveBuffer.read 0 body.length = body := by
    rw [hbody.buffer, List.take_length]
  simp only [receiveBody, lt_irrefl, if_false, afterBody, ne_eq, not_true_eq_false]
  refine ⟨rfl, ?_, hbuffer, ?_⟩
  · simp [hbody.received, encode_append, frame]
  · simp [hbody.dispatched, hbuffer]

variable (cuts) in
/-- One receive brings the body a step further. -/
theorem AtBody.store {done rest : List (List UInt8)} {body : List UInt8} {size : ℕ}
    {s : Receiver} (hbody : s.AtBody done body size) (hsize : size < body.length)
    (hstream : stream = encode (done ++ body :: rest)) :
    ∃ chunk, ({ s with loop := .body body.length size } : Receiver).deliver cuts stream = chunk ∧
      0 < chunk.length ∧ (s.store size chunk).AtBody done body (size + chunk.length) := by
  refine ⟨_, rfl, ?_⟩
  have hleft : stream.drop s.received.length = body.drop size ++ encode rest := by
    have hwhole : stream = s.received ++ (body.drop size ++ encode rest) := by
      rw [hstream, hbody.received, encode_append, encode_cons, frame]
      simp only [List.append_assoc]
      rw [← List.append_assoc (body.take size), List.take_append_drop]
    rw [hwhole, List.drop_left]
  have hcount := untilCut_le cuts s.received.length (body.length - size)
  have hdeliver : ({ s with loop := .body body.length size } : Receiver).deliver cuts stream =
      (body.drop size).take (untilCut cuts s.received.length (body.length - size)) := by
    simp only [deliver, fragment, hleft]
    rw [List.take_append_of_le_length (by rwa [List.length_drop])]
  have hpositive : 0 < untilCut cuts s.received.length (body.length - size) :=
    untilCut_pos (by omega)
  generalize untilCut cuts s.received.length (body.length - size) = count at *
  have hlength : ((body.drop size).take count).length = count := by
    rw [List.length_take, List.length_drop]
    omega
  rw [hdeliver, hlength]
  refine ⟨hpositive, by omega, ?_, ?_, hbody.dispatched⟩
  · rw [received_store, hbody.received, List.append_assoc, ← List.take_add]
  · rw [Memory.read_add, List.take_add, Nat.zero_add]
    congr 1
    · rw [Receiver.store, Memory.read_write_of_disjoint _ (by omega), hbody.buffer]
    · have hread := s.receiveBuffer.read_write size ((body.drop size).take count)
      rwa [hlength] at hread

variable (returns cuts) in
/-- The inner loop receives the whole body. -/
theorem serve_receiveBody {done rest : List (List UInt8)} {body : List UInt8} {size : ℕ}
    {s : Receiver} (hbody : s.AtBody done body size)
    (hstream : stream = encode (done ++ body :: rest)) :
    ∃ steps ≤ body.length - size, ∃ t, AtHandler done body t ∧
      ∀ fuel, serve returns cuts stream (fuel + steps) (s.receiveBody body.length size) =
        serve returns cuts stream fuel t := by
  induction hleft : body.length - size using Nat.strong_induction_on generalizing s size with
  | _ left ih =>
      rcases Nat.eq_or_lt_of_le hbody.size_le with heq | hless
      · subst heq
        exact ⟨0, by omega, _, hbody.atHandler, fun _ => rfl⟩
      · obtain ⟨chunk, hdeliver, hpositive, hstored⟩ :=
          hbody.store cuts hless hstream
        obtain ⟨steps, hsteps, t, hhandler, hserve⟩ :=
          ih (body.length - (size + chunk.length)) (by omega) hstored rfl
        refine ⟨steps + 1, by omega, t, hhandler, fun fuel => ?_⟩
        have hhead : s.receiveBody body.length size =
            { s with loop := .body body.length size } := by
          simp only [receiveBody, hless, if_true]
        have hlabel : (s.receiveBody body.length size).next returns cuts stream =
            some (.chunk (delivered chunk)) := by
          simp only [hhead, next, hdeliver]
        have hstep : step (.chunk (delivered chunk)) (s.receiveBody body.length size) =
            some ((s.store size chunk).receiveBody body.length (size + chunk.length)) := by
          simp only [hhead, step, receiveChunk_delivered, EfiStatus.isError_success,
            Bool.false_eq_true, if_false, hpositive.ne']
          rfl
        rw [← hserve, ← Nat.add_assoc]
        exact serve_of_step hlabel hstep _

/-- The receiver comes to rest with this result. -/
structure Finishes (returns : List (List UInt8) → Bool) (cuts : Cuts)
    (stream : List UInt8) (fuel : ℕ) (s : Receiver)
    (result : List (List UInt8) × Option EfiStatus) : Prop where
  result : ((serve returns cuts stream fuel s).dispatched,
    (serve returns cuts stream fuel s).ending) = result
  rest : (serve returns cuts stream fuel s).next returns cuts stream = none

theorem Finishes.of_rest {fuel : ℕ} {s : Receiver}
    {result : List (List UInt8) × Option EfiStatus}
    (hnext : s.next returns cuts stream = none)
    (hresult : (s.dispatched, s.ending) = result) :
    Finishes returns cuts stream fuel s result := by
  have hserve := serve_of_next_none hnext fuel
  exact ⟨by rw [hserve, hresult], by rw [hserve, hnext]⟩

theorem Finishes.of_serve {fuel steps : ℕ} {s t : Receiver}
    {result : List (List UInt8) × Option EfiStatus}
    (hserve : serve returns cuts stream (fuel + steps) s =
      serve returns cuts stream fuel t)
    (hfinishes : Finishes returns cuts stream fuel t result) :
    Finishes returns cuts stream (fuel + steps) s result := by
  refine ⟨?_, ?_⟩ <;> rw [hserve]
  · exact hfinishes.result
  · exact hfinishes.rest

theorem Finishes.of_step {fuel : ℕ} {s t : Receiver} {label : Label}
    {result : List (List UInt8) × Option EfiStatus}
    (hnext : s.next returns cuts stream = some label) (hstep : step label s = some t)
    (hfinishes : Finishes returns cuts stream fuel t result) :
    Finishes returns cuts stream (fuel + 1) s result :=
  .of_serve (serve_of_step hnext hstep fuel) hfinishes

theorem splitWord_eq_false {position : ℕ} (hwhole : splitWord cuts position = false) :
    untilCut cuts position 4 = 4 := by
  simp only [splitWord, Bool.or_eq_false_iff] at hwhole
  refine untilCut_eq (by omega) le_rfl ?_ (.inr rfl)
  intro index hpositive hless
  obtain rfl | rfl | rfl : index = 1 ∨ index = 2 ∨ index = 3 := by omega
  · exact hwhole.1.1
  · exact hwhole.1.2
  · exact hwhole.2

theorem splitWord_eq_true {position : ℕ} (hsplit : splitWord cuts position = true) :
    untilCut cuts position 4 < 4 := by
  simp only [splitWord, Bool.or_eq_true] at hsplit
  rcases hsplit with (hcut | hcut) | hcut
  · exact (untilCut_le_of_cut one_pos hcut).trans_lt (by omega)
  · exact (untilCut_le_of_cut two_pos hcut).trans_lt (by omega)
  · exact (untilCut_le_of_cut three_pos hcut).trans_lt (by omega)

theorem messageStatus_of_served {memory : Memory} {length : ℕ}
    (hserved : Served (memory.read 0 length)) :
    (messageStatus memory length) = .success := by
  obtain ⟨hlength, hversion⟩ := hserved
  rw [Memory.length_read] at hlength
  obtain ⟨rest, rfl⟩ : ∃ rest, length = 2 + rest := ⟨length - 2, by omega⟩
  rw [Memory.read_add, List.take_left' (Memory.length_read _ _ _)] at hversion
  simp only [Memory.read, List.range_succ, List.range_zero, List.nil_append, List.map_cons,
    List.map_nil, List.cons_append, List.cons.injEq, and_true, Nat.zero_add] at hversion
  simp [messageStatus, Nat.not_lt.mpr hlength, hversion]

theorem messageStatus_of_not_served {memory : Memory} {length : ℕ}
    (hserved : ¬ Served (memory.read 0 length)) :
    (messageStatus memory length) = .invalidParameter := by
  by_contra hother
  refine hserved (served_read ?_)
  simp only [messageStatus] at hother ⊢
  split_ifs at hother ⊢ <;> simp_all

/-- After the handler: refused, or on to the next header. -/
theorem AtHandler.finishes {fuel : ℕ} {done bodies : List (List UInt8)} {body : List UInt8}
    {s : Receiver} (hhandler : s.AtHandler done body)
    (hnext : ∀ t, t.AtHeader (done ++ [body]) →
      Finishes returns cuts stream fuel t (outcome returns cuts (done ++ [body]) bodies))
    (hwhole : splitWord cuts (encode done).length = false) :
    Finishes returns cuts stream (fuel + 1) s
      (outcome returns cuts done (body :: bodies)) := by
  simp only [outcome, hwhole, Bool.false_eq_true, if_false]
  split
  · rename_i hreturns
    refine .of_rest ?_ ?_
    · simp [next, hhandler.loop, hhandler.dispatched, hreturns]
    · simp [ending, hhandler.loop, hhandler.dispatched]
  · rename_i hreturns
    have hlabel : s.next returns cuts stream = some .handled := by
      simp [next, hhandler.loop, hhandler.dispatched, Bool.not_eq_false _ ▸ hreturns]
    have hbuffer := hhandler.buffer
    split
    · rename_i hserved
      rw [← hbuffer] at hserved
      refine .of_step hlabel (t := { s with loop := .header }) ?_ (hnext _ ?_)
      · simp [step, hhandler.loop, messageStatus_of_served hserved]
      · exact ⟨rfl, hhandler.received, hhandler.dispatched⟩
    · rename_i hserved
      rw [← hbuffer] at hserved
      refine .of_step hlabel (t := s.stop .invalidParameter) ?_ (.of_rest ?_ ?_)
      · simp [step, hhandler.loop, messageStatus_of_not_served hserved]
      · simp [next, stop]
      · simp [ending, stop, hhandler.dispatched]

/-- At the end of the stream the peer closes the connection. -/
theorem AtHeader.finishes_nil {done : List (List UInt8)} {fuel : ℕ} {s : Receiver}
    (hheader : s.AtHeader done) (hstream : stream = encode done) :
    Finishes returns cuts stream (fuel + 1) s (outcome returns cuts done []) := by
  have hnothing : s.deliver cuts stream = [] := by
    simp [deliver, fragment, hheader.loop, hheader.received, hstream]
  have hlabel : s.next returns cuts stream = some (.chunk (delivered [])) := by
    simp [next, hheader.loop, hnothing]
  refine .of_step hlabel (t := s.close.stop .success) ?_ (.of_rest ?_ ?_)
  · simp [step, hheader.loop]
  · simp [next, stop]
  · simp [outcome, ending, stop, close, hheader.dispatched]

variable (cuts) in
/-- The receive for the header brings the length word up to its first cut. -/
theorem AtHeader.deliver_eq {done bodies : List (List UInt8)} {body : List UInt8}
    {s : Receiver} (hheader : s.AtHeader done)
    (hstream : stream = encode (done ++ body :: bodies)) :
    s.deliver cuts stream =
      (littleEndian 4 body.length).take (untilCut cuts (encode done).length 4) := by
  have hleft : stream.drop s.received.length =
      littleEndian 4 body.length ++ (body ++ encode bodies) := by
    rw [hheader.received, hstream, encode_append, List.drop_left, encode_cons, frame,
      List.append_assoc]
  rw [← hheader.received]
  simp only [deliver, fragment, hheader.loop, hleft]
  rw [List.take_append_of_le_length]
  rw [length_littleEndian]
  exact untilCut_le _ _ _

/-- A part of a length word ends the loop. -/
theorem AtHeader.finishes_split {done bodies : List (List UInt8)} {body : List UInt8}
    {fuel : ℕ} {s : Receiver} (hheader : s.AtHeader done)
    (hstream : stream = encode (done ++ body :: bodies))
    (hword : splitWord cuts (encode done).length = true) :
    Finishes returns cuts stream (fuel + 1) s
      (outcome returns cuts done (body :: bodies)) := by
  have hshort := splitWord_eq_true hword
  have hpositive : 0 < untilCut cuts (encode done).length 4 := untilCut_pos (by omega)
  have hlength : (s.deliver cuts stream).length = untilCut cuts (encode done).length 4 := by
    rw [hheader.deliver_eq cuts hstream, List.length_take, length_littleEndian]
    omega
  have hlabel : s.next returns cuts stream =
      some (.chunk (delivered (s.deliver cuts stream))) := by
    simp [next, hheader.loop]
  refine .of_step hlabel (t := (s.store 0 (s.deliver cuts stream)).stop .aborted) ?_
    (.of_rest ?_ ?_)
  · simp [step, hheader.loop, hlength, hpositive.ne', hshort.ne]
  · simp [next, stop]
  · simp [outcome, hword, ending, stop, store, hheader.dispatched]

/-- A whole length word leads to the inner loop. -/
theorem AtHeader.step_body {done bodies : List (List UInt8)} {body : List UInt8}
    {s : Receiver} (hheader : s.AtHeader done) (hlength : body.length < 2 ^ 32)
    (hstream : stream = encode (done ++ body :: bodies))
    (hword : splitWord cuts (encode done).length = false) :
    ∃ t : Receiver, t.AtBody done body 0 ∧ ∃ label, s.next returns cuts stream = some label ∧
      step label s = some (t.receiveBody body.length 0) := by
  have hdeliver := hheader.deliver_eq cuts hstream
  rw [splitWord_eq_false hword, List.take_of_length_le (by simp)] at hdeliver
  have hlengthWord : ofLittleEndian (littleEndian 4 body.length) = body.length :=
    ofLittleEndian_littleEndian_of_lt hlength
  have hstored := s.word_store (length_littleEndian 4 body.length)
  refine ⟨s.store 0 (littleEndian 4 body.length), ⟨by omega, ?_, rfl, hheader.dispatched⟩,
    .chunk (delivered (littleEndian 4 body.length)), ?_, ?_⟩
  · simp [hheader.received]
  · simp [next, hheader.loop, hdeliver]
  · simp [step, hheader.loop, hstored, hlengthWord]

/-- Serving whole frames comes to rest with their outcome. -/
theorem AtHeader.finishes {done bodies : List (List UInt8)} {fuel : ℕ} {s : Receiver}
    (hheader : s.AtHeader done) (hlengths : ∀ body ∈ bodies, body.length < 2 ^ 32)
    (hstream : stream = encode (done ++ bodies)) (hfuel : (encode bodies).length < fuel) :
    Finishes returns cuts stream fuel s (outcome returns cuts done bodies) := by
  induction bodies generalizing done fuel s with
  | nil =>
      obtain ⟨fuel, rfl⟩ : ∃ rest, fuel = rest + 1 := ⟨fuel - 1, by omega⟩
      exact hheader.finishes_nil (by simpa using hstream)
  | cons body bodies ih =>
      rw [encode_cons, List.length_append, length_frame] at hfuel
      cases hword : splitWord cuts (encode done).length with
      | true =>
          obtain ⟨fuel, rfl⟩ : ∃ rest, fuel = rest + 1 := ⟨fuel - 1, by omega⟩
          exact hheader.finishes_split hstream hword
      | false =>
          obtain ⟨t, hbody, label, hlabel, hstep⟩ :=
            hheader.step_body (hlengths body (by simp)) hstream hword
          obtain ⟨steps, hsteps, u, hhandler, hserve⟩ :=
            serve_receiveBody returns cuts hbody hstream
          -- one step for the header, at most one for each byte, one for the handler
          obtain ⟨fuel, rfl⟩ : ∃ rest, fuel = rest + 1 + steps + 1 :=
            ⟨fuel - (1 + steps + 1), by omega⟩
          refine .of_step hlabel hstep (.of_serve (hserve _) (hhandler.finishes ?_ hword))
          intro v hheader
          exact ih hheader (fun other hother => hlengths other (by simp [hother]))
            (by simpa using hstream) (by omega)

/-- Serving a stream of whole frames ends; `returns` decides only whether it
ends by a status or in a handler. -/
theorem finishes_accept {bodies : List (List UInt8)}
    (hfits : ∀ body ∈ bodies, body.length ≤ receiveBufferSize) (receiveBuffer : Memory) :
    Finishes returns cuts (encode bodies) ((encode bodies).length + 1)
      (accept receiveBuffer) (outcome returns cuts [] bodies) := by
  have hheader : (accept receiveBuffer).AtHeader [] := ⟨rfl, rfl, rfl⟩
  refine hheader.finishes (fun body hbody => ?_) rfl (Nat.lt_succ_self _)
  exact (hfits body hbody).trans_lt (by simp [receiveBufferSize])

theorem receiveMessages_encode {bodies : List (List UInt8)}
    (hfits : ∀ body ∈ bodies, body.length ≤ receiveBufferSize) (receiveBuffer : Memory) :
    receiveMessages returns cuts (encode bodies) receiveBuffer =
      outcome returns cuts [] bodies :=
  (finishes_accept hfits receiveBuffer).result

/-! ## When two splittings agree -/

/-- A split length word ends the service before its frame. -/
theorem outcome_of_firstSplit {done bodies : List (List UInt8)} {index : ℕ}
    (hsplit : firstSplit returns cuts done bodies = some index) :
    done.length ≤ index ∧ index < (done ++ bodies).length ∧
      outcome returns cuts done bodies = ((done ++ bodies).take index, some .aborted) := by
  induction bodies generalizing done with
  | nil => simp [firstSplit] at hsplit
  | cons body bodies ih =>
      simp only [firstSplit] at hsplit
      split_ifs at hsplit with hword hserved
      · obtain rfl := Option.some.inj hsplit
        refine ⟨le_rfl, by simp, ?_⟩
        simp [outcome, hword]
      · obtain ⟨hlow, hhigh, houtcome⟩ := ih hsplit
        rw [List.append_assoc, List.singleton_append] at hhigh houtcome
        refine ⟨?_, hhigh, ?_⟩
        · rw [List.length_append] at hlow
          omega
        · rw [← houtcome]
          simp [outcome, hword, hserved]

/-- Without a split length word it does not matter where the receives end. -/
theorem outcome_of_no_firstSplit {done bodies : List (List UInt8)}
    (hsplit : firstSplit returns cuts done bodies = none) :
    outcome returns cuts done bodies = outcome returns (fun _ => false) done bodies ∧
      (outcome returns cuts done bodies).2 ≠ some .aborted := by
  induction bodies generalizing done with
  | nil => exact ⟨rfl, by simp only [outcome]; decide⟩
  | cons body bodies ih =>
      have hnever : splitWord (fun _ => false) (encode done).length = false := rfl
      simp only [firstSplit] at hsplit
      split_ifs at hsplit with hword hserved
      · have hrest := ih hsplit
        simpa [outcome, hword, hnever, hserved] using hrest
      · simp only [outcome, hword, hnever, Bool.false_eq_true, if_false]
        rw [not_and'] at hserved
        split_ifs with hreturns hbody
        · exact ⟨rfl, nofun⟩
        · exact absurd (by simpa using hreturns) (hserved hbody)
        · exact ⟨rfl, by simp [EfiStatus.invalidParameter, EfiStatus.aborted]⟩

/-- Two ways to split a stream of whole frames lead to the same bodies and the
same status exactly if the first length word they split is that of the same
frame, or neither splits one. -/
theorem receiveMessages_eq_iff_firstSplit_eq (returns : List (List UInt8) → Bool)
    (left right : Cuts) (receiveBuffer : Memory) {bodies : List (List UInt8)}
    (hfits : ∀ body ∈ bodies, body.length ≤ receiveBufferSize) :
    receiveMessages returns left (encode bodies) receiveBuffer =
        receiveMessages returns right (encode bodies) receiveBuffer ↔
      firstSplit returns left [] bodies = firstSplit returns right [] bodies := by
  rw [receiveMessages_encode hfits, receiveMessages_encode hfits]
  cases hleft : firstSplit returns left [] bodies with
  | none =>
      obtain ⟨houtcome, hending⟩ := outcome_of_no_firstSplit hleft
      cases hright : firstSplit returns right [] bodies with
      | none =>
          rw [houtcome, (outcome_of_no_firstSplit hright).1]
          simp
      | some index =>
          rw [(outcome_of_firstSplit hright).2.2]
          refine iff_of_false (fun heq => hending ?_) nofun
          rw [heq]
  | some first =>
      obtain ⟨_, hfirst, houtcome⟩ := outcome_of_firstSplit hleft
      cases hright : firstSplit returns right [] bodies with
      | none =>
          rw [houtcome]
          refine iff_of_false (fun heq => (outcome_of_no_firstSplit hright).2 ?_) nofun
          rw [← heq]
      | some second =>
          obtain ⟨_, hsecond, hother⟩ := outcome_of_firstSplit hright
          rw [houtcome, hother, Prod.mk.injEq, Option.some.injEq]
          constructor
          · rintro ⟨htake, _⟩
            have hlengths := congrArg List.length htake
            rw [List.length_take_of_le hfirst.le, List.length_take_of_le hsecond.le]
              at hlengths
            exact congrArg some hlengths
          · rintro ⟨⟩
            exact ⟨rfl, rfl⟩

theorem receiveMessages_eq_iff_firstSplit_eq_ping :
    receiveMessages (fun _ => true) (fun _ => true) (encode [pingBody]) zeroed =
        receiveMessages (fun _ => true) (fun _ => false) (encode [pingBody]) zeroed ↔
      firstSplit (fun _ => true) (fun _ => true) [] [pingBody] =
        firstSplit (fun _ => true) (fun _ => false) [] [pingBody] :=
  receiveMessages_eq_iff_firstSplit_eq _ _ _ zeroed
    (by simp [receiveBufferSize, pingBody])

/-- A ping that arrives in one piece is served; one that arrives in two pieces,
the first of two bytes, is not. -/
theorem not_chunkingIndependent_ping :
    receiveMessages (fun _ => true) (fun _ => false) (encode [pingBody]) zeroed =
        ([pingBody], some .success) ∧
      receiveMessages (fun _ => true) (fun position => position == 2) (encode [pingBody])
        zeroed = ([], some .aborted) := by
  decide

end Serve

end Receiver

end AngryUefi
