import AngryUefi.Lib.Simulation

/-!
# A mailbox for one job

One party posts a job, another takes it and finishes it, and the first collects
the result.  The poster may give the job up; then it stays in the mailbox, and
a new one is posted only once it is finished.  What a job's inputs have to be
and what answers it are parameters.
-/

namespace AngryUefi.Mailbox

open AngryUefi.Transition

variable {Job Input Result Reply : Type*}

inductive Content (Job Result : Type*)
  | empty
  | posted (job : Job)
  | taken (job : Job)
  | done (job : Job) (result : Result)

inductive Event (Job Input Result Reply : Type*)
  | post (job : Job)
  | take (input : Input)
  | finish (result : Result)
  | collect (reply : Reply)
  | giveUp (job : Job)

/-- The job that is in the mailbox. -/
def Content.job : Content Job Result → Option Job
  | empty => none
  | posted job | taken job | done job _ => some job

section Specification

variable (fits : Job → Input → Prop) (answers : Job → Result → Reply → Prop)

inductive Allows : Content Job Result → Event Job Input Result Reply →
    Content Job Result → Prop
  | post (job : Job) : Allows .empty (.post job) (.posted job)
  | replace (old : Job) (result : Result) (job : Job) :
      Allows (.done old result) (.post job) (.posted job)
  | take {job : Job} {input : Input} (hfits : fits job input) :
      Allows (.posted job) (.take input) (.taken job)
  | finish (job : Job) (result : Result) :
      Allows (.taken job) (.finish result) (.done job result)
  | collect {job : Job} {result : Result} {reply : Reply}
      (hanswers : answers job result reply) :
      Allows (.done job result) (.collect reply) .empty
  | giveUp {content : Content Job Result} {job : Job} (hjob : content.job = some job) :
      Allows content (.giveUp job) content

end Specification

/-- The moves of the content, without the replies that leave it alone. -/
def moves : List (Event Job Input Result Reply) → List (Event Job Input Result Reply)
  | [] => []
  | .giveUp _ :: earlier => moves earlier
  | .post job :: earlier => .post job :: moves earlier
  | .take input :: earlier => .take input :: moves earlier
  | .finish result :: earlier => .finish result :: moves earlier
  | .collect reply :: earlier => .collect reply :: moves earlier

variable {fits : Job → Input → Prop} {answers : Job → Result → Reply → Prop}

/-- How a mailbox came to its content. -/
def Recent (fits : Job → Input → Prop) (history : List (Event Job Input Result Reply)) :
    Content Job Result → Prop
  | .empty => True
  | .posted job => ∃ rest, history = .post job :: rest
  | .taken job => ∃ input rest, history = .take input :: .post job :: rest ∧ fits job input
  | .done job result => ∃ input rest,
      history = .finish result :: .take input :: .post job :: rest ∧ fits job input

theorem recent_of_trace {history : List (Event Job Input Result Reply)}
    {content : Content Job Result}
    (htrace : Trace (· = .empty) (Allows fits answers) history content) :
    Recent fits (moves history) content := by
  induction htrace with
  | start hstart =>
      subst hstart
      trivial
  | next hearlier hallows ih =>
      cases hallows with
      | post job => exact ⟨_, rfl⟩
      | replace old result job => exact ⟨_, rfl⟩
      | take hfits =>
          obtain ⟨rest, hposted⟩ := ih
          exact ⟨_, rest, by rw [moves, hposted], hfits⟩
      | finish job result =>
          obtain ⟨input, rest, htaken, hfits⟩ := ih
          exact ⟨input, rest, by rw [moves, htaken], hfits⟩
      | collect hanswers => trivial
      | giveUp hjob => exact ih

/-- Each job goes through the mailbox by itself: it is taken with its own
inputs right after it was posted, its result is collected right after it was
finished, and no other job is posted in between. -/
structure InTurn (fits : Job → Input → Prop) (answers : Job → Result → Reply → Prop)
    (history : List (Event Job Input Result Reply)) : Prop where
  taken : ∀ later earlier input, history = later ++ .take input :: earlier →
    ∃ job rest, moves earlier = .post job :: rest ∧ fits job input
  finished : ∀ later earlier result, history = later ++ .finish result :: earlier →
    ∃ job input rest, moves earlier = .take input :: .post job :: rest ∧ fits job input
  collected : ∀ later earlier reply, history = later ++ .collect reply :: earlier →
    ∃ job input result rest,
      moves earlier = .finish result :: .take input :: .post job :: rest ∧
        fits job input ∧ answers job result reply
  posted : ∀ later earlier job, history = later ++ .post job :: earlier →
    ∀ old ∈ (moves earlier).head?, (∃ result, old = .finish result) ∨
      ∃ reply, old = .collect reply
  givenUp : ∀ later earlier job, history = later ++ .giveUp job :: earlier →
    ∃ between rest, moves earlier = between ++ .post job :: rest ∧
      ∀ event ∈ between, (∃ input, event = .take input) ∨ ∃ result, event = .finish result

/-- An empty mailbox has seen nothing, or its last move was a collection. -/
theorem head_of_empty {history : List (Event Job Input Result Reply)}
    {content : Content Job Result}
    (htrace : Trace (· = .empty) (Allows fits answers) history content)
    (hempty : content = .empty) :
    ∀ old ∈ (moves history).head?, ∃ reply, old = .collect reply := by
  induction htrace with
  | start hstart => simp [moves]
  | next hearlier hallows ih =>
      cases hallows with
      | collect hanswers => simp [moves]
      | giveUp hjob => exact ih hempty
      | _ => cases hempty

theorem inTurn_of_trace {history : List (Event Job Input Result Reply)}
    {content : Content Job Result}
    (htrace : Trace (· = .empty) (Allows fits answers) history content) :
    InTurn fits answers history := by
  constructor
  · rintro later earlier input rfl
    obtain ⟨before, after, hearlier, hallows⟩ := htrace.split
    cases hallows with
    | take hfits =>
        obtain ⟨rest, hposted⟩ := recent_of_trace hearlier
        exact ⟨_, rest, hposted, hfits⟩
  · rintro later earlier result rfl
    obtain ⟨before, after, hearlier, hallows⟩ := htrace.split
    cases hallows with
    | finish job result => exact ⟨job, recent_of_trace hearlier⟩
  · rintro later earlier reply rfl
    obtain ⟨before, after, hearlier, hallows⟩ := htrace.split
    cases hallows with
    | collect hanswers =>
        obtain ⟨input, rest, hdone, hfits⟩ := recent_of_trace hearlier
        exact ⟨_, input, _, rest, hdone, hfits, hanswers⟩
  · rintro later earlier job rfl old hold
    obtain ⟨before, after, hearlier, hallows⟩ := htrace.split
    cases hallows with
    | post job => exact .inr (head_of_empty hearlier rfl old hold)
    | replace earlierJob result job =>
        obtain ⟨input, rest, hdone, -⟩ := recent_of_trace hearlier
        rw [hdone, List.head?_cons, Option.mem_some_iff] at hold
        exact .inl ⟨result, hold.symm⟩
  · rintro later earlier job rfl
    obtain ⟨before, after, hearlier, hallows⟩ := htrace.split
    have hrecent := recent_of_trace hearlier
    cases hallows with
    | giveUp hjob =>
        cases before with
        | empty => cases hjob
        | posted given =>
            cases hjob
            obtain ⟨rest, hposted⟩ := hrecent
            exact ⟨[], rest, hposted, by simp⟩
        | taken given =>
            cases hjob
            obtain ⟨input, rest, htaken, -⟩ := hrecent
            exact ⟨[.take input], rest, htaken, by simp⟩
        | done given result =>
            cases hjob
            obtain ⟨input, rest, hdone, -⟩ := hrecent
            exact ⟨[.finish result, .take input], rest, hdone, by simp⟩

end AngryUefi.Mailbox
