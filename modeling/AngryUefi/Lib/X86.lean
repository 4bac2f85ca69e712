import AngryUefi.Lib.AddressSpace
import Mathlib.Logic.Function.Basic

/-!
# A fragment of x86-64

The instructions that hand-written stubs and interrupt handlers consist of,
over 64-bit registers and an address space.  A program gives each label its
instructions; `call` pushes the address of the next instruction and `ret` has
to come back to it.  `Image` says where the assembler and the loader have put
things, and how the processor and code that is not part of the program behave.
-/

namespace AngryUefi.X86

open AngryUefi AngryUefi.AddressSpace

inductive Reg
  | rax | rbx | rcx | rdx | rsi | rdi | rbp | rsp
  | r8 | r9 | r10 | r11 | r12 | r13 | r14 | r15
  deriving DecidableEq

inductive ControlReg
  | cr0 | cr2 | cr3 | cr4
  deriving DecidableEq

/-- The interrupt descriptor table register. -/
structure Idtr where
  limit : UInt16
  base : UInt64

/-- What others see of the code: time-stamps it reads, writes of model specific
registers and calls through a register, both with the memory at that time, and
a call with RAX. -/
inductive Event
  | rdtscp (value : UInt64)
  | wrmsr (number : UInt32) (value : UInt64) (faulted : Bool) (memory : AddressSpace)
  | call (target rax : UInt64) (memory : AddressSpace)

def Event.isWrite : Event → Bool
  | wrmsr .. => true
  | _ => false

def Event.isCall : Event → Bool
  | call .. => true
  | _ => false

structure Cpu where
  reg : Reg → UInt64
  rip : UInt64
  rflags : UInt64
  cs : UInt64
  ss : UInt64
  control : ControlReg → UInt64
  idtr : Idtr
  memory : AddressSpace
  events : List Event

/-- Operands stand in the order of the assembler: source, then target; an
address is a displacement and a base register.  `Long` is 32 bits, `Word`
16. -/
inductive Instruction (Label : Type)
  | mov (source target : Reg)
  | movLong (source target : Reg)
  | load (displacement : UInt64) (base target : Reg)
  | loadLong (displacement : UInt64) (base target : Reg)
  | store (source : Reg) (displacement : UInt64) (base : Reg)
  | storeWord (source : Reg) (displacement : UInt64) (base : Reg)
  | storeImm (value displacement : UInt64) (base : Reg)
  | movImm (value : UInt64) (target : Reg)
  | loadRip (symbol : Label) (target : Reg)
  | leaRip (symbol : Label) (target : Reg)
  | movControl (source : ControlReg) (target : Reg)
  | addImm (value : UInt64) (target : Reg)
  | subImm (value : UInt64) (target : Reg)
  | sub (source target : Reg)
  | or (source target : Reg)
  | shlImm (count : UInt64) (target : Reg)
  | shrImm (count : UInt64) (target : Reg)
  | cmpWordImm (value : UInt16) (target : Reg)
  | cmpImm (value : UInt64) (target : Reg)
  | push (source : Reg)
  | pop (target : Reg)
  | rdtscp
  | lidt (displacement : UInt64) (base : Reg)
  | wrmsr
  | call (routine : Label)
  | callReg (target : Reg)
  | jmp (target : Label)
  | je (target : Label)
  | jne (target : Label)
  | jmpReg (target : Reg)
  | ret
  | iretq

/-- How a piece of code ends.  `next` has run through, `returned` has executed
`ret`, `interruptReturned` is about to execute `iretq`, `jumped` is about to run
code outside of the program for good, `lost` runs code that is not known. -/
inductive Outcome
  | next (m : Cpu)
  | returned (m : Cpu)
  | interruptReturned (m : Cpu)
  | jumped (m : Cpu)
  | lost

/-- What the code does not say: where code and data lie, how long instructions
are, the flags after arithmetic, the time-stamp counter and which writes of
model specific registers fault, both given the events so far, what the fault
handler leaves of the machine, and what code outside of the program does. -/
structure Image (Label : Type) where
  address : Label → UInt64
  length : Instruction Label → UInt64
  flags : Instruction Label → (rflags left right : UInt64) → UInt64
  timeStamp : List Event → UInt64
  auxiliary : List Event → UInt32
  faults : List Event → (number : UInt32) → (value : UInt64) → Bool
  handled : Cpu → Cpu
  foreign : UInt64 → Cpu → Outcome

namespace Cpu

def setReg (m : Cpu) (target : Reg) (value : UInt64) : Cpu :=
  { m with reg := Function.update m.reg target value }

@[simp]
theorem reg_setReg (m : Cpu) (target : Reg) (value : UInt64) :
    (m.setReg target value).reg = Function.update m.reg target value := rfl

def store (m : Cpu) (address value : UInt64) : Cpu :=
  { m with memory := m.memory.store address value }

def push (m : Cpu) (value : UInt64) : Cpu :=
  let top := m.reg .rsp - 8
  (m.setReg .rsp top).store top value

def event (m : Cpu) (event : Event) : Cpu := { m with events := m.events ++ [event] }

/-- The quadword on top of the stack. -/
def top (m : Cpu) : UInt64 := m.memory.load (m.reg .rsp)

/-- The quadword `depth` bytes above the top of the stack. -/
def peek (m : Cpu) (depth : UInt64) : UInt64 := m.memory.load (m.reg .rsp + depth)

/-- EDX:EAX -/
def pair (m : Cpu) : UInt64 :=
  ((m.reg .rdx &&& 0xFFFFFFFF) <<< 32) ||| (m.reg .rax &&& 0xFFFFFFFF)

/-- The zero flag. -/
def zero (m : Cpu) : Bool := m.rflags &&& 0x40 != 0

/-- What `iretq` pops: RIP, CS, RFLAGS, RSP and SS. -/
def interruptReturn (m : Cpu) : Cpu :=
  { m.setReg .rsp (m.peek 24) with
    rip := m.top
    cs := m.peek 8
    rflags := m.peek 16
    ss := m.peek 32 }

@[simp]
theorem reg_interruptReturn (m : Cpu) :
    m.interruptReturn.reg = Function.update m.reg .rsp (m.peek 24) := rfl

/-- The frame of an interrupt that does not change the privilege level: the
stack is aligned, then SS, RSP, RFLAGS, CS, RIP and, for some vectors, an error
code are pushed.  `m.rflags` is the image the processor pushes. -/
def interrupt (m : Cpu) (errorCode : Option UInt64) (handler : UInt64) : Cpu :=
  let aligned := m.setReg .rsp (m.reg .rsp &&& 0xFFFFFFFFFFFFFFF0)
  let frame := ((((aligned.push m.ss).push (m.reg .rsp)).push m.rflags).push m.cs).push m.rip
  { (match errorCode with
    | some code => frame.push code
    | none => frame) with rip := handler }

end Cpu

namespace Instruction

variable {Label : Type}

/-- The result of arithmetic, with its flags. -/
def arithmetic (image : Image Label) (m : Cpu) (instruction : Instruction Label)
    (operation : UInt64 → UInt64 → UInt64) (source : UInt64) (target : Reg) : Cpu :=
  { m.setReg target (operation (m.reg target) source) with
    rflags := image.flags instruction m.rflags (m.reg target) source }

/-- The effect of an instruction that goes on to the next one. -/
def run (image : Image Label) (m : Cpu) : Instruction Label → Cpu
  | mov source target => m.setReg target (m.reg source)
  | movLong source target => m.setReg target (m.reg source &&& 0xFFFFFFFF)
  | load displacement base target =>
      m.setReg target (m.memory.load (m.reg base + displacement))
  | loadLong displacement base target =>
      m.setReg target (m.memory.loadLong (m.reg base + displacement)).toUInt64
  | store source displacement base => m.store (m.reg base + displacement) (m.reg source)
  | storeWord source displacement base =>
      { m with
        memory := m.memory.storeWord (m.reg base + displacement) (m.reg source).toUInt16 }
  | storeImm value displacement base => m.store (m.reg base + displacement) value
  | movImm value target => m.setReg target value
  | loadRip symbol target => m.setReg target (m.memory.load (image.address symbol))
  | leaRip symbol target => m.setReg target (image.address symbol)
  | movControl source target => m.setReg target (m.control source)
  | addImm value target => arithmetic image m (addImm value target) (· + ·) value target
  | subImm value target => arithmetic image m (subImm value target) (· - ·) value target
  | sub source target => arithmetic image m (sub source target) (· - ·) (m.reg source) target
  | or source target => arithmetic image m (or source target) (· ||| ·) (m.reg source) target
  | shlImm count target => arithmetic image m (shlImm count target) (· <<< ·) count target
  | shrImm count target => arithmetic image m (shrImm count target) (· >>> ·) count target
  | cmpWordImm value target =>
      { m with
        rflags :=
          let rflags := image.flags (cmpWordImm value target) m.rflags (m.reg target)
            value.toUInt64
          if (m.reg target).toUInt16 = value then rflags ||| 0x40
          else rflags &&& 0xFFFFFFFFFFFFFFBF }
  | cmpImm value target =>
      { m with
        rflags :=
          let rflags := image.flags (cmpImm value target) m.rflags (m.reg target) value
          if m.reg target = value then rflags ||| 0x40
          else rflags &&& 0xFFFFFFFFFFFFFFBF }
  | push source => m.push (m.reg source)
  -- RSP is incremented before the value is written to the target
  | pop target => (m.setReg .rsp (m.reg .rsp + 8)).setReg target m.top
  | rdtscp =>
      let value := image.timeStamp m.events
      (((m.setReg .rax (value &&& 0xFFFFFFFF)).setReg .rdx (value >>> 32)).setReg .rcx
        (image.auxiliary m.events).toUInt64).event (.rdtscp value)
  | lidt displacement base =>
      { m with
        idtr :=
          { limit := m.memory.loadWord (m.reg base + displacement)
            base := m.memory.load (m.reg base + displacement + 2) } }
  | wrmsr | call _ | callReg _ | jmp _ | je _ | jne _ | jmpReg _ | ret | iretq => m

end Instruction

namespace Outcome

def andThen (outcome : Outcome) (rest : Cpu → Outcome) : Outcome :=
  match outcome with
  | next m => rest m
  | outcome => outcome

/-- The code runs through and leaves a machine of this kind. -/
def Next (post : Cpu → Prop) : Outcome → Prop
  | next m => post m
  | _ => False

/-- The code returns with a machine of this kind. -/
def Returned (post : Cpu → Prop) : Outcome → Prop
  | returned m => post m
  | _ => False

/-- The code jumps out of the program with a machine of this kind. -/
def Jumped (post : Cpu → Prop) : Outcome → Prop
  | jumped m => post m
  | _ => False

/-- The code reaches `iretq` with a machine of this kind. -/
def Interrupted (post : Cpu → Prop) : Outcome → Prop
  | interruptReturned m => post m
  | _ => False

theorem Interrupted.mono {outcome : Outcome} {post post' : Cpu → Prop}
    (houtcome : outcome.Interrupted post) (himplies : ∀ m, post m → post' m) :
    outcome.Interrupted post' := by
  cases outcome with
  | interruptReturned m => exact himplies m houtcome
  | _ => exact houtcome

theorem not_interrupted_of {outcome : Outcome} {post post' : Cpu → Prop}
    (houtcome : outcome.Interrupted post) (hexcludes : ∀ m, post m → ¬post' m) :
    ¬outcome.Interrupted post' := by
  cases outcome with
  | interruptReturned m => exact hexcludes m houtcome
  | _ => exact fun _ => houtcome

theorem Returned.mono {outcome : Outcome} {post post' : Cpu → Prop}
    (houtcome : outcome.Returned post) (himplies : ∀ m, post m → post' m) :
    outcome.Returned post' := by
  cases outcome with
  | returned m => exact himplies m houtcome
  | _ => exact houtcome

theorem Returned.exists_eq {outcome : Outcome} {post : Cpu → Prop}
    (houtcome : outcome.Returned post) : ∃ m, outcome = returned m ∧ post m := by
  cases outcome with
  | returned m => exact ⟨m, rfl, houtcome⟩
  | _ => exact houtcome.elim

theorem Interrupted.exists_eq {outcome : Outcome} {post : Cpu → Prop}
    (hinterrupted : outcome.Interrupted post) :
    ∃ m, outcome = interruptReturned m ∧ post m := by
  cases outcome <;> simp_all [Interrupted]

theorem Jumped.mono {outcome : Outcome} {post post' : Cpu → Prop}
    (houtcome : outcome.Jumped post) (himplies : ∀ m, post m → post' m) :
    outcome.Jumped post' := by
  cases outcome with
  | jumped m => exact himplies m houtcome
  | _ => exact houtcome

/-- A question about every machine that a routine can return with. -/
theorem Returned.returned_iff {outcome : Outcome} {post post' : Cpu → Prop} {answer : Prop}
    (houtcome : outcome.Returned post) (hanswer : ∀ m, post m → (post' m ↔ answer)) :
    outcome.Returned post' ↔ answer := by
  cases outcome with
  | returned m => exact hanswer m houtcome
  | _ => exact houtcome.elim

/-- Running off the end of a routine is running unknown code. -/
def closed (outcome : Outcome) : Outcome := outcome.andThen fun _ => lost

/-- The events are those of the program's own code. -/
def withEvents (outcome : Outcome) (events : List Event) : Outcome :=
  match outcome with
  | next m => next { m with events := events }
  | returned m => returned { m with events := events }
  | interruptReturned m => interruptReturned { m with events := events }
  | jumped m => jumped { m with events := events }
  | lost => lost

/-- A call comes back when the routine returns to the address that was
pushed. -/
def backTo (outcome : Outcome) (address : UInt64) : Outcome :=
  match outcome with
  | returned m => if m.rip = address then next m else lost
  | interruptReturned m => interruptReturned m
  | _ => lost

end Outcome

section

variable {Label : Type} (image : Image Label) (code : Label → List (Instruction Label))

/-- Run a list of instructions; `routine` runs the code behind a label. -/
def execBlock (routine : Label → Cpu → Outcome) :
    List (Instruction Label) → Cpu → Outcome
  | [], m => .next m
  | instruction :: rest, before =>
      let m := { before with rip := before.rip + image.length instruction }
      match instruction with
      | .wrmsr =>
          let number := (before.reg .rcx).toUInt32
          let written := before.event
            (.wrmsr number before.pair (image.faults before.events number before.pair)
              before.memory)
          if image.faults before.events number before.pair then
            -- the handler resumes behind the instruction or somewhere else
            if (image.handled written).rip = m.rip then
              execBlock routine rest { image.handled written with events := written.events }
            else .lost
          else execBlock routine rest { written with rip := m.rip }
      | .call label =>
          ((routine label { m.push m.rip with rip := image.address label }).backTo
            m.rip).andThen (execBlock routine rest)
      | .callReg target =>
          let address := m.reg target
          let called := (m.push m.rip).event (.call address (m.reg .rax) (m.push m.rip).memory)
          (((image.foreign address { called with rip := address }).withEvents
            called.events).backTo m.rip).andThen (execBlock routine rest)
      | .jmp label => (routine label { m with rip := image.address label }).closed
      | .je label =>
          if m.zero then (routine label { m with rip := image.address label }).closed
          else execBlock routine rest m
      | .jne label =>
          if m.zero then execBlock routine rest m
          else (routine label { m with rip := image.address label }).closed
      | .jmpReg target => .jumped { m with rip := m.reg target }
      | .ret => .returned { m.setReg .rsp (m.reg .rsp + 8) with rip := m.top }
      | .iretq => .interruptReturned m
      | instruction => execBlock routine rest (instruction.run image m)

/-- Run the code behind a label, with at most `depth` calls and jumps inside
each other. -/
def exec : ℕ → Label → Cpu → Outcome
  | 0, _, _ => .lost
  | depth + 1, label, m => execBlock image (exec depth) (code label) m

end

section

variable {Label : Type} (image : Image Label)

/-- Instructions that go on to the next one. -/
def Instruction.straight : Instruction Label → Bool
  | .wrmsr | .call _ | .callReg _ | .jmp _ | .je _ | .jne _ | .jmpReg _ | .ret | .iretq => false
  | _ => true

/-- Straight-line code. -/
def runBlock (block : List (Instruction Label)) (m : Cpu) : Cpu :=
  block.foldl
    (fun m instruction =>
      instruction.run image { m with rip := m.rip + image.length instruction }) m

end

/-! ## Rules -/

section

variable {Label : Type} {image : Image Label} {code : Label → List (Instruction Label)}
variable {routine : Label → Cpu → Outcome}

theorem execBlock_append (first second : List (Instruction Label)) (m : Cpu) :
    execBlock image routine (first ++ second) m =
      (execBlock image routine first m).andThen (execBlock image routine second) := by
  induction first generalizing m with
  | nil => rfl
  | cons instruction rest ih =>
      cases instruction with
      | call label =>
          simp only [List.cons_append, execBlock]
          cases (routine label _).backTo _ with
          | next m => exact ih m
          | _ => rfl
      | callReg target =>
          simp only [List.cons_append, execBlock]
          cases ((image.foreign _ _).withEvents _).backTo _ with
          | next m => exact ih m
          | _ => rfl
      | jmp label =>
          simp only [List.cons_append, execBlock]
          cases routine label _ <;> rfl
      | je label =>
          simp only [List.cons_append, execBlock]
          split
          · cases routine label _ <;> rfl
          · exact ih _
      | jne label =>
          simp only [List.cons_append, execBlock]
          split
          · exact ih _
          · cases routine label _ <;> rfl
      | wrmsr =>
          simp only [List.cons_append, execBlock]
          split
          · split
            · exact ih _
            · rfl
          · exact ih _
      | jmpReg => rfl
      | ret => rfl
      | iretq => rfl
      | _ => exact ih _

theorem runBlock_append (first second : List (Instruction Label)) (m : Cpu) :
    runBlock image (first ++ second) m = runBlock image second (runBlock image first m) :=
  List.foldl_append

theorem execBlock_straight {block : List (Instruction Label)}
    (hstraight : block.all Instruction.straight) (rest : List (Instruction Label))
    (m : Cpu) :
    execBlock image routine (block ++ rest) m =
      execBlock image routine rest (runBlock image block m) := by
  induction block generalizing m with
  | nil => rfl
  | cons instruction block ih =>
      rw [List.all_cons, Bool.and_eq_true] at hstraight
      rw [List.cons_append, runBlock, List.foldl_cons]
      cases instruction with
      | wrmsr | call | callReg | jmp | je | jne | jmpReg | ret | iretq => cases hstraight.1
      | _ => exact ih hstraight.2 _

/-- A call of a routine that returns to the pushed address. -/
theorem execBlock_call {label : Label} {rest : List (Instruction Label)} {m after : Cpu}
    (hroutine : routine label
        { ({ m with rip := m.rip + image.length (.call label) }).push
            (m.rip + image.length (.call label)) with
          rip := image.address label } = .returned after)
    (hback : after.rip = m.rip + image.length (.call label)) :
    execBlock image routine (.call label :: rest) m = execBlock image routine rest after := by
  simp only [execBlock]
  rw [hroutine, Outcome.backTo, if_pos hback, Outcome.andThen]

theorem zero_set (rflags : UInt64) : (rflags ||| 0x40) &&& 0x40 = 0x40 := by
  apply UInt64.toNat_inj.mp
  apply Nat.eq_of_testBit_eq
  intro index
  simp only [UInt64.toNat_and, UInt64.toNat_or, Nat.testBit_and, Nat.testBit_or]
  cases rflags.toNat.testBit index <;> simp

theorem zero_clear (rflags : UInt64) : (rflags &&& 0xFFFFFFFFFFFFFFBF) &&& 0x40 = 0 := by
  rw [UInt64.and_assoc]
  exact UInt64.and_zero

/-- The zero flag of a comparison. -/
theorem zero_run_cmpWordImm (m : Cpu) (value : UInt16) (target : Reg) :
    ((Instruction.cmpWordImm value target).run image m).zero =
      ((m.reg target).toUInt16 == value) := by
  simp only [Instruction.run, Cpu.zero]
  by_cases hequal : (m.reg target).toUInt16 = value
  · rw [if_pos hequal, zero_set, beq_iff_eq.mpr hequal]
    rfl
  · rw [if_neg hequal, zero_clear, beq_eq_false_iff_ne.mpr hequal]
    rfl

theorem zero_run_cmpImm (m : Cpu) (value : UInt64) (target : Reg) :
    ((Instruction.cmpImm value target).run image m).zero = (m.reg target == value) := by
  simp only [Instruction.run, Cpu.zero]
  by_cases hequal : m.reg target = value
  · rw [if_pos hequal, zero_set, beq_iff_eq.mpr hequal]
    rfl
  · rw [if_neg hequal, zero_clear, beq_eq_false_iff_ne.mpr hequal]
    rfl

end

/-! ## The descriptor table register -/

section

variable {Label : Type} {image : Image Label} {code : Label → List (Instruction Label)}
variable {routine : Label → Cpu → Outcome}

/-- Every machine that the code can end with is of this kind. -/
def Outcome.Leaves (post : Cpu → Prop) : Outcome → Prop
  | next m | returned m | interruptReturned m | jumped m => post m
  | lost => True

/-- Where an instruction goes on in the program. -/
def Instruction.target : Instruction Label → Option Label
  | .call label | .jmp label | .je label | .jne label => some label
  | _ => none

/-- `lidt` loads IDTR; the handler of a faulting `wrmsr` and code outside of the
program may. -/
def Instruction.keepsIdtr : Instruction Label → Bool
  | .lidt .. | .wrmsr | .callReg _ => false
  | _ => true

theorem idtr_run {instruction : Instruction Label} (hkeeps : instruction.keepsIdtr = true)
    (m : Cpu) : (instruction.run image m).idtr = m.idtr := by
  cases instruction with
  | lidt => cases hkeeps
  | _ => rfl

theorem Outcome.Leaves.closed {outcome : Outcome} {post : Cpu → Prop}
    (hleaves : outcome.Leaves post) : outcome.closed.Leaves post := by
  cases outcome with
  | next => trivial
  | _ => exact hleaves

theorem Outcome.Leaves.andThen {outcome : Outcome} {post : Cpu → Prop} {rest : Cpu → Outcome}
    (hleaves : outcome.Leaves post) (hrest : ∀ m, post m → (rest m).Leaves post) :
    (outcome.andThen rest).Leaves post := by
  cases outcome with
  | next m => exact hrest m hleaves
  | _ => exact hleaves

theorem Outcome.Leaves.backTo {outcome : Outcome} {post : Cpu → Prop}
    (hleaves : outcome.Leaves post) (address : UInt64) :
    (outcome.backTo address).Leaves post := by
  cases outcome with
  | returned m =>
      rw [Outcome.backTo]
      split_ifs
      · exact hleaves
      · trivial
  | interruptReturned m => exact hleaves
  | _ => trivial

theorem idtr_execBlock {idtr : Idtr} {block : List (Instruction Label)}
    (hblock : ∀ instruction ∈ block, instruction.keepsIdtr = true ∧
      ∀ label, instruction.target = some label → ∀ m : Cpu, m.idtr = idtr →
        (routine label m).Leaves (·.idtr = idtr)) {m : Cpu} (hm : m.idtr = idtr) :
    (execBlock image routine block m).Leaves (·.idtr = idtr) := by
  induction block generalizing m with
  | nil => exact hm
  | cons instruction rest ih =>
      rw [List.forall_mem_cons] at hblock
      obtain ⟨⟨hkeeps, hroutine⟩, hrest⟩ := hblock
      cases instruction with
      | call label =>
          refine Outcome.Leaves.andThen (Outcome.Leaves.backTo (hroutine label rfl _ ?_) _)
            fun _ hm => ih hrest hm
          exact hm
      | jmp label =>
          refine Outcome.Leaves.closed (hroutine label rfl _ ?_)
          exact hm
      | je label =>
          simp only [execBlock]
          split_ifs
          · refine Outcome.Leaves.closed (hroutine label rfl _ ?_)
            exact hm
          · exact ih hrest hm
      | jne label =>
          simp only [execBlock]
          split_ifs
          · exact ih hrest hm
          · refine Outcome.Leaves.closed (hroutine label rfl _ ?_)
            exact hm
      | wrmsr | callReg | lidt => cases hkeeps
      | jmpReg | ret | iretq => exact hm
      | _ => exact ih hrest ((idtr_run hkeeps _).trans hm)

/-- A part of the program that does not load IDTR and stays among itself. -/
theorem idtr_exec {part : Label → Prop} {idtr : Idtr}
    (hcode : ∀ label, part label → ∀ instruction ∈ code label,
      instruction.keepsIdtr = true ∧ ∀ target, instruction.target = some target → part target)
    (depth : ℕ) {label : Label} (hlabel : part label) {m : Cpu} (hm : m.idtr = idtr) :
    (exec image code depth label m).Leaves (·.idtr = idtr) := by
  induction depth generalizing label m with
  | zero => trivial
  | succ depth ih =>
      refine idtr_execBlock (fun instruction hinstruction => ?_) hm
      obtain ⟨hkeeps, htarget⟩ := hcode label hlabel instruction hinstruction
      exact ⟨hkeeps, fun target hto m hm => ih (htarget target hto) hm⟩

end

/-! ## Interrupt frames -/

/-- Where the frame of an interrupt ends up on the stack. -/
def Cpu.frameEntry (m : Cpu) (errorCode : Option UInt64) : UInt64 :=
  (m.reg .rsp &&& 0xFFFFFFFFFFFFFFF0) - if errorCode.isSome then 48 else 40

/-- A frame as the processor pushed it, RIP at the address. -/
structure HoldsFrame (m : Cpu) (memory : AddressSpace) (slot : UInt64) : Prop where
  rip : memory.load slot = m.rip
  cs : memory.load (slot + 8) = m.cs
  rflags : memory.load (slot + 16) = m.rflags
  rsp : memory.load (slot + 24) = m.reg .rsp
  ss : memory.load (slot + 32) = m.ss

namespace Cpu

variable {m : Cpu} {errorCode : Option UInt64} {handler : UInt64}

theorem reg_interrupt : (m.interrupt errorCode handler).reg =
    Function.update m.reg .rsp (m.frameEntry errorCode) := by
  cases errorCode <;>
    simp [interrupt, push, setReg, Cpu.store, frameEntry, sub_sub]

theorem control_interrupt : (m.interrupt errorCode handler).control = m.control := by
  cases errorCode <;> rfl

theorem memory_interrupt_none : (m.interrupt none handler).memory =
    ((((m.memory.store (m.frameEntry none + 32) m.ss).store
      (m.frameEntry none + 24) (m.reg .rsp)).store (m.frameEntry none + 16) m.rflags).store
        (m.frameEntry none + 8) m.cs).store (m.frameEntry none) m.rip := by
  have hadd (top offset value : UInt64) (hsum : offset + value = 40) :
      top - 40 + offset = top - value := by grind
  simp [interrupt, push, setReg, Cpu.store, frameEntry, sub_sub, hadd _ 32 8 rfl,
    hadd _ 24 16 rfl, hadd _ 16 24 rfl, hadd _ 8 32 rfl]

theorem memory_interrupt_some {code : UInt64} : (m.interrupt (some code) handler).memory =
    (((((m.memory.store (m.frameEntry (some code) + 40) m.ss).store
      (m.frameEntry (some code) + 32) (m.reg .rsp)).store
        (m.frameEntry (some code) + 24) m.rflags).store
          (m.frameEntry (some code) + 16) m.cs).store (m.frameEntry (some code) + 8) m.rip).store
            (m.frameEntry (some code)) code := by
  have hadd (top offset value : UInt64) (hsum : offset + value = 48) :
      top - 48 + offset = top - value := by grind
  simp [interrupt, push, setReg, Cpu.store, frameEntry, sub_sub, hadd _ 40 8 rfl,
    hadd _ 32 16 rfl, hadd _ 24 24 rfl, hadd _ 16 32 rfl, hadd _ 8 40 rfl]

theorem holdsFrame_interrupt_none :
    HoldsFrame m (m.interrupt none handler).memory (m.frameEntry none) := by
  rw [memory_interrupt_none]
  constructor
  all_goals simp only [load_store_add_of_le, load_store_add, load_store, UInt64.reduceToNat,
    Nat.reduceAdd, Nat.reduceLeDiff]

theorem holdsFrame_interrupt_some {code : UInt64} :
    HoldsFrame m (m.interrupt (some code) handler).memory (m.frameEntry (some code) + 8) := by
  rw [memory_interrupt_some]
  constructor
  all_goals simp only [load_store_add_of_le, load_store_add, load_store, UInt64.add_assoc,
    UInt64.reduceAdd, UInt64.reduceToNat, Nat.reduceAdd, Nat.reduceLeDiff]

theorem load_interrupt_some {code : UInt64} :
    (m.interrupt (some code) handler).memory.load (m.frameEntry (some code)) = code := by
  rw [memory_interrupt_some, load_store]

end Cpu

end AngryUefi.X86
