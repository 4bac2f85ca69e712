import AngryUefi.Lib.X86

/-!
# Calls by the System V convention

A function finds its arguments in registers and the stack aligned below its
return address, and gives back the registers that belong to its caller.  Code
around a call keeps the others on the stack: what was pushed is popped again,
as long as nobody writes from the pushed quadwords on.
-/

namespace AngryUefi.SystemV

open AngryUefi.X86 AngryUefi.AddressSpace

/-- The registers that a function preserves, besides RSP. -/
def calleeSaved : List Reg := [.rbx, .rbp, .r12, .r13, .r14, .r15]

def arguments : List Reg := [.rdi, .rsi, .rdx, .rcx, .r8, .r9]

/-- On entry the return address is on top of a stack that is aligned to 16
bytes. -/
def Entered (m : Cpu) : Prop := (m.reg .rsp).toNat % 16 = 8

instance (m : Cpu) : Decidable (Entered m) := inferInstanceAs (Decidable (_ = _))

/-- What a function leaves to its caller that stores nothing outside of its own
part of the stack.  The other registers have any value. -/
structure Returns (called after : Cpu) : Prop where
  rip : after.rip = called.top
  rsp : after.reg .rsp = called.reg .rsp + 8
  reg : ∀ r ∈ calleeSaved, after.reg r = called.reg r
  memory : ∀ address : UInt64, (called.reg .rsp).toNat + 8 ≤ address.toNat →
    after.memory address = called.memory address

/-! ## Registers on the stack -/

/-- The quadwords from an address on. -/
def StackHolds (memory : AddressSpace) : UInt64 → List UInt64 → Prop
  | _, [] => True
  | address, value :: values => memory.load address = value ∧ StackHolds memory (address + 8) values

def pushes {Label : Type} (registers : List Reg) : List (Instruction Label) :=
  registers.map .push

def pops {Label : Type} (registers : List Reg) : List (Instruction Label) :=
  registers.map .pop

variable {Label : Type} {image : Image Label} {registers : List Reg} {m : Cpu}
variable {memory memory' : AddressSpace} {address : UInt64} {values : List UInt64}

/-- Below the end of the address space, what is stored further down does not
matter. -/
theorem StackHolds.congr (hholds : StackHolds memory address values)
    (hend : address.toNat + 8 * values.length < 2 ^ 64)
    (hsame : ∀ other : UInt64, address.toNat ≤ other.toNat → memory' other = memory other) :
    StackHolds memory' address values := by
  induction values generalizing address with
  | nil => trivial
  | cons value values ih =>
      obtain ⟨hvalue, hvalues⟩ := hholds
      rw [List.length_cons] at hend
      constructor
      · rw [← hvalue]
        exact load_congr_above (by omega) hsame
      · have height : (8 : UInt64).toNat = 8 := rfl
        have hnext : (address + 8).toNat = address.toNat + 8 := by
          rw [UInt64.toNat_add, height, Nat.mod_eq_of_lt (by omega)]
        apply ih hvalues
        · rw [hnext]
          omega
        · intro other hother
          exact hsame other (by omega)

/-- Pushes change no register but RSP. -/
theorem reg_pushes (image : Image Label) (registers : List Reg) (m : Cpu) :
    (runBlock image (pushes registers) m).reg =
      Function.update m.reg .rsp (m.reg .rsp - UInt64.ofNat (8 * registers.length)) := by
  induction registers generalizing m with
  | nil =>
      have hzero : m.reg .rsp - UInt64.ofNat (8 * ([] : List Reg).length) = m.reg .rsp :=
        UInt64.sub_zero _
      rw [hzero, Function.update_eq_self]
      rfl
  | cons first registers ih =>
      obtain ⟨next, hnext⟩ : ∃ next, next = Instruction.run image
          { m with rip := m.rip + image.length (.push first) } (.push first) := ⟨_, rfl⟩
      have hreg : next.reg = Function.update m.reg .rsp (m.reg .rsp - 8) := by rw [hnext]; rfl
      have hrun : runBlock image (pushes (first :: registers)) m =
          runBlock image (pushes registers) next := by rw [hnext]; rfl
      have hdepth : m.reg .rsp - 8 - UInt64.ofNat (8 * registers.length) =
          m.reg .rsp - UInt64.ofNat (8 * (first :: registers).length) := by
        rw [List.length_cons, Nat.mul_succ, UInt64.ofNat_add, sub_sub, UInt64.add_comm]
        rfl
      rw [hrun, ih, hreg, Function.update_self, Function.update_idem, hdepth]

/-- The machine after the registers have been pushed. -/
structure Pushed (registers : List Reg) (m saved : Cpu) : Prop where
  rsp : (saved.reg .rsp).toNat + 8 * registers.length = (m.reg .rsp).toNat
  reg : ∀ r : Reg, r ≠ .rsp → saved.reg r = m.reg r
  holds : StackHolds saved.memory (saved.reg .rsp) (registers.reverse.map m.reg)
  memory : ∀ address : UInt64, address.toNat < (saved.reg .rsp).toNat ∨
    (m.reg .rsp).toNat ≤ address.toNat → saved.memory address = m.memory address

/-- Room for one quadword more. -/
theorem toNat_sub_eight (hroom : 8 ≤ address.toNat) : (address - 8).toNat = address.toNat - 8 := by
  have height : (8 : UInt64).toNat = 8 := rfl
  have hlt := address.toNat_lt
  rw [UInt64.toNat_sub, height]
  omega

theorem store_sub_eight (hroom : 8 ≤ address.toNat) {other : UInt64} (value : UInt64)
    (hother : other.toNat < address.toNat - 8 ∨ address.toNat ≤ other.toNat) :
    memory.store (address - 8) value other = memory other := by
  apply store_of_le
  rw [UInt64.toNat_sub, toNat_sub_eight hroom]
  have haddress := address.toNat_lt
  have hlt := other.toNat_lt
  omega

theorem pushed_pushes (image : Image Label) (hregisters : .rsp ∉ registers)
    (hroom : 8 * registers.length ≤ (m.reg .rsp).toNat) :
    Pushed registers m (runBlock image (pushes registers) m) := by
  induction registers using List.reverseRecOn with
  | nil => exact ⟨rfl, fun r _ => rfl, trivial, fun address _ => rfl⟩
  | append_singleton registers last ih =>
      rw [List.mem_append, List.mem_singleton, not_or] at hregisters
      rw [List.length_append, List.length_singleton] at hroom
      have hbefore := ih hregisters.1 (by omega)
      obtain ⟨saved, hsaved⟩ : ∃ saved, saved = runBlock image (pushes registers) m := ⟨_, rfl⟩
      have hpush : runBlock image (pushes (registers ++ [last])) m =
          { saved.push (saved.reg last) with rip := saved.rip + image.length (.push last) } := by
        rw [pushes, List.map_append, runBlock, List.foldl_append, hsaved]
        rfl
      rw [← hsaved] at hbefore
      rw [hpush]
      have hrsp := hbefore.rsp
      have hroomLast : 8 ≤ (saved.reg .rsp).toNat := by omega
      have hlower := toNat_sub_eight hroomLast
      constructor
      case rsp =>
        change (saved.reg .rsp - 8).toNat + 8 * (registers ++ [last]).length = _
        rw [hlower, List.length_append, List.length_singleton]
        omega
      case reg =>
        intro r hr
        exact (Function.update_of_ne hr _ _).trans (hbefore.reg r hr)
      case holds =>
        have htop : (saved.reg .rsp).toNat + 8 * (registers.reverse.map m.reg).length < 2 ^ 64 := by
          rw [List.length_map, List.length_reverse, hrsp]
          exact (m.reg .rsp).toNat_lt
        rw [List.reverse_append, List.reverse_singleton, List.singleton_append, List.map_cons]
        refine ⟨load_store.trans (hbefore.reg last (Ne.symm hregisters.2)), ?_⟩
        change StackHolds (saved.memory.store (saved.reg .rsp - 8) (saved.reg last))
          (saved.reg .rsp - 8 + 8) _
        rw [sub_add_cancel]
        exact hbefore.holds.congr htop fun other hother =>
          store_sub_eight hroomLast _ (.inr hother)
      case memory =>
        intro other hother
        change saved.memory.store (saved.reg .rsp - 8) (saved.reg last) other = _
        change other.toNat < (saved.reg .rsp - 8).toNat ∨ _ at hother
        rw [hlower] at hother
        rw [store_sub_eight hroomLast _ (by omega)]
        exact hbefore.memory other (by omega)

/-- The machine after the registers have been popped. -/
structure Popped (registers : List Reg) (value : Reg → UInt64) (m restored : Cpu) : Prop where
  rsp : restored.reg .rsp = m.reg .rsp + UInt64.ofNat (8 * registers.length)
  popped : ∀ r ∈ registers, restored.reg r = value r
  reg : ∀ r : Reg, r ∉ registers → r ≠ .rsp → restored.reg r = m.reg r
  memory : restored.memory = m.memory

theorem popped_pops (image : Image Label) {value : Reg → UInt64} (hregisters : .rsp ∉ registers)
    (hholds : StackHolds m.memory (m.reg .rsp) (registers.map value)) :
    Popped registers value m (runBlock image (pops registers) m) := by
  induction registers generalizing m with
  | nil => exact ⟨(UInt64.add_zero _).symm, fun r hr => absurd hr List.not_mem_nil,
      fun r _ _ => rfl, rfl⟩
  | cons first registers ih =>
      rw [List.mem_cons, not_or] at hregisters
      obtain ⟨hfirst, hrest⟩ := hholds
      obtain ⟨next, hnext⟩ : ∃ next, next = Instruction.run image
          { m with rip := m.rip + image.length (.pop first) } (.pop first) := ⟨_, rfl⟩
      have hreg : next.reg = Function.update (Function.update m.reg .rsp (m.reg .rsp + 8)) first
          (m.memory.load (m.reg .rsp)) := by rw [hnext]; rfl
      have hmemory : next.memory = m.memory := by rw [hnext]; rfl
      have hrsp : next.reg .rsp = m.reg .rsp + 8 := by
        rw [hreg, Function.update_of_ne hregisters.1, Function.update_self]
      have hafter := ih hregisters.2 (m := next) (by rw [hmemory, hrsp]; exact hrest)
      have hrun : runBlock image (pops (first :: registers)) m =
          runBlock image (pops registers) next := by rw [hnext]; rfl
      rw [hrun]
      constructor
      case rsp =>
        rw [hafter.rsp, hrsp, List.length_cons, UInt64.add_assoc]
        congr 1
        apply UInt64.toNat_inj.mp
        simp only [UInt64.toNat_add, UInt64.toNat_ofNat', UInt64.reduceToNat]
        omega
      case popped =>
        intro r hr
        by_cases hlater : r ∈ registers
        · exact hafter.popped r hlater
        · have hsame : r = first := (List.mem_cons.mp hr).resolve_right hlater
          subst hsame
          rw [hafter.reg r hlater (Ne.symm hregisters.1), hreg, Function.update_self, hfirst]
      case reg =>
        intro r hr hother
        rw [List.mem_cons, not_or] at hr
        rw [hafter.reg r hr.2 hother, hreg, Function.update_of_ne hr.1,
          Function.update_of_ne hother]
      case memory => rw [hafter.memory, hmemory]

end AngryUefi.SystemV
