import AngryUefi.Lib.SystemV

/-!
# The call gate to the ASRs

`call_asr_for_index` looks up the function for the index in RAX and jumps to it.
Its arguments wait on the stack while `get_asr_for_index`, which is compiled,
goes through the registry of the context.
-/

namespace AngryUefi.Asr

open AngryUefi.X86 AngryUefi.AddressSpace AngryUefi.SystemV

structure ASREntry where
  index : UInt64
  ptr : UInt64

/-! ## Source -/

/-- Where `asr_registry` is in the packed `CoreContext`. -/
def asrRegistryOffset : UInt64 := 0xD8

/-- The loop of `get_asr_for_index`, at most so many times around. -/
def findAsr (memory : AddressSpace) (asrIndex : UInt64) : ℕ → UInt64 → Option UInt64
  | 0, _ => none
  | rounds + 1, current =>
      if memory.load (current + 8) ≠ 0 then
        if memory.load current = asrIndex then some (memory.load (current + 8))
        else findAsr memory asrIndex rounds (current + 16)
      else some 0

def getAsrForIndex (memory : AddressSpace) (context asrIndex : UInt64) (rounds : ℕ) :
    Option UInt64 :=
  findAsr memory asrIndex rounds (memory.load (context + asrRegistryOffset))

inductive AsrLabel
  | callAsrForIndex
  | callFunc
  | getAsrForIndex
  deriving DecidableEq

abbrev AsrCode := List (Instruction AsrLabel)

def saveArguments : AsrCode := [
  .push .rdi,
  .push .rsi,
  .push .rdx,
  .push .rcx,
  .push .r8,
  .push .r9]

def restoreArguments : AsrCode := [
  .pop .r9,
  .pop .r8,
  .pop .rcx,
  .pop .rdx,
  .pop .rsi,
  .pop .rdi]

/-- `call_asr_for_index` behind the call. -/
def afterLookup : AsrCode := restoreArguments ++ [.cmpImm 0 .rax, .jne .callFunc, .ret]

def callAsrForIndex : AsrCode :=
  saveArguments ++ [.mov .rax .rsi, .call .getAsrForIndex] ++ afterLookup

def callFunc : AsrCode := [.jmpReg .rax]

/-- The gate is only jumped to from outside, and the lookup is code that the
compiler has made. -/
def asrRoutine (image : Image AsrLabel) : AsrLabel → Cpu → Outcome
  | .callAsrForIndex => fun _ => .lost
  | .callFunc => execBlock image (fun _ _ => .lost) callFunc
  | .getAsrForIndex => fun m => image.foreign m.rip m

def callGate (image : Image AsrLabel) (m : Cpu) : Outcome :=
  execBlock image (asrRoutine image) callAsrForIndex m

/-! ## The registry -/

/-- Entries with a function, and one without behind them. -/
def RegistryAt (memory : AddressSpace) : UInt64 → List ASREntry → Prop
  | current, [] => memory.load (current + 8) = 0
  | current, entry :: entries =>
      memory.load current = entry.index ∧ memory.load (current + 8) = entry.ptr ∧ entry.ptr ≠ 0 ∧
        RegistryAt memory (current + 16) entries

/-- The function of the first entry that has the index. -/
def registered (entries : List ASREntry) (asrIndex : UInt64) : Option UInt64 :=
  (entries.find? fun entry => entry.index == asrIndex).map ASREntry.ptr

variable {memory memory' : AddressSpace} {current asrIndex : UInt64} {entries : List ASREntry}
variable {rounds : ℕ}

theorem registered_cons (entry : ASREntry) (entries : List ASREntry) (asrIndex : UInt64) :
    registered (entry :: entries) asrIndex =
      if entry.index = asrIndex then some entry.ptr else registered entries asrIndex := by
  by_cases hfound : entry.index = asrIndex
  · simp [registered, hfound]
  · simp [registered, hfound]

/-- The search comes to an end, whatever is behind the registry. -/
theorem findAsr_eq (hregistry : RegistryAt memory current entries)
    (hrounds : entries.length < rounds) :
    findAsr memory asrIndex rounds current = some ((registered entries asrIndex).getD 0) := by
  induction entries generalizing current rounds with
  | nil =>
      obtain ⟨rounds, rfl⟩ := Nat.exists_eq_add_of_lt hrounds
      have hnull : ¬ memory.load (current + 8) ≠ 0 := not_not.mpr hregistry
      rw [findAsr, if_neg hnull]
      rfl
  | cons entry entries ih =>
      obtain ⟨hindex, hptr, hfunction, hrest⟩ := hregistry
      cases rounds with
      | zero => exact absurd hrounds (Nat.not_lt_zero _)
      | succ rounds =>
          rw [findAsr, hptr, if_pos hfunction, hindex]
          rw [registered_cons]
          by_cases hfound : entry.index = asrIndex
          · rw [if_pos hfound, if_pos hfound, Option.getD_some]
          · rw [if_neg hfound, if_neg hfound]
            exact ih hrest (Nat.lt_of_succ_lt_succ hrounds)

theorem findAsr_add {value : UInt64} (hfound : findAsr memory asrIndex rounds current = some value)
    (more : ℕ) : findAsr memory asrIndex (rounds + more) current = some value := by
  induction rounds generalizing current with
  | zero => cases hfound
  | succ rounds ih =>
      rw [Nat.succ_add, findAsr]
      rw [findAsr] at hfound
      split_ifs at hfound ⊢ with hfunction hsame
      · exact hfound
      · exact ih hfound
      · exact hfound

/-- A lookup has one result, however long one waits for it. -/
theorem getAsrForIndex_unique {context value other : UInt64} {rounds' : ℕ}
    (hvalue : getAsrForIndex memory context asrIndex rounds = some value)
    (hother : getAsrForIndex memory context asrIndex rounds' = some other) : value = other := by
  have hlonger := findAsr_add hvalue rounds'
  rw [Nat.add_comm] at hlonger
  exact Option.some.inj (hlonger.symm.trans (findAsr_add hother rounds))

theorem RegistryAt.congr (hregistry : RegistryAt memory current entries)
    (hsame : ∀ offset < 16 * (entries.length + 1),
      memory' (current + UInt64.ofNat offset) = memory (current + UInt64.ofNat offset)) :
    RegistryAt memory' current entries := by
  have hword (place : ℕ) (hplace : place + 8 ≤ 16 * (entries.length + 1)) :
      memory'.load (current + UInt64.ofNat place) = memory.load (current + UInt64.ofNat place) := by
    apply load_congr
    intro index hindex
    rw [UInt64.add_assoc, ← UInt64.ofNat_add]
    exact hsame _ (by omega)
  induction entries generalizing current with
  | nil =>
      rw [RegistryAt] at hregistry ⊢
      rw [← hregistry]
      exact hword 8 (by simp)
  | cons entry entries ih =>
      obtain ⟨hindex, hptr, hfunction, hrest⟩ := hregistry
      rw [List.length_cons] at hsame hword
      refine ⟨?_, ?_, hfunction, ?_⟩
      · rw [← hindex]
        have hfirst := hword 0 (by omega)
        have hzero : UInt64.ofNat 0 = 0 := rfl
        rwa [hzero, UInt64.add_zero] at hfirst
      · rw [← hptr]
        exact hword 8 (by omega)
      · have hnext (place : ℕ) : current + 16 + UInt64.ofNat place =
            current + UInt64.ofNat (16 + place) := by
          rw [UInt64.ofNat_add, ← UInt64.add_assoc]
          rfl
        apply ih hrest
        · intro offset hoffset
          rw [hnext]
          exact hsame _ (by omega)
        · intro place hplace
          rw [hnext]
          exact hword _ (by omega)

/-- All functions of a registry can be called. -/
theorem RegistryAt.ptr_ne_zero (hregistry : RegistryAt memory current entries) {ptr : UInt64}
    (hfound : registered entries asrIndex = some ptr) : ptr ≠ 0 := by
  induction entries generalizing current with
  | nil => cases hfound
  | cons entry entries ih =>
      obtain ⟨-, -, hfunction, hrest⟩ := hregistry
      rw [registered_cons] at hfound
      by_cases hsame : entry.index = asrIndex
      · rw [if_pos hsame, Option.some.injEq] at hfound
        rwa [← hfound]
      · rw [if_neg hsame] at hfound
        exact ih hrest hfound

/-! ## What callers expect -/

/-- The machine that `get_asr_for_index` starts on. -/
def lookupCalled (image : Image AsrLabel) (m : Cpu) : Cpu :=
  let prepared := runBlock image (saveArguments ++ [.mov .rax .rsi]) m
  { prepared.push (prepared.rip + image.length (.call .getAsrForIndex)) with
    rip := image.address .getAsrForIndex }

/-- What the compiler makes of `get_asr_for_index`, on one call of it. -/
def LooksUp (image : Image AsrLabel) (called : Cpu) : Prop :=
  ∀ rounds value,
    getAsrForIndex called.memory (called.reg .rdi) (called.reg .rsi) rounds = some value →
      (image.foreign (image.address .getAsrForIndex) called).Returned fun after =>
        after.reg .rax = value ∧ Returns called after

/-- The registry of the context in RDI, and a stack that has room below the
return address and nothing else in it. -/
structure Placed (entries : List ASREntry) (m : Cpu) : Prop where
  room : 56 ≤ (m.reg .rsp).toNat
  returnAddress : (m.reg .rsp).toNat + 8 ≤ 2 ^ 64
  registry : RegistryAt m.memory (m.memory.load (m.reg .rdi + asrRegistryOffset)) entries
  contextApart : Disjoint (m.reg .rsp - 56) 56 (m.reg .rdi + asrRegistryOffset) 8
  registryApart : Disjoint (m.reg .rsp - 56) 56
    (m.memory.load (m.reg .rdi + asrRegistryOffset)) (16 * (entries.length + 1))

/-- A function that is jumped to finds the machine as the gate did. -/
structure Forwarded (m after : Cpu) : Prop where
  reg : ∀ r ∈ arguments ++ calleeSaved ++ [.rsp], after.reg r = m.reg r
  memory : ∀ address : UInt64, (m.reg .rsp).toNat ≤ address.toNat →
    after.memory address = m.memory address

/-- The gate jumps to the function of the index, or returns 0 if there is
none. -/
structure Forwards (image : Image AsrLabel) (entries : List ASREntry) (m : Cpu) : Prop where
  found : ∀ ptr, registered entries (m.reg .rax) = some ptr →
    (callGate image m).Jumped fun after => after.rip = ptr ∧ Forwarded m after
  missing : registered entries (m.reg .rax) = none →
    (callGate image m).Returned fun after => after.reg .rax = 0 ∧ Returns m after

/-- It also calls the lookup as a function has to be called. -/
structure Transparent (image : Image AsrLabel) (entries : List ASREntry) (m : Cpu) : Prop where
  entered : Entered (lookupCalled image m)
  forwards : Forwards image entries m

/-! ## The call of the lookup -/

variable {image : Image AsrLabel} {m after : Cpu}

theorem callGate_eq (image : Image AsrLabel) (m : Cpu) :
    callGate image m =
      ((image.foreign (image.address .getAsrForIndex) (lookupCalled image m)).backTo
        (lookupCalled image m).top).andThen (execBlock image (asrRoutine image) afterLookup) := by
  have hsplit : callAsrForIndex = (saveArguments ++ [.mov .rax .rsi]) ++
      (.call .getAsrForIndex :: afterLookup) := rfl
  obtain ⟨prepared, hprepared⟩ : ∃ prepared, prepared =
      runBlock image (saveArguments ++ [.mov .rax .rsi]) m := ⟨_, rfl⟩
  have htop : (lookupCalled image m).top =
      prepared.rip + image.length (.call .getAsrForIndex) := by
    rw [lookupCalled, ← hprepared]
    exact load_store
  rw [callGate, hsplit, execBlock_straight rfl, htop, lookupCalled, ← hprepared]
  rfl

/-- The machine on the call, in terms of the one at the gate. -/
structure LookupCalled (m called : Cpu) : Prop where
  rsp : (called.reg .rsp).toNat + 56 = (m.reg .rsp).toNat
  rdi : called.reg .rdi = m.reg .rdi
  rsi : called.reg .rsi = m.reg .rax
  reg : ∀ r ∈ calleeSaved, called.reg r = m.reg r
  holds : StackHolds called.memory (called.reg .rsp + 8)
    ([Reg.r9, .r8, .rcx, .rdx, .rsi, .rdi].map m.reg)
  memory : ∀ address : UInt64, address.toNat < (called.reg .rsp).toNat ∨
    (m.reg .rsp).toNat ≤ address.toNat → called.memory address = m.memory address

theorem lookupCalled_called (image : Image AsrLabel) (hroom : 56 ≤ (m.reg .rsp).toNat) :
    LookupCalled m (lookupCalled image m) := by
  have hpushed : Pushed [.rdi, .rsi, .rdx, .rcx, .r8, .r9] m (runBlock image saveArguments m) :=
    pushed_pushes image (by decide) (by simp only [List.length_cons, List.length_nil]; omega)
  obtain ⟨saved, hsaved⟩ : ∃ saved, saved = runBlock image saveArguments m := ⟨_, rfl⟩
  rw [← hsaved] at hpushed
  obtain ⟨address, haddress⟩ : ∃ address : UInt64, lookupCalled image m =
      { (saved.setReg .rsi (saved.reg .rax)).push address with
        rip := image.address .getAsrForIndex } := by
    refine ⟨saved.rip + image.length (.mov .rax .rsi) + image.length (.call .getAsrForIndex), ?_⟩
    rw [lookupCalled, runBlock_append, ← hsaved]
    rfl
  rw [haddress]
  have hrsp := hpushed.rsp
  simp only [List.length_cons, List.length_nil] at hrsp
  have hroomSaved : 8 ≤ (saved.reg .rsp).toNat := by omega
  have hlower := toNat_sub_eight hroomSaved
  have hends := (m.reg .rsp).toNat_lt
  constructor
  case rsp =>
    change (saved.reg .rsp - 8).toNat + 56 = _
    omega
  case rdi => exact hpushed.reg .rdi (by decide)
  case rsi => exact hpushed.reg .rax (by decide)
  case reg =>
    intro r hr
    have hothers : r ≠ .rsp ∧ r ≠ .rsi := by
      constructor
      all_goals
        rintro rfl
        exact absurd hr (by decide)
    refine (Function.update_of_ne hothers.1 _ _).trans ?_
    exact (Function.update_of_ne hothers.2 _ _).trans (hpushed.reg r hothers.1)
  case holds =>
    change StackHolds (saved.memory.store (saved.reg .rsp - 8) address) (saved.reg .rsp - 8 + 8) _
    rw [sub_add_cancel]
    apply hpushed.holds.congr
    · simp only [List.length_map, List.length_reverse, List.length_cons, List.length_nil]
      omega
    · intro other hother
      exact store_sub_eight hroomSaved _ (.inr hother)
  case memory =>
    intro other hother
    change other.toNat < (saved.reg .rsp - 8).toNat ∨ _ at hother
    rw [hlower] at hother
    refine (store_sub_eight hroomSaved _ (by omega)).trans ?_
    exact hpushed.memory other (by omega)

/-- Six registers and a return address are half of a unit of 16 bytes too many
for a stack that was aligned. -/
theorem entered_lookupCalled_iff (image : Image AsrLabel) (hroom : 56 ≤ (m.reg .rsp).toNat) :
    Entered (lookupCalled image m) ↔ (m.reg .rsp).toNat % 16 = 0 := by
  have hrsp := (lookupCalled_called image hroom).rsp
  rw [Entered]
  omega

/-- The pushes do not meet the registry. -/
theorem outside_of_disjoint {base offset : UInt64} {length : ℕ} {top : UInt64}
    (hroom : 56 ≤ top.toNat) (hapart : Disjoint (top - 56) 56 base length)
    (hoffset : offset.toNat < length) :
    (base + offset).toNat < top.toNat - 56 ∨ top.toNat ≤ (base + offset).toNat := by
  have hfar := hapart.symm.outside hoffset
  have hdepth : (56 : UInt64).toNat = 56 := rfl
  have htop := top.toNat_lt
  have hlower : (top - 56).toNat = top.toNat - 56 := by
    rw [UInt64.toNat_sub, hdepth]
    omega
  rw [UInt64.toNat_sub, hlower] at hfar
  have hbase := (base + offset).toNat_lt
  omega

theorem RegistryAt.called (image : Image AsrLabel) (hplaced : Placed entries m) :
    (lookupCalled image m).memory.load (m.reg .rdi + asrRegistryOffset) =
        m.memory.load (m.reg .rdi + asrRegistryOffset) ∧
      RegistryAt (lookupCalled image m).memory
        (m.memory.load (m.reg .rdi + asrRegistryOffset)) entries := by
  have hcalled := lookupCalled_called image hplaced.room
  have hrsp := hcalled.rsp
  have hkept (base offset : UInt64) (length : ℕ)
      (hapart : Disjoint (m.reg .rsp - 56) 56 base length) (hoffset : offset.toNat < length) :
      (lookupCalled image m).memory (base + offset) = m.memory (base + offset) := by
    have houtside := outside_of_disjoint hplaced.room hapart hoffset
    exact hcalled.memory _ (by omega)
  constructor
  · apply load_congr
    intro index hindex
    apply hkept _ _ _ hplaced.contextApart
    rw [UInt64.toNat_ofNat']
    exact (Nat.mod_le ..).trans_lt hindex
  · apply hplaced.registry.congr
    intro offset hoffset
    apply hkept _ _ _ hplaced.registryApart
    rw [UInt64.toNat_ofNat']
    exact (Nat.mod_le ..).trans_lt hoffset

/-- What the C function computes on the call. -/
theorem getAsrForIndex_called (image : Image AsrLabel) (hplaced : Placed entries m) :
    getAsrForIndex (lookupCalled image m).memory ((lookupCalled image m).reg .rdi)
        ((lookupCalled image m).reg .rsi) (entries.length + 1) =
      some ((registered entries (m.reg .rax)).getD 0) := by
  have hcalled := lookupCalled_called image hplaced.room
  obtain ⟨hload, hregistry⟩ := RegistryAt.called image hplaced
  rw [getAsrForIndex, hcalled.rdi, hcalled.rsi, hload]
  exact findAsr_eq hregistry (Nat.lt_succ_self _)

/-! ## Behind the lookup -/

variable {restored : Cpu}

/-- The machine that the comparison leaves. -/
theorem execBlock_afterLookup (image : Image AsrLabel) (after : Cpu) :
    ∃ compared, execBlock image (asrRoutine image) afterLookup after =
        execBlock image (asrRoutine image) [.jne .callFunc, .ret] compared ∧
      compared.reg = (runBlock image restoreArguments after).reg ∧
      compared.memory = (runBlock image restoreArguments after).memory ∧
      compared.zero = ((runBlock image restoreArguments after).reg .rax == 0) := by
  have hsplit : afterLookup = (restoreArguments ++ [.cmpImm 0 .rax]) ++ [.jne .callFunc, .ret] :=
    rfl
  rw [hsplit, execBlock_straight rfl, runBlock_append]
  obtain ⟨restored, hrestored⟩ : ∃ restored, restored = runBlock image restoreArguments after :=
    ⟨_, rfl⟩
  rw [← hrestored]
  exact ⟨_, rfl, rfl, rfl, zero_run_cmpImm _ 0 .rax⟩

theorem returned_afterLookup (hrestored : restored = runBlock image restoreArguments after)
    (hnull : restored.reg .rax = 0) :
    (execBlock image (asrRoutine image) afterLookup after).Returned fun final =>
      final.reg = Function.update restored.reg .rsp (restored.reg .rsp + 8) ∧
        final.rip = restored.top ∧ final.memory = restored.memory := by
  obtain ⟨compared, hrun, hreg, hmemory, hzero⟩ := execBlock_afterLookup image after
  rw [← hrestored] at hreg hmemory hzero
  rw [hnull, beq_self_eq_true] at hzero
  have hbranch : execBlock image (asrRoutine image) [.jne .callFunc, .ret] compared =
      execBlock image (asrRoutine image) [.ret]
        { compared with rip := compared.rip + image.length (.jne .callFunc) } := if_pos hzero
  rw [hrun, hbranch]
  refine ⟨?_, ?_, hmemory⟩
  · change Function.update compared.reg .rsp (compared.reg .rsp + 8) = _
    rw [hreg]
  · change compared.memory.load (compared.reg .rsp) = restored.memory.load (restored.reg .rsp)
    rw [hreg, hmemory]

theorem jumped_afterLookup (hrestored : restored = runBlock image restoreArguments after)
    (hfunction : restored.reg .rax ≠ 0) :
    (execBlock image (asrRoutine image) afterLookup after).Jumped fun final =>
      final.reg = restored.reg ∧ final.rip = restored.reg .rax ∧
        final.memory = restored.memory := by
  obtain ⟨compared, hrun, hreg, hmemory, hzero⟩ := execBlock_afterLookup image after
  rw [← hrestored] at hreg hmemory hzero
  have hnot : ¬ compared.zero = true := by
    rw [hzero, beq_iff_eq]
    exact hfunction
  have hbranch : execBlock image (asrRoutine image) [.jne .callFunc, .ret] compared =
      (asrRoutine image .callFunc { compared with rip := image.address .callFunc }).closed :=
    if_neg hnot
  rw [hrun, hbranch]
  refine ⟨hreg, ?_, hmemory⟩
  change compared.reg .rax = _
  rw [hreg]

/-! ## The gate -/

theorem forwarded_of_returns (image : Image AsrLabel) (hroom : 56 ≤ (m.reg .rsp).toNat)
    (hreturns : Returns (lookupCalled image m) after) :
    Forwarded m (runBlock image restoreArguments after) ∧
      (runBlock image restoreArguments after).reg .rax = after.reg .rax := by
  have hcalled := lookupCalled_called image hroom
  obtain ⟨called, hsame⟩ : ∃ called, called = lookupCalled image m := ⟨_, rfl⟩
  rw [← hsame] at hcalled hreturns
  have hrsp := hcalled.rsp
  have hends := (m.reg .rsp).toNat_lt
  have height : (8 : UInt64).toNat = 8 := rfl
  have hlower : (called.reg .rsp + 8).toNat = (called.reg .rsp).toNat + 8 := by
    rw [UInt64.toNat_add, height, Nat.mod_eq_of_lt (by omega)]
  have hholds : StackHolds after.memory (after.reg .rsp)
      ([Reg.r9, .r8, .rcx, .rdx, .rsi, .rdi].map m.reg) := by
    rw [hreturns.rsp]
    apply hcalled.holds.congr
    · rw [hlower]
      simp only [List.length_map, List.length_cons, List.length_nil]
      omega
    · intro other hother
      exact hreturns.memory other (by omega)
  have hpopped : Popped [.r9, .r8, .rcx, .rdx, .rsi, .rdi] m.reg after
      (runBlock image restoreArguments after) := popped_pops image (by decide) hholds
  have hback : (runBlock image restoreArguments after).reg .rsp = m.reg .rsp := by
    rw [hpopped.rsp, hreturns.rsp]
    have hdepth : (UInt64.ofNat (8 * [Reg.r9, .r8, .rcx, .rdx, .rsi, .rdi].length)).toNat = 48 :=
      rfl
    apply UInt64.toNat_inj.mp
    rw [UInt64.toNat_add, hlower, hdepth, Nat.mod_eq_of_lt (by omega)]
    omega
  refine ⟨⟨?_, ?_⟩, hpopped.reg .rax (by decide) (by decide)⟩
  · intro r hr
    rw [List.mem_append, List.mem_append, List.mem_singleton] at hr
    rcases hr with (hargument | hsaved) | rfl
    · apply hpopped.popped
      revert r
      decide
    · have hothers : r ∉ [Reg.r9, .r8, .rcx, .rdx, .rsi, .rdi] ∧ r ≠ .rsp := by
        revert r
        decide
      rw [hpopped.reg r hothers.1 hothers.2, hreturns.reg r hsaved, hcalled.reg r hsaved]
    · exact hback
  · intro address haddress
    rw [hpopped.memory, hreturns.memory address (by omega), hcalled.memory address (.inr haddress)]

/-- Whenever the lookup does its work, the gate does. -/
theorem forwards_of_looksUp (hplaced : Placed entries m)
    (hlookup : LooksUp image (lookupCalled image m)) : Forwards image entries m := by
  obtain ⟨after, hafter, hvalue, hreturns⟩ :=
    (hlookup _ _ (getAsrForIndex_called image hplaced)).exists_eq
  have hgate : callGate image m = execBlock image (asrRoutine image) afterLookup after := by
    rw [callGate_eq, hafter, Outcome.backTo, if_pos hreturns.rip, Outcome.andThen]
  obtain ⟨hforwarded, hrax⟩ := forwarded_of_returns image hplaced.room hreturns
  obtain ⟨restored, hrestored⟩ : ∃ restored, restored = runBlock image restoreArguments after :=
    ⟨_, rfl⟩
  rw [← hrestored] at hforwarded hrax
  rw [hvalue] at hrax
  have hrsp := hforwarded.reg .rsp (by decide)
  constructor
  · intro ptr hfound
    rw [hfound, Option.getD_some] at hrax
    have hjumped := jumped_afterLookup hrestored (by
      rw [hrax]
      exact hplaced.registry.ptr_ne_zero hfound)
    rw [hgate]
    refine hjumped.mono fun final hfinal => ?_
    obtain ⟨hreg, hrip, hmemory⟩ := hfinal
    refine ⟨hrip.trans hrax, ?_, ?_⟩
    · intro r hr
      rw [hreg, hforwarded.reg r hr]
    · intro address haddress
      rw [hmemory, hforwarded.memory address haddress]
  · intro hmissing
    rw [hmissing, Option.getD_none] at hrax
    have hreturned := returned_afterLookup hrestored hrax
    rw [hgate]
    refine hreturned.mono fun final hfinal => ?_
    obtain ⟨hreg, hrip, hmemory⟩ := hfinal
    refine ⟨?_, ?_, ?_, ?_, ?_⟩
    · rw [hreg, Function.update_of_ne (by decide), hrax]
    · rw [hrip, Cpu.top, Cpu.top, hrsp]
      exact load_congr_above hplaced.returnAddress hforwarded.memory
    · rw [hreg, Function.update_self, hrsp]
    · intro r hr
      have hother : r ≠ .rsp := by
        revert r
        decide
      rw [hreg, Function.update_of_ne hother]
      exact hforwarded.reg r (by simp [hr])
    · intro address haddress
      rw [hmemory, hforwarded.memory address (by omega)]

/-! ## A caller -/

def LookupEnds (called : Cpu) : Prop := ∃ value rounds,
  getAsrForIndex called.memory (called.reg .rdi) (called.reg .rsi) rounds = some value

/-- A compiled lookup that leaves nothing in the registers that it need not
preserve. -/
noncomputable def sampleForeign (called : Cpu) : Outcome :=
  open Classical in
  if hends : LookupEnds called then
    .returned
      { called with
        rip := called.top
        reg := fun r =>
          if r = .rax then hends.choose
          else if r = .rsp then called.reg .rsp + 8
          else if r ∈ calleeSaved then called.reg r
          else 0xDEAD }
  else .lost

noncomputable def sampleGate : Image AsrLabel where
  address
    | .callAsrForIndex => 0x8000
    | .callFunc => 0x8030
    | .getAsrForIndex => 0x9000
  length := fun _ => 3
  flags := fun _ rflags _ _ => rflags
  timeStamp := fun _ => 0
  auxiliary := fun _ => 0
  faults := fun _ _ _ => false
  handled := id
  foreign := fun _ => sampleForeign

theorem looksUp_sampleGate (called : Cpu) : LooksUp sampleGate called := by
  intro rounds value hvalue
  have hends : LookupEnds called := ⟨value, rounds, hvalue⟩
  obtain ⟨rounds', hchosen⟩ := hends.choose_spec
  have hforeign : sampleGate.foreign (sampleGate.address .getAsrForIndex) called =
      sampleForeign called := rfl
  rw [hforeign, sampleForeign, dif_pos hends]
  refine ⟨getAsrForIndex_unique hchosen hvalue, rfl, rfl, ?_, fun address _ => rfl⟩
  intro r hr
  have hothers : r ≠ .rax ∧ r ≠ .rsp := by
    revert r
    decide
  change (if r = .rax then _ else if r = .rsp then _ else if r ∈ calleeSaved then _ else _) = _
  rw [if_neg hothers.1, if_neg hothers.2, if_pos hr]

def sampleEntries : List ASREntry := [⟨0x1001, 0x5000⟩]

/-- A caller with the context at 0x2000 and the registry at 0x3000, that calls
as the convention says. -/
def sampleCaller : Cpu where
  reg
    | .rsp => 0x7008
    | .rdi => 0x2000
    | .rax => 0x1001
    | _ => 0
  rip := 0x8000
  rflags := 0x2
  cs := 0x38
  ss := 0x30
  control := fun _ => 0
  idtr := ⟨0, 0⟩
  memory := ((AddressSpace.store (fun _ => 0) 0x20D8 0x3000).store 0x3000 0x1001).store 0x3008
    0x5000
  events := []

theorem entered_sampleCaller : Entered sampleCaller := by
  have hrsp : (sampleCaller.reg .rsp).toNat = 28680 := rfl
  rw [Entered, hrsp]

theorem registry_sampleCaller :
    sampleCaller.memory.load (sampleCaller.reg .rdi + asrRegistryOffset) = 0x3000 := by
  have hptr : Apart 0x3008 0x20D8 := by decide
  have hindex : Apart 0x3000 0x20D8 := by decide
  change AddressSpace.load (((AddressSpace.store (fun _ => 0) 0x20D8 0x3000).store 0x3000
    0x1001).store 0x3008 0x5000) 0x20D8 = _
  rw [load_store_of_apart hptr, load_store_of_apart hindex, load_store]

theorem placed_sampleCaller : Placed sampleEntries sampleCaller := by
  constructor
  case room => decide
  case returnAddress => decide
  case contextApart => exact (disjoint_of_toNat_le (by decide) (by decide)).symm
  case registry =>
    rw [registry_sampleCaller]
    have hindex : Apart 0x3008 0x3000 := by decide
    have hptr : Apart 0x3008 (0x3000 + 16 + 8) := by decide
    have hend : Apart 0x3000 (0x3000 + 16 + 8) := by decide
    have hcontext : Apart 0x20D8 (0x3000 + 16 + 8) := by decide
    refine ⟨?_, ?_, by decide, ?_⟩
    · exact (load_store_of_apart hindex).trans load_store
    · exact load_store
    · refine (load_store_of_apart hptr).trans ((load_store_of_apart hend).trans ?_)
      exact (load_store_of_apart hcontext).trans load_zero
  case registryApart =>
    rw [registry_sampleCaller]
    exact (disjoint_of_toNat_le (by decide) (by decide)).symm

/-! ## When it is transparent -/

/-- The lookup is called on an aligned stack exactly when the gate was entered on
one that the convention rules out.  As long as the lookup works nevertheless,
so does the gate. -/
theorem transparent_iff (hlookup : ∀ called, Entered called → LooksUp image called)
    (hplaced : Placed entries m) :
    (Transparent image entries m ↔ (m.reg .rsp).toNat % 16 = 0) ∧
      (Entered m → ¬ Transparent image entries m) ∧
        (LooksUp image (lookupCalled image m) → Forwards image entries m) := by
  have halignment := entered_lookupCalled_iff image hplaced.room
  have hiff : Transparent image entries m ↔ (m.reg .rsp).toNat % 16 = 0 := by
    constructor
    · intro htransparent
      exact halignment.mp htransparent.entered
    · intro haligned
      have hentered := halignment.mpr haligned
      exact ⟨hentered, forwards_of_looksUp hplaced (hlookup _ hentered)⟩
  refine ⟨hiff, ?_, forwards_of_looksUp hplaced⟩
  intro hentered htransparent
  have haligned := hiff.mp htransparent
  rw [Entered, haligned] at hentered
  exact absurd hentered (by decide)

theorem transparent_iff_sampleCaller : ¬ Transparent sampleGate sampleEntries sampleCaller ∧
    Forwards sampleGate sampleEntries sampleCaller := by
  obtain ⟨-, hnever, hforwards⟩ :=
    transparent_iff (fun called _ => looksUp_sampleGate called) placed_sampleCaller
  exact ⟨hnever entered_sampleCaller, hforwards (looksUp_sampleGate _)⟩

/-- The lookup of a caller that keeps to the convention is called on a stack that
is not aligned. -/
theorem not_transparent_sampleCaller : ¬ ∀ (image : Image AsrLabel) (entries : List ASREntry)
    (m : Cpu), (∀ called, LooksUp image called) → Placed entries m → Entered m →
      Transparent image entries m := by
  intro htransparent
  have hsample := htransparent sampleGate sampleEntries sampleCaller looksUp_sampleGate
    placed_sampleCaller entered_sampleCaller
  have haligned := (entered_lookupCalled_iff _ placed_sampleCaller.room).mp hsample.entered
  rw [entered_sampleCaller] at haligned
  exact absurd haligned (by decide)

end AngryUefi.Asr
