import AngryUefi.System.FaultRecords
import AngryUefi.System.InterruptTable
import AngryUefi.System.UcodeStubs

/-!
# Core 0's #GP gate

Core 0 runs with the firmware's interrupt descriptor table.  `init_ucode` has
`InstallCustomGpfHandler` replace one gate of it, so that a microcode update
that the processor refuses does not end in the firmware's handler.
-/

namespace AngryUefi.System

open AngryUefi.X86 AngryUefi.AddressSpace AngryUefi.Bytes AngryUefi.Transition

/-- `sidt (address)` -/
def sidt (address : UInt64) (m : Cpu) : Cpu :=
  { m with
    memory := (m.memory.storeWord address m.idtr.limit).store (address + 2) m.idtr.base }

/-- `lidt (address)` -/
def lidt (address : UInt64) (m : Cpu) : Cpu :=
  { m with idtr := ⟨m.memory.loadWord address, m.memory.load (address + 2)⟩ }

/-- The descriptor is stored over the constant `idt_structure_addr`, and not
where the constant points to; its address is returned. -/
def readIdtPosition (idtStructureAddr : UInt64) (m : Cpu) : UInt64 × Cpu :=
  (idtStructureAddr, sidt idtStructureAddr m)

def writeIdtPosition (idtStructureAddr : UInt64) (m : Cpu) : Cpu := lidt idtStructureAddr m

/-- What the compiled code does to memory and to IDTR. -/
def installCustomGpfHandler (idtStructureAddr gpfHandler : UInt64) (m : Cpu) : Cpu :=
  let (idtInfo, m) := readIdtPosition idtStructureAddr m
  if idtInfo = 0 then m
  else
    let limit := m.memory.loadWord idtInfo
    let idtEntries := m.memory.load (idtInfo + 2)
    let idtEntryCount := (limit.toNat + 1) / 16
    let vector := 13
    if vector ≥ idtEntryCount then m
    else
      writeIdtPosition idtStructureAddr
        { m with
          memory := m.memory.writeBytes (gateAddress idtEntries vector)
            (idtEntry gpfHandler).bytes }

variable {descriptor handler : UInt64} {m : Cpu} {vector : ℕ}

/-- The table reaches up to the gate's last byte. -/
def HasGate (vector : ℕ) (m : Cpu) : Prop := 16 * vector + 15 ≤ m.idtr.limit.toNat

instance (vector : ℕ) : DecidablePred (HasGate vector) := fun _ =>
  inferInstanceAs (Decidable (_ ≤ _))

/-- The table and the place for the descriptor do not overlap. -/
structure TableApart (descriptor : UInt64) (m : Cpu) : Prop where
  notNull : descriptor ≠ 0
  apart : Disjoint m.idtr.base (m.idtr.limit.toNat + 1) descriptor 10

theorem loadWord_sidt : (sidt descriptor m).memory.loadWord descriptor = m.idtr.limit := by
  simp only [sidt, loadWord_store_add_two, loadWord_storeWord]

theorem load_sidt : (sidt descriptor m).memory.load (descriptor + 2) = m.idtr.base := load_store

/-- Ten bytes are written. -/
theorem memory_sidt {address : UInt64} (hfar : 10 ≤ (address - descriptor).toNat) :
    (sidt descriptor m).memory address = m.memory address := by
  have hbehind : (address - (descriptor + 2)).toNat = (address - descriptor).toNat - 2 := by
    have htwo : (2 : UInt64).toNat = 2 := rfl
    rw [← sub_sub, UInt64.toNat_sub_of_le, htwo]
    rw [UInt64.le_iff_toNat_le, htwo]
    omega
  simp only [sidt]
  rw [store_of_le (by omega), storeWord_eq_writeBytes, writeBytes_of_le]
  rw [length_littleEndian]
  omega

theorem installCustomGpfHandler_of_not_hasGate (hnotNull : descriptor ≠ 0)
    (hshort : ¬ HasGate 13 m) :
    installCustomGpfHandler descriptor handler m = sidt descriptor m := by
  have hcount : 13 ≥ (m.idtr.limit.toNat + 1) / 16 := by
    rw [HasGate] at hshort
    omega
  simp only [installCustomGpfHandler, readIdtPosition, loadWord_sidt, if_neg hnotNull,
    if_pos hcount]

/-- The gate is written between storing and loading the descriptor. -/
def withGate (descriptor handler : UInt64) (m : Cpu) : Cpu :=
  { sidt descriptor m with
    memory := (sidt descriptor m).memory.writeBytes (gateAddress m.idtr.base 13)
      (idtEntry handler).bytes }

theorem installCustomGpfHandler_of_hasGate (hnotNull : descriptor ≠ 0) (hgate : HasGate 13 m) :
    installCustomGpfHandler descriptor handler m =
      lidt descriptor (withGate descriptor handler m) := by
  have hcount : ¬ 13 ≥ (m.idtr.limit.toNat + 1) / 16 := by
    rw [HasGate] at hgate
    omega
  simp only [installCustomGpfHandler, readIdtPosition, loadWord_sidt, load_sidt,
    if_neg hnotNull, if_neg hcount, writeIdtPosition, withGate]

/-! ## The table -/

/-- A gate that the table reaches is apart from the descriptor. -/
theorem TableApart.gate (hapart : TableApart descriptor m) (hgate : HasGate vector m) :
    Disjoint (gateAddress m.idtr.base vector) 16 descriptor 10 := by
  rw [HasGate] at hgate
  have hlimit := m.idtr.limit.toNat_lt
  have hplace : (UInt64.ofNat (16 * vector)).toNat = 16 * vector :=
    UInt64.toNat_ofNat_of_lt' (by change _ < 2 ^ 64; omega)
  intro i j hi hj
  rw [gateAddress, add_assoc]
  refine hapart.apart _ j ?_ hj
  rw [UInt64.toNat_add, hplace]
  omega

/-- Different gates of the table are apart. -/
theorem gates_apart {other : ℕ} (hgate : HasGate vector m) (hother : HasGate other m)
    (hne : other ≠ vector) :
    Disjoint (gateAddress m.idtr.base other) 16 (gateAddress m.idtr.base vector) 16 := by
  rw [HasGate] at hgate hother
  have hlimit := m.idtr.limit.toNat_lt
  have hplace : (UInt64.ofNat (16 * vector)).toNat = 16 * vector :=
    UInt64.toNat_ofNat_of_lt' (by change _ < 2 ^ 64; omega)
  have hotherPlace : (UInt64.ofNat (16 * other)).toNat = 16 * other :=
    UInt64.toNat_ofNat_of_lt' (by change _ < 2 ^ 64; omega)
  intro i j hi hj hsame
  rw [gateAddress, gateAddress, add_assoc, add_assoc, add_right_inj] at hsame
  have hnat := congrArg UInt64.toNat hsame
  rw [UInt64.toNat_add, UInt64.toNat_add, hplace, hotherPlace, Nat.mod_eq_of_lt (by omega),
    Nat.mod_eq_of_lt (by omega)] at hnat
  omega

/-- Outside of the gate nothing else is written. -/
theorem memory_withGate {address : UInt64}
    (hfar : 16 ≤ (address - gateAddress m.idtr.base 13).toNat) :
    (withGate descriptor handler m).memory address = (sidt descriptor m).memory address := by
  apply writeBytes_of_le
  rwa [IdtEntry.length_bytes]

/-- The descriptor is loaded as it was stored. -/
theorem idtr_lidt_withGate (hapart : TableApart descriptor m) (hgate : HasGate 13 m) :
    (lidt descriptor (withGate descriptor handler m)).idtr = m.idtr := by
  have hkept : ∀ offset : UInt64, offset.toNat < 10 →
      (withGate descriptor handler m).memory (descriptor + offset) =
        (sidt descriptor m).memory (descriptor + offset) := fun offset hoffset =>
    memory_withGate ((hapart.gate hgate).symm.outside hoffset)
  have hword : (withGate descriptor handler m).memory.loadWord descriptor =
      (sidt descriptor m).memory.loadWord descriptor := by
    apply loadWord_congr
    intro index hindex
    apply hkept
    rw [UInt64.toNat_ofNat', Nat.mod_eq_of_lt (by omega)]
    omega
  have hquad : (withGate descriptor handler m).memory.load (descriptor + 2) =
      (sidt descriptor m).memory.load (descriptor + 2) := by
    apply load_congr
    intro index hindex
    have htwo : (2 : UInt64).toNat = 2 := rfl
    rw [add_assoc]
    apply hkept
    rw [UInt64.toNat_add, UInt64.toNat_ofNat', Nat.mod_eq_of_lt (a := index) (by omega), htwo]
    omega
  simp only [lidt, hword, hquad, loadWord_sidt, load_sidt]

theorem idtr_installCustomGpfHandler (hapart : TableApart descriptor m) :
    (installCustomGpfHandler descriptor handler m).idtr = m.idtr := by
  by_cases hgate : HasGate 13 m
  · rw [installCustomGpfHandler_of_hasGate hapart.notNull hgate]
    exact idtr_lidt_withGate hapart hgate
  · rw [installCustomGpfHandler_of_not_hasGate hapart.notNull hgate]
    rfl

theorem gateAt_installCustomGpfHandler (hapart : TableApart descriptor m) (hgate : HasGate 13 m) :
    gateAt (installCustomGpfHandler descriptor handler m) 13 = idtEntry handler := by
  have hread : (withGate descriptor handler m).memory.readBytes (gateAddress m.idtr.base 13)
      (idtEntry handler).bytes.length = (idtEntry handler).bytes := by
    refine readBytes_writeBytes ?_
    rw [IdtEntry.length_bytes]
    decide
  rw [IdtEntry.length_bytes] at hread
  rw [gateAt, idtr_installCustomGpfHandler hapart,
    installCustomGpfHandler_of_hasGate hapart.notNull hgate]
  exact (congrArg IdtEntry.ofBytes hread).trans (IdtEntry.ofBytes_bytes _)

theorem gateLoaded_installCustomGpfHandler (hapart : TableApart descriptor m) :
    GateLoaded 13 handler (installCustomGpfHandler descriptor handler m) ↔ HasGate 13 m := by
  have hidtr : (installCustomGpfHandler descriptor handler m).idtr = m.idtr :=
    idtr_installCustomGpfHandler hapart
  constructor
  · intro hloaded
    have hinside := hloaded.inside
    rwa [hidtr] at hinside
  · intro hgate
    refine ⟨by rw [hidtr]; exact hgate, ?_⟩
    rw [gateAt_installCustomGpfHandler hapart hgate]
    exact leadsTo_idtEntry handler

theorem memory_installCustomGpfHandler (hnotNull : descriptor ≠ 0) {address : UInt64}
    (hdescriptor : 10 ≤ (address - descriptor).toNat)
    (hfar : HasGate 13 m → 16 ≤ (address - gateAddress m.idtr.base 13).toNat) :
    (installCustomGpfHandler descriptor handler m).memory address = m.memory address := by
  by_cases hgate : HasGate 13 m
  · rw [installCustomGpfHandler_of_hasGate hnotNull hgate]
    exact (memory_withGate (hfar hgate)).trans (memory_sidt hdescriptor)
  · rw [installCustomGpfHandler_of_not_hasGate hnotNull hgate]
    exact memory_sidt hdescriptor

theorem gateAt_congr {n : Cpu} (hidtr : n.idtr = m.idtr)
    (hbytes : n.memory.readBytes (gateAddress m.idtr.base vector) 16 =
      m.memory.readBytes (gateAddress m.idtr.base vector) 16) :
    gateAt n vector = gateAt m vector := by
  rw [gateAt, gateAt, hidtr, hbytes]

/-- The other gates lead where they led before. -/
theorem gateAt_installCustomGpfHandler_of_ne (hapart : TableApart descriptor m)
    (hother : vector ≠ 13) (hgate : HasGate vector m) :
    gateAt (installCustomGpfHandler descriptor handler m) vector = gateAt m vector := by
  refine gateAt_congr (idtr_installCustomGpfHandler hapart) (readBytes_congr fun index hindex => ?_)
  have hplace : (UInt64.ofNat index).toNat < 16 := by
    rw [UInt64.toNat_ofNat', Nat.mod_eq_of_lt (by omega)]
    exact hindex
  exact memory_installCustomGpfHandler hapart.notNull ((hapart.gate hgate).outside hplace)
    fun hgpf => (gates_apart hgpf hgate hother).outside hplace

/-- What `InstallCustomGpfHandler` makes of the machine. -/
structure Installs (descriptor handler : UInt64) (m n : Cpu) : Prop where
  idtr : n.idtr = m.idtr
  loaded : GateLoaded 13 handler n ↔ HasGate 13 m
  entry : HasGate 13 m → gateAt n 13 = idtEntry handler
  others : ∀ vector ≠ 13, HasGate vector m → gateAt n vector = gateAt m vector
  memory : ∀ address : UInt64, 10 ≤ (address - descriptor).toNat →
    (HasGate 13 m → 16 ≤ (address - gateAddress m.idtr.base 13).toNat) →
      n.memory address = m.memory address

/-- Where the firmware's table has a gate for #GP, it leads to our handler, and
nothing else has changed but the ten bytes of the descriptor; where it has none,
only these have. -/
theorem installCustomGpfHandler_installs (hapart : TableApart descriptor m) :
    Installs descriptor handler m (installCustomGpfHandler descriptor handler m) where
  idtr := idtr_installCustomGpfHandler hapart
  loaded := gateLoaded_installCustomGpfHandler hapart
  entry := gateAt_installCustomGpfHandler hapart
  others _ hother hgate := gateAt_installCustomGpfHandler_of_ne hapart hother hgate
  memory _ hdescriptor hfar := memory_installCustomGpfHandler hapart.notNull hdescriptor hfar

/-- A table of 256 gates at 0x7000, as the firmware may have it. -/
def firmwareTable : Cpu := { sampleMachine with idtr := ⟨0xFFF, 0x7000⟩ }

theorem tableApart_firmwareTable : TableApart 0x1500 firmwareTable :=
  ⟨by decide, (disjoint_of_toNat_le (by decide) (by decide)).symm⟩

theorem installCustomGpfHandler_installs_firmwareTable :
    HasGate 13 firmwareTable ∧ HasGate 14 firmwareTable ∧
      Installs 0x1500 0x9000 firmwareTable
        (installCustomGpfHandler 0x1500 0x9000 firmwareTable) :=
  ⟨by decide, by decide, installCustomGpfHandler_installs tableApart_firmwareTable⟩

/-! ## Faults -/

theorem toNat_and_align (value : UInt64) :
    (value &&& 0xFFFFFFFFFFFFFFF0).toNat = value.toNat / 16 * 16 := by
  have hshift : value.toNat / 16 * 16 = (value.toNat >>> 4) <<< 4 := by
    rw [Nat.shiftRight_eq_div_pow, Nat.shiftLeft_eq]
  have hmask : ∀ index < 64, Nat.testBit 0xFFFFFFFFFFFFFFF0 index = decide (4 ≤ index) := by
    decide
  rw [hshift]
  apply Nat.eq_of_testBit_eq
  intro index
  rw [UInt64.toNat_and, Nat.testBit_and, Nat.testBit_shiftLeft, Nat.testBit_shiftRight]
  by_cases hindex : index < 64
  · have hconst : (0xFFFFFFFFFFFFFFF0 : UInt64).toNat = 0xFFFFFFFFFFFFFFF0 := rfl
    rw [hconst, hmask index hindex]
    by_cases hlow : 4 ≤ index
    · simp [hlow, Nat.add_sub_cancel' hlow]
    · simp [hlow]
  · have hzero : value.toNat.testBit index = false :=
      Nat.testBit_lt_two_pow (value.toNat_lt.trans_le (Nat.pow_le_pow_right (by decide) (by omega)))
    have hback : 4 + (index - 4) = index := by omega
    simp [hzero, hback]

/-- The frame lies in the 64 bytes below RSP. -/
theorem frameEntry_eq (m : Cpu) (code : UInt64) :
    ∃ slack : UInt64, slack.toNat < 16 ∧
      m.frameEntry (some code) = m.reg .rsp - 48 - slack := by
  refine ⟨m.reg .rsp - (m.reg .rsp &&& 0xFFFFFFFFFFFFFFF0), ?_, ?_⟩
  · rw [UInt64.toNat_sub_of_le, toNat_and_align]
    · omega
    · rw [UInt64.le_iff_toNat_le, toNat_and_align]
      omega
  · have hsome : (some code).isSome = true := rfl
    rw [Cpu.frameEntry, if_pos hsome]
    grind

theorem memory_interrupt_of_far {m : Cpu} {code handler address : UInt64}
    (hfar : 48 ≤ (address - m.frameEntry (some code)).toNat) :
    (m.interrupt (some code) handler).memory address = m.memory address := by
  have hback {place : UInt64} (hplace : place.toNat ≤ 40) :
      8 ≤ (address - (m.frameEntry (some code) + place)).toNat := by
    rw [← sub_sub, UInt64.toNat_sub_of_le]
    · omega
    · rw [UInt64.le_iff_toNat_le]
      omega
  rw [Cpu.memory_interrupt_some, store_of_le (by omega), store_of_le (hback (by decide)),
    store_of_le (hback (by decide)), store_of_le (hback (by decide)),
    store_of_le (hback (by decide)), store_of_le (hback (by decide))]

/-- The interrupted code goes on behind its instruction; the handler has worked
on the stack below RSP only. -/
structure Resumes (m resumed : Cpu) : Prop extends ResumesBehind m resumed where
  idtr : resumed.idtr = m.idtr
  memory : ∀ address : UInt64, 64 ≤ (address - (m.reg .rsp - 64)).toNat →
    resumed.memory address = m.memory address

variable {image : Image Label} {depth : ℕ} {errorCode : UInt64}

theorem idtr_gpfHandler (image : Image Label) (routine : Label → Cpu → Outcome) (m : Cpu) :
    (execBlock image routine gpfHandler m).Interrupted fun final => final.idtr = m.idtr := rfl

theorem resumes_deliverOnCore0 (image : Image Label) (depth : ℕ) (errorCode : UInt64) (m : Cpu) :
    (deliverOnCore0 image (depth + 1) errorCode m).Interrupted fun final =>
      Resumes m final.interruptReturn := by
  obtain ⟨entered, hentered⟩ : ∃ entered, entered =
      m.interrupt (some errorCode) (image.address .gpfHandler) := ⟨_, rfl⟩
  have hresumes : (deliverOnCore0 image (depth + 1) errorCode m).Interrupted fun final =>
      ResumesBehind m final.interruptReturn := resumesBehind_deliverOnCore0 image depth
  obtain ⟨final, hfinal, hbehind⟩ := hresumes.exists_eq
  have hends := interrupted_gpfHandler image (exec image code depth) entered
  have hidtr := idtr_gpfHandler image (exec image code depth) entered
  have hrun : execBlock image (exec image code depth) gpfHandler entered =
      .interruptReturned final := by
    rw [hentered]
    exact hfinal
  rw [hrun] at hends hidtr
  rw [hfinal]
  refine ⟨hbehind, ?_, fun address hfar => ?_⟩
  · refine hidtr.trans ?_
    rw [hentered]
    rfl
  · have hrsp : entered.reg .rsp = m.frameEntry (some errorCode) := by
      rw [hentered, Cpu.reg_interrupt, Function.update_self]
    obtain ⟨slack, hslack, hentry⟩ := frameEntry_eq m errorCode
    have hdistance : address - m.frameEntry (some errorCode) =
        address - (m.reg .rsp - 64) - (16 - slack) := by
      rw [hentry]
      grind
    have hslackSub : (16 - slack).toNat = 16 - slack.toNat := by
      rw [UInt64.toNat_sub_of_le]
      · rfl
      · exact UInt64.le_iff_toNat_le.mpr hslack.le
    have hframe : 48 ≤ (address - m.frameEntry (some errorCode)).toNat := by
      rw [hdistance, UInt64.toNat_sub_of_le]
      · omega
      · rw [UInt64.le_iff_toNat_le]
        omega
    have hslot : 8 ≤ (address - (m.frameEntry (some errorCode) + 8)).toNat := by
      have height : (8 : UInt64).toNat = 8 := rfl
      rw [← sub_sub, UInt64.toNat_sub_of_le, height]
      · omega
      · rw [UInt64.le_iff_toNat_le, height]
        omega
    refine (congrFun hends.2 address).trans ?_
    rw [hrsp, store_of_le hslot, hentered, memory_interrupt_of_far hframe]

/-- The microcode stubs rely on this. -/
theorem Resumes.gpfHandled {resumed : Cpu} (hresumes : Resumes m resumed) (info : UInt64) :
    GpfHandled info m resumed := by
  refine ⟨hresumes.rip, ?_, fun r hrax _ => ?_, fun address hfar _ => hresumes.memory address ?_⟩
  · rw [hresumes.reg, Function.update_self]
  · rw [hresumes.reg, Function.update_of_ne hrax]
  · have hdistance : address - (m.reg .rsp - 64) = address - (m.reg .rsp - 96) - 32 := by
      grind
    have hconst : (32 : UInt64).toNat = 32 := rfl
    rw [hdistance, UInt64.toNat_sub_of_le, hconst]
    · omega
    · rw [UInt64.le_iff_toNat_le, hconst]
      omega

instance (vector : ℕ) (handler : UInt64) (m : Cpu) : Decidable (GateLoaded vector handler m) :=
  decidable_of_iff (HasGate vector m ∧ (gateAt m vector).LeadsTo handler)
    ⟨fun hloaded => ⟨hloaded.1, hloaded.2⟩, fun hloaded => ⟨hloaded.inside, hloaded.leads⟩⟩

/-- The processor goes through the gate that it finds in the table; what other
code than `gpf_handler` would do is not known. -/
def deliverThroughTable (image : Image Label) (depth : ℕ) (errorCode : UInt64) (m : Cpu) :
    Outcome :=
  if GateLoaded 13 (image.address .gpfHandler) m then deliverOnCore0 image depth errorCode m
  else .lost

/-- What happens on core 0: code runs and leaves some state, or a #GP comes. -/
inductive Core0Event
  | code (after : Cpu)
  | protection (errorCode : UInt64)

def core0Event (image : Image Label) (depth : ℕ) : Core0Event → Cpu → Option Cpu
  | .code after, _ => some after
  | .protection errorCode, m =>
      match deliverThroughTable image depth errorCode m with
      | .interruptReturned final => some final.interruptReturn
      | _ => none

/-- Code does not touch the gate, and the stack is elsewhere when a #GP comes. -/
def SparesGate (m : Cpu) : Core0Event → Prop
  | .code after => after.idtr = m.idtr ∧ gateAt after 13 = gateAt m 13
  | .protection _ => Disjoint (gateAddress m.idtr.base 13) 16 (m.reg .rsp - 64) 64

theorem GateLoaded.congr {n : Cpu} (hloaded : GateLoaded vector handler m)
    (hidtr : n.idtr = m.idtr) (hgate : gateAt n vector = gateAt m vector) :
    GateLoaded vector handler n :=
  ⟨by rw [hidtr]; exact hloaded.inside, by rw [hgate]; exact hloaded.leads⟩

theorem gateLoaded_core0Event {event : Core0Event} {n : Cpu}
    (hloaded : GateLoaded 13 (image.address .gpfHandler) m) (hspares : SparesGate m event)
    (hstep : core0Event image (depth + 1) event m = some n) :
    GateLoaded 13 (image.address .gpfHandler) n := by
  cases event with
  | code after =>
      cases hstep
      exact hloaded.congr hspares.1 hspares.2
  | protection errorCode =>
      obtain ⟨final, hfinal, hresumes⟩ :=
        (resumes_deliverOnCore0 image depth errorCode m).exists_eq
      simp only [core0Event, deliverThroughTable, if_pos hloaded, hfinal, Option.some.injEq]
        at hstep
      subst hstep
      refine hloaded.congr hresumes.idtr (gateAt_congr hresumes.idtr ?_)
      have hapart : Disjoint (gateAddress m.idtr.base 13) 16 (m.reg .rsp - 64) 64 := hspares
      exact hapart.readBytes (by decide) hresumes.memory

/-- Once the gate is installed, and as long as nobody touches it, every #GP on
core 0 is resumed the way the microcode stubs rely on, however many there are. -/
theorem always_resumes (hapart : TableApart descriptor m) (hgate : HasGate 13 m)
    {past : List (Cpu × Core0Event)} {s : Cpu}
    (hrun : Run (· = installCustomGpfHandler descriptor (image.address .gpfHandler) m)
      (core0Event image (depth + 1)) past s)
    (hspares : EachStep SparesGate past) :
    Always (fun s => ∀ errorCode,
      (deliverThroughTable image (depth + 1) errorCode s).Interrupted fun final =>
        Resumes s final.interruptReturn ∧ ∀ info, GpfHandled info s final.interruptReturn)
      past s := by
  have halways : Always (GateLoaded 13 (image.address .gpfHandler)) past s := by
    refine hrun.always ?_ (fun _ _ _ hloaded hspares hstep =>
      gateLoaded_core0Event hloaded hspares hstep) hspares
    rintro _ rfl
    exact (gateLoaded_installCustomGpfHandler hapart).mpr hgate
  refine halways.mono fun s hloaded errorCode => ?_
  rw [deliverThroughTable, if_pos hloaded]
  exact (resumes_deliverOnCore0 image depth errorCode s).mono fun final hresumes =>
    ⟨hresumes, hresumes.gpfHandled⟩

theorem always_resumes_firmwareTable :
    ∃ past s, Run (· = installCustomGpfHandler 0x1500 (sampleImage.address .gpfHandler)
        firmwareTable) (core0Event sampleImage 1) past s ∧
      past.length = 1 ∧ EachStep SparesGate past ∧
      Always (fun s => ∀ errorCode,
        (deliverThroughTable sampleImage 1 errorCode s).Interrupted fun final =>
          Resumes s final.interruptReturn ∧ ∀ info, GpfHandled info s final.interruptReturn)
        past s := by
  have hgate : HasGate 13 firmwareTable := by decide
  obtain ⟨installed, hinstalled⟩ : ∃ installed, installed =
      installCustomGpfHandler 0x1500 (sampleImage.address .gpfHandler) firmwareTable := ⟨_, rfl⟩
  have hloaded : GateLoaded 13 (sampleImage.address .gpfHandler) installed := by
    rw [hinstalled]
    exact (gateLoaded_installCustomGpfHandler tableApart_firmwareTable).mpr hgate
  obtain ⟨final, hfinal, -⟩ := (resumes_deliverOnCore0 sampleImage 0 0 installed).exists_eq
  have hstep : core0Event sampleImage 1 (.protection 0) installed =
      some final.interruptReturn := by
    simp only [core0Event, deliverThroughTable, if_pos hloaded, hfinal]
  have hrun : Run (· = installCustomGpfHandler 0x1500 (sampleImage.address .gpfHandler)
      firmwareTable) (core0Event sampleImage 1) [(installed, .protection 0)]
        final.interruptReturn := .next (.start hinstalled) hstep
  have hspares : EachStep SparesGate [(installed, Core0Event.protection 0)] := by
    rw [eachStep_cons]
    refine ⟨?_, eachStep_nil⟩
    have hbase : installed.idtr.base = 0x7000 := by
      rw [hinstalled, idtr_installCustomGpfHandler tableApart_firmwareTable]
      rfl
    have hrsp : installed.reg .rsp = 0x5000 := by
      rw [hinstalled, installCustomGpfHandler_of_hasGate tableApart_firmwareTable.notNull hgate]
      rfl
    simp only [SparesGate, hbase, hrsp]
    exact (disjoint_of_toNat_le (by decide) (by decide)).symm
  exact ⟨_, _, hrun, rfl, hspares, always_resumes tableApart_firmwareTable hgate hrun hspares⟩

end AngryUefi.System
