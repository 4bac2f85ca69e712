import AngryUefi.System.FaultDelivery

/-!
# The interrupt descriptor table of a core

`init_fault_handlers_on_core` fills 256 gates in memory; `write_idt_on_core`
loads IDTR with their address and with the number of the last of them, which
the processor takes for the offset of the last byte.
-/

namespace AngryUefi.System

open AngryUefi.X86 AngryUefi.AddressSpace AngryUefi.Bytes

/-- The packed structure. -/
def IdtEntry.bytes (entry : IdtEntry) : List UInt8 :=
  littleEndian 2 entry.offsetLow.toNat ++ littleEndian 2 entry.segmentSelector.toNat ++
    [entry.ist, entry.attributes] ++ littleEndian 2 entry.offsetMid.toNat ++
      littleEndian 4 entry.offsetHigh.toNat ++ littleEndian 4 entry.reserved.toNat

/-- What the processor reads of a gate. -/
def IdtEntry.ofBytes (bytes : List UInt8) : IdtEntry where
  offsetLow := UInt16.ofNat (ofLittleEndian (bytes.take 2))
  segmentSelector := UInt16.ofNat (ofLittleEndian ((bytes.drop 2).take 2))
  ist := bytes.getD 4 0
  attributes := bytes.getD 5 0
  offsetMid := UInt16.ofNat (ofLittleEndian ((bytes.drop 6).take 2))
  offsetHigh := UInt32.ofNat (ofLittleEndian ((bytes.drop 8).take 4))
  reserved := UInt32.ofNat (ofLittleEndian ((bytes.drop 12).take 4))

theorem IdtEntry.length_bytes (entry : IdtEntry) : entry.bytes.length = 16 := by
  simp [bytes]

theorem IdtEntry.ofBytes_bytes (entry : IdtEntry) : ofBytes entry.bytes = entry := by
  have hword (value : UInt16) : ofLittleEndian (littleEndian 2 value.toNat) = value.toNat :=
    ofLittleEndian_littleEndian_of_lt value.toNat_lt
  have hlong (value : UInt32) : ofLittleEndian (littleEndian 4 value.toNat) = value.toNat :=
    ofLittleEndian_littleEndian_of_lt value.toNat_lt
  have hlow := hword entry.offsetLow
  have hselector := hword entry.segmentSelector
  have hmid := hword entry.offsetMid
  have hhigh := hlong entry.offsetHigh
  have hreserved := hlong entry.reserved
  simp only [littleEndian] at hlow hselector hmid hhigh hreserved
  simp only [ofBytes, bytes, littleEndian, List.cons_append, List.nil_append,
    List.take_succ_cons, List.take_zero, List.drop_succ_cons, List.drop_zero,
    List.getD_cons_succ, List.getD_cons_zero, hlow, hselector, hmid, hhigh, hreserved,
    UInt16.ofNat_toNat, UInt32.ofNat_toNat]

/-- `sizeof(IDT_ENTRY)` apart. -/
def gateAddress (base : UInt64) (vector : ℕ) : UInt64 := base + UInt64.ofNat (16 * vector)

/-- The gates that `init_fault_handlers_on_core` has filled after some
iterations of its loop. -/
def fillIdt (image : Image Label) (idt : UInt64) (memory : AddressSpace) : ℕ → AddressSpace
  | 0 => memory
  | count + 1 =>
      (fillIdt image idt memory count).writeBytes (gateAddress idt count)
        (idtEntry (image.address (installedHandler count))).bytes

def highestFaultHandler : UInt64 := 0xff

/-- What `init_fault_handlers_on_core` puts into the context for the table. -/
structure IdtFields where
  idtBase : UInt64
  idtLimit : UInt64

/-- `init_fault_handlers_on_core`, as far as the table goes: `idt` is the
address the allocator returns for it, and the image that of the core's copy. -/
def initIdt (image : Image Label) (idt : UInt64) (memory : AddressSpace) :
    IdtFields × AddressSpace :=
  ({ idtBase := idt, idtLimit := highestFaultHandler },
    fillIdt image idt memory (highestFaultHandler.toNat + 1))

variable {image : Image Label} {idt : UInt64} {memory : AddressSpace} {count vector : ℕ}

theorem readBytes_fillIdt (hcount : count ≤ 256) (hvector : vector < count) :
    (fillIdt image idt memory count).readBytes (gateAddress idt vector) 16 =
      (idtEntry (image.address (installedHandler vector))).bytes := by
  induction count with
  | zero => omega
  | succ count ih =>
      have hlength := (idtEntry (image.address (installedHandler count))).length_bytes
      by_cases hlast : vector = count
      · subst hlast
        have hread := @readBytes_writeBytes (fillIdt image idt memory vector)
          (gateAddress idt vector) _ (by rw [hlength]; decide)
        rwa [hlength] at hread
      · refine Eq.trans ?_ (ih (by omega) (by omega))
        apply readBytes_congr
        intro index hindex
        apply writeBytes_of_le
        have hwrap : (2 : ℕ) ^ 64 = 18446744073709551616 := rfl
        have hplace := @UInt64.toNat_ofNat' (16 * vector)
        have hother := @UInt64.toNat_ofNat' (16 * count)
        have hoffset := @UInt64.toNat_ofNat' index
        rw [hwrap, Nat.mod_eq_of_lt (by omega)] at hplace hother hoffset
        have hbase := idt.toNat_lt
        rw [hlength, gateAddress, gateAddress, UInt64.toNat_sub, UInt64.toNat_add,
          UInt64.toNat_add, UInt64.toNat_add, hplace, hother, hoffset]
        omega

/-- Nothing is written outside of the table. -/
theorem fillIdt_of_le {address : UInt64} (hcount : count ≤ 256)
    (hfar : 4096 ≤ (address - idt).toNat) :
    fillIdt image idt memory count address = memory address := by
  induction count with
  | zero => rfl
  | succ count ih =>
      have hplace : (UInt64.ofNat (16 * count)).toNat = 16 * count :=
        UInt64.toNat_ofNat_of_lt' (by change _ < 2 ^ 64; omega)
      have hbehind : (address - gateAddress idt count).toNat =
          (address - idt).toNat - 16 * count := by
        rw [gateAddress, ← sub_sub, UInt64.toNat_sub_of_le, hplace]
        rw [UInt64.le_iff_toNat_le, hplace]
        omega
      rw [fillIdt, writeBytes_of_le, ih (by omega)]
      rw [IdtEntry.length_bytes, hbehind]
      omega

/-- `write_idt_on_core`, called with these fields in the context. -/
def writeIdtOnCore (image : Image Label) (depth : ℕ) (fields : IdtFields) (m : Cpu) : Outcome :=
  exec image code depth .setIdtr
    ((m.setReg .rdi fields.idtBase).setReg .rsi fields.idtLimit.toUInt16.toUInt64)

/-- The handlers copied to a block of memory; in `stubs` the addresses are
offsets from `proto_fault_stub_start`. -/
def copyOf (stubs : Image Label) (block : UInt64) : Image Label :=
  { stubs with address := fun label => block + stubs.address label }

/-- A core loads the table that core 0 has prepared for it. -/
def loadTable (stubs : Image Label) (block idt : UInt64) (depth : ℕ) (m : Cpu) : Outcome :=
  let prepared := initIdt (copyOf stubs block) idt m.memory
  writeIdtOnCore (copyOf stubs block) depth prepared.1 { m with memory := prepared.2 }

/-- The gate that the processor finds for a vector. -/
def gateAt (m : Cpu) (vector : ℕ) : IdtEntry :=
  .ofBytes (m.memory.readBytes (gateAddress m.idtr.base vector) 16)

/-- The gate of a vector lies within the limit and leads to the handler at an
address. -/
structure GateLoaded (vector : ℕ) (handler : UInt64) (m : Cpu) : Prop where
  inside : 16 * vector + 15 ≤ m.idtr.limit.toNat
  leads : (gateAt m vector).LeadsTo handler

variable {m : Cpu}

/-- `set_idtr` up to its `ret`. -/
def loadDescriptor : Code := setIdtr.dropLast

theorem memory_loadDescriptor (image : Image Label) (m : Cpu) :
    (runBlock image loadDescriptor m).memory =
      ((m.memory.store (m.reg .rsp - 8) (m.reg .rbp)).storeWord (m.reg .rsp - 24)
        (m.reg .rsi).toUInt16).store (m.reg .rsp - 24 + 2) (m.reg .rdi) := by
  have hsub : m.reg .rsp - 8 - 16 = m.reg .rsp - 24 := by
    rw [sub_sub]
    rfl
  simp [runBlock, loadDescriptor, setIdtr, Instruction.run, Instruction.arithmetic, Cpu.push,
    Cpu.setReg, Cpu.store, hsub]

theorem idtr_loadDescriptor (image : Image Label) (m : Cpu) :
    (runBlock image loadDescriptor m).idtr =
      { limit := (m.reg .rsi).toUInt16, base := m.reg .rdi } := by
  have hsub : m.reg .rsp - 8 - 16 = m.reg .rsp - 24 := by
    rw [sub_sub]
    rfl
  simp [runBlock, loadDescriptor, setIdtr, Instruction.run, Instruction.arithmetic, Cpu.push,
    Cpu.setReg, Cpu.store, hsub, loadWord_store_add_two, loadWord_storeWord]

/-- `set_idtr` loads what it is given, and writes to 24 bytes of the stack. -/
theorem returned_writeIdtOnCore (image : Image Label) (depth : ℕ) (fields : IdtFields) (m : Cpu) :
    (writeIdtOnCore image (depth + 1) fields m).Returned fun final =>
      final.idtr = { limit := fields.idtLimit.toUInt16, base := fields.idtBase } ∧
        ∀ address : UInt64, 24 ≤ (address - (m.reg .rsp - 24)).toNat →
          final.memory address = m.memory address := by
  obtain ⟨called, hcalled⟩ : ∃ called, called =
      (m.setReg .rdi fields.idtBase).setReg .rsi fields.idtLimit.toUInt16.toUInt64 := ⟨_, rfl⟩
  have hrun : writeIdtOnCore image (depth + 1) fields m =
      execBlock image (exec image code depth) [.ret] (runBlock image loadDescriptor called) := by
    rw [hcalled, ← execBlock_straight rfl]
    rfl
  obtain ⟨loaded, hloaded⟩ : ∃ loaded, loaded = runBlock image loadDescriptor called := ⟨_, rfl⟩
  have hidtr := idtr_loadDescriptor image called
  have hmemory := memory_loadDescriptor image called
  rw [← hloaded] at hidtr hmemory
  rw [hrun, ← hloaded]
  constructor
  · have hlimit : (called.reg .rsi).toUInt16 = fields.idtLimit.toUInt16 := by
      rw [hcalled, Cpu.reg_setReg, Function.update_self, UInt16.toUInt16_toUInt64]
    have hbase : called.reg .rdi = fields.idtBase := by
      simp [hcalled, Cpu.setReg]
    refine hidtr.trans ?_
    rw [hlimit, hbase]
  · intro address hfar
    refine (congrFun hmemory address).trans ?_
    have hrsp : called.reg .rsp = m.reg .rsp := by simp [hcalled, Cpu.setReg]
    have hdescriptor : address - (m.reg .rsp - 24 + 2) = address - (m.reg .rsp - 24) - 2 := by
      rw [sub_sub]
    have hpushed : address - (m.reg .rsp - 8) = address - (m.reg .rsp - 24) - 16 := by
      grind
    have hback {distance : UInt64} (hdistance : distance.toNat ≤ 16) :
        (address - (m.reg .rsp - 24) - distance).toNat =
          (address - (m.reg .rsp - 24)).toNat - distance.toNat := by
      apply UInt64.toNat_sub_of_le
      rw [UInt64.le_iff_toNat_le]
      omega
    have htwo : (2 : UInt64).toNat = 2 := rfl
    have hsixteen : (16 : UInt64).toNat = 16 := rfl
    rw [hrsp, store_eq_writeBytes, storeWord_eq_writeBytes, store_eq_writeBytes,
      writeBytes_of_le, writeBytes_of_le, writeBytes_of_le]
    · rw [hcalled]
      rfl
    · rw [length_littleEndian, hpushed, hback (by decide)]
      omega
    · rw [length_littleEndian]
      omega
    · rw [length_littleEndian, hdescriptor, hback (by decide)]
      omega

variable {stubs : Image Label} {block : UInt64}

/-- The gates are in memory as they were filled. -/
theorem returned_loadTable (stubs : Image Label) (block : UInt64) (depth : ℕ)
    (hstack : Disjoint idt 4096 (m.reg .rsp - 24) 24) (hvector : vector < 256) :
    (loadTable stubs block idt (depth + 1) m).Returned fun final =>
      final.idtr.limit = 0xff ∧
        gateAt final vector = idtEntry (block + stubs.address (installedHandler vector)) := by
  have hwritten := returned_writeIdtOnCore (copyOf stubs block) depth
    (initIdt (copyOf stubs block) idt m.memory).1
    { m with memory := (initIdt (copyOf stubs block) idt m.memory).2 }
  refine hwritten.mono fun final hfinal => ?_
  obtain ⟨hidtr, hmemory⟩ := hfinal
  rw [hidtr]
  refine ⟨rfl, ?_⟩
  have hfilled : (initIdt (copyOf stubs block) idt m.memory).2.readBytes
      (gateAddress idt vector) 16 =
        (idtEntry (block + stubs.address (installedHandler vector))).bytes :=
    readBytes_fillIdt (by decide) hvector
  have hread : final.memory.readBytes (gateAddress idt vector) 16 =
      (initIdt (copyOf stubs block) idt m.memory).2.readBytes (gateAddress idt vector) 16 := by
    apply readBytes_congr
    intro index hindex
    apply hmemory
    by_contra hnear
    have hwrap : (2 : ℕ) ^ 64 = 18446744073709551616 := rfl
    have hgate : (UInt64.ofNat (16 * vector)).toNat = 16 * vector := by
      rw [UInt64.toNat_ofNat', Nat.mod_eq_of_lt (by omega)]
    have hbyte : (UInt64.ofNat index).toNat = index := by
      rw [UInt64.toNat_ofNat', Nat.mod_eq_of_lt (by omega)]
    have hinside : (UInt64.ofNat (16 * vector) + UInt64.ofNat index).toNat < 4096 := by
      rw [UInt64.toNat_add, hgate, hbyte]
      omega
    apply hstack _ _ hinside (Nat.not_le.mp hnear)
    rw [gateAddress, add_assoc, add_sub_cancel]
  have hgate : gateAt final vector =
      .ofBytes (final.memory.readBytes (gateAddress idt vector) 16) := by
    rw [gateAt, hidtr]
    rfl
  rw [hgate, hread, hfilled, IdtEntry.ofBytes_bytes]

/-- The limit is the number of the last gate and not its last byte, so that it
covers 16 gates. -/
theorem gateLoaded_iff (stubs : Image Label) (block : UInt64) (depth : ℕ)
    (hstack : Disjoint idt 4096 (m.reg .rsp - 24) 24) (hvector : vector < 256) :
    (loadTable stubs block idt (depth + 1) m).Returned
        (GateLoaded vector (block + stubs.address (installedHandler vector))) ↔
      vector < 16 := by
  refine (returned_loadTable stubs block depth hstack hvector).returned_iff fun final hfinal => ?_
  obtain ⟨hlimit, hgate⟩ := hfinal
  have hbound : final.idtr.limit.toNat = 255 := by rw [hlimit]; rfl
  constructor
  · intro hloaded
    have hinside := hloaded.inside
    omega
  · intro hcovered
    refine ⟨by omega, ?_⟩
    rw [hgate]
    exact leadsTo_idtEntry _

theorem gateLoaded_iff_sample :
    (loadTable sampleImage 0x9000 0x7000 1 (sampleMachine.setReg .rsp 0xA000)).Returned
        (GateLoaded 14 (0x9000 + sampleImage.address (installedHandler 14))) ↔
      14 < 16 :=
  gateLoaded_iff sampleImage 0x9000 0 (disjoint_of_toNat_le (by decide) (by decide)) (by decide)

/-- An x87 exception finds no gate. -/
theorem not_gateLoaded_floatingPoint :
    ¬∀ (stubs : Image Label) (block idt : UInt64) (m : Cpu) (vector : ℕ), vector < 256 →
      Disjoint idt 4096 (m.reg .rsp - 24) 24 →
        (loadTable stubs block idt 1 m).Returned
          (GateLoaded vector (block + stubs.address (installedHandler vector))) := by
  intro hall
  have hstack : Disjoint 0x7000 4096 ((sampleMachine.setReg .rsp 0xA000).reg .rsp - 24) 24 :=
    disjoint_of_toNat_le (by decide) (by decide)
  have hloaded := hall sampleImage 0x9000 0x7000 _ 16 (by decide) hstack
  have hlimit := returned_loadTable sampleImage 0x9000 0 hstack (show 16 < 256 by decide)
  revert hloaded
  refine (iff_false_right not_false).mp (hlimit.returned_iff fun final hfinal => ?_)
  refine iff_of_false (fun hgate => ?_) not_false
  have hinside := hgate.inside
  rw [hfinal.1] at hinside
  exact absurd hinside (by decide)

end AngryUefi.System
