import Mathlib.Data.UInt

/-!
# Bit-fields

A register as a bit vector, and its fields in the order of their declaration, the
first one from the lowest bit on.  A store to a field changes the bits of that
field and no others.
-/

namespace AngryUefi.BitFields

structure Field where
  offset : ℕ
  width : ℕ
  deriving DecidableEq

namespace Field

/-- The field that is declared next. -/
def next (field : Field) (width : ℕ) : Field := ⟨field.offset + field.width, width⟩

/-- The bit belongs to the field. -/
def Contains (field : Field) (bit : ℕ) : Prop :=
  field.offset ≤ bit ∧ bit < field.offset + field.width

instance (field : Field) (bit : ℕ) : Decidable (field.Contains bit) :=
  inferInstanceAs (Decidable (_ ∧ _))

/-- The fields have no bit in common. -/
def Apart (left right : Field) : Prop :=
  left.offset + left.width ≤ right.offset ∨ right.offset + right.width ≤ left.offset

instance (left right : Field) : Decidable (left.Apart right) :=
  inferInstanceAs (Decidable (_ ∨ _))

def Within (field : Field) (size : ℕ) : Prop := field.offset + field.width ≤ size

instance (field : Field) (size : ℕ) : Decidable (field.Within size) :=
  inferInstanceAs (Decidable (_ ≤ _))

section

variable {size : ℕ}

def get (field : Field) (register : BitVec size) : BitVec field.width :=
  register.extractLsb' field.offset field.width

/-- The bits of the field. -/
def mask (field : Field) (size : ℕ) : BitVec size :=
  (BitVec.allOnes field.width).setWidth size <<< field.offset

def set (field : Field) (value : BitVec field.width) (register : BitVec size) : BitVec size :=
  (register &&& ~~~field.mask size) ||| (value.setWidth size <<< field.offset)

variable {field left right : Field} {register : BitVec size} {bit : ℕ}

theorem getLsbD_get (register : BitVec size) (bit : ℕ) :
    (field.get register).getLsbD bit =
      (decide (bit < field.width) && register.getLsbD (field.offset + bit)) :=
  BitVec.getLsbD_extractLsb' ..

/-- A store changes the bits of its field. -/
theorem getLsbD_set (value : BitVec field.width) (hbit : bit < size) :
    (field.set value register).getLsbD bit =
      if field.Contains bit then value.getLsbD (bit - field.offset)
      else register.getLsbD bit := by
  have hinside : bit - field.offset < size := by omega
  simp only [set, mask, BitVec.getLsbD_or, BitVec.getLsbD_and, BitVec.getLsbD_not,
    BitVec.getLsbD_shiftLeft, BitVec.getLsbD_setWidth, BitVec.getLsbD_allOnes, hbit, hinside,
    decide_true, Bool.true_and]
  by_cases hbefore : bit < field.offset
  · have hout : ¬ field.Contains bit := fun hcontains => by
      have hfirst := hcontains.1
      omega
    rw [if_neg hout]
    simp [hbefore]
  by_cases hwidth : bit - field.offset < field.width
  · have hin : field.Contains bit := ⟨by omega, by omega⟩
    rw [if_pos hin]
    simp [hbefore, hwidth]
  · have hout : ¬ field.Contains bit := fun hcontains => by
      have hlast := hcontains.2
      omega
    have hvalue : value.getLsbD (bit - field.offset) = false :=
      BitVec.getLsbD_of_ge _ _ (by omega)
    rw [if_neg hout]
    simp [hwidth, hvalue]

/-- What was stored is what is read. -/
theorem get_set (hwithin : field.Within size) (value : BitVec field.width) :
    field.get (field.set value register) = value := by
  apply BitVec.eq_of_getLsbD_eq
  intro bit hbit
  have hsize : field.offset + bit < size := lt_of_lt_of_le (by omega) hwithin
  have hin : field.Contains (field.offset + bit) := ⟨by omega, by omega⟩
  rw [getLsbD_get, getLsbD_set value hsize, if_pos hin, Nat.add_sub_cancel_left,
    decide_eq_true hbit, Bool.true_and]

/-- The other fields stay. -/
theorem get_set_of_apart (hapart : left.Apart right) (value : BitVec right.width) :
    left.get (right.set value register) = left.get register := by
  apply BitVec.eq_of_getLsbD_eq
  intro bit hbit
  rw [getLsbD_get, getLsbD_get]
  congr 1
  by_cases hsize : left.offset + bit < size
  · rw [getLsbD_set value hsize, if_neg]
    rintro ⟨hfirst, hlast⟩
    rcases hapart with hbefore | hbehind
    · omega
    · omega
  · rw [BitVec.getLsbD_of_ge _ _ (Nat.not_lt.mp hsize),
      BitVec.getLsbD_of_ge _ _ (Nat.not_lt.mp hsize)]

/-- A field that already has the value keeps it. -/
theorem set_get (field : Field) (register : BitVec size) :
    field.set (field.get register) register = register := by
  apply BitVec.eq_of_getLsbD_eq
  intro bit hbit
  rw [getLsbD_set _ hbit]
  split_ifs with hin
  · obtain ⟨hfirst, hlast⟩ := hin
    have hplace : field.offset + (bit - field.offset) = bit := by omega
    have hinside : bit - field.offset < field.width := by omega
    rw [getLsbD_get, hplace, decide_eq_true hinside, Bool.true_and]
  · rfl

/-- The number in a field. -/
def read (field : Field) (register : BitVec size) : ℕ := (field.get register).toNat

/-- A number is stored to a field that may be too narrow for it. -/
def assign (field : Field) (value : ℕ) (register : BitVec size) : BitVec size :=
  field.set (BitVec.ofNat field.width value) register

theorem read_lt (field : Field) (register : BitVec size) :
    field.read register < 2 ^ field.width :=
  (field.get register).isLt

@[simp]
theorem read_zero (field : Field) : field.read (0 : BitVec size) = 0 := by
  rw [read, get]
  simp

theorem read_assign (hwithin : field.Within size) (value : ℕ) (register : BitVec size) :
    field.read (field.assign value register) = value % 2 ^ field.width := by
  rw [read, assign, get_set hwithin, BitVec.toNat_ofNat]

theorem read_assign_of_apart (hapart : left.Apart right) (value : ℕ) (register : BitVec size) :
    left.read (right.assign value register) = left.read register := by
  rw [read, assign, get_set_of_apart hapart, read]

theorem assign_eq_self {value : ℕ} (hread : field.read register = value) :
    field.assign value register = register := by
  have hvalue : BitVec.ofNat field.width value = field.get register := by
    rw [← hread, read, BitVec.ofNat_toNat, BitVec.setWidth_eq]
  rw [assign, hvalue, set_get]

/-- The bits outside of the field stay. -/
theorem getLsbD_assign_of_not_contains (hout : ¬ field.Contains bit) (value : ℕ) :
    (field.assign value register).getLsbD bit = register.getLsbD bit := by
  by_cases hbit : bit < size
  · rw [assign, getLsbD_set _ hbit, if_neg hout]
  · rw [BitVec.getLsbD_of_ge _ _ (Nat.not_lt.mp hbit),
      BitVec.getLsbD_of_ge _ _ (Nat.not_lt.mp hbit)]

end

end Field

end AngryUefi.BitFields
