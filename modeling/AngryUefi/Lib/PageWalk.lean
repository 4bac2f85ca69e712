import Mathlib.Data.Nat.Bitwise
import Mathlib.Data.UInt

/-!
# Address translation by page tables

A four-level walk over a physical memory that is given by the 64-bit word at
each address.  `below` counts the levels under a table: the root of a walk has
three, a table of 4 KiB pages none.  A walk reads one word of each table it
visits, so that it only depends on the tables that can be reached from its
root.
-/

namespace AngryUefi.PageWalk

/-- The 64-bit word at a physical address. -/
abbrev PhysicalMemory := ℕ → UInt64

def bit (entry : UInt64) (position : ℕ) : Bool := entry.toNat.testBit position

def present (entry : UInt64) : Bool := bit entry 0

/-- Maps a large page, where the level has large pages. -/
def pageSize (entry : UInt64) : Bool := bit entry 7

/-- Bits 12 to 51, in place. -/
def address (entry : UInt64) : ℕ := entry.toNat / 2 ^ 12 % 2 ^ 40 * 2 ^ 12

structure Permissions where
  writable : Bool
  user : Bool
  executable : Bool
  deriving DecidableEq

namespace Permissions

def all : Permissions := ⟨true, true, true⟩

/-- Every level may take permissions away. -/
def restrict (permissions : Permissions) (entry : UInt64) : Permissions where
  writable := permissions.writable && bit entry 1
  user := permissions.user && bit entry 2
  executable := permissions.executable && !bit entry 63

end Permissions

inductive Cause
  | notPresent
  | reservedBit
  deriving DecidableEq

inductive Translation
  | page (physical : ℕ) (permissions : Permissions)
  | fault (cause : Cause)
  deriving DecidableEq

/-- The address bits that a page mapped at this level leaves untranslated. -/
def pageBits (below : ℕ) : ℕ := 12 + 9 * below

def tableIndex (below : ℕ) (virtual : UInt64) : ℕ := virtual.toNat / 2 ^ pageBits below % 2 ^ 9

/-- The entry maps a page: of 4 KiB, 2 MiB or 1 GiB. -/
def isLeaf (below : ℕ) (entry : UInt64) : Bool :=
  below == 0 || (below ≤ 2 && pageSize entry)

/-- The entry has a bit set that the processor wants to be zero: the page size
bit of the root, or one between bit 12 and the page's address. -/
def reserved (below : ℕ) (entry : UInt64) : Bool :=
  if below = 0 then false
  else if below ≤ 2 then
    pageSize entry && decide (entry.toNat / 2 ^ 13 % 2 ^ (pageBits below - 13) ≠ 0)
  else pageSize entry

def pageAddress (below : ℕ) (entry virtual : UInt64) : ℕ :=
  address entry / 2 ^ pageBits below * 2 ^ pageBits below +
    virtual.toNat % 2 ^ pageBits below

/-- What an entry leads to, if `deeper` is the walk from the table it may point
to. -/
def through (below : ℕ) (virtual entry : UInt64) (permissions : Permissions)
    (deeper : Translation) : Translation :=
  if present entry = false then .fault .notPresent
  else if reserved below entry = true then .fault .reservedBit
  else if isLeaf below entry = true then
    .page (pageAddress below entry virtual) (permissions.restrict entry)
  else deeper

def walk (memory : PhysicalMemory) (virtual : UInt64) :
    (below table : ℕ) → Permissions → Translation
  | 0, table, permissions =>
      through 0 virtual (memory (table + 8 * tableIndex 0 virtual)) permissions
        (.fault .notPresent)
  | below + 1, table, permissions =>
      let entry := memory (table + 8 * tableIndex (below + 1) virtual)
      through (below + 1) virtual entry permissions
        (walk memory virtual below (address entry) (permissions.restrict entry))

def translateAddress (memory : PhysicalMemory) (cr3 : ℕ) (virtual : UInt64) : Translation :=
  walk memory virtual 3 cr3 .all

/-- Bits 47 to 63 are equal. -/
def Canonical (virtual : UInt64) : Prop :=
  virtual.toNat < 2 ^ 47 ∨ 2 ^ 64 - 2 ^ 47 ≤ virtual.toNat

/-- The tables that walks from a root can visit. -/
inductive IsTable (memory : PhysicalMemory) (level root : ℕ) : ℕ → ℕ → Prop
  | root : IsTable memory level root level root
  | next {below table index : ℕ} (htable : IsTable memory level root (below + 1) table)
      (hindex : index < 512) (hpresent : present (memory (table + 8 * index)) = true)
      (hreserved : reserved (below + 1) (memory (table + 8 * index)) = false)
      (hleaf : isLeaf (below + 1) (memory (table + 8 * index)) = false) :
      IsTable memory level root below (address (memory (table + 8 * index)))

/-- The entry points to the table of the level below. -/
def Enters (below : ℕ) (entry : UInt64) : Prop :=
  present entry = true ∧ reserved below entry = false ∧ isLeaf below entry = false

instance (below : ℕ) (entry : UInt64) : Decidable (Enters below entry) :=
  inferInstanceAs (Decidable (_ ∧ _ ∧ _))

/-- The table that a walk comes to by these indices. -/
def tableAlong (memory : PhysicalMemory) : (below table : ℕ) → List ℕ → Option ℕ
  | _, table, [] => some table
  | 0, _, _ :: _ => none
  | below + 1, table, index :: path =>
      if index < 512 ∧ Enters (below + 1) (memory (table + 8 * index)) then
        tableAlong memory below (address (memory (table + 8 * index))) path
      else none

section

variable {memory left right : PhysicalMemory} {virtual : UInt64} {below level root table : ℕ}
variable {permissions : Permissions} {path : List ℕ}

theorem tableIndex_lt (below : ℕ) (virtual : UInt64) : tableIndex below virtual < 512 :=
  Nat.mod_lt _ (by decide)

theorem IsTable.trans {middle level' table' : ℕ}
    (hfirst : IsTable memory level root middle table)
    (hsecond : IsTable memory middle table level' table') :
    IsTable memory level root level' table' := by
  induction hsecond with
  | root => exact hfirst
  | next htable hindex hpresent hreserved hleaf ih =>
      exact .next ih hindex hpresent hreserved hleaf

/-- A table one level down, at the index that the walk takes. -/
theorem IsTable.child {entry : UInt64}
    (hentry : memory (root + 8 * tableIndex (below + 1) virtual) = entry)
    (hpresent : present entry = true) (hreserved : reserved (below + 1) entry = false)
    (hleaf : isLeaf (below + 1) entry = false) :
    IsTable memory (below + 1) root below (address entry) := by
  subst hentry
  exact .next .root (tableIndex_lt _ _) hpresent hreserved hleaf

theorem walk_entry {entry : UInt64}
    (hentry : memory (table + 8 * tableIndex (below + 1) virtual) = entry) :
    walk memory virtual (below + 1) table permissions =
      through (below + 1) virtual entry permissions
        (walk memory virtual below (address entry) (permissions.restrict entry)) := by
  subst hentry
  rfl

/-- The walk below an entry matters only where the entry points to a table. -/
theorem through_congr {entry : UInt64} {deeper deeper' : Translation}
    (hdeeper : present entry = true → reserved below entry = false →
      isLeaf below entry = false → deeper = deeper') :
    through below virtual entry permissions deeper =
      through below virtual entry permissions deeper' := by
  simp only [through]
  split_ifs with hpresent hreserved hleaf
  · rfl
  · rfl
  · rfl
  · exact hdeeper (by simpa using hpresent) (by simpa using hreserved) (by simpa using hleaf)

/-- Entries that differ in the address of the next table only. -/
theorem through_eq {entry entry' : UInt64} {deeper : Translation}
    (hpresent : present entry' = present entry)
    (hreserved : reserved below entry' = reserved below entry)
    (hleaf : isLeaf below entry' = false ∧ isLeaf below entry = false) :
    through below virtual entry' permissions deeper =
      through below virtual entry permissions deeper := by
  simp only [through, hpresent, hreserved, hleaf.1, hleaf.2, Bool.false_eq_true, if_false]

theorem through_of_not_present {entry : UInt64} {deeper : Translation}
    (hpresent : present entry = false) :
    through below virtual entry permissions deeper = .fault .notPresent := by
  rw [through, if_pos hpresent]

/-- An entry that maps no page itself adds no translation. -/
theorem through_fault {entry : UInt64} {cause : Cause} (hleaf : isLeaf below entry = false) :
    ∃ cause', through below virtual entry permissions (.fault cause) = .fault cause' := by
  simp only [through, hleaf, Bool.false_eq_true, if_false]
  split_ifs <;> exact ⟨_, rfl⟩

/-- Walks from a root depend on nothing but the tables reachable from it. -/
theorem walk_congr
    (hsame : ∀ lower table, IsTable right below root lower table → ∀ index < 512,
      left (table + 8 * index) = right (table + 8 * index)) :
    walk left virtual below root permissions = walk right virtual below root permissions := by
  induction below generalizing root permissions with
  | zero =>
      have hentry := hsame 0 root .root _ (tableIndex_lt 0 virtual)
      rw [walk, walk, hentry]
  | succ lower ih =>
      have hentry := hsame (lower + 1) root .root _ (tableIndex_lt (lower + 1) virtual)
      rw [walk, walk, hentry]
      apply through_congr
      intro hpresent hreserved hleaf
      apply ih
      intro level table htable
      exact hsame level table ((IsTable.child rfl hpresent hreserved hleaf).trans htable)

@[simp]
theorem tableAlong_nil : tableAlong memory below table [] = some table := by
  cases below <;> rfl

theorem tableAlong_cons {index : ℕ} :
    tableAlong memory (below + 1) root (index :: path) = some table ↔
      (index < 512 ∧ Enters (below + 1) (memory (root + 8 * index))) ∧
        tableAlong memory below (address (memory (root + 8 * index))) path = some table := by
  rw [tableAlong, Option.ite_none_right_eq_some]

/-- One table further. -/
theorem tableAlong_concat {index : ℕ}
    (halong : tableAlong memory below root (path ++ [index]) = some table) :
    ∃ middle, tableAlong memory below root path = some middle ∧ index < 512 ∧
      address (memory (middle + 8 * index)) = table := by
  induction path generalizing below root with
  | nil =>
      cases below with
      | zero => cases halong
      | succ below =>
          obtain ⟨⟨hindex, -⟩, hrest⟩ := tableAlong_cons.mp halong
          rw [tableAlong_nil, Option.some.injEq] at hrest
          exact ⟨root, tableAlong_nil, hindex, hrest⟩
  | cons first path ih =>
      cases below with
      | zero => cases halong
      | succ below =>
          obtain ⟨henters, hrest⟩ := tableAlong_cons.mp halong
          obtain ⟨middle, hmiddle, hlast⟩ := ih hrest
          exact ⟨middle, tableAlong_cons.mpr ⟨henters, hmiddle⟩, hlast⟩

/-- The tables along any indices are those that walks can visit. -/
theorem isTable_of_tableAlong (halong : tableAlong memory below root path = some table) :
    IsTable memory below root (below - path.length) table := by
  induction path generalizing below root with
  | nil =>
      rw [tableAlong_nil, Option.some.injEq] at halong
      subst halong
      exact .root
  | cons index path ih =>
      cases below with
      | zero => cases halong
      | succ below =>
          obtain ⟨⟨hindex, hpresent, hreserved, hleaf⟩, hrest⟩ := tableAlong_cons.mp halong
          have hlength : below + 1 - (index :: path).length = below - path.length := by
            rw [List.length_cons]
            omega
          rw [hlength]
          exact (IsTable.next .root hindex hpresent hreserved hleaf).trans (ih hrest)

/-- The walk of an address goes through the tables along the address's indices. -/
theorem walk_tableAlong (halong : tableAlong memory below root path = some table)
    (hpath : ∀ depth (hdepth : depth < path.length),
      path[depth] = tableIndex (below - depth) virtual) :
    ∃ permissions', walk memory virtual below root permissions =
      walk memory virtual (below - path.length) table permissions' := by
  induction path generalizing below root permissions with
  | nil =>
      rw [tableAlong_nil, Option.some.injEq] at halong
      subst halong
      exact ⟨permissions, rfl⟩
  | cons index path ih =>
      cases below with
      | zero => cases halong
      | succ below =>
          obtain ⟨⟨-, hpresent, hreserved, hleaf⟩, hrest⟩ := tableAlong_cons.mp halong
          have hindex : index = tableIndex (below + 1) virtual := hpath 0 (Nat.succ_pos _)
          have hlength : below + 1 - (index :: path).length = below - path.length := by
            rw [List.length_cons]
            omega
          have hlater (depth : ℕ) (hdepth : depth < path.length) :
              path[depth] = tableIndex (below - depth) virtual := by
            have hnext := hpath (depth + 1) (Nat.succ_lt_succ hdepth)
            rw [Nat.add_sub_add_right] at hnext
            exact hnext
          obtain ⟨permissions', hwalk⟩ : ∃ permissions', walk memory virtual below
              (address (memory (root + 8 * index)))
              (permissions.restrict (memory (root + 8 * index))) =
                walk memory virtual (below - path.length) table permissions' :=
            ih hrest hlater
          refine ⟨permissions', ?_⟩
          rw [hlength, ← hwalk, walk_entry (by rw [← hindex]), through, hpresent, hreserved, hleaf]
          rfl

end

end AngryUefi.PageWalk
