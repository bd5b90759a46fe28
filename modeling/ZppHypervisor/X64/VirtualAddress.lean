import ZppHypervisor.X64.Pte

/-!
# Virtual addresses (`virtual_address.h`)

The four 9-bit table indices and the offsets within a 4 KiB, a 2 MiB and a 1 GiB page.
-/

namespace Zpp.X64

/-- The virtual address structure. -/
structure VirtualAddress where
  /-- The integral representation of the virtual address (`m_value`). -/
  value : Word
deriving DecidableEq, Repr

namespace VirtualAddress

variable (a : VirtualAddress) (v : Word)

/-- The offset within a regular page. -/
def offset : Word := a.value &&& 0xfff#64

def setOffset : VirtualAddress := ⟨(a.value &&& 0xfffffffffffff000#64) ||| (v &&& 0xfff#64)⟩

/-- The offset within a large page. -/
def largeOffset : Word := a.value &&& 0x1fffff#64

def setLargeOffset : VirtualAddress := ⟨(a.value &&& 0xffffffffffe00000#64) ||| (v &&& 0x1fffff#64)⟩

/-- The offset within a huge page. -/
def hugeOffset : Word := a.value &&& 0x3fffffff#64

def setHugeOffset : VirtualAddress := ⟨(a.value &&& 0xffffffffc0000000#64) ||| (v &&& 0x3fffffff#64)⟩

/-- The page table entry index. -/
def pte : Word := BitField.get 12 0x1ff#64 a.value

def setPte : VirtualAddress := ⟨(a.value &&& 0xffffffffffe00fff#64) ||| ((v &&& 0x1ff#64) <<< 12)⟩

/-- The page directory entry index. -/
def pde : Word := BitField.get (12 + 9) 0x1ff#64 a.value

def setPde : VirtualAddress :=
  ⟨(a.value &&& 0xffffffffc01fffff#64) ||| ((v &&& 0x1ff#64) <<< (12 + 9))⟩

/-- The page directory pointer table entry index. -/
def pdpte : Word := BitField.get (12 + 9 * 2) 0x1ff#64 a.value

def setPdpte : VirtualAddress :=
  ⟨(a.value &&& 0xffffff803fffffff#64) ||| ((v &&& 0x1ff#64) <<< (12 + 9 * 2))⟩

/-- The page level 4 entry index. -/
def pml4e : Word := BitField.get (12 + 9 * 3) 0x1ff#64 a.value

def setPml4e : VirtualAddress :=
  ⟨(a.value &&& 0xffff007fffffffff#64) ||| ((v &&& 0x1ff#64) <<< (12 + 9 * 3))⟩

end VirtualAddress

end Zpp.X64
