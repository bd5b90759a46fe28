import ZppHypervisor.X64.Intel.Epte

/-!
# EPT pointers (`ept_pointer.h`)

`EptPointer` wraps the 64-bit word that a VMCS has for the root of the extended page tables.
-/

namespace Zpp.X64.Intel

/-- The EPT pointer. -/
structure EptPointer where
  /-- The integral representation of the EPT pointer (`m_value`). -/
  value : Word
deriving DecidableEq, Repr

namespace EptPointer

/-- The memory type field, bits 2:0. -/
def memoryType (e : EptPointer) : MemoryType := (BitField.get 0 0x7#64 e.value).setWidth 32

def setMemoryType (e : EptPointer) (v : MemoryType) : EptPointer :=
  ⟨BitField.set 0x7#64 0x7#64 0 e.value (v.signExtend 64)⟩

/-- The page walk length, bits 5:3.  It starts from 1, the bits from 0. -/
def pageWalkLength (e : EptPointer) : Word := BitField.get 3 0x7#64 e.value + 1#64

def setPageWalkLength (e : EptPointer) (v : Word) : EptPointer :=
  ⟨BitField.set (0x7#64 <<< 3) 0x7#64 3 e.value (v - 1#64)⟩

/-- The access and dirty bit. -/
def accessAndDirty (e : EptPointer) : Bool := BitField.test 8 e.value

/-- Written like the page walk length: one is subtracted from the flag, and three bits are replaced. -/
def setAccessAndDirty (e : EptPointer) (b : Bool) : EptPointer :=
  ⟨BitField.set (0x7#64 <<< 8) 0x7#64 8 e.value ((if b then 1#64 else 0#64) - 1#64)⟩

/-- The page number, bits 51:12. -/
def pageNumber (e : EptPointer) : Word := BitField.get 12 0xffffffffff#64 e.value

def setPageNumber (e : EptPointer) (v : Word) : EptPointer :=
  ⟨BitField.set 0xffffffffff000#64 0xffffffffff#64 12 e.value v⟩

end EptPointer

end Zpp.X64.Intel
