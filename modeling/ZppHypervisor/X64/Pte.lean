import ZppHypervisor.Lib.BitField

/-!
# Page table entries (`pte.h`)

`Pte` wraps the 64-bit word of an entry of any level of the x86-64 page tables.  The class is used
for all four levels: `pageNumber` always reads bits 51:12, also where the entry maps a large page.
-/

namespace Zpp.X64

/-- A 64-bit machine word: `std::uint64_t`, `std::size_t` or an address. -/
abbrev Word := BitVec 64

/-- A page table entry structure. -/
structure Pte where
  /-- The integral representation of the entry (`m_value`). -/
  value : Word
deriving DecidableEq, Repr

namespace Pte

/-- The present bit. -/
def present (e : Pte) : Bool := BitField.test 0 e.value

def setPresent (e : Pte) (b : Bool) : Pte := ⟨BitField.setFlag 0 e.value b⟩

/-- The write bit. -/
def write (e : Pte) : Bool := BitField.test 1 e.value

def setWrite (e : Pte) (b : Bool) : Pte := ⟨BitField.setFlag 1 e.value b⟩

/-- The user bit. -/
def user (e : Pte) : Bool := BitField.test 2 e.value

def setUser (e : Pte) (b : Bool) : Pte := ⟨BitField.setFlag 2 e.value b⟩

/-- The write through bit. -/
def writeThrough (e : Pte) : Bool := BitField.test 3 e.value

def setWriteThrough (e : Pte) (b : Bool) : Pte := ⟨BitField.setFlag 3 e.value b⟩

/-- The page level cache disable bit. -/
def pageLevelCacheDisable (e : Pte) : Bool := BitField.test 4 e.value

def setPageLevelCacheDisable (e : Pte) (b : Bool) : Pte := ⟨BitField.setFlag 4 e.value b⟩

/-- The access bit. -/
def access (e : Pte) : Bool := BitField.test 5 e.value

def setAccess (e : Pte) (b : Bool) : Pte := ⟨BitField.setFlag 5 e.value b⟩

/-- The dirty bit. -/
def dirty (e : Pte) : Bool := BitField.test 6 e.value

def setDirty (e : Pte) (b : Bool) : Pte := ⟨BitField.setFlag 6 e.value b⟩

/-- The PAT bit, for a pte. -/
def pat (e : Pte) : Bool := BitField.test 7 e.value

def setPat (e : Pte) (b : Bool) : Pte := ⟨BitField.setFlag 7 e.value b⟩

/-- The large bit (the `PS` bit of a pdpte or pde). -/
def large (e : Pte) : Bool := BitField.test 7 e.value

def setLarge (e : Pte) (b : Bool) : Pte := ⟨BitField.setFlag 7 e.value b⟩

/-- The global bit. -/
def global (e : Pte) : Bool := BitField.test 8 e.value

def setGlobal (e : Pte) (b : Bool) : Pte := ⟨BitField.setFlag 8 e.value b⟩

/-- The page number field, bits 51:12. -/
def pageNumber (e : Pte) : Word := BitField.get 12 0xffffffffff#64 e.value

def setPageNumber (e : Pte) (v : Word) : Pte :=
  ⟨BitField.set 0xffffffffff000#64 0xffffffffff#64 12 e.value v⟩

/-- The protection key field, bits 61:58. -/
def protectionKey (e : Pte) : Word := BitField.get 58 0xf#64 e.value

def setProtectionKey (e : Pte) (v : Word) : Pte :=
  ⟨BitField.set 0x3c00000000000000#64 0xf#64 58 e.value v⟩

/-- The execute disable bit. -/
def executeDisable (e : Pte) : Bool := BitField.test 63 e.value

def setExecuteDisable (e : Pte) (b : Bool) : Pte := ⟨BitField.setFlag 63 e.value b⟩

/-! ### Getters after setters

One statement for each setter, with the value of every getter after it. -/

variable (e : Pte) (b : Bool) (v : Word)

@[simp] theorem setPresent_fields :
    (e.setPresent b).present = b ∧ (e.setPresent b).write = e.write ∧
    (e.setPresent b).large = e.large ∧ (e.setPresent b).executeDisable = e.executeDisable ∧
    (e.setPresent b).pageNumber = e.pageNumber := by
  simp [present, write, large, executeDisable, pageNumber, setPresent]

@[simp] theorem setWrite_fields :
    (e.setWrite b).present = e.present ∧ (e.setWrite b).write = b ∧
    (e.setWrite b).large = e.large ∧ (e.setWrite b).executeDisable = e.executeDisable ∧
    (e.setWrite b).pageNumber = e.pageNumber := by
  simp [present, write, large, executeDisable, pageNumber, setWrite]

@[simp] theorem setExecuteDisable_fields :
    (e.setExecuteDisable b).present = e.present ∧ (e.setExecuteDisable b).write = e.write ∧
    (e.setExecuteDisable b).large = e.large ∧ (e.setExecuteDisable b).executeDisable = b ∧
    (e.setExecuteDisable b).pageNumber = e.pageNumber := by
  simp [present, write, large, executeDisable, pageNumber, setExecuteDisable]

@[simp] theorem setPageNumber_fields :
    (e.setPageNumber v).present = e.present ∧ (e.setPageNumber v).write = e.write ∧
    (e.setPageNumber v).large = e.large ∧ (e.setPageNumber v).executeDisable = e.executeDisable ∧
    (e.setPageNumber v).pageNumber = v &&& 0xffffffffff#64 := by
  refine ⟨?_, ?_, ?_, ?_, ?_⟩
  · simp [present, setPageNumber]
  · simp [write, setPageNumber]
  · simp [large, setPageNumber]
  · simp [executeDisable, setPageNumber]
  · rw [pageNumber, setPageNumber, BitField.get_set_self (by decide) (by decide), BitVec.and_self]

/-- Every field of the empty entry is clear. -/
@[simp] theorem zero_fields :
    (Pte.mk 0#64).present = false ∧ (Pte.mk 0#64).write = false ∧ (Pte.mk 0#64).large = false ∧
    (Pte.mk 0#64).executeDisable = false ∧ (Pte.mk 0#64).pageNumber = 0#64 := by
  simp [present, write, large, executeDisable, pageNumber]

end Pte

end Zpp.X64
