import ZppHypervisor.X64.Pte

/-!
# Extended page table entries (`ept.h`, `memory_type.h`)

`Epte` wraps the 64-bit word of an entry of any level of the extended page tables.  Two fields of
the class overlap: `pageNumber`, bits 51:12, and `largePageNumber`, bits 51:21.
-/

namespace Zpp.X64.Intel

/-- Memory types; the enumeration is an `int` that also takes values read from a register. -/
abbrev MemoryType := BitVec 32

namespace MemoryType

def uncachable : MemoryType := 0#32

def writeCombining : MemoryType := 1#32

def writeThrough : MemoryType := 4#32

def writeProtected : MemoryType := 5#32

def writeBack : MemoryType := 6#32

end MemoryType

/-- An extended page table entry structure. -/
structure Epte where
  /-- The integral representation of the entry (`m_value`). -/
  value : Word
deriving DecidableEq, Repr

namespace Epte

/-- The read bit. -/
def read (e : Epte) : Bool := BitField.test 0 e.value

def setRead (e : Epte) (b : Bool) : Epte := ⟨BitField.setFlag 0 e.value b⟩

/-- The write bit. -/
def write (e : Epte) : Bool := BitField.test 1 e.value

def setWrite (e : Epte) (b : Bool) : Epte := ⟨BitField.setFlag 1 e.value b⟩

/-- The execute bit. -/
def execute (e : Epte) : Bool := BitField.test 2 e.value

def setExecute (e : Epte) (b : Bool) : Epte := ⟨BitField.setFlag 2 e.value b⟩

/-- The memory type field, bits 5:3. -/
def type (e : Epte) : MemoryType := (BitField.get 3 0x7#64 e.value).setWidth 32

/-- Clears the three bits of the field but lets four bits of the value in. -/
def setType (e : Epte) (v : MemoryType) : Epte :=
  ⟨BitField.set (0x7#64 <<< 3) 0xf#64 3 e.value (v.signExtend 64)⟩

/-- The large bit. -/
def large (e : Epte) : Bool := BitField.test 7 e.value

def setLarge (e : Epte) (b : Bool) : Epte := ⟨BitField.setFlag 7 e.value b⟩

/-- The accessed bit. -/
def accessed (e : Epte) : Bool := BitField.test 8 e.value

def setAccessed (e : Epte) (b : Bool) : Epte := ⟨BitField.setFlag 8 e.value b⟩

/-- The execute user bit. -/
def executeUser (e : Epte) : Bool := BitField.test 10 e.value

def setExecuteUser (e : Epte) (b : Bool) : Epte := ⟨BitField.setFlag 10 e.value b⟩

/-- The page number field, bits 51:12. -/
def pageNumber (e : Epte) : Word := BitField.get 12 0xffffffffff#64 e.value

def setPageNumber (e : Epte) (v : Word) : Epte :=
  ⟨BitField.set 0xffffffffff000#64 0xffffffffff#64 12 e.value v⟩

/-- The large page number field, bits 51:21. -/
def largePageNumber (e : Epte) : Word := BitField.get 21 0x7fffffff#64 e.value

def setLargePageNumber (e : Epte) (v : Word) : Epte :=
  ⟨BitField.set (0x7fffffff#64 <<< 21) 0x7fffffff#64 21 e.value v⟩

/-- The suppress #VE bit. -/
def suppressVe (e : Epte) : Bool := BitField.test 63 e.value

def setSuppressVe (e : Epte) (b : Bool) : Epte := ⟨BitField.setFlag 63 e.value b⟩

/-- The four permission bits together. -/
def setPermissions (e : Epte) (b : Bool) : Epte :=
  (((e.setRead b).setWrite b).setExecute b).setExecuteUser b

/-- The four permission bits all have the value `b`. -/
def HasPermissions (e : Epte) (b : Bool) : Prop :=
  e.read = b ∧ e.write = b ∧ e.execute = b ∧ e.executeUser = b

/-! ### Getters after setters

One statement for each setter, with the value of every getter after it. -/

variable (e : Epte) (b : Bool) (v : Word)

@[simp] theorem setRead_fields :
    (e.setRead b).read = b ∧ (e.setRead b).write = e.write ∧
    (e.setRead b).execute = e.execute ∧ (e.setRead b).executeUser = e.executeUser ∧
    (e.setRead b).type = e.type ∧ (e.setRead b).large = e.large ∧
    (e.setRead b).pageNumber = e.pageNumber ∧
    (e.setRead b).largePageNumber = e.largePageNumber := by
  simp [read, write, execute, executeUser, type, large, pageNumber, largePageNumber, setRead]

@[simp] theorem setWrite_fields :
    (e.setWrite b).read = e.read ∧ (e.setWrite b).write = b ∧
    (e.setWrite b).execute = e.execute ∧ (e.setWrite b).executeUser = e.executeUser ∧
    (e.setWrite b).type = e.type ∧ (e.setWrite b).large = e.large ∧
    (e.setWrite b).pageNumber = e.pageNumber ∧
    (e.setWrite b).largePageNumber = e.largePageNumber := by
  simp [read, write, execute, executeUser, type, large, pageNumber, largePageNumber, setWrite]

@[simp] theorem setExecute_fields :
    (e.setExecute b).read = e.read ∧ (e.setExecute b).write = e.write ∧
    (e.setExecute b).execute = b ∧ (e.setExecute b).executeUser = e.executeUser ∧
    (e.setExecute b).type = e.type ∧ (e.setExecute b).large = e.large ∧
    (e.setExecute b).pageNumber = e.pageNumber ∧
    (e.setExecute b).largePageNumber = e.largePageNumber := by
  simp [read, write, execute, executeUser, type, large, pageNumber, largePageNumber, setExecute]

@[simp] theorem setExecuteUser_fields :
    (e.setExecuteUser b).read = e.read ∧ (e.setExecuteUser b).write = e.write ∧
    (e.setExecuteUser b).execute = e.execute ∧ (e.setExecuteUser b).executeUser = b ∧
    (e.setExecuteUser b).type = e.type ∧ (e.setExecuteUser b).large = e.large ∧
    (e.setExecuteUser b).pageNumber = e.pageNumber ∧
    (e.setExecuteUser b).largePageNumber = e.largePageNumber := by
  simp [read, write, execute, executeUser, type, large, pageNumber, largePageNumber,
    setExecuteUser]

@[simp] theorem setLarge_fields :
    (e.setLarge b).read = e.read ∧ (e.setLarge b).write = e.write ∧
    (e.setLarge b).execute = e.execute ∧ (e.setLarge b).executeUser = e.executeUser ∧
    (e.setLarge b).type = e.type ∧ (e.setLarge b).large = b ∧
    (e.setLarge b).pageNumber = e.pageNumber ∧
    (e.setLarge b).largePageNumber = e.largePageNumber := by
  simp [read, write, execute, executeUser, type, large, pageNumber, largePageNumber, setLarge]

/-- The type read back is the low three bits of the type written. -/
@[simp] theorem setType_fields (v : MemoryType) :
    (e.setType v).read = e.read ∧ (e.setType v).write = e.write ∧
    (e.setType v).execute = e.execute ∧ (e.setType v).executeUser = e.executeUser ∧
    (e.setType v).type = v &&& 0x7#32 ∧ (e.setType v).large = e.large ∧
    (e.setType v).pageNumber = e.pageNumber ∧
    (e.setType v).largePageNumber = e.largePageNumber := by
  have htype : (e.setType v).type = v &&& 0x7#32 := by
    rw [type, setType, BitField.get_set_self (by decide) (by decide)]
    apply BitVec.eq_of_getLsbD_eq
    intro i hi
    have hmask : (0xf#64 &&& 0x7#64).getLsbD i = (0x7#32).getLsbD i := by
      revert i
      decide
    rw [BitVec.getLsbD_setWidth, BitVec.getLsbD_and, hmask, BitVec.getLsbD_and,
      BitVec.getLsbD_signExtend, if_pos hi, decide_eq_true hi, decide_eq_true (by omega)]
    rfl
  refine ⟨?_, ?_, ?_, ?_, htype, ?_, ?_, ?_⟩ <;>
    simp [read, write, execute, executeUser, large, pageNumber, largePageNumber, setType]

/-- The type read has three bits. -/
theorem type_and_seven : e.type &&& 0x7#32 = e.type := by
  apply BitVec.eq_of_getLsbD_eq
  intro i hi
  have hmask : (0x7#32).getLsbD i = (0x7#64).getLsbD i := by
    revert i
    decide
  rw [BitVec.getLsbD_and, type, BitVec.getLsbD_setWidth, BitField.getLsbD_get, hmask, Bool.and_assoc,
    Bool.and_assoc, Bool.and_self]

/-- Writing the page number leaves everything but the two page number fields. -/
@[simp] theorem setPageNumber_fields :
    (e.setPageNumber v).read = e.read ∧ (e.setPageNumber v).write = e.write ∧
    (e.setPageNumber v).execute = e.execute ∧ (e.setPageNumber v).executeUser = e.executeUser ∧
    (e.setPageNumber v).type = e.type ∧ (e.setPageNumber v).large = e.large ∧
    (e.setPageNumber v).pageNumber = v &&& 0xffffffffff#64 := by
  refine ⟨?_, ?_, ?_, ?_, ?_, ?_, ?_⟩
  rotate_right
  · rw [pageNumber, setPageNumber, BitField.get_set_self (by decide) (by decide), BitVec.and_self]
  all_goals simp [read, write, execute, executeUser, type, large, setPageNumber]

/-- Writing the large page number leaves everything but the two page number fields. -/
@[simp] theorem setLargePageNumber_fields :
    (e.setLargePageNumber v).read = e.read ∧ (e.setLargePageNumber v).write = e.write ∧
    (e.setLargePageNumber v).execute = e.execute ∧
    (e.setLargePageNumber v).executeUser = e.executeUser ∧
    (e.setLargePageNumber v).type = e.type ∧ (e.setLargePageNumber v).large = e.large ∧
    (e.setLargePageNumber v).largePageNumber = v &&& 0x7fffffff#64 := by
  refine ⟨?_, ?_, ?_, ?_, ?_, ?_, ?_⟩
  rotate_right
  · rw [largePageNumber, setLargePageNumber, BitField.get_set_self (by decide) (by decide),
      BitVec.and_self]
  all_goals simp [read, write, execute, executeUser, type, large, setLargePageNumber]

/-- Writing the permissions leaves everything else. -/
@[simp] theorem setPermissions_fields :
    (e.setPermissions b).HasPermissions b ∧ (e.setPermissions b).type = e.type ∧
    (e.setPermissions b).large = e.large ∧ (e.setPermissions b).pageNumber = e.pageNumber ∧
    (e.setPermissions b).largePageNumber = e.largePageNumber := by
  simp [setPermissions, HasPermissions]

end Epte

end Zpp.X64.Intel
