import ZppHypervisor.Lib.ByteMemory
import ZppHypervisor.Lib.Loop

/-!
# ELF files (`elf_file.h`)

`ElfFile` holds the pointers and numbers that the constructor of `elf_file` computes.  The program
reads the headers, the segments and the dynamic array through pointers to `const` data; they are
read here from the memory `file`.  What `load` writes, and the relocation entries it reads back, are
in the memory `m`.
-/

namespace Zpp

open Loop

/-- `std::uintptr_t`. -/
abbrev Uintptr := BitVec 64

/-! ### Records of the file -/

/-- The fields of the ELF header that are used. -/
structure ElfHeader where
  eMachine : BitVec 16
  eEntry : Uintptr
  ePhoff : Uintptr
  ePhnum : BitVec 16
deriving DecidableEq

def ElfHeader.read (m : ByteMemory 64) (p : Uintptr) : ElfHeader where
  eMachine := m.load (p + 18#64) 2
  eEntry := m.load64 (p + 24#64)
  ePhoff := m.load64 (p + 32#64)
  ePhnum := m.load (p + 56#64) 2

/-- The fields of a program header that are used. -/
structure ElfPhdr where
  pType : BitVec 32
  pFlags : BitVec 32
  pOffset : Uintptr
  pVaddr : Uintptr
  pFilesz : Uintptr
  pMemsz : Uintptr
deriving DecidableEq

namespace ElfPhdr

/-- `type::load`. -/
def typeLoad : BitVec 32 := 1#32

/-- `type::dynamic`. -/
def typeDynamic : BitVec 32 := 2#32

/-- `sizeof(elf_phdr)`. -/
def sizeOf : Uintptr := 56#64

def read (m : ByteMemory 64) (p : Uintptr) : ElfPhdr where
  pType := m.load p 4
  pFlags := m.load (p + 4#64) 4
  pOffset := m.load64 (p + 8#64)
  pVaddr := m.load64 (p + 16#64)
  pFilesz := m.load64 (p + 32#64)
  pMemsz := m.load64 (p + 40#64)

end ElfPhdr

/-- The ELF relocation type according to the ELF spec. -/
structure ElfRel where
  rOffset : Uintptr
  rInfo : Uintptr
deriving DecidableEq

namespace ElfRel

/-- `sizeof(elf_rel)`. -/
def sizeOf : Uintptr := 16#64

def read (m : ByteMemory 64) (p : Uintptr) : ElfRel where
  rOffset := m.load64 p
  rInfo := m.load64 (p + 8#64)

end ElfRel

/-- The ELF relocation by addend type according to the ELF spec. -/
structure ElfRela where
  rOffset : Uintptr
  rInfo : Uintptr
  rAddend : Uintptr
deriving DecidableEq

namespace ElfRela

/-- `sizeof(elf_rela)`. -/
def sizeOf : Uintptr := 24#64

def read (m : ByteMemory 64) (p : Uintptr) : ElfRela where
  rOffset := m.load64 p
  rInfo := m.load64 (p + 8#64)
  rAddend := m.load64 (p + 16#64)

end ElfRela

/-- The ELF dynamic entry according to the ELF spec; `dVal` is also `d_ptr`. -/
structure ElfDyn where
  dTag : Uintptr
  dVal : Uintptr
deriving DecidableEq

namespace ElfDyn

/-- `enum class tag`: conversion from `d_tag` keeps the low 32 bits. -/
abbrev Tag := BitVec 32

def tagNull : Tag := 0#32
def tagRela : Tag := 7#32
def tagRelaSize : Tag := 8#32
def tagRel : Tag := 17#32
def tagRelSize : Tag := 18#32

/-- `sizeof(elf_dyn)`. -/
def sizeOf : Uintptr := 16#64

def read (m : ByteMemory 64) (p : Uintptr) : ElfDyn where
  dTag := m.load64 p
  dVal := m.load64 (p + 8#64)

def tag (d : ElfDyn) : Tag := d.dTag.setWidth 32

end ElfDyn

/-! ### Construction -/

/-- Specifies whether the given ELF file is loaded or unloaded. -/
inductive ElfState
  | unloaded
  | loaded
deriving DecidableEq

/-- Represents an ELF file. -/
structure ElfFile where
  /-- The ELF file data pointer, which is also where the ELF header is. -/
  fileData : Uintptr
  /-- Points to the program header table. -/
  programHeaders : Uintptr
  /-- The address of the first loadable segment, aligned to page size. -/
  preferredBase : Uintptr
  /-- The program header which points to the dynamic segment. -/
  dynamicPhdr : Uintptr
  /-- The dynamic segment. -/
  dynamic : Uintptr
  /-- The last program header which points to a loadable segment. -/
  lastLoadPhdr : Uintptr
  /-- The size in memory that the ELF requires. -/
  memorySize : Uintptr
deriving DecidableEq

/-- The address of a program header. -/
def phdrAddress (programHeaders : Uintptr) (i : ℕ) : Uintptr :=
  programHeaders + ElfPhdr.sizeOf * BitVec.ofNat 64 i

/-- `std::find_if` for a program header of a type; the end of the table if there is none. -/
def findPhdr (file : ByteMemory 64) (programHeaders : Uintptr) (phnum : ℕ) (type : BitVec 32) :
    Uintptr :=
  match (List.range phnum).find? fun i =>
      (ElfPhdr.read file (phdrAddress programHeaders i)).pType == type with
  | some i => phdrAddress programHeaders i
  | none => phdrAddress programHeaders phnum

/-- `std::find_if` over the reverse iterators; one before the table if there is none. -/
def findLastPhdr (file : ByteMemory 64) (programHeaders : Uintptr) (phnum : ℕ) (type : BitVec 32) :
    Uintptr :=
  match (List.range phnum).reverse.find? fun i =>
      (ElfPhdr.read file (phdrAddress programHeaders i)).pType == type with
  | some i => phdrAddress programHeaders i
  | none => programHeaders - ElfPhdr.sizeOf

namespace ElfFile

/-- Constructs an ELF file from an ELF file in memory. -/
def ofMemory (file : ByteMemory 64) (fileData : Uintptr) (state : ElfState) : ElfFile :=
  let header := ElfHeader.read file fileData
  let programHeaders := fileData + header.ePhoff
  let phnum := header.ePhnum.toNat
  -- The preferred base is the first load segment virtual address rounded down to page boundary.
  let preferredBase :=
    (ElfPhdr.read file (findPhdr file programHeaders phnum ElfPhdr.typeLoad)).pVaddr &&&
      0xfffffffffffff000#64
  let dynamicPhdr := findPhdr file programHeaders phnum ElfPhdr.typeDynamic
  let dynamic := match state with
    | .unloaded => fileData + (ElfPhdr.read file dynamicPhdr).pOffset
    | .loaded => (ElfPhdr.read file dynamicPhdr).pVaddr + (fileData - preferredBase)
  let lastLoadPhdr := findLastPhdr file programHeaders phnum ElfPhdr.typeLoad
  let last := ElfPhdr.read file lastLoadPhdr
  -- Compute the memory size according to last and first load program headers.
  let memorySize := ((last.pVaddr + last.pMemsz + 0xfff#64) &&& 0xfffffffffffff000#64) - preferredBase
  { fileData, programHeaders, preferredBase, dynamicPhdr, dynamic, lastLoadPhdr, memorySize }

variable (f : ElfFile)

/-- The ELF header. -/
def header (file : ByteMemory 64) : ElfHeader := ElfHeader.read file f.fileData

/-- The number of program headers. -/
def phnum (file : ByteMemory 64) : ℕ := (f.header file).ePhnum.toNat

/-- `m_program_headers[i]`. -/
def phdr (file : ByteMemory 64) (i : ℕ) : ElfPhdr :=
  ElfPhdr.read file (phdrAddress f.programHeaders i)

/-- `m_dynamic[i]`. -/
def dynamicEntry (file : ByteMemory 64) (i : ℕ) : ElfDyn :=
  ElfDyn.read file (f.dynamic + ElfDyn.sizeOf * BitVec.ofNat 64 i)

/-- The entry relative to file to be mapped in memory. -/
def entry (file : ByteMemory 64) : Uintptr := (f.header file).eEntry - f.preferredBase

/-! ### Loading -/

/-- The loop body of `map_segments`. -/
def mapSegment (file : ByteMemory 64) (baseDifference : Uintptr) (i : ℕ) (m : ByteMemory 64) :
    ByteMemory 64 :=
  let programHeader := f.phdr file i
  -- If not loadable, skip.
  if programHeader.pType ≠ ElfPhdr.typeLoad then m
  else
    -- Load the segment.
    let m := m.copy (baseDifference + programHeader.pVaddr) file
      (f.fileData + programHeader.pOffset) programHeader.pFilesz.toNat
    -- Zero memory.
    m.fill (baseDifference + programHeader.pVaddr + programHeader.pFilesz)
      (programHeader.pMemsz - programHeader.pFilesz).toNat 0#8

/-- Iterates the loadable segments using the program headers and maps them into memory, given the
loaded ELF base difference. -/
def mapSegments (file : ByteMemory 64) (baseDifference : Uintptr) (m : ByteMemory 64) :
    ByteMemory 64 :=
  forRange (f.phnum file) (f.mapSegment file baseDifference) m

/-- The local variables of `get_relocations`. -/
structure DynamicTags where
  rel : Uintptr
  relSize : Uintptr
  rela : Uintptr
  relaSize : Uintptr
deriving DecidableEq

/-- One dynamic entry that is not the end. -/
def DynamicTags.parse (baseDifference : Uintptr) (d : ElfDyn) (t : DynamicTags) : DynamicTags :=
  if d.tag = ElfDyn.tagRel then { t with rel := baseDifference + d.dVal }
  else if d.tag = ElfDyn.tagRelSize then { t with relSize := d.dVal }
  else if d.tag = ElfDyn.tagRela then { t with rela := baseDifference + d.dVal }
  else if d.tag = ElfDyn.tagRelaSize then { t with relaSize := d.dVal }
  else t

/-- The loop of `get_relocations` from entry `i` on, for at most `fuel` entries. -/
def parseDynamic (file : ByteMemory 64) (baseDifference : Uintptr) :
    (fuel i : ℕ) → DynamicTags → Option DynamicTags
  | 0, _, _ => none
  | fuel + 1, i, t =>
    let dynamicEntry := f.dynamicEntry file i
    -- If the end is reached.
    if dynamicEntry.tag = ElfDyn.tagNull then some t
    else parseDynamic file baseDifference fuel (i + 1) (t.parse baseDifference dynamicEntry)

/-- `std::variant<const elf_rela *, const elf_rel *>`. -/
inductive Relocations
  | rela (p : Uintptr)
  | rel (p : Uintptr)
deriving DecidableEq

/-- Returns the relocation table and its size, using the given base difference and the dynamic
segment. -/
def getRelocations (fuel : ℕ) (file : ByteMemory 64) (baseDifference : Uintptr) :
    Option (Relocations × Uintptr) := do
  let t ← f.parseDynamic file baseDifference fuel 0 ⟨0#64, 0#64, 0#64, 0#64⟩
  -- If rela relocations exist, prefer them, else use rel relocations.
  if t.rela ≠ 0#64 then pure (.rela t.rela, t.relaSize) else pure (.rel t.rel, t.relSize)

/-- `elf_relocation_type::x86_64_relative`. -/
def x86_64Relative : Uintptr := 8#64

/-- `elf_relocation_type::aarch64_relative`. -/
def aarch64Relative : Uintptr := 1027#64

/-- `elf_machine::x86_64`. -/
def machineX86_64 : BitVec 16 := 62#16

/-- `elf_machine::aarch64`. -/
def machineAarch64 : BitVec 16 := 183#16

/-- Returns the relative relocation type. -/
def relativeRelocationValue (file : ByteMemory 64) : Uintptr :=
  if (f.header file).eMachine = machineAarch64 then aarch64Relative
  else if (f.header file).eMachine = machineX86_64 then x86_64Relative
  else 0#64

/-- Returns the relocation type given a rel/rela info. -/
def parseRelocationType (info : Uintptr) : Uintptr := info &&& 0xffffffff#64

/-- The address of `relocations[i]` for rela entries. -/
def relaAddress (relocations : Uintptr) (i : ℕ) : Uintptr :=
  relocations + ElfRela.sizeOf * BitVec.ofNat 64 i

/-- The loop body of `relocate` for rela entries. -/
def relocateRelaEntry (relativeRelocation relocations baseDifference : Uintptr) (i : ℕ)
    (m : ByteMemory 64) : ByteMemory 64 :=
  let relocation := ElfRela.read m (relaAddress relocations i)
  -- If not relative, skip.
  if parseRelocationType relocation.rInfo ≠ relativeRelocation then m
  else m.store (baseDifference + relocation.rOffset) (n := 8) (baseDifference + relocation.rAddend)

/-- The loop body of `relocate` for rel entries. -/
def relocateRelEntry (relativeRelocation relocations baseDifference : Uintptr) (i : ℕ)
    (m : ByteMemory 64) : ByteMemory 64 :=
  let relocation := ElfRel.read m (relocations + ElfRel.sizeOf * BitVec.ofNat 64 i)
  -- If not relative, skip.
  if parseRelocationType relocation.rInfo ≠ relativeRelocation then m
  else
    let target := baseDifference + relocation.rOffset
    m.store target (n := 8) (m.load64 target + baseDifference)

/-- `relocate` on a rela table of `relocationsSize` entries. -/
def relocateRela (file : ByteMemory 64) (relocations baseDifference : Uintptr)
    (relocationsSize : ℕ) (m : ByteMemory 64) : ByteMemory 64 :=
  forRange relocationsSize
    (relocateRelaEntry (f.relativeRelocationValue file) relocations baseDifference) m

/-- `relocate` on a rel table of `relocationsSize` entries. -/
def relocateRel (file : ByteMemory 64) (relocations baseDifference : Uintptr)
    (relocationsSize : ℕ) (m : ByteMemory 64) : ByteMemory 64 :=
  forRange relocationsSize
    (relocateRelEntry (f.relativeRelocationValue file) relocations baseDifference) m

/-- Relocates the ELF file. Does not resolve symbols. -/
def relocate (file : ByteMemory 64) (relocations : Relocations) (relocationsSize : Uintptr)
    (baseDifference : Uintptr) (m : ByteMemory 64) : ByteMemory 64 :=
  match relocations with
  | .rela p => f.relocateRela file p baseDifference relocationsSize.toNat m
  | .rel p => f.relocateRel file p baseDifference relocationsSize.toNat m

/-- A call of the protection function. -/
structure Protect where
  address : Uintptr
  size : Uintptr
  flags : BitVec 32
deriving DecidableEq

/-- The calls of the protection function for the loadable segments, in order. -/
def protectSegments (file : ByteMemory 64) (baseDifference : Uintptr) : List Protect :=
  (List.range (f.phnum file)).filterMap fun i =>
    let programHeader := f.phdr file i
    -- If not loadable, skip.
    if programHeader.pType ≠ ElfPhdr.typeLoad then none
    else some ⟨baseDifference + programHeader.pVaddr, programHeader.pMemsz, programHeader.pFlags⟩

/-- What `load` returns and leaves behind. -/
structure Loaded where
  base : Uintptr
  memory : ByteMemory 64
  protections : List Protect

/-- Loads the ELF file into memory.  `none` stands for a run that has not seen the end of the dynamic
segment within `fuel` entries. -/
def load (fuel : ℕ) (file : ByteMemory 64) (allocate : Uintptr → Uintptr) (m : ByteMemory 64) :
    Option Loaded := do
  -- Allocate enough memory.
  let base := allocate f.memorySize
  -- If failed to allocate, return nullptr.
  if base = 0#64 then
    return { base := 0#64, memory := m, protections := [] }
  let baseDifference := base - f.preferredBase
  let m := f.mapSegments file baseDifference m
  let (relocations, relocationsSize) ← f.getRelocations fuel file baseDifference
  let m := f.relocate file relocations relocationsSize baseDifference m
  return { base, memory := m, protections := f.protectSegments file baseDifference }

end ElfFile

end Zpp
