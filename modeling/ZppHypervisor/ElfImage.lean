import ZppHypervisor.ElfFile

/-!
# What an ELF file describes

The image of a file is independent of `load`: each loadable segment has `p_memsz` bytes at
`p_vaddr`, of which the first `p_filesz` are in the file and the others are zero (`memoryImage`).  A
relocation table is `DT_RELASZ` bytes at `DT_RELA`, so `DT_RELASZ / 24` entries (`RelaTable`).
Addresses are those of the file; loading at `base` moves them by `base - preferredBase`.
-/

namespace Zpp

namespace ElfFile

variable (f : ElfFile) (file : ByteMemory 64)

/-! ### Segments -/

/-- Program header `i` is that of a loadable segment. -/
def IsLoad (i : ℕ) : Prop := i < f.phnum file ∧ (f.phdr file i).pType = ElfPhdr.typeLoad

instance (i : ℕ) : Decidable (f.IsLoad file i) := inferInstanceAs (Decidable (_ ∧ _))

/-- The bytes `a, …, a + (n - 1)` lie in segment `i`. -/
def InSegment (i : ℕ) (a : Uintptr) (n : ℕ) : Prop :=
  (f.phdr file i).pVaddr.toNat ≤ a.toNat ∧
    a.toNat + n ≤ (f.phdr file i).pVaddr.toNat + (f.phdr file i).pMemsz.toNat

instance (i : ℕ) (a : Uintptr) (n : ℕ) : Decidable (f.InSegment file i a n) :=
  inferInstanceAs (Decidable (_ ∧ _))

/-- The content of segment `i` at an address in it. -/
def segmentByte (i : ℕ) (a : Uintptr) : BitVec 8 :=
  let offset := a - (f.phdr file i).pVaddr
  if offset.toNat < (f.phdr file i).pFilesz.toNat then
    file (f.fileData + (f.phdr file i).pOffset + offset)
  else 0#8

/-- The content of the segments, and zero between them. -/
def memoryImage : ByteMemory 64 := fun a =>
  match (List.range (f.phnum file)).find? fun i =>
      decide (f.IsLoad file i ∧ f.InSegment file i a 1) with
  | some i => f.segmentByte file i a
  | none => 0#8

/-- The loadable segments are in ascending order and disjoint. -/
structure SegmentsOrdered : Prop where
  filesz_le : ∀ i, f.IsLoad file i → (f.phdr file i).pFilesz.toNat ≤ (f.phdr file i).pMemsz.toNat
  no_wrap : ∀ i, f.IsLoad file i →
    (f.phdr file i).pVaddr.toNat + (f.phdr file i).pMemsz.toNat ≤ 2 ^ 64
  ascending : ∀ i j, f.IsLoad file i → f.IsLoad file j → i < j →
    (f.phdr file i).pVaddr.toNat + (f.phdr file i).pMemsz.toNat ≤ (f.phdr file j).pVaddr.toNat

/-- The pages of all segments, from the first to the last, are fewer than 2^64 bytes. -/
def SpanFits : Prop :=
  ∀ i j, f.IsLoad file i → f.IsLoad file j →
    ((f.phdr file j).pVaddr.toNat + (f.phdr file j).pMemsz.toNat + 0xfff) / 0x1000 * 0x1000 <
      2 ^ 64 + (f.phdr file i).pVaddr.toNat / 0x1000 * 0x1000

/-! ### The relocation table -/

/-- A table of `size` bytes of rela entries. -/
structure RelaTable where
  /-- `DT_RELA`. -/
  address : Uintptr
  /-- `DT_RELASZ`. -/
  size : Uintptr

/-- The number of entries of the table. -/
def RelaTable.count (t : RelaTable) : ℕ := t.size.toNat / 24

/-- Entry `i` of the table, as the file has it. -/
def RelaTable.entry (t : RelaTable) (i : ℕ) : ElfRela :=
  ElfRela.read (f.memoryImage file) (relaAddress t.address i)

/-- The dynamic array ends, and its `DT_RELA` and `DT_RELASZ` describe the table. -/
structure DescribesTable (t : RelaTable) : Prop where
  exists_dynamic : ∃ i < f.phnum file, (f.phdr file i).pType = ElfPhdr.typeDynamic
  terminated : ∃ k, (f.dynamicEntry file k).dTag = 0#64 ∧
    (∀ i < k, (f.dynamicEntry file i).dTag ≠ 0#64 ∧ (f.dynamicEntry file i).dTag.toNat < 2 ^ 32) ∧
    (∃ i < k, (f.dynamicEntry file i).dTag = 7#64) ∧
    (∀ i < k, (f.dynamicEntry file i).dTag = 7#64 → (f.dynamicEntry file i).dVal = t.address) ∧
    (∃ i < k, (f.dynamicEntry file i).dTag = 8#64) ∧
    ∀ i < k, (f.dynamicEntry file i).dTag = 8#64 → (f.dynamicEntry file i).dVal = t.size

end ElfFile

/-- The entry is a relative relocation of x86-64. -/
def ElfRela.IsRelative (r : ElfRela) : Prop :=
  ElfFile.parseRelocationType r.rInfo = ElfFile.x86_64Relative

instance (r : ElfRela) : Decidable r.IsRelative := inferInstanceAs (Decidable (_ = _))

/-- The ranges `a, …, a + (n - 1)` and `b, …, b + (k - 1)` are disjoint. -/
def Apart (a : Uintptr) (n : ℕ) (b : Uintptr) (k : ℕ) : Prop :=
  a.toNat + n ≤ b.toNat ∨ b.toNat + k ≤ a.toNat

instance (a : Uintptr) (n : ℕ) (b : Uintptr) (k : ℕ) : Decidable (Apart a n b k) :=
  inferInstanceAs (Decidable (_ ∨ _))

namespace ElfFile

variable (f : ElfFile) (file : ByteMemory 64)

/-- A well-formed x86-64 image with a table of rela entries: the table is in a segment, and the
targets of its relative entries are disjoint words in segments, outside the table. -/
structure WellFormed (t : RelaTable) : Prop where
  machine : (f.header file).eMachine = machineX86_64
  segments : f.SegmentsOrdered file
  span : f.SpanFits file
  describes : f.DescribesTable file t
  table_mem : ∃ i, f.IsLoad file i ∧ f.InSegment file i t.address t.size.toNat
  target_mem : ∀ j < t.count, (t.entry f file j).IsRelative →
    ∃ i, f.IsLoad file i ∧ f.InSegment file i (t.entry f file j).rOffset 8
  target_table : ∀ j < t.count, (t.entry f file j).IsRelative →
    Apart (t.entry f file j).rOffset 8 t.address t.size.toNat
  target_target : ∀ i < t.count, ∀ j < t.count, i ≠ j → (t.entry f file i).IsRelative →
    (t.entry f file j).IsRelative → Apart (t.entry f file i).rOffset 8 (t.entry f file j).rOffset 8

/-- The memory is `mapped`, moved by `d`, with the table applied: the words at the targets are
relocated and every other byte is as it was mapped. -/
structure Relocated (t : RelaTable) (d : Uintptr) (mapped m : ByteMemory 64) : Prop where
  words : ∀ j < t.count, (t.entry f file j).IsRelative →
    m.load64 (d + (t.entry f file j).rOffset) = d + (t.entry f file j).rAddend
  others : ∀ a, (∀ j < t.count, (t.entry f file j).IsRelative →
    a ∉ ByteMemory.Region (t.entry f file j).rOffset 8) → m (d + a) = mapped (d + a)

/-- The byte lies in a loadable segment. -/
def InImage (a : Uintptr) : Prop := ∃ i, f.IsLoad file i ∧ f.InSegment file i a 1

end ElfFile

/-! ### Tables of either kind -/

/-- The kinds of relocation tables. -/
inductive TableKind
  | rela
  | rel
deriving DecidableEq

namespace TableKind

/-- The other kind. -/
def other : TableKind → TableKind
  | rela => rel
  | rel => rela

/-- `sizeof` an entry. -/
def entrySize : TableKind → Uintptr
  | rela => ElfRela.sizeOf
  | rel => ElfRel.sizeOf

/-- The tag of the address of the table. -/
def addressTag : TableKind → ElfDyn.Tag
  | rela => ElfDyn.tagRela
  | rel => ElfDyn.tagRel

/-- The tag of the size of the table. -/
def sizeTag : TableKind → ElfDyn.Tag
  | rela => ElfDyn.tagRelaSize
  | rel => ElfDyn.tagRelSize

/-- A pointer to a table. -/
def relocations (p : Uintptr) : TableKind → ElfFile.Relocations
  | rela => .rela p
  | rel => .rel p

end TableKind

/-- An entry of a table; a rel entry has its addend in the word it relocates. -/
structure Reloc where
  offset : Uintptr
  info : Uintptr
  addend : Option Uintptr
deriving DecidableEq

namespace Reloc

def read (kind : TableKind) (m : ByteMemory 64) (p : Uintptr) : Reloc :=
  match kind with
  | .rela =>
    let r := ElfRela.read m p
    ⟨r.rOffset, r.rInfo, some r.rAddend⟩
  | .rel =>
    let r := ElfRel.read m p
    ⟨r.rOffset, r.rInfo, none⟩

/-- The relocated word, where `old` is the word at the target. -/
def value (r : Reloc) (d old : Uintptr) : Uintptr :=
  match r.addend with
  | some addend => d + addend
  | none => old + d

end Reloc

/-- The relocation table that `load` goes through: the records `0, …, size - 1` from `address` on. -/
structure RelocTable where
  kind : TableKind
  /-- `DT_RELA` or `DT_REL`. -/
  address : Uintptr
  /-- `DT_RELASZ` or `DT_RELSZ`. -/
  size : Uintptr

namespace RelocTable

variable (t : RelocTable) (f : ElfFile) (file : ByteMemory 64)

/-- The address of record `i`. -/
def entryAddress (i : ℕ) : Uintptr := t.address + t.kind.entrySize * BitVec.ofNat 64 i

/-- Record `i`, as the file has it. -/
def entry (i : ℕ) : Reloc := Reloc.read t.kind (f.memoryImage file) (t.entryAddress i)

/-- Record `i` is read and is a relative relocation. -/
def Applies (i : ℕ) : Prop :=
  i < t.size.toNat ∧
    ElfFile.parseRelocationType (t.entry f file i).info = f.relativeRelocationValue file

instance (i : ℕ) : Decidable (t.Applies f file i) := inferInstanceAs (Decidable (_ ∧ _))

/-- The target of record `i`. -/
def target (i : ℕ) : Set Uintptr := ByteMemory.Region (t.entry f file i).offset 8

/-- The bytes of the records that are read. -/
def bytes : Set Uintptr :=
  {a | ∃ i < t.size.toNat, ∃ k < t.kind.entrySize.toNat, a = t.entryAddress i + BitVec.ofNat 64 k}

end RelocTable

namespace ElfFile

variable (f : ElfFile) (file : ByteMemory 64)

/-- The dynamic array ends and describes the table and no table of the other kind. -/
def DescribesRelocs (t : RelocTable) : Prop :=
  ∃ k, (f.dynamicEntry file k).dTag = 0#64 ∧
    (∀ i < k, (f.dynamicEntry file i).dTag ≠ 0#64 ∧ (f.dynamicEntry file i).dTag.toNat < 2 ^ 32) ∧
    (∀ i < k, (f.dynamicEntry file i).tag = t.kind.addressTag →
      (f.dynamicEntry file i).dVal = t.address) ∧
    (∀ i < k, (f.dynamicEntry file i).tag = t.kind.sizeTag →
      (f.dynamicEntry file i).dVal = t.size) ∧
    (t.size ≠ 0#64 → (∃ i < k, (f.dynamicEntry file i).tag = t.kind.addressTag) ∧
      ∃ i < k, (f.dynamicEntry file i).tag = t.kind.sizeTag) ∧
    ∀ i < k, (f.dynamicEntry file i).tag ≠ t.kind.other.addressTag ∧
      (f.dynamicEntry file i).tag ≠ t.kind.other.sizeTag

/-- A well-formed image with one table: the records that `load` reads lie in segments where no applied
relocation writes, and the targets of the applied ones are disjoint words in segments. -/
structure Relocatable (t : RelocTable) : Prop where
  segments : f.SegmentsOrdered file
  span : f.SpanFits file
  describes : f.DescribesRelocs file t
  table_mem : ∀ i < t.size.toNat, ∀ k < t.kind.entrySize.toNat,
    f.InImage file (t.entryAddress i + BitVec.ofNat 64 k)
  table_target : ∀ i < t.size.toNat, ∀ k < t.kind.entrySize.toNat, ∀ j, t.Applies f file j →
    t.entryAddress i + BitVec.ofNat 64 k ∉ t.target f file j
  target_mem : ∀ j, t.Applies f file j → ∀ a ∈ t.target f file j, f.InImage file a
  target_disjoint : ∀ i j, t.Applies f file i → t.Applies f file j → i ≠ j →
    ∀ a ∈ t.target f file i, a ∉ t.target f file j

/-- The file `file'` has record `i` of the table as record `σ i`, and otherwise has the headers, the
dynamic array up to its end, and the image of `file`. -/
structure PermutesTable (t : RelocTable) (σ : Equiv.Perm ℕ) (file' : ByteMemory 64) : Prop where
  elf : ofMemory file' f.fileData .unloaded = f
  header : f.header file' = f.header file
  phdr : ∀ i < f.phnum file, f.phdr file' i = f.phdr file i
  dynamicEntry : ∀ k, (∀ i < k, (f.dynamicEntry file i).tag ≠ ElfDyn.tagNull) →
    f.dynamicEntry file' k = f.dynamicEntry file k
  image : ∀ a, a ∉ t.bytes → f.memoryImage file' a = f.memoryImage file a
  lt_iff : ∀ i, σ i < t.size.toNat ↔ i < t.size.toNat
  entry : ∀ i < t.size.toNat, t.entry f file' (σ i) = t.entry f file i

/-! ### Images that hold their own headers -/

/-- The first loadable segment is the start of the file, at a page, and holds the ELF header and the
program headers; the dynamic array is in a loadable segment, as far from its start in the file as in
memory, and ends. -/
structure HoldsHeaders : Prop where
  segments : f.SegmentsOrdered file
  first : ∃ i, f.IsLoad file i ∧ (∀ j < i, ¬f.IsLoad file j) ∧ (f.phdr file i).pOffset = 0#64 ∧
    (f.phdr file i).pVaddr.toNat % 0x1000 = 0 ∧ 64 ≤ (f.phdr file i).pFilesz.toNat ∧
    (f.header file).ePhoff.toNat + 56 * f.phnum file ≤ (f.phdr file i).pFilesz.toNat
  exists_dynamic : ∃ j < f.phnum file, (f.phdr file j).pType = ElfPhdr.typeDynamic
  dynamic_mem : ∀ j < f.phnum file, (f.phdr file j).pType = ElfPhdr.typeDynamic →
    ∃ i, f.IsLoad file i ∧ (f.phdr file i).pVaddr.toNat ≤ (f.phdr file j).pVaddr.toNat ∧
      (f.phdr file j).pVaddr.toNat + (f.phdr file j).pFilesz.toNat ≤
        (f.phdr file i).pVaddr.toNat + (f.phdr file i).pFilesz.toNat ∧
      (f.phdr file j).pOffset - (f.phdr file i).pOffset =
        (f.phdr file j).pVaddr - (f.phdr file i).pVaddr
  terminated : ∃ k, (f.dynamicEntry file k).tag = ElfDyn.tagNull

/-- The header and the program headers in an image loaded at `base`. -/
def headerBytes (base : Uintptr) : Set Uintptr :=
  ByteMemory.Region base 64 ∪
    ByteMemory.Region (base + (f.header file).ePhoff) (56 * f.phnum file)

end ElfFile

end Zpp
