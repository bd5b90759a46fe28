import ZppHypervisor.Equiv.ElfLoad

/-!
# The loaded view of an image

An image that holds its own headers (`HoldsHeaders`) can be read back from where it was loaded.  As
long as no relocation is written over the headers, the object built there computes the numbers that
the object built on the file computed (`ofMemory_loaded`).
-/

namespace Zpp

open Loop ByteMemory

/-! ### Headers -/

theorem ElfHeader.read_congr {m m' : ByteMemory 64} {p p' : Uintptr}
    (h : ∀ k < 64, m (p + BitVec.ofNat 64 k) = m' (p' + BitVec.ofNat 64 k)) :
    ElfHeader.read m p = ElfHeader.read m' p' := by
  unfold ElfHeader.read
  rw [load_congr_add h (s := 18) (by omega), load64_congr_add h (s := 24) (by omega),
    load64_congr_add h (s := 32) (by omega), load_congr_add h (s := 56) (by omega)]

theorem ElfPhdr.read_congr {m m' : ByteMemory 64} {p p' : Uintptr}
    (h : ∀ k < 56, m (p + BitVec.ofNat 64 k) = m' (p' + BitVec.ofNat 64 k)) :
    ElfPhdr.read m p = ElfPhdr.read m' p' := by
  have h0 := load_congr_add h (s := 0) (l := 4) (by omega)
  rw [BitVec.add_zero, BitVec.add_zero] at h0
  unfold ElfPhdr.read
  rw [h0, load_congr_add h (s := 4) (by omega), load64_congr_add h (s := 8) (by omega),
    load64_congr_add h (s := 16) (by omega), load64_congr_add h (s := 32) (by omega),
    load64_congr_add h (s := 40) (by omega)]

namespace ElfFile

section

variable {m m' : ByteMemory 64} {p p' : Uintptr} {n : ℕ} {type : BitVec 32}

/-- On tables of equal headers, the searches stop at the same index. -/
theorem findPhdr_congr
    (h : ∀ i < n, ElfPhdr.read m (phdrAddress p i) = ElfPhdr.read m' (phdrAddress p' i))
    (hexists : ∃ i < n, (ElfPhdr.read m (phdrAddress p i)).pType = type) :
    ∃ i < n, findPhdr m p n type = phdrAddress p i ∧ findPhdr m' p' n type = phdrAddress p' i ∧
      (ElfPhdr.read m (phdrAddress p i)).pType = type ∧
      ∀ j < i, (ElfPhdr.read m (phdrAddress p j)).pType ≠ type := by
  have hexists' : ∃ i < n, (ElfPhdr.read m' (phdrAddress p' i)).pType = type := by
    obtain ⟨i, hi, htype⟩ := hexists
    exact ⟨i, hi, by rw [← h i hi, htype]⟩
  obtain ⟨i, hi, hfind, htype, hbefore⟩ := findPhdr_spec hexists
  obtain ⟨j, hj, hfind', htype', hbefore'⟩ := findPhdr_spec hexists'
  have hij : i = j := by
    rcases Nat.lt_trichotomy i j with hlt | heq | hgt
    · exact absurd (by rw [← h i hi, htype]) (hbefore' i hlt)
    · exact heq
    · exact absurd (by rw [h j hj, htype']) (hbefore j hgt)
  subst hij
  exact ⟨i, hi, hfind, hfind', htype, hbefore⟩

theorem findLastPhdr_congr
    (h : ∀ i < n, ElfPhdr.read m (phdrAddress p i) = ElfPhdr.read m' (phdrAddress p' i))
    (hexists : ∃ i < n, (ElfPhdr.read m (phdrAddress p i)).pType = type) :
    ∃ i < n, findLastPhdr m p n type = phdrAddress p i ∧
      findLastPhdr m' p' n type = phdrAddress p' i := by
  have hexists' : ∃ i < n, (ElfPhdr.read m' (phdrAddress p' i)).pType = type := by
    obtain ⟨i, hi, htype⟩ := hexists
    exact ⟨i, hi, by rw [← h i hi, htype]⟩
  obtain ⟨i, hi, hfind, htype, hafter⟩ := findLastPhdr_spec hexists
  obtain ⟨j, hj, hfind', htype', hafter'⟩ := findLastPhdr_spec hexists'
  have hij : i = j := by
    rcases Nat.lt_trichotomy i j with hlt | heq | hgt
    · exact absurd (by rw [h j hj, htype']) (hafter j hj hlt)
    · exact heq
    · exact absurd (by rw [← h i hi, htype]) (hafter' i hi hgt)
  subst hij
  exact ⟨i, hi, hfind, hfind'⟩

end

variable {f : ElfFile} {file : ByteMemory 64} {d : Uintptr}

/-! ### What `relocate` writes -/

/-- The bytes that one iteration of `relocate` writes in the memory `m`. -/
def stepWrites (relative : Uintptr) (kind : TableKind) (p d : Uintptr) (i : ℕ)
    (m : ByteMemory 64) : Set Uintptr :=
  let r := Reloc.read kind m (p + kind.entrySize * BitVec.ofNat 64 i)
  {x | parseRelocationType r.info = relative ∧ x ∈ Region (d + r.offset) 8}

theorem relocateStep_of_not_mem {relative p x : Uintptr} {kind : TableKind} {i : ℕ}
    {m : ByteMemory 64} (hx : x ∉ stepWrites relative kind p d i m) :
    relocateStep relative kind p d i m x = m x := by
  unfold relocateStep
  split_ifs with htype
  · rfl
  · exact store_of_not_mem m _ fun hmem => hx ⟨not_not.mp htype, hmem⟩

/-- The bytes that the relocations applied by `relocate` write, each record read when its turn
comes. -/
def relocateWrites (f : ElfFile) (file : ByteMemory 64) (relocations : Relocations)
    (size d : Uintptr) (m : ByteMemory 64) : Set Uintptr :=
  let relative := f.relativeRelocationValue file
  {x | ∃ i < size.toNat, x ∈ stepWrites relative relocations.kind relocations.pointer d i
    (forRange i (relocateStep relative relocations.kind relocations.pointer d) m)}

theorem relocate_of_not_mem {relocations : Relocations} {size x : Uintptr} {m : ByteMemory 64}
    (hx : x ∉ f.relocateWrites file relocations size d m) :
    f.relocate file relocations size d m x = m x := by
  rw [relocate_eq]
  have hrun : ∀ n ≤ size.toNat, forRange n (relocateStep (f.relativeRelocationValue file)
      relocations.kind relocations.pointer d) m x = m x := by
    intro n
    induction n with
    | zero => exact fun _ => rfl
    | succ n ih =>
      intro hn
      rw [forRange_succ, relocateStep_of_not_mem fun hmem => hx ⟨n, hn, hmem⟩]
      exact ih (Nat.le_of_succ_le hn)
  exact hrun _ le_rfl

/-- On a relocatable image only the targets of the table are written. -/
theorem relocateWrites_subset {t : RelocTable} (h : f.Relocatable file t) {relocations : Relocations}
    (hrelocations : t.size ≠ 0#64 → relocations = t.kind.relocations (d + t.address))
    (m₀ : ByteMemory 64) :
    f.relocateWrites file relocations t.size d (f.mapSegments file d m₀) ⊆
      {x | ∃ j, t.Applies f file j ∧ x - d ∈ t.target f file j} := by
  rintro x ⟨i, hi, htype, hmem⟩
  have hsize : t.size ≠ 0#64 := fun hzero => by
    rw [hzero] at hi
    exact absurd hi i.not_lt_zero
  have hread := (applied_relocateTable h d m₀ hi.le).read h hi
  rw [hrelocations hsize, Relocations.kind_relocations, Relocations.pointer_relocations] at htype hmem
  unfold relocateTable at hread
  rw [hread] at htype hmem
  refine ⟨i, ⟨hi, htype⟩, ?_⟩
  have hx : d + (x - d) = x := by ring
  rw [← hx, add_mem_region_add] at hmem
  exact hmem

/-! ### The loaded headers -/

/-- The first loadable segment is mapped at the base; it begins with a copy of the headers. -/
theorem mapSegments_headers {fileData : Uintptr} (hf : f = ofMemory file fileData .unloaded)
    (h : f.HoldsHeaders file) (base : Uintptr) (m₀ : ByteMemory 64) :
    ∃ n, 64 ≤ n ∧ (f.header file).ePhoff.toNat + 56 * f.phnum file ≤ n ∧
      ∀ k < n, f.mapSegments file (base - f.preferredBase) m₀ (base + BitVec.ofNat 64 k) =
        file (f.fileData + BitVec.ofNat 64 k) := by
  obtain ⟨i, hi, hbefore, hoffset, haligned, hheader, hphdrs⟩ := h.first
  obtain ⟨first, last, hfirst, -, hbetween, hbase, -⟩ := exists_first_last hf ⟨i, hi⟩
  have hif : i = first := by
    rcases Nat.lt_or_eq_of_le (hbetween i hi).1 with hlt | heq
    · exact absurd hfirst (hbefore first hlt)
    · exact heq.symm
  subst hif
  have hstart : f.preferredBase = (f.phdr file i).pVaddr := by
    refine BitVec.eq_of_toNat_eq ?_
    rw [hbase, Hypervisor.toNat_pageOf]
    omega
  refine ⟨(f.phdr file i).pFilesz.toNat, hheader, hphdrs, fun k hk => ?_⟩
  have hbyte := mapSegments_byte h.segments hi (hk.trans_le (h.segments.filesz_le i hi))
    (base - f.preferredBase) m₀
  rw [if_pos hk, hoffset, BitVec.add_zero, ← hstart, ← BitVec.add_assoc,
    BitVec.sub_add_cancel] at hbyte
  exact hbyte

theorem phdrAddress_add (s programHeaders : Uintptr) (i k : ℕ) :
    phdrAddress (s + programHeaders) i + BitVec.ofNat 64 k =
      s + BitVec.ofNat 64 (programHeaders.toNat + 56 * i + k) := by
  unfold phdrAddress ElfPhdr.sizeOf
  rw [BitVec.ofNat_add, BitVec.ofNat_add, BitVec.ofNat_toNat, BitVec.setWidth_eq, BitVec.ofNat_mul]
  simp only [BitVec.add_assoc]

/-- In a memory that has the mapped headers, the headers of the file are read. -/
theorem read_headers {fileData : Uintptr} (hf : f = ofMemory file fileData .unloaded)
    (h : f.HoldsHeaders file) (base : Uintptr) (m₀ : ByteMemory 64) {m : ByteMemory 64}
    (hm : ∀ x ∈ f.headerBytes file base, m x = f.mapSegments file (base - f.preferredBase) m₀ x) :
    ElfHeader.read m base = f.header file ∧
      ∀ i < f.phnum file, ElfPhdr.read m (phdrAddress (base + (f.header file).ePhoff) i) =
        f.phdr file i := by
  obtain ⟨n, hheader, hphdrs, hcopy⟩ := mapSegments_headers hf h base m₀
  refine ⟨ElfHeader.read_congr fun k hk => ?_, fun i hi => ?_⟩
  · rw [hm _ (Or.inl (add_ofNat_mem_region hk)), hcopy k (by omega)]
  · have hprogramHeaders : f.programHeaders = f.fileData + (f.header file).ePhoff := by
      rw [hf]
      rfl
    unfold phdr
    rw [hprogramHeaders]
    refine ElfPhdr.read_congr fun k hk => ?_
    have hmem : phdrAddress (base + (f.header file).ePhoff) i + BitVec.ofNat 64 k ∈
        Region (base + (f.header file).ePhoff) (56 * f.phnum file) := by
      unfold phdrAddress ElfPhdr.sizeOf
      rw [BitVec.add_assoc, show 56#64 * BitVec.ofNat 64 i + BitVec.ofNat 64 k =
        BitVec.ofNat 64 (56 * i + k) by rw [BitVec.ofNat_add, BitVec.ofNat_mul]]
      exact add_ofNat_mem_region (by omega)
    rw [hm _ (Or.inr hmem), phdrAddress_add, phdrAddress_add]
    exact hcopy _ (by omega)

/-- The object built on such a memory has the numbers of the one built on the file. -/
theorem ofMemory_of_headers {fileData : Uintptr} (hf : f = ofMemory file fileData .unloaded)
    (h : f.HoldsHeaders file) {base : Uintptr} {m : ByteMemory 64}
    (hheader : ElfHeader.read m base = f.header file)
    (hphdr : ∀ i < f.phnum file, ElfPhdr.read m (phdrAddress (base + (f.header file).ePhoff) i) =
      f.phdr file i) :
    (ofMemory m base .loaded).preferredBase = f.preferredBase ∧
      (ofMemory m base .loaded).memorySize = f.memorySize ∧
      (ofMemory m base .loaded).dynamic =
        (ElfPhdr.read file f.dynamicPhdr).pVaddr + (base - f.preferredBase) := by
  have hload : ∃ i < f.phnum file,
      (ElfPhdr.read m (phdrAddress (base + (f.header file).ePhoff) i)).pType = ElfPhdr.typeLoad := by
    obtain ⟨i, hi, -⟩ := h.first
    exact ⟨i, hi.1, by rw [hphdr i hi.1, hi.2]⟩
  have hdynamic : ∃ i < f.phnum file,
      (ElfPhdr.read m (phdrAddress (base + (f.header file).ePhoff) i)).pType =
        ElfPhdr.typeDynamic := by
    obtain ⟨i, hi, htype⟩ := h.exists_dynamic
    exact ⟨i, hi, by rw [hphdr i hi, htype]⟩
  obtain ⟨first, hfirst, hfind, hfind', -⟩ := findPhdr_congr hphdr hload
  obtain ⟨last, hlast, hfindLast, hfindLast'⟩ := findLastPhdr_congr hphdr hload
  obtain ⟨j, hj, hfindDynamic, hfindDynamic', -⟩ := findPhdr_congr hphdr hdynamic
  -- The constructor on the loaded image, with the header and the searches of the file.
  have hbase : (ofMemory m base .loaded).preferredBase = f.preferredBase := by
    have hfile : f.preferredBase =
        (ElfPhdr.read file (findPhdr file f.programHeaders (f.phnum file)
          ElfPhdr.typeLoad)).pVaddr &&& 0xfffffffffffff000#64 := by
      rw [hf]
      rfl
    rw [hfile, hfind']
    unfold ofMemory
    dsimp only
    rw [hheader]
    show (ElfPhdr.read m (findPhdr m _ (f.phnum file) _)).pVaddr &&& _ = _
    rw [hfind, hphdr first hfirst]
    rfl
  refine ⟨hbase, ?_, ?_⟩
  · have hfile : f.memorySize =
        (((ElfPhdr.read file (findLastPhdr file f.programHeaders (f.phnum file)
            ElfPhdr.typeLoad)).pVaddr +
          (ElfPhdr.read file (findLastPhdr file f.programHeaders (f.phnum file)
            ElfPhdr.typeLoad)).pMemsz + 0xfff#64) &&& 0xfffffffffffff000#64) - f.preferredBase := by
      rw [hf]
      rfl
    rw [hfile, hfindLast', ← hbase]
    unfold ofMemory
    dsimp only
    rw [hheader]
    show ((ElfPhdr.read m (findLastPhdr m _ (f.phnum file) _)).pVaddr +
      (ElfPhdr.read m (findLastPhdr m _ (f.phnum file) _)).pMemsz + _ &&& _) - _ = _
    rw [hfindLast, hphdr last hlast]
    rfl
  · have hfile : f.dynamicPhdr = findPhdr file f.programHeaders (f.phnum file)
        ElfPhdr.typeDynamic := by
      rw [hf]
      rfl
    rw [hfile, hfindDynamic', ← hbase]
    unfold ofMemory
    dsimp only
    rw [hheader]
    show (ElfPhdr.read m (findPhdr m _ (f.phnum file) ElfPhdr.typeDynamic)).pVaddr + _ = _
    rw [hfindDynamic, hphdr j hj]
    rfl

/-- The dynamic array is mapped from its place in the file. -/
theorem mapSegments_dynamic {fileData : Uintptr} (hf : f = ofMemory file fileData .unloaded)
    (h : f.HoldsHeaders file) (m₀ : ByteMemory 64) {k : ℕ}
    (hk : k < (ElfPhdr.read file f.dynamicPhdr).pFilesz.toNat) :
    f.mapSegments file d m₀
        (d + ((ElfPhdr.read file f.dynamicPhdr).pVaddr + BitVec.ofNat 64 k)) =
      file (f.dynamic + BitVec.ofNat 64 k) := by
  obtain ⟨j, hj, hfind, -, htype, -⟩ := findPhdr_congr (fun _ _ => rfl) h.exists_dynamic
  have hphdr : ElfPhdr.read file f.dynamicPhdr = f.phdr file j := by
    rw [show f.dynamicPhdr = findPhdr file f.programHeaders (f.phnum file) ElfPhdr.typeDynamic by
      rw [hf]; rfl, hfind]
    rfl
  have hdynamic : f.dynamic = f.fileData + (f.phdr file j).pOffset := by
    rw [← hphdr, hf]
    rfl
  rw [hphdr] at hk ⊢
  obtain ⟨i, hi, hlo, hhi, hoffset⟩ := h.dynamic_mem j hj htype
  have hlen := (f.phdr file i).pVaddr.isLt
  have hdiff : ((f.phdr file j).pVaddr - (f.phdr file i).pVaddr).toNat =
      (f.phdr file j).pVaddr.toNat - (f.phdr file i).pVaddr.toNat := BitVec.toNat_sub_of_le hlo
  have hbyte := mapSegments_byte h.segments hi (k := ((f.phdr file j).pVaddr -
    (f.phdr file i).pVaddr).toNat + k) (by have := h.segments.filesz_le i hi; omega) d m₀
  rw [if_pos (by omega), BitVec.ofNat_add, BitVec.ofNat_toNat, BitVec.setWidth_eq,
    ← hoffset] at hbyte
  rw [hdynamic]
  convert hbyte using 2
  · rw [hoffset]
    ring
  · ring

/-! ### `load` -/

/-- `get_relocations` returns a table of this size. -/
def GetsRelocations (f : ElfFile) (file : ByteMemory 64) (d : Uintptr) (relocations : Relocations)
    (size : Uintptr) : Prop :=
  ∃ N, ∀ fuel, N ≤ fuel → f.getRelocations fuel file d = some (relocations, size)

theorem exists_getsRelocations (h : ∃ k, (f.dynamicEntry file k).tag = ElfDyn.tagNull)
    (d : Uintptr) : ∃ relocations size, f.GetsRelocations file d relocations size := by
  have hfind := Nat.find_spec h
  have hbefore : ∀ i < Nat.find h, (f.dynamicEntry file i).tag ≠ ElfDyn.tagNull :=
    fun i hi => Nat.find_min h hi
  have hrun : ∀ fuel, Nat.find h + 1 ≤ fuel →
      f.parseDynamic file d fuel 0 (f.tagsBefore file d 0) =
        some (f.tagsBefore file d (Nat.find h)) :=
    fun fuel hfuel => parseDynamic_eq hfind hbefore (Nat.zero_le _) (by omega)
  have hget : ∀ fuel, Nat.find h + 1 ≤ fuel → f.getRelocations fuel file d =
      if (f.tagsBefore file d (Nat.find h)).rela ≠ 0#64 then
        some (.rela (f.tagsBefore file d (Nat.find h)).rela,
          (f.tagsBefore file d (Nat.find h)).relaSize)
      else
        some (.rel (f.tagsBefore file d (Nat.find h)).rel,
          (f.tagsBefore file d (Nat.find h)).relSize) := by
    intro fuel hfuel
    unfold getRelocations
    rw [show (⟨0#64, 0#64, 0#64, 0#64⟩ : DynamicTags) = f.tagsBefore file d 0 from rfl,
      hrun fuel hfuel]
    rfl
  by_cases hrela : (f.tagsBefore file d (Nat.find h)).rela ≠ 0#64
  · exact ⟨_, _, _, fun fuel hfuel => (hget fuel hfuel).trans (if_pos hrela)⟩
  · exact ⟨_, _, _, fun fuel hfuel => (hget fuel hfuel).trans (if_neg hrela)⟩

/-- The table of `twoSegmentElf`. -/
def twoSegmentTable : RelocTable := ⟨.rela, 0x2118#64, 24#64⟩

theorem entry_twoSegmentTable : twoSegmentTable.entry twoSegmentElf twoSegmentFile 0 =
      ⟨0x3000#64, 8#64, some 0x2abc#64⟩ ∧
    ∀ i < 24, i ≠ 0 → (twoSegmentTable.entry twoSegmentElf twoSegmentFile i).info = 0#64 := by
  rw [twoSegmentElf_eq]
  decide +kernel

theorem applies_twoSegmentTable {j : ℕ}
    (h : twoSegmentTable.Applies twoSegmentElf twoSegmentFile j) :
    j = 0 ∧ twoSegmentTable.target twoSegmentElf twoSegmentFile j = Region 0x3000#64 8 := by
  obtain ⟨hentry, hinfo⟩ := entry_twoSegmentTable
  obtain ⟨hlt, htype⟩ := h
  have hrelative : twoSegmentElf.relativeRelocationValue twoSegmentFile = 8#64 := by
    rw [twoSegmentElf_eq]
    decide
  by_cases hj : j = 0
  · subst hj
    refine ⟨rfl, ?_⟩
    unfold RelocTable.target
    rw [hentry]
  · rw [hinfo j hlt hj, hrelative] at htype
    exact absurd htype (by decide)

theorem relocatable_twoSegmentElf : twoSegmentElf.Relocatable twoSegmentFile twoSegmentTable := by
  obtain ⟨hsegments, hspan⟩ := segments_twoSegmentElf
  obtain ⟨-, h0, -, h2⟩ := phdr_twoSegmentElf
  have hbyte : ∀ i < 24, ∀ k < 24,
      (twoSegmentTable.entryAddress i + BitVec.ofNat 64 k).toNat = 0x2118 + 24 * i + k := by
    intro i hi k hk
    unfold RelocTable.entryAddress
    show (0x2118#64 + 24#64 * BitVec.ofNat 64 i + BitVec.ofNat 64 k).toNat = _
    simp only [BitVec.toNat_add, BitVec.toNat_mul, BitVec.toNat_ofNat]
    omega
  refine ⟨hsegments, hspan, ⟨2, ?_⟩, fun i hi k hk => ?_, fun i hi k hk j hj => ?_,
    fun j hj a ha => ?_, fun i j hi hj hij => ?_⟩
  · rw [twoSegmentElf_eq]
    decide
  · refine ⟨0, isLoad_twoSegmentElf.mpr (Or.inl rfl), ?_⟩
    unfold InSegment
    rw [hbyte i hi k hk, h0]
    have hi : i < 24 := hi
    have hk : k < 24 := hk
    constructor <;> simp only [BitVec.toNat_ofNat] <;> omega
  · rw [(applies_twoSegmentTable hj).2, mem_region_iff (by decide), hbyte i hi k hk]
    have hi : i < 24 := hi
    have hk : k < 24 := hk
    simp only [BitVec.toNat_ofNat]
    omega
  · rw [(applies_twoSegmentTable hj).2, mem_region_iff (by decide)] at ha
    refine ⟨2, isLoad_twoSegmentElf.mpr (Or.inr rfl), ?_⟩
    unfold InSegment
    rw [h2]
    simp only [BitVec.toNat_ofNat] at ha ⊢
    omega
  · exact absurd ((applies_twoSegmentTable hi).1.trans (applies_twoSegmentTable hj).1.symm) hij

theorem holdsHeaders_twoSegmentElf : twoSegmentElf.HoldsHeaders twoSegmentFile := by
  obtain ⟨hnum, h0, h1, h2⟩ := phdr_twoSegmentElf
  have hheader : (twoSegmentElf.header twoSegmentFile).ePhoff = 64#64 := by
    rw [twoSegmentElf_eq]
    decide
  refine ⟨segments_twoSegmentElf.1, ⟨0, isLoad_twoSegmentElf.mpr (Or.inl rfl),
    fun j hj => absurd hj j.not_lt_zero, ?_⟩, ⟨1, by omega, by rw [h1]; rfl⟩,
    fun j hj htype => ?_, ⟨2, ?_⟩⟩
  · rw [h0, hheader, hnum]
    decide
  · refine ⟨0, isLoad_twoSegmentElf.mpr (Or.inl rfl), ?_⟩
    rw [hnum] at hj
    rcases (by omega : j = 0 ∨ j = 1 ∨ j = 2) with rfl | rfl | rfl
    · rw [h0] at htype
      exact absurd htype (by decide)
    · rw [h0, h1]
      decide
    · rw [h2] at htype
      exact absurd htype (by decide)
  · rw [twoSegmentElf_eq]
    decide

end ElfFile

end Zpp
