import Mathlib.Data.List.Find
import ZppHypervisor.ElfImage
import ZppHypervisor.Hypervisor.Module

/-!
# Mapping the segments and parsing the dynamic array

`map_segments` writes `memoryImage`, moved by the base difference, and nothing else
(`mapSegments_of_mem`, `mapSegments_of_not_mem`); the allocation of `memory_size` bytes holds every
segment (`inAllocation`).  On a dynamic array that describes a rela table, `get_relocations` stops
and returns that table (`getRelocations_eq`).
-/

namespace Zpp

open Loop ByteMemory

/-- An entry is determined by its bytes. -/
theorem ElfRela.read_congr {m m' : ByteMemory 64} {p p' : Uintptr}
    (h : ∀ k < 24, m (p + BitVec.ofNat 64 k) = m' (p' + BitVec.ofNat 64 k)) :
    ElfRela.read m p = ElfRela.read m' p' := by
  have h0 := load64_congr_add h (s := 0) (by omega)
  rw [BitVec.add_zero, BitVec.add_zero] at h0
  unfold ElfRela.read
  rw [h0, load64_congr_add h (s := 8) (by omega), load64_congr_add h (s := 16) (by omega)]

namespace ElfFile

variable {f : ElfFile} {file : ByteMemory 64}

/-! ### Segments -/

theorem inSegment_one_iff {i : ℕ} {a : Uintptr}
    (hno : (f.phdr file i).pVaddr.toNat + (f.phdr file i).pMemsz.toNat ≤ 2 ^ 64) :
    f.InSegment file i a 1 ↔
      (a - (f.phdr file i).pVaddr).toNat < (f.phdr file i).pMemsz.toNat := by
  rw [← mem_region, mem_region_iff hno]
  unfold InSegment
  omega

/-- An address lies in at most one segment. -/
theorem SegmentsOrdered.unique (h : f.SegmentsOrdered file) {i j : ℕ} {a : Uintptr}
    (hi : f.IsLoad file i) (hj : f.IsLoad file j) (hai : f.InSegment file i a 1)
    (haj : f.InSegment file j a 1) : i = j := by
  obtain ⟨hilo, hihi⟩ := hai
  obtain ⟨hjlo, hjhi⟩ := haj
  rcases Nat.lt_trichotomy i j with hlt | heq | hgt
  · have := h.ascending i j hi hj hlt
    omega
  · exact heq
  · have := h.ascending j i hj hi hgt
    omega

theorem memoryImage_eq (h : f.SegmentsOrdered file) {i : ℕ} {a : Uintptr} (hi : f.IsLoad file i)
    (ha : f.InSegment file i a 1) : f.memoryImage file a = f.segmentByte file i a := by
  unfold memoryImage
  cases hfind : (List.range (f.phnum file)).find? fun i =>
      decide (f.IsLoad file i ∧ f.InSegment file i a 1) with
  | none =>
    have := List.find?_eq_none.mp hfind i (List.mem_range.mpr hi.1)
    exact absurd (decide_eq_true ⟨hi, ha⟩) this
  | some j =>
    have hj := List.find?_some hfind
    rw [decide_eq_true_eq] at hj
    rw [h.unique hi hj.1 ha hj.2]

theorem isLoad_congr {file' : ByteMemory 64} (hphnum : f.phnum file' = f.phnum file)
    (hphdr : ∀ i < f.phnum file, f.phdr file' i = f.phdr file i) {i : ℕ} :
    f.IsLoad file' i ↔ f.IsLoad file i := by
  unfold IsLoad
  rw [hphnum]
  exact and_congr_right fun hi => by rw [hphdr i hi]

theorem inSegment_congr {file' : ByteMemory 64} {i n : ℕ} {a : Uintptr}
    (hphdr : f.phdr file' i = f.phdr file i) : f.InSegment file' i a n ↔ f.InSegment file i a n := by
  unfold InSegment
  rw [hphdr]

/-- The image depends on the program headers and the bytes of the segments. -/
theorem memoryImage_congr {file' : ByteMemory 64} {a : Uintptr} (hphnum : f.phnum file' = f.phnum file)
    (hphdr : ∀ i < f.phnum file, f.phdr file' i = f.phdr file i)
    (hbyte : ∀ i, f.IsLoad file i → f.segmentByte file' i a = f.segmentByte file i a) :
    f.memoryImage file' a = f.memoryImage file a := by
  have hfind : ((List.range (f.phnum file)).find? fun i =>
        decide (f.IsLoad file' i ∧ f.InSegment file' i a 1)) =
      (List.range (f.phnum file)).find? fun i => decide (f.IsLoad file i ∧ f.InSegment file i a 1) := by
    refine List.find?_congr fun i hi => decide_eq_decide.mpr ?_
    exact and_congr (isLoad_congr hphnum hphdr) (inSegment_congr (hphdr i (List.mem_range.mp hi)))
  unfold memoryImage
  rw [hphnum, hfind]
  cases hsome : (List.range (f.phnum file)).find? fun i =>
      decide (f.IsLoad file i ∧ f.InSegment file i a 1) with
  | none => rfl
  | some i =>
    have hi := List.find?_some hsome
    rw [decide_eq_true_eq] at hi
    exact hbyte i hi.1

/-! ### `map_segments` -/

/-- One segment is copied and zeroed, and nothing else is written. -/
theorem mapSegment_apply (h : f.SegmentsOrdered file) {i : ℕ} (hi : f.IsLoad file i)
    (d a : Uintptr) (m : ByteMemory 64) :
    f.mapSegment file d i m (d + a) =
      if f.InSegment file i a 1 then f.segmentByte file i a else m (d + a) := by
  have hno := h.no_wrap i hi
  have hle := h.filesz_le i hi
  have hdiff : d + a - (d + (f.phdr file i).pVaddr) = a - (f.phdr file i).pVaddr :=
    add_sub_add_left_eq_sub a (f.phdr file i).pVaddr d
  have hfill : d + a - (d + (f.phdr file i).pVaddr + (f.phdr file i).pFilesz) =
      (a - (f.phdr file i).pVaddr) - (f.phdr file i).pFilesz := by
    rw [← hdiff, sub_sub]
  have hzeroed : ((a - (f.phdr file i).pVaddr) - (f.phdr file i).pFilesz).toNat <
        ((f.phdr file i).pMemsz - (f.phdr file i).pFilesz).toNat ↔
      (f.phdr file i).pFilesz.toNat ≤ (a - (f.phdr file i).pVaddr).toNat ∧
        (a - (f.phdr file i).pVaddr).toNat < (f.phdr file i).pMemsz.toNat := by
    have hlt := (f.phdr file i).pMemsz.isLt
    rw [BitVec.toNat_sub_of_le hle, ← mem_region, mem_region_iff (by omega)]
    omega
  have hmem := inSegment_one_iff (f := f) (a := a) hno
  unfold mapSegment
  rw [if_neg (not_not.mpr hi.2)]
  simp only [copy, fill, hdiff, hfill, hzeroed, hmem, segmentByte]
  -- Before `p_filesz` the byte is copied, from there to `p_memsz` it is zeroed.
  split_ifs <;> first | rfl | omega

theorem mapSegment_of_not_isLoad {i : ℕ} (hi : i < f.phnum file) (hload : ¬f.IsLoad file i)
    (d : Uintptr) (m : ByteMemory 64) : f.mapSegment file d i m = m :=
  if_pos fun htype => hload ⟨hi, htype⟩

/-- After `map_segments` every segment has its content, and no other byte changed. -/
theorem mapSegments_spec (h : f.SegmentsOrdered file) (d : Uintptr) (m : ByteMemory 64)
    (a : Uintptr) :
    (∀ i, f.IsLoad file i → f.InSegment file i a 1 →
      f.mapSegments file d m (d + a) = f.segmentByte file i a) ∧
    ((∀ i, f.IsLoad file i → ¬f.InSegment file i a 1) → f.mapSegments file d m (d + a) = m (d + a)) := by
  have hinv : (∀ i < f.phnum file, f.IsLoad file i → f.InSegment file i a 1 →
        f.mapSegments file d m (d + a) = f.segmentByte file i a) ∧
      ((∀ i < f.phnum file, f.IsLoad file i → ¬f.InSegment file i a 1) →
        f.mapSegments file d m (d + a) = m (d + a)) := by
    unfold mapSegments
    refine forRange_invariant
      (P := fun n (m' : ByteMemory 64) => (∀ i < n, f.IsLoad file i → f.InSegment file i a 1 →
          m' (d + a) = f.segmentByte file i a) ∧
        ((∀ i < n, f.IsLoad file i → ¬f.InSegment file i a 1) → m' (d + a) = m (d + a)))
      ⟨fun i hi => absurd hi i.not_lt_zero, fun _ => rfl⟩ ?_
    rintro n hn m' ⟨hdone, hrest⟩
    by_cases hload : f.IsLoad file n
    · rw [mapSegment_apply h hload]
      constructor
      · intro i hi hiload ha
        by_cases hna : f.InSegment file n a 1
        · rw [if_pos hna, h.unique hload hiload hna ha]
        · rw [if_neg hna]
          have hin : i ≠ n := fun heq => hna (heq ▸ ha)
          exact hdone i (by omega) hiload ha
      · intro hno
        rw [if_neg (hno n n.lt_succ_self hload)]
        exact hrest fun i hi => hno i (Nat.lt_succ_of_lt hi)
    · rw [mapSegment_of_not_isLoad hn hload]
      constructor
      · intro i hi hiload ha
        have hin : i ≠ n := fun heq => hload (heq ▸ hiload)
        exact hdone i (by omega) hiload ha
      · exact fun hno => hrest fun i hi => hno i (Nat.lt_succ_of_lt hi)
  exact ⟨fun i hi => hinv.1 i hi.1 hi, fun hno => hinv.2 fun i _ => hno i⟩

theorem mapSegments_of_mem (h : f.SegmentsOrdered file) {i : ℕ} {a : Uintptr}
    (hi : f.IsLoad file i) (ha : f.InSegment file i a 1) (d : Uintptr) (m : ByteMemory 64) :
    f.mapSegments file d m (d + a) = f.memoryImage file a := by
  rw [(mapSegments_spec h d m a).1 i hi ha, memoryImage_eq h hi ha]

/-- The bytes of a segment in memory: those in the file, then zeros. -/
theorem mapSegments_byte (h : f.SegmentsOrdered file) {i k : ℕ} (hi : f.IsLoad file i)
    (hk : k < (f.phdr file i).pMemsz.toNat) (d : Uintptr) (m : ByteMemory 64) :
    f.mapSegments file d m (d + ((f.phdr file i).pVaddr + BitVec.ofNat 64 k)) =
      if k < (f.phdr file i).pFilesz.toNat then
        file (f.fileData + (f.phdr file i).pOffset + BitVec.ofNat 64 k)
      else 0#8 := by
  have hmemsz := (f.phdr file i).pMemsz.isLt
  have hoffset : (BitVec.ofNat 64 k).toNat = k := Nat.mod_eq_of_lt (hk.trans hmemsz)
  have hin : f.InSegment file i ((f.phdr file i).pVaddr + BitVec.ofNat 64 k) 1 := by
    rw [inSegment_one_iff (h.no_wrap i hi), add_ofNat_sub_self, hoffset]
    exact hk
  refine ((mapSegments_spec h d m _).1 i hi hin).trans ?_
  unfold segmentByte
  dsimp only
  rw [add_ofNat_sub_self, hoffset]

/-! ### The allocation -/

theorem findPhdr_spec {file : ByteMemory 64} {programHeaders : Uintptr} {n : ℕ} {type : BitVec 32}
    (h : ∃ i < n, (ElfPhdr.read file (phdrAddress programHeaders i)).pType = type) :
    ∃ i < n, findPhdr file programHeaders n type = phdrAddress programHeaders i ∧
      (ElfPhdr.read file (phdrAddress programHeaders i)).pType = type ∧
      ∀ j < i, (ElfPhdr.read file (phdrAddress programHeaders j)).pType ≠ type := by
  obtain ⟨i, hi, htype⟩ := h
  unfold findPhdr
  cases hfind : (List.range n).find? fun i =>
      (ElfPhdr.read file (phdrAddress programHeaders i)).pType == type with
  | none => exact absurd (beq_iff_eq.mpr htype) (List.find?_eq_none.mp hfind i (List.mem_range.mpr hi))
  | some j =>
    obtain ⟨hj, hjn, hbefore⟩ := List.find?_range_eq_some.mp hfind
    exact ⟨j, List.mem_range.mp hjn, rfl, beq_iff_eq.mp hj, fun k hk => by simpa using hbefore k hk⟩

theorem findLastPhdr_spec {file : ByteMemory 64} {programHeaders : Uintptr} {n : ℕ}
    {type : BitVec 32}
    (h : ∃ i < n, (ElfPhdr.read file (phdrAddress programHeaders i)).pType = type) :
    ∃ i < n, findLastPhdr file programHeaders n type = phdrAddress programHeaders i ∧
      (ElfPhdr.read file (phdrAddress programHeaders i)).pType = type ∧
      ∀ j < n, i < j → (ElfPhdr.read file (phdrAddress programHeaders j)).pType ≠ type := by
  unfold findLastPhdr
  induction n with
  | zero =>
    obtain ⟨i, hi, _⟩ := h
    exact absurd hi i.not_lt_zero
  | succ n ih =>
    rw [List.range_succ, List.reverse_append, List.reverse_singleton, List.singleton_append,
      List.find?_cons]
    by_cases hn : (ElfPhdr.read file (phdrAddress programHeaders n)).pType = type
    · rw [beq_iff_eq.mpr hn]
      exact ⟨n, n.lt_succ_self, rfl, hn, fun j hj hnj => absurd hj (by omega)⟩
    · rw [beq_eq_false_iff_ne.mpr hn]
      obtain ⟨i, hi, heq, htype, hafter⟩ := ih <| by
        obtain ⟨i, hi, htype⟩ := h
        have hin : i ≠ n := fun heq => hn (heq ▸ htype)
        exact ⟨i, by omega, htype⟩
      refine ⟨i, Nat.lt_succ_of_lt hi, heq, htype, fun j hj hij => ?_⟩
      rcases Nat.lt_succ_iff_lt_or_eq.mp hj with hj | rfl
      · exact hafter j hj hij
      · exact hn

/-- The first and the last loadable segment, which the constructor finds. -/
theorem exists_first_last {fileData : Uintptr} {state : ElfState}
    (hf : f = ofMemory file fileData state) (h : ∃ i, f.IsLoad file i) :
    ∃ first last, f.IsLoad file first ∧ f.IsLoad file last ∧
      (∀ i, f.IsLoad file i → first ≤ i ∧ i ≤ last) ∧
      f.preferredBase = Hypervisor.pageOf (f.phdr file first).pVaddr ∧
      f.memorySize =
        Hypervisor.pageOf ((f.phdr file last).pVaddr + (f.phdr file last).pMemsz + 0xfff#64) -
          f.preferredBase := by
  subst hf
  obtain ⟨i, hi⟩ := h
  obtain ⟨first, hfirst, hfindFirst, hfirstType, hbefore⟩ := findPhdr_spec ⟨i, hi.1, hi.2⟩
  obtain ⟨last, hlast, hfindLast, hlastType, hafter⟩ := findLastPhdr_spec ⟨i, hi.1, hi.2⟩
  refine ⟨first, last, ⟨hfirst, hfirstType⟩, ⟨hlast, hlastType⟩, fun j hj => ⟨?_, ?_⟩,
    congrArg (fun p => Hypervisor.pageOf (ElfPhdr.read file p).pVaddr) hfindFirst,
    congrArg (fun p => Hypervisor.pageOf ((ElfPhdr.read file p).pVaddr +
      (ElfPhdr.read file p).pMemsz + 0xfff#64) - _) hfindLast⟩
  · by_contra hlt
    exact hbefore j (by omega) hj.2
  · by_contra hlt
    exact hafter j hj.1 (by omega) hj.2

/-- The allocation holds every segment. -/
theorem inAllocation {fileData : Uintptr} {state : ElfState} (hf : f = ofMemory file fileData state)
    (h : f.SegmentsOrdered file) (hspan : f.SpanFits file) {i : ℕ} (hi : f.IsLoad file i) :
    f.preferredBase.toNat ≤ (f.phdr file i).pVaddr.toNat ∧
      (f.phdr file i).pVaddr.toNat + (f.phdr file i).pMemsz.toNat ≤
        f.preferredBase.toNat + f.memorySize.toNat := by
  obtain ⟨first, last, hfirst, hlast, hbetween, hbase, hsize⟩ := exists_first_last hf ⟨i, hi⟩
  have hno := h.no_wrap last hlast
  have hfits := hspan first last hfirst hlast
  have hbaseNat : f.preferredBase.toNat = (f.phdr file first).pVaddr.toNat / 0x1000 * 0x1000 := by
    rw [hbase, Hypervisor.toNat_pageOf]
  have hlow : (f.phdr file first).pVaddr.toNat ≤ (f.phdr file i).pVaddr.toNat := by
    rcases Nat.lt_or_eq_of_le (hbetween i hi).1 with hlt | rfl
    · exact (Nat.le_add_right _ _).trans (h.ascending first i hfirst hi hlt)
    · exact Nat.le_refl _
  have hhigh : (f.phdr file i).pVaddr.toNat + (f.phdr file i).pMemsz.toNat ≤
      (f.phdr file last).pVaddr.toNat + (f.phdr file last).pMemsz.toNat := by
    rcases Nat.lt_or_eq_of_le (hbetween i hi).2 with hlt | rfl
    · exact (h.ascending i last hi hlast hlt).trans (Nat.le_add_right _ _)
    · exact Nat.le_refl _
  have hend : (Hypervisor.pageOf
      ((f.phdr file last).pVaddr + (f.phdr file last).pMemsz + 0xfff#64)).toNat =
      ((f.phdr file last).pVaddr.toNat + (f.phdr file last).pMemsz.toNat + 0xfff) / 0x1000 *
        0x1000 % 2 ^ 64 := by
    rw [Hypervisor.toNat_pageOf, BitVec.toNat_add, BitVec.toNat_add, BitVec.toNat_ofNat]
    omega
  refine ⟨by omega, ?_⟩
  rw [hsize, BitVec.toNat_sub, hend]
  omega

/-- **Segment mapping fits the allocation and is exact.**  Whatever the memory was, outside the
allocation nothing changes, every segment has its file bytes and then zeros, and no other byte
changes. -/
theorem mapSegments_exact {fileData : Uintptr} {state : ElfState}
    (hf : f = ofMemory file fileData state) (h : f.SegmentsOrdered file) (hspan : f.SpanFits file)
    (base : Uintptr) (m : ByteMemory 64) :
    let mapped := f.mapSegments file (base - f.preferredBase) m
    (∀ x, x ∉ Region base f.memorySize.toNat → mapped x = m x) ∧
    (∀ i, f.IsLoad file i → ∀ k < (f.phdr file i).pMemsz.toNat,
      mapped (base + ((f.phdr file i).pVaddr - f.preferredBase) + BitVec.ofNat 64 k) =
        if k < (f.phdr file i).pFilesz.toNat then
          file (fileData + (f.phdr file i).pOffset + BitVec.ofNat 64 k)
        else 0#8) ∧
    ∀ x, (∀ i, f.IsLoad file i →
      x ∉ Region (base + ((f.phdr file i).pVaddr - f.preferredBase)) (f.phdr file i).pMemsz.toNat) →
      mapped x = m x := by
  intro mapped
  have hstart : ∀ v : Uintptr, base + (v - f.preferredBase) = base - f.preferredBase + v := by
    intro v
    ring
  have hmoved : ∀ x : Uintptr, x = base - f.preferredBase + (x - (base - f.preferredBase)) := by
    intro x
    ring
  have huncovered : ∀ x, (∀ i, f.IsLoad file i →
      x ∉ Region (base + ((f.phdr file i).pVaddr - f.preferredBase)) (f.phdr file i).pMemsz.toNat) →
      mapped x = m x := by
    intro x hx
    rw [hmoved x]
    refine (mapSegments_spec h _ m _).2 fun i hi hin => hx i hi ?_
    rw [hstart, hmoved x, add_mem_region_add]
    exact (inSegment_one_iff (h.no_wrap i hi)).mp hin
  refine ⟨fun x hx => huncovered x fun i hi hmem => hx ?_, fun i hi k hk => ?_, huncovered⟩
  · obtain ⟨hlow, hhigh⟩ := inAllocation hf h hspan hi
    rw [hstart, hmoved x, add_mem_region_add, mem_region_iff (h.no_wrap i hi)] at hmem
    obtain ⟨hlo, hhi⟩ := hmem
    have hdiff : x - base = x - (base - f.preferredBase) - f.preferredBase := by ring
    rw [mem_region, hdiff, BitVec.toNat_sub_of_le (hlow.trans hlo)]
    omega
  · have hdata : f.fileData = fileData := by rw [hf]; rfl
    rw [hstart, BitVec.add_assoc, ← hdata]
    exact mapSegments_byte h hi hk (base - f.preferredBase) m

/-- An image with one loadable segment at 0, of `filesz` bytes of the file and zeros up to 0x1000, up to
its table at 0xe0, which has `size` bytes. -/
def oneSegmentWords (filesz size : Uintptr) : List Uintptr :=
  -- The ELF header.
  [ 0x00010102464c457f#64, 0#64, 0x00000001003e0003#64, 0#64, 64#64, 0#64, 0x0038004000000000#64,
    2#64,
    -- `PT_LOAD`.
    0x0000000700000001#64, 0#64, 0#64, 0#64, filesz, 0x1000#64, 0x1000#64,
    -- `PT_DYNAMIC`.
    0x0000000600000002#64, 0xb0#64, 0xb0#64, 0xb0#64, 0x30#64, 0x30#64, 8#64,
    -- `DT_RELA`, `DT_RELASZ` and `DT_NULL`.
    7#64, 0xe0#64, 8#64, size, 0#64, 0#64]

/-- An image with two loadable segments at 0x2000 and 0x3000, both longer in memory than in the file,
and a table with one entry for the word at 0x3000. -/
def twoSegmentWords : List Uintptr :=
  -- The ELF header.
  [ 0x00010102464c457f#64, 0#64, 0x00000001003e0003#64, 0x2080#64, 64#64, 0#64,
    0x0038004000000000#64, 3#64,
    -- `PT_LOAD`: 0x130 bytes of the file and zeros up to 0x800.
    0x0000000700000001#64, 0#64, 0x2000#64, 0x2000#64, 0x130#64, 0x800#64, 0x1000#64,
    -- `PT_DYNAMIC`.
    0x0000000600000002#64, 0xe8#64, 0x20e8#64, 0x20e8#64, 0x30#64, 0x30#64, 8#64,
    -- `PT_LOAD`: 8 bytes of the file and zeros up to 0x20.
    0x0000000600000001#64, 0x130#64, 0x3000#64, 0x3000#64, 8#64, 0x20#64, 0x1000#64,
    -- `DT_RELA`, `DT_RELASZ` and `DT_NULL`.
    7#64, 0x2118#64, 8#64, 24#64, 0#64, 0#64,
    -- The table.
    0x3000#64, 8#64, 0x2abc#64,
    -- The second segment.
    5#64]

def twoSegmentFile : ByteMemory 64 := ofWords twoSegmentWords

def twoSegmentElf : ElfFile := ofMemory twoSegmentFile 0#64 .unloaded

theorem twoSegmentElf_eq :
    twoSegmentElf = ⟨0#64, 64#64, 0x2000#64, 120#64, 0xe8#64, 176#64, 0x2000#64⟩ := by
  decide

theorem phdr_twoSegmentElf : twoSegmentElf.phnum twoSegmentFile = 3 ∧
    twoSegmentElf.phdr twoSegmentFile 0 = ⟨1#32, 7#32, 0#64, 0x2000#64, 0x130#64, 0x800#64⟩ ∧
    twoSegmentElf.phdr twoSegmentFile 1 = ⟨2#32, 6#32, 0xe8#64, 0x20e8#64, 0x30#64, 0x30#64⟩ ∧
    twoSegmentElf.phdr twoSegmentFile 2 = ⟨1#32, 6#32, 0x130#64, 0x3000#64, 8#64, 0x20#64⟩ := by
  rw [twoSegmentElf_eq]
  decide

theorem isLoad_twoSegmentElf {i : ℕ} :
    twoSegmentElf.IsLoad twoSegmentFile i ↔ i = 0 ∨ i = 2 := by
  obtain ⟨hnum, h0, h1, h2⟩ := phdr_twoSegmentElf
  constructor
  · rintro ⟨hlt, htype⟩
    rw [hnum] at hlt
    rcases (by omega : i = 0 ∨ i = 1 ∨ i = 2) with rfl | rfl | rfl
    · exact Or.inl rfl
    · rw [h1] at htype
      exact absurd htype (by decide)
    · exact Or.inr rfl
  · rintro (rfl | rfl)
    · exact ⟨by rw [hnum]; decide, by rw [h0]; decide⟩
    · exact ⟨by rw [hnum]; decide, by rw [h2]; decide⟩

theorem segments_twoSegmentElf :
    twoSegmentElf.SegmentsOrdered twoSegmentFile ∧ twoSegmentElf.SpanFits twoSegmentFile := by
  obtain ⟨-, h0, -, h2⟩ := phdr_twoSegmentElf
  refine ⟨⟨fun i hi => ?_, fun i hi => ?_, fun i j hi hj hij => ?_⟩, fun i j hi hj => ?_⟩
  · rcases isLoad_twoSegmentElf.mp hi with rfl | rfl
    · rw [h0]
      decide
    · rw [h2]
      decide
  · rcases isLoad_twoSegmentElf.mp hi with rfl | rfl
    · rw [h0]
      decide
    · rw [h2]
      decide
  · rcases isLoad_twoSegmentElf.mp hi with rfl | rfl <;>
      rcases isLoad_twoSegmentElf.mp hj with rfl | rfl
    · exact absurd hij (Nat.lt_irrefl 0)
    · rw [h0, h2]
      decide
    · exact absurd hij (by decide)
    · exact absurd hij (Nat.lt_irrefl 2)
  · rcases isLoad_twoSegmentElf.mp hi with rfl | rfl <;>
      rcases isLoad_twoSegmentElf.mp hj with rfl | rfl
    · rw [h0]
      decide
    · rw [h0, h2]
      decide
    · rw [h0, h2]
      decide
    · rw [h2]
      decide

theorem mapSegments_exact_twoSegmentElf :
    let mapped := twoSegmentElf.mapSegments twoSegmentFile (0x10000#64 - twoSegmentElf.preferredBase)
      fun _ => 0xff#8
    mapped 0x11000#64 = 5#8 ∧ mapped 0x1101f#64 = 0#8 ∧ mapped 0x10900#64 = 0xff#8 ∧
      mapped 0x12000#64 = 0xff#8 := by
  intro mapped
  obtain ⟨-, h0, -, h2⟩ := phdr_twoSegmentElf
  have hload : twoSegmentElf.IsLoad twoSegmentFile 2 := isLoad_twoSegmentElf.mpr (Or.inr rfl)
  have hbase : twoSegmentElf.preferredBase = 0x2000#64 := by rw [twoSegmentElf_eq]
  have hsize : twoSegmentElf.memorySize = 0x2000#64 := by rw [twoSegmentElf_eq]
  obtain ⟨houtside, hbytes, hrest⟩ := mapSegments_exact (f := twoSegmentElf) rfl
    segments_twoSegmentElf.1 segments_twoSegmentElf.2 0x10000#64 fun _ => 0xff#8
  have hsecond := hbytes 2 hload
  rw [h2, hbase] at hsecond
  refine ⟨(hsecond 0 (by decide)).trans (by decide), (hsecond 0x1f (by decide)).trans (by decide),
    hrest _ fun i hi => ?_, houtside _ ?_⟩
  · rcases isLoad_twoSegmentElf.mp hi with rfl | rfl
    · rw [h0, hbase, mem_region]
      decide
    · rw [h2, hbase, mem_region]
      decide
  · rw [hsize, mem_region]
    decide

/-! ### `get_relocations` -/

/-- The tags parsed from the first `n` entries. -/
def tagsBefore (f : ElfFile) (file : ByteMemory 64) (d : Uintptr) (n : ℕ) : DynamicTags :=
  forRange n (fun i t => t.parse d (f.dynamicEntry file i)) ⟨0#64, 0#64, 0#64, 0#64⟩

/-- With fuel for the entries up to the end, the loop returns the tags before it. -/
theorem parseDynamic_eq {d : Uintptr} {k : ℕ} (hend : (f.dynamicEntry file k).tag = ElfDyn.tagNull)
    (hbefore : ∀ i < k, (f.dynamicEntry file i).tag ≠ ElfDyn.tagNull) {fuel i : ℕ} (hi : i ≤ k)
    (hfuel : k < i + fuel) :
    f.parseDynamic file d fuel i (f.tagsBefore file d i) = some (f.tagsBefore file d k) := by
  induction fuel generalizing i with
  | zero => omega
  | succ fuel ih =>
    unfold parseDynamic
    rcases Nat.lt_or_eq_of_le hi with hlt | rfl
    · dsimp only
      rw [if_neg (hbefore i hlt)]
      exact ih (i := i + 1) hlt (by omega)
    · exact if_pos hend

theorem DynamicTags.rela_parse (t : DynamicTags) (d : Uintptr) (e : ElfDyn) :
    (t.parse d e).rela = if e.tag = ElfDyn.tagRela then d + e.dVal else t.rela := by
  unfold DynamicTags.parse
  split_ifs <;> first | rfl | simp_all [ElfDyn.tagRela, ElfDyn.tagRel, ElfDyn.tagRelSize]

theorem DynamicTags.relaSize_parse (t : DynamicTags) (d : Uintptr) (e : ElfDyn) :
    (t.parse d e).relaSize = if e.tag = ElfDyn.tagRelaSize then e.dVal else t.relaSize := by
  unfold DynamicTags.parse
  split_ifs <;>
    first | rfl | simp_all [ElfDyn.tagRelaSize, ElfDyn.tagRela, ElfDyn.tagRel, ElfDyn.tagRelSize]

theorem DynamicTags.rel_parse (t : DynamicTags) (d : Uintptr) (e : ElfDyn) :
    (t.parse d e).rel = if e.tag = ElfDyn.tagRel then d + e.dVal else t.rel := by
  unfold DynamicTags.parse
  split_ifs <;> rfl

theorem DynamicTags.relSize_parse (t : DynamicTags) (d : Uintptr) (e : ElfDyn) :
    (t.parse d e).relSize = if e.tag = ElfDyn.tagRelSize then e.dVal else t.relSize := by
  unfold DynamicTags.parse
  split_ifs <;> first | rfl | simp_all [ElfDyn.tagRel, ElfDyn.tagRelSize]

/-- A local variable that one tag sets: zero if the tag does not occur, the value of the tag if it
occurs with one value only. -/
theorem tagsBefore_field {field : DynamicTags → Uintptr} {tag : ElfDyn.Tag}
    {value : ElfDyn → Uintptr} {d : Uintptr}
    (hparse : ∀ (t : DynamicTags) (e : ElfDyn),
      field (t.parse d e) = if e.tag = tag then value e else field t)
    (hzero : field ⟨0#64, 0#64, 0#64, 0#64⟩ = 0#64) (k : ℕ) :
    ((∀ i < k, (f.dynamicEntry file i).tag ≠ tag) → field (f.tagsBefore file d k) = 0#64) ∧
    ∀ v, (∀ i < k, (f.dynamicEntry file i).tag = tag → value (f.dynamicEntry file i) = v) →
      (∃ i < k, (f.dynamicEntry file i).tag = tag) → field (f.tagsBefore file d k) = v := by
  unfold tagsBefore
  refine forRange_invariant
    (P := fun n (t : DynamicTags) =>
      ((∀ i < n, (f.dynamicEntry file i).tag ≠ tag) → field t = 0#64) ∧
      ∀ v, (∀ i < n, (f.dynamicEntry file i).tag = tag → value (f.dynamicEntry file i) = v) →
        (∃ i < n, (f.dynamicEntry file i).tag = tag) → field t = v)
    ⟨fun _ => hzero, fun _ _ ⟨i, hi, _⟩ => absurd hi i.not_lt_zero⟩ ?_
  rintro n hn t ⟨hnone, hsome⟩
  rw [hparse]
  constructor
  · intro h
    rw [if_neg (h n n.lt_succ_self)]
    exact hnone fun i hi => h i (Nat.lt_succ_of_lt hi)
  · rintro v hv ⟨i, hi, htag⟩
    split_ifs with hlast
    · exact hv n n.lt_succ_self hlast
    · have hin : i ≠ n := fun heq => hlast (heq ▸ htag)
      exact hsome v (fun j hj => hv j (Nat.lt_succ_of_lt hj)) ⟨i, by omega, htag⟩

/-- A tag of 32 bits is the tag of the entry. -/
theorem tag_eq_iff {e : ElfDyn} (h : e.dTag.toNat < 2 ^ 32) (tag : ElfDyn.Tag) :
    e.tag = tag ↔ e.dTag = tag.setWidth 64 := by
  have := tag.isLt
  rw [ElfDyn.tag, ← BitVec.toNat_inj, ← BitVec.toNat_inj, BitVec.toNat_setWidth,
    BitVec.toNat_setWidth, Nat.mod_eq_of_lt h, Nat.mod_eq_of_lt (by omega)]

/-- `get_relocations` stops, and returns the table the dynamic array describes. -/
theorem getRelocations_eq {t : RelaTable} (h : f.DescribesTable file t) {d : Uintptr}
    (hd : d + t.address ≠ 0#64) :
    ∃ N, ∀ fuel, N ≤ fuel →
      f.getRelocations fuel file d = some (.rela (d + t.address), t.size) := by
  obtain ⟨k, hnull, hbefore, ⟨i, hi, hrela⟩, haddress, ⟨j, hj, hrelaSize⟩, hsize⟩ := h.terminated
  have htag : ∀ n < k, ∀ tag : ElfDyn.Tag, (f.dynamicEntry file n).tag = tag ↔
      (f.dynamicEntry file n).dTag = tag.setWidth 64 :=
    fun n hn => tag_eq_iff (hbefore n hn).2
  have hend : (f.dynamicEntry file k).tag = ElfDyn.tagNull :=
    (tag_eq_iff (by rw [hnull]; decide) _).mpr hnull
  have hrelaEq : (f.tagsBefore file d k).rela = d + t.address :=
    (tagsBefore_field (fun t e => t.rela_parse d e) rfl k).2 _
      (fun n hn hn' => by rw [haddress n hn ((htag n hn _).mp hn')])
      ⟨i, hi, (htag i hi _).mpr hrela⟩
  have hsizeEq : (f.tagsBefore file d k).relaSize = t.size :=
    (tagsBefore_field (fun t e => t.relaSize_parse d e) rfl k).2 _
      (fun n hn hn' => hsize n hn ((htag n hn _).mp hn')) ⟨j, hj, (htag j hj _).mpr hrelaSize⟩
  have hrun : ∀ fuel, k + 1 ≤ fuel →
      f.parseDynamic file d fuel 0 (f.tagsBefore file d 0) = some (f.tagsBefore file d k) :=
    fun fuel hfuel => parseDynamic_eq hend
      (fun n hn hn' => (hbefore n hn).1 ((htag n hn _).mp hn')) k.zero_le (by omega)
  refine ⟨k + 1, fun fuel hfuel => ?_⟩
  unfold getRelocations
  rw [show (⟨0#64, 0#64, 0#64, 0#64⟩ : DynamicTags) = f.tagsBefore file d 0 from rfl, hrun fuel hfuel]
  simp only [Option.bind_eq_bind, Option.bind_some, hrelaEq, hsizeEq, ne_eq, hd, not_false_eq_true,
    if_true, Option.pure_def]

end ElfFile

end Zpp
