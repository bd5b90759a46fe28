import ZppHypervisor.Equiv.ElfFile

/-!
# The relocation loop against the relocation table

`relocate` takes `DT_RELASZ`, which is a number of bytes, as its number of entries.  The entries of
the table come first, and after them the image is the one the table describes
(`relocated_relocateRela`).  The loop then goes on over the bytes that follow the table, as if they
were entries: the image stays as it is exactly when none of these has the type of a relative
relocation and another value than the word at its target (`HarmlessAfter`).
-/

namespace Zpp.ElfFile

open Loop ByteMemory

variable {f : ElfFile} {file : ByteMemory 64} {t : RelaTable} {d : Uintptr}
  {mapped : ByteMemory 64}

/-! ### Entries of the table -/

/-- The address of byte `k` of an entry of the table. -/
theorem toNat_entryByte (h : f.WellFormed file t) {i k : ℕ} (hi : i < t.count) (hk : k < 24) :
    (relaAddress t.address i + BitVec.ofNat 64 k).toNat = t.address.toNat + (24 * i + k) ∧
      24 * i + k < t.size.toNat := by
  obtain ⟨s, hs, hmem⟩ := h.table_mem
  have hno := h.segments.no_wrap s hs
  have hsize : 24 * i + k < t.size.toNat := by
    unfold RelaTable.count at hi
    omega
  have hlast := hmem.2
  refine ⟨?_, hsize⟩
  unfold relaAddress ElfRela.sizeOf
  rw [BitVec.toNat_add, BitVec.toNat_add, BitVec.toNat_mul, BitVec.toNat_ofNat, BitVec.toNat_ofNat,
    BitVec.toNat_ofNat]
  omega

/-- A target does not wrap around. -/
theorem target_le (h : f.WellFormed file t) {j : ℕ} (hj : j < t.count)
    (hrel : (t.entry f file j).IsRelative) : (t.entry f file j).rOffset.toNat + 8 ≤ 2 ^ 64 := by
  obtain ⟨s, hs, hmem⟩ := h.target_mem j hj hrel
  have hno := h.segments.no_wrap s hs
  exact hmem.2.trans (by omega)

theorem entryByte_not_mem_target (h : f.WellFormed file t) {i j k : ℕ} (hi : i < t.count)
    (hk : k < 24) (hj : j < t.count) (hrel : (t.entry f file j).IsRelative) :
    relaAddress t.address i + BitVec.ofNat 64 k ∉ Region (t.entry f file j).rOffset 8 := by
  obtain ⟨hbyte, hlt⟩ := toNat_entryByte h hi hk
  rw [mem_region_iff (target_le h hj hrel), hbyte]
  rcases h.target_table j hj hrel with hbelow | habove <;> omega

/-- In a memory that has the mapped bytes outside the targets, the entries of the table are those of
the file. -/
theorem read_entry (h : f.WellFormed file t) {m₀ m : ByteMemory 64}
    (hothers : ∀ a, (∀ j < t.count, (t.entry f file j).IsRelative →
      a ∉ Region (t.entry f file j).rOffset 8) → m (d + a) = f.mapSegments file d m₀ (d + a))
    {i : ℕ} (hi : i < t.count) :
    ElfRela.read m (relaAddress (d + t.address) i) = t.entry f file i := by
  obtain ⟨s, hs, hmem⟩ := h.table_mem
  refine ElfRela.read_congr fun k hk => ?_
  obtain ⟨hbyte, hlt⟩ := toNat_entryByte h hi hk
  have hin : f.InSegment file s (relaAddress t.address i + BitVec.ofNat 64 k) 1 := by
    obtain ⟨hlo, hhi⟩ := hmem
    unfold InSegment
    omega
  rw [relaAddress, BitVec.add_assoc, BitVec.add_assoc, ← BitVec.add_assoc t.address]
  show m (d + (relaAddress t.address i + BitVec.ofNat 64 k)) = _
  rw [hothers _ fun j hj hrel => entryByte_not_mem_target h hi hk hj hrel,
    mapSegments_of_mem h.segments hs hin]

theorem relativeRelocationValue_eq (h : f.WellFormed file t) :
    f.relativeRelocationValue file = x86_64Relative := by
  unfold relativeRelocationValue
  rw [h.machine]
  rfl

/-! ### The loop over the table -/

/-- The loop body, by the entry it reads. -/
theorem relocateRelaEntry_eq {p : Uintptr} {i : ℕ} {m : ByteMemory 64} {r : ElfRela}
    (hr : ElfRela.read m (relaAddress p i) = r) :
    relocateRelaEntry x86_64Relative p d i m =
      if r.IsRelative then m.store (d + r.rOffset) (n := 8) (d + r.rAddend) else m := by
  unfold relocateRelaEntry
  rw [hr]
  by_cases hrel : r.IsRelative
  · rw [if_pos hrel]
    exact if_neg (not_not.mpr hrel)
  · rw [if_neg hrel]
    exact if_pos hrel

theorem relocateRela_succ (h : f.WellFormed file t) (p : Uintptr) (n : ℕ) (m : ByteMemory 64) :
    f.relocateRela file p d (n + 1) m =
      relocateRelaEntry x86_64Relative p d n (f.relocateRela file p d n m) := by
  unfold relocateRela
  rw [forRange_succ, relativeRelocationValue_eq h]

/-- One entry of the table relocates the word at its target; the other targets are apart from it. -/
theorem Relocated.step (h : f.WellFormed file t) {m₀ m : ByteMemory 64} {n : ℕ} (hn : n < t.count)
    (hwords : ∀ j < n, (t.entry f file j).IsRelative →
      m.load64 (d + (t.entry f file j).rOffset) = d + (t.entry f file j).rAddend)
    (hothers : ∀ a, (∀ j < t.count, (t.entry f file j).IsRelative →
      a ∉ Region (t.entry f file j).rOffset 8) → m (d + a) = f.mapSegments file d m₀ (d + a)) :
    let m' := relocateRelaEntry x86_64Relative (d + t.address) d n m
    (∀ j < n + 1, (t.entry f file j).IsRelative →
      m'.load64 (d + (t.entry f file j).rOffset) = d + (t.entry f file j).rAddend) ∧
    ∀ a, (∀ j < t.count, (t.entry f file j).IsRelative →
      a ∉ Region (t.entry f file j).rOffset 8) → m' (d + a) = f.mapSegments file d m₀ (d + a) := by
  intro m'
  have hm' : m' = _ := relocateRelaEntry_eq (read_entry h hothers hn)
  by_cases hrel : (t.entry f file n).IsRelative
  · rw [if_pos hrel] at hm'
    rw [hm']
    constructor
    · intro j hj hjrel
      rcases Nat.lt_succ_iff_lt_or_eq.mp hj with hj | rfl
      · have hapart := h.target_target j (hj.trans hn) n hn (Nat.ne_of_lt hj) hjrel hrel
        have hlen := target_le h (hj.trans hn) hjrel
        have hdisjoint : ∀ k < 8, d + (t.entry f file j).rOffset + BitVec.ofNat 64 k ∉
            Region (d + (t.entry f file n).rOffset) 8 := by
          intro k hk
          rw [BitVec.add_assoc, add_mem_region_add, mem_region_iff (target_le h hn hrel),
            BitVec.toNat_add, BitVec.toNat_ofNat]
          rcases hapart with hbelow | habove <;> omega
        exact (load_store_of_disjoint m _ hdisjoint).trans (hwords j hj hjrel)
      · exact load_store_self m _ _ (by decide)
    · intro a ha
      rw [store_of_not_mem _ _ (mt add_mem_region_add.mp (ha n hn hrel))]
      exact hothers a ha
  · rw [if_neg hrel] at hm'
    rw [hm']
    refine ⟨fun j hj hjrel => ?_, hothers⟩
    have hjn : j ≠ n := fun heq => hrel (heq ▸ hjrel)
    exact hwords j (by omega) hjrel

/-- After the entries of the table the image is relocated. -/
theorem relocated_relocateRela (h : f.WellFormed file t) (d : Uintptr) (m₀ : ByteMemory 64) :
    f.Relocated file t d (f.mapSegments file d m₀)
      (f.relocateRela file (d + t.address) d t.count (f.mapSegments file d m₀)) := by
  suffices hinv : ∀ n ≤ t.count,
      (∀ j < n, (t.entry f file j).IsRelative →
        (f.relocateRela file (d + t.address) d n (f.mapSegments file d m₀)).load64
          (d + (t.entry f file j).rOffset) = d + (t.entry f file j).rAddend) ∧
      ∀ a, (∀ j < t.count, (t.entry f file j).IsRelative →
        a ∉ Region (t.entry f file j).rOffset 8) →
        f.relocateRela file (d + t.address) d n (f.mapSegments file d m₀) (d + a) =
          f.mapSegments file d m₀ (d + a) by
    obtain ⟨hwords, hothers⟩ := hinv t.count le_rfl
    exact ⟨hwords, hothers⟩
  intro n
  induction n with
  | zero => exact fun _ => ⟨fun j hj => absurd hj j.not_lt_zero, fun _ _ => rfl⟩
  | succ n ih =>
    intro hn
    obtain ⟨hwords, hothers⟩ := ih (Nat.le_of_succ_le hn)
    rw [relocateRela_succ h]
    exact Relocated.step h hn hwords hothers

/-- Only one memory is the relocated image. -/
theorem Relocated.unique {m m' : ByteMemory 64} (hm : f.Relocated file t d mapped m)
    (hm' : f.Relocated file t d mapped m') : m = m' := by
  ext1 x
  obtain ⟨a, rfl⟩ : ∃ a, x = d + a := ⟨x - d, by rw [BitVec.add_comm, BitVec.sub_add_cancel]⟩
  by_cases ha : ∀ j < t.count, (t.entry f file j).IsRelative →
      a ∉ Region (t.entry f file j).rOffset 8
  · rw [hm.others a ha, hm'.others a ha]
  · push Not at ha
    obtain ⟨j, hj, hrel, hmem⟩ := ha
    have hword : m.load64 _ = m'.load64 _ := (hm.words j hj hrel).trans (hm'.words j hj hrel).symm
    rw [eq_add_ofNat_sub (t.entry f file j).rOffset a, ← BitVec.add_assoc,
      ← extractLsb'_load m _ hmem, ← extractLsb'_load m' _ hmem]
    exact congrArg _ hword

/-! ### The loop after the table -/

/-- Among the `DT_RELASZ` records that the loop takes for entries, those after the table are not
relative relocations, or give the value that the word at their target has, in the relocated image. -/
def HarmlessAfter (f : ElfFile) (file : ByteMemory 64) (t : RelaTable) (d : Uintptr)
    (mapped : ByteMemory 64) : Prop :=
  ∀ m, f.Relocated file t d mapped m → ∀ i, t.count ≤ i → i < t.size.toNat →
    (ElfRela.read m (relaAddress (d + t.address) i)).IsRelative →
    m.load64 (d + (ElfRela.read m (relaAddress (d + t.address) i)).rOffset) =
      d + (ElfRela.read m (relaAddress (d + t.address) i)).rAddend

/-- The relocation loop leaves the relocated image, and none of its iterations after the table
changes a byte. -/
structure AppliesTable (f : ElfFile) (file : ByteMemory 64) (t : RelaTable) (d : Uintptr)
    (mapped : ByteMemory 64) : Prop where
  relocated : f.Relocated file t d mapped
    (f.relocateRela file (d + t.address) d t.size.toNat mapped)
  unchanged : ∀ i, t.count ≤ i → i < t.size.toNat →
    f.relocateRela file (d + t.address) d (i + 1) mapped =
      f.relocateRela file (d + t.address) d i mapped

/-- An iteration changes no byte exactly when its record is not a relative relocation or gives the
value that is there. -/
theorem relocateRelaEntry_eq_self_iff {p : Uintptr} {i : ℕ} {m : ByteMemory 64} :
    relocateRelaEntry x86_64Relative p d i m = m ↔
      ((ElfRela.read m (relaAddress p i)).IsRelative →
        m.load64 (d + (ElfRela.read m (relaAddress p i)).rOffset) =
          d + (ElfRela.read m (relaAddress p i)).rAddend) := by
  rw [relocateRelaEntry_eq rfl]
  by_cases hrel : (ElfRela.read m (relaAddress p i)).IsRelative
  · rw [if_pos hrel]
    constructor
    · intro heq _
      have hload := load_store_self m (d + (ElfRela.read m (relaAddress p i)).rOffset) (n := 8)
        (d + (ElfRela.read m (relaAddress p i)).rAddend) (by decide)
      rw [heq] at hload
      exact hload
    · intro hload
      rw [← hload hrel]
      exact store_load_self m _ 8
  · rw [if_neg hrel]
    exact ⟨fun _ hrel' => absurd hrel' hrel, fun _ => rfl⟩

theorem appliesTable_iff (h : f.WellFormed file t) (d : Uintptr) (m₀ : ByteMemory 64) :
    f.AppliesTable file t d (f.mapSegments file d m₀) ↔
      f.HarmlessAfter file t d (f.mapSegments file d m₀) := by
  have hcount : t.count ≤ t.size.toNat := Nat.div_le_self _ _
  set loop := fun n => f.relocateRela file (d + t.address) d n (f.mapSegments file d m₀) with hloop
  have htable : f.Relocated file t d _ (loop t.count) := relocated_relocateRela h d m₀
  have hsucc : ∀ n, loop (n + 1) = relocateRelaEntry x86_64Relative (d + t.address) d n (loop n) :=
    fun n => relocateRela_succ h _ n _
  constructor
  · rintro ⟨-, hunchanged⟩ m hm i hi hlt
    -- No iteration from the end of the table to `i` changes the image.
    have hstay : ∀ n, t.count ≤ n → n ≤ i → loop n = loop t.count := by
      intro n hn
      induction n, hn using Nat.le_induction with
      | base => exact fun _ => rfl
      | succ n hn ih => exact fun hni => (hunchanged n hn (by omega)).trans (ih (by omega))
    rw [hm.unique htable, ← hstay i hi le_rfl, ← relocateRelaEntry_eq_self_iff, ← hsucc i]
    exact hunchanged i hi hlt
  · intro hharmless
    have hstay : ∀ n, t.count ≤ n → n ≤ t.size.toNat → loop n = loop t.count := by
      intro n hn
      induction n, hn using Nat.le_induction with
      | base => exact fun _ => rfl
      | succ n hn ih =>
        intro hlt
        have ih := ih (by omega)
        rw [hsucc, relocateRelaEntry_eq_self_iff.mpr, ih]
        rw [ih]
        exact hharmless _ htable n hn hlt
    refine ⟨?_, fun i hi hlt => ?_⟩
    · rw [← hstay t.size.toNat hcount le_rfl] at htable
      exact htable
    · exact (hstay (i + 1) (by omega) (by omega)).trans (hstay i hi (by omega)).symm

/-! ### `load` -/

/-- An image whose table has one entry, for the word at `0x110`.  The record after the table is data
that looks like a relative relocation of the word at `0x118`. -/
def surplusFile : ByteMemory 64 :=
  ofWords (oneSegmentWords 0x120#64 24#64 ++
    -- The table, then the record after it.
    [0x110#64, 8#64, 0x1234#64,
      0x118#64, 8#64, 0x55#64,
      -- The words at 0x110 and 0x118.
      6#64, 7#64])

def surplusTable : RelaTable := ⟨0xe0#64, 24#64⟩

/-- An allocator that returns `0x10000`. -/
def surplusAllocate (_ : Uintptr) : Uintptr := 0x10000#64

def surplusElf : ElfFile := ofMemory surplusFile 0#64 .unloaded

theorem surplusElf_eq : surplusElf = ⟨0#64, 64#64, 0#64, 120#64, 0xb0#64, 64#64, 0x1000#64⟩ := by
  decide

theorem phdr_surplusElf : surplusElf.phnum surplusFile = 2 ∧
   surplusElf.phdr surplusFile 0 = ⟨1#32, 7#32, 0#64, 0#64, 0x120#64, 0x1000#64⟩ ∧
   surplusElf.phdr surplusFile 1 = ⟨2#32, 6#32, 0xb0#64, 0xb0#64, 0x30#64, 0x30#64⟩ := by
  rw [surplusElf_eq]
  decide

theorem isLoad_surplusElf {i : ℕ} (hi : surplusElf.IsLoad surplusFile i) : i = 0 := by
  obtain ⟨hnum, h0, h1⟩ := phdr_surplusElf
  obtain ⟨hlt, htype⟩ := hi
  rw [hnum] at hlt
  rcases (by omega : i = 0 ∨ i = 1) with rfl | rfl
  · rfl
  · rw [h1] at htype
    exact absurd htype (by decide)

theorem entry_surplusTable :
    surplusTable.entry surplusElf surplusFile 0 = ⟨0x110#64, 8#64, 0x1234#64⟩ := by
  rw [surplusElf_eq]
  decide

theorem wellFormed_surplusElf : surplusElf.WellFormed surplusFile surplusTable := by
  obtain ⟨hnum, h0, h1⟩ := phdr_surplusElf
  have hload : surplusElf.IsLoad surplusFile 0 := ⟨by rw [hnum]; decide, by rw [h0]; decide⟩
  have hcount : ∀ j < surplusTable.count, j = 0 := fun j hj => Nat.lt_one_iff.mp hj
  refine ⟨by rw [surplusElf_eq]; decide, ⟨?_, ?_, ?_⟩, ?_, ⟨⟨1, ?_⟩, ⟨2, ?_⟩⟩, ⟨0, hload, ?_⟩, ?_, ?_,
    ?_⟩
  · intro i hi
    rw [isLoad_surplusElf hi, h0]
    decide
  · intro i hi
    rw [isLoad_surplusElf hi, h0]
    decide
  · intro i j hi hj hij
    rw [isLoad_surplusElf hi, isLoad_surplusElf hj] at hij
    exact absurd hij (Nat.lt_irrefl 0)
  · intro i j hi hj
    rw [isLoad_surplusElf hi, isLoad_surplusElf hj, h0]
    decide
  · rw [hnum, h1]
    decide
  · rw [surplusElf_eq]
    decide
  · unfold InSegment
    rw [h0]
    decide
  · intro j hj _
    refine ⟨0, hload, ?_⟩
    unfold InSegment
    rw [hcount j hj, entry_surplusTable, h0]
    decide
  · intro j hj _
    rw [hcount j hj, entry_surplusTable]
    decide
  · intro i hi j hj hij
    exact absurd ((hcount i hi).trans (hcount j hj).symm) hij

/-- The image of the file at 0x10000, over zeros. -/
def surplusMapped : ByteMemory 64 :=
  fun x => if (x - 0x10000#64).toNat < 0x120 then surplusFile (x - 0x10000#64) else 0#8

theorem mapSegments_surplusElf :
    surplusElf.mapSegments surplusFile 0x10000#64 (fun _ => 0#8) = surplusMapped := by
  obtain ⟨hnum, h0, h1⟩ := phdr_surplusElf
  have hdata : surplusElf.fileData = 0#64 := by rw [surplusElf_eq]
  have hsize : (0x120#64 : Uintptr).toNat = 0x120 := by decide
  unfold mapSegments
  rw [hnum, forRange_succ, forRange_succ, forRange_zero]
  unfold mapSegment
  rw [h0, h1, hdata, if_pos (by decide), if_neg (by decide)]
  ext1 x
  simp only [copy, fill, surplusMapped, hsize, BitVec.add_zero, BitVec.zero_add]
  split_ifs with hzero hcopy
  · have hx := mem_region.mpr hcopy
    have hfill := mem_region.mpr hzero
    rw [mem_region_iff (by decide)] at hx hfill
    have hlit : (0x10000#64 + 0x120#64).toNat = 0x10120 := by decide
    have hlit' : (0x10000#64 : BitVec 64).toNat = 0x10000 := by decide
    omega
  · rfl
  · rfl
  · rfl

/-- The memory after the two iterations that store: that of the table and that of the record after
it. -/
def surplusMemory : ByteMemory 64 :=
  (surplusMapped.store 0x10110#64 (n := 8) 0x11234#64).store 0x10118#64 (n := 8) 0x10055#64

theorem relocateRela_surplusElf :
    surplusElf.relocateRela surplusFile 0x100e0#64 0x10000#64 24 surplusMapped = surplusMemory := by
  have hsucc := fun n =>
    relocateRela_succ wellFormed_surplusElf (d := 0x10000#64) 0x100e0#64 n surplusMapped
  have hstored : surplusElf.relocateRela surplusFile 0x100e0#64 0x10000#64 2 surplusMapped =
      surplusMemory := by
    have h0 : ElfRela.read surplusMapped (relaAddress 0x100e0#64 0) =
        ⟨0x110#64, 8#64, 0x1234#64⟩ := by decide
    have h1 : ElfRela.read (surplusMapped.store 0x10110#64 (n := 8) 0x11234#64)
        (relaAddress 0x100e0#64 1) = ⟨0x118#64, 8#64, 0x55#64⟩ := by decide
    rw [hsucc, hsucc, show surplusElf.relocateRela _ _ _ 0 surplusMapped = surplusMapped from rfl,
      relocateRelaEntry_eq h0, if_pos (by decide)]
    exact (relocateRelaEntry_eq h1).trans (if_pos (by decide))
  have hrest : ∀ i < 24, 2 ≤ i →
      ¬(ElfRela.read surplusMemory (relaAddress 0x100e0#64 i)).IsRelative := by
    decide
  have hstay : ∀ n, 2 ≤ n → n ≤ 24 →
      surplusElf.relocateRela surplusFile 0x100e0#64 0x10000#64 n surplusMapped = surplusMemory := by
    intro n hn
    induction n, hn using Nat.le_induction with
    | base => exact fun _ => hstored
    | succ n hn ih =>
      intro hlt
      rw [hsucc, ih (by omega), relocateRelaEntry_eq rfl, if_neg (hrest n hlt hn)]
  exact hstay 24 (by decide) le_rfl

end Zpp.ElfFile
