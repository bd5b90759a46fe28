import ZppHypervisor.Hypervisor.Segments

/-!
# The copy of the OS GDT

The intermediate GDT has the descriptors of the OS GDT (`fromMemory_intermediateGdt`), and
`initialize_intermediate_gdt` writes nothing outside its table.
-/

namespace Zpp.X64

open ByteMemory

/-- Clearing the privilege level of a selector of the GDT leaves the offset of its descriptor. -/
theorem setWidth_and_not_three {selector : BitVec 16} (hglobal : IsGlobal selector) :
    selector.setWidth 64 &&& ~~~3#64 = BitVec.ofNat 64 (descriptorOffset selector) := by
  have hmask : ∀ i < 64, (~~~3#64).getLsbD i =
      ((0xfff8#16).getLsbD i || (4#16).getLsbD i || decide (16 ≤ i)) := by decide
  unfold descriptorOffset
  rw [BitVec.ofNat_toNat]
  apply BitVec.eq_of_getLsbD_eq
  intro i hi
  have hbit := congrArg (BitVec.getLsbD · i) hglobal
  simp only [BitVec.getLsbD_and, BitVec.getLsbD_zero] at hbit
  simp only [BitVec.getLsbD_and, BitVec.getLsbD_setWidth, hi, decide_true, Bool.true_and, hmask i hi]
  by_cases hlow : i < 16
  · rw [decide_eq_false (by omega), Bool.or_false, Bool.and_or_distrib_left, hbit, Bool.or_false]
  · rw [BitVec.getLsbD_of_ge selector i (by omega), Bool.false_and, Bool.false_and]

/-- A selector of the GDT is read where the processor finds it. -/
theorem SegmentDescriptor.fromMemory_eq {selector : BitVec 16} (hglobal : IsGlobal selector)
    (hne : selector ≠ 0#16) (m : ByteMemory 64) (base : Word) :
    SegmentDescriptor.fromMemory m base selector = descriptorAt m base selector := by
  have hall : selector ≠ 0x1fff#16 := fun h => by
    rw [h] at hglobal
    exact absurd hglobal (by decide)
  unfold fromMemory descriptorAt
  rw [if_neg hne, if_neg hall, setWidth_and_not_three hglobal]

theorem not_isNull_ne_zero {selector : BitVec 16} (h : ¬IsNull selector) : selector ≠ 0#16 :=
  fun hzero => h (by rw [hzero]; rfl)

end Zpp.X64

namespace Zpp.Hypervisor

open X64 ByteMemory

variable {memory : ByteMemory 64} {intermediateGdt guestTss : Word} {gdtr : Gdtr}
  {osTr selector : BitVec 16}

/-! ### The copy -/

theorem copyGdt_of_lt {k : ℕ} (hk : k < gdtr.limit.toNat + 1) :
    copyGdt memory intermediateGdt gdtr (intermediateGdt + BitVec.ofNat 64 k) =
      memory (gdtr.base + BitVec.ofNat 64 k) := by
  have hlimit := gdtr.limit.isLt
  unfold copyGdt copy
  rw [add_ofNat_sub_self, BitVec.toNat_ofNat, Nat.mod_eq_of_lt (by omega), if_pos hk]

theorem copyGdt_load64 {s : ℕ} (hs : s + 8 ≤ gdtr.limit.toNat + 1) :
    (copyGdt memory intermediateGdt gdtr).load64 (intermediateGdt + BitVec.ofNat 64 s) =
      memory.load64 (gdtr.base + BitVec.ofNat 64 s) :=
  load64_congr_add (fun _ hk => copyGdt_of_lt hk) hs

theorem copyGdt_entry (h : InGdt gdtr selector 8) :
    (descriptorAt (copyGdt memory intermediateGdt gdtr) intermediateGdt selector).entry =
      (descriptorAt memory gdtr.base selector).entry :=
  copyGdt_load64 h.2

/-! ### The table -/

/-- The number of bytes that `initialize_intermediate_gdt` may write. -/
def intermediateGdtSize : ℕ := 0x10010

theorem toNat_trIndex (gdtr : Gdtr) : (trIndex gdtr).toNat = (gdtr.limit.toNat + 1) / 8 := by
  have hlimit := gdtr.limit.isLt
  have hwidth : (gdtr.limit.setWidth 64).toNat = gdtr.limit.toNat := by
    rw [BitVec.toNat_setWidth, Nat.mod_eq_of_lt (by omega)]
  have hone : (1#64).toNat = 1 := rfl
  have height : (8#64).toNat = 8 := rfl
  unfold trIndex
  rw [BitVec.toNat_udiv, BitVec.toNat_add, hwidth, hone, height, Nat.mod_eq_of_lt (by omega)]

/-- An entry of the table, counted in bytes. -/
theorem eight_mul_eq (i : Word) : 8#64 * i = BitVec.ofNat 64 (8 * i.toNat) := by
  rw [BitVec.ofNat_mul, BitVec.ofNat_toNat, BitVec.setWidth_eq]

theorem intermediateGdtMemory_of_not_mem {x : Word}
    (hx : x ∉ Region intermediateGdt intermediateGdtSize) :
    intermediateGdtMemory memory intermediateGdt guestTss gdtr osTr x = memory x := by
  have hlimit := gdtr.limit.isLt
  have hindex := toNat_trIndex gdtr
  have hcopy : copyGdt memory intermediateGdt gdtr x = memory x := by
    unfold copyGdt copy
    refine if_neg fun hmem => hx ?_
    unfold intermediateGdtSize
    rw [mem_region]
    omega
  have hentry : ∀ i : Word, 8 * i.toNat + 8 ≤ intermediateGdtSize →
      x ∉ Region (intermediateGdt + 8#64 * i) 8 := by
    intro i hi hmem
    rw [eight_mul_eq] at hmem
    exact hx (region_add_subset hi (by decide) hmem)
  unfold intermediateGdtMemory
  dsimp only
  split_ifs
  · exact hcopy
  · rw [store_of_not_mem _ _ (hentry _ ?_), store_of_not_mem _ _ (hentry _ ?_), hcopy]
    · rw [hindex]
      unfold intermediateGdtSize
      omega
    · rw [BitVec.toNat_add, hindex, BitVec.toNat_ofNat]
      unfold intermediateGdtSize
      omega

theorem toNat_trIndex_add_one (gdtr : Gdtr) :
    (trIndex gdtr + 1#64).toNat = (trIndex gdtr).toNat + 1 := by
  have hlimit := gdtr.limit.isLt
  rw [BitVec.toNat_add, toNat_trIndex, BitVec.toNat_ofNat]
  omega

/-- The slots that are entirely within the OS limit have the descriptors of the OS: a new TSS is behind
them. -/
theorem intermediateGdtMemory_load64 {s : ℕ} (hs : s + 8 ≤ (gdtr.limit.toNat + 1) / 8 * 8) :
    (intermediateGdtMemory memory intermediateGdt guestTss gdtr osTr).load64
        (intermediateGdt + BitVec.ofNat 64 s) =
      memory.load64 (gdtr.base + BitVec.ofNat 64 s) := by
  have hlimit := gdtr.limit.isLt
  have hindex := toNat_trIndex gdtr
  have hcopy : (copyGdt memory intermediateGdt gdtr).load64 (intermediateGdt + BitVec.ofNat 64 s) =
      memory.load64 (gdtr.base + BitVec.ofNat 64 s) := copyGdt_load64 (by omega)
  unfold intermediateGdtMemory
  dsimp only
  split_ifs
  · exact hcopy
  · rw [eight_mul_eq, eight_mul_eq, toNat_trIndex_add_one]
    unfold load64
    rw [load_store_add _ _ (by omega) (by omega) (by omega),
      load_store_add _ _ (by omega) (by omega) (by omega)]
    exact hcopy

/-- The OS GDT does not overlap the table that the launch writes. -/
def GdtApart (gdtr : Gdtr) (intermediateGdt : Word) : Prop :=
  ∀ k < gdtr.limit.toNat + 1,
    gdtr.base + BitVec.ofNat 64 k ∉ Region intermediateGdt intermediateGdtSize

/-- The launch does not change the OS GDT. -/
theorem intermediateGdtMemory_entry (hapart : GdtApart gdtr intermediateGdt)
    (h : InGdt gdtr selector 8) :
    (descriptorAt (intermediateGdtMemory memory intermediateGdt guestTss gdtr osTr) gdtr.base
      selector).entry = (descriptorAt memory gdtr.base selector).entry :=
  load64_congr_add (fun k hk => intermediateGdtMemory_of_not_mem (hapart k hk)) h.2

/-- Marking a segment of the intermediate GDT busy does not change the OS GDT. -/
theorem markBusy_entry {memory : ByteMemory 64} {gdtr gdtr' : Gdtr} {selector selector' : BitVec 16}
    (hapart : GdtApart gdtr gdtr'.base) (h : InGdt gdtr selector 8) :
    (descriptorAt (markBusy memory gdtr' selector') gdtr.base selector).entry =
      (descriptorAt memory gdtr.base selector).entry := by
  refine load64_congr_add (fun k hk => store_of_not_mem _ _ fun hmem => hapart k hk ?_) h.2
  refine region_add_subset ?_ (by decide) hmem
  unfold descriptorOffset intermediateGdtSize
  omega

/-- The TSS of the OS, if `ltr` accepts it, is present in the copy. -/
theorem taskStateSegmentPresent_of_ltrAllowed {gdtr' : Gdtr} {selector' : BitVec 16}
    (hbase : gdtr'.base = intermediateGdt) (hapart : GdtApart gdtr intermediateGdt)
    (h : LtrAllowed (markBusy (intermediateGdtMemory memory intermediateGdt guestTss gdtr osTr)
      gdtr' selector') gdtr osTr) :
    taskStateSegmentPresent memory intermediateGdt gdtr osTr = true := by
  have hin : InGdt gdtr osTr 8 := ⟨h.inGdt.1, by have := h.inGdt.2; omega⟩
  have hpresent := h.present
  unfold SegmentDescriptor.present at hpresent
  rw [markBusy_entry (hbase ▸ hapart) hin, intermediateGdtMemory_entry hapart hin] at hpresent
  unfold taskStateSegmentPresent SegmentDescriptor.present
  rw [SegmentDescriptor.fromMemory_eq hin.1 (not_isNull_ne_zero h.not_null), copyGdt_entry hin]
  exact hpresent

end Zpp.Hypervisor
