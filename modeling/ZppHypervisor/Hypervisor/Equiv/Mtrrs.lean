import ZppHypervisor.Hypervisor.Equiv.InitializeEpt
import ZppHypervisor.Hypervisor.Mtrrs

/-!
# The MTRR records

`initialize_mtrrs` writes one record after the other (`MtrrsInv`).  On a processor with at most eight
register pairs the records are in the array, and each describes the range of its registers
(`initializeMtrrs_describes`); with more, the ninth is written over `mtrr_capabilities`
(`initializeMtrrs_staysInside_iff`).  No record wraps around, so the memory types of `initialize_ept`
follow from the registers (`initializeEpt_initializeMtrrs_iff`).
-/

namespace Zpp.Hypervisor.Mtrrs

open X64 X64.Intel Loop ByteMemory

/-! ### Records in memory -/

/-- A record is determined by its bytes. -/
theorem readMtrr_congr {m m' : ByteMemory 64} {p : Word}
    (h : ∀ k < mtrrSize, m (p + BitVec.ofNat 64 k) = m' (p + BitVec.ofNat 64 k)) :
    readMtrr m p = readMtrr m' p := by
  have hfield : ∀ s l, s + l ≤ mtrrSize →
      m.load (p + BitVec.ofNat 64 s) l = m'.load (p + BitVec.ofNat 64 s) l :=
    fun s l hs => load_congr_add h hs
  unfold readMtrr load64
  rw [hfield 0 8 (by decide), hfield 8 8 (by decide), hfield 16 4 (by decide),
    hfield 20 1 (by decide)]

/-- What is read is what was assigned. -/
theorem readMtrr_writeMtrr (m : ByteMemory 64) (p : Word) (r : Mtrr) :
    readMtrr (writeMtrr m p r) p = r := by
  unfold readMtrr writeMtrr load64
  dsimp only
  rw [load_store_add _ _ (by decide) (by decide) (by decide), load_store_self _ _ _ (by decide),
    load_store_self _ _ _ (by decide)]
  rw [load_store_add _ _ (by decide) (by decide) (by decide),
    load_store_add _ _ (by decide) (by decide) (by decide),
    load_store_add _ _ (by decide) (by decide) (by decide), load_store_self _ _ _ (by decide)]
  rw [load_store_add _ _ (by decide) (by decide) (by decide),
    load_store_add _ _ (by decide) (by decide) (by decide), load_store_self _ _ _ (by decide)]
  obtain ⟨physicalBase, size, type, valid⟩ := r
  cases valid <;> rfl

/-- Only the record is written. -/
theorem writeMtrr_of_not_mem (m : ByteMemory 64) {p x : Word} (r : Mtrr)
    (hx : x ∉ Region p mtrrSize) : writeMtrr m p r x = m x := by
  have hfield : ∀ s n, s + n ≤ mtrrSize → x ∉ Region (p + BitVec.ofNat 64 s) n :=
    fun s n hs hmem => hx (region_add_subset hs (by decide) hmem)
  unfold writeMtrr
  rw [store_of_not_mem _ _ (hfield 8 8 (by decide)), store_of_not_mem _ _ (hfield 0 8 (by decide)),
    store_of_not_mem _ _ (hfield 20 1 (by decide)), store_of_not_mem _ _ (hfield 16 4 (by decide))]

/-! ### The loop -/

section

variable {rdmsr : ℕ → Word} {mtrrs : Word} {m₀ : ByteMemory 64}

/-- What the first `n` iterations leave: the first `n` records. -/
structure MtrrsInv (rdmsr : ℕ → Word) (mtrrs : Word) (m₀ : ByteMemory 64) (n : ℕ)
    (s : ByteMemory 64 × List ℕ) : Prop where
  indices : s.2 = List.range n
  records : ∀ i < n, readMtrr s.1 (mtrrAddress mtrrs i) =
    initializeMtrr (mtrrBase rdmsr i) (mtrrMask rdmsr i)
  others : ∀ x, x ∉ Region mtrrs (mtrrSize * n) → s.1 x = m₀ x

/-- One iteration. -/
theorem MtrrsInv.step {n : ℕ} {s : ByteMemory 64 × List ℕ} (hs : MtrrsInv rdmsr mtrrs m₀ n s)
    (hn : n < 0x100) : MtrrsInv rdmsr mtrrs m₀ (n + 1) (readMtrrPair rdmsr mtrrs n s) := by
  unfold readMtrrPair
  refine ⟨?_, fun i hi => ?_, fun x hx => ?_⟩
  · rw [hs.indices, List.range_succ]
  · rcases Nat.lt_succ_iff_lt_or_eq.mp hi with hi | rfl
    · refine (readMtrr_congr fun k hk => writeMtrr_of_not_mem _ _ ?_).trans (hs.records i hi)
      unfold mtrrSize at hk ⊢
      exact add_ofNat_not_mem_region (by unfold mtrrSize; omega) (by unfold mtrrSize; omega)
        (by unfold mtrrSize; omega)
    · exact readMtrr_writeMtrr _ _ _
  · have hsucc : mtrrSize * (n + 1) = mtrrSize * n + mtrrSize := Nat.mul_succ mtrrSize n
    have hlast : Region (mtrrAddress mtrrs n) mtrrSize ⊆ Region mtrrs (mtrrSize * (n + 1)) :=
      region_add_subset hsucc.ge (by unfold mtrrSize; omega)
    have hfirst : Region mtrrs (mtrrSize * n) ⊆ Region mtrrs (mtrrSize * (n + 1)) :=
      region_mono (by omega)
    dsimp only
    rw [writeMtrr_of_not_mem _ _ fun hmem => hx (hlast hmem)]
    exact hs.others x fun hmem => hx (hfirst hmem)

theorem variableCount_lt (rdmsr : ℕ → Word) : variableCount rdmsr < 0x100 := by
  unfold variableCount MtrrCapabilities.variableRangeRegisterCount
  rw [BitVec.toNat_and]
  exact lt_of_le_of_lt Nat.and_le_right (by decide)

/-- The whole loop. -/
theorem mtrrsInv_initializeMtrrs (rdmsr : ℕ → Word) (mtrrs : Word) (m : ByteMemory 64) :
    MtrrsInv rdmsr mtrrs
      (m.store (mtrrCapabilitiesAddress mtrrs) (n := 8) (rdmsr ia32MtrrCapability))
      (variableCount rdmsr) (initializeMtrrs rdmsr mtrrs m) := by
  have hcount := variableCount_lt rdmsr
  unfold initializeMtrrs
  exact forRange_invariant (P := MtrrsInv rdmsr mtrrs
      (m.store (mtrrCapabilitiesAddress mtrrs) (n := 8) (rdmsr ia32MtrrCapability)))
    ⟨rfl, fun i hi => absurd hi i.not_lt_zero, fun _ _ => rfl⟩
    fun i hi s hs => hs.step (hi.trans hcount)

end

/-! ### Inside the array -/

/-- What the function may touch: the indices are inside the array, nothing but the array and the
capabilities changes, and at the end both hold what was read. -/
structure MtrrsStayInside (rdmsr : ℕ → Word) (mtrrs : Word) (m : ByteMemory 64) : Prop where
  index_lt : ∀ i ∈ (initializeMtrrs rdmsr mtrrs m).2, i < mtrrCount
  others : ∀ x, x ∉ Region mtrrs (mtrrSize * mtrrCount) →
    x ∉ Region (mtrrCapabilitiesAddress mtrrs) 8 → (initializeMtrrs rdmsr mtrrs m).1 x = m x
  capabilities : (initializeMtrrs rdmsr mtrrs m).1.load64 (mtrrCapabilitiesAddress mtrrs) =
    rdmsr ia32MtrrCapability
  represented : ∀ i < variableCount rdmsr, i < mtrrCount ∧
    readMtrr (initializeMtrrs rdmsr mtrrs m).1 (mtrrAddress mtrrs i) =
      initializeMtrr (mtrrBase rdmsr i) (mtrrMask rdmsr i)

/-- With a ninth pair the capabilities end up as its base, which is not what was read. -/
theorem capabilities_of_lt {rdmsr : ℕ → Word} (h : mtrrCount < variableCount rdmsr) (mtrrs : Word)
    (m : ByteMemory 64) :
    (initializeMtrrs rdmsr mtrrs m).1.load64 (mtrrCapabilitiesAddress mtrrs) =
        (mtrrBase rdmsr mtrrCount).pageNumber <<< 12 ∧
      (mtrrBase rdmsr mtrrCount).pageNumber <<< 12 ≠ rdmsr ia32MtrrCapability := by
  constructor
  · have hrecord := (mtrrsInv_initializeMtrrs rdmsr mtrrs m).records mtrrCount h
    have hbase := congrArg Mtrr.physicalBase hrecord
    unfold readMtrr at hbase
    rw [BitVec.add_zero] at hbase
    exact hbase
  · intro heq
    -- The low byte of a base is zero, the number of pairs is not.
    unfold variableCount MtrrCapabilities.variableRangeRegisterCount at h
    dsimp only at h
    rw [← heq, show 0xff#64 = BitVec.ofNat 64 (2 ^ 8 - 1) by decide, toNat_and_low 8 _ (by decide),
      BitVec.toNat_shiftLeft, Nat.shiftLeft_eq] at h
    omega

/-- **The MTRRs are read inside the hypervisor's MTRR state exactly when the processor has at most
eight pairs.** -/
theorem initializeMtrrs_staysInside_iff (rdmsr : ℕ → Word) (mtrrs : Word) (m : ByteMemory 64) :
    MtrrsStayInside rdmsr mtrrs m ↔ variableCount rdmsr ≤ mtrrCount := by
  have hinv := mtrrsInv_initializeMtrrs rdmsr mtrrs m
  constructor
  · intro hinside
    by_contra hlt
    obtain ⟨hload, hne⟩ := capabilities_of_lt (Nat.lt_of_not_le hlt) mtrrs m
    exact hne (hload.symm.trans hinside.capabilities)
  · intro hcount
    have hsubset : Region mtrrs (mtrrSize * variableCount rdmsr) ⊆
        Region mtrrs (mtrrSize * mtrrCount) :=
      region_mono (Nat.mul_le_mul_left mtrrSize hcount)
    refine ⟨fun i hi => ?_, fun x hx hx' => ?_, ?_, fun i hi => ⟨hi.trans_le hcount,
      hinv.records i hi⟩⟩
    · rw [hinv.indices] at hi
      exact (List.mem_range.mp hi).trans_le hcount
    · rw [hinv.others x fun hmem => hx (hsubset hmem), store_of_not_mem _ _ hx']
    · refine (load_congr fun k hk => hinv.others _ fun hmem => ?_).trans
        (load_store_self m _ _ (by decide))
      have hbehind : mtrrCapabilitiesAddress mtrrs + BitVec.ofNat 64 k ∉
          Region (mtrrs + BitVec.ofNat 64 0) (mtrrSize * mtrrCount) :=
        add_ofNat_not_mem_region (Or.inr (by omega)) (by unfold mtrrSize mtrrCount; omega)
          (by decide)
      rw [BitVec.add_zero] at hbehind
      exact hbehind (hsubset hmem)

/-- A processor with ten pairs, all zero. -/
def tenPairs (msr : ℕ) : Word := if msr = ia32MtrrCapability then 0x50a#64 else 0#64

/-- The capabilities are overwritten with zero. -/
theorem not_mtrrsStayInside_tenPairs :
    (initializeMtrrs tenPairs 0x100000#64 fun _ => 0#8).1.load64
        (mtrrCapabilitiesAddress 0x100000#64) = 0#64 ∧
      ¬MtrrsStayInside tenPairs 0x100000#64 fun _ => 0#8 := by
  have hcount : mtrrCount < variableCount tenPairs := by decide
  obtain ⟨hload, hne⟩ := capabilities_of_lt hcount 0x100000#64 fun _ => 0#8
  exact ⟨hload.trans (by decide), fun hinside => hne (hload.symm.trans hinside.capabilities)⟩

/-! ### The range of a record -/

theorem and_one_eq_zero_iff (i : Word) : i &&& 1#64 = 0#64 ↔ i.getLsbD 0 = false := by
  have htest := BitField.test_eq 0 i (by decide)
  rw [BitField.test, BitVec.shiftLeft_zero] at htest
  rw [← htest, bne_eq_false_iff_eq]

/-- The loop over the mask ends at its lowest one bit, after a doubling for each zero bit. -/
theorem scanMask_eq {n fuel : ℕ} {i : Word} (hzero : ∀ b < n, i.getLsbD b = false)
    (hone : i.getLsbD n = true) (hfuel : n < fuel) (size : Word) :
    scanMask fuel size i = some (size <<< n) ∧
      initializeMtrr.doubleSize fuel size i = size <<< n := by
  induction n generalizing fuel size i with
  | zero =>
    obtain ⟨fuel, rfl⟩ := Nat.exists_eq_succ_of_ne_zero hfuel.ne'
    have hodd : i &&& 1#64 ≠ 0#64 := fun h => by
      rw [and_one_eq_zero_iff, hone] at h
      exact absurd h (by decide)
    rw [scanMask, initializeMtrr.doubleSize, if_neg hodd, if_neg hodd, BitVec.shiftLeft_zero]
    exact ⟨rfl, rfl⟩
  | succ n ih =>
    obtain ⟨fuel, rfl⟩ := Nat.exists_eq_succ_of_ne_zero (show fuel ≠ 0 by omega)
    have heven : i &&& 1#64 = 0#64 := (and_one_eq_zero_iff i).mpr (hzero 0 n.succ_pos)
    rw [scanMask, initializeMtrr.doubleSize, if_pos heven, if_pos heven, Nat.add_comm n 1,
      BitVec.shiftLeft_add]
    refine ih (fun b hb => ?_) ?_ (by omega) (size <<< 1)
    · rw [BitVec.getLsbD_ushiftRight]
      exact hzero (1 + b) (by omega)
    · rw [BitVec.getLsbD_ushiftRight, Nat.add_comm]
      exact hone

/-- **Every record describes the range of its registers.**  For a mask with ones from bit `k` to below
the physical address width, and a base aligned to `2 ^ k`, the record is the range of the addresses that
agree with the base under the mask. -/
theorem initializeMtrrs_describes (rdmsr : ℕ → Word) (mtrrs : Word) (m : ByteMemory 64) {i k w : ℕ}
    (hi : i < variableCount rdmsr) (hk : 12 ≤ k) (hkw : k < w) (hw : w ≤ 52)
    (hmask : ∀ b, (mtrrMask rdmsr i).physicalMask.getLsbD b = decide (k ≤ b + 12 ∧ b + 12 < w))
    (hbase : ((mtrrBase rdmsr i).pageNumber <<< 12).toNat < 2 ^ w)
    (haligned : 2 ^ k ∣ ((mtrrBase rdmsr i).pageNumber <<< 12).toNat) :
    let r := readMtrr (initializeMtrrs rdmsr mtrrs m).1 (mtrrAddress mtrrs i)
    let base := (mtrrBase rdmsr i).pageNumber <<< 12
    let mask := (mtrrMask rdmsr i).physicalMask <<< 12
    (∃ N, ∀ fuel, N ≤ fuel →
      scanMask fuel pageSize (mtrrMask rdmsr i).physicalMask = some r.size) ∧
    (∃ n, 12 ≤ n ∧ r.size.toNat = 2 ^ n) ∧
    r.physicalBase.toNat + r.size.toNat < 2 ^ 64 ∧
    ∀ a : Word, a.toNat < 2 ^ w →
      (r.physicalBase ≤ a ∧ a < r.physicalBase + r.size ↔ a &&& mask = base &&& mask) := by
  intro r base mask
  have hr : r = initializeMtrr (mtrrBase rdmsr i) (mtrrMask rdmsr i) :=
    (mtrrsInv_initializeMtrrs rdmsr mtrrs m).records i hi
  have hscan : ∀ fuel, k - 12 < fuel → ∀ size : Word,
      scanMask fuel size (mtrrMask rdmsr i).physicalMask = some (size <<< (k - 12)) ∧
        initializeMtrr.doubleSize fuel size (mtrrMask rdmsr i).physicalMask = size <<< (k - 12) :=
    fun fuel hfuel => scanMask_eq (fun b hb => by rw [hmask, decide_eq_false]; omega)
      (by rw [hmask, decide_eq_true]; omega) hfuel
  have hnonzero : (mtrrMask rdmsr i).physicalMask ≠ 0#64 := by
    intro hzero
    have hbit := hmask (k - 12)
    rw [hzero, BitVec.getLsbD_zero, eq_comm, decide_eq_false_iff_not] at hbit
    omega
  have hsize : r.size = pageSize <<< (k - 12) := by
    rw [hr, initializeMtrr]
    dsimp only
    rw [if_neg hnonzero, (hscan 64 (by omega) pageSize).2]
  have hphysicalBase : r.physicalBase = base := by rw [hr, initializeMtrr]
  have hbaseLt : base.toNat < 2 ^ w := hbase
  have hpow : 2 ^ k ≤ 2 ^ 52 := Nat.pow_le_pow_right (by decide) (by omega)
  have hpow' : 2 ^ w ≤ 2 ^ 52 := Nat.pow_le_pow_right (by decide) hw
  have hsizeNat : r.size.toNat = 2 ^ k := by
    rw [hsize, BitVec.toNat_shiftLeft, Nat.shiftLeft_eq, show pageSize.toNat = 2 ^ 12 by decide,
      ← Nat.pow_add, show 12 + (k - 12) = k by omega]
    exact Nat.mod_eq_of_lt (by omega)
  have hend : r.physicalBase.toNat + r.size.toNat < 2 ^ 64 := by
    rw [hphysicalBase, hsizeNat]
    omega
  refine ⟨⟨k - 12 + 1, fun fuel hfuel => by rw [hsize, (hscan fuel hfuel pageSize).1]⟩,
    ⟨k, hk, hsizeNat⟩, hend, fun a ha => ?_⟩
  have hbits : ∀ j, mask.getLsbD j = decide (k ≤ j ∧ j < w) := by
    intro j
    rw [BitVec.getLsbD_shiftLeft, hmask]
    rw [Bool.eq_iff_iff]
    simp only [Bool.and_eq_true, Bool.not_eq_true', decide_eq_true_eq, decide_eq_false_iff_not]
    omega
  rw [hphysicalBase, hsizeNat] at hend
  rw [BitField.and_mask_eq_iff ha hbaseLt hbits, hphysicalBase, BitVec.le_def, BitVec.lt_def,
    BitVec.toNat_add, hsizeNat, Nat.mod_eq_of_lt hend]
  -- The base is the first address of its block of `2 ^ k` addresses.
  obtain ⟨q, hq⟩ := haligned
  have hpositive := Nat.two_pow_pos k
  rw [show base.toNat = 2 ^ k * q from hq, Nat.mul_div_cancel_left q hpositive,
    Nat.div_eq_iff hpositive, Nat.mul_comm q]
  omega

/-- A processor with one pair, for the 2 GiB from `0x80000000` up, and addresses of 39 bits. -/
def onePair (msr : ℕ) : Word :=
  if msr = ia32MtrrCapability then 0xd01#64
  else if msr = physbase0 then 0x80000000#64
  else if msr = physmask0 then 0x7f80000800#64
  else 0#64

theorem initializeMtrrs_describes_onePair :
    let r := readMtrr (initializeMtrrs onePair 0x100000#64 fun _ => 0#8).1 0x100000#64
    ∀ a : Word, a.toNat < 2 ^ 39 → (r.physicalBase ≤ a ∧ a < r.physicalBase + r.size ↔
      a &&& 0x7f80000000#64 = 0x80000000#64) := by
  have hmask : (mtrrMask onePair 0).physicalMask = 0x7f80000#64 := by decide
  have hbase : (mtrrBase onePair 0).pageNumber <<< 12 = 0x80000000#64 := by decide
  have hbits : ∀ b, (mtrrMask onePair 0).physicalMask.getLsbD b =
      decide (31 ≤ b + 12 ∧ b + 12 < 39) := by
    have hlow : ∀ b < 64, (0x7f80000#64).getLsbD b = decide (31 ≤ b + 12 ∧ b + 12 < 39) := by decide
    intro b
    rw [hmask]
    by_cases hb : b < 64
    · exact hlow b hb
    · rw [BitVec.getLsbD_of_ge _ _ (by omega), eq_comm, decide_eq_false_iff_not]
      omega
  have h := (initializeMtrrs_describes onePair 0x100000#64 (fun _ => 0#8) (i := 0) (k := 31)
    (w := 39) (by decide) (by decide) (by decide) (by decide) hbits (by rw [hbase]; decide)
    (by rw [hbase]; decide)).2.2.2
  rw [hmask, hbase] at h
  exact h

/-! ### The records that `initialize_ept` searches -/

/-- Doubling stops at the lowest one bit of the mask, so the size stays below 2^52 if it was the size
of a page and the mask has 40 bits. -/
theorem toNat_doubleSize_le (n k : ℕ) {size i : Word} (hi : i ≠ 0#64) (hik : i.toNat < 2 ^ k)
    (hsize : size.toNat * 2 ^ k ≤ 2 ^ 52) :
    (initializeMtrr.doubleSize n size i).toNat ≤ 2 ^ 52 := by
  induction n generalizing k size i with
  | zero =>
    rw [initializeMtrr.doubleSize]
    exact le_trans (Nat.le_mul_of_pos_right _ (Nat.two_pow_pos k)) hsize
  | succ n ih =>
    have hle : size.toNat ≤ 2 ^ 52 :=
      le_trans (Nat.le_mul_of_pos_right _ (Nat.two_pow_pos k)) hsize
    rw [initializeMtrr.doubleSize]
    split_ifs with heven
    · have hpos : i.toNat ≠ 0 := fun h => hi (BitVec.eq_of_toNat_eq h)
      have hmod : i.toNat % 2 = 0 := by
        have h := toNat_and_low 1 i (by decide)
        rw [show BitVec.ofNat 64 (2 ^ 1 - 1) = 1#64 by decide, heven] at h
        exact h.symm
      have hhalf : (i >>> 1).toNat = i.toNat / 2 := by
        rw [BitVec.toNat_ushiftRight, Nat.shiftRight_eq_div_pow, pow_one]
      have hdouble : (size <<< 1).toNat = size.toNat * 2 := by
        rw [BitVec.toNat_shiftLeft, Nat.shiftLeft_eq, pow_one]
        omega
      cases k with
      | zero => omega
      | succ k =>
        rw [pow_succ] at hik hsize
        refine ih k (fun h => ?_) (by omega) ?_
        · rw [h, BitVec.toNat_ofNat] at hhalf
          omega
        · rw [hdouble, Nat.mul_assoc, Nat.mul_comm 2]
          exact hsize
    · exact hle

/-- The records `initialize_mtrrs` makes end far below 2^64. -/
theorem bounded_initializeMtrr (base : MtrrVariableBase) (mask : MtrrVariableMask) :
    (initializeMtrr base mask).Bounded := by
  have hbase : (initializeMtrr base mask).physicalBase.toNat < 2 ^ 52 := by
    have hnumber : base.pageNumber.toNat < 2 ^ 40 := by
      rw [MtrrVariableBase.pageNumber, show 0xffffffffff#64 = BitVec.ofNat 64 (2 ^ 40 - 1) by decide,
        BitField.toNat_get_low 12 40 _ (by decide)]
      exact Nat.mod_lt _ (Nat.two_pow_pos 40)
    rw [initializeMtrr, BitVec.toNat_shiftLeft, Nat.shiftLeft_eq]
    omega
  have hsize : (initializeMtrr base mask).size.toNat ≤ 2 ^ 52 := by
    rw [initializeMtrr]
    dsimp only
    split_ifs with h
    · decide
    · refine toNat_doubleSize_le 64 40 h ?_ (by decide)
      rw [MtrrVariableMask.physicalMask, show 0xffffffffff#64 = BitVec.ofNat 64 (2 ^ 40 - 1) by decide,
        BitField.toNat_get_low 12 40 _ (by decide)]
      exact Nat.mod_lt _ (Nat.two_pow_pos 40)
  rw [Mtrr.Bounded]
  omega

/-- The array `mtrrs`. -/
def mtrrRecords (m : ByteMemory 64) (mtrrs : Word) : Vector Mtrr 8 :=
  .ofFn fun i => readMtrr m (mtrrAddress mtrrs i)

/-- A record behind the registers of the processor is as it was. -/
theorem readMtrr_initializeMtrrs_of_le (rdmsr : ℕ → Word) (mtrrs : Word) (m : ByteMemory 64) {i : ℕ}
    (hi : variableCount rdmsr ≤ i) (hcount : i < mtrrCount) :
    readMtrr (initializeMtrrs rdmsr mtrrs m).1 (mtrrAddress mtrrs i) =
      readMtrr m (mtrrAddress mtrrs i) := by
  refine readMtrr_congr fun k hk => ?_
  unfold mtrrSize at hk
  unfold mtrrCount at hcount
  have hoffset : mtrrAddress mtrrs i + BitVec.ofNat 64 k = mtrrs + BitVec.ofNat 64 (24 * i + k) := by
    rw [mtrrAddress, mtrrSize, BitVec.add_assoc, BitVec.ofNat_add]
  have hrecords : mtrrAddress mtrrs i + BitVec.ofNat 64 k ∉
      Region mtrrs (mtrrSize * variableCount rdmsr) := by
    rw [hoffset, mem_region, add_ofNat_sub_self, BitVec.toNat_ofNat, mtrrSize]
    omega
  rw [(mtrrsInv_initializeMtrrs rdmsr mtrrs m).others _ hrecords, store_of_not_mem]
  unfold mtrrAddress mtrrCapabilitiesAddress mtrrSize mtrrCount
  exact add_ofNat_not_mem_region (Or.inl (by omega)) (by omega) (by omega)

/-- In an array that was empty every record is what a register pair gives, or still empty. -/
theorem mem_mtrrRecords {rdmsr : ℕ → Word} {mtrrs : Word} {m : ByteMemory 64}
    (hempty : ∀ i < mtrrCount, readMtrr m (mtrrAddress mtrrs i) = {}) {r : Mtrr}
    (hr : r ∈ (mtrrRecords (initializeMtrrs rdmsr mtrrs m).1 mtrrs).toList) :
    r = {} ∨ ∃ i < variableCount rdmsr,
      initializeMtrr (mtrrBase rdmsr i) (mtrrMask rdmsr i) = r := by
  rw [mtrrRecords, Vector.toList_ofFn, List.mem_ofFn] at hr
  obtain ⟨i, rfl⟩ := hr
  rcases Nat.lt_or_ge i (variableCount rdmsr) with hi | hi
  · exact Or.inr ⟨i, hi, ((mtrrsInv_initializeMtrrs rdmsr mtrrs m).records i hi).symm⟩
  · rw [readMtrr_initializeMtrrs_of_le rdmsr mtrrs m hi i.isLt]
    exact Or.inl (hempty i i.isLt)

/-- **MTRR precedence for the registers of the processor.**  After `initialize_mtrrs` on an empty
array, the type that `initialize_ept` stores for a large page follows the precedence rules exactly
when the first record prevails: no record wraps around. -/
theorem initializeEpt_initializeMtrrs_iff (layout : EptLayout) (vtp : Word → Word) (t : Ept)
    (rdmsr : ℕ → Word) (mtrrs : Word) (m : ByteMemory 64) (d e : Fin 512)
    (hempty : ∀ i < mtrrCount, readMtrr m (mtrrAddress mtrrs i) = {})
    (htype : ∀ i < variableCount rdmsr,
      (initializeMtrr (mtrrBase rdmsr i) (mtrrMask rdmsr i)).Architectural)
    (htouch : ∀ i < variableCount rdmsr,
      let r := initializeMtrr (mtrrBase rdmsr i) (mtrrMask rdmsr i)
      r.valid = true → r.Contains ((512 * d + e) * 2 ^ 21) (2 ^ 21) ∨
        r.Misses ((512 * d + e) * 2 ^ 21) (2 ^ 21)) :
    let records := mtrrRecords (initializeMtrrs rdmsr mtrrs m).1 mtrrs
    RespectsPrecedence records ((512 * d + e) * 2 ^ 21)
        ((initializeEpt layout vtp records t).epd d e).type ↔
      ∀ r, firstRecord records ((512 * d + e) * 2 ^ 21) = some r →
        FirstPrevails records ((512 * d + e) * 2 ^ 21) r := by
  have hpa := toNat_largePage d e
  dsimp only
  rw [epdType_initializeEpt, ← hpa]
  refine respectsPrecedence_largePageType_iff (fun r hr => ?_) (fun r hr => ?_) (by omega)
    fun r hr hvalid => ?_ <;> rcases mem_mtrrRecords hempty hr with rfl | ⟨i, hi, rfl⟩
  · decide
  · exact htype i hi
  · decide
  · exact bounded_initializeMtrr _ _
  · exact absurd hvalid (by decide)
  · rw [hpa]
    exact htouch i hi hvalid

end Zpp.Hypervisor.Mtrrs
