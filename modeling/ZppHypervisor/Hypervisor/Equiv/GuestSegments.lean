import ZppHypervisor.Hypervisor.Equiv.Segments
import ZppHypervisor.X64.Equiv.SegmentDescriptor

/-!
# The guest segments

The fields that a launch writes for a segment come from the copy of its descriptor
(`loadedGdtMemory_load64`).  They are the state that the processor holds if no limit has to be scaled
and no limit bit stands in the rights (`segmentsHeld_iff`).
-/

namespace Zpp.Hypervisor

open X64 ByteMemory

variable {memory : ByteMemory 64} {intermediateGdt guestTss : Word} {gdtr : Gdtr}
  {osTr selector : BitVec 16} {r : SegmentRegisters}

/-! ### The table that `setup_vmcs` reads -/

theorem guestTrOf_of_present (h : taskStateSegmentPresent memory intermediateGdt gdtr osTr = true) :
    guestTrOf memory intermediateGdt gdtr osTr = osTr :=
  if_pos h

theorem guestTrOf_of_not_present
    (h : taskStateSegmentPresent memory intermediateGdt gdtr osTr = false) :
    guestTrOf memory intermediateGdt gdtr osTr = (trIndex gdtr <<< 3).setWidth 16 :=
  if_neg (Bool.eq_false_iff.mp h)

/-- The selector of the new TSS. -/
theorem toNat_newTr (gdtr : Gdtr) :
    ((trIndex gdtr <<< 3).setWidth 16 : BitVec 16).toNat =
      (gdtr.limit.toNat + 1) / 8 * 8 % 2 ^ 16 := by
  have hlimit := gdtr.limit.isLt
  rw [BitVec.toNat_setWidth, BitVec.toNat_shiftLeft, toNat_trIndex, Nat.shiftLeft_eq]
  omega

/-- The low three bits of a selector that is a multiple of eight are zero. -/
theorem and_mask_of_dvd {mask : BitVec 16} (hmask : ∀ i < 16, 3 ≤ i → mask.getLsbD i = true)
    (h : 8 ∣ selector.toNat) : selector &&& mask = selector := by
  apply BitVec.eq_of_getLsbD_eq
  intro i hi
  rw [BitVec.getLsbD_and]
  by_cases hlow : 3 ≤ i
  · rw [hmask i hi hlow, Bool.and_true]
  · obtain ⟨k, hk⟩ := h
    have hbit : selector.getLsbD i = false := by
      rw [BitVec.getLsbD, hk, show 8 = 2 ^ 3 from rfl, Nat.testBit_two_pow_mul,
        decide_eq_false (by omega), Bool.false_and]
    rw [hbit, Bool.false_and]

theorem descriptorOffset_of_dvd (h : 8 ∣ selector.toNat) :
    descriptorOffset selector = selector.toNat := by
  unfold descriptorOffset
  rw [and_mask_of_dvd (by decide) h]

theorem isGlobal_of_dvd (h : 8 ∣ selector.toNat) : IsGlobal selector := by
  have hand : selector &&& 0xfff8#16 = selector := and_mask_of_dvd (by decide) h
  unfold IsGlobal
  rw [← hand, BitVec.and_assoc]
  exact BitVec.and_zero

theorem isNull_iff_of_dvd (h : 8 ∣ selector.toNat) : IsNull selector ↔ selector = 0#16 := by
  unfold IsNull
  rw [and_mask_of_dvd (by decide) h]

/-- The new TSS stands behind the copy. -/
theorem newTr_of_not_null (h : ¬IsNull ((trIndex gdtr <<< 3).setWidth 16)) :
    ((trIndex gdtr <<< 3).setWidth 16 : BitVec 16).toNat = 8 * (trIndex gdtr).toNat ∧
      descriptorOffset ((trIndex gdtr <<< 3).setWidth 16) = 8 * (trIndex gdtr).toNat := by
  have hlimit := gdtr.limit.isLt
  have htoNat := toNat_newTr gdtr
  have hdvd : 8 ∣ ((trIndex gdtr <<< 3).setWidth 16 : BitVec 16).toNat := by omega
  have hne : ((trIndex gdtr <<< 3).setWidth 16 : BitVec 16).toNat ≠ 0 := fun hzero =>
    h ((isNull_iff_of_dvd hdvd).mpr (BitVec.eq_of_toNat_eq hzero))
  have hindex := toNat_trIndex gdtr
  have heq : ((trIndex gdtr <<< 3).setWidth 16 : BitVec 16).toNat = 8 * (trIndex gdtr).toNat := by
    omega
  exact ⟨heq, (descriptorOffset_of_dvd hdvd).trans heq⟩

/-- The entries of the OS GDT are in the table when `setup_vmcs` reads it. -/
theorem loadedGdtMemory_load64 {s : ℕ} (hs : s + 8 ≤ (gdtr.limit.toNat + 1) / 8 * 8) :
    (loadedGdtMemory memory intermediateGdt guestTss gdtr osTr).load64
        (intermediateGdt + BitVec.ofNat 64 s) =
      memory.load64 (gdtr.base + BitVec.ofNat 64 s) := by
  have hlimit := gdtr.limit.isLt
  have hindex := toNat_trIndex gdtr
  have hnew : (intermediateGdtMemory memory intermediateGdt guestTss gdtr osTr).load64
      (intermediateGdt + BitVec.ofNat 64 s) = memory.load64 (gdtr.base + BitVec.ofNat 64 s) :=
    intermediateGdtMemory_load64 hs
  unfold loadedGdtMemory ltr
  dsimp only
  split_ifs with hchanged hallowed
  · -- Loading the new TSS marks it busy, behind the entries of the OS.
    have hpresent : taskStateSegmentPresent memory intermediateGdt gdtr osTr = false := by
      rw [Bool.eq_false_iff]
      exact fun h => hchanged (guestTrOf_of_present h)
    rw [guestTrOf_of_not_present hpresent] at hallowed ⊢
    obtain ⟨-, hoffset⟩ := newTr_of_not_null hallowed.not_null
    unfold markBusy
    dsimp only [intermediateGdtr]
    rw [hoffset]
    unfold load64
    rw [load_store_add _ _ (by omega) (by omega) (by omega)]
    exact hnew
  · exact hnew
  · exact hnew

/-! ### The new TSS -/

/-- The descriptor needs no scaling and has no limit bit among the rights. -/
def IsPlain (d : SegmentDescriptor) : Prop := d.granularity = false ∧ d.limitHigh = 0#64

instance (d : SegmentDescriptor) : Decidable (IsPlain d) := inferInstanceAs (Decidable (_ ∧ _))

theorem taskStateSegment_fields (guestTss : Word) :
    (taskStateSegment guestTss).system = true ∧ (taskStateSegment guestTss).present = true ∧
      IsPlain (taskStateSegment guestTss) := by
  simp [taskStateSegment, guestTssSize, IsPlain, SegmentDescriptor.system, SegmentDescriptor.present,
    SegmentDescriptor.granularity, SegmentDescriptor.limitHigh, SegmentDescriptor.setLimit,
    SegmentDescriptor.setBaseExtended, SegmentDescriptor.setBase, SegmentDescriptor.setType,
    SegmentDescriptor.setSystem, SegmentDescriptor.setPrivilegeLevel, SegmentDescriptor.setPresent,
    SegmentDescriptor.setAvailableForSystemUse, SegmentDescriptor.setCode64Bit,
    SegmentDescriptor.setDefaultOperationSize, SegmentDescriptor.setGranularity]
  decide

/-- The fields do not depend on the busy bit. -/
theorem fields_of_busy {d d' : SegmentDescriptor}
    (h : d.entry = d'.entry ∨ d.entry = BitField.setFlag 41 d'.entry true) :
    d.system = d'.system ∧ d.present = d'.present ∧ (IsPlain d ↔ IsPlain d') := by
  unfold IsPlain SegmentDescriptor.system SegmentDescriptor.present SegmentDescriptor.granularity
    SegmentDescriptor.limitHigh
  rcases h with h | h
  · rw [h]
    exact ⟨rfl, rfl, Iff.rfl⟩
  · rw [h]
    simp

/-- The entry of the new TSS, as `setup_vmcs` reads it. -/
theorem loadedGdtMemory_newTr
    (hpresent : taskStateSegmentPresent memory intermediateGdt gdtr osTr = false)
    (hnull : ¬IsNull ((trIndex gdtr <<< 3).setWidth 16)) :
    let d := descriptorAt (loadedGdtMemory memory intermediateGdt guestTss gdtr osTr)
      intermediateGdt ((trIndex gdtr <<< 3).setWidth 16)
    d.system = true ∧ d.present = true ∧ IsPlain d := by
  have hlimit := gdtr.limit.isLt
  have hindex := toNat_trIndex gdtr
  obtain ⟨-, hoffset⟩ := newTr_of_not_null hnull
  have hentry : (intermediateGdtMemory memory intermediateGdt guestTss gdtr osTr).load64
      (intermediateGdt + BitVec.ofNat 64 (8 * (trIndex gdtr).toNat)) =
      (taskStateSegment guestTss).entry := by
    have hnext : (trIndex gdtr + 1#64).toNat = (trIndex gdtr).toNat + 1 := by
      rw [BitVec.toNat_add, hindex, BitVec.toNat_ofNat]
      omega
    unfold intermediateGdtMemory
    dsimp only
    rw [if_neg (Bool.eq_false_iff.mp hpresent), eight_mul_eq, eight_mul_eq, hnext]
    unfold load64
    rw [load_store_add _ _ (by omega) (by omega) (by omega)]
    exact load_store_self _ _ _ (by decide)
  have hbusy : (descriptorAt (loadedGdtMemory memory intermediateGdt guestTss gdtr osTr)
        intermediateGdt ((trIndex gdtr <<< 3).setWidth 16)).entry =
        (taskStateSegment guestTss).entry ∨
      (descriptorAt (loadedGdtMemory memory intermediateGdt guestTss gdtr osTr) intermediateGdt
        ((trIndex gdtr <<< 3).setWidth 16)).entry =
        BitField.setFlag 41 (taskStateSegment guestTss).entry true := by
    unfold descriptorAt loadedGdtMemory ltr
    dsimp only
    rw [hoffset]
    split_ifs with hchanged hallowed
    · right
      rw [guestTrOf_of_not_present hpresent]
      unfold markBusy descriptorAt
      dsimp only [intermediateGdtr]
      rw [hoffset, hentry]
      exact load_store_self _ _ _ (by decide)
    · exact .inl hentry
    · exact .inl hentry
  obtain ⟨hsystem, hp, hplain⟩ := taskStateSegment_fields guestTss
  obtain ⟨h₁, h₂, h₃⟩ := fields_of_busy hbusy
  exact ⟨h₁.trans hsystem, h₂.trans hp, h₃.mpr hplain⟩

/-! ### Segments that the OS has loaded -/

/-- A code or data selector: null, or that of a present segment in the GDT. -/
def SegmentLoaded (memory : ByteMemory 64) (gdtr : Gdtr) (selector : BitVec 16) : Prop :=
  IsNull selector ∨
    InGdt gdtr selector 8 ∧ (descriptorAt memory gdtr.base selector).system = false ∧
      (descriptorAt memory gdtr.base selector).present = true

/-- A system selector: null, or that of a present system segment in the GDT. -/
def SystemLoaded (memory : ByteMemory 64) (gdtr : Gdtr) (selector : BitVec 16) : Prop :=
  IsNull selector ∨
    InGdt gdtr selector 16 ∧ (descriptorAt memory gdtr.base selector).system = true ∧
      (descriptorAt memory gdtr.base selector).present = true

/-- The selectors were loaded from the GDT; that of the code segment is not null. -/
structure SegmentsLoaded (memory : ByteMemory 64) (r : SegmentRegisters) : Prop where
  cs_not_null : ¬IsNull r.cs
  cs : SegmentLoaded memory r.gdtr r.cs
  ds : SegmentLoaded memory r.gdtr r.ds
  es : SegmentLoaded memory r.gdtr r.es
  fs : SegmentLoaded memory r.gdtr r.fs
  gs : SegmentLoaded memory r.gdtr r.gs
  ss : SegmentLoaded memory r.gdtr r.ss
  ldtr : SystemLoaded memory r.gdtr r.guestLdtr
  tr : SystemLoaded memory r.gdtr r.osTr

theorem descriptorOffset_of_null (h : IsNull selector) : descriptorOffset selector = 0 := by
  have hand : selector &&& 0xfff8#16 = selector &&& 0xfffc#16 &&& 0xfff8#16 := by
    rw [BitVec.and_assoc]
    rfl
  unfold descriptorOffset
  rw [hand, h]
  rfl

theorem isGlobal_of_null (h : IsNull selector) : IsGlobal selector := by
  have hand : selector &&& 4#16 = selector &&& 0xfffc#16 &&& 4#16 := by
    rw [BitVec.and_assoc]
    rfl
  unfold IsGlobal
  rw [hand, h]
  rfl

theorem descriptorOffset_dvd (selector : BitVec 16) : 8 ∣ descriptorOffset selector := by
  have hlow : (selector &&& 0xfff8#16).toNat % 2 ^ 3 = 0 := by
    apply Nat.eq_of_testBit_eq
    intro i
    rw [Nat.testBit_mod_two_pow, Nat.zero_testBit]
    by_cases hi : i < 3
    · have hmask : ∀ i < 3, (0xfff8#16).getLsbD i = false := by decide
      have hbit : (selector &&& 0xfff8#16).getLsbD i = false := by
        rw [BitVec.getLsbD_and, hmask i hi, Bool.and_false]
      rw [show (selector &&& 0xfff8#16).toNat.testBit i = false from hbit, Bool.and_false]
    · rw [decide_eq_false hi, Bool.false_and]
  exact Nat.dvd_of_mod_eq_zero hlow

/-- The GDT has the descriptor of the code segment, so it has a first entry and one after it. -/
theorem SegmentsLoaded.limit (h : SegmentsLoaded memory r) : 16 ≤ r.gdtr.limit.toNat + 1 := by
  obtain ⟨⟨hglobal, hin⟩, -⟩ := h.cs.resolve_left h.cs_not_null
  have hdvd := descriptorOffset_dvd r.cs
  have hne : descriptorOffset r.cs ≠ 0 := by
    intro hzero
    refine h.cs_not_null ?_
    have hand : r.cs &&& 0xfff8#16 = 0#16 := BitVec.eq_of_toNat_eq hzero
    have hmask : r.cs &&& 0xfffc#16 = r.cs &&& 0xfff8#16 ||| r.cs &&& 4#16 := by
      rw [← BitVec.and_or_distrib_left]
      rfl
    unfold IsNull
    rw [hmask, hand, hglobal]
    rfl
  omega

theorem inGdt_of_null (hlimit : 16 ≤ gdtr.limit.toNat + 1) (h : IsNull selector) :
    InGdt gdtr selector 16 :=
  ⟨isGlobal_of_null h, by rw [descriptorOffset_of_null h]; exact hlimit⟩

/-- What `setup_vmcs` reads for a selector of the OS GDT. -/
theorem fromMemory_loaded (hne : selector ≠ 0#16) (h : InGdt gdtr selector 8) :
    (SegmentDescriptor.fromMemory (loadedGdtMemory memory intermediateGdt guestTss gdtr osTr)
      intermediateGdt selector).entry = (descriptorAt memory gdtr.base selector).entry := by
  have hdvd := descriptorOffset_dvd selector
  have hin := h.2
  rw [SegmentDescriptor.fromMemory_eq h.1 hne]
  exact loadedGdtMemory_load64 (by omega)

theorem fromMemory_loaded_system (hne : selector ≠ 0#16) (h : InGdt gdtr selector 16) :
    SegmentDescriptor.fromMemory (loadedGdtMemory memory intermediateGdt guestTss gdtr osTr)
      intermediateGdt selector = descriptorAt memory gdtr.base selector := by
  have hdvd := descriptorOffset_dvd selector
  have hin := h.2
  have hentry : (loadedGdtMemory memory intermediateGdt guestTss gdtr osTr).load64
      (intermediateGdt + BitVec.ofNat 64 (descriptorOffset selector)) =
      memory.load64 (gdtr.base + BitVec.ofNat 64 (descriptorOffset selector)) :=
    loadedGdtMemory_load64 (by omega)
  have hextended : (loadedGdtMemory memory intermediateGdt guestTss gdtr osTr).load64
      (intermediateGdt + BitVec.ofNat 64 (descriptorOffset selector + 8)) =
      memory.load64 (gdtr.base + BitVec.ofNat 64 (descriptorOffset selector + 8)) :=
    loadedGdtMemory_load64 (by omega)
  rw [BitVec.ofNat_add, ← BitVec.add_assoc, ← BitVec.add_assoc] at hextended
  rw [SegmentDescriptor.fromMemory_eq h.1 hne]
  unfold descriptorAt
  rw [SegmentDescriptor.mk.injEq]
  exact ⟨hentry, hextended⟩

/-- The entry read for a selector that was loaded, or for a null selector. -/
theorem SegmentLoaded.entry (hlimit : 16 ≤ gdtr.limit.toNat + 1) (h : SegmentLoaded memory gdtr selector)
    (hne : selector ≠ 0#16) :
    (SegmentDescriptor.fromMemory (loadedGdtMemory memory intermediateGdt guestTss gdtr osTr)
      intermediateGdt selector).entry = (descriptorAt memory gdtr.base selector).entry := by
  rcases h with hnull | ⟨hin, -⟩
  · rw [fromMemory_loaded_system hne (inGdt_of_null hlimit hnull)]
  · exact fromMemory_loaded hne hin

theorem SystemLoaded.descriptor (hlimit : 16 ≤ gdtr.limit.toNat + 1)
    (h : SystemLoaded memory gdtr selector) (hne : selector ≠ 0#16) :
    SegmentDescriptor.fromMemory (loadedGdtMemory memory intermediateGdt guestTss gdtr osTr)
      intermediateGdt selector = descriptorAt memory gdtr.base selector := by
  rcases h with hnull | ⟨hin, -⟩
  · exact fromMemory_loaded_system hne (inGdt_of_null hlimit hnull)
  · exact fromMemory_loaded_system hne hin

/-! ### The fields of one segment -/

/-- The fields are those of the segment that the processor holds; of a null segment the rights only,
which are unusable. -/
structure Held (selector : BitVec 16) (state : HiddenSegment) (segment : GuestSegment) : Prop where
  selector_eq : segment.selector = selector
  of_null : IsNull selector → segment.state.accessRights = unusable
  of_not_null : ¬IsNull selector → segment.state = state

/-- Nothing in the descriptor of the selector is lost or misplaced when `setup_vmcs` writes it. -/
def DescriptorPlain (d : SegmentDescriptor) (selector : BitVec 16) : Prop :=
  if IsNull selector then selector = 0#16 ∨ BitField.get 40 0xffff#64 d.entry = 0#64 else IsPlain d

instance (d : SegmentDescriptor) (selector : BitVec 16) : Decidable (DescriptorPlain d selector) := by
  unfold DescriptorPlain
  infer_instance

/-- The state of a segment is written if its descriptor is plain, given its base. -/
theorem held_iff {m : ByteMemory 64} {base : Word} {d : SegmentDescriptor} {state : HiddenSegment}
    {segment : GuestSegment}
    (hlimit : segment.state.limit = (SegmentDescriptor.fromMemory m base selector).limit)
    (hrights : segment.state.accessRights =
      (SegmentDescriptor.fromMemory m base selector).vmxAccessRights)
    (hentry : selector ≠ 0#16 → (SegmentDescriptor.fromMemory m base selector).entry = d.entry)
    (hpresent : ¬IsNull selector → d.present = true) (hstate : state.limit = byteLimit d)
    (hstateRights : state.accessRights = accessRights d)
    (hselector : segment.selector = selector)
    (hbase : ¬IsNull selector → segment.state.base = state.base) :
    Held selector state segment ↔ DescriptorPlain d selector := by
  have hlimit' : selector ≠ 0#16 → segment.state.limit = d.limit := by
    intro hne
    rw [hlimit]
    unfold SegmentDescriptor.limit SegmentDescriptor.limitLow SegmentDescriptor.limitHigh
    rw [hentry hne]
  have hrights' : selector ≠ 0#16 → segment.state.accessRights = d.vmxAccessRights := by
    intro hne
    rw [hrights]
    unfold SegmentDescriptor.vmxAccessRights SegmentDescriptor.present
    rw [hentry hne]
  unfold DescriptorPlain
  by_cases hnull : IsNull selector
  · rw [if_pos hnull]
    by_cases hzero : selector = 0#16
    · refine iff_of_true ⟨hselector, fun _ => ?_, fun h => absurd hnull h⟩ (.inl hzero)
      rw [hrights, SegmentDescriptor.fromMemory, if_pos hzero]
      rfl
    · rw [or_iff_right hzero, ← SegmentDescriptor.vmxAccessRights_eq_unusable_iff, ← hrights' hzero]
      exact ⟨fun h => h.of_null hnull, fun h => ⟨hselector, fun _ => h, fun h => absurd hnull h⟩⟩
  · have hne : selector ≠ 0#16 := not_isNull_ne_zero hnull
    have hheld : Held selector state segment ↔ segment.state = state :=
      ⟨fun h => h.of_not_null hnull, fun h => ⟨hselector, fun h' => absurd h' hnull, fun _ => h⟩⟩
    rw [if_neg hnull, hheld]
    unfold IsPlain
    rw [← SegmentDescriptor.limit_eq_byteLimit_iff,
      ← SegmentDescriptor.vmxAccessRights_eq_iff (hpresent hnull), ← hlimit' hne, ← hrights' hne,
      ← hstate, ← hstateRights]
    constructor
    · intro h
      rw [h]
      exact ⟨rfl, rfl⟩
    · rintro ⟨h₁, h₂⟩
      calc segment.state = ⟨segment.state.base, segment.state.limit, segment.state.accessRights⟩ := rfl
        _ = ⟨state.base, state.limit, state.accessRights⟩ := by rw [hbase hnull, h₁, h₂]
        _ = state := rfl

section

variable (hlimit : 16 ≤ gdtr.limit.toNat + 1)

include hlimit

theorem SegmentLoaded.base (h : SegmentLoaded memory gdtr selector) (hnull : ¬IsNull selector) :
    (SegmentDescriptor.fromMemory (loadedGdtMemory memory intermediateGdt guestTss gdtr osTr)
      intermediateGdt selector).contextDependentBase =
      (descriptorAt memory gdtr.base selector).base :=
  SegmentDescriptor.contextDependentBase_of_entry (h.entry hlimit (not_isNull_ne_zero hnull))
    (h.resolve_left hnull).2.1

/-- The fields of a code or data segment with its own base. -/
theorem guestSegment_held_iff (h : SegmentLoaded memory gdtr selector) :
    Held selector (hiddenSegment (descriptorAt memory gdtr.base selector))
        (guestSegment (loadedGdtMemory memory intermediateGdt guestTss gdtr osTr) intermediateGdt
          selector) ↔
      DescriptorPlain (descriptorAt memory gdtr.base selector) selector :=
  held_iff rfl rfl (h.entry hlimit) (fun hnull => (h.resolve_left hnull).2.2) rfl rfl rfl
    (h.base hlimit)

/-- The fields of a segment with its base in an MSR. -/
theorem guestSegment_held_msr_iff {base : Word} {segment : GuestSegment}
    (h : SegmentLoaded memory gdtr selector)
    (hsegment : segment = guestSegment (loadedGdtMemory memory intermediateGdt guestTss gdtr osTr)
      intermediateGdt selector ∨ segment = ⟨selector, { (guestSegment (loadedGdtMemory memory
        intermediateGdt guestTss gdtr osTr) intermediateGdt selector).state with base }⟩)
    (hbase : segment.state.base = base) :
    Held selector { hiddenSegment (descriptorAt memory gdtr.base selector) with base } segment ↔
      DescriptorPlain (descriptorAt memory gdtr.base selector) selector := by
  rcases hsegment with rfl | rfl <;>
    exact held_iff rfl rfl (h.entry hlimit) (fun hnull => (h.resolve_left hnull).2.2) rfl rfl rfl
      (fun _ => hbase)

/-- The fields of a system segment of the OS. -/
theorem guestSegment_held_system_iff (h : SystemLoaded memory gdtr selector) :
    Held selector (hiddenSystemSegment (descriptorAt memory gdtr.base selector))
        (guestSegment (loadedGdtMemory memory intermediateGdt guestTss gdtr osTr) intermediateGdt
          selector) ↔
      DescriptorPlain (descriptorAt memory gdtr.base selector) selector := by
  refine held_iff rfl rfl (fun hne => by rw [h.descriptor hlimit hne])
    (fun hnull => (h.resolve_left hnull).2.2) rfl rfl rfl fun hnull => ?_
  show (SegmentDescriptor.fromMemory _ _ selector).contextDependentBase = _
  rw [h.descriptor hlimit (not_isNull_ne_zero hnull),
    SegmentDescriptor.contextDependentBase_of_system (h.resolve_left hnull).2.1]
  rfl

/-- The base of a segment, as `setup_vmcs` reads it, in the OS GDT. -/
theorem SegmentLoaded.contextDependentBase (h : SegmentLoaded memory gdtr selector) :
    (SegmentDescriptor.fromMemory (loadedGdtMemory memory intermediateGdt guestTss gdtr osTr)
      intermediateGdt selector).contextDependentBase =
      (SegmentDescriptor.fromMemory memory gdtr.base selector).contextDependentBase := by
  by_cases hzero : selector = 0#16
  · unfold SegmentDescriptor.fromMemory
    rw [if_pos hzero, if_pos hzero]
  · by_cases hnull : IsNull selector
    · rw [fromMemory_loaded_system hzero (inGdt_of_null hlimit hnull),
        SegmentDescriptor.fromMemory_eq (isGlobal_of_null hnull) hzero]
    · obtain ⟨hin, hsystem, -⟩ := h.resolve_left hnull
      rw [h.base hlimit hnull, SegmentDescriptor.fromMemory_eq hin.1 hzero,
        SegmentDescriptor.contextDependentBase_of_entry rfl hsystem]

end

/-! ### The task register -/

/-- The descriptor of the TSS that the processor holds when `setup_vmcs` runs. -/
def trDescriptor (memory : ByteMemory 64) (intermediateGdt guestTss : Word) (gdtr : Gdtr)
    (osTr : BitVec 16) : SegmentDescriptor :=
  if taskStateSegmentPresent memory intermediateGdt gdtr osTr then descriptorAt memory gdtr.base osTr
  else
    descriptorAt (loadedGdtMemory memory intermediateGdt guestTss gdtr osTr) intermediateGdt
      (guestTrOf memory intermediateGdt gdtr osTr)

/-- The fields of the task register: those of the new TSS are always right. -/
theorem guestTr_held_iff (hlimit : 16 ≤ gdtr.limit.toNat + 1) (h : SystemLoaded memory gdtr osTr) :
    Held (guestTrOf memory intermediateGdt gdtr osTr)
        (hiddenSystemSegment (trDescriptor memory intermediateGdt guestTss gdtr osTr))
        (guestSegment (loadedGdtMemory memory intermediateGdt guestTss gdtr osTr) intermediateGdt
          (guestTrOf memory intermediateGdt gdtr osTr)) ↔
      (taskStateSegmentPresent memory intermediateGdt gdtr osTr = true →
        DescriptorPlain (descriptorAt memory gdtr.base osTr) osTr) := by
  unfold trDescriptor
  cases hpresent : taskStateSegmentPresent memory intermediateGdt gdtr osTr with
  | true =>
    rw [guestTrOf_of_present hpresent, if_pos rfl, guestSegment_held_system_iff hlimit h]
    exact ⟨fun hplain _ => hplain, fun hplain => hplain rfl⟩
  | false =>
    rw [guestTrOf_of_not_present hpresent, if_neg Bool.false_ne_true]
    refine iff_of_true ?_ fun hfalse => absurd hfalse Bool.false_ne_true
    have hdvd : 8 ∣ ((trIndex gdtr <<< 3).setWidth 16 : BitVec 16).toNat := by
      have hnewTr := toNat_newTr gdtr
      omega
    have hread : ((trIndex gdtr <<< 3).setWidth 16 : BitVec 16) ≠ 0#16 →
        SegmentDescriptor.fromMemory (loadedGdtMemory memory intermediateGdt guestTss gdtr osTr)
            intermediateGdt ((trIndex gdtr <<< 3).setWidth 16) =
          descriptorAt (loadedGdtMemory memory intermediateGdt guestTss gdtr osTr) intermediateGdt
            ((trIndex gdtr <<< 3).setWidth 16) :=
      fun hne => SegmentDescriptor.fromMemory_eq (isGlobal_of_dvd hdvd) hne _ _
    refine (held_iff rfl rfl (fun hne => by rw [hread hne])
      (fun hnull => (loadedGdtMemory_newTr hpresent hnull).2.1) rfl rfl rfl fun hnull => ?_).mpr ?_
    · show (SegmentDescriptor.fromMemory _ _ _).contextDependentBase = _
      rw [hread (not_isNull_ne_zero hnull),
        SegmentDescriptor.contextDependentBase_of_system (loadedGdtMemory_newTr hpresent hnull).1]
      rfl
    · unfold DescriptorPlain
      split_ifs with hnull
      · exact .inl ((isNull_iff_of_dvd hdvd).mp hnull)
      · exact (loadedGdtMemory_newTr hpresent hnull).2.2

/-! ### The guest starts with the segments of the OS -/

/-- The guest fields are the segments that the processor holds. -/
structure SegmentsHeld (memory : ByteMemory 64) (intermediateGdt guestTss : Word)
    (r : SegmentRegisters) (g : GuestSegments) : Prop where
  cs : Held r.cs (hiddenSegment (descriptorAt memory r.gdtr.base r.cs)) g.cs
  ds : Held r.ds (hiddenSegment (descriptorAt memory r.gdtr.base r.ds)) g.ds
  es : Held r.es (hiddenSegment (descriptorAt memory r.gdtr.base r.es)) g.es
  ss : Held r.ss (hiddenSegment (descriptorAt memory r.gdtr.base r.ss)) g.ss
  fs : Held r.fs
    { hiddenSegment (descriptorAt memory r.gdtr.base r.fs) with base := r.ia32FsBase } g.fs
  fsBase : g.fs.state.base = r.ia32FsBase
  gs : Held r.gs
    { hiddenSegment (descriptorAt memory r.gdtr.base r.gs) with base := r.ia32GsBase } g.gs
  gsBase : g.gs.state.base = r.ia32GsBase
  ldtr : Held r.guestLdtr (hiddenSystemSegment (descriptorAt memory r.gdtr.base r.guestLdtr)) g.ldtr
  tr : Held (guestTrOf memory intermediateGdt r.gdtr r.osTr)
    (hiddenSystemSegment (trDescriptor memory intermediateGdt guestTss r.gdtr r.osTr)) g.tr

/-- No descriptor of a selector needs scaling or masking, and the FS descriptor has the FS base. -/
structure SegmentsPlain (memory : ByteMemory 64) (intermediateGdt : Word) (r : SegmentRegisters) :
    Prop where
  cs : DescriptorPlain (descriptorAt memory r.gdtr.base r.cs) r.cs
  ds : DescriptorPlain (descriptorAt memory r.gdtr.base r.ds) r.ds
  es : DescriptorPlain (descriptorAt memory r.gdtr.base r.es) r.es
  ss : DescriptorPlain (descriptorAt memory r.gdtr.base r.ss) r.ss
  fs : DescriptorPlain (descriptorAt memory r.gdtr.base r.fs) r.fs
  fsBase : (SegmentDescriptor.fromMemory memory r.gdtr.base r.fs).contextDependentBase = r.ia32FsBase
  gs : DescriptorPlain (descriptorAt memory r.gdtr.base r.gs) r.gs
  ldtr : DescriptorPlain (descriptorAt memory r.gdtr.base r.guestLdtr) r.guestLdtr
  tr : taskStateSegmentPresent memory intermediateGdt r.gdtr r.osTr = true →
    DescriptorPlain (descriptorAt memory r.gdtr.base r.osTr) r.osTr

/-- The guest starts with the segments that the processor holds, if and only if the descriptors are
plain and the FS base is that of the descriptor. -/
theorem segmentsHeld_iff (h : SegmentsLoaded memory r) :
    SegmentsHeld memory intermediateGdt guestTss r
        (launchSegments memory intermediateGdt guestTss r) ↔
      SegmentsPlain memory intermediateGdt r := by
  have hlimit := h.limit
  constructor
  · intro hheld
    have hfsBase := hheld.fsBase
    exact
      { cs := (guestSegment_held_iff hlimit h.cs).mp hheld.cs
        ds := (guestSegment_held_iff hlimit h.ds).mp hheld.ds
        es := (guestSegment_held_iff hlimit h.es).mp hheld.es
        ss := (guestSegment_held_iff hlimit h.ss).mp hheld.ss
        fs := (guestSegment_held_msr_iff hlimit h.fs (.inl rfl) hfsBase).mp hheld.fs
        fsBase := (h.fs.contextDependentBase hlimit).symm.trans hfsBase
        gs := (guestSegment_held_msr_iff hlimit h.gs (.inr rfl) rfl).mp hheld.gs
        ldtr := (guestSegment_held_system_iff hlimit h.ldtr).mp hheld.ldtr
        tr := (guestTr_held_iff hlimit h.tr).mp hheld.tr }
  · intro hplain
    have hfsBase : (launchSegments memory intermediateGdt guestTss r).fs.state.base =
        r.ia32FsBase := (h.fs.contextDependentBase hlimit).trans hplain.fsBase
    exact
      { cs := (guestSegment_held_iff hlimit h.cs).mpr hplain.cs
        ds := (guestSegment_held_iff hlimit h.ds).mpr hplain.ds
        es := (guestSegment_held_iff hlimit h.es).mpr hplain.es
        ss := (guestSegment_held_iff hlimit h.ss).mpr hplain.ss
        fs := (guestSegment_held_msr_iff hlimit h.fs (.inl rfl) hfsBase).mpr hplain.fs
        fsBase := hfsBase
        gs := (guestSegment_held_msr_iff hlimit h.gs (.inr rfl) rfl).mpr hplain.gs
        gsBase := rfl
        ldtr := (guestSegment_held_system_iff hlimit h.ldtr).mpr hplain.ldtr
        tr := (guestTr_held_iff hlimit h.tr).mpr hplain.tr }

/-- An OS GDT at `0x8000` with a code segment at `0x10` and a busy TSS at `0x40`. -/
def codeAndTss : ByteMemory 64 := fun x =>
  if x = 0x8015#64 then 0x9a#8
  else if x = 0x8016#64 then 0x20#8
  else if x = 0x8045#64 then 0x8b#8
  else 0#8

/-- The registers of a kernel with null data segments. -/
def nullDataSegments (ia32FsBase : Word) : SegmentRegisters where
  cs := 0x10#16
  ds := 0#16
  es := 0#16
  fs := 0#16
  gs := 0#16
  ss := 0#16
  gdtr := ⟨0x8000#64, 0x7f#16⟩
  guestLdtr := 0#16
  osTr := 0x40#16
  ia32FsBase
  ia32GsBase := 0xffff800000001000#64

theorem segmentsLoaded_nullDataSegments (ia32FsBase : Word) :
    SegmentsLoaded codeAndTss (nullDataSegments ia32FsBase) := by
  have hnull : SegmentLoaded codeAndTss ⟨0x8000#64, 0x7f#16⟩ 0#16 := .inl (by decide)
  have hcs : InGdt ⟨0x8000#64, 0x7f#16⟩ 0x10#16 8 ∧
      (descriptorAt codeAndTss 0x8000#64 0x10#16).system = false ∧
      (descriptorAt codeAndTss 0x8000#64 0x10#16).present = true := by decide +kernel
  have htr : InGdt ⟨0x8000#64, 0x7f#16⟩ 0x40#16 16 ∧
      (descriptorAt codeAndTss 0x8000#64 0x40#16).system = true ∧
      (descriptorAt codeAndTss 0x8000#64 0x40#16).present = true := by decide +kernel
  have hldtr : SystemLoaded codeAndTss ⟨0x8000#64, 0x7f#16⟩ 0#16 := .inl (by decide)
  have hcs_not_null : ¬IsNull 0x10#16 := by decide
  exact
    { cs_not_null := hcs_not_null
      cs := .inr hcs
      ds := hnull
      es := hnull
      fs := hnull
      gs := hnull
      ss := hnull
      ldtr := hldtr
      tr := .inr htr }

theorem not_segmentsHeld_fsBase :
    ∃ r, SegmentsLoaded codeAndTss r ∧
      ¬SegmentsHeld codeAndTss 0x510000#64 0x900000#64 r
        (launchSegments codeAndTss 0x510000#64 0x900000#64 r) := by
  refine ⟨nullDataSegments 0x7f0000001000#64, segmentsLoaded_nullDataSegments _, fun h => ?_⟩
  have hbase : 0#64 = 0x7f0000001000#64 := h.fsBase
  exact absurd hbase (by decide)

theorem segmentsHeld_nullDataSegments :
    SegmentsHeld codeAndTss 0x510000#64 0x900000#64 (nullDataSegments 0#64)
      (launchSegments codeAndTss 0x510000#64 0x900000#64 (nullDataSegments 0#64)) := by
  have hnull : DescriptorPlain (descriptorAt codeAndTss 0x8000#64 0#16) 0#16 := by decide +kernel
  refine (segmentsHeld_iff (segmentsLoaded_nullDataSegments 0#64)).mpr ?_
  exact
    { cs := by decide +kernel
      ds := hnull
      es := hnull
      ss := hnull
      fs := hnull
      fsBase := rfl
      gs := hnull
      ldtr := hnull
      tr := fun _ => by decide +kernel }

end Zpp.Hypervisor
