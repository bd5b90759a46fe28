import ZppHypervisor.Hypervisor.Equiv.GuestSegments
import ZppHypervisor.Hypervisor.Equiv.Main
import ZppHypervisor.X64.Equiv.SegmentDescriptorFields

/-!
# The intermediate GDT extends the OS GDT

After `initialize_intermediate_gdt` the table has the descriptors of the OS and, if there is no present
TSS among them, one more behind them (`initializeIntermediateGdt_extends`).
-/

namespace Zpp.Hypervisor

open X64 ByteMemory ScopeGuard Block
open X64.SegmentDescriptor (fields Fields applyAll fields_applyAll fromMemory_storeAt storeAt)

variable {memory : ByteMemory 64} {intermediateGdt guestTss : Word} {gdtr : Gdtr}
  {osTr : BitVec 16}

/-- The OS has a present descriptor for its task register. -/
def OsTssPresent (memory : ByteMemory 64) (gdtr : Gdtr) (osTr : BitVec 16) : Prop :=
  osTr ≠ 0#16 ∧ (descriptorAt memory gdtr.base osTr).present = true

instance (memory : ByteMemory 64) (gdtr : Gdtr) (osTr : BitVec 16) :
    Decidable (OsTssPresent memory gdtr osTr) := inferInstanceAs (Decidable (_ ∧ _))

theorem taskStateSegmentPresent_iff (hin : InGdt gdtr osTr 8) :
    taskStateSegmentPresent memory intermediateGdt gdtr osTr = true ↔
      OsTssPresent memory gdtr osTr := by
  unfold taskStateSegmentPresent OsTssPresent
  by_cases hzero : osTr = 0#16
  · subst hzero
    have hempty : (SegmentDescriptor.fromMemory (copyGdt memory intermediateGdt gdtr) intermediateGdt
        0#16).present = false := by
      unfold SegmentDescriptor.fromMemory
      rw [if_pos rfl]
      decide
    exact iff_of_false (Bool.eq_false_iff.mp hempty) fun h => h.1 rfl
  · rw [SegmentDescriptor.fromMemory_eq hin.1 hzero, SegmentDescriptor.present, copyGdt_entry hin]
    exact (and_iff_right hzero).symm

/-! ### The new TSS -/

/-- An available system segment for `guest_tss`, present and byte-granular. -/
def tssFields (guestTss : Word) : Fields where
  limit := guestTssSize - 1#64
  baseExtended := guestTss
  type := SegmentDescriptor.tssAvailable
  system := true
  privilegeLevel := 0#64
  present := true
  availableForSystemUse := false
  code64Bit := false
  defaultOperationSize := false
  granularity := false

theorem fields_taskStateSegment (guestTss : Word) :
    (taskStateSegment guestTss).fields = tssFields guestTss := by
  have happly : taskStateSegment guestTss = applyAll (tssFields guestTss).setters {} := rfl
  rw [happly]
  have hlimit : (guestTssSize - 1#64).toNat < 2 ^ 20 := by decide
  have htype : SegmentDescriptor.tssAvailable.toNat < 2 ^ 4 := by decide
  have hlevel : (0#64).toNat < 2 ^ 2 := by decide
  exact fields_applyAll ⟨hlimit, htype, hlevel⟩ {}

/-- What there is about a new TSS: its selector, the limit of the table, and its descriptor. -/
structure NewTss (memory : ByteMemory 64) (intermediateGdt guestTss : Word) (osLimit limit : ℕ)
    (guestTr : BitVec 16) : Prop where
  not_null : ¬IsNull guestTr
  global : IsGlobal guestTr
  inside : descriptorOffset guestTr + 16 ≤ limit + 1
  apart : ∀ i, 8 * i + 8 ≤ osLimit + 1 → 8 * i + 8 ≤ descriptorOffset guestTr
  fields : (SegmentDescriptor.fromMemory memory intermediateGdt guestTr).fields = tssFields guestTss

/-- The selector of the new TSS, for a limit that leaves room for it. -/
theorem toNat_newTr_of_le (hlimit : gdtr.limit.toNat ≤ 0xffef) :
    ((trIndex gdtr <<< 3).setWidth 16 : BitVec 16).toNat = 8 * ((gdtr.limit.toNat + 1) / 8) := by
  rw [toNat_newTr]
  omega

theorem newTss (hlow : 7 ≤ gdtr.limit.toNat) (hlimit : gdtr.limit.toNat ≤ 0xffef)
    (hpresent : taskStateSegmentPresent memory intermediateGdt gdtr osTr = false) :
    NewTss (intermediateGdtMemory memory intermediateGdt guestTss gdtr osTr) intermediateGdt guestTss
      gdtr.limit.toNat (gdtr.limit.toNat + 16) (guestTrOf memory intermediateGdt gdtr osTr) := by
  have htoNat := toNat_newTr_of_le hlimit
  have hdvd : 8 ∣ ((trIndex gdtr <<< 3).setWidth 16 : BitVec 16).toNat := by omega
  have hne : (trIndex gdtr <<< 3).setWidth 16 ≠ 0#16 := fun h => by
    rw [h, BitVec.toNat_ofNat] at htoNat
    omega
  have hoffset := (descriptorOffset_of_dvd hdvd).trans htoNat
  rw [guestTrOf_of_not_present hpresent]
  constructor
  · exact (isNull_iff_of_dvd hdvd).not.mpr hne
  · exact isGlobal_of_dvd hdvd
  · omega
  · intro i hi
    omega
  · -- The descriptor was stored in the two slots behind the copy.
    have hselector : (trIndex gdtr <<< 3).setWidth 16 =
        BitVec.ofNat 16 (8 * ((gdtr.limit.toNat + 1) / 8) + 0) := by
      rw [← BitVec.toNat_inj, htoNat, BitVec.toNat_ofNat]
      omega
    have hmemory : intermediateGdtMemory memory intermediateGdt guestTss gdtr osTr =
        storeAt (copyGdt memory intermediateGdt gdtr) intermediateGdt
          ((gdtr.limit.toNat + 1) / 8) (taskStateSegment guestTss) := by
      unfold intermediateGdtMemory storeAt
      dsimp only
      rw [if_neg (Bool.eq_false_iff.mp hpresent), eight_mul_eq, eight_mul_eq,
        toNat_trIndex_add_one, toNat_trIndex]
    rw [hmemory, hselector, fromMemory_storeAt _ _ (by omega) (by omega) (by omega)]
    exact fields_taskStateSegment guestTss

/-! ### The rows of the other CPUs -/

/-- The size of the row of a CPU, `0x2000` slots. -/
def rowSize : ℕ := 0x10000

theorem intermediateGdtMemory_of_not_mem_row (hlimit : gdtr.limit.toNat ≤ 0xffef) {x : Word}
    (hx : x ∉ Region intermediateGdt rowSize) :
    intermediateGdtMemory memory intermediateGdt guestTss gdtr osTr x = memory x := by
  have hcopy : copyGdt memory intermediateGdt gdtr x = memory x := by
    unfold copyGdt copy
    refine if_neg fun hmem => hx ?_
    unfold rowSize
    rw [mem_region]
    omega
  have hslot : ∀ i : Word, 8 * i.toNat + 8 ≤ rowSize → x ∉ Region (intermediateGdt + 8#64 * i) 8 := by
    intro i hi hmem
    rw [eight_mul_eq] at hmem
    exact hx (region_add_subset hi (by decide) hmem)
  have hindex := toNat_trIndex gdtr
  have hnext := toNat_trIndex_add_one gdtr
  unfold rowSize at hslot
  unfold intermediateGdtMemory
  dsimp only
  split_ifs
  · exact hcopy
  · rw [store_of_not_mem _ _ (hslot _ (by omega)), store_of_not_mem _ _ (hslot _ (by omega)), hcopy]

/-- The rows of different CPUs have no byte in common. -/
theorem not_mem_row (layout : Layout) {i j : Word} (hi : i.toNat < maxCpus) (hj : j.toNat < maxCpus)
    (hne : j ≠ i) {x : Word} (hx : x ∈ Region (layout.intermediateGdt j) rowSize) :
    x ∉ Region (layout.intermediateGdt i) rowSize := by
  have hrow : ∀ i : Word, 0x10000#64 * i = BitVec.ofNat 64 (0x10000 * i.toNat) := fun i => by
    rw [BitVec.ofNat_mul, BitVec.ofNat_toNat, BitVec.setWidth_eq]
  have hne' : j.toNat ≠ i.toNat := fun h => hne (BitVec.eq_of_toNat_eq h)
  unfold maxCpus at hi hj
  unfold Layout.intermediateGdt rowSize at hx ⊢
  rw [hrow] at hx ⊢
  exact not_mem_region_add (by omega) (by omega) (by omega) hx

/-- The task segments are behind the rows. -/
theorem not_mem_row_of_guestTss (layout : Layout) {i j : Word} (hi : i.toNat < maxCpus)
    (hj : j.toNat < maxCpus) {x : Word} (hx : x ∈ Region (layout.guestTss j) guestTssSize.toNat) :
    x ∉ Region (layout.intermediateGdt i) rowSize := by
  have hrow : 0x10000#64 * i = BitVec.ofNat 64 (0x10000 * i.toNat) := by
    rw [BitVec.ofNat_mul, BitVec.ofNat_toNat, BitVec.setWidth_eq]
  have htss : layout.guestTss j =
      layout.ept.unprotectedMemory + BitVec.ofNat 64 (0x100000 + 104 * j.toNat) := by
    rw [Layout.guestTss, guestTssSize, BitVec.ofNat_add, BitVec.ofNat_mul, BitVec.ofNat_toNat,
      BitVec.setWidth_eq, BitVec.add_assoc]
  have hsize : guestTssSize.toNat = 104 := rfl
  unfold maxCpus at hi hj
  rw [htss, hsize] at hx
  unfold Layout.intermediateGdt rowSize
  rw [hrow]
  exact not_mem_region_add (by omega) (by omega) (by omega) hx

/-! ### The whole function -/

/-- The intermediate GDT in the memory `m` extends the OS GDT, for the members of the object before and
after `initialize_intermediate_gdt` on the CPU `i`. -/
structure ExtendsOsGdt (memory m : ByteMemory 64) (layout : Layout) (i : Word) (o o' : Object) :
    Prop where
  slots : ∀ k, 8 * k + 8 ≤ o.gdtr.limit.toNat + 1 →
    m.load64 (layout.intermediateGdt i + BitVec.ofNat 64 (8 * k)) =
      memory.load64 (o.gdtr.base + BitVec.ofNat 64 (8 * k))
  present : OsTssPresent memory o.gdtr o.osTr → o'.guestTr = o.osTr ∧
    o'.guestGdtLimit = o.gdtr.limit.setWidth 64 ∧ o'.intermediateGdtLimit = o.gdtr.limit.setWidth 64
  absent : ¬OsTssPresent memory o.gdtr o.osTr →
    o'.guestGdtLimit = o'.intermediateGdtLimit ∧ o'.intermediateGdtLimit.toNat < 2 ^ 16 ∧
      NewTss m (layout.intermediateGdt i) (layout.guestTss i) o.gdtr.limit.toNat
        o'.intermediateGdtLimit.toNat o'.guestTr
  others : ∀ j : Word, j.toNat < maxCpus → j ≠ i → ∀ x,
    x ∈ Region (layout.intermediateGdt j) rowSize ∨
      x ∈ Region (layout.guestTss j) guestTssSize.toNat → m x = memory x

/-- **The intermediate GDT extends the OS GDT.** -/
theorem initializeIntermediateGdt_extends (p : Platform) (s : Frame Machine)
    (hcpu : (s.state.object.nextVirtualProcessor - 1#64).toNat < maxCpus)
    (hlow : 7 ≤ s.state.object.gdtr.limit.toNat) (hlimit : s.state.object.gdtr.limit.toNat ≤ 0xffef)
    (hin : InGdt s.state.object.gdtr s.state.object.osTr 8) :
    ∃ m, initializeIntermediateGdt (p.onGdt memory s.state.object) s = .next () ⟨m, s.guards⟩ ∧
      ExtendsOsGdt memory
        (intermediateGdtMemory memory
          (p.layout.intermediateGdt (s.state.object.nextVirtualProcessor - 1#64))
          (p.layout.guestTss (s.state.object.nextVirtualProcessor - 1#64)) s.state.object.gdtr
          s.state.object.osTr)
        p.layout (s.state.object.nextVirtualProcessor - 1#64) s.state.object m.object := by
  have hslots : ∀ k, 8 * k + 8 ≤ s.state.object.gdtr.limit.toNat + 1 →
      8 * k + 8 ≤ (s.state.object.gdtr.limit.toNat + 1) / 8 * 8 := by
    intro k hk
    omega
  have hothers : ∀ j : Word, j.toNat < maxCpus → j ≠ s.state.object.nextVirtualProcessor - 1#64 →
      ∀ x, x ∈ Region (p.layout.intermediateGdt j) rowSize ∨
        x ∈ Region (p.layout.guestTss j) guestTssSize.toNat →
      x ∉ Region (p.layout.intermediateGdt (s.state.object.nextVirtualProcessor - 1#64)) rowSize := by
    intro j hj hne x hx
    rcases hx with hx | hx
    · exact not_mem_row p.layout hcpu hj hne hx
    · exact not_mem_row_of_guestTss p.layout hcpu hj hx
  have hpresent : taskStateSegmentPresent memory
      (p.layout.intermediateGdt (s.state.object.nextVirtualProcessor - 1#64)) s.state.object.gdtr
      s.state.object.osTr = true ↔ OsTssPresent memory s.state.object.gdtr s.state.object.osTr :=
    taskStateSegmentPresent_iff hin
  unfold initializeIntermediateGdt
  simp only [bind_apply, this_apply, use_apply]
  split_ifs with hanswer
  · refine ⟨_, rfl, fun k hk => intermediateGdtMemory_load64 (hslots k hk), fun _ => ⟨rfl, rfl, rfl⟩,
      fun habsent => absurd (hpresent.mp hanswer) habsent, fun j hj hne x hx =>
        intermediateGdtMemory_of_not_mem_row hlimit (hothers j hj hne x hx)⟩
  · have hwidth : (s.state.object.gdtr.limit.setWidth 64 + 2#64 * 8#64 : Word).toNat =
        s.state.object.gdtr.limit.toNat + 16 := by
      rw [BitVec.toNat_add, BitVec.toNat_setWidth]
      show (_ + 16) % _ = _
      omega
    have hfalse := Bool.eq_false_iff.mpr hanswer
    have hnew := @newTss _ _ (p.layout.guestTss (s.state.object.nextVirtualProcessor - 1#64)) _ _ hlow
      hlimit hfalse
    refine ⟨_, rfl, fun k hk => intermediateGdtMemory_load64 (hslots k hk),
      fun h => absurd (hpresent.mpr h) hanswer, fun _ => ⟨rfl, ?_, ?_⟩, fun j hj hne x hx =>
        intermediateGdtMemory_of_not_mem_row hlimit (hothers j hj hne x hx)⟩
    · show (s.state.object.gdtr.limit.setWidth 64 + 2#64 * 8#64 : Word).toNat < _
      omega
    · show NewTss _ _ _ _ (s.state.object.gdtr.limit.setWidth 64 + 2#64 * 8#64 : Word).toNat _
      rw [hwidth]
      rw [guestTrOf_of_not_present hfalse] at hnew
      exact hnew

/-- `secondCpu` with the members that `main` has set before `initialize_intermediate_gdt`. The limit is
not of the form `8 * n - 1`. -/
def unevenLimitCpu : Machine :=
  { secondCpu with
    object := { secondCpu.object with gdtr := ⟨0x8000#64, 0x82#16⟩, osTr := 0x40#16 } }

theorem initializeIntermediateGdt_extends_unevenLimitCpu :
    ∃ m, initializeIntermediateGdt (noVmptrld.onGdt (fun _ => 0#8) unevenLimitCpu.object)
        ⟨unevenLimitCpu, []⟩ = .next () ⟨m, []⟩ ∧ m.object.guestTr ≠ 0#16 := by
  obtain ⟨m, hrun, hextends⟩ := initializeIntermediateGdt_extends noVmptrld ⟨unevenLimitCpu, []⟩
    (by decide) (by decide) (by decide) (by decide)
  have habsent : ¬OsTssPresent (fun _ => 0#8) unevenLimitCpu.object.gdtr unevenLimitCpu.object.osTr := by
    decide +kernel
  refine ⟨m, hrun, fun hzero => (hextends.absent habsent).2.2.not_null ?_⟩
  rw [hzero]
  decide

end Zpp.Hypervisor
