import ZppHypervisor.Hypervisor.Equiv.EptIsolation

/-!
# The capacity errors

`protect_module` takes one table for each 2 MiB region of the module's frames, and reports an error with
the one that takes the last table (`protectModule_outOfEptEntries_iff`).  The map is refused a module
that would fill it (`initializeModulePhysicalToVirtual_error_iff`).  So both errors are raised exactly
when a capacity is exceeded, unless the module fits one exactly (`capacityErrors_iff`).
-/

namespace Zpp.Hypervisor

open X64 X64.Intel Loop

variable {m : Module} {layout : EptLayout} {vtp : Word → Word} {capacity : ℕ}
  {map : PhysicalToVirtual capacity}

/-! ### Regions -/

/-- The 2 MiB regions in which the module has frames. -/
def moduleRegions (m : Module) (vtp : Word → Word) : Finset ℕ :=
  (Finset.range m.pages).image fun i => (vtp (m.page i)).toNat / 2 ^ 21

theorem card_moduleRegions (hvtp : FrameMap m (2 ^ 39) vtp) :
    (moduleRegions m vtp).card = (touchedRegions m vtp m.pages).card := by
  have himage : moduleRegions m vtp = (touchedRegions m vtp m.pages).image largePage := by
    unfold moduleRegions touchedRegions
    rw [Finset.image_image]
    refine Finset.image_congr fun i hi => ?_
    have hpage := Module.hasPage_page (Finset.mem_range.mp hi)
    exact (largePage_region (hvtp.lt _ hpage)).symm
  rw [himage, Finset.card_image_of_injective _ largePage_injective]

/-! ### The errors -/

/-- The map is refused exactly to a module that would fill it. -/
theorem initializeModulePhysicalToVirtual_error_iff (hvtp : FrameMap m (2 ^ 39) vtp) :
    initializeModulePhysicalToVirtual vtp m.base m.size (.empty : PhysicalToVirtual capacity) =
      .returned .physicalToVirtualCapacityError ↔ capacity ≤ m.pages := by
  have hspec := @initializeModulePhysicalToVirtual_spec capacity m vtp _ hvtp
  cases hrun : initializeModulePhysicalToVirtual vtp m.base m.size
      (.empty : PhysicalToVirtual capacity) with
  | next map =>
    rw [hrun] at hspec
    exact iff_of_false (fun h => nomatch h) (not_le.mpr hspec.1)
  | returned e =>
    rw [hrun] at hspec
    exact iff_of_true (congrArg _ hspec.1) hspec.2
  | undefined =>
    rw [hrun] at hspec
    exact hspec.elim

/-- Some map is large enough for the module. -/
theorem exists_initializeModulePhysicalToVirtual (hvtp : FrameMap m (2 ^ 39) vtp) :
    ∃ (capacity : ℕ) (map : PhysicalToVirtual capacity),
      initializeModulePhysicalToVirtual vtp m.base m.size .empty = .next map := by
  have hspec := @initializeModulePhysicalToVirtual_spec (m.pages + 1) m vtp _ hvtp
  cases hrun : initializeModulePhysicalToVirtual vtp m.base m.size
      (.empty : PhysicalToVirtual (m.pages + 1)) with
  | next map => exact ⟨_, map, hrun⟩
  | returned e =>
    rw [hrun] at hspec
    exact absurd hspec.2 (not_le.mpr m.pages.lt_succ_self)
  | undefined =>
    rw [hrun] at hspec
    exact hspec.elim

/-- The error about the tables comes with the region that takes the last one. -/
theorem protectModule_outOfEptEntries_iff (hvtp : FrameMap m (2 ^ 39) vtp)
    (htables : m.Holds layout.epml4 EptLayout.tablesSize)
    (hmap : initializeModulePhysicalToVirtual vtp m.base m.size .empty = .next map)
    (mtrrs : Vector Mtrr 8) (t₀ : Ept) :
    protectModule layout vtp map m.base m.size (initializeEpt layout vtp mtrrs t₀) =
      .returned .outOfEptEntries ↔ eptCount ≤ (moduleRegions m vtp).card := by
  obtain ⟨-, l, hl⟩ := (initializeModulePhysicalToVirtual_spec hvtp).of_next hmap
  have hspec := protectPages_spec hvtp htables hl (eptInv_initializeEpt layout vtp mtrrs t₀) le_rfl
  have hpages : (m.size / pageSize).toNat = m.pages := rfl
  rw [protectModule, hpages, card_moduleRegions hvtp]
  cases hrun : protectPages layout vtp map m.base m.pages (initializeEpt layout vtp mtrrs t₀) with
  | next s =>
    rw [hrun] at hspec
    obtain ⟨owner, hs⟩ := hspec
    refine iff_of_false ?_ (not_le.mpr ?_)
    · intro h
      cases h
    · rw [← hs.eptIndex_eq]
      exact hs.eptIndex_lt
  | returned e =>
    rw [hrun] at hspec
    exact iff_of_true (congrArg _ hspec.1) hspec.2
  | undefined =>
    rw [hrun] at hspec
    exact hspec.elim

/-- The errors are raised exactly when a capacity is exceeded: `ept` has 1024 tables, and the map of the
hypervisor `max_module_size / page_size` pairs.  For the tables, a map for any number of pages counts. -/
structure CapacityErrors (m : Module) (layout : EptLayout) (vtp : Word → Word)
    (mtrrs : Vector Mtrr 8) (t₀ : Ept) : Prop where
  map : initializeModulePhysicalToVirtual vtp m.base m.size
      (.empty : PhysicalToVirtual (maxModuleSize / 0x1000)) =
    .returned .physicalToVirtualCapacityError ↔ maxModuleSize / 0x1000 < m.pages
  ept : ∀ (capacity : ℕ) (map : PhysicalToVirtual capacity),
    initializeModulePhysicalToVirtual vtp m.base m.size .empty = .next map →
      (protectModule layout vtp map m.base m.size (initializeEpt layout vtp mtrrs t₀) =
        .returned .outOfEptEntries ↔ eptCount < (moduleRegions m vtp).card)

/-- A bound is met strictly exactly if it is not met exactly. -/
theorem le_iff_lt_iff_ne {a b : ℕ} : (a ≤ b ↔ a < b) ↔ b ≠ a := by
  omega

/-- **The capacity errors.** -/
theorem capacityErrors_iff (hvtp : FrameMap m (2 ^ 39) vtp)
    (htables : m.Holds layout.epml4 EptLayout.tablesSize) (mtrrs : Vector Mtrr 8) (t₀ : Ept) :
    CapacityErrors m layout vtp mtrrs t₀ ↔
      m.pages ≠ maxModuleSize / 0x1000 ∧ (moduleRegions m vtp).card ≠ eptCount := by
  constructor
  · rintro ⟨hmap, hept⟩
    constructor
    · rw [initializeModulePhysicalToVirtual_error_iff hvtp] at hmap
      exact le_iff_lt_iff_ne.mp hmap
    · obtain ⟨capacity, map, hrun⟩ := exists_initializeModulePhysicalToVirtual hvtp
      have h := hept capacity map hrun
      rw [protectModule_outOfEptEntries_iff hvtp htables hrun] at h
      exact le_iff_lt_iff_ne.mp h
  · rintro ⟨hpages, hregions⟩
    constructor
    · rw [initializeModulePhysicalToVirtual_error_iff hvtp]
      exact le_iff_lt_iff_ne.mpr hpages
    · intro capacity map hmap
      rw [protectModule_outOfEptEntries_iff hvtp htables hmap]
      exact le_iff_lt_iff_ne.mpr hregions

theorem capacityErrors_eptModule : CapacityErrors eptModule eptModuleLayout id holeFirst .empty := by
  obtain ⟨hvtp, htables, -⟩ := eptModule_facts
  refine (capacityErrors_iff hvtp htables holeFirst .empty).mpr ⟨by decide, ne_of_lt ?_⟩
  rw [card_moduleRegions hvtp]
  refine lt_of_le_of_lt (card_touchedRegions_le (N := 5) (by decide) fun i hi => ?_) (by decide)
  have hpage := (Module.hasPage_page hi).2.2
  have hend : eptModule.base.toNat + eptModule.size.toNat = 0x803000 := by decide
  rw [id]
  omega

/-! ### An exact fit -/

/-- A module of 50 MiB at 2 MiB. -/
def fullModule : Module where
  base := 0x200000#64
  size := 0x3200000#64
  base_aligned := by decide
  size_aligned := by decide
  no_wrap := by decide

/-- A module of 1538 pages at 2 MiB that is nothing but the tables. -/
def tablesModule : Module where
  base := 0x200000#64
  size := 0x602000#64
  base_aligned := by decide
  size_aligned := by decide
  no_wrap := by decide

def tablesModuleLayout : EptLayout := ⟨0x200000#64, 0x100000#64⟩

/-- Frames of consecutive pages in 1024 regions, one after the other. -/
def scatteredFrames (a : Word) : Word :=
  BitVec.ofNat 64
    (a.toNat / 0x1000 % 1024 * 2 ^ 21 + a.toNat / 0x1000 / 1024 * 0x1000 + a.toNat % 0x1000)

theorem toNat_scatteredFrames {a : Word} (ha : a.toNat < 2 ^ 30) :
    (scatteredFrames a).toNat =
      a.toNat / 0x1000 % 1024 * 2 ^ 21 + a.toNat / 0x1000 / 1024 * 0x1000 + a.toNat % 0x1000 := by
  rw [scatteredFrames, BitVec.toNat_ofNat, Nat.mod_eq_of_lt (by omega)]

theorem lt_of_contains_tablesModule {a : Word} (ha : tablesModule.Contains a) : a.toNat < 2 ^ 24 := by
  have hend : tablesModule.base.toNat + tablesModule.size.toNat = 0x802000 := by decide
  have hlt := ha.2
  omega

theorem frameMap_scatteredFrames : FrameMap tablesModule (2 ^ 39) scatteredFrames where
  add_offset a ha := by
    have hlt := lt_of_contains_tablesModule ha
    have hpage := toNat_pageOf a
    have hdiv : (pageOf a).toNat / 0x1000 = a.toNat / 0x1000 := by omega
    rw [← BitVec.toNat_inj, BitVec.toNat_add, toNat_scatteredFrames (by omega),
      toNat_scatteredFrames (by omega), toNat_and_fff, hdiv, hpage]
    omega
  aligned p hp := by
    have hlt := lt_of_contains_tablesModule hp.2
    have haligned := hp.1
    rw [toNat_scatteredFrames (by omega)]
    omega
  lt p hp := by
    have hlt := lt_of_contains_tablesModule hp.2
    rw [toNat_scatteredFrames (by omega)]
    omega
  injOn p hp p' hp' heq := by
    have hlt := lt_of_contains_tablesModule hp.2
    have hlt' := lt_of_contains_tablesModule hp'.2
    have haligned := hp.1
    have haligned' := hp'.1
    have hnum := congrArg BitVec.toNat heq
    rw [toNat_scatteredFrames (by omega), toNat_scatteredFrames (by omega)] at hnum
    rw [← BitVec.toNat_inj]
    omega

/-- The first 1024 pages have their frames in all regions. -/
theorem moduleRegions_scatteredFrames :
    moduleRegions tablesModule scatteredFrames = Finset.range eptCount := by
  have hpages : tablesModule.pages = 1538 := by decide
  have hbase : tablesModule.base.toNat = 0x200000 := by decide
  have hregion : ∀ i < 1538, (scatteredFrames (tablesModule.page i)).toNat / 2 ^ 21 =
      (512 + i) % 1024 := by
    intro i hi
    have hpage : (tablesModule.page i).toNat = 0x200000 + i * 0x1000 := by
      rw [Module.toNat_page (by omega), hbase]
    have hdiv : (0x200000 + i * 0x1000) / 0x1000 = 512 + i := by omega
    rw [toNat_scatteredFrames (by omega), hpage, hdiv]
    omega
  ext r
  rw [moduleRegions, hpages, Finset.mem_image, Finset.mem_range]
  constructor
  · rintro ⟨i, hi, rfl⟩
    rw [hregion i (Finset.mem_range.mp hi)]
    exact Nat.mod_lt _ (by decide)
  · intro hr
    have hr' : r < 1024 := hr
    refine ⟨(r + 512) % 1024, Finset.mem_range.mpr (by omega), ?_⟩
    rw [hregion _ (by omega)]
    omega

/-- Neither 12800 pages nor 1024 regions are too many. -/
theorem not_capacityErrors_exactFit :
    ¬CapacityErrors fullModule eptModuleLayout id holeFirst .empty ∧
      ¬CapacityErrors tablesModule tablesModuleLayout scatteredFrames holeFirst .empty := by
  constructor
  · intro h
    have hvtp : FrameMap fullModule (2 ^ 39) id := frameMap_id fullModule (by decide)
    have herror := (initializeModulePhysicalToVirtual_error_iff hvtp).mpr
      (by decide : maxModuleSize / 0x1000 ≤ fullModule.pages)
    exact absurd (h.map.mp herror) (by decide)
  · intro h
    have hvtp := frameMap_scatteredFrames
    have htables : tablesModule.Holds tablesModuleLayout.epml4 EptLayout.tablesSize :=
      ⟨by decide, by decide, by decide⟩
    have hcard : (moduleRegions tablesModule scatteredFrames).card = eptCount := by
      rw [moduleRegions_scatteredFrames, Finset.card_range]
    obtain ⟨capacity, map, hmap⟩ := exists_initializeModulePhysicalToVirtual hvtp
    have herror := (protectModule_outOfEptEntries_iff hvtp htables hmap holeFirst .empty).mpr hcard.ge
    have hlt := (h.ept capacity map hmap).mp herror
    exact absurd hcard.symm (Nat.ne_of_lt hlt)

end Zpp.Hypervisor
