import ZppHypervisor.Hypervisor.Equiv.EptIsolation
import ZppHypervisor.Hypervisor.Equiv.HostPageTable
import ZppHypervisor.Hypervisor.Equiv.Main

/-!
# Launches that succeed

A launch reaches `vmlaunch` if the VMX instructions succeed and, on the first CPU, the module fits:
the object lies in it, the OS translates it like a frame map, and it is small enough for the tables
(`ModuleFits`).
-/

namespace Zpp.Hypervisor

open X64 X64.Intel ScopeGuard Block Loop

/-- No VMX instruction fails. -/
structure Platform.NoCarry (p : Platform) : Prop where
  vmxon : p.vmxonCarry = false
  vmclear : p.vmclearCarry = false
  vmptrld : p.vmptrldCarry = false

/-- The module can be mapped and protected; `os` is the translation of the OS. -/
structure ModuleFits (p : Platform) (m : Module) (os : Word → Word) : Prop where
  base : p.moduleBase = m.base
  size : p.moduleSize = m.size
  size_le : m.size.toNat ≤ 2 ^ 30
  hostPageTable : m.Holds p.layout.hostPageTable PageTable.sizeOf
  tables : m.Holds p.layout.ept.epml4 EptLayout.tablesSize
  unprotectedMemory : m.Holds p.layout.ept.unprotectedMemory unprotectedMemorySize
  frameMap : FrameMap m (2 ^ 39) os
  pages_lt : m.pages < maxModuleSize / 0x1000
  regions_lt : (touchedRegions m os m.pages).card < eptCount

/-- The members that describe the module. -/
structure Object.SameModule (o o' : Object) : Prop where
  moduleBase : o'.moduleBase = o.moduleBase
  moduleSize : o'.moduleSize = o.moduleSize
  hostPageTable : o'.hostPageTable = o.hostPageTable
  modulePhysicalToVirtual : o'.modulePhysicalToVirtual = o.modulePhysicalToVirtual

theorem Object.SameModule.trans {o₁ o₂ o₃ : Object} (h : o₁.SameModule o₂) (h' : o₂.SameModule o₃) :
    o₁.SameModule o₃ where
  moduleBase := h'.moduleBase.trans h.moduleBase
  moduleSize := h'.moduleSize.trans h.moduleSize
  hostPageTable := h'.hostPageTable.trans h.hostPageTable
  modulePhysicalToVirtual := h'.modulePhysicalToVirtual.trans h.modulePhysicalToVirtual

variable {p : Platform}

/-! ### VMX -/

theorem mainVmx_launches (hp : p.NoCarry) (s : Frame Machine) : ∃ s', mainVmx p s = .next () s' := by
  obtain ⟨hon, hclear, hptrld⟩ := hp
  unfold mainVmx enterRootMode vmxon vmclear vmptrld
  simp only [hon, hclear, hptrld]
  exact ⟨_, rfl⟩

/-! ### The intermediate GDT -/

theorem initializeIntermediateGdt_sameModule (p : Platform) (s : Frame Machine) :
    ∃ m, initializeIntermediateGdt p s = .next () ⟨m, s.guards⟩ ∧
      s.state.object.SameModule m.object := by
  unfold initializeIntermediateGdt
  simp only [bind_apply, this_apply, use_apply]
  split_ifs
  · exact ⟨_, rfl, rfl, rfl, rfl, rfl⟩
  · exact ⟨_, rfl, rfl, rfl, rfl, rfl⟩

theorem loadIntermediateGdt_sameModule (p : Platform) (s : Frame Machine) :
    ∃ m, loadIntermediateGdt p s = .next () ⟨m, s.guards⟩ ∧ s.state.object.SameModule m.object := by
  unfold loadIntermediateGdt
  simp only [bind_apply, this_apply, use_apply, exec_apply]
  split_ifs
  · exact ⟨_, rfl, rfl, rfl, rfl, rfl⟩
  · exact ⟨_, rfl, rfl, rfl, rfl, rfl⟩

/-- The part of `main` after the module is initialized. -/
theorem mainGdt_launches (hp : p.NoCarry) (cpuid : Word) (s : Frame Machine)
    (hprotect : ∀ s' : Frame Machine, s.state.object.SameModule s'.state.object →
      ∃ s'', onFirstCpu cpuid (initializeProtection p) s' = .next () s'') :
    ∃ s', mainGdt p cpuid s = .next () s' := by
  obtain ⟨m₁, hinit, h₁⟩ := initializeIntermediateGdt_sameModule p s
  obtain ⟨m₂, hload, h₂⟩ := loadIntermediateGdt_sameModule p ⟨m₁, s.guards⟩
  unfold mainGdt
  rw [bind_of_next hinit, bind_of_next hload]
  simp only [bind_apply, construct_apply, this_apply, exec_apply]
  obtain ⟨s₃, h₃⟩ := hprotect ⟨m₂.exec (.movCr3 m₂.object.hostCr3),
    ⟨fun m => m.exec (.movCr3 m.object.guestCr3), true⟩ :: ⟨loadOsGdt, true⟩ :: s.guards⟩
    (h₁.trans h₂)
  rw [h₃]
  exact mainVmx_launches hp s₃

/-- A launch on any CPU but the first. -/
theorem runMain_launches {cpuid : Word} (hp : p.NoCarry) (hcpuid : cpuid ≠ 0#64)
    (physicalToVirtual : Option (Word → Word)) (m : Machine) :
    ∃ m', runMain p cpuid physicalToVirtual m = .launched m' := by
  have hskip : ∀ (block : Code Unit) s, onFirstCpu cpuid block s = .next () s := by
    intro block s
    rw [onFirstCpu, if_neg hcpuid, pure_apply]
  obtain ⟨s', hrun⟩ := mainGdt_launches hp cpuid
    ⟨captured m, [⟨Machine.exec .sti, true⟩]⟩ fun s' _ => ⟨s', hskip _ s'⟩
  refine ⟨s'.state, ?_⟩
  rw [runMain, main_eq, bind_of_next (hskip _ _), hrun]

/-! ### The first CPU -/

section FirstCpu

variable {m : Module} {os : Word → Word}

/-- The members that describe the module are as `main` leaves them under the host page table. -/
structure ModuleInitialized (m : Module) (o : Object) : Prop where
  base : o.moduleBase = m.base
  size : o.moduleSize = m.size
  frameMap : FrameMap m (2 ^ 39) o.hostPageTable.virtualToPhysical
  map : initializeModulePhysicalToVirtual o.hostPageTable.virtualToPhysical m.base m.size
    SmallMap.empty = .next o.modulePhysicalToVirtual
  regions_lt : (touchedRegions m o.hostPageTable.virtualToPhysical m.pages).card < eptCount

theorem ModuleInitialized.congr {o o' : Object} (h : ModuleInitialized m o) (h' : o.SameModule o') :
    ModuleInitialized m o' := by
  obtain ⟨hbase, hsize, htable, hmap⟩ := h'
  exact ⟨hbase.trans h.base, hsize.trans h.size, htable ▸ h.frameMap,
    htable ▸ hmap ▸ h.map, htable ▸ h.regions_lt⟩

/-- The host page table gives the module the frames that the OS gives it. -/
theorem ModuleFits.hostFrameMap (hfit : ModuleFits p m os) (guestCr3 : Word) :
    let vtp := (initializeHostPageTable p.layout.hostPageTable m.base m.size guestCr3 os
      .empty).1.virtualToPhysical
    FrameMap m (2 ^ 39) vtp ∧ (touchedRegions m vtp m.pages).card < eptCount := by
  intro vtp
  have hvtp : ∀ a, m.Contains a → vtp a = os a := fun a ha =>
    virtualToPhysical_initializeHostPageTable hfit.size_le hfit.hostPageTable
      (hfit.frameMap.mono (by decide)) guestCr3 ha
  have hregions : touchedRegions m vtp m.pages = touchedRegions m os m.pages := by
    refine Finset.image_congr fun i hi => ?_
    have hpage := Module.hasPage_page (Finset.mem_range.mp hi)
    exact congrArg region (hvtp _ hpage.2)
  exact ⟨hfit.frameMap.congr hvtp, hregions ▸ hfit.regions_lt⟩

/-- `main` initializes the members of a fresh object. -/
theorem initializeModule_initializes (hfit : ModuleFits p m os)
    {physicalToVirtual : Option (Word → Word)} {s : Frame Machine}
    (htable : s.state.object.hostPageTable = .empty)
    (hmap : s.state.object.modulePhysicalToVirtual = SmallMap.empty)
    (hos : (OsPageTable.ofCr3 s.state.object.guestCr3 physicalToVirtual).virtualToPhysical p.memory =
      os) :
    ∃ s', initializeModule p physicalToVirtual s = .next () s' ∧
      ModuleInitialized m s'.state.object := by
  obtain ⟨hvtp, hregions⟩ := hfit.hostFrameMap s.state.object.guestCr3
  obtain ⟨map, t₁, hinit, -⟩ := exists_protectModule p.mtrrs .empty hvtp hfit.tables hfit.pages_lt
    hregions
  unfold initializeModule initializeModuleRegion initializeOsPageTable initializeHostPageTableMember
    initializeModulePhysicalToVirtualMember
  rw [bind_of_next (update_apply _ _), bind_of_next (update_apply _ _),
    bind_of_next (update_apply _ _), bind_of_next (this_apply _)]
  dsimp only [Machine.setObject_object]
  rw [hos, htable, hfit.base, hfit.size, hmap, hinit]
  exact ⟨_, rfl, rfl, rfl, hvtp, hinit, hregions⟩

/-- `main` protects an initialized module. -/
theorem initializeProtection_succeeds (hfit : ModuleFits p m os) {s : Frame Machine}
    (hs : ModuleInitialized m s.state.object) :
    ∃ s', initializeProtection p s = .next () s' := by
  obtain ⟨map, t₁, hmap, hprotect⟩ := exists_protectModule p.mtrrs s.state.object.ept hs.frameMap
    hfit.tables hfit.pages_lt hs.regions_lt
  obtain rfl := Outcome.next.inj (hs.map.symm.trans hmap)
  obtain ⟨owner, eptIndex, ht₁⟩ := protectInv_of_protectModule hs.frameMap hfit.tables hmap hprotect
  obtain ⟨t₂, hunprotect, -⟩ := eptInv_of_prefix hs.frameMap hfit.tables hfit.unprotectedMemory hmap
    ht₁ le_rfl
  unfold initializeProtection initializeVmxMsrs initializeMtrrs initializeEptMember
    protectModuleMember unprotectGuestMemoryMember
  rw [bind_of_next (update_apply _ _), bind_of_next (update_apply _ _),
    bind_of_next (update_apply _ _), bind_apply, bind_of_next (this_apply _)]
  dsimp only [Machine.setObject_object]
  rw [hs.base, hs.size, hprotect]
  dsimp only [orFail, bind_apply, this_apply, pure_apply, update_apply, Machine.setObject_object]
  rw [unprotectGuestMemory, hunprotect]
  exact ⟨_, rfl⟩

/-- A launch on the first CPU. -/
theorem runMain_launches_first (hp : p.NoCarry) (hfit : ModuleFits p m os)
    {physicalToVirtual : Option (Word → Word)} {mach : Machine}
    (htable : mach.object.hostPageTable = .empty)
    (hmap : mach.object.modulePhysicalToVirtual = SmallMap.empty)
    (hos : (OsPageTable.ofCr3 mach.cpu.cr3 physicalToVirtual).virtualToPhysical p.memory = os) :
    ∃ m', runMain p 0#64 physicalToVirtual mach = .launched m' := by
  obtain ⟨s₁, hinit, h₁⟩ := initializeModule_initializes hfit
    (s := ⟨captured mach, [⟨Machine.exec .sti, true⟩]⟩) htable hmap hos
  have hfirst : ∀ block : Code Unit, onFirstCpu 0#64 block = block := fun _ => if_pos rfl
  obtain ⟨s', hrun⟩ := mainGdt_launches hp 0#64 s₁ fun s' hs' => by
    rw [hfirst]
    exact initializeProtection_succeeds hfit (h₁.congr hs')
  refine ⟨s'.state, ?_⟩
  rw [runMain, main_eq, hfirst, bind_of_next hinit, hrun]

end FirstCpu

/-! ### A platform -/

/-- A module of 2856 pages at 6 MiB that is nothing but the object. -/
def launchModule : Module where
  base := 0x600000#64
  size := 0xb28000#64
  base_aligned := by decide
  size_aligned := by decide
  no_wrap := by decide

/-- Firmware with an identity mapping, on which the VMX instructions succeed. -/
def firmware : Platform where
  layout := ⟨0x600000#64, ⟨0xa04000#64, 0x1006000#64⟩, 0x1107000#64, 0x1117000#64, 0x1127000#64⟩
  memory _ := 0#8
  moduleBase := 0x600000#64
  moduleSize := 0xb28000#64
  rdmsr _ := 0x2000#64
  mtrrs := .replicate 8 {}
  taskStateSegmentPresent := false
  vmxonCarry := false
  vmclearCarry := false
  vmptrldCarry := false

theorem noCarry_firmware : firmware.NoCarry := ⟨rfl, rfl, rfl⟩

theorem moduleFits_firmware : ModuleFits firmware launchModule id where
  base := rfl
  size := rfl
  size_le := by decide
  hostPageTable := ⟨by decide, by decide, by decide⟩
  tables := ⟨by decide, by decide, by decide⟩
  unprotectedMemory := ⟨by decide, by decide, by decide⟩
  frameMap := frameMap_id launchModule (by decide)
  pages_lt := by decide
  regions_lt := by
    refine lt_of_le_of_lt (card_touchedRegions_le (N := 9) (by decide) fun i hi => ?_) (by decide)
    have hpage := (Module.hasPage_page hi).2.2
    have hend : launchModule.base.toNat + launchModule.size.toNat = 0x1128000 := by decide
    rw [id]
    omega

end Zpp.Hypervisor
