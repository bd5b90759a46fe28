import ZppHypervisor.Equiv.LoaderRuns
import ZppHypervisor.Hypervisor.Equiv.Guests
import ZppHypervisor.Hypervisor.Equiv.Start

/-!
# The guests after a load

The tables that a load leaves are guarded, so whatever the guests of its CPUs do, in whatever order,
they run as on bare processors without the module (`zppLoadElf_guests_refine`), and the hypervisor
stays as it is (`zppLoadElf_guests_keep`), as long as the host can execute what they want with an exit.
-/

namespace Zpp.Loader

open Hypervisor X64 X64.Intel ByteMemory Loop

variable {physicalToVirtual : Option (Word → Word)} {calls : ℕ → CpuCall} {ι : Type} [DecidableEq ι]

/-- The CPUs have the roots of the tables of a loaded object. -/
structure RunsOn (h : Host ι) (m : Module) (o : Object) : Prop where
  image : h.image = m
  epml4 : h.epml4 = o.epml4Physical
  cr3 : h.cr3 = o.hostCr3

section

variable {layout : Layout} {m : Module} {os : Word → Word}
  (hlayout : ∀ i, (calls i).platform.layout = layout)
  (hplaced : ModulePlaced (calls 0).platform m os) (hobject : ObjectPlaced layout m)
  (hos : (OsPageTable.ofCr3 (calls 0).cpu.cr3 physicalToVirtual).virtualToPhysical
    (calls 0).platform.memory = os) {cpus : ℕ} (hcpus : cpus ≤ maxCpus)
  (hlaunched : ∃ l ∈ (zppLoadElf physicalToVirtual calls cpus).launches, l.result = some 0)
  {h : Host ι} (hruns : RunsOn h m (zppLoadElf physicalToVirtual calls cpus).object)
  {stack : ι → Set Word} (hstacks : h.HasStacks layout stack)

include hlayout hplaced hobject hos hcpus hlaunched hruns hstacks

omit [DecidableEq ι] in
/-- A load installs the hypervisor. -/
theorem installed_zppLoadElf :
    h.Installed layout os (calls 0).cpu.cr3 (calls 0).platform.mtrrs
      (zppLoadElf physicalToVirtual calls cpus).object.tables stack := by
  obtain ⟨himage, hepml4, hcr3⟩ := hruns
  rw [launches_zppLoadElf] at hlaunched
  rw [object_zppLoadElf] at hepml4 hcr3 ⊢
  obtain ⟨hguarded, hroot⟩ := (tablesInv_loadCpus hlayout hplaced hos
    (hcpus.trans maxCpus_le)).holds hlaunched
  subst himage
  exact ⟨hguarded, hplaced.frameMap, hplaced.size_le, hobject, hepml4.trans hroot, hcr3, hstacks⟩

/-- **Guests never touch the hypervisor.**  After any interleaving of turns that the host can execute, no
protected byte has changed but on the stacks of the CPUs that took a turn, the guests are still kept from
the module, the host still finds its module where it was, and on every CPU it is ready for the next
exit. -/
theorem zppLoadElf_guests_keep {s : Guests ι}
    (hs : h.Ready layout os (zppLoadElf physicalToVirtual calls cpus).object.tables s)
    (l : List (Turn ι))
    (henabled : Simulation.Enabled (Bare.step (reachable m layout.ept os))
      (fun t b => b.Executes t) l s.bare) :
    ∃ s', Simulation.run h.step l s = some s' ∧
      (∀ x, InProtectedFrame m layout.ept os x → (∀ t ∈ l, x ∉ os '' stack t.cpu) →
        s'.phys x = s.phys x) ∧
      Isolates s'.phys h.epml4 m layout.ept os (initialType (calls 0).platform.mtrrs) ∧
      (∀ a, m.Contains a → h.physical s'.phys a = some (os a)) ∧
      ∀ i, (h.vmm i).HostReady (h.view s'.phys) (s'.vmx i) := by
  have hinst := installed_zppLoadElf hlayout hplaced hobject hos hcpus hlaunched hruns hstacks
  rw [← hruns.image] at henabled
  obtain ⟨s', hrun, hspec⟩ := hinst.run_spec l hs (s.shows_bare _) henabled
  have hisolates := hinst.isolates hspec.ready
  have hkeeps := hspec.keeps
  have hphysical := fun a => hinst.physical hspec.ready.hostPageTable (a := a)
  unfold Host.Keeps at hkeeps
  rw [hruns.image] at hisolates hkeeps hphysical
  refine ⟨s', hrun, fun x hx hnot => hkeeps x hx ?_, hisolates, hphysical, hspec.ready.ready⟩
  rintro ⟨a, ⟨t, ht, ha⟩, heq⟩
  exact hnot t ht ⟨a, ha, heq⟩

end

/-! ### Sixteen CPUs

Firmware whose module is the object and an array of stacks. -/

/-- The object, and behind it the stacks. -/
def stacksModule : Module :=
  { launchModule with
    size := 0x1328000#64
    size_aligned := by decide
    no_wrap := by decide }

def stacksCall : CpuCall :=
  { firmwareCall with platform := { firmware with moduleSize := 0x1328000#64 } }

theorem moduleFits_stacks : ModuleFits stacksCall.platform stacksModule id where
  base := rfl
  size := rfl
  size_le := by decide
  hostPageTable := ⟨by decide, by decide, by decide⟩
  tables := ⟨by decide, by decide, by decide⟩
  unprotectedMemory := ⟨by decide, by decide, by decide⟩
  frameMap := frameMap_id stacksModule (by decide)
  pages_lt := by decide
  regions_lt := by
    refine lt_of_le_of_lt (card_touchedRegions_le (N := 13) (by decide) fun i hi => ?_) (by decide)
    have hpage := (Module.hasPage_page hi).2.2
    have hend : stacksModule.base.toNat + stacksModule.size.toNat = 0x1928000 := by decide
    rw [id]
    omega

theorem objectPlaced_stacks : ObjectPlaced firmware.layout stacksModule where
  hostPageTable := ⟨by decide, by decide, by decide⟩
  tables := ⟨by decide, by decide, by decide⟩
  unprotectedMemory := ⟨by decide, by decide, by decide⟩
  vmx := ⟨by decide, by decide, by decide⟩
  vmxVmcs := ⟨by decide, by decide, by decide⟩
  msrBitmap := ⟨by decide, by decide, by decide⟩
  hostPageTable_apart := .inl (by decide)
  tables_apart := .inl (by decide)
  vmx_apart := .inr (by decide)
  vmxVmcs_apart := .inr (by decide)
  msrBitmap_apart := .inr (by decide)

theorem exists_launched_stacks :
    ∃ l ∈ (zppLoadElf none (fun _ => stacksCall) maxCpus).launches, l.result = some 0 := by
  have henters : Enters none (fun _ => stacksCall) 0 := ⟨rfl, rfl⟩
  have hresult := @result_loadCpus none (fun _ => stacksCall) stacksModule id moduleFits_stacks
    (virtualToPhysical_ofCr3_none _ _) (fun _ => ⟨rfl, rfl, rfl⟩) 0 (by decide)
  have hmem := henters.getElem?_launches (by decide : 0 < maxCpus)
  rw [launches_zppLoadElf]
  exact ⟨_, List.mem_of_getElem? hmem, hresult⟩

/-- The address of `stack[i]`. -/
def stackAt (i : Fin maxCpus) : Word := 0x1128000#64 + BitVec.ofNat 64 (i * 0x80000)

theorem toNat_stackAt (i : Fin maxCpus) : (stackAt i).toNat = 0x1128000 + i * 0x80000 := by
  have hi : i.val < 16 := i.isLt
  rw [stackAt, BitVec.toNat_add, BitVec.toNat_ofNat, BitVec.toNat_ofNat]
  omega

def cpuStack (i : Fin maxCpus) : Set Word := ByteMemory.Region (stackAt i) stackSize

theorem mem_cpuStack {i : Fin maxCpus} {a : Word} :
    a ∈ cpuStack i ↔ 0x1128000 + i * 0x80000 ≤ a.toNat ∧ a.toNat < 0x1128000 + (i + 1) * 0x80000 := by
  have hi : i.val < 16 := i.isLt
  have hsize : stackSize = 0x80000 := rfl
  rw [cpuStack, hsize, mem_region_iff (by rw [toNat_stackAt]; omega), toNat_stackAt, Nat.add_mul,
    one_mul, Nat.add_assoc]

/-- The stacks are behind the object. -/
theorem le_pageOf_of_mem_cpuStack {i : Fin maxCpus} {a : Word} (ha : a ∈ cpuStack i) :
    0x1128000 ≤ (pageOf a).toNat := by
  rw [mem_cpuStack] at ha
  rw [toNat_pageOf]
  omega

/-- The frame of the `vm_launch` of a CPU. -/
def cpuFrame (i : Fin maxCpus) : LaunchFrame where
  hostVmLaunchStack := stackAt i + BitVec.ofNat 64 0x70000
  aligned := by
    have hi : i.val < 16 := i.isLt
    rw [Aligned, BitVec.toNat_add, toNat_stackAt, BitVec.toNat_ofNat]
    omega

def cpuContext (i : Fin maxCpus) : Context :=
  { smallHostContext with gpr := fun r => if r = .rsp then stackAt i + 0x60030#64 else 0#64 }

/-- The stack of `restore_context` is below the array. -/
theorem cpuStack_apart {i : Fin maxCpus} {a : Word}
    (ha : a ∈ ByteMemory.Region (stackAt i + BitVec.ofNat 64 0x60000) 0x30) :
    a ∉ ByteMemory.Region (cpuFrame i).hostVmLaunchStack hostVmLaunchStackSize :=
  not_mem_region_add (.inl (by decide)) (by decide) (by decide) ha

theorem id_rdi (s : State) : (id s).gpr .rdi = s.gpr .rdi := rfl

/-- The memory in use, of which there is none, is always as it has to be. -/
theorem true_congr {m m' : ByteMemory 64} (_ : ∀ a ∈ (∅ : Set Word), m' a = m a) : True → True := id

def cpuCode (i : Fin maxCpus) : HostCode (cpuFrame i) (cpuContext i) where
  zppVmExit := id
  zppVmExit_rdi := id_rdi
  zppVmExit_rsp s hrsp := ⟨0, by decide, hrsp.trans (BitVec.sub_zero _).symm⟩
  zppVmExit_memory _ _ _ _ := rfl
  vmmCode x s := (writeContext (cpuFrame i).hostRsp x s).setGpr .rdi (cpuFrame i).hostRsp
  used := ∅
  used_apart := nofun
  ready _ := True
  ready_congr := true_congr
  vmmCode_ready _ _ := trivial
  vmmCode_leaves {x s} hs _ := by
    constructor
    · exact State.setGpr_gpr_self _ _ _
    · exact read_writeContext (cpuFrame i).hostRsp x s
    · intro a ha
      refine storeAll_of_not_mem (Context.writes_within smallCore x) (by decide) fun hguest => ?_
      exact (cpuFrame i).guestContext_apart hguest ha
    · refine ⟨stackAt i + BitVec.ofNat 64 0x60000, ?_, fun a ha => ⟨cpuStack_apart ha, nofun⟩⟩
      show s.gpr .rsp = _
      rw [hs.gpr, BitVec.add_assoc]
      rfl

def cpuVmm (i : Fin maxCpus) : Vmm where
  core := smallCore
  processor := ⟨1#32, 36, fun _ => true, fun _ => true⟩
  vmcs := 0x1117000#64 + BitVec.ofNat 64 (i * 0x1000)
  zppX64CaptureContextIntoStack := 0x402000#64
  next := 0x403005#64
  zppVmExit := 0x404000#64
  vmresume := 0x405000#64
  frame := cpuFrame i
  hostContext := cpuContext i
  code := cpuCode i

theorem cpuFrame_subset (i : Fin maxCpus) :
    ByteMemory.Region (cpuFrame i).hostVmLaunchStack hostVmLaunchStackSize ⊆ cpuStack i :=
  region_add_subset (by decide) (by decide)

theorem keepsTo_cpuVmm (i : Fin maxCpus) : (cpuVmm i).KeepsTo (cpuStack i) where
  array := cpuFrame_subset i
  used := nofun
  memory {x s} _ _ a ha := by
    refine storeAll_of_not_mem (Context.writes_within smallCore x) (by decide) fun hguest => ha ?_
    exact cpuFrame_subset i ((cpuFrame i).guestContext_subset hguest)
  rsp {x s} hs _ := by
    have hrsp : ((cpuVmm i).code.vmmCode x s).gpr .rsp - 0x30#64 =
        stackAt i + BitVec.ofNat 64 0x60000 := by
      show s.gpr .rsp - 0x30#64 = _
      rw [hs.gpr]
      show stackAt i + (0x60000#64 + 0x30#64) - 0x30#64 = _
      rw [← BitVec.add_assoc, BitVec.add_sub_cancel]
    rw [hrsp]
    exact region_add_subset (by decide) (by decide)

def cpuHost (o : Object) : Host (Fin maxCpus) := ⟨cpuVmm, stacksModule, o.epml4Physical, o.hostCr3⟩

theorem runsOn_cpuHost (o : Object) : RunsOn (cpuHost o) stacksModule o := ⟨rfl, rfl, rfl⟩

theorem cpuHost_vmm (o : Object) (i : Fin maxCpus) : (cpuHost o).vmm i = cpuVmm i := rfl

theorem hasStacks_cpuHost (o : Object) : (cpuHost o).HasStacks firmware.layout cpuStack where
  supports _ := ⟨rfl, rfl, rfl, rfl, rfl⟩
  keepsTo := keepsTo_cpuVmm
  contains i a ha := by
    have hi : i.val < 16 := i.isLt
    have hbase : stacksModule.base.toNat = 0x600000 := rfl
    have hsize : stacksModule.size.toNat = 0x1328000 := rfl
    rw [mem_cpuStack] at ha
    show stacksModule.base.toNat ≤ a.toNat ∧ a.toNat < stacksModule.base.toNat + stacksModule.size.toNat
    omega
  protect i a ha := by
    rintro ⟨k, hk, heq⟩
    have hle := le_pageOf_of_mem_cpuStack ha
    have hsize : unprotectedMemorySize = 257 * 0x1000 := by decide
    have hstart : firmware.layout.ept.unprotectedMemory.toNat = 0x1006000 := rfl
    have hpage : (firmware.layout.ept.unprotectedPage k).toNat = 0x1006000 + k * 0x1000 := by
      rw [← hstart]
      exact objectPlaced_stacks.unprotectedMemory.toNat_page (by omega)
    rw [heq, hpage] at hle
    omega
  tables i a ha := by
    have hle := le_pageOf_of_mem_cpuStack ha
    have hend : ∀ {p : Word} {n k : ℕ}, stacksModule.Holds p n → p.toNat + n ≤ 0x1128000 →
        k * 0x1000 < n → pageOf a ≠ p + BitVec.ofNat 64 k * 0x1000#64 := by
      intro p n k hp hend hk heq
      rw [heq, hp.toNat_page hk] at hle
      omega
    rintro (⟨k, hk, heq⟩ | ⟨k, hk, heq⟩)
    · exact hend objectPlaced_stacks.tables (by decide) hk heq
    · exact hend objectPlaced_stacks.hostPageTable (by decide) hk heq
  apart i j hij a ha ha' := by
    rw [mem_cpuStack] at ha ha'
    exact hij (Fin.ext (by omega))

/-! The memory and the VMX state when all CPUs are in their guests. -/

/-- The context of each host, on its stack. -/
def contextMemory : ByteMemory 64 := fun x =>
  if h : (x.toNat - 0x1128000) / 0x80000 < maxCpus then
    storeAll (fun _ => 0#8) (cpuFrame ⟨_, h⟩).hostContext ((cpuContext ⟨_, h⟩).writes smallCore) x
  else 0#8

theorem read_contextMemory (i : Fin maxCpus) :
    Context.read contextMemory (cpuFrame i).hostContext = cpuContext i := by
  refine (Context.read_eq_of_region fun a ha => ?_).trans
    (Context.read_writes smallCore (cpuContext i) (fun _ => 0#8) (cpuFrame i).hostContext)
  have hmem := mem_cpuStack.mp (cpuFrame_subset i ((cpuFrame i).hostContext_subset ha))
  have hi : i.val < 16 := i.isLt
  have hindex : (a.toNat - 0x1128000) / 0x80000 = i := by omega
  have hlt : (a.toNat - 0x1128000) / 0x80000 < maxCpus := hindex.trans_lt i.isLt
  have hcpu : (⟨_, hlt⟩ : Fin maxCpus) = i := Fin.ext hindex
  rw [contextMemory, dif_pos hlt, hcpu]

/-- The host page table, the extended page tables, and the stacks. -/
theorem exists_stacksMemory (o : Object) : ∃ phys : ByteMemory 64,
    EptInMemory phys id firmware.layout.ept o.ept ∧
      InMemory phys id firmware.layout.hostPageTable o.hostPageTable ∧
      ∀ i, ∀ a ∈ cpuStack i, phys a = contextMemory a := by
  obtain ⟨ept, hept⟩ := exists_eptInMemory moduleFits_stacks.frameMap moduleFits_stacks.tables
    o.ept
  obtain ⟨host, hhost⟩ := exists_inMemory moduleFits_stacks.hostPageTable
    (moduleFits_stacks.frameMap.mono (by decide)) o.hostPageTable
  refine ⟨fun x => if x.toNat < 0xa04000 then host x
    else if x.toNat < 0x1006000 then ept x else contextMemory x, ?_, ?_, fun i a ha => ?_⟩
  · refine hept.congr moduleFits_stacks.frameMap moduleFits_stacks.tables fun k hk x hx => ?_
    have hnum := congrArg BitVec.toNat hx
    have hstart : firmware.layout.ept.epml4.toNat = 0xa04000 := rfl
    have hsize : EptLayout.tablesSize = 0x602000 := rfl
    rw [toNat_pageOf, id, objectPlaced_stacks.tables.toNat_page hk, hstart] at hnum
    rw [if_neg (by omega), if_pos (by omega)]
  · refine hhost.congr moduleFits_stacks.frameMap moduleFits_stacks.hostPageTable fun k hk x hx => ?_
    have hnum := congrArg BitVec.toNat hx
    have hstart : firmware.layout.hostPageTable.toNat = 0x600000 := rfl
    have hsize : PageTable.sizeOf = 0x404000 := rfl
    rw [toNat_pageOf, id, objectPlaced_stacks.hostPageTable.toNat_page hk, hstart] at hnum
    rw [if_pos (by omega)]
  · have hmem := mem_cpuStack.mp ha
    dsimp only
    rw [if_neg (by omega), if_neg (by omega)]

/-- The VMX state of a CPU in its guest. -/
def cpuVmx (i : Fin maxCpus) : VmxState where
  vmxonPointer := some (0x1107000#64 + BitVec.ofNat 64 (i * 0x1000))
  current := some (cpuVmm i).vmcs
  regions _ := ⟨1#32, true, fun f => (cpuFrame i).hostRsp.setWidth f.width⟩

theorem hostReady_cpuVmm (i : Fin maxCpus) {m : ByteMemory 64}
    (hm : Context.read m (cpuFrame i).hostContext = cpuContext i) :
    (cpuVmm i).HostReady m (cpuVmx i) := by
  refine ⟨hm, trivial, rfl, rfl, ?_⟩
  show ((cpuFrame i).hostRsp.setWidth VmcsField.hostRsp.width).setWidth 64 = (cpuFrame i).hostRsp
  exact (BitVec.setWidth_setWidth_of_le _ (by decide)).trans (BitVec.setWidth_eq _)

/-- A state in which every CPU is in its guest. -/
theorem exists_ready {o : Object} {guestCr3 : Word} {mtrrs : Vector Mtrr 8}
    (hinst : (cpuHost o).Installed firmware.layout id guestCr3 mtrrs o.tables cpuStack)
    (registers : Fin maxCpus → Registers) : ∃ s : Guests (Fin maxCpus),
    (cpuHost o).Ready firmware.layout id o.tables s ∧ s.registers = registers := by
  obtain ⟨phys, hept, hhost, hstacks⟩ := exists_stacksMemory o
  refine ⟨⟨phys, registers, cpuVmx⟩, ⟨hept, hhost, fun i => ?_⟩, rfl⟩
  have hread : Context.read ((cpuHost o).view phys) (cpuFrame i).hostContext =
      Context.read contextMemory (cpuFrame i).hostContext := by
    refine Context.read_eq_of_region fun a ha => ?_
    have hmem := cpuFrame_subset i ((cpuFrame i).hostContext_subset ha)
    exact (hinst.view hhost hmem).trans (hstacks i a hmem)
  rw [cpuHost_vmm]
  exact hostReady_cpuVmm i (hread.trans (read_contextMemory i))

/-- A read of the module by CPU 3, between a `cpuid` and a store of CPU 5. -/
def guestTurns : List (Turn (Fin maxCpus)) :=
  [⟨⟨5, by decide⟩, fun _ => .exit BasicReason.cpuid, 2#32, silentCpu⟩,
    ⟨⟨3, by decide⟩, fun r => .load .read 0x600000#48 fun value =>
      { r with gpr := Function.update r.gpr .rax (value.setWidth 64) }, 3#32, silentCpu⟩,
    ⟨⟨5, by decide⟩, fun r => .store 0x5000#48 1#8 r, 3#32, silentCpu⟩]

/-- None of the turns executes `xsetbv` or `invd`. -/
theorem enabled_guestTurns (reach : Set GuestAddress) (b : Bare (Fin maxCpus)) :
    Simulation.Enabled (Bare.step reach) (fun t b => b.Executes t) guestTurns b := by
  refine Simulation.enabled_of_forall (fun t ht b reason hreason => ?_) b
  simp only [guestTurns, List.mem_cons, List.not_mem_nil, or_false] at ht
  rcases ht with rfl | rfl | rfl
  · obtain rfl := GuestStep.exit.inj hreason
    exact executes_cpuidRun _
  · cases hreason
  · cases hreason

theorem zppLoadElf_guests_keep_stacks : ∃ s s' : Guests (Fin maxCpus),
    Simulation.run (cpuHost (zppLoadElf none (fun _ => stacksCall) maxCpus).object).step guestTurns s =
        some s' ∧
      ∀ i, (cpuVmm i).HostReady
        ((cpuHost (zppLoadElf none (fun _ => stacksCall) maxCpus).object).view s'.phys) (s'.vmx i) := by
  obtain ⟨s, hs, -⟩ := exists_ready (installed_zppLoadElf (fun _ => rfl) moduleFits_stacks.placed
    objectPlaced_stacks (virtualToPhysical_ofCr3_none _ _) (by decide) exists_launched_stacks
    (runsOn_cpuHost _) (hasStacks_cpuHost _)) fun _ => smallGuest.toRegisters
  obtain ⟨s', hrun, -, -, -, hready⟩ := zppLoadElf_guests_keep (fun _ => rfl)
    moduleFits_stacks.placed objectPlaced_stacks (virtualToPhysical_ofCr3_none _ _) (by decide)
    exists_launched_stacks (runsOn_cpuHost _) (hasStacks_cpuHost _) hs guestTurns
    (enabled_guestTurns _ _)
  exact ⟨s, s', hrun, hready⟩

end Zpp.Loader
