import ZppHypervisor.Equiv.LoaderGuests
import ZppHypervisor.Hypervisor.Equiv.VmEntry

/-!
# The VMCS of every launch

On processors that can run the hypervisor, with the capabilities of the first, every launch of a load
that comes to `vmlaunch` has written a VMCS that passes the checks of the VM entry
(`zppLoadElf_entersGuest`).
-/

namespace Zpp.Loader

open Hypervisor X64 X64.Intel Loop

variable {physicalToVirtual : Option (Word → Word)} {calls : ℕ → CpuCall}

section EntersGuest

variable {layout : Layout} {m : Module} {os : Word → Word}
  (hlayout : ∀ i, (calls i).platform.layout = layout)
  (hplaced : ModulePlaced (calls 0).platform m os) (hobject : ObjectPlaced layout m)
  (hos : (OsPageTable.ofCr3 (calls 0).cpu.cr3 physicalToVirtual).virtualToPhysical
    (calls 0).platform.memory = os)

/-- Once a launch has proceeded, the cached MSRs are those of the first CPU. -/
theorem vmxMsrs_loadCpus {k : ℕ} (hk : k ≤ 2 ^ 64)
    (hlaunched : ∃ l ∈ (loadCpus physicalToVirtual calls k).launches, l.result = some 0) :
    (loadCpus physicalToVirtual calls k).object.vmxMsrs = (calls 0).platform.rdmsr := by
  refine (objectInv_loadCpus (P := (·.vmxMsrs = (calls 0).platform.rdmsr)) (fun hresult => ?_)
    (fun i o hcpuid ho => ?_) hk).holds hlaunched
  · obtain ⟨m', hrun, hm'⟩ := exists_launched hresult
    rw [hm']
    exact vmxMsrs_of_runMain_first hrun
  · rw [launch_object]
    exact runMain_keepsVmxMsrs hcpuid physicalToVirtual ho

/-- A CPU whose launch has proceeded. -/
theorem exists_launched_of_enters {k : ℕ} (henters : Enters physicalToVirtual calls k)
    (hresult : (launch physicalToVirtual (calls k) (BitVec.ofNat 64 k)
      (loadCpus physicalToVirtual calls k).object).1.result = some 0) :
    ∃ l ∈ (loadCpus physicalToVirtual calls (k + 1)).launches, l.result = some 0 := by
  rw [loadCpus_succ, launches_of_enters henters.1 henters.2]
  exact ⟨_, List.mem_append_right _ (List.mem_singleton_self _), hresult⟩

/-- What the launch on CPU `k` has set when it comes to `setup_vmcs`. -/
theorem launchMembers_of_enters {k : ℕ} (henters : Enters physicalToVirtual calls k)
    (hresult : (launch physicalToVirtual (calls k) (BitVec.ofNat 64 k)
      (loadCpus physicalToVirtual calls k).object).1.result = some 0) :
    LaunchMembers (calls k).platform (calls k).cpu (BitVec.ofNat 64 k)
      (loadCpus physicalToVirtual calls (k + 1)).object.atSetup := by
  obtain ⟨-, hcounts⟩ := (runInv_loadCpus physicalToVirtual calls k).running henters.1
  obtain ⟨m', hrun, hm'⟩ := exists_launched hresult
  rw [henters.object_succ, hm', ← entered_nextVirtualProcessor hcounts (calls k)]
  exact launchMembers_of_runMain hrun

/-- The physical addresses that a launch on CPU `k` writes. -/
theorem physicalPages_of_vmxPages (hframes : FrameMap m (2 ^ 39) os)
    (hobject : ObjectPlaced layout m) (hsize : m.size.toNat ≤ 2 ^ 30) {processor : Processor}
    (h12 : 12 ≤ processor.physicalAddressWidth)
    (hwidth : ∀ a, m.HasPage a → (os a).toNat < 2 ^ processor.physicalAddressWidth) {index : Word}
    {o : Object} (hpages : VmxPages layout os index o) {guestCr3 : Word} {mtrrs : Vector Mtrr 8}
    (hguarded : Guarded layout m os guestCr3 mtrrs o.tables) : PhysicalPages processor o.atSetup := by
  have hepml4 : m.HasPage (layout.ept.epml4 + BitVec.ofNat 64 0 * 0x1000#64) :=
    hobject.tables.hasPage (by decide) (by decide)
  have hbitmap : m.HasPage (layout.msrBitmap + BitVec.ofNat 64 0 * 0x1000#64) :=
    hobject.msrBitmap.hasPage (by decide) (by decide)
  have hpml4 : m.HasPage (PageTable.pml4Address layout.hostPageTable) :=
    hasPage_table hobject.hostPageTable .pml4
  rw [BitVec.zero_mul, BitVec.add_zero] at hepml4 hbitmap
  have heptp : o.atSetup.epml4Physical = os layout.ept.epml4 := hpages.epml4
  have hmsr : o.atSetup.msrBitmapPhysical = os layout.msrBitmap := hpages.msrBitmap
  constructor
  · rw [heptp]
    exact hframes.aligned _ hepml4
  · rw [heptp]
    exact hwidth _ hepml4
  · rw [heptp]
    exact (hframes.lt _ hepml4).trans (by decide)
  · have hoffset : os layout.msrBitmap &&& 0xfff#64 = 0#64 := by
      rw [← BitVec.toNat_inj, toNat_and_fff, hframes.aligned _ hbitmap]
      rfl
    rw [hmsr, Processor.validPointer, hoffset, decide_eq_true (hwidth _ hbitmap)]
    rfl
  · have hflags : (guestCr3 &&& 0xfff#64).toNat < 2 ^ processor.physicalAddressWidth := by
      have hlt : guestCr3.toNat % 0x1000 < 2 ^ 12 := Nat.mod_lt _ (by decide)
      rw [toNat_and_fff]
      exact hlt.trans_le (Nat.pow_le_pow_right (by norm_num) h12)
    show o.tables.hostCr3.toNat < _
    rw [← hguarded.hostCr3_eq hsize hframes hobject.hostPageTable, BitVec.toNat_or]
    exact Nat.or_lt_two_pow (hwidth _ hpml4) hflags

/-- The VPID of CPU `k` is not zero. -/
theorem vpid_ne_zero {k : ℕ} (hk : k < maxCpus) {o : Object}
    (ho : o.nextVirtualProcessor - 1#64 = BitVec.ofNat 64 k) :
    (o.nextVirtualProcessor.setWidth 16).setWidth 64 ≠ 0#64 := by
  have hmax : maxCpus = 16 := rfl
  have hnext : o.nextVirtualProcessor = BitVec.ofNat 64 (k + 1) := by
    rw [BitVec.ofNat_add, ← ho, BitVec.sub_add_cancel]
  rw [hnext]
  intro h0
  have hnum := congrArg BitVec.toNat h0
  rw [BitVec.toNat_setWidth, BitVec.toNat_setWidth, BitVec.toNat_ofNat, BitVec.toNat_ofNat] at hnum
  omega

include hlayout hplaced hobject hos in
/-- **Every launch enters its guest.**  On a processor that can run the hypervisor and has the
capabilities of the first, and from an operating system in 64-bit mode, a launch that proceeds has
written a VMCS with which the VM entry finds nothing wrong in the controls, in the host state, and in
the guest state but for its segments. -/
theorem zppLoadElf_entersGuest {cpus k : ℕ} (hk : k < maxCpus) {l : Launch}
    (hl : (zppLoadElf physicalToVirtual calls cpus).launches[k]? = some l)
    (hresult : l.result = some 0) {processor : Processor}
    (hprocessor : RunsHypervisor processor (calls 0).platform.rdmsr)
    (hwidth : ∀ a, m.HasPage a → (os a).toNat < 2 ^ processor.physicalAddressWidth) {x : LaunchInput}
    (hfrom : LaunchesFrom processor (calls k).platform (calls k).cpu (BitVec.ofNat 64 k) x)
    {s : VmxState} {vmcs : Word} (hvmxon : s.vmxonPointer.isSome = true)
    (hcurrent : s.current = some vmcs) (hzero : ∀ f ∈ unwritten, s.field vmcs f = 0#64) :
    ∃ s', writeFields processor
        (launchVmcs x (loadCpus physicalToVirtual calls (k + 1)).object.atSetup) s = some s' ∧
      ControlChecks processor (calls 0).platform.rdmsr (s'.field vmcs) ∧
      HostChecks processor (calls 0).platform.rdmsr (s'.field vmcs) ∧
      GuestChecks processor (calls 0).platform.rdmsr (s'.field vmcs) := by
  have hmax : maxCpus = 16 := rfl
  rw [launches_zppLoadElf] at hl
  obtain ⟨-, henters, rfl⟩ := launch_of_getElem? hl
  have hlaunched := exists_launched_of_enters henters hresult
  obtain ⟨hguarded, -⟩ := (tablesInv_loadCpus hlayout hplaced hos (k := k + 1) (by omega)).holds
    hlaunched
  have hmsrs := vmxMsrs_loadCpus (k := k + 1) (by omega) hlaunched
  have hmembers := launchMembers_of_enters henters hresult
  have hpages := physicalPages_of_vmxPages hplaced.frameMap hobject hplaced.size_le hprocessor.width
    hwidth (vmxPages_of_enters hlayout hplaced hos hobject hk henters hresult) hguarded
  have hvpid := vpid_ne_zero hk hmembers.nextVirtualProcessor
  change ((loadCpus physicalToVirtual calls (k + 1)).object.atSetup).vmxMsrs = _ at hmsrs
  generalize (loadCpus physicalToVirtual calls (k + 1)).object.atSetup = o at *
  have hwritten := written_launchVmcs x o s vmcs
  have hrest := unwritten_launchVmcs x o hzero
  exact ⟨_, writeFields_launchVmcs hprocessor x o hvmxon hcurrent,
    controlChecks hprocessor hmsrs hpages hvpid (hwritten.of_subset (launchVmcs_subset x o).1) hrest,
    hostChecks hprocessor hmsrs hmembers hfrom hpages hwritten hrest,
    guestChecks hprocessor hmsrs hmembers hfrom hwritten hrest⟩

end EntersGuest

/-! The second of two CPUs with the capabilities of a common processor. -/

def vmxCapabilities (msr : ℕ) : Word :=
  if msr = 0x486 then 0x80000021#64
  else if msr = 0x487 then 0xffffffff#64
  else if msr = 0x488 then 0x2000#64
  else if msr = 0x489 then 0x3767ff#64
  else if msr = 0x48b then 0x00553cfe00000000#64
  else if msr = 0x48c then 0xf0106334141#64
  else if msr = 0x48d then 0x7f00000016#64
  else if msr = 0x48e then 0xfff9fffe04006172#64
  else if msr = 0x48f then 0x1ffffff00036dfb#64
  else if msr = 0x490 then 0xffff000011fb#64
  else 0#64

def vmxProcessor : Processor := ⟨1#32, 39, fun _ => true, fun _ => true⟩

def vmxCall : CpuCall :=
  { firmwareCall with platform := { firmware with rdmsr := vmxCapabilities } }

def vmxInput : LaunchInput where
  host := ⟨0xa00000#64, 0xa00100#64, 0xa00200#64, 0xa00300#64, 0xa00400#64⟩
  registers :=
    { segments := ⟨8, 0x10, 0x10, 0x10, 0x10, 0x10, ⟨0x8000#64, 0x7f#16⟩, 0, 0x40, 0#64, 0#64⟩
      idtr := ⟨0x9000#64, 0xfff#16⟩
      guestDr7 := 0x400#64
      ia32DebugControl := 0#64 }
  segments := launchSegments (fun _ => 0#8) 0x1016000#64 0x1106068#64
    ⟨8, 0x10, 0x10, 0x10, 0x10, 0x10, ⟨0x8000#64, 0x7f#16⟩, 0, 0x40, 0#64, 0#64⟩
  guestContext := smallHostContext
  vmExitEntry := 0x403000#64
  hostRsp := 0x2fe000#64

theorem runsHypervisor_vmxProcessor : RunsHypervisor vmxProcessor vmxCapabilities where
  fields _ _ := ⟨rfl, rfl⟩
  width := by decide
  allowed := by decide
  pinBased := rfl
  primary := rfl
  secondary := rfl
  exit := rfl
  entry := rfl
  modeBasedExecuteControl _ := rfl
  hostAddressSpaceSize := rfl
  ept := ⟨rfl, rfl⟩
  cr0 := ⟨by decide, by decide⟩
  cr4 := ⟨by decide, by decide⟩
  paging := rfl
  pae := rfl

theorem launchesFrom_vmxInput :
    LaunchesFrom vmxProcessor vmxCall.platform vmxCall.cpu (BitVec.ofNat 64 1) vmxInput where
  paging := rfl
  pae := rfl
  cr3 := by decide
  gdt := rfl
  intermediateGdt := rfl
  gdtLimit _ := by decide
  idt := rfl
  rip := rfl
  rflags := rfl
  host := by
    simp only [List.forall_mem_cons]
    exact ⟨rfl, rfl, rfl, rfl, rfl, rfl, nofun⟩

/-- A cleared VMCS. -/
def vmxState : VmxState where
  vmxonPointer := some 0x1108000#64
  current := some 0x1118000#64
  regions _ := ⟨1#32, false, fun _ => 0⟩

theorem zppLoadElf_entersGuest_vmxCall :
    ∃ s', writeFields vmxProcessor
        (launchVmcs vmxInput (loadCpus none (fun _ => vmxCall) 2).object.atSetup) vmxState = some s' ∧
      ControlChecks vmxProcessor vmxCapabilities (s'.field 0x1118000#64) ∧
      HostChecks vmxProcessor vmxCapabilities (s'.field 0x1118000#64) ∧
      GuestChecks vmxProcessor vmxCapabilities (s'.field 0x1118000#64) := by
  have hfit : ModuleFits ((fun _ => vmxCall) 0).platform launchModule id :=
    ⟨rfl, rfl, moduleFits_firmware.size_le, moduleFits_firmware.hostPageTable,
      moduleFits_firmware.tables, moduleFits_firmware.unprotectedMemory, moduleFits_firmware.frameMap,
      moduleFits_firmware.pages_lt, moduleFits_firmware.regions_lt⟩
  have hos := virtualToPhysical_ofCr3_none firmwareCall.cpu.cr3 firmware.memory
  have hcarry : ∀ i : ℕ, ((fun _ => vmxCall) i).platform.NoCarry := fun _ => ⟨rfl, rfl, rfl⟩
  have henters : Enters none (fun _ => vmxCall) 1 :=
    ⟨(running_iff hfit hos hcarry (by decide)).mpr fun _ _ => ⟨rfl, rfl⟩, rfl⟩
  have hl := henters.getElem?_launches (by decide : 1 < 2)
  have hresult := @result_loadCpus none (fun _ => vmxCall) launchModule id hfit hos hcarry 1 (by decide)
  rw [← launches_zppLoadElf] at hl
  refine zppLoadElf_entersGuest (fun _ => rfl) hfit.placed objectPlaced_firmware hos (by decide) hl
    hresult runsHypervisor_vmxProcessor (fun a ha => ?_) launchesFrom_vmxInput rfl rfl fun _ _ => ?_
  · exact hfit.frameMap.lt a ha
  · exact BitVec.setWidth_zero _ _

end Zpp.Loader
