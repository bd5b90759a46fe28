import ZppHypervisor.Hypervisor.Equiv.SetupVmcs

/-!
# The VMCS of a launch passes the checks of a VM entry

`controlChecks`, `hostChecks` and `guestChecks`: on a processor that can run the hypervisor, from an
operating system in 64-bit mode, the fields that a launch writes, and those that it leaves zero
(`unwritten`), are such as a VM entry demands.
-/

namespace Zpp.Hypervisor

open X64 X64.Intel

/-! ### The fields -/

/-- The fields of a launch. -/
def launchVmcsNames : List VmcsField :=
  [.vmcsLinkPointer, .vpid, .eptPointer, .msrBitmap, .secondaryProcessorBasedVmExecutionControls,
    .pinBasedVmExecutionControls, .primaryProcessorBasedVmExecutionControls, .vmExitControls,
    .vmEntryControls, .guestCsSelector, .guestCsLimit, .guestCsAccessRights, .guestCsBase,
    .hostCsSelector, .guestDsSelector, .guestDsLimit, .guestDsAccessRights, .guestDsBase,
    .hostDsSelector, .guestEsSelector, .guestEsLimit, .guestEsAccessRights, .guestEsBase,
    .hostEsSelector, .guestFsSelector, .guestFsLimit, .guestFsAccessRights, .guestFsBase, .hostFsBase,
    .hostFsSelector, .guestGsSelector, .guestGsLimit, .guestGsAccessRights, .guestGsBase, .hostGsBase,
    .hostGsSelector, .guestSsSelector, .guestSsLimit, .guestSsAccessRights, .guestSsBase,
    .hostSsSelector, .guestTrSelector, .guestTrLimit, .guestTrAccessRights, .guestTrBase, .hostTrBase,
    .hostTrSelector, .guestLdtrSelector, .guestLdtrLimit, .guestLdtrAccessRights, .guestLdtrBase,
    .guestGdtrLimit, .guestGdtrBase, .hostGdtrBase, .guestIdtrLimit, .guestIdtrBase, .hostIdtrBase,
    .cr0ReadShadow, .guestCr0, .hostCr0, .guestCr3, .hostCr3, .cr4ReadShadow, .guestCr4, .hostCr4,
    .guestIa32Debugctl, .guestDr7, .guestRflags, .hostRip, .hostRsp, .guestRip, .guestRsp]

theorem map_fst_launchVmcs (x : LaunchInput) (o : Object) :
    (launchVmcs x o).map Prod.fst = launchVmcsNames := by
  simp only [launchVmcs, setupFields, controlFields, allSegmentFields, segmentFields, registerFields,
    vmLaunchFields, List.map_cons, List.map_nil, List.cons_append, List.nil_append,
    launchVmcsNames]

/-- No field is written twice. -/
theorem nodup_launchVmcs (x : LaunchInput) (o : Object) : ((launchVmcs x o).map Prod.fst).Nodup := by
  rw [map_fst_launchVmcs]
  decide +kernel

/-- The fields that have to be zero, which a launch does not write. -/
def unwritten : List VmcsField :=
  [.cr3TargetCount, .vmExitMsrStoreCount, .vmExitMsrLoadCount, .vmEntryMsrLoadCount,
    .vmEntryInterruptionInformationField, .guestInterruptibilityState, .guestActivityState,
    .hostIa32SysenterEsp, .hostIa32SysenterEip, .guestIa32SysenterEsp, .guestIa32SysenterEip,
    .guestPendingDebugExceptions]

theorem unwritten_not_mem {f : VmcsField} (hf : f ∈ unwritten) : f ∉ launchVmcsNames := by
  revert f
  decide +kernel

/-- The fields have the values of the list, cut to their widths. -/
def Written (field : VmcsField → Word) (l : List (VmcsField × Word)) : Prop :=
  ∀ x ∈ l, field x.1 = (x.2.setWidth x.1.width).setWidth 64

theorem Written.of_subset {field : VmcsField → Word} {l l' : List (VmcsField × Word)}
    (h : Written field l) (hl : l' ⊆ l) : Written field l' := fun x hx => h x (hl hx)

section Fits

variable {f : VmcsField} {value v : Word}

/-- A field that holds all of its value. -/
theorem eq_of_fits (hf : 64 ≤ f.width) (h : v = (value.setWidth f.width).setWidth 64) : v = value :=
  h.trans ((BitVec.setWidth_setWidth_of_le value hf).trans (BitVec.setWidth_eq value))

theorem eq_of_width {w : ℕ} (hf : f.width = w) (h : v = (value.setWidth f.width).setWidth 64) :
    v = (value.setWidth w).setWidth 64 := hf ▸ h

end Fits

/-! ### The processor -/

/-- The allowed settings of the controls. -/
def controlMsrs : List ℕ :=
  [msrVmxProcessorBasedControls2, msrVmxTruePinBasedControls, msrVmxTrueProcessorBasedControls,
    msrVmxTrueExitControls, msrVmxTrueEntryControls]

/-- A processor that can run the hypervisor. -/
structure RunsHypervisor (processor : Processor) (rdmsr : ℕ → Word) : Prop where
  fields : ∀ f ∈ launchVmcsNames, processor.supported f = true ∧ processor.writable f = true
  width : 12 ≤ processor.physicalAddressWidth
  /-- What has to be 1 may be 1. -/
  allowed : ∀ msr ∈ controlMsrs, ∀ i < 32,
    (rdmsr msr).getLsbD i = true → (rdmsr msr).getLsbD (i + 32) = true
  /-- No control with further checks has to be 1, and no secondary control at all. -/
  pinBased : rdmsr msrVmxTruePinBasedControls &&& checkedPinBased = 0#64
  primary : rdmsr msrVmxTrueProcessorBasedControls &&& checkedPrimary = 0#64
  secondary : rdmsr msrVmxProcessorBasedControls2 &&& 0xffffffff#64 = 0#64
  exit : rdmsr msrVmxTrueExitControls &&& checkedExit = 0#64
  entry : rdmsr msrVmxTrueEntryControls &&& checkedEntry = 0#64
  /-- Mode-based execute control is for extended page tables. -/
  modeBasedExecuteControl : (rdmsr msrVmxProcessorBasedControls2).getLsbD (22 + 32) = true →
    (rdmsr msrVmxProcessorBasedControls2).getLsbD (1 + 32) = true
  hostAddressSpaceSize : (rdmsr msrVmxTrueExitControls).getLsbD (9 + 32) = true
  /-- Extended page tables have four levels and may be write-back. -/
  ept : (rdmsr 0x48c).getLsbD 6 = true ∧ (rdmsr 0x48c).getLsbD 14 = true
  cr0 : (rdmsr msrVmxCr0Fixed0).toNat < 2 ^ 32 ∧ ∀ i < 64,
    (rdmsr msrVmxCr0Fixed0).getLsbD i = true → (rdmsr msrVmxCr0Fixed1).getLsbD i = true
  cr4 : (rdmsr msrVmxCr4Fixed0).toNat < 2 ^ 32 ∧ ∀ i < 64,
    (rdmsr msrVmxCr4Fixed0).getLsbD i = true → (rdmsr msrVmxCr4Fixed1).getLsbD i = true
  /-- Paging and physical-address extension may be on. -/
  paging : (rdmsr msrVmxCr0Fixed1).getLsbD 31 = true
  pae : (rdmsr msrVmxCr4Fixed1).getLsbD 5 = true

theorem RunsHypervisor.secondary_getLsbD {processor : Processor} {rdmsr : ℕ → Word}
    (h : RunsHypervisor processor rdmsr) {i : ℕ} (hi : i < 32) :
    (rdmsr msrVmxProcessorBasedControls2).getLsbD i = false := by
  have hbit := congrArg (BitVec.getLsbD · i) h.secondary
  simp only [BitVec.getLsbD_and, BitVec.getLsbD_zero] at hbit
  rwa [getLsbD_low_mask, decide_eq_true hi, Bool.and_true] at hbit

/-- What the operating system gives a launch. -/
structure LaunchesFrom (processor : Processor) (p : Platform) (cpu : Cpu) (index : Word)
    (x : LaunchInput) : Prop where
  /-- The operating system is a 64-bit one. -/
  paging : cpu.cr0.getLsbD 31 = true
  pae : cpu.cr4.getLsbD 5 = true
  cr3 : cpu.cr3.toNat < 2 ^ processor.physicalAddressWidth
  gdt : Canonical cpu.gdtr.base
  intermediateGdt : Canonical (p.layout.intermediateGdt index)
  /-- A new task state segment fits behind its GDT. -/
  gdtLimit : p.taskStateSegmentPresent = false → cpu.gdtr.limit.toNat + 16 ≤ 0xffff
  idt : Canonical x.registers.idtr.base
  rip : Canonical x.guestContext.rip
  /-- `rflags` has its reserved bits, and no virtual 8086 mode. -/
  rflags : x.guestContext.rflags &&& 0xffffffffffc2802a#64 = 2#64
  host : ∀ a ∈ [x.host.hostGdt, x.host.hostIdt, x.host.fsData, x.host.gsData, x.host.hostTss,
    x.vmExitEntry], Canonical a

/-! ### The writes -/

theorem written_launchVmcs (x : LaunchInput) (o : Object) (s : VmxState) (vmcs : Word) :
    Written ((s.setFields vmcs (launchVmcs x o)).field vmcs) (launchVmcs x o) :=
  fun _ hy => VmxState.field_setFields (nodup_launchVmcs x o) hy

/-- The fields that a launch does not write stay zero. -/
theorem unwritten_launchVmcs (x : LaunchInput) (o : Object) {s : VmxState} {vmcs : Word}
    (hzero : ∀ f ∈ unwritten, s.field vmcs f = 0#64) :
    ∀ f ∈ unwritten, (s.setFields vmcs (launchVmcs x o)).field vmcs f = 0#64 := by
  intro f hf
  refine (VmxState.field_setFields_of_not_mem ?_).trans (hzero f hf)
  rw [map_fst_launchVmcs]
  exact unwritten_not_mem hf

theorem writeFields_launchVmcs {processor : Processor} {rdmsr : ℕ → Word}
    (hprocessor : RunsHypervisor processor rdmsr) (x : LaunchInput) (o : Object) {s : VmxState}
    {vmcs : Word} (hvmxon : s.vmxonPointer.isSome = true) (hcurrent : s.current = some vmcs) :
    writeFields processor (launchVmcs x o) s = some (s.setFields vmcs (launchVmcs x o)) := by
  refine writeFields_eq ?_ hvmxon hcurrent
  rw [map_fst_launchVmcs]
  exact hprocessor.fields

/-! ### The checks -/

section Checks

variable {processor : Processor} {rdmsr : ℕ → Word} {field : VmcsField → Word} {x : LaunchInput}
  {o : Object}

/-- The physical addresses that the VMCS has. -/
structure PhysicalPages (processor : Processor) (o : Object) : Prop where
  epml4 : o.epml4Physical.toNat % 0x1000 = 0
  epml4_lt : o.epml4Physical.toNat < 2 ^ processor.physicalAddressWidth
  epml4_lt_52 : o.epml4Physical.toNat < 2 ^ 52
  msrBitmap : processor.validPointer o.msrBitmapPhysical = true
  hostCr3 : o.hostCr3.toNat < 2 ^ processor.physicalAddressWidth

theorem controlChecks (hprocessor : RunsHypervisor processor rdmsr) (hmsrs : o.vmxMsrs = rdmsr)
    (hpages : PhysicalPages processor o)
    (hvpid : (o.nextVirtualProcessor.setWidth 16).setWidth 64 ≠ 0#64)
    (hwritten : Written field (controlFields o)) (hunwritten : ∀ f ∈ unwritten, field f = 0#64) :
    ControlChecks processor rdmsr field := by
  have hallowed : ∀ msr ∈ controlMsrs, ∀ value,
      AllowedControls (rdmsr msr) (((adjustMsr (rdmsr msr) value).setWidth 32).setWidth 64) :=
    fun msr hmsr value => allowedControls_adjustMsr (hprocessor.allowed msr hmsr) value
  simp only [Written, controlFields, List.forall_mem_cons, hmsrs] at hwritten
  obtain ⟨-, hfvpid, heptp, hbitmap, hsecondary, hpin, hprimary, hexit, hentry, -⟩ := hwritten
  replace hfvpid := eq_of_width (w := 16) rfl hfvpid
  replace heptp := eq_of_fits (by decide) heptp
  replace hbitmap := eq_of_fits (by decide) hbitmap
  replace hsecondary := eq_of_width (w := 32) rfl hsecondary
  replace hpin := eq_of_width (w := 32) rfl hpin
  replace hprimary := eq_of_width (w := 32) rfl hprimary
  replace hexit := eq_of_width (w := 32) rfl hexit
  replace hentry := eq_of_width (w := 32) rfl hentry
  constructor
  · rw [hpin]
    exact hallowed _ (by decide) _
  · rw [hprimary]
    exact hallowed _ (by decide) _
  · rw [hsecondary]
    exact fun _ => hallowed _ (by decide) _
  · rw [hexit]
    exact hallowed _ (by decide) _
  · rw [hentry]
    exact hallowed _ (by decide) _
  · rw [hunwritten _ (by decide)]
    decide
  · rw [hbitmap]
    exact fun _ => hpages.msrBitmap
  · rw [hfvpid]
    exact fun _ => hvpid
  · rw [heptp]
    exact fun _ => setupEptp_checks hpages.epml4 hpages.epml4_lt hpages.epml4_lt_52 hprocessor.width
      hprocessor.ept.1 hprocessor.ept.2
  · rw [hsecondary]
    intro hmode
    refine getLsbD_adjustMsr_requested (by decide) rfl (hprocessor.modeBasedExecuteControl ?_)
    rw [getLsbD_setWidth_32 _ (by decide), getLsbD_adjustMsr _ _ (by decide),
      hprocessor.secondary_getLsbD (i := 22) (by decide), Bool.or_false] at hmode
    exact (Bool.and_eq_true_iff.mp hmode).2
  · rw [hpin, hprimary, hsecondary, hexit, hentry]
    have hsecondary0 : rdmsr msrVmxProcessorBasedControls2 &&& checkedSecondary = 0#64 := by
      have hmask : checkedSecondary = 0xffffffff#64 &&& checkedSecondary := by decide
      rw [hmask, ← BitVec.and_assoc, hprocessor.secondary, BitVec.zero_and]
    exact ⟨adjustMsr_and_eq_zero (by decide) (by decide) hprocessor.pinBased,
      adjustMsr_and_eq_zero (by decide) (by decide) hprocessor.primary,
      adjustMsr_and_eq_zero (by decide) (by decide) hsecondary0,
      adjustMsr_and_eq_zero (by decide) (by decide) hprocessor.exit,
      adjustMsr_and_eq_zero (by decide) (by decide) hprocessor.entry⟩
  · exact hunwritten _ (by decide)
  · exact hunwritten _ (by decide)
  · exact hunwritten _ (by decide)
  · rw [hunwritten _ (by decide)]
    decide

/-- The host fields among those of the segments. -/
structure HostSegments (host : HostLayout) (field : VmcsField → Word) : Prop where
  cs : field .hostCsSelector = 8#64
  tr : field .hostTrSelector = 16#64
  null : ∀ f ∈ [VmcsField.hostDsSelector, .hostEsSelector, .hostFsSelector, .hostGsSelector,
    .hostSsSelector], field f = 0#64
  fsBase : field .hostFsBase = host.fsData
  gsBase : field .hostGsBase = host.gsData
  trBase : field .hostTrBase = host.hostTss

theorem hostSegments {host : HostLayout} {segments : GuestSegments}
    (h : Written field (allSegmentFields host segments)) : HostSegments host field := by
  simp only [Written, allSegmentFields, segmentFields, List.cons_append, List.nil_append,
    List.forall_mem_cons] at h
  obtain ⟨-, -, -, -, hcs, -, -, -, -, hds, -, -, -, -, hes, -, -, -, -, hfsBase, hfs, -, -, -, -,
    hgsBase, hgs, -, -, -, -, hss, -, -, -, -, htrBase, htr, -⟩ := h
  constructor
  · exact hcs
  · exact htr
  · simp only [List.forall_mem_cons]
    exact ⟨hds, hes, hfs, hgs, hss, fun f hf => absurd hf List.not_mem_nil⟩
  · exact eq_of_fits (by decide) hfsBase
  · exact eq_of_fits (by decide) hgsBase
  · exact eq_of_fits (by decide) htrBase

theorem launchVmcs_subset (x : LaunchInput) (o : Object) :
    controlFields o ⊆ launchVmcs x o ∧ allSegmentFields x.host x.segments ⊆ launchVmcs x o ∧
      registerFields x.host o x.registers x.guestContext ⊆ launchVmcs x o ∧
      vmLaunchFields x.guestContext x.vmExitEntry x.hostRsp ⊆ launchVmcs x o := by
  refine ⟨fun y hy => ?_, fun y hy => ?_, fun y hy => ?_, fun y hy => List.mem_append_right _ hy⟩
  · exact List.mem_append_left _ (List.mem_append_left _ (List.mem_append_left _ hy))
  · exact List.mem_append_left _ (List.mem_append_left _ (List.mem_append_right _ hy))
  · exact List.mem_append_left _ (List.mem_append_right _ hy)

/-- The values of the registers and the tables. -/
structure RegisterValues (x : LaunchInput) (o : Object) (field : VmcsField → Word) : Prop where
  guestGdtrLimit : field .guestGdtrLimit = (o.guestGdtLimit.setWidth 32).setWidth 64
  guestGdtrBase : field .guestGdtrBase = o.guestGdtPointer
  hostGdtrBase : field .hostGdtrBase = x.host.hostGdt
  guestIdtrLimit : field .guestIdtrLimit =
    ((x.registers.idtr.limit.setWidth 64).setWidth 32).setWidth 64
  guestIdtrBase : field .guestIdtrBase = x.registers.idtr.base
  hostIdtrBase : field .hostIdtrBase = x.host.hostIdt
  cr0ReadShadow : field .cr0ReadShadow = o.guestCr0
  guestCr0 : field .guestCr0 = o.hostCr0
  hostCr0 : field .hostCr0 = o.hostCr0
  guestCr3 : field .guestCr3 = o.guestCr3
  hostCr3 : field .hostCr3 = o.hostCr3
  cr4ReadShadow : field .cr4ReadShadow = o.guestCr4
  guestCr4 : field .guestCr4 = o.hostCr4
  hostCr4 : field .hostCr4 = o.hostCr4
  guestIa32Debugctl : field .guestIa32Debugctl = x.registers.ia32DebugControl
  guestDr7 : field .guestDr7 = x.registers.guestDr7
  guestRflags : field .guestRflags = x.guestContext.rflags
  hostRip : field .hostRip = x.vmExitEntry
  hostRsp : field .hostRsp = x.hostRsp
  guestRip : field .guestRip = x.guestContext.rip
  guestRsp : field .guestRsp = x.guestContext.gpr .rsp

theorem registerValues (h : Written field (launchVmcs x o)) : RegisterValues x o field := by
  have hregisters := h.of_subset (launchVmcs_subset x o).2.2.1
  have hlaunch := h.of_subset (launchVmcs_subset x o).2.2.2
  simp only [Written, registerFields, List.forall_mem_cons] at hregisters
  simp only [Written, vmLaunchFields, List.forall_mem_cons] at hlaunch
  obtain ⟨h1, h2, h3, h4, h5, h6, h7, h8, h9, h10, h11, h12, h13, h14, h15, h16, h17, -⟩ := hregisters
  obtain ⟨h18, h19, h20, h21, -⟩ := hlaunch
  exact ⟨eq_of_width rfl h1, eq_of_fits (by decide) h2, eq_of_fits (by decide) h3,
    eq_of_width rfl h4, eq_of_fits (by decide) h5, eq_of_fits (by decide) h6,
    eq_of_fits (by decide) h7, eq_of_fits (by decide) h8, eq_of_fits (by decide) h9,
    eq_of_fits (by decide) h10, eq_of_fits (by decide) h11, eq_of_fits (by decide) h12,
    eq_of_fits (by decide) h13, eq_of_fits (by decide) h14, eq_of_fits (by decide) h15,
    eq_of_fits (by decide) h16, eq_of_fits (by decide) h17, eq_of_fits (by decide) h18,
    eq_of_fits (by decide) h19, eq_of_fits (by decide) h20, eq_of_fits (by decide) h21⟩

section Registers

variable {p : Platform} {cpu : Cpu} {index : Word} (hprocessor : RunsHypervisor processor rdmsr)
  (hmsrs : o.vmxMsrs = rdmsr) (hmembers : LaunchMembers p cpu index o)
  (hfrom : LaunchesFrom processor p cpu index x)

include hmembers hfrom

/-- The guest finds its GDT at a canonical address, with a limit of 16 bits. -/
theorem guestGdt_spec : Canonical o.guestGdtPointer ∧ o.guestGdtLimit.toNat ≤ 0xffff := by
  have hlimit : cpu.gdtr.limit.toNat < 2 ^ 16 := cpu.gdtr.limit.isLt
  rw [hmembers.guestGdtPointer, hmembers.guestGdtLimit]
  split_ifs with hpresent
  · refine ⟨hfrom.gdt, ?_⟩
    rw [BitVec.toNat_setWidth]
    omega
  · have hfits := hfrom.gdtLimit (Bool.eq_false_of_not_eq_true hpresent)
    refine ⟨hfrom.intermediateGdt, ?_⟩
    rw [BitVec.toNat_add, BitVec.toNat_setWidth]
    show (cpu.gdtr.limit.toNat % 2 ^ 64 + 16) % 2 ^ 64 ≤ _
    omega

include hprocessor hmsrs

/-- The control registers of the host, which the guest has too. -/
theorem controlRegisters_spec :
    FixedBits (rdmsr msrVmxCr0Fixed0) (rdmsr msrVmxCr0Fixed1) o.hostCr0 ∧
      FixedBits (rdmsr msrVmxCr4Fixed0) (rdmsr msrVmxCr4Fixed1) o.hostCr4 ∧
      o.hostCr0.getLsbD 31 = true ∧ o.hostCr4.getLsbD 5 = true := by
  obtain ⟨hcr0, -, hcr4, -⟩ := hmembers.registers
  rw [hmembers.hostCr0, hmembers.hostCr4, hmsrs, hcr0, hcr4]
  exact ⟨fixedBits_adjustCr hprocessor.cr0.1 hprocessor.cr0.2 _,
    fixedBits_adjustCr hprocessor.cr4.1 hprocessor.cr4.2 _,
    getLsbD_adjustCr (by decide) hfrom.paging hprocessor.paging,
    getLsbD_adjustCr (by decide) hfrom.pae hprocessor.pae⟩

theorem hostChecks (hpages : PhysicalPages processor o) (hwritten : Written field (launchVmcs x o))
    (hunwritten : ∀ f ∈ unwritten, field f = 0#64) : HostChecks processor rdmsr field := by
  obtain ⟨hcr0, hcr4, -, hpae⟩ := controlRegisters_spec hprocessor hmsrs hmembers hfrom
  obtain ⟨hgdt, hidt, hfs, hgs, htss, hrip⟩ : Canonical x.host.hostGdt ∧ Canonical x.host.hostIdt ∧
      Canonical x.host.fsData ∧ Canonical x.host.gsData ∧ Canonical x.host.hostTss ∧
      Canonical x.vmExitEntry := by
    simpa only [List.forall_mem_cons, List.not_mem_nil, false_implies, implies_true, and_true]
      using hfrom.host
  have hsegments := hostSegments (hwritten.of_subset (launchVmcs_subset x o).2.1)
  have hvalues := registerValues hwritten
  have hzero : Canonical 0#64 := rfl
  constructor
  · rw [hvalues.hostCr0]
    exact hcr0
  · rw [hvalues.hostCr4]
    exact hcr4
  · rw [hvalues.hostCr3]
    exact hpages.hostCr3
  · rw [hunwritten _ (by decide), hunwritten .hostIa32SysenterEip (by decide)]
    exact ⟨hzero, hzero⟩
  · have hnull : ∀ f ∈ [VmcsField.hostDsSelector, .hostEsSelector, .hostFsSelector, .hostGsSelector,
        .hostSsSelector], field f &&& 7#64 = 0#64 := fun f hf => by
      rw [hsegments.null f hf]
      rfl
    simp only [List.forall_mem_cons] at hnull ⊢
    obtain ⟨hds, hes, hfs, hgs, hss, -⟩ := hnull
    rw [hsegments.cs, hsegments.tr]
    exact ⟨rfl, hds, hes, hfs, hgs, hss, rfl, nofun⟩
  · rw [hsegments.cs]
    decide
  · rw [hsegments.tr]
    decide
  · simp only [List.forall_mem_cons]
    rw [hsegments.fsBase, hsegments.gsBase, hvalues.hostGdtrBase, hvalues.hostIdtrBase,
      hsegments.trBase]
    exact ⟨hfs, hgs, hgdt, hidt, htss, nofun⟩
  · have hcontrols := hwritten.of_subset (launchVmcs_subset x o).1
    simp only [Written, controlFields, List.forall_mem_cons, hmsrs] at hcontrols
    obtain ⟨-, -, -, -, -, -, -, hexit, -⟩ := hcontrols
    rw [eq_of_width (w := 32) rfl hexit]
    exact getLsbD_adjustMsr_requested (by decide) rfl hprocessor.hostAddressSpaceSize
  · rw [hvalues.hostCr4]
    exact hpae
  · rw [hvalues.hostRip]
    exact hrip

theorem guestChecks (hwritten : Written field (launchVmcs x o))
    (hunwritten : ∀ f ∈ unwritten, field f = 0#64) : GuestChecks processor rdmsr field := by
  obtain ⟨hcr0, hcr4, hpaging, hpae⟩ := controlRegisters_spec hprocessor hmsrs hmembers hfrom
  obtain ⟨hgdt, hlimit⟩ := guestGdt_spec hmembers hfrom
  have hvalues := registerValues hwritten
  have hzero : Canonical 0#64 := rfl
  constructor
  · rw [hvalues.guestCr0]
    exact hcr0
  · rw [hvalues.guestCr4]
    exact hcr4
  · rw [hvalues.guestCr3, hmembers.registers.2.1]
    exact hfrom.cr3
  · rw [hvalues.guestCr0, hvalues.guestCr4]
    exact fun _ => ⟨hpaging, hpae⟩
  · rw [hunwritten _ (by decide), hunwritten .guestIa32SysenterEip (by decide)]
    exact ⟨hzero, hzero⟩
  · rw [hvalues.guestGdtrBase, hvalues.guestIdtrBase, hvalues.guestGdtrLimit, hvalues.guestIdtrLimit]
    have hidt : x.registers.idtr.limit.toNat < 2 ^ 16 := x.registers.idtr.limit.isLt
    refine ⟨hgdt, hfrom.idt, ?_, ?_⟩
    · rw [BitVec.toNat_setWidth, BitVec.toNat_setWidth]
      omega
    · rw [BitVec.toNat_setWidth, BitVec.toNat_setWidth, BitVec.toNat_setWidth]
      omega
  · rw [hvalues.guestRip]
    exact hfrom.rip
  · rw [hvalues.guestRflags]
    exact hfrom.rflags
  · exact hunwritten _ (by decide)
  · exact hunwritten _ (by decide)
  · exact hunwritten _ (by decide)
  · have hcontrols := hwritten.of_subset (launchVmcs_subset x o).1
    simp only [Written, controlFields, List.forall_mem_cons] at hcontrols
    exact eq_of_fits (by decide) hcontrols.1

end Registers

end Checks

end Zpp.Hypervisor
