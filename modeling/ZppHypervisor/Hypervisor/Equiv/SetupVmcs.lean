import ZppHypervisor.Hypervisor.Equiv.IntermediateGdt
import ZppHypervisor.Hypervisor.Equiv.Protection
import ZppHypervisor.Hypervisor.Equiv.Start
import ZppHypervisor.Hypervisor.Module
import ZppHypervisor.Hypervisor.SetupVmcs
import ZppHypervisor.X64.Intel.VmEntryChecks

/-!
# What `setup_vmcs` finds

The controls are what `adjust_msr` makes of the requested ones, which the processor allows, and the
control registers have the bits that it fixes (`launchMembers_of_runMain`).  The selectors of the host
select what `initialize_host_gdt` has put into its GDT (`launchVmcs_hostGdt`).
-/

namespace Zpp.X64.Intel

/-! ### Controls -/

theorem getLsbD_adjustMsr (msr value : Word) {i : ℕ} (hi : i < 32) :
    (adjustMsr msr value).getLsbD i =
      (value.getLsbD i && msr.getLsbD (i + 32) || msr.getLsbD i) := by
  have hlow : ∀ i < 32, (0xffffffff#64).getLsbD i = true := by decide
  have hhigh : ∀ i < 32, (0xffffffff00000000#64).getLsbD (i + 32) = true := by decide
  rw [adjustMsr, BitVec.getLsbD_or, BitVec.getLsbD_and, BitVec.getLsbD_and, BitVec.getLsbD_ushiftRight,
    BitVec.getLsbD_and, Nat.add_comm 32 i, hlow i hi, hhigh i hi, Bool.true_and, Bool.true_and]

/-- A bit of a 32-bit field. -/
theorem getLsbD_setWidth_32 (value : Word) {i : ℕ} (hi : i < 32) :
    ((value.setWidth 32).setWidth 64).getLsbD i = value.getLsbD i := by
  have hi' : i < 64 := by omega
  rw [BitVec.getLsbD_setWidth, BitVec.getLsbD_setWidth, decide_eq_true hi, decide_eq_true hi',
    Bool.true_and, Bool.true_and]

/-- Adjusted controls are allowed. -/
theorem allowedControls_adjustMsr {msr : Word}
    (hmsr : ∀ i < 32, msr.getLsbD i = true → msr.getLsbD (i + 32) = true) (value : Word) :
    AllowedControls msr (((adjustMsr msr value).setWidth 32).setWidth 64) := by
  intro i hi
  rw [getLsbD_setWidth_32 _ hi, getLsbD_adjustMsr _ _ hi]
  constructor
  · intro h
    rw [h, Bool.or_true]
  · intro h
    rcases Bool.or_eq_true_iff.mp h with h | h
    · exact (Bool.and_eq_true_iff.mp h).2
    · exact hmsr i hi h

/-- Controls that are neither requested nor required are off. -/
theorem adjustMsr_and_eq_zero {msr value mask : Word} (hmask : mask.toNat < 2 ^ 32)
    (hvalue : value &&& mask = 0#64) (hmsr : msr &&& mask = 0#64) :
    ((adjustMsr msr value).setWidth 32).setWidth 64 &&& mask = 0#64 := by
  apply BitVec.eq_of_getLsbD_eq
  intro i _
  rw [BitVec.getLsbD_and, BitVec.getLsbD_zero]
  by_cases hi : i < 32
  · have h := congrArg (BitVec.getLsbD · i) hvalue
    have h' := congrArg (BitVec.getLsbD · i) hmsr
    simp only [BitVec.getLsbD_and, BitVec.getLsbD_zero] at h h'
    rw [getLsbD_setWidth_32 _ hi, getLsbD_adjustMsr _ _ hi]
    cases hm : mask.getLsbD i
    · rw [Bool.and_false]
    · rw [hm, Bool.and_true] at h h'
      rw [h, h', Bool.false_and, Bool.or_false, Bool.false_and]
  · have hbit : mask.getLsbD i = false := by
      rw [BitVec.getLsbD]
      exact Nat.testBit_lt_two_pow (hmask.trans_le (Nat.pow_le_pow_right (by norm_num) (by omega)))
    rw [hbit, Bool.and_false]

/-- A requested control is on if the processor lets it be. -/
theorem getLsbD_adjustMsr_requested {msr value : Word} {i : ℕ} (hi : i < 32)
    (hvalue : value.getLsbD i = true) (hmsr : msr.getLsbD (i + 32) = true) :
    (((adjustMsr msr value).setWidth 32).setWidth 64).getLsbD i = true := by
  rw [getLsbD_setWidth_32 _ hi, getLsbD_adjustMsr _ _ hi, hvalue, hmsr]
  rfl

/-! ### Control registers -/

/-- A control register with the bits that the processor fixes. -/
def adjustCr (fixed0 fixed1 cr : Word) : Word :=
  cr &&& (fixed1 &&& 0xffffffff#64) ||| (fixed0 &&& 0xffffffff#64)

theorem getLsbD_low_mask (i : ℕ) : (0xffffffff#64).getLsbD i = decide (i < 32) := by
  have hones : 0xffffffff#64 = BitVec.ofNat 64 (2 ^ 32 - 1) := rfl
  rw [hones, BitVec.getLsbD_ofNat, Nat.testBit_two_pow_sub_one]
  by_cases hi : i < 32
  · have hi' : i < 64 := by omega
    simp [hi, hi']
  · simp [hi]

theorem fixedBits_adjustCr {fixed0 fixed1 : Word} (hlow : fixed0.toNat < 2 ^ 32)
    (hfixed : ∀ i < 64, fixed0.getLsbD i = true → fixed1.getLsbD i = true) (cr : Word) :
    FixedBits fixed0 fixed1 (adjustCr fixed0 fixed1 cr) := by
  intro i hi
  have h := hfixed i hi
  rw [adjustCr, BitVec.getLsbD_or, BitVec.getLsbD_and, BitVec.getLsbD_and, BitVec.getLsbD_and,
    getLsbD_low_mask]
  by_cases hi' : i < 32
  · rw [decide_eq_true hi', Bool.and_true, Bool.and_true]
    constructor
    · intro h0
      rw [h0, Bool.or_true]
    · intro h1
      rcases Bool.or_eq_true_iff.mp h1 with h1 | h1
      · exact (Bool.and_eq_true_iff.mp h1).2
      · exact h h1
  · have hbit : fixed0.getLsbD i = false := by
      rw [BitVec.getLsbD]
      exact Nat.testBit_lt_two_pow (hlow.trans_le (Nat.pow_le_pow_right (by norm_num) (by omega)))
    rw [decide_eq_false hi', hbit]
    simp

theorem getLsbD_adjustCr {fixed0 fixed1 cr : Word} {i : ℕ} (hi : i < 32)
    (hcr : cr.getLsbD i = true) (hfixed : fixed1.getLsbD i = true) :
    (adjustCr fixed0 fixed1 cr).getLsbD i = true := by
  rw [adjustCr, BitVec.getLsbD_or, BitVec.getLsbD_and, BitVec.getLsbD_and, getLsbD_low_mask,
    decide_eq_true hi, hcr, hfixed]
  rfl

end Zpp.X64.Intel

namespace Zpp.Hypervisor

open X64 X64.Intel ScopeGuard Block Loop ByteMemory
open X64.SegmentDescriptor (fromMemory fromMemory_storeAt storeAt)

/-! ### The host GDT -/

/-- A present 64-bit code segment, of the highest privilege. -/
structure IsHostCode (d : SegmentDescriptor) : Prop where
  present : d.present = true
  system : d.system = false
  type : d.type = codeExecuteRead
  code64Bit : d.code64Bit = true
  defaultOperationSize : d.defaultOperationSize = false
  privilegeLevel : d.privilegeLevel = 0#64

theorem isHostCode_of_entry {d : SegmentDescriptor} (h : d.entry = codeSegment.entry) :
    IsHostCode d := by
  have hcode : codeSegment.entry = 0xaf9a000000ffff#64 := by decide
  rw [hcode] at h
  constructor
  · rw [SegmentDescriptor.present, h]
    decide
  · rw [SegmentDescriptor.system, h]
    decide
  · rw [SegmentDescriptor.type, h]
    decide
  · rw [SegmentDescriptor.code64Bit, h]
    decide
  · rw [SegmentDescriptor.defaultOperationSize, h]
    decide
  · rw [SegmentDescriptor.privilegeLevel, h]
    decide

theorem initializeHostGdt_eq (host : HostLayout) (m : ByteMemory 64) :
    initializeHostGdt host m =
      storeAt (m.store (host.hostGdt + 8#64) (n := 8) codeSegment.entry) host.hostGdt 2
        (taskStateSegment host.hostTss) := rfl

/-- The code segment is in the slot before the TSS. -/
theorem entry_hostCs (host : HostLayout) (m : ByteMemory 64) :
    (fromMemory (initializeHostGdt host m) host.hostGdt hostCs).entry = codeSegment.entry := by
  have hread : (fromMemory (initializeHostGdt host m) host.hostGdt hostCs).entry =
      (initializeHostGdt host m).load64 (host.hostGdt + BitVec.ofNat 64 8) := rfl
  rw [hread, initializeHostGdt_eq]
  unfold storeAt load64
  rw [load_store_add _ _ (by decide) (by decide) (by decide),
    load_store_add _ _ (by decide) (by decide) (by decide)]
  exact load_store_self _ _ _ (by decide)

/-- **The host GDT has what the VMCS names.**  In the table whose address the VMCS has for the host, its
code selector selects a code segment of the host, and its task selector the TSS whose address it has. -/
theorem launchVmcs_hostGdt (x : LaunchInput) (o : Object) (m : ByteMemory 64) :
    ∃ (gdt tss : Word) (cs tr : BitVec 16), (.hostGdtrBase, gdt) ∈ launchVmcs x o ∧
      (.hostCsSelector, cs.setWidth 64) ∈ launchVmcs x o ∧
      (.hostTrSelector, tr.setWidth 64) ∈ launchVmcs x o ∧ (.hostTrBase, tss) ∈ launchVmcs x o ∧
      IsHostCode (fromMemory (initializeHostGdt x.host m) gdt cs) ∧
      (fromMemory (initializeHostGdt x.host m) gdt tr).fields = tssFields tss := by
  refine ⟨x.host.hostGdt, x.host.hostTss, hostCs, hostTr, ?_, ?_, ?_, ?_,
    isHostCode_of_entry (entry_hostCs x.host m), ?_⟩
  · simp [launchVmcs, setupFields, registerFields]
  · simp [launchVmcs, setupFields, allSegmentFields]
  · simp [launchVmcs, setupFields, allSegmentFields]
  · simp [launchVmcs, setupFields, allSegmentFields]
  · have hselector : hostTr = BitVec.ofNat 16 (8 * 2 + 0) := by decide
    rw [initializeHostGdt_eq, hselector, fromMemory_storeAt _ _ (by decide) (by decide) (by decide)]
    exact fields_taskStateSegment x.host.hostTss

/-! ### The EPT pointer -/

/-- The frame of the root, write-back, with four levels. -/
theorem setupEptp_value {frame : Word} (haligned : frame.toNat % 0x1000 = 0)
    (hlt : frame.toNat < 2 ^ 52) : (setupEptp frame).value = frame ||| 0x1e#64 := by
  have hpage := frame_roundTrip haligned hlt
  show ((0x1e#64 &&& ~~~0xffffffffff000#64) ||| ((frame >>> 12) &&& 0xffffffffff#64) <<< 12) = _
  rw [hpage, BitVec.or_comm]
  rfl

theorem setupEptp_checks {processor : Processor} {rdmsr : ℕ → Word} {frame : Word}
    (haligned : frame.toNat % 0x1000 = 0) (hlt : frame.toNat < 2 ^ processor.physicalAddressWidth)
    (hlt' : frame.toNat < 2 ^ 52) (hwidth : 12 ≤ processor.physicalAddressWidth)
    (hwalk : (rdmsr 0x48c).getLsbD 6 = true) (htype : (rdmsr 0x48c).getLsbD 14 = true) :
    EptpChecks processor rdmsr (setupEptp frame).value := by
  have hoffset : frame &&& 0xfff#64 = 0#64 := by
    rw [← BitVec.toNat_inj, toNat_and_fff, haligned]
    rfl
  -- The low bits are those of the constant.
  have hlow : ∀ mask : Word, mask = 0xfff#64 &&& mask →
      (frame ||| 0x1e#64) &&& mask = 0x1e#64 &&& mask := by
    intro mask hmask
    have hframe : frame &&& mask = 0#64 := by
      rw [hmask, ← BitVec.and_assoc, hoffset, BitVec.zero_and]
    rw [BitVec.and_or_distrib_right, hframe, BitVec.zero_or]
  rw [setupEptp_value haligned hlt']
  constructor
  · refine .inr ⟨?_, htype⟩
    rw [hlow _ (by decide)]
    decide
  · refine ⟨?_, hwalk⟩
    have hshift : ((frame ||| 0x1e#64) >>> 3) &&& 0x7#64 = ((frame ||| 0x1e#64) &&& 0x38#64) >>> 3 := by
      rw [BitVec.ushiftRight_and_distrib]
      rfl
    rw [hshift, hlow _ (by decide)]
    decide
  · rw [hlow _ (by decide)]
    decide
  · have hconstant : 0x1e < 2 ^ processor.physicalAddressWidth :=
      lt_of_lt_of_le (by decide : 0x1e < 2 ^ 12) (Nat.pow_le_pow_right (by norm_num) hwidth)
    rw [BitVec.toNat_or]
    exact Nat.or_lt_two_pow hlt hconstant

/-! ### The object at `setup_vmcs` -/

section AtSetup

variable {p : Platform}

/-- The steps of a launch that comes to `vmlaunch`. -/
theorem exists_steps_of_runMain {cpuid : Word} {physicalToVirtual : Option (Word → Word)}
    {mach mach' : Machine} (h : runMain p cpuid physicalToVirtual mach = .launched mach') :
    ∃ s₁ s₂ s₃ s₄ s', onFirstCpu cpuid (initializeModule p physicalToVirtual)
        ⟨captured mach, [⟨Machine.exec .sti, true⟩]⟩ = .next () s₁ ∧
      mainLoadGdt p s₁ = .next () s₂ ∧
      onFirstCpu cpuid (initializeProtection p) s₂ = .next () s₃ ∧
      initializeVmx p s₃ = .next () s₄ ∧ mainEnter p s₄ = .next () s' ∧ s'.state = mach' := by
  obtain ⟨s', hmain, hstate⟩ := exists_of_runMain_eq_launched h
  rw [main_eq] at hmain
  obtain ⟨_, s₁, hmodule, hmain⟩ := exists_of_bind_eq_next hmain
  rw [mainGdt_eq] at hmain
  obtain ⟨_, s₂, hload, hmain⟩ := exists_of_bind_eq_next hmain
  obtain ⟨_, s₃, hprotection, hmain⟩ := exists_of_bind_eq_next hmain
  obtain ⟨_, s₄, hvmx, henter⟩ := exists_of_bind_eq_next hmain
  exact ⟨s₁, s₂, s₃, s₄, s', hmodule, hload, hprotection, hvmx, henter, hstate⟩

theorem onFirstCpu_keeps {P : Object → Prop} {block : Code Unit} (cpuid : Word)
    (h : block.Keeps (Machine.Has P)) : (onFirstCpu cpuid block).Keeps (Machine.Has P) := by
  unfold onFirstCpu
  split_ifs
  · exact h
  · exact keeps_pure _

theorem orFail_keeps {α : Type} {P : Object → Prop} (x : Outcome Error α) :
    (orFail x).Keeps (Machine.Has P) := by
  cases x with
  | next a => exact keeps_pure a
  | returned e => exact keeps_exit e
  | undefined => exact keeps_undefined

/-- The extended page tables, for a property that does not depend on them. -/
theorem initializeTables_keeps {P : Object → Prop}
    (hP : ∀ o mtrrs ept, P o → P { o with mtrrs := mtrrs, ept := ept }) :
    (initializeMtrrs p >>= fun _ => initializeEptMember p >>= fun _ => protectModuleMember p >>=
      fun _ => unprotectGuestMemoryMember p).Keeps (Machine.Has P) := by
  refine (update_keeps fun o h => hP o _ _ h).bind fun _ =>
    (update_keeps fun o h => hP o _ _ h).bind fun _ => Keeps.bind ?_ fun _ => ?_
  all_goals
    exact this_keeps.bind fun _ => (orFail_keeps _).bind fun _ => update_keeps fun o h => hP o _ _ h

theorem initializeProtection_keeps {P : Object → Prop}
    (hP : ∀ o msrs mtrrs ept, P o → P { o with vmxMsrs := msrs, mtrrs := mtrrs, ept := ept }) :
    (initializeProtection p).Keeps (Machine.Has P) :=
  (update_keeps fun o h => hP o p.rdmsr o.mtrrs o.ept h).bind fun _ =>
    initializeTables_keeps fun o mtrrs ept h => hP o o.vmxMsrs mtrrs ept h

/-- The object when `main` comes to `setup_vmcs`, from the one that the launch leaves: `vm_launch` has
incremented the processor number. -/
def Object.atSetup (o : Object) : Object :=
  { o with nextVirtualProcessor := o.nextVirtualProcessor - 1#64 }

/-- `vm_launch` follows `setup_vmcs`, which is called with the object that `initialize_vmx` leaves. -/
theorem mainEnter_atSetup {s s' : Frame Machine} (hguards : s.guards = hostGuards)
    (h : mainEnter p s = .next () s') :
    s.state.object = s'.state.object.atSetup ∧
      ∃ s₁ s₂, s₁.state.object = s.state.object ∧ setupVmcs s₁ = .next () s₂ ∧
        vmLaunch s₂ = .next () s' := by
  have hkept : ∀ g ∈ s.guards, ∀ m, Machine.Has (· = s.state.object) m →
      Machine.Has (· = s.state.object) (g.function m) := by
    rw [hguards]
    exact hostGuards_keep _
  obtain ⟨result, s₀, hroot, h⟩ := exists_of_bind_eq_next h
  have h₀ := (enterRootMode_keeps p).call.of_next (P := Machine.Has (· = s.state.object)) ⟨rfl, hkept⟩
    hroot
  cases result with
  | some error => cases h
  | none =>
    obtain ⟨_, s₁, hguard, h⟩ := exists_of_bind_eq_next h
    obtain ⟨_, s₂, hsetup, hlaunch⟩ := exists_of_bind_eq_next h
    obtain ⟨-, rfl⟩ := Result.next.inj hguard
    have hobject : s₂.state.object = s.state.object := by
      obtain ⟨-, rfl⟩ := Result.next.inj hsetup
      exact h₀.state
    refine ⟨?_, ⟨s₀.state, ⟨Machine.exec .vmxoff, true⟩ :: s₀.guards⟩, s₂, h₀.state, hsetup, hlaunch⟩
    obtain ⟨-, rfl⟩ := Result.next.inj hlaunch
    show _ = { s₂.state.object with
      nextVirtualProcessor := s₂.state.object.nextVirtualProcessor + 1#64 - 1#64 }
    rw [BitVec.add_sub_cancel, hobject]

/-- The registers captured at the start of a launch. -/
def HasRegisters (cpu : Cpu) (o : Object) : Prop :=
  o.guestCr0 = cpu.cr0 ∧ o.guestCr3 = cpu.cr3 ∧ o.guestCr4 = cpu.cr4 ∧ o.gdtr = cpu.gdtr

/-- The registers and the GDT of the guest. -/
structure HasGdt (p : Platform) (cpu : Cpu) (index : Word) (o : Object) : Prop where
  registers : HasRegisters cpu o
  nextVirtualProcessor : o.nextVirtualProcessor - 1#64 = index
  guestGdtPointer : o.guestGdtPointer =
    if p.taskStateSegmentPresent then cpu.gdtr.base else p.layout.intermediateGdt index
  guestGdtLimit : o.guestGdtLimit =
    if p.taskStateSegmentPresent then cpu.gdtr.limit.setWidth 64
    else cpu.gdtr.limit.setWidth 64 + 2#64 * 8#64

/-- The members that `setup_vmcs` reads and a launch on a CPU sets. -/
structure LaunchMembers (p : Platform) (cpu : Cpu) (index : Word) (o : Object) : Prop
    extends HasGdt p cpu index o where
  hostCr0 : o.hostCr0 =
    adjustCr (o.vmxMsrs msrVmxCr0Fixed0) (o.vmxMsrs msrVmxCr0Fixed1) o.guestCr0
  hostCr4 : o.hostCr4 =
    adjustCr (o.vmxMsrs msrVmxCr4Fixed0) (o.vmxMsrs msrVmxCr4Fixed1) o.guestCr4

theorem initializeIntermediateGdt_hasGdt {cpu : Cpu} {s s' : Frame Machine}
    (hs : HasRegisters cpu s.state.object) (h : initializeIntermediateGdt p s = .next () s') :
    HasGdt p cpu (s.state.object.nextVirtualProcessor - 1#64) s'.state.object ∧
      s'.guards = s.guards := by
  obtain ⟨hcr0, hcr3, hcr4, hgdtr⟩ := hs
  unfold initializeIntermediateGdt at h
  rw [bind_of_next (this_apply _), bind_of_next (use_apply _ _ _), bind_of_next (use_apply _ _ _)] at h
  cases hpresent : p.taskStateSegmentPresent
  · rw [hpresent, if_neg Bool.false_ne_true] at h
    obtain ⟨-, rfl⟩ := Result.next.inj h
    refine ⟨⟨⟨hcr0, hcr3, hcr4, hgdtr⟩, rfl, ?_, ?_⟩, rfl⟩
    · rw [hpresent]
      rfl
    · rw [hpresent, ← hgdtr]
      rfl
  · rw [hpresent, if_pos rfl] at h
    obtain ⟨-, rfl⟩ := Result.next.inj h
    refine ⟨⟨⟨hcr0, hcr3, hcr4, hgdtr⟩, rfl, ?_, ?_⟩, rfl⟩
    · rw [hpresent, ← hgdtr]
      rfl
    · rw [hpresent, ← hgdtr]
      rfl

theorem mainLoadGdt_hasGdt {cpu : Cpu} {s s' : Frame Machine}
    (hguards : s.guards = [⟨Machine.exec .sti, true⟩]) (hs : HasRegisters cpu s.state.object)
    (h : mainLoadGdt p s = .next () s') :
    HasGdt p cpu (s.state.object.nextVirtualProcessor - 1#64) s'.state.object := by
  obtain ⟨_, s₁, hinit, hload⟩ := exists_of_bind_eq_next h
  obtain ⟨hgdt, hguards₁⟩ := initializeIntermediateGdt_hasGdt hs hinit
  have hkeeps : (loadIntermediateGdt p >>= fun _ => Block.construct loadOsGdt >>= fun _ =>
      this >>= fun o => exec (.movCr3 o.hostCr3) >>= fun _ =>
      Block.construct (fun m => m.exec (.movCr3 m.object.guestCr3)) >>= fun _ => pure () :
        Code Unit).Keeps (Machine.Has (HasGdt p cpu (s.state.object.nextVirtualProcessor - 1#64))) :=
    (loadIntermediateGdt_keeps p).bind fun _ => (construct_keeps loadOsGdt_object).bind fun _ =>
    this_keeps.bind fun _ => (exec_keeps _).bind fun _ => (constructExec_keeps _).bind fun _ =>
    keeps_pure _
  refine (hkeeps.of_next ⟨hgdt, fun g hg => ?_⟩ hload).state
  rw [hguards₁, hguards, List.mem_singleton] at hg
  subst hg
  exact fun _ hs => hs

/-- What a launch that comes to `vmlaunch` has set when it comes to `setup_vmcs`. -/
theorem launchMembers_of_runMain {cpuid : Word} {physicalToVirtual : Option (Word → Word)}
    {mach mach' : Machine} (h : runMain p cpuid physicalToVirtual mach = .launched mach') :
    LaunchMembers p mach.cpu (mach.object.nextVirtualProcessor - 1#64) mach'.object.atSetup := by
  obtain ⟨s₁, s₂, s₃, s₄, s', hmodule, hload, hprotection, hvmx, henter, rfl⟩ :=
    exists_steps_of_runMain h
  -- The guards do not touch the object.
  obtain ⟨hguards₁, hkeeps₁⟩ := (onFirstCpu_changesObject cpuid
    (initializeModule_changesObject p physicalToVirtual _)).of_next hmodule
  have hguards₂ := mainLoadGdt_guards hguards₁ hload
  obtain ⟨hguards₃, -⟩ := (onFirstCpu_changesObject cpuid
    (initializeProtection_changesObject p s₂)).of_next hprotection
  have h₁ : HasRegisters mach.cpu s₁.state.object :=
    ⟨hkeeps₁.guestCr0, hkeeps₁.guestCr3, hkeeps₁.guestCr4, hkeeps₁.gdtr⟩
  have h₂ := mainLoadGdt_hasGdt hguards₁ h₁ hload
  rw [hkeeps₁.nextVirtualProcessor] at h₂
  have hprotects : (onFirstCpu cpuid (initializeProtection p)).Keeps
      (Machine.Has (HasGdt p mach.cpu (mach.object.nextVirtualProcessor - 1#64))) :=
    onFirstCpu_keeps cpuid (initializeProtection_keeps fun _ _ _ _ h => ⟨h.1, h.2, h.3, h.4⟩)
  have h₃ := hprotects.of_next ⟨h₂, hguards₂ ▸ hostGuards_keep _⟩ hprotection
  obtain ⟨hobject, -⟩ := mainEnter_atSetup ((initializeVmx_next hvmx).2.2.trans
    (hguards₃.trans hguards₂)) henter
  rw [← hobject]
  obtain ⟨-, rfl⟩ := Result.next.inj hvmx
  exact ⟨⟨h₃.state.1, h₃.state.2, h₃.state.3, h₃.state.4⟩, rfl, rfl⟩

/-- Nothing writes the cache after `initialize_vmx_msrs`. -/
theorem initializeProtection_vmxMsrs {s s' : Frame Machine}
    (hguards : ∀ g ∈ s.guards, ∀ m, Machine.Has (·.vmxMsrs = p.rdmsr) m →
      Machine.Has (·.vmxMsrs = p.rdmsr) (g.function m))
    (h : initializeProtection p s = .next () s') : s'.state.object.vmxMsrs = p.rdmsr := by
  obtain ⟨_, t, hmsrs, h⟩ := exists_of_bind_eq_next h
  have ht : t.state.object.vmxMsrs = p.rdmsr := by rw [update_next hmsrs]
  have htguards : t.guards = s.guards := by
    obtain ⟨-, rfl⟩ := Result.next.inj hmsrs
    rfl
  have hkeeps := initializeTables_keeps (p := p) (P := (·.vmxMsrs = p.rdmsr)) fun _ _ _ h => h
  exact (hkeeps.of_next ⟨ht, htguards ▸ hguards⟩ h).state

/-- The first launch caches the VMX MSRs. -/
theorem vmxMsrs_of_runMain_first {physicalToVirtual : Option (Word → Word)} {mach mach' : Machine}
    (h : runMain p 0#64 physicalToVirtual mach = .launched mach') :
    mach'.object.vmxMsrs = p.rdmsr := by
  obtain ⟨s₁, s₂, s₃, s₄, s', hmodule, hload, hprotection, hvmx, henter, rfl⟩ :=
    exists_steps_of_runMain h
  have hfirst : onFirstCpu 0#64 (initializeProtection p) = initializeProtection p := if_pos rfl
  obtain ⟨hguards₁, -⟩ := (onFirstCpu_changesObject 0#64
    (initializeModule_changesObject p physicalToVirtual _)).of_next hmodule
  have hguards₂ := mainLoadGdt_guards hguards₁ hload
  rw [hfirst] at hprotection
  obtain ⟨hguards₃, -⟩ := (initializeProtection_changesObject p s₂).of_next hprotection
  have h₃ := initializeProtection_vmxMsrs (hguards₂ ▸ hostGuards_keep _) hprotection
  have h₄ := initializeVmx_keepsVmxMsrs.of_next
    ⟨h₃, (hguards₃.trans hguards₂) ▸ hostGuards_keep _⟩ hvmx
  exact ((mainEnter_keeps p (P := (·.vmxMsrs = p.rdmsr)) fun _ _ h => h).of_next h₄ henter).state

end AtSetup

end Zpp.Hypervisor
