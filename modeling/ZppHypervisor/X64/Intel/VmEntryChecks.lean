import ZppHypervisor.X64.Intel.VmcsFields

/-!
# The checks of a VM entry

What a processor in IA-32e mode checks of the current VMCS before it enters a guest, as the processor
manual defines it: the controls (`ControlChecks`), the host state (`HostChecks`), and the guest state but
for its segments (`GuestChecks`).  `rdmsr` has the capabilities of the processor.  Nothing here is
translated from the program.
-/

namespace Zpp.X64.Intel

/-- Every control that has to be 1 is, and every control that is 1 may be: the low half of the capability
MSR has the former and the high half the latter. -/
def AllowedControls (msr controls : Word) : Prop :=
  ∀ i < 32, (msr.getLsbD i = true → controls.getLsbD i = true) ∧
    (controls.getLsbD i = true → msr.getLsbD (i + 32) = true)

/-- Every bit that is fixed to 1 is 1, and no bit that is fixed to 0. -/
def FixedBits (fixed0 fixed1 value : Word) : Prop :=
  ∀ i < 64, (fixed0.getLsbD i = true → value.getLsbD i = true) ∧
    (value.getLsbD i = true → fixed1.getLsbD i = true)

/-- A linear address whose upper bits are those of bit 47. -/
def Canonical (a : Word) : Prop := (a.setWidth 48).signExtend 64 = a

/-- The EPT pointer: a supported memory type and page-walk length, and no reserved bit. -/
structure EptpChecks (processor : Processor) (rdmsr : ℕ → Word) (eptp : Word) : Prop where
  memoryType : eptp &&& 0x7#64 = 0#64 ∧ (rdmsr 0x48c).getLsbD 8 = true ∨
    eptp &&& 0x7#64 = 6#64 ∧ (rdmsr 0x48c).getLsbD 14 = true
  pageWalkLength : (eptp >>> 3) &&& 0x7#64 = 3#64 ∧ (rdmsr 0x48c).getLsbD 6 = true
  reserved : eptp &&& 0xfc0#64 = 0#64
  address : eptp.toNat < 2 ^ processor.physicalAddressWidth

/-- The controls that have further checks and that no hypervisor here turns on. -/
def checkedPinBased : Word := 0xa0#64
def checkedPrimary : Word := 0x2620000#64
def checkedSecondary : Word := 0x1a66391#64
def checkedExit : Word := 0x30681000#64
def checkedEntry : Word := 0x55ec04#64

section

variable (processor : Processor) (rdmsr : ℕ → Word) (field : VmcsField → Word)

/-- The controls. -/
structure ControlChecks : Prop where
  pinBased : AllowedControls (rdmsr 0x48d) (field .pinBasedVmExecutionControls)
  primary : AllowedControls (rdmsr 0x48e) (field .primaryProcessorBasedVmExecutionControls)
  secondary : (field .primaryProcessorBasedVmExecutionControls).getLsbD 31 = true →
    AllowedControls (rdmsr 0x48b) (field .secondaryProcessorBasedVmExecutionControls)
  exit : AllowedControls (rdmsr 0x48f) (field .vmExitControls)
  entry : AllowedControls (rdmsr 0x490) (field .vmEntryControls)
  cr3TargetCount : (field .cr3TargetCount).toNat ≤ 4
  msrBitmap : (field .primaryProcessorBasedVmExecutionControls).getLsbD 28 = true →
    processor.validPointer (field .msrBitmap) = true
  vpid : (field .secondaryProcessorBasedVmExecutionControls).getLsbD 5 = true → field .vpid ≠ 0#64
  eptPointer : (field .secondaryProcessorBasedVmExecutionControls).getLsbD 1 = true →
    EptpChecks processor rdmsr (field .eptPointer)
  modeBasedExecuteControl : (field .secondaryProcessorBasedVmExecutionControls).getLsbD 22 = true →
    (field .secondaryProcessorBasedVmExecutionControls).getLsbD 1 = true
  /-- No control in use has a check that is not listed here. -/
  further : field .pinBasedVmExecutionControls &&& checkedPinBased = 0#64 ∧
    field .primaryProcessorBasedVmExecutionControls &&& checkedPrimary = 0#64 ∧
    field .secondaryProcessorBasedVmExecutionControls &&& checkedSecondary = 0#64 ∧
    field .vmExitControls &&& checkedExit = 0#64 ∧ field .vmEntryControls &&& checkedEntry = 0#64
  vmExitMsrStoreCount : field .vmExitMsrStoreCount = 0#64
  vmExitMsrLoadCount : field .vmExitMsrLoadCount = 0#64
  vmEntryMsrLoadCount : field .vmEntryMsrLoadCount = 0#64
  vmEntryInterruptionInformation :
    (field .vmEntryInterruptionInformationField).getLsbD 31 = false

/-- The host state. -/
structure HostChecks : Prop where
  cr0 : FixedBits (rdmsr 0x486) (rdmsr 0x487) (field .hostCr0)
  cr4 : FixedBits (rdmsr 0x488) (rdmsr 0x489) (field .hostCr4)
  cr3 : (field .hostCr3).toNat < 2 ^ processor.physicalAddressWidth
  sysenter : Canonical (field .hostIa32SysenterEsp) ∧ Canonical (field .hostIa32SysenterEip)
  /-- No selector has a privilege level or is for the LDT. -/
  selectors : ∀ f ∈ [VmcsField.hostCsSelector, .hostDsSelector, .hostEsSelector, .hostFsSelector,
    .hostGsSelector, .hostSsSelector, .hostTrSelector], field f &&& 7#64 = 0#64
  cs : field .hostCsSelector ≠ 0#64
  tr : field .hostTrSelector ≠ 0#64
  bases : ∀ f ∈ [VmcsField.hostFsBase, .hostGsBase, .hostGdtrBase, .hostIdtrBase, .hostTrBase],
    Canonical (field f)
  /-- The processor is in IA-32e mode, so the host is a 64-bit one. -/
  hostAddressSpaceSize : (field .vmExitControls).getLsbD 9 = true
  pae : (field .hostCr4).getLsbD 5 = true
  rip : Canonical (field .hostRip)

/-- The guest state but for its segments. -/
structure GuestChecks : Prop where
  cr0 : FixedBits (rdmsr 0x486) (rdmsr 0x487) (field .guestCr0)
  cr4 : FixedBits (rdmsr 0x488) (rdmsr 0x489) (field .guestCr4)
  cr3 : (field .guestCr3).toNat < 2 ^ processor.physicalAddressWidth
  ia32eModeGuest : (field .vmEntryControls).getLsbD 9 = true →
    (field .guestCr0).getLsbD 31 = true ∧ (field .guestCr4).getLsbD 5 = true
  sysenter : Canonical (field .guestIa32SysenterEsp) ∧ Canonical (field .guestIa32SysenterEip)
  tables : Canonical (field .guestGdtrBase) ∧ Canonical (field .guestIdtrBase) ∧
    (field .guestGdtrLimit).toNat ≤ 0xffff ∧ (field .guestIdtrLimit).toNat ≤ 0xffff
  rip : Canonical (field .guestRip)
  rflags : field .guestRflags &&& 0xffffffffffc2802a#64 = 2#64
  activityState : field .guestActivityState = 0#64
  interruptibilityState : field .guestInterruptibilityState = 0#64
  pendingDebugExceptions : field .guestPendingDebugExceptions = 0#64
  vmcsLinkPointer : field .vmcsLinkPointer = 0xffffffffffffffff#64

end

end Zpp.X64.Intel
