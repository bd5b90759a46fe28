import ZppHypervisor.Hypervisor.Segments
import ZppHypervisor.Hypervisor.Start
import ZppHypervisor.X64.Intel.EptPointer
import ZppHypervisor.X64.Intel.VmcsFields

/-!
# The VMCS of a launch

`initialize_host_gdt`, and every field that `setup_vmcs` and `vm_launch` write, with its value.
-/

namespace Zpp.X64.Intel

/-! ### Controls (`vmx.h`, `msr.h`) -/

namespace VmExecutionControls.Primary

def enableMsrBitmaps : Word := 1#64 <<< 28

def enableSecondaryControls : Word := 1#64 <<< 31

end VmExecutionControls.Primary

namespace VmExecutionControls.Secondary

def enableEpt : Word := 1#64 <<< 1

def enableRdtscp : Word := 1#64 <<< 3

def enableVpid : Word := 1#64 <<< 5

def enableInvpcid : Word := 1#64 <<< 12

def enableXsavesXrstors : Word := 1#64 <<< 20

def modeBasedExecuteControl : Word := 1#64 <<< 22

end VmExecutionControls.Secondary

def VmExitControls.hostAddressSpaceSize : Word := 1#64 <<< 9

def VmEntryControls.ia32eModeGuest : Word := 1#64 <<< 9

/-- Consults a value with a specified MSR and returns the adjusted value. -/
def adjustMsr (msr value : Word) : Word :=
  value &&& ((0xffffffff00000000#64 &&& msr) >>> 32) ||| (0xffffffff#64 &&& msr)

end Zpp.X64.Intel

namespace Zpp.Hypervisor

open X64 X64.Intel ByteMemory

/-- The cached VMX MSRs with the allowed settings of the controls. -/
def msrVmxProcessorBasedControls2 : ℕ := 0x48b
def msrVmxTruePinBasedControls : ℕ := 0x48d
def msrVmxTrueProcessorBasedControls : ℕ := 0x48e
def msrVmxTrueExitControls : ℕ := 0x48f
def msrVmxTrueEntryControls : ℕ := 0x490

/-! ### The host -/

/-- The addresses of the members that only the host uses. -/
structure HostLayout where
  hostGdt : Word
  hostIdt : Word
  fsData : Word
  gsData : Word
  hostTss : Word

/-- `host_cs`. -/
def hostCs : BitVec 16 := 1#16 <<< 3

/-- `host_tr`. -/
def hostTr : BitVec 16 := 2#16 <<< 3

/-- `segment_type::code_execute_read`. -/
def codeExecuteRead : Word := 10#64

/-- Initialize the code segment. -/
def codeSegment : SegmentDescriptor :=
  (((((((((({} : SegmentDescriptor).setLimit 0xfffff#64).setBase 0#64).setType
    codeExecuteRead).setSystem false).setPrivilegeLevel 0#64).setPresent
    true).setAvailableForSystemUse false).setCode64Bit true).setDefaultOperationSize
    false).setGranularity true

/-- The memory after `initialize_host_gdt`. -/
def initializeHostGdt (host : HostLayout) (m : ByteMemory 64) : ByteMemory 64 :=
  -- `sizeof(host_tss)` is `sizeof(guest_tss)`.
  let tss := taskStateSegment host.hostTss
  let m := m.store (host.hostGdt + 8#64 * 1#64) (n := 8) codeSegment.entry
  let m := m.store (host.hostGdt + 8#64 * 2#64) (n := 8) tss.entry
  m.store (host.hostGdt + 8#64 * (2#64 + 1#64)) (n := 8) tss.extended

/-! ### The fields -/

/-- The members that `initialize_registers` sets and only `setup_vmcs` reads. -/
structure OsRegisters where
  segments : SegmentRegisters
  idtr : Gdtr
  guestDr7 : Word
  ia32DebugControl : Word

/-- Setup the EPT pointer. -/
def setupEptp (epml4Physical : Word) : EptPointer :=
  (((EptPointer.mk 0#64).setMemoryType MemoryType.writeBack).setPageWalkLength 4#64).setPageNumber
    (epml4Physical >>> 12)

/-- The guest fields of a segment. -/
def segmentFields (selector limit accessRights base : VmcsField) (segment : GuestSegment) :
    List (VmcsField × Word) :=
  [(selector, segment.selector.setWidth 64), (limit, segment.state.limit),
    (accessRights, segment.state.accessRights.setWidth 64), (base, segment.state.base)]

section

variable (host : HostLayout) (o : Object) (r : OsRegisters) (segments : GuestSegments)
  (guestContext : Context)

/-- The controls. -/
def controlFields : List (VmcsField × Word) :=
  [ -- Set invalid link pointer.
    (.vmcsLinkPointer, 0xffffffffffffffff#64),
    -- Set virtual processor id.
    (.vpid, o.nextVirtualProcessor),
    (.eptPointer, (setupEptp o.epml4Physical).value),
    (.msrBitmap, o.msrBitmapPhysical),
    (.secondaryProcessorBasedVmExecutionControls,
      adjustMsr (o.vmxMsrs msrVmxProcessorBasedControls2)
        (VmExecutionControls.Secondary.enableEpt ||| VmExecutionControls.Secondary.enableVpid |||
          VmExecutionControls.Secondary.enableRdtscp |||
          VmExecutionControls.Secondary.enableInvpcid |||
          VmExecutionControls.Secondary.enableXsavesXrstors |||
          VmExecutionControls.Secondary.modeBasedExecuteControl)),
    (.pinBasedVmExecutionControls, adjustMsr (o.vmxMsrs msrVmxTruePinBasedControls) 0#64),
    (.primaryProcessorBasedVmExecutionControls,
      adjustMsr (o.vmxMsrs msrVmxTrueProcessorBasedControls)
        (VmExecutionControls.Primary.enableSecondaryControls |||
          VmExecutionControls.Primary.enableMsrBitmaps)),
    -- VM exit in 64 bit address space.
    (.vmExitControls,
      adjustMsr (o.vmxMsrs msrVmxTrueExitControls) VmExitControls.hostAddressSpaceSize),
    -- VM entry in 64 bit address space.
    (.vmEntryControls,
      adjustMsr (o.vmxMsrs msrVmxTrueEntryControls) VmEntryControls.ia32eModeGuest)]

/-- Write segment information. -/
def allSegmentFields : List (VmcsField × Word) :=
  segmentFields .guestCsSelector .guestCsLimit .guestCsAccessRights .guestCsBase segments.cs ++
  [(.hostCsSelector, hostCs.setWidth 64)] ++
  segmentFields .guestDsSelector .guestDsLimit .guestDsAccessRights .guestDsBase segments.ds ++
  [(.hostDsSelector, 0#64)] ++
  segmentFields .guestEsSelector .guestEsLimit .guestEsAccessRights .guestEsBase segments.es ++
  [(.hostEsSelector, 0#64)] ++
  segmentFields .guestFsSelector .guestFsLimit .guestFsAccessRights .guestFsBase segments.fs ++
  [(.hostFsBase, host.fsData), (.hostFsSelector, 0#64)] ++
  segmentFields .guestGsSelector .guestGsLimit .guestGsAccessRights .guestGsBase segments.gs ++
  [(.hostGsBase, host.gsData), (.hostGsSelector, 0#64)] ++
  segmentFields .guestSsSelector .guestSsLimit .guestSsAccessRights .guestSsBase segments.ss ++
  [(.hostSsSelector, 0#64)] ++
  segmentFields .guestTrSelector .guestTrLimit .guestTrAccessRights .guestTrBase segments.tr ++
  [(.hostTrBase, host.hostTss), (.hostTrSelector, hostTr.setWidth 64)] ++
  segmentFields .guestLdtrSelector .guestLdtrLimit .guestLdtrAccessRights .guestLdtrBase segments.ldtr

/-- The tables and the registers. -/
def registerFields : List (VmcsField × Word) :=
  [ -- Set gdtr information.
    (.guestGdtrLimit, o.guestGdtLimit),
    (.guestGdtrBase, o.guestGdtPointer),
    (.hostGdtrBase, host.hostGdt),
    -- Set idtr information.
    (.guestIdtrLimit, r.idtr.limit.setWidth 64),
    (.guestIdtrBase, r.idtr.base),
    (.hostIdtrBase, host.hostIdt),
    -- Load CR0
    (.cr0ReadShadow, o.guestCr0),
    (.guestCr0, o.hostCr0),
    (.hostCr0, o.hostCr0),
    -- Load CR3
    (.guestCr3, o.guestCr3),
    (.hostCr3, o.hostCr3),
    -- Load CR4
    (.cr4ReadShadow, o.guestCr4),
    (.guestCr4, o.hostCr4),
    (.hostCr4, o.hostCr4),
    -- Load debug MSR and register.
    (.guestIa32Debugctl, r.ia32DebugControl),
    (.guestDr7, r.guestDr7),
    -- Load rflags.
    (.guestRflags, guestContext.rflags)]

/-- The fields that `setup_vmcs` writes. -/
def setupFields : List (VmcsField × Word) :=
  controlFields o ++ allSegmentFields host segments ++ registerFields host o r guestContext

/-- The fields that `vm_launch` writes. -/
def vmLaunchFields (vmExitEntry hostRsp : Word) : List (VmcsField × Word) :=
  [(.hostRip, vmExitEntry), (.hostRsp, hostRsp), (.guestRip, guestContext.rip),
    (.guestRsp, guestContext.gpr .rsp)]

end

/-- What `setup_vmcs` and `vm_launch` write besides members that a launch computes. -/
structure LaunchInput where
  host : HostLayout
  registers : OsRegisters
  segments : GuestSegments
  guestContext : Context
  vmExitEntry : Word
  hostRsp : Word

/-- The fields that a launch writes, in this order. -/
def launchVmcs (x : LaunchInput) (o : Object) : List (VmcsField × Word) :=
  setupFields x.host o x.registers x.segments x.guestContext ++
    vmLaunchFields x.guestContext x.vmExitEntry x.hostRsp

end Zpp.Hypervisor
