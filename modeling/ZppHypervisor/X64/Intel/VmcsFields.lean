import ZppHypervisor.X64.Intel.VmTransitions

/-!
# VMCS fields (`vmcs_fields.h`)

The fields of the controls, of the segments and of the privileged registers, besides those that VM exits
and VM entries use.
-/

namespace Zpp.X64.Intel.VmcsField

def eptPointer : VmcsField := ⟨0x201a#64, rfl⟩

def msrBitmap : VmcsField := ⟨0x2004#64, rfl⟩

def vmcsLinkPointer : VmcsField := ⟨0x2800#64, rfl⟩

def guestIa32Debugctl : VmcsField := ⟨0x2802#64, rfl⟩

def pinBasedVmExecutionControls : VmcsField := ⟨0x4000#64, rfl⟩

def primaryProcessorBasedVmExecutionControls : VmcsField := ⟨0x4002#64, rfl⟩

def vmExitControls : VmcsField := ⟨0x400c#64, rfl⟩

def vmEntryControls : VmcsField := ⟨0x4012#64, rfl⟩

def secondaryProcessorBasedVmExecutionControls : VmcsField := ⟨0x401e#64, rfl⟩

def guestLdtrSelector : VmcsField := ⟨0x80c#64, rfl⟩

def guestTrSelector : VmcsField := ⟨0x80e#64, rfl⟩

def hostTrSelector : VmcsField := ⟨0xc0c#64, rfl⟩

def guestEsLimit : VmcsField := ⟨0x4800#64, rfl⟩

def guestCsLimit : VmcsField := ⟨0x4802#64, rfl⟩

def guestSsLimit : VmcsField := ⟨0x4804#64, rfl⟩

def guestDsLimit : VmcsField := ⟨0x4806#64, rfl⟩

def guestFsLimit : VmcsField := ⟨0x4808#64, rfl⟩

def guestGsLimit : VmcsField := ⟨0x480a#64, rfl⟩

def guestLdtrLimit : VmcsField := ⟨0x480c#64, rfl⟩

def guestTrLimit : VmcsField := ⟨0x480e#64, rfl⟩

def guestGdtrLimit : VmcsField := ⟨0x4810#64, rfl⟩

def guestIdtrLimit : VmcsField := ⟨0x4812#64, rfl⟩

def guestEsAccessRights : VmcsField := ⟨0x4814#64, rfl⟩

def guestCsAccessRights : VmcsField := ⟨0x4816#64, rfl⟩

def guestSsAccessRights : VmcsField := ⟨0x4818#64, rfl⟩

def guestDsAccessRights : VmcsField := ⟨0x481a#64, rfl⟩

def guestFsAccessRights : VmcsField := ⟨0x481c#64, rfl⟩

def guestGsAccessRights : VmcsField := ⟨0x481e#64, rfl⟩

def guestLdtrAccessRights : VmcsField := ⟨0x4820#64, rfl⟩

def guestTrAccessRights : VmcsField := ⟨0x4822#64, rfl⟩

def cr0ReadShadow : VmcsField := ⟨0x6004#64, rfl⟩

def cr4ReadShadow : VmcsField := ⟨0x6006#64, rfl⟩

def guestCr0 : VmcsField := ⟨0x6800#64, rfl⟩

def guestCr3 : VmcsField := ⟨0x6802#64, rfl⟩

def guestCr4 : VmcsField := ⟨0x6804#64, rfl⟩

def guestEsBase : VmcsField := ⟨0x6806#64, rfl⟩

def guestCsBase : VmcsField := ⟨0x6808#64, rfl⟩

def guestSsBase : VmcsField := ⟨0x680a#64, rfl⟩

def guestDsBase : VmcsField := ⟨0x680c#64, rfl⟩

def guestFsBase : VmcsField := ⟨0x680e#64, rfl⟩

def guestGsBase : VmcsField := ⟨0x6810#64, rfl⟩

def guestLdtrBase : VmcsField := ⟨0x6812#64, rfl⟩

def guestTrBase : VmcsField := ⟨0x6814#64, rfl⟩

def guestGdtrBase : VmcsField := ⟨0x6816#64, rfl⟩

def guestIdtrBase : VmcsField := ⟨0x6818#64, rfl⟩

def guestDr7 : VmcsField := ⟨0x681a#64, rfl⟩

def hostCr0 : VmcsField := ⟨0x6c00#64, rfl⟩

def hostCr3 : VmcsField := ⟨0x6c02#64, rfl⟩

def hostCr4 : VmcsField := ⟨0x6c04#64, rfl⟩

def hostFsBase : VmcsField := ⟨0x6c06#64, rfl⟩

def hostGsBase : VmcsField := ⟨0x6c08#64, rfl⟩

def hostTrBase : VmcsField := ⟨0x6c0a#64, rfl⟩

def hostGdtrBase : VmcsField := ⟨0x6c0c#64, rfl⟩

def hostIdtrBase : VmcsField := ⟨0x6c0e#64, rfl⟩

def cr3TargetCount : VmcsField := ⟨0x400a#64, rfl⟩

def vmExitMsrStoreCount : VmcsField := ⟨0x400e#64, rfl⟩

def vmExitMsrLoadCount : VmcsField := ⟨0x4010#64, rfl⟩

def vmEntryMsrLoadCount : VmcsField := ⟨0x4014#64, rfl⟩

def vmEntryInterruptionInformationField : VmcsField := ⟨0x4016#64, rfl⟩

def guestInterruptibilityState : VmcsField := ⟨0x4824#64, rfl⟩

def guestActivityState : VmcsField := ⟨0x4826#64, rfl⟩

def hostIa32SysenterEsp : VmcsField := ⟨0x6c10#64, rfl⟩

def hostIa32SysenterEip : VmcsField := ⟨0x6c12#64, rfl⟩

def guestIa32SysenterEsp : VmcsField := ⟨0x6824#64, rfl⟩

def guestIa32SysenterEip : VmcsField := ⟨0x6826#64, rfl⟩

def guestPendingDebugExceptions : VmcsField := ⟨0x6822#64, rfl⟩

end Zpp.X64.Intel.VmcsField
