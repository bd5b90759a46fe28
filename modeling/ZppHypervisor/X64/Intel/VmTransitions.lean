import ZppHypervisor.X64.Asm
import ZppHypervisor.X64.Intel.Vmx

/-!
# VM exits and VM entries

What a processor saves in the current VMCS and loads from it when it leaves the guest, and when
`vmresume` or `vmlaunch` enters it.  The other general registers, the xmm registers and the x87 state
are left alone: the host finds what the guest had, and the guest what the host leaves.
-/

namespace Zpp.X64.Intel

/-! ### Fields (`vmcs_fields.h`) -/

namespace VmcsField

def vpid : VmcsField := ⟨0x0#64, rfl⟩

def guestEsSelector : VmcsField := ⟨0x800#64, rfl⟩

def guestCsSelector : VmcsField := ⟨0x802#64, rfl⟩

def guestSsSelector : VmcsField := ⟨0x804#64, rfl⟩

def guestDsSelector : VmcsField := ⟨0x806#64, rfl⟩

def guestFsSelector : VmcsField := ⟨0x808#64, rfl⟩

def guestGsSelector : VmcsField := ⟨0x80a#64, rfl⟩

def hostEsSelector : VmcsField := ⟨0xc00#64, rfl⟩

def hostCsSelector : VmcsField := ⟨0xc02#64, rfl⟩

def hostSsSelector : VmcsField := ⟨0xc04#64, rfl⟩

def hostDsSelector : VmcsField := ⟨0xc06#64, rfl⟩

def hostFsSelector : VmcsField := ⟨0xc08#64, rfl⟩

def hostGsSelector : VmcsField := ⟨0xc0a#64, rfl⟩

def exitReason : VmcsField := ⟨0x4402#64, rfl⟩

def vmExitInstructionLength : VmcsField := ⟨0x440c#64, rfl⟩

def guestRsp : VmcsField := ⟨0x681c#64, rfl⟩

def guestRip : VmcsField := ⟨0x681e#64, rfl⟩

def guestRflags : VmcsField := ⟨0x6820#64, rfl⟩

def hostRsp : VmcsField := ⟨0x6c14#64, rfl⟩

def hostRip : VmcsField := ⟨0x6c16#64, rfl⟩

/-- The field of the selector of the guest. -/
def guestSelector : Seg → VmcsField
  | .cs => guestCsSelector
  | .ds => guestDsSelector
  | .es => guestEsSelector
  | .fs => guestFsSelector
  | .gs => guestGsSelector
  | .ss => guestSsSelector

/-- The field of the selector of the host. -/
def hostSelector : Seg → VmcsField
  | .cs => hostCsSelector
  | .ds => hostDsSelector
  | .es => hostEsSelector
  | .fs => hostFsSelector
  | .gs => hostGsSelector
  | .ss => hostSsSelector

end VmcsField

namespace VmxState

variable (s : VmxState) (pointer : Word)

/-- The value of a field of a region. -/
def field (f : VmcsField) : Word := ((s.regions pointer).fields f).setWidth 64

/-- Changes fields of a region. -/
def setFields (l : List (VmcsField × Word)) : VmxState :=
  l.foldl (fun s x => s.setField pointer x.1 (x.2.setWidth _)) s

end VmxState

/-! ### Transitions -/

/-- What a VM exit reports. -/
structure ExitInformation where
  reason : BitVec 32
  instructionLength : BitVec 32

/-- The fields that a VM exit saves. -/
def exitFields (exit : ExitInformation) (guest : Registers) : List (VmcsField × Word) :=
  [(.exitReason, exit.reason.setWidth 64),
    (.vmExitInstructionLength, exit.instructionLength.setWidth 64),
    (.guestRip, guest.rip), (.guestRsp, guest.gpr .rsp), (.guestRflags, guest.rflags)] ++
    [Seg.cs, .ds, .es, .fs, .gs, .ss].map fun r => (.guestSelector r, (guest.seg r).setWidth 64)

/-- Leaves the guest: the VMCS has its registers, and the processor those of the host. -/
def vmExit (pointer : Word) (exit : ExitInformation) (guest : State) (s : VmxState) :
    State × VmxState :=
  let s := s.setFields pointer (exitFields exit guest.toRegisters)
  ({ guest.setGpr .rsp (s.field pointer .hostRsp) with
      rip := s.field pointer .hostRip
      rflags := 0x2#64
      seg := fun r => (s.field pointer (.hostSelector r)).setWidth 16 }, s)

/-- Enters the guest. -/
def vmEntry (pointer : Word) (host : State) (s : VmxState) : State :=
  { host.setGpr .rsp (s.field pointer .guestRsp) with
    rip := s.field pointer .guestRip
    rflags := s.field pointer .guestRflags
    seg := fun r => (s.field pointer (.guestSelector r)).setWidth 16 }

end Zpp.X64.Intel
