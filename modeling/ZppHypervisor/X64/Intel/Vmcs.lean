import ZppHypervisor.X64.Intel.Vmx

/-!
# VMX operations (`intel/asm.h`, `intel/vmcs.h`)

The functions around the VMX instructions.  Each of them jumps on the carry flag alone.
-/

namespace Zpp.X64.Intel

/-- `jc fail; mov eax, 0; ret; fail: mov eax, 1; ret`. -/
def VmxResult.eax (r : VmxResult) : BitVec 32 := if r.cf then 1#32 else 0#32

section

variable (processor : Processor)

def vmxon (region : Word) (s : VmxState) : Option (BitVec 32 × VmxState) :=
  (s.vmxon processor region).map fun (r, s) => (r.eax, s)

def vmclear (region : Word) (s : VmxState) : Option (BitVec 32 × VmxState) :=
  (s.vmclear processor region).map fun (r, s) => (r.eax, s)

def vmptrld (region : Word) (s : VmxState) : Option (BitVec 32 × VmxState) :=
  (s.vmptrld processor region).map fun (r, s) => (r.eax, s)

/-- The last component is the variable behind the pointer. -/
def vmread (f : VmcsField) (value : Word) (s : VmxState) : Option (BitVec 32 × VmxState × Word) :=
  (s.vmread processor f value).map fun (r, s, value) => (r.eax, s, value)

def vmwrite (f : VmcsField) (value : Word) (s : VmxState) : Option (BitVec 32 × VmxState) :=
  (s.vmwrite processor f value).map fun (r, s) => (r.eax, s)

end

/-- The VMCS error type. -/
inductive VmcsError
  | success
  | fail
deriving DecidableEq

namespace Vmcs

variable (processor : Processor)

/-- Write a value to a VMCS field. -/
def write (f : VmcsField) (value : Word) (s : VmxState) : Option (VmcsError × VmxState) :=
  (vmwrite processor f value s).map fun (eax, s) =>
    (if eax ≠ 0#32 then .fail else .success, s)

/-- Read a specific VMCS field. -/
def read (f : VmcsField) (s : VmxState) : Option (Except VmcsError Word × VmxState) :=
  (vmread processor f 0#64 s).map fun (eax, s, value) =>
    (if eax ≠ 0#32 then .error .fail else .ok value, s)

end Vmcs

end Zpp.X64.Intel
