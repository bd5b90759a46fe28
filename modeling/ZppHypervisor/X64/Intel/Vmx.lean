import Mathlib.Logic.Function.Basic
import ZppHypervisor.X64.Pte

/-!
# VMX instructions

What `vmxon`, `vmclear`, `vmptrld`, `vmread` and `vmwrite` do to the VMX state of a processor, and how
they end: a failure is *invalid* without a current VMCS and *valid* with one, whose error field then
gets the number of the error.
-/

namespace Zpp.X64.Intel

/-! ### VMCS regions -/

/-- A field of the VMCS, all of it: the access type, bit 0, is full. -/
structure VmcsField where
  encoding : Word
  full : encoding.getLsbD 0 = false
deriving DecidableEq

namespace VmcsField

/-- The width of a field, from bits 13 and 14 of its encoding. -/
def width (f : VmcsField) : ℕ :=
  if (f.encoding >>> 13) &&& 3#64 = 0#64 then 16
  else if (f.encoding >>> 13) &&& 3#64 = 2#64 then 32
  else 64

/-- `vm_instruction_error`. -/
def vmInstructionError : VmcsField := ⟨0x4400#64, rfl⟩

end VmcsField

/-- A VMCS region: its revision identifier, its launch state and its fields. -/
structure VmcsRegion where
  revisionId : BitVec 32
  launched : Bool
  fields : (f : VmcsField) → BitVec f.width

/-! ### The processor -/

/-- What differs between processors. -/
structure Processor where
  revisionId : BitVec 32
  physicalAddressWidth : ℕ
  supported : VmcsField → Bool
  writable : VmcsField → Bool

/-- The pointer is aligned and not too long. -/
def Processor.validPointer (processor : Processor) (pointer : Word) : Bool :=
  pointer &&& 0xfff#64 = 0#64 && pointer.toNat < 2 ^ processor.physicalAddressWidth

/-- The VMX state of a processor. -/
structure VmxState where
  /-- The region given to `vmxon`, in VMX operation. -/
  vmxonPointer : Option Word
  /-- The current VMCS. -/
  current : Option Word
  /-- The regions at the physical addresses. -/
  regions : Word → VmcsRegion

/-- How a VMX instruction ends. -/
inductive VmxResult
  | succeed
  | failInvalid
  | failValid (error : ℕ)
deriving DecidableEq

namespace VmxResult

/-- The carry flag. -/
def cf : VmxResult → Bool
  | failInvalid => true
  | _ => false

end VmxResult

namespace VmxState

/-- Changes a field of a region. -/
def setField (s : VmxState) (pointer : Word) (f : VmcsField) (value : BitVec f.width) : VmxState :=
  { s with
    regions := Function.update s.regions pointer
      { s.regions pointer with fields := Function.update (s.regions pointer).fields f value } }

/-- `VMfail`. -/
def fail (s : VmxState) (error : ℕ) : VmxResult × VmxState :=
  match s.current with
  | none => (.failInvalid, s)
  | some pointer =>
    (.failValid error, s.setField pointer .vmInstructionError (BitVec.ofNat _ error))

/-! ### Instructions

`none` is an exception: but for `vmxon`, the instructions need VMX operation. -/

variable (processor : Processor) (s : VmxState)

def vmxon (region : Word) : Option (VmxResult × VmxState) :=
  if s.vmxonPointer.isSome then some (s.fail 15)
  else if processor.validPointer region ∧ (s.regions region).revisionId = processor.revisionId then
    some (.succeed, { s with vmxonPointer := some region, current := none })
  else some (.failInvalid, s)

def vmclear (region : Word) : Option (VmxResult × VmxState) :=
  if s.vmxonPointer.isNone then none
  else if ¬processor.validPointer region then some (s.fail 2)
  else if s.vmxonPointer = some region then some (s.fail 3)
  else
    some (.succeed,
      { s with
        regions := Function.update s.regions region { s.regions region with launched := false }
        current := if s.current = some region then none else s.current })

def vmptrld (region : Word) : Option (VmxResult × VmxState) :=
  if s.vmxonPointer.isNone then none
  else if ¬processor.validPointer region then some (s.fail 9)
  else if s.vmxonPointer = some region then some (s.fail 10)
  else if (s.regions region).revisionId ≠ processor.revisionId then some (s.fail 11)
  else some (.succeed, { s with current := some region })

/-- The last component is the destination, which only a success changes. -/
def vmread (f : VmcsField) (destination : Word) : Option (VmxResult × VmxState × Word) :=
  if s.vmxonPointer.isNone then none
  else
    match s.current with
    | none => some (.failInvalid, s, destination)
    | some pointer =>
      if processor.supported f then
        some (.succeed, s, ((s.regions pointer).fields f).setWidth 64)
      else some ((s.fail 12).1, (s.fail 12).2, destination)

def vmwrite (f : VmcsField) (value : Word) : Option (VmxResult × VmxState) :=
  if s.vmxonPointer.isNone then none
  else
    match s.current with
    | none => some (.failInvalid, s)
    | some pointer =>
      if ¬processor.supported f then some (s.fail 12)
      else if ¬processor.writable f then some (s.fail 13)
      else some (.succeed, s.setField pointer f (value.setWidth f.width))

end VmxState

end Zpp.X64.Intel
