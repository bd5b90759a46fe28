import ZppHypervisor.Lib.BitField
import ZppHypervisor.Lib.ByteMemory
import ZppHypervisor.X64.Pte

/-!
# Segment descriptors (`segment_descriptor.h`)

A descriptor is the word of its entry and, for system segments, the word after it.
-/

namespace Zpp.X64

/-- Represents a segment descriptor. -/
structure SegmentDescriptor where
  /-- The basic integral representation of the entry. -/
  entry : Word := 0#64
  /-- The extended integral representation of the entry. -/
  extended : Word := 0#64
deriving DecidableEq

namespace SegmentDescriptor

/-- `segment_type::tss_available`. -/
def tssAvailable : Word := 9#64

/-- Create a segment descriptor from memory. -/
def fromMemory (m : ByteMemory 64) (base : Word) (selector : BitVec 16) : SegmentDescriptor :=
  if selector = 0#16 then {}
  else
    let address := base + (selector.setWidth 64 &&& ~~~3#64)
    let entry := m.load64 address
    if selector = 0x1fff#16 then { entry }
    else { entry, extended := m.load64 (address + 8#64) }

variable (d : SegmentDescriptor)

/-! ### Fields -/

def limitLow : Word := d.entry &&& 0xffff#64

def limitHigh : Word := BitField.get 48 0xf#64 d.entry

/-- The limit field of the segment descriptor. -/
def limit : Word := d.limitLow ||| d.limitHigh <<< 16

def baseLow : Word := BitField.get 16 0xffff#64 d.entry

def baseMiddle : Word := BitField.get 32 0xff#64 d.entry

def baseHigh : Word := BitField.get 56 0xff#64 d.entry

/-- The base field of the segment descriptor. -/
def base : Word := d.baseLow ||| d.baseMiddle <<< 16 ||| d.baseHigh <<< 24

def baseUpper : Word := d.extended &&& 0xffffffff#64

/-- The base field together with the extended base. -/
def baseExtended : Word := d.base ||| d.baseUpper <<< 32

/-- The type field of the segment descriptor. -/
def type : Word := BitField.get 40 0xf#64 d.entry

/-- Whether the segment is a system segment; the bit of the entry is the opposite. -/
def system : Bool := !BitField.test 44 d.entry

/-- The privilege level field of the segment descriptor. -/
def privilegeLevel : Word := BitField.get 45 3#64 d.entry

/-- The present bit of the segment descriptor. -/
def present : Bool := BitField.test 47 d.entry

/-- The available-for-system-use bit of the segment descriptor. -/
def availableForSystemUse : Bool := BitField.test 52 d.entry

/-- The code-64-bit bit of the segment descriptor. -/
def code64Bit : Bool := BitField.test 53 d.entry

/-- The default operation size bit of the segment descriptor. -/
def defaultOperationSize : Bool := BitField.test 54 d.entry

/-- The granularity bit of the segment descriptor. -/
def granularity : Bool := BitField.test 55 d.entry

/-- The base or extended base, according to whether the segment is a system segment. -/
def contextDependentBase : Word := if d.system then d.baseExtended else d.base

/-- The vmx-specific access rights field of the segment descriptor. -/
def vmxAccessRights : BitVec 32 :=
  (BitField.get 40 0xffff#64 d.entry).setWidth 32 ||| (if d.present then 0#32 else 1#32) <<< 16

/-! ### Assignments -/

def setLimit (value : Word) : SegmentDescriptor :=
  let entry := BitField.set 0xffff#64 0xffff#64 0 d.entry (value &&& 0xffff#64)
  { d with entry := BitField.set (0xf#64 <<< 48) 0xf#64 48 entry ((value >>> 16) &&& 0xf#64) }

def setBase (value : Word) : SegmentDescriptor :=
  let entry := BitField.set (0xffff#64 <<< 16) 0xffff#64 16 d.entry (value &&& 0xffff#64)
  let entry := BitField.set (0xff#64 <<< 32) 0xff#64 32 entry ((value >>> 16) &&& 0xff#64)
  { d with entry := BitField.set (0xff#64 <<< 56) 0xff#64 56 entry ((value >>> 24) &&& 0xff#64) }

def setBaseExtended (value : Word) : SegmentDescriptor :=
  let d := d.setBase (value &&& 0xffffffff#64)
  { d with
    extended := BitField.set 0xffffffff#64 0xffffffff#64 0 d.extended
      ((value >>> 32) &&& 0xffffffff#64) }

def setType (value : Word) : SegmentDescriptor :=
  { d with entry := BitField.set (0xf#64 <<< 40) 0xf#64 40 d.entry value }

def setSystem (value : Bool) : SegmentDescriptor :=
  { d with entry := BitField.setFlag 44 d.entry (!value) }

def setPrivilegeLevel (value : Word) : SegmentDescriptor :=
  { d with entry := BitField.set (3#64 <<< 45) 3#64 45 d.entry value }

def setPresent (value : Bool) : SegmentDescriptor :=
  { d with entry := BitField.setFlag 47 d.entry value }

def setAvailableForSystemUse (value : Bool) : SegmentDescriptor :=
  { d with entry := BitField.setFlag 52 d.entry value }

def setCode64Bit (value : Bool) : SegmentDescriptor :=
  { d with entry := BitField.setFlag 53 d.entry value }

def setDefaultOperationSize (value : Bool) : SegmentDescriptor :=
  { d with entry := BitField.setFlag 54 d.entry value }

def setGranularity (value : Bool) : SegmentDescriptor :=
  { d with entry := BitField.setFlag 55 d.entry value }

end SegmentDescriptor

end Zpp.X64
