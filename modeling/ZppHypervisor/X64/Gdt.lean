import ZppHypervisor.X64.Cpu
import ZppHypervisor.X64.SegmentDescriptor

/-!
# Descriptor tables

What the processor does with a selector of the GDT: `descriptorAt` is the descriptor that it reads,
`hiddenSegment` the segment state that it keeps, in the format of the VMCS, and `LtrAllowed` says when
loading the task register does not fault.
-/

namespace Zpp.X64

/-! ### Selectors -/

/-- A null selector, with any requested privilege level. -/
def IsNull (selector : BitVec 16) : Prop := selector &&& 0xfffc#16 = 0#16

instance (selector : BitVec 16) : Decidable (IsNull selector) := inferInstanceAs (Decidable (_ = _))

/-- The selector is for the GDT, not for the LDT. -/
def IsGlobal (selector : BitVec 16) : Prop := selector &&& 4#16 = 0#16

instance (selector : BitVec 16) : Decidable (IsGlobal selector) :=
  inferInstanceAs (Decidable (_ = _))

/-- The offset of the descriptor that a selector is for. -/
def descriptorOffset (selector : BitVec 16) : ℕ := (selector &&& 0xfff8#16).toNat

/-- The descriptor in a table, with the word after it. -/
def descriptorAt (m : ByteMemory 64) (base : Word) (selector : BitVec 16) : SegmentDescriptor where
  entry := m.load64 (base + BitVec.ofNat 64 (descriptorOffset selector))
  extended := m.load64 (base + BitVec.ofNat 64 (descriptorOffset selector) + 8#64)

/-- The `n` bytes of the descriptor are inside the table. -/
def InGdt (gdtr : Gdtr) (selector : BitVec 16) (n : ℕ) : Prop :=
  IsGlobal selector ∧ descriptorOffset selector + n ≤ gdtr.limit.toNat + 1

instance (gdtr : Gdtr) (selector : BitVec 16) (n : ℕ) : Decidable (InGdt gdtr selector n) :=
  inferInstanceAs (Decidable (_ ∧ _))

/-! ### Segment state -/

/-- The hidden part of a segment register: the rights have the format of the VMCS. -/
structure HiddenSegment where
  base : Word
  limit : Word
  accessRights : BitVec 32
deriving DecidableEq

/-- The unusable bit of the access rights. -/
def unusable : BitVec 32 := 0x10000#32

/-- The limit of a segment in bytes. -/
def byteLimit (d : SegmentDescriptor) : Word :=
  if d.granularity then d.limit <<< 12 ||| 0xfff#64 else d.limit

/-- Bits 40-47 and 52-55 of the entry, where bits 8-11 of the rights are zero. -/
def accessRights (d : SegmentDescriptor) : BitVec 32 :=
  (BitField.get 40 0xf0ff#64 d.entry).setWidth 32

/-- The state after loading a code or data segment. -/
def hiddenSegment (d : SegmentDescriptor) : HiddenSegment := ⟨d.base, byteLimit d, accessRights d⟩

/-- The state after loading a system segment. -/
def hiddenSystemSegment (d : SegmentDescriptor) : HiddenSegment :=
  ⟨d.baseExtended, byteLimit d, accessRights d⟩

/-! ### The task register -/

/-- `ltr` does not fault: the selector is not null and its descriptor, in the GDT, is that of a present,
available task state segment. -/
structure LtrAllowed (m : ByteMemory 64) (gdtr : Gdtr) (selector : BitVec 16) : Prop where
  not_null : ¬IsNull selector
  inGdt : InGdt gdtr selector 16
  system : (descriptorAt m gdtr.base selector).system = true
  type : (descriptorAt m gdtr.base selector).type = SegmentDescriptor.tssAvailable
  present : (descriptorAt m gdtr.base selector).present = true

instance (m : ByteMemory 64) (gdtr : Gdtr) (selector : BitVec 16) :
    Decidable (LtrAllowed m gdtr selector) :=
  decidable_of_iff
    (¬IsNull selector ∧ InGdt gdtr selector 16 ∧
      (descriptorAt m gdtr.base selector).system = true ∧
      (descriptorAt m gdtr.base selector).type = SegmentDescriptor.tssAvailable ∧
      (descriptorAt m gdtr.base selector).present = true)
    ⟨fun ⟨h₁, h₂, h₃, h₄, h₅⟩ => ⟨h₁, h₂, h₃, h₄, h₅⟩, fun ⟨h₁, h₂, h₃, h₄, h₅⟩ => ⟨h₁, h₂, h₃, h₄, h₅⟩⟩

/-- Marks the task state segment busy. -/
def markBusy (m : ByteMemory 64) (gdtr : Gdtr) (selector : BitVec 16) : ByteMemory 64 :=
  let d := descriptorAt m gdtr.base selector
  m.store (gdtr.base + BitVec.ofNat 64 (descriptorOffset selector)) (n := 8)
    (BitField.setFlag 41 d.entry true)

/-- The memory after `ltr`, which a fault does not change. -/
def ltr (m : ByteMemory 64) (gdtr : Gdtr) (selector : BitVec 16) : ByteMemory 64 :=
  if LtrAllowed m gdtr selector then markBusy m gdtr selector else m

end Zpp.X64
