import ZppHypervisor.Hypervisor.Main
import ZppHypervisor.X64.Gdt

/-!
# The intermediate GDT and the guest segments

The part of `initialize_intermediate_gdt` that is in memory: the copy of the OS GDT and, if the OS has
no present TSS, the descriptor of a new one behind the copy.  `setup_vmcs` reads the segments of the
guest back from this table.
-/

namespace Zpp.Hypervisor

open X64

/-- `sizeof(guest_tss)`. -/
def guestTssSize : Word := 104#64

/-- The address of `unprotected_memory.guest_tss[i]`, behind the tables of all CPUs. -/
def Layout.guestTss (layout : Layout) (i : Word) : Word :=
  layout.ept.unprotectedMemory + 0x100000#64 + guestTssSize * i

/-- Create a task state segment. -/
def taskStateSegment (guestTss : Word) : SegmentDescriptor :=
  (((((((((({} : SegmentDescriptor).setLimit (guestTssSize - 1#64)).setBaseExtended guestTss).setType
    SegmentDescriptor.tssAvailable).setSystem true).setPrivilegeLevel 0#64).setPresent
    true).setAvailableForSystemUse false).setCode64Bit false).setDefaultOperationSize
    false).setGranularity false

section

variable (memory : ByteMemory 64) (intermediateGdt guestTss : Word) (gdtr : Gdtr)
  (osTr : BitVec 16)

/-- Copy OS Created GDT into our intermediate GDT. -/
def copyGdt : ByteMemory 64 :=
  memory.copy intermediateGdt memory gdtr.base (gdtr.limit.toNat + 1)

/-- Whether the TSS segment is present. -/
def taskStateSegmentPresent : Bool :=
  (SegmentDescriptor.fromMemory (copyGdt memory intermediateGdt gdtr) intermediateGdt osTr).present

/-- The index of the TSS segment. -/
def trIndex : Word := (gdtr.limit.setWidth 64 + 1#64) / 8#64

/-- `guest_tr`. -/
def guestTrOf : BitVec 16 :=
  -- If the TSS segment is present, just use the current TR as the guest TR.
  if taskStateSegmentPresent memory intermediateGdt gdtr osTr then osTr
  else (trIndex gdtr <<< 3).setWidth 16

/-- The memory after `initialize_intermediate_gdt`. -/
def intermediateGdtMemory : ByteMemory 64 :=
  let m := copyGdt memory intermediateGdt gdtr
  if taskStateSegmentPresent memory intermediateGdt gdtr osTr then m
  else
    let d := taskStateSegment guestTss
    let m := m.store (intermediateGdt + 8#64 * trIndex gdtr) (n := 8) d.entry
    m.store (intermediateGdt + 8#64 * (trIndex gdtr + 1#64)) (n := 8) d.extended

/-- `intermediate_gdt_limit`. -/
def intermediateLimit : Word :=
  if taskStateSegmentPresent memory intermediateGdt gdtr osTr then gdtr.limit.setWidth 64
  else gdtr.limit.setWidth 64 + 2#64 * 8#64

/-- The GDTR that `load_intermediate_gdt` loads. -/
def intermediateGdtr : Gdtr :=
  ⟨intermediateGdt, (intermediateLimit memory intermediateGdt gdtr osTr).setWidth 16⟩

/-- The memory when `setup_vmcs` reads the segments: loading a new TSS has marked it busy. -/
def loadedGdtMemory : ByteMemory 64 :=
  let m := intermediateGdtMemory memory intermediateGdt guestTss gdtr osTr
  if guestTrOf memory intermediateGdt gdtr osTr ≠ osTr then
    ltr m (intermediateGdtr memory intermediateGdt gdtr osTr)
      (guestTrOf memory intermediateGdt gdtr osTr)
  else m

end

/-- The platform whose answer about the TSS is the one found in the memory, for a launch from `m`. -/
def Platform.onMemory (p : Platform) (memory : ByteMemory 64) (m : Machine) : Platform :=
  { p with
    taskStateSegmentPresent := Hypervisor.taskStateSegmentPresent memory
      (p.layout.intermediateGdt (m.object.nextVirtualProcessor - 1#64)) m.cpu.gdtr m.cpu.tr }

/-- The same for `initialize_intermediate_gdt`, from the members that it reads. -/
def Platform.onGdt (p : Platform) (memory : ByteMemory 64) (o : Object) : Platform :=
  { p with
    taskStateSegmentPresent := Hypervisor.taskStateSegmentPresent memory
      (p.layout.intermediateGdt (o.nextVirtualProcessor - 1#64)) o.gdtr o.osTr }

/-! ### Guest segments -/

/-- The registers about segments: those of the captured context, and those of
`initialize_registers`. -/
structure SegmentRegisters where
  cs : BitVec 16
  ds : BitVec 16
  es : BitVec 16
  fs : BitVec 16
  gs : BitVec 16
  ss : BitVec 16
  gdtr : Gdtr
  guestLdtr : BitVec 16
  osTr : BitVec 16
  ia32FsBase : Word
  ia32GsBase : Word

/-- The guest fields of a segment in the VMCS. -/
structure GuestSegment where
  selector : BitVec 16
  state : HiddenSegment
deriving DecidableEq

/-- The guest fields of the segments in the VMCS. -/
structure GuestSegments where
  cs : GuestSegment
  ds : GuestSegment
  es : GuestSegment
  fs : GuestSegment
  gs : GuestSegment
  ss : GuestSegment
  tr : GuestSegment
  ldtr : GuestSegment
deriving DecidableEq

/-- The fields of one segment, with the base of the descriptor. -/
def guestSegment (m : ByteMemory 64) (intermediateGdtBase : Word) (selector : BitVec 16) :
    GuestSegment :=
  let descriptor := SegmentDescriptor.fromMemory m intermediateGdtBase selector
  ⟨selector, ⟨descriptor.contextDependentBase, descriptor.limit, descriptor.vmxAccessRights⟩⟩

/-- Write segment information. -/
def setupSegments (m : ByteMemory 64) (intermediateGdtBase : Word) (guestTr : BitVec 16)
    (r : SegmentRegisters) : GuestSegments where
  cs := guestSegment m intermediateGdtBase r.cs
  ds := guestSegment m intermediateGdtBase r.ds
  es := guestSegment m intermediateGdtBase r.es
  fs := guestSegment m intermediateGdtBase r.fs
  gs :=
    let segment := guestSegment m intermediateGdtBase r.gs
    { segment with state := { segment.state with base := r.ia32GsBase } }
  ss := guestSegment m intermediateGdtBase r.ss
  tr := guestSegment m intermediateGdtBase guestTr
  ldtr := guestSegment m intermediateGdtBase r.guestLdtr

/-- The fields that a launch writes: `setup_vmcs` after `load_intermediate_gdt`. -/
def launchSegments (memory : ByteMemory 64) (intermediateGdt guestTss : Word)
    (r : SegmentRegisters) : GuestSegments :=
  setupSegments (loadedGdtMemory memory intermediateGdt guestTss r.gdtr r.osTr) intermediateGdt
    (guestTrOf memory intermediateGdt r.gdtr r.osTr) r

end Zpp.Hypervisor
