import ZppHypervisor.Hypervisor.Ept
import ZppHypervisor.Hypervisor.HostPageTable
import ZppHypervisor.Lib.ScopeGuard
import ZppHypervisor.X64.Cpu
import ZppHypervisor.X64.OsPageTable

/-!
# Launching the hypervisor on a CPU

`hypervisor::main` up to `vmlaunch`, and `launch_on_cpu` around it.  `Object` has the members of
`class hypervisor` that these functions use, `Platform` what they find outside it, and `Machine` adds
the registers of the CPU that runs them and a log: the privileged instructions, each with the
registers before it, and the uses of the arrays that have an element for each CPU.

Of the VMCS only the VPID is here.  The other fields, and the host GDT that they name, are in
`Hypervisor.SetupVmcs`; `initialize_host_idt` does nothing.
-/

namespace Zpp.Hypervisor

open X64 X64.Intel Loop ScopeGuard

/-! ### State -/

/-- The addresses of members of the hypervisor object. -/
structure Layout where
  /-- `host_page_table`. -/
  hostPageTable : Word
  /-- `epml4` and `unprotected_memory`. -/
  ept : EptLayout
  /-- `vmx`, an array of pages. -/
  vmx : Word
  /-- `vmx_vmcs`, an array of pages. -/
  vmxVmcs : Word
  /-- `msr_bitmap`. -/
  msrBitmap : Word

namespace Layout

variable (layout : Layout)

/-- The address of `vmx[i]`. -/
def vmxAt (i : Word) : Word := layout.vmx + 0x1000#64 * i

/-- The address of `vmx_vmcs[i]`. -/
def vmxVmcsAt (i : Word) : Word := layout.vmxVmcs + 0x1000#64 * i

/-- The address of `unprotected_memory.intermediate_gdt[i]`. -/
def intermediateGdt (i : Word) : Word := layout.ept.unprotectedMemory + 0x10000#64 * i

end Layout

/-- The members of the hypervisor object. -/
structure Object where
  availableStackIndex : Word
  nextVirtualProcessor : Word
  osPageTable : OsPageTable
  hostPageTable : PageTable
  moduleBase : Word
  moduleSize : Word
  modulePhysicalToVirtual : PhysicalToVirtual (maxModuleSize / 0x1000)
  guestCr0 : Word
  guestCr3 : Word
  guestCr4 : Word
  hostCr0 : Word
  hostCr3 : Word
  hostCr4 : Word
  gdtr : Gdtr
  guestTr : BitVec 16
  osTr : BitVec 16
  guestGdtPointer : Word
  guestGdtLimit : Word
  intermediateGdtLimit : Word
  /-- `cached_vmx_msr`. -/
  vmxMsrs : ℕ → Word
  mtrrs : Vector Mtrr 8
  ept : Ept
  /-- The revision IDs of the elements of `vmx`, as if the array had one for each word; from `maxCpus` on
  an element lies on other members, which are not changed here. -/
  vmxRevision : Word → BitVec 32
  /-- The revision IDs of the elements of `vmx_vmcs`, in the same way. -/
  vmxVmcsRevision : Word → BitVec 32
  vmxPhysical : Word
  vmcsPhysical : Word
  epml4Physical : Word
  msrBitmapPhysical : Word

/-- The object as `state::create_once` constructs it. -/
def Object.fresh : Object where
  availableStackIndex := 0#64
  nextVirtualProcessor := 1#64
  osPageTable := ⟨0#64, none⟩
  hostPageTable := .empty
  moduleBase := 0#64
  moduleSize := 0#64
  modulePhysicalToVirtual := .empty
  guestCr0 := 0#64
  guestCr3 := 0#64
  guestCr4 := 0#64
  hostCr0 := 0#64
  hostCr3 := 0#64
  hostCr4 := 0#64
  gdtr := ⟨0#64, 0#16⟩
  guestTr := 0#16
  osTr := 0#16
  guestGdtPointer := 0#64
  guestGdtLimit := 0#64
  intermediateGdtLimit := 0#64
  vmxMsrs _ := 0#64
  mtrrs := .replicate 8 {}
  ept := .empty
  vmxRevision _ := 0#32
  vmxVmcsRevision _ := 0#32
  vmxPhysical := 0#64
  vmcsPhysical := 0#64
  epml4Physical := 0#64
  msrBitmapPhysical := 0#64

/-- What `main` finds outside the hypervisor object, on one CPU. -/
structure Platform where
  layout : Layout
  /-- The memory that `physical_to_virtual` gives pointers into. -/
  memory : ByteMemory 64
  /-- `elf_image_base()`. -/
  moduleBase : Word
  /-- `memory_size()` of the loaded module. -/
  moduleSize : Word
  /-- `rdmsr` of the VMX MSRs. -/
  rdmsr : ℕ → Word
  /-- The records that `initialize_mtrrs` stores. -/
  mtrrs : Vector Mtrr 8
  /-- Whether the descriptor that TR selects in the copy of the OS GDT is present. -/
  taskStateSegmentPresent : Bool
  /-- The carry flag after `vmxon`. -/
  vmxonCarry : Bool
  /-- The carry flag after `vmclear`. -/
  vmclearCarry : Bool
  /-- The carry flag after `vmptrld`. -/
  vmptrldCarry : Bool

/-- The members that are arrays with an element for each CPU. -/
inductive CpuArray
  | stack
  | intermediateGdt
  | guestTss
  | vmx
  | vmxVmcs
deriving DecidableEq

/-- The hypervisor object, the CPU that runs its code, and the log. -/
structure Machine where
  object : Object
  cpu : Cpu
  /-- The instructions executed, each with the registers before it. -/
  trace : List (Instruction × Cpu)
  /-- The elements of per-CPU arrays used. -/
  slots : List (CpuArray × Word)
  /-- The VPIDs written. -/
  vpids : List (BitVec 16)

/-- Code of a function that may return an error. -/
abbrev Code := Block Machine Error

namespace Machine

/-- Executes an instruction. -/
def exec (i : Instruction) (m : Machine) : Machine :=
  { m with cpu := i.step m.cpu, trace := m.trace ++ [(i, m.cpu)] }

/-- Changes the object. -/
def update (f : Object → Object) (m : Machine) : Machine := { m with object := f m.object }

/-- Uses an element of a per-CPU array.  From `maxCpus` on it lies on other members; this is in the log
only, and what such a use writes is in no member. -/
def use (array : CpuArray) (index : Word) (m : Machine) : Machine :=
  { m with slots := m.slots ++ [(array, index)] }

end Machine

section Steps

variable {ρ : Type}

/-- The hypervisor object. -/
def this : Block Machine ρ Object := Block.get (·.object)

/-- The registers of the CPU. -/
def cpu : Block Machine ρ Cpu := Block.get (·.cpu)

def exec (i : Instruction) : Block Machine ρ Unit := Block.modify (Machine.exec i)

def update (f : Object → Object) : Block Machine ρ Unit := Block.modify (Machine.update f)

def use (array : CpuArray) (index : Word) : Block Machine ρ Unit :=
  Block.modify (Machine.use array index)

end Steps

/-- A computation on the members that ends without a value. -/
def orFail {α : Type} : Outcome Error α → Code α
  | .next a => pure a
  | .returned e => Block.exit e
  | .undefined => Block.undefined

/-! ### Initialization -/

variable (p : Platform)

/-- Capture important registers for later use of the hypervisor. -/
def initializeRegisters : Code Unit := do
  let c ← cpu
  update fun o =>
    { o with
      guestCr0 := c.cr0
      guestCr3 := c.cr3
      guestCr4 := c.cr4
      gdtr := c.gdtr
      osTr := c.tr }

/-- Find the module base and size. -/
def initializeModuleRegion : Code Unit :=
  update fun o => { o with moduleBase := p.moduleBase, moduleSize := p.moduleSize }

/-- Initialize the OS page table object. -/
def initializeOsPageTable (physicalToVirtual : Option (Word → Word)) : Code Unit :=
  update fun o => { o with osPageTable := .ofCr3 o.guestCr3 physicalToVirtual }

/-- Initialize the host page table object. -/
def initializeHostPageTableMember : Code Unit :=
  update fun o =>
    let r := initializeHostPageTable p.layout.hostPageTable o.moduleBase o.moduleSize o.guestCr3
      (o.osPageTable.virtualToPhysical p.memory) o.hostPageTable
    { o with hostPageTable := r.1, hostCr3 := r.2 }

/-- Create physical to virtual mapping for our module. -/
def initializeModulePhysicalToVirtualMember : Code Unit := do
  let o ← this
  let map ← orFail (initializeModulePhysicalToVirtual o.hostPageTable.virtualToPhysical o.moduleBase
    o.moduleSize o.modulePhysicalToVirtual)
  update fun o => { o with modulePhysicalToVirtual := map }

/-- Initialize an intermediate copy of the OS GDT: the selectors, pointers and limits. -/
def initializeIntermediateGdt : Code Unit := do
  let o ← this
  let index := o.nextVirtualProcessor - 1#64
  use .intermediateGdt index
  use .guestTss index
  -- If the TSS segment is present, just use the current OS GDT.
  if p.taskStateSegmentPresent then
    update fun o =>
      { o with
        guestGdtPointer := o.gdtr.base
        guestGdtLimit := o.gdtr.limit.setWidth 64
        intermediateGdtLimit := o.gdtr.limit.setWidth 64
        guestTr := o.osTr }
  else
    update fun o =>
      -- Increase the intermediate GDT limit by one entry.
      let limit : Word := o.gdtr.limit.setWidth 64 + 2#64 * 8#64
      let trIndex : Word := (o.gdtr.limit.setWidth 64 + 1#64) / 8#64
      { o with
        guestGdtPointer := p.layout.intermediateGdt index
        intermediateGdtLimit := limit
        guestGdtLimit := limit
        guestTr := (trIndex <<< 3).setWidth 16 }

/-- Load the intermediate GDT. -/
def loadIntermediateGdt : Code Unit := do
  let o ← this
  let index := o.nextVirtualProcessor - 1#64
  use .intermediateGdt index
  exec (.lgdt ⟨p.layout.intermediateGdt index, o.intermediateGdtLimit.setWidth 16⟩)
  -- Load TSS segment if changed.
  if o.guestTr ≠ o.osTr then exec (.ltr o.guestTr) else pure ()

/-- Load the OS GDT. -/
def loadOsGdt (m : Machine) : Machine :=
  let o := m.object
  let m := m.exec (.lgdt o.gdtr)
  -- Load OS TSS segment if changed.
  if o.guestTr ≠ o.osTr then m.exec (.ltr o.osTr) else m

/-- Initialize important VMX MSR registers. -/
def initializeVmxMsrs : Code Unit := update fun o => { o with vmxMsrs := p.rdmsr }

/-- Initialize the MTRR structures. -/
def initializeMtrrs : Code Unit := update fun o => { o with mtrrs := p.mtrrs }

/-- Initialize hardware page table structures. -/
def initializeEptMember : Code Unit := update fun o =>
  { o with ept := initializeEpt p.layout.ept o.hostPageTable.virtualToPhysical o.mtrrs o.ept }

/-- Prepare module protection from guest access. -/
def protectModuleMember : Code Unit := do
  let o ← this
  let ept ← orFail (protectModule p.layout.ept o.hostPageTable.virtualToPhysical
    o.modulePhysicalToVirtual o.moduleBase o.moduleSize o.ept)
  update fun o => { o with ept }

/-- Remove protection for unprotected guest memory. -/
def unprotectGuestMemoryMember : Code Unit := do
  let o ← this
  let ept ← orFail (unprotectGuestMemory p.layout.ept o.hostPageTable.virtualToPhysical
    o.modulePhysicalToVirtual o.ept)
  update fun o => { o with ept }

/-! ### VMX -/

/-- The cached VMX MSRs that are used. -/
def msrVmxBasic : ℕ := 0x480
def msrVmxCr0Fixed0 : ℕ := 0x486
def msrVmxCr0Fixed1 : ℕ := 0x487
def msrVmxCr4Fixed0 : ℕ := 0x488
def msrVmxCr4Fixed1 : ℕ := 0x489

/-- Initialize needed vmx structures. -/
def initializeVmx : Code Unit := do
  let o ← this
  let index := o.nextVirtualProcessor - 1#64
  use .vmx index
  use .vmxVmcs index
  update fun o =>
    let revision := (o.vmxMsrs msrVmxBasic).setWidth 32
    { o with
      vmxPhysical := o.hostPageTable.virtualToPhysical (p.layout.vmxAt index)
      vmcsPhysical := o.hostPageTable.virtualToPhysical (p.layout.vmxVmcsAt index)
      epml4Physical := o.hostPageTable.virtualToPhysical p.layout.ept.epml4
      msrBitmapPhysical := o.hostPageTable.virtualToPhysical p.layout.msrBitmap
      vmxRevision := fun i => if i = index then revision else o.vmxRevision i
      vmxVmcsRevision := fun i => if i = index then revision else o.vmxVmcsRevision i
      -- Adjust the cr0 and the cr4 according to the MSR restrictions.
      hostCr0 := o.guestCr0 &&& (o.vmxMsrs msrVmxCr0Fixed1 &&& 0xffffffff#64) |||
        (o.vmxMsrs msrVmxCr0Fixed0 &&& 0xffffffff#64)
      hostCr4 := o.guestCr4 &&& (o.vmxMsrs msrVmxCr4Fixed1 &&& 0xffffffff#64) |||
        (o.vmxMsrs msrVmxCr4Fixed0 &&& 0xffffffff#64) }

section

variable {ρ : Type}

/-- Turn on vmx; true if it failed. -/
def vmxon (region : Word) : Block Machine ρ Bool := do
  exec (.vmxon region p.vmxonCarry)
  pure p.vmxonCarry

/-- Clear the vmcs; true if it failed. -/
def vmclear (region : Word) : Block Machine ρ Bool := do
  exec (.vmclear region p.vmclearCarry)
  pure p.vmclearCarry

/-- Load the vmcs; true if it failed. -/
def vmptrld (region : Word) : Block Machine ρ Bool := do
  exec (.vmptrld region p.vmptrldCarry)
  pure p.vmptrldCarry

end

/-- Enter root mode on the current CPU; success is `none`. -/
def enterRootMode : Block Machine (Option Error) (Option Error) := do
  let o ← this
  -- Backup cr0 and cr4.
  let c ← cpu
  let cr0 := c.cr0
  let cr4 := c.cr4
  -- Change cr0.
  exec (.movCr0 o.hostCr0)
  let restoreCr0 ← Block.construct (Machine.exec (.movCr0 cr0))
  -- Change cr4.
  exec (.movCr4 o.hostCr4)
  let restoreCr4 ← Block.construct (Machine.exec (.movCr4 cr4))
  -- Turn on vmx.
  if ← vmxon p o.vmxPhysical then
    Block.exit (some .vmxonFailed)
  else
    let turnOffVmx ← Block.construct (Machine.exec .vmxoff)
    -- Clear the vmcs.
    if ← vmclear p o.vmcsPhysical then
      Block.exit (some .vmclearFailed)
    else
      -- Load the vmcs structure.
      if ← vmptrld p o.vmcsPhysical then
        Block.exit (some .vmptrldFailed)
      else
        -- Cancel all guards.
        Block.cancel turnOffVmx
        Block.cancel restoreCr4
        Block.cancel restoreCr0
        pure none

/-- Setup the VM control structure: the VPID, and the intermediate GDT it reads the segments from. -/
def setupVmcs : Code Unit := do
  let o ← this
  Block.modify fun m => { m with vpids := m.vpids ++ [o.nextVirtualProcessor.setWidth 16] }
  use .intermediateGdt (o.nextVirtualProcessor - 1#64)

/-- Launch the VM. -/
def vmLaunch : Code Unit := do
  -- Increment the virtual processor id.
  update fun o => { o with nextVirtualProcessor := o.nextVirtualProcessor + 1#64 }
  exec .vmlaunch

/-! ### Main -/

/-- The part of `main` performed only on the first CPU, before the page tables are switched. -/
def initializeModule (physicalToVirtual : Option (Word → Word)) : Code Unit := do
  initializeModuleRegion p
  initializeOsPageTable physicalToVirtual
  initializeHostPageTableMember p
  initializeModulePhysicalToVirtualMember

/-- The part of `main` performed only on the first CPU, under the host page table. -/
def initializeProtection : Code Unit := do
  initializeVmxMsrs p
  initializeMtrrs p
  initializeEptMember p
  protectModuleMember p
  unprotectGuestMemoryMember p

/-- Performed only on first CPU load. -/
def onFirstCpu (cpuid : Word) (block : Code Unit) : Code Unit :=
  if cpuid = 0#64 then block else pure ()

/-- The main function of the hypervisor.  It returns an error, or ends with `vmlaunch`, after which
the guest runs and its own guards do not. -/
def main (cpuid : Word) (physicalToVirtual : Option (Word → Word)) : Code Unit := do
  -- Disable interrupts.
  exec .cli
  -- Guard to enable interrupts.
  let _ ← Block.construct (Machine.exec .sti)
  -- Initialize special registers.
  initializeRegisters
  onFirstCpu cpuid (initializeModule p physicalToVirtual)
  initializeIntermediateGdt p
  loadIntermediateGdt p
  -- Guard to restore GDT.
  let _ ← Block.construct loadOsGdt
  -- Switch page tables.
  let o ← this
  exec (.movCr3 o.hostCr3)
  -- Guard to restore cr3.
  let _ ← Block.construct fun m => m.exec (.movCr3 m.object.guestCr3)
  onFirstCpu cpuid (initializeProtection p)
  -- Initialize vmx.
  initializeVmx p
  -- Enter root mode.
  match ← Block.call (enterRootMode p) with
  | some error => Block.exit error
  | none =>
    -- Guard to turn off vmx.
    let _ ← Block.construct (Machine.exec .vmxoff)
    setupVmcs
    vmLaunch

/-- How a run of `main` ends. -/
inductive MainResult
  /-- The guest runs. -/
  | launched (m : Machine)
  /-- `main` returns an error. -/
  | failed (e : Error) (m : Machine)
  | undefined (m : Machine)

/-- Runs `main`. -/
def runMain (cpuid : Word) (physicalToVirtual : Option (Word → Word)) (m : Machine) : MainResult :=
  match main p cpuid physicalToVirtual ⟨m, []⟩ with
  | .next _ s => .launched s.state
  | .returned e s => .failed e (destroy s.guards s.state)
  | .undefined s => .undefined s.state

/-- Launch the hypervisor on the current CPU, on the next stack. -/
def launchOnCpu (cpuid : Word) (physicalToVirtual : Option (Word → Word)) (m : Machine) :
    MainResult :=
  let m := m.use .stack m.object.availableStackIndex
  -- Increment stack index.
  let m := m.update fun o => { o with availableStackIndex := o.availableStackIndex + 1#64 }
  runMain p cpuid physicalToVirtual m

end Zpp.Hypervisor
