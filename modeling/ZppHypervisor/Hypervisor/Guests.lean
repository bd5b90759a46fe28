import ZppHypervisor.Hypervisor.Module
import ZppHypervisor.Hypervisor.VmExit
import ZppHypervisor.Lib.AddressSpace
import ZppHypervisor.Lib.Simulation
import ZppHypervisor.X64.Intel.EptWalk

/-!
# Guests on several CPUs

After the launches every CPU runs a guest under the same extended page tables, and the code of an exit
on one CPU runs between the instructions of the others, in the address space of the host page tables.
A turn is one step of one CPU: an instruction without memory, the access to one byte, or an
instruction that exits.  All tables are walked where they lie in memory.  An access that the extended
page tables deny is an exit as well.
-/

namespace Zpp.Hypervisor

open X64 X64.Intel ByteMemory

/-! ### Turns -/

/-- The ways to access a byte. -/
inductive AccessKind
  | read
  | write
  | fetch
  | fetchUser
deriving DecidableEq

/-- Whether the tables allow an access. -/
def AccessKind.allowed : AccessKind → EptAccess → Bool
  | read, access => access.read
  | write, access => access.write
  | fetch, access => access.execute
  | fetchUser, access => access.executeUser

/-- The guest-physical addresses of four levels of tables. -/
abbrev GuestAddress := BitVec 48

/-- One step of a guest, with the registers that it leaves. -/
inductive GuestStep
  | compute (registers : Registers)
  /-- Reads or fetches a byte; the registers depend on it. -/
  | load (kind : AccessKind) (a : GuestAddress) (registers : BitVec 8 → Registers)
  | store (a : GuestAddress) (value : BitVec 8) (registers : Registers)
  /-- An instruction that exits for a reason. -/
  | exit (reason : BitVec 32)

/-- A step of a CPU, which depends on its registers. -/
structure Turn (ι : Type) where
  cpu : ι
  step : Registers → GuestStep
  /-- The length of the instruction, if it exits. -/
  instructionLength : BitVec 32
  /-- The processor that the exit happens on. -/
  host : HostCpu

/-- The exit reason of an access that the extended page tables deny. -/
def eptViolation : BitVec 32 := 48#32

variable {ι : Type} [DecidableEq ι]

/-! ### With the hypervisor -/

/-- The physical memory, and the CPUs, each with its VMX state. -/
structure Guests (ι : Type) where
  phys : ByteMemory 64
  registers : ι → Registers
  vmx : ι → VmxState

/-- The hypervisor on the CPUs. -/
structure Host (ι : Type) where
  vmm : ι → Vmm
  /-- Where the hypervisor is. -/
  image : Module
  /-- The root of the extended page tables. -/
  epml4 : Word
  /-- The root of the host page tables. -/
  cr3 : Word

namespace Host

variable (h : Host ι)

/-- The physical address of an access, if it is allowed. -/
def translate (phys : ByteMemory 64) (kind : AccessKind) (a : GuestAddress) : Option Word :=
  if kind.allowed (eptAccess phys h.epml4 (a.setWidth 64)) then
    (eptWalk phys h.epml4 (a.setWidth 64)).map (·.physical)
  else none

/-- Where the processor finds an address of the host. -/
def physical (phys : ByteMemory 64) (a : Word) : Option Word :=
  (hardwareWalk phys h.cr3 a).map (·.physical)

/-- The address space of the host; its inverse is the one on the module. -/
def space (phys : ByteMemory 64) : AddressSpace 64 64 where
  physical := h.physical phys
  virtual x := ((List.range h.image.pages).map fun i => h.image.page i + (x &&& 0xfff#64)).find?
    fun a => h.physical phys a = some x
  physical_virtual hx := by simpa using List.find?_some hx

/-- The memory as the host sees it. -/
def view (phys : ByteMemory 64) : ByteMemory 64 := (h.space phys).view phys

/-- An exit on a CPU, up to the next instruction of its guest. -/
def exit (i : ι) (exit : ExitInformation) (host : HostCpu) (s : Guests ι) : Option (Guests ι) := do
  let guest : State := ⟨s.registers i, h.view s.phys⟩
  let trace ← (h.vmm i).exitPath exit host guest (s.vmx i)
  let guest := vmEntry (h.vmm i).vmcs trace.final trace.vmx
  return {
    phys := (h.space s.phys).writeBack s.phys guest.memory
    registers := Function.update s.registers i guest.toRegisters
    vmx := Function.update s.vmx i trace.vmx }

/-- A turn; `none` is a fault of the host. -/
def step (t : Turn ι) (s : Guests ι) : Option (Guests ι) :=
  match t.step (s.registers t.cpu) with
  | .compute registers => some { s with registers := Function.update s.registers t.cpu registers }
  | .load kind a registers =>
    match h.translate s.phys kind a with
    | some x => some { s with registers := Function.update s.registers t.cpu (registers (s.phys x)) }
    | none => h.exit t.cpu ⟨eptViolation, t.instructionLength⟩ t.host s
  | .store a value registers =>
    match h.translate s.phys .write a with
    | some x =>
      some
        { s with
          phys := Function.update s.phys x value
          registers := Function.update s.registers t.cpu registers }
    | none => h.exit t.cpu ⟨eptViolation, t.instructionLength⟩ t.host s
  | .exit reason => h.exit t.cpu ⟨reason, t.instructionLength⟩ t.host s

end Host

end Zpp.Hypervisor
