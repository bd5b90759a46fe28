import ZppHypervisor.X64.Context
import ZppHypervisor.X64.Intel.VmTransitions
import ZppHypervisor.X64.Intel.Vmcs

/-!
# VM exits

The exit handler of `hypervisor::main`: the instructions it emulates on the context of the guest, and
what it reads from the VMCS and writes to it.  `Vmm.exitPath` is the way of an exit from the guest to
`vmresume`: `vm_exit_entry`, `zpp_vm_exit`, the handler and both runs of `restore_context`.
-/

namespace Zpp.X64.Intel

/-! ### Exit reasons (`vmx_exit_reason.h`) -/

/-- A basic exit reason. -/
abbrev BasicReason := BitVec 32

namespace BasicReason

def cpuid : BasicReason := 10#32

def invd : BasicReason := 13#32

def xsetbv : BasicReason := 55#32

end BasicReason

/-- The VMX exit reason. -/
structure ExitReason where
  value : Word

/-- Returns the basic exit reason. -/
def ExitReason.basic (r : ExitReason) : BasicReason := ((r.value >>> 0) &&& 0xff#64).setWidth 32

/-- The value of a VMCS field; without one, `value()` is undefined. -/
def Vmcs.value (processor : Processor) (f : VmcsField) (s : VmxState) : Option (Word × VmxState) := do
  match ← Vmcs.read processor f s with
  | (.ok value, s) => some (value, s)
  | (.error _, _) => none

end Zpp.X64.Intel

namespace Zpp.Hypervisor

open X64 X64.Intel ByteMemory

/-! ### Instructions (`asm.h`, `intel/asm.h`) -/

/-- The result of `cpuid`: the four registers. -/
structure CpuidResult where
  eax : BitVec 32
  ebx : BitVec 32
  ecx : BitVec 32
  edx : BitVec 32
deriving DecidableEq

/-- The instructions that the exit handler executes for the guest, with their operands. -/
inductive HostInstruction
  | cpuid (eax ecx : BitVec 32)
  | movCr4 (value : Word)
  | xsetbv (ecx edx eax : BitVec 32)
  | invd
deriving DecidableEq

/-- `xsetbv`: `mov ecx, edi; mov eax, esi; shr rsi, 32; mov edx, esi`. -/
def xsetbv (edi : BitVec 32) (rsi : Word) : HostInstruction :=
  .xsetbv edi ((rsi >>> 32).setWidth 32) (rsi.setWidth 32)

/-- The processor that emulates: its `cpuid` and its `cr4`. -/
structure HostCpu where
  cpuid : BitVec 32 → BitVec 32 → CpuidResult
  cr4 : Word
  /-- Whether processor reserved memory is protected. -/
  reservedMemoryProtected : Bool

section

variable (host : HostCpu)

/-- The processor has `xsetbv` and the bit of CR4 that turns it on. -/
def HostCpu.HasXsave : Prop := (host.cpuid 1#32 0#32).ecx.getLsbD 26 = true

instance : Decidable host.HasXsave := inferInstanceAs (Decidable (_ = _))

/-- The bits of XCR0 that the processor has. -/
def HostCpu.xcr0Bits : Word := (host.cpuid 0xd#32 0#32).edx ++ (host.cpuid 0xd#32 0#32).eax

/-- A value for XCR0 that a processor with some of its bits takes: the x87 state is on, AVX needs SSE, the
bits of MPX, of AVX-512 and of AMX go together, and AVX-512 needs AVX. -/
def LegalXcr0 (bits value : Word) : Prop :=
  value &&& ~~~bits = 0#64 ∧
    value.getLsbD 0 = true ∧
    (value.getLsbD 2 = true → value.getLsbD 1 = true) ∧
    value.getLsbD 3 = value.getLsbD 4 ∧
    value.getLsbD 5 = value.getLsbD 6 ∧ value.getLsbD 6 = value.getLsbD 7 ∧
    (value.getLsbD 5 = true → value.getLsbD 2 = true) ∧
    value.getLsbD 17 = value.getLsbD 18

instance (bits value : Word) : Decidable (LegalXcr0 bits value) :=
  inferInstanceAs (Decidable (_ ∧ _))

/-- The processor executes the instruction in root mode without an exception.  Of CR4 the handler changes
nothing but the bit for `xsetbv`. -/
def HostCpu.Executes : HostInstruction → Prop
  | .cpuid _ _ => True
  | .movCr4 _ => host.HasXsave
  | .xsetbv ecx edx eax => host.HasXsave ∧ ecx = 0#32 ∧ LegalXcr0 host.xcr0Bits (edx ++ eax)
  | .invd => host.reservedMemoryProtected = false

instance (i : HostInstruction) : Decidable (host.Executes i) :=
  match i with
  | .cpuid _ _ => inferInstanceAs (Decidable True)
  | .movCr4 _ => inferInstanceAs (Decidable host.HasXsave)
  | .xsetbv _ _ _ => inferInstanceAs (Decidable (_ ∧ _))
  | .invd => inferInstanceAs (Decidable (_ = _))

/-! ### The exit handler -/

/-- What the guest gets from `cpuid`. -/
def cpuidResult (context : Context) : CpuidResult :=
  let result := host.cpuid ((context.gpr .rax).setWidth 32) ((context.gpr .rcx).setWidth 32)
  -- If needs to set hypervisor present bit.
  if 1#64 = context.gpr .rax then { result with ecx := result.ecx ||| (1#32 <<< 31) }
  else if 1#64 <<< 30 = context.gpr .rax then
    -- HyperVisor Name: ZppZppZppZpp.
    { result with ebx := 0x5a70705a#32, ecx := 0x705a7070#32, edx := 0x70705a70#32 }
  else result

/-- Places the cpuid result into the context. -/
def placeCpuid (result : CpuidResult) (context : Context) : Context :=
  { context with
    gpr := Function.update (Function.update (Function.update (Function.update context.gpr
      .rax (result.eax.setWidth 64)) .rbx (result.ebx.setWidth 64))
      .rcx (result.ecx.setWidth 64)) .rdx (result.edx.setWidth 64) }

/-- Activate CR4 xsave bit. -/
def activateXsave : List HostInstruction :=
  if host.cr4 &&& (1#64 <<< 18) = 0#64 then [.movCr4 (host.cr4 ||| (1#64 <<< 18))] else []

/-- Emulates the instruction that a basic reason stands for: the context after it, and the
instructions that are executed for it, if none of them raises an exception. -/
def emulate (reason : BasicReason) (context : Context) : Context × List HostInstruction :=
  if reason = .cpuid then
    (placeCpuid (cpuidResult host context) context,
      [.cpuid ((context.gpr .rax).setWidth 32) ((context.gpr .rcx).setWidth 32)])
  else if reason = .xsetbv then
    (context, activateXsave host ++ [xsetbv ((context.gpr .rcx).setWidth 32)
      (context.gpr .rax ||| (context.gpr .rdx <<< 32))])
  else if reason = .invd then (context, [.invd])
  else (context, [])

/-- How the exit handler ends. -/
inductive Handled
  /-- It returns, which is an error. -/
  | returned
  /-- It restores a context. -/
  | restored (context : Context) (vmx : VmxState) (executed : List HostInstruction)

/-- The exit handler, with the address of `vmresume`; `none` is undefined behaviour or an exception,
for which the IDT of the host has no gate. -/
def exitHandler (processor : Processor) (vmresume : Word) (context : Context) (s : VmxState) :
    Option Handled := do
  let (_, s) ← Vmcs.value processor .vpid s
  match ← Vmcs.read processor .exitReason s with
  | (.error _, _) => return .returned
  | (.ok exitReason, s) =>
    let (guestRip, s) ← Vmcs.value processor .guestRip s
    let (context, executed) :=
      emulate host (ExitReason.mk exitReason).basic { context with rip := guestRip }
    guard (∀ i ∈ executed, host.Executes i)
    -- Update RIP.
    let (length, s) ← Vmcs.value processor .vmExitInstructionLength s
    let (_, s) ← Vmcs.write processor .guestRip (context.rip + length) s
    -- Resume the VM.
    return .restored { context with rip := vmresume } s executed

end

/-! ### The code around the handler -/

/-- `vm_exit_entry` with the function it calls, up to its jump.  `next` is the address behind the
call. -/
def vmExitEntry (zppX64CaptureContextIntoStack next zppVmExit : Word) : List Asm :=
  .call zppX64CaptureContextIntoStack next :: -- Capture guest context.
    (captureContextIntoStack ++
      [.lea .rdi .rsp 0x3a0#64, -- Move host context pointer to rdi.
        .sub .rsp 0x8#64, -- Align stack to expected value.
        .jmp zppVmExit]) -- Jump to the vm exit function.

/-- The size of `host_vm_launch_stack`. -/
def hostVmLaunchStackSize : ℕ := 0x1500

/-- The part of the frame of `vm_launch` that an exit uses. -/
structure LaunchFrame where
  /-- The address of `host_vm_launch_stack`. -/
  hostVmLaunchStack : Word
  aligned : Aligned hostVmLaunchStack

namespace LaunchFrame

variable (frame : LaunchFrame)

/-- The host VM exit rsp, which is the address of `local_guest_context`. -/
def hostRsp : Word :=
  frame.hostVmLaunchStack + BitVec.ofNat 64 hostVmLaunchStackSize - BitVec.ofNat 64 (2 * contextSize)

/-- The address of `host_context`. -/
def hostContext : Word := frame.hostRsp + BitVec.ofNat 64 contextSize

end LaunchFrame

/-- The processor runs on with the registers of a context. -/
structure ResumedAs (x : Context) (s : State) : Prop where
  gpr : s.gpr = x.gpr
  rip : s.rip = x.rip
  rflags : s.rflags = x.rflags
  xmm : s.xmm = x.xmm
  x87 : s.x87 = x.x87
  mxcsr : s.mxcsr = x.fxMxcsr

/-- What the compiled handler leaves when it calls `restore_context` for a context: the members of the
context, and a stack that is below what is in use. -/
structure Leaves (frame : LaunchFrame) (used : Set Word) (x : Context) (s s' : State) : Prop where
  rdi : s'.gpr .rdi = frame.hostRsp
  context : Context.read s'.memory frame.hostRsp = x
  hostContext : ∀ a ∈ Region frame.hostContext contextSize, s'.memory a = s.memory a
  rsp : ∃ q, s'.gpr .rsp = q + 0x30#64 ∧
    ∀ a ∈ Region q 0x30, a ∉ Region frame.hostVmLaunchStack hostVmLaunchStackSize ∧ a ∉ used

/-- The compiled functions of an exit, each up to its call of `restore_context`.  They do what their
source says when the memory in use by the callers has what it has to (`ready`), and their stacks fit
where they are. -/
structure HostCode (frame : LaunchFrame) (hostContext : Context) where
  /-- `zpp_vm_exit`, on the stack below `local_guest_context`. -/
  zppVmExit : State → State
  zppVmExit_rdi (s : State) : (zppVmExit s).gpr .rdi = s.gpr .rdi
  zppVmExit_rsp (s : State) (hrsp : s.gpr .rsp = frame.hostRsp - 8#64) :
    ∃ k ≤ 0xd88, (zppVmExit s).gpr .rsp = frame.hostRsp - 8#64 - BitVec.ofNat 64 k
  zppVmExit_memory (s : State) (hrsp : s.gpr .rsp = frame.hostRsp - 8#64) :
    ∀ a ∉ Region frame.hostVmLaunchStack 0xdb8, (zppVmExit s).memory a = s.memory a
  /-- `vm_launch` from behind `capture_context` on, when the handler leaves a context. -/
  vmmCode : Context → State → State
  /-- The memory in use by `vm_launch` and its callers, besides the array. -/
  used : Set Word
  used_apart : ∀ a ∈ used, a ∉ Region frame.hostVmLaunchStack hostVmLaunchStackSize
  ready : ByteMemory 64 → Prop
  ready_congr {m m' : ByteMemory 64} (h : ∀ a ∈ used, m' a = m a) : ready m → ready m'
  vmmCode_ready {x : Context} {s : State} (hs : ResumedAs hostContext s) (hready : ready s.memory) :
    ready (vmmCode x s).memory
  vmmCode_leaves {x : Context} {s : State} (hs : ResumedAs hostContext s) (hready : ready s.memory) :
    Leaves frame used x s (vmmCode x s)

/-- The hypervisor on a CPU after its launch. -/
structure Vmm where
  core : Core
  processor : Processor
  /-- The current VMCS. -/
  vmcs : Word
  /-- The address of `zpp_x64_capture_context_into_stack`. -/
  zppX64CaptureContextIntoStack : Word
  /-- The address behind its call. -/
  next : Word
  /-- The address of `zpp_vm_exit`. -/
  zppVmExit : Word
  /-- The address of `vmresume`. -/
  vmresume : Word
  frame : LaunchFrame
  /-- What `vm_launch` captured in `host_context`. -/
  hostContext : Context
  code : HostCode frame hostContext

/-- The states of an exit. -/
structure ExitTrace where
  /-- At the jump to `zpp_vm_exit`. -/
  captured : State
  /-- Behind the `capture_context` of `vm_launch`. -/
  resumed : State
  /-- At the handler's call of `restore_context`. -/
  handled : State
  /-- At `vmresume`. -/
  final : State
  vmx : VmxState
  executed : List HostInstruction

namespace Vmm

variable (vmm : Vmm)

/-- An exit, from the guest to `vmresume`; `none` is a fault, or a handler that does not restore. -/
def exitPath (exit : ExitInformation) (host : HostCpu) (guest : State) (vmx : VmxState) :
    Option ExitTrace := do
  let (s, vmx) := vmExit vmm.vmcs exit guest vmx
  let captured ←
    run vmm.core (vmExitEntry vmm.zppX64CaptureContextIntoStack vmm.next vmm.zppVmExit) s
  let resumed ← run vmm.core restoreContext (vmm.code.zppVmExit captured)
  let context := Context.read resumed.memory vmm.frame.hostRsp
  match ← exitHandler host vmm.processor vmm.vmresume context vmx with
  | .returned => none
  | .restored context vmx executed =>
    let handled := vmm.code.vmmCode context resumed
    let final ← run vmm.core restoreContext handled
    return { captured, resumed, handled, final, vmx, executed }

/-- What the guest cannot write to: the frames of the host. -/
def Protected (a : Word) : Prop :=
  a ∈ vmm.code.used ∨ a ∈ Region vmm.frame.hostVmLaunchStack hostVmLaunchStackSize

/-- What a guest does up to an exit, the exit, and the processor that it happens on. -/
structure GuestRun where
  guest : State → State
  guest_memory (s : State) : ∀ a, vmm.Protected a → (guest s).memory a = s.memory a
  exit : ExitInformation
  host : HostCpu

/-- Runs a guest through exits, from a VM entry to a VM entry. -/
def runExits : List vmm.GuestRun → State → VmxState → Option (State × VmxState)
  | [], s, vmx => some (s, vmx)
  | r :: l, s, vmx => do
    let trace ← vmm.exitPath r.exit r.host (r.guest s) vmx
    runExits l (vmEntry vmm.vmcs trace.final trace.vmx) trace.vmx

end Vmm

end Zpp.Hypervisor
