import ZppHypervisor.Hypervisor.Main
import ZppHypervisor.Hypervisor.VmExit

/-!
# Starting the hypervisor on a CPU

The call of `_start` by the loader, from its first instruction to the end of the launch: `_start`
captures the context of its caller, `launch_on_cpu` copies it to a stack of the hypervisor and goes on
there, and either the launch fails and `launch_on_cpu_private_stack` restores the copy, or `vm_launch`
restores it for `vmlaunch`.
-/

namespace Zpp.Hypervisor

open X64 X64.Intel ByteMemory

/-! ### Assembly (`main.cpp`) -/

/-- `_start` with the function it calls, up to its jump.  `next` is the address behind the call. -/
def startCode (zppX64CaptureContextIntoStack next zppHypervisorMain : Word) : List Asm :=
  .sub .rsp 0x3a8#64 :: -- Make space for capture context and align to 16 bytes.
  .call zppX64CaptureContextIntoStack next :: -- Capture the context.
    (captureContextIntoStack ++
      [.mov .rax .rsp, -- Get a pointer to the context to change rip and rsp.
        .load .r10 .rsp 0x3a8#64, -- Fetch return address from the stack into r10.
        .store .rax 0x80#64 .r10, -- Set context->rip to the return address.
        .lea .r10 .rsp 0x3b0#64, -- Compute the stack pointer at function return.
        .store .rax 0x20#64 .r10, -- Set context->rsp to the stack pointer after this call.
        .mov .rdi .rax, -- Send context pointer as the main function parameter.
        .sub .rsp 0x8#64, -- Align stack to expected value.
        .jmp zppHypervisorMain]) -- Jump to main function.

/-! ### Contexts -/

/-- The size of an element of `stack`. -/
def stackSize : ℕ := 512 * 1024

/-- The addresses that a launch works with. -/
structure LaunchPlaces where
  zppX64CaptureContextIntoStack : Word
  /-- The address behind its call. -/
  next : Word
  zppHypervisorMain : Word
  launchOnCpuPrivateStack : Word
  vmExitEntry : Word
  /-- The address behind the call of `capture_context` in `vm_launch`. -/
  vmExit : Word
  vmlaunch : Word
  /-- The hypervisor object. -/
  this : Word
  /-- Its member `stack`. -/
  stack : Word
  stack_aligned : stack.toNat % 0x1000 = 0
  availableStackIndex : Word
  /-- The frame of `vm_launch`. -/
  frame : LaunchFrame

namespace LaunchPlaces

variable (places : LaunchPlaces)

/-- `stack[available_stack_index]`. -/
def privateStack : Word := places.stack + BitVec.ofNat 64 stackSize * places.availableStackIndex

/-- The stack top, where the caller context is copied to. -/
def stackTop : Word :=
  places.privateStack + BitVec.ofNat 64 stackSize - BitVec.ofNat 64 contextSize

/-- What `launch_on_cpu` makes of the caller context. -/
def launchContext (callerContext : Context) : Context :=
  { callerContext with
    -- Set instruction pointer to the launch function.
    rip := places.launchOnCpuPrivateStack
    -- Stack pointer, this pointer and first argument; the stack as after a call.
    gpr := Function.update (Function.update (Function.update callerContext.gpr
      .rsp (places.stackTop - 8#64)) .rdi places.this) .rsi places.stackTop }

/-- What `vm_launch` makes of the guest context. -/
def vmlaunchContext (hostRflags : Word) (guestContext : Context) : Context :=
  { guestContext with
    -- Start executing the guest at vmlaunch.
    rip := places.vmlaunch
    -- Set rflags to host rflags, to leave interrupts disabled.
    rflags := hostRflags
    -- Set return value of guest to success.
    gpr := Function.update guestContext.gpr .rax 0#64 }

end LaunchPlaces

/-- What `launch_on_cpu_private_stack` makes of the caller context when `main` returns an error. -/
def errorContext (e : Error) (callerContext : Context) : Context :=
  { callerContext with gpr := Function.update callerContext.gpr .rax (BitVec.ofNat 64 e.code) }

/-! ### The VMCS -/

/-- Writes VMCS fields, whether or not that succeeds; `none` is an exception. -/
def writeFields (processor : Processor) (l : List (VmcsField × Word)) (s : VmxState) :
    Option VmxState :=
  l.foldlM (fun s x => (Vmcs.write processor x.1 x.2 s).map Prod.snd) s

/-- The fields that `setup_vmcs` and `vm_launch` write from the guest context, and those by which an
exit finds the host. -/
def launchFields (places : LaunchPlaces) (guestContext : Context) : List (VmcsField × Word) :=
  [Seg.cs, .ds, .es, .fs, .gs, .ss].map
    (fun r => (.guestSelector r, (guestContext.seg r).setWidth 64)) ++
    -- Load rflags.
    [(.guestRflags, guestContext.rflags),
      -- Write host rip.
      (.hostRip, places.vmExitEntry),
      -- Write host rsp.
      (.hostRsp, places.frame.hostRsp),
      -- Write guest rip, rsp.
      (.guestRip, guestContext.rip), (.guestRsp, guestContext.gpr .rsp)]

/-! ### Compiled functions -/

/-- The compiled `zpp_hypervisor_main` when it calls `restore_context` for the launch context. -/
structure LaunchesOnCpu (places : LaunchPlaces) (depth : ℕ) (s s' : State) : Prop where
  rdi : s'.gpr .rdi = s.gpr .rdi
  rsp : ∃ k, k + 0x30 ≤ depth ∧ s'.gpr .rsp = s.gpr .rsp - BitVec.ofNat 64 k
  copy : Context.read s'.memory places.stackTop = Context.read s.memory (s.gpr .rdi)
  context : Context.read s'.memory (s.gpr .rdi) =
    places.launchContext (Context.read s.memory (s.gpr .rdi))

/-- The entry to `launch_on_cpu_private_stack`, with a caller context. -/
structure EntersPrivateStack (places : LaunchPlaces) (callerContext : Context) (s : State) : Prop where
  rip : s.rip = places.launchOnCpuPrivateStack
  rsp : s.gpr .rsp = places.stackTop - 8#64
  rdi : s.gpr .rdi = places.this
  rsi : s.gpr .rsi = places.stackTop
  context : Context.read s.memory places.stackTop = callerContext

/-- Code on the private stack when it calls `restore_context` for the copied context. -/
structure RestoresCopy (places : LaunchPlaces) (x : Context) (s : State) : Prop where
  rdi : s.gpr .rdi = places.stackTop
  context : Context.read s.memory places.stackTop = x
  rsp : ∃ q, s.gpr .rsp = q + 0x30#64 ∧ ∀ a ∈ Region q 0x30, a ∉ Region places.stackTop contextSize

/-- `vm_launch` when it calls `capture_context` for the host context. -/
structure CapturesHost (places : LaunchPlaces) (guestContext : Context) (s : State) : Prop where
  rdi : s.gpr .rdi = places.frame.hostContext
  next : s.top 0#64 = places.vmExit
  context : Context.read s.memory places.stackTop = guestContext
  stack : ∀ a ∈ Region (s.gpr .rsp - 0x20#64) 0x28,
    a ∉ Region places.frame.hostContext contextSize ∧ a ∉ Region places.stackTop contextSize

/-- `vm_launch` behind `capture_context`. -/
structure CapturedHost (places : LaunchPlaces) (guestContext hostContext : Context) (s s' : State) :
    Prop where
  rip : s'.rip = places.vmExit
  rsp : s'.gpr .rsp = s.gpr .rsp + 8#64
  gpr : ∀ r, r ≠ .rax → r ≠ .rcx → r ≠ .rsp → s'.gpr r = s.gpr r
  context : Context.read s'.memory places.stackTop = guestContext
  hostContext : Context.read s'.memory places.frame.hostContext = hostContext

/-- The compiled functions of a launch, each up to a call of assembly.  They do what their source says,
and their stacks fit where they are. -/
structure LaunchCode (places : LaunchPlaces) where
  /-- The host context does not meet the copied context: it is on the stack below. -/
  hostContext_apart : ∀ a ∈ Region places.frame.hostContext contextSize,
    a ∉ Region places.stackTop contextSize
  /-- The stack that `zpp_hypervisor_main` uses. -/
  depth : ℕ
  depth_lt : depth < 2 ^ 32
  /-- `zpp_hypervisor_main`, up to the end of `launch_on_cpu`. -/
  launchOnCpu : State → State
  launchOnCpu_spec {s : State} (hrsp : s.gpr .rsp = s.gpr .rdi - 8#64)
    (hstack : ∀ a ∈ Region (s.gpr .rsp - BitVec.ofNat 64 depth) (depth + 0x3b0),
      a ∉ Region places.privateStack stackSize) :
    LaunchesOnCpu places depth s (launchOnCpu s)
  /-- `launch_on_cpu_private_stack`, when `main` returns an error. -/
  mainFails : Error → State → State
  mainFails_spec {callerContext : Context} {s : State}
    (h : EntersPrivateStack places callerContext s) (e : Error) :
    RestoresCopy places (errorContext e callerContext) (mainFails e s)
  /-- `launch_on_cpu_private_stack`, up to the `capture_context` of `vm_launch`. -/
  mainLaunches : State → State
  mainLaunches_spec {callerContext : Context} {s : State}
    (h : EntersPrivateStack places callerContext s) :
    CapturesHost places callerContext (mainLaunches s)
  /-- The end of `vm_launch`. -/
  guestLaunches : State → State
  guestLaunches_spec {guestContext hostContext : Context} {s s' : State}
    (h : EntersPrivateStack places guestContext s)
    (h' : CapturedHost places guestContext hostContext (mainLaunches s) s') :
    RestoresCopy places (places.vmlaunchContext hostContext.rflags guestContext) (guestLaunches s')

/-! ### A launch -/

/-- A launch of the hypervisor on a CPU. -/
structure Launch where
  core : Core
  processor : Processor
  platform : Platform
  /-- The hypervisor object and the privileged registers before the launch. -/
  machine : Machine
  /-- The functions behind pointers. -/
  physicalToVirtual : Word → Option (Word → Word)
  /-- The VMCS. -/
  vmcs : Word
  places : LaunchPlaces
  availableStackIndex_eq : places.availableStackIndex = machine.object.availableStackIndex
  code : LaunchCode places

/-- How a launch ends. -/
inductive LaunchEnd
  /-- The caller goes on, after an error. -/
  | caller (e : Error) (s : State)
  /-- The processor is at `vmlaunch`. -/
  | guest (s : State) (vmx : VmxState)

/-- The processor after a launch: a guest starts with what `vmlaunch` loads. -/
def LaunchEnd.state (vmcs : Word) : LaunchEnd → State
  | .caller _ s => s
  | .guest s vmx => vmEntry vmcs s vmx

/-- A launch: where the assembly before the end went on, and the end. -/
structure LaunchTrace where
  transfers : List Word
  last : LaunchEnd

namespace Launch

variable (l : Launch)

/-- How `main` ends, with its parameters in `rdi` and `rsi` of the caller context. -/
def mainResult (rdi rsi : Word) : MainResult :=
  Hypervisor.launchOnCpu l.platform rdi (l.physicalToVirtual rsi) l.machine

/-- A call of `_start`; `vmx` is the VMX state with which `main` comes to `setup_vmcs`, and `none` is a
fault or undefined behaviour. -/
def start (s : State) (vmx : VmxState) : Option LaunchTrace := do
  let started ← run l.core (startCode l.places.zppX64CaptureContextIntoStack l.places.next
    l.places.zppHypervisorMain) s
  let entered ← run l.core restoreContext (l.code.launchOnCpu started)
  let callerContext := Context.read entered.memory l.places.stackTop
  match l.mainResult (callerContext.gpr .rdi) (callerContext.gpr .rsi) with
  | .undefined _ => none
  | .failed e _ =>
    let restored ← run l.core restoreContext (l.code.mainFails e entered)
    return { transfers := [started.rip, entered.rip], last := .caller e restored }
  | .launched _ =>
    let vmx ← writeFields l.processor (launchFields l.places callerContext) vmx
    let captured ← run l.core captureContext (l.code.mainLaunches entered)
    let restored ← run l.core restoreContext (l.code.guestLaunches captured)
    return {
      transfers := [started.rip, entered.rip, captured.rip, restored.rip]
      last := .guest restored vmx }

end Launch

end Zpp.Hypervisor
