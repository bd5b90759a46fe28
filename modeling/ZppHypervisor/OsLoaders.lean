import Mathlib.Data.Finset.Basic
import ZppHypervisor.Loader

/-!
# The loaders of the operating systems (`linux_loader`, `windows_loader`, `uefi_loader`)

`zpp_load_elf` with the functions that it is given: `number_of_cpus` and `call_on_cpu` of each loader.
What these call of the operating system is a parameter (`Linux`, `Windows`, `Uefi`); an `int` or a status
is what the call returned.
-/

namespace Zpp.OsLoaders

open Hypervisor Loader X64 Loop

/-! ### Running `zpp_load_elf` -/

/-- The state of an operating system and of its loader, and what the launches have left. -/
structure World (σ : Type) where
  os : σ
  object : Object
  launches : List Loader.Launch

/-- A stretch of a loader's code; `none` if the behaviour is undefined. -/
abbrev Program (σ : Type) := StateT (World σ) Option

/-- A call of the operating system. -/
def Program.call {σ α : Type} (f : σ → α × σ) : Program σ α :=
  fun w => some ((f w.os).1, { w with os := (f w.os).2 })

/-- The functions that a loader gives to `zpp_load_elf`. -/
structure Functions (σ : Type) where
  physicalToVirtual : Option (Word → Word)
  callOnCpu : ℕ → Program σ ℤ → Program σ ℤ
  numberOfCpus : Program σ ℕ

section

variable {σ : Type} (cpus : ℕ → CpuCall) (cpu : σ → ℕ)

/-- The entry point, on whatever CPU the code runs: `cpus` has the CPUs and `cpu` tells which it is. -/
def entry (physicalToVirtual : Option (Word → Word)) (cpuid : ℕ) : Program σ ℤ := fun w =>
  let l := launch physicalToVirtual (cpus (cpu w.os)) (BitVec.ofNat 64 cpuid) w.object
  l.1.result.map fun (code : ℕ) =>
    ((code : ℤ), { w with object := l.2, launches := w.launches ++ [l.1] })

/-- The loop body of `zpp_load_elf`. -/
def loadStep (f : Functions σ) (i : ℕ) (w : World σ) : Outcome (ℤ × World σ) (World σ) :=
  -- Call on specified CPU.
  match f.callOnCpu i (entry cpus cpu f.physicalToVirtual i) w with
  | none => .undefined
  | some (result, w) =>
    -- If failed, return failure.
    if result ≠ 0 then .returned (-1, w) else .next w

/-- `zpp_load_elf` after it has loaded the image. -/
def zppLoadElf (f : Functions σ) : Program σ ℤ := do
  let n ← f.numberOfCpus
  -- If failed, return failure.
  if n = 0 then return -1
  fun w => match forRangeM n (loadStep cpus cpu f) w with
    -- Return success.
    | .next w => some (0, w)
    | .returned x => some x
    | .undefined => none

end

/-! ### Linux (`linux_loader`) -/

/-- What the loader uses of the kernel; a `cpumask_t` is the set of its CPUs. -/
structure Linux (σ : Type) where
  /-- The CPU that the current task runs on. -/
  cpu : σ → ℕ
  numOnlineCpus : σ → ℤ × σ
  /-- The result, and the mask stored. -/
  schedGetaffinity : σ → (ℤ × Finset ℕ) × σ
  schedSetaffinity : Finset ℕ → σ → ℤ × σ

/-- The kernel, and the loader's `g_state.previous_mask`. -/
structure LinuxState (σ : Type) where
  kernel : σ
  previousMask : Finset ℕ

namespace Linux

variable {σ : Type} (kernel : Linux σ)

def numberOfCpus : Program (LinuxState σ) ℕ := do
  let result ← .call fun s =>
    let (result, kernel) := kernel.numOnlineCpus s.kernel
    (result, { s with kernel })
  if result < 0 then return 0
  return result.toNat

/-- `sched_getaffinity(current->pid, &g_state.previous_mask)`. -/
def savePreviousMask : Program (LinuxState σ) ℤ :=
  .call fun s =>
    let ((result, previousMask), kernel) := kernel.schedGetaffinity s.kernel
    (result, { kernel, previousMask })

/-- `sched_setaffinity(current->pid, mask)`. -/
def setAffinity (mask : LinuxState σ → Finset ℕ) : Program (LinuxState σ) ℤ :=
  .call fun s =>
    let (result, kernel) := kernel.schedSetaffinity (mask s) s.kernel
    (result, { s with kernel })

def callOnCpu (cpuid : ℕ) (function : Program (LinuxState σ) ℤ) : Program (LinuxState σ) ℤ := do
  -- Save previous affinity.
  if (← kernel.savePreviousMask) ≠ 0 then return -1
  -- Set new affinity to only given cpuid.
  if (← kernel.setAffinity fun _ => {cpuid}) ≠ 0 then return -1
  -- Call user function.
  let result ← function
  -- Restore previous affinity.
  if (← kernel.setAffinity LinuxState.previousMask) ≠ 0 then return -1
  return result

def functions (physToVirt : Word → Word) : Functions (LinuxState σ) where
  physicalToVirtual := some physToVirt
  callOnCpu := kernel.callOnCpu
  numberOfCpus := kernel.numberOfCpus

end Linux

/-! ### Windows (`windows_loader`) -/

/-- What the loader uses of the kernel; a `KAFFINITY` has a bit for each processor. -/
structure Windows (σ : Type) where
  /-- The processor that the current thread runs on. -/
  cpu : σ → ℕ
  keQueryActiveProcessorCount : σ → BitVec 32 × σ
  /-- The result is the previous affinity. -/
  keSetSystemAffinityThreadEx : Word → σ → Word × σ
  keRevertToUserAffinityThreadEx : Word → σ → σ

namespace Windows

variable {σ : Type} (kernel : Windows σ)

def numberOfCpus : Program σ ℕ := do
  let count ← .call kernel.keQueryActiveProcessorCount
  return count.toNat

def callOnCpu (cpuid : ℕ) (function : Program σ ℤ) : Program σ ℤ := do
  -- A shift by 64 or more is undefined.
  if 64 ≤ cpuid then failure
  -- Set new affinity to only given cpuid.
  let previous ← .call (kernel.keSetSystemAffinityThreadEx (1#64 <<< cpuid))
  -- Call user function.
  let result ← function
  -- Restore previous affinity.
  .call fun s => ((), kernel.keRevertToUserAffinityThreadEx previous s)
  -- Return the result.
  return result

def functions (mmGetVirtualForPhysical : Word → Word) : Functions σ where
  physicalToVirtual := some mmGetVirtualForPhysical
  callOnCpu := kernel.callOnCpu
  numberOfCpus := kernel.numberOfCpus

end Windows

/-! ### UEFI (`uefi_loader`) -/

/-- What the loader uses of the boot services and the MP services; `none` and `false` are errors. -/
structure Uefi (σ : Type) where
  Event : Type
  /-- The processor that the code runs on. -/
  cpu : σ → ℕ
  /-- The number of processors, and of those that are enabled. -/
  getNumberOfProcessors : σ → Option (ℕ × ℕ) × σ
  createEvent : σ → Option Event × σ
  /-- Whether the procedure is called on the AP: without an event to wait for, the caller goes on when
  it has returned. -/
  startupThisAp : ℕ → σ → Bool × σ
  /-- The procedure has returned. -/
  joinAp : σ → σ
  signalEvent : Event → σ → σ
  waitForEvent : Event → σ → Bool × σ
  closeEvent : Event → σ → σ

namespace Uefi

variable {σ : Type} (firmware : Uefi σ)

def numberOfCpus : Program σ ℕ := do
  -- Get the number of processors.
  match ← .call firmware.getNumberOfProcessors with
  | none => return 0
  | some (cpuCount, _) => return cpuCount

/-- `StartupThisAP` with the launch function, and the wait for the join event. -/
def startup (joinEvent : firmware.Event) (cpuid : ℕ) (function : Program σ ℤ) : Program σ ℤ := do
  -- Startup the relevant CPU.
  if ← .call (firmware.startupThisAp cpuid) then
    -- Call the user function and save the result.
    let result ← function
    -- Signal the event.
    .call fun s => ((), firmware.signalEvent joinEvent s)
    .call fun s => ((), firmware.joinAp s)
    -- Wait for the join event, and close it also if that fails.
    let _ ← .call (firmware.waitForEvent joinEvent)
    return result
  else return -1

def callOnCpu (cpuid : ℕ) (function : Program σ ℤ) : Program σ ℤ :=
  -- If this is the main CPU, just call the user function.
  if cpuid = 0 then function
  else do
    -- Create the join event.
    match ← .call firmware.createEvent with
    | none => return -1
    | some joinEvent =>
      let result ← firmware.startup joinEvent cpuid function
      -- Close the event, and return the result.
      .call fun s => ((), firmware.closeEvent joinEvent s)
      return result

def functions : Functions σ where
  physicalToVirtual := none
  callOnCpu := firmware.callOnCpu
  numberOfCpus := firmware.numberOfCpus

end Uefi

end Zpp.OsLoaders
