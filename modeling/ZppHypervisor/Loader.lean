import ZppHypervisor.Hypervisor.Main

/-!
# Launching the hypervisor on every CPU (`zpp_load_elf`)

`zpp_load_elf` after it has loaded the image: its loop calls the entry point on the CPUs 0, 1, … in
turn and stops at the first failure.  `call_on_cpu` is a function of the loader for one operating
system: it calls the entry point on the CPU, or fails before or after that (`CpuCall`).
-/

namespace Zpp.Loader

open Hypervisor X64 Loop

/-- One call of `call_on_cpu`: what it does, and the CPU it is for. -/
structure CpuCall where
  /-- It fails without calling the function. -/
  failsBefore : Bool
  /-- It fails after the function returned. -/
  failsAfter : Bool
  /-- The registers of the CPU before the launch. -/
  cpu : Cpu
  outsideVmx : cpu.vmxOperation = false
  platform : Platform

/-- A call of the entry point. -/
structure Launch where
  /-- The object before the call. -/
  before : Object
  /-- The value returned; `none` if the behaviour was undefined. -/
  result : Option ℕ
  /-- The elements of per-CPU arrays used. -/
  slots : List (CpuArray × Word)
  /-- The VPIDs written. -/
  vpids : List (BitVec 16)

/-- The launches so far, the object, and whether `zpp_load_elf` returned failure. -/
structure Run where
  object : Object
  launches : List Launch
  failed : Bool

variable (physicalToVirtual : Option (Word → Word))

/-- Calls the entry point on a CPU: the launch and the object it leaves. -/
def launch (call : CpuCall) (cpuid : Word) (o : Object) : Launch × Object :=
  let m : Machine := { object := o, cpu := call.cpu, trace := [], slots := [], vpids := [] }
  match launchOnCpu call.platform cpuid physicalToVirtual m with
  | .launched m' => (⟨o, some 0, m'.slots, m'.vpids⟩, m'.object)
  | .failed e m' => (⟨o, some e.code, m'.slots, m'.vpids⟩, m'.object)
  | .undefined m' => (⟨o, none, m'.slots, m'.vpids⟩, m'.object)

/-- The loop body of `zpp_load_elf`. -/
def loadStep (calls : ℕ → CpuCall) (i : ℕ) (r : Run) : Run :=
  if r.failed then r
  -- Call on specified CPU.
  else if (calls i).failsBefore then { r with failed := true }
  else
    let l := launch physicalToVirtual (calls i) (BitVec.ofNat 64 i) r.object
    -- If failed, return failure.
    { object := l.2
      launches := r.launches ++ [l.1]
      failed := l.1.result ≠ some 0 || (calls i).failsAfter }

/-- The first `n` iterations of the loop of `zpp_load_elf`. -/
def loadCpus (calls : ℕ → CpuCall) (n : ℕ) : Run :=
  forRange n (loadStep physicalToVirtual calls) ⟨.fresh, [], false⟩

/-- Call entry point on all cpus; `cpus` is what `number_of_cpus` returned. -/
def zppLoadElf (calls : ℕ → CpuCall) (cpus : ℕ) : Run :=
  -- If failed, return failure.
  if cpus = 0 then ⟨.fresh, [], true⟩ else loadCpus physicalToVirtual calls cpus

end Zpp.Loader
