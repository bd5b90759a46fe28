import ZppHypervisor.Lib.Loop
import ZppHypervisor.SmallMap
import ZppHypervisor.X64.Pte

/-!
# The module's physical-to-virtual map (`hypervisor::initialize_module_physical_to_virtual`)
-/

namespace Zpp.Hypervisor

open X64 Loop

/-- Hypervisor errors; `success` is not among them. -/
inductive Error
  | vmxonFailed
  | vmclearFailed
  | vmptrldFailed
  | physicalToVirtualCapacityError
  | outOfEptEntries
deriving DecidableEq, Repr

/-- The integral representation of an error; success is 0. -/
def Error.code : Error → ℕ
  | vmxonFailed => 1
  | vmclearFailed => 2
  | vmptrldFailed => 3
  | physicalToVirtualCapacityError => 4
  | outOfEptEntries => 5

def pageSize : Word := 0x1000#64

/-- Maximum module size in bytes. -/
def maxModuleSize : ℕ := 50 * 1024 * 1024

/-- `module_physical_to_virtual`, for any size of its storage; the hypervisor's is
`max_module_size / page_size`. -/
abbrev PhysicalToVirtual (capacity : ℕ) := SmallMap Word Word capacity

/-- `std::less<>` on addresses. -/
def less (a b : Word) : Bool := BitVec.ult a b

/-- Creates the physical to virtual mapping of the module; `hostVirtualToPhysical` is the translation
of the host page table. -/
def initializeModulePhysicalToVirtual {capacity : ℕ} (hostVirtualToPhysical : Word → Word)
    (moduleBase moduleSize : Word) (modulePhysicalToVirtual : PhysicalToVirtual capacity) :
    Outcome Error (PhysicalToVirtual capacity) :=
  -- The number of pages inside the module.
  let numberOfPages := (moduleSize / pageSize).toNat
  -- If there are more pages than possible, return error.
  if numberOfPages ≥ capacity then .returned .physicalToVirtualCapacityError
  else
    forRangeM numberOfPages (fun i map =>
      let address := moduleBase + pageSize * BitVec.ofNat 64 i
      let physicalAddress := hostVirtualToPhysical address
      .ofOption (map.emplace less physicalAddress address)) modulePhysicalToVirtual

/-- The first `n` iterations of the loop. -/
def emplacePages {capacity : ℕ} (hostVirtualToPhysical : Word → Word) (moduleBase : Word) (n : ℕ)
    (modulePhysicalToVirtual : PhysicalToVirtual capacity) :
    Outcome (Error × PhysicalToVirtual capacity) (PhysicalToVirtual capacity) :=
  forRangeM n (fun i map =>
    let address := moduleBase + pageSize * BitVec.ofNat 64 i
    let physicalAddress := hostVirtualToPhysical address
    .ofOption (map.emplace less physicalAddress address)) modulePhysicalToVirtual

/-- The same function with the member it works on: an error comes with the map at the return. -/
def fillModulePhysicalToVirtual {capacity : ℕ} (hostVirtualToPhysical : Word → Word)
    (moduleBase moduleSize : Word) (modulePhysicalToVirtual : PhysicalToVirtual capacity) :
    Outcome (Error × PhysicalToVirtual capacity) (PhysicalToVirtual capacity) :=
  let numberOfPages := (moduleSize / pageSize).toNat
  if numberOfPages ≥ capacity then
    .returned (.physicalToVirtualCapacityError, modulePhysicalToVirtual)
  else emplacePages hostVirtualToPhysical moduleBase numberOfPages modulePhysicalToVirtual

end Zpp.Hypervisor
