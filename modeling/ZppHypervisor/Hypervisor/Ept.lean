import ZppHypervisor.Hypervisor.PhysicalToVirtual
import ZppHypervisor.X64.Intel.Mtrr
import ZppHypervisor.X64.PageTable

/-!
# Building the extended page tables

`hypervisor::initialize_mtrrs` for one register pair, `initialize_ept`, `protect_module` and
`unprotect_guest_memory`.  The four tables are members of the hypervisor object, one page after the
other; `EptLayout` holds the addresses that the functions take of members.  A pointer obtained from
the physical-to-virtual map is followed only into the `ept` array: anywhere else the model is
undefined.
-/

namespace Zpp.Hypervisor

open X64 X64.Intel Loop
open X64.PageTable (tableIndex)

/-- The maximum number of CPUs supported. -/
def maxCpus : ℕ := 16

/-- The number of `ept` tables. -/
abbrev eptCount : ℕ := 1024

instance neZeroEptCount : NeZero eptCount := ⟨by decide⟩

/-- The hardware page table structures. -/
structure Ept where
  epml4 : Fin 512 → Epte
  epdpt : Fin 512 → Epte
  epd : Fin 512 → Fin 512 → Epte
  ept : Fin eptCount → Fin 512 → Epte

/-- Tables before they are filled: every entry is zero. -/
def Ept.empty : Ept := ⟨fun _ => ⟨0#64⟩, fun _ => ⟨0#64⟩, fun _ _ => ⟨0#64⟩, fun _ _ => ⟨0#64⟩⟩

/-- Where the hypervisor object has its tables and its unprotected memory. -/
structure EptLayout where
  /-- The address of `epml4`; `epdpt`, `epd` and `ept` follow. -/
  epml4 : Word
  /-- The address of `unprotected_memory`. -/
  unprotectedMemory : Word

namespace EptLayout

variable (layout : EptLayout)

def epdpt : Word := layout.epml4 + 0x1000#64

def epd (d : Fin 512) : Word := layout.epml4 + 0x2000#64 + 0x1000#64 * BitVec.ofNat 64 d

def ept (k : Fin eptCount) : Word := layout.epml4 + 0x202000#64 + 0x1000#64 * BitVec.ofNat 64 k

/-- The size of the four tables. -/
def tablesSize : ℕ := 0x602000

/-- The table of `ept` at an address. -/
def eptAt (address : Word) : Option (Fin eptCount) :=
  let offset := (address - layout.ept 0).toNat
  if h : offset / 0x1000 < eptCount then
    if offset % 0x1000 = 0 then some ⟨offset / 0x1000, h⟩ else none
  else none

end EptLayout

/-- `sizeof(unprotected_memory)`: the intermediate GDTs and the guest task segments of all CPUs,
rounded up to whole pages. -/
def unprotectedMemorySize : ℕ :=
  (maxCpus * 0x2000 * 8 + maxCpus * 26 * 4 + 0xfff) / 0x1000 * 0x1000

/-! ### MTRRs -/

/-- The record of one pair of base and mask registers. -/
def initializeMtrr (mtrrBase : MtrrVariableBase) (mtrrMask : MtrrVariableMask) : Mtrr where
  type := mtrrBase.memoryType
  valid := mtrrMask.valid
  physicalBase := mtrrBase.pageNumber <<< 12
  size := if mtrrMask.physicalMask = 0#64 then 0#64
    else doubleSize 64 pageSize mtrrMask.physicalMask
where
  /-- Doubles the size for each zero bit at the lower end of the mask, which has a one bit among its
  first `n`. -/
  doubleSize : ℕ → Word → Word → Word
    | 0, size, _ => size
    | n + 1, size, i => if i &&& 1#64 = 0#64 then doubleSize n (size <<< 1) (i >>> 1) else size

/-- Whether the search for the MTRR of a large page stops at a record. -/
def mtrrApplies (physicalAddress : Word) (mtrr : Mtrr) : Bool :=
  -- If MTRR is not valid, continue.
  if !mtrr.valid then false
  -- If below base, continue.
  else if physicalAddress + ((1#64 <<< 21) - 1#64) < mtrr.physicalBase then false
  -- If above end, continue.
  else if physicalAddress ≥ mtrr.physicalBase + mtrr.size then false
  else true

/-- The type `initialize_ept` stores for a large page. -/
def largePageType (mtrrs : Vector Mtrr 8) (physicalAddress : Word) : MemoryType :=
  match mtrrs.toList.find? (mtrrApplies physicalAddress) with
  -- If MTRR not found, set to write back.
  | none => .writeBack
  -- Set the type to be the MTRR type.
  | some mtrr => mtrr.type

/-! ### Initialization -/

namespace Ept

def setEpde (t : Ept) (r : Fin 512 × Fin 512) (e : Epte) : Ept :=
  { t with epd := Function.update t.epd r.1 (Function.update (t.epd r.1) r.2 e) }

def setEpte (t : Ept) (k : Fin eptCount) (j : Fin 512) (e : Epte) : Ept :=
  { t with ept := Function.update t.ept k (Function.update (t.ept k) j e) }

end Ept

/-- Maps `epdpt[i]` to `epd[i]`. -/
def initializeEpdpte (layout : EptLayout) (hostVirtualToPhysical : Word → Word) (i : ℕ) (t : Ept) :
    Ept :=
  let rwxPdpte := (Epte.mk 0#64).setPermissions true
  let d : Fin 512 := Fin.ofNat 512 i
  let epdpte := rwxPdpte.setPageNumber (hostVirtualToPhysical (layout.epd d) >>> 12)
  { t with epdpt := Function.update t.epdpt d epdpte }

/-- Fills `epd[i][j]`; the state is the tables and the large page number the loop has reached. -/
def initializeEpde (mtrrs : Vector Mtrr 8) (i j : ℕ) (s : Ept × Word) : Ept × Word :=
  let largePageNumber := s.2
  let rwxPde := ((Epte.mk 0#64).setPermissions true).setLarge true
  -- Calculate the physical address from the large page number.
  let physicalAddress := largePageNumber <<< 21
  let epde := rwxPde.setLargePageNumber largePageNumber
  let epde := epde.setType (largePageType mtrrs physicalAddress)
  (s.1.setEpde (Fin.ofNat 512 i, Fin.ofNat 512 j) epde, largePageNumber + 1#64)

/-- Fills the page directory table entries with large pages. -/
def initializeEpds (mtrrs : Vector Mtrr 8) (t : Ept) : Ept :=
  (forRange 512 (fun i => forRange 512 (initializeEpde mtrrs i)) (t, 0#64)).1

/-- Initialize hardware page table structures. -/
def initializeEpt (layout : EptLayout) (hostVirtualToPhysical : Word → Word)
    (mtrrs : Vector Mtrr 8) (t : Ept) : Ept :=
  -- Fill the first epml4e for 512 GB of ram.
  let epml4e := ((t.epml4 0).setPermissions true).setPageNumber
    (hostVirtualToPhysical layout.epdpt >>> 12)
  let t := { t with epml4 := Function.update t.epml4 0 epml4e }
  -- Map every epdpt entry to a unique epd.
  let t := forRange 512 (initializeEpdpte layout hostVirtualToPhysical) t
  initializeEpds mtrrs t

/-! ### Protection -/

namespace Ept

/-- The epde of a physical address: the indices `physical_address >> 30` and
`(physical_address >> 21) & 0x1ff` into `epd`, if the first is inside the array. -/
def epdIndices (physicalAddress : Word) : Option (Fin 512 × Fin 512) :=
  if h : (physicalAddress >>> 30).toNat < 512 then
    some (⟨_, h⟩, tableIndex ((physicalAddress >>> 21) &&& 0x1ff#64))
  else none

/-- The index `(physical_address >> 12) & 0x1ff` into an ept table. -/
def eptIndex (physicalAddress : Word) : Fin 512 :=
  tableIndex ((physicalAddress >>> 12) &&& 0x1ff#64)

/-- The four permission bits of an epte of table `k`. -/
def setEptePermissions (t : Ept) (k : Fin eptCount) (physicalAddress : Word) (b : Bool) : Ept :=
  t.setEpte k (eptIndex physicalAddress) ((t.ept k (eptIndex physicalAddress)).setPermissions b)

/-- Fills table `k` with the 512 small pages of a large one. -/
def fillEpt (t : Ept) (k : Fin eptCount) (pageNumber : Word) (memoryType : MemoryType) : Ept :=
  forRange 512 (fun i t =>
    let j : Fin 512 := Fin.ofNat 512 i
    let epte := (((t.ept k j).setPermissions true).setPageNumber
      (pageNumber + BitVec.ofNat 64 i)).setType memoryType
    t.setEpte k j epte) t

end Ept

section Protection

variable {capacity : ℕ} (layout : EptLayout) (hostVirtualToPhysical : Word → Word)
  (modulePhysicalToVirtual : PhysicalToVirtual capacity)

/-- `reinterpret_cast<epte *>(module_physical_to_virtual.find(ept_physical_address)->second)`: the
table of `ept` found there. -/
def findEpt (eptPhysicalAddress : Word) : Option (Fin eptCount) := do
  let it ← modulePhysicalToVirtual.find less eptPhysicalAddress
  let (_, second) ← modulePhysicalToVirtual.value it
  layout.eptAt second

/-- One iteration of the loop of `protect_module`, on the tables and `ept_index`. -/
def protectPage (address : Word) : Ept × ℕ → Outcome Error (Ept × ℕ)
  | (t, eptIndex) => do
    -- Get the physical address.
    let physicalAddress := hostVirtualToPhysical address
    -- Get the epde.
    let r ← .ofOption (Ept.epdIndices physicalAddress)
    let epde := t.epd r.1 r.2
    -- If the epde is not large, get the relevant epte and update it.
    if !epde.large then
      let eptPhysicalAddress := epde.pageNumber <<< 12
      let k ← .ofOption (findEpt layout modulePhysicalToVirtual eptPhysicalAddress)
      pure (t.setEptePermissions k physicalAddress false, eptIndex)
    else if h : eptIndex < eptCount then
      -- Convert large epde into ept table.
      let k : Fin eptCount := ⟨eptIndex, h⟩
      let memoryType := epde.type
      let pageNumber := epde.largePageNumber <<< (21 - 12)
      let t := t.fillEpt k pageNumber memoryType
      -- Make the epde point to ept.
      let epde := ((epde.setLarge false).setType 0#32).setPageNumber
        (hostVirtualToPhysical (layout.ept k) >>> 12)
      let t := t.setEpde r epde
      -- Move to the next ept.
      let eptIndex := eptIndex + 1
      -- If out of ept entries, return error.
      if eptIndex = eptCount then .returned .outOfEptEntries
      else
        -- Protect our module epte.
        pure (t.setEptePermissions k physicalAddress false, eptIndex)
    else .undefined

/-- The first `n` iterations of the loop of `protect_module`. -/
def protectPages (moduleBase : Word) (n : ℕ) (t : Ept) : Outcome Error (Ept × ℕ) :=
  forRangeM n (fun i =>
    protectPage layout hostVirtualToPhysical modulePhysicalToVirtual
      (moduleBase + BitVec.ofNat 64 i * pageSize)) (t, 0)

/-- Prepare module protection from guest access. -/
def protectModule (moduleBase moduleSize : Word) (t : Ept) : Outcome Error Ept := do
  let numberOfPages := (moduleSize / pageSize).toNat
  let (t, _) ← protectPages layout hostVirtualToPhysical modulePhysicalToVirtual moduleBase
    numberOfPages t
  pure t

/-- One iteration of the loop of `unprotect_guest_memory`. -/
def unprotectPage (address : Word) (t : Ept) : Outcome Error Ept := do
  -- Get the physical address.
  let physicalAddress := hostVirtualToPhysical address
  -- Get the epde.
  let r ← .ofOption (Ept.epdIndices physicalAddress)
  let epde := t.epd r.1 r.2
  -- The ept physical address.
  let eptPhysicalAddress := epde.pageNumber <<< 12
  -- Find the virtual address of the ept.
  let k ← .ofOption (findEpt layout modulePhysicalToVirtual eptPhysicalAddress)
  -- Make epte accessible.
  pure (t.setEptePermissions k physicalAddress true)

/-- The first `n` iterations of the loop of `unprotect_guest_memory`. -/
def unprotectPages (n : ℕ) (t : Ept) : Outcome Error Ept :=
  forRangeM n (fun i =>
    unprotectPage layout hostVirtualToPhysical modulePhysicalToVirtual
      (layout.unprotectedMemory + BitVec.ofNat 64 i * pageSize)) t

/-- Remove protection for unprotected guest memory. -/
def unprotectGuestMemory (t : Ept) : Outcome Error Ept :=
  let numberOfPages := unprotectedMemorySize / 0x1000
  unprotectPages layout hostVirtualToPhysical modulePhysicalToVirtual numberOfPages t

end Protection

end Zpp.Hypervisor
