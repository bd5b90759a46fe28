import Mathlib.Logic.Function.Basic
import ZppHypervisor.Lib.Loop
import ZppHypervisor.X64.VirtualAddress

/-!
# The host page table (`page_table.h`, `detail/page_table.h`, `page_table.cpp`)

A `page_table` object is one pml4, one pdpt, two page directories and two times 512 page tables,
laid out one page after the other.  Its methods need the addresses of these members, so they take
the address `object` of the object.  Address bits 29:12 and bit 38 select a page table entry; the
object serves the whole address space with one pdpt and two page directories.
-/

namespace Zpp.X64

open Loop

/-- The page protection, a set of flags. -/
abbrev Protection := BitVec 32

namespace Protection

def read : Protection := 1#32 <<< 0

def write : Protection := 1#32 <<< 1

def execute : Protection := 1#32 <<< 2

/-- `operator&`. -/
def has (left right : Protection) : Bool := left &&& right != 0#32

end Protection

/-- A page table structure. -/
structure PageTable where
  /-- The page table level 4 page. -/
  pml4 : Fin 512 → Pte
  /-- The page directory pointer table. -/
  pdpt : Fin 512 → Pte
  /-- The page directory tables. -/
  pds : Fin 2 → Fin 512 → Pte
  /-- The page tables. -/
  pts : Fin 2 → Fin 512 → Fin 512 → Pte

namespace PageTable

def pageSize : Word := 0x1000#64

/-- An empty page table: every entry is zero. -/
def empty : PageTable where
  pml4 _ := ⟨0#64⟩
  pdpt _ := ⟨0#64⟩
  pds _ _ := ⟨0#64⟩
  pts _ _ _ := ⟨0#64⟩

/-! ### Addresses and sizes of the members -/

def pml4Address (object : Word) : Word := object

def pdptAddress (object : Word) : Word := object + 0x1000#64

def pdsAddress (object : Word) (d : Fin 2) : Word := object + 0x2000#64 + 0x1000#64 * BitVec.ofNat 64 d

def ptsAddress (object : Word) (d : Fin 2) (i : Fin 512) : Word :=
  object + 0x4000#64 + 0x1000#64 * BitVec.ofNat 64 (512 * d + i)

/-- `sizeof(page_table)`: 1028 pages. -/
def sizeOf : ℕ := 0x404000

/-- The tables an object consists of. -/
inductive Table
  | pml4
  | pdpt
  | pds (d : Fin 2)
  | pts (d : Fin 2) (i : Fin 512)
deriving DecidableEq

/-- The address of a table of the object. -/
def Table.address (object : Word) : Table → Word
  | pml4 => pml4Address object
  | pdpt => pdptAddress object
  | pds d => pdsAddress object d
  | pts d i => ptsAddress object d i

/-- The entries of a table of the object. -/
def Table.entries (t : PageTable) : Table → Fin 512 → Pte
  | pml4 => t.pml4
  | pdpt => t.pdpt
  | pds d => t.pds d
  | pts d i => t.pts d i

/-! ### Indices -/

instance neZeroTableLength : NeZero 512 := ⟨by decide⟩

/-- An index into a table of 512 entries. -/
def tableIndex (i : Word) : Fin 512 := Fin.ofNat 512 i.toNat

/-- The page directory an address belongs to: `pdpte() / (512 / 2)`. -/
def pdIndex (a : VirtualAddress) : Fin 2 := Fin.ofNat 2 (a.pdpte / (512#64 / 2#64)).toNat

/-! ### Methods -/

/-- Converts a virtual address to physical address. -/
def virtualToPhysical (t : PageTable) (value : Word) : Word :=
  let address : VirtualAddress := ⟨value⟩
  let pdpte := t.pdpt (tableIndex address.pdpte)
  if pdpte.large then
    (pdpte.pageNumber <<< 30) + address.hugeOffset
  else
    let pd := t.pds (pdIndex address)
    let pde := pd (tableIndex address.pde)
    if pde.large then
      (pde.pageNumber <<< 21) + address.largeOffset
    else
      let pt := t.pts (pdIndex address) (tableIndex address.pde)
      ((pt (tableIndex address.pte)).pageNumber <<< 12) + address.offset

/-- Returns the page table entry of a given address. -/
def pageTableEntry (t : PageTable) (value : Word) : Pte :=
  let address : VirtualAddress := ⟨value⟩
  let pdpte := t.pdpt (tableIndex address.pdpte)
  if pdpte.large then
    pdpte
  else
    let pd := t.pds (pdIndex address)
    let pde := pd (tableIndex address.pde)
    if pde.large then
      pde
    else
      let pt := t.pts (pdIndex address) (tableIndex address.pde)
      pt (tableIndex address.pte)

/-- An entry made to point to the table at physical address `physical`, present and writable. -/
def pointTo (e : Pte) (physical : Word) : Pte :=
  ((e.setPageNumber (physical >>> 12)).setWrite true).setPresent true

/-- Maps a single page, with the physical addresses of the tables taken from another page table.
`other` is that table's `virtual_to_physical`; since it may be this table, it also receives the
table as it stands at the moment of the call. -/
def mapPageFrom (object : Word) (other : PageTable → Word → Word) (t : PageTable)
    (address physicalAddress : Word) (protection : Protection) : PageTable :=
  let a : VirtualAddress := ⟨address⟩
  let pml4e := pointTo (t.pml4 (tableIndex a.pml4e)) (other t (pdptAddress object))
  let t := { t with pml4 := Function.update t.pml4 (tableIndex a.pml4e) pml4e }
  let d := pdIndex a
  let pdpte := pointTo (t.pdpt (tableIndex a.pdpte)) (other t (pdsAddress object d))
  let t := { t with pdpt := Function.update t.pdpt (tableIndex a.pdpte) pdpte }
  let i := tableIndex a.pde
  let pde := pointTo (t.pds d i) (other t (ptsAddress object d i))
  let t := { t with pds := Function.update t.pds d (Function.update (t.pds d) i pde) }
  let j := tableIndex a.pte
  let pte := (((t.pts d i j).setPageNumber (physicalAddress >>> 12)).setWrite
    (protection.has .write)).setExecuteDisable (!protection.has .execute) |>.setPresent true
  { t with pts := Function.update t.pts d (Function.update (t.pts d) i
      (Function.update (t.pts d i) j pte)) }

/-- Maps a single page to the page table with a given protection. -/
def mapPage (object : Word) (t : PageTable) (address physicalAddress : Word)
    (protection : Protection) : PageTable :=
  mapPageFrom object virtualToPhysical t address physicalAddress protection

/-- Maps an address range from another page table. -/
def mapFrom (object : Word) (t : PageTable) (baseAddress size : Word) (protection : Protection)
    (other : Word → Word) : PageTable :=
  let numberOfPages := (size + (pageSize - 1#64)) / pageSize
  forRange numberOfPages.toNat (fun i t =>
    let address := baseAddress + BitVec.ofNat 64 i * pageSize
    let physicalAddress := other address
    mapPage object t address physicalAddress protection) t

/-- Maps an address range from another page table while the object has not completed
initialization for object mapping. -/
def selfMapFrom (object : Word) (t : PageTable) (baseAddress size : Word) (protection : Protection)
    (other : Word → Word) : PageTable :=
  let numberOfPages := (size + (pageSize - 1#64)) / pageSize
  forRange numberOfPages.toNat (fun i t =>
    let address := baseAddress + BitVec.ofNat 64 i * pageSize
    let physicalAddress := other address
    mapPageFrom object (fun _ => other) t address physicalAddress protection) t

/-- Maps the page table itself using another page table. -/
def mapSelf (object : Word) (t : PageTable) (other : Word → Word) : PageTable :=
  let protection := Protection.read ||| Protection.write
  let t := selfMapFrom object t (pml4Address object) 0x1000#64 protection other
  let t := selfMapFrom object t (pdptAddress object) 0x1000#64 protection other
  let t := selfMapFrom object t (pdsAddress object 0) 0x2000#64 protection other
  selfMapFrom object t (ptsAddress object 0 0) 0x400000#64 protection other

end PageTable

end Zpp.X64
