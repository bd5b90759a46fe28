import ZppHypervisor.X64.Walk

/-!
# The OS page tables (`os_page_table.h`, `os_page_table.cpp`)

`OsPageTable.virtualToPhysical` walks the page tables of the operating system in software.  It
reaches each table through `physical_to_virtual`, a function of the OS that turns the physical
address of a table into a pointer; `mem` is the memory that such pointers address.
-/

namespace Zpp.X64

/-- References an OS page table using given CR3 and a function that converts a physical address
within the OS page table to virtual address; `none` is the null function. -/
structure OsPageTable where
  /-- The page table level 4 pointer. -/
  pml4 : Word
  /-- Converts OS page table physical addresses to virtual addresses. -/
  physicalToVirtual : Option (Word → Word)

namespace OsPageTable

/-- The constructor from a CR3 value. -/
def ofCr3 (cr3 : Word) (physicalToVirtual : Option (Word → Word)) : OsPageTable where
  pml4 := match physicalToVirtual with
    | some f => f (cr3 &&& 0xfffffffffffff000#64)
    | none => 0#64
  physicalToVirtual := physicalToVirtual

/-- Converts a virtual address to physical address. -/
def virtualToPhysical (t : OsPageTable) (mem : ByteMemory 64) (value : Word) : Word :=
  match t.physicalToVirtual with
  | none => value
  | some physicalToVirtual =>
    let address : VirtualAddress := ⟨value⟩
    let pml4e := tableEntry mem t.pml4 address.pml4e
    let pdpt := physicalToVirtual (pml4e.pageNumber <<< 12)
    let pdpte := tableEntry mem pdpt address.pdpte
    if pdpte.large then
      (pdpte.pageNumber <<< 30) + address.hugeOffset
    else
      let pd := physicalToVirtual (pdpte.pageNumber <<< 12)
      let pde := tableEntry mem pd address.pde
      if pde.large then
        (pde.pageNumber <<< 21) + address.largeOffset
      else
        let pt := physicalToVirtual (pde.pageNumber <<< 12)
        ((tableEntry mem pt address.pte).pageNumber <<< 12) + address.offset

end OsPageTable

end Zpp.X64
