import ZppHypervisor.X64.PageTable

/-!
# Building the host page table (`hypervisor::initialize_host_page_table`)
-/

namespace Zpp.Hypervisor

open X64

/-- Builds the host page table at address `object` from the OS translation `os` and returns it with
the host CR3. -/
def initializeHostPageTable (object moduleBase moduleSize guestCr3 : Word) (os : Word → Word)
    (hostPageTable : PageTable) : PageTable × Word :=
  let hostPageTable := hostPageTable.mapSelf object os
  let hostPageTable := hostPageTable.mapFrom object moduleBase moduleSize
    (Protection.read ||| Protection.write ||| Protection.execute) os
  let hostCr3 := hostPageTable.virtualToPhysical (PageTable.pml4Address object) |||
    (guestCr3 &&& 0xfff#64)
  (hostPageTable, hostCr3)

end Zpp.Hypervisor
