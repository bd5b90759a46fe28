import ZppHypervisor.X64.Intel.Epte
import ZppHypervisor.X64.TableMemory

/-!
# The processor's EPT walk

The translation of guest-physical addresses as the processor manual defines it: four levels of
tables, each entry with the physical address of the next table in bits 51:12, and a PDPTE or PDE
with bit 7 set maps a 1 GiB or a 2 MiB page itself.  An access is allowed if every entry used allows
it.  With mode-based execute control, an entry is present if any of bits 2:0 or bit 10 is set.
Nothing here is translated from the program.
-/

namespace Zpp.X64.Intel

/-- The entry `index` of the EPT table at `table`. -/
def epteAt (mem : ByteMemory 64) (table index : Word) : Epte := ⟨mem.load64 (table + 8#64 * index)⟩

/-- Whether an entry is present. -/
def Epte.present (e : Epte) : Bool := e.read || e.write || e.execute || e.executeUser

/-- The entry `index` of a table, if it is present. -/
def presentEpte (mem : ByteMemory 64) (table index : Word) : Option Epte :=
  if (epteAt mem table index).present then some (epteAt mem table index) else none

/-- What a walk used and found. -/
structure EptWalk where
  /-- The entries used, from the EPT PML4E down; the last one maps the page. -/
  entries : List Epte
  /-- The last entry. -/
  leaf : Epte
  /-- The physical address of the translation. -/
  physical : Word
deriving DecidableEq, Repr

/-- The walk of the guest-physical address `gpa` from the table at `root`.  The entries that refer
to another table must be present; the one that maps the page is found whatever its permissions. -/
def eptWalk (mem : ByteMemory 64) (root gpa : Word) : Option EptWalk := do
  let a : VirtualAddress := ⟨gpa⟩
  let epml4e ← presentEpte mem root a.pml4e
  let epdpte ← presentEpte mem (tableAddress epml4e.value) a.pdpte
  if epdpte.large then
    some ⟨[epml4e, epdpte], epdpte, frameAddress 30 epdpte.value gpa⟩
  else
    let epde ← presentEpte mem (tableAddress epdpte.value) a.pde
    if epde.large then
      some ⟨[epml4e, epdpte, epde], epde, frameAddress 21 epde.value gpa⟩
    else
      let epte := epteAt mem (tableAddress epde.value) a.pte
      some ⟨[epml4e, epdpte, epde, epte], epte, frameAddress 12 epte.value gpa⟩

/-- The accesses to a guest-physical address. -/
structure EptAccess where
  read : Bool
  write : Bool
  execute : Bool
  executeUser : Bool
deriving DecidableEq, Repr

/-- The accesses the EPT grants: those that every entry of the walk allows. -/
def eptAccess (mem : ByteMemory 64) (root gpa : Word) : EptAccess :=
  match eptWalk mem root gpa with
  | none => ⟨false, false, false, false⟩
  | some w => ⟨w.entries.all (·.read), w.entries.all (·.write), w.entries.all (·.execute),
      w.entries.all (·.executeUser)⟩

variable {mem : ByteMemory 64} {root gpa : Word} {epml4e epdpte epde : Epte}

/-- The walk through a PDE that maps a large page. -/
theorem eptWalk_eq_page2M (h1 : presentEpte mem root (VirtualAddress.mk gpa).pml4e = some epml4e)
    (h2 : presentEpte mem (tableAddress epml4e.value) (VirtualAddress.mk gpa).pdpte = some epdpte)
    (hl : epdpte.large = false)
    (h3 : presentEpte mem (tableAddress epdpte.value) (VirtualAddress.mk gpa).pde = some epde)
    (hl' : epde.large = true) :
    eptWalk mem root gpa =
      some ⟨[epml4e, epdpte, epde], epde, frameAddress 21 epde.value gpa⟩ := by
  simp only [eptWalk, Option.bind_eq_bind, h1, h2, h3, hl, hl', Option.bind_some,
    Bool.false_eq_true, if_false, if_true]

/-- The walk through a PDE that refers to a table. -/
theorem eptWalk_eq_page4K (h1 : presentEpte mem root (VirtualAddress.mk gpa).pml4e = some epml4e)
    (h2 : presentEpte mem (tableAddress epml4e.value) (VirtualAddress.mk gpa).pdpte = some epdpte)
    (hl : epdpte.large = false)
    (h3 : presentEpte mem (tableAddress epdpte.value) (VirtualAddress.mk gpa).pde = some epde)
    (hl' : epde.large = false) {epte : Epte}
    (h4 : epteAt mem (tableAddress epde.value) (VirtualAddress.mk gpa).pte = epte) :
    eptWalk mem root gpa =
      some ⟨[epml4e, epdpte, epde, epte], epte, frameAddress 12 epte.value gpa⟩ := by
  simp only [eptWalk, Option.bind_eq_bind, h1, h2, h3, h4, hl, hl', Option.bind_some,
    Bool.false_eq_true, if_false]

/-- Where the upper entries grant everything, the leaf decides. -/
theorem eptAccess_eq {w : EptWalk} {upper : List Epte} {b : Bool}
    (hw : eptWalk mem root gpa = some w) (hentries : w.entries = upper ++ [w.leaf])
    (hupper : ∀ e ∈ upper, e.HasPermissions true) (hb : w.leaf.HasPermissions b) :
    eptAccess mem root gpa = ⟨b, b, b, b⟩ := by
  have hall : ∀ p : Epte → Bool, (∀ e ∈ upper, p e = true) → w.entries.all p = p w.leaf := by
    intro p hp
    rw [hentries, List.all_append, List.all_eq_true.mpr hp, Bool.true_and, List.all_cons,
      List.all_nil, Bool.and_true]
  unfold eptAccess
  rw [hw]
  dsimp only
  rw [hall _ fun e he => (hupper e he).1, hall _ fun e he => (hupper e he).2.1,
    hall _ fun e he => (hupper e he).2.2.1, hall _ fun e he => (hupper e he).2.2.2,
    hb.1, hb.2.1, hb.2.2.1, hb.2.2.2]

end Zpp.X64.Intel
