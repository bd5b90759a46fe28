import ZppHypervisor.Lib.ByteMemory
import ZppHypervisor.X64.VirtualAddress

/-!
# The processor's 4-level page walk

The translation of linear addresses as the processor manual defines it: CR3 holds the physical
address of the PML4 table, each entry holds the physical address of the next table in bits 51:12,
and a PDPTE or PDE with its PS bit set maps a 1 GiB or a 2 MiB page itself.  Nothing here is
translated from the program; the program's own walks are compared with this one.
-/

namespace Zpp.X64

/-- Bits 51:`k` of `e` over bits `k - 1`:0 of `a`: the address in the page of `2 ^ k` bytes whose
frame is the entry `e`. -/
def frameAddress (k : ℕ) (e a : Word) : Word :=
  (e.extractLsb' k (52 - k) ++ a.extractLsb' 0 k).setWidth 64

/-- The physical address in bits 51:12 of an entry or of CR3. -/
def tableAddress (e : Word) : Word := e &&& 0x000ffffffffff000#64

/-- The entry `index` of the table at `table`. -/
def tableEntry (mem : ByteMemory 64) (table index : Word) : Pte :=
  ⟨mem.load64 (table + 8#64 * index)⟩

/-- The page sizes a walk can end in. -/
inductive PageSize
  | page4K
  | page2M
  | page1G
deriving DecidableEq, Repr

/-- What a completed walk used and found. -/
structure HardwareWalk where
  /-- The physical addresses of the tables read, from the PML4 table down. -/
  tables : List Word
  /-- The entries used, from the PML4E down; the last one maps the page. -/
  entries : List Pte
  /-- The last entry. -/
  leaf : Pte
  /-- The size of the page the leaf maps. -/
  pageSize : PageSize
  /-- The physical address of the translation. -/
  physical : Word
deriving DecidableEq, Repr

/-- The entry `index` of a table, if it is present. -/
def presentEntry (mem : ByteMemory 64) (table index : Word) : Option Pte :=
  if (tableEntry mem table index).present then some (tableEntry mem table index) else none

/-- The walk of the linear address `va` from `cr3`; `none` if an entry is not present. -/
def hardwareWalk (mem : ByteMemory 64) (cr3 va : Word) : Option HardwareWalk := do
  let a : VirtualAddress := ⟨va⟩
  let pml4 := tableAddress cr3
  let pml4e ← presentEntry mem pml4 a.pml4e
  let pdpt := tableAddress pml4e.value
  let pdpte ← presentEntry mem pdpt a.pdpte
  if pdpte.large then
    some ⟨[pml4, pdpt], [pml4e, pdpte], pdpte, .page1G, frameAddress 30 pdpte.value va⟩
  else
    let pd := tableAddress pdpte.value
    let pde ← presentEntry mem pd a.pde
    if pde.large then
      some ⟨[pml4, pdpt, pd], [pml4e, pdpte, pde], pde, .page2M, frameAddress 21 pde.value va⟩
    else
      let pt := tableAddress pde.value
      let pte ← presentEntry mem pt a.pte
      some ⟨[pml4, pdpt, pd, pt], [pml4e, pdpte, pde, pte], pte, .page4K,
        frameAddress 12 pte.value va⟩

theorem presentEntry_eq_some {mem : ByteMemory 64} {table index : Word} {e : Pte} :
    presentEntry mem table index = some e ↔ tableEntry mem table index = e ∧ e.present = true := by
  unfold presentEntry
  split_ifs with h
  · rw [Option.some.injEq]
    exact ⟨fun he => ⟨he, he ▸ h⟩, fun he => he.1⟩
  · simp only [false_iff, not_and]
    exact fun he hp => h (he ▸ hp)

/-- Everything a completed walk can have done: one case for each page size. -/
theorem hardwareWalk_cases {mem : ByteMemory 64} {cr3 va : Word} {w : HardwareWalk}
    (h : hardwareWalk mem cr3 va = some w) :
    ∃ pml4e pdpte : Pte,
      tableEntry mem (tableAddress cr3) (VirtualAddress.mk va).pml4e = pml4e ∧
      tableEntry mem (tableAddress pml4e.value) (VirtualAddress.mk va).pdpte = pdpte ∧
      ((pdpte.large = true ∧
        w = ⟨[tableAddress cr3, tableAddress pml4e.value], [pml4e, pdpte], pdpte, .page1G,
          frameAddress 30 pdpte.value va⟩) ∨
      ∃ pde : Pte, pdpte.large = false ∧
        tableEntry mem (tableAddress pdpte.value) (VirtualAddress.mk va).pde = pde ∧
        ((pde.large = true ∧
          w = ⟨[tableAddress cr3, tableAddress pml4e.value, tableAddress pdpte.value],
            [pml4e, pdpte, pde], pde, .page2M, frameAddress 21 pde.value va⟩) ∨
        ∃ pte : Pte, pde.large = false ∧
          tableEntry mem (tableAddress pde.value) (VirtualAddress.mk va).pte = pte ∧
          w = ⟨[tableAddress cr3, tableAddress pml4e.value, tableAddress pdpte.value,
              tableAddress pde.value], [pml4e, pdpte, pde, pte], pte, .page4K,
            frameAddress 12 pte.value va⟩)) := by
  simp only [hardwareWalk, Option.bind_eq_bind, Option.bind_eq_some_iff, presentEntry_eq_some] at h
  obtain ⟨pml4e, ⟨h1, -⟩, pdpte, ⟨h2, -⟩, h⟩ := h
  refine ⟨pml4e, pdpte, h1, h2, ?_⟩
  by_cases hl : pdpte.large = true
  · rw [if_pos hl] at h
    exact Or.inl ⟨hl, (Option.some.inj h).symm⟩
  rw [if_neg hl] at h
  simp only [Option.bind_eq_some_iff, presentEntry_eq_some] at h
  obtain ⟨pde, ⟨h3, -⟩, h⟩ := h
  refine Or.inr ⟨pde, Bool.not_eq_true _ ▸ hl, h3, ?_⟩
  by_cases hl' : pde.large = true
  · rw [if_pos hl'] at h
    exact Or.inl ⟨hl', (Option.some.inj h).symm⟩
  rw [if_neg hl'] at h
  simp only [Option.bind_eq_some_iff, presentEntry_eq_some] at h
  obtain ⟨pte, ⟨h4, -⟩, h⟩ := h
  exact Or.inr ⟨pte, Bool.not_eq_true _ ▸ hl', h4, (Option.some.inj h).symm⟩

/-- The walk through four present entries none of which maps a large page. -/
theorem hardwareWalk_eq_page4K {mem : ByteMemory 64} {cr3 va : Word} {pml4e pdpte pde pte : Pte}
    (h1 : presentEntry mem (tableAddress cr3) (VirtualAddress.mk va).pml4e = some pml4e)
    (h2 : presentEntry mem (tableAddress pml4e.value) (VirtualAddress.mk va).pdpte = some pdpte)
    (hl : pdpte.large = false)
    (h3 : presentEntry mem (tableAddress pdpte.value) (VirtualAddress.mk va).pde = some pde)
    (hl' : pde.large = false)
    (h4 : presentEntry mem (tableAddress pde.value) (VirtualAddress.mk va).pte = some pte) :
    hardwareWalk mem cr3 va = some ⟨[tableAddress cr3, tableAddress pml4e.value,
      tableAddress pdpte.value, tableAddress pde.value], [pml4e, pdpte, pde, pte], pte, .page4K,
      frameAddress 12 pte.value va⟩ := by
  simp only [hardwareWalk, Option.bind_eq_bind, h1, h2, h3, h4, hl, hl', Option.bind_some,
    Bool.false_eq_true, if_false]

/-! ### Addresses as numbers -/

theorem toNat_frameAddress (k : ℕ) (hk : k ≤ 52) (e a : Word) :
    (frameAddress k e a).toNat = e.toNat / 2 ^ k % 2 ^ (52 - k) * 2 ^ k + a.toNat % 2 ^ k := by
  have hlow : a.toNat % 2 ^ k < 2 ^ k := Nat.mod_lt _ (Nat.two_pow_pos k)
  have hhigh : e.toNat / 2 ^ k % 2 ^ (52 - k) < 2 ^ (52 - k) := Nat.mod_lt _ (Nat.two_pow_pos _)
  have hbound : e.toNat / 2 ^ k % 2 ^ (52 - k) * 2 ^ k + a.toNat % 2 ^ k < 2 ^ 52 := by
    calc e.toNat / 2 ^ k % 2 ^ (52 - k) * 2 ^ k + a.toNat % 2 ^ k
        < e.toNat / 2 ^ k % 2 ^ (52 - k) * 2 ^ k + 2 ^ k := by omega
      _ = (e.toNat / 2 ^ k % 2 ^ (52 - k) + 1) * 2 ^ k := by ring
      _ ≤ 2 ^ (52 - k) * 2 ^ k := Nat.mul_le_mul_right _ hhigh
      _ = 2 ^ 52 := by rw [← pow_add, Nat.sub_add_cancel hk]
  rw [frameAddress, BitVec.toNat_setWidth, BitVec.toNat_append, BitVec.extractLsb'_toNat,
    BitVec.extractLsb'_toNat, Nat.shiftRight_zero, Nat.shiftRight_eq_div_pow,
    ← Nat.shiftLeft_add_eq_or_of_lt hlow, Nat.shiftLeft_eq, Nat.mod_eq_of_lt]
  omega

theorem toNat_pageNumber (e : Pte) : e.pageNumber.toNat = e.value.toNat / 2 ^ 12 % 2 ^ 40 :=
  BitField.toNat_get_low 12 40 e.value (by decide)

theorem tableAddress_eq (e : Word) : tableAddress e = (Pte.mk e).pageNumber <<< 12 :=
  BitField.and_shiftLeft_eq 12 0xffffffffff#64 e

theorem toNat_and_low (n : ℕ) (x : Word) (hn : n ≤ 64) :
    (x &&& BitVec.ofNat 64 (2 ^ n - 1)).toNat = x.toNat % 2 ^ n := by
  have h := BitField.toNat_get_low 0 n x hn
  rwa [BitField.get, BitVec.ushiftRight_zero, pow_zero, Nat.div_one] at h

end Zpp.X64
