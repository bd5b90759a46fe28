import ZppHypervisor.X64.OsPageTable

/-!
# `OsPageTable.virtualToPhysical` against the processor's walk

The software walk reads the same entries as the processor (`virtualToPhysical_eq_leafAddress`), so
everything depends on the last step, the address formed from the leaf.  `Pte.pageNumber` reads bits
51:12 whatever the page size, and the large-page branches shift that number by 30 or 21 without
dropping its low bits first.  `virtualToPhysical_eq_physical_iff` says for exactly which leaves the
result is still the processor's: every 4 KiB leaf, and a large leaf only in the degenerate cases of
`LeafExact`.
-/

namespace Zpp.X64

/-- The contents of CR3: bits 63:52 are reserved, and loading CR3 with one of them set faults. -/
structure Cr3 where
  value : Word
  reserved : value &&& 0xfff0000000000000#64 = 0#64

/-- Through `physicalToVirtual`, memory `virt` shows the 512 entries of the table at the physical
address `table`. -/
def GivesAccess (phys virt : ByteMemory 64) (physicalToVirtual : Word → Word) (table : Word) : Prop :=
  ∀ index : Word, index.toNat < 512 →
    tableEntry virt (physicalToVirtual table) index = tableEntry phys table index

/-- The address `os_page_table::virtual_to_physical` forms once the walk has ended in `w.leaf`. -/
def leafAddress (w : HardwareWalk) (va : Word) : Word :=
  match w.pageSize with
  | .page4K => (w.leaf.pageNumber <<< 12) + (VirtualAddress.mk va).offset
  | .page2M => (w.leaf.pageNumber <<< 21) + (VirtualAddress.mk va).largeOffset
  | .page1G => (w.leaf.pageNumber <<< 30) + (VirtualAddress.mk va).hugeOffset

/-- The leaves whose translation comes out right: any 4 KiB leaf, a 2 MiB leaf with bits 51:12
clear, a 1 GiB leaf whose bits 45:12 are the number in its bits 51:30. -/
def LeafExact (w : HardwareWalk) : Prop :=
  match w.pageSize with
  | .page4K => True
  | .page2M => w.leaf.pageNumber = 0#64
  | .page1G => w.leaf.value.extractLsb' 12 34 = (w.leaf.value.extractLsb' 30 22).setWidth 34

/-! ### The entries read -/

theorem toNat_tableIndex_lt (s : ℕ) (x : Word) : (BitField.get s 0x1ff#64 x).toNat < 512 := by
  rw [show (0x1ff#64) = BitVec.ofNat 64 (2 ^ 9 - 1) by rfl, BitField.toNat_get_low s 9 x (by decide)]
  exact Nat.mod_lt _ (by decide)

/-- Clearing the low 12 bits of CR3 gives the PML4 address: the bits above it are reserved. -/
theorem Cr3.tableAddress_eq (cr3 : Cr3) :
    tableAddress cr3.value = cr3.value &&& 0xfffffffffffff000#64 := by
  have h : (0xfffffffffffff000#64) = 0x000ffffffffff000#64 ||| 0xfff0000000000000#64 := by decide
  rw [h, BitVec.and_or_distrib_left, cr3.reserved, BitVec.or_zero, tableAddress]

theorem virtualToPhysical_eq_leafAddress {phys virt : ByteMemory 64} (cr3 : Cr3)
    {physicalToVirtual : Word → Word} {va : Word} {w : HardwareWalk}
    (hw : hardwareWalk phys cr3.value va = some w)
    (access : ∀ table ∈ w.tables, GivesAccess phys virt physicalToVirtual table) :
    (OsPageTable.ofCr3 cr3.value (some physicalToVirtual)).virtualToPhysical virt va =
      leafAddress w va := by
  have hread : ∀ table ∈ w.tables, ∀ s,
      tableEntry virt (physicalToVirtual table) (BitField.get s 0x1ff#64 va) =
        tableEntry phys table (BitField.get s 0x1ff#64 va) :=
    fun table h s => access table h _ (toNat_tableIndex_lt s va)
  obtain ⟨pml4e, pdpte, h1, h2, hcase⟩ := hardwareWalk_cases hw
  simp only [OsPageTable.virtualToPhysical, OsPageTable.ofCr3, ← cr3.tableAddress_eq]
  simp only [VirtualAddress.pml4e, VirtualAddress.pdpte, VirtualAddress.pde,
    VirtualAddress.pte, tableAddress_eq] at h1 h2 hcase ⊢
  -- One case for each page size; the tables of `w` are the ones the software walk reads.
  rcases hcase with ⟨hl, rfl⟩ | ⟨pde, hl, h3, ⟨hl', rfl⟩ | ⟨pte, hl', h4, rfl⟩⟩
  · have r1 := hread _ (by simp) (12 + 9 * 3) |>.trans h1
    have r2 := hread _ (List.mem_cons_of_mem _ (by simp)) (12 + 9 * 2) |>.trans h2
    simp only [r1, r2, hl, if_true, leafAddress]
  · have r1 := hread _ (by simp) (12 + 9 * 3) |>.trans h1
    have r2 := hread _ (List.mem_cons_of_mem _ (by simp)) (12 + 9 * 2) |>.trans h2
    have r3 := hread ((Pte.mk pdpte.value).pageNumber <<< 12) (by simp) (12 + 9) |>.trans h3
    simp only [r1, r2, r3, hl, hl', if_true, Bool.false_eq_true, if_false, leafAddress]
  · have r1 := hread _ (by simp) (12 + 9 * 3) |>.trans h1
    have r2 := hread _ (List.mem_cons_of_mem _ (by simp)) (12 + 9 * 2) |>.trans h2
    have r3 := hread ((Pte.mk pdpte.value).pageNumber <<< 12) (by simp) (12 + 9) |>.trans h3
    have r4 := hread ((Pte.mk pde.value).pageNumber <<< 12) (by simp) 12 |>.trans h4
    simp only [r1, r2, r3, r4, hl, hl', Bool.false_eq_true, if_false, leafAddress]

/-! ### The address formed from the leaf -/

/-- What a leaf gives is the low offset on top of the page number, shifted up and cut to 64 bits. -/
theorem toNat_shiftLeft_add_offset (e : Pte) (k : ℕ) (hk : k ≤ 52) (va : Word) :
    ((e.pageNumber <<< k) + (va &&& BitVec.ofNat 64 (2 ^ k - 1))).toNat =
      e.value.toNat / 2 ^ 12 % 2 ^ 40 % 2 ^ (64 - k) * 2 ^ k + va.toNat % 2 ^ k := by
  have hlow : va.toNat % 2 ^ k < 2 ^ k := Nat.mod_lt _ (Nat.two_pow_pos k)
  have hpow : 2 ^ (64 - k) * 2 ^ k = 2 ^ 64 := by rw [← pow_add, Nat.sub_add_cancel (by omega)]
  have hhigh : e.value.toNat / 2 ^ 12 % 2 ^ 40 % 2 ^ (64 - k) + 1 ≤ 2 ^ (64 - k) :=
    Nat.mod_lt _ (Nat.two_pow_pos _)
  have hshift : (e.pageNumber <<< k).toNat =
      e.value.toNat / 2 ^ 12 % 2 ^ 40 % 2 ^ (64 - k) * 2 ^ k := by
    rw [BitVec.toNat_shiftLeft, toNat_pageNumber, Nat.shiftLeft_eq, ← hpow, Nat.mul_mod_mul_right]
  have hmul := Nat.mul_le_mul_right (2 ^ k) hhigh
  rw [Nat.succ_mul] at hmul
  rw [BitVec.toNat_add, hshift, toNat_and_low k va (by omega), Nat.mod_eq_of_lt (by omega)]

/-- Forming the address from `pageNumber <<< k` is right exactly when bits 51:12 and bits 51:`k` of
the entry are the same number, as far as the shift keeps them. -/
theorem shiftLeft_add_offset_eq_iff (e : Pte) (k : ℕ) (hk : k ≤ 52) (va : Word) :
    (e.pageNumber <<< k) + (va &&& BitVec.ofNat 64 (2 ^ k - 1)) = frameAddress k e.value va ↔
      e.value.toNat / 2 ^ 12 % 2 ^ 40 % 2 ^ (64 - k) = e.value.toNat / 2 ^ k % 2 ^ (52 - k) := by
  rw [← BitVec.toNat_inj, toNat_shiftLeft_add_offset e k hk, toNat_frameAddress k hk]
  constructor
  · intro h
    exact Nat.eq_of_mul_eq_mul_right (Nat.two_pow_pos k) (by omega)
  · intro h
    rw [h]

/-- Bits 51:`k` are bits 51:12 with the lowest `k - 12` of them dropped. -/
theorem div_two_pow_mod_eq (x k : ℕ) (hk : 12 ≤ k) (hk' : k ≤ 52) :
    x / 2 ^ k % 2 ^ (52 - k) = x / 2 ^ 12 % 2 ^ 40 / 2 ^ (k - 12) := by
  have h40 : 2 ^ 40 = 2 ^ (k - 12) * 2 ^ (52 - k) := by
    rw [← pow_add]; congr 1; omega
  have hk12 : 2 ^ k = 2 ^ 12 * 2 ^ (k - 12) := by
    rw [← pow_add]; congr 1; omega
  rw [h40, Nat.mod_mul_right_div_self, Nat.div_div_eq_div_mul, ← hk12]

theorem leafAddress_eq_frameAddress_4K (e : Pte) (va : Word) :
    (e.pageNumber <<< 12) + (VirtualAddress.mk va).offset = frameAddress 12 e.value va := by
  refine (shiftLeft_add_offset_eq_iff e 12 (by decide) va).mpr ?_
  exact Nat.mod_eq_of_lt (lt_of_lt_of_le (Nat.mod_lt _ (Nat.two_pow_pos 40)) (by decide))

theorem leafAddress_eq_frameAddress_2M_iff (e : Pte) (va : Word) :
    (e.pageNumber <<< 21) + (VirtualAddress.mk va).largeOffset = frameAddress 21 e.value va ↔
      e.pageNumber = 0#64 := by
  refine (shiftLeft_add_offset_eq_iff e 21 (by decide) va).trans ?_
  rw [← BitVec.toNat_inj, toNat_pageNumber, BitVec.toNat_ofNat,
    div_two_pow_mod_eq _ 21 (by decide) (by decide)]
  have hlt : e.value.toNat / 2 ^ 12 % 2 ^ 40 < 2 ^ 40 := Nat.mod_lt _ (Nat.two_pow_pos 40)
  generalize e.value.toNat / 2 ^ 12 % 2 ^ 40 = n at hlt ⊢
  rw [Nat.mod_eq_of_lt (by omega)]
  -- A number equal to its own quotient by `2 ^ 9` is zero.
  constructor <;> intro h <;> omega

theorem leafAddress_eq_frameAddress_1G_iff (e : Pte) (va : Word) :
    (e.pageNumber <<< 30) + (VirtualAddress.mk va).hugeOffset = frameAddress 30 e.value va ↔
      e.value.extractLsb' 12 34 = (e.value.extractLsb' 30 22).setWidth 34 := by
  refine (shiftLeft_add_offset_eq_iff e 30 (by decide) va).trans ?_
  rw [← BitVec.toNat_inj, BitVec.toNat_setWidth, BitVec.extractLsb'_toNat,
    BitVec.extractLsb'_toNat, Nat.shiftRight_eq_div_pow, Nat.shiftRight_eq_div_pow]
  omega

theorem leafAddress_eq_physical_iff {mem : ByteMemory 64} {cr3 va : Word} {w : HardwareWalk}
    (hw : hardwareWalk mem cr3 va = some w) : leafAddress w va = w.physical ↔ LeafExact w := by
  obtain ⟨pml4e, pdpte, -, -, hcase⟩ := hardwareWalk_cases hw
  rcases hcase with ⟨-, rfl⟩ | ⟨pde, -, -, ⟨-, rfl⟩ | ⟨pte, -, -, rfl⟩⟩
  · exact leafAddress_eq_frameAddress_1G_iff pdpte va
  · exact leafAddress_eq_frameAddress_2M_iff pde va
  · exact iff_of_true (leafAddress_eq_frameAddress_4K pte va) trivial

/-- **The software walk against the processor's.**  With access to the tables on the walk,
`virtualToPhysical` returns the processor's translation exactly for the leaves of `LeafExact`. -/
theorem virtualToPhysical_eq_physical_iff {phys virt : ByteMemory 64} (cr3 : Cr3)
    {physicalToVirtual : Word → Word} {va : Word} {w : HardwareWalk}
    (hw : hardwareWalk phys cr3.value va = some w)
    (access : ∀ table ∈ w.tables, GivesAccess phys virt physicalToVirtual table) :
    (OsPageTable.ofCr3 cr3.value (some physicalToVirtual)).virtualToPhysical virt va =
      w.physical ↔ LeafExact w := by
  rw [virtualToPhysical_eq_leafAddress cr3 hw access]
  exact leafAddress_eq_physical_iff hw

/-- A 4 KiB page at physical address `0x7000`, mapped at linear address 0: the tables are the frames
`0x1000` to `0x4000`. -/
def smallPageMemory : ByteMemory 64 :=
  ByteMemory.store (n := 8)
    (ByteMemory.store (n := 8)
      (ByteMemory.store (n := 8)
        (ByteMemory.store (n := 8) (fun _ => 0#8) 0x1000#64 0x2003#64) 0x2000#64 0x3003#64)
      0x3000#64 0x4003#64)
    0x4000#64 0x7003#64

theorem virtualToPhysical_smallPageMemory :
    (OsPageTable.ofCr3 0x1000#64 (some id)).virtualToPhysical smallPageMemory 0x123#64 =
      0x7123#64 := by
  have hw : hardwareWalk smallPageMemory 0x1000#64 0x123#64 =
      some ⟨[0x1000#64, 0x2000#64, 0x3000#64, 0x4000#64],
        [⟨0x2003#64⟩, ⟨0x3003#64⟩, ⟨0x4003#64⟩, ⟨0x7003#64⟩], ⟨0x7003#64⟩, .page4K, 0x7123#64⟩ := by
    decide
  exact (virtualToPhysical_eq_physical_iff ⟨0x1000#64, by decide⟩ hw
    (fun _ _ _ _ => rfl)).mpr trivial

/-- A 2 MiB page at physical address 2 MiB, mapped at linear address 0: the tables are the frames
`0x1000` to `0x3000`. -/
def largePageMemory : ByteMemory 64 :=
  ByteMemory.store (n := 8)
    (ByteMemory.store (n := 8)
      (ByteMemory.store (n := 8) (fun _ => 0#8) 0x1000#64 0x2003#64) 0x2000#64 0x3003#64)
    0x3000#64 0x200083#64

/-- There the processor translates address 0 to 2 MiB and the program to 1 GiB, although
`physical_to_virtual` is the identity and all tables are accessible. -/
theorem virtualToPhysical_largePageMemory :
    (hardwareWalk largePageMemory 0x1000#64 0#64).map (·.physical) = some 0x200000#64 ∧
    (∀ table, GivesAccess largePageMemory largePageMemory id table) ∧
    (OsPageTable.ofCr3 0x1000#64 (some id)).virtualToPhysical largePageMemory 0#64 =
      0x40000000#64 := by
  refine ⟨by decide, fun _ _ _ => rfl, by decide⟩

end Zpp.X64
