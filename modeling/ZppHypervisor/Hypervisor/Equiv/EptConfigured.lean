import ZppHypervisor.Hypervisor.Equiv.GuestView
import ZppHypervisor.X64.Intel.EptMisconfiguration

/-!
# No EPT misconfigurations

Every present entry that the walk of an address comes to under guarded tables is one with which the
processor can translate (`Guarded.not_misconfiguration`): it has the bits of its kind only, its
permissions are all or none, a leaf has the type of a memory range, and its address is that of a table
or not above the guest-physical address itself.
-/

namespace Zpp.Hypervisor

open X64 X64.Intel X64.Intel.Epte

/-! ### Entries -/

section Entries

variable {width : ℕ} {e : Epte}

/-- An entry with the bits of one that refers to a table does not map a page. -/
theorem Within.large_eq_false (h : Within tableMask e) : e.large = false := by
  rw [Epte.large, BitField.test_eq 7 e.value (by decide)]
  exact Bool.eq_false_of_not_eq_true fun hbit =>
    absurd (BitField.within_iff.mp h 7 (by decide) hbit) Bool.false_ne_true

/-- An entry that refers to a table. -/
theorem configured_table {level : EptLevel} (hpermissions : e.HasPermissions true)
    (hlevel : level ≠ .pte) (hwithin : Within tableMask e)
    (haddress : (tableAddress e.value).toNat < 2 ^ width) : e.Configured width level := by
  have hlarge := Within.large_eq_false hwithin
  refine ⟨fun _ => hpermissions.1, fun _ => hpermissions.1, ?_, haddress, fun hmaps => ?_⟩
  · cases level with
    | pml4e =>
      rw [EptLevel.reserved]
      exact BitField.Within.and_eq_zero hwithin (by decide)
    | pdpte =>
      rw [EptLevel.reserved, hlarge]
      exact BitField.Within.and_eq_zero hwithin (by decide)
    | pde =>
      rw [EptLevel.reserved, hlarge]
      exact BitField.Within.and_eq_zero hwithin (by decide)
    | pte => exact absurd rfl hlevel
  · cases level with
    | pml4e => cases hmaps
    | pdpte => exact absurd (hlarge.symm.trans hmaps) Bool.false_ne_true
    | pde => exact absurd (hlarge.symm.trans hmaps) Bool.false_ne_true
    | pte => exact absurd rfl hlevel

/-- The epde of a large page. -/
theorem configured_large (hpermissions : e.HasPermissions true) (hlarge : e.large = true)
    (hwithin : Within largeMask e)
    (haddress : e.largePageNumber.toNat * 2 ^ 21 < 2 ^ width)
    (htype : e.type ∈ [MemoryType.uncachable, .writeCombining, .writeThrough, .writeProtected,
      .writeBack]) : e.Configured width .pde := by
  have hreserved : e.value &&& 0x1ff000#64 = 0#64 := BitField.Within.and_eq_zero hwithin (by decide)
  refine ⟨fun _ => hpermissions.1, fun _ => hpermissions.1, ?_, ?_, fun _ => htype⟩
  · rw [EptLevel.reserved, hlarge]
    exact hreserved
  · -- The low bits of the address are reserved ones.
    have hsplit : e.value &&& 0xffffffffff000#64 = e.largePageNumber <<< 21 := by
      have hmask : (0xffffffffff000#64 : Word) = 0x1ff000#64 ||| 0xfffffffe00000#64 := by decide
      rw [hmask, BitVec.and_or_distrib_left, hreserved, BitVec.zero_or, Epte.largePageNumber]
      exact BitField.and_shiftLeft_eq 21 0x7fffffff#64 e.value
    rw [hsplit, BitVec.toNat_shiftLeft, Nat.shiftLeft_eq]
    exact lt_of_le_of_lt (Nat.mod_le _ _) haddress

/-- The epte of a small page, if it is present. -/
theorem configured_small {b : Bool} (hpermissions : e.HasPermissions b) (hpresent : e.present = true)
    (haddress : e.pageNumber.toNat * 2 ^ 12 < 2 ^ width)
    (htype : e.type ∈ [MemoryType.uncachable, .writeCombining, .writeThrough, .writeProtected,
      .writeBack]) : e.Configured width .pte := by
  have hread : e.read = true := by
    rw [Epte.present, hpermissions.1, hpermissions.2.1, hpermissions.2.2.1, hpermissions.2.2.2] at hpresent
    rw [hpermissions.1]
    simpa using hpresent
  refine ⟨fun _ => hread, fun _ => hread, BitVec.and_zero, ?_, fun _ => htype⟩
  have hnumber : e.value &&& 0xffffffffff000#64 = e.pageNumber <<< 12 :=
    BitField.and_shiftLeft_eq 12 0xffffffffff#64 e.value
  rw [hnumber, BitVec.toNat_shiftLeft, Nat.shiftLeft_eq]
  exact lt_of_le_of_lt (Nat.mod_le _ _) haddress

/-- The type of a large page is one that the processor knows. -/
theorem initialType_mem {mtrrs : Vector Mtrr 8} (harchitectural : ∀ r ∈ mtrrs.toList, r.Architectural)
    (r : Region) : initialType mtrrs r ∈ [MemoryType.uncachable, .writeCombining, .writeThrough,
      .writeProtected, .writeBack] := by
  have htype : ∀ physicalAddress, (largePageType mtrrs physicalAddress) &&& 0x7#32 ∈
      [MemoryType.uncachable, .writeCombining, .writeThrough, .writeProtected, .writeBack] := by
    intro physicalAddress
    unfold largePageType
    cases hfind : mtrrs.toList.find? (mtrrApplies physicalAddress) with
    | none => decide
    | some r =>
      have hr := harchitectural r (List.mem_of_find?_eq_some hfind)
      show r.type &&& 0x7#32 ∈ _
      rw [and_seven_of_architectural hr]
      exact hr
  rw [initialType, initialEpde, (Epte.setType_fields _ _).2.2.2.2.1]
  exact htype _

end Entries

/-! ### Walks -/

section Guarded

variable {phys : ByteMemory 64} {layout : Layout} {m : Module} {os : Word → Word} {guestCr3 : Word}
  {mtrrs : Vector Mtrr 8} {T : Tables} {width : ℕ}

/-- The index of an address into a table. -/
def entryIndex (shift : ℕ) (gpa : Word) : Fin 512 :=
  ⟨gpa.toNat / 2 ^ shift % 512, Nat.mod_lt _ (by decide)⟩

theorem toNat_index (gpa : Word) :
    (VirtualAddress.mk gpa).pml4e.toNat = (entryIndex 39 gpa).val ∧
    (VirtualAddress.mk gpa).pdpte.toNat = (entryIndex 30 gpa).val ∧
    (VirtualAddress.mk gpa).pde.toNat = (entryIndex 21 gpa).val ∧
    (VirtualAddress.mk gpa).pte.toNat = (entryIndex 12 gpa).val :=
  ⟨PageTable.toNat_get_index 39 gpa, PageTable.toNat_get_index 30 gpa,
    PageTable.toNat_get_index 21 gpa, PageTable.toNat_get_index 12 gpa⟩

theorem Guarded.not_misconfiguration (h : Guarded layout m os guestCr3 mtrrs T)
    (hos : FrameMap m (2 ^ 39) os) (htables : m.Holds layout.ept.epml4 EptLayout.tablesSize)
    (hphys : EptInMemory phys os layout.ept T.ept)
    (harchitectural : ∀ r ∈ mtrrs.toList, r.Architectural)
    (hframes : ∀ a, m.HasPage a → (os a).toNat < 2 ^ width) {gpa : Word}
    (hgpa : gpa.toNat < 2 ^ width) : ¬ EptMisconfiguration phys (os layout.ept.epml4) gpa width := by
  obtain ⟨owner, hept⟩ := h.ept
  have hreserved := h.reserved harchitectural
  have htype := initialType_mem harchitectural
  obtain ⟨i1, i2, i3, i4⟩ := toNat_index gpa
  have hroot := epteAt_eq hphys.epml4 i1
  by_cases hindex : entryIndex 39 gpa = 0
  swap
  · -- Above 512 GiB the root has no entry.
    rw [h.unused _ hindex] at hroot
    refine @not_eptMisconfiguration phys _ gpa width _ ⟨0#64⟩ ⟨0#64⟩ ⟨0#64⟩ hroot ?_ ?_ ?_ ?_ <;>
      exact fun hpresent => absurd hpresent Bool.false_ne_true
  rw [hindex] at hroot
  -- The large page of the address.
  obtain ⟨r, hr⟩ : ∃ r : Region, r = (entryIndex 30 gpa, entryIndex 21 gpa) := ⟨_, rfl⟩
  have hnumber : (512 * largePage r + entryIndex 12 gpa) * 2 ^ 12 ≤ gpa.toNat := by
    have hpde : (entryIndex 30 gpa).val = gpa.toNat / 2 ^ 30 % 512 := rfl
    have hpte : (entryIndex 21 gpa).val = gpa.toNat / 2 ^ 21 % 512 := rfl
    have hpage : (entryIndex 12 gpa).val = gpa.toNat / 2 ^ 12 % 512 := rfl
    rw [hr, largePage]
    dsimp only
    omega
  have hlarge : largePage r * 2 ^ 21 ≤ gpa.toNat :=
    calc largePage r * 2 ^ 21 = 512 * largePage r * 2 ^ 12 := by ring
      _ ≤ (512 * largePage r + entryIndex 12 gpa) * 2 ^ 12 :=
        Nat.mul_le_mul_right _ (Nat.le_add_right _ _)
      _ ≤ gpa.toNat := hnumber
  obtain ⟨p1, n1⟩ := hept.epml4
  obtain ⟨p2, l2, n2⟩ := hept.epdpt r.1
  have p3 := hept.epd r
  have a1 := tableAddress_of_pageNumber hos (hasPage_epdpt htables) n1
  have a2 := tableAddress_of_pageNumber hos (hasPage_epd htables r.1) n2
  have e2 : epteAt phys (tableAddress (T.ept.epml4 0).value) (VirtualAddress.mk gpa).pdpte =
      T.ept.epdpt r.1 := by
    rw [a1, epteAt_eq hphys.epdpt i2, hr]
  have e3 : epteAt phys (tableAddress (T.ept.epdpt r.1).value) (VirtualAddress.mk gpa).pde =
      T.ept.epd r.1 r.2 := by
    rw [a2, epteAt_eq (hphys.epd r.1) i3, hr]
  have c1 : (T.ept.epml4 0).Configured width .pml4e :=
    configured_table p1 (by decide) (hreserved.epml4 0) (a1 ▸ hframes _ (hasPage_epdpt htables))
  have c2 : (T.ept.epdpt r.1).Configured width .pdpte :=
    configured_table p2 (by decide) (hreserved.epdpt r.1) (a2 ▸ hframes _ (hasPage_epd htables r.1))
  have hepde := hreserved.epd r.1 r.2
  cases ho : owner r with
  | none =>
    obtain ⟨l3, n3, ht, -⟩ := hept.large r ho
    rw [if_pos l3] at hepde
    have c3 : (T.ept.epd r.1 r.2).Configured width .pde := by
      refine configured_large p3 l3 hepde ?_ (ht ▸ htype r)
      have hlt := largePage_lt r
      rw [n3, BitVec.toNat_ofNat, Nat.mod_eq_of_lt (by omega)]
      exact lt_of_le_of_lt hlarge hgpa
    refine @not_eptMisconfiguration phys _ gpa width _ _ _ ⟨0#64⟩ hroot (fun _ => ⟨c1, e2⟩)
      (fun _ _ => ⟨c2, fun _ => e3⟩) (fun _ _ _ => ⟨c3, fun hlarge => ?_⟩) fun _ hlarge _ => ?_
    · exact absurd (l3.symm.trans hlarge) (by decide)
    · exact absurd (l3.symm.trans hlarge) (by decide)
  | some k =>
    obtain ⟨l3, n3⟩ := hept.split r k ho
    obtain ⟨ht, n4, hdenied, hallowed⟩ := hept.ept r k ho (entryIndex 12 gpa)
    have a3 := tableAddress_of_pageNumber hos (hasPage_ept htables k) n3
    rw [if_neg (by rw [l3]; decide)] at hepde
    have c3 : (T.ept.epd r.1 r.2).Configured width .pde := by
      refine configured_table p3 (by decide) hepde ?_
      rw [a3]
      exact hframes _ (hasPage_ept htables k)
    have e4 : epteAt phys (tableAddress (T.ept.epd r.1 r.2).value) (VirtualAddress.mk gpa).pte =
        T.ept.ept k (entryIndex 12 gpa) := by
      rw [a3, epteAt_eq (hphys.ept k) i4]
    refine not_eptMisconfiguration hroot (fun _ => ⟨c1, e2⟩) (fun _ _ => ⟨c2, fun _ => e3⟩)
      (fun _ _ _ => ⟨c3, fun _ => e4⟩) fun _ _ hpresent => ?_
    have haddress : (T.ept.ept k (entryIndex 12 gpa)).pageNumber.toNat * 2 ^ 12 < 2 ^ width := by
      have hlt := largePage_lt r
      have hindex := (entryIndex 12 gpa).isLt
      rw [n4, BitVec.toNat_ofNat, Nat.mod_eq_of_lt (by omega)]
      exact lt_of_le_of_lt hnumber hgpa
    by_cases hd : deniedPages m layout.ept os r (entryIndex 12 gpa)
    · exact configured_small (hdenied hd) hpresent haddress (ht ▸ htype r)
    · exact configured_small (hallowed hd) hpresent haddress (ht ▸ htype r)

end Guarded

end Zpp.Hypervisor
