import ZppHypervisor.Hypervisor.Equiv.EptIsolation

/-!
# The bits of the extended page tables

Whatever the functions that build the extended page tables write, an entry has only the bits of its
kind: permissions and a page number for one that refers to a table, a type too for one that maps a page
(`Ept.ReservedZero`).
-/

namespace Zpp.X64.Intel.Epte

/-- No bit of the entry is outside the mask. -/
def Within (mask : Word) (e : Epte) : Prop := BitField.Within mask e.value

/-- Permissions and page number. -/
def tableMask : Word := 0xffffffffff407#64

/-- Permissions, type, large bit and large page number. -/
def largeMask : Word := 0xfffffffe004bf#64

/-- Permissions, type and page number. -/
def smallMask : Word := 0xffffffffff43f#64

section Within

variable {mask : Word} {e : Epte}

/-- A field inside the mask. -/
theorem Within.set_self {clear keep : Word} {shift : ℕ} (h : Within mask e) (v : Word)
    (hkeep : BitField.Within mask (keep <<< shift)) :
    Within mask ⟨BitField.set clear keep shift e.value v⟩ := BitField.Within.set_self h v hkeep

theorem Within.setPermissions (h : Within mask e) (b : Bool)
    (hmask : BitField.Within mask 0x407#64) : Within mask (e.setPermissions b) := by
  have hflag : ∀ (e : Epte) (k : ℕ), BitField.Within 0x407#64 (1#64 <<< k : Word) → Within mask e →
      Within mask ⟨BitField.setFlag k e.value b⟩ :=
    fun e k hk he => BitField.Within.setFlag he b (hk.trans hmask)
  exact hflag _ 10 (by decide) (hflag _ 2 (by decide) (hflag _ 1 (by decide)
    (hflag _ 0 (by decide) h)))

/-- A type of three bits. -/
theorem Within.setType (h : Within mask e) {type : MemoryType} (htype : type.getLsbD 3 = false)
    (hmask : BitField.Within mask 0x38#64) : Within mask (e.setType type) := by
  -- The fourth bit that the setter lets in is not there.
  have hvalue : type.signExtend 64 &&& 0xf#64 = (type.signExtend 64 &&& 0x7#64) &&& 0xf#64 := by
    apply BitVec.eq_of_getLsbD_eq
    intro j hj
    have hmasks : ∀ j < 64, j ≠ 3 → (0xf#64).getLsbD j = true → (0x7#64).getLsbD j = true := by decide
    rw [BitVec.getLsbD_and, BitVec.getLsbD_and, BitVec.getLsbD_and]
    by_cases hthree : j = 3
    · rw [hthree, BitVec.getLsbD_signExtend, if_pos (by decide), htype]
      rfl
    · cases hbit : (0xf#64).getLsbD j
      · rw [Bool.and_false, Bool.and_false]
      · rw [hmasks j hj hthree hbit, Bool.and_true, Bool.and_true]
  have hset : e.setType type = ⟨BitField.set (0x7#64 <<< 3) 0x7#64 3 e.value (type.signExtend 64)⟩ := by
    rw [Epte.setType, BitField.set, BitField.set, hvalue, BitVec.and_assoc]
    rfl
  rw [hset]
  exact h.set_self _ hmask

/-- The epde of a large page becomes one that refers to a table. -/
theorem Within.refer (h : Within largeMask e) (v : Word) :
    Within tableMask (((e.setLarge false).setType 0#32).setPageNumber v) := by
  have hsmall : Within 0xfffffffe0043f#64 (e.setLarge false) := by
    rw [Within, Epte.setLarge, BitField.setFlag_eq_set]
    exact BitField.Within.set h (by decide) (by decide)
  have huntyped : Within tableMask ((e.setLarge false).setType 0#32) :=
    BitField.Within.set hsmall (by decide) (by decide)
  exact huntyped.set_self v (by decide)

end Within

end Zpp.X64.Intel.Epte

namespace Zpp.Hypervisor

open X64 X64.Intel X64.Intel.Epte Loop

/-- Every entry has only the bits of its kind. -/
structure Ept.ReservedZero (t : Ept) : Prop where
  epml4 : ∀ i, Within tableMask (t.epml4 i)
  epdpt : ∀ i, Within tableMask (t.epdpt i)
  /-- An epde maps a large page or refers to a table. -/
  epd : ∀ d e, Within (if (t.epd d e).large then largeMask else tableMask) (t.epd d e)
  ept : ∀ k j, Within smallMask (t.ept k j)

/-- The architectural types have three bits. -/
theorem getLsbD_type {r : Mtrr} (h : r.Architectural) : r.type.getLsbD 3 = false := by
  rw [← and_seven_of_architectural h, BitVec.getLsbD_and]
  exact Bool.and_false _

/-- The type of a large page is that of a record, or write-back. -/
theorem getLsbD_largePageType {mtrrs : Vector Mtrr 8}
    (harchitectural : ∀ r ∈ mtrrs.toList, r.Architectural) (physicalAddress : Word) :
    (largePageType mtrrs physicalAddress).getLsbD 3 = false := by
  unfold largePageType
  cases hfind : mtrrs.toList.find? (mtrrApplies physicalAddress) with
  | none => rfl
  | some r => exact getLsbD_type (harchitectural r (List.mem_of_find?_eq_some hfind))

section Build

variable {t t' : Ept}

theorem reservedZero_empty : Ept.empty.ReservedZero where
  epml4 _ := BitField.within_zero _
  epdpt _ := BitField.within_zero _
  epd _ _ := BitField.within_zero _
  ept _ _ := BitField.within_zero _

theorem Ept.ReservedZero.setEpde (h : t.ReservedZero) (r : Region) {e : Epte}
    (he : Within (if e.large then largeMask else tableMask) e) : (t.setEpde r e).ReservedZero := by
  refine ⟨h.epml4, h.epdpt, fun d i => ?_, h.ept⟩
  have hentry := Ept.setEpde_epd t r (d, i) e
  dsimp only at hentry
  rw [hentry]
  by_cases hindex : (d, i) = r
  · rw [if_pos hindex]
    exact he
  · rw [if_neg hindex]
    exact h.epd d i

theorem Ept.ReservedZero.setEpte (h : t.ReservedZero) (k : Fin eptCount) (j : Fin 512) {e : Epte}
    (he : Within smallMask e) : (t.setEpte k j e).ReservedZero := by
  refine ⟨h.epml4, h.epdpt, h.epd, fun k' j' => ?_⟩
  rw [Ept.setEpte_ept]
  split_ifs with hindex
  · exact he
  · exact h.ept k' j'

theorem Ept.ReservedZero.setEptePermissions (h : t.ReservedZero) (k : Fin eptCount) (pa : Word)
    (b : Bool) : (t.setEptePermissions k pa b).ReservedZero :=
  h.setEpte k _ ((h.ept k _).setPermissions b (by decide))

/-- An entry that refers to a table. -/
theorem within_setPageNumber {e : Epte} (h : Within tableMask e) (v : Word) :
    Within tableMask ((e.setPermissions true).setPageNumber v) :=
  (h.setPermissions true (by decide)).set_self v (by decide)

/-! ### Initialization -/

variable {layout : EptLayout} {vtp : Word → Word}

theorem Ept.ReservedZero.initializeEpdpte (h : t.ReservedZero) (i : ℕ) :
    (initializeEpdpte layout vtp i t).ReservedZero := by
  refine ⟨h.epml4, fun d => ?_, h.epd, h.ept⟩
  simp only [Hypervisor.initializeEpdpte, Function.update_apply]
  split_ifs with hindex
  · exact within_setPageNumber (BitField.within_zero _) _
  · exact h.epdpt d

theorem Ept.ReservedZero.initializeEpde {mtrrs : Vector Mtrr 8}
    (harchitectural : ∀ r ∈ mtrrs.toList, r.Architectural) (i j : ℕ) {s : Ept × Word}
    (h : s.1.ReservedZero) : (initializeEpde mtrrs i j s).1.ReservedZero := by
  refine h.setEpde _ ?_
  simp only [Epte.setType_fields, Epte.setLargePageNumber_fields, Epte.setLarge_fields, if_true]
  have hlarge : Within largeMask (((Epte.mk 0#64).setPermissions true).setLarge true) := by
    rw [Within]
    decide
  exact (hlarge.set_self _ (by decide)).setType (getLsbD_largePageType harchitectural _) (by decide)

/-- `initialize_ept` writes no reserved bit. -/
theorem Ept.ReservedZero.initializeEpt (h : t.ReservedZero) {mtrrs : Vector Mtrr 8}
    (harchitectural : ∀ r ∈ mtrrs.toList, r.Architectural) :
    (initializeEpt layout vtp mtrrs t).ReservedZero := by
  have hroot : ∀ e, Within tableMask e →
      ({ t with epml4 := Function.update t.epml4 0 e } : Ept).ReservedZero := by
    intro e he
    refine ⟨fun i => ?_, h.epdpt, h.epd, h.ept⟩
    simp only [Function.update_apply]
    split_ifs with hindex
    · exact he
    · exact h.epml4 i
  have hepdpt := forRange_invariant (P := fun _ (t : Ept) => t.ReservedZero) (n := 512)
    (hroot _ (within_setPageNumber (h.epml4 0) (vtp layout.epdpt >>> 12)))
    fun i _ t ht => @Ept.ReservedZero.initializeEpdpte t layout vtp ht i
  refine forRange_invariant (P := fun _ (s : Ept × Word) => s.1.ReservedZero) hepdpt
    fun i _ s hs => ?_
  exact forRange_invariant (P := fun _ (s : Ept × Word) => s.1.ReservedZero) hs
    fun j _ s hs => hs.initializeEpde harchitectural i j

/-! ### Protection -/

theorem Ept.ReservedZero.fillEpt (h : t.ReservedZero) (k : Fin eptCount) (pageNumber : Word)
    {memoryType : MemoryType} (htype : memoryType.getLsbD 3 = false) :
    (t.fillEpt k pageNumber memoryType).ReservedZero :=
  forRange_invariant (P := fun _ (t : Ept) => t.ReservedZero) h fun _ _ _ ht =>
    ht.setEpte k _ ((((ht.ept k _).setPermissions true (by decide)).set_self _ (by decide)).setType
      htype (by decide))

/-- The type of an entry has three bits. -/
theorem getLsbD_epteType (e : Epte) : e.type.getLsbD 3 = false := by
  rw [← e.type_and_seven, BitVec.getLsbD_and]
  exact Bool.and_false _

variable {capacity : ℕ} {map : PhysicalToVirtual capacity}

theorem Ept.ReservedZero.protectPage {address : Word} {s s' : Ept × ℕ} (h : s.1.ReservedZero)
    (hrun : protectPage layout vtp map address s = .next s') : s'.1.ReservedZero := by
  obtain ⟨t, eptIndex⟩ := s
  unfold Hypervisor.protectPage at hrun
  obtain ⟨r, -, hrun⟩ := Outcome.exists_of_bind_eq_next hrun
  dsimp only at hrun
  split_ifs at hrun with hlarge hlt hlast
  · obtain ⟨k, -, hrun⟩ := Outcome.exists_of_bind_eq_next hrun
    rw [← Outcome.next.inj hrun]
    exact h.setEptePermissions k _ _
  · -- The large page gets a table, and its epde refers to it.
    rw [← Outcome.next.inj hrun]
    have hepde := h.epd r.1 r.2
    rw [if_pos (by simpa using hlarge)] at hepde
    have hfill := h.fillEpt ⟨eptIndex, hlt⟩ ((t.epd r.1 r.2).largePageNumber <<< (21 - 12))
      (getLsbD_epteType (t.epd r.1 r.2))
    generalize t.fillEpt ⟨eptIndex, hlt⟩ _ _ = t₁ at hfill ⊢
    refine (hfill.setEpde r ?_).setEptePermissions _ _ _
    simp only [Epte.setPageNumber_fields, Epte.setType_fields, Epte.setLarge_fields,
      Bool.false_eq_true, if_false]
    exact hepde.refer _

theorem Ept.ReservedZero.unprotectPage {address : Word} (h : t.ReservedZero)
    (hrun : unprotectPage layout vtp map address t = .next t') : t'.ReservedZero := by
  obtain ⟨r, -, hrun⟩ := Outcome.exists_of_bind_eq_next hrun
  obtain ⟨k, -, hrun⟩ := Outcome.exists_of_bind_eq_next hrun
  obtain rfl := Outcome.next.inj hrun
  exact h.setEptePermissions k _ _

/-- `protect_module` writes no reserved bit. -/
theorem Ept.ReservedZero.protectModule {base size : Word} (h : t.ReservedZero)
    (hrun : protectModule layout vtp map base size t = .next t') : t'.ReservedZero := by
  obtain ⟨eptIndex, hrun⟩ := protectPages_of_protectModule hrun
  exact forRangeM_of_next (P := fun _ (s : Ept × ℕ) => s.1.ReservedZero) h
    (fun _ _ _ _ hs hstep => hs.protectPage hstep) hrun

/-- `unprotect_guest_memory` writes no reserved bit. -/
theorem Ept.ReservedZero.unprotectGuestMemory (h : t.ReservedZero)
    (hrun : unprotectGuestMemory layout vtp map t = .next t') : t'.ReservedZero :=
  forRangeM_of_next (P := fun _ (t : Ept) => t.ReservedZero) h
    (fun _ _ _ _ ht hstep => ht.unprotectPage hstep) hrun

end Build

end Zpp.Hypervisor
