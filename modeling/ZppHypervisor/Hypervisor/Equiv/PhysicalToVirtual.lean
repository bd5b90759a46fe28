import ZppHypervisor.Equiv.SmallMap
import ZppHypervisor.Hypervisor.Equiv.HostPageTable
import ZppHypervisor.Hypervisor.Module
import ZppHypervisor.Hypervisor.PhysicalToVirtual

/-!
# The physical-to-virtual map inverts the host page table on the module
-/

namespace Zpp.Hypervisor

open X64 Loop SortedAssoc

theorem strictWeakOrder_less : StrictWeakOrder less where
  irrefl a := decide_eq_false (Nat.lt_irrefl _)
  trans a b c hab hbc := by
    simp only [less, BitVec.ult, decide_eq_true_eq] at *
    omega
  incomp_trans a b c hab hba hbc hcb := by
    simp only [less, BitVec.ult, decide_eq_false_iff_not] at *
    omega

theorem equivalent_less_iff (a b : Word) : Equivalent less a b = true ↔ a = b := by
  rw [StrictWeakOrder.equivalent_iff]
  simp only [less, BitVec.ult, decide_eq_false_iff_not, ← BitVec.toNat_inj]
  omega

/-- The map holds one pair for each of the first `n` pages of the module: its frame and itself. -/
structure InvertsPages {capacity : ℕ} (m : Module) (vtp : Word → Word) (n : ℕ)
    (map : PhysicalToVirtual capacity) (l : List (Word × Word)) : Prop where
  represents : map.Represents less l
  length : l.length = n
  lookup : ∀ i < n, SortedAssoc.lookup less (vtp (m.page i)) l = some (vtp (m.page i), m.page i)
  lookup_none : ∀ pa, (∀ i < n, vtp (m.page i) ≠ pa) → SortedAssoc.lookup less pa l = none

variable {capacity : ℕ} {m : Module} {vtp : Word → Word} {bound : ℕ}

/-- Page numbers are determined by the frames. -/
theorem page_inj (hvtp : Set.InjOn vtp {p | m.HasPage p}) {i j : ℕ} (hi : i < m.pages)
    (hj : j < m.pages) (h : vtp (m.page i) = vtp (m.page j)) : i = j := by
  have hpage := hvtp (Module.hasPage_page hi) (Module.hasPage_page hj) h
  have hnum := congrArg BitVec.toNat hpage
  rw [Module.toNat_page hi, Module.toNat_page hj] at hnum
  omega

/-- Emplacing the next page. -/
theorem InvertsPages.emplace (hvtp : Set.InjOn vtp {p | m.HasPage p}) {n : ℕ} (hn : n < m.pages)
    (hcapacity : m.pages < capacity) {map : PhysicalToVirtual capacity} {l : List (Word × Word)}
    (h : InvertsPages m vtp n map l) :
    ∃ map' l', map.emplace less (vtp (m.page n)) (m.page n) = some map' ∧
      InvertsPages m vtp (n + 1) map' l' := by
  have hnew : SortedAssoc.lookup less (vtp (m.page n)) l = none :=
    h.lookup_none _ fun i hi heq => Nat.ne_of_lt hi (page_inj hvtp (hi.trans hn) hn heq)
  obtain ⟨map', hemplace, hmap'⟩ := h.represents.emplace_spec strictWeakOrder_less
    (vtp (m.page n)) (m.page n) (Or.inl (by rw [h.length]; omega))
  have hlookup := lookup_insert strictWeakOrder_less h.represents.sorted (vtp (m.page n)) (m.page n)
  refine ⟨map', _, hemplace, hmap', ?_, fun i hi => ?_, fun pa hpa => ?_⟩
  · rw [length_insert strictWeakOrder_less h.represents.sorted, hnew, h.length]
    rfl
  · rw [hlookup]
    rcases Nat.lt_succ_iff_lt_or_eq.mp hi with hlt | rfl
    · rw [if_neg, h.lookup i hlt]
      rw [equivalent_less_iff]
      exact fun heq => Nat.ne_of_gt hlt (page_inj hvtp hn (hlt.trans hn) heq)
    · rw [if_pos ((equivalent_less_iff _ _).mpr rfl)]
  · rw [hlookup, if_neg, h.lookup_none pa fun i hi => hpa i (hi.trans n.lt_succ_self)]
    rw [equivalent_less_iff]
    exact hpa n n.lt_succ_self

/-- Every prefix of the loop: the map inverts the translation of the pages done. -/
theorem emplacePages_spec (hvtp : Set.InjOn vtp {p | m.HasPage p}) (hcapacity : m.pages < capacity)
    {n : ℕ} (hn : n ≤ m.pages) :
    ∃ map l, emplacePages vtp m.base n (SmallMap.empty : PhysicalToVirtual capacity) = .next map ∧
      InvertsPages m vtp n map l := by
  induction n with
  | zero =>
    exact ⟨_, [], rfl, SmallMap.represents_empty, rfl, fun i hi => absurd hi i.not_lt_zero,
      fun _ _ => rfl⟩
  | succ n ih =>
    obtain ⟨map, l, hrun, hl⟩ := ih (Nat.le_of_succ_le hn)
    obtain ⟨map', l', hemplace, hl'⟩ := hl.emplace hvtp hn hcapacity
    refine ⟨map', l', ?_, hl'⟩
    have hpage : m.base + pageSize * BitVec.ofNat 64 n = m.page n := by
      rw [BitVec.mul_comm pageSize]
      rfl
    rw [emplacePages] at hrun ⊢
    rw [forRangeM, hrun, Outcome.next_bind]
    dsimp only
    rw [hpage, hemplace]
    rfl

theorem fillModulePhysicalToVirtual_of_lt (h : m.pages < capacity)
    {map : PhysicalToVirtual capacity} :
    fillModulePhysicalToVirtual vtp m.base m.size map = emplacePages vtp m.base m.pages map :=
  if_neg (not_le.mpr h)

theorem fillModulePhysicalToVirtual_of_le (h : capacity ≤ m.pages)
    {map : PhysicalToVirtual capacity} :
    fillModulePhysicalToVirtual vtp m.base m.size map =
      .returned (.physicalToVirtualCapacityError, map) :=
  if_pos h

theorem initializeModulePhysicalToVirtual_eq (moduleBase moduleSize : Word)
    (map : PhysicalToVirtual capacity) :
    initializeModulePhysicalToVirtual vtp moduleBase moduleSize map =
      (fillModulePhysicalToVirtual vtp moduleBase moduleSize map).mapReturned Prod.fst := by
  unfold initializeModulePhysicalToVirtual fillModulePhysicalToVirtual
  dsimp only
  split_ifs
  · rfl
  · rw [emplacePages, mapReturned_forRangeM]
    exact fun i s => Outcome.mapReturned_ofOption _ _

/-- `initialize_module_physical_to_virtual` is defined, and unless it reports an error the map
inverts the translation of all pages of the module. -/
theorem initializeModulePhysicalToVirtual_spec (hvtp : FrameMap m bound vtp) :
    (initializeModulePhysicalToVirtual vtp m.base m.size
      (SmallMap.empty : PhysicalToVirtual capacity)).Ensures
      (fun map => m.pages < capacity ∧ ∃ l, InvertsPages m vtp m.pages map l)
      (fun error => error = .physicalToVirtualCapacityError ∧ capacity ≤ m.pages) := by
  rw [initializeModulePhysicalToVirtual_eq]
  by_cases h : m.pages < capacity
  · obtain ⟨map, l, hrun, hl⟩ := emplacePages_spec hvtp.injOn h le_rfl
    rw [fillModulePhysicalToVirtual_of_lt h, hrun]
    exact ⟨h, l, hl⟩
  · rw [fillModulePhysicalToVirtual_of_le (not_lt.mp h)]
    exact ⟨rfl, not_lt.mp h⟩

/-- Looking up the frame of a page finds the page. -/
theorem InvertsPages.find {map : PhysicalToVirtual capacity}
    {l : List (Word × Word)} (h : InvertsPages m vtp m.pages map l) {p : Word} (hp : m.HasPage p) :
    ∃ it, map.find less (vtp p) = some it ∧ map.value it = some (vtp p, p) := by
  obtain ⟨i, hi, rfl⟩ := hp.exists_page
  obtain ⟨it, hfind, hvalue, -⟩ := h.represents.find_spec strictWeakOrder_less (vtp (m.page i))
  exact ⟨it, hfind, hvalue.trans (h.lookup i hi)⟩

/-! ### The inverse law -/

/-- **The map inverts the host page table.**  If the function succeeds, the frame of every page of
the module is found with the page, no other address is found, and there is one entry for each page;
in every iteration the entries fit the storage.  If it reports the error, the map is as it was. -/
theorem fillModulePhysicalToVirtual_inverts {hostPageTable : PageTable}
    (hinj : Set.InjOn hostPageTable.virtualToPhysical {p | m.HasPage p}) :
    fillModulePhysicalToVirtual hostPageTable.virtualToPhysical m.base m.size
      (SmallMap.empty : PhysicalToVirtual capacity) ≠ .undefined ∧
    (∀ map : PhysicalToVirtual capacity, fillModulePhysicalToVirtual
        hostPageTable.virtualToPhysical m.base m.size .empty = .next map →
      (∀ p, m.HasPage p → ∃ it, map.find less (hostPageTable.virtualToPhysical p) = some it ∧
        map.value it = some (hostPageTable.virtualToPhysical p, p)) ∧
      (∀ pa, (∀ p, m.HasPage p → hostPageTable.virtualToPhysical p ≠ pa) →
        map.find less pa = some map.size) ∧
      map.size = m.size.toNat / 0x1000 ∧
      ∀ n ≤ m.pages, ∃ map' : PhysicalToVirtual capacity,
        emplacePages hostPageTable.virtualToPhysical m.base n .empty = .next map' ∧
        map'.size = n ∧ n ≤ capacity) ∧
    ∀ e (map : PhysicalToVirtual capacity), fillModulePhysicalToVirtual
        hostPageTable.virtualToPhysical m.base m.size .empty = .returned (e, map) →
      e = .physicalToVirtualCapacityError ∧ map = .empty := by
  by_cases hcapacity : m.pages < capacity
  · obtain ⟨map, l, hrun, hl⟩ := emplacePages_spec hinj hcapacity le_rfl
    rw [fillModulePhysicalToVirtual_of_lt hcapacity, hrun]
    refine ⟨fun heq => (by cases heq), fun map' heq => ?_, fun e map' heq => (by cases heq)⟩
    obtain rfl := Outcome.next.inj heq
    refine ⟨fun p hp => hl.find hp, fun pa hpa => ?_, ?_, fun n hn => ?_⟩
    · obtain ⟨it, hfind, -, hend⟩ := hl.represents.find_spec strictWeakOrder_less pa
      rw [hfind, hend.mp (hl.lookup_none pa fun i hi => hpa _ (Module.hasPage_page hi))]
    · rw [hl.represents.size, hl.length, Module.toNat_pages]
    · obtain ⟨map', l', hrun', hl'⟩ := emplacePages_spec hinj hcapacity hn
      exact ⟨map', hrun', hl'.represents.size.trans hl'.length, hn.trans hcapacity.le⟩
  · rw [fillModulePhysicalToVirtual_of_le (not_lt.mp hcapacity)]
    refine ⟨fun heq => (by cases heq), fun map heq => (by cases heq), fun e map heq => ?_⟩
    obtain ⟨rfl, rfl⟩ := Prod.mk.inj (Outcome.returned.inj heq)
    exact ⟨rfl, rfl⟩

theorem fillModulePhysicalToVirtual_inverts_objectModule :
    ∃ (t : PageTable) (map : PhysicalToVirtual (maxModuleSize / 0x1000)) (it : ℕ),
      fillModulePhysicalToVirtual t.virtualToPhysical objectModule.base objectModule.size .empty =
        .next map ∧
      map.find less (t.virtualToPhysical 0x401000#64) = some it ∧
      map.value it = some (t.virtualToPhysical 0x401000#64, 0x401000#64) := by
  have hos : FrameMap objectModule (2 ^ 52) id := frameMap_id objectModule (by decide)
  obtain ⟨t, hinj⟩ : ∃ t : PageTable,
      Set.InjOn t.virtualToPhysical {p | objectModule.HasPage p} := by
    refine ⟨(initializeHostPageTable 0x400000#64 objectModule.base objectModule.size 0x7#64 id
      .empty).1, hos.injOn.congr fun p hp => ?_⟩
    exact (virtualToPhysical_initializeHostPageTable (by decide)
      ⟨by decide, by decide, by decide⟩ hos 0x7#64 hp.2).symm
  have hpages : objectModule.pages < maxModuleSize / 0x1000 := by decide
  obtain ⟨map, -, hrun, -⟩ := emplacePages_spec hinj hpages le_rfl
  have hfill := (fillModulePhysicalToVirtual_of_lt hpages).trans hrun
  obtain ⟨it, hfind, hvalue⟩ :=
    ((fillModulePhysicalToVirtual_inverts hinj).2.1 map hfill).1 0x401000#64 (by decide)
  exact ⟨t, map, it, hfill, hfind, hvalue⟩

end Zpp.Hypervisor
