import ZppHypervisor.Hypervisor.HostPageTable
import ZppHypervisor.Hypervisor.Module
import ZppHypervisor.X64.Equiv.PageTable
import ZppHypervisor.X64.TableMemory

/-!
# The host page table against the OS translation

`initializeHostPageTable` runs in two phases.  `map_self` enters the object's own pages with frames
asked from the OS; from then on the table answers for its own tables as the OS does, which is the
bootstrapping invariant that `map_from` needs, and keeps, while it enters the pages of the module
(`mapped_initializeHostPageTable`).  The module is at most 1 GiB, so no two of its pages share a leaf
entry, although the object reuses one pdpt and two page directories for all addresses.

The translations of the table and of a processor reading it from physical memory are then read off
the four entries of a mapped page.
-/

namespace Zpp.Hypervisor

open X64 X64.PageTable Loop

/-! ### Pages and leaf entries -/

theorem get_pageOf {s : ℕ} (hs : s ∈ [12, 21, 30, 39]) (a : Word) :
    BitField.get s 0x1ff#64 (pageOf a) = BitField.get s 0x1ff#64 a := by
  have h := toNat_pageOf a
  rw [← BitVec.toNat_inj, toNat_get_index, toNat_get_index]
  simp only [List.mem_cons, List.not_mem_nil, or_false] at hs
  rcases hs with rfl | rfl | rfl | rfl <;> omega

/-- An address selects the same entries as its page. -/
theorem indices_pageOf (a : Word) :
    (VirtualAddress.mk (pageOf a)).pml4e = (VirtualAddress.mk a).pml4e ∧
    (VirtualAddress.mk (pageOf a)).pdpte = (VirtualAddress.mk a).pdpte ∧
    (VirtualAddress.mk (pageOf a)).pde = (VirtualAddress.mk a).pde ∧
    (VirtualAddress.mk (pageOf a)).pte = (VirtualAddress.mk a).pte :=
  ⟨get_pageOf (by decide) a, get_pageOf (by decide) a, get_pageOf (by decide) a,
    get_pageOf (by decide) a⟩

theorem pdIndex_pageOf (a : Word) : pdIndex ⟨pageOf a⟩ = pdIndex ⟨a⟩ := by
  rw [pdIndex, pdIndex, (indices_pageOf a).2.1]

theorem leaf_pageOf (t : PageTable) (a : Word) : t.leaf (pageOf a) = t.leaf a := by
  obtain ⟨-, -, hpde, hpte⟩ := indices_pageOf a
  rw [leaf, leaf, slot, slot, pdIndex_pageOf, hpde, hpte]

/-- Bits 29:12 tell the pages of a range of at most 1 GiB apart. -/
theorem slot_injOn {m : Module} (hsize : m.size.toNat ≤ 2 ^ 30) :
    Set.InjOn slot {p | m.HasPage p} := by
  rintro p ⟨hp, hp1, hp2⟩ q ⟨hq, hq1, hq2⟩ h
  have hpde := congrArg (fun x => x.2.1.val) h
  have hpte := congrArg (fun x => x.2.2.val) h
  simp only [slot, VirtualAddress.pde, VirtualAddress.pte, val_tableIndex_get] at hpde hpte
  rw [← BitVec.toNat_inj]
  omega

/-! ### The object within the module -/

theorem hasPage_table {m : Module} {object : Word} (h : m.Holds object PageTable.sizeOf)
    (T : Table) : m.HasPage (T.address object) := by
  rw [T.address_eq object]
  have := T.page_lt
  exact h.hasPage (by rw [PageTable.sizeOf]; omega) (by decide)

/-! ### Building the table -/

section Build

variable {m : Module} {object : Word} {os : Word → Word} {t : PageTable}

/-- A mapped page translates as `os` says. -/
theorem Mapped.virtualToPhysical {p : Word} (ht : t.WellFormed) (hp : Mapped object os t p)
    (haligned : p.toNat % 0x1000 = 0) (hframe : (os p).toNat % 0x1000 = 0)
    (hlt : (os p).toNat < 2 ^ 52) : t.virtualToPhysical p = os p := by
  have hoffset : (VirtualAddress.mk p).offset = 0#64 := by
    rw [VirtualAddress.offset, ← BitVec.toNat_inj, toNat_and_fff, haligned]
    rfl
  rw [virtualToPhysical_eq t ht, hp.pte.pageNumber, frame_roundTrip hframe hlt, hoffset,
    BitVec.add_zero]

/-- `map_from` maps the pages of the module with all permissions, provided the table already maps
its own tables. -/
theorem mapped_mapFrom (hsize : m.size.toNat ≤ 2 ^ 30) (hobject : m.Holds object PageTable.sizeOf)
    (hos : FrameMap m (2 ^ 52) os) (ht : t.WellFormed)
    (htables : ∀ T : Table, Mapped object os t (T.address object)) (protection : Protection)
    (hw : protection.has .write = true) (hx : protection.has .execute = true) :
    (mapFrom object t m.base m.size protection os).WellFormed ∧
    ∀ i < m.pages, Mapped object os (mapFrom object t m.base m.size protection os) (m.page i) ∧
      Executable (mapFrom object t m.base m.size protection os) (m.page i) := by
  have hinv : (mapFrom object t m.base m.size protection os).WellFormed ∧
      (∀ T : Table, Mapped object os (mapFrom object t m.base m.size protection os)
        (T.address object)) ∧
      ∀ i < m.pages, Mapped object os (mapFrom object t m.base m.size protection os) (m.page i) ∧
        Executable (mapFrom object t m.base m.size protection os) (m.page i) := by
    unfold mapFrom
    dsimp only
    rw [toNat_numberOfPages m.size_aligned (by omega), ← Module.toNat_pages]
    refine forRange_invariant
      (P := fun n t => t.WellFormed ∧ (∀ T : Table, Mapped object os t (T.address object)) ∧
        ∀ i < n, Mapped object os t (m.page i) ∧ Executable t (m.page i))
      ⟨ht, htables, fun i hi => absurd hi i.not_lt_zero⟩ ?_
    rintro n hn t ⟨ht, htables, hpages⟩
    -- The table answers for its own tables, so `map_page` enters the frames `os` gives.
    have hself : ∀ T : Table, t.virtualToPhysical (T.address object) = os (T.address object) := by
      intro T
      have hT := hasPage_table hobject T
      exact Mapped.virtualToPhysical ht (htables T) hT.1 (hos.aligned _ hT) (hos.lt _ hT)
    rw [show m.base + BitVec.ofNat 64 n * PageTable.pageSize = m.page n from rfl,
      mapPage_eq_mapPageFrom ht _ (hself .pdpt) (fun d => hself (.pds d))
        (fun d i => hself (.pts d i))]
    have hslot := slot_injOn hsize
    have hpage := Module.hasPage_page hn
    refine ⟨ht.mapPageFrom .., fun T => (htables T).mapPageFrom hw
      (hslot (hasPage_table hobject T) hpage), fun i hi => ?_⟩
    rcases Nat.lt_succ_iff_lt_or_eq.mp hi with hi | rfl
    · obtain ⟨hm, he⟩ := hpages i hi
      exact ⟨hm.mapPageFrom hw (hslot (Module.hasPage_page (hi.trans hn)) hpage),
        he.mapPageFrom _ hx⟩
    · exact ⟨mapped_mapPageFrom_self hw, executable_mapPageFrom_self _ hx⟩
  exact ⟨hinv.1, hinv.2.2⟩

/-- After `initialize_host_page_table` every page of the module is mapped as `os` maps it. -/
theorem mapped_initializeHostPageTable (hsize : m.size.toNat ≤ 2 ^ 30)
    (hobject : m.Holds object PageTable.sizeOf) (hos : FrameMap m (2 ^ 52) os) (guestCr3 : Word) :
    (initializeHostPageTable object m.base m.size guestCr3 os .empty).1.WellFormed ∧
    ∀ p, m.HasPage p →
      Mapped object os (initializeHostPageTable object m.base m.size guestCr3 os .empty).1 p ∧
      Executable (initializeHostPageTable object m.base m.size guestCr3 os .empty).1 p := by
  obtain ⟨ht, htables⟩ := mapped_mapSelf object os wellFormed_empty
    ((slot_injOn hsize).mono fun p ⟨k, hk, hp⟩ =>
      hp ▸ hobject.hasPage (by rw [PageTable.sizeOf]; omega) (by decide))
  obtain ⟨ht', hpages⟩ := mapped_mapFrom hsize hobject hos ht htables
    (Protection.read ||| Protection.write ||| Protection.execute) (by decide) (by decide)
  refine ⟨ht', fun p hp => ?_⟩
  obtain ⟨i, hi, rfl⟩ := hp.exists_page
  exact hpages i hi

end Build

/-! ### Reading the table -/

/-- Physical memory holds the tables of the object at the frames `os` gives them. -/
def InMemory (phys : ByteMemory 64) (os : Word → Word) (object : Word) (t : PageTable) : Prop :=
  ∀ T : Table, HoldsTable phys (os (T.address object)) fun i => (T.entries t i).value

/-- Some memory holds the tables: the OS gives them distinct frames. -/
theorem exists_inMemory {m : Module} {object : Word} {os : Word → Word}
    (hobject : m.Holds object PageTable.sizeOf) (hos : FrameMap m (2 ^ 52) os) (t : PageTable) :
    ∃ phys, InMemory phys os object t := by
  refine exists_holdsTable (fun T : Table => os (T.address object)) _
    (fun T => hos.aligned _ (hasPage_table hobject T)) fun T T' h => ?_
  have haddress := hos.injOn (hasPage_table hobject T) (hasPage_table hobject T') h
  rw [T.address_eq object, T'.address_eq object] at haddress
  have hT := T.page_lt
  have hT' := T'.page_lt
  exact Table.page_injective (hobject.page_injOn (by rw [PageTable.sizeOf]; omega)
    (by rw [PageTable.sizeOf]; omega) haddress)

section Read

variable {m : Module} {object : Word} {os : Word → Word} {t : PageTable} {phys : ByteMemory 64}

/-- An entry that points to a page-aligned frame below 2^52 holds exactly that address. -/
theorem tableAddress_of_pointsTo {e : Pte} {f : Word} (he : PointsTo e f)
    (haligned : f.toNat % 0x1000 = 0) (hlt : f.toNat < 2 ^ 52) : tableAddress e.value = f := by
  rw [tableAddress_eq, he.pageNumber, frame_roundTrip haligned hlt]

/-- A frame with flags in its low 12 bits is found again once these are cleared. -/
theorem tableAddress_or_flags {f flags : Word} (haligned : f.toNat % 0x1000 = 0)
    (hlt : f.toNat < 2 ^ 52) :
    tableAddress ((f ||| (flags &&& 0xfff#64)) &&& ~~~0xfff#64) = f := by
  have hclear : (f ||| (flags &&& 0xfff#64)) &&& ~~~0xfff#64 = f &&& ~~~0xfff#64 := by
    have hzero : 0xfff#64 &&& ~~~0xfff#64 = 0#64 := by decide
    rw [BitVec.and_comm, BitVec.and_or_distrib_left, BitVec.and_comm, BitVec.and_comm _ (flags &&& _),
      BitVec.and_assoc, hzero, BitVec.and_zero, BitVec.or_zero]
  have hmask : ~~~0xfff#64 &&& 0x000ffffffffff000#64 = 0x000ffffffffff000#64 := by decide
  rw [hclear, tableAddress, BitVec.and_assoc, hmask]
  exact (tableAddress_eq f).trans (frame_roundTrip haligned hlt)

theorem presentEntry_eq {s : ℕ} {a : Word} (hphys : InMemory phys os object t) (T : Table)
    (hpresent : (T.entries t (tableIndex (BitField.get s 0x1ff#64 a))).present = true) :
    presentEntry phys (os (T.address object)) (BitField.get s 0x1ff#64 a) =
      some (T.entries t (tableIndex (BitField.get s 0x1ff#64 a))) := by
  have hlt := toNat_tableIndex_lt s a
  have hindex : tableIndex (BitField.get s 0x1ff#64 a) = ⟨_, hlt⟩ := by
    rw [tableIndex, Fin.ext_iff, Fin.val_ofNat, Nat.mod_eq_of_lt hlt]
  rw [presentEntry_eq_some, hindex]
  refine ⟨?_, hindex ▸ hpresent⟩
  rw [tableEntry, hphys T _ hlt]

/-- The processor's walk of a mapped page reads the object's four entries for it. -/
theorem hardwareWalk_of_mapped {cr3 a : Word} (hobject : m.Holds object PageTable.sizeOf)
    (hos : FrameMap m (2 ^ 52) os) (ht : t.WellFormed) (hphys : InMemory phys os object t)
    (hcr3 : tableAddress cr3 = os (pml4Address object)) (ha : Mapped object os t (pageOf a))
    (hx : Executable t (pageOf a)) :
    ∃ w, hardwareWalk phys cr3 a = some w ∧ w.physical = t.virtualToPhysical a ∧
      w.entries.length = 4 ∧
      ∀ e ∈ w.entries, e.present = true ∧ e.write = true ∧ e.executeDisable = false := by
  obtain ⟨hpml4e, hpdpte, hpde, hpte⟩ := ha
  obtain ⟨i1, i2, i3, -⟩ := indices_pageOf a
  rw [i1] at hpml4e
  rw [i2, pdIndex_pageOf] at hpdpte
  rw [i3, pdIndex_pageOf] at hpde
  rw [leaf_pageOf] at hpte
  rw [Executable, leaf_pageOf] at hx
  have hnext : ∀ (T : Table) (e : Pte), PointsTo e (os (T.address object)) →
      tableAddress e.value = os (T.address object) := fun T e he =>
    tableAddress_of_pointsTo he (hos.aligned _ (hasPage_table hobject T))
      (hos.lt _ (hasPage_table hobject T))
  -- Each entry read is the object's, and it holds the address of the next table.
  have e1 := presentEntry_eq hphys .pml4 hpml4e.present
  have e2 := presentEntry_eq hphys .pdpt hpdpte.present
  have e3 := presentEntry_eq hphys (.pds (pdIndex ⟨a⟩)) hpde.present
  have e4 := presentEntry_eq hphys
    (.pts (pdIndex ⟨a⟩) (tableIndex (VirtualAddress.mk a).pde)) hpte.present
  rw [Table.address, ← hcr3] at e1
  rw [← hnext .pdpt _ hpml4e] at e2
  rw [← hnext (.pds _) _ hpdpte] at e3
  rw [← hnext (.pts _ _) _ hpde] at e4
  refine ⟨_, hardwareWalk_eq_page4K e1 e2 (ht.pdpt _).1 e3 (ht.pds _ _).1 e4, ?_, rfl, ?_⟩
  · rw [virtualToPhysical_eq t ht]
    exact (leafAddress_eq_frameAddress_4K (t.leaf a) a).symm
  · intro e he
    simp only [List.mem_cons, List.not_mem_nil, or_false] at he
    rcases he with rfl | rfl | rfl | rfl
    · exact ⟨hpml4e.present, hpml4e.write, ht.pml4 _⟩
    · exact ⟨hpdpte.present, hpdpte.write, (ht.pdpt _).2⟩
    · exact ⟨hpde.present, hpde.write, (ht.pds _ _).2⟩
    · exact ⟨hpte.present, hpte.write, hx⟩

end Read

/-- The host page table translates the addresses of the module as `os` does. -/
theorem virtualToPhysical_initializeHostPageTable {m : Module} {object : Word} {os : Word → Word}
    (hsize : m.size.toNat ≤ 2 ^ 30) (hobject : m.Holds object PageTable.sizeOf)
    (hos : FrameMap m (2 ^ 52) os) (guestCr3 : Word) {a : Word} (ha : m.Contains a) :
    (initializeHostPageTable object m.base m.size guestCr3 os .empty).1.virtualToPhysical a =
      os a := by
  obtain ⟨ht, hmapped⟩ := mapped_initializeHostPageTable hsize hobject hos guestCr3
  have hpage := ha.hasPage
  rw [virtualToPhysical_eq _ ht, ← leaf_pageOf, (hmapped _ hpage).1.pte.pageNumber,
    frame_roundTrip (hos.aligned _ hpage) (hos.lt _ hpage), hos.add_offset a ha]
  rfl

/-- **The host page table agrees with the OS.**  On the module, the translations of the OS, of the
host page table and of a processor whose CR3 is the host CR3 are the same, and that processor may
read, write and execute there. -/
theorem initializeHostPageTable_translates {m : Module} {object guestCr3 : Word}
    {os : Word → Word} {phys : ByteMemory 64} {t : PageTable} {hostCr3 : Word}
    (hsize : m.size.toNat ≤ 2 ^ 30) (hobject : m.Holds object PageTable.sizeOf)
    (hos : FrameMap m (2 ^ 52) os)
    (hinit : initializeHostPageTable object m.base m.size guestCr3 os .empty = (t, hostCr3))
    (hphys : InMemory phys os object t) {a : Word} (ha : m.Contains a) :
    t.virtualToPhysical a = os a ∧
    ∃ w, hardwareWalk phys (hostCr3 &&& ~~~0xfff#64) a = some w ∧ w.physical = os a ∧
      w.entries.length = 4 ∧
      ∀ e ∈ w.entries, e.present = true ∧ e.write = true ∧ e.executeDisable = false := by
  obtain ⟨ht, hmapped⟩ := mapped_initializeHostPageTable hsize hobject hos guestCr3
  have hcr3 : t.virtualToPhysical (pml4Address object) ||| (guestCr3 &&& 0xfff#64) = hostCr3 := by
    obtain ⟨ht, hcr3⟩ := Prod.mk.inj hinit
    rw [← hcr3, ht]
  rw [hinit] at ht hmapped
  obtain ⟨hmap, hexec⟩ := hmapped _ ha.hasPage
  have hsoft := virtualToPhysical_initializeHostPageTable hsize hobject hos guestCr3 ha
  rw [hinit] at hsoft
  have hpml4 : t.virtualToPhysical (pml4Address object) = os (pml4Address object) := by
    have hT := hasPage_table hobject .pml4
    exact Mapped.virtualToPhysical ht (hmapped _ hT).1 hT.1 (hos.aligned _ hT) (hos.lt _ hT)
  have hroot : tableAddress (hostCr3 &&& ~~~0xfff#64) = os (pml4Address object) := by
    have hT := hasPage_table hobject .pml4
    rw [← hcr3, hpml4]
    exact tableAddress_or_flags (hos.aligned _ hT) (hos.lt _ hT)
  obtain ⟨w, hw, hphysical, hentries⟩ :=
    hardwareWalk_of_mapped hobject hos ht hphys hroot hmap hexec
  exact ⟨hsoft, w, hw, hphysical.trans hsoft, hentries⟩

/-- A module of 1028 pages at 4 MiB that is nothing but the object. -/
def objectModule : Module where
  base := 0x400000#64
  size := 0x404000#64
  base_aligned := by decide
  size_aligned := by decide
  no_wrap := by decide

theorem initializeHostPageTable_translates_objectModule :
    ∃ (phys : ByteMemory 64) (t : PageTable) (hostCr3 : Word),
      t.virtualToPhysical 0x400abc#64 = 0x400abc#64 ∧
      ∃ w, hardwareWalk phys (hostCr3 &&& ~~~0xfff#64) 0x400abc#64 = some w ∧
        w.physical = 0x400abc#64 ∧ w.entries.length = 4 ∧
        ∀ e ∈ w.entries, e.present = true ∧ e.write = true ∧ e.executeDisable = false := by
  have hobject : objectModule.Holds 0x400000#64 PageTable.sizeOf := ⟨by decide, by decide, by decide⟩
  have hos : FrameMap objectModule (2 ^ 52) id := frameMap_id objectModule (by decide)
  set r := initializeHostPageTable 0x400000#64 objectModule.base objectModule.size 0x7#64 id .empty
    with hr
  obtain ⟨phys, hphys⟩ := exists_inMemory hobject hos r.1
  have hinit : initializeHostPageTable 0x400000#64 objectModule.base objectModule.size 0x7#64 id
      .empty = (r.1, r.2) := by rw [← hr]
  have ha : objectModule.Contains 0x400abc#64 := by decide
  exact ⟨phys, r.1, r.2, initializeHostPageTable_translates (by decide) hobject hos hinit hphys ha⟩

end Zpp.Hypervisor
