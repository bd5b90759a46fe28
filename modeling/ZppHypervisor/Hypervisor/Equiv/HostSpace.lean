import ZppHypervisor.Hypervisor.Equiv.GuestView
import ZppHypervisor.Hypervisor.Guests

/-!
# The address space of the host

While the pages of the tables have their bytes, so do the tables (`EptInMemory.congr`,
`InMemory.congr`), and the host finds every byte of its module where the OS does, and only there
(`Guarded.maps`).
-/

namespace Zpp.Hypervisor

open X64 X64.Intel ByteMemory

/-! ### Frames -/

section Frames

variable {m : Module} {bound : ℕ} {os : Word → Word}

theorem Module.Contains.exists_page {a : Word} (ha : m.Contains a) :
    ∃ i < m.pages, m.page i = pageOf a := ha.hasPage.exists_page

/-- An address of the module has its offset in a frame. -/
theorem FrameMap.toNat_eq (h : FrameMap m bound os) {a : Word} (ha : m.Contains a) :
    (os a).toNat = (os (pageOf a)).toNat + a.toNat % 0x1000 := by
  have haligned := h.aligned _ ha.hasPage
  have hlt := (os (pageOf a)).isLt
  rw [h.add_offset a ha, BitVec.toNat_add, toNat_and_fff]
  omega

theorem FrameMap.pageOf_eq (h : FrameMap m bound os) {a : Word} (ha : m.Contains a) :
    pageOf (os a) = os (pageOf a) := by
  have haligned := h.aligned _ ha.hasPage
  rw [← BitVec.toNat_inj, toNat_pageOf, h.toNat_eq ha]
  omega

theorem FrameMap.offset_eq (h : FrameMap m bound os) {a : Word} (ha : m.Contains a) :
    os a &&& 0xfff#64 = a &&& 0xfff#64 := by
  have haligned := h.aligned _ ha.hasPage
  rw [← BitVec.toNat_inj, toNat_and_fff, toNat_and_fff, h.toNat_eq ha]
  omega

/-- Different bytes of the module are different bytes of memory. -/
theorem FrameMap.injOn_contains (h : FrameMap m bound os) : Set.InjOn os {a | m.Contains a} := by
  intro a ha b hb heq
  have hpage : pageOf a = pageOf b := by
    refine h.injOn ha.hasPage hb.hasPage ?_
    rw [← h.pageOf_eq ha, heq, h.pageOf_eq hb]
  rw [← pageOf_add_offset a, ← pageOf_add_offset b, hpage, ← h.offset_eq ha, heq, h.offset_eq hb]

/-- An address of a page of the module. -/
theorem Module.HasPage.contains_add {p : Word} (hp : m.HasPage p) (a : Word) :
    m.Contains (p + (a &&& 0xfff#64)) := by
  obtain ⟨haligned, hlo, hhi⟩ := hp
  have hb := m.base_aligned
  have hs := m.size_aligned
  have hn := m.no_wrap
  have hoffset := toNat_and_fff a
  have hsum : (p + (a &&& 0xfff#64)).toNat = p.toNat + a.toNat % 0x1000 := by
    rw [BitVec.toNat_add, hoffset]
    omega
  constructor <;> omega

end Frames

/-! ### Tables -/

theorem holdsTable_congr {phys phys' : ByteMemory 64} {frame : Word} {table : Fin 512 → Word}
    (haligned : frame.toNat % 0x1000 = 0) (hphys : ∀ x, pageOf x = frame → phys' x = phys x)
    (h : HoldsTable phys frame table) : HoldsTable phys' frame table := by
  intro index hindex
  rw [← h index hindex]
  refine load_congr fun k hk => hphys _ ?_
  have hbyte := toNat_entryByte haligned hindex hk
  rw [← BitVec.toNat_inj, toNat_pageOf]
  omega

section Tables

variable {phys phys' : ByteMemory 64} {m : Module} {os : Word → Word}

theorem EptInMemory.congr {layout : EptLayout} {t : Ept} (hos : FrameMap m (2 ^ 39) os)
    (htables : m.Holds layout.epml4 EptLayout.tablesSize)
    (hphys : ∀ k, k * 0x1000 < EptLayout.tablesSize → ∀ x,
      pageOf x = os (layout.epml4 + BitVec.ofNat 64 k * 0x1000#64) → phys' x = phys x)
    (h : EptInMemory phys os layout t) : EptInMemory phys' os layout t := by
  have hkeep : ∀ {p : Word} {k : ℕ} {table : Fin 512 → Word}, k * 0x1000 < EptLayout.tablesSize →
      p = layout.epml4 + BitVec.ofNat 64 k * 0x1000#64 → HoldsTable phys (os p) table →
        HoldsTable phys' (os p) table := by
    rintro _ k table hk rfl htable
    exact holdsTable_congr (hos.aligned _ (htables.hasPage hk (by decide))) (hphys k hk) htable
  have hsize : EptLayout.tablesSize = 1538 * 0x1000 := rfl
  constructor
  · refine hkeep (k := 0) (by decide) ?_ h.epml4
    rw [BitVec.zero_mul, BitVec.add_zero]
  · exact hkeep (k := 1) (by decide) rfl h.epdpt
  · intro d
    have hd := d.isLt
    exact hkeep (k := 2 + d) (by omega) (layout.epd_eq d) (h.epd d)
  · intro k
    have hk : k.val < 1024 := k.isLt
    exact hkeep (k := 514 + k) (by omega) (layout.ept_eq k) (h.ept k)

theorem InMemory.congr {object : Word} {t : PageTable} (hos : FrameMap m (2 ^ 39) os)
    (hobject : m.Holds object PageTable.sizeOf)
    (hphys : ∀ k, k * 0x1000 < PageTable.sizeOf → ∀ x,
      pageOf x = os (object + BitVec.ofNat 64 k * 0x1000#64) → phys' x = phys x)
    (h : InMemory phys os object t) : InMemory phys' os object t := by
  intro T
  have hpage := T.page_lt
  have hsize : PageTable.sizeOf = 1028 * 0x1000 := rfl
  refine holdsTable_congr (hos.aligned _ (hasPage_table hobject T)) ?_ (h T)
  rw [T.address_eq object]
  exact hphys T.page (by omega)

end Tables

/-- The pages of the tables that processors walk. -/
def TablePage (layout : Layout) (p : Word) : Prop :=
  (∃ k, k * 0x1000 < EptLayout.tablesSize ∧ p = layout.ept.epml4 + BitVec.ofNat 64 k * 0x1000#64) ∨
    ∃ k, k * 0x1000 < PageTable.sizeOf ∧ p = layout.hostPageTable + BitVec.ofNat 64 k * 0x1000#64

/-! ### The address space -/

/-- The low bits of CR3 play no part in a walk. -/
theorem tableAddress_and_not (e : Word) : tableAddress (e &&& ~~~0xfff#64) = tableAddress e := by
  have hmask : ~~~0xfff#64 &&& 0x000ffffffffff000#64 = 0x000ffffffffff000#64 := by decide
  rw [tableAddress, BitVec.and_assoc, hmask]
  rfl

section Space

variable {phys : ByteMemory 64} {m : Module} {layout : Layout} {os : Word → Word} {guestCr3 : Word}
  {mtrrs : Vector Mtrr 8} {T : Tables}

/-- The host CR3: the frame of the root, and the flags of the guest. -/
theorem Guarded.hostCr3_eq (h : Guarded layout m os guestCr3 mtrrs T) (hsize : m.size.toNat ≤ 2 ^ 30)
    (hos : FrameMap m (2 ^ 39) os) (hobject : m.Holds layout.hostPageTable PageTable.sizeOf) :
    os (PageTable.pml4Address layout.hostPageTable) ||| (guestCr3 &&& 0xfff#64) = T.hostCr3 := by
  obtain ⟨-, hcr3⟩ := Prod.mk.inj h.host
  have hpml4 : m.HasPage (PageTable.pml4Address layout.hostPageTable) := hasPage_table hobject .pml4
  have htranslate := virtualToPhysical_initializeHostPageTable hsize hobject (hos.mono (by decide))
    guestCr3 hpml4.2
  rw [← hcr3, ← htranslate]
  rfl

/-- Under the host page tables the module is where the OS has it. -/
theorem Guarded.hardwareWalk (h : Guarded layout m os guestCr3 mtrrs T)
    (hsize : m.size.toNat ≤ 2 ^ 30) (hos : FrameMap m (2 ^ 39) os)
    (hobject : m.Holds layout.hostPageTable PageTable.sizeOf)
    (hphys : InMemory phys os layout.hostPageTable T.hostPageTable) {a : Word} (ha : m.Contains a) :
    (X64.hardwareWalk phys T.hostCr3 a).map (·.physical) = some (os a) := by
  have hframes : FrameMap m (2 ^ 52) os := hos.mono (by decide)
  have htable := congrArg Prod.fst h.host
  obtain ⟨ht, hmapped⟩ := mapped_initializeHostPageTable hsize hobject hframes guestCr3
  have hsoft := virtualToPhysical_initializeHostPageTable hsize hobject hframes guestCr3 ha
  rw [htable] at ht hmapped hsoft
  have hpml4 : m.HasPage (PageTable.pml4Address layout.hostPageTable) := hasPage_table hobject .pml4
  have hroot : tableAddress T.hostCr3 = os (PageTable.pml4Address layout.hostPageTable) := by
    rw [← tableAddress_and_not, ← h.hostCr3_eq hsize hos hobject]
    exact tableAddress_or_flags (hos.aligned _ hpml4) (hframes.lt _ hpml4)
  obtain ⟨hmap, hexec⟩ := hmapped _ ha.hasPage
  obtain ⟨w, hw, hphysical, -⟩ := hardwareWalk_of_mapped hobject hframes ht hphys hroot hmap hexec
  rw [hw, Option.map_some, hphysical, hsoft]

variable {ι : Type} {h : Host ι}

/-- What the processor finds on the module is what the inverse looks for. -/
theorem Host.maps_of_physical {bound : ℕ} (hos : FrameMap h.image bound os)
    (hwalk : ∀ a, h.image.Contains a → h.physical phys a = some (os a)) {a : Word}
    (ha : h.image.Contains a) : (h.space phys).Maps a (os a) := by
  refine ⟨hwalk a ha, ?_⟩
  have hmem : a ∈ (List.range h.image.pages).map fun i => h.image.page i + (os a &&& 0xfff#64) := by
    obtain ⟨i, hi, hpage⟩ := ha.exists_page
    refine List.mem_map.mpr ⟨i, List.mem_range.mpr hi, ?_⟩
    rw [hpage, hos.offset_eq ha, pageOf_add_offset]
  show ((List.range h.image.pages).map fun i => h.image.page i + (os a &&& 0xfff#64)).find?
    (fun b => decide (h.physical phys b = some (os a))) = some a
  cases hfind : ((List.range h.image.pages).map fun i => h.image.page i + (os a &&& 0xfff#64)).find?
      fun b => decide (h.physical phys b = some (os a)) with
  | none => exact absurd (hwalk a ha) (by simpa using List.find?_eq_none.mp hfind a hmem)
  | some b =>
    obtain ⟨i, hi, rfl⟩ := List.mem_map.mp (List.mem_of_find?_eq_some hfind)
    have hb := (Module.hasPage_page (List.mem_range.mp hi)).contains_add (os a)
    have hphysical : h.physical phys (h.image.page i + (os a &&& 0xfff#64)) = some (os a) := by
      simpa using List.find?_some hfind
    rw [hwalk _ hb, Option.some.injEq] at hphysical
    rw [hos.injOn_contains hb ha hphysical]

end Space

end Zpp.Hypervisor
