import ZppHypervisor.Hypervisor.Equiv.ProtectModule
import ZppHypervisor.X64.Intel.EptWalk

/-!
# The guest cannot reach the module, and everything else is as without the hypervisor

The processor's EPT walk is read off `EptInv`: for an address below 512 GiB it goes through the one
epml4e and the epdpte in use, and ends in the epde or in the table the large page owns.  Its address
is the guest-physical address itself and its type the one chosen by `initialize_ept`
(`ept_transparent`); the permissions are those of the last entry (`ept_isolates`).
-/

namespace Zpp.Hypervisor

open X64 X64.Intel Loop

/-- Physical memory holds the four tables at the frames of their pages. -/
structure EptInMemory (phys : ByteMemory 64) (vtp : Word → Word) (layout : EptLayout) (t : Ept) :
    Prop where
  epml4 : HoldsTable phys (vtp layout.epml4) fun i => (t.epml4 i).value
  epdpt : HoldsTable phys (vtp layout.epdpt) fun i => (t.epdpt i).value
  epd : ∀ d, HoldsTable phys (vtp (layout.epd d)) fun i => (t.epd d i).value
  ept : ∀ k, HoldsTable phys (vtp (layout.ept k)) fun i => (t.ept k i).value

/-! ### Entries -/

section Entries

variable {phys : ByteMemory 64} {m : Module} {layout : EptLayout} {vtp : Word → Word}

theorem hasPage_epdpt (htables : m.Holds layout.epml4 EptLayout.tablesSize) :
    m.HasPage layout.epdpt :=
  htables.hasPage (k := 1) (by decide) (by decide)

theorem EptLayout.epd_eq (layout : EptLayout) (d : Fin 512) :
    layout.epd d = layout.epml4 + BitVec.ofNat 64 (2 + d) * 0x1000#64 := by
  have hepd : BitVec.ofNat 64 2 * 0x1000#64 = 0x2000#64 := by decide
  rw [EptLayout.epd, BitVec.mul_comm, BitVec.ofNat_add, BitVec.add_mul, ← BitVec.add_assoc, hepd]

theorem hasPage_epd (htables : m.Holds layout.epml4 EptLayout.tablesSize) (d : Fin 512) :
    m.HasPage (layout.epd d) := by
  have hd := d.isLt
  rw [layout.epd_eq]
  exact htables.hasPage (by rw [EptLayout.tablesSize]; omega) (by decide)

/-- Reading entry `i` of a table in memory. -/
theorem epteAt_eq {frame : Word} {table : Fin 512 → Epte}
    (h : HoldsTable phys frame fun i => (table i).value) {index : Word} {i : Fin 512}
    (hi : index.toNat = i.val) : epteAt phys frame index = table i := by
  have hlt : index.toNat < 512 := hi ▸ i.isLt
  have hindex : (⟨index.toNat, hlt⟩ : Fin 512) = i := Fin.ext hi
  rw [epteAt, h index hlt, hindex]

theorem presentEpte_eq {frame : Word} {table : Fin 512 → Epte}
    (h : HoldsTable phys frame fun i => (table i).value) {index : Word} {i : Fin 512}
    (hi : index.toNat = i.val) (hpresent : (table i).HasPermissions true) :
    presentEpte phys frame index = some (table i) := by
  have hp : (table i).present = true := by
    rw [Epte.present, hpresent.1]
    rfl
  rw [presentEpte, epteAt_eq h hi, if_pos hp]

/-- An entry with the frame number of a page of the module holds the frame of that page. -/
theorem tableAddress_of_pageNumber (hvtp : FrameMap m (2 ^ 39) vtp) {p : Word} (hp : m.HasPage p)
    {e : Epte} (he : e.pageNumber = frameNumber (vtp p)) : tableAddress e.value = vtp p := by
  have hlt := hvtp.lt p hp
  have haddress : tableAddress e.value = e.pageNumber <<< 12 := tableAddress_eq e.value
  rw [haddress, he, frameNumber_shiftLeft (hvtp.aligned p hp) (by omega)]

theorem frameAddress_of_largePageNumber {e : Epte} {a : Word} (ha : a.toNat < 2 ^ 39)
    (he : e.largePageNumber = BitVec.ofNat 64 (largePage (region a))) :
    frameAddress 21 e.value a = a := by
  have hnumber := congrArg BitVec.toNat he
  rw [largePage_region ha, Epte.largePageNumber,
    show 0x7fffffff#64 = BitVec.ofNat 64 (2 ^ 31 - 1) by decide,
    BitField.toNat_get_low 21 31 _ (by decide), BitVec.toNat_ofNat] at hnumber
  rw [← BitVec.toNat_inj, toNat_frameAddress 21 (by decide)]
  omega

theorem frameAddress_of_pageNumber {e : Epte} {a : Word} (ha : a.toNat < 2 ^ 39)
    (he : e.pageNumber = BitVec.ofNat 64 (512 * largePage (region a) + Ept.eptIndex a)) :
    frameAddress 12 e.value a = a := by
  have hnumber := congrArg BitVec.toNat he
  rw [largePage_region ha, val_eptIndex, Epte.pageNumber,
    show 0xffffffffff#64 = BitVec.ofNat 64 (2 ^ 40 - 1) by decide,
    BitField.toNat_get_low 12 40 _ (by decide), BitVec.toNat_ofNat] at hnumber
  rw [← BitVec.toNat_inj, toNat_frameAddress 12 (by decide)]
  omega

end Entries

/-! ### The walk -/

section Walk

variable {phys : ByteMemory 64} {m : Module} {layout : EptLayout} {vtp : Word → Word}
  {type : Region → MemoryType} {owner : Region → Option (Fin eptCount)}
  {denied : Region → Fin 512 → Prop} {t : Ept}

/-- The walk of an address below 512 GiB. -/
theorem EptInv.eptWalk (h : EptInv layout vtp type owner denied t) (hvtp : FrameMap m (2 ^ 39) vtp)
    (htables : m.Holds layout.epml4 EptLayout.tablesSize) (hphys : EptInMemory phys vtp layout t)
    {a : Word} (ha : a.toNat < 2 ^ 39) :
    ∃ w upper, X64.Intel.eptWalk phys (vtp layout.epml4) a = some w ∧
      w.entries = upper ++ [w.leaf] ∧ (∀ e ∈ upper, e.HasPermissions true) ∧ w.physical = a ∧
      w.leaf.type = type (region a) ∧
      (denied (region a) (Ept.eptIndex a) → w.leaf.HasPermissions false) ∧
      (¬ denied (region a) (Ept.eptIndex a) → w.leaf.HasPermissions true) := by
  have i1 : (VirtualAddress.mk a).pml4e.toNat = (0 : Fin 512).val := by
    rw [VirtualAddress.pml4e, PageTable.toNat_get_index, Fin.val_zero]
    dsimp only
    omega
  have i2 : (VirtualAddress.mk a).pdpte.toNat = (region a).1.val := by
    rw [VirtualAddress.pdpte, PageTable.toNat_get_index, val_region_fst ha]
    dsimp only
    omega
  have i3 : (VirtualAddress.mk a).pde.toNat = (region a).2.val := by
    rw [VirtualAddress.pde, PageTable.toNat_get_index, val_region_snd]
  have i4 : (VirtualAddress.mk a).pte.toNat = (Ept.eptIndex a).val := by
    rw [VirtualAddress.pte, PageTable.toNat_get_index, val_eptIndex]
  obtain ⟨p1, n1⟩ := h.epml4
  obtain ⟨p2, l2, n2⟩ := h.epdpt (region a).1
  have p3 := h.epd (region a)
  have e1 := presentEpte_eq hphys.epml4 i1 p1
  have e2 := presentEpte_eq hphys.epdpt i2 p2
  have e3 := presentEpte_eq (hphys.epd (region a).1) i3 p3
  rw [← tableAddress_of_pageNumber hvtp (hasPage_epdpt htables) n1] at e2
  rw [← tableAddress_of_pageNumber hvtp (hasPage_epd htables _) n2] at e3
  cases ho : owner (region a) with
  | none =>
    obtain ⟨l3, n3, ht, hd⟩ := h.large _ ho
    refine ⟨_, [_, _], eptWalk_eq_page2M e1 e2 l2 e3 l3, rfl, ?_,
      frameAddress_of_largePageNumber ha n3, ht, fun hc => absurd hc (hd _), fun _ => p3⟩
    simp only [List.mem_cons, List.not_mem_nil, or_false, forall_eq_or_imp, forall_eq]
    exact ⟨p1, p2⟩
  | some k =>
    obtain ⟨l3, n3⟩ := h.split _ k ho
    obtain ⟨ht, n4, hdenied, hallowed⟩ := h.ept _ k ho (Ept.eptIndex a)
    have e4 := epteAt_eq (hphys.ept k) i4
    rw [← tableAddress_of_pageNumber hvtp (hasPage_ept htables k) n3] at e4
    refine ⟨_, [_, _, _], eptWalk_eq_page4K e1 e2 l2 e3 l3 e4, rfl, ?_,
      frameAddress_of_pageNumber ha n4, ht, hdenied, hallowed⟩
    simp only [List.mem_cons, List.not_mem_nil, or_false, forall_eq_or_imp, forall_eq]
    exact ⟨p1, p2, p3⟩

/-- No two epd entries refer to one table. -/
def NoSharedTable (t : Ept) : Prop :=
  ∀ r r' : Region, (t.epd r.1 r.2).large = false → (t.epd r'.1 r'.2).large = false →
    (t.epd r.1 r.2).pageNumber = (t.epd r'.1 r'.2).pageNumber → r = r'

theorem EptInv.exists_owner (h : EptInv layout vtp type owner denied t) {r : Region}
    (hr : (t.epd r.1 r.2).large = false) : ∃ k, owner r = some k := by
  refine Option.ne_none_iff_exists'.mp fun hnone => ?_
  rw [(h.large r hnone).1] at hr
  cases hr

theorem EptInv.noSharedTable (h : EptInv layout vtp type owner denied t)
    (hvtp : FrameMap m (2 ^ 39) vtp) (htables : m.Holds layout.epml4 EptLayout.tablesSize) :
    NoSharedTable t := by
  intro r r' hr hr' heq
  obtain ⟨k, hk⟩ := h.exists_owner hr
  obtain ⟨k', hk'⟩ := h.exists_owner hr'
  have hframe : vtp (layout.ept k) = vtp (layout.ept k') := by
    rw [← frameNumber_ept hvtp htables k, ← frameNumber_ept hvtp htables k', ← (h.split r k hk).2,
      ← (h.split r' k' hk').2, heq]
  have htable := hvtp.injOn (hasPage_ept htables k) (hasPage_ept htables k') hframe
  have hk_eq : k = k' := by
    rw [layout.ept_eq, layout.ept_eq] at htable
    have hlt : k.val < 1024 := k.isLt
    have hlt' : k'.val < 1024 := k'.isLt
    have hnum := htables.page_injOn (by rw [EptLayout.tablesSize]; omega)
      (by rw [EptLayout.tablesSize]; omega) htable
    exact Fin.ext (by omega)
  exact h.owner_injective r r' k hk (hk_eq ▸ hk')

end Walk

/-! ### The three functions in a row -/

/-- The page is one of the unprotected memory. -/
def InUnprotectedMemory (layout : EptLayout) (p : Word) : Prop :=
  ∃ i < unprotectedMemorySize / 0x1000, p = layout.unprotectedPage i

/-- The address lies in the frame of a page of the module outside the unprotected memory. -/
def InProtectedFrame (m : Module) (layout : EptLayout) (vtp : Word → Word) (a : Word) : Prop :=
  ∃ p, m.HasPage p ∧ ¬ InUnprotectedMemory layout p ∧ pageOf a = vtp p

section Main

variable {capacity : ℕ} {m : Module} {layout : EptLayout} {vtp : Word → Word}
  {map : PhysicalToVirtual capacity} {mtrrs : Vector Mtrr 8} {t₀ t₁ : Ept}

/-- The small pages still denied at the end are the protected frames. -/
theorem denied_iff (hvtp : FrameMap m (2 ^ 39) vtp)
    (hunprotected : m.Holds layout.unprotectedMemory unprotectedMemorySize) {a : Word}
    (ha : a.toNat < 2 ^ 39) :
    (Covers (pageFrame m vtp) m.pages (region a) (Ept.eptIndex a) ∧
      ¬ Covers (unprotectedFrame layout vtp) (unprotectedMemorySize / 0x1000) (region a)
        (Ept.eptIndex a)) ↔ InProtectedFrame m layout vtp a := by
  have hcoords : ∀ p, m.HasPage p →
      (region a = region (vtp p) ∧ Ept.eptIndex a = Ept.eptIndex (vtp p) ↔ pageOf a = vtp p) := by
    intro p hp
    have haligned : pageOf (vtp p) = vtp p := by
      have h := hvtp.aligned p hp
      rw [← BitVec.toNat_inj, toNat_pageOf]
      omega
    rw [← pageOf_eq_iff ha (hvtp.lt p hp), haligned]
  constructor
  · rintro ⟨⟨i, hi, h⟩, hnot⟩
    have hpage := Module.hasPage_page hi
    refine ⟨m.page i, hpage, fun ⟨j, hj, heq⟩ => hnot ⟨j, hj, ?_⟩, (hcoords _ hpage).mp h⟩
    rw [unprotectedFrame, ← heq]
    exact h
  · rintro ⟨p, hp, hnot, hframe⟩
    have hcoord := (hcoords p hp).mpr hframe
    obtain ⟨i, hi, rfl⟩ := hp.exists_page
    refine ⟨⟨i, hi, hcoord⟩, fun ⟨j, hj, hcover⟩ => hnot ⟨j, hj, ?_⟩⟩
    have hupage := hasPage_unprotectedPage hunprotected hj
    exact hvtp.injOn hp hupage (hframe.symm.trans ((hcoords _ hupage).mp hcover))

theorem protectPages_of_protectModule {base size : Word} {t : Ept}
    (h : protectModule layout vtp map base size t = .next t₁) :
    ∃ eptIndex, protectPages layout vtp map base (size / pageSize).toNat t = .next (t₁, eptIndex) := by
  rw [protectModule] at h
  cases hrun : protectPages layout vtp map base (size / pageSize).toNat t with
  | next s =>
    rw [hrun] at h
    exact ⟨s.2, congrArg _ (Prod.ext (Outcome.next.inj h) rfl)⟩
  | returned r =>
    rw [hrun] at h
    cases h
  | undefined =>
    rw [hrun] at h
    cases h

variable (hvtp : FrameMap m (2 ^ 39) vtp) (htables : m.Holds layout.epml4 EptLayout.tablesSize)
  (hunprotected : m.Holds layout.unprotectedMemory unprotectedMemorySize)
  (hmap : initializeModulePhysicalToVirtual vtp m.base m.size SmallMap.empty = .next map)
  (hprotect : protectModule layout vtp map m.base m.size (initializeEpt layout vtp mtrrs t₀) =
    .next t₁)

include hvtp htables hmap in
/-- The invariant holds after every iteration of `protect_module`. -/
theorem protectInv_of_prefix {n : ℕ} (hn : n ≤ m.pages) {s : Ept × ℕ}
    (hs : protectPages layout vtp map m.base n (initializeEpt layout vtp mtrrs t₀) = .next s) :
    ∃ owner, ProtectInv m layout vtp (initialType mtrrs) owner n s.1 s.2 := by
  obtain ⟨-, l, hl⟩ := (initializeModulePhysicalToVirtual_spec hvtp).of_next hmap
  have h := protectPages_spec hvtp htables hl (eptInv_initializeEpt layout vtp mtrrs t₀) hn
  exact h.of_next hs

include hvtp htables hmap hprotect in
theorem protectInv_of_protectModule :
    ∃ owner eptIndex, ProtectInv m layout vtp (initialType mtrrs) owner m.pages t₁ eptIndex := by
  obtain ⟨eptIndex, hrun⟩ := protectPages_of_protectModule hprotect
  obtain ⟨owner, h⟩ := protectInv_of_prefix hvtp htables hmap le_rfl hrun
  exact ⟨owner, eptIndex, h⟩

include hvtp htables hmap hunprotected in
/-- The invariant holds after every iteration of `unprotect_guest_memory`. -/
theorem eptInv_of_prefix {owner : Region → Option (Fin eptCount)} {eptIndex : ℕ}
    (ht : ProtectInv m layout vtp (initialType mtrrs) owner m.pages t₁ eptIndex) {n : ℕ}
    (hn : n ≤ unprotectedMemorySize / 0x1000) :
    ∃ t, unprotectPages layout vtp map n t₁ = .next t ∧
      EptInv layout vtp (initialType mtrrs) owner (fun r j =>
        Covers (pageFrame m vtp) m.pages r j ∧ ¬ Covers (unprotectedFrame layout vtp) n r j) t := by
  obtain ⟨-, l, hl⟩ := (initializeModulePhysicalToVirtual_spec hvtp).of_next hmap
  have h := unprotectPages_spec hvtp htables hl hunprotected ht hn
  cases hrun : unprotectPages layout vtp map n t₁ with
  | next t =>
    rw [hrun] at h
    exact ⟨t, rfl, h⟩
  | returned r =>
    rw [hrun] at h
    exact h.elim
  | undefined =>
    rw [hrun] at h
    exact h.elim

end Main

/-! ### When the functions succeed -/

section Success

variable {m : Module} {layout : EptLayout} {vtp : Word → Word}

/-- Frames below `N` times 2 MiB lie in at most `N` large pages. -/
theorem card_touchedRegions_le {N n : ℕ} (hN : N ≤ 2 ^ 18)
    (h : ∀ i < n, (vtp (m.page i)).toNat < N * 2 ^ 21) : (touchedRegions m vtp n).card ≤ N := by
  have hmaps : ∀ r ∈ touchedRegions m vtp n, largePage r ∈ Finset.range N := by
    intro r hr
    obtain ⟨i, hi, rfl⟩ := Finset.mem_image.mp hr
    have hlt := h i (Finset.mem_range.mp hi)
    rw [Finset.mem_range, largePage_region (by omega)]
    omega
  calc (touchedRegions m vtp n).card ≤ (Finset.range N).card :=
        Finset.card_le_card_of_injOn largePage hmaps largePage_injective.injOn
    _ = N := Finset.card_range N

/-- Both functions succeed for a module that fits the map and whose frames lie in fewer large pages
than there are tables. -/
theorem exists_protectModule {capacity : ℕ} (mtrrs : Vector Mtrr 8) (t₀ : Ept)
    (hvtp : FrameMap m (2 ^ 39) vtp) (htables : m.Holds layout.epml4 EptLayout.tablesSize)
    (hcapacity : m.pages < capacity) (hregions : (touchedRegions m vtp m.pages).card < eptCount) :
    ∃ (map : PhysicalToVirtual capacity) (t₁ : Ept),
      initializeModulePhysicalToVirtual vtp m.base m.size SmallMap.empty = .next map ∧
      protectModule layout vtp map m.base m.size (initializeEpt layout vtp mtrrs t₀) =
        .next t₁ := by
  have hmap := @initializeModulePhysicalToVirtual_spec capacity m vtp _ hvtp
  cases hinit : initializeModulePhysicalToVirtual vtp m.base m.size
      (SmallMap.empty : PhysicalToVirtual capacity) with
  | undefined => rw [hinit] at hmap; exact hmap.elim
  | returned e => rw [hinit] at hmap; exact absurd hmap.2 (not_le.mpr hcapacity)
  | next map =>
    rw [hinit] at hmap
    obtain ⟨-, l, hl⟩ := hmap
    have hrun := protectPages_spec hvtp htables hl (eptInv_initializeEpt layout vtp mtrrs t₀) le_rfl
    refine ⟨map, ?_⟩
    rw [protectModule, show (m.size / pageSize).toNat = m.pages from rfl]
    cases hprotect : protectPages layout vtp map m.base m.pages
        (initializeEpt layout vtp mtrrs t₀) with
    | undefined => rw [hprotect] at hrun; exact hrun.elim
    | returned e => rw [hprotect] at hrun; exact absurd hrun.2 (not_le.mpr hregions)
    | next s => exact ⟨s.1, rfl, rfl⟩

/-- Page `i` of the tables. -/
def tablePage (t : Ept) (i : Fin 1538) : Fin 512 → Epte :=
  if i.val = 0 then t.epml4
  else if i.val = 1 then t.epdpt
  else if i.val < 514 then t.epd (Fin.ofNat 512 (i - 2))
  else t.ept (Fin.ofNat eptCount (i - 514))

/-- Some memory holds the tables: they have distinct frames. -/
theorem exists_eptInMemory (hvtp : FrameMap m (2 ^ 39) vtp)
    (htables : m.Holds layout.epml4 EptLayout.tablesSize) (t : Ept) :
    ∃ phys, EptInMemory phys vtp layout t := by
  have hpage : ∀ i : Fin 1538, m.HasPage (layout.epml4 + BitVec.ofNat 64 i * 0x1000#64) := fun i =>
    htables.hasPage (by have := i.isLt; rw [EptLayout.tablesSize]; omega) (by decide)
  obtain ⟨phys, hphys⟩ := exists_holdsTable
    (fun i : Fin 1538 => vtp (layout.epml4 + BitVec.ofNat 64 i * 0x1000#64))
    (fun i j => (tablePage t i j).value) (fun i => hvtp.aligned _ (hpage i)) fun i i' heq => by
      have h := hvtp.injOn (hpage i) (hpage i') heq
      have := i.isLt
      have := i'.isLt
      exact Fin.ext (htables.page_injOn (by rw [EptLayout.tablesSize]; omega)
        (by rw [EptLayout.tablesSize]; omega) h)
  refine ⟨phys, ?_, hphys 1, fun d => ?_, fun k => ?_⟩
  · have h := hphys 0
    rwa [Fin.val_zero, BitVec.zero_mul, BitVec.add_zero] at h
  · have hd := d.isLt
    have h := hphys ⟨2 + d, by omega⟩
    have htable : tablePage t ⟨2 + d, by omega⟩ = t.epd d := by
      have hindex : Fin.ofNat 512 (2 + d.val - 2) = d := by
        rw [Fin.ext_iff, Fin.val_ofNat]
        omega
      rw [tablePage, if_neg (by simp), if_neg (by simp; omega), if_pos (by simp; omega), hindex]
    rwa [htable, ← layout.epd_eq] at h
  · have hk : k.val < 1024 := k.isLt
    have h := hphys ⟨514 + k, by omega⟩
    have htable : tablePage t ⟨514 + k, by omega⟩ = t.ept k := by
      have hindex : Fin.ofNat eptCount (514 + k.val - 514) = k := by
        rw [Fin.ext_iff, Fin.val_ofNat, Nat.add_sub_cancel_left]
        exact Nat.mod_eq_of_lt k.isLt
      rw [tablePage, if_neg (by simp), if_neg (by simp; omega), if_neg (by simp), hindex]
    rwa [htable, ← layout.ept_eq] at h

end Success

/-! ### The guest's view -/

section Main

variable {capacity : ℕ} {m : Module} {layout : EptLayout} {vtp : Word → Word}
  {map : PhysicalToVirtual capacity} {mtrrs : Vector Mtrr 8} {t₀ t₁ : Ept}

variable (hvtp : FrameMap m (2 ^ 39) vtp) (htables : m.Holds layout.epml4 EptLayout.tablesSize)
  (hunprotected : m.Holds layout.unprotectedMemory unprotectedMemorySize)
  (hmap : initializeModulePhysicalToVirtual vtp m.base m.size SmallMap.empty = .next map)
  (hprotect : protectModule layout vtp map m.base m.size (initializeEpt layout vtp mtrrs t₀) =
    .next t₁)

include hvtp htables hmap hunprotected hprotect in
/-- **EPT isolation.**  After the three functions the guest has no access to the frames of the module
outside the unprotected memory and every access to all other addresses; on the way, every lookup of
a table finds the one its epde refers to. -/
theorem ept_isolates :
    ∃ t₂, unprotectGuestMemory layout vtp map t₁ = .next t₂ ∧
    (∀ phys, EptInMemory phys vtp layout t₂ → ∀ a : Word, a.toNat < 2 ^ 39 →
      (InProtectedFrame m layout vtp a →
        eptAccess phys (vtp layout.epml4) a = ⟨false, false, false, false⟩) ∧
      (¬ InProtectedFrame m layout vtp a →
        eptAccess phys (vtp layout.epml4) a = ⟨true, true, true, true⟩)) ∧
    (∀ n < m.pages, ∀ s,
      protectPages layout vtp map m.base n (initializeEpt layout vtp mtrrs t₀) = .next s →
      (s.1.epd (region (vtp (m.page n))).1 (region (vtp (m.page n))).2).large = false →
      LookupHits layout vtp map s.1 (region (vtp (m.page n)))) ∧
    (∀ n < unprotectedMemorySize / 0x1000, ∀ t,
      unprotectPages layout vtp map n t₁ = .next t →
      LookupHits layout vtp map t (region (vtp (layout.unprotectedPage n)))) := by
  obtain ⟨owner, eptIndex, ht₁⟩ := protectInv_of_protectModule hvtp htables hmap hprotect
  obtain ⟨-, l, hl⟩ := (initializeModulePhysicalToVirtual_spec hvtp).of_next hmap
  obtain ⟨t₂, hrun, ht₂⟩ := eptInv_of_prefix hvtp htables hunprotected hmap ht₁ le_rfl
  refine ⟨t₂, hrun, fun phys hphys a ha => ?_, fun n hn s hs hlarge => ?_, fun n hn t ht => ?_⟩
  · obtain ⟨w, upper, hw, hentries, hupper, -, -, hdenied, hallowed⟩ :=
      ht₂.eptWalk hvtp htables hphys ha
    rw [denied_iff hvtp hunprotected ha] at hdenied hallowed
    exact ⟨fun h => eptAccess_eq hw hentries hupper (hdenied h),
      fun h => eptAccess_eq hw hentries hupper (hallowed h)⟩
  · obtain ⟨owner, hs⟩ := protectInv_of_prefix hvtp htables hmap hn.le hs
    obtain ⟨k, hk⟩ := hs.inv.exists_owner hlarge
    exact lookupHits_of_split hvtp htables hl hs.inv hk
  · obtain ⟨t', hrun', ht'⟩ := eptInv_of_prefix hvtp htables hunprotected hmap ht₁ hn.le
    obtain rfl := Outcome.next.inj (hrun'.symm.trans ht)
    obtain ⟨i, hi, heq⟩ := (hasPage_unprotectedPage hunprotected hn).exists_page
    have hmem : region (vtp (layout.unprotectedPage n)) ∈ touchedRegions m vtp m.pages :=
      Finset.mem_image.mpr ⟨i, Finset.mem_range.mpr hi, by rw [heq]⟩
    obtain ⟨k, hk⟩ := Option.ne_none_iff_exists'.mp ((ht₁.owned_iff _).mpr hmem)
    exact lookupHits_of_split hvtp htables hl ht' hk

include hvtp htables hmap hunprotected hprotect in
/-- **EPT transparency.**  After the three functions every address below 512 GiB is translated to
itself, with the memory type that `initialize_ept` had chosen for its large page, and no two epd
entries share a table at any time. -/
theorem ept_transparent :
    ∃ t₂, unprotectGuestMemory layout vtp map t₁ = .next t₂ ∧
    (∀ phys, EptInMemory phys vtp layout t₂ → ∀ a : Word, a.toNat < 2 ^ 39 →
      ∃ w, eptWalk phys (vtp layout.epml4) a = some w ∧ w.physical = a ∧
        w.leaf.type =
          ((initializeEpt layout vtp mtrrs t₀).epd (region a).1 (region a).2).type) ∧
    (∀ n ≤ m.pages, ∀ s,
      protectPages layout vtp map m.base n (initializeEpt layout vtp mtrrs t₀) = .next s →
      NoSharedTable s.1) ∧
    (∀ n ≤ unprotectedMemorySize / 0x1000, ∀ t, unprotectPages layout vtp map n t₁ = .next t →
      NoSharedTable t) := by
  obtain ⟨owner, eptIndex, ht₁⟩ := protectInv_of_protectModule hvtp htables hmap hprotect
  obtain ⟨t₂, hrun, ht₂⟩ := eptInv_of_prefix hvtp htables hunprotected hmap ht₁ le_rfl
  refine ⟨t₂, hrun, fun phys hphys a ha => ?_, fun n hn s hs => ?_, fun n hn t ht => ?_⟩
  · obtain ⟨w, upper, hw, -, -, hphysical, htype, -, -⟩ := ht₂.eptWalk hvtp htables hphys ha
    refine ⟨w, hw, hphysical, htype.trans ?_⟩
    rw [(initialized_initializeEpt layout vtp mtrrs t₀).epd]
    rfl
  · obtain ⟨owner, hs⟩ := protectInv_of_prefix hvtp htables hmap hn hs
    exact hs.inv.noSharedTable hvtp htables
  · obtain ⟨t', hrun', ht'⟩ := eptInv_of_prefix hvtp htables hunprotected hmap ht₁ hn
    obtain rfl := Outcome.next.inj (hrun'.symm.trans ht)
    exact ht'.noSharedTable hvtp htables

end Main

/-! ### A small module -/

/-- A module of 1795 pages at 1 MiB: the unprotected memory and behind it the tables. -/
def eptModule : Module where
  base := 0x100000#64
  size := 0x703000#64
  base_aligned := by decide
  size_aligned := by decide
  no_wrap := by decide

def eptModuleLayout : EptLayout := ⟨0x201000#64, 0x100000#64⟩

theorem eptModule_facts :
    FrameMap eptModule (2 ^ 39) id ∧
    eptModule.Holds eptModuleLayout.epml4 EptLayout.tablesSize ∧
    eptModule.Holds eptModuleLayout.unprotectedMemory unprotectedMemorySize ∧
    ∃ (map : PhysicalToVirtual (maxModuleSize / 0x1000)) (t₁ : Ept),
      initializeModulePhysicalToVirtual id eptModule.base eptModule.size SmallMap.empty =
        .next map ∧
      protectModule eptModuleLayout id map eptModule.base eptModule.size
        (initializeEpt eptModuleLayout id holeFirst .empty) = .next t₁ := by
  have hvtp : FrameMap eptModule (2 ^ 39) id := frameMap_id eptModule (by decide)
  have htables : eptModule.Holds eptModuleLayout.epml4 EptLayout.tablesSize :=
    ⟨by decide, by decide, by decide⟩
  refine ⟨hvtp, htables, ⟨by decide, by decide, by decide⟩, ?_⟩
  refine exists_protectModule holeFirst .empty hvtp htables (by decide) ?_
  refine lt_of_le_of_lt (card_touchedRegions_le (N := 5) (by decide) fun i hi => ?_) (by decide)
  have hpage := (Module.hasPage_page hi).2.2
  have hend : eptModule.base.toNat + eptModule.size.toNat = 0x803000 := by decide
  rw [id]
  omega

/-- The frame of the first table is out of the guest's reach, that of the unprotected memory is not. -/
theorem ept_isolates_eptModule :
    ∃ (t₂ : Ept) (phys : ByteMemory 64), EptInMemory phys id eptModuleLayout t₂ ∧
      eptAccess phys 0x201000#64 0x201abc#64 = ⟨false, false, false, false⟩ ∧
      eptAccess phys 0x201000#64 0x100abc#64 = ⟨true, true, true, true⟩ := by
  obtain ⟨hvtp, htables, hunprotected, map, t₁, hmap, hprotect⟩ := eptModule_facts
  obtain ⟨t₂, -, haccess, -, -⟩ := ept_isolates hvtp htables hunprotected hmap hprotect
  obtain ⟨phys, hphys⟩ := exists_eptInMemory hvtp htables t₂
  refine ⟨t₂, phys, hphys, (haccess phys hphys _ (by decide)).1 ?_,
    (haccess phys hphys _ (by decide)).2 ?_⟩
  · refine ⟨0x201000#64, by decide, ?_, by decide⟩
    rintro ⟨i, hi, heq⟩
    have hsize : unprotectedMemorySize = 0x101000 := by decide
    rw [hsize] at hi
    have hnum := congrArg BitVec.toNat heq
    rw [EptLayout.unprotectedPage, pageSize, hunprotected.toNat_page (by omega),
      show (0x201000#64).toNat = 0x201000 by decide,
      show eptModuleLayout.unprotectedMemory.toNat = 0x100000 by decide] at hnum
    omega
  · rintro ⟨p, -, hnot, hframe⟩
    refine hnot ⟨0, by decide, ?_⟩
    rw [id] at hframe
    rw [← hframe]
    decide

theorem ept_transparent_eptModule :
    ∃ (t₂ : Ept) (phys : ByteMemory 64) (w : EptWalk), EptInMemory phys id eptModuleLayout t₂ ∧
      eptWalk phys 0x201000#64 0x201abc#64 = some w ∧ w.physical = 0x201abc#64 := by
  obtain ⟨hvtp, htables, hunprotected, map, t₁, hmap, hprotect⟩ := eptModule_facts
  obtain ⟨t₂, -, hwalk, -, -⟩ := ept_transparent hvtp htables hunprotected hmap hprotect
  obtain ⟨phys, hphys⟩ := exists_eptInMemory hvtp htables t₂
  obtain ⟨w, hw, hphysical, -⟩ := hwalk phys hphys 0x201abc#64 (by decide)
  exact ⟨t₂, phys, w, hphys, hw, hphysical⟩

end Zpp.Hypervisor
