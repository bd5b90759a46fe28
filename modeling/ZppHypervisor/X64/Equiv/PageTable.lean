import ZppHypervisor.X64.PageTable
import ZppHypervisor.X64.Equiv.OsPageTable

/-!
# What `map_page` does to a `page_table`

The upper three levels of a `page_table` object only ever point to the object's own tables, so a
mapping made for one address can never spoil the upper levels of another; the leaf entry of an
address is fixed by its `slot`, address bits 29:12 and bit 38.  `Mapped t a` says that all four
entries of `a` are in place, and `mapped_mapPageFrom` that mapping a second page keeps this unless
the two pages share a slot.

`map_page` asks the half-built table itself for the frames of its tables.  Where the table already
maps these, the answers are those of the page table it was copied from
(`mapPage_eq_mapPageFrom`), which reduces `map_page` to the bootstrapping `self_map_from`.
-/

namespace Zpp.X64.PageTable

open Loop

/-! ### Indices as numbers -/

theorem toNat_get_index (s : ℕ) (x : Word) :
    (BitField.get s 0x1ff#64 x).toNat = x.toNat / 2 ^ s % 512 :=
  BitField.toNat_get_low s 9 x (by decide)

theorem val_tableIndex_get (s : ℕ) (x : Word) :
    (tableIndex (BitField.get s 0x1ff#64 x)).val = x.toNat / 2 ^ s % 512 := by
  rw [tableIndex, Fin.val_ofNat, toNat_get_index, Nat.mod_mod]

theorem val_pdIndex (a : Word) : (pdIndex ⟨a⟩).val = a.toNat / 2 ^ 30 % 512 / 256 := by
  rw [pdIndex, Fin.val_ofNat, BitVec.toNat_udiv, VirtualAddress.pdpte, toNat_get_index,
    show (512#64 / 2#64).toNat = 256 by decide]
  exact Nat.mod_eq_of_lt (by omega)

/-! ### Entries that point to a table -/

/-- The entry is present, writable and holds the frame of the physical address `physical`. -/
structure PointsTo (e : Pte) (physical : Word) : Prop where
  pageNumber : e.pageNumber = (physical >>> 12) &&& 0xffffffffff#64
  write : e.write = true
  present : e.present = true

theorem pointsTo_pointTo (e : Pte) (physical : Word) : PointsTo (pointTo e physical) physical := by
  constructor <;> simp [pointTo]

@[simp] theorem pointTo_flags (e : Pte) (physical : Word) :
    (pointTo e physical).large = e.large ∧
    (pointTo e physical).executeDisable = e.executeDisable := by
  simp [pointTo]

/-! ### Well-formed tables -/

/-- No upper-level entry maps a large page or is execute-disabled. -/
structure WellFormed (t : PageTable) : Prop where
  pml4 : ∀ i, (t.pml4 i).executeDisable = false
  pdpt : ∀ i, (t.pdpt i).large = false ∧ (t.pdpt i).executeDisable = false
  pds : ∀ d i, (t.pds d i).large = false ∧ (t.pds d i).executeDisable = false

theorem wellFormed_empty : WellFormed empty := by
  constructor <;> simp [empty]

/-- The page table entry an address selects: the page directory, the pde and the pte index. -/
def slot (a : Word) : Fin 2 × Fin 512 × Fin 512 :=
  (pdIndex ⟨a⟩, tableIndex (VirtualAddress.mk a).pde, tableIndex (VirtualAddress.mk a).pte)

/-- The leaf entry of an address. -/
def leaf (t : PageTable) (a : Word) : Pte := t.pts (slot a).1 (slot a).2.1 (slot a).2.2

theorem pageTableEntry_eq (t : PageTable) (ht : t.WellFormed) (a : Word) :
    t.pageTableEntry a = t.leaf a := by
  unfold pageTableEntry
  simp only [(ht.pdpt _).1, (ht.pds _ _).1, Bool.false_eq_true, if_false]
  rfl

/-- Without large pages, the translation is the leaf's frame and the page offset. -/
theorem virtualToPhysical_eq (t : PageTable) (ht : t.WellFormed) (a : Word) :
    t.virtualToPhysical a = ((t.leaf a).pageNumber <<< 12) + (VirtualAddress.mk a).offset := by
  unfold virtualToPhysical
  simp only [(ht.pdpt _).1, (ht.pds _ _).1, Bool.false_eq_true, if_false]
  rfl

/-! ### Updates of two- and three-dimensional arrays -/

theorem update_update_apply {α β γ : Type*} [DecidableEq α] [DecidableEq β] (f : α → β → γ)
    (a : α) (b : β) (c : γ) (a' : α) (b' : β) :
    Function.update f a (Function.update (f a) b c) a' b' =
      if a' = a ∧ b' = b then c else f a' b' := by
  by_cases ha : a' = a
  · subst ha
    by_cases hb : b' = b
    · simp [hb]
    · simp [hb]
  · simp [ha]

/-! ### One call of `map_page_from` -/

section MapPageFrom

variable (object : Word) (os : Word → Word) (t : PageTable) (a physicalAddress : Word)
  (protection : Protection)

theorem mapPageFrom_pml4 (i : Fin 512) :
    (mapPageFrom object (fun _ => os) t a physicalAddress protection).pml4 i =
      if i = tableIndex (VirtualAddress.mk a).pml4e then pointTo (t.pml4 i) (os (pdptAddress object))
      else t.pml4 i := by
  by_cases h : i = tableIndex (VirtualAddress.mk a).pml4e
  · subst h; simp [mapPageFrom]
  · simp [mapPageFrom, h]

theorem mapPageFrom_pdpt (i : Fin 512) :
    (mapPageFrom object (fun _ => os) t a physicalAddress protection).pdpt i =
      if i = tableIndex (VirtualAddress.mk a).pdpte then
        pointTo (t.pdpt i) (os (pdsAddress object (pdIndex ⟨a⟩)))
      else t.pdpt i := by
  by_cases h : i = tableIndex (VirtualAddress.mk a).pdpte
  · subst h; simp [mapPageFrom]
  · simp [mapPageFrom, h]

theorem mapPageFrom_pds (d : Fin 2) (i : Fin 512) :
    (mapPageFrom object (fun _ => os) t a physicalAddress protection).pds d i =
      if d = pdIndex ⟨a⟩ ∧ i = tableIndex (VirtualAddress.mk a).pde then
        pointTo (t.pds d i) (os (ptsAddress object d i))
      else t.pds d i := by
  simp only [mapPageFrom, update_update_apply]
  split_ifs with h
  · rw [h.1, h.2]
  · rfl

theorem mapPageFrom_pts (other : PageTable → Word → Word) (d : Fin 2) (i j : Fin 512) :
    (mapPageFrom object other t a physicalAddress protection).pts d i j =
      if (d, i, j) = slot a then
        (((t.pts d i j).setPageNumber (physicalAddress >>> 12)).setWrite
          (protection.has .write)).setExecuteDisable (!protection.has .execute) |>.setPresent true
      else t.pts d i j := by
  simp only [mapPageFrom, slot, Prod.mk.injEq]
  by_cases hd : d = pdIndex ⟨a⟩
  · subst hd
    rw [Function.update_self, update_update_apply]
    simp only [true_and]
    split_ifs with h
    · rw [h.1, h.2]
    · rfl
  · simp [hd]

/-- Whatever it is that answers, an entry of the upper levels is left alone or made to point to a
table. -/
structure PointsAnew (t t' : PageTable) : Prop where
  pml4 : ∀ i, t'.pml4 i = t.pml4 i ∨ ∃ physical, t'.pml4 i = pointTo (t.pml4 i) physical
  pdpt : ∀ i, t'.pdpt i = t.pdpt i ∨ ∃ physical, t'.pdpt i = pointTo (t.pdpt i) physical
  pds : ∀ d i, t'.pds d i = t.pds d i ∨ ∃ physical, t'.pds d i = pointTo (t.pds d i) physical

theorem pointsAnew_mapPageFrom (other : PageTable → Word → Word) :
    PointsAnew t (mapPageFrom object other t a physicalAddress protection) := by
  constructor
  · intro i
    by_cases h : i = tableIndex (VirtualAddress.mk a).pml4e
    · subst h
      exact .inr ⟨_, Function.update_self _ _ _⟩
    · exact .inl (Function.update_of_ne h _ _)
  · intro i
    by_cases h : i = tableIndex (VirtualAddress.mk a).pdpte
    · subst h
      exact .inr ⟨_, Function.update_self _ _ _⟩
    · exact .inl (Function.update_of_ne h _ _)
  · intro d i
    simp only [mapPageFrom, update_update_apply]
    split_ifs with h
    · rw [h.1, h.2]
      exact .inr ⟨_, rfl⟩
    · exact .inl rfl

theorem WellFormed.mapPageFrom {t : PageTable} (ht : t.WellFormed)
    (other : PageTable → Word → Word) :
    (mapPageFrom object other t a physicalAddress protection).WellFormed := by
  have h := pointsAnew_mapPageFrom object t a physicalAddress protection other
  refine ⟨fun i => ?_, fun i => ?_, fun d i => ?_⟩
  · rcases h.pml4 i with h | ⟨_, h⟩ <;> rw [h] <;> simp [ht.pml4 i]
  · rcases h.pdpt i with h | ⟨_, h⟩ <;> rw [h] <;> simp [ht.pdpt i]
  · rcases h.pds d i with h | ⟨_, h⟩ <;> rw [h] <;> simp [ht.pds d i]

end MapPageFrom

/-! ### Mapped addresses -/

/-- The four entries of the page `a` translate it as `os` does, through this object's tables. -/
structure Mapped (object : Word) (os : Word → Word) (t : PageTable) (a : Word) : Prop where
  pml4e : PointsTo (t.pml4 (tableIndex (VirtualAddress.mk a).pml4e)) (os (pdptAddress object))
  pdpte : PointsTo (t.pdpt (tableIndex (VirtualAddress.mk a).pdpte))
    (os (pdsAddress object (pdIndex ⟨a⟩)))
  pde : PointsTo (t.pds (pdIndex ⟨a⟩) (tableIndex (VirtualAddress.mk a).pde))
    (os (ptsAddress object (pdIndex ⟨a⟩) (tableIndex (VirtualAddress.mk a).pde)))
  pte : PointsTo (t.leaf a) (os a)

variable {object : Word} {os : Word → Word} {t : PageTable} {a b : Word} {protection : Protection}

theorem mapped_mapPageFrom_self (hw : protection.has .write = true) :
    Mapped object os (mapPageFrom object (fun _ => os) t a (os a) protection) a := by
  refine ⟨?_, ?_, ?_, ?_⟩
  · rw [mapPageFrom_pml4, if_pos rfl]; exact pointsTo_pointTo _ _
  · rw [mapPageFrom_pdpt, if_pos rfl]; exact pointsTo_pointTo _ _
  · rw [mapPageFrom_pds, if_pos ⟨rfl, rfl⟩]; exact pointsTo_pointTo _ _
  · rw [leaf, mapPageFrom_pts, if_pos rfl]
    constructor <;> simp [hw]

/-- Mapping `b` keeps what is mapped at `a` unless the two share a leaf entry. -/
theorem Mapped.mapPageFrom (ha : Mapped object os t a) (hw : protection.has .write = true)
    (hab : slot a = slot b → a = b) :
    Mapped object os (mapPageFrom object (fun _ => os) t b (os b) protection) a := by
  by_cases hslot : slot a = slot b
  · rw [hab hslot]; exact mapped_mapPageFrom_self hw
  refine ⟨?_, ?_, ?_, ?_⟩
  · rw [mapPageFrom_pml4]
    split_ifs
    · exact pointsTo_pointTo _ _
    · exact ha.pml4e
  · rw [mapPageFrom_pdpt]
    split_ifs with h
    · -- The two addresses share a pdpte, hence also the page directory it points to.
      have hd : pdIndex ⟨b⟩ = pdIndex ⟨a⟩ := by
        have hval := congrArg Fin.val h
        rw [VirtualAddress.pdpte, VirtualAddress.pdpte, val_tableIndex_get,
          val_tableIndex_get] at hval
        rw [Fin.ext_iff, val_pdIndex, val_pdIndex, ← hval]
      rw [hd]; exact pointsTo_pointTo _ _
    · exact ha.pdpte
  · rw [mapPageFrom_pds]
    split_ifs
    · exact pointsTo_pointTo _ _
    · exact ha.pde
  · rw [leaf, mapPageFrom_pts, if_neg hslot]
    exact ha.pte

/-- The leaf of `a` is executable. -/
def Executable (t : PageTable) (a : Word) : Prop := (t.leaf a).executeDisable = false

theorem executable_mapPageFrom_self (physicalAddress : Word)
    (hx : protection.has .execute = true) :
    Executable (mapPageFrom object (fun _ => os) t a physicalAddress protection) a := by
  rw [Executable, leaf, mapPageFrom_pts, if_pos rfl]
  simp [hx]

theorem Executable.mapPageFrom (ha : Executable t a) (physicalAddress : Word)
    (hx : protection.has .execute = true) :
    Executable (mapPageFrom object (fun _ => os) t b physicalAddress protection) a := by
  rw [Executable, leaf, mapPageFrom_pts]
  split_ifs
  · simp [hx]
  · exact ha

/-! ### `map_page` through the table itself -/

/-- The translation depends on the leaf only, as long as nothing is large. -/
theorem virtualToPhysical_congr {t t' : PageTable} (ht : t.WellFormed) (ht' : t'.WellFormed)
    (hpts : t'.pts = t.pts) (a : Word) : t'.virtualToPhysical a = t.virtualToPhysical a := by
  rw [virtualToPhysical_eq t ht, virtualToPhysical_eq t' ht', leaf, leaf, hpts]

/-- Where the table already translates its own tables as `os` does, `map_page` is `map_page_from`
with `os`: writing the upper levels on the way does not disturb the answers. -/
theorem mapPage_eq_mapPageFrom (ht : t.WellFormed) (physicalAddress : Word)
    (h1 : t.virtualToPhysical (pdptAddress object) = os (pdptAddress object))
    (h2 : ∀ d, t.virtualToPhysical (pdsAddress object d) = os (pdsAddress object d))
    (h3 : ∀ d i, t.virtualToPhysical (ptsAddress object d i) = os (ptsAddress object d i)) :
    mapPage object t a physicalAddress protection =
      mapPageFrom object (fun _ => os) t a physicalAddress protection := by
  -- The table after the pml4e and after the pdpte have been written.
  set t1 : PageTable := { t with
    pml4 := Function.update t.pml4 (tableIndex (VirtualAddress.mk a).pml4e)
      (pointTo (t.pml4 (tableIndex (VirtualAddress.mk a).pml4e)) (os (pdptAddress object))) }
    with ht1
  set t2 : PageTable := { t1 with
    pdpt := Function.update t1.pdpt (tableIndex (VirtualAddress.mk a).pdpte)
      (pointTo (t1.pdpt (tableIndex (VirtualAddress.mk a).pdpte))
        (os (pdsAddress object (pdIndex ⟨a⟩)))) } with ht2
  have hwf1 : t1.WellFormed := by
    refine ⟨fun i => ?_, ht.pdpt, ht.pds⟩
    by_cases h : i = tableIndex (VirtualAddress.mk a).pml4e
    · subst h; simp [ht1, ht.pml4]
    · simp [ht1, h, ht.pml4]
  have hwf2 : t2.WellFormed := by
    refine ⟨hwf1.pml4, fun i => ?_, ht.pds⟩
    by_cases h : i = tableIndex (VirtualAddress.mk a).pdpte
    · subst h; simp [ht1, ht2, ht.pdpt]
    · simp [ht1, ht2, h, ht.pdpt]
  have e2 := (virtualToPhysical_congr ht hwf1 rfl (pdsAddress object (pdIndex ⟨a⟩))).trans (h2 _)
  have e3 := (virtualToPhysical_congr ht hwf2 rfl (ptsAddress object (pdIndex ⟨a⟩)
    (tableIndex (VirtualAddress.mk a).pde))).trans (h3 _ _)
  unfold mapPage PageTable.mapPageFrom
  dsimp only
  rw [h1]
  rw [← ht1]
  rw [e2, ← ht2, e3]

/-! ### Ranges of pages -/

theorem pageSize_eq : pageSize = 0x1000#64 := rfl

/-- The number of pages of a range of `n` whole pages. -/
theorem toNat_numberOfPages {size : Word} (hsize : size.toNat % 0x1000 = 0)
    (hlt : size.toNat ≤ 2 ^ 63) :
    ((size + (pageSize - 1#64)) / pageSize).toNat = size.toNat / 0x1000 := by
  rw [BitVec.toNat_udiv, BitVec.toNat_add, show (pageSize - 1#64).toNat = 0xfff by decide,
    show pageSize.toNat = 0x1000 by decide]
  omega

/-- `self_map_from` maps every page of its range and keeps what was mapped, as long as no two of
the pages concerned share a leaf entry. -/
theorem mapped_selfMapFrom (S : Set Word) (base size : Word) (ht : t.WellFormed)
    (hsize : size.toNat % 0x1000 = 0) (hlt : size.toNat ≤ 2 ^ 63)
    (hw : protection.has .write = true)
    (hS : ∀ p ∈ S, Mapped object os t p)
    (hslot : Set.InjOn slot
      (S ∪ {p | ∃ i < size.toNat / 0x1000, p = base + BitVec.ofNat 64 i * pageSize})) :
    (selfMapFrom object t base size protection os).WellFormed ∧
    ∀ p, (p ∈ S ∨ ∃ i < size.toNat / 0x1000, p = base + BitVec.ofNat 64 i * pageSize) →
      Mapped object os (selfMapFrom object t base size protection os) p := by
  unfold selfMapFrom
  dsimp only
  rw [toNat_numberOfPages hsize hlt]
  refine forRange_invariant
    (P := fun n t => t.WellFormed ∧
      ∀ p, (p ∈ S ∨ ∃ i < n, p = base + BitVec.ofNat 64 i * pageSize) → Mapped object os t p)
    ⟨ht, fun p hp => ?_⟩ fun i hi t ht => ?_
  · rcases hp with hp | ⟨i, hi, -⟩
    · exact hS p hp
    · omega
  · refine ⟨ht.1.mapPageFrom .., fun p hp => ?_⟩
    by_cases hpi : p = base + BitVec.ofNat 64 i * pageSize
    · subst hpi
      exact mapped_mapPageFrom_self hw
    have hold : p ∈ S ∨ ∃ k < i, p = base + BitVec.ofNat 64 k * pageSize := by
      rcases hp with hp | ⟨k, hk, rfl⟩
      · exact Or.inl hp
      · exact Or.inr ⟨k, lt_of_le_of_ne (Nat.le_of_lt_succ hk) fun h => hpi (h ▸ rfl), rfl⟩
    refine (ht.2 p hold).mapPageFrom hw fun heq => hslot ?_ ?_ heq
    · exact hold.imp id fun ⟨k, hk, h⟩ => ⟨k, hk.trans hi, h⟩
    · exact Or.inr ⟨i, hi, rfl⟩

/-! ### The object's own pages -/

/-- Page `k` of the object. -/
def objectPage (object : Word) (k : ℕ) : Word := object + BitVec.ofNat 64 k * pageSize

/-- Which page of the object a table is. -/
def Table.page : Table → ℕ
  | pml4 => 0
  | pdpt => 1
  | pds d => 2 + d
  | pts d i => 4 + (512 * d + i)

theorem Table.page_lt (T : Table) : T.page < 1028 := by
  cases T <;> simp only [page] <;> omega

theorem Table.page_injective : Function.Injective Table.page := by
  intro T T' h
  rcases T with _ | _ | d | ⟨d, i⟩ <;> rcases T' with _ | _ | d' | ⟨d', i'⟩ <;>
    simp only [page] at h <;>
    first
    | rfl
    | omega
    | rw [show d = d' by omega, show i = i' by omega]
    | rw [show d = d' by omega]

theorem objectPage_add_page (object : Word) (n i : ℕ) :
    objectPage object n + BitVec.ofNat 64 i * pageSize = objectPage object (n + i) := by
  rw [objectPage, objectPage, BitVec.ofNat_add, BitVec.add_mul, BitVec.add_assoc]

theorem Table.address_eq (object : Word) (T : Table) :
    T.address object = objectPage object T.page := by
  cases T with
  | pml4 => rw [address, pml4Address, objectPage, page, BitVec.zero_mul, BitVec.add_zero]
  | pdpt => rfl
  | pds d =>
    rw [address, pdsAddress, page, ← objectPage_add_page, BitVec.mul_comm, pageSize_eq]
    rfl
  | pts d i =>
    rw [address, ptsAddress, page, ← objectPage_add_page, BitVec.mul_comm, pageSize_eq]
    rfl

/-- One loop of `map_self`: the pages of the object mapped so far grow from `n` on. -/
theorem mapped_selfMapFrom_objectPage (n n' : ℕ) (size : Word) (ht : t.WellFormed)
    (hsize : size.toNat % 0x1000 = 0) (hn : n + size.toNat / 0x1000 = n') (hn' : n' ≤ 1028)
    (hw : protection.has .write = true)
    (hmapped : ∀ k < n, Mapped object os t (objectPage object k))
    (hslot : Set.InjOn slot {p | ∃ k < 1028, p = objectPage object k}) :
    (selfMapFrom object t (objectPage object n) size protection os).WellFormed ∧
    ∀ k < n',
      Mapped object os (selfMapFrom object t (objectPage object n) size protection os)
        (objectPage object k) := by
  have h := mapped_selfMapFrom {p | ∃ k < n, p = objectPage object k} (objectPage object n) size
    ht hsize (by omega) hw (fun p ⟨k, hk, hp⟩ => hp ▸ hmapped k hk) (hslot.mono ?_)
  · refine ⟨h.1, fun k hk => h.2 _ ?_⟩
    by_cases hkn : k < n
    · exact Or.inl ⟨k, hkn, rfl⟩
    · refine Or.inr ⟨k - n, by omega, ?_⟩
      rw [objectPage_add_page, Nat.add_sub_cancel' (not_lt.mp hkn)]
  · rintro p (⟨k, hk, rfl⟩ | ⟨i, hi, rfl⟩)
    · exact ⟨k, by omega, rfl⟩
    · exact ⟨n + i, by omega, objectPage_add_page object n i⟩

/-- `map_self` maps all pages of the object. -/
theorem mapped_mapSelf (object : Word) (os : Word → Word) {t : PageTable} (ht : t.WellFormed)
    (hslot : Set.InjOn slot {p | ∃ k < 1028, p = objectPage object k}) :
    (mapSelf object t os).WellFormed ∧
    ∀ T : Table, Mapped object os (mapSelf object t os) (T.address object) := by
  have hw : (Protection.read ||| Protection.write).has .write = true := by decide
  unfold mapSelf
  dsimp only
  have e1 := Table.address_eq object .pml4
  have e2 := Table.address_eq object .pdpt
  have e3 := Table.address_eq object (.pds 0)
  have e4 := Table.address_eq object (.pts 0 0)
  simp only [Table.address, Table.page, Fin.val_zero, mul_zero, add_zero] at e1 e2 e3 e4
  rw [e1, e2, e3, e4]
  obtain ⟨wf1, h1⟩ := mapped_selfMapFrom_objectPage 0 1 0x1000#64 ht
    (by decide) (by decide) (by decide) hw (fun k hk => absurd hk k.not_lt_zero) hslot
  obtain ⟨wf2, h2⟩ := mapped_selfMapFrom_objectPage 1 2 0x1000#64 wf1
    (by decide) (by decide) (by decide) hw h1 hslot
  obtain ⟨wf3, h3⟩ := mapped_selfMapFrom_objectPage 2 4 0x2000#64 wf2
    (by decide) (by decide) (by decide) hw h2 hslot
  obtain ⟨wf4, h4⟩ := mapped_selfMapFrom_objectPage 4 1028 0x400000#64 wf3
    (by decide) (by decide) (by decide) hw h3 hslot
  refine ⟨wf4, fun T => ?_⟩
  rw [T.address_eq object]
  exact h4 T.page T.page_lt

end Zpp.X64.PageTable
