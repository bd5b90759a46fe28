import Mathlib.Data.Finset.Card
import ZppHypervisor.Hypervisor.Equiv.InitializeEpt
import ZppHypervisor.Hypervisor.Equiv.PhysicalToVirtual

/-!
# The invariant of the extended page tables

While the module is being protected, every large page is in one of two states.  Either its epde still
maps it as one large page, or the epde refers to an ept table that the large page owns and whose 512
entries map its small pages.  `EptInv` says this for all large pages at once, in terms of the owner
function and of the set of small pages that are denied to the guest; it also says that no table has
two owners.  Its lemmas are the two things the code does to the tables: changing the permissions of
one small page, and giving a table to a large page.
-/

namespace Zpp.Hypervisor

open X64 X64.Intel Loop
open X64.PageTable (tableIndex update_update_apply val_tableIndex_get)

/-! ### Coordinates of a guest-physical address -/

/-- The indices of an epde, hence of a large page. -/
abbrev Region := Fin 512 × Fin 512

/-- The indices of the epde of an address: `address >> 30` and `(address >> 21) & 0x1ff`. -/
def region (pa : Word) : Region :=
  (tableIndex (pa >>> 30), tableIndex ((pa >>> 21) &&& 0x1ff#64))

/-- The number of the large page with the given indices. -/
def largePage (r : Region) : ℕ := 512 * r.1 + r.2

/-- The frame number an entry holds for a physical address. -/
def frameNumber (physical : Word) : Word := (physical >>> 12) &&& 0xffffffffff#64

theorem val_region_fst {pa : Word} (hpa : pa.toNat < 2 ^ 39) :
    (region pa).1.val = pa.toNat / 2 ^ 30 := by
  rw [region, tableIndex, Fin.val_ofNat, BitVec.toNat_ushiftRight, Nat.shiftRight_eq_div_pow]
  omega

theorem val_region_snd (pa : Word) : (region pa).2.val = pa.toNat / 2 ^ 21 % 512 :=
  val_tableIndex_get 21 pa

theorem val_eptIndex (pa : Word) : (Ept.eptIndex pa).val = pa.toNat / 2 ^ 12 % 512 :=
  val_tableIndex_get 12 pa

/-- A large page is known by its number. -/
theorem largePage_injective : Function.Injective largePage := by
  intro r r' heq
  have hr := r.2.isLt
  have hr' := r'.2.isLt
  rw [largePage, largePage] at heq
  exact Prod.ext (Fin.ext (by omega)) (Fin.ext (by omega))

theorem largePage_region {pa : Word} (hpa : pa.toNat < 2 ^ 39) :
    largePage (region pa) = pa.toNat / 2 ^ 21 := by
  rw [largePage, val_region_fst hpa, val_region_snd]
  omega

theorem largePage_lt (r : Region) : largePage r < 2 ^ 18 := by
  have h1 := r.1.isLt
  have h2 := r.2.isLt
  rw [largePage]
  omega

/-- The coordinates of an address determine its page. -/
theorem pageOf_eq_iff {a b : Word} (ha : a.toNat < 2 ^ 39) (hb : b.toNat < 2 ^ 39) :
    pageOf a = pageOf b ↔ region a = region b ∧ Ept.eptIndex a = Ept.eptIndex b := by
  rw [← BitVec.toNat_inj, toNat_pageOf, toNat_pageOf, Prod.ext_iff, Fin.ext_iff, Fin.ext_iff,
    Fin.ext_iff, val_region_fst ha, val_region_fst hb, val_region_snd, val_region_snd, val_eptIndex,
    val_eptIndex]
  omega

theorem epdIndices_eq {pa : Word} (hpa : pa.toNat < 2 ^ 39) :
    Ept.epdIndices pa = some (region pa) := by
  have hlt : (pa >>> 30).toNat < 512 := by
    rw [BitVec.toNat_ushiftRight, Nat.shiftRight_eq_div_pow]
    omega
  have hindex : (region pa).1 = ⟨_, hlt⟩ := by
    rw [region, tableIndex, Fin.ext_iff, Fin.val_ofNat, Nat.mod_eq_of_lt hlt]
  rw [Ept.epdIndices, dif_pos hlt, ← hindex]
  rfl

/-! ### Writing entries -/

@[simp] theorem Ept.setEpde_others (t : Ept) (r : Region) (e : Epte) :
    (t.setEpde r e).epml4 = t.epml4 ∧ (t.setEpde r e).epdpt = t.epdpt ∧
    (t.setEpde r e).ept = t.ept := ⟨rfl, rfl, rfl⟩

theorem Ept.setEpde_epd (t : Ept) (r r' : Region) (e : Epte) :
    (t.setEpde r e).epd r'.1 r'.2 = if r' = r then e else t.epd r'.1 r'.2 := by
  simp only [Ept.setEpde, update_update_apply, Prod.ext_iff]

@[simp] theorem Ept.setEpte_others (t : Ept) (k : Fin eptCount) (j : Fin 512) (e : Epte) :
    (t.setEpte k j e).epml4 = t.epml4 ∧ (t.setEpte k j e).epdpt = t.epdpt ∧
    (t.setEpte k j e).epd = t.epd := ⟨rfl, rfl, rfl⟩

theorem Ept.setEpte_ept (t : Ept) (k k' : Fin eptCount) (j j' : Fin 512) (e : Epte) :
    (t.setEpte k j e).ept k' j' = if k' = k ∧ j' = j then e else t.ept k' j' :=
  update_update_apply _ _ _ _ _ _

/-! ### The invariant -/

/-- The state of the four tables. -/
structure EptInv (layout : EptLayout) (vtp : Word → Word) (type : Region → MemoryType)
    (owner : Region → Option (Fin eptCount)) (denied : Region → Fin 512 → Prop)
    (t : Ept) : Prop where
  epml4 : (t.epml4 0).HasPermissions true ∧ (t.epml4 0).pageNumber = frameNumber (vtp layout.epdpt)
  epdpt : ∀ d, (t.epdpt d).HasPermissions true ∧ (t.epdpt d).large = false ∧
    (t.epdpt d).pageNumber = frameNumber (vtp (layout.epd d))
  epd : ∀ r : Region, (t.epd r.1 r.2).HasPermissions true
  /-- A large page without a table is mapped by its epde. -/
  large : ∀ r, owner r = none → (t.epd r.1 r.2).large = true ∧
    (t.epd r.1 r.2).largePageNumber = BitVec.ofNat 64 (largePage r) ∧
    (t.epd r.1 r.2).type = type r ∧ ∀ j, ¬ denied r j
  /-- The epde of a large page with a table refers to it. -/
  split : ∀ r k, owner r = some k → (t.epd r.1 r.2).large = false ∧
    (t.epd r.1 r.2).pageNumber = frameNumber (vtp (layout.ept k))
  /-- The table maps the small pages. -/
  ept : ∀ r k, owner r = some k → ∀ j, (t.ept k j).type = type r ∧
    (t.ept k j).pageNumber = BitVec.ofNat 64 (512 * largePage r + j) ∧
    (denied r j → (t.ept k j).HasPermissions false) ∧
    (¬ denied r j → (t.ept k j).HasPermissions true)
  owner_injective : ∀ r r' k, owner r = some k → owner r' = some k → r = r'

section Inv

variable {layout : EptLayout} {vtp : Word → Word} {type : Region → MemoryType}
  {owner : Region → Option (Fin eptCount)} {denied : Region → Fin 512 → Prop}
  {t : Ept}

/-- Only the denied pages matter, not how they are described. -/
theorem EptInv.congr (h : EptInv layout vtp type owner denied t)
    {denied' : Region → Fin 512 → Prop} (hdenied : ∀ r j, denied' r j ↔ denied r j) :
    EptInv layout vtp type owner denied' t := by
  have heq : denied' = denied := funext fun r => funext fun j => propext (hdenied r j)
  rw [heq]
  exact h

/-- Changing the permissions of one small page. -/
theorem EptInv.setEptePermissions (h : EptInv layout vtp type owner denied t) {pa : Word}
    {k : Fin eptCount} (hk : owner (region pa) = some k) (b : Bool) :
    EptInv layout vtp type owner
      (fun r j => if r = region pa ∧ j = Ept.eptIndex pa then b = false else denied r j)
      (t.setEptePermissions k pa b) := by
  have hept : ∀ k' j, (t.setEptePermissions k pa b).ept k' j =
      if k' = k ∧ j = Ept.eptIndex pa then (t.ept k (Ept.eptIndex pa)).setPermissions b
      else t.ept k' j := fun k' j => Ept.setEpte_ept t k k' _ j _
  refine ⟨h.epml4, h.epdpt, h.epd, fun r hr => ?_, h.split, fun r k' hr j => ?_,
    h.owner_injective⟩
  · obtain ⟨h1, h2, h3, h4⟩ := h.large r hr
    refine ⟨h1, h2, h3, fun j => ?_⟩
    rw [if_neg]
    · exact h4 j
    · rintro ⟨rfl, -⟩
      rw [hr] at hk
      cases hk
  · rw [hept]
    obtain ⟨h1, h2, h3, h4⟩ := h.ept r k' hr j
    by_cases hr' : r = region pa
    · subst hr'
      obtain rfl : k' = k := Option.some.inj (hr.symm.trans hk)
      by_cases hj : j = Ept.eptIndex pa
      · subst hj
        obtain ⟨p1, p2, -, p4, -⟩ := Epte.setPermissions_fields (t.ept k' (Ept.eptIndex pa)) b
        rw [if_pos ⟨rfl, rfl⟩, if_pos ⟨rfl, rfl⟩]
        refine ⟨p2.trans h1, p4.trans h2, fun hb => hb ▸ p1, fun hb => ?_⟩
        rw [Bool.not_eq_false] at hb
        exact hb ▸ p1
      · rw [if_neg fun hc => hj hc.2, if_neg fun hc => hj hc.2]
        exact ⟨h1, h2, h3, h4⟩
    · -- Another large page has another table.
      have hne : k' ≠ k := fun heq => hr' (h.owner_injective r _ k (heq ▸ hr) hk)
      rw [if_neg fun hc => hne hc.1, if_neg fun hc => hr' hc.1]
      exact ⟨h1, h2, h3, h4⟩

/-- The entries of a filled table. -/
theorem fillEpt_spec (t : Ept) (k : Fin eptCount) (pageNumber : Word) (memoryType : MemoryType) :
    (t.fillEpt k pageNumber memoryType).epml4 = t.epml4 ∧
    (t.fillEpt k pageNumber memoryType).epdpt = t.epdpt ∧
    (t.fillEpt k pageNumber memoryType).epd = t.epd ∧
    (∀ k' j, k' ≠ k → (t.fillEpt k pageNumber memoryType).ept k' j = t.ept k' j) ∧
    ∀ j : Fin 512, ((t.fillEpt k pageNumber memoryType).ept k j).HasPermissions true ∧
      ((t.fillEpt k pageNumber memoryType).ept k j).pageNumber =
        (pageNumber + BitVec.ofNat 64 j) &&& 0xffffffffff#64 ∧
      ((t.fillEpt k pageNumber memoryType).ept k j).type = memoryType &&& 0x7#32 := by
  have h : (t.fillEpt k pageNumber memoryType).epml4 = t.epml4 ∧
      (t.fillEpt k pageNumber memoryType).epdpt = t.epdpt ∧
      (t.fillEpt k pageNumber memoryType).epd = t.epd ∧
      (∀ k' j, k' ≠ k → (t.fillEpt k pageNumber memoryType).ept k' j = t.ept k' j) ∧
      ∀ j : Fin 512, j.val < 512 → ((t.fillEpt k pageNumber memoryType).ept k j).HasPermissions true ∧
        ((t.fillEpt k pageNumber memoryType).ept k j).pageNumber =
          (pageNumber + BitVec.ofNat 64 j) &&& 0xffffffffff#64 ∧
        ((t.fillEpt k pageNumber memoryType).ept k j).type = memoryType &&& 0x7#32 := by
    refine forRange_invariant
      (P := fun n (t' : Ept) => t'.epml4 = t.epml4 ∧ t'.epdpt = t.epdpt ∧ t'.epd = t.epd ∧
        (∀ k' j, k' ≠ k → t'.ept k' j = t.ept k' j) ∧
        ∀ j : Fin 512, j.val < n → (t'.ept k j).HasPermissions true ∧
          (t'.ept k j).pageNumber = (pageNumber + BitVec.ofNat 64 j) &&& 0xffffffffff#64 ∧
          (t'.ept k j).type = memoryType &&& 0x7#32)
      ⟨rfl, rfl, rfl, fun _ _ _ => rfl, fun j hj => absurd hj j.val.not_lt_zero⟩ ?_
    rintro n hn t' ⟨h1, h2, h3, h4, h5⟩
    refine ⟨h1, h2, h3, fun k' j hk' => ?_, fun j hj => ?_⟩
    · rw [Ept.setEpte_ept, if_neg fun hc => hk' hc.1, h4 k' j hk']
    · rw [Ept.setEpte_ept]
      by_cases hjn : j = Fin.ofNat 512 n
      · have hval : j.val = n := by rw [hjn, Fin.val_ofNat, Nat.mod_eq_of_lt hn]
        rw [if_pos ⟨rfl, hjn⟩, hval]
        simp [Epte.HasPermissions, Epte.setPermissions]
      · rw [if_neg fun hc => hjn hc.2]
        refine h5 j (lt_of_le_of_ne (Nat.le_of_lt_succ hj) fun heq => hjn ?_)
        rw [Fin.ext_iff, Fin.val_ofNat, Nat.mod_eq_of_lt hn, heq]
  exact ⟨h.1, h.2.1, h.2.2.1, h.2.2.2.1, fun j => h.2.2.2.2 j j.isLt⟩

/-- The frame number of small page `j` of a large page. -/
theorem smallPageNumber_eq (r : Region) (j : Fin 512) :
    (BitVec.ofNat 64 (largePage r) <<< (21 - 12) + BitVec.ofNat 64 j) &&& 0xffffffffff#64 =
      BitVec.ofNat 64 (512 * largePage r + j) := by
  have hlt := largePage_lt r
  have hj := j.isLt
  rw [← BitVec.toNat_inj, show 0xffffffffff#64 = BitVec.ofNat 64 (2 ^ 40 - 1) by decide,
    toNat_and_low 40 _ (by decide), BitVec.toNat_add, BitVec.toNat_shiftLeft, BitVec.toNat_ofNat,
    BitVec.toNat_ofNat, BitVec.toNat_ofNat, Nat.shiftLeft_eq]
  omega

/-- The tables after a large page has got table `k`, before any of its pages is denied. -/
def splitLargePage (layout : EptLayout) (vtp : Word → Word) (t : Ept) (r : Region)
    (k : Fin eptCount) : Ept :=
  (t.fillEpt k ((t.epd r.1 r.2).largePageNumber <<< (21 - 12)) (t.epd r.1 r.2).type).setEpde r
    ((((t.epd r.1 r.2).setLarge false).setType 0#32).setPageNumber (vtp (layout.ept k) >>> 12))

/-- Splitting keeps the translation and the memory type of all small pages. -/
theorem EptInv.splitLargePage (h : EptInv layout vtp type owner denied t) {r : Region}
    (hr : owner r = none) {k : Fin eptCount} (hk : ∀ r', owner r' ≠ some k) :
    EptInv layout vtp type (Function.update owner r (some k)) denied
      (splitLargePage layout vtp t r k) := by
  obtain ⟨f1, f2, f3, f4, f5⟩ := fillEpt_spec t k
    ((t.epd r.1 r.2).largePageNumber <<< (21 - 12)) (t.epd r.1 r.2).type
  obtain ⟨l1, l2, l3, l4⟩ := h.large r hr
  have hepml4 : (Hypervisor.splitLargePage layout vtp t r k).epml4 = t.epml4 := by
    rw [Hypervisor.splitLargePage, (Ept.setEpde_others _ _ _).1, f1]
  have hepdpt : (Hypervisor.splitLargePage layout vtp t r k).epdpt = t.epdpt := by
    rw [Hypervisor.splitLargePage, (Ept.setEpde_others _ _ _).2.1, f2]
  have hept : ∀ k' j, k' ≠ k →
      (Hypervisor.splitLargePage layout vtp t r k).ept k' j = t.ept k' j := fun k' j hk' => by
    rw [Hypervisor.splitLargePage, (Ept.setEpde_others _ _ _).2.2, f4 k' j hk']
  have hepd : ∀ r' : Region, (Hypervisor.splitLargePage layout vtp t r k).epd r'.1 r'.2 =
      if r' = r then (((t.epd r.1 r.2).setLarge false).setType 0#32).setPageNumber
        (vtp (layout.ept k) >>> 12) else t.epd r'.1 r'.2 := by
    intro r'
    rw [Hypervisor.splitLargePage, Ept.setEpde_epd, f3]
  refine ⟨?_, fun d => ?_, fun r' => ?_, fun r' hr' => ?_, fun r' k' hr' => ?_,
    fun r' k' hr' j => ?_, fun r₁ r₂ k' h₁ h₂ => ?_⟩
  · rw [hepml4]
    exact h.epml4
  · rw [hepdpt]
    exact h.epdpt d
  · rw [hepd]
    split_ifs with heq
    · simpa [Epte.HasPermissions] using h.epd r
    · exact h.epd r'
  · have hne : r' ≠ r := by
      rintro rfl
      rw [Function.update_self] at hr'
      cases hr'
    rw [Function.update_of_ne hne] at hr'
    rw [hepd, if_neg hne]
    exact h.large r' hr'
  · rw [hepd]
    by_cases hne : r' = r
    · subst hne
      rw [Function.update_self] at hr'
      obtain rfl := Option.some.inj hr'
      rw [if_pos rfl]
      simp [frameNumber]
    · rw [Function.update_of_ne hne] at hr'
      rw [if_neg hne]
      exact h.split r' k' hr'
  · by_cases hne : r' = r
    · subst hne
      rw [Function.update_self] at hr'
      obtain rfl := Option.some.inj hr'
      obtain ⟨p1, p2, p3⟩ := f5 j
      rw [Hypervisor.splitLargePage, (Ept.setEpde_others _ _ _).2.2]
      refine ⟨?_, ?_, fun hd => absurd hd (l4 j), fun _ => p1⟩
      · rw [p3, Epte.type_and_seven, l3]
      · rw [p2, l2, smallPageNumber_eq]
    · rw [Function.update_of_ne hne] at hr'
      rw [hept k' j fun heq => hk r' (heq ▸ hr')]
      exact h.ept r' k' hr' j
  · by_cases h1 : r₁ = r
    · by_cases h2 : r₂ = r
      · rw [h1, h2]
      · rw [h1, Function.update_self] at h₁
        rw [Function.update_of_ne h2] at h₂
        exact absurd (Option.some.inj h₁ ▸ h₂) (hk r₂)
    · rw [Function.update_of_ne h1] at h₁
      by_cases h2 : r₂ = r
      · rw [h2, Function.update_self] at h₂
        exact absurd (Option.some.inj h₂ ▸ h₁) (hk r₁)
      · rw [Function.update_of_ne h2] at h₂
        exact h.owner_injective r₁ r₂ k' h₁ h₂

end Inv

end Zpp.Hypervisor
