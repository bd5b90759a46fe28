import Mathlib.Data.Set.Function
import ZppHypervisor.X64.Walk

/-!
# The hypervisor's module and its frames

The hypervisor protects and maps its own image, a page-aligned range of virtual addresses.
`Module` is that range and `FrameMap` what a translation of it into physical memory is promised to
be: page offsets kept, pages on page-aligned frames below some bound, distinct pages on distinct
frames.  The OS page tables give such a map and so does, once built, the host page table.
-/

namespace Zpp.Hypervisor

open X64

/-- The range `[module_base, module_base + module_size)`, a whole number of pages. -/
structure Module where
  base : Word
  size : Word
  base_aligned : base.toNat % 0x1000 = 0
  size_aligned : size.toNat % 0x1000 = 0
  no_wrap : base.toNat + size.toNat ≤ 2 ^ 64

/-- The page an address lies in. -/
def pageOf (a : Word) : Word := a &&& 0xfffffffffffff000#64

namespace Module

variable (m : Module)

/-- The address lies in the module. -/
def Contains (a : Word) : Prop :=
  m.base.toNat ≤ a.toNat ∧ a.toNat < m.base.toNat + m.size.toNat

/-- The address is the start of a page of the module. -/
def HasPage (p : Word) : Prop := p.toNat % 0x1000 = 0 ∧ m.Contains p

/-- The page number `i` of the module, `module_base + i * page_size`. -/
def page (i : ℕ) : Word := m.base + BitVec.ofNat 64 i * 0x1000#64

/-- `module_size / page_size`. -/
def pages : ℕ := (m.size / 0x1000#64).toNat

/-- The page-aligned range of `n` bytes at `a` lies in the module. -/
structure Holds (a : Word) (n : ℕ) : Prop where
  aligned : a.toNat % 0x1000 = 0
  base_le : m.base.toNat ≤ a.toNat
  le_end : a.toNat + n ≤ m.base.toNat + m.size.toNat

instance (a : Word) : Decidable (m.Contains a) := inferInstanceAs (Decidable (_ ∧ _))

instance (p : Word) : Decidable (m.HasPage p) := inferInstanceAs (Decidable (_ ∧ _))

end Module

/-- `f` translates the pages of `m` to distinct page-aligned frames below `bound` and keeps page
offsets. -/
structure FrameMap (m : Module) (bound : ℕ) (f : Word → Word) : Prop where
  add_offset : ∀ a, m.Contains a → f a = f (pageOf a) + (a &&& 0xfff#64)
  aligned : ∀ p, m.HasPage p → (f p).toNat % 0x1000 = 0
  lt : ∀ p, m.HasPage p → (f p).toNat < bound
  injOn : Set.InjOn f {p | m.HasPage p}

/-! ### Pages -/

theorem toNat_pageOf (a : Word) : (pageOf a).toNat = a.toNat / 0x1000 * 0x1000 := by
  have hmask : 0xfffffffffffff000#64 = 0xfffffffffffff#64 <<< 12 := by decide
  have hones : 0xfffffffffffff#64 = BitVec.ofNat 64 (2 ^ 52 - 1) := by decide
  rw [pageOf, hmask, BitField.and_shiftLeft_eq, hones, BitVec.toNat_shiftLeft,
    BitField.toNat_get_low 12 52 a (by decide), Nat.shiftLeft_eq]
  have := a.isLt
  omega

theorem toNat_and_fff (a : Word) : (a &&& 0xfff#64).toNat = a.toNat % 0x1000 :=
  toNat_and_low 12 a (by decide)

/-- Shifting an address of a page-aligned frame below 2^52 down into a page number and back. -/
theorem frame_roundTrip {f : Word} (haligned : f.toNat % 0x1000 = 0) (hlt : f.toNat < 2 ^ 52) :
    ((f >>> 12) &&& 0xffffffffff#64) <<< 12 = f := by
  have hones : 0xffffffffff#64 = BitVec.ofNat 64 (2 ^ 40 - 1) := by decide
  have hget : ((f >>> 12) &&& 0xffffffffff#64).toNat = f.toNat / 2 ^ 12 % 2 ^ 40 := by
    rw [hones]
    exact BitField.toNat_get_low 12 40 f (by decide)
  rw [← BitVec.toNat_inj, BitVec.toNat_shiftLeft, hget, Nat.shiftLeft_eq]
  omega

namespace Module

variable {m : Module}

theorem toNat_pages : m.pages = m.size.toNat / 0x1000 := BitVec.toNat_udiv

theorem toNat_page {i : ℕ} (hi : i < m.pages) :
    (m.page i).toNat = m.base.toNat + i * 0x1000 := by
  have hn := m.no_wrap
  have hs := m.size.isLt
  rw [toNat_pages] at hi
  rw [page, BitVec.toNat_add, BitVec.toNat_mul, BitVec.toNat_ofNat, BitVec.toNat_ofNat]
  omega

theorem hasPage_page {i : ℕ} (hi : i < m.pages) : m.HasPage (m.page i) := by
  have h := toNat_page hi
  have hb := m.base_aligned
  rw [toNat_pages] at hi
  refine ⟨by omega, by omega, by omega⟩

/-- Every page of the module has a number. -/
theorem HasPage.exists_page {p : Word} (hp : m.HasPage p) : ∃ i < m.pages, m.page i = p := by
  obtain ⟨haligned, hlo, hhi⟩ := hp
  have hb := m.base_aligned
  have hs := m.size_aligned
  have hi : (p.toNat - m.base.toNat) / 0x1000 < m.pages := by
    rw [toNat_pages]
    omega
  refine ⟨(p.toNat - m.base.toNat) / 0x1000, hi, ?_⟩
  rw [← BitVec.toNat_inj, toNat_page hi]
  omega

/-- The page of an address of the module is a page of the module. -/
theorem Contains.hasPage {a : Word} (ha : m.Contains a) : m.HasPage (pageOf a) := by
  obtain ⟨hlo, hhi⟩ := ha
  have hb := m.base_aligned
  have h := toNat_pageOf a
  refine ⟨by omega, by omega, by omega⟩

theorem Holds.toNat_page {a : Word} {n k : ℕ} (h : m.Holds a n) (hk : k * 0x1000 < n) :
    (a + BitVec.ofNat 64 k * 0x1000#64).toNat = a.toNat + k * 0x1000 := by
  have hend := h.le_end
  have hn := m.no_wrap
  rw [BitVec.toNat_add, BitVec.toNat_mul, BitVec.toNat_ofNat, BitVec.toNat_ofNat]
  omega

/-- The pages of a range in the module are pages of the module. -/
theorem Holds.hasPage {a : Word} {n k : ℕ} (h : m.Holds a n) (hk : k * 0x1000 < n)
    (hn : n % 0x1000 = 0) : m.HasPage (a + BitVec.ofNat 64 k * 0x1000#64) := by
  have hpage := h.toNat_page hk
  obtain ⟨haligned, hlo, hhi⟩ := h
  exact ⟨by omega, by omega, by omega⟩

/-- Distinct pages of a range are distinct. -/
theorem Holds.page_injOn {a : Word} {n k k' : ℕ} (h : m.Holds a n) (hk : k * 0x1000 < n)
    (hk' : k' * 0x1000 < n)
    (heq : a + BitVec.ofNat 64 k * 0x1000#64 = a + BitVec.ofNat 64 k' * 0x1000#64) : k = k' := by
  have hnum := congrArg BitVec.toNat heq
  rw [h.toNat_page hk, h.toNat_page hk'] at hnum
  omega

end Module

theorem pageOf_add_offset (a : Word) : pageOf a + (a &&& 0xfff#64) = a := by
  have := a.isLt
  rw [← BitVec.toNat_inj, BitVec.toNat_add, toNat_pageOf, toNat_and_fff]
  omega

/-- Translations that agree on the module. -/
theorem FrameMap.congr {m : Module} {bound : ℕ} {f g : Word → Word} (h : FrameMap m bound f)
    (hg : ∀ a, m.Contains a → g a = f a) : FrameMap m bound g where
  add_offset a ha := by
    have hpage := ha.hasPage
    rw [hg a ha, hg _ hpage.2]
    exact h.add_offset a ha
  aligned p hp := by
    rw [hg p hp.2]
    exact h.aligned p hp
  lt p hp := by
    rw [hg p hp.2]
    exact h.lt p hp
  injOn := h.injOn.congr fun p hp => (hg p hp.2).symm

theorem FrameMap.mono {m : Module} {bound bound' : ℕ} {f : Word → Word} (h : FrameMap m bound f)
    (hle : bound ≤ bound') : FrameMap m bound' f where
  add_offset := h.add_offset
  aligned := h.aligned
  lt p hp := (h.lt p hp).trans_le hle
  injOn := h.injOn

/-- The identity mapping, which firmware runs under. -/
theorem frameMap_id (m : Module) {bound : ℕ} (h : m.base.toNat + m.size.toNat ≤ bound) :
    FrameMap m bound id where
  add_offset a _ := (pageOf_add_offset a).symm
  aligned _ hp := hp.1
  lt _ hp := hp.2.2.trans_le h
  injOn := Set.injOn_id _

end Zpp.Hypervisor
