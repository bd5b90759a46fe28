import ZppHypervisor.Hypervisor.Equiv.Ept

/-!
# Runs of `protect_module` and `unprotect_guest_memory`

One iteration of either loop is a step of `EptInv`: it changes the permissions of one small page,
after giving its large page a table if there is none yet.  The table is found again through the
physical-to-virtual map, because the map inverts the translation and the tables are pages of the
module.
-/

namespace Zpp.Hypervisor

open X64 X64.Intel Loop

/-! ### The tables as pages of the module -/

theorem EptLayout.ept_eq (layout : EptLayout) (k : Fin eptCount) :
    layout.ept k = layout.epml4 + BitVec.ofNat 64 (514 + k) * 0x1000#64 := by
  have hepd : BitVec.ofNat 64 514 * 0x1000#64 = 0x202000#64 := by decide
  rw [EptLayout.ept, BitVec.mul_comm, BitVec.ofNat_add, BitVec.add_mul, ← BitVec.add_assoc, hepd]

/-- The page of a table of `ept` is a page of the module. -/
theorem hasPage_ept {m : Module} {layout : EptLayout}
    (htables : m.Holds layout.epml4 EptLayout.tablesSize) (k : Fin eptCount) :
    m.HasPage (layout.ept k) := by
  have hk : k.val < 1024 := k.isLt
  rw [layout.ept_eq]
  exact htables.hasPage (by rw [EptLayout.tablesSize]; omega) (by decide)

theorem EptLayout.eptAt_ept (layout : EptLayout) (k : Fin eptCount) :
    layout.eptAt (layout.ept k) = some k := by
  have hk : k.val < 1024 := k.isLt
  have hoffset : (layout.ept k - layout.ept 0).toNat = 0x1000 * k := by
    rw [EptLayout.ept, EptLayout.ept, Fin.val_zero, BitVec.mul_zero, BitVec.add_zero,
      BitVec.add_comm, BitVec.add_sub_cancel, BitVec.toNat_mul, BitVec.toNat_ofNat,
      BitVec.toNat_ofNat]
    omega
  unfold EptLayout.eptAt
  dsimp only
  rw [hoffset, dif_pos (by omega), if_pos (by omega), Option.some.injEq, Fin.ext_iff]
  dsimp only
  omega

section Lookup

variable {capacity : ℕ} {m : Module} {layout : EptLayout} {vtp : Word → Word}
  {map : PhysicalToVirtual capacity} {l : List (Word × Word)}

/-- The frame number of a page-aligned frame below 2^52 loses nothing. -/
theorem frameNumber_shiftLeft {f : Word} (haligned : f.toNat % 0x1000 = 0)
    (hlt : f.toNat < 2 ^ 52) : frameNumber f <<< 12 = f := frame_roundTrip haligned hlt

/-- The lookup of the frame an epde holds: the map has an entry for it, the table of `ept` that lies
there. -/
def LookupHits (layout : EptLayout) (vtp : Word → Word) (map : PhysicalToVirtual capacity) (t : Ept)
    (r : Region) : Prop :=
  ∃ it k, map.find less ((t.epd r.1 r.2).pageNumber <<< 12) = some it ∧
    map.value it = some ((t.epd r.1 r.2).pageNumber <<< 12, layout.ept k) ∧
    vtp (layout.ept k) = (t.epd r.1 r.2).pageNumber <<< 12

variable (hvtp : FrameMap m (2 ^ 39) vtp) (htables : m.Holds layout.epml4 EptLayout.tablesSize)
  (hmap : InvertsPages m vtp m.pages map l)

include hvtp htables in
theorem frameNumber_ept (k : Fin eptCount) :
    frameNumber (vtp (layout.ept k)) <<< 12 = vtp (layout.ept k) := by
  have hpage := hasPage_ept htables k
  have hlt := hvtp.lt _ hpage
  exact frameNumber_shiftLeft (hvtp.aligned _ hpage) (by omega)

include hvtp htables hmap in
theorem lookupHits_of_split {type : Region → MemoryType} {owner : Region → Option (Fin eptCount)}
    {denied : Region → Fin 512 → Prop} {t : Ept} (h : EptInv layout vtp type owner denied t)
    {r : Region} {k : Fin eptCount} (hk : owner r = some k) : LookupHits layout vtp map t r := by
  obtain ⟨it, hfind, hvalue⟩ := hmap.find (hasPage_ept htables k)
  have hframe : (t.epd r.1 r.2).pageNumber <<< 12 = vtp (layout.ept k) := by
    rw [(h.split r k hk).2, frameNumber_ept hvtp htables k]
  rw [LookupHits, hframe]
  exact ⟨it, k, hfind, hvalue, rfl⟩

include hvtp htables hmap in
/-- Both functions find the table that the epde refers to. -/
theorem findEpt_eq {type : Region → MemoryType} {owner : Region → Option (Fin eptCount)}
    {denied : Region → Fin 512 → Prop} {t : Ept} (h : EptInv layout vtp type owner denied t)
    {r : Region} {k : Fin eptCount} (hk : owner r = some k) :
    findEpt layout map ((t.epd r.1 r.2).pageNumber <<< 12) = some k := by
  obtain ⟨it, hfind, hvalue⟩ := hmap.find (hasPage_ept htables k)
  rw [(h.split r k hk).2, frameNumber_ept hvtp htables k]
  rw [findEpt, hfind, Option.bind_eq_bind, Option.bind_some, hvalue, Option.bind_eq_bind,
    Option.bind_some]
  exact layout.eptAt_ept k

end Lookup

/-! ### One page -/

section Step

variable {capacity : ℕ} {m : Module} {layout : EptLayout} {vtp : Word → Word}
  {map : PhysicalToVirtual capacity} {l : List (Word × Word)} {type : Region → MemoryType}
  {owner : Region → Option (Fin eptCount)} {denied : Region → Fin 512 → Prop} {t : Ept} {p : Word}

variable (hvtp : FrameMap m (2 ^ 39) vtp) (htables : m.Holds layout.epml4 EptLayout.tablesSize)
  (hmap : InvertsPages m vtp m.pages map l) (h : EptInv layout vtp type owner denied t)
  (hp : m.HasPage p)

include hvtp htables hmap h hp in
/-- Protecting a page whose large page already has a table. -/
theorem protectPage_of_split {k : Fin eptCount} (hk : owner (region (vtp p)) = some k)
    (eptIndex : ℕ) :
    protectPage layout vtp map p (t, eptIndex) =
      .next (t.setEptePermissions k (vtp p) false, eptIndex) := by
  unfold protectPage
  dsimp only
  rw [epdIndices_eq (hvtp.lt p hp), Outcome.ofOption_some, Outcome.next_bind,
    (h.split _ k hk).1, findEpt_eq hvtp htables hmap h hk]
  simp only [Bool.not_false, if_true, Outcome.ofOption_some, Outcome.next_bind, Outcome.pure_eq]

include hvtp h hp in
/-- Protecting the first page of a large page: it takes the next table. -/
theorem protectPage_of_large (hr : owner (region (vtp p)) = none) {eptIndex : ℕ}
    (hlt : eptIndex < eptCount) :
    protectPage layout vtp map p (t, eptIndex) =
      if eptIndex + 1 = eptCount then .returned .outOfEptEntries
      else .next ((splitLargePage layout vtp t (region (vtp p)) ⟨eptIndex, hlt⟩).setEptePermissions
        ⟨eptIndex, hlt⟩ (vtp p) false, eptIndex + 1) := by
  unfold protectPage
  dsimp only
  rw [epdIndices_eq (hvtp.lt p hp), Outcome.ofOption_some, Outcome.next_bind,
    (h.large _ hr).1, dif_pos hlt]
  simp only [Bool.not_true, Bool.false_eq_true, if_false, Outcome.pure_eq, splitLargePage]

include hvtp htables hmap h hp in
theorem unprotectPage_of_split {k : Fin eptCount} (hk : owner (region (vtp p)) = some k) :
    unprotectPage layout vtp map p t = .next (t.setEptePermissions k (vtp p) true) := by
  unfold unprotectPage
  dsimp only
  rw [epdIndices_eq (hvtp.lt p hp), Outcome.ofOption_some, Outcome.next_bind,
    findEpt_eq hvtp htables hmap h hk]
  simp only [Outcome.ofOption_some, Outcome.next_bind, Outcome.pure_eq]

end Step

/-! ### Initial tables -/

/-- The memory type `initialize_ept` has chosen for a large page. -/
def initialType (mtrrs : Vector Mtrr 8) (r : Region) : MemoryType :=
  (initialEpde mtrrs (largePage r)).type

/-- After `initialize_ept` every large page is mapped by its epde and nothing is denied. -/
theorem eptInv_initializeEpt (layout : EptLayout) (vtp : Word → Word) (mtrrs : Vector Mtrr 8)
    (t : Ept) :
    EptInv layout vtp (initialType mtrrs) (fun _ => none) (fun _ _ => False)
      (initializeEpt layout vtp mtrrs t) := by
  obtain ⟨h1, h2, h3⟩ := initialized_initializeEpt layout vtp mtrrs t
  have hepd : ∀ r : Region, (initializeEpt layout vtp mtrrs t).epd r.1 r.2 =
      initialEpde mtrrs (largePage r) := fun r => h3 r.1 r.2
  refine ⟨?_, fun d => ?_, fun r => ?_, fun r _ => ?_, fun r k hk => ?_, fun r k hk => ?_,
    fun r r' k hk => ?_⟩
  · rw [h1]
    simp [Epte.HasPermissions, Epte.setPermissions, frameNumber]
  · rw [h2, initialEpdpte]
    have hlarge : (Epte.mk 0#64).large = false := by decide
    simp [Epte.HasPermissions, Epte.setPermissions, frameNumber, hlarge]
  · rw [hepd, initialEpde]
    simp [Epte.HasPermissions, Epte.setPermissions]
  · have hlt := largePage_lt r
    have hnumber : BitVec.ofNat 64 (largePage r) &&& 0x7fffffff#64 =
        BitVec.ofNat 64 (largePage r) := by
      rw [← BitVec.toNat_inj, show 0x7fffffff#64 = BitVec.ofNat 64 (2 ^ 31 - 1) by decide,
        toNat_and_low 31 _ (by decide), BitVec.toNat_ofNat]
      omega
    refine ⟨?_, ?_, ?_, fun _ h => h⟩
    · rw [hepd, initialEpde]
      simp
    · rw [hepd, initialEpde]
      simp [hnumber]
    · rw [hepd, initialType]
  · cases hk
  · cases hk
  · cases hk

/-! ### Runs -/

section Run

variable {capacity : ℕ} {m : Module} {layout : EptLayout} {vtp : Word → Word}
  {map : PhysicalToVirtual capacity} {l : List (Word × Word)} {type : Region → MemoryType}
  {t : Ept}

/-- The large pages that the first `n` pages of the module lie in. -/
def touchedRegions (m : Module) (vtp : Word → Word) (n : ℕ) : Finset Region :=
  (Finset.range n).image fun i => region (vtp (m.page i))

theorem touchedRegions_succ (n : ℕ) :
    touchedRegions m vtp (n + 1) = insert (region (vtp (m.page n))) (touchedRegions m vtp n) := by
  rw [touchedRegions, Finset.range_add_one, Finset.image_insert, touchedRegions]

theorem touchedRegions_mono {n n' : ℕ} (h : n ≤ n') :
    touchedRegions m vtp n ⊆ touchedRegions m vtp n' :=
  Finset.image_subset_image (Finset.range_subset_range.mpr h)

/-- One of the first `n` frames is the small page `j` of `r`. -/
def Covers (frame : ℕ → Word) (n : ℕ) (r : Region) (j : Fin 512) : Prop :=
  ∃ i < n, r = region (frame i) ∧ j = Ept.eptIndex (frame i)

theorem not_covers_zero (frame : ℕ → Word) (r : Region) (j : Fin 512) : ¬ Covers frame 0 r j :=
  fun ⟨i, hi, _⟩ => i.not_lt_zero hi

theorem covers_succ (frame : ℕ → Word) (n : ℕ) (r : Region) (j : Fin 512) :
    Covers frame (n + 1) r j ↔
      (r = region (frame n) ∧ j = Ept.eptIndex (frame n)) ∨ Covers frame n r j := by
  constructor
  · rintro ⟨i, hi, h⟩
    rcases Nat.lt_succ_iff_lt_or_eq.mp hi with hi | rfl
    · exact Or.inr ⟨i, hi, h⟩
    · exact Or.inl h
  · rintro (h | ⟨i, hi, h⟩)
    · exact ⟨n, n.lt_succ_self, h⟩
    · exact ⟨i, hi.trans n.lt_succ_self, h⟩

/-- The frame of page `i` of the module. -/
def pageFrame (m : Module) (vtp : Word → Word) (i : ℕ) : Word := vtp (m.page i)

/-- After `n` iterations of `protect_module`: the pages done are denied, the large pages touched have
tables, and `ept_index` counts these. -/
structure ProtectInv (m : Module) (layout : EptLayout) (vtp : Word → Word)
    (type : Region → MemoryType) (owner : Region → Option (Fin eptCount)) (n : ℕ) (t : Ept)
    (eptIndex : ℕ) : Prop where
  inv : EptInv layout vtp type owner (Covers (pageFrame m vtp) n) t
  owned_iff : ∀ r, owner r ≠ none ↔ r ∈ touchedRegions m vtp n
  eptIndex_eq : eptIndex = (touchedRegions m vtp n).card
  owned_lt : ∀ r k, owner r = some k → k.val < eptIndex
  eptIndex_lt : eptIndex < eptCount

variable (hvtp : FrameMap m (2 ^ 39) vtp) (htables : m.Holds layout.epml4 EptLayout.tablesSize)
  (hmap : InvertsPages m vtp m.pages map l)

include hvtp htables hmap in
/-- One iteration of `protect_module`. -/
theorem ProtectInv.step {owner : Region → Option (Fin eptCount)} {n : ℕ} (hn : n < m.pages)
    {eptIndex : ℕ} (h : ProtectInv m layout vtp type owner n t eptIndex) :
    (protectPage layout vtp map (m.page n) (t, eptIndex)).Ensures
      (fun s => ∃ owner', ProtectInv m layout vtp type owner' (n + 1) s.1 s.2)
      (fun error => error = .outOfEptEntries ∧ eptCount ≤ (touchedRegions m vtp m.pages).card) := by
  have hpage := Module.hasPage_page hn
  cases hr : owner (region (vtp (m.page n))) with
  | some k =>
    rw [protectPage_of_split hvtp htables hmap h.inv hpage hr]
    have hmem : region (vtp (m.page n)) ∈ touchedRegions m vtp n :=
      (h.owned_iff _).mp (by rw [hr]; exact Option.some_ne_none k)
    have hsame : touchedRegions m vtp (n + 1) = touchedRegions m vtp n := by
      rw [touchedRegions_succ, Finset.insert_eq_of_mem hmem]
    refine ⟨owner, (h.inv.setEptePermissions hr false).congr fun r j => ?_, ?_, ?_, h.owned_lt,
      h.eptIndex_lt⟩
    · rw [covers_succ]
      split_ifs with hc
      · exact iff_of_true (Or.inl hc) rfl
      · exact or_iff_right hc
    · rw [hsame]
      exact h.owned_iff
    · rw [hsame]
      exact h.eptIndex_eq
  | none =>
    rw [protectPage_of_large hvtp h.inv hpage hr h.eptIndex_lt]
    have hnotMem : region (vtp (m.page n)) ∉ touchedRegions m vtp n :=
      fun hmem => (h.owned_iff _).mpr hmem hr
    have hcard : (touchedRegions m vtp (n + 1)).card = eptIndex + 1 := by
      rw [touchedRegions_succ, Finset.card_insert_of_notMem hnotMem, h.eptIndex_eq]
    by_cases hlast : eptIndex + 1 = eptCount
    · rw [if_pos hlast]
      refine ⟨rfl, ?_⟩
      rw [← hlast, ← hcard]
      exact Finset.card_le_card (touchedRegions_mono hn)
    · rw [if_neg hlast]
      have hfresh : ∀ r, owner r ≠ some ⟨eptIndex, h.eptIndex_lt⟩ :=
        fun r hk => lt_irrefl _ (h.owned_lt r _ hk)
      have hsplit := h.inv.splitLargePage hr hfresh
      refine ⟨_, (hsplit.setEptePermissions (Function.update_self _ _ _) false).congr fun r j => ?_,
        fun r => ?_, hcard.symm, fun r k hk => ?_,
        lt_of_le_of_ne (Nat.succ_le_of_lt h.eptIndex_lt) hlast⟩
      · rw [covers_succ]
        split_ifs with hc
        · exact iff_of_true (Or.inl hc) rfl
        · exact or_iff_right hc
      · rw [touchedRegions_succ, Finset.mem_insert, ← h.owned_iff]
        by_cases hne : r = region (vtp (m.page n))
        · subst hne
          rw [Function.update_self]
          exact iff_of_true (Option.some_ne_none _) (Or.inl rfl)
        · rw [Function.update_of_ne hne]
          exact (or_iff_right hne).symm
      · by_cases hne : r = region (vtp (m.page n))
        · subst hne
          rw [Function.update_self] at hk
          obtain rfl := Option.some.inj hk
          exact eptIndex.lt_succ_self
        · rw [Function.update_of_ne hne] at hk
          exact (h.owned_lt r k hk).trans eptIndex.lt_succ_self

include hvtp htables hmap in
/-- Every prefix of the run of `protect_module`. -/
theorem protectPages_spec {denied : Region → Fin 512 → Prop}
    (ht : EptInv layout vtp type (fun _ => none) denied t) {n : ℕ} (hn : n ≤ m.pages) :
    (protectPages layout vtp map m.base n t).Ensures
      (fun s => ∃ owner, ProtectInv m layout vtp type owner n s.1 s.2)
      (fun error => error = .outOfEptEntries ∧ eptCount ≤ (touchedRegions m vtp m.pages).card) := by
  refine forRangeM_invariant
    (P := fun n (s : Ept × ℕ) => ∃ owner, ProtectInv m layout vtp type owner n s.1 s.2) ?_ ?_
  · refine ⟨fun _ => none, ht.congr fun r j => ?_, fun r => ?_, rfl, fun r k hk => ?_, ?_⟩
    · exact iff_of_false (not_covers_zero _ r j) ((ht.large r rfl).2.2.2 j)
    · exact iff_of_false (fun hne => hne rfl) (Finset.notMem_empty r)
    · cases hk
    · exact (by decide : 0 < eptCount)
  · rintro i hi s ⟨owner, hs⟩
    exact hs.step hvtp htables hmap (hi.trans_le hn)

/-- Page `i` of the unprotected memory. -/
def EptLayout.unprotectedPage (layout : EptLayout) (i : ℕ) : Word :=
  layout.unprotectedMemory + BitVec.ofNat 64 i * pageSize

/-- The frame of page `i` of the unprotected memory. -/
def unprotectedFrame (layout : EptLayout) (vtp : Word → Word) (i : ℕ) : Word :=
  vtp (layout.unprotectedPage i)

theorem hasPage_unprotectedPage
    (hunprotected : m.Holds layout.unprotectedMemory unprotectedMemorySize) {i : ℕ}
    (hi : i < unprotectedMemorySize / 0x1000) : m.HasPage (layout.unprotectedPage i) := by
  have hsize : unprotectedMemorySize = 257 * 0x1000 := by decide
  rw [hsize] at hi
  exact hunprotected.hasPage (by rw [hsize]; omega) (by decide)

include hvtp htables hmap in
/-- Every prefix of the run of `unprotect_guest_memory`. -/
theorem unprotectPages_spec {owner : Region → Option (Fin eptCount)} {eptIndex : ℕ}
    (hunprotected : m.Holds layout.unprotectedMemory unprotectedMemorySize)
    (ht : ProtectInv m layout vtp type owner m.pages t eptIndex) {n : ℕ}
    (hn : n ≤ unprotectedMemorySize / 0x1000) :
    (unprotectPages layout vtp map n t).Ensures
      (fun t' => EptInv layout vtp type owner
        (fun r j => Covers (pageFrame m vtp) m.pages r j ∧
          ¬ Covers (unprotectedFrame layout vtp) n r j) t')
      (fun _ => False) := by
  refine forRangeM_invariant
    (P := fun n t' => EptInv layout vtp type owner
      (fun r j => Covers (pageFrame m vtp) m.pages r j ∧
        ¬ Covers (unprotectedFrame layout vtp) n r j) t') ?_ ?_
  · exact ht.inv.congr fun r j => and_iff_left (not_covers_zero _ r j)
  · intro i hi t' ht'
    have hpage := hasPage_unprotectedPage hunprotected (hi.trans_le hn)
    -- The page is one of the module's, so its large page has a table by now.
    obtain ⟨k, hk, heq⟩ := hpage.exists_page
    have hmem : region (vtp (layout.unprotectedPage i)) ∈ touchedRegions m vtp m.pages :=
      Finset.mem_image.mpr ⟨k, Finset.mem_range.mpr hk, by rw [heq]⟩
    obtain ⟨e, he⟩ := Option.ne_none_iff_exists'.mp ((ht.owned_iff _).mpr hmem)
    show (unprotectPage layout vtp map (layout.unprotectedPage i) t').Ensures _ _
    rw [unprotectPage_of_split hvtp htables hmap ht' hpage he]
    refine (ht'.setEptePermissions he true).congr fun r j => ?_
    rw [covers_succ, not_or]
    split_ifs with hc
    · exact iff_of_false (fun h => h.2.1 hc) id
    · exact and_congr_right fun _ => and_iff_right hc

end Run

end Zpp.Hypervisor
