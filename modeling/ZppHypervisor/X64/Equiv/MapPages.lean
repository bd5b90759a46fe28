import ZppHypervisor.Lib.ByteMemory
import ZppHypervisor.X64.Equiv.PageTable

/-!
# Runs of `map_page`

Address bits 29:12 and bit 38 select the leaf (`slot_eq_iff`), and a call replaces the fields of the leaf
of its address.  So after any calls the leaf of an address is that of the last call for an alias
(`leafAfter_mapPages`), although the tables above it are found by walking the table itself.  Two pages of
a window of 1 GiB are no aliases (`not_aliases_of_window`).
-/

namespace Zpp.X64.PageTable

open ByteMemory

/-! ### Aliases -/

/-- The addresses agree in the bits that select a leaf. -/
def Aliases (a b : Word) : Prop :=
  ∀ i < 64, 12 ≤ i ∧ i ≤ 29 ∨ i = 38 → a.getLsbD i = b.getLsbD i

instance (a b : Word) : Decidable (Aliases a b) :=
  inferInstanceAs (Decidable (∀ i < 64, _ → _))

/-- A field of a number is a range of its bits. -/
theorem div_mod_eq_iff {m n s k : ℕ} :
    m / 2 ^ s % 2 ^ k = n / 2 ^ s % 2 ^ k ↔ ∀ i, s ≤ i ∧ i < s + k → m.testBit i = n.testBit i := by
  constructor
  · intro h i hi
    have hbit := congrArg (Nat.testBit · (i - s)) h
    simp only [Nat.testBit_mod_two_pow, Nat.testBit_div_two_pow] at hbit
    rwa [decide_eq_true (by omega), Bool.true_and, Bool.true_and, Nat.sub_add_cancel hi.1] at hbit
  · intro h
    apply Nat.eq_of_testBit_eq
    intro i
    rw [Nat.testBit_mod_two_pow, Nat.testBit_mod_two_pow, Nat.testBit_div_two_pow,
      Nat.testBit_div_two_pow]
    by_cases hi : i < k
    · rw [h (i + s) (by omega)]
    · rw [decide_eq_false hi, Bool.false_and, Bool.false_and]

theorem aliases_iff (a b : Word) :
    Aliases a b ↔ a.toNat / 2 ^ 12 % 2 ^ 18 = b.toNat / 2 ^ 12 % 2 ^ 18 ∧
      a.toNat / 2 ^ 38 % 2 ^ 1 = b.toNat / 2 ^ 38 % 2 ^ 1 := by
  rw [div_mod_eq_iff, div_mod_eq_iff]
  constructor
  · intro h
    exact ⟨fun i hi => h i (by omega) (by omega), fun i hi => h i (by omega) (by omega)⟩
  · rintro ⟨hlow, hhigh⟩ i - hi
    rcases hi with hi | hi
    · exact hlow i (by omega)
    · exact hhigh i (by omega)

/-- The bits that select a leaf. -/
theorem slot_eq_iff (a b : Word) : slot a = slot b ↔ Aliases a b := by
  rw [aliases_iff, slot, slot, Prod.mk.injEq, Prod.mk.injEq, Fin.ext_iff, Fin.ext_iff, Fin.ext_iff,
    val_pdIndex, val_pdIndex, VirtualAddress.pde, VirtualAddress.pde, VirtualAddress.pte,
    VirtualAddress.pte, val_tableIndex_get, val_tableIndex_get, val_tableIndex_get,
    val_tableIndex_get]
  dsimp only
  omega

/-! ### Calls -/

/-- The arguments of a call of `map_page`. -/
structure MapCall where
  address : Word
  physicalAddress : Word
  protection : Protection

/-- The table after some calls of `map_page`, the first one first. -/
def mapPages (object : Word) (calls : List MapCall) (t : PageTable) : PageTable :=
  calls.foldl (fun t c => mapPage object t c.address c.physicalAddress c.protection) t

/-- The last call for an alias of the address. -/
def lastCall (calls : List MapCall) (a : Word) : Option MapCall :=
  calls.reverse.find? fun c => decide (Aliases c.address a)

theorem mapPages_concat (object : Word) (calls : List MapCall) (c : MapCall) (t : PageTable) :
    mapPages object (calls ++ [c]) t =
      mapPage object (mapPages object calls t) c.address c.physicalAddress c.protection :=
  List.foldl_concat _ _ _ _

theorem lastCall_concat (calls : List MapCall) (c : MapCall) (a : Word) :
    lastCall (calls ++ [c]) a = if Aliases c.address a then some c else lastCall calls a := by
  rw [lastCall, List.reverse_append, List.reverse_singleton, List.singleton_append, List.find?_cons]
  by_cases h : Aliases c.address a
  · rw [if_pos h, decide_eq_true h]
  · rw [if_neg h, decide_eq_false h]
    rfl

theorem mem_of_lastCall {calls : List MapCall} {a : Word} {c : MapCall}
    (h : lastCall calls a = some c) : c ∈ calls :=
  List.mem_reverse.mp (List.mem_of_find?_eq_some h)

/-! ### Leaves -/

/-- The entry is one that the call wrote. -/
structure LeafOf (c : MapCall) (e : Pte) : Prop where
  pageNumber : e.pageNumber = (c.physicalAddress >>> 12) &&& 0xffffffffff#64
  write : e.write = c.protection.has .write
  executeDisable : e.executeDisable = !c.protection.has .execute

/-- A call replaces the leaf of its address and leaves the others. -/
theorem leaf_mapPage (object : Word) (t : PageTable) (c : MapCall) (a : Word) :
    (mapPage object t c.address c.physicalAddress c.protection).leaf a =
      if Aliases c.address a then
        ((((t.leaf a).setPageNumber (c.physicalAddress >>> 12)).setWrite
          (c.protection.has .write)).setExecuteDisable (!c.protection.has .execute)).setPresent true
      else t.leaf a := by
  rw [leaf, mapPage, mapPageFrom_pts]
  exact if_congr (eq_comm.trans (slot_eq_iff c.address a)) rfl rfl

/-- What is known of the leaves after some calls. -/
def LeafAfter (calls : List MapCall) (t : PageTable) (a : Word) : Prop :=
  match lastCall calls a with
  | some c => LeafOf c (t.leaf a)
  | none => t.leaf a = ⟨0#64⟩

theorem leafAfter_mapPages (object : Word) (calls : List MapCall) (a : Word) :
    LeafAfter calls (mapPages object calls empty) a := by
  induction calls using List.reverseRecOn with
  | nil => rfl
  | append_singleton calls c ih =>
    unfold LeafAfter at ih ⊢
    rw [mapPages_concat, leaf_mapPage, lastCall_concat]
    by_cases h : Aliases c.address a
    · rw [if_pos h, if_pos h]
      constructor <;> simp
    · rw [if_neg h, if_neg h]
      exact ih

/-! ### No large pages -/

/-- A call leaves bit 7 of every entry. -/
theorem large_mapPage (object : Word) (t : PageTable) (a physicalAddress : Word)
    (protection : Protection) (T : Table) (i : Fin 512) :
    (T.entries (mapPage object t a physicalAddress protection) i).large = (T.entries t i).large := by
  have h := pointsAnew_mapPageFrom object t a physicalAddress protection virtualToPhysical
  cases T with
  | pml4 =>
    rcases h.pml4 i with h | ⟨physical, h⟩
    · exact congrArg Pte.large h
    · exact (congrArg Pte.large h).trans (pointTo_flags _ physical).1
  | pdpt =>
    rcases h.pdpt i with h | ⟨physical, h⟩
    · exact congrArg Pte.large h
    · exact (congrArg Pte.large h).trans (pointTo_flags _ physical).1
  | pds d =>
    rcases h.pds d i with h | ⟨physical, h⟩
    · exact congrArg Pte.large h
    · exact (congrArg Pte.large h).trans (pointTo_flags _ physical).1
  | pts d k =>
    rw [Table.entries, Table.entries, mapPage, mapPageFrom_pts]
    split_ifs <;> simp

theorem large_mapPages (object : Word) (calls : List MapCall) (T : Table) (i : Fin 512) :
    (T.entries (mapPages object calls empty) i).large = false := by
  induction calls using List.reverseRecOn with
  | nil => cases T <;> exact Pte.zero_fields.2.2.1
  | append_singleton calls c ih => rw [mapPages_concat, large_mapPage, ih]

theorem wellFormed_mapPages (object : Word) (calls : List MapCall) :
    (mapPages object calls empty).WellFormed := by
  induction calls using List.reverseRecOn with
  | nil => exact wellFormed_empty
  | append_singleton calls c ih =>
    rw [mapPages_concat]
    exact ih.mapPageFrom object c.address c.physicalAddress c.protection virtualToPhysical

/-! ### The law -/

/-- The page of an address. -/
def pageBase (a : Word) : Word := (a >>> 12) <<< 12

/-- The page number field has room for the frames below 2^52. -/
theorem field_shiftLeft {a : Word} (ha : a.toNat < 2 ^ 52) :
    ((a >>> 12) &&& 0xffffffffff#64) <<< 12 = pageBase a := by
  have hfield : ((a >>> 12) &&& 0xffffffffff#64).toNat = a.toNat / 2 ^ 12 % 2 ^ 40 :=
    BitField.toNat_get_low 12 40 a (by decide)
  have hlt : a.toNat / 2 ^ 12 < 2 ^ 40 := by omega
  rw [pageBase, ← BitVec.toNat_inj, BitVec.toNat_shiftLeft, BitVec.toNat_shiftLeft, hfield,
    BitVec.toNat_ushiftRight, Nat.shiftRight_eq_div_pow, Nat.mod_eq_of_lt hlt]

/-- Different pages of a window of 1 GiB are no aliases. -/
theorem not_aliases_of_window {a b w : Word} (ha : pageBase a ∈ Region w (2 ^ 30))
    (hb : pageBase b ∈ Region w (2 ^ 30)) (hne : pageBase a ≠ pageBase b) : ¬Aliases a b := by
  have hbase : ∀ x : Word, (pageBase x).toNat = x.toNat / 2 ^ 12 * 2 ^ 12 := fun x => by
    have hx := x.isLt
    rw [pageBase, BitVec.toNat_shiftLeft, BitVec.toNat_ushiftRight, Nat.shiftRight_eq_div_pow,
      Nat.shiftLeft_eq, Nat.mod_eq_of_lt (by omega)]
  have hdiff : (pageBase a).toNat ≠ (pageBase b).toNat := fun h => hne (BitVec.eq_of_toNat_eq h)
  have hw := w.isLt
  have hlta := a.isLt
  have hltb := b.isLt
  rw [mem_region, BitVec.toNat_sub, hbase] at ha hb
  rw [hbase, hbase] at hdiff
  rw [aliases_iff]
  omega

/-- What is known of a table after some calls. -/
structure AliasingLaw (calls : List MapCall) (t : PageTable) : Prop where
  translation : ∀ a, t.virtualToPhysical a =
    ((lastCall calls a).elim 0#64 fun c => pageBase c.physicalAddress) + (VirtualAddress.mk a).offset
  protection : ∀ a c, lastCall calls a = some c →
    (t.pageTableEntry a).write = c.protection.has .write ∧
      (t.pageTableEntry a).executeDisable = !c.protection.has .execute
  not_large : ∀ (T : Table) i, (T.entries t i).large = false

/-- **The aliasing law.**  The last call for an alias of an address counts, and calls for other pages of
a window of 1 GiB do not matter. -/
theorem mapPages_aliasing (object : Word) (calls : List MapCall)
    (hphysical : ∀ c ∈ calls, c.physicalAddress.toNat < 2 ^ 52) :
    AliasingLaw calls (mapPages object calls empty) ∧
      ∀ (c : MapCall) (a w : Word), pageBase c.address ∈ Region w (2 ^ 30) →
        pageBase a ∈ Region w (2 ^ 30) → pageBase c.address ≠ pageBase a →
        (mapPages object (calls ++ [c]) empty).virtualToPhysical a =
            (mapPages object calls empty).virtualToPhysical a ∧
          (mapPages object (calls ++ [c]) empty).pageTableEntry a =
            (mapPages object calls empty).pageTableEntry a := by
  have hwf := wellFormed_mapPages object
  constructor
  · constructor
    · intro a
      have hleaf := leafAfter_mapPages object calls a
      rw [virtualToPhysical_eq _ (hwf calls)]
      congr 1
      unfold LeafAfter at hleaf
      cases hlast : lastCall calls a with
      | some c =>
        simp only [hlast] at hleaf
        rw [hleaf.pageNumber]
        exact field_shiftLeft (hphysical c (mem_of_lastCall hlast))
      | none =>
        simp only [hlast] at hleaf
        rw [hleaf, Pte.zero_fields.2.2.2.2]
        exact BitVec.zero_shiftLeft 12
    · intro a c hlast
      have hleaf := leafAfter_mapPages object calls a
      simp only [LeafAfter, hlast] at hleaf
      rw [pageTableEntry_eq _ (hwf calls)]
      exact ⟨hleaf.write, hleaf.executeDisable⟩
    · exact large_mapPages object calls
  · intro c a w hc ha hne
    have hleaf : (mapPages object (calls ++ [c]) empty).leaf a =
        (mapPages object calls empty).leaf a := by
      rw [mapPages_concat, leaf_mapPage, if_neg (not_aliases_of_window hc ha hne)]
    rw [virtualToPhysical_eq _ (hwf _), virtualToPhysical_eq _ (hwf _), pageTableEntry_eq _ (hwf _),
      pageTableEntry_eq _ (hwf _), hleaf]
    exact ⟨rfl, rfl⟩

/-- Two pages 1 GiB apart, of which the second takes the place of the first. -/
theorem mapPages_aliasing_gigabyte :
    (mapPages 0x400000#64 [⟨0x1000#64, 0x7000#64, .read⟩, ⟨0x40001000#64, 0x9000#64, .write⟩]
      empty).virtualToPhysical 0x1234#64 = 0x9234#64 := by
  have hlaw := (mapPages_aliasing 0x400000#64
    [⟨0x1000#64, 0x7000#64, .read⟩, ⟨0x40001000#64, 0x9000#64, .write⟩] (by decide)).1
  rw [hlaw.translation]
  decide

end Zpp.X64.PageTable
