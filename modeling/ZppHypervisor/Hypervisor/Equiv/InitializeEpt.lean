import Mathlib.Data.List.Find
import ZppHypervisor.Hypervisor.Ept
import ZppHypervisor.X64.Equiv.PageTable

/-!
# What `initialize_ept` stores

Every epdpt entry refers to its own epd and entry `(d, e)` of `epd` maps large page `512 * d + e` to
itself.  The memory type comes from the first MTRR record in register order that the search accepts,
so it is the type the precedence rules ask for exactly when that record already has it
(`initializeEpt_memoryType_iff`; `Equiv/Mtrrs.lean` has it for the registers of a processor).
-/

namespace Zpp.Hypervisor

open X64 X64.Intel Loop
open X64.PageTable (update_update_apply)

/-! ### The loops -/

section Loops

variable (layout : EptLayout) (vtp : Word → Word) (mtrrs : Vector Mtrr 8) (t : Ept)

/-- The epde of large page `n` after initialization. -/
def initialEpde (n : ℕ) : Epte :=
  ((((Epte.mk 0#64).setPermissions true).setLarge true).setLargePageNumber
    (BitVec.ofNat 64 n)).setType (largePageType mtrrs (BitVec.ofNat 64 n <<< 21))

variable {t} in
/-- Filling one epde. -/
theorem initializeEpde_spec (i j : ℕ) (hi : i < 512) (hj : j < 512) (n : Word) :
    let s := initializeEpde mtrrs i j (t, n)
    s.1.epml4 = t.epml4 ∧ s.1.epdpt = t.epdpt ∧ s.2 = n + 1#64 ∧
    ∀ d e : Fin 512, s.1.epd d e = if d.val = i ∧ e.val = j then
      ((((Epte.mk 0#64).setPermissions true).setLarge true).setLargePageNumber n).setType
        (largePageType mtrrs (n <<< 21)) else t.epd d e := by
  refine ⟨rfl, rfl, rfl, fun d e => ?_⟩
  simp only [initializeEpde, Ept.setEpde, update_update_apply, Fin.ext_iff, Fin.val_ofNat,
    Nat.mod_eq_of_lt hi, Nat.mod_eq_of_lt hj]

/-- The epdpte of an epd after initialization. -/
def initialEpdpte (d : Fin 512) : Epte :=
  ((Epte.mk 0#64).setPermissions true).setPageNumber (vtp (layout.epd d) >>> 12)

/-- The epdpt loop fills every entry. -/
theorem epdptLoop_spec :
    let t' := forRange 512 (initializeEpdpte layout vtp) t
    t'.epml4 = t.epml4 ∧ ∀ d, t'.epdpt d = initialEpdpte layout vtp d := by
  have h : (forRange 512 (initializeEpdpte layout vtp) t).epml4 = t.epml4 ∧
      ∀ d : Fin 512, d.val < 512 →
        (forRange 512 (initializeEpdpte layout vtp) t).epdpt d = initialEpdpte layout vtp d := by
    refine forRange_invariant
      (P := fun n (t' : Ept) => t'.epml4 = t.epml4 ∧
        ∀ d : Fin 512, d.val < n → t'.epdpt d = initialEpdpte layout vtp d)
      ⟨rfl, fun d hd => absurd hd d.val.not_lt_zero⟩ ?_
    rintro i hi t' ⟨h1, h2⟩
    refine ⟨h1, fun d hd => ?_⟩
    simp only [initializeEpdpte, Function.update_apply]
    split_ifs with h
    · rw [h, initialEpdpte]
    · refine h2 d (lt_of_le_of_ne (Nat.le_of_lt_succ hd) fun heq => h ?_)
      rw [Fin.ext_iff, Fin.val_ofNat, Nat.mod_eq_of_lt hi, heq]
  exact ⟨h.1, fun d => h.2 d d.isLt⟩

/-- The entries filled before the loops reach `epd[i][j]`: all rows before `i` and, in row `i`, the
entries before `j`. -/
structure FilledBefore (i j : ℕ) (s : Ept × Word) : Prop where
  epml4 : s.1.epml4 = t.epml4
  epdpt : s.1.epdpt = t.epdpt
  largePageNumber : s.2 = BitVec.ofNat 64 (512 * i + j)
  epd : ∀ d e : Fin 512, (d.val < i ∨ d.val = i ∧ e.val < j) →
    s.1.epd d e = initialEpde mtrrs (512 * d + e)

variable {mtrrs t} in
theorem FilledBefore.step {i j : ℕ} (hi : i < 512) (hj : j < 512) {s : Ept × Word}
    (h : FilledBefore mtrrs t i j s) : FilledBefore mtrrs t i (j + 1) (initializeEpde mtrrs i j s) := by
  obtain ⟨t', n⟩ := s
  obtain ⟨h1, h2, h3, h4⟩ := initializeEpde_spec mtrrs (t := t') i j hi hj n
  have hn := h.largePageNumber
  dsimp only at hn
  refine ⟨h1.trans h.epml4, h2.trans h.epdpt, ?_, fun d e hde => ?_⟩
  · rw [h3, hn, ← Nat.add_assoc]
    exact (BitVec.ofNat_add (512 * i + j) 1).symm
  · rw [h4]
    split_ifs with hij
    · rw [hij.1, hij.2, hn, initialEpde]
    · exact h.epd d e (by omega)

/-- The rows of `epd` are filled one after the other, each from left to right. -/
theorem epdLoop_spec :
    FilledBefore mtrrs t 512 0
      (forRange 512 (fun i => forRange 512 (initializeEpde mtrrs i)) (t, 0#64)) := by
  refine forRange_invariant (P := fun i s => FilledBefore mtrrs t i 0 s)
    ⟨rfl, rfl, rfl, fun d e hde => by omega⟩ fun i hi s hs => ?_
  have hrow : FilledBefore mtrrs t i 512 (forRange 512 (initializeEpde mtrrs i) s) :=
    forRange_invariant (P := fun j s => FilledBefore mtrrs t i j s) hs
      fun j hj s hs => hs.step hi hj
  exact ⟨hrow.epml4, hrow.epdpt, hrow.largePageNumber, fun d e hde => hrow.epd d e (by omega)⟩

theorem initializeEpds_spec :
    (initializeEpds mtrrs t).epml4 = t.epml4 ∧ (initializeEpds mtrrs t).epdpt = t.epdpt ∧
    ∀ d e : Fin 512, (initializeEpds mtrrs t).epd d e = initialEpde mtrrs (512 * d + e) := by
  have h := epdLoop_spec mtrrs t
  rw [initializeEpds]
  exact ⟨h.epml4, h.epdpt, fun d e => h.epd d e (Or.inl d.isLt)⟩

/-- The tables `initialize_ept` leaves behind. -/
structure Initialized (t' : Ept) : Prop where
  epml4 : t'.epml4 0 = ((t.epml4 0).setPermissions true).setPageNumber (vtp layout.epdpt >>> 12)
  epdpt : ∀ d, t'.epdpt d = initialEpdpte layout vtp d
  epd : ∀ d e : Fin 512, t'.epd d e = initialEpde mtrrs (512 * d + e)

theorem initialized_initializeEpt :
    Initialized layout vtp mtrrs t (initializeEpt layout vtp mtrrs t) := by
  unfold initializeEpt
  dsimp only
  set t₀ : Ept := { t with
    epml4 := Function.update t.epml4 0
      (((t.epml4 0).setPermissions true).setPageNumber (vtp layout.epdpt >>> 12)) } with ht₀
  obtain ⟨hepml4, hepdpt⟩ := epdptLoop_spec layout vtp t₀
  obtain ⟨h1, h2, h3⟩ := initializeEpds_spec mtrrs (forRange 512 (initializeEpdpte layout vtp) t₀)
  refine ⟨?_, fun d => ?_, h3⟩
  · rw [h1, hepml4]
    exact Function.update_self 0 _ t.epml4
  · rw [h2, hepdpt]

end Loops

/-! ### The memory type -/

/-- What the search decides, as numbers: the range contains the page, or it is empty and starts
inside. -/
theorem mtrrApplies_iff {r : Mtrr} {pa : Word} (hbounded : r.Bounded) (hpa : pa.toNat < 2 ^ 39)
    (htouch : r.Contains pa.toNat (2 ^ 21) ∨ r.Misses pa.toNat (2 ^ 21)) :
    mtrrApplies pa r = true ↔
      r.valid = true ∧ (r.Contains pa.toNat (2 ^ 21) ∨ r.EmptyInside pa.toNat (2 ^ 21)) := by
  rw [Mtrr.misses_iff (by decide), ← BitVec.toNat_inj, BitVec.toNat_ofNat] at htouch
  have hlast : (pa + ((1#64 <<< 21) - 1#64)).toNat = pa.toNat + (2 ^ 21 - 1) := by
    rw [BitVec.toNat_add, show ((1#64 <<< 21) - 1#64).toNat = 2 ^ 21 - 1 by decide]
    omega
  have hend : (r.physicalBase + r.size).toNat = r.physicalBase.toNat + r.size.toNat := by
    rw [BitVec.toNat_add, Nat.mod_eq_of_lt hbounded]
  unfold mtrrApplies
  simp only [BitVec.lt_def, ge_iff_le, BitVec.le_def, hlast, hend, Mtrr.EmptyInside,
    ← BitVec.toNat_inj, BitVec.toNat_ofNat]
  simp only [Mtrr.Contains] at htouch ⊢
  cases r.valid with
  | false => simp
  | true =>
    simp only [Bool.not_true, Bool.false_eq_true, if_false, true_and]
    split_ifs with h1 h2
    · simp only [false_iff]
      omega
    · simp only [false_iff]
      omega
    · simp only [true_iff]
      omega

/-- The valid ranges that contain the large page at `a`. -/
def containing (mtrrs : Vector Mtrr 8) (a : ℕ) : List Mtrr :=
  mtrrs.toList.filter fun r => r.valid && decide (r.Contains a (2 ^ 21))

/-- The memory type of a large page is the one the processor uses: the rules for overlapping ranges,
with write-back where there is none. -/
structure RespectsPrecedence (mtrrs : Vector Mtrr 8) (a : ℕ) (type : MemoryType) : Prop where
  none : containing mtrrs a = [] → type = .writeBack
  common : ∀ τ, containing mtrrs a ≠ [] → (∀ r ∈ containing mtrrs a, r.type = τ) → type = τ
  uncachable : (∃ r ∈ containing mtrrs a, r.type = .uncachable) → type = .uncachable
  writeThrough : (∀ r ∈ containing mtrrs a, r.type = .writeThrough ∨ r.type = .writeBack) →
    (∃ r ∈ containing mtrrs a, r.type = .writeThrough) →
    (∃ r ∈ containing mtrrs a, r.type = .writeBack) → type = .writeThrough

/-- The first valid record, in register order, whose range contains the large page at `a` or is empty
and starts inside it. -/
def firstRecord (mtrrs : Vector Mtrr 8) (a : ℕ) : Option Mtrr :=
  mtrrs.toList.find? fun r => r.valid &&
    (decide (r.Contains a (2 ^ 21)) || decide (r.EmptyInside a (2 ^ 21)))

/-- The first record prevails over the others: it is uncachable if any range is, write-through if all
are write-through or write-back and not all write-back, and if its own range is empty it has the
type that the page has without it. -/
structure FirstPrevails (mtrrs : Vector Mtrr 8) (a : ℕ) (r : Mtrr) : Prop where
  uncachable : (∃ r' ∈ containing mtrrs a, r'.type = .uncachable) → r.type = .uncachable
  writeThrough : (∀ r' ∈ containing mtrrs a, r'.type = .writeThrough ∨ r'.type = .writeBack) →
    (∃ r' ∈ containing mtrrs a, r'.type = .writeThrough) → r.type = .writeThrough
  empty : r.size = 0#64 → (containing mtrrs a = [] → r.type = .writeBack) ∧
    ∀ τ, containing mtrrs a ≠ [] → (∀ r' ∈ containing mtrrs a, r'.type = τ) → r.type = τ

theorem mem_containing {mtrrs : Vector Mtrr 8} {a : ℕ} {r : Mtrr} :
    r ∈ containing mtrrs a ↔ r ∈ mtrrs.toList ∧ r.valid = true ∧ r.Contains a (2 ^ 21) := by
  rw [containing, List.mem_filter, Bool.and_eq_true, decide_eq_true_eq]

theorem largePageType_eq {mtrrs : Vector Mtrr 8} {pa : Word}
    (hbounded : ∀ r ∈ mtrrs.toList, r.Bounded) (hpa : pa.toNat < 2 ^ 39)
    (htouch : ∀ r ∈ mtrrs.toList, r.valid = true →
      r.Contains pa.toNat (2 ^ 21) ∨ r.Misses pa.toNat (2 ^ 21)) :
    largePageType mtrrs pa =
      match firstRecord mtrrs pa.toNat with
      | none => .writeBack
      | some r => r.type := by
  have hfind : mtrrs.toList.find? (mtrrApplies pa) = firstRecord mtrrs pa.toNat := by
    refine List.find?_congr fun r hr => ?_
    rw [Bool.eq_iff_iff]
    cases hv : r.valid with
    | false => simp [mtrrApplies, hv]
    | true =>
      rw [mtrrApplies_iff (hbounded r hr) hpa (htouch r hr hv), hv]
      simp
  cases h : firstRecord mtrrs pa.toNat <;> simp only [largePageType, hfind, h]

/-- The type of the first record is right exactly when that record prevails. -/
theorem respectsPrecedence_iff_of_firstRecord {mtrrs : Vector Mtrr 8} {a : ℕ} {r : Mtrr}
    (h : firstRecord mtrrs a = some r) :
    RespectsPrecedence mtrrs a r.type ↔ FirstPrevails mtrrs a r := by
  have hmem := List.mem_of_find?_eq_some h
  have hr := List.find?_some h
  simp only [Bool.and_eq_true, Bool.or_eq_true, decide_eq_true_eq] at hr
  constructor
  · intro hp
    refine ⟨hp.uncachable, fun hall hwt => ?_, fun _ => ⟨hp.none, hp.common⟩⟩
    by_cases hwb : ∃ r' ∈ containing mtrrs a, r'.type = .writeBack
    · exact hp.writeThrough hall hwt hwb
    · obtain ⟨r', hr', -⟩ := hwt
      refine hp.common _ (List.ne_nil_of_mem hr') fun c hc => ?_
      exact (hall c hc).resolve_right fun h => hwb ⟨c, hc, h⟩
  · intro hf
    rcases hr with ⟨hvalid, hcontains | hempty⟩
    · -- The record is itself one of the containing ranges.
      have hin : r ∈ containing mtrrs a := mem_containing.mpr ⟨hmem, hvalid, hcontains⟩
      refine ⟨fun hnil => ?_, fun τ _ hall => hall r hin, hf.uncachable,
        fun hall hwt _ => hf.writeThrough hall hwt⟩
      rw [hnil] at hin
      exact absurd hin List.not_mem_nil
    · obtain ⟨hnone, hcommon⟩ := hf.empty hempty.1
      exact ⟨hnone, hcommon, hf.uncachable, fun hall hwt _ => hf.writeThrough hall hwt⟩

/-- Without any record write-back is right. -/
theorem respectsPrecedence_writeBack {mtrrs : Vector Mtrr 8} {a : ℕ}
    (h : firstRecord mtrrs a = none) : RespectsPrecedence mtrrs a .writeBack := by
  have hnil : containing mtrrs a = [] := by
    refine List.eq_nil_iff_forall_not_mem.mpr fun r hr => ?_
    obtain ⟨hmem, hvalid, hcontains⟩ := mem_containing.mp hr
    refine List.find?_eq_none.mp h r hmem ?_
    simp only [hvalid, hcontains, decide_true, Bool.true_or, Bool.and_self]
  refine ⟨fun _ => rfl, fun _ hne => absurd hnil hne, ?_, ?_⟩ <;> rw [hnil]
  · rintro ⟨r, hr, -⟩
    exact absurd hr List.not_mem_nil
  · rintro - ⟨r, hr, -⟩
    exact absurd hr List.not_mem_nil

/-- An architectural type survives the three-bit field. -/
theorem and_seven_of_architectural {r : Mtrr} (h : r.Architectural) : r.type &&& 0x7#32 = r.type := by
  simp only [Mtrr.Architectural, List.mem_cons, List.not_mem_nil, or_false] at h
  rcases h with h | h | h | h | h <;> rw [h] <;> decide

theorem firstRecord_mem {mtrrs : Vector Mtrr 8} {a : ℕ} {r : Mtrr}
    (h : firstRecord mtrrs a = some r) : r ∈ mtrrs.toList := List.mem_of_find?_eq_some h

/-- The start of large page `512 * d + e`. -/
theorem toNat_largePage (d e : Fin 512) :
    (BitVec.ofNat 64 (512 * d + e) <<< 21 : Word).toNat = (512 * d + e) * 2 ^ 21 := by
  rw [BitVec.toNat_shiftLeft, BitVec.toNat_ofNat, Nat.shiftLeft_eq]
  omega

/-- The type of a large page before it is put into the three-bit field. -/
theorem epdType_initializeEpt (layout : EptLayout) (vtp : Word → Word) (t : Ept)
    (mtrrs : Vector Mtrr 8) (d e : Fin 512) :
    ((initializeEpt layout vtp mtrrs t).epd d e).type =
      largePageType mtrrs (BitVec.ofNat 64 (512 * d + e) <<< 21) &&& 0x7#32 := by
  rw [(initialized_initializeEpt layout vtp mtrrs t).epd, initialEpde]
  exact (Epte.setType_fields _ _).2.2.2.2.1

/-- The type that the search finds is right exactly when the first record prevails. -/
theorem respectsPrecedence_largePageType_iff {mtrrs : Vector Mtrr 8} {pa : Word}
    (htype : ∀ r ∈ mtrrs.toList, r.Architectural) (hbounded : ∀ r ∈ mtrrs.toList, r.Bounded)
    (hpa : pa.toNat < 2 ^ 39)
    (htouch : ∀ r ∈ mtrrs.toList, r.valid = true →
      r.Contains pa.toNat (2 ^ 21) ∨ r.Misses pa.toNat (2 ^ 21)) :
    RespectsPrecedence mtrrs pa.toNat (largePageType mtrrs pa &&& 0x7#32) ↔
      ∀ r, firstRecord mtrrs pa.toNat = some r → FirstPrevails mtrrs pa.toNat r := by
  rw [largePageType_eq hbounded hpa htouch]
  cases hfirst : firstRecord mtrrs pa.toNat with
  | none => exact iff_of_true (respectsPrecedence_writeBack hfirst) fun r h => by cases h
  | some r =>
    dsimp only
    rw [and_seven_of_architectural (htype r (firstRecord_mem hfirst)),
      respectsPrecedence_iff_of_firstRecord hfirst]
    exact ⟨fun h r' hr' => Option.some.inj hr' ▸ h, fun h => h r rfl⟩

/-- **MTRR precedence.**  For records with architectural types each of whose valid ranges contains
the large page or misses it, the type in the page's epd entry follows the precedence rules exactly
when the first record that the search accepts prevails over the others. -/
theorem initializeEpt_memoryType_iff (layout : EptLayout) (vtp : Word → Word) (t : Ept)
    (mtrrs : Vector Mtrr 8) (d e : Fin 512) (htype : ∀ r ∈ mtrrs.toList, r.Architectural)
    (hbounded : ∀ r ∈ mtrrs.toList, r.Bounded)
    (htouch : ∀ r ∈ mtrrs.toList, r.valid = true →
      r.Contains ((512 * d + e) * 2 ^ 21) (2 ^ 21) ∨ r.Misses ((512 * d + e) * 2 ^ 21) (2 ^ 21)) :
    RespectsPrecedence mtrrs ((512 * d + e) * 2 ^ 21)
        ((initializeEpt layout vtp mtrrs t).epd d e).type ↔
      ∀ r, firstRecord mtrrs ((512 * d + e) * 2 ^ 21) = some r →
        FirstPrevails mtrrs ((512 * d + e) * 2 ^ 21) r := by
  have hpa := toNat_largePage d e
  rw [epdType_initializeEpt, ← hpa]
  exact respectsPrecedence_largePageType_iff htype hbounded (by omega) (hpa.symm ▸ htouch)

/-- 4 GiB of write-back memory with an uncachable hole for devices at 3 GiB, the hole first. -/
def holeFirst : Vector Mtrr 8 :=
  #v[⟨0xc0000000#64, 0x40000000#64, .uncachable, true⟩, ⟨0#64, 0x100000000#64, .writeBack, true⟩,
    {}, {}, {}, {}, {}, {}]

/-- The same ranges with the memory first. -/
def holeLast : Vector Mtrr 8 :=
  #v[⟨0#64, 0x100000000#64, .writeBack, true⟩, ⟨0xc0000000#64, 0x40000000#64, .uncachable, true⟩,
    {}, {}, {}, {}, {}, {}]

theorem initializeEpt_memoryType_holeFirst :
    RespectsPrecedence holeFirst ((512 * 3 + 0) * 2 ^ 21)
      ((initializeEpt ⟨0#64, 0#64⟩ id holeFirst .empty).epd 3 0).type := by
  refine (initializeEpt_memoryType_iff ⟨0#64, 0#64⟩ id .empty holeFirst 3 0 (by decide) (by decide)
    ?_).mpr ?_
  · have h : ∀ r ∈ holeFirst.toList, r.valid = true →
        r.Contains ((512 * 3 + 0) * 2 ^ 21) (2 ^ 21) := by decide
    exact fun r hr hv => Or.inl (h r hr hv)
  · intro r hr
    have hfirst : firstRecord holeFirst ((512 * 3 + 0) * 2 ^ 21) =
        some ⟨0xc0000000#64, 0x40000000#64, .uncachable, true⟩ := by decide
    have hmem : (⟨0xc0000000#64, 0x40000000#64, .uncachable, true⟩ : Mtrr) ∈
        containing holeFirst ((512 * 3 + 0) * 2 ^ 21) := by decide
    obtain rfl := Option.some.inj (hfirst.symm.trans hr)
    refine ⟨fun _ => rfl, fun hall _ => ?_, fun hempty => absurd hempty (by decide)⟩
    rcases hall _ hmem with h | h <;> exact absurd h (by decide)

/-- With the memory first, the hole is write-back. -/
theorem initializeEpt_memoryType_holeLast :
    (∀ r ∈ holeLast.toList, r.Architectural ∧ r.Bounded ∧
      (r.valid = true → r.Contains ((512 * 3 + 0) * 2 ^ 21) (2 ^ 21))) ∧
    ¬ RespectsPrecedence holeLast ((512 * 3 + 0) * 2 ^ 21)
      ((initializeEpt ⟨0#64, 0#64⟩ id holeLast .empty).epd 3 0).type := by
  refine ⟨by decide, fun hp => ?_⟩
  have hmem : (⟨0xc0000000#64, 0x40000000#64, .uncachable, true⟩ : Mtrr) ∈
      containing holeLast ((512 * 3 + 0) * 2 ^ 21) := by decide
  have huc := hp.uncachable ⟨_, hmem, rfl⟩
  have hwb : (initialEpde holeLast (512 * 3 + 0)).type = .writeBack := by decide
  rw [(initialized_initializeEpt _ _ _ _).epd] at huc
  exact absurd (hwb.symm.trans huc) (by decide)

end Zpp.Hypervisor
