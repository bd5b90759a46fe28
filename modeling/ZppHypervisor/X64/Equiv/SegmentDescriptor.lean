import ZppHypervisor.X64.Gdt

/-!
# Segment descriptors and segment state

When the limit and the access rights of a descriptor are those that the processor keeps
(`limit_eq_byteLimit_iff`, `vmxAccessRights_eq_iff`).
-/

namespace Zpp.X64.SegmentDescriptor

open BitField

variable {d : SegmentDescriptor}

/-- The limit field has twenty bits. -/
theorem getLsbD_limit (i : ℕ) (hi : 20 ≤ i) : d.limit.getLsbD i = false := by
  have hlow : (0xffff#64).getLsbD i = false := by
    rw [BitVec.getLsbD, BitVec.toNat_ofNat]
    exact Nat.testBit_lt_two_pow
      (lt_of_lt_of_le (by decide : _ < 2 ^ 20) (Nat.pow_le_pow_right (by decide) hi))
  have hhigh : (0xf#64).getLsbD (i - 16) = false := by
    rw [BitVec.getLsbD, BitVec.toNat_ofNat]
    exact Nat.testBit_lt_two_pow
      (lt_of_lt_of_le (by decide : _ < 2 ^ 4) (Nat.pow_le_pow_right (by decide) (by omega)))
  unfold limit limitLow limitHigh
  rw [BitVec.getLsbD_or, BitVec.getLsbD_and, hlow, BitVec.getLsbD_shiftLeft, getLsbD_get, hhigh,
    Bool.and_false, Bool.and_false, Bool.and_false, Bool.or_false]

/-- A scaled limit ends in twelve ones, so it has more than twenty bits if those are its own. -/
theorem limit_ne_scaled : d.limit ≠ d.limit <<< 12 ||| 0xfff#64 := by
  intro h
  have hbit : ∀ i, d.limit.getLsbD i =
      (decide (i < 64) && !decide (i < 12) && d.limit.getLsbD (i - 12) || (0xfff#64).getLsbD i) :=
    fun i => by
      have hi := congrArg (BitVec.getLsbD · i) h
      simp only [BitVec.getLsbD_or, BitVec.getLsbD_shiftLeft] at hi
      exact hi
  have hlow : d.limit.getLsbD 8 = true := by
    rw [hbit 8]
    exact Bool.or_true _
  have hhigh : d.limit.getLsbD 20 = d.limit.getLsbD 8 := by
    rw [hbit 20]
    exact Bool.or_false _
  rw [getLsbD_limit 20 (le_refl 20), hlow] at hhigh
  exact absurd hhigh Bool.false_ne_true

theorem limit_eq_byteLimit_iff : d.limit = byteLimit d ↔ d.granularity = false := by
  unfold byteLimit
  cases d.granularity with
  | true => exact iff_of_false limit_ne_scaled (Bool.true_eq_false ▸ not_false)
  | false => exact iff_of_true rfl rfl

/-- The word of the rights is the one in the descriptor, with the limit bits in the middle. -/
theorem getLsbD_rights (i : ℕ) (hi : i < 16) :
    (get 40 0xffff#64 d.entry).getLsbD i = d.entry.getLsbD (40 + i) := by
  have hmask : ∀ i < 16, (0xffff#64).getLsbD i = true := by decide
  rw [getLsbD_get, hmask i hi, Bool.and_true]

theorem rights_eq_iff :
    (get 40 0xffff#64 d.entry).setWidth 32 = accessRights d ↔ d.limitHigh = 0#64 := by
  have hmask : ∀ i < 32, (0xffff#64).getLsbD i =
      ((0xf0ff#64).getLsbD i || decide (8 ≤ i) && (0xf#64).getLsbD (i - 8)) := by decide
  have hdisjoint : ∀ i < 4, (0xf0ff#64).getLsbD (8 + i) = false := by decide
  have hhigh : ∀ i < 64, 4 ≤ i → (0xf#64).getLsbD i = false := by decide
  unfold accessRights limitHigh
  constructor
  · intro h
    apply BitVec.eq_of_getLsbD_eq
    intro i hi
    rw [getLsbD_get, BitVec.getLsbD_zero]
    by_cases hfour : i < 4
    · have hbit := congrArg (BitVec.getLsbD · (8 + i)) h
      simp only [BitVec.getLsbD_setWidth, getLsbD_get, hdisjoint i hfour, Bool.and_false,
        hmask (8 + i) (by omega), Bool.false_or, Nat.add_sub_cancel_left] at hbit
      rw [decide_eq_true (by omega), decide_eq_true (by omega), Bool.true_and, Bool.true_and] at hbit
      rw [show 48 + i = 40 + (8 + i) by omega]
      exact hbit
    · rw [hhigh i hi (by omega), Bool.and_false]
  · intro h
    apply BitVec.eq_of_getLsbD_eq
    intro i hi
    rw [BitVec.getLsbD_setWidth, BitVec.getLsbD_setWidth, getLsbD_get, getLsbD_get, hmask i hi]
    by_cases height : 8 ≤ i
    · have hbit := congrArg (BitVec.getLsbD · (i - 8)) h
      simp only [getLsbD_get, BitVec.getLsbD_zero] at hbit
      rw [show 48 + (i - 8) = 40 + i by omega] at hbit
      rw [Bool.and_or_distrib_left, decide_eq_true height, Bool.true_and, hbit, Bool.or_false]
    · rw [decide_eq_false height, Bool.false_and, Bool.or_false]

/-- For a present segment, the rights written are those that the processor keeps if the high part of
the limit is zero. -/
theorem vmxAccessRights_eq_iff (hpresent : d.present = true) :
    d.vmxAccessRights = accessRights d ↔ d.limitHigh = 0#64 := by
  rw [← rights_eq_iff]
  unfold vmxAccessRights
  rw [hpresent, if_pos rfl, BitVec.zero_shiftLeft, BitVec.or_zero]

/-- The rights written are those of an unusable segment only if the descriptor has none. -/
theorem vmxAccessRights_eq_unusable_iff :
    d.vmxAccessRights = unusable ↔ get 40 0xffff#64 d.entry = 0#64 := by
  have hmask : ∀ i < 64, 16 ≤ i → (0xffff#64).getLsbD i = false := by decide
  have hunusable : ∀ i < 16, unusable.getLsbD i = false := by decide
  have hflag : ∀ i < 16, ((if d.present then 0#32 else 1#32) <<< 16).getLsbD i = false := by
    intro i hi
    rw [BitVec.getLsbD_shiftLeft, decide_eq_true hi, Bool.not_true, Bool.and_false, Bool.false_and]
  constructor
  · intro h
    apply BitVec.eq_of_getLsbD_eq
    intro i hi
    rw [BitVec.getLsbD_zero]
    by_cases hsixteen : i < 16
    · have hbit := congrArg (BitVec.getLsbD · i) h
      unfold vmxAccessRights at hbit
      simp only [BitVec.getLsbD_or, BitVec.getLsbD_setWidth, hflag i hsixteen, hunusable i hsixteen,
        Bool.or_false] at hbit
      rw [decide_eq_true (by omega), Bool.true_and] at hbit
      exact hbit
    · rw [getLsbD_get, hmask i hi (by omega), Bool.and_false]
  · intro h
    have hpresent : d.present = false := by
      have hbit := getLsbD_rights (d := d) 7 (by decide)
      rw [h, BitVec.getLsbD_zero] at hbit
      unfold present
      rw [test_eq _ _ (by decide), ← hbit]
    unfold vmxAccessRights
    rw [h, hpresent]
    rfl

/-! ### Bases -/

theorem contextDependentBase_of_system (h : d.system = true) :
    d.contextDependentBase = d.baseExtended :=
  if_pos h

/-- The base of a code or data segment does not depend on the word after its entry. -/
theorem contextDependentBase_of_entry {d' : SegmentDescriptor} (h : d.entry = d'.entry)
    (hsystem : d'.system = false) : d.contextDependentBase = d'.base := by
  have hsystem' : d.system = false := by
    unfold system at hsystem ⊢
    rw [h]
    exact hsystem
  have hbase : d.base = d'.base := by
    unfold base baseLow baseMiddle baseHigh
    rw [h]
  unfold contextDependentBase
  rw [if_neg (Bool.eq_false_iff.mp hsystem'), hbase]

end Zpp.X64.SegmentDescriptor
