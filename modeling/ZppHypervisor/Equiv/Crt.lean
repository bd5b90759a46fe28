import ZppHypervisor.Crt

/-!
# Copying bytes forwards

After any number of iterations each byte written is the one that was read for it, and that was written
before if the source runs into the destination (`Forward`).  So `memmove` is right unless the
destination begins inside the source, where it repeats the bytes between the two beginnings
(`moved_memmove_iff`).
-/

namespace Zpp.Crt

open ByteMemory Loop

variable {m₀ m : ByteMemory 64} {dest src : BitVec 64} {n : ℕ}

/-! ### One iteration -/

/-- The memory after `n` iterations, from `m₀`.  The byte for `dest[i]` had been written before if it is
among the first `i` of the destination. -/
structure Forward (m₀ : ByteMemory 64) (dest src : BitVec 64) (n : ℕ) (m : ByteMemory 64) : Prop where
  others : ∀ x ∉ Region dest n, m x = m₀ x
  fresh : ∀ i < n, src + BitVec.ofNat 64 i ∉ Region dest i →
    m (dest + BitVec.ofNat 64 i) = m₀ (src + BitVec.ofNat 64 i)
  again : ∀ i < n, src + BitVec.ofNat 64 i ∈ Region dest i →
    m (dest + BitVec.ofNat 64 i) = m (src + BitVec.ofNat 64 i)

/-- The next byte is not among those written. -/
theorem add_ofNat_not_mem_region_self (hn : n < 2 ^ 64) : dest + BitVec.ofNat 64 n ∉ Region dest n := by
  rw [mem_region, add_ofNat_sub_self, BitVec.toNat_ofNat, Nat.mod_eq_of_lt hn]
  exact Nat.lt_irrefl n

theorem Forward.step (h : Forward m₀ dest src n m) (hn : n < 2 ^ 64) :
    Forward m₀ dest src (n + 1)
      (Function.update m (dest + BitVec.ofNat 64 n) (m (src + BitVec.ofNat 64 n))) := by
  have hnext : dest + BitVec.ofNat 64 n ∉ Region dest n := add_ofNat_not_mem_region_self hn
  -- What was written before stays.
  have hkeep : ∀ x ∈ Region dest n,
      Function.update m (dest + BitVec.ofNat 64 n) (m (src + BitVec.ofNat 64 n)) x = m x := by
    intro x hx
    refine Function.update_of_ne (fun heq => ?_) _ _
    rw [heq] at hx
    exact hnext hx
  constructor
  · intro x hx
    have hne : x ≠ dest + BitVec.ofNat 64 n := fun heq => by
      rw [heq] at hx
      exact hx (add_ofNat_mem_region n.lt_succ_self)
    rw [Function.update_of_ne hne]
    exact h.others x fun hmem => hx (region_mono n.le_succ hmem)
  · intro i hi hfresh
    rcases Nat.lt_succ_iff_lt_or_eq.mp hi with hlt | rfl
    · rw [hkeep _ (add_ofNat_mem_region hlt)]
      exact h.fresh i hlt hfresh
    · rw [Function.update_self]
      exact h.others _ hfresh
  · intro i hi hagain
    rw [hkeep _ (region_mono (Nat.lt_succ_iff.mp hi) hagain)]
    rcases Nat.lt_succ_iff_lt_or_eq.mp hi with hlt | rfl
    · rw [hkeep _ (add_ofNat_mem_region hlt)]
      exact h.again i hlt hagain
    · rw [Function.update_self]

theorem forward_copyBytes (m : ByteMemory 64) (dest src : BitVec 64) (hn : n ≤ 2 ^ 64) :
    Forward m dest src n (copyBytes m dest src n) := by
  refine forRange_invariant ⟨fun _ _ => rfl, ?_, ?_⟩ fun i hi m' h => h.step (by omega)
  · exact fun i hi => absurd hi i.not_lt_zero
  · exact fun i hi => absurd hi i.not_lt_zero

/-- `memset` fills the region. -/
theorem memset_eq_fill (m : ByteMemory 64) (dest : BitVec 64) (value : BitVec 32)
    (count : BitVec 64) :
    memset m dest value count = (dest, fill m dest count.toNat (value.setWidth 8)) := by
  refine congrArg (dest, ·) ?_
  refine forRange_invariant (P := fun n m' => m' = fill m dest n (value.setWidth 8)) ?_
    fun i hi m' h => ?_
  · ext1 x
    exact (if_neg (Nat.not_lt_zero _)).symm
  · subst h
    have hlt : i < 2 ^ 64 := hi.trans count.isLt
    have hself : (dest + BitVec.ofNat 64 i - dest).toNat = i := by
      rw [add_ofNat_sub_self, BitVec.toNat_ofNat, Nat.mod_eq_of_lt hlt]
    ext1 x
    rw [fill]
    by_cases hx : x = dest + BitVec.ofNat 64 i
    · rw [hx, Function.update_self, hself, if_pos i.lt_succ_self]
    · have hne : (x - dest).toNat ≠ i := fun h => hx (by
        rw [← h]
        exact eq_add_ofNat_sub dest x)
      have hiff : (x - dest).toNat < i ↔ (x - dest).toNat < i + 1 := by omega
      rw [Function.update_of_ne hx, fill, if_congr hiff rfl rfl]

/-! ### Moving -/

/-- The bytes of the source, as they were before, are at the destination, and nothing else changed. -/
structure Moved (m : ByteMemory 64) (dest src : BitVec 64) (n : ℕ) (m' : ByteMemory 64) : Prop where
  bytes : ∀ i < n, m' (dest + BitVec.ofNat 64 i) = m (src + BitVec.ofNat 64 i)
  others : ∀ x ∉ Region dest n, m' x = m x

/-- A source that the destination does not run into. -/
theorem moved_memcpy (m : ByteMemory 64) {dest src count : BitVec 64}
    (h : ∀ i < count.toNat, src + BitVec.ofNat 64 i ∉ Region dest count.toNat) :
    Moved m dest src count.toNat (memcpy m dest src count).2 := by
  have hforward := forward_copyBytes m dest src (Nat.le_of_lt count.isLt)
  exact ⟨fun i hi => hforward.fresh i hi fun hmem => h i hi (region_mono (Nat.le_of_lt hi) hmem),
    hforward.others⟩

/-- Where a byte of the source is among those that were written. -/
theorem mem_region_dest_iff {i : ℕ} (hdest : dest.toNat + n ≤ 2 ^ 64) (hsrc : src.toNat + n ≤ 2 ^ 64)
    (hi : i < n) :
    src + BitVec.ofNat 64 i ∈ Region dest i ↔
      src.toNat < dest.toNat ∧ dest.toNat ≤ src.toNat + i := by
  have htoNat : (src + BitVec.ofNat 64 i).toNat = src.toNat + i := by
    rw [BitVec.toNat_add, BitVec.toNat_ofNat]
    omega
  rw [mem_region_iff (by omega), htoNat]
  omega

/-- From the beginning of the destination on, the source is the destination. -/
theorem src_add_eq (hlt : src.toNat < dest.toNat) (i : ℕ) :
    src + BitVec.ofNat 64 (i + (dest.toNat - src.toNat)) = dest + BitVec.ofNat 64 i := by
  have hdiff : src + BitVec.ofNat 64 (dest.toNat - src.toNat) = dest := by
    rw [← BitVec.toNat_inj, BitVec.toNat_add, BitVec.toNat_ofNat]
    omega
  rw [BitVec.ofNat_add, BitVec.add_comm (BitVec.ofNat 64 i), ← BitVec.add_assoc, hdiff]

/-- The bytes of the source repeat with the distance of the two beginnings. -/
def Repeats (m : ByteMemory 64) (src : BitVec 64) (distance n : ℕ) : Prop :=
  ∀ i, i + distance < n → m (src + BitVec.ofNat 64 (i + distance)) = m (src + BitVec.ofNat 64 i)

theorem Forward.moved (h : Forward m₀ dest src n m)
    (hfresh : ∀ i < n, src + BitVec.ofNat 64 i ∉ Region dest i) : Moved m₀ dest src n m where
  bytes i hi := h.fresh i hi (hfresh i hi)
  others := h.others

/-- Forward copying from a source before the destination. -/
theorem Forward.moved_iff (h : Forward m₀ dest src n m) (hdest : dest.toNat + n ≤ 2 ^ 64)
    (hsrc : src.toNat + n ≤ 2 ^ 64) (hlt : src.toNat < dest.toNat) :
    Moved m₀ dest src n m ↔ Repeats m₀ src (dest.toNat - src.toNat) n := by
  have hagain : ∀ i, i + (dest.toNat - src.toNat) < n →
      m (dest + BitVec.ofNat 64 (i + (dest.toNat - src.toNat))) = m (dest + BitVec.ofNat 64 i) := by
    intro i hi
    rw [h.again _ hi ((mem_region_dest_iff hdest hsrc hi).mpr ⟨hlt, by omega⟩), src_add_eq hlt]
  constructor
  · intro hmoved i hi
    rw [← hmoved.bytes _ hi, hagain i hi, hmoved.bytes i (by omega)]
  · intro hrepeats
    refine ⟨fun i => ?_, h.others⟩
    induction i using Nat.strong_induction_on with
    | _ i ih =>
      intro hi
      by_cases hfirst : i < dest.toNat - src.toNat
      · exact h.fresh i hi fun hmem => by
          have hle := ((mem_region_dest_iff hdest hsrc hi).mp hmem).2
          omega
      · have hback : i - (dest.toNat - src.toNat) + (dest.toNat - src.toNat) = i := by omega
        have hprev := ih (i - (dest.toNat - src.toNat)) (by omega) (by omega)
        have hrepeat := hrepeats (i - (dest.toNat - src.toNat)) (by omega)
        have hcopy := hagain (i - (dest.toNat - src.toNat)) (by omega)
        rw [hback] at hrepeat hcopy
        rw [hcopy, hprev, hrepeat]

/-- **`memmove` is right exactly if** the destination does not begin behind the source, or the bytes of
the source repeat from there on. -/
theorem moved_memmove_iff (m : ByteMemory 64) {dest src count : BitVec 64}
    (hdest : dest.toNat + count.toNat ≤ 2 ^ 64) (hsrc : src.toNat + count.toNat ≤ 2 ^ 64) :
    Moved m dest src count.toNat (memmove m dest src count).2 ↔
      dest.toNat ≤ src.toNat ∨ Repeats m src (dest.toNat - src.toNat) count.toNat := by
  have h := forward_copyBytes m dest src (Nat.le_of_lt count.isLt)
  rcases Nat.lt_or_ge src.toNat dest.toNat with hlt | hge
  · rw [or_iff_right (Nat.not_le.mpr hlt)]
    exact h.moved_iff hdest hsrc hlt
  · refine iff_of_true (h.moved fun i hi hmem => ?_) (.inl hge)
    exact Nat.not_lt.mpr hge ((mem_region_dest_iff hdest hsrc hi).mp hmem).1

/-- The bytes 1, 2, 3 at 0x1000. -/
def threeBytes (a : BitVec 64) : BitVec 8 :=
  if a = 0x1000#64 then 1#8 else if a = 0x1001#64 then 2#8 else if a = 0x1002#64 then 3#8 else 0#8

/-- Two bytes to the left. -/
theorem moved_memmove_left :
    Moved threeBytes 0x1000#64 0x1001#64 2 (memmove threeBytes 0x1000#64 0x1001#64 2#64).2 :=
  (@moved_memmove_iff threeBytes 0x1000#64 0x1001#64 2#64 (by decide) (by decide)).mpr
    (.inl (by decide))

/-- Two bytes to the right: the second one is overwritten before it is read. -/
theorem not_moved_memmove_right :
    ¬Moved threeBytes 0x1001#64 0x1000#64 2 (memmove threeBytes 0x1001#64 0x1000#64 2#64).2 := by
  intro h
  exact absurd (h.bytes 1 (by decide)) (by decide)

end Zpp.Crt
