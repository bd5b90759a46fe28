import Mathlib.Data.List.Pairwise
import ZppHypervisor.Lib.BitField

/-!
# Writes of bits

A `BitWrite` replaces the bits of a mask by those of a value.  Writes of disjoint masks commute
(`put_comm`), so a list of them gives the same word in any order (`putAll_perm`), in which each field can
be read back (`get_putAll`).  The assignments `set` and `setFlag` of `BitField` are such writes.
-/

/-- New values for the bits of a mask. -/
structure BitWrite (w : ℕ) where
  mask : BitVec w
  value : BitVec w

namespace BitWrite

variable {w : ℕ}

/-- Writes the bits. -/
def put (p : BitWrite w) (x : BitVec w) : BitVec w :=
  (x &&& ~~~p.mask) ||| (p.value &&& p.mask)

/-- The writes of a list, the first one first. -/
def putAll (l : List (BitWrite w)) (x : BitVec w) : BitVec w := l.foldl (fun x p => p.put x) x

/-- The writes concern different bits. -/
def Apart (p q : BitWrite w) : Prop := p.mask &&& q.mask = 0#w

instance (p q : BitWrite w) : Decidable (p.Apart q) := inferInstanceAs (Decidable (_ = _))

instance : Std.Symm (Apart (w := w)) where
  symm _ _ h := (BitVec.and_comm _ _).trans h

/-! ### One write -/

theorem getLsbD_put (p : BitWrite w) (x : BitVec w) (i : ℕ) :
    (p.put x).getLsbD i = if p.mask.getLsbD i then p.value.getLsbD i else x.getLsbD i := by
  rw [put, BitVec.getLsbD_or, BitVec.getLsbD_and, BitVec.getLsbD_and, BitVec.getLsbD_not]
  by_cases hmask : p.mask.getLsbD i = true
  · rw [hmask, if_pos rfl, Bool.not_true, Bool.and_false, Bool.and_false, Bool.false_or, Bool.and_true]
  · rw [Bool.not_eq_true] at hmask
    rw [hmask, if_neg Bool.false_ne_true, Bool.and_false, Bool.or_false, Bool.not_false, Bool.and_true]
    by_cases hi : i < w
    · rw [decide_eq_true hi, Bool.and_true]
    · rw [BitVec.getLsbD_of_ge x i (not_lt.mp hi), Bool.false_and]

theorem Apart.getLsbD {p q : BitWrite w} (h : p.Apart q) {i : ℕ} (hi : p.mask.getLsbD i = true) :
    q.mask.getLsbD i = false := by
  have hbit := congrArg (BitVec.getLsbD · i) h
  simp only [BitVec.getLsbD_and, hi, Bool.true_and, BitVec.getLsbD_zero] at hbit
  exact hbit

/-- The last write of the same bits counts. -/
theorem put_put {p q : BitWrite w} (h : p.mask = q.mask) (x : BitVec w) :
    q.put (p.put x) = q.put x := by
  apply BitVec.eq_of_getLsbD_eq
  intro i _
  rw [getLsbD_put, getLsbD_put, getLsbD_put, h]
  split_ifs <;> rfl

/-- Writes of different bits commute. -/
theorem put_comm {p q : BitWrite w} (h : p.Apart q) (x : BitVec w) :
    q.put (p.put x) = p.put (q.put x) := by
  apply BitVec.eq_of_getLsbD_eq
  intro i _
  rw [getLsbD_put, getLsbD_put, getLsbD_put, getLsbD_put]
  by_cases hp : p.mask.getLsbD i = true
  · rw [h.getLsbD hp, if_neg Bool.false_ne_true, if_pos hp, if_pos hp]
  · rw [if_neg hp, if_neg hp]

/-! ### Many writes -/

theorem putAll_append (l l' : List (BitWrite w)) (x : BitVec w) :
    putAll (l ++ l') x = putAll l' (putAll l x) :=
  List.foldl_append

/-- Writes of different bits can be made in any order. -/
theorem putAll_perm {l l' : List (BitWrite w)} (hl : l.Pairwise Apart) (h : l.Perm l')
    (x : BitVec w) : putAll l x = putAll l' x := by
  refine h.foldl_eq' (fun p hp q hq x => ?_) x
  by_cases hpq : p = q
  · rw [hpq]
  · exact put_comm (hl.forall hp hq hpq) x

/-- The bits of no mask are as before. -/
theorem getLsbD_putAll_of_not_mem {l : List (BitWrite w)} {i : ℕ}
    (h : ∀ p ∈ l, p.mask.getLsbD i = false) (x : BitVec w) :
    (putAll l x).getLsbD i = x.getLsbD i := by
  induction l generalizing x with
  | nil => rfl
  | cons p l ih =>
    refine (ih (fun q hq => h q (.tail _ hq)) (p.put x)).trans ?_
    rw [getLsbD_put, h p (.head _), if_neg Bool.false_ne_true]

/-- The bits of a mask are those of its value. -/
theorem getLsbD_putAll_of_mem {l : List (BitWrite w)} (hl : l.Pairwise Apart) {p : BitWrite w}
    (hp : p ∈ l) {i : ℕ} (hi : p.mask.getLsbD i = true) (x : BitVec w) :
    (putAll l x).getLsbD i = p.value.getLsbD i := by
  induction l generalizing x with
  | nil => exact nomatch hp
  | cons q l ih =>
    obtain ⟨hhead, htail⟩ := List.pairwise_cons.mp hl
    rcases List.mem_cons.mp hp with rfl | hp
    · have hrest : ∀ q ∈ l, q.mask.getLsbD i = false := fun q hq => (hhead q hq).getLsbD hi
      refine (getLsbD_putAll_of_not_mem hrest (p.put x)).trans ?_
      rw [getLsbD_put, if_pos hi]
    · exact ih htail hp (q.put x)

/-- A bit of all masks together is one of some mask. -/
theorem exists_of_getLsbD_foldr {l : List (BitWrite w)} {i : ℕ}
    (h : ((l.map mask).foldr (· ||| ·) 0#w).getLsbD i = true) :
    ∃ p ∈ l, p.mask.getLsbD i = true := by
  induction l with
  | nil =>
    rw [List.map_nil, List.foldr_nil, BitVec.getLsbD_zero] at h
    exact absurd h Bool.false_ne_true
  | cons p l ih =>
    rw [List.map_cons, List.foldr_cons, BitVec.getLsbD_or, Bool.or_eq_true] at h
    rcases h with h | h
    · exact ⟨p, .head _, h⟩
    · obtain ⟨q, hq, hbit⟩ := ih h
      exact ⟨q, .tail _ hq, hbit⟩

/-- A word with the right bits everywhere. -/
theorem putAll_eq {l : List (BitWrite w)} (hl : l.Pairwise Apart) {x y : BitVec w}
    (hmem : ∀ p ∈ l, ∀ i, p.mask.getLsbD i = true → p.value.getLsbD i = y.getLsbD i)
    (hother : ∀ i < w, (∀ p ∈ l, p.mask.getLsbD i = false) → x.getLsbD i = y.getLsbD i) :
    putAll l x = y := by
  apply BitVec.eq_of_getLsbD_eq
  intro i hi
  by_cases h : ∃ p ∈ l, p.mask.getLsbD i = true
  · obtain ⟨p, hp, hmask⟩ := h
    rw [getLsbD_putAll_of_mem hl hp hmask, hmem p hp i hmask]
  · have hnone : ∀ p ∈ l, p.mask.getLsbD i = false := fun p hp =>
      Bool.eq_false_iff.mpr fun hmask => h ⟨p, hp, hmask⟩
    rw [getLsbD_putAll_of_not_mem hnone, hother i hi hnone]

/-- A field that was written is read back. -/
theorem get_putAll {l : List (BitWrite w)} (hl : l.Pairwise Apart) {shift : ℕ} {mask keep v : BitVec w}
    (hmem : ⟨mask, v <<< shift⟩ ∈ l) (hmask : keep <<< shift = mask)
    (hfit : (keep <<< shift) >>> shift = keep) (x : BitVec w) :
    BitField.get shift keep (putAll l x) = v &&& keep := by
  apply BitVec.eq_of_getLsbD_eq
  intro i _
  rw [BitField.getLsbD_get, BitVec.getLsbD_and]
  by_cases hkeep : keep.getLsbD i = true
  · have hbit : mask.getLsbD (shift + i) = true := by
      rw [← hfit, hmask, BitVec.getLsbD_ushiftRight] at hkeep
      exact hkeep
    have hlt : shift + i < w := BitVec.lt_of_getLsbD hbit
    rw [getLsbD_putAll_of_mem hl hmem hbit, BitVec.getLsbD_shiftLeft, decide_eq_true hlt,
      decide_eq_false (by omega), Bool.true_and, Bool.not_false, Bool.true_and,
      Nat.add_sub_cancel_left]
  · rw [Bool.eq_false_iff.mpr hkeep, Bool.and_false, Bool.and_false]

/-- The write of the single bit `k`. -/
def flag (k : ℕ) (b : Bool) : BitWrite w := ⟨1#w <<< k, (if b then 1#w else 0#w) <<< k⟩

/-- A bit that was written is read back. -/
theorem test_putAll {l : List (BitWrite w)} (hl : l.Pairwise Apart) {k : ℕ} {b : Bool}
    (hmem : flag k b ∈ l) (hk : k < w) (x : BitVec w) : BitField.test k (putAll l x) = b := by
  have hmask : (flag k b : BitWrite w).mask.getLsbD k = true := by
    rw [flag, BitField.getLsbD_one_shiftLeft k k hk, decide_eq_true rfl]
  rw [BitField.test_eq _ _ hk, getLsbD_putAll_of_mem hl hmem hmask, flag]
  cases b
  · rw [if_neg Bool.false_ne_true, BitVec.zero_shiftLeft, BitVec.getLsbD_zero]
  · rw [if_pos rfl, BitField.getLsbD_one_shiftLeft k k hk, decide_eq_true rfl]

/-! ### Assignments of fields -/

/-- An assignment that clears the bits it brings in is a write. -/
theorem set_eq_put {clear keep : BitVec w} {shift : ℕ} (h : keep <<< shift = clear) (x v : BitVec w) :
    BitField.set clear keep shift x v = put ⟨clear, v <<< shift⟩ x := by
  rw [BitField.set, put, BitVec.shiftLeft_and_distrib, h]

theorem setFlag_eq_put (k : ℕ) (x : BitVec w) (b : Bool) :
    BitField.setFlag k x b = put (flag k b) x := by
  rw [BitField.setFlag, put, flag, ← BitVec.shiftLeft_and_distrib]
  cases b
  · rw [if_neg Bool.false_ne_true, BitVec.zero_and]
  · rw [if_pos rfl, BitVec.and_self]

end BitWrite
