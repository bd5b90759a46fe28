import Mathlib.Data.BitVec

/-!
# Bit fields of a machine word

Hardware tables pack many small fields into one word.  The accessors of such a field all have one
of four shapes: `(x >> shift) & keep` reads it, `(x & ~clear) | ((v & keep) << shift)` replaces it,
and a single bit is read by `x & (1 << k)` taken as a truth value and written by
`(x & ~(1 << k)) | (b << k)`.  This file names the four shapes (`get`, `set`, `test`, `setFlag`)
and proves how they compose.

The side conditions are closed facts about masks (`keep << shift & ~clear = 0` and the like), so at
literal masks `simp` and `decide` discharge them.
-/

namespace BitField

variable {w : ℕ}

/-- Reads a field: the bits from `shift` up, as far as `keep` lets them through. -/
def get (shift : ℕ) (keep x : BitVec w) : BitVec w :=
  (x >>> shift) &&& keep

/-- Writes a field: the bits of `clear` are dropped and those of `v & keep` come in at `shift`. -/
def set (clear keep : BitVec w) (shift : ℕ) (x v : BitVec w) : BitVec w :=
  (x &&& ~~~clear) ||| ((v &&& keep) <<< shift)

/-- Whether bit `k` is set, read through the mask `1 << k`. -/
def test (k : ℕ) (x : BitVec w) : Bool :=
  x &&& (1#w <<< k) != 0#w

/-- Writes the single bit `k`. -/
def setFlag (k : ℕ) (x : BitVec w) (b : Bool) : BitVec w :=
  (x &&& ~~~(1#w <<< k)) ||| ((if b then 1#w else 0#w) <<< k)

/-! ### Bit by bit -/

theorem getLsbD_get (shift : ℕ) (keep x : BitVec w) (i : ℕ) :
    (get shift keep x).getLsbD i = (x.getLsbD (shift + i) && keep.getLsbD i) := by
  rw [get, BitVec.getLsbD_and, BitVec.getLsbD_ushiftRight]

theorem getLsbD_set (clear keep : BitVec w) (shift : ℕ) (x v : BitVec w) (i : ℕ) :
    (set clear keep shift x v).getLsbD i =
      (x.getLsbD i && !clear.getLsbD i ||
        (decide (i < w) && !decide (i < shift) &&
          (v.getLsbD (i - shift) && keep.getLsbD (i - shift)))) := by
  simp only [set, BitVec.getLsbD_or, BitVec.getLsbD_and, BitVec.getLsbD_not,
    BitVec.getLsbD_shiftLeft]
  by_cases hi : i < w
  · simp only [hi, decide_true, Bool.true_and]
  · simp only [BitVec.getLsbD_of_ge x i (by omega), Bool.false_and]

/-- The mask of a single bit. -/
theorem getLsbD_one_shiftLeft (k i : ℕ) (hk : k < w) :
    (1#w <<< k).getLsbD i = decide (i = k) := by
  rw [BitVec.getLsbD_shiftLeft, BitVec.getLsbD_one, Bool.eq_iff_iff]
  simp only [Bool.and_eq_true, Bool.not_eq_true', decide_eq_true_eq, decide_eq_false_iff_not]
  omega

theorem getLsbD_setFlag (k : ℕ) (x : BitVec w) (b : Bool) (i : ℕ) (hk : k < w) :
    (setFlag k x b).getLsbD i = if i = k then b else x.getLsbD i := by
  have hflag : ((if b then 1#w else 0#w) <<< k).getLsbD i = (decide (i = k) && b) := by
    cases b
    · simp
    · rw [if_pos rfl, getLsbD_one_shiftLeft k i hk, Bool.and_true]
  rw [setFlag, BitVec.getLsbD_or, BitVec.getLsbD_and, BitVec.getLsbD_not,
    getLsbD_one_shiftLeft k i hk, hflag]
  by_cases hik : i = k
  · simp [hik]
  · by_cases hi : i < w
    · simp [hik, hi]
    · simp [hik, BitVec.getLsbD_of_ge x i (by omega)]

/-- Reading a bit through its mask reads the bit. -/
theorem test_eq (k : ℕ) (x : BitVec w) (hk : k < w) : test k x = x.getLsbD k := by
  rw [Bool.eq_iff_iff, test, bne_iff_ne, ne_eq]
  constructor
  · intro h
    by_contra hx
    apply h
    apply BitVec.eq_of_getLsbD_eq
    intro i _
    rw [BitVec.getLsbD_and, getLsbD_one_shiftLeft k i hk]
    by_cases hik : i = k
    · subst hik; simp [hx]
    · simp [hik]
  · intro hx h
    have hbit : (x &&& 1#w <<< k).getLsbD k = false := by rw [h, BitVec.getLsbD_zero]
    rw [BitVec.getLsbD_and, getLsbD_one_shiftLeft k k hk, hx] at hbit
    simp at hbit

/-! ### Reading after writing -/

/-- Reading a field just written gives the value written, truncated to the field, provided the
write clears the whole field. -/
theorem get_set_self {shift : ℕ} {clear keep keep' x v : BitVec w}
    (hclear : (keep <<< shift) &&& ~~~clear = 0#w) (hfit : (keep <<< shift) >>> shift = keep) :
    get shift keep (set clear keep' shift x v) = v &&& (keep' &&& keep) := by
  apply BitVec.eq_of_getLsbD_eq
  intro i hi
  have hc := congrArg (BitVec.getLsbD · (shift + i)) hclear
  have hf := congrArg (BitVec.getLsbD · i) hfit
  simp only [BitVec.getLsbD_and, BitVec.getLsbD_not, BitVec.getLsbD_shiftLeft,
    BitVec.getLsbD_ushiftRight, BitVec.getLsbD_zero, Nat.add_sub_cancel_left] at hc hf
  rw [getLsbD_get, getLsbD_set, Nat.add_sub_cancel_left, BitVec.getLsbD_and, BitVec.getLsbD_and]
  -- Where `keep` has a bit, the cleared word has none and the shift loses nothing.
  by_cases hk : keep.getLsbD i = true
  · grind
  · simp only [Bool.not_eq_true] at hk
    simp only [hk, Bool.and_false]

/-- The last write counts, also of a field into which it lets more bits. -/
theorem set_set {shift : ℕ} {clear keep keep' : BitVec w} (h : (keep <<< shift) &&& ~~~clear = 0#w)
    (x v v' : BitVec w) :
    set clear keep' shift (set clear keep shift x v) v' = set clear keep' shift x v' := by
  have hout : ((v &&& keep) <<< shift) &&& ~~~clear = 0#w := by
    rw [BitVec.shiftLeft_and_distrib, BitVec.and_assoc, h, BitVec.and_zero]
  have hkept : set clear keep shift x v &&& ~~~clear = x &&& ~~~clear := by
    rw [set, BitVec.and_or_distrib_right, BitVec.and_assoc, BitVec.and_self, hout, BitVec.or_zero]
  rw [set, hkept, set]

/-- A write leaves every field outside the bits it clears and the bits it brings in. -/
@[simp] theorem get_set_of_disjoint {s s' : ℕ} {clear keep keep' x v : BitVec w}
    (h : (keep <<< s) &&& (clear ||| keep' <<< s') = 0#w) :
    get s keep (set clear keep' s' x v) = get s keep x := by
  apply BitVec.eq_of_getLsbD_eq
  intro i hi
  have hd := congrArg (BitVec.getLsbD · (s + i)) h
  simp only [BitVec.getLsbD_and, BitVec.getLsbD_or, BitVec.getLsbD_shiftLeft, BitVec.getLsbD_zero,
    Nat.add_sub_cancel_left] at hd
  rw [getLsbD_get, getLsbD_get, getLsbD_set]
  by_cases hk : keep.getLsbD i = true
  · grind
  · simp only [Bool.not_eq_true] at hk
    simp only [hk, Bool.and_false]

/-- Writing one bit leaves every field that does not contain it. -/
@[simp] theorem get_setFlag_of_disjoint {s k : ℕ} {keep x : BitVec w} {b : Bool} (hk : k < w)
    (h : (keep <<< s).getLsbD k = false) : get s keep (setFlag k x b) = get s keep x := by
  apply BitVec.eq_of_getLsbD_eq
  intro i hi
  rw [BitVec.getLsbD_shiftLeft] at h
  rw [getLsbD_get, getLsbD_get, getLsbD_setFlag _ _ _ _ hk]
  by_cases hik : s + i = k
  · subst hik
    have hkeep : keep.getLsbD i = false := by grind
    simp only [hkeep, Bool.and_false]
  · rw [if_neg hik]

/-- Writing a field leaves every bit outside it. -/
@[simp] theorem test_set_of_disjoint {s k : ℕ} {clear keep x v : BitVec w} (hk : k < w)
    (h : (clear ||| keep <<< s).getLsbD k = false) : test k (set clear keep s x v) = test k x := by
  rw [BitVec.getLsbD_or, BitVec.getLsbD_shiftLeft] at h
  rw [test_eq _ _ hk, test_eq _ _ hk, getLsbD_set]
  grind

/-- Writing one bit gives that bit and leaves the others. -/
@[simp] theorem test_setFlag {j k : ℕ} {x : BitVec w} {b : Bool} (hk : k < w) (hj : j < w) :
    test k (setFlag j x b) = if k = j then b else test k x := by
  rw [test_eq _ _ hk, test_eq _ _ hk, getLsbD_setFlag _ _ _ _ hj]

/-- Masking a field in place is reading it and moving it back. -/
theorem and_shiftLeft_eq (s : ℕ) (keep x : BitVec w) :
    x &&& (keep <<< s) = get s keep x <<< s := by
  apply BitVec.eq_of_getLsbD_eq
  intro i hi
  rw [BitVec.getLsbD_and, BitVec.getLsbD_shiftLeft, BitVec.getLsbD_shiftLeft, getLsbD_get]
  by_cases his : i < s
  · simp [his]
  · rw [show s + (i - s) = i by omega]
    simp [hi, his]

/-- A field of `n` bits, read as a number. -/
theorem toNat_get_low (s n : ℕ) (x : BitVec w) (hn : n ≤ w) :
    (get s (BitVec.ofNat w (2 ^ n - 1)) x).toNat = x.toNat / 2 ^ s % 2 ^ n := by
  have hlt : 2 ^ n - 1 < 2 ^ w := by
    have := Nat.pow_le_pow_right (show 0 < 2 by decide) hn
    have := Nat.two_pow_pos n
    omega
  rw [get, BitVec.toNat_and, BitVec.toNat_ushiftRight, Nat.shiftRight_eq_div_pow,
    BitVec.toNat_ofNat, Nat.mod_eq_of_lt hlt, Nat.and_two_pow_sub_one_eq_mod]

/-- A field of the zero word is zero. -/
@[simp] theorem get_zero (s : ℕ) (keep : BitVec w) : get s keep 0#w = 0#w := by
  simp [get]

/-- No bit of the zero word is set. -/
@[simp] theorem test_zero (k : ℕ) : test k 0#w = false := by
  simp [test]

/-! ### Words inside a mask -/

/-- No bit of the word is outside the mask. -/
def Within (mask x : BitVec w) : Prop := x &&& ~~~mask = 0#w

instance (mask x : BitVec w) : Decidable (Within mask x) := inferInstanceAs (Decidable (_ = _))

theorem within_iff {mask x : BitVec w} :
    Within mask x ↔ ∀ i < w, x.getLsbD i = true → mask.getLsbD i = true := by
  constructor
  · intro h i hi hx
    have hbit := congrArg (BitVec.getLsbD · i) h
    simpa [hx, hi] using hbit
  · intro h
    apply BitVec.eq_of_getLsbD_eq
    intro i hi
    rw [BitVec.getLsbD_and, BitVec.getLsbD_not, BitVec.getLsbD_zero]
    cases hx : x.getLsbD i
    · rfl
    · rw [h i hi hx, Bool.not_true, Bool.and_false, Bool.and_false]

theorem within_zero (mask : BitVec w) : Within mask 0#w := BitVec.zero_and

theorem Within.trans {mask mask' x : BitVec w} (h : Within mask x) (hmask : Within mask' mask) :
    Within mask' x := by
  rw [within_iff] at h hmask ⊢
  exact fun i hi hbit => hmask i hi (h i hi hbit)

/-- The bits outside the mask are zero. -/
theorem Within.and_eq_zero {mask reserved x : BitVec w} (h : Within mask x)
    (hreserved : mask &&& reserved = 0#w) : x &&& reserved = 0#w := by
  have hmask : Within (~~~reserved) mask := by rw [Within, BitVec.not_not, hreserved]
  rw [← BitVec.not_not (b := reserved)]
  exact h.trans hmask

/-- Writing a field takes its old bits out of the mask and brings the new ones in. -/
theorem Within.set {mask mask' clear keep x v : BitVec w} {shift : ℕ} (h : Within mask x)
    (hmask : Within mask' (mask &&& ~~~clear)) (hkeep : Within mask' ((v &&& keep) <<< shift)) :
    Within mask' (set clear keep shift x v) := by
  rw [within_iff] at h hmask hkeep ⊢
  intro i hi hbit
  rw [BitField.set, BitVec.getLsbD_or, Bool.or_eq_true, BitVec.getLsbD_and, Bool.and_eq_true] at hbit
  rcases hbit with ⟨hold, hclear⟩ | hnew
  · refine hmask i hi ?_
    rw [BitVec.getLsbD_and, h i hi hold, hclear]
    rfl
  · exact hkeep i hi hnew

/-- Writing a field inside the mask. -/
theorem Within.set_self {mask clear keep x : BitVec w} {shift : ℕ} (h : Within mask x) (v : BitVec w)
    (hkeep : Within mask (keep <<< shift)) : Within mask (BitField.set clear keep shift x v) := by
  refine h.set ?_ ?_
  · rw [within_iff]
    intro i _ hbit
    rw [BitVec.getLsbD_and, Bool.and_eq_true] at hbit
    exact hbit.1
  · rw [Within, BitVec.shiftLeft_and_distrib, BitVec.and_assoc, hkeep, BitVec.and_zero]

/-- A bit is a field of its own. -/
theorem setFlag_eq_set (k : ℕ) (x : BitVec w) (b : Bool) :
    setFlag k x b = set (1#w <<< k) 1#w k x (if b then 1#w else 0#w) := by
  have hvalue : (if b then 1#w else 0#w) &&& 1#w = if b then 1#w else 0#w := by
    cases b
    · exact BitVec.zero_and
    · exact BitVec.and_self
  rw [setFlag, set, hvalue]

/-- Writing a bit inside the mask. -/
theorem Within.setFlag {mask x : BitVec w} (h : Within mask x) {k : ℕ} (b : Bool)
    (hmask : Within mask (1#w <<< k)) : Within mask (BitField.setFlag k x b) := by
  rw [setFlag_eq_set]
  exact h.set_self _ hmask

/-! ### Contiguous masks -/

/-- Numbers below `2 ^ n` agree on the bits from `k` up when the quotients by `2 ^ k` are the same. -/
theorem div_two_pow_eq_iff {a b k n : ℕ} (ha : a < 2 ^ n) (hb : b < 2 ^ n) :
    a / 2 ^ k = b / 2 ^ k ↔ ∀ j, k ≤ j → j < n → a.testBit j = b.testBit j := by
  constructor
  · intro h j hk _
    have hbit := congrArg (Nat.testBit · (j - k)) h
    simp only [Nat.testBit_div_two_pow] at hbit
    rw [show j - k + k = j by omega] at hbit
    exact hbit
  · intro h
    apply Nat.eq_of_testBit_eq
    intro j
    rw [Nat.testBit_div_two_pow, Nat.testBit_div_two_pow]
    by_cases hj : j + k < n
    · exact h _ (by omega) hj
    · have hpow : 2 ^ n ≤ 2 ^ (j + k) := Nat.pow_le_pow_right (by decide) (by omega)
      rw [Nat.testBit_lt_two_pow (ha.trans_le hpow), Nat.testBit_lt_two_pow (hb.trans_le hpow)]

/-- A contiguous mask compares the bits from `k` up. -/
theorem and_mask_eq_iff {mask a b : BitVec w} {k n : ℕ} (ha : a.toNat < 2 ^ n) (hb : b.toNat < 2 ^ n)
    (hmask : ∀ j, mask.getLsbD j = decide (k ≤ j ∧ j < n)) :
    a &&& mask = b &&& mask ↔ a.toNat / 2 ^ k = b.toNat / 2 ^ k := by
  rw [div_two_pow_eq_iff ha hb]
  constructor
  · intro h j hk hn
    have hbit := congrArg (BitVec.getLsbD · j) h
    simp only [BitVec.getLsbD_and, hmask, hk, hn, and_self, decide_true, Bool.and_true] at hbit
    exact hbit
  · intro h
    apply BitVec.eq_of_getLsbD_eq
    intro j _
    rw [BitVec.getLsbD_and, BitVec.getLsbD_and, hmask]
    by_cases hj : k ≤ j ∧ j < n
    · rw [show a.getLsbD j = b.getLsbD j from h j hj.1 hj.2]
    · rw [decide_eq_false hj, Bool.and_false, Bool.and_false]

end BitField
