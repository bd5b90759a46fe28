import Mathlib.Data.BitVec
import Mathlib.Tactic.Ring

/-!
# Byte-addressed memory

A memory maps every address to a byte.  `load m a n` reads the `n` bytes from `a` up as one
little-endian word and `store m a v` writes such a word; addresses wrap around.  A byte `x` lies in
the region of `n` bytes at `a` when `(x - a).toNat < n`, which needs no case split on wrap-around.
-/

/-- A byte-addressed memory with `w`-bit addresses. -/
abbrev ByteMemory (w : ℕ) := BitVec w → BitVec 8

namespace ByteMemory

variable {w : ℕ}

/-- The bytes `a, a + 1, …, a + (n - 1)`, as a set of addresses. -/
def Region (a : BitVec w) (n : ℕ) : Set (BitVec w) := {x | (x - a).toNat < n}

/-- The little-endian word of the `n` bytes at `a`. -/
def load (m : ByteMemory w) (a : BitVec w) : (n : ℕ) → BitVec (8 * n)
  | 0 => 0#0
  | n + 1 => (m (a + BitVec.ofNat w n) ++ load m a n).cast (by ring)

/-- The quadword at `a`. -/
def load64 (m : ByteMemory w) (a : BitVec w) : BitVec 64 := load m a 8

/-- Writes the `n` bytes of `v` at `a`. -/
def store (m : ByteMemory w) (a : BitVec w) {n : ℕ} (v : BitVec (8 * n)) : ByteMemory w :=
  fun x => if (x - a).toNat < n then v.extractLsb' (8 * (x - a).toNat) 8 else m x

/-- Copies the `n` bytes of `src` at `a` to `b`. -/
def copy (m : ByteMemory w) (b : BitVec w) (src : ByteMemory w) (a : BitVec w) (n : ℕ) :
    ByteMemory w :=
  fun x => if (x - b).toNat < n then src (a + (x - b)) else m x

/-- Sets the `n` bytes at `b` to `v`. -/
def fill (m : ByteMemory w) (b : BitVec w) (n : ℕ) (v : BitVec 8) : ByteMemory w :=
  fun x => if (x - b).toNat < n then v else m x

/-- The memory of some quadwords from zero on, and zeros. -/
def ofWords (l : List (BitVec 64)) : ByteMemory 64 :=
  fun a => (l.getD (a.toNat / 8) 0#64).extractLsb' (8 * (a.toNat % 8)) 8

/-- The bytes `a, a + 1, …, a + (n - 1)`, one by one. -/
def bytes (m : ByteMemory w) (a : BitVec w) (n : ℕ) : List (BitVec 8) :=
  (List.range n).map fun i => m (a + BitVec.ofNat w i)

/-- The bytes of the first words do not depend on the others. -/
theorem ofWords_append {l : List (BitVec 64)} {a : BitVec 64} (h : a.toNat < 8 * l.length)
    (l' : List (BitVec 64)) : ofWords (l ++ l') a = ofWords l a := by
  unfold ofWords
  rw [List.getD_eq_getElem?_getD, List.getElem?_append_left (by omega), ← List.getD_eq_getElem?_getD]

theorem mem_region {a x : BitVec w} {n : ℕ} : x ∈ Region a n ↔ (x - a).toNat < n := Iff.rfl

theorem add_ofNat_sub_self (a : BitVec w) (k : ℕ) : a + BitVec.ofNat w k - a = BitVec.ofNat w k := by
  rw [BitVec.add_comm, BitVec.add_sub_cancel]

/-- A byte of a region, from the start of the region. -/
theorem eq_add_ofNat_sub (a x : BitVec w) : x = a + BitVec.ofNat w (x - a).toNat := by
  rw [BitVec.ofNat_toNat, BitVec.setWidth_eq, BitVec.add_comm, BitVec.sub_add_cancel]

/-- Regions move with a common displacement. -/
theorem add_mem_region_add {d a x : BitVec w} {n : ℕ} :
    d + x ∈ Region (d + a) n ↔ x ∈ Region a n := by
  rw [mem_region, mem_region, add_sub_add_left_eq_sub]

/-- Membership in a region that does not wrap around. -/
theorem mem_region_iff {a x : BitVec w} {n : ℕ} (h : a.toNat + n ≤ 2 ^ w) :
    x ∈ Region a n ↔ a.toNat ≤ x.toNat ∧ x.toNat < a.toNat + n := by
  have hx := x.isLt
  have ha := a.isLt
  rw [mem_region, BitVec.toNat_sub]
  rcases Nat.lt_or_ge x.toNat a.toNat with hlt | hge
  · rw [Nat.mod_eq_of_lt (by omega)]
    omega
  · rw [show 2 ^ w - a.toNat + x.toNat = x.toNat - a.toNat + 2 ^ w by omega, Nat.add_mod_right,
      Nat.mod_eq_of_lt (by omega)]
    omega

/-- Regions one behind the other, neither of which wraps around. -/
theorem not_mem_region_of_toNat {a b : BitVec w} {n k : ℕ}
    (h : a.toNat + n ≤ b.toNat ∧ b.toNat + k ≤ 2 ^ w ∨ b.toNat + k ≤ a.toNat ∧ a.toNat + n ≤ 2 ^ w)
    {x : BitVec w} (hx : x ∈ Region a n) : x ∉ Region b k := by
  have ha := a.isLt
  have hb := b.isLt
  intro hx'
  rw [mem_region_iff (by omega)] at hx hx'
  omega

theorem region_mono {p : BitVec w} {n l : ℕ} (h : n ≤ l) : Region p n ⊆ Region p l :=
  fun _ hx => lt_of_lt_of_le hx h

/-- A stretch of bytes inside another. -/
theorem region_add_subset {p : BitVec w} {s n l : ℕ} (h : s + n ≤ l) (hl : l < 2 ^ w) :
    Region (p + BitVec.ofNat w s) n ⊆ Region p l := by
  intro x hx
  have htoNat : (BitVec.ofNat w s).toNat = s := Nat.mod_eq_of_lt (by omega)
  have hmoved : x = p + (x - p) := by
    rw [BitVec.add_comm, BitVec.sub_add_cancel]
  rw [hmoved, add_mem_region_add, mem_region_iff (by omega), htoNat] at hx
  rw [mem_region]
  omega

/-! ### Loads, bit by bit -/

theorem getLsbD_load (m : ByteMemory w) (a : BitVec w) (n i : ℕ) (hi : i < 8 * n) :
    (load m a n).getLsbD i = (m (a + BitVec.ofNat w (i / 8))).getLsbD (i % 8) := by
  induction n with
  | zero => omega
  | succ n ih =>
    rw [load, BitVec.getLsbD_cast, BitVec.getLsbD_append]
    by_cases h : i < 8 * n
    · rw [if_pos h, ih h]
    · rw [if_neg h, show i / 8 = n by omega, show i % 8 = i - 8 * n by omega]

/-- A load depends only on the bytes it reads. -/
theorem load_congr {m m' : ByteMemory w} {a a' : BitVec w} {n : ℕ}
    (h : ∀ k < n, m (a + BitVec.ofNat w k) = m' (a' + BitVec.ofNat w k)) :
    load m a n = load m' a' n := by
  apply BitVec.eq_of_getLsbD_eq
  intro i hi
  rw [getLsbD_load m a n i hi, getLsbD_load m' a' n i hi, h (i / 8) (by omega)]

/-- A load among equal bytes. -/
theorem load_congr_add {m m' : ByteMemory w} {p p' : BitVec w} {n s l : ℕ}
    (h : ∀ k < n, m (p + BitVec.ofNat w k) = m' (p' + BitVec.ofNat w k)) (hs : s + l ≤ n) :
    load m (p + BitVec.ofNat w s) l = load m' (p' + BitVec.ofNat w s) l := by
  refine load_congr fun k hk => ?_
  rw [BitVec.add_assoc, BitVec.add_assoc, ← BitVec.ofNat_add]
  exact h (s + k) (by omega)

theorem load64_congr_add {m m' : ByteMemory 64} {p p' : BitVec 64} {n s : ℕ}
    (h : ∀ k < n, m (p + BitVec.ofNat 64 k) = m' (p' + BitVec.ofNat 64 k)) (hs : s + 8 ≤ n) :
    m.load64 (p + BitVec.ofNat 64 s) = m'.load64 (p' + BitVec.ofNat 64 s) :=
  load_congr_add h hs

/-- Each byte read is a slice of the load. -/
theorem extractLsb'_load (m : ByteMemory w) (a : BitVec w) {n k : ℕ} (hk : k < n) :
    (load m a n).extractLsb' (8 * k) 8 = m (a + BitVec.ofNat w k) := by
  apply BitVec.eq_of_getLsbD_eq
  intro i hi
  rw [BitVec.getLsbD_extractLsb', decide_eq_true hi, Bool.true_and, getLsbD_load _ _ _ _ (by omega),
    show (8 * k + i) / 8 = k by omega, show (8 * k + i) % 8 = i by omega]

/-! ### Stretches of bytes -/

@[simp] theorem length_bytes (m : ByteMemory w) (a : BitVec w) (n : ℕ) : (bytes m a n).length = n := by
  rw [bytes, List.length_map, List.length_range]

theorem bytes_congr {m m' : ByteMemory w} {a a' : BitVec w} {n : ℕ}
    (h : ∀ i < n, m (a + BitVec.ofNat w i) = m' (a' + BitVec.ofNat w i)) :
    bytes m a n = bytes m' a' n :=
  List.map_congr_left fun i hi => h i (List.mem_range.mp hi)

theorem bytes_add (m : ByteMemory w) (a : BitVec w) (n n' : ℕ) :
    bytes m a (n + n') = bytes m a n ++ bytes m (a + BitVec.ofNat w n) n' := by
  rw [bytes, List.range_add, List.map_append, List.map_map, bytes, bytes]
  congr 1
  refine List.map_congr_left fun i _ => ?_
  rw [Function.comp_apply, BitVec.ofNat_add, BitVec.add_assoc]

/-! ### Loads after stores -/

theorem store_of_mem (m : ByteMemory w) {a x : BitVec w} {n : ℕ} (v : BitVec (8 * n))
    (h : x ∈ Region a n) : store m a v x = v.extractLsb' (8 * (x - a).toNat) 8 := by
  rw [store, if_pos (mem_region.mp h)]

theorem store_of_not_mem (m : ByteMemory w) {a x : BitVec w} {n : ℕ} (v : BitVec (8 * n))
    (h : x ∉ Region a n) : store m a v x = m x := by
  rw [store, if_neg (mt mem_region.mpr h)]

theorem add_ofNat_mem_region {a : BitVec w} {n k : ℕ} (hk : k < n) :
    a + BitVec.ofNat w k ∈ Region a n := by
  rw [mem_region, add_ofNat_sub_self, BitVec.toNat_ofNat]
  exact lt_of_le_of_lt (Nat.mod_le _ _) hk

/-- A load gives back what was stored at the same address. -/
theorem load_store_self (m : ByteMemory w) (a : BitVec w) {n : ℕ} (v : BitVec (8 * n))
    (hn : n ≤ 2 ^ w) : load (store m a v) a n = v := by
  apply BitVec.eq_of_getLsbD_eq
  intro i hi
  rw [getLsbD_load _ _ _ _ hi, store_of_mem m v (add_ofNat_mem_region (by omega)),
    add_ofNat_sub_self, BitVec.toNat_ofNat, Nat.mod_eq_of_lt (by omega),
    BitVec.getLsbD_extractLsb', decide_eq_true (Nat.mod_lt i (by norm_num)), Bool.true_and]
  congr 1
  omega

/-- A store outside the bytes loaded does not change the load. -/
theorem load_store_of_disjoint (m : ByteMemory w) {a b : BitVec w} {n n' : ℕ} (v : BitVec (8 * n'))
    (h : ∀ k < n, a + BitVec.ofNat w k ∉ Region b n') : load (store m b v) a n = load m a n :=
  load_congr fun k hk => store_of_not_mem m v (h k hk)

/-- Two stretches of bytes behind a common address that are apart. -/
theorem add_ofNat_not_mem_region {p : BitVec w} {s s' n k : ℕ} (hk : s + k < s' ∨ s' + n ≤ s + k)
    (hs : s + k < 2 ^ w) (hs' : s' + n < 2 ^ w) :
    p + BitVec.ofNat w s + BitVec.ofNat w k ∉ Region (p + BitVec.ofNat w s') n := by
  have htoNat : (BitVec.ofNat w s').toNat = s' := Nat.mod_eq_of_lt (by omega)
  rw [BitVec.add_assoc, add_mem_region_add, ← BitVec.ofNat_add, mem_region_iff (by omega), htoNat,
    BitVec.toNat_ofNat, Nat.mod_eq_of_lt hs]
  omega

/-- Two stretches of bytes behind a common address that are apart have no byte in common. -/
theorem not_mem_region_add {p x : BitVec w} {s s' n n' : ℕ} (h : s + n ≤ s' ∨ s' + n' ≤ s)
    (hs : s + n ≤ 2 ^ w) (hs' : s' + n' < 2 ^ w) (hx : x ∈ Region (p + BitVec.ofNat w s) n) :
    x ∉ Region (p + BitVec.ofNat w s') n' := by
  have hk : (x - (p + BitVec.ofNat w s)).toNat < n := mem_region.mp hx
  rw [eq_add_ofNat_sub (p + BitVec.ofNat w s) x]
  exact add_ofNat_not_mem_region (by omega) (by omega) hs'

/-- A store to another field of the same object does not change the load of a field. -/
theorem load_store_add (m : ByteMemory w) {p : BitVec w} {s s' n n' : ℕ} (v : BitVec (8 * n'))
    (h : s + n ≤ s' ∨ s' + n' ≤ s) (hs : s + n ≤ 2 ^ w) (hs' : s' + n' < 2 ^ w) :
    load (store m (p + BitVec.ofNat w s') v) (p + BitVec.ofNat w s) n =
      load m (p + BitVec.ofNat w s) n :=
  load_store_of_disjoint m v fun k hk => add_ofNat_not_mem_region (by omega) (by omega) hs'

/-- Storing what is there changes nothing. -/
theorem store_load_self (m : ByteMemory w) (a : BitVec w) (n : ℕ) : store m a (load m a n) = m := by
  ext1 x
  by_cases hx : x ∈ Region a n
  · rw [store_of_mem m _ hx, extractLsb'_load m a (mem_region.mp hx), ← eq_add_ofNat_sub]
  · exact store_of_not_mem m _ hx

end ByteMemory
