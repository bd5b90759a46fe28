import ZppHypervisor.Lib.ByteMemory

/-!
# Many writes to one object

`storeAll m p l` makes the writes of a list to the object at `p`, each at an offset of its own.  If the
writes do not overlap, each of them can be read back (`load_storeAll`), and nothing outside the object
changes (`storeAll_of_not_mem`).
-/

namespace ByteMemory

variable {w : ℕ}

/-- A value for some bytes of an object. -/
structure Write where
  offset : ℕ
  size : ℕ
  value : BitVec (8 * size)

/-- The bytes of two writes are apart. -/
def Write.Apart (x y : Write) : Prop :=
  x.offset + x.size ≤ y.offset ∨ y.offset + y.size ≤ x.offset

instance (x y : Write) : Decidable (x.Apart y) := inferInstanceAs (Decidable (_ ∨ _))

/-- The writes of a list, the first one first. -/
def storeAll (m : ByteMemory w) (p : BitVec w) : List Write → ByteMemory w
  | [] => m
  | x :: l => storeAll (m.store (p + BitVec.ofNat w x.offset) x.value) p l

theorem storeAll_append (m : ByteMemory w) (p : BitVec w) (l l' : List Write) :
    storeAll m p (l ++ l') = storeAll (storeAll m p l) p l' := by
  induction l generalizing m with
  | nil => rfl
  | cons x l ih => exact ih _

/-- The writes stay inside the first `n` bytes of the object. -/
def Within (n : ℕ) (l : List Write) : Prop := ∀ x ∈ l, x.offset + x.size ≤ n

theorem Within.cons {n : ℕ} {x : Write} {l : List Write} (h : Within n (x :: l)) :
    x.offset + x.size ≤ n ∧ Within n l :=
  ⟨h x (.head _), fun y hy => h y (.tail _ hy)⟩

theorem Within.append {n : ℕ} {l l' : List Write} (h : Within n l) (h' : Within n l') :
    Within n (l ++ l') :=
  fun x hx => (List.mem_append.mp hx).elim (h x) (h' x)

theorem storeAll_concat (m : ByteMemory w) (p : BitVec w) (l : List Write) (x : Write) :
    (m.storeAll p l).store (p + BitVec.ofNat w x.offset) x.value = m.storeAll p (l ++ [x]) := by
  rw [storeAll_append]
  rfl

/-- A write to an object inside another, `d` bytes from its start. -/
def Write.shift (d : ℕ) (x : Write) : Write := ⟨d + x.offset, x.size, x.value⟩

theorem storeAll_add (m : ByteMemory w) (p : BitVec w) (d : ℕ) (l : List Write) :
    storeAll m (p + BitVec.ofNat w d) l = storeAll m p (l.map (Write.shift d)) := by
  induction l generalizing m with
  | nil => rfl
  | cons x l ih =>
    rw [storeAll, ih, BitVec.add_assoc, ← BitVec.ofNat_add]
    rfl

theorem storeAll_of_not_mem {m : ByteMemory w} {p x : BitVec w} {n : ℕ} {l : List Write}
    (hl : Within n l) (hn : n < 2 ^ w) (hx : x ∉ Region p n) : storeAll m p l x = m x := by
  induction l generalizing m with
  | nil => rfl
  | cons y l ih =>
    obtain ⟨hy, hl⟩ := hl.cons
    rw [storeAll, ih hl]
    exact store_of_not_mem _ _ fun hmem => hx (region_add_subset hy hn hmem)

/-- Writes that are apart from a stretch of the object do not change it. -/
theorem load_storeAll_of_apart {m : ByteMemory w} {p : BitVec w} {n s k : ℕ} {l : List Write}
    (hl : Within n l) (hn : n < 2 ^ w) (hs : s + k ≤ n)
    (happart : ∀ x ∈ l, s + k ≤ x.offset ∨ x.offset + x.size ≤ s) :
    load (storeAll m p l) (p + BitVec.ofNat w s) k = load m (p + BitVec.ofNat w s) k := by
  induction l generalizing m with
  | nil => rfl
  | cons y l ih =>
    obtain ⟨hy, hl⟩ := hl.cons
    rw [storeAll, ih hl fun x hx => happart x (.tail _ hx)]
    exact load_store_add _ _ (happart y (.head _)) (by omega) (by omega)

/-- Each write can be read back. -/
theorem load_storeAll {m : ByteMemory w} {p : BitVec w} {n : ℕ} {l : List Write} {x : Write}
    (hl : Within n l) (hn : n < 2 ^ w) (happart : l.Pairwise Write.Apart) (hx : x ∈ l) :
    load (storeAll m p l) (p + BitVec.ofNat w x.offset) x.size = x.value := by
  induction l generalizing m with
  | nil => exact nomatch hx
  | cons y l ih =>
    obtain ⟨hy, hrest⟩ := hl.cons
    obtain ⟨hhead, htail⟩ := List.pairwise_cons.mp happart
    rw [storeAll]
    rcases List.mem_cons.mp hx with rfl | hx
    · rw [load_storeAll_of_apart hrest hn hy hhead]
      exact load_store_self _ _ _ (by omega)
    · exact ih hrest htail hx

/-- Loads outside the object are as before. -/
theorem load_storeAll_of_not_mem {m : ByteMemory w} {p a : BitVec w} {n k : ℕ} {l : List Write}
    (hl : Within n l) (hn : n < 2 ^ w) (ha : ∀ i < k, a + BitVec.ofNat w i ∉ Region p n) :
    load (storeAll m p l) a k = load m a k :=
  load_congr fun i hi => storeAll_of_not_mem hl hn (ha i hi)

end ByteMemory
