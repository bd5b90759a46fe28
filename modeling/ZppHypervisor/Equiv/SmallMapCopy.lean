import ZppHypervisor.Equiv.SmallMapRun

/-!
# Copying and moving a `SmallMap`

The move constructor hands the slots over (`Represents.moveConstruct_spec`).  The loop of the copy
constructor runs up to the size of the map under construction, which is 0, so a copy is always empty
(`copyConstruct_eq`), and so is a map after copy assignment (`Represents.copyAssign_spec`).
-/

namespace Zpp.SmallMap

open SortedAssoc

variable {Key Value : Type} {capacity : ℕ} {less : Key → Key → Bool}
  {m target : SmallMap Key Value capacity} {l l' : List (Key × Value)}

/-! ### Moving -/

/-- The first `n` slots have changed hands. -/
theorem Represents.moveValues_spec (hm : Represents less m l) {n : ℕ} (hn : n ≤ l.length) (size : ℕ) :
    ({ (empty : SmallMap Key Value capacity) with size := size }).moveValues m n =
      some ({ storage := fun i => if i < n then m.storage i else none, size := size },
        { m with storage := fun i => if i < n then none else m.storage i }) := by
  induction n with
  | zero =>
    rw [moveValues, Option.some.injEq, Prod.mk.injEq, SmallMap.ext_iff, SmallMap.ext_iff]
    refine ⟨⟨funext fun i => ?_, rfl⟩, ⟨funext fun i => ?_, rfl⟩⟩
    · dsimp only [empty]
      rw [if_neg i.not_lt_zero]
    · dsimp only
      rw [if_neg i.not_lt_zero]
  | succ n ih =>
    have hfits := hm.fits
    have hstorage : m.storage n = some l[n] := by rw [hm.storage, List.getElem?_eq_getElem hn]
    have hleft : (if n < n then none else m.storage n) = some l[n] := by
      rw [if_neg (Nat.lt_irrefl n), hstorage]
    rw [moveValues, ih (by omega)]
    simp only [Option.bind_eq_bind, Option.bind_some]
    rw [value_eq_some hleft (by omega), Option.bind_some, construct, if_pos (by omega),
      Option.bind_some, destroy_eq_some hleft (by omega), Option.bind_some, Option.some.injEq,
      Prod.mk.injEq, SmallMap.ext_iff, SmallMap.ext_iff]
    refine ⟨⟨funext fun i => ?_, rfl⟩, ⟨funext fun i => ?_, rfl⟩⟩
    · dsimp only
      by_cases hi : i = n
      · rw [hi, if_pos n.lt_succ_self, hstorage, Function.update_self]
      · rw [if_congr (show i < n + 1 ↔ i < n by omega) rfl rfl, Function.update_of_ne hi]
    · dsimp only
      by_cases hi : i = n
      · rw [hi, if_pos n.lt_succ_self, Function.update_self]
      · rw [if_congr (show i < n + 1 ↔ i < n by omega) rfl rfl, Function.update_of_ne hi]

/-- All slots have changed hands. -/
theorem Represents.moveValues_size (hm : Represents less m l) :
    (do
      let (m', other) ←
        ({ (empty : SmallMap Key Value capacity) with size := m.size }).moveValues m m.size
      some (m', { other with size := 0 })) = some (m, (empty : SmallMap Key Value capacity)) := by
  rw [hm.moveValues_spec hm.size.le]
  simp only [Option.bind_eq_bind, Option.bind_some, Option.some.injEq, Prod.mk.injEq,
    SmallMap.ext_iff, empty, and_true]
  constructor
  · refine funext fun i => ?_
    by_cases hi : i < m.size
    · rw [if_pos hi]
    · rw [if_neg hi, hm.storage, List.getElem?_eq_none (by rw [← hm.size]; omega)]
  · refine funext fun i => ?_
    by_cases hi : i < m.size
    · rw [if_pos hi]
    · rw [if_neg hi, hm.storage, List.getElem?_eq_none (by rw [← hm.size]; omega)]

theorem Represents.moveConstruct_spec (hm : Represents less m l) :
    m.moveConstruct = some (m, .empty) :=
  hm.moveValues_size

theorem Represents.moveAssign_spec (htarget : Represents less target l') (hm : Represents less m l) :
    target.moveAssign m = some (m, .empty) := by
  rw [moveAssign, htarget.clear_spec]
  exact hm.moveValues_size

/-! ### Copying -/

/-- The size of the map under construction is 0. -/
theorem copyConstruct_eq (m : SmallMap Key Value capacity) : m.copyConstruct = some .empty := by
  rw [copyConstruct, copyValues]
  exact if_neg (Nat.lt_irrefl 0)

theorem Represents.copyAssign_spec (htarget : Represents less target l')
    (m : SmallMap Key Value capacity) : target.copyAssign m = some .empty := by
  rw [copyAssign, copyConstruct_eq]
  simp only [Option.bind_eq_bind, Option.bind_some]
  rw [htarget.moveAssign_spec represents_empty]
  rfl

/-! ### Contents -/

/-- The maps have the same pairs in the same order, and a search has the same answer. -/
structure SameContents (less : Key → Key → Bool) (m' m : SmallMap Key Value capacity) : Prop where
  size : m'.size = m.size
  values : m'.values = m.values
  find : ∀ key, m'.find less key = m.find less key

theorem SameContents.refl (m : SmallMap Key Value capacity) : SameContents less m m :=
  ⟨rfl, rfl, fun _ => rfl⟩

/-- A map move-constructed from `m` has its contents and leaves it empty. -/
def PreservedByMove (less : Key → Key → Bool) (m : SmallMap Key Value capacity) : Prop :=
  ∃ m' rest : SmallMap Key Value capacity, m.moveConstruct = some (m', rest) ∧
    SameContents less m' m ∧ rest.size = 0 ∧ rest.values = some []

/-- Moving and copying `m`, and assigning it to any map, keep its contents. -/
structure Preserved (less : Key → Key → Bool) (m : SmallMap Key Value capacity) : Prop where
  move : PreservedByMove less m
  copy : ∃ m', m.copyConstruct = some m' ∧ SameContents less m' m
  assign : ∀ (ops : List (Op Key Value)) (target : SmallMap Key Value capacity)
    (live : Live Key Value), Run less ops target live →
    ∃ m', target.copyAssign m = some m' ∧ SameContents less m' m

/-- **Moving preserves the contents of a map, copying only those of an empty one.** -/
theorem preserved_iff (hless : StrictWeakOrder less) {ops : List (Op Key Value)}
    {live : Live Key Value} (h : Run less ops m live) :
    PreservedByMove less m ∧ (Preserved less m ↔ m.size = 0) := by
  obtain ⟨l, hl⟩ := h.refines hless
  have hm := hl.represents
  have hmove : PreservedByMove less m :=
    ⟨m, .empty, hm.moveConstruct_spec, .refl m, rfl, rfl⟩
  refine ⟨hmove, fun hpreserved => ?_, fun hsize => ?_⟩
  · obtain ⟨m', hcopy, hsame⟩ := hpreserved.copy
    rw [copyConstruct_eq, Option.some.injEq] at hcopy
    rw [← hsame.size, ← hcopy]
    rfl
  · have hempty : (empty : SmallMap Key Value capacity) = m := by
      rw [hm.size] at hsize
      refine SmallMap.ext (funext fun i => ?_) (hm.size.trans hsize).symm
      rw [hm.storage, List.eq_nil_of_length_eq_zero hsize]
      rfl
    refine ⟨hmove, ⟨_, copyConstruct_eq m, ?_⟩, fun ops target live htarget => ?_⟩
    · rw [hempty]
      exact .refl m
    · obtain ⟨l', hl'⟩ := htarget.refines hless
      refine ⟨_, hl'.represents.copyAssign_spec m, ?_⟩
      rw [hempty]
      exact .refl m

/-- The empty map. -/
theorem preserved_empty : Preserved natLess (empty : SmallMap ℕ ℕ 2) :=
  (preserved_iff strictWeakOrder_natLess .start).2.mpr rfl

/-- A map of one pair. -/
theorem not_preserved_one :
    ∃ m : SmallMap ℕ ℕ 2, Run natLess [Op.emplace 5 10] m
        (Live.emplace natLess (fun _ => none) 5 10) ∧
      m.values = some [(5, 10)] ∧ ¬Preserved natLess m := by
  refine ⟨⟨Function.update (fun _ => none) 0 (some (5, 10)), 1⟩, ?_, rfl, fun h => ?_⟩
  · show Run natLess ([] ++ [Op.emplace 5 10]) _ _
    exact .call .start (Or.inl (by decide : 0 < 2)) rfl
  · obtain ⟨m', hcopy, hsame⟩ := h.copy
    rw [copyConstruct_eq, Option.some.injEq] at hcopy
    have hsize := hsame.size
    rw [← hcopy] at hsize
    exact absurd hsize (by decide)

end Zpp.SmallMap
