import Mathlib.Data.List.Basic
import Mathlib.Order.Basic
import ZppHypervisor.Lib.SortedAssoc
import ZppHypervisor.SmallMap

/-!
# `SmallMap` against sorted association lists

`Represents less m l`: the slots of `m` hold exactly the pairs of the sorted list `l`.  The binary
search of `find_index` finds the position of a key in that list, from which `find` is `lookup` and
`emplace`, which shifts the pairs above the key, is `insert`.
-/

namespace Zpp.SmallMap

open SortedAssoc

variable {Key Value : Type} {capacity : ℕ} {less : Key → Key → Bool}
  {m : SmallMap Key Value capacity} {l : List (Key × Value)} {key : Key} {value : Value}

/-- The constructed slots of the map are the first ones and hold the pairs of `l`. -/
structure Represents (less : Key → Key → Bool) (m : SmallMap Key Value capacity)
    (l : List (Key × Value)) : Prop where
  size : m.size = l.length
  storage : ∀ i, m.storage i = l[i]?
  fits : l.length ≤ capacity
  sorted : Sorted less l

theorem represents_empty : Represents less (empty : SmallMap Key Value capacity) [] where
  size := rfl
  storage _ := rfl
  fits := Nat.zero_le _
  sorted := List.Pairwise.nil

theorem Represents.value_eq (h : Represents less m l) (i : ℕ) : m.value i = l[i]? := by
  rw [SmallMap.value, h.storage]
  split_ifs with hi
  · rfl
  · exact (List.getElem?_eq_none (by have := h.fits; omega)).symm

/-! ### Searching -/

/-- The search narrows the range of indices that can hold the key down to one. -/
theorem Represents.findIndexLoop_spec (hm : Represents less m l) (hless : StrictWeakOrder less)
    (first last : ℕ) (hle : first ≤ last) (hlast : last < l.length)
    (hbefore : ∀ j (hj : j < l.length), j < first → less l[j].1 key = true)
    (hafter : ∀ j (hj : j < l.length), last < j → less key l[j].1 = true) :
    ∃ found index, findIndexLoop less m key first last hle = some (found, index) ∧
      IsPosition less l key found index := by
  have hsorted : ∀ i j (hj : j < l.length) (hij : i < j), less l[i].1 l[j].1 = true :=
    fun i j hj hij => List.pairwise_iff_getElem.mp hm.sorted i j _ hj hij
  have hvalue : ∀ i (hi : i < l.length), m.value i = some l[i] := fun i hi => by
    rw [hm.value_eq, List.getElem?_eq_getElem hi]
  fun_induction findIndexLoop less m key first last hle with
  | case1 first hle =>
    rw [hvalue first hlast]
    simp only [Option.bind_eq_bind, Option.bind_some]
    by_cases h1 : less key l[first].1 = true
    · refine ⟨false, first, if_pos h1, hbefore, hafter, fun _ => ?_, Nat.le_of_lt hlast, fun h => ?_⟩
      · exact h1
      · cases h
    rw [if_neg h1]
    by_cases h2 : less l[first].1 key = true
    · refine ⟨false, first + 1, if_pos h2, fun j hj hlt => ?_, fun j hj hlt => ?_, fun h => ?_,
        hlast, fun h => ?_⟩
      · rcases Nat.lt_succ_iff_lt_or_eq.mp hlt with hlt | rfl
        · exact hbefore j hj hlt
        · exact h2
      · exact hafter j hj (Nat.lt_of_succ_lt hlt)
      · exact hafter (first + 1) h first.lt_succ_self
      · cases h
    · refine ⟨true, first, if_neg h2, hbefore, hafter, fun _ => ?_, Nat.le_of_lt hlast,
        fun _ => hlast⟩
      exact StrictWeakOrder.equivalent_iff.mpr ⟨by simpa using h2, by simpa using h1⟩
  | case2 first last hle hne middle hnone =>
    rw [hvalue middle (by omega)] at hnone
    cases hnone
  | case3 first last hle hne middle middleKey w hmiddle hlt ih =>
    -- The key comes before the middle, so it comes before everything above the middle.
    rw [hvalue middle (by omega)] at hmiddle
    have hkey : middleKey = l[middle].1 := congrArg Prod.fst (Option.some.inj hmiddle).symm
    refine ih (by omega) hbefore (fun j hj hmj => ?_) hsorted
    exact hless.trans _ _ _ (hkey ▸ hlt) (hsorted middle j hj hmj)
  | case4 first last hle hne middle middleKey w hmiddle hlt hgt ih =>
    rw [hvalue middle (by omega)] at hmiddle
    have hkey : middleKey = l[middle].1 := congrArg Prod.fst (Option.some.inj hmiddle).symm
    refine ih hlast (fun j hj hjm => ?_) hafter hsorted
    rcases Nat.lt_succ_iff_lt_or_eq.mp hjm with hjm | rfl
    · exact hless.trans _ _ _ (hsorted j middle _ hjm) (hkey ▸ hgt)
    · exact hkey ▸ hgt
  | case5 first last hle hne middle middleKey w hmiddle hlt hgt =>
    have hmid : middle < l.length := by omega
    rw [hvalue middle hmid] at hmiddle
    have hkey : middleKey = l[middle].1 := congrArg Prod.fst (Option.some.inj hmiddle).symm
    have heq : Equivalent less l[middle].1 key = true := by
      rw [← hkey]
      exact StrictWeakOrder.equivalent_iff.mpr ⟨by simpa using hgt, by simpa using hlt⟩
    refine ⟨true, middle, rfl, fun j hj hjm => ?_, fun j hj hmj => ?_, fun _ => heq,
      Nat.le_of_lt hmid, fun _ => hmid⟩
    · exact hless.less_of_equivalent_right (hsorted j middle hmid hjm) heq
    · rw [StrictWeakOrder.equivalent_comm] at heq
      exact hless.less_of_equivalent_left heq (hsorted middle j hj hmj)

/-- `find_index` never reads a raw slot and finds the key's position. -/
theorem Represents.findIndex_spec (hm : Represents less m l) (hless : StrictWeakOrder less)
    (key : Key) :
    ∃ found index, m.findIndex less key = some (found, index) ∧
      IsPosition less l key found index := by
  rw [findIndex]
  by_cases h0 : m.size = 0
  · have hl : l = [] := List.eq_nil_of_length_eq_zero (hm.size ▸ h0)
    subst hl
    exact ⟨false, 0, if_pos h0, fun j hj => absurd hj j.not_lt_zero,
      fun j hj => absurd hj j.not_lt_zero, fun h => absurd h (Nat.lt_irrefl 0), Nat.zero_le _,
      fun h => absurd h Bool.false_ne_true⟩
  · rw [if_neg h0]
    have hsize := hm.size
    exact hm.findIndexLoop_spec hless 0 (m.size - 1) _ (by omega)
      (fun j _ hj => absurd hj j.not_lt_zero) (fun j hj hlt => by omega)

/-- `find` returns an iterator to the pair of the key, or `end()` if there is none. -/
theorem Represents.find_spec (hm : Represents less m l) (hless : StrictWeakOrder less) (key : Key) :
    ∃ it, m.find less key = some it ∧ m.value it = lookup less key l ∧
      (lookup less key l = none ↔ it = m.size) := by
  obtain ⟨found, index, hfind, hpos⟩ := hm.findIndex_spec hless key
  rw [find, hfind, hpos.lookup_eq]
  cases found with
  | true =>
    have hlt := hpos.lt_length rfl
    refine ⟨index, rfl, hm.value_eq index, ?_⟩
    rw [if_pos rfl, List.getElem?_eq_getElem hlt, hm.size]
    exact iff_of_false (by simp) (Nat.ne_of_lt hlt)
  | false =>
    refine ⟨m.size, rfl, ?_, iff_of_true rfl rfl⟩
    rw [hm.value_eq, hm.size, List.getElem?_eq_none (Nat.le_refl _)]
    rfl

/-! ### Inserting -/

theorem value_eq_some {i : ℕ} {v : Key × Value} (h : m.storage i = some v) (hi : i < capacity) :
    m.value i = some v := by
  rw [SmallMap.value, if_pos hi, h]

theorem assign_eq_some {i : ℕ} {v v' : Key × Value} (h : m.storage i = some v')
    (hi : i < capacity) :
    m.assign i v = some { m with storage := Function.update m.storage i (some v) } := by
  rw [assign, value_eq_some h hi]
  rfl

/-- The values from `slot` on move one to the right; the value at `slot` stays as well. -/
theorem moveRight_spec (m : SmallMap Key Value capacity) (slot n : ℕ)
    (hslots : ∀ i, slot ≤ i → i ≤ slot + n → ∃ v, m.storage i = some v ∧ i < capacity) :
    m.moveRight slot n = some { m with
      storage := fun i => if slot < i ∧ i ≤ slot + n then m.storage (i - 1) else m.storage i } := by
  induction n generalizing m with
  | zero =>
    rw [moveRight, Option.some.injEq, SmallMap.ext_iff]
    refine ⟨funext fun i => ?_, rfl⟩
    dsimp only
    rw [if_neg (by omega)]
  | succ n ih =>
    obtain ⟨v, hv, hn⟩ := hslots (slot + n) (by omega) (by omega)
    obtain ⟨v', hv', hn'⟩ := hslots (slot + n + 1) (by omega) (by omega)
    rw [moveRight, value_eq_some hv hn]
    simp only [Option.bind_eq_bind, Option.bind_some, assign_eq_some hv' hn']
    rw [ih]
    · rw [Option.some.injEq, SmallMap.ext_iff]
      refine ⟨funext fun i => ?_, rfl⟩
      simp only [Function.update_apply]
      -- The slot just assigned got its left neighbour; the others are as in the recursive call.
      by_cases hi : i = slot + n + 1
      · subst hi
        rw [if_neg (by omega), if_pos rfl, if_pos (by omega), Nat.add_sub_cancel, hv]
      · split_ifs <;> first | rfl | omega
    · intro i hlo hhi
      obtain ⟨w, hw, hi⟩ := hslots i hlo (by omega)
      exact ⟨w, by simp only [Function.update_apply, if_neg (show i ≠ slot + n + 1 by omega), hw], hi⟩

/-- Assigning to the pair found. -/
theorem Represents.set (hm : Represents less m l) {index : ℕ} (h : index < l.length)
    (v : Key × Value) (hsorted : Sorted less (l.set index v)) :
    ∃ m', m.assign index v = some m' ∧ Represents less m' (l.set index v) := by
  have hstorage : m.storage index = some l[index] := by
    rw [hm.storage, List.getElem?_eq_getElem h]
  refine ⟨_, assign_eq_some hstorage (Nat.lt_of_lt_of_le h hm.fits), ?_, fun i => ?_, ?_, hsorted⟩
  · rw [List.length_set, ← hm.size]
  · simp only [Function.update_apply]
    by_cases hi : i = index
    · subst hi
      rw [if_pos rfl, List.getElem?_set_self h]
    · rw [if_neg hi, List.getElem?_set_ne (Ne.symm hi), hm.storage]
  · rw [List.length_set]
    exact hm.fits

/-- Constructing a pair behind the last one. -/
theorem Represents.append (hm : Represents less m l) (hroom : l.length < capacity)
    (v : Key × Value) (hsorted : Sorted less (l.insertIdx m.size v)) :
    ∃ m', m.construct m.size v = some m' ∧
      Represents less m'.incrementSize (l.insertIdx m.size v) := by
  have hsize := hm.size
  refine ⟨_, if_pos (hsize ▸ hroom), ?_, fun i => ?_, ?_, hsorted⟩
  · simp only [incrementSize, List.length_insertIdx, hsize, Nat.le_refl, if_true]
  · simp only [incrementSize, Function.update_apply]
    rw [List.getElem?_insertIdx, hm.storage]
    split_ifs with h1 h2 h3 <;> first | omega | rfl | skip
    · rw [List.getElem?_eq_none (by omega), List.getElem?_eq_none (by omega)]
  · rw [List.length_insertIdx]
    split_ifs <;> omega

/-- Making room for a pair before the one at `index`. -/
theorem Represents.insertIdx (hm : Represents less m l) (hroom : l.length < capacity) {index : ℕ}
    (hindex : index < l.length) (v : Key × Value) (hsorted : Sorted less (l.insertIdx index v)) :
    ∃ back m₁ m₂ m₃, m.value (m.size - 1) = some back ∧ m.construct m.size back = some m₁ ∧
      m₁.size = m.size ∧ m₁.moveRight index (m.size - 1 - index) = some m₂ ∧
      m₂.assign index v = some m₃ ∧
      Represents less m₃.incrementSize (l.insertIdx index v) := by
  have hsize := hm.size
  have hstorage : ∀ i (hi : i < l.length), m.storage i = some l[i] := fun i hi => by
    rw [hm.storage, List.getElem?_eq_getElem hi]
  have hlast : m.size - 1 < l.length := by omega
  refine ⟨l[m.size - 1], _, _, _, value_eq_some (hstorage _ hlast) (by omega),
    if_pos (hsize ▸ hroom), rfl, moveRight_spec _ _ _ fun i hlo hhi => ?_,
    assign_eq_some (?_ : _ = some l[index]) (by omega), ?_, fun i => ?_, ?_, hsorted⟩
  · have hi : i < l.length := by omega
    refine ⟨l[i], ?_, by omega⟩
    simp only [Function.update_apply]
    rw [if_neg (by omega), hstorage]
  · dsimp only
    rw [if_neg (by omega), Function.update_of_ne (by omega), hstorage]
  · simp only [incrementSize, List.length_insertIdx, hsize, Nat.le_of_lt hindex, if_true]
  · simp only [incrementSize, Function.update_apply]
    rw [List.getElem?_insertIdx, hm.storage, hm.storage]
    -- Below `index` nothing moved, above it every pair came from its left neighbour.
    split_ifs <;> first | rfl | omega | skip
    · rw [← List.getElem?_eq_getElem hlast, show i - 1 = m.size - 1 by omega]
    · rw [List.getElem?_eq_none (by omega), List.getElem?_eq_none (by omega)]
  · rw [List.length_insertIdx]
    split_ifs <;> omega

/-- `emplace` adds the pair or replaces the pair of its key, without reading a raw slot and, as long
as there is room for a new key, without leaving the storage. -/
theorem Represents.emplace_spec (hm : Represents less m l) (hless : StrictWeakOrder less)
    (key : Key) (value : Value) (hroom : l.length < capacity ∨ lookup less key l ≠ none) :
    ∃ m', m.emplace less key value = some m' ∧
      Represents less m' (SortedAssoc.insert less key value l) := by
  have hsize := hm.size
  obtain ⟨found, index, hfind, hpos⟩ := hm.findIndex_spec hless key
  have hsorted := sorted_insert hless hm.sorted key value
  rw [hpos.insert_eq hless value] at hsorted ⊢
  cases found with
  | true =>
    have hlt := hpos.lt_length rfl
    obtain ⟨m', hassign, hm'⟩ := hm.set hlt (key, value) hsorted
    refine ⟨m', ?_, hm'⟩
    rw [emplace, if_neg (by omega), hfind]
    exact hassign
  | false =>
    have hroom : l.length < capacity := by
      rw [hpos.lookup_eq] at hroom
      exact hroom.resolve_right fun h => h rfl
    rcases Nat.lt_or_eq_of_le hpos.le_length with hlt | rfl
    · obtain ⟨back, m₁, m₂, m₃, h1, h2, hm₁, h3, h4, hm'⟩ := hm.insertIdx hroom hlt (key, value) hsorted
      refine ⟨_, ?_, hm'⟩
      rw [emplace, if_neg (by omega), hfind]
      simp only [Option.bind_eq_bind, Option.bind_some, Bool.false_eq_true, if_false]
      rw [if_neg (by omega)]
      simp only [h1, h2, hm₁, h3, h4, Option.bind_some]
    · rw [← hsize] at hsorted ⊢
      obtain ⟨m', hconstruct, hm'⟩ := hm.append hroom (key, value) hsorted
      refine ⟨_, ?_, hm'⟩
      rw [emplace]
      by_cases h0 : m.size = 0
      · rw [if_pos h0]
        rw [h0] at hconstruct
        simp only [Option.bind_eq_bind, hconstruct, Option.bind_some]
      · rw [if_neg h0, hfind, hsize]
        rw [hsize] at hconstruct
        simp only [Option.bind_eq_bind, hconstruct, Option.bind_some, Bool.false_eq_true, if_false,
          if_true]

/-! ### Erasing -/

/-- The values behind `slot` move one to the left; the last of them stays as well. -/
theorem moveLeft_spec (m : SmallMap Key Value capacity) (slot n : ℕ)
    (hslots : ∀ i, slot ≤ i → i ≤ slot + n → ∃ v, m.storage i = some v ∧ i < capacity) :
    m.moveLeft slot n = some { m with
      storage := fun i => if slot ≤ i ∧ i < slot + n then m.storage (i + 1) else m.storage i } := by
  induction n generalizing m slot with
  | zero =>
    rw [moveLeft, Option.some.injEq, SmallMap.ext_iff]
    refine ⟨funext fun i => ?_, rfl⟩
    dsimp only
    rw [if_neg (by omega)]
  | succ n ih =>
    obtain ⟨v, hv, hn⟩ := hslots (slot + 1) (by omega) (by omega)
    obtain ⟨v', hv', hn'⟩ := hslots slot (by omega) (by omega)
    rw [moveLeft, value_eq_some hv hn]
    simp only [Option.bind_eq_bind, Option.bind_some, assign_eq_some hv' hn']
    rw [ih]
    · rw [Option.some.injEq, SmallMap.ext_iff]
      refine ⟨funext fun i => ?_, rfl⟩
      simp only [Function.update_apply]
      -- The slot just assigned got its right neighbour; the others are as in the recursive call.
      by_cases hi : i = slot
      · subst hi
        rw [if_neg (by omega), if_pos rfl, if_pos (by omega), hv]
      · split_ifs <;> first | rfl | omega
    · intro i hlo hhi
      obtain ⟨w, hw, hi⟩ := hslots i (by omega) (by omega)
      exact ⟨w, by simp only [Function.update_apply, if_neg (show i ≠ slot by omega), hw], hi⟩

theorem destroy_eq_some {i : ℕ} {v : Key × Value} (h : m.storage i = some v) (hi : i < capacity) :
    m.destroy i = some { m with storage := Function.update m.storage i none } := by
  rw [destroy, value_eq_some h hi]
  rfl

/-- `erase` removes the pair at the position. -/
theorem Represents.erase_spec (hm : Represents less m l) (position : ℕ)
    (hposition : position < l.length) :
    ∃ m', m.erase position = some (m', position) ∧ Represents less m' (l.eraseIdx position) := by
  have hsize := hm.size
  have hfits := hm.fits
  have hstorage : ∀ i (hi : i < l.length), m.storage i = some l[i] := fun i hi => by
    rw [hm.storage, List.getElem?_eq_getElem hi]
  have hmove := moveLeft_spec m position (m.size - 1 - position) fun i hlo hhi =>
    ⟨_, hstorage i (by omega), by omega⟩
  rw [erase, if_pos (by omega), hmove]
  simp only [Option.bind_eq_bind, Option.bind_some]
  have hback : l.length - 1 < l.length := by omega
  rw [destroy_eq_some (v := l[l.length - 1]) _ (by omega)]
  · refine ⟨_, rfl, ?_, fun i => ?_, ?_, hm.sorted.sublist (List.eraseIdx_sublist l position)⟩
    · rw [List.length_eraseIdx_of_lt hposition, ← hsize]
    · simp only [Function.update_apply, List.getElem?_eraseIdx, hm.storage]
      -- The last slot is raw; below `position` nothing moved, above it every pair came from its
      -- right neighbour.
      by_cases hlast : i = m.size - 1
      · rw [if_pos hlast, if_neg (by omega), List.getElem?_eq_none (by omega)]
      rw [if_neg hlast]
      by_cases hlo : i < position
      · rw [if_neg (by omega), if_pos hlo]
      rw [if_neg hlo]
      by_cases hi : i < m.size - 1
      · rw [if_pos (by omega)]
      · rw [if_neg (by omega), List.getElem?_eq_none (by omega), List.getElem?_eq_none (by omega)]
    · rw [List.length_eraseIdx_of_lt hposition]
      omega
  · dsimp only
    rw [if_neg (by omega), hsize, hstorage]

/-- `erase` of a range removes the pairs of the range. -/
theorem Represents.eraseDown_spec (hm : Represents less m l) (first n : ℕ)
    (hlast : first + n ≤ l.length) :
    ∃ m', m.eraseDown first n = some m' ∧
      Represents less m' (l.take first ++ l.drop (first + n)) := by
  induction n generalizing m l with
  | zero =>
    refine ⟨m, rfl, ?_⟩
    rwa [Nat.add_zero, List.take_append_drop]
  | succ n ih =>
    obtain ⟨m₁, herase, hm₁⟩ := hm.erase_spec (first + n) (by omega)
    obtain ⟨m', hrun, hm'⟩ := ih hm₁ (by rw [List.length_eraseIdx_of_lt (by omega)]; omega)
    refine ⟨m', ?_, ?_⟩
    · rw [eraseDown, herase]
      exact hrun
    · have hlength : (l.take (first + n)).length = first + n := List.length_take_of_le (by omega)
      rw [List.eraseIdx_eq_take_drop_succ, List.drop_left' hlength,
        List.take_append_of_le_length (by omega), List.take_take, Nat.min_eq_left (by omega)] at hm'
      exact hm'

theorem Represents.eraseRange_spec (hm : Represents less m l) {first last : ℕ}
    (hfirst : first ≤ last) (hlast : last ≤ l.length) :
    ∃ m', m.eraseRange first last = some (m', first) ∧
      Represents less m' (l.take first ++ l.drop last) := by
  obtain ⟨m', hrun, hm'⟩ := hm.eraseDown_spec first (last - first) (by omega)
  rw [Nat.add_sub_cancel' hfirst] at hm'
  refine ⟨m', ?_, hm'⟩
  rw [eraseRange, if_pos hfirst, hrun]
  rfl

/-- The first `n` slots are raw after their values were destroyed. -/
theorem Represents.destroyAll_spec (hm : Represents less m l) {n : ℕ} (hn : n ≤ l.length) :
    m.destroyAll n = some { m with storage := fun i => if i < n then none else m.storage i } := by
  induction n with
  | zero =>
    rw [destroyAll, Option.some.injEq, SmallMap.ext_iff]
    refine ⟨funext fun i => ?_, rfl⟩
    dsimp only
    rw [if_neg i.not_lt_zero]
  | succ n ih =>
    have hfits := hm.fits
    rw [destroyAll, ih (by omega)]
    simp only [Option.bind_eq_bind, Option.bind_some]
    rw [destroy_eq_some (v := l[n]) _ (by omega)]
    · rw [Option.some.injEq, SmallMap.ext_iff]
      refine ⟨funext fun i => ?_, rfl⟩
      simp only [Function.update_apply]
      split_ifs <;> first | rfl | omega
    · dsimp only
      rw [if_neg (Nat.lt_irrefl n), hm.storage, List.getElem?_eq_getElem hn]

theorem Represents.clear_spec (hm : Represents less m l) : m.clear = some .empty := by
  rw [clear, hm.destroyAll_spec (Nat.le_of_eq hm.size)]
  simp only [Option.bind_eq_bind, Option.bind_some, Option.some.injEq, SmallMap.ext_iff, empty, and_true]
  refine funext fun i => ?_
  rw [hm.storage, hm.size]
  split_ifs with hi
  · rfl
  · exact List.getElem?_eq_none (by omega)

/-! ### Iterating -/

/-- Iterating from `begin()` to `end()` gives the pairs. -/
theorem Represents.values_eq (hm : Represents less m l) : m.values = some l := by
  have hprefix : ∀ n ≤ l.length, (List.range n).mapM m.value = some (l.take n) := by
    intro n hn
    induction n with
    | zero => rfl
    | succ n ih =>
      have hvalue : m.value n = some l[n] := by rw [hm.value_eq, List.getElem?_eq_getElem hn]
      rw [List.range_succ, List.mapM_append, ih (Nat.le_of_succ_le hn),
        List.take_succ_eq_append_getElem hn]
      simp only [List.mapM_cons, List.mapM_nil, hvalue, Option.bind_eq_bind, Option.bind_some,
        Option.pure_def]
  rw [values, hm.size, hprefix _ (Nat.le_refl _), List.take_length]

end Zpp.SmallMap
