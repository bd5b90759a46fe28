import Mathlib.Data.List.Basic
import Mathlib.Tactic.SplitIfs

/-!
# Association lists sorted by key

A finite map kept as a list of pairs in increasing key order, for a comparison `less` that is a
strict weak order: two keys neither of which is less than the other are the same key to the map.
`insert` adds a pair or replaces the pair of an equivalent key, `lookup` finds the pair of a key.

An implementation finds the place of a key by some search and then works on indices.
`IsPosition less l key found index` is what such a search has to deliver, and `IsPosition.insert_eq`
and `IsPosition.lookup_eq` say what to do with its result.
-/

namespace SortedAssoc

variable {Key Value : Type*}

/-- The comparison orders the keys up to equivalence. -/
structure StrictWeakOrder (less : Key → Key → Bool) : Prop where
  irrefl : ∀ a, less a a = false
  trans : ∀ a b c, less a b = true → less b c = true → less a c = true
  incomp_trans : ∀ a b c, less a b = false → less b a = false → less b c = false →
    less c b = false → less a c = false ∧ less c a = false

/-- Neither key is less than the other. -/
def Equivalent (less : Key → Key → Bool) (a b : Key) : Bool := !less a b && !less b a

/-- The pairs are in increasing key order. -/
def Sorted (less : Key → Key → Bool) (l : List (Key × Value)) : Prop :=
  l.Pairwise fun a b => less a.1 b.1 = true

/-- Adds the pair, in place of a pair with an equivalent key if there is one. -/
def insert (less : Key → Key → Bool) (key : Key) (value : Value) :
    List (Key × Value) → List (Key × Value)
  | [] => [(key, value)]
  | e :: l =>
    if less key e.1 then (key, value) :: e :: l
    else if less e.1 key then e :: insert less key value l
    else (key, value) :: l

/-- The pair whose key is equivalent to `key`. -/
def lookup (less : Key → Key → Bool) (key : Key) (l : List (Key × Value)) : Option (Key × Value) :=
  l.find? fun e => Equivalent less e.1 key

/-! ### Facts about the order -/

namespace StrictWeakOrder

variable {less : Key → Key → Bool} {a b c : Key}

theorem asymm (h : StrictWeakOrder less) (hab : less a b = true) : less b a = false := by
  by_contra hba
  have haa := h.trans a b a hab (by simpa using hba)
  rw [h.irrefl a] at haa
  exact Bool.false_ne_true haa

theorem equivalent_iff : Equivalent less a b = true ↔ less a b = false ∧ less b a = false := by
  rw [Equivalent, Bool.and_eq_true, Bool.not_eq_true', Bool.not_eq_true']

theorem equivalent_comm : Equivalent less a b = Equivalent less b a := by
  rw [Equivalent, Equivalent, Bool.and_comm]

/-- What lies between `a` and `b` lies above `a` or below `b`. -/
theorem less_or_less (h : StrictWeakOrder less) (hab : less a b = true) (c : Key) :
    less a c = true ∨ less c b = true := by
  by_contra hc
  simp only [not_or, Bool.not_eq_true] at hc
  obtain ⟨hac, hcb⟩ := hc
  -- Otherwise `a`, `c` and `b` would be equivalent in turn, or `b` would be less than `a`.
  cases hca : less c a
  · cases hbc : less b c
    · have hcab := (h.incomp_trans a c b hac hca hcb hbc).1
      rw [hab] at hcab
      exact Bool.false_ne_true hcab.symm
    · have hcontra := h.trans a b c hab hbc
      rw [hac] at hcontra
      exact Bool.false_ne_true hcontra
  · have hcontra := h.trans c a b hca hab
    rw [hcb] at hcontra
    exact Bool.false_ne_true hcontra

theorem less_of_equivalent_left (h : StrictWeakOrder less) (hab : Equivalent less a b = true)
    (hbc : less b c = true) : less a c = true := by
  have hba := (equivalent_iff.mp hab).2
  rcases h.less_or_less hbc a with hl | hr
  · rw [hba] at hl
    exact absurd hl Bool.false_ne_true
  · exact hr

theorem less_of_equivalent_right (h : StrictWeakOrder less) (hab : less a b = true)
    (hbc : Equivalent less b c = true) : less a c = true := by
  have hcb := (equivalent_iff.mp hbc).2
  rcases h.less_or_less hab c with hl | hr
  · exact hl
  · rw [hcb] at hr
    exact absurd hr Bool.false_ne_true

end StrictWeakOrder

open StrictWeakOrder

variable {less : Key → Key → Bool} {key : Key} {value : Value} {l : List (Key × Value)}

/-! ### Inserting -/

theorem mem_insert {e : Key × Value} (h : e ∈ insert less key value l) :
    e = (key, value) ∨ e ∈ l := by
  induction l with
  | nil => exact Or.inl (List.mem_singleton.mp h)
  | cons d l ih =>
    rw [insert] at h
    split_ifs at h with h1 h2
    · exact List.mem_cons.mp h
    · rcases List.mem_cons.mp h with rfl | h
      · exact Or.inr List.mem_cons_self
      · exact (ih h).imp_right (List.mem_cons_of_mem d)
    · exact (List.mem_cons.mp h).imp_right (List.mem_cons_of_mem d)

theorem sorted_insert (hless : StrictWeakOrder less) (hl : Sorted less l) (key : Key)
    (value : Value) :
    Sorted less (insert less key value l) := by
  induction l with
  | nil => exact List.pairwise_singleton _ _
  | cons d l ih =>
    obtain ⟨hd, hl'⟩ := List.pairwise_cons.mp hl
    rw [insert]
    split_ifs with h1 h2
    · refine List.pairwise_cons.mpr ⟨fun e he => ?_, hl⟩
      rcases List.mem_cons.mp he with rfl | he
      · exact h1
      · exact hless.trans _ _ _ h1 (hd e he)
    · refine List.pairwise_cons.mpr ⟨fun e he => ?_, ih hl'⟩
      rcases mem_insert he with rfl | he
      · exact h2
      · exact hd e he
    · have heq : Equivalent less key d.1 = true :=
        equivalent_iff.mpr ⟨by simpa using h1, by simpa using h2⟩
      exact List.pairwise_cons.mpr
        ⟨fun e he => hless.less_of_equivalent_left heq (hd e he), hl'⟩

/-! ### Looking up -/

theorem lookup_cons_pos {d : Key × Value} (h : Equivalent less d.1 key = true) :
    lookup less key (d :: l) = some d :=
  List.find?_cons_of_pos (p := fun e : Key × Value => Equivalent less e.1 key) h

theorem lookup_cons_neg {d : Key × Value} (h : ¬ Equivalent less d.1 key = true) :
    lookup less key (d :: l) = lookup less key l :=
  List.find?_cons_of_neg (p := fun e : Key × Value => Equivalent less e.1 key) h

/-- A pair below `key` is not found under it. -/
theorem lookup_cons_of_less {d : Key × Value} (h : less d.1 key = true) :
    lookup less key (d :: l) = lookup less key l := by
  refine lookup_cons_neg ?_
  rw [equivalent_iff, h]
  exact fun hc => Bool.false_ne_true hc.1.symm

/-- No pair above `key` is found under it. -/
theorem lookup_eq_none_of_less (h : ∀ e ∈ l, less key e.1 = true) : lookup less key l = none := by
  refine List.find?_eq_none.mpr fun e he => ?_
  rw [equivalent_iff, h e he]
  exact fun hc => Bool.false_ne_true hc.2.symm

/-- Inserting a pair changes the lookup of the keys equivalent to it and of no others. -/
theorem lookup_insert (hless : StrictWeakOrder less) (hl : Sorted less l) (key : Key)
    (value : Value) (key' : Key) :
    lookup less key' (insert less key value l) =
      if Equivalent less key key' then some (key, value) else lookup less key' l := by
  induction l with
  | nil =>
    by_cases h : Equivalent less key key' = true
    · rw [insert, if_pos h, lookup_cons_pos h]
    · rw [insert, if_neg h, lookup_cons_neg h]
  | cons d l ih =>
    obtain ⟨hd, hl'⟩ := List.pairwise_cons.mp hl
    specialize ih hl'
    rw [insert]
    by_cases h : Equivalent less key key' = true
    · rw [if_pos h] at ih ⊢
      split_ifs with h1 h2
      · exact lookup_cons_pos h
      · rw [lookup_cons_of_less (hless.less_of_equivalent_right h2 h), ih]
      · exact lookup_cons_pos h
    · rw [if_neg h] at ih ⊢
      split_ifs with h1 h2
      · exact lookup_cons_neg h
      · rw [lookup, List.find?_cons, ← lookup, ih, lookup, lookup, List.find?_cons]
      · -- `d` has the key replaced, so it was not found under `key'` either.
        obtain ⟨a1, a2⟩ : less key d.1 = false ∧ less d.1 key = false := by simpa using And.intro h1 h2
        have hnot : ¬ Equivalent less d.1 key' = true := by
          intro hc
          obtain ⟨b1, b2⟩ := equivalent_iff.mp hc
          exact h (equivalent_iff.mpr (hless.incomp_trans _ _ _ a1 a2 b1 b2))
        rw [lookup_cons_neg h, lookup_cons_neg hnot]

/-- Only a new key makes the list longer. -/
theorem length_insert (hless : StrictWeakOrder less) (hl : Sorted less l) (key : Key)
    (value : Value) :
    (insert less key value l).length =
      if (lookup less key l).isSome then l.length else l.length + 1 := by
  induction l with
  | nil => rfl
  | cons d l ih =>
    obtain ⟨hd, hl'⟩ := List.pairwise_cons.mp hl
    specialize ih hl'
    by_cases h1 : less key d.1 = true
    · have hnone : lookup less key (d :: l) = none := by
        refine lookup_eq_none_of_less fun e he => ?_
        rcases List.mem_cons.mp he with rfl | he
        · exact h1
        · exact hless.trans _ _ _ h1 (hd e he)
      rw [insert, if_pos h1, hnone]
      rfl
    by_cases h2 : less d.1 key = true
    · rw [insert, if_neg h1, if_pos h2, lookup_cons_of_less h2, List.length_cons, ih,
        List.length_cons]
      split_ifs <;> rfl
    · have heq : Equivalent less d.1 key = true :=
        equivalent_iff.mpr ⟨by simpa using h2, by simpa using h1⟩
      rw [insert, if_neg h1, if_neg h2, lookup_cons_pos heq]
      rfl

/-- In a sorted list a key has one pair at most. -/
theorem eq_of_equivalent (hless : StrictWeakOrder less) (hl : Sorted less l) {d e : Key × Value}
    (hd : d ∈ l) (he : e ∈ l) (hdk : Equivalent less d.1 key = true)
    (hek : Equivalent less e.1 key = true) : d = e := by
  have hnot : ∀ a b : Key × Value, Equivalent less a.1 key = true →
      Equivalent less b.1 key = true → less a.1 b.1 = false := by
    intro a b ha hb
    rw [equivalent_comm] at hb
    obtain ⟨hak, hka⟩ := equivalent_iff.mp ha
    obtain ⟨hkb, hbk⟩ := equivalent_iff.mp hb
    exact (hless.incomp_trans _ _ _ hak hka hkb hbk).1
  by_contra hne
  rcases (List.Pairwise.forall_of_forall_of_flip (R := fun a b : Key × Value =>
    a ≠ b → less a.1 b.1 = true ∨ less b.1 a.1 = true) (fun a _ h => absurd rfl h)
    (hl.imp fun h _ => Or.inl h) (hl.imp fun h _ => Or.inr h) hd he hne) with h | h
  · rw [hnot d e hdk hek] at h
    cases h
  · rw [hnot e d hek hdk] at h
    cases h

theorem lookup_eq_some_iff (hless : StrictWeakOrder less) (hl : Sorted less l) {e : Key × Value} :
    lookup less key l = some e ↔ e ∈ l ∧ Equivalent less e.1 key = true := by
  constructor
  · intro h
    exact ⟨List.mem_of_find?_eq_some h,
      List.find?_some (p := fun e : Key × Value => Equivalent less e.1 key) h⟩
  · rintro ⟨he, hek⟩
    cases hlookup : lookup less key l with
    | none => exact absurd hek (List.find?_eq_none.mp hlookup e he)
    | some d =>
      have hd := List.mem_of_find?_eq_some hlookup
      have hdk : Equivalent less d.1 key = true :=
        List.find?_some (p := fun e : Key × Value => Equivalent less e.1 key) hlookup
      rw [eq_of_equivalent hless hl hd he hdk hek]

theorem nodup_of_sorted (hless : StrictWeakOrder less) (hl : Sorted less l) : l.Nodup := by
  refine hl.imp fun {a b} h heq => ?_
  rw [heq, hless.irrefl] at h
  cases h

/-- Removing the pairs of a range of positions makes their keys not found and no others. -/
theorem lookup_take_append_drop (hless : StrictWeakOrder less) (hl : Sorted less l) {i j : ℕ}
    (hij : i ≤ j) (key : Key) :
    lookup less key (l.take i ++ l.drop j) =
      if ((l.drop i).take (j - i)).any fun e => Equivalent less e.1 key then none
      else lookup less key l := by
  have hsplit : l = l.take i ++ ((l.drop i).take (j - i) ++ l.drop j) := by
    have hdrop : (l.drop i).drop (j - i) = l.drop j := by
      rw [List.drop_drop, Nat.add_sub_cancel' hij]
    rw [← hdrop, List.take_append_drop, List.take_append_drop]
  have hsub : (l.take i ++ l.drop j).Sublist l := by
    conv_rhs => rw [hsplit]
    exact (List.sublist_append_right _ _).append_left _
  -- What is left is disjoint from what was removed.
  have hnodup := nodup_of_sorted hless hl
  rw [hsplit, List.nodup_append] at hnodup
  obtain ⟨-, hnodup, hfront⟩ := hnodup
  have hback := (List.nodup_append.mp hnodup).2.2
  have hmid : ∀ e ∈ (l.drop i).take (j - i), e ∉ l.take i ++ l.drop j := by
    intro e he hmem
    rcases List.mem_append.mp hmem with h | h
    · exact hfront e h e (List.mem_append_left _ he) rfl
    · exact hback e he e h rfl
  split_ifs with h
  · obtain ⟨d, hd, hdk⟩ := List.any_eq_true.mp h
    refine List.find?_eq_none.mpr fun e he hek => hmid d hd ?_
    have hdl : d ∈ l := List.mem_of_mem_drop (List.mem_of_mem_take hd)
    rwa [eq_of_equivalent hless hl hdl (hsub.subset he) hdk hek]
  · cases hlookup : lookup less key l with
    | none =>
      exact List.find?_eq_none.mpr fun e he => List.find?_eq_none.mp hlookup e (hsub.subset he)
    | some e =>
      obtain ⟨he, hek⟩ := (lookup_eq_some_iff hless hl).mp hlookup
      refine (lookup_eq_some_iff hless (hl.sublist hsub)).mpr ⟨?_, hek⟩
      rw [hsplit] at he
      rcases List.mem_append.mp he with he | he
      · exact List.mem_append_left _ he
      · rcases List.mem_append.mp he with he | he
        · exact absurd (List.any_eq_true.mpr ⟨e, he, hek⟩) h
        · exact List.mem_append_right _ he

/-! ### Positions -/

/-- The place of `key` in `l`: all pairs before `index` are below it, all after `index` are above
it, and the pair at `index` is the key's own if `found` and above it, or missing, if not. -/
structure IsPosition (less : Key → Key → Bool) (l : List (Key × Value)) (key : Key) (found : Bool)
    (index : ℕ) : Prop where
  before : ∀ j (hj : j < l.length), j < index → less l[j].1 key = true
  after : ∀ j (hj : j < l.length), index < j → less key l[j].1 = true
  here : ∀ h : index < l.length,
    if found then Equivalent less l[index].1 key = true else less key l[index].1 = true
  le_length : index ≤ l.length
  lt_length : found = true → index < l.length

/-- The position in the tail. -/
theorem IsPosition.tail {d : Key × Value} {found : Bool} {index : ℕ}
    (h : IsPosition less (d :: l) key found (index + 1)) : IsPosition less l key found index where
  before j hj hlt := h.before (j + 1) (Nat.succ_lt_succ hj) (Nat.succ_lt_succ hlt)
  after j hj hlt := h.after (j + 1) (Nat.succ_lt_succ hj) (Nat.succ_lt_succ hlt)
  here hi := h.here (Nat.succ_lt_succ hi)
  le_length := Nat.le_of_succ_le_succ h.le_length
  lt_length hf := Nat.lt_of_succ_lt_succ (h.lt_length hf)

/-- Inserting at a position: replace the pair there, or open a gap before it. -/
theorem IsPosition.insert_eq (hless : StrictWeakOrder less) {found : Bool} {index : ℕ}
    (h : IsPosition less l key found index) (value : Value) :
    insert less key value l =
      if found then l.set index (key, value) else l.insertIdx index (key, value) := by
  induction l generalizing index with
  | nil =>
    cases found with
    | true => exact absurd (h.lt_length rfl) index.not_lt_zero
    | false =>
      rw [Nat.le_zero.mp h.le_length]
      rfl
  | cons d l ih =>
    cases index with
    | zero =>
      have hhere := h.here (Nat.succ_pos _)
      rw [List.getElem_cons_zero] at hhere
      rw [insert]
      cases found with
      | true =>
        obtain ⟨h1, h2⟩ := equivalent_iff.mp (if_pos rfl ▸ hhere)
        rw [h1, h2]
        rfl
      | false =>
        have hlt : less key d.1 = true := by simpa using hhere
        rw [if_pos hlt]
        rfl
    | succ index =>
      have hlt : less d.1 key = true := h.before 0 (Nat.succ_pos _) (Nat.succ_pos _)
      rw [insert, hlt, hless.asymm hlt, ih h.tail]
      cases found <;> rfl

/-- The pair at `index` is the one of `key`. -/
theorem isPosition_of_equivalent (hless : StrictWeakOrder less) (hl : Sorted less l) {index : ℕ}
    (hindex : index < l.length) (h : Equivalent less l[index].1 key = true) :
    IsPosition less l key true index := by
  have hsorted : ∀ i j (hj : j < l.length) (hij : i < j), less l[i].1 l[j].1 = true :=
    fun i j hj hij => List.pairwise_iff_getElem.mp hl i j _ hj hij
  refine ⟨fun j hj hlt => ?_, fun j hj hlt => ?_, fun _ => h, Nat.le_of_lt hindex, fun _ => hindex⟩
  · exact hless.less_of_equivalent_right (hsorted j index hindex hlt) h
  · rw [equivalent_comm] at h
    exact hless.less_of_equivalent_left h (hsorted index j hj hlt)

/-- Looking up at a position. -/
theorem IsPosition.lookup_eq {found : Bool} {index : ℕ} (h : IsPosition less l key found index) :
    lookup less key l = if found then l[index]? else none := by
  induction l generalizing index with
  | nil => cases found <;> rfl
  | cons d l ih =>
    cases index with
    | zero =>
      have hhere := h.here (Nat.succ_pos _)
      rw [List.getElem_cons_zero] at hhere
      cases found with
      | true =>
        rw [lookup_cons_pos (by simpa using hhere)]
        rfl
      | false =>
        refine lookup_eq_none_of_less fun e he => ?_
        obtain ⟨j, hj, rfl⟩ := List.getElem_of_mem he
        cases j with
        | zero => simpa using hhere
        | succ j => exact h.after (j + 1) hj (Nat.succ_pos j)
    | succ index =>
      have hlt : less d.1 key = true := h.before 0 (Nat.succ_pos _) (Nat.succ_pos _)
      rw [lookup_cons_of_less hlt, ih h.tail]
      rfl

end SortedAssoc
