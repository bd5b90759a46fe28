import Mathlib.Data.Set.Card
import ZppHypervisor.Equiv.SmallMap

/-!
# Runs of `SmallMap` against a finite map

The purpose of the container is a finite map: for each key, the pair last emplaced for it, if it has
not been erased since (`Live`).  `Run` is any sequence of calls from the empty map whose positions are
valid and which adds a new key only while there is room.  Each call keeps `Refines`: the slots hold a
sorted list in which looking up a key finds what is live for it.
-/

namespace Zpp.SmallMap

open SortedAssoc

variable {Key Value : Type} {capacity : ℕ}

/-- The pair that is live for each key. -/
abbrev Live (Key Value : Type) := Key → Option (Key × Value)

namespace Live

variable (less : Key → Key → Bool) (live : Live Key Value)

/-- The pair becomes the one of its key. -/
def emplace (key : Key) (value : Value) : Live Key Value := fun k =>
  if Equivalent less key k then some (key, value) else live k

/-- The pairs are emplaced one after the other. -/
def emplaceAll (values : List (Key × Value)) : Live Key Value :=
  values.foldl (fun live v => live.emplace less v.1 v.2) live

/-- The keys of the pairs are not live any more. -/
def remove (values : List (Key × Value)) : Live Key Value := fun k =>
  if values.any fun v => Equivalent less v.1 k then none else live k

end Live

/-- The calls.  A position is the index that an iterator points at. -/
inductive Op (Key Value : Type)
  | emplace (key : Key) (value : Value)
  | insert (value : Key × Value)
  | insertRange (values : List (Key × Value))
  | erase (position : ℕ)
  | eraseRange (first last : ℕ)
  | clear
  | find (key : Key)

namespace Op

variable (less : Key → Key → Bool)

/-- A call: the map it leaves and the iterator it returns, if any. -/
def run (m : SmallMap Key Value capacity) :
    Op Key Value → Option (SmallMap Key Value capacity × Option ℕ)
  | emplace key value => (m.emplace less key value).map (·, none)
  | insert value => (m.insert less value).map (·, none)
  | insertRange values => (m.insertRange less values).map (·, none)
  | erase position => (m.erase position).map fun r => (r.1, some r.2)
  | eraseRange first last => (m.eraseRange first last).map fun r => (r.1, some r.2)
  | clear => m.clear.map (·, none)
  | find key => (m.find less key).map fun it => (m, some it)

/-- Positions are valid, and a new key comes only while there is room. -/
def Valid (m : SmallMap Key Value capacity) (live : Live Key Value) : Op Key Value → Prop
  | emplace key _ => m.size < capacity ∨ live key ≠ none
  | insert value => m.size < capacity ∨ live value.1 ≠ none
  | insertRange values => ∀ (i : ℕ) (h : i < values.length) (m' : SmallMap Key Value capacity),
      m.insertRange less (values.take i) = some m' →
      m'.size < capacity ∨ live.emplaceAll less (values.take i) values[i].1 ≠ none
  | erase position => position < m.size
  | eraseRange first last => first ≤ last ∧ last ≤ m.size
  | clear => True
  | find _ => True

/-- What is live after the call. -/
def live (m : SmallMap Key Value capacity) (live : Live Key Value) : Op Key Value → Live Key Value
  | emplace key value => live.emplace less key value
  | insert value => live.emplace less value.1 value.2
  | insertRange values => live.emplaceAll less values
  | erase position => live.remove less (m.value position).toList
  | eraseRange first last =>
    live.remove less ((List.range' first (last - first)).filterMap m.value)
  | clear => fun _ => none
  | find _ => live

/-- What the call does to the pairs in iteration order, and what it returns. -/
def Effect (live : Live Key Value) (l l' : List (Key × Value)) (it : Option ℕ) :
    Op Key Value → Prop
  | emplace key value => ∀ (i : ℕ) (h : i < l.length), Equivalent less l[i].1 key = true →
      l' = l.set i (key, value)
  | insert value => ∀ (i : ℕ) (h : i < l.length), Equivalent less l[i].1 value.1 = true →
      l' = l.set i value
  | insertRange _ => True
  | erase position => l' = l.eraseIdx position ∧ it = some position
  | eraseRange first last => l' = l.take first ++ l.drop last ∧ it = some first
  | clear => l' = []
  | find key => l' = l ∧ ∃ i, it = some i ∧ l[i]? = live key ∧ (i = l.length ↔ live key = none)

end Op

/-- A run of valid calls from the empty map, with what is live after it. -/
inductive Run (less : Key → Key → Bool) :
    List (Op Key Value) → SmallMap Key Value capacity → Live Key Value → Prop
  | start : Run less [] .empty fun _ => none
  | call {ops : List (Op Key Value)} {m m' : SmallMap Key Value capacity} {live : Live Key Value}
      {op : Op Key Value} {it : Option ℕ} (h : Run less ops m live) (hvalid : op.Valid less m live)
      (hrun : op.run less m = some (m', it)) : Run less (ops ++ [op]) m' (op.live less m live)

variable {less : Key → Key → Bool} {m : SmallMap Key Value capacity} {live : Live Key Value}

/-- The pairs of `l` are in the slots, and they are the live ones. -/
structure Refines (less : Key → Key → Bool) (m : SmallMap Key Value capacity)
    (live : Live Key Value) (l : List (Key × Value)) : Prop where
  represents : Represents less m l
  lookup : ∀ key, SortedAssoc.lookup less key l = live key

theorem refines_empty : Refines less (empty : SmallMap Key Value capacity) (fun _ => none) [] where
  represents := represents_empty
  lookup _ := rfl

/-! ### One call -/

section Step

variable {l : List (Key × Value)} (hless : StrictWeakOrder less) (h : Refines less m live l)

include hless h in
theorem Refines.emplace {key : Key} (value : Value) (hroom : m.size < capacity ∨ live key ≠ none) :
    ∃ m', m.emplace less key value = some m' ∧
      Refines less m' (live.emplace less key value) (SortedAssoc.insert less key value l) := by
  rw [h.represents.size, ← h.lookup key] at hroom
  obtain ⟨m', hrun, hm'⟩ := h.represents.emplace_spec hless key value hroom
  refine ⟨m', hrun, hm', fun k => ?_⟩
  rw [lookup_insert hless h.represents.sorted, Live.emplace, h.lookup]

include hless in
theorem Refines.insertRange (values : List (Key × Value)) {m : SmallMap Key Value capacity}
    {live : Live Key Value} {l : List (Key × Value)} (h : Refines less m live l)
    (hroom : (Op.insertRange values).Valid less m live) :
    ∃ m' l', m.insertRange less values = some m' ∧
      Refines less m' (live.emplaceAll less values) l' := by
  have hprefix : ∀ n ≤ values.length, ∃ m' l', m.insertRange less (values.take n) = some m' ∧
      Refines less m' (live.emplaceAll less (values.take n)) l' := by
    intro n hn
    induction n with
    | zero => exact ⟨m, l, rfl, h⟩
    | succ n ih =>
      obtain ⟨m₁, l₁, hrun, h₁⟩ := ih (Nat.le_of_succ_le hn)
      obtain ⟨m₂, hinsert, h₂⟩ := h₁.emplace hless values[n].2 (hroom n hn m₁ hrun)
      refine ⟨m₂, SortedAssoc.insert less values[n].1 values[n].2 l₁, ?_, ?_⟩
      · rw [SmallMap.insertRange] at hrun ⊢
        rw [List.take_succ_eq_append_getElem hn, List.foldlM_append, hrun]
        simp only [Option.bind_eq_bind, Option.bind_some, List.foldlM_cons, List.foldlM_nil,
          SmallMap.insert, hinsert, Option.pure_def]
      · rw [Live.emplaceAll, List.take_succ_eq_append_getElem hn, List.foldl_append]
        exact h₂
  have hall := hprefix values.length le_rfl
  rwa [List.take_length] at hall

/-- The values in a range of slots. -/
theorem Refines.filterMap_value {first n : ℕ} (h : Refines less m live l) :
    (List.range' first n).filterMap m.value = (l.drop first).take n := by
  induction n with
  | zero => rfl
  | succ n ih =>
    rw [List.range'_concat, List.filterMap_append, ih, List.take_add_one, List.getElem?_drop,
      Nat.one_mul, List.filterMap_cons, List.filterMap_nil, h.represents.value_eq]
    cases l[first + n]? <;> rfl

include hless h in
theorem Refines.eraseRange {first last : ℕ} (hfirst : first ≤ last) (hlast : last ≤ m.size) :
    ∃ m', m.eraseRange first last = some (m', first) ∧
      Refines less m' (live.remove less ((List.range' first (last - first)).filterMap m.value))
        (l.take first ++ l.drop last) := by
  obtain ⟨m', hrun, hm'⟩ := h.represents.eraseRange_spec hfirst (h.represents.size ▸ hlast)
  refine ⟨m', hrun, hm', fun k => ?_⟩
  rw [lookup_take_append_drop hless h.represents.sorted hfirst, Live.remove, h.filterMap_value,
    h.lookup]

include hless h in
theorem Refines.erase {position : ℕ} (hposition : position < m.size) :
    ∃ m', m.erase position = some (m', position) ∧
      Refines less m' (live.remove less (m.value position).toList) (l.eraseIdx position) := by
  have hlt : position < l.length := h.represents.size ▸ hposition
  obtain ⟨m', hrun, hm'⟩ := h.represents.erase_spec position hlt
  refine ⟨m', hrun, hm', fun k => ?_⟩
  have hvalue : (m.value position).toList = (l.drop position).take (position + 1 - position) := by
    rw [← h.filterMap_value, Nat.add_sub_cancel_left, h.represents.value_eq,
      List.getElem?_eq_getElem hlt, List.range'_one, List.filterMap_cons, h.represents.value_eq,
      List.getElem?_eq_getElem hlt]
    rfl
  rw [List.eraseIdx_eq_take_drop_succ,
    lookup_take_append_drop hless h.represents.sorted position.le_succ, Live.remove, hvalue, h.lookup]

/-- The pair of a live key keeps its place. -/
theorem insert_eq_set (hless : StrictWeakOrder less) (hl : Sorted less l) {key : Key}
    (value : Value) {i : ℕ} (hi : i < l.length) (heq : Equivalent less l[i].1 key = true) :
    SortedAssoc.insert less key value l = l.set i (key, value) := by
  rw [(isPosition_of_equivalent hless hl hi heq).insert_eq hless value]
  rfl

include hless h in
/-- A valid call is defined and keeps the refinement. -/
theorem Refines.run {op : Op Key Value} (hvalid : op.Valid less m live) :
    ∃ m' it l', op.run less m = some (m', it) ∧ Refines less m' (op.live less m live) l' ∧
      op.Effect less live l l' it := by
  have hsorted := h.represents.sorted
  cases op with
  | emplace key value =>
    obtain ⟨m', hrun, hm'⟩ := h.emplace hless value hvalid
    exact ⟨m', none, _, by rw [Op.run, hrun]; rfl, hm',
      fun i hi heq => insert_eq_set hless hsorted value hi heq⟩
  | insert value =>
    obtain ⟨m', hrun, hm'⟩ := h.emplace hless value.2 hvalid
    exact ⟨m', none, _, by rw [Op.run, SmallMap.insert, hrun]; rfl, hm',
      fun i hi heq => insert_eq_set hless hsorted value.2 hi heq⟩
  | insertRange values =>
    obtain ⟨m', l', hrun, hm'⟩ := h.insertRange hless values hvalid
    exact ⟨m', none, l', by rw [Op.run, hrun]; rfl, hm', trivial⟩
  | erase position =>
    obtain ⟨m', hrun, hm'⟩ := h.erase hless hvalid
    exact ⟨m', some position, _, by rw [Op.run, hrun]; rfl, hm', rfl, rfl⟩
  | eraseRange first last =>
    obtain ⟨m', hrun, hm'⟩ := h.eraseRange hless hvalid.1 hvalid.2
    exact ⟨m', some first, _, by rw [Op.run, hrun]; rfl, hm', rfl, rfl⟩
  | clear =>
    exact ⟨.empty, none, [], by rw [Op.run, h.represents.clear_spec]; rfl, refines_empty,
      rfl⟩
  | find key =>
    obtain ⟨it, hfind, hvalue, hend⟩ := h.represents.find_spec hless key
    rw [h.lookup] at hvalue hend
    rw [h.represents.value_eq] at hvalue
    rw [h.represents.size] at hend
    exact ⟨m, some it, l, by rw [Op.run, hfind]; rfl, h, rfl, it, rfl, hvalue,
      hend.symm⟩

end Step

/-! ### Runs -/

theorem Run.refines (hless : StrictWeakOrder less) {ops : List (Op Key Value)}
    (h : Run less ops m live) : ∃ l, Refines less m live l := by
  induction h with
  | start => exact ⟨[], refines_empty⟩
  | call _ hvalid hrun ih =>
    obtain ⟨l, hl⟩ := ih
    obtain ⟨m', it, l', hrun', hl', -⟩ := hl.run hless hvalid
    obtain ⟨rfl, -⟩ := Prod.mk.inj (Option.some.inj (hrun.symm.trans hrun'))
    exact ⟨l', hl'⟩

/-- **`small_map` is a finite map.**  After any run the first `size()` slots and no others are
constructed; iterating gives the live pairs in strictly increasing key order, `size()` of them; and
every further valid call is defined, with the effect on the pairs and the result that `Op.Effect`
says. -/
theorem run_refines (hless : StrictWeakOrder less) {ops : List (Op Key Value)}
    (h : Run less ops m live) :
    ∃ l, m.values = some l ∧ Sorted less l ∧ (∀ e, e ∈ l ↔ live e.1 = some e) ∧
      {e | live e.1 = some e}.ncard = m.size ∧ m.size = l.length ∧ m.size ≤ capacity ∧
      (∀ i, (m.storage i).isSome ↔ i < m.size) ∧
      ∀ op : Op Key Value, op.Valid less m live → ∃ m' it l', op.run less m = some (m', it) ∧
        m'.values = some l' ∧ op.Effect less live l l' it := by
  obtain ⟨l, hl⟩ := h.refines hless
  have hm := hl.represents
  have hmem : ∀ e, e ∈ l ↔ live e.1 = some e := by
    intro e
    rw [← hl.lookup, lookup_eq_some_iff hless hm.sorted, StrictWeakOrder.equivalent_iff,
      hless.irrefl]
    exact (and_iff_left ⟨rfl, rfl⟩).symm
  refine ⟨l, hm.values_eq, hm.sorted, hmem, ?_, hm.size, hm.size ▸ hm.fits, fun i => ?_,
    fun op hvalid => ?_⟩
  · have hset : {e | live e.1 = some e} = {e | e ∈ l} := Set.ext fun e => (hmem e).symm
    classical
    rw [hset, ← List.coe_toFinset, Set.ncard_coe_finset,
      List.toFinset_card_of_nodup (nodup_of_sorted hless hm.sorted), hm.size]
  · rw [hm.storage, hm.size]
    by_cases hi : i < l.length
    · rw [List.getElem?_eq_getElem hi]
      exact iff_of_true rfl hi
    · rw [List.getElem?_eq_none (not_lt.mp hi)]
      exact iff_of_false Bool.false_ne_true hi
  · obtain ⟨m', it, l', hrun, hl', heffect⟩ := hl.run hless hvalid
    exact ⟨m', it, l', hrun, hl'.represents.values_eq, heffect⟩

/-- The comparison of numbers. -/
def natLess (a b : ℕ) : Bool := decide (a < b)

theorem strictWeakOrder_natLess : StrictWeakOrder natLess where
  irrefl a := decide_eq_false (Nat.lt_irrefl a)
  trans a b c hab hbc := by
    simp only [natLess, decide_eq_true_eq] at *
    omega
  incomp_trans a b c hab hba hbc hcb := by
    simp only [natLess, decide_eq_false_iff_not] at *
    omega

/-- A map of two slots: one pair, then a smaller one before it. -/
theorem run_refines_two :
    ∃ (m m' : SmallMap ℕ ℕ 2) (it : Option ℕ), m.values = some [(5, 10)] ∧
      (Op.emplace 3 7).run natLess m = some (m', it) := by
  have hrun : Run natLess ([] ++ [Op.emplace 5 10])
      (⟨Function.update (fun _ => none) 0 (some (5, 10)), 1⟩ : SmallMap ℕ ℕ 2)
      (Live.emplace natLess (fun _ => none) 5 10) :=
    .call .start (Or.inl (by decide : 0 < 2)) rfl
  obtain ⟨l, -, -, -, -, hsize, -, -, hcall⟩ := run_refines strictWeakOrder_natLess hrun
  obtain ⟨m', it, l', hrun', -⟩ := hcall (.emplace 3 7) (Or.inl (by decide : 1 < 2))
  exact ⟨_, m', it, rfl, hrun'⟩

end Zpp.SmallMap
