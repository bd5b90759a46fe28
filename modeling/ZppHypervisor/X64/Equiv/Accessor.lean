import ZppHypervisor.Lib.BitWrite
import ZppHypervisor.X64.Accessor

/-!
# The bit fields are independent

A setter writes bits (`writes`), for all fields but three just those of its field (`regular`).  So it
leaves the others, and setters of different bits commute (`independent_iff`).
-/

namespace Zpp.X64

open Intel BitField BitWrite

namespace Accessor

/-- The bits of a field. -/
def mask (first width : ℕ) : Word := BitVec.ofNat 64 (2 ^ width - 1) <<< first

theorem getLsbD_mask {first width i : ℕ} (hi : i < 64) :
    (mask first width).getLsbD i = decide (first ≤ i ∧ i < first + width) := by
  rw [mask, BitVec.getLsbD_shiftLeft, BitVec.getLsbD_ofNat, Nat.testBit_two_pow_sub_one,
    Bool.eq_iff_iff]
  simp only [Bool.and_eq_true, Bool.not_eq_true', decide_eq_true_eq, decide_eq_false_iff_not]
  omega

theorem mem_of_getLsbD_mask {first width i : ℕ} (hi : (mask first width).getLsbD i = true) :
    first ≤ i ∧ i < first + width := by
  rw [getLsbD_mask (BitVec.lt_of_getLsbD hi), decide_eq_true_eq] at hi
  exact hi

/-- Truncating is masking. -/
theorem and_low_eq {n : ℕ} (v : BitVec n) (width : ℕ) :
    v &&& BitVec.ofNat n (2 ^ width - 1) = (v.setWidth width).setWidth n := by
  apply BitVec.eq_of_getLsbD_eq
  intro i hi
  rw [BitVec.getLsbD_and, BitVec.getLsbD_ofNat, Nat.testBit_two_pow_sub_one, BitVec.getLsbD_setWidth,
    BitVec.getLsbD_setWidth, decide_eq_true hi, Bool.true_and, Bool.true_and, Bool.and_comm]

/-- The setter replaces the bits of the field, and the getter reads what was set. -/
structure Regular (a : Accessor) (encode : a.Value → Word) : Prop where
  set_eq : ∀ w v, a.set w v = put ⟨mask a.first a.width, encode v⟩ w
  get_set : ∀ w v, a.get (a.set w v) = a.truncate v

/-- The setter replaces some of the `n` bits from bit `first` up. -/
def Writes (a : Accessor) (first n : ℕ) (v : a.Value) : Prop :=
  ∃ p : BitWrite 64, (∀ w, a.set w v = put p w) ∧
    ∀ i, p.mask.getLsbD i = true → first ≤ i ∧ i < first + n

theorem Regular.writes {a : Accessor} {encode : a.Value → Word} (h : a.Regular encode) (v : a.Value) :
    a.Writes a.first a.width v :=
  ⟨⟨mask a.first a.width, encode v⟩, fun w => h.set_eq w v, fun _ hi => mem_of_getLsbD_mask hi⟩

theorem Regular.set_set {a : Accessor} {encode : a.Value → Word} (h : a.Regular encode) (w : Word)
    (v v' : a.Value) : a.set (a.set w v) v' = a.set w v' := by
  rw [h.set_eq, h.set_eq w v, h.set_eq w v']
  have hmask : (⟨mask a.first a.width, encode v⟩ : BitWrite 64).mask =
      (⟨mask a.first a.width, encode v'⟩ : BitWrite 64).mask := rfl
  exact put_put hmask w

/-- The other bits are as before. -/
theorem Writes.frame {a : Accessor} {first n : ℕ} {v : a.Value} (h : a.Writes first n v) (w : Word)
    {i : ℕ} (hi : i < first ∨ first + n ≤ i) : (a.set w v).getLsbD i = w.getLsbD i := by
  obtain ⟨p, hset, hmask⟩ := h
  have hout : ¬p.mask.getLsbD i = true := fun hbit => by
    have hin := hmask i hbit
    omega
  rw [hset, getLsbD_put, if_neg hout]

/-- Setters of different bits commute. -/
theorem Writes.comm {a b : Accessor} {first n first' n' : ℕ} {v : a.Value} {u : b.Value}
    (ha : a.Writes first n v) (hb : b.Writes first' n' u) (h : first + n ≤ first' ∨ first' + n' ≤ first)
    (w : Word) : b.set (a.set w v) u = a.set (b.set w u) v := by
  obtain ⟨p, hpset, hpmask⟩ := ha
  obtain ⟨q, hqset, hqmask⟩ := hb
  rw [hqset, hpset, hpset, hqset]
  refine put_comm ?_ w
  apply BitVec.eq_of_getLsbD_eq
  intro i _
  rw [BitVec.getLsbD_and, BitVec.getLsbD_zero, Bool.and_eq_false_iff, ← Bool.not_eq_true,
    ← Bool.not_eq_true]
  by_contra! hboth
  have hp := hpmask i hboth.1
  have hq := hqmask i hboth.2
  omega

/-! ### The three kinds of fields -/

theorem regular_flag (k : ℕ) (hk : k < 64) :
    Regular ⟨Bool, test k, setFlag k, k, 1, id⟩ (fun b => (if b then 1#64 else 0#64) <<< k) where
  set_eq w b := setFlag_eq_put k w b
  get_set w b := by
    show test k (setFlag k w b) = b
    rw [test_setFlag hk hk, if_pos rfl]

/-- A field that is read by `decode` and written by `encode`. -/
theorem regular_bits {α : Type} (first width : ℕ) {keep clear : Word} (decode : Word → α)
    (encode : α → Word) {truncate : α → α} (hkeep : keep = BitVec.ofNat 64 (2 ^ width - 1))
    (hclear : keep <<< first = clear) (hfit : clear >>> first = keep)
    (htruncate : ∀ v, decode (encode v &&& keep) = truncate v) :
    Regular ⟨α, fun w => decode (BitField.get first keep w),
      fun w v => BitField.set clear keep first w (encode v), first, width, truncate⟩
      (fun v => encode v <<< first) where
  set_eq w v := by
    show BitField.set clear keep first w (encode v) =
      put ⟨BitVec.ofNat 64 (2 ^ width - 1) <<< first, _⟩ w
    rw [← hkeep, hclear]
    exact set_eq_put hclear w (encode v)
  get_set w v := by
    have hcleared : (keep <<< first) &&& ~~~clear = 0#64 := by
      rw [hclear]
      exact BitVec.and_not_self clear
    have hread : BitField.get first keep (BitField.set clear keep first w (encode v)) =
        encode v &&& keep := by
      rw [get_set_self hcleared (by rw [hclear]; exact hfit), BitVec.and_self]
    exact (congrArg decode hread).trans (htruncate v)

/-- A field whose value is a word. -/
theorem regular_word (first width : ℕ) {keep clear : Word}
    (hkeep : keep = BitVec.ofNat 64 (2 ^ width - 1)) (hclear : keep <<< first = clear)
    (hfit : clear >>> first = keep) :
    Regular ⟨Word, BitField.get first keep, BitField.set clear keep first, first, width,
      fun v => (v.setWidth width).setWidth 64⟩ (fun v => v <<< first) := by
  refine regular_bits first width id id hkeep hclear hfit fun v => ?_
  rw [hkeep]
  exact and_low_eq v width

/-- An index of a virtual address, whose setter has the mask of the bits that stay. -/
theorem regular_index (first width : ℕ) {keep stay : Word}
    (hkeep : keep = BitVec.ofNat 64 (2 ^ width - 1)) (hstay : ~~~(keep <<< first) = stay)
    (hfit : (keep <<< first) >>> first = keep) :
    Regular ⟨Word, BitField.get first keep, fun w v => (w &&& stay) ||| ((v &&& keep) <<< first), first,
      width, fun v => (v.setWidth width).setWidth 64⟩ (fun v => v <<< first) := by
  have h := regular_word first width hkeep rfl hfit
  unfold BitField.set at h
  rw [hstay] at h
  exact h

/-- An offset, at the end of a virtual address. -/
theorem regular_offset (width : ℕ) {keep stay : Word}
    (hkeep : keep = BitVec.ofNat 64 (2 ^ width - 1)) (hstay : ~~~keep = stay) :
    Regular ⟨Word, fun w => w &&& keep, fun w v => (w &&& stay) ||| (v &&& keep), 0, width,
      fun v => (v.setWidth width).setWidth 64⟩ (fun v => v <<< 0) := by
  have h := regular_index 0 width hkeep (by rw [BitVec.shiftLeft_zero, hstay])
    (by rw [BitVec.shiftLeft_zero, BitVec.ushiftRight_zero])
  have hget : BitField.get 0 keep = fun w => w &&& keep := by
    ext1 w
    rw [BitField.get, BitVec.ushiftRight_zero]
  have hset : (fun w v : Word => (w &&& stay) ||| ((v &&& keep) <<< 0)) =
      fun w v => (w &&& stay) ||| (v &&& keep) := by
    ext1 w
    ext1 v
    rw [BitVec.shiftLeft_zero]
  rw [hget, hset] at h
  exact h

/-- A memory type. -/
theorem decode_memoryType (v : MemoryType) :
    (v.signExtend 64 &&& 0x7#64).setWidth 32 = (v.setWidth 3).setWidth 32 := by
  have hmask : ∀ i < 32, (0x7#64).getLsbD i = decide (i < 3) := by decide
  apply BitVec.eq_of_getLsbD_eq
  intro i hi
  have hi' : i < 64 := by omega
  rw [BitVec.getLsbD_setWidth, BitVec.getLsbD_and, hmask i hi, BitVec.getLsbD_signExtend, if_pos hi,
    BitVec.getLsbD_setWidth, BitVec.getLsbD_setWidth, decide_eq_true hi, decide_eq_true hi',
    Bool.true_and, Bool.true_and, Bool.true_and, Bool.and_comm]

end Accessor

/-! ### The fields of the classes -/

open Accessor

theorem Pte.Field.regular {f : Pte.Field} (hf : f ≠ .protectionKey) :
    ∃ encode, f.accessor.Regular encode := by
  cases f with
  | present => exact ⟨_, regular_flag 0 (by decide)⟩
  | write => exact ⟨_, regular_flag 1 (by decide)⟩
  | user => exact ⟨_, regular_flag 2 (by decide)⟩
  | writeThrough => exact ⟨_, regular_flag 3 (by decide)⟩
  | pageLevelCacheDisable => exact ⟨_, regular_flag 4 (by decide)⟩
  | access => exact ⟨_, regular_flag 5 (by decide)⟩
  | dirty => exact ⟨_, regular_flag 6 (by decide)⟩
  | pat => exact ⟨_, regular_flag 7 (by decide)⟩
  | large => exact ⟨_, regular_flag 7 (by decide)⟩
  | global => exact ⟨_, regular_flag 8 (by decide)⟩
  | pageNumber => exact ⟨_, regular_word 12 40 (by decide) (by decide) (by decide)⟩
  | protectionKey => exact absurd rfl hf
  | executeDisable => exact ⟨_, regular_flag 63 (by decide)⟩

theorem VirtualAddress.Field.regular (f : VirtualAddress.Field) :
    ∃ encode, f.accessor.Regular encode := by
  cases f with
  | offset => exact ⟨_, regular_offset 12 (by decide) (by decide)⟩
  | largeOffset => exact ⟨_, regular_offset 21 (by decide) (by decide)⟩
  | hugeOffset => exact ⟨_, regular_offset 30 (by decide) (by decide)⟩
  | pte => exact ⟨_, regular_index 12 9 (by decide) (by decide) (by decide)⟩
  | pde => exact ⟨_, regular_index 21 9 (by decide) (by decide) (by decide)⟩
  | pdpte => exact ⟨_, regular_index 30 9 (by decide) (by decide) (by decide)⟩
  | pml4e => exact ⟨_, regular_index 39 9 (by decide) (by decide) (by decide)⟩

theorem Intel.Epte.Field.regular {f : Epte.Field} (hf : f ≠ .type) :
    ∃ encode, f.accessor.Regular encode := by
  cases f with
  | read => exact ⟨_, regular_flag 0 (by decide)⟩
  | write => exact ⟨_, regular_flag 1 (by decide)⟩
  | execute => exact ⟨_, regular_flag 2 (by decide)⟩
  | type => exact absurd rfl hf
  | large => exact ⟨_, regular_flag 7 (by decide)⟩
  | accessed => exact ⟨_, regular_flag 8 (by decide)⟩
  | executeUser => exact ⟨_, regular_flag 10 (by decide)⟩
  | pageNumber => exact ⟨_, regular_word 12 40 (by decide) (by decide) (by decide)⟩
  | largePageNumber => exact ⟨_, regular_word 21 31 (by decide) (by decide) (by decide)⟩
  | suppressVe => exact ⟨_, regular_flag 63 (by decide)⟩

theorem Intel.EptPointer.Field.regular {f : EptPointer.Field} (hf : f ≠ .accessAndDirty) :
    ∃ encode, f.accessor.Regular encode := by
  cases f with
  | memoryType =>
    exact ⟨_, regular_bits 0 3 (fun w => w.setWidth 32) (fun v : MemoryType => v.signExtend 64)
      (by decide) (by decide) (by decide) decode_memoryType⟩
  | pageWalkLength =>
    refine ⟨_, regular_bits 3 3 (fun w => w + 1#64) (fun v => v - 1#64) (by decide) (by decide)
      (by decide) fun v => ?_⟩
    exact congrArg (· + 1#64) (and_low_eq (v - 1#64) 3)
  | accessAndDirty => exact absurd rfl hf
  | pageNumber => exact ⟨_, regular_word 12 40 (by decide) (by decide) (by decide)⟩

/-! ### The irregular setters -/

namespace Intel

/-- What `setType` gives, if no bit comes in beside the field. -/
theorem Epte.set_type_of_fits {v : MemoryType} {w : Word}
    (h : v.getLsbD 3 = true → w.getLsbD 6 = true) :
    Epte.Field.type.accessor.set w v = BitField.set (0x7#64 <<< 3) 0x7#64 3 w (v.signExtend 64) := by
  have hmask : ∀ i < 64, (0xf#64).getLsbD i = (decide (i = 3) || (0x7#64).getLsbD i) := by decide
  apply BitVec.eq_of_getLsbD_eq
  intro i hi
  show (BitField.set (0x7#64 <<< 3) 0xf#64 3 w (v.signExtend 64)).getLsbD i = _
  rw [getLsbD_set, getLsbD_set, hmask (i - 3) (by omega)]
  by_cases hbit : i - 3 = 3
  · obtain rfl : i = 6 := by omega
    have hclear : (0x7#64 <<< 3).getLsbD 6 = false := by decide
    have hsign : (v.signExtend 64).getLsbD 3 = v.getLsbD 3 := by
      rw [BitVec.getLsbD_signExtend, if_pos (by decide), decide_eq_true (by decide), Bool.true_and]
    rw [hclear, hsign, Bool.not_false, Bool.and_true]
    by_cases hv : v.getLsbD 3 = true
    · rw [h hv, Bool.true_or, Bool.true_or]
    · rw [Bool.not_eq_true] at hv
      rw [hv, Bool.false_and, Bool.false_and]
  · rw [decide_eq_false hbit, Bool.false_or]

/-- What it gives if the value has a fourth bit: this comes in at bit 6. -/
theorem Epte.set_type_of_high {v : MemoryType} (hv : v.getLsbD 3 = true) (w : Word) :
    Epte.Field.type.accessor.set w v = BitField.set (0xf#64 <<< 3) 0xf#64 3 w (v.signExtend 64) := by
  have hmask : ∀ i < 64, (0xf#64 <<< 3).getLsbD i = (decide (i = 6) || (0x7#64 <<< 3).getLsbD i) := by
    decide
  apply BitVec.eq_of_getLsbD_eq
  intro i hi
  show (BitField.set (0x7#64 <<< 3) 0xf#64 3 w (v.signExtend 64)).getLsbD i = _
  rw [getLsbD_set, getLsbD_set, hmask i hi]
  by_cases h : i = 6
  · have hsign : (v.signExtend 64).getLsbD 3 = true := by
      rw [BitVec.getLsbD_signExtend, if_pos (by decide), hv, Bool.and_true, decide_eq_true (by decide)]
    subst h
    rw [hsign]
    simp
  · rw [decide_eq_false h, Bool.false_or]

end Intel

namespace Field

/-- The setter of the field writes other bits than those of the field. -/
def Irregular (f : Field) : Prop :=
  f = .pte .protectionKey ∨ f = .epte .type ∨ f = .eptPointer .accessAndDirty

instance (f : Field) : Decidable f.Irregular := inferInstanceAs (Decidable (_ ∨ _))

/-- The other setters are regular. -/
theorem regular {f : Field} (hf : ¬f.Irregular) : ∃ encode, f.accessor.Regular encode := by
  obtain ⟨hkey, htype, hflag⟩ : f ≠ .pte .protectionKey ∧ f ≠ .epte .type ∧
      f ≠ .eptPointer .accessAndDirty := by
    rwa [Irregular, not_or, not_or] at hf
  cases f with
  | pte f => exact Pte.Field.regular fun h => hkey (congrArg Field.pte h)
  | epte f => exact Epte.Field.regular fun h => htype (congrArg Field.epte h)
  | eptPointer f => exact EptPointer.Field.regular fun h => hflag (congrArg Field.eptPointer h)
  | virtualAddress f => exact f.regular

/-- The first bit that the setter may write. -/
def writeFirst (f : Field) : ℕ :=
  if f = .pte .protectionKey then 58 else if f = .eptPointer .accessAndDirty then 8 else f.accessor.first

/-- The number of bits that it may write. -/
def writeWidth (f : Field) : ℕ :=
  if f = .epte .type then 4 else if f = .eptPointer .accessAndDirty then 3 else f.accessor.width

theorem write_of_regular {f : Field} (hf : ¬f.Irregular) :
    f.writeFirst = f.accessor.first ∧ f.writeWidth = f.accessor.width := by
  rw [Irregular, not_or, not_or] at hf
  rw [writeFirst, writeWidth, if_neg hf.1, if_neg hf.2.2, if_neg hf.2.1, if_neg hf.2.2]
  exact ⟨rfl, rfl⟩

/-- The protection key is read and written one bit below its bits. -/
theorem regular_protectionKey : Regular ⟨Word, (Field.pte .protectionKey).accessor.get,
    (Field.pte .protectionKey).accessor.set, 58, 4, fun v => (v.setWidth 4).setWidth 64⟩
    (fun v => v <<< 58) :=
  regular_word 58 4 (by decide) (by decide) (by decide)

theorem writes (f : Field) (v : f.accessor.Value) : f.accessor.Writes f.writeFirst f.writeWidth v := by
  by_cases hf : f.Irregular
  · rcases hf with rfl | rfl | rfl
    · exact regular_protectionKey.writes v
    · by_cases hv : BitVec.getLsbD (w := 32) v 3 = true
      · refine ⟨⟨mask 3 4, BitVec.signExtend (w := 32) 64 v <<< 3⟩, fun w => ?_, fun i hi =>
          mem_of_getLsbD_mask hi⟩
        exact (Epte.set_type_of_high hv w).trans (set_eq_put (by decide) w _)
      · refine ⟨⟨mask 3 3, BitVec.signExtend (w := 32) 64 v <<< 3⟩, fun w => ?_, fun i hi => ?_⟩
        · exact (Epte.set_type_of_fits fun h => absurd h hv).trans (set_eq_put (by decide) w _)
        · have hin := mem_of_getLsbD_mask hi
          exact ⟨hin.1, hin.2.trans (by decide)⟩
    · exact ⟨⟨mask 8 3, _⟩, fun w => set_eq_put (by decide) w _, fun i hi => mem_of_getLsbD_mask hi⟩
  · obtain ⟨encode, h⟩ := regular hf
    rw [(write_of_regular hf).1, (write_of_regular hf).2]
    exact h.writes v

/-- No two setters of disjoint fields write the same bit, not even by mistake. -/
theorem write_disjoint {f g : Field} (hclass : f.SameClass g) (h : f.Disjoint g) :
    f.writeFirst + f.writeWidth ≤ g.writeFirst ∨ g.writeFirst + g.writeWidth ≤ f.writeFirst := by
  revert h
  cases f with
  | pte f =>
    cases g with
    | pte g => cases f <;> cases g <;> decide
    | _ => exact hclass.elim
  | epte f =>
    cases g with
    | epte g => cases f <;> cases g <;> decide
    | _ => exact hclass.elim
  | eptPointer f =>
    cases g with
    | eptPointer g => cases f <;> cases g <;> decide
    | _ => exact hclass.elim
  | virtualAddress f =>
    cases g with
    | virtualAddress g => cases f <;> cases g <;> decide
    | _ => exact hclass.elim

/-- Setters of disjoint fields commute, also the irregular ones. -/
theorem comm {f g : Field} (hclass : f.SameClass g) (h : f.Disjoint g) (v : f.accessor.Value)
    (u : g.accessor.Value) (w : Word) :
    g.accessor.set (f.accessor.set w v) u = f.accessor.set (g.accessor.set w u) v :=
  (f.writes v).comm (g.writes u) (write_disjoint hclass h) w

theorem independent_of_regular {f : Field} {encode : f.accessor.Value → Word}
    (h : f.accessor.Regular encode) (w : Word) (v : f.accessor.Value) : f.Independent w v where
  get_set := h.get_set w v
  frame _ hi := (h.writes v).frame w hi
  set_set := h.set_set w v
  comm _ hclass hdisjoint u := comm hclass hdisjoint v u w

/-- The memory type of an EPT entry. -/
theorem independent_type_iff (w : Word) (v : MemoryType) :
    (Field.epte .type).Independent w v ↔ (v.getLsbD 3 = true → w.getLsbD 6 = true) := by
  constructor
  · intro h hv
    have hbit := h.frame 6 (.inr (by decide))
    have hset : (Field.epte .type).accessor.set w v = BitField.set (0xf#64 <<< 3) 0xf#64 3 w _ :=
      Epte.set_type_of_high hv w
    have hsign : (v.signExtend 64).getLsbD 3 = true := by
      rw [BitVec.getLsbD_signExtend, if_pos (by decide), hv, Bool.and_true, decide_eq_true (by decide)]
    have hkeep : (0xf#64).getLsbD 3 = true := by decide
    rw [← hbit, hset, getLsbD_set, hsign, hkeep, Bool.and_true, Bool.and_true, Bool.or_eq_true]
    exact .inr (by decide)
  · intro h
    have hset : (Field.epte .type).accessor.set w v = BitField.set (0x7#64 <<< 3) 0x7#64 3 w _ :=
      Epte.set_type_of_fits h
    have hregular := regular_bits 3 3 (fun w => w.setWidth 32)
      (fun v : MemoryType => v.signExtend 64) rfl rfl (by decide) decode_memoryType
    constructor
    · rw [hset]
      exact hregular.get_set w v
    · intro i hi
      rw [hset]
      exact (hregular.writes v).frame w hi
    · intro v'
      rw [hset]
      exact BitField.set_set (by decide) w _ _
    · exact fun g hclass hdisjoint u => comm hclass hdisjoint v u w

/-- The access and dirty bit of an EPT pointer is set to the opposite. -/
theorem accessAndDirty_set (w : Word) (b : Bool) :
    (Field.eptPointer .accessAndDirty).accessor.get
      ((Field.eptPointer .accessAndDirty).accessor.set w b) = !b := by
  show BitField.test 8 (BitField.set (0x7#64 <<< 8) 0x7#64 8 w _) = !b
  have hclear : (0x7#64 <<< 8).getLsbD 8 = true := by decide
  have hkeep : (0x7#64).getLsbD 0 = true := by decide
  rw [BitField.test_eq _ _ (by decide), getLsbD_set, hclear, Bool.not_true, Bool.and_false,
    Bool.false_or, Nat.sub_self, hkeep, Bool.and_true]
  cases b <;> decide

/-- The protection key of a page table entry. -/
theorem independent_protectionKey_iff (w v : Word) :
    (Field.pte .protectionKey).Independent w v ↔ v.getLsbD 0 = w.getLsbD 58 := by
  have hset : ∀ i, ((Field.pte .protectionKey).accessor.set w v).getLsbD i =
      (put ⟨mask 58 4, v <<< 58⟩ w).getLsbD i :=
    fun i => congrArg (BitVec.getLsbD · i) (regular_protectionKey.set_eq w v)
  have hbit : ((Field.pte .protectionKey).accessor.set w v).getLsbD 58 = v.getLsbD 0 := by
    have hmask : (mask 58 4).getLsbD 58 = true := by decide
    rw [hset, getLsbD_put, if_pos hmask, BitVec.getLsbD_shiftLeft, decide_eq_true (by decide),
      decide_eq_false (by decide), Bool.true_and, Bool.not_false, Bool.true_and]
  constructor
  · intro h
    exact hbit.symm.trans (h.frame 58 (.inl (by decide)))
  · intro h
    constructor
    · exact regular_protectionKey.get_set w v
    · intro i hi
      by_cases h58 : i = 58
      · rw [h58, hbit, h]
      · have hi : i < 59 ∨ 63 ≤ i := hi
        exact (regular_protectionKey.writes v).frame w (by dsimp only; omega)
    · exact regular_protectionKey.set_set w v
    · exact fun g hclass hdisjoint u => comm hclass hdisjoint v u w

/-- **The bit fields are independent**, for the values that fit. -/
theorem independent_iff (f : Field) (w : Word) (v : f.accessor.Value) :
    f.Independent w v ↔ f.Fits w v := by
  by_cases hf : f.Irregular
  · rcases hf with rfl | rfl | rfl
    · exact independent_protectionKey_iff w v
    · exact independent_type_iff w v
    · refine iff_of_false (fun h => ?_) id
      have hget := (accessAndDirty_set w v).symm.trans h.get_set
      exact absurd hget (Bool.not_ne_self v)
  · obtain ⟨encode, h⟩ := regular hf
    refine iff_of_true (independent_of_regular h w v) ?_
    unfold Fits
    split
    · exact hf (.inr (.inr rfl))
    · exact absurd (.inr (.inl rfl)) hf
    · exact absurd (.inl rfl) hf
    · trivial

/-- Setting the access and dirty bit of an empty EPT pointer, the type of an empty entry to 8, and the
protection key of an empty entry to 1. -/
theorem not_independent_zero :
    ¬(Field.eptPointer .accessAndDirty).Independent 0#64 true ∧
      ¬(Field.epte .type).Independent 0#64 8#32 ∧
      ¬(Field.pte .protectionKey).Independent 0#64 1#64 := by
  refine ⟨fun h => ?_, fun h => ?_, fun h => ?_⟩
  · have hget : BitField.test 8 (BitField.set (0x7#64 <<< 8) 0x7#64 8 0#64 (1#64 - 1#64)) = true :=
      h.get_set
    exact absurd hget (by decide)
  · exact absurd (h.frame 6 (.inr (by decide))) (by decide)
  · exact absurd (h.frame 58 (.inl (by decide))) (by decide)

end Field

end Zpp.X64
