import ZppHypervisor.Lib.BitWrite
import ZppHypervisor.X64.SegmentDescriptor

/-!
# The fields of a segment descriptor

Each setter writes bits of its own (`Setter.apply_eq`), so the order in which the ten are applied does not
matter: the descriptor has the values (`fields_applyAll`), and the values of a descriptor give it back
(`applyAll_fields`).
-/

namespace Zpp.X64.SegmentDescriptor

open BitField BitWrite

/-- The values of the ten fields. -/
@[ext]
structure Fields where
  limit : Word
  baseExtended : Word
  type : Word
  system : Bool
  privilegeLevel : Word
  present : Bool
  availableForSystemUse : Bool
  code64Bit : Bool
  defaultOperationSize : Bool
  granularity : Bool
deriving DecidableEq

/-- The fields read by the getters. -/
def fields (d : SegmentDescriptor) : Fields where
  limit := d.limit
  baseExtended := d.baseExtended
  type := d.type
  system := d.system
  privilegeLevel := d.privilegeLevel
  present := d.present
  availableForSystemUse := d.availableForSystemUse
  code64Bit := d.code64Bit
  defaultOperationSize := d.defaultOperationSize
  granularity := d.granularity

/-- The values have the widths of the fields: 20, 4 and 2 bits. -/
structure Fields.Fit (f : Fields) : Prop where
  limit : f.limit.toNat < 2 ^ 20
  type : f.type.toNat < 2 ^ 4
  privilegeLevel : f.privilegeLevel.toNat < 2 ^ 2

/-- The ten setters, each with its value. -/
inductive Setter
  | limit (value : Word)
  | baseExtended (value : Word)
  | type (value : Word)
  | system (value : Bool)
  | privilegeLevel (value : Word)
  | present (value : Bool)
  | availableForSystemUse (value : Bool)
  | code64Bit (value : Bool)
  | defaultOperationSize (value : Bool)
  | granularity (value : Bool)

namespace Setter

/-- Applies the setter. -/
def apply (d : SegmentDescriptor) : Setter → SegmentDescriptor
  | limit value => d.setLimit value
  | baseExtended value => d.setBaseExtended value
  | type value => d.setType value
  | system value => d.setSystem value
  | privilegeLevel value => d.setPrivilegeLevel value
  | present value => d.setPresent value
  | availableForSystemUse value => d.setAvailableForSystemUse value
  | code64Bit value => d.setCode64Bit value
  | defaultOperationSize value => d.setDefaultOperationSize value
  | granularity value => d.setGranularity value

/-- The writes to the entry. -/
def entryWrites : Setter → List (BitWrite 64)
  | limit value => [⟨0xffff#64, value <<< 0⟩, ⟨0xf#64 <<< 48, (value >>> 16) <<< 48⟩]
  | baseExtended value =>
    [⟨0xffff#64 <<< 16, value <<< 16⟩, ⟨0xff#64 <<< 32, (value >>> 16) <<< 32⟩,
      ⟨0xff#64 <<< 56, (value >>> 24) <<< 56⟩]
  | type value => [⟨0xf#64 <<< 40, value <<< 40⟩]
  | system value => [flag 44 !value]
  | privilegeLevel value => [⟨3#64 <<< 45, value <<< 45⟩]
  | present value => [flag 47 value]
  | availableForSystemUse value => [flag 52 value]
  | code64Bit value => [flag 53 value]
  | defaultOperationSize value => [flag 54 value]
  | granularity value => [flag 55 value]

/-- The writes to the extended word. -/
def extendedWrites : Setter → List (BitWrite 64)
  | baseExtended value => [⟨0xffffffff#64, (value >>> 32) <<< 0⟩]
  | _ => []

/-- An assignment whose value is masked before. -/
theorem set_and {clear keep mask : Word} {shift : ℕ} (h : keep <<< shift = clear)
    (hmask : mask &&& keep = keep) (x v : Word) :
    BitField.set clear keep shift x (v &&& mask) = put ⟨clear, v <<< shift⟩ x := by
  rw [← set_eq_put h, BitField.set, BitField.set, BitVec.and_assoc, hmask]

/-- An assignment of some bits of a value that is masked before. -/
theorem set_and_shift {clear keep mask mask' : Word} {shift s : ℕ} (h : keep <<< shift = clear)
    (hmask : (mask' >>> s) &&& (mask &&& keep) = keep) (x v : Word) :
    BitField.set clear keep shift x (((v &&& mask') >>> s) &&& mask) =
      put ⟨clear, (v >>> s) <<< shift⟩ x := by
  rw [← set_eq_put h, BitField.set, BitField.set, BitVec.ushiftRight_and_distrib, BitVec.and_assoc,
    BitVec.and_assoc, hmask]

theorem apply_eq (d : SegmentDescriptor) (s : Setter) :
    s.apply d = ⟨putAll s.entryWrites d.entry, putAll s.extendedWrites d.extended⟩ := by
  cases s with
  | limit value =>
    have hlow : ∀ x, BitField.set 0xffff#64 0xffff#64 0 x (value &&& 0xffff#64) =
        put ⟨0xffff#64, value <<< 0⟩ x :=
      fun x => set_and (by decide) (by decide) x value
    have hhigh : ∀ x, BitField.set (0xf#64 <<< 48) 0xf#64 48 x ((value >>> 16) &&& 0xf#64) =
        put ⟨0xf#64 <<< 48, (value >>> 16) <<< 48⟩ x :=
      fun x => set_and (by decide) (by decide) x (value >>> 16)
    simp only [apply, setLimit, entryWrites, extendedWrites, putAll, List.foldl_cons, List.foldl_nil,
      hlow, hhigh]
  | baseExtended value =>
    have hlow : ∀ x, BitField.set (0xffff#64 <<< 16) 0xffff#64 16 x
          ((value &&& 0xffffffff#64) &&& 0xffff#64) =
        put ⟨0xffff#64 <<< 16, value <<< 16⟩ x := fun x => by
      rw [BitVec.and_assoc]
      exact set_and (by decide) (by decide) x value
    have hmiddle : ∀ x, BitField.set (0xff#64 <<< 32) 0xff#64 32 x
          (((value &&& 0xffffffff#64) >>> 16) &&& 0xff#64) =
        put ⟨0xff#64 <<< 32, (value >>> 16) <<< 32⟩ x :=
      fun x => set_and_shift (by decide) (by decide) x value
    have hhigh : ∀ x, BitField.set (0xff#64 <<< 56) 0xff#64 56 x
          (((value &&& 0xffffffff#64) >>> 24) &&& 0xff#64) =
        put ⟨0xff#64 <<< 56, (value >>> 24) <<< 56⟩ x :=
      fun x => set_and_shift (by decide) (by decide) x value
    have hupper : ∀ x, BitField.set 0xffffffff#64 0xffffffff#64 0 x
          ((value >>> 32) &&& 0xffffffff#64) =
        put ⟨0xffffffff#64, (value >>> 32) <<< 0⟩ x :=
      fun x => set_and (by decide) (by decide) x (value >>> 32)
    simp only [apply, setBaseExtended, setBase, entryWrites, extendedWrites, putAll, List.foldl_cons,
      List.foldl_nil, hlow, hmiddle, hhigh, hupper]
  | type value => exact congrArg (mk · d.extended) (set_eq_put (by decide) d.entry value)
  | privilegeLevel value => exact congrArg (mk · d.extended) (set_eq_put (by decide) d.entry value)
  | system value => exact congrArg (mk · d.extended) (setFlag_eq_put 44 d.entry _)
  | present value => exact congrArg (mk · d.extended) (setFlag_eq_put 47 d.entry value)
  | availableForSystemUse value => exact congrArg (mk · d.extended) (setFlag_eq_put 52 d.entry value)
  | code64Bit value => exact congrArg (mk · d.extended) (setFlag_eq_put 53 d.entry value)
  | defaultOperationSize value => exact congrArg (mk · d.extended) (setFlag_eq_put 54 d.entry value)
  | granularity value => exact congrArg (mk · d.extended) (setFlag_eq_put 55 d.entry value)

end Setter

/-- Applies the setters, the first one first. -/
def applyAll (l : List Setter) (d : SegmentDescriptor) : SegmentDescriptor :=
  l.foldl (fun d s => s.apply d) d

theorem applyAll_eq (l : List Setter) (d : SegmentDescriptor) :
    applyAll l d =
      ⟨putAll (l.flatMap Setter.entryWrites) d.entry,
        putAll (l.flatMap Setter.extendedWrites) d.extended⟩ := by
  induction l generalizing d with
  | nil => rfl
  | cons s l ih =>
    refine (ih (s.apply d)).trans ?_
    rw [Setter.apply_eq, List.flatMap_cons, List.flatMap_cons, putAll_append, putAll_append]

namespace Fields

variable (f : Fields)

/-- The ten setters with the values. -/
def setters : List Setter :=
  [.limit f.limit, .baseExtended f.baseExtended, .type f.type, .system f.system,
    .privilegeLevel f.privilegeLevel, .present f.present,
    .availableForSystemUse f.availableForSystemUse, .code64Bit f.code64Bit,
    .defaultOperationSize f.defaultOperationSize, .granularity f.granularity]

/-- The masks of the writes to the entry. -/
def entryMasks : List Word :=
  [0xffff#64, 0xf#64 <<< 48, 0xffff#64 <<< 16, 0xff#64 <<< 32, 0xff#64 <<< 56, 0xf#64 <<< 40,
    1#64 <<< 44, 3#64 <<< 45, 1#64 <<< 47, 1#64 <<< 52, 1#64 <<< 53, 1#64 <<< 54, 1#64 <<< 55]

theorem entryWrites_apart : (f.setters.flatMap Setter.entryWrites).Pairwise BitWrite.Apart := by
  have hmasks : entryMasks.Pairwise fun a b => a &&& b = 0#64 := by decide
  have hmap : (f.setters.flatMap Setter.entryWrites).map BitWrite.mask = entryMasks := rfl
  rw [← hmap, List.pairwise_map] at hmasks
  exact hmasks

theorem extendedWrites_apart : (f.setters.flatMap Setter.extendedWrites).Pairwise BitWrite.Apart :=
  List.pairwise_singleton _ _

/-- The setters give the same descriptor in any order. -/
theorem applyAll_perm {l : List Setter} (h : l.Perm f.setters) (d : SegmentDescriptor) :
    applyAll l d = applyAll f.setters d := by
  rw [applyAll_eq, applyAll_eq]
  congr 1
  · exact (putAll_perm f.entryWrites_apart (h.symm.flatMap_right _) d.entry).symm
  · exact (putAll_perm f.extendedWrites_apart (h.symm.flatMap_right _) d.extended).symm

end Fields

/-! ### Reading the values -/

/-- A value that is narrow enough is not changed by a mask. -/
theorem and_eq_self_of_lt {n : ℕ} {v keep : Word} (hkeep : keep = BitVec.ofNat 64 (2 ^ n - 1))
    (hn : n < 64) (hv : v.toNat < 2 ^ n) : v &&& keep = v := by
  have hpow := Nat.pow_lt_pow_right (by decide : 1 < 2) hn
  rw [← BitVec.toNat_inj, BitVec.toNat_and, hkeep, BitVec.toNat_ofNat, Nat.mod_eq_of_lt (by omega),
    Nat.and_two_pow_sub_one_eq_mod, Nat.mod_eq_of_lt hv]

theorem and_eq_get (keep x : Word) : x &&& keep = BitField.get 0 keep x := by
  rw [BitField.get, BitVec.ushiftRight_zero]

/-- The two parts of a limit. -/
theorem limit_parts {v : Word} (hv : v.toNat < 2 ^ 20) :
    v &&& 0xffff#64 ||| ((v >>> 16) &&& 0xf#64) <<< 16 = v := by
  have hmask : 0xffff#64 ||| 0xf#64 <<< 16 = BitVec.ofNat 64 (2 ^ 20 - 1) := by decide
  show v &&& 0xffff#64 ||| BitField.get 16 0xf#64 v <<< 16 = v
  rw [← BitField.and_shiftLeft_eq, ← BitVec.and_or_distrib_left]
  exact and_eq_self_of_lt hmask (by decide) hv

/-- The four parts of a base. -/
theorem base_parts (v : Word) :
    v &&& 0xffff#64 ||| ((v >>> 16) &&& 0xff#64) <<< 16 ||| ((v >>> 24) &&& 0xff#64) <<< 24 |||
      ((v >>> 32) &&& 0xffffffff#64) <<< 32 = v := by
  have hmask : 0xffff#64 ||| 0xff#64 <<< 16 ||| 0xff#64 <<< 24 ||| 0xffffffff#64 <<< 32 =
      BitVec.allOnes 64 := by decide
  show v &&& 0xffff#64 ||| BitField.get 16 0xff#64 v <<< 16 ||| BitField.get 24 0xff#64 v <<< 24 |||
    BitField.get 32 0xffffffff#64 v <<< 32 = v
  rw [← BitField.and_shiftLeft_eq, ← BitField.and_shiftLeft_eq, ← BitField.and_shiftLeft_eq,
    ← BitVec.and_or_distrib_left, ← BitVec.and_or_distrib_left, ← BitVec.and_or_distrib_left, hmask,
    BitVec.and_allOnes]

section

variable (f : Fields) (d : SegmentDescriptor)

/-- A field of the entry, after the setters. -/
theorem get_entry {s : Setter} (hs : s ∈ f.setters) {shift : ℕ} {mask keep v : Word}
    (hmem : ⟨mask, v <<< shift⟩ ∈ s.entryWrites) (hmask : keep <<< shift = mask)
    (hfit : (keep <<< shift) >>> shift = keep) :
    BitField.get shift keep (applyAll f.setters d).entry = v &&& keep := by
  rw [applyAll_eq]
  exact get_putAll f.entryWrites_apart (List.mem_flatMap.mpr ⟨s, hs, hmem⟩) hmask hfit d.entry

/-- A bit of the entry, after the setters. -/
theorem test_entry {s : Setter} (hs : s ∈ f.setters) {k : ℕ} {b : Bool}
    (hmem : flag k b ∈ s.entryWrites) (hk : k < 64) :
    BitField.test k (applyAll f.setters d).entry = b := by
  rw [applyAll_eq]
  exact test_putAll f.entryWrites_apart (List.mem_flatMap.mpr ⟨s, hs, hmem⟩) hk d.entry

theorem limit_applyAll (hf : f.limit.toNat < 2 ^ 20) : (applyAll f.setters d).limit = f.limit := by
  have hs : .limit f.limit ∈ f.setters := by simp [Fields.setters]
  have hlow : BitField.get 0 0xffff#64 (applyAll f.setters d).entry = f.limit &&& 0xffff#64 :=
    get_entry f d hs (.head _) (by decide) (by decide)
  have hhigh : BitField.get 48 0xf#64 (applyAll f.setters d).entry = (f.limit >>> 16) &&& 0xf#64 :=
    get_entry f d hs (.tail _ (.head _)) (by decide) (by decide)
  rw [limit, limitLow, limitHigh, and_eq_get, hlow, hhigh]
  exact limit_parts hf

theorem baseExtended_applyAll : (applyAll f.setters d).baseExtended = f.baseExtended := by
  have hs : .baseExtended f.baseExtended ∈ f.setters := by simp [Fields.setters]
  have hlow : BitField.get 16 0xffff#64 (applyAll f.setters d).entry =
      f.baseExtended &&& 0xffff#64 :=
    get_entry f d hs (.head _) (by decide) (by decide)
  have hmiddle : BitField.get 32 0xff#64 (applyAll f.setters d).entry =
      (f.baseExtended >>> 16) &&& 0xff#64 :=
    get_entry f d hs (.tail _ (.head _)) (by decide) (by decide)
  have hhigh : BitField.get 56 0xff#64 (applyAll f.setters d).entry =
      (f.baseExtended >>> 24) &&& 0xff#64 :=
    get_entry f d hs (.tail _ (.tail _ (.head _))) (by decide) (by decide)
  have hupper : BitField.get 0 0xffffffff#64 (applyAll f.setters d).extended =
      (f.baseExtended >>> 32) &&& 0xffffffff#64 := by
    rw [applyAll_eq]
    exact get_putAll f.extendedWrites_apart (.head _) (by decide) (by decide) d.extended
  rw [baseExtended, base, baseLow, baseMiddle, baseHigh, baseUpper, and_eq_get, hlow, hmiddle, hhigh,
    hupper]
  exact base_parts f.baseExtended

end

/-- The values that were set are read. -/
theorem fields_applyAll {f : Fields} (hf : f.Fit) (d : SegmentDescriptor) :
    (applyAll f.setters d).fields = f := by
  have htype : (applyAll f.setters d).type = f.type &&& 0xf#64 :=
    get_entry f d (s := .type f.type) (by simp [Fields.setters]) (.head _) (by decide) (by decide)
  have hprivilegeLevel : (applyAll f.setters d).privilegeLevel = f.privilegeLevel &&& 3#64 :=
    get_entry f d (s := .privilegeLevel f.privilegeLevel) (by simp [Fields.setters]) (.head _)
      (by decide) (by decide)
  have hsystem : BitField.test 44 (applyAll f.setters d).entry = !f.system :=
    test_entry f d (s := .system f.system) (by simp [Fields.setters]) (.head _) (by decide)
  apply Fields.ext
  · exact limit_applyAll f d hf.limit
  · exact baseExtended_applyAll f d
  · exact htype.trans (and_eq_self_of_lt (n := 4) (by decide) (by decide) hf.type)
  · show (!BitField.test 44 (applyAll f.setters d).entry) = _
    rw [hsystem, Bool.not_not]
  · exact hprivilegeLevel.trans (and_eq_self_of_lt (n := 2) (by decide) (by decide) hf.privilegeLevel)
  · exact test_entry f d (s := .present f.present) (by simp [Fields.setters]) (.head _) (by decide)
  · exact test_entry f d (s := .availableForSystemUse f.availableForSystemUse)
      (by simp [Fields.setters]) (.head _) (by decide)
  · exact test_entry f d (s := .code64Bit f.code64Bit) (by simp [Fields.setters]) (.head _)
      (by decide)
  · exact test_entry f d (s := .defaultOperationSize f.defaultOperationSize)
      (by simp [Fields.setters]) (.head _) (by decide)
  · exact test_entry f d (s := .granularity f.granularity) (by simp [Fields.setters]) (.head _)
      (by decide)

/-! ### Setting the values read -/

/-- The bits of a limit. -/
theorem getLsbD_limit_of_lt (d : SegmentDescriptor) {i : ℕ} (hi : i < 20) :
    d.limit.getLsbD i = d.entry.getLsbD (if i < 16 then i else 32 + i) := by
  have hlow : ∀ i < 64, (0xffff#64).getLsbD i = decide (i < 16) := by decide
  have hhigh : ∀ i < 64, (0xf#64).getLsbD i = decide (i < 4) := by decide
  have hi' : i < 64 := by omega
  rw [limit, limitLow, limitHigh, BitVec.getLsbD_or, BitVec.getLsbD_and, BitVec.getLsbD_shiftLeft,
    BitField.getLsbD_get, hlow i hi', hhigh (i - 16) (by omega), decide_eq_true hi']
  by_cases h : i < 16
  · rw [if_pos h, decide_eq_true h, Bool.and_true, Bool.not_true, Bool.and_false, Bool.false_and,
      Bool.or_false]
  · rw [if_neg h, decide_eq_false h, Bool.and_false, Bool.false_or, decide_eq_true (by omega),
      Bool.and_true, Bool.not_false, Bool.true_and, Bool.true_and,
      show 48 + (i - 16) = 32 + i by omega]

/-- The bits of a base: those of the entry are in two stretches. -/
theorem getLsbD_baseExtended (d : SegmentDescriptor) {i : ℕ} (hi : i < 64) :
    d.baseExtended.getLsbD i =
      if i < 32 then d.entry.getLsbD (if i < 24 then 16 + i else 32 + i)
      else d.extended.getLsbD (i - 32) := by
  have hlow : ∀ i < 64, (0xffff#64).getLsbD i = decide (i < 16) := by decide
  have hbyte : ∀ i < 64, (0xff#64).getLsbD i = decide (i < 8) := by decide
  have hupper : ∀ i < 64, (0xffffffff#64).getLsbD i = decide (i < 32) := by decide
  simp only [baseExtended, base, baseLow, baseMiddle, baseHigh, baseUpper, BitVec.getLsbD_or,
    BitVec.getLsbD_and, BitVec.getLsbD_shiftLeft, BitField.getLsbD_get, hlow i hi,
    hbyte (i - 16) (by omega), hbyte (i - 24) (by omega), hupper (i - 32) (by omega)]
  by_cases h16 : i < 16
  · simp [h16, show i < 24 by omega, show i < 32 by omega]
  · by_cases h24 : i < 24
    · simp [h16, h24, hi, show i < 32 by omega, show i - 16 < 8 by omega,
        show 32 + (i - 16) = 16 + i by omega]
    · by_cases h32 : i < 32
      · simp [h16, h24, h32, hi, show ¬i - 16 < 8 by omega, show i - 24 < 8 by omega,
          show 56 + (i - 24) = 32 + i by omega]
      · simp [h16, h24, h32, hi, show ¬i - 16 < 8 by omega, show ¬i - 24 < 8 by omega,
          show i - 32 < 32 by omega]

/-- The writes of the setters, with the values of a descriptor, write what is there. -/
theorem entryWrites_fields (d : SegmentDescriptor) {p : BitWrite 64}
    (hp : p ∈ d.fields.setters.flatMap Setter.entryWrites) {i : ℕ} (hi : p.mask.getLsbD i = true) :
    p.value.getLsbD i = d.entry.getLsbD i := by
  -- A field of `n` bits at `s` whose value has the bits of the entry.
  have hfield : ∀ (n s : ℕ) (keep v : Word), keep = BitVec.ofNat 64 (2 ^ n - 1) →
      (∀ j < n, j < 64 → v.getLsbD j = d.entry.getLsbD (s + j)) →
      (keep <<< s).getLsbD i = true → (v <<< s).getLsbD i = d.entry.getLsbD i := by
    intro n s keep v hkeep hv hmask
    rw [BitVec.getLsbD_shiftLeft, hkeep, BitVec.getLsbD_ofNat, Nat.testBit_two_pow_sub_one] at hmask
    simp only [Bool.and_eq_true, decide_eq_true_eq, Bool.not_eq_true', decide_eq_false_iff_not]
      at hmask
    obtain ⟨⟨hlt, hle⟩, -, hn⟩ := hmask
    rw [BitVec.getLsbD_shiftLeft, decide_eq_true hlt, decide_eq_false hle, hv _ hn (by omega),
      Bool.not_false, Bool.true_and, Bool.true_and, show s + (i - s) = i by omega]
  have hflag : ∀ (k : ℕ) (b : Bool), b = d.entry.getLsbD k →
      (flag k b : BitWrite 64).mask.getLsbD i = true →
      (flag k b : BitWrite 64).value.getLsbD i = d.entry.getLsbD i := by
    intro k b hb hmask
    refine hfield 1 k 1#64 _ rfl (fun j hj _ => ?_) hmask
    rw [show j = 0 by omega, Nat.add_zero, ← hb]
    cases b <;> rfl
  have htest : ∀ k < 64, BitField.test k d.entry = d.entry.getLsbD k := fun k => test_eq k d.entry
  have htype : ∀ i < 64, (0xf#64).getLsbD i = decide (i < 4) := by decide
  have hlevel : ∀ i < 64, (3#64).getLsbD i = decide (i < 2) := by decide
  simp only [fields, Fields.setters, Setter.entryWrites, List.flatMap_cons, List.flatMap_nil,
    List.cons_append, List.nil_append, List.mem_cons, List.not_mem_nil, or_false] at hp
  rcases hp with rfl | rfl | rfl | rfl | rfl | rfl | rfl | rfl | rfl | rfl | rfl | rfl | rfl
  · refine hfield 16 0 0xffff#64 d.limit rfl (fun j hj _ => ?_) hi
    rw [getLsbD_limit_of_lt d (by omega), if_pos hj, Nat.zero_add]
  · refine hfield 4 48 0xf#64 (d.limit >>> 16) rfl (fun j hj _ => ?_) hi
    rw [BitVec.getLsbD_ushiftRight, getLsbD_limit_of_lt d (by omega), if_neg (by omega)]
    congr 1
    omega
  · refine hfield 16 16 0xffff#64 d.baseExtended rfl (fun j hj _ => ?_) hi
    rw [getLsbD_baseExtended d (by omega), if_pos (by omega), if_pos (by omega)]
  · refine hfield 8 32 0xff#64 (d.baseExtended >>> 16) rfl (fun j hj _ => ?_) hi
    rw [BitVec.getLsbD_ushiftRight, getLsbD_baseExtended d (by omega), if_pos (by omega),
      if_pos (by omega)]
    congr 1
    omega
  · refine hfield 8 56 0xff#64 (d.baseExtended >>> 24) rfl (fun j hj _ => ?_) hi
    rw [BitVec.getLsbD_ushiftRight, getLsbD_baseExtended d (by omega), if_pos (by omega),
      if_neg (by omega)]
    congr 1
    omega
  · refine hfield 4 40 0xf#64 d.type rfl (fun j hj hj' => ?_) hi
    rw [type, getLsbD_get, htype j hj', decide_eq_true hj, Bool.and_true]
  · refine hflag 44 _ ?_ hi
    rw [system, Bool.not_not, htest 44 (by decide)]
  · refine hfield 2 45 3#64 d.privilegeLevel rfl (fun j hj hj' => ?_) hi
    rw [privilegeLevel, getLsbD_get, hlevel j hj', decide_eq_true hj, Bool.and_true]
  · exact hflag 47 _ (htest 47 (by decide)) hi
  · exact hflag 52 _ (htest 52 (by decide)) hi
  · exact hflag 53 _ (htest 53 (by decide)) hi
  · exact hflag 54 _ (htest 54 (by decide)) hi
  · exact hflag 55 _ (htest 55 (by decide)) hi

/-- The setters write every bit of the entry. -/
theorem exists_entryWrite (f : Fields) {i : ℕ} (hi : i < 64) :
    ∃ p ∈ f.setters.flatMap Setter.entryWrites, p.mask.getLsbD i = true := by
  have hall : Fields.entryMasks.foldr (· ||| ·) 0#64 = BitVec.allOnes 64 := by decide
  have hmap : (f.setters.flatMap Setter.entryWrites).map BitWrite.mask = Fields.entryMasks := rfl
  apply exists_of_getLsbD_foldr
  rw [hmap, hall, BitVec.getLsbD_allOnes, decide_eq_true hi]

/-- The values of a descriptor give it back. -/
theorem applyAll_fields (d : SegmentDescriptor) (hd : d.extended.toNat < 2 ^ 32) :
    applyAll d.fields.setters {} = d := by
  have hentry : putAll (d.fields.setters.flatMap Setter.entryWrites) 0#64 = d.entry := by
    refine putAll_eq d.fields.entryWrites_apart (fun p hp i hi => entryWrites_fields d hp hi)
      fun i hi hnone => ?_
    obtain ⟨p, hp, hmask⟩ := exists_entryWrite d.fields hi
    rw [hnone p hp] at hmask
    exact absurd hmask Bool.false_ne_true
  have hextended : putAll (d.fields.setters.flatMap Setter.extendedWrites) 0#64 = d.extended := by
    have hmask : ∀ i < 64, (0xffffffff#64).getLsbD i = decide (i < 32) := by decide
    have hsingle : d.fields.setters.flatMap Setter.extendedWrites =
        [⟨0xffffffff#64, (d.baseExtended >>> 32) <<< 0⟩] := rfl
    rw [hsingle]
    refine putAll_eq (List.pairwise_singleton _ _) (fun p hp i hi => ?_) fun i hi hnone => ?_
    · obtain rfl := List.mem_singleton.mp hp
      have hlt : i < 64 := BitVec.lt_of_getLsbD hi
      rw [hmask i hlt, decide_eq_true_eq] at hi
      rw [BitVec.shiftLeft_zero, BitVec.getLsbD_ushiftRight, getLsbD_baseExtended d (by omega),
        if_neg (by omega), Nat.add_sub_cancel_left]
    · have hupper : 32 ≤ i := by
        have h := hnone _ (.head _)
        rw [hmask i hi, decide_eq_false_iff_not] at h
        omega
      rw [BitVec.getLsbD_zero, BitVec.getLsbD, Nat.testBit_lt_two_pow
        (hd.trans_le (Nat.pow_le_pow_right (by decide) hupper))]
  rw [applyAll_eq, hentry, hextended]

/-! ### In a table -/

section

open ByteMemory

/-- Stores a descriptor in the slots `i` and `i + 1` of the table at `base`. -/
def storeAt (m : ByteMemory 64) (base : Word) (i : ℕ) (d : SegmentDescriptor) : ByteMemory 64 :=
  (m.store (base + BitVec.ofNat 64 (8 * i)) (n := 8) d.entry).store
    (base + BitVec.ofNat 64 (8 * (i + 1))) (n := 8) d.extended

/-- Clearing the privilege level leaves the offset of the slot. -/
theorem selector_and_not_three {i rpl : ℕ} (hi : i < 8192) (hrpl : rpl < 4) :
    (BitVec.ofNat 16 (8 * i + rpl)).setWidth 64 &&& ~~~3#64 = BitVec.ofNat 64 (8 * i) := by
  have hmask : ~~~3#64 = BitVec.ofNat 64 (2 ^ 62 - 1) <<< 2 := by decide
  rw [hmask, BitField.and_shiftLeft_eq, ← BitVec.toNat_inj, BitVec.toNat_shiftLeft,
    BitField.toNat_get_low 2 62 _ (by decide), BitVec.toNat_setWidth, BitVec.toNat_ofNat,
    BitVec.toNat_ofNat, Nat.shiftLeft_eq]
  omega

theorem fromMemory_storeAt (m : ByteMemory 64) (base : Word) {i rpl : ℕ} (hpos : 0 < i)
    (hi : i + 1 < 8192) (hrpl : rpl < 4) (d : SegmentDescriptor) :
    fromMemory (storeAt m base i d) base (BitVec.ofNat 16 (8 * i + rpl)) = d := by
  have htoNat : (BitVec.ofNat 16 (8 * i + rpl)).toNat = 8 * i + rpl := by
    rw [BitVec.toNat_ofNat, Nat.mod_eq_of_lt (by omega)]
  have hne : BitVec.ofNat 16 (8 * i + rpl) ≠ 0#16 := fun h => by
    have hnum := congrArg BitVec.toNat h
    rw [htoNat, BitVec.toNat_ofNat] at hnum
    omega
  -- `0x1fff` has the table indicator, which is not among the two bits of the privilege level.
  have hlast : BitVec.ofNat 16 (8 * i + rpl) ≠ 0x1fff#16 := fun h => by
    have hnum := congrArg BitVec.toNat h
    rw [htoNat, BitVec.toNat_ofNat] at hnum
    omega
  have hnext : base + BitVec.ofNat 64 (8 * i) + 8#64 = base + BitVec.ofNat 64 (8 * (i + 1)) := by
    rw [Nat.mul_succ, BitVec.ofNat_add, BitVec.add_assoc]
  have hentry : (storeAt m base i d).load64 (base + BitVec.ofNat 64 (8 * i)) = d.entry := by
    unfold storeAt load64
    rw [load_store_add _ _ (by omega) (by omega) (by omega)]
    exact load_store_self _ _ _ (by decide)
  have hextended : (storeAt m base i d).load64 (base + BitVec.ofNat 64 (8 * (i + 1))) =
      d.extended :=
    load_store_self _ _ _ (by decide)
  unfold fromMemory
  rw [if_neg hne, selector_and_not_three (by omega) hrpl]
  dsimp only
  rw [if_neg hlast, hnext, hentry, hextended]

end

/-- **The fields of a descriptor round-trip.**  Values set in any order, stored and read from a table
are those of the getters, and a descriptor is rebuilt from its getters if the upper half of its second
word is zero. -/
theorem fields_roundTrip :
    (∀ (f : Fields) (l : List Setter), f.Fit → l.Perm f.setters →
      ∀ (m : ByteMemory 64) (base : Word) (i rpl : ℕ), 0 < i → i + 1 < 8192 → rpl < 4 →
        (fromMemory (storeAt m base i (applyAll l {})) base
          (BitVec.ofNat 16 (8 * i + rpl))).fields = f) ∧
    ∀ (d : SegmentDescriptor) (l : List Setter), d.extended.toNat < 2 ^ 32 →
      l.Perm d.fields.setters → applyAll l {} = d := by
  constructor
  · intro f l hf hl m base i rpl hpos hi hrpl
    rw [fromMemory_storeAt m base hpos hi hrpl, f.applyAll_perm hl, fields_applyAll hf]
  · intro d l hd hl
    rw [d.fields.applyAll_perm hl, applyAll_fields d hd]

/-- A 64-bit code segment, whose setters are applied in the opposite order. -/
def codeFields : Fields where
  limit := 0xfffff#64
  baseExtended := 0#64
  type := 0xb#64
  system := false
  privilegeLevel := 3#64
  present := true
  availableForSystemUse := false
  code64Bit := true
  defaultOperationSize := false
  granularity := true

theorem fields_roundTrip_codeFields :
    (fromMemory (storeAt (fun _ => 0#8) 0x1000#64 6 (applyAll codeFields.setters.reverse {}))
      0x1000#64 (BitVec.ofNat 16 (8 * 6 + 3))).fields = codeFields :=
  fields_roundTrip.1 codeFields codeFields.setters.reverse ⟨by decide, by decide, by decide⟩
    (List.reverse_perm _) _ _ 6 3 (by decide) (by decide) (by decide)

end Zpp.X64.SegmentDescriptor
