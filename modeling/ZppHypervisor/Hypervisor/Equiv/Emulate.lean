import Mathlib.Tactic.SplitIfs
import ZppHypervisor.Hypervisor.VmExit

/-!
# What an emulated instruction sees

`cpuid` and `xsetbv` take the low halves of their registers.  The exit handler compares and combines
the full registers: it does what the instructions do for a `rax` whose upper half is zero, and, where
the upper half plays no part, for others (`emulate_architectural_iff`).
-/

namespace Zpp.Hypervisor

open X64 X64.Intel

/-! ### Halves of registers -/

/-- The low half of a register. -/
def lowHalf (value : Word) : BitVec 32 := value.setWidth 32

/-- The upper half of a register. -/
def upperHalf (value : Word) : BitVec 32 := (value >>> 32).setWidth 32

theorem getLsbD_lowHalf (value : Word) {i : ℕ} (hi : i < 32) :
    (lowHalf value).getLsbD i = value.getLsbD i := by
  simp [lowHalf, hi]

theorem getLsbD_upperHalf (value : Word) {i : ℕ} (hi : i < 32) :
    (upperHalf value).getLsbD i = value.getLsbD (32 + i) := by
  simp [upperHalf, hi]

/-- The halves determine the register. -/
theorem eq_of_halves {x y : Word} (hlow : lowHalf x = lowHalf y) (hupper : upperHalf x = upperHalf y) :
    x = y := by
  apply BitVec.eq_of_getLsbD_eq
  intro i hi
  by_cases hi' : i < 32
  · rw [← getLsbD_lowHalf x hi', ← getLsbD_lowHalf y hi', hlow]
  · obtain ⟨j, rfl⟩ := Nat.exists_eq_add_of_le (Nat.le_of_not_lt hi')
    have hj : j < 32 := by omega
    rw [← getLsbD_upperHalf x hj, ← getLsbD_upperHalf y hj, hupper]

/-- A comparison of a register with the zero extension of a half. -/
theorem setWidth_eq_iff (half : BitVec 32) (value : Word) :
    half.setWidth 64 = value ↔ lowHalf value = half ∧ upperHalf value = 0#32 := by
  have hlow : lowHalf (half.setWidth 64) = half := by
    apply BitVec.eq_of_getLsbD_eq
    intro i hi
    simp [lowHalf, hi]
  have hupper : upperHalf (half.setWidth 64) = 0#32 := by
    apply BitVec.eq_of_getLsbD_eq
    intro i hi
    simp [upperHalf]
  constructor
  · rintro rfl
    exact ⟨hlow, hupper⟩
  · rintro ⟨h₁, h₂⟩
    exact eq_of_halves (hlow.trans h₁.symm) (hupper.trans h₂.symm)

/-! ### Operands of `xsetbv` -/

/-- The upper half of the value given to `xsetbv` is polluted by `rax`. -/
theorem xsetbv_eq (index : BitVec 32) (rax rdx : Word) :
    xsetbv index (rax ||| (rdx <<< 32)) =
      .xsetbv index (lowHalf rdx ||| upperHalf rax) (lowHalf rax) := by
  have hupper : ((rax ||| (rdx <<< 32)) >>> 32).setWidth 32 = lowHalf rdx ||| upperHalf rax := by
    apply BitVec.eq_of_getLsbD_eq
    intro i hi
    have hi' : 32 + i < 64 := by omega
    rw [BitVec.getLsbD_or, getLsbD_lowHalf _ hi, getLsbD_upperHalf _ hi, Bool.or_comm]
    have hnot : ¬32 + i < 32 := by omega
    simp only [BitVec.getLsbD_setWidth, BitVec.getLsbD_ushiftRight, BitVec.getLsbD_or,
      BitVec.getLsbD_shiftLeft, hi, hi', hnot, decide_true, decide_false, Bool.not_false,
      Bool.true_and, Nat.add_sub_cancel_left]
  have hlow : (rax ||| (rdx <<< 32)).setWidth 32 = lowHalf rax := by
    apply BitVec.eq_of_getLsbD_eq
    intro i hi
    rw [getLsbD_lowHalf _ hi]
    simp [hi]
  unfold xsetbv
  rw [hupper, hlow]

/-- The operands of `xsetbv` are the halves of the value. -/
theorem halves_append (value : Word) : (upperHalf value ++ lowHalf value : Word) = value := by
  apply BitVec.eq_of_getLsbD_eq
  intro i hi
  rw [BitVec.getLsbD_append]
  by_cases hlow : i < 32
  · rw [if_pos hlow, getLsbD_lowHalf _ hlow]
  · rw [if_neg hlow, getLsbD_upperHalf _ (by omega)]
    congr 1
    omega

/-! ### What an instruction sees -/

/-- What the guest should get from `cpuid`, from the halves that the instruction takes. -/
def architecturalCpuid (cpuid : BitVec 32 → BitVec 32 → CpuidResult) (eax ecx : BitVec 32) :
    CpuidResult :=
  if eax = 1#32 then { cpuid eax ecx with ecx := (cpuid eax ecx).ecx ||| 0x80000000#32 }
  else if eax = 0x40000000#32 then
    { cpuid eax ecx with ebx := 0x5a70705a#32, ecx := 0x705a7070#32, edx := 0x70705a70#32 }
  else cpuid eax ecx

/-- A `cpuid` exit has the effect of the instruction on the halves. -/
def CpuidArchitectural (context : Context) : Prop :=
  ∀ host, emulate host .cpuid context =
    (placeCpuid (architecturalCpuid host.cpuid (lowHalf (context.gpr .rax))
      (lowHalf (context.gpr .rcx))) context,
      [.cpuid (lowHalf (context.gpr .rax)) (lowHalf (context.gpr .rcx))])

/-- An `xsetbv` exit has the effect of the instruction on the halves. -/
def XsetbvArchitectural (context : Context) : Prop :=
  ∀ host, emulate host .xsetbv context =
    (context, activateXsave host ++ [.xsetbv (lowHalf (context.gpr .rcx))
      (lowHalf (context.gpr .rdx)) (lowHalf (context.gpr .rax))])

/-- No leaf that the handler changes, or nothing above the leaf. -/
def CpuidLeafAlone (context : Context) : Prop :=
  lowHalf (context.gpr .rax) = 1#32 ∨ lowHalf (context.gpr .rax) = 0x40000000#32 →
    upperHalf (context.gpr .rax) = 0#32

/-- The upper half of `rax` has no bit that `edx` has not. -/
def XsetbvValueAlone (context : Context) : Prop :=
  lowHalf (context.gpr .rdx) ||| upperHalf (context.gpr .rax) = lowHalf (context.gpr .rdx)

theorem emulate_cpuid (host : HostCpu) (context : Context) :
    emulate host .cpuid context =
      (placeCpuid (cpuidResult host context) context,
        [.cpuid (lowHalf (context.gpr .rax)) (lowHalf (context.gpr .rcx))]) := rfl

theorem emulate_xsetbv (host : HostCpu) (context : Context) :
    emulate host .xsetbv context =
      (context, activateXsave host ++ [.xsetbv (lowHalf (context.gpr .rcx))
        (lowHalf (context.gpr .rdx) ||| upperHalf (context.gpr .rax))
        (lowHalf (context.gpr .rax))]) := by
  rw [← xsetbv_eq]
  rfl

/-- The results that the handler changes, and where it takes the others from. -/
theorem cpuidResult_eq (host : HostCpu) (context : Context) :
    cpuidResult host context =
      if upperHalf (context.gpr .rax) = 0#32 then
        architecturalCpuid host.cpuid (lowHalf (context.gpr .rax)) (lowHalf (context.gpr .rcx))
      else host.cpuid (lowHalf (context.gpr .rax)) (lowHalf (context.gpr .rcx)) := by
  have hone : 1#64 = context.gpr .rax ↔
      lowHalf (context.gpr .rax) = 1#32 ∧ upperHalf (context.gpr .rax) = 0#32 :=
    setWidth_eq_iff 1#32 _
  have hvendor : 1#64 <<< 30 = context.gpr .rax ↔
      lowHalf (context.gpr .rax) = 0x40000000#32 ∧ upperHalf (context.gpr .rax) = 0#32 :=
    setWidth_eq_iff 0x40000000#32 _
  unfold cpuidResult architecturalCpuid
  by_cases hupper : upperHalf (context.gpr .rax) = 0#32
  · simp only [hone, hvendor, hupper, and_true, if_true]
    rfl
  · simp only [hone, hvendor, hupper, and_false, if_false]
    rfl

/-- Different results are different in the context. -/
theorem placeCpuid_injective (context : Context) {result result' : CpuidResult}
    (h : placeCpuid result context = placeCpuid result' context) : result = result' := by
  have hgpr : ∀ r, (placeCpuid result context).gpr r = (placeCpuid result' context).gpr r := by
    intro r
    rw [h]
  have hwidth : ∀ x y : BitVec 32, x.setWidth 64 = y.setWidth 64 → x = y := by
    intro x y hxy
    have hlow := ((setWidth_eq_iff x (y.setWidth 64)).mp hxy).1
    exact hlow.symm.trans ((setWidth_eq_iff y _).mp rfl).1
  obtain ⟨eax, ebx, ecx, edx⟩ := result
  obtain ⟨eax', ebx', ecx', edx'⟩ := result'
  obtain rfl := hwidth eax eax' (hgpr .rax)
  obtain rfl := hwidth ebx ebx' (hgpr .rbx)
  obtain rfl := hwidth ecx ecx' (hgpr .rcx)
  obtain rfl := hwidth edx edx' (hgpr .rdx)
  rfl

/-- A processor whose `cpuid` reports nothing. -/
def silentCpu : HostCpu := ⟨fun _ _ => ⟨0#32, 0#32, 0#32, 0#32⟩, 0#64, false⟩

/-- On a silent processor the leaves that the handler changes differ from what it reports. -/
theorem architecturalCpuid_silentCpu {eax ecx : BitVec 32} (heax : eax = 1#32 ∨ eax = 0x40000000#32) :
    architecturalCpuid silentCpu.cpuid eax ecx ≠ silentCpu.cpuid eax ecx := by
  intro h
  have hecx := congrArg CpuidResult.ecx h
  rcases heax with rfl | rfl <;> simp [architecturalCpuid, silentCpu] at hecx

/-- Other leaves are reported as they are. -/
theorem architecturalCpuid_of_other (cpuid : BitVec 32 → BitVec 32 → CpuidResult)
    {eax ecx : BitVec 32} (heax : ¬(eax = 1#32 ∨ eax = 0x40000000#32)) :
    architecturalCpuid cpuid eax ecx = cpuid eax ecx := by
  obtain ⟨h₁, h₂⟩ := not_or.mp heax
  unfold architecturalCpuid
  rw [if_neg h₁, if_neg h₂]

theorem cpuidResult_iff (context : Context) :
    (∀ host, cpuidResult host context = architecturalCpuid host.cpuid
      (lowHalf (context.gpr .rax)) (lowHalf (context.gpr .rcx))) ↔ CpuidLeafAlone context := by
  constructor
  · intro h heax
    by_contra hupper
    have hsilent := h silentCpu
    rw [cpuidResult_eq, if_neg hupper] at hsilent
    exact architecturalCpuid_silentCpu heax hsilent.symm
  · intro h host
    rw [cpuidResult_eq]
    split_ifs with hupper
    · rfl
    · exact (architecturalCpuid_of_other _ fun heax => hupper (h heax)).symm

theorem cpuidArchitectural_iff (context : Context) :
    CpuidArchitectural context ↔ CpuidLeafAlone context := by
  rw [← cpuidResult_iff]
  refine forall_congr' fun host => ?_
  rw [emulate_cpuid]
  constructor
  · intro h
    exact placeCpuid_injective context (Prod.mk.inj h).1
  · intro h
    rw [h]

theorem xsetbvArchitectural_iff (context : Context) :
    XsetbvArchitectural context ↔ XsetbvValueAlone context := by
  constructor
  · intro h
    have hexecuted := (Prod.mk.inj ((emulate_xsetbv silentCpu context).symm.trans (h silentCpu))).2
    have hxsetbv := List.append_cancel_left hexecuted
    injection hxsetbv with hxsetbv
    injection hxsetbv
  · intro h host
    rw [emulate_xsetbv, h]

/-! ### Two runs -/

/-- Two contexts with the same low halves in some registers. -/
def AgreeOn (rs : List Gpr) (context context' : Context) : Prop :=
  ∀ r ∈ rs, lowHalf (context.gpr r) = lowHalf (context'.gpr r)

/-- The guest gets the same from `cpuid`. -/
def SameCpuid (context context' : Context) : Prop :=
  ∀ host, cpuidResult host context = cpuidResult host context'

/-- The processor gets the same instructions from an `xsetbv` exit. -/
def SameXsetbv (context context' : Context) : Prop :=
  ∀ host, (emulate host .xsetbv context).2 = (emulate host .xsetbv context').2

/-- Beside a context whose leaf stands alone. -/
theorem sameCpuid_iff {context context' : Context} (hagree : AgreeOn [.rax, .rcx] context context')
    (h' : CpuidLeafAlone context') : SameCpuid context context' ↔ CpuidLeafAlone context := by
  rw [← cpuidResult_iff]
  refine forall_congr' fun host => ?_
  rw [(cpuidResult_iff context').mpr h', hagree .rax (by simp), hagree .rcx (by simp)]

/-- Beside a context whose value stands alone. -/
theorem sameXsetbv_iff {context context' : Context}
    (hagree : AgreeOn [.rax, .rcx, .rdx] context context') (h' : XsetbvValueAlone context') :
    SameXsetbv context context' ↔ XsetbvValueAlone context := by
  have hexecuted : ∀ host, (emulate host .xsetbv context').2 = activateXsave host ++
      [.xsetbv (lowHalf (context.gpr .rcx)) (lowHalf (context.gpr .rdx))
        (lowHalf (context.gpr .rax))] := by
    intro host
    rw [emulate_xsetbv, h', hagree .rax (by simp), hagree .rcx (by simp), hagree .rdx (by simp)]
  rw [← xsetbvArchitectural_iff]
  refine forall_congr' fun host => ?_
  rw [hexecuted, emulate_xsetbv]
  constructor
  · intro h
    exact Prod.ext rfl h
  · intro h
    exact (Prod.mk.inj h).2

/-- The emulated instructions see the halves they take, and nothing else, exactly where the upper half
of `rax` plays no part. -/
theorem emulate_architectural_iff (context : Context) :
    (CpuidArchitectural context ↔ CpuidLeafAlone context) ∧
      (XsetbvArchitectural context ↔ XsetbvValueAlone context) ∧
      (∀ context', AgreeOn [.rax, .rcx] context context' → CpuidLeafAlone context' →
        (SameCpuid context context' ↔ CpuidLeafAlone context)) ∧
      ∀ context', AgreeOn [.rax, .rcx, .rdx] context context' → XsetbvValueAlone context' →
        (SameXsetbv context context' ↔ XsetbvValueAlone context) :=
  ⟨cpuidArchitectural_iff context, xsetbvArchitectural_iff context,
    fun _ => sameCpuid_iff, fun _ => sameXsetbv_iff⟩

/-- A context with values in `rax`, `rcx` and `rdx`. -/
def contextWith (rax rcx rdx : Word) : Context where
  gpr r := if r = .rax then rax else if r = .rcx then rcx else if r = .rdx then rdx else 0#64
  rip := 0#64
  rflags := 0#64
  xmm _ := 0
  x87 := ⟨0, 0⟩
  fxMxcsr := 0
  fxXmm _ := 0
  mxcsr := 0
  seg _ := 0

/-- A bit above the leaf hides the hypervisor, and the same bit sets a bit of the XCR. -/
theorem not_architectural_bit32 :
    (¬CpuidArchitectural (contextWith 0x100000001#64 0#64 0#64) ∧
      ¬XsetbvArchitectural (contextWith 0x100000001#64 0#64 0#64)) ∧
      AgreeOn [.rax, .rcx, .rdx] (contextWith 0x100000001#64 0#64 0#64) (contextWith 1#64 0#64 0#64) ∧
      ¬SameCpuid (contextWith 0x100000001#64 0#64 0#64) (contextWith 1#64 0#64 0#64) ∧
      ¬SameXsetbv (contextWith 0x100000001#64 0#64 0#64) (contextWith 1#64 0#64 0#64) := by
  have hagree : AgreeOn [.rax, .rcx, .rdx] (contextWith 0x100000001#64 0#64 0#64)
      (contextWith 1#64 0#64 0#64) := by
    intro r hr
    simp only [List.mem_cons, List.not_mem_nil, or_false] at hr
    rcases hr with rfl | rfl | rfl <;> rfl
  have hcpuid : ¬CpuidLeafAlone (contextWith 0x100000001#64 0#64 0#64) := by
    intro h
    exact absurd (h (.inl rfl)) (by decide)
  have hxsetbv : ¬XsetbvValueAlone (contextWith 0x100000001#64 0#64 0#64) := by
    show ¬(_ ||| _ = _)
    decide
  refine ⟨⟨?_, ?_⟩, hagree, ?_, ?_⟩
  · rw [cpuidArchitectural_iff]
    exact hcpuid
  · rw [xsetbvArchitectural_iff]
    exact hxsetbv
  · rw [sameCpuid_iff (fun r hr => hagree r ?_) fun _ => rfl]
    · exact hcpuid
    · revert hr
      simp only [List.mem_cons, List.not_mem_nil, or_false]
      exact Or.imp id .inl
  · rw [sameXsetbv_iff hagree rfl]
    exact hxsetbv

end Zpp.Hypervisor
