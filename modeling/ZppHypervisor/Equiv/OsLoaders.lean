import Mathlib.Data.Finset.Max
import ZppHypervisor.Equiv.CallOnCpu
import ZppHypervisor.Equiv.LoaderRuns

/-!
# The loads of the three operating systems

The functions `call_on_cpu` of the loaders call their function on the right CPU, and leave the operating
system as they found it: its affinity on Linux and Windows, the events and the processor on UEFI.
-/

namespace Zpp.OsLoaders

open Hypervisor Loader X64 Loop

/-! ### A CPU of an operating system -/

/-- A 1 GiB page at physical address 0, mapped at linear address 0: the tables are the frames `0x1000`
and `0x2000`. -/
def hugePageMemory : ByteMemory 64 :=
  ByteMemory.store (n := 8)
    (ByteMemory.store (n := 8) (fun _ => 0#8) 0x1000#64 0x2003#64) 0x2000#64 0x83#64

/-- The translation of the operating system. -/
def hugePageMap : Word → Word :=
  (OsPageTable.ofCr3 0x1000#64 (some id)).virtualToPhysical hugePageMemory

theorem hugePageMap_eq {va : Word} (h : va.toNat < 2 ^ 30) : hugePageMap va = va := by
  have hones : 0x1ff#64 = BitVec.ofNat 64 (2 ^ 9 - 1) := by decide
  have hpml4e : (⟨va⟩ : VirtualAddress).pml4e = 0#64 := by
    apply BitVec.eq_of_toNat_eq
    rw [VirtualAddress.pml4e, hones, BitField.toNat_get_low _ _ _ (by decide),
      Nat.div_eq_of_lt (h.trans (by decide))]
    rfl
  have hpdpte : (⟨va⟩ : VirtualAddress).pdpte = 0#64 := by
    apply BitVec.eq_of_toNat_eq
    rw [VirtualAddress.pdpte, hones, BitField.toNat_get_low _ _ _ (by decide),
      Nat.div_eq_of_lt h]
    rfl
  have hoffset : (⟨va⟩ : VirtualAddress).hugeOffset = va := by
    apply BitVec.eq_of_toNat_eq
    rw [VirtualAddress.hugeOffset, show 0x3fffffff#64 = BitVec.ofNat 64 (2 ^ 30 - 1) by decide,
      BitVec.toNat_and, BitVec.toNat_ofNat,
      Nat.mod_eq_of_lt (show 2 ^ 30 - 1 < 2 ^ 64 by decide), Nat.and_two_pow_sub_one_eq_mod,
      Nat.mod_eq_of_lt h]
  -- Both tables are entered at index 0.
  have hpdpt : (tableEntry hugePageMemory 0x1000#64 0#64).pageNumber <<< 12 = 0x2000#64 := by decide
  have hlarge : (tableEntry hugePageMemory 0x2000#64 0#64).large = true := by decide
  have hnumber : (tableEntry hugePageMemory 0x2000#64 0#64).pageNumber <<< 30 = 0#64 := by decide
  have hpml4 : 0x1000#64 &&& 0xfffffffffffff000#64 = 0x1000#64 := by decide
  simp only [hugePageMap, OsPageTable.virtualToPhysical, OsPageTable.ofCr3, id, hpml4, hpml4e, hpdpt,
    hpdpte, hlarge, if_true, hnumber, hoffset, BitVec.zero_add]

/-- The firmware platform, with an operating system. -/
def hugePageCall : CpuCall :=
  { firmwareCall with platform := { firmware with memory := hugePageMemory } }

theorem moduleFits_hugePage : ModuleFits hugePageCall.platform launchModule hugePageMap where
  base := rfl
  size := rfl
  size_le := by decide
  hostPageTable := ⟨by decide, by decide, by decide⟩
  tables := ⟨by decide, by decide, by decide⟩
  unprotectedMemory := ⟨by decide, by decide, by decide⟩
  frameMap := by
    have hlt : ∀ a, launchModule.Contains a → a.toNat < 2 ^ 30 := fun a ha =>
      ha.2.trans (by decide)
    have hid : FrameMap launchModule (2 ^ 39) id := frameMap_id launchModule (by decide)
    refine ⟨fun a ha => ?_, fun q hq => ?_, fun q hq => ?_, fun q hq q' hq' h => ?_⟩
    · rw [hugePageMap_eq (hlt a ha), hugePageMap_eq (hlt _ ha.hasPage.2)]
      exact hid.add_offset a ha
    · rw [hugePageMap_eq (hlt q hq.2)]
      exact hid.aligned q hq
    · rw [hugePageMap_eq (hlt q hq.2)]
      exact hid.lt q hq
    · rwa [hugePageMap_eq (hlt q hq.2), hugePageMap_eq (hlt q' hq'.2)] at h
  pages_lt := by decide
  regions_lt := by
    refine lt_of_le_of_lt (card_touchedRegions_le (N := 9) (by decide) fun i hi => ?_) (by decide)
    have hpage := (Module.hasPage_page hi).2.2
    have hend : launchModule.base.toNat + launchModule.size.toNat = 0x1128000 := by decide
    rw [hugePageMap_eq (by omega)]
    omega

/-- A launch there proceeds: the first one on the fresh object, another one on any. -/
theorem launch_hugePage {i : ℕ} (hi : i < maxCpus) {o : Object} (ho : i = 0 → o = .fresh) :
    (launch (some id) hugePageCall (BitVec.ofNat 64 i) o).1.result = some 0 :=
  @launch_proceeds _ (fun _ => hugePageCall) _ _ moduleFits_hugePage rfl
    (fun _ => ⟨rfl, rfl, rfl⟩) _ (hi.trans (by decide)) _ ho

/-! ### Linux -/

section Linux

variable {σ : Type} {kernel : Linux σ} {affinity : σ → Finset ℕ} {active : Finset ℕ}

/-- What the kernel documents of its functions.  `affinity` is the affinity of the task, and `active` has
the CPUs that tasks can run on. -/
structure Linux.Documented (kernel : Linux σ) (affinity : σ → Finset ℕ) (active : Finset ℕ) : Prop where
  cpu_mem : ∀ s, kernel.cpu s ∈ affinity s
  numOnlineCpus : ∀ s, affinity (kernel.numOnlineCpus s).2 = affinity s
  schedGetaffinity : ∀ s, affinity (kernel.schedGetaffinity s).2 = affinity s ∧
    ((kernel.schedGetaffinity s).1.1 = 0 →
      (kernel.schedGetaffinity s).1.2 = affinity s ∩ active)
  /-- The affinity becomes the mask, but for CPUs that the task may not use. -/
  schedSetaffinity : ∀ mask s, ((kernel.schedSetaffinity mask s).1 = 0 →
      affinity (kernel.schedSetaffinity mask s).2 ⊆ mask ∧
      affinity (kernel.schedSetaffinity mask s).2 ∩ active = mask ∩ active ∧ (mask ∩ active).Nonempty) ∧
    ((kernel.schedSetaffinity mask s).1 ≠ 0 →
      affinity (kernel.schedSetaffinity mask s).2 = affinity s)

/-- The affinity of the task as far as it counts. -/
def ActiveAffinity (affinity : σ → Finset ℕ) (active mask : Finset ℕ) (s : LinuxState σ) : Prop :=
  affinity s.kernel ∩ active = mask ∩ active

/-- There are no CPUs if `num_online_cpus` is negative. -/
theorem Linux.numberOfCpus_eq (w : World (LinuxState σ)) :
    kernel.numberOfCpus w = some ((kernel.numOnlineCpus w.os.kernel).1.toNat,
      { w with os := { w.os with kernel := (kernel.numOnlineCpus w.os.kernel).2 } }) := by
  rw [Linux.numberOfCpus]
  by_cases hneg : (kernel.numOnlineCpus w.os.kernel).1 < 0
  · rw [Int.toNat_of_nonpos hneg.le]
    exact (Program.call_bind _ _ _).trans (congrFun (if_pos hneg) _)
  · exact (Program.call_bind _ _ _).trans (congrFun (if_neg hneg) _)

theorem Linux.savePreviousMask_spec (h : kernel.Documented affinity active)
    {w w' : World (LinuxState σ)} {r : ℤ} (hcall : kernel.savePreviousMask w = some (r, w')) :
    Same w w' ∧ affinity w'.os.kernel = affinity w.os.kernel ∧
      (r = 0 → w'.os.previousMask = affinity w.os.kernel ∩ active) := by
  obtain ⟨rfl, rfl⟩ := Prod.mk.inj (Option.some.inj hcall)
  obtain ⟨hkeeps, hmask⟩ := h.schedGetaffinity w.os.kernel
  exact ⟨⟨rfl, rfl⟩, hkeeps, hmask⟩

theorem Linux.setAffinity_spec (h : kernel.Documented affinity active)
    {mask : LinuxState σ → Finset ℕ} {w w' : World (LinuxState σ)} {r : ℤ}
    (hcall : kernel.setAffinity mask w = some (r, w')) :
    Same w w' ∧ w'.os.previousMask = w.os.previousMask ∧
      (r = 0 → affinity w'.os.kernel ⊆ mask w.os ∧
        affinity w'.os.kernel ∩ active = mask w.os ∩ active ∧ (mask w.os ∩ active).Nonempty) ∧
      (r ≠ 0 → affinity w'.os.kernel = affinity w.os.kernel) := by
  obtain ⟨rfl, rfl⟩ := Prod.mk.inj (Option.some.inj hcall)
  obtain ⟨hset, hkeeps⟩ := h.schedSetaffinity (mask w.os) w.os.kernel
  exact ⟨⟨rfl, rfl⟩, rfl, hset, hkeeps⟩

/-- A call of `call_on_cpu` restores the affinity, unless that is what failed. -/
theorem Linux.callsOnCpu (h : kernel.Documented affinity active) (physToVirt : Word → Word)
    (mask : Finset ℕ) (n : ℕ) :
    CallsOnCpu (kernel.functions physToVirt) (fun s => kernel.cpu s.kernel) id n
      (ActiveAffinity affinity active mask) (· ∈ active)
      (fun i s => ActiveAffinity affinity active mask s ∨ affinity s.kernel = {i}) where
  ends {i function w w' r} _ hbetween hkeeps hcall := by
    obtain ⟨r₁, w₁, hsave, hcall⟩ := Program.exists_of_bind hcall
    obtain ⟨hsame₁, haffinity₁, hprevious⟩ := Linux.savePreviousMask_spec h hsave
    have hbetween₁ : ActiveAffinity affinity active mask w₁.os := by
      rw [ActiveAffinity, haffinity₁]
      exact hbetween
    split_ifs at hcall with hr₁
    · obtain ⟨rfl, rfl⟩ := Prod.mk.inj (Option.some.inj hcall)
      exact ⟨⟨.inl ⟨by decide, hsame₁⟩⟩, fun hr => absurd hr (by decide), fun _ => .inl hbetween₁⟩
    have hprevious := hprevious (not_not.mp hr₁)
    obtain ⟨r₂, w₂, hset, hcall⟩ := Program.exists_of_bind hcall
    obtain ⟨hsame₂, hprevious₂, hbound, hunbound⟩ := Linux.setAffinity_spec h hset
    have hsame : Same w w₂ := ⟨hsame₂.object.trans hsame₁.object, hsame₂.launches.trans hsame₁.launches⟩
    split_ifs at hcall with hr₂
    · obtain ⟨rfl, rfl⟩ := Prod.mk.inj (Option.some.inj hcall)
      refine ⟨⟨.inl ⟨by decide, hsame⟩⟩, fun hr => absurd hr (by decide), fun _ => .inl ?_⟩
      rw [ActiveAffinity, hunbound hr₂]
      exact hbetween₁
    -- The task is bound to the CPU.
    obtain ⟨hbound, -, hactive⟩ := hbound (not_not.mp hr₂)
    have hcpu : kernel.cpu w₂.os.kernel = i := Finset.mem_singleton.mp (hbound (h.cpu_mem _))
    have hbound : affinity w₂.os.kernel = {i} :=
      (Finset.subset_singleton_iff.mp hbound).resolve_left (Finset.ne_empty_of_mem (h.cpu_mem _))
    have hmem : i ∈ active := by
      obtain ⟨k, hk⟩ := hactive
      obtain ⟨hki, hk⟩ := Finset.mem_inter.mp hk
      rwa [Finset.mem_singleton.mp hki] at hk
    obtain ⟨r₃, w₃, hfunction, hcall⟩ := Program.exists_of_bind hcall
    have hos := hkeeps _ _ _ hfunction
    have hcalled : function { w with os := w₂.os } = some (r₃, w₃) := by
      rw [← hfunction]
      congr 1
      rw [← hsame.object, ← hsame.launches]
    obtain ⟨r₄, w₄, hrestore, hcall⟩ := Program.exists_of_bind hcall
    obtain ⟨hsame₄, -, hrestored, hunrestored⟩ := Linux.setAffinity_spec h hrestore
    split_ifs at hcall with hr₄
    · obtain ⟨rfl, rfl⟩ := Prod.mk.inj (Option.some.inj hcall)
      refine ⟨⟨.inr ⟨w₂.os, r₃, w₃, hcpu, hcalled, hsame₄, fun hr => absurd hr (by decide)⟩⟩,
        fun hr => absurd hr (by decide), fun _ => .inr ?_⟩
      rw [hunrestored hr₄, hos, hbound]
    · obtain ⟨rfl, rfl⟩ := Prod.mk.inj (Option.some.inj hcall)
      have hbetween₄ : ActiveAffinity affinity active mask w₄.os := by
        rw [ActiveAffinity, (hrestored (not_not.mp hr₄)).2.1, hos, hprevious₂, hprevious,
          Finset.inter_assoc, Finset.inter_self]
        exact hbetween
      exact ⟨⟨.inr ⟨w₂.os, r₃, w₃, hcpu, hcalled, hsame₄, fun hr => hr⟩⟩, fun _ => ⟨hbetween₄, hmem⟩,
        fun _ => .inl hbetween₄⟩

/-- **The Linux loader.**  A load that it ran is one in which every launch was on the CPU it is for.  The
task has its affinity back, but if restoring it failed it is bound to a CPU and the load has failed.  A
load succeeds only if the CPUs are numbered from zero on without a gap. -/
theorem linux_loads (h : kernel.Documented affinity active) {cpus : ℕ → CpuCall}
    {physToVirt : Word → Word} {w w' : World (LinuxState σ)} {r : ℤ} (hobject : w.object = .fresh)
    (hlaunches : w.launches = [])
    (hrun : zppLoadElf cpus (fun s => kernel.cpu s.kernel) (kernel.functions physToVirt) w =
      some (r, w')) :
    let n := (kernel.numOnlineCpus w.os.kernel).1.toNat
    (∃ calls, OnCpus cpus id calls ∧
      Loader.zppLoadElf (some physToVirt) calls n = ⟨w'.object, w'.launches, decide (r ≠ 0)⟩) ∧
    (affinity w'.os.kernel ∩ active = affinity w.os.kernel ∩ active ∨
      r ≠ 0 ∧ ∃ i < n, affinity w'.os.kernel = {i}) ∧
    (r = 0 → ∀ i < n, i ∈ active) := by
  intro n
  have hbetween : affinity (kernel.numOnlineCpus w.os.kernel).2 ∩ active =
      affinity w.os.kernel ∩ active := by
    rw [h.numOnlineCpus]
  obtain ⟨calls, hcalls, hload, hzero, hne⟩ := exists_calls
    (Linux.callsOnCpu h physToVirt (affinity w.os.kernel) n) (Linux.numberOfCpus_eq w) hobject hlaunches
    hbetween hrun
  refine ⟨⟨calls, hcalls, hload⟩, ?_, fun hr => (hzero hr).2⟩
  by_cases hr : r = 0
  · exact .inl (hzero hr).1
  · rcases hne hr with hrestored | ⟨i, hi, hrestored | hbound⟩
    · exact .inl hrestored
    · exact .inl hrestored
    · exact .inr ⟨hr, i, hi, hbound⟩

/-- The kernel of a computer with the given CPUs. -/
def Linux.ofCpus (online : Finset ℕ) : Linux {mask : Finset ℕ // mask.Nonempty} where
  cpu s := s.1.min' s.2
  numOnlineCpus s := (online.card, s)
  schedGetaffinity s := ((0, s.1 ∩ online), s)
  schedSetaffinity mask s := if h : (mask ∩ online).Nonempty then (0, ⟨mask ∩ online, h⟩) else (-22, s)

theorem Linux.documented_ofCpus (online : Finset ℕ) :
    (Linux.ofCpus online).Documented Subtype.val online where
  cpu_mem s := s.1.min'_mem s.2
  numOnlineCpus _ := rfl
  schedGetaffinity _ := ⟨rfl, fun _ => rfl⟩
  schedSetaffinity mask s := by
    rw [Linux.ofCpus]
    dsimp only
    split_ifs with h
    · refine ⟨fun _ => ⟨Finset.inter_subset_left, ?_, h⟩, fun hr => absurd rfl hr⟩
      rw [Finset.inter_assoc, Finset.inter_self]
    · exact ⟨fun hr => absurd hr (show (-22 : ℤ) ≠ 0 by decide), fun _ => rfl⟩

/-- A call on a CPU that exists succeeds. -/
theorem Linux.callSucceeds_ofCpus {online : Finset ℕ} (physToVirt : Word → Word) {i : ℕ}
    (hi : i ∈ online) :
    CallSucceeds ((Linux.ofCpus online).functions physToVirt) (fun s => s.kernel.1 = online) i := by
  intro function w hall hfunction
  have hbound : ({i} ∩ online).Nonempty := ⟨i, Finset.mem_inter.mpr ⟨Finset.mem_singleton_self i, hi⟩⟩
  have hset : ∀ (mask : LinuxState _ → Finset ℕ) (w : World (LinuxState _))
      (h : (mask w.os ∩ online).Nonempty),
      (Linux.ofCpus online).setAffinity mask w =
        some (0, { w with os := { w.os with kernel := ⟨mask w.os ∩ online, h⟩ } }) := by
    intro mask w h
    simp only [Linux.setAffinity, Program.call, Linux.ofCpus, dif_pos h]
  have hsave : (Linux.ofCpus online).savePreviousMask w =
      some (0, { w with os := { kernel := w.os.kernel, previousMask := w.os.kernel.1 ∩ online } }) := rfl
  have hall' : (w.os.kernel.1 ∩ online) ∩ online = online := by
    rw [hall, Finset.inter_self, Finset.inter_self]
  obtain ⟨w₁, hrun, hos⟩ := hfunction
    { kernel := ⟨{i} ∩ online, hbound⟩, previousMask := w.os.kernel.1 ∩ online }
  have hrestore : (w₁.os.previousMask ∩ online).Nonempty := by
    rw [hos, hall']
    exact ⟨i, hi⟩
  refine ⟨{ w₁ with os := { w₁.os with kernel := ⟨w₁.os.previousMask ∩ online, hrestore⟩ } }, ?_, ?_⟩
  · show (Linux.ofCpus online).callOnCpu i function w = _
    rw [Linux.callOnCpu, Program.bind_of_eq hsave, if_neg (by decide),
      Program.bind_of_eq (hset _ _ hbound), if_neg (by decide), Program.bind_of_eq hrun,
      Program.bind_of_eq (hset _ _ hrestore), if_neg (by decide)]
    rfl
  · show w₁.os.previousMask ∩ online = online
    rw [hos, hall']

theorem linux_loads_ofCpus : ∃ w',
    zppLoadElf (fun _ => hugePageCall) (fun s => (Linux.ofCpus (Finset.range 8)).cpu s.kernel)
        ((Linux.ofCpus (Finset.range 8)).functions id)
        ⟨⟨⟨Finset.range 8, 0, by decide⟩, ∅⟩, .fresh, []⟩ = some (0, w') ∧
      (∃ calls, OnCpus (fun _ => hugePageCall) id calls ∧
        Loader.zppLoadElf (some id) calls 8 = ⟨w'.object, w'.launches, false⟩) ∧
      w'.os.kernel.1 ∩ Finset.range 8 = Finset.range 8 := by
  obtain ⟨w', hrun⟩ := @exists_succeeds (LinuxState _) ((Linux.ofCpus (Finset.range 8)).functions id)
    (fun _ => hugePageCall) (fun s => (Linux.ofCpus (Finset.range 8)).cpu s.kernel)
    (fun s => s.kernel.1 = Finset.range 8) 8 ⟨⟨⟨Finset.range 8, 0, by decide⟩, ∅⟩, .fresh, []⟩ _
    (by decide) rfl rfl rfl
    (fun i hi => Linux.callSucceeds_ofCpus id (Finset.mem_range.mpr hi))
    (fun i hi _ _ ho => launch_hugePage (hi.trans (by decide)) ho)
  have hloads := linux_loads (Linux.documented_ofCpus (Finset.range 8)) rfl rfl hrun
  refine ⟨w', hrun, hloads.1, ?_⟩
  rcases hloads.2.1 with hrestored | ⟨hr, -⟩
  · rw [hrestored]
    exact Finset.inter_self _
  · exact absurd rfl hr

end Linux

/-! ### Windows -/

section Windows

variable {σ : Type} {kernel : Windows σ} {systemAffinity : σ → Word} {active : ℕ → Prop}

/-- What the kernel documents of its functions.  `systemAffinity` is that of the thread, zero if it has
none, and `active` holds of the processors that threads can run on. -/
structure Windows.Documented (kernel : Windows σ) (systemAffinity : σ → Word) (active : ℕ → Prop) :
    Prop where
  keQueryActiveProcessorCount : ∀ s,
    systemAffinity (kernel.keQueryActiveProcessorCount s).2 = systemAffinity s
  /-- The processors are numbered from zero on. -/
  active_of_lt : ∀ s, ∀ i < (kernel.keQueryActiveProcessorCount s).1.toNat, active i
  previous : ∀ mask s, (kernel.keSetSystemAffinityThreadEx mask s).1 = systemAffinity s
  cpu_set : ∀ i < 64, active i → ∀ s,
    kernel.cpu (kernel.keSetSystemAffinityThreadEx (1#64 <<< i) s).2 = i
  keRevertToUserAffinityThreadEx : ∀ affinity s,
    systemAffinity (kernel.keRevertToUserAffinityThreadEx affinity s) = affinity

/-- A call of `call_on_cpu` restores the affinity. -/
theorem Windows.callsOnCpu (h : kernel.Documented systemAffinity active)
    (mmGetVirtualForPhysical : Word → Word) (affinity : Word) {n : ℕ} (hactive : ∀ i < n, active i) :
    CallsOnCpu (kernel.functions mmGetVirtualForPhysical) kernel.cpu id n
      (systemAffinity · = affinity) active (fun _ s => systemAffinity s = affinity) where
  ends {i function w w' r} hi hbetween hkeeps hcall := by
    replace hcall : kernel.callOnCpu i function w = some (r, w') := hcall
    rw [Windows.callOnCpu] at hcall
    split_ifs at hcall with hlt
    · cases hcall
    obtain ⟨previous, w₁, hset, hcall⟩ := Program.exists_of_bind hcall
    obtain ⟨hprevious, rfl⟩ := Prod.mk.inj (Option.some.inj hset)
    obtain ⟨r₂, w₂, hfunction, hcall⟩ := Program.exists_of_bind hcall
    obtain ⟨_, w₃, hrevert, hcall⟩ := Program.exists_of_bind hcall
    obtain ⟨-, rfl⟩ := Prod.mk.inj (Option.some.inj hrevert)
    obtain ⟨rfl, rfl⟩ := Prod.mk.inj (Option.some.inj hcall)
    have hcpu := h.cpu_set i (not_le.mp hlt) (hactive i hi) w.os
    have hrestored : systemAffinity (kernel.keRevertToUserAffinityThreadEx previous w₂.os) = affinity := by
      rw [h.keRevertToUserAffinityThreadEx, ← hprevious, h.previous]
      exact hbetween
    exact ⟨⟨.inr ⟨_, r₂, w₂, hcpu, hfunction, ⟨rfl, rfl⟩, fun hr => hr⟩⟩,
      fun _ => ⟨hrestored, hactive i hi⟩, fun _ => hrestored⟩

/-- **The Windows loader.**  A load that it ran is one in which every launch was on the CPU it is for, and
the thread has its affinity back. -/
theorem windows_loads (h : kernel.Documented systemAffinity active) {cpus : ℕ → CpuCall}
    {mmGetVirtualForPhysical : Word → Word} {w w' : World σ} {r : ℤ} (hobject : w.object = .fresh)
    (hlaunches : w.launches = [])
    (hrun : zppLoadElf cpus kernel.cpu (kernel.functions mmGetVirtualForPhysical) w = some (r, w')) :
    (∃ calls, OnCpus cpus id calls ∧
      Loader.zppLoadElf (some mmGetVirtualForPhysical) calls
        (kernel.keQueryActiveProcessorCount w.os).1.toNat =
          ⟨w'.object, w'.launches, decide (r ≠ 0)⟩) ∧
    systemAffinity w'.os = systemAffinity w.os := by
  have hbetween := h.keQueryActiveProcessorCount w.os
  obtain ⟨calls, hcalls, hload, hzero, hne⟩ := exists_calls
    (Windows.callsOnCpu h mmGetVirtualForPhysical (systemAffinity w.os) (h.active_of_lt w.os)) rfl hobject
    hlaunches hbetween hrun
  exact ⟨⟨calls, hcalls, hload⟩, between_of_ended hzero hne⟩

/-- The kernel of a computer with the given number of processors. -/
def Windows.ofCount (count : BitVec 32) : Windows Word where
  cpu s := Nat.log2 s.toNat
  keQueryActiveProcessorCount s := (count, s)
  keSetSystemAffinityThreadEx mask s := (s, mask)
  keRevertToUserAffinityThreadEx affinity _ := affinity

theorem Windows.documented_ofCount (count : BitVec 32) :
    (Windows.ofCount count).Documented id (· < count.toNat) where
  keQueryActiveProcessorCount _ := rfl
  active_of_lt _ _ hi := hi
  previous _ _ := rfl
  cpu_set i hi _ _ := by
    show Nat.log2 (1#64 <<< i).toNat = i
    have hone : (1#64).toNat = 1 := rfl
    rw [BitVec.toNat_shiftLeft, hone, Nat.one_shiftLeft,
      Nat.mod_eq_of_lt (Nat.pow_lt_pow_right (by decide) hi), Nat.log2_two_pow]
  keRevertToUserAffinityThreadEx _ _ := rfl

theorem Windows.callSucceeds_ofCount (count : BitVec 32) (mmGetVirtualForPhysical : Word → Word) {i : ℕ}
    (hi : i < 64) :
    CallSucceeds ((Windows.ofCount count).functions mmGetVirtualForPhysical) (fun _ => True) i := by
  intro function w _ hfunction
  obtain ⟨w₁, hrun, hos⟩ := hfunction (1#64 <<< i)
  refine ⟨{ w₁ with os := w.os }, ?_, trivial⟩
  show (Windows.ofCount count).callOnCpu i function w = _
  rw [Windows.callOnCpu, if_neg (not_le.mpr hi)]
  exact (Program.call_bind _ _ _).trans (Program.bind_of_eq hrun _)

theorem windows_loads_ofCount : ∃ w',
    zppLoadElf (fun _ => hugePageCall) (Windows.ofCount 8#32).cpu ((Windows.ofCount 8#32).functions id)
        ⟨0#64, .fresh, []⟩ = some (0, w') ∧
      (∃ calls, OnCpus (fun _ => hugePageCall) id calls ∧
        Loader.zppLoadElf (some id) calls 8 = ⟨w'.object, w'.launches, false⟩) ∧
      w'.os = 0#64 := by
  obtain ⟨w', hrun⟩ := @exists_succeeds Word ((Windows.ofCount 8#32).functions id)
    (fun _ => hugePageCall) (Windows.ofCount 8#32).cpu (fun _ => True) 8 ⟨0#64, .fresh, []⟩ _
    (by decide) rfl trivial rfl
    (fun i hi => Windows.callSucceeds_ofCount _ id (hi.trans (by decide)))
    (fun i hi _ _ ho => launch_hugePage (hi.trans (by decide)) ho)
  exact ⟨w', hrun, windows_loads (Windows.documented_ofCount 8#32) rfl rfl hrun⟩

end Windows

/-! ### UEFI -/

section Uefi

variable {σ : Type} {firmware : Uefi σ} {openEvents : σ → List firmware.Event} {bsp : ℕ}
  {enabled : ℕ → Prop}

/-- What the UEFI specification says of the services.  `openEvents` has the events not closed, `bsp` is
the processor that the loader runs on, and `enabled` holds of the processors in use. -/
structure Uefi.Documented (firmware : Uefi σ) (openEvents : σ → List firmware.Event) (bsp : ℕ)
    (enabled : ℕ → Prop) : Prop where
  getNumberOfProcessors : ∀ s, openEvents (firmware.getNumberOfProcessors s).2 = openEvents s ∧
    firmware.cpu (firmware.getNumberOfProcessors s).2 = firmware.cpu s
  createEvent : ∀ s, firmware.cpu (firmware.createEvent s).2 = firmware.cpu s ∧
    openEvents (firmware.createEvent s).2 = (firmware.createEvent s).1.toList ++ openEvents s
  /-- A procedure cannot be started on the BSP or on a disabled AP. -/
  startupThisAp : ∀ i s, openEvents (firmware.startupThisAp i s).2 = openEvents s ∧
    ((firmware.startupThisAp i s).1 = true →
      firmware.cpu (firmware.startupThisAp i s).2 = i ∧ i ≠ bsp ∧ enabled i) ∧
    ((firmware.startupThisAp i s).1 = false →
      firmware.cpu (firmware.startupThisAp i s).2 = firmware.cpu s)
  joinAp : ∀ s, openEvents (firmware.joinAp s) = openEvents s ∧ firmware.cpu (firmware.joinAp s) = bsp
  signalEvent : ∀ e s, openEvents (firmware.signalEvent e s) = openEvents s
  waitForEvent : ∀ e s, openEvents (firmware.waitForEvent e s).2 = openEvents s ∧
    firmware.cpu (firmware.waitForEvent e s).2 = firmware.cpu s
  closeEvent : ∀ e s, firmware.cpu (firmware.closeEvent e s) = firmware.cpu s ∧
    ∀ l, openEvents s = e :: l → openEvents (firmware.closeEvent e s) = l

/-- The processor that call `i` is for: number 0 stands for the BSP. -/
def Uefi.place (bsp i : ℕ) : ℕ := if i = 0 then bsp else i

/-- The loader runs on the BSP, with the given events open. -/
structure Uefi.OnBsp (firmware : Uefi σ) (openEvents : σ → List firmware.Event) (bsp : ℕ)
    (l : List firmware.Event) (s : σ) : Prop where
  cpu : firmware.cpu s = bsp
  openEvents : openEvents s = l

/-- The start of an AP leaves the events. -/
theorem Uefi.startup_spec (h : firmware.Documented openEvents bsp enabled) {e : firmware.Event} {i : ℕ}
    {function : Program σ ℤ} {w w' : World σ} {r : ℤ} {l : List firmware.Event}
    (hbsp : Uefi.OnBsp firmware openEvents bsp l w.os) (hkeeps : KeepsOs function)
    (hcall : firmware.startup e i function w = some (r, w')) :
    EndsCall firmware.cpu i function w r w' ∧ Uefi.OnBsp firmware openEvents bsp l w'.os ∧
      (r = 0 → i ≠ bsp ∧ enabled i) := by
  obtain ⟨started, w₁, hstart, hcall⟩ := Program.exists_of_bind hcall
  obtain ⟨hstarted, rfl⟩ := Prod.mk.inj (Option.some.inj hstart)
  obtain ⟨hevents, hon, hoff⟩ := h.startupThisAp i w.os
  cases started with
  | false =>
    obtain ⟨rfl, rfl⟩ := Prod.mk.inj (Option.some.inj hcall)
    exact ⟨⟨.inl ⟨by decide, rfl, rfl⟩⟩, ⟨(hoff hstarted).trans hbsp.cpu, hevents.trans hbsp.openEvents⟩,
      fun hr => absurd hr (by decide)⟩
  | true =>
    obtain ⟨hcpu, hne, henabled⟩ := hon hstarted
    obtain ⟨r₂, w₂, hfunction, hcall⟩ := Program.exists_of_bind hcall
    obtain ⟨_, w₃, hsignal, hcall⟩ := Program.exists_of_bind hcall
    obtain ⟨-, rfl⟩ := Prod.mk.inj (Option.some.inj hsignal)
    obtain ⟨_, w₄, hjoin, hcall⟩ := Program.exists_of_bind hcall
    obtain ⟨-, rfl⟩ := Prod.mk.inj (Option.some.inj hjoin)
    obtain ⟨_, w₅, hwait, hcall⟩ := Program.exists_of_bind hcall
    obtain ⟨-, rfl⟩ := Prod.mk.inj (Option.some.inj hwait)
    obtain ⟨rfl, rfl⟩ := Prod.mk.inj (Option.some.inj hcall)
    have hos := hkeeps _ _ _ hfunction
    obtain ⟨hwaitEvents, hwaitCpu⟩ := h.waitForEvent e
      (firmware.joinAp (firmware.signalEvent e w₂.os))
    obtain ⟨hjoinEvents, hjoinCpu⟩ := h.joinAp (firmware.signalEvent e w₂.os)
    refine ⟨⟨.inr ⟨_, r₂, w₂, hcpu, hfunction, ⟨rfl, rfl⟩, fun hr => hr⟩⟩,
      ⟨hwaitCpu.trans hjoinCpu, ?_⟩, fun _ => ⟨hne, henabled⟩⟩
    rw [hwaitEvents, hjoinEvents, h.signalEvent, hos, hevents]
    exact hbsp.openEvents

/-- A call of `call_on_cpu` closes the event that it creates. -/
theorem Uefi.callsOnCpu (h : firmware.Documented openEvents bsp enabled) (l : List firmware.Event)
    (n : ℕ) :
    CallsOnCpu firmware.functions firmware.cpu (Uefi.place bsp) n
      (Uefi.OnBsp firmware openEvents bsp l) (fun i => i = 0 ∨ i ≠ bsp ∧ enabled i)
      (fun _ => Uefi.OnBsp firmware openEvents bsp l) where
  ends {i function w w' r} _ hbsp hkeeps hcall := by
    replace hcall : firmware.callOnCpu i function w = some (r, w') := hcall
    rw [Uefi.callOnCpu] at hcall
    rw [Uefi.place]
    split_ifs at hcall ⊢ with hzero
    · have hos := hkeeps _ _ _ hcall
      rw [← hos] at hbsp
      exact ⟨⟨.inr ⟨w.os, r, w', hos ▸ hbsp.cpu, hcall, ⟨rfl, rfl⟩, fun hr => hr⟩⟩,
        fun _ => ⟨hbsp, .inl hzero⟩, fun _ => hbsp⟩
    · obtain ⟨event, w₁, hcreate, hcall⟩ := Program.exists_of_bind hcall
      obtain ⟨hevent, rfl⟩ := Prod.mk.inj (Option.some.inj hcreate)
      obtain ⟨hcpu, hevents⟩ := h.createEvent w.os
      rw [hevent, hbsp.openEvents] at hevents
      cases event with
      | none =>
        obtain ⟨rfl, rfl⟩ := Prod.mk.inj (Option.some.inj hcall)
        have hbsp' : Uefi.OnBsp firmware openEvents bsp l (firmware.createEvent w.os).2 :=
          ⟨hcpu.trans hbsp.cpu, hevents⟩
        exact ⟨⟨.inl ⟨by decide, rfl, rfl⟩⟩, fun hr => absurd hr (by decide), fun _ => hbsp'⟩
      | some e =>
        obtain ⟨r₂, w₂, hstartup, hcall⟩ := Program.exists_of_bind hcall
        obtain ⟨_, w₃, hclose, hcall⟩ := Program.exists_of_bind hcall
        obtain ⟨-, rfl⟩ := Prod.mk.inj (Option.some.inj hclose)
        obtain ⟨rfl, rfl⟩ := Prod.mk.inj (Option.some.inj hcall)
        obtain ⟨hends, hbsp₂, hdone⟩ := Uefi.startup_spec h (⟨hcpu.trans hbsp.cpu, hevents⟩ :
          Uefi.OnBsp firmware openEvents bsp (e :: l) (firmware.createEvent w.os).2) hkeeps hstartup
        obtain ⟨hcloseCpu, hcloseEvents⟩ := h.closeEvent e w₂.os
        have hbsp₃ : Uefi.OnBsp firmware openEvents bsp l (firmware.closeEvent e w₂.os) :=
          ⟨hcloseCpu.trans hbsp₂.cpu, hcloseEvents l hbsp₂.openEvents⟩
        refine ⟨⟨?_⟩, fun hr => ⟨hbsp₃, .inr (hdone hr)⟩, fun _ => hbsp₃⟩
        rcases hends.called with ⟨hr, hsame⟩ | ⟨os, r₁, w₁, hcpu, hfunction, hsame, hr₁⟩
        · exact .inl ⟨hr, hsame.object, hsame.launches⟩
        · exact .inr ⟨os, r₁, w₁, hcpu, hfunction, ⟨hsame.object, hsame.launches⟩, hr₁⟩

/-- The number of processors, zero if there was an error. -/
def Uefi.processors (firmware : Uefi σ) (s : σ) : ℕ :=
  ((firmware.getNumberOfProcessors s).1.map Prod.fst).getD 0

/-- **The UEFI loader.**  A load that it ran is one in which the first launch was on the BSP and every
other on the AP it is for, and all events are closed.  A load succeeds only if the BSP is the first
processor and all others are enabled. -/
theorem uefi_loads (h : firmware.Documented openEvents bsp enabled) {cpus : ℕ → CpuCall}
    {w w' : World σ} {r : ℤ} (hobject : w.object = .fresh) (hlaunches : w.launches = [])
    (hbsp : firmware.cpu w.os = bsp)
    (hrun : zppLoadElf cpus firmware.cpu firmware.functions w = some (r, w')) :
    (∃ calls, OnCpus cpus (Uefi.place bsp) calls ∧
      Loader.zppLoadElf none calls (firmware.processors w.os) =
        ⟨w'.object, w'.launches, decide (r ≠ 0)⟩) ∧
    openEvents w'.os = openEvents w.os ∧ firmware.cpu w'.os = bsp ∧
    (r = 0 → (bsp < firmware.processors w.os → bsp = 0) ∧
      ∀ i < firmware.processors w.os, i ≠ 0 → enabled i) := by
  obtain ⟨hevents, hcpu⟩ := h.getNumberOfProcessors w.os
  have hnumber : firmware.numberOfCpus w = some (firmware.processors w.os,
      { w with os := (firmware.getNumberOfProcessors w.os).2 }) := by
    rw [Uefi.numberOfCpus, Program.call_bind, Uefi.processors]
    cases (firmware.getNumberOfProcessors w.os).1 <;> rfl
  obtain ⟨calls, hcalls, hload, hzero, hne⟩ := exists_calls
    (Uefi.callsOnCpu h (openEvents w.os) (firmware.processors w.os)) hnumber hobject hlaunches
    ⟨hcpu.trans hbsp, hevents⟩ hrun
  have hend : Uefi.OnBsp firmware openEvents bsp (openEvents w.os) w'.os :=
    between_of_ended hzero hne
  refine ⟨⟨calls, hcalls, hload⟩, hend.openEvents, hend.cpu,
    fun hr => ⟨fun hlt => ?_, fun i hi hi0 => ?_⟩⟩
  · rcases (hzero hr).2 bsp hlt with hfirst | ⟨hne, -⟩
    · exact hfirst
    · exact absurd rfl hne
  · exact ((hzero hr).2 i hi).resolve_left hi0 |>.2

/-- The firmware of a computer with the given number of processors: the one that runs, and the events. -/
def Uefi.ofCount (n : ℕ) : Uefi (ℕ × List Unit) where
  Event := Unit
  cpu s := s.1
  getNumberOfProcessors s := (some (n, n), s)
  createEvent s := (some (), s.1, () :: s.2)
  startupThisAp i s := if i ≠ 0 ∧ i < n then (true, i, s.2) else (false, s)
  joinAp s := (0, s.2)
  signalEvent _ s := s
  waitForEvent _ s := (true, s)
  closeEvent _ s := (s.1, s.2.tail)

theorem Uefi.documented_ofCount (n : ℕ) : (Uefi.ofCount n).Documented Prod.snd 0 (· < n) where
  getNumberOfProcessors _ := ⟨rfl, rfl⟩
  createEvent _ := ⟨rfl, rfl⟩
  startupThisAp i s := by
    have hstart : (Uefi.ofCount n).startupThisAp i s =
        if i ≠ 0 ∧ i < n then (true, i, s.2) else (false, s) := rfl
    rw [hstart]
    split_ifs with h
    · exact ⟨rfl, fun _ => ⟨rfl, h⟩, fun hfalse => absurd hfalse (by decide)⟩
    · exact ⟨rfl, fun htrue => absurd htrue (by decide), fun _ => rfl⟩
  joinAp _ := ⟨rfl, rfl⟩
  signalEvent _ _ := rfl
  waitForEvent _ _ := ⟨rfl, rfl⟩
  closeEvent _ _ := ⟨rfl, fun _ hl => congrArg List.tail hl⟩

theorem Uefi.callSucceeds_ofCount {n i : ℕ} (hi : i < n) :
    CallSucceeds (Uefi.ofCount n).functions (fun _ => True) i := by
  intro function w _ hfunction
  by_cases hi0 : i = 0
  · obtain ⟨w₁, hrun, -⟩ := hfunction w.os
    refine ⟨w₁, ?_, trivial⟩
    show (Uefi.ofCount n).callOnCpu i function w = _
    rw [Uefi.callOnCpu, if_pos hi0, hrun]
  · obtain ⟨w₁, hrun, -⟩ := hfunction (i, () :: w.os.2)
    refine ⟨{ w₁ with os := (0, w₁.os.2.tail) }, ?_, trivial⟩
    have hstart : Program.call ((Uefi.ofCount n).startupThisAp i)
        { w with os := (w.os.1, () :: w.os.2) } =
        some (true, { w with os := (i, () :: w.os.2) }) := by
      simp only [Program.call, Uefi.ofCount, ne_eq, hi0, hi, not_false_eq_true, and_self, if_true]
    have hstartup : (Uefi.ofCount n).startup () i function { w with os := (w.os.1, () :: w.os.2) } =
        some (0, { w₁ with os := (0, w₁.os.2) }) :=
      (Program.bind_of_eq hstart _).trans (Program.bind_of_eq hrun _)
    show (Uefi.ofCount n).callOnCpu i function w = _
    rw [Uefi.callOnCpu, if_neg hi0, Program.call_bind]
    exact Program.bind_of_eq hstartup _

theorem uefi_loads_ofCount : ∃ w',
    zppLoadElf (fun _ => firmwareCall) (Uefi.ofCount 8).cpu (Uefi.ofCount 8).functions
        ⟨(0, []), .fresh, []⟩ = some (0, w') ∧
      (∃ calls, OnCpus (fun _ => firmwareCall) (Uefi.place 0) calls ∧
        Loader.zppLoadElf none calls 8 = ⟨w'.object, w'.launches, false⟩) ∧
      w'.os.2 = [] ∧ w'.os.1 = 0 := by
  obtain ⟨w', hrun⟩ := @exists_succeeds _ (Uefi.ofCount 8).functions (fun _ => firmwareCall)
    (Uefi.ofCount 8).cpu (fun _ => True) 8 ⟨(0, []), .fresh, []⟩ _ (by decide) rfl trivial rfl
    (fun i hi => Uefi.callSucceeds_ofCount hi)
    (fun i hi _ _ ho => launch_firmware (hi.trans (by decide)) ho)
  obtain ⟨hload, hevents, hcpu, -⟩ := uefi_loads (Uefi.documented_ofCount 8) rfl rfl rfl hrun
  exact ⟨w', hrun, hload, hevents, hcpu⟩

end Uefi

end Zpp.OsLoaders
