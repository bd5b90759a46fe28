import ZppHypervisor.Equiv.LoaderTables

/-!
# Loads that succeed

Where the module fits its tables and the VMX instructions succeed, a load succeeds on all CPUs exactly
if no call on a CPU fails (`zppLoadElf_succeeds_iff`).
-/

namespace Zpp.Loader

open Hypervisor X64 X64.Intel Loop

variable {physicalToVirtual : Option (Word → Word)} {calls : ℕ → CpuCall}

theorem virtualToPhysical_ofCr3_none (cr3 : Word) (mem : ByteMemory 64) :
    (OsPageTable.ofCr3 cr3 none).virtualToPhysical mem = id := rfl

/-- A launch that comes to `vmlaunch` proceeds. -/
theorem result_of_launched {call : CpuCall} {cpuid : Word} {o : Object} {m' : Machine}
    (h : runMain call.platform cpuid physicalToVirtual (entered call o) = .launched m') :
    (launch physicalToVirtual call cpuid o).1.result = some 0 := by
  unfold launch
  dsimp only
  rw [launchOnCpu_eq, h]

/-- A call on a CPU that does not fail. -/
structure CpuCall.Succeeds (call : CpuCall) : Prop where
  failsBefore : call.failsBefore = false
  failsAfter : call.failsAfter = false

/-- The launch of a CPU that the loop enters is in its place. -/
theorem Enters.getElem?_launches {k n : ℕ} (h : Enters physicalToVirtual calls k) (hk : k < n) :
    (loadCpus physicalToVirtual calls n).launches[k]? =
      some (launch physicalToVirtual (calls k) (BitVec.ofNat 64 k)
        (loadCpus physicalToVirtual calls k).object).1 := by
  obtain ⟨hlength, -⟩ := (runInv_loadCpus physicalToVirtual calls k).running h.1
  have hlast : (loadCpus physicalToVirtual calls (k + 1)).launches[k]? =
      some (launch physicalToVirtual (calls k) (BitVec.ofNat 64 k)
        (loadCpus physicalToVirtual calls k).object).1 := by
    rw [loadCpus_succ, launches_of_enters h.1 h.2, List.getElem?_append_right hlength.le, hlength,
      Nat.sub_self]
    rfl
  obtain ⟨more, hmore⟩ := @launches_mono physicalToVirtual calls _ _ hk
  rw [← hmore, List.getElem?_append_left, hlast]
  exact List.getElem?_eq_some_iff.mp hlast |>.1

section Succeeds

variable {m : Module} {os : Word → Word} (hfit : ModuleFits (calls 0).platform m os)
  (hos : (OsPageTable.ofCr3 (calls 0).cpu.cr3 physicalToVirtual).virtualToPhysical
    (calls 0).platform.memory = os)
  (hcarry : ∀ i, (calls i).platform.NoCarry)

include hfit hos hcarry

/-- The first launch proceeds from the fresh object, and every other from any object. -/
theorem launch_proceeds {i : ℕ} (hi : i < 2 ^ 64) {o : Object} (ho : i = 0 → o = .fresh) :
    (launch physicalToVirtual (calls i) (BitVec.ofNat 64 i) o).1.result = some 0 := by
  rcases Nat.eq_zero_or_pos i with rfl | hpos
  · have htable : (entered (calls 0) .fresh).object.hostPageTable = .empty := rfl
    rw [ho rfl]
    obtain ⟨m', hrun⟩ := runMain_launches_first (hcarry 0) hfit htable rfl hos
    exact result_of_launched hrun
  · obtain ⟨m', hrun⟩ := runMain_launches (hcarry i) (cpuid_ne_zero hpos hi) physicalToVirtual
      (entered (calls i) o)
    exact result_of_launched hrun

/-- CPU `i` launches, whatever happened before. -/
theorem result_loadCpus {i : ℕ} (hi : i < 2 ^ 64) :
    (launch physicalToVirtual (calls i) (BitVec.ofNat 64 i)
      (loadCpus physicalToVirtual calls i).object).1.result = some 0 := by
  refine launch_proceeds hfit hos hcarry hi fun h0 => ?_
  rw [h0]
  rfl

/-- The loop goes on as long as the calls succeed. -/
theorem running_succ_iff {i : ℕ} (hi : i < 2 ^ 64) :
    (loadCpus physicalToVirtual calls (i + 1)).failed = false ↔
      (loadCpus physicalToVirtual calls i).failed = false ∧ (calls i).Succeeds := by
  constructor
  · intro h
    have henters := enters_of_running h
    refine ⟨henters.1, henters.2, ?_⟩
    rw [loadCpus_succ, loadStep, henters.1, henters.2] at h
    exact (Bool.or_eq_false_iff.mp h).2
  · rintro ⟨h, hsucceeds⟩
    have hresult := result_loadCpus hfit hos hcarry hi
    rw [loadCpus_succ, loadStep, h, hsucceeds.failsBefore]
    simp [hresult, hsucceeds.failsAfter]

theorem running_iff {n : ℕ} (hn : n ≤ 2 ^ 64) :
    (loadCpus physicalToVirtual calls n).failed = false ↔ ∀ i < n, (calls i).Succeeds := by
  induction n with
  | zero => exact ⟨fun _ _ hi => absurd hi (Nat.not_lt_zero _), fun _ => rfl⟩
  | succ n ih =>
    rw [running_succ_iff hfit hos hcarry hn, ih (n.le_succ.trans hn), Nat.forall_lt_succ_right]

/-- **A load succeeds on all CPUs.**  Where the module fits its tables and the VMX instructions succeed,
`zpp_load_elf` succeeds exactly if there are CPUs and no call on one fails.  It launches the hypervisor
on exactly the CPUs before the first call that fails, and on that one too if the call fails afterwards;
and every launch comes to `vmlaunch`. -/
theorem zppLoadElf_succeeds_iff {cpus : ℕ} (hcpus : cpus ≤ maxCpus) :
    ((zppLoadElf physicalToVirtual calls cpus).failed = false ↔
        0 < cpus ∧ ∀ i < cpus, (calls i).Succeeds) ∧
      (∀ k < cpus, (∃ l, (zppLoadElf physicalToVirtual calls cpus).launches[k]? = some l) ↔
        (∀ i < k, (calls i).Succeeds) ∧ (calls k).failsBefore = false) ∧
      ∀ l ∈ (zppLoadElf physicalToVirtual calls cpus).launches, l.result = some 0 := by
  have hbound : cpus ≤ 2 ^ 64 := hcpus.trans maxCpus_le
  refine ⟨?_, fun k hk => ⟨?_, ?_⟩, fun l hl => ?_⟩
  · rw [zppLoadElf]
    split_ifs with h0
    · exact ⟨fun h => h.elim, fun h => absurd h.1 (h0 ▸ Nat.lt_irrefl 0)⟩
    · rw [running_iff hfit hos hcarry hbound]
      exact ⟨fun h => ⟨Nat.pos_of_ne_zero h0, h⟩, fun h => h.2⟩
  · rintro ⟨l, hl⟩
    rw [launches_zppLoadElf] at hl
    obtain ⟨-, henters, -⟩ := launch_of_getElem? hl
    exact ⟨(running_iff hfit hos hcarry (hk.le.trans hbound)).mp henters.1, henters.2⟩
  · rintro ⟨hearlier, hbefore⟩
    have henters : Enters physicalToVirtual calls k :=
      ⟨(running_iff hfit hos hcarry (hk.le.trans hbound)).mpr hearlier, hbefore⟩
    rw [launches_zppLoadElf]
    exact ⟨_, henters.getElem?_launches hk⟩
  · rw [launches_zppLoadElf] at hl
    obtain ⟨k, hl⟩ := List.getElem?_of_mem hl
    obtain ⟨hk, -, rfl⟩ := launch_of_getElem? hl
    exact result_loadCpus hfit hos hcarry (hk.trans_le hbound)

end Succeeds

/-- CPUs with firmware, of which the fourth is not called. -/
def fourthFails (i : ℕ) : CpuCall :=
  if i = 3 then { firmwareCall with failsBefore := true } else firmwareCall

theorem noCarry_fourthFails (i : ℕ) : (fourthFails i).platform.NoCarry := by
  unfold fourthFails
  split_ifs
  · exact noCarry_firmware
  · exact noCarry_firmware

theorem succeeds_fourthFails_iff {i : ℕ} : (fourthFails i).Succeeds ↔ i ≠ 3 := by
  unfold fourthFails
  split_ifs with h
  · exact ⟨fun hs => absurd hs.failsBefore Bool.noConfusion, fun hne => absurd h hne⟩
  · exact ⟨fun _ => h, fun _ => ⟨rfl, rfl⟩⟩

theorem zppLoadElf_succeeds_iff_fourthFails :
    (zppLoadElf none fourthFails 8).failed = true ∧
      (∃ l, (zppLoadElf none fourthFails 8).launches[2]? = some l ∧ l.result = some 0) ∧
      (zppLoadElf none fourthFails 8).launches[3]? = none := by
  have hfit : ModuleFits (fourthFails 0).platform launchModule id := moduleFits_firmware
  obtain ⟨hfailed, hlaunches, hresult⟩ := zppLoadElf_succeeds_iff hfit
    (virtualToPhysical_ofCr3_none _ _) noCarry_fourthFails (by decide : 8 ≤ maxCpus)
  refine ⟨Bool.eq_true_of_not_eq_false fun h => ?_, ?_, ?_⟩
  · exact succeeds_fourthFails_iff.mp ((hfailed.mp h).2 3 (by decide)) rfl
  · obtain ⟨l, hl⟩ := (hlaunches 2 (by decide)).mpr
      ⟨fun i hi => succeeds_fourthFails_iff.mpr (by omega), rfl⟩
    exact ⟨l, hl, hresult l (List.mem_of_getElem? hl)⟩
  · refine Option.eq_none_iff_forall_ne_some.mpr fun l hl => ?_
    exact absurd ((hlaunches 3 (by decide)).mp ⟨l, hl⟩).2 Bool.noConfusion

end Zpp.Loader
