import ZppHypervisor.Hypervisor.Equiv.Launch
import ZppHypervisor.Loader

/-!
# Per-CPU slots over a load

`available_stack_index` advances on entry and `next_virtual_processor` just before `vmlaunch`, so they
drift apart when a launch fails; but then the loop ends.  Hence the invariant (`RunInv`): the launch
number `j` of a run finds the counters at `j` and `j + 1` and uses the elements with index `j` only.
No launch compares its index with `max_cpus`, so the elements lie in the arrays exactly as long as the
entry point is called for no CPU number from `max_cpus` on (`zppLoadElf_privateSlots_iff`).
-/

namespace Zpp.Loader

open Hypervisor X64 Loop

/-- Every launch has per-CPU elements of its own, or is refused. -/
structure PrivateSlots (launches : List Launch) : Prop where
  /-- A launch that proceeds uses an element of every array and one VPID. -/
  proceeds : ∀ l ∈ launches, l.result = some 0 →
    (∀ array, ∃ index, (array, index) ∈ l.slots) ∧ ∃ vpid, l.vpids = [vpid]
  /-- The elements used lie inside their arrays of `max_cpus` elements. -/
  inBounds : ∀ l ∈ launches, ∀ u ∈ l.slots, u.2.toNat < maxCpus
  /-- A launch uses the same index in all arrays. -/
  sameIndex : ∀ l ∈ launches, ∀ u ∈ l.slots, ∀ u' ∈ l.slots, u.2 = u'.2
  /-- No other launch uses the elements of a launch. -/
  slots_disjoint : launches.Pairwise fun l l' => l.slots.Disjoint l'.slots
  vpid_ne_zero : ∀ l ∈ launches, 0#16 ∉ l.vpids
  vpids_disjoint : launches.Pairwise fun l l' => l.vpids.Disjoint l'.vpids
  /-- A launch for which no element is left returns an error. -/
  refused : ∀ l ∈ launches, maxCpus ≤ l.before.availableStackIndex.toNat →
    ∃ code ≠ 0, l.result = some code

/-- Only the first CPU has the number zero. -/
theorem maxCpus_le : maxCpus ≤ 2 ^ 64 := by decide

theorem cpuid_ne_zero {i : ℕ} (hpos : 0 < i) (hi : i < 2 ^ 64) : BitVec.ofNat 64 i ≠ 0#64 := by
  intro h0
  have hnum := congrArg BitVec.toNat h0
  rw [BitVec.toNat_ofNat, BitVec.toNat_ofNat] at hnum
  omega

/-- The launch uses the elements with index `j` and the VPID `j + 1`. -/
structure Launch.OnSlot (j : ℕ) (l : Launch) : Prop where
  before : l.before.availableStackIndex = BitVec.ofNat 64 j
  stack : (CpuArray.stack, BitVec.ofNat 64 j) ∈ l.slots
  index : ∀ u ∈ l.slots, u.2 = BitVec.ofNat 64 j
  vpid : ∀ v ∈ l.vpids, v = BitVec.ofNat 16 (j + 1)
  proceeds : l.result = some 0 →
    (∀ array, (array, BitVec.ofNat 64 j) ∈ l.slots) ∧ l.vpids = [BitVec.ofNat 16 (j + 1)]

variable {physicalToVirtual : Option (Word → Word)} {calls : ℕ → CpuCall}

/-! ### One launch -/

/-- The counters of an object on which `j` launches have succeeded. -/
structure Counts (j : ℕ) (o : Object) : Prop where
  availableStackIndex : o.availableStackIndex = BitVec.ofNat 64 j
  nextVirtualProcessor : o.nextVirtualProcessor = BitVec.ofNat 64 (j + 1)

theorem Error.code_ne_zero (e : Error) : e.code ≠ 0 := by cases e <;> decide

theorem Counts.sub_one {j : ℕ} {o : Object} (ho : Counts j o) :
    o.nextVirtualProcessor - 1#64 = BitVec.ofNat 64 j := by
  rw [ho.nextVirtualProcessor, BitVec.ofNat_add, BitVec.add_sub_cancel]

/-- The machine on which `launch_on_cpu` runs `main`. -/
def entered (call : CpuCall) (o : Object) : Machine where
  object := { o with availableStackIndex := o.availableStackIndex + 1#64 }
  cpu := call.cpu
  trace := []
  slots := [(.stack, o.availableStackIndex)]
  vpids := []

theorem launchOnCpu_eq (call : CpuCall) (cpuid : Word) (o : Object) :
    launchOnCpu call.platform cpuid physicalToVirtual ⟨o, call.cpu, [], [], []⟩ =
      runMain call.platform cpuid physicalToVirtual (entered call o) := rfl

/-- What a run of `main` uses on top of the stack. -/
theorem slots_of_uses {j : ℕ} {call : CpuCall} {o : Object} {m' : Machine} {arrays : List CpuArray}
    (ho : Counts j o) (h : Uses (entered call o) m' arrays) :
    m'.slots = (.stack :: arrays).map fun a => (a, BitVec.ofNat 64 j) := by
  have hslots := h.slots
  have hindex : (entered call o).object.nextVirtualProcessor - 1#64 = BitVec.ofNat 64 j := ho.sub_one
  rw [hindex, show (entered call o).slots = [(.stack, o.availableStackIndex)] from rfl,
    ho.availableStackIndex] at hslots
  exact hslots

/-- A launch that does not proceed. -/
theorem onSlot_of_uses {j : ℕ} {call : CpuCall} {o : Object} {m' : Machine}
    {arrays : List CpuArray} {result : Option ℕ} (ho : Counts j o)
    (h : Uses (entered call o) m' arrays) (hvpids : m'.vpids = []) (hresult : result ≠ some 0) :
    Launch.OnSlot j ⟨o, result, m'.slots, m'.vpids⟩ where
  before := ho.availableStackIndex
  stack := by
    rw [slots_of_uses ho h]
    exact List.mem_cons_self
  index u hu := by
    rw [slots_of_uses ho h, List.mem_map] at hu
    obtain ⟨a, -, rfl⟩ := hu
    rfl
  vpid v hv := by
    rw [hvpids] at hv
    exact absurd hv List.not_mem_nil
  proceeds h0 := absurd h0 hresult

/-- A launch that proceeds. -/
theorem onSlot_of_launched {j : ℕ} {call : CpuCall} {o : Object} {m' : Machine} (ho : Counts j o)
    (h : Launched (entered call o) m') : Launch.OnSlot j ⟨o, some 0, m'.slots, m'.vpids⟩ := by
  have hslots := slots_of_uses ho h.uses
  have hvpids : m'.vpids = [BitVec.ofNat 16 (j + 1)] := by
    have hnext : (entered call o).object.nextVirtualProcessor = BitVec.ofNat 64 (j + 1) :=
      ho.nextVirtualProcessor
    rw [h.vpids, hnext, BitVec.setWidth_ofNat_of_le (by decide)]
    rfl
  refine ⟨ho.availableStackIndex, ?_, fun u hu => ?_, fun v hv => ?_, fun _ => ⟨fun array => ?_, hvpids⟩⟩
  · rw [hslots]
    exact List.mem_cons_self
  · rw [hslots, List.mem_map] at hu
    obtain ⟨a, -, rfl⟩ := hu
    rfl
  · rw [hvpids, List.mem_singleton] at hv
    exact hv
  · rw [hslots, List.mem_map]
    exact ⟨array, by cases array <;> decide, rfl⟩

/-- A launch uses the elements of the counters, and advances both if it proceeds. -/
theorem launch_onSlot (physicalToVirtual : Option (Word → Word)) {j : ℕ} {o : Object}
    (ho : Counts j o) (call : CpuCall) (cpuid : Word) :
    (launch physicalToVirtual call cpuid o).1.OnSlot j ∧
      ((launch physicalToVirtual call cpuid o).1.result = some 0 →
        Counts (j + 1) (launch physicalToVirtual call cpuid o).2) := by
  have h := runMain_spec call.platform cpuid physicalToVirtual (m := entered call o) call.outsideVmx
  unfold launch
  dsimp only
  rw [launchOnCpu_eq]
  cases hrun : runMain call.platform cpuid physicalToVirtual (entered call o) with
  | launched m' =>
    rw [hrun] at h
    refine ⟨onSlot_of_launched ho h, fun _ => ⟨?_, ?_⟩⟩
    · rw [h.uses.availableStackIndex, BitVec.ofNat_add, ← ho.availableStackIndex]
      rfl
    · rw [h.nextVirtualProcessor, BitVec.ofNat_add (j + 1), ← ho.nextVirtualProcessor]
      rfl
  | failed e m' =>
    rw [hrun] at h
    obtain ⟨arrays, huses⟩ := h.uses
    have hcode : (some e.code : Option ℕ) ≠ some 0 := fun hcode =>
      Error.code_ne_zero e (Option.some.inj hcode)
    exact ⟨onSlot_of_uses ho huses h.vpids hcode, fun h0 => absurd h0 hcode⟩
  | undefined m' =>
    rw [hrun] at h
    obtain ⟨arrays, huses⟩ := h.uses
    exact ⟨onSlot_of_uses ho huses h.vpids (Option.some_ne_none 0).symm,
      fun h0 => absurd h0.symm (Option.some_ne_none 0)⟩

/-! ### The run -/

/-- After `k` iterations: launch `j` uses the elements with index `j`, and unless the loop has ended
there were `k` launches, all of which proceeded. -/
structure RunInv (k : ℕ) (r : Run) : Prop where
  onSlot : ∀ (j : ℕ) (l : Launch), r.launches[j]? = some l → l.OnSlot j
  length_le : r.launches.length ≤ k
  running : r.failed = false → r.launches.length = k ∧ Counts k r.object

theorem runInv_start : RunInv 0 ⟨.fresh, [], false⟩ where
  onSlot j l h := by
    rw [List.getElem?_nil] at h
    cases h
  length_le := le_rfl
  running _ := ⟨rfl, rfl, rfl⟩

/-- An iteration that calls the entry point. -/
theorem launches_of_enters {i : ℕ} {r : Run} (h : r.failed = false)
    (hcall : (calls i).failsBefore = false) :
    (loadStep physicalToVirtual calls i r).launches =
      r.launches ++ [(launch physicalToVirtual (calls i) (BitVec.ofNat 64 i) r.object).1] := by
  rw [loadStep, h, hcall]
  rfl

theorem runInv_step {i : ℕ} {r : Run} (h : RunInv i r) :
    RunInv (i + 1) (loadStep physicalToVirtual calls i r) := by
  unfold loadStep
  split_ifs with hfailed hcall
  · refine ⟨h.onSlot, h.length_le.trans i.le_succ, fun hr => ?_⟩
    rw [hfailed] at hr
    cases hr
  · exact ⟨h.onSlot, h.length_le.trans i.le_succ, fun hr => by cases hr⟩
  · obtain ⟨hlength, hcounts⟩ := h.running (Bool.eq_false_of_not_eq_true hfailed)
    obtain ⟨hslot, hnext⟩ :=
      launch_onSlot physicalToVirtual hcounts (calls i) (BitVec.ofNat 64 i)
    refine ⟨fun j l hl => ?_, ?_, fun hr => ⟨?_, hnext ?_⟩⟩
    · rcases Nat.lt_trichotomy j r.launches.length with hj | rfl | hj
      · rw [List.getElem?_append_left hj] at hl
        exact h.onSlot j l hl
      · rw [List.getElem?_concat_length] at hl
        obtain rfl := Option.some.inj hl
        rwa [hlength]
      · rw [List.getElem?_eq_none (by rw [List.length_append]; exact hj)] at hl
        cases hl
    · rw [List.length_append, hlength]
      rfl
    · rw [List.length_append, hlength]
      rfl
    · simpa using (Bool.or_eq_false_iff.mp hr).1

/-- The invariant holds after every iteration. -/
theorem runInv_loadCpus (physicalToVirtual : Option (Word → Word)) (calls : ℕ → CpuCall) (k : ℕ) :
    RunInv k (loadCpus physicalToVirtual calls k) :=
  forRange_invariant runInv_start fun _ _ _ h => runInv_step h

theorem loadCpus_succ (k : ℕ) : loadCpus physicalToVirtual calls (k + 1) =
    loadStep physicalToVirtual calls k (loadCpus physicalToVirtual calls k) := rfl

/-- The loop calls the entry point for CPU `i`. -/
def Enters (physicalToVirtual : Option (Word → Word)) (calls : ℕ → CpuCall) (i : ℕ) : Prop :=
  (loadCpus physicalToVirtual calls i).failed = false ∧ (calls i).failsBefore = false

theorem enters_of_running {k : ℕ} (h : (loadCpus physicalToVirtual calls (k + 1)).failed = false) :
    Enters physicalToVirtual calls k := by
  rw [loadCpus_succ, loadStep] at h
  split_ifs at h with hfailed hcall
  · rw [hfailed] at h
    cases h
  · exact ⟨Bool.eq_false_of_not_eq_true hfailed, Bool.eq_false_of_not_eq_true hcall⟩

/-- If the loop reaches a CPU, it has entered those before. -/
theorem Enters.mono {i k : ℕ} (h : Enters physicalToVirtual calls i) (hk : k ≤ i) :
    Enters physicalToVirtual calls k := by
  induction i, hk using Nat.le_induction with
  | base => exact h
  | succ i _ ih => exact ih (enters_of_running h.1)

/-- Launches are only added. -/
theorem launches_mono {k n : ℕ} (hk : k ≤ n) :
    (loadCpus physicalToVirtual calls k).launches <+:
      (loadCpus physicalToVirtual calls n).launches := by
  induction n, hk using Nat.le_induction with
  | base => exact List.prefix_rfl
  | succ n _ ih =>
    refine ih.trans ?_
    rw [loadCpus_succ, loadStep]
    split_ifs
    · exact List.prefix_rfl
    · exact List.prefix_rfl
    · exact List.prefix_append _ _

/-- The launch of a CPU that the loop enters. -/
theorem Enters.exists_launch {i n : ℕ} (h : Enters physicalToVirtual calls i) (hi : i < n) :
    ∃ l ∈ (loadCpus physicalToVirtual calls n).launches, l.OnSlot i := by
  have hinv := runInv_loadCpus physicalToVirtual calls i
  obtain ⟨-, hcounts⟩ := hinv.running h.1
  refine ⟨_, (launches_mono hi).subset ?_,
    (launch_onSlot physicalToVirtual hcounts (calls i) (BitVec.ofNat 64 i)).1⟩
  rw [loadCpus_succ, launches_of_enters h.1 h.2]
  exact List.mem_append_right _ (List.mem_singleton_self _)

/-- A loop that enters no CPU from `max_cpus` on makes at most `max_cpus` launches. -/
theorem length_launches_le {n : ℕ}
    (h : ∀ i < n, Enters physicalToVirtual calls i → i < maxCpus) :
    (loadCpus physicalToVirtual calls n).launches.length ≤ maxCpus := by
  induction n with
  | zero => exact Nat.zero_le _
  | succ n ih =>
    have hn := ih fun i hi => h i (hi.trans n.lt_succ_self)
    have hlength := (runInv_loadCpus physicalToVirtual calls n).length_le
    by_cases henters : Enters physicalToVirtual calls n
    · have hlt := h n n.lt_succ_self henters
      rw [loadCpus_succ, launches_of_enters henters.1 henters.2, List.length_append,
        List.length_singleton]
      omega
    · rw [loadCpus_succ, loadStep]
      split_ifs with hfailed hcall
      · exact hn
      · exact hn
      · exact absurd ⟨Bool.eq_false_of_not_eq_true hfailed, Bool.eq_false_of_not_eq_true hcall⟩
          henters

/-! ### Private slots -/

/-- At most `max_cpus` launches, each on the elements of its number. -/
theorem privateSlots_of_onSlot {launches : List Launch}
    (h : ∀ (j : ℕ) (l : Launch), launches[j]? = some l → l.OnSlot j)
    (hlength : launches.length ≤ maxCpus) : PrivateSlots launches := by
  have hmem : ∀ l ∈ launches, ∃ j < maxCpus, l.OnSlot j := by
    intro l hl
    obtain ⟨j, hj⟩ := List.mem_iff_getElem?.mp hl
    obtain ⟨hlt, -⟩ := List.getElem?_eq_some_iff.mp hj
    exact ⟨j, hlt.trans_le hlength, h j l hj⟩
  have hindex : ∀ j < maxCpus, (BitVec.ofNat 64 j).toNat = j := fun j hj =>
    Nat.mod_eq_of_lt (hj.trans (by decide))
  have hvpid : ∀ j < maxCpus, (BitVec.ofNat 16 (j + 1)).toNat = j + 1 := fun j hj =>
    Nat.mod_eq_of_lt ((Nat.succ_lt_succ hj).trans (by decide))
  have hpair : launches.Pairwise fun l l' =>
      ∃ j < maxCpus, ∃ j' < maxCpus, j ≠ j' ∧ l.OnSlot j ∧ l'.OnSlot j' := by
    rw [List.pairwise_iff_getElem]
    intro j j' hj hj' hlt
    exact ⟨j, hj.trans_le hlength, j', hj'.trans_le hlength, hlt.ne,
      h j _ (List.getElem?_eq_getElem hj), h j' _ (List.getElem?_eq_getElem hj')⟩
  refine ⟨fun l hl h0 => ?_, fun l hl u hu => ?_, fun l hl u hu u' hu' => ?_, hpair.imp ?_,
    fun l hl h0 => ?_, hpair.imp ?_, fun l hl hfull => ?_⟩
  · obtain ⟨j, -, hslot⟩ := hmem l hl
    obtain ⟨harrays, hvpids⟩ := hslot.proceeds h0
    exact ⟨fun array => ⟨_, harrays array⟩, _, hvpids⟩
  · obtain ⟨j, hj, hslot⟩ := hmem l hl
    rwa [hslot.index u hu, hindex j hj]
  · obtain ⟨j, -, hslot⟩ := hmem l hl
    rw [hslot.index u hu, hslot.index u' hu']
  · rintro l l' ⟨j, hj, j', hj', hne, hslot, hslot'⟩ u hu hu'
    have heq := congrArg BitVec.toNat ((hslot.index u hu).symm.trans (hslot'.index u hu'))
    rw [hindex j hj, hindex j' hj'] at heq
    exact hne heq
  · obtain ⟨j, hj, hslot⟩ := hmem l hl
    have heq := congrArg BitVec.toNat (hslot.vpid _ h0)
    rw [hvpid j hj] at heq
    exact absurd heq.symm j.succ_ne_zero
  · rintro l l' ⟨j, hj, j', hj', hne, hslot, hslot'⟩ v hv hv'
    have heq := congrArg BitVec.toNat ((hslot.vpid v hv).symm.trans (hslot'.vpid v hv'))
    rw [hvpid j hj, hvpid j' hj'] at heq
    exact hne (Nat.succ.inj heq)
  · obtain ⟨j, hj, hslot⟩ := hmem l hl
    rw [hslot.before, hindex j hj] at hfull
    exact absurd hfull (not_le.mpr hj)

/-- A launch on the CPU `max_cpus` uses a stack outside the array. -/
theorem not_privateSlots_of_enters {n : ℕ} (h : Enters physicalToVirtual calls maxCpus)
    (hn : maxCpus < n) : ¬ PrivateSlots (loadCpus physicalToVirtual calls n).launches := by
  intro hprivate
  obtain ⟨l, hl, hslot⟩ := h.exists_launch hn
  exact absurd (hprivate.inBounds l hl _ hslot.stack) (by decide)

theorem launches_zppLoadElf (n : ℕ) : (zppLoadElf physicalToVirtual calls n).launches =
    (loadCpus physicalToVirtual calls n).launches := by
  rw [zppLoadElf]
  split_ifs with h
  · rw [h]
    rfl
  · rfl

/-- **Private per-CPU slots.**  The launches of a load have private slots if and only if the entry
point is called for no CPU number from `max_cpus` on. -/
theorem zppLoadElf_privateSlots_iff (physicalToVirtual : Option (Word → Word))
    (calls : ℕ → CpuCall) (cpus : ℕ) :
    PrivateSlots (zppLoadElf physicalToVirtual calls cpus).launches ↔
      ∀ i < cpus, Enters physicalToVirtual calls i → i < maxCpus := by
  rw [launches_zppLoadElf]
  constructor
  · intro h i hi henters
    by_contra hge
    have hle := not_lt.mp hge
    exact not_privateSlots_of_enters (henters.mono hle) (hle.trans_lt hi) h
  · intro h
    exact privateSlots_of_onSlot (runInv_loadCpus physicalToVirtual calls cpus).onSlot
      (length_launches_le h)

/-! ### Seventeen CPUs -/

/-- A CPU of the firmware platform. -/
def firmwareCall : CpuCall where
  failsBefore := false
  failsAfter := false
  cpu := ⟨0x80010033#64, 0x1000#64, 0x6f8#64, ⟨0x8000#64, 0x7f#16⟩, 0x40#16, true, false⟩
  outsideVmx := rfl
  platform := firmware

/-- A launch on the firmware platform proceeds: the first one on the fresh object, another one on any. -/
theorem launch_firmware {i : ℕ} (hi : i < maxCpus) {o : Object} (ho : i = 0 → o = .fresh) :
    (launch none firmwareCall (BitVec.ofNat 64 i) o).1.result = some 0 := by
  have hrun : ∃ m', runMain firmware (BitVec.ofNat 64 i) none (entered firmwareCall o) =
      .launched m' := by
    rcases Nat.eq_zero_or_pos i with rfl | hpos
    · rw [ho rfl]
      exact runMain_launches_first noCarry_firmware moduleFits_firmware rfl rfl rfl
    · exact runMain_launches noCarry_firmware (cpuid_ne_zero hpos (hi.trans (by decide))) none _
  obtain ⟨m', hrun⟩ := hrun
  unfold launch
  dsimp only
  rw [launchOnCpu_eq, show firmwareCall.platform = firmware from rfl, hrun]

theorem running_firmware {k : ℕ} (hk : k ≤ maxCpus) :
    (loadCpus none (fun _ => firmwareCall) k).failed = false := by
  induction k with
  | zero => rfl
  | succ k ih =>
    have hresult := launch_firmware hk (o := (loadCpus none (fun _ => firmwareCall) k).object)
      fun h0 => by rw [h0]; rfl
    have hbefore : firmwareCall.failsBefore = false := rfl
    have hafter : firmwareCall.failsAfter = false := rfl
    rw [loadCpus_succ, loadStep, ih (k.le_succ.trans hk)]
    simp only [Bool.false_eq_true, if_false, hbefore, hafter, hresult, ne_eq, not_true_eq_false,
      decide_false, Bool.or_false]

theorem zppLoadElf_seventeen :
    ¬ PrivateSlots (zppLoadElf none (fun _ => firmwareCall) 17).launches := by
  rw [launches_zppLoadElf]
  exact not_privateSlots_of_enters ⟨running_firmware le_rfl, rfl⟩ (by decide)

end Zpp.Loader
