import ZppHypervisor.Equiv.Loader
import ZppHypervisor.Hypervisor.Equiv.EptConfigured

/-!
# The tables while the hypervisor is loaded

Whatever happens to the launches of a load, once the first has come to `vmlaunch` the tables are those
that it built, and the root that every launch gives its processor is theirs (`tablesInv_loadCpus`).
So on as many CPUs as the object has room for, all guests have one view of physical memory
(`zppLoadElf_isolates`), and no access of a guest ends in an EPT misconfiguration
(`zppLoadElf_configures`).
-/

namespace Zpp.Loader

open Hypervisor X64 X64.Intel Loop

variable {physicalToVirtual : Option (Word → Word)} {calls : ℕ → CpuCall}

/-! ### One launch -/

theorem launch_object (call : CpuCall) (cpuid : Word) (o : Object) :
    (launch physicalToVirtual call cpuid o).2 =
      (runMain call.platform cpuid physicalToVirtual (entered call o)).machine.object := by
  unfold launch
  dsimp only
  rw [launchOnCpu_eq]
  cases runMain call.platform cpuid physicalToVirtual (entered call o) <;> rfl

/-- A launch that proceeds has come to `vmlaunch`. -/
theorem exists_launched {call : CpuCall} {cpuid : Word} {o : Object}
    (h : (launch physicalToVirtual call cpuid o).1.result = some 0) :
    ∃ m', runMain call.platform cpuid physicalToVirtual (entered call o) = .launched m' ∧
      (launch physicalToVirtual call cpuid o).2 = m'.object := by
  unfold launch at h ⊢
  dsimp only at h ⊢
  rw [launchOnCpu_eq] at h ⊢
  cases hrun : runMain call.platform cpuid physicalToVirtual (entered call o) with
  | launched m' => exact ⟨m', rfl, rfl⟩
  | failed e m' =>
    rw [hrun] at h
    exact absurd (Option.some.inj h) (Error.code_ne_zero e)
  | undefined m' =>
    rw [hrun] at h
    cases h

/-- A launch on any CPU but the first leaves the tables. -/
theorem launch_keepsTables {T : Tables} {epml4 : Word} {call : CpuCall} {cpuid : Word}
    (hcpuid : cpuid ≠ 0#64)
    (hroot : T.hostPageTable.virtualToPhysical call.platform.layout.ept.epml4 = epml4) {o : Object}
    (ho : HasTables T epml4 o) : HasTables T epml4 (launch physicalToVirtual call cpuid o).2 := by
  rw [launch_object]
  exact runMain_keepsTables hcpuid physicalToVirtual hroot ho

/-! ### The run -/

/-- After some iterations: nothing has happened to the object before the first launch, and if a launch
has proceeded the object has the property. -/
structure ObjectInv (P : Object → Prop) (r : Run) : Prop where
  fresh : r.launches = [] → r.object = .fresh
  running : r.failed = false → ∀ l ∈ r.launches, l.result = some 0
  holds : (∃ l ∈ r.launches, l.result = some 0) → P r.object

section ObjectInv

variable {P : Object → Prop}
  (hfirst : (launch physicalToVirtual (calls 0) 0#64 .fresh).1.result = some 0 →
    P (launch physicalToVirtual (calls 0) 0#64 .fresh).2)
  (hnext : ∀ i o, BitVec.ofNat 64 i ≠ 0#64 → P o →
    P (launch physicalToVirtual (calls i) (BitVec.ofNat 64 i) o).2)

include hfirst hnext

/-- The first launch gives the object the property if it proceeds, and no other launch takes it. -/
theorem ObjectInv.step {i : ℕ} (hi : i < 2 ^ 64) {r : Run} (hr : RunInv i r) (h : ObjectInv P r) :
    ObjectInv P (loadStep physicalToVirtual calls i r) := by
  unfold loadStep
  split_ifs with hfailed hcall
  · exact h
  · exact ⟨h.fresh, nofun, h.holds⟩
  · have hrunning := Bool.eq_false_of_not_eq_true hfailed
    refine ⟨fun hnil => ?_, fun hr' l hl => ?_, fun hex => ?_⟩
    · exact absurd hnil (List.append_ne_nil_of_right_ne_nil _ (List.cons_ne_nil _ _))
    · rcases List.mem_append.mp hl with hl | hl
      · exact h.running hrunning l hl
      · rw [List.mem_singleton] at hl
        subst hl
        simpa using (Bool.or_eq_false_iff.mp hr').1
    · dsimp only at hex ⊢
      obtain ⟨hlength, -⟩ := hr.running hrunning
      rcases Nat.eq_zero_or_pos i with rfl | hpos
      · -- The first launch has to be the one that proceeded.
        have hnil : r.launches = [] := List.eq_nil_of_length_eq_zero hlength
        rw [hnil, List.nil_append] at hex
        obtain ⟨l, hl, hresult⟩ := hex
        rw [List.mem_singleton] at hl
        subst hl
        rw [h.fresh hnil] at hresult ⊢
        exact hfirst hresult
      · -- All launches before this one have proceeded, so the object has the property.
        obtain ⟨l, hl⟩ := List.exists_mem_of_length_pos (hlength ▸ hpos)
        exact hnext i _ (cpuid_ne_zero hpos hi) (h.holds ⟨l, hl, h.running hrunning l hl⟩)

/-- The invariant holds after every iteration; the number of CPUs is a `size_t`. -/
theorem objectInv_loadCpus {k : ℕ} (hk : k ≤ 2 ^ 64) :
    ObjectInv P (loadCpus physicalToVirtual calls k) := by
  have h : RunInv k (loadCpus physicalToVirtual calls k) ∧
      ObjectInv P (loadCpus physicalToVirtual calls k) := by
    refine forRange_invariant (P := fun k r => RunInv k r ∧ ObjectInv P r) ⟨runInv_start, ?_⟩ ?_
    · exact ⟨fun _ => rfl, fun _ l hl => absurd hl List.not_mem_nil,
        fun ⟨l, hl, _⟩ => absurd hl List.not_mem_nil⟩
    · intro i hi r hr
      exact ⟨runInv_step hr.1, hr.2.step hfirst hnext (hi.trans_le hk) hr.1⟩
  exact h.2

end ObjectInv

section Run

variable {layout : Layout} {m : Module} {os : Word → Word}

/-- The tables are guarded, and the processors have their root. -/
def TablesGuarded (layout : Layout) (m : Module) (os : Word → Word) (first : CpuCall) (o : Object) :
    Prop :=
  Guarded layout m os first.cpu.cr3 first.platform.mtrrs o.tables ∧
    o.epml4Physical = os layout.ept.epml4

variable (hlayout : ∀ i, (calls i).platform.layout = layout)
  (hplaced : ModulePlaced (calls 0).platform m os)
  (hos : (OsPageTable.ofCr3 (calls 0).cpu.cr3 physicalToVirtual).virtualToPhysical
    (calls 0).platform.memory = os)

include hlayout hplaced in
theorem agrees_of_guarded {T : Tables} {guestCr3 : Word} {mtrrs : Vector Mtrr 8}
    (h : Guarded layout m os guestCr3 mtrrs T) {a : Word} (ha : m.Contains a) :
    T.hostPageTable.virtualToPhysical a = os a := by
  rw [← hlayout 0] at h
  exact h.agrees hplaced ha

include hlayout hplaced in
/-- The table of a guarded module gives the root the frame that the OS gives it. -/
theorem root_of_guarded {T : Tables} {guestCr3 : Word} {mtrrs : Vector Mtrr 8}
    (h : Guarded layout m os guestCr3 mtrrs T) :
    T.hostPageTable.virtualToPhysical layout.ept.epml4 = os layout.ept.epml4 := by
  have htables := hplaced.tables
  rw [hlayout] at htables
  have hpage : m.HasPage (layout.ept.epml4 + BitVec.ofNat 64 0 * 0x1000#64) :=
    htables.hasPage (by decide) (by decide)
  rw [BitVec.zero_mul, BitVec.add_zero] at hpage
  exact agrees_of_guarded hlayout hplaced h hpage.2

theorem tables_entered (call : CpuCall) :
    (entered call .fresh).object.tables = Object.fresh.tables := rfl

include hlayout hplaced hos in
/-- The first launch. -/
theorem guarded_of_first (h : (launch physicalToVirtual (calls 0) 0#64 .fresh).1.result = some 0) :
    Guarded layout m os (calls 0).cpu.cr3 (calls 0).platform.mtrrs
        (launch physicalToVirtual (calls 0) 0#64 .fresh).2.tables ∧
      (launch physicalToVirtual (calls 0) 0#64 .fresh).2.epml4Physical = os layout.ept.epml4 := by
  obtain ⟨m', hrun, hobject⟩ := exists_launched h
  obtain ⟨hguarded, hpages⟩ := runMain_guards hplaced (tables_entered (calls 0)) hos hrun
  rw [hlayout] at hguarded hpages
  rw [hobject]
  refine ⟨hguarded, hpages.epml4.trans ?_⟩
  exact root_of_guarded hlayout hplaced hguarded

include hlayout hplaced hos in
/-- After every iteration the tables are those of the first launch. -/
theorem tablesInv_loadCpus {k : ℕ} (hk : k ≤ 2 ^ 64) :
    ObjectInv (TablesGuarded layout m os (calls 0)) (loadCpus physicalToVirtual calls k) := by
  refine objectInv_loadCpus (guarded_of_first hlayout hplaced hos) (fun i o hcpuid ho => ?_) hk
  obtain ⟨hguarded, hepml4⟩ := ho
  have hroot : o.tables.hostPageTable.virtualToPhysical (calls i).platform.layout.ept.epml4 =
      os layout.ept.epml4 := by
    rw [hlayout]
    exact root_of_guarded hlayout hplaced hguarded
  obtain ⟨htables, hepml4'⟩ := @launch_keepsTables physicalToVirtual _ _ (calls i) _ hcpuid hroot
    o ⟨rfl, hepml4⟩
  rw [TablesGuarded, htables]
  exact ⟨hguarded, hepml4'⟩

end Run

theorem object_zppLoadElf (n : ℕ) : (zppLoadElf physicalToVirtual calls n).object =
    (loadCpus physicalToVirtual calls n).object := by
  rw [zppLoadElf]
  split_ifs with h
  · rw [h]
    rfl
  · rfl

/-- **Loading isolates.**  If any launch of a load has come to `vmlaunch`, then after the load, however
it ended, the tables keep every guest from the protected frames of the module and from all addresses
from 512 GiB on, and translate every other address to itself; and the root given to the processors is
that of these tables. -/
theorem zppLoadElf_isolates {layout : Layout} {m : Module} {os : Word → Word}
    (hlayout : ∀ i, (calls i).platform.layout = layout)
    (hplaced : ModulePlaced (calls 0).platform m os)
    (hos : (OsPageTable.ofCr3 (calls 0).cpu.cr3 physicalToVirtual).virtualToPhysical
      (calls 0).platform.memory = os) {cpus : ℕ} (hcpus : cpus ≤ maxCpus)
    (hlaunched : ∃ l ∈ (zppLoadElf physicalToVirtual calls cpus).launches, l.result = some 0)
    {phys : ByteMemory 64}
    (hphys : EptInMemory phys os layout.ept (zppLoadElf physicalToVirtual calls cpus).object.ept) :
    Isolates phys (zppLoadElf physicalToVirtual calls cpus).object.epml4Physical m layout.ept os
      (initialType (calls 0).platform.mtrrs) := by
  rw [launches_zppLoadElf] at hlaunched
  rw [object_zppLoadElf] at hphys ⊢
  obtain ⟨hguarded, hepml4⟩ :=
    (tablesInv_loadCpus hlayout hplaced hos (hcpus.trans maxCpus_le)).holds hlaunched
  have htables := hplaced.tables
  have hunprotected := hplaced.unprotectedMemory
  rw [hlayout] at htables hunprotected
  rw [hepml4]
  exact hguarded.isolates hplaced.frameMap htables hunprotected hphys

/-- One CPU with firmware. -/
theorem launched_firmware :
    ∃ l ∈ (zppLoadElf none (fun _ => firmwareCall) 1).launches, l.result = some 0 := by
  have hresult := launch_firmware (i := 0) (by decide)
    (o := (loadCpus none (fun _ => firmwareCall) 0).object) fun _ => rfl
  rw [launches_zppLoadElf, loadCpus_succ, launches_of_enters rfl rfl]
  exact ⟨_, List.mem_append_right _ (List.mem_singleton_self _), hresult⟩

theorem zppLoadElf_isolates_firmware :
    ∃ phys, Isolates phys (zppLoadElf none (fun _ => firmwareCall) 1).object.epml4Physical
      launchModule firmware.layout.ept id (initialType firmware.mtrrs) := by
  obtain ⟨phys, hphys⟩ := exists_eptInMemory moduleFits_firmware.frameMap moduleFits_firmware.tables
    (zppLoadElf none (fun _ => firmwareCall) 1).object.ept
  exact ⟨phys, zppLoadElf_isolates (fun _ => rfl) moduleFits_firmware.placed rfl (by decide)
    launched_firmware hphys⟩

/-- **Loading configures the tables.**  If any launch of a load has come to `vmlaunch`, then after the
load, however it ended, no address that the processor can have is translated through an entry that is
misconfigured: an access of a guest ends in a translation or in an EPT violation. -/
theorem zppLoadElf_configures {layout : Layout} {m : Module} {os : Word → Word}
    (hlayout : ∀ i, (calls i).platform.layout = layout)
    (hplaced : ModulePlaced (calls 0).platform m os)
    (hos : (OsPageTable.ofCr3 (calls 0).cpu.cr3 physicalToVirtual).virtualToPhysical
      (calls 0).platform.memory = os) {cpus : ℕ} (hcpus : cpus ≤ maxCpus)
    (hlaunched : ∃ l ∈ (zppLoadElf physicalToVirtual calls cpus).launches, l.result = some 0)
    {phys : ByteMemory 64}
    (hphys : EptInMemory phys os layout.ept (zppLoadElf physicalToVirtual calls cpus).object.ept)
    (harchitectural : ∀ r ∈ (calls 0).platform.mtrrs.toList, r.Architectural) {width : ℕ}
    (hframes : ∀ a, m.HasPage a → (os a).toNat < 2 ^ width) {gpa : Word}
    (hgpa : gpa.toNat < 2 ^ width) :
    ¬ EptMisconfiguration phys (zppLoadElf physicalToVirtual calls cpus).object.epml4Physical gpa
      width := by
  rw [launches_zppLoadElf] at hlaunched
  rw [object_zppLoadElf] at hphys ⊢
  obtain ⟨hguarded, hepml4⟩ :=
    (tablesInv_loadCpus hlayout hplaced hos (hcpus.trans maxCpus_le)).holds hlaunched
  have htables := hplaced.tables
  rw [hlayout] at htables
  rw [hepml4]
  exact hguarded.not_misconfiguration hplaced.frameMap htables hphys harchitectural hframes hgpa

/-- The frame of the hypervisor's own tables. -/
theorem zppLoadElf_configures_firmware :
    ∃ phys, ¬ EptMisconfiguration phys
      (zppLoadElf none (fun _ => firmwareCall) 1).object.epml4Physical firmware.layout.ept.epml4 39 := by
  obtain ⟨phys, hphys⟩ := exists_eptInMemory moduleFits_firmware.frameMap moduleFits_firmware.tables
    (zppLoadElf none (fun _ => firmwareCall) 1).object.ept
  exact ⟨phys, zppLoadElf_configures (fun _ => rfl) moduleFits_firmware.placed rfl (by decide)
    launched_firmware hphys (by decide) (fun a ha => moduleFits_firmware.frameMap.lt a ha) (by decide)⟩

/-! ### The pages of each CPU -/

/-- A launch in the list is that of its CPU. -/
theorem launch_of_getElem? {n k : ℕ} {l : Launch}
    (h : (loadCpus physicalToVirtual calls n).launches[k]? = some l) :
    k < n ∧ Enters physicalToVirtual calls k ∧
      l = (launch physicalToVirtual (calls k) (BitVec.ofNat 64 k)
        (loadCpus physicalToVirtual calls k).object).1 := by
  induction n with
  | zero =>
    rw [loadCpus, forRange_zero, List.getElem?_nil] at h
    cases h
  | succ n ih =>
    by_cases henters : Enters physicalToVirtual calls n
    · have hlength := ((runInv_loadCpus physicalToVirtual calls n).running henters.1).1
      rw [loadCpus_succ, launches_of_enters henters.1 henters.2] at h
      rcases Nat.lt_trichotomy k n with hk | rfl | hk
      · rw [List.getElem?_append_left (hk.trans_eq hlength.symm)] at h
        exact ⟨hk.trans n.lt_succ_self, (ih h).2⟩
      · rw [List.getElem?_append_right hlength.le, hlength, Nat.sub_self] at h
        exact ⟨k.lt_succ_self, henters, (Option.some.inj h).symm⟩
      · rw [List.getElem?_eq_none] at h
        · cases h
        · rw [List.length_append, hlength]
          exact hk
    · rw [loadCpus_succ, loadStep] at h
      split_ifs at h with hfailed hcall
      · exact ⟨(ih h).1.trans n.lt_succ_self, (ih h).2⟩
      · exact ⟨(ih h).1.trans n.lt_succ_self, (ih h).2⟩
      · exact absurd ⟨Bool.eq_false_of_not_eq_true hfailed, Bool.eq_false_of_not_eq_true hcall⟩
          henters

/-- The object after a CPU that the loop enters. -/
theorem Enters.object_succ {k : ℕ} (h : Enters physicalToVirtual calls k) :
    (loadCpus physicalToVirtual calls (k + 1)).object =
      (launch physicalToVirtual (calls k) (BitVec.ofNat 64 k)
        (loadCpus physicalToVirtual calls k).object).2 := by
  rw [loadCpus_succ, loadStep, h.1, h.2]
  rfl

section VmxPages

variable {layout : Layout} {m : Module} {os : Word → Word}

variable (hlayout : ∀ i, (calls i).platform.layout = layout)
  (hplaced : ModulePlaced (calls 0).platform m os)
  (hos : (OsPageTable.ofCr3 (calls 0).cpu.cr3 physicalToVirtual).virtualToPhysical
    (calls 0).platform.memory = os)

/-- The pages of a CPU have the frames that the OS gives them. -/
theorem vmxPages_congr {vtp : Word → Word} {k : ℕ} {o : Object} (hk : k < maxCpus)
    (hobject : ObjectPlaced layout m) (hagrees : ∀ a, m.Contains a → vtp a = os a)
    (h : VmxPages layout vtp (BitVec.ofNat 64 k) o) : VmxPages layout os (BitVec.ofNat 64 k) o := by
  have hmax : maxCpus = 16 := rfl
  have hpage : ∀ {a : Word} {n j : ℕ}, m.Holds a n → n % 0x1000 = 0 → j * 0x1000 < n →
      vtp (a + BitVec.ofNat 64 j * 0x1000#64) = os (a + BitVec.ofNat 64 j * 0x1000#64) :=
    fun ha hn hj => hagrees _ (ha.hasPage hj hn).2
  obtain ⟨hvmx, hvmcs⟩ := vmxAt_eq layout k
  refine ⟨h.vmx.trans ?_, h.vmcs.trans ?_, h.epml4.trans ?_, h.msrBitmap.trans ?_⟩
  · rw [hvmx]
    exact hpage hobject.vmx (by decide) (by omega)
  · rw [hvmcs]
    exact hpage hobject.vmxVmcs (by decide) (by omega)
  · have h0 := hpage (j := 0) hobject.tables (by decide) (by decide)
    rwa [BitVec.zero_mul, BitVec.add_zero] at h0
  · have h0 := hpage (j := 0) hobject.msrBitmap (by decide) (by decide)
    rwa [BitVec.zero_mul, BitVec.add_zero] at h0

theorem entered_nextVirtualProcessor {k : ℕ} {o : Object} (ho : Counts k o) (call : CpuCall) :
    (entered call o).object.nextVirtualProcessor - 1#64 = BitVec.ofNat 64 k := ho.sub_one

include hlayout hplaced hos in
/-- A launch that proceeds, from an object on which the tables are those of the first launch. -/
theorem vmxPages_of_launch (hobject : ObjectPlaced layout m) {k : ℕ} (hk : k < maxCpus) {o : Object}
    (ho : Counts k o) (hfresh : k = 0 → o = .fresh)
    (hguarded : 0 < k → ∃ guestCr3 mtrrs, Guarded layout m os guestCr3 mtrrs o.tables)
    (hresult : (launch physicalToVirtual (calls k) (BitVec.ofNat 64 k) o).1.result = some 0) :
    VmxPages layout os (BitVec.ofNat 64 k)
      (launch physicalToVirtual (calls k) (BitVec.ofNat 64 k) o).2 := by
  obtain ⟨m', hrun, hm'⟩ := exists_launched hresult
  have hindex := entered_nextVirtualProcessor ho (calls k)
  rw [hm']
  rcases Nat.eq_zero_or_pos k with rfl | hpos
  · rw [hfresh rfl] at hrun hindex
    obtain ⟨hguarded, hpages⟩ := runMain_guards hplaced (tables_entered (calls 0)) hos hrun
    rw [hlayout] at hguarded
    rw [hindex, hlayout] at hpages
    exact vmxPages_congr hk hobject (fun a ha => agrees_of_guarded hlayout hplaced hguarded ha) hpages
  · obtain ⟨guestCr3, mtrrs, hguarded⟩ := hguarded hpos
    have hpages := runMain_vmxPages (cpuid_ne_zero hpos (hk.trans (by decide))) hrun
    rw [hindex, hlayout] at hpages
    exact vmxPages_congr hk hobject (fun a ha => agrees_of_guarded hlayout hplaced hguarded ha) hpages

include hlayout hplaced hos in
/-- A launch that proceeds gives its processor the pages of its number. -/
theorem vmxPages_of_enters (hobject : ObjectPlaced layout m) {k : ℕ} (hk : k < maxCpus)
    (henters : Enters physicalToVirtual calls k)
    (hresult : (launch physicalToVirtual (calls k) (BitVec.ofNat 64 k)
      (loadCpus physicalToVirtual calls k).object).1.result = some 0) :
    VmxPages layout os (BitVec.ofNat 64 k) (loadCpus physicalToVirtual calls (k + 1)).object := by
  obtain ⟨hlength, hcounts⟩ := (runInv_loadCpus physicalToVirtual calls k).running henters.1
  have hmax : maxCpus = 16 := rfl
  have hinv := tablesInv_loadCpus hlayout hplaced hos (k := k) (by omega)
  rw [henters.object_succ]
  refine vmxPages_of_launch hlayout hplaced hos hobject hk hcounts (fun h0 => hinv.fresh ?_)
    (fun hpos => ?_) hresult
  · exact List.eq_nil_of_length_eq_zero (hlength.trans h0)
  · obtain ⟨l, hl⟩ := List.exists_mem_of_length_pos (hlength ▸ hpos)
    exact ⟨_, _, (hinv.holds ⟨l, hl, hinv.running henters.1 l hl⟩).1⟩

/-- The pages of CPU `k`. -/
theorem hasPage_vmxAt (hobject : ObjectPlaced layout m) {k : ℕ} (hk : k < maxCpus) :
    m.HasPage (layout.vmxAt (BitVec.ofNat 64 k)) ∧
      m.HasPage (layout.vmxVmcsAt (BitVec.ofNat 64 k)) := by
  have hmax : maxCpus = 16 := rfl
  obtain ⟨hvmx, hvmcs⟩ := vmxAt_eq layout k
  rw [hvmx, hvmcs]
  exact ⟨hobject.vmx.hasPage (by omega) (by decide), hobject.vmxVmcs.hasPage (by omega) (by decide)⟩

/-- CPUs have pages of their own. -/
theorem vmxAt_ne (hframes : FrameMap m (2 ^ 39) os) (hobject : ObjectPlaced layout m) {k k' : ℕ}
    (hk : k < maxCpus) (hk' : k' < maxCpus) (hne : k ≠ k') :
    os (layout.vmxAt (BitVec.ofNat 64 k)) ≠ os (layout.vmxAt (BitVec.ofNat 64 k')) ∧
      os (layout.vmxVmcsAt (BitVec.ofNat 64 k)) ≠ os (layout.vmxVmcsAt (BitVec.ofNat 64 k')) := by
  have hmax : maxCpus = 16 := rfl
  obtain ⟨hpage, hpage'⟩ := hasPage_vmxAt hobject hk
  obtain ⟨hpage₁, hpage₁'⟩ := hasPage_vmxAt hobject hk'
  refine ⟨fun heq => hne ?_, fun heq => hne ?_⟩
  · have h := hframes.injOn hpage hpage₁ heq
    rw [(vmxAt_eq layout k).1, (vmxAt_eq layout k').1] at h
    exact hobject.vmx.page_injOn (by omega) (by omega) h
  · have h := hframes.injOn hpage' hpage₁' heq
    rw [(vmxAt_eq layout k).2, (vmxAt_eq layout k').2] at h
    exact hobject.vmxVmcs.page_injOn (by omega) (by omega) h

/-- What the processor of a launch works with in memory is out of the reach of all guests. -/
structure Hidden (phys : ByteMemory 64) (root : Word) (layout : Layout) (os : Word → Word)
    (o : Object) : Prop where
  epml4 : o.epml4Physical = root
  vmx : OutOfReach phys root o.vmxPhysical
  vmcs : OutOfReach phys root o.vmcsPhysical
  msrBitmap : OutOfReach phys root o.msrBitmapPhysical
  ept : ∀ i, i * 0x1000 < EptLayout.tablesSize →
    OutOfReach phys root (os (layout.ept.epml4 + BitVec.ofNat 64 i * 0x1000#64))
  hostPageTable : ∀ i, i * 0x1000 < PageTable.sizeOf →
    OutOfReach phys root (os (layout.hostPageTable + BitVec.ofNat 64 i * 0x1000#64))

/-- The object with the pages of CPU `k`. -/
theorem hidden_of_vmxPages (hframes : FrameMap m (2 ^ 39) os) (hobject : ObjectPlaced layout m)
    {phys : ByteMemory 64} {type : Region → MemoryType} {k : ℕ} (hk : k < maxCpus) {o : Object}
    (ho : VmxPages layout os (BitVec.ofNat 64 k) o)
    (h : Isolates phys (os layout.ept.epml4) m layout.ept os type) :
    Hidden phys (os layout.ept.epml4) layout os o := by
  have hmax : maxCpus = 16 := rfl
  obtain ⟨hvmx, hvmcs⟩ := vmxAt_eq layout k
  have hhidden : ∀ {a : Word} {n i : ℕ}, m.Holds a n → n % 0x1000 = 0 →
      Apart a n layout.ept.unprotectedMemory unprotectedMemorySize → i * 0x1000 < n →
      OutOfReach phys (os layout.ept.epml4) (os (a + BitVec.ofNat 64 i * 0x1000#64)) :=
    fun ha hn hapart hi => h.outOfReach_range hframes hobject.unprotectedMemory ha hn hapart hi
  constructor
  · exact ho.epml4
  · rw [ho.vmx, hvmx]
    exact hhidden hobject.vmx (by decide) hobject.vmx_apart (by omega)
  · rw [ho.vmcs, hvmcs]
    exact hhidden hobject.vmxVmcs (by decide) hobject.vmxVmcs_apart (by omega)
  · have h0 := hhidden (i := 0) hobject.msrBitmap (by decide) hobject.msrBitmap_apart (by decide)
    rw [BitVec.zero_mul, BitVec.add_zero] at h0
    rw [ho.msrBitmap]
    exact h0
  · exact fun i hi => hhidden hobject.tables (by decide) hobject.tables_apart hi
  · exact fun i hi => hhidden hobject.hostPageTable (by decide) hobject.hostPageTable_apart hi

end VmxPages

/-- **The structures of the processors are hidden.**  After a load, what the processor of any launch
that proceeded was given by physical address, all extended page tables and the host page tables are
out of the reach of every guest, and no two such processors have a VMX region or a VMCS in common. -/
theorem zppLoadElf_hides {layout : Layout} {m : Module} {os : Word → Word}
    (hlayout : ∀ i, (calls i).platform.layout = layout)
    (hplaced : ModulePlaced (calls 0).platform m os) (hobject : ObjectPlaced layout m)
    (hos : (OsPageTable.ofCr3 (calls 0).cpu.cr3 physicalToVirtual).virtualToPhysical
      (calls 0).platform.memory = os) {cpus : ℕ} (hcpus : cpus ≤ maxCpus) {phys : ByteMemory 64}
    (hphys : EptInMemory phys os layout.ept (zppLoadElf physicalToVirtual calls cpus).object.ept)
    {k : ℕ} (hk : k < maxCpus) {l : Launch}
    (hl : (zppLoadElf physicalToVirtual calls cpus).launches[k]? = some l)
    (hresult : l.result = some 0) :
    let o := (loadCpus physicalToVirtual calls (k + 1)).object
    Hidden phys (zppLoadElf physicalToVirtual calls cpus).object.epml4Physical layout os o ∧
      ∀ k' < maxCpus, k' ≠ k → ∀ l', (zppLoadElf physicalToVirtual calls cpus).launches[k']? = some l' →
        l'.result = some 0 →
        let o' := (loadCpus physicalToVirtual calls (k' + 1)).object
        o.vmxPhysical ≠ o'.vmxPhysical ∧ o.vmcsPhysical ≠ o'.vmcsPhysical := by
  intro o
  rw [launches_zppLoadElf] at hl ⊢
  rw [object_zppLoadElf] at hphys ⊢
  have hpages : ∀ k < maxCpus, ∀ l, (loadCpus physicalToVirtual calls cpus).launches[k]? = some l →
      l.result = some 0 → VmxPages layout os (BitVec.ofNat 64 k)
        (loadCpus physicalToVirtual calls (k + 1)).object := by
    intro k hk l hl hresult
    obtain ⟨-, henters, rfl⟩ := launch_of_getElem? hl
    exact vmxPages_of_enters hlayout hplaced hos hobject hk henters hresult
  obtain ⟨hguarded, hepml4⟩ :=
    (tablesInv_loadCpus hlayout hplaced hos (hcpus.trans maxCpus_le)).holds
      ⟨l, List.mem_of_getElem? hl, hresult⟩
  have ho := hpages k hk l hl hresult
  refine ⟨?_, fun k' hk' hne l' hl' hresult' => ?_⟩
  · rw [hepml4]
    exact hidden_of_vmxPages hplaced.frameMap hobject hk ho (hguarded.isolates hplaced.frameMap
      hobject.tables hobject.unprotectedMemory hphys)
  · have ho' := hpages k' hk' l' hl' hresult'
    show _ ≠ (loadCpus physicalToVirtual calls (k' + 1)).object.vmxPhysical ∧
      _ ≠ (loadCpus physicalToVirtual calls (k' + 1)).object.vmcsPhysical
    rw [ho.vmx, ho'.vmx, ho.vmcs, ho'.vmcs]
    exact vmxAt_ne hplaced.frameMap hobject hk hk' hne.symm

theorem objectPlaced_firmware : ObjectPlaced firmware.layout launchModule where
  hostPageTable := ⟨by decide, by decide, by decide⟩
  tables := ⟨by decide, by decide, by decide⟩
  unprotectedMemory := ⟨by decide, by decide, by decide⟩
  vmx := ⟨by decide, by decide, by decide⟩
  vmxVmcs := ⟨by decide, by decide, by decide⟩
  msrBitmap := ⟨by decide, by decide, by decide⟩
  hostPageTable_apart := .inl (by decide)
  tables_apart := .inl (by decide)
  vmx_apart := .inr (by decide)
  vmxVmcs_apart := .inr (by decide)
  msrBitmap_apart := .inr (by decide)

/-- The pages of the second of two CPUs with firmware. -/
theorem zppLoadElf_hides_firmware :
    ∃ phys, Hidden phys (zppLoadElf none (fun _ => firmwareCall) 2).object.epml4Physical
      firmware.layout id (loadCpus none (fun _ => firmwareCall) 2).object := by
  have henters : Enters none (fun _ => firmwareCall) 1 := ⟨running_firmware (by decide), rfl⟩
  have hresult := launch_firmware (i := 1) (by decide)
    (o := (loadCpus none (fun _ => firmwareCall) 1).object) fun h => absurd h (by decide)
  have hlength := ((runInv_loadCpus none (fun _ => firmwareCall) 1).running henters.1).1
  have hl : (zppLoadElf none (fun _ => firmwareCall) 2).launches[1]? = some (launch none firmwareCall
      (BitVec.ofNat 64 1) (loadCpus none (fun _ => firmwareCall) 1).object).1 := by
    rw [launches_zppLoadElf, loadCpus_succ, launches_of_enters henters.1 henters.2,
      List.getElem?_append_right hlength.le, hlength]
    rfl
  obtain ⟨phys, hphys⟩ := exists_eptInMemory moduleFits_firmware.frameMap moduleFits_firmware.tables
    (zppLoadElf none (fun _ => firmwareCall) 2).object.ept
  exact ⟨phys, (zppLoadElf_hides (fun _ => rfl) moduleFits_firmware.placed objectPlaced_firmware rfl
    (by decide) hphys (by decide) hl hresult).1⟩

end Zpp.Loader
