import ZppHypervisor.Hypervisor.Equiv.EptReserved
import ZppHypervisor.Hypervisor.Equiv.Launch

/-!
# The tables that a launch leaves

The first launch builds the host page table and the extended page tables, and no other launch changes
them, however it ends (`runMain_keepsTables`).  If the first launch succeeds, the extended page tables
are those that keep the guest from the module (`Guarded`, `runMain_guards`), and every launch gives the
processor their physical address.
-/

namespace Zpp.Hypervisor

open X64 X64.Intel ScopeGuard Block Loop

/-! ### Tables -/

/-- The members that describe the module, and the tables. -/
structure Tables where
  moduleBase : Word
  moduleSize : Word
  hostPageTable : PageTable
  hostCr3 : Word
  modulePhysicalToVirtual : PhysicalToVirtual (maxModuleSize / 0x1000)
  ept : Ept

/-- The tables of an object. -/
def Object.tables (o : Object) : Tables :=
  ⟨o.moduleBase, o.moduleSize, o.hostPageTable, o.hostCr3, o.modulePhysicalToVirtual, o.ept⟩

/-- A machine whose object has a property. -/
def Machine.Has (P : Object → Prop) (m : Machine) : Prop := P m.object

/-- An object with the tables `T` that gives `epml4` as the root of the extended page tables. -/
def HasTables (T : Tables) (epml4 : Word) (o : Object) : Prop :=
  o.tables = T ∧ o.epml4Physical = epml4

section Keeps

variable {ρ : Type} {P : Object → Prop}

theorem exec_keeps (i : Instruction) : (exec i : Block Machine ρ Unit).Keeps (Machine.Has P) :=
  keeps_modify fun _ h => h

theorem use_keeps (array : CpuArray) (index : Word) :
    (use array index : Block Machine ρ Unit).Keeps (Machine.Has P) :=
  keeps_modify fun _ h => h

theorem update_keeps {f : Object → Object} (hf : ∀ o, P o → P (f o)) :
    (update f : Block Machine ρ Unit).Keeps (Machine.Has P) :=
  keeps_modify fun m h => hf m.object h

theorem this_keeps : (this : Block Machine ρ Object).Keeps (Machine.Has P) := keeps_get _

theorem cpu_keeps : (cpu : Block Machine ρ Cpu).Keeps (Machine.Has P) := keeps_get _

theorem construct_keeps {f : Machine → Machine} (hf : ∀ m, (f m).object = m.object) :
    (Block.construct f : Block Machine ρ ℕ).Keeps (Machine.Has P) :=
  keeps_construct fun m h => show P (f m).object from (hf m).symm ▸ h

theorem constructExec_keeps (i : Machine → Instruction) :
    (Block.construct fun m => m.exec (i m) : Block Machine ρ ℕ).Keeps (Machine.Has P) :=
  construct_keeps fun _ => rfl

variable (p : Platform)

theorem loadIntermediateGdt_keeps : (loadIntermediateGdt p).Keeps (Machine.Has P) := by
  refine this_keeps.bind fun o => (use_keeps _ _).bind fun _ => (exec_keeps _).bind fun _ => ?_
  split_ifs
  · exact exec_keeps _
  · exact keeps_pure _

theorem loadOsGdt_object (m : Machine) : (loadOsGdt m).object = m.object := by
  unfold loadOsGdt
  dsimp only
  split_ifs <;> rfl

theorem enterRootMode_keeps : (enterRootMode p).Keeps (Machine.Has P) := by
  refine this_keeps.bind fun o => cpu_keeps.bind fun c =>
    (exec_keeps _).bind fun _ => (constructExec_keeps _).bind fun restoreCr0 =>
    (exec_keeps _).bind fun _ => (constructExec_keeps _).bind fun restoreCr4 =>
    ((exec_keeps _).bind fun _ => keeps_pure _).bind fun failed => ?_
  -- `vmxon`, `vmclear` and `vmptrld` return early if they failed.
  split_ifs
  · exact keeps_exit _
  refine (constructExec_keeps _).bind fun turnOffVmx =>
    ((exec_keeps _).bind fun _ => keeps_pure _).bind fun failed => ?_
  split_ifs
  · exact keeps_exit _
  refine ((exec_keeps _).bind fun _ => keeps_pure _).bind fun failed => ?_
  split_ifs
  · exact keeps_exit _
  exact (keeps_cancel _).bind fun _ => (keeps_cancel _).bind fun _ => (keeps_cancel _).bind fun _ =>
    keeps_pure _

/-- The intermediate GDT, for a property that does not depend on the members about it. -/
theorem initializeIntermediateGdt_keeps
    (hP : ∀ o pointer limit limit' tr, P o → P { o with
      guestGdtPointer := pointer, guestGdtLimit := limit, intermediateGdtLimit := limit',
      guestTr := tr }) :
    (initializeIntermediateGdt p).Keeps (Machine.Has P) := by
  refine this_keeps.bind fun o => (use_keeps _ _).bind fun _ => (use_keeps _ _).bind fun _ => ?_
  split_ifs
  · exact update_keeps fun o h => hP o _ _ _ _ h
  · exact update_keeps fun o h => hP o _ _ _ _ h

/-- `main` between the two parts that are for the first CPU only. -/
def mainLoadGdt (p : Platform) : Code Unit := do
  initializeIntermediateGdt p
  loadIntermediateGdt p
  let _ ← Block.construct loadOsGdt
  let o ← this
  exec (.movCr3 o.hostCr3)
  let _ ← Block.construct fun m => m.exec (.movCr3 m.object.guestCr3)

theorem mainLoadGdt_keeps
    (hP : ∀ o pointer limit limit' tr, P o → P { o with
      guestGdtPointer := pointer, guestGdtLimit := limit, intermediateGdtLimit := limit',
      guestTr := tr }) :
    (mainLoadGdt p).Keeps (Machine.Has P) :=
  (initializeIntermediateGdt_keeps p hP).bind fun _ => (loadIntermediateGdt_keeps p).bind fun _ =>
    (construct_keeps loadOsGdt_object).bind fun _ => this_keeps.bind fun _ =>
    (exec_keeps _).bind fun _ => (constructExec_keeps _).bind fun _ => keeps_pure _

theorem setupVmcs_keeps : setupVmcs.Keeps (Machine.Has P) := by
  refine this_keeps.bind fun o => Keeps.bind ?_ fun _ => use_keeps _ _
  exact keeps_modify fun _ h => h

/-- `main` from `enter_root_mode` on. -/
def mainEnter : Code Unit := do
  match ← Block.call (enterRootMode p) with
  | some error => Block.exit error
  | none =>
    let _ ← Block.construct (Machine.exec .vmxoff)
    setupVmcs
    vmLaunch

/-- Entering root mode and launching, for a property that does not depend on the processor number. -/
theorem mainEnter_keeps (hP : ∀ o i, P o → P { o with nextVirtualProcessor := i }) :
    (mainEnter p).Keeps (Machine.Has P) := by
  refine (enterRootMode_keeps p).call.bind fun result => ?_
  cases result with
  | some error => exact keeps_exit _
  | none =>
    refine Keeps.bind (constructExec_keeps fun _ => .vmxoff) fun _ => setupVmcs_keeps.bind fun _ => ?_
    exact Keeps.bind (update_keeps fun o h => hP o _ h) fun _ => exec_keeps _

theorem mainGdt_eq (cpuid : Word) (s : Frame Machine) :
    mainGdt p cpuid s = (mainLoadGdt p >>= fun _ =>
      onFirstCpu cpuid (initializeProtection p) >>= fun _ => mainVmx p) s := by
  unfold mainGdt mainLoadGdt
  simp only [bind_bind]
  rfl

theorem onFirstCpu_of_ne {cpuid : Word} (hcpuid : cpuid ≠ 0#64) (block : Code Unit) :
    onFirstCpu cpuid block = pure () := if_neg hcpuid

end Keeps

/-- The machine that a run leaves. -/
def MainResult.machine : MainResult → Machine
  | .launched m => m
  | .failed _ m => m
  | .undefined m => m

/-- A run that comes to `vmlaunch` reaches the end of `main`'s body. -/
theorem exists_of_runMain_eq_launched {p : Platform} {cpuid : Word}
    {physicalToVirtual : Option (Word → Word)} {m m' : Machine}
    (h : runMain p cpuid physicalToVirtual m = .launched m') :
    ∃ s, main p cpuid physicalToVirtual ⟨m, []⟩ = .next () s ∧ s.state = m' := by
  unfold runMain at h
  cases hrun : main p cpuid physicalToVirtual ⟨m, []⟩ with
  | next a s =>
    rw [hrun] at h
    exact ⟨s, rfl, MainResult.launched.inj h⟩
  | returned e s =>
    rw [hrun] at h
    cases h
  | undefined s =>
    rw [hrun] at h
    cases h

/-- A property of the object that does not depend on the members written by all launches survives a
launch on any CPU but the first, however it ends. -/
theorem runMain_keeps {P : Object → Prop} {p : Platform} {cpuid : Word} (hcpuid : cpuid ≠ 0#64)
    (physicalToVirtual : Option (Word → Word))
    (hregisters : ∀ o cr0 cr3 cr4 gdtr tr, P o → P { o with
      guestCr0 := cr0, guestCr3 := cr3, guestCr4 := cr4, gdtr := gdtr, osTr := tr })
    (hgdt : ∀ o pointer limit limit' tr, P o → P { o with
      guestGdtPointer := pointer, guestGdtLimit := limit, intermediateGdtLimit := limit',
      guestTr := tr })
    (hvmx : (initializeVmx p).Keeps (Machine.Has P))
    (hcount : ∀ o i, P o → P { o with nextVirtualProcessor := i }) {m : Machine} (hm : P m.object) :
    P (runMain p cpuid physicalToVirtual m).machine.object := by
  have hmain : main p cpuid physicalToVirtual ⟨m, []⟩ =
      (mainLoadGdt p >>= fun _ => (pure () : Code Unit) >>= fun _ => mainVmx p)
        ⟨captured m, [⟨Machine.exec .sti, true⟩]⟩ := by
    rw [main_eq, onFirstCpu_of_ne hcpuid, bind_of_next (pure_apply _ _), mainGdt_eq,
      onFirstCpu_of_ne hcpuid]
  have hkeeps : (mainLoadGdt p >>= fun _ => (pure () : Code Unit) >>= fun _ => mainVmx p).Keeps
      (Machine.Has P) :=
    (mainLoadGdt_keeps p hgdt).bind fun _ => (keeps_pure _).bind fun _ =>
      hvmx.bind fun _ => mainEnter_keeps p hcount
  have h := hkeeps ⟨captured m, [⟨Machine.exec .sti, true⟩]⟩
    ⟨hregisters _ _ _ _ _ _ hm, fun g hg => by
      rw [List.mem_singleton] at hg
      subst hg
      exact fun _ hs => hs⟩
  rw [← hmain] at h
  unfold runMain
  cases hrun : main p cpuid physicalToVirtual ⟨m, []⟩ with
  | next a s =>
    rw [hrun] at h
    exact h.state
  | returned e s =>
    rw [hrun] at h
    exact h.destroy
  | undefined s =>
    rw [hrun] at h
    exact h.state

/-- The physical address of the root is computed anew, with the same result. -/
theorem initializeVmx_keepsTables {T : Tables} {epml4 : Word} {p : Platform}
    (hroot : T.hostPageTable.virtualToPhysical p.layout.ept.epml4 = epml4) :
    (initializeVmx p).Keeps (Machine.Has (HasTables T epml4)) := by
  refine this_keeps.bind fun _ => (use_keeps _ _).bind fun _ => (use_keeps _ _).bind fun _ =>
    update_keeps fun o h => ⟨h.1, ?_⟩
  rw [← hroot, ← h.1]
  rfl

/-- A launch on any CPU but the first leaves the tables as they are, however it ends. -/
theorem runMain_keepsTables {T : Tables} {epml4 : Word} {p : Platform} {cpuid : Word}
    (hcpuid : cpuid ≠ 0#64) (physicalToVirtual : Option (Word → Word))
    (hroot : T.hostPageTable.virtualToPhysical p.layout.ept.epml4 = epml4) {m : Machine}
    (hm : HasTables T epml4 m.object) :
    HasTables T epml4 (runMain p cpuid physicalToVirtual m).machine.object :=
  runMain_keeps hcpuid physicalToVirtual (fun _ _ _ _ _ _ h => h) (fun _ _ _ _ _ h => h)
    (initializeVmx_keepsTables hroot) (fun _ _ h => h) hm

theorem initializeVmx_keepsVmxMsrs {rdmsr : ℕ → Word} {p : Platform} :
    (initializeVmx p).Keeps (Machine.Has (·.vmxMsrs = rdmsr)) :=
  this_keeps.bind fun _ => (use_keeps _ _).bind fun _ => (use_keeps _ _).bind fun _ =>
    update_keeps fun _ h => h

/-- The cached MSRs are those of the first CPU. -/
theorem runMain_keepsVmxMsrs {rdmsr : ℕ → Word} {p : Platform} {cpuid : Word} (hcpuid : cpuid ≠ 0#64)
    (physicalToVirtual : Option (Word → Word)) {m : Machine} (hm : m.object.vmxMsrs = rdmsr) :
    (runMain p cpuid physicalToVirtual m).machine.object.vmxMsrs = rdmsr :=
  runMain_keeps (P := (·.vmxMsrs = rdmsr)) hcpuid physicalToVirtual (fun _ _ _ _ _ _ h => h)
    (fun _ _ _ _ _ h => h) initializeVmx_keepsVmxMsrs (fun _ _ h => h) hm

/-! ### What the functions of the first launch do to the tables -/

/-- What a computation on the members gives when it goes on. -/
theorem orFail_next {α : Type} {x : Outcome Error α} {a : α} {s s' : Frame Machine}
    (h : orFail x s = .next a s') : x = .next a ∧ s' = s := by
  cases x with
  | next a' =>
    obtain ⟨rfl, rfl⟩ := Result.next.inj h
    exact ⟨rfl, rfl⟩
  | returned e => cases h
  | undefined => cases h

/-- The first three functions and the map leave the tables of the module and an unused root. -/
theorem initializeModule_next {p : Platform} {physicalToVirtual : Option (Word → Word)}
    {s s' : Frame Machine} (h : initializeModule p physicalToVirtual s = .next () s') :
    let o := s.state.object
    let r := initializeHostPageTable p.layout.hostPageTable p.moduleBase p.moduleSize o.guestCr3
      ((OsPageTable.ofCr3 o.guestCr3 physicalToVirtual).virtualToPhysical p.memory) o.hostPageTable
    ∃ map, initializeModulePhysicalToVirtual r.1.virtualToPhysical p.moduleBase p.moduleSize
        o.modulePhysicalToVirtual = .next map ∧
      s'.state.object.tables = ⟨p.moduleBase, p.moduleSize, r.1, r.2, map, o.ept⟩ := by
  intro o r
  unfold initializeModule initializeModuleRegion initializeOsPageTable initializeHostPageTableMember
    initializeModulePhysicalToVirtualMember at h
  rw [bind_of_next (update_apply _ _), bind_of_next (update_apply _ _),
    bind_of_next (update_apply _ _), bind_of_next (this_apply _)] at h
  obtain ⟨map, s₁, hrun, hstore⟩ := exists_of_bind_eq_next h
  obtain ⟨hmap, rfl⟩ := orFail_next hrun
  obtain ⟨-, rfl⟩ := Result.next.inj hstore
  exact ⟨map, hmap, rfl⟩

/-- A member function that changes the object. -/
theorem update_next {f : Object → Object} {s s' : Frame Machine}
    (h : (update f : Code Unit) s = .next () s') : s'.state.object = f s.state.object := by
  obtain ⟨-, rfl⟩ := Result.next.inj h
  rfl

/-- A member function that stores tables made from those there are. -/
theorem storeEpt_next {x : Object → Outcome Error Ept} {s s' : Frame Machine}
    (h : (do let o ← this; let ept ← orFail (x o); update fun o => { o with ept } : Code Unit) s =
      .next () s') :
    ∃ ept, x s.state.object = .next ept ∧
      s'.state.object.tables = { s.state.object.tables with ept } := by
  rw [bind_of_next (this_apply _)] at h
  obtain ⟨ept, s₁, hrun, hstore⟩ := exists_of_bind_eq_next h
  obtain ⟨hept, rfl⟩ := orFail_next hrun
  rw [update_next hstore]
  exact ⟨ept, hept, rfl⟩

theorem initializeEptMember_next {p : Platform} {s s' : Frame Machine}
    (h : initializeEptMember p s = .next () s') :
    let T := s.state.object.tables
    let t := initializeEpt p.layout.ept T.hostPageTable.virtualToPhysical s.state.object.mtrrs T.ept
    s'.state.object.tables = { T with ept := t } := by
  dsimp only [Object.tables]
  rw [update_next h]

theorem initializeProtection_next {p : Platform} {s s' : Frame Machine} {T : Tables}
    (hT : s.state.object.tables = T) (h : initializeProtection p s = .next () s') :
    ∃ t₁ t₂, protectModule p.layout.ept T.hostPageTable.virtualToPhysical T.modulePhysicalToVirtual
        T.moduleBase T.moduleSize
        (initializeEpt p.layout.ept T.hostPageTable.virtualToPhysical p.mtrrs T.ept) = .next t₁ ∧
      unprotectGuestMemory p.layout.ept T.hostPageTable.virtualToPhysical T.modulePhysicalToVirtual
        t₁ = .next t₂ ∧
      s'.state.object.tables = { T with ept := t₂ } := by
  obtain ⟨_, s₁, hmsrs, h⟩ := exists_of_bind_eq_next h
  obtain ⟨_, s₂, hmtrrs, h⟩ := exists_of_bind_eq_next h
  obtain ⟨_, s₃, hept, h⟩ := exists_of_bind_eq_next h
  obtain ⟨_, s₄, hprotect, hunprotect⟩ := exists_of_bind_eq_next h
  have h₂ : s₂.state.object.tables = T ∧ s₂.state.object.mtrrs = p.mtrrs := by
    rw [update_next hmtrrs, update_next hmsrs]
    exact ⟨hT, rfl⟩
  have h₃ := initializeEptMember_next hept
  rw [h₂.1, h₂.2] at h₃
  obtain ⟨t₁, hprotect, h₄⟩ := storeEpt_next hprotect
  obtain ⟨t₂, hunprotect, h₅⟩ := storeEpt_next hunprotect
  obtain ⟨hbase, hsize, htable, -, hmap, ht⟩ := Tables.mk.inj h₃
  rw [hbase, hsize, htable, hmap, ht] at hprotect
  rw [h₃] at h₄
  obtain ⟨-, -, htable, -, hmap, ht⟩ := Tables.mk.inj h₄
  rw [htable, hmap, ht] at hunprotect
  rw [h₄] at h₅
  exact ⟨t₁, t₂, hprotect, hunprotect, h₅⟩

/-! ### The root -/

section Root

variable {capacity : ℕ} {layout : EptLayout} {vtp : Word → Word}
  {map : PhysicalToVirtual capacity} {t t' : Ept}

theorem epml4_fillEpt (t : Ept) (k : Fin eptCount) (pageNumber : Word) (memoryType : MemoryType) :
    (t.fillEpt k pageNumber memoryType).epml4 = t.epml4 := (fillEpt_spec t k pageNumber memoryType).1

theorem epml4_protectPage {address : Word} {s s' : Ept × ℕ}
    (h : protectPage layout vtp map address s = .next s') : s'.1.epml4 = s.1.epml4 := by
  obtain ⟨t, eptIndex⟩ := s
  unfold protectPage at h
  obtain ⟨r, -, h⟩ := Outcome.exists_of_bind_eq_next h
  dsimp only at h
  split_ifs at h with hlarge hlt hlast
  · obtain ⟨k, -, h⟩ := Outcome.exists_of_bind_eq_next h
    rw [← Outcome.next.inj h]
    rfl
  · rw [← Outcome.next.inj h, Ept.setEptePermissions, (Ept.setEpte_others _ _ _ _).1,
      (Ept.setEpde_others _ _ _).1, epml4_fillEpt]

theorem epml4_unprotectPage {address : Word}
    (h : unprotectPage layout vtp map address t = .next t') : t'.epml4 = t.epml4 := by
  obtain ⟨r, -, h⟩ := Outcome.exists_of_bind_eq_next h
  obtain ⟨k, -, h⟩ := Outcome.exists_of_bind_eq_next h
  obtain rfl := Outcome.next.inj h
  rfl

theorem epml4_protectModule {base size : Word}
    (h : protectModule layout vtp map base size t = .next t') : t'.epml4 = t.epml4 := by
  obtain ⟨eptIndex, hrun⟩ := protectPages_of_protectModule h
  exact forRangeM_of_next (P := fun _ (s : Ept × ℕ) => s.1.epml4 = t.epml4) rfl
    (fun _ _ _ _ hs hstep => (epml4_protectPage hstep).trans hs) hrun

theorem epml4_unprotectGuestMemory
    (h : unprotectGuestMemory layout vtp map t = .next t') : t'.epml4 = t.epml4 :=
  forRangeM_of_next (P := fun _ (s : Ept) => s.epml4 = t.epml4) rfl
    (fun _ _ _ _ hs hstep => (epml4_unprotectPage hstep).trans hs) h

theorem epml4_initializeEpt {i : Fin 512} (hi : i ≠ 0) (mtrrs : Vector Mtrr 8) :
    (initializeEpt layout vtp mtrrs t).epml4 i = t.epml4 i := by
  unfold initializeEpt
  dsimp only
  rw [(initializeEpds_spec mtrrs _).1, (epdptLoop_spec layout vtp _).1]
  exact Function.update_of_ne hi _ _

end Root

/-! ### The first launch -/

/-- The module as the page tables need it: it is at most 1 GiB, the object lies in it, and `os`, the
translation of the OS, is a frame map on it. -/
structure ModulePlaced (p : Platform) (m : Module) (os : Word → Word) : Prop where
  base : p.moduleBase = m.base
  size : p.moduleSize = m.size
  size_le : m.size.toNat ≤ 2 ^ 30
  hostPageTable : m.Holds p.layout.hostPageTable PageTable.sizeOf
  tables : m.Holds p.layout.ept.epml4 EptLayout.tablesSize
  unprotectedMemory : m.Holds p.layout.ept.unprotectedMemory unprotectedMemorySize
  frameMap : FrameMap m (2 ^ 39) os

theorem ModuleFits.placed {p : Platform} {m : Module} {os : Word → Word} (h : ModuleFits p m os) :
    ModulePlaced p m os :=
  ⟨h.base, h.size, h.size_le, h.hostPageTable, h.tables, h.unprotectedMemory, h.frameMap⟩

/-- The small pages that the guest is denied: those of the module, but for its unprotected memory. -/
def deniedPages (m : Module) (layout : EptLayout) (vtp : Word → Word) (r : Region) (j : Fin 512) :
    Prop :=
  Covers (pageFrame m vtp) m.pages r j ∧
    ¬ Covers (unprotectedFrame layout vtp) (unprotectedMemorySize / 0x1000) r j

/-- The tables of a module that is mapped for the hypervisor and kept from the guest. -/
structure Guarded (layout : Layout) (m : Module) (os : Word → Word) (guestCr3 : Word)
    (mtrrs : Vector Mtrr 8) (T : Tables) : Prop where
  host : initializeHostPageTable layout.hostPageTable m.base m.size guestCr3 os .empty =
    (T.hostPageTable, T.hostCr3)
  ept : ∃ owner, EptInv layout.ept os (initialType mtrrs) owner (deniedPages m layout.ept os) T.ept
  /-- The guest-physical addresses from 512 GiB on are not mapped. -/
  unused : ∀ i ≠ 0, T.ept.epml4 i = ⟨0#64⟩
  reserved : (∀ r ∈ mtrrs.toList, r.Architectural) → T.ept.ReservedZero

/-- On the module, the host page table and the OS agree. -/
theorem Guarded.agrees {p : Platform} {m : Module} {os : Word → Word} {guestCr3 : Word}
    {mtrrs : Vector Mtrr 8} {T : Tables} (h : Guarded p.layout m os guestCr3 mtrrs T)
    (hplaced : ModulePlaced p m os) {a : Word} (ha : m.Contains a) :
    T.hostPageTable.virtualToPhysical a = os a := by
  obtain ⟨htable, -⟩ := Prod.mk.inj h.host
  rw [← htable]
  exact virtualToPhysical_initializeHostPageTable hplaced.size_le hplaced.hostPageTable
    (hplaced.frameMap.mono (by decide)) guestCr3 ha

section Agrees

variable {m : Module} {layout : EptLayout} {vtp vtp' : Word → Word}

theorem covers_congr {frame frame' : ℕ → Word} {n : ℕ} (h : ∀ i < n, frame i = frame' i) (r : Region)
    (j : Fin 512) : Covers frame n r j ↔ Covers frame' n r j := by
  refine exists_congr fun i => and_congr_right fun hi => ?_
  rw [h i hi]

/-- What is denied depends on the frames of the module only. -/
theorem deniedPages_congr (hunprotected : m.Holds layout.unprotectedMemory unprotectedMemorySize)
    (hagrees : ∀ a, m.Contains a → vtp a = vtp' a) (r : Region) (j : Fin 512) :
    deniedPages m layout vtp' r j ↔ deniedPages m layout vtp r j := by
  refine and_congr (covers_congr (fun i hi => ?_) r j) (not_congr (covers_congr (fun i hi => ?_) r j))
  · exact (hagrees _ (Module.hasPage_page hi).2).symm
  · exact (hagrees _ (hasPage_unprotectedPage hunprotected hi).2).symm

/-- The invariant depends on the frames of the tables only. -/
theorem EptInv.of_agrees {type : Region → MemoryType} {owner : Region → Option (Fin eptCount)}
    {denied : Region → Fin 512 → Prop} {t : Ept} (h : EptInv layout vtp type owner denied t)
    (htables : m.Holds layout.epml4 EptLayout.tablesSize)
    (hagrees : ∀ a, m.Contains a → vtp a = vtp' a) : EptInv layout vtp' type owner denied t where
  epml4 := by
    rw [← hagrees _ (hasPage_epdpt htables).2]
    exact h.epml4
  epdpt d := by
    rw [← hagrees _ (hasPage_epd htables d).2]
    exact h.epdpt d
  epd := h.epd
  large := h.large
  split r k hr := by
    rw [← hagrees _ (hasPage_ept htables k).2]
    exact h.split r k hr
  ept := h.ept
  owner_injective := h.owner_injective

end Agrees

section FirstLaunch

variable {p : Platform} {m : Module} {os : Word → Word}

/-- The two parts of `main` that are for the first CPU build the tables. -/
theorem guarded_of_built (hplaced : ModulePlaced p m os) {guestCr3 : Word}
    {map : PhysicalToVirtual (maxModuleSize / 0x1000)} {t₁ t₂ : Ept}
    (hmap : let vtp := (initializeHostPageTable p.layout.hostPageTable m.base m.size guestCr3 os
        .empty).1.virtualToPhysical
      initializeModulePhysicalToVirtual vtp m.base m.size SmallMap.empty = .next map ∧
      protectModule p.layout.ept vtp map m.base m.size
        (initializeEpt p.layout.ept vtp p.mtrrs .empty) = .next t₁ ∧
      unprotectGuestMemory p.layout.ept vtp map t₁ = .next t₂) :
    Guarded p.layout m os guestCr3 p.mtrrs
      ⟨m.base, m.size,
        (initializeHostPageTable p.layout.hostPageTable m.base m.size guestCr3 os .empty).1,
        (initializeHostPageTable p.layout.hostPageTable m.base m.size guestCr3 os .empty).2,
        map, t₂⟩ := by
  obtain ⟨hmap, hprotect, hunprotect⟩ := hmap
  have hagrees := fun a (ha : m.Contains a) => virtualToPhysical_initializeHostPageTable
    hplaced.size_le hplaced.hostPageTable (hplaced.frameMap.mono (by decide)) guestCr3 ha
  have hvtp := hplaced.frameMap.congr hagrees
  obtain ⟨owner, eptIndex, ht₁⟩ :=
    protectInv_of_protectModule hvtp hplaced.tables hmap hprotect
  obtain ⟨t, hrun, ht⟩ := eptInv_of_prefix hvtp hplaced.tables hplaced.unprotectedMemory hmap ht₁
    le_rfl
  obtain rfl := Outcome.next.inj (hrun.symm.trans hunprotect)
  refine ⟨rfl, ⟨owner, ?_⟩, fun i hi => ?_, fun harchitectural => ?_⟩
  · refine (ht.of_agrees hplaced.tables hagrees).congr fun r j => ?_
    exact deniedPages_congr hplaced.unprotectedMemory hagrees r j
  · rw [epml4_unprotectGuestMemory hunprotect, epml4_protectModule hprotect, epml4_initializeEpt hi]
    rfl
  · have hprotected := (reservedZero_empty.initializeEpt harchitectural).protectModule hprotect
    exact hprotected.unprotectGuestMemory hunprotect

/-- A run that changes only the object and reaches its end. -/
theorem ChangesObject.of_next {s s' : Frame Machine} {x : Result (Frame Machine) Error Unit}
    (h : ChangesObject s x) (hx : x = .next () s') :
    s'.guards = s.guards ∧ s.state.object.Keeps s'.state.object := by
  subst hx
  obtain ⟨o, ho, h | ⟨e, h⟩ | h⟩ := h
  · obtain ⟨-, rfl⟩ := Result.next.inj h
    exact ⟨rfl, ho⟩
  · cases h
  · cases h

theorem mainLoadGdt_guards {s s' : Frame Machine} (hs : s.guards = [⟨Machine.exec .sti, true⟩])
    (h : mainLoadGdt p s = .next () s') : s'.guards = hostGuards := by
  obtain ⟨m₁, hinit, -⟩ := initializeIntermediateGdt_quiet p s
  obtain ⟨m₂, hload, -⟩ := loadIntermediateGdt_phase p ⟨m₁, s.guards⟩
  unfold mainLoadGdt at h
  rw [bind_of_next hinit, bind_of_next hload, hs] at h
  obtain ⟨-, rfl⟩ := Result.next.inj h
  rfl

/-- The guards of `main` do not change the object. -/
theorem hostGuards_keep (P : Object → Prop) :
    ∀ g ∈ hostGuards, ∀ m, Machine.Has P m → Machine.Has P (g.function m) := by
  intro g hg m hm
  simp only [hostGuards, List.mem_cons, List.not_mem_nil, or_false] at hg
  rcases hg with rfl | rfl | rfl
  · exact hm
  · exact show P (loadOsGdt m).object from (loadOsGdt_object m).symm ▸ hm
  · exact hm

/-- The pages whose physical addresses the processor is given, those of one CPU. -/
structure VmxPages (layout : Layout) (vtp : Word → Word) (index : Word) (o : Object) : Prop where
  vmx : o.vmxPhysical = vtp (layout.vmxAt index)
  vmcs : o.vmcsPhysical = vtp (layout.vmxVmcsAt index)
  epml4 : o.epml4Physical = vtp layout.ept.epml4
  msrBitmap : o.msrBitmapPhysical = vtp layout.msrBitmap

theorem initializeVmx_next {s s' : Frame Machine} (h : initializeVmx p s = .next () s') :
    s'.state.object.tables = s.state.object.tables ∧
      VmxPages p.layout s.state.object.hostPageTable.virtualToPhysical
        (s.state.object.nextVirtualProcessor - 1#64) s'.state.object ∧ s'.guards = s.guards := by
  obtain ⟨-, rfl⟩ := Result.next.inj h
  exact ⟨rfl, ⟨rfl, rfl, rfl, rfl⟩, rfl⟩

/-- The end of `main` gives the processor the pages of the CPU. -/
theorem mainVmx_next {s s' : Frame Machine} (hguards : s.guards = hostGuards)
    (h : mainVmx p s = .next () s') :
    s'.state.object.tables = s.state.object.tables ∧
      VmxPages p.layout s.state.object.hostPageTable.virtualToPhysical
        (s.state.object.nextVirtualProcessor - 1#64) s'.state.object := by
  obtain ⟨_, s₁, hinit, henter⟩ := exists_of_bind_eq_next h
  obtain ⟨htables, hpages, hguards₁⟩ := initializeVmx_next hinit
  have hkeeps := mainEnter_keeps p (P := fun o => o.tables = s.state.object.tables ∧
    VmxPages p.layout s.state.object.hostPageTable.virtualToPhysical
      (s.state.object.nextVirtualProcessor - 1#64) o)
    fun o i ho => ⟨ho.1, ho.2.vmx, ho.2.vmcs, ho.2.epml4, ho.2.msrBitmap⟩
  refine (hkeeps.of_next ⟨⟨htables, hpages⟩, ?_⟩ henter).state
  rw [hguards₁, hguards]
  exact hostGuards_keep _

/-- Up to the switch of page tables nothing happens to the tables. -/
theorem mainLoadGdt_next {s s' : Frame Machine} (hs : s.guards = [⟨Machine.exec .sti, true⟩])
    (h : mainLoadGdt p s = .next () s') :
    s'.state.object.tables = s.state.object.tables ∧
      s'.state.object.nextVirtualProcessor = s.state.object.nextVirtualProcessor := by
  have hkeeps := mainLoadGdt_keeps p (P := fun o => o.tables = s.state.object.tables ∧
    o.nextVirtualProcessor = s.state.object.nextVirtualProcessor) fun _ _ _ _ _ h => h
  refine (hkeeps.of_next ⟨⟨rfl, rfl⟩, fun g hg => ?_⟩ h).state
  rw [hs, List.mem_singleton] at hg
  subst hg
  exact fun _ hs => hs

/-- A launch on any CPU but the first that comes to `vmlaunch`. -/
theorem runMain_vmxPages {cpuid : Word} (hcpuid : cpuid ≠ 0#64)
    {physicalToVirtual : Option (Word → Word)} {mach mach' : Machine}
    (hrun : runMain p cpuid physicalToVirtual mach = .launched mach') :
    VmxPages p.layout mach.object.hostPageTable.virtualToPhysical
      (mach.object.nextVirtualProcessor - 1#64) mach'.object := by
  obtain ⟨s, hmain, rfl⟩ := exists_of_runMain_eq_launched hrun
  rw [main_eq, onFirstCpu_of_ne hcpuid, bind_of_next (pure_apply _ _), mainGdt_eq,
    onFirstCpu_of_ne hcpuid] at hmain
  obtain ⟨_, s₁, hload, hmain⟩ := exists_of_bind_eq_next hmain
  rw [bind_of_next (pure_apply _ _)] at hmain
  obtain ⟨htables, hnext⟩ := mainLoadGdt_next rfl hload
  obtain ⟨-, hpages⟩ := mainVmx_next (mainLoadGdt_guards rfl hload) hmain
  have htable : s₁.state.object.hostPageTable = mach.object.hostPageTable :=
    congrArg Tables.hostPageTable htables
  rw [htable, hnext] at hpages
  exact hpages

/-- **The first launch.**  If it comes to `vmlaunch`, the module is mapped and guarded. -/
theorem runMain_guards (hplaced : ModulePlaced p m os)
    {physicalToVirtual : Option (Word → Word)} {mach mach' : Machine}
    (hfresh : mach.object.tables = Object.fresh.tables)
    (hos : (OsPageTable.ofCr3 mach.cpu.cr3 physicalToVirtual).virtualToPhysical p.memory = os)
    (hrun : runMain p 0#64 physicalToVirtual mach = .launched mach') :
    Guarded p.layout m os mach.cpu.cr3 p.mtrrs mach'.object.tables ∧
      VmxPages p.layout mach'.object.hostPageTable.virtualToPhysical
        (mach.object.nextVirtualProcessor - 1#64) mach'.object := by
  have hfirst : ∀ block : Code Unit, onFirstCpu 0#64 block = block := fun _ => if_pos rfl
  obtain ⟨s, hmain, rfl⟩ := exists_of_runMain_eq_launched hrun
  rw [main_eq, hfirst] at hmain
  obtain ⟨_, s₁, hmodule, hmain⟩ := exists_of_bind_eq_next hmain
  rw [mainGdt_eq, hfirst] at hmain
  obtain ⟨_, s₂, hload, hmain⟩ := exists_of_bind_eq_next hmain
  obtain ⟨_, s₃, hprotection, hvmx⟩ := exists_of_bind_eq_next hmain
  obtain ⟨map, hmap, h₁⟩ := initializeModule_next hmodule
  obtain ⟨hguards₁, hkeeps₁⟩ := (initializeModule_changesObject p physicalToVirtual _).of_next hmodule
  obtain ⟨h₂, hnext₂⟩ := mainLoadGdt_next hguards₁ hload
  rw [h₁] at h₂
  obtain ⟨t₁, t₂, hprotect, hunprotect, h₃⟩ := initializeProtection_next h₂ hprotection
  obtain ⟨hguards₃, hkeeps₃⟩ := (initializeProtection_changesObject p s₂).of_next hprotection
  obtain ⟨h₄, hpages⟩ := mainVmx_next (hguards₃.trans (mainLoadGdt_guards hguards₁ hload)) hvmx
  -- The first CPU starts with empty tables.
  obtain ⟨-, -, htable, -, hempty, hept⟩ := Tables.mk.inj hfresh
  have hstart : (captured mach).object.hostPageTable = .empty ∧
      (captured mach).object.modulePhysicalToVirtual = SmallMap.empty ∧
      (captured mach).object.ept = .empty ∧ (captured mach).object.guestCr3 = mach.cpu.cr3 :=
    ⟨htable, hempty, hept, rfl⟩
  dsimp only at hmap hprotect hunprotect h₃
  rw [hstart.1, hstart.2.1, hstart.2.2.2, hos, hplaced.base, hplaced.size] at hmap
  rw [hstart.1, hstart.2.2.1, hstart.2.2.2, hos, hplaced.base, hplaced.size] at hprotect
  rw [hstart.1, hstart.2.2.2, hos, hplaced.base, hplaced.size] at hunprotect
  rw [hstart.1, hstart.2.2.2, hos, hplaced.base, hplaced.size] at h₃
  have hnext : s₃.state.object.nextVirtualProcessor = mach.object.nextVirtualProcessor :=
    hkeeps₃.nextVirtualProcessor.trans (hnext₂.trans hkeeps₁.nextVirtualProcessor)
  have htables : s.state.object.hostPageTable = s₃.state.object.hostPageTable :=
    congrArg Tables.hostPageTable h₄
  rw [h₄, h₃]
  rw [hnext, ← htables] at hpages
  exact ⟨guarded_of_built hplaced ⟨hmap, hprotect, hunprotect⟩, hpages⟩

end FirstLaunch

end Zpp.Hypervisor
