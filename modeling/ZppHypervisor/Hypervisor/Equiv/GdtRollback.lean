import ZppHypervisor.Hypervisor.Equiv.Main
import ZppHypervisor.Hypervisor.Equiv.Segments

/-!
# Rolling the GDT back

In a failing run of `main` the GDT and the task register are loaded in one way only, which the log
shows (`runMain_gdtLog`).  If the OS has no present TSS, the rollback loads a task register that the
processor refuses (`gdtRestored_iff`).
-/

namespace Zpp.Hypervisor

open X64 ScopeGuard Block ByteMemory

/-! ### The log -/

/-- The instructions that load the GDT or the task register, each with the GDTR before it. -/
def gdtLog (t : List (Instruction × Cpu)) : List (Instruction × Gdtr) :=
  t.filterMap fun e =>
    match e.1 with
    | .lgdt _ => some (e.1, e.2.gdtr)
    | .ltr _ => some (e.1, e.2.gdtr)
    | _ => none

theorem gdtLog_append (t t' : List (Instruction × Cpu)) :
    gdtLog (t ++ t') = gdtLog t ++ gdtLog t' :=
  List.filterMap_append

theorem mem_gdtLog_lgdt {t : List (Instruction × Cpu)} {gdtr : Gdtr} {c : Cpu}
    (h : (.lgdt gdtr, c) ∈ t) : (.lgdt gdtr, c.gdtr) ∈ gdtLog t := by
  unfold gdtLog
  exact List.mem_filterMap.mpr ⟨_, h, rfl⟩

/-- The GDT and the task register, and the members about them, are as before. -/
structure GdtSame (m m' : Machine) : Prop where
  objectGdtr : m'.object.gdtr = m.object.gdtr
  osTr : m'.object.osTr = m.object.osTr
  guestTr : m'.object.guestTr = m.object.guestTr
  gdtr : m'.cpu.gdtr = m.cpu.gdtr
  tr : m'.cpu.tr = m.cpu.tr
  log : ∃ t, m'.trace = m.trace ++ t ∧ gdtLog t = []

theorem GdtSame.refl (m : Machine) : GdtSame m m :=
  ⟨rfl, rfl, rfl, rfl, rfl, [], (List.append_nil _).symm, rfl⟩

theorem GdtSame.trans {m₁ m₂ m₃ : Machine} (h : GdtSame m₁ m₂) (h' : GdtSame m₂ m₃) :
    GdtSame m₁ m₃ where
  objectGdtr := h'.objectGdtr.trans h.objectGdtr
  osTr := h'.osTr.trans h.osTr
  guestTr := h'.guestTr.trans h.guestTr
  gdtr := h'.gdtr.trans h.gdtr
  tr := h'.tr.trans h.tr
  log := by
    obtain ⟨t, ht, hlog⟩ := h.log
    obtain ⟨t', ht', hlog'⟩ := h'.log
    exact ⟨t ++ t', by rw [ht', ht, List.append_assoc], by rw [gdtLog_append, hlog, hlog']; rfl⟩

/-- The instruction loads neither the GDT nor the task register. -/
def KeepsGdt : Instruction → Prop
  | .lgdt _ => False
  | .ltr _ => False
  | _ => True

theorem GdtSame.exec {m m' : Machine} (h : GdtSame m m') {i : Instruction} (hi : KeepsGdt i) :
    GdtSame m (m'.exec i) := by
  refine h.trans ⟨rfl, rfl, rfl, ?_, ?_, [(i, m'.cpu)], rfl, ?_⟩
  · cases i <;> first | rfl | exact hi.elim
  · cases i <;> first | rfl | exact hi.elim
  · cases i <;> first | rfl | exact hi.elim

theorem GdtSame.congr {m m' m'' : Machine} (h : GdtSame m m') (hcpu : m''.cpu = m'.cpu)
    (htrace : m''.trace = m'.trace) (hgdtr : m''.object.gdtr = m'.object.gdtr)
    (hosTr : m''.object.osTr = m'.object.osTr) (hguestTr : m''.object.guestTr = m'.object.guestTr) :
    GdtSame m m'' :=
  h.trans ⟨hgdtr, hosTr, hguestTr, by rw [hcpu], by rw [hcpu], [],
    htrace.trans (List.append_nil _).symm, rfl⟩

/-! ### Phases that keep the GDT -/

variable (p : Platform)

/-- However the block ends, its guards are those before and the GDT is as in `m`. -/
def KeepsGdtFrom (m : Machine) (guards : List (Guard Machine))
    (x : Result (Frame Machine) Error Unit) : Prop :=
  ∃ m', GdtSame m m' ∧
    (x = .next () ⟨m', guards⟩ ∨ (∃ e, x = .returned e ⟨m', guards⟩) ∨ x = .undefined ⟨m', guards⟩)

theorem KeepsGdtFrom.bind {x : Code Unit} {f : Unit → Code Unit} {m : Machine}
    {guards : List (Guard Machine)} (hx : KeepsGdtFrom m guards (x ⟨m, guards⟩))
    (hf : ∀ m', KeepsGdtFrom m' guards (f () ⟨m', guards⟩)) :
    KeepsGdtFrom m guards ((x >>= f) ⟨m, guards⟩) := by
  obtain ⟨m', hm', hx | ⟨e, hx⟩ | hx⟩ := hx
  · obtain ⟨m'', hm'', h⟩ := hf m'
    rw [bind_of_next hx]
    exact ⟨m'', hm'.trans hm'', h⟩
  · exact ⟨m', hm', .inr (.inl ⟨e, bind_of_returned hx⟩)⟩
  · exact ⟨m', hm', .inr (.inr (bind_of_undefined hx))⟩

theorem update_keepsGdt {f : Object → Object} {m : Machine} (guards : List (Guard Machine))
    (hgdtr : (f m.object).gdtr = m.object.gdtr) (hosTr : (f m.object).osTr = m.object.osTr)
    (hguestTr : (f m.object).guestTr = m.object.guestTr) :
    KeepsGdtFrom m guards ((update f : Code Unit) ⟨m, guards⟩) :=
  ⟨m.setObject (f m.object), (GdtSame.refl m).congr rfl rfl hgdtr hosTr hguestTr, .inl rfl⟩

theorem orFail_keepsGdt {α : Type} {f : α → Object → Object} {m : Machine}
    (guards : List (Guard Machine)) (x : Object → Loop.Outcome Error α)
    (hgdtr : ∀ a o, (f a o).gdtr = o.gdtr) (hosTr : ∀ a o, (f a o).osTr = o.osTr)
    (hguestTr : ∀ a o, (f a o).guestTr = o.guestTr) :
    KeepsGdtFrom m guards
      ((do let o ← this; let a ← orFail (x o); update (f a) : Code Unit) ⟨m, guards⟩) := by
  rw [bind_of_next (this_apply _)]
  cases hx : x m.object with
  | next a => exact update_keepsGdt guards (hgdtr a _) (hosTr a _) (hguestTr a _)
  | returned e => exact ⟨m, .refl m, .inr (.inl ⟨e, rfl⟩)⟩
  | undefined => exact ⟨m, .refl m, .inr (.inr rfl)⟩

theorem initializeProtection_keepsGdt (m : Machine) (guards : List (Guard Machine)) :
    KeepsGdtFrom m guards (initializeProtection p ⟨m, guards⟩) := by
  refine (update_keepsGdt guards rfl rfl rfl).bind fun m =>
    (update_keepsGdt guards rfl rfl rfl).bind fun m =>
    (update_keepsGdt guards rfl rfl rfl).bind fun m =>
    (orFail_keepsGdt guards _ ?_ ?_ ?_).bind fun m => orFail_keepsGdt guards _ ?_ ?_ ?_
  all_goals exact fun _ _ => rfl

theorem onFirstCpu_keepsGdt {block : Code Unit} {m : Machine} {guards : List (Guard Machine)}
    (cpuid : Word) (h : KeepsGdtFrom m guards (block ⟨m, guards⟩)) :
    KeepsGdtFrom m guards (onFirstCpu cpuid block ⟨m, guards⟩) := by
  unfold onFirstCpu
  split_ifs
  · exact h
  · exact ⟨m, .refl m, .inl rfl⟩

/-- `enter_root_mode` returns, and its guards keep the GDT too. -/
theorem enterRootMode_keepsGdt (m : Machine) (guards : List (Guard Machine)) :
    ∃ e m', (Block.call (enterRootMode p) : Code _) ⟨m, guards⟩ = .next e ⟨m', guards⟩ ∧
      GdtSame m m' := by
  have hcr0 : GdtSame m _ := (GdtSame.refl m).exec (i := .movCr0 m.object.hostCr0) trivial
  have hcr4 : GdtSame m _ := hcr0.exec (i := .movCr4 m.object.hostCr4) trivial
  have hrestore : ∀ m', GdtSame m m' →
      GdtSame m ((m'.exec (.movCr4 m.cpu.cr4)).exec (.movCr0 m.cpu.cr0)) := fun m' h =>
    (h.exec (i := .movCr4 m.cpu.cr4) trivial).exec (i := .movCr0 m.cpu.cr0) trivial
  unfold Block.call enterRootMode vmxon vmclear vmptrld
  simp only [bind_apply, this_apply, cpu_apply, exec_apply, construct_apply, pure_apply]
  cases p.vmxonCarry with
  | true =>
    have hon := hcr4.exec (i := .vmxon m.object.vmxPhysical true) trivial
    exact ⟨_, _, rfl, hrestore _ hon⟩
  | false =>
    have hon := hcr4.exec (i := .vmxon m.object.vmxPhysical false) trivial
    cases p.vmclearCarry with
    | true =>
      have hclear := hon.exec (i := .vmclear m.object.vmcsPhysical true) trivial
      exact ⟨_, _, rfl, hrestore _ (hclear.exec (i := .vmxoff) trivial)⟩
    | false =>
      have hclear := hon.exec (i := .vmclear m.object.vmcsPhysical false) trivial
      cases p.vmptrldCarry with
      | true =>
        have hptrld := hclear.exec (i := .vmptrld m.object.vmcsPhysical true) trivial
        exact ⟨_, _, rfl, hrestore _ (hptrld.exec (i := .vmxoff) trivial)⟩
      | false => exact ⟨_, _, rfl, hclear.exec (i := .vmptrld m.object.vmcsPhysical false) trivial⟩

/-- `main` from `initialize_vmx` on, if it fails. -/
theorem mainVmx_keepsGdt {m : Machine} {e : Error} {s : Frame Machine}
    (h : mainVmx p ⟨m, hostGuards⟩ = .returned e s) : ∃ m', GdtSame m m' ∧ s = ⟨m', hostGuards⟩ := by
  have hinit : ∃ m₁, initializeVmx p ⟨m, hostGuards⟩ = .next () ⟨m₁, hostGuards⟩ ∧
      GdtSame m m₁ := ⟨_, rfl, (GdtSame.refl m).congr rfl rfl rfl rfl rfl⟩
  obtain ⟨m₁, hinit, h₁⟩ := hinit
  obtain ⟨r, m₂, hcall, h₂⟩ := enterRootMode_keepsGdt p m₁ hostGuards
  unfold mainVmx at h
  rw [bind_of_next hinit, bind_of_next hcall] at h
  cases r with
  | none => exact nomatch h
  | some error =>
    injection h with _ hs
    exact ⟨m₂, h₁.trans h₂, hs.symm⟩

/-! ### The failing runs -/

/-- The value of `guest_tr` in a launch from `m`. -/
def launchTr (m : Machine) : BitVec 16 :=
  if p.taskStateSegmentPresent then m.cpu.tr else (trIndex m.cpu.gdtr <<< 3).setWidth 16

/-- The GDTR that a launch from `m` loads. -/
def launchGdtr (m : Machine) : Gdtr where
  base := p.layout.intermediateGdt (m.object.nextVirtualProcessor - 1#64)
  limit :=
    if p.taskStateSegmentPresent then m.cpu.gdtr.limit
    else (m.cpu.gdtr.limit.setWidth 64 + 2#64 * 8#64 : Word).setWidth 16

/-- Loading the GDT, and the task register if it changed. -/
def loadLog (before : Gdtr) (gdtr : Gdtr) (guestTr osTr selector : BitVec 16) :
    List (Instruction × Gdtr) :=
  (.lgdt gdtr, before) :: if guestTr ≠ osTr then [(.ltr selector, gdtr)] else []

/-- Loads the GDT, and the task register if it changed. -/
def loadGdt (m : Machine) (gdtr : Gdtr) (selector : BitVec 16) : Machine :=
  let m' := m.exec (.lgdt gdtr)
  if m.object.guestTr ≠ m.object.osTr then m'.exec (.ltr selector) else m'

theorem loadGdt_of_ne {m : Machine} {gdtr : Gdtr} {selector : BitVec 16}
    (h : m.object.guestTr ≠ m.object.osTr) :
    loadGdt m gdtr selector = (m.exec (.lgdt gdtr)).exec (.ltr selector) :=
  if_pos h

theorem loadGdt_of_eq {m : Machine} {gdtr : Gdtr} {selector : BitVec 16}
    (h : m.object.guestTr = m.object.osTr) : loadGdt m gdtr selector = m.exec (.lgdt gdtr) :=
  if_neg (not_not.mpr h)

theorem loadGdt_object (m : Machine) (gdtr : Gdtr) (selector : BitVec 16) :
    (loadGdt m gdtr selector).object = m.object := by
  unfold loadGdt
  dsimp only
  split_ifs <;> rfl

theorem loadGdt_spec (m : Machine) (gdtr : Gdtr) (selector : BitVec 16) :
    (∃ t, (loadGdt m gdtr selector).trace = m.trace ++ t ∧
      gdtLog t = loadLog m.cpu.gdtr gdtr m.object.guestTr m.object.osTr selector) ∧
    (loadGdt m gdtr selector).cpu.gdtr = gdtr ∧
    (loadGdt m gdtr selector).cpu.tr =
      if m.object.guestTr ≠ m.object.osTr then selector else m.cpu.tr := by
  unfold loadGdt loadLog
  dsimp only
  split_ifs with h
  · exact ⟨⟨_, List.append_assoc _ _ _, rfl⟩, rfl, rfl⟩
  · exact ⟨⟨_, rfl, rfl⟩, rfl, rfl⟩

/-- `initialize_intermediate_gdt` and `load_intermediate_gdt`. -/
theorem loadIntermediateGdt_gdtLog {m m₂ : Machine} (guards : List (Guard Machine))
    (hgdtr : m₂.object.gdtr = m.cpu.gdtr) (hosTr : m₂.object.osTr = m.cpu.tr)
    (hnext : m₂.object.nextVirtualProcessor = m.object.nextVirtualProcessor)
    (hcpuGdtr : m₂.cpu.gdtr = m.cpu.gdtr) (hcpuTr : m₂.cpu.tr = m.cpu.tr) :
    ∃ m₃ m₄, initializeIntermediateGdt p ⟨m₂, guards⟩ = .next () ⟨m₃, guards⟩ ∧
      loadIntermediateGdt p ⟨m₃, guards⟩ = .next () ⟨m₄, guards⟩ ∧
      m₄.object.gdtr = m.cpu.gdtr ∧ m₄.object.osTr = m.cpu.tr ∧
      m₄.object.guestTr = launchTr p m ∧ m₄.cpu.gdtr = launchGdtr p m ∧
      m₄.cpu.tr = launchTr p m ∧
      ∃ t, m₄.trace = m₂.trace ++ t ∧ gdtLog t =
        loadLog m.cpu.gdtr (launchGdtr p m) (launchTr p m) m.cpu.tr (launchTr p m) := by
  obtain ⟨m₃, hinit, htrace, hcpu, ho, hosTr₃, hnext₃, hguestTr, hlimit⟩ :
      ∃ m₃, initializeIntermediateGdt p ⟨m₂, guards⟩ = .next () ⟨m₃, guards⟩ ∧
        m₃.trace = m₂.trace ∧ m₃.cpu = m₂.cpu ∧ m₃.object.gdtr = m₂.object.gdtr ∧
        m₃.object.osTr = m₂.object.osTr ∧
        m₃.object.nextVirtualProcessor = m₂.object.nextVirtualProcessor ∧
        m₃.object.guestTr = launchTr p m ∧
        m₃.object.intermediateGdtLimit.setWidth 16 = (launchGdtr p m).limit := by
    unfold initializeIntermediateGdt launchTr launchGdtr trIndex
    simp only [bind_apply, this_apply, use_apply]
    split_ifs
    · refine ⟨_, rfl, rfl, rfl, rfl, rfl, rfl, hosTr, ?_⟩
      show (m₂.object.gdtr.limit.setWidth 64).setWidth 16 = _
      rw [hgdtr]
      exact BitVec.setWidth_setWidth_of_le _ (by decide)
    · refine ⟨_, rfl, rfl, rfl, rfl, rfl, rfl, ?_, ?_⟩
      · show (((m₂.object.gdtr.limit.setWidth 64 + 1#64) / 8#64) <<< 3).setWidth 16 = _
        rw [hgdtr]
      · show (m₂.object.gdtr.limit.setWidth 64 + 2#64 * 8#64 : Word).setWidth 16 = _
        rw [hgdtr]
  have hload : loadIntermediateGdt p ⟨m₃, guards⟩ = .next ()
      ⟨loadGdt (m₃.use .intermediateGdt (m₃.object.nextVirtualProcessor - 1#64)) (launchGdtr p m)
        (launchTr p m), guards⟩ := by
    have hbase : (launchGdtr p m).base =
        p.layout.intermediateGdt (m₃.object.nextVirtualProcessor - 1#64) := by
      rw [hnext₃, hnext]
      rfl
    unfold loadIntermediateGdt
    simp only [bind_apply, this_apply, use_apply, exec_apply]
    rw [hlimit, ← hbase, ← hguestTr]
    split_ifs with hchanged
    · rw [loadGdt_of_ne (m := m₃.use _ _) hchanged]
      rfl
    · rw [loadGdt_of_eq (m := m₃.use _ _) (not_not.mp hchanged)]
      rfl
  obtain ⟨⟨t, ht, hlog⟩, hgdtr₄, htr₄⟩ := loadGdt_spec
    (m₃.use .intermediateGdt (m₃.object.nextVirtualProcessor - 1#64)) (launchGdtr p m)
    (launchTr p m)
  have hobject := loadGdt_object
    (m₃.use .intermediateGdt (m₃.object.nextVirtualProcessor - 1#64)) (launchGdtr p m)
    (launchTr p m)
  rw [Machine.use_object] at hobject hlog htr₄
  rw [Machine.use_cpu, hcpu] at hlog htr₄
  rw [hguestTr, hosTr₃, hosTr, hcpuGdtr] at hlog
  rw [hguestTr, hosTr₃, hosTr, hcpuTr] at htr₄
  refine ⟨m₃, _, hinit, hload, ?_, ?_, ?_, hgdtr₄, ?_, t, ?_, hlog⟩
  · rw [hobject, ho, hgdtr]
  · rw [hobject, hosTr₃, hosTr]
  · rw [hobject, hguestTr]
  · rw [htr₄]
    split_ifs with h
    · rfl
    · exact (not_not.mp h).symm
  · rw [ht, Machine.use_trace, htrace]

/-- What the guards of a failure leave. -/
theorem rollback_gdtLog {m : Machine} :
    (∃ t, (destroy hostGuards m).trace = m.trace ++ t ∧ gdtLog t =
      loadLog m.cpu.gdtr m.object.gdtr m.object.guestTr m.object.osTr m.object.osTr) ∧
    (destroy hostGuards m).cpu.gdtr = m.object.gdtr ∧
    (destroy hostGuards m).cpu.tr =
      if m.object.guestTr ≠ m.object.osTr then m.object.osTr else m.cpu.tr := by
  obtain ⟨⟨t, ht, hlog⟩, hgdtr, htr⟩ := loadGdt_spec (m.exec (.movCr3 m.object.guestCr3))
    m.object.gdtr m.object.osTr
  refine ⟨⟨(.movCr3 m.object.guestCr3, m.cpu) :: t ++ [(.sti,
    (loadGdt (m.exec (.movCr3 m.object.guestCr3)) m.object.gdtr m.object.osTr).cpu)], ?_, ?_⟩,
    hgdtr, htr⟩
  · show (loadGdt (m.exec (.movCr3 m.object.guestCr3)) m.object.gdtr m.object.osTr).trace ++
      [(.sti, (loadGdt (m.exec (.movCr3 m.object.guestCr3)) m.object.gdtr
        m.object.osTr).cpu)] = _
    rw [ht, Machine.exec_trace, List.append_assoc, List.append_assoc]
    rfl
  · rw [gdtLog_append]
    show gdtLog t ++ [] = _
    rw [List.append_nil, hlog]
    rfl

/-- The instructions that load the GDT and the task register in a launch from `m` that fails after
loading the intermediate GDT. -/
def failingGdtLog (m : Machine) : List (Instruction × Gdtr) :=
  loadLog m.cpu.gdtr (launchGdtr p m) (launchTr p m) m.cpu.tr (launchTr p m) ++
    loadLog (launchGdtr p m) m.cpu.gdtr (launchTr p m) m.cpu.tr m.cpu.tr

/-- A failing run: it does not touch the GDT, or loads the intermediate GDT and puts the GDT back. -/
theorem mainGdt_gdtLog {m m₂ : Machine} {cpuid : Word} {e : Error} {s : Frame Machine}
    (hgdtr : m₂.object.gdtr = m.cpu.gdtr) (hosTr : m₂.object.osTr = m.cpu.tr)
    (hnext : m₂.object.nextVirtualProcessor = m.object.nextVirtualProcessor)
    (hcpuGdtr : m₂.cpu.gdtr = m.cpu.gdtr) (hcpuTr : m₂.cpu.tr = m.cpu.tr)
    (hrun : mainGdt p cpuid ⟨m₂, [⟨Machine.exec .sti, true⟩]⟩ = .returned e s) :
    (∃ t, (destroy s.guards s.state).trace = m₂.trace ++ t ∧ gdtLog t = failingGdtLog p m) ∧
      (destroy s.guards s.state).cpu.gdtr = m.cpu.gdtr ∧
      (destroy s.guards s.state).cpu.tr = m.cpu.tr := by
  obtain ⟨m₃, m₄, hinit, hload, hgdtr₄, hosTr₄, hguestTr₄, hcpuGdtr₄, hcpuTr₄, t₄, ht₄, hlog₄⟩ :=
    loadIntermediateGdt_gdtLog p [⟨Machine.exec .sti, true⟩] hgdtr hosTr hnext hcpuGdtr hcpuTr
  unfold mainGdt at hrun
  rw [bind_of_next hinit, bind_of_next hload] at hrun
  have hsame : GdtSame m₄ (m₄.exec (.movCr3 m₄.object.hostCr3)) := (GdtSame.refl m₄).exec trivial
  obtain ⟨m₅, h₅, hprotect⟩ := onFirstCpu_keepsGdt cpuid
    (initializeProtection_keepsGdt p (m₄.exec (.movCr3 m₄.object.hostCr3)) hostGuards)
  change (onFirstCpu cpuid (initializeProtection p) >>= fun _ => mainVmx p)
    ⟨m₄.exec (.movCr3 m₄.object.hostCr3), hostGuards⟩ = _ at hrun
  -- Wherever it fails, the guards run on a machine with the GDT that was loaded.
  obtain ⟨m₆, h₆, rfl⟩ : ∃ m₆, GdtSame m₄ m₆ ∧ s = ⟨m₆, hostGuards⟩ := by
    rcases hprotect with hprotect | ⟨e', hprotect⟩ | hprotect
    · rw [bind_of_next hprotect] at hrun
      obtain ⟨m₆, h₆, hs⟩ := mainVmx_keepsGdt p hrun
      exact ⟨m₆, (hsame.trans h₅).trans h₆, hs⟩
    · rw [bind_of_returned hprotect] at hrun
      injection hrun with _ hs
      exact ⟨m₅, hsame.trans h₅, hs.symm⟩
    · rw [bind_of_undefined hprotect] at hrun
      exact nomatch hrun
  obtain ⟨t₆, ht₆, hlog₆⟩ := h₆.log
  obtain ⟨⟨t, ht, hlog⟩, hgdtr', htr'⟩ := rollback_gdtLog (m := m₆)
  rw [h₆.gdtr, h₆.objectGdtr, h₆.guestTr, h₆.osTr, hgdtr₄, hosTr₄, hguestTr₄, hcpuGdtr₄] at hlog
  rw [h₆.objectGdtr, hgdtr₄] at hgdtr'
  rw [h₆.guestTr, h₆.osTr, h₆.tr, hosTr₄, hguestTr₄, hcpuTr₄] at htr'
  refine ⟨⟨t₄ ++ (t₆ ++ t), ?_, ?_⟩, hgdtr', ?_⟩
  · rw [ht, ht₆, ht₄]
    simp only [List.append_assoc]
  · rw [gdtLog_append, gdtLog_append, hlog₄, hlog₆, hlog]
    rfl
  · rw [htr']
    split_ifs with h
    · rfl
    · exact not_not.mp h

theorem runMain_gdtLog {cpuid : Word} {physicalToVirtual : Option (Word → Word)} {m m' : Machine}
    {e : Error} (hrun : runMain p cpuid physicalToVirtual m = .failed e m') :
    m'.cpu.gdtr = m.cpu.gdtr ∧ m'.cpu.tr = m.cpu.tr ∧
      ∃ t, m'.trace = m.trace ++ t ∧ (gdtLog t = [] ∨ gdtLog t = failingGdtLog p m) := by
  obtain ⟨s, hmain, hm'⟩ : ∃ s, main p cpuid physicalToVirtual ⟨m, []⟩ = .returned e s ∧
      m' = destroy s.guards s.state := by
    unfold runMain at hrun
    cases hmain : main p cpuid physicalToVirtual ⟨m, []⟩ with
    | next _ s =>
      rw [hmain] at hrun
      exact nomatch hrun
    | undefined s =>
      rw [hmain] at hrun
      exact nomatch hrun
    | returned e' s =>
      rw [hmain] at hrun
      injection hrun with he hs
      exact ⟨s, by rw [he], hs.symm⟩
  subst hm'
  rw [main_eq] at hmain
  obtain ⟨o, ho, hmodule⟩ := onFirstCpu_changesObject cpuid
    (initializeModule_changesObject p physicalToVirtual ⟨captured m, [⟨Machine.exec .sti, true⟩]⟩)
  rcases hmodule with hmodule | ⟨e', hmodule⟩ | hmodule
  · rw [bind_of_next hmodule] at hmain
    have hcpuGdtr : ((captured m).setObject o).cpu.gdtr = m.cpu.gdtr := rfl
    have hcpuTr : ((captured m).setObject o).cpu.tr = m.cpu.tr := rfl
    obtain ⟨⟨t, ht, hlog⟩, hgdtr, htr⟩ :=
      mainGdt_gdtLog p ho.gdtr ho.osTr ho.nextVirtualProcessor hcpuGdtr hcpuTr hmain
    refine ⟨hgdtr, htr, (.cli, m.cpu) :: t, ?_, .inr hlog⟩
    rw [ht]
    exact List.append_assoc m.trace [(.cli, m.cpu)] t
  · rw [bind_of_returned hmodule] at hmain
    injection hmain with _ hs
    subst hs
    exact ⟨rfl, rfl, [(.cli, m.cpu), (.sti, _)], List.append_assoc m.trace [(.cli, m.cpu)] _,
      .inl rfl⟩
  · rw [bind_of_undefined hmodule] at hmain
    exact nomatch hmain

/-! ### The task register -/

/-- Every `ltr` of the log is allowed in the memory that it meets, and marks its segment busy. -/
def LtrsAllowed : ByteMemory 64 → List (Instruction × Gdtr) → Prop
  | _, [] => True
  | memory, (.ltr selector, gdtr) :: t =>
    LtrAllowed memory gdtr selector ∧ LtrsAllowed (markBusy memory gdtr selector) t
  | memory, _ :: t => LtrsAllowed memory t

/-- The GDTR is restored, without a fault when the task register is loaded, and the task register is
restored if it selected a present task state segment. -/
structure GdtRestored (memory : ByteMemory 64) (m m' : Machine) : Prop where
  gdtr : m'.cpu.gdtr = m.cpu.gdtr
  ltr : ∀ t, m'.trace = m.trace ++ t → LtrsAllowed memory (gdtLog t)
  tr : ¬IsNull m.cpu.tr → InGdt m.cpu.gdtr m.cpu.tr 16 →
    (descriptorAt memory m.cpu.gdtr.base m.cpu.tr).system = true →
    (descriptorAt memory m.cpu.gdtr.base m.cpu.tr).present = true → m'.cpu.tr = m.cpu.tr

/-- The memory after `initialize_intermediate_gdt` in a launch from `m`. -/
def Platform.launchMemory (memory : ByteMemory 64) (guestTss : Word) (m : Machine) :
    ByteMemory 64 :=
  intermediateGdtMemory memory (p.layout.intermediateGdt (m.object.nextVirtualProcessor - 1#64))
    guestTss m.cpu.gdtr m.cpu.tr

variable {p} {memory : ByteMemory 64} {m : Machine}

/-- Without a present TSS, a rollback that loads the old task register faults. -/
theorem not_ltrsAllowed_failingGdtLog {guestTss : Word}
    (hapart : GdtApart m.cpu.gdtr (p.layout.intermediateGdt (m.object.nextVirtualProcessor - 1#64)))
    (hpresent : (p.onMemory memory m).taskStateSegmentPresent = false)
    (htr : m.cpu.tr ≠ (trIndex m.cpu.gdtr <<< 3).setWidth 16) :
    ¬LtrsAllowed (p.launchMemory memory guestTss m) (failingGdtLog (p.onMemory memory m) m) := by
  have hlaunchTr : launchTr (p.onMemory memory m) m =
      (trIndex m.cpu.gdtr <<< 3).setWidth 16 := by
    unfold launchTr
    rw [hpresent]
    rfl
  have hchanged : launchTr (p.onMemory memory m) m ≠ m.cpu.tr := fun h => htr (h ▸ hlaunchTr)
  unfold failingGdtLog loadLog
  rw [if_pos hchanged, if_pos hchanged]
  rintro ⟨-, hltr, -⟩
  -- The descriptor that it loads is the one that was found not to be present.
  have htrue := taskStateSegmentPresent_of_ltrAllowed (by rfl) hapart hltr
  exact absurd (hpresent.symm.trans htrue) Bool.false_ne_true

/-- A launch that does not change the task register does not load it. -/
theorem ltrsAllowed_failingGdtLog (h : launchTr p m = m.cpu.tr) :
    LtrsAllowed memory (failingGdtLog p m) := by
  unfold failingGdtLog loadLog
  rw [if_neg (not_not.mpr h), if_neg (not_not.mpr h)]
  trivial

theorem launchTr_eq_iff :
    launchTr p m = m.cpu.tr ↔
      p.taskStateSegmentPresent = true ∨ m.cpu.tr = (trIndex m.cpu.gdtr <<< 3).setWidth 16 := by
  unfold launchTr
  cases p.taskStateSegmentPresent with
  | true => exact iff_of_true rfl (.inl rfl)
  | false => exact ⟨fun h => .inr h.symm, fun h => (h.resolve_left Bool.false_ne_true).symm⟩

/-- A launch that fails after loading the intermediate GDT puts the GDT and the task register back
without a fault, if and only if the OS has a present TSS or its task register is the selector behind
its GDT. -/
theorem gdtRestored_iff {guestTss : Word} {cpuid : Word} {physicalToVirtual : Option (Word → Word)}
    {m' : Machine} {e : Error} {t : List (Instruction × Cpu)} {gdtr : Gdtr} {c : Cpu}
    (hapart : GdtApart m.cpu.gdtr (p.layout.intermediateGdt (m.object.nextVirtualProcessor - 1#64)))
    (hrun : runMain (p.onMemory memory m) cpuid physicalToVirtual m = .failed e m')
    (htrace : m'.trace = m.trace ++ t) (hlgdt : (.lgdt gdtr, c) ∈ t) :
    GdtRestored (p.launchMemory memory guestTss m) m m' ↔
      taskStateSegmentPresent memory
          (p.layout.intermediateGdt (m.object.nextVirtualProcessor - 1#64)) m.cpu.gdtr m.cpu.tr =
        true ∨
      m.cpu.tr = (trIndex m.cpu.gdtr <<< 3).setWidth 16 := by
  obtain ⟨hgdtr, htr, t', ht', hlog⟩ := runMain_gdtLog (p.onMemory memory m) hrun
  have ht : t' = t := List.append_cancel_left (ht'.symm.trans htrace)
  subst ht
  have hfailing : gdtLog t' = failingGdtLog (p.onMemory memory m) m := by
    refine hlog.resolve_left fun hnil => ?_
    have hmem := mem_gdtLog_lgdt hlgdt
    rw [hnil] at hmem
    exact List.not_mem_nil hmem
  constructor
  · intro h
    have hltr := h.ltr t' ht'
    rw [hfailing] at hltr
    by_contra hnot
    push Not at hnot
    exact not_ltrsAllowed_failingGdtLog hapart (Bool.eq_false_iff.mpr hnot.1) hnot.2 hltr
  · intro h
    refine ⟨hgdtr, fun t ht => ?_, fun _ _ _ _ => htr⟩
    rw [List.append_cancel_left (ht.symm.trans ht'), hfailing]
    exact ltrsAllowed_failingGdtLog (launchTr_eq_iff.mpr h)

/-- A CPU of a firmware without a TSS. -/
def firmwareCpu : Machine := { secondCpu with cpu := { secondCpu.cpu with tr := 0#16 } }

/-- A memory with a busy TSS in the OS GDT at `0x40`. -/
def busyTss : ByteMemory 64 := fun x => if x = 0x8045#64 then 0x8b#8 else 0#8

theorem gdtApart_secondCpu : GdtApart ⟨0x8000#64, 0x7f#16⟩ 0x510000#64 := by
  intro k hk
  change k < 0x80 at hk
  rw [mem_region_iff (by decide)]
  show ¬(0x510000 ≤ (0x8000#64 + BitVec.ofNat 64 k).toNat ∧ _)
  rw [BitVec.toNat_add, BitVec.toNat_ofNat, BitVec.toNat_ofNat]
  omega

theorem not_gdtRestored_firmwareCpu :
    ∃ m' t gdtr c, runMain (noVmptrld.onMemory (fun _ => 0#8) firmwareCpu) 1#64 none firmwareCpu =
        .failed .vmptrldFailed m' ∧
      m'.trace = firmwareCpu.trace ++ t ∧ (.lgdt gdtr, c) ∈ t ∧
      ¬GdtRestored (noVmptrld.launchMemory (fun _ => 0#8) 0x900000#64 firmwareCpu) firmwareCpu
        m' := by
  refine ⟨_, _, _, _, rfl, rfl, .tail _ (.head _), fun h => ?_⟩
  have hltr := h.ltr _ rfl
  exact not_ltrsAllowed_failingGdtLog (p := noVmptrld) gdtApart_secondCpu rfl (by decide) hltr

theorem gdtRestored_secondCpu :
    ∃ m', runMain (noVmptrld.onMemory busyTss secondCpu) 1#64 none secondCpu =
        .failed .vmptrldFailed m' ∧
      GdtRestored (noVmptrld.launchMemory busyTss 0x900000#64 secondCpu) secondCpu m' := by
  obtain ⟨m', t, gdtr, c, hrun, htrace, hlgdt⟩ :
      ∃ m' t gdtr c, runMain (noVmptrld.onMemory busyTss secondCpu) 1#64 none secondCpu =
          .failed .vmptrldFailed m' ∧
        m'.trace = secondCpu.trace ++ t ∧ (.lgdt gdtr, c) ∈ t :=
    ⟨_, _, _, _, rfl, rfl, .tail _ (.head _)⟩
  have hpresent : taskStateSegmentPresent busyTss 0x510000#64 ⟨0x8000#64, 0x7f#16⟩ 0x40#16 = true := by
    decide +kernel
  exact ⟨m', hrun, (gdtRestored_iff (p := noVmptrld) gdtApart_secondCpu hrun htrace hlgdt).mpr
    (.inl hpresent)⟩

end Zpp.Hypervisor
