import ZppHypervisor.Hypervisor.Main

/-!
# What a run of `main` does

`runMain_cases` lists the ways `main` can end, each with the machine it leaves: the part before a
failure, then the guards that are alive there, in the reverse order of their construction.
-/

namespace Zpp.Hypervisor

open X64 ScopeGuard Block

/-! ### Steps of the machine -/

namespace Machine

variable (m : Machine)

@[simp] theorem exec_object (i : Instruction) : (m.exec i).object = m.object := rfl
@[simp] theorem exec_cpu (i : Instruction) : (m.exec i).cpu = i.step m.cpu := rfl
@[simp] theorem exec_slots (i : Instruction) : (m.exec i).slots = m.slots := rfl
@[simp] theorem exec_vpids (i : Instruction) : (m.exec i).vpids = m.vpids := rfl
@[simp] theorem exec_trace (i : Instruction) : (m.exec i).trace = m.trace ++ [(i, m.cpu)] := rfl

/-- The same machine with another object. -/
def setObject (o : Object) : Machine := { m with object := o }

@[simp] theorem setObject_object (o : Object) : (m.setObject o).object = o := rfl
@[simp] theorem setObject_cpu (o : Object) : (m.setObject o).cpu = m.cpu := rfl
@[simp] theorem setObject_slots (o : Object) : (m.setObject o).slots = m.slots := rfl
@[simp] theorem setObject_vpids (o : Object) : (m.setObject o).vpids = m.vpids := rfl
@[simp] theorem setObject_trace (o : Object) : (m.setObject o).trace = m.trace := rfl

@[simp] theorem use_object (array : CpuArray) (i : Word) : (m.use array i).object = m.object := rfl
@[simp] theorem use_cpu (array : CpuArray) (i : Word) : (m.use array i).cpu = m.cpu := rfl
@[simp] theorem use_vpids (array : CpuArray) (i : Word) : (m.use array i).vpids = m.vpids := rfl
@[simp] theorem use_trace (array : CpuArray) (i : Word) : (m.use array i).trace = m.trace := rfl
@[simp] theorem use_slots (array : CpuArray) (i : Word) :
    (m.use array i).slots = m.slots ++ [(array, i)] := rfl

end Machine

/-- The members that the initializing functions do not change. -/
structure Object.Keeps (o o' : Object) : Prop where
  availableStackIndex : o'.availableStackIndex = o.availableStackIndex
  nextVirtualProcessor : o'.nextVirtualProcessor = o.nextVirtualProcessor
  guestCr0 : o'.guestCr0 = o.guestCr0
  guestCr3 : o'.guestCr3 = o.guestCr3
  guestCr4 : o'.guestCr4 = o.guestCr4
  gdtr : o'.gdtr = o.gdtr
  osTr : o'.osTr = o.osTr

theorem Object.Keeps.refl (o : Object) : o.Keeps o := ⟨rfl, rfl, rfl, rfl, rfl, rfl, rfl⟩

theorem Object.Keeps.trans {o₁ o₂ o₃ : Object} (h : o₁.Keeps o₂) (h' : o₂.Keeps o₃) :
    o₁.Keeps o₃ where
  availableStackIndex := h'.availableStackIndex.trans h.availableStackIndex
  nextVirtualProcessor := h'.nextVirtualProcessor.trans h.nextVirtualProcessor
  guestCr0 := h'.guestCr0.trans h.guestCr0
  guestCr3 := h'.guestCr3.trans h.guestCr3
  guestCr4 := h'.guestCr4.trans h.guestCr4
  gdtr := h'.gdtr.trans h.gdtr
  osTr := h'.osTr.trans h.osTr

section Steps

variable {ρ : Type} (s : Frame Machine)

@[simp] theorem this_apply : (this : Block Machine ρ Object) s = .next s.state.object s := rfl

@[simp] theorem cpu_apply : (cpu : Block Machine ρ Cpu) s = .next s.state.cpu s := rfl

@[simp] theorem exec_apply (i : Instruction) :
    (exec i : Block Machine ρ Unit) s = .next () ⟨s.state.exec i, s.guards⟩ := rfl

@[simp] theorem update_apply (f : Object → Object) :
    (update f : Block Machine ρ Unit) s =
      .next () ⟨s.state.setObject (f s.state.object), s.guards⟩ := rfl

@[simp] theorem use_apply (array : CpuArray) (i : Word) :
    (use array i : Block Machine ρ Unit) s = .next () ⟨s.state.use array i, s.guards⟩ := rfl

end Steps

/-! ### The log -/

/-- The instruction may follow a log of a CPU that started with the registers `c₀`: CR4 is not written
in VMX operation, the GDT is loaded under the initial CR3, and `vmxon` and `vmxoff` alternate. -/
def Allowed (c₀ : Cpu) (c : Cpu) : Instruction → Prop
  | .movCr4 _ => c.vmxOperation = false
  | .lgdt _ => c.cr3 = c₀.cr3
  | .vmxon _ false => c.vmxOperation = false
  | .vmxoff => c.vmxOperation = true
  | _ => True

/-- A successful `vmxon`. -/
def isVmxon : Instruction × Cpu → Bool
  | (.vmxon _ false, _) => true
  | _ => false

/-- A `vmxoff`. -/
def isVmxoff : Instruction × Cpu → Bool
  | (.vmxoff, _) => true
  | _ => false

/-- Since `m₀`, every instruction was allowed, and there was a `vmxoff` for every successful `vmxon`,
but for the one that the CPU is in VMX operation from. -/
structure LogInv (m₀ m : Machine) (t : List (Instruction × Cpu)) : Prop where
  trace : m.trace = m₀.trace ++ t
  allowed : ∀ e ∈ t, Allowed m₀.cpu e.2 e.1
  balanced : t.countP isVmxon = t.countP isVmxoff + m.cpu.vmxOperation.toNat

theorem LogInv.refl {m : Machine} (h : m.cpu.vmxOperation = false) : LogInv m m [] where
  trace := (List.append_nil _).symm
  allowed e he := absurd he List.not_mem_nil
  balanced := by rw [h]; rfl

theorem LogInv.exec {m₀ m : Machine} {t : List (Instruction × Cpu)} (h : LogInv m₀ m t)
    {i : Instruction} (hi : Allowed m₀.cpu m.cpu i) :
    LogInv m₀ (m.exec i) (t ++ [(i, m.cpu)]) where
  trace := by rw [Machine.exec_trace, h.trace, List.append_assoc]
  allowed e he := by
    rcases List.mem_append.mp he with he | he
    · exact h.allowed e he
    · rw [List.mem_singleton] at he
      subst he
      exact hi
  balanced := by
    have hb := h.balanced
    rw [List.countP_append, List.countP_append, hb]
    cases i with
    | vmxon region carry =>
      cases carry with
      | true => simp [isVmxon, isVmxoff, Instruction.step]
      | false =>
        have hoff : m.cpu.vmxOperation = false := hi
        simp [isVmxon, isVmxoff, Instruction.step, hoff]
    | vmxoff =>
      have hon : m.cpu.vmxOperation = true := hi
      simp [isVmxon, isVmxoff, Instruction.step, hon]
    | _ => simp [isVmxon, isVmxoff, Instruction.step]

theorem LogInv.congr {m₀ m m' : Machine} {t : List (Instruction × Cpu)} (h : LogInv m₀ m t)
    (htrace : m'.trace = m.trace) (hcpu : m'.cpu = m.cpu) : LogInv m₀ m' t where
  trace := htrace.trans h.trace
  allowed := h.allowed
  balanced := by rw [hcpu]; exact h.balanced

/-! ### Phases -/

/-- A part of `main` that leaves the control registers and the kept members as they are, and uses its
own element of some per-CPU arrays. -/
structure Phase (arrays : List CpuArray) (m m' : Machine) : Prop where
  keeps : m.object.Keeps m'.object
  cr0 : m'.cpu.cr0 = m.cpu.cr0
  cr3 : m'.cpu.cr3 = m.cpu.cr3
  cr4 : m'.cpu.cr4 = m.cpu.cr4
  vmxOperation : m'.cpu.vmxOperation = m.cpu.vmxOperation
  log : ∀ m₀ t, m.cpu.cr3 = m₀.cpu.cr3 → LogInv m₀ m t → ∃ t', LogInv m₀ m' t'
  slots : m'.slots = m.slots ++ arrays.map fun a => (a, m.object.nextVirtualProcessor - 1#64)
  vpids : m'.vpids = m.vpids

theorem Phase.trans {a a' : List CpuArray} {m₁ m₂ m₃ : Machine} (h : Phase a m₁ m₂)
    (h' : Phase a' m₂ m₃) : Phase (a ++ a') m₁ m₃ where
  keeps := h.keeps.trans h'.keeps
  cr0 := h'.cr0.trans h.cr0
  cr3 := h'.cr3.trans h.cr3
  cr4 := h'.cr4.trans h.cr4
  vmxOperation := h'.vmxOperation.trans h.vmxOperation
  log m₀ t hcr3 hlog := by
    obtain ⟨t', hlog'⟩ := h.log m₀ t hcr3 hlog
    exact h'.log m₀ t' (h.cr3.trans hcr3) hlog'
  slots := by
    rw [h'.slots, h.slots, h.keeps.nextVirtualProcessor, List.map_append, List.append_assoc]
  vpids := h'.vpids.trans h.vpids

/-- A phase that executes no instruction. -/
structure Quiet (arrays : List CpuArray) (m m' : Machine) : Prop where
  keeps : m.object.Keeps m'.object
  cpu : m'.cpu = m.cpu
  trace : m'.trace = m.trace
  slots : m'.slots = m.slots ++ arrays.map fun a => (a, m.object.nextVirtualProcessor - 1#64)
  vpids : m'.vpids = m.vpids

theorem Quiet.trans {a a' : List CpuArray} {m₁ m₂ m₃ : Machine} (h : Quiet a m₁ m₂)
    (h' : Quiet a' m₂ m₃) : Quiet (a ++ a') m₁ m₃ where
  keeps := h.keeps.trans h'.keeps
  cpu := h'.cpu.trans h.cpu
  trace := h'.trace.trans h.trace
  slots := by
    rw [h'.slots, h.slots, h.keeps.nextVirtualProcessor, List.map_append, List.append_assoc]
  vpids := h'.vpids.trans h.vpids

theorem Quiet.phase {arrays : List CpuArray} {m m' : Machine} (h : Quiet arrays m m') :
    Phase arrays m m' where
  keeps := h.keeps
  cr0 := by rw [h.cpu]
  cr3 := by rw [h.cpu]
  cr4 := by rw [h.cpu]
  vmxOperation := by rw [h.cpu]
  log _ t _ hlog := ⟨t, hlog.congr h.trace h.cpu⟩
  slots := h.slots
  vpids := h.vpids

theorem quiet_setObject {m : Machine} {o : Object} (h : m.object.Keeps o) :
    Quiet [] m (m.setObject o) :=
  ⟨h, rfl, rfl, (List.append_nil _).symm, rfl⟩

theorem quiet_use (m : Machine) (array : CpuArray) :
    Quiet [array] m (m.use array (m.object.nextVirtualProcessor - 1#64)) :=
  ⟨.refl _, rfl, rfl, rfl, rfl⟩

theorem phase_lgdt (m : Machine) (gdtr : Gdtr) : Phase [] m (m.exec (.lgdt gdtr)) where
  keeps := .refl _
  cr0 := rfl
  cr3 := rfl
  cr4 := rfl
  vmxOperation := rfl
  log _ _ hcr3 hlog := ⟨_, hlog.exec hcr3⟩
  slots := (List.append_nil _).symm
  vpids := rfl

theorem phase_ltr (m : Machine) (selector : BitVec 16) : Phase [] m (m.exec (.ltr selector)) where
  keeps := .refl _
  cr0 := rfl
  cr3 := rfl
  cr4 := rfl
  vmxOperation := rfl
  log _ _ _ hlog := ⟨_, hlog.exec trivial⟩
  slots := (List.append_nil _).symm
  vpids := rfl

variable (p : Platform)

/-! ### The initializing functions -/

/-- A run that changes only the object: it goes on, returns an error or is undefined. -/
def ChangesObject (s : Frame Machine) (x : Result (Frame Machine) Error Unit) : Prop :=
  ∃ o, s.state.object.Keeps o ∧
    (x = .next () ⟨s.state.setObject o, s.guards⟩ ∨
      (∃ e, x = .returned e ⟨s.state.setObject o, s.guards⟩) ∨
      x = .undefined ⟨s.state.setObject o, s.guards⟩)

theorem ChangesObject.bind {x : Code Unit} {f : Unit → Code Unit} {s : Frame Machine}
    (hx : ChangesObject s (x s)) (hf : ∀ s', ChangesObject s' (f () s')) :
    ChangesObject s ((x >>= f) s) := by
  obtain ⟨o, ho, hx | ⟨e, hx⟩ | hx⟩ := hx
  · obtain ⟨o', ho', h⟩ := hf ⟨s.state.setObject o, s.guards⟩
    rw [bind_of_next hx]
    exact ⟨o', ho.trans ho', h⟩
  · exact ⟨o, ho, .inr (.inl ⟨e, bind_of_returned hx⟩)⟩
  · exact ⟨o, ho, .inr (.inr (bind_of_undefined hx))⟩

theorem update_changesObject {f : Object → Object} (hf : ∀ o, Object.Keeps o (f o)) (s : Frame Machine) :
    ChangesObject s ((update f : Code Unit) s) :=
  ⟨f s.state.object, hf _, .inl rfl⟩

/-- Storing the result of a computation on the members. -/
theorem orFail_changesObject {α : Type} {f : α → Object → Object} (hf : ∀ a o, Object.Keeps o (f a o))
    (x : Object → Loop.Outcome Error α) (s : Frame Machine) :
    ChangesObject s ((do let o ← this; let a ← orFail (x o); update (f a) : Code Unit) s) := by
  rw [bind_of_next (this_apply s)]
  cases hx : x s.state.object with
  | next a => exact ⟨f a s.state.object, hf a _, .inl rfl⟩
  | returned e => exact ⟨_, .refl _, .inr (.inl ⟨e, rfl⟩)⟩
  | undefined => exact ⟨_, .refl _, .inr (.inr rfl)⟩

theorem initializeModule_changesObject (physicalToVirtual : Option (Word → Word))
    (s : Frame Machine) : ChangesObject s (initializeModule p physicalToVirtual s) := by
  refine (update_changesObject (fun o => ?_) s).bind fun s =>
    (update_changesObject (fun o => ?_) s).bind fun s =>
    (update_changesObject (fun o => ?_) s).bind fun s => orFail_changesObject (fun map o => ?_) _ s
  all_goals exact ⟨rfl, rfl, rfl, rfl, rfl, rfl, rfl⟩

theorem initializeProtection_changesObject (s : Frame Machine) :
    ChangesObject s (initializeProtection p s) := by
  refine (update_changesObject (fun o => ?_) s).bind fun s =>
    (update_changesObject (fun o => ?_) s).bind fun s =>
    (update_changesObject (fun o => ?_) s).bind fun s =>
    (orFail_changesObject (fun ept o => ?_) _ s).bind fun s =>
    orFail_changesObject (fun ept o => ?_) _ s
  all_goals exact ⟨rfl, rfl, rfl, rfl, rfl, rfl, rfl⟩

theorem onFirstCpu_changesObject {block : Code Unit} {s : Frame Machine} (cpuid : Word)
    (h : ChangesObject s (block s)) : ChangesObject s (onFirstCpu cpuid block s) := by
  unfold onFirstCpu
  split_ifs
  · exact h
  · exact ⟨s.state.object, .refl _, .inl rfl⟩

/-! ### Intermediate GDT and VMX structures -/

theorem initializeIntermediateGdt_quiet (s : Frame Machine) :
    ∃ m, initializeIntermediateGdt p s = .next () ⟨m, s.guards⟩ ∧
      Quiet [.intermediateGdt, .guestTss] s.state m := by
  have huse : Quiet [.intermediateGdt, .guestTss] s.state _ :=
    (quiet_use s.state .intermediateGdt).trans (quiet_use _ .guestTss)
  unfold initializeIntermediateGdt
  simp only [bind_apply, this_apply, use_apply]
  split_ifs
  · exact ⟨_, rfl, huse.trans (quiet_setObject ⟨rfl, rfl, rfl, rfl, rfl, rfl, rfl⟩)⟩
  · exact ⟨_, rfl, huse.trans (quiet_setObject ⟨rfl, rfl, rfl, rfl, rfl, rfl, rfl⟩)⟩

theorem loadIntermediateGdt_phase (s : Frame Machine) :
    ∃ m, loadIntermediateGdt p s = .next () ⟨m, s.guards⟩ ∧ Phase [.intermediateGdt] s.state m := by
  have hload : ∀ gdtr, Phase [.intermediateGdt] s.state _ := fun gdtr =>
    (quiet_use s.state .intermediateGdt).phase.trans (phase_lgdt _ gdtr)
  unfold loadIntermediateGdt
  simp only [bind_apply, this_apply, use_apply, exec_apply]
  split_ifs
  · exact ⟨_, rfl, (hload _).trans (phase_ltr _ _)⟩
  · exact ⟨_, rfl, hload _⟩

theorem loadOsGdt_phase (m : Machine) : Phase [] m (loadOsGdt m) := by
  unfold loadOsGdt
  dsimp only
  split_ifs
  · exact (phase_lgdt m _).trans (phase_ltr _ _)
  · exact phase_lgdt m _

theorem initializeVmx_quiet (s : Frame Machine) :
    ∃ m, initializeVmx p s = .next () ⟨m, s.guards⟩ ∧ Quiet [.vmx, .vmxVmcs] s.state m :=
  ⟨_, rfl, ((quiet_use s.state .vmx).trans (quiet_use _ .vmxVmcs)).trans
    (quiet_setObject ⟨rfl, rfl, rfl, rfl, rfl, rfl, rfl⟩)⟩

/-! ### Root mode -/

/-- What `enter_root_mode` leaves unless it turned on VMX operation: the control registers as they
were, outside VMX operation. -/
structure RootModeFailed (m m' : Machine) : Prop where
  object : m'.object = m.object
  cr0 : m'.cpu.cr0 = m.cpu.cr0
  cr3 : m'.cpu.cr3 = m.cpu.cr3
  cr4 : m'.cpu.cr4 = m.cpu.cr4
  vmxOperation : m'.cpu.vmxOperation = false
  log : ∀ m₀ t, LogInv m₀ m t → ∃ t', LogInv m₀ m' t'
  slots : m'.slots = m.slots
  vpids : m'.vpids = m.vpids

/-- The CPU turned to the host control registers, outside VMX operation, turned back. -/
theorem rootModeFailed_restore {m m' : Machine} (host : Word) (host' : Word)
    (hvmx : m'.cpu.vmxOperation = false) (hobject : m'.object = m.object)
    (hcr3 : m'.cpu.cr3 = m.cpu.cr3) (hslots : m'.slots = m.slots) (hvpids : m'.vpids = m.vpids)
    (hlog : ∀ m₀ t, LogInv m₀ ((m.exec (.movCr0 host)).exec (.movCr4 host')) t →
      ∃ t', LogInv m₀ m' t') (hm : m.cpu.vmxOperation = false) :
    RootModeFailed m ((m'.exec (.movCr4 m.cpu.cr4)).exec (.movCr0 m.cpu.cr0)) where
  object := hobject
  cr0 := rfl
  cr3 := hcr3
  cr4 := rfl
  vmxOperation := hvmx
  log m₀ t h := by
    have hcr0 := h.exec (i := .movCr0 host) trivial
    obtain ⟨t', h'⟩ := hlog m₀ _ (hcr0.exec (i := .movCr4 host') hm)
    have hcr4 := h'.exec (i := .movCr4 m.cpu.cr4) hvmx
    exact ⟨_, hcr4.exec trivial⟩
  slots := hslots
  vpids := hvpids

/-- `enter_root_mode` from outside VMX operation fails without a trace in the registers, or succeeds. -/
theorem enterRootMode_cases (s : Frame Machine) (hvmx : s.state.cpu.vmxOperation = false) :
    (∃ e m, (Block.call (enterRootMode p) : Code _) s = .next (some e) ⟨m, s.guards⟩ ∧
      RootModeFailed s.state m) ∨
    ∃ m, (Block.call (enterRootMode p) : Code _) s = .next none ⟨m, s.guards⟩ ∧
      m.object = s.state.object ∧ m.slots = s.state.slots ∧ m.vpids = s.state.vpids := by
  unfold Block.call enterRootMode vmxon vmclear vmptrld
  simp only [bind_apply, this_apply, cpu_apply, exec_apply, construct_apply, pure_apply]
  cases hon : p.vmxonCarry with
  | true =>
    refine .inl ⟨.vmxonFailed, _, rfl, rootModeFailed_restore s.state.object.hostCr0
      s.state.object.hostCr4 ?_ rfl rfl rfl rfl (fun m₀ t h => ⟨_, h.exec trivial⟩) hvmx⟩
    simp [Instruction.step, hvmx]
  | false =>
    -- From here the guard that turns VMX operation off is alive.
    cases hclear : p.vmclearCarry with
    | true =>
      refine .inl ⟨.vmclearFailed, _, rfl, rootModeFailed_restore s.state.object.hostCr0
        s.state.object.hostCr4 rfl rfl rfl rfl rfl (fun m₀ t h => ?_) hvmx⟩
      have hroot := h.exec (i := .vmxon s.state.object.vmxPhysical false) hvmx
      have hcleared := hroot.exec (i := .vmclear s.state.object.vmcsPhysical true) trivial
      exact ⟨_, hcleared.exec (Bool.or_true _)⟩
    | false =>
      cases hptrld : p.vmptrldCarry with
      | true =>
        refine .inl ⟨.vmptrldFailed, _, rfl, rootModeFailed_restore s.state.object.hostCr0
          s.state.object.hostCr4 rfl rfl rfl rfl rfl (fun m₀ t h => ?_) hvmx⟩
        have hroot := h.exec (i := .vmxon s.state.object.vmxPhysical false) hvmx
        have hcleared := hroot.exec (i := .vmclear s.state.object.vmcsPhysical false) trivial
        have hloaded := hcleared.exec (i := .vmptrld s.state.object.vmcsPhysical true) trivial
        exact ⟨_, hloaded.exec (Bool.or_true _)⟩
      | false => exact .inr ⟨_, rfl, rfl, rfl, rfl⟩

/-! ### `main` -/

/-- The guards of `main` that put back CR3, the GDT and the interrupt flag. -/
theorem rollback_phase (m : Machine) :
    let m' := (loadOsGdt (m.exec (.movCr3 m.object.guestCr3))).exec .sti
    m.object.Keeps m'.object ∧ m'.cpu.cr0 = m.cpu.cr0 ∧ m'.cpu.cr3 = m.object.guestCr3 ∧
      m'.cpu.cr4 = m.cpu.cr4 ∧ m'.cpu.vmxOperation = m.cpu.vmxOperation ∧
      m'.slots = m.slots ∧ m'.vpids = m.vpids ∧
      ∀ m₀ t, m.object.guestCr3 = m₀.cpu.cr3 → LogInv m₀ m t → ∃ t', LogInv m₀ m' t' := by
  intro m'
  have h := loadOsGdt_phase (m.exec (.movCr3 m.object.guestCr3))
  refine ⟨h.keeps, h.cr0, h.cr3, h.cr4, h.vmxOperation, h.slots.trans (List.append_nil _), h.vpids,
    fun m₀ t hcr3 hlog => ?_⟩
  obtain ⟨t', hlog'⟩ := h.log m₀ _ hcr3 (hlog.exec (i := .movCr3 m.object.guestCr3) trivial)
  exact ⟨_, hlog'.exec trivial⟩

/-- The registers captured, with interrupts disabled. -/
def captured (m : Machine) : Machine :=
  (m.exec .cli).setObject
    { m.object with
      guestCr0 := m.cpu.cr0
      guestCr3 := m.cpu.cr3
      guestCr4 := m.cpu.cr4
      gdtr := m.cpu.gdtr
      osTr := m.cpu.tr }

/-- What a run of `main` uses of the per-CPU arrays, and what it does to the counters. -/
structure Uses (m m' : Machine) (arrays : List CpuArray) : Prop where
  availableStackIndex : m'.object.availableStackIndex = m.object.availableStackIndex
  slots : m'.slots = m.slots ++ arrays.map fun a => (a, m.object.nextVirtualProcessor - 1#64)

/-- `main` failed: the control registers are as before. -/
structure Failed (m m' : Machine) : Prop where
  uses : ∃ arrays, Uses m m' arrays
  nextVirtualProcessor : m'.object.nextVirtualProcessor = m.object.nextVirtualProcessor
  vpids : m'.vpids = m.vpids
  cr0 : m'.cpu.cr0 = m.cpu.cr0
  cr3 : m'.cpu.cr3 = m.cpu.cr3
  cr4 : m'.cpu.cr4 = m.cpu.cr4
  vmxOperation : m'.cpu.vmxOperation = false
  log : ∃ t, LogInv m m' t

/-- `main` came to undefined behaviour in a computation on the members. -/
structure Stuck (m m' : Machine) : Prop where
  uses : ∃ arrays, Uses m m' arrays
  vpids : m'.vpids = m.vpids

/-- The guest runs. -/
structure Launched (m m' : Machine) : Prop where
  uses : Uses m m' [.intermediateGdt, .guestTss, .intermediateGdt, .vmx, .vmxVmcs, .intermediateGdt]
  nextVirtualProcessor : m'.object.nextVirtualProcessor = m.object.nextVirtualProcessor + 1#64
  vpids : m'.vpids = m.vpids ++ [m.object.nextVirtualProcessor.setWidth 16]

/-- A failure under the host page table, after a phase from the captured registers. -/
theorem failed_rollback {m m₄ m₅ : Machine} {arrays : List CpuArray} (hostCr3 : Word)
    (h : Phase arrays (captured m) m₄) (hkeeps : m₄.object.Keeps m₅.object)
    (hcr0 : m₅.cpu.cr0 = m₄.cpu.cr0) (hcr4 : m₅.cpu.cr4 = m₄.cpu.cr4)
    (hvmx : m₅.cpu.vmxOperation = false)
    (hlog : ∀ m₀ t, LogInv m₀ (m₄.exec (.movCr3 hostCr3)) t → ∃ t', LogInv m₀ m₅ t')
    (hslots : ∃ more : List CpuArray, m₅.slots =
      m₄.slots ++ more.map fun a => (a, m₄.object.nextVirtualProcessor - 1#64))
    (hvpids : m₅.vpids = m₄.vpids) (hm : m.cpu.vmxOperation = false) :
    Failed m ((loadOsGdt (m₅.exec (.movCr3 m₅.object.guestCr3))).exec .sti) := by
  obtain ⟨keeps, cr0, cr3, cr4, vmxOperation, slots, vpids, log⟩ := rollback_phase m₅
  obtain ⟨more, hslots⟩ := hslots
  have hguest : m₅.object.guestCr3 = m.cpu.cr3 := (hkeeps.guestCr3.trans h.keeps.guestCr3)
  have hnext : m₄.object.nextVirtualProcessor = m.object.nextVirtualProcessor :=
    h.keeps.nextVirtualProcessor
  have hcaptured : LogInv m (captured m) _ :=
    ((LogInv.refl hm).exec (i := .cli) trivial).congr rfl rfl
  obtain ⟨t₄, h₄⟩ := h.log m _ rfl hcaptured
  obtain ⟨t₅, h₅⟩ := hlog m _ (h₄.exec (i := .movCr3 hostCr3) trivial)
  obtain ⟨t', h'⟩ := log m t₅ hguest h₅
  have hindex := (keeps.availableStackIndex.trans hkeeps.availableStackIndex).trans
    h.keeps.availableStackIndex
  exact {
    uses := ⟨arrays ++ more, hindex, by
      rw [slots, hslots, h.slots, hnext, List.map_append, ← List.append_assoc]
      rfl⟩
    nextVirtualProcessor := (keeps.nextVirtualProcessor.trans hkeeps.nextVirtualProcessor).trans
      hnext
    vpids := (vpids.trans hvpids).trans h.vpids
    cr0 := (cr0.trans hcr0).trans h.cr0
    cr3 := cr3.trans hguest
    cr4 := (cr4.trans hcr4).trans h.cr4
    vmxOperation := vmxOperation.trans hvmx
    log := ⟨t', h'⟩ }

/-- `main` from `initialize_vmx` on. -/
def mainVmx : Code Unit := do
  initializeVmx p
  match ← Block.call (enterRootMode p) with
  | some error => Block.exit error
  | none =>
    let _ ← Block.construct (Machine.exec .vmxoff)
    setupVmcs
    vmLaunch

/-- `main` from `initialize_intermediate_gdt` on. -/
def mainGdt (cpuid : Word) : Code Unit := do
  initializeIntermediateGdt p
  loadIntermediateGdt p
  let _ ← Block.construct loadOsGdt
  let o ← this
  exec (.movCr3 o.hostCr3)
  let _ ← Block.construct fun m => m.exec (.movCr3 m.object.guestCr3)
  onFirstCpu cpuid (initializeProtection p)
  mainVmx p

/-- The guards under the host page table. -/
def hostGuards : List (Guard Machine) :=
  [⟨fun m => m.exec (.movCr3 m.object.guestCr3), true⟩, ⟨loadOsGdt, true⟩, ⟨Machine.exec .sti, true⟩]

theorem main_eq (cpuid : Word) (physicalToVirtual : Option (Word → Word)) (m : Machine) :
    main p cpuid physicalToVirtual ⟨m, []⟩ =
      (onFirstCpu cpuid (initializeModule p physicalToVirtual) >>= fun _ => mainGdt p cpuid)
        ⟨captured m, [⟨Machine.exec .sti, true⟩]⟩ := rfl

/-- The ways a run ends, from the result of `main`'s body. -/
def MainEnds (m : Machine) : Result (Frame Machine) Error Unit → Prop
  | .next _ s => Launched m s.state
  | .returned _ s => Failed m (destroy s.guards s.state)
  | .undefined s => Stuck m s.state

theorem mainVmx_ends {m m₄ m₅ : Machine} {hostCr3 : Word}
    (h : Phase [.intermediateGdt, .guestTss, .intermediateGdt] (captured m) m₄)
    (h₅ : Quiet [] (m₄.exec (.movCr3 hostCr3)) m₅) (hm : m.cpu.vmxOperation = false) :
    MainEnds m (mainVmx p ⟨m₅, hostGuards⟩) := by
  obtain ⟨m₆, hinit, h₆⟩ := initializeVmx_quiet p ⟨m₅, hostGuards⟩
  have hinitialized : Quiet [.vmx, .vmxVmcs] (m₄.exec (.movCr3 hostCr3)) m₆ := h₅.trans h₆
  have hvmx : m₆.cpu.vmxOperation = false := by
    rw [hinitialized.cpu]
    exact h.vmxOperation.trans hm
  unfold mainVmx
  rw [bind_of_next hinit]
  rcases enterRootMode_cases p ⟨m₆, hostGuards⟩ hvmx with
    ⟨e, m₇, hcall, h₇⟩ | ⟨m₇, hcall, hobject, hslots, hvpids⟩
  · rw [bind_of_next hcall]
    have hkeeps := hinitialized.keeps
    rw [← h₇.object] at hkeeps
    refine failed_rollback hostCr3 h hkeeps (h₇.cr0.trans ?_) (h₇.cr4.trans ?_)
      h₇.vmxOperation (fun m₀ t hlog => ?_) ⟨_, h₇.slots.trans hinitialized.slots⟩
      (h₇.vpids.trans hinitialized.vpids) hm
    · rw [hinitialized.cpu]
      rfl
    · rw [hinitialized.cpu]
      rfl
    · exact h₇.log m₀ t (hlog.congr hinitialized.trace hinitialized.cpu)
  · rw [bind_of_next hcall]
    have hnext : m₆.object.nextVirtualProcessor = m.object.nextVirtualProcessor :=
      hinitialized.keeps.nextVirtualProcessor.trans h.keeps.nextVirtualProcessor
    have hslots₇ : m₇.slots = m.slots ++
        [CpuArray.intermediateGdt, .guestTss, .intermediateGdt, .vmx, .vmxVmcs].map
          fun a => (a, m.object.nextVirtualProcessor - 1#64) := by
      rw [hslots, hinitialized.slots, Machine.exec_slots, h.slots, Machine.exec_object,
        h.keeps.nextVirtualProcessor, List.append_assoc]
      rfl
    refine ⟨⟨?_, ?_⟩, ?_, ?_⟩
    · show m₇.object.availableStackIndex = _
      rw [hobject]
      exact hinitialized.keeps.availableStackIndex.trans h.keeps.availableStackIndex
    · show m₇.slots ++ [(.intermediateGdt, m₇.object.nextVirtualProcessor - 1#64)] = _
      rw [hslots₇, hobject, hnext, List.append_assoc]
      rfl
    · show m₇.object.nextVirtualProcessor + 1#64 = _
      rw [hobject, hnext]
    · show m₇.vpids ++ [m₇.object.nextVirtualProcessor.setWidth 16] = _
      rw [hvpids, hinitialized.vpids, Machine.exec_vpids, h.vpids, hobject, hnext]
      rfl

theorem mainGdt_ends {m m₂ : Machine} (cpuid : Word) (h : Quiet [] (captured m) m₂)
    (hm : m.cpu.vmxOperation = false) :
    MainEnds m (mainGdt p cpuid ⟨m₂, [⟨Machine.exec .sti, true⟩]⟩) := by
  obtain ⟨m₃, hinit, h₃⟩ := initializeIntermediateGdt_quiet p ⟨m₂, [⟨Machine.exec .sti, true⟩]⟩
  obtain ⟨m₄, hload, h₄⟩ := loadIntermediateGdt_phase p ⟨m₃, [⟨Machine.exec .sti, true⟩]⟩
  have hgdt : Phase [.intermediateGdt, .guestTss, .intermediateGdt] (captured m) m₄ :=
    (h.trans h₃).phase.trans h₄
  have hrun : mainGdt p cpuid ⟨m₂, [⟨Machine.exec .sti, true⟩]⟩ =
      (onFirstCpu cpuid (initializeProtection p) >>= fun _ => mainVmx p)
        ⟨m₄.exec (.movCr3 m₄.object.hostCr3), hostGuards⟩ := by
    unfold mainGdt
    rw [bind_of_next hinit, bind_of_next hload]
    rfl
  rw [hrun]
  obtain ⟨o, ho, hprotect⟩ := onFirstCpu_changesObject cpuid
    (initializeProtection_changesObject p ⟨m₄.exec (.movCr3 m₄.object.hostCr3), hostGuards⟩)
  have h₅ := quiet_setObject (m := m₄.exec (.movCr3 m₄.object.hostCr3)) ho
  rcases hprotect with hprotect | ⟨e, hprotect⟩ | hprotect
  · rw [bind_of_next hprotect]
    exact mainVmx_ends p hgdt h₅ hm
  · rw [bind_of_returned hprotect]
    exact failed_rollback m₄.object.hostCr3 hgdt h₅.keeps rfl rfl
      (hgdt.vmxOperation.trans hm) (fun m₀ t hlog => ⟨t, hlog.congr rfl rfl⟩) ⟨[], h₅.slots⟩ rfl hm
  · rw [bind_of_undefined hprotect]
    exact ⟨⟨_, h₅.keeps.availableStackIndex.trans hgdt.keeps.availableStackIndex, hgdt.slots⟩,
      hgdt.vpids⟩

theorem main_ends (cpuid : Word) (physicalToVirtual : Option (Word → Word)) {m : Machine}
    (hm : m.cpu.vmxOperation = false) :
    MainEnds m (main p cpuid physicalToVirtual ⟨m, []⟩) := by
  rw [main_eq]
  obtain ⟨o, ho, hmodule⟩ := onFirstCpu_changesObject cpuid
    (initializeModule_changesObject p physicalToVirtual ⟨captured m, [⟨Machine.exec .sti, true⟩]⟩)
  have h := quiet_setObject ho
  rcases hmodule with hmodule | ⟨e, hmodule⟩ | hmodule
  · rw [bind_of_next hmodule]
    exact mainGdt_ends p cpuid h hm
  · rw [bind_of_returned hmodule]
    -- Nothing but the interrupt flag was changed yet.
    have hcli : LogInv m ((captured m).setObject o) _ :=
      ((LogInv.refl hm).exec (i := .cli) trivial).congr rfl rfl
    exact ⟨⟨[], ho.availableStackIndex, (List.append_nil _).symm⟩, ho.nextVirtualProcessor, rfl, rfl,
      rfl, rfl, hm, ⟨_, hcli.exec (i := .sti) trivial⟩⟩
  · rw [bind_of_undefined hmodule]
    exact ⟨⟨[], ho.availableStackIndex, (List.append_nil _).symm⟩, rfl⟩

/-- The three ways a run of `main` ends, from outside VMX operation. -/
theorem runMain_spec (cpuid : Word) (physicalToVirtual : Option (Word → Word)) {m : Machine}
    (hm : m.cpu.vmxOperation = false) :
    match runMain p cpuid physicalToVirtual m with
    | .launched m' => Launched m m'
    | .failed _ m' => Failed m m'
    | .undefined m' => Stuck m m' := by
  have h := main_ends p cpuid physicalToVirtual hm
  unfold runMain
  cases hrun : main p cpuid physicalToVirtual ⟨m, []⟩ <;>
  · rw [hrun] at h
    exact h

/-! ### Rollback -/

/-- **A failed launch rolls the processor back.**  The control registers are as before and the
processor is outside VMX operation.  In the instructions `t` that `main` executed there is one
`vmxoff` for each `vmxon` that succeeded, executed in VMX operation; CR4 is only written outside VMX
operation, and the GDT is only loaded under the CR3 of the OS. -/
theorem main_rollsBack {p : Platform} {cpuid : Word} {physicalToVirtual : Option (Word → Word)}
    {m m' : Machine} {e : Error} (hm : m.cpu.vmxOperation = false)
    (hrun : runMain p cpuid physicalToVirtual m = .failed e m') :
    m'.cpu.vmxOperation = false ∧ m'.cpu.cr0 = m.cpu.cr0 ∧ m'.cpu.cr3 = m.cpu.cr3 ∧
      m'.cpu.cr4 = m.cpu.cr4 ∧
    ∃ t, m'.trace = m.trace ++ t ∧ t.countP isVmxoff = t.countP isVmxon ∧
      (∀ c, (.vmxoff, c) ∈ t → c.vmxOperation = true) ∧
      (∀ value c, (.movCr4 value, c) ∈ t → c.vmxOperation = false) ∧
      ∀ gdtr c, (.lgdt gdtr, c) ∈ t → c.cr3 = m.cpu.cr3 := by
  have h := runMain_spec p cpuid physicalToVirtual hm
  rw [hrun] at h
  obtain ⟨t, hlog⟩ := h.log
  refine ⟨h.vmxOperation, h.cr0, h.cr3, h.cr4, t, hlog.trace, ?_, fun c hc => hlog.allowed _ hc,
    fun _ c hc => hlog.allowed _ hc, fun _ c hc => hlog.allowed _ hc⟩
  have hbalanced := hlog.balanced
  rw [h.vmxOperation] at hbalanced
  exact hbalanced.symm

/-- A platform on which `vmptrld` fails. -/
def noVmptrld : Platform where
  layout := ⟨0x100000#64, ⟨0x600000#64, 0x500000#64⟩, 0xd00000#64, 0xd10000#64, 0xd20000#64⟩
  memory _ := 0#8
  moduleBase := 0x100000#64
  moduleSize := 0xd00000#64
  rdmsr _ := 0x2000#64
  mtrrs := .replicate 8 {}
  taskStateSegmentPresent := false
  vmxonCarry := false
  vmclearCarry := false
  vmptrldCarry := true

/-- A second CPU, before its launch. -/
def secondCpu : Machine where
  object := { Object.fresh with availableStackIndex := 1#64, nextVirtualProcessor := 2#64 }
  cpu := ⟨0x80010033#64, 0x1000#64, 0x6f8#64, ⟨0x8000#64, 0x7f#16⟩, 0x40#16, true, false⟩
  trace := []
  slots := []
  vpids := []

theorem main_rollsBack_secondCpu :
    ∃ m', runMain noVmptrld 1#64 none secondCpu = .failed .vmptrldFailed m' ∧
      m'.cpu.vmxOperation = false ∧ m'.cpu.cr0 = 0x80010033#64 ∧ m'.cpu.cr3 = 0x1000#64 ∧
      m'.cpu.cr4 = 0x6f8#64 := by
  obtain ⟨m', hrun⟩ : ∃ m', runMain noVmptrld 1#64 none secondCpu = .failed .vmptrldFailed m' :=
    ⟨_, rfl⟩
  obtain ⟨hvmx, hcr0, hcr3, hcr4, -⟩ := main_rollsBack rfl hrun
  exact ⟨m', hrun, hvmx, hcr0, hcr3, hcr4⟩

end Zpp.Hypervisor
