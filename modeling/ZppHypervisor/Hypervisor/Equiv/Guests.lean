import ZppHypervisor.Hypervisor.Equiv.ExitMemory
import ZppHypervisor.Hypervisor.Equiv.HostSpace

/-!
# Guests run as on bare processors

`Bare` are processors without a hypervisor, on which some bytes are out of reach: an access to one of
them is skipped.  From a state in which the tables are in memory and the host is ready on every CPU,
every turn of every CPU that the host can execute leads to such a state again, does to the guests what it
does on bare processors, and changes no protected byte but on the stack of its own CPU
(`Host.step_spec`).  So does every interleaving of such turns (`Host.run_spec`), and no other goes
through (`Host.run_iff`).
-/

namespace Zpp.Hypervisor

open X64 X64.Intel ByteMemory

variable {ι : Type}

/-! ### Without the hypervisor -/

/-- Processors and their memory. -/
structure Bare (ι : Type) where
  memory : ByteMemory 48
  registers : ι → Registers

namespace Bare

variable [DecidableEq ι] (reach : Set GuestAddress) (t : Turn ι) (b : Bare ι)

def setRegisters (registers : Registers) : Bare ι :=
  { b with registers := Function.update b.registers t.cpu registers }

/-- An instruction that exits is skipped, with the registers of `cpuid` for that instruction. -/
def skip (reason : BitVec 32) : Bare ι :=
  b.setRegisters t (afterExit ⟨reason, t.instructionLength⟩ t.host (b.registers t.cpu))

open Classical in
/-- A turn, where only the bytes in `reach` can be accessed. -/
noncomputable def step : Bare ι :=
  match t.step (b.registers t.cpu) with
  | .compute registers => b.setRegisters t registers
  | .load _ a registers =>
    if a ∈ reach then b.setRegisters t (registers (b.memory a)) else b.skip t eptViolation
  | .store a value registers =>
    if a ∈ reach then
      { b.setRegisters t registers with memory := Function.update b.memory a value }
    else b.skip t eptViolation
  | .exit reason => b.skip t reason

/-- If the instruction of a turn exits, the host can execute what the guest wants with it. -/
def Executes : Prop :=
  ∀ reason, t.step (b.registers t.cpu) = .exit reason →
    ExitExecutes ⟨reason, t.instructionLength⟩ t.host (b.registers t.cpu)

end Bare

/-- What the guests see of a state. -/
def Guests.bare (s : Guests ι) : Bare ι := ⟨fun a => s.phys (a.setWidth 64), s.registers⟩

/-- The guests of a state are in the state of bare processors. -/
structure Guests.Shows (reach : Set GuestAddress) (s : Guests ι) (b : Bare ι) : Prop where
  registers : s.registers = b.registers
  memory : ∀ a ∈ reach, s.phys (a.setWidth 64) = b.memory a

theorem Guests.shows_bare (reach : Set GuestAddress) (s : Guests ι) : s.Shows reach s.bare :=
  ⟨rfl, fun _ _ => rfl⟩

/-! ### The hypervisor on the CPUs -/

/-- The code of every CPU keeps to a stack of its own, in the module but neither in its unprotected
memory nor in its tables. -/
structure Host.HasStacks (h : Host ι) (layout : Layout) (stack : ι → Set Word) : Prop where
  supports : ∀ i, SupportsExits (h.vmm i).processor
  keepsTo : ∀ i, (h.vmm i).KeepsTo (stack i)
  contains : ∀ i, ∀ a ∈ stack i, h.image.Contains a
  protect : ∀ i, ∀ a ∈ stack i, ¬ InUnprotectedMemory layout.ept (pageOf a)
  tables : ∀ i, ∀ a ∈ stack i, ¬ TablePage layout (pageOf a)
  apart : ∀ i j, i ≠ j → ∀ a ∈ stack i, a ∉ stack j

/-- The CPUs run under guarded tables. -/
structure Host.Installed (h : Host ι) (layout : Layout) (os : Word → Word) (guestCr3 : Word)
    (mtrrs : Vector Mtrr 8) (T : Tables) (stack : ι → Set Word) : Prop where
  guarded : Guarded layout h.image os guestCr3 mtrrs T
  frameMap : FrameMap h.image (2 ^ 39) os
  size_le : h.image.size.toNat ≤ 2 ^ 30
  object : ObjectPlaced layout h.image
  epml4 : h.epml4 = os layout.ept.epml4
  cr3 : h.cr3 = T.hostCr3
  hasStacks : h.HasStacks layout stack

/-- The tables are in memory, and the host is ready for an exit of every CPU. -/
structure Host.Ready (h : Host ι) (layout : Layout) (os : Word → Word) (T : Tables) (s : Guests ι) :
    Prop where
  ept : EptInMemory s.phys os layout.ept T.ept
  hostPageTable : InMemory s.phys os layout.hostPageTable T.hostPageTable
  ready : ∀ i, (h.vmm i).HostReady (h.view s.phys) (s.vmx i)

/-- The bytes that guests can access. -/
def reachable (m : Module) (layout : EptLayout) (os : Word → Word) : Set GuestAddress :=
  {a | a.toNat < 2 ^ 39 ∧ ¬ InProtectedFrame m layout os (a.setWidth 64)}

/-- No protected byte changes but those of a stack. -/
def Host.Keeps (h : Host ι) (layout : Layout) (os : Word → Word) (stack : Set Word)
    (s s' : Guests ι) : Prop :=
  ∀ x, InProtectedFrame h.image layout.ept os x → x ∉ os '' stack → s'.phys x = s.phys x

namespace Host

variable {h : Host ι} {layout : Layout} {os : Word → Word} {guestCr3 : Word} {mtrrs : Vector Mtrr 8}
  {T : Tables} {stack : ι → Set Word}

theorem Keeps.refl (own : Set Word) (s : Guests ι) : h.Keeps layout os own s s := fun _ _ _ => rfl

theorem Keeps.trans {own : Set Word} {s₁ s₂ s₃ : Guests ι} (h₁ : h.Keeps layout os own s₁ s₂)
    (h₂ : h.Keeps layout os own s₂ s₃) : h.Keeps layout os own s₁ s₃ :=
  fun x hx hown => (h₂ x hx hown).trans (h₁ x hx hown)

theorem Keeps.mono {own own' : Set Word} (hown : own ⊆ own') {s s' : Guests ι}
    (h₁ : h.Keeps layout os own s s') : h.Keeps layout os own' s s' :=
  fun x hx hnot => h₁ x hx fun hmem => hnot (Set.image_mono hown hmem)

section Installed

variable (hinst : h.Installed layout os guestCr3 mtrrs T stack)

include hinst

/-! ### Places -/

theorem Installed.inProtectedFrame_stack {i : ι} {a : Word} (ha : a ∈ stack i) :
    InProtectedFrame h.image layout.ept os (os a) := by
  have hcontains := hinst.hasStacks.contains i a ha
  exact ⟨pageOf a, hcontains.hasPage, hinst.hasStacks.protect i a ha, hinst.frameMap.pageOf_eq hcontains⟩

/-- The frames of the stacks are those of no table. -/
theorem Installed.not_mem_stack {i : ι} {p x : Word} (hp : TablePage layout p)
    (hpage : h.image.HasPage p) (hx : pageOf x = os p) : x ∉ os '' stack i := by
  rintro ⟨a, ha, rfl⟩
  have hcontains := hinst.hasStacks.contains i a ha
  rw [hinst.frameMap.pageOf_eq hcontains] at hx
  rw [← hinst.frameMap.injOn hcontains.hasPage hpage hx] at hp
  exact hinst.hasStacks.tables i a ha hp

/-- The pages of the tables are protected. -/
theorem Installed.hasPage_tablePage {p : Word} (hp : TablePage layout p) :
    h.image.HasPage p ∧ ¬ InUnprotectedMemory layout.ept p := by
  obtain ⟨k, hk, rfl⟩ | ⟨k, hk, rfl⟩ := hp
  · exact ⟨hinst.object.tables.hasPage hk (by decide), not_inUnprotectedMemory hinst.object.tables
      hinst.object.unprotectedMemory hinst.object.tables_apart hk⟩
  · exact ⟨hinst.object.hostPageTable.hasPage hk (by decide),
      not_inUnprotectedMemory hinst.object.hostPageTable hinst.object.unprotectedMemory
        hinst.object.hostPageTable_apart hk⟩

/-- The tables keep their bytes. -/
theorem Installed.keeps_tablePage {i : ι} {s s' : Guests ι}
    (hkeeps : h.Keeps layout os (stack i) s s') {p : Word} (hp : TablePage layout p) {x : Word}
    (hx : pageOf x = os p) : s'.phys x = s.phys x := by
  obtain ⟨hpage, hprotect⟩ := hinst.hasPage_tablePage hp
  exact hkeeps x ⟨p, hpage, hprotect, hx⟩ (hinst.not_mem_stack hp hpage hx)

/-! ### What the processors find in the tables -/

theorem Installed.isolates {s : Guests ι} (hs : h.Ready layout os T s) :
    Isolates s.phys h.epml4 h.image layout.ept os (initialType mtrrs) := by
  rw [hinst.epml4]
  exact hinst.guarded.isolates hinst.frameMap hinst.object.tables hinst.object.unprotectedMemory hs.ept

theorem Installed.physical {phys : ByteMemory 64}
    (hphys : InMemory phys os layout.hostPageTable T.hostPageTable) {a : Word}
    (ha : h.image.Contains a) : h.physical phys a = some (os a) := by
  unfold Host.physical
  rw [hinst.cr3]
  exact hinst.guarded.hardwareWalk hinst.size_le hinst.frameMap hinst.object.hostPageTable hphys ha

theorem Installed.maps {phys : ByteMemory 64}
    (hphys : InMemory phys os layout.hostPageTable T.hostPageTable) {a : Word}
    (ha : h.image.Contains a) : (h.space phys).Maps a (os a) :=
  maps_of_physical hinst.frameMap (fun _ hb => hinst.physical hphys hb) ha

theorem Installed.view {phys : ByteMemory 64}
    (hphys : InMemory phys os layout.hostPageTable T.hostPageTable) {i : ι} {a : Word}
    (ha : a ∈ stack i) : h.view phys a = phys (os a) :=
  (hinst.maps hphys (hinst.hasStacks.contains i a ha)).view phys

/-- The guests have an access to a byte if and only if it is reachable. -/
theorem Installed.translate {s : Guests ι} (hs : h.Ready layout os T s) (kind : AccessKind)
    (a : GuestAddress) :
    (a ∈ reachable h.image layout.ept os → h.translate s.phys kind a = some (a.setWidth 64)) ∧
      (a ∉ reachable h.image layout.ept os → h.translate s.phys kind a = none) := by
  have hisolates := hinst.isolates hs
  have ha : (a.setWidth 64).toNat = a.toNat := BitVec.toNat_setWidth_of_le (by decide)
  constructor
  · rintro ⟨hlt, hnot⟩
    obtain ⟨w, hw, hphysical, -, haccess⟩ := hisolates.reachable (a.setWidth 64) (by omega) hnot
    rw [Host.translate, haccess, if_pos (by cases kind <;> rfl), hw, Option.map_some, hphysical]
  · intro hnot
    have hdenied : eptAccess s.phys h.epml4 (a.setWidth 64) = ⟨false, false, false, false⟩ := by
      rcases Nat.lt_or_ge a.toNat (2 ^ 39) with hlt | hge
      · refine hisolates.denied (a.setWidth 64) (by omega) ?_
        by_contra hframe
        exact hnot ⟨hlt, hframe⟩
      · have hbound := a.isLt
        exact eptAccess_of_unmapped (hisolates.unmapped (a.setWidth 64) (by omega) (by omega))
    rw [Host.translate, hdenied, if_neg (by cases kind <;> exact Bool.false_ne_true)]

/-! ### Readiness -/

/-- The stacks of the other CPUs keep their bytes. -/
theorem Installed.keeps_stack {i j : ι} (hij : j ≠ i) {s s' : Guests ι}
    (hkeeps : h.Keeps layout os (stack i) s s') {a : Word} (ha : a ∈ stack j) :
    s'.phys (os a) = s.phys (os a) := by
  refine hkeeps _ (hinst.inProtectedFrame_stack ha) ?_
  rintro ⟨b, hb, heq⟩
  have hba := hinst.frameMap.injOn_contains (hinst.hasStacks.contains i b hb)
    (hinst.hasStacks.contains j a ha) heq
  rw [hba] at hb
  exact hinst.hasStacks.apart j i hij a ha hb

/-- What keeps the protected bytes keeps the tables, and the host ready on all other CPUs. -/
theorem Installed.ready_of_keeps {i : ι} {s s' : Guests ι} (hs : h.Ready layout os T s)
    (hkeeps : h.Keeps layout os (stack i) s s') (hvmx : ∀ j, j ≠ i → s'.vmx j = s.vmx j)
    (hready : InMemory s'.phys os layout.hostPageTable T.hostPageTable →
      (h.vmm i).HostReady (h.view s'.phys) (s'.vmx i)) : h.Ready layout os T s' := by
  have hpages : ∀ p, TablePage layout p → ∀ x, pageOf x = os p → s'.phys x = s.phys x :=
    fun p hp x hx => hinst.keeps_tablePage hkeeps hp hx
  have hept := hs.ept.congr hinst.frameMap hinst.object.tables fun k hk =>
    hpages _ (.inl ⟨k, hk, rfl⟩)
  have hhost := hs.hostPageTable.congr hinst.frameMap hinst.object.hostPageTable fun k hk =>
    hpages _ (.inr ⟨k, hk, rfl⟩)
  refine ⟨hept, hhost, fun j => ?_⟩
  by_cases hj : j = i
  · subst hj
    exact hready hhost
  · rw [hvmx j hj]
    refine (hs.ready j).congr (hinst.hasStacks.keepsTo j) fun a ha => ?_
    rw [hinst.view hhost ha, hinst.view hs.hostPageTable ha, hinst.keeps_stack hj hkeeps ha]

/-- A byte that guests reach is on no stack. -/
theorem Installed.not_mem_stack_of_reachable {i : ι} {a : GuestAddress}
    (ha : a ∈ reachable h.image layout.ept os) : a.setWidth 64 ∉ os '' stack i := by
  rintro ⟨b, hb, heq⟩
  refine ha.2 ?_
  rw [← heq]
  exact hinst.inProtectedFrame_stack hb

/-! ### Turns -/

variable [DecidableEq ι]

/-- An exit leaves everything but the registers of its CPU and its stack. -/
theorem Installed.exit_spec {i : ι} {exit : ExitInformation} {host : HostCpu} {s : Guests ι}
    (hs : h.Ready layout os T s) (hexecutes : ExitExecutes exit host (s.registers i)) :
    ∃ s', h.exit i exit host s = some s' ∧ h.Ready layout os T s' ∧
      s'.registers = Function.update s.registers i (afterExit exit host (s.registers i)) ∧
      ∀ x ∉ os '' stack i, s'.phys x = s.phys x := by
  let guest : State := ⟨s.registers i, h.view s.phys⟩
  have hguest : (h.vmm i).HostReady guest.memory (s.vmx i) := hs.ready i
  obtain ⟨trace, hpath, htransparent, hmemory⟩ := Vmm.exitPath_memory (hinst.hasStacks.supports i)
    (hinst.hasStacks.keepsTo i) hguest hexecutes
  have hphys : ∀ x ∉ os '' stack i,
      (h.space s.phys).writeBack s.phys trace.final.memory x = s.phys x := by
    intro x hx
    refine AddressSpace.writeBack_eq fun a ha => hmemory a fun hmem => hx ⟨a, hmem, ?_⟩
    have hmaps := hinst.maps hs.hostPageTable (hinst.hasStacks.contains i a hmem)
    exact Option.some.inj (hmaps.physical.symm.trans ha.physical)
  let s' : Guests ι :=
    { phys := (h.space s.phys).writeBack s.phys trace.final.memory
      registers := Function.update s.registers i (afterExit exit host (s.registers i))
      vmx := Function.update s.vmx i trace.vmx }
  refine ⟨s', ?_, ?_, rfl, hphys⟩
  · unfold Host.exit
    dsimp only
    rw [hpath, Option.bind_eq_bind, Option.bind_some, htransparent.registers]
    rfl
  · refine hinst.ready_of_keeps hs (fun x _ hx => hphys x hx)
      (fun j hj => Function.update_of_ne hj _ _) fun hhost => ?_
    show (h.vmm i).HostReady _ (Function.update s.vmx i trace.vmx i)
    rw [Function.update_self]
    -- The host finds what it has left on its stack.
    refine htransparent.hostReady.congr (hinst.hasStacks.keepsTo i) fun a ha => ?_
    rw [hinst.view hhost ha]
    exact (hinst.maps hs.hostPageTable (hinst.hasStacks.contains i a ha)).writeBack _ _

/-- An exit that the host cannot execute ends in a fault. -/
theorem Installed.exit_eq_none {i : ι} {exit : ExitInformation} {host : HostCpu} {s : Guests ι}
    (hs : h.Ready layout os T s) (hexecutes : ¬ExitExecutes exit host (s.registers i)) :
    h.exit i exit host s = none := by
  have hguest : (h.vmm i).HostReady (State.mk (s.registers i) (h.view s.phys)).memory (s.vmx i) :=
    hs.ready i
  unfold Host.exit
  dsimp only
  rw [(h.vmm i).exitPath_eq_none (hinst.hasStacks.supports i) hguest hexecutes]
  rfl

/-- The outcome of a turn that does what it does on bare processors. -/
structure TurnSpec (h : Host ι) (layout : Layout) (os : Word → Word) (T : Tables) (own : Set Word)
    (s : Guests ι) (b : Bare ι) (s' : Guests ι) : Prop where
  ready : h.Ready layout os T s'
  shows : s'.Shows (reachable h.image layout.ept os) b
  keeps : h.Keeps layout os own s s'

/-- An exit is a skipped instruction. -/
theorem Installed.skip_spec (t : Turn ι) (reason : BitVec 32) {s : Guests ι} {b : Bare ι}
    (hs : h.Ready layout os T s) (hb : s.Shows (reachable h.image layout.ept os) b)
    (hexecutes : ExitExecutes ⟨reason, t.instructionLength⟩ t.host (b.registers t.cpu)) :
    ∃ s', h.exit t.cpu ⟨reason, t.instructionLength⟩ t.host s = some s' ∧
      TurnSpec h layout os T (stack t.cpu) s (b.skip t reason) s' := by
  rw [← congrFun hb.registers t.cpu] at hexecutes
  obtain ⟨s', hexit, hready, hregisters, hphys⟩ := hinst.exit_spec hs hexecutes
  refine ⟨s', hexit, hready, ⟨?_, fun a ha => ?_⟩, fun x _ hx => hphys x hx⟩
  · rw [hregisters, hb.registers]
    rfl
  · rw [hphys _ (hinst.not_mem_stack_of_reachable ha)]
    exact hb.memory a ha

omit hinst in
/-- A turn that leaves registers only. -/
theorem setRegisters_spec (own : Set Word) (t : Turn ι) (registers : Registers) {s : Guests ι} {b : Bare ι}
    (hs : h.Ready layout os T s) (hb : s.Shows (reachable h.image layout.ept os) b) :
    TurnSpec h layout os T own s (b.setRegisters t registers)
      { s with registers := Function.update s.registers t.cpu registers } := by
  refine ⟨⟨hs.ept, hs.hostPageTable, hs.ready⟩, ⟨?_, hb.memory⟩, fun _ _ _ => rfl⟩
  show Function.update s.registers t.cpu registers = Function.update b.registers t.cpu registers
  rw [hb.registers]

/-- A store to a reachable byte. -/
theorem Installed.store_spec (t : Turn ι) {a : GuestAddress}
    (ha : a ∈ reachable h.image layout.ept os) (value : BitVec 8) (registers : Registers)
    {s : Guests ι} {b : Bare ι} (hs : h.Ready layout os T s)
    (hb : s.Shows (reachable h.image layout.ept os) b) :
    TurnSpec h layout os T (stack t.cpu) s
      { b.setRegisters t registers with memory := Function.update b.memory a value }
      { s with
        phys := Function.update s.phys (a.setWidth 64) value
        registers := Function.update s.registers t.cpu registers } := by
  have hkeeps : ∀ x, InProtectedFrame h.image layout.ept os x →
      Function.update s.phys (a.setWidth 64) value x = s.phys x := by
    intro x hx
    refine Function.update_of_ne ?_ _ _
    rintro rfl
    exact ha.2 hx
  refine ⟨?_, ⟨?_, fun a' ha' => ?_⟩, fun x hx _ => hkeeps x hx⟩
  · refine hinst.ready_of_keeps (i := t.cpu) hs (fun x hx _ => hkeeps x hx) (fun _ _ => rfl)
      fun hhost => ?_
    refine (hs.ready t.cpu).congr (hinst.hasStacks.keepsTo t.cpu) fun a' ha' => ?_
    rw [hinst.view hhost ha', hinst.view hs.hostPageTable ha']
    exact hkeeps _ (hinst.inProtectedFrame_stack ha')
  · exact (setRegisters_spec ∅ t registers hs hb).shows.registers
  · show Function.update s.phys (a.setWidth 64) value (a'.setWidth 64) =
      Function.update b.memory a value a'
    by_cases heq : a' = a
    · rw [heq, Function.update_self, Function.update_self]
    · have hne : a'.setWidth 64 ≠ a.setWidth 64 := by
        intro hwide
        have hnum := congrArg BitVec.toNat hwide
        rw [BitVec.toNat_setWidth_of_le (by decide), BitVec.toNat_setWidth_of_le (by decide)] at hnum
        exact heq (BitVec.eq_of_toNat_eq hnum)
      rw [Function.update_of_ne heq, Function.update_of_ne hne, hb.memory a' ha']

omit hinst [DecidableEq ι] in
/-- For an access that the tables deny, the host executes no instruction. -/
theorem exitExecutes_eptViolation (t : Turn ι) (r : Registers) :
    ExitExecutes ⟨eptViolation, t.instructionLength⟩ t.host r := by
  have hxsetbv : (ExitReason.mk (eptViolation.setWidth 64)).basic ≠ .xsetbv := by decide
  have hinvd : (ExitReason.mk (eptViolation.setWidth 64)).basic ≠ .invd := by decide
  exact ⟨fun h => absurd h hxsetbv, fun h => absurd h hinvd⟩

/-- Every turn that the host can execute does to the guests what it does on bare processors. -/
theorem Installed.step_spec (t : Turn ι) {s : Guests ι} {b : Bare ι} (hs : h.Ready layout os T s)
    (hb : s.Shows (reachable h.image layout.ept os) b) (hexecutes : b.Executes t) :
    ∃ s', h.step t s = some s' ∧
      TurnSpec h layout os T (stack t.cpu) s (b.step (reachable h.image layout.ept os) t) s' := by
  have htranslate := hinst.translate hs
  have hregisters : s.registers t.cpu = b.registers t.cpu := congrFun hb.registers t.cpu
  unfold Bare.Executes at hexecutes
  unfold Host.step Bare.step
  rw [hregisters]
  cases hstep : t.step (b.registers t.cpu) with
  | compute registers => exact ⟨_, rfl, setRegisters_spec _ t registers hs hb⟩
  | load kind a registers =>
    by_cases ha : a ∈ reachable h.image layout.ept os
    · simp only [(htranslate kind a).1 ha, if_pos ha]
      rw [hb.memory a ha]
      exact ⟨_, rfl, setRegisters_spec _ t _ hs hb⟩
    · simp only [(htranslate kind a).2 ha, if_neg ha]
      exact hinst.skip_spec t eptViolation hs hb (exitExecutes_eptViolation t _)
  | store a value registers =>
    by_cases ha : a ∈ reachable h.image layout.ept os
    · simp only [(htranslate .write a).1 ha, if_pos ha]
      exact ⟨_, rfl, hinst.store_spec t ha value registers hs hb⟩
    · simp only [(htranslate .write a).2 ha, if_neg ha]
      exact hinst.skip_spec t eptViolation hs hb (exitExecutes_eptViolation t _)
  | exit reason => exact hinst.skip_spec t reason hs hb (hexecutes reason hstep)

/-- Every other turn is a fault of the host. -/
theorem Installed.step_eq_none (t : Turn ι) {s : Guests ι} {b : Bare ι} (hs : h.Ready layout os T s)
    (hb : s.Shows (reachable h.image layout.ept os) b) (hexecutes : ¬b.Executes t) :
    h.step t s = none := by
  unfold Bare.Executes at hexecutes
  push Not at hexecutes
  obtain ⟨reason, hreason, hnot⟩ := hexecutes
  rw [← congrFun hb.registers t.cpu] at hreason hnot
  unfold Host.step
  rw [hreason]
  exact hinst.exit_eq_none hs hnot

/-! ### Runs -/

theorem Installed.forward : Simulation.Forward h.step (Bare.step (reachable h.image layout.ept os))
    (fun t b => b.Executes t)
    (fun s b => h.Ready layout os T s ∧ s.Shows (reachable h.image layout.ept os) b)
    fun t => h.Keeps layout os (stack t.cpu) where
  next t _ _ hst hexecutes := by
    obtain ⟨s', hstep, hspec⟩ := hinst.step_spec t hst.1 hst.2 hexecutes
    exact ⟨s', hstep, ⟨hspec.ready, hspec.shows⟩, hspec.keeps⟩
  stuck t _ _ hst hexecutes := hinst.step_eq_none t hst.1 hst.2 hexecutes

/-- An interleaving of turns goes through if and only if the host can execute all of them. -/
theorem Installed.run_iff (l : List (Turn ι)) {s : Guests ι} {b : Bare ι}
    (hs : h.Ready layout os T s) (hb : s.Shows (reachable h.image layout.ept os) b) :
    (∃ s', Simulation.run h.step l s = some s') ↔
      Simulation.Enabled (Bare.step (reachable h.image layout.ept os)) (fun t b => b.Executes t) l b :=
  hinst.forward.run_iff ⟨hs, hb⟩

/-- It does to the guests what it does on bare processors. -/
theorem Installed.run_spec (l : List (Turn ι)) {s : Guests ι} {b : Bare ι}
    (hs : h.Ready layout os T s) (hb : s.Shows (reachable h.image layout.ept os) b)
    (henabled : Simulation.Enabled (Bare.step (reachable h.image layout.ept os))
      (fun t b => b.Executes t) l b) :
    ∃ s', Simulation.run h.step l s = some s' ∧
      TurnSpec h layout os T {a | ∃ t ∈ l, a ∈ stack t.cpu} s
        (Simulation.runAll (Bare.step (reachable h.image layout.ept os)) l b) s' := by
  let own : Set Word := {a | ∃ t ∈ l, a ∈ stack t.cpu}
  have hsubset : ∀ t ∈ l, stack t.cpu ⊆ own := fun t ht _ ha => ⟨t, ht, ha⟩
  have hown : ∀ t ∈ l, ∀ s s', h.Keeps layout os (stack t.cpu) s s' → h.Keeps layout os own s s' :=
    fun t ht _ _ hkeeps => hkeeps.mono (hsubset t ht)
  obtain ⟨s', hrun, ⟨hready, hshows⟩, hkeeps⟩ :=
    hinst.forward.run (Keeps.refl own) Keeps.trans hown ⟨hs, hb⟩ henabled
  exact ⟨s', hrun, hready, hshows, hkeeps⟩

end Installed

end Host

end Zpp.Hypervisor
