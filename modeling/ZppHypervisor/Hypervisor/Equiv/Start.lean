import ZppHypervisor.Hypervisor.Equiv.Main
import ZppHypervisor.Hypervisor.Equiv.VmExit
import ZppHypervisor.Hypervisor.Start

/-!
# A launch is a call

However a launch ends, the processor is behind the call of `_start` with what a call has to preserve
(`Launch.start_returns`).
-/

namespace Zpp.Hypervisor

open X64 X64.Intel ByteMemory

/-! ### The start -/

/-- The context of the return from a call: what `_start` leaves for `launch_on_cpu`. -/
structure ReturnContext (s : State) (x : Context) : Prop where
  rip : x.rip = s.top 0#64
  rsp : x.gpr .rsp = s.gpr .rsp + 8#64
  gpr : ∀ r, r ≠ .rsp → x.gpr r = s.gpr r
  interruptFlag : x.rflags.getLsbD 9 = s.rflags.getLsbD 9

/-- What `_start` leaves for `zpp_hypervisor_main`, with the context at `c`. -/
structure Started (zppHypervisorMain : Word) (s : State) (c : Word) (s' : State) : Prop where
  rip : s'.rip = zppHypervisorMain
  rdi : s'.gpr .rdi = c
  rsp : s'.gpr .rsp = c - 8#64
  context : ReturnContext s (Context.read s'.memory c)

/-- Additions and subtractions, and `pushfq`, keep the interrupt flag. -/
theorem interruptFlag_setStatus (core : Core) (s : State) (x y : Word) :
    ((s.setStatus core x y).rflags &&& 0xfcffff#64).getLsbD 9 = s.rflags.getLsbD 9 := by
  unfold State.setStatus
  simp only [BitVec.getLsbD_and, BitVec.getLsbD_or, BitVec.getLsbD_not]
  simp

theorem startCode_spec (core : Core) {s : State} {c : Word} (hc : Aligned c)
    (hrsp : s.gpr .rsp = c + 0x3a8#64) (zppX64CaptureContextIntoStack next zppHypervisorMain : Word) :
    ∃ s', run core (startCode zppX64CaptureContextIntoStack next zppHypervisorMain) s = some s' ∧
      Started zppHypervisorMain s c s' := by
  -- The frame and the call.
  let framed : State := (s.setGpr .rsp (s.gpr .rsp - 0x3a8#64)).setStatus core (s.gpr .rsp) 0x3a8#64
  let called : State := { framed.push (n := 8) next with rip := zppX64CaptureContextIntoStack }
  have hframed : framed.gpr .rsp = c := by
    show (s.setGpr .rsp (s.gpr .rsp - 0x3a8#64)).gpr .rsp = _
    rw [State.setGpr_gpr_self, hrsp, BitVec.add_sub_cancel]
  have hcalled : called.gpr .rsp = c - 8#64 := by
    show (framed.setGpr .rsp (framed.gpr .rsp - 8#64)).gpr .rsp = _
    rw [State.setGpr_gpr_self, hframed]
  have hcontext : called.gpr .rsp + 0x8#64 = c := by
    rw [hcalled, BitVec.sub_add_cancel]
  have halignedContext : Aligned (called.gpr .rsp + 0x8#64) := by
    rw [hcontext]
    exact hc
  obtain ⟨captured, hrun, hcaptured⟩ := @captureContextIntoStack_spec core _ halignedContext
  rw [hcontext] at hcaptured
  have hcapturedRsp : captured.gpr .rsp = c := hcaptured.rsp.trans hcontext
  -- The return address is above the context.
  have hreturn : captured.memory.load64 (c + 0x3a8#64) = s.top 0#64 := by
    obtain ⟨p, rfl⟩ : ∃ p, c = p + 0x28#64 := ⟨c - 0x28#64, (BitVec.sub_add_cancel _ _).symm⟩
    unfold State.top
    rw [hrsp, BitVec.add_zero]
    refine load_congr fun k hk => ?_
    have hfar : ∀ k' n, k' + n ≤ 0x3d0 →
        p + 0x28#64 + 0x3a8#64 + BitVec.ofNat 64 k ∉ Region (p + BitVec.ofNat 64 k') n := by
      intro k' n hk'
      rw [BitVec.add_assoc p]
      exact @add_ofNat_not_mem_region 64 p 0x3d0 k' n k (.inr (by omega)) (by omega) (by omega)
    rw [hcaptured.memory _ (hfar 0x28 contextSize (by decide))]
    · refine store_of_not_mem _ _ ?_
      rw [hframed, add_sub_word]
      exact hfar 0x20 8 (by decide)
    · rw [hcalled, add_sub_word, add_sub_word]
      exact hfar 0x0 0x20 (by decide)
  refine ⟨_, (run_cons_of rfl).trans ((run_cons_of rfl).trans ((run_append_of hrun).trans rfl)), ?_⟩
  constructor
  · rfl
  · exact hcapturedRsp
  · show captured.gpr .rsp - 0x8#64 = _
    rw [hcapturedRsp]
  · show ReturnContext s (Context.read ((captured.memory.store (captured.gpr .rsp + 0x80#64) (n := 8)
      (captured.memory.load64 (captured.gpr .rsp + 0x3a8#64))).store (captured.gpr .rsp + 0x20#64)
      (n := 8) (captured.gpr .rsp + 0x3b0#64)) c)
    rw [hcapturedRsp, hreturn]
    have hread := Context.read_store_gpr
      (captured.memory.store (c + 0x80#64) (n := 8) (s.top 0#64)) c .rsp (c + 0x3b0#64)
    rw [Context.read_store_rip, hcaptured.context] at hread
    refine Eq.mpr (congrArg (ReturnContext s) hread) ?_
    constructor
    · rfl
    · dsimp only
      rw [Function.update_self, hrsp, BitVec.add_assoc]
      rfl
    · intro r hr
      dsimp only [State.callerContext]
      rw [Function.update_of_ne hr, Function.update_of_ne hr]
      show Function.update (Function.update s.gpr .rsp _) .rsp _ r = _
      rw [Function.update_of_ne hr, Function.update_of_ne hr]
    · exact interruptFlag_setStatus core _ _ _

/-! ### The private stack -/

namespace LaunchPlaces

variable (places : LaunchPlaces)

theorem stackTop_eq : places.stackTop = places.privateStack + BitVec.ofNat 64 0x7fc60 := by
  unfold stackTop
  rw [add_sub_word]
  rfl

theorem aligned_stackTop : Aligned places.stackTop := by
  have hstack := places.stack_aligned
  rw [stackTop_eq]
  refine aligned_add ?_ (by decide)
  unfold privateStack Aligned stackSize
  rw [BitVec.toNat_add, BitVec.toNat_mul, BitVec.toNat_ofNat]
  omega

/-- The copied context is on the private stack. -/
theorem stackTop_subset : Region places.stackTop contextSize ⊆ Region places.privateStack stackSize := by
  rw [stackTop_eq]
  exact region_add_subset (by decide) (by decide)

end LaunchPlaces

/-- The stack of the loader below the context at `c`, and the context, do not meet the private stack. -/
def LoaderStackApart (places : LaunchPlaces) (depth : ℕ) (c : Word) : Prop :=
  ∀ a ∈ Region (c - 8#64 - BitVec.ofNat 64 depth) (depth + 0x3b0),
    a ∉ Region places.privateStack stackSize

/-- From `zpp_hypervisor_main` to the private stack. -/
theorem entersPrivateStack (core : Core) {places : LaunchPlaces} (code : LaunchCode places)
    {zppHypervisorMain c : Word} {s s' : State} (hc : Aligned c)
    (h : Started zppHypervisorMain s c s') (hstack : LoaderStackApart places code.depth c) :
    ∃ entered, run core restoreContext (code.launchOnCpu s') = some entered ∧
      EntersPrivateStack places (Context.read s'.memory c) entered := by
  have hrsp : s'.gpr .rsp = s'.gpr .rdi - 8#64 := by
    rw [h.rsp, h.rdi]
  have hlaunches := code.launchOnCpu_spec hrsp (by
    rw [h.rsp]
    exact hstack)
  obtain ⟨k, hk, hk'⟩ := hlaunches.rsp
  have hdepth := code.depth_lt
  have hrdi : (code.launchOnCpu s').gpr .rdi = c := hlaunches.rdi.trans h.rdi
  -- The part of the stack that `restore_context` uses.
  obtain ⟨p, hp⟩ : ∃ p, p = c - 8#64 - BitVec.ofNat 64 code.depth := ⟨_, rfl⟩
  have hcp : c = p + BitVec.ofNat 64 (code.depth + 8) := by
    rw [hp, BitVec.ofNat_add, ← BitVec.add_assoc, BitVec.sub_add_cancel]
    exact (BitVec.sub_add_cancel _ _).symm
  have hq : (code.launchOnCpu s').gpr .rsp =
      p + BitVec.ofNat 64 (code.depth - (k + 0x30)) + 0x30#64 := by
    have hbase : c - 8#64 = p + BitVec.ofNat 64 code.depth := by
      rw [hp, BitVec.sub_add_cancel]
    rw [hk', h.rsp, hbase]
    exact add_ofNat_sub_ofNat p hk
  have hapart : ∀ a ∈ Region (p + BitVec.ofNat 64 (code.depth - (k + 0x30))) 0x30,
      a ∉ Region c contextSize := by
    intro a ha
    rw [hcp]
    exact not_mem_region_add (.inl (by omega)) (by omega) (by unfold contextSize; omega) ha
  have hcopy : ∀ a ∈ Region places.stackTop contextSize,
      a ∉ Region (p + BitVec.ofNat 64 (code.depth - (k + 0x30))) 0x30 := by
    intro a ha hmem
    refine hstack a ?_ (places.stackTop_subset ha)
    rw [← hp]
    exact region_add_subset (by omega) (by omega) hmem
  obtain ⟨entered, hrun, hrestored⟩ := restoreContext_spec core (by
    rw [hrdi]
    exact hc) (by
    rw [hrdi]
    exact hapart) hq
  have hcontext := hlaunches.context
  have hcopied := hlaunches.copy
  rw [h.rdi] at hcontext hcopied
  rw [hrdi, hcontext] at hrestored
  refine ⟨entered, hrun, ?_⟩
  constructor
  · exact hrestored.rip
  · rw [hrestored.gpr]
    rfl
  · rw [hrestored.gpr]
    rfl
  · rw [hrestored.gpr]
    rfl
  · rw [← hcopied]
    exact Context.read_eq_of_region fun a ha => hrestored.memory a (hcopy a ha)

/-- The copied context is restored. -/
theorem restoresCopy_spec (core : Core) {places : LaunchPlaces} {x : Context} {s : State}
    (h : RestoresCopy places x s) :
    ∃ s', run core restoreContext s = some s' ∧ ResumedAs x s' := by
  obtain ⟨q, hq, hapart⟩ := h.rsp
  have haligned : Aligned (s.gpr .rdi) := by
    rw [h.rdi]
    exact places.aligned_stackTop
  rw [← h.rdi] at hapart
  obtain ⟨s', hrun, hrestored⟩ := restoreContext_spec core haligned hapart hq
  rw [h.rdi, h.context] at hrestored
  exact ⟨s', hrun, resumedAs_of_restored hrestored⟩

/-- `vm_launch` captures the host context. -/
theorem capturesHost_spec (core : Core) {places : LaunchPlaces} (code : LaunchCode places)
    {guestContext : Context} {s : State} (h : CapturesHost places guestContext s) :
    ∃ s', run core captureContext s = some s' ∧
      CapturedHost places guestContext s.callerContext s s' := by
  have haligned : Aligned (s.gpr .rdi) := by
    rw [h.rdi]
    exact places.frame.aligned_hostContext
  have hapart : ∀ a ∈ Region (s.gpr .rsp - 0x20#64) 0x28, a ∉ Region (s.gpr .rdi) contextSize := by
    intro a ha
    rw [h.rdi]
    exact (h.stack a ha).1
  obtain ⟨s', hrun, hcaptured⟩ := @captureContext_spec core s haligned hapart
  rw [h.rdi] at hcaptured
  refine ⟨s', hrun, ?_⟩
  constructor
  · exact hcaptured.rip.trans h.next
  · exact hcaptured.rsp
  · exact hcaptured.gpr
  · rw [← h.context]
    refine Context.read_eq_of_region fun a ha => hcaptured.memory a (fun hhost => ?_) fun hpush => ?_
    · exact code.hostContext_apart a hhost ha
    · exact (h.stack a (region_mono (by decide) hpush)).2 ha
  · exact hcaptured.context

/-! ### The VMCS -/

theorem writeFields_eq {processor : Processor} {s : VmxState} {pointer : Word}
    {l : List (VmcsField × Word)}
    (hl : ∀ f ∈ l.map Prod.fst, processor.supported f = true ∧ processor.writable f = true)
    (hvmxon : s.vmxonPointer.isSome = true) (hcurrent : s.current = some pointer) :
    writeFields processor l s = some (s.setFields pointer l) := by
  induction l generalizing s with
  | nil => rfl
  | cons x l ih =>
    rw [List.map_cons, List.forall_mem_cons] at hl
    have hrest := ih (s := s.setField pointer x.1 (x.2.setWidth _)) hl.2 hvmxon hcurrent
    unfold writeFields at hrest ⊢
    rw [List.foldlM_cons, vmcsWrite_eq hvmxon hcurrent hl.1.1 hl.1.2]
    exact hrest

/-- The fields that `launchFields` writes. -/
def launchFieldNames : List VmcsField :=
  [.guestCsSelector, .guestDsSelector, .guestEsSelector, .guestFsSelector, .guestGsSelector,
    .guestSsSelector, .guestRflags, .hostRip, .hostRsp, .guestRip, .guestRsp]

theorem map_fst_launchFields (places : LaunchPlaces) (guestContext : Context) :
    (launchFields places guestContext).map Prod.fst = launchFieldNames := rfl

/-- A processor that has the fields and lets them be written. -/
def SupportsLaunch (processor : Processor) : Prop :=
  ∀ f ∈ launchFieldNames, processor.supported f = true ∧ processor.writable f = true

/-- A natural-width field that a launch writes. -/
theorem field_launchFields (places : LaunchPlaces) (guestContext : Context) (s : VmxState)
    (pointer : Word) {f : VmcsField} {value : Word} (hf : 64 ≤ f.width)
    (hmem : (f, value) ∈ launchFields places guestContext) :
    (s.setFields pointer (launchFields places guestContext)).field pointer f = value := by
  have hnodup : ((launchFields places guestContext).map Prod.fst).Nodup := by
    rw [map_fst_launchFields]
    decide
  refine (VmxState.field_setFields hnodup hmem).trans ?_
  exact (BitVec.setWidth_setWidth_of_le value hf).trans (BitVec.setWidth_eq value)

/-! ### The return to the caller -/

/-- The general registers that a function preserves, besides `rsp`. -/
def calleeSaved : List Gpr := [.rbx, .rbp, .r12, .r13, .r14, .r15]

/-- The processor `t` is behind a call that was to start in `s`. -/
structure ReturnsToCaller (s t : State) : Prop where
  rip : t.rip = s.top 0#64
  rsp : t.gpr .rsp = s.gpr .rsp + 8#64
  calleeSaved : ∀ r ∈ calleeSaved, t.gpr r = s.gpr r
  interruptFlag : t.rflags.getLsbD 9 = s.rflags.getLsbD 9

theorem ReturnContext.returnsToCaller {s t : State} {x : Context} (h : ReturnContext s x)
    (hrip : t.rip = x.rip) (hrflags : t.rflags = x.rflags)
    (hgpr : ∀ r, r ≠ .rax → t.gpr r = x.gpr r) : ReturnsToCaller s t where
  rip := hrip.trans h.rip
  rsp := (hgpr .rsp (by decide)).trans h.rsp
  calleeSaved r hr := by
    have hne : r ≠ .rax ∧ r ≠ .rsp := by
      revert r
      decide
    exact (hgpr r hne.1).trans (h.gpr r hne.2)
  interruptFlag := (congrArg (BitVec.getLsbD · 9) hrflags).trans h.interruptFlag

theorem Error.code_ne_zero (e : Error) : BitVec.ofNat 64 e.code ≠ 0#64 := by
  cases e <;> decide

section

variable (core : Core) {places : LaunchPlaces} (code : LaunchCode places) {s entered : State}
  {x : Context} (hreturn : ReturnContext s x) (hentered : EntersPrivateStack places x entered)

include hreturn hentered

/-- `main` returns an error. -/
theorem mainFails_returns (e : Error) :
    ∃ restored, run core restoreContext (code.mainFails e entered) = some restored ∧
      ReturnsToCaller s restored ∧ restored.gpr .rax = BitVec.ofNat 64 e.code := by
  obtain ⟨restored, hrun, hrestored⟩ := restoresCopy_spec core (code.mainFails_spec hentered e)
  refine ⟨restored, hrun, ?_, ?_⟩
  · refine hreturn.returnsToCaller hrestored.rip hrestored.rflags fun r hr => ?_
    rw [hrestored.gpr]
    exact Function.update_of_ne hr _ _
  · rw [hrestored.gpr]
    rfl

/-- The guest is launched. -/
theorem mainLaunches_returns {processor : Processor} (hsupports : SupportsLaunch processor)
    {vmx : VmxState} {vmcs : Word} (hvmxon : vmx.vmxonPointer.isSome = true)
    (hcurrent : vmx.current = some vmcs) :
    ∃ vmx' captured restored, writeFields processor (launchFields places x) vmx = some vmx' ∧
      run core captureContext (code.mainLaunches entered) = some captured ∧
      run core restoreContext (code.guestLaunches captured) = some restored ∧
      captured.rip = places.vmExit ∧ restored.rip = places.vmlaunch ∧
      vmx'.field vmcs .guestRip = x.rip ∧ vmx'.field vmcs .guestRsp = x.gpr .rsp ∧
      vmx'.field vmcs .guestRflags = x.rflags ∧ restored.gpr .rax = 0#64 ∧
      ReturnsToCaller s (vmEntry vmcs restored vmx') := by
  obtain ⟨captured, hrun, hcaptured⟩ := capturesHost_spec core code (code.mainLaunches_spec hentered)
  obtain ⟨restored, hrun', hrestored⟩ :=
    restoresCopy_spec core (code.guestLaunches_spec hentered hcaptured)
  have hfield := fun f value => @field_launchFields places x vmx vmcs f value
  have hrip := hfield .guestRip x.rip (by decide) (by simp [launchFields])
  have hrsp := hfield .guestRsp (x.gpr .rsp) (by decide) (by simp [launchFields])
  have hrflags := hfield .guestRflags x.rflags (by decide) (by simp [launchFields])
  refine ⟨_, captured, restored, writeFields_eq ?_ hvmxon hcurrent, hrun, hrun', hcaptured.rip,
    hrestored.rip, hrip, hrsp, hrflags, ?_, ?_⟩
  · rw [map_fst_launchFields]
    exact hsupports
  · rw [hrestored.gpr]
    rfl
  · refine hreturn.returnsToCaller hrip hrflags fun r hr => ?_
    -- The stack pointer is loaded from the VMCS, the others are as before `vmlaunch`.
    rw [vmEntry_gpr]
    by_cases hr' : r = .rsp
    · rw [hr', Function.update_self, hrsp]
    · rw [Function.update_of_ne hr', hrestored.gpr]
      exact Function.update_of_ne hr _ _

end

namespace Launch

variable (l : Launch)

/-- The end of a launch, for each way in which `main` ends. -/
def EndsAs (s : State) (trace : LaunchTrace) : MainResult → Prop
  | .undefined _ => False
  | .failed e _ => ∃ t,
    trace = ⟨[l.places.zppHypervisorMain, l.places.launchOnCpuPrivateStack], .caller e t⟩ ∧
      t.gpr .rax = BitVec.ofNat 64 e.code ∧ t.gpr .rax ≠ 0#64
  | .launched _ => ∃ t vmx,
    trace = ⟨[l.places.zppHypervisorMain, l.places.launchOnCpuPrivateStack, l.places.vmExit,
      l.places.vmlaunch], .guest t vmx⟩ ∧
      vmx.field l.vmcs .guestRip = s.top 0#64 ∧
      vmx.field l.vmcs .guestRsp = s.gpr .rsp + 8#64 ∧
      (vmx.field l.vmcs .guestRflags).getLsbD 9 = s.rflags.getLsbD 9 ∧
      t.gpr .rax = 0#64 ∧ (vmEntry l.vmcs t vmx).gpr .rax = 0#64

/-- **A launch is an ordinary call.**  It ends once, in the way `main` does, behind the call of
`_start`; `rax` has zero or the code of the error. -/
theorem start_returns (hsupports : SupportsLaunch l.processor) {s : State} {vmx : VmxState}
    (haligned : (s.gpr .rsp).toNat % 16 = 8)
    (hstack : LoaderStackApart l.places l.code.depth (s.gpr .rsp - 0x3a8#64))
    (hmain : ∀ m, l.mainResult (s.gpr .rdi) (s.gpr .rsi) ≠ .undefined m)
    (hvmx : ∀ m, l.mainResult (s.gpr .rdi) (s.gpr .rsi) = .launched m →
      vmx.vmxonPointer.isSome = true ∧ vmx.current = some l.vmcs) :
    ∃ trace, l.start s vmx = some trace ∧ ReturnsToCaller s (trace.last.state l.vmcs) ∧
      l.EndsAs s trace (l.mainResult (s.gpr .rdi) (s.gpr .rsi)) := by
  have hc : Aligned (s.gpr .rsp - 0x3a8#64) := by
    unfold Aligned
    rw [BitVec.toNat_sub]
    have hoffset : (0x3a8#64).toNat = 0x3a8 := rfl
    omega
  have hrsp : s.gpr .rsp = s.gpr .rsp - 0x3a8#64 + 0x3a8#64 := (BitVec.sub_add_cancel _ _).symm
  obtain ⟨started, hrun₁, hstarted⟩ := startCode_spec l.core hc hrsp
    l.places.zppX64CaptureContextIntoStack l.places.next l.places.zppHypervisorMain
  obtain ⟨entered, hrun₂, hentered⟩ := entersPrivateStack l.core l.code hc hstarted hstack
  obtain ⟨x, hx⟩ : ∃ x, x = Context.read started.memory (s.gpr .rsp - 0x3a8#64) := ⟨_, rfl⟩
  have hreturn : ReturnContext s x := by
    rw [hx]
    exact hstarted.context
  rw [← hx] at hentered
  have hresult : l.mainResult (x.gpr .rdi) (x.gpr .rsi) = l.mainResult (s.gpr .rdi) (s.gpr .rsi) := by
    rw [hreturn.gpr .rdi (by decide), hreturn.gpr .rsi (by decide)]
  unfold start
  simp only [Option.bind_eq_bind, hrun₁, Option.bind_some, hrun₂, hentered.context, hresult]
  cases hend : l.mainResult (s.gpr .rdi) (s.gpr .rsi) with
  | undefined m => exact absurd hend (hmain m)
  | failed e m =>
    obtain ⟨restored, hrun₃, hreturns, hrax⟩ := mainFails_returns l.core l.code hreturn hentered e
    refine ⟨⟨[started.rip, entered.rip], .caller e restored⟩, ?_, hreturns, restored, ?_, hrax, ?_⟩
    · dsimp only
      rw [hrun₃]
      rfl
    · rw [hstarted.rip, hentered.rip]
    · rw [hrax]
      exact e.code_ne_zero
  | launched m =>
    obtain ⟨hvmxon, hcurrent⟩ := hvmx m hend
    obtain ⟨vmx', captured, restored, hfields, hrun₃, hrun₄, hcapturedRip, hrestoredRip, hrip, hguestRsp,
      hrflags, hrax, hreturns⟩ :=
      mainLaunches_returns l.core l.code hreturn hentered hsupports hvmxon hcurrent
    refine ⟨⟨[started.rip, entered.rip, captured.rip, restored.rip], .guest restored vmx'⟩, ?_, hreturns,
      restored, vmx', ?_, hrip.trans hreturn.rip, hguestRsp.trans hreturn.rsp, ?_, hrax, ?_⟩
    · dsimp only
      rw [hfields, Option.bind_some, hrun₃, Option.bind_some, hrun₄]
      rfl
    · rw [hstarted.rip, hentered.rip, hcapturedRip, hrestoredRip]
    · rw [hrflags]
      exact hreturn.interruptFlag
    · rw [vmEntry_gpr, Function.update_of_ne (by decide), hrax]

end Launch

/-! A launch whose compiled functions only do what their source says, on the second CPU. -/

def smallPlaces : LaunchPlaces where
  zppX64CaptureContextIntoStack := 0x402000#64
  next := 0x406005#64
  zppHypervisorMain := 0x407000#64
  launchOnCpuPrivateStack := 0x408000#64
  vmExitEntry := 0x403000#64
  vmExit := 0x401000#64
  vmlaunch := 0x409000#64
  this := 0x100000#64
  stack := 0x200000#64
  stack_aligned := rfl
  availableStackIndex := 1#64
  frame := ⟨0x2fd000#64, rfl⟩

/-- Writes a context. -/
def writeContext (p : Word) (x : Context) (s : State) : State :=
  s.setMemory (s.memory.storeAll p (x.writes smallCore))

theorem read_writeContext (p : Word) (x : Context) (s : State) :
    Context.read (writeContext p x s).memory p = x :=
  Context.read_writes smallCore x s.memory p

theorem read_writeContext_of_apart {p p' : Word} (x : Context) (s : State)
    (h : ∀ a ∈ Region p' contextSize, a ∉ Region p contextSize) :
    Context.read (writeContext p x s).memory p' = Context.read s.memory p' :=
  Context.read_eq_of_region fun a ha =>
    storeAll_of_not_mem (Context.writes_within smallCore x) (by decide) (h a ha)

/-- A call of `restore_context` for the copy, right below it. -/
theorem restoresCopy_writeContext {x : Context} {s : State}
    (hrsp : s.gpr .rsp = smallPlaces.stackTop - 8#64) :
    RestoresCopy smallPlaces x
      ((writeContext smallPlaces.stackTop x s).setGpr .rdi smallPlaces.stackTop) where
  rdi := State.setGpr_gpr_self _ _ _
  context := read_writeContext smallPlaces.stackTop x s
  rsp := by
    refine ⟨smallPlaces.stackTop - 0x38#64, ?_, fun a ha => ?_⟩
    · exact hrsp.trans (by decide)
    · exact not_mem_region_of_toNat (.inl (by decide)) ha

def smallLaunchCode : LaunchCode smallPlaces where
  hostContext_apart _ ha := not_mem_region_of_toNat (.inl (by decide)) ha
  depth := 0x30
  depth_lt := by decide
  launchOnCpu s :=
    let x := Context.read s.memory (s.gpr .rdi)
    writeContext smallPlaces.stackTop x
      (writeContext (s.gpr .rdi) (smallPlaces.launchContext x) s)
  launchOnCpu_spec {s} hrsp hstack := by
    have hapart : ∀ a ∈ Region (s.gpr .rdi) contextSize,
        a ∉ Region smallPlaces.stackTop contextSize := by
      intro a ha hcopy
      refine hstack a ?_ (smallPlaces.stackTop_subset hcopy)
      obtain ⟨p, hp⟩ : ∃ p, p = s.gpr .rsp - BitVec.ofNat 64 0x30 := ⟨_, rfl⟩
      have hrdi : s.gpr .rdi = p + BitVec.ofNat 64 0x38 := by
        have hsum : BitVec.ofNat 64 0x38 = 0x30#64 + 8#64 := rfl
        rw [hp, hrsp, hsum, ← BitVec.add_assoc, BitVec.sub_add_cancel, BitVec.sub_add_cancel]
      rw [← hp]
      rw [hrdi] at ha
      exact region_add_subset (by decide) (by decide) ha
    constructor
    · rfl
    · exact ⟨0, by decide, (BitVec.sub_zero _).symm⟩
    · exact read_writeContext _ _ _
    · exact (read_writeContext_of_apart _ _ hapart).trans (read_writeContext _ _ _)
  mainFails e s :=
    (writeContext smallPlaces.stackTop
      (errorContext e (Context.read s.memory smallPlaces.stackTop)) s).setGpr .rdi smallPlaces.stackTop
  mainFails_spec {x s} h e := by
    rw [h.context]
    exact restoresCopy_writeContext h.rsp
  mainLaunches s := (s.push (n := 8) smallPlaces.vmExit).setGpr .rdi smallPlaces.frame.hostContext
  mainLaunches_spec {x s} h := by
    have hrsp : ((s.push (n := 8) smallPlaces.vmExit).setGpr .rdi smallPlaces.frame.hostContext).gpr
        .rsp = smallPlaces.stackTop - 8#64 - 8#64 := by
      show s.gpr .rsp - 8#64 = _
      rw [h.rsp]
    have hpush : (s.push (n := 8) smallPlaces.vmExit).memory =
        s.memory.store (smallPlaces.stackTop - 8#64 - 8#64) (n := 8) smallPlaces.vmExit := by
      show s.memory.store (s.gpr .rsp - 8#64) (n := 8) smallPlaces.vmExit = _
      rw [h.rsp]
    constructor
    · exact State.setGpr_gpr_self _ _ _
    · unfold State.top
      rw [hrsp, BitVec.add_zero]
      show (s.push (n := 8) smallPlaces.vmExit).memory.load64 _ = _
      rw [hpush]
      exact load_store_self s.memory _ (n := 8) smallPlaces.vmExit (by decide)
    · rw [← h.context]
      refine Context.read_eq_of_region fun a ha => ?_
      show (s.push (n := 8) smallPlaces.vmExit).memory a = _
      rw [hpush]
      exact store_of_not_mem _ _ (not_mem_region_of_toNat (.inr (by decide)) ha)
    · rw [hrsp]
      intro a ha
      exact ⟨not_mem_region_of_toNat (.inr (by decide)) ha,
        not_mem_region_of_toNat (.inl (by decide)) ha⟩
  guestLaunches s :=
    (writeContext smallPlaces.stackTop (smallPlaces.vmlaunchContext
      (Context.read s.memory smallPlaces.frame.hostContext).rflags
      (Context.read s.memory smallPlaces.stackTop)) s).setGpr .rdi smallPlaces.stackTop
  guestLaunches_spec {x hostContext s s'} h h' := by
    rw [h'.hostContext, h'.context]
    refine restoresCopy_writeContext ?_
    rw [h'.rsp]
    show s.gpr .rsp - 8#64 + 8#64 = _
    rw [BitVec.sub_add_cancel, h.rsp]

def smallLaunch : Launch where
  core := smallCore
  processor := ⟨1#32, 36, fun _ => true, fun _ => true⟩
  platform := { noVmptrld with vmptrldCarry := false }
  machine := secondCpu
  physicalToVirtual _ := none
  vmcs := 0x3000#64
  places := smallPlaces
  availableStackIndex_eq := rfl
  code := smallLaunchCode

/-- The loader at the call of `_start` for the second CPU. -/
def loader : State where
  gpr r := if r = .rdi then 1#64 else if r = .rsp then 0x7008#64 else 0#64
  rip := 0x406000#64
  rflags := 0x202#64
  xmm _ := 0
  x87 := ⟨0, 0⟩
  mxcsr := 0x1f80
  seg _ := 0x10
  memory _ := 0#8

theorem start_returns_loader :
    ∃ trace, smallLaunch.start loader smallVmx = some trace ∧
      ReturnsToCaller loader (trace.last.state smallLaunch.vmcs) ∧
      smallLaunch.EndsAs loader trace (smallLaunch.mainResult (loader.gpr .rdi) (loader.gpr .rsi)) := by
  refine smallLaunch.start_returns (fun _ _ => ⟨rfl, rfl⟩) rfl ?_ ?_ ?_
  · intro a ha
    exact not_mem_region_of_toNat (.inl (by decide)) ha
  · intro m h
    cases h
  · intro m h
    exact ⟨rfl, rfl⟩

end Zpp.Hypervisor
