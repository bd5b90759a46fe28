import ZppHypervisor.Hypervisor.Equiv.Emulate
import ZppHypervisor.X64.Equiv.RestoreContext
import ZppHypervisor.X64.Equiv.VmTransitions

/-!
# When exits are transparent

The stack of an exit is the part of `host_vm_launch_stack` below the contexts, so the contexts stay
(`Vmm.exitPath_spec`), and by induction every exit of a run starts with the same host context.  An
`xsetbv` that the processor does not take is the only way for a run to fail
(`Vmm.runExits_transparent_iff`).
-/

namespace Zpp.Hypervisor

open X64 X64.Intel ByteMemory

/-! ### The stack of an exit -/

/-- A stack pointer below an address, with room under it. -/
theorem add_ofNat_sub_ofNat (p : Word) {d k n : ℕ} (h : k + n ≤ d) :
    p + BitVec.ofNat 64 d - BitVec.ofNat 64 k =
      p + BitVec.ofNat 64 (d - (k + n)) + BitVec.ofNat 64 n := by
  have hd : d = d - (k + n) + n + k := by omega
  conv_lhs => rw [hd, BitVec.ofNat_add, BitVec.ofNat_add, ← BitVec.add_assoc, ← BitVec.add_assoc]
  exact BitVec.add_sub_cancel _ _

namespace LaunchFrame

variable (frame : LaunchFrame)

theorem hostRsp_eq : frame.hostRsp = frame.hostVmLaunchStack + BitVec.ofNat 64 0xdc0 := by
  unfold hostRsp
  rw [add_sub_word]
  rfl

theorem hostContext_eq : frame.hostContext = frame.hostVmLaunchStack + BitVec.ofNat 64 0x1160 := by
  unfold hostContext
  rw [hostRsp_eq, BitVec.add_assoc]
  rfl

theorem aligned_hostRsp : Aligned frame.hostRsp := by
  rw [hostRsp_eq]
  exact aligned_add frame.aligned (by decide)

theorem aligned_hostContext : Aligned frame.hostContext := by
  rw [hostContext_eq]
  exact aligned_add frame.aligned (by decide)

theorem guestContext_subset :
    Region frame.hostRsp contextSize ⊆ Region frame.hostVmLaunchStack hostVmLaunchStackSize := by
  rw [hostRsp_eq]
  exact region_add_subset (by decide) (by decide)

theorem hostContext_subset :
    Region frame.hostContext contextSize ⊆ Region frame.hostVmLaunchStack hostVmLaunchStackSize := by
  rw [hostContext_eq]
  exact region_add_subset (by decide) (by decide)

/-- The stack below the contexts is not a part of the context of the guest. -/
theorem not_mem_guestContext {a : Word} (ha : a ∈ Region frame.hostVmLaunchStack 0xdc0) :
    a ∉ Region frame.hostRsp contextSize := by
  rw [hostRsp_eq]
  rw [← BitVec.add_zero frame.hostVmLaunchStack] at ha
  exact not_mem_region_add (s := 0) (.inl (by decide)) (by decide) (by decide) ha

/-- Nor of the context of the host. -/
theorem not_mem_hostContext {a : Word} (ha : a ∈ Region frame.hostVmLaunchStack 0xdc0) :
    a ∉ Region frame.hostContext contextSize := by
  rw [hostContext_eq]
  rw [← BitVec.add_zero frame.hostVmLaunchStack] at ha
  exact not_mem_region_add (s := 0) (.inl (by decide)) (by decide) (by decide) ha

/-- The contexts are apart. -/
theorem guestContext_apart {a : Word} (ha : a ∈ Region frame.hostRsp contextSize) :
    a ∉ Region frame.hostContext contextSize := by
  rw [hostContext_eq]
  rw [hostRsp_eq] at ha
  exact not_mem_region_add (.inl (by decide)) (by decide) (by decide) ha

end LaunchFrame

/-- The context of registers. -/
def registersContext (r : Registers) : Context where
  gpr := r.gpr
  rip := r.rip
  rflags := r.rflags
  xmm := r.xmm
  x87 := r.x87
  fxMxcsr := r.mxcsr
  fxXmm := r.xmm
  mxcsr := r.mxcsr
  seg := r.seg

/-- The context that `vm_exit_entry` captures; `next` is its own address. -/
def entryContext (next : Word) (r : Registers) : Context :=
  { registersContext r with rip := next, rflags := r.rflags &&& 0xfcffff#64 }

/-- What `vm_exit_entry` leaves for `zpp_vm_exit`. -/
structure Entered (frame : LaunchFrame) (next zppVmExit : Word) (s s' : State) : Prop where
  context : Context.read s'.memory frame.hostRsp = entryContext next s.toRegisters
  rdi : s'.gpr .rdi = frame.hostContext
  rsp : s'.gpr .rsp = frame.hostRsp - 8#64
  rip : s'.rip = zppVmExit
  memory : ∀ a ∉ Region frame.hostRsp contextSize, a ∉ Region frame.hostVmLaunchStack 0xdc0 →
    s'.memory a = s.memory a

theorem vmExitEntry_spec (core : Core) {frame : LaunchFrame} {s : State}
    (hrsp : s.gpr .rsp = frame.hostRsp) (zppX64CaptureContextIntoStack next zppVmExit : Word) :
    ∃ s', run core (vmExitEntry zppX64CaptureContextIntoStack next zppVmExit) s = some s' ∧
      Entered frame next zppVmExit s s' := by
  -- The call.
  let called : State := { s.push (n := 8) next with rip := zppX64CaptureContextIntoStack }
  have hcalled : called.gpr .rsp = frame.hostRsp - 8#64 := by
    show (s.setGpr .rsp (s.gpr .rsp - 8#64)).gpr .rsp = _
    rw [State.setGpr_gpr_self, hrsp]
  have htop : called.top 0#64 = next := by
    unfold State.top
    rw [BitVec.add_zero, hcalled, ← hrsp]
    exact load_store_self s.memory (s.gpr .rsp - 8#64) (n := 8) next (by decide)
  have hcaller : called.callerContext = entryContext next s.toRegisters := by
    have hgpr : Function.update called.gpr .rsp (called.gpr .rsp + 8#64) = s.gpr := by
      rw [hcalled, BitVec.sub_add_cancel, ← hrsp]
      show Function.update (Function.update s.gpr .rsp _) .rsp (s.gpr .rsp) = s.gpr
      rw [Function.update_idem, Function.update_eq_self]
    unfold State.callerContext
    rw [hgpr, htop]
    rfl
  have halignedContext : Aligned (called.gpr .rsp + 0x8#64) := by
    rw [hcalled, BitVec.sub_add_cancel]
    exact frame.aligned_hostRsp
  obtain ⟨captured, hrun, hcaptured⟩ := @captureContextIntoStack_spec core _ halignedContext
  rw [hcalled, BitVec.sub_add_cancel] at hcaptured
  have hcapturedRsp : captured.gpr .rsp = frame.hostRsp := by
    rw [hcaptured.rsp, hcalled, BitVec.sub_add_cancel]
  -- The end: the argument of `zpp_vm_exit`, and its stack.
  refine ⟨_, (run_cons_of rfl).trans ((run_append_of hrun).trans rfl), ?_⟩
  constructor
  · exact hcaptured.context.trans hcaller
  · show captured.gpr .rsp + 0x3a0#64 = _
    rw [hcapturedRsp]
    rfl
  · show captured.gpr .rsp - 0x8#64 = _
    rw [hcapturedRsp]
  · rfl
  · intro a hcontext hstack
    have hpushes : ∀ k n, k + n ≤ 0xdc0 →
        a ∉ Region (frame.hostVmLaunchStack + BitVec.ofNat 64 k) n := by
      intro k n hkn ha
      exact hstack (region_add_subset hkn (by decide) ha)
    show captured.memory a = _
    rw [hcaptured.memory a hcontext]
    · refine store_of_not_mem _ _ ?_
      rw [hrsp, frame.hostRsp_eq, add_sub_word]
      exact hpushes 0xdb8 8 (by decide)
    · rw [frame.hostRsp_eq, add_sub_word, add_sub_word]
      exact hpushes 0xd98 0x20 (by decide)

theorem resumedAs_of_restored {s s' : State} {x : Context} {q : Word} (h : Restored s x q s') :
    ResumedAs x s' :=
  ⟨h.gpr, h.rip, h.rflags, h.xmm, h.x87, h.mxcsr⟩

/-- What is between `vm_exit_entry` and the handler. -/
structure Resumed (frame : LaunchFrame) (hostContext : Context) (s s' : State) : Prop where
  registers : ResumedAs hostContext s'
  memory : ∀ a ∉ Region frame.hostVmLaunchStack 0xdc0, s'.memory a = s.memory a

/-- `zpp_vm_exit` resumes the context of the host. -/
theorem zppVmExit_spec (core : Core) {frame : LaunchFrame} {hostContext : Context}
    (code : HostCode frame hostContext) {s : State} (hrdi : s.gpr .rdi = frame.hostContext)
    (hrsp : s.gpr .rsp = frame.hostRsp - 8#64)
    (hcontext : Context.read s.memory frame.hostContext = hostContext) :
    ∃ s', run core restoreContext (code.zppVmExit s) = some s' ∧
      Resumed frame hostContext s s' := by
  obtain ⟨k, hk, hrsp'⟩ := code.zppVmExit_rsp s hrsp
  have hrdi' : (code.zppVmExit s).gpr .rdi = frame.hostContext := (code.zppVmExit_rdi s).trans hrdi
  have hmemory := code.zppVmExit_memory s hrsp
  -- The stack of `restore_context`.
  let q : Word := frame.hostVmLaunchStack + BitVec.ofNat 64 (0xdb8 - (k + 0x30))
  have hq : (code.zppVmExit s).gpr .rsp = q + 0x30#64 := by
    rw [hrsp', frame.hostRsp_eq, add_sub_word]
    exact add_ofNat_sub_ofNat _ (d := 0xdb8) (by omega)
  have hstack : Region q 0x30 ⊆ Region frame.hostVmLaunchStack 0xdb8 :=
    region_add_subset (by omega) (by decide)
  have hwide : Region frame.hostVmLaunchStack 0xdb8 ⊆ Region frame.hostVmLaunchStack 0xdc0 :=
    region_mono (by decide)
  have hread : Context.read (code.zppVmExit s).memory frame.hostContext = hostContext := by
    refine (Context.read_eq_of_region fun a ha => hmemory a fun hpush => ?_).trans hcontext
    exact frame.not_mem_hostContext (hwide hpush) ha
  have haligned : Aligned ((code.zppVmExit s).gpr .rdi) := by
    rw [hrdi']
    exact frame.aligned_hostContext
  have hapart : ∀ a ∈ Region q 0x30, a ∉ Region ((code.zppVmExit s).gpr .rdi) contextSize := by
    intro a ha
    rw [hrdi']
    exact frame.not_mem_hostContext (hwide (hstack ha))
  obtain ⟨s', hrun, hrestored⟩ := restoreContext_spec core haligned hapart hq
  rw [hrdi', hread] at hrestored
  refine ⟨s', hrun, resumedAs_of_restored hrestored, fun a ha => ?_⟩
  rw [hrestored.memory a fun hpush => ha (hwide (hstack hpush)), hmemory a fun hpush => ha (hwide hpush)]

/-! ### The handler -/

/-- A processor on which the VMCS reads of the handler succeed, and which lets it write `guest_rip`. -/
structure SupportsExits (processor : Processor) : Prop where
  vpid : processor.supported .vpid = true
  exitReason : processor.supported .exitReason = true
  guestRip : processor.supported .guestRip = true
  vmExitInstructionLength : processor.supported .vmExitInstructionLength = true
  writableGuestRip : processor.writable .guestRip = true

section

variable {processor : Processor} {s : VmxState} {pointer : Word}
  (hvmxon : s.vmxonPointer.isSome = true) (hcurrent : s.current = some pointer)

include hvmxon hcurrent

omit hcurrent in
theorem not_isNone_vmxonPointer : ¬s.vmxonPointer.isNone = true := by
  rw [Option.isNone_eq_false_iff.mpr hvmxon]
  exact Bool.false_ne_true

theorem vmcsRead_eq {f : VmcsField} (hf : processor.supported f = true) :
    Vmcs.read processor f s = some (.ok (s.field pointer f), s) := by
  have hnone := not_isNone_vmxonPointer hvmxon
  simp only [Vmcs.read, Intel.vmread, VmxState.vmread, hcurrent, if_neg hnone, if_pos hf]
  rfl

theorem vmcsValue_eq {f : VmcsField} (hf : processor.supported f = true) :
    Vmcs.value processor f s = some (s.field pointer f, s) := by
  unfold Vmcs.value
  rw [vmcsRead_eq hvmxon hcurrent hf]
  rfl

theorem vmcsWrite_eq {f : VmcsField} (hf : processor.supported f = true)
    (hwritable : processor.writable f = true) (value : Word) :
    Vmcs.write processor f value s =
      some (.success, s.setField pointer f (value.setWidth f.width)) := by
  have hnone := not_isNone_vmxonPointer hvmxon
  simp only [Vmcs.write, Intel.vmwrite, VmxState.vmwrite, hcurrent, if_neg hnone, hf, hwritable,
    not_true_eq_false, if_false]
  rfl

end

theorem emulate_rip (host : HostCpu) (reason : BasicReason) (context : Context) :
    (emulate host reason context).1.rip = context.rip := by
  unfold emulate
  split_ifs <;> rfl

/-- The handler restores the context of the guest, with its emulated instruction, if no instruction that
it executes for the guest raises an exception. -/
theorem exitHandler_eq {processor : Processor} {s : VmxState} {pointer : Word}
    (hsupports : SupportsExits processor) (hvmxon : s.vmxonPointer.isSome = true)
    (hcurrent : s.current = some pointer) (host : HostCpu) (vmresume : Word) (context : Context) :
    exitHandler host processor vmresume context s =
      if ∀ i ∈ (emulate host (ExitReason.mk (s.field pointer .exitReason)).basic
          { context with rip := s.field pointer .guestRip }).2, host.Executes i then
      some (.restored
        { (emulate host (ExitReason.mk (s.field pointer .exitReason)).basic
            { context with rip := s.field pointer .guestRip }).1 with rip := vmresume }
        (s.setField pointer .guestRip
          ((s.field pointer .guestRip + s.field pointer .vmExitInstructionLength).setWidth _))
        (emulate host (ExitReason.mk (s.field pointer .exitReason)).basic
          { context with rip := s.field pointer .guestRip }).2)
      else none := by
  have hlength := vmcsValue_eq hvmxon hcurrent hsupports.vmExitInstructionLength
  have hwrite := vmcsWrite_eq hvmxon hcurrent hsupports.guestRip hsupports.writableGuestRip
  unfold exitHandler
  simp only [Option.bind_eq_bind, vmcsValue_eq hvmxon hcurrent hsupports.vpid, Option.bind_some,
    vmcsRead_eq hvmxon hcurrent hsupports.exitReason,
    vmcsValue_eq hvmxon hcurrent hsupports.guestRip, hlength, hwrite, emulate_rip]
  unfold guard
  split_ifs with hexecutes
  · rfl
  · rfl

/-! ### One exit -/

/-- The registers with which the guest goes on after an exit. -/
def afterExit (exit : ExitInformation) (host : HostCpu) (r : Registers) : Registers :=
  let result := cpuidResult host (registersContext r)
  { r with
    gpr :=
      if (ExitReason.mk (exit.reason.setWidth 64)).basic = .cpuid then
        Function.update (Function.update (Function.update (Function.update r.gpr
          .rax (result.eax.setWidth 64)) .rbx (result.ebx.setWidth 64))
          .rcx (result.ecx.setWidth 64)) .rdx (result.edx.setWidth 64)
      else r.gpr
    rip := r.rip + exit.instructionLength.setWidth 64 }

/-- What the guest wants with the exit, the host can execute for it without an exception: the value for
XCR0 is one that its processor takes, and no memory is kept from `invd`. -/
structure ExitExecutes (exit : ExitInformation) (host : HostCpu) (r : Registers) : Prop where
  xsetbv : (ExitReason.mk (exit.reason.setWidth 64)).basic = .xsetbv →
    host.HasXsave ∧ lowHalf (r.gpr .rcx) = 0#32 ∧
      LegalXcr0 host.xcr0Bits (r.gpr .rax ||| (r.gpr .rdx <<< 32))
  invd : (ExitReason.mk (exit.reason.setWidth 64)).basic = .invd → host.reservedMemoryProtected = false

theorem executes_activateXsave {host : HostCpu} (h : host.HasXsave) :
    ∀ i ∈ activateXsave host, host.Executes i := by
  unfold activateXsave
  split_ifs
  · intro i hi
    rw [List.mem_singleton.mp hi]
    exact h
  · exact fun i hi => absurd hi List.not_mem_nil

theorem executes_xsetbv_iff (host : HostCpu) (index : BitVec 32) (value : Word) :
    host.Executes (xsetbv index value) ↔
      host.HasXsave ∧ index = 0#32 ∧ LegalXcr0 host.xcr0Bits value := by
  have hvalue : (value >>> 32).setWidth 32 ++ value.setWidth 32 = value := halves_append value
  unfold xsetbv HostCpu.Executes
  dsimp only
  rw [hvalue]

/-- The handler executes what the guest wants. -/
theorem executes_emulate_iff (exit : ExitInformation) (host : HostCpu) {x : Context} {r : Registers}
    (hx : ∀ q, q ≠ .rsp → x.gpr q = r.gpr q) :
    (∀ i ∈ (emulate host (ExitReason.mk (exit.reason.setWidth 64)).basic x).2, host.Executes i) ↔
      ExitExecutes exit host r := by
  have hne : BasicReason.cpuid ≠ .xsetbv ∧ BasicReason.cpuid ≠ .invd ∧ BasicReason.xsetbv ≠ .cpuid ∧
    BasicReason.xsetbv ≠ .invd ∧ BasicReason.invd ≠ .cpuid ∧ BasicReason.invd ≠ .xsetbv := by decide
  unfold emulate
  split_ifs with hcpuid hxsetbv hinvd
  · refine iff_of_true (fun i hi => ?_) ⟨fun h => ?_, fun h => ?_⟩
    · rw [List.mem_singleton.mp hi]
      trivial
    · exact absurd (hcpuid.symm.trans h) hne.1
    · exact absurd (hcpuid.symm.trans h) hne.2.1
  · rw [hx .rcx (by decide), hx .rax (by decide), hx .rdx (by decide)]
    constructor
    · intro h
      have hexecutes := h _ (List.mem_append_right _ (List.mem_singleton_self _))
      exact ⟨fun _ => (executes_xsetbv_iff _ _ _).mp hexecutes,
        fun hinvd => absurd (hxsetbv.symm.trans hinvd) hne.2.2.2.1⟩
    · intro h i hi
      have hexecutes := h.xsetbv hxsetbv
      rcases List.mem_append.mp hi with hi | hi
      · exact executes_activateXsave hexecutes.1 i hi
      · rw [List.mem_singleton.mp hi]
        exact (executes_xsetbv_iff _ _ _).mpr hexecutes
  · constructor
    · intro h
      exact ⟨fun hx => absurd hx hxsetbv, fun _ => h _ (List.mem_singleton_self _)⟩
    · intro h i hi
      rw [List.mem_singleton.mp hi]
      exact h.invd hinvd
  · exact iff_of_true (fun i hi => absurd hi List.not_mem_nil)
      ⟨fun h => absurd h hxsetbv, fun h => absurd h hinvd⟩

/-- The other registers of a context play no part. -/
theorem cpuidResult_congr (host : HostCpu) {x y : Context} (hrax : x.gpr .rax = y.gpr .rax)
    (hrcx : x.gpr .rcx = y.gpr .rcx) : cpuidResult host x = cpuidResult host y := by
  unfold cpuidResult
  rw [hrax, hrcx]

/-- The handler works on the registers of the guest, but for `rsp`. -/
theorem emulate_gpr (exit : ExitInformation) (host : HostCpu) {x : Context} {r : Registers}
    (hx : ∀ q, q ≠ .rsp → x.gpr q = r.gpr q) :
    Function.update
      (emulate host (ExitReason.mk (exit.reason.setWidth 64)).basic x).1.gpr .rsp (r.gpr .rsp) =
      (afterExit exit host r).gpr := by
  have hother : Function.update x.gpr .rsp (r.gpr .rsp) = r.gpr := by
    ext1 q
    by_cases hq : q = .rsp
    · rw [hq, Function.update_self]
    · rw [Function.update_of_ne hq, hx q hq]
  have hresult : cpuidResult host x = cpuidResult host (registersContext r) :=
    cpuidResult_congr host (hx .rax (by decide)) (hx .rcx (by decide))
  unfold emulate afterExit
  dsimp only
  by_cases hcpuid : (ExitReason.mk (exit.reason.setWidth 64)).basic = .cpuid
  · rw [if_pos hcpuid, if_pos hcpuid, hresult, ← hother]
    unfold placeCpuid
    ext1 q
    cases q <;> rfl
  · rw [if_neg hcpuid, if_neg hcpuid]
    split_ifs <;> exact hother

/-- What the handler leaves of the captured context of a guest. -/
structure HandledContext (exit : ExitInformation) (host : HostCpu) (guest : Registers)
    (vmresume : Word) (context x : Context) : Prop where
  gpr : Function.update x.gpr .rsp (guest.gpr .rsp) = (afterExit exit host guest).gpr
  rip : x.rip = vmresume
  xmm : x.xmm = context.xmm
  x87 : x.x87 = context.x87
  fxMxcsr : x.fxMxcsr = context.fxMxcsr

theorem emulate_fields (host : HostCpu) (reason : BasicReason) (context : Context) :
    (emulate host reason context).1.xmm = context.xmm ∧
      (emulate host reason context).1.x87 = context.x87 ∧
      (emulate host reason context).1.fxMxcsr = context.fxMxcsr := by
  unfold emulate
  split_ifs <;> exact ⟨rfl, rfl, rfl⟩

/-- The handler after a VM exit, on a context that has the registers of the guest but for `rsp`. -/
theorem exitHandler_spec {processor : Processor} {s : VmxState} {pointer : Word}
    (hsupports : SupportsExits processor) (hvmxon : s.vmxonPointer.isSome = true)
    (hcurrent : s.current = some pointer) {exit : ExitInformation} {guest : Registers}
    (hsaved : Saved pointer exit guest s) (host : HostCpu) (vmresume : Word) {context : Context}
    (hcontext : ∀ q, q ≠ .rsp → context.gpr q = guest.gpr q) (hexecutes : ExitExecutes exit host guest) :
    ∃ x executed, exitHandler host processor vmresume context s =
      some (.restored x (s.setField pointer .guestRip
        ((guest.rip + exit.instructionLength.setWidth 64).setWidth _)) executed) ∧
      HandledContext exit host guest vmresume context x := by
  have hhandler := exitHandler_eq hsupports hvmxon hcurrent host vmresume context
  have hiff := @executes_emulate_iff exit host { context with rip := guest.rip } guest hcontext
  rw [hsaved.exitReason, hsaved.guestRip, hsaved.vmExitInstructionLength,
    if_pos (hiff.mpr hexecutes)] at hhandler
  obtain ⟨hxmm, hx87, hmxcsr⟩ := emulate_fields host
    (ExitReason.mk (exit.reason.setWidth 64)).basic { context with rip := guest.rip }
  exact ⟨_, _, hhandler, emulate_gpr exit host hcontext, rfl, hxmm, hx87, hmxcsr⟩

/-- Otherwise an exception ends it. -/
theorem exitHandler_eq_none {processor : Processor} {s : VmxState} {pointer : Word}
    (hsupports : SupportsExits processor) (hvmxon : s.vmxonPointer.isSome = true)
    (hcurrent : s.current = some pointer) {exit : ExitInformation} {guest : Registers}
    (hsaved : Saved pointer exit guest s) (host : HostCpu) (vmresume : Word) {context : Context}
    (hcontext : ∀ q, q ≠ .rsp → context.gpr q = guest.gpr q) (hexecutes : ¬ExitExecutes exit host guest) :
    exitHandler host processor vmresume context s = none := by
  have hhandler := exitHandler_eq hsupports hvmxon hcurrent host vmresume context
  have hiff := @executes_emulate_iff exit host { context with rip := guest.rip } guest hcontext
  rw [hsaved.exitReason, hsaved.guestRip, if_neg (mt hiff.mp hexecutes)] at hhandler
  exact hhandler

/-- The state between two exits: the host is ready for the next one. -/
structure Vmm.HostReady (vmm : Vmm) (m : ByteMemory 64) (vmx : VmxState) : Prop where
  hostContext : Context.read m vmm.frame.hostContext = vmm.hostContext
  ready : vmm.code.ready m
  vmxon : vmx.vmxonPointer.isSome = true
  current : vmx.current = some vmm.vmcs
  hostRsp : vmx.field vmm.vmcs .hostRsp = vmm.frame.hostRsp

/-- A transparent exit. -/
structure Vmm.Transparent (vmm : Vmm) (exit : ExitInformation) (host : HostCpu) (guest : State)
    (vmx : VmxState) (trace : ExitTrace) : Prop where
  /-- The registers of the guest are captured on the host stack. -/
  captured : Context.read trace.captured.memory vmm.frame.hostRsp =
    entryContext vmm.next (vmExit vmm.vmcs exit guest vmx).1.toRegisters
  /-- The host context is resumed. -/
  resumed : ResumedAs vmm.hostContext trace.resumed
  rip : trace.final.rip = vmm.vmresume
  registers : (vmEntry vmm.vmcs trace.final trace.vmx).toRegisters =
    afterExit exit host guest.toRegisters
  guestRip : trace.vmx.field vmm.vmcs .guestRip = guest.rip + exit.instructionLength.setWidth 64
  guestRsp : trace.vmx.field vmm.vmcs .guestRsp = guest.gpr .rsp
  guestRflags : trace.vmx.field vmm.vmcs .guestRflags = guest.rflags
  /-- No push changes the guest context between its capture and the handler, or behind the handler. -/
  guestContext : ∀ a ∈ Region vmm.frame.hostRsp contextSize,
    trace.resumed.memory a = trace.captured.memory a ∧ trace.final.memory a = trace.handled.memory a
  /-- Nothing changes the host context. -/
  hostContext : ∀ a ∈ Region vmm.frame.hostContext contextSize,
    trace.captured.memory a = guest.memory a ∧ trace.resumed.memory a = guest.memory a ∧
      trace.handled.memory a = guest.memory a ∧ trace.final.memory a = guest.memory a
  hostReady : vmm.HostReady trace.final.memory trace.vmx

/-- The end of an exit: the context that the handler leaves is restored. -/
theorem restoreHandled_spec (core : Core) {frame : LaunchFrame} {used : Set Word} {x : Context}
    {s s' : State} (h : Leaves frame used x s s') :
    ∃ final, run core restoreContext s' = some final ∧ ResumedAs x final ∧
      (∀ a ∈ Region frame.hostVmLaunchStack hostVmLaunchStackSize, final.memory a = s'.memory a) ∧
      ∀ a ∈ used, final.memory a = s'.memory a := by
  obtain ⟨q, hq, hstack⟩ := h.rsp
  have haligned : Aligned (s'.gpr .rdi) := by
    rw [h.rdi]
    exact frame.aligned_hostRsp
  have hapart : ∀ a ∈ Region q 0x30, a ∉ Region (s'.gpr .rdi) contextSize := by
    intro a ha hmem
    rw [h.rdi] at hmem
    exact (hstack a ha).1 (frame.guestContext_subset hmem)
  obtain ⟨final, hrun, hrestored⟩ := restoreContext_spec core haligned hapart hq
  rw [h.rdi, h.context] at hrestored
  refine ⟨final, hrun, resumedAs_of_restored hrestored, fun a ha => ?_, fun a ha => ?_⟩
  · exact hrestored.memory a fun hpush => (hstack a hpush).1 ha
  · exact hrestored.memory a fun hpush => (hstack a hpush).2 ha

/-- The way to the handler. -/
structure Vmm.ReachesHandler (vmm : Vmm) (s captured resumed : State) : Prop where
  context : Context.read captured.memory vmm.frame.hostRsp = entryContext vmm.next s.toRegisters
  registers : ResumedAs vmm.hostContext resumed
  guestContext : ∀ a ∈ Region vmm.frame.hostRsp contextSize, resumed.memory a = captured.memory a
  hostContext : ∀ a ∈ Region vmm.frame.hostContext contextSize,
    captured.memory a = s.memory a ∧ resumed.memory a = s.memory a
  ready : vmm.code.ready resumed.memory

/-- From a VM exit to the handler. -/
theorem Vmm.reachesHandler (vmm : Vmm) {s : State} (hrsp : s.gpr .rsp = vmm.frame.hostRsp)
    (hhost : Context.read s.memory vmm.frame.hostContext = vmm.hostContext)
    (hready : vmm.code.ready s.memory) :
    ∃ captured resumed,
      run vmm.core (vmExitEntry vmm.zppX64CaptureContextIntoStack vmm.next vmm.zppVmExit) s =
        some captured ∧
      run vmm.core restoreContext (vmm.code.zppVmExit captured) = some resumed ∧
      vmm.ReachesHandler s captured resumed := by
  obtain ⟨captured, hrun₁, hentered⟩ := vmExitEntry_spec vmm.core hrsp
    vmm.zppX64CaptureContextIntoStack vmm.next vmm.zppVmExit
  have hcaptured : ∀ a ∈ Region vmm.frame.hostContext contextSize,
      captured.memory a = s.memory a := by
    intro a ha
    refine hentered.memory a (fun hguest => ?_) fun hstack => ?_
    · exact vmm.frame.guestContext_apart hguest ha
    · exact vmm.frame.not_mem_hostContext hstack ha
  obtain ⟨resumed, hrun₂, hresumed⟩ := zppVmExit_spec vmm.core vmm.code hentered.rdi hentered.rsp
    ((Context.read_eq_of_region hcaptured).trans hhost)
  refine ⟨captured, resumed, hrun₁, hrun₂, ?_⟩
  constructor
  · exact hentered.context
  · exact hresumed.registers
  · intro a ha
    exact hresumed.memory a fun hstack => vmm.frame.not_mem_guestContext hstack ha
  · intro a ha
    refine ⟨hcaptured a ha, ?_⟩
    rw [hresumed.memory a fun hstack => vmm.frame.not_mem_hostContext hstack ha, hcaptured a ha]
  · refine vmm.code.ready_congr (fun a ha => ?_) hready
    have harray := vmm.code.used_apart a ha
    have hguest : a ∉ Region vmm.frame.hostRsp contextSize :=
      fun hmem => harray (vmm.frame.guestContext_subset hmem)
    have hstack : a ∉ Region vmm.frame.hostVmLaunchStack 0xdc0 :=
      fun hmem => harray (region_mono (by decide) hmem)
    rw [hresumed.memory a hstack, hentered.memory a hguest hstack]

theorem Vmm.HostReady.vmxon_vmExit {vmm : Vmm} {m : ByteMemory 64} {vmx : VmxState}
    (h : vmm.HostReady m vmx) (exit : ExitInformation) (guest : State) :
    (vmExit vmm.vmcs exit guest vmx).2.vmxonPointer.isSome = true :=
  (congrArg Option.isSome (VmxState.setFields_vmxonPointer _)).trans h.vmxon

theorem Vmm.HostReady.current_vmExit {vmm : Vmm} {m : ByteMemory 64} {vmx : VmxState}
    (h : vmm.HostReady m vmx) (exit : ExitInformation) (guest : State) :
    (vmExit vmm.vmcs exit guest vmx).2.current = some vmm.vmcs :=
  (VmxState.setFields_current _).trans h.current

/-- An exit reaches the handler. -/
theorem Vmm.HostReady.reachesHandler {vmm : Vmm} {guest : State} {vmx : VmxState}
    (h : vmm.HostReady guest.memory vmx) (exit : ExitInformation) :
    ∃ captured resumed,
      run vmm.core (vmExitEntry vmm.zppX64CaptureContextIntoStack vmm.next vmm.zppVmExit)
        (vmExit vmm.vmcs exit guest vmx).1 = some captured ∧
      run vmm.core restoreContext (vmm.code.zppVmExit captured) = some resumed ∧
      vmm.ReachesHandler (vmExit vmm.vmcs exit guest vmx).1 captured resumed := by
  have hrsp : (vmExit vmm.vmcs exit guest vmx).1.gpr .rsp = vmm.frame.hostRsp := by
    rw [vmExit_gpr, Function.update_self]
    exact (field_vmExit_of_not_mem exit guest (by decide)).trans h.hostRsp
  exact vmm.reachesHandler hrsp h.hostContext h.ready

/-- The handler works on the captured context, which has the registers of the guest but for `rsp`. -/
theorem Vmm.ReachesHandler.read_eq {vmm : Vmm} {s captured resumed : State}
    (h : vmm.ReachesHandler s captured resumed) :
    Context.read resumed.memory vmm.frame.hostRsp = entryContext vmm.next s.toRegisters :=
  (Context.read_eq_of_region h.guestContext).trans h.context

theorem Vmm.ReachesHandler.gpr {vmm : Vmm} {exit : ExitInformation} {guest : State} {vmx : VmxState}
    {captured resumed : State}
    (h : vmm.ReachesHandler (vmExit vmm.vmcs exit guest vmx).1 captured resumed) {q : Gpr}
    (hq : q ≠ .rsp) : (Context.read resumed.memory vmm.frame.hostRsp).gpr q = guest.gpr q := by
  rw [h.read_eq]
  exact Function.update_of_ne hq _ _

/-- An exit is transparent, if the host can execute what the guest wants. -/
theorem Vmm.exitPath_spec (vmm : Vmm) (hsupports : SupportsExits vmm.processor)
    {exit : ExitInformation} {host : HostCpu} {guest : State} {vmx : VmxState}
    (h : vmm.HostReady guest.memory vmx) (hexecutes : ExitExecutes exit host guest.toRegisters) :
    ∃ trace, vmm.exitPath exit host guest vmx = some trace ∧
      vmm.Transparent exit host guest vmx trace := by
  have hsaved := saved_vmExit vmm.vmcs exit guest vmx
  have hvmxon := h.vmxon_vmExit exit guest
  have hcurrent := h.current_vmExit exit guest
  obtain ⟨captured, resumed, hrun₁, hrun₂, hreaches⟩ := h.reachesHandler exit
  have hread := hreaches.read_eq
  have hhostRsp : (vmExit vmm.vmcs exit guest vmx).2.field vmm.vmcs .hostRsp = vmm.frame.hostRsp :=
    (field_vmExit_of_not_mem exit guest (by decide)).trans h.hostRsp
  obtain ⟨x, executed, hhandler, hx⟩ := exitHandler_spec hsupports hvmxon hcurrent hsaved host
    vmm.vmresume (fun _ hq => hreaches.gpr hq) hexecutes
  have hleaves := @HostCode.vmmCode_leaves _ _ vmm.code x _ hreaches.registers hreaches.ready
  have hhandled := @HostCode.vmmCode_ready _ _ vmm.code x _ hreaches.registers hreaches.ready
  obtain ⟨final, hrun₃, hfinal, harray, hused⟩ := restoreHandled_spec vmm.core hleaves
  let rip : Word := guest.rip + exit.instructionLength.setWidth 64
  let vmx' : VmxState :=
    (vmExit vmm.vmcs exit guest vmx).2.setField vmm.vmcs .guestRip (rip.setWidth _)
  have htrace : vmm.exitPath exit host guest vmx =
      some ⟨captured, resumed, vmm.code.vmmCode x resumed, final, vmx', executed⟩ := by
    unfold exitPath
    simp only [Option.bind_eq_bind, hrun₁, Option.bind_some, hrun₂, hhandler, hrun₃]
    rfl
  have hother : ∀ {f : VmcsField}, f ≠ .guestRip →
      vmx'.field vmm.vmcs f = (vmExit vmm.vmcs exit guest vmx).2.field vmm.vmcs f :=
    fun hf => VmxState.field_setField_of_ne hf _
  have hhost : ∀ a ∈ Region vmm.frame.hostContext contextSize,
      (vmm.code.vmmCode x resumed).memory a = guest.memory a := by
    intro a ha
    exact (hleaves.hostContext a ha).trans (hreaches.hostContext a ha).2
  have hfinalHost : ∀ a ∈ Region vmm.frame.hostContext contextSize, final.memory a = guest.memory a := by
    intro a ha
    exact (harray a (vmm.frame.hostContext_subset ha)).trans (hhost a ha)
  have hrip : vmx'.field vmm.vmcs .guestRip = rip := by
    refine (VmxState.field_setField_self _ _).trans ?_
    exact (BitVec.setWidth_setWidth_of_le rip (by decide)).trans (BitVec.setWidth_eq rip)
  refine ⟨_, htrace, ?_⟩
  constructor
  · exact hreaches.context
  · exact hreaches.registers
  · exact hfinal.rip.trans hx.rip
  · rw [hsaved.vmEntry_eq final rip]
    have hgpr : Function.update final.gpr .rsp (guest.gpr .rsp) =
        (afterExit exit host guest.toRegisters).gpr := by
      rw [hfinal.gpr]
      exact hx.gpr
    have hxmm : final.xmm = guest.xmm := by
      rw [hfinal.xmm, hx.xmm, hread]
      rfl
    have hx87 : final.x87 = guest.x87 := by
      rw [hfinal.x87, hx.x87, hread]
      rfl
    have hmxcsr : final.mxcsr = guest.mxcsr := by
      rw [hfinal.mxcsr, hx.fxMxcsr, hread]
      rfl
    show Registers.mk (Function.update final.gpr .rsp (guest.gpr .rsp)) rip guest.rflags final.xmm
      final.x87 final.mxcsr guest.seg = _
    rw [hgpr, hxmm, hx87, hmxcsr]
    rfl
  · exact hrip
  · exact (hother (by decide)).trans hsaved.guestRsp
  · exact (hother (by decide)).trans hsaved.guestRflags
  · intro a ha
    exact ⟨hreaches.guestContext a ha, harray a (vmm.frame.guestContext_subset ha)⟩
  · intro a ha
    exact ⟨(hreaches.hostContext a ha).1, (hreaches.hostContext a ha).2, hhost a ha, hfinalHost a ha⟩
  · constructor
    · exact (Context.read_eq_of_region hfinalHost).trans h.hostContext
    · exact vmm.code.ready_congr hused hhandled
    · exact (congrArg Option.isSome (VmxState.setField_vmxonPointer _ _)).trans hvmxon
    · exact (VmxState.setField_current _ _).trans hcurrent
    · exact (hother (by decide)).trans hhostRsp

/-- If the host cannot execute what the guest wants, an exception ends the exit. -/
theorem Vmm.exitPath_eq_none (vmm : Vmm) (hsupports : SupportsExits vmm.processor)
    {exit : ExitInformation} {host : HostCpu} {guest : State} {vmx : VmxState}
    (h : vmm.HostReady guest.memory vmx) (hexecutes : ¬ExitExecutes exit host guest.toRegisters) :
    vmm.exitPath exit host guest vmx = none := by
  obtain ⟨captured, resumed, hrun₁, hrun₂, hreaches⟩ := h.reachesHandler exit
  have hhandler := exitHandler_eq_none hsupports (h.vmxon_vmExit exit guest)
    (h.current_vmExit exit guest) (saved_vmExit vmm.vmcs exit guest vmx) host vmm.vmresume
    (fun _ hq => hreaches.gpr hq) hexecutes
  unfold exitPath
  simp only [Option.bind_eq_bind, hrun₁, Option.bind_some, hrun₂, hhandler]
  rfl

/-! ### Runs -/

/-- The host stays ready while the guest runs. -/
theorem Vmm.HostReady.guest {vmm : Vmm} {s : State} {vmx : VmxState} (h : vmm.HostReady s.memory vmx)
    (r : vmm.GuestRun) : vmm.HostReady (r.guest s).memory vmx := by
  refine { h with hostContext := ?_, ready := ?_ }
  · refine (Context.read_eq_of_region fun a ha => r.guest_memory s a (.inr ?_)).trans h.hostContext
    exact vmm.frame.hostContext_subset ha
  · exact vmm.code.ready_congr (fun a ha => r.guest_memory s a (.inl ha)) h.ready

theorem Vmm.runExits_cons {vmm : Vmm} {r : vmm.GuestRun} {s : State} {vmx : VmxState} {trace : ExitTrace}
    (h : vmm.exitPath r.exit r.host (r.guest s) vmx = some trace) (l : List vmm.GuestRun) :
    vmm.runExits (r :: l) s vmx = vmm.runExits l (vmEntry vmm.vmcs trace.final trace.vmx) trace.vmx := by
  unfold runExits
  rw [h, Option.bind_eq_bind, Option.bind_some]
  cases l <;> rfl

/-- In every state that a run reaches, the host can execute what the guest wants next. -/
def Vmm.ExecutesAll (vmm : Vmm) (l : List vmm.GuestRun) (s : State) (vmx : VmxState) : Prop :=
  ∀ l₁ r l₂, l = l₁ ++ r :: l₂ → ∀ s' vmx', vmm.runExits l₁ s vmx = some (s', vmx') →
    ExitExecutes r.exit r.host (r.guest s').toRegisters

/-- At the first exit, and in the run after it. -/
theorem Vmm.executesAll_cons {vmm : Vmm} {r : vmm.GuestRun} {s : State} {vmx : VmxState}
    {trace : ExitTrace} (h : vmm.exitPath r.exit r.host (r.guest s) vmx = some trace)
    {l : List vmm.GuestRun} :
    vmm.ExecutesAll (r :: l) s vmx ↔ ExitExecutes r.exit r.host (r.guest s).toRegisters ∧
      vmm.ExecutesAll l (vmEntry vmm.vmcs trace.final trace.vmx) trace.vmx := by
  constructor
  · intro hall
    refine ⟨hall [] r l rfl s vmx rfl, fun l₁ r' l₂ hl s' vmx' hrun => ?_⟩
    refine hall (r :: l₁) r' l₂ (congrArg (r :: ·) hl) s' vmx' ?_
    rw [runExits_cons h]
    exact hrun
  · rintro ⟨hfirst, hall⟩ l₁ r' l₂ hl s' vmx' hrun
    cases l₁ with
    | nil =>
      obtain ⟨rfl, -⟩ := List.cons.inj hl
      obtain ⟨rfl, -⟩ := Prod.mk.inj (Option.some.inj hrun)
      exact hfirst
    | cons r₁ l₁ =>
      obtain ⟨rfl, htail⟩ := List.cons.inj hl
      rw [runExits_cons h] at hrun
      exact hall l₁ r' l₂ htail s' vmx' hrun

/-- At the last exit, and in the run before it. -/
theorem Vmm.executesAll_concat {vmm : Vmm} {l : List vmm.GuestRun} {r : vmm.GuestRun} {s : State}
    {vmx : VmxState} :
    vmm.ExecutesAll (l ++ [r]) s vmx ↔ vmm.ExecutesAll l s vmx ∧
      ∀ s' vmx', vmm.runExits l s vmx = some (s', vmx') →
        ExitExecutes r.exit r.host (r.guest s').toRegisters := by
  constructor
  · intro hall
    refine ⟨fun l₁ r' l₂ hl => hall l₁ r' (l₂ ++ [r]) ?_, hall l r [] rfl⟩
    rw [hl, List.append_assoc, List.cons_append]
  · rintro ⟨hall, hlast⟩ l₁ r' l₂ hl
    rcases List.eq_nil_or_concat l₂ with rfl | ⟨l₂, r₂, rfl⟩
    · obtain ⟨rfl, hr⟩ := List.append_inj' hl rfl
      obtain ⟨rfl, -⟩ := List.cons.inj hr
      exact hlast
    · rw [List.concat_eq_append, ← List.cons_append, ← List.append_assoc] at hl
      exact hall l₁ r' l₂ (List.append_inj' hl rfl).1

/-- Any number of exits goes through exactly if the host can execute all that the guest wants, and leaves
the host ready, with the bytes of the host context as they were. -/
theorem Vmm.runExits_spec (vmm : Vmm) (hsupports : SupportsExits vmm.processor)
    (l : List vmm.GuestRun) {s : State} {vmx : VmxState} (h : vmm.HostReady s.memory vmx) :
    ((∃ s' vmx', vmm.runExits l s vmx = some (s', vmx')) ↔ vmm.ExecutesAll l s vmx) ∧
      ∀ s' vmx', vmm.runExits l s vmx = some (s', vmx') → vmm.HostReady s'.memory vmx' ∧
        ∀ a ∈ Region vmm.frame.hostContext contextSize, s'.memory a = s.memory a := by
  induction l generalizing s vmx with
  | nil =>
    refine ⟨iff_of_true ⟨s, vmx, rfl⟩ fun l₁ r l₂ hl => ?_, fun s' vmx' hrun => ?_⟩
    · exact absurd hl.symm (List.append_ne_nil_of_right_ne_nil _ (List.cons_ne_nil _ _))
    · obtain ⟨rfl, rfl⟩ := Prod.mk.inj (Option.some.inj hrun)
      exact ⟨h, fun _ _ => rfl⟩
  | cons r l ih =>
    by_cases hexecutes : ExitExecutes r.exit r.host (r.guest s).toRegisters
    · obtain ⟨trace, hpath, htransparent⟩ := vmm.exitPath_spec hsupports (h.guest r) hexecutes
      obtain ⟨hiff, hrun⟩ := ih (s := vmEntry vmm.vmcs trace.final trace.vmx) htransparent.hostReady
      rw [runExits_cons hpath, executesAll_cons hpath]
      refine ⟨hiff.trans (and_iff_right hexecutes).symm, fun s' vmx' hs' => ?_⟩
      obtain ⟨hready, hcontext⟩ := hrun s' vmx' hs'
      refine ⟨hready, fun a ha => ?_⟩
      have harray := vmm.frame.hostContext_subset ha
      calc s'.memory a
        _ = trace.final.memory a := hcontext a ha
        _ = (r.guest s).memory a := (htransparent.hostContext a ha).2.2.2
        _ = s.memory a := r.guest_memory s a (.inr harray)
    · have hnone : vmm.runExits (r :: l) s vmx = none := by
        unfold runExits
        rw [vmm.exitPath_eq_none hsupports (h.guest r) hexecutes]
        rfl
      rw [hnone]
      refine ⟨iff_of_false ?_ fun hall => hexecutes (hall [] r l rfl s vmx rfl), fun s' vmx' hrun => ?_⟩
      · rintro ⟨s', vmx', hrun⟩
        cases hrun
      · cases hrun

/-- After any number of exits, the next exit is transparent, and starts with the same host context,
exactly if at each of these exits the host can execute what the guest wants. -/
theorem Vmm.runExits_transparent_iff (vmm : Vmm) (hsupports : SupportsExits vmm.processor)
    (l : List vmm.GuestRun) (r : vmm.GuestRun) {s : State} {vmx : VmxState}
    (h : vmm.HostReady s.memory vmx) :
    (∃ s' vmx' trace, vmm.runExits l s vmx = some (s', vmx') ∧
      (∀ a ∈ Region vmm.frame.hostContext contextSize, s'.memory a = s.memory a) ∧
      vmm.exitPath r.exit r.host (r.guest s') vmx' = some trace ∧
      vmm.Transparent r.exit r.host (r.guest s') vmx' trace) ↔ vmm.ExecutesAll (l ++ [r]) s vmx := by
  obtain ⟨hiff, hspec⟩ := vmm.runExits_spec hsupports l h
  rw [executesAll_concat, ← hiff]
  constructor
  · rintro ⟨s', vmx', trace, hrun, -, hpath, -⟩
    refine ⟨⟨s', vmx', hrun⟩, fun s₁ vmx₁ hrun₁ => ?_⟩
    obtain ⟨rfl, rfl⟩ := Prod.mk.inj (Option.some.inj (hrun.symm.trans hrun₁))
    by_contra hexecutes
    rw [vmm.exitPath_eq_none hsupports ((hspec _ _ hrun).1.guest r) hexecutes] at hpath
    cases hpath
  · rintro ⟨⟨s', vmx', hrun⟩, hlast⟩
    obtain ⟨hready, hcontext⟩ := hspec s' vmx' hrun
    obtain ⟨trace, hpath, htransparent⟩ :=
      vmm.exitPath_spec hsupports (hready.guest r) (hlast s' vmx' hrun)
    exact ⟨s', vmx', trace, hrun, hcontext, hpath, htransparent⟩

/-! A hypervisor whose compiled functions only do what their source says. -/

/-- The frame of a `vm_launch`. -/
def smallFrame : LaunchFrame := ⟨0x10000#64, rfl⟩

/-- The host context of a `vm_launch` with its stack below the array. -/
def smallHostContext : Context where
  gpr r := if r = .rsp then 0x2000#64 else 0#64
  rip := 0x401000#64
  rflags := 2#64
  xmm _ := 0
  x87 := ⟨0, 0⟩
  fxMxcsr := 0x1f80
  fxXmm _ := 0
  mxcsr := 0x1f80
  seg _ := 8

def smallCore : Core := ⟨0xffff, fun _ _ => 0#64⟩

/-- Compiled functions that use no stack of their own. -/
def smallCode : HostCode smallFrame smallHostContext where
  zppVmExit := id
  zppVmExit_rdi _ := rfl
  zppVmExit_rsp s hrsp := ⟨0, by decide, hrsp.trans (BitVec.sub_zero _).symm⟩
  zppVmExit_memory _ _ _ _ := rfl
  vmmCode x s :=
    (s.setMemory (s.memory.storeAll smallFrame.hostRsp (x.writes smallCore))).setGpr .rdi
      smallFrame.hostRsp
  used := ∅
  used_apart := nofun
  ready _ := True
  ready_congr _ h := h
  vmmCode_ready _ _ := trivial
  vmmCode_leaves {x s} hs _ := by
    constructor
    · exact State.setGpr_gpr_self _ _ _
    · exact Context.read_writes smallCore x s.memory smallFrame.hostRsp
    · intro a ha
      refine storeAll_of_not_mem (Context.writes_within smallCore x) (by decide) fun hguest => ?_
      exact smallFrame.guestContext_apart hguest ha
    · refine ⟨0x1fd0#64, ?_, fun a ha => ⟨?_, Set.notMem_empty a⟩⟩
      · show s.gpr .rsp = _
        rw [hs.gpr]
        rfl
      · exact not_mem_region_of_toNat (.inl (by decide)) ha

def smallVmm : Vmm where
  core := smallCore
  processor := ⟨1#32, 36, fun _ => true, fun _ => true⟩
  vmcs := 0x3000#64
  zppX64CaptureContextIntoStack := 0x402000#64
  next := 0x403005#64
  zppVmExit := 0x404000#64
  vmresume := 0x405000#64
  frame := smallFrame
  hostContext := smallHostContext
  code := smallCode

/-- The VMX state after the launch. -/
def smallVmx : VmxState where
  vmxonPointer := some 0x1000#64
  current := some 0x3000#64
  regions _ := ⟨1#32, true, fun f => BitVec.ofNat f.width 0x10dc0⟩

/-- A guest at its first instruction. -/
def smallGuest : State where
  gpr _ := 0#64
  rip := 0x500000#64
  rflags := 0x202#64
  xmm _ := 0
  x87 := ⟨0, 0⟩
  mxcsr := 0x1f80
  seg _ := 0x10
  memory := storeAll (fun _ => 0#8) smallFrame.hostContext (smallHostContext.writes smallCore)

/-- A guest that executes `cpuid` and nothing else. -/
def cpuidRun : smallVmm.GuestRun where
  guest := id
  guest_memory _ _ _ := rfl
  exit := ⟨10#32, 2#32⟩
  host := silentCpu

/-- A processor with the x87 and SSE states, and with `xsetbv`. -/
def xsaveCpu : HostCpu where
  cpuid eax _ := if eax = 1#32 then ⟨0#32, 0#32, 0x4000000#32, 0#32⟩ else ⟨3#32, 0#32, 0#32, 0#32⟩
  cr4 := 0#64
  reservedMemoryProtected := false

/-- A guest that executes `xsetbv` for a value of 32 bits. -/
def xsetbvRun (value : BitVec 32) : smallVmm.GuestRun where
  guest s :=
    { s with
      gpr := fun r => if r = .rax then value.setWidth 64 else if r = .rcx ∨ r = .rdx then 0#64 else s.gpr r }
  guest_memory _ _ _ := rfl
  exit := ⟨55#32, 3#32⟩
  host := xsaveCpu

theorem hostReady_smallVmm : smallVmm.HostReady smallGuest.memory smallVmx :=
  ⟨Context.read_writes smallCore smallHostContext _ _, trivial, rfl, rfl, by decide⟩

theorem executes_cpuidRun (r : Registers) : ExitExecutes cpuidRun.exit cpuidRun.host r :=
  ⟨fun h => absurd h (by decide), fun h => absurd h (by decide)⟩

theorem xcr0Bits_xsaveCpu : xsaveCpu.xcr0Bits = 3#64 := by decide

/-- The value has to be one for XCR0. -/
theorem executes_xsetbvRun_iff (value : BitVec 32) (s : State) :
    ExitExecutes (xsetbvRun value).exit (xsetbvRun value).host
        ((xsetbvRun value).guest s).toRegisters ↔
      LegalXcr0 3#64 (value.setWidth 64 ||| (0#64 <<< 32)) := by
  have hreason : (ExitReason.mk ((xsetbvRun value).exit.reason.setWidth 64)).basic = .xsetbv := by
    show (ExitReason.mk ((55#32).setWidth 64)).basic = _
    decide
  have hne : BasicReason.xsetbv ≠ .invd := by decide
  have hxsave : xsaveCpu.HasXsave := by decide
  rw [← xcr0Bits_xsaveCpu]
  constructor
  · intro h
    exact (h.xsetbv hreason).2.2
  · intro h
    constructor
    · intro _
      exact ⟨hxsave, rfl, h⟩
    · intro hinvd
      exact absurd (hreason.symm.trans hinvd) hne

/-- A `cpuid`, and then an `xsetbv` that turns the x87 and SSE states on. -/
theorem runExits_transparent_iff_xsetbvRun :
    ∃ s' vmx' trace, smallVmm.runExits [cpuidRun] smallGuest smallVmx = some (s', vmx') ∧
      (∀ a ∈ Region smallVmm.frame.hostContext contextSize, s'.memory a = smallGuest.memory a) ∧
      smallVmm.exitPath (xsetbvRun 3#32).exit (xsetbvRun 3#32).host ((xsetbvRun 3#32).guest s') vmx' =
        some trace ∧
      smallVmm.Transparent (xsetbvRun 3#32).exit (xsetbvRun 3#32).host ((xsetbvRun 3#32).guest s') vmx'
        trace := by
  refine (Vmm.runExits_transparent_iff smallVmm ⟨rfl, rfl, rfl, rfl, rfl⟩ [cpuidRun] (xsetbvRun 3#32)
    hostReady_smallVmm).mpr ?_
  refine Vmm.executesAll_concat.mpr ⟨fun l₁ r l₂ hl s' vmx' _ => ?_, fun s' vmx' _ => ?_⟩
  · have hr : r ∈ [cpuidRun] := hl ▸ List.mem_append_right _ List.mem_cons_self
    rw [List.mem_singleton.mp hr]
    exact executes_cpuidRun _
  · exact (executes_xsetbvRun_iff 3#32 s').mpr (by decide)

/-- An `xsetbv` with zeros, which clears the bit of the x87 state: the host never comes to `vmresume`. -/
theorem not_transparent_xsetbvRun :
    ¬∃ s' vmx' trace, smallVmm.runExits [] smallGuest smallVmx = some (s', vmx') ∧
      (∀ a ∈ Region smallVmm.frame.hostContext contextSize, s'.memory a = smallGuest.memory a) ∧
      smallVmm.exitPath (xsetbvRun 0#32).exit (xsetbvRun 0#32).host ((xsetbvRun 0#32).guest s') vmx' =
        some trace ∧
      smallVmm.Transparent (xsetbvRun 0#32).exit (xsetbvRun 0#32).host ((xsetbvRun 0#32).guest s') vmx'
        trace := by
  rintro ⟨s', vmx', trace, hrun, -, hpath, -⟩
  obtain ⟨rfl, rfl⟩ := Prod.mk.inj (Option.some.inj hrun)
  rw [smallVmm.exitPath_eq_none ⟨rfl, rfl, rfl, rfl, rfl⟩ (hostReady_smallVmm.guest (xsetbvRun 0#32))
    (mt (executes_xsetbvRun_iff 0#32 smallGuest).mp (by decide))] at hpath
  cases hpath

end Zpp.Hypervisor
