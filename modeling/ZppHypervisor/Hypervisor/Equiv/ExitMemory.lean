import ZppHypervisor.Hypervisor.Equiv.VmExit

/-!
# The memory of an exit

If the compiled functions keep to the stack of their CPU, so does a whole exit (`Vmm.exitPath_memory`),
and whoever changes nothing on that stack leaves the host ready (`Vmm.HostReady.congr`).
-/

namespace Zpp.Hypervisor

open X64 X64.Intel ByteMemory

/-- The frames of an exit lie in a stack, and its code writes nowhere else. -/
structure Vmm.KeepsTo (vmm : Vmm) (stack : Set Word) : Prop where
  array : Region vmm.frame.hostVmLaunchStack hostVmLaunchStackSize ⊆ stack
  used : vmm.code.used ⊆ stack
  memory {x : Context} {s : State} (hs : ResumedAs vmm.hostContext s) (hready : vmm.code.ready s.memory) :
    ∀ a ∉ stack, (vmm.code.vmmCode x s).memory a = s.memory a
  /-- The stack of `restore_context`. -/
  rsp {x : Context} {s : State} (hs : ResumedAs vmm.hostContext s) (hready : vmm.code.ready s.memory) :
    Region ((vmm.code.vmmCode x s).gpr .rsp - 0x30#64) 0x30 ⊆ stack

namespace Vmm

variable {vmm : Vmm} {stack : Set Word}

/-- The host stays ready if nothing on its stack changes. -/
theorem HostReady.congr (hstack : vmm.KeepsTo stack) {m m' : ByteMemory 64} {vmx : VmxState}
    (hm : ∀ a ∈ stack, m' a = m a) (h : vmm.HostReady m vmx) : vmm.HostReady m' vmx := by
  refine { h with hostContext := ?_, ready := ?_ }
  · refine (Context.read_eq_of_region fun a ha => hm a ?_).trans h.hostContext
    exact hstack.array (vmm.frame.hostContext_subset ha)
  · exact vmm.code.ready_congr (fun a ha => hm a (hstack.used ha)) h.ready

/-- The stretches of code of an exit. -/
theorem exists_of_exitPath {exit : ExitInformation} {host : HostCpu} {guest : State} {vmx : VmxState}
    {trace : ExitTrace} (h : vmm.exitPath exit host guest vmx = some trace) :
    run vmm.core (vmExitEntry vmm.zppX64CaptureContextIntoStack vmm.next vmm.zppVmExit)
        (vmExit vmm.vmcs exit guest vmx).1 = some trace.captured ∧
      run vmm.core restoreContext (vmm.code.zppVmExit trace.captured) = some trace.resumed ∧
      (∃ x, trace.handled = vmm.code.vmmCode x trace.resumed) ∧
      run vmm.core restoreContext trace.handled = some trace.final := by
  simp only [exitPath, Option.bind_eq_bind, Option.bind_eq_some_iff] at h
  obtain ⟨captured, hcaptured, resumed, hresumed, handled, -, h⟩ := h
  cases handled with
  | returned => cases h
  | restored context vmx executed =>
    obtain ⟨final, hfinal, htrace⟩ := Option.bind_eq_some_iff.mp h
    obtain rfl := Option.some.inj htrace
    exact ⟨hcaptured, hresumed, ⟨context, rfl⟩, hfinal⟩

/-- Up to the handler, an exit writes to `host_vm_launch_stack` only. -/
theorem resumed_memory {s captured resumed : State} (hrsp : s.gpr .rsp = vmm.frame.hostRsp)
    (hcaptured : run vmm.core
      (vmExitEntry vmm.zppX64CaptureContextIntoStack vmm.next vmm.zppVmExit) s = some captured)
    (hresumed : run vmm.core restoreContext (vmm.code.zppVmExit captured) = some resumed)
    (hcontext : Context.read captured.memory vmm.frame.hostContext = vmm.hostContext) :
    ∀ a ∉ Region vmm.frame.hostVmLaunchStack hostVmLaunchStackSize,
      resumed.memory a = s.memory a := by
  obtain ⟨captured', hrun, hentered⟩ := vmExitEntry_spec vmm.core hrsp
    vmm.zppX64CaptureContextIntoStack vmm.next vmm.zppVmExit
  obtain rfl := Option.some.inj (hrun.symm.trans hcaptured)
  obtain ⟨resumed', hrun', hmemory⟩ :=
    zppVmExit_spec vmm.core vmm.code hentered.rdi hentered.rsp hcontext
  obtain rfl := Option.some.inj (hrun'.symm.trans hresumed)
  intro a ha
  have hbelow : a ∉ Region vmm.frame.hostVmLaunchStack 0xdc0 :=
    fun hmem => ha (region_mono (by decide) hmem)
  rw [hmemory.memory a hbelow]
  exact hentered.memory a (fun hmem => ha (vmm.frame.guestContext_subset hmem)) hbelow

/-- From the handler on, an exit writes to the stack only. -/
theorem final_memory (hstack : vmm.KeepsTo stack) {resumed final : State} {x : Context}
    (hresumed : ResumedAs vmm.hostContext resumed) (hready : vmm.code.ready resumed.memory)
    (hfinal : run vmm.core restoreContext (vmm.code.vmmCode x resumed) = some final) :
    ∀ a ∉ stack, final.memory a = resumed.memory a := by
  have hleaves := @HostCode.vmmCode_leaves _ _ vmm.code x _ hresumed hready
  obtain ⟨q, hq, hapart⟩ := hleaves.rsp
  have haligned : Aligned ((vmm.code.vmmCode x resumed).gpr .rdi) := by
    rw [hleaves.rdi]
    exact vmm.frame.aligned_hostRsp
  have hcontext : ∀ a ∈ Region q 0x30,
      a ∉ Region ((vmm.code.vmmCode x resumed).gpr .rdi) contextSize := by
    intro a ha hmem
    rw [hleaves.rdi] at hmem
    exact (hapart a ha).1 (vmm.frame.guestContext_subset hmem)
  obtain ⟨final', hrun, hrestored⟩ := restoreContext_spec vmm.core haligned hcontext hq
  obtain rfl := Option.some.inj (hrun.symm.trans hfinal)
  have hpushes : Region q 0x30 ⊆ stack := by
    have h := @KeepsTo.rsp _ _ hstack x _ hresumed hready
    rwa [hq, BitVec.add_sub_cancel] at h
  intro a ha
  rw [hrestored.memory a fun hmem => ha (hpushes hmem)]
  exact hstack.memory hresumed hready a ha

/-- An exit is transparent and writes to the stack of its CPU only. -/
theorem exitPath_memory (hsupports : SupportsExits vmm.processor) (hstack : vmm.KeepsTo stack)
    {exit : ExitInformation} {host : HostCpu} {guest : State} {vmx : VmxState}
    (h : vmm.HostReady guest.memory vmx) (hexecutes : ExitExecutes exit host guest.toRegisters) :
    ∃ trace, vmm.exitPath exit host guest vmx = some trace ∧
      vmm.Transparent exit host guest vmx trace ∧
      ∀ a ∉ stack, trace.final.memory a = guest.memory a := by
  obtain ⟨trace, hpath, htransparent⟩ := vmm.exitPath_spec hsupports h hexecutes
  refine ⟨trace, hpath, htransparent, fun a ha => ?_⟩
  obtain ⟨hcaptured, hresumed, ⟨x, hhandled⟩, hfinal⟩ := exists_of_exitPath hpath
  have hrsp : (vmExit vmm.vmcs exit guest vmx).1.gpr .rsp = vmm.frame.hostRsp := by
    rw [vmExit_gpr, Function.update_self]
    exact (field_vmExit_of_not_mem exit guest (by decide)).trans h.hostRsp
  have hcontext : Context.read trace.captured.memory vmm.frame.hostContext = vmm.hostContext :=
    (Context.read_eq_of_region fun a ha => (htransparent.hostContext a ha).1).trans h.hostContext
  have hmemory := resumed_memory hrsp hcaptured hresumed hcontext
  have hready : vmm.code.ready trace.resumed.memory :=
    vmm.code.ready_congr (fun a ha => hmemory a (vmm.code.used_apart a ha)) h.ready
  rw [hhandled] at hfinal
  rw [final_memory hstack htransparent.resumed hready hfinal a ha]
  exact hmemory a fun hmem => ha (hstack.array hmem)

end Vmm

end Zpp.Hypervisor
