import ZppHypervisor.X64.Intel.VmTransitions

/-!
# What VM exits save and VM entries load

A VM exit saves the registers that the host replaces, and a VM entry loads them again
(`Saved.vmEntry_eq`).
-/

namespace Zpp.X64.Intel

variable {s : VmxState} {pointer : Word}

/-! ### Fields -/

/-- A value that fits into a field survives it. -/
theorem setWidth_field {k : ℕ} (x : BitVec k) {f : VmcsField} (hk : k ≤ f.width) :
    ((x.setWidth 64).setWidth f.width).setWidth 64 = x.setWidth 64 := by
  apply BitVec.eq_of_getLsbD_eq
  intro i hi
  simp only [BitVec.getLsbD_setWidth]
  by_cases hx : x.getLsbD i = true
  · have hik : i < k := BitVec.lt_of_getLsbD hx
    have hif : i < f.width := by omega
    rw [hx, decide_eq_true hi, decide_eq_true hif]
    rfl
  · rw [Bool.not_eq_true] at hx
    simp only [hx, Bool.and_false]

namespace VmxState

theorem field_setField_self (f : VmcsField) (value : BitVec f.width) :
    (s.setField pointer f value).field pointer f = value.setWidth 64 := by
  unfold field setField
  dsimp only
  rw [Function.update_self]
  dsimp only
  rw [Function.update_self]

theorem field_setField_of_ne {f g : VmcsField} (hfg : f ≠ g) (value : BitVec g.width) :
    (s.setField pointer g value).field pointer f = s.field pointer f := by
  unfold field setField
  dsimp only
  rw [Function.update_self]
  dsimp only
  rw [Function.update_of_ne hfg]

theorem setField_vmxonPointer (f : VmcsField) (value : BitVec f.width) :
    (s.setField pointer f value).vmxonPointer = s.vmxonPointer := rfl

theorem setField_current (f : VmcsField) (value : BitVec f.width) :
    (s.setField pointer f value).current = s.current := rfl

theorem field_setFields_of_not_mem {f : VmcsField} {l : List (VmcsField × Word)}
    (hf : f ∉ l.map Prod.fst) : (s.setFields pointer l).field pointer f = s.field pointer f := by
  induction l generalizing s with
  | nil => rfl
  | cons x l ih =>
    rw [List.map_cons, List.mem_cons, not_or] at hf
    exact (ih hf.2).trans (field_setField_of_ne hf.1 _)

/-- Every one of different fields gets its value. -/
theorem field_setFields {l : List (VmcsField × Word)} (hl : (l.map Prod.fst).Nodup)
    {x : VmcsField × Word} (hx : x ∈ l) :
    (s.setFields pointer l).field pointer x.1 = (x.2.setWidth x.1.width).setWidth 64 := by
  induction l generalizing s with
  | nil => cases hx
  | cons y l ih =>
    rw [List.map_cons, List.nodup_cons] at hl
    rcases List.mem_cons.mp hx with rfl | hx
    · exact (field_setFields_of_not_mem hl.1).trans (field_setField_self x.1 _)
    · exact ih hl.2 hx

theorem setFields_vmxonPointer (l : List (VmcsField × Word)) :
    (s.setFields pointer l).vmxonPointer = s.vmxonPointer := by
  induction l generalizing s with
  | nil => rfl
  | cons x l ih => exact ih

theorem setFields_current (l : List (VmcsField × Word)) :
    (s.setFields pointer l).current = s.current := by
  induction l generalizing s with
  | nil => rfl
  | cons x l ih => exact ih

end VmxState

/-! ### Transitions -/

/-- The fields that a VM exit saves. -/
def savedFields : List VmcsField :=
  [.exitReason, .vmExitInstructionLength, .guestRip, .guestRsp, .guestRflags, .guestCsSelector,
    .guestDsSelector, .guestEsSelector, .guestFsSelector, .guestGsSelector, .guestSsSelector]

theorem map_fst_exitFields (exit : ExitInformation) (guest : Registers) :
    (exitFields exit guest).map Prod.fst = savedFields := rfl

theorem vmExit_gpr (pointer : Word) (exit : ExitInformation) (guest : State) (s : VmxState) :
    (vmExit pointer exit guest s).1.gpr = Function.update guest.gpr .rsp
      ((vmExit pointer exit guest s).2.field pointer .hostRsp) := rfl

theorem vmEntry_gpr (pointer : Word) (host : State) (s : VmxState) :
    (vmEntry pointer host s).gpr =
      Function.update host.gpr .rsp (s.field pointer .guestRsp) := rfl

/-- A VM exit leaves the other fields alone. -/
theorem field_vmExit_of_not_mem (exit : ExitInformation) (guest : State) {f : VmcsField}
    (hf : f ∉ savedFields) :
    (vmExit pointer exit guest s).2.field pointer f = s.field pointer f := by
  refine VmxState.field_setFields_of_not_mem ?_
  rw [map_fst_exitFields]
  exact hf

/-- A saved field of the width of its value. -/
theorem field_vmExit (exit : ExitInformation) (guest : State) {k : ℕ} {f : VmcsField}
    (value : BitVec k) (hk : k ≤ f.width)
    (hf : (f, value.setWidth 64) ∈ exitFields exit guest.toRegisters) :
    (vmExit pointer exit guest s).2.field pointer f = value.setWidth 64 := by
  have hnodup : ((exitFields exit guest.toRegisters).map Prod.fst).Nodup := by
    rw [map_fst_exitFields]
    decide
  exact (VmxState.field_setFields hnodup hf).trans (setWidth_field value hk)

/-- The VMCS after a VM exit. -/
structure Saved (pointer : Word) (exit : ExitInformation) (guest : Registers) (s : VmxState) : Prop where
  exitReason : s.field pointer .exitReason = exit.reason.setWidth 64
  vmExitInstructionLength :
    s.field pointer .vmExitInstructionLength = exit.instructionLength.setWidth 64
  guestRip : s.field pointer .guestRip = guest.rip
  guestRsp : s.field pointer .guestRsp = guest.gpr .rsp
  guestRflags : s.field pointer .guestRflags = guest.rflags
  guestSelector : ∀ r, s.field pointer (.guestSelector r) = (guest.seg r).setWidth 64

theorem saved_vmExit (pointer : Word) (exit : ExitInformation) (guest : State) (s : VmxState) :
    Saved pointer exit guest.toRegisters (vmExit pointer exit guest s).2 := by
  have hword : ∀ {f : VmcsField} (value : Word), 64 ≤ f.width →
      (f, value) ∈ exitFields exit guest.toRegisters →
      (vmExit pointer exit guest s).2.field pointer f = value := by
    intro f value hf hmem
    rw [← BitVec.setWidth_eq value] at hmem
    exact (field_vmExit exit guest value hf hmem).trans (BitVec.setWidth_eq value)
  constructor
  · exact field_vmExit exit guest exit.reason (by decide) (by simp [exitFields])
  · exact field_vmExit exit guest exit.instructionLength (by decide) (by simp [exitFields])
  · exact hword _ (by decide) (by simp [exitFields])
  · exact hword _ (by decide) (by simp [exitFields])
  · exact hword _ (by decide) (by simp [exitFields])
  · intro r
    have hwidth : 16 ≤ (VmcsField.guestSelector r).width := by
      cases r <;> decide
    refine field_vmExit exit guest (guest.seg r) hwidth ?_
    cases r <;> simp [exitFields]

/-- What a VM entry loads after a VM exit, when `guest_rip` has been changed. -/
theorem Saved.vmEntry_eq {exit : ExitInformation} {guest : Registers} (h : Saved pointer exit guest s)
    (host : State) (rip : Word) :
    vmEntry pointer host (s.setField pointer .guestRip (rip.setWidth _)) =
      { host.setGpr .rsp (guest.gpr .rsp) with rip, rflags := guest.rflags, seg := guest.seg } := by
  have hother : ∀ {f : VmcsField}, f ≠ .guestRip →
      (s.setField pointer .guestRip (rip.setWidth _)).field pointer f = s.field pointer f :=
    fun hf => VmxState.field_setField_of_ne hf _
  have hrip : (s.setField pointer .guestRip (rip.setWidth _)).field pointer .guestRip = rip := by
    rw [VmxState.field_setField_self]
    exact (BitVec.setWidth_setWidth_of_le rip (by decide)).trans (BitVec.setWidth_eq rip)
  have hseg : (fun r => ((s.setField pointer .guestRip (rip.setWidth _)).field pointer
      (.guestSelector r)).setWidth 16) = guest.seg := by
    ext1 r
    rw [hother (by cases r <;> decide), h.guestSelector]
    exact (BitVec.setWidth_setWidth_of_le _ (by decide)).trans (BitVec.setWidth_eq _)
  unfold vmEntry
  rw [hother (by decide), h.guestRsp, hrip, hother (by decide), h.guestRflags, hseg]

end Zpp.X64.Intel
