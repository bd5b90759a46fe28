import ZppHypervisor.Hypervisor.Equiv.Main
import ZppHypervisor.X64.Intel.Vmcs

/-!
# What VMX operations report

The functions report the carry flag, so they miss exactly the failures that leave the zero flag: those
with a current VMCS (`right_iff`).  In a run without such a failure every report is right
(`vmxReports_iff`), and `enter_root_mode` succeeds only with its VMCS cleared and current.
-/

namespace Zpp.X64.Intel

/-! ### Calls -/

/-- A call of one of the VMX operations. -/
inductive VmxCall
  | vmxon (region : Word)
  | vmclear (region : Word)
  | vmptrld (region : Word)
  | write (f : VmcsField) (value : Word)
  | read (f : VmcsField)
deriving DecidableEq

namespace VmxCall

variable (processor : Processor)

/-- The call: whether it reports success, and the state it leaves. -/
def perform (s : VmxState) : VmxCall → Option (Bool × VmxState)
  | vmxon region => (Intel.vmxon processor region s).map fun (eax, s) => (eax = 0#32, s)
  | vmclear region => (Intel.vmclear processor region s).map fun (eax, s) => (eax = 0#32, s)
  | vmptrld region => (Intel.vmptrld processor region s).map fun (eax, s) => (eax = 0#32, s)
  | write f value => (Vmcs.write processor f value s).map fun (e, s) => (e = .success, s)
  | read f => (Vmcs.read processor f s).map fun (v, s) => (v.isOk, s)

/-- The instruction of the call: how it ends, and the state it leaves. -/
def instruction (s : VmxState) : VmxCall → Option (VmxResult × VmxState)
  | vmxon region => s.vmxon processor region
  | vmclear region => s.vmclear processor region
  | vmptrld region => s.vmptrld processor region
  | write f value => s.vmwrite processor f value
  | read f => (s.vmread processor f 0#64).map fun (r, s, _) => (r, s)

/-- The report is that the carry flag is clear. -/
theorem perform_eq (s : VmxState) (call : VmxCall) :
    call.perform processor s = (call.instruction processor s).map fun (r, s) => (!r.cf, s) := by
  have heax : ∀ r : VmxResult, (r.eax = 0#32) = !r.cf := by
    intro r
    cases r <;> simp [VmxResult.eax, VmxResult.cf]
  have hwrite : ∀ r : VmxResult, ((if r.eax ≠ 0#32 then VmcsError.fail else .success) = .success) =
      !r.cf := by
    intro r
    cases r <;> simp [VmxResult.eax, VmxResult.cf]
  have hread : ∀ (r : VmxResult) (value : Word),
      (if r.eax ≠ 0#32 then Except.error VmcsError.fail else .ok value).isOk = !r.cf := by
    intro r value
    cases r <;> rfl
  cases call with
  | vmxon region =>
    simp only [perform, instruction, Intel.vmxon, Option.map_map, Function.comp_def, heax,
      Bool.decide_eq_true]
  | vmclear region =>
    simp only [perform, instruction, Intel.vmclear, Option.map_map, Function.comp_def, heax,
      Bool.decide_eq_true]
  | vmptrld region =>
    simp only [perform, instruction, Intel.vmptrld, Option.map_map, Function.comp_def, heax,
      Bool.decide_eq_true]
  | write f value =>
    simp only [perform, instruction, Vmcs.write, vmwrite, Option.map_map, Function.comp_def, hwrite,
      Bool.decide_eq_true]
  | read f =>
    simp only [perform, instruction, Vmcs.read, vmread, Option.map_map, Function.comp_def, hread]

/-- The processor refuses the call. -/
def Refused (s : VmxState) : VmxCall → Prop
  | vmxon _ => True
  | vmclear region => ¬processor.validPointer region ∨ s.vmxonPointer = some region
  | vmptrld region =>
    ¬processor.validPointer region ∨ s.vmxonPointer = some region ∨
      (s.regions region).revisionId ≠ processor.revisionId
  | write f _ => ¬processor.supported f ∨ ¬processor.writable f
  | read f => ¬processor.supported f

/-- The processor refuses the call in VMX operation with a current VMCS. -/
structure FailsUndetected (s : VmxState) (call : VmxCall) : Prop where
  vmxOperation : s.vmxonPointer.isSome
  current : s.current.isSome
  refused : call.Refused processor s

/-! ### One call -/

/-- What is right about a call: it reports success if and only if its instruction succeeded, a value
read is that of the field, and a value written can be read back. -/
structure Right (s : VmxState) (call : VmxCall) : Prop where
  report : ∀ success s' r s'', call.perform processor s = some (success, s') →
    call.instruction processor s = some (r, s'') → (success = true ↔ r = .succeed)
  read : ∀ f v s', call = .read f → Vmcs.read processor f s = some (.ok v, s') →
    ∃ pointer, s.current = some pointer ∧ processor.supported f ∧
      v = ((s.regions pointer).fields f).setWidth 64
  write : ∀ f v s' t, call = .write f v → Vmcs.write processor f v s = some (.success, s') →
    t.vmxonPointer = s'.vmxonPointer → t.current = s'.current →
    (∀ pointer, t.current = some pointer →
      (t.regions pointer).fields f = (s'.regions pointer).fields f) →
    Vmcs.read processor f t = some (.ok ((v.setWidth f.width).setWidth 64), t)

variable {processor} {s : VmxState} {call : VmxCall}

theorem fail_of_current {pointer : Word} (h : s.current = some pointer) (error : ℕ) :
    ∃ s', s.fail error = (.failValid error, s') := by
  unfold VmxState.fail
  rw [h]
  exact ⟨_, rfl⟩

/-- A failure without a current VMCS is invalid. -/
theorem fail_eq_failInvalid (h : s.current = none) (error : ℕ) : s.fail error = (.failInvalid, s) := by
  unfold VmxState.fail
  rw [h]

/-- The failures that leave the carry flag clear. -/
theorem failValid_of_failsUndetected (h : call.FailsUndetected processor s) :
    ∃ error s', call.instruction processor s = some (.failValid error, s') := by
  obtain ⟨hvmx, hcurrent, hrefused⟩ := h
  obtain ⟨pointer, hpointer⟩ := Option.isSome_iff_exists.mp hcurrent
  have hvmx' : s.vmxonPointer.isNone = false := by
    rw [← Option.not_isSome, hvmx]
    rfl
  have hfail : ∀ error, ∃ s', some (s.fail error) = some (VmxResult.failValid error, s') := by
    intro error
    obtain ⟨s', hs'⟩ := fail_of_current hpointer error
    exact ⟨s', congrArg some hs'⟩
  cases call with
  | vmxon region =>
    simp only [instruction, VmxState.vmxon]
    rw [if_pos hvmx]
    exact ⟨15, hfail 15⟩
  | vmclear region =>
    simp only [instruction, VmxState.vmclear]
    rw [hvmx', if_neg Bool.false_ne_true]
    by_cases hvalid : processor.validPointer region = true
    · have hvmxon : s.vmxonPointer = some region :=
        hrefused.resolve_left (not_not.mpr hvalid)
      rw [if_neg (not_not.mpr hvalid), if_pos hvmxon]
      exact ⟨3, hfail 3⟩
    · rw [if_pos hvalid]
      exact ⟨2, hfail 2⟩
  | vmptrld region =>
    simp only [instruction, VmxState.vmptrld]
    rw [hvmx', if_neg Bool.false_ne_true]
    split_ifs with hvalid hvmxon hrevision
    · exact ⟨10, hfail 10⟩
    · exact ⟨11, hfail 11⟩
    · exact absurd hrefused (not_or.mpr ⟨not_not.mpr hvalid, not_or.mpr ⟨hvmxon, hrevision⟩⟩)
    · exact ⟨9, hfail 9⟩
  | write f value =>
    simp only [instruction, VmxState.vmwrite]
    rw [hvmx', if_neg Bool.false_ne_true]
    simp only [hpointer]
    split_ifs with hsupported hwritable
    · exact absurd hrefused (not_or.mpr ⟨not_not.mpr hsupported, not_not.mpr hwritable⟩)
    · exact ⟨13, hfail 13⟩
    · exact ⟨12, hfail 12⟩
  | read f =>
    simp only [instruction, VmxState.vmread]
    obtain ⟨s', hs'⟩ := fail_of_current hpointer 12
    rw [hvmx', if_neg Bool.false_ne_true]
    simp only [hpointer, if_neg hrefused, hs']
    exact ⟨12, s', rfl⟩

theorem failsUndetected_of_failValid {error : ℕ} {s' : VmxState}
    (h : call.instruction processor s = some (.failValid error, s')) :
    call.FailsUndetected processor s := by
  -- Only `VmxState.fail` ends so, and it needs a current VMCS.
  have hcurrent : ∀ n, s.fail n = (.failValid error, s') → s.current.isSome = true := by
    intro n hfail
    by_contra hnone
    rw [fail_eq_failInvalid (Option.not_isSome_iff_eq_none.mp hnone)] at hfail
    exact nomatch hfail
  have hvmx : s.vmxonPointer.isNone = false → s.vmxonPointer.isSome = true := fun hnone => by
    rw [← Option.not_isNone, hnone]
    rfl
  cases call with
  | vmxon region =>
    simp only [instruction, VmxState.vmxon] at h
    split_ifs at h with hon hvalid
    · exact ⟨hon, hcurrent 15 (Option.some.inj h), trivial⟩
    · exact nomatch h
    · exact nomatch h
  | vmclear region =>
    simp only [instruction, VmxState.vmclear] at h
    split_ifs at h with hnone hvalid hvmxon
    · exact ⟨hvmx (Bool.eq_false_iff.mpr hnone), hcurrent 3 (Option.some.inj h), .inr hvmxon⟩
    · exact nomatch h
    · exact nomatch h
    · exact ⟨hvmx (Bool.eq_false_iff.mpr hnone), hcurrent 2 (Option.some.inj h), .inl hvalid⟩
  | vmptrld region =>
    simp only [instruction, VmxState.vmptrld] at h
    split_ifs at h with hnone hvalid hvmxon hrevision
    · exact ⟨hvmx (Bool.eq_false_iff.mpr hnone), hcurrent 10 (Option.some.inj h), .inr (.inl hvmxon)⟩
    · exact ⟨hvmx (Bool.eq_false_iff.mpr hnone), hcurrent 11 (Option.some.inj h),
        .inr (.inr hrevision)⟩
    · exact nomatch h
    · exact ⟨hvmx (Bool.eq_false_iff.mpr hnone), hcurrent 9 (Option.some.inj h), .inl hvalid⟩
  | write f value =>
    simp only [instruction, VmxState.vmwrite] at h
    cases hpointer : s.current with
    | none =>
      simp only [hpointer] at h
      split_ifs at h
      exact nomatch h
    | some pointer =>
      simp only [hpointer] at h
      split_ifs at h with hnone hsupported hwritable
      · exact nomatch h
      · exact ⟨hvmx (Bool.eq_false_iff.mpr hnone), hcurrent 13 (Option.some.inj h), .inr hwritable⟩
      · exact ⟨hvmx (Bool.eq_false_iff.mpr hnone), hcurrent 12 (Option.some.inj h), .inl hsupported⟩
  | read f =>
    simp only [instruction, VmxState.vmread] at h
    cases hpointer : s.current with
    | none =>
      simp only [hpointer] at h
      split_ifs at h
      · exact nomatch h
      · exact nomatch h
    | some pointer =>
      simp only [hpointer] at h
      split_ifs at h with hnone hsupported
      · exact nomatch h
      · exact nomatch h
      · exact ⟨hvmx (Bool.eq_false_iff.mpr hnone), Option.isSome_iff_exists.mpr ⟨pointer, hpointer⟩,
          hsupported⟩

/-- A call that reports success without an undetected failure has succeeded. -/
theorem succeed_of_perform {s' : VmxState} (hnot : ¬call.FailsUndetected processor s)
    (h : call.perform processor s = some (true, s')) :
    call.instruction processor s = some (.succeed, s') := by
  rw [perform_eq] at h
  obtain ⟨⟨r, s''⟩, hinstruction, heq⟩ := Option.map_eq_some_iff.mp h
  obtain ⟨hcf, rfl⟩ := Prod.mk.inj heq
  cases r with
  | succeed => exact hinstruction
  | failInvalid => exact nomatch hcf
  | failValid error => exact absurd (failsUndetected_of_failValid hinstruction) hnot

theorem perform_eq_of_instruction {r : VmxResult} {s' : VmxState}
    (h : call.instruction processor s = some (r, s')) :
    call.perform processor s = some (!r.cf, s') := by
  rw [perform_eq, h]
  rfl

theorem fail_ne_succeed (s : VmxState) (error : ℕ) (s' : VmxState) :
    some (s.fail error) ≠ some (VmxResult.succeed, s') := by
  unfold VmxState.fail
  cases s.current <;> exact nofun

theorem vmxon_of_succeed {region : Word} {s' : VmxState}
    (h : (VmxCall.vmxon region).instruction processor s = some (.succeed, s')) :
    s'.vmxonPointer.isNone = false := by
  simp only [instruction, VmxState.vmxon] at h
  split_ifs at h
  · exact absurd h (fail_ne_succeed s 15 s')
  · injection h with h
    rw [← (Prod.mk.inj h).2]
    rfl
  · exact nomatch h

theorem vmclear_of_succeed {region : Word} {s' : VmxState}
    (h : (VmxCall.vmclear region).instruction processor s = some (.succeed, s')) :
    s'.vmxonPointer = s.vmxonPointer ∧ (s'.regions region).launched = false := by
  simp only [instruction, VmxState.vmclear] at h
  split_ifs at h
  · exact absurd h (fail_ne_succeed s 3 s')
  · injection h with h
    rw [← (Prod.mk.inj h).2]
    dsimp only
    rw [Function.update_self]
    exact ⟨rfl, rfl⟩
  · injection h with h
    rw [← (Prod.mk.inj h).2]
    dsimp only
    rw [Function.update_self]
    exact ⟨rfl, rfl⟩
  · exact absurd h (fail_ne_succeed s 2 s')

theorem vmptrld_of_succeed {region : Word} {s' : VmxState}
    (h : (VmxCall.vmptrld region).instruction processor s = some (.succeed, s')) :
    s'.current = some region ∧ s'.regions = s.regions := by
  simp only [instruction, VmxState.vmptrld] at h
  split_ifs at h
  · exact absurd h (fail_ne_succeed s 10 s')
  · exact absurd h (fail_ne_succeed s 11 s')
  · injection h with h
    rw [← (Prod.mk.inj h).2]
    exact ⟨rfl, rfl⟩
  · exact absurd h (fail_ne_succeed s 9 s')

/-- In VMX operation no call is an exception, and `vmxon` never is. -/
theorem exists_perform (h : s.vmxonPointer.isNone = false ∨ ∃ region, call = .vmxon region) :
    ∃ success s', call.perform processor s = some (success, s') := by
  obtain ⟨r, s', hinstruction⟩ : ∃ r s', call.instruction processor s = some (r, s') := by
    rcases h with hnone | ⟨region, rfl⟩
    · cases call with
      | vmxon region =>
        simp only [instruction, VmxState.vmxon]
        split_ifs <;> exact ⟨_, _, rfl⟩
      | vmclear region =>
        simp only [instruction, VmxState.vmclear, hnone, if_neg Bool.false_ne_true]
        split_ifs <;> exact ⟨_, _, rfl⟩
      | vmptrld region =>
        simp only [instruction, VmxState.vmptrld, hnone, if_neg Bool.false_ne_true]
        split_ifs <;> exact ⟨_, _, rfl⟩
      | write f value =>
        simp only [instruction, VmxState.vmwrite, hnone, if_neg Bool.false_ne_true]
        cases s.current with
        | none => exact ⟨_, _, rfl⟩
        | some pointer => split_ifs <;> exact ⟨_, _, rfl⟩
      | read f =>
        simp only [instruction, VmxState.vmread, hnone, if_neg Bool.false_ne_true]
        cases s.current with
        | none => exact ⟨_, _, rfl⟩
        | some pointer => split_ifs <;> exact ⟨_, _, rfl⟩
    · simp only [instruction, VmxState.vmxon]
      split_ifs <;> exact ⟨_, _, rfl⟩
  exact ⟨_, _, perform_eq_of_instruction hinstruction⟩

/-- A successful `vmread`. -/
theorem vmread_of_succeed {f : VmcsField} {s' : VmxState}
    (h : (VmxCall.read f).instruction processor s = some (.succeed, s')) :
    ∃ pointer, s.current = some pointer ∧ processor.supported f = true ∧
      Vmcs.read processor f s = some (.ok (((s.regions pointer).fields f).setWidth 64), s) := by
  simp only [instruction, VmxState.vmread] at h
  cases hpointer : s.current with
  | none =>
    simp only [hpointer] at h
    split_ifs at h
    · exact nomatch h
    · exact nomatch h
  | some pointer =>
    simp only [hpointer] at h
    split_ifs at h with hnone hsupported
    · exact nomatch h
    · refine ⟨pointer, rfl, hsupported, ?_⟩
      simp only [Vmcs.read, Intel.vmread, VmxState.vmread, hpointer, if_neg hnone, if_pos hsupported]
      rfl
    · obtain ⟨s'', hfail⟩ := fail_of_current hpointer 12
      rw [hfail] at h
      exact nomatch h

/-- A successful `vmwrite`. -/
theorem vmwrite_of_succeed {f : VmcsField} {value : Word} {s' : VmxState}
    (h : (VmxCall.write f value).instruction processor s = some (.succeed, s')) :
    ∃ pointer, s.vmxonPointer.isNone = false ∧ s.current = some pointer ∧
      processor.supported f = true ∧ s' = s.setField pointer f (value.setWidth f.width) := by
  simp only [instruction, VmxState.vmwrite] at h
  cases hpointer : s.current with
  | none =>
    simp only [hpointer] at h
    split_ifs at h
    exact nomatch h
  | some pointer =>
    obtain ⟨s₁, hfail₁⟩ := fail_of_current hpointer 12
    obtain ⟨s₂, hfail₂⟩ := fail_of_current hpointer 13
    simp only [hpointer, hfail₁, hfail₂] at h
    split_ifs at h with hnone hsupported hwritable
    · injection h with h
      exact ⟨pointer, Bool.eq_false_iff.mpr hnone, rfl, hsupported, (Prod.mk.inj h).2.symm⟩
    · exact nomatch h
    · exact nomatch h

/-- What is written can be read back. -/
theorem read_of_vmwrite {f : VmcsField} {value : Word} {s' t : VmxState}
    (h : (VmxCall.write f value).instruction processor s = some (.succeed, s'))
    (hvmxon : t.vmxonPointer = s'.vmxonPointer) (hcurrent : t.current = s'.current)
    (hfields : ∀ pointer, t.current = some pointer →
      (t.regions pointer).fields f = (s'.regions pointer).fields f) :
    Vmcs.read processor f t = some (.ok ((value.setWidth f.width).setWidth 64), t) := by
  obtain ⟨pointer, hnone, hpointer, hsupported, rfl⟩ := vmwrite_of_succeed h
  have ht : t.current = some pointer := hcurrent.trans hpointer
  have htvmx : t.vmxonPointer.isNone = false := hvmxon ▸ hnone
  have hvalue : (t.regions pointer).fields f = value.setWidth f.width := by
    rw [hfields pointer ht]
    unfold VmxState.setField
    dsimp only
    rw [Function.update_self]
    exact Function.update_self _ _ _
  simp only [Vmcs.read, Intel.vmread, VmxState.vmread, ht, htvmx, if_pos hsupported, hvalue]
  rfl

/-- A call is right if and only if it does not fail undetected. -/
theorem right_iff : call.Right processor s ↔ ¬call.FailsUndetected processor s := by
  constructor
  · intro h hfails
    obtain ⟨error, s', hinstruction⟩ := failValid_of_failsUndetected hfails
    have hreport := h.report _ s' _ s' (perform_eq_of_instruction hinstruction) hinstruction
    exact nomatch hreport.mp rfl
  · intro hnot
    refine ⟨?_, ?_, ?_⟩
    · intro success s' r s'' hperform hinstruction
      rw [perform_eq_of_instruction hinstruction] at hperform
      obtain ⟨rfl, -⟩ := Prod.mk.inj (Option.some.inj hperform)
      cases r with
      | succeed => exact iff_of_true rfl rfl
      | failInvalid => exact iff_of_false Bool.false_ne_true nofun
      | failValid error => exact absurd (failsUndetected_of_failValid hinstruction) hnot
    · rintro f v s' rfl hread
      have hperform : (VmxCall.read f).perform processor s = some (true, s') := by
        simp only [perform, hread]
        rfl
      obtain ⟨pointer, hpointer, hsupported, hvalue⟩ :=
        vmread_of_succeed (succeed_of_perform hnot hperform)
      rw [hvalue] at hread
      obtain ⟨hv, -⟩ := Prod.mk.inj (Option.some.inj hread)
      injection hv with hv
      exact ⟨pointer, hpointer, hsupported, hv.symm⟩
    · rintro f v s' t rfl hwrite hvmxon hcurrent hfields
      have hperform : (VmxCall.write f v).perform processor s = some (true, s') := by
        simp only [perform, hwrite]
        rfl
      exact read_of_vmwrite (succeed_of_perform hnot hperform) hvmxon hcurrent hfields

/-! ### Runs -/

/-- The calls of a sequence that are reached, each with the state before it. -/
def steps (processor : Processor) : VmxState → List VmxCall → List (VmxCall × VmxState)
  | _, [] => []
  | s, call :: calls =>
    (call, s) ::
      match call.perform processor s with
      | none => []
      | some (_, s') => steps processor s' calls

/-- The state after a sequence of calls. -/
def final (processor : Processor) : VmxState → List VmxCall → Option VmxState
  | s, [] => some s
  | s, call :: calls =>
    match call.perform processor s with
    | none => none
    | some (_, s') => final processor s' calls

theorem final_cons {s s' : VmxState} {call : VmxCall} {calls : List VmxCall} {success : Bool}
    (h : call.perform processor s = some (success, s')) :
    final processor s (call :: calls) = final processor s' calls := by
  rw [final, h]

theorem steps_cons {s s' : VmxState} {call : VmxCall} {calls : List VmxCall} {success : Bool}
    (h : call.perform processor s = some (success, s')) :
    steps processor s (call :: calls) = (call, s) :: steps processor s' calls := by
  rw [steps, h]

/-- A sequence makes the calls of its beginning. -/
theorem steps_subset {s : VmxState} {calls calls' : List VmxCall} (h : calls <+: calls') :
    steps processor s calls ⊆ steps processor s calls' := by
  induction calls generalizing s calls' with
  | nil => exact List.nil_subset _
  | cons call calls ih =>
    obtain ⟨l, rfl⟩ := h
    rw [List.cons_append]
    cases hperform : call.perform processor s with
    | none =>
      rw [steps, steps, hperform]
      exact List.Subset.refl _
    | some y =>
      rw [steps_cons hperform, steps_cons hperform]
      exact List.cons_subset_cons _ (ih (List.prefix_append calls l))

/-- All the calls of a run are right if and only if none fails undetected. -/
theorem steps_right_iff (s : VmxState) (calls : List VmxCall) :
    (∀ x ∈ steps processor s calls, x.1.Right processor x.2) ↔
      ∀ x ∈ steps processor s calls, ¬x.1.FailsUndetected processor x.2 :=
  forall₂_congr fun _ _ => right_iff

/-! ### Without a current VMCS -/

/-- Outside VMX operation or without a current VMCS. -/
def NoCurrent (s : VmxState) : Prop := s.vmxonPointer = none ∨ s.current = none

theorem NoCurrent.not_failsUndetected (h : NoCurrent s) : ¬call.FailsUndetected processor s := by
  rintro ⟨hvmx, hcurrent, -⟩
  rcases h with h | h
  · rw [h] at hvmx
    exact nomatch hvmx
  · rw [h] at hcurrent
    exact nomatch hcurrent

/-- Only `vmptrld` makes a VMCS current. -/
theorem NoCurrent.perform {success : Bool} {s' : VmxState} (h : NoCurrent s)
    (hcall : ∀ region, call ≠ .vmptrld region)
    (hperform : call.perform processor s = some (success, s')) : NoCurrent s' := by
  rw [perform_eq] at hperform
  obtain ⟨⟨r, s''⟩, hinstruction, heq⟩ := Option.map_eq_some_iff.mp hperform
  obtain ⟨-, rfl⟩ := Prod.mk.inj heq
  have hfail : s.vmxonPointer.isNone = false → ∀ error, s.fail error = (.failInvalid, s) := by
    intro hnone error
    refine fail_eq_failInvalid (h.resolve_left fun hvmx => ?_) error
    rw [hvmx] at hnone
    exact nomatch hnone
  cases call with
  | vmxon region =>
    simp only [instruction, VmxState.vmxon] at hinstruction
    split_ifs at hinstruction with hon
    · rw [hfail (by rw [← Option.not_isSome, hon]; rfl) 15] at hinstruction
      rw [← (Prod.mk.inj (Option.some.inj hinstruction)).2]
      exact h
    · rw [← (Prod.mk.inj (Option.some.inj hinstruction)).2]
      exact .inr rfl
    · rw [← (Prod.mk.inj (Option.some.inj hinstruction)).2]
      exact h
  | vmclear region =>
    simp only [instruction, VmxState.vmclear] at hinstruction
    split_ifs at hinstruction with hnone
    · rw [hfail (Bool.eq_false_iff.mpr hnone) 3] at hinstruction
      rw [← (Prod.mk.inj (Option.some.inj hinstruction)).2]
      exact h
    · rw [← (Prod.mk.inj (Option.some.inj hinstruction)).2]
      exact .inr rfl
    · rw [← (Prod.mk.inj (Option.some.inj hinstruction)).2]
      exact h
    · rw [hfail (Bool.eq_false_iff.mpr hnone) 2] at hinstruction
      rw [← (Prod.mk.inj (Option.some.inj hinstruction)).2]
      exact h
  | vmptrld region => exact absurd rfl (hcall region)
  | write f value =>
    simp only [instruction, VmxState.vmwrite] at hinstruction
    cases hpointer : s.current with
    | none =>
      simp only [hpointer] at hinstruction
      split_ifs at hinstruction
      rw [← (Prod.mk.inj (Option.some.inj hinstruction)).2]
      exact h
    | some pointer =>
      rw [h.resolve_right (by rw [hpointer]; exact nofun)] at hinstruction
      exact nomatch hinstruction
  | read f =>
    simp only [instruction, VmxState.vmread] at hinstruction
    cases hpointer : s.current with
    | none =>
      simp only [hpointer] at hinstruction
      split_ifs at hinstruction
      · exact nomatch hinstruction
      · rw [← (Prod.mk.inj (Option.some.inj hinstruction)).2]
        exact h
    | some pointer =>
      rw [h.resolve_right (by rw [hpointer]; exact nofun)] at hinstruction
      exact nomatch hinstruction

/-- Up to the first `vmptrld`, no call fails undetected. -/
theorem NoCurrent.steps {calls : List VmxCall} (h : NoCurrent s)
    (hcalls : ∀ call ∈ calls.dropLast, ∀ region, call ≠ .vmptrld region) :
    ∀ x ∈ VmxCall.steps processor s calls, ¬x.1.FailsUndetected processor x.2 := by
  induction calls generalizing s with
  | nil => exact nofun
  | cons call calls ih =>
    intro x hx
    rcases List.mem_cons.mp hx with rfl | hx
    · exact h.not_failsUndetected
    · cases hperform : call.perform processor s with
      | none =>
        rw [hperform] at hx
        exact nomatch hx
      | some y =>
        rw [hperform] at hx
        cases calls with
        | nil => exact nomatch hx
        | cons next calls =>
          rw [List.dropLast_cons_of_ne_nil (List.cons_ne_nil _ _)] at hcalls
          exact ih (h.perform (hcalls call (.head _)) hperform)
            (fun call hcall => hcalls call (.tail _ hcall)) x hx

end VmxCall

end Zpp.X64.Intel

namespace Zpp.Hypervisor

open X64 X64.Intel ScopeGuard Block VmxCall

/-! ### Entering root mode -/

/-- The VMX operations among the instructions. -/
def vmxCalls (t : List (Instruction × Cpu)) : List VmxCall :=
  t.filterMap fun e =>
    match e.1 with
    | .vmxon region _ => some (.vmxon region)
    | .vmclear region _ => some (.vmclear region)
    | .vmptrld region _ => some (.vmptrld region)
    | _ => none

/-- The carry flag of a call after others. -/
def carryAfter (processor : Processor) (s : VmxState) (calls : List VmxCall) (call : VmxCall) : Bool :=
  match final processor s calls with
  | none => false
  | some s' =>
    match call.perform processor s' with
    | none => false
    | some (success, _) => !success

/-- The platform whose flags are those of a processor on which `enter_root_mode` starts. -/
def Platform.onProcessor (p : Platform) (processor : Processor) (s : VmxState) (o : Object) :
    Platform :=
  { p with
    vmxonCarry := carryAfter processor s [] (.vmxon o.vmxPhysical)
    vmclearCarry := carryAfter processor s [.vmxon o.vmxPhysical] (.vmclear o.vmcsPhysical)
    vmptrldCarry := carryAfter processor s [.vmxon o.vmxPhysical, .vmclear o.vmcsPhysical]
      (.vmptrld o.vmcsPhysical) }

/-- What is right about `enter_root_mode`: each call is, and on success the VMCS is cleared and
current. -/
structure RootModeRight (processor : Processor) (s : VmxState) (o : Object) (calls : List VmxCall)
    (e : Option Error) : Prop where
  right : ∀ x ∈ steps processor s calls, x.1.Right processor x.2
  success : e = none → ∃ s', final processor s calls = some s' ∧
    s'.current = some o.vmcsPhysical ∧ (s'.regions o.vmcsPhysical).launched = false

/-- The calls that `enter_root_mode` makes: three with a clear carry flag if it succeeds. -/
theorem enterRootMode_calls {p : Platform} {m m' : Machine} {guards : List (Guard Machine)}
    {e : Option Error} {t : List (Instruction × Cpu)}
    (hcall : (Block.call (enterRootMode p) : Code _) ⟨m, guards⟩ = .next e ⟨m', guards⟩)
    (htrace : m'.trace = m.trace ++ t) :
    vmxCalls t <+: [.vmxon m.object.vmxPhysical, .vmclear m.object.vmcsPhysical,
      .vmptrld m.object.vmcsPhysical] ∧
    (e = none → vmxCalls t = [.vmxon m.object.vmxPhysical, .vmclear m.object.vmcsPhysical,
        .vmptrld m.object.vmcsPhysical] ∧
      p.vmxonCarry = false ∧ p.vmclearCarry = false ∧ p.vmptrldCarry = false) := by
  unfold Block.call enterRootMode Hypervisor.vmxon Hypervisor.vmclear Hypervisor.vmptrld at hcall
  simp only [bind_apply, this_apply, cpu_apply, exec_apply, construct_apply, pure_apply] at hcall
  cases hon : p.vmxonCarry with
  | true =>
    simp only [hon] at hcall
    injection hcall with he hframe
    obtain ⟨rfl, -⟩ := Frame.mk.inj hframe
    change m.trace ++ [_] ++ [_] ++ [_] ++ [_] ++ [_] = m.trace ++ t at htrace
    simp only [List.append_assoc] at htrace
    rw [← List.append_cancel_left htrace]
    exact ⟨⟨[_, _], rfl⟩, fun hnone => nomatch he.trans hnone⟩
  | false =>
    cases hclear : p.vmclearCarry with
    | true =>
      simp only [hon, hclear] at hcall
      injection hcall with he hframe
      obtain ⟨rfl, -⟩ := Frame.mk.inj hframe
      change m.trace ++ [_] ++ [_] ++ [_] ++ [_] ++ [_] ++ [_] ++ [_] = m.trace ++ t at htrace
      simp only [List.append_assoc] at htrace
      rw [← List.append_cancel_left htrace]
      exact ⟨⟨[_], rfl⟩, fun hnone => nomatch he.trans hnone⟩
    | false =>
      cases hptrld : p.vmptrldCarry with
      | true =>
        simp only [hon, hclear, hptrld] at hcall
        injection hcall with he hframe
        obtain ⟨rfl, -⟩ := Frame.mk.inj hframe
        change m.trace ++ [_] ++ [_] ++ [_] ++ [_] ++ [_] ++ [_] ++ [_] ++ [_] = m.trace ++ t
          at htrace
        simp only [List.append_assoc] at htrace
        rw [← List.append_cancel_left htrace]
        exact ⟨⟨[], rfl⟩, fun hnone => nomatch he.trans hnone⟩
      | false =>
        simp only [hon, hclear, hptrld] at hcall
        injection hcall with _ hframe
        obtain ⟨rfl, -⟩ := Frame.mk.inj hframe
        change m.trace ++ [_] ++ [_] ++ [_] ++ [_] ++ [_] = m.trace ++ t at htrace
        simp only [List.append_assoc] at htrace
        rw [← List.append_cancel_left htrace]
        exact ⟨⟨[], rfl⟩, fun _ => ⟨rfl, rfl, rfl, rfl⟩⟩

theorem carryAfter_eq_false {processor : Processor} {s s' s'' : VmxState} {calls : List VmxCall}
    {call : VmxCall} {success : Bool} (hfinal : final processor s calls = some s')
    (hperform : call.perform processor s' = some (success, s''))
    (hcarry : carryAfter processor s calls call = false) : success = true := by
  unfold carryAfter at hcarry
  simp only [hfinal, hperform] at hcarry
  exact Bool.not_eq_eq_eq_not.mp hcarry

/-- The calls of `enter_root_mode` succeed one after the other. -/
theorem rootMode_of_carry {processor : Processor} {s : VmxState} {vmx vmcs : Word}
    (hnot : ∀ x ∈ steps processor s [.vmxon vmx, .vmclear vmcs, .vmptrld vmcs],
      ¬x.1.FailsUndetected processor x.2)
    (hon : carryAfter processor s [] (.vmxon vmx) = false)
    (hclear : carryAfter processor s [.vmxon vmx] (.vmclear vmcs) = false)
    (hptrld : carryAfter processor s [.vmxon vmx, .vmclear vmcs] (.vmptrld vmcs) = false) :
    ∃ s', final processor s [.vmxon vmx, .vmclear vmcs, .vmptrld vmcs] = some s' ∧
      s'.current = some vmcs ∧ (s'.regions vmcs).launched = false := by
  -- Each call reports success, so its instruction succeeded.
  obtain ⟨success₁, s₁, hperform₁⟩ : ∃ success s₁, (VmxCall.vmxon vmx).perform processor s =
      some (success, s₁) := exists_perform (.inr ⟨vmx, rfl⟩)
  obtain rfl := carryAfter_eq_false rfl hperform₁ hon
  have hvmxon := vmxon_of_succeed (succeed_of_perform (hnot _ (.head _)) hperform₁)
  obtain ⟨success₂, s₂, hperform₂⟩ : ∃ success s₂, (VmxCall.vmclear vmcs).perform processor s₁ =
      some (success, s₂) := exists_perform (.inl hvmxon)
  obtain rfl := carryAfter_eq_false (final_cons hperform₁) hperform₂ hclear
  have hmem₂ : (.vmclear vmcs, s₁) ∈
      steps processor s [.vmxon vmx, .vmclear vmcs, .vmptrld vmcs] := by
    rw [steps_cons hperform₁]
    exact .tail _ (.head _)
  obtain ⟨hpointer, hlaunched⟩ := vmclear_of_succeed (succeed_of_perform (hnot _ hmem₂) hperform₂)
  obtain ⟨success₃, s₃, hperform₃⟩ : ∃ success s₃, (VmxCall.vmptrld vmcs).perform processor s₂ =
      some (success, s₃) := exists_perform (.inl (hpointer ▸ hvmxon))
  obtain rfl := carryAfter_eq_false ((final_cons hperform₁).trans (final_cons hperform₂)) hperform₃
    hptrld
  have hmem₃ : (.vmptrld vmcs, s₂) ∈
      steps processor s [.vmxon vmx, .vmclear vmcs, .vmptrld vmcs] := by
    rw [steps_cons hperform₁, steps_cons hperform₂]
    exact .tail _ (.tail _ (.head _))
  obtain ⟨hcurrent, hregions⟩ := vmptrld_of_succeed (succeed_of_perform (hnot _ hmem₃) hperform₃)
  refine ⟨s₃, ?_, hcurrent, ?_⟩
  · rw [final_cons hperform₁, final_cons hperform₂, final_cons hperform₃]
    rfl
  · rw [hregions]
    exact hlaunched

theorem rootModeRight_iff {processor : Processor} {p : Platform} {s : VmxState} {m m' : Machine}
    {guards : List (Guard Machine)} {e : Option Error} {t : List (Instruction × Cpu)}
    (hcall : (Block.call (enterRootMode (p.onProcessor processor s m.object)) : Code _) ⟨m, guards⟩ =
      .next e ⟨m', guards⟩)
    (htrace : m'.trace = m.trace ++ t) :
    RootModeRight processor s m.object (vmxCalls t) e ↔
      ∀ x ∈ steps processor s (vmxCalls t), ¬x.1.FailsUndetected processor x.2 := by
  constructor
  · intro h
    exact (steps_right_iff s _).mp h.right
  · intro hnot
    refine ⟨(steps_right_iff s _).mpr hnot, ?_⟩
    rintro rfl
    obtain ⟨hcalls, hon, hclear, hptrld⟩ := (enterRootMode_calls hcall htrace).2 rfl
    rw [hcalls] at hnot ⊢
    exact rootMode_of_carry hnot hon hclear hptrld

/-- From outside VMX operation, `enter_root_mode` is right on every processor. -/
theorem rootModeRight_of_outside {processor : Processor} {p : Platform} {s : VmxState}
    {m m' : Machine} {guards : List (Guard Machine)} {e : Option Error}
    {t : List (Instruction × Cpu)} (hs : s.vmxonPointer = none)
    (hcall : (Block.call (enterRootMode (p.onProcessor processor s m.object)) : Code _) ⟨m, guards⟩ =
      .next e ⟨m', guards⟩)
    (htrace : m'.trace = m.trace ++ t) :
    RootModeRight processor s m.object (vmxCalls t) e := by
  have hprefix := (enterRootMode_calls hcall htrace).1
  refine (rootModeRight_iff hcall htrace).mpr fun x hx => ?_
  refine NoCurrent.steps (.inl hs) ?_ x (steps_subset hprefix hx)
  intro call hmem region
  rcases List.mem_pair.mp hmem with rfl | rfl <;> exact nofun

/-- Every report of a sequence of calls is right, and so is every value read or written, if and only if
no call is refused in VMX operation with a current VMCS; likewise for `enter_root_mode`. -/
theorem vmxReports_iff (processor : Processor) :
    (∀ s calls, (∀ x ∈ steps processor s calls, x.1.Right processor x.2) ↔
      ∀ x ∈ steps processor s calls, ¬x.1.FailsUndetected processor x.2) ∧
    ∀ (p : Platform) (s : VmxState) (m m' : Machine) (guards : List (Guard Machine))
      (e : Option Error) (t : List (Instruction × Cpu)),
      (Block.call (enterRootMode (p.onProcessor processor s m.object)) : Code _) ⟨m, guards⟩ =
        .next e ⟨m', guards⟩ →
      m'.trace = m.trace ++ t →
      (RootModeRight processor s m.object (vmxCalls t) e ↔
        ∀ x ∈ steps processor s (vmxCalls t), ¬x.1.FailsUndetected processor x.2) := by
  refine ⟨steps_right_iff, ?_⟩
  intro p s m m' guards e t hcall htrace
  exact rootModeRight_iff hcall htrace

/-- A processor without the field `pml_index`. -/
def withoutPml : Processor where
  revisionId := 4#32
  physicalAddressWidth := 39
  supported f := f.encoding ≠ 0x812#64
  writable f := f.encoding ≠ 0x4400#64

/-- Outside VMX operation. -/
def outsideVmx : VmxState where
  vmxonPointer := none
  current := none
  regions _ := ⟨4#32, true, fun _ => 0⟩

/-- In VMX operation, with a current VMCS. -/
def insideVmx : VmxState := { outsideVmx with vmxonPointer := some 0x1000#64, current := some 0x2000#64 }

theorem read_pmlIndex :
    ∃ f s', withoutPml.supported f = false ∧
      Vmcs.read withoutPml f insideVmx = some (.ok 0#64, s') ∧
      ¬∀ x ∈ steps withoutPml insideVmx [.read f], x.1.Right withoutPml x.2 := by
  refine ⟨⟨0x812#64, rfl⟩, _, rfl, rfl, fun h => ?_⟩
  refine right_iff.mp (h _ (.head _)) ⟨rfl, rfl, ?_⟩
  show ¬false = true
  exact Bool.false_ne_true

/-- A CPU with its VMX regions. -/
def vmxCpu : Machine :=
  { secondCpu with
    object := { secondCpu.object with vmxPhysical := 0x1000#64, vmcsPhysical := 0x2000#64 } }

theorem rootModeRight_vmxCpu :
    ∃ m' t, (Block.call (enterRootMode (noVmptrld.onProcessor withoutPml outsideVmx vmxCpu.object)) :
        Code _) ⟨vmxCpu, []⟩ = .next none ⟨m', []⟩ ∧
      m'.trace = vmxCpu.trace ++ t ∧
      RootModeRight withoutPml outsideVmx vmxCpu.object (vmxCalls t) none := by
  obtain ⟨m', t, hcall, htrace, hcalls⟩ : ∃ m' t,
      (Block.call (enterRootMode (noVmptrld.onProcessor withoutPml outsideVmx vmxCpu.object)) :
        Code _) ⟨vmxCpu, []⟩ = .next none ⟨m', []⟩ ∧
      m'.trace = vmxCpu.trace ++ t ∧
      vmxCalls t = [.vmxon 0x1000#64, .vmclear 0x2000#64, .vmptrld 0x2000#64] :=
    ⟨_, _, rfl, rfl, rfl⟩
  refine ⟨m', t, hcall, htrace,
    ((vmxReports_iff withoutPml).2 noVmptrld outsideVmx vmxCpu m' [] none t hcall htrace).mpr ?_⟩
  rw [hcalls]
  refine NoCurrent.steps (.inl rfl) ?_
  intro call hmem region
  rcases List.mem_pair.mp hmem with rfl | rfl <;> exact nofun

end Zpp.Hypervisor
