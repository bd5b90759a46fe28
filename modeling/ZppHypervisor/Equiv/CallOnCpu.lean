import ZppHypervisor.Equiv.Loader
import ZppHypervisor.OsLoaders

/-!
# Loads with a `call_on_cpu`

A `call_on_cpu` that calls its function at most once, and on the right CPU (`CallsOnCpu`), makes of
`zpp_load_elf` a run of the loads that the rest of the development is about (`exists_calls`).
-/

namespace Zpp.OsLoaders

open Hypervisor Loader X64 Loop

/-- A bind that goes on. -/
theorem Program.exists_of_bind {σ α β : Type} {x : Program σ α} {g : α → Program σ β} {w w' : World σ}
    {b : β} (h : (x >>= g) w = some (b, w')) :
    ∃ a w₁, x w = some (a, w₁) ∧ g a w₁ = some (b, w') := by
  obtain ⟨⟨a, w₁⟩, hx, hg⟩ := Option.bind_eq_some_iff.mp h
  exact ⟨a, w₁, hx, hg⟩

theorem Program.bind_of_eq {σ α β : Type} {x : Program σ α} {w w₁ : World σ} {a : α}
    (h : x w = some (a, w₁)) (g : α → Program σ β) : (x >>= g) w = g a w₁ :=
  congrArg (Option.bind · fun (y : α × World σ) => g y.1 y.2) h

theorem Program.call_bind {σ α β : Type} (f : σ → α × σ) (g : α → Program σ β) (w : World σ) :
    (Program.call f >>= g) w = g (f w.os).1 { w with os := (f w.os).2 } := rfl

/-! ### Calls on a CPU -/

section Calls

variable {σ : Type}

/-- The operating system may have changed, and nothing else. -/
structure Same (w w' : World σ) : Prop where
  object : w'.object = w.object
  launches : w'.launches = w.launches

/-- A function that does not call the operating system. -/
def KeepsOs (function : Program σ ℤ) : Prop :=
  ∀ w r w', function w = some (r, w') → w'.os = w.os

/-- How a call of `call_on_cpu` ends: it has not called its function and fails, or it has called it once,
on CPU `place`, and fails if the function did. -/
structure EndsCall (cpu : σ → ℕ) (place : ℕ) (function : Program σ ℤ) (w : World σ) (r : ℤ)
    (w' : World σ) : Prop where
  called : r ≠ 0 ∧ Same w w' ∨
    ∃ os r₁ w₁, cpu os = place ∧ function { w with os } = some (r₁, w₁) ∧ Same w₁ w' ∧ (r = 0 → r₁ = 0)

/-- What `call_on_cpu` does to the operating system, besides calling its function: `Between` holds between
calls, `Done` of the CPUs below `n` on which it succeeded, and `Failed` after it failed. -/
structure CallsOnCpu (f : Functions σ) (cpu : σ → ℕ) (place : ℕ → ℕ) (n : ℕ) (Between : σ → Prop)
    (Done : ℕ → Prop) (Failed : ℕ → σ → Prop) : Prop where
  ends {i : ℕ} {function : Program σ ℤ} {w w' : World σ} {r : ℤ} (hi : i < n)
    (hbetween : Between w.os) (hkeeps : KeepsOs function)
    (hcall : f.callOnCpu i function w = some (r, w')) :
    EndsCall cpu (place i) function w r w' ∧ (r = 0 → Between w'.os ∧ Done i) ∧
      (r ≠ 0 → Failed i w'.os)

/-- The calls of `call_on_cpu` on the CPUs that they are for. -/
def OnCpus (cpus : ℕ → CpuCall) (place : ℕ → ℕ) (calls : ℕ → CpuCall) : Prop :=
  ∀ i, (calls i).cpu = (cpus (place i)).cpu ∧ (calls i).platform = (cpus (place i)).platform

/-- The entry point launches the hypervisor on the CPU that the code runs on. -/
theorem of_entry {cpus : ℕ → CpuCall} {cpu : σ → ℕ} {physicalToVirtual : Option (Word → Word)} {i : ℕ}
    {w w' : World σ} {r : ℤ} (h : entry cpus cpu physicalToVirtual i w = some (r, w')) :
    ∃ (code : ℕ) (l : Loader.Launch × Object),
      launch physicalToVirtual (cpus (cpu w.os)) (BitVec.ofNat 64 i) w.object = l ∧
      l.1.result = some code ∧ r = code ∧ w' = ⟨w.os, l.2, w.launches ++ [l.1]⟩ := by
  unfold entry at h
  dsimp only at h
  generalize launch physicalToVirtual (cpus (cpu w.os)) (BitVec.ofNat 64 i) w.object = l at h ⊢
  obtain ⟨code, hcode, h⟩ := Option.map_eq_some_iff.mp h
  obtain ⟨rfl, rfl⟩ := Prod.mk.inj h
  exact ⟨code, l, rfl, hcode, rfl, rfl⟩

/-- The entry point leaves the operating system. -/
theorem keepsOs_entry (cpus : ℕ → CpuCall) (cpu : σ → ℕ)
    (physicalToVirtual : Option (Word → Word)) (i : ℕ) :
    KeepsOs (entry cpus cpu physicalToVirtual i) := by
  intro w r w' h
  obtain ⟨-, -, -, -, -, rfl⟩ := of_entry h
  rfl

theorem loadStep_congr {physicalToVirtual : Option (Word → Word)} {calls calls' : ℕ → CpuCall} {n : ℕ}
    (h : calls' n = calls n) (r : Run) :
    Loader.loadStep physicalToVirtual calls' n r = Loader.loadStep physicalToVirtual calls n r := by
  unfold Loader.loadStep
  rw [h]

/-- The first iterations depend on the first calls. -/
theorem loadCpus_congr {physicalToVirtual : Option (Word → Word)} {calls calls' : ℕ → CpuCall} {n : ℕ}
    (h : ∀ i < n, calls' i = calls i) :
    loadCpus physicalToVirtual calls' n = loadCpus physicalToVirtual calls n := by
  induction n with
  | zero => rw [loadCpus, loadCpus, forRange_zero, forRange_zero]
  | succ n ih =>
    rw [loadCpus_succ, loadCpus_succ, ih fun i hi => h i (hi.trans n.lt_succ_self)]
    exact loadStep_congr (h n n.lt_succ_self) _

/-! ### The loop -/

variable {cpus : ℕ → CpuCall} {cpu : σ → ℕ} {f : Functions σ} {place : ℕ → ℕ} {Between : σ → Prop}
  {Done : ℕ → Prop} {Failed : ℕ → σ → Prop}

/-- After `n` iterations the loop of the loader has done what a load did, and the operating system is as
`call_on_cpu` leaves it. -/
def LoopInv (Between : σ → Prop) (Done : ℕ → Prop) (Failed : ℕ → σ → Prop) (n : ℕ) (run : Run) :
    Outcome (ℤ × World σ) (World σ) → Prop
  | .next w => run = ⟨w.object, w.launches, false⟩ ∧ Between w.os ∧ ∀ i < n, Done i
  | .returned (r, w) => run = ⟨w.object, w.launches, true⟩ ∧ r ≠ 0 ∧ ∃ i < n, Failed i w.os
  | .undefined => True

/-- The call that `call_on_cpu` has made of the CPU. -/
def cpuCall (cpu : CpuCall) (failsBefore failsAfter : Bool) : CpuCall :=
  { cpu with failsBefore, failsAfter }

/-- A load that goes on, with a call that calls its function. -/
theorem loadStep_cpuCall {physicalToVirtual : Option (Word → Word)} {cpu : CpuCall} {n : ℕ}
    {o : Object} {launches : List Loader.Launch} {l : Loader.Launch × Object}
    (hl : launch physicalToVirtual cpu (BitVec.ofNat 64 n) o = l) (r : ℤ) :
    Loader.loadStep physicalToVirtual (fun _ => cpuCall cpu false (decide (r ≠ 0))) n
        ⟨o, launches, false⟩ =
      ⟨l.2, launches ++ [l.1], decide (l.1.result ≠ some 0) || decide (r ≠ 0)⟩ := by
  rw [← hl]
  rfl

/-- One iteration, for the call it makes. -/
theorem loopInv_step {n k : ℕ} (h : CallsOnCpu f cpu place k Between Done Failed) (hn : n < k)
    {w : World σ} (hbetween : Between w.os) (hdone : ∀ i < n, Done i) :
    ∃ failsBefore failsAfter, LoopInv Between Done Failed (n + 1)
      (Loader.loadStep f.physicalToVirtual (fun _ => cpuCall (cpus (place n)) failsBefore failsAfter) n
        ⟨w.object, w.launches, false⟩) (loadStep cpus cpu f n w) := by
  unfold loadStep
  cases hcall : f.callOnCpu n (entry cpus cpu f.physicalToVirtual n) w with
  | none => exact ⟨false, false, trivial⟩
  | some x =>
    obtain ⟨r, w'⟩ := x
    obtain ⟨hends, hzero, hne⟩ := h.ends hn hbetween (keepsOs_entry cpus cpu _ n) hcall
    dsimp only
    rcases hends.called with ⟨hr, hsame⟩ | ⟨os, r₁, w₁, hcpu, hentry, hsame, hr₁⟩
    · -- The function has not been called.
      rw [if_pos hr]
      refine ⟨true, false, ?_, by decide, n, n.lt_succ_self, hne hr⟩
      rw [hsame.object, hsame.launches]
      rfl
    · obtain ⟨code, l, hl, hcode, rfl, rfl⟩ := of_entry hentry
      dsimp only at hl hsame
      rw [hcpu] at hl
      have hrun : Loader.loadStep f.physicalToVirtual
          (fun _ => cpuCall (cpus (place n)) false (decide (r ≠ 0))) n ⟨w.object, w.launches, false⟩ =
          ⟨w'.object, w'.launches, decide (r ≠ 0)⟩ := by
        rw [hsame.object, hsame.launches]
        refine (loadStep_cpuCall hl r).trans ?_
        by_cases hr : r = 0
        · have hzero : code = 0 := Int.ofNat_eq_zero.mp (hr₁ hr)
          simp [hr, hcode, hzero]
        · simp [hr]
      refine ⟨false, decide (r ≠ 0), ?_⟩
      rw [hrun]
      by_cases hr : r = 0
      · rw [if_neg (not_not_intro hr), hr]
        obtain ⟨hbetween', hdone'⟩ := hzero hr
        refine ⟨rfl, hbetween', fun i hi => ?_⟩
        rcases Nat.lt_succ_iff_lt_or_eq.mp hi with hi | rfl
        · exact hdone i hi
        · exact hdone'
      · rw [if_pos hr, decide_eq_true hr]
        exact ⟨rfl, by decide, n, n.lt_succ_self, hne hr⟩

/-- All iterations. -/
theorem exists_loopInv {n k : ℕ} (h : CallsOnCpu f cpu place k Between Done Failed) (hn : n ≤ k)
    {w : World σ} (hobject : w.object = .fresh) (hlaunches : w.launches = [])
    (hbetween : Between w.os) :
    ∃ calls, OnCpus cpus place calls ∧ LoopInv Between Done Failed n
      (loadCpus f.physicalToVirtual calls n) (forRangeM n (loadStep cpus cpu f) w) := by
  induction n with
  | zero =>
    refine ⟨fun i => cpus (place i), fun _ => ⟨rfl, rfl⟩, ?_, hbetween, fun i hi => ?_⟩
    · rw [hobject, hlaunches]
      rfl
    · exact absurd hi i.not_lt_zero
  | succ n ih =>
    obtain ⟨calls, hcalls, hinv⟩ := ih (n.le_succ.trans hn)
    rw [forRangeM]
    cases hrun : forRangeM n (loadStep cpus cpu f) w with
    | next w₁ =>
      rw [hrun] at hinv
      obtain ⟨hrun₁, hbetween₁, hdone₁⟩ := hinv
      obtain ⟨failsBefore, failsAfter, hstep⟩ := @loopInv_step σ cpus cpu f place _ _ _ n k h hn w₁
        hbetween₁ hdone₁
      let calls' := Function.update calls n (cpuCall (cpus (place n)) failsBefore failsAfter)
      have hbefore : loadCpus f.physicalToVirtual calls' n = loadCpus f.physicalToVirtual calls n :=
        loadCpus_congr fun i hi => Function.update_of_ne hi.ne _ _
      refine ⟨calls', fun i => ?_, ?_⟩
      · by_cases hi : i = n
        · subst hi
          show (Function.update calls i _ i).cpu = _ ∧ (Function.update calls i _ i).platform = _
          rw [Function.update_self]
          exact ⟨rfl, rfl⟩
        · show (Function.update calls n _ i).cpu = _ ∧ (Function.update calls n _ i).platform = _
          rw [Function.update_of_ne hi]
          exact hcalls i
      · rw [loadCpus_succ, hbefore, hrun₁, Outcome.next_bind]
        have hcall : calls' n = cpuCall (cpus (place n)) failsBefore failsAfter :=
          Function.update_self _ _ _
        rw [@loadStep_congr f.physicalToVirtual
          (fun _ => cpuCall (cpus (place n)) failsBefore failsAfter) calls' n hcall]
        exact hstep
    | returned x =>
      rw [hrun] at hinv
      obtain ⟨hrun₁, hr, i, hi, hfailed⟩ := hinv
      refine ⟨calls, hcalls, ?_, hr, i, hi.trans n.lt_succ_self, hfailed⟩
      rw [loadCpus_succ, hrun₁]
      rfl
    | undefined => exact ⟨calls, hcalls, trivial⟩

/-- **A load of an operating system is a load.** -/
theorem exists_calls {n : ℕ} (h : CallsOnCpu f cpu place n Between Done Failed) {w w₀ w' : World σ}
    {r : ℤ} (hnumber : f.numberOfCpus w = some (n, w₀)) (hobject : w₀.object = .fresh)
    (hlaunches : w₀.launches = []) (hbetween : Between w₀.os)
    (hrun : zppLoadElf cpus cpu f w = some (r, w')) :
    ∃ calls, OnCpus cpus place calls ∧
      Loader.zppLoadElf f.physicalToVirtual calls n = ⟨w'.object, w'.launches, decide (r ≠ 0)⟩ ∧
      (r = 0 → Between w'.os ∧ ∀ i < n, Done i) ∧
      (r ≠ 0 → Between w'.os ∨ ∃ i < n, Failed i w'.os) := by
  obtain ⟨n', w₁, hcount, hrun⟩ := Program.exists_of_bind hrun
  obtain ⟨rfl, rfl⟩ := Prod.mk.inj (Option.some.inj (hcount.symm.trans hnumber))
  by_cases hzero : n' = 0
  · subst hzero
    obtain ⟨rfl, rfl⟩ := Prod.mk.inj (Option.some.inj hrun)
    refine ⟨fun i => cpus (place i), fun _ => ⟨rfl, rfl⟩, ?_, fun hr => absurd hr (by decide),
      fun _ => .inl hbetween⟩
    rw [hobject, hlaunches]
    rfl
  · rw [if_neg hzero] at hrun
    obtain ⟨calls, hcalls, hinv⟩ := @exists_loopInv σ cpus cpu f place _ _ _ n' n' h le_rfl w₁
      hobject hlaunches hbetween
    refine ⟨calls, hcalls, ?_⟩
    rw [Loader.zppLoadElf, if_neg hzero]
    cases hloop : forRangeM n' (loadStep cpus cpu f) w₁ with
    | next w₂ =>
      rw [hloop] at hrun hinv
      obtain ⟨rfl, rfl⟩ := Prod.mk.inj (Option.some.inj hrun)
      obtain ⟨hload, hbetween', hdone⟩ := hinv
      exact ⟨hload, fun _ => ⟨hbetween', hdone⟩, fun hr => absurd rfl hr⟩
    | returned x =>
      rw [hloop] at hrun hinv
      obtain rfl := Option.some.inj hrun
      obtain ⟨hload, hr, hfailed⟩ := hinv
      refine ⟨?_, fun h0 => absurd h0 hr, fun _ => .inr hfailed⟩
      rw [hload, decide_eq_true hr]
    | undefined =>
      rw [hloop] at hrun
      cases hrun

/-- Where a failed call leaves the operating system as every other, so does the load. -/
theorem between_of_ended {n : ℕ} {os : σ} {r : ℤ} (hzero : r = 0 → Between os ∧ ∀ i < n, Done i)
    (hne : r ≠ 0 → Between os ∨ ∃ i < n, Between os) : Between os := by
  by_cases hr : r = 0
  · exact (hzero hr).1
  · rcases hne hr with hbetween | ⟨-, -, hbetween⟩
    · exact hbetween
    · exact hbetween

end Calls

/-! ### Loads that succeed -/

/-- A call succeeds if its function does, and then keeps the property. -/
def CallSucceeds {σ : Type} (f : Functions σ) (P : σ → Prop) (i : ℕ) : Prop :=
  ∀ (function : Program σ ℤ) (w : World σ), P w.os →
    (∀ os, ∃ w₁, function { w with os } = some (0, w₁) ∧ w₁.os = os) →
    ∃ w', f.callOnCpu i function w = some (0, w') ∧ P w'.os

/-- A load succeeds if its calls and launches do. -/
theorem exists_succeeds {σ : Type} {f : Functions σ} {cpus : ℕ → CpuCall} {cpu : σ → ℕ} {P : σ → Prop}
    {n : ℕ} {w w₀ : World σ} (hn : n ≠ 0) (hnumber : f.numberOfCpus w = some (n, w₀)) (hP : P w₀.os)
    (hobject : w₀.object = .fresh) (hcall : ∀ i < n, CallSucceeds f P i)
    (hlaunch : ∀ i < n, ∀ k o, (i = 0 → o = .fresh) →
      (launch f.physicalToVirtual (cpus k) (BitVec.ofNat 64 i) o).1.result = some 0) :
    ∃ w', zppLoadElf cpus cpu f w = some (0, w') := by
  have hloop : ∀ k ≤ n, ∃ w', forRangeM k (loadStep cpus cpu f) w₀ = .next w' ∧ P w'.os ∧
      (k = 0 → w'.object = .fresh) := by
    intro k hk
    induction k with
    | zero => exact ⟨w₀, rfl, hP, fun _ => hobject⟩
    | succ k ih =>
      obtain ⟨w₁, hrun, hP₁, hobject₁⟩ := ih (k.le_succ.trans hk)
      have hentry : ∀ os, ∃ w₂, entry cpus cpu f.physicalToVirtual k { w₁ with os } = some (0, w₂) ∧
          w₂.os = os := by
        intro os
        have hresult := hlaunch k hk (cpu os) w₁.object hobject₁
        unfold entry
        dsimp only
        rw [hresult]
        exact ⟨_, rfl, rfl⟩
      obtain ⟨w₂, hcall, hP₂⟩ := hcall k hk _ w₁ hP₁ hentry
      refine ⟨w₂, ?_, hP₂, fun h0 => absurd h0 k.succ_ne_zero⟩
      rw [forRangeM, hrun, Outcome.next_bind, loadStep, hcall]
      rfl
  obtain ⟨w', hrun, -, -⟩ := hloop n le_rfl
  refine ⟨w', ?_⟩
  rw [zppLoadElf, Program.bind_of_eq hnumber, if_neg hn, hrun]

end Zpp.OsLoaders
