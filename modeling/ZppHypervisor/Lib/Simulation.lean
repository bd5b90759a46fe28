import Mathlib.Data.List.Basic

/-!
# Runs of a system with labels

A concrete step may be stuck, an abstract one may not, but its state says when the concrete one is.  If
every concrete step from related states that is not stuck goes on to states related again, so does every
run, and what a kind of step always keeps is kept by every run of such steps (`Forward.run`).  A run goes
through if and only if no state of the abstract run stops it (`Forward.run_iff`).
-/

namespace Simulation

variable {ι σ τ : Type*}

/-- Takes the steps of the labels in turn; `none` if one is stuck. -/
def run (step : ι → σ → Option σ) : List ι → σ → Option σ
  | [], s => some s
  | a :: l, s => (step a s).bind (run step l)

/-- Takes steps that are never stuck. -/
def runAll (step : ι → τ → τ) : List ι → τ → τ
  | [], t => t
  | a :: l, t => runAll step l (step a t)

theorem run_cons {step : ι → σ → Option σ} {a : ι} {s s' : σ} (h : step a s = some s') (l : List ι) :
    run step (a :: l) s = run step l s' := by
  rw [run, h, Option.bind_some]

/-- The run is enabled: in each of its states the next label is. -/
def Enabled (step : ι → τ → τ) (E : ι → τ → Prop) : List ι → τ → Prop
  | [], _ => True
  | a :: l, t => E a t ∧ Enabled step E l (step a t)

/-- What is always enabled is so in every run. -/
theorem enabled_of_forall {step : ι → τ → τ} {E : ι → τ → Prop} {l : List ι}
    (h : ∀ a ∈ l, ∀ t, E a t) (t : τ) : Enabled step E l t := by
  induction l generalizing t with
  | nil => trivial
  | cons a l ih =>
    exact ⟨h a List.mem_cons_self t, ih (fun b hb => h b (List.mem_cons_of_mem a hb)) _⟩

/-- Related states stay related, and a step with the label `a` changes nothing but what `F a` lets it.  A
step is stuck if its label is not enabled in the abstract state. -/
structure Forward (step : ι → σ → Option σ) (step' : ι → τ → τ) (E : ι → τ → Prop) (R : σ → τ → Prop)
    (F : ι → σ → σ → Prop) : Prop where
  next : ∀ a s t, R s t → E a t → ∃ s', step a s = some s' ∧ R s' (step' a t) ∧ F a s s'
  stuck : ∀ a s t, R s t → ¬E a t → step a s = none

section

variable {step : ι → σ → Option σ} {step' : ι → τ → τ} {E : ι → τ → Prop} {R : σ → τ → Prop}
  {F : ι → σ → σ → Prop}

/-- An enabled run of a concrete system is that of the abstract one; `G` is kept if all labels of the run
keep it. -/
theorem Forward.run (h : Forward step step' E R F) {G : σ → σ → Prop} (hrefl : ∀ s, G s s)
    (htrans : ∀ {s₁ s₂ s₃}, G s₁ s₂ → G s₂ s₃ → G s₁ s₃) {l : List ι}
    (hG : ∀ a ∈ l, ∀ s s', F a s s' → G s s') {s : σ} {t : τ} (hst : R s t)
    (henabled : Enabled step' E l t) :
    ∃ s', Simulation.run step l s = some s' ∧ R s' (runAll step' l t) ∧ G s s' := by
  induction l generalizing s t with
  | nil => exact ⟨s, rfl, hst, hrefl s⟩
  | cons a l ih =>
    obtain ⟨hfirst, hrest⟩ := henabled
    obtain ⟨s₁, hstep, hrelated, hframe⟩ := h.next a s t hst hfirst
    obtain ⟨s', hrun, hrelated', hkept⟩ :=
      ih (fun b hb => hG b (List.mem_cons_of_mem a hb)) hrelated hrest
    refine ⟨s', ?_, hrelated', htrans (hG a List.mem_cons_self s s₁ hframe) hkept⟩
    rw [run_cons hstep]
    exact hrun

/-- No other run goes through. -/
theorem Forward.run_iff (h : Forward step step' E R F) {l : List ι} {s : σ} {t : τ} (hst : R s t) :
    (∃ s', Simulation.run step l s = some s') ↔ Enabled step' E l t := by
  constructor
  · rintro ⟨s', hrun⟩
    induction l generalizing s t with
    | nil => trivial
    | cons a l ih =>
      have hfirst : E a t := by
        by_contra hstuck
        rw [Simulation.run, h.stuck a s t hst hstuck, Option.bind_none] at hrun
        cases hrun
      obtain ⟨s₁, hstep, hrelated, -⟩ := h.next a s t hst hfirst
      rw [run_cons hstep] at hrun
      exact ⟨hfirst, ih hrelated hrun⟩
  · intro henabled
    obtain ⟨s', hrun, -⟩ := h.run (G := fun _ _ => True) (fun _ => trivial) (fun _ _ => trivial)
      (fun _ _ _ _ _ => trivial) hst henabled
    exact ⟨s', hrun⟩

end

end Simulation
