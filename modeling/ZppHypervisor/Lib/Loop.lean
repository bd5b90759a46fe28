import Mathlib.Data.Nat.Notation
import Mathlib.Logic.Basic

/-!
# Counting loops

`forRange n body s` is the C loop `for (i = 0; i < n; ++i) body`, run on the state `s`.
`forRangeM` is the same loop for a body that can also return from the enclosing function or have
undefined behaviour (`Outcome`).  Each comes with its invariant rule, the only way the rest of the
development looks inside a loop.
-/

namespace Loop

universe u v

variable {σ τ : Type u} {ρ ρ' : Type v}

/-- How a stretch of C code ends. -/
inductive Outcome (ρ : Type v) (σ : Type u)
  /-- Control reaches the end, in the given state. -/
  | next (s : σ)
  /-- The enclosing function returns. -/
  | returned (r : ρ)
  /-- The behaviour is undefined. -/
  | undefined
deriving DecidableEq, Repr

namespace Outcome

/-- Continues with `f` if control reached the end of the first part. -/
def bind (x : Outcome ρ σ) (f : σ → Outcome ρ τ) : Outcome ρ τ :=
  match x with
  | next s => f s
  | returned r => returned r
  | undefined => undefined

instance : Monad (Outcome ρ) where
  pure := next
  bind := bind

/-- A step that may have undefined behaviour but does not return. -/
def ofOption : Option σ → Outcome ρ σ
  | some s => next s
  | none => undefined

@[simp] theorem pure_eq (s : σ) : (pure s : Outcome ρ σ) = next s := rfl

@[simp] theorem next_bind (s : σ) (f : σ → Outcome ρ τ) : (next s >>= f) = f s := rfl

@[simp] theorem returned_bind (r : ρ) (f : σ → Outcome ρ τ) : (returned r >>= f) = returned r := rfl

@[simp] theorem undefined_bind (f : σ → Outcome ρ τ) : (undefined >>= f) = undefined := rfl

@[simp] theorem ofOption_some (s : σ) : (ofOption (some s) : Outcome ρ σ) = next s := rfl

/-- A bind that reaches its end. -/
theorem exists_of_bind_eq_next {x : Outcome ρ σ} {f : σ → Outcome ρ τ} {t : τ}
    (h : (x >>= f) = next t) : ∃ s, x = next s ∧ f s = next t := by
  cases x with
  | next s => exact ⟨s, rfl, h⟩
  | returned r => cases h
  | undefined => cases h

/-- The state in which control reaches the end satisfies `Q`, the result returned satisfies `R`,
and the behaviour is defined. -/
def Ensures (Q : σ → Prop) (R : ρ → Prop) : Outcome ρ σ → Prop
  | next s => Q s
  | returned r => R r
  | undefined => False

theorem Ensures.bind {x : Outcome ρ σ} {f : σ → Outcome ρ τ} {Q : σ → Prop} {Q' : τ → Prop}
    {R : ρ → Prop} (hx : x.Ensures Q R) (hf : ∀ s, Q s → (f s).Ensures Q' R) :
    (x >>= f).Ensures Q' R := by
  cases x with
  | next s => exact hf s hx
  | returned r => exact hx
  | undefined => exact hx.elim

/-- Changes the result returned. -/
def mapReturned (f : ρ → ρ') : Outcome ρ σ → Outcome ρ' σ
  | next s => next s
  | returned r => returned (f r)
  | undefined => undefined

theorem mapReturned_bind (f : ρ → ρ') (x : Outcome ρ σ) (g : σ → Outcome ρ τ) :
    (x >>= g).mapReturned f = x.mapReturned f >>= fun s => (g s).mapReturned f := by
  cases x <;> rfl

@[simp] theorem mapReturned_ofOption (f : ρ → ρ') (x : Option σ) :
    (ofOption x : Outcome ρ σ).mapReturned f = ofOption x := by
  cases x <;> rfl

/-- What holds at the end of a run that reaches it. -/
theorem Ensures.of_next {x : Outcome ρ σ} {Q : σ → Prop} {R : ρ → Prop} {s : σ}
    (h : x.Ensures Q R) (hx : x = next s) : Q s := by
  subst hx
  exact h

end Outcome

/-- `for (i = 0; i < n; ++i) body`. -/
def forRange (n : ℕ) (body : ℕ → σ → σ) (s : σ) : σ :=
  match n with
  | 0 => s
  | n + 1 => body n (forRange n body s)

/-- `for (i = 0; i < n; ++i) body`, where the body may also return. -/
def forRangeM (n : ℕ) (body : ℕ → σ → Outcome ρ σ) (s : σ) : Outcome ρ σ :=
  match n with
  | 0 => pure s
  | n + 1 => forRangeM n body s >>= body n

@[simp] theorem forRange_zero (body : ℕ → σ → σ) (s : σ) : forRange 0 body s = s := rfl

theorem forRange_succ (n : ℕ) (body : ℕ → σ → σ) (s : σ) :
    forRange (n + 1) body s = body n (forRange n body s) := rfl

/-- The invariant rule for `forRange`. -/
theorem forRange_invariant {P : ℕ → σ → Prop} {n : ℕ} {body : ℕ → σ → σ} {s : σ} (h0 : P 0 s)
    (hstep : ∀ i < n, ∀ s, P i s → P (i + 1) (body i s)) : P n (forRange n body s) := by
  induction n with
  | zero => exact h0
  | succ n ih =>
    exact hstep n n.lt_succ_self _ (ih fun i hi => hstep i (Nat.lt_succ_of_lt hi))

/-- A loop whose body returns the results of another, changed. -/
theorem mapReturned_forRangeM (f : ρ → ρ') {body : ℕ → σ → Outcome ρ σ}
    {body' : ℕ → σ → Outcome ρ' σ} (h : ∀ i s, (body i s).mapReturned f = body' i s) (n : ℕ)
    (s : σ) : (forRangeM n body s).mapReturned f = forRangeM n body' s := by
  induction n with
  | zero => rfl
  | succ n ih =>
    rw [forRangeM, forRangeM, Outcome.mapReturned_bind, ih, funext (h n)]

/-- The invariant rule for `forRangeM`: `R` describes what the body may return. -/
theorem forRangeM_invariant {P : ℕ → σ → Prop} {R : ρ → Prop} {n : ℕ}
    {body : ℕ → σ → Outcome ρ σ} {s : σ} (h0 : P 0 s)
    (hstep : ∀ i < n, ∀ s, P i s → (body i s).Ensures (P (i + 1)) R) :
    (forRangeM n body s).Ensures (P n) R := by
  induction n with
  | zero => exact h0
  | succ n ih =>
    exact (ih fun i hi => hstep i (Nat.lt_succ_of_lt hi)).bind (hstep n n.lt_succ_self)

/-- The invariant rule for the runs of `forRangeM` that reach the end. -/
theorem forRangeM_of_next {P : ℕ → σ → Prop} {n : ℕ} {body : ℕ → σ → Outcome ρ σ} {s s' : σ}
    (h0 : P 0 s) (hstep : ∀ i < n, ∀ s s', P i s → body i s = .next s' → P (i + 1) s')
    (h : forRangeM n body s = .next s') : P n s' := by
  induction n generalizing s' with
  | zero =>
    obtain rfl := Outcome.next.inj h
    exact h0
  | succ n ih =>
    obtain ⟨s₁, hrun, hlast⟩ := Outcome.exists_of_bind_eq_next h
    exact hstep n n.lt_succ_self s₁ s' (ih (fun i hi => hstep i (Nat.lt_succ_of_lt hi)) hrun) hlast

end Loop
