import Mathlib.Data.List.Basic

/-!
# Blocks with scope guards

A `Block` is a stretch of C++ code over a state: it goes on with a value, returns from the enclosing
function, or has undefined behaviour.  It carries the scope guards constructed so far, the most recent
first.  `call` runs a function body: however the body ends, the guards that are still active run in
the reverse order of their construction.

The `simp` lemmas execute a block step by step; a proof about a function is a case split on its
conditions over such an execution.  What a function never changes has an easier proof: a property of
the state that every part keeps holds however the function ends (`Block.Keeps`).
-/

namespace ScopeGuard

variable {σ ρ ρ' α β : Type}

/-- How a stretch of code ends, and the state it leaves. -/
inductive Result (σ ρ α : Type)
  /-- Control reaches the end. -/
  | next (a : α) (s : σ)
  /-- The enclosing function returns. -/
  | returned (r : ρ) (s : σ)
  /-- The behaviour is undefined from here on. -/
  | undefined (s : σ)

/-- A guard: `m_function`, called by the destructor if `m_active`. -/
structure Guard (σ : Type) where
  function : σ → σ
  active : Bool

/-- The state of a running function and its guards, the last constructed first. -/
structure Frame (σ : Type) where
  state : σ
  guards : List (Guard σ)

/-- The destructors, in the order of the list. -/
def destroy : List (Guard σ) → σ → σ
  | [], s => s
  | g :: gs, s => destroy gs (if g.active then g.function s else s)

@[simp] theorem destroy_nil (s : σ) : destroy [] s = s := rfl

@[simp] theorem destroy_active (f : σ → σ) (gs : List (Guard σ)) (s : σ) :
    destroy (⟨f, true⟩ :: gs) s = destroy gs (f s) := rfl

@[simp] theorem destroy_canceled (f : σ → σ) (gs : List (Guard σ)) (s : σ) :
    destroy (⟨f, false⟩ :: gs) s = destroy gs s := rfl

/-- A stretch of the body of a function. -/
def Block (σ ρ α : Type) := Frame σ → Result (Frame σ) ρ α

namespace Block

/-- Goes on with `f` if control reached the end of the first part. -/
def bind (x : Block σ ρ α) (f : α → Block σ ρ β) : Block σ ρ β := fun s =>
  match x s with
  | .next a s' => f a s'
  | .returned r s' => .returned r s'
  | .undefined s' => .undefined s'

instance : Monad (Block σ ρ) where
  pure a := fun s => .next a s
  bind := bind

/-- Reads the state. -/
def get (f : σ → α) : Block σ ρ α := fun s => .next (f s.state) s

/-- Changes the state. -/
def modify (f : σ → σ) : Block σ ρ Unit := fun s => .next () { s with state := f s.state }

/-- `return r`. -/
def exit (r : ρ) : Block σ ρ α := fun s => .returned r s

/-- Undefined behaviour. -/
def undefined : Block σ ρ α := fun s => .undefined s

/-- Constructs a guard; the value names it. -/
def construct (f : σ → σ) : Block σ ρ ℕ := fun s =>
  .next s.guards.length { s with guards := ⟨f, true⟩ :: s.guards }

/-- Cancels the guard that `construct` named. -/
def cancel (guard : ℕ) : Block σ ρ Unit := fun s =>
  let guards := s.guards.modify (s.guards.length - 1 - guard) fun g => { g with active := false }
  .next () { s with guards }

/-- Calls a function, whose guards are its own. -/
def call (body : Block σ ρ' ρ') : Block σ ρ ρ' := fun s =>
  match body ⟨s.state, []⟩ with
  | .next r s' => .next r { s with state := destroy s'.guards s'.state }
  | .returned r s' => .next r { s with state := destroy s'.guards s'.state }
  | .undefined s' => .undefined { s with state := s'.state }

@[simp] theorem pure_apply (a : α) (s : Frame σ) : (pure a : Block σ ρ α) s = .next a s := rfl

@[simp] theorem get_apply (f : σ → α) (s : Frame σ) :
    (get f : Block σ ρ α) s = .next (f s.state) s := rfl

@[simp] theorem modify_apply (f : σ → σ) (s : Frame σ) :
    (modify f : Block σ ρ Unit) s = .next () { s with state := f s.state } := rfl

@[simp] theorem exit_apply (r : ρ) (s : Frame σ) :
    (exit r : Block σ ρ α) s = .returned r s := rfl

@[simp] theorem undefined_apply (s : Frame σ) :
    (undefined : Block σ ρ α) s = .undefined s := rfl

@[simp] theorem construct_apply (f : σ → σ) (s : Frame σ) :
    (construct f : Block σ ρ ℕ) s =
      .next s.guards.length { s with guards := ⟨f, true⟩ :: s.guards } := rfl

@[simp] theorem cancel_apply (guard : ℕ) (s : Frame σ) :
    (cancel guard : Block σ ρ Unit) s = .next () ⟨s.state,
      s.guards.modify (s.guards.length - 1 - guard) fun g => { g with active := false }⟩ :=
  rfl

/-- A bind, by the way the first part ends. -/
theorem bind_apply (x : Block σ ρ α) (f : α → Block σ ρ β) (s : Frame σ) :
    (x >>= f) s = match x s with
      | .next a s' => f a s'
      | .returned r s' => .returned r s'
      | .undefined s' => .undefined s' := rfl

@[simp] theorem bind_of_next {x : Block σ ρ α} {f : α → Block σ ρ β} {s s' : Frame σ} {a : α}
    (h : x s = .next a s') : (x >>= f) s = f a s' := by
  rw [bind_apply, h]

theorem bind_of_returned {x : Block σ ρ α} {f : α → Block σ ρ β} {s s' : Frame σ} {r : ρ}
    (h : x s = .returned r s') : (x >>= f) s = .returned r s' := by
  rw [bind_apply, h]

theorem bind_of_undefined {x : Block σ ρ α} {f : α → Block σ ρ β} {s s' : Frame σ}
    (h : x s = .undefined s') : (x >>= f) s = .undefined s' := by
  rw [bind_apply, h]

end Block

/-! ### Invariants -/

/-- The state that a run leaves. -/
def Result.state : Result σ ρ α → σ
  | .next _ s => s
  | .returned _ s => s
  | .undefined s => s

variable {P : σ → Prop}

/-- The state has a property, and the guards keep it. -/
structure Frame.Satisfies (P : σ → Prop) (s : Frame σ) : Prop where
  state : P s.state
  guards : ∀ g ∈ s.guards, ∀ s, P s → P (g.function s)

/-- The destructors keep what their functions keep. -/
theorem destroy_keeps {gs : List (Guard σ)} (hgs : ∀ g ∈ gs, ∀ s, P s → P (g.function s)) {s : σ}
    (hs : P s) : P (destroy gs s) := by
  induction gs generalizing s with
  | nil => exact hs
  | cons g gs ih =>
    refine ih (fun g' hg' => hgs g' (List.mem_cons_of_mem g hg')) ?_
    split
    · exact hgs g List.mem_cons_self s hs
    · exact hs

theorem Frame.Satisfies.destroy {s : Frame σ} (h : s.Satisfies P) : P (destroy s.guards s.state) :=
  destroy_keeps h.guards h.state

namespace Block

/-- However the block ends, it keeps a property of the state, and so do the guards that it constructs. -/
def Keeps (P : σ → Prop) (x : Block σ ρ α) : Prop :=
  ∀ s : Frame σ, s.Satisfies P → (x s).state.Satisfies P

theorem keeps_pure (a : α) : (pure a : Block σ ρ α).Keeps P := fun _ hs => hs

theorem keeps_get (f : σ → α) : (get f : Block σ ρ α).Keeps P := fun _ hs => hs

theorem keeps_exit (r : ρ) : (exit r : Block σ ρ α).Keeps P := fun _ hs => hs

theorem keeps_undefined : (undefined : Block σ ρ α).Keeps P := fun _ hs => hs

theorem keeps_modify {f : σ → σ} (hf : ∀ s, P s → P (f s)) : (modify f : Block σ ρ Unit).Keeps P :=
  fun _ hs => ⟨hf _ hs.state, hs.guards⟩

theorem Keeps.bind {x : Block σ ρ α} {f : α → Block σ ρ β} (hx : x.Keeps P)
    (hf : ∀ a, (f a).Keeps P) : (x >>= f).Keeps P := by
  intro s hs
  have hstate := hx s hs
  rw [bind_apply]
  cases hrun : x s with
  | next a s' =>
    rw [hrun] at hstate
    exact hf a s' hstate
  | returned r s' =>
    rw [hrun] at hstate
    exact hstate
  | undefined s' =>
    rw [hrun] at hstate
    exact hstate

theorem keeps_construct {f : σ → σ} (hf : ∀ s, P s → P (f s)) :
    (construct f : Block σ ρ ℕ).Keeps P := by
  intro s hs
  refine ⟨hs.state, fun g hg => ?_⟩
  rcases List.mem_cons.mp hg with rfl | hg
  · exact hf
  · exact hs.guards g hg

/-- A cancelled guard has the function that it had. -/
theorem keeps_cancel (guard : ℕ) : (cancel guard : Block σ ρ Unit).Keeps P := by
  intro s hs
  rw [cancel_apply]
  refine ⟨hs.state, fun g hg => ?_⟩
  obtain ⟨i, hi⟩ := List.mem_iff_getElem?.mp hg
  rw [Result.state, List.getElem?_modify] at hi
  obtain ⟨g', hg', rfl⟩ := Option.map_eq_some_iff.mp hi
  have hkeeps := hs.guards g' (List.mem_of_getElem? hg')
  split <;> exact hkeeps

/-- The guards of the caller are not those of the function. -/
theorem Keeps.call {body : Block σ ρ' ρ'} (h : body.Keeps P) : (call body : Block σ ρ ρ').Keeps P := by
  intro s hs
  have hbody := h ⟨s.state, []⟩ ⟨hs.state, fun g hg => absurd hg List.not_mem_nil⟩
  unfold Block.call
  cases hrun : body ⟨s.state, []⟩ with
  | next r s' =>
    rw [hrun] at hbody
    exact ⟨hbody.destroy, hs.guards⟩
  | returned r s' =>
    rw [hrun] at hbody
    exact ⟨hbody.destroy, hs.guards⟩
  | undefined s' =>
    rw [hrun] at hbody
    exact ⟨hbody.state, hs.guards⟩

theorem Keeps.of_next {x : Block σ ρ α} (hx : x.Keeps P) {s s' : Frame σ} {a : α}
    (hs : s.Satisfies P) (h : x s = .next a s') : s'.Satisfies P := by
  have hstate := hx s hs
  rw [h] at hstate
  exact hstate

/-- Binds associate. -/
theorem bind_bind {γ : Type} (x : Block σ ρ α) (f : α → Block σ ρ β) (g : β → Block σ ρ γ) :
    (x >>= f) >>= g = x >>= fun a => f a >>= g := by
  funext s
  rw [bind_apply, bind_apply, bind_apply]
  cases x s <;> rfl

/-- A bind that reaches its end. -/
theorem exists_of_bind_eq_next {x : Block σ ρ α} {f : α → Block σ ρ β} {s s' : Frame σ} {b : β}
    (h : (x >>= f) s = .next b s') : ∃ a s₁, x s = .next a s₁ ∧ f a s₁ = .next b s' := by
  rw [bind_apply] at h
  cases hrun : x s with
  | next a s₁ =>
    rw [hrun] at h
    exact ⟨a, s₁, rfl, h⟩
  | returned r s₁ =>
    rw [hrun] at h
    cases h
  | undefined s₁ =>
    rw [hrun] at h
    cases h

end Block

end ScopeGuard
