import ZppHypervisor.X64.Intel.Epte

/-!
# Memory type range registers (`mtrr.h`)
-/

namespace Zpp.X64.Intel

/-- Represents an MTRR, memory type range register. -/
structure Mtrr where
  /-- The physical base. -/
  physicalBase : Word := 0#64
  /-- The size of the MTRR. -/
  size : Word := 0#64
  /-- The MTRR type. -/
  type : MemoryType := .uncachable
  /-- True if valid, else false. -/
  valid : Bool := false
deriving DecidableEq, Repr

/-- Represents the MTRR capabilities of the processor. -/
structure MtrrCapabilities where
  value : Word

/-- The number of range registers. -/
def MtrrCapabilities.variableRangeRegisterCount (r : MtrrCapabilities) : Word := r.value &&& 0xff#64

/-- Represents the MTRR variable base. -/
structure MtrrVariableBase where
  value : Word

namespace MtrrVariableBase

/-- The memory type. -/
def memoryType (r : MtrrVariableBase) : MemoryType := (r.value &&& 0xff#64).setWidth 32

/-- The physical base page frame number. -/
def pageNumber (r : MtrrVariableBase) : Word := BitField.get 12 0xffffffffff#64 r.value

end MtrrVariableBase

/-- Represents the MTRR variable mask.  The rule is that (address_in_range & mask == mask & base). -/
structure MtrrVariableMask where
  value : Word

namespace MtrrVariableMask

def valid (r : MtrrVariableMask) : Bool := BitField.test 11 r.value

/-- The physical mask field. -/
def physicalMask (r : MtrrVariableMask) : Word := BitField.get 12 0xffffffffff#64 r.value

end MtrrVariableMask

namespace Mtrr

/-- The types an MTRR can have. -/
def Architectural (r : Mtrr) : Prop :=
  r.type ∈ [.uncachable, .writeCombining, .writeThrough, .writeProtected, .writeBack]

/-- The range ends below 2^64. -/
def Bounded (r : Mtrr) : Prop := r.physicalBase.toNat + r.size.toNat < 2 ^ 64

/-- The range contains the `n` bytes from `a` up. -/
def Contains (r : Mtrr) (a n : ℕ) : Prop :=
  r.physicalBase.toNat ≤ a ∧ a + n ≤ r.physicalBase.toNat + r.size.toNat

/-- The range contains none of the `n` bytes from `a` up. -/
def Misses (r : Mtrr) (a n : ℕ) : Prop :=
  ∀ x, a ≤ x → x < a + n → ¬ r.Contains x 1

/-- The range is empty but starts strictly inside the `n` bytes from `a` up. -/
def EmptyInside (r : Mtrr) (a n : ℕ) : Prop :=
  r.size = 0#64 ∧ a < r.physicalBase.toNat ∧ r.physicalBase.toNat < a + n

instance (r : Mtrr) : Decidable r.Architectural := inferInstanceAs (Decidable (_ ∈ _))

instance (r : Mtrr) : Decidable r.Bounded := inferInstanceAs (Decidable (_ < _))

instance (r : Mtrr) (a n : ℕ) : Decidable (r.Contains a n) := inferInstanceAs (Decidable (_ ∧ _))

instance (r : Mtrr) (a n : ℕ) : Decidable (r.EmptyInside a n) :=
  inferInstanceAs (Decidable (_ ∧ _))

/-- A range misses a stretch of bytes if it lies below or above it or is empty. -/
theorem misses_iff {r : Mtrr} {a n : ℕ} (hn : 0 < n) :
    r.Misses a n ↔ r.physicalBase.toNat + r.size.toNat ≤ a ∨ a + n ≤ r.physicalBase.toNat ∨
      r.size = 0#64 := by
  rw [← BitVec.toNat_inj, BitVec.toNat_ofNat]
  constructor
  · intro h
    by_contra hc
    -- Otherwise the larger of the two lower ends is in both.
    rcases Nat.le_total a r.physicalBase.toNat with hle | hle
    · exact h r.physicalBase.toNat hle (by omega) ⟨by omega, by omega⟩
    · exact h a (by omega) (by omega) ⟨by omega, by omega⟩
  · rintro h x hlo hhi ⟨h1, h2⟩
    omega

end Mtrr

end Zpp.X64.Intel
