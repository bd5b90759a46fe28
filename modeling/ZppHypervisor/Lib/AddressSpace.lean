import ZppHypervisor.Lib.ByteMemory

/-!
# Address spaces

A partial translation of virtual addresses, with the virtual address of each physical one that has
one.  Code that runs in an address space sees the memory through `view`, and what it leaves there goes
back to the physical memory by `writeBack`.
-/

/-- An address space: the translation, and an inverse of it. -/
structure AddressSpace (w w' : ℕ) where
  physical : BitVec w → Option (BitVec w')
  virtual : BitVec w' → Option (BitVec w)
  physical_virtual : ∀ {x a}, virtual x = some a → physical a = some x

namespace AddressSpace

variable {w w' : ℕ} (space : AddressSpace w w')

/-- The two addresses are those of one byte. -/
structure Maps (a : BitVec w) (x : BitVec w') : Prop where
  physical : space.physical a = some x
  virtual : space.virtual x = some a

/-- The memory that code in the address space sees; what is not mapped reads as zero. -/
def view (phys : ByteMemory w') : ByteMemory w := fun a =>
  match space.physical a with
  | some x => phys x
  | none => 0#8

/-- The physical memory after code in the address space has left the memory `m`. -/
def writeBack (phys : ByteMemory w') (m : ByteMemory w) : ByteMemory w' := fun x =>
  match space.virtual x with
  | some a => m a
  | none => phys x

variable {space}

theorem maps_of_virtual {x : BitVec w'} {a : BitVec w} (h : space.virtual x = some a) :
    space.Maps a x :=
  ⟨space.physical_virtual h, h⟩

namespace Maps

variable {a b : BitVec w} {x : BitVec w'}

theorem view (h : space.Maps a x) (phys : ByteMemory w') : space.view phys a = phys x := by
  unfold AddressSpace.view
  rw [h.physical]

theorem writeBack (h : space.Maps a x) (phys : ByteMemory w') (m : ByteMemory w) :
    space.writeBack phys m x = m a := by
  unfold AddressSpace.writeBack
  rw [h.virtual]

end Maps

/-- A physical address changes only if its virtual address did. -/
theorem writeBack_eq {phys : ByteMemory w'} {m : ByteMemory w} {x : BitVec w'}
    (h : ∀ a, space.Maps a x → m a = space.view phys a) : space.writeBack phys m x = phys x := by
  cases hx : space.virtual x with
  | none =>
    unfold writeBack
    rw [hx]
  | some a =>
    have hmaps := maps_of_virtual hx
    rw [hmaps.writeBack, h a hmaps, hmaps.view]

end AddressSpace
