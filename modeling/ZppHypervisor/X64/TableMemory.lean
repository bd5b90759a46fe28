import ZppHypervisor.X64.Walk

/-!
# Tables in physical memory

`HoldsTable mem frame table` says that the 512 entries of `table` lie in the page at `frame`.  Tables
on distinct page-aligned frames never overlap, so any family of them fits into one memory
(`exists_holdsTable`).
-/

namespace Zpp.X64

/-- The page at `frame` consists of the 512 entries of `table`. -/
def HoldsTable (mem : ByteMemory 64) (frame : Word) (table : Fin 512 → Word) : Prop :=
  ∀ (index : Word) (h : index.toNat < 512),
    mem.load64 (frame + 8#64 * index) = table ⟨index.toNat, h⟩

/-- Byte `k` of entry `index` of the table at `frame`. -/
theorem toNat_entryByte {frame index : Word} {k : ℕ} (haligned : frame.toNat % 0x1000 = 0)
    (hindex : index.toNat < 512) (hk : k < 8) :
    (frame + 8#64 * index + BitVec.ofNat 64 k).toNat = frame.toNat + 8 * index.toNat + k := by
  have := frame.isLt
  rw [BitVec.toNat_add, BitVec.toNat_add, BitVec.toNat_mul, BitVec.toNat_ofNat, BitVec.toNat_ofNat]
  omega

/-- Tables on distinct page-aligned frames can lie in memory together. -/
theorem exists_holdsTable {ι : Type*} (frame : ι → Word) (table : ι → Fin 512 → Word)
    (haligned : ∀ i, (frame i).toNat % 0x1000 = 0) (hinj : Function.Injective frame) :
    ∃ mem : ByteMemory 64, ∀ i, HoldsTable mem (frame i) (table i) := by
  classical
  refine ⟨fun x =>
    if h : ∃ i, (frame i).toNat = x.toNat / 0x1000 * 0x1000 then
      (table h.choose ⟨x.toNat % 0x1000 / 8, by omega⟩).extractLsb' (8 * (x.toNat % 8)) 8
    else 0#8, fun i index hindex => ?_⟩
  apply BitVec.eq_of_getLsbD_eq
  intro b hb
  rw [ByteMemory.load64, ByteMemory.getLsbD_load _ _ _ _ hb]
  have hx := toNat_entryByte (haligned i) hindex (show b / 8 < 8 by omega)
  have hi := haligned i
  generalize frame i + 8#64 * index + BitVec.ofNat 64 (b / 8) = x at hx ⊢
  have hpage : (frame i).toNat = x.toNat / 0x1000 * 0x1000 := by omega
  have hex : ∃ j, (frame j).toNat = x.toNat / 0x1000 * 0x1000 := ⟨i, hpage⟩
  have hchoose : hex.choose = i :=
    hinj (BitVec.eq_of_toNat_eq (hex.choose_spec.trans hpage.symm))
  rw [dif_pos hex, hchoose, BitVec.getLsbD_extractLsb', decide_eq_true (Nat.mod_lt b (by decide)),
    Bool.true_and]
  have hentry : x.toNat % 0x1000 / 8 = index.toNat := by omega
  have hbit : 8 * (x.toNat % 8) + b % 8 = b := by omega
  simp only [hentry, hbit]

end Zpp.X64
