import ZppHypervisor.Hypervisor.Ept
import ZppHypervisor.Lib.ByteMemory

/-!
# Reading the MTRRs

`hypervisor::initialize_mtrrs` on the memory of the hypervisor object: the array `mtrrs` has eight
records, `mtrr_capabilities` is the member behind it, and the page tables come next.  `mtrrs[i]` is
the address `i` records behind the start of the array, whether or not the array has that many.
-/

namespace Zpp.Hypervisor.Mtrrs

open X64 X64.Intel Loop

/-- `msr::ia32_mtrr_capability`. -/
def ia32MtrrCapability : ℕ := 0xfe

/-- `msr::mtrr::physbase_0`. -/
def physbase0 : ℕ := 0x200

/-- `msr::mtrr::physmask_0`. -/
def physmask0 : ℕ := 0x201

/-- `sizeof(mtrr)`. -/
def mtrrSize : ℕ := 24

/-- The extent of `mtrrs`. -/
def mtrrCount : ℕ := 8

/-- A record in memory. -/
def readMtrr (m : ByteMemory 64) (p : Word) : Mtrr where
  physicalBase := m.load64 (p + BitVec.ofNat 64 0)
  size := m.load64 (p + BitVec.ofNat 64 8)
  type := m.load (p + BitVec.ofNat 64 16) 4
  valid := m.load (p + BitVec.ofNat 64 20) 1 != 0#8

/-- Assigns the members of a record in memory. -/
def writeMtrr (m : ByteMemory 64) (p : Word) (r : Mtrr) : ByteMemory 64 :=
  let m := m.store (p + BitVec.ofNat 64 16) (n := 4) r.type
  let m := m.store (p + BitVec.ofNat 64 20) (n := 1) (if r.valid then 1#8 else 0#8)
  let m := m.store (p + BitVec.ofNat 64 0) (n := 8) r.physicalBase
  m.store (p + BitVec.ofNat 64 8) (n := 8) r.size

/-- The address of `mtrrs[i]`. -/
def mtrrAddress (mtrrs : Word) (i : ℕ) : Word := mtrrs + BitVec.ofNat 64 (mtrrSize * i)

/-- The address of `mtrr_capabilities`. -/
def mtrrCapabilitiesAddress (mtrrs : Word) : Word :=
  mtrrs + BitVec.ofNat 64 (mtrrSize * mtrrCount)

section

variable (rdmsr : ℕ → Word) (mtrrs : Word)

/-- The base register of pair `i`. -/
def mtrrBase (i : ℕ) : MtrrVariableBase := ⟨rdmsr (physbase0 + i * 2)⟩

/-- The mask register of pair `i`. -/
def mtrrMask (i : ℕ) : MtrrVariableMask := ⟨rdmsr (physmask0 + i * 2)⟩

/-- The MTRR variable count. -/
def variableCount : ℕ :=
  (MtrrCapabilities.mk (rdmsr ia32MtrrCapability)).variableRangeRegisterCount.toNat

/-- The loop body of `initialize_mtrrs`; the second component collects the indices used. -/
def readMtrrPair (i : ℕ) (s : ByteMemory 64 × List ℕ) : ByteMemory 64 × List ℕ :=
  (writeMtrr s.1 (mtrrAddress mtrrs i) (initializeMtrr (mtrrBase rdmsr i) (mtrrMask rdmsr i)),
    s.2 ++ [i])

/-- Read the MTRR registers. -/
def initializeMtrrs (m : ByteMemory 64) : ByteMemory 64 × List ℕ :=
  -- Read the MTRR capabilities MSR.
  let m := m.store (mtrrCapabilitiesAddress mtrrs) (n := 8) (rdmsr ia32MtrrCapability)
  -- Iterate all MTRR registers, and read them.
  forRange (variableCount rdmsr) (readMtrrPair rdmsr mtrrs) (m, [])

end

/-- The loop that scans the mask, for at most `fuel` evaluations of its condition; `none` if it has
not ended by then. -/
def scanMask : ℕ → Word → Word → Option Word
  | 0, _, _ => none
  | fuel + 1, size, i =>
    if i &&& 1#64 = 0#64 then scanMask fuel (size <<< 1) (i >>> 1) else some size

end Zpp.Hypervisor.Mtrrs
