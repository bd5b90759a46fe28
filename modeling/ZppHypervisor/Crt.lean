import ZppHypervisor.Lib.ByteMemory
import ZppHypervisor.Lib.Loop

/-!
# The freestanding runtime (`crt.cpp`)

The hypervisor, the UEFI loader and the Windows loader define these functions alike.  Each returns its
first argument, and here also the memory that it leaves.
-/

namespace Zpp.Crt

open Loop

/-- The loop of `memcpy` and `memmove`: the bytes are copied one by one, the first one first. -/
def copyBytes (m : ByteMemory 64) (dest src : BitVec 64) (n : ℕ) : ByteMemory 64 :=
  forRange n (fun i m => Function.update m (dest + BitVec.ofNat 64 i) (m (src + BitVec.ofNat 64 i))) m

def memcpy (m : ByteMemory 64) (dest src count : BitVec 64) : BitVec 64 × ByteMemory 64 :=
  (dest, copyBytes m dest src count.toNat)

def memmove (m : ByteMemory 64) (dest src count : BitVec 64) : BitVec 64 × ByteMemory 64 :=
  (dest, copyBytes m dest src count.toNat)

def memset (m : ByteMemory 64) (dest : BitVec 64) (value : BitVec 32) (count : BitVec 64) :
    BitVec 64 × ByteMemory 64 :=
  (dest, forRange count.toNat
    (fun i m => Function.update m (dest + BitVec.ofNat 64 i) (value.setWidth 8)) m)

end Zpp.Crt
