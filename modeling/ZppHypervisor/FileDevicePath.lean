import ZppHypervisor.Crt
import ZppHypervisor.Lib.DevicePath

/-!
# The file device path (UEFI loader, `main.cpp`)

`fileDevicePath` is `file_device_path` without a device: it builds the path of a file name in a buffer
from the pool, and returns the buffer and the memory.
-/

namespace Zpp.UefiLoader

open Crt DevicePath

/-- What the function uses of the boot services: whether the device path utilities are there, and a pool
that has a buffer of some size or not. -/
structure BootServices where
  locateProtocol : Bool
  allocatePool : BitVec 64 → Option (BitVec 64)

/-- A pointer to a null-terminated string of `char16_t`. -/
structure Char16String (m : ByteMemory 64) where
  address : BitVec 64
  terminated : ∃ n, m.load (address + BitVec.ofNat 64 (2 * n)) 2 = 0#16

/-- `std::char_traits<char16_t>::length`. -/
def Char16String.length {m : ByteMemory 64} (s : Char16String m) : ℕ := Nat.find s.terminated

/-- `SIZE_OF_FILEPATH_DEVICE_PATH`, the offset of the path name. -/
def sizeOfFilepathDevicePath : BitVec 64 := 4#64

/-- `sizeof(EFI_DEVICE_PATH)`. -/
def sizeOfDevicePath : BitVec 64 := 4#64

/-- Writes the four bytes of a header. -/
def writeHeader (m : ByteMemory 64) (header : BitVec 64) (type subType low high : BitVec 8) :
    ByteMemory 64 :=
  let m := Function.update m header type
  let m := Function.update m (header + 1#64) subType
  let m := Function.update m (header + 2#64) low
  Function.update m (header + 3#64) high

def fileDevicePath (services : BootServices) (m : ByteMemory 64) (fileName : Char16String m) :
    Option (BitVec 64 × ByteMemory 64) :=
  -- Locate the device path utilities protocol.
  if services.locateProtocol then
    -- Compute the file name size.
    let fileNameSize := BitVec.ofNat 64 fileName.length * 2#64
    -- Compute the file path device path size.
    let fileDevicePathSize := fileNameSize + sizeOfFilepathDevicePath + sizeOfDevicePath
    match services.allocatePool fileDevicePathSize with
    | none => none
    | some path =>
      let (_, m) := memset m path 0#32 (fileNameSize + sizeOfFilepathDevicePath + sizeOfDevicePath)
      let m := writeHeader m path mediaDevicePath mediaFilePath
        (((fileNameSize + sizeOfFilepathDevicePath) &&& 0xff#64).setWidth 8)
        (((fileNameSize + sizeOfFilepathDevicePath) >>> 8).setWidth 8)
      let (_, m) := memcpy m (path + sizeOfFilepathDevicePath) fileName.address fileNameSize
      -- Compute the device path end.
      let endOfDevicePath := path + (m (path + 2#64)).setWidth 64 + (m (path + 3#64)).setWidth 64 <<< 8
      let m := writeHeader m endOfDevicePath endDevicePathType endEntireDevicePathSubType
        (sizeOfDevicePath.setWidth 8) 0#8
      some (path, m)
  else none

end Zpp.UefiLoader
