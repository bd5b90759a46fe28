import ZppHypervisor.Equiv.Crt
import ZppHypervisor.FileDevicePath

/-!
# What `file_device_path` builds

The buffer has a node with the characters of the name and behind it the end of the path
(`fileDevicePath_spec`).  The length of the node is that of the name without its null character, so no
name is null-terminated in its node (`Built.not_encodesName`).
-/

namespace Zpp.UefiLoader

open ByteMemory Crt DevicePath

variable {m : ByteMemory 64}

/-! ### Headers -/

theorem bytes_writeHeader (m : ByteMemory 64) (header : BitVec 64) (type subType low high : BitVec 8) :
    bytes (writeHeader m header type subType low high) header 4 = [type, subType, low, high] := by
  have hlist : ∀ m : ByteMemory 64, bytes m header 4 =
      [m (header + 0#64), m (header + 1#64), m (header + 2#64), m (header + 3#64)] := fun m => rfl
  rw [hlist]
  simp [writeHeader]

theorem writeHeader_of_not_mem {header x : BitVec 64} (type subType low high : BitVec 8)
    (hx : x ∉ Region header 4) : writeHeader m header type subType low high x = m x := by
  have hne : ∀ k < 4, x ≠ header + BitVec.ofNat 64 k := fun k hk h => by
    rw [h] at hx
    exact hx (add_ofNat_mem_region hk)
  have hzero : x ≠ header := fun h => hne 0 (by decide) (by rw [h, BitVec.add_zero])
  unfold writeHeader
  rw [Function.update_of_ne (hne 3 (by decide)), Function.update_of_ne (hne 2 (by decide)),
    Function.update_of_ne (hne 1 (by decide)), Function.update_of_ne hzero]

/-! ### The buffer -/

/-- The characters of the string, without its null character, two bytes each. -/
def Char16String.bytes (s : Char16String m) : List (BitVec 8) :=
  ByteMemory.bytes m s.address (2 * s.length)

/-- The length of the node, in two bytes. -/
def lengthLow (n : ℕ) : BitVec 8 := (BitVec.ofNat 64 (n + 4) &&& 0xff#64).setWidth 8

def lengthHigh (n : ℕ) : BitVec 8 := (BitVec.ofNat 64 (n + 4) >>> 8).setWidth 8

theorem toNat_length {n : ℕ} (hn : n + 4 < 2 ^ 16) :
    (lengthLow n).toNat + 2 ^ 8 * (lengthHigh n).toNat = n + 4 := by
  have hlow : (BitVec.ofNat 64 (n + 4) &&& 0xff#64).toNat = (n + 4) % 2 ^ 8 := by
    rw [BitVec.toNat_and, BitVec.toNat_ofNat, Nat.mod_eq_of_lt (by omega)]
    exact Nat.and_two_pow_sub_one_eq_mod (n + 4) 8
  rw [lengthLow, lengthHigh, BitVec.toNat_setWidth, hlow, BitVec.toNat_setWidth,
    BitVec.toNat_ushiftRight, BitVec.toNat_ofNat, Nat.shiftRight_eq_div_pow]
  omega

/-- The end of the path is found from the length of the node. -/
theorem add_length {n : ℕ} (hn : n + 4 < 2 ^ 16) (p : BitVec 64) :
    p + (lengthLow n).setWidth 64 + (lengthHigh n).setWidth 64 <<< 8 = p + BitVec.ofNat 64 (n + 4) := by
  have hlength := toNat_length hn
  rw [BitVec.add_assoc]
  congr 1
  rw [← BitVec.toNat_inj, BitVec.toNat_add, BitVec.toNat_shiftLeft, BitVec.toNat_setWidth,
    BitVec.toNat_setWidth, BitVec.toNat_ofNat, Nat.shiftLeft_eq]
  omega

/-- The bytes of the buffer: the node, and the end of the path. -/
def buffer (s : Char16String m) : List (BitVec 8) :=
  mediaDevicePath :: mediaFilePath :: lengthLow (2 * s.length) :: lengthHigh (2 * s.length) ::
    (s.bytes ++ [endDevicePathType, endEntireDevicePathSubType, 4#8, 0#8])

/-- What is known of the buffer at `p` and the memory. -/
structure Built (s : Char16String m) (p : BitVec 64) (m' : ByteMemory 64) : Prop where
  bytes : bytes m' p (2 * s.length + 8) = buffer s
  others : ∀ x ∉ Region p (2 * s.length + 8), m' x = m x

/-- The memory before the name is copied. -/
def withHeader (s : Char16String m) (p : BitVec 64) : ByteMemory 64 :=
  writeHeader (fill m p (2 * s.length + 8) 0#8) p mediaDevicePath mediaFilePath
    (lengthLow (2 * s.length)) (lengthHigh (2 * s.length))

/-- The header is in front of the name. -/
theorem header_not_mem (s : Char16String m) (hlt : 2 * s.length + 8 < 2 ^ 64) (p : BitVec 64) {k : ℕ}
    (hk : k < 4) : p + BitVec.ofNat 64 k ∉ Region (p + 4#64) (2 * s.length) := by
  have h : p + BitVec.ofNat 64 0 + BitVec.ofNat 64 k ∉
      Region (p + BitVec.ofNat 64 4) (2 * s.length) :=
    add_ofNat_not_mem_region (by omega) (by omega) (by omega)
  rw [BitVec.add_zero] at h
  exact h

/-- The three parts of the buffer. -/
theorem built_of_parts (s : Char16String m) {p : BitVec 64} {m₁ m₂ : ByteMemory 64}
    (hlt : 2 * s.length + 8 < 2 ^ 64)
    (hfresh : ∀ i < 2 * s.length, s.address + BitVec.ofNat 64 i ∉ Region p (2 * s.length + 8))
    (hmoved : Moved (withHeader s p) (p + 4#64) s.address (2 * s.length) m₁)
    (hend : m₂ = writeHeader m₁ (p + BitVec.ofNat 64 (2 * s.length + 4)) endDevicePathType
      endEntireDevicePathSubType 4#8 0#8) :
    Built s p m₂ := by
  -- The end is behind the other parts.
  have hbefore : ∀ k < 2 * s.length + 4,
      m₂ (p + BitVec.ofNat 64 k) = m₁ (p + BitVec.ofNat 64 k) := by
    intro k hk
    have h : p + BitVec.ofNat 64 0 + BitVec.ofNat 64 k ∉
        Region (p + BitVec.ofNat 64 (2 * s.length + 4)) 4 :=
      add_ofNat_not_mem_region (by omega) (by omega) (by omega)
    rw [BitVec.add_zero] at h
    rw [hend]
    exact writeHeader_of_not_mem _ _ _ _ h
  have hinside : ∀ {k n : ℕ} {x : BitVec 64}, k + n ≤ 2 * s.length + 8 →
      x ∉ Region p (2 * s.length + 8) → x ∉ Region (p + BitVec.ofNat 64 k) n :=
    fun hk hx hmem => hx (region_add_subset hk hlt hmem)
  have hfirst : ∀ {x : BitVec 64}, x ∉ Region p (2 * s.length + 8) → x ∉ Region p 4 :=
    fun hx hmem => hx (region_mono (by omega) hmem)
  constructor
  · have hnode : bytes m₂ p 4 = [mediaDevicePath, mediaFilePath, lengthLow (2 * s.length),
        lengthHigh (2 * s.length)] := by
      rw [← bytes_writeHeader (fill m p (2 * s.length + 8) 0#8) p]
      exact bytes_congr fun k hk =>
        (hbefore k (by omega)).trans (hmoved.others _ (header_not_mem s hlt p hk))
    have hname : bytes m₂ (p + 4#64) (2 * s.length) = s.bytes := by
      refine bytes_congr fun i hi => ?_
      have hassoc : p + 4#64 + BitVec.ofNat 64 i = p + BitVec.ofNat 64 (4 + i) := by
        rw [BitVec.ofNat_add, BitVec.add_assoc]
      have hsource := hfresh i hi
      rw [hassoc, hbefore (4 + i) (by omega), ← hassoc, hmoved.bytes i hi, withHeader,
        writeHeader_of_not_mem _ _ _ _ (hfirst hsource)]
      exact if_neg (mt mem_region.mpr hsource)
    have hlast : bytes m₂ (p + BitVec.ofNat 64 (4 + 2 * s.length)) 4 =
        [endDevicePathType, endEntireDevicePathSubType, 4#8, 0#8] := by
      rw [hend, Nat.add_comm 4]
      exact bytes_writeHeader _ _ _ _ _ _
    have hsum : 2 * s.length + 8 = 4 + 2 * s.length + 4 := by omega
    rw [hsum, bytes_add, bytes_add, hnode, hlast]
    show _ ++ bytes m₂ (p + 4#64) (2 * s.length) ++ _ = _
    rw [hname]
    rfl
  · intro x hx
    rw [hend, writeHeader_of_not_mem _ _ _ _ (hinside (by omega) hx),
      hmoved.others x (hinside (by omega) hx), withHeader, writeHeader_of_not_mem _ _ _ _ (hfirst hx)]
    exact if_neg (mt mem_region.mpr hx)

theorem fileDevicePath_spec (services : BootServices) (s : Char16String m)
    (hfits : 2 * s.length + 4 < 2 ^ 16) (hlocate : services.locateProtocol = true) {p : BitVec 64}
    (hallocate : services.allocatePool (BitVec.ofNat 64 (2 * s.length + 8)) = some p)
    (hfresh : ∀ i < 2 * s.length, s.address + BitVec.ofNat 64 i ∉ Region p (2 * s.length + 8)) :
    ∃ m', fileDevicePath services m s = some (p, m') ∧ Built s p m' := by
  have hlt : 2 * s.length + 8 < 2 ^ 64 := by omega
  have hname : BitVec.ofNat 64 s.length * 2#64 = BitVec.ofNat 64 (2 * s.length) := by
    rw [Nat.mul_comm, BitVec.ofNat_mul]
  have hnode : BitVec.ofNat 64 (2 * s.length) + sizeOfFilepathDevicePath =
      BitVec.ofNat 64 (2 * s.length + 4) := (BitVec.ofNat_add _ 4).symm
  have hsize : BitVec.ofNat 64 (2 * s.length + 4) + sizeOfDevicePath =
      BitVec.ofNat 64 (2 * s.length + 8) := (BitVec.ofNat_add (2 * s.length + 4) 4).symm
  have htoNat : ∀ n ≤ 2 * s.length + 8, (BitVec.ofNat 64 n).toNat = n := fun n hn => by
    rw [BitVec.toNat_ofNat, Nat.mod_eq_of_lt (by omega)]
  -- The memory when the name has been copied.
  obtain ⟨m₁, hm₁⟩ : ∃ m₁, memcpy (withHeader s p) (p + 4#64) s.address
      (BitVec.ofNat 64 (2 * s.length)) = (p + 4#64, m₁) := ⟨_, rfl⟩
  have hmoved : Moved (withHeader s p) (p + 4#64) s.address (2 * s.length) m₁ := by
    have h := @moved_memcpy (withHeader s p) (p + 4#64) s.address (BitVec.ofNat 64 (2 * s.length))
    rw [htoNat _ (by omega), hm₁] at h
    exact h fun i hi hmem => hfresh i hi (region_add_subset (by omega) hlt hmem)
  have hlow : m₁ (p + 2#64) = lengthLow (2 * s.length) := by
    rw [hmoved.others _ (header_not_mem s hlt p (by decide : 2 < 4))]
    simp [withHeader, writeHeader]
  have hhigh : m₁ (p + 3#64) = lengthHigh (2 * s.length) := by
    rw [hmoved.others _ (header_not_mem s hlt p (by decide : 3 < 4))]
    simp [withHeader, writeHeader]
  refine ⟨_, ?_, built_of_parts s hlt hfresh hmoved rfl⟩
  unfold fileDevicePath
  rw [if_pos hlocate]
  simp only [hname, hnode, hsize, hallocate, memset_eq_fill, htoNat (2 * s.length + 8) le_rfl]
  have hm₁' : memcpy (writeHeader (fill m p (2 * s.length + 8) ((0#32).setWidth 8)) p mediaDevicePath
      mediaFilePath ((BitVec.ofNat 64 (2 * s.length + 4) &&& 0xff#64).setWidth 8)
      ((BitVec.ofNat 64 (2 * s.length + 4) >>> 8).setWidth 8)) (p + sizeOfFilepathDevicePath) s.address
      (BitVec.ofNat 64 (2 * s.length)) = (p + 4#64, m₁) := hm₁
  rw [hm₁']
  dsimp only
  rw [hlow, hhigh, add_length hfits]
  rfl

/-! ### The path -/

/-- The bytes are parsed as one node for the name, and the end of the path. -/
theorem parsePath_buffer (s : Char16String m) (hfits : 2 * s.length + 4 < 2 ^ 16) :
    parsePath (buffer s) = some ([⟨mediaDevicePath, mediaFilePath, s.bytes⟩], []) := by
  have hlength : (lengthLow (2 * s.length)).toNat + 2 ^ 8 * (lengthHigh (2 * s.length)).toNat =
      s.bytes.length + 4 := by
    rw [toNat_length hfits, Char16String.bytes, length_bytes]
  rw [buffer, parsePath_cons _ hlength (by decide), parsePath_end]
  rfl

/-- The buffer at `p` has exactly one node, with the null-terminated name, and then the end of the
path; nothing else was written. -/
structure EncodesName (s : Char16String m) (p : BitVec 64) (m' : ByteMemory 64) : Prop where
  inside : ∀ x ∉ Region p (2 * s.length + 8), m' x = m x
  path : ∃ rest, parsePath (bytes m' p (2 * s.length + 8)) =
    some ([⟨mediaDevicePath, mediaFilePath, s.bytes ++ [0#8, 0#8]⟩], rest)

theorem Built.not_encodesName {s : Char16String m} {p : BitVec 64} {m' : ByteMemory 64}
    (h : Built s p m') (hfits : 2 * s.length + 4 < 2 ^ 16) : ¬EncodesName s p m' := by
  rintro ⟨-, rest, hpath⟩
  rw [h.bytes, parsePath_buffer s hfits, Option.some.injEq, Prod.mk.injEq, List.cons.injEq,
    Node.mk.injEq] at hpath
  have hlength := congrArg List.length hpath.1.1.2.2
  rw [List.length_append] at hlength
  exact Nat.ne_of_lt (Nat.lt_add_of_pos_right (by decide)) hlength

/-- **No name is encoded with its null character.**  The buffer stays inside the allocation and has one
node and the end of the path, but the node has only the characters before the null character. -/
theorem fileDevicePath_not_encodesName (services : BootServices) (s : Char16String m)
    (hfits : 2 * s.length + 4 < 2 ^ 16) (hlocate : services.locateProtocol = true) {p : BitVec 64}
    (hallocate : services.allocatePool (BitVec.ofNat 64 (2 * s.length + 8)) = some p)
    (hfresh : ∀ i < 2 * s.length, s.address + BitVec.ofNat 64 i ∉ Region p (2 * s.length + 8)) :
    ∃ m', fileDevicePath services m s = some (p, m') ∧
      (∀ x ∉ Region p (2 * s.length + 8), m' x = m x) ∧
      parsePath (bytes m' p (2 * s.length + 8)) =
        some ([⟨mediaDevicePath, mediaFilePath, s.bytes⟩], []) ∧
      ¬EncodesName s p m' := by
  obtain ⟨m', hrun, hbuilt⟩ := fileDevicePath_spec services s hfits hlocate hallocate hfresh
  refine ⟨m', hrun, hbuilt.others, ?_, hbuilt.not_encodesName hfits⟩
  rw [hbuilt.bytes, parsePath_buffer s hfits]

/-! ### A name of one character -/

/-- The string "A" at 0x1000. -/
def oneCharacter (a : BitVec 64) : BitVec 8 := if a = 0x1000#64 then 0x41#8 else 0#8

def oneCharacterName : Char16String oneCharacter := ⟨0x1000#64, 1, by decide⟩

theorem length_oneCharacterName : oneCharacterName.length = 1 :=
  (Nat.find_eq_iff _).mpr ⟨by decide, by decide⟩

/-- A pool with a buffer at 0x2000. -/
def onePool : BootServices := ⟨true, fun _ => some 0x2000#64⟩

theorem fresh_onePool : ∀ i < 2 * oneCharacterName.length,
    oneCharacterName.address + BitVec.ofNat 64 i ∉
      Region 0x2000#64 (2 * oneCharacterName.length + 8) := by
  intro i hi
  rw [length_oneCharacterName] at hi ⊢
  revert i
  simp only [mem_region]
  decide

theorem fileDevicePath_oneCharacterName :
    ∃ m', fileDevicePath onePool oneCharacter oneCharacterName = some (0x2000#64, m') ∧
      ¬EncodesName oneCharacterName 0x2000#64 m' := by
  obtain ⟨m', hrun, -, -, hnot⟩ := fileDevicePath_not_encodesName onePool oneCharacterName
    (by rw [length_oneCharacterName]; decide) rfl rfl fresh_onePool
  exact ⟨m', hrun, hnot⟩

/-- The node for "A" has only its two bytes. -/
theorem path_oneCharacterName :
    ∃ m', fileDevicePath onePool oneCharacter oneCharacterName = some (0x2000#64, m') ∧
      parsePath (bytes m' 0x2000#64 10) =
        some ([⟨mediaDevicePath, mediaFilePath, [0x41#8, 0#8]⟩], []) ∧
      ¬EncodesName oneCharacterName 0x2000#64 m' := by
  have hfits : 2 * oneCharacterName.length + 4 < 2 ^ 16 := by
    rw [length_oneCharacterName]
    decide
  obtain ⟨m', hrun, hbuilt⟩ := fileDevicePath_spec onePool oneCharacterName hfits rfl rfl fresh_onePool
  refine ⟨m', hrun, ?_, hbuilt.not_encodesName hfits⟩
  have hbytes := hbuilt.bytes
  have hname : oneCharacterName.bytes = [0x41#8, 0#8] := by
    rw [Char16String.bytes, length_oneCharacterName]
    decide
  rw [length_oneCharacterName] at hbytes
  rw [show 10 = 2 * 1 + 8 from rfl, hbytes, parsePath_buffer _ hfits, hname]

end Zpp.UefiLoader
