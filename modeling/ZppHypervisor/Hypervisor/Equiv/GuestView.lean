import ZppHypervisor.Hypervisor.Equiv.Protection

/-!
# What a guest sees of guarded tables

Under the root that a launch gives the processor, an address below 512 GiB is translated to itself and
is accessible unless it lies in a protected frame, and no address from 512 GiB on is mapped
(`Guarded.isolates`).
-/

namespace Zpp.Hypervisor

open X64 X64.Intel Loop

/-- What the tables under `root` let a guest do. -/
structure Isolates (phys : ByteMemory 64) (root : Word) (m : Module) (layout : EptLayout)
    (os : Word → Word) (type : Region → MemoryType) : Prop where
  reachable : ∀ a : Word, a.toNat < 2 ^ 39 → ¬ InProtectedFrame m layout os a →
    ∃ w, eptWalk phys root a = some w ∧ w.physical = a ∧ w.leaf.type = type (region a) ∧
      eptAccess phys root a = ⟨true, true, true, true⟩
  denied : ∀ a : Word, a.toNat < 2 ^ 39 → InProtectedFrame m layout os a →
    eptAccess phys root a = ⟨false, false, false, false⟩
  unmapped : ∀ a : Word, 2 ^ 39 ≤ a.toNat → a.toNat < 2 ^ 48 → eptWalk phys root a = none

/-- An entry of zeros is not present. -/
theorem presentEpte_zero {phys : ByteMemory 64} {table index : Word}
    (h : epteAt phys table index = ⟨0#64⟩) : presentEpte phys table index = none := by
  rw [presentEpte, h]
  rfl

theorem eptAccess_of_unmapped {phys : ByteMemory 64} {root a : Word}
    (h : eptWalk phys root a = none) : eptAccess phys root a = ⟨false, false, false, false⟩ := by
  rw [eptAccess, h]

section Guarded

variable {phys : ByteMemory 64} {layout : Layout} {m : Module} {os : Word → Word} {guestCr3 : Word}
  {mtrrs : Vector Mtrr 8} {T : Tables}

/-- The upper entries of the root map nothing. -/
theorem Guarded.eptWalk_unmapped (h : Guarded layout m os guestCr3 mtrrs T)
    (hphys : EptInMemory phys os layout.ept T.ept) {a : Word} (hlo : 2 ^ 39 ≤ a.toNat)
    (hhi : a.toNat < 2 ^ 48) : eptWalk phys (os layout.ept.epml4) a = none := by
  have hindex : (VirtualAddress.mk a).pml4e.toNat = a.toNat / 2 ^ 39 := by
    rw [VirtualAddress.pml4e, PageTable.toNat_get_index]
    dsimp only
    omega
  have hlt : a.toNat / 2 ^ 39 < 512 := by omega
  have hne : (⟨a.toNat / 2 ^ 39, hlt⟩ : Fin 512) ≠ 0 := by
    intro heq
    have hval := congrArg Fin.val heq
    rw [Fin.val_zero] at hval
    dsimp only at hval
    omega
  have hentry := presentEpte_zero ((epteAt_eq hphys.epml4 hindex).trans (h.unused _ hne))
  simp only [eptWalk, hentry, Option.bind_eq_bind, Option.bind_none]

/-- The tables keep the guest from the protected frames and change nothing else. -/
theorem Guarded.isolates (h : Guarded layout m os guestCr3 mtrrs T) (hos : FrameMap m (2 ^ 39) os)
    (htables : m.Holds layout.ept.epml4 EptLayout.tablesSize)
    (hunprotected : m.Holds layout.ept.unprotectedMemory unprotectedMemorySize)
    (hphys : EptInMemory phys os layout.ept T.ept) :
    Isolates phys (os layout.ept.epml4) m layout.ept os (initialType mtrrs) := by
  obtain ⟨owner, hept⟩ := h.ept
  have hdenied : ∀ a : Word, a.toNat < 2 ^ 39 →
      (deniedPages m layout.ept os (region a) (Ept.eptIndex a) ↔
        InProtectedFrame m layout.ept os a) := fun a ha => denied_iff hos hunprotected ha
  constructor
  · intro a ha hreach
    obtain ⟨w, upper, hw, hentries, hupper, hphysical, htype, -, hallowed⟩ :=
      hept.eptWalk hos htables hphys ha
    exact ⟨w, hw, hphysical, htype,
      eptAccess_eq hw hentries hupper (hallowed fun hd => hreach ((hdenied a ha).mp hd))⟩
  · intro a ha hprotected
    obtain ⟨w, upper, hw, hentries, hupper, -, -, hleaf, -⟩ := hept.eptWalk hos htables hphys ha
    exact eptAccess_eq hw hentries hupper (hleaf ((hdenied a ha).mpr hprotected))
  · exact fun a hlo hhi => h.eptWalk_unmapped hphys hlo hhi

end Guarded

/-! ### Frames out of reach -/

/-- The guest has no access to the frame. -/
def OutOfReach (phys : ByteMemory 64) (root frame : Word) : Prop :=
  ∀ a, pageOf a = frame → eptAccess phys root a = ⟨false, false, false, false⟩

/-- Two ranges of bytes are apart. -/
def Apart (a : Word) (n : ℕ) (b : Word) (k : ℕ) : Prop :=
  a.toNat + n ≤ b.toNat ∨ b.toNat + k ≤ a.toNat

section Frames

variable {m : Module} {layout : EptLayout} {os : Word → Word}

/-- A page of a range apart from the unprotected memory is not one of it. -/
theorem not_inUnprotectedMemory {a : Word} {n k : ℕ} (ha : m.Holds a n)
    (hunprotected : m.Holds layout.unprotectedMemory unprotectedMemorySize)
    (hapart : Apart a n layout.unprotectedMemory unprotectedMemorySize) (hk : k * 0x1000 < n) :
    ¬ InUnprotectedMemory layout (a + BitVec.ofNat 64 k * 0x1000#64) := by
  rintro ⟨i, hi, heq⟩
  have hi' : i * 0x1000 < unprotectedMemorySize :=
    (Nat.lt_div_iff_mul_lt_of_dvd (by decide) (by decide)).mp hi
  have hnum := congrArg BitVec.toNat heq
  rw [EptLayout.unprotectedPage, pageSize, ha.toNat_page hk, hunprotected.toNat_page hi'] at hnum
  have halign := ha.aligned
  have halign' := hunprotected.aligned
  unfold Apart at hapart
  generalize unprotectedMemorySize = size at hapart hi'
  omega

/-- A protected page has a frame out of the reach of the guest. -/
theorem Isolates.outOfReach {phys : ByteMemory 64} {root : Word} {type : Region → MemoryType}
    (h : Isolates phys root m layout os type) (hos : FrameMap m (2 ^ 39) os) {p : Word}
    (hp : m.HasPage p) (hnot : ¬ InUnprotectedMemory layout p) : OutOfReach phys root (os p) := by
  intro a ha
  have hlt := hos.lt p hp
  have haligned := hos.aligned p hp
  have hnum := congrArg BitVec.toNat ha
  rw [toNat_pageOf] at hnum
  exact h.denied a (by omega) ⟨p, hp, hnot, ha⟩

/-- The pages of a range of the module apart from the unprotected memory. -/
theorem Isolates.outOfReach_range {phys : ByteMemory 64} {root : Word} {type : Region → MemoryType}
    (h : Isolates phys root m layout os type) (hos : FrameMap m (2 ^ 39) os)
    (hunprotected : m.Holds layout.unprotectedMemory unprotectedMemorySize) {a : Word} {n k : ℕ}
    (ha : m.Holds a n) (hn : n % 0x1000 = 0)
    (hapart : Apart a n layout.unprotectedMemory unprotectedMemorySize) (hk : k * 0x1000 < n) :
    OutOfReach phys root (os (a + BitVec.ofNat 64 k * 0x1000#64)) :=
  h.outOfReach hos (ha.hasPage hk hn) (not_inUnprotectedMemory ha hunprotected hapart hk)

end Frames

/-- The parts of the object that no guest may touch lie in the module, apart from its unprotected
memory. -/
structure ObjectPlaced (layout : Layout) (m : Module) : Prop where
  hostPageTable : m.Holds layout.hostPageTable PageTable.sizeOf
  tables : m.Holds layout.ept.epml4 EptLayout.tablesSize
  unprotectedMemory : m.Holds layout.ept.unprotectedMemory unprotectedMemorySize
  vmx : m.Holds layout.vmx (maxCpus * 0x1000)
  vmxVmcs : m.Holds layout.vmxVmcs (maxCpus * 0x1000)
  msrBitmap : m.Holds layout.msrBitmap 0x1000
  hostPageTable_apart : Apart layout.hostPageTable PageTable.sizeOf layout.ept.unprotectedMemory
    unprotectedMemorySize
  tables_apart : Apart layout.ept.epml4 EptLayout.tablesSize layout.ept.unprotectedMemory
    unprotectedMemorySize
  vmx_apart : Apart layout.vmx (maxCpus * 0x1000) layout.ept.unprotectedMemory unprotectedMemorySize
  vmxVmcs_apart : Apart layout.vmxVmcs (maxCpus * 0x1000) layout.ept.unprotectedMemory
    unprotectedMemorySize
  msrBitmap_apart : Apart layout.msrBitmap 0x1000 layout.ept.unprotectedMemory unprotectedMemorySize

/-- The page of a CPU in an array of pages. -/
theorem vmxAt_eq (layout : Layout) (i : ℕ) :
    layout.vmxAt (BitVec.ofNat 64 i) = layout.vmx + BitVec.ofNat 64 i * 0x1000#64 ∧
      layout.vmxVmcsAt (BitVec.ofNat 64 i) = layout.vmxVmcs + BitVec.ofNat 64 i * 0x1000#64 := by
  rw [Layout.vmxAt, Layout.vmxVmcsAt, BitVec.mul_comm]
  exact ⟨rfl, rfl⟩

end Zpp.Hypervisor
