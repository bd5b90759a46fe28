import ZppHypervisor.X64.Intel.EptWalk

/-!
# EPT misconfigurations

A walk that comes to a present entry with a reserved bit, a permission it cannot have or a reserved
memory type ends in an EPT misconfiguration, as the processor manual defines it, whatever the access.
`width` is the width of physical addresses.  Nothing here is translated from the program.
-/

namespace Zpp.X64.Intel

/-- The levels of the tables. -/
inductive EptLevel
  | pml4e
  | pdpte
  | pde
  | pte
deriving DecidableEq, Repr

namespace EptLevel

/-- Whether an entry maps a page itself. -/
def maps (e : Epte) : EptLevel → Bool
  | pml4e => false
  | pdpte => e.large
  | pde => e.large
  | pte => true

/-- The reserved bits below the address, and those of the address below the page. -/
def reserved (e : Epte) : EptLevel → Word
  | pml4e => 0xf8#64
  | pdpte => if e.large then 0x3ffff000#64 else 0x78#64
  | pde => if e.large then 0x1ff000#64 else 0x78#64
  | pte => 0#64

end EptLevel

/-- An entry with which the processor can translate; it need not support execute-only pages. -/
structure Epte.Configured (width : ℕ) (level : EptLevel) (e : Epte) : Prop where
  writeOnly : e.write = true → e.read = true
  executeOnly : e.execute = true ∨ e.executeUser = true → e.read = true
  reserved : e.value &&& level.reserved e = 0#64
  address : (e.value &&& 0xffffffffff000#64).toNat < 2 ^ width
  type : level.maps e = true → e.type ∈ [MemoryType.uncachable, .writeCombining, .writeThrough,
    .writeProtected, .writeBack]

/-- The entries that the walk of a guest-physical address comes to. -/
def eptEntries (mem : ByteMemory 64) (root gpa : Word) : List (EptLevel × Epte) :=
  let a : VirtualAddress := ⟨gpa⟩
  let epml4e := epteAt mem root a.pml4e
  (.pml4e, epml4e) ::
    if !epml4e.present then []
    else
      let epdpte := epteAt mem (tableAddress epml4e.value) a.pdpte
      (.pdpte, epdpte) ::
        if !epdpte.present || epdpte.large then []
        else
          let epde := epteAt mem (tableAddress epdpte.value) a.pde
          (.pde, epde) ::
            if !epde.present || epde.large then []
            else [(.pte, epteAt mem (tableAddress epde.value) a.pte)]

/-- The walk comes to an entry with which the processor cannot translate. -/
def EptMisconfiguration (mem : ByteMemory 64) (root gpa : Word) (width : ℕ) : Prop :=
  ∃ x ∈ eptEntries mem root gpa, x.2.present = true ∧ ¬ x.2.Configured width x.1

variable {mem : ByteMemory 64} {root gpa : Word} {width : ℕ}

/-- A walk none of whose entries is misconfigured, from the root down. -/
theorem not_eptMisconfiguration {epml4e epdpte epde epte : Epte}
    (h1 : epteAt mem root (VirtualAddress.mk gpa).pml4e = epml4e)
    (hpml4e : epml4e.present = true → epml4e.Configured width .pml4e ∧
      epteAt mem (tableAddress epml4e.value) (VirtualAddress.mk gpa).pdpte = epdpte)
    (hpdpte : epml4e.present = true → epdpte.present = true → epdpte.Configured width .pdpte ∧
      (epdpte.large = false →
        epteAt mem (tableAddress epdpte.value) (VirtualAddress.mk gpa).pde = epde))
    (hpde : epml4e.present = true → epdpte.large = false → epde.present = true →
      epde.Configured width .pde ∧ (epde.large = false →
        epteAt mem (tableAddress epde.value) (VirtualAddress.mk gpa).pte = epte))
    (hpte : epml4e.present = true → epde.large = false → epte.present = true →
      epte.Configured width .pte) :
    ¬ EptMisconfiguration mem root gpa width := by
  have hstops : ∀ e : Epte, ¬ (e.present = true ∧ e.large = false) →
      (!e.present || e.large) = true := by
    intro e he
    cases hp : e.present <;> cases hl : e.large <;> simp_all
  rintro ⟨x, hx, hpresent, hnot⟩
  rw [eptEntries] at hx
  dsimp only at hx
  rw [h1] at hx
  rcases List.mem_cons.mp hx with rfl | hx
  · exact hnot (hpml4e hpresent).1
  by_cases hp1 : epml4e.present = true
  swap
  · rw [if_pos (by simpa using hp1)] at hx
    exact List.not_mem_nil hx
  rw [if_neg (by simpa using hp1), (hpml4e hp1).2] at hx
  rcases List.mem_cons.mp hx with rfl | hx
  · exact hnot (hpdpte hp1 hpresent).1
  by_cases hp2 : epdpte.present = true ∧ epdpte.large = false
  swap
  · rw [if_pos (hstops _ hp2)] at hx
    exact List.not_mem_nil hx
  rw [if_neg (by simp [hp2.1, hp2.2]), (hpdpte hp1 hp2.1).2 hp2.2] at hx
  rcases List.mem_cons.mp hx with rfl | hx
  · exact hnot (hpde hp1 hp2.2 hpresent).1
  by_cases hp3 : epde.present = true ∧ epde.large = false
  swap
  · rw [if_pos (hstops _ hp3)] at hx
    exact List.not_mem_nil hx
  rw [if_neg (by simp [hp3.1, hp3.2]), (hpde hp1 hp2.2 hp3.1).2 hp3.2, List.mem_singleton] at hx
  subst hx
  exact hnot (hpte hp1 hp3.2 hpresent)

end Zpp.X64.Intel
