import ZppHypervisor.X64.Intel.EptPointer
import ZppHypervisor.X64.VirtualAddress

/-!
# Accessors of bit fields

The getters and setters of `Pte`, `Epte`, `EptPointer` and `VirtualAddress` in one table, each with the
bits that it is about.  A field has the bits that the processor takes for it, which are not always those
that its getter reads.
-/

namespace Zpp.X64

open Intel

/-- The getter and the setter of a field that has `width` bits from `first` up.  Of a value that does not
fit, `truncate` is what fits. -/
structure Accessor where
  Value : Type
  get : Word → Value
  set : Word → Value → Word
  first : ℕ
  width : ℕ
  truncate : Value → Value

namespace Accessor

variable {α : Type} (mk : Word → α) (value : α → Word)

/-- A single bit. -/
def flag (get : α → Bool) (set : α → Bool → α) (k : ℕ) : Accessor where
  Value := Bool
  get w := get (mk w)
  set w b := value (set (mk w) b)
  first := k
  width := 1
  truncate := id

/-- A number of several bits. -/
def bits {w : ℕ} (get : α → BitVec w) (set : α → BitVec w → α) (first width : ℕ) : Accessor where
  Value := BitVec w
  get w := get (mk w)
  set w v := value (set (mk w) v)
  first := first
  width := width
  truncate v := (v.setWidth width).setWidth w

/-- A number that starts from 1, although its bits start from 0. -/
def bitsFromOne (get : α → Word) (set : α → Word → α) (first width : ℕ) : Accessor where
  Value := Word
  get w := get (mk w)
  set w v := value (set (mk w) v)
  first := first
  width := width
  truncate v := ((v - 1#64).setWidth width).setWidth 64 + 1#64

end Accessor

/-! ### The fields -/

inductive Pte.Field
  | present
  | write
  | user
  | writeThrough
  | pageLevelCacheDisable
  | access
  | dirty
  | pat
  | large
  | global
  | pageNumber
  | protectionKey
  | executeDisable
deriving DecidableEq

def Pte.Field.accessor : Pte.Field → Accessor
  | present => .flag mk value Pte.present setPresent 0
  | write => .flag mk value Pte.write setWrite 1
  | user => .flag mk value Pte.user setUser 2
  | writeThrough => .flag mk value Pte.writeThrough setWriteThrough 3
  | pageLevelCacheDisable => .flag mk value Pte.pageLevelCacheDisable setPageLevelCacheDisable 4
  | access => .flag mk value Pte.access setAccess 5
  | dirty => .flag mk value Pte.dirty setDirty 6
  | pat => .flag mk value Pte.pat setPat 7
  | large => .flag mk value Pte.large setLarge 7
  | global => .flag mk value Pte.global setGlobal 8
  | pageNumber => .bits mk value Pte.pageNumber setPageNumber 12 40
  | protectionKey => .bits mk value Pte.protectionKey setProtectionKey 59 4
  | executeDisable => .flag mk value Pte.executeDisable setExecuteDisable 63

inductive Intel.Epte.Field
  | read
  | write
  | execute
  | type
  | large
  | accessed
  | executeUser
  | pageNumber
  | largePageNumber
  | suppressVe
deriving DecidableEq

def Intel.Epte.Field.accessor : Epte.Field → Accessor
  | read => .flag mk value Epte.read setRead 0
  | write => .flag mk value Epte.write setWrite 1
  | execute => .flag mk value Epte.execute setExecute 2
  | type => .bits mk value Epte.type setType 3 3
  | large => .flag mk value Epte.large setLarge 7
  | accessed => .flag mk value Epte.accessed setAccessed 8
  | executeUser => .flag mk value Epte.executeUser setExecuteUser 10
  | pageNumber => .bits mk value Epte.pageNumber setPageNumber 12 40
  | largePageNumber => .bits mk value Epte.largePageNumber setLargePageNumber 21 31
  | suppressVe => .flag mk value Epte.suppressVe setSuppressVe 63

inductive Intel.EptPointer.Field
  | memoryType
  | pageWalkLength
  | accessAndDirty
  | pageNumber
deriving DecidableEq

def Intel.EptPointer.Field.accessor : EptPointer.Field → Accessor
  | memoryType => .bits mk value EptPointer.memoryType setMemoryType 0 3
  | pageWalkLength => .bitsFromOne mk value EptPointer.pageWalkLength setPageWalkLength 3 3
  | accessAndDirty => .flag mk value EptPointer.accessAndDirty setAccessAndDirty 6
  | pageNumber => .bits mk value EptPointer.pageNumber setPageNumber 12 40

inductive VirtualAddress.Field
  | offset
  | largeOffset
  | hugeOffset
  | pte
  | pde
  | pdpte
  | pml4e
deriving DecidableEq

def VirtualAddress.Field.accessor : VirtualAddress.Field → Accessor
  | offset => .bits mk value VirtualAddress.offset setOffset 0 12
  | largeOffset => .bits mk value VirtualAddress.largeOffset setLargeOffset 0 21
  | hugeOffset => .bits mk value VirtualAddress.hugeOffset setHugeOffset 0 30
  | pte => .bits mk value VirtualAddress.pte setPte 12 9
  | pde => .bits mk value VirtualAddress.pde setPde 21 9
  | pdpte => .bits mk value VirtualAddress.pdpte setPdpte 30 9
  | pml4e => .bits mk value VirtualAddress.pml4e setPml4e 39 9

/-- The fields of the four classes. -/
inductive Field
  | pte (f : Pte.Field)
  | epte (f : Epte.Field)
  | eptPointer (f : EptPointer.Field)
  | virtualAddress (f : VirtualAddress.Field)
deriving DecidableEq

namespace Field

def accessor : Field → Accessor
  | pte f => f.accessor
  | epte f => f.accessor
  | eptPointer f => f.accessor
  | virtualAddress f => f.accessor

/-- Fields of one class. -/
def SameClass : Field → Field → Prop
  | pte _, pte _ => True
  | epte _, epte _ => True
  | eptPointer _, eptPointer _ => True
  | virtualAddress _, virtualAddress _ => True
  | _, _ => False

/-- Fields that have no bit in common. -/
def Disjoint (f g : Field) : Prop :=
  f.accessor.first + f.accessor.width ≤ g.accessor.first ∨
    g.accessor.first + g.accessor.width ≤ f.accessor.first

instance (f g : Field) : Decidable (f.Disjoint g) := inferInstanceAs (Decidable (_ ∨ _))

/-- What independence says about setting the field of `w` to `v`. -/
structure Independent (f : Field) (w : Word) (v : f.accessor.Value) : Prop where
  get_set : f.accessor.get (f.accessor.set w v) = f.accessor.truncate v
  frame : ∀ i, i < f.accessor.first ∨ f.accessor.first + f.accessor.width ≤ i →
    (f.accessor.set w v).getLsbD i = w.getLsbD i
  set_set : ∀ v', f.accessor.set (f.accessor.set w v) v' = f.accessor.set w v'
  comm : ∀ g : Field, f.SameClass g → f.Disjoint g → ∀ u,
    g.accessor.set (f.accessor.set w v) u = f.accessor.set (g.accessor.set w u) v

/-- Not the access and dirty bit of an EPT pointer, not a fourth bit of a memory type that changes bit 6
of an entry, and not a protection key that changes bit 58, which is below its bits. -/
def Fits : (f : Field) → Word → f.accessor.Value → Prop
  | .eptPointer .accessAndDirty, _, _ => False
  | .epte .type, w, (v : MemoryType) => v.getLsbD 3 = true → w.getLsbD 6 = true
  | .pte .protectionKey, w, (v : Word) => v.getLsbD 0 = w.getLsbD 58
  | _, _, _ => True

end Field

end Zpp.X64
