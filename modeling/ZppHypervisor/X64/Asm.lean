import Mathlib.Data.List.FinRange
import Mathlib.Logic.Function.Basic
import ZppHypervisor.Lib.MemoryWrites
import ZppHypervisor.X64.Pte

/-!
# Assembly

The unprivileged state of a processor and the instructions of the hypervisor's assembly functions.
`Asm.exec` executes one instruction, with `none` for a fault, and `run` a stretch of code up to a
control transfer.
-/

namespace Zpp.X64

open ByteMemory

/-! ### Registers -/

/-- The general registers, in the order of `context`. -/
inductive Gpr
  | rax
  | rbx
  | rcx
  | rdx
  | rsp
  | rbp
  | rsi
  | rdi
  | r8
  | r9
  | r10
  | r11
  | r12
  | r13
  | r14
  | r15
deriving DecidableEq

/-- The segment registers, in the order of `context`. -/
inductive Seg
  | cs
  | ds
  | es
  | fs
  | gs
  | ss
deriving DecidableEq

/-- The x87 state, as `fxsave` writes it: the control words and the register stack. -/
structure X87 where
  control : BitVec (8 * 24)
  stack : BitVec (8 * 128)
deriving DecidableEq

/-- The registers of a processor. -/
structure Registers where
  gpr : Gpr → Word
  rip : Word
  rflags : Word
  xmm : Fin 16 → BitVec (8 * 16)
  x87 : X87
  mxcsr : BitVec (8 * 4)
  seg : Seg → BitVec (8 * 2)

/-- The state of a processor, with the memory. -/
structure State extends Registers where
  memory : ByteMemory 64

/-- What differs between processors: the writable bits of `mxcsr`, and the status flags of additions and
subtractions, which no result here depends on. -/
structure Core where
  mxcsrMask : BitVec (8 * 4)
  statusFlags : Word → Word → Word

namespace State

variable (s : State)

def setGpr (r : Gpr) (value : Word) : State := { s with gpr := Function.update s.gpr r value }

def setMemory (m : ByteMemory 64) : State := { s with memory := m }

/-- Pushes a value. -/
def push {n : ℕ} (value : BitVec (8 * n)) : State :=
  (s.setGpr .rsp (s.gpr .rsp - BitVec.ofNat 64 n)).setMemory
    (s.memory.store (s.gpr .rsp - BitVec.ofNat 64 n) value)

/-- The quadword on top of the stack, at a distance. -/
def top (offset : Word) : Word := s.memory.load64 (s.gpr .rsp + offset)

/-- The status flags after an addition or a subtraction. -/
def setStatus (core : Core) (x y : Word) : State :=
  { s with rflags := (s.rflags &&& ~~~0x8d5#64) ||| (core.statusFlags x y &&& 0x8d5#64) }

end State

/-! ### Instructions -/

/-- The writes of `fxsave`. -/
def fxsaveWrites (core : Core) (s : Registers) : List Write :=
  [⟨0, 24, s.x87.control⟩, ⟨24, 4, s.mxcsr⟩, ⟨28, 4, core.mxcsrMask⟩, ⟨32, 128, s.x87.stack⟩] ++
    (List.finRange 16).map fun i => ⟨160 + 16 * i, 16, s.xmm i⟩

/-- The instructions. -/
inductive Asm
  | pushfq
  | push (r : Gpr)
  | pop (r : Gpr)
  /-- Pushes the low word of a register. -/
  | pushWord (r : Gpr)
  | mov (dst src : Gpr)
  /-- `mov dst, [base + disp]`. -/
  | load (dst base : Gpr) (disp : Word)
  /-- `mov dst, [base + disp]` for the low word of `dst`. -/
  | loadWord (dst base : Gpr) (disp : Word)
  /-- `mov [base + disp], src`. -/
  | store (base : Gpr) (disp : Word) (src : Gpr)
  | storeSeg (base : Gpr) (disp : Word) (src : Seg)
  | lea (dst base : Gpr) (disp : Word)
  | add (r : Gpr) (value : Word)
  | sub (r : Gpr) (value : Word)
  | movdqaStore (base : Gpr) (disp : Word) (src : Fin 16)
  | movdqaLoad (dst : Fin 16) (base : Gpr) (disp : Word)
  | fxsave (base : Gpr) (disp : Word)
  | fxrstor (base : Gpr) (disp : Word)
  | stmxcsr (base : Gpr) (disp : Word)
  | ldmxcsr (base : Gpr) (disp : Word)
  /-- Calls a function; the second address is that of the next instruction. -/
  | call (target next : Word)
  | jmp (target : Word)
  | ret
  | iretq

/-- The operands of `movdqa`, `fxsave` and `fxrstor` have to be aligned. -/
def Aligned (a : Word) : Prop := a.toNat % 16 = 0

instance (a : Word) : Decidable (Aligned a) := inferInstanceAs (Decidable (_ = _))

namespace Asm

/-- Executes an instruction; `none` is a fault. -/
def exec (core : Core) (s : State) : Asm → Option State
  | pushfq => some (s.push (n := 8) (s.rflags &&& 0xfcffff#64))
  | push r => some (s.push (n := 8) (s.gpr r))
  | pop r => some ((s.setGpr .rsp (s.gpr .rsp + 8#64)).setGpr r (s.top 0#64))
  | pushWord r => some (s.push (n := 2) ((s.gpr r).setWidth 16))
  | mov dst src => some (s.setGpr dst (s.gpr src))
  | load dst base disp => some (s.setGpr dst (s.memory.load64 (s.gpr base + disp)))
  | loadWord dst base disp =>
    some (s.setGpr dst
      ((s.gpr dst &&& ~~~0xffff#64) ||| (s.memory.load (s.gpr base + disp) 2).setWidth 64))
  | store base disp src =>
    some (s.setMemory (s.memory.store (s.gpr base + disp) (n := 8) (s.gpr src)))
  | storeSeg base disp src =>
    some (s.setMemory (s.memory.store (s.gpr base + disp) (s.seg src)))
  | lea dst base disp => some (s.setGpr dst (s.gpr base + disp))
  | add r value => some ((s.setGpr r (s.gpr r + value)).setStatus core (s.gpr r) value)
  | sub r value => some ((s.setGpr r (s.gpr r - value)).setStatus core (s.gpr r) value)
  | movdqaStore base disp src =>
    if Aligned (s.gpr base + disp) then
      some (s.setMemory (s.memory.store (s.gpr base + disp) (s.xmm src)))
    else none
  | movdqaLoad dst base disp =>
    if Aligned (s.gpr base + disp) then
      some { s with xmm := Function.update s.xmm dst (s.memory.load (s.gpr base + disp) 16) }
    else none
  | fxsave base disp =>
    if Aligned (s.gpr base + disp) then
      some (s.setMemory (s.memory.storeAll (s.gpr base + disp) (fxsaveWrites core s.toRegisters)))
    else none
  | fxrstor base disp =>
    if Aligned (s.gpr base + disp) then
      some
        { s with
          x87 := ⟨s.memory.load (s.gpr base + disp) 24, s.memory.load (s.gpr base + disp + 32#64) 128⟩
          mxcsr := s.memory.load (s.gpr base + disp + 24#64) 4
          xmm := fun i => s.memory.load (s.gpr base + disp + BitVec.ofNat 64 (160 + 16 * i)) 16 }
    else none
  | stmxcsr base disp => some (s.setMemory (s.memory.store (s.gpr base + disp) s.mxcsr))
  | ldmxcsr base disp => some { s with mxcsr := s.memory.load (s.gpr base + disp) 4 }
  | call target next => some { s.push (n := 8) next with rip := target }
  | jmp target => some { s with rip := target }
  | ret => some { s.setGpr .rsp (s.gpr .rsp + 8#64) with rip := s.top 0#64 }
  | iretq =>
    some
      { s.setGpr .rsp (s.top 0x18#64) with
        rip := s.top 0#64
        rflags := s.top 0x10#64
        seg := Function.update (Function.update s.seg .cs ((s.top 8#64).setWidth 16)) .ss
          ((s.top 0x20#64).setWidth 16) }

end Asm

/-- Runs instructions one after the other. -/
def run (core : Core) : List Asm → State → Option State
  | [], s => some s
  | i :: l, s => (i.exec core s).bind (run core l)

end Zpp.X64
