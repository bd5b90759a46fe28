import ZppHypervisor.X64.Pte

/-!
# Privileged registers

The part of a processor that loading the hypervisor changes and must put back, and the instructions
that change it.  What a VMX instruction answers, the carry flag, is part of the instruction here; the
processor is in VMX operation from a successful `vmxon` to `vmxoff`.
-/

namespace Zpp.X64

/-- The GDTR register values. -/
structure Gdtr where
  base : Word
  limit : BitVec 16
deriving DecidableEq

/-- The privileged registers of a processor. -/
structure Cpu where
  cr0 : Word
  cr3 : Word
  cr4 : Word
  gdtr : Gdtr
  tr : BitVec 16
  interruptFlag : Bool
  vmxOperation : Bool
deriving DecidableEq

/-- The privileged instructions. -/
inductive Instruction
  | cli
  | sti
  | movCr0 (value : Word)
  | movCr3 (value : Word)
  | movCr4 (value : Word)
  | lgdt (gdtr : Gdtr)
  | ltr (selector : BitVec 16)
  | vmxon (region : Word) (carry : Bool)
  | vmxoff
  | vmclear (region : Word) (carry : Bool)
  | vmptrld (region : Word) (carry : Bool)
  | vmlaunch
deriving DecidableEq

/-- The effect of an instruction on the privileged registers. -/
def Instruction.step : Instruction → Cpu → Cpu
  | cli, c => { c with interruptFlag := false }
  | sti, c => { c with interruptFlag := true }
  | movCr0 value, c => { c with cr0 := value }
  | movCr3 value, c => { c with cr3 := value }
  | movCr4 value, c => { c with cr4 := value }
  | lgdt gdtr, c => { c with gdtr }
  | ltr selector, c => { c with tr := selector }
  | vmxon _ carry, c => { c with vmxOperation := c.vmxOperation || !carry }
  | vmxoff, c => { c with vmxOperation := false }
  | vmclear _ _, c => c
  | vmptrld _ _, c => c
  | vmlaunch, c => c

end Zpp.X64
