import ZppHypervisor.X64.Asm

/-!
# Execution contexts (`context.h`, `asm.h`, `asm.cpp`)

The context structure in memory, and the functions that capture the registers into one and restore
them from one, instruction by instruction.
-/

namespace Zpp.X64

open ByteMemory

/-! ### The structure -/

/-- The unprivileged state of the processor execution context.  Besides the x87 state, the `fxsave`
image has `mxcsr` and the xmm registers a second time. -/
@[ext]
structure Context where
  gpr : Gpr → Word
  rip : Word
  rflags : Word
  xmm : Fin 16 → BitVec (8 * 16)
  x87 : X87
  fxMxcsr : BitVec (8 * 4)
  fxXmm : Fin 16 → BitVec (8 * 16)
  mxcsr : BitVec (8 * 4)
  seg : Seg → BitVec (8 * 2)

/-- `sizeof(context)`. -/
def contextSize : ℕ := 0x3a0

/-- The offset of a general register. -/
def Gpr.offset : Gpr → ℕ
  | rax => 0x00
  | rbx => 0x08
  | rcx => 0x10
  | rdx => 0x18
  | rsp => 0x20
  | rbp => 0x28
  | rsi => 0x30
  | rdi => 0x38
  | r8 => 0x40
  | r9 => 0x48
  | r10 => 0x50
  | r11 => 0x58
  | r12 => 0x60
  | r13 => 0x68
  | r14 => 0x70
  | r15 => 0x78

/-- The offset of an xmm register. -/
def xmmOffset (i : Fin 16) : ℕ := 0x90 + 16 * i

/-- The offset of a segment selector. -/
def Seg.offset : Seg → ℕ
  | cs => 0x394
  | ds => 0x396
  | es => 0x398
  | fs => 0x39a
  | gs => 0x39c
  | ss => 0x39e

namespace Context

/-- The context at an address. -/
def read (m : ByteMemory 64) (p : Word) : Context where
  gpr r := m.load64 (p + BitVec.ofNat 64 r.offset)
  rip := m.load64 (p + 0x80#64)
  rflags := m.load64 (p + 0x88#64)
  xmm i := m.load (p + BitVec.ofNat 64 (xmmOffset i)) 16
  x87 := ⟨m.load (p + 0x190#64) 24, m.load (p + 0x1b0#64) 128⟩
  fxMxcsr := m.load (p + 0x1a8#64) 4
  fxXmm i := m.load (p + BitVec.ofNat 64 (0x190 + (160 + 16 * i))) 16
  mxcsr := m.load (p + 0x390#64) 4
  seg r := m.load (p + BitVec.ofNat 64 r.offset) 2

end Context

/-! ### Capturing -/

/-- What the two capturing functions have in common: the context pointer is in `rax`. -/
def saveRegisters : List Asm :=
  [.load .rcx .rbp (-0x8#64), -- Restore rax to rcx.
    .store .rax 0x0#64 .rcx, -- context->rax.
    .store .rax 0x8#64 .rbx, -- context->rbx.
    .load .rcx .rbp (-0x10#64), -- Restore rcx to rcx.
    .store .rax 0x10#64 .rcx, -- context->rcx.
    .store .rax 0x18#64 .rdx, -- context->rdx.
    .lea .rcx .rbp 0x18#64, -- Restore rsp to rcx.
    .store .rax 0x20#64 .rcx, -- context->rsp.
    .load .rcx .rbp 0x0#64, -- Restore rbp to rcx.
    .store .rax 0x28#64 .rcx, -- context->rbp.
    .store .rax 0x30#64 .rsi, -- context->rsi.
    .store .rax 0x38#64 .rdi, -- context->rdi.
    .store .rax 0x40#64 .r8, -- context->r8.
    .store .rax 0x48#64 .r9, -- context->r9.
    .store .rax 0x50#64 .r10, -- context->r10.
    .store .rax 0x58#64 .r11, -- context->r11.
    .store .rax 0x60#64 .r12, -- context->r12.
    .store .rax 0x68#64 .r13, -- context->r13.
    .store .rax 0x70#64 .r14, -- context->r14.
    .store .rax 0x78#64 .r15, -- context->r15.
    .load .rcx .rbp 0x10#64, -- Restore return address to rcx.
    .store .rax 0x80#64 .rcx, -- context->rip.
    .load .rcx .rbp 0x8#64, -- Restore rflags to rcx.
    .store .rax 0x88#64 .rcx, -- context->rflags.
    .movdqaStore .rax 0x90#64 0, -- context->xmm0.
    .movdqaStore .rax 0xa0#64 1, -- context->xmm1.
    .movdqaStore .rax 0xb0#64 2, -- context->xmm2.
    .movdqaStore .rax 0xc0#64 3, -- context->xmm3.
    .movdqaStore .rax 0xd0#64 4, -- context->xmm4.
    .movdqaStore .rax 0xe0#64 5, -- context->xmm5.
    .movdqaStore .rax 0xf0#64 6, -- context->xmm6.
    .movdqaStore .rax 0x100#64 7, -- context->xmm7.
    .movdqaStore .rax 0x110#64 8, -- context->xmm8.
    .movdqaStore .rax 0x120#64 9, -- context->xmm9.
    .movdqaStore .rax 0x130#64 10, -- context->xmm10.
    .movdqaStore .rax 0x140#64 11, -- context->xmm11.
    .movdqaStore .rax 0x150#64 12, -- context->xmm12.
    .movdqaStore .rax 0x160#64 13, -- context->xmm13.
    .movdqaStore .rax 0x170#64 14, -- context->xmm14.
    .movdqaStore .rax 0x180#64 15, -- context->xmm15.
    .fxsave .rax 0x190#64, -- context->fxsave.
    .stmxcsr .rax 0x390#64, -- context->mxcsr.
    .storeSeg .rax 0x394#64 .cs, -- context->cs.
    .storeSeg .rax 0x396#64 .ds, -- context->ds.
    .storeSeg .rax 0x398#64 .es, -- context->es.
    .storeSeg .rax 0x39a#64 .fs, -- context->fs.
    .storeSeg .rax 0x39c#64 .gs, -- context->gs.
    .storeSeg .rax 0x39e#64 .ss] -- context->ss.

/-- The beginning of both: `rax` and `rcx` are freed. -/
def freeRegisters : List Asm :=
  [.pushfq, -- rflags is at rbp+0x8.
    .push .rbp, -- rbp is at rbp.
    .mov .rbp .rsp, -- Fix rbp.
    .push .rax, -- rbp-0x8.
    .push .rcx] -- rbp-0x10.

/-- The end of both. -/
def returnToCaller : List Asm :=
  [.add .rsp 0x10#64, -- Skip rcx and rax on the stack.
    .pop .rbp, -- Restore rbp.
    .add .rsp 0x8#64, -- Skip rflags on the stack.
    .ret]

/-- `capture_context`. -/
def captureContext : List Asm :=
  freeRegisters ++ .mov .rax .rdi :: (saveRegisters ++ returnToCaller)

/-- `zpp_x64_capture_context_into_stack`. -/
def captureContextIntoStack : List Asm :=
  freeRegisters ++ .lea .rax .rbp 0x18#64 :: (saveRegisters ++ returnToCaller)

/-! ### Restoring -/

/-- `restore_context`. -/
def restoreContext : List Asm :=
  [.mov .rax .rdi, -- The context parameter.
    .load .rbx .rax 0x8#64, -- context->rbx.
    .load .rdx .rax 0x18#64, -- context->rdx.
    .load .rbp .rax 0x28#64, -- context->rbp.
    .load .rsi .rax 0x30#64, -- context->rsi.
    .load .rdi .rax 0x38#64, -- context->rdi.
    .load .r8 .rax 0x40#64, -- context->r8.
    .load .r9 .rax 0x48#64, -- context->r9.
    .load .r10 .rax 0x50#64, -- context->r10.
    .load .r11 .rax 0x58#64, -- context->r11.
    .load .r12 .rax 0x60#64, -- context->r12.
    .load .r13 .rax 0x68#64, -- context->r13.
    .load .r14 .rax 0x70#64, -- context->r14.
    .load .r15 .rax 0x78#64, -- context->r15.
    .ldmxcsr .rax 0x390#64, -- context->mxcsr.
    .fxrstor .rax 0x190#64, -- context->fxsave.
    .movdqaLoad 0 .rax 0x90#64, -- context->xmm0.
    .movdqaLoad 1 .rax 0xa0#64, -- context->xmm1.
    .movdqaLoad 2 .rax 0xb0#64, -- context->xmm2.
    .movdqaLoad 3 .rax 0xc0#64, -- context->xmm3.
    .movdqaLoad 4 .rax 0xd0#64, -- context->xmm4.
    .movdqaLoad 5 .rax 0xe0#64, -- context->xmm5.
    .movdqaLoad 6 .rax 0xf0#64, -- context->xmm6.
    .movdqaLoad 7 .rax 0x100#64, -- context->xmm7.
    .movdqaLoad 8 .rax 0x110#64, -- context->xmm8.
    .movdqaLoad 9 .rax 0x120#64, -- context->xmm9.
    .movdqaLoad 10 .rax 0x130#64, -- context->xmm10.
    .movdqaLoad 11 .rax 0x140#64, -- context->xmm11.
    .movdqaLoad 12 .rax 0x150#64, -- context->xmm12.
    .movdqaLoad 13 .rax 0x160#64, -- context->xmm13.
    .movdqaLoad 14 .rax 0x170#64, -- context->xmm14.
    .movdqaLoad 15 .rax 0x180#64, -- context->xmm15.
    .loadWord .rcx .rax 0x39e#64, -- Load context->ss into cx.
    .sub .rsp 0x6#64, -- Align stack for stack segment.
    .pushWord .rcx, -- Push context->ss.
    .load .rcx .rax 0x20#64, -- Load context->rsp into rcx.
    .push .rcx, -- Push context->rsp.
    .load .rcx .rax 0x88#64, -- Load context->rflags into rcx.
    .push .rcx, -- Push context->rflags.
    .loadWord .rcx .rax 0x394#64, -- Load context->cs into cx.
    .sub .rsp 0x6#64, -- Align stack for code segment.
    .pushWord .rcx, -- Push context->cs.
    .load .rcx .rax 0x80#64, -- Load context->rip into rcx.
    .push .rcx, -- Push context->rip as return address.
    .load .rcx .rax 0x0#64, -- Load context->rax into rcx.
    .push .rcx, -- Push context->rax.
    .load .rcx .rax 0x10#64, -- Load context->rcx.
    .pop .rax, -- Pop context->rax.
    .iretq] -- Pop context->ss, context->rsp, context->rflags, context->cs, context->rip.

end Zpp.X64
