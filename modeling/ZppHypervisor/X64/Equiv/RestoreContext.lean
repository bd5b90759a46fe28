import ZppHypervisor.X64.Equiv.Context

/-!
# Restoring contexts

`restoreContext` gives the registers the values that they have in the context
(`restoreContext_spec`).  It needs forty-eight bytes of stack, from `q` up, outside the context.
-/

namespace Zpp.X64

open ByteMemory

variable (core : Core)

/-! ### Loads -/

/-- `mov r, [rax+offset]`, for a list of registers. -/
theorem run_loads (rs : List Gpr) (hrs : .rax ∉ rs) (s : State) :
    ∃ gpr, run core (rs.map fun r => .load r .rax (BitVec.ofNat 64 r.offset)) s =
        some { s with gpr := gpr } ∧
      (∀ r ∈ rs, gpr r = s.memory.load64 (s.gpr .rax + BitVec.ofNat 64 r.offset)) ∧
      ∀ r ∉ rs, gpr r = s.gpr r := by
  induction rs generalizing s with
  | nil => exact ⟨s.gpr, rfl, nofun, fun _ _ => rfl⟩
  | cons r rs ih =>
    obtain ⟨hr, hrs⟩ := not_or.mp (mt List.mem_cons.mpr hrs)
    obtain ⟨gpr, hrun, hloaded, hother⟩ := ih hrs
      (s.setGpr r (s.memory.load64 (s.gpr .rax + BitVec.ofNat 64 r.offset)))
    rw [State.setGpr_gpr_of_ne s hr] at hloaded
    refine ⟨gpr, hrun, fun r' hr' => ?_, fun r' hr' => ?_⟩
    · by_cases hmem : r' ∈ rs
      · exact hloaded r' hmem
      · obtain rfl := (List.mem_cons.mp hr').resolve_right hmem
        rw [hother r' hmem, State.setGpr_gpr_self]
    · obtain ⟨hne, hmem⟩ := not_or.mp (mt List.mem_cons.mpr hr')
      rw [hother r' hmem, State.setGpr_gpr_of_ne s hne]

/-- `movdqa xmm, [rax+offset]`, for a list of registers. -/
theorem run_xmmLoads (is : List (Fin 16)) (s : State) (hc : Aligned (s.gpr .rax)) :
    ∃ xmm, run core (is.map fun i => .movdqaLoad i .rax (BitVec.ofNat 64 (xmmOffset i))) s =
        some { s with xmm := xmm } ∧
      (∀ i ∈ is, xmm i = s.memory.load (s.gpr .rax + BitVec.ofNat 64 (xmmOffset i)) 16) ∧
      ∀ i ∉ is, xmm i = s.xmm i := by
  induction is generalizing s with
  | nil => exact ⟨s.xmm, rfl, nofun, fun _ _ => rfl⟩
  | cons i is ih =>
    have haligned : Aligned (s.gpr .rax + BitVec.ofNat 64 (xmmOffset i)) := by
      apply aligned_add hc
      unfold xmmOffset
      omega
    let s' : State :=
      { s with
        xmm := Function.update s.xmm i
          (s.memory.load (s.gpr .rax + BitVec.ofNat 64 (xmmOffset i)) 16) }
    have hexec : (Asm.movdqaLoad i .rax (BitVec.ofNat 64 (xmmOffset i))).exec core s = some s' := by
      rw [Asm.exec, if_pos haligned]
    obtain ⟨xmm, hrun, hloaded, hother⟩ := ih s' hc
    refine ⟨xmm, (run_cons_of hexec).trans hrun, fun i' hi' => ?_, fun i' hi' => ?_⟩
    · by_cases hmem : i' ∈ is
      · exact hloaded i' hmem
      · obtain rfl := (List.mem_cons.mp hi').resolve_right hmem
        rw [hother i' hmem]
        exact Function.update_self _ _ _
    · obtain ⟨hne, hmem⟩ := not_or.mp (mt List.mem_cons.mpr hi')
      rw [hother i' hmem]
      exact Function.update_of_ne hne _ _

/-! ### The frame of `iretq` -/

/-- The low word of a register after its load. -/
theorem setWidth_or_low (x : Word) (y : BitVec 16) :
    ((x &&& ~~~0xffff#64) ||| y.setWidth 64).setWidth 16 = y := by
  have hmask : ∀ i < 16, (~~~0xffff#64).getLsbD i = false := by decide
  apply BitVec.eq_of_getLsbD_eq
  intro i hi
  have hi' : i < 64 := by omega
  rw [BitVec.getLsbD_setWidth, BitVec.getLsbD_or, BitVec.getLsbD_and, BitVec.getLsbD_setWidth,
    hmask i hi, decide_eq_true hi, decide_eq_true hi', Bool.and_false, Bool.true_and,
    Bool.true_and, Bool.false_or]

/-- The state while the frame of `iretq` is pushed: the writes of `l` are on the stack, down to `k` bytes
above `q`. -/
structure Pushing (s₀ : State) (q c : Word) (k : ℕ) (l : List Write) (s : State) : Prop where
  memory : s.memory = s₀.memory.storeAll q l
  within : Within 0x30 l
  rax : s.gpr .rax = c
  rsp : s.gpr .rsp = q + BitVec.ofNat 64 k
  gpr : ∀ r, r ≠ .rcx → r ≠ .rsp → s.gpr r = s₀.gpr r
  xmm : s.xmm = s₀.xmm
  x87 : s.x87 = s₀.x87
  mxcsr : s.mxcsr = s₀.mxcsr
  seg : s.seg = s₀.seg

section

variable {s₀ s : State} {q c : Word} {k : ℕ} {l : List Write}

/-- `rcx` is free. -/
theorem Pushing.setRcx (h : Pushing s₀ q c k l s) (value : Word) :
    Pushing s₀ q c k l (s.setGpr .rcx value) where
  memory := h.memory
  within := h.within
  rax := h.rax
  rsp := h.rsp
  gpr r hrcx hrsp := (State.setGpr_gpr_of_ne s hrcx value).trans (h.gpr r hrcx hrsp)
  xmm := h.xmm
  x87 := h.x87
  mxcsr := h.mxcsr
  seg := h.seg

/-- The stack grows by some bytes. -/
theorem Pushing.sub_rsp {n : ℕ} (h : Pushing s₀ q c (k + n) l s) :
    s.gpr .rsp - BitVec.ofNat 64 n = q + BitVec.ofNat 64 k := by
  rw [h.rsp, BitVec.ofNat_add, ← BitVec.add_assoc, BitVec.add_sub_cancel]

/-- `push rcx`, for a word or a quadword. -/
theorem Pushing.push {n : ℕ} (h : Pushing s₀ q c (k + n) l s) (hk : k + n ≤ 0x30)
    (value : BitVec (8 * n)) : Pushing s₀ q c k (l ++ [⟨k, n, value⟩]) (s.push value) := by
  constructor
  · show s.memory.store (s.gpr .rsp - BitVec.ofNat 64 n) value = _
    rw [h.sub_rsp, h.memory]
    exact storeAll_concat s₀.memory q l ⟨k, n, value⟩
  · refine h.within.append fun x hx => ?_
    rw [List.mem_singleton.mp hx]
    exact hk
  · exact h.rax
  · exact (State.setGpr_gpr_self _ _ _).trans h.sub_rsp
  · exact fun r hrcx hrsp => (State.setGpr_gpr_of_ne s hrsp _).trans (h.gpr r hrcx hrsp)
  · exact h.xmm
  · exact h.x87
  · exact h.mxcsr
  · exact h.seg

/-- `sub rsp, 6`. -/
theorem Pushing.skip (h : Pushing s₀ q c (k + 6) l s) :
    Pushing s₀ q c k l
      ((s.setGpr .rsp (s.gpr .rsp - 0x6#64)).setStatus core (s.gpr .rsp) 0x6#64) where
  memory := h.memory
  within := h.within
  rax := h.rax
  rsp := (State.setGpr_gpr_self s .rsp _).trans h.sub_rsp
  gpr r hrcx hrsp := (State.setGpr_gpr_of_ne s hrsp _).trans (h.gpr r hrcx hrsp)
  xmm := h.xmm
  x87 := h.x87
  mxcsr := h.mxcsr
  seg := h.seg

variable (hapart : ∀ x ∈ Region q 0x30, x ∉ Region c contextSize)

include hapart

/-- The context is read as it was. -/
theorem Pushing.load (h : Pushing s₀ q c k l s) (offset : ℕ) {n : ℕ}
    (hoffset : offset + n ≤ contextSize) :
    s.memory.load (s.gpr .rax + BitVec.ofNat 64 offset) n =
      s₀.memory.load (c + BitVec.ofNat 64 offset) n := by
  rw [h.memory, h.rax]
  refine load_storeAll_of_not_mem h.within (by decide) fun i hi hmem => hapart _ hmem ?_
  rw [BitVec.add_assoc, ← BitVec.ofNat_add]
  exact add_ofNat_mem_region (by omega)

/-- `mov rcx, [rax+offset]` and `push rcx`. -/
theorem Pushing.quad (h : Pushing s₀ q c (k + 8) l s) (hk : k + 8 ≤ 0x30) (offset : ℕ)
    (hoffset : offset + 8 ≤ contextSize) :
    ∃ s', run core [.load .rcx .rax (BitVec.ofNat 64 offset), .push .rcx] s = some s' ∧
      Pushing s₀ q c k (l ++ [⟨k, 8, s₀.memory.load (c + BitVec.ofNat 64 offset) 8⟩]) s' := by
  refine ⟨_, rfl, ?_⟩
  rw [← h.load hapart offset (n := 8) hoffset, State.setGpr_gpr_self]
  exact (h.setRcx _).push (n := 8) hk _

/-- `mov cx, [rax+offset]`, `sub rsp, 6` and `push cx`. -/
theorem Pushing.word (h : Pushing s₀ q c (k + 8) l s) (hk : k + 2 ≤ 0x30) (offset : ℕ)
    (hoffset : offset + 2 ≤ contextSize) :
    ∃ s', run core [.loadWord .rcx .rax (BitVec.ofNat 64 offset), .sub .rsp 0x6#64, .pushWord .rcx]
        s = some s' ∧
      Pushing s₀ q c k (l ++ [⟨k, 2, s₀.memory.load (c + BitVec.ofNat 64 offset) 2⟩]) s' := by
  refine ⟨_, rfl, ?_⟩
  have hskip := Pushing.skip core (k := k + 2) (h.setRcx ((s.gpr .rcx &&& ~~~0xffff#64) |||
    (s.memory.load (s.gpr .rax + BitVec.ofNat 64 offset) 2).setWidth 64))
  have hpush := hskip.push (n := 2) hk (s₀.memory.load (c + BitVec.ofNat 64 offset) 2)
  rw [← h.load hapart offset hoffset] at hpush ⊢
  convert hpush using 2
  exact setWidth_or_low _ _

end

/-! ### Restoring -/

/-- The registers that are loaded one by one. -/
def loadedGprs : List Gpr :=
  [.rbx, .rdx, .rbp, .rsi, .rdi, .r8, .r9, .r10, .r11, .r12, .r13, .r14, .r15]

/-- The loads of the registers that are not on the frame of `iretq`. -/
def loadRegisters : List Asm :=
  .mov .rax .rdi :: ((loadedGprs.map fun r => .load r .rax (BitVec.ofNat 64 r.offset)) ++
    .ldmxcsr .rax 0x390#64 :: .fxrstor .rax 0x190#64 ::
      (List.finRange 16).map fun i => .movdqaLoad i .rax (BitVec.ofNat 64 (xmmOffset i)))

/-- The registers are loaded, except for those of the frame. -/
structure LoadedRegisters (s₀ : State) (c : Word) (s : State) : Prop where
  memory : s.memory = s₀.memory
  rax : s.gpr .rax = c
  rsp : s.gpr .rsp = s₀.gpr .rsp
  gpr : ∀ r ∈ loadedGprs, s.gpr r = (Context.read s₀.memory c).gpr r
  xmm : s.xmm = (Context.read s₀.memory c).xmm
  x87 : s.x87 = (Context.read s₀.memory c).x87
  mxcsr : s.mxcsr = (Context.read s₀.memory c).fxMxcsr
  seg : s.seg = s₀.seg

theorem loadRegisters_spec {s₀ : State} (hc : Aligned (s₀.gpr .rdi)) :
    ∃ s, run core loadRegisters s₀ = some s ∧ LoadedRegisters s₀ (s₀.gpr .rdi) s := by
  obtain ⟨gpr, hrun, hloaded, hother⟩ := run_loads core loadedGprs (by decide)
    (s₀.setGpr .rax (s₀.gpr .rdi))
  have hrax : gpr .rax = s₀.gpr .rdi :=
    (hother .rax (by decide)).trans (State.setGpr_gpr_self s₀ _ _)
  have hrsp : gpr .rsp = s₀.gpr .rsp :=
    (hother .rsp (by decide)).trans (State.setGpr_gpr_of_ne s₀ (by decide) _)
  have haligned : Aligned (gpr .rax + 0x190#64) := by
    rw [hrax]
    exact aligned_add hc (by decide)
  let fx : State :=
    { s₀ with
      gpr := gpr
      x87 := ⟨s₀.memory.load (gpr .rax + 0x190#64) 24, s₀.memory.load (gpr .rax + 0x190#64 + 32#64) 128⟩
      mxcsr := s₀.memory.load (gpr .rax + 0x190#64 + 24#64) 4
      xmm := fun i => s₀.memory.load (gpr .rax + 0x190#64 + BitVec.ofNat 64 (160 + 16 * i)) 16 }
  have hfx : (Asm.fxrstor .rax 0x190#64).exec core
      { s₀ with gpr := gpr, mxcsr := s₀.memory.load (gpr .rax + 0x390#64) 4 } = some fx := by
    rw [Asm.exec, if_pos haligned]
  obtain ⟨xmm, hxmmRun, hxmm, -⟩ := run_xmmLoads core (List.finRange 16) fx
    (by rw [show fx.gpr .rax = s₀.gpr .rdi from hrax]; exact hc)
  have hrax' : fx.gpr .rax = s₀.gpr .rdi := hrax
  have hpointer : (s₀.setGpr .rax (s₀.gpr .rdi)).gpr .rax = s₀.gpr .rdi :=
    State.setGpr_gpr_self s₀ .rax _
  refine ⟨{ fx with xmm := xmm }, ?_, ?_⟩
  · refine (run_cons_of rfl).trans ((run_append_of hrun).trans ?_)
    exact (run_cons_of rfl).trans ((run_cons_of hfx).trans hxmmRun)
  · constructor
    · rfl
    · exact hrax
    · exact hrsp
    · intro r hr
      rw [hpointer] at hloaded
      exact hloaded r hr
    · ext1 i
      rw [hrax'] at hxmm
      exact hxmm i (List.mem_finRange i)
    · show X87.mk (s₀.memory.load (gpr .rax + 0x190#64) 24)
        (s₀.memory.load (gpr .rax + 0x190#64 + 32#64) 128) = _
      rw [hrax, BitVec.add_assoc]
      rfl
    · show s₀.memory.load (gpr .rax + 0x190#64 + 24#64) 4 = _
      rw [hrax, BitVec.add_assoc]
      rfl
    · rfl

/-- The frame of `iretq`, below it the value of `rax`. -/
def iretqFrame (x : Context) : List Write :=
  [⟨0x28, 2, x.seg .ss⟩, ⟨0x20, 8, x.gpr .rsp⟩, ⟨0x18, 8, x.rflags⟩, ⟨0x10, 2, x.seg .cs⟩,
    ⟨0x8, 8, x.rip⟩, ⟨0x0, 8, x.gpr .rax⟩]

/-- The part of `restore_context` that pushes the frame. -/
def pushFrame : List Asm :=
  [.loadWord .rcx .rax 0x39e#64, .sub .rsp 0x6#64, .pushWord .rcx] ++
    [.load .rcx .rax 0x20#64, .push .rcx] ++ [.load .rcx .rax 0x88#64, .push .rcx] ++
    [.loadWord .rcx .rax 0x394#64, .sub .rsp 0x6#64, .pushWord .rcx] ++
    [.load .rcx .rax 0x80#64, .push .rcx] ++ [.load .rcx .rax 0x0#64, .push .rcx]

theorem pushFrame_spec {s : State} {q c : Word} (hapart : ∀ x ∈ Region q 0x30, x ∉ Region c contextSize)
    (h : Pushing s q c 0x30 [] s) :
    ∃ s', run core pushFrame s = some s' ∧
      Pushing s q c 0 (iretqFrame (Context.read s.memory c)) s' := by
  obtain ⟨s₁, hrun₁, hs₁⟩ := Pushing.word core hapart (k := 0x28) h (by decide)
    0x39e (by decide)
  obtain ⟨s₂, hrun₂, hs₂⟩ := Pushing.quad core hapart (k := 0x20) hs₁ (by decide)
    0x20 (by decide)
  obtain ⟨s₃, hrun₃, hs₃⟩ := Pushing.quad core hapart (k := 0x18) hs₂ (by decide)
    0x88 (by decide)
  obtain ⟨s₄, hrun₄, hs₄⟩ := Pushing.word core hapart (k := 0x10) hs₃ (by decide)
    0x394 (by decide)
  obtain ⟨s₅, hrun₅, hs₅⟩ := Pushing.quad core hapart (k := 0x8) hs₄ (by decide)
    0x80 (by decide)
  obtain ⟨s₆, hrun₆, hs₆⟩ := Pushing.quad core hapart (k := 0x0) hs₅ (by decide)
    0x0 (by decide)
  refine ⟨s₆, ?_, hs₆⟩
  exact (run_append_of ((run_append_of ((run_append_of ((run_append_of ((run_append_of hrun₁).trans
    hrun₂)).trans hrun₃)).trans hrun₄)).trans hrun₅)).trans hrun₆

/-- What `restoreContext` leaves: the registers of a context, with the segments that `iretq` loads.  The
frame of `iretq` was on the stack, from `q` up. -/
structure Restored (s₀ : State) (x : Context) (q : Word) (s : State) : Prop where
  gpr : s.gpr = x.gpr
  rip : s.rip = x.rip
  rflags : s.rflags = x.rflags
  xmm : s.xmm = x.xmm
  x87 : s.x87 = x.x87
  mxcsr : s.mxcsr = x.fxMxcsr
  cs : s.seg .cs = x.seg .cs
  ss : s.seg .ss = x.seg .ss
  seg : ∀ r, r ≠ .cs → r ≠ .ss → s.seg r = s₀.seg r
  memory : ∀ a ∉ Region q 0x30, s.memory a = s₀.memory a

/-- The low bytes of a load. -/
theorem setWidth_load (m : ByteMemory 64) (a : Word) :
    (m.load a 8).setWidth 16 = m.load a 2 := by
  apply BitVec.eq_of_getLsbD_eq
  intro i hi
  have hi' : i < 8 * 8 := by omega
  rw [BitVec.getLsbD_setWidth, decide_eq_true hi, Bool.true_and, getLsbD_load m a 8 i hi',
    getLsbD_load m a 2 i hi]

/-- The end of `restore_context`. -/
theorem popFrame_spec {s₀ s : State} {q c : Word} {x : Context}
    (hapart : ∀ x ∈ Region q 0x30, x ∉ Region c contextSize)
    (hx : x = Context.read s₀.memory c)
    (h : Pushing s₀ q c 0 (iretqFrame x) s)
    (hgpr : ∀ r ∈ loadedGprs, s₀.gpr r = x.gpr r) :
    ∃ s', run core [.load .rcx .rax 0x10#64, .pop .rax, .iretq] s = some s' ∧
      s'.gpr = x.gpr ∧ s'.rip = x.rip ∧ s'.rflags = x.rflags ∧ s'.seg .cs = x.seg .cs ∧
      s'.seg .ss = x.seg .ss ∧ (∀ r, r ≠ .cs → r ≠ .ss → s'.seg r = s₀.seg r) ∧
      s'.xmm = s₀.xmm ∧ s'.x87 = s₀.x87 ∧ s'.mxcsr = s₀.mxcsr ∧ s'.memory = s.memory := by
  have hframe := fun w => load_storeAll (m := s₀.memory) (p := q) (x := w) h.within (by decide)
    (by simp [iretqFrame, Write.Apart])
  rw [← h.memory] at hframe
  have hrsp : s.gpr .rsp = q := by
    rw [h.rsp, BitVec.add_zero]
  have hrcx : s.memory.load64 (s.gpr .rax + 0x10#64) = x.gpr .rcx := by
    rw [hx]
    exact h.load hapart 0x10 (n := 8) (by decide)
  have hrax := hframe ⟨0x0, 8, x.gpr .rax⟩ (by simp [iretqFrame])
  have hrip := hframe ⟨0x8, 8, x.rip⟩ (by simp [iretqFrame])
  have hcs := hframe ⟨0x10, 2, x.seg .cs⟩ (by simp [iretqFrame])
  have hrflags := hframe ⟨0x18, 8, x.rflags⟩ (by simp [iretqFrame])
  have hsp := hframe ⟨0x20, 8, x.gpr .rsp⟩ (by simp [iretqFrame])
  have hss := hframe ⟨0x28, 2, x.seg .ss⟩ (by simp [iretqFrame])
  -- Before `iretq`: only its frame is left on the stack.
  let popped : State :=
    ((s.setGpr .rcx (x.gpr .rcx)).setGpr .rsp (q + 0x8#64)).setGpr .rax (x.gpr .rax)
  have htop : ∀ k, popped.top k = s.memory.load64 (q + (0x8#64 + k)) := by
    intro k
    rw [← BitVec.add_assoc]
    rfl
  have hpop : (Asm.pop .rax).exec core (s.setGpr .rcx (x.gpr .rcx)) = some popped := by
    have hrsp' : (s.setGpr .rcx (x.gpr .rcx)).gpr .rsp = q :=
      (State.setGpr_gpr_of_ne s (by decide) _).trans hrsp
    have htop' : (s.setGpr .rcx (x.gpr .rcx)).top 0#64 = x.gpr .rax := by
      unfold State.top
      rw [hrsp']
      exact hrax
    rw [Asm.exec, hrsp', htop']
  have hload : (Asm.load .rcx .rax 0x10#64).exec core s = some (s.setGpr .rcx (x.gpr .rcx)) := by
    rw [Asm.exec, hrcx]
  refine ⟨_, (run_cons_of hload).trans ((run_cons_of hpop).trans (run_cons_of rfl)), ?_, ?_, ?_, ?_,
    ?_, ?_, h.xmm, h.x87, h.mxcsr, rfl⟩
  · ext1 r
    show (popped.setGpr .rsp (popped.top 0x18#64)).gpr r = _
    by_cases hr : r ∈ loadedGprs
    · have hne : r ≠ .rsp ∧ r ≠ .rax ∧ r ≠ .rcx := by
        revert hr
        cases r <;> decide
      rw [State.setGpr_gpr_of_ne _ hne.1, State.setGpr_gpr_of_ne _ hne.2.1,
        State.setGpr_gpr_of_ne _ hne.1, State.setGpr_gpr_of_ne _ hne.2.2,
        h.gpr r hne.2.2 hne.1, hgpr r hr]
    · have hcases : r = .rsp ∨ r = .rax ∨ r = .rcx := by
        revert hr
        cases r <;> decide
      rcases hcases with rfl | rfl | rfl
      · rw [State.setGpr_gpr_self, htop]
        exact hsp
      · rfl
      · rfl
  · exact (htop 0#64).trans hrip
  · exact (htop 0x10#64).trans hrflags
  · show (popped.top 8#64).setWidth 16 = _
    rw [htop]
    exact (setWidth_load _ _).trans hcs
  · show (popped.top 0x20#64).setWidth 16 = _
    rw [htop]
    exact (setWidth_load _ _).trans hss
  · intro r hcs hss
    show Function.update (Function.update s.seg _ _) _ _ r = _
    rw [Function.update_of_ne hss, Function.update_of_ne hcs, h.seg]

/-- `restore_context` restores the registers from the context its argument points to. -/
theorem restoreContext_spec {s₀ : State} {q : Word} (hc : Aligned (s₀.gpr .rdi))
    (hapart : ∀ x ∈ Region q 0x30, x ∉ Region (s₀.gpr .rdi) contextSize)
    (hsp : s₀.gpr .rsp = q + 0x30#64) :
    ∃ s, run core restoreContext s₀ = some s ∧
      Restored s₀ (Context.read s₀.memory (s₀.gpr .rdi)) q s := by
  obtain ⟨s₁, hrun₁, hs₁⟩ := loadRegisters_spec core hc
  have hpushing : Pushing s₁ q (s₀.gpr .rdi) 0x30 [] s₁ :=
    ⟨rfl, nofun, hs₁.rax, hs₁.rsp.trans hsp, fun _ _ _ => rfl, rfl, rfl, rfl, rfl⟩
  obtain ⟨s₂, hrun₂, hs₂⟩ := pushFrame_spec core hapart hpushing
  rw [hs₁.memory] at hs₂
  obtain ⟨s₃, hrun₃, hgpr, hrip, hrflags, hcs, hss, hseg, hxmm, hx87, hmxcsr, hmemory⟩ :=
    popFrame_spec core hapart (by rw [hs₁.memory]) hs₂ hs₁.gpr
  refine ⟨s₃, (run_append_of hrun₁).trans ((run_append_of hrun₂).trans hrun₃), hgpr, hrip, hrflags,
    hxmm.trans hs₁.xmm, hx87.trans hs₁.x87, hmxcsr.trans hs₁.mxcsr, hcs, hss, ?_, ?_⟩
  · intro r hcs hss
    rw [hseg r hcs hss, hs₁.seg]
  · intro a ha
    rw [hmemory, hs₂.memory, storeAll_of_not_mem hs₂.within (by decide) ha, hs₁.memory]

end Zpp.X64
