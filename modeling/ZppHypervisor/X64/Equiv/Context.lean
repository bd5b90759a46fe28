import Mathlib.Tactic.FinCases
import ZppHypervisor.X64.Context

/-!
# Capturing contexts

`Context.read_writes` reads a context back from memory.  The capturing functions write the context of
their caller (`capture_spec`).
-/

namespace Zpp.X64

open ByteMemory

variable {core : Core}

/-! ### The structure in memory -/

/-- The general registers. -/
def gprs : List Gpr :=
  [.rax, .rbx, .rcx, .rdx, .rsp, .rbp, .rsi, .rdi, .r8, .r9, .r10, .r11, .r12, .r13, .r14, .r15]

/-- The segment registers. -/
def segs : List Seg := [.cs, .ds, .es, .fs, .gs, .ss]

theorem mem_gprs (r : Gpr) : r ∈ gprs := by
  cases r <;> decide

theorem mem_segs (r : Seg) : r ∈ segs := by
  cases r <;> decide

namespace Context

variable (core) (x : Context)

/-- The writes that make the `fxsave` image. -/
def fxWrites : List Write :=
  [⟨0, 24, x.x87.control⟩, ⟨24, 4, x.fxMxcsr⟩, ⟨28, 4, core.mxcsrMask⟩, ⟨32, 128, x.x87.stack⟩] ++
    (List.finRange 16).map fun i => ⟨160 + 16 * i, 16, x.fxXmm i⟩

/-- The writes that make a context. -/
def writes : List Write :=
  (gprs.map fun r => ⟨r.offset, 8, x.gpr r⟩) ++
    [⟨0x80, 8, x.rip⟩, ⟨0x88, 8, x.rflags⟩] ++
    ((List.finRange 16).map fun i => ⟨xmmOffset i, 16, x.xmm i⟩) ++
    (x.fxWrites core).map (Write.shift 0x190) ++
    [⟨0x390, 4, x.mxcsr⟩] ++
    segs.map fun r => ⟨r.offset, 2, x.seg r⟩

/-- The offsets and sizes of the writes. -/
def extents : List (ℕ × ℕ) :=
  (gprs.map fun r => (r.offset, 8)) ++ [(0x80, 8), (0x88, 8)] ++
    ((List.finRange 16).map fun i => (xmmOffset i, 16)) ++
    ([(0x190, 24), (0x1a8, 4), (0x1ac, 4), (0x1b0, 128)] ++
      (List.finRange 16).map fun i => (0x190 + (160 + 16 * i.val), 16)) ++
    [(0x390, 4)] ++
    segs.map fun r => (r.offset, 2)

theorem writes_extents : (x.writes core).map (fun w => (w.offset, w.size)) = extents := rfl

theorem writes_within : Within contextSize (x.writes core) := by
  have hextents : ∀ e ∈ extents, e.1 + e.2 ≤ contextSize := by decide +kernel
  intro w hw
  exact hextents (w.offset, w.size) (writes_extents core x ▸ List.mem_map_of_mem hw)

/-- The members of the structure do not overlap. -/
theorem writes_apart : (x.writes core).Pairwise Write.Apart := by
  have hextents : extents.Pairwise fun e e' => e.1 + e.2 ≤ e'.1 ∨ e'.1 + e'.2 ≤ e.1 := by
    decide +kernel
  rw [← writes_extents core x, List.pairwise_map] at hextents
  exact hextents

theorem read_eq {m : ByteMemory 64} {p : Word}
    (h : ∀ w ∈ x.writes core, m.load (p + BitVec.ofNat 64 w.offset) w.size = w.value) :
    Context.read m p = x := by
  simp only [writes, fxWrites, List.append_assoc, List.map_append, List.map_cons, List.map_map,
    List.forall_mem_append, List.forall_mem_map, List.forall_mem_cons] at h
  obtain ⟨hgpr, ⟨hrip, hrflags, -⟩, hxmm, ⟨hcontrol, hfxMxcsr, -, hstack, -⟩, hfxXmm, ⟨hmxcsr, -⟩,
    hseg⟩ := h
  apply Context.ext
  · exact funext fun r => hgpr r (mem_gprs r)
  · exact hrip
  · exact hrflags
  · exact funext fun i => hxmm i (List.mem_finRange i)
  · exact congrArg₂ X87.mk hcontrol hstack
  · exact hfxMxcsr
  · exact funext fun i => hfxXmm i (List.mem_finRange i)
  · exact hmxcsr
  · exact funext fun r => hseg r (mem_segs r)

/-- A context that was written can be read. -/
theorem read_writes (m : ByteMemory 64) (p : Word) :
    Context.read (m.storeAll p (x.writes core)) p = x :=
  read_eq core x fun _ hw =>
    load_storeAll (writes_within core x) (by decide) (writes_apart core x) hw

/-- A context depends only on its bytes. -/
theorem read_congr {m m' : ByteMemory 64} {p p' : Word}
    (h : ∀ k < contextSize, m (p + BitVec.ofNat 64 k) = m' (p' + BitVec.ofNat 64 k)) :
    Context.read m p = Context.read m' p' := by
  apply Context.ext
  · ext1 r
    exact load64_congr_add h (by cases r <;> decide)
  · exact load64_congr_add h (s := 0x80) (by decide)
  · exact load64_congr_add h (s := 0x88) (by decide)
  · ext1 i
    refine load_congr_add h ?_
    show 0x90 + 16 * i.val + 16 ≤ 0x3a0
    omega
  · exact congrArg₂ X87.mk (load_congr_add h (s := 0x190) (by decide))
      (load_congr_add h (s := 0x1b0) (by decide))
  · exact load_congr_add h (s := 0x1a8) (by decide)
  · ext1 i
    refine load_congr_add h ?_
    show 0x190 + (160 + 16 * i.val) + 16 ≤ 0x3a0
    omega
  · exact load_congr_add h (s := 0x390) (by decide)
  · ext1 r
    exact load_congr_add h (by cases r <;> decide)

/-- The general registers of a context are apart. -/
theorem gprOffset_apart {r r' : Gpr} (h : r ≠ r') :
    r.offset + 8 ≤ r'.offset ∨ r'.offset + 8 ≤ r.offset := by
  revert h
  cases r <;> cases r' <;> decide

theorem gprOffset_le (r : Gpr) : r.offset + 8 ≤ 0x80 := by
  cases r <;> decide

/-- A quadword stored among the first members leaves those from `rflags` on. -/
theorem read_store_low (m : ByteMemory 64) (p value : Word) {k : ℕ} (hk : k + 8 ≤ 0x88) :
    Context.read (m.store (p + BitVec.ofNat 64 k) (n := 8) value) p =
      { Context.read m p with
        gpr := (Context.read (m.store (p + BitVec.ofNat 64 k) (n := 8) value) p).gpr
        rip := (Context.read (m.store (p + BitVec.ofNat 64 k) (n := 8) value) p).rip } := by
  have hother : ∀ {j n : ℕ}, 0x88 ≤ j → j + n < 2 ^ 64 →
      load (m.store (p + BitVec.ofNat 64 k) (n := 8) value) (p + BitVec.ofNat 64 j) n =
        m.load (p + BitVec.ofNat 64 j) n := by
    intro j n hj hn
    have hapart : j + n ≤ k ∨ k + 8 ≤ j := .inr (by omega)
    exact load_store_add m value hapart hn.le (by omega)
  apply Context.ext
  · rfl
  · rfl
  · exact hother (j := 0x88) (by decide) (by decide)
  · ext1 i
    exact hother (by unfold xmmOffset; omega) (by unfold xmmOffset; omega)
  · exact congrArg₂ X87.mk (hother (j := 0x190) (by decide) (by decide))
      (hother (j := 0x1b0) (by decide) (by decide))
  · exact hother (j := 0x1a8) (by decide) (by decide)
  · ext1 i
    exact hother (by omega) (by omega)
  · exact hother (j := 0x390) (by decide) (by decide)
  · ext1 q
    exact hother (by cases q <;> decide) (by cases q <;> decide)

/-- Assigning a general register of a context in memory. -/
theorem read_store_gpr (m : ByteMemory 64) (p : Word) (r : Gpr) (value : Word) :
    Context.read (m.store (p + BitVec.ofNat 64 r.offset) (n := 8) value) p =
      { Context.read m p with gpr := Function.update (Context.read m p).gpr r value } := by
  have hr := gprOffset_le r
  have hgpr : (Context.read (m.store (p + BitVec.ofNat 64 r.offset) (n := 8) value) p).gpr =
      Function.update (Context.read m p).gpr r value := by
    ext1 q
    by_cases hq : q = r
    · rw [hq, Function.update_self]
      exact load_store_self m (p + BitVec.ofNat 64 r.offset) (n := 8) value (by decide)
    · have hq' := gprOffset_le q
      rw [Function.update_of_ne hq]
      exact @load_store_add 64 m p q.offset r.offset 8 8 value (gprOffset_apart hq) (by omega)
        (by omega)
  have hrip : (Context.read (m.store (p + BitVec.ofNat 64 r.offset) (n := 8) value) p).rip =
      (Context.read m p).rip :=
    @load_store_add 64 m p 0x80 r.offset 8 8 value (.inr hr) (by decide) (by omega)
  rw [read_store_low m p value (by omega), hgpr, hrip]

/-- Assigning the instruction pointer of a context in memory. -/
theorem read_store_rip (m : ByteMemory 64) (p value : Word) :
    Context.read (m.store (p + 0x80#64) (n := 8) value) p =
      { Context.read m p with rip := value } := by
  have hgpr : (Context.read (m.store (p + 0x80#64) (n := 8) value) p).gpr =
      (Context.read m p).gpr := by
    ext1 q
    have hq := gprOffset_le q
    exact @load_store_add 64 m p q.offset 0x80 8 8 value (.inl hq) (by omega) (by decide)
  have hrip : (Context.read (m.store (p + 0x80#64) (n := 8) value) p).rip = value :=
    load_store_self m (p + 0x80#64) (n := 8) value (by decide)
  rw [read_store_low m p value (k := 0x80) (by decide), hgpr, hrip]

theorem read_eq_of_region {m m' : ByteMemory 64} {p : Word}
    (h : ∀ a ∈ Region p contextSize, m a = m' a) : Context.read m p = Context.read m' p :=
  read_congr fun _ hk => h _ (add_ofNat_mem_region hk)

end Context

/-! ### Runs -/

theorem run_append (l l' : List Asm) (s : State) :
    run core (l ++ l') s = (run core l s).bind (run core l') := by
  induction l generalizing s with
  | nil => rfl
  | cons i l ih =>
    rw [List.cons_append, run, run]
    cases i.exec core s with
    | none => rfl
    | some s' => exact ih s'

theorem run_append_of {l l' : List Asm} {s s' : State} (h : run core l s = some s') :
    run core (l ++ l') s = run core l' s' := by
  rw [run_append, h]
  rfl

theorem run_cons_of {i : Asm} {l : List Asm} {s s' : State} (h : i.exec core s = some s') :
    run core (i :: l) s = run core l s' := by
  rw [run, h]
  rfl

@[simp] theorem State.setGpr_gpr_self (s : State) (r : Gpr) (value : Word) :
    (s.setGpr r value).gpr r = value :=
  Function.update_self _ _ _

theorem State.setGpr_gpr_of_ne (s : State) {r r' : Gpr} (h : r' ≠ r) (value : Word) :
    (s.setGpr r value).gpr r' = s.gpr r' :=
  Function.update_of_ne h _ _

/-- Offsets that are multiples of sixteen keep the alignment. -/
theorem aligned_add {p : Word} (hp : Aligned p) {k : ℕ} (hk : k % 16 = 0) :
    Aligned (p + BitVec.ofNat 64 k) := by
  unfold Aligned at hp ⊢
  rw [BitVec.toNat_add, BitVec.toNat_ofNat]
  omega

/-! ### Capturing

The functions save `rflags`, `rbp`, `rax` and `rcx` on the stack, from `q` up, and then write the
context; `rcx` is scratch. -/

section

variable {s₀ : State} {q c : Word}

/-- The context of the caller of a capturing function. -/
def State.callerContext (s : State) : Context where
  gpr := Function.update s.gpr .rsp (s.gpr .rsp + 8#64)
  rip := s.top 0#64
  rflags := s.rflags &&& 0xfcffff#64
  xmm := s.xmm
  x87 := s.x87
  fxMxcsr := s.mxcsr
  fxXmm := s.xmm
  mxcsr := s.mxcsr
  seg := s.seg

/-- The stack of a capturing function: what is from `q` up, below the return address. -/
structure Spilled (s₀ : State) (m : ByteMemory 64) (q : Word) : Prop where
  rcx : m.load64 q = s₀.gpr .rcx
  rax : m.load64 (q + 0x8#64) = s₀.gpr .rax
  rbp : m.load64 (q + 0x10#64) = s₀.gpr .rbp
  rflags : m.load64 (q + 0x18#64) = s₀.rflags &&& 0xfcffff#64
  rip : m.load64 (q + 0x20#64) = s₀.top 0#64

/-- A capturing function that has made the writes of `l` to the context at `c`. -/
structure Capturing (s₀ : State) (q c : Word) (l : List Write) (s : State) : Prop where
  memory : ∃ m, s.memory = m.storeAll c l ∧ Spilled s₀ m q ∧
    ∀ x ∉ Region q 0x20, m x = s₀.memory x
  within : Within contextSize l
  rax : s.gpr .rax = c
  rbp : s.gpr .rbp = q + 0x10#64
  rsp : s.gpr .rsp = q
  gpr : ∀ r, r ≠ .rax → r ≠ .rcx → r ≠ .rbp → r ≠ .rsp → s.gpr r = s₀.gpr r
  xmm : s.xmm = s₀.xmm
  x87 : s.x87 = s₀.x87
  mxcsr : s.mxcsr = s₀.mxcsr
  seg : s.seg = s₀.seg

/-- The stretch of code makes the writes. -/
def Saves (core : Core) (s₀ : State) (q c : Word) (code : List Asm) (new : List Write) : Prop :=
  ∀ l s, Capturing s₀ q c l s → ∃ s', run core code s = some s' ∧ Capturing s₀ q c (l ++ new) s'

theorem Saves.append {code code' : List Asm} {new new' : List Write}
    (h : Saves core s₀ q c code new) (h' : Saves core s₀ q c code' new') :
    Saves core s₀ q c (code ++ code') (new ++ new') := by
  intro l s hs
  obtain ⟨s₁, hrun, hs₁⟩ := h l s hs
  obtain ⟨s₂, hrun', hs₂⟩ := h' _ s₁ hs₁
  refine ⟨s₂, (run_append_of hrun).trans hrun', ?_⟩
  rw [← List.append_assoc]
  exact hs₂

/-- Writing to the context. -/
theorem Capturing.storeAll {l l' : List Write} {s : State} (h : Capturing s₀ q c l s)
    (hl' : Within contextSize l') :
    Capturing s₀ q c (l ++ l') (s.setMemory (s.memory.storeAll c l')) := by
  obtain ⟨m, hm, hspilled, hframe⟩ := h.memory
  refine { h with memory := ⟨m, ?_, hspilled, hframe⟩, within := Within.append h.within hl' }
  rw [hm, storeAll_append]
  rfl

theorem Capturing.store {l : List Write} {s : State} (h : Capturing s₀ q c l s) (offset : ℕ)
    {n : ℕ} (value : BitVec (8 * n)) (hoffset : offset + n ≤ contextSize) :
    Capturing s₀ q c (l ++ [⟨offset, n, value⟩])
      (s.setMemory (s.memory.store (c + BitVec.ofNat 64 offset) value)) := by
  refine h.storeAll fun y hy => ?_
  rw [List.mem_singleton.mp hy]
  exact hoffset

/-- `mov [rax+offset], r`. -/
theorem saves_gpr {offset : ℕ} {r : Gpr} (hoffset : offset + 8 ≤ contextSize)
    (hr : r ≠ .rax ∧ r ≠ .rcx ∧ r ≠ .rbp ∧ r ≠ .rsp) :
    Saves core s₀ q c [.store .rax (BitVec.ofNat 64 offset) r] [⟨offset, 8, s₀.gpr r⟩] := by
  intro l s h
  refine ⟨_, rfl, ?_⟩
  rw [h.rax, h.gpr r hr.1 hr.2.1 hr.2.2.1 hr.2.2.2]
  exact h.store offset (n := 8) (s₀.gpr r) hoffset

/-- `rcx` is free. -/
theorem Capturing.setRcx {l : List Write} {s : State} (h : Capturing s₀ q c l s) (value : Word) :
    Capturing s₀ q c l (s.setGpr .rcx value) where
  memory := h.memory
  within := h.within
  rax := h.rax
  rbp := h.rbp
  rsp := h.rsp
  gpr r hrax hrcx hrbp hrsp := (Function.update_of_ne hrcx _ _).trans (h.gpr r hrax hrcx hrbp hrsp)
  xmm := h.xmm
  x87 := h.x87
  mxcsr := h.mxcsr
  seg := h.seg

/-- `mov rcx, [rbp+disp]` and `mov [rax+offset], rcx`, for a value on the stack. -/
theorem saves_spilled (hapart : ∀ x ∈ Region q 0x28, x ∉ Region c contextSize) {offset k : ℕ}
    {disp value : Word} (hoffset : offset + 8 ≤ contextSize) (hk : k + 8 ≤ 0x28)
    (hdisp : 0x10#64 + disp = BitVec.ofNat 64 k)
    (hvalue : ∀ m, Spilled s₀ m q → m.load64 (q + BitVec.ofNat 64 k) = value) :
    Saves core s₀ q c [.load .rcx .rbp disp, .store .rax (BitVec.ofNat 64 offset) .rcx]
      [⟨offset, 8, value⟩] := by
  intro l s h
  obtain ⟨m, hm, hspilled, -⟩ := h.memory
  have hload : s.memory.load64 (s.gpr .rbp + disp) = value := by
    rw [h.rbp, BitVec.add_assoc, hdisp, hm]
    refine Eq.trans ?_ (hvalue m hspilled)
    refine load_storeAll_of_not_mem h.within (by decide) fun i hi => hapart _ ?_
    rw [BitVec.add_assoc, ← BitVec.ofNat_add]
    exact add_ofNat_mem_region (by omega)
  refine ⟨_, rfl, ?_⟩
  have hrcx : (s.setGpr .rcx value).gpr .rcx = value := State.setGpr_gpr_self _ _ _
  have hrax : (s.setGpr .rcx value).gpr .rax = c := (h.setRcx value).rax
  rw [hload, hrcx, hrax]
  exact (h.setRcx value).store offset (n := 8) value hoffset

/-- `lea rcx, [rbp+0x18]` and `mov [rax+0x20], rcx`. -/
theorem saves_rsp :
    Saves core s₀ q c [.lea .rcx .rbp 0x18#64, .store .rax 0x20#64 .rcx]
      [⟨0x20, 8, q + 0x28#64⟩] := by
  intro l s h
  have hvalue : s.gpr .rbp + 0x18#64 = q + 0x28#64 := by
    rw [h.rbp, BitVec.add_assoc]
    rfl
  refine ⟨_, rfl, ?_⟩
  have hrcx : (s.setGpr .rcx (q + 0x28#64)).gpr .rcx = q + 0x28#64 := State.setGpr_gpr_self _ _ _
  have hrax : (s.setGpr .rcx (q + 0x28#64)).gpr .rax = c := (h.setRcx _).rax
  rw [hvalue, hrcx, hrax]
  exact (h.setRcx _).store 0x20 (n := 8) (q + 0x28#64) (by decide)

/-- `movdqa [rax+offset], xmm`. -/
theorem saves_xmm (hc : Aligned c) (i : Fin 16) :
    Saves core s₀ q c [.movdqaStore .rax (BitVec.ofNat 64 (xmmOffset i)) i]
      [⟨xmmOffset i, 16, s₀.xmm i⟩] := by
  intro l s h
  have hi := i.isLt
  have haligned : Aligned (c + BitVec.ofNat 64 (xmmOffset i)) := by
    apply aligned_add hc
    unfold xmmOffset
    omega
  refine ⟨s.setMemory (s.memory.store (c + BitVec.ofNat 64 (xmmOffset i)) (s₀.xmm i)), ?_, ?_⟩
  · rw [run, Asm.exec, h.rax, if_pos haligned, h.xmm]
    rfl
  · refine h.store (xmmOffset i) (s₀.xmm i) ?_
    show 0x90 + 16 * i.val + 16 ≤ 0x3a0
    omega

/-- A list of registers, one after the other. -/
theorem saves_map {α : Type} {code : α → Asm} {write : α → Write} {rs : List α}
    (h : ∀ r ∈ rs, Saves core s₀ q c [code r] [write r]) :
    Saves core s₀ q c (rs.map code) (rs.map write) := by
  induction rs with
  | nil =>
    intro l s hs
    refine ⟨s, rfl, ?_⟩
    rw [List.map_nil, List.append_nil]
    exact hs
  | cons r rs ih =>
    exact (h r (.head _)).append (ih fun r' hr' => h r' (.tail _ hr'))

/-- `stmxcsr [rax+0x390]`. -/
theorem saves_mxcsr : Saves core s₀ q c [.stmxcsr .rax 0x390#64] [⟨0x390, 4, s₀.mxcsr⟩] := by
  intro l s h
  refine ⟨_, rfl, ?_⟩
  rw [h.rax, h.mxcsr]
  exact h.store 0x390 s₀.mxcsr (by decide)

/-- `mov [rax+offset], seg`. -/
theorem saves_seg (r : Seg) :
    Saves core s₀ q c [.storeSeg .rax (BitVec.ofNat 64 r.offset) r] [⟨r.offset, 2, s₀.seg r⟩] := by
  intro l s h
  refine ⟨_, rfl, ?_⟩
  rw [h.rax, h.seg]
  refine h.store r.offset (s₀.seg r) ?_
  cases r <;> decide

/-- `fxsave [rax+0x190]`. -/
theorem saves_fxsave (hc : Aligned c) :
    Saves core s₀ q c [.fxsave .rax 0x190#64]
      ((fxsaveWrites core s₀.toRegisters).map (Write.shift 0x190)) := by
  intro l s h
  have haligned : Aligned (c + 0x190#64) := aligned_add hc (by decide)
  have hwrites : fxsaveWrites core s.toRegisters = fxsaveWrites core s₀.toRegisters := by
    unfold fxsaveWrites
    rw [h.x87, h.mxcsr, h.xmm]
  have hwithin : Within contextSize ((fxsaveWrites core s₀.toRegisters).map (Write.shift 0x190)) := by
    intro x hx
    refine Context.writes_within core s₀.callerContext x ?_
    exact List.mem_append_left _ (List.mem_append_left _ (List.mem_append_right _ hx))
  refine ⟨s.setMemory (s.memory.storeAll c ((fxsaveWrites core s₀.toRegisters).map
    (Write.shift 0x190))), ?_, h.storeAll hwithin⟩
  rw [run, Asm.exec, h.rax, if_pos haligned, hwrites, ← storeAll_add]
  rfl

section

variable (core) (s₀) (hc : Aligned c) (hapart : ∀ x ∈ Region q 0x28, x ∉ Region c contextSize)
  (hsp : s₀.gpr .rsp = q + 0x20#64)

include hc hapart hsp

/-- The registers are saved in the context of the caller. -/
theorem saves_registers :
    Saves core s₀ q c saveRegisters (s₀.callerContext.writes core) := by
  have hgpr : ∀ offset r, offset + 8 ≤ contextSize → r ≠ .rax ∧ r ≠ .rcx ∧ r ≠ .rbp ∧ r ≠ .rsp →
      Saves core s₀ q c [.store .rax (BitVec.ofNat 64 offset) r] [⟨offset, 8, s₀.gpr r⟩] :=
    fun _ _ => saves_gpr
  have hrax : Saves core s₀ q c [.load .rcx .rbp (-0x8#64), .store .rax 0x0#64 .rcx]
      [⟨0x0, 8, s₀.gpr .rax⟩] :=
    saves_spilled hapart (k := 0x8) (by decide) (by decide) (by decide) fun _ h => h.rax
  have hrcx : Saves core s₀ q c [.load .rcx .rbp (-0x10#64), .store .rax 0x10#64 .rcx]
      [⟨0x10, 8, s₀.gpr .rcx⟩] :=
    saves_spilled hapart (k := 0x0) (by decide) (by decide) (by decide) fun _ h => by
      rw [BitVec.add_zero]
      exact h.rcx
  have hrsp : Saves core s₀ q c [.lea .rcx .rbp 0x18#64, .store .rax 0x20#64 .rcx]
      [⟨0x20, 8, s₀.gpr .rsp + 8#64⟩] := by
    rw [hsp, BitVec.add_assoc]
    exact saves_rsp
  have hrbp : Saves core s₀ q c [.load .rcx .rbp 0x0#64, .store .rax 0x28#64 .rcx]
      [⟨0x28, 8, s₀.gpr .rbp⟩] :=
    saves_spilled hapart (k := 0x10) (by decide) (by decide) (by decide) fun _ h => h.rbp
  have hrip : Saves core s₀ q c [.load .rcx .rbp 0x10#64, .store .rax 0x80#64 .rcx]
      [⟨0x80, 8, s₀.top 0#64⟩] :=
    saves_spilled hapart (k := 0x20) (by decide) (by decide) (by decide) fun _ h => h.rip
  have hrflags : Saves core s₀ q c [.load .rcx .rbp 0x8#64, .store .rax 0x88#64 .rcx]
      [⟨0x88, 8, s₀.rflags &&& 0xfcffff#64⟩] :=
    saves_spilled hapart (k := 0x18) (by decide) (by decide) (by decide) fun _ h => h.rflags
  have hgprs : Saves core s₀ q c
      ((gprs.drop 6).map fun r => .store .rax (BitVec.ofNat 64 r.offset) r)
      ((gprs.drop 6).map fun r => ⟨r.offset, 8, s₀.gpr r⟩) := by
    have hother : ∀ r ∈ gprs.drop 6, r.offset + 8 ≤ contextSize ∧
        r ≠ .rax ∧ r ≠ .rcx ∧ r ≠ .rbp ∧ r ≠ .rsp := by decide
    exact saves_map fun r hr => hgpr r.offset r (hother r hr).1 (hother r hr).2
  have hxmm : Saves core s₀ q c
      ((List.finRange 16).map fun i => .movdqaStore .rax (BitVec.ofNat 64 (xmmOffset i)) i)
      ((List.finRange 16).map fun i => ⟨xmmOffset i, 16, s₀.xmm i⟩) :=
    saves_map fun i _ => saves_xmm hc i
  have hseg : Saves core s₀ q c
      (segs.map fun r => .storeSeg .rax (BitVec.ofNat 64 r.offset) r)
      (segs.map fun r => ⟨r.offset, 2, s₀.seg r⟩) :=
    saves_map fun r _ => saves_seg r
  have h := hrax.append ((hgpr 0x8 .rbx (by decide) (by decide)).append
    (hrcx.append ((hgpr 0x18 .rdx (by decide) (by decide)).append
      (hrsp.append (hrbp.append (hgprs.append (hrip.append (hrflags.append
        (hxmm.append ((saves_fxsave hc).append (saves_mxcsr.append hseg)))))))))))
  exact h

end

theorem add_sub_word (p a b : Word) : p + a - b = p + (a - b) := by
  rw [BitVec.sub_eq_add_neg, BitVec.add_assoc, ← BitVec.sub_eq_add_neg]

variable (core) in
/-- The frame of a capturing function, before the context pointer is in `rax`. -/
theorem freeRegisters_spec (hsp : s₀.gpr .rsp = q + 0x20#64) :
    ∃ s', run core freeRegisters s₀ = some s' ∧
      s'.memory = s₀.memory.storeAll q [⟨0x18, 8, s₀.rflags &&& 0xfcffff#64⟩,
        ⟨0x10, 8, s₀.gpr .rbp⟩, ⟨0x8, 8, s₀.gpr .rax⟩, ⟨0x0, 8, s₀.gpr .rcx⟩] ∧
      s'.gpr = Function.update (Function.update s₀.gpr .rbp (q + 0x10#64)) .rsp q ∧
      s'.xmm = s₀.xmm ∧ s'.x87 = s₀.x87 ∧ s'.mxcsr = s₀.mxcsr ∧ s'.seg = s₀.seg := by
  refine ⟨_, rfl, ?_, ?_, rfl, rfl, rfl, rfl⟩
  · simp [State.push, State.setGpr, State.setMemory, hsp, storeAll, add_sub_word]
  · ext r
    cases r <;> simp [State.push, State.setGpr, State.setMemory, hsp, add_sub_word]

/-- The stack of a capturing function has what was pushed. -/
theorem spilled_of_writes (hsp : s₀.gpr .rsp = q + 0x20#64) :
    Spilled s₀ (s₀.memory.storeAll q [⟨0x18, 8, s₀.rflags &&& 0xfcffff#64⟩,
      ⟨0x10, 8, s₀.gpr .rbp⟩, ⟨0x8, 8, s₀.gpr .rax⟩, ⟨0x0, 8, s₀.gpr .rcx⟩]) q := by
  have hwithin : Within 0x28 [⟨0x18, 8, s₀.rflags &&& 0xfcffff#64⟩, ⟨0x10, 8, s₀.gpr .rbp⟩,
      ⟨0x8, 8, s₀.gpr .rax⟩, ⟨0x0, 8, s₀.gpr .rcx⟩] := by simp [Within]
  have hread := fun x => load_storeAll (m := s₀.memory) (p := q) (x := x) hwithin (by decide)
    (by simp [Write.Apart])
  refine ⟨?_, hread ⟨0x8, 8, s₀.gpr .rax⟩ (by simp), hread ⟨0x10, 8, s₀.gpr .rbp⟩ (by simp),
    hread ⟨0x18, 8, s₀.rflags &&& 0xfcffff#64⟩ (by simp), ?_⟩
  · have hrcx := hread ⟨0x0, 8, s₀.gpr .rcx⟩ (by simp)
    rw [BitVec.add_zero] at hrcx
    exact hrcx
  · unfold State.top
    rw [hsp, BitVec.add_zero]
    exact load_storeAll_of_apart hwithin (by decide) (by decide) (by simp)

/-- What a capturing function leaves, with its stack from `q` up and the context at `c`. -/
structure Captured (s₀ : State) (q c : Word) (s : State) : Prop where
  context : Context.read s.memory c = s₀.callerContext
  memory : ∀ x ∉ Region c contextSize, x ∉ Region q 0x20 → s.memory x = s₀.memory x
  rip : s.rip = s₀.top 0#64
  rax : s.gpr .rax = c
  rsp : s.gpr .rsp = s₀.gpr .rsp + 8#64
  gpr : ∀ r, r ≠ .rax → r ≠ .rcx → r ≠ .rsp → s.gpr r = s₀.gpr r
  xmm : s.xmm = s₀.xmm
  x87 : s.x87 = s₀.x87
  mxcsr : s.mxcsr = s₀.mxcsr
  seg : s.seg = s₀.seg

variable (core) in
/-- The end of a capturing function. -/
theorem returnToCaller_spec (hapart : ∀ x ∈ Region q 0x28, x ∉ Region c contextSize)
    (hsp : s₀.gpr .rsp = q + 0x20#64) {s : State}
    (h : Capturing s₀ q c (s₀.callerContext.writes core) s) :
    ∃ s', run core returnToCaller s = some s' ∧ Captured s₀ q c s' := by
  obtain ⟨m, hm, hspilled, hframe⟩ := h.memory
  have hload : ∀ k : ℕ, k + 8 ≤ 0x28 → s.memory.load64 (q + BitVec.ofNat 64 k) =
      m.load64 (q + BitVec.ofNat 64 k) := by
    intro k hk
    rw [hm]
    refine load_storeAll_of_not_mem h.within (by decide) fun i hi => hapart _ ?_
    rw [BitVec.add_assoc, ← BitVec.ofNat_add]
    exact add_ofNat_mem_region (by omega)
  have h₁ : s.gpr .rsp + 0x10#64 = q + 0x10#64 := by rw [h.rsp]
  have h₂ : q + 0x10#64 + 8#64 = q + 0x18#64 := by
    rw [BitVec.add_assoc]
    rfl
  have h₃ : q + 0x18#64 + 8#64 = q + 0x20#64 := by
    rw [BitVec.add_assoc]
    rfl
  refine ⟨_, rfl, ?_⟩
  constructor
  · show Context.read s.memory c = _
    rw [hm]
    exact Context.read_writes core _ m c
  · intro x hx hstack
    show s.memory x = _
    rw [hm, storeAll_of_not_mem h.within (by decide) hx]
    exact hframe x hstack
  · have hrip : s.memory.load64 (q + 0x20#64) = s₀.memory.load64 (s₀.gpr .rsp + 0#64) :=
      (hload 0x20 (by decide)).trans hspilled.rip
    rw [BitVec.add_zero] at hrip
    simp [State.top, State.setGpr, State.setStatus, h₁, h₂, h₃, hrip]
  · exact h.rax
  · simp [State.setGpr, State.setStatus, h₁, h₂, h₃, hsp]
  · intro r hrax hrcx hrsp
    by_cases hrbp : r = .rbp
    · subst hrbp
      have hrbp : s.memory.load64 (q + 0x10#64) = s₀.gpr .rbp :=
        (hload 0x10 (by decide)).trans hspilled.rbp
      simp [State.top, State.setGpr, State.setStatus, h₁, hrbp]
    · simp [State.setGpr, State.setStatus, hrsp, hrbp, h.gpr r hrax hrcx hrbp hrsp]
  · exact h.xmm
  · exact h.x87
  · exact h.mxcsr
  · exact h.seg

/-- A capturing function, whose sixth instruction puts the context pointer in `rax`. -/
theorem capture_spec {pointer : Asm} (hc : Aligned c)
    (hapart : ∀ x ∈ Region q 0x28, x ∉ Region c contextSize) (hsp : s₀.gpr .rsp = q + 0x20#64)
    (hpointer : ∀ s : State, s.gpr .rbp = q + 0x10#64 → s.gpr .rdi = s₀.gpr .rdi →
      pointer.exec core s = some (s.setGpr .rax c)) :
    ∃ s', run core (freeRegisters ++ pointer :: (saveRegisters ++ returnToCaller)) s₀ = some s' ∧
      Captured s₀ q c s' := by
  obtain ⟨s₁, hrun₁, hmemory, hgpr, hxmm, hx87, hmxcsr, hseg⟩ := freeRegisters_spec core hsp
  have hcapturing : Capturing s₀ q c [] (s₁.setGpr .rax c) := by
    constructor
    · refine ⟨s₁.memory, rfl, ?_, fun x hx => ?_⟩
      · rw [hmemory]
        exact spilled_of_writes hsp
      · rw [hmemory]
        refine storeAll_of_not_mem ?_ (by decide) hx
        simp [Within]
    · exact nofun
    · exact State.setGpr_gpr_self _ _ _
    · simp [State.setGpr, hgpr]
    · simp [State.setGpr, hgpr]
    · intro r hrax _ hrbp hrsp
      simp [State.setGpr, hgpr, hrax, hrbp, hrsp]
    · exact hxmm
    · exact hx87
    · exact hmxcsr
    · exact hseg
  obtain ⟨s₂, hrun₂, hs₂⟩ := saves_registers core s₀ hc hapart hsp [] _ hcapturing
  obtain ⟨s₃, hrun₃, hs₃⟩ := returnToCaller_spec core hapart hsp hs₂
  have hexec : pointer.exec core s₁ = some (s₁.setGpr .rax c) := by
    refine hpointer s₁ ?_ ?_ <;> simp [hgpr]
  refine ⟨s₃, ?_, hs₃⟩
  rw [run_append_of hrun₁, run_cons_of hexec, run_append_of hrun₂, hrun₃]

end

/-- `capture_context` writes the context of its caller where its argument points. -/
theorem captureContext_spec {s : State} (hc : Aligned (s.gpr .rdi))
    (hapart : ∀ x ∈ Region (s.gpr .rsp - 0x20#64) 0x28, x ∉ Region (s.gpr .rdi) contextSize) :
    ∃ s', run core captureContext s = some s' ∧
      Captured s (s.gpr .rsp - 0x20#64) (s.gpr .rdi) s' := by
  refine capture_spec hc hapart (BitVec.sub_add_cancel _ _).symm fun s' _ hrdi => ?_
  rw [Asm.exec, hrdi]

/-- `zpp_x64_capture_context_into_stack` writes the context of its caller above the return address. -/
theorem captureContextIntoStack_spec {s : State} (hc : Aligned (s.gpr .rsp + 0x8#64)) :
    ∃ s', run core captureContextIntoStack s = some s' ∧
      Captured s (s.gpr .rsp - 0x20#64) (s.gpr .rsp + 0x8#64) s' := by
  obtain ⟨q, hsp⟩ : ∃ q, s.gpr .rsp = q + 0x20#64 :=
    ⟨s.gpr .rsp - 0x20#64, (BitVec.sub_add_cancel _ _).symm⟩
  have hq : s.gpr .rsp - 0x20#64 = q := by rw [hsp, BitVec.add_sub_cancel]
  have hcontext : s.gpr .rsp + 0x8#64 = q + 0x28#64 := by
    rw [hsp, BitVec.add_assoc]
    rfl
  rw [hcontext] at hc ⊢
  rw [hq]
  refine capture_spec hc (fun x hx => ?_) hsp fun s' hrbp _ => ?_
  · rw [← BitVec.add_zero q] at hx
    exact not_mem_region_add (s := 0) (.inl (by decide)) (by decide) (by decide) hx
  · rw [Asm.exec, hrbp, BitVec.add_assoc]
    rfl

end Zpp.X64
