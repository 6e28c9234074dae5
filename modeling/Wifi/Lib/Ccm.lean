import Mathlib.Tactic.Common

/-!
# Counter mode and CBC-MAC over a block function

* `BlockCipher` — a function on blocks of `n` words; it need not be invertible.
* `xorAt` — a part of a block is xored with data.
* `cbcMac` — the chaining value after the data, the last block padded with zeros.
* `ctrXor` — the data xored with the function's values at successive counters.
* `cbcMac_block`, `ctrXor_block` — the first block, or a short last one.
* `ctrXor_ctrXor` — counter mode is its own inverse.
-/

set_option autoImplicit false

namespace Ccm

structure BlockCipher (w n : Nat) where
  encrypt : List (BitVec w) → List (BitVec w)
  length_encrypt : ∀ b, (encrypt b).length = n

variable {w n : Nat}

/-- The words of `b` from `off` on, xored with `d` as far as both go. -/
def xorAt : List (BitVec w) → Nat → List (BitVec w) → List (BitVec w)
  | [], _, _ => []
  | b, _, [] => b
  | x :: b, 0, y :: d => (x ^^^ y) :: xorAt b 0 d
  | x :: b, off + 1, d => x :: xorAt b off d

def cbcMac (C : BlockCipher w (n + 1)) (b data : List (BitVec w)) : List (BitVec w) :=
  if h : data = [] then b
  else cbcMac C (C.encrypt (xorAt b 0 (data.take (n + 1)))) (data.drop (n + 1))
termination_by data.length
decreasing_by
  have := List.length_pos_iff.2 h
  rw [List.length_drop]
  omega

/-- The data xored with the stream of blocks from the counter `i` on. -/
def ctrXor (C : BlockCipher w (n + 1)) (ctr : Nat → List (BitVec w)) (i : Nat)
    (data : List (BitVec w)) : List (BitVec w) :=
  if _h : data = [] then []
  else xorAt (data.take (n + 1)) 0 (C.encrypt (ctr i)) ++ ctrXor C ctr (i + 1) (data.drop (n + 1))
termination_by data.length
decreasing_by
  have := List.length_pos_iff.2 _h
  rw [List.length_drop]
  omega

/-! ## Exclusive or -/

@[simp]
theorem xorAt_nil (b : List (BitVec w)) (off : Nat) : xorAt b off [] = b := by
  cases b with
  | nil => rfl
  | cons x b => rfl

@[simp]
theorem xorAt_nil_left (off : Nat) (d : List (BitVec w)) : xorAt [] off d = [] := rfl

@[simp]
theorem xorAt_cons_succ (x : BitVec w) (b d : List (BitVec w)) (off : Nat) :
    xorAt (x :: b) (off + 1) d = x :: xorAt b off d := by
  cases d with
  | nil => rw [xorAt_nil, xorAt_nil]
  | cons y d => rfl

@[simp]
theorem length_xorAt (b : List (BitVec w)) (off : Nat) (d : List (BitVec w)) :
    (xorAt b off d).length = b.length := by
  fun_induction xorAt b off d with
  | case1 => rfl
  | case2 => rfl
  | case3 x b y d ih => exact congrArg (· + 1) ih
  | case4 x b off d _ ih => exact congrArg (· + 1) ih

theorem xorAt_append (b : List (BitVec w)) (off : Nat) (d d' : List (BitVec w)) :
    xorAt (xorAt b off d) (off + d.length) d' = xorAt b off (d ++ d') := by
  fun_induction xorAt b off d with
  | case1 => rfl
  | case2 => rfl
  | case3 x b y d ih =>
    rw [Nat.zero_add] at ih
    rw [List.length_cons, Nat.zero_add, xorAt_cons_succ, ih]
    rfl
  | case4 x b off d _ ih =>
    rw [Nat.succ_add, xorAt_cons_succ, ih, xorAt_cons_succ]

theorem xorAt_append_rev (b d d' : List (BitVec w)) :
    xorAt (xorAt b d.length d') 0 d = xorAt b 0 (d ++ d') := by
  induction d generalizing b with
  | nil => rw [xorAt_nil]; rfl
  | cons y d ih =>
    cases b with
    | nil => rfl
    | cons x b =>
      rw [List.length_cons, xorAt_cons_succ]
      exact congrArg (List.cons (x ^^^ y)) (ih b)

theorem xorAt_zero_append (d d' e : List (BitVec w)) :
    xorAt (d ++ d') 0 e = xorAt d 0 e ++ xorAt d' 0 (e.drop d.length) := by
  induction d generalizing e with
  | nil => rfl
  | cons x d ih =>
    cases e with
    | nil => rw [xorAt_nil, xorAt_nil, List.drop_nil, xorAt_nil]
    | cons y e => exact congrArg (List.cons (x ^^^ y)) (ih e)

theorem xorAt_take (d e : List (BitVec w)) : xorAt d 0 (e.take d.length) = xorAt d 0 e := by
  induction d generalizing e with
  | nil => rfl
  | cons x d ih =>
    cases e with
    | nil => rfl
    | cons y e => exact congrArg (List.cons (x ^^^ y)) (ih e)

theorem xorAt_prefix (d r e : List (BitVec w)) :
    xorAt (d ++ r) 0 (e.take d.length) = xorAt d 0 e ++ r := by
  rw [xorAt_zero_append, xorAt_take, List.drop_eq_nil_of_le (List.length_take_le _ _), xorAt_nil]

theorem xorAt_xorAt (b : List (BitVec w)) (off : Nat) (d : List (BitVec w)) :
    xorAt (xorAt b off d) off d = b := by
  fun_induction xorAt b off d with
  | case1 => rfl
  | case2 => rw [xorAt_nil]
  | case3 x b y d ih =>
    have hxy : x ^^^ y ^^^ y = x := by rw [BitVec.xor_assoc, BitVec.xor_self, BitVec.xor_zero]
    show (x ^^^ y ^^^ y) :: xorAt (xorAt b 0 d) 0 d = x :: b
    rw [hxy, ih]
  | case4 x b off d _ ih => rw [xorAt_cons_succ, ih]

theorem xorAt_zeros (b : List (BitVec w)) (off : Nat) (d : List (BitVec w)) (k : Nat) :
    xorAt b off (d ++ List.replicate k 0) = xorAt b off d := by
  have hzero : ∀ (c : List (BitVec w)) (off k : Nat), xorAt c off (List.replicate k 0) = c := by
    intro c
    induction c with
    | nil => exact fun _ _ => rfl
    | cons x c ih =>
      intro off k
      cases off with
      | zero =>
        cases k with
        | zero => rfl
        | succ k =>
          show (x ^^^ 0) :: xorAt c 0 (List.replicate k 0) = x :: c
          rw [ih, show x ^^^ 0 = x from BitVec.xor_zero]
      | succ off => rw [xorAt_cons_succ, ih]
  rw [← xorAt_append, hzero]

theorem take_xorAt (b d : List (BitVec w)) (k : Nat) : (xorAt b 0 d).take k = xorAt (b.take k) 0 d := by
  induction b generalizing d k with
  | nil => rw [List.take_nil, xorAt_nil_left, List.take_nil]
  | cons x b ih =>
    cases k with
    | zero => rfl
    | succ k =>
      cases d with
      | nil => rw [xorAt_nil, xorAt_nil]
      | cons y d => exact congrArg (List.cons (x ^^^ y)) (ih d k)

/-! ## Blocks -/

variable {C : BlockCipher w (n + 1)} {ctr : Nat → List (BitVec w)}

@[simp]
theorem cbcMac_nil (b : List (BitVec w)) : cbcMac C b [] = b := by
  rw [cbcMac, dif_pos rfl]

@[simp]
theorem ctrXor_nil (i : Nat) : ctrXor C ctr i [] = [] := by
  rw [ctrXor, dif_pos rfl]

/-- The first block is a whole one, or the only one. -/
def FirstBlock (n : Nat) (d rest : List (BitVec w)) : Prop :=
  d ≠ [] ∧ (d.length = n + 1 ∨ (d.length ≤ n + 1 ∧ rest = []))

theorem FirstBlock.split {d rest : List (BitVec w)} (h : FirstBlock n d rest) :
    d ++ rest ≠ [] ∧ (d ++ rest).take (n + 1) = d ∧ (d ++ rest).drop (n + 1) = rest := by
  obtain ⟨hne, hlen | ⟨hlen, hrest⟩⟩ := h
  · refine ⟨List.append_ne_nil_of_left_ne_nil hne _, ?_, ?_⟩
    · rw [← hlen, List.take_left']
      rfl
    · rw [← hlen, List.drop_left']
      rfl
  · rw [hrest, List.append_nil]
    exact ⟨hne, List.take_of_length_le hlen, List.drop_eq_nil_of_le hlen⟩

theorem cbcMac_block {d rest : List (BitVec w)} (h : FirstBlock n d rest) (b : List (BitVec w)) :
    cbcMac C b (d ++ rest) = cbcMac C (C.encrypt (xorAt b 0 d)) rest := by
  obtain ⟨hne, htake, hdrop⟩ := h.split
  rw [cbcMac, dif_neg hne, htake, hdrop]

theorem ctrXor_block {d rest : List (BitVec w)} (h : FirstBlock n d rest) (i : Nat) :
    ctrXor C ctr i (d ++ rest) = xorAt d 0 (C.encrypt (ctr i)) ++ ctrXor C ctr (i + 1) rest := by
  obtain ⟨hne, htake, hdrop⟩ := h.split
  rw [ctrXor, dif_neg hne, htake, hdrop]

theorem firstBlock_take {data : List (BitVec w)} (h : data ≠ []) :
    FirstBlock n (data.take (n + 1)) (data.drop (n + 1)) := by
  have hpos := List.length_pos_iff.2 h
  refine ⟨fun h0 => ?_, ?_⟩
  · have := congrArg List.length h0
    rw [List.length_take, List.length_nil] at this
    omega
  · rw [List.length_take, List.drop_eq_nil_iff]
    omega

@[simp]
theorem length_ctrXor (i : Nat) (data : List (BitVec w)) :
    (ctrXor C ctr i data).length = data.length := by
  fun_induction ctrXor C ctr i data with
  | case1 => rfl
  | case2 i data h ih =>
    rw [List.length_append, length_xorAt, ih, ← List.length_append, List.take_append_drop]

theorem length_cbcMac {b : List (BitVec w)} (hb : b.length = n + 1) (data : List (BitVec w)) :
    (cbcMac C b data).length = n + 1 := by
  fun_induction cbcMac C b data with
  | case1 => exact hb
  | case2 b data h ih => exact ih (C.length_encrypt _)

/-- **Counter mode is its own inverse.** -/
theorem ctrXor_ctrXor (i : Nat) (data : List (BitVec w)) :
    ctrXor C ctr i (ctrXor C ctr i data) = data := by
  fun_induction ctrXor C ctr i data with
  | case1 => rw [ctrXor_nil]
  | case2 i data h ih =>
    have hfirst : FirstBlock n (xorAt (data.take (n + 1)) 0 (C.encrypt (ctr i)))
        (ctrXor C ctr (i + 1) (data.drop (n + 1))) := by
      obtain ⟨hne, hlen⟩ := firstBlock_take (n := n) h
      refine ⟨?_, ?_⟩
      · rwa [← List.length_pos_iff, length_xorAt, List.length_pos_iff]
      · rw [length_xorAt]
        refine hlen.imp_right (And.imp_right fun hr => ?_)
        rw [hr, ctrXor_nil]
    rw [ctrXor_block hfirst, xorAt_xorAt, ih, List.take_append_drop]

end Ccm
