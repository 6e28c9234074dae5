import Mathlib.Tactic.Common

/-!
# The key mixing of TKIP

* `sbox`, `subst` — the table and the substitution of 16-bit words.
* `phase1` — from the key, the transmitter's address and the upper 32 bits of the counter to 80 bits, for any
  substitution.
* `phase2` — from these, the key and the lower 16 bits of the counter to the key of RC4.
* `phase1_inj` — the first phase keeps different counters and different addresses apart.
-/

set_option autoImplicit false

namespace TkipMixing

/-- A word, from its low octet and its high one. -/
def mk16 (hi lo : BitVec 8) : BitVec 16 := hi ++ lo

def lo8 (v : BitVec 16) : BitVec 8 := v.setWidth 8
def hi8 (v : BitVec 16) : BitVec 8 := (v >>> 8).setWidth 8

def swap16 (v : BitVec 16) : BitVec 16 := mk16 (lo8 v) (hi8 v)

/-- The word with its bits moved down by one, in a circle. -/
def ror1 (v : BitVec 16) : BitVec 16 := (v >>> 1) ||| (v <<< 15)

/-- The part of the AES S-box for 16-bit words. -/
def sbox : List (BitVec 16) :=
  [
    0xc6a5, 0xf884, 0xee99, 0xf68d, 0xff0d, 0xd6bd, 0xdeb1, 0x9154, 0x6050, 0x0203, 0xcea9, 0x567d,
    0xe719, 0xb562, 0x4de6, 0xec9a, 0x8f45, 0x1f9d, 0x8940, 0xfa87, 0xef15, 0xb2eb, 0x8ec9, 0xfb0b,
    0x41ec, 0xb367, 0x5ffd, 0x45ea, 0x23bf, 0x53f7, 0xe496, 0x9b5b, 0x75c2, 0xe11c, 0x3dae, 0x4c6a,
    0x6c5a, 0x7e41, 0xf502, 0x834f, 0x685c, 0x51f4, 0xd134, 0xf908, 0xe293, 0xab73, 0x6253, 0x2a3f,
    0x080c, 0x9552, 0x4665, 0x9d5e, 0x3028, 0x37a1, 0x0a0f, 0x2fb5, 0x0e09, 0x2436, 0x1b9b, 0xdf3d,
    0xcd26, 0x4e69, 0x7fcd, 0xea9f, 0x121b, 0x1d9e, 0x5874, 0x342e, 0x362d, 0xdcb2, 0xb4ee, 0x5bfb,
    0xa4f6, 0x764d, 0xb761, 0x7dce, 0x527b, 0xdd3e, 0x5e71, 0x1397, 0xa6f5, 0xb968, 0x0000, 0xc12c,
    0x4060, 0xe31f, 0x79c8, 0xb6ed, 0xd4be, 0x8d46, 0x67d9, 0x724b, 0x94de, 0x98d4, 0xb0e8, 0x854a,
    0xbb6b, 0xc52a, 0x4fe5, 0xed16, 0x86c5, 0x9ad7, 0x6655, 0x1194, 0x8acf, 0xe910, 0x0406, 0xfe81,
    0xa0f0, 0x7844, 0x25ba, 0x4be3, 0xa2f3, 0x5dfe, 0x80c0, 0x058a, 0x3fad, 0x21bc, 0x7048, 0xf104,
    0x63df, 0x77c1, 0xaf75, 0x4263, 0x2030, 0xe51a, 0xfd0e, 0xbf6d, 0x814c, 0x1814, 0x2635, 0xc32f,
    0xbee1, 0x35a2, 0x88cc, 0x2e39, 0x9357, 0x55f2, 0xfc82, 0x7a47, 0xc8ac, 0xbae7, 0x322b, 0xe695,
    0xc0a0, 0x1998, 0x9ed1, 0xa37f, 0x4466, 0x547e, 0x3bab, 0x0b83, 0x8cca, 0xc729, 0x6bd3, 0x283c,
    0xa779, 0xbce2, 0x161d, 0xad76, 0xdb3b, 0x6456, 0x744e, 0x141e, 0x92db, 0x0c0a, 0x486c, 0xb8e4,
    0x9f5d, 0xbd6e, 0x43ef, 0xc4a6, 0x39a8, 0x31a4, 0xd337, 0xf28b, 0xd532, 0x8b43, 0x6e59, 0xdab7,
    0x018c, 0xb164, 0x9cd2, 0x49e0, 0xd8b4, 0xacfa, 0xf307, 0xcf25, 0xcaaf, 0xf48e, 0x47e9, 0x1018,
    0x6fd5, 0xf088, 0x4a6f, 0x5c72, 0x3824, 0x57f1, 0x73c7, 0x9751, 0xcb23, 0xa17c, 0xe89c, 0x3e21,
    0x96dd, 0x61dc, 0x0d86, 0x0f85, 0xe090, 0x7c42, 0x71c4, 0xccaa, 0x90d8, 0x0605, 0xf701, 0x1c12,
    0xc2a3, 0x6a5f, 0xaef9, 0x69d0, 0x1791, 0x9958, 0x3a27, 0x27b9, 0xd938, 0xeb13, 0x2bb3, 0x2233,
    0xd2bb, 0xa970, 0x0789, 0x33a7, 0x2db6, 0x3c22, 0x1592, 0xc920, 0x8749, 0xaaff, 0x5078, 0xa57a,
    0x038f, 0x59f8, 0x0980, 0x1a17, 0x65da, 0xd731, 0x84c6, 0xd0b8, 0x82c3, 0x29b0, 0x5a77, 0x1e11,
    0x7bcb, 0xa8fc, 0x6dd6, 0x2c3a]

def subst (v : BitVec 16) : BitVec 16 := sbox.getD (lo8 v).toNat 0 ^^^ swap16 (sbox.getD (hi8 v).toNat 0)

structure Ttak where
  w0 : BitVec 16
  w1 : BitVec 16
  w2 : BitVec 16
  w3 : BitVec 16
  w4 : BitVec 16
  deriving DecidableEq, Repr

abbrev Octets : Type := Fin 6 → BitVec 8

section Mixing

variable (S : BitVec 16 → BitVec 16) (tk : Nat → BitVec 8)

def keyWord (n : Nat) : BitVec 16 := mk16 (tk (n + 1)) (tk n)

def round (i : Nat) (t : Ttak) : Ttak :=
  let j := 2 * (i % 2)
  let t0 := t.w0 + S (t.w4 ^^^ keyWord tk j)
  let t1 := t.w1 + S (t0 ^^^ keyWord tk (4 + j))
  let t2 := t.w2 + S (t1 ^^^ keyWord tk (8 + j))
  let t3 := t.w3 + S (t2 ^^^ keyWord tk (12 + j))
  let t4 := t.w4 + (S (t3 ^^^ keyWord tk j) + BitVec.ofNat 16 i)
  ⟨t0, t1, t2, t3, t4⟩

def begin1 (ta : Octets) (iv32 : BitVec 32) : Ttak :=
  ⟨iv32.setWidth 16, (iv32 >>> 16).setWidth 16, mk16 (ta 1) (ta 0), mk16 (ta 3) (ta 2), mk16 (ta 5) (ta 4)⟩

/-- **The first phase.** -/
def phase1 (ta : Octets) (iv32 : BitVec 32) : Ttak :=
  (List.range 8).foldl (fun t i => round S tk i t) (begin1 ta iv32)

/-- **The second phase**: the key of RC4. -/
def phase2 (t : Ttak) (iv16 : BitVec 16) : List (BitVec 8) :=
  let p5 := t.w4 + iv16
  let p0 := t.w0 + S (p5 ^^^ keyWord tk 0)
  let p1 := t.w1 + S (p0 ^^^ keyWord tk 2)
  let p2 := t.w2 + S (p1 ^^^ keyWord tk 4)
  let p3 := t.w3 + S (p2 ^^^ keyWord tk 6)
  let p4 := t.w4 + S (p3 ^^^ keyWord tk 8)
  let p5 := p5 + S (p4 ^^^ keyWord tk 10)
  let p0 := p0 + ror1 (p5 ^^^ keyWord tk 12)
  let p1 := p1 + ror1 (p0 ^^^ keyWord tk 14)
  let p2 := p2 + ror1 p1
  let p3 := p3 + ror1 p2
  let p4 := p4 + ror1 p3
  let p5 := p5 + ror1 p4
  [hi8 iv16, (hi8 iv16 ||| 0x20) &&& 0x7f, lo8 iv16, lo8 ((p5 ^^^ keyWord tk 0) >>> 1)] ++
    [p0, p1, p2, p3, p4, p5].flatMap fun p => [lo8 p, hi8 p]

/-! ## Different counters -/

theorem round_inj (i : Nat) {a b : Ttak} (h : round S tk i a = round S tk i b) : a = b := by
  obtain ⟨a0, a1, a2, a3, a4⟩ := a
  obtain ⟨b0, b1, b2, b3, b4⟩ := b
  unfold round at h
  dsimp only at h
  obtain ⟨h0, h1, h2, h3, h4⟩ := Ttak.mk.inj h
  -- the last word first: the others of the result determine what was added to it
  rw [h3] at h4
  obtain rfl := (BitVec.add_left_inj _).mp h4
  rw [h2] at h3
  obtain rfl := (BitVec.add_left_inj _).mp h3
  rw [h1] at h2
  obtain rfl := (BitVec.add_left_inj _).mp h2
  rw [h0] at h1
  obtain rfl := (BitVec.add_left_inj _).mp h1
  obtain rfl := (BitVec.add_left_inj _).mp h0
  rfl

theorem toNat_mk16 (hi lo : BitVec 8) : (mk16 hi lo).toNat = hi.toNat * 256 + lo.toNat := by
  unfold mk16
  have hlo : lo.toNat < 2 ^ 8 := lo.isLt
  rw [BitVec.toNat_append, ← Nat.shiftLeft_add_eq_or_of_lt hlo, Nat.shiftLeft_eq]

theorem mk16_inj {a b c d : BitVec 8} (h : mk16 a b = mk16 c d) : a = c ∧ b = d := by
  have heq := congrArg BitVec.toNat h
  rw [toNat_mk16, toNat_mk16] at heq
  have hb := b.isLt
  have hd := d.isLt
  exact ⟨BitVec.eq_of_toNat_eq (by omega), BitVec.eq_of_toNat_eq (by omega)⟩

theorem words_inj {iv iv' : BitVec 32} (hlo : iv.setWidth 16 = iv'.setWidth 16)
    (hhi : (iv >>> 16).setWidth 16 = (iv' >>> 16).setWidth 16) : iv = iv' := by
  have elo := congrArg BitVec.toNat hlo
  have ehi := congrArg BitVec.toNat hhi
  simp only [BitVec.toNat_setWidth, BitVec.toNat_ushiftRight, Nat.shiftRight_eq_div_pow] at elo ehi
  exact BitVec.eq_of_toNat_eq (by omega)

theorem begin1_inj {ta ta' : Octets} {iv iv' : BitVec 32} (h : begin1 ta iv = begin1 ta' iv') : ta = ta' ∧ iv = iv' := by
  obtain ⟨hlo, hhi, h01, h23, h45⟩ := Ttak.mk.inj h
  refine ⟨funext fun i => ?_, words_inj hlo hhi⟩
  match i with
  | 0 => exact (mk16_inj h01).2
  | 1 => exact (mk16_inj h01).1
  | 2 => exact (mk16_inj h23).2
  | 3 => exact (mk16_inj h23).1
  | 4 => exact (mk16_inj h45).2
  | 5 => exact (mk16_inj h45).1

/-- **Different counters and addresses have different keys.** -/
theorem phase1_inj {ta ta' : Octets} {iv iv' : BitVec 32} (h : phase1 S tk ta iv = phase1 S tk ta' iv') :
    ta = ta' ∧ iv = iv' := by
  have hfold : ∀ (l : List Nat) (a b : Ttak),
      l.foldl (fun t i => round S tk i t) a = l.foldl (fun t i => round S tk i t) b → a = b := by
    intro l
    induction l with
    | nil => exact fun a b h => h
    | cons i l ih => exact fun a b h => round_inj S tk i (ih _ _ h)
  exact begin1_inj (hfold _ _ _ h)

end Mixing

end TkipMixing
