import Mathlib

/-!
# Comparison of numbers that are stored as bytes

* `beValue` — the number that a list of bytes is, the most significant one first.
* `memcmp` — the order of the first bytes that differ.
* `memcmp_eq_compare` — between lists of one length, this is the order of the numbers.
-/

set_option autoImplicit false

namespace ByteOrder

variable {w : Nat}

def beValue : List (BitVec w) → Nat
  | [] => 0
  | x :: xs => x.toNat * (2 ^ w) ^ xs.length + beValue xs

/-- `memcmp` on two blocks of one length. -/
def memcmp : List (BitVec w) → List (BitVec w) → Ordering
  | x :: xs, y :: ys => if x < y then .lt else if y < x then .gt else memcmp xs ys
  | _, _ => .eq

theorem beValue_cons (x : BitVec w) (xs : List (BitVec w)) :
    beValue (x :: xs) = x.toNat * (2 ^ w) ^ xs.length + beValue xs := rfl

theorem beValue_lt (xs : List (BitVec w)) : beValue xs < (2 ^ w) ^ xs.length := by
  induction xs with
  | nil => exact Nat.one_pos
  | cons x xs ih =>
    have hx : x.toNat + 1 ≤ 2 ^ w := x.isLt
    calc beValue (x :: xs) < x.toNat * (2 ^ w) ^ xs.length + (2 ^ w) ^ xs.length :=
          Nat.add_lt_add_left ih _
      _ = (x.toNat + 1) * (2 ^ w) ^ xs.length := (Nat.succ_mul _ _).symm
      _ ≤ 2 ^ w * (2 ^ w) ^ xs.length := Nat.mul_le_mul_right _ hx
      _ = (2 ^ w) ^ (x :: xs).length := (Nat.pow_succ').symm

theorem beValue_cons_lt {x y : BitVec w} {xs ys : List (BitVec w)} (hlen : xs.length = ys.length)
    (hxy : x < y) : beValue (x :: xs) < beValue (y :: ys) := by
  have hx : x.toNat + 1 ≤ y.toNat := hxy
  calc beValue (x :: xs) < x.toNat * (2 ^ w) ^ xs.length + (2 ^ w) ^ xs.length :=
        Nat.add_lt_add_left (beValue_lt xs) _
    _ = (x.toNat + 1) * (2 ^ w) ^ xs.length := (Nat.succ_mul _ _).symm
    _ ≤ y.toNat * (2 ^ w) ^ xs.length := Nat.mul_le_mul_right _ hx
    _ = y.toNat * (2 ^ w) ^ ys.length := by rw [hlen]
    _ ≤ beValue (y :: ys) := Nat.le_add_right _ _

/-- **`memcmp` compares the numbers.** -/
theorem memcmp_eq_compare {xs ys : List (BitVec w)} (hlen : xs.length = ys.length) :
    memcmp xs ys = compare (beValue xs) (beValue ys) := by
  induction xs generalizing ys with
  | nil =>
    cases ys with
    | nil => rfl
    | cons y ys => cases hlen
  | cons x xs ih =>
    cases ys with
    | nil => cases hlen
    | cons y ys =>
      have hlen' : xs.length = ys.length := Nat.succ.inj hlen
      unfold memcmp
      by_cases hlt : x < y
      · rw [if_pos hlt, compare_lt_iff_lt.2 (beValue_cons_lt hlen' hlt)]
      · rw [if_neg hlt]
        by_cases hgt : y < x
        · rw [if_pos hgt, compare_gt_iff_gt.2 (beValue_cons_lt hlen'.symm hgt)]
        · have he : x = y := BitVec.le_antisymm (BitVec.not_lt.1 hgt) (BitVec.not_lt.1 hlt)
          rw [if_neg hgt, ih hlen', he, beValue_cons, beValue_cons, hlen',
            Nat.compare_eq_ite_lt, Nat.compare_eq_ite_lt]
          simp only [Nat.add_lt_add_iff_left]

end ByteOrder

/-!
## Absorbing words of four elements

A state takes a list in words of four elements, one after the other.

* `absorb` — the state behind the whole words of a list.
* `absorb_append` — a list of whole words can be absorbed before what follows it.
* `absorb_injective` — states that differ do so behind any list, when no word lets them coincide.
-/

namespace Absorb

variable {σ β : Type*} (step : σ → β → β → β → β → σ)

/-- The state behind the whole words of a list. -/
def absorb : σ → List β → σ
  | s, a :: b :: c :: d :: rest => absorb (step s a b c d) rest
  | s, _ => s

variable {step} {s : σ} {xs ys : List β}

theorem absorb_word (s : σ) (a b c d : β) : absorb step s [a, b, c, d] = step s a b c d := by
  rw [absorb]
  rfl

/-- **Whole words** can be absorbed before what follows them. -/
theorem absorb_append : ∀ {s : σ} {xs : List β}, xs.length % 4 = 0 →
    absorb step s (xs ++ ys) = absorb step (absorb step s xs) ys
  | _, [], _ => rfl
  | _, [_], h => by simp at h
  | _, [_, _], h => by simp at h
  | _, [_, _, _], h => by simp at h
  | s, a :: b :: c :: d :: xs, h => by
    simp only [List.length_cons] at h
    rw [List.cons_append, List.cons_append, List.cons_append, List.cons_append, absorb, absorb]
    exact absorb_append (by omega)

/-- **States that differ** do so behind any list. -/
theorem absorb_injective (hstep : ∀ a b c d s s', step s a b c d = step s' a b c d → s = s') :
    ∀ (xs : List β) {s s' : σ}, absorb step s xs = absorb step s' xs → s = s'
  | [], _, _, h => h
  | [_], _, _, h => h
  | [_, _], _, _, h => h
  | [_, _, _], _, _, h => h
  | a :: b :: c :: d :: xs, s, s', h => by
    rw [absorb, absorb] at h
    exact hstep a b c d s s' (absorb_injective hstep xs h)

end Absorb
