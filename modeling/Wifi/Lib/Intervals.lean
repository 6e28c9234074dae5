import Mathlib

/-!
# Unions of intervals, and rows of them

Intervals are given by their ends, over a linear order, and named by numbers.

* `Touch`, `Joined` — two intervals share a point; an interval is reached from another through such pairs.
* `above_or_below` — what is not in the union of an interval is above all of it, or below.
* `Row` — a row of intervals, none of which ends before the next one starts; `Row.ends` — if the row ascends as a whole, its ends are in
  the union of each member.
-/

set_option autoImplicit false

namespace Intervals

variable {α : Type*} [LinearOrder α] {lo hi : Nat → α} {n i j k a b : Nat}

def Touch (lo hi : Nat → α) (i j : Nat) : Prop := lo i ≤ hi j ∧ lo j ≤ hi i

/-- An interval of the first `n` is reached through intervals that touch. -/
def Joined (lo hi : Nat → α) (n : Nat) : Nat → Nat → Prop := Relation.ReflTransGen fun i j => j < n ∧ Touch lo hi i j

/-- An interval that is above one of a union, and is not in it, is above all of it. -/
theorem above_of_above (hproper : ∀ i, i < n → lo i < hi i) (hk : k < n) (hnot : ¬ Joined lo hi n i k) (h : hi i < lo k)
    (hj : Joined lo hi n i j) : hi j < lo k := by
  induction hj with
  | refl => exact h
  | tail hpre hstep ih =>
    obtain ⟨hlt, htouch⟩ := hstep
    by_contra hle
    rw [not_lt] at hle
    -- the new one reaches up to the interval, as it starts below
    exact hnot ((hpre.tail ⟨hlt, htouch⟩).tail ⟨hk, (le_trans htouch.2 (le_of_lt (lt_trans ih (hproper k hk)))), hle⟩)

theorem below_of_below (hproper : ∀ i, i < n → lo i < hi i) (hk : k < n) (hnot : ¬ Joined lo hi n i k) (h : hi k < lo i)
    (hj : Joined lo hi n i j) : hi k < lo j := by
  induction hj with
  | refl => exact h
  | tail hpre hstep ih =>
    obtain ⟨hlt, htouch⟩ := hstep
    by_contra hle
    rw [not_lt] at hle
    exact hnot ((hpre.tail ⟨hlt, htouch⟩).tail ⟨hk, hle, le_trans (le_of_lt (hproper k hk)) (le_of_lt (lt_of_lt_of_le ih htouch.1))⟩)

/-- **What is not in the union of an interval** is above it, or below. -/
theorem above_or_below (hk : k < n) (hnot : ¬ Joined lo hi n i k) : hi i < lo k ∨ hi k < lo i := by
  by_contra hneither
  rw [not_or, not_lt, not_lt] at hneither
  exact hnot (.single ⟨hk, hneither.2, hneither.1⟩)

/-- No interval of a row ends before the next one starts. -/
def Row (lo hi : Nat → α) (a b : Nat) : Prop := ∀ k, a ≤ k → k < b → ¬ hi k < lo (k + 1)

theorem Row.mono (h : Row lo hi a b) (ha : a ≤ i) (hb : j ≤ b) : Row lo hi i j :=
  fun k hik hkj => h k (Nat.le_trans ha hik) (Nat.lt_of_lt_of_le hkj hb)

/-- Going down a row there is nothing below the union; what is above it stays above. -/
theorem Row.down (hproper : ∀ i, i < n → lo i < hi i) (hi' : i < n) (m : Nat) (hm : m ≤ i) (hrow : Row lo hi (i - m) i) :
    Joined lo hi n i (i - m) ∨ ∀ j, Joined lo hi n i j → hi j < lo (i - m) := by
  induction m with
  | zero => exact .inl .refl
  | succ m ih =>
    have hnext : i - (m + 1) + 1 = i - m := by omega
    have hlink := hrow (i - (m + 1)) (Nat.le_refl _) (by omega)
    rw [hnext] at hlink
    have hk : i - (m + 1) < n := by omega
    by_cases hin : Joined lo hi n i (i - (m + 1))
    · exact .inl hin
    · right
      rcases above_or_below hk hin with habove | hbelow
      · exact fun j hj => above_of_above hproper hk hin habove hj
      · exfalso
        apply hlink
        rcases ih (by omega) (hrow.mono (by omega) (Nat.le_refl _)) with hjoined | hall
        · exact below_of_below hproper hk hin hbelow hjoined
        · exact lt_trans hbelow (lt_trans (hproper i hi') (hall i .refl))

/-- Going up a row there is nothing above the union; what is below it stays below. -/
theorem Row.up (hproper : ∀ i, i < n → lo i < hi i) (hi' : i < n) (m : Nat) (hm : i + m < n) (hrow : Row lo hi i (i + m)) :
    Joined lo hi n i (i + m) ∨ ∀ j, Joined lo hi n i j → hi (i + m) < lo j := by
  induction m with
  | zero => exact .inl .refl
  | succ m ih =>
    have hlink := hrow (i + m) (by omega) (by omega)
    by_cases hin : Joined lo hi n i (i + (m + 1))
    · exact .inl hin
    · right
      rcases above_or_below hm hin with habove | hbelow
      · exfalso
        apply hlink
        rcases ih (by omega) (hrow.mono (Nat.le_refl _) (by omega)) with hjoined | hall
        · exact above_of_above hproper hm hin habove hjoined
        · exact lt_trans (hall i .refl) (lt_trans (hproper i hi') habove)
      · exact fun j hj => below_of_below hproper hm hin hbelow hj

/-- **The ends of a row that ascends as a whole** are in the union of each member. -/
theorem Row.ends (hproper : ∀ i, i < n → lo i < hi i) (hrow : Row lo hi a b) (ha : a ≤ i) (hb : i ≤ b) (hbn : b < n)
    (hasc : lo a ≤ hi b) : Joined lo hi n i a ∧ Joined lo hi n i b := by
  have hi' : i < n := Nat.lt_of_le_of_lt hb hbn
  have hdown := Row.down hproper hi' (i - a) (by omega) (hrow.mono (by omega) hb)
  have hup := Row.up hproper hi' (b - i) (by omega) (hrow.mono ha (by omega))
  rw [show i - (i - a) = a by omega] at hdown
  rw [show i + (b - i) = b by omega] at hup
  rcases hdown with hda | habove
  · refine ⟨hda, ?_⟩
    rcases hup with hub | hbelow
    · exact hub
    · exact absurd hasc (not_le.mpr (hbelow a hda))
  · exfalso
    rcases hup with hub | hbelow
    · exact absurd hasc (not_le.mpr (habove b hub))
    · exact absurd hasc (not_le.mpr (lt_trans (hbelow i .refl) (lt_trans (hproper i hi') (habove i .refl))))

theorem Joined.eq_of_isolated (halone : ∀ j, j < n → Touch lo hi i j → j = i) (hj : Joined lo hi n i j) : j = i := by
  induction hj with
  | refl => rfl
  | tail hpre hstep ih =>
    subst ih
    exact halone _ hstep.1 hstep.2

end Intervals
