import Mathlib.Algebra.BigOperators.Intervals
import Mathlib.Algebra.BigOperators.Ring.Finset
import Mathlib.Algebra.Order.BigOperators.Group.Finset
import Mathlib.Data.Nat.Bitwise
import Mathlib.Tactic.Common
import Mathlib.Tactic.Linarith
import Mathlib.Tactic.Ring

/-!
# Arrays of queues

An array of queues is a function from slot numbers to lists.  `total w q n` adds the weight of
everything held in the first `n` slots; with weight `1` it counts the items.

* `clear` empties one slot, `put` appends to one slot; `total_clear` and `total_put` say what
  each does to the total.  `clearRange` empties a run of slots whose content is `items`.
* `shift q i n` moves the slots `i, …, n - 1` down by `i`; `total_shift` — nothing is lost when
  the slots below `i` are empty.
* `count_eq_zero` — the count is `0` only when every slot is empty.
-/

set_option autoImplicit false

/-!
## Positions on a ring

Positions are numbers below the size of the ring.

* `mod_eq_ite` — a position that went around at most once.
* `dist` — the steps from one position to another one; `dist_add`, `add_dist` — where so many steps lead;
  `dist_succ` — one step less after one step.
-/

namespace Ring

variable {size a r w k : Nat}

theorem mod_eq_ite (h : a < 2 * size) : a % size = if a < size then a else a - size := by
  by_cases ha : a < size
  · rw [if_pos ha, Nat.mod_eq_of_lt ha]
  · rw [if_neg ha, Nat.mod_eq_sub_mod (by omega), Nat.mod_eq_of_lt (by omega)]

/-- The steps from `r` to `w`. -/
def dist (size r w : Nat) : Nat := (w + size - r) % size

theorem dist_eq (hr : r < size) (hw : w < size) : dist size r w = if r ≤ w then w - r else w + size - r := by
  unfold dist
  rw [mod_eq_ite (by omega)]
  split <;> split <;> omega

theorem dist_lt (hr : r < size) : dist size r w < size := Nat.mod_lt _ (by omega)

theorem dist_add (hr : r < size) (hk : k < size) : dist size r ((r + k) % size) = k := by
  rw [dist_eq hr (Nat.mod_lt _ (by omega)), mod_eq_ite (by omega)]
  split <;> split <;> omega

theorem add_dist (hr : r < size) (hw : w < size) : (r + dist size r w) % size = w := by
  rw [dist_eq hr hw]
  by_cases h : r ≤ w
  · rw [if_pos h, Nat.mod_eq_of_lt] <;> omega
  · rw [if_neg h, mod_eq_ite (by omega), if_neg] <;> omega

theorem dist_eq_zero (hr : r < size) (hw : w < size) : dist size r w = 0 ↔ r = w := by
  rw [dist_eq hr hw]
  split <;> omega

theorem dist_succ (hr : r < size) (hw : w < size) (hne : r ≠ w) :
    dist size ((r + 1) % size) w + 1 = dist size r w := by
  rw [dist_eq hr hw, dist_eq (Nat.mod_lt _ (by omega)) hw, mod_eq_ite (by omega)]
  split <;> split <;> split <;> omega

end Ring

namespace Slots

open Finset

variable {α : Type*}

/-- Empty slot `i`. -/
def clear (q : ℕ → List α) (i : ℕ) : ℕ → List α := Function.update q i []

/-- Append `xs` to slot `i`. -/
def put (q : ℕ → List α) (i : ℕ) (xs : List α) : ℕ → List α := Function.update q i (q i ++ xs)

/-- The slots `i, …, n - 1` moved down by `i`. -/
def shift (q : ℕ → List α) (i n t : ℕ) : List α := if t + i < n then q (t + i) else []

/-- The slots `a, …, b - 1` emptied. -/
def clearRange (q : ℕ → List α) (a b j : ℕ) : List α := if a ≤ j ∧ j < b then [] else q j

/-- Everything held in the slots `a, …, b - 1`, in slot order. -/
def items (q : ℕ → List α) (a b : ℕ) : List α := (List.range' a (b - a)).flatMap q

def weight (w : α → ℤ) (xs : List α) : ℤ := (xs.map w).sum

/-- Weight of everything held in the slots below `n`. -/
def total (w : α → ℤ) (q : ℕ → List α) (n : ℕ) : ℤ := ∑ i ∈ range n, weight w (q i)

/-- Number of items held in the slots below `n`. -/
def count (q : ℕ → List α) (n : ℕ) : ℤ := total (fun _ => 1) q n

@[simp] theorem clear_self (q : ℕ → List α) (i : ℕ) : clear q i i = [] := by simp [clear]

@[simp] theorem clear_ne (q : ℕ → List α) {i j : ℕ} (h : j ≠ i) : clear q i j = q j := by
  simp [clear, h]

@[simp] theorem put_self (q : ℕ → List α) (i : ℕ) (xs : List α) : put q i xs i = q i ++ xs := by
  simp [put]

@[simp] theorem put_ne (q : ℕ → List α) {i j : ℕ} (xs : List α) (h : j ≠ i) :
    put q i xs j = q j := by
  simp [put, h]

@[simp] theorem weight_nil (w : α → ℤ) : weight w [] = 0 := rfl

@[simp] theorem weight_append (w : α → ℤ) (xs ys : List α) :
    weight w (xs ++ ys) = weight w xs + weight w ys := by
  simp [weight]

@[simp] theorem weight_one (xs : List α) : weight (fun _ => 1) xs = xs.length := by
  simp [weight]

theorem mem_clear {q : ℕ → List α} {i j : ℕ} {x : α} (h : x ∈ clear q i j) : x ∈ q j := by
  by_cases hj : j = i
  · subst hj; simp at h
  · rwa [clear_ne q hj] at h

theorem clear_of_empty {q : ℕ → List α} {i : ℕ} (h : q i = []) : clear q i = q := by
  funext j
  by_cases hj : j = i
  · rw [hj, clear_self, h]
  · rw [clear_ne q hj]

@[simp] theorem clearRange_self (q : ℕ → List α) (a : ℕ) : clearRange q a a = q := by
  funext j
  rw [clearRange, if_neg (by omega)]

theorem clearRange_clear (q : ℕ → List α) {a b : ℕ} (h : a < b) :
    clearRange (clear q a) (a + 1) b = clearRange q a b := by
  funext j
  unfold clearRange
  by_cases hj : j = a
  · subst hj
    rw [if_neg (by omega), if_pos (by omega), clear_self]
  · by_cases hab : a ≤ j ∧ j < b
    · rw [if_pos (by omega), if_pos hab]
    · rw [if_neg (by omega), if_neg hab, clear_ne q hj]

@[simp] theorem items_self (q : ℕ → List α) (a : ℕ) : items q a a = [] := by simp [items]

theorem items_step (q : ℕ → List α) {a b : ℕ} (h : a < b) :
    items q a b = q a ++ items q (a + 1) b := by
  obtain ⟨k, rfl⟩ := Nat.exists_eq_add_of_lt h
  have e : a + k + 1 - a = k + 1 := by omega
  have e' : a + k + 1 - (a + 1) = k := by omega
  simp [items, e, e', List.range'_succ]

theorem mem_items {q : ℕ → List α} {a b : ℕ} {x : α} :
    x ∈ items q a b ↔ ∃ j, a ≤ j ∧ j < b ∧ x ∈ q j := by
  simp only [items, List.mem_flatMap, List.mem_range'_1]
  constructor
  · rintro ⟨j, hj, hx⟩
    exact ⟨j, by omega, by omega, hx⟩
  · rintro ⟨j, ha, hb, hx⟩
    exact ⟨j, by omega, hx⟩

/-- The items of a run of slots are ordered when each slot is and every slot comes before the
    later ones. -/
theorem pairwise_items {R : α → α → Prop} {q : ℕ → List α} {b : ℕ} : ∀ (k a : ℕ), a + k = b →
    (∀ i, a ≤ i → i < b → (q i).Pairwise R) →
    (∀ i j, a ≤ i → i < j → j < b → ∀ x ∈ q i, ∀ y ∈ q j, R x y) → (items q a b).Pairwise R
  | 0, a, hk, _, _ => by
    have e : a = b := by omega
    rw [e, items_self]
    exact List.Pairwise.nil
  | k + 1, a, hk, hin, hout => by
    rw [items_step q (by omega), List.pairwise_append]
    refine ⟨hin a (by omega) (by omega), pairwise_items k (a + 1) (by omega)
      (fun i h1 h2 => hin i (by omega) h2) (fun i j h1 h2 h3 => hout i j (by omega) h2 h3), ?_⟩
    intro x hx y hy
    obtain ⟨j, h1, h2, h3⟩ := mem_items.1 hy
    exact hout a j (by omega) (by omega) h2 x hx y h3

theorem items_congr {q q' : ℕ → List α} {a b : ℕ} (h : ∀ j, a ≤ j → j < b → q j = q' j) :
    items q a b = items q' a b := by
  unfold items
  refine List.flatMap_congr fun j hj => ?_
  have := List.mem_range'_1.1 hj
  exact h j (by omega) (by omega)

theorem items_eq_nil {q : ℕ → List α} {a b : ℕ} (h : ∀ j, a ≤ j → j < b → q j = []) :
    items q a b = [] := by
  have hc : items q a b = items (fun _ => []) a b := items_congr h
  rw [hc]
  simp [items]

theorem items_clear (q : ℕ → List α) (a b : ℕ) : items (clear q a) (a + 1) b = items q (a + 1) b :=
  items_congr fun j hj _ => clear_ne q (by omega)

theorem items_append (q : ℕ → List α) {a b c : ℕ} (hab : a ≤ b) (hbc : b ≤ c) :
    items q a c = items q a b ++ items q b c := by
  have e : c - a = (b - a) + (c - b) := by omega
  have e' : a + (b - a) = b := by omega
  unfold items
  rw [e, ← List.range'_append_1, e', List.flatMap_append]

theorem items_shift (q : ℕ → List α) {i n : ℕ} (hin : i ≤ n) : items (shift q i n) 0 n = items q i n := by
  have hlow : items (shift q i n) 0 (n - i) = items q i n := by
    unfold items
    rw [Nat.sub_zero, List.range'_eq_map_range (s := i), List.flatMap_map, ← List.range_eq_range']
    refine List.flatMap_congr fun t ht => ?_
    have ht := List.mem_range.mp ht
    rw [shift, if_pos (by omega), Nat.add_comm]
  have hhigh : items (shift q i n) (n - i) n = [] := items_eq_nil fun j hj _ => by rw [shift, if_neg (by omega)]
  rw [items_append _ (Nat.zero_le _) (Nat.sub_le n i), hlow, hhigh, List.append_nil]

theorem items_put (q : ℕ → List α) {a b i : ℕ} (xs : List α) (ha : a ≤ i) (hb : i < b) :
    (items (put q i xs) a b).Perm (xs ++ items q a b) := by
  have hbefore : items (put q i xs) a i = items q a i := items_congr fun j _ hj => put_ne q xs (by omega)
  have hbehind : items (put q i xs) (i + 1) b = items q (i + 1) b := items_congr fun j hj _ => put_ne q xs (by omega)
  rw [items_append _ ha hb.le, items_append q ha hb.le, items_step _ hb, items_step q hb, hbefore, hbehind, put_self]
  have hmove : ((items q a i ++ q i) ++ xs ++ items q (i + 1) b).Perm
      (xs ++ (items q a i ++ q i) ++ items q (i + 1) b) :=
    List.perm_append_comm.append_right _
  simpa only [List.append_assoc] using hmove

theorem total_clear (w : α → ℤ) (q : ℕ → List α) {i n : ℕ} (hi : i < n) :
    total w (clear q i) n = total w q n - weight w (q i) := by
  have hs := Finset.add_sum_erase (range n) (fun j => weight w (q j)) (mem_range.2 hi)
  have hc := Finset.add_sum_erase (range n) (fun j => weight w (clear q i j)) (mem_range.2 hi)
  have he : ∑ j ∈ (range n).erase i, weight w (clear q i j) =
      ∑ j ∈ (range n).erase i, weight w (q j) :=
    Finset.sum_congr rfl fun j hj => by rw [clear_ne q (Finset.ne_of_mem_erase hj)]
  simp only [clear_self, weight_nil] at hc
  unfold total
  rw [← hs, ← hc, he]
  ring

theorem total_put (w : α → ℤ) (q : ℕ → List α) {i n : ℕ} (xs : List α) (hi : i < n) :
    total w (put q i xs) n = total w q n + weight w xs := by
  have hs := Finset.add_sum_erase (range n) (fun j => weight w (q j)) (mem_range.2 hi)
  have hc := Finset.add_sum_erase (range n) (fun j => weight w (put q i xs j)) (mem_range.2 hi)
  have he : ∑ j ∈ (range n).erase i, weight w (put q i xs j) =
      ∑ j ∈ (range n).erase i, weight w (q j) :=
    Finset.sum_congr rfl fun j hj => by rw [put_ne q xs (Finset.ne_of_mem_erase hj)]
  simp only [put_self, weight_append] at hc
  unfold total
  rw [← hs, ← hc, he]
  ring

theorem total_empty (w : α → ℤ) {q : ℕ → List α} {n : ℕ} (h : ∀ i < n, q i = []) :
    total w q n = 0 :=
  Finset.sum_eq_zero fun i hi => by rw [h i (mem_range.1 hi), weight_nil]

/-- **Moving the window down loses nothing**, provided nothing is held below it. -/
theorem total_shift (w : α → ℤ) {q : ℕ → List α} {i n : ℕ} (h : ∀ j < i, q j = []) :
    total w (shift q i n) n = total w q n := by
  by_cases hin : i ≤ n
  · obtain ⟨k, rfl⟩ := Nat.exists_eq_add_of_le hin
    have hlow : total w q i = 0 := total_empty w h
    have hhigh : ∑ t ∈ range i, weight w (shift q i (i + k) (k + t)) = 0 :=
      Finset.sum_eq_zero fun t _ => by
        rw [shift, if_neg (by omega), weight_nil]
    have hmid : ∑ t ∈ range k, weight w (shift q i (i + k) t) =
        ∑ t ∈ range k, weight w (q (i + t)) :=
      Finset.sum_congr rfl fun t ht => by
        have := mem_range.1 ht
        rw [shift, if_pos (by omega), Nat.add_comm]
    have hl : total w (shift q i (i + k)) (i + k) =
        ∑ t ∈ range k, weight w (shift q i (i + k) t) := by
      unfold total
      rw [Nat.add_comm i k, Finset.sum_range_add, Nat.add_comm k i, hhigh, add_zero]
    rw [hl, hmid]
    unfold total at hlow ⊢
    rw [Finset.sum_range_add, hlow, zero_add]
  · rw [total_empty w (q := shift q i n) fun t _ => by rw [shift, if_neg (by omega)],
      total_empty w fun t ht => h t (by omega)]

theorem weight_one_nonneg (xs : List α) : 0 ≤ weight (fun _ => 1) xs := by
  rw [weight_one]; exact Int.natCast_nonneg _

theorem count_nonneg (q : ℕ → List α) (n : ℕ) : 0 ≤ count q n := by
  unfold count total
  exact Finset.sum_nonneg fun i _ => weight_one_nonneg (q i)

theorem count_eq_zero {q : ℕ → List α} {n : ℕ} : count q n = 0 ↔ ∀ i < n, q i = [] := by
  constructor
  · intro h i hi
    unfold count total at h
    have h0 := (Finset.sum_eq_zero_iff_of_nonneg
      fun i _ => weight_one_nonneg (q i)).1 h i (mem_range.2 hi)
    rw [weight_one] at h0
    exact List.length_eq_zero_iff.1 (by exact_mod_cast h0)
  · exact total_empty _

theorem count_succ (q : ℕ → List α) (n : ℕ) : count q (n + 1) = count q n + (q n).length := by
  simp only [count, total, Finset.sum_range_succ, weight_one]

theorem count_mono (q : ℕ → List α) {m n : ℕ} (h : m ≤ n) : count q m ≤ count q n := by
  induction n, h using Nat.le_induction with
  | base => exact le_refl _
  | succ n _ ih => rw [count_succ]; omega

theorem empty_of_count_eq {q : ℕ → List α} {m n : ℕ} (h : count q m = count q n) {t : ℕ}
    (hm : m ≤ t) (hn : t < n) : q t = [] := by
  have h1 := count_mono q hm
  have h2 := count_mono q (show t + 1 ≤ n by omega)
  rw [count_succ] at h2
  exact List.length_eq_zero_iff.1 (by omega)

theorem length_le_count (q : ℕ → List α) {i n : ℕ} (hi : i < n) :
    ((q i).length : ℤ) ≤ count q n := by
  have h := Finset.single_le_sum (f := fun j => weight (fun _ => 1) (q j))
    (fun j _ => weight_one_nonneg (q j)) (mem_range.2 hi)
  rwa [weight_one] at h

theorem count_le {q : ℕ → List α} {n k : ℕ} (h : ∀ i < n, (q i).length ≤ k) :
    count q n ≤ n * k := by
  have hs := Finset.sum_le_card_nsmul (range n) (fun i => weight (fun _ => 1) (q i)) (k : ℤ)
    fun i hi => by rw [weight_one]; exact_mod_cast h i (mem_range.1 hi)
  simpa [count, total] using hs

/-- Each item weighs at most `b`, so the whole array weighs at most `b` per item. -/
theorem weight_le {w : α → ℤ} {b : ℤ} {xs : List α} (h : ∀ x ∈ xs, w x ≤ b) :
    weight w xs ≤ xs.length * b := by
  induction xs with
  | nil => simp
  | cons x xs ih =>
    have hx := h x (by simp)
    have ht := ih fun y hy => h y (by simp [hy])
    have he : weight w (x :: xs) = w x + weight w xs := by simp [weight]
    rw [he, List.length_cons]
    push_cast
    linarith

theorem weight_nonneg {w : α → ℤ} {xs : List α} (h : ∀ x ∈ xs, 0 ≤ w x) : 0 ≤ weight w xs :=
  List.sum_nonneg (by simpa using h)

theorem total_nonneg {w : α → ℤ} {q : ℕ → List α} {n : ℕ} (h : ∀ i < n, ∀ x ∈ q i, 0 ≤ w x) :
    0 ≤ total w q n :=
  Finset.sum_nonneg fun i hi => weight_nonneg (h i (mem_range.1 hi))

theorem total_le {w : α → ℤ} {b : ℤ} {q : ℕ → List α} {n : ℕ}
    (h : ∀ i < n, ∀ x ∈ q i, w x ≤ b) : total w q n ≤ count q n * b := by
  unfold count total
  rw [Finset.sum_mul]
  refine Finset.sum_le_sum fun i hi => ?_
  rw [weight_one]
  exact weight_le (h i (mem_range.1 hi))

theorem count_le_count {q q' : ℕ → List α} {n : ℕ}
    (h : ∀ i < n, (q' i).length ≤ (q i).length) : count q' n ≤ count q n := by
  unfold count total
  refine Finset.sum_le_sum fun i hi => ?_
  rw [weight_one, weight_one]
  exact_mod_cast h i (mem_range.1 hi)

/-! ## Slots in a circle -/

/-- One step forward brings slot `j` one closer to slot `r`, in a circle of `b` slots. -/
theorem stepsTo_next {b j r : ℕ} (hj : j < b) (hr : r < b) (hne : j ≠ r) :
    (r + b - (j + 1) % b) % b + 1 = (r + b - j) % b := by
  by_cases hw : j + 1 = b
  · rw [hw, Nat.mod_self, Nat.sub_zero, Nat.add_mod_right, Nat.mod_eq_of_lt hr]
    have e : r + b - j = r + 1 := by omega
    rw [e, Nat.mod_eq_of_lt (by omega)]
  · rw [Nat.mod_eq_of_lt (show j + 1 < b by omega)]
    by_cases hlt : j < r
    · have e1 : r + b - j = (r - j) + b := by omega
      have e2 : r + b - (j + 1) = (r - j - 1) + b := by omega
      rw [e1, e2, Nat.add_mod_right, Nat.add_mod_right, Nat.mod_eq_of_lt (by omega),
        Nat.mod_eq_of_lt (by omega)]
      omega
    · rw [Nat.mod_eq_of_lt (by omega), Nat.mod_eq_of_lt (by omega)]
      omega

/-! ## Slots with a property -/

/-- Number of slots below `n` whose queue meets `p`. -/
def countWhere (p : List α → Bool) (q : ℕ → List α) (n : ℕ) : ℕ :=
  ((range n).filter fun i => p (q i)).card

theorem countWhere_le (p : List α → Bool) (q : ℕ → List α) (n : ℕ) : countWhere p q n ≤ n := by
  simpa [countWhere] using Finset.card_filter_le (range n) fun i => p (q i) = true

theorem countWhere_congr {p : List α → Bool} {q q' : ℕ → List α} {n : ℕ}
    (h : ∀ i < n, p (q i) = p (q' i)) : countWhere p q n = countWhere p q' n := by
  unfold countWhere
  rw [Finset.filter_congr fun i hi => by rw [h i (mem_range.1 hi)]]

theorem countWhere_pos {p : List α → Bool} {q : ℕ → List α} {n : ℕ} :
    0 < countWhere p q n ↔ ∃ i < n, p (q i) = true := by
  simp [countWhere, Finset.card_pos, Finset.Nonempty]

theorem countWhere_update (p : List α → Bool) (q : ℕ → List α) {i n : ℕ} (xs : List α)
    (hi : i < n) :
    countWhere p (Function.update q i xs) n + (p (q i)).toNat =
      countWhere p q n + (p xs).toNat := by
  have hcard : ∀ r : ℕ → List α, countWhere p r n =
      ((p (r i)).toNat + (((range n).erase i).filter fun j => p (r j)).card) := by
    intro r
    unfold countWhere
    have hins : range n = insert i ((range n).erase i) :=
      (Finset.insert_erase (mem_range.2 hi)).symm
    rw [hins, Finset.filter_insert, Finset.erase_insert (Finset.notMem_erase i (range n))]
    cases hp : p (r i) with
    | false => simp
    | true =>
      rw [if_pos rfl, Finset.card_insert_of_notMem fun h => by simp at h]
      simp [Nat.add_comm]
  have hrest : (((range n).erase i).filter fun j => p (Function.update q i xs j)) =
      ((range n).erase i).filter fun j => p (q j) :=
    Finset.filter_congr fun j hj => by rw [Function.update_of_ne (Finset.ne_of_mem_erase hj)]
  rw [hcard q, hcard (Function.update q i xs), hrest, Function.update_self]
  omega

end Slots
