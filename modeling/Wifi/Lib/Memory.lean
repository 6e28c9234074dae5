import Mathlib.Data.List.GetD
import Mathlib.Tactic.Common

/-!
# A memory of cells, and what is written to it

* `cells m a n` — the `n` cells from `a` on.
* `move m dst src n` — `memmove`: what is written is what was there before, also when the places overlap.
* `Wrote m m' dst bs` — from `m` to `m'` just `bs` was written at `dst`; `Wrote.append` puts two writes together.
-/

set_option autoImplicit false

namespace Memory

variable {β : Type} {m m' m'' : Nat → β} {a dst src n k : Nat} {bs bs' : List β}

/-- The `n` cells from `a` on. -/
def cells (m : Nat → β) (a n : Nat) : List β := (List.range' a n).map m

@[simp] theorem length_cells (m : Nat → β) (a n : Nat) : (cells m a n).length = n := by
  simp [cells]

theorem cells_add (m : Nat → β) (a n k : Nat) : cells m a (n + k) = cells m a n ++ cells m (a + n) k := by
  unfold cells
  rw [← List.map_append, List.range'_append_1]

theorem cells_congr (h : ∀ x, a ≤ x → x < a + n → m' x = m x) : cells m' a n = cells m a n := by
  unfold cells
  refine List.map_congr_left fun x hx => ?_
  rw [List.mem_range'_1] at hx
  exact h x hx.1 hx.2

theorem getElem?_cells (h : k < n) : (cells m a n)[k]? = some (m (a + k)) := by
  simp [cells, h]

/-- The `n` cells from `src` on are written to `dst`. -/
def move (m : Nat → β) (dst src n : Nat) : Nat → β :=
  fun a => if dst ≤ a ∧ a < dst + n then m (src + (a - dst)) else m a

/-- From `m` to `m'` just `bs` was written at `dst`. -/
structure Wrote (m m' : Nat → β) (dst : Nat) (bs : List β) : Prop where
  written : cells m' dst bs.length = bs
  frame : ∀ a, a < dst ∨ dst + bs.length ≤ a → m' a = m a

theorem Wrote.nil (m : Nat → β) (dst : Nat) : Wrote m m dst [] := ⟨rfl, fun _ _ => rfl⟩

/-- **A second write behind the first.** -/
theorem Wrote.append (h : Wrote m m' dst bs) (h' : Wrote m' m'' (dst + bs.length) bs') :
    Wrote m m'' dst (bs ++ bs') := by
  refine ⟨?_, ?_⟩
  · have hfirst : cells m'' dst bs.length = cells m' dst bs.length :=
      cells_congr fun x _ hx => h'.frame x (.inl hx)
    rw [List.length_append, cells_add, hfirst, h.written, h'.written]
  · intro a ha
    rw [List.length_append] at ha
    rw [h'.frame a (by omega), h.frame a (by omega)]

theorem wrote_move (m : Nat → β) (dst src n : Nat) : Wrote m (move m dst src n) dst (cells m src n) := by
  refine ⟨?_, ?_⟩
  · rw [length_cells]
    refine List.ext_getElem? fun k => ?_
    by_cases hk : k < n
    · rw [getElem?_cells hk, getElem?_cells hk]
      unfold move
      rw [if_pos (by omega), Nat.add_sub_cancel_left]
    · rw [List.getElem?_eq_none (by rw [length_cells]; omega), List.getElem?_eq_none (by rw [length_cells]; omega)]
  · intro a ha
    rw [length_cells] at ha
    unfold move
    rw [if_neg (by omega)]

end Memory

/-!
## Writing over a part of a buffer

* `overwrite` — a buffer, with some bytes of it replaced.
* `overwrite_append_left`, `overwrite_append_right` — a write into one half of a buffer.
* `getD_overwrite_of_lt` — what is outside keeps its value.
-/

namespace Overwrite

variable {β : Type*} {buf a b x : List β} {off i n : Nat}

/-- `buf` with `x` at `off`. -/
def overwrite (buf : List β) (off : Nat) (x : List β) : List β :=
  buf.take off ++ (x ++ buf.drop (off + x.length))

theorem length_overwrite (h : off + x.length ≤ buf.length) : (overwrite buf off x).length = buf.length := by
  simp only [overwrite, List.length_append, List.length_take, List.length_drop]
  omega

theorem overwrite_append_left (h : off + x.length ≤ a.length) :
    overwrite (a ++ b) off x = overwrite a off x ++ b := by
  unfold overwrite
  rw [List.take_append_of_le_length (by omega), List.drop_append_of_le_length h]
  simp

theorem overwrite_append_right (off : Nat) (hn : n = a.length + off) : overwrite (a ++ b) n x = a ++ overwrite b off x := by
  subst hn
  unfold overwrite
  rw [List.take_length_add_append, Nat.add_assoc, List.drop_length_add_append, List.append_assoc]

theorem overwrite_front (h : x.length = a.length) : overwrite (a ++ b) 0 x = x ++ b := by
  simp [overwrite, h]

theorem getD_overwrite_of_lt (d : β) (hi : i < off) (hl : off ≤ buf.length) :
    (overwrite buf off x).getD i d = buf.getD i d := by
  unfold overwrite
  rw [List.getD_append _ _ _ _ (by rw [List.length_take]; omega)]
  simp [List.getD, List.getElem?_take_of_lt hi]

theorem getD_overwrite_self {c : β} (d : β) (hl : off ≤ buf.length) : (overwrite buf off [c]).getD off d = c := by
  have hlen : (buf.take off).length = off := by
    rw [List.length_take]
    omega
  unfold overwrite
  rw [List.getD_append_right _ _ _ _ (by omega), hlen, Nat.sub_self]
  rfl

end Overwrite
