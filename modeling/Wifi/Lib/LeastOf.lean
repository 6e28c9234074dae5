import Mathlib.Order.Bounds.Basic
import Mathlib.Data.List.MinMax

/-!
# The least of a list, folded from a start value

* `foldl_min_isLeast` — the fold is the least of the start value and the members.
* `foldl_min_isLeast_iff` — when the fold from one value is the least with another one in its place.
-/

set_option autoImplicit false

namespace LeastOf

variable {α : Type} [LinearOrder α]

/-- **The fold of `min` is the least of its start value and the members.** -/
theorem foldl_min_isLeast (x : α) (xs : List α) : IsLeast {v | v = x ∨ v ∈ xs} (xs.foldl min x) := by
  induction xs generalizing x with
  | nil => exact ⟨.inl rfl, fun v hv => by rcases hv with rfl | hv; exacts [le_refl _, nomatch hv]⟩
  | cons y ys ih =>
    obtain ⟨hmem, hle⟩ := ih (min x y)
    refine ⟨?_, fun v hv => ?_⟩
    · rcases hmem with hmem | hmem
      · rcases min_choice x y with hx | hy
        · exact .inl (hmem.trans hx)
        · exact .inr (List.mem_cons.mpr (.inl (hmem.trans hy)))
      · exact .inr (List.mem_cons_of_mem y hmem)
    · rcases hv with rfl | hv
      · exact (hle (.inl rfl)).trans (min_le_left _ _)
      · rcases List.mem_cons.mp hv with rfl | hv
        · exact (hle (.inl rfl)).trans (min_le_right _ _)
        · exact hle (.inr hv)

/-- **When the fold from `d` is the least of `a` and the members:** `d` is `a`, or neither is below some member. -/
theorem foldl_min_isLeast_iff (d a : α) (xs : List α) :
    IsLeast {v | v = a ∨ v ∈ xs} (xs.foldl min d) ↔ d = a ∨ ∃ v ∈ xs, v ≤ d ∧ v ≤ a := by
  obtain ⟨hmem, hle⟩ := foldl_min_isLeast d xs
  constructor
  · rintro ⟨hin, hleast⟩
    have hda : xs.foldl min d ≤ d := hle (.inl rfl)
    have haa : xs.foldl min d ≤ a := hleast (.inl rfl)
    rcases hin with hin | hin
    · rcases hmem with hmem | hmem
      · exact .inl (hmem.symm.trans hin)
      · exact .inr ⟨_, hmem, hda, haa⟩
    · exact .inr ⟨_, hin, hda, haa⟩
  · rintro (rfl | ⟨v, hv, hvd, hva⟩)
    · exact ⟨hmem, hle⟩
    · have hbelow := hle (.inr hv)
      refine ⟨.inr ?_, fun w hw => ?_⟩
      · rcases hmem with hd | hmem
        · rwa [le_antisymm hbelow (hvd.trans hd.ge)]
        · exact hmem
      · rcases hw with rfl | hw
        · exact hbelow.trans hva
        · exact hle (.inr hw)

end LeastOf
