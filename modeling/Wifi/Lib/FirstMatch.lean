import Mathlib.Data.List.Basic

/-!
# First match in a list that absorbs

Elements are added to a list one after the other: one that an element of the list covers is not added, and one
that covers an element takes its place.  A query finds the first element that matches.

* `absorb` — one element is added.
* `find?_absorb_miss`, `find?_absorb_new`, `find?_absorb_kept` — what that does to a query.
* `find?_foldl_absorb` — the first of a list of elements that matches is found in the end, unless a later one that
  matches covers one before it.
* `covered_foldl_absorb`, `length_foldl_absorb_le` — each of them is covered in the end, by no more elements.
-/

set_option autoImplicit false

namespace FirstMatch

variable {α : Type*}

/-- Add an element, when `covers old new` says that an old one makes the new one superfluous. -/
def absorb (covers : α → α → Bool) (x : α) : List α → List α
  | [] => [x]
  | y :: l =>
    if covers y x then y :: l
    else if covers x y then x :: l
    else y :: absorb covers x l

variable {covers : α → α → Bool} {p : α → Bool} {x : α}

theorem mem_absorb {l : List α} {y : α} (h : y ∈ absorb covers x l) : y = x ∨ y ∈ l := by
  induction l with
  | nil => exact .inl (List.mem_singleton.1 h)
  | cons z l ih =>
    unfold absorb at h
    split_ifs at h
    · exact .inr h
    · rcases List.mem_cons.1 h with rfl | h
      · exact .inl rfl
      · exact .inr (List.mem_cons_of_mem _ h)
    · rcases List.mem_cons.1 h with rfl | h
      · exact .inr List.mem_cons_self
      · exact (ih h).imp_right (List.mem_cons_of_mem _)

theorem length_absorb_le (l : List α) : (absorb covers x l).length ≤ l.length + 1 := by
  induction l with
  | nil => exact Nat.le_refl 1
  | cons y l ih =>
    unfold absorb
    split_ifs
    · simp
    · simp
    · simpa using ih

theorem length_foldl_absorb_le (xs l : List α) :
    (xs.foldl (fun l x => absorb covers x l) l).length ≤ xs.length + l.length := by
  induction xs generalizing l with
  | nil => simp
  | cons x xs ih =>
    have hone : (absorb covers x l).length ≤ l.length + 1 := length_absorb_le l
    have hrest := ih (absorb covers x l)
    rw [List.foldl_cons, List.length_cons]
    omega

section Covered

variable (htrans : ∀ x y z, covers x y = true → covers y z = true → covers x z = true)

include htrans

/-- The new element is covered afterwards, and so is what was before. -/
theorem covered_absorb {l : List α} {z : α} (h : covers x z = true ∨ ∃ y ∈ l, covers y z = true) :
    ∃ y ∈ absorb covers x l, covers y z = true := by
  induction l with
  | nil => simpa [absorb] using h
  | cons y l ih =>
    unfold absorb
    split_ifs with h1 h2
    · rcases h with h | h
      · exact ⟨y, List.mem_cons_self, htrans y x z h1 h⟩
      · exact h
    · rcases h with h | ⟨w, hw, h⟩
      · exact ⟨x, List.mem_cons_self, h⟩
      · rcases List.mem_cons.1 hw with rfl | hw
        · exact ⟨x, List.mem_cons_self, htrans x w z h2 h⟩
        · exact ⟨w, List.mem_cons_of_mem x hw, h⟩
    · have hrest : ∀ w, w ∈ absorb covers x l ∧ covers w z = true → ∃ w ∈ y :: absorb covers x l, covers w z = true :=
        fun w h => ⟨w, List.mem_cons_of_mem y h.1, h.2⟩
      rcases h with h | ⟨w, hw, h⟩
      · exact (ih (.inl h)).elim hrest
      · rcases List.mem_cons.1 hw with rfl | hw
        · exact ⟨w, List.mem_cons_self, h⟩
        · exact (ih (.inr ⟨w, hw, h⟩)).elim hrest

/-- **Every element is covered in the end**, and what was covered before. -/
theorem covered_foldl_absorb (hrefl : ∀ y, covers y y = true) {xs l : List α} {z : α} (h : z ∈ xs ∨ ∃ y ∈ l, covers y z = true) :
    ∃ y ∈ xs.foldl (fun l x => absorb covers x l) l, covers y z = true := by
  induction xs generalizing l with
  | nil => exact h.resolve_left List.not_mem_nil
  | cons x xs ih =>
    apply ih
    rw [List.mem_cons] at h
    rcases h with (rfl | h) | h
    · exact .inr (covered_absorb htrans (.inl (hrefl z)))
    · exact .inl h
    · exact .inr (covered_absorb htrans (.inr h))

end Covered

variable (hmono : ∀ y z, covers y z = true → p z = true → p y = true)

include hmono

theorem find?_absorb_miss (hx : p x = false) (l : List α) : (absorb covers x l).find? p = l.find? p := by
  induction l with
  | nil => simp [absorb, hx]
  | cons y l ih =>
    unfold absorb
    split_ifs with h1 h2
    · rfl
    · have hy : p y = false := by
        rw [← Bool.not_eq_true]
        intro hy
        rw [hmono x y h2 hy] at hx
        cases hx
      rw [List.find?_cons, List.find?_cons, hx, hy]
    · rw [List.find?_cons, List.find?_cons, ih]

theorem find?_absorb_new (hx : p x = true) {l : List α} (hl : ∀ y ∈ l, p y = false) :
    (absorb covers x l).find? p = some x := by
  induction l with
  | nil => simp [absorb, hx]
  | cons y l ih =>
    have hy := hl y List.mem_cons_self
    unfold absorb
    split_ifs with h1 h2
    · rw [hmono y x h1 hx] at hy
      cases hy
    · rw [List.find?_cons, hx]
    · rw [List.find?_cons, hy]
      exact ih fun z hz => hl z (List.mem_cons_of_mem _ hz)

omit hmono in
/-- An element that covers none of the list changes no query that finds something. -/
theorem find?_absorb_kept {r : α} {l : List α} (hl : l.find? p = some r) (hc : ∀ y ∈ l, covers x y = false) :
    (absorb covers x l).find? p = some r := by
  induction l with
  | nil => cases hl
  | cons y l ih =>
    unfold absorb
    by_cases h1 : covers y x = true
    · rw [if_pos h1]
      exact hl
    · rw [if_neg h1, if_neg (by rw [hc y List.mem_cons_self]; decide), List.find?_cons]
      rw [List.find?_cons] at hl
      cases hy : p y with
      | true =>
        rw [hy] at hl
        exact hl
      | false =>
        rw [hy] at hl
        exact ih hl fun z hz => hc z (List.mem_cons_of_mem _ hz)

omit hmono in
theorem mem_foldl_absorb {xs l : List α} {y : α} (h : y ∈ xs.foldl (fun l x => absorb covers x l) l) :
    y ∈ xs ∨ y ∈ l := by
  induction xs generalizing l with
  | nil => exact .inr h
  | cons x xs ih =>
    rw [List.foldl_cons] at h
    rcases ih h with h | h
    · exact .inl (List.mem_cons_of_mem _ h)
    · rcases mem_absorb h with rfl | h
      · exact .inl List.mem_cons_self
      · exact .inr h

/-- Later elements that do not cover an earlier one, or do not match. -/
theorem find?_foldl_kept {r : α} {xs : List α} {l : List α} (hl : l.find? p = some r)
    (hc : ∀ x ∈ xs, p x = true → ∀ y ∈ l, covers x y = false)
    (hxs : xs.Pairwise fun y x => p x = true → covers x y = false) :
    (xs.foldl (fun l x => absorb covers x l) l).find? p = some r := by
  induction xs generalizing l with
  | nil => exact hl
  | cons x xs ih =>
    rw [List.foldl_cons]
    obtain ⟨hx, hrest⟩ := List.pairwise_cons.1 hxs
    refine ih ?_ ?_ hrest
    · cases hp : p x with
      | true => exact find?_absorb_kept hl (hc x List.mem_cons_self hp)
      | false =>
        rw [find?_absorb_miss hmono hp]
        exact hl
    · intro z hz hpz y hy
      rcases mem_absorb hy with rfl | hy
      · exact hx z hz hpz
      · exact hc z (List.mem_cons_of_mem _ hz) hpz y hy

/-- **The first element that matches is found**, when no later one that matches covers one before it. -/
theorem find?_foldl_absorb {pre post : List α} (hpre : ∀ y ∈ pre, p y = false) (hx : p x = true)
    (hc : ∀ z ∈ post, p z = true → ∀ y ∈ pre ++ [x], covers z y = false)
    (hpost : post.Pairwise fun y z => p z = true → covers z y = false) :
    ((pre ++ x :: post).foldl (fun l x => absorb covers x l) []).find? p = some x := by
  rw [List.foldl_append, List.foldl_cons]
  have hmem : ∀ y ∈ pre.foldl (fun l x => absorb covers x l) [], y ∈ pre := by
    intro y hy
    rcases mem_foldl_absorb hy with h | h
    · exact h
    · cases h
  refine find?_foldl_kept hmono (find?_absorb_new hmono hx fun y hy => hpre y (hmem y hy)) ?_ hpost
  intro z hz hpz y hy
  refine hc z hz hpz y (List.mem_append.2 ?_)
  rcases mem_absorb hy with rfl | hy
  · exact .inr (List.mem_singleton.2 rfl)
  · exact .inl (hmem y hy)

end FirstMatch
