import Mathlib.Data.List.Basic

/-!
# Records in a list, looked up by a key

* `look` — the first record with a key.
* `change` — the records with a key are written to.
* `upsert` — the first record with a key is written to; where there is none, it is made.
* `look_upsert_self`, `look_upsert_ne` — what is found afterwards.
-/

set_option autoImplicit false

namespace Records

variable {α κ : Type*} [DecidableEq κ] (key : α → κ)

def look (k : κ) (l : List α) : Option α := l.find? fun x => decide (key x = k)

def change (k : κ) (f : α → α) (l : List α) : List α := l.map fun x => if key x = k then f x else x

/-- The first record with a key is written to; where there is none, `new` is. -/
def upsert (k : κ) (new : α) (f : α → α) : List α → List α
  | [] => [f new]
  | x :: l => if key x = k then f x :: l else x :: upsert k new f l

variable {key} {k k' : κ} {f : α → α} {new x y : α} {l : List α}

theorem look_cons (x : α) (l : List α) : look key k (x :: l) = if key x = k then some x else look key k l := by
  unfold look
  rw [List.find?_cons]
  by_cases h : key x = k <;> simp [h]

theorem look_some (h : look key k l = some x) : x ∈ l ∧ key x = k := by
  refine ⟨List.mem_of_find?_eq_some h, ?_⟩
  simpa using List.find?_some h

theorem look_eq_none (h : look key k l = none) (hx : x ∈ l) : key x ≠ k := by
  intro hk
  simpa [hk] using List.find?_eq_none.1 h x hx

/-- Where keys are unique, the record with a key is found. -/
theorem look_of_nodup (hn : (l.map key).Nodup) (hx : x ∈ l) : look key (key x) l = some x := by
  induction l with
  | nil => cases hx
  | cons z l ih =>
    rw [List.map_cons, List.nodup_cons] at hn
    rw [look_cons]
    rcases List.mem_cons.1 hx with rfl | hx
    · rw [if_pos rfl]
    · rw [if_neg]
      · exact ih hn.2 hx
      · intro h
        exact hn.1 (h ▸ List.mem_map_of_mem hx)

theorem look_map {h : α → α} (hh : ∀ x, key (h x) = key x) (k : κ) (l : List α) :
    look key k (l.map h) = (look key k l).map h := by
  unfold look
  rw [List.find?_map]
  congr 2
  funext x
  simp [hh]

section Change

variable (hf : ∀ x, key x = k → key (f x) = k)

include hf

theorem map_change (l : List α) : (change key k f l).map key = l.map key := by
  unfold change
  rw [List.map_map]
  refine List.map_congr_left fun x _ => ?_
  show key (if key x = k then f x else x) = key x
  split
  · rename_i hk
    rw [hf x hk, hk]
  · rfl

end Change

theorem mem_change (h : y ∈ change key k f l) : ∃ x ∈ l, y = if key x = k then f x else x := by
  obtain ⟨x, hx, rfl⟩ := List.mem_map.1 h
  exact ⟨x, hx, rfl⟩

section Upsert

variable (hf : ∀ x, key x = k → key (f x) = k) (hnew : key new = k)

include hf hnew

theorem look_upsert_self (l : List α) : look key k (upsert key k new f l) = some (f ((look key k l).getD new)) := by
  induction l with
  | nil =>
    rw [show upsert key k new f [] = [f new] from rfl, look_cons, if_pos (hf new hnew)]
    rfl
  | cons x l ih =>
    unfold upsert
    by_cases h : key x = k
    · rw [if_pos h, look_cons, look_cons, if_pos (hf x h), if_pos h]
      rfl
    · rw [if_neg h, look_cons, look_cons, if_neg h, if_neg h, ih]

theorem look_upsert_ne (h : k' ≠ k) (l : List α) : look key k' (upsert key k new f l) = look key k' l := by
  induction l with
  | nil =>
    rw [show upsert key k new f [] = [f new] from rfl, look_cons, if_neg (by rw [hf new hnew]; exact h.symm)]
  | cons x l ih =>
    unfold upsert
    by_cases hx : key x = k
    · rw [if_pos hx, look_cons, look_cons, hf x hx, if_neg h.symm, if_neg (by rw [hx]; exact h.symm)]
    · rw [if_neg hx, look_cons, look_cons, ih]

end Upsert

theorem mem_upsert (h : y ∈ upsert key k new f l) : y ∈ l ∨ y = f ((look key k l).getD new) := by
  induction l with
  | nil => exact .inr (List.mem_singleton.1 h)
  | cons x l ih =>
    unfold upsert at h
    rw [look_cons]
    by_cases hx : key x = k
    · rw [if_pos hx] at h ⊢
      rcases List.mem_cons.1 h with rfl | h
      · exact .inr rfl
      · exact .inl (List.mem_cons_of_mem _ h)
    · rw [if_neg hx] at h ⊢
      rcases List.mem_cons.1 h with rfl | h
      · exact .inl List.mem_cons_self
      · exact (ih h).imp_left (List.mem_cons_of_mem _)

theorem map_filterMap_sublist {β : Type*} {v : α → β} {g : α → Option α} (hg : ∀ x y, g x = some y → v y = v x) (l : List α) :
    ((l.filterMap g).map v).Sublist (l.map v) := by
  induction l with
  | nil => exact List.Sublist.slnil
  | cons x l ih =>
    cases hx : g x with
    | none =>
      rw [List.filterMap_cons_none hx]
      exact ih.cons _
    | some y =>
      rw [List.filterMap_cons_some hx, List.map_cons, List.map_cons, hg x y hx]
      exact ih.cons_cons _

theorem look_append_new (h : look key k l = none) (hx : key x = k) : look key k (l ++ [x]) = some x := by
  unfold look at h ⊢
  rw [List.find?_append, h]
  simp [hx]

end Records
