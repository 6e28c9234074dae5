import Mathlib.Data.List.Induction
import Mathlib.Data.List.Perm.Basic

/-!
# Joins of chains

A partial join that takes the greater of two comparable elements, and folds of it over a list.

* `Joins` — the law of such a join; `joinAll` — its fold over a nonempty list.
* `joinAll_spec` — the fold is an upper bound that is in the list.
* `joinAll_chain`, `joinAll_greatest` — it is defined on a chain, and when it starts with the greatest.
* `Nested`, `joinAll_nested_iff` — exactly when the fold is defined, in the order of the list.
* `Independent` — the fold is the same in every order, and defined exactly on chains;
  `independent_iff` — exactly if a list with an upper bound in it is a chain.
-/

set_option autoImplicit false

namespace ChainJoin

variable {α : Type*}

def Comparable (le : α → α → Prop) (a b : α) : Prop := le a b ∨ le b a

/-- `join` takes the greater of two comparable elements. -/
structure Joins (le : α → α → Prop) (join : α → α → Option α) : Prop where
  refl : ∀ a, le a a
  trans : ∀ {a b c}, le a b → le b c → le a c
  upper : ∀ {a b r}, join a b = some r → (r = a ∨ r = b) ∧ le a r ∧ le b r
  undefined : ∀ {a b}, join a b = none → ¬ Comparable le a b

/-- The elements are joined one after the other. -/
def joinAll (join : α → α → Option α) : α → List α → Option α
  | x, [] => some x
  | x, y :: ys =>
    match join y x with
    | some z => joinAll join z ys
    | none => none

def Chain (le : α → α → Prop) (l : List α) : Prop := ∀ a ∈ l, ∀ b ∈ l, Comparable le a b

/-- Both undefined, or equal up to the order. -/
def Same (le : α → α → Prop) : Option α → Option α → Prop
  | none, none => True
  | some r, some r' => le r r' ∧ le r' r
  | _, _ => False

/-- The fold is the same in every order, and defined exactly on chains. -/
def Independent (le : α → α → Prop) (join : α → α → Option α) (x : α) (xs : List α) : Prop :=
  (∀ y ys, (y :: ys).Perm (x :: xs) → Same le (joinAll join y ys) (joinAll join x xs)) ∧
    ((joinAll join x xs).isSome = true ↔ Chain le (x :: xs))

variable {le : α → α → Prop} {join : α → α → Option α}

/-- **The fold is an upper bound** of the list, and in the list. -/
theorem joinAll_spec (h : Joins le join) : ∀ {xs : List α} {x r : α}, joinAll join x xs = some r →
    r ∈ x :: xs ∧ ∀ y ∈ x :: xs, le y r
  | [], x, r, hr => by
    cases hr
    exact ⟨List.mem_cons_self, fun y hy => List.mem_singleton.1 hy ▸ h.refl x⟩
  | y :: ys, x, r, hr => by
    unfold joinAll at hr
    cases hj : join y x with
    | none =>
      rw [hj] at hr
      cases hr
    | some z =>
      rw [hj] at hr
      obtain ⟨hz, hyz, hxz⟩ := h.upper hj
      obtain ⟨hmem, hup⟩ := joinAll_spec h hr
      have hzr : le z r := hup z List.mem_cons_self
      refine ⟨?_, fun w hw => ?_⟩
      · rcases List.mem_cons.1 hmem with rfl | hmem
        · rcases hz with rfl | rfl
          · exact List.mem_cons_of_mem _ List.mem_cons_self
          · exact List.mem_cons_self
        · exact List.mem_cons_of_mem _ (List.mem_cons_of_mem _ hmem)
      · rcases List.mem_cons.1 hw with rfl | hw
        · exact h.trans hxz hzr
        · rcases List.mem_cons.1 hw with rfl | hw
          · exact h.trans hyz hzr
          · exact hup w (List.mem_cons_of_mem _ hw)

theorem mem_of_join (h : Joins le join) {x y z : α} (ys : List α) (hj : join y x = some z) :
    ∀ a ∈ z :: ys, a ∈ x :: y :: ys := by
  intro a ha
  rcases List.mem_cons.1 ha with rfl | ha
  · rcases (h.upper hj).1 with rfl | rfl
    · exact List.mem_cons_of_mem _ List.mem_cons_self
    · exact List.mem_cons_self
  · exact List.mem_cons_of_mem _ (List.mem_cons_of_mem _ ha)

/-- **The fold of a chain** is defined. -/
theorem joinAll_chain (h : Joins le join) : ∀ {xs : List α} {x : α}, Chain le (x :: xs) →
    (joinAll join x xs).isSome = true
  | [], _, _ => rfl
  | y :: ys, x, hc => by
    unfold joinAll
    cases hj : join y x with
    | none =>
      exact absurd (hc y (List.mem_cons_of_mem _ List.mem_cons_self) x List.mem_cons_self) (h.undefined hj)
    | some z =>
      have hmem := mem_of_join h ys hj
      exact joinAll_chain h fun a ha b hb => hc a (hmem a ha) b (hmem b hb)

/-- The fold is defined if it starts with an upper bound. -/
theorem joinAll_greatest (h : Joins le join) : ∀ {xs : List α} {x : α}, (∀ y ∈ xs, le y x) →
    (joinAll join x xs).isSome = true
  | [], _, _ => rfl
  | y :: ys, x, hx => by
    unfold joinAll
    cases hj : join y x with
    | none => exact absurd (.inl (hx y List.mem_cons_self)) (h.undefined hj)
    | some z =>
      have hxz := (h.upper hj).2.2
      exact joinAll_greatest h fun w hw => h.trans (hx w (List.mem_cons_of_mem _ hw)) hxz

/-- **The fold depends on the order** exactly if a list with an upper bound in it is not a chain. -/
theorem independent_iff (h : Joins le join) (x : α) (xs : List α) :
    Independent le join x xs ↔ ∀ r ∈ x :: xs, (∀ y ∈ x :: xs, le y r) → Chain le (x :: xs) := by
  constructor
  · rintro ⟨hperm, hdef⟩ r hr hup
    refine hdef.1 ?_
    obtain ⟨l, l', heq⟩ := List.append_of_mem hr
    have hp : (r :: (l ++ l')).Perm (x :: xs) := heq ▸ List.perm_middle.symm
    have hsome : (joinAll join r (l ++ l')).isSome = true :=
      joinAll_greatest h fun y hy => hup y (hp.mem_iff.1 (List.mem_cons_of_mem _ hy))
    have hsame := hperm r (l ++ l') hp
    cases hj : joinAll join r (l ++ l') with
    | none =>
      rw [hj] at hsome
      cases hsome
    | some z =>
      rw [hj] at hsame
      cases hx : joinAll join x xs with
      | none =>
        rw [hx] at hsame
        exact hsame.elim
      | some w => rfl
  · intro hchain
    have hdef : (joinAll join x xs).isSome = true ↔ Chain le (x :: xs) := by
      refine ⟨fun hs => ?_, joinAll_chain h⟩
      obtain ⟨r, hr⟩ := Option.isSome_iff_exists.1 hs
      obtain ⟨hmem, hup⟩ := joinAll_spec h hr
      exact hchain r hmem hup
    refine ⟨fun y ys hp => ?_, hdef⟩
    have hmem : ∀ a, a ∈ y :: ys ↔ a ∈ x :: xs := fun _ => hp.mem_iff
    cases hy : joinAll join y ys with
    | none =>
      cases hx : joinAll join x xs with
      | none => trivial
      | some r =>
        have hc : Chain le (x :: xs) := hdef.1 (by rw [hx]; rfl)
        have hsome : (joinAll join y ys).isSome = true :=
          joinAll_chain h fun a ha b hb => hc a ((hmem a).1 ha) b ((hmem b).1 hb)
        rw [hy] at hsome
        cases hsome
    | some r =>
      obtain ⟨hr, hup⟩ := joinAll_spec h hy
      have hup' : ∀ a ∈ x :: xs, le a r := fun a ha => hup a ((hmem a).2 ha)
      have hc := hchain r ((hmem r).1 hr) hup'
      cases hx : joinAll join x xs with
      | none =>
        have hsome := joinAll_chain h hc
        rw [hx] at hsome
        cases hsome
      | some w =>
        obtain ⟨hw, hupw⟩ := joinAll_spec h hx
        exact ⟨hupw r ((hmem r).1 hr), hup' w hw⟩

/-! ## In the order of the list -/

/-- Each element is comparable with the greatest of those before it. -/
def Nested (le : α → α → Prop) (x : α) (xs : List α) : Prop :=
  ∀ before y after, xs = before ++ y :: after → ∀ z ∈ x :: before, (∀ w ∈ x :: before, le w z) → Comparable le y z

theorem joinAll_append (x : α) (xs ys : List α) :
    joinAll join x (xs ++ ys) = (joinAll join x xs).bind fun r => joinAll join r ys := by
  induction xs generalizing x with
  | nil => rfl
  | cons y xs ih =>
    rw [List.cons_append, joinAll, joinAll]
    cases join y x with
    | none => rfl
    | some z => exact ih z

/-- **Exactly when the fold is defined.** -/
theorem joinAll_nested_iff (h : Joins le join) (x : α) (xs : List α) :
    (joinAll join x xs).isSome = true ↔ Nested le x xs := by
  constructor
  · rintro hsome before y after rfl z hz hgreatest
    rw [joinAll_append] at hsome
    cases hbefore : joinAll join x before with
    | none =>
      rw [hbefore] at hsome
      cases hsome
    | some r =>
      obtain ⟨hmem, hup⟩ := joinAll_spec h hbefore
      rw [hbefore, Option.bind_some, joinAll] at hsome
      cases hj : join y r with
      | none =>
        rw [hj] at hsome
        cases hsome
      | some t =>
        obtain ⟨ht, hyt, hrt⟩ := h.upper hj
        rcases ht with rfl | rfl
        · exact .inr (h.trans (hup z hz) hrt)
        · exact .inl (h.trans hyt (hgreatest t hmem))
  · intro hnested
    induction xs using List.reverseRecOn with
    | nil => rfl
    | append_singleton ys y ih =>
      have hfirst : Nested le x ys := fun before w after heq =>
        hnested before w (after ++ [y]) (by rw [heq, List.append_assoc]; rfl)
      obtain ⟨r, hr⟩ := Option.isSome_iff_exists.1 (ih hfirst)
      obtain ⟨hmem, hup⟩ := joinAll_spec h hr
      rw [joinAll_append, hr, Option.bind_some, joinAll]
      cases hj : join y r with
      | none => exact absurd (hnested ys y [] rfl r hmem hup) (h.undefined hj)
      | some t => rfl

end ChainJoin
