import Mathlib.Data.Int.Order.Basic
import Mathlib.Tactic.Common
import Wifi.Lib.Runs

/-!
# Three-way comparators

A comparator returns a negative number, zero or a positive number.

* `TotalPreorder` — the comparator orders all elements; `TotalPreorder.strict_left` and the lemmas
  after it are the strict versions of transitivity.
* `lex` — a second comparator decides where the first finds no difference.
* `longerFirst`, `noneFirst` — comparators of lists and of optional values.
-/

set_option autoImplicit false

namespace Comparator

variable {α β : Type*}

/-- **The comparator is a total preorder.** -/
structure TotalPreorder (cmp : α → α → Int) : Prop where
  symm : ∀ a b, (cmp a b).sign = -(cmp b a).sign
  trans : ∀ a b c, cmp a b ≤ 0 → cmp b c ≤ 0 → cmp a c ≤ 0

theorem sign_neg_iff {x y : Int} (h : x.sign = -y.sign) : x < 0 ↔ 0 < y := by
  rw [← Int.sign_eq_neg_one_iff_neg, ← Int.sign_eq_one_iff_pos]
  omega

theorem sign_zero_iff {x y : Int} (h : x.sign = -y.sign) : x = 0 ↔ y = 0 := by
  rw [← Int.sign_eq_zero_iff_zero, ← Int.sign_eq_zero_iff_zero (a := y)]
  omega

section

variable {cmp : α → α → Int} (h : TotalPreorder cmp)
include h

theorem TotalPreorder.neg_iff (a b : α) : cmp a b < 0 ↔ 0 < cmp b a := sign_neg_iff (h.symm a b)

theorem TotalPreorder.zero_iff (a b : α) : cmp a b = 0 ↔ cmp b a = 0 := sign_zero_iff (h.symm a b)

theorem TotalPreorder.strict_left {a b c : α} (hab : cmp a b < 0) (hbc : cmp b c ≤ 0) :
    cmp a c < 0 := by
  have hba := (h.neg_iff a b).1 hab
  by_contra hac
  have hca : cmp c a ≤ 0 := by
    have hn := h.neg_iff c a
    have hz := h.zero_iff c a
    have hn' := h.neg_iff a c
    omega
  have := h.trans b c a hbc hca
  omega

theorem TotalPreorder.strict_right {a b c : α} (hab : cmp a b ≤ 0) (hbc : cmp b c < 0) :
    cmp a c < 0 := by
  have hcb := (h.neg_iff b c).1 hbc
  by_contra hac
  have hca : cmp c a ≤ 0 := by
    have hn := h.neg_iff c a
    have hz := h.zero_iff c a
    have hn' := h.neg_iff a c
    omega
  have := h.trans c a b hca hab
  omega

end

theorem TotalPreorder.comap {cmp : α → α → Int} (h : TotalPreorder cmp) (f : β → α) :
    TotalPreorder fun a b => cmp (f a) (f b) :=
  ⟨fun a b => h.symm (f a) (f b), fun a b c => h.trans (f a) (f b) (f c)⟩

/-- The second comparator decides where the first finds no difference. -/
def lex (cmp cmp' : α → α → Int) (a b : α) : Int := if cmp a b ≠ 0 then cmp a b else cmp' a b

theorem TotalPreorder.lex {cmp cmp' : α → α → Int} (h : TotalPreorder cmp)
    (h' : TotalPreorder cmp') : TotalPreorder (lex cmp cmp') := by
  refine ⟨fun a b => ?_, fun a b c => ?_⟩
  · unfold Comparator.lex
    by_cases hz : cmp a b = 0
    · rw [if_neg (not_not.2 hz), if_neg (not_not.2 ((h.zero_iff a b).1 hz))]
      exact h'.symm a b
    · rw [if_pos hz, if_pos fun h0 => hz ((h.zero_iff a b).2 h0)]
      exact h.symm a b
  · unfold Comparator.lex
    intro hab hbc
    by_cases h1 : cmp a b = 0
    · rw [if_neg (not_not.2 h1)] at hab
      by_cases h2 : cmp b c = 0
      · rw [if_neg (not_not.2 h2)] at hbc
        have hle := h.trans a b c (by omega) (by omega)
        have hge := h.trans c b a (by have := (h.zero_iff b c).1 h2; omega)
          (by have := (h.zero_iff a b).1 h1; omega)
        have hn := h.neg_iff a c
        rw [if_neg (by omega)]
        exact h'.trans a b c hab hbc
      · rw [if_pos h2] at hbc
        have hac := h.strict_right (a := a) (b := b) (c := c) (by omega) (by omega)
        rw [if_pos (by omega)]
        omega
    · rw [if_pos h1] at hab
      have hle : cmp b c ≤ 0 := by
        by_cases h2 : cmp b c = 0
        · omega
        · rwa [if_pos h2] at hbc
      have hac := h.strict_left (a := a) (b := b) (c := c) (by omega) hle
      rw [if_pos (by omega)]
      omega

def noneFirst (cmp : α → α → Int) : Option α → Option α → Int
  | none, none => 0
  | none, some _ => -1
  | some _, none => 1
  | some a, some b => cmp a b

theorem TotalPreorder.noneFirst {cmp : α → α → Int} (h : TotalPreorder cmp) :
    TotalPreorder (noneFirst cmp) := by
  refine ⟨fun a b => ?_, fun a b c => ?_⟩
  · cases a with
    | none => cases b <;> rfl
    | some a =>
      cases b with
      | none => rfl
      | some b => exact h.symm a b
  · unfold Comparator.noneFirst
    cases a <;> cases b <;> cases c <;> simp only <;> intro hab hbc <;> try omega
    exact h.trans _ _ _ hab hbc

/-- `memcmp` of two lists of bytes. -/
def memcmp {w : Nat} : Nat → List (BitVec w) → List (BitVec w) → Int
  | n + 1, x :: xs, y :: ys => if x ≠ y then (x.toNat : Int) - y.toNat else memcmp n xs ys
  | _, _, _ => 0

theorem memcmp_symm {w : Nat} : ∀ (n : Nat) (xs ys : List (BitVec w)),
    memcmp n xs ys = -memcmp n ys xs
  | 0, _, _ => rfl
  | _ + 1, [], [] => rfl
  | _ + 1, [], _ :: _ => rfl
  | _ + 1, _ :: _, [] => rfl
  | n + 1, x :: xs, y :: ys => by
    unfold memcmp
    by_cases hxy : x = y
    · rw [if_neg (not_not.2 hxy), if_neg (not_not.2 hxy.symm)]
      exact memcmp_symm n xs ys
    · rw [if_pos hxy, if_pos (Ne.symm hxy)]
      omega

theorem memcmp_trans {w : Nat} : ∀ (n : Nat) {xs ys zs : List (BitVec w)}, xs.length = n →
    ys.length = n → zs.length = n → memcmp n xs ys ≤ 0 → memcmp n ys zs ≤ 0 → memcmp n xs zs ≤ 0
  | 0, _, _, _, _, _, _, _, _ => Int.le_refl 0
  | n + 1, x :: xs, y :: ys, z :: zs, hx, hy, hz, hxy, hyz => by
    unfold memcmp at *
    by_cases h1 : x = y
    · subst h1
      rw [if_neg (not_not.2 rfl)] at hxy
      by_cases h2 : x = z
      · rw [if_neg (not_not.2 h2)] at hyz ⊢
        exact memcmp_trans n (Nat.succ.inj hx) (Nat.succ.inj hy) (Nat.succ.inj hz) hxy hyz
      · rwa [if_pos h2] at hyz ⊢
    · have hne : x.toNat ≠ y.toNat := fun h => h1 (BitVec.eq_of_toNat_eq h)
      rw [if_pos h1] at hxy
      have hle : y.toNat ≤ z.toNat := by
        by_cases h2 : y = z
        · exact Nat.le_of_eq (congrArg BitVec.toNat h2)
        · rw [if_pos h2] at hyz
          omega
      have hxz : x ≠ z := fun h => by
        rw [h] at hxy hne
        omega
      rw [if_pos hxz]
      omega

/-- Longer lists first, lists of one length by their contents. -/
def longerFirst {w : Nat} (xs ys : List (BitVec w)) : Int :=
  if xs.length = ys.length then memcmp xs.length xs ys else (ys.length : Int) - xs.length

theorem longerFirst_of_ne {w : Nat} (xs ys : List (BitVec w)) : longerFirst xs ys =
    if xs.length ≠ ys.length then (ys.length : Int) - xs.length else memcmp xs.length xs ys := by
  unfold longerFirst
  by_cases h : xs.length = ys.length
  · rw [if_pos h, if_neg (not_not.2 h)]
  · rw [if_neg h, if_pos h]

theorem TotalPreorder.longerFirst {w : Nat} : TotalPreorder (longerFirst (w := w)) := by
  refine ⟨fun xs ys => ?_, fun xs ys zs => ?_⟩
  · unfold Comparator.longerFirst
    rw [← Int.sign_neg]
    by_cases h : xs.length = ys.length
    · rw [if_pos h, if_pos h.symm, ← memcmp_symm, h]
    · rw [if_neg h, if_neg (Ne.symm h)]
      congr 1
      omega
  · unfold Comparator.longerFirst
    intro hxy hyz
    by_cases h1 : xs.length = ys.length
    · rw [if_pos h1] at hxy
      by_cases h2 : ys.length = zs.length
      · rw [if_pos h2] at hyz
        rw [if_pos (h1.trans h2)]
        rw [← h1] at hyz
        exact memcmp_trans _ rfl h1.symm (h1.trans h2).symm hxy hyz
      · rw [if_neg h2] at hyz
        rw [if_neg (by omega)]
        omega
    · rw [if_neg h1] at hxy
      have hle : zs.length ≤ ys.length := by
        by_cases h2 : ys.length = zs.length
        · omega
        · rw [if_neg h2] at hyz
          omega
      rw [if_neg (by omega)]
      omega

end Comparator

/-!
## Search trees over a comparator

A tree is searched with a three-way comparator.  What balances it is left open: after an insertion
or a removal it may have any shape that keeps the order of its elements.

* `find`, `insert` — the search, and the insertion where the search ends.
* `Sorted` — the elements are in strict order; `insert_sorted`, `step_sorted`.
* `find_complete` — **the search finds an equal element when there is one**, where the comparator is
  a total preorder of the elements.
-/

namespace SearchTree

open Comparator

variable {α : Type*}

inductive Tree (α : Type*) where
  | leaf
  | node (left : Tree α) (value : α) (right : Tree α)

def Tree.inorder : Tree α → List α
  | .leaf => []
  | .node l x r => l.inorder ++ x :: r.inorder

/-- Search for an element that `cmp` finds equal. -/
def Tree.find (cmp : α → Int) : Tree α → Option α
  | .leaf => none
  | .node l x r => if cmp x = 0 then some x else if cmp x < 0 then l.find cmp else r.find cmp

/-- Insertion where the search for `y` ends; nothing changes when there is an equal element. -/
def Tree.insert (cmp : α → Int) (y : α) : Tree α → Tree α
  | .leaf => .node .leaf y .leaf
  | .node l x r =>
    if cmp x = 0 then .node l x r
    else if cmp x < 0 then .node (l.insert cmp y) x r else .node l x (r.insert cmp y)

theorem Tree.mem_inorder {l r : Tree α} {x z : α} :
    z ∈ (Tree.node l x r).inorder ↔ z ∈ l.inorder ∨ z = x ∨ z ∈ r.inorder := by
  rw [Tree.inorder, List.mem_append, List.mem_cons]

theorem Tree.mem_insert {cmp : α → Int} {y z : α} : ∀ {t : Tree α},
    z ∈ (t.insert cmp y).inorder → z = y ∨ z ∈ t.inorder
  | .leaf, h => by
    rw [Tree.insert, Tree.mem_inorder] at h
    rcases h with h | h | h
    · exact .inr h
    · exact .inl h
    · exact .inr h
  | .node l x r, h => by
    unfold Tree.insert at h
    rw [Tree.mem_inorder]
    split at h
    · exact .inr (Tree.mem_inorder.1 h)
    · split at h
      · rcases Tree.mem_inorder.1 h with h | h
        · exact (mem_insert h).imp_right .inl
        · exact .inr (.inr h)
      · rcases Tree.mem_inorder.1 h with h | h | h
        · exact .inr (.inl h)
        · exact .inr (.inr (.inl h))
        · exact (mem_insert h).imp_right fun h => .inr (.inr h)

def Sorted (cmp : α → α → Int) (t : Tree α) : Prop := t.inorder.Pairwise fun a b => cmp a b < 0

theorem sorted_node {cmp : α → α → Int} {l r : Tree α} {x : α} :
    Sorted cmp (.node l x r) ↔ Sorted cmp l ∧ Sorted cmp r ∧ (∀ a ∈ l.inorder, cmp a x < 0) ∧
      (∀ b ∈ r.inorder, cmp x b < 0) ∧ ∀ a ∈ l.inorder, ∀ b ∈ r.inorder, cmp a b < 0 := by
  unfold Sorted
  rw [Tree.inorder, List.pairwise_append, List.pairwise_cons]
  constructor
  · intro ⟨hl, ⟨hx, hr⟩, hlr⟩
    exact ⟨hl, hr, fun a ha => hlr a ha x List.mem_cons_self, hx,
      fun a ha b hb => hlr a ha b (List.mem_cons_of_mem _ hb)⟩
  · intro ⟨hl, hr, hlx, hxr, hlr⟩
    refine ⟨hl, ⟨hxr, hr⟩, fun a ha b hb => ?_⟩
    cases List.mem_cons.1 hb with
    | inl h => rw [h]; exact hlx a ha
    | inr h => exact hlr a ha b h

/-- A total preorder of the elements that satisfy `S`. -/
abbrev PreorderOn (S : α → Prop) (cmp : α → α → Int) : Prop :=
  TotalPreorder fun a b : { x // S x } => cmp a b

section

variable {S : α → Prop} {cmp : α → α → Int} (h : PreorderOn S cmp)
include h

theorem lt_trans {a b c : α} (ha : S a) (hb : S b) (hc : S c) (hab : cmp a b < 0)
    (hbc : cmp b c < 0) : cmp a c < 0 :=
  h.strict_left (a := ⟨a, ha⟩) (b := ⟨b, hb⟩) (c := ⟨c, hc⟩) hab (Int.le_of_lt hbc)

/-- **The search finds an equal element when there is one.** -/
theorem find_complete {y x : α} (hy : S y) (h0 : cmp y x = 0) : ∀ {t : Tree α},
    (∀ z ∈ t.inorder, S z) → Sorted cmp t → x ∈ t.inorder →
    ∃ z, t.find (cmp y) = some z ∧ z ∈ t.inorder ∧ cmp y z = 0
  | .leaf, _, _, hx => (List.not_mem_nil hx).elim
  | .node l m r, hS, hsorted, hx => by
    obtain ⟨hl, hr, hlm, hmr, -⟩ := sorted_node.1 hsorted
    have hSm : S m := hS m (Tree.mem_inorder.2 (.inr (.inl rfl)))
    have hSx : S x := hS x hx
    unfold Tree.find
    by_cases hm : cmp y m = 0
    · rw [if_pos hm]
      exact ⟨m, rfl, Tree.mem_inorder.2 (.inr (.inl rfl)), hm⟩
    · rw [if_neg hm]
      rcases Tree.mem_inorder.1 hx with hx | rfl | hx
      · -- an element of the left subtree equals `y`, so that `y` is before `m`
        have hlt : cmp y m < 0 :=
          h.strict_right (a := ⟨y, hy⟩) (b := ⟨x, hSx⟩) (c := ⟨m, hSm⟩)
            (show cmp y x ≤ 0 by omega) (hlm x hx)
        rw [if_pos hlt]
        obtain ⟨z, hz, hmem, hz0⟩ := find_complete hy h0
          (fun z hz => hS z (Tree.mem_inorder.2 (.inl hz))) hl hx
        exact ⟨z, hz, Tree.mem_inorder.2 (.inl hmem), hz0⟩
      · exact absurd h0 hm
      · have hgt : ¬ cmp y m < 0 := by
          intro hlt
          have hyx := lt_trans h hy hSm hSx hlt (hmr x hx)
          omega
        rw [if_neg hgt]
        obtain ⟨z, hz, hmem, hz0⟩ := find_complete hy h0
          (fun z hz => hS z (Tree.mem_inorder.2 (.inr (.inr hz)))) hr hx
        exact ⟨z, hz, Tree.mem_inorder.2 (.inr (.inr hmem)), hz0⟩

theorem insert_sorted {y : α} (hy : S y) : ∀ {t : Tree α}, (∀ z ∈ t.inorder, S z) →
    Sorted cmp t → Sorted cmp (t.insert (cmp y) y)
  | .leaf, _, _ => List.pairwise_singleton _ _
  | .node l m r, hS, hsorted => by
    obtain ⟨hl, hr, hlm, hmr, hlr⟩ := sorted_node.1 hsorted
    have hSm : S m := hS m (Tree.mem_inorder.2 (.inr (.inl rfl)))
    have hSl : ∀ z ∈ l.inorder, S z := fun z hz => hS z (Tree.mem_inorder.2 (.inl hz))
    have hSr : ∀ z ∈ r.inorder, S z := fun z hz => hS z (Tree.mem_inorder.2 (.inr (.inr hz)))
    unfold Tree.insert
    split
    · exact hsorted
    · rename_i hne
      split
      · rename_i hlt
        refine sorted_node.2 ⟨insert_sorted hy hSl hl, hr, ?_, hmr, ?_⟩
        · intro a ha
          rcases Tree.mem_insert ha with rfl | ha
          · exact hlt
          · exact hlm a ha
        · intro a ha b hb
          rcases Tree.mem_insert ha with rfl | ha
          · exact lt_trans h hy hSm (hSr b hb) hlt (hmr b hb)
          · exact hlr a ha b hb
      · have hgt : cmp m y < 0 := by
          have hn := h.neg_iff ⟨m, hSm⟩ ⟨y, hy⟩
          simp only at hn
          omega
        refine sorted_node.2 ⟨hl, insert_sorted hy hSr hr, hlm, ?_, ?_⟩
        · intro b hb
          rcases Tree.mem_insert hb with rfl | hb
          · exact hgt
          · exact hmr b hb
        · intro a ha b hb
          rcases Tree.mem_insert hb with rfl | hb
          · exact lt_trans h (hSl a ha) hSm hy (hlm a ha) hgt
          · exact hlr a ha b hb

end

/-! ## Trees that change -/

inductive TreeOp (α : Type*) where
  | insert (y : α)
  | erase (x : α)

/-- One operation; the tree is balanced afterwards. -/
inductive Step (cmp : α → α → Int) : Tree α → TreeOp α → Tree α → Prop where
  | insert {t t' : Tree α} {y : α} : t'.inorder = (t.insert (cmp y) y).inorder →
      Step cmp t (.insert y) t'
  | erase {t t' : Tree α} {x : α} {left right : List α} : t.inorder = left ++ x :: right →
      t'.inorder = left ++ right → Step cmp t (.erase x) t'

/-- The element of the operation satisfies `S`. -/
def TreeOp.Within (S : α → Prop) (_ : Tree α) : TreeOp α → Prop
  | .insert y => S y
  | .erase _ => True

/-- The elements satisfy `S` and are in strict order. -/
structure SortedIn (S : α → Prop) (cmp : α → α → Int) (t : Tree α) : Prop where
  within : ∀ z ∈ t.inorder, S z
  sorted : Sorted cmp t

theorem step_sorted {S : α → Prop} {cmp : α → α → Int} (h : PreorderOn S cmp) {t t' : Tree α}
    {op : TreeOp α} (hs : Runs.Guarded (TreeOp.Within S) (Step cmp) t op t')
    (ht : SortedIn S cmp t) : SortedIn S cmp t' := by
  obtain ⟨hS, hsorted⟩ := ht
  obtain ⟨hw, hs⟩ := hs
  cases hs with
  | @insert _ y he =>
    have hy : S y := hw
    refine ⟨fun z hz => ?_, ?_⟩
    · rw [he] at hz
      rcases Tree.mem_insert hz with rfl | hz
      · exact hy
      · exact hS z hz
    · unfold Sorted
      rw [he]
      exact insert_sorted h hy hS hsorted
  | @erase _ x left right he he' =>
    have hsub : (left ++ right).Sublist (left ++ x :: right) :=
      (List.Sublist.refl left).append (List.sublist_cons_self x right)
    refine ⟨fun z hz => ?_, ?_⟩
    · rw [he'] at hz
      exact hS z (he ▸ hsub.subset hz)
    · unfold Sorted at hsorted ⊢
      rw [he] at hsorted
      rw [he']
      exact hsorted.sublist hsub

/-- **In every run over elements that the comparator orders, the search finds what is there.** -/
theorem reachable_find {S : α → Prop} {cmp : α → α → Int} (h : PreorderOn S cmp) {t : Tree α}
    (hr : Runs.Reachable (· = .leaf) (Runs.Guarded (TreeOp.Within S) (Step cmp)) t) {x y : α}
    (hy : S y) (hx : x ∈ t.inorder) (h0 : cmp y x = 0) :
    ∃ z, t.find (cmp y) = some z ∧ z ∈ t.inorder ∧ cmp y z = 0 := by
  have hinv : SortedIn S cmp t := by
    refine hr.invariant ?_ fun _ _ _ hi hs => step_sorted h hs hi
    intro s hs
    subst hs
    exact ⟨fun z hz => (List.not_mem_nil hz).elim, List.Pairwise.nil⟩
  exact find_complete h hy h0 hinv.within hinv.sorted hx

end SearchTree
