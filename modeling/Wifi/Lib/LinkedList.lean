import Mathlib.Data.List.Nodup
import Mathlib.Logic.Function.Basic
import Mathlib.Tactic.Common

/-!
# Singly linked lists

Cells that point to the next one, and code that edits such a list through a pointer to a pointer.

* `Seg` — the cells from a pointer on, up to the pointer in the last of them; `Chain` — up to the null pointer.
* `Links`, `Link` — pointer variables and cells, and the places that hold a pointer; `load` and `store`.
* `endLink` — the place behind the last cell of a list; `store_endLink` — what a store there does to the list,
  and `store_other` — a store elsewhere.
-/

set_option autoImplicit false

namespace LinkedList

variable {α ρ : Type*}

/-! ## Cells -/

/-- The cells `l` from the pointer `p`; the last one holds `q`. -/
inductive Seg (next : α → Option α) : Option α → List α → Option α → Prop where
  | nil {p : Option α} : Seg next p [] p
  | cons {a : α} {l : List α} {q : Option α} : Seg next (next a) l q → Seg next (some a) (a :: l) q

def Chain (next : α → Option α) (p : Option α) (l : List α) : Prop := Seg next p l none

variable {next next' : α → Option α} {p q r : Option α} {l l' : List α} {a : α}

@[simp] theorem seg_nil : Seg next p [] q ↔ p = q := by
  refine ⟨fun h => ?_, fun h => h ▸ .nil⟩
  cases h with
  | nil => rfl

@[simp] theorem seg_cons : Seg next p (a :: l) q ↔ p = some a ∧ Seg next (next a) l q := by
  refine ⟨fun h => ?_, fun ⟨hp, h⟩ => hp ▸ .cons h⟩
  cases h with
  | cons h => exact ⟨rfl, h⟩

theorem Seg.frame (h : Seg next p l q) (hnext : ∀ b ∈ l, next' b = next b) : Seg next' p l q := by
  induction h with
  | nil => exact .nil
  | @cons a l q _ ih =>
    have hl := ih fun b hb => hnext b (List.mem_cons_of_mem a hb)
    rw [← hnext a List.mem_cons_self] at hl
    exact .cons hl

theorem seg_append : ∀ {l : List α} {p : Option α},
    Seg next p (l ++ l') r ↔ ∃ q, Seg next p l q ∧ Seg next q l' r := by
  intro l
  induction l with
  | nil => simp
  | cons a l ih =>
    intro p
    rw [List.cons_append, seg_cons, ih]
    simp only [seg_cons, and_assoc, exists_and_left]

theorem Seg.append (h : Seg next p l q) (h' : Seg next q l' r) : Seg next p (l ++ l') r := seg_append.mpr ⟨q, h, h'⟩

theorem Seg.snoc (h : Seg next p l (some a)) : Seg next p (l ++ [a]) (next a) := h.append (.cons .nil)

theorem Seg.last (h : Seg next p (l ++ [a]) q) : q = next a := by
  obtain ⟨q', -, h'⟩ := seg_append.mp h
  simp only [seg_cons, seg_nil] at h'
  exact h'.2.symm

theorem Chain.nil_iff (h : Chain next p l) : p = none ↔ l = [] := by
  unfold Chain at h
  cases l with
  | nil => simp_all
  | cons a l => simp_all

theorem Chain.head (h : Chain next p l) : p = l.head? := by
  unfold Chain at h
  cases l with
  | nil => exact seg_nil.mp h
  | cons a l => exact (seg_cons.mp h).1

theorem Chain.unique : ∀ {l l' : List α} {p : Option α}, Chain next p l → Chain next p l' → l = l' := by
  intro l
  induction l with
  | nil =>
    intro l' p h h'
    exact (h'.nil_iff.mp (seg_nil.mp h)).symm
  | cons a l ih =>
    intro l' p h h'
    obtain ⟨hp, hl⟩ := seg_cons.mp h
    cases l' with
    | nil => exact absurd ((h'.nil_iff.mpr rfl).symm.trans hp) (by simp)
    | cons b l' =>
      obtain ⟨hp', hl'⟩ := seg_cons.mp h'
      obtain rfl := Option.some.inj (hp.symm.trans hp')
      rw [ih hl hl']

theorem Chain.nodup : ∀ {l : List α} {p : Option α}, Chain next p l → l.Nodup := by
  intro l
  induction l with
  | nil => exact fun _ => List.nodup_nil
  | cons a l ih =>
    intro p h
    have hl := (seg_cons.mp h).2
    refine List.nodup_cons.mpr ⟨?_, ih hl⟩
    intro hmem
    -- from the second `a` the list would be as long as from the first one
    obtain ⟨l₁, l₂, rfl⟩ := List.append_of_mem hmem
    obtain ⟨q, -, hq⟩ := seg_append.mp hl
    have hlen := congrArg List.length (Chain.unique hl (seg_cons.mp hq).2)
    simp at hlen
    omega

/-! ## Places that hold a pointer -/

/-- Pointer variables and the cells' pointers. -/
structure Links (ρ α : Type*) where
  var : ρ → Option α
  next : α → Option α

inductive Link (ρ α : Type*) where
  | var (r : ρ)
  | next (a : α)
  deriving DecidableEq

def Links.load (m : Links ρ α) : Link ρ α → Option α
  | .var r => m.var r
  | .next a => m.next a

/-- The list `l` begins at the variable. -/
def Links.Seg (m : Links ρ α) (r : ρ) (l : List α) (q : Option α) : Prop := LinkedList.Seg m.next (m.var r) l q

def endLink (r : ρ) (l : List α) : Link ρ α :=
  match l.getLast? with
  | none => .var r
  | some a => .next a

theorem endLink_nil (r : ρ) : endLink r ([] : List α) = .var r := rfl

theorem endLink_snoc (r : ρ) (l : List α) (a : α) : endLink r (l ++ [a]) = .next a := by
  unfold endLink
  rw [List.getLast?_concat]

/-- The place behind one list is not a place of another one. -/
theorem endLink_ne (r₀ r₁ : ρ) (hr : r₀ ≠ r₁) (hl : ∀ a ∈ l, a ∉ l') :
    endLink r₀ l ≠ .var r₁ ∧ ∀ a ∈ l', endLink r₀ l ≠ .next a := by
  obtain rfl | ⟨l₀, b, rfl⟩ := List.eq_nil_or_concat l
  · rw [endLink_nil]
    simp [hr]
  · rw [List.concat_eq_append] at hl ⊢
    rw [endLink_snoc]
    refine ⟨by simp, ?_⟩
    rintro a ha ⟨rfl⟩
    exact hl b (by simp) ha

theorem Links.Seg.load_endLink {m : Links ρ α} {r₀ : ρ} (h : m.Seg r₀ l q) : m.load (endLink r₀ l) = q := by
  obtain rfl | ⟨l', a, rfl⟩ := List.eq_nil_or_concat l
  · exact seg_nil.mp h
  · rw [List.concat_eq_append] at h ⊢
    rw [endLink_snoc]
    exact (LinkedList.Seg.last h).symm

/-! ## Stores -/

variable [DecidableEq α] [DecidableEq ρ]

def Links.store (m : Links ρ α) (k : Link ρ α) (v : Option α) : Links ρ α :=
  match k with
  | .var r => { m with var := Function.update m.var r v }
  | .next a => { m with next := Function.update m.next a v }

variable {m : Links ρ α} {r₀ : ρ} {k : Link ρ α} {v : Option α}

@[simp] theorem store_var_var (m : Links ρ α) (r : ρ) (v : Option α) : (m.store (.var r) v).var r = v := by
  simp [Links.store]

@[simp] theorem store_next_next (m : Links ρ α) (a : α) (v : Option α) : (m.store (.next a) v).next a = v := by
  simp [Links.store]

theorem store_var_of_ne {r r' : ρ} (h : r' ≠ r) : (m.store (.var r) v).var r' = m.var r' := by
  simp [Links.store, h]

theorem store_next_of_ne {b : α} (h : b ≠ a) : (m.store (.next a) v).next b = m.next b := by
  simp [Links.store, h]

/-- **A store behind the last cell** changes the end of the list only. -/
theorem Links.Seg.store_endLink (h : m.Seg r₀ l q) (hl : l.Nodup) : (m.store (endLink r₀ l) v).Seg r₀ l v := by
  obtain rfl | ⟨l', a, rfl⟩ := List.eq_nil_or_concat l
  · exact seg_nil.mpr (store_var_var m r₀ v)
  · rw [List.concat_eq_append] at h hl ⊢
    have ha : a ∉ l' := fun hmem => (List.nodup_append.mp hl).2.2 a hmem a (List.mem_singleton_self a) rfl
    obtain ⟨q', h', ha'⟩ := seg_append.mp h
    obtain ⟨rfl, -⟩ := seg_cons.mp ha'
    rw [endLink_snoc]
    refine seg_append.mpr ⟨some a, LinkedList.Seg.frame h' fun b hb => store_next_of_ne ?_, by simp⟩
    rintro rfl
    exact ha hb

theorem Links.Seg.store_other (h : m.Seg r₀ l q) (hr : k ≠ .var r₀) (hl : ∀ a ∈ l, k ≠ .next a) :
    (m.store k v).Seg r₀ l q := by
  cases k with
  | var r =>
    have hne : r₀ ≠ r := fun he => hr (he ▸ rfl)
    unfold Links.Seg
    rw [store_var_of_ne hne]
    exact h
  | next a =>
    refine LinkedList.Seg.frame h fun b hb => store_next_of_ne ?_
    rintro rfl
    exact hl b hb rfl

end LinkedList
