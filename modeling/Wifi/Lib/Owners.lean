import Mathlib.Data.List.Nodup
import Mathlib.Logic.Function.Basic

/-!
# Things that are given out, held and released

Things are numbered as they are given out; each is held at a place until it is released.

* `Owned` — every thing given out is held at one place or was released once, and not both.
* `Owned.release`, `Owned.give`, `Owned.pass` — a place lets go of what it holds, gets the next thing, or the next
  thing is released at once.
-/

set_option autoImplicit false

namespace Owners

variable {ι : Type*} {held : ι → Option Nat} {gone : List Nat} {next : Nat}

/-- What is held and what was released, with `next` the next thing. -/
structure Owned (held : ι → Option Nat) (gone : List Nat) (next : Nat) : Prop where
  once : gone.Nodup
  given : ∀ b ∈ gone, b < next
  live : ∀ i b, held i = some b → b < next ∧ b ∉ gone
  single : ∀ i j b, held i = some b → held j = some b → i = j
  kept : ∀ b < next, b ∈ gone ∨ ∃ i, held i = some b

theorem Owned.start (held : ι → Option Nat) (h : ∀ i, held i = none) : Owned held [] 0 :=
  ⟨List.nodup_nil, by simp, by simp [h], by simp [h], by simp⟩

theorem Owned.pass (h : Owned held gone next) : Owned held (gone ++ [next]) (next + 1) := by
  have hnew : next ∉ gone := fun hmem => absurd (h.given _ hmem) (Nat.lt_irrefl _)
  refine ⟨?_, fun b hb => ?_, fun i b hi => ?_, h.single, fun b hb => ?_⟩
  · simpa [List.nodup_append] using ⟨h.once, fun b hb heq => hnew (heq ▸ hb)⟩
  · obtain hb | hb := List.mem_append.mp hb
    · exact Nat.lt_succ_of_lt (h.given b hb)
    · rw [List.mem_singleton.mp hb]
      exact Nat.lt_succ_self _
  · obtain ⟨hlt, hno⟩ := h.live i b hi
    exact ⟨Nat.lt_succ_of_lt hlt, by simp [hno, Nat.ne_of_lt hlt]⟩
  · obtain hlt | rfl := Nat.lt_succ_iff_lt_or_eq.mp hb
    · exact (h.kept b hlt).imp_left (List.mem_append_left _)
    · exact .inl (by simp)

variable [DecidableEq ι]

theorem Owned.release (h : Owned held gone next) (i : ι) :
    Owned (Function.update held i none) (gone ++ (held i).toList) next := by
  have hheld : ∀ j b, Function.update held i none j = some b → j ≠ i ∧ held j = some b := by
    intro j b hj
    by_cases hji : j = i
    · subst hji
      simp at hj
    · exact ⟨hji, by rwa [Function.update_of_ne hji] at hj⟩
  have hgone : ∀ b, b ∈ gone ++ (held i).toList ↔ b ∈ gone ∨ held i = some b := by simp
  refine ⟨?_, fun b hb => ?_, fun j b hj => ?_, fun j k b hj hk => ?_, fun b hb => ?_⟩
  · cases hi : held i with
    | none => simpa using h.once
    | some b =>
      have hno := (h.live i b hi).2
      simpa [List.nodup_append] using ⟨h.once, fun c hc heq => hno (heq ▸ hc)⟩
  · obtain hb | hb := (hgone b).mp hb
    · exact h.given b hb
    · exact (h.live i b hb).1
  · obtain ⟨hji, hj⟩ := hheld j b hj
    obtain ⟨hlt, hno⟩ := h.live j b hj
    refine ⟨hlt, fun hmem => ?_⟩
    obtain hmem | hi := (hgone b).mp hmem
    · exact hno hmem
    · exact hji (h.single j i b hj hi)
  · exact h.single j k b (hheld j b hj).2 (hheld k b hk).2
  · obtain hmem | ⟨j, hj⟩ := h.kept b hb
    · exact .inl ((hgone b).mpr (.inl hmem))
    · by_cases hji : j = i
      · exact .inl ((hgone b).mpr (.inr (hji ▸ hj)))
      · exact .inr ⟨j, by rwa [Function.update_of_ne hji]⟩

theorem Owned.give (h : Owned held gone next) {i : ι} (hi : held i = none) :
    Owned (Function.update held i (some next)) gone (next + 1) := by
  have hheld : ∀ j b, Function.update held i (some next) j = some b → j = i ∧ b = next ∨ held j = some b := by
    intro j b hj
    by_cases hji : j = i
    · subst hji
      rw [Function.update_self] at hj
      exact .inl ⟨rfl, (Option.some.inj hj).symm⟩
    · exact .inr (by rwa [Function.update_of_ne hji] at hj)
  refine ⟨h.once, fun b hb => Nat.lt_succ_of_lt (h.given b hb), fun j b hj => ?_, fun j k b hj hk => ?_,
    fun b hb => ?_⟩
  · obtain ⟨-, rfl⟩ | hj := hheld j b hj
    · exact ⟨Nat.lt_succ_self _, fun hmem => absurd (h.given _ hmem) (Nat.lt_irrefl _)⟩
    · exact ⟨Nat.lt_succ_of_lt (h.live j b hj).1, (h.live j b hj).2⟩
  · obtain ⟨hji, rfl⟩ | hj' := hheld j b hj
    · obtain ⟨hki, -⟩ | hk' := hheld k _ hk
      · exact hji.trans hki.symm
      · exact absurd (h.live k _ hk').1 (Nat.lt_irrefl _)
    · obtain ⟨-, rfl⟩ | hk' := hheld k b hk
      · exact absurd (h.live j _ hj').1 (Nat.lt_irrefl _)
      · exact h.single j k b hj' hk'
  · obtain hlt | rfl := Nat.lt_succ_iff_lt_or_eq.mp hb
    · refine (h.kept b hlt).imp_right fun ⟨j, hj⟩ => ⟨j, ?_⟩
      have hji : j ≠ i := fun heq => by
        rw [heq, hi] at hj
        cases hj
      rwa [Function.update_of_ne hji]
    · exact .inr ⟨i, Function.update_self _ _ _⟩

end Owners
