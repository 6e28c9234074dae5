import Mathlib.Data.Finset.Basic

/-!
# Exchanging members of a set, pair by pair

* `put` — the first of a pair comes in and the second one goes out; `back` — the other way round.
* `backAll_putAll` — what was exchanged is exchanged back in the reverse order, whatever came later.
* `putAll_eq` — the set after all exchanges.
-/

set_option autoImplicit false

namespace Exchange

variable {α : Type} [DecidableEq α]

def put (p : α × α) (S : Finset α) : Finset α := insert p.1 (S.erase p.2)

def back (p : α × α) (S : Finset α) : Finset α := insert p.2 (S.erase p.1)

def putAll (ps : List (α × α)) (S : Finset α) : Finset α := ps.foldl (fun T p => put p T) S

def backAll (ps : List (α × α)) (S : Finset α) : Finset α := ps.foldl (fun T p => back p T) S

def Apart (p q : α × α) : Prop := p.1 ≠ q.1 ∧ p.1 ≠ q.2 ∧ p.2 ≠ q.1 ∧ p.2 ≠ q.2

/-- The pairs are apart, and each can be exchanged. -/
structure Fits (ps : List (α × α)) (S : Finset α) : Prop where
  apart : ps.Pairwise Apart
  out : ∀ p ∈ ps, p.1 ∉ S
  inside : ∀ p ∈ ps, p.2 ∈ S

theorem mem_put {p : α × α} {S : Finset α} {a : α} : a ∈ put p S ↔ a = p.1 ∨ (a ≠ p.2 ∧ a ∈ S) := by
  unfold put
  rw [Finset.mem_insert, Finset.mem_erase]

theorem mem_back {p : α × α} {S : Finset α} {a : α} : a ∈ back p S ↔ a = p.2 ∨ (a ≠ p.1 ∧ a ∈ S) := by
  unfold back
  rw [Finset.mem_insert, Finset.mem_erase]

/-- **An exchange taken back.** -/
theorem back_put {p : α × α} {S : Finset α} (hout : p.1 ∉ S) (hinside : p.2 ∈ S) : back p (put p S) = S := by
  ext a
  rw [mem_back, mem_put]
  constructor
  · rintro (rfl | ⟨hne, heq | ⟨_, ha⟩⟩)
    · exact hinside
    · exact absurd heq hne
    · exact ha
  · intro ha
    by_cases heq : a = p.2
    · exact .inl heq
    · exact .inr ⟨fun h => hout (h ▸ ha), .inr ⟨heq, ha⟩⟩

theorem back_put_comm {p q : α × α} (hapart : Apart q p) (S : Finset α) : back q (put p S) = put p (back q S) := by
  obtain ⟨h11, h12, h21, h22⟩ := hapart
  ext a
  rw [mem_back, mem_put, mem_put, mem_back]
  constructor
  · rintro (rfl | ⟨hne, rfl | ⟨hout, ha⟩⟩)
    · exact .inr ⟨h22, .inl rfl⟩
    · exact .inl rfl
    · exact .inr ⟨hout, .inr ⟨hne, ha⟩⟩
  · rintro (rfl | ⟨hout, rfl | ⟨hne, ha⟩⟩)
    · exact .inr ⟨h11.symm, .inl rfl⟩
    · exact .inl rfl
    · exact .inr ⟨hne, .inr ⟨hout, ha⟩⟩

theorem Fits.tail {p : α × α} {ps : List (α × α)} {S : Finset α} (hfits : Fits (p :: ps) S) : Fits ps (put p S) := by
  obtain ⟨hp, hps⟩ := List.pairwise_cons.mp hfits.apart
  refine ⟨hps, fun q hq hin => ?_, fun q hq => ?_⟩
  · rcases mem_put.mp hin with heq | ⟨_, hin⟩
    · exact (hp q hq).1 heq.symm
    · exact hfits.out q (List.mem_cons_of_mem p hq) hin
  · exact mem_put.mpr (.inr ⟨(hp q hq).2.2.2.symm, hfits.inside q (List.mem_cons_of_mem p hq)⟩)

/-- **The exchanges before `p`, taken back in the reverse order**: `p` alone is left. -/
theorem backAll_putAll {ps : List (α × α)} {p : α × α} {S : Finset α} (hfits : Fits (ps ++ [p]) S) :
    backAll ps.reverse (put p (putAll ps S)) = put p S := by
  induction ps generalizing S with
  | nil => rfl
  | cons q ps ih =>
    have hq := List.pairwise_cons.mp hfits.apart
    have htail : Fits (ps ++ [p]) (put q S) := Fits.tail hfits
    have hrest : backAll ps.reverse (put p (putAll (q :: ps) S)) = put p (put q S) := ih htail
    calc backAll (q :: ps).reverse (put p (putAll (q :: ps) S))
        = back q (backAll ps.reverse (put p (putAll (q :: ps) S))) := by
          rw [List.reverse_cons, backAll, List.foldl_append]
          rfl
      _ = back q (put p (put q S)) := by rw [hrest]
      _ = put p (back q (put q S)) := back_put_comm (hq.1 p (List.mem_append_right ps List.mem_cons_self)) _
      _ = put p S := by
          rw [back_put (hfits.out q List.mem_cons_self) (hfits.inside q List.mem_cons_self)]

/-- **The set after all exchanges.** -/
theorem putAll_eq {ps : List (α × α)} {S : Finset α} (hfits : Fits ps S) :
    putAll ps S = (S \ (ps.map Prod.snd).toFinset) ∪ (ps.map Prod.fst).toFinset := by
  induction ps generalizing S with
  | nil => simp [putAll]
  | cons p ps ih =>
    have hp := (List.pairwise_cons.mp hfits.apart).1
    have hstep : putAll (p :: ps) S = putAll ps (put p S) := rfl
    rw [hstep, ih hfits.tail]
    ext a
    have hfirst : a = p.1 → a ∉ ps.map Prod.snd := by
      rintro rfl hin
      obtain ⟨q, hq, heq⟩ := List.mem_map.mp hin
      exact (hp q hq).2.1 heq.symm
    simp only [Finset.mem_union, Finset.mem_sdiff, List.mem_toFinset, mem_put, List.map_cons, List.mem_cons]
    tauto

omit [DecidableEq α] in
theorem Fits.left {ps qs : List (α × α)} {S : Finset α} (hfits : Fits (ps ++ qs) S) : Fits ps S :=
  ⟨(List.pairwise_append.mp hfits.apart).1, fun p hp => hfits.out p (List.mem_append_left qs hp),
    fun p hp => hfits.inside p (List.mem_append_left qs hp)⟩

end Exchange
