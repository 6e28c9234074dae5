import Mathlib.Data.List.Basic

/-!
# Records that say where they end

* `Starts` — a buffer starts with a whole record.
* `exists_split` — every buffer is records one behind the other, and a rest that starts with none.
* `SelfDelimiting` — a record is known from what a buffer starts with; `SelfDelimiting.unique` — there is one way to split.
* `WellFormed` — a buffer is records and nothing else; `SelfDelimiting.wellFormed_iff` — its rest is empty.
-/

set_option autoImplicit false

namespace Delimited

variable {ρ β : Type*} {bytes : ρ → List β}

def Starts (bytes : ρ → List β) (buf : List β) : Prop := ∃ r rest, buf = bytes r ++ rest

def WellFormed (bytes : ρ → List β) (buf : List β) : Prop := ∃ rs : List ρ, buf = rs.flatMap bytes

/-- **Every buffer is records, and a rest that starts with none.** -/
theorem exists_split (hpos : ∀ r, 0 < (bytes r).length) (buf : List β) :
    ∃ (rs : List ρ) (rest : List β), buf = rs.flatMap bytes ++ rest ∧ ¬ Starts bytes rest := by
  generalize hn : buf.length = n
  induction n using Nat.strongRecOn generalizing buf with
  | _ n ih =>
    by_cases hs : Starts bytes buf
    · obtain ⟨r, rest, rfl⟩ := hs
      rw [List.length_append] at hn
      have hlt := hpos r
      obtain ⟨rs, rest', rfl, hrest⟩ := ih rest.length (by omega) rest rfl
      refine ⟨r :: rs, rest', ?_, hrest⟩
      rw [List.flatMap_cons, List.append_assoc]
    · exact ⟨[], buf, rfl, hs⟩

/-- A record is not empty, and is known from what a buffer starts with. -/
structure SelfDelimiting (bytes : ρ → List β) : Prop where
  length_pos : ∀ r, 0 < (bytes r).length
  inj : ∀ r r' x y, bytes r ++ x = bytes r' ++ y → r = r' ∧ x = y

theorem SelfDelimiting.not_starts_nil (h : SelfDelimiting bytes) : ¬ Starts bytes [] := by
  rintro ⟨r, rest, hr⟩
  have hlen := congrArg List.length hr
  rw [List.length_nil, List.length_append] at hlen
  have := h.length_pos r
  omega

/-- **There is one way to split a buffer.** -/
theorem SelfDelimiting.unique (h : SelfDelimiting bytes) {rest rest' : List β} (hrest : ¬ Starts bytes rest)
    (hrest' : ¬ Starts bytes rest') (rs : List ρ) : ∀ rs' : List ρ, rs.flatMap bytes ++ rest = rs'.flatMap bytes ++ rest' →
      rs = rs' ∧ rest = rest' := by
  induction rs with
  | nil =>
    intro rs' heq
    cases rs' with
    | nil => exact ⟨rfl, heq⟩
    | cons r' rs' =>
      rw [List.flatMap_nil, List.nil_append, List.flatMap_cons, List.append_assoc] at heq
      exact absurd ⟨r', _, heq⟩ hrest
  | cons r rs ih =>
    intro rs' heq
    rw [List.flatMap_cons, List.append_assoc] at heq
    cases rs' with
    | nil => exact absurd ⟨r, _, heq.symm⟩ hrest'
    | cons r' rs' =>
      rw [List.flatMap_cons, List.append_assoc] at heq
      obtain ⟨rfl, htail⟩ := h.inj r r' _ _ heq
      obtain ⟨rfl, hsame⟩ := ih rs' htail
      exact ⟨rfl, hsame⟩

theorem SelfDelimiting.eq_of_wellFormed (h : SelfDelimiting bytes) {rs rs' : List ρ} {rest : List β} (hrest : ¬ Starts bytes rest)
    (heq : rs.flatMap bytes ++ rest = rs'.flatMap bytes) : rs = rs' ∧ rest = [] :=
  h.unique hrest h.not_starts_nil rs rs' (heq.trans (List.append_nil _).symm)

theorem SelfDelimiting.wellFormed_iff (h : SelfDelimiting bytes) {rs : List ρ} {rest : List β} (hrest : ¬ Starts bytes rest) :
    WellFormed bytes (rs.flatMap bytes ++ rest) ↔ rest = [] := by
  constructor
  · rintro ⟨rs', heq⟩
    exact (h.eq_of_wellFormed hrest heq).2
  · rintro rfl
    exact ⟨rs, List.append_nil _⟩

end Delimited
