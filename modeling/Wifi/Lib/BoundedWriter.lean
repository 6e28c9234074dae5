import Mathlib.Tactic.Common

/-!
# Writing to a buffer of bounded size

A writer appends to what is in the buffer and fails when the buffer is full; a writer that fails
leaves what it has written so far.

* `put` — append, or fail.
* `Writes` — what a writer appends, when there is room for it.
* `Fits` — a writer stays in the buffer.
* `Writes.bind`, `Fits.bind` — writers one after the other.
-/

set_option autoImplicit false

namespace BoundedWriter

variable {β : Type*}

/-- A writer that starts with `out` in the buffer of size `n` appends `w`, or runs out of room
    without passing the end of the buffer. -/
def Writes (n : Nat) (out : List β) (r : Except (List β) (List β)) (w : List β) : Prop :=
  (out.length + w.length ≤ n → r = .ok (out ++ w)) ∧
    (n < out.length + w.length → ∃ o, r = .error o ∧ o.length ≤ n)

def put (n : Nat) (out w : List β) : Except (List β) (List β) :=
  if n < out.length + w.length then .error out else .ok (out ++ w)

theorem put_writes {n : Nat} {out : List β} (h : out.length ≤ n) (w : List β) :
    Writes n out (put n out w) w := by
  unfold put
  refine ⟨fun hfit => if_neg (Nat.not_lt.2 hfit), fun hover => ⟨out, if_pos hover, h⟩⟩

theorem Writes.nil {n : Nat} {out : List β} (h : out.length ≤ n) : Writes n out (.ok out) [] := by
  refine ⟨fun _ => by rw [List.append_nil], fun hover => ?_⟩
  exact absurd hover (by rw [List.length_nil]; omega)

theorem Writes.bind {n : Nat} {out w w' : List β} {r : Except (List β) (List β)}
    {f : List β → Except (List β) (List β)} (h : Writes n out r w)
    (hf : (out ++ w).length ≤ n → Writes n (out ++ w) (f (out ++ w)) w') :
    Writes n out (r >>= f) (w ++ w') := by
  rw [List.length_append] at hf
  by_cases hw : out.length + w.length ≤ n
  · obtain ⟨hfit, hover⟩ := hf hw
    rw [List.length_append] at hfit hover
    rw [h.1 hw]
    refine ⟨fun hle => ?_, fun hlt => ?_⟩
    · rw [List.length_append] at hle
      rw [← List.append_assoc]
      exact hfit (by omega)
    · rw [List.length_append] at hlt
      exact hover (by omega)
  · obtain ⟨o, hr, ho⟩ := h.2 (by omega)
    rw [hr]
    refine ⟨fun hle => ?_, fun _ => ⟨o, rfl, ho⟩⟩
    rw [List.length_append] at hle
    omega

theorem Writes.bind_ok {n : Nat} {out w : List β} {r : Except (List β) (List β)}
    (h : Writes n out r w) : Writes n out (r >>= .ok) w := by
  have hb := h.bind (f := .ok) fun h' => Writes.nil h'
  rwa [List.append_nil] at hb

/-- A writer leaves no more than the buffer of size `n` holds. -/
def Fits (n : Nat) (r : Except (List β) (List β)) : Prop := ∀ o, r = .ok o ∨ r = .error o → o.length ≤ n

theorem Fits.ok {n : Nat} {out : List β} (h : out.length ≤ n) : Fits n (.ok out) := by
  rintro o (ho | ho) <;> cases ho
  exact h

theorem Fits.error {n : Nat} {out : List β} (h : out.length ≤ n) : Fits n (.error out) := by
  rintro o (ho | ho) <;> cases ho
  exact h

theorem put_fits {n : Nat} {out : List β} (h : out.length ≤ n) (w : List β) : Fits n (put n out w) := by
  unfold put
  by_cases hover : n < out.length + w.length
  · rw [if_pos hover]
    exact .error h
  · rw [if_neg hover]
    refine .ok ?_
    rw [List.length_append]
    exact Nat.not_lt.mp hover

theorem Fits.bind {n : Nat} {r : Except (List β) (List β)} {f : List β → Except (List β) (List β)} (h : Fits n r)
    (hf : ∀ o, o.length ≤ n → Fits n (f o)) : Fits n (r >>= f) := by
  cases r with
  | error o => exact .error (h o (.inr rfl))
  | ok o => exact hf o (h o (.inl rfl))

end BoundedWriter
