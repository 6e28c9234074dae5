import Mathlib.Tactic.Common

/-!
# A cell that remembers one value of a function

A function is computed now and then, and its value is kept in a cell to be used later.

* `Right f init value tried` — the cell holds the value for the last argument, or what was in it before any.
* `Right.use_iff` — a use for an argument finds the value of the function, for a function that is injective, exactly when
  it was computed for this argument last.
* `trace` — the states of a run and what happens there; `trace_congr` takes an equivalence of what is said of one state
  to the run.
-/

set_option autoImplicit false

namespace Memo

variable {τ α σ ε : Type}

/-- The cell holds the value for the last argument, or what was in it before any. -/
def Right (f : τ → α) (init value : α) (tried : Option τ) : Prop := value = tried.elim init f

theorem right_start (f : τ → α) (init : α) : Right f init init none := rfl

theorem right_compute (f : τ → α) (init : α) (t : τ) : Right f init (f t) (some t) := rfl

/-- **A use of the cell.** -/
theorem Right.use_iff {f : τ → α} {init value : α} {tried : Option τ} (h : Right f init value tried)
    (hf : Function.Injective f) (t : τ) : value = f t ↔ tried = some t ∨ tried = none ∧ init = f t := by
  subst h
  cases tried with
  | none => exact ⟨fun h => .inr ⟨rfl, h⟩, fun h => h.elim nofun fun h => h.2⟩
  | some t' =>
    constructor
    · intro h
      exact .inl (congrArg some (hf h))
    · rintro (h | h)
      · exact congrArg f (Option.some.inj h)
      · cases h.1

/-! ## Runs -/

/-- The states of a run, each with the event that comes in it. -/
def trace (step : σ → ε → σ) : σ → List ε → List (σ × ε)
  | _, [] => []
  | s, e :: es => (s, e) :: trace step (step s e) es

theorem mem_trace {step : σ → ε → σ} (before : List ε) (e : ε) (after : List ε) :
    ∀ s, (before.foldl step s, e) ∈ trace step s (before ++ e :: after) := by
  induction before with
  | nil => exact fun s => List.mem_cons_self
  | cons e' before ih => exact fun s => List.mem_cons_of_mem _ (ih (step s e'))

/-- **What is equivalent in every state with an invariant is so along a run.** -/
theorem trace_congr {step : σ → ε → σ} {inv : σ → Prop} {p q : σ → ε → Prop}
    (hstep : ∀ s e, inv s → inv (step s e)) (hpq : ∀ s e, inv s → (p s e ↔ q s e)) (es : List ε) :
    ∀ s, inv s → ((∀ x ∈ trace step s es, p x.1 x.2) ↔ ∀ x ∈ trace step s es, q x.1 x.2) := by
  induction es with
  | nil => exact fun s _ => ⟨fun _ x hx => (nomatch hx), fun _ x hx => (nomatch hx)⟩
  | cons e es ih =>
    intro s hs
    unfold trace
    rw [List.forall_mem_cons, List.forall_mem_cons, hpq s e hs, ih (step s e) (hstep s e hs)]

end Memo
