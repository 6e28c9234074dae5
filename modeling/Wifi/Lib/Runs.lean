import Mathlib.Data.List.Basic
import Mathlib.Logic.Basic

/-!
# Runs of a labelled step relation

A system is given by its initial states and a step relation labelled by the operation that
takes the step.  `Reachable` collects the states at the end of some finite run.

* `Reachable.invariant` — what holds initially and is preserved by every step holds of every
  reachable state.
* `exec_observe` — what can be computed after a list of operations holds of a reachable state.
* `Guarded` — the steps whose operation meets a condition in the state it is applied to;
  `Reachable.of_guarded` forgets the condition.
-/

set_option autoImplicit false

namespace Runs

variable {σ ι : Type*}

inductive Reachable (init : σ → Prop) (step : σ → ι → σ → Prop) : σ → Prop where
  | start {s : σ} : init s → Reachable init step s
  | next {s s' : σ} {i : ι} : Reachable init step s → step s i s' → Reachable init step s'

variable {init : σ → Prop} {step step' : σ → ι → σ → Prop}

/-- **Invariant rule.** -/
theorem Reachable.invariant {Inv : σ → Prop} {s : σ} (hr : Reachable init step s)
    (h0 : ∀ s, init s → Inv s) (hstep : ∀ s i s', Inv s → step s i s' → Inv s') : Inv s := by
  induction hr with
  | start hi => exact h0 _ hi
  | next _ hs ih => exact hstep _ _ _ ih hs

theorem Reachable.mono (hle : ∀ s i s', step s i s' → step' s i s') {s : σ}
    (hr : Reachable init step s) : Reachable init step' s := by
  induction hr with
  | start hi => exact .start hi
  | next _ hs ih => exact .next ih (hle _ _ _ hs)

/-- The steps whose operation meets `ok` in the state it is applied to. -/
def Guarded (ok : σ → ι → Prop) (step : σ → ι → σ → Prop) (s : σ) (i : ι) (s' : σ) : Prop :=
  ok s i ∧ step s i s'

theorem Reachable.of_guarded {ok : σ → ι → Prop} {s : σ}
    (hr : Reachable init (Guarded ok step) s) : Reachable init step s :=
  hr.mono fun _ _ _ h => h.2

def exec (next : σ → ι → Option σ) : List ι → σ → Option σ
  | [], s => some s
  | i :: is, s =>
    match next s i with
    | none => none
    | some s' => exec next is s'

theorem exec_reachable {next : σ → ι → Option σ} : ∀ (is : List ι) {s s' : σ},
    (∀ i ∈ is, ∀ s s', next s i = some s' → step s i s') → Reachable init step s →
    exec next is s = some s' → Reachable init step s'
  | [], s, s', _, hr, h => by
    simp only [exec, Option.some.injEq] at h
    exact h ▸ hr
  | i :: is, s, s', hn, hr, h => by
    unfold exec at h
    cases ha : next s i with
    | none => rw [ha] at h; cases h
    | some t =>
      rw [ha] at h
      exact exec_reachable is (fun j hj => hn j (List.mem_cons_of_mem _ hj))
        (.next hr (hn i List.mem_cons_self s t ha)) h

theorem exec_observe {β : Type*} {next : σ → ι → Option σ} {s : σ} (hs : init s) (is : List ι)
    (hn : ∀ i ∈ is, ∀ s s', next s i = some s' → step s i s') (f : σ → β) {x : β}
    (h : (exec next is s).map f = some x) : ∃ s', Reachable init step s' ∧ f s' = x := by
  cases hrun : exec next is s with
  | none => rw [hrun] at h; cases h
  | some s' =>
    rw [hrun] at h
    exact ⟨s', exec_reachable is hn (.start hs) hrun, Option.some.inj h⟩

end Runs

/-!
## Sweeps

A sweep takes a state through a list of visits, one after the other (`List.foldl`).

* `keeps` — what every visit preserves.
* `covers` — what one of the visits establishes and every other one preserves.
* `covers_first` — what the first of the visits that concern something establishes.
-/

namespace Sweep

variable {σ ν : Type*} {f : σ → ν → σ} {P Q : σ → Prop}

theorem keeps {l : List ν} (hf : ∀ s, ∀ v ∈ l, P s → P (f s v)) {s : σ} (hs : P s) : P (l.foldl f s) := by
  induction l generalizing s with
  | nil => exact hs
  | cons v l ih =>
    rw [List.foldl_cons]
    exact ih (fun s w hw => hf s w (List.mem_cons_of_mem _ hw)) (hf s v List.mem_cons_self hs)

theorem covers {v : ν} (hP : ∀ s w, P s → P (f s w)) (hQ : ∀ s w, Q s → Q (f s w))
    (hv : ∀ s, P s → Q (f s v)) {l : List ν} (hmem : v ∈ l) {s : σ} (hs : P s) : Q (l.foldl f s) := by
  induction l generalizing s with
  | nil => exact absurd hmem List.not_mem_nil
  | cons w l ih =>
    rw [List.foldl_cons]
    rcases List.mem_cons.1 hmem with rfl | hmem
    · exact keeps (fun s w _ => hQ s w) (hv s hs)
    · exact ih hmem (hP s w hs)

/-- The visits before the first one that concerns it leave `P`. -/
theorem covers_first {c : ν → Bool} {v : ν} (hP : ∀ s w, c w = false → P s → P (f s w))
    (hQ : ∀ s w, Q s → Q (f s w)) (hv : ∀ s, P s → Q (f s v)) {l : List ν} (hfind : l.find? c = some v)
    {s : σ} (hs : P s) : Q (l.foldl f s) := by
  induction l generalizing s with
  | nil => cases hfind
  | cons w l ih =>
    rw [List.foldl_cons]
    cases hc : c w with
    | true =>
      rw [List.find?_cons_of_pos hc] at hfind
      cases hfind
      exact keeps (fun s w _ => hQ s w) (hv s hs)
    | false =>
      rw [List.find?_cons_of_neg (by rw [hc]; decide)] at hfind
      exact ih hfind (hP s w hc hs)

end Sweep

/-!
## Logs of transitions

A log is a list of pairs of an old and a new state, in the order in which they were made.

* `last` — the state after a log.
* `IsPath` — each entry starts where the one before ended, and is a step of a relation.
* `last_concat`, `isPath_concat` — one more entry.
-/

namespace PathLog

variable {α : Type*} {R : α → α → Prop}

def last (a : α) : List (α × α) → α
  | [] => a
  | p :: l => last p.2 l

/-- The log is a path from `a`. -/
def IsPath (R : α → α → Prop) (a : α) : List (α × α) → Prop
  | [] => True
  | p :: l => p.1 = a ∧ R p.1 p.2 ∧ IsPath R p.2 l

@[simp]
theorem last_concat (p : α × α) : ∀ (a : α) (l : List (α × α)), last a (l ++ [p]) = p.2
  | _, [] => rfl
  | _, q :: l => last_concat p q.2 l

/-- **One more entry.** -/
theorem isPath_concat (p : α × α) : ∀ (a : α) (l : List (α × α)),
    IsPath R a (l ++ [p]) ↔ IsPath R a l ∧ p.1 = last a l ∧ R p.1 p.2
  | a, [] => by simp [IsPath, last]
  | a, q :: l => by
    simp only [List.cons_append, IsPath, last, isPath_concat p q.2 l, and_assoc]

end PathLog
