import Mathlib.Data.List.Basic

/-!
# Reads of a memory, logged

A `ReadLog` computation gives its value and the addresses it read on the way, in the order of
the reads.

* `Within size x` — every address `x` read lies below `size`; `within_bind` takes it through a
  sequence of computations.
* `Only p x` — the same with a property of addresses.
* `byte`, `be16`, `be32` — one byte, and numbers with their most significant byte first.
* `allFrom`, `firstFrom`, `collectFrom` — the loops over an index, with the computations that
  stop early.
-/

set_option autoImplicit false

/-- A value, and the addresses that were read for it. -/
structure ReadLog (α : Type) where
  value : α
  touched : List Nat

namespace ReadLog

variable {α β : Type}

instance : Monad ReadLog where
  pure a := ⟨a, []⟩
  bind x f := ⟨(f x.value).value, x.touched ++ (f x.value).touched⟩

@[simp] theorem value_pure (a : α) : (pure a : ReadLog α).value = a := rfl

@[simp] theorem value_bind (x : ReadLog α) (f : α → ReadLog β) :
    (x >>= f).value = (f x.value).value := rfl

theorem mk_bind (a : α) (t : List Nat) (f : α → ReadLog β) :
    ((⟨a, t⟩ : ReadLog α) >>= f) = ⟨(f a).value, t ++ (f a).touched⟩ := rfl

theorem bind_bind {γ : Type} (x : ReadLog α) (f : α → ReadLog β) (g : β → ReadLog γ) :
    (x >>= f) >>= g = x >>= fun a => f a >>= g := by
  show ReadLog.mk _ _ = ReadLog.mk _ _
  congr 1
  exact List.append_assoc ..

theorem bind_congr_value (x : ReadLog α) {f g : α → ReadLog β} (h : f x.value = g x.value) : x >>= f = x >>= g := by
  show ReadLog.mk _ _ = ReadLog.mk _ _
  rw [h]

theorem mk_pure (a : α) : (pure a : ReadLog α) = ⟨a, []⟩ := rfl

theorem ite_mk {p : Prop} [Decidable p] (a b : α) (t : List Nat) :
    (if p then (⟨a, t⟩ : ReadLog α) else ⟨b, t⟩) = ⟨if p then a else b, t⟩ := by
  split <;> rfl

/-- Every address that was read lies below `size`. -/
def Within (size : Nat) (x : ReadLog α) : Prop := ∀ a ∈ x.touched, a < size

instance (size : Nat) (x : ReadLog α) : Decidable (Within size x) :=
  inferInstanceAs (Decidable (∀ a ∈ x.touched, a < size))

@[simp] theorem within_pure {size : Nat} (a : α) : Within size (pure a : ReadLog α) := by
  intro _ ha
  cases ha

/-- **Sequence rule.** -/
@[simp] theorem within_bind {size : Nat} {x : ReadLog α} {f : α → ReadLog β} :
    Within size (x >>= f) ↔ Within size x ∧ Within size (f x.value) := by
  constructor
  · intro h
    exact ⟨fun a ha => h a (List.mem_append_left _ ha), fun a ha => h a (List.mem_append_right _ ha)⟩
  · rintro ⟨hx, hf⟩ a ha
    cases List.mem_append.mp ha with
    | inl h => exact hx a h
    | inr h => exact hf a h

theorem within_ite {size : Nat} {p : Prop} [Decidable p] {x y : ReadLog α} :
    Within size (if p then x else y) ↔ (p → Within size x) ∧ (¬ p → Within size y) := by
  by_cases hp : p
  · rw [if_pos hp]
    exact ⟨fun h => ⟨fun _ => h, fun hn => absurd hp hn⟩, fun h => h.1 hp⟩
  · rw [if_neg hp]
    exact ⟨fun h => ⟨fun hn => absurd hn hp, fun _ => h⟩, fun h => h.2 hp⟩

/-- Every address that was read has the property. -/
def Only (p : Nat → Prop) (x : ReadLog α) : Prop := ∀ a ∈ x.touched, p a

@[simp] theorem only_pure {p : Nat → Prop} (a : α) : Only p (pure a : ReadLog α) := by
  intro _ ha
  cases ha

/-- **Sequence rule.** -/
@[simp] theorem only_bind {p : Nat → Prop} {x : ReadLog α} {f : α → ReadLog β} :
    Only p (x >>= f) ↔ Only p x ∧ Only p (f x.value) := by
  constructor
  · intro h
    exact ⟨fun a ha => h a (List.mem_append_left _ ha), fun a ha => h a (List.mem_append_right _ ha)⟩
  · rintro ⟨hx, hf⟩ a ha
    cases List.mem_append.mp ha with
    | inl h => exact hx a h
    | inr h => exact hf a h

theorem only_ite {p : Nat → Prop} {c : Prop} [Decidable c] {x y : ReadLog α} :
    Only p (if c then x else y) ↔ (c → Only p x) ∧ (¬ c → Only p y) := by
  by_cases hc : c
  · simp [hc]
  · simp [hc]

theorem Only.mono {p q : Nat → Prop} {x : ReadLog α} (h : Only p x) (hpq : ∀ a, p a → q a) : Only q x :=
  fun a ha => hpq a (h a ha)

/-! ## Cells and numbers -/

section Cells

variable {m : Nat → BitVec 8} {size a : Nat}

def byte (m : Nat → BitVec 8) (a : Nat) : ReadLog (BitVec 8) := ⟨m a, [a]⟩

/-- `be16_to_cpu` of the two bytes at an address. -/
def be16 (m : Nat → BitVec 8) (a : Nat) : ReadLog Nat := do
  let hi ← byte m a
  let lo ← byte m (a + 1)
  pure (hi.toNat * 256 + lo.toNat)

/-- `be32_to_cpu` of the four bytes at an address. -/
def be32 (m : Nat → BitVec 8) (a : Nat) : ReadLog Nat := do
  let hi ← be16 m a
  let lo ← be16 m (a + 2)
  pure (hi * 65536 + lo)

@[simp] theorem value_byte : (byte m a).value = m a := rfl

@[simp] theorem within_byte : Within size (byte m a) ↔ a < size := by
  simp only [Within, byte, List.mem_singleton, forall_eq]

@[simp] theorem only_byte {p : Nat → Prop} : Only p (byte m a) ↔ p a := by
  simp only [Only, byte, List.mem_singleton, forall_eq]

theorem value_byte_bind (f : BitVec 8 → ReadLog α) : (byte m a >>= f).value = (f (m a)).value := rfl

@[simp] theorem within_be16 : Within size (be16 m a) ↔ a + 2 ≤ size := by
  simp only [be16, within_bind, within_byte, within_pure, and_true]
  omega

@[simp] theorem within_be32 : Within size (be32 m a) ↔ a + 4 ≤ size := by
  simp only [be32, within_bind, within_be16, within_pure, and_true]
  omega

end Cells

/-! ## Loops over an index -/

/-- The loop over `i, …, i + n - 1` that gives up at the first `false`. -/
def allFrom (f : Nat → ReadLog Bool) (i : Nat) : Nat → ReadLog Bool
  | 0 => pure true
  | n + 1 => do
    if ← f i then allFrom f (i + 1) n else pure false

/-- The loop over `i, …, i + n - 1` that stops at the first result. -/
def firstFrom (f : Nat → ReadLog (Option α)) (i : Nat) : Nat → ReadLog (Option α)
  | 0 => pure none
  | n + 1 => do
    match ← f i with
    | some a => pure (some a)
    | none => firstFrom f (i + 1) n

/-- The loop over `i, …, i + n - 1` that keeps every result. -/
def collectFrom (f : Nat → ReadLog α) (i : Nat) : Nat → ReadLog (List α)
  | 0 => pure []
  | n + 1 => do
    let a ← f i
    let as ← collectFrom f (i + 1) n
    pure (a :: as)

theorem value_allFrom (f : Nat → ReadLog Bool) : ∀ (n i : Nat),
    (allFrom f i n).value = true ↔ ∀ j, i ≤ j → j < i + n → (f j).value = true
  | 0, i => by
    simp only [allFrom, value_pure, true_iff]
    intro j _ _
    omega
  | n + 1, i => by
    have ih := value_allFrom f n (i + 1)
    simp only [allFrom, value_bind]
    cases hf : (f i).value with
    | false =>
      simp only [Bool.false_eq_true, if_false, value_pure, false_iff, not_forall]
      exact ⟨i, Nat.le_refl _, by omega, by simp [hf]⟩
    | true =>
      rw [if_pos rfl, ih]
      constructor
      · intro h j hj hj'
        by_cases hji : j = i
        · rw [hji, hf]
        · exact h j (by omega) (by omega)
      · intro h j hj hj'
        exact h j (by omega) (by omega)

theorem within_allFrom {size : Nat} {f : Nat → ReadLog Bool} : ∀ (n i : Nat),
    (∀ j, i ≤ j → j < i + n → Within size (f j)) → Within size (allFrom f i n)
  | 0, _, _ => within_pure _
  | n + 1, i, h => by
    have ih := within_allFrom n (i + 1) fun j hj hj' => h j (by omega) (by omega)
    refine within_bind.mpr ⟨h i (Nat.le_refl _) (by omega), ?_⟩
    exact within_ite.mpr ⟨fun _ => ih, fun _ => within_pure _⟩

theorem within_firstFrom {size : Nat} {f : Nat → ReadLog (Option α)} : ∀ (n i : Nat),
    (∀ j, i ≤ j → j < i + n → Within size (f j)) → Within size (firstFrom f i n)
  | 0, _, _ => within_pure _
  | n + 1, i, h => by
    have ih := within_firstFrom n (i + 1) fun j hj hj' => h j (by omega) (by omega)
    refine within_bind.mpr ⟨h i (Nat.le_refl _) (by omega), ?_⟩
    cases (f i).value with
    | none => exact ih
    | some a => exact within_pure _

/-- The loop that keeps every result reads what its rounds read. -/
theorem within_collectFrom {size : Nat} {f : Nat → ReadLog α} : ∀ (n i : Nat),
    Within size (collectFrom f i n) ↔ ∀ j, i ≤ j → j < i + n → Within size (f j)
  | 0, i => by
    simp only [collectFrom, within_pure, true_iff]
    intro j _ _
    omega
  | n + 1, i => by
    have ih : Within size (collectFrom f (i + 1) n) ↔ ∀ j, i + 1 ≤ j → j < i + 1 + n → Within size (f j) :=
      within_collectFrom n (i + 1)
    simp only [collectFrom, within_bind, within_pure, and_true, ih]
    constructor
    · rintro ⟨hi, h⟩ j hj hj'
      by_cases hji : j = i
      · rw [hji]
        exact hi
      · exact h j (by omega) (by omega)
    · intro h
      exact ⟨h i (Nat.le_refl _) (by omega), fun j hj hj' => h j (by omega) (by omega)⟩

end ReadLog

/-!
## Reading through a pointer

A `Cursor` computation reads a memory from a position on and gives a value and the position it
stops at, as a parser does that steps through its input with `*p++`.

* `next8`, `nextLe16`, `nextLe32`, `next48` — numbers of fixed size.
* `times` — one reader, a number of times.
* `Forward x` — `x` stops at or behind the position it starts from, and reads only what lies
  before the position it stops at.
* `Stored m t bytes` — the bytes lie in the memory from a position on; with the lemmas that read
  them back.
-/

/-- A reader: from a position, a value and the next position, with the reads logged. -/
def Cursor (α : Type) : Type := Nat → ReadLog (α × Nat)

namespace Cursor

open ReadLog

variable {α β : Type} {m : Nat → BitVec 8} {t size : Nat}

instance : Monad Cursor where
  pure a := fun t => pure (a, t)
  bind x f := fun t => do
    let r ← x t
    f r.1 r.2

def result (x : Cursor α) (t : Nat) : α := (x t).value.1

def endsAt (x : Cursor α) (t : Nat) : Nat := (x t).value.2

@[simp] theorem result_pure (a : α) : result (pure a) t = a := rfl

@[simp] theorem endsAt_pure (a : α) : endsAt (pure a) t = t := rfl

-- Not by `rfl` alone: a long reader is rewritten step by step, and the kernel does not unfold it.
@[simp] theorem result_bind (x : Cursor α) (f : α → Cursor β) :
    result (x >>= f) t = result (f (result x t)) (endsAt x t) := (rfl)

@[simp] theorem endsAt_bind (x : Cursor α) (f : α → Cursor β) :
    endsAt (x >>= f) t = endsAt (f (result x t)) (endsAt x t) := (rfl)

theorem within_run_bind {x : Cursor α} {f : α → Cursor β} :
    Within size ((x >>= f) t) ↔ Within size (x t) ∧ Within size (f (result x t) (endsAt x t)) :=
  within_bind (f := fun r : α × Nat => f r.1 r.2)

/-! ## Numbers -/

/-- `*p++` -/
def next8 (m : Nat → BitVec 8) : Cursor (BitVec 8) := fun t => do
  let b ← byte m t
  pure (b, t + 1)

/-- Two bytes, the least significant one first. -/
def nextLe16 (m : Nat → BitVec 8) : Cursor (BitVec 16) := do
  let b0 ← next8 m
  let b1 ← next8 m
  pure (b1 ++ b0)

/-- Four bytes, the least significant one first. -/
def nextLe32 (m : Nat → BitVec 8) : Cursor (BitVec 32) := do
  let lo ← nextLe16 m
  let hi ← nextLe16 m
  pure (hi ++ lo)

/-- Six bytes, the most significant one first. -/
def next48 (m : Nat → BitVec 8) : Cursor (BitVec 48) := do
  let b0 ← next8 m
  let b1 ← next8 m
  let b2 ← next8 m
  let b3 ← next8 m
  let b4 ← next8 m
  let b5 ← next8 m
  pure (b0 ++ b1 ++ b2 ++ b3 ++ b4 ++ b5)

@[simp] theorem result_next8 : result (next8 m) t = m t := rfl

@[simp] theorem endsAt_next8 : endsAt (next8 m) t = t + 1 := rfl

@[simp] theorem endsAt_nextLe16 : endsAt (nextLe16 m) t = t + 2 := rfl

@[simp] theorem endsAt_nextLe32 : endsAt (nextLe32 m) t = t + 4 := rfl

@[simp] theorem endsAt_next48 : endsAt (next48 m) t = t + 6 := rfl

/-! ## Repetition -/

/-- The reader `n` times. -/
def times (x : Cursor α) : Nat → Cursor (List α)
  | 0 => pure []
  | n + 1 => do
    let a ← x
    let as ← times x n
    pure (a :: as)

theorem endsAt_times {x : Cursor α} {k : Nat} (hx : ∀ t, endsAt x t = t + k) :
    ∀ n t, endsAt (times x n) t = t + k * n := by
  intro n
  induction n with
  | zero =>
    intro t
    simp [times]
  | succ n ih =>
    intro t
    simp only [times, endsAt_bind, endsAt_pure, hx, ih, Nat.mul_succ]
    omega

/-! ## Readers that stay in front of their end -/

/-- The reader reads nothing at or behind the position where it stops. -/
def Forward (x : Cursor α) : Prop :=
  ∀ t, t ≤ endsAt x t ∧ ∀ size, endsAt x t ≤ size → Within size (x t)

theorem Forward.within {x : Cursor α} (hx : Forward x) (h : endsAt x t ≤ size) : Within size (x t) :=
  (hx t).2 size h

theorem Forward.pure (a : α) : Forward (Pure.pure a : Cursor α) := by
  intro t
  refine ⟨Nat.le_refl t, ?_⟩
  intro size _
  exact within_pure _

/-- **Sequence rule.** -/
theorem Forward.bind {x : Cursor α} {f : α → Cursor β} (hx : Forward x) (hf : ∀ a, Forward (f a)) :
    Forward (x >>= f) := by
  intro t
  have hfirst := hx t
  have hsecond := hf (result x t) (endsAt x t)
  refine ⟨Nat.le_trans hfirst.1 hsecond.1, ?_⟩
  intro size hend
  have hread : Within size (x t) := hfirst.2 size (Nat.le_trans hsecond.1 hend)
  exact within_run_bind.mpr ⟨hread, hsecond.2 size hend⟩

theorem Forward.ite {p : Prop} [Decidable p] {x y : Cursor α} (hx : Forward x) (hy : Forward y) :
    Forward (if p then x else y) := by
  split
  · exact hx
  · exact hy

theorem forward_next8 : Forward (next8 m) := by
  intro t
  refine ⟨Nat.le_succ t, ?_⟩
  intro size h
  refine within_bind.mpr ⟨within_byte.mpr h, within_pure _⟩

theorem forward_nextLe16 : Forward (nextLe16 m) :=
  forward_next8.bind fun _ => forward_next8.bind fun _ => .pure _

theorem forward_nextLe32 : Forward (nextLe32 m) :=
  forward_nextLe16.bind fun _ => forward_nextLe16.bind fun _ => .pure _

theorem forward_next48 : Forward (next48 m) :=
  forward_next8.bind fun _ => forward_next8.bind fun _ => forward_next8.bind fun _ =>
    forward_next8.bind fun _ => forward_next8.bind fun _ => forward_next8.bind fun _ => .pure _

theorem Forward.times {x : Cursor α} (hx : Forward x) : ∀ n, Forward (Cursor.times x n) := by
  intro n
  induction n with
  | zero => exact .pure _
  | succ n ih => exact hx.bind fun _ => ih.bind fun _ => .pure _

/-! ## Bytes in the memory -/

/-- The memory holds the bytes from the position on. -/
def Stored (m : Nat → BitVec 8) (t : Nat) : List (BitVec 8) → Prop
  | [] => True
  | b :: bytes => m t = b ∧ Stored m (t + 1) bytes

@[simp] theorem stored_nil : Stored m t [] := trivial

@[simp] theorem stored_cons {b : BitVec 8} {bytes : List (BitVec 8)} :
    Stored m t (b :: bytes) ↔ m t = b ∧ Stored m (t + 1) bytes := Iff.rfl

@[simp] theorem stored_append {xs ys : List (BitVec 8)} :
    Stored m t (xs ++ ys) ↔ Stored m t xs ∧ Stored m (t + xs.length) ys := by
  induction xs generalizing t with
  | nil => simp
  | cons x xs ih =>
    simp only [List.cons_append, stored_cons, ih, List.length_cons, and_assoc]
    rw [Nat.add_assoc, Nat.add_comm 1]

theorem stored_getD {bytes : List (BitVec 8)} : Stored (fun i => bytes.getD i 0) 0 bytes := by
  have hshift : ∀ (xs ys : List (BitVec 8)), Stored (fun i => (xs ++ ys).getD i 0) xs.length ys := by
    intro xs ys
    induction ys generalizing xs with
    | nil => trivial
    | cons y ys ih =>
      have hnext := ih (xs ++ [y])
      simp only [List.append_assoc, List.singleton_append, List.length_append, List.length_singleton] at hnext
      refine ⟨?_, hnext⟩
      simp [List.getD]
  exact hshift [] bytes

/-- A number of 16 bits, the least significant byte first. -/
def le16 (w : BitVec 16) : List (BitVec 8) := [w.setWidth 8, (w >>> 8).setWidth 8]

/-- A number of 32 bits, the least significant byte first. -/
def le32 (w : BitVec 32) : List (BitVec 8) := le16 (w.setWidth 16) ++ le16 ((w >>> 16).setWidth 16)

/-- A number of 48 bits, the most significant byte first. -/
def be48 (w : BitVec 48) : List (BitVec 8) :=
  [(w >>> 40).setWidth 8, (w >>> 32).setWidth 8, (w >>> 24).setWidth 8, (w >>> 16).setWidth 8,
    (w >>> 8).setWidth 8, w.setWidth 8]

@[simp] theorem length_le16 (w : BitVec 16) : (le16 w).length = 2 := rfl

@[simp] theorem length_le32 (w : BitVec 32) : (le32 w).length = 4 := rfl

@[simp] theorem length_be48 (w : BitVec 48) : (be48 w).length = 6 := rfl

theorem result_nextLe16 {w : BitVec 16} (h : Stored m t (le16 w)) : result (nextLe16 m) t = w := by
  obtain ⟨h0, h1, -⟩ := h
  simp only [nextLe16, result_bind, result_next8, endsAt_next8, result_pure, h0, h1]
  ext i hi
  simp
  grind

theorem result_nextLe32 {w : BitVec 32} (h : Stored m t (le32 w)) : result (nextLe32 m) t = w := by
  obtain ⟨hlo, hhi⟩ := stored_append.mp h
  rw [length_le16] at hhi
  simp only [nextLe32, result_bind, result_pure, endsAt_nextLe16, result_nextLe16 hlo, result_nextLe16 hhi]
  ext i hi
  simp
  grind

theorem result_next48 {w : BitVec 48} (h : Stored m t (be48 w)) : result (next48 m) t = w := by
  obtain ⟨h0, h1, h2, h3, h4, h5, -⟩ := h
  simp only [next48, result_bind, result_next8, endsAt_next8, result_pure, h0, h1, h2, h3, h4, h5]
  ext i hi
  simp
  grind

/-- **Repetition reads a list back** when the reader reads one entry back. -/
theorem result_times {x : Cursor β} {enc : α → List (BitVec 8)} {back : α → β}
    (hx : ∀ a t, Stored m t (enc a) → result x t = back a ∧ endsAt x t = t + (enc a).length) :
    ∀ (as : List α) (t : Nat), Stored m t (as.flatMap enc) →
      result (times x as.length) t = as.map back ∧ endsAt (times x as.length) t = t + (as.flatMap enc).length := by
  intro as
  induction as with
  | nil =>
    intro t _
    exact ⟨rfl, rfl⟩
  | cons a as ih =>
    intro t h
    rw [List.flatMap_cons, stored_append] at h
    obtain ⟨hres, hend⟩ := hx a t h.1
    obtain ⟨hres', hend'⟩ := ih (t + (enc a).length) h.2
    simp only [List.length_cons, times, result_bind, endsAt_bind, result_pure, endsAt_pure, hres, hend,
      hres', hend', List.map_cons, List.flatMap_cons, List.length_append, true_and]
    omega

end Cursor
