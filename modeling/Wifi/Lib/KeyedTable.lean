import Mathlib.Data.List.Nodup
import Mathlib.Logic.Function.Basic

/-!
# Objects on a hash table and a list

Objects with a key are at addresses.  Each is on a hash table, where it is found by its key, and on a
list, which is walked.  Addresses of freed objects are not used again.

* `Table`, `lookup`, `add`, `remove`, `modify` — the table and its operations.
* `Table.Valid` — the hash table and the list hold the same objects, with distinct keys.
* `Valid.lookup_eq_some`, `Valid.lookup_eq_none` — what a lookup finds.
* `Valid.add`, `Valid.remove`, `Valid.modify` — what each operation keeps.
-/

set_option autoImplicit false

namespace KeyedTable

variable {α κ : Type*}

structure Table (α : Type*) where
  mem : Nat → Option α
  hash : List Nat
  walk : List Nat
  /-- the address of the next object -/
  next : Nat

namespace Table

def empty : Table α := { mem := fun _ => none, hash := [], walk := [], next := 0 }

def lookup [DecidableEq κ] (key : α → κ) (t : Table α) (k : κ) : Option Nat :=
  t.hash.find? fun a => decide ((t.mem a).map key = some k)

def add (t : Table α) (x : α) : Table α :=
  { mem := Function.update t.mem t.next (some x)
    hash := t.next :: t.hash
    walk := t.next :: t.walk
    next := t.next + 1 }

def remove (t : Table α) (a : Nat) : Table α :=
  { t with
    mem := Function.update t.mem a none
    hash := t.hash.erase a
    walk := t.walk.erase a }

def modify (t : Table α) (a : Nat) (f : α → α) : Table α :=
  { t with mem := Function.update t.mem a ((t.mem a).map f) }

/-- One turn of a walk that frees the objects that meet a condition. -/
def removeStep (p : α → Bool) (t : Table α) (a : Nat) : Table α :=
  match t.mem a with
  | none => t
  | some x => if p x then t.remove a else t

/-- A walk that frees the objects that meet a condition. -/
def removeIf (p : α → Bool) (t : Table α) : Table α := t.walk.foldl (removeStep p) t

variable (t : Table α)

theorem remove_mem (a b : Nat) : (t.remove a).mem b = if b = a then none else t.mem b :=
  Function.update_apply ..

theorem add_mem (x : α) (b : Nat) : (t.add x).mem b = if b = t.next then some x else t.mem b :=
  Function.update_apply ..

theorem modify_mem (a : Nat) (f : α → α) (b : Nat) :
    (t.modify a f).mem b = if b = a then (t.mem a).map f else t.mem b :=
  Function.update_apply ..

theorem modify_self {a : Nat} {f : α → α} {x : α} (h : t.mem a = some x) :
    (t.modify a f).mem a = some (f x) := by
  rw [modify_mem, if_pos rfl, h]
  rfl

theorem modify_other {a b : Nat} (f : α → α) (h : b ≠ a) : (t.modify a f).mem b = t.mem b := by
  rw [modify_mem, if_neg h]

/-- **The hash table and the list hold the same objects, with distinct keys.** -/
structure Valid (key : α → κ) (t : Table α) : Prop where
  live : ∀ {a}, a ∈ t.hash ↔ ∃ x, t.mem a = some x
  same : ∀ {a}, a ∈ t.walk ↔ a ∈ t.hash
  nodup : t.hash.Nodup
  walkNodup : t.walk.Nodup
  distinct : ∀ {a b x y}, t.mem a = some x → t.mem b = some y → key x = key y → a = b
  fresh : ∀ {a}, t.next ≤ a → t.mem a = none

variable {t} {key : α → κ}

theorem Valid.empty : Valid key (Table.empty : Table α) :=
  ⟨⟨nofun, fun ⟨_, h⟩ => (nomatch h)⟩, Iff.rfl, List.nodup_nil, List.nodup_nil, nofun,
    fun _ => rfl⟩

theorem Valid.perm (hv : Valid key t) : t.walk.Perm t.hash :=
  (List.perm_ext_iff_of_nodup hv.walkNodup hv.nodup).2 fun _ => hv.same

theorem Valid.lookup_eq_some [DecidableEq κ] (hv : Valid key t) {k : κ} {a : Nat} :
    t.lookup key k = some a ↔ ∃ x, t.mem a = some x ∧ key x = k := by
  unfold lookup
  constructor
  · intro h
    have hk := List.find?_some h
    simp only [decide_eq_true_eq, Option.map_eq_some_iff] at hk
    exact hk
  · intro ⟨x, hx, hk⟩
    have hmem : a ∈ t.hash := hv.live.2 ⟨x, hx⟩
    cases hf : t.hash.find? fun a => decide ((t.mem a).map key = some k) with
    | none =>
      have hno := List.find?_eq_none.1 hf a hmem
      rw [hx, Option.map_some, hk, decide_eq_true rfl] at hno
      exact absurd rfl hno
    | some b =>
      have hb := List.find?_some hf
      simp only [decide_eq_true_eq, Option.map_eq_some_iff] at hb
      obtain ⟨y, hy, hky⟩ := hb
      rw [hv.distinct hy hx (hky.trans hk.symm)]

theorem Valid.lookup_eq_none [DecidableEq κ] (hv : Valid key t) {k : κ}
    (h : t.lookup key k = none) {a : Nat} {x : α} (hx : t.mem a = some x) : key x ≠ k := by
  intro hk
  rw [hv.lookup_eq_some.2 ⟨x, hx, hk⟩] at h
  cases h

theorem Valid.add [DecidableEq κ] (hv : Valid key t) {x : α} (h : t.lookup key (key x) = none) :
    Valid key (t.add x) := by
  have hnew : t.mem t.next = none := hv.fresh (Nat.le_refl _)
  have hnl : t.next ∉ t.hash := by
    intro hm
    obtain ⟨y, hy⟩ := hv.live.1 hm
    rw [hnew] at hy
    cases hy
  refine ⟨?_, ?_, ?_, ?_, ?_, ?_⟩
  · intro a
    rw [add_mem]
    by_cases ha : a = t.next
    · rw [if_pos ha]
      exact ⟨fun _ => ⟨x, rfl⟩, fun _ => List.mem_cons.2 (.inl ha)⟩
    · rw [if_neg ha, ← hv.live]
      constructor
      · intro hm
        exact (List.mem_cons.1 hm).resolve_left ha
      · intro hm
        exact List.mem_cons_of_mem _ hm
  · intro a
    have hs := hv.same (a := a)
    unfold Table.add
    rw [List.mem_cons, List.mem_cons, hs]
  · exact List.nodup_cons.2 ⟨hnl, hv.nodup⟩
  · exact List.nodup_cons.2 ⟨fun hm => hnl (hv.same.1 hm), hv.walkNodup⟩
  · intro a b y z hy hz hk
    rw [add_mem] at hy hz
    by_cases ha : a = t.next
    · rw [if_pos ha, Option.some.injEq] at hy
      by_cases hb : b = t.next
      · rw [ha, hb]
      · rw [if_neg hb] at hz
        exact absurd (hk.symm.trans (congrArg key hy.symm)) (hv.lookup_eq_none h hz)
    · rw [if_neg ha] at hy
      by_cases hb : b = t.next
      · rw [if_pos hb, Option.some.injEq] at hz
        exact absurd (hk.trans (congrArg key hz.symm)) (hv.lookup_eq_none h hy)
      · rw [if_neg hb] at hz
        exact hv.distinct hy hz hk
  · intro a ha
    have hle : t.next + 1 ≤ a := ha
    rw [add_mem, if_neg (by omega)]
    exact hv.fresh (by omega)

theorem Valid.remove (hv : Valid key t) (a : Nat) : Valid key (t.remove a) := by
  have hmem : ∀ {b x}, (t.remove a).mem b = some x → b ≠ a ∧ t.mem b = some x := by
    intro b x hx
    rw [remove_mem] at hx
    by_cases hb : b = a
    · rw [if_pos hb] at hx
      cases hx
    · rw [if_neg hb] at hx
      exact ⟨hb, hx⟩
  refine ⟨?_, ?_, hv.nodup.erase a, hv.walkNodup.erase a, ?_, ?_⟩
  · intro b
    have hr : b ∈ (t.remove a).hash ↔ b ≠ a ∧ b ∈ t.hash := hv.nodup.mem_erase_iff
    rw [hr, hv.live]
    constructor
    · intro ⟨hb, x, hx⟩
      exact ⟨x, by rw [remove_mem, if_neg hb]; exact hx⟩
    · intro ⟨x, hx⟩
      exact ⟨(hmem hx).1, x, (hmem hx).2⟩
  · intro b
    have hr : b ∈ (t.remove a).hash ↔ b ≠ a ∧ b ∈ t.hash := hv.nodup.mem_erase_iff
    have hw : b ∈ (t.remove a).walk ↔ b ≠ a ∧ b ∈ t.walk := hv.walkNodup.mem_erase_iff
    rw [hr, hw, hv.same]
  · intro b c x y hx hy hk
    exact hv.distinct (hmem hx).2 (hmem hy).2 hk
  · intro b hb
    rw [remove_mem]
    split
    · rfl
    · exact hv.fresh hb

theorem Valid.modify (hv : Valid key t) (a : Nat) {f : α → α} (hf : ∀ x, key (f x) = key x) :
    Valid key (t.modify a f) := by
  have hmem : ∀ {b x}, (t.modify a f).mem b = some x → ∃ y, t.mem b = some y ∧ key y = key x := by
    intro b x hx
    rw [modify_mem] at hx
    by_cases hb : b = a
    · rw [if_pos hb, Option.map_eq_some_iff] at hx
      obtain ⟨y, hy, rfl⟩ := hx
      exact ⟨y, by rw [hb]; exact hy, (hf y).symm⟩
    · rw [if_neg hb] at hx
      exact ⟨x, hx, rfl⟩
  refine ⟨?_, hv.same, hv.nodup, hv.walkNodup, ?_, ?_⟩
  · intro b
    have hl : b ∈ (t.modify a f).hash ↔ b ∈ t.hash := Iff.rfl
    rw [hl, hv.live]
    constructor
    · intro ⟨x, hx⟩
      by_cases hb : b = a
      · exact ⟨f x, by rw [hb]; exact modify_self t (hb ▸ hx)⟩
      · exact ⟨x, by rw [modify_other t f hb]; exact hx⟩
    · intro ⟨x, hx⟩
      obtain ⟨y, hy, _⟩ := hmem hx
      exact ⟨y, hy⟩
  · intro b c x y hx hy hk
    obtain ⟨x', hx', hkx⟩ := hmem hx
    obtain ⟨y', hy', hky⟩ := hmem hy
    exact hv.distinct hx' hy' (hkx.trans (hk.trans hky.symm))
  · intro b hb
    rw [modify_mem]
    have h := hv.fresh hb
    by_cases hba : b = a
    · rw [if_pos hba, ← hba, h]
      rfl
    · rw [if_neg hba]
      exact h

theorem Valid.removeStep (hv : Valid key t) (p : α → Bool) (a : Nat) :
    Valid key (removeStep p t a) := by
  unfold Table.removeStep
  split
  · exact hv
  · split
    · exact hv.remove a
    · exact hv

theorem Valid.removeIf (hv : Valid key t) (p : α → Bool) : Valid key (removeIf p t) :=
  List.foldlRecOn t.walk (Table.removeStep p) hv fun _ ht a _ => ht.removeStep p a

theorem removeStep_mem (p : α → Bool) (t : Table α) (a b : Nat) :
    (removeStep p t a).mem b = if b = a then (t.mem a).filter fun x => !p x else t.mem b := by
  unfold Table.removeStep
  cases h : t.mem a with
  | none =>
    by_cases hb : b = a
    · rw [if_pos hb, hb]
      exact h
    · rw [if_neg hb]
  | some x =>
    dsimp only
    cases hp : p x with
    | false =>
      rw [if_neg Bool.false_ne_true]
      by_cases hb : b = a
      · rw [if_pos hb, hb, Option.filter_some, hp]
        exact h
      · rw [if_neg hb]
    | true =>
      rw [if_pos rfl, remove_mem, Option.filter_some, hp]
      rfl

theorem foldl_removeStep_mem (p : α → Bool) (b : Nat) : ∀ (l : List Nat) (t : Table α),
    (l.foldl (removeStep p) t).mem b =
      if b ∈ l then (t.mem b).filter fun x => !p x else t.mem b
  | [], t => by rw [if_neg List.not_mem_nil]; rfl
  | a :: l, t => by
    rw [List.foldl_cons, foldl_removeStep_mem p b l, removeStep_mem]
    by_cases hb : b = a
    · subst hb
      rw [if_pos rfl, if_pos List.mem_cons_self, Option.filter_filter]
      simp only [Bool.and_self, ite_self]
    · rw [if_neg hb]
      simp only [List.mem_cons, hb, false_or]

theorem Valid.removeIf_mem (hv : Valid key t) (p : α → Bool) (b : Nat) :
    (Table.removeIf p t).mem b = (t.mem b).filter fun x => !p x := by
  unfold Table.removeIf
  rw [foldl_removeStep_mem]
  by_cases hb : b ∈ t.walk
  · rw [if_pos hb]
  · rw [if_neg hb]
    cases h : t.mem b with
    | none => rfl
    | some x => exact absurd (hv.same.2 (hv.live.2 ⟨x, h⟩)) hb

theorem Valid.removeIf_some (hv : Valid key t) {p : α → Bool} {b : Nat} {x : α} :
    (Table.removeIf p t).mem b = some x ↔ t.mem b = some x ∧ p x = false := by
  rw [hv.removeIf_mem, Option.filter_eq_some_iff, Bool.not_eq_true']

end Table

end KeyedTable
