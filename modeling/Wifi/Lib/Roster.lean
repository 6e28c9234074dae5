import Mathlib

/-!
# A list of objects, and sums over it

Objects are at addresses, and those in use are on a list; the address of an object that left is not used
again.

* `Roster` — the list and the objects; `add`, `remove`, `filter`, `set` and `setAll` are its operations.
* `sum` — the sum of a weight over the objects on the list; `sum_add`, `sum_remove`, `sum_filter` and
  `sum_set` say what each operation does to it.
* `sum_eq_zero`, `le_sum` — weights that are not negative.
-/

set_option autoImplicit false

structure Roster (α : Type*) where
  list : List Nat
  get : Nat → α
  /-- the address of the next object -/
  next : Nat
  nodup : list.Nodup
  fresh : ∀ a ∈ list, a < next

namespace Roster

variable {α : Type*}

def empty (get : Nat → α) : Roster α :=
  { list := [], get := get, next := 0, nodup := List.nodup_nil, fresh := nofun }

def set (r : Roster α) (a : Nat) (x : α) : Roster α := { r with get := Function.update r.get a x }

def setAll (r : Roster α) (f : α → α) : Roster α := { r with get := fun a => f (r.get a) }

def add (r : Roster α) (x : α) : Roster α where
  list := r.list ++ [r.next]
  get := Function.update r.get r.next x
  next := r.next + 1
  nodup := by
    rw [List.nodup_append_comm]
    exact List.nodup_cons.2 ⟨fun h => Nat.lt_irrefl _ (r.fresh _ h), r.nodup⟩
  fresh := by
    intro a ha
    rcases List.mem_append.1 ha with h | h
    · exact Nat.lt_succ_of_lt (r.fresh a h)
    · rw [List.mem_singleton.1 h]
      exact Nat.lt_succ_self _

def remove (r : Roster α) (a : Nat) : Roster α :=
  { r with
    list := r.list.erase a
    nodup := r.nodup.erase a
    fresh := fun b hb => r.fresh b (List.mem_of_mem_erase hb) }

def filter (p : α → Bool) (r : Roster α) : Roster α :=
  { r with
    list := r.list.filter fun a => p (r.get a)
    nodup := r.nodup.filter _
    fresh := fun b hb => r.fresh b (List.mem_of_mem_filter hb) }

def sum (w : α → ℤ) (r : Roster α) : ℤ := (r.list.map fun a => w (r.get a)).sum

variable (r : Roster α) (w : α → ℤ)

@[simp]
theorem get_set_self (a : Nat) (x : α) : (r.set a x).get a = x := Function.update_self ..

@[simp]
theorem get_set_ne {a b : Nat} (x : α) (h : b ≠ a) : (r.set a x).get b = r.get b :=
  Function.update_of_ne h ..

@[simp]
theorem list_set (a : Nat) (x : α) : (r.set a x).list = r.list := rfl

@[simp]
theorem list_setAll (f : α → α) : (r.setAll f).list = r.list := rfl

theorem mem_add {a : Nat} {x : α} : a ∈ (r.add x).list ↔ a ∈ r.list ∨ a = r.next := by
  show a ∈ r.list ++ [r.next] ↔ _
  rw [List.mem_append, List.mem_singleton]

theorem mem_remove {a b : Nat} : b ∈ (r.remove a).list ↔ b ≠ a ∧ b ∈ r.list := r.nodup.mem_erase_iff

@[simp]
theorem get_add_self (x : α) : (r.add x).get r.next = x := Function.update_self ..

theorem get_add_mem {a : Nat} (x : α) (h : a ∈ r.list) : (r.add x).get a = r.get a :=
  Function.update_of_ne (fun e => Nat.lt_irrefl _ (e ▸ r.fresh a h)) ..

variable {r}

theorem sum_congr {w' : α → ℤ} {get' : Nat → α} (h : ∀ a ∈ r.list, w' (get' a) = w (r.get a)) :
    (r.list.map fun a => w' (get' a)).sum = r.sum w :=
  congrArg List.sum (List.map_congr_left h)

theorem sum_map_update {get : Nat → α} {a : Nat} {x : α} : ∀ {l : List Nat}, l.Nodup → a ∈ l →
    (l.map fun b => w (Function.update get a x b)).sum = (l.map fun b => w (get b)).sum - w (get a) + w x
  | [], _, h => nomatch h
  | b :: l, hn, h => by
    obtain ⟨hb, hl⟩ := List.nodup_cons.1 hn
    rw [List.map_cons, List.sum_cons, List.map_cons, List.sum_cons]
    rcases List.mem_cons.1 h with rfl | h
    · have hrest : (l.map fun b => w (Function.update get a x b)) = l.map fun b => w (get b) := by
        refine List.map_congr_left fun b hbl => ?_
        rw [Function.update_of_ne (ne_of_mem_of_not_mem hbl hb)]
      rw [hrest, Function.update_self]
      omega
    · rw [sum_map_update hl h, Function.update_of_ne (ne_of_mem_of_not_mem h hb).symm]
      omega

/-- **One object is written to.** -/
theorem sum_set {a : Nat} (x : α) (h : a ∈ r.list) : (r.set a x).sum w = r.sum w - w (r.get a) + w x :=
  sum_map_update w r.nodup h

theorem sum_set_not_mem {a : Nat} (x : α) (h : a ∉ r.list) : (r.set a x).sum w = r.sum w :=
  sum_congr (r := r) w fun b hb => by rw [get_set_ne r x (ne_of_mem_of_not_mem hb h)]

/-- **A new object.** -/
theorem sum_add (x : α) : (r.add x).sum w = r.sum w + w x := by
  show ((r.list ++ [r.next]).map _).sum = _
  rw [List.map_append, List.sum_append, List.map_singleton, List.sum_singleton, get_add_self]
  refine congrArg (· + w x) (sum_congr w fun b hb => ?_)
  rw [get_add_mem r x hb]

/-- **An object leaves.** -/
theorem sum_remove {a : Nat} (h : a ∈ r.list) : (r.remove a).sum w = r.sum w - w (r.get a) := by
  have hperm := (List.perm_cons_erase h).map fun b => w (r.get b)
  have hsum : r.sum w = w (r.get a) + (r.remove a).sum w := hperm.sum_eq
  omega

theorem sum_map_filter {p : α → Bool} {get : Nat → α} : ∀ {l : List Nat},
    (∀ a ∈ l, p (get a) = false → w (get a) = 0) →
    ((l.filter fun a => p (get a)).map fun a => w (get a)).sum = (l.map fun a => w (get a)).sum
  | [], _ => rfl
  | a :: l, h => by
    have hl := sum_map_filter fun b hb => h b (List.mem_cons_of_mem _ hb)
    cases hp : p (get a) with
    | true =>
      rw [List.filter_cons, if_pos hp, List.map_cons, List.sum_cons, List.map_cons, List.sum_cons, hl]
    | false =>
      rw [List.filter_cons, if_neg (by rw [hp]; exact Bool.false_ne_true), List.map_cons, List.sum_cons, hl,
        h a List.mem_cons_self hp, zero_add]

/-- **Objects without weight leave.** -/
theorem sum_filter {p : α → Bool} (h : ∀ a ∈ r.list, p (r.get a) = false → w (r.get a) = 0) :
    (r.filter p).sum w = r.sum w := sum_map_filter w h

theorem sum_sub (w' : α → ℤ) : r.sum (fun x => w x - w' x) = r.sum w - r.sum w' := by
  unfold sum
  induction r.list with
  | nil => rfl
  | cons a l ih =>
    rw [List.map_cons, List.sum_cons, ih, List.map_cons, List.sum_cons, List.map_cons, List.sum_cons]
    dsimp only
    omega

theorem sum_eq_zero (h : ∀ a ∈ r.list, w (r.get a) = 0) : r.sum w = 0 := by
  unfold sum
  rw [List.map_congr_left h]
  simp

theorem sum_nonneg (h : ∀ a ∈ r.list, 0 ≤ w (r.get a)) : 0 ≤ r.sum w := by
  refine List.sum_nonneg fun x hx => ?_
  obtain ⟨a, ha, rfl⟩ := List.mem_map.1 hx
  exact h a ha

theorem le_sum (h : ∀ a ∈ r.list, 0 ≤ w (r.get a)) {a : Nat} (ha : a ∈ r.list) : w (r.get a) ≤ r.sum w := by
  have hrest : 0 ≤ (r.remove a).sum w := sum_nonneg w fun b hb => h b ((mem_remove r).1 hb).2
  rw [sum_remove w ha] at hrest
  omega

end Roster

/-!
## How many objects of a group have a property

* `one` — what an object counts.
* `tally` — the objects of a group that have a property, counted.
* `tally_set`, `tally_add`, `tally_remove` — what each operation of a roster does to it.
-/

namespace Roster

variable {α ι : Type*} [DecidableEq ι] (group : α → ι) (p : α → Bool)

def one (x : α) : Int := if p x = true then 1 else 0

/-- The objects of a group that have a property, counted. -/
def tally (g : ι) (r : Roster α) : Int := r.sum fun x => if g = group x then one p x else 0

variable {group p} {r : Roster α} {a : Nat} {x : α}

variable (group p)

/-- **One object is written to**, and stays in its group. -/
theorem tally_set (ha : a ∈ r.list) (hg : group x = group (r.get a)) (g : ι) : tally group p g (r.set a x) =
    tally group p g r + if g = group (r.get a) then one p x - one p (r.get a) else 0 := by
  unfold tally
  rw [sum_set _ x ha, hg]
  split_ifs <;> omega

/-- **A new object.** -/
theorem tally_add (r : Roster α) (x : α) (g : ι) :
    tally group p g (r.add x) = tally group p g r + if g = group x then one p x else 0 :=
  sum_add _ x

/-- **An object leaves.** -/
theorem tally_remove (ha : a ∈ r.list) (g : ι) : tally group p g (r.remove a) =
    tally group p g r - if g = group (r.get a) then one p (r.get a) else 0 :=
  sum_remove _ ha

variable {group p}

theorem tally_empty (h : r.list = []) (g : ι) : tally group p g r = 0 := by
  refine sum_eq_zero _ fun a ha => ?_
  rw [h] at ha
  cases ha

end Roster
