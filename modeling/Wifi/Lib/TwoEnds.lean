import Mathlib.Data.List.Nodup

/-!
# Two ends of a link that confirm each other's ids

An end takes a new id for each link, learns the peer's id, and confirms the two to the peer; what was said can arrive
at any later time.

* `End` — an end of a link, with the ids it took and what it confirmed.
* `Move` — what an end may do: go down, keep its ids, or take a new one.
* `Paired` — the invariant of two ends; `Paired.move` and `Paired.symm`.
* `Paired.agree` — ends that have both been confirmed hold each other's ids.
-/

set_option autoImplicit false

namespace TwoEnds

structure End (ι : Type*) where
  /-- the own id, while it is in use -/
  own : Option ι
  /-- the peer's id, once it is fixed -/
  peer : Option ι
  /-- the peer has confirmed both -/
  heard : Bool
  /-- the own ids, the latest first -/
  used : List ι
  /-- what was confirmed to the peer: the own id, and the peer's -/
  told : List (ι × ι)

variable {ι : Type*} {x x' y : End ι}

/-- An end confirms at most its own id and the peer's. -/
structure Said (y x x' : End ι) : Prop where
  old : ∀ c ∈ x.told, c ∈ x'.told
  new : ∀ c ∈ x'.told, c ∈ x.told ∨ x'.own = some c.1 ∧ x'.peer = some c.2 ∧ c.2 ∈ y.used

inductive Move (y x x' : End ι) : Prop where
  | down (own : x'.own = none) (heard : x'.heard = false) (used : x'.used = x.used) (told : x'.told = x.told)
  | keep (own : x'.own = x.own) (peer : x'.peer = x.peer ∨ x.peer = none)
      (heard : x'.heard = true →
        x.heard = true ∧ x'.peer = x.peer ∨ ∃ a b, x'.own = some a ∧ x'.peer = some b ∧ (b, a) ∈ y.told)
      (used : x'.used = x.used) (said : Said y x x')
  | start (a : ι) (own : x'.own = some a) (fresh : a ∉ x.used) (heard : x'.heard = false) (used : x'.used = a :: x.used)
      (said : Said y x x')

/-- **An end of a link.** -/
structure Sound (y x : End ι) : Prop where
  /-- the id in use is the latest -/
  live : ∀ a, x.own = some a → x.used.head? = some a
  told : ∀ c ∈ x.told, c.1 ∈ x.used ∧ c.2 ∈ y.used
  /-- under one id, one id of the peer is confirmed -/
  pinned : ∀ a, x.own = some a → ∀ b, (a, b) ∈ x.told → x.peer = some b
  heard : x.heard = true → ∃ a b, x.own = some a ∧ x.peer = some b ∧ (b, a) ∈ y.told

/-- **Between the ends**: of two confirmations that name the latest ids, one was given under them. -/
def Cross (x y : End ι) : Prop :=
  ∀ a b a' b', x.used.head? = some a → y.used.head? = some b → (b', a) ∈ y.told → (a', b) ∈ x.told → a' = a ∨ b' = b

/-- **The two ends.** -/
structure Paired (x y : End ι) : Prop where
  left : Sound y x
  right : Sound x y
  cross : Cross x y

theorem Paired.symm (h : Paired x y) : Paired y x where
  left := h.right
  right := h.left
  cross a b a' b' ha hb hm hm' := (h.cross b a b' a' hb ha hm' hm).symm

theorem Move.used_mem (h : Move y x x') {a : ι} (ha : a ∈ x.used) : a ∈ x'.used := by
  cases h with
  | down _ _ used =>
    rw [used]
    exact ha
  | keep _ _ _ used =>
    rw [used]
    exact ha
  | start _ _ _ _ used =>
    rw [used]
    exact List.mem_cons_of_mem _ ha

theorem Move.told_mem (h : Move y x x') {c : ι × ι} (hc : c ∈ x.told) : c ∈ x'.told := by
  cases h with
  | down _ _ _ told =>
    rw [told]
    exact hc
  | keep _ _ _ _ said => exact said.old c hc
  | start _ _ _ _ _ said => exact said.old c hc

theorem Move.sound_right (h : Move y x x') (hs : Sound x y) : Sound x' y where
  live := hs.live
  told c hc := ⟨(hs.told c hc).1, h.used_mem (hs.told c hc).2⟩
  pinned := hs.pinned
  heard hh := by
    obtain ⟨a, b, ha, hb, hm⟩ := hs.heard hh
    exact ⟨a, b, ha, hb, h.told_mem hm⟩

theorem Move.sound_left (h : Move y x x') (hs : Sound y x) : Sound y x' := by
  cases h with
  | down own heard used told =>
    refine ⟨?_, ?_, ?_, ?_⟩
    · intro a ha
      exact nomatch own.symm.trans ha
    · rw [told, used]
      exact hs.told
    · intro a ha
      exact nomatch own.symm.trans ha
    · intro hh
      exact nomatch heard.symm.trans hh
  | keep own peer heard used said =>
    refine ⟨?_, ?_, ?_, ?_⟩
    · intro a ha
      rw [used]
      exact hs.live a (own.symm.trans ha)
    · intro c hc
      rw [used]
      rcases said.new c hc with hold | ⟨ho, -, hu⟩
      · exact hs.told c hold
      · exact ⟨List.mem_of_mem_head? (hs.live _ (own.symm.trans ho)), hu⟩
    · intro a ha b hm
      rcases said.new _ hm with hold | ⟨-, hp, -⟩
      · have hpin := hs.pinned a (own.symm.trans ha) b hold
        rcases peer with hp | hp
        · exact hp.trans hpin
        · exact nomatch hp.symm.trans hpin
      · exact hp
    · intro hh
      rcases heard hh with ⟨hold, hp⟩ | hnew
      · obtain ⟨a, b, ha, hb, hm⟩ := hs.heard hold
        exact ⟨a, b, own.trans ha, hp.trans hb, hm⟩
      · exact hnew
  | start a own fresh heard used said =>
    refine ⟨?_, ?_, ?_, ?_⟩
    · intro b hb
      rw [used]
      exact own.symm.trans hb
    · intro c hc
      rw [used]
      rcases said.new c hc with hold | ⟨ho, -, hu⟩
      · exact ⟨List.mem_cons_of_mem _ (hs.told c hold).1, (hs.told c hold).2⟩
      · rw [own] at ho
        cases ho
        exact ⟨List.mem_cons_self, hu⟩
    · intro b hb c hm
      rcases said.new _ hm with hold | ⟨-, hp, -⟩
      · rw [own] at hb
        cases hb
        exact absurd (hs.told _ hold).1 fresh
      · exact hp
    · intro hh
      exact nomatch heard.symm.trans hh

theorem Move.cross (h : Move y x x') (hp : Paired x y) : Cross x' y := by
  intro a b a' b' ha hb hm hm'
  cases h with
  | down _ _ used told =>
    rw [used] at ha
    rw [told] at hm'
    exact hp.cross a b a' b' ha hb hm hm'
  | keep own _ _ used said =>
    rw [used] at ha
    rcases said.new _ hm' with hold | ⟨ho, -, -⟩
    · exact hp.cross a b a' b' ha hb hm hold
    · have hlive := hp.left.live a' (own.symm.trans ho)
      exact .inl (Option.some.inj (hlive.symm.trans ha))
  | start n own fresh _ used said =>
    rw [used] at ha
    cases ha
    -- the id was just taken: no confirmation of the peer names it
    exact absurd (hp.right.told _ hm).2 fresh

/-- **One end moves.** -/
theorem Paired.move (hp : Paired x y) (h : Move y x x') : Paired x' y where
  left := h.sound_left hp.left
  right := h.sound_right hp.right
  cross := h.cross hp

/-- **Confirmed ends hold each other's ids.** -/
theorem Paired.agree (hp : Paired x y) (hx : x.heard = true) (hy : y.heard = true) :
    ∃ a b, x.own = some a ∧ x.peer = some b ∧ y.own = some b ∧ y.peer = some a := by
  obtain ⟨a, b, ha, hb, hm⟩ := hp.left.heard hx
  obtain ⟨b', a', hb', ha', hm'⟩ := hp.right.heard hy
  -- one of the two was confirmed under the ids in use, and the other id is pinned to it
  rcases hp.cross a b' a' b (hp.left.live a ha) (hp.right.live b' hb') hm hm' with h | h
  · subst h
    have hpin := hp.left.pinned _ ha b' hm'
    rw [hb] at hpin
    cases hpin
    exact ⟨_, _, ha, hb, hb', ha'⟩
  · subst h
    have hpin := hp.right.pinned _ hb' a hm
    exact ⟨a, _, ha, hb, hb', hpin⟩

end TwoEnds
