import Mathlib.Data.List.Induction
import Wifi.Iwlwifi.TxQueue

/-!
# What the functions on a transmit queue do

* `OnRing` — the frames `l` are on the ring.
* `tx_spec` — a submission; `resubmit_spec` — those from the overflow queue.
* `reclaimLoop_spec`, `reclaim_spec` — a reclaim hands out a part of the ring from its beginning.
* `unmap_spec` — the unmap frees all.
-/

namespace Iwlwifi.TxQueue

open TxRing

variable {cfg : Config} {q q' : Queue} {l : List Nat} {skb x i : Nat} {a : Attempt}

/-! ## Frames on the ring -/

/-- The frames `l` are on the ring, and there is space for one more. -/
structure OnRing (cfg : Config) (q : Queue) (l : List Nat) : Prop where
  sizes : cfg.Sizes q.ring.nWindow
  read : q.ring.readPtr < cfg.maxTfdQueueSize
  write : q.ring.writePtr = (q.ring.readPtr + l.length) % cfg.maxTfdQueueSize
  room : l.length + 1 ≤ capacity cfg.maxTfdQueueSize q.ring
  entries : ∀ j x, l[j]? = some x → q.entries ((q.ring.readPtr + j) % q.ring.nWindow) = some x

theorem OnRing.holding (h : OnRing cfg q l) : Holding cfg.maxTfdQueueSize q.ring l.length :=
  ⟨h.sizes.window, h.sizes.size, h.sizes.inside, h.read, h.write, by have := h.room; omega⟩

theorem OnRing.space (h : OnRing cfg q l) : q.space cfg = capacity cfg.maxTfdQueueSize q.ring - l.length :=
  space_eq h.holding

theorem OnRing.pos (h : OnRing cfg q l) : 0 < q.ring.nWindow := h.holding.pos

theorem capacity_ge (h : cfg.Sizes q.ring.nWindow) : 15 ≤ capacity cfg.maxTfdQueueSize q.ring ∧
    capacity cfg.maxTfdQueueSize q.ring ≤ q.ring.nWindow ∧
    q.ring.nWindow ≤ capacity cfg.maxTfdQueueSize q.ring + 1 := by
  have hleast := h.least
  have hinside := h.inside
  unfold capacity
  split <;> omega

theorem OnRing.lt_window (h : OnRing cfg q l) : l.length < q.ring.nWindow := by
  have hroom := h.room
  have hcap := (capacity_ge h.sizes).2.1
  omega

theorem OnRing.eq (h : OnRing cfg q l) : q.onRing cfg = l := by
  have hd : Ring.dist cfg.maxTfdQueueSize q.ring.readPtr q.ring.writePtr = l.length := by
    rw [h.write, Ring.dist_add h.read h.holding.room_lt.1]
  unfold Queue.onRing
  rw [hd]
  have hentries := h.entries
  generalize q.ring.readPtr = r at hentries
  clear hd h
  induction l using List.reverseRecOn with
  | nil => rfl
  | append_singleton l x ih =>
    rw [List.length_append, List.length_singleton, List.range_succ, List.filterMap_append, ih]
    · have hx := hentries l.length x (by simp)
      simp [hx]
    · intro j y hj
      refine hentries j y ?_
      rw [List.getElem?_append_left (List.getElem?_eq_some_iff.mp hj).1, hj]

theorem OnRing.slot_ne (h : OnRing cfg q l) {j k : Nat} (hj : j < q.ring.nWindow) (hk : k < q.ring.nWindow)
    (hne : j ≠ k) : (q.ring.readPtr + j) % q.ring.nWindow ≠ (q.ring.readPtr + k) % q.ring.nWindow := by
  intro he
  have hr := Nat.mod_lt q.ring.readPtr h.pos
  rw [← Nat.mod_add_mod, ← Nat.mod_add_mod (m := q.ring.readPtr) (k := k)] at he
  have h1 := Ring.dist_add hr hj
  have h2 := Ring.dist_add hr hk
  rw [he, h2] at h1
  exact hne h1.symm

theorem OnRing.writeIndex (h : OnRing cfg q l) :
    q.writeIndex cfg = (q.ring.readPtr + l.length) % q.ring.nWindow := by
  unfold Queue.writeIndex
  cases hgen : cfg.gen2 with
  | true => rw [if_pos rfl, h.holding.cmdIndex, h.holding.write_mod]
  | false => rw [if_neg (by decide), h.write, ← h.sizes.gen1 hgen]

theorem OnRing.incWrap (h : OnRing cfg q l) {y : Nat} (hy : y < cfg.maxTfdQueueSize) :
    iwlTxqIncWrap cfg.maxTfdQueueSize y = (y + 1) % cfg.maxTfdQueueSize :=
  h.holding.incWrap (Nat.le_of_lt hy)

theorem OnRing.congr (h : OnRing cfg q l) (hring : q'.ring = q.ring) (hentries : q'.entries = q.entries) :
    OnRing cfg q' l := by
  refine ⟨?_, ?_, ?_, ?_, ?_⟩
  · rw [hring]
    exact h.sizes
  · rw [hring]
    exact h.read
  · rw [hring]
    exact h.write
  · rw [hring]
    exact h.room
  · rw [hring, hentries]
    exact h.entries

theorem OnRing.setEntry (h : OnRing cfg q l) (v : Option Nat) : OnRing cfg (q.setEntry (q.writeIndex cfg) v) l := by
  refine ⟨h.sizes, h.read, h.write, h.room, ?_⟩
  intro j x hj
  have hjl : j < l.length := (List.getElem?_eq_some_iff.mp hj).1
  have hlt := h.lt_window
  show Function.update q.entries (q.writeIndex cfg) v ((q.ring.readPtr + j) % q.ring.nWindow) = _
  rw [h.writeIndex, Function.update_of_ne (h.slot_ne (by omega) hlt (by omega))]
  exact h.entries j x hj

/-- **A frame is put on the ring.** -/
theorem OnRing.push (h : OnRing cfg q l) (skb : Nat) (hroom : l.length + 2 ≤ capacity cfg.maxTfdQueueSize q.ring) :
    OnRing cfg ((q.setEntry (q.writeIndex cfg) (some skb)).advance cfg skb) (l ++ [skb]) := by
  have hwrite : q.ring.writePtr < cfg.maxTfdQueueSize := by
    rw [h.write]
    exact Nat.mod_lt _ (Nat.lt_of_le_of_lt (Nat.zero_le _) h.read)
  refine ⟨h.sizes, h.read, ?_, ?_, ?_⟩
  · show iwlTxqIncWrap cfg.maxTfdQueueSize q.ring.writePtr = _
    rw [h.incWrap hwrite, h.write, Nat.mod_add_mod, List.length_append, List.length_singleton, Nat.add_assoc]
    rfl
  · rw [List.length_append, List.length_singleton]
    exact hroom
  · intro j x hj
    by_cases hjl : j < l.length
    · rw [List.getElem?_append_left hjl] at hj
      exact (h.setEntry (some skb)).entries j x hj
    · have hj' : j = l.length := by
        have hlt := (List.getElem?_eq_some_iff.mp hj).1
        rw [List.length_append, List.length_singleton] at hlt
        omega
      subst hj'
      rw [List.getElem?_concat_length] at hj
      show Function.update q.entries (q.writeIndex cfg) (some skb) _ = _
      rw [h.writeIndex]
      have hself : Function.update q.entries ((q.ring.readPtr + l.length) % q.ring.nWindow) (some skb)
          ((q.ring.readPtr + l.length) % q.ring.nWindow) = some skb := Function.update_self ..
      exact hself.trans hj

/-- **The first frame leaves the ring**, and its entry is empty. -/
theorem OnRing.pop (h : OnRing cfg q (x :: l)) :
    q.entries (q.ring.readPtr % q.ring.nWindow) = some x ∧
      OnRing cfg ((q.setEntry (q.ring.readPtr % q.ring.nWindow) none).incRead cfg) l := by
  have hpos : 0 < cfg.maxTfdQueueSize := Nat.lt_of_le_of_lt (Nat.zero_le _) h.read
  have hread : ((q.setEntry (q.ring.readPtr % q.ring.nWindow) none).incRead cfg).ring.readPtr =
      (q.ring.readPtr + 1) % cfg.maxTfdQueueSize := h.incWrap h.read
  have hlt := h.lt_window
  rw [List.length_cons] at hlt
  refine ⟨?_, h.sizes, ?_, ?_, ?_, ?_⟩
  · have h0 := h.entries 0 x rfl
    rwa [Nat.add_zero] at h0
  · rw [hread]
    exact Nat.mod_lt _ hpos
  · rw [hread, Nat.mod_add_mod]
    show q.ring.writePtr = _
    rw [h.write, List.length_cons]
    congr 1
    omega
  · have hroom := h.room
    rw [List.length_cons] at hroom
    show l.length + 1 ≤ capacity cfg.maxTfdQueueSize q.ring
    omega
  · intro j y hj
    have hjl : j < l.length := (List.getElem?_eq_some_iff.mp hj).1
    have hslot : ((q.ring.readPtr + 1) % cfg.maxTfdQueueSize + j) % q.ring.nWindow =
        (q.ring.readPtr + (j + 1)) % q.ring.nWindow := by
      rw [← Nat.mod_add_mod, Nat.mod_mod_of_dvd _ h.holding.dvd, Nat.mod_add_mod]
      congr 1
      omega
    rw [hread]
    show Function.update q.entries (q.ring.readPtr % q.ring.nWindow) none
      (((q.ring.readPtr + 1) % cfg.maxTfdQueueSize + j) % q.ring.nWindow) = _
    rw [hslot, Function.update_of_ne]
    · exact h.entries (j + 1) y hj
    · have hne := h.slot_ne (j := j + 1) (k := 0) (by omega) h.pos (by omega)
      rwa [Nat.add_zero] at hne

/-! ## Submissions -/

/-- A queue with the frames `l` on its ring; it is stopped only while there is little space. -/
structure Good (cfg : Config) (q : Queue) (l : List Nat) : Prop where
  onRing : OnRing cfg q l
  low : q.lowMark = max (q.ring.nWindow / 4) 4
  high : q.highMark = max (q.ring.nWindow / 8) 2
  stopped : q.queueStopped = true → q.space cfg ≤ q.lowMark

structure SameRest (q q' : Queue) : Prop where
  nWindow : q'.ring.nWindow = q.ring.nWindow
  low : q'.lowMark = q.lowMark
  high : q'.highMark = q.highMark
  overflowQ : q'.overflowQ = q.overflowQ
  queueStopped : q'.queueStopped = q.queueStopped
  queueUsed : q'.queueUsed = q.queueUsed
  sent : q'.sent = q.sent

/-- An attempt with which nothing goes wrong. -/
def Attempt.Ok (a : Attempt) : Prop := a.fwError = false ∧ a.linearizeFails = false ∧ a.mapFails = false

inductive Outcome (cfg : Config) (q : Queue) (l : List Nat) (skb : Nat) : Int × Queue → Prop where
  | failed {ret : Int} {q' : Queue} : ret ≠ 0 → Good cfg q' l → q'.overflowQ = q.overflowQ → q'.sent = q.sent →
      Outcome cfg q l skb (ret, q')
  | overflow {q' : Queue} : q.noRoom cfg = true → q'.noRoom cfg = true → Good cfg q' l →
      q'.overflowQ = q.overflowQ ++ [skb] → q'.sent = q.sent → Outcome cfg q l skb (0, q')
  | placed {q' : Queue} : q.noRoom cfg = false → Good cfg q' (l ++ [skb]) → q'.overflowQ = q.overflowQ →
      q'.sent = q.sent ++ [skb] → Outcome cfg q l skb (0, q')

theorem stopIfLow_rest (q : Queue) : (q.stopIfLow cfg).ring = q.ring ∧ (q.stopIfLow cfg).entries = q.entries ∧
    (q.stopIfLow cfg).lowMark = q.lowMark ∧ (q.stopIfLow cfg).highMark = q.highMark ∧
    (q.stopIfLow cfg).overflowQ = q.overflowQ ∧ (q.stopIfLow cfg).queueUsed = q.queueUsed ∧
    (q.stopIfLow cfg).sent = q.sent :=
  ⟨rfl, rfl, rfl, rfl, rfl, rfl, rfl⟩

theorem Good.stopIfLow (h : Good cfg q l) : Good cfg (q.stopIfLow cfg) l := by
  obtain ⟨hring, hentries, hlow, hhigh, -, -, -⟩ := stopIfLow_rest q
  have hspace : (q.stopIfLow cfg).space cfg = q.space cfg := by
    unfold Queue.space
    rw [hring]
  refine ⟨h.onRing.congr hring hentries, ?_, ?_, ?_⟩
  · rw [hlow, hring]
    exact h.low
  · rw [hhigh, hring]
    exact h.high
  · intro hstopped
    rw [hspace, hlow]
    by_cases hs : q.space cfg < q.highMark
    · have h1 := h.low
      have h2 := h.high
      omega
    · refine h.stopped ?_
      unfold Queue.stopIfLow at hstopped
      simpa [hs] using hstopped

theorem Good.setEntry (h : Good cfg q l) (v : Option Nat) : Good cfg (q.setEntry (q.writeIndex cfg) v) l :=
  ⟨h.onRing.setEntry v, h.low, h.high, h.stopped⟩

theorem Good.push (h : Good cfg q l) (skb : Nat) (hroom : q.noRoom cfg = false) :
    Good cfg ((q.setEntry (q.writeIndex cfg) (some skb)).advance cfg skb) (l ++ [skb]) := by
  have hspace := h.onRing.space
  have hroom' : l.length + 2 ≤ capacity cfg.maxTfdQueueSize q.ring := by
    have hhigh := h.high
    unfold Queue.noRoom at hroom
    rw [Bool.and_eq_false_iff, decide_eq_false_iff_not, decide_eq_false_iff_not] at hroom
    omega
  have hpush := h.onRing.push skb hroom'
  refine ⟨hpush, h.low, h.high, fun hstopped => ?_⟩
  have hle := h.stopped hstopped
  rw [hspace] at hle
  rw [hpush.space, List.length_append, List.length_singleton]
  show capacity cfg.maxTfdQueueSize q.ring - (l.length + 1) ≤ q.lowMark
  omega

theorem Good.congr (h : Good cfg q l) (hring : q'.ring = q.ring) (hentries : q'.entries = q.entries)
    (hlow : q'.lowMark = q.lowMark) (hhigh : q'.highMark = q.highMark) (hstopped : q'.queueStopped = q.queueStopped) :
    Good cfg q' l := by
  refine ⟨h.onRing.congr hring hentries, ?_, ?_, ?_⟩
  · rw [hlow, hring]
    exact h.low
  · rw [hhigh, hring]
    exact h.high
  · unfold Queue.space
    rw [hring, hlow, hstopped]
    exact h.stopped

theorem Good.defer (h : Good cfg q l) (skb : Nat) : Good cfg (q.defer skb) l := h.congr rfl rfl rfl rfl rfl

theorem noRoom_congr (hring : q'.ring = q.ring) (hhigh : q'.highMark = q.highMark) :
    q'.noRoom cfg = q.noRoom cfg := by
  unfold Queue.noRoom Queue.space
  rw [hring, hhigh]

theorem defer_noRoom (q : Queue) (skb : Nat) : (q.defer skb).noRoom cfg = q.noRoom cfg := noRoom_congr rfl rfl

theorem advance_rest (q : Queue) (skb : Nat) : (q.advance cfg skb).overflowQ = q.overflowQ ∧
    (q.advance cfg skb).queueUsed = q.queueUsed ∧ (q.advance cfg skb).lowMark = q.lowMark ∧
    (q.advance cfg skb).ring.nWindow = q.ring.nWindow ∧ (q.advance cfg skb).sent = q.sent ++ [skb] :=
  ⟨rfl, rfl, rfl, rfl, rfl⟩

theorem setEntry_rest (q : Queue) (i : Nat) (v : Option Nat) : (q.setEntry i v).overflowQ = q.overflowQ ∧
    (q.setEntry i v).queueUsed = q.queueUsed ∧ (q.setEntry i v).lowMark = q.lowMark ∧
    (q.setEntry i v).ring.nWindow = q.ring.nWindow ∧ (q.setEntry i v).sent = q.sent :=
  ⟨rfl, rfl, rfl, rfl, rfl⟩

theorem tx_cases (cfg : Config) (q : Queue) (skb : Nat) (a : Attempt) :
    (∃ ret, ret ≠ 0 ∧ iwlTransTx cfg q skb a = (ret, q)) ∨
      (q.noRoom cfg = true ∧
        iwlTransTx cfg q skb a = (0, (q.stopIfLow cfg).defer skb)) ∨
      (q.noRoom cfg = false ∧
        iwlTransTx cfg q skb a = (-1, (q.stopIfLow cfg).setEntry (q.writeIndex cfg) (some skb))) ∨
      (q.noRoom cfg = false ∧
        iwlTransTx cfg q skb a =
          (0, ((q.stopIfLow cfg).setEntry (q.writeIndex cfg) (some skb)).advance cfg skb)) := by
  unfold iwlTransTx
  dsimp only
  by_cases h1 : a.fwError = true
  · exact .inl ⟨-5, by decide, if_pos h1⟩
  rw [if_neg h1]
  by_cases h2 : q.queueUsed = false
  · exact .inl ⟨-22, by decide, if_pos h2⟩
  rw [if_neg h2]
  by_cases h3 : a.linearizeFails = true
  · exact .inl ⟨-12, by decide, if_pos h3⟩
  rw [if_neg h3]
  by_cases h4 : q.noRoom cfg = true
  · exact .inr (.inl ⟨h4, if_pos h4⟩)
  rw [if_neg h4]
  rw [Bool.not_eq_true] at h4
  by_cases h5 : a.mapFails = true
  · exact .inr (.inr (.inl ⟨h4, if_pos h5⟩))
  · exact .inr (.inr (.inr ⟨h4, if_neg h5⟩))

/-- **A submission.** -/
theorem tx_spec (h : Good cfg q l) (skb : Nat) (a : Attempt) : Outcome cfg q l skb (iwlTransTx cfg q skb a) := by
  obtain ⟨hring, -, -, hhigh, hoverflow, -, hsent⟩ := stopIfLow_rest q
  have hnoRoom : (q.stopIfLow cfg).noRoom cfg = q.noRoom cfg := noRoom_congr hring hhigh
  have hindex : (q.stopIfLow cfg).writeIndex cfg = q.writeIndex cfg := by
    unfold Queue.writeIndex
    rw [hring]
  have hs := h.stopIfLow
  have hcases := tx_cases cfg q skb a
  generalize q.stopIfLow cfg = q₁ at *
  rw [← hindex] at hcases
  generalize hi : q₁.writeIndex cfg = i at hcases
  obtain ⟨ret, hret, he⟩ | ⟨hr, he⟩ | ⟨hr, he⟩ | ⟨hr, he⟩ := hcases
  · rw [he]
    exact .failed hret h rfl rfl
  · rw [he]
    have hover : (q₁.defer skb).overflowQ = q₁.overflowQ ++ [skb] := rfl
    exact .overflow hr ((defer_noRoom q₁ skb).trans (hnoRoom.trans hr)) (hs.defer skb) (hover.trans (by rw [hoverflow]))
      hsent
  · obtain ⟨hover, -, -, -, hlog⟩ := setEntry_rest q₁ i (some skb)
    have hgood := hs.setEntry (some skb)
    rw [hi] at hgood
    rw [he]
    exact .failed (by decide) hgood (hover.trans hoverflow) (hlog.trans hsent)
  · have hgood := hs.push skb (hnoRoom.trans hr)
    rw [hi] at hgood
    obtain ⟨hover, -, -, -, hlog⟩ := setEntry_rest q₁ i (some skb)
    rw [he]
    generalize q₁.setEntry i (some skb) = q₂ at *
    obtain ⟨hover', -, -, -, hlog'⟩ := advance_rest q₂ skb
    exact .placed hr hgood (hover'.trans (hover.trans hoverflow)) (hlog'.trans (by rw [hlog, hsent]))

theorem tx_rest (cfg : Config) (q : Queue) (skb : Nat) (a : Attempt) : (iwlTransTx cfg q skb a).2.queueUsed = q.queueUsed ∧
    (iwlTransTx cfg q skb a).2.ring.nWindow = q.ring.nWindow ∧ (iwlTransTx cfg q skb a).2.lowMark = q.lowMark := by
  obtain ⟨hring, -, hlow, -, -, hused, -⟩ := stopIfLow_rest q
  have hwindow : (q.stopIfLow cfg).ring.nWindow = q.ring.nWindow := by rw [hring]
  have hcases := tx_cases cfg q skb a
  generalize q.stopIfLow cfg = q₁ at *
  obtain ⟨ret, -, he⟩ | ⟨-, he⟩ | ⟨-, he⟩ | ⟨-, he⟩ := hcases
  · rw [he]
    exact ⟨rfl, rfl, rfl⟩
  · rw [he]
    exact ⟨hused, hwindow, hlow⟩
  · obtain ⟨-, hused', hlow', hwindow', -⟩ := setEntry_rest q₁ (q.writeIndex cfg) (some skb)
    rw [he]
    exact ⟨hused'.trans hused, hwindow'.trans hwindow, hlow'.trans hlow⟩
  · obtain ⟨-, hused', hlow', hwindow', -⟩ := setEntry_rest q₁ (q.writeIndex cfg) (some skb)
    rw [he]
    generalize q₁.setEntry (q.writeIndex cfg) (some skb) = q₂ at *
    obtain ⟨-, hused'', hlow'', hwindow'', -⟩ := advance_rest q₂ skb
    exact ⟨hused''.trans (hused'.trans hused), hwindow''.trans (hwindow'.trans hwindow),
      hlow''.trans (hlow'.trans hlow)⟩

theorem tx_ok (cfg : Config) (hused : q.queueUsed = true) (ha : a.Ok) (skb : Nat) : (iwlTransTx cfg q skb a).1 = 0 := by
  obtain ⟨h1, h2, h3⟩ := ha
  unfold iwlTransTx
  dsimp only
  rw [h1, if_neg (by decide), if_neg (by simp [hused]), h2, if_neg (by decide), h3]
  split
  · rfl
  · rfl

/-! ## The overflow queue -/

variable {attempts : Nat → Attempt} {skbs : List Nat}

/-- **The frames of the overflow queue** go to the ring or back, and none overtakes another one. -/
theorem resubmit_spec : ∀ {skbs : List Nat} {i : Nat} {q : Queue} {l : List Nat}, Good cfg q l → q.queueUsed = true →
    (q.overflowQ = [] ∨ q.noRoom cfg = true) → (∀ j, j < skbs.length → (attempts (i + j)).Ok) →
    ∃ l', Good cfg (resubmit cfg attempts skbs i q) l' ∧
      l' ++ (resubmit cfg attempts skbs i q).overflowQ = l ++ q.overflowQ ++ skbs ∧
      (resubmit cfg attempts skbs i q).sent ++ (resubmit cfg attempts skbs i q).overflowQ =
        q.sent ++ q.overflowQ ++ skbs := by
  intro skbs
  induction skbs with
  | nil =>
    intro i q l h _ _ _
    refine ⟨l, h, ?_, ?_⟩
    · rw [List.append_nil]
      rfl
    · rw [List.append_nil]
      rfl
  | cons skb skbs ih =>
    intro i q l h hused hroom hok
    rw [resubmit]
    have hzero := tx_ok cfg hused (hok 0 (by simp)) skb
    have hused' := (tx_rest cfg q skb (attempts i)).1
    have hok' : ∀ j, j < skbs.length → (attempts (i + 1 + j)).Ok := by
      intro j hj
      have hj' := hok (j + 1) (by simpa using hj)
      rwa [show i + (j + 1) = i + 1 + j by omega] at hj'
    have ho := tx_spec h skb (attempts i)
    rw [Nat.add_zero] at hzero
    generalize iwlTransTx cfg q skb (attempts i) = r at ho hzero hused' ⊢
    cases ho with
    | failed hne _ _ _ => exact absurd hzero hne
    | @overflow q' _ hfull hg hover hsent =>
      obtain ⟨l', hg', hl', hs'⟩ := ih hg (hused'.trans hused) (.inr hfull) hok'
      refine ⟨l', hg', ?_, ?_⟩
      · rw [hl', hover]
        simp
      · rw [hs', hover, hsent]
        simp
    | @placed q' hfree hg hover hsent =>
      have hnil : q.overflowQ = [] := hroom.resolve_right (by rw [hfree]; decide)
      rw [hnil] at hover
      obtain ⟨l', hg', hl', hs'⟩ := ih hg (hused'.trans hused) (.inl hover) hok'
      refine ⟨l', hg', ?_, ?_⟩
      · rw [hl', hover, hnil]
        simp
      · rw [hs', hover, hsent, hnil]
        simp

/-! ## A queue that is stopped -/

def Queue.restop (q : Queue) (b : Bool) : Queue := { q with queueStopped := b }

/-- Whether the queue is stopped does not matter to a submission. -/
theorem tx_restop (q : Queue) (b : Bool) (skb : Nat) (a : Attempt) :
    ∃ b', iwlTransTx cfg (q.restop b) skb a =
      ((iwlTransTx cfg q skb a).1, (iwlTransTx cfg q skb a).2.restop b') := by
  have hroom : (q.restop b).noRoom cfg = q.noRoom cfg := noRoom_congr rfl rfl
  have hused : (q.restop b).queueUsed = q.queueUsed := rfl
  unfold iwlTransTx
  dsimp only
  rw [hroom, hused]
  by_cases h1 : a.fwError = true
  · rw [if_pos h1, if_pos h1]
    exact ⟨b, rfl⟩
  rw [if_neg h1, if_neg h1]
  by_cases h2 : q.queueUsed = false
  · rw [if_pos h2, if_pos h2]
    exact ⟨b, rfl⟩
  rw [if_neg h2, if_neg h2]
  by_cases h3 : a.linearizeFails = true
  · rw [if_pos h3, if_pos h3]
    exact ⟨b, rfl⟩
  rw [if_neg h3, if_neg h3]
  by_cases h4 : q.noRoom cfg = true
  · rw [if_pos h4, if_pos h4]
    exact ⟨_, rfl⟩
  rw [if_neg h4, if_neg h4]
  by_cases h5 : a.mapFails = true
  · rw [if_pos h5, if_pos h5]
    exact ⟨_, rfl⟩
  · rw [if_neg h5, if_neg h5]
    exact ⟨_, rfl⟩

theorem resubmit_restop : ∀ (skbs : List Nat) (i : Nat) (q : Queue) (b : Bool),
    ∃ b', resubmit cfg attempts skbs i (q.restop b) = (resubmit cfg attempts skbs i q).restop b' := by
  intro skbs
  induction skbs with
  | nil => exact fun i q b => ⟨b, rfl⟩
  | cons skb skbs ih =>
    intro i q b
    obtain ⟨b₁, h₁⟩ := tx_restop q b skb (attempts i)
    obtain ⟨b₂, h₂⟩ := ih (i + 1) (iwlTransTx cfg q skb (attempts i)).2 b₁
    rw [resubmit, resubmit, h₁]
    exact ⟨b₂, h₂⟩

/-- A queue with the frames `l` on its ring, stopped or not. -/
structure Laid (cfg : Config) (q : Queue) (l : List Nat) : Prop where
  onRing : OnRing cfg q l
  low : q.lowMark = max (q.ring.nWindow / 4) 4
  high : q.highMark = max (q.ring.nWindow / 8) 2

theorem Good.laid (h : Good cfg q l) : Laid cfg q l := ⟨h.onRing, h.low, h.high⟩

theorem Laid.congr (h : Laid cfg q l) (hring : q'.ring = q.ring) (hentries : q'.entries = q.entries)
    (hlow : q'.lowMark = q.lowMark) (hhigh : q'.highMark = q.highMark) : Laid cfg q' l := by
  refine ⟨h.onRing.congr hring hentries, ?_, ?_⟩
  · rw [hlow, hring]
    exact h.low
  · rw [hhigh, hring]
    exact h.high

theorem Laid.running (h : Laid cfg q l) : Good cfg (q.restop false) l :=
  ⟨h.onRing.congr rfl rfl, h.low, h.high, nofun⟩

theorem Laid.wake (h : Laid cfg q l) : Good cfg (q.wakeIfSpace cfg) l := by
  refine ⟨h.onRing.congr rfl rfl, h.low, h.high, fun hs => ?_⟩
  have hsplit : (q.queueStopped && !decide (q.lowMark < q.space cfg)) = true := hs
  rw [Bool.and_eq_true, Bool.not_eq_true', decide_eq_false_iff_not] at hsplit
  exact Nat.le_of_not_lt hsplit.2

/-- There is space again, and the queue is stopped. -/
def Queue.drains (cfg : Config) (q : Queue) : Prop := q.lowMark < q.space cfg ∧ q.queueStopped = true

instance (q : Queue) : Decidable (q.drains cfg) := inferInstanceAs (Decidable (_ ∧ _))

structure Drained (cfg : Config) (q : Queue) (l : List Nat) (isFlush : Bool) (r : Queue × List Nat) (l' : List Nat) :
    Prop where
  good : Good cfg r.1 l'
  out : r.2 = if q.drains cfg ∧ isFlush = true then q.overflowQ else []
  frames : l' ++ r.1.overflowQ ++ r.2 = l ++ q.overflowQ
  sent : r.1.sent ++ r.1.overflowQ ++ r.2 = q.sent ++ q.overflowQ

/-- **The overflow queue**, when no submission from it fails. -/
theorem drain_spec (h : Laid cfg q l) (hused : q.queueUsed = true) (isFlush : Bool)
    (hok : isFlush = true ∨ ∀ j, j < q.overflowQ.length → (attempts j).Ok) :
    ∃ l', Drained cfg q l isFlush (drainOverflow cfg q isFlush attempts) l' := by
  unfold drainOverflow
  by_cases hdrains : q.lowMark < q.space cfg ∧ q.queueStopped = true
  · rw [if_pos hdrains]
    cases isFlush with
    | true =>
      refine ⟨l, ⟨?_, ?_, ?_, ?_⟩⟩
      · have hlaid : Laid cfg { q with overflowQ := [], overflowTx := true } l := h.congr rfl rfl rfl rfl
        exact hlaid.wake.congr rfl rfl rfl rfl rfl
      · exact (if_pos ⟨hdrains, rfl⟩).symm
      · show l ++ [] ++ q.overflowQ = _
        rw [List.append_nil]
      · show q.sent ++ [] ++ q.overflowQ = _
        rw [List.append_nil]
    | false =>
      have hok := hok.resolve_left (by decide)
      have hlaid : Laid cfg { q with overflowQ := [], overflowTx := true } l := h.congr rfl rfl rfl rfl
      obtain ⟨l', hgood, hframes, hsent⟩ := resubmit_spec (i := 0)
        hlaid.running hused (.inl rfl) (fun j hj => (Nat.zero_add j).symm ▸ hok j hj)
      obtain ⟨b, hb⟩ := resubmit_restop q.overflowQ 0
        (Queue.restop { q with overflowQ := [], overflowTx := true } false) q.queueStopped
      have hsame : Queue.restop (Queue.restop { q with overflowQ := [], overflowTx := true } false) q.queueStopped =
          { q with overflowQ := [], overflowTx := true } := rfl
      rw [hsame] at hb
      dsimp only
      rw [if_neg (by decide), if_neg (by decide), hb]
      generalize resubmit cfg attempts q.overflowQ 0
        (Queue.restop { q with overflowQ := [], overflowTx := true } false) = q₁ at *
      have hlaid₁ : Laid cfg (q₁.restop b) l' := hgood.laid.congr rfl rfl rfl rfl
      refine ⟨l', ⟨hlaid₁.wake.congr rfl rfl rfl rfl rfl, ?_, ?_, ?_⟩⟩
      · rw [if_neg fun hf => nomatch hf.2]
      · show l' ++ q₁.overflowQ ++ [] = _
        rw [List.append_nil, hframes]
        show l ++ [] ++ q.overflowQ = _
        rw [List.append_nil]
      · show q₁.sent ++ q₁.overflowQ ++ [] = _
        rw [List.append_nil, hsent]
        show q.sent ++ [] ++ q.overflowQ = _
        rw [List.append_nil]
  · rw [if_neg hdrains]
    refine ⟨l, ⟨⟨h.onRing, h.low, h.high, fun hs => ?_⟩, ?_, List.append_nil _, List.append_nil _⟩⟩
    · exact Nat.le_of_not_lt fun hlt => hdrains ⟨hlt, hs⟩
    · rw [if_neg fun hf => hdrains hf.1]

/-! ## Reclaim -/

theorem OnRing.popped (h : OnRing cfg q (x :: l)) :
    OnRing cfg ((q.setEntry (q.ring.readPtr % q.ring.nWindow) none).incRead cfg) l := h.pop.2

theorem freeTfd_empty (h : OnRing cfg q l) :
    iwlTxqFreeTfd (q.setEntry (q.ring.readPtr % q.ring.nWindow) none) =
      (q.setEntry (q.ring.readPtr % q.ring.nWindow) none, []) := by
  have hidx : iwlTxqGetCmdIndex (q.setEntry (q.ring.readPtr % q.ring.nWindow) none).ring
      (q.setEntry (q.ring.readPtr % q.ring.nWindow) none).ring.readPtr = q.ring.readPtr % q.ring.nWindow :=
    h.holding.cmdIndex _
  have hnone : (q.setEntry (q.ring.readPtr % q.ring.nWindow) none).entries (q.ring.readPtr % q.ring.nWindow) = none :=
    Function.update_self ..
  unfold iwlTxqFreeTfd
  dsimp only
  rw [hidx, hnone]

theorem reclaimOne_spec (h : OnRing cfg q (x :: l)) :
    reclaimOne cfg q (q.ring.readPtr % q.ring.nWindow) =
      ((q.setEntry (q.ring.readPtr % q.ring.nWindow) none).incRead cfg, [x], []) := by
  unfold reclaimOne
  rw [h.pop.1]
  dsimp only
  rw [freeTfd_empty h]

theorem popped_rest (q : Queue) : SameRest q ((q.setEntry (q.ring.readPtr % q.ring.nWindow) none).incRead cfg) :=
  ⟨rfl, rfl, rfl, rfl, rfl, rfl, rfl⟩

theorem SameRest.trans {q₁ q₂ q₃ : Queue} (h : SameRest q₁ q₂) (h' : SameRest q₂ q₃) : SameRest q₁ q₃ :=
  ⟨h'.nWindow.trans h.nWindow, h'.low.trans h.low, h'.high.trans h.high, h'.overflowQ.trans h.overflowQ,
    h'.queueStopped.trans h.queueStopped, h'.queueUsed.trans h.queueUsed, h'.sent.trans h.sent⟩

theorem SameRest.refl (q : Queue) : SameRest q q := ⟨rfl, rfl, rfl, rfl, rfl, rfl, rfl⟩

/-- **The loop** hands out the frames up to the entry that it is given. -/
theorem reclaimLoop_spec : ∀ {taken l : List Nat} {q : Queue}, OnRing cfg q (taken ++ l) →
    ∃ q', OnRing cfg q' l ∧ SameRest q q' ∧ ∀ fuel, taken.length < fuel →
      reclaimLoop cfg ((q.ring.readPtr + taken.length) % q.ring.nWindow) fuel q (q.ring.readPtr % q.ring.nWindow) =
        some (q', taken, []) := by
  intro taken
  induction taken with
  | nil =>
    intro l q h
    refine ⟨q, h, .refl q, fun fuel hfuel => ?_⟩
    obtain ⟨fuel, rfl⟩ := Nat.exists_eq_succ_of_ne_zero (Nat.ne_of_gt hfuel)
    unfold reclaimLoop
    rw [List.length_nil, Nat.add_zero, if_pos rfl]
  | cons x taken ih =>
    intro l q h
    rw [List.cons_append] at h
    have hlt := h.lt_window
    rw [List.length_cons, List.length_append] at hlt
    have hne : q.ring.readPtr % q.ring.nWindow ≠ (q.ring.readPtr + (taken.length + 1)) % q.ring.nWindow := by
      have := h.slot_ne (j := 0) (k := taken.length + 1) h.pos (by omega) (by omega)
      rwa [Nat.add_zero] at this
    obtain ⟨q', hring, hrest, hloop⟩ := ih h.popped
    have hread : ((q.setEntry (q.ring.readPtr % q.ring.nWindow) none).incRead cfg).ring.readPtr =
        (q.ring.readPtr + 1) % cfg.maxTfdQueueSize := h.incWrap h.read
    have hend : (((q.ring.readPtr + 1) % cfg.maxTfdQueueSize) + taken.length) % q.ring.nWindow =
        (q.ring.readPtr + (taken.length + 1)) % q.ring.nWindow := by
      rw [← Nat.mod_add_mod, Nat.mod_mod_of_dvd _ h.holding.dvd, Nat.mod_add_mod]
      congr 1
      omega
    have hwindow : ((q.setEntry (q.ring.readPtr % q.ring.nWindow) none).incRead cfg).ring.nWindow = q.ring.nWindow := rfl
    rw [hwindow, hread, hend] at hloop
    refine ⟨q', hring, (popped_rest q).trans hrest, fun fuel hfuel => ?_⟩
    obtain ⟨fuel, rfl⟩ := Nat.exists_eq_succ_of_ne_zero (show fuel ≠ 0 by omega)
    rw [List.length_cons] at hfuel
    have hidx : iwlTxqGetCmdIndex ((q.setEntry (q.ring.readPtr % q.ring.nWindow) none).incRead cfg).ring
        ((q.setEntry (q.ring.readPtr % q.ring.nWindow) none).incRead cfg).ring.readPtr =
        (q.ring.readPtr + 1) % cfg.maxTfdQueueSize % q.ring.nWindow := by
      rw [h.popped.holding.cmdIndex, hread]
      rfl
    rw [List.length_cons]
    unfold reclaimLoop
    rw [if_neg hne, reclaimOne_spec h]
    dsimp only
    rw [hidx, hloop fuel (by omega)]
    rfl

/-- The frames before `ssn`: so many are used, from the read pointer on. -/
theorem reclaim_count (h : OnRing cfg q l) {ssn : Nat} (hne : q.ring.readPtr % q.ring.nWindow ≠ ssn % q.ring.nWindow)
    (hused : iwlTxqUsed q.ring ((ssn % q.ring.nWindow + 2 ^ 32 - 1) % 2 ^ 32 &&& (cfg.maxTfdQueueSize - 1)) = true) :
    ∃ k, 0 < k ∧ k ≤ l.length ∧ (q.ring.readPtr + k) % q.ring.nWindow = ssn % q.ring.nWindow := by
  have hpos := h.pos
  have hr := Nat.mod_lt q.ring.readPtr hpos
  have ht := Nat.mod_lt ssn hpos
  have hdist : Ring.dist q.ring.nWindow (q.ring.readPtr % q.ring.nWindow) (ssn % q.ring.nWindow) ≠ 0 :=
    fun hz => hne ((Ring.dist_eq_zero hr ht).mp hz)
  have hstep := Ring.add_dist hr ht
  have hlt : Ring.dist q.ring.nWindow (q.ring.readPtr % q.ring.nWindow) (ssn % q.ring.nWindow) < q.ring.nWindow :=
    Ring.dist_lt hr
  generalize Ring.dist q.ring.nWindow (q.ring.readPtr % q.ring.nWindow) (ssn % q.ring.nWindow) = k at hdist hstep hlt
  have hpow : cfg.maxTfdQueueSize ∣ 2 ^ 32 := by
    obtain ⟨m, hm, heq⟩ := h.sizes.size
    rw [heq]
    exact Nat.pow_dvd_pow 2 (by omega)
  have hlast : ((ssn % q.ring.nWindow + 2 ^ 32 - 1) % 2 ^ 32 &&& (cfg.maxTfdQueueSize - 1)) % q.ring.nWindow =
      (q.ring.readPtr % q.ring.nWindow + (k - 1)) % q.ring.nWindow := by
    obtain ⟨c, hc⟩ := Nat.dvd_trans h.holding.dvd hpow
    rw [h.holding.mask, Nat.mod_mod_of_dvd _ h.holding.dvd, Nat.mod_mod_of_dvd _ (Nat.dvd_trans h.holding.dvd hpow),
      Nat.add_sub_assoc (by decide), ← hstep, Nat.mod_add_mod]
    have hsum : q.ring.readPtr % q.ring.nWindow + k + (2 ^ 32 - 1) =
        q.ring.readPtr % q.ring.nWindow + (k - 1) + q.ring.nWindow * c := by
      rw [← hc]
      omega
    rw [hsum, Nat.add_mul_mod_self_left]
  obtain ⟨-, hpending⟩ := (used_iff h.holding).mp hused
  rw [hlast, Ring.dist_add hr (by omega)] at hpending
  exact ⟨k, by omega, by omega, by rw [← hstep, Nat.mod_add_mod]⟩

/-- What a reclaim hands out: `k` frames of the ring, and what comes of the overflow queue behind them. -/
structure Reclaimed (cfg : Config) (q : Queue) (l : List Nat) (ssn : Nat) (isFlush : Bool) (attempts : Nat → Attempt)
    (k : Nat) (q₁ : Queue) : Prop where
  some_frame : 0 < k
  inside : k ≤ l.length
  upTo : (q.ring.readPtr + k) % q.ring.nWindow = ssn % q.ring.nWindow
  laid : Laid cfg q₁ (l.drop k)
  rest : SameRest q q₁
  eq : ∀ fuel, q.ring.nWindow ≤ fuel → iwlTxqReclaim cfg fuel q ssn isFlush attempts =
    some ((drainOverflow cfg q₁ isFlush attempts).1, l.take k ++ (drainOverflow cfg q₁ isFlush attempts).2, [])

theorem reclaim_tail {fuel tfdNum readPtr : Nat} {isFlush : Bool} {attempts : Nat → Attempt} {q₁ : Queue}
    {skbs freed : List Nat} (hloop : reclaimLoop cfg tfdNum fuel q readPtr = some (q₁, skbs, freed)) :
    (do
      let (q, skbs, freed) ← reclaimLoop cfg tfdNum fuel q readPtr
      let drained := drainOverflow cfg q isFlush attempts
      some (drained.1, skbs ++ drained.2, freed)) =
      some ((drainOverflow cfg q₁ isFlush attempts).1, skbs ++ (drainOverflow cfg q₁ isFlush attempts).2, freed) := by
  rw [hloop, Option.bind_eq_bind, Option.bind_some]

theorem reclaim_nothing (h : OnRing cfg q l) {ssn : Nat}
    (hcheck : q.queueUsed = false ∨ q.ring.readPtr % q.ring.nWindow = ssn % q.ring.nWindow ∨
      iwlTxqUsed q.ring ((ssn % q.ring.nWindow + 2 ^ 32 - 1) % 2 ^ 32 &&& (cfg.maxTfdQueueSize - 1)) = false)
    (isFlush : Bool) (attempts : Nat → Attempt) (fuel : Nat) :
    iwlTxqReclaim cfg fuel q ssn isFlush attempts = some (q, [], []) := by
  unfold iwlTxqReclaim
  rw [h.holding.cmdIndex, h.holding.cmdIndex]
  extract_lets tfdNum readPtr
  by_cases hunused : q.queueUsed = false
  · rw [if_pos hunused]
  rw [if_neg hunused]
  by_cases hsame : readPtr = tfdNum
  · rw [if_pos hsame]
  rw [if_neg hsame, if_pos ((hcheck.resolve_left hunused).resolve_left hsame)]

/-- Behind the checks, a reclaim is its loop and what comes of the overflow queue. -/
theorem reclaim_going (h : OnRing cfg q l) {ssn fuel : Nat} (hunused : ¬ q.queueUsed = false)
    (hsame : ¬ q.ring.readPtr % q.ring.nWindow = ssn % q.ring.nWindow)
    (hout : ¬ iwlTxqUsed q.ring ((ssn % q.ring.nWindow + 2 ^ 32 - 1) % 2 ^ 32 &&& (cfg.maxTfdQueueSize - 1)) = false)
    {isFlush : Bool} {attempts : Nat → Attempt} {q₁ : Queue} {skbs freed : List Nat}
    (hloop : reclaimLoop cfg (ssn % q.ring.nWindow) fuel q (q.ring.readPtr % q.ring.nWindow) =
      some (q₁, skbs, freed)) :
    iwlTxqReclaim cfg fuel q ssn isFlush attempts =
      some ((drainOverflow cfg q₁ isFlush attempts).1, skbs ++ (drainOverflow cfg q₁ isFlush attempts).2, freed) := by
  unfold iwlTxqReclaim
  rw [h.holding.cmdIndex, h.holding.cmdIndex]
  extract_lets tfdNum readPtr
  rw [if_neg hunused, if_neg hsame, if_neg hout]
  exact reclaim_tail hloop

/-- **A reclaim** changes nothing, or hands out the frames up to `ssn`. -/
theorem reclaim_spec (h : Good cfg q l) (ssn : Nat) (isFlush : Bool) (attempts : Nat → Attempt) :
    (∀ fuel, iwlTxqReclaim cfg fuel q ssn isFlush attempts = some (q, [], [])) ∨
      q.queueUsed = true ∧ ∃ k q₁, Reclaimed cfg q l ssn isFlush attempts k q₁ := by
  by_cases hunused : q.queueUsed = false
  · exact .inl (reclaim_nothing h.onRing (.inl hunused) isFlush attempts)
  by_cases hsame : q.ring.readPtr % q.ring.nWindow = ssn % q.ring.nWindow
  · exact .inl (reclaim_nothing h.onRing (.inr (.inl hsame)) isFlush attempts)
  by_cases hout : iwlTxqUsed q.ring ((ssn % q.ring.nWindow + 2 ^ 32 - 1) % 2 ^ 32 &&& (cfg.maxTfdQueueSize - 1)) = false
  · exact .inl (reclaim_nothing h.onRing (.inr (.inr hout)) isFlush attempts)
  · obtain ⟨k, hpos, hk, hupTo⟩ := reclaim_count h.onRing hsame (Bool.not_eq_false _ |>.mp hout)
    have hlen : (l.take k).length = k := List.length_take_of_le hk
    have hwindow := h.onRing.lt_window
    have hsplit : OnRing cfg q (l.take k ++ l.drop k) := (List.take_append_drop k l).symm ▸ h.onRing
    obtain ⟨q₁, hring, hrest, hloop⟩ := reclaimLoop_spec hsplit
    rw [hlen, hupTo] at hloop
    refine .inr ⟨Bool.not_eq_false _ |>.mp hunused, k, q₁, hpos, hk, hupTo, ⟨hring, ?_, ?_⟩, hrest, fun fuel hfuel => ?_⟩
    · rw [hrest.low, hrest.nWindow]
      exact h.low
    · rw [hrest.high, hrest.nWindow]
      exact h.high
    · exact reclaim_going h.onRing hunused hsame hout (hloop fuel (by omega))

/-! ## Unmap -/

/-- **The loop** frees all frames. -/
theorem unmapLoop_spec : ∀ {l : List Nat} {q : Queue}, OnRing cfg q l →
    ∃ q', OnRing cfg q' [] ∧ SameRest q q' ∧ ∀ fuel, l.length < fuel → unmapLoop cfg fuel q = some (q', l) := by
  intro l
  induction l with
  | nil =>
    intro q h
    refine ⟨q, h, .refl q, fun fuel hfuel => ?_⟩
    obtain ⟨fuel, rfl⟩ := Nat.exists_eq_succ_of_ne_zero (Nat.ne_of_gt hfuel)
    have hwrite : q.ring.writePtr = q.ring.readPtr := by
      rw [h.write, List.length_nil, Nat.add_zero, Nat.mod_eq_of_lt h.read]
    unfold unmapLoop
    rw [if_pos hwrite]
  | cons x l ih =>
    intro q h
    obtain ⟨q', hring, hrest, hloop⟩ := ih h.popped
    refine ⟨q', hring, (popped_rest q).trans hrest, fun fuel hfuel => ?_⟩
    obtain ⟨fuel, rfl⟩ := Nat.exists_eq_succ_of_ne_zero (show fuel ≠ 0 by omega)
    rw [List.length_cons] at hfuel
    have hne : q.ring.writePtr ≠ q.ring.readPtr := by
      have hlt := h.holding.room_lt.1
      rw [List.length_cons] at hlt
      intro heq
      have hdist := Ring.dist_add h.read hlt
      rw [← List.length_cons, ← h.write, heq, (Ring.dist_eq_zero h.read h.read).mpr rfl] at hdist
      simp at hdist
    have hsome : ¬ (cfg.gen2 = false ∧ q.entries q.ring.readPtr = none) := by
      rintro ⟨hgen, hnone⟩
      have hfirst := h.pop.1
      rw [h.sizes.gen1 hgen, Nat.mod_eq_of_lt h.read, hnone] at hfirst
      cases hfirst
    have hfree : iwlTxqFreeTfd q = (q.setEntry (q.ring.readPtr % q.ring.nWindow) none, [x]) := by
      unfold iwlTxqFreeTfd
      dsimp only
      rw [h.holding.cmdIndex, h.pop.1]
    unfold unmapLoop
    rw [if_neg hne, if_neg hsome, hfree]
    dsimp only
    rw [hloop fuel (by omega)]
    rfl

/-- **The unmap** frees everything, and wakes the queue. -/
theorem unmap_spec (h : Good cfg q l) :
    ∃ q', Good cfg q' [] ∧ q'.overflowQ = [] ∧ q'.queueStopped = false ∧ q'.sent = q.sent ∧
      ∀ fuel, q.ring.nWindow ≤ fuel → iwlTxqUnmap cfg fuel q = some (q', l ++ q.overflowQ) := by
  obtain ⟨q', hring, hrest, hloop⟩ := unmapLoop_spec h.onRing
  refine ⟨{ q' with overflowQ := [], queueStopped := false }, ⟨hring.congr rfl rfl, ?_, ?_, nofun⟩, rfl, rfl,
    hrest.sent, fun fuel hfuel => ?_⟩
  · show q'.lowMark = max (q'.ring.nWindow / 4) 4
    rw [hrest.low, hrest.nWindow]
    exact h.low
  · show q'.highMark = max (q'.ring.nWindow / 8) 2
    rw [hrest.high, hrest.nWindow]
    exact h.high
  · have hlt := h.onRing.lt_window
    unfold iwlTxqUnmap
    rw [hloop fuel (by omega), ← hrest.overflowQ]
    rfl

end Iwlwifi.TxQueue
