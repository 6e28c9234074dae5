import Mathlib.Data.Nat.ModEq
import Wifi.Lib.Runs
import Wifi.Mac80211.ReorderBuf

/-!
# Invariant of the receive reorder buffer

* `Inv` — `stored_mpdu_num` counts the complete slots, a marked slot holds no incomplete A-MSDU,
  and every held frame lies in its slot inside the window.
* `releaseHead_inv`, `ieee80211ReleaseReorderFrames_spec` — releasing at the head keeps it and
  only empties slots; the loop ends and moves the head to where it is told.
* `readyLoop_spec`, `timeoutLoop_spec`, `armTimer_spec` — the three loops of
  `ieee80211_sta_reorder_release` end; releasing a timed-out slot keeps the invariant when the
  slots lie in window order and nothing is held at the head (`TimeoutOk`).
-/

namespace Mac80211

open Slots

/-- What holds between two calls on a session. -/
structure Inv (t : TidAmpduRx) : Prop where
  size_pos : 0 < t.bufSize
  size_le : t.bufSize ≤ 1024
  head_lt : t.headSeqNum < 4096
  stored : t.storedMpduNum = countWhere complete t.reorderBuf t.bufSize
  filt : ∀ i, t.filteredAt i = true → t.reorderBuf i ≠ [] → complete (t.reorderBuf i) = true
  place : ∀ i, ∀ f ∈ t.reorderBuf i,
    i = f.seq % t.bufSize ∧ snDist f.seq t.headSeqNum < t.bufSize
  auto : t.autoSeq = true → ∀ i, t.reorderBuf i = []

/-- Some slots were emptied; the rest of the buffer is as it was. -/
structure Shrunk (t t' : TidAmpduRx) : Prop where
  size : t'.bufSize = t.bufSize
  autoSeq : t'.autoSeq = t.autoSeq
  started : t'.started = t.started
  buf : ∀ i, t'.reorderBuf i = t.reorderBuf i ∨ t'.reorderBuf i = []
  filt : ∀ i, t'.filteredAt i = true → t.filteredAt i = true

theorem Shrunk.refl (t : TidAmpduRx) : Shrunk t t :=
  ⟨rfl, rfl, rfl, fun _ => .inl rfl, fun _ h => h⟩

theorem Shrunk.trans {t t' t'' : TidAmpduRx} (h : Shrunk t t') (h' : Shrunk t' t'') :
    Shrunk t t'' := by
  refine ⟨h'.size.trans h.size, h'.autoSeq.trans h.autoSeq, h'.started.trans h.started,
    fun i => ?_, fun i hi => h.filt i (h'.filt i hi)⟩
  rcases h'.buf i with he | he
  · rw [he]; exact h.buf i
  · exact .inr he

theorem Shrunk.mem {t t' : TidAmpduRx} (h : Shrunk t t') {i : Nat} {f : Skb}
    (hf : f ∈ t'.reorderBuf i) : t'.reorderBuf i = t.reorderBuf i ∧ f ∈ t.reorderBuf i := by
  rcases h.buf i with he | he
  · exact ⟨he, he ▸ hf⟩
  · rw [he] at hf; cases hf

/-! ## Slots -/

@[simp] theorem complete_nil : complete [] = false := rfl

theorem complete_append (frames : List Skb) (skb : Skb) :
    complete (frames ++ [skb]) = !skb.amsduMore := by
  simp [complete]

theorem bitUll_self (f : BitVec 64) (n : Nat) : (f &&& ~~~(bitUll n)) &&& bitUll n = 0 := by
  rw [BitVec.and_assoc, BitVec.not_and_self]
  exact BitVec.and_zero

theorem filteredAt_noFrame (t : TidAmpduRx) (i j : Nat) (k : KernelApi) :
    (noFrame k t i).filteredAt j = true → j ≠ i ∧ t.filteredAt j = true := by
  intro h
  unfold noFrame TidAmpduRx.filteredAt at h
  unfold TidAmpduRx.filteredAt
  simp only [ne_eq, Bool.and_eq_true, decide_eq_true_eq] at h ⊢
  by_cases h0 : t.reorderBufFiltered = 0
  · simp [h0] at h
  · rw [if_pos h0] at h
    refine ⟨fun hj => h.2 (by rw [hj]; exact bitUll_self _ _), h0, fun hj => h.2 ?_⟩
    rw [BitVec.and_assoc, BitVec.and_comm (~~~bitUll i), ← BitVec.and_assoc, hj]
    exact BitVec.zero_and

theorem ready_iff {t : TidAmpduRx} {i : Nat} :
    ieee80211RxReorderReady t i = true ↔
      t.filteredAt i = true ∨ complete (t.reorderBuf i) = true := by
  unfold ieee80211RxReorderReady
  split <;> simp_all

theorem not_ready_iff {t : TidAmpduRx} {i : Nat} :
    ieee80211RxReorderReady t i = false ↔
      t.filteredAt i = false ∧ complete (t.reorderBuf i) = false := by
  rw [← Bool.not_eq_true, ready_iff]
  simp

section slots

variable {t : TidAmpduRx} (h : Inv t)
include h

theorem Inv.count_le : countWhere complete t.reorderBuf t.bufSize ≤ 1024 :=
  le_trans (countWhere_le _ _ _) h.size_le

theorem Inv.stored_ne_zero : t.storedMpduNum ≠ 0 ↔
    ∃ i < t.bufSize, complete (t.reorderBuf i) = true := by
  rw [h.stored, ← Nat.pos_iff_ne_zero]
  exact countWhere_pos

end slots

theorem countWhere_clear (q : Nat → List Skb) {i n : Nat} (hi : i < n) :
    countWhere complete (clear q i) n + (complete (q i)).toNat = countWhere complete q n := by
  have hu := countWhere_update complete q [] hi
  rw [complete_nil] at hu
  simpa [clear] using hu

/-! ## Releasing one frame -/

section release

variable (k : KernelApi) (t : TidAmpduRx) (i : Nat)

theorem release_reorderBuf :
    (ieee80211ReleaseReorderFrame k t i).1.reorderBuf = clear t.reorderBuf i := by
  unfold ieee80211ReleaseReorderFrame
  by_cases h0 : t.reorderBuf i = []
  · rw [if_pos h0, clear_of_empty h0]; rfl
  · rw [if_neg h0]
    cases hr : ieee80211RxReorderReady t i <;> rfl

theorem release_headSeqNum :
    (ieee80211ReleaseReorderFrame k t i).1.headSeqNum = k.snInc t.headSeqNum := by
  unfold ieee80211ReleaseReorderFrame
  by_cases h0 : t.reorderBuf i = []
  · rw [if_pos h0]; rfl
  · rw [if_neg h0]
    cases hr : ieee80211RxReorderReady t i <;> rfl

theorem release_filteredAt {j : Nat}
    (hj : (ieee80211ReleaseReorderFrame k t i).1.filteredAt j = true) :
    j ≠ i ∧ t.filteredAt j = true := by
  unfold ieee80211ReleaseReorderFrame at hj
  by_cases h0 : t.reorderBuf i = []
  · rw [if_pos h0] at hj
    exact filteredAt_noFrame t i j k hj
  · rw [if_neg h0] at hj
    cases hr : ieee80211RxReorderReady t i with
    | true =>
      rw [hr] at hj
      exact filteredAt_noFrame { t with
        storedMpduNum := dec16 t.storedMpduNum, reorderBuf := clear t.reorderBuf i } i j k hj
    | false =>
      rw [hr] at hj
      exact filteredAt_noFrame { t with reorderBuf := clear t.reorderBuf i } i j k hj

theorem release_kept :
    (ieee80211ReleaseReorderFrame k t i).1.bufSize = t.bufSize ∧
    (ieee80211ReleaseReorderFrame k t i).1.autoSeq = t.autoSeq ∧
    (ieee80211ReleaseReorderFrame k t i).1.started = t.started := by
  unfold ieee80211ReleaseReorderFrame
  by_cases h0 : t.reorderBuf i = []
  · rw [if_pos h0]; exact ⟨rfl, rfl, rfl⟩
  · rw [if_neg h0]
    cases hr : ieee80211RxReorderReady t i <;> exact ⟨rfl, rfl, rfl⟩

theorem release_not_ready :
    ieee80211RxReorderReady (ieee80211ReleaseReorderFrame k t i).1 i = false := by
  rw [not_ready_iff, release_reorderBuf, clear_self]
  refine ⟨?_, rfl⟩
  rw [← Bool.not_eq_true]
  intro hf
  exact (release_filteredAt k t i hf).1 rfl

theorem release_shrunk : Shrunk t (ieee80211ReleaseReorderFrame k t i).1 := by
  obtain ⟨h1, h2, h3⟩ := release_kept k t i
  refine ⟨h1, h2, h3, fun j => ?_, fun j hj => (release_filteredAt k t i hj).2⟩
  rw [release_reorderBuf]
  by_cases hj : j = i
  · right; rw [hj, clear_self]
  · left; rw [clear_ne _ hj]

/-- **Releasing a slot keeps the count.**  The counter goes down exactly when a complete slot is
    released. -/
theorem release_stored {t : TidAmpduRx} {i : Nat} (hi : i < t.bufSize)
    (hle : t.bufSize ≤ 1024) (hs : t.storedMpduNum = countWhere complete t.reorderBuf t.bufSize)
    (hf : t.filteredAt i = true → t.reorderBuf i ≠ [] → complete (t.reorderBuf i) = true) :
    (ieee80211ReleaseReorderFrame k t i).1.storedMpduNum =
      countWhere complete (clear t.reorderBuf i) t.bufSize := by
  have hc := countWhere_clear t.reorderBuf hi
  have hle' : countWhere complete t.reorderBuf t.bufSize ≤ 1024 :=
    le_trans (countWhere_le _ _ _) hle
  unfold ieee80211ReleaseReorderFrame
  by_cases h0 : t.reorderBuf i = []
  · rw [if_pos h0, clear_of_empty h0]
    exact hs
  · rw [if_neg h0]
    cases hr : ieee80211RxReorderReady t i with
    | false =>
      rw [(not_ready_iff.1 hr).2] at hc
      show t.storedMpduNum = _
      rw [hs, ← hc]
      rfl
    | true =>
      have hcomp : complete (t.reorderBuf i) = true := by
        rcases ready_iff.1 hr with hfi | hci
        · exact hf hfi h0
        · exact hci
      rw [hcomp, Bool.toNat_true] at hc
      show dec16 t.storedMpduNum = _
      rw [hs]
      unfold dec16
      omega

end release

/-- **Releasing the slot at the head keeps the invariant.** -/
theorem releaseHead_inv (k : KernelApi) {t : TidAmpduRx} (h : Inv t) :
    Inv (ieee80211ReleaseReorderFrame k t (t.headSeqNum % t.bufSize)).1 := by
  have hi := Nat.mod_lt t.headSeqNum h.size_pos
  have hsh := release_shrunk k t (t.headSeqNum % t.bufSize)
  have hbuf := release_reorderBuf k t (t.headSeqNum % t.bufSize)
  have hhead := release_headSeqNum k t (t.headSeqNum % t.bufSize)
  constructor
  · rw [hsh.size]; exact h.size_pos
  · rw [hsh.size]; exact h.size_le
  · rw [hhead]; exact k.snInc_lt _
  · rw [hsh.size, hbuf]
    exact release_stored k hi h.size_le h.stored (h.filt _)
  · intro i hf hne
    rcases hsh.buf i with he | he
    · rw [he] at hne ⊢
      exact h.filt i (hsh.filt i hf) hne
    · exact absurd he hne
  · intro i f hf
    obtain ⟨he, hf0⟩ := hsh.mem hf
    obtain ⟨hp, hd⟩ := h.place i f hf0
    rw [hsh.size, hhead, k.snInc_eq]
    refine ⟨hp, ?_⟩
    -- a frame with the number of the head would lie in the slot that was emptied
    have hne : f.seq ≠ t.headSeqNum := by
      intro heq
      rw [hbuf, hp, heq, clear_self] at hf
      cases hf
    have := f.seq_lt
    have := h.head_lt
    unfold snDist at hd ⊢
    omega
  · intro ha i
    rcases hsh.buf i with he | he
    · rw [he]; exact h.auto (hsh.autoSeq ▸ ha) i
    · exact he

/-! ## `ieee80211_release_reorder_frames` -/

section releaseFrames

variable (k : KernelApi)

theorem releaseFrames_stop {t : TidAmpduRx} {new : Nat} (fuel : Nat)
    (h : k.snLess t.headSeqNum new = false) :
    ieee80211ReleaseReorderFrames k new (fuel + 1) t = some (t, []) := by
  simp only [ieee80211ReleaseReorderFrames, h]
  rfl

theorem releaseFrames_next {t : TidAmpduRx} {new : Nat} (fuel : Nat)
    (h : k.snLess t.headSeqNum new = true) :
    ieee80211ReleaseReorderFrames k new (fuel + 1) t =
      (ieee80211ReleaseReorderFrames k new fuel
        (ieee80211ReleaseReorderFrame k t (t.headSeqNum % t.bufSize)).1).map fun r =>
          (r.1, (ieee80211ReleaseReorderFrame k t (t.headSeqNum % t.bufSize)).2 ++ r.2) := by
  simp only [ieee80211ReleaseReorderFrames, h, if_true]
  cases ieee80211ReleaseReorderFrames k new fuel
    (ieee80211ReleaseReorderFrame k t (t.headSeqNum % t.bufSize)).1 <;> rfl

/-- **The loop ends, keeps the invariant and only empties slots.**  The head moves to `new` when
    it comes before it, and stays otherwise. -/
theorem ieee80211ReleaseReorderFrames_spec {new : Nat} (hnew : new < 4096) :
    ∀ (fuel : Nat) {t : TidAmpduRx}, Inv t → snDist new t.headSeqNum < fuel ∨ 4096 ≤ fuel →
    ∃ t' out, ieee80211ReleaseReorderFrames k new fuel t = some (t', out) ∧ Inv t' ∧
      Shrunk t t' ∧
      (if k.snLess t.headSeqNum new = true then t'.headSeqNum = new else t' = t)
  | 0, t, _, hf => by omega
  | fuel + 1, t, h, hf => by
    cases hl : k.snLess t.headSeqNum new with
    | false =>
      refine ⟨t, [], releaseFrames_stop k fuel hl, h, Shrunk.refl t, ?_⟩
      rw [if_neg Bool.false_ne_true]
    | true =>
      have hi := releaseHead_inv k h
      have hsh := release_shrunk k t (t.headSeqNum % t.bufSize)
      have hhead := release_headSeqNum k t (t.headSeqNum % t.bufSize)
      rw [k.snInc_eq] at hhead
      have hd := (k.snLess_iff _ _ (by omega)).1 hl
      have hlt := h.head_lt
      -- the head is strictly before `new` in the half space, so one step brings it closer
      have hcloser : snDist new (ieee80211ReleaseReorderFrame k t
          (t.headSeqNum % t.bufSize)).1.headSeqNum + 1 = snDist new t.headSeqNum := by
        rw [hhead]; unfold snDist at hd ⊢; omega
      have hbound := snDist_lt new t.headSeqNum
      obtain ⟨t', out, hr, hi', hsh', hnext⟩ :=
        ieee80211ReleaseReorderFrames_spec hnew fuel hi (.inl (by omega))
      refine ⟨t', (ieee80211ReleaseReorderFrame k t (t.headSeqNum % t.bufSize)).2 ++ out, ?_, hi',
        hsh.trans hsh', ?_⟩
      · rw [releaseFrames_next k fuel hl, hr]; rfl
      · rw [if_pos rfl]
        cases hl' : k.snLess (ieee80211ReleaseReorderFrame k t
            (t.headSeqNum % t.bufSize)).1.headSeqNum new with
        | true => rw [hl', if_pos rfl] at hnext; exact hnext
        | false =>
          rw [hl', if_neg Bool.false_ne_true] at hnext
          have hd' := (k.snLess_eq_false (by omega)).1 hl'
          rw [hnext, hhead]
          rw [hhead] at hd'
          unfold snDist at hd hd'
          omega

end releaseFrames

/-! ## The loops of `ieee80211_sta_reorder_release` -/

def readyCount (t : TidAmpduRx) : Nat :=
  ((Finset.range t.bufSize).filter fun i => ieee80211RxReorderReady t i).card

theorem Shrunk.ready {t t' : TidAmpduRx} (h : Shrunk t t') {i : Nat}
    (hr : ieee80211RxReorderReady t' i = true) : ieee80211RxReorderReady t i = true := by
  rw [ready_iff] at hr ⊢
  rcases hr with hf | hc
  · exact .inl (h.filt i hf)
  · rcases h.buf i with he | he
    · exact .inr (he ▸ hc)
    · rw [he] at hc; cases hc

theorem readyCount_release (k : KernelApi) {t : TidAmpduRx} {i : Nat} (hi : i < t.bufSize)
    (hr : ieee80211RxReorderReady t i = true) :
    readyCount (ieee80211ReleaseReorderFrame k t i).1 < readyCount t := by
  have hsh := release_shrunk k t i
  unfold readyCount
  rw [hsh.size]
  refine Finset.card_lt_card (Finset.ssubset_iff.2 ⟨i, ?_, ?_⟩)
  · simp [release_not_ready]
  · intro j hj
    rw [Finset.mem_insert, Finset.mem_filter] at hj
    rw [Finset.mem_filter, Finset.mem_range]
    rcases hj with hji | ⟨hlt, hjr⟩
    · rw [hji]; exact ⟨hi, hr⟩
    · exact ⟨Finset.mem_range.1 hlt, hsh.ready hjr⟩

theorem readyCount_le (t : TidAmpduRx) : readyCount t ≤ t.bufSize := by
  simpa [readyCount] using Finset.card_filter_le (Finset.range t.bufSize)
    fun i => ieee80211RxReorderReady t i = true

section loops

variable (k : KernelApi)

theorem readyLoop_next {t : TidAmpduRx} {index : Nat} (fuel : Nat)
    (h : ieee80211RxReorderReady t index = true) :
    readyLoop k (fuel + 1) index t =
      (readyLoop k fuel ((ieee80211ReleaseReorderFrame k t index).1.headSeqNum %
        (ieee80211ReleaseReorderFrame k t index).1.bufSize)
        (ieee80211ReleaseReorderFrame k t index).1).map fun r =>
          (r.1, (ieee80211ReleaseReorderFrame k t index).2 ++ r.2) := by
  simp only [readyLoop, h, if_true]
  cases readyLoop k fuel ((ieee80211ReleaseReorderFrame k t index).1.headSeqNum %
    (ieee80211ReleaseReorderFrame k t index).1.bufSize)
    (ieee80211ReleaseReorderFrame k t index).1 <;> rfl

/-- **Releasing the slots that are ready ends and keeps the invariant.** -/
theorem readyLoop_spec : ∀ (fuel : Nat) {t : TidAmpduRx}, Inv t → readyCount t < fuel →
    ∃ t' out, readyLoop k fuel (t.headSeqNum % t.bufSize) t = some (t', out) ∧ Inv t' ∧
      Shrunk t t'
  | 0, _, _, hf => absurd hf (Nat.not_lt_zero _)
  | fuel + 1, t, h, hf => by
    cases hr : ieee80211RxReorderReady t (t.headSeqNum % t.bufSize) with
    | false =>
      refine ⟨t, [], ?_, h, Shrunk.refl t⟩
      simp only [readyLoop, hr]
      rfl
    | true =>
      have hlt := readyCount_release k (Nat.mod_lt _ h.size_pos) hr
      obtain ⟨t', out, hl, hi', hsh'⟩ := readyLoop_spec fuel (releaseHead_inv k h) (by omega)
      refine ⟨t', (ieee80211ReleaseReorderFrame k t (t.headSeqNum % t.bufSize)).2 ++ out, ?_, hi',
        (release_shrunk k t _).trans hsh'⟩
      rw [readyLoop_next k fuel hr, hl]
      rfl

/-- The scan for the next timeout ends when some slot is ready. -/
theorem scanLoop_some {t : TidAmpduRx} (index : Nat) {r : Nat} (hr : r < t.bufSize)
    (hready : ieee80211RxReorderReady t r = true) : ∀ (fuel : Nat) {j : Nat}, j < t.bufSize →
    (r + t.bufSize - j) % t.bufSize < fuel → ∃ i, scanLoop t index fuel j = some i
  | 0, _, _, hf => absurd hf (Nat.not_lt_zero _)
  | fuel + 1, j, hj, hf => by
    unfold scanLoop
    by_cases hend : (j : Int) = Int.tmod ((index : Int) - 1) t.bufSize
    · rw [if_pos hend]; exact ⟨j, rfl⟩
    · rw [if_neg hend]
      by_cases hjr : ieee80211RxReorderReady t j = true
      · rw [if_pos hjr]; exact ⟨j, rfl⟩
      · rw [if_neg hjr]
        have hne : j ≠ r := fun he => hjr (he ▸ hready)
        have := stepsTo_next hj hr hne
        exact scanLoop_some index hr hready fuel (Nat.mod_lt _ (by omega)) (by omega)

def SameBuffer (t t' : TidAmpduRx) : Prop := { t' with reorderTimer := t.reorderTimer } = t

theorem SameBuffer.inv {t t' : TidAmpduRx} (hs : SameBuffer t t') (h : Inv t) : Inv t' := by
  rw [← hs] at h
  exact ⟨h.size_pos, h.size_le, h.head_lt, h.stored, h.filt, h.place, h.auto⟩

theorem SameBuffer.shrunk {t t' : TidAmpduRx} (hs : SameBuffer t t') : Shrunk t t' := by
  rw [← hs]
  exact ⟨rfl, rfl, rfl, fun _ => .inl rfl, fun _ h => h⟩

theorem setReleaseTimer_same (t : TidAmpduRx) (j : Nat) : SameBuffer t (setReleaseTimer k t j) := by
  unfold setReleaseTimer SameBuffer
  split <;> rfl

/-- **Arming the timer ends and leaves the buffer alone.** -/
theorem armTimer_spec {t : TidAmpduRx} (h : Inv t) :
    ∃ t', armTimer k t = some t' ∧ SameBuffer t t' := by
  unfold armTimer
  by_cases h0 : t.storedMpduNum ≠ 0
  · obtain ⟨r, hr, hc⟩ := h.stored_ne_zero.1 h0
    have hj := Nat.mod_lt t.headSeqNum h.size_pos
    have hsteps := Nat.mod_lt (r + t.bufSize - t.headSeqNum % t.bufSize) h.size_pos
    obtain ⟨j, he⟩ := scanLoop_some (t.headSeqNum % t.bufSize) hr
      (ready_iff.2 (.inr hc)) (t.bufSize + 1) hj (by omega)
    rw [if_pos h0]
    simp only [he]
    exact ⟨_, rfl, setReleaseTimer_same k t j⟩
  · rw [if_neg h0]
    exact ⟨_, rfl, rfl⟩

end loops

/-! ## Timed-out slots -/

/-- The window does not cross the end of the sequence space, or the slots do not notice. -/
def Aligned (t : TidAmpduRx) : Prop := t.bufSize ∣ 4096 ∨ t.headSeqNum + t.bufSize ≤ 4096

instance (t : TidAmpduRx) : Decidable (Aligned t) := inferInstanceAs (Decidable (_ ∨ _))

/-- Slot `d` places after the slot of the head. -/
def TidAmpduRx.slotAfter (t : TidAmpduRx) (d : Nat) : Nat :=
  (t.headSeqNum % t.bufSize + d) % t.bufSize

theorem Aligned.slot {t : TidAmpduRx} (ha : Aligned t) {e : Nat} (he : e < t.bufSize) :
    (t.headSeqNum + e) % 4096 % t.bufSize = t.slotAfter e := by
  unfold TidAmpduRx.slotAfter
  rw [Nat.mod_add_mod]
  rcases ha with hd | hw
  · exact Nat.mod_mod_of_dvd _ hd
  · rw [Nat.mod_eq_of_lt (show t.headSeqNum + e < 4096 by omega)]

theorem slotAfter_inj {t : TidAmpduRx} {e d : Nat} (he : e < t.bufSize) (hd : d < t.bufSize)
    (h : t.slotAfter e = t.slotAfter d) : e = d := by
  have hm := Nat.ModEq.add_left_cancel' (t.headSeqNum % t.bufSize) h
  unfold Nat.ModEq at hm
  rwa [Nat.mod_eq_of_lt he, Nat.mod_eq_of_lt hd] at hm

theorem slotAfter_next (t : TidAmpduRx) (d : Nat) :
    (t.slotAfter d + 1) % t.bufSize = t.slotAfter (d + 1) := by
  unfold TidAmpduRx.slotAfter
  rw [Nat.mod_add_mod, Nat.add_assoc]

theorem slotAfter_zero {t : TidAmpduRx} : t.slotAfter 0 = t.headSeqNum % t.bufSize := by
  unfold TidAmpduRx.slotAfter
  rw [Nat.add_zero, Nat.mod_mod]

theorem Inv.slotAfter_place {t : TidAmpduRx} (h : Inv t) (ha : Aligned t) {i : Nat} {f : Skb}
    (hf : f ∈ t.reorderBuf i) : i = t.slotAfter (snDist f.seq t.headSeqNum) := by
  obtain ⟨hp, hd⟩ := h.place i f hf
  have hs := ha.slot hd
  have := f.seq_lt
  have := h.head_lt
  have he : (t.headSeqNum + snDist f.seq t.headSeqNum) % 4096 = f.seq := by
    unfold snDist; omega
  rw [← hs, he]
  exact hp

/-- A release on timeout finds nothing at the head and the slots in window order. -/
def TimeoutOk (k : KernelApi) (t : TidAmpduRx) (jiffies : BitVec 64) : Prop :=
  t.storedMpduNum ≠ 0 → ∀ d, 1 ≤ d → d < t.bufSize →
    (∀ e, e < d → ieee80211RxReorderReady t (t.slotAfter e) = false) →
    ieee80211RxReorderReady t (t.slotAfter d) = true →
    t.timedOut k jiffies (t.slotAfter d) = true →
    t.reorderBuf (t.headSeqNum % t.bufSize) = [] ∧ Aligned t

/-- **Purging the skipped slots** empties them and no others. -/
theorem purgeBetween_spec (t : TidAmpduRx) {d : Nat} (hd : d < t.bufSize) :
    ∀ (fuel e : Nat) (buf : Nat → List Skb), e ≤ d → d < fuel + e →
    ∃ buf', purgeBetween t.bufSize (t.slotAfter d) fuel (t.slotAfter e) buf = some buf' ∧
      (∀ c, e ≤ c → c < d → buf' (t.slotAfter c) = []) ∧
      (∀ i, (∀ c, e ≤ c → c < d → i ≠ t.slotAfter c) → buf' i = buf i)
  | 0, e, _, _, hf => by omega
  | fuel + 1, e, buf, he, hf => by
    unfold purgeBetween
    by_cases hed : t.slotAfter e = t.slotAfter d
    · have heq := slotAfter_inj (by omega) hd hed
      rw [if_pos hed]
      exact ⟨buf, rfl, fun c h1 h2 => by omega, fun i _ => rfl⟩
    · have hlt : e < d := by
        rcases Nat.lt_or_ge e d with h | h
        · exact h
        · exact absurd (congrArg t.slotAfter (Nat.le_antisymm he h)) hed
      rw [if_neg hed, slotAfter_next]
      obtain ⟨buf', hr, hin, hout⟩ :=
        purgeBetween_spec t hd fuel (e + 1) (clear buf (t.slotAfter e)) (by omega) (by omega)
      refine ⟨buf', hr, ?_, ?_⟩
      · intro c h1 h2
        by_cases hc : c = e
        · rw [hc, hout _ fun c' h1' h2' hcc => ?_, clear_self]
          have := slotAfter_inj (t := t) (by omega) (by omega) hcc
          omega
        · exact hin c (by omega) h2
      · intro i hi
        rw [hout i fun c h1 h2 => hi c (by omega) h2, clear_ne _ (hi e (le_refl e) hlt)]

/-- The loop over the slots after the head has looked at the first `d - 1` of them and released
    the session up to `r` places past the old head. -/
structure Skipping (t₀ t : TidAmpduRx) (d r : Nat) : Prop where
  shrunk : Shrunk t₀ t
  head : t.headSeqNum = (t₀.headSeqNum + r) % 4096
  stored : t.storedMpduNum = countWhere complete t.reorderBuf t.bufSize
  le : r ≤ d
  first : r = 0 → t = t₀
  free : 0 < r → t₀.reorderBuf (t₀.headSeqNum % t₀.bufSize) = [] ∧ Aligned t₀
  ahead : ∀ i, ∀ f ∈ t.reorderBuf i, r ≤ snDist f.seq t₀.headSeqNum
  incomplete : ∀ e, 1 ≤ e → e < d → complete (t.reorderBuf (t₀.slotAfter e)) = false
  waiting : r = 0 → ∀ e, e < d → ieee80211RxReorderReady t₀ (t₀.slotAfter e) = false

theorem Skipping.inv {t₀ t : TidAmpduRx} {d r : Nat} (h : Inv t₀) (hs : Skipping t₀ t d r) :
    Inv t := by
  have hsize := hs.shrunk.size
  constructor
  · rw [hsize]; exact h.size_pos
  · rw [hsize]; exact h.size_le
  · rw [hs.head]; exact Nat.mod_lt _ (by decide)
  · exact hs.stored
  · intro i hf hne
    rcases hs.shrunk.buf i with he | he
    · rw [he] at hne ⊢
      exact h.filt i (hs.shrunk.filt i hf) hne
    · exact absurd he hne
  · intro i f hf
    obtain ⟨-, hf0⟩ := hs.shrunk.mem hf
    obtain ⟨hp, hd⟩ := h.place i f hf0
    have hr := hs.ahead i f hf
    have := f.seq_lt
    have := h.head_lt
    have := h.size_le
    rw [hsize, hs.head]
    refine ⟨hp, ?_⟩
    unfold snDist at hd hr ⊢
    omega
  · intro ha i
    rcases hs.shrunk.buf i with he | he
    · rw [he]; exact h.auto (hs.shrunk.autoSeq ▸ ha) i
    · exact he

theorem Skipping.start {t : TidAmpduRx} (h : Inv t)
    (hr : ieee80211RxReorderReady t (t.headSeqNum % t.bufSize) = false) : Skipping t t 1 0 := by
  refine ⟨Shrunk.refl t, ?_, h.stored, by omega, fun _ => rfl, by omega, fun _ _ _ => by omega,
    fun e _ _ => by omega, fun _ e he => ?_⟩
  · rw [Nat.add_zero, Nat.mod_eq_of_lt h.head_lt]
  · have h0 : e = 0 := by omega
    rw [h0, slotAfter_zero]
    exact hr

theorem Skipping.skip {t₀ t : TidAmpduRx} {d r : Nat} (hs : Skipping t₀ t d r)
    (hr : ieee80211RxReorderReady t (t₀.slotAfter d) = false) : Skipping t₀ t (d + 1) r := by
  refine ⟨hs.shrunk, hs.head, hs.stored, Nat.le_succ_of_le hs.le, hs.first, hs.free, hs.ahead,
    fun e h1 h2 => ?_, fun h0 e he => ?_⟩
  · by_cases hed : e = d
    · rw [hed]; exact (not_ready_iff.1 hr).2
    · exact hs.incomplete e h1 (by omega)
  · by_cases hed : e = d
    · rw [hed, ← hs.first h0]
      rw [hs.first h0] at hr ⊢
      exact hr
    · exact hs.waiting h0 e (by omega)

/-- The slot looked at was released, and everything before it purged. -/
theorem Skipping.released {t₀ t t' : TidAmpduRx} {d r : Nat} (h : Inv t₀)
    (hs : Skipping t₀ t d r) (hsh : Shrunk t t')
    (hfree : t₀.reorderBuf (t₀.headSeqNum % t₀.bufSize) = [] ∧ Aligned t₀)
    (hhead : t'.headSeqNum = (t₀.headSeqNum + (d + 1)) % 4096)
    (hstored : t'.storedMpduNum = countWhere complete t'.reorderBuf t'.bufSize)
    (hgone : ∀ c, c ≤ d → t'.reorderBuf (t₀.slotAfter c) = []) :
    Skipping t₀ t' (d + 1) (d + 1) := by
  refine ⟨hs.shrunk.trans hsh, hhead, hstored, le_refl _, fun h0 => by omega, fun _ => hfree,
    fun i f hf => ?_, fun e _ h2 => ?_, fun h0 => by omega⟩
  · have hplace := h.slotAfter_place hfree.2 ((hs.shrunk.trans hsh).mem hf).2
    by_cases hle : snDist f.seq t₀.headSeqNum ≤ d
    · have hempty := hgone _ hle
      rw [← hplace] at hempty
      rw [hempty] at hf
      cases hf
    · omega
  · rw [hgone e (by omega)]
    rfl

section release

variable {t₀ t : TidAmpduRx} {d r : Nat} (h : Inv t₀) (hs : Skipping t₀ t d r)
  (hd : d < t₀.bufSize)
  {buf : Nat → List Skb} (hin : ∀ c, 1 ≤ c → c < d → buf (t₀.slotAfter c) = [])
  (hout : ∀ i, (∀ c, 1 ≤ c → c < d → i ≠ t₀.slotAfter c) → buf i = t.reorderBuf i)
include hs hin hout

theorem Skipping.purged_buf (i : Nat) :
    buf i = t.reorderBuf i ∨ (buf i = [] ∧ complete (t.reorderBuf i) = false) := by
  by_cases hc : ∃ c, 1 ≤ c ∧ c < d ∧ i = t₀.slotAfter c
  · obtain ⟨c, h1, h2, rfl⟩ := hc
    exact .inr ⟨hin c h1 h2, hs.incomplete c h1 h2⟩
  · exact .inl (hout i fun c h1 h2 he => hc ⟨c, h1, h2, he⟩)

theorem Skipping.purged_shrunk : Shrunk t { t with reorderBuf := buf } :=
  ⟨rfl, rfl, rfl, fun i => (hs.purged_buf hin hout i).imp_right And.left, fun _ hf => hf⟩

theorem Skipping.purged_count (n : Nat) :
    countWhere complete buf n = countWhere complete t.reorderBuf n := by
  refine countWhere_congr fun i _ => ?_
  rcases hs.purged_buf hin hout i with he | ⟨he, hc⟩
  · rw [he]
  · rw [he, hc]; rfl

include h hd

/-- **Releasing a timed-out slot** moves the head past it and leaves nothing before it. -/
theorem Skipping.release (k : KernelApi)
    (hfree : t₀.reorderBuf (t₀.headSeqNum % t₀.bufSize) = [] ∧ Aligned t₀) {t' : TidAmpduRx}
    (ht' : t' = (ieee80211ReleaseReorderFrame k { t with reorderBuf := buf }
      (t₀.slotAfter d)).1) :
    Skipping t₀ { t' with headSeqNum := (t'.headSeqNum + (d - r)) % 4096 } (d + 1) (d + 1) := by
  have hsh : Shrunk { t with reorderBuf := buf } t' := ht' ▸ release_shrunk k _ _
  have hclear : t'.reorderBuf = clear buf (t₀.slotAfter d) := by
    rw [ht', release_reorderBuf]
  have hhead : t'.headSeqNum = (t.headSeqNum + 1) % 4096 := by
    rw [ht', release_headSeqNum, k.snInc_eq]
  have hsize : t.bufSize = t₀.bufSize := hs.shrunk.size
  have hcount : t'.storedMpduNum = countWhere complete t'.reorderBuf t'.bufSize := by
    rw [ht', release_stored k, release_reorderBuf, (release_kept k _ _).1]
    · show t₀.slotAfter d < t.bufSize
      rw [hsize]; exact Nat.mod_lt _ h.size_pos
    · show t.bufSize ≤ 1024
      rw [hsize]; exact h.size_le
    · show t.storedMpduNum = countWhere complete buf t.bufSize
      rw [hs.purged_count hin hout, hs.stored]
    · intro hf hne
      show complete (buf (t₀.slotAfter d)) = true
      rcases hs.purged_buf hin hout (t₀.slotAfter d) with he | ⟨he, _⟩
      · rw [he]
        exact (hs.inv h).filt _ hf (he ▸ hne)
      · exact absurd he hne
  have hgone : ∀ c, c ≤ d → t'.reorderBuf (t₀.slotAfter c) = [] := by
    intro c hc
    rw [hclear]
    by_cases hcd : c = d
    · rw [hcd, clear_self]
    · rw [clear_ne _ fun he => hcd (slotAfter_inj (by omega) hd he)]
      by_cases hc0 : c = 0
      · have hpre : t.reorderBuf (t₀.slotAfter 0) = [] := by
          rcases hs.shrunk.buf (t₀.slotAfter 0) with he | he
          · rw [he, slotAfter_zero]; exact hfree.1
          · exact he
        rw [hc0]
        rcases hs.purged_buf hin hout (t₀.slotAfter 0) with he | ⟨he, _⟩
        · rw [he]; exact hpre
        · exact he
      · exact hin c (by omega) (by omega)
  have hstep := (hs.purged_shrunk hin hout).trans hsh
  refine hs.released h ⟨hstep.size, hstep.autoSeq, hstep.started, hstep.buf, hstep.filt⟩ hfree ?_
    hcount hgone
  show (t'.headSeqNum + (d - r)) % 4096 = _
  have := hs.le
  rw [hhead, hs.head]
  omega

end release

section loop

variable (k : KernelApi) {jiffies : BitVec 64} {t₀ t : TidAmpduRx}

theorem timeoutLoop_end (fuel skipped : Nat) (index : Nat) :
    timeoutLoop k jiffies index (fuel + 1) index skipped t = some (.done, t, []) := by
  simp only [timeoutLoop, if_true]

theorem timeoutLoop_skip (fuel skipped : Nat) {index j : Nat} (hj : j ≠ index)
    (hr : ieee80211RxReorderReady t j = false) :
    timeoutLoop k jiffies index (fuel + 1) j skipped t =
      timeoutLoop k jiffies index fuel ((j + 1) % t.bufSize) (skipped + 1) t := by
  simp only [timeoutLoop, if_neg hj, hr, if_true]

theorem timeoutLoop_wait (fuel : Nat) {skipped index j : Nat} (hj : j ≠ index)
    (hr : ieee80211RxReorderReady t j = true)
    (hw : skipped ≠ 0 ∧ t.timedOut k jiffies j = false) :
    timeoutLoop k jiffies index (fuel + 1) j skipped t = some (.setReleaseTimer j, t, []) := by
  simp only [timeoutLoop, if_neg hj, hr, if_pos hw]
  rfl

theorem timeoutLoop_release (fuel : Nat) {skipped index j : Nat} (hj : j ≠ index)
    (hr : ieee80211RxReorderReady t j = true)
    (hw : ¬(skipped ≠ 0 ∧ t.timedOut k jiffies j = false)) {buf : Nat → List Skb}
    (hp : purgeBetween t.bufSize j t.bufSize ((index + 1) % t.bufSize) t.reorderBuf = some buf)
    {t' : TidAmpduRx} {out : List Skb}
    (ht' : (t', out) = ieee80211ReleaseReorderFrame k { t with reorderBuf := buf } j) :
    timeoutLoop k jiffies index (fuel + 1) j skipped t =
      (timeoutLoop k jiffies index fuel ((j + 1) % t'.bufSize) 0
        { t' with headSeqNum := (t'.headSeqNum + skipped) % 4096 }).map
          fun r => (r.1, r.2.1, out ++ r.2.2) := by
  simp only [timeoutLoop, if_neg hj, hr, if_neg hw, hp, ← ht']
  cases timeoutLoop k jiffies index fuel ((j + 1) % t'.bufSize) 0
    { t' with headSeqNum := (t'.headSeqNum + skipped) % 4096 } <;> rfl

/-- **The loop over timed-out slots ends and keeps the invariant.** -/
theorem timeoutLoop_spec (h : Inv t₀) (hok : TimeoutOk k t₀ jiffies)
    (h0 : t₀.storedMpduNum ≠ 0) :
    ∀ (fuel d r : Nat) {t : TidAmpduRx}, Skipping t₀ t d r → 1 ≤ d →
    d + fuel = t₀.bufSize + 1 → 0 < fuel →
    ∃ e t' out, timeoutLoop k jiffies (t₀.headSeqNum % t₀.bufSize) fuel (t₀.slotAfter d) (d - r) t =
      some (e, t', out) ∧ Inv t' ∧ Shrunk t₀ t'
  | 0, _, _, _, _, _, _, hpos => absurd hpos (Nat.lt_irrefl 0)
  | fuel + 1, d, r, t, hs, hd1, hf, _ => by
    have hsize : t.bufSize = t₀.bufSize := hs.shrunk.size
    by_cases hend : d = t₀.bufSize
    · have hidx : t₀.slotAfter d = t₀.headSeqNum % t₀.bufSize := by
        unfold TidAmpduRx.slotAfter
        rw [hend, Nat.add_mod_right, Nat.mod_mod]
      rw [hidx]
      exact ⟨_, _, _, timeoutLoop_end k fuel _ _, hs.inv h, hs.shrunk⟩
    · have hlt : d < t₀.bufSize := by omega
      have hj : t₀.slotAfter d ≠ t₀.headSeqNum % t₀.bufSize := by
        rw [← slotAfter_zero]
        intro he
        have := slotAfter_inj hlt h.size_pos he
        omega
      cases hr : ieee80211RxReorderReady t (t₀.slotAfter d) with
      | false =>
        obtain ⟨e, t', out, hl, hi, hsh⟩ :=
          timeoutLoop_spec h hok h0 fuel (d + 1) r (hs.skip hr) (by omega) (by omega) (by omega)
        refine ⟨e, t', out, ?_, hi, hsh⟩
        have hsub : d + 1 - r = d - r + 1 := by have := hs.le; omega
        rw [timeoutLoop_skip k fuel _ hj hr, hsize, slotAfter_next, ← hsub]
        exact hl
      | true =>
        by_cases hw : d - r ≠ 0 ∧ t.timedOut k jiffies (t₀.slotAfter d) = false
        · exact ⟨_, _, _, timeoutLoop_wait k fuel hj hr hw, hs.inv h, hs.shrunk⟩
        · -- the first release needs the condition, the later ones inherit it
          have hfree : t₀.reorderBuf (t₀.headSeqNum % t₀.bufSize) = [] ∧ Aligned t₀ := by
            rcases Nat.eq_zero_or_pos r with hr0 | hpos
            · have ht := hs.first hr0
              subst ht
              have hto : t.timedOut k jiffies (t.slotAfter d) = true := by
                cases hb : t.timedOut k jiffies (t.slotAfter d) with
                | true => rfl
                | false => exact absurd ⟨by omega, hb⟩ hw
              exact hok h0 d hd1 hlt (hs.waiting hr0) hr hto
            · exact hs.free hpos
          obtain ⟨buf, hp, hin, hout⟩ := purgeBetween_spec t₀ hlt t₀.bufSize 1 t.reorderBuf hd1
            (by omega)
          have hp' : purgeBetween t.bufSize (t₀.slotAfter d) t.bufSize
              ((t₀.headSeqNum % t₀.bufSize + 1) % t.bufSize) t.reorderBuf = some buf := by
            rw [hsize]; exact hp
          obtain ⟨t₁, out₁, h₁⟩ : ∃ t₁ out₁, (t₁, out₁) = ieee80211ReleaseReorderFrame k
              { t with reorderBuf := buf } (t₀.slotAfter d) := ⟨_, _, rfl⟩
          have hfst : t₁ = (ieee80211ReleaseReorderFrame k { t with reorderBuf := buf }
              (t₀.slotAfter d)).1 := congrArg Prod.fst h₁
          have hs' := hs.release h hlt hin hout k hfree hfst
          have hnext : (t₀.slotAfter d + 1) % t₁.bufSize = t₀.slotAfter (d + 1) := by
            rw [show t₁.bufSize = t₀.bufSize from hs'.shrunk.size, slotAfter_next]
          obtain ⟨e, t', out, hl, hi, hsh⟩ :=
            timeoutLoop_spec h hok h0 fuel (d + 1) (d + 1) hs' (by omega) (by omega) (by omega)
          refine ⟨e, t', out₁ ++ out, ?_, hi, hsh⟩
          rw [Nat.sub_self] at hl
          rw [timeoutLoop_release k fuel hj hr hw hp' h₁, hnext, hl]
          rfl

end loop

end Mac80211
