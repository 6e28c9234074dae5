import Wifi.Lib.Runs
import Wifi.Net80211.AmpduRx

/-!
# Representation invariant of a receive block-ack session

* `Accounted` — the counters agree with the queues; every function that takes frames out of a
  slot keeps it (`Accounted.drain`).
* `ampduRxDispatchLoop_spec`, `ampduRxFlushLoop_spec`, `ampduRxFlushUptoLoop_spec`,
  `ampduRxMoveup_spec` — what each loop leaves in the queues and what it dispatches.
* `Window` — the frames in slot `i` have sequence number `rxa_start + i`, and slot `0` and the
  slots past the window are empty.  `ampduRxDispatch_spec`, `ampduRxFlushUpto_spec`,
  `ampduRxFlush_spec` and `ampduRxAddSlot_spec` — each operation keeps it and trips no `KASSERT`.
-/

namespace Net80211

open Slots

/-! ## Counters -/

theorem wrap32_sub (x y : Int) : wrap32 (wrap32 x - y) = wrap32 (x - y) := by
  simp only [wrap32, Int.bmod]; omega

theorem wrap32_add (x y : Int) : wrap32 (wrap32 x + y) = wrap32 (x + y) := by
  simp only [wrap32, Int.bmod]; omega

theorem wrap16_sub (x y : Int) : wrap16 (wrap16 x - y) = wrap16 (x - y) := by
  simp only [wrap16, Int.bmod]; omega

theorem wrap16_add (x y : Int) : wrap16 (wrap16 x + y) = wrap16 (x + y) := by
  simp only [wrap16, Int.bmod]; omega

theorem wrap16_of_range {x : Int} (h0 : 0 ≤ x) (h1 : x < 2 ^ 15) : wrap16 x = x := by
  simp only [wrap16, Int.bmod]; omega

theorem wrap32_of_range {x : Int} (h0 : 0 ≤ x) (h1 : x < 2 ^ 31) : wrap32 x = x := by
  simp only [wrap32, Int.bmod]; omega

/-- The session without its queues and counters. -/
def RxAmpdu.bare (rap : RxAmpdu) : RxAmpdu :=
  { rap with rxaQbytes := 0, rxaQframes := 0, rxaMq := fun _ => [] }

theorem bare_uncharge (ms : List Mbuf) (rap : RxAmpdu) :
    (ms.foldl RxAmpdu.uncharge rap).bare = rap.bare := by
  induction ms generalizing rap with
  | nil => rfl
  | cons m ms ih => rw [List.foldl_cons, ih]; rfl

theorem bare_drain (rap : RxAmpdu) (i : Nat) : (rap.drain i).bare = rap.bare :=
  bare_uncharge (rap.rxaMq i) rap

@[simp] theorem drain_rxaMq (rap : RxAmpdu) (i : Nat) :
    (rap.drain i).rxaMq = clear rap.rxaMq i := rfl

section bare

variable {rap rap' : RxAmpdu} (h : rap'.bare = rap.bare)
include h

theorem bare_start : rap'.rxaStart = rap.rxaStart :=
  (congrArg RxAmpdu.rxaStart h : rap'.bare.rxaStart = _)
theorem bare_wnd : rap'.rxaWnd = rap.rxaWnd :=
  (congrArg RxAmpdu.rxaWnd h : rap'.bare.rxaWnd = _)
theorem bare_running : rap'.running = rap.running :=
  (congrArg RxAmpdu.running h : rap'.bare.running = _)
theorem bare_xchgpend : rap'.xchgpend = rap.xchgpend :=
  (congrArg RxAmpdu.xchgpend h : rap'.bare.xchgpend = _)
theorem bare_waitrx : rap'.waitrx = rap.waitrx :=
  (congrArg RxAmpdu.waitrx h : rap'.bare.waitrx = _)

end bare

/-- `rxa_qframes` and `rxa_qbytes` agree with the queues, and no queue exceeds its limit. -/
structure Accounted (rap : RxAmpdu) : Prop where
  wnd_le : rap.rxaWnd ≤ IEEE80211_AGGR_BAWMAX
  len_le : ∀ i, (rap.rxaMq i).length ≤ mqMaxlen
  qframes : rap.rxaQframes = wrap16 (count rap.rxaMq rap.rxaWnd)
  qbytes : rap.rxaQbytes = wrap32 (total Mbuf.pktLen rap.rxaMq rap.rxaWnd)

theorem Accounted.qframes_eq {rap : RxAmpdu} (h : Accounted rap) :
    rap.rxaQframes = count rap.rxaMq rap.rxaWnd := by
  have hw : (rap.rxaWnd : Int) ≤ 64 := by exact_mod_cast h.wnd_le
  have hc := count_le (n := rap.rxaWnd) fun i _ => h.len_le i
  have hb : (rap.rxaWnd : Int) * (mqMaxlen : Nat) ≤ 64 * 256 :=
    Int.mul_le_mul hw (le_refl _) (by decide) (by decide)
  rw [h.qframes]
  exact wrap16_of_range (count_nonneg _ _) (by omega)

theorem Accounted.empty {rap : RxAmpdu} (h : Accounted rap) (h0 : rap.rxaQframes = 0) :
    ∀ i < rap.rxaWnd, rap.rxaMq i = [] :=
  count_eq_zero.1 (h.qframes_eq ▸ h0)

theorem Accounted.qframes_zero {rap : RxAmpdu} (h : Accounted rap)
    (he : ∀ i < rap.rxaWnd, rap.rxaMq i = []) : rap.rxaQframes = 0 := by
  rw [h.qframes_eq, count_eq_zero.2 he]

theorem Accounted.qbytes_zero {rap : RxAmpdu} (h : Accounted rap)
    (he : ∀ i < rap.rxaWnd, rap.rxaMq i = []) : rap.rxaQbytes = 0 := by
  rw [h.qbytes, total_empty _ he]; rfl

theorem uncharge_counters (ms : List Mbuf) {rap : RxAmpdu} {n b : Int}
    (hn : rap.rxaQframes = wrap16 n) (hb : rap.rxaQbytes = wrap32 b) :
    (ms.foldl RxAmpdu.uncharge rap).rxaQframes = wrap16 (n - ms.length) ∧
      (ms.foldl RxAmpdu.uncharge rap).rxaQbytes = wrap32 (b - weight Mbuf.pktLen ms) := by
  induction ms generalizing rap n b with
  | nil => simpa using ⟨hn, hb⟩
  | cons m ms ih =>
    have hn' : (rap.uncharge m).rxaQframes = wrap16 (n - 1) := by
      show wrap16 (rap.rxaQframes - 1) = _
      rw [hn, wrap16_sub]
    have hb' : (rap.uncharge m).rxaQbytes = wrap32 (b - m.pktLen) := by
      show wrap32 (rap.rxaQbytes - m.pktLen) = _
      rw [hb, wrap32_sub]
    have hw : weight Mbuf.pktLen (m :: ms) = m.pktLen + weight Mbuf.pktLen ms := by simp [weight]
    obtain ⟨h1, h2⟩ := ih hn' hb'
    rw [List.foldl_cons, h1, h2, hw, List.length_cons]
    refine ⟨congrArg wrap16 ?_, congrArg wrap32 ?_⟩
    · push_cast; ring
    · ring

/-- **Taking the frames out of a slot keeps the counters right.** -/
theorem Accounted.drain {rap : RxAmpdu} (h : Accounted rap) {i : Nat} (hi : i < rap.rxaWnd) :
    Accounted (rap.drain i) := by
  have hw : (rap.drain i).rxaWnd = rap.rxaWnd := bare_wnd (bare_drain rap i)
  obtain ⟨h1, h2⟩ := uncharge_counters (rap.rxaMq i) h.qframes h.qbytes
  refine ⟨by rw [hw]; exact h.wnd_le, fun j => ?_, ?_, ?_⟩
  · rw [drain_rxaMq]
    by_cases hj : j = i
    · rw [hj, clear_self]; exact Nat.zero_le _
    · rw [clear_ne _ hj]; exact h.len_le j
  · rw [hw, drain_rxaMq, count, total_clear _ _ hi, weight_one]
    exact h1
  · rw [hw, drain_rxaMq, total_clear _ _ hi]
    exact h2

/-! ## Loops -/

/-- The frames a run over the slots `a, …, b - 1` dispatches. -/
def dispatched (mq : Nat → List Mbuf) (a b : Nat) : List Mbuf := (items mq a b).map ampduDispatch

theorem dispatched_step (mq : Nat → List Mbuf) {a b : Nat} (h : a < b) :
    dispatched mq a b = (mq a).map ampduDispatch ++ dispatched (clear mq a) (a + 1) b := by
  rw [dispatched, dispatched, items_step mq h, items_clear, List.map_append]

theorem ampduRxPurgeLoop_succ (k i : Nat) (rap : RxAmpdu) :
    ampduRxPurgeLoop (k + 1) i rap =
      if (rap.drain i).rxaQframes = 0 then rap.drain i
      else ampduRxPurgeLoop k (i + 1) (rap.drain i) := rfl

theorem ampduRxDispatchLoop_succ (k i : Nat) (rap : RxAmpdu) :
    ampduRxDispatchLoop (k + 1) i rap =
      if rap.rxaMq i = [] then (rap.drain i, i, [])
      else ((ampduRxDispatchLoop k (i + 1) (rap.drain i)).1,
        (ampduRxDispatchLoop k (i + 1) (rap.drain i)).2.1,
        (rap.rxaMq i).map ampduDispatch ++ (ampduRxDispatchLoop k (i + 1) (rap.drain i)).2.2) := by
  by_cases h : rap.rxaMq i = [] <;> simp [ampduRxDispatchLoop, ampduDispatchSlot, h]

theorem ampduRxFlushLoop_succ (k i : Nat) (rap : RxAmpdu) :
    ampduRxFlushLoop (k + 1) i rap =
      if rap.rxaMq i = [] then ampduRxFlushLoop k (i + 1) (rap.drain i)
      else if (rap.drain i).rxaQframes = 0 then (rap.drain i, (rap.rxaMq i).map ampduDispatch)
      else ((ampduRxFlushLoop k (i + 1) (rap.drain i)).1,
        (rap.rxaMq i).map ampduDispatch ++ (ampduRxFlushLoop k (i + 1) (rap.drain i)).2) := by
  by_cases h : rap.rxaMq i = []
  · simp [ampduRxFlushLoop, ampduDispatchSlot, h]
  · simp [ampduRxFlushLoop, ampduDispatchSlot, h]; rfl

theorem ampduRxPurgeLoop_spec : ∀ (k i : Nat) (rap : RxAmpdu), Accounted rap →
    i + k = rap.rxaWnd → (∀ j < i, rap.rxaMq j = []) →
    (ampduRxPurgeLoop k i rap).bare = rap.bare ∧ Accounted (ampduRxPurgeLoop k i rap) ∧
      (∀ j < rap.rxaWnd, (ampduRxPurgeLoop k i rap).rxaMq j = []) ∧
      (∀ j, rap.rxaWnd ≤ j → (ampduRxPurgeLoop k i rap).rxaMq j = rap.rxaMq j)
  | 0, i, rap, hacc, hk, hlow => ⟨rfl, hacc, fun j hj => hlow j (by omega), fun _ _ => rfl⟩
  | k + 1, i, rap, hacc, hk, hlow => by
    have hb := bare_drain rap i
    have hw := bare_wnd hb
    have hacc' := hacc.drain (i := i) (by omega)
    have hlow' : ∀ j < i + 1, (rap.drain i).rxaMq j = [] := fun j hj => by
      rw [drain_rxaMq]
      by_cases hji : j = i
      · rw [hji, clear_self]
      · rw [clear_ne _ hji]; exact hlow j (by omega)
    have hhigh : ∀ j, rap.rxaWnd ≤ j → (rap.drain i).rxaMq j = rap.rxaMq j := fun j hj => by
      rw [drain_rxaMq, clear_ne _ (by omega)]
    rw [ampduRxPurgeLoop_succ]
    by_cases h0 : (rap.drain i).rxaQframes = 0
    · rw [if_pos h0]
      exact ⟨hb, hacc', fun j hj => hacc'.empty h0 j (by omega), hhigh⟩
    · rw [if_neg h0]
      obtain ⟨h1, h2, h3, h4⟩ := ampduRxPurgeLoop_spec k (i + 1) (rap.drain i) hacc' (by omega) hlow'
      rw [hw] at h3 h4
      exact ⟨h1.trans hb, h2, h3, fun j hj => (h4 j hj).trans (hhigh j hj)⟩

/-- **The purge loses nothing**: its `KASSERT` holds and the window is empty. -/
theorem ampduRxPurge_spec {rap : RxAmpdu} (hacc : Accounted rap) :
    ∃ rap', ampduRxPurge rap = .ok rap' ∧ rap'.bare = rap.bare ∧ Accounted rap' ∧
      (∀ j < rap.rxaWnd, rap'.rxaMq j = []) ∧
      (∀ j, rap.rxaWnd ≤ j → rap'.rxaMq j = rap.rxaMq j) := by
  obtain ⟨h1, h2, h3, h4⟩ := ampduRxPurgeLoop_spec rap.rxaWnd 0 rap hacc (by omega)
    (fun _ hj => absurd hj (Nat.not_lt_zero _))
  have he : ∀ j < (ampduRxPurgeLoop rap.rxaWnd 0 rap).rxaWnd,
      (ampduRxPurgeLoop rap.rxaWnd 0 rap).rxaMq j = [] := by
    rw [bare_wnd h1]; exact h3
  refine ⟨_, ?_, h1, h2, h3, h4⟩
  simp only [ampduRxPurge]
  rw [if_pos ⟨h2.qbytes_zero he, h2.qframes_zero he⟩]

theorem ampduRxDispatchLoop_spec : ∀ (k i : Nat) (rap rap' : RxAmpdu) (i' : Nat)
    (out : List Mbuf), Accounted rap → i + k ≤ rap.rxaWnd →
    ampduRxDispatchLoop k i rap = (rap', i', out) →
    rap'.bare = rap.bare ∧ Accounted rap' ∧ i ≤ i' ∧ i' ≤ i + k ∧
      rap'.rxaMq = clearRange rap.rxaMq i i' ∧ (i' < i + k → rap.rxaMq i' = []) ∧
      out = dispatched rap.rxaMq i i'
  | 0, i, rap, rap', i', out, hacc, hk, h => by
    simp only [ampduRxDispatchLoop, Prod.mk.injEq] at h
    obtain ⟨rfl, rfl, rfl⟩ := h
    exact ⟨rfl, hacc, le_refl _, le_refl _, by simp, fun h => absurd h (by omega),
      by simp [dispatched]⟩
  | k + 1, i, rap, rap', i', out, hacc, hk, h => by
    have hb := bare_drain rap i
    rw [ampduRxDispatchLoop_succ] at h
    by_cases hi : rap.rxaMq i = []
    · rw [if_pos hi] at h
      simp only [Prod.mk.injEq] at h
      obtain ⟨rfl, rfl, rfl⟩ := h
      exact ⟨hb, hacc.drain (by omega), le_refl _, by omega,
        by rw [drain_rxaMq, clear_of_empty hi, clearRange_self], fun _ => hi,
        by simp [dispatched]⟩
    · rw [if_neg hi] at h
      rcases hr : ampduRxDispatchLoop k (i + 1) (rap.drain i) with ⟨r, j, o⟩
      rw [hr] at h
      simp only [Prod.mk.injEq] at h
      obtain ⟨rfl, rfl, rfl⟩ := h
      obtain ⟨h1, h2, h3, h4, h5, h6, h7⟩ := ampduRxDispatchLoop_spec k (i + 1) _ _ _ _
        (hacc.drain (by omega)) (by rw [bare_wnd hb]; omega) hr
      refine ⟨h1.trans hb, h2, by omega, by omega, ?_, fun hj => ?_, ?_⟩
      · rw [h5, drain_rxaMq, clearRange_clear _ (by omega)]
      · have := h6 (by omega)
        rwa [drain_rxaMq, clear_ne _ (by omega)] at this
      · rw [h7, drain_rxaMq, ← dispatched_step _ (by omega)]

theorem ampduRxFlushLoop_spec : ∀ (k i : Nat) (rap rap' : RxAmpdu) (out : List Mbuf),
    Accounted rap → i + k = rap.rxaWnd → (∀ j < i, rap.rxaMq j = []) →
    ampduRxFlushLoop k i rap = (rap', out) →
    rap'.bare = rap.bare ∧ Accounted rap' ∧ rap'.rxaMq = clearRange rap.rxaMq i (i + k) ∧
      out = dispatched rap.rxaMq i (i + k)
  | 0, i, rap, rap', out, hacc, hk, hlow, h => by
    simp only [ampduRxFlushLoop, Prod.mk.injEq] at h
    obtain ⟨rfl, rfl⟩ := h
    exact ⟨rfl, hacc, by simp, by simp [dispatched]⟩
  | k + 1, i, rap, rap', out, hacc, hk, hlow, h => by
    have hb := bare_drain rap i
    have hacc' := hacc.drain (i := i) (by omega)
    have hlow' : ∀ j < i + 1, (rap.drain i).rxaMq j = [] := fun j hj => by
      rw [drain_rxaMq]
      by_cases hji : j = i
      · rw [hji, clear_self]
      · rw [clear_ne _ hji]; exact hlow j (by omega)
    have hrec : ∀ r o, ampduRxFlushLoop k (i + 1) (rap.drain i) = (r, o) →
        r.bare = rap.bare ∧ Accounted r ∧ r.rxaMq = clearRange rap.rxaMq i (i + (k + 1)) ∧
          (rap.rxaMq i).map ampduDispatch ++ o = dispatched rap.rxaMq i (i + (k + 1)) := by
      intro r o hr
      obtain ⟨h1, h2, h3, h4⟩ := ampduRxFlushLoop_spec k (i + 1) _ _ _ hacc'
        (by rw [bare_wnd hb]; omega) hlow' hr
      have e : i + 1 + k = i + (k + 1) := by omega
      rw [e, drain_rxaMq] at h3 h4
      exact ⟨h1.trans hb, h2, by rw [h3, clearRange_clear _ (by omega)],
        by rw [h4, ← dispatched_step _ (by omega)]⟩
    rw [ampduRxFlushLoop_succ] at h
    by_cases hi : rap.rxaMq i = []
    · rw [if_pos hi] at h
      obtain ⟨h1, h2, h3, h4⟩ := hrec _ _ h
      exact ⟨h1, h2, h3, by rw [← h4, hi]; rfl⟩
    · rw [if_neg hi] at h
      by_cases h0 : (rap.drain i).rxaQframes = 0
      · rw [if_pos h0] at h
        simp only [Prod.mk.injEq] at h
        obtain ⟨rfl, rfl⟩ := h
        -- nothing is left: the slots that are not visited are empty
        have hrest : ∀ j, i + 1 ≤ j → j < i + (k + 1) → rap.rxaMq j = [] := fun j hj hj' => by
          have := hacc'.empty h0 j (by rw [bare_wnd hb]; omega)
          rwa [drain_rxaMq, clear_ne _ (by omega)] at this
        refine ⟨hb, hacc', ?_, ?_⟩
        · funext j
          rw [drain_rxaMq, clearRange]
          by_cases hji : j = i
          · rw [hji, clear_self, if_pos (by omega)]
          · rw [clear_ne _ hji]
            split
            · exact hrest j (by omega) (by omega)
            · rfl
        · rw [dispatched_step _ (by omega), dispatched, items_clear, items_eq_nil hrest]
          simp
      · rw [if_neg h0] at h
        rcases hr : ampduRxFlushLoop k (i + 1) (rap.drain i) with ⟨r, o⟩
        rw [hr] at h
        simp only [Prod.mk.injEq] at h
        obtain ⟨rfl, rfl⟩ := h
        exact hrec _ _ hr

theorem ampduRxFlushUptoLoop_spec (winstart : Nat) : ∀ (k i seqno : Nat) (rap rap' : RxAmpdu)
    (i' seqno' : Nat) (out : List Mbuf), Accounted rap → i + k ≤ rap.rxaWnd → seqno < 4096 →
    ampduRxFlushUptoLoop winstart k i seqno rap = (rap', i', seqno', out) →
    rap'.bare = rap.bare ∧ Accounted rap' ∧ i ≤ i' ∧ i' ≤ i + k ∧
      seqno' = seqAdd seqno (i' - i) ∧ rap'.rxaMq = clearRange rap.rxaMq i i' ∧
      (i' < i + k → rap.rxaMq i' = [] ∧ ¬ seqBaBefore seqno' winstart) ∧
      out = dispatched rap.rxaMq i i'
  | 0, i, seqno, rap, rap', i', seqno', out, hacc, hk, hs, h => by
    simp only [ampduRxFlushUptoLoop, Prod.mk.injEq] at h
    obtain ⟨rfl, rfl, rfl, rfl⟩ := h
    exact ⟨rfl, hacc, le_refl _, le_refl _, by simp; omega, by simp,
      fun h => absurd h (by omega), by simp [dispatched]⟩
  | k + 1, i, seqno, rap, rap', i', seqno', out, hacc, hk, hs, h => by
    have hb := bare_drain rap i
    have hs' : seqInc seqno < 4096 := by simp; omega
    have hseq : ∀ j, i + 1 ≤ j → seqAdd (seqInc seqno) (j - (i + 1)) = seqAdd seqno (j - i) := by
      intro j hj; simp only [seqInc, seqAdd]; omega
    simp only [ampduRxFlushUptoLoop, ampduDispatchSlot] at h
    split at h
    · rcases hr : ampduRxFlushUptoLoop winstart k (i + 1) (seqInc seqno) (rap.drain i) with
        ⟨r, j, q, o⟩
      rw [hr] at h
      simp only [Prod.mk.injEq] at h
      obtain ⟨rfl, rfl, rfl, rfl⟩ := h
      obtain ⟨h1, h2, h3, h4, h5, h6, h7, h8⟩ := ampduRxFlushUptoLoop_spec winstart k (i + 1) _ _ _
        _ _ _ (hacc.drain (by omega)) (by rw [bare_wnd hb]; omega) hs' hr
      refine ⟨h1.trans hb, h2, by omega, by omega, by rw [h5, hseq _ h3], ?_, fun hj => ?_, ?_⟩
      · rw [h6, drain_rxaMq, clearRange_clear _ (by omega)]
      · obtain ⟨h9, h10⟩ := h7 (by omega)
        rw [drain_rxaMq, clear_ne _ (by omega)] at h9
        exact ⟨h9, h10⟩
      · rw [h8, drain_rxaMq, ← dispatched_step _ (by omega)]
    · rename_i hnil
      have hi : rap.rxaMq i = [] := by simpa using hnil
      split at h
      · rename_i hbef
        simp only [Prod.mk.injEq] at h
        obtain ⟨rfl, rfl, rfl, rfl⟩ := h
        exact ⟨rfl, hacc, le_refl _, by omega, by simp; omega, by simp, fun _ => ⟨hi, hbef⟩,
          by simp [dispatched]⟩
      · obtain ⟨h1, h2, h3, h4, h5, h6, h7, h8⟩ := ampduRxFlushUptoLoop_spec winstart k (i + 1) _ _
          _ _ _ _ hacc (by omega) hs' h
        refine ⟨h1, h2, by omega, by omega, by rw [h5, hseq _ h3], ?_, fun hj => h7 (by omega), ?_⟩
        · rw [h6, ← clearRange_clear _ (by omega : i < i'), clear_of_empty hi]
        · rw [h8, dispatched_step _ (by omega : i < i'), hi, clear_of_empty hi]; rfl

/-! ## Moving the window -/

/-- The queues while `ampdu_rx_moveup` is at slot `j`: what was below `j` has moved down by `i`. -/
def movedUp (mq : Nat → List Mbuf) (i j t : Nat) : List Mbuf :=
  if t + i < j then mq (t + i) else if t < j then [] else mq t

theorem movedUp_step (mq : Nat → List Mbuf) {i j : Nat} (hi : 0 < i) (hij : i ≤ j) :
    clear (put (movedUp mq i j) (j - i) (mq j)) j = movedUp mq i (j + 1) := by
  funext t
  by_cases htj : t = j
  · subst htj
    rw [clear_self, movedUp, if_neg (by omega), if_pos (by omega)]
  · rw [clear_ne _ htj]
    by_cases hdst : t = j - i
    · subst hdst
      have hempty : movedUp mq i j (j - i) = [] := by
        rw [movedUp, if_neg (by omega), if_pos (by omega)]
      have e : j - i + i = j := by omega
      rw [put_self, hempty, movedUp, if_pos (by omega), e]; rfl
    · rw [put_ne _ _ hdst]
      unfold movedUp
      by_cases h1 : t + i < j
      · rw [if_pos h1, if_pos (by omega)]
      · rw [if_neg h1, if_neg (show ¬ t + i < j + 1 by omega)]
        by_cases h2 : t < j
        · rw [if_pos h2, if_pos (by omega)]
        · rw [if_neg h2, if_neg (by omega)]

theorem movedUp_step_empty (mq : Nat → List Mbuf) {i j : Nat} (hi : 0 < i)
    (h : mq j = []) : movedUp mq i j = movedUp mq i (j + 1) := by
  funext t
  unfold movedUp
  by_cases h1 : t + i < j
  · rw [if_pos h1, if_pos (by omega)]
  · rw [if_neg h1]
    by_cases h2 : t + i < j + 1
    · have e : t + i = j := by omega
      rw [if_pos h2, if_pos (by omega), e, h]
    · rw [if_neg h2]
      by_cases h3 : t < j
      · rw [if_pos h3, if_pos (by omega)]
      · rw [if_neg h3]
        by_cases h4 : t < j + 1
        · have e : t = j := by omega
          rw [if_pos h4, e, h]
        · rw [if_neg h4]

theorem movedUp_rest (mq : Nat → List Mbuf) {i j n : Nat} (hi : 0 < i) (hjn : j ≤ n)
    (h : ∀ t, j ≤ t → t < n → mq t = []) : movedUp mq i j = movedUp mq i n := by
  induction n, hjn using Nat.le_induction with
  | base => rfl
  | succ n hn ih =>
    rw [ih fun t h1 h2 => h t h1 (by omega), movedUp_step_empty mq hi (h n hn (by omega))]

theorem ampduRxMoveupLoop_spec (mq : Nat → List Mbuf) {i wnd : Nat} (hi : 0 < i) :
    ∀ (k j : Nat) (n : Int), j + k = wnd → i < j → n = count mq wnd - count mq j →
      ampduRxMoveupLoop i k j n (movedUp mq i j) = .ok (0, movedUp mq i wnd)
  | 0, j, n, hk, hij, hn => by
    have e : j = wnd := by omega
    subst e
    simp only [ampduRxMoveupLoop]
    rw [show n = 0 by omega]
  | k + 1, j, n, hk, hij, hn => by
    have hsucc := count_succ mq j
    have hmono := count_mono mq (show j + 1 ≤ wnd by omega)
    have hself : movedUp mq i j j = mq j := by
      rw [movedUp, if_neg (by omega), if_neg (by omega)]
    simp only [ampduRxMoveupLoop, hself]
    split
    · rw [movedUp_step mq hi (by omega), if_neg (by omega)]
      split
      · rename_i h0
        have hrest := movedUp_rest mq hi (show j + 1 ≤ wnd by omega)
          fun t h1 h2 => empty_of_count_eq (show count mq (j + 1) = count mq wnd by omega) h1 h2
        rw [h0, hrest]
      · exact ampduRxMoveupLoop_spec mq hi k (j + 1) _ (by omega) (by omega) (by omega)
    · rename_i hnil
      have hj : mq j = [] := by simpa using hnil
      rw [movedUp_step_empty mq hi hj]
      have hc : count mq (j + 1) = count mq j := by rw [hsucc, hj]; simp
      exact ampduRxMoveupLoop_spec mq hi k (j + 1) n (by omega) (by omega) (by omega)

theorem movedUp_wnd (mq : Nat → List Mbuf) {i wnd : Nat} (hbeyond : ∀ t, wnd ≤ t → mq t = []) :
    movedUp mq i wnd = shift mq i wnd := by
  funext t
  unfold movedUp shift
  split
  · rfl
  · split
    · rfl
    · exact hbeyond t (by omega)

theorem movedUp_start (mq : Nat → List Mbuf) {i : Nat} (h : ∀ t ≤ i, mq t = []) :
    movedUp mq i (i + 1) = mq := by
  funext t
  unfold movedUp
  by_cases h1 : t + i < i + 1
  · have e : t = 0 := by omega
    rw [if_pos h1, e, h _ (by omega), h _ (by omega)]
  · rw [if_neg h1]
    by_cases h2 : t < i + 1
    · rw [if_pos h2, h _ (by omega)]
    · rw [if_neg h2]

/-- **`ampdu_rx_moveup` shifts the window and loses no frame**: its `KASSERT`s hold. -/
theorem ampduRxMoveup_spec {rap : RxAmpdu} (hacc : Accounted rap) {i : Nat} (hi : 0 < i)
    (hlow : ∀ t ≤ i, rap.rxaMq t = []) (hbeyond : ∀ t, rap.rxaWnd ≤ t → rap.rxaMq t = []) :
    ∃ rap', ampduRxMoveup rap i = .ok rap' ∧ rap'.bare = rap.bare ∧ Accounted rap' ∧
      rap'.rxaMq = shift rap.rxaMq i rap.rxaWnd := by
  by_cases h0 : rap.rxaQframes = 0
  · have hall : rap.rxaMq = fun _ => [] := by
      funext t
      by_cases ht : t < rap.rxaWnd
      · exact hacc.empty h0 t ht
      · exact hbeyond t (by omega)
    refine ⟨rap, by simp [ampduRxMoveup, h0], rfl, hacc, ?_⟩
    funext t
    rw [hall, shift]
    split <;> rfl
  · have hiw : i < rap.rxaWnd := by
      by_contra hge
      exact h0 (hacc.qframes_zero fun t ht => hlow t (by omega))
    have hcount : count rap.rxaMq (i + 1) = 0 := count_eq_zero.2 fun t ht => hlow t (by omega)
    have hn : rap.rxaQframes = count rap.rxaMq rap.rxaWnd - count rap.rxaMq (i + 1) := by
      rw [hcount, hacc.qframes_eq]; ring
    have hloop := ampduRxMoveupLoop_spec rap.rxaMq hi (rap.rxaWnd - (i + 1)) (i + 1) _
      (by omega) (by omega) hn
    rw [movedUp_start _ hlow, movedUp_wnd _ hbeyond] at hloop
    have htot : ∀ w : Mbuf → Int, total w (shift rap.rxaMq i rap.rxaWnd) rap.rxaWnd =
        total w rap.rxaMq rap.rxaWnd := fun w => total_shift w fun t ht => hlow t (by omega)
    refine ⟨{ rap with rxaMq := shift rap.rxaMq i rap.rxaWnd }, ?_, rfl,
      ⟨hacc.wnd_le, fun t => ?_, ?_, ?_⟩, rfl⟩
    · simp [ampduRxMoveup, h0, hloop]
    · show (shift rap.rxaMq i rap.rxaWnd t).length ≤ _
      rw [shift]
      split
      · exact hacc.len_le _
      · exact Nat.zero_le _
    · show rap.rxaQframes = wrap16 (count (shift rap.rxaMq i rap.rxaWnd) rap.rxaWnd)
      rw [count, htot]
      exact hacc.qframes
    · show rap.rxaQbytes = wrap32 (total _ (shift rap.rxaMq i rap.rxaWnd) rap.rxaWnd)
      rw [htot]
      exact hacc.qbytes

/-! ## The window -/

/-- What the queues of a session represent: slot `i` holds frames of sequence number
    `rxa_start + i`, and only the slots `1, …, rxa_wnd - 1` hold any. -/
structure Window (rap : RxAmpdu) : Prop extends Accounted rap where
  start_lt : rap.rxaStart < 4096
  slot0 : rap.rxaMq 0 = []
  beyond : ∀ i, rap.rxaWnd ≤ i → rap.rxaMq i = []
  seqs : ∀ i, ∀ m ∈ rap.rxaMq i, m.seq = seqAdd rap.rxaStart i

theorem Window.held_lt {rap : RxAmpdu} (h : Window rap) {i : Nat} {m : Mbuf}
    (hm : m ∈ rap.rxaMq i) : i < rap.rxaWnd := by
  by_contra hge
  rw [h.beyond i (by omega)] at hm
  cases hm

theorem Window.held_pos {rap : RxAmpdu} (h : Window rap) {i : Nat} {m : Mbuf}
    (hm : m ∈ rap.rxaMq i) : 0 < i := by
  rcases Nat.eq_zero_or_pos i with rfl | hi
  · rw [h.slot0] at hm; cases hm
  · exact hi

theorem Window.of_empty {rap : RxAmpdu} (hw : rap.rxaWnd ≤ IEEE80211_AGGR_BAWMAX)
    (hs : rap.rxaStart < 4096) (hn : rap.rxaQframes = 0) (hb : rap.rxaQbytes = 0)
    (he : ∀ i, rap.rxaMq i = []) : Window rap where
  wnd_le := hw
  len_le i := by rw [he]; exact Nat.zero_le _
  qframes := by rw [hn, count_eq_zero.2 fun i _ => he i]; rfl
  qbytes := by rw [hb, total_empty _ fun i _ => he i]; rfl
  start_lt := hs
  slot0 := he 0
  beyond i _ := he i
  seqs i m hm := by rw [he] at hm; cases hm

/-- The flags and the window size are untouched. -/
structure SameSession (rap rap' : RxAmpdu) : Prop where
  running : rap'.running = rap.running
  xchgpend : rap'.xchgpend = rap.xchgpend
  waitrx : rap'.waitrx = rap.waitrx
  wnd : rap'.rxaWnd = rap.rxaWnd

theorem SameSession.of_bare {rap rap' : RxAmpdu} (h : rap'.bare = rap.bare) :
    SameSession rap rap' :=
  ⟨bare_running h, bare_xchgpend h, bare_waitrx h, bare_wnd h⟩

theorem SameSession.trans {a b c : RxAmpdu} (h1 : SameSession a b) (h2 : SameSession b c) :
    SameSession a c :=
  ⟨h2.running.trans h1.running, h2.xchgpend.trans h1.xchgpend, h2.waitrx.trans h1.waitrx,
    h2.wnd.trans h1.wnd⟩

/-- The window start has moved by `i`, past slots that have been emptied. -/
structure Advanced (rap rap' : RxAmpdu) (i : Nat) : Prop where
  same : SameSession rap rap'
  acc : Accounted rap'
  pos : 0 < i
  le_wnd : i ≤ rap.rxaWnd
  start : rap'.rxaStart = seqAdd rap.rxaStart i
  mq : rap'.rxaMq = shift rap.rxaMq i rap.rxaWnd

theorem Advanced.window {rap rap' : RxAmpdu} {i : Nat} (h : Advanced rap rap' i) (hw : Window rap)
    (hgap : i < rap.rxaWnd → rap.rxaMq i = []) : Window rap' where
  toAccounted := h.acc
  start_lt := by rw [h.start]; simp; omega
  slot0 := by
    rw [h.mq, shift]
    split
    · rw [Nat.zero_add]; exact hgap (by omega)
    · rfl
  beyond t ht := by
    rw [h.mq, shift]
    split
    · rw [h.same.wnd] at ht; omega
    · rfl
  seqs t m hm := by
    rw [h.mq, shift] at hm
    split at hm
    · rw [hw.seqs _ m hm, h.start]; simp; omega
    · cases hm

/-- The common end of `ampdu_rx_dispatch` and `ampdu_rx_flush_upto`: the slots below `i` have been
    emptied, the rest moves down. -/
theorem moveup_advanced {rap rap1 : RxAmpdu} (hw : Window rap) (hb : rap1.bare = rap.bare)
    (hacc : Accounted rap1) {a i : Nat} (ha : a ≤ 1) (hi : 0 < i) (hiw : i ≤ rap.rxaWnd)
    (hmq : rap1.rxaMq = clearRange rap.rxaMq a i) (hgap : i < rap.rxaWnd → rap.rxaMq i = []) :
    ∃ rap2, ampduRxMoveup rap1 i = .ok rap2 ∧
      Advanced rap { rap2 with rxaStart := seqAdd rap.rxaStart i } i := by
  have hwnd := bare_wnd hb
  have hlow : ∀ t ≤ i, rap1.rxaMq t = [] := by
    intro t ht
    rw [hmq, clearRange]
    split
    · rfl
    · by_cases h0 : t = 0
      · rw [h0]; exact hw.slot0
      · have e : t = i := by omega
        by_cases hlt : i < rap.rxaWnd
        · rw [e]; exact hgap hlt
        · exact hw.beyond t (by omega)
  have hbeyond : ∀ t, rap1.rxaWnd ≤ t → rap1.rxaMq t = [] := by
    intro t ht
    rw [hmq, clearRange]
    split
    · rfl
    · exact hw.beyond t (by omega)
  obtain ⟨rap2, hok, hb2, hacc2, hmq2⟩ := ampduRxMoveup_spec hacc hi hlow hbeyond
  have hsame := (SameSession.of_bare hb).trans (SameSession.of_bare hb2)
  refine ⟨rap2, hok, ⟨⟨hsame.running, hsame.xchgpend, hsame.waitrx, hsame.wnd⟩,
    ⟨hacc2.wnd_le, hacc2.len_le, hacc2.qframes, hacc2.qbytes⟩, hi, hiw, rfl, ?_⟩⟩
  show rap2.rxaMq = _
  rw [hmq2, hwnd]
  funext t
  unfold shift
  split
  · rw [hmq, clearRange, if_neg (by omega)]
  · rfl

/-- **`ampdu_rx_dispatch`** empties a run of slots from slot 1 and moves the window past it. -/
theorem ampduRxDispatch_spec {rap : RxAmpdu} (hw : Window rap) (hpos : 0 < rap.rxaWnd) :
    ∃ rap' i, ampduRxDispatch rap = .ok (rap', dispatched rap.rxaMq 1 i) ∧
      Advanced rap rap' i ∧ Window rap' := by
  rcases hl : ampduRxDispatchLoop (rap.rxaWnd - 1) 1 rap with ⟨rap1, i, out⟩
  obtain ⟨h1, h2, h3, h4, h5, h6, h7⟩ := ampduRxDispatchLoop_spec (rap.rxaWnd - 1) 1 rap _ _ _
    hw.toAccounted (by omega) hl
  have hgap : i < rap.rxaWnd → rap.rxaMq i = [] := fun h => h6 (by omega)
  obtain ⟨rap2, hok, hadv⟩ := moveup_advanced hw h1 h2 (le_refl 1) (by omega) (by omega) h5 hgap
  have hs : rap2.rxaStart = rap.rxaStart := by
    simp only [ampduRxMoveup] at hok
    split at hok
    · split at hok
      · cases hok
      · split at hok
        · cases hok; exact bare_start h1
        · cases hok
    · cases hok; exact bare_start h1
  refine ⟨_, i, ?_, hadv, hadv.window hw hgap⟩
  simp only [ampduRxDispatch, hl, hok, h7, hs]

/-- **`ampdu_rx_flush_upto`** empties the slots before the new window start. -/
theorem ampduRxFlushUpto_spec {rap : RxAmpdu} (hw : Window rap) (hpos : 0 < rap.rxaWnd)
    {winstart : Nat} (hbef : seqBaBefore rap.rxaStart winstart) :
    ∃ rap' i, ampduRxFlushUpto rap winstart = .ok (rap', dispatched rap.rxaMq 0 i) ∧
      Advanced rap rap' i ∧ Window rap' ∧
      (i < rap.rxaWnd → ¬ seqBaBefore (seqAdd rap.rxaStart i) winstart) := by
  rcases hl : ampduRxFlushUptoLoop winstart rap.rxaWnd 0 rap.rxaStart rap with ⟨rap1, i, q, out⟩
  obtain ⟨h1, h2, h3, h4, h5, h6, h7, h8⟩ := ampduRxFlushUptoLoop_spec winstart rap.rxaWnd 0
    rap.rxaStart rap _ _ _ _ hw.toAccounted (by omega) hw.start_lt hl
  have hq : q = seqAdd rap.rxaStart i := by rw [h5, Nat.sub_zero]
  have hi : 0 < i := by
    rcases Nat.eq_zero_or_pos i with rfl | hi
    · have hs0 : q = rap.rxaStart := by
        have := hw.start_lt
        rw [hq]; simp; omega
      exact absurd (hs0 ▸ hbef) (h7 (by omega)).2
    · exact hi
  have hgap : i < rap.rxaWnd → rap.rxaMq i = [] := fun h => (h7 (by omega)).1
  obtain ⟨rap2, hok, hadv⟩ := moveup_advanced hw h1 h2 (Nat.zero_le 1) hi (by omega) h6 hgap
  refine ⟨_, i, ?_, hadv, hadv.window hw hgap, fun h => ?_⟩
  · simp only [ampduRxFlushUpto, hl, hok, h8, hq]
  · rw [← hq]; exact (h7 (by omega)).2

/-- **`ampdu_rx_flush`** empties every slot. -/
theorem ampduRxFlush_spec {rap : RxAmpdu} (hw : Window rap) :
    ∃ rap', ampduRxFlush rap = (rap', dispatched rap.rxaMq 0 rap.rxaWnd) ∧
      rap'.bare = rap.bare ∧ Window rap' ∧ ∀ i, rap'.rxaMq i = [] := by
  rcases hl : ampduRxFlushLoop rap.rxaWnd 0 rap with ⟨rap', out⟩
  obtain ⟨h1, h2, h3, h4⟩ := ampduRxFlushLoop_spec rap.rxaWnd 0 rap _ _ hw.toAccounted (by omega)
    (fun _ hj => absurd hj (Nat.not_lt_zero _)) hl
  rw [Nat.zero_add] at h3 h4
  have he : ∀ i, rap'.rxaMq i = [] := by
    intro i
    rw [h3, clearRange]
    split
    · rfl
    · exact hw.beyond i (by omega)
  have hwin : Window rap' := Window.of_empty h2.wnd_le (by rw [bare_start h1]; exact hw.start_lt)
    (h2.qframes_zero fun i _ => he i) (h2.qbytes_zero fun i _ => he i) he
  exact ⟨rap', by rw [ampduRxFlush, hl, h4], h1, hwin, he⟩

theorem ampduRxAddSlot_spec {rap : RxAmpdu} (hw : Window rap) {off : Nat} {m : Mbuf}
    (rxs : Option RxStats) (h0 : 0 < off) (hoff : off < rap.rxaWnd)
    (hm : m.seq = seqAdd rap.rxaStart off) :
    Window (ampduRxAddSlot rap off m rxs) ∧
      SameSession rap (ampduRxAddSlot rap off m rxs) ∧
      (ampduRxAddSlot rap off m rxs).rxaStart = rap.rxaStart := by
  unfold ampduRxAddSlot
  dsimp only
  split
  · split
    · exact ⟨hw, ⟨rfl, rfl, rfl, rfl⟩, rfl⟩
    · rename_i hlen
      refine ⟨⟨⟨hw.wnd_le, fun i => ?_, ?_, ?_⟩, hw.start_lt, ?_, fun i hi => ?_, fun i x hx => ?_⟩,
        ⟨rfl, rfl, rfl, rfl⟩, rfl⟩
      · show (put rap.rxaMq off [m] i).length ≤ mqMaxlen
        by_cases hi : i = off
        · rw [hi, put_self, List.length_append, List.length_singleton]; omega
        · rw [put_ne _ _ hi]; exact hw.len_le i
      · show wrap16 (rap.rxaQframes + 1) = wrap16 (count (put rap.rxaMq off [m]) rap.rxaWnd)
        rw [hw.qframes, wrap16_add, count, count, total_put _ _ _ hoff]
        rfl
      · show wrap32 (rap.rxaQbytes + m.pktLen) = wrap32 (total _ (put rap.rxaMq off [m]) rap.rxaWnd)
        rw [hw.qbytes, wrap32_add, total_put _ _ _ hoff]
        simp [weight]
      · show put rap.rxaMq off [m] 0 = []
        rw [put_ne _ _ (by omega)]; exact hw.slot0
      · show put rap.rxaMq off [m] i = []
        have hi' : rap.rxaWnd ≤ i := hi
        rw [put_ne _ _ (by omega)]; exact hw.beyond i hi
      · have hx' : x ∈ put rap.rxaMq off [m] i := hx
        show x.seq = seqAdd rap.rxaStart i
        by_cases hi : i = off
        · rw [hi, put_self, List.mem_append, List.mem_singleton] at hx'
          rcases hx' with hx' | rfl
          · rw [hi]; exact hw.seqs off x hx'
          · rw [hi]; exact hm
        · rw [put_ne _ _ hi] at hx'
          exact hw.seqs i x hx'
  · exact ⟨hw, ⟨rfl, rfl, rfl, rfl⟩, rfl⟩

end Net80211
