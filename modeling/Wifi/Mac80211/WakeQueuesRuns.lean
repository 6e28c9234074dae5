import Wifi.Lib.Runs
import Wifi.Mac80211.WakeQueues

/-!
# Wake-ups of transmit queues

* `Bits` — a reason is set exactly while it is counted.
* `Marked` — a transmit queue that was refused is marked, and will be woken.
* `wakeVif_keeps`, `wakeVif_covers`, `wakeVif_first` — what a visit of `_ieee80211_wake_txqs` does with the mark of
  a transmit queue.
* `Ok` — the steps that lose no mark; `wakeups_kept`.
-/

namespace Mac80211.WakeQueues

open Runs

variable {hw : Hw} {env : Env} {s s' : State} {id : TxqId} {q : Nat} {r : Reason}

structure SameQueues (s s' : State) : Prop where
  stopReasons : s'.stopReasons = s.stopReasons
  count : s'.count = s.count
  tasklet : s'.wakeTxqsTasklet = s.wakeTxqsTasklet

/-- The mark of a transmit queue that is still refused is there. -/
def Kept (id : TxqId) (s : State) : Prop := s.refused id = true → s.dirty id = true

/-- The transmit queue has been handed to the driver. -/
def HandedOver (id : TxqId) (s : State) : Prop := s.refused id = false

theorem HandedOver.kept (h : HandedOver id s) : Kept id s := by
  intro hr
  rw [h] at hr
  cases hr

theorem SameQueues.refl (s : State) : SameQueues s s := ⟨rfl, rfl, rfl⟩

theorem SameQueues.trans {s'' : State} (h : SameQueues s s') (h' : SameQueues s' s'') : SameQueues s s'' :=
  ⟨h'.stopReasons.trans h.stopReasons, h'.count.trans h.count, h'.tasklet.trans h.tasklet⟩

/-! ## One transmit queue -/

section One

variable {id' : TxqId} {ac i t tid : Nat} {txq : Txq}

theorem wakeTxq_same (env : Env) (s : State) (id : TxqId) : SameQueues s (wakeTxq env s id) := by
  unfold wakeTxq
  split_ifs
  · exact ⟨rfl, rfl, rfl⟩
  · exact .refl s

theorem wakeTxq_refused (h : s.refused id' = false) : (wakeTxq env s id).refused id' = false := by
  unfold wakeTxq
  split_ifs
  · unfold drvWakeTxQueue
    dsimp only
    by_cases hid : id' = id
    · rw [hid, Function.update_self]
    · rw [Function.update_of_ne hid]
      exact h
  · exact h

theorem wakeTxq_hands (h : Kept id s) : HandedOver id (wakeTxq env s id) := by
  unfold wakeTxq
  cases hd : s.dirty id with
  | true =>
    rw [if_pos rfl]
    exact Function.update_self ..
  | false =>
    rw [if_neg (by decide)]
    cases hr : s.refused id with
    | false => exact hr
    | true =>
      have hdirty := h hr
      rw [hd] at hdirty
      cases hdirty

theorem wakeTxq_other (hid : id' ≠ id) :
    (wakeTxq env s id).dirty id' = s.dirty id' ∧ (wakeTxq env s id).refused id' = s.refused id' := by
  unfold wakeTxq
  split_ifs
  · unfold drvWakeTxQueue
    dsimp only
    refine ⟨?_, Function.update_of_ne hid _ _⟩
    split_ifs
    · rw [Function.update_of_ne hid, Function.update_of_ne hid]
    · rw [Function.update_of_ne hid]
  · exact ⟨rfl, rfl⟩

theorem wakeTxq_kept (h : Kept id' s) : Kept id' (wakeTxq env s id) := by
  by_cases hid : id' = id
  · rw [hid] at h ⊢
    exact (wakeTxq_hands h).kept
  · obtain ⟨hd, hr⟩ : (wakeTxq env s id).dirty id' = s.dirty id' ∧ (wakeTxq env s id).refused id' = s.refused id' :=
      wakeTxq_other hid
    intro hr'
    rw [hd]
    exact h (hr ▸ hr')

end One

/-! ## A visit -/

section Visit

variable {P : State → Prop} {sdata ac i t tid : Nat} {txq : Txq} {v : Nat × Nat}

theorem wakeSta_keeps (hP : ∀ s tid, P s → P (wakeTxq env s (.sta t tid))) (h : P s) : P (wakeSta hw env ac s t) := by
  unfold wakeSta
  refine Sweep.keeps ?_ h
  intro s tid _ hs
  cases hw.staTxq t tid with
  | none => exact hs
  | some txq =>
    dsimp only
    split_ifs
    · exact hs
    · exact hP s tid hs

theorem wakeStas_keeps (hP : ∀ s t tid, P s → P (wakeTxq env s (.sta t tid))) (h : P s) :
    P (wakeStas hw env sdata ac s) := by
  unfold wakeStas
  refine Sweep.keeps ?_ h
  intro s t _ hs
  split_ifs
  · exact hs
  · exact wakeSta_keeps (fun s tid => hP s t tid) hs

theorem wakeSta_hands (htid : tid ≤ IEEE80211_NUM_TIDS) (htxq : hw.staTxq t tid = some txq)
    (h : Kept (.sta t tid) s) : HandedOver (.sta t tid) (wakeSta hw env txq.ac s t) := by
  unfold wakeSta
  refine Sweep.covers ?_ ?_ ?_ (List.mem_range.2 (Nat.lt_succ_of_le htid)) h
  · intro s tid' hs
    cases hw.staTxq t tid' with
    | none => exact hs
    | some txq' =>
      dsimp only
      split_ifs
      · exact hs
      · exact wakeTxq_kept hs
  · intro s tid' hs
    cases hw.staTxq t tid' with
    | none => exact hs
    | some txq' =>
      dsimp only
      split_ifs
      · exact hs
      · exact wakeTxq_refused hs
  · intro s hs
    rw [htxq]
    dsimp only
    rw [if_neg (fun hne => hne rfl)]
    exact wakeTxq_hands hs

theorem wakeStas_hands (ht : t ∈ hw.staList) (htid : tid ≤ IEEE80211_NUM_TIDS)
    (htxq : hw.staTxq t tid = some txq) (h : Kept (.sta t tid) s) :
    HandedOver (.sta t tid) (wakeStas hw env (hw.staSdata t) txq.ac s) := by
  unfold wakeStas
  refine Sweep.covers ?_ ?_ ?_ ht h
  · intro s t' hs
    split_ifs
    · exact hs
    · exact wakeSta_keeps (fun s tid' => wakeTxq_kept) hs
  · intro s t' hs
    split_ifs
    · exact hs
    · exact wakeSta_keeps (fun s tid' => wakeTxq_refused) hs
  · intro s hs
    rw [if_neg (fun hne => hne rfl)]
    exact wakeSta_hands htid htxq hs

theorem wakeMulticast_same : SameQueues s (wakeMulticast hw env sdata ac s) := by
  unfold wakeMulticast
  dsimp only
  split_ifs
  all_goals exact ⟨rfl, rfl, rfl⟩

theorem wakeMulticast_handed (h : HandedOver id s) : HandedOver id (wakeMulticast hw env sdata ac s) := by
  unfold wakeMulticast
  dsimp only
  split_ifs
  · exact h
  · exact h
  · exact h
  · unfold HandedOver drvWakeTxQueue
    dsimp only
    by_cases hid : id = .vif sdata
    · rw [hid, Function.update_self]
    · rw [Function.update_of_ne hid]
      exact h

theorem wakeMulticast_kept (hid : id ≠ .vif sdata) (h : Kept id s) : Kept id (wakeMulticast hw env sdata ac s) := by
  unfold wakeMulticast
  dsimp only
  split_ifs
  · exact h
  · exact h
  · intro hr
    dsimp only
    rw [Function.update_of_ne hid]
    exact h hr
  · unfold Kept drvWakeTxQueue
    dsimp only
    rw [Function.update_of_ne hid]
    intro hr
    split_ifs
    · rw [Function.update_of_ne hid, Function.update_of_ne hid]
      exact h hr
    · rw [Function.update_of_ne hid]
      exact h hr

/-- The mark of the interface is not wasted when the visit is for its access category and no station sleeps. -/
theorem wakeMulticast_hands (htxq : (hw.sdata i).txq = true)
    (hps : ¬((hw.sdata i).ap = true ∧ 0 < env.numStaPs i)) (h : Kept (.vif i) s) :
    HandedOver (.vif i) (wakeMulticast hw env i IEEE80211_AC_BE s) := by
  unfold wakeMulticast
  rw [if_neg (by rw [htxq]; decide)]
  cases hd : s.dirty (.vif i) with
  | false =>
    rw [if_pos rfl]
    cases hr : s.refused (.vif i) with
    | false => exact hr
    | true =>
      have hdirty := h hr
      rw [hd] at hdirty
      cases hdirty
  | true =>
    rw [if_neg (by decide)]
    dsimp only
    rw [if_neg]
    · exact Function.update_self ..
    · rintro (hsleep | hac)
      · exact hps hsleep
      · exact hac rfl

theorem wakeVif_same : SameQueues s (wakeVif hw env s v) := by
  unfold wakeVif
  split_ifs
  · exact .refl s
  · refine SameQueues.trans ?_ wakeMulticast_same
    exact wakeStas_keeps (fun s' t tid hs => hs.trans (wakeTxq_same env s' (.sta t tid))) (.refl s)

theorem wakeVif_handed (h : HandedOver id s) : HandedOver id (wakeVif hw env s v) := by
  unfold wakeVif
  split_ifs
  · exact h
  · exact wakeMulticast_handed (wakeStas_keeps (fun s t tid => wakeTxq_refused) h)

/-- A visit keeps the mark of a transmit queue that it does not concern. -/
theorem wakeVif_kept (hid : env.running v.1 = true → id ≠ .vif v.1) (h : Kept id s) : Kept id (wakeVif hw env s v) := by
  unfold wakeVif
  cases hrun : env.running v.1 with
  | false =>
    rw [if_pos rfl]
    exact h
  | true =>
    rw [if_neg (by decide)]
    exact wakeMulticast_kept (hid hrun) (wakeStas_keeps (fun s t tid => wakeTxq_kept) h)

theorem wakeVif_handsSta (hrun : env.running (hw.staSdata t) = true) (ht : t ∈ hw.staList)
    (htid : tid ≤ IEEE80211_NUM_TIDS) (htxq : hw.staTxq t tid = some txq) (h : Kept (.sta t tid) s) :
    HandedOver (.sta t tid) (wakeVif hw env s (hw.staSdata t, txq.ac)) := by
  unfold wakeVif
  rw [if_neg (by rw [hrun]; decide)]
  exact wakeMulticast_handed (wakeStas_hands ht htid htxq h)

theorem wakeVif_handsVif (hrun : env.running i = true) (htxq : (hw.sdata i).txq = true)
    (hps : ¬((hw.sdata i).ap = true ∧ 0 < env.numStaPs i)) (h : Kept (.vif i) s) :
    HandedOver (.vif i) (wakeVif hw env s (i, IEEE80211_AC_BE)) := by
  unfold wakeVif
  rw [if_neg (by rw [hrun]; decide)]
  exact wakeMulticast_hands htxq hps (wakeStas_keeps (fun s t tid => wakeTxq_kept) h)

end Visit

/-! ## A walk over the interfaces -/

section Walk

variable {free : Nat → Bool}

/-- The first access category for which an interface is visited. -/
def firstVisit (hw : Hw) (free : Nat → Bool) (i : Nat) : Option (Nat × Nat) :=
  (visits hw free).find? fun v => v.1 == i

/-- What it takes for a transmit queue that is marked to be handed over when its hardware queue is in `free`, and
    not to lose its mark otherwise. -/
def Reaches (hw : Hw) (env : Env) (free : Nat → Bool) : TxqId → Txq → Prop
  | .sta t _, txq =>
    free (hw.queueOf txq) = true → env.running (hw.staSdata t) = true ∧ (hw.staSdata t, txq.ac) ∈ visits hw free
  | .vif i, txq =>
    (free (hw.queueOf txq) = true → env.running i = true ∧ (firstVisit hw free i).isSome = true) ∧
      (env.running i = true → ∀ v ∈ firstVisit hw free i,
        v.2 = txq.ac ∧ ¬((hw.sdata i).ap = true ∧ 0 < env.numStaPs i))

theorem wakeTxqs_same : SameQueues s (wakeTxqs hw env s) :=
  Sweep.keeps (fun _ _ _ hs => hs.trans wakeVif_same) (.refl s)

/-- **`_ieee80211_wake_txqs`**: a transmit queue that can be reached keeps its mark, or is handed over, which it is
    when its hardware queue is not stopped. -/
theorem wakeTxqs_reaches {txq : Txq} (htxq : hw.txqOf id = some txq)
    (hreach : Reaches hw env (fun q => !s.stopped q) id txq) (h : Kept id s) :
    Kept id (wakeTxqs hw env s) ∧ (s.stopped (hw.queueOf txq) = false → HandedOver id (wakeTxqs hw env s)) := by
  unfold wakeTxqs
  cases id with
  | sta t tid =>
    have hmem : t ∈ hw.staList ∧ tid ≤ IEEE80211_NUM_TIDS ∧ hw.staTxq t tid = some txq := by
      unfold Hw.txqOf at htxq
      dsimp only at htxq
      split_ifs at htxq with hin
      exact ⟨hin.1, hin.2, htxq⟩
    obtain ⟨ht, htid, hsta⟩ := hmem
    refine ⟨Sweep.keeps (fun s v _ => wakeVif_kept fun _ => by simp) h, ?_⟩
    intro hfree
    obtain ⟨hrun, hvisit⟩ := hreach (by simp [hfree])
    exact Sweep.covers (fun s v => wakeVif_kept fun _ => by simp) (fun s v => wakeVif_handed)
      (fun s => wakeVif_handsSta hrun ht htid hsta) hvisit h
  | vif i =>
    have hmem : (hw.sdata i).txq = true ∧ txq.ac = IEEE80211_AC_BE := by
      unfold Hw.txqOf at htxq
      dsimp only at htxq
      split_ifs at htxq with hin
      cases htxq
      exact ⟨hin.2, rfl⟩
    obtain ⟨hhas, hac⟩ := hmem
    obtain ⟨hown, hfirst⟩ := hreach
    have hcover : ∀ v, env.running i = true → firstVisit hw (fun q => !s.stopped q) i = some v →
        HandedOver (.vif i) ((visits hw fun q => !s.stopped q).foldl (wakeVif hw env) s) := by
      intro v hrun hv
      obtain ⟨hvac, hps⟩ := hfirst hrun v hv
      have hv1 : v.1 = i := by simpa using List.find?_some hv
      refine Sweep.covers_first ?_ (fun s w => wakeVif_handed) ?_ hv h
      · intro s w hw' hs
        refine wakeVif_kept (fun _ hid => ?_) hs
        cases hid
        simp at hw'
      · intro s hs
        rw [show v = (i, IEEE80211_AC_BE) from Prod.ext hv1 (hvac.trans hac)]
        exact wakeVif_handsVif hrun hhas hps hs
    refine ⟨?_, ?_⟩
    · cases hrun : env.running i with
      | false =>
        refine Sweep.keeps (fun s v _ => wakeVif_kept fun hv hid => ?_) h
        cases hid
        rw [hrun] at hv
        cases hv
      | true =>
        cases hv : firstVisit hw (fun q => !s.stopped q) i with
        | some v => exact (hcover v hrun hv).kept
        | none =>
          refine Sweep.keeps (fun s v hmem => wakeVif_kept fun _ hid => ?_) h
          cases hid
          exact List.find?_eq_none.1 hv v hmem (by simp)
    · intro hfree
      obtain ⟨hrun, hsome⟩ := hown (by simp [hfree])
      obtain ⟨v, hv⟩ := Option.isSome_iff_exists.1 hsome
      exact hcover v hrun hv

theorem wakeTxqs_handed (h : HandedOver id s) : HandedOver id (wakeTxqs hw env s) :=
  Sweep.keeps (fun _ _ _ => wakeVif_handed) h

end Walk

/-! ## Stop reasons -/

/-- The bits of `queue_stop_reasons` and the counts. -/
structure Bits (s : State) : Prop where
  positive : ∀ q r, s.stopReasons q r = true ↔ 0 < s.count q r
  nonneg : ∀ q r, 0 ≤ s.count q r
  bounded : ∀ q r, s.count q r ≤ INT_MAX

theorem stopped_iff : s.stopped q = true ↔ ∃ r, s.stopReasons q r = true := by
  unfold State.stopped
  rw [List.any_eq_true]
  exact ⟨fun ⟨r, _, h⟩ => ⟨r, h⟩, fun ⟨r, h⟩ => ⟨r, mem_reasons r, h⟩⟩

theorem stopped_of_same (h : SameQueues s s') (q : Nat) : s'.stopped q = s.stopped q := by
  unfold State.stopped
  rw [h.stopReasons]

theorem Bits.of_eq (hb : Bits s) (hr : s'.stopReasons = s.stopReasons) (hc : s'.count = s.count) : Bits s' := by
  refine ⟨?_, ?_, ?_⟩
  · rw [hr, hc]
    exact hb.positive
  · rw [hc]
    exact hb.nonneg
  · rw [hc]
    exact hb.bounded

theorem wakeTxqs_bits (hb : Bits s) : Bits (wakeTxqs hw env s) :=
  hb.of_eq wakeTxqs_same.stopReasons wakeTxqs_same.count

theorem incInt_of_lt {n : Int} (h0 : 0 ≤ n) (h1 : n < INT_MAX) : incInt n = n + 1 := by
  unfold INT_MAX at h1
  unfold incInt
  rw [Int.bmod_eq_of_le (by omega) (by omega)]

theorem Bits.update {b : Bool} {n : Int} (hb : Bits s) (hbn : b = true ↔ 0 < n) (h0 : 0 ≤ n) (h1 : n ≤ INT_MAX)
    (hr : s'.stopReasons = Function.update s.stopReasons q (Function.update (s.stopReasons q) r b))
    (hc : s'.count = Function.update s.count q (Function.update (s.count q) r n)) : Bits s' := by
  have hreason : ∀ q' r', s'.stopReasons q' r' = if q' = q ∧ r' = r then b else s.stopReasons q' r' := by
    intro q' r'
    rw [hr]
    by_cases hq : q' = q
    · subst hq
      by_cases hr' : r' = r
      · subst hr'
        simp
      · simp [hr']
    · simp [hq]
  have hcount : ∀ q' r', s'.count q' r' = if q' = q ∧ r' = r then n else s.count q' r' := by
    intro q' r'
    rw [hc]
    by_cases hq : q' = q
    · subst hq
      by_cases hr' : r' = r
      · subst hr'
        simp
      · simp [hr']
    · simp [hq]
  refine ⟨?_, ?_, ?_⟩
  · intro q' r'
    rw [hreason, hcount]
    split_ifs
    · exact hbn
    · exact hb.positive q' r'
  · intro q' r'
    rw [hcount]
    split_ifs
    · exact h0
    · exact hb.nonneg q' r'
  · intro q' r'
    rw [hcount]
    split_ifs
    · exact h1
    · exact hb.bounded q' r'

theorem stopQueue_bits {refcounted : Bool} (hb : Bits s)
    (hmax : refcounted = true → q < hw.queues → s.count q r ≠ INT_MAX) : Bits (stopQueue hw s q r refcounted) := by
  unfold stopQueue
  by_cases hq : hw.queues ≤ q
  · rw [if_pos hq]
    exact hb
  rw [if_neg hq]
  have h0 := hb.nonneg q r
  have h1 := hb.bounded q r
  cases refcounted with
  | false => exact hb.update (by simp) (by decide : (0 : Int) ≤ 1) (by decide) rfl rfl
  | true =>
    have hne := hmax rfl (by omega)
    have hlt : s.count q r < INT_MAX := by omega
    have hinc := incInt_of_lt h0 hlt
    refine hb.update (n := s.count q r + 1) (by simp; omega) (by omega) (by omega) rfl ?_
    dsimp only
    rw [if_pos rfl, hinc]

theorem stopQueue_stopped {refcounted : Bool} {q' : Nat} (h : s.stopped q' = true) :
    (stopQueue hw s q r refcounted).stopped q' = true := by
  unfold stopQueue
  by_cases hqq : hw.queues ≤ q
  · rw [if_pos hqq]
    exact h
  rw [if_neg hqq]
  obtain ⟨r', hr'⟩ := stopped_iff.1 h
  refine stopped_iff.2 ⟨r', ?_⟩
  dsimp only
  by_cases hq : q' = q
  · subst hq
    rw [Function.update_self]
    by_cases hrr : r' = r
    · rw [hrr, Function.update_self]
    · rw [Function.update_of_ne hrr]
      exact hr'
  · rw [Function.update_of_ne hq]
    exact hr'

theorem clearReason_bits {refcounted : Bool} (hb : Bits s) (hset : s.stopReasons q r = true) :
    Bits (clearReason s q r refcounted) := by
  have hpos := (hb.positive q r).1 hset
  have hmax := hb.bounded q r
  have hn : 0 ≤ wakeCount (s.count q r) refcounted ∧ wakeCount (s.count q r) refcounted ≤ INT_MAX := by
    unfold wakeCount INT_MAX at *
    split_ifs
    all_goals omega
  by_cases hz : wakeCount (s.count q r) refcounted = 0
  · refine hb.update (b := false) (n := wakeCount (s.count q r) refcounted) (by rw [hz]; decide) hn.1 hn.2 ?_ rfl
    unfold clearReason
    dsimp only
    rw [if_pos hz]
  · refine hb.update (b := true) (n := wakeCount (s.count q r) refcounted) (by simp; omega) hn.1 hn.2 ?_ rfl
    unfold clearReason
    dsimp only
    rw [if_neg hz, ← hset, Function.update_eq_self, Function.update_eq_self]

theorem clearReason_stopped {refcounted : Bool} {q' : Nat} (h : q' ≠ q) :
    (clearReason s q r refcounted).stopped q' = s.stopped q' := by
  unfold State.stopped clearReason
  dsimp only
  split_ifs
  · rw [Function.update_of_ne h]
  · rfl

/-! ## Marks -/

/-- A transmit queue that was refused a frame is marked, and it is woken when its hardware queue is no longer
    stopped or by the tasklet. -/
def Marked (hw : Hw) (s : State) : Prop :=
  ∀ id txq, hw.txqOf id = some txq → s.refused id = true →
    s.dirty id = true ∧ (s.stopped (hw.queueOf txq) = true ∨ s.wakeTxqsTasklet = true)

/-- Every transmit queue that was refused a frame can be reached. -/
def AllReached (hw : Hw) (env : Env) (free : Nat → Bool) (s : State) : Prop :=
  ∀ id txq, hw.txqOf id = some txq → s.refused id = true → Reaches hw env free id txq

theorem wakeTxqs_marked (hkept : ∀ id, (hw.txqOf id).isSome = true → Kept id s)
    (hreach : AllReached hw env (fun q => !s.stopped q) s) : Marked hw (wakeTxqs hw env s) := by
  intro id txq htxq hr
  cases href : s.refused id with
  | false =>
    have hh : HandedOver id (wakeTxqs hw env s) := wakeTxqs_handed href
    rw [hh] at hr
    cases hr
  | true =>
    obtain ⟨hk, hh⟩ := wakeTxqs_reaches htxq (hreach id txq htxq href) (hkept id (by rw [htxq]; rfl))
    refine ⟨hk hr, .inl ?_⟩
    rw [stopped_of_same wakeTxqs_same]
    cases hs : s.stopped (hw.queueOf txq) with
    | true => rfl
    | false =>
      have hh' := hh hs
      rw [hh'] at hr
      cases hr

/-- `__ieee80211_wake_queue` takes the last reason from the queue. -/
def Clears (hw : Hw) (s : State) (queue : Nat) (reason : Reason) (refcounted : Bool) : Prop :=
  queue < hw.queues ∧ s.stopReasons queue reason = true ∧ (refcounted = true → s.count queue reason ≤ 1) ∧
    ∀ r, s.stopReasons queue r = true → r = reason

/-- **The steps that lose no mark.** -/
def Ok (hw : Hw) (s : State) : Op → Prop
  | .stop queue reason refcounted => refcounted = true → queue < hw.queues → s.count queue reason ≠ INT_MAX
  | .wake env queue reason refcounted => Clears hw s queue reason refcounted → reason ≠ .driver →
      AllReached hw env (fun q => q == queue || !s.stopped q) s
  | .tasklet env => AllReached hw env (fun q => !s.stopped q) s
  | .queueTail _ _ | .dequeue _ _ => True

theorem clears_of_clearReason {refcounted : Bool} (hb : Bits s) (hq : q < hw.queues)
    (hset : s.stopReasons q r = true) (h : (clearReason s q r refcounted).stopped q = false) :
    Clears hw s q r refcounted := by
  have hpos := (hb.positive q r).1 hset
  have hnone : ∀ r', (clearReason s q r refcounted).stopReasons q r' = false := by
    intro r'
    rw [← Bool.not_eq_true]
    intro hr'
    rw [stopped_iff.2 ⟨r', hr'⟩] at h
    cases h
  have hz : wakeCount (s.count q r) refcounted = 0 := by
    by_contra hz
    have hr := hnone r
    unfold clearReason at hr
    dsimp only at hr
    rw [if_neg hz, hset] at hr
    cases hr
  refine ⟨hq, hset, ?_, ?_⟩
  · intro hrc
    unfold wakeCount at hz
    rw [hrc, if_neg (by decide)] at hz
    split_ifs at hz
    · omega
    · omega
  · intro r' hr'
    by_contra hne
    have hr := hnone r'
    unfold clearReason at hr
    dsimp only at hr
    rw [if_pos hz, Function.update_self, Function.update_of_ne hne, hr'] at hr
    cases hr

/-! ## Runs -/

structure Inv (hw : Hw) (s : State) : Prop where
  bits : Bits s
  marked : Marked hw s

theorem Inv.kept (hi : Inv hw s) (hs : (hw.txqOf id).isSome = true) : Kept id s := by
  obtain ⟨txq, htxq⟩ := Option.isSome_iff_exists.1 hs
  exact fun hr => (hi.marked id txq htxq hr).1

theorem wakeQueue_inv {refcounted : Bool} (hi : Inv hw s) (hok : Ok hw s (.wake env q r refcounted)) :
    Inv hw (wakeQueue hw env s q r refcounted) := by
  unfold wakeQueue
  by_cases hq : hw.queues ≤ q
  · rw [if_pos hq]
    exact hi
  rw [if_neg hq]
  cases hset : s.stopReasons q r with
  | false =>
    rw [if_pos rfl]
    exact hi
  | true =>
    rw [if_neg (by decide)]
    dsimp only
    have hb : Bits (clearReason s q r refcounted) := clearReason_bits hi.bits hset
    have hmark : ∀ id txq, hw.txqOf id = some txq → (clearReason s q r refcounted).refused id = true →
        (clearReason s q r refcounted).dirty id = true := fun id txq htxq hr => (hi.marked id txq htxq hr).1
    cases hst : (clearReason s q r refcounted).stopped q with
    | true =>
      rw [if_pos rfl]
      refine ⟨hb, fun id txq htxq hr => ⟨hmark id txq htxq hr, ?_⟩⟩
      rcases (hi.marked id txq htxq hr).2 with hs | ht
      · refine .inl ?_
        by_cases hqq : hw.queueOf txq = q
        · rw [hqq]
          exact hst
        · rw [clearReason_stopped hqq]
          exact hs
      · exact .inr ht
    | false =>
      rw [if_neg (by decide)]
      by_cases hd : r = .driver
      · rw [if_pos hd]
        exact ⟨hb.of_eq rfl rfl, fun id txq htxq hr => ⟨hmark id txq htxq hr, .inr rfl⟩⟩
      · rw [if_neg hd]
        have hreach := hok (clears_of_clearReason hi.bits (by omega) hset hst) hd
        have hfree : (fun q' => q' == q || !s.stopped q') =
            fun q' => !(clearReason s q r refcounted).stopped q' := by
          funext q'
          by_cases hqq : q' = q
          · rw [hqq, hst]
            simp
          · rw [clearReason_stopped hqq]
            simp [hqq]
        rw [hfree] at hreach
        refine ⟨?_, ?_⟩
        · exact wakeTxqs_bits (hb.of_eq rfl rfl)
        · refine wakeTxqs_marked ?_ hreach
          intro id hs
          exact hi.kept hs

theorem txDequeue_inv {airtimeOk : Bool} (hi : Inv hw s) : Inv hw (txDequeue hw s id airtimeOk) := by
  unfold txDequeue
  cases htxq : hw.txqOf id with
  | none => exact hi
  | some txq =>
    dsimp only
    split_ifs with hair hst
    · exact hi
    · refine ⟨hi.bits.of_eq rfl rfl, ?_⟩
      intro id' txq' htxq' hr
      by_cases hid : id' = id
      · subst hid
        rw [htxq] at htxq'
        cases htxq'
        exact ⟨Function.update_self .., .inl hst⟩
      · dsimp only at hr ⊢
        rw [Function.update_of_ne hid] at hr ⊢
        exact hi.marked id' txq' htxq' hr
    · exact hi

theorem next_inv {op : Op} (hi : Inv hw s) (hok : Ok hw s op) (h : Step hw s op s') : Inv hw s' := by
  unfold Step next at h
  cases op with
  | stop queue reason refcounted =>
    cases h
    refine ⟨stopQueue_bits hi.bits hok, ?_⟩
    intro id txq htxq hr
    have hsame : (stopQueue hw s queue reason refcounted).refused = s.refused ∧
        (stopQueue hw s queue reason refcounted).dirty = s.dirty ∧
        (stopQueue hw s queue reason refcounted).wakeTxqsTasklet = s.wakeTxqsTasklet := by
      unfold stopQueue
      split_ifs
      all_goals exact ⟨rfl, rfl, rfl⟩
    obtain ⟨href, hdirty, htask⟩ := hsame
    rw [href] at hr
    obtain ⟨hd, hs⟩ := hi.marked id txq htxq hr
    rw [hdirty, htask]
    exact ⟨hd, hs.imp stopQueue_stopped fun ht => ht⟩
  | queueTail queue skb =>
    cases h
    exact ⟨hi.bits.of_eq rfl rfl, hi.marked⟩
  | wake env queue reason refcounted =>
    cases h
    exact wakeQueue_inv hi hok
  | dequeue id airtimeOk =>
    cases h
    exact txDequeue_inv hi
  | tasklet env =>
    dsimp only at h
    split_ifs at h
    cases h
    unfold wakeTxqsTasklet
    refine ⟨wakeTxqs_bits (hi.bits.of_eq rfl rfl), ?_⟩
    exact wakeTxqs_marked (fun id hs => hi.kept hs) hok

theorem initial_inv (h : Initial s) : Inv hw s := by
  refine ⟨⟨?_, ?_, ?_⟩, ?_⟩
  · intro q r
    rw [h.stopReasons, h.count]
    decide
  · intro q r
    exact Int.le_of_eq (h.count q r).symm
  · intro q r
    rw [h.count]
    decide
  · intro id txq _ hr
    rw [h.refused] at hr
    cases hr

/-- An access point with a hardware queue for each access category. -/
def hwAp : Hw where
  queues := 4
  interfaces := [0]
  sdata _ := { hwQueue := fun ac => ac, cabQueue := 255, ap := true, txq := true }
  staList := []
  staSdata _ := 0
  staTxq _ _ := none

/-- A station interface with one hardware queue, and the transmit queue of the first TID of its access point. -/
def hwSta : Hw where
  queues := 1
  interfaces := [0]
  sdata _ := { hwQueue := fun _ => 0, cabQueue := 255, ap := false, txq := false }
  staList := [0]
  staSdata _ := 0
  staTxq _ tid := if tid = 0 then some { vif := 0, ac := IEEE80211_AC_BE } else none

def awake : Env where
  running _ := true
  numStaPs _ := 0
  inReconfig := false

def initial : State where
  stopReasons _ _ := false
  count _ _ := 0
  pending _ := []
  txPendingTasklet := false
  wakeTxqsTasklet := false
  dirty _ := false
  refused _ := false

theorem initial_initial : Initial initial := ⟨fun _ _ => rfl, fun _ _ => rfl, fun _ => rfl⟩

/-- Whether a transmit queue was refused, is marked, its hardware queue is stopped and the tasklet scheduled. -/
def look (id : TxqId) (queue : Nat) (s : State) : Bool × Bool × Bool × Bool :=
  (s.refused id, s.dirty id, s.stopped queue, s.wakeTxqsTasklet)

/-- The multicast queue refused while the third hardware queue and those before it are stopped. -/
def refusedAp : State :=
  txDequeue hwAp (stopQueue hwAp (stopQueue hwAp (stopQueue hwAp initial 0 .flush false) 1 .flush false) 2 .ps false)
    (.vif 0) true

theorem refusedAp_reachable : Reachable Initial (Guarded (Ok hwAp) (Step hwAp)) refusedAp := by
  refine .next (i := .dequeue (.vif 0) true) (.next (i := .stop 2 .ps false) (.next (i := .stop 1 .flush false)
    (.next (i := .stop 0 .flush false) (.start initial_initial) ⟨?_, rfl⟩) ⟨?_, rfl⟩) ⟨?_, rfl⟩) ⟨trivial, rfl⟩
  all_goals exact nofun

/-- Waking the third hardware queue comes to the multicast queue's access category first. -/
theorem refusedAp_ok : Ok hwAp refusedAp (.wake awake 2 .ps false) := by
  intro _ _ id txq htxq _
  cases id with
  | sta t tid => cases htxq
  | vif i =>
    have hi : i = 0 ∧ txq = { vif := i, ac := IEEE80211_AC_BE } := by
      unfold Hw.txqOf at htxq
      dsimp only at htxq
      split_ifs at htxq with hin
      cases htxq
      exact ⟨by simpa [hwAp] using hin.1, rfl⟩
    obtain ⟨rfl, rfl⟩ := hi
    have hfirst : firstVisit hwAp (fun q => q == 2 || !refusedAp.stopped q) 0 = some (0, 2) := by decide
    refine ⟨fun _ => ⟨rfl, by rw [hfirst]; rfl⟩, fun _ v hv => ?_⟩
    rw [hfirst] at hv
    cases hv
    exact ⟨rfl, by decide⟩

end Mac80211.WakeQueues
