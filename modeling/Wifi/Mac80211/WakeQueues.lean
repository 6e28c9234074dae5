import Mathlib.Logic.Function.Basic
import Mathlib.Tactic.Common

/-!
# Stopping and waking the hardware queues (`linux/net/mac80211/util.c`)

* `Hw` — the interfaces, stations and transmit queues, with the hardware queues they are mapped to.
* `State` — the stop reasons and their counts, the pending frames, the tasklets and the `DIRTY` marks.
* `stopQueue`, `wakeQueue`, `wakeTxqs`, `txDequeue` — `__ieee80211_stop_queue`, `__ieee80211_wake_queue`,
  `_ieee80211_wake_txqs` and the test of `ieee80211_tx_dequeue` (`tx.c`).
* `Call` — the functions that are called, each with the steps it takes under `queue_stop_reason_lock`.

`refused` is not in the source: it says that a transmit queue was refused a frame because its hardware queue was
stopped, and has not been handed to `drv_wake_tx_queue` since.
-/

namespace Mac80211.WakeQueues

/-! ## Transmit queues -/

/-- `enum queue_stop_reason` -/
inductive Reason where
  | driver | ps | csa | aggregation | suspend | skbAdd | offchannel | flush | tdlsTeardown | reserveTid | iftypeChange
  deriving DecidableEq, Repr

def reasons : List Reason :=
  [.driver, .ps, .csa, .aggregation, .suspend, .skbAdd, .offchannel, .flush, .tdlsTeardown, .reserveTid, .iftypeChange]

theorem mem_reasons (r : Reason) : r ∈ reasons := by
  cases r <;> decide

def IEEE80211_NUM_ACS : Nat := 4
def IEEE80211_AC_BE : Nat := 2
def IEEE80211_NUM_TIDS : Nat := 16

def INT_MAX : Int := 2147483647

/-- `n + 1` for an `int`. -/
def incInt (n : Int) : Int := (n + 1).bmod 4294967296

/-- `struct ieee80211_txq`: the interface and the access category. -/
structure Txq where
  vif : Nat
  ac : Nat
  deriving DecidableEq

/-- A transmit queue of a station, or the one of an interface for multicast frames. -/
inductive TxqId where
  | sta (sta tid : Nat)
  | vif (sdata : Nat)
  deriving DecidableEq, Repr

/-- `struct ieee80211_sub_if_data`: what is set when the interface comes up. -/
structure Sdata where
  hwQueue : Nat → Nat
  cabQueue : Nat
  /-- `vif.type == NL80211_IFTYPE_AP` -/
  ap : Bool
  /-- `vif.txq` is set -/
  txq : Bool

/-- `struct ieee80211_local`: the number of hardware queues and the lists. -/
structure Hw where
  queues : Nat
  interfaces : List Nat
  sdata : Nat → Sdata
  staList : List Nat
  /-- `sta->sdata` -/
  staSdata : Nat → Nat
  /-- `sta->sta.txq` -/
  staTxq : Nat → Nat → Option Txq

/-- What the interfaces are doing during a call. -/
structure Env where
  /-- `SDATA_STATE_RUNNING` -/
  running : Nat → Bool
  /-- `sdata->bss->ps.num_sta_ps` -/
  numStaPs : Nat → Nat
  inReconfig : Bool

/-- The transmit queue, as `ieee80211_txq_init` sets it up. -/
def Hw.txqOf (hw : Hw) : TxqId → Option Txq
  | .sta sta tid => if sta ∈ hw.staList ∧ tid ≤ IEEE80211_NUM_TIDS then hw.staTxq sta tid else none
  | .vif i => if i ∈ hw.interfaces ∧ (hw.sdata i).txq = true then some { vif := i, ac := IEEE80211_AC_BE } else none

/-- `vif->hw_queue[txq->ac]` -/
def Hw.queueOf (hw : Hw) (txq : Txq) : Nat := (hw.sdata txq.vif).hwQueue txq.ac

structure State where
  /-- `queue_stop_reasons` -/
  stopReasons : Nat → Reason → Bool
  /-- `q_stop_reasons` -/
  count : Nat → Reason → Int
  pending : Nat → List Nat
  txPendingTasklet : Bool
  wakeTxqsTasklet : Bool
  /-- `IEEE80211_TXQ_DIRTY` -/
  dirty : TxqId → Bool
  refused : TxqId → Bool

/-- `queue_stop_reasons[queue] != 0` -/
def State.stopped (s : State) (queue : Nat) : Bool := reasons.any (s.stopReasons queue)

/-! ## Waking transmit queues -/

section Wake

variable (hw : Hw) (env : Env)

def drvWakeTxQueue (s : State) (id : TxqId) : State :=
  { s with
    -- In reconfig don't transmit now, but mark for waking later
    dirty := if env.inReconfig then Function.update s.dirty id true else s.dirty
    refused := Function.update s.refused id false }

/-- `test_and_clear_bit(IEEE80211_TXQ_DIRTY, …)`, and the transmit queue woken when it was set. -/
def wakeTxq (s : State) (id : TxqId) : State :=
  if s.dirty id then drvWakeTxQueue env { s with dirty := Function.update s.dirty id false } id else s

def wakeSta (ac : Nat) (s : State) (sta : Nat) : State :=
  (List.range (IEEE80211_NUM_TIDS + 1)).foldl
    (fun s tid =>
      match hw.staTxq sta tid with
      | none => s
      | some txq => if ac ≠ txq.ac then s else wakeTxq env s (.sta sta tid)) s

/-- The loop over the stations of an interface. -/
def wakeStas (sdata ac : Nat) (s : State) : State :=
  hw.staList.foldl (fun s sta => if sdata ≠ hw.staSdata sta then s else wakeSta hw env ac s sta) s

/-- The transmit queue of an interface: the mark is cleared before the other tests. -/
def wakeMulticast (sdata ac : Nat) (s : State) : State :=
  if (hw.sdata sdata).txq = false then s
  else if s.dirty (.vif sdata) = false then s
  else
    let s := { s with dirty := Function.update s.dirty (.vif sdata) false }
    if ((hw.sdata sdata).ap = true ∧ 0 < env.numStaPs sdata) ∨ ac ≠ IEEE80211_AC_BE then s
    else drvWakeTxQueue env s (.vif sdata)

/-- `__ieee80211_wake_txqs`, for an interface and an access category. -/
def wakeVif (s : State) (v : Nat × Nat) : State :=
  if env.running v.1 = false then s else wakeMulticast hw env v.1 v.2 (wakeStas hw env v.1 v.2 s)

/-- The interfaces and access categories that the loops of `_ieee80211_wake_txqs` come to, in their order, when
    the hardware queues in `free` are not stopped. -/
def visits (free : Nat → Bool) : List (Nat × Nat) :=
  let nAcs := if hw.queues < IEEE80211_NUM_ACS then 1 else IEEE80211_NUM_ACS
  ((List.range hw.queues).filter free).flatMap fun i =>
    hw.interfaces.flatMap fun sdata =>
      ((List.range nAcs).filter fun ac => (hw.sdata sdata).hwQueue ac == i || (hw.sdata sdata).cabQueue == i).map
        fun ac => (sdata, ac)

/-- `_ieee80211_wake_txqs` -/
def wakeTxqs (s : State) : State := (visits hw fun q => !s.stopped q).foldl (wakeVif hw env) s

end Wake

/-! ## Stopping and waking hardware queues -/

section Queues

variable (hw : Hw)

/-- `__ieee80211_stop_queue` -/
def stopQueue (s : State) (queue : Nat) (reason : Reason) (refcounted : Bool) : State :=
  if hw.queues ≤ queue then s
  else
    let n := if refcounted then incInt (s.count queue reason) else 1
    { s with
      count := Function.update s.count queue (Function.update (s.count queue) reason n)
      stopReasons := Function.update s.stopReasons queue (Function.update (s.stopReasons queue) reason true) }

/-- The count after `__ieee80211_wake_queue`. -/
def wakeCount (n : Int) (refcounted : Bool) : Int :=
  if refcounted = false then 0 else if n - 1 < 0 then 0 else n - 1

/-- `__ieee80211_wake_queue`, up to the tests of what is stopped. -/
def clearReason (s : State) (queue : Nat) (reason : Reason) (refcounted : Bool) : State :=
  let n := wakeCount (s.count queue reason) refcounted
  { s with
    count := Function.update s.count queue (Function.update (s.count queue) reason n)
    stopReasons :=
      if n = 0 then Function.update s.stopReasons queue (Function.update (s.stopReasons queue) reason false)
      else s.stopReasons }

/-- `__ieee80211_wake_queue` -/
def wakeQueue (env : Env) (s : State) (queue : Nat) (reason : Reason) (refcounted : Bool) : State :=
  if hw.queues ≤ queue then s
  else if s.stopReasons queue reason = false then s
  else
    let s := clearReason s queue reason refcounted
    -- someone still has this queue stopped
    if s.stopped queue then s
    else
      let s := { s with txPendingTasklet := s.txPendingTasklet || decide (s.pending queue ≠ []) }
      if reason = .driver then { s with wakeTxqsTasklet := true } else wakeTxqs hw env s

/-- `ieee80211_tx_dequeue`, up to the test of the hardware queue. -/
def txDequeue (s : State) (id : TxqId) (airtimeOk : Bool) : State :=
  match hw.txqOf id with
  | none => s
  | some txq =>
    if airtimeOk = false then s
    else if s.stopped (hw.queueOf txq) then
      -- mark for waking later
      { s with dirty := Function.update s.dirty id true, refused := Function.update s.refused id true }
    else s

/-- `ieee80211_wake_txqs`, the tasklet. -/
def wakeTxqsTasklet (env : Env) (s : State) : State := wakeTxqs hw env { s with wakeTxqsTasklet := false }

/-! ## Calls -/

inductive Op where
  | stop (queue : Nat) (reason : Reason) (refcounted : Bool)
  | queueTail (queue skb : Nat)
  | wake (env : Env) (queue : Nat) (reason : Reason) (refcounted : Bool)
  | dequeue (id : TxqId) (airtimeOk : Bool)
  | tasklet (env : Env)

/-- A step; the tasklet runs only when it is scheduled. -/
def next (s : State) : Op → Option State
  | .stop queue reason refcounted => some (stopQueue hw s queue reason refcounted)
  | .queueTail queue skb => some { s with pending := Function.update s.pending queue (s.pending queue ++ [skb]) }
  | .wake env queue reason refcounted => some (wakeQueue hw env s queue reason refcounted)
  | .dequeue id airtimeOk => some (txDequeue hw s id airtimeOk)
  | .tasklet env => if s.wakeTxqsTasklet then some (wakeTxqsTasklet hw env s) else none

def Step (s : State) (op : Op) (s' : State) : Prop := next hw s op = some s'

/-- Nothing is stopped and nothing is marked. -/
structure Initial (s : State) : Prop where
  stopReasons : ∀ q r, s.stopReasons q r = false
  count : ∀ q r, s.count q r = 0
  refused : ∀ id, s.refused id = false

/-- A frame that is to be sent later: whether `info->control.vif` is set, and `info->hw_queue`. -/
structure PendingSkb where
  id : Nat
  vif : Bool
  hwQueue : Nat

inductive Call where
  | stopQueueByReason (queue : Nat) (reason : Reason) (refcounted : Bool)
  | stopQueuesByReason (queues : Nat) (reason : Reason) (refcounted : Bool)
  | wakeQueueByReason (queue : Nat) (reason : Reason) (refcounted : Bool)
  | wakeQueuesByReason (queues : Nat) (reason : Reason) (refcounted : Bool)
  | addPendingSkb (skb : PendingSkb)
  | addPendingSkbs (skbs : List PendingSkb)
  | txDequeue (id : TxqId) (airtimeOk : Bool)
  | wakeTxqs

/-- The steps of a call.  `_ieee80211_wake_txqs` drops the lock, so steps of other calls may come between. -/
def Call.ops (env : Env) : Call → List Op
  | .stopQueueByReason queue reason refcounted => [.stop queue reason refcounted]
  | .stopQueuesByReason queues reason refcounted =>
    ((List.range hw.queues).filter queues.testBit).map fun i => .stop i reason refcounted
  | .wakeQueueByReason queue reason refcounted => [.wake env queue reason refcounted]
  | .wakeQueuesByReason queues reason refcounted =>
    ((List.range hw.queues).filter queues.testBit).map fun i => .wake env i reason refcounted
  | .addPendingSkb skb =>
    if skb.vif then
      [.stop skb.hwQueue .skbAdd false, .queueTail skb.hwQueue skb.id, .wake env skb.hwQueue .skbAdd false]
    else []
  | .addPendingSkbs skbs =>
    (skbs.filter (·.vif)).flatMap (fun skb => [.stop skb.hwQueue .skbAdd false, .queueTail skb.hwQueue skb.id]) ++
      (List.range hw.queues).map fun i => .wake env i .skbAdd false
  | .txDequeue id airtimeOk => [.dequeue id airtimeOk]
  | .wakeTxqs => [.tasklet env]

end Queues

end Mac80211.WakeQueues
