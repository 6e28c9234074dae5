import Mathlib.Logic.Function.Basic
import Wifi.Iwlwifi.TxRing
import Wifi.Lib.Runs

/-!
# Transmit queues (`linux/drivers/net/wireless/intel/iwlwifi/queue/tx.c`, `pcie/tx.c`)

* `Queue` — what is read and written of `struct iwl_txq` and of the queue's bits in `trans->txqs`.
* `iwlTransTx` — `iwl_txq_gen2_tx` and `iwl_trans_pcie_tx`, behind the checks of `iwl_trans_tx`.
* `iwlTxqReclaim`, `iwlTxqUnmap` — `iwl_txq_reclaim`, and `iwl_txq_gen2_unmap` and `iwl_pcie_txq_unmap`.
* `Op`, `State`, `Step` — the calls on one queue, and what became of the frames.

A frame is a number; `sent` logs the frames in the order in which they were put on the ring, and nothing reads it.
Loops get fuel.
-/

namespace Iwlwifi.TxQueue

open TxRing

/-! ## Data -/

/-- What is read of the device's configuration. -/
structure Config where
  maxTfdQueueSize : Nat
  gen2 : Bool
  deriving DecidableEq, Repr

structure Queue where
  ring : Txq
  /-- `entries[i].skb` -/
  entries : Nat → Option Nat
  lowMark : Nat
  highMark : Nat
  overflowQ : List Nat
  overflowTx : Bool
  /-- the queue's bit in `trans->txqs.queue_stopped` -/
  queueStopped : Bool
  /-- the queue's bit in `trans->txqs.queue_used` -/
  queueUsed : Bool
  sent : List Nat

/-- What may go wrong in a transmission: the firmware is dead, there is no memory to linearize the frame, or one of
    the mappings fails. -/
structure Attempt where
  fwError : Bool
  linearizeFails : Bool
  mapFails : Bool
  deriving DecidableEq, Repr

variable (cfg : Config)

/-! ## Transmission -/

/-- `iwl_txq_space` -/
def Queue.space (q : Queue) : Nat := iwlTxqSpace cfg.maxTfdQueueSize q.ring

def Queue.writeIndex (q : Queue) : Nat :=
  if cfg.gen2 then iwlTxqGetCmdIndex q.ring q.ring.writePtr else q.ring.writePtr

def Queue.noRoom (q : Queue) : Bool := q.space cfg < q.highMark && q.space cfg < 3

/-- `iwl_txq_stop`, when there is little space. -/
def Queue.stopIfLow (q : Queue) : Queue := { q with queueStopped := q.queueStopped || q.space cfg < q.highMark }

/-- `iwl_wake_queue`, when there is space again. -/
def Queue.wakeIfSpace (q : Queue) : Queue := { q with queueStopped := q.queueStopped && !(q.lowMark < q.space cfg) }

def Queue.setEntry (q : Queue) (i : Nat) (skb : Option Nat) : Queue :=
  { q with entries := Function.update q.entries i skb }

def Queue.defer (q : Queue) (skb : Nat) : Queue := { q with overflowQ := q.overflowQ ++ [skb] }

/-- The frame is on the ring: `write_ptr` goes on. -/
def Queue.advance (q : Queue) (skb : Nat) : Queue :=
  { q with
    ring := { q.ring with writePtr := iwlTxqIncWrap cfg.maxTfdQueueSize q.ring.writePtr }
    sent := q.sent ++ [skb] }

/-- `iwl_trans_tx`, and the transport's function: what it returns, and the queue. -/
def iwlTransTx (q : Queue) (skb : Nat) (a : Attempt) : Int × Queue :=
  if a.fwError then (-5, q)
  else if q.queueUsed = false then (-22, q)
  else if a.linearizeFails then (-12, q)
  else if q.noRoom cfg then
    -- don't put the packet on the ring, if there is no room
    (0, (q.stopIfLow cfg).defer skb)
  else
    let q := (q.stopIfLow cfg).setEntry (q.writeIndex cfg) (some skb)
    if a.mapFails then (-1, q) else (0, q.advance cfg skb)

/-! ## Reclaim -/

/-- `iwl_txq_free_tfd` and `iwl_txq_gen2_free_tfd`: a frame that is still in the entry is freed. -/
def iwlTxqFreeTfd (q : Queue) : Queue × List Nat :=
  let idx := iwlTxqGetCmdIndex q.ring q.ring.readPtr
  match q.entries idx with
  | none => (q, [])
  | some skb => (q.setEntry idx none, [skb])

/-- `read_ptr` goes on. -/
def Queue.incRead (q : Queue) : Queue :=
  { q with ring := { q.ring with readPtr := iwlTxqIncWrap cfg.maxTfdQueueSize q.ring.readPtr } }

/-- One round of the loop of `iwl_txq_reclaim`: the queue, what is handed out, and what is freed. -/
def reclaimOne (q : Queue) (readPtr : Nat) : Queue × List Nat × List Nat :=
  match q.entries readPtr with
  | none => (q.incRead cfg, [], [])
  | some skb =>
    let (q, freed) := iwlTxqFreeTfd (q.setEntry readPtr none)
    (q.incRead cfg, [skb], freed)

/-- The loop of `iwl_txq_reclaim`. -/
def reclaimLoop (tfdNum : Nat) : Nat → Queue → Nat → Option (Queue × List Nat × List Nat)
  | 0, _, _ => none
  | fuel + 1, q, readPtr =>
    if readPtr = tfdNum then some (q, [], [])
    else do
      let (q, skbs, freed) := reclaimOne cfg q readPtr
      let (q, skbs', freed') ← reclaimLoop tfdNum fuel q (iwlTxqGetCmdIndex q.ring q.ring.readPtr)
      some (q, skbs ++ skbs', freed ++ freed')

/-- `iwl_trans_tx` for the frames of the overflow queue; what it returns is not looked at. -/
def resubmit (attempts : Nat → Attempt) : List Nat → Nat → Queue → Queue
  | [], _, q => q
  | skb :: skbs, i, q => resubmit attempts skbs (i + 1) (iwlTransTx cfg q skb (attempts i)).2

/-- The overflow queue is sent when there is space again, or handed out when the queue is flushed. -/
def drainOverflow (q : Queue) (isFlush : Bool) (attempts : Nat → Attempt) : Queue × List Nat :=
  if q.lowMark < q.space cfg ∧ q.queueStopped = true then
    let skbs := if isFlush then q.overflowQ else []
    let overflowSkbs := if isFlush then [] else q.overflowQ
    let q := { q with overflowQ := [], overflowTx := true }
    let q := resubmit cfg attempts overflowSkbs 0 q
    ({ q.wakeIfSpace cfg with overflowTx := false }, skbs)
  else (q, [])

/-- `iwl_txq_reclaim`: the queue, the frames that are handed out, and those that are freed. -/
def iwlTxqReclaim (fuel : Nat) (q : Queue) (ssn : Nat) (isFlush : Bool) (attempts : Nat → Attempt) :
    Option (Queue × List Nat × List Nat) :=
  let tfdNum := iwlTxqGetCmdIndex q.ring ssn
  let readPtr := iwlTxqGetCmdIndex q.ring q.ring.readPtr
  if q.queueUsed = false then some (q, [], [])
  else if readPtr = tfdNum then some (q, [], [])
  -- the one before index is the last we will free; this one must be used
  else if iwlTxqUsed q.ring ((tfdNum + 2 ^ 32 - 1) % 2 ^ 32 &&& (cfg.maxTfdQueueSize - 1)) = false then
    some (q, [], [])
  else do
    let (q, skbs, freed) ← reclaimLoop cfg tfdNum fuel q readPtr
    let drained := drainOverflow cfg q isFlush attempts
    some (drained.1, skbs ++ drained.2, freed)

/-! ## Unmap -/

/-- The loop of the unmap functions: the queue, and what is freed. -/
def unmapLoop : Nat → Queue → Option (Queue × List Nat)
  | 0, _ => none
  | fuel + 1, q =>
    if q.ring.writePtr = q.ring.readPtr then some (q, [])
    -- `iwl_pcie_txq_unmap` does not go on
    else if cfg.gen2 = false ∧ q.entries q.ring.readPtr = none then unmapLoop fuel q
    else do
      let (q, freed) := iwlTxqFreeTfd q
      let (q, freed') ← unmapLoop fuel (q.incRead cfg)
      some (q, freed ++ freed')

/-- `iwl_txq_gen2_unmap` and `iwl_pcie_txq_unmap` -/
def iwlTxqUnmap (fuel : Nat) (q : Queue) : Option (Queue × List Nat) := do
  let (q, freed) ← unmapLoop cfg fuel q
  some ({ q with overflowQ := [], queueStopped := false }, freed ++ q.overflowQ)

/-! ## Calls -/

/-- The frames on the ring, from `read_ptr` up to `write_ptr`. -/
def Queue.onRing (q : Queue) : List Nat :=
  (List.range (Ring.dist cfg.maxTfdQueueSize q.ring.readPtr q.ring.writePtr)).filterMap fun j =>
    q.entries ((q.ring.readPtr + j) % q.ring.nWindow)

inductive Op where
  | tx (a : Attempt)
  | reclaim (ssn : Nat) (isFlush : Bool) (attempts : Nat → Attempt)
  | unmap

/-- The queue, how many submissions there were (their frames are numbered), the frames whose submission returned 0,
    and those that were handed out and freed. -/
structure State where
  q : Queue
  count : Nat
  accepted : List Nat
  handed : List Nat
  freed : List Nat

/-- From some fuel on, the result is `x`. -/
def Returns {α : Type} (f : Nat → Option α) (x : α) : Prop := ∃ n, ∀ fuel, n ≤ fuel → f fuel = some x

inductive Step : State → Op → State → Prop where
  | tx {s : State} {a : Attempt} {ret : Int} {q : Queue} (h : iwlTransTx cfg s.q s.count a = (ret, q)) :
      Step s (.tx a) { s with
        q := q
        count := s.count + 1
        accepted := if ret = 0 then s.accepted ++ [s.count] else s.accepted }
  | reclaim {s : State} {ssn : Nat} {isFlush : Bool} {attempts : Nat → Attempt} {q : Queue} {skbs freed : List Nat}
      (h : Returns (fun fuel => iwlTxqReclaim cfg fuel s.q ssn isFlush attempts) (q, skbs, freed)) :
      Step s (.reclaim ssn isFlush attempts) { s with q := q, handed := s.handed ++ skbs, freed := s.freed ++ freed }
  | unmap {s : State} {q : Queue} {freed : List Nat} (h : Returns (fun fuel => iwlTxqUnmap cfg fuel s.q) (q, freed)) :
      Step s .unmap { s with q := q, freed := s.freed ++ freed }

/-- The sizes are powers of two (`iwl_txq_init`, `iwl_queue_init`), a queue has 16 entries (`IWL_MGMT_QUEUE_SIZE`) or
    more, and a device that is not of the second generation uses all 256. -/
structure Config.Sizes (nWindow : Nat) : Prop where
  window : ∃ n, nWindow = 2 ^ n
  size : ∃ m, m ≤ 16 ∧ cfg.maxTfdQueueSize = 2 ^ m
  inside : nWindow ≤ cfg.maxTfdQueueSize
  least : 16 ≤ nWindow
  gen1 : cfg.gen2 = false → nWindow = cfg.maxTfdQueueSize

/-- After `iwl_queue_init`; the entries are arbitrary. -/
def Initial (s : State) : Prop :=
  cfg.Sizes s.q.ring.nWindow ∧ s.q.ring.readPtr = 0 ∧ s.q.ring.writePtr = 0 ∧
    s.q.lowMark = max (s.q.ring.nWindow / 4) 4 ∧ s.q.highMark = max (s.q.ring.nWindow / 8) 2 ∧
    s.q.overflowQ = [] ∧ s.q.queueStopped = false ∧ s.q.sent = [] ∧
    s.count = 0 ∧ s.accepted = [] ∧ s.handed = [] ∧ s.freed = []

end Iwlwifi.TxQueue
