import Wifi.Lib.Ledger
import Wifi.Wireless.Chan

/-!
# Off-channel requests

* `RocWork` — `struct ieee80211_roc_work`; `Local` — the part of `struct ieee80211_local` for the requests.
* `startRocWork` — `ieee80211_start_roc_work`, with `coalesceHwStartedRoc` and the loop `queueRoc`.
* `startNextRoc`, `hwRocStart`, `hwRocDone`, `rocWork` — what starts and ends the requests on the list.
* `cancelRoc`, `rocPurge` — `ieee80211_cancel_roc` and `ieee80211_roc_purge`.

The works may run at any time, so that they are queued is left out, but for the flush of `hw_roc_start`; so
are their delays, and the queues that are stopped and flushed while off-channel.
-/

namespace Mac80211.Offchannel

open Ledger Wireless.Chan

/-- `enum ieee80211_roc_type` -/
inductive RocType where
  | normal | mgmtTx
  deriving DecidableEq

/-- `struct ieee80211_roc_work`, at its address; `sdata` and `frame` are pointers. -/
structure RocWork where
  id : Nat
  sdata : Nat
  chan : Channel
  started : Bool
  abort : Bool
  hwBegun : Bool
  notified : Bool
  onChannel : Bool
  startTime : BitVec 64
  duration : BitVec 32
  reqDuration : BitVec 32
  frame : Option Nat
  cookie : BitVec 64
  mgmtTxCookie : BitVec 64
  type : RocType
  deriving DecidableEq

inductive Notice where
  /-- the request is on the list -/
  | accepted (txskb : Option Nat)
  /-- `cfg80211_ready_on_channel` -/
  | ready (cookie : BitVec 64) (duration : BitVec 32)
  /-- `ieee80211_tx_skb_tid_band` -/
  | transmitted (skb : Nat)
  /-- `cfg80211_mgmt_tx_status`, not acknowledged; the frame is then freed -/
  | txStatus (cookie : BitVec 64) (skb : Nat)
  /-- `cfg80211_remain_on_channel_expired` -/
  | expired (cookie : BitVec 64)
  /-- `cfg80211_tx_mgmt_expired` -/
  | txExpired (cookie : BitVec 64)
  deriving DecidableEq

/-- A request that was coalesced into one handed to the hardware, as that one was at the time. -/
structure Join where
  cur : RocWork
  duration : BitVec 32
  now : BitVec 64

/-- The hardware, its driver's operations, and the clock. -/
structure Hw where
  remainOnChannel : Bool
  emulateChanctx : Bool
  maxRemainOnChannelDuration : BitVec 32
  msecsToJiffies : BitVec 32 → BitVec 64
  jiffiesToMsecs : BitVec 64 → BitVec 32

/-- What is around an operation: `jiffies`, the allocator, the state of the device, what the driver returns. -/
structure Env where
  now : BitVec 64
  noMemory : Bool
  scanning : Bool
  radarRequired : Bool
  inReconfig : Bool
  confChan : Channel
  confNarrow : Bool
  drvRemainOnChannel : Nat → Channel → BitVec 32 → RocType → Int
  drvCancelRemainOnChannel : Nat → Int

/-- `struct ieee80211_local`; `nextId`, `log` and `joins` are the history. -/
structure Local where
  rocList : List RocWork
  hwRocStartTime : BitVec 64
  hwRocStartQueued : Bool
  rocCookieCounter : BitVec 64
  tmpChannel : Option Channel
  nextId : Nat
  log : List (Nat × Notice)
  joins : List Join

variable (hw : Hw) (env : Env)

/-! ## Requests -/

/-- `ieee80211_roc_notify_destroy` -/
def notifyDestroy (roc : RocWork) : List Notice :=
  (match roc.frame with
    | some skb => [.txStatus roc.mgmtTxCookie skb]
    | none => []) ++
  [if roc.mgmtTxCookie = 0 then .expired roc.cookie else .txExpired roc.mgmtTxCookie]

/-- `roc->start_time + msecs_to_jiffies(roc->duration) - now` -/
def remaining (now : BitVec 64) (roc : RocWork) : BitVec 64 :=
  roc.startTime + hw.msecsToJiffies roc.duration - now

/-- The condition of `ieee80211_end_finished_rocs`, where the remaining time is signed. -/
def finished (now : BitVec 64) (roc : RocWork) : Bool :=
  roc.abort || roc.hwBegun || (remaining hw now roc).toInt ≤ 0

/-- `ieee80211_handle_roc_started` -/
def handleRocStarted (roc : RocWork) (startTime : BitVec 64) : RocWork × List Notice :=
  if roc.notified then (roc, [])
  else
    let roc := { roc with startTime := startTime, started := true }
    if roc.mgmtTxCookie ≠ 0 then
      match roc.frame with
      | some skb => ({ roc with frame := none, notified := true }, [.transmitted skb])
      | none => ({ roc with notified := true }, [])
    else ({ roc with notified := true }, [.ready roc.cookie roc.reqDuration])

/-- On the interface and the channel of `roc`. -/
def samePlace (roc tmp : RocWork) : Bool := tmp.sdata = roc.sdata && tmp.chan = roc.chan

namespace Local

/-- A loop over `roc_list` that stops at the first entry without `p`. -/
def walk (s : Local) (p : RocWork → Bool) (f : RocWork → Option RocWork × List Notice) : Local :=
  let r := walkWhile RocWork.id p f s.rocList
  { s with rocList := r.1, log := s.log ++ r.2 }

end Local

/-! ## The end and the start of requests -/

/-- `ieee80211_end_finished_rocs` -/
def endFinishedRocs (now : BitVec 64) (s : Local) : Local :=
  s.walk RocWork.started fun roc =>
    if finished hw now roc then (none, notifyDestroy roc) else (some roc, [])

def longMax : Int := 2 ^ 63 - 1

/-- The value that `ieee80211_end_finished_rocs` returns. -/
def remainingDurMin (now : BitVec 64) : List RocWork → Int
  | [] => longMax
  | roc :: rest =>
    if !roc.started then longMax
    else if finished hw now roc then remainingDurMin now rest
    else min (remaining hw now roc).toInt (remainingDurMin now rest)

/-- `ieee80211_hw_roc_start` -/
def hwRocStart (s : Local) : Local :=
  { s.walk RocWork.started fun roc =>
      let r := handleRocStarted { roc with hwBegun := true } s.hwRocStartTime
      (some r.1, r.2) with
    hwRocStartQueued := false }

/-- `ieee80211_ready_on_channel` -/
def readyOnChannel (s : Local) : Local :=
  { s with hwRocStartTime := env.now, hwRocStartQueued := true }

/-- `_ieee80211_start_next_roc`; the shortest duration is only the delay of the work. -/
def startNextRocNow (s : Local) : Local :=
  match s.rocList with
  | [] => s
  | roc :: rest =>
    if roc.started then s
    else if hw.remainOnChannel then
      let run := rest.takeWhile (samePlace roc)
      let maxDur := run.foldl (fun d tmp => if tmp.duration > d then tmp.duration else d) roc.duration
      let type := if run.any fun tmp => tmp.type = .mgmtTx then .mgmtTx else roc.type
      if env.drvRemainOnChannel roc.sdata roc.chan maxDur type ≠ 0 then
        s.walk (samePlace roc) fun tmp => (some { tmp with started := true, abort := true }, [])
      else s.walk (samePlace roc) fun tmp => (some { tmp with started := true }, [])
    else
      let onChannel := roc.chan = env.confChan && !env.confNarrow
      let s := if onChannel then s else { s with tmpChannel := some roc.chan }
      s.walk (samePlace roc) fun tmp =>
        let r := handleRocStarted { tmp with onChannel := onChannel } env.now
        (some r.1, r.2)

/-- `ieee80211_start_next_roc`; without hardware support the work does it. -/
def startNextRoc (s : Local) : Local :=
  match s.rocList with
  | [] => s
  | roc :: _ =>
    if env.inReconfig then s
    else if roc.started then s
    else if hw.remainOnChannel then startNextRocNow hw env s
    else s

/-- `__ieee80211_roc_work` -/
def rocWork (s : Local) : Local :=
  if hw.remainOnChannel then s
  else
    match s.rocList with
    | [] => s
    | roc :: _ =>
      if !roc.started then startNextRocNow hw env s
      else
        let t := endFinishedRocs hw env.now s
        if remainingDurMin hw env.now s.rocList ≠ longMax then t
        else startNextRoc hw env (if roc.onChannel then t else { t with tmpChannel := none })

/-- `ieee80211_hw_roc_done` -/
def hwRocDone (s : Local) : Local := startNextRoc hw env (endFinishedRocs hw env.now s)

/-! ## New requests -/

/-- The two checks of `ieee80211_coalesce_hw_started_roc`. -/
def fits (now : BitVec 64) (duration : BitVec 32) (cur : RocWork) : Bool :=
  !(!cur.hwBegun && cur.duration < duration) && !(hw.jiffiesToMsecs (remaining hw now cur) < duration)

/-- `ieee80211_coalesce_hw_started_roc`: the new request, as it is put on the list. -/
def coalesceHwStartedRoc (now : BitVec 64) (newRoc curRoc : RocWork) : Option (RocWork × List Notice) :=
  if !curRoc.started then none
  else if fits hw now newRoc.duration curRoc then
    some (if curRoc.hwBegun then handleRocStarted { newRoc with hwBegun := true } now else (newRoc, []))
  else none

/-- What the queueing loop has done: the list, what it has told, and the request it coalesced into, or that
    `ieee80211_recalc_sw_work` is called. -/
structure Queued where
  list : List RocWork
  notices : List Notice
  recalc : Bool
  cur : Option RocWork

/-- The loop of `ieee80211_start_roc_work`. -/
def queueRoc (roc : RocWork) : (combineStarted : Bool) → List RocWork → Option Queued
  | _, [] => none
  | combineStarted, tmp :: rest =>
    let next := fun combineStarted =>
      (queueRoc roc combineStarted rest).map fun q => { q with list := tmp :: q.list }
    if !samePlace roc tmp then next combineStarted
    else if !tmp.started then
      some { list := tmp :: roc :: rest, notices := [], recalc := false, cur := none }
    else if !combineStarted then next false
    else if !hw.remainOnChannel then
      let elapsed := hw.jiffiesToMsecs (env.now - tmp.startTime)
      if elapsed + roc.duration > hw.maxRemainOnChannelDuration then next false
      else
        let r := handleRocStarted { roc with onChannel := tmp.onChannel } env.now
        some { list := tmp :: r.1 :: rest, notices := r.2, recalc := true, cur := none }
    else
      match coalesceHwStartedRoc hw env.now roc tmp with
      | some r => some { list := tmp :: r.1 :: rest, notices := r.2, recalc := false, cur := some tmp }
      | none => next false

def Local.accept (s : Local) (txskb : Option Nat) (list : List RocWork) (notices : List Notice) : Local :=
  { s with
    rocList := list
    log := s.log ++ tag s.nextId (.accepted txskb :: notices)
    nextId := s.nextId + 1 }

/-- `ieee80211_mgmt_tx_cookie` -/
def mgmtTxCookie (s : Local) : BitVec 64 × Local :=
  let counter := s.rocCookieCounter + 1
  let counter := if counter = 0 then counter + 1 else counter
  (counter, { s with rocCookieCounter := counter })

/-- The request as `ieee80211_start_roc_work` sets it up; a frame comes with its cookie. -/
def newRoc (s : Local) (sdata : Nat) (channel : Channel) (duration : BitVec 32)
    (txskb : Option (Nat × BitVec 64)) (type : RocType) : RocWork × Local :=
  let duration := if duration = 0 then 10 else duration
  let r := match txskb with
    | none => mgmtTxCookie s
    | some _ => (0, s)
  ({ id := s.nextId, sdata := sdata, chan := channel, started := false, abort := false, hwBegun := false,
     notified := false, onChannel := false, startTime := 0, duration := duration, reqDuration := duration,
     frame := txskb.map Prod.fst, cookie := r.1, mgmtTxCookie := (txskb.map Prod.snd).getD 0, type := type },
    r.2)

/-- `ieee80211_start_roc_work` from where the request is allocated. -/
def enqueue (roc : RocWork) (s : Local) : Int × Local :=
  if s.rocList = [] && !env.scanning && !env.radarRequired then
    if !hw.remainOnChannel then (0, s.accept roc.frame [roc] [])
    else
      let ret := env.drvRemainOnChannel roc.sdata roc.chan roc.duration roc.type
      if ret ≠ 0 then (ret, s)
      else (0, s.accept roc.frame [{ roc with started := true }] [])
  else
    match queueRoc hw env roc true s.rocList with
    | none => (0, s.accept roc.frame (s.rocList ++ [roc]) [])
    | some q =>
      let t := s.accept roc.frame q.list q.notices
      let t := { t with joins :=
        t.joins ++ (q.cur.map fun cur => { cur := cur, duration := roc.duration, now := env.now : Join }).toList }
      (0, if q.recalc then endFinishedRocs hw env.now t else t)

/-- `ieee80211_start_roc_work` -/
def startRocWork (s : Local) (sdata : Nat) (channel : Channel) (duration : BitVec 32)
    (txskb : Option (Nat × BitVec 64)) (type : RocType) : Int × Local :=
  if channel.freqOffset ≠ 0 then (-95, s)
  else if !hw.emulateChanctx && !hw.remainOnChannel then (-95, s)
  else if env.noMemory then (-12, s)
  else
    let r := newRoc s sdata channel duration txskb type
    enqueue hw env r.1 r.2

/-- `ieee80211_remain_on_channel` -/
def remainOnChannel (s : Local) (sdata : Nat) (chan : Channel) (duration : BitVec 32) : Int × Local :=
  startRocWork hw env s sdata chan duration none .normal

/-- `ieee80211_mgmt_tx` for a frame that needs to go off-channel, from its cookie on: without a wait for the
    acknowledgement the cookie is a dummy, else `ieee80211_attach_ack_skb` takes one. -/
def mgmtTx (s : Local) (sdata : Nat) (chan : Channel) (wait : BitVec 32) (skb : Nat) (dontWaitForAck : Bool) :
    Int × Local :=
  let r := if dontWaitForAck then (0xffffffff, s) else mgmtTxCookie s
  startRocWork hw env r.2 sdata chan wait (some (skb, r.1)) .mgmtTx

/-! ## Cancelling -/

/-- `ieee80211_cancel_roc` -/
def cancelRoc (s : Local) (cookie : BitVec 64) (mgmtTx : Bool) : Int × Local :=
  if cookie = 0 then (-2, s)
  else
    let s := if s.hwRocStartQueued then hwRocStart s else s
    match s.rocList.find? fun roc => if mgmtTx then roc.mgmtTxCookie = cookie else roc.cookie = cookie with
    | none => (-2, s)
    | some found =>
      if !found.started then
        (0, s.walk (fun _ => true) fun roc =>
          if roc.id = found.id then (none, notifyDestroy roc) else (some roc, []))
      else if hw.remainOnChannel then
        let ret := env.drvCancelRemainOnChannel found.sdata
        if ret ≠ 0 then (ret, s)
        else (0, startNextRoc hw env (s.walk RocWork.started fun roc => (none, notifyDestroy roc)))
      else
        (0, s.walk (fun _ => true) fun roc =>
          if roc.id = found.id then (some { roc with abort := true }, []) else (some roc, []))

/-- `ieee80211_roc_purge`, of one interface or of all -/
def rocPurge (s : Local) (sdata : Option Nat) : Local :=
  let other := fun roc : RocWork => sdata.any fun d => roc.sdata ≠ d
  let t := s.walk (fun _ => true) fun roc =>
    if other roc then (some roc, [])
    else if roc.started then
      if hw.remainOnChannel then (none, notifyDestroy roc)
      else (some { roc with abort := true }, [])
    else (none, notifyDestroy roc)
  let workToDo := !hw.remainOnChannel && s.rocList.any fun roc => !other roc && roc.started
  if workToDo then rocWork hw env t else t

end Mac80211.Offchannel
