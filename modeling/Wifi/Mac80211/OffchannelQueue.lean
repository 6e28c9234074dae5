import Wifi.Mac80211.OffchannelInv

/-!
# Off-channel requests and what advances them

* `Dev` — the requests with the works that are queued, the operation the driver holds, and the scan, the
  restart and the radar detection that keep requests waiting.
* `Dev.startNextRoc`, `Dev.rocWork`, … — the functions of `Offchannel`, with what they queue and ask the driver.
* `Op`, `Step` — the operations; the works run when they are queued.
* `Op.run_loc` — to the requests the operations do what the functions of `Offchannel` do.
-/

namespace Mac80211.Offchannel

open Ledger Wireless.Chan

/-- The requests, and what is around them; `loc` is `struct ieee80211_local`. -/
structure Dev where
  loc : Local
  rocWorkQueued : Bool
  hwRocDoneQueued : Bool
  /-- a remain-on-channel operation that is neither reported as expired nor cancelled -/
  driverHolds : Bool
  scanning : Bool
  inReconfig : Bool
  radarRequired : Bool

namespace Dev

variable (hw : Hw) (env : Env)

/-- What is around an operation, as the device sees it. -/
def view (s : Dev) (env : Env) : Env :=
  { env with scanning := s.scanning, inReconfig := s.inReconfig, radarRequired := s.radarRequired }

/-- The driver's answer in `_ieee80211_start_next_roc`. -/
def startRet (roc : RocWork) (rest : List RocWork) : Int :=
  let run := rest.takeWhile (samePlace roc)
  let maxDur := run.foldl (fun d tmp => if tmp.duration > d then tmp.duration else d) roc.duration
  let type := if run.any fun tmp => tmp.type = .mgmtTx then .mgmtTx else roc.type
  env.drvRemainOnChannel roc.sdata roc.chan maxDur type

/-- `_ieee80211_start_next_roc` -/
def startNextRocNow (s : Dev) : Dev :=
  let t := { s with loc := Offchannel.startNextRocNow hw env s.loc }
  match s.loc.rocList with
  | [] => t
  | roc :: rest =>
    if roc.started then t
    else if hw.remainOnChannel then
      if startRet env roc rest ≠ 0 then { t with hwRocDoneQueued := true }
      else { t with driverHolds := true }
    else { t with rocWorkQueued := true }

/-- `ieee80211_start_next_roc` -/
def startNextRoc (s : Dev) : Dev :=
  match s.loc.rocList with
  | [] => s
  | roc :: _ =>
    if env.inReconfig then s
    else if roc.started then s
    else if hw.remainOnChannel then startNextRocNow hw env s
    else { s with rocWorkQueued := true }

/-- `__ieee80211_roc_work` -/
def rocWork (s : Dev) : Dev :=
  if hw.remainOnChannel then s
  else
    match s.loc.rocList with
    | [] => s
    | roc :: _ =>
      if !roc.started then startNextRocNow hw env s
      else
        let t := { s with loc := endFinishedRocs hw env.now s.loc }
        if remainingDurMin hw env.now s.loc.rocList ≠ longMax then { t with rocWorkQueued := true }
        else startNextRoc hw env
          { t with loc := if roc.onChannel then t.loc else { t.loc with tmpChannel := none } }

/-- `ieee80211_hw_roc_done` -/
def hwRocDone (s : Dev) : Dev :=
  startNextRoc hw env { s with loc := endFinishedRocs hw env.now s.loc }

/-- `ieee80211_start_roc_work` from where the request is allocated. -/
def enqueue (roc : RocWork) (s : Dev) : Dev :=
  let t := { s with loc := (Offchannel.enqueue hw env roc s.loc).2 }
  if s.loc.rocList = [] && !env.scanning && !env.radarRequired then
    if !hw.remainOnChannel then { t with rocWorkQueued := true }
    else if env.drvRemainOnChannel roc.sdata roc.chan roc.duration roc.type ≠ 0 then t
    else { t with driverHolds := true }
  else
    match queueRoc hw env roc true s.loc.rocList with
    | none => t
    | some q =>
      if q.recalc && remainingDurMin hw env.now q.list ≠ longMax then { t with rocWorkQueued := true }
      else t

/-- `ieee80211_start_roc_work` -/
def startRocWork (s : Dev) (sdata : Nat) (channel : Channel) (duration : BitVec 32)
    (txskb : Option (Nat × BitVec 64)) (type : RocType) : Dev :=
  if channel.freqOffset ≠ 0 then s
  else if !hw.emulateChanctx && !hw.remainOnChannel then s
  else if env.noMemory then s
  else
    let r := newRoc s.loc sdata channel duration txskb type
    enqueue hw env r.1 { s with loc := r.2 }

/-- The request of `ieee80211_mgmt_tx`. -/
def mgmtTx (s : Dev) (sdata : Nat) (chan : Channel) (wait : BitVec 32) (skb : Nat) (dontWaitForAck : Bool) :
    Dev :=
  let r := if dontWaitForAck then (0xffffffff, s.loc) else mgmtTxCookie s.loc
  startRocWork hw env { s with loc := r.2 } sdata chan wait (some (skb, r.1)) .mgmtTx

/-- `ieee80211_cancel_roc` -/
def cancelRoc (s : Dev) (cookie : BitVec 64) (mgmtTx : Bool) : Dev :=
  if cookie = 0 then s
  else
    let loc := if s.loc.hwRocStartQueued then hwRocStart s.loc else s.loc
    match loc.rocList.find? fun roc => if mgmtTx then roc.mgmtTxCookie = cookie else roc.cookie = cookie with
    | none => { s with loc := loc }
    | some found =>
      if !found.started then
        { s with loc := loc.walk (fun _ => true) fun roc =>
            if roc.id = found.id then (none, notifyDestroy roc) else (some roc, []) }
      else if hw.remainOnChannel then
        if env.drvCancelRemainOnChannel found.sdata ≠ 0 then { s with loc := loc }
        else
          startNextRoc hw env
            { s with
              loc := loc.walk RocWork.started fun roc => (none, notifyDestroy roc)
              hwRocDoneQueued := false
              driverHolds := false }
      else
        { s with
          loc := loc.walk (fun _ => true) fun roc =>
            if roc.id = found.id then (some { roc with abort := true }, []) else (some roc, [])
          rocWorkQueued := true }

/-- `ieee80211_roc_purge` spares the request: it is for another interface. -/
def spared (sdata : Option Nat) (roc : RocWork) : Bool := sdata.any fun d => roc.sdata ≠ d

/-- `ieee80211_roc_purge` has the driver cancel its operation. -/
def purgeCancels (sdata : Option Nat) (s : Dev) : Bool :=
  hw.remainOnChannel && s.loc.rocList.any fun roc => !spared sdata roc && roc.started

/-- `ieee80211_roc_purge` -/
def rocPurge (s : Dev) (sdata : Option Nat) : Dev :=
  let loc := s.loc.walk (fun _ => true) fun roc =>
    if spared sdata roc then (some roc, [])
    else if roc.started then
      if hw.remainOnChannel then (none, notifyDestroy roc)
      else (some { roc with abort := true }, [])
    else (none, notifyDestroy roc)
  let t := { s with loc := loc }
  let workToDo := !hw.remainOnChannel && s.loc.rocList.any fun roc => !spared sdata roc && roc.started
  let cancelled := s.loc.rocList.any fun roc =>
    !spared sdata roc && roc.started && env.drvCancelRemainOnChannel roc.sdata = 0
  if workToDo then rocWork hw env t
  else if cancelled then { t with driverHolds := false }
  else t

end Dev

/-! ## Operations -/

inductive DevOp where
  | remainOnChannel (sdata : Nat) (chan : Channel) (duration : BitVec 32)
  | mgmtTx (sdata : Nat) (chan : Channel) (wait : BitVec 32) (skb : Nat) (dontWaitForAck : Bool)
  /-- `ieee80211_ready_on_channel` -/
  | readyOnChannel
  /-- `ieee80211_remain_on_channel_expired` -/
  | remainOnChannelExpired
  | hwRocStart
  | hwRocDone
  | rocWork
  | cancelRoc (cookie : BitVec 64) (mgmtTx : Bool)
  | rocPurge (sdata : Option Nat)
  /-- `__ieee80211_start_scan` -/
  | startScan
  /-- `__ieee80211_scan_completed` -/
  | scanCompleted
  /-- `ieee80211_restart_hw` -/
  | restartHw
  /-- the end of `ieee80211_reconfig` -/
  | reconfig
  /-- `ieee80211_handle_reconfig_failure` -/
  | reconfigFailure
  | radar (required : Bool)

/-- The operation can happen: a work runs when it is queued, and `ieee80211_can_scan` wants an empty list. -/
def DevOp.enabled (s : Dev) : DevOp → Bool
  | .hwRocStart => s.loc.hwRocStartQueued
  | .hwRocDone => s.hwRocDoneQueued
  | .rocWork => s.rocWorkQueued
  | .startScan => s.loc.rocList = [] && !s.scanning
  | .scanCompleted => s.scanning
  | .reconfig | .reconfigFailure => s.inReconfig
  | _ => true

def DevOp.run (hw : Hw) (env : Env) (s : Dev) : DevOp → Dev
  | .remainOnChannel sdata chan duration =>
    s.startRocWork hw (s.view env) sdata chan duration none .normal
  | .mgmtTx sdata chan wait skb dontWaitForAck => s.mgmtTx hw (s.view env) sdata chan wait skb dontWaitForAck
  | .readyOnChannel => { s with loc := Offchannel.readyOnChannel env s.loc }
  | .remainOnChannelExpired => { s with driverHolds := false, hwRocDoneQueued := true }
  | .hwRocStart => { s with loc := Offchannel.hwRocStart s.loc }
  | .hwRocDone => Dev.hwRocDone hw (s.view env) { s with hwRocDoneQueued := false }
  | .rocWork => Dev.rocWork hw (s.view env) { s with rocWorkQueued := false }
  | .cancelRoc cookie tx => s.cancelRoc hw (s.view env) cookie tx
  | .rocPurge sdata => s.rocPurge hw (s.view env) sdata
  | .startScan => { s with scanning := true }
  | .scanCompleted =>
    let t := { s with scanning := false }
    t.startNextRoc hw (t.view env)
  | .restartHw => { s with inReconfig := true }
  | .reconfig =>
    let t := { s with inReconfig := false }
    t.startNextRoc hw (t.view env)
  | .reconfigFailure => { s with inReconfig := false }
  | .radar required => { s with radarRequired := required }

def DevStep (hw : Hw) (s : Dev) (i : Env × DevOp) (s' : Dev) : Prop :=
  i.2.enabled s = true ∧ s' = i.2.run hw i.1 s

/-- `ieee80211_roc_setup` -/
def DevSetup (s : Dev) : Prop := s.loc.rocList = []

/-! ## To the requests, the functions of `Offchannel` -/

section Loc

variable {hw : Hw} {env : Env} {s : Dev}

theorem startNextRocNow_loc : (s.startNextRocNow hw env).loc = startNextRocNow hw env s.loc := by
  unfold Dev.startNextRocNow
  dsimp only
  cases s.loc.rocList with
  | nil => rfl
  | cons roc rest =>
    dsimp only
    split_ifs
    all_goals rfl

theorem startNextRoc_loc : (s.startNextRoc hw env).loc = startNextRoc hw env s.loc := by
  unfold Dev.startNextRoc startNextRoc
  cases s.loc.rocList with
  | nil => rfl
  | cons roc rest =>
    dsimp only
    split_ifs
    · rfl
    · rfl
    · exact startNextRocNow_loc
    · rfl

theorem rocWork_loc : (s.rocWork hw env).loc = rocWork hw env s.loc := by
  unfold Dev.rocWork rocWork
  by_cases hhw : hw.remainOnChannel = true
  · rw [if_pos hhw, if_pos hhw]
  rw [if_neg hhw, if_neg hhw]
  cases s.loc.rocList with
  | nil => rfl
  | cons roc rest =>
    dsimp only
    by_cases hs : (!roc.started) = true
    · rw [if_pos hs, if_pos hs]
      exact startNextRocNow_loc
    rw [if_neg hs, if_neg hs]
    by_cases hd : remainingDurMin hw env.now (roc :: rest) ≠ longMax
    · rw [if_pos hd, if_pos hd]
    · rw [if_neg hd, if_neg hd]
      exact startNextRoc_loc

theorem hwRocDone_loc : (s.hwRocDone hw env).loc = hwRocDone hw env s.loc := startNextRoc_loc

theorem enqueue_loc {roc : RocWork} : (s.enqueue hw env roc).loc = (enqueue hw env roc s.loc).2 := by
  unfold Dev.enqueue
  dsimp only
  split_ifs
  · rfl
  · rfl
  · rfl
  · cases queueRoc hw env roc true s.loc.rocList with
    | none => rfl
    | some q =>
      dsimp only
      split_ifs
      all_goals rfl

theorem startRocWork_loc {sdata : Nat} {channel : Channel} {duration : BitVec 32}
    {txskb : Option (Nat × BitVec 64)} {type : RocType} :
    (s.startRocWork hw env sdata channel duration txskb type).loc =
      (startRocWork hw env s.loc sdata channel duration txskb type).2 := by
  unfold Dev.startRocWork startRocWork
  split_ifs
  · rfl
  · rfl
  · rfl
  · exact enqueue_loc

theorem cancelRoc_loc {cookie : BitVec 64} {tx : Bool} :
    (s.cancelRoc hw env cookie tx).loc = (cancelRoc hw env s.loc cookie tx).2 := by
  unfold Dev.cancelRoc cancelRoc
  by_cases hc : cookie = 0
  · rw [if_pos hc, if_pos hc]
  rw [if_neg hc, if_neg hc]
  dsimp only
  generalize (if s.loc.hwRocStartQueued then hwRocStart s.loc else s.loc) = loc
  generalize (loc.rocList.find? fun roc =>
    if tx = true then decide (roc.mgmtTxCookie = cookie) else decide (roc.cookie = cookie)) = r
  cases r with
  | none => rfl
  | some found =>
    dsimp only
    split_ifs
    · rfl
    · rfl
    · exact startNextRoc_loc
    · rfl

theorem rocPurge_loc {sdata : Option Nat} : (s.rocPurge hw env sdata).loc = rocPurge hw env s.loc sdata := by
  unfold Dev.rocPurge rocPurge
  dsimp only
  by_cases hw' : (!hw.remainOnChannel && s.loc.rocList.any fun roc =>
      !Dev.spared sdata roc && roc.started) = true
  · rw [if_pos hw']
    exact rocWork_loc.trans (if_pos hw').symm
  · rw [if_neg hw']
    refine Eq.trans ?_ (if_neg hw').symm
    split_ifs
    all_goals rfl

end Loc

/-- **To the requests an operation does what the function of `Offchannel` does.** -/
theorem DevOp.run_loc (hw : Hw) (env : Env) (s : Dev) (op : DevOp) : (op.run hw env s).loc = match op with
    | .remainOnChannel sdata chan duration => (Offchannel.remainOnChannel hw (s.view env) s.loc sdata chan duration).2
    | .mgmtTx sdata chan wait skb dontWaitForAck =>
      (Offchannel.mgmtTx hw (s.view env) s.loc sdata chan wait skb dontWaitForAck).2
    | .readyOnChannel => Offchannel.readyOnChannel env s.loc
    | .hwRocStart => Offchannel.hwRocStart s.loc
    | .hwRocDone => Offchannel.hwRocDone hw (s.view env) s.loc
    | .rocWork => Offchannel.rocWork hw (s.view env) s.loc
    | .cancelRoc cookie tx => (Offchannel.cancelRoc hw (s.view env) s.loc cookie tx).2
    | .rocPurge sdata => Offchannel.rocPurge hw (s.view env) s.loc sdata
    | .scanCompleted =>
      Offchannel.startNextRoc hw { s.view env with scanning := false } s.loc
    | .reconfig => Offchannel.startNextRoc hw { s.view env with inReconfig := false } s.loc
    | .remainOnChannelExpired | .startScan | .restartHw | .reconfigFailure | .radar _ => s.loc := by
  cases op with
  | remainOnChannel => exact startRocWork_loc
  | mgmtTx => exact startRocWork_loc
  | hwRocDone => exact hwRocDone_loc
  | rocWork => exact rocWork_loc
  | cancelRoc => exact cancelRoc_loc
  | rocPurge => exact rocPurge_loc
  | scanCompleted => exact startNextRoc_loc
  | reconfig => exact startNextRoc_loc
  | readyOnChannel => rfl
  | remainOnChannelExpired => rfl
  | hwRocStart => rfl
  | startScan => rfl
  | restartHw => rfl
  | reconfigFailure => rfl
  | radar => rfl

end Mac80211.Offchannel
