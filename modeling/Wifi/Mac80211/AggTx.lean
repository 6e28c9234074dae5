import Wifi.Linux.KernelApi

/-!
# Transmit block-ack sessions (`linux/net/mac80211/agg-tx.c`, `ht.c`)

The state of one TID of one station:

* `TidAmpduTx` — `struct tid_ampdu_tx`; `AggState` has the bits of its `state`.
* `AmpduMlme` — the pointers `tid_start_tx[tid]` and `tid_tx[tid]`, the counters beside them, and what
  was told to the driver and sent to the peer.
* `Async` — what runs without the wiphy mutex: the calls of the driver, timers and the TX path.
* `Op` — these, and the functions that run with the mutex.  While such a function is in the driver,
  any of the first can run: they come with the `DrvReply`.

A `TidAmpduTx` has an address that is not used again.  `put` and `out` remember the frames that went
to `pending` and what became of them; nothing reads them, nor the `log`.
-/

namespace Mac80211.AggTx

/-! ## State -/

/-- The bits `HT_AGG_STATE_*` of `tid_tx->state`. -/
structure AggState where
  drvReady : Bool := false
  responseReceived : Bool := false
  operational : Bool := false
  stopping : Bool := false
  wantStart : Bool := false
  wantStop : Bool := false
  startCb : Bool := false
  stopCb : Bool := false
  sentAddba : Bool := false
  deriving DecidableEq, Repr

/-- `WLAN_BACK_INITIATOR` and `WLAN_BACK_RECIPIENT` -/
inductive BackParties where
  | recipient | initiator
  deriving DecidableEq, Repr

abbrev Frame := Nat

structure TidAmpduTx where
  addr : Nat
  state : AggState
  /-- when `addba_resp_timer` is pending -/
  addbaRespTimer : Option (BitVec 64)
  /-- when `session_timer` is pending -/
  sessionTimer : Option (BitVec 64)
  pending : List Frame
  lastTx : BitVec 64
  timeout : BitVec 16
  dialogToken : BitVec 8
  stopInitiator : BackParties
  txStop : Bool
  bufSize : BitVec 16
  ssn : BitVec 16
  amsdu : Bool
  deriving DecidableEq, Repr

/-- `enum ieee80211_ampdu_mlme_action`, for the initiator. -/
inductive AmpduAction where
  | txStart | txStopCont | txStopFlush | txStopFlushCont | txOperational
  deriving DecidableEq, Repr

/-- `IEEE80211_AMPDU_TX_STOP_*` -/
def AmpduAction.isStop : AmpduAction → Bool
  | .txStopCont | .txStopFlush | .txStopFlushCont => true
  | .txStart | .txOperational => false

/-- `struct ieee80211_ampdu_params` -/
structure AmpduParams where
  action : AmpduAction
  ssn : BitVec 16 := 0
  bufSize : BitVec 16 := 0
  amsdu : Bool := false
  timeout : BitVec 16 := 0
  deriving DecidableEq, Repr

/-- What the driver is told and what is sent, for the session at an address. -/
inductive Event where
  | ampduAction (addr : Nat) (params : AmpduParams)
  | addbaRequest (addr : Nat) (dialogToken : BitVec 8) (ssn bufSize timeout : BitVec 16)
  | delba (addr : Nat) (party : BackParties)
  deriving DecidableEq, Repr

def Event.addr : Event → Nat
  | .ampduAction addr _ => addr
  | .addbaRequest addr .. => addr
  | .delba addr _ => addr

/-- What becomes of a frame on `pending`. -/
inductive Fate where
  /-- moved to `local->pending[queue]` -/
  | spliced
  /-- dropped when too many wait -/
  | overflow
  /-- freed with the station -/
  | purged
  deriving DecidableEq, Repr

/-- The part of `sta->ampdu_mlme` for the TID. -/
structure AmpduMlme where
  tidStartTx : Option TidAmpduTx
  tidTx : Option TidAmpduTx
  addbaReqNum : BitVec 8
  lastAddbaReqTime : BitVec 64
  dialogTokenAllocator : BitVec 8
  nextAddr : Nat
  log : List Event
  put : List Frame
  out : List (Frame × Fate)
  /-- the station has been freed -/
  destroyed : Bool

/-- The hardware, the interface and the station, as far as they do not change. -/
structure Conf where
  /-- `sta->reserved_tid == tid` -/
  reserved : Bool
  htSupported : Bool
  band6Ghz : Bool
  /-- `local->ops->ampdu_action` -/
  ampduAction : Bool
  ampduAggregation : Bool
  txAmpduSetupInHw : Bool
  /-- `tid < IEEE80211_FIRST_TSPEC_TSID` -/
  tidBelowTspec : Bool
  /-- the type of the interface is one that can have sessions -/
  vifType : Bool
  isAdhoc : Bool
  hasHe : Bool
  maxTxAggregationSubframes : BitVec 16
  /-- `sta->sta.txq[tid]` is not `NULL` -/
  txq : Bool
  /-- `TU_TO_JIFFIES` -/
  tuToJiffies : BitVec 16 → BitVec 64

def HT_AGG_MAX_RETRIES : BitVec 8 := 15
def HT_AGG_BURST_RETRIES : BitVec 8 := 3
def STA_MAX_TX_BUFFER : Nat := 64
def IEEE80211_MAX_AMPDU_BUF_HT : BitVec 16 := 0x40
def IEEE80211_AMPDU_TX_START_IMMEDIATE : Int := 1
def IEEE80211_AMPDU_TX_START_DELAY_ADDBA : Int := 2
/-- `-EIO` -/
def negEIO : Int := -5

namespace AmpduMlme

def modTx (s : AmpduMlme) (f : TidAmpduTx → TidAmpduTx) : AmpduMlme := { s with tidTx := s.tidTx.map f }

def modState (s : AmpduMlme) (f : AggState → AggState) : AmpduMlme :=
  s.modTx fun t => { t with state := f t.state }

def logEvent (s : AmpduMlme) (e : Event) : AmpduMlme := { s with log := s.log ++ [e] }

end AmpduMlme

/-! ## Without the wiphy mutex -/

/-- The arguments of `ieee80211_start_tx_ba_session`, with the flags of the station at that time. -/
structure StartArgs where
  timeout : BitVec 16
  jiffies : BitVec 64
  blockBa : Bool
  mfp : Bool
  authorized : Bool
  kzalloc : Bool

/-- The calls that do not take the wiphy mutex. -/
inductive Async where
  | startTxBaSession (a : StartArgs)
  | stopTxBaSession
  | startTxBaCbIrqsafe
  | stopTxBaCbIrqsafe
  | addbaRespTimerExpired
  | sessionTimerExpired (jiffies : BitVec 64)
  | txPrepAgg (frame : Frame) (jiffies : BitVec 64)

variable (k : KernelApi) (c : Conf)

/-- The checks of `ieee80211_start_tx_ba_session` that give `-EINVAL`. -/
def startInvalid (a : StartArgs) : Bool :=
  c.reserved || (!c.htSupported && !c.band6Ghz) || !c.ampduAction ||
    (!c.ampduAggregation || c.txAmpduSetupInHw) || !c.tidBelowTspec || !c.vifType || a.blockBa ||
    (a.mfp && !a.authorized) || (c.isAdhoc && !c.htSupported)

namespace AmpduMlme

/-- `ieee80211_start_tx_ba_session` -/
def startTxBaSession (s : AmpduMlme) (a : StartArgs) : AmpduMlme :=
  if startInvalid c a then s
  else if s.addbaReqNum > HT_AGG_MAX_RETRIES then s
  else if s.addbaReqNum > HT_AGG_BURST_RETRIES ∧
      k.timeAfter (s.lastAddbaReqTime + BitVec.ofNat 64 (15 * k.hz)) a.jiffies = true then s
  else if s.tidTx.isSome || s.tidStartTx.isSome then s
  else if !a.kzalloc then s
  else
    { s with
      dialogTokenAllocator := s.dialogTokenAllocator + 1
      nextAddr := s.nextAddr + 1
      tidStartTx := some
        { addr := s.nextAddr
          state := { wantStart := true }
          addbaRespTimer := none
          sessionTimer := none
          pending := []
          lastTx := 0
          timeout := a.timeout
          dialogToken := s.dialogTokenAllocator + 1
          stopInitiator := .recipient
          txStop := false
          bufSize := 0
          ssn := 0
          amsdu := false } }

/-- `ieee80211_stop_tx_ba_session` -/
def stopTxBaSession (s : AmpduMlme) : AmpduMlme :=
  s.modState fun b => if b.stopping then b else { b with wantStop := true }

/-- `ieee80211_start_tx_ba_cb_irqsafe` -/
def startTxBaCbIrqsafe (s : AmpduMlme) : AmpduMlme := s.modState fun b => { b with startCb := true }

/-- `ieee80211_stop_tx_ba_cb_irqsafe` -/
def stopTxBaCbIrqsafe (s : AmpduMlme) : AmpduMlme := s.modState fun b => { b with stopCb := true }

/-- `sta_addba_resp_timer_expired` -/
def addbaRespTimerExpired (s : AmpduMlme) : AmpduMlme :=
  match s.tidTx with
  | none => s
  | some t =>
    if t.addbaRespTimer.isNone then s
    else
      let s := s.modTx fun t => { t with addbaRespTimer := none }
      if t.state.responseReceived then s else s.stopTxBaSession

/-- `sta_tx_agg_session_timer_expired` -/
def sessionTimerExpired (s : AmpduMlme) (jiffies : BitVec 64) : AmpduMlme :=
  match s.tidTx with
  | none => s
  | some t =>
    if t.sessionTimer.isNone then s
    else
      let s := s.modTx fun t => { t with sessionTimer := none }
      if t.state.stopping then s
      else
        let timeout := t.lastTx + c.tuToJiffies t.timeout
        if k.timeAfter timeout jiffies then s.modTx fun t => { t with sessionTimer := some timeout }
        else s.stopTxBaSession

/-- `ieee80211_tx_prep_agg` (`tx.c`): the frame goes on, or waits on `pending`. -/
def txPrepAgg (s : AmpduMlme) (frame : Frame) (jiffies : BitVec 64) : AmpduMlme :=
  match s.tidTx with
  | none => s
  | some t =>
    if t.state.operational then s.modTx fun t => { t with lastTx := jiffies }
    else if t.state.wantStart then s
    else if c.txq then s
    else
      let pending := t.pending ++ [frame]
      if pending.length > STA_MAX_TX_BUFFER then
        { s with
          tidTx := some { t with pending := pending.drop 1 }
          put := s.put ++ [frame]
          out := s.out ++ (pending.take 1).map fun f => (f, .overflow) }
      else
        { s with
          tidTx := some { t with pending := pending }
          put := s.put ++ [frame] }

def runAsync (s : AmpduMlme) : Async → AmpduMlme
  | .startTxBaSession a => s.startTxBaSession k c a
  | .stopTxBaSession => s.stopTxBaSession
  | .startTxBaCbIrqsafe => s.startTxBaCbIrqsafe
  | .stopTxBaCbIrqsafe => s.stopTxBaCbIrqsafe
  | .addbaRespTimerExpired => s.addbaRespTimerExpired
  | .sessionTimerExpired jiffies => s.sessionTimerExpired k c jiffies
  | .txPrepAgg frame jiffies => s.txPrepAgg c frame jiffies

end AmpduMlme

/-! ## With the wiphy mutex -/

/-- What the driver returns, and what runs in the meantime. -/
structure DrvReply where
  /-- `check_sdata_in_driver` -/
  inDriver : Bool
  ret : Int
  /-- `params->ssn`, which the driver can change -/
  ssn : BitVec 16
  meanwhile : List Async

/-- `enum ieee80211_agg_stop_reason` -/
inductive AggStopReason where
  | declined | localRequest | peerRequest | destroySta
  deriving DecidableEq, Repr

/-- The session in `__ieee80211_stop_tx_ba_session`, before the driver is told. -/
def TidAmpduTx.setStopping (reason : AggStopReason) (t : TidAmpduTx) : TidAmpduTx :=
  { t with
    state := { t.state with stopping := true, operational := false }
    addbaRespTimer := none
    sessionTimer := none
    stopInitiator := if reason = .peerRequest then .recipient else .initiator
    txStop := decide (reason = .localRequest) }

/-- What `ieee80211_send_addba_with_timeout` reads of its environment. -/
structure AddbaEnv where
  jiffies : BitVec 64
  /-- the frame can be allocated -/
  alloc : Bool

structure AddbaResp where
  dialogToken : BitVec 8
  /-- `status == WLAN_STATUS_SUCCESS` -/
  success : Bool
  bufSize : BitVec 16
  amsdu : Bool
  timeout : BitVec 16

structure WorkEnv where
  /-- `WLAN_STA_BLOCK_BA` -/
  blocked : Bool
  /-- a fragmented frame is on its way -/
  frags : Bool
  /-- `sta->tid_seq[tid] >> 4` -/
  tidSeq : BitVec 16
  addba : AddbaEnv
  start : DrvReply
  operational : DrvReply
  stop : DrvReply

namespace AmpduMlme

/-- `drv_ampdu_action` (`driver-ops.c`) -/
def drvAmpduAction (s : AmpduMlme) (addr : Nat) (r : DrvReply) (params : AmpduParams) :
    AmpduMlme × Int :=
  if !r.inDriver then (s, negEIO)
  else (r.meanwhile.foldl (runAsync k c) (s.logEvent (.ampduAction addr params)), r.ret)

/-- `ieee80211_agg_splice_packets` -/
def splicePackets (s : AmpduMlme) : AmpduMlme :=
  match s.tidTx with
  | none => s
  | some t =>
    { s with
      tidTx := some { t with pending := [] }
      out := s.out ++ t.pending.map fun f => (f, .spliced) }

/-- `ieee80211_remove_tid_tx` -/
def removeTidTx (s : AmpduMlme) : AmpduMlme := { s.splicePackets with tidTx := none }

/-- `__ieee80211_stop_tx_ba_session` -/
def stopTxBa (s : AmpduMlme) (reason : AggStopReason) (r : DrvReply) : AmpduMlme :=
  let action : AmpduAction := if reason = .destroySta then .txStopFlush else .txStopCont
  let s := { s with tidStartTx := none }
  match s.tidTx with
  | none => s
  | some t =>
    if t.state.stopping then
      if reason ≠ .destroySta then s
      else (s.drvAmpduAction k c t.addr r { action := .txStopFlushCont }).1
    else if t.state.wantStart then
      { s with tidTx := none }
    else
      let s := s.modTx (TidAmpduTx.setStopping reason)
      (s.drvAmpduAction k c t.addr r { action := action }).1

/-- `ieee80211_send_addba_with_timeout` -/
def sendAddbaWithTimeout (s : AmpduMlme) (t : TidAmpduTx) (e : AddbaEnv) : AmpduMlme :=
  if t.state.stopping || t.state.wantStop then s
  else
    let bufSize := if c.hasHe then c.maxTxAggregationSubframes else IEEE80211_MAX_AMPDU_BUF_HT
    let s := s.modTx fun t => { t with addbaRespTimer := some (e.jiffies + BitVec.ofNat 64 k.hz) }
    let s := { s with lastAddbaReqTime := e.jiffies, addbaReqNum := s.addbaReqNum + 1 }
    let s := if e.alloc then s.logEvent (.addbaRequest t.addr t.dialogToken t.ssn bufSize t.timeout) else s
    s.modState fun b => { b with sentAddba := true }

/-- `ieee80211_tx_ba_session_handle_start` -/
def handleStart (s : AmpduMlme) (w : WorkEnv) : AmpduMlme :=
  match s.tidTx with
  | none => s
  | some t =>
    let s := s.modState fun b => { b with wantStart := false }
    let (s, ret) := s.drvAmpduAction k c t.addr w.start { action := .txStart, ssn := w.tidSeq }
    let s := s.modTx fun t => { t with ssn := if w.start.inDriver then w.start.ssn else w.tidSeq }
    if ret = IEEE80211_AMPDU_TX_START_DELAY_ADDBA then s
    else if ret = IEEE80211_AMPDU_TX_START_IMMEDIATE ∨ ret = 0 then
      let s := if ret = IEEE80211_AMPDU_TX_START_IMMEDIATE then
        s.modState fun b => { b with drvReady := true } else s
      match s.tidTx with
      | none => s
      | some t => s.sendAddbaWithTimeout k c t w.addba
    else s.removeTidTx

/-- `ieee80211_agg_tx_operational` -/
def aggTxOperational (s : AmpduMlme) (r : DrvReply) : AmpduMlme :=
  match s.tidTx with
  | none => s
  | some t =>
    let (s, _) := s.drvAmpduAction k c t.addr r
      { action := .txOperational, bufSize := t.bufSize, amsdu := t.amsdu }
    s.splicePackets.modState fun b => { b with operational := true }

/-- `ieee80211_start_tx_ba_cb` -/
def startTxBaCb (s : AmpduMlme) (t : TidAmpduTx) (w : WorkEnv) : AmpduMlme :=
  if t.state.drvReady then s
  else
    let s := s.modState fun b => { b with drvReady := true }
    if t.state.stopping || t.state.wantStop then s
    else if !t.state.sentAddba then s.sendAddbaWithTimeout k c t w.addba
    else if t.state.responseReceived then s.aggTxOperational k c w.operational
    else s

/-- `ieee80211_stop_tx_ba_cb` -/
def stopTxBaCb (s : AmpduMlme) (t : TidAmpduTx) : AmpduMlme :=
  if !t.state.stopping then s
  else
    let s := s.removeTidTx
    if t.stopInitiator = .initiator ∧ t.txStop = true then s.logEvent (.delba t.addr .initiator) else s

/-- The first half of the work for a session that is live: the callback of the driver. -/
def workStartCb (s : AmpduMlme) (w : WorkEnv) : AmpduMlme :=
  match s.tidTx with
  | none => s
  | some t =>
    if !w.blocked && t.state.startCb then
      let t := { t with state := { t.state with startCb := false } }
      { s with tidTx := some t }.startTxBaCb k c t w
    else s

def workWantStop (s : AmpduMlme) (w : WorkEnv) : AmpduMlme :=
  match s.tidTx with
  | none => s
  | some t =>
    if t.state.wantStop then
      (s.modState fun b => { b with wantStop := false }).stopTxBa k c .localRequest w.stop
    else s

/-- `test_and_clear_bit(HT_AGG_STATE_STOP_CB)`, and `ieee80211_stop_tx_ba_cb`. -/
def testStopCb (s : AmpduMlme) : AmpduMlme :=
  match s.tidTx with
  | none => s
  | some t =>
    if t.state.stopCb then
      let t := { t with state := { t.state with stopCb := false } }
      { s with tidTx := some t }.stopTxBaCb t
    else s

/-- `ieee80211_ba_session_work`, for the TID; `none` when it dereferences the TXQ of a TID without
    one. -/
def baSessionWork (s : AmpduMlme) (w : WorkEnv) : Option AmpduMlme :=
  match s.tidStartTx, w.blocked with
  | some t, false =>
    if !c.txq then none
    else if w.frags then some s
    else
      let s := { s with tidStartTx := none, tidTx := if s.tidTx.isSome then s.tidTx else some t }
      some (s.handleStart k c w)
  | _, _ => some ((s.workStartCb k c w).workWantStop k c w).testStopCb

/-- `ieee80211_process_addba_resp`; `jiffies` is the time at which the session timer would expire and
    that of now. -/
def processAddbaResp (s : AmpduMlme) (resp : AddbaResp) (r : DrvReply) (expTime now : BitVec 64) :
    AmpduMlme :=
  let bufSize := if c.maxTxAggregationSubframes < resp.bufSize then c.maxTxAggregationSubframes
    else resp.bufSize
  match s.tidTx with
  | none => s
  | some t =>
    if resp.dialogToken ≠ t.dialogToken then s
    else
      let s := s.modTx fun t => { t with addbaRespTimer := none }
      if t.state.wantStop || t.state.stopping then s
      else if resp.success ∧ bufSize ≠ 0 then
        if t.state.responseReceived then s
        else
          let s := s.modTx fun t =>
            { t with
              state := { t.state with responseReceived := true }
              bufSize := bufSize
              amsdu := resp.amsdu }
          let s := if t.state.drvReady then s.aggTxOperational k c r else s
          let s := { s with addbaReqNum := 0 }
          s.modTx fun t =>
            if resp.timeout ≠ 0 then
              { t with timeout := resp.timeout, sessionTimer := some expTime, lastTx := now }
            else { t with timeout := resp.timeout }
      else s.stopTxBa k c .declined r

/-- `ieee80211_process_delba`, for a session that this station initiated when the peer is the
    recipient. -/
def processDelba (s : AmpduMlme) (party : BackParties) (r : DrvReply) : AmpduMlme :=
  match party with
  | .initiator => s
  | .recipient => s.stopTxBa k c .peerRequest r

/-- `ieee80211_sta_tear_down_BA_sessions` -/
def tearDownBaSessions (s : AmpduMlme) (reason : AggStopReason) (r : DrvReply) : AmpduMlme :=
  let s := s.stopTxBa k c reason r
  if reason = .destroySta then s.testStopCb else s

/-- The end of `__cleanup_single_sta` (`sta_info.c`). -/
def cleanupSingleSta (s : AmpduMlme) : AmpduMlme :=
  let purged := match s.tidTx with
    | none => []
    | some t => t.pending.map fun f => (f, Fate.purged)
  { s with tidStartTx := none, tidTx := none, out := s.out ++ purged, destroyed := true }

end AmpduMlme

/-! ## Steps -/

inductive Op where
  | async (a : Async)
  | baSessionWork (w : WorkEnv)
  | processAddbaResp (resp : AddbaResp) (r : DrvReply) (expTime now : BitVec 64)
  | processDelba (party : BackParties) (r : DrvReply)
  /-- `__ieee80211_stop_tx_ba_session` when the TID is reserved or a key is removed -/
  | stopTxBa (reason : AggStopReason) (r : DrvReply)
  | tearDownBaSessions (reason : AggStopReason) (r : DrvReply)
  | cleanupSingleSta

/-- The state after an operation on a station that has not been freed. -/
def AmpduMlme.next (s : AmpduMlme) (op : Op) : Option AmpduMlme :=
  if s.destroyed then none
  else
    match op with
    | .async a => some (s.runAsync k c a)
    | .baSessionWork w => s.baSessionWork k c w
    | .processAddbaResp resp r expTime now => some (s.processAddbaResp k c resp r expTime now)
    | .processDelba party r => some (s.processDelba k c party r)
    | .stopTxBa reason r => some (s.stopTxBa k c reason r)
    | .tearDownBaSessions reason r => some (s.tearDownBaSessions k c reason r)
    | .cleanupSingleSta => some s.cleanupSingleSta

def AggStep (s : AmpduMlme) (op : Op) (s' : AmpduMlme) : Prop := s.next k c op = some s'

structure Initial (s : AmpduMlme) : Prop where
  tidStartTx : s.tidStartTx = none
  tidTx : s.tidTx = none
  log : s.log = []
  put : s.put = []
  out : s.out = []
  destroyed : s.destroyed = false

end Mac80211.AggTx
