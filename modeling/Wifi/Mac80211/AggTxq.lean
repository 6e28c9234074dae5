import Wifi.Mac80211.AggTxRuns

/-!
# Transmit block-ack sessions and the TXQ of the TID

`Txq` is the TID with the flag `IEEE80211_TXQ_STOP` of `sta->sta.txq[tid]`.

* `aggStopTxq`, `aggStartTxq` — `ieee80211_agg_stop_txq` and `ieee80211_agg_start_txq`.
* `stopTxBa`, `handleStart`, … — the functions of `AmpduMlme` under the same names, with what they do to
  the flag; what each does to the rest of the TID is the function of that name.
* `Txq.next` — a step; `next_mlme` — it is a step of the TID.

No function reads the flag, so it does not matter that some write it before they call the driver.
-/

namespace Mac80211.AggTx

/-- The state of the TID, with the flag of its TXQ. -/
structure Txq where
  mlme : AmpduMlme
  /-- `IEEE80211_TXQ_STOP` -/
  txqStop : Bool

namespace Txq

variable (k : KernelApi) (c : Conf)

/-- `ieee80211_agg_stop_txq` -/
def aggStopTxq (s : Txq) : Txq := if !c.txq then s else { s with txqStop := true }

/-- `ieee80211_agg_start_txq` -/
def aggStartTxq (s : Txq) : Txq := if !c.txq then s else { s with txqStop := false }

/-- `__ieee80211_stop_tx_ba_session` -/
def stopTxBa (s : Txq) (reason : AggStopReason) (r : DrvReply) : Txq :=
  let s' := { s with mlme := s.mlme.stopTxBa k c reason r }
  match s.mlme.tidTx with
  | none => s'
  | some t => if t.state.stopping || t.state.wantStart then s' else s'.aggStopTxq c

/-- What `drv_ampdu_action` returns. -/
def drvRet (r : DrvReply) : Int := if !r.inDriver then negEIO else r.ret

/-- `ieee80211_tx_ba_session_handle_start` -/
def handleStart (s : Txq) (w : WorkEnv) : Txq :=
  let s' := { s with mlme := s.mlme.handleStart k c w }
  match s.mlme.tidTx with
  | none => s'
  | some _ =>
    let ret := drvRet w.start
    if ret = IEEE80211_AMPDU_TX_START_DELAY_ADDBA then s'
    else if ret = IEEE80211_AMPDU_TX_START_IMMEDIATE ∨ ret = 0 then s'
    else s'.aggStartTxq c

/-- `ieee80211_agg_tx_operational` -/
def aggTxOperational (s : Txq) (r : DrvReply) : Txq :=
  let s' := { s with mlme := s.mlme.aggTxOperational k c r }
  match s.mlme.tidTx with
  | none => s'
  | some _ => s'.aggStartTxq c

/-- `ieee80211_start_tx_ba_cb` -/
def startTxBaCb (s : Txq) (t : TidAmpduTx) (w : WorkEnv) : Txq :=
  let s' := { s with mlme := s.mlme.startTxBaCb k c t w }
  if t.state.drvReady then s'
  else if t.state.stopping || t.state.wantStop then s'
  else if !t.state.sentAddba then s'
  else if t.state.responseReceived then
    ({ s with mlme := s.mlme.modState fun b => { b with drvReady := true } } : Txq).aggTxOperational k c
      w.operational
  else s'

/-- `ieee80211_stop_tx_ba_cb` -/
def stopTxBaCb (s : Txq) (t : TidAmpduTx) : Txq :=
  let s' := { s with mlme := s.mlme.stopTxBaCb t }
  if !t.state.stopping then s' else s'.aggStartTxq c

def workStartCb (s : Txq) (w : WorkEnv) : Txq :=
  match s.mlme.tidTx with
  | none => s
  | some t =>
    if !w.blocked && t.state.startCb then
      let t := { t with state := { t.state with startCb := false } }
      ({ s with mlme := { s.mlme with tidTx := some t } } : Txq).startTxBaCb k c t w
    else s

def workWantStop (s : Txq) (w : WorkEnv) : Txq :=
  match s.mlme.tidTx with
  | none => s
  | some t =>
    if t.state.wantStop then
      ({ s with mlme := s.mlme.modState fun b => { b with wantStop := false } } : Txq).stopTxBa k c
        .localRequest w.stop
    else s

/-- `test_and_clear_bit(HT_AGG_STATE_STOP_CB)`, and `ieee80211_stop_tx_ba_cb`. -/
def testStopCb (s : Txq) : Txq :=
  match s.mlme.tidTx with
  | none => s
  | some t =>
    if t.state.stopCb then
      let t := { t with state := { t.state with stopCb := false } }
      ({ s with mlme := { s.mlme with tidTx := some t } } : Txq).stopTxBaCb c t
    else s

/-- `ieee80211_ba_session_work`, for the TID -/
def baSessionWork (s : Txq) (w : WorkEnv) : Option Txq :=
  match s.mlme.tidStartTx, w.blocked with
  | some t, false =>
    if !c.txq then none
    else
      let s := { s with txqStop := true }
      if w.frags then some s
      else
        let mlme :=
          { s.mlme with tidStartTx := none, tidTx := if s.mlme.tidTx.isSome then s.mlme.tidTx else some t }
        some (({ s with mlme := mlme } : Txq).handleStart k c w)
  | _, _ => some (((s.workStartCb k c w).workWantStop k c w).testStopCb c)

/-- `ieee80211_process_addba_resp` -/
def processAddbaResp (s : Txq) (resp : AddbaResp) (r : DrvReply) (expTime now : BitVec 64) : Txq :=
  let bufSize := if c.maxTxAggregationSubframes < resp.bufSize then c.maxTxAggregationSubframes
    else resp.bufSize
  let s' := { s with mlme := s.mlme.processAddbaResp k c resp r expTime now }
  match s.mlme.tidTx with
  | none => s'
  | some t =>
    if resp.dialogToken ≠ t.dialogToken then s'
    else if t.state.wantStop || t.state.stopping then s'
    else if resp.success ∧ bufSize ≠ 0 then
      if t.state.responseReceived then s'
      else if t.state.drvReady then s'.aggStartTxq c
      else s'
    else
      ({ s with mlme := s.mlme.modTx fun t => { t with addbaRespTimer := none } } : Txq).stopTxBa k c
        .declined r

/-- `ieee80211_process_delba` -/
def processDelba (s : Txq) (party : BackParties) (r : DrvReply) : Txq :=
  match party with
  | .initiator => s
  | .recipient => s.stopTxBa k c .peerRequest r

/-- `ieee80211_sta_tear_down_BA_sessions` -/
def tearDownBaSessions (s : Txq) (reason : AggStopReason) (r : DrvReply) : Txq :=
  let s := s.stopTxBa k c reason r
  if reason = .destroySta then s.testStopCb c else s

/-- The state after an operation on a station that has not been freed. -/
def next (s : Txq) (op : Op) : Option Txq :=
  if s.mlme.destroyed then none
  else
    match op with
    | .async a => some { s with mlme := s.mlme.runAsync k c a }
    | .baSessionWork w => s.baSessionWork k c w
    | .processAddbaResp resp r expTime now => some (s.processAddbaResp k c resp r expTime now)
    | .processDelba party r => some (s.processDelba k c party r)
    | .stopTxBa reason r => some (s.stopTxBa k c reason r)
    | .tearDownBaSessions reason r => some (s.tearDownBaSessions k c reason r)
    | .cleanupSingleSta => some { s with mlme := s.mlme.cleanupSingleSta }

def Step (s : Txq) (op : Op) (s' : Txq) : Prop := s.next k c op = some s'

/-- A station that has just been allocated; its TXQs run. -/
def Initial (s : Txq) : Prop := AggTx.Initial s.mlme ∧ s.txqStop = false

/-! ## The TID behind it -/

variable {k c} {s : Txq}

@[simp]
theorem aggStopTxq_mlme (s : Txq) : (s.aggStopTxq c).mlme = s.mlme := by
  unfold aggStopTxq
  split <;> rfl

@[simp]
theorem aggStartTxq_mlme (s : Txq) : (s.aggStartTxq c).mlme = s.mlme := by
  unfold aggStartTxq
  split <;> rfl

theorem stopTxBa_mlme (s : Txq) (reason : AggStopReason) (r : DrvReply) :
    (s.stopTxBa k c reason r).mlme = s.mlme.stopTxBa k c reason r := by
  unfold stopTxBa
  dsimp only
  split
  · rfl
  · split
    · rfl
    · exact aggStopTxq_mlme _

theorem handleStart_mlme (s : Txq) (w : WorkEnv) :
    (s.handleStart k c w).mlme = s.mlme.handleStart k c w := by
  unfold handleStart
  dsimp only
  split
  · rfl
  · split
    · rfl
    · split
      · rfl
      · exact aggStartTxq_mlme _

theorem aggTxOperational_mlme (s : Txq) (r : DrvReply) :
    (s.aggTxOperational k c r).mlme = s.mlme.aggTxOperational k c r := by
  unfold aggTxOperational
  dsimp only
  split
  · rfl
  · exact aggStartTxq_mlme _

theorem startTxBaCb_mlme (s : Txq) (t : TidAmpduTx) (w : WorkEnv) :
    (s.startTxBaCb k c t w).mlme = s.mlme.startTxBaCb k c t w := by
  unfold startTxBaCb
  dsimp only
  split
  · rfl
  · rename_i hready
    split
    · rfl
    · rename_i hstop
      split
      · rfl
      · rename_i hsent
        split
        · rename_i hresp
          rw [aggTxOperational_mlme]
          unfold AmpduMlme.startTxBaCb
          rw [if_neg hready]
          dsimp only
          rw [if_neg hstop, if_neg hsent, if_pos hresp]
        · rfl

theorem stopTxBaCb_mlme (s : Txq) (t : TidAmpduTx) :
    (s.stopTxBaCb c t).mlme = s.mlme.stopTxBaCb t := by
  unfold stopTxBaCb
  dsimp only
  split
  · rfl
  · exact aggStartTxq_mlme _

theorem workStartCb_mlme (s : Txq) (w : WorkEnv) :
    (s.workStartCb k c w).mlme = s.mlme.workStartCb k c w := by
  unfold workStartCb AmpduMlme.workStartCb
  cases s.mlme.tidTx with
  | none => rfl
  | some t =>
    dsimp only
    split
    · exact startTxBaCb_mlme _ _ w
    · rfl

theorem workWantStop_mlme (s : Txq) (w : WorkEnv) :
    (s.workWantStop k c w).mlme = s.mlme.workWantStop k c w := by
  unfold workWantStop AmpduMlme.workWantStop
  cases s.mlme.tidTx with
  | none => rfl
  | some t =>
    dsimp only
    split
    · exact stopTxBa_mlme _ _ _
    · rfl

theorem testStopCb_mlme (s : Txq) : (s.testStopCb c).mlme = s.mlme.testStopCb := by
  unfold testStopCb AmpduMlme.testStopCb
  cases s.mlme.tidTx with
  | none => rfl
  | some t =>
    dsimp only
    split
    · exact stopTxBaCb_mlme _ _
    · rfl

theorem baSessionWork_mlme (s : Txq) (w : WorkEnv) :
    (s.baSessionWork k c w).map Txq.mlme = s.mlme.baSessionWork k c w := by
  have hlive : (((s.workStartCb k c w).workWantStop k c w).testStopCb c).mlme =
      ((s.mlme.workStartCb k c w).workWantStop k c w).testStopCb := by
    rw [testStopCb_mlme, workWantStop_mlme, workStartCb_mlme]
  unfold baSessionWork AmpduMlme.baSessionWork
  cases s.mlme.tidStartTx with
  | none => exact congrArg some hlive
  | some t =>
    cases w.blocked with
    | true => exact congrArg some hlive
    | false =>
      dsimp only
      split
      · rfl
      · split
        · rfl
        · exact congrArg some (handleStart_mlme _ w)

theorem processAddbaResp_mlme (s : Txq) (resp : AddbaResp) (r : DrvReply) (expTime now : BitVec 64) :
    (s.processAddbaResp k c resp r expTime now).mlme = s.mlme.processAddbaResp k c resp r expTime now := by
  unfold processAddbaResp
  dsimp only
  cases ht : s.mlme.tidTx with
  | none => rfl
  | some t =>
    dsimp only
    split
    · rfl
    · rename_i htoken
      split
      · rfl
      · rename_i hstop
        by_cases hsuccess : resp.success = true ∧
          (if c.maxTxAggregationSubframes < resp.bufSize then c.maxTxAggregationSubframes else resp.bufSize) ≠ 0
        · rw [if_pos hsuccess]
          split
          · rfl
          · split
            · exact aggStartTxq_mlme _
            · rfl
        · rw [if_neg hsuccess, stopTxBa_mlme]
          unfold AmpduMlme.processAddbaResp
          rw [ht]
          dsimp only
          rw [if_neg htoken, if_neg hstop, if_neg hsuccess]

/-- **A step is a step of the TID.** -/
theorem next_mlme {s' : Txq} {op : Op} (h : s.Step k c op s') : AggStep k c s.mlme op s'.mlme := by
  unfold Step next at h
  unfold AggStep AmpduMlme.next
  split at h
  · cases h
  · rename_i hd
    rw [if_neg hd]
    cases op with
    | async a => cases h; rfl
    | baSessionWork w =>
      dsimp only at h ⊢
      rw [← baSessionWork_mlme, h]
      rfl
    | processAddbaResp resp r expTime now => cases h; exact congrArg some (processAddbaResp_mlme ..).symm
    | processDelba party r =>
      cases h
      cases party with
      | initiator => rfl
      | recipient => exact congrArg some (stopTxBa_mlme ..).symm
    | stopTxBa reason r => cases h; exact congrArg some (stopTxBa_mlme ..).symm
    | tearDownBaSessions reason r =>
      cases h
      dsimp only
      unfold tearDownBaSessions AmpduMlme.tearDownBaSessions
      dsimp only
      rw [← stopTxBa_mlme]
      split
      · rw [testStopCb_mlme]
      · rfl
    | cleanupSingleSta => cases h; rfl

end Txq

end Mac80211.AggTx
