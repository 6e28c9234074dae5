import Mathlib.Logic.Function.Basic
import Wifi.Linux.Ieee80211

/-!
# The response to a PS-Poll or U-APSD trigger frame (`linux/net/mac80211/sta_info.c`)

* `Sta` — the queues of a station for each AC, and the TIDs for which the driver or a TXQ has frames.
* `getFrames` — `ieee80211_sta_ps_get_frames`; `psMoreData` — `ieee80211_sta_ps_more_data`.
* `nullResponse` — `ieee80211_send_null_response`; `releaseLoop` — the loop that prepares the frames.
* `deliverResponse` — `ieee80211_sta_ps_deliver_response`.
-/

namespace Mac80211.PsResponse

/-- `enum ieee80211_frame_release_type` -/
inductive Reason where
  | pspoll | uapsd
  deriving DecidableEq

/-- `enum ieee80211_ac_numbers`: VO, VI, BE, BK -/
abbrev Ac := Fin 4

/-- **`struct sk_buff`**, with the fields of its header and its `ieee80211_tx_info` that are read or written. -/
structure Frame where
  id : Nat
  fc : FrameControl
  /-- The first byte of the QoS control field, when there is one. -/
  qosCtl : BitVec 8
  priority : Nat
  /-- `IEEE80211_TX_CTL_NO_PS_BUFFER` -/
  noPsBuffer : Bool
  /-- `IEEE80211_TX_STATUS_EOSP` -/
  eosp : Bool
  /-- `IEEE80211_TX_CTL_REQ_TX_STATUS` -/
  reqTxStatus : Bool
  /-- `IEEE80211_TX_CTRL_PS_RESPONSE` -/
  psResponse : Bool
  deriving DecidableEq

/-- **What the functions read and write of `struct sta_info`**, and `local->total_ps_buffered`. -/
structure Sta where
  /-- `WLAN_STA_SP` -/
  sp : Bool
  wme : Bool
  txFiltered : Ac → List Frame
  psTxBuf : Ac → List Frame
  driverBufferedTids : BitVec 64
  txqBufferedTids : BitVec 64
  totalPsBuffered : Int

/-- What is around a response: whether a null frame can be allocated, and whether the interface has a channel context. -/
structure Env where
  alloc : Bool
  chanctx : Bool
  nullId : Nat

inductive DriverCall where
  | allowBufferedFrames (tids : BitVec 64) (num : Nat) (moreData : Bool)
  | releaseBufferedFrames (tids : BitVec 64) (num : Nat) (moreData : Bool)
  deriving DecidableEq

/-- **The response**: the frames that are handed to the TX path in order, and the calls of the driver. -/
structure Response where
  sta : Sta
  sent : List Frame
  calls : List DriverCall
  recalcTim : Bool

/-! ## TIDs and ACs -/

/-- `ieee80211_tids_for_ac` -/
def tidsForAc : Ac → BitVec 64
  | 0 => 0xc0
  | 1 => 0x30
  | 2 => 0x09
  | 3 => 0x06

/-- `ieee80211_ac_to_qos_mask` -/
def acToQosMask : Ac → BitVec 8
  | 0 => 0x01
  | 1 => 0x02
  | 2 => 0x08
  | 3 => 0x04

/-- `ignored_acs & ieee80211_ac_to_qos_mask[ac]` -/
def ignores (ignoredAcs : BitVec 8) (ac : Ac) : Bool := ignoredAcs &&& acToQosMask ac ≠ 0

def hweight16 (w : BitVec 64) : Nat := ((List.range 16).filter fun i => w.getLsbD i).length

/-- The number of the highest bit that is set, from 1 on. -/
def fls (w : BitVec 64) : Nat := ((List.range 32).reverse.find? fun i => w.getLsbD i).elim 0 (· + 1)

def findHighestPrioTid (tids : BitVec 64) : Int :=
  if tids &&& 0xf8 ≠ 0 then (fls tids : Int) - 1
  else if tids &&& 1 ≠ 0 then 0
  else (fls tids : Int) - 1

/-! ## The frames -/

/-- The inner loop: the filtered frames, then those of `ps_tx_buf`. What is left of both, the frames, and how many are left to take. -/
def takeFrames : (n : Nat) → (filtered psBuf : List Frame) → List Frame × List Frame × List Frame × Nat
  | 0, filtered, psBuf => (filtered, psBuf, [], 0)
  | n + 1, skb :: filtered, psBuf =>
    let r := takeFrames n filtered psBuf
    (r.1, r.2.1, skb :: r.2.2.1, r.2.2.2)
  | n + 1, [], skb :: psBuf =>
    let r := takeFrames n [] psBuf
    (r.1, r.2.1, skb :: r.2.2.1, r.2.2.2)
  | n + 1, [], [] => ([], [], [], n + 1)

/-- The frames of one AC; each one of `ps_tx_buf` is no longer counted. -/
def Sta.takeAc (sta : Sta) (ac : Ac) (n : Nat) : Sta × List Frame × Nat :=
  let r := takeFrames n (sta.txFiltered ac) (sta.psTxBuf ac)
  ({ sta with
      txFiltered := Function.update sta.txFiltered ac r.1
      psTxBuf := Function.update sta.psTxBuf ac r.2.1
      totalPsBuffered := sta.totalPsBuffered - ((sta.psTxBuf ac).length - r.2.1.length) },
    r.2.2.1, r.2.2.2)

/-- **The loop of `ieee80211_sta_ps_get_frames`** over the ACs: the station, `frames` and `driver_release_tids`. -/
def getFramesLoop (ignoredAcs : BitVec 8) : List Ac → Sta → Nat → List Frame → BitVec 64 → Sta × List Frame × BitVec 64
  | [], sta, _, frames, tids => (sta, frames, tids)
  | ac :: acs, sta, n, frames, tids =>
    if ignores ignoredAcs ac then getFramesLoop ignoredAcs acs sta n frames tids
    else
      let tids :=
        if frames.isEmpty then
          (tids ||| (sta.driverBufferedTids &&& tidsForAc ac)) ||| (sta.txqBufferedTids &&& tidsForAc ac)
        else tids
      let r := if tids = 0 then sta.takeAc ac n else (sta, [], n)
      if !(r.1.txFiltered ac).isEmpty || !(r.1.psTxBuf ac).isEmpty then (r.1, frames ++ r.2.1, tids)
      else getFramesLoop ignoredAcs acs r.1 r.2.2 (frames ++ r.2.1) tids

/-- **`ieee80211_sta_ps_get_frames`.** -/
def getFrames (sta : Sta) (nFrames : Nat) (ignoredAcs : BitVec 8) : Sta × List Frame × BitVec 64 :=
  getFramesLoop ignoredAcs (List.finRange 4) sta nFrames [] 0

/-- **`ieee80211_sta_ps_more_data`.** -/
def psMoreData (sta : Sta) (ignoredAcs : BitVec 8) (reason : Reason) (driverReleaseTids : BitVec 64) : Bool :=
  if reason = .pspoll ∧ hweight16 driverReleaseTids > 1 then true
  else
    (List.finRange 4).any fun ac =>
      !ignores ignoredAcs ac && (!(sta.txFiltered ac).isEmpty || !(sta.psTxBuf ac).isEmpty)

/-! ## The response -/

/-- `ieee80211_is_qos_nullfunc` -/
def isQosNullfunc (fc : FrameControl) : Bool := decide (fc &&& (IEEE80211_FCTL_FTYPE ||| IEEE80211_FCTL_STYPE) = 0x00c8)

def hasQos (fc : FrameControl) : Bool := fc.isDataQos || isQosNullfunc fc

def IEEE80211_QOS_CTL_EOSP : BitVec 8 := 0x10

/-- The frame of `ieee80211_send_null_response`. -/
def nullFrame (env : Env) (sta : Sta) (tid : Int) (reason : Reason) (moreData : Bool) : Frame where
  id := env.nullId
  fc := if sta.wme then if reason = .uapsd ∧ moreData then 0x02c8 ||| IEEE80211_FCTL_MOREDATA else 0x02c8 else 0x0248
  qosCtl := if reason = .uapsd then BitVec.ofInt 8 tid ||| IEEE80211_QOS_CTL_EOSP else BitVec.ofInt 8 tid
  priority := tid.toNat
  noPsBuffer := true
  eosp := true
  reqTxStatus := true
  psResponse := true

/-- **`ieee80211_send_null_response`**: what is sent, and the call of the driver. -/
def nullResponse (env : Env) (sta : Sta) (tid : Int) (reason : Reason) (callDriver moreData : Bool) :
    List Frame × List DriverCall :=
  if !env.alloc then ([], [])
  else
    (if env.chanctx then [nullFrame env sta tid reason moreData] else [],
      if callDriver then [.allowBufferedFrames (1 <<< tid.toNat) 1 false] else [])

/-- The flags and the more-data bit of a frame. -/
def Frame.mark (f : Frame) (moreData : Bool) : Frame :=
  { f with
    noPsBuffer := true
    psResponse := true
    fc := if moreData then f.fc ||| IEEE80211_FCTL_MOREDATA else f.fc &&& ~~~IEEE80211_FCTL_MOREDATA }

/-- The last frame, after it was marked: it ends the service period, or a null frame has to. -/
def Frame.finish (f : Frame) (reason : Reason) : Frame × Bool :=
  if reason ≠ .uapsd then ({ f with eosp := true, reqTxStatus := true }, false)
  else if hasQos f.fc then
    ({ f with qosCtl := f.qosCtl ||| IEEE80211_QOS_CTL_EOSP, eosp := true, reqTxStatus := true }, false)
  else ({ f with fc := f.fc ||| IEEE80211_FCTL_MOREDATA }, true)

/-- **The loop over the frames**: `pending`, and `need_null`. -/
def releaseLoop (moreData : Bool) (reason : Reason) : List Frame → List Frame × Bool
  | [] => ([], false)
  | f :: rest =>
    let f := f.mark (moreData || !rest.isEmpty)
    if !rest.isEmpty then (f :: (releaseLoop moreData reason rest).1, (releaseLoop moreData reason rest).2)
    else ([(f.finish reason).1], (f.finish reason).2)

/-- `tids |= BIT(skb->priority)`, a `u16` -/
def tidsOf (frames : List Frame) : BitVec 64 :=
  ((frames.foldl (fun (tids : BitVec 16) f => tids ||| BitVec.ofNat 16 (1 <<< f.priority)) 0)).zeroExtend 64

/-- The first AC that is not ignored; 4 when all are. -/
def firstAc (ignoredAcs : BitVec 8) : Nat := ((List.finRange 4).findIdx? fun ac => !ignores ignoredAcs ac).getD 4

/-- The TIM is recalculated when the queue of a TID that is released is empty; `txq` says for which TIDs there is one, and whether it
    has frames. -/
def releasedEmpty (txq : List (Option Bool)) (tids : BitVec 64) : Bool :=
  (List.range txq.length).any fun tid => (txq.getD tid none).any (fun hasQueue => !hasQueue) && tids.getLsbD tid

/-- **`ieee80211_sta_ps_deliver_response`.** -/
def deliverResponse (env : Env) (txq : List (Option Bool)) (sta : Sta) (nFrames : Nat) (ignoredAcs : BitVec 8)
    (reason : Reason) : Response :=
  let r := getFrames { sta with sp := true } nFrames ignoredAcs
  let moreData := psMoreData r.1 ignoredAcs reason r.2.2
  let tids := if r.2.2 ≠ 0 ∧ reason = .pspoll then (1 : BitVec 64) <<< (findHighestPrioTid r.2.2).toNat else r.2.2
  if r.2.1.isEmpty ∧ tids = 0 then
    let null := nullResponse env r.1 (7 - 2 * (firstAc ignoredAcs : Int)) reason true false
    { sta := r.1, sent := null.1, calls := null.2, recalcTim := false }
  else if tids = 0 then
    let p := releaseLoop moreData reason r.2.1
    let num := r.2.1.length + if p.2 then 1 else 0
    let null := if p.2 then (nullResponse env r.1 (findHighestPrioTid (tidsOf r.2.1)) reason false false).1 else []
    { sta := r.1
      sent := p.1 ++ null
      calls := [.allowBufferedFrames (tidsOf r.2.1) num moreData]
      recalcTim := true }
  else
    { sta := r.1
      sent := []
      calls := [.releaseBufferedFrames tids nFrames moreData]
      recalcTim := releasedEmpty txq tids }

/-- **`ieee80211_sta_ps_deliver_poll_response`.** -/
def deliverPollResponse (env : Env) (txq : List (Option Bool)) (sta : Sta) (uapsdQueues : BitVec 8) : Response :=
  deliverResponse env txq sta 1 (if uapsdQueues = 0xf then 0 else uapsdQueues) .pspoll

/-- **`ieee80211_sta_ps_deliver_uapsd`**; `none` when no AC is delivery-enabled. -/
def deliverUapsd (env : Env) (txq : List (Option Bool)) (sta : Sta) (uapsdQueues : BitVec 8) (maxSp : Nat) : Option Response :=
  if uapsdQueues = 0 then none
  else
    let nFrames := match maxSp with
      | 1 => 2
      | 2 => 4
      | 3 => 6
      | 0 => 128
      | n => n
    some (deliverResponse env txq sta nFrames (~~~uapsdQueues) .uapsd)

end Mac80211.PsResponse
