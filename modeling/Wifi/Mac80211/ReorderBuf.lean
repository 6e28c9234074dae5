import Wifi.Lib.Slots
import Wifi.Linux.KernelApi

/-!
# Receive reorder buffer (`linux/net/mac80211/rx.c`, `agg-rx.c`)

Reference model of the block-ack receive side of mac80211:

* `TidAmpduRx` — `struct tid_ampdu_rx`, with `reorder_buf` as a function from slot numbers to
  frame lists.
* `ieee80211RxReorderReady`, `ieee80211ReleaseReorderFrame`, `ieee80211ReleaseReorderFrames`,
  `ieee80211StaReorderRelease`, `ieee80211StaManageReorderBuf`,
  `ieee80211MarkRxBaFilteredFrames` — the functions of `rx.c`.
* `ieee80211StartRxBaSession` — which buffer `__ieee80211_start_rx_ba_session` installs.

Frames put on the `frames` list are returned in order.  A result `none` stands for a loop that
does not end.
-/

namespace Mac80211

open Slots

/-- A received MPDU, or one subframe of an A-MSDU. -/
structure Skb where
  /-- `ieee80211_get_sn(hdr)` -/
  sn : BitVec 12
  /-- `RX_FLAG_AMSDU_MORE` -/
  amsduMore : Bool
  /-- `IEEE80211_RX_DEFERRED_RELEASE` -/
  deferredRelease : Bool
  /-- the rest of the frame -/
  data : Nat
  deriving DecidableEq, Repr

abbrev Skb.seq (skb : Skb) : Nat := skb.sn.toNat

theorem Skb.seq_lt (skb : Skb) : skb.seq < 4096 := skb.sn.isLt

/-- `struct tid_ampdu_rx`. -/
structure TidAmpduRx where
  reorderBufFiltered : BitVec 64
  reorderBuf : Nat → List Skb
  reorderTime : Nat → BitVec 64
  /-- expiry of `reorder_timer`, while it is armed -/
  reorderTimer : Option (BitVec 64)
  headSeqNum : Nat
  storedMpduNum : Nat
  ssn : Nat
  bufSize : Nat
  autoSeq : Bool
  removed : Bool
  started : Bool

/-- `BIT_ULL`. -/
def bitUll (n : Nat) : BitVec 64 := 1#64 <<< n

/-- `reorder_buf_filtered & BIT_ULL(index)`. -/
def TidAmpduRx.filteredAt (t : TidAmpduRx) (index : Nat) : Bool :=
  decide (t.reorderBufFiltered ≠ 0) && decide (t.reorderBufFiltered &&& bitUll index ≠ 0)

/-- The frame list of a slot ends in a frame without `RX_FLAG_AMSDU_MORE`. -/
def complete (frames : List Skb) : Bool :=
  match frames.getLast? with
  | none => false
  | some tail => !tail.amsduMore

def ieee80211RxReorderReady (t : TidAmpduRx) (index : Nat) : Bool :=
  if t.filteredAt index then true else complete (t.reorderBuf index)

/-- `x - 1` in `u16`. -/
def dec16 (x : Nat) : Nat := (x + 65535) % 65536

variable (k : KernelApi)

/-- The label `no_frame` of `ieee80211_release_reorder_frame`. -/
def noFrame (t : TidAmpduRx) (index : Nat) : TidAmpduRx :=
  { t with
    reorderBufFiltered :=
      if t.reorderBufFiltered ≠ 0 then t.reorderBufFiltered &&& ~~~(bitUll index)
      else t.reorderBufFiltered
    headSeqNum := k.snInc t.headSeqNum }

def release (skb : Skb) : Skb := { skb with deferredRelease := true }

/-- `ieee80211_release_reorder_frame`. -/
def ieee80211ReleaseReorderFrame (t : TidAmpduRx) (index : Nat) : TidAmpduRx × List Skb :=
  let skbList := t.reorderBuf index
  if skbList = [] then (noFrame k t index, [])
  else if ieee80211RxReorderReady t index = false then
    (noFrame k { t with reorderBuf := clear t.reorderBuf index } index, [])
  else
    (noFrame k { t with
      storedMpduNum := dec16 t.storedMpduNum
      reorderBuf := clear t.reorderBuf index } index, skbList.map release)

/-- The loop of `ieee80211_release_reorder_frames`, for at most `fuel` rounds. -/
def ieee80211ReleaseReorderFrames (headSeqNum : Nat) :
    Nat → TidAmpduRx → Option (TidAmpduRx × List Skb)
  | 0, _ => none
  | fuel + 1, t =>
    if k.snLess t.headSeqNum headSeqNum then
      let (t, out) := ieee80211ReleaseReorderFrame k t (t.headSeqNum % t.bufSize)
      match ieee80211ReleaseReorderFrames headSeqNum fuel t with
      | none => none
      | some (t, out') => some (t, out ++ out')
    else some (t, [])

/-- Rounds that are enough for `ieee80211_release_reorder_frames`. -/
def snFuel : Nat := 4096

/-- `HT_RX_REORDER_BUF_TIMEOUT`. -/
def htRxReorderBufTimeout : BitVec 64 := BitVec.ofNat 64 (k.hz / 10)

/-- `time_after(jiffies, tid_agg_rx->reorder_time[j] + HT_RX_REORDER_BUF_TIMEOUT)`. -/
def TidAmpduRx.timedOut (t : TidAmpduRx) (jiffies : BitVec 64) (j : Nat) : Bool :=
  k.timeAfter jiffies (t.reorderTime j + htRxReorderBufTimeout k)

/-- The loop that purges the slots from `i` on up to but not including `j`. -/
def purgeBetween (bufSize j : Nat) : Nat → Nat → (Nat → List Skb) → Option (Nat → List Skb)
  | 0, _, _ => none
  | fuel + 1, i, buf =>
    if i = j then some buf
    else purgeBetween bufSize j fuel ((i + 1) % bufSize) (clear buf i)

/-- Where the loop over timed-out slots ends: at the label `set_release_timer` with slot `j`, or
    after the last slot. -/
inductive TimeoutExit where
  | setReleaseTimer (j : Nat)
  | done
  deriving DecidableEq, Repr

/-- The loop over the slots after `index` that looks for timed-out frames. -/
def timeoutLoop (jiffies : BitVec 64) (index : Nat) :
    Nat → Nat → Nat → TidAmpduRx → Option (TimeoutExit × TidAmpduRx × List Skb)
  | 0, _, _, _ => none
  | fuel + 1, j, skipped, t =>
    if j = index then some (.done, t, [])
    else if ieee80211RxReorderReady t j = false then
      timeoutLoop jiffies index fuel ((j + 1) % t.bufSize) (skipped + 1) t
    else if skipped ≠ 0 ∧ t.timedOut k jiffies j = false then
      some (.setReleaseTimer j, t, [])
    else
      -- don't leave incomplete A-MSDUs around
      match purgeBetween t.bufSize j t.bufSize ((index + 1) % t.bufSize) t.reorderBuf with
      | none => none
      | some buf =>
        let (t, out) := ieee80211ReleaseReorderFrame k { t with reorderBuf := buf } j
        -- also for the skipped slots
        let t := { t with headSeqNum := (t.headSeqNum + skipped) % 4096 }
        match timeoutLoop jiffies index fuel ((j + 1) % t.bufSize) 0 t with
        | none => none
        | some (e, t, out') => some (e, t, out ++ out')

/-- The loop that releases the slots that are ready from the head on. -/
def readyLoop : Nat → Nat → TidAmpduRx → Option (TidAmpduRx × List Skb)
  | 0, _, _ => none
  | fuel + 1, index, t =>
    if ieee80211RxReorderReady t index then
      let (t, out) := ieee80211ReleaseReorderFrame k t index
      match readyLoop fuel (t.headSeqNum % t.bufSize) t with
      | none => none
      | some (t, out') => some (t, out ++ out')
    else some (t, [])

/-- The loop that looks for the next frame to time out; `(index - 1) % buf_size` is computed in
    `int`. -/
def scanLoop (t : TidAmpduRx) (index : Nat) : Nat → Nat → Option Nat
  | 0, _ => none
  | fuel + 1, j =>
    if (j : Int) = Int.tmod ((index : Int) - 1) t.bufSize then some j
    else if ieee80211RxReorderReady t j then some j
    else scanLoop t index fuel ((j + 1) % t.bufSize)

/-- The label `set_release_timer` of `ieee80211_sta_reorder_release`. -/
def setReleaseTimer (t : TidAmpduRx) (j : Nat) : TidAmpduRx :=
  if t.removed then t
  else { t with reorderTimer := some (t.reorderTime j + 1 + htRxReorderBufTimeout k) }

/-- The end of `ieee80211_sta_reorder_release`, before the label `set_release_timer`. -/
def armTimer (t : TidAmpduRx) : Option TidAmpduRx :=
  if t.storedMpduNum ≠ 0 then
    let index := t.headSeqNum % t.bufSize
    match scanLoop t index (t.bufSize + 1) index with
    | none => none
    | some j => some (setReleaseTimer k t j)
  else some { t with reorderTimer := none }

/-- `ieee80211_sta_reorder_release`. -/
def ieee80211StaReorderRelease (t : TidAmpduRx) (jiffies : BitVec 64) :
    Option (TidAmpduRx × List Skb) :=
  let index := t.headSeqNum % t.bufSize
  if ieee80211RxReorderReady t index = false ∧ t.storedMpduNum ≠ 0 then
    match timeoutLoop k jiffies index t.bufSize ((index + 1) % t.bufSize) 1 t with
    | none => none
    | some (.setReleaseTimer j, t, out) => some (setReleaseTimer k t j, out)
    | some (.done, t, out) =>
      match armTimer k t with
      | none => none
      | some t => some (t, out)
  else
    match readyLoop k (t.bufSize + 1) index t with
    | none => none
    | some (t, out) =>
      match armTimer k t with
      | none => none
      | some t => some (t, out)

inductive Fate where
  /-- returned to the caller for processing (`ret = false`) -/
  | process
  /-- put in the reorder buffer -/
  | buffered
  /-- freed: out-of-date sequence number -/
  | outOfDate
  /-- freed: already stored -/
  | alreadyStored
  deriving DecidableEq, Repr

/-- Offloaded sessions pick their starting sequence number from the first frame. -/
def pickAutoSeq (t : TidAmpduRx) (mpduSeqNum : Nat) : TidAmpduRx :=
  if t.autoSeq then
    { t with autoSeq := false, ssn := mpduSeqNum, headSeqNum := mpduSeqNum }
  else t

/-- Release previous frames when the sequence number exceeds the buffering window. -/
def makeRoom (t : TidAmpduRx) (mpduSeqNum : Nat) : Option (TidAmpduRx × List Skb) :=
  if k.snLess mpduSeqNum (t.headSeqNum + t.bufSize) = false then
    ieee80211ReleaseReorderFrames k (k.snInc (k.snSub mpduSeqNum t.bufSize)) snFuel t
  else some (t, [])

/-- What is done with a frame that is in the range of the reordering buffer. -/
def storeFrame (t : TidAmpduRx) (jiffies : BitVec 64) (skb : Skb) : Fate × TidAmpduRx :=
  let index := skb.seq % t.bufSize
  -- check if we already stored this frame
  if ieee80211RxReorderReady t index then (.alreadyStored, t)
  else if skb.seq = t.headSeqNum ∧ t.storedMpduNum = 0 then
    if skb.amsduMore then (.process, t)
    else (.process, { t with headSeqNum := k.snInc t.headSeqNum })
  else
    -- put the frame in the reordering buffer
    let t := { t with reorderBuf := put t.reorderBuf index [skb] }
    if skb.amsduMore then (.buffered, t)
    else
      (.buffered, { t with
        reorderTime := Function.update t.reorderTime index jiffies
        storedMpduNum := (t.storedMpduNum + 1) % 65536 })

/-- `ieee80211_sta_manage_reorder_buf` up to the call of `ieee80211_sta_reorder_release`; that
    call is still to be made when the frame was buffered and is not followed by more subframes. -/
def arrive (t : TidAmpduRx) (jiffies : BitVec 64) (skb : Skb) :
    Option (Fate × TidAmpduRx × List Skb) :=
  let t := pickAutoSeq t skb.seq
  if t.started = false ∧ k.snLess skb.seq t.headSeqNum = true then some (.process, t, [])
  else
    let t := { t with started := true }
    -- frame with out of date sequence number
    if k.snLess skb.seq t.headSeqNum then some (.outOfDate, t, [])
    else
      match makeRoom k t skb.seq with
      | none => none
      | some (t, out) =>
        let (fate, t) := storeFrame k t jiffies skb
        some (fate, t, out)

/-- `ieee80211_sta_manage_reorder_buf`: what becomes of the frame, and the frames released before
    it. -/
def ieee80211StaManageReorderBuf (t : TidAmpduRx) (jiffies : BitVec 64) (skb : Skb) :
    Option (Fate × TidAmpduRx × List Skb) :=
  match arrive k t jiffies skb with
  | none => none
  | some (fate, t, out) =>
    if fate = .buffered ∧ skb.amsduMore = false then
      match ieee80211StaReorderRelease k t jiffies with
      | none => none
      | some (t, out') => some (fate, t, out ++ out')
    else some (fate, t, out)

/-- The loop over the bitmap of `ieee80211_mark_rx_ba_filtered_frames`. -/
def markLoop (bufSize ssn : Nat) (filtered : BitVec 64) : Nat → Nat → BitVec 64 → BitVec 64
  | 0, _, bits => bits
  | n + 1, i, bits =>
    let index := (ssn + i) % bufSize
    let bits := bits &&& ~~~(bitUll index)
    let bits := if filtered &&& bitUll i ≠ 0 then bits ||| bitUll index else bits
    markLoop bufSize ssn filtered n (i + 1) bits

/-- The head of the session is moved to the given start. -/
def markMove (t : TidAmpduRx) (ssn receivedMpdus : Nat) : Option (TidAmpduRx × List Skb) :=
  if 4096 / 2 ≤ receivedMpdus then
    -- release all frames in the reorder buffer
    match ieee80211ReleaseReorderFrames k ((t.headSeqNum + t.bufSize) % 4096) snFuel t with
    | none => none
    | some (t, out) => some ({ t with headSeqNum := ssn }, out)
  else ieee80211ReleaseReorderFrames k ssn snFuel t

/-- `ieee80211_mark_rx_ba_filtered_frames` up to the call of `ieee80211_sta_reorder_release`; the
    result says whether that call is still to be made. -/
def markFiltered (t : TidAmpduRx) (ssn : Nat) (filtered : BitVec 64) (receivedMpdus : Nat) :
    Option (Bool × TidAmpduRx × List Skb) :=
  match markMove k t ssn receivedMpdus with
  | none => none
  | some (t, out) =>
    let diff := snDist t.headSeqNum ssn
    if t.bufSize ≤ diff then some (false, { t with reorderBufFiltered := 0 }, out)
    else
      some (true, { t with
        reorderBufFiltered := markLoop t.bufSize ((ssn + diff) % 65536) (filtered >>> diff)
          t.bufSize 0 t.reorderBufFiltered }, out)

/-- `ieee80211_mark_rx_ba_filtered_frames` on the session. -/
def ieee80211MarkRxBaFilteredFrames (t : TidAmpduRx) (jiffies : BitVec 64) (ssn : Nat)
    (filtered : BitVec 64) (receivedMpdus : Nat) : Option (TidAmpduRx × List Skb) :=
  match markFiltered k t ssn filtered receivedMpdus with
  | none => none
  | some (false, t, out) => some (t, out)
  | some (true, t, out) =>
    match ieee80211StaReorderRelease k t jiffies with
    | none => none
    | some (t, out') => some (t, out ++ out')

/-! ## Setting up a session -/

/-- What `__ieee80211_start_rx_ba_session` looks at. -/
structure StartRequest where
  tid : Nat
  startSeqNum : BitVec 12
  bufSize : Nat
  baPolicy : Nat
  autoSeq : Bool
  htSupported : Bool
  htCapDelayBa : Bool
  hasHe : Bool
  hasEht : Bool
  blockBa : Bool
  maxRxAggregationSubframes : Nat
  /-- a session with the same dialog token is already set up -/
  sameToken : Bool
  /-- `SUPPORTS_REORDERING_BUFFER` -/
  hwReorders : Bool
  /-- the allocations and the driver's `ampdu_action` succeed -/
  driverOk : Bool

def IEEE80211_FIRST_TSPEC_TSID : Nat := 8
def IEEE80211_MAX_AMPDU_BUF_HT : Nat := 0x40
def IEEE80211_MAX_AMPDU_BUF_HE : Nat := 0x100
def IEEE80211_MAX_AMPDU_BUF_EHT : Nat := 0x400

/-- `max_buf_size`. -/
def StartRequest.maxBufSize (r : StartRequest) : Nat :=
  if r.hasEht then IEEE80211_MAX_AMPDU_BUF_EHT
  else if r.hasHe then IEEE80211_MAX_AMPDU_BUF_HE
  else IEEE80211_MAX_AMPDU_BUF_HT

def StartRequest.clampedSize (r : StartRequest) : Nat :=
  min (if r.bufSize = 0 then r.maxBufSize else r.bufSize) r.maxRxAggregationSubframes

/-- The session `__ieee80211_start_rx_ba_session` installs, if it installs one. -/
def ieee80211StartRxBaSession (r : StartRequest) : Option TidAmpduRx :=
  if IEEE80211_FIRST_TSPEC_TSID ≤ r.tid then none
  else if r.htSupported = false ∧ r.hasHe = false then none
  else if r.blockBa then none
  else if (r.baPolicy ≠ 1 ∧ r.htCapDelayBa = false) ∨ r.maxBufSize < r.bufSize then none
  else if r.sameToken then none
  else if r.hwReorders then none
  else if r.driverOk = false then none
  else some
    { reorderBufFiltered := 0, reorderBuf := fun _ => [], reorderTime := fun _ => 0,
      reorderTimer := none, headSeqNum := r.startSeqNum.toNat, storedMpduNum := 0,
      ssn := r.startSeqNum.toNat, bufSize := r.clampedSize, autoSeq := r.autoSeq,
      removed := false, started := false }

/-! ## Calls on a session -/

inductive Op where
  /-- `ieee80211_sta_manage_reorder_buf` -/
  | frame (jiffies : BitVec 64) (skb : Skb)
  /-- `ieee80211_sta_reorder_release` from the reorder timer -/
  | timer (jiffies : BitVec 64)
  /-- a BAR (`ieee80211_rx_h_ctrl`) -/
  | bar (startSeqNum : BitVec 12)
  /-- `ieee80211_mark_rx_ba_filtered_frames` -/
  | markFiltered (jiffies : BitVec 64) (ssn : BitVec 12) (filtered : BitVec 64)
      (receivedMpdus : Nat)
  /-- `__ieee80211_stop_rx_ba_session` marks the session; it may still be found -/
  | stop

/-- The call on the session, the fate of the frame it brings and the frames it releases. -/
def Op.apply (t : TidAmpduRx) : Op → Option (TidAmpduRx × Option Fate × List Skb)
  | .frame jiffies skb =>
    (ieee80211StaManageReorderBuf k t jiffies skb).map fun r => (r.2.1, some r.1, r.2.2)
  | .timer jiffies => (ieee80211StaReorderRelease k t jiffies).map fun r => (r.1, none, r.2)
  | .bar startSeqNum =>
    (ieee80211ReleaseReorderFrames k startSeqNum.toNat snFuel t).map fun r => (r.1, none, r.2)
  | .markFiltered jiffies ssn filtered receivedMpdus =>
    (ieee80211MarkRxBaFilteredFrames k t jiffies ssn.toNat filtered receivedMpdus).map
      fun r => (r.1, none, r.2)
  | .stop => some ({ t with removed := true }, none, [])

def Step (t : TidAmpduRx) (op : Op) (t' : TidAmpduRx) : Prop :=
  ∃ fate out, op.apply k t = some (t', fate, out)

/-- The state in which a call reaches `ieee80211_sta_reorder_release`, if it does, and the time
    there. -/
def Op.releaseEntry (t : TidAmpduRx) : Op → Option (TidAmpduRx × BitVec 64)
  | .frame jiffies skb =>
    match arrive k t jiffies skb with
    | some (.buffered, t, _) => if skb.amsduMore then none else some (t, jiffies)
    | _ => none
  | .timer jiffies => some (t, jiffies)
  | .markFiltered jiffies ssn filtered receivedMpdus =>
    match Mac80211.markFiltered k t ssn.toNat filtered receivedMpdus with
    | some (true, t, _) => some (t, jiffies)
    | _ => none
  | .bar _ | .stop => none

/-- A session as `__ieee80211_start_rx_ba_session` installs it, with room for a frame. -/
def Installed (t : TidAmpduRx) : Prop :=
  0 < t.bufSize ∧ ∃ r, ieee80211StartRxBaSession r = some t

def Op.received : Op → List Skb
  | .frame _ skb => [skb]
  | _ => []

/-- A session with the frames that have been received on it. -/
structure Session where
  rx : TidAmpduRx
  received : List Skb

def Session.Fresh (s : Session) : Prop := Installed s.rx ∧ s.received = []

/-- One call that returns, on a session with its history. -/
def Session.Step (s : Session) (op : Op) (s' : Session) : Prop :=
  Mac80211.Step k s.rx op s'.rx ∧ s'.received = op.received ++ s.received

end Mac80211
