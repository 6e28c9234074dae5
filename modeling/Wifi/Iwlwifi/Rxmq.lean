import Wifi.Lib.Slots
import Wifi.Linux.KernelApi

/-!
# Reorder buffer of iwlwifi (`freebsd/sys/contrib/dev/iwlwifi/mvm/rxmq.c`)

Reference model of the driver's reorder buffer of one receive queue:

* `ReorderBuffer` — `struct iwl_mvm_reorder_buffer` with the entries of the queue.
* `iwlMvmReleaseFrames`, `iwlMvmReorderTimerExpired`, `iwlMvmDelBa`, `iwlMvmReorder` — the
  functions of `rxmq.c`; frames passed to mac80211 are returned in order.
* `Op` — the calls on a queue.

`IWL_MVM_USE_NSSN_SYNC` is 0, so `iwl_mvm_sync_nssn` does nothing and the flag
`IWL_MVM_RELEASE_SEND_RSS_SYNC` has no effect.  A result `none` stands for a loop that does not
end.
-/

namespace Iwlwifi

open Slots

/-- A received frame with its MPDU descriptor. -/
structure RxFrame where
  /-- `reorder_data`: the BAID is not `IWL_RX_REORDER_DATA_INVALID_BAID` -/
  baidValid : Bool
  /-- a station is assigned -/
  staValid : Bool
  /-- `ieee80211_is_back_req` -/
  backReq : Bool
  /-- `ieee80211_is_data_qos` -/
  dataQos : Bool
  /-- `is_multicast_ether_addr(hdr->addr1)` -/
  multicast : Bool
  /-- `ieee80211_is_data_present` -/
  dataPresent : Bool
  /-- `baid_map` has a session for the BAID -/
  baidKnown : Bool
  /-- TID and station are those of the session -/
  sessionMatches : Bool
  nssn : BitVec 12
  sn : BitVec 12
  /-- `IWL_RX_MPDU_REORDER_BA_OLD_SN` -/
  baOldSn : Bool
  /-- `rx_status->device_timestamp` -/
  gp2 : BitVec 32
  /-- `IWL_RX_MPDU_MFLG2_AMSDU` -/
  amsdu : Bool
  /-- `IWL_RX_MPDU_AMSDU_LAST_SUBFRAME` -/
  lastSubframe : Bool
  /-- `IWL_RX_MPDU_AMSDU_SUBFRAME_IDX_MASK` -/
  subFrameIdx : BitVec 7
  /-- the rest of the frame -/
  data : Nat
  deriving DecidableEq, Repr

abbrev RxFrame.seq (f : RxFrame) : Nat := f.sn.toNat

theorem RxFrame.seq_lt (f : RxFrame) : f.seq < 4096 := f.sn.isLt

/-- `struct iwl_mvm_reorder_buffer`, and the entries of its queue. -/
structure ReorderBuffer where
  headSn : Nat
  numStored : Nat
  bufSize : Nat
  lastAmsdu : Nat
  lastSubIndex : Nat
  /-- expiry of `reorder_timer`, while it is armed -/
  reorderTimer : Option (BitVec 64)
  removed : Bool
  valid : Bool
  consecOldsnDrops : Nat
  consecOldsnAmpduGp2 : BitVec 32
  consecOldsnPrevDrop : Bool
  /-- `entries[index].e.frames` -/
  frames : Nat → List RxFrame
  /-- `entries[index].e.reorder_time` -/
  reorderTime : Nat → BitVec 64

/-- The buffer `iwl_mvm_init_reorder_buffer` sets up. -/
def iwlMvmInitReorderBuffer (ssn bufSize : Nat) : ReorderBuffer where
  headSn := ssn
  numStored := 0
  bufSize := bufSize
  lastAmsdu := 0
  lastSubIndex := 0
  reorderTimer := none
  removed := false
  valid := false
  consecOldsnDrops := 0
  consecOldsnAmpduGp2 := 0
  consecOldsnPrevDrop := false
  frames := fun _ => []
  reorderTime := fun _ => 0

variable (k : KernelApi)

/-- `iwl_mvm_is_sn_less`; `sn2 - buffer_size` is converted to `u16`. -/
def iwlMvmIsSnLess (sn1 sn2 bufferSize : Nat) : Bool :=
  k.snLess sn1 sn2 && !k.snLess sn1 ((sn2 + 65536 - bufferSize) % 65536)

/-- `RX_REORDER_BUF_TIMEOUT_MQ`. -/
def rxReorderBufTimeoutMq : BitVec 64 := BitVec.ofNat 64 (k.hz / 10)

/-- `x - n` in `u16`. -/
def sub16 (x n : Nat) : Nat := (x + 65536 - n % 65536) % 65536

/-- The loop of `iwl_mvm_release_frames` over the entries up to `nssn`. -/
def releaseLoop (nssn : Nat) : Nat → Nat → ReorderBuffer → Option (ReorderBuffer × List RxFrame)
  | 0, _, _ => none
  | fuel + 1, ssn, t =>
    if iwlMvmIsSnLess k ssn nssn t.bufSize then
      let index := ssn % t.bufSize
      let skbList := t.frames index
      let t := { t with
        frames := clear t.frames index
        numStored := sub16 t.numStored skbList.length }
      match releaseLoop nssn fuel (k.snInc ssn) t with
      | none => none
      | some (t, out) => some (t, skbList ++ out)
    else some (t, [])

/-- Rounds that are enough for `releaseLoop`. -/
def snFuel : Nat := 4096

/-- The first entry from `index` on that holds a frame. -/
def firstStored (t : ReorderBuffer) : Nat → Nat → Option Nat
  | 0, _ => none
  | fuel + 1, index =>
    if t.frames index = [] then firstStored t fuel ((index + 1) % t.bufSize) else some index

/-- The label `set_timer` of `iwl_mvm_release_frames`. -/
def setTimer (t : ReorderBuffer) : Option ReorderBuffer :=
  if t.numStored ≠ 0 ∧ t.removed = false then
    match firstStored t t.bufSize (t.headSn % t.bufSize) with
    | none => none
    | some index =>
      some { t with reorderTimer := some (t.reorderTime index + 1 + rxReorderBufTimeoutMq k) }
  else some { t with reorderTimer := none }

/-- `iwl_mvm_release_frames`; the flag is `IWL_MVM_RELEASE_FROM_RSS_SYNC`. -/
def iwlMvmReleaseFrames (t : ReorderBuffer) (nssn : Nat) (fromRssSync : Bool) :
    Option (ReorderBuffer × List RxFrame) :=
  if fromRssSync = true ∧ k.snLess nssn t.headSn = true then (setTimer k t).map fun t => (t, [])
  -- ignore nssn smaller than head sn - this can happen due to timeout
  else if iwlMvmIsSnLess k nssn t.headSn t.bufSize then (setTimer k t).map fun t => (t, [])
  else
    match releaseLoop k nssn snFuel t.headSn t with
    | none => none
    | some (t, out) => (setTimer k { t with headSn := nssn }).map fun t => (t, out)

/-- The loop of `iwl_mvm_reorder_timer_expired`: the last entry looked at, and the sequence
    number after the last expired frame. -/
def expiredLoop (t : ReorderBuffer) (jiffies : BitVec 64) :
    Nat → Nat → Bool → Nat → Option Nat → Nat × Option Nat
  | 0, _, _, index, sn => (index, sn)
  | n + 1, i, cont, _, sn =>
    let index := (t.headSn + i) % t.bufSize
    if t.frames index = [] then expiredLoop t jiffies n (i + 1) false index sn
    else if cont = false ∧
        k.timeAfter jiffies (t.reorderTime index + rxReorderBufTimeoutMq k) = false then (index, sn)
    else expiredLoop t jiffies n (i + 1) true index (some (k.snAdd t.headSn (i + 1)))

/-- `iwl_mvm_reorder_timer_expired`; `staOk` says that the station is found. -/
def iwlMvmReorderTimerExpired (t : ReorderBuffer) (jiffies : BitVec 64) (staOk : Bool) :
    Option (ReorderBuffer × List RxFrame) :=
  if t.numStored = 0 ∨ t.removed = true then some (t, [])
  else
    match expiredLoop k t jiffies t.bufSize 0 false 0 none with
    | (_, some sn) => if staOk then iwlMvmReleaseFrames k t sn false else some (t, [])
    | (index, none) =>
      some ({ t with
        reorderTimer := some (t.reorderTime index + 1 + rxReorderBufTimeoutMq k) }, [])

/-- `iwl_mvm_del_ba` on the session. -/
def iwlMvmDelBa (t : ReorderBuffer) (staOk : Bool) : Option (ReorderBuffer × List RxFrame) :=
  if staOk then
    (iwlMvmReleaseFrames k t (k.snAdd t.headSn t.bufSize) false).map fun r =>
      ({ r.1 with reorderTimer := none }, r.2)
  else some (t, [])

/-- `iwl_mvm_release_frames_from_notif` on the session. -/
def iwlMvmReleaseFramesFromNotif (t : ReorderBuffer) (nssn : Nat) (fromRssSync staOk : Bool) :
    Option (ReorderBuffer × List RxFrame) :=
  if staOk then iwlMvmReleaseFrames k t nssn fromRssSync else some (t, [])

def IWL_MVM_AMPDU_CONSEC_DROPS_DELBA : Nat := 20

/-- The end of `iwl_mvm_oldsn_workaround`, for an MPDU with an old sequence number. -/
def countOldsn (t : ReorderBuffer) : ReorderBuffer :=
  if t.consecOldsnDrops + 1 = IWL_MVM_AMPDU_CONSEC_DROPS_DELBA then
    { t with consecOldsnPrevDrop := false, consecOldsnDrops := 0 }
  else { t with consecOldsnPrevDrop := true, consecOldsnDrops := t.consecOldsnDrops + 1 }

/-- `iwl_mvm_oldsn_workaround`. -/
def iwlMvmOldsnWorkaround (t : ReorderBuffer) (f : RxFrame) : ReorderBuffer :=
  if f.gp2 ≠ t.consecOldsnAmpduGp2 then
    let t := { t with
      consecOldsnDrops := if t.consecOldsnPrevDrop then t.consecOldsnDrops else 0
      consecOldsnAmpduGp2 := f.gp2 }
    if f.baOldSn then countOldsn t else t
  else if t.consecOldsnPrevDrop then t
  else if f.baOldSn then countOldsn t else t

/-! ## `iwl_mvm_reorder` -/

/-- The frame is subject to reordering in the session. -/
def RxFrame.admitted (f : RxFrame) : Bool :=
  f.baidValid && f.staValid && (f.backReq || (f.dataQos && !f.multicast)) && f.dataPresent &&
    f.baidKnown && f.sessionMatches

/-- There was a significant jump in the nssn. -/
def jumped (t : ReorderBuffer) (f : RxFrame) : Bool :=
  !iwlMvmIsSnLess k f.nssn.toNat (t.headSn + t.bufSize) t.bufSize ||
    !k.snLess f.seq (t.headSn + t.bufSize)

def minSn (f : RxFrame) : Nat := if k.snLess f.seq f.nssn.toNat then f.seq else f.nssn.toNat

def adjustJump (t : ReorderBuffer) (f : RxFrame) : Option (ReorderBuffer × List RxFrame) :=
  if jumped k t f then iwlMvmReleaseFrames k t (minSn k f) false else some (t, [])

/-- All subframes of the MPDU have been seen. -/
def RxFrame.whole (f : RxFrame) : Bool := !f.amsdu || f.lastSubframe

inductive Decision where
  /-- drop any outdated packet, or a retransmission -/
  | drop
  /-- release immediately -/
  | pass (t : ReorderBuffer)
  /-- put in reorder buffer -/
  | put

/-- The decision on a frame after the adjustment to a jump. -/
def decision (t : ReorderBuffer) (f : RxFrame) : Decision :=
  if k.snLess f.seq t.headSn then .drop
  else if t.numStored = 0 ∧ k.snLess f.seq f.nssn.toNat = true then
    if iwlMvmIsSnLess k t.headSn f.nssn.toNat t.bufSize = true ∧ f.whole = true then
      .pass { t with headSn := f.nssn.toNat }
    else .pass t
  else if t.numStored = 0 ∧ f.seq = t.headSn then
    if f.whole then .pass { t with headSn := k.snInc t.headSn } else .pass t
  else
    -- Check if we already stored this frame
    let index := f.seq % t.bufSize
    if t.frames index ≠ [] ∧ f.amsdu = false then .drop
    else if t.frames index ≠ [] ∧
        (f.seq ≠ t.lastAmsdu ∨ f.subFrameIdx.toNat ≤ t.lastSubIndex) then .drop
    else .put

def putFrame (t : ReorderBuffer) (jiffies : BitVec 64) (f : RxFrame) : ReorderBuffer :=
  let index := f.seq % t.bufSize
  { t with
    frames := put t.frames index [f]
    numStored := (t.numStored + 1) % 65536
    reorderTime := Function.update t.reorderTime index jiffies
    lastAmsdu := if f.amsdu then f.seq else t.lastAmsdu
    lastSubIndex := if f.amsdu then f.subFrameIdx.toNat else t.lastSubIndex }

inductive Fate where
  /-- passed to the upper layer (`return false`) -/
  | pass
  | drop
  | buffered
  deriving DecidableEq, Repr

/-- `iwl_mvm_reorder`: what becomes of the frame, and the frames released before it. -/
def iwlMvmReorder (t : ReorderBuffer) (jiffies : BitVec 64) (f : RxFrame) :
    Option (Fate × ReorderBuffer × List RxFrame) :=
  if f.admitted = false then some (.pass, t, [])
  else if t.valid = false ∧ f.baOldSn = true then some (.pass, t, [])
  else
    let t := { t with valid := true }
    if f.backReq then
      match iwlMvmReleaseFrames k t f.nssn.toNat false with
      | none => none
      | some (t, out) => some (.drop, t, out)
    else
      match adjustJump k t f with
      | none => none
      | some (t, out) =>
        let t := iwlMvmOldsnWorkaround t f
        match decision k t f with
        | .drop => some (.drop, t, out)
        | .pass t => some (.pass, t, out)
        | .put =>
          let t := putFrame t jiffies f
          if f.whole then
            match iwlMvmReleaseFrames k t f.nssn.toNat false with
            | none => none
            | some (t, out') => some (.buffered, t, out ++ out')
          else some (.buffered, t, out)

/-! ## Calls on a queue -/

inductive Op where
  | reorder (jiffies : BitVec 64) (f : RxFrame)
  /-- a frame release notification, or a queue synchronisation -/
  | notif (nssn : BitVec 12) (fromRssSync staOk : Bool)
  | timer (jiffies : BitVec 64) (staOk : Bool)
  | delBa (staOk : Bool)

/-- The call on the buffer, the fate of the frame it brings and the frames it releases. -/
def Op.apply (t : ReorderBuffer) : Op → Option (ReorderBuffer × Option Fate × List RxFrame)
  | .reorder jiffies f => (iwlMvmReorder k t jiffies f).map fun r => (r.2.1, some r.1, r.2.2)
  | .notif nssn fromRssSync staOk =>
    (iwlMvmReleaseFramesFromNotif k t nssn.toNat fromRssSync staOk).map fun r => (r.1, none, r.2)
  | .timer jiffies staOk =>
    (iwlMvmReorderTimerExpired k t jiffies staOk).map fun r => (r.1, none, r.2)
  | .delBa staOk => (iwlMvmDelBa k t staOk).map fun r => (r.1, none, r.2)

def Step (t : ReorderBuffer) (op : Op) (t' : ReorderBuffer) : Prop :=
  ∃ fate out, op.apply k t = some (t', fate, out)

/-- A buffer as `iwl_mvm_sta_rx_agg` sets it up: the start is a sequence number, and the size is at
    most `IEEE80211_MAX_AMPDU_BUF_EHT` and divides the sequence space. -/
def Installed (t : ReorderBuffer) : Prop :=
  ∃ ssn bufSize, ssn < 4096 ∧ 0 < bufSize ∧ bufSize ≤ 1024 ∧ bufSize ∣ 4096 ∧
    t = iwlMvmInitReorderBuffer ssn bufSize

end Iwlwifi
