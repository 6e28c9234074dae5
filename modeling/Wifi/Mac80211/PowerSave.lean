import Wifi.Lib.Roster

/-!
# Power save: sleeping stations and the frames held for them

* `Sta` — the flags and the queues of a station; `PsData` — what an AP or a mesh interface holds.
* `staPsStart`, `staPsEnd`, `mpsStaStatusUpdate`, `staBlockAwake`, `staDeliverPsFrames` — sleep and
  wake-up (`rx.c`, `mesh_ps.c`, `sta_info.c`), with `staPsDeliverWakeup` as the shared helper.
* `multicastPsBuf`, `unicastPsBuf`, `purgeOldPsBuffers` — frames are held (`tx.c`).
* `staPsGetFrames`, `mpsFrameDeliver`, `getBufferedBc`, `expireBufferedAc` — frames leave.
* `cleanupSingleSta`, `staExpire` — stations leave.
* `Op`, `State.next` — the operations and what each does.

Notifications, the TIM and the queues of the driver are left out.  `wakeupDue` is the only field that is not
of the source, and no operation reads it.
-/

namespace Mac80211.PowerSave

/-- `enum nl80211_iftype`, as far as power save tells the types apart -/
inductive IfType where
  | ap | apVlan | mesh | other
  deriving DecidableEq

/-- The interfaces (`local->interfaces`). -/
structure Config where
  interfaces : List Nat
  type : Nat → IfType
  /-- `sdata->bss`, by the interface whose `u.ap` it is -/
  bss : Nat → Option Nat
  /-- `IEEE80211_HW_HOST_BROADCAST_PS_BUFFERING` -/
  hostBroadcastPsBuffering : Bool
  nodup : interfaces.Nodup
  ap_bss : ∀ i, type i = .ap → bss i = some i
  vlan_bss : ∀ i j, type i = .apVlan → bss i = some j → type j = .ap
  listed : ∀ i, type i = .ap ∨ type i = .mesh → i ∈ interfaces

/-- The interface whose `ps` the stations of an interface use. -/
def Config.ps (c : Config) (i : Nat) : Option Nat :=
  match c.type i with
  | .ap => c.bss i
  | .apVlan => c.bss i
  | .mesh => some i
  | .other => none

/-- Whether an interface has a `ps` of its own. -/
def Config.hasPs (c : Config) (i : Nat) : Bool :=
  match c.type i with
  | .ap => true
  | .mesh => true
  | .apVlan => false
  | .other => false

/-- `struct sk_buff` -/
abbrev Frame := Nat

/-- `enum ieee80211_ac_numbers`: VO, VI, BE, BK -/
abbrev Ac := Fin 4

def IEEE80211_AC_VO : Ac := 0
def IEEE80211_AC_VI : Ac := 1
def IEEE80211_AC_BE : Ac := 2
def IEEE80211_AC_BK : Ac := 3

theorem nodup_one : [0].Nodup := List.nodup_singleton 0

def TOTAL_MAX_TX_BUFFER : Int := 512
def AP_MAX_BC_BUFFER : Nat := 128
def STA_MAX_TX_BUFFER : Nat := 64

/-- `struct sta_info` -/
structure Sta where
  sdata : Nat
  /-- `WLAN_STA_PS_STA` -/
  psSta : Bool := false
  /-- `WLAN_STA_PS_DRIVER` -/
  psDriver : Bool := false
  /-- `WLAN_STA_PS_DELIVER` -/
  psDeliver : Bool := false
  /-- `WLAN_STA_PSPOLL` -/
  pspoll : Bool := false
  /-- `WLAN_STA_UAPSD` -/
  uapsd : Bool := false
  /-- `drv_deliver_wk` is queued -/
  drvDeliverWk : Bool := false
  /-- History, and no field of the source: it fell asleep, and its wake-up has not been delivered since. -/
  wakeupDue : Bool := false
  psTxBuf : Ac → List Frame := fun _ => []
  txFiltered : Ac → List Frame := fun _ => []

/-- One of the flags for which frames are held. -/
def Sta.buffering (sta : Sta) : Bool := sta.psSta || sta.psDriver || sta.psDeliver

structure PsData where
  numStaPs : Int
  bcBuf : List Frame

/-- The stations, the interfaces, and the count of held frames. -/
structure State where
  stas : Roster Sta
  ps : Nat → PsData
  totalPsBuffered : Int

/-- `ieee80211_tx_result` -/
inductive TxResult where
  | txContinue | txQueued
  deriving DecidableEq

namespace State

variable (c : Config)

/-- `atomic_inc` and `atomic_dec` of `num_sta_ps` -/
def addStaPs (s : State) (i : Nat) (d : Int) : State :=
  { s with ps := Function.update s.ps i { s.ps i with numStaPs := (s.ps i).numStaPs + d } }

/-- Write to `bc_buf`. -/
def setBcBuf (s : State) (i : Nat) (q : List Frame) : State :=
  { s with ps := Function.update s.ps i { s.ps i with bcBuf := q } }

def setSta (s : State) (a : Nat) (sta : Sta) : State := { s with stas := s.stas.set a sta }

/-! ## Wake-up -/

/-- `ieee80211_sta_ps_deliver_wakeup` -/
def staPsDeliverWakeup (s : State) (a : Nat) : State :=
  let sta := s.stas.get a
  match c.ps sta.sdata with
  | none => s
  | some i =>
    let buffered : Int := ((List.finRange 4).map fun ac => ((sta.psTxBuf ac).length : Int)).sum
    let sta := { sta with
      psTxBuf := fun _ => [], txFiltered := fun _ => [], psDeliver := false, pspoll := false, uapsd := false
      wakeupDue := false }
    let s := (s.setSta a sta).addStaPs i (-1)
    { s with totalPsBuffered := s.totalPsBuffered - buffered }

def staPsStart (s : State) (a : Nat) : State :=
  let sta := s.stas.get a
  match c.type sta.sdata, c.bss sta.sdata with
  | .ap, some i => (s.addStaPs i 1).setSta a { sta with psSta := true, wakeupDue := true }
  | .apVlan, some i => (s.addStaPs i 1).setSta a { sta with psSta := true, wakeupDue := true }
  | _, _ => s

def staPsEnd (s : State) (a : Nat) : State :=
  let sta := s.stas.get a
  if sta.psDriver then s.setSta a { sta with psSta := false }
  else (s.setSta a { sta with psDeliver := true, psSta := false }).staPsDeliverWakeup c a

/-- `ieee80211_sta_ps_transition`, and the check of the PM bit in `ieee80211_rx_h_sta_process` -/
def staPsTransition (s : State) (a : Nat) (start : Bool) : State :=
  let inPs := (s.stas.get a).psSta
  if (start && inPs) || (!start && !inPs) then s
  else if start then s.staPsStart c a else s.staPsEnd c a

/-- `enum nl80211_mesh_power_mode` -/
inductive MeshPowerMode where
  | unknown | active | lightSleep | deepSleep
  deriving DecidableEq

/-- What `ieee80211_mps_sta_status_update` reads of a mesh station besides the flags. -/
structure MeshSta where
  /-- `sta_state >= IEEE80211_STA_ASSOC` -/
  assoc : Bool
  /-- `plink_state == NL80211_PLINK_ESTAB` -/
  estab : Bool
  peerPm : MeshPowerMode
  nonpeerPm : MeshPowerMode

def MeshSta.doBuffer (m : MeshSta) : Bool :=
  let pm := if m.estab ∧ m.peerPm ≠ .unknown then m.peerPm else m.nonpeerPm
  decide (pm ≠ .active)

/-- `ieee80211_mps_sta_status_update` -/
def mpsStaStatusUpdate (s : State) (a : Nat) (m : MeshSta) : State :=
  let sta := s.stas.get a
  if !m.assoc then s
  else if sta.psSta = m.doBuffer then s
  else if m.doBuffer then (s.setSta a { sta with psSta := true, wakeupDue := true }).addStaPs sta.sdata 1
  else s.staPsDeliverWakeup c a

/-- `ieee80211_sta_block_awake` -/
def staBlockAwake (s : State) (a : Nat) (block : Bool) : State :=
  let sta := s.stas.get a
  if block then s.setSta a { sta with psDriver := true }
  else if !sta.psDriver then s
  else if !sta.psSta then s.setSta a { sta with psDeliver := true, psDriver := false, drvDeliverWk := true }
  else if sta.pspoll || sta.uapsd then s.setSta a { sta with psDriver := false, drvDeliverWk := true }
  else s.setSta a { sta with psDriver := false }

/-! ## Frames that are held -/

/-- The loop over the ACs in `purge_old_ps_buffers`: the queues, and what is added to `total`. -/
def purgeAcs (buf : Ac → List Frame) : List Ac → (Ac → List Frame) × Int
  | [] => (buf, 0)
  | ac :: acs =>
    match buf ac with
    | [] => purgeAcs buf acs
    | _ :: rest => (Function.update buf ac rest, rest.length)

def purgeOrder : List Ac := [3, 2, 1, 0]

def purgeOldPsBuffers (s : State) : State :=
  { stas := s.stas.setAll fun sta => { sta with psTxBuf := (purgeAcs sta.psTxBuf purgeOrder).1 }
    ps := fun i => if c.hasPs i then { s.ps i with bcBuf := (s.ps i).bcBuf.drop 1 } else s.ps i
    totalPsBuffered :=
      (c.interfaces.map fun i => if c.hasPs i then (((s.ps i).bcBuf.drop 1).length : Int) else 0).sum +
        s.stas.sum fun sta => (purgeAcs sta.psTxBuf purgeOrder).2 }

/-- The buffers are purged when they are full. -/
def purgeIfFull (s : State) : State :=
  if s.totalPsBuffered ≥ TOTAL_MAX_TX_BUFFER then s.purgeOldPsBuffers c else s

/-- `ieee80211_tx_h_multicast_ps_buf`; `plain` is neither an ordered frame nor a probe request. -/
def multicastPsBuf (s : State) (sdata : Nat) (skb : Frame) (plain : Bool) : State × TxResult :=
  match c.ps sdata with
  | none => (s, .txContinue)
  | some i =>
    if !plain then (s, .txContinue)
    else if (s.ps i).numStaPs = 0 ∧ (s.ps i).bcBuf = [] then (s, .txContinue)
    else if !c.hostBroadcastPsBuffering then (s, .txContinue)
    else
      let s := s.purgeIfFull c
      let q := (s.ps i).bcBuf
      if q.length ≥ AP_MAX_BC_BUFFER then (s.setBcBuf i (q.drop 1 ++ [skb]), .txQueued)
      else
        let s := { s with totalPsBuffered := s.totalPsBuffered + 1 }
        (s.setBcBuf i (q ++ [skb]), .txQueued)

/-- `ieee80211_tx_h_unicast_ps_buf`; `noPsBuffer` is for a frame that is not to be held, and `awake` is
    set when the station has woken up by the time its lock is taken. -/
def unicastPsBuf (s : State) (a : Nat) (ac : Ac) (skb : Frame) (noPsBuffer awake : Bool) : State × TxResult :=
  if (s.stas.get a).buffering && !noPsBuffer then
    let s := s.purgeIfFull c
    if awake then (s, .txContinue)
    else
      let sta := s.stas.get a
      let q := sta.psTxBuf ac
      if q.length ≥ STA_MAX_TX_BUFFER then
        (s.setSta a { sta with psTxBuf := Function.update sta.psTxBuf ac (q.drop 1 ++ [skb]) }, .txQueued)
      else
        let s := { s with totalPsBuffered := s.totalPsBuffered + 1 }
        (s.setSta a { sta with psTxBuf := Function.update sta.psTxBuf ac (q ++ [skb]) }, .txQueued)
  else (s, .txContinue)

/-- `ieee80211_handle_filtered_frame`, for a frame that is not dropped or sent again -/
def handleFilteredFrame (s : State) (a : Nat) (ac : Ac) (skb : Frame) : State :=
  let sta := s.stas.get a
  if sta.psSta ∧ (sta.txFiltered ac).length < STA_MAX_TX_BUFFER then
    s.setSta a { sta with txFiltered := Function.update sta.txFiltered ac (sta.txFiltered ac ++ [skb]) }
  else s

/-! ## Frames that leave -/

/-- `sta_info_cleanup_expire_buffered_ac`; `expired` is `sta_info_buffer_expired` -/
def expireBufferedAc (s : State) (a : Nat) (ac : Ac) (expired : Frame → Bool) : State :=
  let sta := s.stas.get a
  let kept := (sta.psTxBuf ac).dropWhile expired
  let sta' := { sta with
    txFiltered := Function.update sta.txFiltered ac ((sta.txFiltered ac).dropWhile expired)
    psTxBuf := Function.update sta.psTxBuf ac kept }
  { s.setSta a sta' with
    totalPsBuffered := s.totalPsBuffered - ((sta.psTxBuf ac).length - kept.length : Int) }

/-- The frames that are taken of one AC: the filtered ones, and then those that are held.  What is left
    in both queues, the frames, and how many were held. -/
def dequeue : Nat → List Frame → List Frame → List Frame × List Frame × List Frame × Int
  | 0, filtered, held => (filtered, held, [], 0)
  | n + 1, skb :: filtered, held =>
    let r := dequeue n filtered held
    (r.1, r.2.1, skb :: r.2.2.1, r.2.2.2)
  | n + 1, [], skb :: held =>
    let r := dequeue n [] held
    (r.1, r.2.1, skb :: r.2.2.1, r.2.2.2 + 1)
  | _ + 1, [], [] => ([], [], [], 0)

/-- The frames of an AC are taken by `n`, or all for `none`; how many are left to take. -/
def takeAc (s : State) (a : Nat) (ac : Ac) (n : Option Nat) : State × List Frame × Option Nat :=
  let sta := s.stas.get a
  let r := dequeue (n.getD ((sta.txFiltered ac).length + (sta.psTxBuf ac).length)) (sta.txFiltered ac)
    (sta.psTxBuf ac)
  let sta' := { sta with
    txFiltered := Function.update sta.txFiltered ac r.1
    psTxBuf := Function.update sta.psTxBuf ac r.2.1 }
  ({ s.setSta a sta' with totalPsBuffered := s.totalPsBuffered - r.2.2.2 }, r.2.2.1,
    n.map (· - r.2.2.1.length))

/-- The loop of `ieee80211_sta_ps_get_frames`: `inDriver` is for an AC with frames in
    `driver_buffered_tids` or `txq_buffered_tids`, and `release` when `driver_release_tids` is not 0. -/
def getFramesLoop (a : Nat) (ignored inDriver : Ac → Bool) :
    List Ac → State → Nat → List Frame → Bool → State × List Frame
  | [], s, _, frames, _ => (s, frames)
  | ac :: acs, s, n, frames, release =>
    if ignored ac then getFramesLoop a ignored inDriver acs s n frames release
    else
      let release := release || (frames.isEmpty && inDriver ac)
      let r := if release then (s, [], some n) else s.takeAc a ac (some n)
      let s := r.1
      let frames := frames ++ r.2.1
      let sta := s.stas.get a
      if sta.txFiltered ac ≠ [] ∨ sta.psTxBuf ac ≠ [] then (s, frames)
      else getFramesLoop a ignored inDriver acs s (r.2.2.getD 0) frames release

/-- `ieee80211_sta_ps_get_frames` -/
def staPsGetFrames (s : State) (a n : Nat) (ignored inDriver : Ac → Bool) : State × List Frame :=
  getFramesLoop a ignored inDriver (List.finRange 4) s n [] false

/-- The loop of `mps_frame_deliver` -/
def mpsFrameDeliverLoop (a : Nat) : List Ac → State → Option Nat → List Frame → State × List Frame
  | [], s, _, frames => (s, frames)
  | ac :: acs, s, n, frames =>
    let r := s.takeAc a ac n
    mpsFrameDeliverLoop a acs r.1 r.2.2 (frames ++ r.2.1)

/-- `mps_frame_deliver`; `none` is -1, for all frames. -/
def mpsFrameDeliver (s : State) (a : Nat) (n : Option Nat) : State × List Frame :=
  mpsFrameDeliverLoop a (List.finRange 4) s n []

/-- The loop of `ieee80211_get_buffered_bc`, in which `ieee80211_tx_prepare` drops the first `drops`
    frames. -/
def getBufferedBcLoop (i : Nat) : Nat → State → State × Option Frame
  | drops, s =>
    match (s.ps i).bcBuf with
    | [] => (s, none)
    | skb :: q =>
      let s := { s.setBcBuf i q with totalPsBuffered := s.totalPsBuffered - 1 }
      match drops with
      | 0 => (s, some skb)
      | drops + 1 => getBufferedBcLoop i drops s

/-- `ieee80211_get_buffered_bc`, after a DTIM beacon -/
def getBufferedBc (s : State) (i drops : Nat) : State × Option Frame :=
  if c.hasPs i then getBufferedBcLoop i drops s else (s, none)

/-- The end of `ieee80211_stop_ap` and `ieee80211_stop_mesh` -/
def stopBc (s : State) (i : Nat) : State :=
  if c.hasPs i then
    { s.setBcBuf i [] with totalPsBuffered := s.totalPsBuffered - (s.ps i).bcBuf.length }
  else s

/-- `ieee80211_do_stop` for an AP_VLAN: `own` is for the frames of its device. -/
def stopVlan (s : State) (sdata : Nat) (own : Frame → Bool) : State :=
  match c.type sdata, c.bss sdata with
  | .apVlan, some i =>
    { s.setBcBuf i ((s.ps i).bcBuf.filter fun skb => !own skb) with
      totalPsBuffered := s.totalPsBuffered - ((s.ps i).bcBuf.filter own).length }
  | _, _ => s

/-! ## Stations that come and go -/

/-- A station as `sta_info_alloc` makes it. -/
def staInsert (s : State) (sdata : Nat) : State := { s with stas := s.stas.add { sdata := sdata } }

def purgeSta (s : State) (a : Nat) : State :=
  let sta := s.stas.get a
  let held : Int := ((List.finRange 4).map fun ac => ((sta.psTxBuf ac).length : Int)).sum
  { s.setSta a { sta with psTxBuf := fun _ => [], txFiltered := fun _ => [], drvDeliverWk := false } with
    totalPsBuffered := s.totalPsBuffered - held }

/-- `__cleanup_single_sta` -/
def cleanupSta (s : State) (a : Nat) : State :=
  let sta := s.stas.get a
  if sta.buffering then
    match c.ps sta.sdata with
    | none => s
    | some i =>
      ((s.setSta a { sta with psSta := false, psDriver := false, psDeliver := false }).addStaPs i (-1)).purgeSta a
  else s.purgeSta a

/-- `cleanup_single_sta`, at the end of `__sta_info_destroy` -/
def cleanupSingleSta (s : State) (a : Nat) : State :=
  let s := s.cleanupSta c a
  { s with stas := s.stas.remove a }

/-- `ieee80211_sta_expire`, for a station that expires -/
def staExpire (s : State) (a : Nat) : State :=
  let sta := s.stas.get a
  let s := if c.type sta.sdata = .mesh ∧ sta.psSta then s.addStaPs sta.sdata (-1) else s
  s.cleanupSingleSta c a

/-- `sta_deliver_ps_frames`: `response` are the frames of a poll response or of a service period. -/
def staDeliverPsFrames (s : State) (a n : Nat) (ignored inDriver : Ac → Bool) : State :=
  let sta := s.stas.get a
  let s := s.setSta a { sta with drvDeliverWk := false }
  let sta := s.stas.get a
  if !sta.psSta then s.staPsDeliverWakeup c a
  else if sta.pspoll then ((s.setSta a { sta with pspoll := false }).staPsGetFrames a n ignored inDriver).1
  else if sta.uapsd then ((s.setSta a { sta with uapsd := false }).staPsGetFrames a n ignored inDriver).1
  else s

/-- `ieee80211_sta_pspoll` and `ieee80211_sta_uapsd_trigger` -/
def staPoll (s : State) (a : Nat) (uapsd : Bool) (n : Nat) (ignored inDriver : Ac → Bool) : State :=
  let sta := s.stas.get a
  if !sta.psDriver then (s.staPsGetFrames a n ignored inDriver).1
  else if uapsd then s.setSta a { sta with uapsd := true }
  else s.setSta a { sta with pspoll := true }

end State

/-! ## Operations -/

/-- An operation, with what it is given by the frame, the driver or the clock. -/
inductive Op where
  | insert (sdata : Nat)
  | transition (a : Nat) (start : Bool)
  | statusUpdate (a : Nat) (m : State.MeshSta)
  | blockAwake (a : Nat) (block : Bool)
  | deliverWork (a n : Nat) (ignored inDriver : Ac → Bool)
  | poll (a : Nat) (uapsd : Bool) (n : Nat) (ignored inDriver : Ac → Bool)
  | mpsDeliver (a : Nat) (n : Option Nat)
  | multicast (sdata : Nat) (skb : Frame) (plain : Bool)
  | unicast (a : Nat) (ac : Ac) (skb : Frame) (noPsBuffer awake : Bool)
  | filtered (a : Nat) (ac : Ac) (skb : Frame)
  | expireFrames (a : Nat) (ac : Ac) (expired : Frame → Bool)
  | bufferedBc (i drops : Nat)
  | stopBc (i : Nat)
  | stopVlan (sdata : Nat) (own : Frame → Bool)
  | remove (a : Nat)
  | expire (a : Nat)

/-- What an operation does; `none` when its station is not there, or the work is not queued. -/
def State.next (c : Config) (s : State) : Op → Option State
  | .insert sdata => some (s.staInsert sdata)
  | .transition a start => if a ∈ s.stas.list then some (s.staPsTransition c a start) else none
  | .statusUpdate a m =>
    if a ∈ s.stas.list ∧ c.type (s.stas.get a).sdata = .mesh then some (s.mpsStaStatusUpdate c a m) else none
  | .blockAwake a block => if a ∈ s.stas.list then some (s.staBlockAwake a block) else none
  | .deliverWork a n ignored inDriver =>
    if a ∈ s.stas.list ∧ (s.stas.get a).drvDeliverWk then some (s.staDeliverPsFrames c a n ignored inDriver)
    else none
  | .poll a uapsd n ignored inDriver =>
    if a ∈ s.stas.list then some (s.staPoll a uapsd n ignored inDriver) else none
  | .mpsDeliver a n => if a ∈ s.stas.list then some (s.mpsFrameDeliver a n).1 else none
  | .multicast sdata skb plain => some (s.multicastPsBuf c sdata skb plain).1
  | .unicast a ac skb noPsBuffer awake =>
    if a ∈ s.stas.list then some (s.unicastPsBuf c a ac skb noPsBuffer awake).1 else none
  | .filtered a ac skb => if a ∈ s.stas.list then some (s.handleFilteredFrame a ac skb) else none
  | .expireFrames a ac expired => if a ∈ s.stas.list then some (s.expireBufferedAc a ac expired) else none
  | .bufferedBc i drops => some (s.getBufferedBc c i drops).1
  | .stopBc i => some (s.stopBc c i)
  | .stopVlan sdata own => some (s.stopVlan c sdata own)
  | .remove a => if a ∈ s.stas.list then some (s.cleanupSingleSta c a) else none
  | .expire a => if a ∈ s.stas.list then some (s.staExpire c a) else none

def NoStations (s : State) : Prop :=
  s.stas.list = [] ∧ (∀ i, s.ps i = { numStaPs := 0, bcBuf := [] }) ∧ s.totalPsBuffered = 0

def noStations : State where
  stas := Roster.empty fun _ => { sdata := 0 }
  ps := fun _ => { numStaPs := 0, bcBuf := [] }
  totalPsBuffered := 0

theorem noStations_start : NoStations noStations := ⟨rfl, fun _ => rfl, rfl⟩

def Step (c : Config) (s : State) (op : Op) (s' : State) : Prop := s.next c op = some s'

theorem step_guard {p : Prop} [Decidable p] {s s' : State} (h : (if p then some s else none) = some s') :
    p ∧ s = s' := by
  obtain ⟨hp, hs⟩ := Option.ite_none_right_eq_some.1 h
  exact ⟨hp, Option.some.inj hs⟩

end Mac80211.PowerSave
