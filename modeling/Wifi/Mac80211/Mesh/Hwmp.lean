import Wifi.Lib.Runs
import Wifi.Mac80211.Mesh.PathTbl

/-!
# Path selection frames (`linux/net/mac80211/mesh_hwmp.c`)

Reference model of the handlers of PREQ, PREP, PERR and RANN elements:

* `snGt`, `snLt`, `snDelta` — `SN_GT`, `SN_LT`, `SN_DELTA`.
* `hwmpRouteInfoGet` — routing information from a PREQ or a PREP.
* `hwmpPreqFrameProcess`, `hwmpPrepFrameProcess`, `hwmpPerrFrameProcess`, `hwmpRannFrameProcess`.
* `meshNexthopLookup`, `rxMeshProxyUpdate`, `meshPathSendToGates` — who uses paths.

Frames that are sent are left out.  Where a handler reads through `next_hop` without a check, `Deref`
is `none` when no station is there.
-/

namespace Mac80211.Mesh

open KeyedTable

def MAX_METRIC : BitVec 32 := 0xffffffff
def MAX_SANE_SN_DELTA : BitVec 32 := 32

def snGt (x y : BitVec 32) : Bool := (y - x).msb

def snLt (x y : BitVec 32) : Bool := (x - y).msb

def snDelta (x y : BitVec 32) : BitVec 32 := if y ≤ x then x - y else y - x

/-- `mult_frac` on `u32`. -/
structure MultFrac where
  multFrac : BitVec 32 → BitVec 32 → BitVec 32 → BitVec 32
  multFrac_eq : ∀ x n d, multFrac x n d = x / d * n + x % d * n / d

def MultFrac.linux : MultFrac := ⟨fun x n d => x / d * n + x % d * n / d, fun _ _ _ => rfl⟩

inductive MpathFrameType where
  | preq | prep | perr | rann
  deriving DecidableEq

/-- The fields of a PREQ or PREP that `hwmp_route_info_get` reads: originator here refers to the MP
    that was the target in the path request of a PREP. -/
structure HwmpFrame where
  action : MpathFrameType
  sa : EthAddr
  origAddr : EthAddr
  origSn : BitVec 32
  origMetric : BitVec 32
  hopcount : BitVec 8

/-- What `hwmp_route_info_get` gets from elsewhere. -/
structure RouteEnv where
  now : BitVec 64
  /-- `sta_info_get` of the transmitter -/
  sta : Option Nat
  /-- `airtime_link_metric_get` -/
  lastHopMetric : BitVec 32
  /-- `TU_TO_EXP_TIME` of the lifetime -/
  expTime : BitVec 64
  origAlloc : AllocResult
  taAlloc : AllocResult

def newMetric (origMetric lastHopMetric : BitVec 32) : BitVec 32 :=
  if origMetric + lastHopMetric < origMetric then MAX_METRIC else origMetric + lastHopMetric

variable (k : KernelApi) (h : MultFrac)

/-- A metric that is compared with that of the path: a change of the next hop has to pay off. -/
def hysteresis (mpath : MeshPath) (sta : Nat) (metric : BitVec 32) : BitVec 32 :=
  if mpath.nextHop ≠ some sta then h.multFrac metric 10 9 else metric

/-- `fresh_info` and `process` for a path to the originator that is there. -/
def origFresh (mpath : MeshPath) (sta : Nat) (origSn metric : BitVec 32) : Bool × Bool :=
  if mpath.flags.fixed then (false, true)
  else if mpath.flags.active ∧ mpath.flags.snValid then
    if snGt mpath.sn origSn ∨ (mpath.sn = origSn ∧ mpath.metric ≤ hysteresis h mpath sta metric) then
      (false, false)
    else (true, true)
  else if mpath.flags.active = false then
    let haveSn := mpath.flags.snValid
    let newerSn := haveSn && snGt origSn mpath.sn
    let bounced := haveSn && decide (MAX_SANE_SN_DELTA < snDelta origSn mpath.sn)
    -- if SN is newer than what we had then we can take it
    if haveSn = false ∨ newerSn then (true, true)
    -- if SN is way different than what we had then assume the other side rebooted or restarted
    else if bounced then (true, true)
    else (false, false)
  else (true, true)

/-- `fresh_info` for a path to the transmitter that is there. -/
def taFresh (mpath : MeshPath) (sta : Nat) (metric : BitVec 32) : Bool :=
  !(mpath.flags.fixed ||
    (mpath.flags.active && decide (mpath.metric < hysteresis h mpath sta metric)))

def laterExpTime (mpath : MeshPath) (expTime : BitVec 64) : BitVec 64 :=
  if k.timeAfter mpath.expTime expTime then mpath.expTime else expTime

def MeshPath.countChange (mpath : MeshPath) (sta : Nat) : MeshPath :=
  if mpath.nextHop ≠ some sta then { mpath with pathChangeCount := mpath.pathChangeCount + 1 }
  else mpath

/-- What fresh information does to the path to the originator. -/
def MeshPath.updateOrig (mpath : MeshPath) (sta : Nat) (origSn metric : BitVec 32)
    (expTime : BitVec 64) (hopcount : BitVec 8) : MeshPath :=
  { (mpath.countChange sta).assignNexthop sta with
    flags := { mpath.flags with snValid := true }
    metric := metric
    sn := origSn
    expTime := laterExpTime k mpath expTime
    hopCount := hopcount }.activate

/-- What fresh information does to the path to the transmitter. -/
def MeshPath.updateTa (mpath : MeshPath) (sta : Nat) (metric : BitVec 32) (expTime : BitVec 64) :
    MeshPath :=
  { (mpath.countChange sta).assignNexthop sta with
    metric := metric
    expTime := laterExpTime k mpath expTime
    hopCount := 1 }.activate

namespace MeshState

variable (s : MeshState)

/-- The next hop of an entry is another one than the station. -/
def nextHopChanges (mpath sta : Nat) : Bool :=
  match s.meshPaths.mem mpath with
  | none => false
  | some path => decide (path.nextHop ≠ some sta)

/-- Fresh information for an entry, and `flush_mpath`. -/
def updatePath (mpath sta : Nat) (flushMpath : Bool) (f : MeshPath → MeshPath) :
    MeshState × Bool :=
  let flushMpath := flushMpath || s.nextHopChanges mpath sta
  let s := s.modifyPath mpath f
  (if flushMpath then s.meshFastTxFlushMpath mpath else s, flushMpath)

/-- The first half of `hwmp_route_info_get`: `flush_mpath` and `process`, or nothing when no entry
    could be made. -/
def routeOrig (f : HwmpFrame) (env : RouteEnv) (sta : Nat) : MeshState × Option (Bool × Bool) :=
  let metric := newMetric f.origMetric env.lastHopMetric
  -- This MP is the originator, we are not interested in this frame
  if f.origAddr = s.vifAddr then (s, some (false, false))
  else
    let update := fun mpath : MeshPath =>
      mpath.updateOrig k sta f.origSn metric env.expTime (f.hopcount + 1)
    match s.meshPathLookup k env.now f.origAddr with
    | (s, some mpath) =>
      match s.meshPaths.mem mpath with
      | none => (s, none)
      | some path =>
        match origFresh h path sta f.origSn metric with
        | (true, process) =>
          let r := s.updatePath mpath sta false update
          (r.1, some (r.2, process))
        | (false, process) => (s, some (false, process))
    | (s, none) =>
      match s.meshPathAdd env.now f.origAddr env.origAlloc with
      | (s, .error _) => (s, none)
      | (s, .ok mpath) =>
        let r := s.updatePath mpath sta false update
        (r.1, some (r.2, true))

/-- The second half of `hwmp_route_info_get`, for the transmitter: whether an entry could be made. -/
def routeTa (f : HwmpFrame) (env : RouteEnv) (sta : Nat) (flushMpath : Bool) : MeshState × Bool :=
  if f.origAddr = f.sa then (s, true)
  else
    let update := fun mpath : MeshPath => mpath.updateTa k sta env.lastHopMetric env.expTime
    match s.meshPathLookup k env.now f.sa with
    | (s, some mpath) =>
      match s.meshPaths.mem mpath with
      | none => (s, false)
      | some path =>
        if taFresh h path sta env.lastHopMetric then ((s.updatePath mpath sta flushMpath update).1, true)
        else (s, true)
    | (s, none) =>
      match s.meshPathAdd env.now f.sa env.taAlloc with
      | (s, .error _) => (s, false)
      | (s, .ok mpath) => ((s.updatePath mpath sta flushMpath update).1, true)

def hwmpRouteInfoGet (f : HwmpFrame) (env : RouteEnv) : MeshState × BitVec 32 :=
  match env.sta with
  | none => (s, 0)
  | some sta =>
    if f.action = .preq ∨ f.action = .prep then
      match s.routeOrig k h f env sta with
      | (s, none) => (s, 0)
      | (s, some (flushMpath, process)) =>
        match s.routeTa k h f env sta flushMpath with
        | (s, false) => (s, 0)
        | (s, true) => (s, if process then newMetric f.origMetric env.lastHopMetric else 0)
    else (s, 0)

/-- Reading the address of a station through a pointer. -/
def Deref (nextHop : Option Nat) : Option EthAddr := nextHop.bind s.stas

end MeshState

/-- The fields of a PREQ that `hwmp_preq_frame_process` reads. -/
structure PreqFrame where
  origAddr : EthAddr
  targetAddr : EthAddr
  targetSn : BitVec 32
  targetOnly : Bool
  rootIsGate : Bool

structure PerrFrame where
  sa : EthAddr
  ttl : BitVec 8
  targetAddr : EthAddr
  targetSn : BitVec 32

/-- The fields of a RANN, and what `hwmp_rann_frame_process` gets from elsewhere. -/
structure RannFrame where
  sa : EthAddr
  origAddr : EthAddr
  origSn : BitVec 32
  origMetric : BitVec 32
  rootIsGate : Bool
  /-- it is time to refresh the path to the root -/
  refresh : Bool
  sta : Option Nat
  lastHopMetric : BitVec 32
  alloc : AllocResult

namespace MeshState

variable (s : MeshState)

/-- The paths after `hwmp_preq_frame_process`. -/
def hwmpPreqFrameProcess (now : BitVec 64) (f : PreqFrame) : MeshState :=
  if f.targetAddr = s.vifAddr then s
  else if f.targetAddr = broadcastAddr ∧ f.targetOnly then
    match s.meshPathLookup k now f.origAddr with
    | (s, none) => s
    | (s, some mpath) => if f.rootIsGate then (s.meshPathAddGate mpath).1 else s
  else
    match s.meshPathLookup k now f.targetAddr with
    | (s, none) => s
    | (s, some mpath) =>
      s.modifyPath mpath fun mpath =>
        if mpath.flags.snValid = false ∨ snLt mpath.sn f.targetSn then
          { mpath with sn := f.targetSn, flags := { mpath.flags with snValid := true } }
        else mpath

/-- `hwmp_prep_frame_process`: the address that the PREP is forwarded to, read through `next_hop`. -/
def hwmpPrepFrameProcess (now : BitVec 64) (origAddr : EthAddr) (ttl : BitVec 8) :
    MeshState × Option (Option EthAddr) :=
  -- destination, no forwarding required
  if origAddr = s.vifAddr then (s, none)
  else if s.dot11MeshForwarding = false then (s, none)
  else if ttl ≤ 1 then (s, none)
  else
    match s.meshPathLookup k now origAddr with
    | (s, none) => (s, none)
    | (s, some mpath) =>
      match s.meshPaths.mem mpath with
      | none => (s, none)
      | some path =>
        if path.flags.active = false then (s, none) else (s, some (s.Deref path.nextHop))

/-- The test of `hwmp_perr_frame_process`: nothing when it reads through a bad pointer. -/
def perrApplies (f : PerrFrame) (path : MeshPath) : Option Bool :=
  if path.flags.active = false then some false
  else
    (s.Deref path.nextHop).map fun addr =>
      decide (f.sa = addr) && !path.flags.fixed &&
        (!path.flags.snValid || snGt f.targetSn path.sn || decide (f.targetSn = 0))

/-- `hwmp_perr_frame_process`: nothing when it reads through a bad pointer. -/
def hwmpPerrFrameProcess (now : BitVec 64) (f : PerrFrame) : Option MeshState :=
  if f.ttl ≤ 1 then some s
  else
    match s.meshPathLookup k now f.targetAddr with
    | (s, none) => some s
    | (s, some mpath) =>
      match s.meshPaths.mem mpath with
      | none => some s
      | some path =>
        (s.perrApplies f path).map fun applies =>
          if applies then
            s.modifyPath mpath fun mpath =>
              { mpath.deactivate with
                sn := if f.targetSn ≠ 0 then f.targetSn else mpath.sn + 1 }
          else s

/-- What a RANN does to the path to its root. -/
def rannUpdate (now : BitVec 64) (f : RannFrame) (mpath : MeshPath) : MeshPath :=
  { mpath with
    lastPreqToRoot := if f.refresh then now else mpath.lastPreqToRoot
    sn := f.origSn
    rannMetric := newMetric f.origMetric f.lastHopMetric
    isRoot := true
    rannSndAddr := f.sa }

/-- The rest of `hwmp_rann_frame_process`, for the path to the root. -/
def rannPath (now : BitVec 64) (f : RannFrame) (mpath : Nat) : MeshState :=
  match s.meshPaths.mem mpath with
  | none => s
  | some path =>
    if snLt path.sn f.origSn = false ∧
        ¬(path.sn = f.origSn ∧ newMetric f.origMetric f.lastHopMetric < path.rannMetric) then s
    else
      let s := s.modifyPath mpath (rannUpdate now f)
      if f.rootIsGate then (s.meshPathAddGate mpath).1 else s

def hwmpRannFrameProcess (now : BitVec 64) (f : RannFrame) : MeshState :=
  -- Ignore our own RANNs
  if f.origAddr = s.vifAddr then s
  else
    match f.sta with
    | none => s
    | some _ =>
      match s.meshPathLookup k now f.origAddr with
      | (s, some mpath) => s.rannPath now f mpath
      | (s, none) =>
        match s.meshPathAdd now f.origAddr f.alloc with
        | (s, .error _) => s
        | (s, .ok mpath) => s.rannPath now f mpath

/-! ## Users of paths -/

/-- `mesh_nexthop_lookup`: the frame gets the address of the next hop, and may be cached. -/
def meshNexthopLookup (now : BitVec 64) (skb : FastTxSkb) : MeshState :=
  match s.meshPathLookup k now skb.hdr.addr3 with
  | (s, none) => s
  | (s, some mpath) =>
    match s.meshPaths.mem mpath with
    | none => s
    | some path =>
      if path.flags.active = false then s
      else
        match s.Deref path.nextHop with
        | none => s
        | some addr =>
          s.meshFastTxCache k now
            { skb with hdr := { skb.hdr with addr1 := addr, addr2 := s.vifAddr } } mpath

/-- The proxy update of `ieee80211_rx_mesh_data`. -/
def rxMeshProxyUpdate (now : BitVec 64) (proxiedAddr hSource : EthAddr) (alloc : AllocResult) :
    MeshState :=
  match s.mppPathLookup k now proxiedAddr with
  | (s, none) => (s.mppPathAdd now proxiedAddr hSource alloc).1
  | (s, some mppath) =>
    match s.mppPaths.mem mppath with
    | none => s
    | some path =>
      let update := path.mpp ≠ hSource
      let s := s.modifyMpp mppath fun mpath => { mpath with mpp := hSource, expTime := now }
      -- flush fast xmit cache if the address path changed
      if update then s.meshFastTxFlushAddr proxiedAddr else s

/-- `mesh_path_send_to_gates`: the next hops that `prepare_for_gate` reads, gate by gate. -/
def meshPathSendToGates (mpath : Nat) : List (Option EthAddr) :=
  let active := s.knownGates.filter fun gate =>
    match s.meshPaths.mem gate with
    | none => false
    -- WARN_ON of `mesh_path_move_to_queue`
    | some path => path.flags.active && decide (gate ≠ mpath) && path.nextHop.isSome
  active.map fun gate => s.Deref ((s.meshPaths.mem gate).bind MeshPath.nextHop)

end MeshState

end Mac80211.Mesh

/-!
## Runs of a mesh interface

* `MeshOp` — what happens at a mesh interface: calls of `cfg80211`, received elements and data frames,
  frames to be sent, periodic work, stations that come and go.
* `MeshState.next` — the state after it, or nothing when it read through a bad pointer.
* `MeshOp.Legal` — what the callers look up first.
-/

namespace Mac80211.Mesh

open KeyedTable

inductive MeshOp where
  | pathAdd (now : BitVec 64) (dst : EthAddr) (alloc : AllocResult)
  | mppAdd (now : BitVec 64) (dst mpp : EthAddr) (alloc : AllocResult)
  | pathDel (addr : EthAddr)
  | flushByNexthop (sta : Nat)
  | flushByProxy (proxy : EthAddr)
  | expire (now : BitVec 64)
  | flushByIface
  | routeInfo (f : HwmpFrame) (env : RouteEnv)
  | preq (now : BitVec 64) (f : PreqFrame)
  | prep (now : BitVec 64) (origAddr : EthAddr) (ttl : BitVec 8)
  | perr (now : BitVec 64) (f : PerrFrame)
  | rann (now : BitVec 64) (f : RannFrame)
  | addMpath (now : BitVec 64) (dst : EthAddr) (sta : Nat) (alloc : AllocResult)
  | changeMpath (now : BitVec 64) (dst : EthAddr) (sta : Nat)
  | plinkBroken (sta : Nat)
  | nexthopLookup (now : BitVec 64) (skb : FastTxSkb)
  | proxyUpdate (now : BitVec 64) (proxiedAddr hSource : EthAddr) (alloc : AllocResult)
  | fastTxGet (now : BitVec 64) (key : FastTxKey)
  | fastTxGc (now : BitVec 64)
  | fastTxFlushMpath (mpath : Nat)
  | fastTxFlushSta (sta : Nat)
  | fastTxFlushAddr (addr : EthAddr)
  /-- the discovery work and the timer of a path -/
  | discovery (now : BitVec 64) (dst : EthAddr) (resolving resolved : Bool) (expTime : BitVec 64)
  | staInsert (sta : Nat) (addr : EthAddr)
  | staDestroy (sta : Nat)

variable (k : KernelApi) (h : MultFrac)

namespace MeshState

variable (s : MeshState)

/-- `ieee80211_add_mpath` -/
def addMpath (now : BitVec 64) (dst : EthAddr) (sta : Nat) (alloc : AllocResult) : MeshState :=
  match s.meshPathAdd now dst alloc with
  | (s, .error _) => s
  | (s, .ok mpath) => s.meshPathFixNexthop mpath sta

/-- `ieee80211_change_mpath` -/
def changeMpath (now : BitVec 64) (dst : EthAddr) (sta : Nat) : MeshState :=
  match s.meshPathLookup k now dst with
  | (s, none) => s
  | (s, some mpath) => s.meshPathFixNexthop mpath sta

/-- The flags that the discovery work and the timer of a path change. -/
def discovery (now : BitVec 64) (dst : EthAddr) (resolving resolved : Bool) (expTime : BitVec 64) :
    MeshState :=
  match s.meshPathLookup k now dst with
  | (s, none) => s
  | (s, some mpath) =>
    s.modifyPath mpath fun mpath =>
      { mpath with
        flags := { mpath.flags with resolving := resolving, resolved := resolved }
        expTime := expTime }

/-- A station is destroyed, after `mesh_path_flush_by_nexthop`. -/
def staDestroy (sta : Nat) : MeshState :=
  let s := s.meshPathFlushByNexthop sta
  { s with stas := Function.update s.stas sta none }

/-- The state afterwards, or nothing when it read through a bad pointer. -/
def next : MeshOp → Option MeshState
  | .pathAdd now dst alloc => some (s.meshPathAdd now dst alloc).1
  | .mppAdd now dst mpp alloc => some (s.mppPathAdd now dst mpp alloc).1
  | .pathDel addr => some (s.meshPathDel addr).1
  | .flushByNexthop sta => some (s.meshPathFlushByNexthop sta)
  | .flushByProxy proxy => some (s.mppFlushByProxy proxy)
  | .expire now => some (s.meshPathExpire k now)
  | .flushByIface => some s.meshPathFlushByIface
  | .routeInfo f env => some (s.hwmpRouteInfoGet k h f env).1
  | .preq now f => some (s.hwmpPreqFrameProcess k now f)
  | .prep now origAddr ttl =>
    match s.hwmpPrepFrameProcess k now origAddr ttl with
    | (_, some none) => none
    | (s, _) => some s
  | .perr now f => s.hwmpPerrFrameProcess k now f
  | .rann now f => some (s.hwmpRannFrameProcess k now f)
  | .addMpath now dst sta alloc => some (s.addMpath now dst sta alloc)
  | .changeMpath now dst sta => some (s.changeMpath k now dst sta)
  | .plinkBroken sta => some (s.meshPlinkBroken sta)
  | .nexthopLookup now skb => some (s.meshNexthopLookup k now skb)
  | .proxyUpdate now proxiedAddr hSource alloc => some (s.rxMeshProxyUpdate k now proxiedAddr hSource alloc)
  | .fastTxGet now key => some (s.meshFastTxGet k now key).1
  | .fastTxGc now => some (s.meshFastTxGc k now)
  | .fastTxFlushMpath mpath => some (s.meshFastTxFlushMpath mpath)
  | .fastTxFlushSta sta => some (s.meshFastTxFlushSta sta)
  | .fastTxFlushAddr addr => some (s.meshFastTxFlushAddr addr)
  | .discovery now dst resolving resolved expTime =>
    some (s.discovery k now dst resolving resolved expTime)
  | .staInsert sta addr => some { s with stas := Function.update s.stas sta (some addr) }
  | .staDestroy sta => some (s.staDestroy sta)

end MeshState

/-- What the callers look up first: the station that sent a frame or that is made the next hop is
    there, and a new station is at a new address. -/
def MeshOp.Legal (s : MeshState) : MeshOp → Prop
  | .routeInfo f env => ∀ sta ∈ env.sta, s.stas sta = some f.sa
  | .addMpath _ _ sta _ => (s.stas sta).isSome
  | .changeMpath _ _ sta => (s.stas sta).isSome
  | .staInsert sta _ => s.stas sta = none
  | _ => True

instance (s : MeshState) : (op : MeshOp) → Decidable (op.Legal s)
  | .routeInfo f env => inferInstanceAs (Decidable (∀ sta ∈ env.sta, s.stas sta = some f.sa))
  | .addMpath _ _ sta _ => inferInstanceAs (Decidable ((s.stas sta).isSome = true))
  | .changeMpath _ _ sta => inferInstanceAs (Decidable ((s.stas sta).isSome = true))
  | .staInsert sta _ => inferInstanceAs (Decidable (s.stas sta = none))
  | .pathAdd .. | .mppAdd .. | .pathDel _ | .flushByNexthop _ | .flushByProxy _ | .expire _
  | .flushByIface | .preq .. | .prep .. | .perr .. | .rann .. | .plinkBroken _ | .nexthopLookup ..
  | .proxyUpdate .. | .fastTxGet .. | .fastTxGc _ | .fastTxFlushMpath _ | .fastTxFlushSta _
  | .fastTxFlushAddr _ | .discovery .. | .staDestroy _ => inferInstanceAs (Decidable True)

def MeshStep (s : MeshState) (op : MeshOp) (s' : MeshState) : Prop :=
  op.Legal s ∧ s.next k h op = some s'

/-- A mesh interface that has just been started. -/
structure Initial (s : MeshState) : Prop where
  meshPaths : s.meshPaths = .empty
  mppPaths : s.mppPaths = .empty
  mpaths : s.mpaths = 0
  knownGates : s.knownGates = []
  numGates : s.numGates = 0
  txCache : s.txCache = .empty

/-- The state after a step, when it is legal. -/
def legalNext (s : MeshState) (op : MeshOp) : Option MeshState :=
  if op.Legal s then s.next .linux .linux op else none

theorem legalNext_step {s s' : MeshState} {op : MeshOp} (hn : legalNext s op = some s') :
    MeshStep .linux .linux s op s' := by
  unfold legalNext at hn
  split at hn
  · rename_i hl
    exact ⟨hl, hn⟩
  · cases hn

/-- An interface with the address `1`. -/
def startMesh : MeshState :=
  { vifAddr := 1
    dot11MeshForwarding := true
    noackMap := 0
    meshPaths := .empty
    mppPaths := .empty
    mpaths := 0
    knownGates := []
    numGates := 0
    txCache := .empty
    stas := fun _ => none }

theorem startMesh_initial : Initial startMesh := ⟨rfl, rfl, rfl, rfl, rfl, rfl⟩

/-- A PREQ with SN 5 for the originator `2`. -/
def preqFrom (sa : EthAddr) (metric : BitVec 32) : HwmpFrame :=
  { action := .preq, sa := sa, origAddr := 2, origSn := 5, origMetric := metric, hopcount := 0 }

def routeVia (sta : Nat) : RouteEnv :=
  { now := 0
    sta := some sta
    lastHopMetric := 20
    expTime := 100
    origAlloc := ⟨true, true⟩
    taAlloc := ⟨true, true⟩ }

theorem observe {β : Type} (ops : List MeshOp) (f : MeshState → β) {x : β}
    (hx : (Runs.exec legalNext ops startMesh).map f = some x) :
    ∃ s, Runs.Reachable Initial (MeshStep .linux .linux) s ∧ f s = x := by
  have hstep : ∀ op ∈ ops, ∀ s s', legalNext s op = some s' → MeshStep .linux .linux s op s' :=
    fun _ _ _ _ hn => legalNext_step hn
  exact Runs.exec_observe startMesh_initial ops hstep f hx

end Mac80211.Mesh
