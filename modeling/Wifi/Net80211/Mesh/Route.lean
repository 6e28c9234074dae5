import Wifi.Lib.Records

/-!
# Mesh routes and known gates (`freebsd/sys/net80211/ieee80211_mesh.c`)

* `MeshRoute`, `GateRoute`, `MeshState` — the routing table of a mesh vap, and the gates it knows.
* `rtFind`, `rtAdd`, `rtUpdate`, `rtFlush`, `rtFlushPeer`, `rtFlushInvalid`, `proxyCheck`, `markGate` — the
  functions of these names.
* `forwardToGates` — `ieee80211_mesh_forward_to_gates`, with its assertions.
* `recvActionMeshgate` — `mesh_recv_action_meshgate`.

A route is known by its pointer, which is never used again; a known gate keeps one.  Frames on the staging
queue, statistics and locks are left out, and so are the handlers' assertions about addresses.
-/

namespace Net80211.Mesh

open Records

/-! ## Data -/

/-- `uint8_t[IEEE80211_ADDR_LEN]`, the first octet is the most significant one. -/
abbrev MacAddr := BitVec 48

/-- `IEEE80211_IS_MULTICAST` -/
def isMulticast (addr : MacAddr) : Bool := addr.getLsbD 40

def broadcastaddr : MacAddr := BitVec.allOnes 48

/-- `rt_flags`, with `IEEE80211_MESHRT_FLAGS_DISCOVER`, `VALID`, `PROXY` and `GATE`. -/
structure RtFlags where
  discover : Bool
  valid : Bool
  proxy : Bool
  gate : Bool
  deriving DecidableEq, Repr

namespace RtFlags

def none : RtFlags := { discover := false, valid := false, proxy := false, gate := false }
def onlyDiscover : RtFlags := { none with discover := true }
def onlyValid : RtFlags := { none with valid := true }
def proxyValid : RtFlags := { none with valid := true, proxy := true }

end RtFlags

/-- `struct ieee80211_mesh_route`, with `struct ieee80211_hwmp_route`. -/
structure MeshRoute where
  ptr : Nat
  rtDest : MacAddr
  rtMeshGate : MacAddr
  rtNexthop : MacAddr
  rtMetric : BitVec 32
  rtNhops : BitVec 16
  rtFlags : RtFlags
  rtLifetime : BitVec 32
  rtUpdtime : BitVec 32
  rtExtSeq : BitVec 32
  /-- the callout `rt_discovery` is pending -/
  rtDiscovery : Bool
  hrSeq : BitVec 32
  hrPreqid : BitVec 32
  hrOrigseq : BitVec 32
  hrPreqretries : Nat
  hrLastdiscovery : BitVec 32
  deriving DecidableEq, Repr

/-- What `IEEE80211_M_ZERO` gives. -/
def MeshRoute.zero : MeshRoute :=
  { ptr := 0, rtDest := 0, rtMeshGate := 0, rtNexthop := 0, rtMetric := 0, rtNhops := 0, rtFlags := .none
    rtLifetime := 0, rtUpdtime := 0, rtExtSeq := 0, rtDiscovery := false, hrSeq := 0, hrPreqid := 0, hrOrigseq := 0
    hrPreqretries := 0, hrLastdiscovery := 0 }

/-- `struct ieee80211_mesh_gate_route` -/
structure GateRoute where
  grAddr : MacAddr
  grLastseq : BitVec 32
  grRoute : Option Nat
  deriving DecidableEq, Repr

structure MsFlags where
  gate : Bool
  fwd : Bool
  root : Bool
  deriving DecidableEq, Repr

structure MeshpreqTarget where
  targetFlags : BitVec 8
  targetAddr : MacAddr
  targetSeq : BitVec 32
  deriving DecidableEq, Repr

/-- `struct ieee80211_meshpreq_ie`, with at least one target. -/
structure MeshpreqIe where
  preqFlags : BitVec 8
  preqHopcount : BitVec 8
  preqTtl : BitVec 8
  preqId : BitVec 32
  preqOrigaddr : MacAddr
  preqOrigseq : BitVec 32
  preqOrigExtAddr : MacAddr
  preqLifetime : BitVec 32
  preqMetric : BitVec 32
  target0 : MeshpreqTarget
  moreTargets : List MeshpreqTarget
  deriving DecidableEq, Repr

def MeshpreqIe.preqTcount (preq : MeshpreqIe) : Nat := preq.moreTargets.length + 1

/-- `struct ieee80211_meshprep_ie` -/
structure MeshprepIe where
  prepFlags : BitVec 8
  prepHopcount : BitVec 8
  prepTtl : BitVec 8
  prepTargetaddr : MacAddr
  prepTargetseq : BitVec 32
  prepTargetExtAddr : MacAddr
  prepLifetime : BitVec 32
  prepMetric : BitVec 32
  prepOrigaddr : MacAddr
  prepOrigseq : BitVec 32
  deriving DecidableEq, Repr

structure MeshperrDest where
  destFlags : BitVec 8
  destAddr : MacAddr
  destSeq : BitVec 32
  destExtAddr : MacAddr
  destRcode : BitVec 16
  deriving DecidableEq, Repr

/-- `struct ieee80211_meshperr_ie` -/
structure MeshperrIe where
  perrTtl : BitVec 8
  perrDests : List MeshperrDest
  deriving DecidableEq, Repr

/-- `struct ieee80211_meshrann_ie` -/
structure MeshrannIe where
  rannFlags : BitVec 8
  rannHopcount : BitVec 8
  rannTtl : BitVec 8
  rannAddr : MacAddr
  rannSeq : BitVec 32
  rannInterval : BitVec 32
  rannMetric : BitVec 32
  deriving DecidableEq, Repr

/-- `struct ieee80211_meshgann_ie` -/
structure MeshgannIe where
  gannFlags : BitVec 8
  gannHopcount : BitVec 8
  gannTtl : BitVec 8
  gannAddr : MacAddr
  gannSeq : BitVec 32
  gannInterval : BitVec 16
  deriving DecidableEq, Repr

/-- A frame that was sent; the others are broadcast. -/
inductive Tx where
  | preq (da : MacAddr) (ie : MeshpreqIe)
  | prep (da : MacAddr) (ie : MeshprepIe)
  | perr (ie : MeshperrIe)
  | rann (ie : MeshrannIe)
  | gann (ie : MeshgannIe)
  deriving DecidableEq, Repr

/-- A mesh vap: `struct ieee80211_mesh_state`, with `struct ieee80211_hwmp_state`; what it sent has the latest
    first. -/
structure MeshState where
  ivMyaddr : MacAddr
  msTtl : BitVec 8
  msFlags : MsFlags
  msGateseq : BitVec 32
  msRoutes : List MeshRoute
  msKnownGates : List GateRoute
  hsSeq : BitVec 32
  hsPreqid : BitVec 32
  hsMaxhops : BitVec 8
  nextPtr : Nat
  sent : List Tx
  deriving DecidableEq, Repr

/-- What a function takes from its surroundings: the clock, memory, the metric of the sender, and the limit on
    the rate of frames. -/
structure Env where
  ticks : BitVec 32
  ticksToMsecs : BitVec 32 → BitVec 32
  canAlloc : MacAddr → Bool
  /-- `ms_pmetric->mpm_metric` -/
  mpmMetric : BitVec 32
  ratecheck : Bool
  mppInact : BitVec 32
  roottimeout : BitVec 32
  pathtimeout : BitVec 32
  maxpreqRetries : Nat
  netDiameterTraversaltime : BitVec 32
  targetonly : Bool

/-- Memory, a clock that stands still, and no limit on the rate of frames. -/
def Env.still : Env :=
  { ticks := 0, ticksToMsecs := id, canAlloc := fun _ => true, mpmMetric := 1, ratecheck := true, mppInact := 5000
    roottimeout := 5000, pathtimeout := 5000, maxpreqRetries := 3, netDiameterTraversaltime := 512, targetonly := false }

namespace MeshState

variable (env : Env) (s : MeshState)

def tx (frame : Tx) : MeshState := { s with sent := frame :: s.sent }

/-! ## The routing table -/

/-- `ieee80211_mesh_rt_find` -/
def rtFind (dest : MacAddr) : Option Nat := (look MeshRoute.rtDest dest s.msRoutes).map MeshRoute.ptr

def deref (p : Nat) : MeshRoute := (look MeshRoute.ptr p s.msRoutes).getD .zero

def modifyRt (p : Nat) (f : MeshRoute → MeshRoute) : MeshState :=
  { s with msRoutes := change MeshRoute.ptr p f s.msRoutes }

/-- `mesh_rt_add_locked`, when there is memory. -/
def rtAdd (dest : MacAddr) : MeshState :=
  { s with
    msRoutes := s.msRoutes ++ [{ MeshRoute.zero with ptr := s.nextPtr, rtDest := dest, rtUpdtime := env.ticks }]
    nextPtr := s.nextPtr + 1 }

/-- `ieee80211_mesh_rt_find`, and `ieee80211_mesh_rt_add` where there is no route. -/
def rtFindOrAdd (dest : MacAddr) : Option (MeshState × Nat) :=
  match s.rtFind dest with
  | some p => some (s, p)
  | none => if env.canAlloc dest then some (s.rtAdd env dest, s.nextPtr) else none

end MeshState

/-- `ieee80211_mesh_rt_update` -/
def MeshRoute.update (env : Env) (rt : MeshRoute) (newLifetime : BitVec 32) : MeshRoute :=
  -- dont clobber a proxy entry gated by us
  if rt.rtFlags.proxy && decide (rt.rtNhops = 0) then
    rt
  else
    let timesince := env.ticksToMsecs (env.ticks - rt.rtUpdtime)
    let rt := { rt with rtUpdtime := env.ticks }
    if timesince ≥ rt.rtLifetime then
      if newLifetime ≠ 0 then
        { rt with rtLifetime := newLifetime }
      else
        { rt with rtFlags := { rt.rtFlags with valid := false }, rtLifetime := 0 }
    else
      -- update what is left of lifetime
      let left := rt.rtLifetime - timesince
      { rt with rtLifetime := if newLifetime > left then newLifetime else left }

namespace MeshState

variable (env : Env) (s : MeshState)

/-- `ieee80211_mesh_rt_update` -/
def rtUpdate (p : Nat) (newLifetime : BitVec 32) : MeshState := s.modifyRt p fun rt => rt.update env newLifetime

/-- `mesh_rt_del`, for the routes that a flush picks. -/
def rtDelIf (picked : MeshRoute → Bool) : MeshState := { s with msRoutes := s.msRoutes.filter fun rt => !picked rt }

/-- `ieee80211_mesh_rt_flush` -/
def rtFlush : MeshState := s.rtDelIf fun _ => true

/-- `ieee80211_mesh_rt_flush_peer` -/
def rtFlushPeer (peer : MacAddr) : MeshState := s.rtDelIf fun rt => decide (rt.rtNexthop = peer)

/-- `mesh_rt_flush_invalid` -/
def rtFlushInvalid : MeshState :=
  { s with
    msRoutes := s.msRoutes.filterMap fun rt =>
      -- discover paths will be deleted by their own callout
      if rt.rtFlags.discover then
        some rt
      else
        let rt := rt.update env 0
        if rt.rtFlags.valid = false then none else some rt }

/-- `ieee80211_mesh_proxy_check` -/
def proxyCheck (dest : MacAddr) : MeshState :=
  match s.rtFind dest with
  | none =>
    if env.canAlloc dest then
      (s.rtAdd env dest).modifyRt s.nextPtr fun rt =>
        { rt with
          rtMeshGate := s.ivMyaddr
          rtNexthop := s.ivMyaddr
          rtFlags := { rt.rtFlags with valid := true, proxy := true } }
    else
      s
  | some p =>
    if (s.deref p).rtFlags.valid = false then
      s.modifyRt p fun rt =>
        { rt with rtNexthop := s.ivMyaddr, rtFlags := { rt.rtFlags with valid := true, proxy := true } }
    else
      s

/-! ## Gates -/

/-- The entry of a gate is written to; where there is none, it is made. -/
def modifyGate (addr : MacAddr) (f : GateRoute → GateRoute) : MeshState :=
  { s with msKnownGates := upsert GateRoute.grAddr addr { grAddr := addr, grLastseq := 0, grRoute := none } f s.msKnownGates }

/-- `ieee80211_mesh_mark_gate`, and the `gr_lastseq` that its callers set. -/
def markGate (addr : MacAddr) (p : Nat) : MeshState :=
  s.modifyGate addr fun gr => { gr with grRoute := some p, grLastseq := 0 }

def gateOf (addr : MacAddr) : Option GateRoute := look GateRoute.grAddr addr s.msKnownGates

/-- `mesh_recv_action_meshgate` propagates a GANN that it accepted. -/
def propagates (gann : MeshgannIe) : Bool :=
  -- ((ie.gann_ttl - 1) < 1 && !(ms->ms_flags & IEEE80211_MESHFLAGS_FWD))
  !(decide (gann.gannTtl.toNat < 2) && !s.msFlags.fwd)

/-- A GANN is accepted: it is not older than the last one. -/
def acceptsGann (gann : MeshgannIe) : Bool :=
  decide (s.ivMyaddr ≠ gann.gannAddr) &&
    match s.gateOf gann.gannAddr with
    | some gr => decide (gr.grLastseq < gann.gannSeq)
    | none => true

/-- `mesh_recv_action_meshgate` -/
def recvActionMeshgate (gann : MeshgannIe) : MeshState :=
  if s.acceptsGann gann = false then
    s
  else
    let s := s.modifyGate gann.gannAddr fun gr => { gr with grLastseq := gann.gannSeq }
    -- check if we have a path to this gate
    let s := match s.rtFind gann.gannAddr with
      | some p =>
        if (s.deref p).rtFlags.valid then
          (s.modifyGate gann.gannAddr fun gr => { gr with grRoute := some p }).modifyRt p fun rt =>
            { rt with rtFlags := { rt.rtFlags with gate := true } }
        else
          s
      | none => s
    if s.propagates gann then
      s.tx (.gann { gann with gannHopcount := gann.gannHopcount + 1, gannTtl := gann.gannTtl - 1 })
    else
      s

/-- `mesh_gatemode_cb` -/
def gatemodeCb (interval : BitVec 16) : MeshState :=
  { s with msGateseq := s.msGateseq + 1 }.tx (.gann
    { gannFlags := 0
      gannHopcount := 0
      gannTtl := s.msTtl
      gannAddr := s.ivMyaddr
      gannSeq := s.msGateseq
      gannInterval := interval })

/-! ## Forwarding to gates -/

/-- The loop over the known gates; nothing when it dereferences a route that is gone, or an assertion fails. -/
def forwardToGatesLoop (rtDest : Nat) : List GateRoute → MeshState → Option MeshState
  | [], s => some s
  | gr :: grs, s =>
    match gr.grRoute with
    | none => forwardToGatesLoop rtDest grs s
    | some p =>
      match look MeshRoute.ptr p s.msRoutes with
      | none => none
      | some rtGate =>
        if rtGate.rtFlags.valid = false then
          forwardToGatesLoop rtDest grs s
        else if rtGate.rtFlags.gate = false then
          none
        else if rtGate.rtFlags.proxy then
          none
        else
          -- convert route to a proxy route gated by the current mesh gate
          let s := s.modifyRt rtDest fun rt =>
            { rt with
              rtFlags := .proxyValid
              rtExtSeq := 1
              rtMeshGate := rtGate.rtDest
              rtNexthop := rtGate.rtNexthop
              rtMetric := rtGate.rtMetric
              rtNhops := rtGate.rtNhops }
          forwardToGatesLoop rtDest grs (s.rtUpdate env rtDest env.mppInact)

/-- `ieee80211_mesh_forward_to_gates` -/
def forwardToGates (rtDest : Nat) : Option MeshState :=
  if (s.deref rtDest).rtFlags ≠ .onlyDiscover then
    none
  else
    (forwardToGatesLoop env rtDest s.msKnownGates s).map fun s =>
      s.modifyRt rtDest fun rt => { rt with rtFlags := .none }

end MeshState

/-! ## A node with one route -/

def MeshState.oneRoute (addr : MacAddr) (rt : MeshRoute) : MeshState :=
  { ivMyaddr := addr
    msTtl := 31
    msFlags := { gate := false, fwd := true, root := false }
    msGateseq := 0
    msRoutes := [rt]
    msKnownGates := []
    hsSeq := 0
    hsPreqid := 0
    hsMaxhops := 31
    nextPtr := 1
    sent := [] }

def MeshRoute.toFive (nexthop : MacAddr) (hrSeq : BitVec 32) : MeshRoute :=
  { MeshRoute.zero with rtDest := 5, rtNexthop := nexthop, rtFlags := .onlyValid, hrSeq := hrSeq }

end Net80211.Mesh
