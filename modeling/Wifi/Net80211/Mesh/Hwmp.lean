import Wifi.Net80211.Mesh.Route

/-!
# HWMP (`freebsd/sys/net80211/ieee80211_hwmp.c`)

* `seqLt`, `seqGt`, `seqMax` — the comparisons of sequence numbers.
* `hwmpRecvPreq`, `hwmpRecvPrep`, `hwmpRecvPerr`, `hwmpRecvRann` — what is done with the elements.
* `hwmpDiscover`, `hwmpRediscoverCb` — path discovery.
* `hwmpPeerdown`, `hwmpSenderror`, `meshRtDel` — path errors.

A handler is given the address of the node a frame came from, and the transmitter address of the frame.
-/

namespace Net80211.Mesh

/-! ## Sequence numbers -/

/-- `HWMP_SEQ_LT` -/
def seqLt (a b : BitVec 32) : Bool := decide ((a - b).toInt < 0)

/-- `HWMP_SEQ_LEQ` -/
def seqLeq (a b : BitVec 32) : Bool := decide ((a - b).toInt ≤ 0)

/-- `HWMP_SEQ_EQ` -/
def seqEq (a b : BitVec 32) : Bool := decide ((a - b).toInt = 0)

/-- `HWMP_SEQ_GT` -/
def seqGt (a b : BitVec 32) : Bool := decide ((a - b).toInt > 0)

/-- `HWMP_SEQ_MAX` -/
def seqMax (a b : BitVec 32) : BitVec 32 := if a > b then a else b

/-! ## Flags -/

def IEEE80211_MESHPREQ_FLAGS_GATE : BitVec 8 := 0x01
def IEEE80211_MESHPREQ_FLAGS_AM : BitVec 8 := 0x02
def IEEE80211_MESHPREQ_FLAGS_PP : BitVec 8 := 0x04
def IEEE80211_MESHPREQ_FLAGS_AE : BitVec 8 := 0x40
def IEEE80211_MESHPREQ_TFLAGS_TO : BitVec 8 := 0x01
def IEEE80211_MESHPREQ_TFLAGS_USN : BitVec 8 := 0x04
def IEEE80211_MESHPREP_FLAGS_AE : BitVec 8 := 0x40
def IEEE80211_MESHPERR_DFLAGS_USN : BitVec 8 := 0x01
def IEEE80211_MESHPERR_DFLAGS_RC : BitVec 8 := 0x02
def IEEE80211_MESHPERR_FLAGS_AE : BitVec 8 := 0x40
def IEEE80211_MESHRANN_FLAGS_GATE : BitVec 8 := 0x01

def IEEE80211_REASON_MESH_PERR_NO_PROXY : Nat := 61
def IEEE80211_REASON_MESH_PERR_NO_FI : Nat := 62
def IEEE80211_REASON_MESH_PERR_DEST_UNREACH : Nat := 63

def IEEE80211_MESHLMETRIC_INITIALVAL : BitVec 32 := 0

def hasFlag (flags flag : BitVec 8) : Bool := decide (flags &&& flag ≠ 0)

namespace MeshState

variable (env : Env) (s : MeshState)

/-! ## Sending -/

def hwmpSendPreq (da : MacAddr) (preq : MeshpreqIe) (limited : Bool) : MeshState :=
  if limited && !env.ratecheck then s else s.tx (.preq da preq)

def hwmpSendPerr (perr : MeshperrIe) : MeshState := if env.ratecheck then s.tx (.perr perr) else s

def discoverPreq (rt : MeshRoute) : MeshpreqIe :=
  { preqFlags := 0
    preqHopcount := 0
    preqTtl := s.msTtl
    preqId := s.hsPreqid
    preqOrigaddr := s.ivMyaddr
    preqOrigseq := rt.hrOrigseq
    preqOrigExtAddr := 0
    preqLifetime := env.ticksToMsecs env.pathtimeout
    preqMetric := IEEE80211_MESHLMETRIC_INITIALVAL
    target0 :=
      { targetFlags := (if env.targetonly then IEEE80211_MESHPREQ_TFLAGS_TO else 0) ||| IEEE80211_MESHPREQ_TFLAGS_USN
        targetAddr := rt.rtDest
        targetSeq := 0 }
    moreTargets := [] }

/-! ## Path discovery -/

/-- `hwmp_rediscover_cb`; nothing when an assertion fails. -/
def hwmpRediscoverCb (p : Nat) : Option MeshState :=
  -- the callout is not pending any more
  let s := s.modifyRt p fun rt => { rt with rtDiscovery := false }
  let rt := s.deref p
  if rt.rtFlags.valid then
    some s
  else if rt.hrPreqretries ≥ env.maxpreqRetries then
    s.forwardToGates env p
  else
    let s := { s with hsPreqid := s.hsPreqid + 1 }
    let s := s.hwmpSendPreq env broadcastaddr (s.discoverPreq env rt) true
    some (s.modifyRt p fun rt => { rt with hrPreqretries := rt.hrPreqretries + 1, rtDiscovery := true })

/-- The part of `hwmp_discover` that sends a PREQ. -/
def startDiscovery (p : Nat) : MeshState :=
  let s := s.modifyRt p fun rt => { rt with hrLastdiscovery := env.ticks }
  let rt := s.deref p
  if rt.hrPreqretries ≥ env.maxpreqRetries then
    s
  else
    let hsSeq := if rt.hrOrigseq = 0 then s.hsSeq + 1 else s.hsSeq
    let s := { s with hsSeq := hsSeq, hsPreqid := s.hsPreqid + 1 }
    let s := s.modifyRt p fun rt =>
      { rt with
        rtFlags := .onlyDiscover
        hrPreqretries := rt.hrPreqretries + 1
        hrOrigseq := if rt.hrOrigseq = 0 then hsSeq else rt.hrOrigseq
        rtMetric := IEEE80211_MESHLMETRIC_INITIALVAL }
    let s := s.hwmpSendPreq env broadcastaddr (s.discoverPreq env (s.deref p)) true
    s.modifyRt p fun rt => { rt with rtDiscovery := true }

def hwmpDiscover (dest : MacAddr) : MeshState :=
  if isMulticast dest then
    s
  else
    match s.rtFindOrAdd env dest with
    | none => s
    | some (s, p) =>
      let rt := s.deref p
      -- already discovering, or a path is known
      if rt.rtFlags.discover || rt.rtFlags.valid then
        s
      -- too frequent discovery requests
      else if rt.hrLastdiscovery ≠ 0 ∧
          (env.ticks - rt.hrLastdiscovery).toInt < (env.netDiameterTraversaltime * 2).toInt then
        s
      else
        s.startDiscovery env p

/-! ## PREQ -/

def hwmpUpdateTransmitter (ni : MacAddr) : MeshState :=
  match s.rtFindOrAdd env ni with
  | none => s
  | some (s, p) =>
    let rttran := s.deref p
    if !rttran.rtFlags.valid || decide (rttran.rtMetric > env.mpmMetric) then
      (s.modifyRt p fun rt => { rt with rtNexthop := ni, rtMetric := env.mpmMetric, rtNhops := 1 }.update env env.mppInact
        ).modifyRt p fun rt => { rt with rtFlags := .onlyValid }
    else
      s

def preqUpdates (preq : MeshpreqIe) (rtorig : MeshRoute) : Bool :=
  seqGt preq.preqOrigseq rtorig.hrSeq ||
    seqEq preq.preqOrigseq rtorig.hrSeq && decide (preq.preqMetric + env.mpmMetric < rtorig.rtMetric)

/-- A PREQ that is discarded: `preqid` is the last one seen from the originator. -/
def preqDiscards (preq : MeshpreqIe) (hrtarg : Option MeshRoute) (rtorig : MeshRoute) (preqid : BitVec 32) : Bool :=
  (match hrtarg with
    | some hrtarg => !seqEq hrtarg.hrSeq preq.target0.targetSeq
    | none => false) ||
  (rtorig.rtFlags.valid && decide (preqid ≥ preq.preqId))

/-- The PREQ is addressed to us, or to a proxy gated by us. -/
def preqForUs (preq : MeshpreqIe) (rttarg : Option Nat) : Bool :=
  decide (s.ivMyaddr = preq.target0.targetAddr) ||
    s.msFlags.gate &&
      match rttarg with
      | some p =>
        decide (s.ivMyaddr = (s.deref p).rtMeshGate) && (s.deref p).rtFlags.proxy && (s.deref p).rtFlags.valid
      | none => false

/-- `hwmp_recv_preq`: the reply of the target. -/
def preqReply (addr2 : MacAddr) (preq : MeshpreqIe) (rttarg : Option Nat) : MeshState :=
  let s := { s with hsSeq := seqMax s.hsSeq preq.target0.targetSeq + 1 }
  let prep : MeshprepIe :=
    { prepFlags := 0
      prepHopcount := 0
      prepTtl := s.msTtl
      prepTargetaddr := s.ivMyaddr
      prepTargetseq := s.hsSeq
      prepTargetExtAddr := 0
      prepLifetime := preq.preqLifetime
      prepMetric := IEEE80211_MESHLMETRIC_INITIALVAL
      prepOrigaddr := preq.preqOrigaddr
      prepOrigseq := preq.preqOrigseq }
  match rttarg with
  | none => s.tx (.prep addr2 prep)
  | some p =>
    let rt := s.deref p
    if rt.rtFlags.proxy then
      (s.modifyRt p fun rt => { rt with rtExtSeq := s.hsSeq }).tx (.prep addr2
        { prep with
          prepFlags := IEEE80211_MESHPREP_FLAGS_AE
          prepTargetExtAddr := rt.rtDest
          prepHopcount := rt.rtNhops.setWidth 8
          prepMetric := rt.rtMetric
          prepTargetaddr := rt.rtMeshGate })
    else
      s.tx (.prep addr2 prep)

/-- `hwmp_recv_preq`: the proxy information of the originator; nothing when there is no memory. -/
def preqExt (preq : MeshpreqIe) : Option MeshState :=
  if hasFlag preq.preqFlags IEEE80211_MESHPREQ_FLAGS_AE then
    match s.rtFind preq.preqOrigExtAddr with
    | some p => some (s.modifyRt p fun rt => { rt with rtExtSeq := preq.preqOrigseq }.update env preq.preqLifetime)
    | none =>
      if env.canAlloc preq.preqOrigExtAddr then
        some ((s.rtAdd env preq.preqOrigExtAddr).modifyRt s.nextPtr fun rt =>
          { rt with rtMeshGate := preq.preqOrigaddr, rtExtSeq := preq.preqOrigseq }.update env preq.preqLifetime)
      else
        none
  else
    some s

/-- A root that says that it is a mesh gate is marked. -/
def markRoot (isGate : Bool) (addr : MacAddr) (p : Nat) : MeshState :=
  if isGate then
    (s.modifyRt p fun rt => { rt with rtFlags := { rt.rtFlags with gate := true } }).markGate addr p
  else
    s

/-- `hwmp_recv_preq`: the reply to a root. -/
def preqRootReply (preq : MeshpreqIe) (rtorig : Nat) : MeshState :=
  if !(s.deref rtorig).rtFlags.valid || hasFlag preq.preqFlags IEEE80211_MESHPREQ_FLAGS_PP then
    let s := { s with hsSeq := s.hsSeq + 1 }
    s.tx (.prep (s.deref rtorig).rtNexthop
      { prepFlags := 0
        prepHopcount := 0
        prepTtl := s.msTtl
        prepTargetaddr := s.ivMyaddr
        prepTargetseq := s.hsSeq
        prepTargetExtAddr := 0
        prepLifetime := preq.preqLifetime
        prepMetric := IEEE80211_MESHLMETRIC_INITIALVAL
        prepOrigaddr := preq.preqOrigaddr
        prepOrigseq := preq.preqOrigseq })
  else
    s

/-- `hwmp_recv_preq`: a proactive PREQ. -/
def preqRoot (preq : MeshpreqIe) (rtorig : Nat) : MeshState :=
  if preq.target0.targetAddr = broadcastaddr ∧ hasFlag preq.target0.targetFlags IEEE80211_MESHPREQ_TFLAGS_TO = true then
    (s.markRoot (hasFlag preq.preqFlags IEEE80211_MESHPREQ_FLAGS_GATE) preq.preqOrigaddr rtorig).preqRootReply preq rtorig
  else
    s

def preqIntermediate (preq : MeshpreqIe) (rttarg : Option Nat) : Bool :=
  match rttarg with
  | some p =>
    (s.deref p).rtFlags.valid && !(s.deref p).rtFlags.proxy &&
      !hasFlag preq.target0.targetFlags IEEE80211_MESHPREQ_TFLAGS_TO && decide (preq.target0.targetAddr ≠ broadcastaddr)
  | none => false

/-- `hwmp_recv_preq`: forwarding, and the intermediate reply. -/
def preqForward (preq : MeshpreqIe) (rtorig : Nat) (rttarg : Option Nat) : MeshState :=
  if preq.preqTcount = 1 ∧ preq.preqTtl > 1 ∧ s.msFlags.fwd = true then
    let replies := s.preqIntermediate preq rttarg
    let s := if replies then
        s.tx (.prep (s.deref rtorig).rtNexthop
          { prepFlags := 0
            prepHopcount := (s.deref (rttarg.getD 0)).rtNhops.setWidth 8
            prepTtl := s.msTtl
            prepTargetaddr := preq.target0.targetAddr
            prepTargetseq := (s.deref (rttarg.getD 0)).hrSeq
            prepTargetExtAddr := 0
            prepLifetime := preq.preqLifetime
            prepMetric := (s.deref (rttarg.getD 0)).rtMetric
            prepOrigaddr := preq.preqOrigaddr
            prepOrigseq := (s.deref rtorig).hrSeq })
      else s
    let target0 := if replies then
        { preq.target0 with targetFlags := preq.target0.targetFlags ||| IEEE80211_MESHPREQ_TFLAGS_TO }
      else preq.target0
    s.hwmpSendPreq env broadcastaddr
      { preq with
        preqHopcount := preq.preqHopcount + 1
        preqTtl := preq.preqTtl - 1
        preqMetric := preq.preqMetric + env.mpmMetric
        target0 := target0 } false
  else
    s

/-- `hwmp_recv_preq`, from the update of the transmitter on. -/
def preqAccepted (ni addr2 : MacAddr) (preq : MeshpreqIe) (rtorig : Nat) (rttarg : Option Nat) : MeshState :=
  let s := s.hwmpUpdateTransmitter env ni
  if s.preqForUs preq rttarg then
    s.preqReply addr2 preq rttarg
  else
    match s.preqExt env preq with
    | none => s
    | some s => (s.preqRoot preq rtorig).preqForward env preq rtorig rttarg

/-- The originator's path after a PREQ that replaces it. -/
def preqUpdateOrig (addr2 : MacAddr) (preq : MeshpreqIe) (rtorig : Nat) : MeshState :=
  (s.modifyRt rtorig fun rt =>
    { rt with
      hrSeq := preq.preqOrigseq
      rtNexthop := addr2
      rtMetric := preq.preqMetric + env.mpmMetric
      rtNhops := preq.preqHopcount.setWidth 16 + 1 }.update env preq.preqLifetime).modifyRt rtorig fun rt =>
    { rt with rtFlags := .onlyValid }

/-- The acceptance criteria of `hwmp_recv_preq`. -/
def preqAccepts (preq : MeshpreqIe) (rttarg : Option Nat) : Bool :=
  let proxiedByUs := match rttarg with
    | some p => (s.deref p).rtFlags.proxy && decide (s.ivMyaddr = (s.deref p).rtMeshGate)
    | none => false
  !(!s.msFlags.fwd &&
    (decide (s.ivMyaddr ≠ preq.target0.targetAddr) || !isMulticast preq.target0.targetAddr || proxiedByUs)) &&
  !(hasFlag preq.preqFlags IEEE80211_MESHPREQ_FLAGS_AM && rttarg.isNone &&
    decide (s.ivMyaddr ≠ preq.target0.targetAddr))

def hwmpRecvPreq (ni addr2 : MacAddr) (preq : MeshpreqIe) : MeshState :=
  if s.ivMyaddr = preq.preqOrigaddr then
    s
  else
    let rttarg := s.rtFind preq.target0.targetAddr
    if s.preqAccepts preq rttarg = false then
      s
    else
      match s.rtFindOrAdd env preq.preqOrigaddr with
      | none => s
      | some (s, rtorig) =>
        -- record last seen preqid
        let preqid := (s.deref rtorig).hrPreqid
        let s := s.modifyRt rtorig fun rt => { rt with hrPreqid := seqMax rt.hrPreqid preq.preqId }
        if preqUpdates env preq (s.deref rtorig) then
          (s.preqUpdateOrig env addr2 preq rtorig).preqAccepted env ni addr2 preq rtorig rttarg
        else if preqDiscards preq (rttarg.map s.deref) (s.deref rtorig) preqid then
          s
        else
          s.preqAccepted env ni addr2 preq rtorig rttarg

/-! ## PREP -/

/-- The acceptance criteria of `hwmp_recv_prep`. -/
def prepAccepts (prep : MeshprepIe) : Bool :=
  let proxiedByOther := match s.rtFind prep.prepOrigaddr with
    | some p => (s.deref p).rtFlags.proxy && decide (s.ivMyaddr ≠ (s.deref p).rtMeshGate)
    | none => false
  !((decide (s.ivMyaddr ≠ prep.prepOrigaddr) || proxiedByOther) && !s.msFlags.fwd)

def prepDiscards (prep : MeshprepIe) (rt : MeshRoute) : Bool :=
  rt.rtFlags.valid &&
    (seqLt prep.prepTargetseq rt.hrSeq ||
      seqLeq prep.prepTargetseq rt.hrSeq && decide (prep.prepMetric + env.mpmMetric > rt.rtMetric))

/-- The target's path after a PREP that replaces it. -/
def prepUpdateTarg (ni : MacAddr) (prep : MeshprepIe) (p : Nat) : MeshState :=
  (s.modifyRt p fun rt =>
    { rt with
      hrSeq := prep.prepTargetseq
      hrPreqretries := 0
      rtNexthop := ni
      rtMetric := prep.prepMetric + env.mpmMetric
      rtNhops := prep.prepHopcount.setWidth 16 + 1 }.update env prep.prepLifetime).modifyRt p fun rt =>
    -- discovery complete
    { rt with rtFlags := { rt.rtFlags with discover := false, valid := true } }

/-- `hwmp_recv_prep`: a PREP that is not for us is propagated; nothing when the originator is unknown. -/
def prepPropagate (prep : MeshprepIe) (rtorig : Option Nat) : Option MeshState :=
  if s.ivMyaddr ≠ prep.prepOrigaddr ∧ prep.prepTtl > 1 ∧ prep.prepHopcount < s.hsMaxhops then
    match rtorig with
    | none => none
    | some p =>
      some (s.tx (.prep (s.deref p).rtNexthop
        { prep with
          prepHopcount := prep.prepHopcount + 1
          prepTtl := prep.prepTtl - 1
          prepMetric := prep.prepMetric + env.mpmMetric }))
  else
    some s

/-- `hwmp_recv_prep`: the target's external address. -/
def prepExt (addr2 : MacAddr) (prep : MeshprepIe) : MeshState :=
  if hasFlag prep.prepFlags IEEE80211_MESHPREP_FLAGS_AE then
    match s.rtFindOrAdd env prep.prepTargetExtAddr with
    | none => s
    | some (s, p) =>
      s.modifyRt p fun rt =>
        { rt with
          rtFlags := .proxyValid
          rtMeshGate := prep.prepTargetaddr
          rtNexthop := addr2
          rtMetric := prep.prepMetric + env.mpmMetric
          rtLifetime := prep.prepLifetime
          rtNhops := prep.prepHopcount.setWidth 16 + 1
          rtExtSeq := prep.prepOrigseq }
  else
    s

def hwmpRecvPrep (ni addr2 : MacAddr) (prep : MeshprepIe) : MeshState :=
  let rtorig := s.rtFind prep.prepOrigaddr
  if s.prepAccepts prep = false then
    s
  else
    match s.rtFindOrAdd env prep.prepTargetaddr with
    | none => s
    | some (s, p) =>
      if prepDiscards env prep (s.deref p) then
        s
      else
        let s := (s.prepUpdateTarg env ni prep p).hwmpUpdateTransmitter env ni
        match s.prepPropagate env prep rtorig with
        | none => s
        | some s => s.prepExt env addr2 prep

/-! ## PERR -/

def hwmpPeerdown (ni : MacAddr) : MeshState :=
  match s.rtFind ni with
  | none => s
  | some p =>
    let rt := s.deref p
    let usn := if rt.hrSeq = 0 then IEEE80211_MESHPERR_DFLAGS_USN else 0
    let perr : MeshperrIe :=
      { perrTtl := s.msTtl
        perrDests := [
          { destFlags := usn ||| IEEE80211_MESHPERR_DFLAGS_RC
            destAddr := rt.rtDest
            destSeq := rt.hrSeq + 1
            destExtAddr := 0
            destRcode := BitVec.ofNat 16 IEEE80211_REASON_MESH_PERR_DEST_UNREACH }] }
    -- NB: flush everything passing through peer
    ((s.modifyRt p fun rt => { rt with hrSeq := rt.hrSeq + 1 }).rtFlushPeer ni).hwmpSendPerr env perr

/-- `hwmp_senderror`: the PERR; nothing for an unknown reason code, or where an assertion fails. -/
def senderrorPerr (addr : MacAddr) (rt : Option MeshRoute) (rcode : Nat) : Option MeshperrIe :=
  let perr (dest : MeshperrDest) : MeshperrIe := { perrTtl := s.msTtl, perrDests := [dest] }
  let dest : MeshperrDest :=
    { destFlags := 0, destAddr := addr, destSeq := 0, destExtAddr := 0, destRcode := BitVec.ofNat 16 rcode }
  if rcode = IEEE80211_REASON_MESH_PERR_NO_FI then
    some (perr dest)
  else if rcode = IEEE80211_REASON_MESH_PERR_NO_PROXY then
    match rt with
    | some rt =>
      if rt.rtFlags.proxy then
        some (perr
          { dest with
            destFlags := IEEE80211_MESHPERR_FLAGS_AE
            destAddr := s.ivMyaddr
            destSeq := rt.rtExtSeq
            destExtAddr := addr })
      else none
    | none => none
  else if rcode = IEEE80211_REASON_MESH_PERR_DEST_UNREACH then
    rt.map fun rt => perr { dest with destSeq := rt.hrSeq }
  else
    none

def hwmpSenderror (addr : MacAddr) (rt : Option MeshRoute) (rcode : Nat) : MeshState :=
  match s.senderrorPerr addr rt rcode with
  | some perr => s.hwmpSendPerr env perr
  | none => s

/-- `ieee80211_mesh_rt_del` -/
def meshRtDel (dest : MacAddr) : MeshState :=
  match s.rtFind dest with
  | none => s
  | some p =>
    let rcode := if (s.deref p).rtFlags.proxy then IEEE80211_REASON_MESH_PERR_NO_PROXY
      else IEEE80211_REASON_MESH_PERR_DEST_UNREACH
    (s.hwmpSenderror env dest (some (s.deref p)) rcode).rtDelIf fun rt => decide (rt.ptr = p)

inductive PerrResult where
  /-- it was not accepted -/
  | ignored (s : MeshState)
  /-- it was accepted, and is propagated as given -/
  | accepted (s : MeshState) (dest : MeshperrDest)
  /-- the reason code is unknown -/
  | unknown

/-- The body of the loop of `hwmp_recv_perr`, before the flush; the reason code is looked for in the flags of the
    destination. -/
def recvPerrDest (addr2 : MacAddr) (dest : MeshperrDest) : PerrResult :=
  match s.rtFind dest.destAddr with
  | none => .ignored s
  | some p =>
    let rt := s.deref p
    if rt.rtNexthop ≠ addr2 then
      .ignored s
    else if dest.destFlags.toNat = IEEE80211_REASON_MESH_PERR_NO_FI then
      let hrSeq := if dest.destSeq = 0 then rt.hrSeq + 1 else dest.destSeq
      .accepted
        ((s.modifyRt p fun rt => { rt with hrSeq := hrSeq, rtFlags := { rt.rtFlags with valid := false } }
          ).rtFlushPeer dest.destAddr)
        { dest with destSeq := if dest.destSeq = 0 then hrSeq else dest.destSeq }
    else if dest.destFlags.toNat = IEEE80211_REASON_MESH_PERR_DEST_UNREACH then
      if seqGt dest.destSeq rt.hrSeq then
        .accepted
          ((s.modifyRt p fun rt => { rt with hrSeq := dest.destSeq, rtFlags := { rt.rtFlags with valid := false } }
            ).rtFlushPeer dest.destAddr)
          dest
      else
        .ignored (s.rtFlushPeer dest.destAddr)
    else if dest.destFlags.toNat = IEEE80211_REASON_MESH_PERR_NO_PROXY then
      match s.rtFind dest.destExtAddr with
      | some ext =>
        .accepted
          ((s.modifyRt ext fun rt => { rt with rtFlags := { rt.rtFlags with valid := false } }).rtFlushPeer dest.destAddr)
          dest
      | none => .ignored (s.rtFlushPeer dest.destAddr)
    else
      .unknown

/-- The loop of `hwmp_recv_perr`: the state, and the accepted destinations; nothing in their place for
    `goto done`. -/
def recvPerrLoop (addr2 : MacAddr) : List MeshperrDest → MeshState → MeshState × Option (List MeshperrDest)
  | [], s => (s, some [])
  | dest :: dests, s =>
    match s.recvPerrDest addr2 dest with
    | .unknown => (s, none)
    | .ignored s => recvPerrLoop addr2 dests s
    | .accepted s dest =>
      let r := recvPerrLoop addr2 dests s
      (r.1, r.2.map (dest :: ·))

/-- `hwmp_recv_perr`: `mem` is the TTL that the memory of the PERR to be propagated holds, which nothing sets. -/
def hwmpRecvPerr (mem : BitVec 8) (addr2 : MacAddr) (perr : MeshperrIe) : MeshState :=
  match recvPerrLoop addr2 perr.perrDests s with
  | (s, none) => s
  | (s, some []) => s
  | (s, some (dest :: dests)) =>
    if s.msFlags.fwd = true ∧ perr.perrTtl > 1 then
      s.hwmpSendPerr env { perrTtl := mem - 1, perrDests := dest :: dests }
    else
      s

/-! ## RANN -/

/-- A RANN that is not newer than what is known. -/
def rannDiscards (rann : MeshrannIe) (rt : MeshRoute) : Bool :=
  rt.rtFlags.valid &&
    (seqLt rann.rannSeq rt.hrSeq || seqEq rann.rannSeq rt.hrSeq && decide (rann.rannMetric > rt.rtMetric))

/-- `hwmp_recv_rann`: the root is marked, and asked for a path. -/
def rannRequest (addr2 : MacAddr) (rann : MeshrannIe) (p : Nat) : MeshState :=
  let s := s.markRoot (hasFlag rann.rannFlags IEEE80211_MESHRANN_FLAGS_GATE) rann.rannAddr p
  -- discovery timeout
  let s := s.rtUpdate env p (env.ticksToMsecs env.roottimeout)
  let s := { s with hsSeq := s.hsSeq + 1 }
  s.hwmpSendPreq env addr2
    { preqFlags := IEEE80211_MESHPREQ_FLAGS_AM
      preqHopcount := 0
      preqTtl := s.msTtl
      preqId := 0
      preqOrigaddr := s.ivMyaddr
      preqOrigseq := s.hsSeq
      preqOrigExtAddr := 0
      preqLifetime := env.roottimeout
      preqMetric := IEEE80211_MESHLMETRIC_INITIALVAL
      target0 :=
        { targetFlags := IEEE80211_MESHPREQ_TFLAGS_TO
          targetAddr := rann.rannAddr
          targetSeq := rann.rannSeq }
      moreTargets := [] } true

/-- `hwmp_recv_rann`: the RANN is propagated. -/
def rannPropagate (rann : MeshrannIe) (p : Nat) : MeshState :=
  if (s.deref p).rtFlags.valid = true ∧ rann.rannTtl > 1 ∧ s.msFlags.fwd = true then
    (s.modifyRt p fun rt => { rt with hrSeq := rann.rannSeq }).tx (.rann
      { rann with
        rannHopcount := rann.rannHopcount + 1
        rannTtl := rann.rannTtl - 1
        rannMetric := rann.rannMetric + env.mpmMetric })
  else
    s

/-- The acceptance criteria of `hwmp_recv_rann`. -/
def rannAccepts (rann : MeshrannIe) : Bool :=
  match s.rtFind rann.rannAddr with
  | some p => !rannDiscards rann (s.deref p)
  | none => true

def hwmpRecvRann (addr2 : MacAddr) (rann : MeshrannIe) : MeshState :=
  if rann.rannAddr = s.ivMyaddr then
    s
  else
    if s.rannAccepts rann = false then
      s
    else
      match s.rtFindOrAdd env rann.rannAddr with
      | none => s
      | some (s, p) => (s.rannRequest env addr2 rann p).rannPropagate env rann p

end MeshState

/-! ## A node without routes, and a gate -/

def lonelyNode : MeshState := { MeshState.oneRoute 1 .zero with msRoutes := [] }

def rannOfFive : MeshrannIe :=
  { rannFlags := IEEE80211_MESHRANN_FLAGS_GATE, rannHopcount := 0, rannTtl := 31, rannAddr := 5, rannSeq := 1
    rannInterval := 1000, rannMetric := 0 }

end Net80211.Mesh
