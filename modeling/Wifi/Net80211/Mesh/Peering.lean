import Mathlib.Tactic.SplitIfs
import Wifi.Linux.Ieee80211

/-!
# Mesh peering (`freebsd/sys/net80211/ieee80211_mesh.c`)

* `Node`, `Link`, `Msg` — a neighbour, the link to it, and a peering frame.
* `meshLinkchange`, `meshGenerateid`, `meshPeerTimeoutSetup`, `meshPeerTimeoutBackoff`, `meshPeerTimeoutCb` — the
  functions of these names.
* `addMeshpeer`, `parseElems`, `verdict` — the peering element, the loop over the elements of a frame, and what
  becomes of the frame.
* `recvMeshpeeringOpen`, `recvMeshpeeringConfirm`, `recvMeshpeeringClose`, `recvBeacon` — the handlers.

Each function is one step; a frame for which there is no memory counts as lost.  Path selection, statistics and the
lifetime of routes are left out.
-/

namespace Net80211.Mesh.Peering

/-! ## Data -/

/-- `enum ieee80211_mesh_mlstate` -/
inductive Mlstate where
  | idle | opensnt | openrcv | confirmrcv | established | holding
  deriving DecidableEq, Repr

/-- `IEEE80211_ACTION_MESHPEERING_OPEN`, `_CONFIRM` and `_CLOSE` -/
inductive Subtype where
  | open | confirm | close
  deriving DecidableEq, Repr

abbrev LinkId := BitVec 16

/-- `struct ieee80211_node`: what concerns the peer link. -/
structure Node where
  niMlstate : Mlstate
  niMllid : LinkId
  niMlpid : LinkId
  /-- `ni_mltimer` is pending -/
  niMltimer : Bool
  niMlrcnt : BitVec 8
  niMltval : BitVec 8
  /-- `ni_mlhtimer` is pending -/
  niMlhtimer : Bool
  niMlhcnt : BitVec 8
  deriving DecidableEq, Repr

def Node.init : Node :=
  { niMlstate := .idle, niMllid := 0, niMlpid := 0, niMltimer := false, niMlrcnt := 0, niMltval := 0
    niMlhtimer := false, niMlhcnt := 0 }

/-- A peering frame: the arguments of `ieee80211_add_meshpeer`. -/
structure Msg where
  subtype : Subtype
  localid : LinkId
  peerid : LinkId
  reason : BitVec 16
  deriving DecidableEq, Repr

/-- Not in the source: what happened at the link. -/
inductive Ev where
  | sent (msg : Msg)
  /-- a link id was drawn -/
  | drew (id : LinkId)
  deriving DecidableEq, Repr

/-- A node, with `ms_neighbors` of its vap; not in the source: whether the assertions of `mesh_linkchange` have
    held, and what happened, with the latest first. -/
structure Link where
  ni : Node
  msNeighbors : BitVec 16
  kassert : Bool
  log : List Ev
  deriving DecidableEq, Repr

/-- The variables that can be set, and what is read of `struct ieee80211_mesh_state`. -/
structure Params where
  msId : List Byte
  mppIe : Byte
  mpmIe : Byte
  retrytimeout : BitVec 32
  holdingtimeout : BitVec 32
  confirmtimeout : BitVec 32
  maxretries : BitVec 32
  maxholding : BitVec 32
  deriving DecidableEq, Repr

def IEEE80211_MESH_MAX_NEIGHBORS : BitVec 16 := 15
def IEEE80211_REASON_PEER_LINK_CANCELED : BitVec 16 := 52
def IEEE80211_REASON_MESH_MAX_PEERS : BitVec 16 := 53
def IEEE80211_REASON_MESH_CPVIOLATION : BitVec 16 := 54
def IEEE80211_REASON_MESH_CLOSE_RCVD : BitVec 16 := 55
def IEEE80211_REASON_MESH_MAX_RETRIES : BitVec 16 := 56
def IEEE80211_REASON_MESH_CONFIRM_TIMEOUT : BitVec 16 := 57
def IEEE80211_REASON_MESH_INCONS_PARAMS : BitVec 16 := 59

/-! ## The state machine -/

def meshLinkchange (l : Link) (state : Mlstate) : Link :=
  -- track neighbor count
  let l :=
    if state = .established ∧ l.ni.niMlstate ≠ .established then
      { l with kassert := l.kassert && decide (l.msNeighbors < 65535), msNeighbors := l.msNeighbors + 1 }
    else if l.ni.niMlstate = .established ∧ state ≠ .established then
      { l with kassert := l.kassert && decide (l.msNeighbors > 0), msNeighbors := l.msNeighbors - 1 }
    else
      l
  { l with ni := { l.ni with niMlstate := state } }

@[simp]
theorem meshLinkchange_ni (l : Link) (state : Mlstate) :
    (meshLinkchange l state).ni = { l.ni with niMlstate := state } := by
  unfold meshLinkchange
  dsimp only
  split_ifs <;> rfl

@[simp]
theorem meshLinkchange_log (l : Link) (state : Mlstate) : (meshLinkchange l state).log = l.log := by
  unfold meshLinkchange
  dsimp only
  split_ifs <;> rfl

/-- What a new link id depends on: `ni_mllid` of the other nodes, and the random numbers. -/
structure IdSource where
  others : List LinkId
  random : List LinkId

/-- The loop of `mesh_generateid`, with `ni_mllid` of all nodes. -/
def meshGenerateidLoop (mllids : List LinkId) : Nat → List LinkId → LinkId
  | 0, _ => 0
  | _, [] => 0
  | maxiter + 1, r :: rs => if r ∈ mllids ∨ r = 0 then meshGenerateidLoop mllids maxiter rs else r

def meshGenerateid (ids : IdSource) (niMllid : LinkId) : LinkId :=
  meshGenerateidLoop (niMllid :: ids.others) 4 ids.random

/-- `ieee80211_send_action` -/
def sendAction (l : Link) (subtype : Subtype) (localid peerid reason : BitVec 16) : Link :=
  { l with log := .sent { subtype := subtype, localid := localid, peerid := peerid, reason := reason } :: l.log }

@[simp]
theorem sendAction_ni (l : Link) (subtype : Subtype) (localid peerid reason : BitVec 16) :
    (sendAction l subtype localid peerid reason).ni = l.ni := rfl

def meshPeerTimeoutSetup (p : Params) (l : Link) : Link :=
  let mltval : BitVec 8 :=
    match l.ni.niMlstate with
    | .holding => p.holdingtimeout.setWidth 8
    | .confirmrcv => p.confirmtimeout.setWidth 8
    | .idle => 0
    | _ => p.retrytimeout.setWidth 8
  { l with ni := { l.ni with niMltval := mltval, niMltimer := if mltval ≠ 0 then true else l.ni.niMltimer } }

/-- `mesh_peer_timeout_backoff`, with the random number -/
def meshPeerTimeoutBackoff (r : BitVec 32) (l : Link) : Link :=
  -- the processor traps when the value has wrapped to 0
  let mltval := l.ni.niMltval + (r % l.ni.niMltval.setWidth 32).setWidth 8
  { l with ni := { l.ni with niMltval := mltval, niMltimer := true } }

def meshPeerTimeoutStop (l : Link) : Link := { l with ni := { l.ni with niMltimer := false } }

def meshPeerBackoffCb (l : Link) : Link := { l with ni := { l.ni with niMlhcnt := 0, niMlhtimer := false } }

/-- What the handlers do to give up a link: a CLOSE, and the holding state. -/
def closeLink (p : Params) (l : Link) (localid peerid reason : BitVec 16) : Link :=
  meshPeerTimeoutSetup p (meshLinkchange (sendAction l .close localid peerid reason) .holding)

/-- The callout of the link is due: it is pending no more. -/
def Link.due (l : Link) : Link := { l with ni := { l.ni with niMltimer := false } }

/-- `mesh_peer_timeout_cb`, with the random number; `arg` is what is on the stack in `args[1]`. -/
def meshPeerTimeoutCb (p : Params) (arg : BitVec 16) (r : BitVec 32) (l : Link) : Link :=
  match l.ni.niMlstate with
  | .idle | .established => l
  | .opensnt | .openrcv =>
    if l.ni.niMlrcnt.setWidth 32 = p.maxretries then
      let l := sendAction l .close l.ni.niMlpid arg IEEE80211_REASON_MESH_MAX_RETRIES
      let l := { l with ni := { l.ni with niMlrcnt := 0 } }
      meshPeerTimeoutSetup p (meshLinkchange l .holding)
    else
      let l := sendAction l .open l.ni.niMlpid 0 0
      meshPeerTimeoutBackoff r { l with ni := { l.ni with niMlrcnt := l.ni.niMlrcnt + 1 } }
  | .confirmrcv => closeLink p l l.ni.niMlpid arg IEEE80211_REASON_MESH_CONFIRM_TIMEOUT
  | .holding =>
    let l := { l with ni := { l.ni with niMlhcnt := l.ni.niMlhcnt + 1 } }
    let l :=
      if p.maxholding.sle (l.ni.niMlhcnt.setWidth 32) then
        { l with ni := { l.ni with niMlhtimer := true } }
      else
        l
    meshLinkchange l .idle

/-- `mesh_recv_mgmt`: the automatic peering with the sender of a beacon. -/
def recvBeacon (p : Params) (ids : IdSource) (l : Link) : Link :=
  match l.ni.niMlstate with
  | .idle =>
    -- wait for backoff callout to reset counter
    if p.maxholding.sle (l.ni.niMlhcnt.setWidth 32) then
      l
    else
      let newId := meshGenerateid ids l.ni.niMllid
      let l := { l with ni := { l.ni with niMlpid := newId } }
      if newId = 0 then
        l
      else
        let l := { l with log := .drew newId :: l.log }
        let l := meshLinkchange l .opensnt
        let l := sendAction l .open l.ni.niMlpid 0 0
        meshPeerTimeoutSetup p { l with ni := { l.ni with niMlrcnt := 0 } }
  | _ => l

/-! ## The peering element -/

/-- `struct ieee80211_meshpeer_ie`, without the id of the element. -/
structure MeshpeerIe where
  peerLen : Byte
  peerProto : BitVec 16
  peerLlinkid : BitVec 16
  peerLinkid : BitVec 16
  peerRcode : BitVec 16
  deriving DecidableEq, Repr

def IEEE80211_ELEMID_MESHCONF : Byte := 113
def IEEE80211_ELEMID_MESHID : Byte := 114
def IEEE80211_ELEMID_MESHPEER : Byte := 117
def IEEE80211_MPM_BASE_SZ : Byte := 4
def IEEE80211_MPM_MAX_SZ : Byte := 8
def IEEE80211_MPPID_MPM : BitVec 16 := 0
def IEEE80211_MESHCONF_SYNC_NEIGHOFF : Byte := 1
def IEEE80211_MESHCONF_CAP_AP : Byte := 0x01

/-- `ieee80211_add_meshpeer` -/
def addMeshpeer (msg : Msg) : List Byte :=
  match msg.subtype with
  | .open =>
    [IEEE80211_ELEMID_MESHPEER, IEEE80211_MPM_BASE_SZ] ++ (toLe16 IEEE80211_MPPID_MPM ++ toLe16 msg.localid)
  | .confirm =>
    [IEEE80211_ELEMID_MESHPEER, IEEE80211_MPM_BASE_SZ + 2] ++
      (toLe16 IEEE80211_MPPID_MPM ++ (toLe16 msg.localid ++ toLe16 msg.peerid))
  | .close =>
    [IEEE80211_ELEMID_MESHPEER, if msg.peerid ≠ 0 then IEEE80211_MPM_MAX_SZ else IEEE80211_MPM_BASE_SZ + 2] ++
      (toLe16 IEEE80211_MPPID_MPM ++ (toLe16 msg.localid ++
        ((if msg.peerid ≠ 0 then toLe16 msg.peerid else []) ++ toLe16 msg.reason)))

/-- `mesh_parse_meshpeering_action`: what is taken from a peering element. -/
def takeMeshpeer (subtype : Subtype) (mpie : List Byte) : MeshpeerIe :=
  let mp : MeshpeerIe :=
    { peerLen := mpie.getD 1 0, peerProto := le16 mpie 2, peerLlinkid := le16 mpie 4, peerLinkid := 0, peerRcode := 0 }
  match subtype with
  | .open => mp
  | .confirm => { mp with peerLinkid := le16 mpie 6 }
  | .close =>
    -- peer link ID is optional
    if mp.peerLen = IEEE80211_MPM_BASE_SZ + 2 then
      { mp with peerLinkid := 0, peerRcode := le16 mpie 6 }
    else
      { mp with peerLinkid := le16 mpie 6, peerRcode := le16 mpie 8 }

/-- The variables of the loop of `mesh_parse_meshpeering_action`; an element is given by the bytes from its start
    on. -/
structure Parsed where
  mp : MeshpeerIe
  meshid : Option (List Byte)
  meshconf : Option (List Byte)
  deriving DecidableEq, Repr

/-- The `switch` in the loop of `mesh_parse_meshpeering_action`. -/
def noteElem (subtype : Subtype) (frm : List Byte) (v : Parsed) : Parsed :=
  let id := frm.getD 0 0
  if id = IEEE80211_ELEMID_MESHID then { v with meshid := some frm }
  else if id = IEEE80211_ELEMID_MESHCONF then { v with meshconf := some frm }
  else if id = IEEE80211_ELEMID_MESHPEER then { v with mp := takeMeshpeer subtype frm }
  else v

/-- The loop of `mesh_parse_meshpeering_action`; every round takes at least two of the bytes, so there is a round
    for each. -/
def parseElems (subtype : Subtype) : Nat → List Byte → Parsed → Option Parsed
  | 0, _, v => some v
  | rounds + 1, frm, v =>
    if frm.length > 1 then
      let len := (frm.getD 1 0).toNat + 2
      -- IEEE80211_VERIFY_LENGTH
      if frm.length < len then
        none
      else
        parseElems subtype rounds (frm.drop len) (noteElem subtype frm v)
    else
      some v

/-- `mesh_verify_meshpeer` finds nothing wrong. -/
def verifyMeshpeer (subtype : Subtype) (mp : MeshpeerIe) : Bool :=
  if mp.peerLen < IEEE80211_MPM_BASE_SZ ∨ mp.peerLen > IEEE80211_MPM_MAX_SZ then false
  else if mp.peerProto ≠ IEEE80211_MPPID_MPM then false
  else
    match subtype with
    | .open => decide (mp.peerLen = IEEE80211_MPM_BASE_SZ)
    | .confirm => decide (mp.peerLen = IEEE80211_MPM_BASE_SZ + 2)
    | .close =>
      if mp.peerLen < IEEE80211_MPM_BASE_SZ + 2 then false
      else if mp.peerLen = IEEE80211_MPM_BASE_SZ + 2 ∧ mp.peerLinkid ≠ 0 then false
      else if mp.peerRcode = 0 then false
      else true

/-- `mesh_verify_meshid` finds nothing wrong. -/
def verifyMeshid (p : Params) : Option (List Byte) → Bool
  | none => false
  | some ie => decide ((ie.getD 1 0).toNat = p.msId.length ∧ (ie.drop 2).take p.msId.length = p.msId)

/-- `mesh_verify_meshconf` finds nothing wrong. -/
def verifyMeshconf (p : Params) : Option (List Byte) → Bool
  | none => false
  | some ie => decide (ie.getD 2 0 = p.mppIe ∧ ie.getD 3 0 = p.mpmIe ∧ ie.getD 4 0 = 0 ∧
      ie.getD 5 0 = IEEE80211_MESHCONF_SYNC_NEIGHOFF ∧ ie.getD 6 0 = 0 ∧ ie.getD 8 0 &&& IEEE80211_MESHCONF_CAP_AP ≠ 0)

inductive Verdict where
  | accepted (mp : MeshpeerIe)
  /-- `sendclose` -/
  | rejected
  | ignored
  deriving DecidableEq, Repr

/-- `mesh_parse_meshpeering_action`, without what it does to the link; `mp` is what is on the stack. -/
def verdict (p : Params) (mp : MeshpeerIe) (subtype : Subtype) (frm : List Byte) : Verdict :=
  match parseElems subtype frm.length frm { mp := mp, meshid := none, meshconf := none } with
  | none => .ignored
  | some v =>
    if verifyMeshpeer subtype v.mp = false then .rejected
    else if verifyMeshid p v.meshid = false then
      -- an endless loop of CLOSE frames with wrong meshid is avoided
      if subtype = .close then .ignored else .rejected
    else if subtype ≠ .close ∧ verifyMeshconf p v.meshconf = false then .rejected
    else .accepted v.mp

/-- `mesh_parse_meshpeering_action`: the link after a frame was rejected; `arg` is on the stack in `args[2]`. -/
def rejectFrame (p : Params) (arg : BitVec 16) (subtype : Subtype) (l : Link) : Link :=
  match l.ni.niMlstate with
  | .idle | .established | .holding => l
  | .opensnt | .openrcv | .confirmrcv =>
    let reason :=
      match subtype with
      | .open => IEEE80211_REASON_MESH_CPVIOLATION
      | .confirm => IEEE80211_REASON_MESH_INCONS_PARAMS
      | .close => arg
    closeLink p l l.ni.niMlpid l.ni.niMllid reason

/-! ## The handlers -/

/-- `mesh_recv_action_meshpeering_open`, after parsing -/
def recvMeshpeeringOpen (p : Params) (ids : IdSource) (meshpeer : MeshpeerIe) (l : Link) : Link :=
  match l.ni.niMlstate with
  | .idle =>
    -- reject open request if reached our maximum neighbor count
    if l.msNeighbors ≥ IEEE80211_MESH_MAX_NEIGHBORS then
      sendAction l .close meshpeer.peerLlinkid 0 IEEE80211_REASON_MESH_MAX_PEERS
    else
      let l := meshLinkchange l .openrcv
      let newId := meshGenerateid ids meshpeer.peerLlinkid
      let l := { l with ni := { l.ni with niMllid := meshpeer.peerLlinkid, niMlpid := newId } }
      if newId = 0 then
        l
      else
        let l := { l with log := .drew newId :: l.log }
        -- announce we're open too, and confirm the link
        let l := sendAction l .open l.ni.niMlpid 0 0
        let l := sendAction l .confirm l.ni.niMlpid l.ni.niMllid 0
        meshPeerTimeoutSetup p l
  | .openrcv =>
    if l.ni.niMllid ≠ meshpeer.peerLlinkid then
      closeLink p l l.ni.niMllid l.ni.niMlpid IEEE80211_REASON_PEER_LINK_CANCELED
    else
      -- duplicate open, confirm again
      sendAction l .confirm l.ni.niMlpid l.ni.niMllid 0
  | .opensnt =>
    let l := meshLinkchange { l with ni := { l.ni with niMllid := meshpeer.peerLlinkid } } .openrcv
    sendAction l .confirm l.ni.niMlpid l.ni.niMllid 0
  | .confirmrcv =>
    if l.ni.niMlpid ≠ meshpeer.peerLinkid ∨ l.ni.niMllid ≠ meshpeer.peerLlinkid then
      closeLink p l l.ni.niMlpid l.ni.niMllid IEEE80211_REASON_PEER_LINK_CANCELED
    else
      let l := meshLinkchange l .established
      let l := { l with ni := { l.ni with niMllid := meshpeer.peerLlinkid } }
      let l := sendAction l .confirm l.ni.niMlpid l.ni.niMllid 0
      meshPeerTimeoutStop l
  | .established =>
    if l.ni.niMllid ≠ meshpeer.peerLlinkid then
      closeLink p l l.ni.niMllid l.ni.niMlpid IEEE80211_REASON_PEER_LINK_CANCELED
    else
      sendAction l .confirm l.ni.niMlpid l.ni.niMllid 0
  | .holding => sendAction l .close l.ni.niMlpid meshpeer.peerLlinkid IEEE80211_REASON_PEER_LINK_CANCELED

/-- `mesh_recv_action_meshpeering_confirm`, after parsing -/
def recvMeshpeeringConfirm (p : Params) (meshpeer : MeshpeerIe) (l : Link) : Link :=
  match l.ni.niMlstate with
  | .openrcv => meshPeerTimeoutStop (meshLinkchange l .established)
  | .opensnt => meshPeerTimeoutSetup p (meshLinkchange l .confirmrcv)
  | .holding => sendAction l .close l.ni.niMlpid meshpeer.peerLlinkid IEEE80211_REASON_PEER_LINK_CANCELED
  | .confirmrcv =>
    if l.ni.niMllid ≠ meshpeer.peerLlinkid then
      closeLink p l l.ni.niMlpid l.ni.niMllid IEEE80211_REASON_PEER_LINK_CANCELED
    else
      l
  | .idle | .established => l

/-- `mesh_recv_action_meshpeering_close`, after parsing -/
def recvMeshpeeringClose (p : Params) (l : Link) : Link :=
  match l.ni.niMlstate with
  | .idle => l
  | .openrcv | .opensnt | .confirmrcv | .established =>
    closeLink p l l.ni.niMlpid l.ni.niMllid IEEE80211_REASON_MESH_CLOSE_RCVD
  | .holding => meshPeerTimeoutStop (meshLinkchange l .idle)

/-- What a handler finds besides the frame; `mp` and `arg` are on the stack. -/
structure RxEnv where
  params : Params
  mp : MeshpeerIe
  arg : BitVec 16
  ids : IdSource

/-- `mesh_recv_action_meshpeering_open`, `_confirm` and `_close`; `frm` begins with the elements of the frame. -/
def recvActionMeshpeering (env : RxEnv) (subtype : Subtype) (frm : List Byte) (l : Link) : Link :=
  match verdict env.params env.mp subtype frm with
  | .ignored => l
  | .rejected => rejectFrame env.params env.arg subtype l
  | .accepted meshpeer =>
    match subtype with
    | .open => recvMeshpeeringOpen env.params env.ids meshpeer l
    | .confirm => recvMeshpeeringConfirm env.params meshpeer l
    | .close => recvMeshpeeringClose env.params l

/-- The bytes of a peering frame, from its elements on. -/
def frameOf (elems : List Element) (msg : Msg) : List Byte := elementBytes elems ++ addMeshpeer msg

/-! ## One mesh -/

/-- The values the variables have at the start. -/
def usual : Params :=
  { msId := [0x6d], mppIe := 1, mpmIe := 1, retrytimeout := 40, holdingtimeout := 40, confirmtimeout := 40, maxretries := 2
    maxholding := 2 }

/-- The elements of a frame of the same mesh. -/
def ownMesh : List Element :=
  [{ id := IEEE80211_ELEMID_MESHID, data := [0x6d], data_lt := by decide },
    { id := IEEE80211_ELEMID_MESHCONF, data := [1, 1, 0, 1, 0, 0, 1], data_lt := by decide }]

def noIe : MeshpeerIe := { peerLen := 0, peerProto := 0, peerLlinkid := 0, peerLinkid := 0, peerRcode := 0 }

end Net80211.Mesh.Peering
