import Wifi.Lib.Runs
import Wifi.Linux.Ieee80211

/-!
# Mesh peering management (`linux/net/mac80211/mesh_plink.c`)

* `MeshSta`, `Frame`, `Side` — a neighbour, a peering frame, and a station's end of the link.
* `meshPlinkFrameTx`, `meshPlinkOpen`, `meshPlinkTimer`, `meshPlinkBlock`, `meshPlinkFsm`,
  `meshPlinkGetEvent`, `meshProcessPlinkFrame`, `meshNeighbourUpdate` — the functions of these names.
* `Step` — two stations, over a channel on which a frame can be lost, delayed, repeated and overtaken.
* `Agreement` — what peers that are established have told each other.

The in-kernel peering is taken (`user_mpm` is not set), with every function as one step.  What a frame or
the interface says beyond the peering element is in `RxEnv`; rates, power save, AIDs, the count of
established links and the timer's value are left out.
-/

namespace Mac80211.Mesh.Plink

open Runs

/-! ## Data -/

/-- `enum nl80211_plink_state` -/
inductive PlinkState where
  | listen | opnSnt | opnRcvd | cnfRcvd | estab | holding | blocked
  deriving DecidableEq, Repr

inductive PlinkEvent where
  | undefined | opnAcpt | opnRjct | opnIgnr | cnfAcpt | cnfRjct | cnfIgnr | clsAcpt | clsIgnr
  deriving DecidableEq, Repr

/-- `WLAN_SP_MESH_PEERING_OPEN`, `_CONFIRM` and `_CLOSE` -/
inductive Action where
  | open | confirm | close
  deriving DecidableEq, Repr

abbrev LinkId := BitVec 16

def WLAN_REASON_MESH_PEER_CANCELED : BitVec 16 := 52
def WLAN_REASON_MESH_CONFIG : BitVec 16 := 54
def WLAN_REASON_MESH_CLOSE : BitVec 16 := 55
def WLAN_REASON_MESH_MAX_RETRIES : BitVec 16 := 56
def WLAN_REASON_MESH_CONFIRM_TIMEOUT : BitVec 16 := 57

structure MeshSta where
  plinkState : PlinkState
  llid : LinkId
  plid : LinkId
  reason : BitVec 16
  plinkRetries : Nat
  deriving DecidableEq, Repr

/-- What `mesh_plink_frame_tx` is asked to send. -/
structure Msg where
  action : Action
  llid : LinkId
  plid : LinkId
  reason : BitVec 16
  deriving DecidableEq, Repr

/-- An action frame: what it is, and the data of its peering element. -/
structure Frame where
  action : Action
  peering : List Byte
  deriving DecidableEq, Repr

inductive Ev where
  | sent (msg : Msg)
  /-- an OPEN that carries this link id was accepted -/
  | accepted (id : LinkId)
  deriving DecidableEq, Repr

/-- A station's end of the link; the last two fields are not in the source: the link ids it has drawn, and
    what it did, both with the latest first. -/
structure Side where
  sta : Option MeshSta
  used : List LinkId
  log : List Ev

namespace Side

def put (side : Side) (sta : MeshSta) : Side := { side with sta := some sta }

/-- `mesh_get_new_llid` -/
def draw (side : Side) (llid : LinkId) : Side := { side with used := llid :: side.used }

def tx (side : Side) (action : Action) (llid plid : LinkId) (reason : BitVec 16) : Side :=
  { side with log := .sent { action := action, llid := llid, plid := plid, reason := reason } :: side.log }

end Side

/-! ## Sending -/

/-- `mesh_plink_frame_tx`: the peering element. -/
def meshPlinkFrameTx (msg : Msg) : Frame where
  action := msg.action
  peering :=
    let includePlid := msg.action = .confirm ∨ msg.action = .close ∧ msg.plid ≠ 0
    [0, 0] ++ (toLe16 msg.llid ++ ((if includePlid then toLe16 msg.plid else []) ++
      (if msg.action = .close then toLe16 msg.reason else [])))

def meshPlinkFsmRestart (sta : MeshSta) : MeshSta :=
  { sta with plinkState := .listen, llid := 0, plid := 0, reason := 0, plinkRetries := 0 }

def meshPlinkOpen (side : Side) (sta : MeshSta) (auth : Bool) (newLlid : LinkId) : Side :=
  if auth = false then
    side
  else
    let side := side.draw newLlid
    let sta := { sta with llid := newLlid }
    if sta.plinkState ≠ .listen ∧ sta.plinkState ≠ .blocked then
      side.put sta
    else
      let sta := { sta with plinkState := .opnSnt }
      (side.put sta).tx .open sta.llid 0 0

/-- `__mesh_plink_deactivate` -/
def meshPlinkDeactivate' (sta : MeshSta) : MeshSta := { sta with plinkState := .blocked }

def meshPlinkBlock (side : Side) (sta : MeshSta) : Side := side.put (meshPlinkDeactivate' sta)

/-- `mesh_plink_deactivate`, and the end of the station. -/
def meshPlinkDeactivate (side : Side) (sta : MeshSta) : Side :=
  let sta := { meshPlinkDeactivate' sta with reason := WLAN_REASON_MESH_PEER_CANCELED }
  { side.tx .close sta.llid sta.plid sta.reason with sta := none }

/-- What `mesh_plink_timer` reads besides the station. -/
structure TimerEnv where
  quiescing : Bool
  /-- the timer was changed before the lock was taken -/
  adjusted : Bool
  dot11MeshMaxRetries : Nat

def meshPlinkTimer (side : Side) (env : TimerEnv) (sta : MeshSta) : Side :=
  if env.quiescing then side
  else if env.adjusted then side
  else
    let holding (reason : BitVec 16) : Side :=
      (side.put { sta with plinkState := .holding }).tx .close sta.llid sta.plid reason
    match sta.plinkState with
    | .opnRcvd | .opnSnt =>
      if sta.plinkRetries < env.dot11MeshMaxRetries then
        (side.put { sta with plinkRetries := sta.plinkRetries + 1 }).tx .open sta.llid sta.plid 0
      else
        holding WLAN_REASON_MESH_MAX_RETRIES
    | .cnfRcvd => holding WLAN_REASON_MESH_CONFIRM_TIMEOUT
    | .holding => side.put (meshPlinkFsmRestart sta)
    | .listen | .estab | .blocked => side

def meshPlinkClose (sta : MeshSta) (event : PlinkEvent) : MeshSta :=
  { sta with
    reason := if event = .clsAcpt then WLAN_REASON_MESH_CLOSE else WLAN_REASON_MESH_CONFIG
    plinkState := .holding }

def meshPlinkEstablish (sta : MeshSta) : MeshSta := { sta with plinkState := .estab }

/-- The `switch` of `mesh_plink_fsm`: the station, the action, and whether a link id was drawn. -/
def fsmSwitch (sta : MeshSta) (event : PlinkEvent) (newLlid : LinkId) : MeshSta × Option Action × Bool :=
  match sta.plinkState with
  | .listen =>
    match event with
    | .clsAcpt => (meshPlinkFsmRestart sta, none, false)
    | .opnAcpt => ({ sta with plinkState := .opnRcvd, llid := newLlid }, some .open, true)
    | _ => (sta, none, false)
  | .opnSnt =>
    match event with
    | .opnRjct | .cnfRjct | .clsAcpt => (meshPlinkClose sta event, some .close, false)
    | .opnAcpt => ({ sta with plinkState := .opnRcvd }, some .confirm, false)
    | .cnfAcpt => ({ sta with plinkState := .cnfRcvd }, none, false)
    | _ => (sta, none, false)
  | .opnRcvd =>
    match event with
    | .opnRjct | .cnfRjct | .clsAcpt => (meshPlinkClose sta event, some .close, false)
    | .opnAcpt => (sta, some .confirm, false)
    | .cnfAcpt => (meshPlinkEstablish sta, none, false)
    | _ => (sta, none, false)
  | .cnfRcvd =>
    match event with
    | .opnRjct | .cnfRjct | .clsAcpt => (meshPlinkClose sta event, some .close, false)
    | .opnAcpt => (meshPlinkEstablish sta, some .confirm, false)
    | _ => (sta, none, false)
  | .estab =>
    match event with
    | .clsAcpt => (meshPlinkClose (meshPlinkDeactivate' sta) event, some .close, false)
    | .opnAcpt => (sta, some .confirm, false)
    | _ => (sta, none, false)
  | .holding =>
    match event with
    | .clsAcpt => (meshPlinkFsmRestart sta, none, false)
    | .opnAcpt | .cnfAcpt | .opnRjct | .cnfRjct => (sta, some .close, false)
    | _ => (sta, none, false)
  | .blocked => (sta, none, false)

def meshPlinkFsm (side : Side) (sta : MeshSta) (event : PlinkEvent) (newLlid : LinkId) : Side :=
  match fsmSwitch sta event newLlid with
  | (sta, action, drawn) =>
    let side := if drawn then side.draw newLlid else side
    let side := side.put sta
    match action with
    | none => side
    | some action =>
      let side := side.tx action sta.llid sta.plid sta.reason
      -- also send confirm in open case
      if action = .open then side.tx .confirm sta.llid sta.plid 0 else side

/-! ## Receiving -/

/-- What the functions below read besides the link: from the frame's other elements, and from the
    interface. -/
structure RxEnv where
  /-- the frame has an RSN element, and the mesh has no security -/
  secure : Bool
  /-- `elems->mesh_id && elems->mesh_config` -/
  meshIes : Bool
  /-- `rssi_threshold_check` -/
  rssi : Bool
  /-- `mesh_matches_local` -/
  matchesLocal : Bool
  /-- `mesh_plink_free_count` is not zero -/
  freeCount : Bool
  /-- `WLAN_STA_AUTH` -/
  auth : Bool
  /-- `mesh_sta_info_alloc` and `sta_info_insert_rcu` work -/
  alloc : Bool

def meshPlinkGetEvent (env : RxEnv) (sta : Option MeshSta) (ieLen : Nat) (ftype : Action) (llid plid : LinkId) :
    PlinkEvent :=
  let matchesLocal := decide (ftype = .close) || env.matchesLocal
  match sta with
  | none =>
    if matchesLocal = false then .opnRjct
    else if ftype ≠ .open then .undefined
    else if env.freeCount = false then .undefined
    else .opnAcpt
  | some sta =>
    if env.auth = false then .undefined
    else if sta.plinkState = .blocked then .undefined
    else
      match ftype with
      | .open =>
        if matchesLocal = false then .opnRjct
        else if env.freeCount = false ∨ sta.plid ≠ 0 ∧ sta.plid ≠ plid then .opnIgnr
        else .opnAcpt
      | .confirm =>
        if matchesLocal = false then .cnfRjct
        else if env.freeCount = false ∨ sta.llid ≠ llid ∨ sta.plid ≠ 0 ∧ sta.plid ≠ plid then .cnfIgnr
        else .cnfAcpt
      | .close =>
        if sta.plinkState = .estab then .clsAcpt
        else if sta.plid ≠ plid then .clsIgnr
        else if ieLen = 8 ∧ sta.llid ≠ llid then .clsIgnr
        else .clsAcpt

/-- `__mesh_sta_info_alloc` -/
def newSta : MeshSta := { plinkState := .listen, llid := 0, plid := 0, reason := 0, plinkRetries := 0 }

def meshStaInfoGet (alloc : Bool) (sta : Option MeshSta) : Option MeshSta :=
  match sta with
  | some sta => some sta
  | none => if alloc then some newSta else none

def meshProcessPlinkFrame (side : Side) (env : RxEnv) (newLlid : LinkId) (frame : Frame) : Side :=
  let ieLen := frame.peering.length
  let ftype := frame.action
  if env.secure then
    side
  else if ftype = .open ∧ ieLen ≠ 4 ∨ ftype = .confirm ∧ ieLen ≠ 6 ∨ ftype = .close ∧ ieLen ≠ 6 ∧ ieLen ≠ 8 then
    side
  else if ftype ≠ .close ∧ env.meshIes = false then
    side
  else
    let plid := le16 frame.peering 2
    let llid := if ftype = .confirm ∨ ftype = .close ∧ ieLen = 8 then le16 frame.peering 4 else 0
    if ftype = .open ∧ env.rssi = false then
      side
    else
      match meshPlinkGetEvent env side.sta ieLen ftype llid plid, side.sta with
      | .opnAcpt, sta =>
        match meshStaInfoGet env.alloc sta with
        | none => side
        | some sta =>
          meshPlinkFsm { side with log := .accepted plid :: side.log } { sta with plid := plid } .opnAcpt newLlid
      | .opnRjct, none => side.tx .close 0 plid WLAN_REASON_MESH_CONFIG
      | _, none => side
      | .undefined, some _ => side
      | event, some sta =>
        let sta := if event = .cnfAcpt ∧ sta.plid = 0 then { sta with plid := plid } else sta
        meshPlinkFsm side sta event newLlid

/-- What `mesh_neighbour_update` reads of a beacon and of the interface. -/
structure BeaconEnv where
  alloc : Bool
  auth : Bool
  /-- `mesh_peer_accepts_plinks`, `accepting_plinks`, `auto_open_plinks` and `rssi_threshold_check` -/
  mayOpen : Bool

def meshNeighbourUpdate (side : Side) (env : BeaconEnv) (newLlid : LinkId) : Side :=
  match meshStaInfoGet env.alloc side.sta with
  | none => side
  | some sta =>
    let side := side.put sta
    if sta.plinkState = .listen ∧ env.mayOpen = true then meshPlinkOpen side sta env.auth newLlid else side

/-! ## Runs -/

inductive Op where
  /-- a frame arrives that the peer has sent at some time -/
  | receive (msg : Msg) (env : RxEnv) (newLlid : LinkId)
  | timer (env : TimerEnv)
  /-- `NL80211_PLINK_ACTION_OPEN` -/
  | open (auth : Bool) (newLlid : LinkId)
  /-- `NL80211_PLINK_ACTION_BLOCK` -/
  | block
  | neighbourUpdate (env : BeaconEnv) (newLlid : LinkId)
  | remove

/-- What an operation does at the station where it happens. -/
def Op.run (side : Side) : Op → Side
  | .receive msg env newLlid => meshProcessPlinkFrame side env newLlid (meshPlinkFrameTx msg)
  | .timer env => match side.sta with
    | none => side
    | some sta => meshPlinkTimer side env sta
  | .open auth newLlid => match side.sta with
    | none => side
    | some sta => meshPlinkOpen side sta auth newLlid
  | .block => match side.sta with
    | none => side
    | some sta => meshPlinkBlock side sta
  | .neighbourUpdate env newLlid => meshNeighbourUpdate side env newLlid
  | .remove => match side.sta with
    | none => side
    | some sta => meshPlinkDeactivate side sta

inductive Who where
  | a | b
  deriving DecidableEq, Repr

def Who.other : Who → Who
  | .a => .b
  | .b => .a

abbrev State := Who → Side

def Op.InFlight (peer : Side) : Op → Prop
  | .receive msg _ _ => .sent msg ∈ peer.log
  | _ => True

instance (peer : Side) (op : Op) : Decidable (op.InFlight peer) := by
  cases op <;> unfold Op.InFlight <;> infer_instance

/-- Link ids are never reused; a station without a link has 0. -/
def Fresh (side : Side) : Prop := (0 :: side.used).Nodup

instance (side : Side) : Decidable (Fresh side) := inferInstanceAs (Decidable (List.Nodup _))

def next (s : State) (i : Who × Op) : Option State :=
  if i.2.InFlight (s i.1.other) ∧ Fresh (i.2.run (s i.1)) then
    some (Function.update s i.1 (i.2.run (s i.1)))
  else
    none

def Step (s : State) (i : Who × Op) (s' : State) : Prop := next s i = some s'

def Initial (s : State) : Prop := ∀ w, s w = { sta := none, used := [], log := [] }

def PlinkState.active : PlinkState → Bool
  | .opnSnt | .opnRcvd | .cnfRcvd | .estab => true
  | .listen | .holding | .blocked => false

/-- A CONFIRM with these ids was sent, and an OPEN that carries the second was accepted before. -/
def ConfirmedAfterOpen (log : List Ev) (llid plid : LinkId) : Prop :=
  ∃ newer older reason, log = newer ++ .sent { action := .confirm, llid := llid, plid := plid, reason := reason } :: older ∧
    .accepted plid ∈ older

/-- **What peers have told each other.** -/
structure Agreement (s : State) : Prop where
  /-- who is established has been confirmed, by a peer that accepted its OPEN -/
  confirmed : ∀ w, ∀ sta ∈ (s w).sta, sta.plinkState = .estab → ConfirmedAfterOpen (s w.other).log sta.plid sta.llid
  /-- the ids are paired -/
  paired : ∀ x ∈ (s .a).sta, ∀ y ∈ (s .b).sta, x.plinkState = .estab → y.plinkState = .estab →
    x.llid = y.plid ∧ x.plid = y.llid

/-- The link id of a station that has one stays as long as it is in use. -/
def KeepsLlid (s s' : State) : Prop :=
  ∀ w, ∀ sta ∈ (s w).sta, ∀ sta' ∈ (s' w).sta, sta.plinkState.active = true → sta'.plinkState.active = true →
    sta'.llid = sta.llid

/-- A request to open the link comes only while there is none. -/
def Op.InTime (side : Side) : Op → Prop
  | .open auth _ => ∀ sta ∈ side.sta, auth = true → sta.plinkState = .listen ∨ sta.plinkState = .blocked
  | _ => True

def Ok (s : State) (i : Who × Op) : Prop := i.2.InTime (s i.1)

end Mac80211.Mesh.Plink
