import Wifi.Lib.Runs
import Wifi.Lib.TwoEnds
import Wifi.Net80211.Mesh.Peering

/-!
# Mesh peering: the ids of established peers

* `accepted_frame` — what is parsed from a peering frame is what was written.
* `Stations`, `Op`, `Step` — two stations, over a channel on which a frame can be lost, delayed, repeated and
  overtaken.
* `Agreement` — what established stations have received, and that they hold each other's ids.
* `Change` — what an operation can do to a link; one lemma for each handler.
* `Matched` — a CONFIRM that is taken names the ids in use; `stations_agree` — every run of such steps.
-/

namespace Net80211.Mesh.Peering

open Runs

/-! ## Frames -/

section Frames

variable {msg : Msg} {subtype : Subtype}

theorem parseElems_element (e : Element) (rest : List Byte) (rounds : Nat) (v : Parsed) :
    parseElems subtype (rounds + 1) (e.bytes ++ rest) v =
      parseElems subtype rounds rest (noteElem subtype (e.bytes ++ rest) v) := by
  have hlen : (BitVec.ofNat 8 e.data.length).toNat = e.data.length := by
    rw [BitVec.toNat_ofNat]
    exact Nat.mod_eq_of_lt e.data_lt
  have hdatalen : ((e.bytes ++ rest).getD 1 0).toNat + 2 = e.bytes.length := by
    rw [Element.length_bytes]
    exact congrArg (· + 2) hlen
  have hlong : (e.bytes ++ rest).length > 1 := by
    rw [List.length_append, Element.length_bytes]
    omega
  have hfits : ¬ (e.bytes ++ rest).length < e.bytes.length := by
    rw [List.length_append]
    omega
  conv_lhs => unfold parseElems
  rw [if_pos hlong, hdatalen]
  dsimp only
  rw [if_neg hfits, List.drop_left]

theorem noteElem_meshpeer {e : Element} (he : e.id = IEEE80211_ELEMID_MESHPEER) (rest : List Byte) (v : Parsed) :
    (noteElem subtype (e.bytes ++ rest) v).mp = takeMeshpeer subtype (e.bytes ++ rest) := by
  unfold noteElem
  rw [show (e.bytes ++ rest).getD 0 0 = e.id from rfl]
  dsimp only
  rw [he, if_neg (by decide), if_neg (by decide), if_pos rfl]

theorem parseElems_elements (subtype : Subtype) : ∀ (es : List Element) (rest : List Byte) (rounds : Nat) (v : Parsed),
    (∀ e ∈ es, e.id ≠ IEEE80211_ELEMID_MESHPEER) → (elementBytes es ++ rest).length ≤ rounds →
    ∃ rounds' v', rest.length ≤ rounds' ∧
      parseElems subtype rounds (elementBytes es ++ rest) v = parseElems subtype rounds' rest v'
  | [], rest, rounds, v, _, hr => ⟨rounds, v, hr, rfl⟩
  | e :: es, rest, rounds, v, hes, hr => by
    rw [elementBytes_cons, List.append_assoc] at hr ⊢
    rw [List.length_append, Element.length_bytes] at hr
    obtain ⟨n, rfl⟩ : ∃ n, rounds = n + 1 := ⟨rounds - 1, by omega⟩
    obtain ⟨rounds', v', hr', h'⟩ := parseElems_elements subtype es rest n (noteElem subtype (e.bytes ++ (elementBytes es ++ rest)) v)
      (fun e he => hes e (List.mem_cons_of_mem _ he)) (by omega)
    exact ⟨rounds', v', hr', (parseElems_element e _ n v).trans h'⟩

theorem length_addMeshpeer (msg : Msg) : (addMeshpeer msg).length < 256 := by
  unfold addMeshpeer
  cases msg.subtype with
  | «open» | confirm => simp [toLe16]
  | close =>
    dsimp only
    split_ifs <;> simp [toLe16]

def meshpeerElem (msg : Msg) : Element where
  id := IEEE80211_ELEMID_MESHPEER
  data := (addMeshpeer msg).drop 2
  data_lt := by
    rw [List.length_drop]
    have h := length_addMeshpeer msg
    omega

theorem meshpeerElem_bytes (msg : Msg) : (meshpeerElem msg).bytes = addMeshpeer msg := by
  show IEEE80211_ELEMID_MESHPEER :: BitVec.ofNat 8 ((addMeshpeer msg).drop 2).length :: (addMeshpeer msg).drop 2 = _
  unfold addMeshpeer
  cases msg.subtype with
  | «open» | confirm => rfl
  | close =>
    dsimp only
    split_ifs <;> rfl

/-- **What is accepted is what was written.** -/
theorem accepted_frame {p : Params} {mp ie : MeshpeerIe} {elems : List Element}
    (hes : ∀ e ∈ elems, e.id ≠ IEEE80211_ELEMID_MESHPEER)
    (h : verdict p mp msg.subtype (frameOf elems msg) = .accepted ie) :
    ie = takeMeshpeer msg.subtype (addMeshpeer msg) := by
  obtain ⟨rounds, v, hr, hparse⟩ := parseElems_elements msg.subtype elems (addMeshpeer msg)
    (frameOf elems msg).length { mp := mp, meshid := none, meshconf := none } hes (Nat.le_refl _)
  rw [← meshpeerElem_bytes, Element.length_bytes] at hr
  obtain ⟨n, rfl⟩ : ∃ n, rounds = n + 1 := ⟨rounds - 1, by omega⟩
  have hlast : parseElems msg.subtype (n + 1) ((meshpeerElem msg).bytes ++ []) v = _ := parseElems_element (meshpeerElem msg) [] n v
  have hid : (meshpeerElem msg).id = IEEE80211_ELEMID_MESHPEER := rfl
  have hmp : (noteElem msg.subtype ((meshpeerElem msg).bytes ++ []) v).mp = _ := noteElem_meshpeer hid [] v
  rw [List.append_nil, meshpeerElem_bytes] at hlast hmp
  have hend : ∀ v', parseElems msg.subtype n [] v' = some v' := by
    intro v'
    cases n <;> rfl
  have hall := hparse.trans (hlast.trans (hend _))
  unfold verdict at h
  rw [show parseElems msg.subtype (frameOf elems msg).length (frameOf elems msg) _ = _ from hall] at h
  dsimp only at h
  split_ifs at h
  cases h
  exact hmp

theorem takeMeshpeer_llinkid (msg : Msg) : (takeMeshpeer msg.subtype (addMeshpeer msg)).peerLlinkid = msg.localid := by
  have h : le16 (addMeshpeer msg) 4 = msg.localid := by
    unfold addMeshpeer
    cases msg.subtype <;> exact le16_bytes msg.localid
  unfold takeMeshpeer
  cases msg.subtype with
  | «open» | confirm => exact h
  | close =>
    dsimp only
    split_ifs <;> exact h

theorem takeMeshpeer_confirm (h : msg.subtype = .confirm) :
    (takeMeshpeer .confirm (addMeshpeer msg)).peerLinkid = msg.peerid := by
  unfold addMeshpeer
  rw [h]
  exact le16_bytes msg.peerid

end Frames

/-! ## Two stations -/

structure Heard where
  subtype : Subtype
  llinkid : LinkId
  linkid : LinkId
  deriving DecidableEq, Repr

/-- A station's end of the link; not in the source: what it took since the node was last idle. -/
structure Side where
  link : Link
  attempt : List Heard
  deriving DecidableEq

inductive Who where
  | a | b
  deriving DecidableEq, Repr

def Who.other : Who → Who
  | .a => .b
  | .b => .a

abbrev Stations := Who → Side

inductive SideOp where
  | beacon (p : Params) (ids : IdSource)
  /-- a frame arrives that the peer has sent at some time -/
  | receive (env : RxEnv) (elems : List Element) (msg : Msg)
  | timeout (p : Params) (arg : BitVec 16) (r : BitVec 32)
  /-- links to other nodes come and go -/
  | neighbors (n : BitVec 16)

def heardOf (env : RxEnv) (elems : List Element) (msg : Msg) : Option Heard :=
  match verdict env.params env.mp msg.subtype (frameOf elems msg) with
  | .accepted ie => some { subtype := msg.subtype, llinkid := ie.peerLlinkid, linkid := ie.peerLinkid }
  | .rejected | .ignored => none

def Side.going (side : Side) : List Heard := if side.link.ni.niMlstate = .idle then [] else side.attempt

def SideOp.run (side : Side) : SideOp → Side
  | .beacon p ids => { link := recvBeacon p ids side.link, attempt := side.going }
  | .receive env elems msg =>
    { link := recvActionMeshpeering env msg.subtype (frameOf elems msg) side.link
      attempt := (heardOf env elems msg).toList ++ side.going }
  | .timeout p arg r => { link := meshPeerTimeoutCb p arg r side.link.due, attempt := side.going }
  | .neighbors n => { link := { side.link with msNeighbors := n }, attempt := side.going }

/-- The frame was sent by the peer, and a callback runs only while its callout is pending. -/
def SideOp.Can (peer side : Side) : SideOp → Prop
  | .receive _ elems msg =>
    .sent msg ∈ peer.link.log ∧ ∀ e ∈ elems, e.id ≠ IEEE80211_ELEMID_MESHPEER
  | .timeout _ _ _ => side.link.ni.niMltimer = true
  | .beacon _ _ | .neighbors _ => True

instance (peer side : Side) (op : SideOp) : Decidable (op.Can peer side) := by
  cases op <;> unfold SideOp.Can <;> infer_instance

def Ev.drawn : Ev → Option LinkId
  | .drew id => some id
  | .sent _ => none

/-- The link ids that were drawn, the latest first. -/
def drawn (log : List Ev) : List LinkId := log.filterMap Ev.drawn

def Fresh (side : Side) : Prop := (0 :: drawn side.link.log).Nodup

instance (side : Side) : Decidable (Fresh side) := inferInstanceAs (Decidable (List.Nodup _))

def nextSide (s : Stations) (i : Who × SideOp) : Option Stations :=
  if i.2.Can (s i.1.other) (s i.1) ∧ Fresh (i.2.run (s i.1)) then
    some (Function.update s i.1 (i.2.run (s i.1)))
  else
    none

def SideStep (s : Stations) (i : Who × SideOp) (s' : Stations) : Prop := nextSide s i = some s'

def Strangers (s : Stations) : Prop := ∀ w, (s w).link.ni.niMlstate = .idle ∧ (s w).link.ni.niMltimer = false ∧
  (s w).link.log = []

/-- An OPEN with the peer's link id, and a CONFIRM of both ids, were taken in the attempt. -/
def Confirmed (side : Side) : Prop :=
  (∃ linkid, { subtype := .open, llinkid := side.link.ni.niMllid, linkid := linkid } ∈ side.attempt) ∧
    { subtype := .confirm, llinkid := side.link.ni.niMllid, linkid := side.link.ni.niMlpid } ∈ side.attempt

/-- **What established peers know.** -/
structure Agreement (s : Stations) : Prop where
  confirmed : ∀ w, (s w).link.ni.niMlstate = .established → Confirmed (s w)
  /-- they hold each other's ids -/
  paired : (s .a).link.ni.niMlstate = .established → (s .b).link.ni.niMlstate = .established →
    (s .a).link.ni.niMllid = (s .b).link.ni.niMlpid ∧ (s .a).link.ni.niMlpid = (s .b).link.ni.niMllid

/-- **A CONFIRM that is taken after an OPEN names the ids in use.** -/
def Matched (s : Stations) (i : Who × SideOp) : Prop :=
  match i.2 with
  | .receive env elems msg => (s i.1).link.ni.niMlstate = .openrcv → ∀ h ∈ heardOf env elems msg, h.subtype = .confirm →
      h.linkid = (s i.1).link.ni.niMlpid ∧ h.llinkid = (s i.1).link.ni.niMllid
  | _ => True

instance (s : Stations) (i : Who × SideOp) : Decidable (Matched s i) := by
  obtain ⟨w, op⟩ := i
  cases op <;> unfold Matched <;> infer_instance

/-! ## What an operation can do -/

/-- The states in which the own link id is in use. -/
def Mlstate.active : Mlstate → Bool
  | .opensnt | .openrcv | .confirmrcv | .established => true
  | .idle | .holding => false

def Mlstate.answered : Mlstate → Bool
  | .openrcv | .established => true
  | .idle | .opensnt | .confirmrcv | .holding => false

def Ev.Quiet : Ev → Prop
  | .sent msg => msg.subtype = .close
  | .drew _ => False

def sentOpen (ni : Node) : Ev := .sent { subtype := .open, localid := ni.niMlpid, peerid := 0, reason := 0 }

def sentConfirm (ni : Node) : Ev := .sent { subtype := .confirm, localid := ni.niMlpid, peerid := ni.niMllid, reason := 0 }

/-- What a node with a link says, the latest first. -/
inductive Speaks (ni : Node) : List Ev → Prop where
  | silent : Speaks ni []
  | opens (h : ni.niMlpid ≠ 0) : Speaks ni [sentOpen ni]
  | confirms (h : ni.niMlstate.answered = true) : Speaks ni [sentConfirm ni]
  | answers (h : ni.niMlpid ≠ 0) (hs : ni.niMlstate.answered = true) : Speaks ni [sentConfirm ni, sentOpen ni]

/-- An OPEN with the id that is stored was taken. -/
def TookOpen (ni : Node) (rx : Option Heard) : Prop :=
  ∃ linkid, rx = some { subtype := .open, llinkid := ni.niMllid, linkid := linkid }

/-- **What an operation can do** to a link; `rx` is what was taken from a frame. -/
inductive Change (rx : Option Heard) (x x' : Link) : Prop where
  /-- there is no link afterwards -/
  | away (evs : List Ev) (state : x'.ni.niMlstate = .holding ∨ x'.ni.niMlstate = .idle ∧ x'.ni.niMltimer = false)
      (quiet : ∀ ev ∈ evs, ev.Quiet) (log : x'.log = evs ++ x.log)
  /-- a link stays -/
  | stay (evs : List Ev) (act : x.ni.niMlstate.active = true) (state : x'.ni.niMlstate = x.ni.niMlstate)
      (mllid : x'.ni.niMllid = x.ni.niMllid) (mlpid : x'.ni.niMlpid = x.ni.niMlpid)
      (timer : x'.ni.niMltimer = x.ni.niMltimer ∨ x.ni.niMlpid ≠ 0) (speech : Speaks x'.ni evs) (log : x'.log = evs ++ x.log)
  /-- the peer's OPEN is answered -/
  | learn (state : x.ni.niMlstate = .opensnt) (state' : x'.ni.niMlstate = .openrcv)
      (mlpid : x'.ni.niMlpid = x.ni.niMlpid) (took : TookOpen x'.ni rx) (log : x'.log = sentConfirm x'.ni :: x.log)
  /-- a CONFIRM comes before the OPEN -/
  | wait (state : x.ni.niMlstate = .opensnt) (state' : x'.ni.niMlstate = .confirmrcv)
      (mlpid : x'.ni.niMlpid = x.ni.niMlpid) (log : x'.log = x.log)
  /-- a CONFIRM comes after the OPEN -/
  | establish (state : x.ni.niMlstate = .openrcv) (state' : x'.ni.niMlstate = .established)
      (mllid : x'.ni.niMllid = x.ni.niMllid) (mlpid : x'.ni.niMlpid = x.ni.niMlpid)
      (took : rx = some { subtype := .confirm, llinkid := x.ni.niMllid, linkid := x.ni.niMlpid }) (log : x'.log = x.log)
  /-- a link begins, with a new id -/
  | start (evs : List Ev) (idle : x.ni.niMlstate = .idle)
      (state : x'.ni.niMlstate = .opensnt ∨ x'.ni.niMlstate = .openrcv ∧ TookOpen x'.ni rx) (mlpid : x'.ni.niMlpid ≠ 0)
      (speech : Speaks x'.ni evs) (log : x'.log = evs ++ .drew x'.ni.niMlpid :: x.log)
  /-- a link begins, for which no id was found -/
  | lost (idle : x.ni.niMlstate = .idle) (state : x'.ni.niMlstate = .openrcv) (took : TookOpen x'.ni rx)
      (mlpid : x'.ni.niMlpid = 0) (timer : x'.ni.niMltimer = false) (log : x'.log = x.log)

/-- What is known of a link when something happens. -/
structure Sensible (x : Link) : Prop where
  idle : x.ni.niMlstate = .idle → x.ni.niMltimer = false
  zero : x.ni.niMlpid = 0 → x.ni.niMlstate.active = true → x.ni.niMlstate = .openrcv ∧ x.ni.niMltimer = false

section Handlers

variable {x x' : Link} {rx : Option Heard} {p : Params} {ids : IdSource}

/-- A close is sent, or nothing, where there is no link. -/
theorem change_away (hx : Sensible x) (ha : x.ni.niMlstate.active = false) (evs : List Ev) (hevs : ∀ ev ∈ evs, ev.Quiet)
    (hni : x'.ni.niMlstate = x.ni.niMlstate ∧ x'.ni.niMltimer = x.ni.niMltimer) (hlog : x'.log = evs ++ x.log) :
    Change rx x x' := by
  refine .away evs ?_ hevs hlog
  rw [hni.1, hni.2]
  cases hst : x.ni.niMlstate with
  | holding => exact .inl rfl
  | idle => exact .inr ⟨rfl, hx.idle hst⟩
  | opensnt | openrcv | confirmrcv | established =>
    rw [hst] at ha
    cases ha

theorem change_close (hx : Sensible x) (ha : x.ni.niMlstate.active = false) (localid peerid reason : BitVec 16) :
    Change rx x (sendAction x .close localid peerid reason) :=
  change_away hx ha [.sent { subtype := .close, localid := localid, peerid := peerid, reason := reason }]
    (fun ev hev => by rw [List.mem_singleton.1 hev]; rfl) ⟨rfl, rfl⟩ rfl

theorem change_same (hx : Sensible x) (hni : x'.ni = x.ni) (hlog : x'.log = x.log) : Change rx x x' := by
  cases ha : x.ni.niMlstate.active with
  | false => exact change_away hx ha [] nofun ⟨by rw [hni], by rw [hni]⟩ hlog
  | true => exact .stay [] ha (by rw [hni]) (by rw [hni]) (by rw [hni]) (.inl (by rw [hni])) .silent hlog

theorem change_closeLink (hlog : x'.log = x.log) (localid peerid reason : BitVec 16) :
    Change rx x (closeLink p x' localid peerid reason) := by
  refine .away [.sent { subtype := .close, localid := localid, peerid := peerid, reason := reason }] (.inl ?_) ?_ ?_
  · simp [closeLink, meshPeerTimeoutSetup]
  · intro ev hev
    rw [List.mem_singleton.1 hev]
    rfl
  · rw [← hlog]
    exact meshLinkchange_log ..

theorem change_confirm (hs : x.ni.niMlstate.answered = true) :
    Change rx x (sendAction x .confirm x.ni.niMlpid x.ni.niMllid 0) := by
  have hact : x.ni.niMlstate.active = true := by
    cases hst : x.ni.niMlstate <;> rw [hst] at hs <;> first | rfl | cases hs
  exact .stay [sentConfirm x.ni] hact rfl rfl rfl (.inl rfl) (.confirms hs) rfl

theorem change_recvOpen (hx : Sensible x) {ie : MeshpeerIe} (h0 : ie.peerLinkid = 0)
    (hrx : rx = some { subtype := .open, llinkid := ie.peerLlinkid, linkid := ie.peerLinkid }) :
    Change rx x (recvMeshpeeringOpen p ids ie x) := by
  unfold recvMeshpeeringOpen
  cases hst : x.ni.niMlstate with
  | idle =>
    have hact : x.ni.niMlstate.active = false := by rw [hst]; rfl
    dsimp only
    split_ifs with hmax hid
    · exact change_close hx hact ..
    · refine .lost hst ?_ ⟨_, hrx⟩ hid ?_ (meshLinkchange_log ..)
      · simp
      · simpa using hx.idle hst
    · refine .start _ hst (.inr ⟨?_, _, hrx⟩) hid (.answers hid ?_) ?_
      · simp [meshPeerTimeoutSetup, sendAction]
      · simp [meshPeerTimeoutSetup, sendAction, Mlstate.answered]
      · simp [meshPeerTimeoutSetup, sendAction, sentConfirm, sentOpen]
  | openrcv =>
    dsimp only
    split_ifs with hne
    · exact change_closeLink rfl ..
    · exact change_confirm (by rw [hst]; rfl)
  | opensnt =>
    refine .learn hst ?_ ?_ ⟨ie.peerLinkid, ?_⟩ ?_
    · simp
    · simp
    · simpa using hrx
    · simp [sendAction, sentConfirm]
  | confirmrcv =>
    dsimp only
    split_ifs with hne
    · exact change_closeLink rfl ..
    · -- an OPEN carries no link id of the receiver
      obtain ⟨hp, -⟩ := not_or.1 hne
      have hzero := hx.zero ((not_not.1 hp).trans h0) (by rw [hst]; rfl)
      rw [hst] at hzero
      cases hzero.1
  | established =>
    dsimp only
    split_ifs with hne
    · exact change_closeLink rfl ..
    · exact change_confirm (by rw [hst]; rfl)
  | holding => exact change_close hx (by rw [hst]; rfl) ..

theorem change_recvConfirm (hx : Sensible x) {ie : MeshpeerIe}
    (hrx : rx = some { subtype := .confirm, llinkid := ie.peerLlinkid, linkid := ie.peerLinkid })
    (hm : x.ni.niMlstate = .openrcv → ie.peerLinkid = x.ni.niMlpid ∧ ie.peerLlinkid = x.ni.niMllid) :
    Change rx x (recvMeshpeeringConfirm p ie x) := by
  unfold recvMeshpeeringConfirm
  cases hst : x.ni.niMlstate with
  | openrcv =>
    obtain ⟨hlinkid, hllinkid⟩ := hm hst
    refine .establish hst ?_ ?_ ?_ ?_ (meshLinkchange_log ..)
    · simp [meshPeerTimeoutStop]
    · simp [meshPeerTimeoutStop]
    · simp [meshPeerTimeoutStop]
    · rw [hrx, hlinkid, hllinkid]
  | opensnt =>
    refine .wait hst ?_ ?_ (meshLinkchange_log ..)
    · simp [meshPeerTimeoutSetup]
    · simp [meshPeerTimeoutSetup]
  | holding => exact change_close hx (by rw [hst]; rfl) ..
  | confirmrcv =>
    dsimp only
    split_ifs
    · exact change_closeLink rfl ..
    · exact change_same hx rfl rfl
  | idle | established => exact change_same hx rfl rfl

theorem change_recvClose (hx : Sensible x) : Change rx x (recvMeshpeeringClose p x) := by
  unfold recvMeshpeeringClose
  cases hst : x.ni.niMlstate with
  | idle => exact change_same hx rfl rfl
  | openrcv | opensnt | confirmrcv | established => exact change_closeLink rfl ..
  | holding =>
    refine .away [] (.inr ⟨?_, rfl⟩) nofun (meshLinkchange_log ..)
    simp [meshPeerTimeoutStop]

theorem change_reject (hx : Sensible x) (arg : BitVec 16) (subtype : Subtype) : Change rx x (rejectFrame p arg subtype x) := by
  unfold rejectFrame
  cases hst : x.ni.niMlstate with
  | idle | established | holding => exact change_same hx rfl rfl
  | opensnt | openrcv | confirmrcv => exact change_closeLink rfl ..

/-- **A beacon** of the peer. -/
theorem change_beacon (hx : Sensible x) : Change rx x (recvBeacon p ids x) := by
  unfold recvBeacon
  cases hst : x.ni.niMlstate with
  | idle =>
    have hact : x.ni.niMlstate.active = false := by rw [hst]; rfl
    dsimp only
    split_ifs with hmax hid
    · exact change_same hx rfl rfl
    · exact change_away hx hact [] nofun ⟨rfl, rfl⟩ rfl
    · refine .start [_] hst (.inl ?_) ?_ (.opens ?_) ?_
      · simp [meshPeerTimeoutSetup]
      · simpa [meshPeerTimeoutSetup] using hid
      · simpa [meshPeerTimeoutSetup] using hid
      · simp [meshPeerTimeoutSetup, sendAction, sentOpen]
  | opensnt | openrcv | confirmrcv | established | holding => exact change_same hx rfl rfl

/-- **The timer** of the link. -/
theorem change_timeout (hx : Sensible x) (ht : x.ni.niMltimer = true) (arg : BitVec 16) (r : BitVec 32) :
    Change rx x (meshPeerTimeoutCb p arg r x.due) := by
  have hid : x.ni.niMlstate.active = true → x.ni.niMlpid ≠ 0 := by
    intro hact h0
    exact absurd (ht.symm.trans (hx.zero h0 hact).2) (by decide)
  have hdue : x.due.ni.niMlstate = x.ni.niMlstate := rfl
  unfold meshPeerTimeoutCb
  rw [hdue]
  cases hst : x.ni.niMlstate with
  | idle => exact .away [] (.inr ⟨hst, rfl⟩) nofun rfl
  | established =>
    have hact : x.ni.niMlstate.active = true := by rw [hst]; rfl
    exact .stay [] hact rfl rfl rfl (.inr (hid hact)) .silent rfl
  | opensnt | openrcv =>
    have hact : x.ni.niMlstate.active = true := by rw [hst]; rfl
    dsimp only
    split_ifs
    · refine .away [_] (.inl ?_) ?_ (meshLinkchange_log ..)
      · simp [meshPeerTimeoutSetup]
      · intro ev hev
        rw [List.mem_singleton.1 hev]
        rfl
    · exact .stay [_] hact rfl rfl rfl (.inr (hid hact)) (.opens (hid hact)) rfl
  | confirmrcv =>
    have hlog : x.due.log = x.log := rfl
    exact change_closeLink hlog ..
  | holding =>
    refine .away [] (.inr ⟨?_, ?_⟩) nofun ?_
    · simp
    · dsimp only
      split_ifs <;> simp [Link.due]
    · dsimp only
      split_ifs <;> simp [Link.due]

end Handlers

/-! ## One end of the link -/

def Ev.told : Ev → Option (LinkId × LinkId)
  | .sent msg => if msg.subtype = .confirm ∧ msg.localid ≠ 0 then some (msg.localid, msg.peerid) else none
  | .drew _ => none

def told (log : List Ev) : List (LinkId × LinkId) := log.filterMap Ev.told

def Link.toEnd (x : Link) : TwoEnds.End LinkId where
  own := if x.ni.niMlstate.active = true ∧ x.ni.niMlpid ≠ 0 then some x.ni.niMlpid else none
  peer := if x.ni.niMlstate.answered = true then some x.ni.niMllid else none
  heard := decide (x.ni.niMlstate = .established)
  used := drawn x.log
  told := told x.log

/-- **One end of the link**, where `known` are the peer's link ids. -/
structure SideInv (known : List LinkId) (side : Side) : Prop extends Sensible side.link where
  opens : ∀ msg, .sent msg ∈ side.link.log → msg.subtype = .open → msg.localid ∈ drawn side.link.log
  confirms : ∀ msg, .sent msg ∈ side.link.log → msg.subtype = .confirm → msg.peerid ∈ known
  mllid : side.link.ni.niMlstate.answered = true → side.link.ni.niMllid ∈ known
  took : side.link.ni.niMlstate.answered = true →
    ∃ linkid, { subtype := .open, llinkid := side.link.ni.niMllid, linkid := linkid } ∈ side.attempt
  confirmed : side.link.ni.niMlstate = .established →
    { subtype := .confirm, llinkid := side.link.ni.niMllid, linkid := side.link.ni.niMlpid } ∈ side.attempt

structure FromPeer (peer : Link) (rx : Option Heard) : Prop where
  «open» : ∀ h ∈ rx, h.subtype = .open → h.llinkid ∈ drawn peer.log
  confirm : ∀ h ∈ rx, h.subtype = .confirm → ∃ reason,
    .sent { subtype := .confirm, localid := h.llinkid, peerid := h.linkid, reason := reason } ∈ peer.log

section Ends

variable {peer x x' : Link} {rx : Option Heard} {evs : List Ev} {log : List Ev} {ni : Node}

theorem quiet_drawn (h : ∀ ev ∈ evs, ev.Quiet) : drawn (evs ++ log) = drawn log := by
  unfold drawn
  rw [List.filterMap_append, List.filterMap_eq_nil_iff.2, List.nil_append]
  intro ev hev
  cases ev with
  | sent msg => rfl
  | drew id => exact (h _ hev).elim

theorem quiet_told (h : ∀ ev ∈ evs, ev.Quiet) : told (evs ++ log) = told log := by
  unfold told
  rw [List.filterMap_append, List.filterMap_eq_nil_iff.2, List.nil_append]
  intro ev hev
  cases ev with
  | sent msg =>
    have hc : msg.subtype = .close := h _ hev
    simp [Ev.told, hc]
  | drew id => exact (h _ hev).elim

theorem quiet_sent (h : ∀ ev ∈ evs, ev.Quiet) {msg : Msg} (hm : .sent msg ∈ evs ++ log) (hc : msg.subtype ≠ .close) :
    .sent msg ∈ log := by
  rcases List.mem_append.1 hm with hm | hm
  · exact absurd (h _ hm) hc
  · exact hm

theorem Speaks.drawn_eq (h : Speaks ni evs) : drawn (evs ++ log) = drawn log := by
  cases h <;> rfl

theorem Speaks.told_mem (h : Speaks ni evs) {c : LinkId × LinkId} (hc : c ∈ told (evs ++ log)) :
    c ∈ told log ∨ ni.niMlpid ≠ 0 ∧ ni.niMlstate.answered = true ∧ c = (ni.niMlpid, ni.niMllid) := by
  unfold told at hc ⊢
  rw [List.filterMap_append] at hc
  rcases List.mem_append.1 hc with hc | hc
  · refine .inr ?_
    obtain ⟨ev, hev, htold⟩ := List.mem_filterMap.1 hc
    cases h with
    | silent => cases hev
    | opens =>
      rw [List.mem_singleton.1 hev] at htold
      cases htold
    | confirms hs =>
      rw [List.mem_singleton.1 hev] at htold
      simp only [sentConfirm, Ev.told, true_and, Option.ite_none_right_eq_some, Option.some.injEq] at htold
      exact ⟨htold.1, hs, htold.2.symm⟩
    | answers h0 hs =>
      simp only [List.mem_cons, List.not_mem_nil, or_false] at hev
      rcases hev with rfl | rfl
      · simp only [sentConfirm, Ev.told, true_and, Option.ite_none_right_eq_some, Option.some.injEq] at htold
        exact ⟨htold.1, hs, htold.2.symm⟩
      · cases htold
  · exact .inl hc

theorem told_append {c : LinkId × LinkId} (hc : c ∈ told log) : c ∈ told (evs ++ log) := by
  unfold told at hc ⊢
  rw [List.filterMap_append]
  exact List.mem_append_right _ hc

theorem Speaks.open_eq (h : Speaks ni evs) {msg : Msg} (hm : .sent msg ∈ evs) (hs : msg.subtype = .open) :
    msg.localid = ni.niMlpid ∧ ni.niMlpid ≠ 0 := by
  cases h with
  | silent => cases hm
  | opens h0 =>
    cases List.mem_singleton.1 hm
    exact ⟨rfl, h0⟩
  | confirms =>
    cases List.mem_singleton.1 hm
    cases hs
  | answers h0 =>
    simp only [List.mem_cons, List.not_mem_nil, or_false] at hm
    rcases hm with hm | hm
    · cases hm
      cases hs
    · cases hm
      exact ⟨rfl, h0⟩

theorem Speaks.confirm_eq (h : Speaks ni evs) {msg : Msg} (hm : .sent msg ∈ evs) (hs : msg.subtype = .confirm) :
    msg.peerid = ni.niMllid ∧ ni.niMlstate.answered = true := by
  cases h with
  | silent => cases hm
  | opens =>
    cases List.mem_singleton.1 hm
    cases hs
  | confirms ha =>
    cases List.mem_singleton.1 hm
    exact ⟨rfl, ha⟩
  | answers _ ha =>
    simp only [List.mem_cons, List.not_mem_nil, or_false] at hm
    rcases hm with hm | hm
    · cases hm
      exact ⟨rfl, ha⟩
    · cases hm
      cases hs

theorem own_eq (ha : x.ni.niMlstate.active = true) (h0 : x.ni.niMlpid ≠ 0) : x.toEnd.own = some x.ni.niMlpid :=
  if_pos ⟨ha, h0⟩

theorem peer_eq (ha : x.ni.niMlstate.answered = true) : x.toEnd.peer = some x.ni.niMllid := if_pos ha

theorem answered_active {state : Mlstate} (h : state.answered = true) : state.active = true := by
  cases state <;> first | rfl | cases h

theorem Speaks.said (h : Speaks x'.ni evs) (hlog : x'.log = evs ++ log) (hold : told log = told x.log)
    (hmllid : x'.ni.niMlstate.answered = true → x'.ni.niMllid ∈ drawn peer.log) :
    TwoEnds.Said peer.toEnd x.toEnd x'.toEnd where
  old c hc := by
    show c ∈ told x'.log
    rw [hlog]
    refine told_append ?_
    rw [hold]
    exact hc
  new c hc := by
    have hc' : c ∈ told (evs ++ log) := hlog ▸ hc
    rcases h.told_mem hc' with hm | ⟨h0, ha, rfl⟩
    · rw [hold] at hm
      exact .inl hm
    · exact .inr ⟨own_eq (answered_active ha) h0, peer_eq ha, hmllid ha⟩

/-- **An operation moves the end.** -/
theorem Change.move {side : Side} (h : Change rx side.link x') (hi : SideInv (drawn peer.log) side)
    (hrx : FromPeer peer rx) (hfresh : (0 :: drawn side.link.log).Nodup) (hfresh' : (0 :: drawn x'.log).Nodup)
    (hpeer : (0 :: drawn peer.log).Nodup) (hback : ∀ msg, .sent msg ∈ peer.log → msg.subtype = .confirm →
      msg.peerid ∈ drawn side.link.log) : TwoEnds.Move peer.toEnd side.link.toEnd x'.toEnd := by
  have htook : TookOpen x'.ni rx → x'.ni.niMllid ∈ drawn peer.log := by
    rintro ⟨linkid, hrx'⟩
    exact hrx.open _ hrx' rfl
  cases h with
  | away evs state quiet log =>
    refine .down ?_ ?_ ?_ ?_
    · refine if_neg fun hc => ?_
      rcases state with hs | ⟨hs, -⟩ <;> rw [hs] at hc <;> exact nomatch hc.1
    · refine decide_eq_false fun hc => ?_
      rcases state with hs | ⟨hs, -⟩ <;> rw [hs] at hc <;> cases hc
    · show drawn x'.log = drawn side.link.log
      rw [log, quiet_drawn quiet]
    · show told x'.log = told side.link.log
      rw [log, quiet_told quiet]
  | stay evs act state mllid mlpid timer speech log =>
    have hown : x'.toEnd.own = side.link.toEnd.own := by
      unfold Link.toEnd
      rw [state, mlpid]
    have hpeer' : x'.toEnd.peer = side.link.toEnd.peer := by
      unfold Link.toEnd
      rw [state, mllid]
    refine .keep hown (.inl hpeer') ?_ ?_ (speech.said log rfl ?_)
    · intro hh
      refine .inl ⟨?_, hpeer'⟩
      unfold Link.toEnd at hh ⊢
      rw [state] at hh
      exact hh
    · show drawn x'.log = drawn side.link.log
      rw [log, speech.drawn_eq]
    · rw [state, mllid]
      exact hi.mllid
  | learn state state' mlpid took log =>
    have hspeech : Speaks x'.ni [sentConfirm x'.ni] := .confirms (by rw [state']; rfl)
    refine .keep ?_ (.inr ?_) ?_ ?_ (hspeech.said log rfl fun _ => htook took)
    · unfold Link.toEnd
      rw [state, state', mlpid]
      rfl
    · unfold Link.toEnd
      rw [state]
      rfl
    · intro hh
      unfold Link.toEnd at hh
      rw [state'] at hh
      cases hh
    · show drawn x'.log = drawn side.link.log
      rw [log]
      rfl
  | wait state state' mlpid log =>
    refine .keep ?_ (.inr ?_) ?_ ?_ (Speaks.silent.said log rfl ?_)
    · unfold Link.toEnd
      rw [state, state', mlpid]
      rfl
    · unfold Link.toEnd
      rw [state]
      rfl
    · intro hh
      unfold Link.toEnd at hh
      rw [state'] at hh
      cases hh
    · show drawn x'.log = drawn side.link.log
      rw [log]
    · intro ha
      rw [state'] at ha
      cases ha
  | establish state state' mllid mlpid took log =>
    obtain ⟨reason, hsent⟩ := hrx.confirm _ took rfl
    have hknown : side.link.ni.niMllid ∈ drawn peer.log := hi.mllid (by rw [state]; rfl)
    have h0 : side.link.ni.niMllid ≠ 0 := fun h => (List.nodup_cons.1 hpeer).1 (h ▸ hknown)
    have hmlpid : side.link.ni.niMlpid ≠ 0 := fun h => (List.nodup_cons.1 hfresh).1 (h ▸ hback _ hsent rfl)
    refine .keep ?_ (.inl ?_) ?_ ?_ (Speaks.silent.said log rfl ?_)
    · unfold Link.toEnd
      rw [state, state', mlpid]
      rfl
    · unfold Link.toEnd
      rw [state, state', mllid]
      rfl
    · intro _
      refine .inr ⟨side.link.ni.niMlpid, side.link.ni.niMllid, ?_, ?_, ?_⟩
      · rw [← mlpid]
        exact own_eq (by rw [state']; rfl) (by rw [mlpid]; exact hmlpid)
      · rw [← mllid]
        exact peer_eq (by rw [state']; rfl)
      · exact List.mem_filterMap.2 ⟨_, hsent, if_pos ⟨rfl, h0⟩⟩
    · show drawn x'.log = drawn side.link.log
      rw [log]
    · intro _
      rw [mllid]
      exact hknown
  | start evs idle state mlpid speech log =>
    have hdrawn : drawn x'.log = x'.ni.niMlpid :: drawn side.link.log := by
      rw [log, speech.drawn_eq]
      rfl
    have hact : x'.ni.niMlstate.active = true := by
      rcases state with hs | ⟨hs, -⟩ <;> rw [hs] <;> rfl
    refine .start x'.ni.niMlpid (own_eq hact mlpid) ?_ ?_ hdrawn (speech.said log rfl ?_)
    · rw [hdrawn] at hfresh'
      exact (List.nodup_cons.1 (List.nodup_cons.1 hfresh').2).1
    · refine decide_eq_false fun hc => ?_
      rcases state with hs | ⟨hs, -⟩ <;> rw [hs] at hc <;> cases hc
    · intro ha
      rcases state with hs | ⟨-, took⟩
      · rw [hs] at ha
        cases ha
      · exact htook took
  | lost idle state took mlpid timer log =>
    refine .down (if_neg fun hc => hc.2 mlpid) ?_ ?_ ?_
    · refine decide_eq_false fun hc => ?_
      rw [state] at hc
      cases hc
    · show drawn x'.log = drawn side.link.log
      rw [log]
    · show told x'.log = told side.link.log
      rw [log]

theorem going_eq {side : Side} (h : side.link.ni.niMlstate.active = true) : side.going = side.attempt := by
  refine if_neg fun hst => ?_
  rw [hst] at h
  cases h

theorem TookOpen.mem (h : TookOpen ni rx) (rest : List Heard) :
    ∃ linkid, { subtype := .open, llinkid := ni.niMllid, linkid := linkid } ∈ rx.toList ++ rest := by
  obtain ⟨linkid, rfl⟩ := h
  exact ⟨linkid, List.mem_cons_self⟩

theorem Speaks.opens_mem (h : Speaks ni evs) {msg : Msg} (hm : .sent msg ∈ evs ++ log) (hs : msg.subtype = .open) :
    .sent msg ∈ log ∨ msg.localid = ni.niMlpid ∧ ni.niMlpid ≠ 0 := by
  rcases List.mem_append.1 hm with hm | hm
  · exact .inr (h.open_eq hm hs)
  · exact .inl hm

theorem Speaks.confirms_mem (h : Speaks ni evs) {msg : Msg} (hm : .sent msg ∈ evs ++ log) (hs : msg.subtype = .confirm) :
    .sent msg ∈ log ∨ msg.peerid = ni.niMllid ∧ ni.niMlstate.answered = true := by
  rcases List.mem_append.1 hm with hm | hm
  · exact .inr (h.confirm_eq hm hs)
  · exact .inl hm

/-- **The end where it happens.** -/
theorem Change.sideInv {side : Side} {known : List LinkId} (h : Change rx side.link x') (hi : SideInv known side)
    (hlive : ∀ a, side.link.toEnd.own = some a → a ∈ drawn side.link.log) (hrx : TookOpen x'.ni rx → x'.ni.niMllid ∈ known)
    (hconf : ∀ h ∈ rx, h.subtype = .confirm → h.linkid ≠ 0) :
    SideInv known { link := x', attempt := rx.toList ++ side.going } := by
  cases h with
  | away evs state quiet log =>
    have hnot : ¬ x'.ni.niMlstate.active = true := by
      intro hc
      rcases state with hs | ⟨hs, -⟩ <;> rw [hs] at hc <;> cases hc
    refine ⟨⟨?_, ?_⟩, ?_, ?_, ?_, ?_, ?_⟩
    · intro hs
      rcases state with hs' | ⟨-, ht⟩
      · exact nomatch hs'.symm.trans hs
      · exact ht
    · intro _ hc
      exact absurd hc hnot
    · intro msg hm hs
      dsimp only at hm ⊢
      rw [log] at hm ⊢
      rw [quiet_drawn quiet]
      exact hi.opens msg (quiet_sent quiet hm (by rw [hs]; decide)) hs
    · intro msg hm hs
      dsimp only at hm
      rw [log] at hm
      exact hi.confirms msg (quiet_sent quiet hm (by rw [hs]; decide)) hs
    · intro hc
      exact absurd (answered_active hc) hnot
    · intro hc
      exact absurd (answered_active hc) hnot
    · intro hc
      dsimp only at hc
      exact absurd (by rw [hc]; rfl) hnot
  | stay evs act state mllid mlpid timer speech log =>
    have hgoing := going_eq act
    refine ⟨⟨?_, ?_⟩, ?_, ?_, ?_, ?_, ?_⟩
    · intro hs
      dsimp only at hs
      rw [state] at hs
      rw [hs] at act
      cases act
    · intro h0 _
      dsimp only at h0 ⊢
      rw [mlpid] at h0
      obtain ⟨hopen, htimer⟩ := hi.zero h0 act
      rcases timer with ht | ht
      · exact ⟨state.trans hopen, ht.trans htimer⟩
      · exact absurd h0 ht
    · intro msg hm hs
      dsimp only at hm ⊢
      rw [log] at hm ⊢
      rw [speech.drawn_eq]
      rcases speech.opens_mem hm hs with hm | ⟨he, h0⟩
      · exact hi.opens msg hm hs
      · rw [he, mlpid]
        rw [mlpid] at h0
        exact hlive _ (own_eq act h0)
    · intro msg hm hs
      dsimp only at hm
      rw [log] at hm
      rcases speech.confirms_mem hm hs with hm | ⟨he, ha⟩
      · exact hi.confirms msg hm hs
      · rw [he, mllid]
        rw [state] at ha
        exact hi.mllid ha
    · intro ha
      dsimp only at ha ⊢
      rw [mllid]
      exact hi.mllid (state ▸ ha)
    · intro ha
      dsimp only at ha ⊢
      rw [mllid, hgoing]
      obtain ⟨linkid, hm⟩ := hi.took (state ▸ ha)
      exact ⟨linkid, List.mem_append_right _ hm⟩
    · intro he
      dsimp only at he ⊢
      rw [mllid, mlpid, hgoing]
      exact List.mem_append_right _ (hi.confirmed (state ▸ he))
  | learn state state' mlpid took log =>
    have hspeech : Speaks x'.ni [sentConfirm x'.ni] := .confirms (by rw [state']; rfl)
    have hid : x'.ni.niMlpid ≠ 0 := by
      intro h0
      have hzero := hi.zero (mlpid.symm.trans h0) (by rw [state]; rfl)
      exact nomatch state.symm.trans hzero.1
    refine ⟨⟨?_, ?_⟩, ?_, ?_, ?_, ?_, ?_⟩
    · intro hs
      exact nomatch state'.symm.trans hs
    · intro h0
      exact absurd h0 hid
    · intro msg hm hs
      dsimp only at hm ⊢
      rw [log] at hm ⊢
      rcases hspeech.opens_mem hm hs with hm | ⟨he, h0⟩
      · exact hi.opens msg hm hs
      · rw [he, mlpid]
        rw [mlpid] at h0
        exact hlive _ (own_eq (by rw [state]; rfl) h0)
    · intro msg hm hs
      dsimp only at hm
      rw [log] at hm
      rcases hspeech.confirms_mem hm hs with hm | ⟨he, -⟩
      · exact hi.confirms msg hm hs
      · rw [he]
        exact hrx took
    · intro _
      exact hrx took
    · intro _
      exact took.mem _
    · intro he
      exact nomatch state'.symm.trans he
  | wait state state' mlpid log =>
    refine ⟨⟨?_, ?_⟩, ?_, ?_, ?_, ?_, ?_⟩
    · intro hs
      exact nomatch state'.symm.trans hs
    · intro h0 _
      have hzero := hi.zero (mlpid.symm.trans h0) (by rw [state]; rfl)
      exact nomatch state.symm.trans hzero.1
    · intro msg hm hs
      dsimp only at hm ⊢
      rw [log] at hm ⊢
      exact hi.opens msg hm hs
    · intro msg hm hs
      dsimp only at hm
      rw [log] at hm
      exact hi.confirms msg hm hs
    · intro ha
      dsimp only at ha
      rw [state'] at ha
      cases ha
    · intro ha
      dsimp only at ha
      rw [state'] at ha
      cases ha
    · intro he
      exact nomatch state'.symm.trans he
  | establish state state' mllid mlpid took log =>
    have hact : side.link.ni.niMlstate.active = true := by rw [state]; rfl
    have hans : side.link.ni.niMlstate.answered = true := by rw [state]; rfl
    refine ⟨⟨?_, ?_⟩, ?_, ?_, ?_, ?_, ?_⟩
    · intro hs
      exact nomatch state'.symm.trans hs
    · intro h0
      exact absurd (mlpid.symm.trans h0) (hconf _ took rfl)
    · intro msg hm hs
      dsimp only at hm ⊢
      rw [log] at hm ⊢
      exact hi.opens msg hm hs
    · intro msg hm hs
      dsimp only at hm
      rw [log] at hm
      exact hi.confirms msg hm hs
    · intro _
      dsimp only
      rw [mllid]
      exact hi.mllid hans
    · intro _
      dsimp only
      rw [mllid, going_eq hact]
      obtain ⟨linkid, hm⟩ := hi.took hans
      exact ⟨linkid, List.mem_append_right _ hm⟩
    · intro _
      dsimp only
      rw [mllid, mlpid, took]
      exact List.mem_cons_self
  | start evs idle state mlpid speech log =>
    have hdrawn : drawn x'.log = x'.ni.niMlpid :: drawn side.link.log := by
      rw [log, speech.drawn_eq]
      rfl
    have hne : x'.ni.niMlstate ≠ .established := by
      intro he
      rcases state with hs | ⟨hs, -⟩ <;> exact nomatch hs.symm.trans he
    have htook : x'.ni.niMlstate.answered = true → TookOpen x'.ni rx := by
      intro ha
      rcases state with hs | ⟨-, took⟩
      · rw [hs] at ha
        cases ha
      · exact took
    refine ⟨⟨?_, ?_⟩, ?_, ?_, ?_, ?_, ?_⟩
    · intro hs
      rcases state with hs' | ⟨hs', -⟩ <;> exact nomatch hs'.symm.trans hs
    · intro h0
      exact absurd h0 mlpid
    · intro msg hm hs
      dsimp only at hm ⊢
      rw [hdrawn]
      rw [log] at hm
      rcases speech.opens_mem hm hs with hm | ⟨he, -⟩
      · rcases List.mem_cons.1 hm with hm | hm
        · cases hm
        · exact List.mem_cons_of_mem _ (hi.opens msg hm hs)
      · rw [he]
        exact List.mem_cons_self
    · intro msg hm hs
      dsimp only at hm
      rw [log] at hm
      rcases speech.confirms_mem hm hs with hm | ⟨he, ha⟩
      · rcases List.mem_cons.1 hm with hm | hm
        · cases hm
        · exact hi.confirms msg hm hs
      · rw [he]
        exact hrx (htook ha)
    · intro ha
      exact hrx (htook ha)
    · intro ha
      exact (htook ha).mem _
    · intro he
      exact absurd he hne
  | lost idle state took mlpid timer log =>
    refine ⟨⟨?_, ?_⟩, ?_, ?_, ?_, ?_, ?_⟩
    · intro hs
      exact nomatch state.symm.trans hs
    · intro _ _
      exact ⟨state, timer⟩
    · intro msg hm hs
      dsimp only at hm ⊢
      rw [log] at hm ⊢
      exact hi.opens msg hm hs
    · intro msg hm hs
      dsimp only at hm
      rw [log] at hm
      exact hi.confirms msg hm hs
    · intro _
      exact hrx took
    · intro _
      exact took.mem _
    · intro he
      exact nomatch state.symm.trans he

end Ends

/-! ## Both ends -/

section Both

variable {s s' : Stations} {i : Who × SideOp} {peer side : Side} {op : SideOp}

/-- **The invariant** of the two stations. -/
structure Inv (s : Stations) : Prop where
  fresh : ∀ w, Fresh (s w)
  side : ∀ w, SideInv (drawn (s w.other).link.log) (s w)
  paired : ∀ w, TwoEnds.Paired (s w).link.toEnd (s w.other).link.toEnd

def SideOp.taken : SideOp → Option Heard
  | .receive env elems msg => heardOf env elems msg
  | .beacon _ _ | .timeout _ _ _ | .neighbors _ => none

theorem heardOf_eq {env : RxEnv} {elems : List Element} {msg : Msg} {h : Heard}
    (hes : ∀ e ∈ elems, e.id ≠ IEEE80211_ELEMID_MESHPEER) (hh : heardOf env elems msg = some h) :
    h = { subtype := msg.subtype, llinkid := msg.localid
          linkid := (takeMeshpeer msg.subtype (addMeshpeer msg)).peerLinkid } := by
  unfold heardOf at hh
  cases hv : verdict env.params env.mp msg.subtype (frameOf elems msg) with
  | accepted ie =>
    rw [hv] at hh
    cases accepted_frame hes hv
    dsimp only at hh
    rw [takeMeshpeer_llinkid] at hh
    exact (Option.some.inj hh).symm
  | rejected =>
    rw [hv] at hh
    cases hh
  | ignored =>
    rw [hv] at hh
    cases hh

/-- **What is taken is what the peer said.** -/
theorem taken_fromPeer (hcan : op.Can peer side) (hp : ∀ msg, .sent msg ∈ peer.link.log → msg.subtype = .open →
    msg.localid ∈ drawn peer.link.log) : FromPeer peer.link op.taken := by
  cases op with
  | beacon | timeout | neighbors => exact ⟨nofun, nofun⟩
  | receive env elems msg =>
    obtain ⟨hsent, hes⟩ := hcan
    refine ⟨?_, ?_⟩
    · intro h hh hs
      obtain rfl := heardOf_eq hes hh
      exact hp msg hsent hs
    · intro h hh hs
      obtain rfl := heardOf_eq hes hh
      have hsub : msg.subtype = .confirm := hs
      refine ⟨msg.reason, ?_⟩
      dsimp only
      rw [hsub, takeMeshpeer_confirm hsub, ← hsub]
      exact hsent

/-- **One lemma for the operations.** -/
theorem run_change (hx : Sensible side.link) (hcan : op.Can peer side)
    (hm : side.link.ni.niMlstate = .openrcv → ∀ h ∈ op.taken, h.subtype = .confirm →
      h.linkid = side.link.ni.niMlpid ∧ h.llinkid = side.link.ni.niMllid) :
    Change op.taken side.link (op.run side).link := by
  cases op with
  | beacon p ids => exact change_beacon hx
  | timeout p arg r => exact change_timeout hx hcan arg r
  | neighbors n => exact change_same hx rfl rfl
  | receive env elems msg =>
    show Change (heardOf env elems msg) side.link (recvActionMeshpeering env msg.subtype (frameOf elems msg) side.link)
    unfold recvActionMeshpeering
    cases hv : verdict env.params env.mp msg.subtype (frameOf elems msg) with
    | ignored => exact change_same hx rfl rfl
    | rejected => exact change_reject hx ..
    | accepted ie =>
      have hrx : heardOf env elems msg = some { subtype := msg.subtype, llinkid := ie.peerLlinkid, linkid := ie.peerLinkid } := by
        unfold heardOf
        rw [hv]
      cases hsub : msg.subtype with
      | «open» =>
        refine change_recvOpen hx ?_ (hsub ▸ hrx)
        have hie := accepted_frame hcan.2 hv
        rw [hie, hsub]
        rfl
      | confirm =>
        refine change_recvConfirm hx (hsub ▸ hrx) fun hst => ?_
        exact hm hst _ hrx hsub
      | close => exact change_recvClose hx

theorem run_attempt (side : Side) (op : SideOp) : (op.run side).attempt = op.taken.toList ++ side.going := by
  cases op <;> rfl

theorem Fresh.ne_zero (h : Fresh side) {id : LinkId} (hm : id ∈ drawn side.link.log) : id ≠ 0 :=
  fun h0 => (List.nodup_cons.1 h).1 (h0 ▸ hm)

theorem other_other (w : Who) : w.other.other = w := by cases w <;> rfl

theorem other_ne (w : Who) : w.other ≠ w := by cases w <;> decide

theorem ne_iff_other {v w : Who} : v ≠ w ↔ v = w.other := by cases v <;> cases w <;> decide

theorem strangers_inv (h : Strangers s) : Inv s := by
  refine ⟨?_, ?_, ?_⟩
  · intro w
    unfold Fresh
    rw [(h w).2.2]
    exact List.pairwise_singleton _ _
  · intro w
    obtain ⟨hst, ht, hl⟩ := h w
    have hans : (s w).link.ni.niMlstate.answered ≠ true := by
      rw [hst]
      decide
    refine ⟨⟨fun _ => ht, ?_⟩, ?_, ?_, fun ha => absurd ha hans, fun ha => absurd ha hans, ?_⟩
    · intro _ hact
      rw [hst] at hact
      cases hact
    · intro msg hm
      rw [hl] at hm
      cases hm
    · intro msg hm
      rw [hl] at hm
      cases hm
    · intro he
      exact nomatch hst.symm.trans he
  · have hend : ∀ w, (s w).link.toEnd = { own := none, peer := none, heard := false, used := [], told := [] } := by
      intro w
      obtain ⟨hst, -, hl⟩ := h w
      unfold Link.toEnd
      rw [hst, hl]
      rfl
    intro w
    rw [hend, hend]
    refine ⟨⟨nofun, nofun, nofun, nofun⟩, ⟨nofun, nofun, nofun, nofun⟩, nofun⟩

theorem nextSide_eq (h : SideStep s i s') : i.2.Can (s i.1.other) (s i.1) ∧ Fresh (i.2.run (s i.1)) ∧
    s' = Function.update s i.1 (i.2.run (s i.1)) := by
  unfold SideStep nextSide at h
  split_ifs at h with hv
  exact ⟨hv.1, hv.2, (Option.some.inj h).symm⟩

/-- **One step.** -/
theorem step_inv (hi : Inv s) (hok : Matched s i) (h : SideStep s i s') : Inv s' := by
  obtain ⟨w, op⟩ := i
  obtain ⟨hcan, hfresh, rfl⟩ := nextSide_eq h
  dsimp only at hcan hfresh ⊢
  have hside := hi.side w
  have hpeer : SideInv (drawn (s w).link.log) (s w.other) := by
    have h := hi.side w.other
    rwa [other_other] at h
  have hrx := taken_fromPeer hcan hpeer.opens
  have hc : Change op.taken (s w).link (op.run (s w)).link := by
    refine run_change hside.toSensible hcan ?_
    cases op with
    | beacon | timeout | neighbors => exact nofun
    | receive env elems msg => exact hok
  have hmove := hc.move hside hrx (hi.fresh w) hfresh (hi.fresh w.other) hpeer.confirms
  have hnew : SideInv (drawn (s w.other).link.log) (op.run (s w)) := by
    have h := hc.sideInv hside ?_ ?_ ?_
    · rwa [← run_attempt] at h
    · intro a ha
      exact List.mem_of_mem_head? ((hi.paired w).left.live a ha)
    · rintro ⟨linkid, htook⟩
      exact hrx.open _ htook rfl
    · intro hh hm hs
      obtain ⟨reason, hsent⟩ := hrx.confirm hh hm hs
      exact (hi.fresh w).ne_zero (hpeer.confirms _ hsent rfl)
  have hother : Function.update s w (op.run (s w)) w.other = s w.other := Function.update_of_ne (other_ne w) ..
  have hgrown : SideInv (drawn (op.run (s w)).link.log) (s w.other) :=
    { hpeer with
      confirms := fun msg hm hs => hmove.used_mem (hpeer.confirms msg hm hs)
      mllid := fun ha => hmove.used_mem (hpeer.mllid ha) }
  refine ⟨?_, ?_, ?_⟩
  · intro v
    rcases eq_or_ne v w with rfl | hv
    · rw [Function.update_self]
      exact hfresh
    · rw [Function.update_of_ne hv]
      exact hi.fresh v
  · intro v
    rcases eq_or_ne v w with rfl | hv
    · rw [Function.update_self, hother]
      exact hnew
    · obtain rfl := ne_iff_other.1 hv
      rw [other_other, Function.update_self, hother]
      exact hgrown
  · intro v
    have hp := (hi.paired w).move hmove
    rcases eq_or_ne v w with rfl | hv
    · rw [Function.update_self, hother]
      exact hp
    · obtain rfl := ne_iff_other.1 hv
      rw [other_other, Function.update_self, hother]
      exact hp.symm

theorem Inv.agreement (hi : Inv s) : Agreement s := by
  refine ⟨?_, ?_⟩
  · intro w he
    exact ⟨(hi.side w).took (by rw [he]; rfl), (hi.side w).confirmed he⟩
  · intro ha hb
    have hheard : ∀ w, (s w).link.ni.niMlstate = .established → (s w).link.toEnd.heard = true := fun w h => decide_eq_true h
    obtain ⟨a, b, hoa, hpa, hob, hpb⟩ := (hi.paired .a).agree (hheard .a ha) (hheard .b hb)
    have hown : ∀ w id, (s w).link.toEnd.own = some id → (s w).link.ni.niMlpid = id := by
      intro w id h
      unfold Link.toEnd at h
      dsimp only at h
      split_ifs at h
      exact Option.some.inj h
    have hpeer : ∀ w id, (s w).link.toEnd.peer = some id → (s w).link.ni.niMllid = id := by
      intro w id h
      unfold Link.toEnd at h
      dsimp only at h
      split_ifs at h
      exact Option.some.inj h
    exact ⟨(hpeer .a b hpa).trans (hown .b b hob).symm, (hown .a a hoa).trans (hpeer .b a hpb).symm⟩

end Both

/-- **Established peers agree.**  In every run in which each CONFIRM that is taken after an OPEN names the ids in use,
    an established node took an OPEN with the id it stored and a CONFIRM of both ids, and two established peers hold
    each other's ids. -/
theorem stations_agree {s : Stations} (hr : Reachable Strangers (Guarded Matched SideStep) s) : Agreement s :=
  (hr.invariant (fun _ h => strangers_inv h) fun _ _ _ h hs => step_inv h hs.1 hs.2).agreement

/-! ## Two neighbours -/

def strangers : Stations := fun _ =>
  { link := { ni := .init, msNeighbors := 0, kassert := true, log := [] }, attempt := [] }

theorem strangers_start : Strangers strangers := fun _ => ⟨rfl, rfl, rfl⟩

/-- A handler at one of the two, and the link id that is drawn. -/
def finding (newId : LinkId) : RxEnv :=
  { params := usual, mp := noIe, arg := 0, ids := { others := [], random := [newId] } }

def beacon (newId : LinkId) : SideOp := .beacon usual { others := [], random := [newId] }

def takeOpen (localid newId : LinkId) : SideOp :=
  .receive (finding newId) ownMesh { subtype := .open, localid := localid, peerid := 0, reason := 0 }

def takeConfirm (localid peerid : LinkId) : SideOp :=
  .receive (finding 0) ownMesh { subtype := .confirm, localid := localid, peerid := peerid, reason := 0 }

def timeout : SideOp := .timeout usual 0 0

def links (s : Stations) : (Mlstate × LinkId × LinkId) × Mlstate × LinkId × LinkId :=
  (((s .a).link.ni.niMlstate, (s .a).link.ni.niMlpid, (s .a).link.ni.niMllid),
    (s .b).link.ni.niMlstate, (s .b).link.ni.niMlpid, (s .b).link.ni.niMllid)

/-- `a` hears `b`'s beacon and opens the link; `b` answers, and both confirm. -/
def handshake : List (Who × SideOp) :=
  [(.a, beacon 1), (.b, takeOpen 1 2), (.a, takeOpen 2 0), (.a, takeConfirm 2 1), (.b, takeConfirm 1 2)]

/-- A step that takes no CONFIRM of other ids. -/
def nextMatched (s : Stations) (i : Who × SideOp) : Option Stations := if Matched s i then nextSide s i else none

theorem stations_agree_handshake : ∃ s, Reachable Strangers (Guarded Matched SideStep) s ∧
    links s = ((.established, 1, 2), .established, 2, 1) ∧ Agreement s := by
  have hsteps : ∀ i ∈ handshake, ∀ s s', nextMatched s i = some s' → Guarded Matched SideStep s i s' := by
    intro i _ s s' h
    unfold nextMatched at h
    split_ifs at h with hm
    exact ⟨hm, h⟩
  obtain ⟨s, hr, hs⟩ := exec_observe strangers_start handshake hsteps links
    (show _ = some ((.established, 1, 2), .established, 2, 1) by decide)
  exact ⟨s, hr, hs, stations_agree hr⟩

/-- `b`'s answer is late: `a` gives up, and opens the link again. -/
def lateAnswer : List (Who × SideOp) :=
  [(.a, beacon 1), (.b, takeOpen 1 2), (.a, timeout), (.a, timeout), (.a, timeout), (.a, timeout), (.a, beacon 3),
    (.a, takeOpen 2 0), (.a, takeConfirm 2 1), (.b, takeConfirm 3 2)]

/-- A late CONFIRM of the first attempt establishes the second one: the peers hold different ids. -/
theorem stale_confirm_taken : ∃ s, Reachable Strangers SideStep s ∧
    links s = ((.established, 3, 2), .established, 2, 1) ∧ ¬ Agreement s := by
  have hsteps : ∀ i ∈ lateAnswer, ∀ s s', nextSide s i = some s' → SideStep s i s' := fun _ _ _ _ h => h
  obtain ⟨s, hr, hs⟩ := exec_observe strangers_start lateAnswer hsteps links
    (show _ = some ((.established, 3, 2), .established, 2, 1) by decide)
  refine ⟨s, hr, hs, fun h => ?_⟩
  simp only [links, Prod.mk.injEq] at hs
  obtain ⟨⟨ha, hap, -⟩, hb, -, hbl⟩ := hs
  have hpaired := (h.paired ha hb).2
  rw [hap, hbl] at hpaired
  exact absurd hpaired (by decide)

end Net80211.Mesh.Peering
