import Wifi.Net80211.Mesh.PeeringRuns

/-!
# Mesh peering: an OPEN and a CONFIRM in either order

* `peerOpen`, `peerConfirm` — the two frames of a peer.
* `Peered` — the link is established with the ids of both, and one CONFIRM was sent.
* `open_confirm` — the OPEN comes first; `confirm_open` — the CONFIRM comes first.
* `order_free_iff` — when the two orders end alike.
-/

namespace Net80211.Mesh.Peering

variable {env : RxEnv} {elems : List Element} {l : Link} {p pid : LinkId} {ie : MeshpeerIe}

/-- `mesh_send_action_meshpeering_open`, by a peer with this id -/
def peerOpen (p : LinkId) : Msg := { subtype := .open, localid := p, peerid := 0, reason := 0 }

/-- `mesh_send_action_meshpeering_confirm`, by a peer with this id -/
def peerConfirm (p pid : LinkId) : Msg := { subtype := .confirm, localid := p, peerid := pid, reason := 0 }

/-- A frame with these elements is taken by the receiver. -/
def Taken (env : RxEnv) (elems : List Element) (msg : Msg) : Prop :=
  (∀ e ∈ elems, e.id ≠ IEEE80211_ELEMID_MESHPEER) ∧
    ∃ ie, verdict env.params env.mp msg.subtype (frameOf elems msg) = .accepted ie

/-- **The link is established** with a peer, and one CONFIRM and nothing else was sent. -/
structure Peered (l l' : Link) (p : LinkId) : Prop where
  established : l'.ni.niMlstate = .established
  mllid : l'.ni.niMllid = p
  mlpid : l'.ni.niMlpid = l.ni.niMlpid
  confirmed : l'.log = .sent { subtype := .confirm, localid := l.ni.niMlpid, peerid := p, reason := 0 } :: l.log

/-- What the handler of an OPEN is given: `peer_linkid` is not filled in. -/
theorem recv_open (h : Taken env elems (peerOpen p)) (l : Link) : ∃ ie : MeshpeerIe, ie.peerLlinkid = p ∧ ie.peerLinkid = 0 ∧
    recvActionMeshpeering env .open (frameOf elems (peerOpen p)) l = recvMeshpeeringOpen env.params env.ids ie l := by
  obtain ⟨hes, ie, hie⟩ := h
  have hread := accepted_frame hes hie
  refine ⟨ie, ?_, ?_, ?_⟩
  · rw [hread]
    exact takeMeshpeer_llinkid (peerOpen p)
  · rw [hread]
    rfl
  · unfold recvActionMeshpeering
    rw [show verdict env.params env.mp .open _ = _ from hie]

theorem recv_confirm (h : Taken env elems (peerConfirm p pid)) (l : Link) : ∃ ie : MeshpeerIe, ie.peerLlinkid = p ∧
    recvActionMeshpeering env .confirm (frameOf elems (peerConfirm p pid)) l = recvMeshpeeringConfirm env.params ie l := by
  obtain ⟨hes, ie, hie⟩ := h
  refine ⟨ie, ?_, ?_⟩
  · rw [accepted_frame hes hie]
    exact takeMeshpeer_llinkid (peerConfirm p pid)
  · unfold recvActionMeshpeering
    rw [show verdict env.params env.mp .confirm _ = _ from hie]

/-- **The OPEN comes first.** -/
theorem open_confirm (hl : l.ni.niMlstate = .opensnt) {ie₁ ie₂ : MeshpeerIe} (h₁ : ie₁.peerLlinkid = p) (q₁ q₂ : Params)
    (ids : IdSource) : Peered l (recvMeshpeeringConfirm q₂ ie₂ (recvMeshpeeringOpen q₁ ids ie₁ l)) p := by
  have hopen : recvMeshpeeringOpen q₁ ids ie₁ l =
      sendAction (meshLinkchange { l with ni := { l.ni with niMllid := p } } .openrcv) .confirm l.ni.niMlpid p 0 := by
    unfold recvMeshpeeringOpen
    rw [hl, h₁]
    simp
  have hstate : (recvMeshpeeringOpen q₁ ids ie₁ l).ni.niMlstate = .openrcv := by
    rw [hopen]
    simp
  have hconfirm : recvMeshpeeringConfirm q₂ ie₂ (recvMeshpeeringOpen q₁ ids ie₁ l) =
      meshPeerTimeoutStop (meshLinkchange (recvMeshpeeringOpen q₁ ids ie₁ l) .established) := by
    conv_lhs => unfold recvMeshpeeringConfirm
    rw [hstate]
  rw [hconfirm, hopen]
  constructor <;> simp [meshPeerTimeoutStop, sendAction]

/-- **The CONFIRM comes first**: the OPEN is compared with ids that the CONFIRM did not set. -/
theorem confirm_open (hl : l.ni.niMlstate = .opensnt) {ie₁ ie₂ : MeshpeerIe} (h₁ : ie₁.peerLlinkid = p)
    (hlinkid : ie₁.peerLinkid = 0) (q₁ q₂ : Params) (ids : IdSource) :
    Peered l (recvMeshpeeringOpen q₁ ids ie₁ (recvMeshpeeringConfirm q₂ ie₂ l)) p ↔ l.ni.niMlpid = 0 ∧ l.ni.niMllid = p := by
  obtain ⟨l₁, hl₁⟩ : ∃ l₁, l₁ = recvMeshpeeringConfirm q₂ ie₂ l := ⟨_, rfl⟩
  have hconfirm : l₁ = meshPeerTimeoutSetup q₂ (meshLinkchange l .confirmrcv) := by
    rw [hl₁]
    unfold recvMeshpeeringConfirm
    rw [hl]
  have hstate : l₁.ni.niMlstate = .confirmrcv := by simp [hconfirm, meshPeerTimeoutSetup]
  have hpid : l₁.ni.niMlpid = l.ni.niMlpid := by simp [hconfirm, meshPeerTimeoutSetup]
  have hlid : l₁.ni.niMllid = l.ni.niMllid := by simp [hconfirm, meshPeerTimeoutSetup]
  have hlog : l₁.log = l.log := by simp [hconfirm, meshPeerTimeoutSetup]
  rw [← hl₁]
  unfold recvMeshpeeringOpen
  rw [hstate]
  dsimp only
  rw [hpid, hlid, h₁, hlinkid]
  by_cases hsame : l.ni.niMlpid ≠ 0 ∨ l.ni.niMllid ≠ p
  · rw [if_pos hsame]
    refine iff_of_false (fun h => ?_) fun h => ?_
    · have hholding := h.established
      simp [closeLink, meshPeerTimeoutSetup] at hholding
    · exact hsame.elim (fun hne => hne h.1) fun hne => hne h.2
  · rw [if_neg hsame]
    rw [not_or, not_not, not_not] at hsame
    refine iff_of_true ?_ hsame
    constructor <;> simp [meshPeerTimeoutStop, sendAction, hlog, hpid]

/-- **Either order**, for a node that has sent its OPEN. -/
theorem order_free_iff {openEnv confirmEnv : RxEnv} {openElems confirmElems : List Element} (hl : l.ni.niMlstate = .opensnt)
    (ho : Taken openEnv openElems (peerOpen p)) (hc : Taken confirmEnv confirmElems (peerConfirm p l.ni.niMlpid)) :
    (Peered l (recvActionMeshpeering confirmEnv .confirm (frameOf confirmElems (peerConfirm p l.ni.niMlpid))
        (recvActionMeshpeering openEnv .open (frameOf openElems (peerOpen p)) l)) p ∧
      Peered l (recvActionMeshpeering openEnv .open (frameOf openElems (peerOpen p))
        (recvActionMeshpeering confirmEnv .confirm (frameOf confirmElems (peerConfirm p l.ni.niMlpid)) l)) p) ↔
    l.ni.niMlpid = 0 ∧ l.ni.niMllid = p := by
  obtain ⟨ie₁, hllid₁, -, hopen₁⟩ := recv_open ho l
  obtain ⟨ie₂, -, hconfirm₂⟩ := recv_confirm hc l
  obtain ⟨ie₃, -, hconfirm₃⟩ := recv_confirm hc (recvMeshpeeringOpen openEnv.params openEnv.ids ie₁ l)
  obtain ⟨ie₄, hllid₄, hlinkid₄, hopen₄⟩ := recv_open ho (recvMeshpeeringConfirm confirmEnv.params ie₂ l)
  rw [hopen₁, hconfirm₃, hconfirm₂, hopen₄, confirm_open hl hllid₄ hlinkid₄]
  exact and_iff_right (open_confirm hl hllid₁ _ _ _)

/-! ## A neighbour -/

/-- What a handler finds in a station with the usual variables. -/
def usualEnv : RxEnv := { params := usual, mp := noIe, arg := 0, ids := { others := [], random := [] } }

/-- A node that has sent its OPEN, with these ids. -/
def opened (mlpid mllid : LinkId) : Link :=
  { ni := { Node.init with niMlstate := .opensnt, niMlpid := mlpid, niMllid := mllid }
    msNeighbors := 0, kassert := true, log := [] }

theorem open_taken : Taken usualEnv ownMesh (peerOpen 7) :=
  ⟨by decide, { peerLen := 4, peerProto := 0, peerLlinkid := 7, peerLinkid := 0, peerRcode := 0 }, by decide⟩

theorem confirm_taken : Taken usualEnv ownMesh (peerConfirm 7 0) :=
  ⟨by decide, { peerLen := 6, peerProto := 0, peerLlinkid := 7, peerLinkid := 0, peerRcode := 0 }, by decide⟩

/-- With the ids that the frames are compared with, both orders establish the link. -/
theorem order_free_unset :
    Peered (opened 0 7) (recvActionMeshpeering usualEnv .confirm (frameOf ownMesh (peerConfirm 7 0))
      (recvActionMeshpeering usualEnv .open (frameOf ownMesh (peerOpen 7)) (opened 0 7))) 7 ∧
    Peered (opened 0 7) (recvActionMeshpeering usualEnv .open (frameOf ownMesh (peerOpen 7))
      (recvActionMeshpeering usualEnv .confirm (frameOf ownMesh (peerConfirm 7 0)) (opened 0 7))) 7 := by
  have h := order_free_iff (l := opened 0 7) (p := 7) rfl open_taken confirm_taken
  rw [show (opened 0 7).ni.niMlpid = 0 from rfl] at h
  exact h.mpr ⟨rfl, rfl⟩

/-- **The link is given up** when the CONFIRM comes first: the node heard a beacon and sent its OPEN with id 5. -/
theorem confirm_first_held : recvBeacon usual { others := [], random := [5] } { opened 0 0 with ni := .init } =
      { opened 5 0 with
        ni := { (opened 5 0).ni with niMltimer := true, niMltval := 40 }
        log := [.sent { subtype := .open, localid := 5, peerid := 0, reason := 0 }, .drew 5] } ∧
    (recvActionMeshpeering usualEnv .open (frameOf ownMesh (peerOpen 7))
      (recvActionMeshpeering usualEnv .confirm (frameOf ownMesh (peerConfirm 7 5))
        (recvBeacon usual { others := [], random := [5] } { opened 0 0 with ni := .init }))).ni.niMlstate = .holding ∧
    ¬ Peered (opened 5 0) (recvActionMeshpeering usualEnv .open (frameOf ownMesh (peerOpen 7))
      (recvActionMeshpeering usualEnv .confirm (frameOf ownMesh (peerConfirm 7 5)) (opened 5 0))) 7 := by
  refine ⟨by decide, by decide, fun h => ?_⟩
  have hstate := h.established
  revert hstate
  decide

end Net80211.Mesh.Peering
