import Wifi.Lib.Roster
import Wifi.Lib.Runs
import Wifi.Net80211.Mesh.Peering

/-!
# Mesh peering: the count of neighbours, and the timers of the links

* `State`, `Op`, `Step` — the nodes of all vaps of a device, and what happens to them.
* `Bookkeeping` — `ms_neighbors` is the number of established nodes, no assertion failed, and a link that is half
  open has its timer.
* `Sane` — the same at one link; one lemma for each handler.
* `Sound` — the steps that keep the books; `links_bookkept` — every run of them.
-/

namespace Net80211.Mesh.Peering

open Runs

/-! ## Runs -/

/-- A node of a vap, in `ic_sta`. -/
structure Entry where
  vap : Nat
  ni : Node
  deriving DecidableEq

/-- `ic_sta`, and `ms_neighbors` of each vap; a node that leaves `ic_sta` is freed. -/
structure State where
  icSta : Roster Entry
  msNeighbors : Nat → BitVec 16
  kassert : Bool

namespace State

variable (s : State) (a : Nat)

def link : Link :=
  { ni := (s.icSta.get a).ni, msNeighbors := s.msNeighbors (s.icSta.get a).vap, kassert := s.kassert, log := [] }

def onLink (f : Link → Link) : State :=
  let l := f (s.link a)
  { icSta := s.icSta.set a { s.icSta.get a with ni := l.ni }
    msNeighbors := Function.update s.msNeighbors (s.icSta.get a).vap l.msNeighbors
    kassert := l.kassert }

/-- `ni_mllid` of the other nodes -/
def otherMllids : List LinkId := (s.icSta.list.erase a).map fun b => (s.icSta.get b).ni.niMllid

/-- `ieee80211_mesh_node_init`, for a new node. -/
def addNode (vap : Nat) : State := { s with icSta := s.icSta.add { vap := vap, ni := .init } }

/-- `ieee80211_mesh_node_cleanup`, and the end of the node. -/
def cleanup : State := { s with icSta := s.icSta.remove a }

/-- `mesh_vdetach_peers`, for all nodes. -/
def vdetachPeers : State :=
  { s with icSta := s.icSta.setAll fun e => { e with ni := { e.ni with niMltimer := false } } }

/-- `ieee80211_node_table_reset`, for the nodes of a vap. -/
def nodeTableReset (vap : Nat) : State :=
  { s with icSta := s.icSta.filter fun e => decide (e.vap ≠ vap) }

/-- `mesh_newstate`, from `IEEE80211_S_RUN` to `IEEE80211_S_INIT`. -/
def newstateInit (vap : Nat) : State := s.vdetachPeers.nodeTableReset vap

end State

inductive Op where
  | addNode (vap : Nat)
  | beacon (a : Nat) (p : Params) (random : List LinkId)
  | receive (a : Nat) (p : Params) (mp : MeshpeerIe) (arg : BitVec 16) (random : List LinkId) (subtype : Subtype)
      (frm : List Byte)
  | timeout (a : Nat) (p : Params) (arg : BitVec 16) (r : BitVec 32)
  | backoff (a : Nat)
  | cleanup (a : Nat)
  | newstateInit (vap : Nat)

def State.rxEnv (s : State) (a : Nat) (p : Params) (mp : MeshpeerIe) (arg : BitVec 16) (random : List LinkId) : RxEnv :=
  { params := p, mp := mp, arg := arg, ids := { others := s.otherMllids a, random := random } }

/-- A callback runs only while its callout is pending. -/
def next (s : State) : Op → Option State
  | .addNode vap => some (s.addNode vap)
  | .beacon a p random =>
    if a ∈ s.icSta.list then
      some (s.onLink a (recvBeacon p { others := s.otherMllids a, random := random }))
    else none
  | .receive a p mp arg random subtype frm =>
    if a ∈ s.icSta.list then
      some (s.onLink a (recvActionMeshpeering (s.rxEnv a p mp arg random) subtype frm))
    else none
  | .timeout a p arg r =>
    if a ∈ s.icSta.list ∧ (s.icSta.get a).ni.niMltimer = true then
      some (s.onLink a fun l => meshPeerTimeoutCb p arg r l.due)
    else none
  | .backoff a =>
    if a ∈ s.icSta.list ∧ (s.icSta.get a).ni.niMlhtimer = true then some (s.onLink a meshPeerBackoffCb) else none
  | .cleanup a => if a ∈ s.icSta.list then some (s.cleanup a) else none
  | .newstateInit vap => some (s.newstateInit vap)

def Step (s : State) (op : Op) (s' : State) : Prop := next s op = some s'

def Initial (s : State) : Prop := s.icSta.list = [] ∧ (∀ vap, s.msNeighbors vap = 0) ∧ s.kassert = true

/-- The links that are neither there nor away. -/
def Mlstate.halfOpen : Mlstate → Bool
  | .opensnt | .openrcv | .confirmrcv | .holding => true
  | .idle | .established => false

def weight (vap : Nat) (e : Entry) : Int := if e.vap = vap ∧ e.ni.niMlstate = .established then 1 else 0

def State.established (s : State) (vap : Nat) : Int := s.icSta.sum (weight vap)

/-- **The books of the links.** -/
structure Bookkeeping (s : State) : Prop where
  neighbors : ∀ vap, ((s.msNeighbors vap).toNat : Int) = s.established vap
  kassert : s.kassert = true
  timer : ∀ a ∈ s.icSta.list, (s.icSta.get a).ni.niMlstate.halfOpen = true → (s.icSta.get a).ni.niMltimer = true

/-- The timeouts that can be set for a link in this state have a value that fits in `ni_mltval`. -/
def Params.Arms (p : Params) : Mlstate → Prop
  | .idle => p.retrytimeout.setWidth 8 ≠ 0
  | .opensnt => p.confirmtimeout.setWidth 8 ≠ 0 ∧ p.holdingtimeout.setWidth 8 ≠ 0
  | .openrcv | .confirmrcv | .established => p.holdingtimeout.setWidth 8 ≠ 0
  | .holding => True

/-- A link that becomes established is counted. -/
def Link.Room (l : Link) : Prop := l.ni.niMlstate = .openrcv ∨ l.ni.niMlstate = .confirmrcv → l.msNeighbors < 65535

/-- **The steps that keep the books**: there is a link id for an OPEN that is accepted, the timeouts fit, no
    established node is freed, and no half-open link of another vap loses its timer. -/
def Sound (s : State) : Op → Prop
  | .addNode _ | .backoff _ => True
  | .beacon a p _ => (s.icSta.get a).ni.niMlstate = .idle → p.Arms .idle
  | .receive a p mp arg random subtype frm =>
    p.Arms (s.icSta.get a).ni.niMlstate ∧ (s.link a).Room ∧
      ∀ ie, subtype = .open → verdict p mp subtype frm = .accepted ie → (s.icSta.get a).ni.niMlstate = .idle →
        (s.link a).msNeighbors < IEEE80211_MESH_MAX_NEIGHBORS →
        meshGenerateid (s.rxEnv a p mp arg random).ids ie.peerLlinkid ≠ 0
  | .timeout a p _ _ => p.Arms (s.icSta.get a).ni.niMlstate
  | .cleanup a => (s.icSta.get a).ni.niMlstate ≠ .established
  | .newstateInit vap => ∀ a ∈ s.icSta.list,
      ((s.icSta.get a).vap = vap → (s.icSta.get a).ni.niMlstate ≠ .established) ∧
        ((s.icSta.get a).vap ≠ vap → (s.icSta.get a).ni.niMlstate.halfOpen = false)

/-! ## One link -/

/-- The count at a link, when `n` other nodes of the vap are established. -/
structure Balanced (n : Int) (l : Link) : Prop where
  count : (l.msNeighbors.toNat : Int) = n + if l.ni.niMlstate = .established then 1 else 0
  kassert : l.kassert = true

structure Sane (n : Int) (l : Link) : Prop extends Balanced n l where
  timer : l.ni.niMlstate.halfOpen = true → l.ni.niMltimer = true

section Links

variable {n : Int} {l l' : Link} {p : Params} {state : Mlstate}

theorem Balanced.congr (h : Balanced n l) (hn : l'.msNeighbors = l.msNeighbors)
    (hs : l'.ni.niMlstate = l.ni.niMlstate) (hk : l'.kassert = l.kassert) : Balanced n l' where
  count := by
    rw [hn, hs]
    exact h.count
  kassert := hk.trans h.kassert

theorem Balanced.setup (h : Balanced n l) : Balanced n (meshPeerTimeoutSetup p l) := h.congr rfl rfl rfl

/-- **The count follows the state.** -/
theorem Balanced.linkchange (h : Balanced n l) (hn : 0 ≤ n)
    (hroom : state = .established → l.ni.niMlstate ≠ .established → l.msNeighbors < 65535) :
    Balanced n (meshLinkchange l state) := by
  obtain ⟨hc, hk⟩ := h
  unfold meshLinkchange
  dsimp only
  split_ifs with h₁ h₂
  · have hlt := hroom h₁.1 h₁.2
    rw [if_neg h₁.2] at hc
    refine ⟨?_, ?_⟩
    · dsimp only
      rw [if_pos h₁.1, BitVec.toNat_add_of_lt (by bv_omega)]
      push_cast
      rw [hc]
      omega
    · dsimp only
      rw [hk, decide_eq_true hlt]
      rfl
  · rw [if_pos h₂.1] at hc
    have hpos : l.msNeighbors > 0 := by bv_omega
    refine ⟨?_, ?_⟩
    · dsimp only
      rw [if_neg h₂.2, BitVec.toNat_sub_of_le (by bv_omega)]
      have h1 : (1 : BitVec 16).toNat = 1 := rfl
      omega
    · dsimp only
      rw [hk, decide_eq_true hpos]
      rfl
  · refine ⟨?_, hk⟩
    dsimp only
    rw [hc]
    by_cases hst : state = .established
    · by_cases hl : l.ni.niMlstate = .established
      · rw [if_pos hst, if_pos hl]
      · exact absurd ⟨hst, hl⟩ h₁
    · by_cases hl : l.ni.niMlstate = .established
      · exact absurd ⟨hl, hst⟩ h₂
      · rw [if_neg hst, if_neg hl]

theorem Balanced.leave (h : Balanced n l) (hn : 0 ≤ n) (state : Mlstate) (hs : state ≠ .established) :
    Balanced n (meshLinkchange l state) :=
  h.linkchange hn fun he => absurd he hs

theorem Balanced.close (h : Balanced n l) (hn : 0 ≤ n) (hp : p.holdingtimeout.setWidth 8 ≠ 0#8)
    (localid peerid reason : BitVec 16) : Sane n (closeLink p l localid peerid reason) := by
  have hlog : Balanced n (sendAction l .close localid peerid reason) := h.congr rfl rfl rfl
  refine ⟨(hlog.leave hn .holding nofun).setup, fun _ => ?_⟩
  simp [closeLink, meshPeerTimeoutSetup, hp]

theorem Sane.send (h : Sane n l) (subtype : Subtype) (localid peerid reason : BitVec 16) :
    Sane n (sendAction l subtype localid peerid reason) :=
  ⟨h.toBalanced.congr rfl rfl rfl, h.timer⟩

theorem Balanced.stop (h : Balanced n l) (hs : l.ni.niMlstate.halfOpen = false) : Sane n (meshPeerTimeoutStop l) := by
  refine ⟨h.congr rfl rfl rfl, fun hh => ?_⟩
  exact absurd (hs.symm.trans hh) (by decide)

theorem rejectFrame_sane (h : Sane n l) (hn : 0 ≤ n) (hp : p.Arms l.ni.niMlstate) (arg : BitVec 16)
    (subtype : Subtype) : Sane n (rejectFrame p arg subtype l) := by
  unfold rejectFrame
  cases hst : l.ni.niMlstate with
  | idle | established | holding => exact h
  | opensnt =>
    rw [hst] at hp
    exact h.toBalanced.close hn hp.2 ..
  | openrcv | confirmrcv =>
    rw [hst] at hp
    exact h.toBalanced.close hn hp ..

theorem recvMeshpeeringOpen_sane (h : Sane n l) (hn : 0 ≤ n) (hp : p.Arms l.ni.niMlstate) (hroom : l.Room)
    {ids : IdSource} {ie : MeshpeerIe}
    (hid : l.ni.niMlstate = .idle → l.msNeighbors < IEEE80211_MESH_MAX_NEIGHBORS →
      meshGenerateid ids ie.peerLlinkid ≠ 0) : Sane n (recvMeshpeeringOpen p ids ie l) := by
  have hb := h.toBalanced
  unfold recvMeshpeeringOpen
  cases hst : l.ni.niMlstate with
  | idle =>
    rw [hst] at hp
    dsimp only
    split_ifs with hmax h0
    · exact h.send ..
    · exact absurd h0 (hid hst (by bv_omega))
    · have hb' : Balanced n (meshLinkchange l .openrcv) := hb.leave hn .openrcv nofun
      refine ⟨hb'.congr rfl rfl rfl, fun _ => ?_⟩
      have hret : p.retrytimeout.setWidth 8 ≠ 0#8 := hp
      simp [meshPeerTimeoutSetup, sendAction, hret]
  | openrcv =>
    rw [hst] at hp
    dsimp only
    split_ifs
    · exact hb.close hn hp ..
    · exact h.send ..
  | opensnt =>
    refine Sane.send ⟨Balanced.leave ?_ hn .openrcv nofun, fun _ => ?_⟩ ..
    · exact hb.congr rfl rfl rfl
    · rw [meshLinkchange_ni]
      exact h.timer (by rw [hst]; rfl)
  | confirmrcv =>
    rw [hst] at hp
    dsimp only
    split_ifs
    · exact hb.close hn hp ..
    · have hb' : Balanced n (meshLinkchange l .established) :=
        hb.linkchange hn fun _ _ => hroom (.inr hst)
      refine Balanced.stop (hb'.congr rfl rfl rfl) ?_
      simp [sendAction, Mlstate.halfOpen]
  | established =>
    rw [hst] at hp
    dsimp only
    split_ifs
    · exact hb.close hn hp ..
    · exact h.send ..
  | holding => exact h.send ..

theorem recvMeshpeeringConfirm_sane (h : Sane n l) (hn : 0 ≤ n) (hp : p.Arms l.ni.niMlstate) (hroom : l.Room)
    (ie : MeshpeerIe) : Sane n (recvMeshpeeringConfirm p ie l) := by
  have hb := h.toBalanced
  unfold recvMeshpeeringConfirm
  cases hst : l.ni.niMlstate with
  | openrcv =>
    refine (hb.linkchange hn fun _ _ => hroom (.inl hst)).stop ?_
    simp [Mlstate.halfOpen]
  | opensnt =>
    rw [hst] at hp
    refine ⟨(hb.leave hn .confirmrcv nofun).setup, fun _ => ?_⟩
    have hconf : p.confirmtimeout.setWidth 8 ≠ 0#8 := hp.1
    simp [meshPeerTimeoutSetup, hconf]
  | holding => exact h.send ..
  | confirmrcv =>
    rw [hst] at hp
    dsimp only
    split_ifs
    · exact hb.close hn hp ..
    · exact h
  | idle | established => exact h

theorem recvMeshpeeringClose_sane (h : Sane n l) (hn : 0 ≤ n) (hp : p.Arms l.ni.niMlstate) :
    Sane n (recvMeshpeeringClose p l) := by
  have hb := h.toBalanced
  unfold recvMeshpeeringClose
  cases hst : l.ni.niMlstate with
  | idle => exact h
  | opensnt =>
    rw [hst] at hp
    exact hb.close hn hp.2 ..
  | openrcv | confirmrcv | established =>
    rw [hst] at hp
    exact hb.close hn hp ..
  | holding =>
    refine (hb.leave hn .idle nofun).stop ?_
    simp [Mlstate.halfOpen]

theorem recvActionMeshpeering_sane (h : Sane n l) (hn : 0 ≤ n) {env : RxEnv} (hp : env.params.Arms l.ni.niMlstate)
    (hroom : l.Room) {subtype : Subtype} {frm : List Byte}
    (hid : ∀ ie, subtype = .open → verdict env.params env.mp subtype frm = .accepted ie → l.ni.niMlstate = .idle →
      l.msNeighbors < IEEE80211_MESH_MAX_NEIGHBORS → meshGenerateid env.ids ie.peerLlinkid ≠ 0) :
    Sane n (recvActionMeshpeering env subtype frm l) := by
  unfold recvActionMeshpeering
  cases hv : verdict env.params env.mp subtype frm with
  | ignored => exact h
  | rejected => exact rejectFrame_sane h hn hp ..
  | accepted ie =>
    cases subtype with
    | «open» => exact recvMeshpeeringOpen_sane h hn hp hroom (hid ie rfl hv)
    | confirm => exact recvMeshpeeringConfirm_sane h hn hp hroom ie
    | close => exact recvMeshpeeringClose_sane h hn hp

theorem recvBeacon_sane (h : Sane n l) (hn : 0 ≤ n) (hp : l.ni.niMlstate = .idle → p.Arms .idle) (ids : IdSource) :
    Sane n (recvBeacon p ids l) := by
  have hb := h.toBalanced
  unfold recvBeacon
  cases hst : l.ni.niMlstate with
  | idle =>
    dsimp only
    split_ifs with hmax h0
    · exact h
    · refine ⟨hb.congr rfl rfl rfl, fun hh => ?_⟩
      rw [hst] at hh
      cases hh
    · refine ⟨?_, fun _ => ?_⟩
      · refine Balanced.setup ?_
        refine Balanced.congr (Balanced.leave ?_ hn .opensnt nofun) rfl rfl rfl
        exact hb.congr rfl rfl rfl
      · have hret : p.retrytimeout.setWidth 8 ≠ 0#8 := hp hst
        simp [meshPeerTimeoutSetup, sendAction, hret]
  | opensnt | openrcv | confirmrcv | established | holding => exact h

theorem meshPeerTimeoutCb_sane (hb : Balanced n l) (hn : 0 ≤ n) (hp : p.Arms l.ni.niMlstate) (arg : BitVec 16)
    (r : BitVec 32) : Sane n (meshPeerTimeoutCb p arg r l) := by
  unfold meshPeerTimeoutCb
  cases hst : l.ni.niMlstate with
  | idle | established =>
    refine ⟨hb, fun hh => ?_⟩
    rw [hst] at hh
    cases hh
  | opensnt | openrcv =>
    have hhold : p.holdingtimeout.setWidth 8 ≠ 0#8 := by
      rw [hst] at hp
      first | exact hp | exact hp.2
    dsimp only
    split_ifs
    · refine ⟨Balanced.setup (Balanced.leave ?_ hn .holding nofun), fun _ => ?_⟩
      · exact hb.congr rfl rfl rfl
      · simp [meshPeerTimeoutSetup, hhold]
    · exact ⟨hb.congr rfl rfl rfl, fun _ => rfl⟩
  | confirmrcv =>
    rw [hst] at hp
    exact hb.close hn hp ..
  | holding =>
    dsimp only
    refine ⟨Balanced.leave ?_ hn .idle nofun, fun hh => ?_⟩
    · split_ifs
      · exact hb.congr rfl rfl rfl
      · exact hb.congr rfl rfl rfl
    · rw [meshLinkchange_ni] at hh
      cases hh

end Links

/-! ## Whole runs -/

section Runs

variable {s s' : State} {a : Nat} {vap : Nat}

theorem weight_nonneg (vap : Nat) (e : Entry) : 0 ≤ weight vap e := by
  unfold weight
  split_ifs <;> decide

theorem weight_eq_zero {e : Entry} (h : e.vap = vap → e.ni.niMlstate ≠ .established) : weight vap e = 0 :=
  if_neg fun he => h he.1 he.2

/-- The other established nodes of the vap of a node. -/
def State.others (s : State) (a : Nat) : Int :=
  s.established (s.icSta.get a).vap - weight (s.icSta.get a).vap (s.icSta.get a)

theorem others_nonneg (ha : a ∈ s.icSta.list) : 0 ≤ s.others a := by
  have h := Roster.le_sum (r := s.icSta) (weight (s.icSta.get a).vap) (fun b _ => weight_nonneg _ _) ha
  unfold State.others State.established
  omega

theorem Bookkeeping.link (h : Bookkeeping s) (ha : a ∈ s.icSta.list) : Sane (s.others a) (s.link a) := by
  refine ⟨⟨?_, h.kassert⟩, h.timer a ha⟩
  have hn := h.neighbors (s.icSta.get a).vap
  unfold State.others State.link
  dsimp only
  rw [hn]
  unfold weight
  by_cases hst : (s.icSta.get a).ni.niMlstate = .established
  · rw [if_pos hst, if_pos ⟨rfl, hst⟩]
    omega
  · rw [if_neg hst, if_neg fun hc => hst hc.2]
    omega

/-- **A function is called for a node.** -/
theorem Bookkeeping.onLink (h : Bookkeeping s) (ha : a ∈ s.icSta.list) {f : Link → Link}
    (hf : Sane (s.others a) (f (s.link a))) : Bookkeeping (s.onLink a f) := by
  refine ⟨?_, hf.kassert, ?_⟩
  · intro vap
    have hsum := Roster.sum_set (r := s.icSta) (weight vap) { s.icSta.get a with ni := (f (s.link a)).ni } ha
    show ((Function.update s.msNeighbors _ _ vap).toNat : Int) = (s.icSta.set a _).sum (weight vap)
    rw [hsum]
    rcases eq_or_ne vap (s.icSta.get a).vap with rfl | hne
    · rw [Function.update_self, hf.count]
      unfold State.others State.established weight
      simp
    · have hzero : ∀ ni, weight vap { s.icSta.get a with ni := ni } = 0 := fun ni =>
        weight_eq_zero fun he => absurd he.symm hne
      have hold : weight vap (s.icSta.get a) = 0 := hzero (s.icSta.get a).ni
      rw [Function.update_of_ne hne, h.neighbors vap, hold, hzero, sub_zero, add_zero]
      rfl
  · intro b hb
    show ((s.icSta.set a _).get b).ni.niMlstate.halfOpen = true → ((s.icSta.set a _).get b).ni.niMltimer = true
    rcases eq_or_ne b a with rfl | hne
    · rw [Roster.get_set_self]
      exact hf.timer
    · rw [Roster.get_set_ne _ _ hne]
      exact h.timer b hb

theorem Bookkeeping.addNode (h : Bookkeeping s) (vap : Nat) : Bookkeeping (s.addNode vap) := by
  refine ⟨?_, h.kassert, ?_⟩
  · intro v
    show _ = (s.icSta.add _).sum (weight v)
    have hzero : weight v { vap := vap, ni := .init } = 0 := weight_eq_zero fun _ => nofun
    rw [Roster.sum_add, hzero, add_zero]
    exact h.neighbors v
  · intro b hb
    show ((s.icSta.add _).get b).ni.niMlstate.halfOpen = true → ((s.icSta.add _).get b).ni.niMltimer = true
    rcases (Roster.mem_add _).1 hb with hb | rfl
    · rw [Roster.get_add_mem _ _ hb]
      exact h.timer b hb
    · rw [Roster.get_add_self]
      exact nofun

theorem Bookkeeping.cleanup (h : Bookkeeping s) (ha : a ∈ s.icSta.list)
    (hst : (s.icSta.get a).ni.niMlstate ≠ .established) : Bookkeeping (s.cleanup a) := by
  refine ⟨?_, h.kassert, ?_⟩
  · intro vap
    show _ = (s.icSta.remove a).sum (weight vap)
    rw [Roster.sum_remove _ ha, weight_eq_zero fun _ => hst, sub_zero]
    exact h.neighbors vap
  · intro b hb
    exact h.timer b ((Roster.mem_remove _).1 hb).2

theorem Bookkeeping.newstateInit (h : Bookkeeping s)
    (hok : ∀ a ∈ s.icSta.list, ((s.icSta.get a).vap = vap → (s.icSta.get a).ni.niMlstate ≠ .established) ∧
      ((s.icSta.get a).vap ≠ vap → (s.icSta.get a).ni.niMlstate.halfOpen = false)) :
    Bookkeeping (s.newstateInit vap) := by
  refine ⟨?_, h.kassert, ?_⟩
  · intro v
    show _ = (s.vdetachPeers.icSta.filter _).sum (weight v)
    rw [Roster.sum_filter]
    · exact h.neighbors v
    · intro b hb hgone
      have hvap : (s.icSta.get b).vap = vap := not_not.1 (of_decide_eq_false hgone)
      exact weight_eq_zero fun _ => (hok b hb).1 hvap
  · intro b hb hhalf
    obtain ⟨hb, hother⟩ := List.mem_filter.1 hb
    have hvap : (s.icSta.get b).vap ≠ vap := of_decide_eq_true hother
    exact absurd (((hok b hb).2 hvap).symm.trans hhalf) (by decide)

theorem initial_bookkeeping (h : Initial s) : Bookkeeping s := by
  obtain ⟨hl, hn, hk⟩ := h
  refine ⟨?_, hk, ?_⟩
  · intro vap
    rw [hn]
    refine (Roster.sum_eq_zero _ fun b hb => ?_).symm
    rw [hl] at hb
    cases hb
  · intro b hb
    rw [hl] at hb
    cases hb

theorem step_guard {g : Prop} [Decidable g] {t : State} (h : (if g then some t else none) = some s') : g ∧ s' = t := by
  split_ifs at h with hg
  exact ⟨hg, (Option.some.inj h).symm⟩

/-- **One step.** -/
theorem step_bookkeeping {op : Op} (h : Bookkeeping s) (hok : Sound s op) (hs : Step s op s') : Bookkeeping s' := by
  cases op with
  | addNode vap =>
    cases hs
    exact h.addNode vap
  | beacon a p random =>
    obtain ⟨ha, rfl⟩ := step_guard hs
    exact h.onLink ha (recvBeacon_sane (h.link ha) (others_nonneg ha) hok _)
  | receive a p mp arg random subtype frm =>
    obtain ⟨ha, rfl⟩ := step_guard hs
    obtain ⟨hp, hroom, hid⟩ := hok
    exact h.onLink ha (recvActionMeshpeering_sane (h.link ha) (others_nonneg ha) hp hroom hid)
  | timeout a p arg r =>
    obtain ⟨⟨ha, -⟩, rfl⟩ := step_guard hs
    have hdue : Balanced (s.others a) (s.link a).due := (h.link ha).toBalanced.congr rfl rfl rfl
    exact h.onLink ha (meshPeerTimeoutCb_sane hdue (others_nonneg ha) hok arg r)
  | backoff a =>
    obtain ⟨⟨ha, -⟩, rfl⟩ := step_guard hs
    have hl := h.link ha
    exact h.onLink ha ⟨hl.toBalanced.congr rfl rfl rfl, hl.timer⟩
  | cleanup a =>
    obtain ⟨ha, rfl⟩ := step_guard hs
    exact h.cleanup ha hok
  | newstateInit vap =>
    cases hs
    exact h.newstateInit hok

/-- **The books are kept** in every run of steps that keep them. -/
theorem links_bookkept {s : State} (hr : Reachable Initial (Guarded Sound Step) s) : Bookkeeping s :=
  hr.invariant (fun _ h => initial_bookkeeping h) fun _ _ _ h hs => step_bookkeeping h hs.1 hs.2

end Runs

/-! ## One neighbour -/

theorem usual_arms (state : Mlstate) : usual.Arms state := by
  cases state <;> simp [Params.Arms, usual]

def noNodes : State := { icSta := Roster.empty fun _ => { vap := 0, ni := .init }, msNeighbors := fun _ => 0, kassert := true }

theorem noNodes_initial : Initial noNodes := ⟨rfl, fun _ => rfl, rfl⟩

/-- An OPEN of the neighbour, and the random numbers that are drawn on it. -/
def openOp (random : List LinkId) : Op :=
  .receive 0 usual noIe 0 random .open (frameOf ownMesh { subtype := .open, localid := 7, peerid := 0, reason := 0 })

def confirmOp : Op :=
  .receive 0 usual noIe 0 [] .confirm (frameOf ownMesh { subtype := .confirm, localid := 7, peerid := 5, reason := 0 })

/-- The neighbour's OPEN is answered, and confirmed. -/
def neighbourUp : List Op := [.addNode 0, openOp [5], confirmOp]

theorem openOp_verdict : verdict usual noIe .open (frameOf ownMesh { subtype := .open, localid := 7, peerid := 0, reason := 0 }) =
    .accepted { peerLen := 4, peerProto := 0, peerLlinkid := 7, peerLinkid := 0, peerRcode := 0 } := by decide

theorem links_bookkept_neighbour : ∃ s, Reachable Initial (Guarded Sound Step) s ∧ s.established 0 = 1 ∧ Bookkeeping s := by
  have h₁ : Reachable Initial (Guarded Sound Step) (noNodes.addNode 0) :=
    .next (i := .addNode 0) (.start noNodes_initial) ⟨trivial, rfl⟩
  obtain ⟨s₂, hs₂⟩ : ∃ s₂, next (noNodes.addNode 0) (openOp [5]) = some s₂ := ⟨_, rfl⟩
  have hok₂ : Sound (noNodes.addNode 0) (openOp [5]) := by
    refine ⟨usual_arms _, nofun, ?_⟩
    rintro ie - hv - -
    rw [openOp_verdict] at hv
    cases hv
    decide
  have h₂ := h₁.next (i := openOp [5]) ⟨hok₂, hs₂⟩
  obtain ⟨s₃, hs₃⟩ : ∃ s₃, next s₂ confirmOp = some s₃ := by
    cases hs₂
    exact ⟨_, rfl⟩
  have hok₃ : Sound s₂ confirmOp := by
    cases hs₂
    exact ⟨usual_arms _, fun _ => by decide, fun _ => nofun⟩
  have h₃ := h₂.next (i := confirmOp) ⟨hok₃, hs₃⟩
  refine ⟨s₃, h₃, ?_, links_bookkept h₃⟩
  cases hs₂
  cases hs₃
  decide

/-- An established node is freed, and stays counted; an OPEN for which no link id is found leaves a half-open link
    without a timer. -/
theorem books_lost : (∃ s, Reachable Initial Step s ∧ s.msNeighbors 0 = 1 ∧ s.icSta.list = [] ∧ ¬ Bookkeeping s) ∧
    ∃ s, Reachable Initial Step s ∧ (s.icSta.get 0).ni.niMlstate = .openrcv ∧ ¬ Bookkeeping s := by
  have hsteps : ∀ ops : List Op, ∀ op ∈ ops, ∀ s s', next s op = some s' → Step s op s' := fun _ _ _ _ _ h => h
  constructor
  · obtain ⟨s, hr, hs⟩ := exec_observe noNodes_initial (neighbourUp ++ [.cleanup 0]) (hsteps _)
      (fun s => (s.msNeighbors 0, s.icSta.list)) (show _ = some (1, []) by decide)
    simp only [Prod.mk.injEq] at hs
    refine ⟨s, hr, hs.1, hs.2, fun h => ?_⟩
    have hn := h.neighbors 0
    rw [hs.1, State.established, Roster.sum, hs.2, List.map_nil] at hn
    exact absurd hn (by decide)
  · obtain ⟨s, hr, hs⟩ := exec_observe noNodes_initial [.addNode 0, openOp [0, 0, 0, 0]] (hsteps _)
      (fun s => (s.icSta.list, (s.icSta.get 0).ni.niMlstate, (s.icSta.get 0).ni.niMltimer))
      (show _ = some ([0], .openrcv, false) by decide)
    simp only [Prod.mk.injEq] at hs
    obtain ⟨hl, hst, ht⟩ := hs
    refine ⟨s, hr, hst, fun h => ?_⟩
    have htimer := h.timer 0 (by rw [hl]; exact List.mem_singleton_self _) (by rw [hst]; rfl)
    rw [ht] at htimer
    cases htimer

end Net80211.Mesh.Peering
