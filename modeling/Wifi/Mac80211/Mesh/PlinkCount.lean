import Wifi.Lib.Roster
import Wifi.Mac80211.Mesh.Plink

/-!
# The count of established peer links (`linux/net/mac80211/mesh_plink.c`, `cfg.c`)

* `Peer` — a neighbour, with `estab_plinks` of its interface.
* `Peer.deactivate`, `Peer.establish`, `Peer.fsm`, `Peer.processPlinkFrame`, `Peer.applyMeshParams` — the functions that
  count, `fsm_sta` says that the peer link is that of `Plink`.
* `State`, `Op`, `Step` — the stations of all mesh interfaces.
* `Counts` — the count at one link; one lemma for each function.
* `step_did` — what a step does; `step_balanced`, `step_enters`, `step_within` — the counts, and when a link is
  established.
* `peer_links_counted` — `estab_plinks` in every run, and when the limit is kept.
-/

namespace Mac80211.Mesh.PlinkCount

open Runs Plink

/-- A neighbour, with `estab_plinks` of its interface. -/
structure Peer where
  sta : MeshSta
  estabPlinks : Int
  deriving DecidableEq, Repr

/-- `mesh_plink_free_count`: an `int`. -/
def meshPlinkFreeCount (dot11MeshMaxPeerLinks : Nat) (estabPlinks : Int) : Int := dot11MeshMaxPeerLinks - estabPlinks

namespace Peer

variable (p : Peer)

/-- `__mesh_plink_deactivate` -/
def deactivate : Peer where
  sta := meshPlinkDeactivate' p.sta
  estabPlinks := if p.sta.plinkState = .estab then p.estabPlinks - 1 else p.estabPlinks

/-- `mesh_plink_establish` -/
def establish : Peer where
  sta := meshPlinkEstablish p.sta
  estabPlinks := p.estabPlinks + 1

/-- `mesh_plink_close`, which does not count. -/
def close (event : PlinkEvent) : Peer := { p with sta := meshPlinkClose p.sta event }

/-- The `switch` of `mesh_plink_fsm`. -/
def fsm (event : PlinkEvent) (newLlid : LinkId) : Peer :=
  match p.sta.plinkState with
  | .listen =>
    match event with
    | .clsAcpt => { p with sta := meshPlinkFsmRestart p.sta }
    | .opnAcpt => { p with sta := { p.sta with plinkState := .opnRcvd, llid := newLlid } }
    | _ => p
  | .opnSnt =>
    match event with
    | .opnRjct | .cnfRjct | .clsAcpt => p.close event
    | .opnAcpt => { p with sta := { p.sta with plinkState := .opnRcvd } }
    | .cnfAcpt => { p with sta := { p.sta with plinkState := .cnfRcvd } }
    | _ => p
  | .opnRcvd =>
    match event with
    | .opnRjct | .cnfRjct | .clsAcpt => p.close event
    | .cnfAcpt => p.establish
    | _ => p
  | .cnfRcvd =>
    match event with
    | .opnRjct | .cnfRjct | .clsAcpt => p.close event
    | .opnAcpt => p.establish
    | _ => p
  | .estab =>
    match event with
    | .clsAcpt => p.deactivate.close event
    | _ => p
  | .holding =>
    match event with
    | .clsAcpt => { p with sta := meshPlinkFsmRestart p.sta }
    | _ => p
  | .blocked => p

/-- `mesh_process_plink_frame`, for a known neighbour; `maxPeerLinks` is `dot11MeshMaxPeerLinks`. -/
def processPlinkFrame (env : RxEnv) (maxPeerLinks : Nat) (newLlid : LinkId) (frame : Frame) : Peer :=
  let ieLen := frame.peering.length
  let ftype := frame.action
  if env.secure then
    p
  else if ftype = .open ∧ ieLen ≠ 4 ∨ ftype = .confirm ∧ ieLen ≠ 6 ∨ ftype = .close ∧ ieLen ≠ 6 ∧ ieLen ≠ 8 then
    p
  else if ftype ≠ .close ∧ env.meshIes = false then
    p
  else
    let plid := le16 frame.peering 2
    let llid := if ftype = .confirm ∨ ftype = .close ∧ ieLen = 8 then le16 frame.peering 4 else 0
    if ftype = .open ∧ env.rssi = false then
      p
    else
      let env := { env with freeCount := decide (meshPlinkFreeCount maxPeerLinks p.estabPlinks ≠ 0) }
      match meshPlinkGetEvent env (some p.sta) ieLen ftype llid plid with
      | .opnAcpt => { p with sta := { p.sta with plid := plid } : Peer }.fsm .opnAcpt newLlid
      | .undefined => p
      | event =>
        let sta := if event = .cnfAcpt ∧ p.sta.plid = 0 then { p.sta with plid := plid } else p.sta
        { p with sta := sta : Peer }.fsm event newLlid

def uncounted (f : Side → MeshSta → Side) : Peer :=
  { p with sta := ((f { sta := some p.sta, used := [], log := [] } p.sta).sta).getD p.sta }

/-- `enum nl80211_plink_action` -/
inductive PlinkAction where
  | noAction | open | block
  deriving DecidableEq, Repr

/-- `sta_apply_mesh_params`: the state that is asked for, if any, and the action. -/
def applyMeshParams (plinkState : Option PlinkState) (action : PlinkAction) (auth : Bool) (newLlid : LinkId) : Peer :=
  let p : Peer :=
    match plinkState with
    | none => p
    | some .estab =>
      { sta := { p.sta with plinkState := .estab }
        estabPlinks := if p.sta.plinkState ≠ .estab then p.estabPlinks + 1 else p.estabPlinks }
    | some state =>
      { sta := { p.sta with plinkState := state }
        estabPlinks := if p.sta.plinkState = .estab then p.estabPlinks - 1 else p.estabPlinks }
  match action with
  | .noAction => p
  | .open => p.uncounted fun side sta => meshPlinkOpen side sta auth newLlid
  | .block => p.deactivate

end Peer

/-- The peer link is as without the count. -/
theorem fsm_sta (p : Peer) (event : PlinkEvent) (newLlid : LinkId) :
    (p.fsm event newLlid).sta = (fsmSwitch p.sta event newLlid).1 := by
  unfold Peer.fsm fsmSwitch
  cases p.sta.plinkState <;> cases event <;> rfl

/-! ## Runs -/

structure Station where
  sdata : Nat
  mesh : MeshSta
  deriving DecidableEq, Repr

/-- The stations, with `estab_plinks` and `dot11MeshMaxPeerLinks` of each interface. -/
structure State where
  stas : Roster Station
  estabPlinks : Nat → Int
  maxPeerLinks : Nat → Nat

namespace State

variable (s : State) (a : Nat)

def peer : Peer := { sta := (s.stas.get a).mesh, estabPlinks := s.estabPlinks (s.stas.get a).sdata }

def onPeer (f : Peer → Peer) : State :=
  { s with
    stas := s.stas.set a { s.stas.get a with mesh := (f (s.peer a)).sta }
    estabPlinks := Function.update s.estabPlinks (s.stas.get a).sdata (f (s.peer a)).estabPlinks }

def insert (sdata : Nat) (sta : Option MeshSta) : State :=
  match sta with
  | none => s
  | some sta => { s with stas := s.stas.add { sdata := sdata, mesh := sta } }

/-- `mesh_plink_deactivate`, and the end of the station. -/
def destroy : State :=
  let s := s.onPeer a Peer.deactivate
  { s with stas := s.stas.remove a }

end State

/-- There is no station with the address of the sender. -/
def nobody : Side := { sta := none, used := [], log := [] }

inductive Op where
  /-- a frame of a known neighbour -/
  | receive (a : Nat) (env : RxEnv) (newLlid : LinkId) (frame : Frame)
  /-- a frame of an unknown one -/
  | receiveNew (sdata : Nat) (env : RxEnv) (newLlid : LinkId) (frame : Frame)
  | neighbourUpdate (a : Nat) (env : BeaconEnv) (newLlid : LinkId)
  | newNeighbour (sdata : Nat) (env : BeaconEnv) (newLlid : LinkId)
  | timer (a : Nat) (env : TimerEnv)
  | open (a : Nat) (auth : Bool) (newLlid : LinkId)
  | block (a : Nat)
  | applyMeshParams (a : Nat) (plinkState : Option PlinkState) (action : Peer.PlinkAction) (auth : Bool) (newLlid : LinkId)
  | addStation (sdata : Nat)
  | remove (a : Nat)
  | setMaxPeerLinks (sdata n : Nat)

def next (s : State) : Op → Option State
  | .receive a env newLlid frame =>
    if a ∈ s.stas.list then
      some (s.onPeer a fun p => p.processPlinkFrame env (s.maxPeerLinks (s.stas.get a).sdata) newLlid frame)
    else none
  | .receiveNew sdata env newLlid frame =>
    let env := { env with freeCount := decide (meshPlinkFreeCount (s.maxPeerLinks sdata) (s.estabPlinks sdata) ≠ 0) }
    some (s.insert sdata (meshProcessPlinkFrame nobody env newLlid frame).sta)
  | .neighbourUpdate a env newLlid =>
    if a ∈ s.stas.list then
      some (s.onPeer a fun p => p.uncounted fun side _ => meshNeighbourUpdate side env newLlid)
    else none
  | .newNeighbour sdata env newLlid => some (s.insert sdata (meshNeighbourUpdate nobody env newLlid).sta)
  | .timer a env =>
    if a ∈ s.stas.list then some (s.onPeer a fun p => p.uncounted fun side sta => meshPlinkTimer side env sta) else none
  | .open a auth newLlid =>
    if a ∈ s.stas.list then
      some (s.onPeer a fun p => p.uncounted fun side sta => meshPlinkOpen side sta auth newLlid)
    else none
  | .block a => if a ∈ s.stas.list then some (s.onPeer a Peer.deactivate) else none
  | .applyMeshParams a plinkState action auth newLlid =>
    if a ∈ s.stas.list then some (s.onPeer a fun p => p.applyMeshParams plinkState action auth newLlid) else none
  | .addStation sdata => some (s.insert sdata (some newSta))
  | .remove a => if a ∈ s.stas.list then some (s.destroy a) else none
  | .setMaxPeerLinks sdata n => some { s with maxPeerLinks := Function.update s.maxPeerLinks sdata n }

def Step (s : State) (op : Op) (s' : State) : Prop := next s op = some s'

def Initial (s : State) : Prop := s.stas.list = [] ∧ ∀ i, s.estabPlinks i = 0

def Station.isEstab (sta : Station) : Bool := decide (sta.mesh.plinkState = .estab)

/-- The stations of an interface with an established link. -/
def State.established (s : State) (i : Nat) : Int := s.stas.tally Station.sdata Station.isEstab i

/-- The station moves to `NL80211_PLINK_ESTAB`. -/
def Enters (s s' : State) (a : Nat) : Prop :=
  (s.stas.get a).mesh.plinkState ≠ .estab ∧ (s'.stas.get a).mesh.plinkState = .estab

/-! ## One link -/

def est (sta : MeshSta) : Int := if sta.plinkState = .estab then 1 else 0

def Counts (p p' : Peer) : Prop := p'.estabPlinks + est p.sta = p.estabPlinks + est p'.sta

section Links

variable {p p₁ p₂ : Peer}

theorem Counts.refl (p : Peer) : Counts p p := rfl

theorem Counts.trans (h₁ : Counts p p₁) (h₂ : Counts p₁ p₂) : Counts p p₂ := by
  unfold Counts at h₁ h₂ ⊢
  omega

theorem counts_same {sta : MeshSta} (h : est sta = est p.sta) : Counts p { p with sta := sta } := by
  unfold Counts
  dsimp only
  rw [h]

theorem est_of_ne {sta : MeshSta} (h : sta.plinkState ≠ .estab) : est sta = 0 := if_neg h

theorem deactivate_counts (p : Peer) : Counts p p.deactivate := by
  unfold Counts Peer.deactivate est meshPlinkDeactivate'
  dsimp only
  split_ifs <;> simp_all

theorem establish_counts (h : p.sta.plinkState ≠ .estab) : Counts p p.establish := by
  unfold Counts Peer.establish
  rw [est_of_ne h]
  simp [est, meshPlinkEstablish]

theorem close_counts (h : p.sta.plinkState ≠ .estab) (event : PlinkEvent) : Counts p (p.close event) := by
  refine counts_same ?_
  rw [est_of_ne h]
  rfl

theorem fsm_counts (p : Peer) (event : PlinkEvent) (newLlid : LinkId) : Counts p (p.fsm event newLlid) := by
  unfold Peer.fsm
  cases hst : p.sta.plinkState with
  | listen =>
    have h0 : est p.sta = 0 := est_of_ne (by rw [hst]; decide)
    cases event with
    | clsAcpt | opnAcpt => exact counts_same h0.symm
    | _ => exact .refl p
  | opnSnt =>
    have hne : p.sta.plinkState ≠ .estab := by rw [hst]; decide
    cases event with
    | opnRjct | cnfRjct | clsAcpt => exact close_counts hne _
    | opnAcpt | cnfAcpt => exact counts_same (est_of_ne hne).symm
    | _ => exact .refl p
  | opnRcvd =>
    have hne : p.sta.plinkState ≠ .estab := by rw [hst]; decide
    cases event with
    | opnRjct | cnfRjct | clsAcpt => exact close_counts hne _
    | cnfAcpt => exact establish_counts hne
    | _ => exact .refl p
  | cnfRcvd =>
    have hne : p.sta.plinkState ≠ .estab := by rw [hst]; decide
    cases event with
    | opnRjct | cnfRjct | clsAcpt => exact close_counts hne _
    | opnAcpt => exact establish_counts hne
    | _ => exact .refl p
  | estab =>
    cases event with
    | clsAcpt =>
      have hdown : p.deactivate.sta.plinkState ≠ .estab := nofun
      exact (deactivate_counts p).trans (close_counts hdown _)
    | _ => exact .refl p
  | holding =>
    cases event with
    | clsAcpt =>
      have h0 : est p.sta = 0 := est_of_ne (by rw [hst]; decide)
      exact counts_same h0.symm
    | _ => exact .refl p
  | blocked => exact .refl p

theorem plid_counts (p : Peer) (plid : LinkId) : Counts p { p with sta := { p.sta with plid := plid } } :=
  counts_same rfl

theorem processPlinkFrame_counts (p : Peer) (env : RxEnv) (n : Nat) (newLlid : LinkId) (frame : Frame) :
    Counts p (p.processPlinkFrame env n newLlid frame) := by
  unfold Peer.processPlinkFrame
  dsimp only
  split_ifs
  · exact .refl p
  · exact .refl p
  · exact .refl p
  · exact .refl p
  all_goals
    split
    · exact (plid_counts p _).trans (fsm_counts _ _ _)
    · exact .refl p
    · split_ifs
      · exact (plid_counts p _).trans (fsm_counts _ _ _)
      · exact fsm_counts _ _ _

/-- **A function that does not count** leaves an established link alone, and establishes none. -/
theorem uncounted_counts {f : Side → MeshSta → Side}
    (hf : ∀ sta ∈ (f { sta := some p.sta, used := [], log := [] } p.sta).sta, est sta = est p.sta) :
    Counts p (p.uncounted f) := by
  unfold Peer.uncounted
  cases hs : (f { sta := some p.sta, used := [], log := [] } p.sta).sta with
  | none => exact .refl p
  | some sta => exact counts_same (hf sta hs)

theorem open_est (side : Side) (sta : MeshSta) (auth : Bool) (newLlid : LinkId) (hs : side.sta = some sta) :
    ∀ x ∈ (meshPlinkOpen side sta auth newLlid).sta, est x = est sta := by
  intro x hx
  unfold meshPlinkOpen at hx
  dsimp only at hx
  split_ifs at hx with hauth hst
  · rw [hs] at hx
    cases hx
    rfl
  · cases hx
    rfl
  · cases hx
    have hne : sta.plinkState ≠ .estab := by
      intro he
      rw [he] at hst
      exact hst (by decide)
    rw [est_of_ne hne]
    rfl

theorem timer_est (side : Side) (env : TimerEnv) (sta : MeshSta) (hs : side.sta = some sta) :
    ∀ x ∈ (meshPlinkTimer side env sta).sta, est x = est sta := by
  have hsame : ∀ x ∈ side.sta, est x = est sta := by
    intro x hx
    rw [hs] at hx
    cases hx
    rfl
  intro x hx
  unfold meshPlinkTimer at hx
  dsimp only at hx
  cases hq : env.quiescing with
  | true =>
    rw [hq, if_pos rfl] at hx
    exact hsame x hx
  | false =>
    rw [hq, if_neg Bool.false_ne_true] at hx
    cases ha : env.adjusted with
    | true =>
      rw [ha, if_pos rfl] at hx
      exact hsame x hx
    | false =>
      rw [ha, if_neg Bool.false_ne_true] at hx
      cases hst : sta.plinkState with
      | listen | estab | blocked =>
        rw [hst] at hx
        exact hsame x hx
      | opnRcvd | opnSnt =>
        have h0 : est sta = 0 := est_of_ne (by rw [hst]; decide)
        rw [hst] at hx
        dsimp only at hx
        split_ifs at hx
        · cases hx
          rw [h0]
          exact est_of_ne (by dsimp only; decide)
        · cases hx
          exact h0.symm
      | cnfRcvd | holding =>
        have h0 : est sta = 0 := est_of_ne (by rw [hst]; decide)
        rw [hst] at hx
        cases hx
        exact h0.symm

theorem neighbourUpdate_est (side : Side) (env : BeaconEnv) (newLlid : LinkId) (sta : MeshSta) (hs : side.sta = some sta) :
    ∀ x ∈ (meshNeighbourUpdate side env newLlid).sta, est x = est sta := by
  intro x hx
  unfold meshNeighbourUpdate at hx
  rw [hs] at hx
  dsimp only [meshStaInfoGet] at hx
  split_ifs at hx
  · exact open_est (side.put sta) sta env.auth newLlid rfl x hx
  · cases hx
    rfl

theorem applyMeshParams_counts (p : Peer) (plinkState : Option PlinkState) (action : Peer.PlinkAction) (auth : Bool)
    (newLlid : LinkId) : Counts p (p.applyMeshParams plinkState action auth newLlid) := by
  have hstate : ∀ q : Peer, Counts p q → Counts p
      (match action with
      | .noAction => q
      | .open => q.uncounted fun side sta => meshPlinkOpen side sta auth newLlid
      | .block => q.deactivate) := by
    intro q hq
    cases action with
    | noAction => exact hq
    | «open» => exact hq.trans (uncounted_counts (open_est _ _ auth newLlid rfl))
    | block => exact hq.trans (deactivate_counts q)
  refine hstate _ ?_
  cases plinkState with
  | none => exact .refl p
  | some state =>
    by_cases he : state = .estab
    · subst he
      unfold Counts est
      dsimp only
      split_ifs <;> simp_all
    · have hcounts : Counts p { sta := { p.sta with plinkState := state }
                                estabPlinks := if p.sta.plinkState = .estab then p.estabPlinks - 1 else p.estabPlinks } := by
        unfold Counts est
        dsimp only
        split_ifs <;> simp_all
      cases state with
      | estab => exact absurd rfl he
      | listen | opnSnt | opnRcvd | cnfRcvd | holding | blocked => exact hcounts

end Links

/-! ## The event of a frame -/

/-- **A link is free** to `mesh_plink_get_event` when the count is not zero. -/
theorem free_of_accept {env : RxEnv} {sta : MeshSta} {ieLen : Nat} {ftype : Action} {llid plid : LinkId}
    (h : meshPlinkGetEvent env (some sta) ieLen ftype llid plid = .opnAcpt ∨
      meshPlinkGetEvent env (some sta) ieLen ftype llid plid = .cnfAcpt) : env.freeCount = true := by
  cases hfree : env.freeCount with
  | true => rfl
  | false =>
    unfold meshPlinkGetEvent at h
    dsimp only at h
    rw [hfree] at h
    cases ftype with
    | «open» | confirm =>
      dsimp only at h
      split_ifs at h <;> simp_all
    | close =>
      dsimp only at h
      split_ifs at h <;> simp_all

theorem fsm_enters {p : Peer} {event : PlinkEvent} {newLlid : LinkId} (h0 : p.sta.plinkState ≠ .estab)
    (h1 : (p.fsm event newLlid).sta.plinkState = .estab) : event = .opnAcpt ∨ event = .cnfAcpt := by
  unfold Peer.fsm at h1
  cases hst : p.sta.plinkState <;> cases event <;> simp_all [Peer.close, meshPlinkClose, meshPlinkFsmRestart]

theorem processPlinkFrame_enters {p : Peer} {env : RxEnv} {n : Nat} {newLlid : LinkId} {frame : Frame}
    (h0 : p.sta.plinkState ≠ .estab) (h1 : (p.processPlinkFrame env n newLlid frame).sta.plinkState = .estab) :
    meshPlinkFreeCount n p.estabPlinks ≠ 0 := by
  unfold Peer.processPlinkFrame at h1
  dsimp only at h1
  split_ifs at h1
  · exact absurd h1 h0
  · exact absurd h1 h0
  · exact absurd h1 h0
  · exact absurd h1 h0
  all_goals
    split at h1
    · rename_i heq
      exact of_decide_eq_true (free_of_accept (.inl heq))
    · exact absurd h1 h0
    · split_ifs at h1
      · exact of_decide_eq_true (free_of_accept (fsm_enters (by exact h0) h1))
      · exact of_decide_eq_true (free_of_accept (fsm_enters (by exact h0) h1))

/-- A function that does not count does not establish the link. -/
theorem uncounted_enters {p : Peer} {f : Side → MeshSta → Side} (h0 : p.sta.plinkState ≠ .estab)
    (hf : ∀ sta ∈ (f { sta := some p.sta, used := [], log := [] } p.sta).sta, est sta = est p.sta) :
    (p.uncounted f).sta.plinkState ≠ .estab := by
  unfold Peer.uncounted
  cases hs : (f { sta := some p.sta, used := [], log := [] } p.sta).sta with
  | none => exact h0
  | some sta =>
    intro h1
    have hsame := hf sta hs
    rw [est_of_ne h0] at hsame
    have hone : est sta = 1 := if_pos h1
    rw [hone] at hsame
    cases hsame

theorem applyMeshParams_enters {p : Peer} {plinkState : Option PlinkState} {action : Peer.PlinkAction} {auth : Bool}
    {newLlid : LinkId} (h0 : p.sta.plinkState ≠ .estab)
    (h1 : (p.applyMeshParams plinkState action auth newLlid).sta.plinkState = .estab) : plinkState = some .estab := by
  by_contra hne
  have hstate : ∀ q : Peer, q.sta.plinkState ≠ .estab →
      (match action with
      | .noAction => q
      | .open => q.uncounted fun side sta => meshPlinkOpen side sta auth newLlid
      | .block => q.deactivate).sta.plinkState ≠ .estab := by
    intro q hq
    cases action with
    | noAction => exact hq
    | «open» => exact uncounted_enters hq (open_est _ _ auth newLlid rfl)
    | block => nofun
  refine absurd h1 (hstate _ ?_)
  cases plinkState with
  | none => exact h0
  | some state =>
    cases state with
    | estab => exact absurd rfl hne
    | _ => nofun

/-! ## New stations -/

theorem nobody_frame (env : RxEnv) (newLlid : LinkId) (frame : Frame) :
    ∀ x ∈ (meshProcessPlinkFrame nobody env newLlid frame).sta, x.plinkState ≠ .estab := by
  intro x hx
  unfold meshProcessPlinkFrame at hx
  dsimp only at hx
  split_ifs at hx
  · cases hx
  · cases hx
  · cases hx
  · cases hx
  all_goals
    generalize meshPlinkGetEvent env nobody.sta frame.peering.length frame.action _ _ = event at hx
    cases event with
    | opnAcpt =>
      cases ha : env.alloc with
      | true =>
        rw [ha] at hx
        cases hx
        nofun
      | false =>
        rw [ha] at hx
        cases hx
    | _ => cases hx

theorem nobody_update (env : BeaconEnv) (newLlid : LinkId) :
    ∀ x ∈ (meshNeighbourUpdate nobody env newLlid).sta, x.plinkState ≠ .estab := by
  intro x hx hest
  have hone : est x = 1 := if_pos hest
  unfold meshNeighbourUpdate at hx
  cases ha : env.alloc with
  | false =>
    rw [ha] at hx
    cases hx
  | true =>
    rw [ha] at hx
    dsimp only [nobody, meshStaInfoGet] at hx
    rw [if_pos rfl] at hx
    dsimp only at hx
    have hzero : est x = est newSta := by
      split_ifs at hx
      · exact open_est _ newSta env.auth newLlid rfl x hx
      · cases hx
        rfl
    rw [hone] at hzero
    cases hzero

/-! ## Runs -/

/-- **The counts are those of the stations.** -/
def Balanced (s : State) : Prop := ∀ i, s.estabPlinks i = s.established i

theorem one_isEstab (sta : Station) : Roster.one Station.isEstab sta = est sta.mesh := by
  unfold Roster.one Station.isEstab est
  simp

/-- `mesh_plink_free_count` of the interface of a station -/
def State.freeCount (s : State) (a : Nat) : Int :=
  meshPlinkFreeCount (s.maxPeerLinks (s.stas.get a).sdata) (s.estabPlinks (s.stas.get a).sdata)

/-- A function is called for a station that is listed, a station is made or ends, or the limit is set. -/
inductive Did (s : State) : Op → State → Prop where
  | call {op : Op} {a : Nat} {f : Peer → Peer} (ha : a ∈ s.stas.list) (hcounts : Counts (s.peer a) (f (s.peer a)))
      (hfree : (f (s.peer a)).sta.plinkState = .estab → (s.peer a).sta.plinkState ≠ .estab → s.freeCount a ≠ 0 ∨
        ∃ action auth newLlid, op = .applyMeshParams a (some .estab) action auth newLlid) : Did s op (s.onPeer a f)
  | insert {op : Op} {sdata : Nat} {sta : Option MeshSta} (hsta : ∀ x ∈ sta, x.plinkState ≠ .estab) :
      Did s op (s.insert sdata sta)
  | destroy {op : Op} {a : Nat} (ha : a ∈ s.stas.list) : Did s op (s.destroy a)
  | limit (sdata n : Nat) :
      Did s (.setMaxPeerLinks sdata n) { s with maxPeerLinks := Function.update s.maxPeerLinks sdata n }

section Steps

variable {s s' : State} {a : Nat}

theorem Did.uncounted {op : Op} {f : Side → MeshSta → Side} (ha : a ∈ s.stas.list)
    (hf : ∀ sta ∈ (f { sta := some (s.peer a).sta, used := [], log := [] } (s.peer a).sta).sta,
      est sta = est (s.peer a).sta) : Did s op (s.onPeer a fun p => p.uncounted f) :=
  .call ha (uncounted_counts hf) fun h1 h0 => absurd h1 (uncounted_enters h0 hf)

/-- **What a step does.** -/
theorem step_did {op : Op} (hs : Step s op s') : Did s op s' := by
  unfold Step at hs
  cases op with
  | receive a env newLlid frame =>
    obtain ⟨ha, ⟨⟩⟩ := Option.ite_none_right_eq_some.1 hs
    exact .call ha (processPlinkFrame_counts _ _ _ _ _) fun h1 h0 => .inl (processPlinkFrame_enters h0 h1)
  | receiveNew sdata env newLlid frame =>
    cases hs
    exact .insert (nobody_frame _ _ _)
  | neighbourUpdate a env newLlid =>
    obtain ⟨ha, ⟨⟩⟩ := Option.ite_none_right_eq_some.1 hs
    exact .uncounted ha (neighbourUpdate_est _ _ _ _ rfl)
  | newNeighbour sdata env newLlid =>
    cases hs
    exact .insert (nobody_update _ _)
  | timer a env =>
    obtain ⟨ha, ⟨⟩⟩ := Option.ite_none_right_eq_some.1 hs
    exact .uncounted ha (timer_est _ _ _ rfl)
  | «open» a auth newLlid =>
    obtain ⟨ha, ⟨⟩⟩ := Option.ite_none_right_eq_some.1 hs
    exact .uncounted ha (open_est _ _ _ _ rfl)
  | block a =>
    obtain ⟨ha, ⟨⟩⟩ := Option.ite_none_right_eq_some.1 hs
    exact .call ha (deactivate_counts _) nofun
  | applyMeshParams a plinkState action auth newLlid =>
    obtain ⟨ha, ⟨⟩⟩ := Option.ite_none_right_eq_some.1 hs
    refine .call ha (applyMeshParams_counts _ _ _ _ _) fun h1 h0 => .inr ?_
    cases applyMeshParams_enters h0 h1
    exact ⟨_, _, _, rfl⟩
  | addStation sdata =>
    cases hs
    exact .insert fun x hx => by
      cases hx
      nofun
  | remove a =>
    obtain ⟨ha, ⟨⟩⟩ := Option.ite_none_right_eq_some.1 hs
    exact .destroy ha
  | setMaxPeerLinks sdata n =>
    cases hs
    exact .limit sdata n

theorem onPeer_balanced {f : Peer → Peer} (hb : Balanced s) (ha : a ∈ s.stas.list) (hf : Counts (s.peer a) (f (s.peer a))) :
    Balanced (s.onPeer a f) := by
  intro i
  have hsdata : ({ s.stas.get a with mesh := (f (s.peer a)).sta } : Station).sdata = (s.stas.get a).sdata := rfl
  have hset := Roster.tally_set Station.sdata Station.isEstab ha hsdata i
  have hnew : (s.onPeer a f).established i = s.established i +
      if i = (s.stas.get a).sdata then est (f (s.peer a)).sta - est (s.peer a).sta else 0 := by
    rw [one_isEstab, one_isEstab] at hset
    exact hset
  have hi := hb i
  rw [hnew]
  show Function.update s.estabPlinks (s.stas.get a).sdata (f (s.peer a)).estabPlinks i = _
  rcases eq_or_ne i (s.stas.get a).sdata with rfl | hne
  · have hold : (s.peer a).estabPlinks = s.estabPlinks (s.stas.get a).sdata := rfl
    unfold Counts at hf
    rw [Function.update_self, if_pos rfl]
    omega
  · rw [Function.update_of_ne hne, if_neg hne]
    omega

theorem insert_balanced {sdata : Nat} {sta : Option MeshSta} (hb : Balanced s) (hsta : ∀ x ∈ sta, x.plinkState ≠ .estab) :
    Balanced (s.insert sdata sta) := by
  cases sta with
  | none => exact hb
  | some sta =>
    intro i
    have hadd := Roster.tally_add Station.sdata Station.isEstab s.stas
      { sdata := sdata, mesh := sta } i
    rw [one_isEstab, est_of_ne (hsta sta rfl), ite_self, Int.add_zero] at hadd
    exact (hb i).trans hadd.symm

theorem destroy_balanced (hb : Balanced s) (ha : a ∈ s.stas.list) : Balanced (s.destroy a) := by
  have hdown := onPeer_balanced hb ha (deactivate_counts (s.peer a))
  intro i
  have ha' : a ∈ (s.onPeer a Peer.deactivate).stas.list := ha
  have hrem := Roster.tally_remove Station.sdata Station.isEstab ha' i
  have hblocked : est ((s.onPeer a Peer.deactivate).stas.get a).mesh = 0 := by
    unfold State.onPeer
    dsimp only
    rw [Roster.get_set_self]
    rfl
  rw [one_isEstab, hblocked, ite_self, Int.sub_zero] at hrem
  exact (hdown i).trans hrem.symm

theorem step_balanced {op : Op} (hb : Balanced s) (hs : Step s op s') : Balanced s' := by
  cases step_did hs with
  | call ha hcounts _ => exact onPeer_balanced hb ha hcounts
  | insert hsta => exact insert_balanced hb hsta
  | destroy ha => exact destroy_balanced hb ha
  | limit => exact hb

theorem onPeer_enters {b : Nat} {f : Peer → Peer} (he : Enters s (s.onPeer b f) a) :
    a = b ∧ (f (s.peer b)).sta.plinkState = .estab ∧ (s.peer b).sta.plinkState ≠ .estab := by
  obtain ⟨h0, h1⟩ := he
  unfold State.onPeer at h1
  dsimp only at h1
  rcases eq_or_ne a b with rfl | hne
  · rw [Roster.get_set_self] at h1
    exact ⟨rfl, h1, h0⟩
  · rw [Roster.get_set_ne _ _ hne] at h1
    exact absurd h1 h0

theorem insert_enters {sdata : Nat} {sta : Option MeshSta} (ha : a ∈ s.stas.list) : ¬Enters s (s.insert sdata sta) a := by
  rintro ⟨h0, h1⟩
  cases sta with
  | none => exact h0 h1
  | some sta =>
    unfold State.insert at h1
    dsimp only at h1
    rw [Roster.get_add_mem _ _ ha] at h1
    exact h0 h1

/-- All but `sta_apply_mesh_params`. -/
def Op.inKernel : Op → Bool
  | .applyMeshParams .. => false
  | _ => true

theorem step_enters {op : Op} (hs : Step s op s') (hk : op.inKernel = true) (ha : a ∈ s.stas.list) (he : Enters s s' a) :
    s.freeCount a ≠ 0 := by
  cases step_did hs with
  | call _ _ hfree =>
    obtain ⟨rfl, h1, h0⟩ := onPeer_enters he
    obtain hne | ⟨_, _, _, rfl⟩ := hfree h1 h0
    · exact hne
    · cases hk
  | insert _ => exact absurd he (insert_enters ha)
  | @destroy _ b _ =>
    have hdown : Enters s (s.onPeer b Peer.deactivate) a := he
    obtain ⟨rfl, h1, h0⟩ := onPeer_enters hdown
    cases h1
  | limit => exact absurd he.2 he.1

end Steps

/-! ## Keeping the limit -/

/-- The limit is not set below the count, and user space establishes no link that is not free. -/
def Ok (s : State) : Op → Prop
  | .applyMeshParams a (some .estab) _ _ _ => (s.stas.get a).mesh.plinkState = .estab ∨ 0 < s.freeCount a
  | .setMaxPeerLinks sdata n => s.estabPlinks sdata ≤ n
  | _ => True

/-- No interface has more links than it may have. -/
def Within (s : State) : Prop := ∀ i, s.estabPlinks i ≤ s.maxPeerLinks i

section Limit

variable {s s' : State} {a : Nat}

/-- A function that establishes no link, or only when there is a free one. -/
theorem onPeer_within {f : Peer → Peer} (hw : Within s) (hf : Counts (s.peer a) (f (s.peer a)))
    (hfree : (f (s.peer a)).sta.plinkState = .estab → (s.peer a).sta.plinkState ≠ .estab → 0 < s.freeCount a) :
    Within (s.onPeer a f) := by
  intro i
  show Function.update s.estabPlinks (s.stas.get a).sdata (f (s.peer a)).estabPlinks i ≤ s.maxPeerLinks i
  rcases eq_or_ne i (s.stas.get a).sdata with rfl | hne
  · have hold : (s.peer a).estabPlinks ≤ s.maxPeerLinks (s.stas.get a).sdata := hw _
    have hfc : s.freeCount a = s.maxPeerLinks (s.stas.get a).sdata - (s.peer a).estabPlinks := rfl
    rw [Function.update_self]
    unfold Counts est at hf
    split_ifs at hf with h0 h1 h1
    · omega
    · omega
    · have hpos := hfree h1 h0
      omega
    · omega
  · rw [Function.update_of_ne hne]
    exact hw i

theorem free_pos (hw : Within s) (h : s.freeCount a ≠ 0) : 0 < s.freeCount a := by
  have hle := hw (s.stas.get a).sdata
  unfold State.freeCount meshPlinkFreeCount at h ⊢
  omega

theorem insert_within {sdata : Nat} {sta : Option MeshSta} (hw : Within s) : Within (s.insert sdata sta) := by
  cases sta with
  | none => exact hw
  | some sta => exact hw

theorem step_within {op : Op} (hw : Within s) (hs : Guarded Ok Step s op s') : Within s' := by
  obtain ⟨hok, hs⟩ := hs
  cases step_did hs with
  | call _ hcounts hfree =>
    refine onPeer_within hw hcounts fun h1 h0 => ?_
    obtain hne | ⟨_, _, _, rfl⟩ := hfree h1 h0
    · exact free_pos hw hne
    · exact hok.resolve_left h0
  | insert _ => exact insert_within hw
  | @destroy _ b _ =>
    have hdown : Within (s.onPeer b Peer.deactivate) := onPeer_within hw (deactivate_counts _) nofun
    exact hdown
  | limit sdata n =>
    intro i
    show s.estabPlinks i ≤ Function.update s.maxPeerLinks sdata n i
    rcases eq_or_ne i sdata with rfl | hne
    · rw [Function.update_self]
      exact hok
    · rw [Function.update_of_ne hne]
      exact hw i

end Limit

/-- The limit of the interface of a station is kept when the station gets a link. -/
def KeepsLimit (s : State) (a : Nat) : Prop :=
  s.estabPlinks (s.stas.get a).sdata < s.maxPeerLinks (s.stas.get a).sdata

/-- **The counts are those of the stations** in every run, and a link is established within the limit if and only if the
    count is not over it; while it is never put over it, every one is. -/
theorem peer_links_counted {s : State} (hr : Reachable Initial Step s) :
    (∀ i, s.estabPlinks i = s.established i) ∧
      (∀ op s' a, Step s op s' → op.inKernel = true → a ∈ s.stas.list → Enters s s' a →
        (KeepsLimit s a ↔ s.estabPlinks (s.stas.get a).sdata ≤ s.maxPeerLinks (s.stas.get a).sdata)) ∧
      (Reachable Initial (Guarded Ok Step) s → ∀ op s' a, Step s op s' → op.inKernel = true → a ∈ s.stas.list →
        Enters s s' a → KeepsLimit s a) := by
  have hlimit : ∀ {op s' a}, Step s op s' → op.inKernel = true → a ∈ s.stas.list → Enters s s' a →
      (KeepsLimit s a ↔ s.estabPlinks (s.stas.get a).sdata ≤ s.maxPeerLinks (s.stas.get a).sdata) := by
    intro op s' a hs hk ha he
    have hne := step_enters hs hk ha he
    unfold State.freeCount meshPlinkFreeCount at hne
    unfold KeepsLimit
    omega
  refine ⟨?_, fun op s' a => hlimit, fun hg op s' a hs hk ha he => (hlimit hs hk ha he).2 ?_⟩
  · refine hr.invariant (fun s h0 i => ?_) fun s op s' => step_balanced
    rw [h0.2 i]
    exact (Roster.tally_empty h0.1 i).symm
  · have hw : Within s := by
      refine hg.invariant (fun s h0 i => ?_) fun s op s' => step_within
      rw [h0.2 i]
      exact Int.natCast_nonneg _
    exact hw _

/-! ## Two neighbours -/

/-- A frame that suits the mesh, of a neighbour that is authenticated. -/
def suits : RxEnv where
  secure := false
  meshIes := true
  rssi := true
  matchesLocal := true
  freeCount := true
  auth := true
  alloc := true

def openFrame : Frame := { action := .open, peering := [0, 0, 7, 0] }

def confirmFrame : Frame := { action := .confirm, peering := [0, 0, 7, 0, 1, 0] }

def almostUp (a : Nat) : List Op := [.addStation 0, .open a true 1, .receive a suits 0 confirmFrame]

theorem next_step (ops : List Op) : ∀ op ∈ ops, ∀ s s', next s op = some s' → Step s op s' := fun _ _ _ _ h => h

def noStations : State where
  stas := Roster.empty fun _ => { sdata := 0, mesh := newSta }
  estabPlinks := fun _ => 0
  maxPeerLinks := fun _ => 2

theorem noStations_initial : Initial noStations := ⟨rfl, fun _ => rfl⟩

/-- The second neighbour is connected within the limit. -/
theorem peer_links_counted_neighbours : ∃ s s', Reachable Initial Step s ∧ Step s (.receive 1 suits 0 openFrame) s' ∧
    Enters s s' 1 ∧ s.established 0 = 1 ∧ KeepsLimit s 1 := by
  obtain ⟨s, hr, hs⟩ := exec_observe noStations_initial (almostUp 0 ++ [.receive 0 suits 0 openFrame] ++ almostUp 1)
    (next_step _)
    (fun s => (s.stas.list, s.stas.get 1, s.estabPlinks 0, s.maxPeerLinks 0,
      ((next s (.receive 1 suits 0 openFrame)).map fun s' => (s'.stas.get 1).mesh.plinkState)))
    (show _ = some ([0, 1], { sdata := 0, mesh := { newSta with plinkState := .cnfRcvd, llid := 1, plid := 7 } }, 1, 2,
      some .estab) by decide)
  simp only [Prod.mk.injEq] at hs
  obtain ⟨hl, h1, hc, hm, hn⟩ := hs
  obtain ⟨s', hs', hst⟩ := Option.map_eq_some_iff.1 hn
  have he : Enters s s' 1 := by
    refine ⟨?_, hst⟩
    rw [h1]
    decide
  have hmem : 1 ∈ s.stas.list := by
    rw [hl]
    decide
  obtain ⟨hcount, hlimit, -⟩ := peer_links_counted hr
  refine ⟨s, s', hr, hs', he, (hcount 0).symm.trans hc, (hlimit _ s' 1 hs' rfl hmem he).2 ?_⟩
  rw [h1]
  show s.estabPlinks 0 ≤ s.maxPeerLinks 0
  rw [hc, hm]
  decide

/-- The limit is set to none, and the second neighbour is connected. -/
theorem limit_exceeded : ∃ s s', Reachable Initial Step s ∧ Step s (.receive 1 suits 0 openFrame) s' ∧
    1 ∈ s.stas.list ∧ Enters s s' 1 ∧ s.estabPlinks 0 = 1 ∧ s.maxPeerLinks 0 = 0 ∧ ¬KeepsLimit s 1 := by
  obtain ⟨s, hr, hs⟩ := exec_observe noStations_initial
    (almostUp 0 ++ [.receive 0 suits 0 openFrame] ++ almostUp 1 ++ [.setMaxPeerLinks 0 0]) (next_step _)
    (fun s => (s.stas.list, s.stas.get 1, s.estabPlinks 0, s.maxPeerLinks 0,
      ((next s (.receive 1 suits 0 openFrame)).map fun s' => (s'.stas.get 1).mesh.plinkState)))
    (show _ = some ([0, 1], { sdata := 0, mesh := { newSta with plinkState := .cnfRcvd, llid := 1, plid := 7 } }, 1, 0,
      some .estab) by decide)
  simp only [Prod.mk.injEq] at hs
  obtain ⟨hl, h1, hc, hm, hn⟩ := hs
  obtain ⟨s', hs', hst⟩ := Option.map_eq_some_iff.1 hn
  refine ⟨s, s', hr, hs', ?_, ⟨?_, hst⟩, hc, hm, ?_⟩
  · rw [hl]
    decide
  · rw [h1]
    decide
  · unfold KeepsLimit
    rw [h1]
    show ¬s.estabPlinks 0 < s.maxPeerLinks 0
    rw [hc, hm]
    decide

end Mac80211.Mesh.PlinkCount
