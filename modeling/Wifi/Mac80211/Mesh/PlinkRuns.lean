import Mathlib.Tactic.SplitIfs
import Wifi.Mac80211.Mesh.Plink

/-!
# The two ends of a peer link agree

* `llid_frameTx`, `plid_frameTx` — the link ids, as they are read from a frame.
* `Change` — what an operation can do to a station's end of the link; `run_change`.
* `SideInv`, `Cross` — what holds at one end, and between the two.
* `peering_agrees` — the ids of established peers are paired.
-/

namespace Mac80211.Mesh.Plink

open Runs

/-! ## Frames -/

section Frames

variable {msg : Msg}

theorem llid_frameTx (msg : Msg) : le16 (meshPlinkFrameTx msg).peering 2 = msg.llid := le16_bytes msg.llid

theorem plid_frameTx (h : msg.action = .confirm) : le16 (meshPlinkFrameTx msg).peering 4 = msg.plid := by
  have hp : (meshPlinkFrameTx msg).peering = [0, 0] ++ (toLe16 msg.llid ++ toLe16 msg.plid) := by
    simp [meshPlinkFrameTx, h]
  rw [hp]
  exact le16_bytes msg.plid

end Frames

/-! ## What an operation can do -/

def confirm (llid plid : LinkId) (reason : BitVec 16) : Ev :=
  .sent { action := .confirm, llid := llid, plid := plid, reason := reason }

def Ev.Quiet : Ev → Prop
  | .sent msg => msg.action = .close
  | .accepted _ => True

/-- What a station with a link does, with the latest first; `known` are the peer's link ids. -/
inductive Speaks (known : List LinkId) (sta : MeshSta) : List Ev → Prop where
  | silent : Speaks known sta []
  | opens (plid : LinkId) (reason : BitVec 16) :
      Speaks known sta [.sent { action := .open, llid := sta.llid, plid := plid, reason := reason }]
  | confirms (reason : BitVec 16) (h : sta.plid ∈ known) :
      Speaks known sta [confirm sta.llid sta.plid reason, .accepted sta.plid]
  | answers (plid : LinkId) (reason reason' : BitVec 16) (h : sta.plid ∈ known) :
      Speaks known sta [confirm sta.llid sta.plid reason,
        .sent { action := .open, llid := sta.llid, plid := plid, reason := reason' }, .accepted sta.plid]

def PlinkState.heard : PlinkState → Bool
  | .cnfRcvd | .estab => true
  | _ => false

/-- The peer has sent a CONFIRM with the station's link ids. -/
def Heard (peer : Side) (sta : MeshSta) : Prop := ∃ reason, confirm sta.plid sta.llid reason ∈ peer.log

/-- **What an operation can do** at one end of the link. -/
inductive Change (peer side : Side) : Side → Prop where
  /-- there is no link afterwards -/
  | down (sta' : Option MeshSta) (evs : List Ev) (hidle : ∀ x ∈ sta', x.plinkState.active = false)
      (hplid : ∀ x ∈ sta', x.plid ≠ 0 → x.plid ∈ peer.used) (hevs : ∀ ev ∈ evs, ev.Quiet) :
      Change peer side { sta := sta', used := side.used, log := evs ++ side.log }
  /-- the link keeps its id, and the peer's once it is known -/
  | keep (sta sta' : MeshSta) (evs : List Ev) (hsta : side.sta = some sta) (hact : sta.plinkState.active = true)
      (hact' : sta'.plinkState.active = true) (hllid : sta'.llid = sta.llid)
      (hplid : sta'.plid = sta.plid ∨ sta.plid = 0 ∧ sta'.plid ∈ peer.used)
      (hheard : sta'.plinkState.heard = true →
        sta.plinkState.heard = true ∧ sta'.plid = sta.plid ∨ Heard peer sta')
      (hevs : Speaks peer.used sta' evs) :
      Change peer side { sta := some sta', used := side.used, log := evs ++ side.log }
  /-- a link begins, with a new id -/
  | start (sta' : MeshSta) (evs : List Ev) (hidle : ∀ x ∈ side.sta, x.plinkState.active = false)
      (hstate : sta'.plinkState = .opnSnt ∨ sta'.plinkState = .opnRcvd)
      (hplid : sta'.plid ≠ 0 → sta'.plid ∈ peer.used) (hevs : Speaks peer.used sta' evs) :
      Change peer side { sta := some sta', used := sta'.llid :: side.used, log := evs ++ side.log }

section Operations

variable {peer side : Side} {sta : MeshSta} {newLlid : LinkId} {event : PlinkEvent} {p : LinkId}

/-- What is known about a station when something happens. -/
structure Known (peer side : Side) (sta : MeshSta) : Prop where
  here : side.sta = some sta ∨ side.sta = none ∧ sta.plinkState = .listen
  plid : sta.plid ≠ 0 → sta.plid ∈ peer.used
  heard : sta.plinkState.heard = true → sta.plid ≠ 0

theorem Known.of_active (hk : Known peer side sta) (ha : sta.plinkState.active = true) : side.sta = some sta := by
  rcases hk.here with h | ⟨-, h⟩
  · exact h
  · rw [h] at ha
    cases ha

theorem Known.idle (hk : Known peer side sta) (ha : sta.plinkState.active = false) :
    ∀ x ∈ side.sta, x.plinkState.active = false := by
  intro x hx
  rcases hk.here with h | ⟨h, -⟩
  · rw [h] at hx
    cases hx
    exact ha
  · rw [h] at hx
    cases hx

theorem change_stay (hk : Known peer side sta) : Change peer side (side.put sta) := by
  cases ha : sta.plinkState.active with
  | false =>
    refine .down (some sta) [] ?_ ?_ nofun
    · intro x hx
      cases hx
      exact ha
    · intro x hx
      cases hx
      exact hk.plid
  | true => exact .keep sta sta [] (hk.of_active ha) ha ha rfl (.inl rfl) (fun h => .inl ⟨h, rfl⟩) .silent

theorem put_self (hs : side.sta = some sta) : side.put sta = side := by
  unfold Side.put
  rw [← hs]

theorem change_self (hk : Known peer side sta) (hs : side.sta = some sta) : Change peer side side := by
  have h := change_stay hk
  rwa [put_self hs] at h

theorem change_same (hk : ∀ x ∈ side.sta, Known peer side x) : Change peer side side := by
  cases hs : side.sta with
  | none =>
    have h : Change peer side { sta := none, used := side.used, log := [] ++ side.log } :=
      .down none [] nofun nofun nofun
    have hside : side = { sta := none, used := side.used, log := [] ++ side.log } := by
      rw [← hs]
      rfl
    exact hside ▸ h
  | some sta => exact change_self (hk sta hs) hs

theorem change_close (sta' : MeshSta) (reason : BitVec 16) (hidle : sta'.plinkState.active = false)
    (hplid : sta'.plid ≠ 0 → sta'.plid ∈ peer.used) :
    Change peer side ((side.put sta').tx .close sta'.llid sta'.plid reason) := by
  refine .down (some sta') [.sent _] ?_ ?_ ?_
  · intro x hx
    cases hx
    exact hidle
  · intro x hx
    cases hx
    exact hplid
  · intro ev hev
    rw [List.mem_singleton.1 hev]
    rfl

theorem change_restart : Change peer side (side.put (meshPlinkFsmRestart sta)) := by
  refine .down _ [] ?_ ?_ nofun
  · intro x hx
    cases hx
    rfl
  · intro x hx
    cases hx
    exact fun h => absurd rfl h

theorem change_reject (hs : side.sta = none) {reason : BitVec 16} : Change peer side (side.tx .close 0 p reason) := by
  have h : Change peer side { sta := none, used := side.used, log := [.sent ⟨.close, 0, p, reason⟩] ++ side.log } := by
    refine .down none _ nofun nofun ?_
    intro ev hev
    rw [List.mem_singleton.1 hev]
    rfl
  rwa [← hs] at h

/-- **An OPEN is accepted**, from a peer whose link id is not known yet or the same. -/
theorem change_opnAcpt (hk : Known peer side sta) (hp : p ∈ peer.used) (hplid : sta.plid = 0 ∨ sta.plid = p)
    (hb : sta.plinkState ≠ .blocked) :
    Change peer side
      (meshPlinkFsm { side with log := .accepted p :: side.log } { sta with plid := p } .opnAcpt newLlid) := by
  have hstill : sta.plinkState.heard = true → p = sta.plid := fun hh =>
    (hplid.resolve_left (hk.heard hh)).symm
  have hchange : p = sta.plid ∨ sta.plid = 0 ∧ p ∈ peer.used := by
    rcases hplid with h | h
    · exact .inr ⟨h, hp⟩
    · exact .inl h.symm
  obtain ⟨state, llid, plid, reason, retries⟩ := sta
  cases state with
  | listen =>
    exact .start ⟨.opnRcvd, newLlid, p, reason, retries⟩ _ (hk.idle rfl) (.inr rfl) (fun _ => hp)
      (.answers _ _ _ hp)
  | opnSnt =>
    exact .keep _ ⟨.opnRcvd, llid, p, reason, retries⟩ _ (hk.of_active rfl) rfl rfl rfl hchange
      nofun (.confirms _ hp)
  | opnRcvd =>
    exact .keep _ ⟨.opnRcvd, llid, p, reason, retries⟩ _ (hk.of_active rfl) rfl rfl rfl hchange
      nofun (.confirms _ hp)
  | cnfRcvd =>
    exact .keep _ ⟨.estab, llid, p, reason, retries⟩ _ (hk.of_active rfl) rfl rfl rfl hchange
      (fun _ => .inl ⟨rfl, hstill rfl⟩) (.confirms _ hp)
  | estab =>
    exact .keep _ ⟨.estab, llid, p, reason, retries⟩ _ (hk.of_active rfl) rfl rfl rfl hchange
      (fun _ => .inl ⟨rfl, hstill rfl⟩) (.confirms _ hp)
  | holding =>
    refine .down (some ⟨.holding, llid, p, reason, retries⟩) [.sent _, .accepted p] ?_ ?_ ?_
    · intro x hx
      cases hx
      rfl
    · intro x hx
      cases hx
      exact fun _ => hp
    · intro ev hev
      rcases List.mem_cons.1 hev with rfl | hev
      · rfl
      · rw [List.mem_singleton.1 hev]
        trivial
  | blocked => exact absurd rfl hb

theorem change_note (hk : Known peer side sta) (hp : p ∈ peer.used) (hplid : sta.plid = 0 ∨ sta.plid = p)
    (hc : Heard peer { sta with plid := p }) : Change peer side (side.put { sta with plid := p }) := by
  cases ha : sta.plinkState.active with
  | true =>
    refine .keep sta { sta with plid := p } [] (hk.of_active ha) ha ha rfl ?_ (fun _ => .inr hc) .silent
    rcases hplid with h | h
    · exact .inr ⟨h, hp⟩
    · exact .inl h.symm
  | false =>
    refine .down (some { sta with plid := p }) [] ?_ ?_ nofun
    · intro x hx
      cases hx
      exact ha
    · intro x hx
      cases hx
      exact fun _ => hp

/-- **A CONFIRM is accepted**: the peer's link id is known afterwards. -/
theorem change_cnfAcpt (hk : Known peer side sta) (hp : p ∈ peer.used) (hplid : sta.plid = 0 ∨ sta.plid = p)
    (hc : Heard peer { sta with plid := p }) :
    Change peer side (meshPlinkFsm side { sta with plid := p } .cnfAcpt newLlid) := by
  have hnote := change_note hk hp hplid hc
  have hchange : p = sta.plid ∨ sta.plid = 0 ∧ p ∈ peer.used := by
    rcases hplid with h | h
    · exact .inr ⟨h, hp⟩
    · exact .inl h.symm
  obtain ⟨state, llid, plid, reason, retries⟩ := sta
  cases state with
  | opnSnt =>
    exact .keep _ ⟨.cnfRcvd, llid, p, reason, retries⟩ [] (hk.of_active rfl) rfl rfl rfl hchange
      (fun _ => .inr hc) .silent
  | opnRcvd =>
    exact .keep _ ⟨.estab, llid, p, reason, retries⟩ [] (hk.of_active rfl) rfl rfl rfl hchange
      (fun _ => .inr hc) .silent
  | holding => exact change_close ⟨.holding, llid, p, reason, retries⟩ _ rfl fun _ => hp
  | listen | cnfRcvd | estab | blocked => exact hnote

/-- **The other events** close the link, or change nothing. -/
theorem change_fsm (hk : Known peer side sta) (ho : event ≠ .opnAcpt) (hc : event ≠ .cnfAcpt) :
    Change peer side (meshPlinkFsm side sta event newLlid) := by
  have hstay := change_stay hk
  have hplid := hk.plid
  have hrestart : Change peer side (side.put (meshPlinkFsmRestart sta)) := change_restart
  obtain ⟨state, llid, plid, reason, retries⟩ := sta
  have hclose : ∀ reason', Change peer side
      ((side.put ⟨.holding, llid, plid, reason', retries⟩).tx .close llid plid reason') :=
    fun reason' => change_close ⟨.holding, llid, plid, reason', retries⟩ reason' rfl hplid
  cases event with
  | opnAcpt => exact absurd rfl ho
  | cnfAcpt => exact absurd rfl hc
  | undefined | opnIgnr | cnfIgnr | clsIgnr =>
    cases state <;> exact hstay
  | opnRjct | cnfRjct =>
    cases state with
    | opnSnt | opnRcvd | cnfRcvd | holding => exact hclose _
    | listen | estab | blocked => exact hstay
  | clsAcpt =>
    cases state with
    | opnSnt | opnRcvd | cnfRcvd | estab => exact hclose _
    | listen | holding => exact hrestart
    | blocked => exact hstay

/-- **A request to open** a link that is not there. -/
theorem change_open (hk : Known peer side sta) {auth : Bool}
    (ho : auth = true → sta.plinkState = .listen ∨ sta.plinkState = .blocked) (hs : side.sta = some sta) :
    Change peer side (meshPlinkOpen side sta auth newLlid) := by
  cases auth with
  | false => exact change_self hk hs
  | true =>
    have hidle : sta.plinkState.active = false := by
      rcases ho rfl with h | h <;> rw [h] <;> rfl
    have hopen : ¬ (sta.plinkState ≠ .listen ∧ sta.plinkState ≠ .blocked) := by
      rintro ⟨hl, hb⟩
      exact (ho rfl).elim hl hb
    unfold meshPlinkOpen
    rw [if_neg (by decide)]
    dsimp only
    rw [if_neg hopen]
    exact .start { sta with plinkState := .opnSnt, llid := newLlid } _ (hk.idle hidle) (.inl rfl) hk.plid (.opens 0 0)

/-- **The timer** asks again, or gives up. -/
theorem change_timer (hk : Known peer side sta) (hs : side.sta = some sta) (env : TimerEnv) :
    Change peer side (meshPlinkTimer side env sta) := by
  have hsame : Change peer side side := change_self hk hs
  have hholding : ∀ reason, Change peer side
      ((side.put { sta with plinkState := .holding }).tx .close sta.llid sta.plid reason) :=
    fun reason => change_close { sta with plinkState := .holding } reason rfl hk.plid
  have hretry : sta.plinkState.active = true → sta.plinkState.heard = false → Change peer side
      ((side.put { sta with plinkRetries := sta.plinkRetries + 1 }).tx .open sta.llid sta.plid 0) := by
    intro ha hh
    refine .keep sta { sta with plinkRetries := sta.plinkRetries + 1 } _ hs ha ha rfl (.inl rfl) ?_ (.opens sta.plid 0)
    intro h
    exact absurd (hh.symm.trans h) (by decide)
  have hrestart : Change peer side (side.put (meshPlinkFsmRestart sta)) := change_restart
  unfold meshPlinkTimer
  cases env.quiescing with
  | true => exact hsame
  | false =>
    cases env.adjusted with
    | true => exact hsame
    | false =>
      rw [if_neg (by decide), if_neg (by decide)]
      dsimp only
      cases hst : sta.plinkState with
      | listen | estab | blocked => exact hsame
      | cnfRcvd => exact hholding _
      | holding => exact hrestart
      | opnRcvd | opnSnt =>
        rw [hst] at hretry
        dsimp only
        by_cases hmax : sta.plinkRetries < env.dot11MeshMaxRetries
        · rw [if_pos hmax]
          exact hst ▸ hretry rfl rfl
        · rw [if_neg hmax]
          exact hholding _

end Operations

/-! ## One end of the link -/

/-- Before every CONFIRM, an OPEN with the same link id was accepted. -/
def Backed : List Ev → Prop
  | [] => True
  | ev :: older => (∀ llid plid reason, ev = confirm llid plid reason → .accepted plid ∈ older) ∧ Backed older

/-- **One end of the link.** -/
structure SideInv (peer side : Side) : Prop where
  /-- the link id in use is the one that was drawn last -/
  live : ∀ sta ∈ side.sta, sta.plinkState.active = true → side.used.head? = some sta.llid
  told : ∀ msg, .sent msg ∈ side.log → msg.action ≠ .close → msg.llid ∈ side.used
  toldPlid : ∀ llid plid reason, confirm llid plid reason ∈ side.log → plid ∈ peer.used
  plid : ∀ sta ∈ side.sta, sta.plid ≠ 0 → sta.plid ∈ peer.used
  /-- what was confirmed under the link id in use is still so -/
  pinned : ∀ sta ∈ side.sta, sta.plinkState.active = true → ∀ plid reason,
    confirm sta.llid plid reason ∈ side.log → sta.plid = plid
  heard : ∀ sta ∈ side.sta, sta.plinkState.heard = true → Heard peer sta
  backed : Backed side.log

section Side

variable {peer peer' side side' : Side} {sta : MeshSta} {msg : Msg} {env : RxEnv} {newLlid llid plid : LinkId}
  {reason : BitVec 16} {evs : List Ev}

theorem heard_active {state : PlinkState} (h : state.heard = true) : state.active = true := by
  cases state with
  | cnfRcvd | estab => rfl
  | listen | opnSnt | opnRcvd | holding | blocked => cases h

theorem Fresh.ne_zero (h : Fresh side) (hm : llid ∈ side.used) : llid ≠ 0 := by
  rintro rfl
  exact (List.nodup_cons.1 h).1 hm

theorem SideInv.told_confirm (hi : SideInv peer side) (h : confirm llid plid reason ∈ side.log) : llid ∈ side.used :=
  hi.told _ h nofun

theorem SideInv.known (hi : SideInv peer side) (hp : SideInv side peer) (hf : Fresh peer) (hs : side.sta = some sta) :
    Known peer side sta := by
  refine ⟨.inl hs, hi.plid sta hs, ?_⟩
  intro hh
  obtain ⟨reason, hc⟩ := hi.heard sta hs hh
  exact hf.ne_zero (hp.told_confirm hc)

theorem known_new (hs : side.sta = none) : Known peer side newSta :=
  ⟨.inr ⟨hs, rfl⟩, fun h => absurd rfl h, nofun⟩

/-! ## Events -/

section Event

variable {sta? : Option MeshSta} {ieLen : Nat} {ftype : Action}

theorem getEvent_opnAcpt (h : meshPlinkGetEvent env sta? ieLen ftype llid plid = .opnAcpt) :
    ftype = .open ∧ ∀ sta ∈ sta?, sta.plinkState ≠ .blocked ∧ (sta.plid = 0 ∨ sta.plid = plid) := by
  unfold meshPlinkGetEvent at h
  cases sta? with
  | none =>
    dsimp only at h
    split_ifs at h with _ hopen
    exact ⟨Decidable.of_not_not hopen, nofun⟩
  | some sta =>
    cases ftype with
    | «open» =>
      dsimp only at h
      split_ifs at h with _ hb _ hplid
      refine ⟨rfl, ?_⟩
      rintro x ⟨⟩
      refine ⟨hb, Decidable.or_iff_not_imp_left.2 fun h0 => ?_⟩
      exact Decidable.of_not_not fun hne => hplid (.inr ⟨h0, hne⟩)
    | confirm | close =>
      dsimp only at h
      split_ifs at h

theorem getEvent_cnfAcpt (h : meshPlinkGetEvent env sta? ieLen ftype llid plid = .cnfAcpt) :
    ftype = .confirm ∧ ∀ sta ∈ sta?, sta.llid = llid ∧ (sta.plid = 0 ∨ sta.plid = plid) := by
  unfold meshPlinkGetEvent at h
  cases sta? with
  | none =>
    dsimp only at h
    split_ifs at h
  | some sta =>
    cases ftype with
    | confirm =>
      dsimp only at h
      split_ifs at h with _ _ _ hids
      refine ⟨rfl, ?_⟩
      rintro x ⟨⟩
      refine ⟨Decidable.of_not_not fun hne => hids (.inr (.inl hne)), Decidable.or_iff_not_imp_left.2 fun h0 => ?_⟩
      exact Decidable.of_not_not fun hne => hids (.inr (.inr ⟨h0, hne⟩))
    | «open» | close =>
      dsimp only at h
      split_ifs at h

end Event

/-- **A frame of the peer.** -/
theorem change_receive (hi : SideInv peer side) (hp : SideInv side peer) (hf : Fresh peer)
    (hm : .sent msg ∈ peer.log) : Change peer side (meshProcessPlinkFrame side env newLlid (meshPlinkFrameTx msg)) := by
  have hsame : Change peer side side := change_same fun x hx => hi.known hp hf hx
  have hact : (meshPlinkFrameTx msg).action = msg.action := rfl
  unfold meshProcessPlinkFrame
  dsimp only
  rw [llid_frameTx, hact]
  obtain ⟨llid, hllid⟩ : ∃ llid, llid = if msg.action = .confirm ∨
      msg.action = .close ∧ (meshPlinkFrameTx msg).peering.length = 8 then le16 (meshPlinkFrameTx msg).peering 4
      else 0 := ⟨_, rfl⟩
  rw [← hllid]
  generalize hev : meshPlinkGetEvent env side.sta (meshPlinkFrameTx msg).peering.length msg.action llid msg.llid = event
  split_ifs
  · exact hsame
  · exact hsame
  · exact hsame
  · exact hsame
  -- the frame is well formed: what happens depends on the event
  cases hs : side.sta with
  | none =>
    cases event with
    | opnAcpt =>
      obtain ⟨hopen, -⟩ := getEvent_opnAcpt hev
      have hused : msg.llid ∈ peer.used := hp.told msg hm (by rw [hopen]; decide)
      unfold meshStaInfoGet
      cases env.alloc with
      | false => exact hsame
      | true => exact change_opnAcpt (known_new hs) hused (.inl rfl) (by decide)
    | opnRjct => exact change_reject hs
    | undefined | opnIgnr | cnfAcpt | cnfRjct | cnfIgnr | clsAcpt | clsIgnr => exact hsame
  | some sta =>
    have hk := hi.known hp hf hs
    rw [hs] at hev
    cases event with
    | opnAcpt =>
      obtain ⟨hopen, hsta⟩ := getEvent_opnAcpt hev
      obtain ⟨hb, hplid⟩ := hsta sta rfl
      have h : Change peer side (meshPlinkFsm { side with log := .accepted msg.llid :: side.log }
          { sta with plid := msg.llid } .opnAcpt newLlid) :=
        change_opnAcpt hk (hp.told msg hm (by rw [hopen]; decide)) hplid hb
      rwa [hs] at h
    | cnfAcpt =>
      obtain ⟨hconf, hsta⟩ := getEvent_cnfAcpt hev
      obtain ⟨hown, hplid⟩ := hsta sta rfl
      rw [if_pos (.inl hconf), plid_frameTx hconf] at hllid
      have hheard : Heard peer { sta with plid := msg.llid } := by
        refine ⟨msg.reason, ?_⟩
        unfold confirm
        rw [show ({ sta with plid := msg.llid } : MeshSta).llid = msg.plid from hown.trans hllid, ← hconf]
        exact hm
      have hnote : (if PlinkEvent.cnfAcpt = .cnfAcpt ∧ sta.plid = 0 then { sta with plid := msg.llid } else sta) =
          { sta with plid := msg.llid } := by
        rcases hplid with h | h
        · rw [if_pos ⟨rfl, h⟩]
        · rw [← h, ite_self]
      dsimp only
      rw [hnote]
      exact change_cnfAcpt hk (hp.told msg hm (by rw [hconf]; decide)) hplid hheard
    | undefined => exact hsame
    | opnRjct | opnIgnr | cnfRjct | cnfIgnr | clsAcpt | clsIgnr =>
      dsimp only
      rw [if_neg (fun h => (nomatch h.1))]
      exact change_fsm hk (by decide) (by decide)

theorem change_neighbourUpdate (hk : ∀ x ∈ side.sta, Known peer side x) (env : BeaconEnv) :
    Change peer side (meshNeighbourUpdate side env newLlid) := by
  have hopen : ∀ sta, Known peer side sta → side.sta = some sta ∨ side.sta = none → Change peer side
      (if sta.plinkState = .listen ∧ env.mayOpen = true then meshPlinkOpen (side.put sta) sta env.auth newLlid
        else side.put sta) := by
    intro sta hsta hhere
    by_cases h : sta.plinkState = .listen ∧ env.mayOpen = true
    · rw [if_pos h]
      have hidle : sta.plinkState.active = false := by
        rw [h.1]
        rfl
      unfold meshPlinkOpen
      cases env.auth with
      | false => exact change_stay hsta
      | true =>
        rw [if_neg (by decide)]
        dsimp only
        rw [if_neg (fun hne => hne.1 h.1)]
        exact .start { sta with plinkState := .opnSnt, llid := newLlid } _ (hsta.idle hidle) (.inl rfl) hsta.plid
          (.opens 0 0)
    · rw [if_neg h]
      exact change_stay hsta
  unfold meshNeighbourUpdate meshStaInfoGet
  cases hs : side.sta with
  | none =>
    cases env.alloc with
    | false => exact change_same hk
    | true => exact hopen newSta (known_new hs) (.inr hs)
  | some sta => exact hopen sta (hk sta hs) (.inl hs)

/-- **An operation** at one end of the link. -/
theorem run_change (hi : SideInv peer side) (hp : SideInv side peer) (hf : Fresh peer) {op : Op}
    (hm : op.InFlight peer) (hok : op.InTime side) : Change peer side (op.run side) := by
  have hk : ∀ x ∈ side.sta, Known peer side x := fun x hx => hi.known hp hf hx
  cases op with
  | receive msg env newLlid => exact change_receive hi hp hf hm
  | neighbourUpdate env newLlid => exact change_neighbourUpdate hk env
  | timer env =>
    unfold Op.run
    cases hs : side.sta with
    | none => exact change_same hk
    | some sta => exact change_timer (hk sta hs) hs env
  | «open» auth newLlid =>
    unfold Op.run
    cases hs : side.sta with
    | none => exact change_same hk
    | some sta => exact change_open (hk sta hs) (hok sta hs) hs
  | block =>
    unfold Op.run
    cases hs : side.sta with
    | none => exact change_same hk
    | some sta =>
      refine .down (some (meshPlinkDeactivate' sta)) [] ?_ ?_ nofun
      · rintro x ⟨⟩
        rfl
      · rintro x ⟨⟩
        exact (hk sta hs).plid
  | remove =>
    unfold Op.run
    cases hs : side.sta with
    | none => exact change_same hk
    | some sta =>
      refine .down none [.sent _] nofun nofun ?_
      intro ev hev
      rw [List.mem_singleton.1 hev]
      rfl

/-! ## What a change keeps -/

/-- What a station has drawn and sent only grows, and a CONFIRM carries the link id that was drawn last. -/
structure Grows (side side' : Side) : Prop where
  used : side'.used = side.used ∨ ∃ llid, side'.used = llid :: side.used
  log : ∀ ev ∈ side.log, ev ∈ side'.log
  confirm : ∀ llid plid reason, confirm llid plid reason ∈ side'.log →
    confirm llid plid reason ∈ side.log ∨ side'.used.head? = some llid

theorem Speaks.confirm_eq (h : Speaks peer.used sta evs) (hm : confirm llid plid reason ∈ evs) :
    llid = sta.llid ∧ plid = sta.plid ∧ sta.plid ∈ peer.used := by
  cases h with
  | silent => cases hm
  | opens => simp [confirm] at hm
  | confirms _ hused | answers _ _ _ hused =>
    simp only [confirm, List.mem_cons, Ev.sent.injEq, Msg.mk.injEq, true_and, reduceCtorEq, false_and, List.not_mem_nil,
      or_false] at hm
    exact ⟨hm.1, hm.2.1, hused⟩

theorem Speaks.told (h : Speaks peer.used sta evs) (hm : .sent msg ∈ evs) : msg.llid = sta.llid := by
  cases h with
  | silent => cases hm
  | opens =>
    rw [List.mem_singleton, Ev.sent.injEq] at hm
    rw [hm]
  | confirms =>
    simp only [confirm, List.mem_cons, Ev.sent.injEq, reduceCtorEq, List.not_mem_nil, or_false] at hm
    rw [hm]
  | answers =>
    simp only [confirm, List.mem_cons, Ev.sent.injEq, reduceCtorEq, List.not_mem_nil, or_false] at hm
    rcases hm with h | h <;> rw [h]

theorem Speaks.backed (h : Speaks peer.used sta evs) {log : List Ev} (hb : Backed log) : Backed (evs ++ log) := by
  cases h with
  | silent => exact hb
  | opens => simpa [Backed, confirm] using hb
  | confirms => simpa [Backed, confirm] using hb
  | answers => simpa [Backed, confirm] using hb

theorem quiet_told (h : ∀ ev ∈ evs, ev.Quiet) (hm : .sent msg ∈ evs) : msg.action = .close := h _ hm

theorem quiet_backed (h : ∀ ev ∈ evs, ev.Quiet) {log : List Ev} (hb : Backed log) : Backed (evs ++ log) := by
  induction evs with
  | nil => exact hb
  | cons ev evs ih =>
    refine ⟨?_, ih fun ev hev => h ev (List.mem_cons_of_mem _ hev)⟩
    rintro llid plid reason rfl
    exact nomatch h _ List.mem_cons_self

theorem Change.grows (h : Change peer side side') (hi : SideInv peer side) : Grows side side' := by
  cases h with
  | down sta' evs _ _ hevs =>
    refine ⟨.inl rfl, fun ev hev => List.mem_append_right _ hev, ?_⟩
    intro llid plid reason hm
    rcases List.mem_append.1 hm with hm | hm
    · exact nomatch quiet_told hevs hm
    · exact .inl hm
  | keep sta sta' evs hsta hact _ hllid _ _ hevs =>
    refine ⟨.inl rfl, fun ev hev => List.mem_append_right _ hev, ?_⟩
    intro llid plid reason hm
    rcases List.mem_append.1 hm with hm | hm
    · rw [(hevs.confirm_eq hm).1, hllid]
      exact .inr (hi.live sta hsta hact)
    · exact .inl hm
  | start sta' evs _ _ _ hevs =>
    refine ⟨.inr ⟨_, rfl⟩, fun ev hev => List.mem_append_right _ hev, ?_⟩
    intro llid plid reason hm
    rcases List.mem_append.1 hm with hm | hm
    · rw [(hevs.confirm_eq hm).1]
      exact .inr rfl
    · exact .inl hm

theorem Grows.mem (hg : Grows side side') (h : llid ∈ side.used) : llid ∈ side'.used := by
  rcases hg.used with hu | ⟨n, hu⟩
  · rwa [hu]
  · rw [hu]
    exact List.mem_cons_of_mem _ h

theorem Grows.sideInv (hg : Grows peer peer') (hi : SideInv peer side) : SideInv peer' side where
  live := hi.live
  told := hi.told
  toldPlid llid plid reason h := hg.mem (hi.toldPlid llid plid reason h)
  plid sta hs h0 := hg.mem (hi.plid sta hs h0)
  pinned := hi.pinned
  heard sta hs hh := (hi.heard sta hs hh).imp fun _ hm => hg.log _ hm
  backed := hi.backed

/-- **The end where it happens.** -/
theorem Change.sideInv (h : Change peer side side') (hi : SideInv peer side) (hf : Fresh peer) (hf' : Fresh side') :
    SideInv peer side' := by
  have hg := h.grows hi
  cases h with
  | down sta' evs hidle hplid hevs =>
    refine ⟨?_, ?_, ?_, hplid, ?_, ?_, quiet_backed hevs hi.backed⟩
    · intro sta hs ha
      exact absurd ((hidle sta hs).symm.trans ha) (by decide)
    · intro msg hm hc
      rcases List.mem_append.1 hm with hm | hm
      · exact absurd (quiet_told hevs hm) hc
      · exact hi.told msg hm hc
    · intro llid plid reason hm
      rcases List.mem_append.1 hm with hm | hm
      · exact nomatch quiet_told hevs hm
      · exact hi.toldPlid llid plid reason hm
    · intro sta hs ha
      exact absurd ((hidle sta hs).symm.trans ha) (by decide)
    · intro sta hs hh
      exact absurd ((hidle sta hs).symm.trans (heard_active hh)) (by decide)
  | keep sta sta' evs hsta hact hact' hllid hplid hheard hevs =>
    have hlive := hi.live sta hsta hact
    refine ⟨?_, ?_, ?_, ?_, ?_, ?_, hevs.backed hi.backed⟩
    · rintro x ⟨⟩ _
      rw [hllid]
      exact hlive
    · intro msg hm hc
      rcases List.mem_append.1 hm with hm | hm
      · rw [hevs.told hm, hllid]
        exact List.mem_of_mem_head? hlive
      · exact hi.told msg hm hc
    · intro llid plid reason hm
      rcases List.mem_append.1 hm with hm | hm
      · obtain ⟨-, rfl, hused⟩ := hevs.confirm_eq hm
        exact hused
      · exact hi.toldPlid llid plid reason hm
    · rintro x ⟨⟩ h0
      rcases hplid with hp | ⟨-, hp⟩
      · rw [hp] at h0 ⊢
        exact hi.plid sta hsta h0
      · exact hp
    · rintro x ⟨⟩ _ plid reason hm
      rcases List.mem_append.1 hm with hm | hm
      · exact (hevs.confirm_eq hm).2.1.symm
      · rw [hllid] at hm
        have hpin := hi.pinned sta hsta hact plid reason hm
        rcases hplid with hp | ⟨hp, -⟩
        · exact hp.trans hpin
        · exact absurd (hpin.symm.trans hp) (hf.ne_zero (hi.toldPlid _ _ _ hm))
    · rintro x ⟨⟩ hh
      rcases hheard hh with ⟨hh', hp⟩ | h
      · obtain ⟨reason, hm⟩ := hi.heard sta hsta hh'
        refine ⟨reason, ?_⟩
        rw [hp, hllid]
        exact hm
      · exact h
  | start sta' evs hidle hstate hplid hevs =>
    have hnew : sta'.llid ∉ side.used := (List.nodup_cons.1 (List.nodup_cons.1 hf').2).1
    refine ⟨?_, ?_, ?_, ?_, ?_, ?_, hevs.backed hi.backed⟩
    · rintro x ⟨⟩ _
      rfl
    · intro msg hm hc
      rcases List.mem_append.1 hm with hm | hm
      · rw [hevs.told hm]
        exact List.mem_cons_self
      · exact List.mem_cons_of_mem _ (hi.told msg hm hc)
    · intro llid plid reason hm
      rcases List.mem_append.1 hm with hm | hm
      · obtain ⟨-, rfl, hused⟩ := hevs.confirm_eq hm
        exact hused
      · exact hi.toldPlid llid plid reason hm
    · rintro x ⟨⟩
      exact hplid
    · rintro x ⟨⟩ _ plid reason hm
      rcases List.mem_append.1 hm with hm | hm
      · exact (hevs.confirm_eq hm).2.1.symm
      · exact absurd (hi.told_confirm hm) hnew
    · rintro x ⟨⟩ hh
      rcases hstate with h | h <;> rw [h] at hh <;> cases hh

end Side

/-! ## Both ends -/

/-- **Between the ends**: of two CONFIRMs that name the link ids in use, one was answered under them. -/
def Cross (x y : Side) : Prop :=
  ∀ a b a' b' reason reason', x.used.head? = some a → y.used.head? = some b →
    confirm b' a reason ∈ y.log → confirm a' b reason' ∈ x.log → a' = a ∨ b' = b

section Both

variable {x x' y : Side} {s s' : State} {i : Who × Op}

theorem Cross.symm (h : Cross x y) : Cross y x :=
  fun a b a' b' reason reason' ha hb hm hm' => (h b a b' a' reason' reason hb ha hm' hm).symm

theorem Grows.cross (hg : Grows x x') (hf' : Fresh x') (hi : SideInv x y) (h : Cross x y) : Cross x' y := by
  intro a b a' b' reason reason' ha hb hm hm'
  rcases hg.confirm _ _ _ hm' with hold | hhead
  · rcases hg.used with hu | ⟨n, hu⟩
    · rw [hu] at ha
      exact h a b a' b' reason reason' ha hb hm hold
    · -- the link id was just drawn: no CONFIRM of the peer names it
      rw [hu] at ha
      cases ha
      unfold Fresh at hf'
      rw [hu] at hf'
      exact absurd (hi.toldPlid _ _ _ hm) (List.nodup_cons.1 (List.nodup_cons.1 hf').2).1
  · rw [hhead] at ha
    exact .inl (Option.some.inj ha)

/-- **The invariant** of the two stations. -/
structure Inv (s : State) : Prop where
  fresh : ∀ w, Fresh (s w)
  side : ∀ w, SideInv (s w.other) (s w)
  cross : Cross (s .a) (s .b)

theorem initial_inv (h : Initial s) : Inv s := by
  refine ⟨?_, ?_, ?_⟩
  · intro w
    rw [h w]
    exact List.pairwise_singleton _ _
  · intro w
    rw [h w]
    exact ⟨nofun, nofun, nofun, nofun,
      nofun, nofun, trivial⟩
  · intro a b a' b' reason reason' ha
    rw [h .a] at ha
    cases ha

theorem other_ne (w : Who) : w.other ≠ w := by cases w <;> decide

theorem next_eq (h : Step s i s') : i.2.InFlight (s i.1.other) ∧ Fresh (i.2.run (s i.1)) ∧
    s' = Function.update s i.1 (i.2.run (s i.1)) := by
  unfold Step next at h
  split_ifs at h with hv
  exact ⟨hv.1, hv.2, (Option.some.inj h).symm⟩

theorem step_change (hi : Inv s) (hok : Ok s i) (h : Step s i s') : Change (s i.1.other) (s i.1) (s' i.1) := by
  obtain ⟨hm, -, rfl⟩ := next_eq h
  have hp : SideInv (s i.1) (s i.1.other) := by
    have := hi.side i.1.other
    rwa [show i.1.other.other = i.1 by cases i.1 <;> rfl] at this
  rw [Function.update_self]
  exact run_change (hi.side i.1) hp (hi.fresh _) hm hok

/-- **One step.** -/
theorem step_inv (hi : Inv s) (hok : Ok s i) (h : Step s i s') : Inv s' := by
  have hc := step_change hi hok h
  obtain ⟨w, op⟩ := i
  obtain ⟨-, hfresh, rfl⟩ := next_eq h
  dsimp only at hc hfresh ⊢
  rw [Function.update_self] at hc
  have hg := hc.grows (hi.side w)
  have hother : Function.update s w (op.run (s w)) w.other = s w.other := Function.update_of_ne (other_ne w) ..
  have hback : w.other.other = w := by cases w <;> rfl
  have hpeer : SideInv (s w) (s w.other) := by
    have := hi.side w.other
    rwa [hback] at this
  refine ⟨?_, ?_, ?_⟩
  · intro v
    rcases eq_or_ne v w with rfl | hv
    · rw [Function.update_self]
      exact hfresh
    · rw [Function.update_of_ne hv]
      exact hi.fresh v
  · intro v
    rcases eq_or_ne v w with rfl | hv
    · rw [Function.update_self, hother]
      exact hc.sideInv (hi.side v) (hi.fresh _) hfresh
    · have hvw : v = w.other := by
        cases v <;> cases w <;> first | rfl | exact absurd rfl hv
      subst hvw
      rw [hback, Function.update_self, hother]
      exact hg.sideInv hpeer
  · cases w with
    | a =>
      have hb : Function.update s .a (op.run (s .a)) .b = s .b := hother
      rw [Function.update_self, hb]
      exact hg.cross hfresh hpeer hi.cross
    | b =>
      have ha : Function.update s .b (op.run (s .b)) .a = s .a := hother
      rw [Function.update_self, ha]
      exact (hg.cross hfresh hpeer hi.cross.symm).symm

theorem confirmed_of_backed {llid plid : LinkId} {reason : BitVec 16} : ∀ {log : List Ev}, Backed log →
    confirm llid plid reason ∈ log → ConfirmedAfterOpen log llid plid
  | ev :: older, hb, hm => by
    rcases List.mem_cons.1 hm with rfl | hm
    · exact ⟨[], older, reason, rfl, hb.1 _ _ _ rfl⟩
    · obtain ⟨newer, older', reason', heq, hacc⟩ := confirmed_of_backed hb.2 hm
      exact ⟨ev :: newer, older', reason', by rw [heq]; rfl, hacc⟩

theorem Inv.agreement (hi : Inv s) : Agreement s := by
  refine ⟨?_, ?_⟩
  · intro w sta hs he
    obtain ⟨reason, hm⟩ := hi.side w |>.heard sta hs (by rw [he]; rfl)
    exact confirmed_of_backed (hi.side w.other).backed hm
  · intro x hx y hy hex hey
    have hax : x.plinkState.active = true := by rw [hex]; rfl
    have hay : y.plinkState.active = true := by rw [hey]; rfl
    obtain ⟨reason, hmx⟩ := (hi.side .a).heard x hx (by rw [hex]; rfl)
    obtain ⟨reason', hmy⟩ := (hi.side .b).heard y hy (by rw [hey]; rfl)
    have hlx := (hi.side .a).live x hx hax
    have hly := (hi.side .b).live y hy hay
    -- one of the confirmed links is the one in use; the other id is pinned to it
    rcases hi.cross _ _ _ _ _ _ hlx hly hmx hmy with h | h
    · rw [h] at hmy
      exact ⟨h.symm, (hi.side .a).pinned x hx hax _ _ hmy⟩
    · rw [h] at hmx
      exact ⟨((hi.side .b).pinned y hy hay _ _ hmx).symm, h⟩

theorem step_keepsLlid (hi : Inv s) (hok : Ok s i) (h : Step s i s') : KeepsLlid s s' := by
  have hc := step_change hi hok h
  obtain ⟨-, -, rfl⟩ := next_eq h
  intro w sta hs sta' hs' ha ha'
  rcases eq_or_ne w i.1 with rfl | hw
  · generalize Function.update s i.1 (i.2.run (s i.1)) i.1 = side' at hc hs'
    cases hc with
    | down _ _ hidle => exact absurd ((hidle sta' hs').symm.trans ha') (by decide)
    | keep sta₀ sta₁ _ hsta _ _ hllid =>
      cases hs'
      cases hsta.symm.trans hs
      exact hllid
    | start _ _ hidle => exact absurd ((hidle sta hs).symm.trans ha) (by decide)
  · rw [Function.update_of_ne hw, hs] at hs'
    cases hs'
    rfl

end Both

/-- **Peers agree.**  In every run in which a link is opened on request only while there is none, whoever is
    established was confirmed by a peer that had accepted its OPEN, the ids of established peers are paired,
    and every further step keeps a link id that is in use. -/
theorem peering_agrees {s : State} (hr : Reachable Initial (Guarded Ok Step) s) :
    Agreement s ∧ ∀ i s', Ok s i → Step s i s' → KeepsLlid s s' := by
  have hi : Inv s := hr.invariant (fun s h => initial_inv h) fun s i s' hi h => step_inv hi h.1 h.2
  exact ⟨hi.agreement, fun i s' hok h => step_keepsLlid hi hok h⟩

/-! ## Two neighbours -/

def willing : RxEnv :=
  { secure := false, meshIes := true, rssi := true, matchesLocal := true, freeCount := true, auth := true, alloc := true }

def unknown : State := fun _ => { sta := none, used := [], log := [] }

theorem unknown_initial : Initial unknown := fun _ => rfl

/-- `a` hears `b`'s beacon and opens the link; `b` answers, and both confirm. -/
def handshake : List (Who × Op) :=
  [(.a, .neighbourUpdate { alloc := true, auth := true, mayOpen := true } 1),
    (.b, .receive { action := .open, llid := 1, plid := 0, reason := 0 } willing 2),
    (.a, .receive { action := .open, llid := 2, plid := 1, reason := 0 } willing 0),
    (.a, .receive { action := .confirm, llid := 2, plid := 1, reason := 0 } willing 0),
    (.b, .receive { action := .confirm, llid := 1, plid := 2, reason := 0 } willing 0)]

theorem handshake_ok (s : State) {i : Who × Op} (hi : i ∈ handshake) : Ok s i := by
  simp only [handshake, List.mem_cons, List.not_mem_nil, or_false] at hi
  rcases hi with rfl | rfl | rfl | rfl | rfl <;> trivial

def stations (s : State) : Option MeshSta × Option MeshSta := ((s .a).sta, (s .b).sta)

def established (llid plid : LinkId) : Option MeshSta :=
  some { plinkState := .estab, llid := llid, plid := plid, reason := 0, plinkRetries := 0 }

theorem peering_agrees_handshake : ∃ s, Reachable Initial (Guarded Ok Step) s ∧
    stations s = (established 1 2, established 2 1) ∧ Agreement s := by
  have hsteps : ∀ i ∈ handshake, ∀ s s', next s i = some s' → Guarded Ok Step s i s' :=
    fun i hi s s' h => ⟨handshake_ok s hi, h⟩
  obtain ⟨s, hr, hs⟩ := exec_observe unknown_initial handshake hsteps stations
    (show _ = some (established 1 2, established 2 1) by decide)
  exact ⟨s, hr, hs, (peering_agrees hr).1⟩

/-- A request to open the link that exists replaces its link id at one end. -/
theorem llid_replaced : ∃ s, Reachable Initial Step s ∧ stations s = (established 3 2, established 2 1) ∧
    ¬ Agreement s := by
  have hsteps : ∀ i ∈ handshake ++ [(.a, .open true 3)], ∀ s s', next s i = some s' → Step s i s' :=
    fun _ _ _ _ h => h
  obtain ⟨s, hr, hs⟩ := exec_observe unknown_initial (handshake ++ [(.a, .open true 3)]) hsteps stations
    (show _ = some (established 3 2, established 2 1) by decide)
  refine ⟨s, hr, hs, ?_⟩
  intro h
  have ha : (s .a).sta = established 3 2 := congrArg Prod.fst hs
  have hb : (s .b).sta = established 2 1 := congrArg Prod.snd hs
  exact absurd (h.paired _ ha _ hb rfl rfl).1 (by decide)

end Mac80211.Mesh.Plink
