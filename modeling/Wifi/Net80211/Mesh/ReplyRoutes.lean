import Wifi.Net80211.Mesh.Gates

/-!
# The routes that HWMP replies follow

* `Hearing` — a mesh vap, the addresses that frames came from, and the PREQs it forwarded.
* `HearStep` — everything that happens to it.
* `Follows` — a reply to an originator goes along a valid route whose next hop was heard, and a PREQ is forwarded
  again only when its metric is better.
* `Fits` — what a frame must meet for that; `replies_follow`.
-/

namespace Net80211.Mesh

open Records Runs

/-! ## What was heard -/

/-- A mesh vap, with the transmitters of the frames it received, the next hops that `ieee80211_mesh_proxy_check`
    wrote, and the originators, sequence numbers and ids of the PREQs that it forwarded. -/
structure Hearing where
  ms : MeshState
  heard : List MacAddr
  own : List MacAddr
  forwarded : List (MacAddr × BitVec 32 × BitVec 32)

def MeshpreqIe.key (preq : MeshpreqIe) : MacAddr × BitVec 32 × BitVec 32 :=
  (preq.preqOrigaddr, preq.preqOrigseq, preq.preqId)

def newTx (s s' : MeshState) : List Tx := s'.sent.take (s'.sent.length - s.sent.length)

def Tx.isPreq : Tx → Bool
  | .preq _ _ => true
  | _ => false

/-- The addresses that a PREQ or a PREP came from: of the node, and in the frame. -/
def GateOp.transmitters : GateOp → List MacAddr
  | .recvPreq _ ni addr2 _ => [ni, addr2]
  | .recvPrep _ ni addr2 _ => [ni, addr2]
  | _ => []

def GateOp.forwards (s s' : MeshState) : GateOp → List (MacAddr × BitVec 32 × BitVec 32)
  | .recvPreq _ _ _ preq => if (newTx s s').any Tx.isPreq then [preq.key] else []
  | _ => []

inductive HearOp where
  | gate (op : GateOp)
  | proxyCheck (env : Env) (dest : MacAddr)

inductive HearStep : Hearing → HearOp → Hearing → Prop where
  | gate {st : Hearing} {op : GateOp} {s' : MeshState} (h : GateStep st.ms op s') :
    HearStep st (.gate op)
      { ms := s'
        heard := op.transmitters ++ st.heard
        own := st.own
        forwarded := op.forwards st.ms s' ++ st.forwarded }
  | proxyCheck {st : Hearing} (env : Env) (dest : MacAddr) :
    HearStep st (.proxyCheck env dest)
      { st with ms := st.ms.proxyCheck env dest, own := st.ms.ivMyaddr :: st.own }

def Hearing.Init (st : Hearing) : Prop := NoGates st.ms ∧ st.heard = [] ∧ st.own = [] ∧ st.forwarded = []

/-! ## What is claimed -/

namespace MeshState

variable (env : Env) (s : MeshState)

/-- `hwmp_recv_preq`, up to the update of the transmitter, with the originator's route; nothing when it returns
    before. -/
def preqReached (ni addr2 : MacAddr) (preq : MeshpreqIe) : Option (MeshState × Nat) :=
  if s.ivMyaddr = preq.preqOrigaddr then none
  else
    let rttarg := s.rtFind preq.target0.targetAddr
    if s.preqAccepts preq rttarg = false then none
    else
      match s.rtFindOrAdd env preq.preqOrigaddr with
      | none => none
      | some (s, rtorig) =>
        let preqid := (s.deref rtorig).hrPreqid
        let s := s.modifyRt rtorig fun rt => { rt with hrPreqid := seqMax rt.hrPreqid preq.preqId }
        if preqUpdates env preq (s.deref rtorig) then
          some ((s.preqUpdateOrig env addr2 preq rtorig).hwmpUpdateTransmitter env ni, rtorig)
        else if preqDiscards preq (rttarg.map s.deref) (s.deref rtorig) preqid then none
        else some (s.hwmpUpdateTransmitter env ni, rtorig)

/-- `hwmp_recv_prep`, up to the update of the transmitter; nothing when it returns before. -/
def prepReached (ni : MacAddr) (prep : MeshprepIe) : Option MeshState :=
  if s.prepAccepts prep = false then none
  else
    match s.rtFindOrAdd env prep.prepTargetaddr with
    | none => none
    | some (s, p) =>
      if prepDiscards env prep (s.deref p) then none
      else some ((s.prepUpdateTarg env ni prep p).hwmpUpdateTransmitter env ni)

end MeshState

/-- **`hwmp_recv_preq`**: a PREP that is not the target's own reply goes along the originator's route, which is valid
    and whose next hop was heard; a PREQ that was forwarded already is forwarded when its metric is better. -/
structure PreqFollows (st : Hearing) (env : Env) (ni addr2 : MacAddr) (preq : MeshpreqIe) : Prop where
  reply : ∀ t p, st.ms.preqReached env ni addr2 preq = some (t, p) →
    t.preqForUs preq (st.ms.rtFind preq.target0.targetAddr) = false →
    ∀ da ie, .prep da ie ∈ newTx t (st.ms.hwmpRecvPreq env ni addr2 preq) →
      ∃ rt ∈ (st.ms.hwmpRecvPreq env ni addr2 preq).msRoutes, rt.rtDest = preq.preqOrigaddr ∧ rt.rtNexthop = da ∧
        rt.rtFlags.valid = true ∧ da ∈ ni :: addr2 :: st.heard
  once : preq.key ∈ st.forwarded → (newTx st.ms (st.ms.hwmpRecvPreq env ni addr2 preq)).any Tx.isPreq = true →
    ∃ rt ∈ st.ms.msRoutes, rt.rtDest = preq.preqOrigaddr ∧ seqEq preq.preqOrigseq rt.hrSeq = true ∧
      preq.preqMetric + env.mpmMetric < rt.rtMetric

/-- **`hwmp_recv_prep`**: a PREP that is propagated goes along such a route. -/
def PrepFollows (st : Hearing) (env : Env) (ni addr2 : MacAddr) (prep : MeshprepIe) : Prop :=
  ∀ t, st.ms.prepReached env ni prep = some t →
    ∀ da ie, .prep da ie ∈ newTx t (st.ms.hwmpRecvPrep env ni addr2 prep) →
      ∃ rt ∈ t.msRoutes, rt.rtDest = prep.prepOrigaddr ∧ rt.rtNexthop = da ∧ rt.rtFlags.valid = true ∧
        da ∈ ni :: addr2 :: st.heard

def Follows (st : Hearing) : HearOp → Prop
  | .gate (.recvPreq env ni addr2 preq) => PreqFollows st env ni addr2 preq
  | .gate (.recvPrep env ni addr2 prep) => PrepFollows st env ni addr2 prep
  | _ => True

/-! ## The condition -/

/-- The originator's route is valid, or the originator itself sent the frame; and its next hop is not our own. -/
structure OrigKnown (st : Hearing) (ni orig : MacAddr) : Prop where
  own : ∀ rt ∈ st.ms.msRoutes, rt.rtDest = orig → rt.rtFlags.valid = true → rt.rtNexthop ∉ st.own
  valid : ni = orig ∨ ∃ rt ∈ st.ms.msRoutes, rt.rtDest = orig ∧ rt.rtFlags.valid = true

/-- The PREQ asks a root's reply, or an intermediate one. -/
def MeshState.repliesTo (s : MeshState) (preq : MeshpreqIe) : Prop :=
  (preq.target0.targetAddr = broadcastaddr ∧ hasFlag preq.target0.targetFlags IEEE80211_MESHPREQ_TFLAGS_TO = true) ∨
    (preq.preqTcount = 1 ∧ preq.preqTtl > 1 ∧ s.msFlags.fwd = true ∧
      hasFlag preq.target0.targetFlags IEEE80211_MESHPREQ_TFLAGS_TO = false ∧ s.rtFind preq.target0.targetAddr ≠ none)

structure PreqFits (st : Hearing) (env : Env) (ni : MacAddr) (preq : MeshpreqIe) : Prop where
  reply : st.ms.repliesTo preq →
    (hasFlag preq.preqFlags IEEE80211_MESHPREQ_FLAGS_AE = true → preq.preqOrigExtAddr ≠ preq.preqOrigaddr) ∧
      (MeshState.preqUpdates env preq ((look MeshRoute.rtDest preq.preqOrigaddr st.ms.msRoutes).getD .zero) = true ∨
        OrigKnown st ni preq.preqOrigaddr)
  once : preq.key ∈ st.forwarded → ∃ rt ∈ st.ms.msRoutes, rt.rtDest = preq.preqOrigaddr ∧ rt.rtFlags.valid = true ∧
    rt.hrPreqid ≥ preq.preqId ∧ seqGt preq.preqOrigseq rt.hrSeq = false

/-- **The condition**: a PREQ that asks for a reply gives the originator a route, or there is one; the route of a PREQ
    that was forwarded is valid and not older; and a PREP that is propagated finds a route to its originator. -/
def Fits (st : Hearing) : HearOp → Prop
  | .gate (.recvPreq env ni _ preq) => PreqFits st env ni preq
  | .gate (.recvPrep _ ni _ prep) => prep.prepTtl > 1 → prep.prepHopcount < st.ms.hsMaxhops →
    st.ms.ivMyaddr ≠ prep.prepOrigaddr → st.ms.rtFind prep.prepOrigaddr ≠ none →
      prep.prepTargetaddr = prep.prepOrigaddr ∨ OrigKnown st ni prep.prepOrigaddr
  | _ => True

section Steps

variable {env : Env} {s s' t : MeshState} {ni addr2 dest : MacAddr} {preq : MeshpreqIe} {prep : MeshprepIe} {p : Nat}
  {rt : MeshRoute} {L : List MacAddr} {rttarg : Option Nat}

/-! ## Next hops -/

/-- The next hop of a valid route is one of these. -/
def Learnt (L : List MacAddr) (rt : MeshRoute) : Prop := rt.rtFlags.valid = true → rt.rtNexthop ∈ L

/-- The table of a vap whose next hops are these. -/
abbrev LearntTable (L : List MacAddr) (s : MeshState) : Prop := Routes 0 (fun _ => False) (Learnt L) s

theorem Learnt.new (h : rt.rtFlags = .none) : Learnt L rt := by
  intro hv
  rw [h] at hv
  cases hv

theorem Learnt.update (h : Learnt L rt) (lifetime : BitVec 32) : Learnt L (rt.update env lifetime) := by
  intro hv
  rw [(rt.update_path env lifetime).2.1]
  exact h (rt.valid_of_update env lifetime hv)

theorem learnt_hwmpUpdateTransmitter (env : Env) (h : LearntTable L s) (hni : ni ∈ L) :
    LearntTable L (s.hwmpUpdateTransmitter env ni) := by
  refine h.hwmpUpdateTransmitter (fun _ rt _ _ hf _ => .new hf) (fun rt _ hrt => ?_) fun _ _ hrt => hrt
  split
  · intro _
    rw [show (rt.transmitted env ni).rtNexthop = _ from (MeshRoute.update_path env _ _).2.1]
    exact hni
  · exact hrt

theorem learnt_preqAccepted (h : LearntTable L s) (hni : ni ∈ L) :
    LearntTable L (s.preqAccepted env ni addr2 preq p rttarg) := by
  have htrans := learnt_hwmpUpdateTransmitter env h hni
  unfold MeshState.preqAccepted
  dsimp only
  split
  · exact htrans.preqReply fun _ _ hrt => hrt
  · split
    · exact htrans
    · rename_i s' hext
      have hs' : LearntTable L s' := by
        refine htrans.preqExt hext (fun rt _ hf _ => .new hf) ?_ fun _ hrt => hrt
        intro _ rt g e _ hrt
        have hrt' : Learnt L { rt with rtMeshGate := g, rtExtSeq := e } := hrt
        exact hrt'.update _
      refine Routes.preqForward ?_
      unfold MeshState.preqRoot
      split
      · refine Routes.preqRootReply (hs'.markRoot (fun rt _ _ hrt => ?_) fun _ _ _ hrt => hrt)
        split
        · exact hrt
        · exact hrt
      · exact hs'

theorem learnt_hwmpRecvPreq (h : LearntTable L s) (hni : ni ∈ L) (ha : addr2 ∈ L) :
    LearntTable L (s.hwmpRecvPreq env ni addr2 preq) := by
  unfold MeshState.hwmpRecvPreq
  dsimp only
  split
  · exact h
  · split
    · exact h
    · split
      · exact h
      · rename_i s' p hadd
        obtain ⟨hs', -⟩ := h.rtFindOrAdd hadd fun _ rt _ _ hf _ => .new hf
        have hseen : LearntTable L (s'.modifyRt p fun rt => { rt with hrPreqid := seqMax rt.hrPreqid preq.preqId }) :=
          hs'.modify (fun _ => ⟨rfl, rfl⟩) fun _ _ _ hrt => hrt
        split
        · refine learnt_preqAccepted (hseen.preqUpdateOrig (fun rt _ _ _ _ => ?_) fun _ _ _ hrt => hrt) hni
          rw [show (rt.originated env addr2 preq).rtNexthop = _ from (MeshRoute.update_path env _ _).2.1]
          exact ha
        · split
          · exact hseen
          · exact learnt_preqAccepted hseen hni

theorem learnt_hwmpRecvPrep (h : LearntTable L s) (hni : ni ∈ L) (ha : addr2 ∈ L) :
    LearntTable L (s.hwmpRecvPrep env ni addr2 prep) := by
  unfold MeshState.hwmpRecvPrep
  dsimp only
  split
  · exact h
  · split
    · exact h
    · rename_i s' p hadd
      obtain ⟨hs', -⟩ := h.rtFindOrAdd hadd fun _ rt _ _ hf _ => .new hf
      split
      · exact hs'
      · have htarg : LearntTable L (s'.prepUpdateTarg env ni prep p) := by
          refine hs'.prepUpdateTarg (fun rt _ _ _ _ => ?_) fun _ _ _ hrt => hrt
          rw [show (rt.targeted env ni prep).rtNexthop = _ from (MeshRoute.update_path env _ _).2.1]
          exact hni
        have htrans := learnt_hwmpUpdateTransmitter env htarg hni
        split
        · exact htrans
        · rename_i hprop
          exact (htrans.prepPropagate hprop).prepExt (fun rt _ hf _ => .new hf) fun _ _ _ _ _ => ha

theorem learnt_recvPerrLoop (addr2 : MacAddr) (dests : List MeshperrDest) (h : LearntTable L s) :
    LearntTable L (MeshState.recvPerrLoop addr2 dests s).1 := by
  induction dests generalizing s with
  | nil => exact h
  | cons dest dests ih =>
    have hdest : LearntTable L ((s.recvPerrDest addr2 dest).state s) :=
      Routes.recvPerrDest h (fun rt e _ hv => nomatch hv) fun _ _ _ => id
    unfold MeshState.recvPerrLoop
    split
    · exact h
    · rename_i hr
      rw [hr] at hdest
      exact ih hdest
    · rename_i hr
      rw [hr] at hdest
      exact ih hdest

theorem learnt_hwmpRecvPerr {perr : MeshperrIe} {mem : BitVec 8} (h : LearntTable L s) :
    LearntTable L (s.hwmpRecvPerr env mem addr2 perr) := by
  have hloop := learnt_recvPerrLoop addr2 perr.perrDests h
  unfold MeshState.hwmpRecvPerr MeshState.hwmpSendPerr
  split
  · rename_i heq
    rw [heq] at hloop
    exact hloop
  · rename_i heq
    rw [heq] at hloop
    exact hloop
  · rename_i heq
    rw [heq] at hloop
    repeat' split
    all_goals
      first
      | exact hloop
      | exact Routes.tx hloop _

theorem learnt_hwmpRecvRann {rann : MeshrannIe} (h : LearntTable L s) : LearntTable L (s.hwmpRecvRann env addr2 rann) := by
  unfold MeshState.hwmpRecvRann
  split
  · exact h
  · split
    · exact h
    · split
      · exact h
      · rename_i s' p hadd
        obtain ⟨hs', -⟩ := h.rtFindOrAdd hadd fun _ rt _ _ hf _ => .new hf
        have hreq : LearntTable L (s'.rannRequest env addr2 rann p) := by
          refine hs'.rannRequest (fun rt _ _ hrt => Learnt.update ?_ _) fun _ _ _ hrt => hrt
          split
          · exact hrt
          · exact hrt
        exact hreq.rannPropagate fun _ _ _ hrt => hrt

theorem learnt_recvActionMeshgate {gann : MeshgannIe} (h : LearntTable L s) : LearntTable L (s.recvActionMeshgate gann) := by
  have hafter : LearntTable L (afterGann s gann) := by
    unfold afterGann
    dsimp only
    split
    · split
      · refine Routes.modify (Routes.same h rfl rfl) (fun _ => ⟨rfl, rfl⟩) ?_
        exact fun _ _ _ hrt => hrt
      · exact Routes.same h rfl rfl
    · exact Routes.same h rfl rfl
  rcases recvActionMeshgate_cases s gann with ⟨-, heq⟩ | ⟨-, heq⟩
  · rw [heq]
    exact h
  · rw [heq]
    split
    · exact Routes.tx hafter _
    · exact hafter

theorem learnt_hwmpRediscoverCb (h : LearntTable L s) (hs : s.hwmpRediscoverCb env p = some s') : LearntTable L s' := by
  refine h.hwmpRediscoverCb hs (fun _ _ _ hrt => hrt) (fun rt e _ hv _ _ hv' => ?_) (fun rt rt' _ _ hab _ => .new hab.2.2.1)
    fun _ _ hrt => hrt
  exact absurd (show rt.rtFlags.valid = true from hv') (by rw [hv]; simp)

/-- **Every other step** leaves next hops that were learnt. -/
theorem learnt_gateStep {op : GateOp} (h : LearntTable L s) (hstep : GateStep s op s')
    (hL : ∀ a ∈ op.transmitters, a ∈ L) : LearntTable L s' := by
  have hdel : ∀ picked, LearntTable L (s.rtDelIf picked) := fun picked => h.rtDelIf fun _ _ _ => id
  cases hstep with
  | recvGann gann => exact learnt_recvActionMeshgate h
  | recvPreq env ni addr2 preq => exact learnt_hwmpRecvPreq h (hL _ (by simp [GateOp.transmitters])) (hL _ (by simp [GateOp.transmitters]))
  | recvPrep env ni addr2 prep => exact learnt_hwmpRecvPrep h (hL _ (by simp [GateOp.transmitters])) (hL _ (by simp [GateOp.transmitters]))
  | recvRann env addr2 rann => exact learnt_hwmpRecvRann h
  | recvPerr env mem addr2 perr => exact learnt_hwmpRecvPerr h
  | discover env dest =>
    refine h.hwmpDiscover (fun rt _ hf _ => .new hf) (fun _ _ hrt => hrt) ?_
    rintro rt rt' - - ⟨-, -, hf, -⟩ - hv
    rw [hf] at hv
    cases hv
  | rediscover env p hs => exact learnt_hwmpRediscoverCb h hs
  | rtUpdate env p lifetime => exact h.modify (fun rt => ⟨by simp, by simp⟩) fun rt _ _ hrt => hrt.update _
  | flush => exact hdel _
  | flushPeer peer => exact hdel _
  | flushInvalid env => exact h.rtFlushInvalid (fun _ _ hk => hk.elim) fun rt _ _ _ hrt => hrt.update _
  | rtDel env dest =>
    unfold MeshState.meshRtDel
    split
    · exact h
    · unfold MeshState.hwmpSenderror MeshState.hwmpSendPerr
      dsimp only
      split
      · split
        · exact Routes.tx (hdel _) _
        · exact hdel _
      · exact hdel _

theorem learnt_proxyCheck (h : LearntTable L s) (hown : s.ivMyaddr ∈ L) : LearntTable L (s.proxyCheck env dest) := by
  unfold MeshState.proxyCheck
  split
  · rename_i hfind
    split
    · refine Routes.modify ?_ (fun _ => ⟨rfl, rfl⟩) fun _ _ _ _ _ => hown
      exact h.rtAdd hfind fun rt _ _ hf _ => .new hf
    · exact h
  · split
    · exact h.modify (fun _ => ⟨rfl, rfl⟩) fun _ _ _ _ _ => hown
    · exact h

/-! ## Replies -/

/-- Everything that was sent since meets `P`. -/
def Sends (P : Tx → Prop) (s s' : MeshState) : Prop := ∃ new, s'.sent = new ++ s.sent ∧ ∀ frame ∈ new, P frame

variable {P Q : Tx → Prop}

theorem Sends.same (h : s'.sent = s.sent) : Sends P s s' := ⟨[], by simpa using h, by simp⟩

theorem Sends.one {frame : Tx} (h : s'.sent = frame :: s.sent) (hf : P frame) : Sends P s s' :=
  ⟨[frame], by simpa using h, by simpa using hf⟩

theorem Sends.trans (h : Sends P s t) (h' : Sends P t s') : Sends P s s' := by
  obtain ⟨new, hnew, hP⟩ := h
  obtain ⟨new', hnew', hP'⟩ := h'
  refine ⟨new' ++ new, by rw [hnew', hnew, List.append_assoc], ?_⟩
  intro frame hframe
  obtain hframe | hframe := List.mem_append.mp hframe
  · exact hP' frame hframe
  · exact hP frame hframe

theorem Sends.mono (h : Sends P s s') (hPQ : ∀ frame, P frame → Q frame) : Sends Q s s' := by
  obtain ⟨new, hnew, hP⟩ := h
  exact ⟨new, hnew, fun frame hf => hPQ frame (hP frame hf)⟩

theorem Sends.newTx (h : Sends P s s') : ∀ frame ∈ newTx s s', P frame := by
  obtain ⟨new, hnew, hP⟩ := h
  unfold Mesh.newTx
  rw [hnew]
  simpa using hP

/-- PREPs that are wanted, for the next hop of this route. -/
def ReplyTo (wanted : Prop) (s : MeshState) (p : Nat) (frame : Tx) : Prop :=
  ∀ da ie, frame = .prep da ie → wanted ∧ da = (s.deref p).rtNexthop

theorem preqRoot_sends (s : MeshState) (preq : MeshpreqIe) (p : Nat) :
    Sends (ReplyTo (preq.target0.targetAddr = broadcastaddr ∧
      hasFlag preq.target0.targetFlags IEEE80211_MESHPREQ_TFLAGS_TO = true) (s.preqRoot preq p) p) s (s.preqRoot preq p) := by
  unfold MeshState.preqRoot
  split
  · rename_i hroot
    have hmark : (s.markRoot (hasFlag preq.preqFlags IEEE80211_MESHPREQ_FLAGS_GATE) preq.preqOrigaddr p).sent = s.sent := by
      unfold MeshState.markRoot
      split
      · rfl
      · rfl
    unfold MeshState.preqRootReply
    split
    · refine .one (by rw [← hmark]; rfl) ?_
      intro da ie heq
      cases heq
      exact ⟨hroot, rfl⟩
    · exact .same hmark
  · exact .same rfl

theorem hwmpSendPreq_unlimited (s : MeshState) (da : MacAddr) (preq : MeshpreqIe) :
    s.hwmpSendPreq env da preq false = s.tx (.preq da preq) := by
  unfold MeshState.hwmpSendPreq
  exact if_neg (by simp)

theorem preqForward_sends (s : MeshState) (preq : MeshpreqIe) (p : Nat) :
    Sends (ReplyTo (preq.preqTcount = 1 ∧ preq.preqTtl > 1 ∧ s.msFlags.fwd = true ∧ s.preqIntermediate preq rttarg = true) s p)
      s (s.preqForward env preq p rttarg) := by
  unfold MeshState.preqForward
  split
  · rename_i hfwd
    dsimp only
    rw [hwmpSendPreq_unlimited]
    split
    · rename_i hint
      refine Sends.trans (t := s.tx (.prep (s.deref p).rtNexthop _)) (.one rfl ?_) (.one rfl ?_)
      · intro da ie heq
        cases heq
        exact ⟨⟨hfwd.1, hfwd.2.1, hfwd.2.2, hint⟩, rfl⟩
      · intro da ie heq
        cases heq
    · refine .one rfl ?_
      intro da ie heq
      cases heq
  · exact .same rfl

theorem preqForward_msRoutes (s : MeshState) (preq : MeshpreqIe) (p : Nat) :
    (s.preqForward env preq p rttarg).msRoutes = s.msRoutes := by
  unfold MeshState.preqForward
  dsimp only
  split
  · rw [hwmpSendPreq_unlimited]
    split
    · rfl
    · rfl
  · rfl

theorem replies_send (env : Env) (rttarg : Option Nat) (s : MeshState) (preq : MeshpreqIe) (p : Nat) :
    Sends (ReplyTo ((preq.target0.targetAddr = broadcastaddr ∧
        hasFlag preq.target0.targetFlags IEEE80211_MESHPREQ_TFLAGS_TO = true) ∨
          (preq.preqTcount = 1 ∧ preq.preqTtl > 1 ∧ s.msFlags.fwd = true ∧
            hasFlag preq.target0.targetFlags IEEE80211_MESHPREQ_TFLAGS_TO = false ∧ rttarg ≠ none))
      ((s.preqRoot preq p).preqForward env preq p rttarg) p) s ((s.preqRoot preq p).preqForward env preq p rttarg) := by
  have hflags : (s.preqRoot preq p).msFlags = s.msFlags := by
    unfold MeshState.preqRoot MeshState.preqRootReply MeshState.markRoot
    dsimp only
    repeat' split
    all_goals rfl
  have hderef : ((s.preqRoot preq p).preqForward env preq p rttarg).deref p = (s.preqRoot preq p).deref p := by
    unfold MeshState.deref
    rw [preqForward_msRoutes]
  refine Sends.trans ((preqRoot_sends s preq p).mono ?_) ((preqForward_sends _ preq p).mono ?_)
  · rintro frame hf da ie rfl
    obtain ⟨hroot, hda⟩ := hf da ie rfl
    exact ⟨.inl hroot, by rw [hda, hderef]⟩
  · rintro frame hf da ie rfl
    obtain ⟨⟨hcount, httl, hfwd, hint⟩, hda⟩ := hf da ie rfl
    refine ⟨.inr ⟨hcount, httl, hflags ▸ hfwd, ?_⟩, by rw [hda, hderef]⟩
    unfold MeshState.preqIntermediate at hint
    split at hint
    · simp only [Bool.and_eq_true, Bool.not_eq_true'] at hint
      exact ⟨hint.1.2, by simp⟩
    · cases hint

def TableOnly (s t : MeshState) : Prop := ∃ routes n, t = { s with msRoutes := routes, nextPtr := n }

theorem TableOnly.trans {u : MeshState} (h : TableOnly s t) (h' : TableOnly t u) : TableOnly s u := by
  obtain ⟨routes, n, rfl⟩ := h
  obtain ⟨routes', n', rfl⟩ := h'
  exact ⟨routes', n', rfl⟩

theorem tableOnly_modifyRt (s : MeshState) (p : Nat) (f : MeshRoute → MeshRoute) : TableOnly s (s.modifyRt p f) := ⟨_, _, rfl⟩

theorem tableOnly_rtFindOrAdd (h : s.rtFindOrAdd env dest = some (s', p)) : TableOnly s s' := by
  unfold MeshState.rtFindOrAdd at h
  split at h
  · cases h
    exact ⟨_, _, rfl⟩
  · split at h
    · cases h
      exact ⟨_, _, rfl⟩
    · cases h

theorem tableOnly_hwmpUpdateTransmitter (env : Env) (s : MeshState) (ni : MacAddr) :
    TableOnly s (s.hwmpUpdateTransmitter env ni) := by
  unfold MeshState.hwmpUpdateTransmitter
  split
  · exact ⟨_, _, rfl⟩
  · rename_i hadd
    dsimp only
    split
    · exact (tableOnly_rtFindOrAdd hadd).trans ((tableOnly_modifyRt _ _ _).trans (tableOnly_modifyRt _ _ _))
    · exact tableOnly_rtFindOrAdd hadd

theorem tableOnly_preqExt (h : s.preqExt env preq = some s') : TableOnly s s' := by
  unfold MeshState.preqExt at h
  split at h
  · split at h
    · cases h
      exact tableOnly_modifyRt _ _ _
    · split at h
      · cases h
        exact ⟨_, _, rfl⟩
      · cases h
  · cases h
    exact ⟨_, _, rfl⟩

theorem hwmpRecvPreq_cases (env : Env) (s : MeshState) (ni addr2 : MacAddr) (preq : MeshpreqIe) :
    (s.preqReached env ni addr2 preq = none ∧ TableOnly s (s.hwmpRecvPreq env ni addr2 preq)) ∨
      ∃ t p, s.preqReached env ni addr2 preq = some (t, p) ∧ TableOnly s t ∧
        s.hwmpRecvPreq env ni addr2 preq =
          if t.preqForUs preq (s.rtFind preq.target0.targetAddr) then
            t.preqReply addr2 preq (s.rtFind preq.target0.targetAddr)
          else
            match t.preqExt env preq with
            | none => t
            | some t => (t.preqRoot preq p).preqForward env preq p (s.rtFind preq.target0.targetAddr) := by
  unfold MeshState.preqReached MeshState.hwmpRecvPreq
  dsimp only
  split
  · exact .inl ⟨rfl, _, _, rfl⟩
  · split
    · exact .inl ⟨rfl, _, _, rfl⟩
    · cases hadd : s.rtFindOrAdd env preq.preqOrigaddr with
      | none => exact .inl ⟨rfl, _, _, rfl⟩
      | some r =>
        obtain ⟨s', p⟩ := r
        dsimp only
        have hseen := (tableOnly_rtFindOrAdd hadd).trans
          (tableOnly_modifyRt s' p fun rt => { rt with hrPreqid := seqMax rt.hrPreqid preq.preqId })
        have htrans := fun s => tableOnly_hwmpUpdateTransmitter env s ni
        split
        · refine .inr ⟨_, _, rfl, hseen.trans (TableOnly.trans ?_ (htrans _)), rfl⟩
          exact (tableOnly_modifyRt _ _ _).trans (tableOnly_modifyRt _ _ _)
        · split
          · exact .inl ⟨rfl, hseen⟩
          · exact .inr ⟨_, _, rfl, hseen.trans (htrans _), rfl⟩

/-- What is known of the originator's route `p` when the transmitter's was updated. -/
def OrigReady (orig : MacAddr) (L : List MacAddr) (p : Nat) (rt : MeshRoute) : Prop :=
  rt.ptr = p → rt.rtDest = orig ∧ rt.rtFlags.valid = true ∧ rt.rtNexthop ∈ L

/-- The update of the transmitter readies the originator's route, if it was, or if it is the transmitter's. -/
theorem ready_hwmpUpdateTransmitter {n : Nat} {orig : MacAddr} (hp : p < n)
    (h : Routes n (fun q => q = p) (fun rt => rt.ptr = p → rt.rtDest = orig ∧
      (rt.rtFlags.valid = true → rt.rtNexthop ∈ L) ∧ (rt.rtFlags.valid = true ∨ ni = orig)) s) (hni : ni ∈ L) :
    Routes n (fun q => q = p) (OrigReady orig L p) (s.hwmpUpdateTransmitter env ni) := by
  refine h.hwmpUpdateTransmitter (fun _ rt hn _ _ _ hptr => by omega) ?_ ?_
  · intro rt hdest hrt
    split
    · intro hptr
      have hptr' : rt.ptr = p := by simpa [MeshRoute.transmitted] using hptr
      refine ⟨by simpa [MeshRoute.transmitted] using (hrt hptr').1, rfl, ?_⟩
      rw [show (rt.transmitted env ni).rtNexthop = _ from (MeshRoute.update_path env _ _).2.1]
      exact hni
    · rename_i htrans
      intro hptr
      have hv : rt.rtFlags.valid = true := by
        unfold MeshRoute.transmits at htrans
        simp only [Bool.or_eq_true, Bool.not_eq_true', not_or, Bool.not_eq_false] at htrans
        exact htrans.1
      exact ⟨(hrt hptr).1, hv, (hrt hptr).2.1 hv⟩
  · intro rt hdest hrt hptr
    obtain ⟨horig, hlearnt, hv⟩ := hrt hptr
    have hv' : rt.rtFlags.valid = true := hv.resolve_right fun h => hdest (horig.trans h.symm)
    exact ⟨horig, hv', hlearnt hv'⟩

theorem deref_modifyRt {f : MeshRoute → MeshRoute} (hf : Keeps f) (hp : ∃ rt ∈ s.msRoutes, rt.ptr = p) :
    (s.modifyRt p f).deref p = f (s.deref p) := by
  unfold MeshState.deref
  rw [look_modifyRt hf]
  cases hlook : look MeshRoute.ptr p s.msRoutes with
  | none =>
    obtain ⟨rt, hrt, hptr⟩ := hp
    exact absurd hptr (look_eq_none hlook hrt)
  | some rt => simp [written, (look_some hlook).2]

/-- The route that `ieee80211_mesh_rt_find` finds, or a new one. -/
theorem deref_rtFindOrAdd (h : LearntTable L s) (hadd : s.rtFindOrAdd env dest = some (s', p)) :
    (∃ rt, look MeshRoute.rtDest dest s.msRoutes = some rt ∧ rt ∈ s.msRoutes ∧ rt.rtDest = dest ∧ s'.deref p = rt) ∨
      look MeshRoute.rtDest dest s.msRoutes = none ∧
        s'.deref p = { MeshRoute.zero with ptr := s.nextPtr, rtDest := dest, rtUpdtime := env.ticks } := by
  unfold MeshState.rtFindOrAdd at hadd
  split at hadd
  · rename_i hfind
    cases hadd
    obtain ⟨rt, hlook, rfl⟩ := Option.map_eq_some_iff.mp hfind
    obtain ⟨hmem, hdest⟩ := look_some hlook
    exact .inl ⟨rt, hlook, hmem, hdest, h.deref hmem⟩
  · rename_i hfind
    split at hadd
    · cases hadd
      refine .inr ⟨Option.map_eq_none_iff.mp hfind, ?_⟩
      have hnone : look MeshRoute.ptr s.nextPtr s.msRoutes = none := by
        unfold look
        rw [List.find?_eq_none]
        intro rt hrt hptr
        exact absurd (of_decide_eq_true hptr) (Nat.ne_of_lt (h.fresh rt hrt))
      unfold MeshState.deref MeshState.rtAdd
      rw [look_append_new hnone rfl]
      rfl
    · cases hadd

variable {st : Hearing}

/-- A route to a known originator leads to an address that was heard. -/
theorem OrigKnown.ready {orig : MacAddr} (hk : OrigKnown st ni orig) (h : LearntTable (st.heard ++ st.own) st.ms)
    (hrt : rt ∈ st.ms.msRoutes) (hdest : rt.rtDest = orig) :
    (rt.rtFlags.valid = true → rt.rtNexthop ∈ st.heard) ∧ (rt.rtFlags.valid = true ∨ ni = orig) := by
  constructor
  · intro hv
    exact (List.mem_append.mp (h.all rt hrt hv)).resolve_right (hk.own rt hrt hdest hv)
  · obtain hni | ⟨rt', hrt', hdest', hv⟩ := hk.valid
    · exact .inr hni
    · have hlook := look_of_nodup h.dests hrt
      rw [hdest, ← hdest', look_of_nodup h.dests hrt'] at hlook
      exact .inl (Option.some.inj hlook ▸ hv)

/-- **The originator's route**, when `hwmp_recv_preq` gets there. -/
theorem preqReached_ready (h : LearntTable (st.heard ++ st.own) st.ms)
    (hr : st.ms.preqReached env ni addr2 preq = some (t, p))
    (hfit : MeshState.preqUpdates env preq ((look MeshRoute.rtDest preq.preqOrigaddr st.ms.msRoutes).getD .zero) = true ∨
      OrigKnown st ni preq.preqOrigaddr) :
    ∃ n, p < n ∧ Routes n (fun q => q = p) (OrigReady preq.preqOrigaddr (ni :: addr2 :: st.heard) p) t := by
  unfold MeshState.preqReached at hr
  dsimp only at hr
  split at hr
  · cases hr
  · split at hr
    · cases hr
    · split at hr
      · cases hr
      · rename_i s' p' hadd
        obtain ⟨hs', hfind, -⟩ := h.rtFindOrAdd hadd fun _ rt _ _ hf _ => .new hf
        obtain ⟨hmem, hptr, hdest⟩ := hs'.of_rtFind hfind
        have hlt : p' < s'.nextPtr := hptr ▸ hs'.fresh _ hmem
        have hseen : Routes s'.nextPtr (fun q => q = p')
            (fun rt => rt.ptr = p' → rt = { s'.deref p' with hrPreqid := seqMax (s'.deref p').hrPreqid preq.preqId })
            (s'.modifyRt p' fun rt => { rt with hrPreqid := seqMax rt.hrPreqid preq.preqId }) := by
          have hk : Routes s'.nextPtr (fun q => q = p') (fun rt => rt.ptr = p' → rt = s'.deref p') s' :=
            { hs'.rebase with
              kept := fun q hq => ⟨_, hmem, hptr.trans hq.symm⟩
              all := fun rt hrt hp => by rw [← hp, hs'.deref hrt] }
          refine hk.modifyRt (fun _ => ⟨rfl, rfl⟩) ?_ ?_
          · intro rt _ hp hrt _
            rw [hrt hp]
          · exact fun rt _ hp _ hp' => absurd hp' hp
        have hderef := deref_modifyRt (s := s') (p := p') (f := fun rt => { rt with hrPreqid := seqMax rt.hrPreqid preq.preqId })
          (fun _ => ⟨rfl, rfl⟩) ⟨_, hmem, hptr⟩
        split at hr
        · cases hr
          refine ⟨_, hlt, ready_hwmpUpdateTransmitter hlt (hseen.preqUpdateOrig ?_ ?_) List.mem_cons_self⟩
          · intro rt _ hp hrt _
            refine ⟨?_, fun _ => ?_, .inl rfl⟩
            · simp [MeshRoute.originated, hrt hp, hdest]
            · rw [show (rt.originated env addr2 preq).rtNexthop = _ from (MeshRoute.update_path env _ _).2.1]
              exact List.mem_cons_of_mem _ List.mem_cons_self
          · exact fun rt _ hp _ hp' => absurd hp' hp
        · rename_i hupd
          split at hr
          · cases hr
          · cases hr
            refine ⟨_, hlt, ready_hwmpUpdateTransmitter hlt (hseen.mono fun rt _ hrt hp => ?_) List.mem_cons_self⟩
            rw [hrt hp]
            dsimp only
            rw [hderef] at hupd
            obtain ⟨rt₀, hlook, hrt₀, hdest₀, heq⟩ | ⟨hlook, heq⟩ := deref_rtFindOrAdd h hadd
            · rw [hlook] at hfit
              rw [heq] at hupd ⊢
              have hk := hfit.resolve_left hupd
              obtain ⟨hheard, hvalid⟩ := hk.ready h hrt₀ hdest₀
              exact ⟨hdest₀, fun hv => List.mem_cons_of_mem _ (List.mem_cons_of_mem _ (hheard hv)), hvalid⟩
            · rw [hlook] at hfit
              rw [heq] at hupd ⊢
              have hk := hfit.resolve_left hupd
              refine ⟨rfl, fun h => absurd h Bool.false_ne_true, .inr ?_⟩
              refine hk.valid.resolve_right ?_
              rintro ⟨rt', hrt', hdest', -⟩
              exact look_eq_none hlook hrt' hdest'

/-- **`hwmp_recv_preq`** replies along such a route. -/
theorem preq_reply (h : LearntTable (st.heard ++ st.own) st.ms) (hfit : PreqFits st env ni preq)
    (hr : st.ms.preqReached env ni addr2 preq = some (t, p))
    (hus : t.preqForUs preq (st.ms.rtFind preq.target0.targetAddr) = false) {da : MacAddr} {ie : MeshprepIe}
    (hsent : .prep da ie ∈ newTx t (st.ms.hwmpRecvPreq env ni addr2 preq)) :
    ∃ rt ∈ (st.ms.hwmpRecvPreq env ni addr2 preq).msRoutes, rt.rtDest = preq.preqOrigaddr ∧ rt.rtNexthop = da ∧
      rt.rtFlags.valid = true ∧ da ∈ ni :: addr2 :: st.heard := by
  obtain ⟨hnone, -⟩ | ⟨t', p', hr', htable, hcall⟩ := hwmpRecvPreq_cases env st.ms ni addr2 preq
  · rw [hnone] at hr
    cases hr
  · cases hr.symm.trans hr'
    rw [hus, if_neg Bool.false_ne_true] at hcall
    rw [hcall] at hsent ⊢
    cases hext : t.preqExt env preq with
    | none =>
      rw [hext] at hsent
      simp [newTx] at hsent
    | some u =>
      rw [hext] at hsent
      dsimp only at hsent ⊢
      obtain ⟨routes, m, hu⟩ := htable.trans (tableOnly_preqExt hext)
      have hsent' : u.sent = t.sent := by
        obtain ⟨_, _, rfl⟩ := tableOnly_preqExt hext
        rfl
      have hsends := (Sends.same hsent').trans (replies_send env (st.ms.rtFind preq.target0.targetAddr) u preq p)
      obtain ⟨hwanted, hda⟩ := hsends.newTx _ hsent da ie rfl
      obtain ⟨hother, hknown⟩ := hfit.reply (by rw [hu] at hwanted; exact hwanted)
      obtain ⟨n, hlt, hready⟩ := preqReached_ready h hr hknown
      have hu' : Routes n (fun q => q = p) (OrigReady preq.preqOrigaddr (ni :: addr2 :: st.heard) p) u := by
        refine hready.preqExt hext (fun rt hn _ _ hp => by omega) ?_ fun _ hrt => hrt
        intro hae rt g e hdest hrt hp
        have hp' : rt.ptr = p := by simpa using hp
        exact absurd (hdest.symm.trans (hrt hp').1) (hother hae)
      have hend : Routes n (fun q => q = p) (OrigReady preq.preqOrigaddr (ni :: addr2 :: st.heard) p)
          ((u.preqRoot preq p).preqForward env preq p (st.ms.rtFind preq.target0.targetAddr)) := by
        refine Routes.preqForward ?_
        unfold MeshState.preqRoot
        split
        · refine Routes.preqRootReply (hu'.markRoot (fun rt _ _ hrt => ?_) fun _ _ _ hrt => hrt)
          split
          · exact hrt
          · exact hrt
        · exact hu'
      obtain ⟨rt, hrt, hptr⟩ := hend.kept p rfl
      obtain ⟨hdest, hv, hnext⟩ := hend.all rt hrt hptr
      have hd := hend.deref hrt
      rw [hptr] at hd
      rw [hd] at hda
      exact ⟨rt, hrt, hdest, hda.symm, hv, hda ▸ hnext⟩

/-- **A PREQ that was forwarded** is forwarded again when its metric is better. -/
theorem preq_once (h : LearntTable (st.heard ++ st.own) st.ms) (hfit : PreqFits st env ni preq) (hkey : preq.key ∈ st.forwarded)
    (hsent : (newTx st.ms (st.ms.hwmpRecvPreq env ni addr2 preq)).any Tx.isPreq = true) :
    ∃ rt ∈ st.ms.msRoutes, rt.rtDest = preq.preqOrigaddr ∧ seqEq preq.preqOrigseq rt.hrSeq = true ∧
      preq.preqMetric + env.mpmMetric < rt.rtMetric := by
  obtain ⟨rt, hrt, hdest, hv, hid, hold⟩ := hfit.once hkey
  refine ⟨rt, hrt, hdest, ?_⟩
  by_contra hbetter
  have hnew : ∀ t, TableOnly st.ms t → (newTx st.ms t).any Tx.isPreq = false := by
    rintro t ⟨routes, n, rfl⟩
    simp [newTx]
  have hlook : look MeshRoute.rtDest preq.preqOrigaddr st.ms.msRoutes = some rt := hdest ▸ look_of_nodup h.dests hrt
  have hfind : st.ms.rtFindOrAdd env preq.preqOrigaddr = some (st.ms, rt.ptr) := by
    unfold MeshState.rtFindOrAdd MeshState.rtFind
    rw [hlook]
    rfl
  -- the PREQ is discarded, or it did not get so far
  have htable : TableOnly st.ms (st.ms.hwmpRecvPreq env ni addr2 preq) := by
    obtain ⟨-, htable⟩ | ⟨t, p, hreached, -⟩ := hwmpRecvPreq_cases env st.ms ni addr2 preq
    · exact htable
    · unfold MeshState.preqReached at hreached
      dsimp only at hreached
      split at hreached
      · cases hreached
      · split at hreached
        · cases hreached
        · rw [hfind] at hreached
          dsimp only at hreached
          rw [deref_modifyRt (f := fun rt => { rt with hrPreqid := seqMax rt.hrPreqid preq.preqId }) (fun _ => ⟨rfl, rfl⟩)
            ⟨rt, hrt, rfl⟩, h.deref hrt] at hreached
          have hupd : MeshState.preqUpdates env preq { rt with hrPreqid := seqMax rt.hrPreqid preq.preqId } = false := by
            unfold MeshState.preqUpdates
            rw [hold, Bool.false_or, Bool.and_eq_false_iff]
            by_cases heq : seqEq preq.preqOrigseq rt.hrSeq = true
            · exact .inr (decide_eq_false fun hlt => hbetter ⟨heq, hlt⟩)
            · exact .inl (Bool.not_eq_true _ ▸ heq)
          rw [hupd, if_neg Bool.false_ne_true] at hreached
          have hdiscard : ∀ hrtarg, MeshState.preqDiscards preq hrtarg { rt with hrPreqid := seqMax rt.hrPreqid preq.preqId }
              rt.hrPreqid = true := by
            intro hrtarg
            unfold MeshState.preqDiscards
            rw [Bool.or_eq_true]
            exact .inr (by simpa [hv] using hid)
          rw [if_pos (hdiscard _)] at hreached
          cases hreached
  rw [hnew _ htable] at hsent
  cases hsent

theorem hwmpRecvPrep_reached (addr2 : MacAddr) (h : s.prepReached env ni prep = some t) : TableOnly s t ∧
    s.hwmpRecvPrep env ni addr2 prep =
      match t.prepPropagate env prep (s.rtFind prep.prepOrigaddr) with
      | none => t
      | some t => t.prepExt env addr2 prep := by
  unfold MeshState.prepReached at h
  unfold MeshState.hwmpRecvPrep
  dsimp only
  split at h
  · cases h
  · rename_i hacc
    rw [if_neg hacc]
    cases hadd : s.rtFindOrAdd env prep.prepTargetaddr with
    | none =>
      rw [hadd] at h
      cases h
    | some r =>
      obtain ⟨s', p⟩ := r
      rw [hadd] at h
      dsimp only at h ⊢
      by_cases hdisc : MeshState.prepDiscards env prep (s'.deref p) = true
      · rw [if_pos hdisc] at h
        cases h
      · rw [if_neg hdisc] at h ⊢
        cases h
        refine ⟨(tableOnly_rtFindOrAdd hadd).trans (TableOnly.trans ?_ (tableOnly_hwmpUpdateTransmitter _ _ _)), rfl⟩
        exact (tableOnly_modifyRt _ _ _).trans (tableOnly_modifyRt _ _ _)

/-- **The originator's route**, when `hwmp_recv_prep` gets there. -/
theorem prepReached_ready (addr2 : MacAddr) (h : LearntTable (st.heard ++ st.own) st.ms)
    (hr : st.ms.prepReached env ni prep = some t)
    {q : Nat} (hq : st.ms.rtFind prep.prepOrigaddr = some q)
    (hfit : prep.prepTargetaddr = prep.prepOrigaddr ∨ OrigKnown st ni prep.prepOrigaddr) :
    ∃ n, Routes n (fun q' => q' = q) (OrigReady prep.prepOrigaddr (ni :: addr2 :: st.heard) q) t := by
  obtain ⟨hmem, hptr, hdest⟩ := h.of_rtFind hq
  have hlt : q < st.ms.nextPtr := hptr ▸ h.fresh _ hmem
  unfold MeshState.prepReached at hr
  split at hr
  · cases hr
  · split at hr
    · cases hr
    · rename_i s' p hadd
      split at hr
      · cases hr
      · cases hr
        have hk : Routes st.ms.nextPtr (fun q' => q' = q) (fun rt => rt.ptr = q → rt = st.ms.deref q) st.ms :=
          { h.rebase with
            kept := fun q' hq' => ⟨_, hmem, hptr.trans hq'.symm⟩
            all := fun rt hrt hp => by rw [← hp, h.deref hrt] }
        obtain ⟨hs', hfind, hsame⟩ := hk.rtFindOrAdd hadd fun _ rt hn _ _ _ hp => by omega
        refine ⟨_, ready_hwmpUpdateTransmitter hlt (hs'.prepUpdateTarg ?_ ?_) List.mem_cons_self⟩
        · intro rt _ hp hrt hp'
          have hp'' : rt.ptr = q := by simpa [MeshRoute.targeted] using hp'
          refine ⟨?_, fun _ => ?_, .inl rfl⟩
          · simp [MeshRoute.targeted, hrt hp'', hdest]
          · rw [show (rt.targeted env ni prep).rtNexthop = _ from (MeshRoute.update_path env _ _).2.1]
            exact List.mem_cons_self
        · intro rt hrt hp hrt' hp'
          -- the target is another one
          have hother : prep.prepTargetaddr ≠ prep.prepOrigaddr := by
            intro heq
            refine hp (hs'.ptr_of_rtFind hfind hrt ?_)
            rw [hrt' hp', hdest, heq]
          obtain ⟨hheard, hvalid⟩ := (hfit.resolve_left hother).ready h hmem hdest
          rw [hrt' hp']
          exact ⟨hdest, fun hv => List.mem_cons_of_mem _ (List.mem_cons_of_mem _ (hheard hv)), hvalid⟩

theorem prepExt_sent : (s.prepExt env addr2 prep).sent = s.sent := by
  unfold MeshState.prepExt
  split
  · split
    · rfl
    · rename_i hadd
      obtain ⟨routes, n, rfl⟩ := tableOnly_rtFindOrAdd hadd
      rfl
  · rfl

/-- **`hwmp_recv_prep`** propagates along such a route. -/
theorem prep_follows (h : LearntTable (st.heard ++ st.own) st.ms) (hfit : Fits st (.gate (.recvPrep env ni addr2 prep))) :
    PrepFollows st env ni addr2 prep := by
  intro t hr da ie hsent
  obtain ⟨htable, hcall⟩ := hwmpRecvPrep_reached addr2 hr
  rw [hcall] at hsent
  cases hprop : t.prepPropagate env prep (st.ms.rtFind prep.prepOrigaddr) with
  | none =>
    rw [hprop] at hsent
    simp [newTx] at hsent
  | some u =>
    rw [hprop] at hsent
    unfold newTx at hsent
    dsimp only at hsent
    rw [prepExt_sent] at hsent
    unfold MeshState.prepPropagate at hprop
    split at hprop
    · rename_i hcond
      cases hq : st.ms.rtFind prep.prepOrigaddr with
      | none =>
        rw [hq] at hprop
        cases hprop
      | some q =>
        rw [hq] at hprop
        cases hprop
        have hfit' : prep.prepTargetaddr = prep.prepOrigaddr ∨ OrigKnown st ni prep.prepOrigaddr := by
          obtain ⟨routes, n, rfl⟩ := htable
          exact hfit hcond.2.1 hcond.2.2 hcond.1 (by rw [hq]; simp)
        obtain ⟨n, hready⟩ := prepReached_ready addr2 h hr hq hfit'
        obtain ⟨rt, hrt, hptr⟩ := hready.kept q rfl
        obtain ⟨hdest, hv, hnext⟩ := hready.all rt hrt hptr
        have hd := hready.deref hrt
        rw [hptr] at hd
        simp only [MeshState.tx, List.length_cons, Nat.add_sub_cancel_left, List.take_succ_cons, List.take_zero,
          List.mem_singleton, Tx.prep.injEq, hd] at hsent
        exact ⟨rt, hrt, hdest, hsent.1.symm, hv, hsent.1 ▸ hnext⟩
    · cases hprop
      simp at hsent

/-! ## Runs -/

theorem learnt_step {st' : Hearing} {op : HearOp} (h : LearntTable (st.heard ++ st.own) st.ms) (hstep : HearStep st op st') :
    LearntTable (st'.heard ++ st'.own) st'.ms := by
  cases hstep with
  | gate hgate =>
    refine learnt_gateStep (h.mono fun rt _ hrt hv => ?_) hgate fun a ha => ?_
    · have hnext := hrt hv
      simp only [List.mem_append] at hnext ⊢
      tauto
    · exact List.mem_append_left _ (List.mem_append_left _ ha)
  | proxyCheck env dest =>
    refine learnt_proxyCheck (h.mono fun rt _ hrt hv => ?_) (List.mem_append_right _ List.mem_cons_self)
    have hnext := hrt hv
    simp only [List.mem_append, List.mem_cons] at hnext ⊢
    tauto

/-- **Replies follow valid routes**: in every reachable state, for every frame that meets the condition, a PREP goes to
    a next hop that was heard, of a valid route; and no PREQ is forwarded again but for a better metric. -/
theorem replies_follow {op : HearOp} (h : Reachable Hearing.Init HearStep st) (hfit : Fits st op) : Follows st op := by
  have hlearnt : LearntTable (st.heard ++ st.own) st.ms := by
    refine h.invariant ?_ fun st op st' hst hstep => learnt_step hst hstep
    rintro st ⟨⟨hroutes, -⟩, -⟩
    exact
      { nodup := by rw [hroutes]; exact List.nodup_nil
        dests := by rw [hroutes]; exact List.nodup_nil
        fresh := by rw [hroutes]; exact nofun
        base := Nat.zero_le _
        kept := fun _ hk => hk.elim
        all := by rw [hroutes]; exact nofun }
  match op, hfit with
  | .gate (.recvPreq env ni addr2 preq), hfit =>
    exact ⟨fun t p hr hus da ie => preq_reply hlearnt hfit hr hus, fun hkey => preq_once hlearnt hfit hkey⟩
  | .gate (.recvPrep env ni addr2 prep), hfit => exact prep_follows hlearnt hfit
  | .gate (.recvGann _), _ => trivial
  | .gate (.recvRann _ _ _), _ => trivial
  | .gate (.recvPerr _ _ _ _), _ => trivial
  | .gate (.discover _ _), _ => trivial
  | .gate (.rediscover _ _), _ => trivial
  | .gate (.rtUpdate _ _ _), _ => trivial
  | .gate .flush, _ => trivial
  | .gate (.flushPeer _), _ => trivial
  | .gate (.flushInvalid _), _ => trivial
  | .gate (.rtDel _ _), _ => trivial
  | .proxyCheck _ _, _ => trivial

end Steps

/-! ## A root that is not known -/

def hearsNothing : Hearing := { ms := lonelyNode, heard := [], own := [], forwarded := [] }

/-- A proactive PREQ of node 5, with this sequence number. -/
def rootPreq (seq : BitVec 32) : MeshpreqIe :=
  { preqFlags := 0, preqHopcount := 1, preqTtl := 30, preqId := 1, preqOrigaddr := 5, preqOrigseq := seq
    preqOrigExtAddr := 0, preqLifetime := 5000, preqMetric := 1
    target0 := { targetFlags := IEEE80211_MESHPREQ_TFLAGS_TO, targetAddr := broadcastaddr, targetSeq := 0 }
    moreTargets := [] }

theorem init_hearsNothing : Reachable Hearing.Init HearStep hearsNothing := .start ⟨⟨rfl, rfl⟩, rfl, rfl, rfl⟩

/-- **A reply to nobody**: sequence number 0 does not update the new route, whose next hop is zero. -/
theorem reply_to_zero : ∃ st op, Reachable Hearing.Init HearStep st ∧ ¬Follows st op := by
  refine ⟨hearsNothing, .gate (.recvPreq .still 3 3 (rootPreq 0)), init_hearsNothing, fun h => ?_⟩
  have hsome : (lonelyNode.preqReached .still 3 3 (rootPreq 0)).isSome = true := by decide +kernel
  obtain ⟨rt, -, -, -, -, hheard⟩ := h.reply _ _ (Option.some_get hsome).symm (by decide +kernel) 0
    { prepFlags := 0, prepHopcount := 0, prepTtl := 31, prepTargetaddr := 1, prepTargetseq := 1, prepTargetExtAddr := 0
      prepLifetime := 5000, prepMetric := 0, prepOrigaddr := 5, prepOrigseq := 0 } (by decide +kernel)
  exact absurd hheard (by decide)

/-- With sequence number 1 the route is updated. -/
theorem replies_follow_root : Follows hearsNothing (.gate (.recvPreq .still 3 3 (rootPreq 1))) := by
  have hfit : Fits hearsNothing (.gate (.recvPreq .still 3 3 (rootPreq 1))) := by
    refine ⟨fun _ => ⟨?_, .inl ?_⟩, ?_⟩
    · decide
    · decide +kernel
    · exact nofun
  exact replies_follow init_hearsNothing hfit

end Net80211.Mesh
