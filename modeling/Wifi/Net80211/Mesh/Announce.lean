import Wifi.Lib.Runs
import Wifi.Net80211.Mesh.Table

/-!
# Mesh gate announcements

* `Quiet` — what a function leaves alone: configuration, known gates, and announcements.
* `Flood`, `Flood.Step` — nodes that announce, propagate, and mark gates.
* `DiesOut` — what is propagated, and how often.
* `announcements_die_out` — in every run whose steps are `Sound`.
-/

namespace Net80211.Mesh

open Records Runs

/-! ## What the handlers leave alone -/

def ganns (sent : List Tx) : List MeshgannIe :=
  sent.filterMap fun frame => match frame with
    | .gann ie => some ie
    | _ => none

/-- **Configuration and announcements** are as they were. -/
structure Quiet (s s' : MeshState) : Prop where
  myaddr : s'.ivMyaddr = s.ivMyaddr
  flags : s'.msFlags = s.msFlags
  ganns : ganns s'.sent = ganns s.sent

namespace Quiet

variable {s s' s'' : MeshState}

theorem refl (s : MeshState) : Quiet s s := ⟨rfl, rfl, rfl⟩

theorem trans (h : Quiet s s') (h' : Quiet s' s'') : Quiet s s'' :=
  ⟨h'.myaddr.trans h.myaddr, h'.flags.trans h.flags, h'.ganns.trans h.ganns⟩

end Quiet

structure Kept (s s' : MeshState) : Prop extends Quiet s s' where
  gates : s'.msKnownGates = s.msKnownGates

namespace Kept

variable {s s' s'' : MeshState}

theorem refl (s : MeshState) : Kept s s := ⟨.refl s, rfl⟩

theorem trans (h : Kept s s') (h' : Kept s' s'') : Kept s s'' :=
  ⟨h.toQuiet.trans h'.toQuiet, h'.gates.trans h.gates⟩

end Kept

section Handlers

variable {env : Env} {s : MeshState} {p : Nat} {f : MeshRoute → MeshRoute} {ni addr2 dest : MacAddr}
  {preq : MeshpreqIe} {rann : MeshrannIe} {rttarg : Option Nat} {rtorig : Nat}

theorem kept_modifyRt (s : MeshState) (p : Nat) (f : MeshRoute → MeshRoute) : Kept s (s.modifyRt p f) :=
  ⟨⟨rfl, rfl, rfl⟩, rfl⟩

theorem kept_rtAdd (env : Env) (s : MeshState) (dest : MacAddr) : Kept s (s.rtAdd env dest) := ⟨⟨rfl, rfl, rfl⟩, rfl⟩

theorem kept_rtUpdate (env : Env) (s : MeshState) (p : Nat) (lifetime : BitVec 32) : Kept s (s.rtUpdate env p lifetime) :=
  kept_modifyRt s p _

theorem kept_hsSeq (s : MeshState) (hsSeq : BitVec 32) : Kept s { s with hsSeq := hsSeq } := ⟨⟨rfl, rfl, rfl⟩, rfl⟩

theorem kept_prep (s : MeshState) (da : MacAddr) (prep : MeshprepIe) : Kept s (s.tx (.prep da prep)) :=
  ⟨⟨rfl, rfl, rfl⟩, rfl⟩

theorem kept_hwmpSendPreq (env : Env) (s : MeshState) (da : MacAddr) (preq : MeshpreqIe) (limited : Bool) :
    Kept s (s.hwmpSendPreq env da preq limited) := by
  unfold MeshState.hwmpSendPreq
  split
  · exact .refl s
  · exact ⟨⟨rfl, rfl, rfl⟩, rfl⟩

theorem kept_rtFindOrAdd {s' : MeshState} (h : s.rtFindOrAdd env dest = some (s', p)) : Kept s s' := by
  unfold MeshState.rtFindOrAdd at h
  split at h
  · cases h
    exact .refl s
  · split at h
    · cases h
      exact kept_rtAdd env s dest
    · cases h

theorem kept_hwmpUpdateTransmitter (env : Env) (s : MeshState) (ni : MacAddr) :
    Kept s (s.hwmpUpdateTransmitter env ni) := by
  unfold MeshState.hwmpUpdateTransmitter
  split
  · exact .refl s
  · rename_i h
    dsimp only
    split
    · exact (kept_rtFindOrAdd h).trans ((kept_modifyRt _ _ _).trans (kept_modifyRt _ _ _))
    · exact kept_rtFindOrAdd h

theorem kept_preqUpdateOrig (env : Env) (s : MeshState) (addr2 : MacAddr) (preq : MeshpreqIe) (rtorig : Nat) :
    Kept s (s.preqUpdateOrig env addr2 preq rtorig) :=
  (kept_modifyRt s rtorig _).trans (kept_modifyRt _ rtorig _)

theorem kept_preqReply (s : MeshState) (addr2 : MacAddr) (preq : MeshpreqIe) (rttarg : Option Nat) :
    Kept s (s.preqReply addr2 preq rttarg) := by
  unfold MeshState.preqReply
  dsimp only
  split
  · exact (kept_hsSeq s _).trans (kept_prep _ _ _)
  · split
    · exact (kept_hsSeq s _).trans ((kept_modifyRt _ _ _).trans (kept_prep _ _ _))
    · exact (kept_hsSeq s _).trans (kept_prep _ _ _)

theorem kept_preqExt {s' : MeshState} (h : s.preqExt env preq = some s') : Kept s s' := by
  unfold MeshState.preqExt at h
  split at h
  · split at h
    · cases h
      exact kept_modifyRt s _ _
    · split at h
      · cases h
        exact (kept_rtAdd env s _).trans (kept_modifyRt _ _ _)
      · cases h
  · cases h
    exact .refl s

theorem kept_preqForward (env : Env) (s : MeshState) (preq : MeshpreqIe) (rtorig : Nat) (rttarg : Option Nat) :
    Kept s (s.preqForward env preq rtorig rttarg) := by
  unfold MeshState.preqForward
  dsimp only
  split
  · split
    · exact (kept_prep s _ _).trans (kept_hwmpSendPreq _ _ _ _ _)
    · exact kept_hwmpSendPreq _ _ _ _ _
  · exact .refl s

/-- The known gates after a handler that may have marked one. -/
structure Marked (marks : Prop) (addr : MacAddr) (p : Nat) (s s' : MeshState) : Prop extends Quiet s s' where
  gates : s'.msKnownGates = s.msKnownGates ∨ marks ∧ s'.msKnownGates = (s.markGate addr p).msKnownGates

theorem Kept.marked {marks : Prop} {addr : MacAddr} {s s' : MeshState} (h : Kept s s') : Marked marks addr p s s' :=
  ⟨h.toQuiet, .inl h.gates⟩

theorem Marked.after {marks : Prop} {addr : MacAddr} {s s' s'' : MeshState} (h : Marked marks addr p s' s'') (h' : Kept s s') :
    Marked marks addr p s s'' := by
  refine ⟨h'.toQuiet.trans h.toQuiet, ?_⟩
  rcases h.gates with hg | ⟨hm, hg⟩
  · exact .inl (hg.trans h'.gates)
  · refine .inr ⟨hm, hg.trans ?_⟩
    unfold MeshState.markGate MeshState.modifyGate
    rw [h'.gates]

theorem Marked.before {marks : Prop} {addr : MacAddr} {s s' s'' : MeshState} (h : Marked marks addr p s s') (h' : Kept s' s'') :
    Marked marks addr p s s'' := by
  refine ⟨h.toQuiet.trans h'.toQuiet, ?_⟩
  rw [h'.gates]
  exact h.gates

theorem marked_markGate {marks : Prop} (hm : marks) (s : MeshState) (addr : MacAddr) (p : Nat) :
    Marked marks addr p s (s.markGate addr p) :=
  ⟨⟨rfl, rfl, rfl⟩, .inr ⟨hm, rfl⟩⟩

theorem marked_markRoot {marks : Prop} {isGate : Bool} (hm : isGate = true → marks) (s : MeshState) (addr : MacAddr)
    (p : Nat) : Marked marks addr p s (s.markRoot isGate addr p) := by
  unfold MeshState.markRoot
  split
  · rename_i hg
    exact (marked_markGate (hm hg) _ _ _).after (kept_modifyRt s p _)
  · exact (Kept.refl s).marked

theorem kept_preqRootReply (s : MeshState) (preq : MeshpreqIe) (rtorig : Nat) : Kept s (s.preqRootReply preq rtorig) := by
  unfold MeshState.preqRootReply
  split
  · exact (kept_hsSeq s _).trans (kept_prep _ _ _)
  · exact .refl s

theorem marked_preqRoot (s : MeshState) (preq : MeshpreqIe) (rtorig : Nat) :
    Marked preq.marksGate preq.preqOrigaddr rtorig s (s.preqRoot preq rtorig) := by
  unfold MeshState.preqRoot
  split
  · rename_i hroot
    exact (marked_markRoot (fun hg => ⟨hroot.1, hroot.2, hg⟩) s _ _).before (kept_preqRootReply _ _ _)
  · exact (Kept.refl s).marked

theorem marked_preqAccepted (env : Env) (s : MeshState) (ni addr2 : MacAddr) (preq : MeshpreqIe) (rtorig : Nat)
    (rttarg : Option Nat) :
    Marked preq.marksGate preq.preqOrigaddr rtorig s (s.preqAccepted env ni addr2 preq rtorig rttarg) := by
  have htrans := kept_hwmpUpdateTransmitter env s ni
  unfold MeshState.preqAccepted
  dsimp only
  split
  · exact (htrans.trans (kept_preqReply _ _ _ _)).marked
  · split
    · exact htrans.marked
    · rename_i hext
      exact ((marked_preqRoot _ _ _).before (kept_preqForward _ _ _ _ _)).after (htrans.trans (kept_preqExt hext))

/-- **`hwmp_recv_preq`** marks at most its originator. -/
theorem marked_hwmpRecvPreq (env : Env) (s : MeshState) (ni addr2 : MacAddr) (preq : MeshpreqIe) :
    ∃ p, Marked preq.marksGate preq.preqOrigaddr p s (s.hwmpRecvPreq env ni addr2 preq) := by
  unfold MeshState.hwmpRecvPreq
  dsimp only
  split
  · exact ⟨0, (Kept.refl s).marked⟩
  · split
    · exact ⟨0, (Kept.refl s).marked⟩
    · split
      · exact ⟨0, (Kept.refl s).marked⟩
      · rename_i s' p hadd
        have hkept := (kept_rtFindOrAdd hadd).trans (kept_modifyRt _ p fun rt =>
          { rt with hrPreqid := seqMax rt.hrPreqid preq.preqId })
        refine ⟨p, ?_⟩
        split
        · exact (marked_preqAccepted _ _ _ _ _ _ _).after (hkept.trans (kept_preqUpdateOrig _ _ _ _ _))
        · split
          · exact hkept.marked
          · exact (marked_preqAccepted _ _ _ _ _ _ _).after hkept

theorem kept_rannPropagate (env : Env) (s : MeshState) (rann : MeshrannIe) (p : Nat) :
    Kept s (s.rannPropagate env rann p) := by
  unfold MeshState.rannPropagate
  split
  · exact (kept_modifyRt s p _).trans ⟨⟨rfl, rfl, rfl⟩, rfl⟩
  · exact .refl s

theorem marked_rannRequest (env : Env) (s : MeshState) (addr2 : MacAddr) (rann : MeshrannIe) (p : Nat) :
    Marked rann.marksGate rann.rannAddr p s (s.rannRequest env addr2 rann p) := by
  unfold MeshState.rannRequest
  refine Marked.before ?_ (kept_hwmpSendPreq env _ addr2 _ true)
  refine Marked.before ?_ (kept_hsSeq _ _)
  exact (marked_markRoot id s rann.rannAddr p).before (kept_rtUpdate env _ p _)

/-- **`hwmp_recv_rann`** marks at most its root. -/
theorem marked_hwmpRecvRann (env : Env) (s : MeshState) (addr2 : MacAddr) (rann : MeshrannIe) :
    ∃ p, Marked rann.marksGate rann.rannAddr p s (s.hwmpRecvRann env addr2 rann) := by
  unfold MeshState.hwmpRecvRann
  split
  · exact ⟨0, (Kept.refl s).marked⟩
  · split
    · exact ⟨0, (Kept.refl s).marked⟩
    · split
      · exact ⟨0, (Kept.refl s).marked⟩
      · rename_i s' p hadd
        refine ⟨p, ?_⟩
        exact ((marked_rannRequest env s' addr2 rann p).after (kept_rtFindOrAdd hadd)).before (kept_rannPropagate env _ rann p)

end Handlers

/-! ## Known gates -/

section Gates

variable {s : MeshState} {addr addr' : MacAddr} {p : Nat} {f : GateRoute → GateRoute} {gann : MeshgannIe}

theorem gateOf_modifyGate_self (hf : ∀ gr, gr.grAddr = addr → (f gr).grAddr = addr) :
    (s.modifyGate addr f).gateOf addr =
      some (f ((s.gateOf addr).getD { grAddr := addr, grLastseq := 0, grRoute := none })) :=
  look_upsert_self hf rfl _

theorem gateOf_modifyGate_ne (hf : ∀ gr, gr.grAddr = addr → (f gr).grAddr = addr) (h : addr' ≠ addr) :
    (s.modifyGate addr f).gateOf addr' = s.gateOf addr' :=
  look_upsert_ne hf rfl h _

/-- `mesh_recv_action_meshgate`, before it looks at the TTL. -/
def afterGann (s : MeshState) (gann : MeshgannIe) : MeshState :=
  let s := s.modifyGate gann.gannAddr fun gr => { gr with grLastseq := gann.gannSeq }
  match s.rtFind gann.gannAddr with
  | some p =>
    if (s.deref p).rtFlags.valid then
      (s.modifyGate gann.gannAddr fun gr => { gr with grRoute := some p }).modifyRt p fun rt =>
        { rt with rtFlags := { rt.rtFlags with gate := true } }
    else
      s
  | none => s

theorem quiet_afterGann (s : MeshState) (gann : MeshgannIe) : Quiet s (afterGann s gann) := by
  unfold afterGann
  dsimp only
  split
  · split
    · exact ⟨rfl, rfl, rfl⟩
    · exact ⟨rfl, rfl, rfl⟩
  · exact ⟨rfl, rfl, rfl⟩

/-- The last sequence number is that of the announcement. -/
theorem gateOf_afterGann_self (s : MeshState) (gann : MeshgannIe) :
    ∃ gr, (afterGann s gann).gateOf gann.gannAddr = some gr ∧ gr.grLastseq = gann.gannSeq := by
  have hset : (s.modifyGate gann.gannAddr fun gr => { gr with grLastseq := gann.gannSeq }).gateOf gann.gannAddr = _ :=
    gateOf_modifyGate_self fun _ h => h
  unfold afterGann
  dsimp only
  split
  · rename_i p _
    split
    · refine ⟨_, gateOf_modifyGate_self (s := s.modifyGate gann.gannAddr fun gr => { gr with grLastseq := gann.gannSeq })
        (f := fun gr => { gr with grRoute := some p }) fun _ h => h, ?_⟩
      rw [hset]
      rfl
    · exact ⟨_, hset, rfl⟩
  · exact ⟨_, hset, rfl⟩

theorem gateOf_afterGann_ne (h : addr ≠ gann.gannAddr) : (afterGann s gann).gateOf addr = s.gateOf addr := by
  have hset := gateOf_modifyGate_ne (s := s) (f := fun gr => { gr with grLastseq := gann.gannSeq }) (fun _ h => h) h
  unfold afterGann
  dsimp only
  split
  · rename_i p _
    split
    · exact (gateOf_modifyGate_ne (s := s.modifyGate gann.gannAddr fun gr => { gr with grLastseq := gann.gannSeq })
        (f := fun gr => { gr with grRoute := some p }) (fun _ h => h) h).trans hset
    · exact hset
  · exact hset

/-- **`mesh_recv_action_meshgate`**: nothing, or the gate is noted and the announcement may be propagated. -/
theorem recvActionMeshgate_cases (s : MeshState) (gann : MeshgannIe) :
    s.acceptsGann gann = false ∧ s.recvActionMeshgate gann = s ∨
      s.acceptsGann gann = true ∧ s.recvActionMeshgate gann =
        if s.propagates gann then
          (afterGann s gann).tx (.gann { gann with gannHopcount := gann.gannHopcount + 1, gannTtl := gann.gannTtl - 1 })
        else afterGann s gann := by
  have hprop : (afterGann s gann).propagates gann = s.propagates gann := by
    unfold MeshState.propagates
    rw [(quiet_afterGann s gann).flags]
  unfold MeshState.recvActionMeshgate
  cases h : s.acceptsGann gann with
  | false => exact .inl ⟨rfl, rfl⟩
  | true =>
    refine .inr ⟨rfl, ?_⟩
    rw [if_neg (by simp), ← hprop]
    rfl

theorem lt_of_acceptsGann {gr : GateRoute} (h : s.acceptsGann gann = true) (hg : s.gateOf gann.gannAddr = some gr) :
    gr.grLastseq < gann.gannSeq := by
  unfold MeshState.acceptsGann at h
  rw [hg] at h
  simp only [Bool.and_eq_true, decide_eq_true_eq] at h
  exact h.2

/-- The gate's last sequence number is 0, if it is known. -/
def GateSilent (s : MeshState) (addr : MacAddr) : Prop := ∀ gr, s.gateOf addr = some gr → gr.grLastseq = 0

/-- A mark of such a gate leaves all last sequence numbers alone. -/
theorem lastseq_of_marked {marks : Prop} {s' : MeshState} (h : ∃ p, Marked marks addr p s s') (hs : marks → GateSilent s addr)
    {gr : GateRoute} (hg : s.gateOf addr' = some gr) : ∃ gr', s'.gateOf addr' = some gr' ∧ gr'.grLastseq = gr.grLastseq := by
  obtain ⟨p, h⟩ := h
  rcases h.gates with hsame | ⟨hm, hmark⟩
  · refine ⟨gr, ?_, rfl⟩
    rw [← hg]
    unfold MeshState.gateOf
    rw [hsame]
  · have hs' : s'.gateOf addr' = (s.markGate addr p).gateOf addr' := by
      unfold MeshState.gateOf
      rw [hmark]
    by_cases ha : addr' = addr
    · subst ha
      refine ⟨_, hs'.trans (gateOf_modifyGate_self (s := s) (f := fun gr => { gr with grRoute := some p, grLastseq := 0 })
        fun _ h => h), ?_⟩
      exact (hs hm gr hg).symm
    · exact ⟨gr, (hs'.trans (gateOf_modifyGate_ne (s := s) (f := fun gr => { gr with grRoute := some p, grLastseq := 0 })
        (fun _ h => h) ha)).trans hg, rfl⟩

end Gates

/-! ## A mesh of nodes -/

/-- An announcement on the air, with the TTL that it was originated with and the nodes that propagated it. -/
structure Announcement where
  ie : MeshgannIe
  origTtl : Nat
  hops : Nat
  deriving DecidableEq

/-- A node propagated an announcement; `fwd` is whether forwarding was enabled. -/
structure Propagation (ι : Type) where
  node : ι
  fwd : Bool
  recv : MeshgannIe
  sent : MeshgannIe
  deriving DecidableEq

/-- Nodes, what is on the air, and what was propagated. -/
structure Flood (ι : Type) where
  node : ι → MeshState
  air : List Announcement
  log : List (Propagation ι)

/-- What happens in a mesh; a node can receive any announcement on the air, any number of times. -/
inductive FloodOp (ι : Type) where
  | originate (i : ι) (interval : BitVec 16)
  | recvGann (i : ι) (a : Announcement)
  | recvPreq (i : ι) (env : Env) (ni addr2 : MacAddr) (preq : MeshpreqIe)
  | recvRann (i : ι) (env : Env) (addr2 : MacAddr) (rann : MeshrannIe)
  | configure (i : ι) (flags : MsFlags) (ttl : BitVec 8)

def newGanns (s s' : MeshState) : List MeshgannIe :=
  (ganns s'.sent).take ((ganns s'.sent).length - (ganns s.sent).length)

namespace Flood

variable {ι : Type} [DecidableEq ι]

def put (st : Flood ι) (i : ι) (s : MeshState) : Flood ι := { st with node := Function.update st.node i s }

inductive Step : Flood ι → FloodOp ι → Flood ι → Prop where
  | originate {st : Flood ι} (i : ι) (interval : BitVec 16) :
    Step st (.originate i interval)
      { st.put i ((st.node i).gatemodeCb interval) with
        air := (newGanns (st.node i) ((st.node i).gatemodeCb interval)).map
          (fun ie => { ie := ie, origTtl := (st.node i).msTtl.toNat, hops := 0 }) ++ st.air }
  | recvGann {st : Flood ι} (i : ι) (a : Announcement) (ha : a ∈ st.air) :
    Step st (.recvGann i a)
      { st.put i ((st.node i).recvActionMeshgate a.ie) with
        air := (newGanns (st.node i) ((st.node i).recvActionMeshgate a.ie)).map
          (fun ie => { ie := ie, origTtl := a.origTtl, hops := a.hops + 1 }) ++ st.air
        log := (newGanns (st.node i) ((st.node i).recvActionMeshgate a.ie)).map
          (fun ie => { node := i, fwd := (st.node i).msFlags.fwd, recv := a.ie, sent := ie }) ++ st.log }
  | recvPreq {st : Flood ι} (i : ι) (env : Env) (ni addr2 : MacAddr) (preq : MeshpreqIe) :
    Step st (.recvPreq i env ni addr2 preq) (st.put i ((st.node i).hwmpRecvPreq env ni addr2 preq))
  | recvRann {st : Flood ι} (i : ι) (env : Env) (addr2 : MacAddr) (rann : MeshrannIe) :
    Step st (.recvRann i env addr2 rann) (st.put i ((st.node i).hwmpRecvRann env addr2 rann))
  | configure {st : Flood ι} (i : ι) (flags : MsFlags) (ttl : BitVec 8) :
    Step st (.configure i flags ttl) (st.put i { st.node i with msFlags := flags, msTtl := ttl })

/-- Nothing was announced yet, and no gate is known. -/
def Init (st : Flood ι) : Prop :=
  st.air = [] ∧ st.log = [] ∧ ∀ i, (st.node i).msKnownGates = [] ∧ ganns (st.node i).sent = []

/-- **Announcements die out.** -/
structure DiesOut (st : Flood ι) : Prop where
  /-- only with forwarding enabled and a TTL above 1, which is decremented -/
  propagated : ∀ p ∈ st.log, p.fwd = true ∧ 1 < p.recv.gannTtl.toNat ∧ p.sent.gannTtl.toNat + 1 = p.recv.gannTtl.toNat ∧
    p.sent.gannAddr = p.recv.gannAddr ∧ p.sent.gannSeq = p.recv.gannSeq
  /-- never the same one twice -/
  once : ∀ i, ((st.log.filter fun p => p.node = i).map fun p => (p.recv.gannAddr, p.recv.gannSeq)).Nodup
  /-- every hop takes one from the TTL -/
  hops : ∀ a ∈ st.air, a.ie.gannTtl.toNat + a.hops = a.origTtl

/-- **The steps that are sound**: a node that accepts an announcement with forwarding disabled is left with a TTL
    of at most 1, one with forwarding enabled with a higher one; and a gate is marked by a PREQ or RANN only before
    any of its announcements was accepted. -/
def Sound (st : Flood ι) : FloodOp ι → Prop
  | .recvGann i a => (st.node i).acceptsGann a.ie = true →
    (st.node i).msFlags.fwd = decide (1 < a.ie.gannTtl.toNat)
  | .recvPreq i _ _ _ preq => preq.marksGate → GateSilent (st.node i) preq.preqOrigaddr
  | .recvRann i _ _ rann => rann.marksGate → GateSilent (st.node i) rann.rannAddr
  | .originate _ _ | .configure _ _ _ => True

/-- What was propagated is not newer than what is noted. -/
structure Inv (st : Flood ι) : Prop extends DiesOut st where
  noted : ∀ p ∈ st.log, ∃ gr, (st.node p.node).gateOf p.recv.gannAddr = some gr ∧ p.recv.gannSeq ≤ gr.grLastseq

/-- The gates keep their last sequence numbers at every node. -/
theorem Inv.of_lastseq {st st' : Flood ι} (h : Inv st) (hair : ∀ a ∈ st'.air, a.ie.gannTtl.toNat + a.hops = a.origTtl)
    (hlog : st'.log = st.log)
    (hgates : ∀ i addr gr, (st.node i).gateOf addr = some gr →
      ∃ gr', (st'.node i).gateOf addr = some gr' ∧ gr'.grLastseq = gr.grLastseq) : Inv st' where
  propagated := by
    rw [hlog]
    exact h.propagated
  once := by
    rw [hlog]
    exact h.once
  hops := hair
  noted := by
    rw [hlog]
    intro p hp
    obtain ⟨gr, hg, hle⟩ := h.noted p hp
    obtain ⟨gr', hg', heq⟩ := hgates _ _ _ hg
    exact ⟨gr', hg', heq ▸ hle⟩

theorem gates_put {st : Flood ι} {i : ι} {s : MeshState}
    (h : ∀ addr gr, (st.node i).gateOf addr = some gr → ∃ gr', s.gateOf addr = some gr' ∧ gr'.grLastseq = gr.grLastseq) :
    ∀ j addr gr, (st.node j).gateOf addr = some gr →
      ∃ gr', ((st.put i s).node j).gateOf addr = some gr' ∧ gr'.grLastseq = gr.grLastseq := by
  intro j addr gr hg
  by_cases hj : j = i
  · subst hj
    obtain ⟨gr', hg', heq⟩ := h addr gr hg
    refine ⟨gr', ?_, heq⟩
    rw [← hg']
    simp [put]
  · refine ⟨gr, ?_, rfl⟩
    rw [← hg]
    simp [put, hj]

theorem newGanns_same {s s' : MeshState} (h : ganns s'.sent = ganns s.sent) : newGanns s s' = [] := by
  unfold newGanns
  rw [h, Nat.sub_self, List.take_zero]

theorem newGanns_one {s s' : MeshState} (ie : MeshgannIe) (h : ganns s'.sent = ie :: ganns s.sent) :
    newGanns s s' = [ie] := by
  unfold newGanns
  rw [h, List.length_cons, Nat.add_sub_cancel_left]
  rfl

/-- **What one announcement does at a node.** -/
theorem Inv.recvGann {st : Flood ι} (h : Inv st) (i : ι) (a : Announcement) (ha : a ∈ st.air)
    (hs : Sound st (.recvGann i a)) :
    Inv { st.put i ((st.node i).recvActionMeshgate a.ie) with
      air := (newGanns (st.node i) ((st.node i).recvActionMeshgate a.ie)).map
        (fun ie => { ie := ie, origTtl := a.origTtl, hops := a.hops + 1 }) ++ st.air
      log := (newGanns (st.node i) ((st.node i).recvActionMeshgate a.ie)).map
        (fun ie => { node := i, fwd := (st.node i).msFlags.fwd, recv := a.ie, sent := ie }) ++ st.log } := by
  rcases recvActionMeshgate_cases (st.node i) a.ie with ⟨-, heq⟩ | ⟨hacc, heq⟩
  · rw [heq, newGanns_same rfl]
    refine h.of_lastseq h.hops rfl (gates_put fun addr gr hg => ⟨gr, hg, rfl⟩)
  · have hquiet := quiet_afterGann (st.node i) a.ie
    -- older announcements stay noted
    have hnoted : ∀ s', (∀ addr, s'.gateOf addr = (afterGann (st.node i) a.ie).gateOf addr) → ∀ p ∈ st.log,
        ∃ gr, ((st.put i s').node p.node).gateOf p.recv.gannAddr = some gr ∧ p.recv.gannSeq ≤ gr.grLastseq := by
      intro s' hs' p hp
      obtain ⟨gr, hg, hle⟩ := h.noted p hp
      by_cases hi : p.node = i
      · rw [hi] at hg ⊢
        have hput : (st.put i s').node i = s' := by simp [put]
        rw [hput, hs']
        by_cases haddr : p.recv.gannAddr = a.ie.gannAddr
        · rw [haddr] at hg ⊢
          obtain ⟨gr', hg', hlast⟩ := gateOf_afterGann_self (st.node i) a.ie
          refine ⟨gr', hg', ?_⟩
          rw [hlast]
          have hlt := lt_of_acceptsGann hacc hg
          rw [BitVec.le_def] at hle ⊢
          rw [BitVec.lt_def] at hlt
          omega
        · rw [gateOf_afterGann_ne haddr]
          exact ⟨gr, hg, hle⟩
      · refine ⟨gr, ?_, hle⟩
        rw [← hg]
        simp [put, hi]
    rw [heq]
    split
    · rename_i hprop
      -- it is propagated
      have hfwd := hs hacc
      have httl : 1 < a.ie.gannTtl.toNat ∧ (st.node i).msFlags.fwd = true := by
        unfold MeshState.propagates at hprop
        rw [hfwd] at hprop ⊢
        simp only [Bool.not_eq_true', Bool.and_eq_false_iff, decide_eq_false_iff_not, Bool.not_eq_false',
          decide_eq_true_eq] at hprop ⊢
        omega
      have hsub : (a.ie.gannTtl - 1).toNat + 1 = a.ie.gannTtl.toNat := by
        bv_omega
      rw [newGanns_one { a.ie with gannHopcount := a.ie.gannHopcount + 1, gannTtl := a.ie.gannTtl - 1 }
        (congrArg _ hquiet.ganns)]
      refine { propagated := ?_, once := ?_, hops := ?_, noted := ?_ }
      · intro p hp
        rcases List.mem_cons.1 hp with rfl | hp
        · exact ⟨httl.2, httl.1, hsub, rfl, rfl⟩
        · exact h.propagated p hp
      · intro j
        show ((({ node := i, .. } : Propagation ι) :: st.log).filter _ |>.map _).Nodup
        by_cases hj : i = j
        · rw [List.filter_cons_of_pos (by simpa using hj), List.map_cons, List.nodup_cons]
          refine ⟨?_, h.once j⟩
          intro hmem
          obtain ⟨p, hp, hpe⟩ := List.mem_map.1 hmem
          obtain ⟨hp, hpi⟩ := List.mem_filter.1 hp
          have hpi : p.node = i := (of_decide_eq_true hpi).trans hj.symm
          obtain ⟨haddr, hseq⟩ := Prod.mk.inj hpe
          obtain ⟨gr, hg, hle⟩ := h.noted p hp
          rw [hpi, haddr] at hg
          rw [hseq] at hle
          exact absurd (lt_of_acceptsGann hacc hg) (BitVec.not_lt.2 hle)
        · rw [List.filter_cons_of_neg (by simpa using hj)]
          exact h.once j
      · intro b hb
        rcases List.mem_cons.1 hb with rfl | hb
        · have := h.hops a ha
          show (a.ie.gannTtl - 1).toNat + (a.hops + 1) = a.origTtl
          omega
        · exact h.hops b hb
      · intro p hp
        rcases List.mem_cons.1 hp with rfl | hp
        · obtain ⟨gr, hg, hlast⟩ := gateOf_afterGann_self (st.node i) a.ie
          refine ⟨gr, ?_, ?_⟩
          · rw [← hg]
            simp only [put, Function.update_self]
            rfl
          · rw [hlast]
            exact BitVec.le_refl _
        · exact hnoted ((afterGann (st.node i) a.ie).tx _) (fun _ => rfl) p hp
    · rw [newGanns_same hquiet.ganns]
      exact { propagated := h.propagated, once := h.once, hops := h.hops, noted := hnoted _ fun _ => rfl }

theorem Inv.step {st st' : Flood ι} {op : FloodOp ι} (h : Inv st) (hstep : Step st op st') (hs : Sound st op) : Inv st' := by
  cases hstep with
  | originate i interval =>
    rw [newGanns_one _ rfl]
    refine h.of_lastseq ?_ rfl (gates_put fun addr gr hg => ⟨gr, hg, rfl⟩)
    intro a ha
    rcases List.mem_cons.1 ha with rfl | ha
    · rfl
    · exact h.hops a ha
  | recvGann i a ha => exact h.recvGann i a ha hs
  | recvPreq i env ni addr2 preq =>
    exact h.of_lastseq h.hops rfl (gates_put fun addr gr hg =>
      lastseq_of_marked (marked_hwmpRecvPreq env (st.node i) ni addr2 preq) hs hg)
  | recvRann i env addr2 rann =>
    exact h.of_lastseq h.hops rfl (gates_put fun addr gr hg =>
      lastseq_of_marked (marked_hwmpRecvRann env (st.node i) addr2 rann) hs hg)
  | configure i flags ttl => exact h.of_lastseq h.hops rfl (gates_put fun addr gr hg => ⟨gr, hg, rfl⟩)

/-- **Mesh gate announcements die out**, in every run whose steps are sound. -/
theorem announcements_die_out {st : Flood ι} (h : Reachable Init (Guarded Sound Step) st) : DiesOut st := by
  suffices hinv : Inv st from hinv.toDiesOut
  refine h.invariant ?_ ?_
  · rintro st ⟨hair, hlog, hnodes⟩
    constructor
    · constructor
      · rw [hlog]
        exact fun p hp => nomatch hp
      · rw [hlog]
        exact fun i => List.nodup_nil
      · rw [hair]
        exact fun a ha => nomatch ha
    · rw [hlog]
      exact fun p hp => nomatch hp
  · rintro st op st' hinv ⟨hs, hstep⟩
    exact hinv.step hstep hs

/-! ## Three nodes -/

def forwarder (addr : MacAddr) (ttl : BitVec 8) : MeshState :=
  { ivMyaddr := addr
    msTtl := ttl
    msFlags := { gate := true, fwd := true, root := false }
    msGateseq := 1
    msRoutes := []
    msKnownGates := []
    hsSeq := 0
    hsPreqid := 0
    hsMaxhops := 31
    nextPtr := 0
    sent := [] }

def forwarders (ttl : BitVec 8) : Flood (Fin 3) :=
  { node := fun i => forwarder (BitVec.ofNat 48 (i.val + 1)) ttl, air := [], log := [] }

/-- The announcement of the first of them, after some hops. -/
def announced (origTtl ttl hops : Nat) : Announcement :=
  { ie :=
      { gannFlags := 0
        gannHopcount := BitVec.ofNat 8 hops
        gannTtl := BitVec.ofNat 8 ttl
        gannAddr := 1
        gannSeq := 1
        gannInterval := 0 }
    origTtl := origTtl
    hops := hops }

theorem init_forwarders (ttl : BitVec 8) : Init (forwarders ttl) := ⟨rfl, rfl, fun _ => ⟨rfl, rfl⟩⟩

/-- **A TTL of 1 is propagated, and one of 0 becomes 255.** -/
theorem ttl_wraps : ∃ st : Flood (Fin 3), Reachable Init Step st ∧
    (∃ p ∈ st.log, p.recv.gannTtl = 0 ∧ p.sent.gannTtl = 255) ∧ ¬ DiesOut st := by
  have h0 : Reachable Init Step (forwarders 1) := .start (init_forwarders 1)
  have h1 := h0.next (.originate 0 0)
  have h2 := h1.next (.recvGann 1 (announced 1 1 0) (by decide))
  have h3 := h2.next (.recvGann 2 (announced 1 0 1) (by decide))
  refine ⟨_, h3, ⟨_, List.mem_cons_self, by decide, by decide⟩, ?_⟩
  intro hd
  exact absurd (hd.propagated _ List.mem_cons_self) (by decide)

/-- A RANN of the first node, which says that it is a gate. -/
def gateRann : MeshrannIe :=
  { rannFlags := IEEE80211_MESHRANN_FLAGS_GATE, rannHopcount := 0, rannTtl := 31, rannAddr := 1, rannSeq := 1
    rannInterval := 1000, rannMetric := 0 }

/-- **An announcement is propagated twice** by the same node, with a RANN of the gate in between. -/
theorem announcement_repeated : ∃ st : Flood (Fin 3), Reachable Init Step st ∧
    ¬ ((st.log.filter fun p => p.node = 1).map fun p => (p.recv.gannAddr, p.recv.gannSeq)).Nodup := by
  have h0 : Reachable Init Step (forwarders 31) := .start (init_forwarders 31)
  have h1 := h0.next (.originate 0 0)
  have h2 := h1.next (.recvGann 1 (announced 31 31 0) (by decide))
  have h3 := h2.next (.recvRann 1 .still 1 gateRann)
  have h4 := h3.next (.recvGann 1 (announced 31 31 0) (by decide))
  exact ⟨_, h4, by decide⟩

/-- An announcement that two nodes propagate. -/
theorem announcements_die_out_three : ∃ st : Flood (Fin 3), st.log.length = 2 ∧ DiesOut st := by
  have h0 : Reachable Init (Guarded Sound Step) (forwarders 31) := .start (init_forwarders 31)
  have hs1 : Sound (forwarders 31) (.originate 0 0) := trivial
  have h1 := h0.next ⟨hs1, .originate 0 0⟩
  have h2 := h1.next (show Guarded Sound Step _ (.recvGann 1 (announced 31 31 0)) _ from
    ⟨fun _ => by decide, .recvGann 1 _ (by decide)⟩)
  have h3 := h2.next (show Guarded Sound Step _ (.recvGann 2 (announced 31 30 1)) _ from
    ⟨fun _ => by decide, .recvGann 2 _ (by decide)⟩)
  exact ⟨_, by decide, announcements_die_out h3⟩

end Flood

end Net80211.Mesh

