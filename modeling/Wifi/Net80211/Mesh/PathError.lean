import Wifi.Lib.Runs
import Wifi.Net80211.Mesh.Table

/-!
# Path errors

* `ProducedFor` — the PERRs that `hwmp_peerdown` and `hwmp_senderror` send for a destination.
* `acceptedDests` — the destinations that `hwmp_recv_perr` accepts.
* `hwmpRecvPerr_of_produced` — a PERR that one node produces does nothing at the next.
* `PerrFlood`, `PerrFlood.Step` — nodes that send PERRs and propagate them.
* `path_errors_work_iff` — when a PERR takes effect and is propagated as it should be.
-/

namespace Net80211.Mesh

open Records Runs

/-! ## What is produced -/

/-- A PERR that a node produces for a destination. -/
inductive ProducedFor (dest : MacAddr) (perr : MeshperrIe) : Prop where
  | peerdown (s : MeshState) (env : Env) (h : (s.hwmpPeerdown env dest).sent = .perr perr :: s.sent)
  | senderror (s : MeshState) (env : Env) (rt : Option MeshRoute) (rcode : Nat)
      (h : (s.hwmpSenderror env dest rt rcode).sent = .perr perr :: s.sent)

section Produced

variable {env : Env} {s : MeshState} {dest addr2 : MacAddr} {perr : MeshperrIe}

theorem perr_of_hwmpSendPerr {perr' : MeshperrIe} (h : (s.hwmpSendPerr env perr').sent = .perr perr :: s.sent) :
    perr = perr' := by
  unfold MeshState.hwmpSendPerr at h
  split at h
  · exact (Tx.perr.inj (List.cons.inj h).1).symm
  · exact absurd h.symm (List.cons_ne_self _ _)

/-- The flags of a destination that is produced. -/
def ProducedFlags (flags : BitVec 8) : Prop :=
  flags = 0 ∨ flags = IEEE80211_MESHPERR_DFLAGS_RC ∨
    flags = IEEE80211_MESHPERR_DFLAGS_USN ||| IEEE80211_MESHPERR_DFLAGS_RC ∨ flags = IEEE80211_MESHPERR_FLAGS_AE

theorem flags_of_senderrorPerr {rt : Option MeshRoute} {rcode : Nat} (h : s.senderrorPerr dest rt rcode = some perr) :
    ∃ d, perr.perrDests = [d] ∧ ProducedFlags d.destFlags := by
  unfold MeshState.senderrorPerr at h
  dsimp only at h
  split at h
  · cases h
    exact ⟨_, rfl, .inl rfl⟩
  · split at h
    · split at h
      · split at h
        · cases h
          exact ⟨_, rfl, .inr (.inr (.inr rfl))⟩
        · cases h
      · cases h
    · split at h
      · obtain ⟨rt', -, rfl⟩ := Option.map_eq_some_iff.1 h
        exact ⟨_, rfl, .inl rfl⟩
      · cases h

/-- **A PERR is produced with one destination**, and none of the reason codes in its flags. -/
theorem flags_of_produced (h : ProducedFor dest perr) : ∃ d, perr.perrDests = [d] ∧ ProducedFlags d.destFlags := by
  cases h with
  | peerdown s env h =>
    unfold MeshState.hwmpPeerdown at h
    split at h
    · exact absurd h.symm (List.cons_ne_self _ _)
    · dsimp only at h
      rw [perr_of_hwmpSendPerr h]
      refine ⟨_, rfl, ?_⟩
      dsimp only
      split
      · exact .inr (.inr (.inl rfl))
      · exact .inr (.inl rfl)
  | senderror s env rt rcode h =>
    unfold MeshState.hwmpSenderror at h
    split at h
    · rename_i perr' hperr
      rw [perr_of_hwmpSendPerr h]
      exact flags_of_senderrorPerr hperr
    · exact absurd h.symm (List.cons_ne_self _ _)

theorem ProducedFlags.unknown {flags : BitVec 8} (h : ProducedFlags flags) :
    flags.toNat ≠ IEEE80211_REASON_MESH_PERR_NO_FI ∧ flags.toNat ≠ IEEE80211_REASON_MESH_PERR_DEST_UNREACH ∧
      flags.toNat ≠ IEEE80211_REASON_MESH_PERR_NO_PROXY := by
  rcases h with rfl | rfl | rfl | rfl <;> decide

/-- **`hwmp_recv_perr`** drops what is produced, wherever it comes from. -/
theorem hwmpRecvPerr_of_produced (h : ProducedFor dest perr) (env : Env) (s : MeshState) (mem : BitVec 8)
    (addr2 : MacAddr) : s.hwmpRecvPerr env mem addr2 perr = s := by
  obtain ⟨d, hd, hflags⟩ := flags_of_produced h
  obtain ⟨hfi, hunreach, hproxy⟩ := hflags.unknown
  have hdest : s.recvPerrDest addr2 d = .ignored s ∨ s.recvPerrDest addr2 d = .unknown := by
    unfold MeshState.recvPerrDest
    split
    · exact .inl rfl
    · dsimp only
      split
      · exact .inl rfl
      · exact .inr rfl
  unfold MeshState.hwmpRecvPerr
  rw [hd]
  unfold MeshState.recvPerrLoop
  rcases hdest with hdest | hdest
  · rw [hdest]
    rfl
  · rw [hdest]

end Produced

/-! ## What is accepted -/

namespace MeshState

variable (s : MeshState) (addr2 : MacAddr)

def perrAccepts (dest : MeshperrDest) : Bool :=
  match s.rtFind dest.destAddr with
  | none => false
  | some p =>
    decide ((s.deref p).rtNexthop = addr2) &&
      (decide (dest.destFlags.toNat = IEEE80211_REASON_MESH_PERR_NO_FI) ||
        decide (dest.destFlags.toNat = IEEE80211_REASON_MESH_PERR_DEST_UNREACH) &&
          seqGt dest.destSeq (s.deref p).hrSeq ||
        decide (dest.destFlags.toNat = IEEE80211_REASON_MESH_PERR_NO_PROXY) && (s.rtFind dest.destExtAddr).isSome)

/-- A sequence number that is missing is filled in. -/
def perrFilled (dest : MeshperrDest) : MeshperrDest :=
  if dest.destFlags.toNat = IEEE80211_REASON_MESH_PERR_NO_FI ∧ dest.destSeq = 0 then
    { dest with destSeq := (s.deref ((s.rtFind dest.destAddr).getD 0)).hrSeq + 1 }
  else
    dest

/-- A destination of a route through the sender, with flags that are no reason code: the rest is not looked at. -/
def perrUnknown (dest : MeshperrDest) : Bool :=
  match s.rtFind dest.destAddr with
  | none => false
  | some p =>
    decide ((s.deref p).rtNexthop = addr2) &&
      !(decide (dest.destFlags.toNat = IEEE80211_REASON_MESH_PERR_NO_FI) ||
        decide (dest.destFlags.toNat = IEEE80211_REASON_MESH_PERR_DEST_UNREACH) ||
        decide (dest.destFlags.toNat = IEEE80211_REASON_MESH_PERR_NO_PROXY))

/-- **The accepted destinations**, each in the state that those before it left behind; nothing when one is
    unknown. -/
def acceptedDests (addr2 : MacAddr) : List MeshperrDest → MeshState → List MeshperrDest
  | [], _ => []
  | dest :: dests, s =>
    (if s.perrAccepts addr2 dest then [s.perrFilled dest] else []) ++
      acceptedDests addr2 dests ((s.recvPerrDest addr2 dest).state s)

/-- No destination is unknown in the state that those before it left behind. -/
def perrUnderstood (addr2 : MacAddr) : List MeshperrDest → MeshState → Bool
  | [], _ => true
  | dest :: dests, s =>
    !s.perrUnknown addr2 dest && perrUnderstood addr2 dests ((s.recvPerrDest addr2 dest).state s)

/-- **A received PERR is propagated.** -/
def PropagatesPerr (env : Env) (addr2 : MacAddr) (perr : MeshperrIe) : Prop :=
  s.msFlags.fwd = true ∧ perr.perrTtl > 1 ∧ env.ratecheck = true ∧ perrUnderstood addr2 perr.perrDests s = true ∧
    acceptedDests addr2 perr.perrDests s ≠ []

end MeshState

section Accepted

variable {env : Env} {s : MeshState} {addr2 : MacAddr} {dest : MeshperrDest}

/-- **What one destination does.** -/
theorem recvPerrDest_cases (s : MeshState) (addr2 : MacAddr) (dest : MeshperrDest) :
    s.perrUnknown addr2 dest = true ∧ s.recvPerrDest addr2 dest = .unknown ∨
      s.perrUnknown addr2 dest = false ∧
        (s.perrAccepts addr2 dest = false ∧ (∃ s', s.recvPerrDest addr2 dest = .ignored s') ∨
          s.perrAccepts addr2 dest = true ∧ ∃ s', s.recvPerrDest addr2 dest = .accepted s' (s.perrFilled dest)) := by
  unfold MeshState.recvPerrDest MeshState.perrUnknown MeshState.perrAccepts MeshState.perrFilled
  cases hfind : s.rtFind dest.destAddr with
  | none => simp
  | some p =>
    by_cases hnext : (s.deref p).rtNexthop = addr2
    · by_cases hfi : dest.destFlags.toNat = IEEE80211_REASON_MESH_PERR_NO_FI
      · by_cases hseq : dest.destSeq = 0#32 <;> simp [hnext, hfi, hseq]
      · by_cases hunreach : dest.destFlags.toNat = IEEE80211_REASON_MESH_PERR_DEST_UNREACH
        · by_cases hgt : seqGt dest.destSeq (s.deref p).hrSeq = true
          · simp [hnext, hunreach, hgt, IEEE80211_REASON_MESH_PERR_NO_FI, IEEE80211_REASON_MESH_PERR_DEST_UNREACH]
          · simp [hnext, hunreach, hgt, IEEE80211_REASON_MESH_PERR_NO_FI, IEEE80211_REASON_MESH_PERR_DEST_UNREACH,
              IEEE80211_REASON_MESH_PERR_NO_PROXY]
        · by_cases hproxy : dest.destFlags.toNat = IEEE80211_REASON_MESH_PERR_NO_PROXY
          · cases hext : s.rtFind dest.destExtAddr <;>
              simp [hnext, hproxy, IEEE80211_REASON_MESH_PERR_NO_FI, IEEE80211_REASON_MESH_PERR_DEST_UNREACH,
                IEEE80211_REASON_MESH_PERR_NO_PROXY]
          · simp [hnext, hfi, hunreach, hproxy]
    · simp [hnext]

theorem sent_recvPerrDest (s : MeshState) (addr2 : MacAddr) (dest : MeshperrDest) :
    ((s.recvPerrDest addr2 dest).state s).sent = s.sent ∧ ((s.recvPerrDest addr2 dest).state s).msFlags = s.msFlags := by
  unfold MeshState.recvPerrDest
  dsimp only
  repeat' split
  all_goals exact ⟨rfl, rfl⟩

/-- **The loop of `hwmp_recv_perr`** sends nothing. -/
theorem sent_recvPerrLoop (addr2 : MacAddr) (dests : List MeshperrDest) (s : MeshState) :
    (MeshState.recvPerrLoop addr2 dests s).1.sent = s.sent ∧
      (MeshState.recvPerrLoop addr2 dests s).1.msFlags = s.msFlags := by
  induction dests generalizing s with
  | nil => exact ⟨rfl, rfl⟩
  | cons dest dests ih =>
    have hdest := sent_recvPerrDest s addr2 dest
    unfold MeshState.recvPerrLoop
    cases hr : s.recvPerrDest addr2 dest with
    | unknown => exact ⟨rfl, rfl⟩
    | ignored s' =>
      rw [hr] at hdest
      exact ⟨(ih s').1.trans hdest.1, (ih s').2.trans hdest.2⟩
    | accepted s' dest' =>
      rw [hr] at hdest
      exact ⟨(ih s').1.trans hdest.1, (ih s').2.trans hdest.2⟩

/-- **The loop of `hwmp_recv_perr`** collects the accepted destinations. -/
theorem dests_recvPerrLoop (addr2 : MacAddr) (dests : List MeshperrDest) (s : MeshState) :
    (MeshState.recvPerrLoop addr2 dests s).2 =
      if MeshState.perrUnderstood addr2 dests s then some (MeshState.acceptedDests addr2 dests s) else none := by
  induction dests generalizing s with
  | nil => rfl
  | cons dest dests ih =>
    unfold MeshState.recvPerrLoop MeshState.perrUnderstood MeshState.acceptedDests
    rcases recvPerrDest_cases s addr2 dest with ⟨hu, hr⟩ | ⟨hu, ⟨ha, s', hr⟩ | ⟨ha, s', hr⟩⟩
    · simp [hu, hr]
    · simp only [hu, ha, hr, ih s', MeshState.PerrResult.state]
      simp
    · simp only [hu, ha, hr, ih s', MeshState.PerrResult.state]
      cases MeshState.perrUnderstood addr2 dests s' <;> simp

/-- **`hwmp_recv_perr`** sends nothing, or one PERR. -/
theorem sent_hwmpRecvPerr (env : Env) (s : MeshState) (mem : BitVec 8) (addr2 : MacAddr) (perr : MeshperrIe) :
    ¬ s.PropagatesPerr env addr2 perr ∧ (s.hwmpRecvPerr env mem addr2 perr).sent = s.sent ∨
      s.PropagatesPerr env addr2 perr ∧ (s.hwmpRecvPerr env mem addr2 perr).sent =
        .perr { perrTtl := mem - 1, perrDests := MeshState.acceptedDests addr2 perr.perrDests s } :: s.sent := by
  have hloop := sent_recvPerrLoop addr2 perr.perrDests s
  have hdests := dests_recvPerrLoop addr2 perr.perrDests s
  unfold MeshState.hwmpRecvPerr MeshState.PropagatesPerr
  split
  · rename_i s' heq
    rw [heq] at hloop hdests
    refine .inl ⟨?_, hloop.1⟩
    rintro ⟨-, -, -, hu, -⟩
    simp [hu] at hdests
  · rename_i s' heq
    rw [heq] at hloop hdests
    refine .inl ⟨?_, hloop.1⟩
    rintro ⟨-, -, -, hu, ha⟩
    simp only [hu, if_true, Option.some.injEq] at hdests
    exact ha hdests.symm
  · rename_i s' dest dests heq
    rw [heq] at hloop hdests
    cases hu : MeshState.perrUnderstood addr2 perr.perrDests s with
    | false => simp [hu] at hdests
    | true =>
      simp only [hu, if_true, Option.some.injEq] at hdests
      rw [← hdests, ← hloop.1, ← hloop.2]
      unfold MeshState.hwmpSendPerr
      split
      · rename_i hfwd
        split
        · rename_i hrate
          exact .inr ⟨⟨hfwd.1, hfwd.2, hrate, rfl, List.cons_ne_nil _ _⟩, rfl⟩
        · rename_i hrate
          exact .inl ⟨fun h => hrate h.2.2.1, rfl⟩
      · rename_i hfwd
        exact .inl ⟨fun h => hfwd ⟨h.1, h.2.1⟩, rfl⟩

end Accepted

/-! ## What a PERR should do -/

/-- The sequence number of a destination that is unreachable is newer than that of the route. -/
def Newer (rt : MeshRoute) (perr : MeshperrIe) : Prop :=
  ∀ dest ∈ perr.perrDests, dest.destRcode = BitVec.ofNat 16 IEEE80211_REASON_MESH_PERR_DEST_UNREACH →
    seqGt dest.destSeq rt.hrSeq = true

/-- A route to the destination through the sender, for which a produced PERR is meant. -/
structure MeantFor (s : MeshState) (addr2 : MacAddr) (perr : MeshperrIe) (p : Nat) : Prop where
  produced : ∃ dest, ProducedFor dest perr ∧ s.rtFind dest = some p
  nexthop : (s.deref p).rtNexthop = addr2
  newer : Newer (s.deref p) perr

/-- **What a PERR should do** at a node: `s` before, `s'` after. -/
structure PerrWorks (s s' : MeshState) (addr2 : MacAddr) (perr : MeshperrIe) : Prop where
  /-- a route that it is meant for is gone, or not valid -/
  effect : ∀ p, MeantFor s addr2 perr p → (s'.deref p).rtFlags.valid = false
  /-- with the accepted destinations, and a TTL that is one less -/
  propagated : ∀ perr', s'.sent = .perr perr' :: s.sent →
    perr'.perrDests = MeshState.acceptedDests addr2 perr.perrDests s ∧ perr'.perrTtl.toNat + 1 = perr.perrTtl.toNat

/-- **When a PERR works**: no valid route is meant, and if it is propagated then the memory for the new one holds
    the TTL of the old one. -/
structure PerrLucky (env : Env) (s : MeshState) (mem : BitVec 8) (addr2 : MacAddr) (perr : MeshperrIe) : Prop where
  invalid : ∀ p, MeantFor s addr2 perr p → (s.deref p).rtFlags.valid = false
  ttl : s.PropagatesPerr env addr2 perr → mem = perr.perrTtl

/-- **A PERR works when it is lucky.** -/
theorem perrWorks_iff (env : Env) (s : MeshState) (mem : BitVec 8) (addr2 : MacAddr) (perr : MeshperrIe) :
    PerrWorks s (s.hwmpRecvPerr env mem addr2 perr) addr2 perr ↔ PerrLucky env s mem addr2 perr := by
  have hsame : ∀ p, MeantFor s addr2 perr p → s.hwmpRecvPerr env mem addr2 perr = s := by
    rintro p ⟨⟨dest, hd, -⟩, -, -⟩
    exact hwmpRecvPerr_of_produced hd env s mem addr2
  constructor
  · intro h
    refine { invalid := ?_, ttl := ?_ }
    · intro p hp
      have := h.effect p hp
      rwa [hsame p hp] at this
    · intro hprop
      rcases sent_hwmpRecvPerr env s mem addr2 perr with ⟨hno, -⟩ | ⟨-, hsent⟩
      · exact absurd hprop hno
      · have := (h.propagated _ hsent).2
        dsimp only at this
        bv_omega
  · intro h
    refine { effect := ?_, propagated := ?_ }
    · intro p hp
      rw [hsame p hp]
      exact h.invalid p hp
    · intro perr' hperr'
      rcases sent_hwmpRecvPerr env s mem addr2 perr with ⟨-, hsent⟩ | ⟨hprop, hsent⟩
      · exact absurd (hsent.symm.trans hperr').symm (List.cons_ne_self _ _)
      · cases Tx.perr.inj (List.cons.inj (hsent.symm.trans hperr')).1
        refine ⟨rfl, ?_⟩
        have httl := h.ttl hprop
        have hgt := hprop.2.1
        dsimp only
        subst httl
        bv_omega

/-! ## A mesh of nodes -/

def perrs (sent : List Tx) : List MeshperrIe :=
  sent.filterMap fun frame => match frame with
    | .perr ie => some ie
    | _ => none

def newPerrs (s s' : MeshState) : List MeshperrIe :=
  (perrs s'.sent).take ((perrs s'.sent).length - (perrs s.sent).length)

/-- A PERR on the air, with the TTL that it was produced with and the nodes that propagated it. -/
structure PathError where
  ie : MeshperrIe
  origTtl : Nat
  hops : Nat
  deriving DecidableEq

structure PerrFlood (ι : Type) where
  node : ι → MeshState
  air : List PathError

/-- What happens in a mesh; a node can receive any PERR on the air, any number of times. -/
inductive PerrOp (ι : Type) where
  | peerdown (i : ι) (env : Env) (ni : MacAddr)
  | senderror (i : ι) (env : Env) (addr : MacAddr) (rt : Option MeshRoute) (rcode : Nat)
  | recvPerr (i : ι) (env : Env) (mem : BitVec 8) (addr2 : MacAddr) (a : PathError)
  /-- a PERR of a node that runs other code -/
  | foreign (perr : MeshperrIe)
  /-- whatever else a node does -/
  | other (i : ι) (s : MeshState)

namespace PerrFlood

variable {ι : Type} [DecidableEq ι]

def put (st : PerrFlood ι) (i : ι) (s : MeshState) (origTtl hops : Nat) : PerrFlood ι where
  node := Function.update st.node i s
  air := (newPerrs (st.node i) s).map (fun ie => { ie := ie, origTtl := origTtl, hops := hops }) ++ st.air

inductive Step : PerrFlood ι → PerrOp ι → PerrFlood ι → Prop where
  | peerdown {st : PerrFlood ι} (i : ι) (env : Env) (ni : MacAddr) :
    Step st (.peerdown i env ni) (st.put i ((st.node i).hwmpPeerdown env ni) (st.node i).msTtl.toNat 0)
  | senderror {st : PerrFlood ι} (i : ι) (env : Env) (addr : MacAddr) (rt : Option MeshRoute) (rcode : Nat) :
    Step st (.senderror i env addr rt rcode)
      (st.put i ((st.node i).hwmpSenderror env addr rt rcode) (st.node i).msTtl.toNat 0)
  | recvPerr {st : PerrFlood ι} (i : ι) (env : Env) (mem : BitVec 8) (addr2 : MacAddr) (a : PathError) (ha : a ∈ st.air) :
    Step st (.recvPerr i env mem addr2 a) (st.put i ((st.node i).hwmpRecvPerr env mem addr2 a.ie) a.origTtl (a.hops + 1))
  | foreign {st : PerrFlood ι} (perr : MeshperrIe) :
    Step st (.foreign perr) { st with air := { ie := perr, origTtl := perr.perrTtl.toNat, hops := 0 } :: st.air }
  | other {st : PerrFlood ι} (i : ι) (s : MeshState) (hs : perrs s.sent = perrs (st.node i).sent) :
    Step st (.other i s) (st.put i s 0 0)

def Init (st : PerrFlood ι) : Prop := st.air = []

/-- **Propagation stops**: every hop takes one from the TTL, and leaves something. -/
def Stops (st : PerrFlood ι) : Prop :=
  ∀ a ∈ st.air, a.ie.perrTtl.toNat + a.hops = a.origTtl ∧ (0 < a.hops → 0 < a.ie.perrTtl.toNat)

/-- The memory for a PERR that is propagated holds the TTL of the one that was received. -/
def Lucky (st : PerrFlood ι) : PerrOp ι → Prop
  | .recvPerr i env mem addr2 a => (st.node i).PropagatesPerr env addr2 a.ie → mem = a.ie.perrTtl
  | .peerdown _ _ _ | .senderror _ _ _ _ _ | .foreign _ | .other _ _ => True

theorem newPerrs_same {s s' : MeshState} (h : perrs s'.sent = perrs s.sent) : newPerrs s s' = [] := by
  unfold newPerrs
  rw [h, Nat.sub_self, List.take_zero]

theorem newPerrs_one {s s' : MeshState} {perr : MeshperrIe} (h : s'.sent = .perr perr :: s.sent) :
    newPerrs s s' = [perr] := by
  have hp : perrs s'.sent = perr :: perrs s.sent := by rw [h]; rfl
  unfold newPerrs
  rw [hp, List.length_cons, Nat.add_sub_cancel_left]
  rfl

/-- One node sends nothing, or a PERR for which the TTL is right. -/
theorem Stops.put {st : PerrFlood ι} (h : Stops st) {i : ι} {s : MeshState} {origTtl hops : Nat}
    (hs : perrs s.sent = perrs (st.node i).sent ∨ ∃ perr, s.sent = .perr perr :: (st.node i).sent ∧
      perr.perrTtl.toNat + hops = origTtl ∧ (0 < hops → 0 < perr.perrTtl.toNat)) : Stops (st.put i s origTtl hops) := by
  intro a ha
  unfold PerrFlood.put at ha
  rcases hs with hs | ⟨perr, hs, httl⟩
  · rw [newPerrs_same hs] at ha
    exact h a ha
  · rw [newPerrs_one hs] at ha
    rcases List.mem_cons.1 ha with rfl | ha
    · exact httl
    · exact h a ha

theorem sent_hwmpSendPerr (env : Env) (s : MeshState) (perr : MeshperrIe) :
    (s.hwmpSendPerr env perr).sent = s.sent ∨ (s.hwmpSendPerr env perr).sent = .perr perr :: s.sent := by
  unfold MeshState.hwmpSendPerr
  split
  · exact .inr rfl
  · exact .inl rfl

theorem sent_hwmpPeerdown (env : Env) (s : MeshState) (ni : MacAddr) :
    (s.hwmpPeerdown env ni).sent = s.sent ∨
      ∃ perr, (s.hwmpPeerdown env ni).sent = .perr perr :: s.sent ∧ perr.perrTtl = s.msTtl := by
  unfold MeshState.hwmpPeerdown
  split
  · exact .inl rfl
  · exact (sent_hwmpSendPerr env _ _).imp_right fun h => ⟨_, h, rfl⟩

theorem sent_hwmpSenderror (env : Env) (s : MeshState) (addr : MacAddr) (rt : Option MeshRoute) (rcode : Nat) :
    (s.hwmpSenderror env addr rt rcode).sent = s.sent ∨
      ∃ perr, (s.hwmpSenderror env addr rt rcode).sent = .perr perr :: s.sent ∧ perr.perrTtl = s.msTtl := by
  unfold MeshState.hwmpSenderror
  split
  · rename_i perr hperr
    refine (sent_hwmpSendPerr env s perr).imp_right fun h => ⟨perr, h, ?_⟩
    unfold MeshState.senderrorPerr at hperr
    dsimp only at hperr
    repeat' split at hperr
    all_goals
      first
      | cases hperr; rfl
      | cases hperr
      | (obtain ⟨rt', -, rfl⟩ := Option.map_eq_some_iff.1 hperr; rfl)
  · exact .inl rfl

theorem Stops.step {st st' : PerrFlood ι} {op : PerrOp ι} (h : Stops st) (hstep : Step st op st') (hl : Lucky st op) :
    Stops st' := by
  cases hstep with
  | peerdown i env ni =>
    refine h.put ?_
    rcases sent_hwmpPeerdown env (st.node i) ni with hs | ⟨perr, hs, httl⟩
    · exact .inl (congrArg perrs hs)
    · exact .inr ⟨perr, hs, by rw [httl]; rfl, fun h0 => absurd h0 (Nat.lt_irrefl 0)⟩
  | senderror i env addr rt rcode =>
    refine h.put ?_
    rcases sent_hwmpSenderror env (st.node i) addr rt rcode with hs | ⟨perr, hs, httl⟩
    · exact .inl (congrArg perrs hs)
    · exact .inr ⟨perr, hs, by rw [httl]; rfl, fun h0 => absurd h0 (Nat.lt_irrefl 0)⟩
  | recvPerr i env mem addr2 a ha =>
    refine h.put ?_
    rcases sent_hwmpRecvPerr env (st.node i) mem addr2 a.ie with ⟨-, hs⟩ | ⟨hprop, hs⟩
    · exact .inl (congrArg perrs hs)
    · refine .inr ⟨_, hs, ?_⟩
      have hmem := hl hprop
      have hgt := hprop.2.1
      have hold := (h a ha).1
      dsimp only
      subst hmem
      have hsub : (a.ie.perrTtl - 1).toNat + 1 = a.ie.perrTtl.toNat := by bv_omega
      have hpos : 0 < (a.ie.perrTtl - 1).toNat := by bv_omega
      exact ⟨by omega, fun _ => hpos⟩
  | foreign perr =>
    intro a ha
    rcases List.mem_cons.1 ha with rfl | ha
    · exact ⟨rfl, fun h0 => absurd h0 (Nat.lt_irrefl 0)⟩
    · exact h a ha
  | other i s hs => exact h.put (.inl hs)

/-- **Propagation stops** in every run whose steps are lucky. -/
theorem stops_of_lucky {st : PerrFlood ι} (h : Reachable Init (Guarded Lucky Step) st) : Stops st := by
  refine h.invariant ?_ fun st op st' hs hstep => hs.step hstep.2 hstep.1
  intro st hinit a ha
  rw [hinit] at ha
  exact nomatch ha

end PerrFlood

/-- **Path errors**: what a PERR does at a node is as it should be exactly when it is lucky, and in a mesh where
    every one that is propagated is, propagation stops. -/
theorem path_errors_work_iff {ι : Type} [DecidableEq ι] :
    (∀ (env : Env) (s : MeshState) (mem : BitVec 8) (addr2 : MacAddr) (perr : MeshperrIe),
      PerrWorks s (s.hwmpRecvPerr env mem addr2 perr) addr2 perr ↔ PerrLucky env s mem addr2 perr) ∧
    ∀ st : PerrFlood ι, Reachable PerrFlood.Init (Guarded PerrFlood.Lucky PerrFlood.Step) st → st.Stops :=
  ⟨perrWorks_iff, fun _ h => PerrFlood.stops_of_lucky h⟩

/-! ## Two nodes -/

/-- The PERR of node 2, which cannot reach node 5. -/
def unreachable : MeshperrIe :=
  { perrTtl := 31
    perrDests := [{ destFlags := 0, destAddr := 5, destSeq := 2, destExtAddr := 0, destRcode := 63 }] }

/-- **A PERR without effect**: node 1 keeps its valid route to node 5 through node 2. -/
theorem perr_without_effect : ¬ ∀ (env : Env) (s : MeshState) (mem : BitVec 8) (addr2 : MacAddr) (perr : MeshperrIe),
    PerrWorks s (s.hwmpRecvPerr env mem addr2 perr) addr2 perr := by
  intro h
  have hmeant : MeantFor (MeshState.oneRoute 1 (MeshRoute.toFive 2 1)) 2 unreachable 0 :=
    { produced := ⟨5, .senderror (MeshState.oneRoute 2 (MeshRoute.toFive 5 2)) .still (some (MeshRoute.toFive 5 2)) 63 rfl, rfl⟩
      nexthop := rfl
      newer := fun dest hd _ => by
        cases List.mem_singleton.1 hd
        decide }
  exact absurd ((h .still (MeshState.oneRoute 1 (MeshRoute.toFive 2 1)) 0 2 unreachable).effect 0 hmeant) (by decide)

/-- A PERR with a reason code in its flags, after some hops. -/
def reasonInFlags (ttl : BitVec 8) (hops : Nat) : PathError where
  ie :=
    { perrTtl := ttl
      perrDests := [{ destFlags := 63, destAddr := 5, destSeq := 2, destExtAddr := 0, destRcode := 63 }] }
  origTtl := 31
  hops := hops

def twoNodes : PerrFlood (Fin 2) where
  node := fun i => MeshState.oneRoute (BitVec.ofNat 48 (i.val + 1)) (MeshRoute.toFive 3 1)
  air := []

/-- It is propagated by one node, and stops. -/
theorem path_errors_work_iff_two : ∃ st : PerrFlood (Fin 2), st.air.map PathError.hops = [1, 0] ∧ st.Stops := by
  have h0 : Reachable PerrFlood.Init (Guarded PerrFlood.Lucky PerrFlood.Step) twoNodes := .start rfl
  have h1 := h0.next (show Guarded PerrFlood.Lucky PerrFlood.Step _ (.foreign (reasonInFlags 31 0).ie) _ from
    ⟨trivial, .foreign _⟩)
  have h2 := h1.next (show Guarded PerrFlood.Lucky PerrFlood.Step _ (.recvPerr 0 .still 31 3 (reasonInFlags 31 0)) _ from
    ⟨fun _ => rfl, .recvPerr 0 .still 31 3 _ List.mem_cons_self⟩)
  exact ⟨_, by decide, path_errors_work_iff.2 _ h2⟩

end Net80211.Mesh
