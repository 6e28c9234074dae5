import Wifi.Lib.Runs
import Wifi.Net80211.Mesh.Table

/-!
# Path discovery never stalls

* `Tracked` — the flags of a route and its callout agree.
* `DiscoveryOp`, `DiscoveryStep` — discoveries, their callouts, received elements, and expiry.
* `NeverStalls` — a route that is being discovered has its callout pending, the assertion of the callout holds, and
  after the last retry a new discovery can start.
* `discovery_never_stalls` — in every run whose steps are `Undisturbed`.
-/

namespace Net80211.Mesh

open Records Runs

/-! ## Flags and callout -/

/-- **The flags and the callout of a route agree.** -/
structure Tracked (rt : MeshRoute) : Prop where
  discover : rt.rtFlags.discover = true → rt.rtDiscovery = true ∧ rt.rtFlags.valid = false
  pending : rt.rtDiscovery = true → rt.rtFlags.valid = false → rt.rtFlags = .onlyDiscover

namespace Tracked

variable {rt rt' : MeshRoute} {env : Env} {ni addr2 : MacAddr} {preq : MeshpreqIe} {prep : MeshprepIe}

theorem new (hf : rt.rtFlags = .none) (hd : rt.rtDiscovery = false) : Tracked rt where
  discover := by
    rw [hf]
    exact nofun
  pending := by
    rw [hd]
    exact nofun

theorem same (h : Tracked rt) (hf : rt'.rtFlags = rt.rtFlags) (hd : rt'.rtDiscovery = rt.rtDiscovery) : Tracked rt' where
  discover := by
    rw [hf, hd]
    exact h.discover
  pending := by
    rw [hf, hd]
    exact h.pending

theorem found (hv : rt.rtFlags.valid = true) (hd : rt.rtFlags.discover = false) : Tracked rt where
  discover := by
    rw [hd]
    exact nofun
  pending := by
    rw [hv]
    exact nofun

/-- The lifetime of a path is over; its callout is not pending, or it was not valid. -/
theorem expired (h : Tracked rt) (hf : rt'.rtFlags = { rt.rtFlags with valid := false }) (hd : rt'.rtDiscovery = rt.rtDiscovery)
    (hp : rt.rtDiscovery = true → rt.rtFlags.valid = false) : Tracked rt' where
  discover := by
    rw [hf, hd]
    exact fun hdisc => ⟨(h.discover hdisc).1, rfl⟩
  pending := by
    rw [hf, hd]
    intro hpend _
    rw [h.pending hpend (hp hpend)]
    rfl

theorem update (h : Tracked rt) (lifetime : BitVec 32)
    (hp : lifetime = 0 → rt.expires env = true → rt.rtDiscovery = true → rt.rtFlags.valid = false) :
    Tracked (rt.update env lifetime) := by
  by_cases h0 : lifetime = 0
  · subst h0
    have hf := MeshRoute.update_rtFlags_zero env rt
    split at hf
    · rename_i he
      exact h.expired hf (by simp) (hp rfl he)
    · exact h.same hf (by simp)
  · exact h.same (MeshRoute.update_rtFlags env rt h0) (by simp)

theorem transmitted (rt : MeshRoute) : Tracked (rt.transmitted env ni) := found rfl rfl

theorem originated (rt : MeshRoute) : Tracked (rt.originated env addr2 preq) := found rfl rfl

theorem targeted (rt : MeshRoute) : Tracked (rt.targeted env ni prep) := found rfl rfl

theorem proxied (rt : MeshRoute) : Tracked (rt.proxied env addr2 prep) := found rfl rfl

theorem marked (h : Tracked rt) (hd : rt.rtFlags.discover = false) :
    Tracked { rt with rtFlags := { rt.rtFlags with gate := true } } where
  discover := by
    show rt.rtFlags.discover = true → _
    rw [hd]
    exact nofun
  pending := by
    intro hpend hv
    have := h.pending hpend hv
    rw [this] at hd
    cases hd

end Tracked

/-! ## Runs -/

inductive DiscoveryOp where
  | discover (env : Env) (dest : MacAddr)
  | rediscover (env : Env) (p : Nat)
  | recvPreq (env : Env) (ni addr2 : MacAddr) (preq : MeshpreqIe)
  | recvPrep (env : Env) (ni addr2 : MacAddr) (prep : MeshprepIe)
  | recvRann (env : Env) (addr2 : MacAddr) (rann : MeshrannIe)
  | flushInvalid (env : Env)

/-- A step of a vap; a callout runs where it is pending. -/
inductive DiscoveryStep : MeshState → DiscoveryOp → MeshState → Prop where
  | discover {s : MeshState} (env : Env) (dest : MacAddr) : DiscoveryStep s (.discover env dest) (s.hwmpDiscover env dest)
  | rediscover {s s' : MeshState} (env : Env) (rt : MeshRoute) (hrt : rt ∈ s.msRoutes) (hp : rt.rtDiscovery = true)
      (hs : s.hwmpRediscoverCb env rt.ptr = some s') : DiscoveryStep s (.rediscover env rt.ptr) s'
  | recvPreq {s : MeshState} (env : Env) (ni addr2 : MacAddr) (preq : MeshpreqIe) :
    DiscoveryStep s (.recvPreq env ni addr2 preq) (s.hwmpRecvPreq env ni addr2 preq)
  | recvPrep {s : MeshState} (env : Env) (ni addr2 : MacAddr) (prep : MeshprepIe) :
    DiscoveryStep s (.recvPrep env ni addr2 prep) (s.hwmpRecvPrep env ni addr2 prep)
  | recvRann {s : MeshState} (env : Env) (addr2 : MacAddr) (rann : MeshrannIe) :
    DiscoveryStep s (.recvRann env addr2 rann) (s.hwmpRecvRann env addr2 rann)
  | flushInvalid {s : MeshState} (env : Env) : DiscoveryStep s (.flushInvalid env) (s.rtFlushInvalid env)

def NoRoutes (s : MeshState) : Prop := s.msRoutes = []

/-- A PREQ leaves the discovery of a route alone: it does not mark the originator's while it is being discovered,
    unless the PREQ or its transmitter gives it a new path first; and it does not expire one whose callout is pending. -/
structure PreqLeaves (env : Env) (ni : MacAddr) (preq : MeshpreqIe) (rt : MeshRoute) : Prop where
  discover : preq.marksGate → rt.rtDest = preq.preqOrigaddr → rt.rtFlags.discover = true →
    MeshState.preqUpdates env preq rt = true ∨ ni = preq.preqOrigaddr
  lifetime : hasFlag preq.preqFlags IEEE80211_MESHPREQ_FLAGS_AE = true → preq.preqLifetime = 0 →
    rt.rtDest = preq.preqOrigExtAddr → rt.rtDiscovery = true →
    preq.preqOrigExtAddr ≠ preq.preqOrigaddr ∧ preq.preqOrigExtAddr ≠ ni ∧ (rt.expires env = true → rt.rtFlags.valid = false)

/-- A RANN leaves the discovery of the root's route alone. -/
structure RannLeaves (env : Env) (rann : MeshrannIe) (rt : MeshRoute) : Prop where
  discover : hasFlag rann.rannFlags IEEE80211_MESHRANN_FLAGS_GATE = true → rt.rtFlags.discover = false
  lifetime : env.ticksToMsecs env.roottimeout = 0 → rt.rtDiscovery = true → rt.expires env = true → rt.rtFlags.valid = false

/-- **The steps that leave discoveries undisturbed**: no PREQ or RANN marks a gate whose route is being discovered, and
    none expires a route whose callout is pending. -/
def Undisturbed (s : MeshState) : DiscoveryOp → Prop
  | .recvPreq env ni _ preq => s.preqAccepts preq (s.rtFind preq.target0.targetAddr) = true → ∀ rt ∈ s.msRoutes,
    PreqLeaves env ni preq rt
  | .recvRann env _ rann => s.rannAccepts rann = true → ∀ rt ∈ s.msRoutes, rt.rtDest = rann.rannAddr →
    RannLeaves env rann rt
  | .discover _ _ | .rediscover _ _ | .recvPrep _ _ _ _ | .flushInvalid _ => True

/-- **Discovery never stalls.** -/
structure NeverStalls (s : MeshState) : Prop where
  /-- a route that is being discovered has its callout pending -/
  pending : ∀ rt ∈ s.msRoutes, rt.rtFlags.discover = true → rt.rtDiscovery = true
  /-- the assertion of `ieee80211_mesh_forward_to_gates`, which the callout calls for a route that is not valid -/
  assertion : ∀ rt ∈ s.msRoutes, rt.rtDiscovery = true → rt.rtFlags.valid = false → rt.rtFlags = .onlyDiscover
  /-- after the last retry the route is not being discovered; when it has expired, a frame starts a new discovery -/
  again : ∀ rt ∈ s.msRoutes, rt.rtDiscovery = true → rt.rtFlags.valid = false → ∀ (env : Env) (s' : MeshState),
    rt.hrPreqretries ≥ env.maxpreqRetries → s.hwmpRediscoverCb env rt.ptr = some s' →
    ∀ env₁ env₂ : Env, env₂.canAlloc rt.rtDest = true → 0 < env₂.maxpreqRetries → isMulticast rt.rtDest = false →
      ∃ rt' ∈ ((s'.rtFlushInvalid env₁).hwmpDiscover env₂ rt.rtDest).msRoutes,
        rt'.rtDest = rt.rtDest ∧ rt'.rtFlags = .onlyDiscover ∧ rt'.rtDiscovery = true

section Steps

variable {s s' : MeshState} {env : Env} {ni addr2 dest : MacAddr} {preq : MeshpreqIe} {prep : MeshprepIe} {rann : MeshrannIe}

/-- The table of a vap whose routes are tracked. -/
abbrev TrackedRoutes (s : MeshState) : Prop := Routes 0 (fun _ => False) Tracked s

theorem tracked_hwmpDiscover (h : TrackedRoutes s) (env : Env) (dest : MacAddr) : TrackedRoutes (s.hwmpDiscover env dest) := by
  refine h.hwmpDiscover (fun rt _ hf hd => .new hf hd) (fun rt e hrt => hrt.same rfl rfl) ?_
  rintro rt rt' - - ⟨-, -, hf, hd⟩ -
  exact { discover := fun _ => ⟨hd, by rw [hf]; rfl⟩, pending := fun _ _ => hf }

theorem tracked_hwmpRediscoverCb {p : Nat} (h : TrackedRoutes s) (hp : ∀ rt ∈ s.msRoutes, rt.ptr = p → rt.rtDiscovery = true)
    (hs : s.hwmpRediscoverCb env p = some s') : TrackedRoutes s' := by
  have hpend : Routes 0 (fun _ => False) (fun rt => Tracked rt ∧ (rt.ptr = p → rt.rtDiscovery = true)) s :=
    { h with all := fun rt hrt => ⟨h.all rt hrt, hp rt hrt⟩ }
  refine hpend.hwmpRediscoverCb hs ?_ ?_ ?_ fun rt _ hrt => hrt.1
  · intro rt _ hv hrt
    refine .found hv ?_
    cases hd : rt.rtFlags.discover with
    | false => rfl
    | true =>
      have := (hrt.1.discover hd).2
      rw [hv] at this
      cases this
  · intro rt e hptr _ _ hrt
    exact hrt.1.same rfl (hrt.2 hptr).symm
  · rintro rt rt' _ _ ⟨-, -, hf, hd⟩ _
    exact .new hf hd

theorem tracked_rtFlushInvalid (h : TrackedRoutes s) (env : Env) : TrackedRoutes (s.rtFlushInvalid env) := by
  refine h.rtFlushInvalid (fun _ _ hk => hk.elim) ?_
  intro rt _ _ hv hrt
  refine hrt.update 0 fun _ he _ => ?_
  rw [MeshRoute.update_rtFlags_zero, if_pos he] at hv
  cases hv

/-- **`hwmp_recv_prep`** -/
theorem tracked_hwmpRecvPrep (h : TrackedRoutes s) : TrackedRoutes (s.hwmpRecvPrep env ni addr2 prep) := by
  unfold MeshState.hwmpRecvPrep
  dsimp only
  split
  · exact h
  · split
    · exact h
    · rename_i s' p hadd
      obtain ⟨hs', -⟩ := h.rtFindOrAdd hadd fun _ rt _ _ hf hd => .new hf hd
      split
      · exact hs'
      · have htarg : TrackedRoutes (s'.prepUpdateTarg env ni prep p) :=
          hs'.prepUpdateTarg (fun rt _ _ _ => .targeted rt) fun _ _ _ hrt => hrt
        have htrans : TrackedRoutes ((s'.prepUpdateTarg env ni prep p).hwmpUpdateTransmitter env ni) := by
          refine htarg.hwmpUpdateTransmitter (fun _ rt _ _ hf hd => .new hf hd) ?_ fun _ _ hrt => hrt
          intro rt _ hrt
          split
          · exact .transmitted rt
          · exact hrt
        split
        · exact htrans
        · rename_i hprop
          exact (htrans.prepPropagate hprop).prepExt (fun rt _ hf hd => .new hf hd) fun _ rt _ _ => .proxied rt

/-- **`hwmp_recv_rann`** -/
theorem tracked_hwmpRecvRann (h : TrackedRoutes s) (hu : Undisturbed s (.recvRann env addr2 rann)) :
    TrackedRoutes (s.hwmpRecvRann env addr2 rann) := by
  unfold MeshState.hwmpRecvRann
  split
  · exact h
  · split
    · exact h
    · rename_i hacc
      rw [Bool.not_eq_false] at hacc
      split
      · exact h
      · rename_i s' p hadd
        -- the two conditions, of the root's route
        have hI : Routes 0 (fun _ => False) (fun rt => Tracked rt ∧ (rt.rtDest = rann.rannAddr → RannLeaves env rann rt)) s :=
          { h with all := fun rt hrt => ⟨h.all rt hrt, hu hacc rt hrt⟩ }
        obtain ⟨hs', hfind, -⟩ := hI.rtFindOrAdd hadd fun _ rt _ _ hf hd => by
          refine ⟨.new hf hd, fun _ => ⟨?_, ?_⟩⟩
          · rw [hf]
            exact fun _ => rfl
          · rw [hd]
            exact nofun
        have hdest : Routes 0 (fun _ => False) (fun rt => Tracked rt ∧ (rt.ptr = p → RannLeaves env rann rt)) s' :=
          { hs' with all := fun rt hrt =>
              ⟨(hs'.all rt hrt).1, fun hp => (hs'.all rt hrt).2 (hs'.rtDest_of_rtFind hfind hrt hp)⟩ }
        have hreq : TrackedRoutes (s'.rannRequest env addr2 rann p) := by
          refine hdest.rannRequest ?_ fun rt _ _ hrt => hrt.1
          intro rt _ hp hrt
          split
          · rename_i hg
            exact (hrt.1.marked ((hrt.2 hp).discover hg)).update _ fun h0 he hpend => (hrt.2 hp).lifetime h0 hpend he
          · exact hrt.1.update _ fun h0 he hpend => (hrt.2 hp).lifetime h0 hpend he
        exact hreq.rannPropagate fun rt e _ hrt => hrt.same rfl rfl

/-- What is known of a route before the transmitter's path is replaced; `p` is the originator's. -/
structure PreqReady (env : Env) (ni : MacAddr) (preq : MeshpreqIe) (p : Nat) (rt : MeshRoute) : Prop where
  tracked : Tracked rt
  dest : rt.ptr = p → rt.rtDest = preq.preqOrigaddr
  discover : preq.marksGate → rt.rtDest = preq.preqOrigaddr → rt.rtFlags.discover = true → ni = preq.preqOrigaddr
  lifetime : hasFlag preq.preqFlags IEEE80211_MESHPREQ_FLAGS_AE = true → preq.preqLifetime = 0 →
    rt.rtDest = preq.preqOrigExtAddr → rt.rtDiscovery = true →
    preq.preqOrigExtAddr ≠ preq.preqOrigaddr ∧ preq.preqOrigExtAddr ≠ ni ∧ (rt.expires env = true → rt.rtFlags.valid = false)

structure PreqMarkable (preq : MeshpreqIe) (p : Nat) (rt : MeshRoute) : Prop where
  tracked : Tracked rt
  dest : rt.ptr = p → rt.rtDest = preq.preqOrigaddr
  discover : preq.marksGate → rt.rtDest = preq.preqOrigaddr → rt.rtFlags.discover = false

/-- `hwmp_recv_preq`, from the update of the transmitter on. -/
theorem tracked_preqAccepted {n p : Nat} {rttarg : Option Nat} (hp : p < n)
    (h : Routes n (fun _ => False) (PreqReady env ni preq p) s) :
    Routes n (fun _ => False) Tracked (s.preqAccepted env ni addr2 preq p rttarg) := by
  have hnew : ∀ rt : MeshRoute, n ≤ rt.ptr → rt.rtFlags = .none → rt.rtDiscovery = false → PreqReady env ni preq p rt := by
    intro rt hn hf hd
    refine { tracked := .new hf hd, dest := fun hptr => by omega, discover := ?_, lifetime := ?_ }
    · rw [hf]
      exact nofun
    · rw [hd]
      exact nofun
  have htrans : Routes n (fun _ => False) (fun rt => PreqMarkable preq p rt ∧
      (hasFlag preq.preqFlags IEEE80211_MESHPREQ_FLAGS_AE = true → preq.preqLifetime = 0 →
        rt.rtDest = preq.preqOrigExtAddr → rt.rtDiscovery = true → rt.expires env = true → rt.rtFlags.valid = false))
      (s.hwmpUpdateTransmitter env ni) := by
    refine h.hwmpUpdateTransmitter (fun _ rt hn _ hf hd => hnew rt hn hf hd) ?_ ?_
    · intro rt hni hrt
      split
      · refine ⟨{ tracked := .transmitted rt, dest := ?_, discover := fun _ _ => rfl }, ?_⟩
        · simpa [MeshRoute.transmitted] using hrt.dest
        · intro hae h0 hdest hpend
          have hdest' : rt.rtDest = preq.preqOrigExtAddr := by simpa [MeshRoute.transmitted] using hdest
          have hpend' : rt.rtDiscovery = true := by simpa [MeshRoute.transmitted] using hpend
          exact absurd (hdest'.symm.trans hni) (hrt.lifetime hae h0 hdest' hpend').2.1
      · rename_i htrans
        refine ⟨{ tracked := hrt.tracked, dest := hrt.dest, discover := ?_ }, ?_⟩
        · -- it is valid
          intro _ _
          cases hd : rt.rtFlags.discover with
          | false => rfl
          | true =>
            have hv := (hrt.tracked.discover hd).2
            unfold MeshRoute.transmits at htrans
            simp [hv] at htrans
        · exact fun hae h0 hdest hpend => (hrt.lifetime hae h0 hdest hpend).2.2
    · intro rt hne hrt
      refine ⟨{ tracked := hrt.tracked, dest := hrt.dest, discover := ?_ }, ?_⟩
      · intro hm hdest
        cases hd : rt.rtFlags.discover with
        | false => rfl
        | true => exact absurd (hdest.trans (hrt.discover hm hdest hd).symm) hne
      · exact fun hae h0 hdest hpend => (hrt.lifetime hae h0 hdest hpend).2.2
  unfold MeshState.preqAccepted
  dsimp only
  split
  · exact (htrans.mono fun rt _ hrt => hrt.1.tracked).preqReply fun rt e hrt => hrt.same rfl rfl
  · split
    · exact htrans.mono fun rt _ hrt => hrt.1.tracked
    · rename_i s' hext
      have hs' : Routes n (fun _ => False) (PreqMarkable preq p) s' := by
        refine htrans.preqExt hext ?_ ?_ fun rt hrt => hrt.1
        · intro rt hn hf hd
          refine ⟨{ tracked := .new hf hd, dest := fun hptr => by omega, discover := ?_ }, ?_⟩
          · rw [hf]
            exact fun _ _ => rfl
          · rw [hd]
            exact nofun
        · intro hae rt g e hdest hrt
          have hset : Tracked { rt with rtMeshGate := g, rtExtSeq := e } := hrt.1.tracked.same rfl rfl
          refine { tracked := hset.update _ ?_, dest := ?_, discover := ?_ }
          · exact fun h0 he hpend => hrt.2 hae h0 hdest hpend he
          · simpa using hrt.1.dest
          · simpa using hrt.1.discover
      refine Routes.preqForward ?_
      unfold MeshState.preqRoot
      split
      · rename_i hroot
        have hmark : Routes n (fun _ => False) (PreqMarkable preq p)
            (s'.markRoot (hasFlag preq.preqFlags IEEE80211_MESHPREQ_FLAGS_GATE) preq.preqOrigaddr p) := by
          refine hs'.markRoot (fun rt _ hptr hrt => ?_) fun _ _ _ hrt => hrt
          split
          · rename_i hg
            have hd := hrt.discover ⟨hroot.1, hroot.2, hg⟩ (hrt.dest hptr)
            exact { tracked := hrt.tracked.marked hd, dest := hrt.dest, discover := hrt.discover }
          · exact hrt
        exact Routes.preqRootReply (hmark.mono fun rt _ hrt => hrt.tracked)
      · exact hs'.mono fun rt _ hrt => hrt.tracked

/-- **`hwmp_recv_preq`** -/
theorem tracked_hwmpRecvPreq (h : TrackedRoutes s) (hu : Undisturbed s (.recvPreq env ni addr2 preq)) :
    TrackedRoutes (s.hwmpRecvPreq env ni addr2 preq) := by
  unfold MeshState.hwmpRecvPreq
  dsimp only
  split
  · exact h
  · split
    · exact h
    · rename_i hacc
      rw [Bool.not_eq_false] at hacc
      split
      · exact h
      · rename_i s' p hadd
        have hI : Routes 0 (fun _ => False) (fun rt => Tracked rt ∧ PreqLeaves env ni preq rt) s :=
          { h with all := fun rt hrt => ⟨h.all rt hrt, hu hacc rt hrt⟩ }
        obtain ⟨hs', hfind, -⟩ := hI.rtFindOrAdd hadd fun _ rt _ _ hf hd => by
          refine ⟨.new hf hd, { discover := ?_, lifetime := ?_ }⟩
          · rw [hf]
            exact nofun
          · rw [hd]
            exact nofun
        have hptr : p < s'.nextPtr := by
          obtain ⟨hmem, hp, -⟩ := hs'.of_rtFind hfind
          have := hs'.fresh _ hmem
          omega
        -- the number of the PREQ is noted
        have hseen : Routes s'.nextPtr (fun _ => False)
            (fun rt => Tracked rt ∧ PreqLeaves env ni preq rt ∧ (rt.ptr = p ↔ rt.rtDest = preq.preqOrigaddr))
            (s'.modifyRt p fun rt => { rt with hrPreqid := seqMax rt.hrPreqid preq.preqId }) := by
          have hiff : ∀ rt ∈ s'.msRoutes, rt.ptr = p ↔ rt.rtDest = preq.preqOrigaddr := fun rt hrt =>
            ⟨hs'.rtDest_of_rtFind hfind hrt, hs'.ptr_of_rtFind hfind hrt⟩
          refine hs'.rebase.modifyRt (fun _ => ⟨rfl, rfl⟩) ?_ ?_
          · exact fun rt hmem _ hrt => ⟨hrt.1.same rfl rfl, ⟨hrt.2.discover, hrt.2.lifetime⟩, hiff rt hmem⟩
          · exact fun rt hmem _ hrt => ⟨hrt.1, hrt.2, hiff rt hmem⟩
        split
        · rename_i hupd
          refine (tracked_preqAccepted hptr (hseen.preqUpdateOrig ?_ ?_)).unbased
          · rintro rt _ hp ⟨ht, hl, hiff⟩
            have hdest := hiff.1 hp
            refine { tracked := .originated rt, dest := ?_, discover := ?_, lifetime := ?_ }
            · exact fun _ => by simpa [MeshRoute.originated] using hdest
            · exact nofun
            · intro hae h0 hext hpend
              have hext' : rt.rtDest = preq.preqOrigExtAddr := by simpa [MeshRoute.originated] using hext
              have hpend' : rt.rtDiscovery = true := by simpa [MeshRoute.originated] using hpend
              exact absurd (hext'.symm.trans hdest) (hl.lifetime hae h0 hext' hpend').1
          · rintro rt _ hp ⟨ht, hl, hiff⟩
            exact { tracked := ht, dest := hiff.1, discover := fun _ hd => absurd (hiff.2 hd) hp, lifetime := hl.lifetime }
        · rename_i hupd
          split
          · exact (hseen.mono fun rt _ hrt => hrt.1).unbased
          · refine (tracked_preqAccepted hptr (hseen.mono ?_)).unbased
            rintro rt hmem ⟨ht, hl, hiff⟩
            refine { tracked := ht, dest := hiff.1, discover := ?_, lifetime := hl.lifetime }
            intro hm hd hdisc
            have hderef := hseen.deref hmem
            rw [hiff.2 hd] at hderef
            rw [hderef] at hupd
            exact (hl.discover hm hd hdisc).resolve_left hupd

/-- **A step** leaves flags and callouts in agreement. -/
theorem tracked_step {op : DiscoveryOp} (h : TrackedRoutes s) (hstep : DiscoveryStep s op s') (hu : Undisturbed s op) :
    TrackedRoutes s' := by
  cases hstep with
  | discover env dest => exact tracked_hwmpDiscover h env dest
  | rediscover env rt hrt hp hs =>
    refine tracked_hwmpRediscoverCb h (fun rt' hrt' hptr => ?_) hs
    rw [h.eq_of_ptr hrt' hrt hptr]
    exact hp
  | recvPreq env ni addr2 preq => exact tracked_hwmpRecvPreq h hu
  | recvPrep env ni addr2 prep => exact tracked_hwmpRecvPrep h
  | recvRann env addr2 rann => exact tracked_hwmpRecvRann h hu
  | flushInvalid env => exact tracked_rtFlushInvalid h env

end Steps

/-! ## A new discovery -/

section Again

variable {n : Nat} {K : Nat → Prop} {I : MeshRoute → Prop} {s s' : MeshState} {env : Env} {rt : MeshRoute} {dest : MacAddr}
  {p : Nat}

theorem mem_modifyRt (rt : MeshRoute) {f : MeshRoute → MeshRoute} (hrt : rt ∈ s.msRoutes) (hp : rt.ptr = p) : f rt ∈ (s.modifyRt p f).msRoutes := by
  have hmem : (if rt.ptr = p then f rt else rt) ∈ (s.modifyRt p f).msRoutes := List.mem_map_of_mem hrt
  rwa [if_pos hp] at hmem

theorem msRoutes_hwmpSendPreq (da : MacAddr) (preq : MeshpreqIe) (limited : Bool) :
    (s.hwmpSendPreq env da preq limited).msRoutes = s.msRoutes := by
  unfold MeshState.hwmpSendPreq
  split <;> rfl

/-- `hwmp_discover` sends a PREQ where retries are left. -/
theorem started_of_startDiscovery (h : Routes n K I s) (hrt : rt ∈ s.msRoutes) (hlt : rt.hrPreqretries < env.maxpreqRetries) :
    ∃ rt' ∈ (s.startDiscovery env rt.ptr).msRoutes, Routes.Started rt rt' := by
  have hlast : ({ rt with hrLastdiscovery := env.ticks } : MeshRoute) ∈
      (s.modifyRt rt.ptr fun rt => { rt with hrLastdiscovery := env.ticks }).msRoutes := by
    apply mem_modifyRt rt (f := fun rt => { rt with hrLastdiscovery := env.ticks }) hrt rfl
  have hl : Routes n K (fun _ => True) (s.modifyRt rt.ptr fun rt => { rt with hrLastdiscovery := env.ticks }) :=
    h.modifyRt (fun _ => ⟨rfl, rfl⟩) (fun _ _ _ _ => trivial) fun _ _ _ _ => trivial
  have hderef : (s.modifyRt rt.ptr fun rt => { rt with hrLastdiscovery := env.ticks }).deref rt.ptr =
      { rt with hrLastdiscovery := env.ticks } := hl.deref hlast
  unfold MeshState.startDiscovery
  dsimp only
  rw [hderef, if_neg (Nat.not_le.2 hlt)]
  refine ⟨_, mem_modifyRt ?_ ?_ ?_, ?_⟩
  rotate_left
  · rw [msRoutes_hwmpSendPreq]
    exact mem_modifyRt _ hlast rfl
  · rfl
  · exact ⟨rfl, rfl, rfl, rfl⟩

/-- **A frame to an unknown destination** starts a discovery. -/
theorem discovers_unknown (h : Routes n K I s) (hnone : s.rtFind dest = none) (halloc : env.canAlloc dest = true)
    (hmax : 0 < env.maxpreqRetries) (hmulti : isMulticast dest = false) :
    ∃ rt ∈ (s.hwmpDiscover env dest).msRoutes, rt.rtDest = dest ∧ rt.rtFlags = .onlyDiscover ∧ rt.rtDiscovery = true := by
  have hadd : s.rtFindOrAdd env dest = some (s.rtAdd env dest, s.nextPtr) := by
    unfold MeshState.rtFindOrAdd
    rw [hnone]
    exact if_pos halloc
  have hs' : Routes n K (fun _ => True) (s.rtAdd env dest) :=
    Routes.rtAdd (h.mono fun _ _ _ => trivial) hnone fun _ _ _ _ _ => trivial
  have hmem : { MeshRoute.zero with ptr := s.nextPtr, rtDest := dest, rtUpdtime := env.ticks } ∈ (s.rtAdd env dest).msRoutes :=
    List.mem_append_right _ List.mem_cons_self
  have hderef : (s.rtAdd env dest).deref s.nextPtr =
      { MeshRoute.zero with ptr := s.nextPtr, rtDest := dest, rtUpdtime := env.ticks } := hs'.deref hmem
  obtain ⟨rt', hrt', -, hdest, hf, hd⟩ := started_of_startDiscovery hs' hmem hmax
  refine ⟨rt', ?_, hdest, hf, hd⟩
  unfold MeshState.hwmpDiscover
  simp only [hmulti, hadd, hderef]
  simpa [MeshRoute.zero, RtFlags.none] using hrt'

/-- **After the last retry** the route is cleared, and expires. -/
theorem unknown_after_exhausted (h : Routes n K I s) (hrt : rt ∈ s.msRoutes) (hv : rt.rtFlags.valid = false)
    (hmax : rt.hrPreqretries ≥ env.maxpreqRetries) (hs : s.hwmpRediscoverCb env rt.ptr = some s') (env₁ : Env) :
    (s'.rtFlushInvalid env₁).rtFind rt.rtDest = none := by
  have hself : Routes n K (fun rt' => (rt'.ptr = rt.ptr → rt' = rt) ∧ (rt'.rtDest = rt.rtDest → rt'.ptr = rt.ptr)) s := by
    refine h.mono fun rt' hrt' _ => ⟨h.eq_of_ptr hrt' hrt, fun hd => ?_⟩
    have hfind : s.rtFind rt.rtDest = some rt.ptr := by
      unfold MeshState.rtFind
      rw [look_of_nodup h.dests hrt]
      rfl
    exact h.ptr_of_rtFind hfind hrt' hd
  have hnone : Routes n K (fun rt' => rt'.rtDest = rt.rtDest → rt'.rtFlags = .none) s' := by
    refine hself.hwmpRediscoverCb hs ?_ ?_ ?_ ?_
    · intro rt' hp hv' hi
      rw [hi.1 hp, hv] at hv'
      cases hv'
    · intro rt' e hp _ hlt hi
      rw [hi.1 hp] at hlt
      omega
    · exact fun rt' rt'' _ _ hab _ _ => hab.2.2.1
    · exact fun rt' hp hi hd => absurd (hi.2 hd) hp
  unfold MeshState.rtFind
  rw [Option.map_eq_none_iff]
  cases hlook : look MeshRoute.rtDest rt.rtDest (s'.rtFlushInvalid env₁).msRoutes with
  | none => rfl
  | some rt' =>
    obtain ⟨hmem, hdest⟩ := look_some hlook
    obtain ⟨rt'', hrt'', hf⟩ := List.mem_filterMap.1 hmem
    rcases Routes.flushed_cases hf with ⟨hd, rfl⟩ | ⟨-, hvalid, rfl⟩
    · rw [hnone.all _ hrt'' hdest] at hd
      cases hd
    · rw [MeshRoute.update_rtDest] at hdest
      rw [MeshRoute.update_rtFlags_zero, hnone.all _ hrt'' hdest] at hvalid
      split at hvalid <;> cases hvalid

/-- **Flags and callouts that agree** keep discovery from stalling. -/
theorem neverStalls_of_tracked (h : TrackedRoutes s) : NeverStalls s where
  pending := fun rt hrt hd => ((h.all rt hrt).discover hd).1
  assertion := fun rt hrt => (h.all rt hrt).pending
  again := by
    intro rt hrt hp hv env s' hmax hs env₁ env₂ halloc hlt hmulti
    have hs' : TrackedRoutes s' := by
      refine tracked_hwmpRediscoverCb h (fun rt' hrt' hptr => ?_) hs
      rw [h.eq_of_ptr hrt' hrt hptr]
      exact hp
    exact discovers_unknown (tracked_rtFlushInvalid hs' env₁) (unknown_after_exhausted h hrt hv hmax hs env₁) halloc hlt hmulti

end Again

end Net80211.Mesh
