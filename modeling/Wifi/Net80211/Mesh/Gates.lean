import Wifi.Net80211.Mesh.Announce
import Wifi.Net80211.Mesh.SeqOrder

/-!
# Known gates stay valid

* `Referred`, `GateOk`, `GatesValid` — the routes that known gates refer to, and what has to hold of them.
* `GateOp`, `GateStep` — announcements, elements, updates and deletions of routes, discoveries and their callouts.
* `Spares` — a step that deletes no such route, and takes no gate flag from it.
* `gates_stay_valid` — in every run whose steps are `Spares`, frames are forwarded to gates safely.
-/

namespace Net80211.Mesh

open Records Runs

/-! ## Gates and their routes -/

def Referred (s : MeshState) (p : Nat) : Prop := ∃ gr ∈ s.msKnownGates, gr.grRoute = some p

def GateOk (rt : MeshRoute) : Prop := rt.rtFlags.valid = true → rt.rtFlags.gate = true ∧ rt.rtFlags.proxy = false

/-- **Known gates stay valid**: each has no route, or one in the table, which if valid is a gate's and no proxy. -/
def GatesValid (s : MeshState) : Prop :=
  ∀ gr ∈ s.msKnownGates, ∀ p, gr.grRoute = some p → ∃ rt ∈ s.msRoutes, rt.ptr = p ∧ GateOk rt

/-- The table, with what has to hold of the routes that are referred to. -/
abbrev GateTable (s : MeshState) : Prop := Routes 0 (Referred s) (fun rt => Referred s rt.ptr → GateOk rt) s

section Table

variable {n p : Nat} {K : Nat → Prop} {I : MeshRoute → Prop} {s s' : MeshState} {env : Env} {rt : MeshRoute}
  {ni addr2 : MacAddr} {prep : MeshprepIe}

theorem GateTable.gatesValid (h : GateTable s) : GatesValid s := by
  intro gr hgr p hp
  have href : Referred s p := ⟨gr, hgr, hp⟩
  obtain ⟨rt, hrt, hptr⟩ := h.kept p href
  exact ⟨rt, hrt, hptr, h.all rt hrt (hptr.symm ▸ href)⟩

theorem GateTable.intro (h : Routes n K I s) (hk : ∀ q, Referred s q → K q)
    (hi : ∀ rt ∈ s.msRoutes, I rt → Referred s rt.ptr → GateOk rt) : GateTable s :=
  ((h.fewer hk).mono hi).unbased

theorem referred_congr {q : Nat} (h : s'.msKnownGates = s.msKnownGates) (hq : Referred s' q) : Referred s q := by
  unfold Referred at hq
  rwa [h] at hq

theorem referred_modifyGate {addr : MacAddr} {f : GateRoute → GateRoute} {P : Nat → Prop} {q : Nat}
    (hq : Referred (s.modifyGate addr f) q) (hf : ∀ gr, (f gr).grRoute = some q → gr.grRoute = some q ∨ P q) :
    Referred s q ∨ P q := by
  obtain ⟨gr, hgr, hroute⟩ := hq
  rcases mem_upsert hgr with hgr | rfl
  · exact .inl ⟨gr, hgr, hroute⟩
  · refine (hf _ hroute).imp_left fun hold => ?_
    cases hlook : look GateRoute.grAddr addr s.msKnownGates with
    | none =>
      rw [hlook] at hold
      cases hold
    | some gr =>
      rw [hlook] at hold
      exact ⟨gr, (look_some hlook).1, hold⟩

theorem referred_markGate {addr : MacAddr} {q : Nat} (hq : Referred (s.markGate addr p) q) : Referred s q ∨ q = p :=
  referred_modifyGate (P := fun q => q = p) hq fun _ hq => .inr (Option.some.inj hq).symm

/-- **A handler that marked at most one gate.** -/
theorem referred_of_marked {marks : Prop} {addr : MacAddr} (h : Marked marks addr p s s') {q : Nat} (hq : Referred s' q) :
    Referred s q ∨ marks ∧ q = p := by
  rcases h.gates with hsame | ⟨hm, hmark⟩
  · exact .inl (referred_congr hsame hq)
  · have hq' : Referred (s.markGate addr p) q := referred_congr hmark hq
    exact (referred_markGate hq').imp_right fun hp => ⟨hm, hp⟩

/-! ## Forwarding to gates -/

/-- The loop over known gates goes through, for a destination that none refers to. -/
theorem forwardToGatesLoop_some {grs : List GateRoute} (h : Routes n K (fun rt => K rt.ptr → GateOk rt) s) (hp : ¬ K p)
    (hgrs : ∀ gr ∈ grs, ∀ q, gr.grRoute = some q → K q) : ∃ s', MeshState.forwardToGatesLoop env p grs s = some s' := by
  induction grs generalizing s with
  | nil => exact ⟨s, rfl⟩
  | cons gr grs ih =>
    have hgrs' : ∀ gr ∈ grs, ∀ q, gr.grRoute = some q → K q := fun gr hgr => hgrs gr (List.mem_cons_of_mem _ hgr)
    unfold MeshState.forwardToGatesLoop
    split
    · exact ih h hgrs'
    · rename_i q hq
      have hkq := hgrs gr List.mem_cons_self q hq
      obtain ⟨rt, hrt, hptr⟩ := h.kept q hkq
      have hlook : look MeshRoute.ptr q s.msRoutes = some rt := by
        rw [← hptr]
        exact look_of_nodup h.nodup hrt
      have hok := h.all rt hrt (hptr.symm ▸ hkq)
      rw [hlook]
      dsimp only
      split
      · exact ih h hgrs'
      · rename_i hv
        rw [Bool.not_eq_false] at hv
        obtain ⟨hgate, hproxy⟩ := hok hv
        rw [if_neg (by rw [hgate]; simp), if_neg (by rw [hproxy]; simp)]
        -- the destination is another route
        refine ih ?_ hgrs'
        refine Routes.modify (h.modify (fun _ => ⟨rfl, rfl⟩) ?_) (fun rt => ⟨by simp, by simp⟩) ?_
        · exact fun rt _ hptr _ hk => absurd (hptr ▸ hk) hp
        · intro rt _ hptr _ hk
          rw [MeshRoute.update_ptr, hptr] at hk
          exact absurd hk hp

/-- **Frames are forwarded to gates safely**: no dereference of a route that is gone, and the assertions hold. -/
def ForwardsSafely (s : MeshState) : Prop :=
  ∀ (env : Env) (p : Nat), (s.deref p).rtFlags = .onlyDiscover → ¬ Referred s p → ∃ s', s.forwardToGates env p = some s'

theorem GateTable.forwardsSafely (h : GateTable s) : ForwardsSafely s := by
  intro env p hflags hp
  obtain ⟨s', hs'⟩ : ∃ s', MeshState.forwardToGatesLoop env p s.msKnownGates s = some s' :=
    forwardToGatesLoop_some h hp fun gr hgr q hq => ⟨gr, hgr, hq⟩
  unfold MeshState.forwardToGates
  rw [if_neg (not_not.2 hflags), hs']
  exact ⟨_, rfl⟩

end Table

/-! ## What is spared -/

/-- The route of a PREQ's originator, after the originator's path was replaced or left alone. -/
def MeshRoute.afterOriginator (env : Env) (addr2 : MacAddr) (preq : MeshpreqIe) (rt : MeshRoute) : MeshRoute :=
  if rt.rtDest = preq.preqOrigaddr ∧ MeshState.preqUpdates env preq rt = true then rt.originated env addr2 preq else rt

/-- A PREQ marks its originator: it is not answered, and its proxy information is noted. -/
def PreqMarks (env : Env) (s : MeshState) (preq : MeshpreqIe) : Prop :=
  preq.marksGate ∧ s.ivMyaddr ≠ broadcastaddr ∧ (s.msFlags.gate = false ∨ s.rtFind broadcastaddr = none) ∧
    (hasFlag preq.preqFlags IEEE80211_MESHPREQ_FLAGS_AE = true → env.canAlloc preq.preqOrigExtAddr = true)

structure PreqSpares (env : Env) (s : MeshState) (ni addr2 : MacAddr) (preq : MeshpreqIe) (rt : MeshRoute) : Prop where
  /-- the path of a gate is replaced only where the PREQ marks it again -/
  replaced : Referred s rt.ptr →
    rt.rtDest = preq.preqOrigaddr ∧ MeshState.preqUpdates env preq rt = true ∨
      rt.rtDest = ni ∧ (rt.afterOriginator env addr2 preq).transmits env = true →
    rt.rtDest = preq.preqOrigaddr ∧ PreqMarks env s preq
  /-- a gate that is marked is no proxy, unless it gets a new path -/
  proxy : preq.marksGate → rt.rtDest = preq.preqOrigaddr → rt.rtFlags.valid = true → rt.rtFlags.proxy = true →
    MeshState.preqUpdates env preq rt = true ∨ rt.rtDest = ni ∧ rt.transmits env = true

structure PrepSpares (env : Env) (s : MeshState) (ni : MacAddr) (prep : MeshprepIe) (rt : MeshRoute) : Prop where
  /-- the path of a gate becomes valid only where the gate flag is still set -/
  target : Referred s rt.ptr → rt.rtDest = prep.prepTargetaddr → rt.rtFlags.valid = false →
    rt.rtFlags.gate = true ∧ rt.rtFlags.proxy = false
  /-- the path of a gate is not replaced by that of a transmitter -/
  transmitter : Referred s rt.ptr → rt.rtDest = ni →
    (if rt.rtDest = prep.prepTargetaddr then rt.targeted env ni prep else rt).transmits env = false
  /-- no gate is an external address -/
  ext : Referred s rt.ptr → hasFlag prep.prepFlags IEEE80211_MESHPREP_FLAGS_AE = true → rt.rtDest ≠ prep.prepTargetExtAddr

def PeerSpared (s : MeshState) (peer : MacAddr) : Prop := ∀ rt ∈ s.msRoutes, rt.rtNexthop = peer → ¬ Referred s rt.ptr

/-- A destination of a PERR flushes the routes through it. -/
def MeshState.perrFlushes (s : MeshState) (addr2 : MacAddr) (dest : MeshperrDest) : Prop :=
  ∃ p, s.rtFind dest.destAddr = some p ∧ (s.deref p).rtNexthop = addr2 ∧
    (dest.destFlags.toNat = IEEE80211_REASON_MESH_PERR_NO_FI ∨
      dest.destFlags.toNat = IEEE80211_REASON_MESH_PERR_DEST_UNREACH ∨
      dest.destFlags.toNat = IEEE80211_REASON_MESH_PERR_NO_PROXY)

/-- A PERR flushes no gate's path, whatever the destinations before left. -/
def PerrSpares (addr2 : MacAddr) : List MeshperrDest → MeshState → Prop
  | [], _ => True
  | dest :: dests, s =>
    (s.perrFlushes addr2 dest → PeerSpared s dest.destAddr) ∧ PerrSpares addr2 dests ((s.recvPerrDest addr2 dest).state s)

def NoProxy (s : MeshState) (addr : MacAddr) : Prop :=
  ∀ rt ∈ s.msRoutes, rt.rtDest = addr → rt.rtFlags.valid = true → rt.rtFlags.proxy = false

section Steps

variable {s s' : MeshState} {env : Env} {ni addr2 dest : MacAddr} {preq : MeshpreqIe} {prep : MeshprepIe} {rann : MeshrannIe}
  {gann : MeshgannIe} {rt : MeshRoute}

theorem GateOk.update (h : GateOk rt) (lifetime : BitVec 32) : GateOk (rt.update env lifetime) := by
  intro hv
  rw [MeshRoute.update_gate, MeshRoute.update_proxy]
  exact h (MeshRoute.valid_of_update env rt lifetime hv)

theorem gateTable_rtUpdate (h : GateTable s) (env : Env) (p : Nat) (lifetime : BitVec 32) :
    GateTable (s.rtUpdate env p lifetime) := by
  refine Routes.modify h (fun rt => ⟨by simp, by simp⟩) fun rt _ _ hrt href => ?_
  rw [MeshRoute.update_ptr] at href
  exact (hrt href).update lifetime

theorem gateTable_rtDelIf (h : GateTable s) {picked : MeshRoute → Bool}
    (hk : ∀ rt ∈ s.msRoutes, picked rt = true → ¬ Referred s rt.ptr) : GateTable (s.rtDelIf picked) :=
  Routes.rtDelIf h hk

theorem gateTable_rtFlushInvalid (h : GateTable s)
    (hk : ∀ rt ∈ s.msRoutes, Referred s rt.ptr →
      rt.rtFlags.discover = true ∨ rt.rtFlags.valid = true ∧ rt.expires env = false) : GateTable (s.rtFlushInvalid env) := by
  refine Routes.rtFlushInvalid h ?_ fun rt _ _ _ hrt href => ?_
  · intro rt hrt href
    refine (hk rt hrt href).imp_right fun hv => ?_
    rw [MeshRoute.update_rtFlags_zero, if_neg (by rw [hv.2]; simp)]
    exact hv.1
  · rw [MeshRoute.update_ptr] at href
    exact (hrt href).update 0

/-- **A gate is marked**: the table before, and the route after. -/
theorem Routes.withGate {n p : Nat} {K : Nat → Prop} (h : Routes n K (fun rt => K rt.ptr → GateOk rt) s)
    (hp : ∃ rt ∈ s.msRoutes, rt.ptr = p) (hproxy : ∀ rt ∈ s.msRoutes, rt.ptr = p → rt.rtFlags.valid = true → rt.rtFlags.proxy = false) :
    Routes n (fun q => K q ∨ q = p) (fun rt => K rt.ptr ∨ rt.ptr = p → GateOk rt)
      (s.modifyRt p fun rt => { rt with rtFlags := { rt.rtFlags with gate := true } }) := by
  refine (h.more hp).modifyRt (fun _ => ⟨rfl, rfl⟩) ?_ ?_
  · exact fun rt hrt hptr _ _ hv => ⟨rfl, hproxy rt hrt hptr hv⟩
  · exact fun rt _ hne hrt hk => hrt (hk.resolve_right hne)

theorem gateTable_noteSeq (h : GateTable s) (addr : MacAddr) (seq : BitVec 32) :
    GateTable (s.modifyGate addr fun gr => { gr with grLastseq := seq }) := by
  have hseq : ∀ q, Referred (s.modifyGate addr fun gr => { gr with grLastseq := seq }) q → Referred s q := fun q hq =>
    (referred_modifyGate (P := fun _ => False) hq fun _ hgr => .inl hgr).resolve_right id
  exact .intro (h.same rfl rfl) hseq fun rt _ hrt href => hrt (hseq _ href)

theorem gateTable_noteRoute {p : Nat} (h : GateTable s) (addr : MacAddr) (hfind : s.rtFind addr = some p) (hp : NoProxy s addr) :
    GateTable ((s.modifyGate addr fun gr => { gr with grRoute := some p }).modifyRt p fun rt =>
      { rt with rtFlags := { rt.rtFlags with gate := true } }) := by
  have hmem := h.of_rtFind hfind
  have hmark := h.withGate ⟨_, hmem.1, hmem.2.1⟩ fun rt hrt hptr => hp rt hrt (h.rtDest_of_rtFind hfind hrt hptr)
  have href : ∀ q, Referred (s.modifyGate addr fun gr => { gr with grRoute := some p }) q → Referred s q ∨ q = p :=
    fun q hq => referred_modifyGate (P := fun q => q = p) hq fun _ hgr => .inr (Option.some.inj hgr).symm
  exact .intro (hmark.same rfl rfl) href fun rt _ hrt hq => hrt (href _ hq)

/-- `mesh_recv_action_meshgate`, before it looks at the TTL. -/
theorem gateTable_afterGann (h : GateTable s) (hp : NoProxy s gann.gannAddr) : GateTable (afterGann s gann) := by
  have hseq := gateTable_noteSeq h gann.gannAddr gann.gannSeq
  unfold afterGann
  dsimp only
  split
  · rename_i p hfind
    split
    · exact gateTable_noteRoute hseq gann.gannAddr hfind hp
    · exact hseq
  · exact hseq

/-- **`mesh_recv_action_meshgate`** -/
theorem gateTable_recvActionMeshgate (h : GateTable s) (hp : s.acceptsGann gann = true → NoProxy s gann.gannAddr) :
    GateTable (s.recvActionMeshgate gann) := by
  have hafter : s.acceptsGann gann = true → GateTable (afterGann s gann) := fun hacc => gateTable_afterGann h (hp hacc)
  rcases recvActionMeshgate_cases s gann with ⟨-, heq⟩ | ⟨hacc, heq⟩
  · rw [heq]
    exact h
  · rw [heq]
    split
    · exact Routes.tx (hafter hacc) _
    · exact hafter hacc

theorem GateTable.of_same (h : Routes 0 (Referred s) (fun rt => Referred s rt.ptr → GateOk rt) s')
    (hg : s'.msKnownGates = s.msKnownGates) : GateTable s' :=
  .intro h (fun _ => referred_congr hg) fun _ _ hrt href => hrt (referred_congr hg href)

theorem gateOk_new (hf : rt.rtFlags = .none) : GateOk rt := by
  intro hv
  rw [hf] at hv
  cases hv

/-- **`hwmp_recv_rann`** -/
theorem gateTable_hwmpRecvRann (h : GateTable s) (hp : s.rannAccepts rann = true → rann.marksGate → NoProxy s rann.rannAddr) :
    GateTable (s.hwmpRecvRann env addr2 rann) := by
  unfold MeshState.hwmpRecvRann
  split
  · exact h
  · split
    · exact h
    · rename_i hacc
      rw [Bool.not_eq_false] at hacc
      split
      · exact h
      · rename_i s' p hadd
        have hkept := kept_rtFindOrAdd hadd
        have hI : Routes 0 (Referred s) (fun rt => (Referred s rt.ptr → GateOk rt) ∧
            (rt.rtDest = rann.rannAddr → rann.marksGate → rt.rtFlags.valid = true → rt.rtFlags.proxy = false)) s :=
          { h with all := fun rt hrt => ⟨h.all rt hrt, fun hd hm => hp hacc hm rt hrt hd⟩ }
        obtain ⟨hs', hfind, -⟩ := hI.rtFindOrAdd hadd fun _ rt _ _ hf _ => by
          refine ⟨fun _ => gateOk_new hf, fun _ _ => ?_⟩
          rw [hf]
          exact fun _ => rfl
        have hmem := hs'.of_rtFind hfind
        have hreq : Routes 0 (fun q => Referred s q ∨ q = p)
            (fun rt => Referred s rt.ptr ∨ rann.marksGate ∧ rt.ptr = p → GateOk rt) (s'.rannRequest env addr2 rann p) := by
          refine (hs'.more ⟨_, hmem.1, hmem.2.1⟩).rannRequest ?_ ?_
          · intro rt hrt hptr hi href
            refine GateOk.update ?_ _
            split
            · rename_i hg
              exact fun hv => ⟨rfl, hi.2 (hs'.rtDest_of_rtFind hfind hrt hptr) hg hv⟩
            · rename_i hg
              refine hi.1 ?_
              rw [if_neg hg, MeshRoute.update_ptr] at href
              exact href.resolve_right fun hm => hg hm.1
          · exact fun rt _ hne hi href => hi.1 (href.resolve_right fun hm => hne hm.2)
        have hmark := ((marked_rannRequest env s' addr2 rann p).after hkept).before (kept_rannPropagate env _ rann p)
        refine .intro (hreq.rannPropagate fun rt e _ hi => hi)
          (fun q hq => (referred_of_marked hmark hq).imp_right And.right) ?_
        exact fun rt _ hi hq => hi (referred_of_marked hmark hq)

/-! ### PREP and PERR -/

theorem kept_prepExt (env : Env) (s : MeshState) (addr2 : MacAddr) (prep : MeshprepIe) : Kept s (s.prepExt env addr2 prep) := by
  unfold MeshState.prepExt
  split
  · split
    · exact .refl s
    · rename_i hadd
      exact (kept_rtFindOrAdd hadd).trans (kept_modifyRt _ _ _)
  · exact .refl s

theorem kept_hwmpRecvPrep (env : Env) (s : MeshState) (ni addr2 : MacAddr) (prep : MeshprepIe) :
    Kept s (s.hwmpRecvPrep env ni addr2 prep) := by
  unfold MeshState.hwmpRecvPrep
  dsimp only
  split
  · exact .refl s
  · split
    · exact .refl s
    · rename_i s' p hadd
      have hkept := kept_rtFindOrAdd hadd
      split
      · exact hkept
      · have htrans : Kept s ((s'.prepUpdateTarg env ni prep p).hwmpUpdateTransmitter env ni) :=
          hkept.trans (((kept_modifyRt s' p _).trans (kept_modifyRt _ p _)).trans (kept_hwmpUpdateTransmitter env _ ni))
        split
        · exact htrans
        · rename_i s'' hprop
          refine (htrans.trans ?_).trans (kept_prepExt env s'' addr2 prep)
          unfold MeshState.prepPropagate at hprop
          split at hprop
          · split at hprop
            · cases hprop
            · cases hprop
              exact kept_prep _ _ _
          · cases hprop
            exact .refl _

/-- **`hwmp_recv_prep`** -/
theorem gateTable_hwmpRecvPrep (h : GateTable s)
    (hp : s.prepAccepts prep = true → ∀ rt ∈ s.msRoutes, PrepSpares env s ni prep rt) :
    GateTable (s.hwmpRecvPrep env ni addr2 prep) := by
  refine GateTable.of_same ?_ (kept_hwmpRecvPrep env s ni addr2 prep).gates
  unfold MeshState.hwmpRecvPrep
  dsimp only
  split
  · exact h
  · rename_i hacc
    rw [Bool.not_eq_false] at hacc
    split
    · exact h
    · rename_i s' p hadd
      have hI : Routes s.nextPtr (Referred s) (fun rt => Referred s rt.ptr → GateOk rt ∧ PrepSpares env s ni prep rt) s :=
        { h.rebase with all := fun rt hrt href => ⟨h.all rt hrt href, hp hacc rt hrt⟩ }
      -- a new route is not referred to
      have hnew : ∀ rt : MeshRoute, s.nextPtr ≤ rt.ptr → ¬ Referred s rt.ptr := by
        intro rt hn href
        obtain ⟨rt', hrt', hptr⟩ := h.kept _ href
        have := h.fresh rt' hrt'
        omega
      obtain ⟨hs', hfind, -⟩ := hI.rtFindOrAdd hadd fun _ rt hn _ _ _ href => absurd href (hnew rt hn)
      split
      · exact (hs'.mono fun rt _ hi href => (hi href).1).unbased
      · have htarg : Routes s.nextPtr (Referred s) (fun rt => Referred s rt.ptr → GateOk rt ∧
            (rt.rtDest = ni → rt.transmits env = false) ∧
            (hasFlag prep.prepFlags IEEE80211_MESHPREP_FLAGS_AE = true → rt.rtDest ≠ prep.prepTargetExtAddr))
            (s'.prepUpdateTarg env ni prep p) := by
          refine hs'.prepUpdateTarg ?_ ?_
          · intro rt hrt hptr hi href
            have hdest := hs'.rtDest_of_rtFind hfind hrt hptr
            have href' : Referred s rt.ptr := by simpa [MeshRoute.targeted] using href
            obtain ⟨hok, hspare⟩ := hi href'
            refine ⟨fun _ => ?_, fun hni => ?_, fun hae => ?_⟩
            · have hflags : rt.rtFlags.gate = true ∧ rt.rtFlags.proxy = false := by
                cases hv : rt.rtFlags.valid with
                | false => exact hspare.target href' hdest hv
                | true => exact hok hv
              simpa [MeshRoute.targeted] using hflags
            · have hni' : rt.rtDest = ni := by simpa [MeshRoute.targeted] using hni
              have := hspare.transmitter href' hni'
              rwa [if_pos hdest] at this
            · have := hspare.ext href' hae
              simpa [MeshRoute.targeted] using this
          · intro rt hrt hne hi href
            obtain ⟨hok, hspare⟩ := hi href
            refine ⟨hok, fun hni => ?_, hspare.ext href⟩
            have := hspare.transmitter href hni
            rwa [if_neg fun hd => hne (hs'.ptr_of_rtFind hfind hrt hd)] at this
        have htrans : Routes s.nextPtr (Referred s) (fun rt => Referred s rt.ptr → GateOk rt ∧
            (hasFlag prep.prepFlags IEEE80211_MESHPREP_FLAGS_AE = true → rt.rtDest ≠ prep.prepTargetExtAddr))
            ((s'.prepUpdateTarg env ni prep p).hwmpUpdateTransmitter env ni) := by
          refine htarg.hwmpUpdateTransmitter (fun _ rt hn _ _ _ href => absurd href (hnew rt hn)) ?_ ?_
          · intro rt hni hi href
            have href' : Referred s rt.ptr := by
              split at href
              · simpa [MeshRoute.transmitted] using href
              · exact href
            have hkeep := (hi href').2.1 hni
            rw [if_neg (by rw [hkeep]; simp)]
            exact ⟨(hi href').1, (hi href').2.2⟩
          · exact fun rt _ hi href => ⟨(hi href).1, (hi href).2.2⟩
        split
        · exact (htrans.mono fun rt _ hi href => (hi href).1).unbased
        · rename_i s'' hprop
          have hext : Routes s.nextPtr (Referred s) (fun rt => Referred s rt.ptr → GateOk rt ∧
              (hasFlag prep.prepFlags IEEE80211_MESHPREP_FLAGS_AE = true → rt.rtDest ≠ prep.prepTargetExtAddr))
              (s''.prepExt env addr2 prep) := by
            refine (htrans.prepPropagate hprop).prepExt (fun rt hn _ _ href => absurd href (hnew rt hn)) ?_
            exact fun hae rt hext hi href => absurd hext ((hi href).2 hae)
          exact (hext.mono fun rt _ hi href => (hi href).1).unbased

theorem gateTable_recvPerrDest {dest : MeshperrDest} (h : GateTable s) (hp : s.perrFlushes addr2 dest → PeerSpared s dest.destAddr) :
    GateTable ((s.recvPerrDest addr2 dest).state s) := by
  have hgates : ((s.recvPerrDest addr2 dest).state s).msKnownGates = s.msKnownGates := by
    rcases recvPerrDest_routes s addr2 dest with hr | ⟨routes, hr | ⟨dest', hr⟩⟩ <;> rw [hr] <;> rfl
  by_cases hf : s.perrFlushes addr2 dest
  · refine .of_same (Routes.recvPerrDest h ?_ (hp hf)) hgates
    exact fun rt e _ _ hv => nomatch hv
  · -- it is not looked at
    have hsame : s.recvPerrDest addr2 dest = .ignored s ∨ s.recvPerrDest addr2 dest = .unknown := by
      unfold MeshState.recvPerrDest
      cases hfind : s.rtFind dest.destAddr with
      | none => exact .inl rfl
      | some p =>
        dsimp only
        split
        · exact .inl rfl
        · rename_i hnext
          rw [not_not] at hnext
          rw [if_neg fun hr => hf ⟨p, hfind, hnext, .inl hr⟩, if_neg fun hr => hf ⟨p, hfind, hnext, .inr (.inl hr)⟩,
            if_neg fun hr => hf ⟨p, hfind, hnext, .inr (.inr hr)⟩]
          exact .inr rfl
    rcases hsame with hr | hr
    · rw [hr]
      exact h
    · rw [hr]
      exact h

theorem gateTable_recvPerrLoop {dests : List MeshperrDest} (h : GateTable s) (hp : PerrSpares addr2 dests s) :
    GateTable (MeshState.recvPerrLoop addr2 dests s).1 := by
  induction dests generalizing s with
  | nil => exact h
  | cons dest dests ih =>
    have hdest := gateTable_recvPerrDest h hp.1
    have hrest := hp.2
    unfold MeshState.recvPerrLoop
    split
    · exact h
    · rename_i hr
      rw [hr] at hdest hrest
      exact ih hdest hrest
    · rename_i hr
      rw [hr] at hdest hrest
      exact ih hdest hrest

/-- **`hwmp_recv_perr`** -/
theorem gateTable_hwmpRecvPerr {perr : MeshperrIe} (h : GateTable s) (hp : PerrSpares addr2 perr.perrDests s) (env : Env)
    (mem : BitVec 8) : GateTable (s.hwmpRecvPerr env mem addr2 perr) := by
  have hloop := gateTable_recvPerrLoop h hp
  unfold MeshState.hwmpRecvPerr MeshState.hwmpSendPerr
  split
  · rename_i heq
    rw [heq] at hloop
    exact hloop
  · rename_i heq
    rw [heq] at hloop
    exact hloop
  · rename_i heq
    rw [heq] at hloop
    repeat' split
    all_goals
      first
      | exact hloop
      | exact Routes.tx hloop _

/-! ### Discoveries -/

theorem gates_hwmpDiscover (env : Env) (s : MeshState) (dest : MacAddr) :
    (s.hwmpDiscover env dest).msKnownGates = s.msKnownGates := by
  unfold MeshState.hwmpDiscover
  dsimp only
  split
  · rfl
  · split
    · rfl
    · rename_i s' p hadd
      have hkept := (kept_rtFindOrAdd hadd).gates
      split
      · exact hkept
      · split
        · exact hkept
        · unfold MeshState.startDiscovery MeshState.hwmpSendPreq
          dsimp only
          repeat' split
          all_goals exact hkept

/-- **`hwmp_discover`** -/
theorem gateTable_hwmpDiscover (h : GateTable s) (env : Env) (dest : MacAddr) : GateTable (s.hwmpDiscover env dest) := by
  refine .of_same (Routes.hwmpDiscover h (fun rt _ hf _ _ => gateOk_new hf) (fun rt e hi => hi) ?_) (gates_hwmpDiscover env s dest)
  rintro rt rt' - - ⟨-, -, hf, -⟩ - - hv
  rw [hf] at hv
  cases hv

theorem gates_forwardToGatesLoop {p : Nat} {grs : List GateRoute} (hs : MeshState.forwardToGatesLoop env p grs s = some s') :
    s'.msKnownGates = s.msKnownGates := by
  induction grs generalizing s with
  | nil =>
    cases hs
    rfl
  | cons gr grs ih =>
    unfold MeshState.forwardToGatesLoop at hs
    split at hs
    · exact ih hs
    · split at hs
      · cases hs
      · split at hs
        · exact ih hs
        · split at hs
          · cases hs
          · split at hs
            · cases hs
            · exact (ih hs).trans rfl

/-- **`hwmp_rediscover_cb`** -/
theorem gateTable_hwmpRediscoverCb {p : Nat} (h : GateTable s) (hs : s.hwmpRediscoverCb env p = some s') : GateTable s' := by
  have hgates : s'.msKnownGates = s.msKnownGates := by
    unfold MeshState.hwmpRediscoverCb MeshState.forwardToGates at hs
    dsimp only at hs
    split at hs
    · cases hs
      rfl
    · split at hs
      · split at hs
        · cases hs
        · obtain ⟨s'', hloop, rfl⟩ := Option.map_eq_some_iff.1 hs
          exact (gates_forwardToGatesLoop hloop).trans rfl
      · cases hs
        exact (kept_hwmpSendPreq _ _ _ _ _).gates
  refine .of_same (Routes.hwmpRediscoverCb h hs (fun rt _ _ hi => hi) (fun rt e _ _ _ hi => hi) ?_ fun rt _ hi => hi) hgates
  rintro rt rt' - - ⟨-, -, hf, -⟩ - -
  exact gateOk_new hf

/-! ### PREQ -/

/-- What is known of a route before the transmitter's path is replaced; `p` is the originator's, and `s` the state in
    which the PREQ was received. -/
structure PreqOriginated (env : Env) (s : MeshState) (ni : MacAddr) (preq : MeshpreqIe) (p : Nat) (rt : MeshRoute) : Prop where
  ok : ¬ (PreqMarks env s preq ∧ rt.ptr = p) → Referred s rt.ptr → GateOk rt
  transmitter : Referred s rt.ptr → rt.rtDest = ni → rt.transmits env = true → rt.ptr = p ∧ PreqMarks env s preq
  proxy : preq.marksGate → rt.ptr = p → rt.rtFlags.valid = true → rt.rtFlags.proxy = true →
    rt.rtDest = ni ∧ rt.transmits env = true

structure PreqTransmitted (env : Env) (s : MeshState) (preq : MeshpreqIe) (p : Nat) (rt : MeshRoute) : Prop where
  ok : ¬ (PreqMarks env s preq ∧ rt.ptr = p) → Referred s rt.ptr → GateOk rt
  proxy : preq.marksGate → rt.ptr = p → rt.rtFlags.valid = true → rt.rtFlags.proxy = false

theorem not_preqForUs {s₀ : MeshState} (hm : PreqMarks env s₀ preq) (hquiet : Quiet s₀ s) :
    s.preqForUs preq (s₀.rtFind preq.target0.targetAddr) = false := by
  obtain ⟨hmarks, haddr, hgate, -⟩ := hm
  unfold MeshState.preqForUs
  rw [hquiet.myaddr, hquiet.flags, hmarks.1, decide_eq_false haddr, Bool.false_or]
  rcases hgate with hg | hnone
  · rw [hg, Bool.false_and]
  · rw [hnone, Bool.and_false]

theorem preqExt_isSome {s₀ : MeshState} (hm : PreqMarks env s₀ preq) : s.preqExt env preq ≠ none := by
  unfold MeshState.preqExt
  split
  · rename_i hae
    split
    · exact nofun
    · rw [if_pos (hm.2.2.2 hae)]
      exact nofun
  · exact nofun

/-- `hwmp_recv_preq`, from the update of the transmitter on. -/
theorem gateTable_preqAccepted {n p : Nat} {s₀ : MeshState} (hkept : Kept s₀ s)
    (h : Routes n (fun q => Referred s₀ q ∨ q = p) (PreqOriginated env s₀ ni preq p) s)
    (hnew : ∀ rt : MeshRoute, n ≤ rt.ptr → ¬ Referred s₀ rt.ptr ∧ rt.ptr ≠ p) :
    GateTable (s.preqAccepted env ni addr2 preq p (s₀.rtFind preq.target0.targetAddr)) := by
  have htrans : Routes n (fun q => Referred s₀ q ∨ q = p) (PreqTransmitted env s₀ preq p) (s.hwmpUpdateTransmitter env ni) := by
    refine h.hwmpUpdateTransmitter (fun _ rt hn _ _ _ => ?_) ?_ ?_
    · obtain ⟨href, hp⟩ := hnew rt hn
      exact { ok := fun _ hr => absurd hr href, transmitter := fun hr => absurd hr href, proxy := fun _ hptr => absurd hptr hp }
    · intro rt hni hi
      split
      · rename_i htr
        refine { ok := fun hno href => ?_, proxy := fun _ _ _ => rfl }
        have hptr : (rt.transmitted env ni).ptr = rt.ptr := by simp [MeshRoute.transmitted]
        rw [hptr] at hno href
        obtain ⟨hp, hm⟩ := hi.transmitter href hni htr
        exact absurd ⟨hm, hp⟩ hno
      · rename_i htr
        refine { ok := hi.ok, proxy := fun hm hptr hv => ?_ }
        cases hproxy : rt.rtFlags.proxy with
        | false => rfl
        | true => exact absurd (hi.proxy hm hptr hv hproxy).2 htr
    · intro rt hne hi
      refine { ok := hi.ok, proxy := fun hm hptr hv => ?_ }
      cases hproxy : rt.rtFlags.proxy with
      | false => rfl
      | true => exact absurd (hi.proxy hm hptr hv hproxy).1 hne
  have hkept' : Kept s₀ (s.hwmpUpdateTransmitter env ni) := hkept.trans (kept_hwmpUpdateTransmitter env s ni)
  -- where the PREQ does not mark, every route that was referred to is a gate's
  have hunmarked : ∀ t : MeshState, ¬ PreqMarks env s₀ preq → Kept s₀ t →
      Routes n (fun q => Referred s₀ q ∨ q = p) (PreqTransmitted env s₀ preq p) t → GateTable t := fun t hno hk ht =>
    .intro ht (fun q hq => .inl (referred_congr hk.gates hq)) fun rt _ hi hq =>
      hi.ok (fun hm => hno hm.1) (referred_congr hk.gates hq)
  unfold MeshState.preqAccepted
  dsimp only
  split
  · rename_i hus
    refine hunmarked _ ?_ (hkept'.trans (kept_preqReply _ _ _ _)) (htrans.preqReply fun rt e hi => ⟨hi.ok, hi.proxy⟩)
    intro hm
    rw [not_preqForUs hm hkept'.toQuiet] at hus
    cases hus
  · split
    · rename_i hext
      exact hunmarked _ (fun hm => preqExt_isSome hm hext) hkept' htrans
    · rename_i s' hext
      have hs' : Routes n (fun q => Referred s₀ q ∨ q = p) (PreqTransmitted env s₀ preq p) s' := by
        refine htrans.preqExt hext (fun rt hn _ _ => ?_) ?_ fun _ hi => hi
        · obtain ⟨href, hp⟩ := hnew rt hn
          exact { ok := fun _ hr => absurd hr href, proxy := fun _ hptr => absurd hptr hp }
        · intro _ rt g e _ hi
          refine { ok := fun hno href => GateOk.update ?_ _, proxy := fun hm hptr hv => ?_ }
          · rw [MeshRoute.update_ptr] at hno href
            exact hi.ok hno href
          · rw [MeshRoute.update_ptr] at hptr
            rw [MeshRoute.update_proxy]
            exact hi.proxy hm hptr (MeshRoute.valid_of_update env { rt with rtMeshGate := g, rtExtSeq := e } _ hv)
      have hkept'' : Kept s₀ s' := hkept'.trans (kept_preqExt hext)
      have hroot : Routes n (fun q => Referred s₀ q ∨ q = p)
          (fun rt => Referred s₀ rt.ptr ∨ preq.marksGate ∧ rt.ptr = p → GateOk rt) (s'.preqRoot preq p) := by
        unfold MeshState.preqRoot
        split
        · rename_i hroot
          refine Routes.preqRootReply (hs'.markRoot ?_ ?_)
          · intro rt _ hptr hi href
            split
            · rename_i hg
              exact fun hv => ⟨rfl, hi.proxy ⟨hroot.1, hroot.2, hg⟩ hptr hv⟩
            · rename_i hg
              have hno : ¬ preq.marksGate := fun hm => hg hm.2.2
              rw [if_neg hg] at href
              exact hi.ok (fun hm => hno hm.1.1) (href.resolve_right fun hm => hno hm.1)
          · exact fun rt _ hne hi href => hi.ok (fun hm => hne hm.2) (href.resolve_right fun hm => hne hm.2)
        · rename_i hroot
          have hno : ¬ preq.marksGate := fun hm => hroot ⟨hm.1, hm.2.1⟩
          exact hs'.mono fun rt _ hi href => hi.ok (fun hm => hno hm.1.1) (href.resolve_right fun hm => hno hm.1)
      have hmarked := ((marked_preqRoot s' preq p).before
        (kept_preqForward env _ preq p (s₀.rtFind preq.target0.targetAddr))).after hkept''
      exact .intro hroot.preqForward (fun q hq => (referred_of_marked hmarked hq).imp_right And.right)
        fun rt _ hi hq => hi (referred_of_marked hmarked hq)

theorem transmits_originated (rt : MeshRoute) :
    (rt.originated env addr2 preq).transmits env = decide (preq.preqMetric + env.mpmMetric > env.mpmMetric) := by
  have hpath := MeshRoute.update_path env { rt with
    hrSeq := preq.preqOrigseq
    rtNexthop := addr2
    rtMetric := preq.preqMetric + env.mpmMetric
    rtNhops := preq.preqHopcount.setWidth 16 + 1 } preq.preqLifetime
  unfold MeshRoute.transmits MeshRoute.originated
  dsimp only
  rw [hpath.2.2]
  rfl

theorem transmits_afterOriginator (rt : MeshRoute) : (rt.afterOriginator env addr2 preq).transmits env =
    if rt.rtDest = preq.preqOrigaddr ∧ MeshState.preqUpdates env preq rt = true then
      decide (preq.preqMetric + env.mpmMetric > env.mpmMetric)
    else rt.transmits env := by
  unfold MeshRoute.afterOriginator
  split
  · exact transmits_originated rt
  · rfl

theorem PreqSpares.seen (h : PreqSpares env s ni addr2 preq rt) (e : BitVec 32) :
    PreqSpares env s ni addr2 preq { rt with hrPreqid := e } where
  replaced := by
    have hr := h.replaced
    rw [transmits_afterOriginator] at hr ⊢
    exact hr
  proxy := h.proxy

/-- **`hwmp_recv_preq`** -/
theorem gateTable_hwmpRecvPreq (h : GateTable s)
    (hp : s.preqAccepts preq (s.rtFind preq.target0.targetAddr) = true → ∀ rt ∈ s.msRoutes, PreqSpares env s ni addr2 preq rt) :
    GateTable (s.hwmpRecvPreq env ni addr2 preq) := by
  unfold MeshState.hwmpRecvPreq
  dsimp only
  split
  · exact h
  · split
    · exact h
    · rename_i hacc
      rw [Bool.not_eq_false] at hacc
      split
      · exact h
      · rename_i s' p hadd
        have hnone : ∀ q, s.nextPtr ≤ q → ¬ Referred s q := by
          intro q hn href
          obtain ⟨rt', hrt', hptr⟩ := h.kept q href
          have := h.fresh rt' hrt'
          omega
        have hI : Routes s.nextPtr (Referred s) (fun rt => (Referred s rt.ptr → GateOk rt) ∧ PreqSpares env s ni addr2 preq rt) s :=
          { h.rebase with all := fun rt hrt => ⟨h.all rt hrt, hp hacc rt hrt⟩ }
        obtain ⟨hs', hfind, -⟩ := hI.rtFindOrAdd hadd fun _ rt hn _ hf _ => by
          refine ⟨fun _ => gateOk_new hf, { replaced := fun href => absurd href (hnone _ hn), proxy := fun _ _ hv => ?_ }⟩
          rw [hf] at hv
          cases hv
        have hmem := hs'.of_rtFind hfind
        have hlt : p < s'.nextPtr := hmem.2.1 ▸ hs'.fresh _ hmem.1
        have hnew : ∀ rt : MeshRoute, s'.nextPtr ≤ rt.ptr → ¬ Referred s rt.ptr ∧ rt.ptr ≠ p := fun rt hn =>
          ⟨hnone _ (Nat.le_trans hs'.base hn), by omega⟩
        have hiff : ∀ rt ∈ s'.msRoutes, rt.ptr = p ↔ rt.rtDest = preq.preqOrigaddr := fun rt hrt =>
          ⟨hs'.rtDest_of_rtFind hfind hrt, hs'.ptr_of_rtFind hfind hrt⟩
        -- the number of the PREQ is noted
        have hseen : Routes s'.nextPtr (fun q => Referred s q ∨ q = p) (fun rt => (Referred s rt.ptr → GateOk rt) ∧
            PreqSpares env s ni addr2 preq rt ∧ (rt.ptr = p ↔ rt.rtDest = preq.preqOrigaddr))
            (s'.modifyRt p fun rt => { rt with hrPreqid := seqMax rt.hrPreqid preq.preqId }) := by
          refine (hs'.more ⟨_, hmem.1, hmem.2.1⟩).rebase.modifyRt (fun _ => ⟨rfl, rfl⟩) ?_ ?_
          · exact fun rt hrt _ hi => ⟨hi.1, hi.2.seen _, hiff rt hrt⟩
          · exact fun rt hrt _ hi => ⟨hi.1, hi.2, hiff rt hrt⟩
        have hkept : Kept s (s'.modifyRt p fun rt => { rt with hrPreqid := seqMax rt.hrPreqid preq.preqId }) :=
          (kept_rtFindOrAdd hadd).trans (kept_modifyRt _ _ _)
        split
        · refine gateTable_preqAccepted (hkept.trans (kept_preqUpdateOrig _ _ _ _ _)) (hseen.preqUpdateOrig ?_ ?_) hnew
          · rename_i hupd
            rintro rt hrt hptr ⟨-, hspare, hdest⟩
            have hd := hseen.deref hrt
            rw [hptr] at hd
            rw [hd] at hupd
            have horig := hdest.1 hptr
            have hptr' : (rt.originated env addr2 preq).ptr = rt.ptr := by simp [MeshRoute.originated]
            refine { ok := fun hno href => ?_, transmitter := fun href _ _ => ?_, proxy := fun _ _ _ h => absurd h Bool.false_ne_true }
            · rw [hptr'] at hno href
              exact absurd ⟨(hspare.replaced href (.inl ⟨horig, hupd⟩)).2, hptr⟩ hno
            · rw [hptr'] at href ⊢
              exact ⟨hptr, (hspare.replaced href (.inl ⟨horig, hupd⟩)).2⟩
          · rintro rt _ hne ⟨hok, hspare, hdest⟩
            have hother : ¬ (rt.rtDest = preq.preqOrigaddr ∧ MeshState.preqUpdates env preq rt = true) :=
              fun hd => hne (hdest.2 hd.1)
            refine { ok := fun _ => hok, transmitter := fun href hni htr => ?_, proxy := fun _ hptr => absurd hptr hne }
            have := hspare.replaced href (.inr ⟨hni, by rwa [transmits_afterOriginator, if_neg hother]⟩)
            exact absurd (hdest.2 this.1) hne
        · rename_i hupd
          split
          · refine .intro hseen (fun q hq => .inl (referred_congr hkept.gates hq)) ?_
            exact fun rt _ hi hq => hi.1 (referred_congr hkept.gates hq)
          · refine gateTable_preqAccepted hkept (hseen.mono ?_) hnew
            rintro rt hrt ⟨hok, hspare, hdest⟩
            have hd := hseen.deref hrt
            have hother : ¬ (rt.rtDest = preq.preqOrigaddr ∧ MeshState.preqUpdates env preq rt = true) := by
              intro hc
              rw [hdest.2 hc.1] at hd
              rw [hd] at hupd
              exact hupd hc.2
            refine { ok := fun _ => hok, transmitter := fun href hni htr => ?_, proxy := fun hm hptr hv hproxy => ?_ }
            · have := hspare.replaced href (.inr ⟨hni, by rwa [transmits_afterOriginator, if_neg hother]⟩)
              exact ⟨hdest.2 this.1, this.2⟩
            · have horig := hdest.1 hptr
              exact (hspare.proxy hm horig hv hproxy).resolve_left fun hu => hother ⟨horig, hu⟩

end Steps

/-! ## Runs -/

inductive GateOp where
  | recvGann (gann : MeshgannIe)
  | recvPreq (env : Env) (ni addr2 : MacAddr) (preq : MeshpreqIe)
  | recvPrep (env : Env) (ni addr2 : MacAddr) (prep : MeshprepIe)
  | recvRann (env : Env) (addr2 : MacAddr) (rann : MeshrannIe)
  | recvPerr (env : Env) (mem : BitVec 8) (addr2 : MacAddr) (perr : MeshperrIe)
  | discover (env : Env) (dest : MacAddr)
  | rediscover (env : Env) (p : Nat)
  | rtUpdate (env : Env) (p : Nat) (lifetime : BitVec 32)
  | flush
  | flushPeer (peer : MacAddr)
  | flushInvalid (env : Env)
  | rtDel (env : Env) (dest : MacAddr)

inductive GateStep : MeshState → GateOp → MeshState → Prop where
  | recvGann {s : MeshState} (gann : MeshgannIe) : GateStep s (.recvGann gann) (s.recvActionMeshgate gann)
  | recvPreq {s : MeshState} (env : Env) (ni addr2 : MacAddr) (preq : MeshpreqIe) :
    GateStep s (.recvPreq env ni addr2 preq) (s.hwmpRecvPreq env ni addr2 preq)
  | recvPrep {s : MeshState} (env : Env) (ni addr2 : MacAddr) (prep : MeshprepIe) :
    GateStep s (.recvPrep env ni addr2 prep) (s.hwmpRecvPrep env ni addr2 prep)
  | recvRann {s : MeshState} (env : Env) (addr2 : MacAddr) (rann : MeshrannIe) :
    GateStep s (.recvRann env addr2 rann) (s.hwmpRecvRann env addr2 rann)
  | recvPerr {s : MeshState} (env : Env) (mem : BitVec 8) (addr2 : MacAddr) (perr : MeshperrIe) :
    GateStep s (.recvPerr env mem addr2 perr) (s.hwmpRecvPerr env mem addr2 perr)
  | discover {s : MeshState} (env : Env) (dest : MacAddr) : GateStep s (.discover env dest) (s.hwmpDiscover env dest)
  | rediscover {s s' : MeshState} (env : Env) (p : Nat) (hs : s.hwmpRediscoverCb env p = some s') :
    GateStep s (.rediscover env p) s'
  | rtUpdate {s : MeshState} (env : Env) (p : Nat) (lifetime : BitVec 32) :
    GateStep s (.rtUpdate env p lifetime) (s.rtUpdate env p lifetime)
  | flush {s : MeshState} : GateStep s .flush s.rtFlush
  | flushPeer {s : MeshState} (peer : MacAddr) : GateStep s (.flushPeer peer) (s.rtFlushPeer peer)
  | flushInvalid {s : MeshState} (env : Env) : GateStep s (.flushInvalid env) (s.rtFlushInvalid env)
  | rtDel {s : MeshState} (env : Env) (dest : MacAddr) : GateStep s (.rtDel env dest) (s.meshRtDel env dest)

def NoGates (s : MeshState) : Prop := s.msRoutes = [] ∧ s.msKnownGates = []

/-- **The steps that spare gates**: none deletes a route that a known gate refers to, makes it valid without the gate
    flag or a proxy, or marks a proxy. -/
def Spares (s : MeshState) : GateOp → Prop
  | .recvGann gann => s.acceptsGann gann = true → NoProxy s gann.gannAddr
  | .recvPreq env ni addr2 preq => s.preqAccepts preq (s.rtFind preq.target0.targetAddr) = true →
    ∀ rt ∈ s.msRoutes, PreqSpares env s ni addr2 preq rt
  | .recvPrep env ni _ prep => s.prepAccepts prep = true → ∀ rt ∈ s.msRoutes, PrepSpares env s ni prep rt
  | .recvRann _ _ rann => s.rannAccepts rann = true → rann.marksGate → NoProxy s rann.rannAddr
  | .recvPerr _ _ addr2 perr => PerrSpares addr2 perr.perrDests s
  | .flush => ∀ p, ¬ Referred s p
  | .flushPeer peer => PeerSpared s peer
  | .flushInvalid env => ∀ rt ∈ s.msRoutes, Referred s rt.ptr →
    rt.rtFlags.discover = true ∨ rt.rtFlags.valid = true ∧ rt.expires env = false
  | .rtDel _ dest => ∀ rt ∈ s.msRoutes, rt.rtDest = dest → ¬ Referred s rt.ptr
  | .discover _ _ | .rediscover _ _ | .rtUpdate _ _ _ => True

/-- **A step that spares gates** keeps what has to hold of their routes. -/
theorem gateTable_step {s s' : MeshState} {op : GateOp} (h : GateTable s) (hstep : GateStep s op s') (hp : Spares s op) :
    GateTable s' := by
  cases hstep with
  | recvGann gann => exact gateTable_recvActionMeshgate h hp
  | recvPreq env ni addr2 preq => exact gateTable_hwmpRecvPreq h hp
  | recvPrep env ni addr2 prep => exact gateTable_hwmpRecvPrep h hp
  | recvRann env addr2 rann => exact gateTable_hwmpRecvRann h hp
  | recvPerr env mem addr2 perr => exact gateTable_hwmpRecvPerr h hp env mem
  | discover env dest => exact gateTable_hwmpDiscover h env dest
  | rediscover env p hs => exact gateTable_hwmpRediscoverCb h hs
  | rtUpdate env p lifetime => exact gateTable_rtUpdate h env p lifetime
  | flush => exact gateTable_rtDelIf h fun rt _ _ => hp rt.ptr
  | flushPeer peer => exact gateTable_rtDelIf h fun rt hrt hpick => hp rt hrt (of_decide_eq_true hpick)
  | flushInvalid env => exact gateTable_rtFlushInvalid h hp
  | rtDel env dest =>
    unfold MeshState.meshRtDel
    split
    · exact h
    · rename_i p hfind
      dsimp only
      have hdel : GateTable (s.rtDelIf fun rt => decide (rt.ptr = p)) := by
        refine gateTable_rtDelIf h fun rt hrt hpick => ?_
        exact hp rt hrt (h.rtDest_of_rtFind hfind hrt (of_decide_eq_true hpick))
      unfold MeshState.hwmpSenderror MeshState.hwmpSendPerr
      split
      · split
        · exact Routes.tx hdel _
        · exact hdel
      · exact hdel

end Net80211.Mesh
