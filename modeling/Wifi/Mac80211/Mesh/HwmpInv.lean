import Wifi.Mac80211.Mesh.Hwmp
import Wifi.Mac80211.Mesh.PathTblOps

/-!
# Every step keeps the invariant of the path tables

* `hwmpRouteInfoGet_inv`, `hwmpPerrFrameProcess_inv`, … — the handlers of `mesh_hwmp.c`.
* `meshStep_inv`, `reachable_inv` — every step, and every run.
-/

namespace Mac80211.Mesh

open KeyedTable

variable {k : KernelApi} {h : MultFrac} {s s' : MeshState}

/-! ## Routing information -/

theorem countChange_fields (path : MeshPath) (sta : Nat) :
    (path.countChange sta).dst = path.dst ∧ (path.countChange sta).isGate = path.isGate := by
  unfold MeshPath.countChange
  split <;> exact ⟨rfl, rfl⟩

theorem updateOrig_fields (path : MeshPath) (sta : Nat) (origSn metric : BitVec 32)
    (expTime : BitVec 64) (hopcount : BitVec 8) :
    (path.updateOrig k sta origSn metric expTime hopcount).dst = path.dst ∧
      (path.updateOrig k sta origSn metric expTime hopcount).isGate = path.isGate :=
  countChange_fields path sta

theorem updateTa_fields (path : MeshPath) (sta : Nat) (metric : BitVec 32) (expTime : BitVec 64) :
    (path.updateTa k sta metric expTime).dst = path.dst ∧
      (path.updateTa k sta metric expTime).isGate = path.isGate :=
  countChange_fields path sta

theorem updatePath_inv (hi : MeshInv s) {a sta : Nat} {path : MeshPath} {addr : EthAddr}
    {f : MeshPath → MeshPath} (hp : s.meshPaths.mem a = some path) (hsta : s.stas sta = some addr)
    (hdst : ∀ path, (f path).dst = path.dst) (hgate : ∀ path, (f path).isGate = path.isGate)
    (hnext : ∀ path, (f path).nextHop = some sta) (flushMpath : Bool) :
    MeshInv (s.updatePath a sta flushMpath f).1 ∧
      (s.updatePath a sta flushMpath f).1.stas = s.stas := by
  have hch : s.nextHopChanges a sta = decide (path.nextHop ≠ some sta) := by
    unfold MeshState.nextHopChanges
    rw [hp]
  unfold MeshState.updatePath
  dsimp only
  rw [hch]
  split
  · exact ⟨hi.assignFlush hp hsta hdst hgate hnext, rfl⟩
  · rename_i hno
    rw [Bool.or_eq_true, not_or, decide_eq_true_eq, not_not] at hno
    exact ⟨hi.assign (c := s.txCache) hp hsta hdst hgate hnext hi.cache fun he => ⟨he, fun _ => hno.2⟩,
      rfl⟩

theorem meshPathLookup_live (hi : MeshInv s) {now : BitVec 64} {dst : EthAddr} {a : Nat}
    (hl : s.meshPaths.lookup MeshPath.dst dst = some a) :
    ∃ path, (s.meshPathLookup k now dst).1.meshPaths.mem a = some path := by
  obtain ⟨path, hp, _⟩ := hi.paths.lookup_eq_some.1 hl
  rw [meshPathLookup_some hl]
  exact ⟨_, Table.modify_self _ hp⟩

theorem routeOrig_inv (hi : MeshInv s) {f : HwmpFrame} {env : RouteEnv} {sta : Nat}
    (hsta : s.stas sta = some f.sa) :
    MeshInv (s.routeOrig k h f env sta).1 ∧ (s.routeOrig k h f env sta).1.stas = s.stas := by
  obtain ⟨hfs, _⟩ := meshPathLookup_frame (k := k) s env.now f.origAddr
  have hil := meshPathLookup_inv (k := k) hi env.now f.origAddr
  obtain ⟨has, _⟩ := meshPathAdd_frame s env.now f.origAddr env.origAlloc
  have hia := meshPathAdd_inv hi env.now f.origAddr env.origAlloc
  unfold MeshState.routeOrig
  dsimp only
  split
  · exact ⟨hi, rfl⟩
  · cases hl : s.meshPaths.lookup MeshPath.dst f.origAddr with
    | some a =>
      obtain ⟨path, hp⟩ := meshPathLookup_live (k := k) hi hl
      rw [meshPathLookup_some hl] at hfs hil hp ⊢
      dsimp only at hfs hil hp ⊢
      rw [hp]
      dsimp only
      split
      · exact updatePath_inv hil hp hsta (fun p => (updateOrig_fields p ..).1)
          (fun p => (updateOrig_fields p ..).2) (fun _ => rfl) false
      · exact ⟨hil, rfl⟩
    | none =>
      have hlive := @meshPathAdd_live s hi env.now f.origAddr env.origAlloc
      rw [meshPathLookup_none hl]
      dsimp only
      cases hadd : s.meshPathAdd env.now f.origAddr env.origAlloc with
      | mk s1 r =>
        rw [hadd] at has hia hlive
        dsimp only at has hia hlive
        cases r with
        | error err => exact ⟨hia, has⟩
        | ok a =>
          obtain ⟨path, hp, _⟩ := hlive rfl
          rw [← has]
          exact updatePath_inv hia hp (has ▸ hsta) (fun p => (updateOrig_fields p ..).1)
            (fun p => (updateOrig_fields p ..).2) (fun _ => rfl) false

theorem routeTa_inv (hi : MeshInv s) {f : HwmpFrame} (env : RouteEnv) {sta : Nat}
    (hsta : s.stas sta = some f.sa) (flushMpath : Bool) :
    MeshInv (s.routeTa k h f env sta flushMpath).1 := by
  have hil := meshPathLookup_inv (k := k) hi env.now f.sa
  obtain ⟨has, _⟩ := meshPathAdd_frame s env.now f.sa env.taAlloc
  have hia := meshPathAdd_inv hi env.now f.sa env.taAlloc
  unfold MeshState.routeTa
  dsimp only
  split
  · exact hi
  · cases hl : s.meshPaths.lookup MeshPath.dst f.sa with
    | some a =>
      obtain ⟨path, hp⟩ := meshPathLookup_live (k := k) hi hl
      rw [meshPathLookup_some hl] at hil hp ⊢
      dsimp only at hil hp ⊢
      rw [hp]
      dsimp only
      split
      · exact (updatePath_inv hil hp hsta (fun p => (updateTa_fields p ..).1)
          (fun p => (updateTa_fields p ..).2) (fun _ => rfl) flushMpath).1
      · exact hil
    | none =>
      have hlive := @meshPathAdd_live s hi env.now f.sa env.taAlloc
      rw [meshPathLookup_none hl]
      dsimp only
      cases hadd : s.meshPathAdd env.now f.sa env.taAlloc with
      | mk s1 r =>
        rw [hadd] at has hia hlive
        dsimp only at has hia hlive
        cases r with
        | error err => exact hia
        | ok a =>
          obtain ⟨path, hp, _⟩ := hlive rfl
          exact (updatePath_inv hia hp (has ▸ hsta) (fun p => (updateTa_fields p ..).1)
            (fun p => (updateTa_fields p ..).2) (fun _ => rfl) flushMpath).1

theorem hwmpRouteInfoGet_inv (hi : MeshInv s) {f : HwmpFrame} {env : RouteEnv}
    (hsta : ∀ sta ∈ env.sta, s.stas sta = some f.sa) :
    MeshInv (s.hwmpRouteInfoGet k h f env).1 := by
  unfold MeshState.hwmpRouteInfoGet
  split
  · exact hi
  · rename_i sta he
    split
    · obtain ⟨ho, hs⟩ := routeOrig_inv (k := k) (h := h) hi (f := f) (hsta sta he)
      cases hr : s.routeOrig k h f env sta with
      | mk s1 r =>
        rw [hr] at ho hs
        dsimp only at ho hs
        cases r with
        | none => exact ho
        | some fp =>
          have ht := routeTa_inv (k := k) (h := h) ho (f := f) env
            (hs ▸ hsta sta he) fp.1
          dsimp only
          cases hr' : s1.routeTa k h f env sta fp.1 with
          | mk s2 b =>
            rw [hr'] at ht
            cases b <;> exact ht
    · exact hi

/-! ## Other handlers -/

theorem hwmpPreqFrameProcess_inv (hi : MeshInv s) (now : BitVec 64) (f : PreqFrame) :
    MeshInv (s.hwmpPreqFrameProcess k now f) := by
  unfold MeshState.hwmpPreqFrameProcess
  split
  · exact hi
  · split
    · have hil := meshPathLookup_inv (k := k) hi now f.origAddr
      split
      · rename_i s1 h1
        rw [h1] at hil
        exact hil
      · rename_i s1 a h1
        rw [h1] at hil
        split
        · exact meshPathAddGate_inv hil a
        · exact hil
    · have hil := meshPathLookup_inv (k := k) hi now f.targetAddr
      split
      · rename_i s1 h1
        rw [h1] at hil
        exact hil
      · rename_i s1 a h1
        rw [h1] at hil
        refine hil.quiet a ⟨?_, ?_, ?_, ?_⟩
        · intro path
          split <;> rfl
        · intro path
          split <;> rfl
        · intro path
          split <;> rfl
        · intro path hact
          split at hact <;> exact hact

theorem MeshInv.deref (hi : MeshInv s) {a : Nat} {path : MeshPath}
    (hp : s.meshPaths.mem a = some path) (hact : path.flags.active = true) :
    ∃ addr, s.Deref path.nextHop = some addr := by
  obtain ⟨sta, hn⟩ := Option.ne_none_iff_exists'.1 (hi.active hp hact)
  obtain ⟨addr, ha⟩ := hi.nextHop hp hn
  refine ⟨addr, ?_⟩
  unfold MeshState.Deref
  rw [hn]
  exact ha

theorem hwmpPrepFrameProcess_inv (hi : MeshInv s) (now : BitVec 64) (origAddr : EthAddr)
    (ttl : BitVec 8) :
    MeshInv (s.hwmpPrepFrameProcess k now origAddr ttl).1 ∧
      (s.hwmpPrepFrameProcess k now origAddr ttl).2 ≠ some none := by
  unfold MeshState.hwmpPrepFrameProcess
  split
  · exact ⟨hi, nofun⟩
  · split
    · exact ⟨hi, nofun⟩
    · split
      · exact ⟨hi, nofun⟩
      · have hil := meshPathLookup_inv (k := k) hi now origAddr
        split
        · rename_i s1 h1
          rw [h1] at hil
          exact ⟨hil, nofun⟩
        · rename_i s1 a h1
          rw [h1] at hil
          split
          · exact ⟨hil, nofun⟩
          · rename_i path hp
            split
            · exact ⟨hil, nofun⟩
            · rename_i hact
              obtain ⟨addr, ha⟩ := hil.deref hp (Bool.not_eq_false _ ▸ hact)
              rw [ha]
              exact ⟨hil, nofun⟩

/-- **`hwmp_perr_frame_process` does not read through a bad pointer.** -/
theorem hwmpPerrFrameProcess_inv (hi : MeshInv s) (now : BitVec 64) (f : PerrFrame) :
    ∃ s', s.hwmpPerrFrameProcess k now f = some s' ∧ MeshInv s' := by
  unfold MeshState.hwmpPerrFrameProcess
  split
  · exact ⟨s, rfl, hi⟩
  · have hil := meshPathLookup_inv (k := k) hi now f.targetAddr
    split
    · rename_i s1 h1
      rw [h1] at hil
      exact ⟨s1, rfl, hil⟩
    · rename_i s1 a h1
      rw [h1] at hil
      split
      · exact ⟨s1, rfl, hil⟩
      · rename_i path hp
        have hsome : ∃ b, s1.perrApplies f path = some b := by
          unfold MeshState.perrApplies
          split
          · exact ⟨false, rfl⟩
          · rename_i hact
            obtain ⟨addr, ha⟩ := hil.deref hp (Bool.not_eq_false _ ▸ hact)
            rw [ha]
            exact ⟨_, rfl⟩
        obtain ⟨b, hb⟩ := hsome
        rw [hb]
        refine ⟨_, rfl, ?_⟩
        dsimp only
        split
        · exact hil.quiet a ⟨fun _ => rfl, fun _ => rfl, fun _ => rfl, nofun⟩
        · exact hil

theorem rannPath_inv (hi : MeshInv s) (now : BitVec 64) (f : RannFrame) (a : Nat) :
    MeshInv (s.rannPath now f a) := by
  unfold MeshState.rannPath
  split
  · exact hi
  · split
    · exact hi
    · have hq : Quiet (MeshState.rannUpdate now f) :=
        ⟨fun _ => rfl, fun _ => rfl, fun _ => rfl, fun _ h => h⟩
      dsimp only
      split
      · exact meshPathAddGate_inv (hi.quiet a hq) a
      · exact hi.quiet a hq

theorem hwmpRannFrameProcess_inv (hi : MeshInv s) (now : BitVec 64) (f : RannFrame) :
    MeshInv (s.hwmpRannFrameProcess k now f) := by
  unfold MeshState.hwmpRannFrameProcess
  split
  · exact hi
  · split
    · exact hi
    · cases hl : s.meshPaths.lookup MeshPath.dst f.origAddr with
      | some a =>
        have hil := meshPathLookup_inv (k := k) hi now f.origAddr
        rw [meshPathLookup_some hl] at hil ⊢
        exact rannPath_inv hil now f a
      | none =>
        have hia := meshPathAdd_inv hi now f.origAddr f.alloc
        rw [meshPathLookup_none hl]
        dsimp only
        cases hadd : s.meshPathAdd now f.origAddr f.alloc with
        | mk s1 r =>
          rw [hadd] at hia
          cases r with
          | error err => exact hia
          | ok a => exact rannPath_inv hia now f a

theorem meshNexthopLookup_inv (hi : MeshInv s) (now : BitVec 64) (skb : FastTxSkb) :
    MeshInv (s.meshNexthopLookup k now skb) := by
  have hil := meshPathLookup_inv (k := k) hi now skb.hdr.addr3
  unfold MeshState.meshNexthopLookup
  split
  · rename_i s1 h1
    rw [h1] at hil
    exact hil
  · rename_i s1 a h1
    rw [h1] at hil
    split
    · exact hil
    · rename_i path hp
      split
      · exact hil
      · split
        · exact hil
        · rename_i addr ha
          refine meshFastTxCache_inv hil ?_
          unfold MeshState.Deref at ha
          rw [Option.bind_eq_some_iff] at ha
          obtain ⟨sta, hn, hs⟩ := ha
          exact ⟨path, sta, hp, hn, hs⟩

theorem rxMeshProxyUpdate_inv (hi : MeshInv s) (now : BitVec 64) (proxiedAddr hSource : EthAddr)
    (alloc : AllocResult) : MeshInv (s.rxMeshProxyUpdate k now proxiedAddr hSource alloc) := by
  have hil := mppPathLookup_inv (k := k) hi now proxiedAddr
  unfold MeshState.rxMeshProxyUpdate
  split
  · rename_i s1 h1
    rw [h1] at hil
    exact mppPathAdd_inv hil now proxiedAddr hSource alloc
  · rename_i s1 a h1
    rw [h1] at hil
    split
    · exact hil
    · have hm := hil.modifyMpp a (f := fun mpath => { mpath with mpp := hSource, expTime := now })
        (fun _ => rfl) fun _ => rfl
      dsimp only
      split
      · exact meshFastTxFlushAddr_inv hm proxiedAddr
      · exact hm

/-! ## Other steps -/

theorem addMpath_inv (hi : MeshInv s) {now : BitVec 64} {dst : EthAddr} {sta : Nat}
    {alloc : AllocResult} (hsta : (s.stas sta).isSome) : MeshInv (s.addMpath now dst sta alloc) := by
  obtain ⟨addr, ha⟩ := Option.isSome_iff_exists.1 hsta
  obtain ⟨has, _⟩ := meshPathAdd_frame s now dst alloc
  have hia := meshPathAdd_inv hi now dst alloc
  have hlive := @meshPathAdd_live s hi now dst alloc
  unfold MeshState.addMpath
  cases hadd : s.meshPathAdd now dst alloc with
  | mk s1 r =>
    rw [hadd] at has hia hlive
    dsimp only at has hia hlive
    cases r with
    | error err => exact hia
    | ok a =>
      obtain ⟨path, hp, _⟩ := hlive rfl
      exact meshPathFixNexthop_inv hia hp (has ▸ ha)

theorem changeMpath_inv (hi : MeshInv s) {now : BitVec 64} {dst : EthAddr} {sta : Nat}
    (hsta : (s.stas sta).isSome) : MeshInv (s.changeMpath k now dst sta) := by
  obtain ⟨addr, ha⟩ := Option.isSome_iff_exists.1 hsta
  have hil := meshPathLookup_inv (k := k) hi now dst
  unfold MeshState.changeMpath
  cases hl : s.meshPaths.lookup MeshPath.dst dst with
  | some a =>
    obtain ⟨path, hp⟩ := meshPathLookup_live (k := k) hi hl
    rw [meshPathLookup_some hl] at hil hp ⊢
    exact meshPathFixNexthop_inv hil hp ha
  | none =>
    rw [meshPathLookup_none hl]
    exact hi

theorem discovery_inv (hi : MeshInv s) (now : BitVec 64) (dst : EthAddr) (resolving resolved : Bool)
    (expTime : BitVec 64) : MeshInv (s.discovery k now dst resolving resolved expTime) := by
  have hil := meshPathLookup_inv (k := k) hi now dst
  unfold MeshState.discovery
  split
  · rename_i s1 h1
    rw [h1] at hil
    exact hil
  · rename_i s1 a h1
    rw [h1] at hil
    exact hil.quiet a ⟨fun _ => rfl, fun _ => rfl, fun _ => rfl, fun _ h => h⟩

theorem MeshInv.setStas (hi : MeshInv s) {stas : Nat → Option EthAddr}
    (hkeep : ∀ {a path sta}, s.meshPaths.mem a = some path → path.nextHop = some sta →
      stas sta = s.stas sta) : MeshInv { s with stas := stas } := by
  refine { hi with nextHop := ?_, cached := ?_ }
  · intro a path sta hp hn
    obtain ⟨addr, ha⟩ := hi.nextHop hp hn
    exact ⟨addr, (hkeep hp hn).trans ha⟩
  · intro e entry he
    obtain ⟨⟨path, sta, hp, hn, hs⟩, hm⟩ := hi.cached he
    exact ⟨⟨path, sta, hp, hn, (hkeep hp hn).trans hs⟩, hm⟩

theorem staInsert_inv (hi : MeshInv s) {sta : Nat} (hnew : s.stas sta = none) (addr : EthAddr) :
    MeshInv { s with stas := Function.update s.stas sta (some addr) } := by
  refine hi.setStas ?_
  intro a path t hp hn
  rw [Function.update_apply]
  split
  · rename_i hts
    obtain ⟨_, ha⟩ := hi.nextHop hp hn
    rw [hts, hnew] at ha
    cases ha
  · rfl

/-- **No path goes through a station that has been flushed.** -/
theorem meshPathFlushByNexthop_gone (hi : MeshInv s) {sta a : Nat} {path : MeshPath}
    (hp : (s.meshPathFlushByNexthop sta).meshPaths.mem a = some path) :
    path.nextHop ≠ some sta := by
  obtain ⟨hpaths, _⟩ := meshPathDelIf_paths s fun mpath => mpath.nextHop == some sta
  unfold MeshState.meshPathFlushByNexthop at hp
  rw [hpaths, hi.paths.removeIf_some] at hp
  intro hn
  rw [hn, beq_self_eq_true] at hp
  cases hp.2

theorem staDestroy_inv (hi : MeshInv s) (sta : Nat) : MeshInv (s.staDestroy sta) := by
  have hf : MeshInv (s.meshPathFlushByNexthop sta) := meshPathDelIf_inv hi _
  have hstas : (s.meshPathFlushByNexthop sta).stas = s.stas := (meshPathDelIf_paths s _).2
  unfold MeshState.staDestroy
  dsimp only
  refine hf.setStas ?_
  intro a path t hp hn
  rw [Function.update_apply]
  split
  · rename_i hts
    rw [hts] at hn
    exact absurd hn (meshPathFlushByNexthop_gone hi hp)
  · rfl

/-! ## Runs -/

/-- **Every operation goes through, and keeps the invariant.** -/
theorem next_inv (hi : MeshInv s) {op : MeshOp} (hl : op.Legal s) :
    ∃ s', s.next k h op = some s' ∧ MeshInv s' := by
  cases op with
  | pathAdd now dst alloc => exact ⟨_, rfl, meshPathAdd_inv hi now dst alloc⟩
  | mppAdd now dst mpp alloc => exact ⟨_, rfl, mppPathAdd_inv hi now dst mpp alloc⟩
  | pathDel addr => exact ⟨_, rfl, meshPathDel_inv hi addr⟩
  | flushByNexthop sta => exact ⟨_, rfl, meshPathDelIf_inv hi _⟩
  | flushByProxy proxy => exact ⟨_, rfl, mppPathDelIf_inv hi _⟩
  | expire now => exact ⟨_, rfl, meshPathExpire_inv hi now⟩
  | flushByIface => exact ⟨_, rfl, meshPathFlushByIface_inv hi⟩
  | routeInfo f env => exact ⟨_, rfl, hwmpRouteInfoGet_inv hi hl⟩
  | preq now f => exact ⟨_, rfl, hwmpPreqFrameProcess_inv hi now f⟩
  | prep now origAddr ttl =>
    obtain ⟨hp, hne⟩ := hwmpPrepFrameProcess_inv (k := k) hi now origAddr ttl
    unfold MeshState.next
    cases hr : s.hwmpPrepFrameProcess k now origAddr ttl with
    | mk s1 r =>
      rw [hr] at hp hne
      dsimp only
      rw [hr]
      rcases r with _ | _ | addr
      · exact ⟨s1, rfl, hp⟩
      · exact absurd rfl hne
      · exact ⟨s1, rfl, hp⟩
  | perr now f => exact hwmpPerrFrameProcess_inv hi now f
  | rann now f => exact ⟨_, rfl, hwmpRannFrameProcess_inv hi now f⟩
  | addMpath now dst sta alloc => exact ⟨_, rfl, addMpath_inv hi hl⟩
  | changeMpath now dst sta => exact ⟨_, rfl, changeMpath_inv hi hl⟩
  | plinkBroken sta => exact ⟨_, rfl, meshPlinkBroken_inv hi sta⟩
  | nexthopLookup now skb => exact ⟨_, rfl, meshNexthopLookup_inv hi now skb⟩
  | proxyUpdate now proxiedAddr hSource alloc =>
    exact ⟨_, rfl, rxMeshProxyUpdate_inv hi now proxiedAddr hSource alloc⟩
  | fastTxGet now key => exact ⟨_, rfl, meshFastTxGet_inv hi now key⟩
  | fastTxGc now => exact ⟨_, rfl, meshFastTxGc_inv hi now⟩
  | fastTxFlushMpath mpath => exact ⟨_, rfl, hi.freeCacheIf _⟩
  | fastTxFlushSta sta => exact ⟨_, rfl, hi.freeCacheIf _⟩
  | fastTxFlushAddr addr => exact ⟨_, rfl, meshFastTxFlushAddr_inv hi addr⟩
  | discovery now dst resolving resolved expTime =>
    exact ⟨_, rfl, discovery_inv hi now dst resolving resolved expTime⟩
  | staInsert sta addr => exact ⟨_, rfl, staInsert_inv hi hl addr⟩
  | staDestroy sta => exact ⟨_, rfl, staDestroy_inv hi sta⟩

theorem meshStep_inv (hi : MeshInv s) {op : MeshOp} (hs : MeshStep k h s op s') : MeshInv s' := by
  obtain ⟨hl, hn⟩ := hs
  obtain ⟨s1, h1, hi1⟩ := next_inv (k := k) (h := h) hi hl
  rw [h1, Option.some.injEq] at hn
  exact hn ▸ hi1

theorem initial_inv (h0 : Initial s) : MeshInv s := by
  refine ⟨?_, ?_, ?_, ?_, ?_, ?_, ?_, ?_, ?_, ?_⟩
  · rw [h0.meshPaths]
    exact Table.Valid.empty
  · rw [h0.mppPaths]
    exact Table.Valid.empty
  · rw [h0.txCache]
    exact Table.Valid.empty
  · intro a
    rw [h0.knownGates, h0.meshPaths]
    exact ⟨nofun, fun ⟨_, hm, _⟩ => (nomatch hm)⟩
  · rw [h0.knownGates]
    exact List.nodup_nil
  · rw [h0.numGates, h0.knownGates]
    rfl
  · intro a path hp
    rw [h0.mppPaths] at hp
    cases hp
  · intro a path sta hp
    rw [h0.meshPaths] at hp
    cases hp
  · intro a path hp
    rw [h0.meshPaths] at hp
    cases hp
  · intro e entry he
    rw [h0.txCache] at he
    cases he

theorem reachable_inv (hr : Runs.Reachable Initial (MeshStep k h) s) : MeshInv s :=
  hr.invariant (fun _ h0 => initial_inv h0) fun _ _ _ hi hs => meshStep_inv hi hs

end Mac80211.Mesh

/-!
## Next hops and the fast transmit cache over runs

* `fastTx_valid` — cache entries refer to entries that are in their tables, and have the address of the
  current next hop.
* `active_nextHop` — an active path has a next hop that is there, and nothing is read through a bad
  pointer.
-/

namespace Mac80211.Mesh

open KeyedTable

variable {k : KernelApi} {h : MultFrac} {s : MeshState}

/-- An entry is in the hash table and on the list of its table. -/
def InTable (t : MeshTable) (a : Nat) : Prop := a ∈ t.hash ∧ a ∈ t.walk

/-- **The fast transmit cache is up to date.** -/
structure FastTxValid (s : MeshState) : Prop where
  mpath : ∀ {e entry}, s.txCache.mem e = some entry → InTable s.meshPaths entry.mpath ∧
    ∃ path sta, s.meshPaths.mem entry.mpath = some path ∧ path.nextHop = some sta ∧
      s.stas sta = some entry.hdr.addr1
  mppath : ∀ {e entry}, s.txCache.mem e = some entry → ∀ m ∈ entry.mppath, InTable s.mppPaths m
  same : s.txCache.walk.Perm s.txCache.hash
  nodup : s.txCache.hash.Nodup
  live : ∀ {e}, e ∈ s.txCache.hash → ∃ entry, s.txCache.mem e = some entry
  distinct : ∀ {e e' entry entry'}, s.txCache.mem e = some entry → s.txCache.mem e' = some entry' →
    entry.key = entry'.key → e = e'

theorem inTable {t : MeshTable} (hv : t.Valid MeshPath.dst) {a : Nat} {path : MeshPath}
    (hp : t.mem a = some path) : InTable t a :=
  ⟨hv.live.2 ⟨path, hp⟩, hv.same.2 (hv.live.2 ⟨path, hp⟩)⟩

/-- **Cache entries are valid after every operation.** -/
theorem fastTx_valid (hr : Runs.Reachable Initial (MeshStep k h) s) : FastTxValid s := by
  have hi := reachable_inv hr
  refine ⟨?_, ?_, hi.cache.perm, hi.cache.nodup, fun he => hi.cache.live.1 he, fun he he' hk =>
    hi.cache.distinct he he' hk⟩
  · intro e entry he
    obtain ⟨path, sta, hp, hn, hs⟩ := (hi.cached he).mpath
    exact ⟨inTable hi.paths hp, path, sta, hp, hn, hs⟩
  · intro e entry he m hm
    obtain ⟨mpp, hmpp, _⟩ := (hi.cached he).mppath m hm
    exact inTable hi.mpps hmpp

/-- A frame for `2` of the interface itself. -/
def skbTo2 : FastTxSkb :=
  { hdr := { addr1 := 0, addr2 := 0, addr3 := 2, addr4 := 1 }
    isDataQos := true
    hasA4 := true
    aeA5A6 := false
    eaddr1 := 0
    eaddr2 := 0
    keyOk := true
    alloc := ⟨true, true⟩ }

/-- A frame is sent along a path that a PREQ has made. -/
theorem fastTx_valid_cached :
    ∃ s, FastTxValid s ∧ (s.txCache.mem 0).map (fun entry => entry.hdr.addr1) = some 3 := by
  obtain ⟨s, hr, ho⟩ := observe
    [.staInsert 7 3, .routeInfo (preqFrom 3 10) (routeVia 7), .nexthopLookup 1 skbTo2]
    (fun s => (s.txCache.mem 0).map fun entry => entry.hdr.addr1) (x := some 3) (by decide)
  exact ⟨s, fastTx_valid hr, ho⟩

/-- **An active path has a next hop that is there**: no operation reads through a bad pointer, nor do
    frames that are handed to gates. -/
theorem active_nextHop (hr : Runs.Reachable Initial (MeshStep k h) s) :
    (∀ a path, s.meshPaths.mem a = some path → path.flags.active = true →
      ∃ sta addr, path.nextHop = some sta ∧ s.stas sta = some addr) ∧
    (∀ op : MeshOp, op.Legal s → (s.next k h op).isSome) ∧
    ∀ mpath, ∀ nextHop ∈ s.meshPathSendToGates mpath, nextHop.isSome := by
  have hi := reachable_inv hr
  refine ⟨?_, ?_, ?_⟩
  · intro a path hp hact
    obtain ⟨sta, hn⟩ := Option.ne_none_iff_exists'.1 (hi.active hp hact)
    obtain ⟨addr, ha⟩ := hi.nextHop hp hn
    exact ⟨sta, addr, hn, ha⟩
  · intro op hl
    obtain ⟨s', hs', _⟩ := next_inv (k := k) (h := h) hi hl
    rw [hs']
    rfl
  · intro mpath nextHop hm
    unfold MeshState.meshPathSendToGates at hm
    rw [List.mem_map] at hm
    obtain ⟨gate, hg, rfl⟩ := hm
    rw [List.mem_filter] at hg
    cases hp : s.meshPaths.mem gate with
    | none =>
      rw [hp] at hg
      cases hg.2
    | some path =>
      rw [hp] at hg
      have hact : path.flags.active = true := by
        have h2 := hg.2
        rw [Bool.and_eq_true, Bool.and_eq_true] at h2
        exact h2.1.1
      obtain ⟨addr, ha⟩ := hi.deref hp hact
      rw [Option.bind_some, ha]
      rfl

/-- A path that a PREQ has made. -/
theorem active_nextHop_preq :
    ∃ (s : MeshState) (path : MeshPath) (addr : EthAddr),
      s.meshPaths.mem 0 = some path ∧ path.nextHop = some 7 ∧ s.stas 7 = some addr := by
  obtain ⟨s, hr, ho⟩ := observe [.staInsert 7 3, .routeInfo (preqFrom 3 10) (routeVia 7)]
    (fun s => (s.meshPaths.mem 0).map fun path => (path.flags.active, path.nextHop))
    (x := some (true, some 7)) (by decide)
  obtain ⟨path, hp, hf⟩ := Option.map_eq_some_iff.1 ho
  rw [Prod.mk.injEq] at hf
  obtain ⟨sta, addr, hn, ha⟩ := (active_nextHop hr).1 0 path hp hf.1
  rw [hf.2, Option.some.injEq] at hn
  exact ⟨s, path, addr, hp, hf.2, hn ▸ ha⟩

end Mac80211.Mesh
