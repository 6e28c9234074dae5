import Wifi.Mac80211.Mesh.HwmpInv

/-!
# Accounting of mesh paths

* `TablesConsistent` — hash table and list of each table, and the gates.
* `Counts` — the operations that keep `mpaths` the number of paths.
* `mpaths_counts` — the tables are consistent after every run, and `mpaths` is the number of paths
  after every run of such operations.
* `mpaths_miscounts` — it is not after a path has been added twice, or a proxy entry deleted.
-/

namespace Mac80211.Mesh

open KeyedTable

variable {k : KernelApi} {h : MultFrac} {s s' : MeshState}

/-- The hash table and the list hold the same entries, with distinct destinations. -/
structure TableConsistent (t : MeshTable) : Prop where
  same : t.walk.Perm t.hash
  nodup : t.hash.Nodup
  live : ∀ {a}, a ∈ t.hash → ∃ path, t.mem a = some path
  distinct : ∀ {a b path path'}, a ∈ t.hash → b ∈ t.hash → t.mem a = some path →
    t.mem b = some path' → path.dst = path'.dst → a = b

/-- **Tables and gates.** -/
structure TablesConsistent (s : MeshState) : Prop where
  meshPaths : TableConsistent s.meshPaths
  mppPaths : TableConsistent s.mppPaths
  numGates : s.numGates = s.knownGates.length
  gates : ∀ {a}, a ∈ s.knownGates → a ∈ s.meshPaths.hash ∧
    ∃ path, s.meshPaths.mem a = some path ∧ path.isGate = true

theorem valid_consistent {t : MeshTable} (hv : t.Valid MeshPath.dst) : TableConsistent t :=
  ⟨hv.perm, hv.nodup, fun ha => hv.live.1 ha, fun _ _ hp hp' hd => hv.distinct hp hp' hd⟩

theorem MeshInv.consistent (hi : MeshInv s) : TablesConsistent s := by
  refine ⟨valid_consistent hi.paths, valid_consistent hi.mpps, hi.gateNum, ?_⟩
  intro a ha
  obtain ⟨path, hp, hg⟩ := hi.gate.1 ha
  exact ⟨hi.paths.live.2 ⟨path, hp⟩, path, hp, hg⟩

/-- `mpaths` is the number of paths. -/
def Exact (s : MeshState) : Prop := s.mpaths = s.meshPaths.hash.length

/-- `mesh_path_add` gives up before it counts. -/
def Refused (s : MeshState) (dst : EthAddr) : Prop :=
  dst = s.vifAddr ∨ isMulticastEtherAddr dst = true ∨ s.mpaths = MESH_MAX_MPATHS

/-- The allocation and the insertion succeed. -/
def AllocResult.Ok (alloc : AllocResult) : Prop := alloc.allocOk = true ∧ alloc.insertOk = true

/-- **The operations that keep `mpaths` the number of paths**: a path that is added is new and can be
    allocated, and no proxy entry is deleted. -/
def Counts (k : KernelApi) (s : MeshState) : MeshOp → Prop
  | .pathAdd _ dst alloc | .addMpath _ dst _ alloc =>
    Refused s dst ∨ (s.meshPaths.lookup MeshPath.dst dst = none ∧ alloc.Ok)
  | .routeInfo _ env => env.origAlloc.Ok ∧ env.taAlloc.Ok
  | .rann _ f => f.alloc.Ok
  | .pathDel proxy | .flushByProxy proxy => ∀ a, ∀ mpp ∈ s.mppPaths.mem a, mpp.mpp ≠ proxy
  | .expire now => ∀ a, ∀ mpp ∈ s.mppPaths.mem a, MeshState.expires k now mpp = false
  | .flushByIface => ∀ a, s.mppPaths.mem a = none
  | _ => True

/-! ## Steps that do not count -/

/-- The number of paths, and the counter, have not changed. -/
def SameCount (s s' : MeshState) : Prop :=
  s'.mpaths = s.mpaths ∧ s'.meshPaths.hash = s.meshPaths.hash

theorem SameCount.refl (s : MeshState) : SameCount s s := ⟨rfl, rfl⟩

theorem SameCount.trans {s'' : MeshState} (h1 : SameCount s s') (h2 : SameCount s' s'') :
    SameCount s s'' := ⟨h2.1.trans h1.1, h2.2.trans h1.2⟩

theorem Exact.of_same (he : Exact s) (hs : SameCount s s') : Exact s' := by
  unfold Exact
  rw [hs.1, hs.2]
  exact he

theorem lookup_same (s : MeshState) (now : BitVec 64) (dst : EthAddr) :
    SameCount s (s.meshPathLookup k now dst).1 := by
  obtain ⟨_, _, h1, _, h2⟩ := meshPathLookup_frame (k := k) s now dst
  exact ⟨h2, h1⟩

theorem mppLookup_same (s : MeshState) (now : BitVec 64) (dst : EthAddr) :
    SameCount s (s.mppPathLookup k now dst).1 := ⟨rfl, rfl⟩

theorem flushKey_same (s : MeshState) (key : FastTxKey) : SameCount s (s.meshFastTxFlushKey key) := by
  unfold MeshState.meshFastTxFlushKey
  split <;> exact ⟨rfl, rfl⟩

theorem flushAddr_same (s : MeshState) (addr : EthAddr) : SameCount s (s.meshFastTxFlushAddr addr) :=
  ((flushKey_same s _).trans (flushKey_same _ _)).trans (flushKey_same _ _)

theorem fastTxGet_same (s : MeshState) (now : BitVec 64) (key : FastTxKey) :
    SameCount s (s.meshFastTxGet k now key).1 := by
  unfold MeshState.meshFastTxGet
  split
  · exact SameCount.refl s
  · split
    · exact SameCount.refl s
    · rename_i e _ _ entry _
      split
      · exact SameCount.refl s
      · split
        · exact flushKey_same s key
        · cases entry.mppath <;> exact ⟨rfl, rfl⟩

theorem fastTxGc_same (s : MeshState) (now : BitVec 64) : SameCount s (s.meshFastTxGc k now) := by
  unfold MeshState.meshFastTxGc
  split <;> exact ⟨rfl, rfl⟩

theorem insertFastTx_same (s : MeshState) (entry : FastTx) (alloc : AllocResult) :
    SameCount s (s.insertFastTx entry alloc) := by
  unfold MeshState.insertFastTx
  split
  · exact SameCount.refl s
  · split
    · split <;> exact ⟨rfl, rfl⟩
    · exact ⟨rfl, rfl⟩

theorem buildFastTx_same (s : MeshState) (now : BitVec 64) (skb : FastTxSkb) (mpath : Nat)
    (mppath : Option Nat) (addr : EthAddr) :
    SameCount s (s.buildFastTx now skb mpath mppath addr) := by
  unfold MeshState.buildFastTx
  split
  · exact SameCount.refl s
  · exact insertFastTx_same s _ _

theorem fastTxCache_same (s : MeshState) (now : BitVec 64) (skb : FastTxSkb) (mpath : Nat) :
    SameCount s (s.meshFastTxCache k now skb mpath) := by
  unfold MeshState.meshFastTxCache
  split
  · exact SameCount.refl s
  · split
    · exact SameCount.refl s
    · split
      · exact SameCount.refl s
      · split
        · exact SameCount.refl s
        · split
          · have hl := mppLookup_same (k := k) s now skb.eaddr1
            split
            · rename_i s1 h1
              rw [h1] at hl
              exact hl
            · rename_i s1 a h1
              rw [h1] at hl
              split
              · exact hl
              · split
                · exact hl
                · exact hl.trans (SameCount.trans ⟨rfl, rfl⟩ (buildFastTx_same _ _ _ _ _ _))
          · split
            · exact SameCount.refl s
            · split
              · exact SameCount.refl s
              · exact SameCount.trans ⟨rfl, rfl⟩ (buildFastTx_same _ _ _ _ _ _)

theorem nexthopLookup_same (s : MeshState) (now : BitVec 64) (skb : FastTxSkb) :
    SameCount s (s.meshNexthopLookup k now skb) := by
  have hl := lookup_same (k := k) s now skb.hdr.addr3
  unfold MeshState.meshNexthopLookup
  split
  · rename_i s1 h1
    rw [h1] at hl
    exact hl
  · rename_i s1 a h1
    rw [h1] at hl
    split
    · exact hl
    · split
      · exact hl
      · split
        · exact hl
        · exact hl.trans (fastTxCache_same _ _ _ _)

theorem addGate_same (s : MeshState) (a : Nat) : SameCount s (s.meshPathAddGate a).1 := by
  unfold MeshState.meshPathAddGate
  split
  · exact SameCount.refl s
  · split <;> exact ⟨rfl, rfl⟩

theorem mppAdd_same (s : MeshState) (now : BitVec 64) (dst mpp : EthAddr) (alloc : AllocResult) :
    SameCount s (s.mppPathAdd now dst mpp alloc).1 := by
  unfold MeshState.mppPathAdd
  split
  · exact SameCount.refl s
  · split
    · exact SameCount.refl s
    · split
      · exact SameCount.refl s
      · split
        · exact SameCount.refl s
        · split
          · have hadd : SameCount s { s with
                mppPaths := s.mppPaths.add { meshPathNew now dst with mpp := mpp } } := ⟨rfl, rfl⟩
            exact hadd.trans (flushAddr_same _ dst)
          · exact SameCount.refl s

theorem proxyUpdate_same (s : MeshState) (now : BitVec 64) (proxiedAddr hSource : EthAddr)
    (alloc : AllocResult) : SameCount s (s.rxMeshProxyUpdate k now proxiedAddr hSource alloc) := by
  have hl := mppLookup_same (k := k) s now proxiedAddr
  unfold MeshState.rxMeshProxyUpdate
  split
  · rename_i s1 h1
    rw [h1] at hl
    exact hl.trans (mppAdd_same _ _ _ _ _)
  · rename_i s1 a h1
    rw [h1] at hl
    split
    · exact hl
    · have hm : SameCount s1 (s1.modifyMpp a fun mpath =>
          { mpath with mpp := hSource, expTime := now }) := ⟨rfl, rfl⟩
      dsimp only
      split
      · exact (hl.trans hm).trans (flushAddr_same _ proxiedAddr)
      · exact hl.trans hm

theorem preq_same (s : MeshState) (now : BitVec 64) (f : PreqFrame) :
    SameCount s (s.hwmpPreqFrameProcess k now f) := by
  unfold MeshState.hwmpPreqFrameProcess
  split
  · exact SameCount.refl s
  · split
    · have hl := lookup_same (k := k) s now f.origAddr
      split
      · rename_i s1 h1
        rw [h1] at hl
        exact hl
      · rename_i s1 a h1
        rw [h1] at hl
        split
        · exact hl.trans (addGate_same _ _)
        · exact hl
    · have hl := lookup_same (k := k) s now f.targetAddr
      split
      · rename_i s1 h1
        rw [h1] at hl
        exact hl
      · rename_i s1 a h1
        rw [h1] at hl
        exact hl.trans ⟨rfl, rfl⟩

theorem prep_same (s : MeshState) (now : BitVec 64) (origAddr : EthAddr) (ttl : BitVec 8) :
    SameCount s (s.hwmpPrepFrameProcess k now origAddr ttl).1 := by
  unfold MeshState.hwmpPrepFrameProcess
  split
  · exact SameCount.refl s
  · split
    · exact SameCount.refl s
    · split
      · exact SameCount.refl s
      · have hl := lookup_same (k := k) s now origAddr
        split
        · rename_i s1 h1
          rw [h1] at hl
          exact hl
        · rename_i s1 a h1
          rw [h1] at hl
          split
          · exact hl
          · split <;> exact hl

theorem perr_same {now : BitVec 64} {f : PerrFrame} (hn : s.hwmpPerrFrameProcess k now f = some s') :
    SameCount s s' := by
  unfold MeshState.hwmpPerrFrameProcess at hn
  split at hn
  · exact Option.some.inj hn ▸ SameCount.refl s
  · have hl := lookup_same (k := k) s now f.targetAddr
    split at hn
    · rename_i s1 h1
      rw [h1] at hl
      exact Option.some.inj hn ▸ hl
    · rename_i s1 a h1
      rw [h1] at hl
      split at hn
      · exact Option.some.inj hn ▸ hl
      · rw [Option.map_eq_some_iff] at hn
        obtain ⟨b, _, rfl⟩ := hn
        split
        · exact hl.trans ⟨rfl, rfl⟩
        · exact hl

theorem rannPath_same (s : MeshState) (now : BitVec 64) (f : RannFrame) (a : Nat) :
    SameCount s (s.rannPath now f a) := by
  unfold MeshState.rannPath
  split
  · exact SameCount.refl s
  · split
    · exact SameCount.refl s
    · dsimp only
      split
      · exact SameCount.trans ⟨rfl, rfl⟩ (addGate_same _ _)
      · exact ⟨rfl, rfl⟩

theorem updatePath_same (s : MeshState) (a sta : Nat) (flushMpath : Bool)
    (f : MeshPath → MeshPath) : SameCount s (s.updatePath a sta flushMpath f).1 := by
  unfold MeshState.updatePath
  dsimp only
  split <;> exact ⟨rfl, rfl⟩

theorem plinkBroken_same (s : MeshState) (sta : Nat) : SameCount s (s.meshPlinkBroken sta) := by
  refine List.foldlRecOn s.meshPaths.walk _ (SameCount.refl s) ?_
  intro s1 h1 a _
  exact h1.trans ⟨rfl, rfl⟩

theorem changeMpath_same (s : MeshState) (now : BitVec 64) (dst : EthAddr) (sta : Nat) :
    SameCount s (s.changeMpath k now dst sta) := by
  have hl := lookup_same (k := k) s now dst
  unfold MeshState.changeMpath
  split
  · rename_i s1 h1
    rw [h1] at hl
    exact hl
  · rename_i s1 a h1
    rw [h1] at hl
    exact hl.trans ⟨rfl, rfl⟩

theorem discovery_same (s : MeshState) (now : BitVec 64) (dst : EthAddr) (resolving resolved : Bool)
    (expTime : BitVec 64) : SameCount s (s.discovery k now dst resolving resolved expTime) := by
  have hl := lookup_same (k := k) s now dst
  unfold MeshState.discovery
  split
  · rename_i s1 h1
    rw [h1] at hl
    exact hl
  · rename_i s1 a h1
    rw [h1] at hl
    exact hl.trans ⟨rfl, rfl⟩

/-! ## Steps that count -/

theorem meshPathAdd_exact (he : Exact s) (now : BitVec 64) {dst : EthAddr} {alloc : AllocResult}
    (hc : Refused s dst ∨ (s.meshPaths.lookup MeshPath.dst dst = none ∧ alloc.Ok)) :
    Exact (s.meshPathAdd now dst alloc).1 := by
  unfold MeshState.meshPathAdd
  by_cases h1 : dst = s.vifAddr
  · rw [if_pos h1]
    exact he
  · rw [if_neg h1]
    by_cases h2 : isMulticastEtherAddr dst = true
    · rw [if_pos h2]
      exact he
    · rw [if_neg h2]
      by_cases h3 : s.mpaths = MESH_MAX_MPATHS
      · rw [if_pos h3]
        exact he
      · rw [if_neg h3]
        obtain ⟨hl, ha, hins⟩ := hc.resolve_left fun hr => by
          rcases hr with hr | hr | hr
          · exact h1 hr
          · exact h2 hr
          · exact h3 hr
        dsimp only
        rw [ha, if_neg (by decide), hl, hins]
        unfold Exact Table.add at *
        dsimp only [if_true]
        rw [if_pos rfl]
        dsimp only
        rw [List.length_cons, he]
        rfl

theorem meshPathDelEntry_exact (hi : MeshInv s) (he : Exact s) (a : Nat) :
    Exact (s.meshPathDelEntry a) := by
  cases hp : s.meshPaths.mem a with
  | none =>
    unfold MeshState.meshPathDelEntry
    rw [hp]
    exact he
  | some path =>
    obtain ⟨hpaths, hn, _⟩ := meshPathDelEntry_paths s hp
    have hmem : a ∈ s.meshPaths.hash := hi.paths.live.2 ⟨path, hp⟩
    have hlen := List.length_erase_of_mem hmem
    have hpos := List.length_pos_of_mem hmem
    unfold Exact at he ⊢
    rw [hpaths, hn]
    unfold Table.remove
    dsimp only
    omega

theorem meshPathDelIf_exact (hi : MeshInv s) (he : Exact s) (p : MeshPath → Bool) :
    MeshInv (s.meshPathDelIf p) ∧ Exact (s.meshPathDelIf p) := by
  refine List.foldlRecOn (motive := fun s' => MeshInv s' ∧ Exact s') s.meshPaths.walk _ ⟨hi, he⟩ ?_
  intro s1 ⟨hi1, he1⟩ a _
  unfold MeshState.meshPathDelStep
  split
  · exact ⟨hi1, he1⟩
  · split
    · exact ⟨meshPathDelEntry_inv hi1 a, meshPathDelEntry_exact hi1 he1 a⟩
    · exact ⟨hi1, he1⟩

theorem mppPathDelIf_none {p : MeshPath → Bool}
    (hp : ∀ a, ∀ mpp ∈ s.mppPaths.mem a, p mpp = false) : s.mppPathDelIf p = s := by
  refine List.foldlRecOn (motive := fun s' : MeshState => s' = s) s.mppPaths.walk _ rfl ?_
  intro s1 h1 a _
  rw [h1]
  unfold MeshState.mppPathDelStep
  cases ha : s.mppPaths.mem a with
  | none => rfl
  | some mpp =>
    dsimp only
    rw [hp a mpp ha]
    rfl

theorem meshPathDelIf_mpp (s : MeshState) (p : MeshPath → Bool) :
    (s.meshPathDelIf p).mppPaths = s.mppPaths := by
  refine List.foldlRecOn (motive := fun s' : MeshState => s'.mppPaths = s.mppPaths) s.meshPaths.walk _ rfl ?_
  intro s1 h1 a _
  unfold MeshState.meshPathDelStep
  cases ha : s1.meshPaths.mem a with
  | none => exact h1
  | some path =>
    dsimp only
    split
    · exact (meshPathDelEntry_paths s1 ha).2.2.1.trans h1
    · exact h1

theorem newPath_exact (he : Exact s) (now : BitVec 64) {dst : EthAddr} {alloc : AllocResult}
    (hl : s.meshPaths.lookup MeshPath.dst dst = none) (ha : alloc.Ok) :
    Exact (s.meshPathAdd now dst alloc).1 :=
  meshPathAdd_exact he now (.inr ⟨hl, ha⟩)

theorem routeOrig_exact (he : Exact s) {f : HwmpFrame} {env : RouteEnv} (sta : Nat)
    (ha : env.origAlloc.Ok) : Exact (s.routeOrig k h f env sta).1 := by
  have hl := lookup_same (k := k) s env.now f.origAddr
  unfold MeshState.routeOrig
  dsimp only
  split
  · exact he
  · cases hlook : s.meshPaths.lookup MeshPath.dst f.origAddr with
    | some a =>
      rw [meshPathLookup_some hlook] at hl ⊢
      dsimp only at hl ⊢
      split
      · exact he.of_same hl
      · split
        · exact he.of_same (hl.trans (updatePath_same _ _ _ _ _))
        · exact he.of_same hl
    | none =>
      have hadd := newPath_exact he env.now hlook ha
      rw [meshPathLookup_none hlook]
      dsimp only
      split
      · rename_i s1 err h1
        rw [h1] at hadd
        exact hadd
      · rename_i s1 a h1
        rw [h1] at hadd
        exact hadd.of_same (updatePath_same _ _ _ _ _)

theorem routeTa_exact (he : Exact s) {f : HwmpFrame} {env : RouteEnv} (sta : Nat) (flushMpath : Bool)
    (ha : env.taAlloc.Ok) : Exact (s.routeTa k h f env sta flushMpath).1 := by
  have hl := lookup_same (k := k) s env.now f.sa
  unfold MeshState.routeTa
  dsimp only
  split
  · exact he
  · cases hlook : s.meshPaths.lookup MeshPath.dst f.sa with
    | some a =>
      rw [meshPathLookup_some hlook] at hl ⊢
      dsimp only at hl ⊢
      split
      · exact he.of_same hl
      · split
        · exact he.of_same (hl.trans (updatePath_same _ _ _ _ _))
        · exact he.of_same hl
    | none =>
      have hadd := newPath_exact he env.now hlook ha
      rw [meshPathLookup_none hlook]
      dsimp only
      split
      · rename_i s1 err h1
        rw [h1] at hadd
        exact hadd
      · rename_i s1 a h1
        rw [h1] at hadd
        exact hadd.of_same (updatePath_same _ _ _ _ _)

theorem routeInfo_exact (he : Exact s) {f : HwmpFrame} {env : RouteEnv}
    (hc : env.origAlloc.Ok ∧ env.taAlloc.Ok) : Exact (s.hwmpRouteInfoGet k h f env).1 := by
  unfold MeshState.hwmpRouteInfoGet
  split
  · exact he
  · rename_i sta _
    split
    · have ho := routeOrig_exact (k := k) (h := h) he (f := f) sta hc.1
      split
      · rename_i s1 h1
        rw [h1] at ho
        exact ho
      · rename_i s1 flushMpath process h1
        rw [h1] at ho
        have ht := routeTa_exact (k := k) (h := h) ho (f := f) sta flushMpath hc.2
        split
        · rename_i s2 h2
          rw [h2] at ht
          exact ht
        · rename_i s2 h2
          rw [h2] at ht
          exact ht
    · exact he

theorem rann_exact (he : Exact s) {now : BitVec 64} {f : RannFrame} (ha : f.alloc.Ok) :
    Exact (s.hwmpRannFrameProcess k now f) := by
  have hl := lookup_same (k := k) s now f.origAddr
  unfold MeshState.hwmpRannFrameProcess
  split
  · exact he
  · split
    · exact he
    · cases hlook : s.meshPaths.lookup MeshPath.dst f.origAddr with
      | some a =>
        rw [meshPathLookup_some hlook] at hl ⊢
        exact he.of_same (hl.trans (rannPath_same _ _ _ _))
      | none =>
        have hadd := newPath_exact he now hlook ha
        rw [meshPathLookup_none hlook]
        dsimp only
        split
        · rename_i s1 err h1
          rw [h1] at hadd
          exact hadd
        · rename_i s1 a h1
          rw [h1] at hadd
          exact hadd.of_same (rannPath_same _ _ _ _)

/-- **One operation that counts.** -/
theorem next_exact (hi : MeshInv s) (he : Exact s) {op : MeshOp} (hc : Counts k s op)
    (hn : s.next k h op = some s') : Exact s' := by
  cases op with
  | pathAdd now dst alloc => exact Option.some.inj hn ▸ meshPathAdd_exact he now hc
  | mppAdd now dst mpp alloc => exact Option.some.inj hn ▸ he.of_same (mppAdd_same s _ _ _ _)
  | pathDel addr =>
    rw [← Option.some.inj hn]
    have hnone : s.mppFlushByProxy addr = s :=
      mppPathDelIf_none fun a mpp hm => beq_eq_false_iff_ne.2 (hc a mpp hm)
    unfold MeshState.meshPathDel
    dsimp only
    rw [hnone]
    split
    · exact he
    · exact meshPathDelEntry_exact hi he _
  | flushByNexthop sta => exact Option.some.inj hn ▸ (meshPathDelIf_exact hi he _).2
  | flushByProxy proxy =>
    rw [← Option.some.inj hn]
    have hnone : s.mppFlushByProxy proxy = s :=
      mppPathDelIf_none fun a mpp hm => beq_eq_false_iff_ne.2 (hc a mpp hm)
    rw [hnone]
    exact he
  | expire now =>
    rw [← Option.some.inj hn]
    unfold MeshState.meshPathExpire
    rw [mppPathDelIf_none]
    · exact (meshPathDelIf_exact hi he _).2
    · rw [meshPathDelIf_mpp]
      exact hc
  | flushByIface =>
    rw [← Option.some.inj hn]
    unfold MeshState.meshPathFlushByIface
    rw [mppPathDelIf_none]
    · exact (meshPathDelIf_exact hi he _).2
    · rw [meshPathDelIf_mpp]
      intro a mpp hm
      rw [hc a] at hm
      cases hm
  | routeInfo f env => exact Option.some.inj hn ▸ routeInfo_exact he hc
  | preq now f => exact Option.some.inj hn ▸ he.of_same (preq_same s now f)
  | prep now origAddr ttl =>
    have hs := prep_same (k := k) s now origAddr ttl
    unfold MeshState.next at hn
    dsimp only at hn
    split at hn
    · cases hn
    · rename_i s1 r _ h1
      rw [h1] at hs
      exact Option.some.inj hn ▸ he.of_same hs
  | perr now f => exact he.of_same (perr_same hn)
  | rann now f => exact Option.some.inj hn ▸ rann_exact he hc
  | addMpath now dst sta alloc =>
    rw [← Option.some.inj hn]
    have hadd := meshPathAdd_exact he now hc
    unfold MeshState.addMpath
    split
    · rename_i s1 err h1
      rw [h1] at hadd
      exact hadd
    · rename_i s1 a h1
      rw [h1] at hadd
      exact hadd.of_same ⟨rfl, rfl⟩
  | changeMpath now dst sta => exact Option.some.inj hn ▸ he.of_same (changeMpath_same s now dst sta)
  | plinkBroken sta => exact Option.some.inj hn ▸ he.of_same (plinkBroken_same s sta)
  | nexthopLookup now skb => exact Option.some.inj hn ▸ he.of_same (nexthopLookup_same s now skb)
  | proxyUpdate now proxiedAddr hSource alloc =>
    exact Option.some.inj hn ▸ he.of_same (proxyUpdate_same s now proxiedAddr hSource alloc)
  | fastTxGet now key => exact Option.some.inj hn ▸ he.of_same (fastTxGet_same s now key)
  | fastTxGc now => exact Option.some.inj hn ▸ he.of_same (fastTxGc_same s now)
  | fastTxFlushMpath mpath => exact Option.some.inj hn ▸ he.of_same ⟨rfl, rfl⟩
  | fastTxFlushSta sta => exact Option.some.inj hn ▸ he.of_same ⟨rfl, rfl⟩
  | fastTxFlushAddr addr => exact Option.some.inj hn ▸ he.of_same (flushAddr_same s addr)
  | discovery now dst resolving resolved expTime =>
    exact Option.some.inj hn ▸ he.of_same (discovery_same s now dst resolving resolved expTime)
  | staInsert sta addr => exact Option.some.inj hn ▸ he.of_same ⟨rfl, rfl⟩
  | staDestroy sta =>
    rw [← Option.some.inj hn]
    exact ((meshPathDelIf_exact hi he _).2 : Exact (s.meshPathFlushByNexthop sta)).of_same ⟨rfl, rfl⟩

/-- `mesh_path_add` refuses a destination exactly when the table is full. -/
theorem meshPathAdd_full (he : Exact s) {now : BitVec 64} {dst : EthAddr} {alloc : AllocResult}
    (hd : dst ≠ s.vifAddr) (hm : isMulticastEtherAddr dst = false) :
    (s.meshPathAdd now dst alloc).2 = .error .ENOSPC ↔
      (s.meshPaths.hash.length : Int) = MESH_MAX_MPATHS := by
  unfold Exact at he
  unfold MeshState.meshPathAdd
  rw [if_neg hd, hm, if_neg Bool.false_ne_true, he]
  constructor
  · intro hr
    by_contra hne
    rw [if_neg hne] at hr
    dsimp only at hr
    split at hr
    · cases hr
    · split at hr
      · cases hr
      · split at hr <;> cases hr
  · intro hfull
    rw [if_pos hfull]

/-- **Accounting of mesh paths.**  After every run the tables and the gates are consistent; after every
    run of operations that count, `mpaths` is the number of paths, and a destination is refused exactly
    when the table is full. -/
theorem mpaths_counts (k : KernelApi) (h : MultFrac) :
    (∀ s, Runs.Reachable Initial (MeshStep k h) s → TablesConsistent s) ∧
    ∀ s, Runs.Reachable Initial (Runs.Guarded (Counts k) (MeshStep k h)) s →
      s.mpaths = s.meshPaths.hash.length ∧
      ∀ now dst alloc, dst ≠ s.vifAddr → isMulticastEtherAddr dst = false →
        ((s.meshPathAdd now dst alloc).2 = .error .ENOSPC ↔
          (s.meshPaths.hash.length : Int) = MESH_MAX_MPATHS) := by
  refine ⟨fun s hr => (reachable_inv hr).consistent, ?_⟩
  intro s hr
  have hboth : MeshInv s ∧ Exact s := by
    induction hr with
    | start h0 =>
      refine ⟨initial_inv h0, ?_⟩
      unfold Exact
      rw [h0.mpaths, h0.meshPaths]
      rfl
    | next _ hs ih => exact ⟨meshStep_inv ih.1 hs.2, next_exact ih.1 ih.2 hs.1 hs.2.2⟩
  exact ⟨hboth.2, fun now dst alloc hd hm => meshPathAdd_full hboth.2 hd hm⟩

/-- One path has been added. -/
theorem mpaths_counts_one :
    ∃ s, TablesConsistent s ∧ s.mpaths = s.meshPaths.hash.length ∧ s.mpaths = 1 := by
  obtain ⟨s, hs⟩ : ∃ s, s = (startMesh.meshPathAdd 0 2 ⟨true, true⟩).1 := ⟨_, rfl⟩
  have hstep : MeshStep .linux .linux startMesh (.pathAdd 0 2 ⟨true, true⟩) s := by
    rw [hs]
    exact ⟨trivial, rfl⟩
  have hnew : Counts .linux startMesh (.pathAdd 0 2 ⟨true, true⟩) := Or.inr ⟨rfl, rfl, rfl⟩
  have hr : Runs.Reachable Initial (Runs.Guarded (Counts .linux) (MeshStep .linux .linux)) s :=
    .next (.start startMesh_initial) ⟨hnew, hstep⟩
  obtain ⟨htables, hcount⟩ := mpaths_counts .linux .linux
  refine ⟨s, htables s hr.of_guarded, (hcount s hr).1, ?_⟩
  rw [hs]
  rfl

/-- A path that is added twice is counted twice, and a proxy entry that is deleted is counted down. -/
theorem mpaths_miscounts :
    (∃ s, Runs.Reachable Initial (MeshStep .linux .linux) s ∧ s.mpaths = 2 ∧
      s.meshPaths.hash.length = 1) ∧
    ∃ s, Runs.Reachable Initial (MeshStep .linux .linux) s ∧ s.mpaths = -1 ∧
      s.meshPaths.hash.length = 0 := by
  refine ⟨?_, ?_⟩
  · obtain ⟨s, hr, ho⟩ := observe
      [.staInsert 7 3, .addMpath 0 2 7 ⟨true, true⟩, .addMpath 0 2 7 ⟨true, true⟩]
      (fun s => (s.mpaths, s.meshPaths.hash.length)) (x := (2, 1)) (by decide)
    rw [Prod.mk.injEq] at ho
    exact ⟨s, hr, ho⟩
  · obtain ⟨s, hr, ho⟩ := observe [.mppAdd 0 2 3 ⟨true, true⟩, .flushByProxy 3]
      (fun s => (s.mpaths, s.meshPaths.hash.length)) (x := (-1, 0)) (by decide)
    rw [Prod.mk.injEq] at ho
    exact ⟨s, hr, ho⟩

end Mac80211.Mesh
