import Wifi.Mac80211.Mesh.PathTblInv

/-!
# The operations of the path tables keep the invariant

One lemma for each operation of `mesh_pathtbl.c`: `meshPathAdd_inv`, `meshPathDelEntry_inv`,
`meshFastTxCache_inv`, `meshPathFixNexthop_inv`, …
-/

namespace Mac80211.Mesh

open KeyedTable

variable {k : KernelApi} {s s' : MeshState}

/-! ## Lookups -/

theorem quiet_deactivate (now : BitVec 64) :
    Quiet fun mpath => if mpathExpired k now mpath then mpath.deactivate else mpath := by
  refine ⟨?_, ?_, ?_, ?_⟩
  · intro path
    split <;> rfl
  · intro path
    split <;> rfl
  · intro path
    split <;> rfl
  · intro path hact
    split at hact
    · cases hact
    · exact hact

theorem meshPathLookup_none {now : BitVec 64} {dst : EthAddr}
    (h : s.meshPaths.lookup MeshPath.dst dst = none) : s.meshPathLookup k now dst = (s, none) := by
  unfold MeshState.meshPathLookup mpathLookup
  rw [h]

theorem meshPathLookup_some {now : BitVec 64} {dst : EthAddr} {a : Nat}
    (h : s.meshPaths.lookup MeshPath.dst dst = some a) :
    s.meshPathLookup k now dst = (s.modifyPath a fun mpath =>
      if mpathExpired k now mpath then mpath.deactivate else mpath, some a) := by
  unfold MeshState.meshPathLookup mpathLookup
  rw [h]
  rfl

theorem mppPathLookup_none {now : BitVec 64} {dst : EthAddr}
    (h : s.mppPaths.lookup MeshPath.dst dst = none) : s.mppPathLookup k now dst = (s, none) := by
  unfold MeshState.mppPathLookup mpathLookup
  rw [h]

theorem mppPathLookup_some {now : BitVec 64} {dst : EthAddr} {a : Nat}
    (h : s.mppPaths.lookup MeshPath.dst dst = some a) :
    s.mppPathLookup k now dst = (s.modifyMpp a fun mpath =>
      if mpathExpired k now mpath then mpath.deactivate else mpath, some a) := by
  unfold MeshState.mppPathLookup mpathLookup
  rw [h]
  rfl

theorem meshPathLookup_inv (hi : MeshInv s) (now : BitVec 64) (dst : EthAddr) :
    MeshInv (s.meshPathLookup k now dst).1 := by
  cases h : s.meshPaths.lookup MeshPath.dst dst with
  | none =>
    rw [meshPathLookup_none h]
    exact hi
  | some a =>
    rw [meshPathLookup_some h]
    exact hi.quiet a (quiet_deactivate now)

theorem mppPathLookup_inv (hi : MeshInv s) (now : BitVec 64) (dst : EthAddr) :
    MeshInv (s.mppPathLookup k now dst).1 := by
  cases h : s.mppPaths.lookup MeshPath.dst dst with
  | none =>
    rw [mppPathLookup_none h]
    exact hi
  | some a =>
    rw [mppPathLookup_some h]
    exact hi.modifyMpp a (quiet_deactivate now).dst (quiet_deactivate now).isGate

theorem meshPathLookup_frame (s : MeshState) (now : BitVec 64) (dst : EthAddr) :
    (s.meshPathLookup k now dst).1.stas = s.stas ∧
      (s.meshPathLookup k now dst).1.vifAddr = s.vifAddr ∧
      (s.meshPathLookup k now dst).1.meshPaths.hash = s.meshPaths.hash ∧
      (s.meshPathLookup k now dst).1.mppPaths = s.mppPaths ∧
      (s.meshPathLookup k now dst).1.mpaths = s.mpaths := by
  cases h : s.meshPaths.lookup MeshPath.dst dst with
  | none =>
    rw [meshPathLookup_none h]
    exact ⟨rfl, rfl, rfl, rfl, rfl⟩
  | some a =>
    rw [meshPathLookup_some h]
    exact ⟨rfl, rfl, rfl, rfl, rfl⟩

/-! ## Fast transmit cache -/

theorem meshFastTxFlushKey_spec (hi : MeshInv s) (key : FastTxKey) :
    ∃ c : Table FastTx, s.meshFastTxFlushKey key = { s with txCache := c } ∧ c.Valid FastTx.key ∧
      ∀ {e entry}, c.mem e = some entry → s.txCache.mem e = some entry ∧ entry.key ≠ key := by
  unfold MeshState.meshFastTxFlushKey
  cases h : s.txCache.lookup FastTx.key key with
  | none => exact ⟨s.txCache, rfl, hi.cache, fun he => ⟨he, hi.cache.lookup_eq_none h he⟩⟩
  | some e =>
    refine ⟨s.txCache.remove e, rfl, hi.cache.remove e, ?_⟩
    intro b entry hb
    rw [Table.remove_mem] at hb
    split at hb
    · cases hb
    · rename_i hbe
      refine ⟨hb, ?_⟩
      intro hk
      have hl := hi.cache.lookup_eq_some.2 ⟨entry, hb, hk⟩
      rw [h, Option.some.injEq] at hl
      exact hbe hl.symm

theorem meshFastTxFlushKey_inv (hi : MeshInv s) (key : FastTxKey) :
    MeshInv (s.meshFastTxFlushKey key) := by
  obtain ⟨c, hc, hv, hsub⟩ := meshFastTxFlushKey_spec hi key
  rw [hc]
  exact hi.setCache hv fun he => hi.cached (hsub he).1

/-- **`mesh_fast_tx_flush_addr` frees every entry with the address.** -/
theorem meshFastTxFlushAddr_spec (hi : MeshInv s) (addr : EthAddr) :
    ∃ c : Table FastTx, s.meshFastTxFlushAddr addr = { s with txCache := c } ∧ c.Valid FastTx.key ∧
      ∀ {e entry}, c.mem e = some entry →
        s.txCache.mem e = some entry ∧ entry.key.addr ≠ addr := by
  obtain ⟨c1, h1, hv1, hs1⟩ := meshFastTxFlushKey_spec hi ⟨addr, .local⟩
  have hi1 : MeshInv { s with txCache := c1 } := hi.setCache hv1 fun he => hi.cached (hs1 he).1
  obtain ⟨c2, h2, hv2, hs2⟩ := meshFastTxFlushKey_spec hi1 ⟨addr, .proxied⟩
  have hi2 : MeshInv { s with txCache := c2 } :=
    hi.setCache hv2 fun he => hi.cached (hs1 (hs2 he).1).1
  obtain ⟨c3, h3, hv3, hs3⟩ := meshFastTxFlushKey_spec hi2 ⟨addr, .forwarded⟩
  refine ⟨c3, ?_, hv3, ?_⟩
  · unfold MeshState.meshFastTxFlushAddr
    rw [h1, h2, h3]
  · intro e entry he
    obtain ⟨he2, hk3⟩ := hs3 he
    obtain ⟨he1, hk2⟩ := hs2 he2
    obtain ⟨he0, hk1⟩ := hs1 he1
    refine ⟨he0, ?_⟩
    intro ha
    have hkey : entry.key = ⟨addr, entry.key.type⟩ := by rw [← ha]
    cases ht : entry.key.type with
    | «local» => exact hk1 (by rw [hkey, ht])
    | proxied => exact hk2 (by rw [hkey, ht])
    | forwarded => exact hk3 (by rw [hkey, ht])

theorem meshFastTxFlushAddr_inv (hi : MeshInv s) (addr : EthAddr) :
    MeshInv (s.meshFastTxFlushAddr addr) := by
  obtain ⟨c, hc, hv, hsub⟩ := meshFastTxFlushAddr_spec hi addr
  rw [hc]
  exact hi.setCache hv fun he => hi.cached (hsub he).1

theorem meshFastTxGc_inv (hi : MeshInv s) (now : BitVec 64) : MeshInv (s.meshFastTxGc k now) := by
  unfold MeshState.meshFastTxGc
  split
  · exact hi
  · exact hi.freeCacheIf _

/-- Writes to a cache entry that keep what it refers to. -/
theorem MeshInv.touchEntry (hi : MeshInv s) (e : Nat) (now : BitVec 64) :
    MeshInv { s with txCache := s.txCache.modify e fun entry => { entry with timestamp := now } } := by
  refine hi.setCache (hi.cache.modify e fun _ => rfl) ?_
  intro b entry hb
  rw [Table.modify_mem] at hb
  split at hb
  · rename_i hbe
    rw [Option.map_eq_some_iff] at hb
    obtain ⟨old, hold, rfl⟩ := hb
    have hok := hi.cached hold
    exact ⟨hok.mpath, hok.mppath⟩
  · exact hi.cached hb

theorem meshFastTxGet_inv (hi : MeshInv s) (now : BitVec 64) (key : FastTxKey) :
    MeshInv (s.meshFastTxGet k now key).1 := by
  unfold MeshState.meshFastTxGet
  split
  · exact hi
  · split
    · exact hi
    · rename_i e _ _ entry _
      split
      · exact hi
      · split
        · exact meshFastTxFlushKey_inv hi key
        · cases entry.mppath with
          | none => exact hi.touchEntry e now
          | some mppath =>
            have hm := hi.modifyMpp mppath (f := fun mpath => { mpath with expTime := now })
              (fun _ => rfl) fun _ => rfl
            exact hm.touchEntry e now

/-- **The entry replaces the one with its key.** -/
theorem insertFastTx_inv (hi : MeshInv s) {entry : FastTx} (hok : CacheOk s entry)
    (alloc : AllocResult) : MeshInv (s.insertFastTx entry alloc) := by
  have hadd : ∀ {c : Table FastTx}, c.Valid FastTx.key →
      c.lookup FastTx.key entry.key = none →
      (∀ {e x}, c.mem e = some x → s.txCache.mem e = some x) →
      MeshInv { s with txCache := c.add entry } := by
    intro c hv hn hsub
    refine hi.setCache (hv.add hn) ?_
    intro e x hx
    rw [Table.add_mem] at hx
    split at hx
    · rw [← Option.some.inj hx]
      exact hok
    · exact hi.cached (hsub hx)
  unfold MeshState.insertFastTx
  split
  · exact hi
  · cases h : s.txCache.lookup FastTx.key entry.key with
    | none =>
      dsimp only
      split
      · exact hadd hi.cache h id
      · exact hi
    | some prev =>
      have hv := hi.cache.remove prev
      have hmem : ∀ {e x}, (s.txCache.remove prev).mem e = some x →
          e ≠ prev ∧ s.txCache.mem e = some x := by
        intro e x hx
        rw [Table.remove_mem] at hx
        split at hx
        · cases hx
        · rename_i he
          exact ⟨he, hx⟩
      refine hadd hv ?_ fun hx => (hmem hx).2
      cases hl : (s.txCache.remove prev).lookup FastTx.key entry.key with
      | none => rfl
      | some b =>
        obtain ⟨x, hx, hk⟩ := hv.lookup_eq_some.1 hl
        obtain ⟨hb, hx'⟩ := hmem hx
        have hsome := hi.cache.lookup_eq_some.2 ⟨x, hx', hk⟩
        rw [h, Option.some.injEq] at hsome
        exact absurd hsome.symm hb

theorem buildFastTx_inv (hi : MeshInv s) {now : BitVec 64} {skb : FastTxSkb} {mpath : Nat}
    {mppath : Option Nat} {addr : EthAddr}
    (hpath : ∃ path sta, s.meshPaths.mem mpath = some path ∧ path.nextHop = some sta ∧
      s.stas sta = some skb.hdr.addr1)
    (hmpp : ∀ m ∈ mppath, ∃ mpp, s.mppPaths.mem m = some mpp ∧ mpp.dst = addr) :
    MeshInv (s.buildFastTx now skb mpath mppath addr) := by
  unfold MeshState.buildFastTx
  split
  · exact hi
  · exact insertFastTx_inv hi ⟨hpath, hmpp⟩ skb.alloc

/-- **`mesh_fast_tx_cache`**, for a frame that has the address of the next hop. -/
theorem meshFastTxCache_inv (hi : MeshInv s) {now : BitVec 64} {skb : FastTxSkb} {mpath : Nat}
    (hpath : ∃ path sta, s.meshPaths.mem mpath = some path ∧ path.nextHop = some sta ∧
      s.stas sta = some skb.hdr.addr1) :
    MeshInv (s.meshFastTxCache k now skb mpath) := by
  unfold MeshState.meshFastTxCache
  split
  · exact hi
  · split
    · exact hi
    · split
      · exact hi
      · rename_i path hp
        split
        · exact hi
        · split
          · cases hl : s.mppPaths.lookup MeshPath.dst skb.eaddr1 with
            | none =>
              rw [mppPathLookup_none hl]
              exact hi
            | some m =>
              have hi1 := mppPathLookup_inv (k := k) hi now skb.eaddr1
              rw [mppPathLookup_some hl] at hi1 ⊢
              dsimp only at hi1 ⊢
              split
              · exact hi1
              · rename_i mpp hmpp
                split
                · exact hi1
                · have hi2 := hi1.modifyMpp m (f := fun mpath => { mpath with fastTxCheck := now })
                    (fun _ => rfl) fun _ => rfl
                  refine buildFastTx_inv hi2 hpath ?_
                  intro m' hm'
                  rw [Option.mem_some_iff] at hm'
                  subst hm'
                  exact ⟨_, Table.modify_self _ hmpp, rfl⟩
          · split
            · exact hi
            · split
              · exact hi
              · have hq : Quiet fun mpath => { mpath with fastTxCheck := now } :=
                  ⟨fun _ => rfl, fun _ => rfl, fun _ => rfl, fun _ h => h⟩
                refine buildFastTx_inv (hi.quiet mpath hq) ?_ nofun
                obtain ⟨p, sta, hp', hn, hs⟩ := hpath
                exact ⟨_, sta, Table.modify_self _ hp', hn, hs⟩

/-! ## Gates and new paths -/

theorem meshPathAddGate_inv (hi : MeshInv s) (a : Nat) : MeshInv (s.meshPathAddGate a).1 := by
  unfold MeshState.meshPathAddGate
  split
  · exact hi
  · rename_i path hp
    split
    · exact hi
    · rename_i hg
      exact hi.addGate hp (Bool.not_eq_true _ ▸ hg)

theorem meshPathAdd_cases (s : MeshState) (now : BitVec 64) (dst : EthAddr) (alloc : AllocResult) :
    (∃ n err, s.meshPathAdd now dst alloc = ({ s with mpaths := n }, .error err)) ∨
    (∃ a n, s.meshPaths.lookup MeshPath.dst dst = some a ∧
      s.meshPathAdd now dst alloc = ({ s with mpaths := n }, .ok a)) ∨
    (s.meshPaths.lookup MeshPath.dst dst = none ∧ s.meshPathAdd now dst alloc =
      ({ s with mpaths := s.mpaths + 1, meshPaths := s.meshPaths.add (meshPathNew now dst) },
        .ok s.meshPaths.next)) := by
  unfold MeshState.meshPathAdd
  split
  · exact .inl ⟨s.mpaths, _, rfl⟩
  · split
    · exact .inl ⟨s.mpaths, _, rfl⟩
    · split
      · exact .inl ⟨s.mpaths, _, rfl⟩
      · dsimp only
        split
        · exact .inl ⟨s.mpaths + 1, _, rfl⟩
        · cases h : s.meshPaths.lookup MeshPath.dst dst with
          | some a => exact .inr (.inl ⟨a, s.mpaths + 1, rfl, rfl⟩)
          | none =>
            dsimp only
            split
            · exact .inr (.inr ⟨rfl, rfl⟩)
            · exact .inl ⟨s.mpaths + 1, _, rfl⟩

theorem meshPathAdd_inv (hi : MeshInv s) (now : BitVec 64) (dst : EthAddr) (alloc : AllocResult) :
    MeshInv (s.meshPathAdd now dst alloc).1 := by
  rcases meshPathAdd_cases s now dst alloc with ⟨n, err, h⟩ | ⟨a, n, _, h⟩ | ⟨hn, h⟩
  · rw [h]
    exact hi.setMpaths n
  · rw [h]
    exact hi.setMpaths n
  · rw [h]
    exact (hi.addPath hn rfl rfl rfl).setMpaths (s.mpaths + 1)

/-- What `mesh_path_add` returns is a path to the destination. -/
theorem meshPathAdd_live (hi : MeshInv s) {now : BitVec 64} {dst : EthAddr} {alloc : AllocResult}
    {a : Nat} (h : (s.meshPathAdd now dst alloc).2 = .ok a) :
    ∃ path, (s.meshPathAdd now dst alloc).1.meshPaths.mem a = some path ∧ path.dst = dst := by
  rcases meshPathAdd_cases s now dst alloc with ⟨n, err, he⟩ | ⟨b, n, hl, he⟩ | ⟨_, he⟩
  · rw [he] at h
    cases h
  · rw [he] at h ⊢
    cases h
    obtain ⟨path, hp, hd⟩ := hi.paths.lookup_eq_some.1 hl
    exact ⟨path, hp, hd⟩
  · rw [he] at h ⊢
    cases h
    exact ⟨meshPathNew now dst, (Table.add_mem ..).trans (if_pos rfl), rfl⟩

theorem meshPathAdd_frame (s : MeshState) (now : BitVec 64) (dst : EthAddr) (alloc : AllocResult) :
    (s.meshPathAdd now dst alloc).1.stas = s.stas ∧
      (s.meshPathAdd now dst alloc).1.vifAddr = s.vifAddr ∧
      (s.meshPathAdd now dst alloc).1.mppPaths = s.mppPaths := by
  rcases meshPathAdd_cases s now dst alloc with ⟨n, err, h⟩ | ⟨a, n, _, h⟩ | ⟨_, h⟩
  · rw [h]
    exact ⟨rfl, rfl, rfl⟩
  · rw [h]
    exact ⟨rfl, rfl, rfl⟩
  · rw [h]
    exact ⟨rfl, rfl, rfl⟩

theorem mppPathAdd_inv (hi : MeshInv s) (now : BitVec 64) (dst mpp : EthAddr) (alloc : AllocResult) :
    MeshInv (s.mppPathAdd now dst mpp alloc).1 := by
  unfold MeshState.mppPathAdd
  split
  · exact hi
  · split
    · exact hi
    · split
      · exact hi
      · cases h : s.mppPaths.lookup MeshPath.dst dst with
        | some a => exact hi
        | none =>
          dsimp only
          split
          · exact meshFastTxFlushAddr_inv
              (hi.addMpp h rfl) dst
          · exact hi

/-! ## Deletions -/

theorem meshPathDelEntry_inv (hi : MeshInv s) (a : Nat) : MeshInv (s.meshPathDelEntry a) := by
  unfold MeshState.meshPathDelEntry
  split
  · exact hi
  · rename_i path hp
    have hf : MeshInv (s.meshFastTxFlushMpath a) := hi.freeCacheIf _
    have hpaths : ((s.meshFastTxFlushMpath a).meshGateDel a path.isGate).meshPaths =
        s.meshPaths := by
      unfold MeshState.meshGateDel
      split <;> rfl
    dsimp only
    rw [hpaths]
    refine hf.removePath (a := a) _ hp ?_
    intro e entry he hm
    have hk := (hi.cache.removeIf_some.1 he).2
    rw [hm, beq_self_eq_true] at hk
    cases hk

theorem mppPathDelEntry_inv (hi : MeshInv s) (a : Nat) : MeshInv (s.mppPathDelEntry a) := by
  unfold MeshState.mppPathDelEntry
  split
  · exact hi
  · rename_i path hp
    obtain ⟨c, hc, hv, hsub⟩ := meshFastTxFlushAddr_spec hi path.dst
    have hg : path.isGate = false := hi.mppGate hp
    have hi1 : MeshInv { s with txCache := c } := hi.setCache hv fun he => hi.cached (hsub he).1
    dsimp only
    rw [hc, hg]
    refine hi1.removeMpp (a := a) ?_
    intro e entry he hm
    obtain ⟨he', hne⟩ := hsub he
    obtain ⟨mpp, hmpp, hd⟩ := (hi.cached he').mppath a hm
    rw [hp, Option.some.injEq] at hmpp
    exact hne (by rw [← hd, hmpp])

theorem meshPathDelIf_inv (hi : MeshInv s) (p : MeshPath → Bool) : MeshInv (s.meshPathDelIf p) := by
  refine List.foldlRecOn _ _ hi ?_
  intro s hi a _
  unfold MeshState.meshPathDelStep
  split
  · exact hi
  · split
    · exact meshPathDelEntry_inv hi a
    · exact hi

theorem mppPathDelIf_inv (hi : MeshInv s) (p : MeshPath → Bool) : MeshInv (s.mppPathDelIf p) := by
  refine List.foldlRecOn _ _ hi ?_
  intro s hi a _
  unfold MeshState.mppPathDelStep
  split
  · exact hi
  · split
    · exact mppPathDelEntry_inv hi a
    · exact hi

theorem meshPathDel_inv (hi : MeshInv s) (addr : EthAddr) : MeshInv (s.meshPathDel addr).1 := by
  have hf : MeshInv (s.mppFlushByProxy addr) := mppPathDelIf_inv hi _
  unfold MeshState.meshPathDel
  dsimp only
  split
  · exact hf
  · exact meshPathDelEntry_inv hf _

theorem meshPathExpire_inv (hi : MeshInv s) (now : BitVec 64) : MeshInv (s.meshPathExpire k now) :=
  mppPathDelIf_inv (meshPathDelIf_inv hi _) _

theorem meshPathFlushByIface_inv (hi : MeshInv s) : MeshInv s.meshPathFlushByIface :=
  mppPathDelIf_inv (meshPathDelIf_inv hi _) _

/-- What deleting a path does to the table of paths and to the counter. -/
theorem meshPathDelEntry_paths (s : MeshState) {a : Nat} {path : MeshPath}
    (h : s.meshPaths.mem a = some path) :
    (s.meshPathDelEntry a).meshPaths = s.meshPaths.remove a ∧
      (s.meshPathDelEntry a).mpaths = s.mpaths - 1 ∧
      (s.meshPathDelEntry a).mppPaths = s.mppPaths ∧ (s.meshPathDelEntry a).stas = s.stas ∧
      (s.meshPathDelEntry a).vifAddr = s.vifAddr := by
  unfold MeshState.meshPathDelEntry
  rw [h]
  unfold MeshState.meshGateDel
  dsimp only
  split <;> exact ⟨rfl, rfl, rfl, rfl, rfl⟩

/-- **The paths that a walk leaves.** -/
theorem meshPathDelIf_paths (s : MeshState) (p : MeshPath → Bool) :
    (s.meshPathDelIf p).meshPaths = s.meshPaths.removeIf p ∧
      (s.meshPathDelIf p).stas = s.stas := by
  unfold MeshState.meshPathDelIf Table.removeIf
  generalize s.meshPaths.walk = l
  induction l generalizing s with
  | nil => exact ⟨rfl, rfl⟩
  | cons a l ih =>
    rw [List.foldl_cons, List.foldl_cons]
    obtain ⟨h1, h2⟩ := ih (s.meshPathDelStep p a)
    rw [h1, h2]
    unfold Table.removeStep MeshState.meshPathDelStep
    cases h : s.meshPaths.mem a with
    | none => exact ⟨rfl, rfl⟩
    | some path =>
      obtain ⟨hd, _, _, hs, _⟩ := meshPathDelEntry_paths s h
      dsimp only
      split
      · rw [hd, hs]
        exact ⟨rfl, rfl⟩
      · exact ⟨rfl, rfl⟩

/-! ## Broken links and fixed paths -/

theorem meshPlinkBroken_inv (hi : MeshInv s) (sta : Nat) : MeshInv (s.meshPlinkBroken sta) := by
  refine List.foldlRecOn _ _ hi ?_
  intro s hi a _
  refine hi.quiet a ⟨?_, ?_, ?_, ?_⟩
  · intro path
    split <;> rfl
  · intro path
    split <;> rfl
  · intro path
    split <;> rfl
  · intro path hact
    split at hact
    · cases hact
    · exact hact

/-- A new next hop, with the cache entries of the path freed. -/
theorem MeshInv.assignFlush (hi : MeshInv s) {a sta : Nat} {path : MeshPath} {addr : EthAddr}
    {f : MeshPath → MeshPath} (hp : s.meshPaths.mem a = some path) (hsta : s.stas sta = some addr)
    (hdst : ∀ path, (f path).dst = path.dst) (hgate : ∀ path, (f path).isGate = path.isGate)
    (hnext : ∀ path, (f path).nextHop = some sta) :
    MeshInv ((s.modifyPath a f).meshFastTxFlushMpath a) := by
  refine hi.assign (c := s.txCache.removeIf fun entry => entry.mpath == a) hp hsta hdst hgate hnext
    (hi.cache.removeIf _) ?_
  intro e entry he
  obtain ⟨hold, hne⟩ := hi.cache.removeIf_some.1 he
  refine ⟨hold, ?_⟩
  intro hm
  rw [hm, beq_self_eq_true] at hne
  cases hne

theorem meshPathFixNexthop_inv (hi : MeshInv s) {a sta : Nat} {path : MeshPath} {addr : EthAddr}
    (hp : s.meshPaths.mem a = some path) (hsta : s.stas sta = some addr) :
    MeshInv (s.meshPathFixNexthop a sta) :=
  hi.assignFlush hp hsta (fun _ => rfl) (fun _ => rfl) fun _ => rfl

end Mac80211.Mesh
