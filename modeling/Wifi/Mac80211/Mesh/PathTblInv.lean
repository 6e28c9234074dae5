import Wifi.Mac80211.Mesh.PathTbl

/-!
# The invariant of the path tables

* `CacheOk` — what a cache entry refers to.
* `MeshInv` — the tables and the cache are valid, the gates are the entries with a gate flag, next hops
  are there, and cache entries are up to date.
* `MeshInv.setCache`, `MeshInv.quiet`, `MeshInv.assign`, … — one lemma for each kind of write.
* `meshPathAdd_inv`, `meshPathDelEntry_inv`, … — the operations of `mesh_pathtbl.c`.
-/

namespace Mac80211.Mesh

open KeyedTable

/-- The path of a cache entry has a next hop, with the address in the cached header, and its proxy
    entry has the address of the key. -/
structure CacheOk (s : MeshState) (entry : FastTx) : Prop where
  mpath : ∃ path sta, s.meshPaths.mem entry.mpath = some path ∧ path.nextHop = some sta ∧
    s.stas sta = some entry.hdr.addr1
  mppath : ∀ m ∈ entry.mppath, ∃ mpp, s.mppPaths.mem m = some mpp ∧ mpp.dst = entry.key.addr

/-- **What holds between operations.** -/
structure MeshInv (s : MeshState) : Prop where
  paths : s.meshPaths.Valid MeshPath.dst
  mpps : s.mppPaths.Valid MeshPath.dst
  cache : s.txCache.Valid FastTx.key
  gate : ∀ {a}, a ∈ s.knownGates ↔ ∃ path, s.meshPaths.mem a = some path ∧ path.isGate = true
  gateNodup : s.knownGates.Nodup
  gateNum : s.numGates = s.knownGates.length
  mppGate : ∀ {a path}, s.mppPaths.mem a = some path → path.isGate = false
  nextHop : ∀ {a path sta}, s.meshPaths.mem a = some path → path.nextHop = some sta →
    ∃ addr, s.stas sta = some addr
  active : ∀ {a path}, s.meshPaths.mem a = some path → path.flags.active = true →
    path.nextHop ≠ none
  cached : ∀ {e entry}, s.txCache.mem e = some entry → CacheOk s entry

variable {s s' : MeshState}

/-! ## Kinds of writes -/

theorem MeshInv.setCache (hi : MeshInv s) {c : Table FastTx} (hv : c.Valid FastTx.key)
    (hok : ∀ {e entry}, c.mem e = some entry → CacheOk s entry) :
    MeshInv { s with txCache := c } :=
  { hi with
    cache := hv
    cached := fun he => ⟨(hok he).mpath, (hok he).mppath⟩ }

theorem MeshInv.freeCacheIf (hi : MeshInv s) (p : FastTx → Bool) : MeshInv (s.freeCacheIf p) :=
  hi.setCache (hi.cache.removeIf p) fun he => hi.cached (hi.cache.removeIf_some.1 he).1

theorem MeshInv.meshFastTxEntryFree (hi : MeshInv s) (e : Nat) :
    MeshInv (s.meshFastTxEntryFree e) := by
  refine hi.setCache (hi.cache.remove e) ?_
  intro b entry hb
  rw [Table.remove_mem] at hb
  split at hb
  · cases hb
  · exact hi.cached hb

/-- A write to a path that keeps its place, its gate flag and its next hop. -/
structure Quiet (f : MeshPath → MeshPath) : Prop where
  dst : ∀ path, (f path).dst = path.dst
  isGate : ∀ path, (f path).isGate = path.isGate
  nextHop : ∀ path, (f path).nextHop = path.nextHop
  active : ∀ path, (f path).flags.active = true → path.flags.active = true

theorem modify_some {t : MeshTable} {a b : Nat} {f : MeshPath → MeshPath} {path : MeshPath}
    (h : (t.modify a f).mem b = some path) :
    ∃ old, t.mem b = some old ∧ path = if b = a then f old else old := by
  rw [Table.modify_mem] at h
  by_cases hb : b = a
  · rw [if_pos hb, Option.map_eq_some_iff] at h
    obtain ⟨old, hold, rfl⟩ := h
    exact ⟨old, by rw [hb]; exact hold, (if_pos hb).symm⟩
  · rw [if_neg hb] at h
    exact ⟨path, h, (if_neg hb).symm⟩

theorem modify_of_some {t : MeshTable} (a : Nat) (f : MeshPath → MeshPath) {b : Nat} {path : MeshPath}
    (h : t.mem b = some path) : (t.modify a f).mem b = some (if b = a then f path else path) := by
  rw [Table.modify_mem]
  by_cases hb : b = a
  · rw [if_pos hb, if_pos hb, ← hb, h]
    rfl
  · rw [if_neg hb, if_neg hb]
    exact h

theorem Quiet.ite {f : MeshPath → MeshPath} (hf : Quiet f) (c : Prop) [Decidable c] (path : MeshPath) :
    (if c then f path else path).dst = path.dst ∧ (if c then f path else path).isGate = path.isGate ∧
      (if c then f path else path).nextHop = path.nextHop ∧
      ((if c then f path else path).flags.active = true → path.flags.active = true) := by
  split
  · exact ⟨hf.dst path, hf.isGate path, hf.nextHop path, hf.active path⟩
  · exact ⟨rfl, rfl, rfl, id⟩

theorem MeshInv.quiet (hi : MeshInv s) (a : Nat) {f : MeshPath → MeshPath} (hf : Quiet f) :
    MeshInv (s.modifyPath a f) := by
  refine ⟨hi.paths.modify a hf.dst, hi.mpps, hi.cache, ?_, hi.gateNodup, hi.gateNum, hi.mppGate, ?_, ?_,
    ?_⟩
  · intro b
    have hg : b ∈ (s.modifyPath a f).knownGates ↔ b ∈ s.knownGates := Iff.rfl
    rw [hg, hi.gate]
    constructor
    · intro ⟨path, hp, hgate⟩
      exact ⟨_, modify_of_some a f hp, (hf.ite (b = a) path).2.1.trans hgate⟩
    · intro ⟨path, hp, hgate⟩
      obtain ⟨old, hold, rfl⟩ := modify_some hp
      exact ⟨old, hold, (hf.ite (b = a) old).2.1.symm.trans hgate⟩
  · intro b path sta hp hn
    obtain ⟨old, hold, rfl⟩ := modify_some hp
    exact hi.nextHop hold ((hf.ite (b = a) old).2.2.1.symm.trans hn)
  · intro b path hp hact
    obtain ⟨old, hold, rfl⟩ := modify_some hp
    rw [(hf.ite (b = a) old).2.2.1]
    exact hi.active hold ((hf.ite (b = a) old).2.2.2 hact)
  · intro e entry he
    obtain ⟨⟨path, sta, hp, hn, hs⟩, hm⟩ := hi.cached he
    exact ⟨⟨_, sta, modify_of_some a f hp, (hf.ite (entry.mpath = a) path).2.2.1.trans hn, hs⟩, hm⟩

theorem MeshInv.modifyMpp (hi : MeshInv s) (a : Nat) {f : MeshPath → MeshPath}
    (hdst : ∀ path, (f path).dst = path.dst) (hgate : ∀ path, (f path).isGate = path.isGate) :
    MeshInv (s.modifyMpp a f) := by
  refine { hi with mpps := hi.mpps.modify a hdst, mppGate := ?_, cached := ?_ }
  · intro b path hp
    obtain ⟨old, hold, rfl⟩ := modify_some hp
    split
    · rw [hgate]
      exact hi.mppGate hold
    · exact hi.mppGate hold
  · intro e entry he
    obtain ⟨hp, hm⟩ := hi.cached he
    refine ⟨hp, ?_⟩
    intro m hm'
    obtain ⟨mpp, hmpp, hd⟩ := hm m hm'
    refine ⟨_, modify_of_some a f hmpp, ?_⟩
    split
    · exact (hdst mpp).trans hd
    · exact hd

/-- A new next hop, when cache entries of the path are freed or the next hop is the old one. -/
theorem MeshInv.assign (hi : MeshInv s) {a sta : Nat} {path : MeshPath} {addr : EthAddr}
    {f : MeshPath → MeshPath} {c : Table FastTx} (hp : s.meshPaths.mem a = some path)
    (hsta : s.stas sta = some addr) (hdst : ∀ path, (f path).dst = path.dst)
    (hgate : ∀ path, (f path).isGate = path.isGate) (hnext : ∀ path, (f path).nextHop = some sta)
    (hv : c.Valid FastTx.key) (hsub : ∀ {e entry}, c.mem e = some entry →
      s.txCache.mem e = some entry ∧ (entry.mpath = a → path.nextHop = some sta)) :
    MeshInv { s.modifyPath a f with txCache := c } := by
  refine ⟨hi.paths.modify a hdst, hi.mpps, hv, ?_, hi.gateNodup, hi.gateNum, hi.mppGate, ?_, ?_, ?_⟩
  · intro b
    have hg : b ∈ (s.modifyPath a f).knownGates ↔ b ∈ s.knownGates := Iff.rfl
    have hite : ∀ p : MeshPath, (if b = a then f p else p).isGate = p.isGate := by
      intro p
      split
      · exact hgate p
      · rfl
    rw [hg, hi.gate]
    constructor
    · intro ⟨p, hp, hg⟩
      exact ⟨_, modify_of_some a f hp, (hite p).trans hg⟩
    · intro ⟨p, hp, hg⟩
      obtain ⟨old, hold, rfl⟩ := modify_some hp
      exact ⟨old, hold, (hite old).symm.trans hg⟩
  · intro b p t hb hn
    obtain ⟨old, hold, rfl⟩ := modify_some hb
    split at hn
    · rw [hnext, Option.some.injEq] at hn
      exact ⟨addr, hn ▸ hsta⟩
    · exact hi.nextHop hold hn
  · intro b p hb hact
    obtain ⟨old, hold, rfl⟩ := modify_some hb
    split at hact
    · rename_i hba
      rw [if_pos hba, hnext]
      exact Option.some_ne_none sta
    · rename_i hba
      rw [if_neg hba]
      exact hi.active hold hact
  · intro e entry he
    obtain ⟨hold, hsame⟩ := hsub he
    obtain ⟨⟨p, t, hpt, hn, hs⟩, hm⟩ := hi.cached hold
    refine ⟨⟨_, t, modify_of_some a f hpt, ?_, hs⟩, hm⟩
    split
    · rename_i ha
      rw [ha, hp, Option.some.injEq] at hpt
      rw [hnext, ← hsame ha, hpt]
      exact hn
    · exact hn

theorem MeshInv.addPath (hi : MeshInv s) {path : MeshPath}
    (hnew : s.meshPaths.lookup MeshPath.dst path.dst = none) (hgate : path.isGate = false)
    (hnext : path.nextHop = none) (hact : path.flags.active = false) :
    MeshInv { s with meshPaths := s.meshPaths.add path } := by
  have hfresh : s.meshPaths.mem s.meshPaths.next = none := hi.paths.fresh (Nat.le_refl _)
  have hold : ∀ {b p}, s.meshPaths.mem b = some p → (s.meshPaths.add path).mem b = some p := by
    intro b p hb
    rw [Table.add_mem]
    split
    · rename_i h
      rw [h, hfresh] at hb
      cases hb
    · exact hb
  have hcase : ∀ {b p}, (s.meshPaths.add path).mem b = some p →
      p = path ∨ s.meshPaths.mem b = some p := by
    intro b p hb
    rw [Table.add_mem] at hb
    split at hb
    · exact .inl (Option.some.inj hb).symm
    · exact .inr hb
  refine { hi with paths := hi.paths.add hnew, gate := ?_, nextHop := ?_, active := ?_, cached := ?_ }
  · intro b
    rw [hi.gate]
    constructor
    · intro ⟨p, hp, hg⟩
      exact ⟨p, hold hp, hg⟩
    · intro ⟨p, hp, hg⟩
      rcases hcase hp with rfl | hp
      · rw [hgate] at hg
        cases hg
      · exact ⟨p, hp, hg⟩
  · intro b p t hb hn
    rcases hcase hb with rfl | hb
    · rw [hnext] at hn
      cases hn
    · exact hi.nextHop hb hn
  · intro b p hb ha
    rcases hcase hb with rfl | hb
    · rw [hact] at ha
      cases ha
    · exact hi.active hb ha
  · intro e entry he
    obtain ⟨⟨p, t, hp, hn, hs⟩, hm⟩ := hi.cached he
    exact ⟨⟨p, t, hold hp, hn, hs⟩, hm⟩

theorem MeshInv.addMpp (hi : MeshInv s) {path : MeshPath}
    (hnew : s.mppPaths.lookup MeshPath.dst path.dst = none) (hgate : path.isGate = false) :
    MeshInv { s with mppPaths := s.mppPaths.add path } := by
  have hfresh : s.mppPaths.mem s.mppPaths.next = none := hi.mpps.fresh (Nat.le_refl _)
  refine { hi with mpps := hi.mpps.add hnew, mppGate := ?_, cached := ?_ }
  · intro b p hb
    have hb' : (s.mppPaths.add path).mem b = some p := hb
    rw [Table.add_mem] at hb'
    split at hb'
    · rw [← Option.some.inj hb']
      exact hgate
    · exact hi.mppGate hb'
  · intro e entry he
    obtain ⟨hp, hm⟩ := hi.cached he
    refine ⟨hp, ?_⟩
    intro m hm'
    obtain ⟨mpp, hmpp, hd⟩ := hm m hm'
    refine ⟨mpp, ?_, hd⟩
    show (s.mppPaths.add path).mem m = some mpp
    rw [Table.add_mem]
    split
    · rename_i h
      rw [h, hfresh] at hmpp
      cases hmpp
    · exact hmpp

theorem MeshInv.setMpaths (hi : MeshInv s) (n : Int) : MeshInv { s with mpaths := n } :=
  { hi with cached := fun he => ⟨(hi.cached he).mpath, (hi.cached he).mppath⟩ }

theorem MeshInv.removePath (hi : MeshInv s) {a : Nat} {path : MeshPath} (n : Int)
    (hp : s.meshPaths.mem a = some path)
    (hfree : ∀ {e entry}, s.txCache.mem e = some entry → entry.mpath ≠ a) :
    MeshInv { s.meshGateDel a path.isGate with
      meshPaths := s.meshPaths.remove a, mpaths := n } := by
  have hcase : ∀ {b p}, (s.meshPaths.remove a).mem b = some p → b ≠ a ∧ s.meshPaths.mem b = some p := by
    intro b p hb
    rw [Table.remove_mem] at hb
    split at hb
    · cases hb
    · rename_i h
      exact ⟨h, hb⟩
  have hkeep : ∀ {b}, b ≠ a → (s.meshPaths.remove a).mem b = s.meshPaths.mem b := by
    intro b hb
    rw [Table.remove_mem, if_neg hb]
  have hstas : (s.meshGateDel a path.isGate).stas = s.stas := by
    unfold MeshState.meshGateDel
    split <;> rfl
  have hmpp : (s.meshGateDel a path.isGate).mppPaths = s.mppPaths := by
    unfold MeshState.meshGateDel
    split <;> rfl
  have hcache : (s.meshGateDel a path.isGate).txCache = s.txCache := by
    unfold MeshState.meshGateDel
    split <;> rfl
  have hgates : ∀ {b}, b ∈ (s.meshGateDel a path.isGate).knownGates ↔ b ≠ a ∧ b ∈ s.knownGates := by
    intro b
    unfold MeshState.meshGateDel
    split
    · exact hi.gateNodup.mem_erase_iff
    · rename_i hg
      constructor
      · intro hb
        refine ⟨?_, hb⟩
        intro hba
        obtain ⟨p, hp', hg'⟩ := hi.gate.1 hb
        rw [hba, hp, Option.some.injEq] at hp'
        rw [hp'] at hg
        exact hg hg'
      · exact fun hb => hb.2
  refine ⟨hi.paths.remove a, ?_, ?_, ?_, ?_, ?_, ?_, ?_, ?_, ?_⟩
  · rw [hmpp]
    exact hi.mpps
  · rw [hcache]
    exact hi.cache
  · intro b
    rw [hgates, hi.gate]
    constructor
    · intro ⟨hb, p, hp', hg⟩
      exact ⟨p, (hkeep hb).trans hp', hg⟩
    · intro ⟨p, hp', hg⟩
      exact ⟨(hcase hp').1, p, (hcase hp').2, hg⟩
  · unfold MeshState.meshGateDel
    split
    · exact hi.gateNodup.erase a
    · exact hi.gateNodup
  · unfold MeshState.meshGateDel
    split
    · rename_i hg
      have hmem : a ∈ s.knownGates := hi.gate.2 ⟨path, hp, hg⟩
      have hlen := List.length_erase_of_mem hmem
      have hpos := List.length_pos_of_mem hmem
      have hnum := hi.gateNum
      dsimp only
      omega
    · exact hi.gateNum
  · intro b p hb
    rw [hmpp] at hb
    exact hi.mppGate hb
  · intro b p t hb hn
    rw [hstas]
    exact hi.nextHop (hcase hb).2 hn
  · intro b p hb
    exact hi.active (hcase hb).2
  · intro e entry he
    rw [hcache] at he
    obtain ⟨⟨p, t, hp', hn, hs⟩, hm⟩ := hi.cached he
    refine ⟨⟨p, t, (hkeep (hfree he)).trans hp', hn, ?_⟩, ?_⟩
    · rw [hstas]
      exact hs
    · rw [hmpp]
      exact hm

/-- A proxy entry to which no cache entry refers leaves. -/
theorem MeshInv.removeMpp (hi : MeshInv s) {a : Nat}
    (hfree : ∀ {e entry}, s.txCache.mem e = some entry → entry.mppath ≠ some a) :
    MeshInv { s with mppPaths := s.mppPaths.remove a, mpaths := s.mpaths - 1 } := by
  refine { hi with mpps := hi.mpps.remove a, mppGate := ?_, cached := ?_ }
  · intro b p hb
    have hb' : (s.mppPaths.remove a).mem b = some p := hb
    rw [Table.remove_mem] at hb'
    split at hb'
    · cases hb'
    · exact hi.mppGate hb'
  · intro e entry he
    obtain ⟨hp, hm⟩ := hi.cached he
    refine ⟨hp, ?_⟩
    intro m hm'
    obtain ⟨mpp, hmpp, hd⟩ := hm m hm'
    refine ⟨mpp, ?_, hd⟩
    show (s.mppPaths.remove a).mem m = some mpp
    rw [Table.remove_mem, if_neg]
    · exact hmpp
    · intro h
      rw [← h] at hfree
      exact hfree he hm'

theorem MeshInv.addGate (hi : MeshInv s) {a : Nat} {path : MeshPath}
    (hp : s.meshPaths.mem a = some path) (hg : path.isGate = false) :
    MeshInv { s.modifyPath a fun path => { path with isGate := true } with
      numGates := s.numGates + 1, knownGates := a :: s.knownGates } := by
  have hnot : a ∉ s.knownGates := by
    intro hm
    obtain ⟨p, hp', hg'⟩ := hi.gate.1 hm
    rw [hp, Option.some.injEq] at hp'
    rw [← hp', hg] at hg'
    cases hg'
  have hsame : ∀ (c : Prop) [Decidable c] (p : MeshPath),
      (if c then { p with isGate := true } else p).nextHop = p.nextHop ∧
        (if c then { p with isGate := true } else p).flags = p.flags := by
    intro c _ p
    split <;> exact ⟨rfl, rfl⟩
  refine ⟨hi.paths.modify a fun _ => rfl, hi.mpps, hi.cache, ?_, List.nodup_cons.2 ⟨hnot, hi.gateNodup⟩,
    ?_, hi.mppGate, ?_, ?_, ?_⟩
  · intro b
    rw [List.mem_cons, hi.gate]
    constructor
    · rintro (rfl | ⟨p, hp', hg'⟩)
      · exact ⟨_, modify_of_some b _ hp, by rw [if_pos rfl]⟩
      · refine ⟨_, modify_of_some a _ hp', ?_⟩
        split
        · rfl
        · exact hg'
    · intro ⟨p, hp', hg'⟩
      obtain ⟨old, hold, rfl⟩ := modify_some hp'
      by_cases hb : b = a
      · exact .inl hb
      · rw [if_neg hb] at hg'
        exact .inr ⟨old, hold, hg'⟩
  · have hnum := hi.gateNum
    rw [List.length_cons]
    dsimp only
    omega
  · intro b p t hb hn
    obtain ⟨old, hold, rfl⟩ := modify_some hb
    rw [(hsame (b = a) old).1] at hn
    exact hi.nextHop hold hn
  · intro b p hb hact
    obtain ⟨old, hold, rfl⟩ := modify_some hb
    rw [(hsame (b = a) old).2] at hact
    rw [(hsame (b = a) old).1]
    exact hi.active hold hact
  · intro e entry he
    obtain ⟨⟨p, t, hp', hn, hs⟩, hm⟩ := hi.cached he
    exact ⟨⟨_, t, modify_of_some a _ hp', (hsame (entry.mpath = a) p).1.trans hn, hs⟩, hm⟩

end Mac80211.Mesh
