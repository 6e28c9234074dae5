import Wifi.Mac80211.PowerSaveBuffer

/-!
# Power save: the count over whole runs

* `purgeAcs_held`, `purgeAcs_count` — the loop over the queues of a station in `purge_old_ps_buffers`.
* `total_purge`, `held_purge_lt` — the count after a purge, and that a purge makes room.
* `BufferCounted` — `total_ps_buffered` is the number of frames that are held.
* `BufferOk` — the steps that keep it.
* `totalPsBuffered_counted` — every run of such steps.
-/

namespace Mac80211.PowerSave

open Runs

namespace State

/-! ## The purge -/

theorem heldOf_single {buf : Ac → List Frame} {ac : Ac} (h : ∀ ac', ac' ≠ ac → buf ac' = []) :
    heldOf buf = (buf ac).length := by
  have hbuf : buf = Function.update (fun _ => []) ac (buf ac) := by
    funext ac'
    by_cases hac : ac' = ac
    · rw [hac, Function.update_self]
    · rw [Function.update_of_ne hac, h ac' hac]
  rw [hbuf, heldOf_update, heldOf_nil, Function.update_self]
  simp

theorem purgeAcs_held (buf : Ac → List Frame) : ∀ acs : List Ac,
    heldOf (purgeAcs buf acs).1 = heldOf buf - (if ∀ ac ∈ acs, buf ac = [] then 0 else 1)
  | [] => by simp [purgeAcs]
  | ac :: acs => by
    unfold purgeAcs
    cases hq : buf ac with
    | nil => simpa [hq] using purgeAcs_held buf acs
    | cons skb rest =>
      simp only [List.forall_mem_cons, hq, reduceCtorEq, false_and, if_false, heldOf_update]
      rw [List.length_cons]
      omega

/-- **All frames that are left are counted when they are in one AC.** -/
theorem purgeAcs_count {buf : Ac → List Frame} (hone : OneAc buf) : ∀ {acs : List Ac},
    (∀ ac, ac ∉ acs → buf ac = []) → (purgeAcs buf acs).2 = heldOf (purgeAcs buf acs).1
  | [], hout => by
    have hnil : buf = fun _ => [] := funext fun ac => hout ac (List.not_mem_nil)
    rw [hnil]
    rfl
  | ac :: acs, hout => by
    unfold purgeAcs
    cases hq : buf ac with
    | nil =>
      refine purgeAcs_count hone fun ac' hac' => ?_
      by_cases h : ac' = ac
      · rw [h, hq]
      · exact hout ac' fun hmem => hac' ((List.mem_cons.1 hmem).resolve_left h)
    | cons skb rest =>
      have hothers : ∀ ac', ac' ≠ ac → (Function.update buf ac rest) ac' = [] := by
        intro ac' hne
        rw [Function.update_of_ne hne]
        by_contra hac'
        exact hne (hone ac' ac hac' (by simp [hq]))
      rw [heldOf_single hothers, Function.update_self]

theorem mem_purgeOrder (ac : Ac) : ac ∈ purgeOrder := by
  revert ac
  decide

variable {c : Config} {s : State}

theorem bcHeld_purge (i : Nat) :
    bcHeld c (s.purgeOldPsBuffers c).ps i = if c.hasPs i then (((s.ps i).bcBuf.drop 1).length : Int) else 0 := by
  unfold bcHeld purgeOldPsBuffers
  dsimp only
  split <;> rfl

/-- **The count after the purge**, for stations with frames in one AC. -/
theorem total_purge (h : ∀ a ∈ s.stas.list, OneAc (s.stas.get a).psTxBuf) :
    (s.purgeOldPsBuffers c).totalPsBuffered = (s.purgeOldPsBuffers c).held c := by
  have hbc : c.interfaces.map (bcHeld c (s.purgeOldPsBuffers c).ps) =
      c.interfaces.map fun i => if c.hasPs i then (((s.ps i).bcBuf.drop 1).length : Int) else 0 :=
    List.map_congr_left fun i _ => bcHeld_purge i
  have hstas : (s.purgeOldPsBuffers c).stas.sum Sta.held =
      s.stas.sum fun sta => (purgeAcs sta.psTxBuf purgeOrder).2 :=
    congrArg List.sum (List.map_congr_left fun a ha =>
      (purgeAcs_count (h a ha) fun ac hac => absurd (mem_purgeOrder ac) hac).symm)
  unfold held
  rw [hbc, hstas, add_comm]
  rfl

/-- The purge takes a frame of every station and of every interface that has one. -/
theorem held_purge_lt (h : 0 < s.held c) : (s.purgeOldPsBuffers c).held c < s.held c := by
  have hsta (a : Nat) : ((s.purgeOldPsBuffers c).stas.get a).held =
      (s.stas.get a).held - if ∀ ac ∈ purgeOrder, (s.stas.get a).psTxBuf ac = [] then 0 else 1 :=
    purgeAcs_held _ _
  have hle : ∀ a, ((s.purgeOldPsBuffers c).stas.get a).held ≤ (s.stas.get a).held := by
    intro a
    rw [hsta]
    split <;> omega
  have hbcle : ∀ i, bcHeld c (s.purgeOldPsBuffers c).ps i ≤ bcHeld c s.ps i := by
    intro i
    rw [bcHeld_purge]
    unfold bcHeld
    split
    · rw [List.length_drop]
      omega
    · exact le_refl _
  have hstas : (s.purgeOldPsBuffers c).stas.sum Sta.held ≤ s.stas.sum Sta.held :=
    List.sum_le_sum fun a _ => hle a
  have hifs : (c.interfaces.map (bcHeld c (s.purgeOldPsBuffers c).ps)).sum ≤
      (c.interfaces.map (bcHeld c s.ps)).sum :=
    List.sum_le_sum fun i _ => hbcle i
  unfold held at h ⊢
  by_cases hex : ∃ a ∈ s.stas.list, 0 < (s.stas.get a).held
  · obtain ⟨a, ha, hpos⟩ := hex
    have hlt : (s.purgeOldPsBuffers c).stas.sum Sta.held < s.stas.sum Sta.held := by
      refine List.sum_lt_sum _ _ (fun b _ => hle b) ⟨a, ha, ?_⟩
      rw [hsta, if_neg]
      · omega
      · intro hall
        have : (s.stas.get a).psTxBuf = fun _ => [] := funext fun ac => hall ac (mem_purgeOrder ac)
        rw [Sta.held, this, heldOf_nil] at hpos
        omega
    omega
  · have hzero : s.stas.sum Sta.held = 0 := by
      refine Roster.sum_eq_zero _ fun a ha => ?_
      have h₀ : 0 ≤ (s.stas.get a).held := heldOf_nonneg _
      have h₁ : ¬ 0 < (s.stas.get a).held := fun hpos => hex ⟨a, ha, hpos⟩
      omega
    have hifs_lt : (c.interfaces.map (bcHeld c (s.purgeOldPsBuffers c).ps)).sum <
        (c.interfaces.map (bcHeld c s.ps)).sum := by
      by_contra hnot
      have hall : ∀ i ∈ c.interfaces, bcHeld c s.ps i = 0 := by
        intro i hi
        by_contra hne
        refine hnot (List.sum_lt_sum _ _ (fun j _ => hbcle j) ⟨i, hi, ?_⟩)
        rw [bcHeld_purge]
        unfold bcHeld at hne ⊢
        split
        · rw [if_pos ‹_›] at hne
          rw [List.length_drop]
          omega
        · rw [if_neg ‹_›] at hne
          exact absurd rfl hne
      have hsum : (c.interfaces.map (bcHeld c s.ps)).sum = 0 := by
        rw [List.map_congr_left hall]
        simp
      omega
    omega

end State

/-! ## The invariant -/

/-- The count is the number of frames that are held, and the limit is kept. -/
structure BufferCounted (c : Config) (s : State) : Prop where
  total : s.totalPsBuffered = s.held c
  limit : s.held c ≤ TOTAL_MAX_TX_BUFFER

namespace BufferCounted

variable {c : Config} {s s' : State}

theorem releases (h : BufferCounted c s) (hr : State.Releases c s s') : BufferCounted c s' := by
  obtain ⟨-, n, ht, hh⟩ := hr
  have h₁ := h.total
  have h₂ := h.limit
  exact ⟨by omega, by omega⟩

theorem addSta (h : BufferCounted c s) (hlt : s.totalPsBuffered < TOTAL_MAX_TX_BUFFER) {a : Nat}
    (ha : a ∈ s.stas.list) {sta : Sta} (hsta : sta.held = (s.stas.get a).held + 1) :
    BufferCounted c { s with totalPsBuffered := s.totalPsBuffered + 1, stas := s.stas.set a sta } := by
  have h₁ := h.total
  have h₂ : ({ s with totalPsBuffered := s.totalPsBuffered + 1, stas := s.stas.set a sta } : State).held c =
      s.held c - (s.stas.get a).held + sta.held := State.held_setSta c ha sta
  refine ⟨?_, by omega⟩
  show s.totalPsBuffered + 1 = _
  omega

theorem addBc (h : BufferCounted c s) (hlt : s.totalPsBuffered < TOTAL_MAX_TX_BUFFER) {i : Nat}
    (hi : c.hasPs i = true) {q : List Frame} (hq : q.length = (s.ps i).bcBuf.length + 1) :
    BufferCounted c { s.setBcBuf i q with totalPsBuffered := s.totalPsBuffered + 1 } := by
  have h₁ := h.total
  have h₂ := State.held_setBcBuf c hi q (s := s)
  refine ⟨?_, ?_⟩
  · show s.totalPsBuffered + 1 = (s.setBcBuf i q).held c
    omega
  · show (s.setBcBuf i q).held c ≤ _
    omega

end BufferCounted

/-! ## The steps that keep it -/

/-- When the buffers are full, every station has its frames in one AC. -/
def PurgeOk (s : State) : Prop :=
  s.totalPsBuffered ≥ TOTAL_MAX_TX_BUFFER → ∀ a ∈ s.stas.list, OneAc (s.stas.get a).psTxBuf

/-- A station that leaves has no frames when it has a flag and an interface without `ps`. -/
def RemoveOk (c : Config) (s : State) (a : Nat) : Prop :=
  c.ps (s.stas.get a).sdata = none → (s.stas.get a).buffering = true → (s.stas.get a).held = 0

/-- The purge that is made for a frame finds every station with its frames in one AC, and `RemoveOk`. -/
def BufferOk (c : Config) (s : State) : Op → Prop
  | .multicast sdata _ plain =>
    ∀ i, c.ps sdata = some i → plain = true → ¬ ((s.ps i).numStaPs = 0 ∧ (s.ps i).bcBuf = []) →
      c.hostBroadcastPsBuffering = true → PurgeOk s
  | .unicast a _ _ noPsBuffer _ => (s.stas.get a).buffering = true → noPsBuffer = false → PurgeOk s
  | .remove a => RemoveOk c s a
  | .expire a => RemoveOk c s a
  | _ => True

variable {c : Config} {s s' : State}

theorem purgeIfFull_counted (h : BufferCounted c s) (hok : PurgeOk s) :
    BufferCounted c (s.purgeIfFull c) ∧ (s.purgeIfFull c).totalPsBuffered < TOTAL_MAX_TX_BUFFER := by
  have h₁ := h.total
  have h₂ := h.limit
  unfold State.purgeIfFull
  split
  · have ht := State.total_purge (c := c) (hok ‹_›)
    have hpos : 0 < s.held c := by
      unfold TOTAL_MAX_TX_BUFFER at *
      omega
    have hlt := State.held_purge_lt hpos
    exact ⟨⟨ht, by omega⟩, by omega⟩
  · exact ⟨h, by omega⟩

theorem multicast_counted (h : BufferCounted c s) {sdata : Nat} {skb : Frame} {plain : Bool}
    (hok : BufferOk c s (.multicast sdata skb plain)) :
    BufferCounted c (s.multicastPsBuf c sdata skb plain).1 := by
  unfold State.multicastPsBuf
  split
  · exact h
  · rename_i i hps
    split_ifs with hplain hnone hhost
    · exact h
    · exact h
    · exact h
    · obtain ⟨hcount, hlt⟩ := purgeIfFull_counted h
        (hok i hps (by simpa using hplain) hnone (by simpa using hhost))
      have hi := (Config.hasPs_of_ps hps).1
      dsimp only
      split
      · rename_i hfull
        unfold AP_MAX_BC_BUFFER at hfull
        refine hcount.releases (.of_eq c rfl rfl ?_)
        rw [State.held_setBcBuf c hi, List.length_append, List.length_drop, List.length_singleton]
        omega
      · exact hcount.addBc hlt hi (by simp)

theorem unicast_counted (h : BufferCounted c s) {a : Nat} (ha : a ∈ s.stas.list) {ac : Ac} {skb : Frame}
    {noPsBuffer awake : Bool} (hok : BufferOk c s (.unicast a ac skb noPsBuffer awake)) :
    BufferCounted c (s.unicastPsBuf c a ac skb noPsBuffer awake).1 := by
  unfold State.unicastPsBuf
  split
  · rename_i hbuf
    simp only [Bool.and_eq_true, Bool.not_eq_true'] at hbuf
    obtain ⟨hcount, hlt⟩ := purgeIfFull_counted h (hok hbuf.1 hbuf.2)
    have ha' : a ∈ (s.purgeIfFull c).stas.list := by
      unfold State.purgeIfFull
      split <;> exact ha
    dsimp only
    split_ifs with hawake hfull
    · exact hcount
    · unfold STA_MAX_TX_BUFFER at hfull
      refine hcount.releases (.of_eq c rfl rfl ?_)
      rw [State.held_setSta c ha', Sta.held, Sta.held, heldOf_update, List.length_append, List.length_drop,
        List.length_singleton]
      omega
    · refine hcount.addSta hlt ha' ?_
      rw [Sta.held, heldOf_update, List.length_append, List.length_singleton]
      show _ = heldOf _ + 1
      omega
  · exact h

theorem insert_counted (h : BufferCounted c s) (sdata : Nat) : BufferCounted c (s.staInsert sdata) := by
  have hheld : (s.staInsert sdata).held c = s.held c := by
    show (s.stas.add _).sum Sta.held + _ = _ + _
    rw [Roster.sum_add]
    show _ + heldOf (fun _ => []) + _ = _
    rw [heldOf_nil, add_zero]
    rfl
  refine ⟨?_, ?_⟩
  · rw [hheld]
    exact h.total
  · rw [hheld]
    exact h.limit

theorem purgeSta_releases {a : Nat} (ha : a ∈ s.stas.list) :
    State.Releases c s (s.purgeSta a) ∧ ((s.purgeSta a).stas.get a).held = 0 := by
  refine ⟨State.releases_sub c ha (heldOf_nonneg _) ?_, ?_⟩
  · show heldOf (fun _ => []) = heldOf (s.stas.get a).psTxBuf - heldOf (s.stas.get a).psTxBuf
    rw [heldOf_nil]
    omega
  · show (((s.stas.set a _)).get a).held = 0
    rw [Roster.get_set_self]
    exact heldOf_nil

theorem cleanupSta_releases {a : Nat} (ha : a ∈ s.stas.list) (hok : RemoveOk c s a) :
    State.Releases c s (s.cleanupSta c a) ∧ ((s.cleanupSta c a).stas.get a).held = 0 := by
  unfold State.cleanupSta
  dsimp only
  split_ifs with hbuf
  · split
    · exact ⟨.refl c, hok ‹_› hbuf⟩
    · rename_i i _
      have hflags : State.Releases c s ((s.setSta a { s.stas.get a with
          psSta := false, psDriver := false, psDeliver := false }).addStaPs i (-1)) := by
        refine State.Releases.trans ?_ (State.releases_addStaPs c i (-1))
        exact State.releases_setSta c a _ rfl
      obtain ⟨hr, hz⟩ := purgeSta_releases (c := c) (s := (s.setSta a { s.stas.get a with
        psSta := false, psDriver := false, psDeliver := false }).addStaPs i (-1)) ha
      exact ⟨hflags.trans hr, hz⟩
  · exact purgeSta_releases ha

theorem cleanupSingleSta_counted (h : BufferCounted c s) {a : Nat} (ha : a ∈ s.stas.list)
    (hok : RemoveOk c s a) : BufferCounted c (s.cleanupSingleSta c a) := by
  obtain ⟨hr, hz⟩ := cleanupSta_releases ha hok
  have hcount := h.releases hr
  have ha' : a ∈ (s.cleanupSta c a).stas.list := hr.1 ▸ ha
  have hheld : (s.cleanupSingleSta c a).held c = (s.cleanupSta c a).held c := by
    show ((s.cleanupSta c a).stas.remove a).sum Sta.held + _ = _ + _
    rw [Roster.sum_remove _ ha', hz, sub_zero]
    rfl
  refine ⟨?_, ?_⟩
  · rw [hheld]
    exact hcount.total
  · rw [hheld]
    exact hcount.limit

theorem expire_counted (h : BufferCounted c s) {a : Nat} (ha : a ∈ s.stas.list) (hok : RemoveOk c s a) :
    BufferCounted c (s.staExpire c a) := by
  unfold State.staExpire
  dsimp only
  split
  · exact cleanupSingleSta_counted (h.releases (State.releases_addStaPs c _ (-1))) ha hok
  · exact cleanupSingleSta_counted h ha hok

/-- **One step.** -/
theorem step_counted {op : Op} (h : BufferCounted c s) (hs : Guarded (BufferOk c) (Step c) s op s') :
    BufferCounted c s' := by
  obtain ⟨hok, hs⟩ := hs
  cases op with
  | insert sdata => cases hs; exact insert_counted h sdata
  | transition a start =>
    obtain ⟨ha, rfl⟩ := step_guard hs
    exact h.releases (State.releases_staPsTransition c ha start)
  | statusUpdate a m =>
    obtain ⟨⟨ha, -⟩, rfl⟩ := step_guard hs
    exact h.releases (State.releases_mpsStaStatusUpdate c ha m)
  | blockAwake a block =>
    obtain ⟨-, rfl⟩ := step_guard hs
    exact h.releases (State.releases_staBlockAwake c a block)
  | deliverWork a n ignored inDriver =>
    obtain ⟨⟨ha, -⟩, rfl⟩ := step_guard hs
    exact h.releases (State.releases_staDeliverPsFrames c ha n ignored inDriver)
  | poll a uapsd n ignored inDriver =>
    obtain ⟨ha, rfl⟩ := step_guard hs
    exact h.releases (State.releases_staPoll c ha uapsd n ignored inDriver)
  | mpsDeliver a n =>
    obtain ⟨ha, rfl⟩ := step_guard hs
    exact h.releases (State.releases_mpsFrameDeliver c _ n [] ha)
  | multicast sdata skb plain => cases hs; exact multicast_counted h hok
  | unicast a ac skb noPsBuffer awake =>
    obtain ⟨ha, rfl⟩ := step_guard hs
    exact unicast_counted h ha hok
  | filtered a ac skb =>
    obtain ⟨-, rfl⟩ := step_guard hs
    exact h.releases (State.releases_handleFilteredFrame c a ac skb)
  | expireFrames a ac expired =>
    obtain ⟨ha, rfl⟩ := step_guard hs
    exact h.releases (State.releases_expireBufferedAc c ha ac expired)
  | bufferedBc i drops => cases hs; exact h.releases (State.releases_getBufferedBc c i drops)
  | stopBc i => cases hs; exact h.releases (State.releases_stopBc c i)
  | stopVlan sdata own => cases hs; exact h.releases (State.releases_stopVlan c sdata own)
  | remove a =>
    obtain ⟨ha, rfl⟩ := step_guard hs
    exact cleanupSingleSta_counted h ha hok
  | expire a =>
    obtain ⟨ha, rfl⟩ := step_guard hs
    exact expire_counted h ha hok

theorem start_counted (h : NoStations s) : BufferCounted c s := by
  obtain ⟨hl, hps, ht⟩ := h
  have hheld : s.held c = 0 := by
    have hbc : ∀ i ∈ c.interfaces, State.bcHeld c s.ps i = 0 := by
      intro i _
      unfold State.bcHeld
      rw [hps]
      exact ite_self 0
    unfold State.held Roster.sum
    rw [hl, List.map_congr_left hbc]
    simp
  exact ⟨by omega, by rw [hheld]; decide⟩

/-- **`total_ps_buffered` is the number of frames that are held**, in every run of steps that keep it. -/
theorem totalPsBuffered_counted (c : Config) (s : State)
    (h : Reachable NoStations (Guarded (BufferOk c) (Step c)) s) :
    s.totalPsBuffered = s.held c ∧ 0 ≤ s.totalPsBuffered ∧ s.held c ≤ TOTAL_MAX_TX_BUFFER := by
  have hc : BufferCounted c s := h.invariant (fun _ => start_counted) fun _ _ _ => step_counted
  refine ⟨hc.total, ?_, hc.limit⟩
  rw [hc.total]
  exact s.held_nonneg c

def oneAp : Config where
  interfaces := [0]
  type := fun i => if i = 0 then .ap else .other
  bss := fun i => if i = 0 then some 0 else none
  hostBroadcastPsBuffering := true
  nodup := nodup_one
  ap_bss := by
    intro i h
    by_cases hi : i = 0
    · rw [if_pos hi, hi]
    · rw [if_neg hi] at h; cases h
  vlan_bss := by
    intro i j h
    by_cases hi : i = 0
    · rw [if_pos hi] at h; cases h
    · rw [if_neg hi] at h; cases h
  listed := by
    intro i h
    by_cases hi : i = 0
    · exact List.mem_singleton.2 hi
    · rw [if_neg hi] at h
      exact h.elim nofun nofun

/-- A station of the AP that is asleep, and a frame for it. -/
def oneFrame : State :=
  (((noStations.staInsert 0).staPsTransition oneAp 0 true).unicastPsBuf oneAp 0 IEEE80211_AC_BE 0 false false).1

theorem totalPsBuffered_counted_oneFrame :
    (oneFrame.totalPsBuffered = oneFrame.held oneAp ∧ 0 ≤ oneFrame.totalPsBuffered ∧
      oneFrame.held oneAp ≤ TOTAL_MAX_TX_BUFFER) ∧ oneFrame.totalPsBuffered = 1 := by
  refine ⟨totalPsBuffered_counted oneAp oneFrame ?_, by decide⟩
  refine .next (i := .unicast 0 IEEE80211_AC_BE 0 false false) (.next (i := .transition 0 true) (.next (i := .insert 0)
    (.start noStations_start) ⟨trivial, rfl⟩) ⟨trivial, rfl⟩) ⟨?_, rfl⟩
  intro _ _ hfull
  exact absurd hfull (by decide)

/-! ## A purge that does not count all frames -/

/-- A queue that was empty has `n` frames. -/
def State.filled (s : State) (a : Nat) (ac : Ac) (n : Nat) : State :=
  { s with
    stas := s.stas.set a { s.stas.get a with
      psTxBuf := Function.update (s.stas.get a).psTxBuf ac (List.replicate n 0) }
    totalPsBuffered := s.totalPsBuffered + n }

theorem unicast_filled {s : State} {a : Nat} {ac : Ac} {n : Nat} (hb : (s.stas.get a).buffering = true)
    (hn : n < STA_MAX_TX_BUFFER) (ht : s.totalPsBuffered + n < TOTAL_MAX_TX_BUFFER) :
    ((s.filled a ac n).unicastPsBuf c a ac 0 false false).1 = s.filled a ac (n + 1) := by
  have hget : (s.filled a ac n).stas.get a = { s.stas.get a with
      psTxBuf := Function.update (s.stas.get a).psTxBuf ac (List.replicate n 0) } :=
    Roster.get_set_self ..
  have hpurge : (s.filled a ac n).purgeIfFull c = s.filled a ac n :=
    if_neg (by show ¬ s.totalPsBuffered + n ≥ _; omega)
  have hbuf : ((s.filled a ac n).stas.get a).buffering = true := by
    rw [hget]
    exact hb
  unfold State.unicastPsBuf
  rw [hpurge, hbuf]
  simp only [hget, Bool.not_false, Bool.and_self, if_true, Bool.false_eq_true, if_false, Function.update_self,
    List.length_replicate, Function.update_idem]
  rw [if_neg (by omega)]
  unfold State.filled State.setSta Roster.set
  simp only [Function.update_idem, List.replicate_succ', Int.natCast_add, Int.natCast_one, add_assoc]

theorem reachable_filled (a : Nat) (ac : Ac) {s : State} (hr : Reachable NoStations (Step c) s)
    (ha : a ∈ s.stas.list) (hb : (s.stas.get a).buffering = true) (hq : (s.stas.get a).psTxBuf ac = []) :
    ∀ n : Nat, n ≤ STA_MAX_TX_BUFFER → s.totalPsBuffered + n ≤ TOTAL_MAX_TX_BUFFER →
      Reachable NoStations (Step c) (s.filled a ac n)
  | 0, _, _ => by
    have hzero : s.filled a ac 0 = s := by
      unfold State.filled Roster.set
      rw [List.replicate_zero, ← hq, Function.update_eq_self, Function.update_eq_self]
      simp
    rw [hzero]
    exact hr
  | n + 1, hn, ht => by
    have ih := reachable_filled a ac hr ha hb hq n (by omega) (by omega)
    refine ih.next (i := .unicast a ac 0 false false) ?_
    have ha' : a ∈ (s.filled a ac n).stas.list := ha
    rw [Step, State.next, if_pos ha', unicast_filled hb (by omega) (by omega)]

def twoAsleep : State :=
  (((noStations.staInsert 0).staInsert 0).staPsTransition oneAp 0 true).staPsTransition oneAp 1 true

def allFull : State :=
  (((((((twoAsleep.filled 0 IEEE80211_AC_VO 64).filled 0 IEEE80211_AC_VI 64).filled 0 IEEE80211_AC_BE 64).filled 0
    IEEE80211_AC_BK 64).filled 1 IEEE80211_AC_VO 64).filled 1 IEEE80211_AC_VI 64).filled 1 IEEE80211_AC_BE 64).filled 1
    IEEE80211_AC_BK 64

theorem allFull_reachable : Reachable NoStations (Step oneAp) allFull := by
  have h : Reachable NoStations (Step oneAp) twoAsleep :=
    .next (i := .transition 1 true) (.next (i := .transition 0 true) (.next (i := .insert 0)
      (.next (i := .insert 0) (.start noStations_start) rfl) rfl) rfl) rfl
  have h := reachable_filled 0 IEEE80211_AC_VO h (by decide) rfl rfl 64 (by decide) (by decide)
  have h := reachable_filled 0 IEEE80211_AC_VI h (by decide) rfl rfl 64 (by decide) (by decide)
  have h := reachable_filled 0 IEEE80211_AC_BE h (by decide) rfl rfl 64 (by decide) (by decide)
  have h := reachable_filled 0 IEEE80211_AC_BK h (by decide) rfl rfl 64 (by decide) (by decide)
  have h := reachable_filled 1 IEEE80211_AC_VO h (by decide) rfl rfl 64 (by decide) (by decide)
  have h := reachable_filled 1 IEEE80211_AC_VI h (by decide) rfl rfl 64 (by decide) (by decide)
  have h := reachable_filled 1 IEEE80211_AC_BE h (by decide) rfl rfl 64 (by decide) (by decide)
  exact reachable_filled 1 IEEE80211_AC_BK h (by decide) rfl rfl 64 (by decide) (by decide)

/-- The next frame: only the lowest AC of each station is counted by the purge. -/
theorem totalPsBuffered_counted_purge : ∃ s, Reachable NoStations (Step oneAp) s ∧
    s.totalPsBuffered = 127 ∧ s.held oneAp = 511 :=
  ⟨(allFull.unicastPsBuf oneAp 0 IEEE80211_AC_BK 0 false false).1,
    allFull_reachable.next (i := .unicast 0 IEEE80211_AC_BK 0 false false) rfl, by decide +kernel, by decide +kernel⟩

end Mac80211.PowerSave
