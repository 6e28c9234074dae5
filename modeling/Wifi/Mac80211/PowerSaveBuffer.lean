import Wifi.Lib.Runs
import Wifi.Mac80211.PowerSave

/-!
# Power save: the count of held frames

* `Sta.held`, `State.held` — the frames in the queues of a station, and of all stations and interfaces.
* `Releases` — what an operation by which frames leave does to both counts.
* `purgeAcs_held`, `held_purge` — `purge_old_ps_buffers` frees one frame of each station, and counts the
  rest when the frames of a station are in one AC.
* `BufferOk` — the steps that keep the count.
-/

namespace Mac80211.PowerSave

def heldOf (buf : Ac → List Frame) : Int := ((List.finRange 4).map fun ac => ((buf ac).length : Int)).sum

/-- The frames in `ps_tx_buf` -/
def Sta.held (sta : Sta) : Int := heldOf sta.psTxBuf

theorem heldOf_eq (buf : Ac → List Frame) :
    heldOf buf = (buf 0).length + (buf 1).length + (buf 2).length + (buf 3).length := by
  simp [heldOf, List.finRange_succ, add_assoc]

theorem heldOf_nonneg (buf : Ac → List Frame) : 0 ≤ heldOf buf := by
  rw [heldOf_eq]
  omega

theorem heldOf_nil : heldOf (fun _ => []) = 0 := by decide

theorem heldOf_update (buf : Ac → List Frame) (ac : Ac) (q : List Frame) :
    heldOf (Function.update buf ac q) = heldOf buf - (buf ac).length + q.length := by
  rw [heldOf_eq, heldOf_eq]
  fin_cases ac <;> simp [Function.update] <;> omega

def OneAc (buf : Ac → List Frame) : Prop := ∀ ac ac', buf ac ≠ [] → buf ac' ≠ [] → ac = ac'

def State.bcHeld (c : Config) (ps : Nat → PsData) (i : Nat) : Int :=
  if c.hasPs i then ((ps i).bcBuf.length : Int) else 0

/-- The frames in `ps_tx_buf` of all stations and in `bc_buf` of all interfaces. -/
def State.held (c : Config) (s : State) : Int :=
  s.stas.sum Sta.held + (c.interfaces.map (State.bcHeld c s.ps)).sum

theorem Config.hasPs_of_ps {c : Config} {i j : Nat} (h : c.ps i = some j) :
    c.hasPs j = true ∧ j ∈ c.interfaces := by
  have hj : c.type j = .ap ∨ c.type j = .mesh := by
    unfold Config.ps at h
    cases ht : c.type i with
    | ap =>
      rw [ht, c.ap_bss i ht] at h
      cases h
      exact .inl ht
    | apVlan =>
      rw [ht] at h
      exact .inl (c.vlan_bss i j ht h)
    | mesh =>
      rw [ht] at h
      cases h
      exact .inr ht
    | other =>
      rw [ht] at h
      cases h
  refine ⟨?_, c.listed j hj⟩
  unfold Config.hasPs
  rcases hj with h | h <;> rw [h]

theorem Config.mem_of_hasPs {c : Config} {i : Nat} (h : c.hasPs i = true) : i ∈ c.interfaces := by
  unfold Config.hasPs at h
  cases ht : c.type i with
  | ap => exact c.listed i (.inl ht)
  | mesh => exact c.listed i (.inr ht)
  | apVlan => rw [ht] at h; cases h
  | other => rw [ht] at h; cases h

namespace State

variable (c : Config) (s : State)

theorem held_nonneg : 0 ≤ s.held c := by
  have h₁ : 0 ≤ s.stas.sum Sta.held := Roster.sum_nonneg _ fun a _ => heldOf_nonneg _
  have h₂ : 0 ≤ (c.interfaces.map (bcHeld c s.ps)).sum := by
    refine List.sum_nonneg fun x hx => ?_
    obtain ⟨i, -, rfl⟩ := List.mem_map.1 hx
    unfold bcHeld
    split <;> omega
  unfold held
  omega

@[simp]
theorem held_total (n : Int) : held c { s with totalPsBuffered := n } = s.held c := rfl

variable {s}

theorem held_setSta {a : Nat} (h : a ∈ s.stas.list) (sta : Sta) :
    (s.setSta a sta).held c = s.held c - (s.stas.get a).held + sta.held := by
  show (s.stas.set a sta).sum Sta.held + _ = s.stas.sum Sta.held + _ - _ + _
  rw [Roster.sum_set _ _ h]
  show _ + (c.interfaces.map (bcHeld c s.ps)).sum = _
  omega

theorem held_setSta_frame {a : Nat} {sta : Sta} (h : sta.psTxBuf = (s.stas.get a).psTxBuf) :
    (s.setSta a sta).held c = s.held c := by
  have hsta : sta.held = (s.stas.get a).held := congrArg heldOf h
  by_cases ha : a ∈ s.stas.list
  · rw [held_setSta c ha, hsta]
    omega
  · show (s.stas.set a sta).sum Sta.held + _ = _
    rw [Roster.sum_set_not_mem _ _ ha]
    rfl

@[simp]
theorem held_addStaPs (i : Nat) (d : Int) : (s.addStaPs i d).held c = s.held c := by
  show _ + _ = _ + _
  congr 2
  refine List.map_congr_left fun j _ => ?_
  show bcHeld c (Function.update s.ps i _) j = bcHeld c s.ps j
  unfold bcHeld
  by_cases hj : j = i
  · subst hj
    rw [Function.update_self]
  · rw [Function.update_of_ne hj]

theorem held_setBcBuf {i : Nat} (h : c.hasPs i = true) (q : List Frame) :
    (s.setBcBuf i q).held c = s.held c - (s.ps i).bcBuf.length + q.length := by
  have hbc : bcHeld c (s.setBcBuf i q).ps = Function.update (bcHeld c s.ps) i (q.length : Int) := by
    funext j
    show bcHeld c (Function.update s.ps i _) j = _
    by_cases hj : j = i
    · subst hj
      rw [Function.update_self]
      unfold bcHeld
      rw [if_pos h, Function.update_self]
    · rw [Function.update_of_ne hj]
      unfold bcHeld
      rw [Function.update_of_ne hj]
  have hi : bcHeld c s.ps i = (s.ps i).bcBuf.length := if_pos h
  have hsum : (c.interfaces.map fun j => Function.update (bcHeld c s.ps) i (q.length : Int) j).sum =
      (c.interfaces.map fun j => bcHeld c s.ps j).sum - bcHeld c s.ps i + q.length :=
    Roster.sum_map_update id c.nodup (Config.mem_of_hasPs h)
  simp only [← hbc, hi] at hsum
  show s.stas.sum Sta.held + (c.interfaces.map fun j => bcHeld c (s.setBcBuf i q).ps j).sum =
    s.stas.sum Sta.held + (c.interfaces.map fun j => bcHeld c s.ps j).sum - _ + _
  rw [hsum]
  omega

/-! ## Frames that leave -/

/-- Frames leave, and both counts go down by their number. -/
def Releases (s s' : State) : Prop :=
  s'.stas.list = s.stas.list ∧
    ∃ n : Nat, s'.totalPsBuffered = s.totalPsBuffered - n ∧ s'.held c = s.held c - n

theorem Releases.of_eq {s' : State} (hl : s'.stas.list = s.stas.list)
    (ht : s'.totalPsBuffered = s.totalPsBuffered) (hh : s'.held c = s.held c) : Releases c s s' :=
  ⟨hl, 0, by omega, by omega⟩

theorem Releases.refl : Releases c s s := .of_eq c rfl rfl rfl

variable {c}

theorem Releases.trans {s₁ s₂ : State} (h₁ : Releases c s s₁) (h₂ : Releases c s₁ s₂) :
    Releases c s s₂ := by
  obtain ⟨l₁, n₁, t₁, f₁⟩ := h₁
  obtain ⟨l₂, n₂, t₂, f₂⟩ := h₂
  exact ⟨l₂.trans l₁, n₁ + n₂, by omega, by omega⟩

variable (c)

theorem releases_setSta (a : Nat) (sta : Sta) (h : sta.psTxBuf = (s.stas.get a).psTxBuf) :
    Releases c s (s.setSta a sta) :=
  .of_eq c rfl rfl (held_setSta_frame c h)

theorem releases_addStaPs (i : Nat) (d : Int) : Releases c s (s.addStaPs i d) :=
  .of_eq c rfl rfl (held_addStaPs c i d)

theorem releases_sub {a : Nat} (ha : a ∈ s.stas.list) {sta : Sta} {n : Int} (hn : 0 ≤ n)
    (h : sta.held = (s.stas.get a).held - n) :
    Releases c s { s.setSta a sta with totalPsBuffered := s.totalPsBuffered - n } := by
  obtain ⟨m, rfl⟩ := Int.eq_ofNat_of_zero_le hn
  refine ⟨rfl, m, rfl, ?_⟩
  rw [held_total, held_setSta c ha, h]
  omega

theorem releases_wakeup {a : Nat} (ha : a ∈ s.stas.list) : Releases c s (s.staPsDeliverWakeup c a) := by
  unfold staPsDeliverWakeup
  dsimp only
  split
  · exact .refl c
  · rename_i i _
    refine Releases.trans (releases_sub c ha (heldOf_nonneg (s.stas.get a).psTxBuf) ?_)
      (releases_addStaPs c i (-1))
    show heldOf (fun _ => []) = heldOf (s.stas.get a).psTxBuf - heldOf (s.stas.get a).psTxBuf
    rw [heldOf_nil]
    omega

theorem releases_staPsEnd {a : Nat} (ha : a ∈ s.stas.list) : Releases c s (s.staPsEnd c a) := by
  unfold staPsEnd
  dsimp only
  split
  · exact releases_setSta c a _ rfl
  · refine Releases.trans ?_ (releases_wakeup c ha)
    exact releases_setSta c a _ rfl

theorem releases_staPsStart (a : Nat) : Releases c s (s.staPsStart c a) := by
  have h (i : Nat) : Releases c s ((s.addStaPs i 1).setSta a
      { s.stas.get a with psSta := true, wakeupDue := true }) := by
    refine Releases.trans (releases_addStaPs c i 1) ?_
    exact releases_setSta c a _ rfl
  unfold staPsStart
  dsimp only
  split
  · exact h _
  · exact h _
  · exact .refl c

theorem releases_staPsTransition {a : Nat} (ha : a ∈ s.stas.list) (start : Bool) :
    Releases c s (s.staPsTransition c a start) := by
  unfold staPsTransition
  dsimp only
  split
  · exact .refl c
  · split
    · exact releases_staPsStart c a
    · exact releases_staPsEnd c ha

theorem releases_mpsStaStatusUpdate {a : Nat} (ha : a ∈ s.stas.list) (m : MeshSta) :
    Releases c s (s.mpsStaStatusUpdate c a m) := by
  unfold mpsStaStatusUpdate
  dsimp only
  split_ifs
  · exact .refl c
  · exact .refl c
  · refine Releases.trans ?_ (releases_addStaPs c _ 1)
    exact releases_setSta c a _ rfl
  · exact releases_wakeup c ha

theorem releases_staBlockAwake (a : Nat) (block : Bool) : Releases c s (s.staBlockAwake a block) := by
  unfold staBlockAwake
  dsimp only
  split_ifs
  · exact releases_setSta c a _ rfl
  · exact .refl c
  · exact releases_setSta c a _ rfl
  · exact releases_setSta c a _ rfl
  · exact releases_setSta c a _ rfl

theorem releases_handleFilteredFrame (a : Nat) (ac : Ac) (skb : Frame) :
    Releases c s (s.handleFilteredFrame a ac skb) := by
  unfold handleFilteredFrame
  dsimp only
  split_ifs
  · exact releases_setSta c a _ rfl
  · exact .refl c

theorem releases_expireBufferedAc {a : Nat} (ha : a ∈ s.stas.list) (ac : Ac) (expired : Frame → Bool) :
    Releases c s (s.expireBufferedAc a ac expired) := by
  have hle : (((s.stas.get a).psTxBuf ac).dropWhile expired).length ≤ ((s.stas.get a).psTxBuf ac).length :=
    (List.dropWhile_suffix expired).length_le
  refine releases_sub c ha (by omega) ?_
  show heldOf (Function.update _ ac _) = heldOf _ - _
  rw [heldOf_update]
  omega

theorem dequeue_held : ∀ (n : Nat) (filtered held : List Frame),
    0 ≤ (dequeue n filtered held).2.2.2 ∧
      ((dequeue n filtered held).2.1.length : Int) = held.length - (dequeue n filtered held).2.2.2
  | 0, filtered, held => by simp [dequeue]
  | n + 1, skb :: filtered, held => by
    have ih := dequeue_held n filtered held
    simp only [dequeue]
    exact ih
  | n + 1, [], skb :: held => by
    have ih := dequeue_held n [] held
    simp only [dequeue, List.length_cons]
    omega
  | _ + 1, [], [] => by simp [dequeue]

theorem releases_takeAc {a : Nat} (ha : a ∈ s.stas.list) (ac : Ac) (n : Option Nat) :
    Releases c s (s.takeAc a ac n).1 := by
  obtain ⟨h0, hd⟩ := dequeue_held
    (n.getD (((s.stas.get a).txFiltered ac).length + ((s.stas.get a).psTxBuf ac).length))
    ((s.stas.get a).txFiltered ac) ((s.stas.get a).psTxBuf ac)
  refine releases_sub c ha h0 ?_
  show heldOf (Function.update _ ac _) = heldOf _ - _
  rw [heldOf_update, hd]
  omega

theorem releases_getFramesLoop {a : Nat} (ignored inDriver : Ac → Bool) : ∀ (acs : List Ac) {s : State}
    (n : Nat) (frames : List Frame) (release : Bool), a ∈ s.stas.list →
    Releases c s (getFramesLoop a ignored inDriver acs s n frames release).1
  | [], _, _, _, _, _ => .refl c
  | ac :: acs, s, n, frames, release, ha => by
    unfold getFramesLoop
    split
    · exact releases_getFramesLoop ignored inDriver acs n frames release ha
    · dsimp only
      generalize (release || (frames.isEmpty && inDriver ac)) = release'
      have hr : Releases c s
          (if release' = true then (s, ([] : List Frame), some n) else s.takeAc a ac (some n)).1 := by
        split
        · exact .refl c
        · exact releases_takeAc c ha ac (some n)
      generalize (if release' = true then (s, ([] : List Frame), some n) else s.takeAc a ac (some n)) = r at hr ⊢
      split
      · exact hr
      · exact hr.trans (releases_getFramesLoop ignored inDriver acs _ _ release' (hr.1 ▸ ha))

theorem releases_staPsGetFrames {a : Nat} (ha : a ∈ s.stas.list) (n : Nat) (ignored inDriver : Ac → Bool) :
    Releases c s (s.staPsGetFrames a n ignored inDriver).1 :=
  releases_getFramesLoop c ignored inDriver _ n [] false ha

theorem releases_mpsFrameDeliver {a : Nat} : ∀ (acs : List Ac) {s : State} (n : Option Nat)
    (frames : List Frame), a ∈ s.stas.list → Releases c s (mpsFrameDeliverLoop a acs s n frames).1
  | [], _, _, _, _ => .refl c
  | ac :: acs, s, n, frames, ha => by
    have hr := releases_takeAc c ha ac n
    exact hr.trans (releases_mpsFrameDeliver acs _ _ (hr.1 ▸ ha))

theorem releases_bcBuf {i : Nat} (h : c.hasPs i = true) {q : List Frame} {n : Nat}
    (hq : q.length + n = (s.ps i).bcBuf.length) :
    Releases c s { s.setBcBuf i q with totalPsBuffered := s.totalPsBuffered - n } := by
  refine ⟨rfl, n, rfl, ?_⟩
  rw [held_total, held_setBcBuf c h]
  omega

theorem releases_getBufferedBcLoop {i : Nat} (h : c.hasPs i = true) : ∀ (drops : Nat) {s : State},
    Releases c s (getBufferedBcLoop i drops s).1
  | drops, s => by
    unfold getBufferedBcLoop
    cases hq : (s.ps i).bcBuf with
    | nil => exact .refl c
    | cons skb q =>
      have hr : Releases c s { s.setBcBuf i q with totalPsBuffered := s.totalPsBuffered - 1 } :=
        releases_bcBuf c h (n := 1) (by rw [hq, List.length_cons])
      cases drops with
      | zero => exact hr
      | succ drops => exact hr.trans (releases_getBufferedBcLoop h drops)

theorem releases_getBufferedBc (i drops : Nat) : Releases c s (s.getBufferedBc c i drops).1 := by
  unfold getBufferedBc
  split
  · exact releases_getBufferedBcLoop c ‹_› drops
  · exact .refl c

theorem releases_stopBc (i : Nat) : Releases c s (s.stopBc c i) := by
  unfold stopBc
  split
  · exact releases_bcBuf c ‹_› (by simp)
  · exact .refl c

theorem releases_stopVlan (sdata : Nat) (own : Frame → Bool) : Releases c s (s.stopVlan c sdata own) := by
  unfold stopVlan
  split
  · rename_i i ht hb
    have hps : c.ps sdata = some i := by
      unfold Config.ps
      rw [ht]
      exact hb
    refine releases_bcBuf c (Config.hasPs_of_ps hps).1 ?_
    have := List.length_eq_length_filter_add (l := (s.ps i).bcBuf) own
    omega
  · exact .refl c

theorem releases_staDeliverPsFrames {a : Nat} (ha : a ∈ s.stas.list) (n : Nat)
    (ignored inDriver : Ac → Bool) : Releases c s (s.staDeliverPsFrames c a n ignored inDriver) := by
  have h₀ : Releases c s (s.setSta a { s.stas.get a with drvDeliverWk := false }) := releases_setSta c a _ rfl
  unfold staDeliverPsFrames
  dsimp only
  split_ifs
  · exact h₀.trans (releases_wakeup c ha)
  · refine h₀.trans (Releases.trans ?_ (releases_staPsGetFrames c ?_ n ignored inDriver))
    · exact releases_setSta c a _ rfl
    · exact ha
  · refine h₀.trans (Releases.trans ?_ (releases_staPsGetFrames c ?_ n ignored inDriver))
    · exact releases_setSta c a _ rfl
    · exact ha
  · exact h₀

theorem releases_staPoll {a : Nat} (ha : a ∈ s.stas.list) (uapsd : Bool) (n : Nat)
    (ignored inDriver : Ac → Bool) : Releases c s (s.staPoll a uapsd n ignored inDriver) := by
  unfold staPoll
  dsimp only
  split_ifs
  · exact releases_staPsGetFrames c ha n ignored inDriver
  · exact releases_setSta c a _ rfl
  · exact releases_setSta c a _ rfl

end State

end Mac80211.PowerSave
