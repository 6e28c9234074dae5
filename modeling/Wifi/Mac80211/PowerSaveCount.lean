import Wifi.Lib.Runs
import Wifi.Mac80211.PowerSave

/-!
# Power save: the count of sleeping stations

* `Sta.asleep`, `State.asleep` — a station is asleep, and their number on an interface.
* `Counted` — `num_sta_ps` is the number of stations whose wake-up is due, and these are asleep.
* `KeepsFlags` — operations on frames leave the flags and the counts.
* `CountOk` — the steps that keep the count; `numStaPs_counted` — every run of them.
-/

namespace Mac80211.PowerSave

open Runs

/-- `PS_STA` is set, or it woke up while `PS_DRIVER` or `PS_DELIVER` pends the delivery. -/
def Sta.asleep (sta : Sta) : Bool := sta.psSta || (sta.wakeupDue && (sta.psDriver || sta.psDeliver))

def weight (c : Config) (p : Sta → Bool) (i : Nat) (sta : Sta) : Int :=
  if c.ps sta.sdata = some i ∧ p sta = true then 1 else 0

/-- The stations of an interface that are asleep. -/
def State.asleep (c : Config) (s : State) (i : Nat) : Int := s.stas.sum (weight c Sta.asleep i)

/-- A station with `PS_STA` fell asleep, and one whose wake-up is due has a flag. -/
structure Sta.Valid (sta : Sta) : Prop where
  due : sta.psSta = true → sta.wakeupDue = true
  flag : sta.wakeupDue = true → sta.buffering = true

/-- `num_sta_ps` is the number of stations whose wake-up is due. -/
structure Counted (c : Config) (s : State) : Prop where
  num : ∀ i, (s.ps i).numStaPs = s.stas.sum (weight c Sta.wakeupDue i)
  valid : ∀ a ∈ s.stas.list, (s.stas.get a).Valid

theorem Sta.Valid.asleep_eq {sta : Sta} (h : sta.Valid) : sta.asleep = sta.wakeupDue := by
  have h₁ := h.due
  have h₂ := h.flag
  unfold Sta.buffering at h₂
  unfold Sta.asleep
  cases hs : sta.psSta <;> cases hw : sta.wakeupDue <;> simp_all

theorem Counted.asleep {c : Config} {s : State} (h : Counted c s) (i : Nat) :
    (s.ps i).numStaPs = s.asleep c i := by
  rw [h.num]
  refine (Roster.sum_congr _ fun a ha => ?_).symm
  unfold weight
  rw [(h.valid a ha).asleep_eq]

/-! ## Operations on frames -/

def Sta.flags (sta : Sta) : Nat × Bool × Bool × Bool × Bool :=
  (sta.sdata, sta.psSta, sta.psDriver, sta.psDeliver, sta.wakeupDue)

theorem weight_congr {c : Config} {sta sta' : Sta} (h : sta'.flags = sta.flags) (i : Nat) :
    weight c Sta.wakeupDue i sta' = weight c Sta.wakeupDue i sta := by
  simp only [Sta.flags, Prod.mk.injEq] at h
  obtain ⟨h₁, -, -, -, h₅⟩ := h
  unfold weight
  rw [h₁, h₅]

theorem Sta.Valid.congr {sta sta' : Sta} (hv : sta.Valid) (h : sta'.flags = sta.flags) : sta'.Valid := by
  simp only [Sta.flags, Prod.mk.injEq] at h
  obtain ⟨-, h₂, h₃, h₄, h₅⟩ := h
  refine ⟨?_, ?_⟩
  · rw [h₂, h₅]
    exact hv.due
  · unfold Sta.buffering
    rw [h₂, h₃, h₄, h₅]
    exact hv.flag

def KeepsFlags (s s' : State) : Prop :=
  s'.stas.list = s.stas.list ∧ (∀ a, (s'.stas.get a).flags = (s.stas.get a).flags) ∧
    ∀ i, (s'.ps i).numStaPs = (s.ps i).numStaPs

namespace KeepsFlags

variable {s s₁ s₂ : State}

theorem refl : KeepsFlags s s := ⟨rfl, fun _ => rfl, fun _ => rfl⟩

theorem trans (h₁ : KeepsFlags s s₁) (h₂ : KeepsFlags s₁ s₂) : KeepsFlags s s₂ :=
  ⟨h₂.1.trans h₁.1, fun a => (h₂.2.1 a).trans (h₁.2.1 a), fun i => (h₂.2.2 i).trans (h₁.2.2 i)⟩

theorem setSta (a : Nat) (sta : Sta) (n : Int) (h : sta.flags = (s.stas.get a).flags) :
    KeepsFlags s { s.setSta a sta with totalPsBuffered := n } := by
  refine ⟨rfl, fun b => ?_, fun _ => rfl⟩
  show ((s.stas.set a sta).get b).flags = _
  by_cases hb : b = a
  · rw [hb, Roster.get_set_self, h]
  · rw [Roster.get_set_ne _ _ hb]

theorem setBcBuf (i : Nat) (q : List Frame) (n : Int) :
    KeepsFlags s { s.setBcBuf i q with totalPsBuffered := n } := by
  refine ⟨rfl, fun _ => rfl, fun j => ?_⟩
  show (Function.update s.ps i _ j).numStaPs = _
  by_cases hj : j = i
  · rw [hj, Function.update_self]
  · rw [Function.update_of_ne hj]

theorem purgeIfFull (c : Config) : KeepsFlags s (s.purgeIfFull c) := by
  unfold State.purgeIfFull
  split
  · refine ⟨rfl, fun _ => rfl, fun i => ?_⟩
    unfold State.purgeOldPsBuffers
    dsimp only
    split <;> rfl
  · exact refl

theorem multicastPsBuf (c : Config) (sdata : Nat) (skb : Frame) (plain : Bool) :
    KeepsFlags s (s.multicastPsBuf c sdata skb plain).1 := by
  unfold State.multicastPsBuf
  split
  · exact refl
  · split_ifs
    · exact refl
    · exact refl
    · exact refl
    · dsimp only
      split
      · exact (purgeIfFull c).trans (setBcBuf _ _ _)
      · exact (purgeIfFull c).trans (setBcBuf _ _ _)

theorem unicastPsBuf (c : Config) (a : Nat) (ac : Ac) (skb : Frame) (noPsBuffer awake : Bool) :
    KeepsFlags s (s.unicastPsBuf c a ac skb noPsBuffer awake).1 := by
  unfold State.unicastPsBuf
  split
  · dsimp only
    split_ifs
    · exact purgeIfFull c
    · refine (purgeIfFull c).trans ?_
      exact setSta a _ _ rfl
    · refine (purgeIfFull c).trans ?_
      exact setSta a _ _ rfl
  · exact refl

theorem handleFilteredFrame (a : Nat) (ac : Ac) (skb : Frame) :
    KeepsFlags s (s.handleFilteredFrame a ac skb) := by
  unfold State.handleFilteredFrame
  dsimp only
  split_ifs
  · exact setSta a _ _ rfl
  · exact refl

theorem expireBufferedAc (a : Nat) (ac : Ac) (expired : Frame → Bool) :
    KeepsFlags s (s.expireBufferedAc a ac expired) := by
  unfold State.expireBufferedAc
  exact setSta a _ _ rfl

theorem takeAc (a : Nat) (ac : Ac) (n : Option Nat) : KeepsFlags s (s.takeAc a ac n).1 :=
  setSta a _ _ rfl

theorem getFramesLoop (a : Nat) (ignored inDriver : Ac → Bool) : ∀ (acs : List Ac) {s : State} (n : Nat)
    (frames : List Frame) (release : Bool),
    KeepsFlags s (State.getFramesLoop a ignored inDriver acs s n frames release).1
  | [], _, _, _, _ => refl
  | ac :: acs, s, n, frames, release => by
    unfold State.getFramesLoop
    split
    · exact getFramesLoop a ignored inDriver acs n frames release
    · dsimp only
      generalize (release || (frames.isEmpty && inDriver ac)) = release'
      have hr : KeepsFlags s
          (if release' = true then (s, ([] : List Frame), some n) else s.takeAc a ac (some n)).1 := by
        split
        · exact refl
        · exact takeAc a ac (some n)
      generalize (if release' = true then (s, ([] : List Frame), some n) else s.takeAc a ac (some n)) = r at hr ⊢
      split
      · exact hr
      · exact hr.trans (getFramesLoop a ignored inDriver acs _ _ release')

theorem staPsGetFrames (a n : Nat) (ignored inDriver : Ac → Bool) :
    KeepsFlags s (s.staPsGetFrames a n ignored inDriver).1 :=
  getFramesLoop a ignored inDriver _ n [] false

theorem mpsFrameDeliver (a : Nat) : ∀ (acs : List Ac) {s : State} (n : Option Nat) (frames : List Frame),
    KeepsFlags s (State.mpsFrameDeliverLoop a acs s n frames).1
  | [], _, _, _ => refl
  | ac :: acs, _, n, _ => (takeAc a ac n).trans (mpsFrameDeliver a acs _ _)

theorem getBufferedBcLoop (i : Nat) : ∀ (drops : Nat) {s : State},
    KeepsFlags s (State.getBufferedBcLoop i drops s).1
  | drops, s => by
    unfold State.getBufferedBcLoop
    cases (s.ps i).bcBuf with
    | nil => exact refl
    | cons skb q =>
      cases drops with
      | zero => exact setBcBuf i q _
      | succ drops => exact (setBcBuf i q _).trans (getBufferedBcLoop i drops)

theorem getBufferedBc (c : Config) (i drops : Nat) : KeepsFlags s (s.getBufferedBc c i drops).1 := by
  unfold State.getBufferedBc
  split
  · exact getBufferedBcLoop i drops
  · exact refl

theorem stopBc (c : Config) (i : Nat) : KeepsFlags s (s.stopBc c i) := by
  unfold State.stopBc
  split
  · exact setBcBuf i [] _
  · exact refl

theorem stopVlan (c : Config) (sdata : Nat) (own : Frame → Bool) : KeepsFlags s (s.stopVlan c sdata own) := by
  unfold State.stopVlan
  split
  · exact setBcBuf _ _ _
  · exact refl

theorem staPoll (a : Nat) (uapsd : Bool) (n : Nat) (ignored inDriver : Ac → Bool) :
    KeepsFlags s (s.staPoll a uapsd n ignored inDriver) := by
  unfold State.staPoll
  dsimp only
  split_ifs
  · exact staPsGetFrames a n ignored inDriver
  · exact setSta a _ _ rfl
  · exact setSta a _ _ rfl

theorem counted {c : Config} {s' : State} (h : KeepsFlags s s') (hc : Counted c s) : Counted c s' := by
  obtain ⟨hl, hf, hn⟩ := h
  refine ⟨fun i => ?_, fun a ha => (hc.valid a (hl ▸ ha)).congr (hf a)⟩
  rw [hn, hc.num]
  unfold Roster.sum
  rw [hl]
  exact congrArg List.sum (List.map_congr_left fun a _ => (weight_congr (hf a) i).symm)

end KeepsFlags

end Mac80211.PowerSave

/-!
## Power save: the count of sleeping stations over whole runs

* `Counted.write`, `Counted.removed` — a station changes or leaves, and the count follows.
* `wakeup_counted`, `staPsTransition_counted`, … — one lemma for each operation on the flags.
* `CountOk` — the steps that keep the count: no second sleep before the wake-up is delivered, no wake-up
  of a mesh station, no delivery or removal that is not due.
* `numStaPs_counted` — every run of such steps.
-/

namespace Mac80211.PowerSave

open Runs

variable {c : Config} {s s' : State} {a : Nat}

theorem addStaPs_num (s : State) (i j : Nat) (d : Int) :
    ((s.addStaPs i d).ps j).numStaPs = (s.ps j).numStaPs + if j = i then d else 0 := by
  show (Function.update s.ps i _ j).numStaPs = _
  by_cases hj : j = i
  · subst hj
    rw [Function.update_self, if_pos rfl]
  · rw [Function.update_of_ne hj, if_neg hj, add_zero]

theorem weight_some {sta : Sta} {i : Nat} (h : c.ps sta.sdata = some i) (j : Nat) :
    weight c Sta.wakeupDue j sta = if j = i ∧ sta.wakeupDue = true then 1 else 0 := by
  unfold weight
  rw [h]
  by_cases hj : j = i
  · rw [hj]
    simp
  · rw [if_neg fun hc => hj (Option.some.inj hc.1).symm, if_neg fun hc => hj hc.1]

theorem weight_none {sta : Sta} (h : c.ps sta.sdata = none) (j : Nat) : weight c Sta.wakeupDue j sta = 0 :=
  if_neg fun hc => by rw [h] at hc; cases hc.1

theorem weight_not_due {sta : Sta} (h : sta.wakeupDue = false) (j : Nat) : weight c Sta.wakeupDue j sta = 0 :=
  if_neg fun hc => by rw [h] at hc; cases hc.2

/-- **A station changes**, and the counts by the change of its weight. -/
theorem Counted.write (h : Counted c s) (ha : a ∈ s.stas.list) {sta : Sta} {d : Nat → Int}
    (hs : s'.stas = s.stas.set a sta) (hn : ∀ i, (s'.ps i).numStaPs = (s.ps i).numStaPs + d i)
    (hd : ∀ i, weight c Sta.wakeupDue i sta = weight c Sta.wakeupDue i (s.stas.get a) + d i)
    (hv : sta.Valid) : Counted c s' := by
  refine ⟨fun i => ?_, fun b hb => ?_⟩
  · rw [hn, h.num, hs, Roster.sum_set _ _ ha, hd]
    omega
  · rw [hs] at hb ⊢
    by_cases hba : b = a
    · rw [hba, Roster.get_set_self]
      exact hv
    · rw [Roster.get_set_ne _ _ hba]
      exact h.valid b hb

theorem Counted.setSta (h : Counted c s) (ha : a ∈ s.stas.list) {sta : Sta}
    (hd : sta.sdata = (s.stas.get a).sdata) (hw : sta.wakeupDue = (s.stas.get a).wakeupDue)
    (hv : sta.Valid) : Counted c (s.setSta a sta) := by
  refine h.write ha rfl (d := fun _ => 0) (fun i => (add_zero _).symm) (fun i => ?_) hv
  unfold weight
  rw [hd, hw, add_zero]

/-- **A station leaves.** -/
theorem Counted.removed (h : Counted c s) (ha : a ∈ s.stas.list) (sta : Sta)
    (hs : s'.stas = (s.stas.set a sta).remove a)
    (hn : ∀ i, (s'.ps i).numStaPs = (s.ps i).numStaPs - weight c Sta.wakeupDue i (s.stas.get a)) :
    Counted c s' := by
  refine ⟨fun i => ?_, fun b hb => ?_⟩
  · rw [hn, h.num, hs, Roster.sum_remove (r := s.stas.set a sta) _ ha, Roster.sum_set _ _ ha,
      Roster.get_set_self]
    omega
  · rw [hs] at hb ⊢
    obtain ⟨hba, hb⟩ := (Roster.mem_remove _).1 hb
    show ((s.stas.set a sta).get b).Valid
    rw [Roster.get_set_ne _ _ hba]
    exact h.valid b hb

/-! ## One operation -/

theorem wakeup_counted (h : Counted c s) (ha : a ∈ s.stas.list) (hs : (s.stas.get a).psSta = false)
    (hd : c.ps (s.stas.get a).sdata ≠ none → (s.stas.get a).wakeupDue = true) :
    Counted c (s.staPsDeliverWakeup c a) := by
  unfold State.staPsDeliverWakeup
  dsimp only
  split
  · exact h
  · rename_i i hps
    have hdue := hd (by rw [hps]; exact Option.some_ne_none i)
    refine h.write ha rfl (fun j => addStaPs_num _ i j (-1)) (fun j => ?_) ⟨?_, nofun⟩
    · refine (weight_not_due rfl j).trans ?_
      rw [weight_some hps, hdue]
      by_cases hj : j = i <;> simp [hj]
    · intro hsta
      exact absurd hsta (by rw [hs]; exact Bool.false_ne_true)

theorem staPsEnd_counted (h : Counted c s) (ha : a ∈ s.stas.list) (hs : (s.stas.get a).psSta = true) :
    Counted c (s.staPsEnd c a) := by
  have hdue := (h.valid a ha).due hs
  unfold State.staPsEnd
  dsimp only
  split_ifs with hdriver
  · refine h.setSta ha rfl rfl ⟨nofun, fun _ => ?_⟩
    simp [Sta.buffering, hdriver]
  · have h₁ : Counted c (s.setSta a { s.stas.get a with psDeliver := true, psSta := false }) := by
      refine h.setSta ha rfl rfl ⟨nofun, fun _ => ?_⟩
      simp [Sta.buffering]
    refine wakeup_counted h₁ ha ?_ fun _ => ?_
    · rw [State.setSta, Roster.get_set_self]
    · rw [State.setSta, Roster.get_set_self]
      exact hdue

theorem sleep_counted (h : Counted c s) (ha : a ∈ s.stas.list) {i : Nat}
    (hps : c.ps (s.stas.get a).sdata = some i) (hd : (s.stas.get a).wakeupDue = false) :
    Counted c ((s.addStaPs i 1).setSta a { s.stas.get a with psSta := true, wakeupDue := true }) := by
  refine h.write ha rfl (fun j => addStaPs_num s i j 1) (fun j => ?_) ⟨fun _ => rfl, fun _ => rfl⟩
  rw [weight_not_due hd, weight_some (by exact hps)]
  by_cases hj : j = i <;> simp [hj]

theorem staPsStart_counted (h : Counted c s) (ha : a ∈ s.stas.list)
    (hd : (s.stas.get a).wakeupDue = false) : Counted c (s.staPsStart c a) := by
  unfold State.staPsStart
  dsimp only
  split
  · rename_i i ht hb
    refine sleep_counted h ha ?_ hd
    unfold Config.ps
    rw [ht]
    exact hb
  · rename_i i ht hb
    refine sleep_counted h ha ?_ hd
    unfold Config.ps
    rw [ht]
    exact hb
  · exact h

theorem staPsTransition_counted (h : Counted c s) (ha : a ∈ s.stas.list) {start : Bool}
    (hd : start = true → (s.stas.get a).psSta = false → (s.stas.get a).wakeupDue = false) :
    Counted c (s.staPsTransition c a start) := by
  unfold State.staPsTransition
  dsimp only
  split_ifs with hsame hstart
  · exact h
  · refine staPsStart_counted h ha (hd hstart ?_)
    simpa [hstart] using hsame
  · refine staPsEnd_counted h ha ?_
    simpa [hstart] using hsame

theorem mpsStaStatusUpdate_counted (h : Counted c s) (ha : a ∈ s.stas.list)
    (ht : c.type (s.stas.get a).sdata = .mesh) {m : State.MeshSta}
    (hd : m.assoc = true → (s.stas.get a).psSta ≠ m.doBuffer →
      m.doBuffer = true ∧ (s.stas.get a).wakeupDue = false) :
    Counted c (s.mpsStaStatusUpdate c a m) := by
  unfold State.mpsStaStatusUpdate
  dsimp only
  split_ifs with hassoc hsame hbuf
  · exact h
  · exact h
  · have hps : c.ps (s.stas.get a).sdata = some (s.stas.get a).sdata := by
      unfold Config.ps
      rw [ht]
    exact sleep_counted h ha hps (hd (by simpa using hassoc) hsame).2
  · exact absurd (hd (by simpa using hassoc) hsame).1 hbuf

theorem staBlockAwake_counted (h : Counted c s) (ha : a ∈ s.stas.list) (block : Bool) :
    Counted c (s.staBlockAwake a block) := by
  have hv := h.valid a ha
  unfold State.staBlockAwake
  dsimp only
  split_ifs with hblock hdriver hsta hpoll
  · exact h.setSta ha rfl rfl ⟨hv.due, fun _ => by simp [Sta.buffering]⟩
  · exact h
  · exact h.setSta ha rfl rfl ⟨hv.due, fun _ => by simp [Sta.buffering]⟩
  · exact h.setSta ha rfl rfl ⟨hv.due, fun _ => by simp_all [Sta.buffering]⟩
  · exact h.setSta ha rfl rfl ⟨hv.due, fun _ => by simp_all [Sta.buffering]⟩

theorem staDeliverPsFrames_counted (h : Counted c s) (ha : a ∈ s.stas.list) {n : Nat}
    {ignored inDriver : Ac → Bool}
    (hd : (s.stas.get a).psSta = false → c.ps (s.stas.get a).sdata ≠ none →
      (s.stas.get a).wakeupDue = true) :
    Counted c (s.staDeliverPsFrames c a n ignored inDriver) := by
  have hv := h.valid a ha
  have h₁ : Counted c (s.setSta a { s.stas.get a with drvDeliverWk := false }) :=
    h.setSta ha rfl rfl ⟨hv.due, hv.flag⟩
  have hget : ((s.setSta a { s.stas.get a with drvDeliverWk := false }).stas.get a) =
      { s.stas.get a with drvDeliverWk := false } := Roster.get_set_self ..
  unfold State.staDeliverPsFrames
  dsimp only
  rw [hget]
  split_ifs with hsta hpoll huapsd
  · have hsta : (s.stas.get a).psSta = false := by simpa using hsta
    refine wakeup_counted h₁ ha ?_ fun hps => ?_
    · rw [hget]
      exact hsta
    · rw [hget] at hps ⊢
      exact hd hsta hps
  · refine (KeepsFlags.staPsGetFrames a n ignored inDriver).counted ?_
    exact h₁.setSta ha (by rw [hget]) (by rw [hget]) ⟨hv.due, hv.flag⟩
  · refine (KeepsFlags.staPsGetFrames a n ignored inDriver).counted ?_
    exact h₁.setSta ha (by rw [hget]) (by rw [hget]) ⟨hv.due, hv.flag⟩
  · exact h₁

theorem insert_kept (h : Counted c s) (sdata : Nat) : Counted c (s.staInsert sdata) := by
  refine ⟨fun i => ?_, fun b hb => ?_⟩
  · show (s.ps i).numStaPs = (s.stas.add _).sum _
    rw [Roster.sum_add, weight_not_due rfl, add_zero]
    exact h.num i
  · show ((s.stas.add _).get b).Valid
    rcases (Roster.mem_add _).1 hb with hb | rfl
    · rw [Roster.get_add_mem _ _ hb]
      exact h.valid b hb
    · rw [Roster.get_add_self]
      exact ⟨nofun, nofun⟩

/-- A station with a flag leaves an interface with a `ps` when its wake-up is due. -/
def LeaveOk (c : Config) (s : State) (a : Nat) : Prop :=
  c.ps (s.stas.get a).sdata ≠ none → (s.stas.get a).buffering = true → (s.stas.get a).wakeupDue = true

theorem cleanupSingleSta_kept (h : Counted c s) (ha : a ∈ s.stas.list) (hok : LeaveOk c s a) :
    Counted c (s.cleanupSingleSta c a) := by
  unfold State.cleanupSingleSta State.cleanupSta
  dsimp only
  split_ifs with hbuf
  · split
    · rename_i hps
      refine h.removed ha (s.stas.get a) ?_ fun i => ?_
      · unfold Roster.set
        rw [Function.update_eq_self]
      · rw [weight_none hps, sub_zero]
    · rename_i i hps
      have hdue := hok (by rw [hps]; exact Option.some_ne_none i) hbuf
      refine h.removed ha { s.stas.get a with
        psSta := false, psDriver := false, psDeliver := false
        psTxBuf := fun _ => [], txFiltered := fun _ => [], drvDeliverWk := false } ?_ fun j => ?_
      · simp only [State.purgeSta, State.setSta, State.addStaPs, Roster.get_set_self]
        unfold Roster.set
        rw [Function.update_idem]
      · rw [weight_some hps, hdue]
        refine (addStaPs_num _ i j (-1)).trans ?_
        show (s.ps j).numStaPs + _ = _
        by_cases hj : j = i <;> simp [hj]
        rfl
  · have hdue : (s.stas.get a).wakeupDue = false := by
      by_contra hne
      exact hbuf ((h.valid a ha).flag (by simpa using hne))
    refine h.removed ha _ rfl fun i => ?_
    rw [weight_not_due hdue, sub_zero]
    rfl

theorem staExpire_kept (h : Counted c s) (ha : a ∈ s.stas.list) (hok : LeaveOk c s a)
    (hmesh : c.type (s.stas.get a).sdata = .mesh → (s.stas.get a).psSta = false) :
    Counted c (s.staExpire c a) := by
  unfold State.staExpire
  dsimp only
  rw [if_neg]
  · exact cleanupSingleSta_kept h ha hok
  · rintro ⟨ht, hs⟩
    rw [hmesh ht] at hs
    cases hs

/-! ## Whole runs -/

def CountOk (c : Config) (s : State) : Op → Prop
  | .transition a start =>
    start = true → (s.stas.get a).psSta = false → (s.stas.get a).wakeupDue = false
  | .statusUpdate a m =>
    m.assoc = true → (s.stas.get a).psSta ≠ m.doBuffer →
      m.doBuffer = true ∧ (s.stas.get a).wakeupDue = false
  | .deliverWork a _ _ _ =>
    (s.stas.get a).psSta = false → c.ps (s.stas.get a).sdata ≠ none → (s.stas.get a).wakeupDue = true
  | .remove a => LeaveOk c s a
  | .expire a => LeaveOk c s a ∧ (c.type (s.stas.get a).sdata = .mesh → (s.stas.get a).psSta = false)
  | _ => True

/-- **One step.** -/
theorem step_kept {op : Op} (h : Counted c s) (hs : Guarded (CountOk c) (Step c) s op s') :
    Counted c s' := by
  obtain ⟨hok, hs⟩ := hs
  cases op with
  | insert sdata => cases hs; exact insert_kept h sdata
  | transition a start =>
    obtain ⟨ha, rfl⟩ := step_guard hs
    exact staPsTransition_counted h ha hok
  | statusUpdate a m =>
    obtain ⟨⟨ha, ht⟩, rfl⟩ := step_guard hs
    exact mpsStaStatusUpdate_counted h ha ht hok
  | blockAwake a block =>
    obtain ⟨ha, rfl⟩ := step_guard hs
    exact staBlockAwake_counted h ha block
  | deliverWork a n ignored inDriver =>
    obtain ⟨⟨ha, -⟩, rfl⟩ := step_guard hs
    exact staDeliverPsFrames_counted h ha hok
  | poll a uapsd n ignored inDriver =>
    obtain ⟨-, rfl⟩ := step_guard hs
    exact (KeepsFlags.staPoll a uapsd n ignored inDriver).counted h
  | mpsDeliver a n =>
    obtain ⟨-, rfl⟩ := step_guard hs
    exact (KeepsFlags.mpsFrameDeliver a _ n []).counted h
  | multicast sdata skb plain => cases hs; exact (KeepsFlags.multicastPsBuf c sdata skb plain).counted h
  | unicast a ac skb noPsBuffer awake =>
    obtain ⟨-, rfl⟩ := step_guard hs
    exact (KeepsFlags.unicastPsBuf c a ac skb noPsBuffer awake).counted h
  | filtered a ac skb =>
    obtain ⟨-, rfl⟩ := step_guard hs
    exact (KeepsFlags.handleFilteredFrame a ac skb).counted h
  | expireFrames a ac expired =>
    obtain ⟨-, rfl⟩ := step_guard hs
    exact (KeepsFlags.expireBufferedAc a ac expired).counted h
  | bufferedBc i drops => cases hs; exact (KeepsFlags.getBufferedBc c i drops).counted h
  | stopBc i => cases hs; exact (KeepsFlags.stopBc c i).counted h
  | stopVlan sdata own => cases hs; exact (KeepsFlags.stopVlan c sdata own).counted h
  | remove a =>
    obtain ⟨ha, rfl⟩ := step_guard hs
    exact cleanupSingleSta_kept h ha hok
  | expire a =>
    obtain ⟨ha, rfl⟩ := step_guard hs
    exact staExpire_kept h ha hok.1 hok.2

theorem start_kept (h : NoStations s) : Counted c s := by
  obtain ⟨hl, hps, -⟩ := h
  refine ⟨fun i => ?_, fun a ha => ?_⟩
  · unfold Roster.sum
    rw [hps, hl]
    rfl
  · rw [hl] at ha
    cases ha

/-- A mesh station that is asleep is not woken by a step that keeps the count. -/
theorem statusUpdate_active {m : State.MeshSta} (hok : CountOk c s (.statusUpdate a m))
    (hs : Step c s (.statusUpdate a m) s') (hassoc : m.assoc = true) (hm : m.doBuffer = false) :
    (s'.stas.get a).psSta = false := by
  obtain ⟨-, rfl⟩ := step_guard hs
  have hsta : (s.stas.get a).psSta = m.doBuffer := by
    by_contra hne
    have := (hok hassoc hne).1
    rw [hm] at this
    cases this
  unfold State.mpsStaStatusUpdate
  rw [hassoc, if_neg (by decide), if_pos hsta, hsta, hm]

/-- **`num_sta_ps` is the number of stations that are asleep**, in every run of steps that keep it. -/
theorem numStaPs_counted (c : Config) (s : State)
    (h : Reachable NoStations (Guarded (CountOk c) (Step c)) s) :
    (∀ i, (s.ps i).numStaPs = s.asleep c i) ∧
      (∀ i, (∀ a ∈ s.stas.list, c.ps (s.stas.get a).sdata ≠ some i) → (s.ps i).numStaPs = 0) ∧
      ∀ a m s', Guarded (CountOk c) (Step c) s (.statusUpdate a m) s' → m.assoc = true →
        m.doBuffer = false → (s'.stas.get a).psSta = false := by
  have hc : Counted c s := h.invariant (fun _ => start_kept) fun _ _ _ => step_kept
  refine ⟨hc.asleep, fun i hi => ?_, fun a m s' hg => statusUpdate_active hg.1 hg.2⟩
  rw [hc.num]
  exact Roster.sum_eq_zero _ fun a ha => if_neg fun hw => hi a ha hw.1

def oneMesh : Config where
  interfaces := [0]
  type := fun i => if i = 0 then .mesh else .other
  bss := fun _ => none
  hostBroadcastPsBuffering := true
  nodup := nodup_one
  ap_bss := by
    intro i h
    by_cases hi : i = 0
    · rw [if_pos hi] at h; cases h
    · rw [if_neg hi] at h; cases h
  vlan_bss := nofun
  listed := by
    intro i h
    by_cases hi : i = 0
    · exact List.mem_singleton.2 hi
    · rw [if_neg hi] at h
      exact h.elim nofun nofun

def peerIn (pm : State.MeshPowerMode) : State.MeshSta :=
  { assoc := true, estab := true, peerPm := pm, nonpeerPm := .active }

def peerAsleep : State := (noStations.staInsert 0).mpsStaStatusUpdate oneMesh 0 (peerIn .lightSleep)

theorem numStaPs_counted_asleep :
    ((∀ i, (peerAsleep.ps i).numStaPs = peerAsleep.asleep oneMesh i) ∧
      (∀ i, (∀ a ∈ peerAsleep.stas.list, oneMesh.ps (peerAsleep.stas.get a).sdata ≠ some i) →
        (peerAsleep.ps i).numStaPs = 0) ∧
      ∀ a m s', Guarded (CountOk oneMesh) (Step oneMesh) peerAsleep (.statusUpdate a m) s' → m.assoc = true →
        m.doBuffer = false → (s'.stas.get a).psSta = false) ∧ (peerAsleep.ps 0).numStaPs = 1 := by
  refine ⟨numStaPs_counted oneMesh peerAsleep ?_, by decide⟩
  exact .next (i := .statusUpdate 0 (peerIn .lightSleep)) (.next (i := .insert 0)
    (.start noStations_start) ⟨trivial, rfl⟩) ⟨fun _ _ => ⟨rfl, rfl⟩, rfl⟩

/-- The peer becomes active: the count is 0, and the peer is still asleep. -/
theorem numStaPs_counted_active : ∃ s, Reachable NoStations (Step oneMesh) s ∧
    (s.ps 0).numStaPs = 0 ∧ s.asleep oneMesh 0 = 1 ∧ (s.stas.get 0).psSta = true :=
  ⟨peerAsleep.mpsStaStatusUpdate oneMesh 0 (peerIn .active),
    .next (i := .statusUpdate 0 (peerIn .active)) (.next (i := .statusUpdate 0 (peerIn .lightSleep))
      (.next (i := .insert 0) (.start noStations_start) rfl) rfl) rfl,
    by decide, by decide, by decide⟩

end Mac80211.PowerSave
