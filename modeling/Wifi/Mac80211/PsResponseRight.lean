import Mathlib
import Wifi.Mac80211.PsResponse

/-!
# What a response to a sleeping station releases (`linux/net/mac80211/sta_info.c`)

* `buffered` — the frames of the ACs that are not ignored, in the order of priority; `reachedTids` — the TIDs that the walk over the ACs
  finds at the driver.
* `getFrames_software`, `getFrames_driver` — what `ieee80211_sta_ps_get_frames` takes: the first frames, or none when there are such TIDs.
* `RespondsRight` — how many frames, which ones, one end of the service period, and the more-data bit.
* `responds_right_iff` — exactly when: the more-data bit leaves out what the driver has.
-/

namespace Mac80211.PsResponse

/-! ## What is buffered -/

/-- The frames of an AC, the filtered ones first. -/
def queued (sta : Sta) (ac : Ac) : List Frame := sta.txFiltered ac ++ sta.psTxBuf ac

/-- The frames of these ACs, but for those that are ignored. -/
def bufferedOf (ignoredAcs : BitVec 8) (sta : Sta) (acs : List Ac) : List Frame :=
  acs.flatMap fun ac => if ignores ignoredAcs ac then [] else queued sta ac

/-- **The frames of the ACs that are not ignored**, in the order of priority. -/
def buffered (ignoredAcs : BitVec 8) (sta : Sta) : List Frame := bufferedOf ignoredAcs sta (List.finRange 4)

/-- The TIDs of an AC for which the driver or a TXQ has frames. -/
def heldTids (sta : Sta) (ac : Ac) : BitVec 64 :=
  (sta.driverBufferedTids &&& tidsForAc ac) ||| (sta.txqBufferedTids &&& tidsForAc ac)

/-- The TIDs of the ACs up to the first one that has frames here. -/
def reachedTids (ignoredAcs : BitVec 8) (sta : Sta) : List Ac → BitVec 64
  | [] => 0
  | ac :: acs =>
    if ignores ignoredAcs ac then reachedTids ignoredAcs sta acs
    else heldTids sta ac ||| if queued sta ac = [] then reachedTids ignoredAcs sta acs else 0

/-- The driver or a TXQ has frames for an AC that is not ignored. -/
def HeldByDriver (ignoredAcs : BitVec 8) (sta : Sta) : Prop := ∃ ac, ignores ignoredAcs ac = false ∧ heldTids sta ac ≠ 0

/-- **Traffic for an AC that is not ignored is buffered**, here or at the driver. -/
def StillBuffered (ignoredAcs : BitVec 8) (sta : Sta) : Prop := buffered ignoredAcs sta ≠ [] ∨ HeldByDriver ignoredAcs sta

/-! ## What a response should be -/

/-- The frame ends the service period, and its status is requested. -/
def Frame.EndsPeriod (f : Frame) : Prop := f.eosp = true ∧ f.reqTxStatus = true

def Frame.hasMoreData (f : Frame) : Bool := f.fc &&& IEEE80211_FCTL_MOREDATA ≠ 0

/-- The driver is asked to release frames of its own. -/
def Response.FromDriver (resp : Response) : Prop :=
  ∃ tids num moreData, DriverCall.releaseBufferedFrames tids num moreData ∈ resp.calls

/-- **The response is right**: at most `n` frames, which are the first ones that are buffered, are sent in order; unless the driver releases
    frames, exactly one frame ends the service period, and it is the last one; and the last released data frame tells whether there is more. -/
structure RespondsRight (env : Env) (txq : List (Option Bool)) (sta : Sta) (nFrames : Nat) (ignoredAcs : BitVec 8) (reason : Reason) :
    Prop where
  bounded : (getFrames { sta with sp := true } nFrames ignoredAcs).2.1.length ≤ nFrames
  order : buffered ignoredAcs sta = (getFrames { sta with sp := true } nFrames ignoredAcs).2.1 ++
    buffered ignoredAcs (deliverResponse env txq sta nFrames ignoredAcs reason).sta
  ignored : ∀ ac, ignores ignoredAcs ac = true →
    queued (deliverResponse env txq sta nFrames ignoredAcs reason).sta ac = queued sta ac
  sent : ∃ null, null.length ≤ 1 ∧ (deliverResponse env txq sta nFrames ignoredAcs reason).sent.map Frame.id =
    (getFrames { sta with sp := true } nFrames ignoredAcs).2.1.map Frame.id ++ null
  ends : ¬ (deliverResponse env txq sta nFrames ignoredAcs reason).FromDriver →
    ∃ init last, (deliverResponse env txq sta nFrames ignoredAcs reason).sent = init ++ [last] ∧ last.EndsPeriod ∧
      ∀ f ∈ init, ¬ f.EndsPeriod
  moreData : ∀ init last rest, (deliverResponse env txq sta nFrames ignoredAcs reason).sent = init ++ last :: rest →
    init.length + 1 = (getFrames { sta with sp := true } nFrames ignoredAcs).2.1.length → last.fc.isData = true →
    (last.hasMoreData = true ↔ StillBuffered ignoredAcs (deliverResponse env txq sta nFrames ignoredAcs reason).sta)

/-! ## The condition -/

/-- A frame that cannot end the service period itself. -/
def Frame.NeedsNull (reason : Reason) (f : Frame) : Prop := reason = .uapsd ∧ hasQos f.fc = false

def Env.CanSend (env : Env) : Prop := env.alloc = true ∧ env.chanctx = true

/-- The service period is ended: **a null frame can be sent when it has to be**, and no frame before the last one ends it already. -/
def EndsCondition (env : Env) (reason : Reason) (frames : List Frame) : Prop :=
  (frames = [] → env.CanSend) ∧ ∀ init last, frames = init ++ [last] →
    (last.NeedsNull reason → (env.CanSend ↔ ¬ last.EndsPeriod)) ∧ ∀ f ∈ init, ¬ f.EndsPeriod

/-- The more-data bit is right: the last frame is no data frame; or, **when no frame is left here, the driver has none either**, and it has
    some when a null frame follows. -/
def MoreDataCondition (ignoredAcs : BitVec 8) (sta : Sta) (reason : Reason) (frames : List Frame) (left : Prop) : Prop :=
  ∀ init last, frames = init ++ [last] → last.fc.isData = true → ¬ left → (HeldByDriver ignoredAcs sta ↔ last.NeedsNull reason)

/-- **The condition**: the driver has frames for an AC up to the first one that has frames here; or both of these. -/
def ResponseCondition (env : Env) (sta : Sta) (nFrames : Nat) (ignoredAcs : BitVec 8) (reason : Reason) : Prop :=
  reachedTids ignoredAcs sta (List.finRange 4) ≠ 0 ∨
    (EndsCondition env reason ((buffered ignoredAcs sta).take nFrames) ∧
      MoreDataCondition ignoredAcs sta reason ((buffered ignoredAcs sta).take nFrames) (nFrames < (buffered ignoredAcs sta).length))

/-! ## Taking frames -/

/-- **The inner loop** takes the first frames of the two queues. -/
theorem takeFrames_spec (n : Nat) (filtered psBuf : List Frame) :
    (takeFrames n filtered psBuf).2.2.1 = (filtered ++ psBuf).take n ∧
      (takeFrames n filtered psBuf).1 ++ (takeFrames n filtered psBuf).2.1 = (filtered ++ psBuf).drop n ∧
      (takeFrames n filtered psBuf).2.2.2 = n - (filtered ++ psBuf).length := by
  induction n generalizing filtered psBuf with
  | zero => exact ⟨by simp [takeFrames], by simp [takeFrames], by simp [takeFrames]⟩
  | succ n ih =>
    cases filtered with
    | cons skb filtered =>
      obtain ⟨htaken, hleft, hcount⟩ := ih filtered psBuf
      refine ⟨?_, ?_, ?_⟩
      · simpa [takeFrames] using htaken
      · simpa [takeFrames] using hleft
      · simp only [takeFrames, hcount, List.length_append, List.length_cons]
        omega
    | nil =>
      cases psBuf with
      | nil => exact ⟨rfl, rfl, rfl⟩
      | cons skb psBuf =>
        obtain ⟨htaken, hleft, hcount⟩ := ih [] psBuf
        refine ⟨?_, ?_, ?_⟩
        · simpa [takeFrames] using htaken
        · simpa [takeFrames] using hleft
        · simp only [takeFrames, hcount, List.length_append, List.length_cons, List.length_nil]
          omega

variable {ignoredAcs : BitVec 8} {sta : Sta}

/-- One AC: its first frames are taken, and nothing else changes. -/
theorem takeAc_spec (sta : Sta) (ac : Ac) (n : Nat) : (sta.takeAc ac n).2.1 = (queued sta ac).take n ∧
    queued (sta.takeAc ac n).1 ac = (queued sta ac).drop n ∧ (sta.takeAc ac n).2.2 = n - (queued sta ac).length ∧
    (∀ ac', ac' ≠ ac → queued (sta.takeAc ac n).1 ac' = queued sta ac') ∧
    (∀ ac', heldTids (sta.takeAc ac n).1 ac' = heldTids sta ac') := by
  obtain ⟨htaken, hleft, hcount⟩ := takeFrames_spec n (sta.txFiltered ac) (sta.psTxBuf ac)
  refine ⟨htaken, ?_, hcount, fun ac' hne => ?_, fun _ => rfl⟩
  · unfold queued Sta.takeAc
    dsimp only
    rw [Function.update_self, Function.update_self]
    exact hleft
  · unfold queued Sta.takeAc
    dsimp only
    rw [Function.update_of_ne hne, Function.update_of_ne hne]

theorem bufferedOf_cons (ac : Ac) (acs : List Ac) : bufferedOf ignoredAcs sta (ac :: acs) =
    (if ignores ignoredAcs ac then [] else queued sta ac) ++ bufferedOf ignoredAcs sta acs := rfl

theorem bufferedOf_congr {sta' : Sta} {acs : List Ac} (hsame : ∀ ac ∈ acs, queued sta' ac = queued sta ac) :
    bufferedOf ignoredAcs sta' acs = bufferedOf ignoredAcs sta acs := by
  induction acs with
  | nil => rfl
  | cons ac acs ih =>
    rw [bufferedOf_cons, bufferedOf_cons, hsame ac List.mem_cons_self, ih fun a ha => hsame a (List.mem_cons_of_mem ac ha)]

theorem reachedTids_congr {sta' : Sta} {acs : List Ac} (hsame : ∀ ac ∈ acs, queued sta' ac = queued sta ac)
    (hheld : ∀ ac, heldTids sta' ac = heldTids sta ac) :
    reachedTids ignoredAcs sta' acs = reachedTids ignoredAcs sta acs := by
  induction acs with
  | nil => rfl
  | cons ac acs ih =>
    unfold reachedTids
    rw [hsame ac List.mem_cons_self, hheld, ih fun a ha => hsame a (List.mem_cons_of_mem ac ha)]

structure Untouched (ignoredAcs : BitVec 8) (sta sta' : Sta) (acs : List Ac) : Prop where
  others : ∀ ac, ac ∉ acs ∨ ignores ignoredAcs ac = true → queued sta' ac = queued sta ac
  held : ∀ ac, heldTids sta' ac = heldTids sta ac

theorem queue_empty_iff (sta : Sta) (ac : Ac) :
    (!(sta.txFiltered ac).isEmpty || !(sta.psTxBuf ac).isEmpty) = true ↔ queued sta ac ≠ [] := by
  unfold queued
  cases sta.txFiltered ac <;> cases sta.psTxBuf ac <;> simp

/-- **`ieee80211_sta_ps_get_frames`, when the driver has nothing that it comes to**: the first frames are taken. -/
theorem getFramesLoop_software (sta : Sta) {acs : List Ac} (hnodup : acs.Nodup) (n : Nat) (frames : List Frame)
    (hreach : frames = [] → reachedTids ignoredAcs sta acs = 0) :
    (getFramesLoop ignoredAcs acs sta n frames 0).2.1 = frames ++ (bufferedOf ignoredAcs sta acs).take n ∧
      (getFramesLoop ignoredAcs acs sta n frames 0).2.2 = 0 ∧
      bufferedOf ignoredAcs (getFramesLoop ignoredAcs acs sta n frames 0).1 acs = (bufferedOf ignoredAcs sta acs).drop n ∧
      Untouched ignoredAcs sta (getFramesLoop ignoredAcs acs sta n frames 0).1 acs := by
  induction acs generalizing sta n frames with
  | nil => exact ⟨by simp [getFramesLoop, bufferedOf], rfl, by simp [getFramesLoop, bufferedOf], fun _ _ => rfl, fun _ => rfl⟩
  | cons ac acs ih =>
    obtain ⟨hnot, hnodup⟩ := List.nodup_cons.mp hnodup
    have hapart : ∀ a ∈ acs, a ≠ ac := fun a ha heq => hnot (heq ▸ ha)
    unfold getFramesLoop
    by_cases hign : ignores ignoredAcs ac = true
    · rw [if_pos hign]
      unfold reachedTids at hreach
      rw [if_pos hign] at hreach
      obtain ⟨htaken, htids, hleft, hother⟩ := ih sta hnodup n frames hreach
      rw [bufferedOf_cons, bufferedOf_cons, if_pos hign, if_pos hign, List.nil_append, List.nil_append]
      refine ⟨htaken, htids, hleft, ⟨fun a ha => hother.others a ?_, hother.held⟩⟩
      exact ha.imp_left fun h hin => h (List.mem_cons_of_mem ac hin)
    · rw [if_neg hign]
      unfold reachedTids at hreach
      rw [if_neg hign] at hreach
      have hzero : (if frames.isEmpty then
          ((0 : BitVec 64) ||| (sta.driverBufferedTids &&& tidsForAc ac)) ||| (sta.txqBufferedTids &&& tidsForAc ac) else 0) = 0 := by
        cases hframes : frames with
        | nil =>
          have hboth := BitVec.or_eq_zero_iff.mp (hreach hframes)
          simpa [heldTids] using hboth.1
        | cons f fs => rfl
      obtain ⟨htake, hdrop, hcount, hothers, hheld⟩ := takeAc_spec sta ac n
      have hafter : ∀ a ∈ acs, queued (sta.takeAc ac n).1 a = queued sta a := fun a ha => hothers a (hapart a ha)
      dsimp only
      rw [hzero, if_pos rfl, bufferedOf_cons, if_neg hign, List.take_append, List.drop_append]
      by_cases hleft : queued (sta.takeAc ac n).1 ac ≠ []
      · rw [if_pos ((queue_empty_iff _ _).mpr hleft)]
        -- some of this AC are left: none of the later ones was taken
        have hfew : n - (queued sta ac).length = 0 := by
          rw [hdrop] at hleft
          have hpos := List.length_pos_iff.mpr hleft
          rw [List.length_drop] at hpos
          omega
        rw [hfew, List.take_zero, List.append_nil, List.drop_zero, htake, bufferedOf_cons, if_neg hign, hdrop,
          bufferedOf_congr hafter]
        refine ⟨rfl, rfl, rfl, ⟨fun a ha => hothers a ?_, hheld⟩⟩
        rintro rfl
        exact ha.elim (fun h => h List.mem_cons_self) hign
      · have hall : queued (sta.takeAc ac n).1 ac = [] := not_not.mp hleft
        rw [if_neg fun h => hleft ((queue_empty_iff _ _).mp h)]
        have hreach' : frames ++ (sta.takeAc ac n).2.1 = [] → reachedTids ignoredAcs (sta.takeAc ac n).1 acs = 0 := by
          intro hempty
          obtain ⟨hframes, htaken⟩ := List.append_eq_nil_iff.mp hempty
          have hqueue : queued sta ac = [] := by
            rw [← List.take_append_drop n (queued sta ac), ← htake, ← hdrop, htaken, hall]
            rfl
          have hboth := BitVec.or_eq_zero_iff.mp (hreach hframes)
          rw [reachedTids_congr hafter hheld]
          simpa [hqueue] using hboth.2
        obtain ⟨htaken, htids, hrest, hother⟩ := ih _ hnodup (sta.takeAc ac n).2.2 _ hreach'
        have hlong : (queued sta ac).length ≤ n := by
          rw [hdrop] at hall
          exact List.drop_eq_nil_iff.mp hall
        have hac : queued (getFramesLoop ignoredAcs acs (sta.takeAc ac n).1 (sta.takeAc ac n).2.2
            (frames ++ (sta.takeAc ac n).2.1) 0).1 ac = [] := (hother.others ac (.inl hnot)).trans hall
        refine ⟨?_, htids, ?_, ⟨fun a ha => ?_, fun a => (hother.held a).trans (hheld a)⟩⟩
        · rw [htaken, htake, hcount, bufferedOf_congr hafter, List.append_assoc]
        · rw [bufferedOf_cons, if_neg hign, hac, hrest, hcount, bufferedOf_congr hafter, List.drop_eq_nil_iff.mpr hlong]
        · have hne : a ≠ ac := by
            rintro rfl
            exact ha.elim (fun h => h List.mem_cons_self) hign
          exact (hother.others a (ha.imp_left fun h hin => h (List.mem_cons_of_mem ac hin))).trans (hothers a hne)

theorem or_nothing (tids : BitVec 64) : tids ||| (0 : BitVec 64) = tids := by
  simp

theorem takeAc_empty {ac : Ac} (hempty : queued sta ac = []) (n : Nat) : sta.takeAc ac n = (sta, [], n) := by
  obtain ⟨hfiltered, hbuf⟩ := List.append_eq_nil_iff.mp hempty
  have htake : takeFrames n [] [] = ([], [], [], n) := by
    cases n with
    | zero => rfl
    | succ n => rfl
  unfold Sta.takeAc
  rw [hfiltered, hbuf, htake]
  dsimp only
  have hsame : Function.update sta.txFiltered ac [] = sta.txFiltered := by
    rw [← hfiltered, Function.update_eq_self]
  have hsame' : Function.update sta.psTxBuf ac [] = sta.psTxBuf := by
    rw [← hbuf, Function.update_eq_self]
  rw [hsame, hsame']
  simp

/-- **When the driver has something**: no frame is taken. -/
theorem getFramesLoop_driver (sta : Sta) (acs : List Ac) (n : Nat) (tids : BitVec 64) (hreach : tids ||| reachedTids ignoredAcs sta acs ≠ 0) :
    getFramesLoop ignoredAcs acs sta n [] tids = (sta, [], tids ||| reachedTids ignoredAcs sta acs) := by
  induction acs generalizing tids with
  | nil => simp [getFramesLoop, reachedTids]
  | cons ac acs ih =>
    unfold getFramesLoop
    unfold reachedTids at hreach ⊢
    by_cases hign : ignores ignoredAcs ac = true
    · rw [if_pos hign] at hreach ⊢
      rw [if_pos hign]
      exact ih _ hreach
    · rw [if_neg hign] at hreach ⊢
      rw [if_neg hign]
      have hheld : (tids ||| (sta.driverBufferedTids &&& tidsForAc ac)) ||| (sta.txqBufferedTids &&& tidsForAc ac) =
          tids ||| heldTids sta ac := BitVec.or_assoc _ _ _
      simp only [List.isEmpty_nil, if_true, hheld]
      by_cases hqueue : queued sta ac = []
      · -- nothing is here, so nothing can be taken
        rw [if_pos hqueue, ← BitVec.or_assoc] at hreach ⊢
        have hnone : (if tids ||| heldTids sta ac = 0 then sta.takeAc ac n else (sta, [], n)) = (sta, [], n) := by
          rw [takeAc_empty hqueue, ite_self]
        rw [hnone]
        dsimp only
        rw [if_neg fun h => (queue_empty_iff sta ac).mp h hqueue]
        exact ih _ hreach
      · rw [if_neg hqueue, or_nothing] at hreach ⊢
        rw [if_neg hreach]
        dsimp only
        rw [if_pos ((queue_empty_iff sta ac).mpr hqueue)]
        rfl

/-- **`ieee80211_sta_ps_get_frames` takes the first frames**, when the driver has nothing that it comes to. -/
theorem getFrames_software (nFrames : Nat) (hreach : reachedTids ignoredAcs sta (List.finRange 4) = 0) :
    (getFrames { sta with sp := true } nFrames ignoredAcs).2.1 = (buffered ignoredAcs sta).take nFrames ∧
      (getFrames { sta with sp := true } nFrames ignoredAcs).2.2 = 0 ∧
      buffered ignoredAcs (getFrames { sta with sp := true } nFrames ignoredAcs).1 = (buffered ignoredAcs sta).drop nFrames ∧
      Untouched ignoredAcs sta (getFrames { sta with sp := true } nFrames ignoredAcs).1 (List.finRange 4) := by
  have hsame : reachedTids ignoredAcs { sta with sp := true } (List.finRange 4) = 0 :=
    (reachedTids_congr (fun _ _ => rfl) fun _ => rfl).trans hreach
  obtain ⟨htaken, htids, hleft, hother⟩ := getFramesLoop_software { sta with sp := true } (List.nodup_finRange 4) nFrames []
    fun _ => hsame
  exact ⟨htaken, htids, hleft, hother.others, hother.held⟩

/-- **It takes none, when the driver has something.** -/
theorem getFrames_driver (nFrames : Nat) (hreach : reachedTids ignoredAcs sta (List.finRange 4) ≠ 0) :
    getFrames { sta with sp := true } nFrames ignoredAcs =
      ({ sta with sp := true }, [], reachedTids ignoredAcs sta (List.finRange 4)) := by
  have hsame : reachedTids ignoredAcs { sta with sp := true } (List.finRange 4) = reachedTids ignoredAcs sta (List.finRange 4) :=
    reachedTids_congr (fun _ _ => rfl) fun _ => rfl
  have hstart : (0 : BitVec 64) ||| reachedTids ignoredAcs { sta with sp := true } (List.finRange 4) =
      reachedTids ignoredAcs sta (List.finRange 4) := by
    simpa using hsame
  have hloop := getFramesLoop_driver { sta with sp := true } (List.finRange 4) nFrames 0 (hstart ▸ hreach)
  rw [hstart] at hloop
  exact hloop

/-! ## The frames that are sent -/

/-- The two loops of the source agree on what is left here. -/
theorem psMoreData_software (reason : Reason) : psMoreData sta ignoredAcs reason 0 = true ↔ buffered ignoredAcs sta ≠ [] := by
  have hnone : ¬ (reason = .pspoll ∧ hweight16 0 > 1) := fun h => absurd h.2 (by decide)
  unfold psMoreData buffered bufferedOf
  rw [if_neg hnone, List.any_eq_true, ne_eq, List.flatMap_eq_nil_iff, not_forall]
  refine exists_congr fun ac => ?_
  rw [Bool.and_eq_true, queue_empty_iff, Bool.not_eq_true']
  by_cases hign : ignores ignoredAcs ac = true
  · simp [hign]
  · simp [hign]

/-- **The loop over the frames**: all but the last one have more data after them. -/
theorem releaseLoop_spec (moreData : Bool) (reason : Reason) (init : List Frame) (last : Frame) :
    releaseLoop moreData reason (init ++ [last]) =
      (init.map (fun f => f.mark true) ++ [((last.mark moreData).finish reason).1], ((last.mark moreData).finish reason).2) := by
  induction init with
  | nil => simp [releaseLoop]
  | cons f init ih =>
    have hmore : (init ++ [last]).isEmpty = false := by
      cases init with
      | nil => rfl
      | cons _ _ => rfl
    rw [List.cons_append, releaseLoop, ih, hmore]
    simp

theorem fc_or_moreData (fc mask : FrameControl) (hmask : IEEE80211_FCTL_MOREDATA &&& mask = 0) :
    (fc ||| IEEE80211_FCTL_MOREDATA) &&& mask = fc &&& mask := by
  rw [BitVec.and_or_distrib_right, hmask]
  simp

theorem fc_and_moreData (fc mask : FrameControl) (hmask : ~~~IEEE80211_FCTL_MOREDATA &&& mask = mask) :
    (fc &&& ~~~IEEE80211_FCTL_MOREDATA) &&& mask = fc &&& mask := by
  rw [BitVec.and_assoc, hmask]

theorem mark_fc (f : Frame) (moreData : Bool) : hasQos (f.mark moreData).fc = hasQos f.fc ∧
    (f.mark moreData).fc.isData = f.fc.isData ∧ (f.mark moreData).hasMoreData = moreData := by
  unfold Frame.mark Frame.hasMoreData hasQos isQosNullfunc FrameControl.isDataQos FrameControl.isData
  cases moreData with
  | true =>
    simp only [if_true]
    rw [fc_or_moreData _ _ (by decide), fc_or_moreData _ _ (by decide), fc_or_moreData _ _ (by decide)]
    refine ⟨rfl, rfl, ?_⟩
    rw [BitVec.and_or_distrib_right, BitVec.and_self]
    simp only [decide_eq_true_eq]
    intro hzero
    exact absurd (BitVec.or_eq_zero_iff.mp hzero).2 (by decide)
  | false =>
    simp only [Bool.false_eq_true, if_false]
    rw [fc_and_moreData _ _ (by decide), fc_and_moreData _ _ (by decide), fc_and_moreData _ _ (by decide)]
    refine ⟨rfl, rfl, ?_⟩
    rw [BitVec.and_assoc]
    have hnone : ~~~IEEE80211_FCTL_MOREDATA &&& IEEE80211_FCTL_MOREDATA = 0 := by decide
    rw [hnone]
    simp

/-- **The last frame** ends the service period, or needs a null frame. -/
theorem finish_spec (f : Frame) (moreData : Bool) (reason : Reason) :
    (((f.mark moreData).finish reason).2 = true ↔ f.NeedsNull reason) ∧
      (((f.mark moreData).finish reason).1.EndsPeriod ↔ (f.NeedsNull reason → f.EndsPeriod)) ∧
      ((f.mark moreData).finish reason).1.fc.isData = f.fc.isData ∧
      (((f.mark moreData).finish reason).1.hasMoreData = true ↔ f.NeedsNull reason ∨ moreData = true) ∧
      ((f.mark moreData).finish reason).1.id = f.id := by
  obtain ⟨hqos, hdata, hmore⟩ := mark_fc f moreData
  unfold Frame.finish Frame.NeedsNull
  by_cases hreason : reason = .uapsd
  · rw [if_neg (not_not_intro hreason), hqos]
    cases hcase : hasQos f.fc with
    | true =>
      have hmore' : (f.mark moreData).hasMoreData = true ↔ moreData = true := by rw [hmore]
      refine ⟨by simp, by simp [Frame.EndsPeriod], ?_, ?_, rfl⟩
      · exact hdata
      · exact hmore'.trans (by simp)
    | false =>
      have hset := mark_fc (f.mark moreData) true
      refine ⟨by simp [hreason], ?_, ?_, ?_, rfl⟩
      · exact ⟨fun hends _ => hends, fun hends => hends ⟨hreason, rfl⟩⟩
      · exact hset.2.1.trans hdata
      · exact iff_of_true hset.2.2 (.inl ⟨hreason, rfl⟩)
  · rw [if_pos hreason]
    have hmore' : (f.mark moreData).hasMoreData = true ↔ moreData = true := by rw [hmore]
    refine ⟨by simp [hreason], by simp [Frame.EndsPeriod, hreason], ?_, ?_, rfl⟩
    · exact hdata
    · exact hmore'.trans (by simp [hreason])

/-- **A null frame** is sent when it can be, and nothing else is. -/
theorem nullResponse_sent (env : Env) (sta : Sta) (tid : Int) (reason : Reason) (callDriver moreData : Bool) :
    (env.CanSend → (nullResponse env sta tid reason callDriver moreData).1 = [nullFrame env sta tid reason moreData]) ∧
      (¬ env.CanSend → (nullResponse env sta tid reason callDriver moreData).1 = []) := by
  unfold nullResponse Env.CanSend
  cases env.alloc <;> cases env.chanctx <;> simp

theorem nullResponse_calls (env : Env) (sta : Sta) (tid : Int) (reason : Reason) (callDriver moreData : Bool) (tids : BitVec 64)
    (num : Nat) (more : Bool) :
    DriverCall.releaseBufferedFrames tids num more ∉ (nullResponse env sta tid reason callDriver moreData).2 := by
  unfold nullResponse
  cases env.alloc <;> cases callDriver <;> simp

/-! ## When the driver answers -/

variable {env : Env} {txq : List (Option Bool)} {nFrames : Nat} {reason : Reason}

theorem fls_le (w : BitVec 64) : fls w ≤ 32 := by
  unfold fls
  cases hfind : (List.range 32).reverse.find? fun i => w.getLsbD i with
  | none => exact Nat.zero_le 32
  | some i =>
    have hmem := List.mem_reverse.mp (List.mem_of_find?_eq_some hfind)
    exact List.mem_range.mp hmem

theorem highestTid_ne_zero (tids : BitVec 64) : (1 : BitVec 64) <<< (findHighestPrioTid tids).toNat ≠ 0 := by
  have hsmall : ∀ k, k < 32 → (1 : BitVec 64) <<< k ≠ 0 := by decide
  apply hsmall
  have hfls := fls_le tids
  unfold findHighestPrioTid
  split
  · omega
  · split <;> omega

/-- The state after the response is the one that `ieee80211_sta_ps_get_frames` leaves. -/
theorem deliverResponse_sta (env : Env) (txq : List (Option Bool)) (sta : Sta) (nFrames : Nat) (ignoredAcs : BitVec 8)
    (reason : Reason) : (deliverResponse env txq sta nFrames ignoredAcs reason).sta =
    (getFrames { sta with sp := true } nFrames ignoredAcs).1 := by
  unfold deliverResponse
  dsimp only
  split_ifs <;> rfl

/-- **The driver is asked**: nothing is sent here, and nothing is taken. -/
theorem responds_driver (hreach : reachedTids ignoredAcs sta (List.finRange 4) ≠ 0) :
    RespondsRight env txq sta nFrames ignoredAcs reason := by
  have hframes := getFrames_driver nFrames hreach
  have hsta := deliverResponse_sta env txq sta nFrames ignoredAcs reason
  rw [hframes] at hsta
  have htids : (if reachedTids ignoredAcs sta (List.finRange 4) ≠ 0 ∧ reason = .pspoll then
      (1 : BitVec 64) <<< (findHighestPrioTid (reachedTids ignoredAcs sta (List.finRange 4))).toNat
      else reachedTids ignoredAcs sta (List.finRange 4)) ≠ 0 := by
    split
    · exact highestTid_ne_zero _
    · exact hreach
  have hasked : (deliverResponse env txq sta nFrames ignoredAcs reason).sent = [] ∧
      (deliverResponse env txq sta nFrames ignoredAcs reason).FromDriver := by
    unfold deliverResponse Response.FromDriver
    dsimp only
    rw [hframes]
    dsimp only
    rw [if_neg fun h => htids h.2, if_neg htids]
    exact ⟨rfl, _, _, _, List.mem_singleton_self _⟩
  refine ⟨?_, ?_, fun ac _ => ?_, ⟨[], Nat.zero_le 1, ?_⟩, fun hnot => absurd hasked.2 hnot, ?_⟩
  · rw [hframes]
    exact Nat.zero_le nFrames
  · rw [hframes, hsta]
    rfl
  · rw [hsta]
    rfl
  · rw [hframes, hasked.1]
    rfl
  · intro init last rest hsent
    rw [hasked.1] at hsent
    exact absurd hsent (by simp)

/-! ## When the frames are sent from here -/

/-- What is sent: no frame was there, and a null frame is tried. -/
theorem sent_nothing (env : Env) (txq : List (Option Bool)) (reason : Reason) (hreach : reachedTids ignoredAcs sta (List.finRange 4) = 0)
    (hframes : (buffered ignoredAcs sta).take nFrames = []) :
    ∃ tid, (deliverResponse env txq sta nFrames ignoredAcs reason).sent =
        (nullResponse env (getFrames { sta with sp := true } nFrames ignoredAcs).1 tid reason true false).1 ∧
      ¬ (deliverResponse env txq sta nFrames ignoredAcs reason).FromDriver := by
  obtain ⟨htaken, htids, -, -⟩ := getFrames_software nFrames hreach
  refine ⟨7 - 2 * (firstAc ignoredAcs : Int), ?_⟩
  unfold deliverResponse Response.FromDriver
  dsimp only
  rw [htaken, htids, hframes]
  simp only [ne_eq, not_true_eq_false, false_and, if_false, List.isEmpty_nil, and_self, if_true]
  refine ⟨trivial, ?_⟩
  rintro ⟨tids, num, more, hmem⟩
  exact nullResponse_calls _ _ _ _ _ _ _ _ _ hmem

/-- **What is sent**: the frames, all but the last one with the more-data bit, and a null frame when the last one needs it. -/
theorem sent_frames (env : Env) (txq : List (Option Bool)) (reason : Reason)
    (hreach : reachedTids ignoredAcs sta (List.finRange 4) = 0) {init : List Frame} {last : Frame}
    (hframes : (buffered ignoredAcs sta).take nFrames = init ++ [last]) :
    ∃ moreData tid, (moreData = true ↔ nFrames < (buffered ignoredAcs sta).length) ∧
      (deliverResponse env txq sta nFrames ignoredAcs reason).sent =
        init.map (fun f => f.mark true) ++ ((last.mark moreData).finish reason).1 ::
          (if ((last.mark moreData).finish reason).2 then
            (nullResponse env (getFrames { sta with sp := true } nFrames ignoredAcs).1 tid reason false false).1 else []) ∧
      ¬ (deliverResponse env txq sta nFrames ignoredAcs reason).FromDriver := by
  obtain ⟨htaken, htids, hleft, -⟩ := getFrames_software nFrames hreach
  refine ⟨psMoreData (getFrames { sta with sp := true } nFrames ignoredAcs).1 ignoredAcs reason 0,
    findHighestPrioTid (tidsOf (init ++ [last])), ?_, ?_⟩
  · rw [psMoreData_software, hleft, ne_eq, List.drop_eq_nil_iff, Nat.not_le]
  · have hsome : (init ++ [last]).isEmpty = false := by
      cases init with
      | nil => rfl
      | cons _ _ => rfl
    unfold deliverResponse Response.FromDriver
    dsimp only
    rw [htaken, htids, hframes, hsome, releaseLoop_spec]
    simp only [ne_eq, not_true_eq_false, false_and, if_false, Bool.false_eq_true, if_true]
    refine ⟨by simp, ?_⟩
    rintro ⟨tids, num, more, hmem⟩
    exact absurd (List.mem_singleton.mp hmem) (by simp)

/-- One frame ends the service period, and it is the last one. -/
theorem ends_snoc (frames : List Frame) (f : Frame) :
    (∃ init last, frames ++ [f] = init ++ [last] ∧ last.EndsPeriod ∧ ∀ g ∈ init, ¬ g.EndsPeriod) ↔
      f.EndsPeriod ∧ ∀ g ∈ frames, ¬ g.EndsPeriod := by
  constructor
  · rintro ⟨init, last, heq, hlast, hinit⟩
    obtain ⟨rfl, htail⟩ := List.append_inj' heq rfl
    obtain rfl := (List.cons.inj htail).1
    exact ⟨hlast, hinit⟩
  · rintro ⟨hlast, hinit⟩
    exact ⟨frames, f, rfl, hlast, hinit⟩

/-- **The end of the service period**, by what the last frame is and whether a null frame can be sent. -/
theorem ends_iff (env : Env) (reason : Reason) (init : List Frame) (last : Frame) (moreData : Bool) (sta' : Sta) (tid : Int) :
    (∃ before final, init.map (fun f => f.mark true) ++ ((last.mark moreData).finish reason).1 ::
          (if ((last.mark moreData).finish reason).2 then (nullResponse env sta' tid reason false false).1 else []) =
        before ++ [final] ∧ final.EndsPeriod ∧ ∀ g ∈ before, ¬ g.EndsPeriod) ↔
      (last.NeedsNull reason → (env.CanSend ↔ ¬ last.EndsPeriod)) ∧ ∀ f ∈ init, ¬ f.EndsPeriod := by
  obtain ⟨hneeds, hends, -, -, -⟩ := finish_spec last moreData reason
  have hmarked : (∀ g ∈ init.map (fun f => f.mark true), ¬ g.EndsPeriod) ↔ ∀ f ∈ init, ¬ f.EndsPeriod := by
    rw [List.forall_mem_map]
    rfl
  by_cases hnull : last.NeedsNull reason
  · rw [if_pos (hneeds.mpr hnull)]
    have hown : ((last.mark moreData).finish reason).1.EndsPeriod ↔ last.EndsPeriod := by simpa [hnull] using hends
    by_cases hsend : env.CanSend
    · rw [(nullResponse_sent env sta' tid reason false false).1 hsend, List.append_cons, ends_snoc]
      have hthis : (nullFrame env sta' tid reason false).EndsPeriod := ⟨rfl, rfl⟩
      simp only [List.forall_mem_append, List.forall_mem_singleton, hmarked, hown, hthis, hnull, hsend, true_and, true_iff,
        forall_const]
      exact and_comm
    · rw [(nullResponse_sent env sta' tid reason false false).2 hsend, ends_snoc, hmarked, hown]
      simp [hnull, hsend]
  · rw [if_neg fun h => hnull (hneeds.mp h), ends_snoc, hmarked]
    have hown : ((last.mark moreData).finish reason).1.EndsPeriod := hends.mpr fun h => absurd h hnull
    simp [hnull, hown]

theorem stillBuffered_after (hreach : reachedTids ignoredAcs sta (List.finRange 4) = 0) :
    StillBuffered ignoredAcs (deliverResponse env txq sta nFrames ignoredAcs reason).sta ↔
      nFrames < (buffered ignoredAcs sta).length ∨ HeldByDriver ignoredAcs sta := by
  obtain ⟨-, -, hleft, hother⟩ := getFrames_software nFrames hreach
  rw [deliverResponse_sta]
  unfold StillBuffered HeldByDriver
  rw [hleft, ne_eq, List.drop_eq_nil_iff, Nat.not_le]
  simp only [hother.held]

/-- **When the frames are sent from here**, the response is right just when both conditions hold. -/
theorem responds_software (hreach : reachedTids ignoredAcs sta (List.finRange 4) = 0) :
    RespondsRight env txq sta nFrames ignoredAcs reason ↔
      EndsCondition env reason ((buffered ignoredAcs sta).take nFrames) ∧
        MoreDataCondition ignoredAcs sta reason ((buffered ignoredAcs sta).take nFrames)
          (nFrames < (buffered ignoredAcs sta).length) := by
  obtain ⟨htaken, htids, hleft, hother⟩ := getFrames_software nFrames hreach
  have hbounded : (getFrames { sta with sp := true } nFrames ignoredAcs).2.1.length ≤ nFrames := by
    rw [htaken]
    exact List.length_take_le _ _
  have horder : buffered ignoredAcs sta = (getFrames { sta with sp := true } nFrames ignoredAcs).2.1 ++
      buffered ignoredAcs (deliverResponse env txq sta nFrames ignoredAcs reason).sta := by
    rw [deliverResponse_sta, htaken, hleft, List.take_append_drop]
  have hignored : ∀ ac, ignores ignoredAcs ac = true →
      queued (deliverResponse env txq sta nFrames ignoredAcs reason).sta ac = queued sta ac := by
    intro ac hign
    rw [deliverResponse_sta]
    exact hother.others ac (.inr hign)
  rcases List.eq_nil_or_concat ((buffered ignoredAcs sta).take nFrames) with hframes | ⟨init, last, hframes⟩
  · -- nothing is buffered, or nothing is asked for
    obtain ⟨tid, hsent, hnot⟩ := sent_nothing env txq reason hreach hframes
    obtain ⟨hcan, hcannot⟩ := nullResponse_sent env (getFrames { sta with sp := true } nFrames ignoredAcs).1 tid reason true false
    constructor
    · intro hright
      obtain ⟨before, final, hends, -, -⟩ := hright.ends hnot
      refine ⟨⟨fun _ => ?_, fun init last heq => ?_⟩, fun init last heq => ?_⟩
      · by_contra hno
        rw [hsent, hcannot hno] at hends
        exact absurd hends (by simp)
      · rw [hframes] at heq
        exact absurd heq (by simp)
      · rw [hframes] at heq
        exact absurd heq (by simp)
    · rintro ⟨⟨hempty, -⟩, -⟩
      rw [hcan (hempty hframes)] at hsent
      refine ⟨hbounded, horder, hignored, ⟨[env.nullId], Nat.le_refl 1, ?_⟩, fun _ => ?_, fun init' last' rest _ hlen => ?_⟩
      · rw [hsent, htaken, hframes]
        rfl
      · rw [hsent]
        exact ⟨[], _, rfl, ⟨rfl, rfl⟩, fun f hf => absurd hf List.not_mem_nil⟩
      · rw [htaken, hframes] at hlen
        exact absurd hlen (Nat.succ_ne_zero _)
  · rw [List.concat_eq_append] at hframes
    obtain ⟨moreData, tid, hmore, hsent, hnot⟩ := sent_frames env txq reason hreach hframes
    obtain ⟨-, -, hdata, hbit, hid⟩ := finish_spec last moreData reason
    have hends := ends_iff env reason init last moreData
      (getFrames { sta with sp := true } nFrames ignoredAcs).1 tid
    rw [← hsent] at hends
    -- the last released frame has the place it is looked for at
    have hplace : ∀ init' last' rest, (deliverResponse env txq sta nFrames ignoredAcs reason).sent = init' ++ last' :: rest →
        init'.length + 1 = (getFrames { sta with sp := true } nFrames ignoredAcs).2.1.length →
        last' = ((last.mark moreData).finish reason).1 := by
      intro init' last' rest heq hlen
      rw [htaken, hframes, List.length_append, List.length_singleton] at hlen
      rw [hsent] at heq
      have hsplit := List.append_inj heq (by rw [List.length_map]; omega)
      exact (List.cons.inj hsplit.2).1.symm
    have hcondEnds : EndsCondition env reason ((buffered ignoredAcs sta).take nFrames) ↔
        (last.NeedsNull reason → (env.CanSend ↔ ¬ last.EndsPeriod)) ∧ ∀ f ∈ init, ¬ f.EndsPeriod := by
      unfold EndsCondition
      rw [hframes]
      constructor
      · rintro ⟨-, hall⟩
        exact hall init last rfl
      · intro hthis
        refine ⟨fun h => absurd h (by simp), fun init' last' heq => ?_⟩
        obtain ⟨rfl, htail⟩ := List.append_inj' heq rfl
        obtain rfl := (List.cons.inj htail).1
        exact hthis
    have hcondMore : MoreDataCondition ignoredAcs sta reason ((buffered ignoredAcs sta).take nFrames)
          (nFrames < (buffered ignoredAcs sta).length) ↔
        (last.fc.isData = true → ((last.NeedsNull reason ∨ moreData = true) ↔
          (nFrames < (buffered ignoredAcs sta).length ∨ HeldByDriver ignoredAcs sta))) := by
      rw [hmore]
      unfold MoreDataCondition
      rw [hframes]
      constructor
      · intro hall hisData
        have hthis := hall init last rfl hisData
        by_cases hlonger : nFrames < (buffered ignoredAcs sta).length
        · exact iff_of_true (.inr hlonger) (.inl hlonger)
        · simpa [hlonger] using (hthis hlonger).symm
      · intro hthis init' last' heq hisData hnotLonger
        obtain ⟨rfl, htail⟩ := List.append_inj' heq rfl
        obtain rfl := (List.cons.inj htail).1
        simpa [hnotLonger] using (hthis hisData).symm
    rw [hcondEnds, hcondMore, ← hends]
    constructor
    · intro hright
      refine ⟨hright.ends hnot, fun hisData => ?_⟩
      have hfield := hright.moreData _ _ _ hsent (by rw [htaken, hframes]; simp) (hdata.trans hisData)
      rw [hbit, stillBuffered_after hreach] at hfield
      exact hfield
    · rintro ⟨hend, hmoreRight⟩
      refine ⟨hbounded, horder, hignored, ?_, fun _ => hend, fun init' last' rest heq hlen hisData => ?_⟩
      · refine ⟨(if ((last.mark moreData).finish reason).2 then
          (nullResponse env (getFrames { sta with sp := true } nFrames ignoredAcs).1 tid reason false false).1 else []).map Frame.id,
          ?_, ?_⟩
        · obtain ⟨hcan, hcannot⟩ := nullResponse_sent env (getFrames { sta with sp := true } nFrames ignoredAcs).1 tid reason
            false false
          split
          · by_cases hsend : env.CanSend
            · rw [hcan hsend]
              exact Nat.le_refl 1
            · rw [hcannot hsend]
              exact Nat.zero_le 1
          · exact Nat.zero_le 1
        · have hids : init.map (Frame.id ∘ fun f => f.mark true) = init.map Frame.id := rfl
          rw [hsent, htaken, hframes, List.map_append, List.map_append, List.map_cons, List.map_map, hids, hid,
            List.append_assoc]
          rfl
      · have heqLast := hplace init' last' rest heq hlen
        rw [heqLast, hdata] at hisData
        rw [heqLast, hbit, stillBuffered_after hreach]
        exact hmoreRight hisData

/-- **The response to a PS-Poll or trigger frame is right** just when the driver answers it; or when one frame ends the service period, and
the driver has no frames for an AC that is not ignored at a time when none is left here. -/
theorem responds_right_iff (env : Env) (txq : List (Option Bool)) (sta : Sta) (nFrames : Nat) (ignoredAcs : BitVec 8)
    (reason : Reason) :
    RespondsRight env txq sta nFrames ignoredAcs reason ↔ ResponseCondition env sta nFrames ignoredAcs reason := by
  unfold ResponseCondition
  by_cases hreach : reachedTids ignoredAcs sta (List.finRange 4) = 0
  · rw [responds_software hreach, or_iff_right (not_not_intro hreach)]
  · exact iff_of_true (responds_driver hreach) (.inl hreach)

def voiceFrame : Frame where
  id := 1
  fc := 0x0088
  qosCtl := 6
  priority := 6
  noPsBuffer := false
  eosp := false
  reqTxStatus := false
  psResponse := false

/-- One voice frame is buffered here, and the driver has frames for TID 5. -/
def voiceAndDriver : Sta where
  sp := false
  wme := true
  txFiltered := fun _ => []
  psTxBuf := fun ac => if ac.val = 0 then [voiceFrame] else []
  driverBufferedTids := 0x20
  txqBufferedTids := 0
  totalPsBuffered := 1

/-- **The voice frame is sent without the more-data bit**, though the driver has video frames: the next PS-Poll is not sent. -/
theorem poll_hides_driver : ¬ RespondsRight ⟨true, true, 0⟩ [] voiceAndDriver 1 0 .pspoll := by
  intro hright
  have hheld : HeldByDriver 0 (deliverResponse ⟨true, true, 0⟩ [] voiceAndDriver 1 0 .pspoll).sta := ⟨1, by decide, by decide⟩
  have hbit := (hright.moreData [] _ [] rfl rfl rfl).mpr (.inr hheld)
  exact absurd hbit (by decide)

end Mac80211.PsResponse
