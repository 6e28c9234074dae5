import Mathlib.Data.List.Induction
import Wifi.Net80211.TkipRx

/-!
# Replay protection of TKIP (`freebsd/sys/net80211/ieee80211_crypto_tkip.c`)

* `receive` — `tkip_decap`, and then `tkip_demic`.
* `accepted` — the frames of a run that both accept.
* `Skips` — a frame is accepted on the path that does not record its counter.
* `replay_protected_iff` — the counters that are accepted increase, whatever comes next, exactly when no frame takes that
  path.
-/

namespace Net80211.TkipRx

open Ccmp (ieee80211Gettid)

/-- A received frame: what `tkip_decap` and `tkip_demic` see of it. -/
structure Mpdu where
  rx : RxFrame
  /-- `IEEE80211_RX_F_FAIL_MIC` -/
  failMic : Bool
  /-- `IEEE80211_RX_F_MMIC_STRIP` -/
  mmicStrip : Bool
  force : Bool
  /-- the MIC of the frame is the one that `michael_mic` computes -/
  micOk : Bool

/-- The frame for `tkip_demic`: the header has been moved, and is the same. -/
def Mpdu.demic (m : Mpdu) : DemicFrame :=
  { wh := m.rx.wh, failMic := m.failMic, mmicStrip := m.mmicStrip, force := m.force, micOk := m.micOk }

def Mpdu.tid (m : Mpdu) : Nat := ieee80211Gettid m.rx.wh

/-- What `tkip_demic` returns. -/
def tkipDemicRet (key : Key) (f : DemicFrame) : Bool :=
  if f.failMic then false
  else if f.mmicStrip then true
  else if (key.swDemic || f.force) && !f.micOk then false
  else true

variable (wep : List Byte → List Byte → Bool) (key : Key)

/-- `tkip_decap`, and then `tkip_demic` when the frame is not refused: whether the frame is accepted. -/
def receive (s : State) (m : Mpdu) : Bool × State :=
  let d := tkipDecap wep key s m.rx
  if d.ok then (tkipDemicRet key m.demic, tkipDemic key d.state m.demic) else (false, d.state)

def after (s : State) (ms : List Mpdu) : State := ms.foldl (fun s m => (receive wep key s m).2) s

def accepted : State → List Mpdu → List Mpdu
  | _, [] => []
  | s, m :: ms => (if (receive wep key s m).1 then [m] else []) ++ accepted (receive wep key s m).2 ms

/-- The checks of `tkip_decap`, for a frame with its IV. -/
def Passes (s : State) (m : Mpdu) : Prop :=
  decapReads m.rx ∧ ¬ replayed key s m.rx ∧
    (key.swDecrypt = true → (tkipDecrypt wep key (s.readRsc m.rx) m.rx).ok = true)

/-- **The frame takes the path of `tkip_demic` that does not record its counter.** -/
def Skips (s : State) (m : Mpdu) : Prop := Passes wep key s m ∧ m.failMic = false ∧ m.mmicStrip = true

def Increasing (ms : List Mpdu) : Prop := ms.Pairwise fun m m' => m.tid = m'.tid → m.rx.rsc < m'.rx.rsc

/-- **Replay protection**: after any part of a run and one more frame the counters that were accepted increase, and a frame
    that is not accepted leaves `wk_keyrsc`. -/
structure ReplayProtected (s : State) (ms : List Mpdu) : Prop where
  increasing : ∀ pre, pre <+: ms → ∀ m, m.rx.ivStrip = false → Increasing (accepted wep key s (pre ++ [m]))
  rejected : ∀ pre, pre <+: ms → ∀ m, m.rx.ivStrip = false → (receive wep key (after wep key s pre) m).1 = false →
    (receive wep key (after wep key s pre) m).2.wkKeyrsc = (after wep key s pre).wkKeyrsc

/-! ## One frame -/

variable {wep key} {s : State} {m : Mpdu}

theorem decap_ok_iff (wep : List Byte → List Byte → Bool) (key : Key) (s : State) (hiv : m.rx.ivStrip = false) : (tkipDecap wep key s m.rx).ok = true ↔ Passes wep key s m := by
  unfold tkipDecap Passes
  rw [if_neg (by rw [hiv]; exact Bool.false_ne_true)]
  by_cases hreads : decapReads m.rx
  · rw [if_neg (not_not_intro hreads)]
    by_cases hrep : replayed key s m.rx
    · rw [if_pos hrep]
      exact iff_of_false (by simp) fun h => h.2.1 hrep
    · rw [if_neg hrep]
      by_cases hsw : key.swDecrypt = true
      · rw [if_pos hsw]
        exact ⟨fun h => ⟨hreads, hrep, fun _ => h⟩, fun h => h.2.2 hsw⟩
      · rw [if_neg hsw]
        exact iff_of_true rfl ⟨hreads, hrep, fun h => absurd h hsw⟩
  · rw [if_pos hreads]
    exact iff_of_false (by simp) fun h => hreads h.1

/-- `tkip_decap` reads the counter of a frame that it accepts, and leaves `wk_keyrsc`. -/
theorem decap_state (wep : List Byte → List Byte → Bool) (key : Key) (s : State) (hiv : m.rx.ivStrip = false) :
    (tkipDecap wep key s m.rx).state.wkKeyrsc = s.wkKeyrsc ∧
      (Passes wep key s m → (tkipDecap wep key s m.rx).state.ctx.rxRsc = m.rx.rsc) := by
  by_cases hdec : Decrypts key s m.rx
  · rw [decap_of_decrypts wep key hdec]
    exact ⟨rfl, fun _ => rfl⟩
  · refine ⟨?_, fun hp => ?_⟩
    · obtain hstate | hstate := (decap_of_not_decrypts wep key hdec).1
      · rw [hstate]
      · rw [hstate]
        rfl
    · have hsw : ¬ key.swDecrypt = true := fun h => hdec ⟨hp.1, hp.2.1, h⟩
      unfold tkipDecap
      rw [if_neg (by rw [hiv]; exact Bool.false_ne_true), if_neg (not_not_intro hp.1), if_neg hp.2.1, if_neg hsw]
      rfl

/-- What `tkip_demic` does to `wk_keyrsc`: the counter is recorded when the frame is accepted and has its MIC. -/
theorem demic_keyrsc (key : Key) (s : State) (f : DemicFrame) :
    (tkipDemic key s f).wkKeyrsc =
      if tkipDemicRet key f = true ∧ f.mmicStrip = false then
        Function.update s.wkKeyrsc (ieee80211Gettid f.wh) s.ctx.rxRsc
      else s.wkKeyrsc := by
  unfold tkipDemic tkipDemicRet
  cases hfail : f.failMic with
  | true => simp
  | false =>
    cases hstrip : f.mmicStrip with
    | true => simp
    | false =>
      by_cases hmic : ((key.swDemic || f.force) && !f.micOk) = true
      · simp [hmic]
      · simp [hmic]

/-- What one frame does to `wk_keyrsc`. -/
inductive Received (wep : List Byte → List Byte → Bool) (key : Key) (s : State) (m : Mpdu) : Bool × State → Prop where
  | refused {s' : State} : s'.wkKeyrsc = s.wkKeyrsc → Received wep key s m (false, s')
  | skipped {s' : State} : Skips wep key s m → s'.wkKeyrsc = s.wkKeyrsc → Received wep key s m (true, s')
  | recorded {s' : State} : Passes wep key s m → m.mmicStrip = false →
      s'.wkKeyrsc = Function.update s.wkKeyrsc m.tid m.rx.rsc → Received wep key s m (true, s')

/-- **One frame.** -/
theorem receive_spec (wep : List Byte → List Byte → Bool) (key : Key) (s : State) (hiv : m.rx.ivStrip = false) : Received wep key s m (receive wep key s m) := by
  unfold receive
  obtain ⟨hkeep, hrsc⟩ := decap_state wep key s hiv
  have hpasses := decap_ok_iff wep key s hiv
  have hdemic := demic_keyrsc key (tkipDecap wep key s m.rx).state m.demic
  dsimp only
  by_cases hok : (tkipDecap wep key s m.rx).ok = true
  · rw [if_pos hok]
    have hp := hpasses.mp hok
    rw [hkeep, hrsc hp] at hdemic
    cases hret : tkipDemicRet key m.demic with
    | false =>
      rw [hret] at hdemic
      exact .refused (hdemic.trans (if_neg fun h => nomatch h.1))
    | true =>
      cases hstrip : m.mmicStrip with
      | true =>
        refine .skipped ⟨hp, ?_, hstrip⟩ (hdemic.trans (if_neg fun h => nomatch h.2.symm.trans hstrip))
        cases hfail : m.failMic with
        | false => rfl
        | true =>
          have hfalse : tkipDemicRet key m.demic = false := if_pos hfail
          exact nomatch hfalse.symm.trans hret
      | false => exact .recorded hp hstrip (hdemic.trans (if_pos ⟨hret, hstrip⟩))
  · rw [if_neg hok]
    exact .refused hkeep

theorem receive_of_skips (hiv : m.rx.ivStrip = false) (h : Skips wep key s m) : (receive wep key s m).1 = true := by
  unfold receive
  have hret : tkipDemicRet key m.demic = true := by
    unfold tkipDemicRet
    rw [if_neg (by rw [show m.demic.failMic = m.failMic from rfl, h.2.1]; exact Bool.false_ne_true)]
    exact if_pos h.2.2
  dsimp only
  rw [if_pos ((decap_ok_iff wep key _ hiv).mpr h.1)]
  exact hret

/-! ## The same frame again -/

theorem decrypt_ok (s : State) (f : RxFrame) :
    (tkipDecrypt wep key s f).ok =
      wep (tkipMixingPhase2 key.wkKey (tkipDecrypt wep key s f).state.ctx.rxTtak (iv16Of s.ctx.rxRsc))
        (f.ivp.drop 8) := rfl

/-- The first phase counts as done behind a frame whose ICV is right. -/
theorem decrypt_done {f : RxFrame} (hok : (tkipDecrypt wep key s f).ok = true) :
    (tkipDecrypt wep key s f).state.ctx.rxPhase1Done = true := by
  have hdone : (tkipDecrypt wep key s f).state.ctx.rxPhase1Done =
      ((decide (phase1Runs s f.wh) || s.ctx.rxPhase1Done) &&
        !(!(tkipDecrypt wep key s f).ok &&
          decide (iv32Of s.ctx.rxRsc ≠ iv32Of (s.wkKeyrsc (ieee80211Gettid f.wh))))) := rfl
  rw [hdone, hok]
  simp only [Bool.not_true, Bool.false_and, Bool.not_false, Bool.and_true, Bool.or_eq_true, decide_eq_true_eq]
  cases hd : s.ctx.rxPhase1Done with
  | true => exact .inr rfl
  | false => exact .inl (.inr hd)

/-- A frame whose ICV is right is decrypted with the same key when it comes again. -/
theorem decrypt_again {f : RxFrame} (hok : (tkipDecrypt wep key (s.readRsc f) f).ok = true) :
    (tkipDecrypt wep key ((tkipDecrypt wep key (s.readRsc f) f).state.readRsc f) f).ok = true := by
  obtain ⟨httak, -, -⟩ := decrypt_spec wep key (s.readRsc f) f
  obtain ⟨httak', -, -⟩ := decrypt_spec wep key ((tkipDecrypt wep key (s.readRsc f) f).state.readRsc f) f
  have hdone := decrypt_done hok
  have hkeep : (tkipDecrypt wep key (s.readRsc f) f).state.wkKeyrsc = s.wkKeyrsc := rfl
  rw [decrypt_ok] at hok ⊢
  have hsame : (tkipDecrypt wep key ((tkipDecrypt wep key (s.readRsc f) f).state.readRsc f) f).state.ctx.rxTtak =
      (tkipDecrypt wep key (s.readRsc f) f).state.ctx.rxTtak := by
    by_cases hruns : phase1Runs ((tkipDecrypt wep key (s.readRsc f) f).state.readRsc f) f.wh
    · -- its counter has other upper bits than the last one, so the first phase was run before too
      have hruns' : phase1Runs (s.readRsc f) f.wh := by
        obtain hne | hnot := hruns
        · exact .inl hne
        · exact nomatch hnot.symm.trans hdone
      rw [httak', httak, if_pos hruns, if_pos hruns']
      rfl
    · rw [httak', if_neg hruns]
      rfl
  rw [hsame]
  exact hok

theorem skips_again (hiv : m.rx.ivStrip = false) (h : Skips wep key s m) :
    Skips wep key (receive wep key s m).2 m := by
  have hstate : (receive wep key s m).2 = (tkipDecap wep key s m.rx).state := by
    unfold receive tkipDemic
    dsimp only
    rw [if_pos ((decap_ok_iff wep key _ hiv).mpr h.1), if_neg (by rw [show m.demic.failMic = m.failMic from rfl, h.2.1]; exact Bool.false_ne_true)]
    exact if_pos h.2.2
  obtain ⟨hreads, hrep, hicv⟩ := h.1
  refine ⟨⟨hreads, ?_, fun hsw => ?_⟩, h.2⟩
  · unfold replayed at hrep ⊢
    rw [hstate, (decap_state wep key s hiv).1]
    exact hrep
  · rw [hstate, decap_of_decrypts wep key ⟨hreads, hrep, hsw⟩]
    exact decrypt_again (hicv hsw)

/-! ## Runs -/

theorem after_append (s : State) (ms ms' : List Mpdu) :
    after wep key s (ms ++ ms') = after wep key (after wep key s ms) ms' := List.foldl_append

theorem accepted_append : ∀ (s : State) (ms ms' : List Mpdu),
    accepted wep key s (ms ++ ms') = accepted wep key s ms ++ accepted wep key (after wep key s ms) ms'
  | _, [], _ => rfl
  | s, m :: ms, ms' => by
    rw [List.cons_append, accepted, accepted, accepted_append _ ms ms', List.append_assoc]
    rfl

theorem accepted_snoc (s : State) (ms : List Mpdu) (m : Mpdu) :
    accepted wep key s (ms ++ [m]) =
      accepted wep key s ms ++ if (receive wep key (after wep key s ms) m).1 then [m] else [] := by
  rw [accepted_append, accepted, accepted, List.append_nil]

theorem after_snoc (s : State) (ms : List Mpdu) (m : Mpdu) :
    after wep key s (ms ++ [m]) = (receive wep key (after wep key s ms) m).2 := after_append s ms [m]

/-- **The invariant**: the counters that were accepted increase, and `wk_keyrsc` is at least each of them. -/
structure Ahead (s : State) (ms : List Mpdu) : Prop where
  increasing : Increasing ms
  recorded : ∀ m ∈ ms, m.rx.rsc ≤ s.wkKeyrsc m.tid

/-- A frame that passes has a larger counter than all that were accepted for its TID. -/
theorem Ahead.newer {ms : List Mpdu} (h : Ahead s ms) (hreplay : key.noReplay = false) (hp : Passes wep key s m) :
    Increasing (ms ++ [m]) := by
  refine List.pairwise_append.mpr ⟨h.increasing, List.pairwise_singleton _ _, fun m' hm' m'' hm'' htid => ?_⟩
  cases List.mem_singleton.mp hm''
  have hle := h.recorded m' hm'
  have hnew : ¬ m.rx.rsc ≤ s.wkKeyrsc m.tid := fun hold => hp.2.1 ⟨hold, hreplay⟩
  rw [htid] at hle
  exact Nat.lt_of_le_of_lt hle (BitVec.not_le.mp hnew)

/-- **The step lemma**: a frame that does not skip the recording keeps the invariant. -/
theorem Ahead.step {ms : List Mpdu} (h : Ahead s ms) (hreplay : key.noReplay = false) (hiv : m.rx.ivStrip = false)
    (hskips : ¬ Skips wep key s m) :
    Ahead (receive wep key s m).2 (ms ++ if (receive wep key s m).1 then [m] else []) := by
  have hspec := receive_spec wep key s hiv
  generalize receive wep key s m = r at hspec ⊢
  cases hspec with
  | refused hkeep =>
    rw [if_neg Bool.false_ne_true, List.append_nil]
    exact ⟨h.increasing, fun m' hm' => by rw [hkeep]; exact h.recorded m' hm'⟩
  | skipped hskip => exact absurd hskip hskips
  | recorded hp hstrip hupdate =>
    rw [if_pos rfl]
    refine ⟨h.newer hreplay hp, fun m' hm' => ?_⟩
    rw [hupdate]
    have hnew : ¬ m.rx.rsc ≤ s.wkKeyrsc m.tid := fun hold => hp.2.1 ⟨hold, hreplay⟩
    by_cases htid : m'.tid = m.tid
    · rw [htid, Function.update_self]
      obtain hm' | hm' := List.mem_append.mp hm'
      · exact BitVec.le_of_lt (Nat.lt_of_le_of_lt (htid ▸ h.recorded m' hm') (BitVec.not_le.mp hnew))
      · cases List.mem_singleton.mp hm'
        exact BitVec.le_refl _
    · rw [Function.update_of_ne htid]
      obtain hm' | hm' := List.mem_append.mp hm'
      · exact h.recorded m' hm'
      · cases List.mem_singleton.mp hm'
        exact absurd rfl htid

/-- **The run lemma.** -/
theorem ahead_of_no_skips (hreplay : key.noReplay = false) {s : State} {ms : List Mpdu}
    (hiv : ∀ m ∈ ms, m.rx.ivStrip = false)
    (hskips : ∀ pre m, pre ++ [m] <+: ms → ¬ Skips wep key (after wep key s pre) m) :
    Ahead (after wep key s ms) (accepted wep key s ms) := by
  induction ms using List.reverseRecOn with
  | nil => exact ⟨List.Pairwise.nil, fun m hm => nomatch hm⟩
  | append_singleton ms m ih =>
    rw [after_snoc, accepted_snoc]
    refine (ih (fun m' hm' => hiv m' (List.mem_append_left _ hm')) fun pre m' hpre => ?_).step hreplay
      (hiv m (List.mem_append_right _ (List.mem_singleton_self m))) (hskips ms m List.prefix_rfl)
    exact hskips pre m' (hpre.trans (List.prefix_append ms [m]))

theorem accepted_twice (s : State) (ms : List Mpdu) (hiv : m.rx.ivStrip = false)
    (hskips : Skips wep key (after wep key s ms) m) :
    accepted wep key s (ms ++ [m] ++ [m]) = accepted wep key s ms ++ [m] ++ [m] := by
  rw [accepted_snoc, accepted_snoc, if_pos (receive_of_skips hiv hskips), after_snoc,
    if_pos (receive_of_skips hiv (skips_again hiv hskips))]

/-- **The counters that are accepted increase, whatever frame comes next, exactly when no frame takes the path of
    `tkip_demic` that does not record its counter.** -/
theorem replay_protected_iff (wep : List Byte → List Byte → Bool) (key : Key) (s : State) (ms : List Mpdu)
    (hreplay : key.noReplay = false) (hiv : ∀ m ∈ ms, m.rx.ivStrip = false) :
    ReplayProtected wep key s ms ↔ ∀ pre m, pre ++ [m] <+: ms → ¬ Skips wep key (after wep key s pre) m := by
  constructor
  · intro h pre m hpre hskips
    have hivm : m.rx.ivStrip = false := hiv m (hpre.subset (by simp))
    have hincreasing := h.increasing (pre ++ [m]) hpre m hivm
    rw [accepted_twice s pre hivm hskips] at hincreasing
    have hlt : m.rx.rsc < m.rx.rsc :=
      (List.pairwise_append.mp hincreasing).2.2 m (by simp) m (List.mem_singleton_self m) rfl
    exact BitVec.lt_irrefl _ hlt
  · intro hskips
    refine ⟨fun pre hpre m hivm => ?_, fun pre _ m hivm hret => ?_⟩
    · have hahead : Ahead (after wep key s pre) (accepted wep key s pre) :=
        ahead_of_no_skips hreplay (fun m' hm' => hiv m' (hpre.subset hm'))
          fun pre' m' hpre' => hskips pre' m' (hpre'.trans hpre)
      rw [accepted_snoc]
      have hspec := receive_spec wep key (after wep key s pre) hivm
      generalize receive wep key (after wep key s pre) m = r at hspec ⊢
      cases hspec with
      | refused =>
        rw [if_neg Bool.false_ne_true, List.append_nil]
        exact hahead.increasing
      | skipped hskip => exact hahead.newer hreplay hskip.1
      | recorded hp => exact hahead.newer hreplay hp
    · have hspec := receive_spec wep key (after wep key s pre) hivm
      generalize receive wep key (after wep key s pre) m = r at hspec hret ⊢
      cases hspec with
      | refused hkeep => exact hkeep
      | skipped => cases hret
      | recorded => cases hret

/-- A frame of TID 0 with this counter; its ICV and MIC are right. -/
def countedMpdu (iv16 : Byte) (mmicStrip : Bool) : Mpdu :=
  { rx := tidFrame 0 0 iv16, failMic := false, mmicStrip := mmicStrip, force := false, micOk := true }

def deviceKey : Key := { zeroKey with swDecrypt := false }

/-- Two frames with their MIC. -/
theorem replay_protected_counted :
    ReplayProtected (fun _ _ => true) deviceKey (State.start fun _ => 0) [countedMpdu 1 false, countedMpdu 2 false] := by
  refine (replay_protected_iff _ _ _ _ rfl (by simp [countedMpdu, tidFrame])).mpr fun pre m hpre hskips => ?_
  have hm : m ∈ [countedMpdu 1 false, countedMpdu 2 false] := hpre.subset (by simp)
  have hstrip := hskips.2.2
  simp only [List.mem_cons, List.not_mem_nil, or_false] at hm
  obtain rfl | rfl := hm
  · cases hstrip
  · cases hstrip

/-- **A frame without its MIC is accepted twice.** -/
theorem stripped_accepted_twice :
    ¬ Increasing (accepted (fun _ _ => true) deviceKey (State.start fun _ => 0)
      [countedMpdu 1 true, countedMpdu 1 true]) := by
  have hskips : Skips (fun _ _ => true) deviceKey (after (fun _ _ => true) deviceKey (State.start fun _ => 0) [])
      (countedMpdu 1 true) := by
    refine ⟨⟨by decide, by decide, nofun⟩, rfl, rfl⟩
  have htwice := accepted_twice (State.start fun _ => 0) [] rfl hskips
  rw [List.nil_append] at htwice
  intro h
  rw [show [countedMpdu 1 true, countedMpdu 1 true] = [countedMpdu 1 true] ++ [countedMpdu 1 true] from rfl, htwice] at h
  have hlt : (countedMpdu 1 true).rx.rsc < (countedMpdu 1 true).rx.rsc :=
    (List.pairwise_append.mp h).2.2 _ (by simp) _ (List.mem_singleton_self _) rfl
  exact BitVec.lt_irrefl _ hlt

end Net80211.TkipRx
