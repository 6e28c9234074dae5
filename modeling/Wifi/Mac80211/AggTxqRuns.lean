import Wifi.Mac80211.AggTxq

/-!
# A stopped TXQ has a session

* `Stays` — a session stays, as it does while a function is in the driver.
* `Held` — when the TXQ is stopped there is a session, live or waiting to start.
* `stopTxBa_held`, `handleStart_held`, … — each function keeps it.
* `CancelOk`, `StopOk` — the steps that keep it; `txqStop_held` — every run of such steps.
-/

namespace Mac80211.AggTx

open Runs

variable {k : KernelApi} {c : Conf}

/-! ## A session stays -/

structure Stays (s s' : AmpduMlme) : Prop where
  start : s.tidStartTx.isSome = true → s'.tidStartTx.isSome = true
  tx : s.tidTx.isSome = true → s'.tidTx.isSome = true

namespace Stays

variable {s s₁ s₂ : AmpduMlme}

theorem refl (s : AmpduMlme) : Stays s s := ⟨id, id⟩

theorem trans (h₁ : Stays s s₁) (h₂ : Stays s₁ s₂) : Stays s s₂ := ⟨h₂.start ∘ h₁.start, h₂.tx ∘ h₁.tx⟩

theorem modTx (s : AmpduMlme) (f : TidAmpduTx → TidAmpduTx) : Stays s (s.modTx f) := by
  refine ⟨id, fun h => ?_⟩
  show (s.tidTx.map f).isSome = true
  rwa [Option.isSome_map]

theorem modState (s : AmpduMlme) (f : AggState → AggState) : Stays s (s.modState f) := modTx s _

theorem startTxBaSession (s : AmpduMlme) (a : StartArgs) : Stays s (s.startTxBaSession k c a) := by
  unfold AmpduMlme.startTxBaSession
  split_ifs
  · exact refl s
  · exact refl s
  · exact refl s
  · exact refl s
  · exact refl s
  · exact ⟨fun _ => rfl, id⟩

theorem stopTxBaSession (s : AmpduMlme) : Stays s s.stopTxBaSession := by
  unfold AmpduMlme.stopTxBaSession
  exact modState s _

theorem addbaRespTimerExpired (s : AmpduMlme) : Stays s s.addbaRespTimerExpired := by
  unfold AmpduMlme.addbaRespTimerExpired
  split
  · exact refl s
  · split
    · exact refl s
    · dsimp only
      split
      · exact modTx s _
      · exact (modTx s _).trans (stopTxBaSession _)

theorem sessionTimerExpired (s : AmpduMlme) (jiffies : BitVec 64) :
    Stays s (s.sessionTimerExpired k c jiffies) := by
  unfold AmpduMlme.sessionTimerExpired
  split
  · exact refl s
  · split
    · exact refl s
    · dsimp only
      split
      · exact modTx s _
      · split
        · exact (modTx s _).trans (modTx _ _)
        · exact (modTx s _).trans (stopTxBaSession _)

theorem txPrepAgg (s : AmpduMlme) (frame : Frame) (jiffies : BitVec 64) :
    Stays s (s.txPrepAgg c frame jiffies) := by
  unfold AmpduMlme.txPrepAgg
  split
  · exact refl s
  · split
    · exact modTx s _
    · split
      · exact refl s
      · split
        · exact refl s
        · dsimp only
          split
          · exact ⟨id, fun _ => rfl⟩
          · exact ⟨id, fun _ => rfl⟩

theorem runAsync (s : AmpduMlme) (a : Async) : Stays s (s.runAsync k c a) := by
  cases a with
  | startTxBaSession a => exact startTxBaSession s a
  | stopTxBaSession => exact stopTxBaSession s
  | startTxBaCbIrqsafe => exact ⟨id, (modState s _).tx⟩
  | stopTxBaCbIrqsafe => exact ⟨id, (modState s _).tx⟩
  | addbaRespTimerExpired => exact addbaRespTimerExpired s
  | sessionTimerExpired jiffies => exact sessionTimerExpired s jiffies
  | txPrepAgg frame jiffies => exact txPrepAgg s frame jiffies

theorem runAsyncs (as : List Async) : ∀ s : AmpduMlme, Stays s (as.foldl (AmpduMlme.runAsync k c) s) := by
  induction as with
  | nil => exact refl
  | cons a as ih => exact fun s => (runAsync s a).trans (ih _)

theorem drvAmpduAction (s : AmpduMlme) (addr : Nat) (r : DrvReply) (params : AmpduParams) :
    Stays s (s.drvAmpduAction k c addr r params).1 := by
  unfold AmpduMlme.drvAmpduAction
  split
  · exact refl s
  · have hlog : Stays s (s.logEvent (.ampduAction addr params)) := ⟨id, id⟩
    exact hlog.trans (runAsyncs r.meanwhile _)

theorem sendAddbaWithTimeout (s : AmpduMlme) (t : TidAmpduTx) (e : AddbaEnv) :
    Stays s (s.sendAddbaWithTimeout k c t e) := by
  unfold AmpduMlme.sendAddbaWithTimeout
  split
  · exact refl s
  · refine ⟨fun h => ?_, fun h => ?_⟩
    · dsimp only
      split <;> exact h
    · simp only [AmpduMlme.modState, AmpduMlme.modTx, Option.isSome_map]
      split
      · simpa [AmpduMlme.logEvent] using h
      · simpa using h

end Stays

theorem stopTxBa_live {s : AmpduMlme} {t : TidAmpduTx} (ht : s.tidTx = some t)
    (hw : t.state.wantStart = false) (reason : AggStopReason) (r : DrvReply) :
    (s.stopTxBa k c reason r).tidTx.isSome = true := by
  have hsome : ({ s with tidStartTx := none } : AmpduMlme).tidTx.isSome = true := by
    show s.tidTx.isSome = true
    rw [ht]
    rfl
  unfold AmpduMlme.stopTxBa
  dsimp only
  rw [ht]
  dsimp only
  split
  · split
    · exact rfl
    · exact (Stays.drvAmpduAction _ _ r _).tx rfl
  · rw [hw, if_neg Bool.false_ne_true]
    exact (Stays.drvAmpduAction _ _ r _).tx rfl

/-- A session is live after the driver has accepted its start. -/
theorem handleStart_live {s : AmpduMlme} {t : TidAmpduTx} (ht : s.tidTx = some t) {w : WorkEnv}
    (hret : Txq.drvRet w.start = IEEE80211_AMPDU_TX_START_DELAY_ADDBA ∨
      Txq.drvRet w.start = IEEE80211_AMPDU_TX_START_IMMEDIATE ∨ Txq.drvRet w.start = 0) :
    (s.handleStart k c w).tidTx.isSome = true := by
  have hsome : s.tidTx.isSome = true := by
    rw [ht]
    rfl
  unfold AmpduMlme.handleStart
  rw [ht]
  dsimp only
  generalize hm : s.modState (fun b => { b with wantStart := false }) = m
  have hm' : m.tidTx.isSome = true := hm ▸ (Stays.modState s _).tx hsome
  generalize hd : m.drvAmpduAction k c t.addr w.start { action := .txStart, ssn := w.tidSeq } = d
  have hd₁ : d.1.tidTx.isSome = true := hd ▸ (Stays.drvAmpduAction m _ w.start _).tx hm'
  have hd₂ : d.2 = Txq.drvRet w.start := by
    rw [← hd]
    unfold AmpduMlme.drvAmpduAction Txq.drvRet
    split <;> rfl
  generalize hn : d.1.modTx (fun t => { t with ssn := if w.start.inDriver then w.start.ssn else w.tidSeq }) = n
  have hn' : n.tidTx.isSome = true := hn ▸ (Stays.modTx d.1 _).tx hd₁
  rw [hd₂]
  split
  · exact hn'
  · rename_i hdelay
    rw [if_pos (hret.resolve_left hdelay)]
    generalize hq : (if Txq.drvRet w.start = IEEE80211_AMPDU_TX_START_IMMEDIATE then
      n.modState fun b => { b with drvReady := true } else n) = q
    have hq' : q.tidTx.isSome = true := by
      rw [← hq]
      split
      · exact (Stays.modState n _).tx hn'
      · exact hn'
    split
    · exact hq'
    · exact (Stays.sendAddbaWithTimeout q _ _).tx hq'

/-! ## The TXQ -/

namespace Txq

/-- There is a session, live or waiting to start. -/
def HasSession (s : AmpduMlme) : Prop := s.tidStartTx ≠ none ∨ s.tidTx ≠ none

/-- **When the TXQ is stopped there is a session.** -/
def Held (s : Txq) : Prop := s.txqStop = true → HasSession s.mlme

variable {s s' : Txq}

theorem held_of_running (h : s.txqStop = false) : Held s := by
  intro hs
  rw [h] at hs
  cases hs

theorem held_of_live (h : s.mlme.tidTx.isSome = true) : Held s :=
  fun _ => .inr (Option.isSome_iff_ne_none.1 h)

theorem Held.stays (h : Held s) (hstop : s'.txqStop = s.txqStop) (hst : Stays s.mlme s'.mlme) : Held s' := by
  intro hs
  rw [hstop] at hs
  refine (h hs).imp (fun hstart => ?_) fun htx => ?_
  · exact Option.isSome_iff_ne_none.1 (hst.start (Option.isSome_iff_ne_none.2 hstart))
  · exact Option.isSome_iff_ne_none.1 (hst.tx (Option.isSome_iff_ne_none.2 htx))

theorem Held.modTx (h : Held s) (f : TidAmpduTx → TidAmpduTx) : Held { s with mlme := s.mlme.modTx f } :=
  h.stays rfl (.modTx s.mlme f)

theorem aggStartTxq_held (hc : c.txq = true) (s : Txq) : Held (s.aggStartTxq c) := by
  refine held_of_running ?_
  unfold aggStartTxq
  rw [hc]
  rfl

/-- A session that waits to start, and would be cancelled, has not stopped the TXQ. -/
def CancelOk (s : Txq) : Prop := s.mlme.tidStartTx ≠ none → s.txqStop = false

theorem stopTxBa_held (h : Held s) (hw : ∀ t, s.mlme.tidTx = some t → t.state.wantStart = false)
    (hok : CancelOk s) (reason : AggStopReason) (r : DrvReply) : Held (s.stopTxBa k c reason r) := by
  cases ht : s.mlme.tidTx with
  | some t =>
    refine held_of_live ?_
    rw [stopTxBa_mlme]
    exact stopTxBa_live ht (hw t ht) reason r
  | none =>
    refine held_of_running ?_
    unfold stopTxBa
    rw [ht]
    show s.txqStop = false
    by_contra hstop
    have hstop : s.txqStop = true := by simpa using hstop
    rcases h hstop with hstart | htx
    · rw [hok hstart] at hstop
      cases hstop
    · exact htx ht

theorem handleStart_held {t : TidAmpduTx} (ht : s.mlme.tidTx = some t) (hc : c.txq = true) (w : WorkEnv) :
    Held (s.handleStart k c w) := by
  have hlive (hret : drvRet w.start = IEEE80211_AMPDU_TX_START_DELAY_ADDBA ∨
      drvRet w.start = IEEE80211_AMPDU_TX_START_IMMEDIATE ∨ drvRet w.start = 0) :
      Held { s with mlme := s.mlme.handleStart k c w } :=
    held_of_live (handleStart_live ht hret)
  unfold handleStart
  rw [ht]
  dsimp only
  split
  · exact hlive (.inl ‹_›)
  · split
    · exact hlive (.inr ‹_›)
    · exact aggStartTxq_held hc _

theorem aggTxOperational_held (h : Held s) (hi : ∀ t, s.mlme.tidTx = some t → c.txq = true) (r : DrvReply) :
    Held (s.aggTxOperational k c r) := by
  unfold aggTxOperational
  cases ht : s.mlme.tidTx with
  | none =>
    have hsame : s.mlme.aggTxOperational k c r = s.mlme := by
      unfold AmpduMlme.aggTxOperational
      rw [ht]
    rw [hsame]
    exact h
  | some t => exact aggStartTxq_held (hi t ht) _

theorem startTxBaCb_held {t : TidAmpduTx} (h : Held s) (hc : c.txq = true) (w : WorkEnv) :
    Held (s.startTxBaCb k c t w) := by
  have hready := Stays.modState s.mlme fun b => { b with drvReady := true }
  have hsame {m : AmpduMlme} (hm : s.mlme.startTxBaCb k c t w = m) (hst : Stays s.mlme m) :
      Held { s with mlme := s.mlme.startTxBaCb k c t w } :=
    h.stays rfl (hm.symm ▸ hst)
  unfold startTxBaCb
  dsimp only
  split
  · rename_i hd
    refine hsame ?_ (.refl _)
    unfold AmpduMlme.startTxBaCb
    rw [if_pos hd]
  · rename_i hd
    split
    · rename_i hstop
      refine hsame ?_ hready
      unfold AmpduMlme.startTxBaCb
      rw [if_neg hd]
      dsimp only
      rw [if_pos hstop]
    · rename_i hstop
      split
      · rename_i hsent
        refine hsame ?_ (hready.trans (Stays.sendAddbaWithTimeout (k := k) (c := c) _ t w.addba))
        unfold AmpduMlme.startTxBaCb
        rw [if_neg hd]
        dsimp only
        rw [if_neg hstop, if_pos hsent]
      · rename_i hsent
        split
        · refine aggTxOperational_held ?_ (fun _ _ => hc) _
          exact h.modTx _
        · rename_i hresp
          refine hsame ?_ hready
          unfold AmpduMlme.startTxBaCb
          rw [if_neg hd]
          dsimp only
          rw [if_neg hstop, if_neg hsent, if_neg hresp]

theorem stopTxBaCb_held {t : TidAmpduTx} (h : Held s) (hc : c.txq = true) : Held (s.stopTxBaCb c t) := by
  unfold stopTxBaCb
  dsimp only
  split
  · rename_i hst
    have hsame : s.mlme.stopTxBaCb t = s.mlme := by
      unfold AmpduMlme.stopTxBaCb
      rw [if_pos hst]
    rw [hsame]
    exact h
  · exact aggStartTxq_held hc _

theorem workStartCb_held (h : Held s) (hi : Inv c s.mlme) (w : WorkEnv) : Held (s.workStartCb k c w) := by
  unfold workStartCb
  cases ht : s.mlme.tidTx with
  | none => exact h
  | some t =>
    dsimp only
    split
    · exact startTxBaCb_held (held_of_live rfl) (hi.tx t ht).2.2 w
    · exact h

theorem workWantStop_held (h : Held s) (hi : Inv c s.mlme) (w : WorkEnv) :
    Held (s.workWantStop k c w) := by
  unfold workWantStop
  cases ht : s.mlme.tidTx with
  | none => exact h
  | some t =>
    dsimp only
    split
    · have hnone := hi.noStart ht
      refine stopTxBa_held ?_ ?_ ?_ _ _
      · exact h.modTx _
      · intro t' ht'
        rw [modState_some ht] at ht'
        cases ht'
        exact (hi.tx t ht).1.notWantStart
      · exact fun hstart => absurd hnone hstart
    · exact h

theorem testStopCb_held (h : Held s) (hi : Inv c s.mlme) : Held (s.testStopCb c) := by
  unfold testStopCb
  cases ht : s.mlme.tidTx with
  | none => exact h
  | some t =>
    dsimp only
    split
    · exact stopTxBaCb_held (held_of_live rfl) (hi.tx t ht).2.2
    · exact h

theorem baSessionWork_held (h : Held s) (hi : Inv c s.mlme) {w : WorkEnv}
    (hs : s.baSessionWork k c w = some s') : Held s' := by
  have hlive : Held (((s.workStartCb k c w).workWantStop k c w).testStopCb c) := by
    have hi₁ : Inv c (s.workStartCb k c w).mlme := workStartCb_mlme s w ▸ workStartCb_inv hi w
    have hi₂ : Inv c ((s.workStartCb k c w).workWantStop k c w).mlme :=
      workWantStop_mlme (s.workStartCb k c w) w ▸ workWantStop_inv hi₁ w
    exact testStopCb_held (workWantStop_held (workStartCb_held h hi w) hi₁ w) hi₂
  unfold baSessionWork at hs
  cases hstart : s.mlme.tidStartTx with
  | none =>
    rw [hstart] at hs
    cases hs
    exact hlive
  | some t =>
    rw [hstart] at hs
    cases hb : w.blocked with
    | true =>
      rw [hb] at hs
      cases hs
      exact hlive
    | false =>
      rw [hb] at hs
      dsimp only at hs
      split at hs
      · cases hs
      · rename_i htxq
        have htxq : c.txq = true := by simpa using htxq
        split at hs
        · -- fragments are left: the session waits, and the TXQ is stopped
          cases hs
          intro _
          refine .inl ?_
          show s.mlme.tidStartTx ≠ none
          rw [hstart]
          exact Option.some_ne_none t
        · cases hs
          refine handleStart_held (t := t) ?_ htxq w
          dsimp only
          rw [(hi.start t hstart).1]
          rfl

theorem processAddbaResp_held (h : Held s) (hi : Inv c s.mlme) (resp : AddbaResp) (r : DrvReply)
    (expTime now : BitVec 64) : Held (s.processAddbaResp k c resp r expTime now) := by
  unfold processAddbaResp
  cases ht : s.mlme.tidTx with
  | none =>
    have hsame : s.mlme.processAddbaResp k c resp r expTime now = s.mlme := by
      unfold AmpduMlme.processAddbaResp
      rw [ht]
    rw [hsame]
    exact h
  | some t =>
    have hlive {m : AmpduMlme} (hm : s.mlme.processAddbaResp k c resp r expTime now = m)
        (hst : m.tidTx.isSome = true) :
        Held { s with mlme := s.mlme.processAddbaResp k c resp r expTime now } :=
      held_of_live (hm.symm ▸ hst)
    have hsome : s.mlme.tidTx.isSome = true := by
      rw [ht]
      rfl
    have htimer := Stays.modTx s.mlme fun t => { t with addbaRespTimer := none }
    dsimp only
    split
    · rename_i htoken
      refine hlive (m := s.mlme) ?_ hsome
      unfold AmpduMlme.processAddbaResp
      rw [ht]
      dsimp only
      rw [if_pos htoken]
    · rename_i htoken
      split
      · rename_i hstop
        refine hlive ?_ (htimer.tx hsome)
        unfold AmpduMlme.processAddbaResp
        rw [ht]
        dsimp only
        rw [if_neg htoken, if_pos hstop]
      · rename_i hstop
        by_cases hsuccess : resp.success = true ∧
          (if c.maxTxAggregationSubframes < resp.bufSize then c.maxTxAggregationSubframes else resp.bufSize) ≠ 0
        · rw [if_pos hsuccess]
          split
          · rename_i hresp
            refine hlive ?_ (htimer.tx hsome)
            unfold AmpduMlme.processAddbaResp
            rw [ht]
            dsimp only
            rw [if_neg htoken, if_neg hstop, if_pos hsuccess, if_pos hresp]
          · rename_i hresp
            split
            · exact aggStartTxq_held (hi.tx t ht).2.2 _
            · rename_i hready
              refine held_of_live ?_
              unfold AmpduMlme.processAddbaResp
              rw [ht]
              dsimp only
              rw [if_neg htoken, if_neg hstop, if_pos hsuccess, if_neg hresp, if_neg hready]
              simp [AmpduMlme.modTx, ht]
        · rw [if_neg hsuccess]
          have hnone := hi.noStart ht
          refine stopTxBa_held ?_ ?_ ?_ _ _
          · exact h.modTx _
          · intro t' ht'
            rw [modTx_some ht] at ht'
            cases ht'
            exact (hi.tx t ht).1.notWantStart
          · exact fun hstart => absurd hnone hstart

/-! ## Runs -/

/-- The steps that keep it: none cancels a session that waits to start and has stopped the TXQ. -/
def StopOk (s : Txq) : Op → Prop
  | .processDelba .recipient _ => CancelOk s
  | .stopTxBa _ _ => CancelOk s
  | .tearDownBaSessions _ _ => CancelOk s
  | _ => True

/-- Between operations, of a station that has not been freed. -/
def HeldWhileThere (s : Txq) : Prop := s.mlme.destroyed = false → Held s

def Good (c : Conf) (s : Txq) : Prop := Inv c s.mlme ∧ HeldWhileThere s

/-- **One step.** -/
theorem step_held {op : Op} (hi : Inv c s.mlme) (h : HeldWhileThere s)
    (hs : Guarded StopOk (Step k c) s op s') : HeldWhileThere s' := by
  obtain ⟨hok, hs⟩ := hs
  have hw : ∀ t, s.mlme.tidTx = some t → t.state.wantStart = false := fun t ht =>
    (hi.tx t ht).1.notWantStart
  intro hthere
  unfold Step next at hs
  split at hs
  · cases hs
  · rename_i hd
    have h := h (by simpa using hd)
    cases op with
    | async a =>
      cases hs
      exact h.stays rfl (.runAsync s.mlme a)
    | baSessionWork w => exact baSessionWork_held h hi hs
    | processAddbaResp resp r expTime now =>
      cases hs
      exact processAddbaResp_held h hi resp r expTime now
    | processDelba party r =>
      cases hs
      cases party with
      | initiator => exact h
      | recipient => exact stopTxBa_held h hw hok _ r
    | stopTxBa reason r =>
      cases hs
      exact stopTxBa_held h hw hok reason r
    | tearDownBaSessions reason r =>
      cases hs
      have hstop := stopTxBa_held (k := k) (c := c) h hw hok reason r
      unfold tearDownBaSessions
      dsimp only
      split
      · exact testStopCb_held hstop (stopTxBa_mlme s reason r ▸ stopTxBa_inv hi reason r)
      · exact hstop
    | cleanupSingleSta =>
      cases hs
      cases hthere

/-- **A stopped TXQ has a session that will start it**, in every run in which no waiting session that has
    stopped it is cancelled. -/
theorem txqStop_held (k : KernelApi) (c : Conf) (s : Txq)
    (h : Reachable Initial (Guarded StopOk (Step k c)) s) (hd : s.mlme.destroyed = false)
    (hs : s.txqStop = true) : s.mlme.tidStartTx ≠ none ∨ s.mlme.tidTx ≠ none := by
  have hinv : Good c s :=
    h.invariant (fun s h₀ => ⟨h₀.1.inv, fun _ => held_of_running h₀.2⟩) fun s op s' hs hstep =>
      ⟨aggStep_inv hs.1 (next_mlme hstep.2), step_held hs.1 hs.2 hstep⟩
  exact hinv.2 hd hs

def startOp : Op :=
  .async (.startTxBaSession
    { timeout := 0, jiffies := 0, blockBa := false, mfp := false, authorized := true, kzalloc := true })

/-- The work item while fragments are on the TXQ. -/
def fragsOp : Op := .baSessionWork { WorkEnv.idle with frags := true }

/-- A session waits to start, with the TXQ stopped. -/
theorem txqStop_held_waiting : ∃ s, Reachable Initial (Guarded StopOk (Step .linux .ht)) s ∧
    (s.txqStop = true ∧ s.mlme.tidTx = none) ∧ (s.mlme.tidStartTx ≠ none ∨ s.mlme.tidTx ≠ none) := by
  have hrun : (exec (Txq.next .linux .ht) [startOp, fragsOp] { mlme := .fresh, txqStop := false }).map
      (fun s => (s.txqStop, s.mlme.tidTx.isNone, s.mlme.destroyed)) = some (true, true, false) := by
    decide
  have hstart : Initial { mlme := .fresh, txqStop := false } := ⟨⟨rfl, rfl, rfl, rfl, rfl, rfl⟩, rfl⟩
  have hsteps : ∀ op ∈ [startOp, fragsOp], ∀ s s', Txq.next .linux .ht s op = some s' →
      Guarded StopOk (Step .linux .ht) s op s' := by
    intro op hop s s' hs
    refine ⟨?_, hs⟩
    rcases List.mem_cons.1 hop with rfl | hop
    · trivial
    · rw [List.mem_singleton.1 hop]
      trivial
  obtain ⟨s, hr, ho⟩ := exec_observe hstart _ hsteps _ hrun
  simp only [Prod.mk.injEq, Option.isNone_iff_eq_none] at ho
  exact ⟨s, hr, ⟨ho.1, ho.2.1⟩, txqStop_held .linux .ht s hr ho.2.2 ho.1⟩

/-- The peer sends a DELBA in the meantime: the TXQ stays stopped, without a session. -/
theorem txqStop_held_cancelled : ∃ s, Reachable Initial (Step .linux .ht) s ∧
    s.mlme.destroyed = false ∧ s.txqStop = true ∧ s.mlme.tidStartTx = none ∧ s.mlme.tidTx = none := by
  have hrun : (exec (Txq.next .linux .ht) [startOp, fragsOp, .processDelba .recipient .ok]
      { mlme := .fresh, txqStop := false }).map
      (fun s => (s.mlme.destroyed, s.txqStop, s.mlme.tidStartTx.isNone, s.mlme.tidTx.isNone)) =
        some (false, true, true, true) := by
    decide
  have hstart : Initial { mlme := .fresh, txqStop := false } := ⟨⟨rfl, rfl, rfl, rfl, rfl, rfl⟩, rfl⟩
  obtain ⟨s, hr, ho⟩ := exec_observe hstart _ (fun _ _ _ _ h => h) _ hrun
  simp only [Prod.mk.injEq, Option.isNone_iff_eq_none] at ho
  exact ⟨s, hr, ho⟩

end Txq

end Mac80211.AggTx
