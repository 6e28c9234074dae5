import Wifi.Lib.Runs
import Wifi.Mac80211.AggTxInv

/-!
# Runs of a transmit block-ack session

* `stopTxBa_inv`, `sendAddba_inv`, `handleStart_inv`, … — each function with the wiphy mutex keeps the
  invariant, whatever the other contexts do while it is in the driver.
* `aggStep_inv`, `reachable_inv` — so does every step, and every run.
* `session_safe` — what this says about a session and about the frames that wait for it.
-/

namespace Mac80211.AggTx

open Runs

variable {k : KernelApi} {c : Conf} {s : AmpduMlme} {t t' : TidAmpduTx}

theorem modTx_some (ht : s.tidTx = some t) (f : TidAmpduTx → TidAmpduTx) :
    s.modTx f = { s with tidTx := some (f t) } := by
  unfold AmpduMlme.modTx
  rw [ht]
  rfl

theorem modState_some (ht : s.tidTx = some t) (f : AggState → AggState) :
    s.modState f = { s with tidTx := some { t with state := f t.state } } := modTx_some ht _

theorem Inv.clearStart (hi : Inv c s) : Inv c { s with tidStartTx := none } :=
  ⟨fun _ h => (nomatch h), hi.tx, hi.logAddr, hi.log, hi.queue, hi.fate⟩

/-- **Bits that are set, and none that is cleared.** -/
structure Grown (t t' : TidAmpduTx) : Prop where
  addr : t'.addr = t.addr
  pending : t'.pending = t.pending
  wantStart : t'.state.wantStart = t.state.wantStart
  drvReady : t.state.drvReady = true → t'.state.drvReady = true
  responseReceived : t.state.responseReceived = true → t'.state.responseReceived = true
  sentAddba : t.state.sentAddba = true → t'.state.sentAddba = true
  stopping : t.state.stopping = true → t'.state.stopping = true

theorem TxOk.grown {log : List Event} (h : TxOk log t) (hg : Grown t t')
    (hop : t'.state.operational = true → t'.state.drvReady = true ∧ t'.state.sentAddba = true ∧
      t'.state.responseReceived = true ∧ t'.state.stopping = false)
    (hready : t'.state.drvReady = true →
      t'.state.sentAddba = true ∨ t'.state.wantStop = true ∨ t'.state.stopping = true) :
    TxOk log t' := by
  refine ⟨?_, hop, hready, ?_, ?_, ?_, ?_, ?_, ?_⟩
  · rw [hg.wantStart]
    exact h.notWantStart
  · rw [hg.addr]
    exact h.oneStart
  · rw [hg.addr]
    exact h.oneOper
  · rw [hg.addr]
    exact fun ho => (h.operBits ho).imp hg.drvReady hg.responseReceived
  · rw [hg.addr]
    exact h.oneAddba
  · rw [hg.addr]
    exact fun ha => hg.sentAddba (h.addbaBit ha)
  · rw [hg.addr]
    exact fun hs => hg.stopping (h.stopBit hs)

/-! ## Stopping -/

/-- **The driver is told to stop a session that has been marked.** -/
theorem driverStop_inv (hi : Inv c s) (ht : s.tidTx = some t) (hg : Grown t t')
    (hst : t'.state.stopping = true) (hop : t'.state.operational = false) {params : AmpduParams}
    (hp : params.action.isStop = true) (r : DrvReply) :
    Inv c (({ s with tidTx := some t' } : AmpduMlme).drvAmpduAction k c t'.addr r params).1 := by
  obtain ⟨hok, _⟩ := hi.tx t ht
  have hok' : TxOk s.log t' := by
    refine hok.grown hg ?_ (fun _ => .inr (.inr hst))
    rw [hop]
    exact fun h => (nomatch h)
  have hi' := hi.setTx ht hg.addr hg.pending hok'
  refine (drvAmpduAction_inv _ hi' fun _ => hi'.logEvent rfl rfl (hok'.logStop hp hst) ?_).1
  rw [isAction_self]
  intro ho
  rw [of_decide_eq_true ho] at hp
  cases hp

theorem Grown.setStopping (t : TidAmpduTx) (reason : AggStopReason) : Grown t (t.setStopping reason) :=
  ⟨rfl, rfl, rfl, id, id, id, fun _ => rfl⟩

/-- **`__ieee80211_stop_tx_ba_session`.** -/
theorem stopTxBa_inv (hi : Inv c s) (reason : AggStopReason) (r : DrvReply) :
    Inv c (s.stopTxBa k c reason r) := by
  have hi0 := hi.clearStart
  unfold AmpduMlme.stopTxBa
  dsimp only
  cases ht : s.tidTx with
  | none => rwa [ht] at hi0
  | some t =>
    rw [ht] at hi0
    have ht0 : ({ s with tidStartTx := none, tidTx := some t } : AmpduMlme).tidTx = some t := rfl
    obtain ⟨hok, _⟩ := hi0.tx t ht0
    dsimp only
    cases hst : t.state.stopping with
    | true =>
      rw [if_pos rfl]
      split
      · exact hi0
      · refine (drvAmpduAction_inv _ hi0 fun _ => hi0.logEvent ht0 rfl (hok.logStop rfl hst) ?_).1
        rw [isAction_self]
        exact fun h => (nomatch h)
    | false =>
      rw [if_neg Bool.false_ne_true, hok.notWantStart, if_neg Bool.false_ne_true, modTx_some ht0]
      refine driverStop_inv hi0 ht0 (.setStopping t reason) rfl rfl ?_ r
      dsimp only
      split <;> rfl

/-- A DELBA frame is sent for a session that was there. -/
theorem Inv.logDelba (hi : Inv c s) (hs : s.tidStartTx = none) {a : Nat} (ha : a < s.nextAddr)
    (party : BackParties) : Inv c (s.logEvent (.delba a party)) := by
  have hcount : ∀ b, starts (s.log ++ [.delba a party]) b = starts s.log b ∧
      opers (s.log ++ [.delba a party]) b = opers s.log b ∧
      addbas (s.log ++ [.delba a party]) b = addbas s.log b ∧
      stops (s.log ++ [.delba a party]) b = stops s.log b := by
    intro b
    rw [starts_append, opers_append, addbas_append, stops_append]
    exact ⟨rfl, rfl, rfl, rfl⟩
  refine ⟨?_, ?_, ?_, ⟨?_, ?_, ?_, ?_⟩, hi.queue, hi.fate⟩
  · intro t ht
    exact absurd (ht.symm.trans hs) (fun h => (nomatch h))
  · intro t ht
    obtain ⟨hok, hlt⟩ := hi.tx t ht
    obtain ⟨h1, h2, h3, h4⟩ := hcount t.addr
    refine ⟨⟨hok.notWantStart, hok.operational, hok.ready, ?_, ?_, ?_, ?_, ?_, ?_⟩, hlt⟩
    · exact h1.trans hok.oneStart
    · exact Nat.le_trans (Nat.le_of_eq h2) hok.oneOper
    · exact fun h => hok.operBits (h2 ▸ h)
    · exact Nat.le_trans (Nat.le_of_eq h3) hok.oneAddba
    · exact fun h => hok.addbaBit (h3 ▸ h)
    · exact fun h => hok.stopBit (h4 ▸ h)
  · intro e he
    rcases List.mem_append.1 he with he | he
    · exact hi.logAddr e he
    · rw [List.mem_singleton] at he
      rw [he]
      exact ha
  · intro b
    obtain ⟨h1, h2, _⟩ := hcount b
    exact Nat.le_trans (Nat.le_of_eq h2) (Nat.le_trans (hi.log.oneOper b) (Nat.le_of_eq h1.symm))
  · exact fun b => Nat.le_trans (Nat.le_of_eq (hcount b).1) (hi.log.oneStart b)
  · exact fun b => Nat.le_trans (Nat.le_of_eq (hcount b).2.2.1) (hi.log.oneAddba b)
  · exact hi.log.noneAfterStop.append fun _ h => (nomatch h)

/-- **`ieee80211_stop_tx_ba_cb`.** -/
theorem stopTxBaCb_inv (hi : Inv c s) (ht : s.tidTx = some t) : Inv c (s.stopTxBaCb t) := by
  have hnone := hi.noStart ht
  have hlt := (hi.tx t ht).2.1
  unfold AmpduMlme.stopTxBaCb
  split
  · exact hi
  · have hr := hi.removeTidTx ht
    have hs : s.removeTidTx.tidStartTx = none ∧ s.removeTidTx.nextAddr = s.nextAddr := by
      unfold AmpduMlme.removeTidTx AmpduMlme.splicePackets
      rw [ht]
      exact ⟨hnone, rfl⟩
    dsimp only
    split
    · exact hr.logDelba hs.1 (by rw [hs.2]; exact hlt) _
    · exact hr

theorem testStopCb_inv (hi : Inv c s) : Inv c s.testStopCb := by
  unfold AmpduMlme.testStopCb
  cases ht : s.tidTx with
  | none => exact hi
  | some t =>
    obtain ⟨hok, _⟩ := hi.tx t ht
    have hl : Later t { t with state := { t.state with stopCb := false } } :=
      ⟨rfl, rfl, rfl, rfl, rfl, rfl, rfl, id⟩
    dsimp only
    split
    · exact stopTxBaCb_inv (hi.setTx ht rfl rfl (hok.later hl)) rfl
    · exact hi

/-- A session that is asked to stop is stopped.  Between the two writes nothing says why a session that
    is ready has sent no request; the second sets the bit that does. -/
theorem workWantStop_inv (hi : Inv c s) (w : WorkEnv) : Inv c (s.workWantStop k c w) := by
  unfold AmpduMlme.workWantStop
  cases ht : s.tidTx with
  | none => exact hi
  | some t =>
    obtain ⟨hok, _⟩ := hi.tx t ht
    dsimp only
    split
    · rw [modState_some ht]
      have hg : Grown t { t with state := { t.state with wantStop := false } } :=
        ⟨rfl, rfl, rfl, id, id, id, id⟩
      rcases Bool.eq_false_or_eq_true t.state.stopping with hst | hst
      · have hok' := hok.grown hg hok.operational fun _ => .inr (.inr hst)
        exact stopTxBa_inv (hi.setTx ht hg.addr hg.pending hok') _ _
      · have hns : ¬ t.state.stopping = true := Bool.eq_false_iff.1 hst
        have hnw : ¬ t.state.wantStart = true := Bool.eq_false_iff.1 hok.notWantStart
        unfold AmpduMlme.stopTxBa
        dsimp only
        rw [if_neg hns, if_neg hnw, modTx_some rfl]
        have hg' : Grown t (TidAmpduTx.setStopping .localRequest
            { t with state := { t.state with wantStop := false } }) :=
          ⟨rfl, rfl, rfl, id, id, id, fun _ => rfl⟩
        refine driverStop_inv hi.clearStart ht hg' rfl rfl ?_ w.stop
        rfl
    · exact hi

/-! ## Starting -/

/-- **`ieee80211_send_addba_with_timeout`**, for a session that has sent no request. -/
theorem sendAddba_inv (hi : Inv c s) (ht : s.tidTx = some t) (hs : t.state.sentAddba = false)
    {t1 : TidAmpduTx} (hg : Grown t t1) (hop : t1.state.operational = t.state.operational)
    (hl : t'.addr = t1.addr ∧ t'.state.stopping = t1.state.stopping ∧
      t'.state.wantStop = t1.state.wantStop) (e : AddbaEnv) :
    Inv c (({ s with tidTx := some t1 } : AmpduMlme).sendAddbaWithTimeout k c t' e) := by
  obtain ⟨hok, _⟩ := hi.tx t ht
  have hnop : t1.state.operational = false := by
    rw [hop, Bool.eq_false_iff]
    intro ho
    exact absurd (hok.operational ho).2.1 (Bool.eq_false_iff.1 hs)
  have hnoAddba : addbas s.log t.addr = 0 := by
    refine Nat.eq_zero_of_not_pos fun hpos => ?_
    exact absurd (hok.addbaBit hpos) (Bool.eq_false_iff.1 hs)
  unfold AmpduMlme.sendAddbaWithTimeout
  split
  · rename_i hstop
    rw [Bool.or_eq_true, hl.2.1, hl.2.2] at hstop
    refine hi.setTx ht hg.addr hg.pending (hok.grown hg ?_ fun _ => .inr hstop.symm)
    rw [hnop]
    exact fun h => (nomatch h)
  · have hg2 : Grown t { t1 with
        state := { t1.state with sentAddba := true }
        addbaRespTimer := some (e.jiffies + BitVec.ofNat 64 k.hz) } :=
      ⟨hg.addr, hg.pending, hg.wantStart, hg.drvReady, hg.responseReceived, fun _ => rfl, hg.stopping⟩
    have hok2 := hok.grown hg2 (fun ho => absurd ho (Bool.eq_false_iff.1 hnop)) (fun _ => .inl rfl)
    have hi2 := hi.setTx ht hg2.addr hg2.pending hok2
    have hi3 : Inv c { s with
        tidTx := some { t1 with
          state := { t1.state with sentAddba := true }
          addbaRespTimer := some (e.jiffies + BitVec.ofNat 64 k.hz) }
        lastAddbaReqTime := e.jiffies
        addbaReqNum := s.addbaReqNum + 1 } := ⟨hi2.1, hi2.2, hi2.3, hi2.4, hi2.5, hi2.6⟩
    dsimp only
    split
    · refine hi3.logEvent rfl hl.1 ?_ (fun h => (nomatch h))
      rw [hl.1]
      exact hok2.logAddba (hg.addr ▸ hnoAddba) rfl _ _ _ _
    · exact hi3

theorem isAction_ne {a b : Nat} {params : AmpduParams} {action : AmpduAction}
    (h : params.action ≠ action) : (Event.ampduAction a params).isAction b action = false :=
  decide_eq_false fun hab => h hab.2

theorem isStop_not {a b : Nat} {params : AmpduParams} (h : params.action.isStop = false) :
    (Event.ampduAction a params).isStop b = false := by
  show (decide (a = b) && params.action.isStop) = false
  rw [h, Bool.and_false]

/-- The session that waits to start, when the driver is told. -/
theorem Inv.begin (hi : Inv c s) (hs : s.tidStartTx = some t) (htxq : c.txq = true)
    (params : AmpduParams) (hp : params.action = .txStart) :
    Inv c (({ s with tidStartTx := none, tidTx := some { t with state := {} } } : AmpduMlme).logEvent
      (.ampduAction t.addr params)) := by
  obtain ⟨hnone, _, hpend, hlt, hnot⟩ := hi.start t hs
  obtain ⟨hstarts, hopers, haddbas, hstops⟩ := counts_zero hnot
  have hnotOper : params.action ≠ .txOperational := by
    rw [hp]
    exact fun h => (nomatch h)
  have hnotStop : params.action.isStop = false := by
    rw [hp]
    rfl
  have hone : starts (s.log ++ [.ampduAction t.addr params]) t.addr = 1 := by
    rw [starts_append, isAction_self, hp, hstarts]
    rfl
  have hopers' : ∀ a, opers (s.log ++ [.ampduAction t.addr params]) a = opers s.log a := by
    intro a
    rw [opers_append, isAction_ne hnotOper]
    rfl
  have haddbas' : ∀ a, addbas (s.log ++ [.ampduAction t.addr params]) a = addbas s.log a := by
    intro a
    rw [addbas_append]
    rfl
  have hstops' : ∀ a, stops (s.log ++ [.ampduAction t.addr params]) a = stops s.log a := by
    intro a
    rw [stops_append, isStop_not hnotStop]
    rfl
  have hother : ∀ a, a ≠ t.addr → starts (s.log ++ [.ampduAction t.addr params]) a = starts s.log a := by
    intro a hne
    rw [starts_append, (Event.other (Ne.symm hne)).1]
    rfl
  refine ⟨fun _ h => (nomatch h), ?_, ?_, ⟨?_, ?_, ?_, ?_⟩, ?_, hi.fate⟩
  · intro t0 h0
    cases h0
    refine ⟨⟨rfl, fun h => (nomatch h), fun h => (nomatch h), hone, ?_, ?_, ?_, ?_, ?_⟩, hlt, htxq⟩
    · exact Nat.le_trans (Nat.le_of_eq ((hopers' _).trans hopers)) (Nat.zero_le _)
    · exact fun h => absurd ((hopers' _).trans hopers) (Nat.ne_of_gt h)
    · exact Nat.le_trans (Nat.le_of_eq ((haddbas' _).trans haddbas)) (Nat.zero_le _)
    · exact fun h => absurd ((haddbas' _).trans haddbas) (Nat.ne_of_gt h)
    · exact fun h => absurd ((hstops' _).trans hstops) (Nat.ne_of_gt h)
  · intro e he
    rcases List.mem_append.1 he with he | he
    · exact hi.logAddr e he
    · rw [List.mem_singleton] at he
      rw [he]
      exact hlt
  · intro a
    refine Nat.le_trans (Nat.le_of_eq (hopers' a)) (Nat.le_trans (hi.log.oneOper a) ?_)
    exact Nat.le_trans (Nat.le_add_right _ _) (Nat.le_of_eq (starts_append _ _ a).symm)
  · intro a
    by_cases ha : a = t.addr
    · rw [ha]
      exact Nat.le_of_eq hone
    · exact Nat.le_trans (Nat.le_of_eq (hother a ha)) (hi.log.oneStart a)
  · exact fun a => Nat.le_trans (Nat.le_of_eq (haddbas' a)) (hi.log.oneAddba a)
  · refine hi.log.noneAfterStop.append ?_
    intro a ho
    rw [isAction_ne hnotOper] at ho
    cases ho
  · have hq := hi.queue
    have hnil : pendingOf none = [] := rfl
    have hnil' : pendingOf (some { t with state := {} }) = [] := hpend
    rw [hnone, hnil] at hq
    exact hq.trans (congrArg (s.out.map Prod.fst ++ ·) hnil'.symm)

/-- The session goes when the driver cannot be told of it. -/
theorem Inv.dropStart (hi : Inv c s) (hs : s.tidStartTx = some t) (hp : t'.pending = []) :
    Inv c ({ s with tidStartTx := none, tidTx := some t' } : AmpduMlme).removeTidTx := by
  have hnone := (hi.start t hs).1
  have hi0 := hi.clearStart
  unfold AmpduMlme.removeTidTx AmpduMlme.splicePackets
  dsimp only
  rw [hp, List.map_nil, List.append_nil]
  refine ⟨fun _ h => (nomatch h), fun _ h => (nomatch h), hi0.logAddr, hi0.log, ?_, hi0.fate⟩
  have hq := hi0.queue
  dsimp only at hq
  rwa [hnone] at hq

/-- **`ieee80211_tx_ba_session_handle_start`**, for the session that waited. -/
theorem handleStart_inv (hi : Inv c s) (hs : s.tidStartTx = some t) (htxq : c.txq = true) (w : WorkEnv) :
    Inv c (({ s with tidStartTx := none, tidTx := some t } : AmpduMlme).handleStart k c w) := by
  obtain ⟨_, hstate, hpend, _⟩ := hi.start t hs
  have hclear : ({ t.state with wantStart := false } : AggState) = {} := by
    rw [hstate]
  unfold AmpduMlme.handleStart
  dsimp only
  rw [modState_some rfl, hclear]
  unfold AmpduMlme.drvAmpduAction
  cases hd : w.start.inDriver with
  | false =>
    have hret : ¬ negEIO = IEEE80211_AMPDU_TX_START_DELAY_ADDBA ∧
        ¬ ( negEIO = IEEE80211_AMPDU_TX_START_IMMEDIATE ∨ negEIO = 0) := by decide
    simp only [Bool.not_false, if_true, Bool.false_eq_true, if_false, hret.1, hret.2]
    rw [modTx_some rfl]
    exact hi.dropStart hs hpend
  | true =>
    have hb := hi.begin hs htxq { action := .txStart, ssn := w.tidSeq } rfl
    obtain ⟨hi3, hl⟩ := runAsyncs_kept (k := k) w.start.meanwhile hb
    obtain ⟨t3, ht3, hl3⟩ := hl.tx _ rfl
    have hs3 : t3.state.sentAddba = false := hl3.sentAddba
    simp only [Bool.not_true, Bool.false_eq_true, if_false, if_true]
    generalize List.foldl _ _ w.start.meanwhile = s3 at hi3 ht3 ⊢
    have hl4 : Later t3 { t3 with ssn := w.start.ssn } := ⟨rfl, rfl, rfl, rfl, rfl, rfl, rfl, id⟩
    have hi4 := hi3.setTx ht3 hl4.addr rfl ((hi3.tx t3 ht3).1.later hl4)
    rw [modTx_some ht3]
    by_cases hdelay : w.start.ret = IEEE80211_AMPDU_TX_START_DELAY_ADDBA
    · rw [if_pos hdelay]
      exact hi4
    rw [if_neg hdelay]
    by_cases hgo : w.start.ret = IEEE80211_AMPDU_TX_START_IMMEDIATE ∨ w.start.ret = 0
    · rw [if_pos hgo]
      by_cases himm : w.start.ret = IEEE80211_AMPDU_TX_START_IMMEDIATE
      · rw [if_pos himm, modState_some rfl]
        have hg : Grown { t3 with ssn := w.start.ssn }
            { t3 with ssn := w.start.ssn, state := { t3.state with drvReady := true } } :=
          ⟨rfl, rfl, rfl, fun _ => rfl, id, id, id⟩
        exact sendAddba_inv hi4 rfl hs3 hg rfl ⟨rfl, rfl, rfl⟩ w.addba
      · rw [if_neg himm]
        have hg : Grown { t3 with ssn := w.start.ssn } { t3 with ssn := w.start.ssn } :=
          ⟨rfl, rfl, rfl, id, id, id, id⟩
        exact sendAddba_inv hi4 rfl hs3 hg rfl ⟨rfl, rfl, rfl⟩ w.addba
    · rw [if_neg hgo]
      exact hi4.removeTidTx rfl

/-- **`ieee80211_agg_tx_operational`**, for a session that the driver has not been told of. -/
theorem aggTxOperational_inv (hi : Inv c s) (ht : s.tidTx = some t) (h0 : opers s.log t.addr = 0)
    (hd : t.state.drvReady = true) (hs : t.state.sentAddba = true) (hr : t.state.responseReceived = true)
    (hst : t.state.stopping = false) (r : DrvReply) : Inv c (s.aggTxOperational k c r) := by
  obtain ⟨hok, _⟩ := hi.tx t ht
  have hnoStop : stops s.log t.addr = 0 := by
    refine Nat.eq_zero_of_not_pos fun hpos => ?_
    exact absurd (hok.stopBit hpos) (Bool.eq_false_iff.1 hst)
  unfold AmpduMlme.aggTxOperational
  rw [ht]
  dsimp only
  obtain ⟨hi1, hl⟩ := drvAmpduAction_inv (k := k) (r := r)
    { action := .txOperational, bufSize := t.bufSize, amsdu := t.amsdu } hi
    fun _ => hi.logEvent ht rfl (hok.logOper rfl h0 hd hr) fun _ => hnoStop
  obtain ⟨t1, ht1, hl1⟩ := hl t ht
  obtain ⟨hi2, ht2, _⟩ := hi1.splicePackets ht1
  rw [modState_some ht2]
  have hg : Grown { t1 with pending := [] }
      { t1 with pending := [], state := { t1.state with operational := true } } :=
    ⟨rfl, rfl, rfl, id, id, id, id⟩
  have hbits : t1.state.drvReady = true ∧ t1.state.sentAddba = true ∧
      t1.state.responseReceived = true ∧ t1.state.stopping = false := by
    rw [hl1.drvReady, hl1.sentAddba, hl1.responseReceived, hl1.stopping]
    exact ⟨hd, hs, hr, hst⟩
  exact hi2.setTx ht2 rfl rfl
    ((hi2.tx _ ht2).1.grown hg (fun _ => hbits) (fun _ => .inl hbits.2.1))

/-- **`ieee80211_start_tx_ba_cb`.** -/
theorem startTxBaCb_inv (hi : Inv c s) (ht : s.tidTx = some t) (w : WorkEnv) :
    Inv c (s.startTxBaCb k c t w) := by
  obtain ⟨hok, _⟩ := hi.tx t ht
  unfold AmpduMlme.startTxBaCb
  split
  · exact hi
  · rename_i hnd
    have h0 : opers s.log t.addr = 0 :=
      Nat.eq_zero_of_not_pos fun hpos => hnd (hok.operBits hpos).1
    have hg : Grown t { t with state := { t.state with drvReady := true } } :=
      ⟨rfl, rfl, rfl, fun _ => rfl, id, id, id⟩
    have hop : ¬ t.state.operational = true := fun ho => hnd (hok.operational ho).1
    rw [modState_some ht]
    dsimp only
    split
    · rename_i hstop
      rw [Bool.or_eq_true] at hstop
      exact hi.setTx ht hg.addr hg.pending (hok.grown hg (fun ho => absurd ho hop)
        (fun _ => .inr hstop.symm))
    · rename_i hstop
      rw [Bool.or_eq_true, not_or] at hstop
      split
      · rename_i hs
        exact sendAddba_inv hi ht (Bool.not_eq_true' _ ▸ hs) hg rfl ⟨rfl, rfl, rfl⟩ w.addba
      · rename_i hs
        have hs' : t.state.sentAddba = true := by
          cases hb : t.state.sentAddba with
          | true => rfl
          | false =>
            rw [hb] at hs
            exact absurd rfl hs
        have hok1 := hok.grown hg (fun ho => absurd ho hop) (fun _ => .inl hs')
        have hi1 := hi.setTx ht hg.addr hg.pending hok1
        split
        · rename_i hr
          exact aggTxOperational_inv hi1 rfl h0 rfl hs' hr (Bool.eq_false_iff.2 hstop.1) w.operational
        · exact hi1

theorem workStartCb_inv (hi : Inv c s) (w : WorkEnv) : Inv c (s.workStartCb k c w) := by
  unfold AmpduMlme.workStartCb
  cases ht : s.tidTx with
  | none => exact hi
  | some t =>
    have hl : Later t { t with state := { t.state with startCb := false } } :=
      ⟨rfl, rfl, rfl, rfl, rfl, rfl, rfl, id⟩
    dsimp only
    split
    · exact startTxBaCb_inv (hi.setTx ht hl.addr rfl ((hi.tx t ht).1.later hl)) rfl w
    · exact hi

/-- **`ieee80211_ba_session_work`.** -/
theorem baSessionWork_inv (hi : Inv c s) (w : WorkEnv) {s' : AmpduMlme}
    (h : s.baSessionWork k c w = some s') : Inv c s' := by
  unfold AmpduMlme.baSessionWork at h
  split at h
  · rename_i t hs _
    cases htxq : c.txq with
    | false =>
      rw [htxq] at h
      cases h
    | true =>
      rw [htxq, Bool.not_true, if_neg Bool.false_ne_true] at h
      split at h
      · cases h
        exact hi
      · rw [(hi.start t hs).1] at h
        cases h
        exact handleStart_inv hi hs htxq w
  · cases h
    exact testStopCb_inv (workWantStop_inv (workStartCb_inv hi w) w)

/-! ## The peer -/

theorem respReceived_inv (hi : Inv c s) (ht : s.tidTx = some t) (hnr : ¬ t.state.responseReceived = true)
    (hstop : ¬ t.state.wantStop = true ∧ ¬ t.state.stopping = true) (bufSize : BitVec 16) (amsdu : Bool)
    (h1 : t' = { t with
      state := { t.state with responseReceived := true }
      bufSize := bufSize
      amsdu := amsdu }) (r : DrvReply) :
    Inv c (if t.state.drvReady = true then ({ s with tidTx := some t' } : AmpduMlme).aggTxOperational k c r
      else { s with tidTx := some t' }) := by
  obtain ⟨hok, _⟩ := hi.tx t ht
  have h0 : opers s.log t.addr = 0 := Nat.eq_zero_of_not_pos fun hpos => hnr (hok.operBits hpos).2
  have hg : Grown t t' := by
    rw [h1]
    exact ⟨rfl, rfl, rfl, id, fun _ => rfl, id, id⟩
  have hop : ¬ t.state.operational = true := fun ho => hnr (hok.operational ho).2.2.1
  have hok1 : TxOk s.log t' := by
    rw [h1] at hg ⊢
    exact hok.grown hg (fun ho => absurd ho hop) hok.ready
  have hi1 := hi.setTx ht hg.addr hg.pending hok1
  split
  · rename_i hd
    have hs : t.state.sentAddba = true := by
      rcases hok.ready hd with hs | hw | hst
      · exact hs
      · exact absurd hw hstop.1
      · exact absurd hst hstop.2
    rw [h1] at hi1 ⊢
    exact aggTxOperational_inv hi1 rfl h0 hd hs rfl (Bool.eq_false_iff.2 hstop.2) r
  · exact hi1

/-- **`ieee80211_process_addba_resp`.** -/
theorem processAddbaResp_inv (hi : Inv c s) (resp : AddbaResp) (r : DrvReply) (expTime now : BitVec 64) :
    Inv c (s.processAddbaResp k c resp r expTime now) := by
  unfold AmpduMlme.processAddbaResp
  dsimp only
  generalize (if c.maxTxAggregationSubframes < resp.bufSize then c.maxTxAggregationSubframes
    else resp.bufSize) = bufSize
  cases ht : s.tidTx with
  | none => exact hi
  | some t =>
    obtain ⟨hok, _⟩ := hi.tx t ht
    have hl : Later t { t with addbaRespTimer := none } := ⟨rfl, rfl, rfl, rfl, rfl, rfl, rfl, id⟩
    have hi1 := hi.setTx ht hl.addr rfl (hok.later hl)
    dsimp only
    rw [modTx_some ht]
    by_cases htoken : resp.dialogToken ≠ t.dialogToken
    · rw [if_pos htoken]
      exact hi
    rw [if_neg htoken]
    by_cases hstop : (t.state.wantStop || t.state.stopping) = true
    · rw [if_pos hstop]
      exact hi1
    rw [if_neg hstop]
    rw [Bool.or_eq_true, not_or] at hstop
    by_cases hsuccess : resp.success = true ∧ bufSize ≠ 0
    · rw [if_pos hsuccess]
      by_cases hnr : t.state.responseReceived = true
      · rw [if_pos hnr]
        exact hi1
      rw [if_neg hnr]
      generalize hs2 : (if t.state.drvReady = true then
        AmpduMlme.aggTxOperational k c (AmpduMlme.modTx _ _) r else AmpduMlme.modTx _ _) = s2
      have hi2 : Inv c s2 := by
        rw [← hs2, modTx_some rfl]
        exact respReceived_inv hi1 rfl hnr hstop bufSize resp.amsdu rfl r
      have hi3 : Inv c { s2 with addbaReqNum := 0 } := ⟨hi2.1, hi2.2, hi2.3, hi2.4, hi2.5, hi2.6⟩
      refine (hi3.modTx_later fun t _ => ?_).1
      split
      · exact ⟨⟨rfl, rfl, rfl, rfl, rfl, rfl, rfl, id⟩, rfl⟩
      · exact ⟨⟨rfl, rfl, rfl, rfl, rfl, rfl, rfl, id⟩, rfl⟩
    · rw [if_neg hsuccess]
      exact stopTxBa_inv hi1 _ r

theorem processDelba_inv (hi : Inv c s) (party : BackParties) (r : DrvReply) :
    Inv c (s.processDelba k c party r) := by
  cases party with
  | initiator => exact hi
  | recipient => exact stopTxBa_inv hi _ r

theorem tearDownBaSessions_inv (hi : Inv c s) (reason : AggStopReason) (r : DrvReply) :
    Inv c (s.tearDownBaSessions k c reason r) := by
  unfold AmpduMlme.tearDownBaSessions
  dsimp only
  split
  · exact testStopCb_inv (stopTxBa_inv hi reason r)
  · exact stopTxBa_inv hi reason r

theorem cleanupSingleSta_inv (hi : Inv c s) : Inv c s.cleanupSingleSta := by
  unfold AmpduMlme.cleanupSingleSta
  refine ⟨fun _ h => (nomatch h), fun _ h => (nomatch h), hi.logAddr, hi.log, ?_, ?_⟩
  · have hq := hi.queue
    have hnil : pendingOf none = [] := rfl
    dsimp only
    rw [hq, hnil, List.append_nil, List.map_append]
    congr 1
    cases ht : s.tidTx with
    | none => rfl
    | some t =>
      rw [List.map_map]
      exact (List.map_id _).symm
  · intro p hp
    rcases List.mem_append.1 hp with hp | hp
    · exact (hi.fate p hp).imp_right (And.imp_right fun _ => rfl)
    · cases ht : s.tidTx with
      | none =>
        rw [ht] at hp
        cases hp
      | some t =>
        rw [ht] at hp
        obtain ⟨f, _, rfl⟩ := List.mem_map.1 hp
        exact .inr ⟨rfl, rfl⟩

/-! ## Runs -/

/-- **Every step keeps the invariant.** -/
theorem aggStep_inv {op : Op} {s' : AmpduMlme} (hi : Inv c s) (h : AggStep k c s op s') : Inv c s' := by
  unfold AggStep AmpduMlme.next at h
  split at h
  · cases h
  · cases op with
    | async a =>
      cases h
      exact (runAsync_kept hi a).1
    | baSessionWork w => exact baSessionWork_inv hi w h
    | processAddbaResp resp r expTime now =>
      cases h
      exact processAddbaResp_inv hi resp r expTime now
    | processDelba party r =>
      cases h
      exact processDelba_inv hi party r
    | stopTxBa reason r =>
      cases h
      exact stopTxBa_inv hi reason r
    | tearDownBaSessions reason r =>
      cases h
      exact tearDownBaSessions_inv hi reason r
    | cleanupSingleSta =>
      cases h
      exact cleanupSingleSta_inv hi

theorem reachable_inv (hr : Reachable Initial (AggStep k c) s) : Inv c s :=
  hr.invariant (fun _ h => h.inv) fun _ _ _ hi h => aggStep_inv hi h

/-- **What holds of a TID at any time.** -/
structure Safe (s : AmpduMlme) : Prop where
  oneSession : s.tidStartTx = none ∨ s.tidTx = none
  operational : ∀ t, s.tidTx = some t ∨ s.tidStartTx = some t → t.state.operational = true →
    t.state.drvReady = true ∧ t.state.sentAddba = true ∧ t.state.responseReceived = true ∧
      t.state.wantStart = false ∧ t.state.stopping = false
  /-- `IEEE80211_AMPDU_TX_OPERATIONAL` at most once for each `IEEE80211_AMPDU_TX_START` -/
  oneOper : ∀ a, opers s.log a ≤ starts s.log a ∧ starts s.log a ≤ 1
  noneAfterStop : NoneAfterStop s.log
  oneAddba : ∀ a, addbas s.log a ≤ 1
  /-- the frames that are not on `pending` any more, in order, and where they went -/
  queue : s.put = s.out.map Prod.fst ++ pendingOf s.tidTx
  fate : ∀ p ∈ s.out, p.2 = .spliced ∨ (p.2 = .purged ∧ s.destroyed = true)

/-- **In every run, whatever the order of the steps, and whatever runs while a function is in the
    driver.**  A session that is live has a TXQ, since the work item reads it, and then a frame of the
    TX path waits there: the limit of `pending` drops none. -/
theorem session_safe (hr : Reachable Initial (AggStep k c) s) : Safe s := by
  have hi := reachable_inv hr
  refine ⟨?_, ?_, fun a => ⟨hi.log.oneOper a, hi.log.oneStart a⟩, hi.log.noneAfterStop, hi.log.oneAddba,
    hi.queue, hi.fate⟩
  · cases hs : s.tidStartTx with
    | none => exact .inl rfl
    | some t => exact .inr (hi.start t hs).1
  · intro t ht ho
    rcases ht with ht | ht
    · obtain ⟨hok, _⟩ := hi.tx t ht
      obtain ⟨hd, hs, hresp, hst⟩ := hok.operational ho
      exact ⟨hd, hs, hresp, hok.notWantStart, hst⟩
    · rw [(hi.start t ht).2.1] at ho
      cases ho

def AmpduMlme.fresh : AmpduMlme where
  tidStartTx := none
  tidTx := none
  addbaReqNum := 0
  lastAddbaReqTime := 0
  dialogTokenAllocator := 0
  nextAddr := 0
  log := []
  put := []
  out := []
  destroyed := false

/-- A station with HT, and a driver that aggregates. -/
def Conf.ht : Conf where
  reserved := false
  htSupported := true
  band6Ghz := false
  ampduAction := true
  ampduAggregation := true
  txAmpduSetupInHw := false
  tidBelowTspec := true
  vifType := true
  isAdhoc := false
  hasHe := false
  maxTxAggregationSubframes := 64
  txq := true
  tuToJiffies := fun timeout => timeout.setWidth 64

/-- The driver returns 0, and nothing else runs. -/
def DrvReply.ok : DrvReply where
  inDriver := true
  ret := 0
  ssn := 0
  meanwhile := []

def WorkEnv.idle : WorkEnv where
  blocked := false
  frags := false
  tidSeq := 0
  addba := { jiffies := 0, alloc := true }
  start := .ok
  operational := .ok
  stop := .ok

/-- A session that is started, accepted by the peer before the driver is ready, and then operational. -/
theorem session_safe_operational : ∃ s : AmpduMlme, Reachable Initial (AggStep .linux .ht) s ∧
    s.tidTx.map (fun t => t.state.operational) = some true ∧ opers s.log 0 = 1 ∧ Safe s := by
  have hfresh : Initial AmpduMlme.fresh := ⟨rfl, rfl, rfl, rfl, rfl, rfl⟩
  have hrun : (exec (AmpduMlme.next .linux .ht)
      [.async (.startTxBaSession
          { timeout := 0, jiffies := 0, blockBa := false, mfp := false, authorized := true, kzalloc := true }),
        .baSessionWork .idle,
        .processAddbaResp { dialogToken := 1, success := true, bufSize := 64, amsdu := false, timeout := 0 }
          .ok 0 0,
        .async .startTxBaCbIrqsafe,
        .baSessionWork .idle] .fresh).map
      (fun s => (s.tidTx.map fun t => t.state.operational, opers s.log 0)) = some (some true, 1) := by
    decide
  obtain ⟨s, hr, ho⟩ := Runs.exec_observe hfresh _ (fun _ _ _ _ h => h) _ hrun
  simp only [Prod.mk.injEq] at ho
  exact ⟨s, hr, ho.1, ho.2, session_safe hr⟩

end Mac80211.AggTx
