import Wifi.Mac80211.OffchannelAdvance

/-!
# Runs in which off-channel requests are advanced

* `Carried.drop_waiting` — a loop that takes off requests that are not started.
* `enqueue_carried`, `cancelRoc_carried`, `rocPurge_carried` — the operations of user space keep the invariant.
* `Sound` — the operation is none of those that leave the list to itself.
* `requests_advance` — the first request is advanced, in every run of such operations; `purged_and_parked` —
  two runs with other ones.
-/

namespace Mac80211.Offchannel

open Ledger Wireless.Chan Runs

variable {hw : Hw} {env : Env} {s : Dev}

/-! ## Operations of user space -/

/-- The first requests are started or not as before, and nothing that carries them is gone. -/
theorem Carried.of_head {t : Dev} (h : Carried hw s) (hq : workQueued hw s = true → workQueued hw t = true)
    (hd : s.driverHolds = true → t.driverHolds = true) (hscan : t.scanning = s.scanning)
    (hrec : t.inReconfig = s.inReconfig)
    (hhead : ∀ e ∈ t.loc.rocList.head?, ∃ e₀ ∈ s.loc.rocList.head?, e₀.started = e.started) : Carried hw t := by
  refine h.imp hq fun hall e he => ?_
  obtain ⟨e₀, he₀, hs⟩ := hhead e he
  have hwait := hall e₀ he₀
  unfold Waits at hwait ⊢
  rw [← hs, hscan, hrec]
  split_ifs at hwait ⊢
  · exact ⟨hwait.1, hd hwait.2⟩
  · exact hwait

theorem head_walkWhile {p : RocWork → Bool} {f : RocWork → Option RocWork × List Notice} {x x' : RocWork}
    {l : List RocWork} (hp : p x = true) (hx : (f x).1 = some x') :
    (walkWhile RocWork.id p f (x :: l)).1.head? = some x' := by
  unfold walkWhile
  rw [if_pos hp]
  dsimp only
  rw [hx]
  rfl

/-- **A loop that takes off requests that are not started.** -/
theorem Carried.drop_waiting {f : RocWork → Option RocWork × List Notice} (h : Carried hw s)
    (hsf : StartedFirst s.loc.rocList)
    (hkeep : ∀ e ∈ s.loc.rocList, e.started = true → ∃ e', (f e).1 = some e')
    (hsame : ∀ e e', (f e).1 = some e' → e'.started = e.started) :
    Carried hw { s with loc := s.loc.walk (fun _ => true) f } := by
  refine h.imp id fun hall e he => ?_
  cases hl : s.loc.rocList with
  | nil =>
    obtain ⟨e₀, he₀, -⟩ | ⟨he₀, -⟩ := mem_head_walkWhile he
    · rw [hl] at he₀
      cases he₀
    · rw [hl] at he₀
      cases he₀
  | cons x rest =>
    have hwait := hall x (by rw [hl]; rfl)
    unfold Waits at hwait ⊢
    by_cases hx : x.started = true
    · obtain ⟨x', hfx⟩ := hkeep x (by rw [hl]; exact List.mem_cons_self) hx
      have hhead : e ∈ (walkWhile RocWork.id (fun _ => true) f (x :: rest)).1.head? := hl ▸ he
      rw [head_walkWhile rfl hfx] at hhead
      cases hhead
      rw [if_pos hx] at hwait
      rw [if_pos ((hsame x e hfx).trans hx)]
      exact hwait
    · rw [if_neg hx] at hwait
      obtain ⟨e₀, he₀, -, hfe⟩ | ⟨-, hfalse⟩ := mem_head_walkWhile he
      · have hns : ¬ e₀.started = true := by
          rw [hl] at he₀ hsf
          rcases List.mem_cons.1 he₀ with rfl | he₀
          · exact hx
          · exact fun hs => hx ((List.pairwise_cons.1 hsf).1 e₀ he₀ hs).1
        rw [if_neg (by rw [hsame e₀ e hfe]; exact hns)]
        exact hwait
      · cases hfalse

theorem Carried.endFinishedRocs (h : Carried hw s) (hhw : hw.remainOnChannel = false) (now : BitVec 64) :
    Carried hw { s with loc := endFinishedRocs hw now s.loc } := by
  refine h.imp id fun hall e he => ?_
  have hhead : e ∈ s.loc.rocList.head? ∧ e.started = false := by
    cases hl : s.loc.rocList with
    | nil =>
      obtain ⟨e₀, he₀, -⟩ | ⟨he₀, -⟩ := mem_head_walkWhile he
      · rw [hl] at he₀
        cases he₀
      · rw [hl] at he₀
        cases he₀
    | cons x rest =>
      have hwait := hall x (by rw [hl]; rfl)
      have hx : x.started = false := by
        refine Bool.eq_false_iff.2 fun hx => ?_
        unfold Waits at hwait
        rw [if_pos hx, hhw] at hwait
        exact absurd hwait.1 (by decide)
      have hwalk : e ∈ (walkWhile RocWork.id RocWork.started
          (fun roc => if finished hw now roc then (none, notifyDestroy roc) else (some roc, []))
          (x :: rest)).1.head? := hl ▸ he
      unfold walkWhile at hwalk
      rw [hx, if_neg (by decide)] at hwalk
      cases hwalk
      exact ⟨rfl, hx⟩
  exact hall e hhead.1

/-- **A new request**: started at once, or behind the first one, or left to the end of the scan. -/
theorem enqueue_carried {roc : RocWork} (h : Carried hw s) (hscan : env.scanning = s.scanning)
    (hradar : env.radarRequired = s.radarRequired) (hns : roc.started = false)
    (hok : s.loc.rocList = [] → s.radarRequired = true → s.scanning = true) :
    Carried hw (s.enqueue hw env roc) := by
  unfold Dev.enqueue
  dsimp only
  by_cases hnow : (s.loc.rocList = [] && !env.scanning && !env.radarRequired) = true
  · rw [if_pos hnow]
    have hnil : s.loc.rocList = [] := by
      simp only [Bool.and_eq_true, decide_eq_true_eq] at hnow
      exact hnow.1.1
    by_cases hhw : hw.remainOnChannel = true
    · rw [if_neg (by rw [hhw]; decide)]
      by_cases hret : env.drvRemainOnChannel roc.sdata roc.chan roc.duration roc.type ≠ 0
      · rw [if_pos hret]
        refine .inr fun e he => ?_
        unfold enqueue at he
        dsimp only at he
        rw [if_pos hnow, if_neg (by rw [hhw]; decide), if_pos hret, hnil] at he
        cases he
      · rw [if_neg hret]
        refine .inr fun e he => ?_
        unfold enqueue at he
        dsimp only at he
        rw [if_pos hnow, if_neg (by rw [hhw]; decide), if_neg hret] at he
        cases he
        exact ⟨hhw, rfl⟩
    · rw [if_pos (by rw [Bool.eq_false_iff.2 hhw]; rfl)]
      exact .inl (if_neg hhw)
  · rw [if_neg hnow]
    cases hq : queueRoc hw env roc true s.loc.rocList with
    | none =>
      dsimp only
      have hloc : (enqueue hw env roc s.loc).2.rocList = s.loc.rocList ++ [roc] := by
        unfold enqueue
        rw [if_neg hnow, hq]
        rfl
      cases hl : s.loc.rocList with
      | nil =>
        refine .inr fun e he => ?_
        dsimp only at he
        rw [hloc, hl] at he
        cases he
        unfold Waits
        rw [if_neg (by rw [hns]; decide)]
        rw [hl, hscan, hradar] at hnow
        cases hsc : s.scanning with
        | true => exact .inl rfl
        | false =>
          have hra : s.radarRequired = true := by
            rw [hsc] at hnow
            simpa using hnow
          rw [hok hl hra] at hsc
          cases hsc
      | cons x rest =>
        refine h.of_head id id rfl rfl fun e he => ⟨e, ?_, rfl⟩
        dsimp only at he
        rw [hloc, hl] at he
        rw [hl]
        exact he
    | some q =>
      dsimp only
      obtain ⟨hhead, -, hrecalc⟩ := queues_of_queueRoc hq
      have hloc : (enqueue hw env roc s.loc).2 = if q.recalc = true then
          endFinishedRocs hw env.now { s.loc.accept roc.frame q.list q.notices with
            joins := s.loc.joins ++
              (q.cur.map fun cur => { cur := cur, duration := roc.duration, now := env.now : Join }).toList }
          else { s.loc.accept roc.frame q.list q.notices with
            joins := s.loc.joins ++
              (q.cur.map fun cur => { cur := cur, duration := roc.duration, now := env.now : Join }).toList } := by
        unfold enqueue
        rw [if_neg hnow, hq]
        rfl
      have hacc : ∀ joins, Carried hw { s with loc :=
          { s.loc.accept roc.frame q.list q.notices with joins := joins } } := fun joins =>
        h.of_head id id rfl rfl fun e he => ⟨e, hhead ▸ he, rfl⟩
      have hall : Carried hw { s with loc := (enqueue hw env roc s.loc).2 } := by
        rw [hloc]
        by_cases hr : q.recalc = true
        · rw [if_pos hr]
          exact (hacc _).endFinishedRocs (hrecalc hr) env.now
        · rw [if_neg hr]
          exact hacc _
      by_cases hr : (q.recalc && remainingDurMin hw env.now q.list ≠ longMax) = true
      · rw [if_pos hr]
        have hsw := hrecalc (Bool.and_eq_true_iff.1 hr).1
        exact .inl (if_neg (by rw [hsw]; decide))
      · rw [if_neg hr]
        exact hall

theorem startRocWork_carried {sdata : Nat} {channel : Channel} {duration : BitVec 32}
    {txskb : Option (Nat × BitVec 64)} {type : RocType} (h : Carried hw s) (hscan : env.scanning = s.scanning)
    (hradar : env.radarRequired = s.radarRequired)
    (hok : s.loc.rocList = [] → s.radarRequired = true → s.scanning = true) :
    Carried hw (s.startRocWork hw env sdata channel duration txskb type) := by
  unfold Dev.startRocWork
  split_ifs
  · exact h
  · exact h
  · exact h
  · cases txskb with
    | none => exact enqueue_carried (s := { s with loc := (mgmtTxCookie s.loc).2 }) h hscan hradar rfl hok
    | some x => exact enqueue_carried h hscan hradar rfl hok

/-- **`ieee80211_cancel_roc`**, with the requests that wait behind the started ones. -/
theorem cancelRoc_carried {cookie : BitVec 64} {tx : Bool} (h : Carried hw s) (hi : Ids s.loc)
    (hrec : env.inReconfig = s.inReconfig) (hsf : StartedFirst s.loc.rocList) :
    Carried hw (s.cancelRoc hw env cookie tx) := by
  unfold Dev.cancelRoc
  by_cases hc : cookie = 0
  · rw [if_pos hc]
    exact h
  rw [if_neg hc]
  dsimp only
  have hflush : Carried hw { s with loc := if s.loc.hwRocStartQueued then hwRocStart s.loc else s.loc } ∧
      Ids (if s.loc.hwRocStartQueued then hwRocStart s.loc else s.loc) ∧
      StartedFirst (if s.loc.hwRocStartQueued then hwRocStart s.loc else s.loc).rocList := by
    by_cases hq : s.loc.hwRocStartQueued = true
    · rw [if_pos hq]
      exact ⟨h.of_head id id rfl rfl fun e he => hwRocStart_head he, (hwRocStart_shrinks _).ids hi,
        hwRocStart_startedFirst hsf⟩
    · rw [if_neg hq]
      exact ⟨h, hi, hsf⟩
  generalize (if s.loc.hwRocStartQueued then hwRocStart s.loc else s.loc) = loc at hflush ⊢
  obtain ⟨hcar, hids, hfirst⟩ := hflush
  cases hfind : loc.rocList.find? fun roc =>
    if tx = true then decide (roc.mgmtTxCookie = cookie) else decide (roc.cookie = cookie) with
  | none => exact hcar
  | some found =>
    dsimp only
    by_cases hst : found.started = true
    · rw [if_neg (by rw [hst]; decide)]
      by_cases hhw : hw.remainOnChannel = true
      · rw [if_pos hhw]
        split_ifs
        · exact hcar
        · refine startNextRoc_carried hrec fun e he hs => ?_
          obtain ⟨e₀, -, -, hfe⟩ | ⟨-, hns⟩ := mem_head_walkWhile he
          · cases hfe
          · rw [hs] at hns
            cases hns
      · rw [if_neg hhw]
        exact .inl (if_neg hhw)
    · rw [if_pos (by rw [Bool.eq_false_iff.2 hst]; rfl)]
      refine hcar.drop_waiting hfirst (fun e he hs => ?_) fun e e' he => ?_
      · refine ⟨e, ?_⟩
        have hne : e.id ≠ found.id := fun heq => by
          have hsame : e = found :=
            List.inj_on_of_nodup_map hids.nodup he (List.mem_of_find?_eq_some hfind) heq
          exact hst (hsame ▸ hs)
        rw [if_neg hne]
      · split_ifs at he
        cases he
        rfl

theorem rocPurge_remaining {sdata : Option Nat} {e e' : RocWork}
    (h : (if Dev.spared sdata e then (some e, []) else
      if e.started then
        if hw.remainOnChannel then (none, notifyDestroy e) else (some { e with abort := true }, [])
      else (none, notifyDestroy e)).1 = some e') :
    e'.started = e.started ∧ (∀ now, remaining hw now e' = remaining hw now e) ∧
      (Dev.spared sdata e = true ∨ e.started = true ∧ hw.remainOnChannel = false) := by
  split_ifs at h with h1 h2 h3
  · cases h
    exact ⟨rfl, fun _ => rfl, .inl h1⟩
  · cases h
    exact ⟨rfl, fun _ => rfl, .inr ⟨h2, Bool.eq_false_iff.2 h3⟩⟩

theorem StartedFirst.sdata_eq {l : List RocWork} (h : StartedFirst l) {a b : RocWork} (ha : a ∈ l) (hb : b ∈ l)
    (has : a.started = true) (hbs : b.started = true) : a.sdata = b.sdata := by
  have hpair : l.Pairwise fun x y => y.started = true → x.started = true → x.sdata = y.sdata :=
    List.Pairwise.imp (fun hxy hy _ => (samePlace_iff.1 (hxy hy).2).1.symm) h
  have hflip : l.Pairwise (flip fun x y => y.started = true → x.started = true → x.sdata = y.sdata) :=
    List.Pairwise.imp (fun hxy hx hy => (hxy hy hx).symm) hpair
  exact List.Pairwise.forall_of_forall_of_flip (fun _ _ _ _ => rfl) hpair hflip ha hb hbs has

/-- **`ieee80211_roc_purge`**, unless it cancels the running operation while others wait. -/
theorem rocPurge_carried {sdata : Option Nat} (h : Carried hw s) (hrec : env.inReconfig = s.inReconfig)
    (hsf : StartedFirst s.loc.rocList)
    (hlong : ∀ roc ∈ s.loc.rocList, (remaining hw env.now roc).toInt ≠ longMax)
    (hok : s.purgeCancels hw sdata = true → s.hwRocDoneQueued = true ∨ s.scanning = true ∨ s.inReconfig = true ∨
      ∀ roc ∈ s.loc.rocList, Dev.spared sdata roc = false) :
    Carried hw (s.rocPurge hw env sdata) := by
  unfold Dev.rocPurge
  dsimp only
  generalize hf : (fun roc : RocWork => if Dev.spared sdata roc = true then (some roc, [])
    else if roc.started = true then
      if hw.remainOnChannel = true then (none, notifyDestroy roc)
      else (some { roc with abort := true }, [])
    else (none, notifyDestroy roc)) = f
  have hrem : ∀ e e', (f e).1 = some e' → e'.started = e.started ∧
      (∀ now, remaining hw now e' = remaining hw now e) ∧
      (Dev.spared sdata e = true ∨ e.started = true ∧ hw.remainOnChannel = false) := fun e e' he => by
    rw [← hf] at he
    exact rocPurge_remaining he
  by_cases hmine : (s.loc.rocList.any fun roc => !Dev.spared sdata roc && roc.started) = true
  · by_cases hhw : hw.remainOnChannel = true
    · -- the running operation is cancelled, and what is left is not started
      rw [if_neg (by rw [hhw, Bool.not_true, Bool.false_and]; decide)]
      obtain ⟨m, hm, hms⟩ := List.any_eq_true.1 hmine
      obtain ⟨hmsp, hmst⟩ := Bool.and_eq_true_iff.1 hms
      have hmsp : Dev.spared sdata m = false := by simpa using hmsp
      have hleft : ∀ e ∈ (s.loc.walk (fun _ => true) f).rocList.head?, e.started = false ∧
          ∃ e₀ ∈ s.loc.rocList, Dev.spared sdata e₀ = true := fun e he => by
        obtain ⟨e₀, he₀, -, hfe⟩ | ⟨-, hfalse⟩ := mem_head_walkWhile he
        · obtain ⟨hst, -, hsp⟩ := hrem e₀ e hfe
          have hsp : Dev.spared sdata e₀ = true := hsp.elim id fun h => by
            rw [hhw] at h
            exact absurd h.2 (by decide)
          refine ⟨Bool.eq_false_iff.2 fun hs => ?_, e₀, he₀, hsp⟩
          have hsd := hsf.sdata_eq he₀ hm (hst.symm.trans hs) hmst
          unfold Dev.spared at hsp hmsp
          rw [hsd, hmsp] at hsp
          cases hsp
        · cases hfalse
      have hcar : ∀ b, Carried hw { s with loc := s.loc.walk (fun _ => true) f, driverHolds := b } := fun b => by
        have hcancel : s.purgeCancels hw sdata = true := by
          unfold Dev.purgeCancels
          rw [hhw, hmine]
          rfl
        obtain hq | hsc | hre | hall := hok hcancel
        · exact .inl ((if_pos hhw).trans hq)
        · refine .inr fun e he => ?_
          unfold Waits
          rw [if_neg (by rw [(hleft e he).1]; decide)]
          exact .inl hsc
        · refine .inr fun e he => ?_
          unfold Waits
          rw [if_neg (by rw [(hleft e he).1]; decide)]
          exact .inr hre
        · refine .inr fun e he => ?_
          obtain ⟨-, e₀, he₀, hsp⟩ := hleft e he
          rw [hall e₀ he₀] at hsp
          cases hsp
      split_ifs
      · exact hcar false
      · exact hcar s.driverHolds
    · have hsw := Bool.eq_false_iff.2 hhw
      rw [if_pos (by rw [hsw, hmine]; rfl)]
      refine rocWork_carried hrec hsw fun e he => ?_
      have hkeep : ∀ e ∈ s.loc.rocList, true = true → ∀ e', (f e).1 = some e' →
          remaining hw env.now e' = remaining hw env.now e := fun e _ _ e' he => (hrem e e' he).2.1 env.now
      have hsub : ((walkWhile RocWork.id (fun _ => true) f s.loc.rocList).1.map (remaining hw env.now)).Sublist
          (s.loc.rocList.map (remaining hw env.now)) := walkWhile_sublist hkeep
      obtain ⟨e₀, he₀, heq⟩ := List.mem_map.1 (hsub.subset (List.mem_map_of_mem he))
      rw [← heq]
      exact hlong e₀ he₀
  · have hspared : ∀ e ∈ s.loc.rocList, e.started = true → Dev.spared sdata e = true := fun e he hs => by
      cases hsp : Dev.spared sdata e with
      | true => rfl
      | false => exact absurd (List.any_eq_true.2 ⟨e, he, by rw [hsp, hs]; rfl⟩) hmine
    have hcan : ¬ (s.loc.rocList.any fun roc =>
        !Dev.spared sdata roc && roc.started && env.drvCancelRemainOnChannel roc.sdata = 0) = true := fun hany => by
      obtain ⟨e, he, hes⟩ := List.any_eq_true.1 hany
      exact hmine (List.any_eq_true.2 ⟨e, he, (Bool.and_eq_true_iff.1 hes).1⟩)
    rw [if_neg (fun hw' => hmine (Bool.and_eq_true_iff.1 hw').2), if_neg hcan]
    refine h.drop_waiting hsf (fun e he hs => ⟨e, ?_⟩) fun e e' he => (hrem e e' he).1
    rw [← hf]
    dsimp only
    rw [if_pos (hspared e he hs)]

/-! ## Runs -/

/-- **The operation is none of those that leave the list to itself**: a request that radar detection keeps waiting,
    the end of an operation of which the hardware has not said that it began, a request that waits in front of a
    started one, a purge that cancels the operation of one interface while requests of others wait, and a restart
    that fails. -/
def Sound (hw : Hw) (s : Dev) (i : Env × DevOp) : Bool :=
  match i.2 with
  | .remainOnChannel _ _ _ | .mgmtTx _ _ _ _ _ =>
    decide (s.loc.rocList = [] → s.radarRequired = true → s.scanning = true)
  | .hwRocDone => decide ((hw.remainOnChannel = true ∧ s.driverHolds = true) ∨
      ∀ roc ∈ s.loc.rocList, roc.started = true → finished hw i.1.now roc = true)
  | .rocWork => decide (∀ roc ∈ s.loc.rocList, (remaining hw i.1.now roc).toInt ≠ longMax)
  | .cancelRoc _ _ => decide (StartedFirst s.loc.rocList)
  | .rocPurge sdata => decide (StartedFirst s.loc.rocList ∧
      (∀ roc ∈ s.loc.rocList, (remaining hw i.1.now roc).toInt ≠ longMax) ∧
      (s.purgeCancels hw sdata = true → s.hwRocDoneQueued = true ∨ s.scanning = true ∨ s.inReconfig = true ∨
        ∀ roc ∈ s.loc.rocList, Dev.spared sdata roc = false))
  | .reconfigFailure => decide (workQueued hw s = true ∨ s.scanning = true ∨
      ∀ roc ∈ s.loc.rocList.head?, roc.started = true)
  | _ => true

theorem run_ids {i : Env × DevOp} (h : Ids s.loc) : Ids (i.2.run hw i.1 s).loc := by
  obtain ⟨env, op⟩ := i
  rw [DevOp.run_loc]
  cases op with
  | remainOnChannel sdata chan duration => exact startRocWork_ids h
  | mgmtTx sdata chan wait skb dontWaitForAck =>
    cases dontWaitForAck with
    | true => exact startRocWork_ids h
    | false => exact startRocWork_ids (t := (mgmtTxCookie s.loc).2) ⟨h.nodup, h.fresh⟩
  | readyOnChannel => exact ⟨h.nodup, h.fresh⟩
  | hwRocStart => exact (hwRocStart_shrinks _).ids h
  | hwRocDone => exact ((endFinishedRocs_shrinks _ _).trans (startNextRoc_shrinks _)).ids h
  | rocWork => exact (rocWork_shrinks _).ids h
  | cancelRoc cookie tx => exact (cancelRoc_shrinks _ _ _).ids h
  | rocPurge sdata => exact (rocPurge_shrinks _ _).ids h
  | scanCompleted => exact (startNextRoc_shrinks _).ids h
  | reconfig => exact (startNextRoc_shrinks _).ids h
  | remainOnChannelExpired => exact h
  | startScan => exact h
  | restartHw => exact h
  | reconfigFailure => exact h
  | radar required => exact h

/-- A first request that the end of a scan or of a restart finds started is carried already. -/
theorem Carried.of_started (h : Carried hw s) : ∀ roc ∈ s.loc.rocList.head?, roc.started = true →
    workQueued hw s = true ∨ hw.remainOnChannel = true ∧ s.driverHolds = true := by
  intro roc hroc hs
  refine h.imp_right fun hall => ?_
  have hwait := hall roc hroc
  unfold Waits at hwait
  rw [if_pos hs] at hwait
  exact hwait

theorem run_carried {i : Env × DevOp} (h : Carried hw s) (hi : Ids s.loc) (hen : i.2.enabled s = true)
    (hok : Sound hw s i = true) : Carried hw (i.2.run hw i.1 s) := by
  obtain ⟨env, op⟩ := i
  cases op with
  | remainOnChannel sdata chan duration =>
    exact startRocWork_carried h rfl rfl (of_decide_eq_true hok)
  | mgmtTx sdata chan wait skb dontWaitForAck =>
    have hcond := of_decide_eq_true hok
    cases dontWaitForAck with
    | true => exact startRocWork_carried h rfl rfl hcond
    | false =>
      exact startRocWork_carried (s := { s with loc := (mgmtTxCookie s.loc).2 }) h rfl rfl hcond
  | readyOnChannel => exact h
  | remainOnChannelExpired =>
    by_cases hhw : hw.remainOnChannel = true
    · exact .inl (if_pos hhw)
    · refine h.imp (fun hq => ?_) fun hall roc hroc => ?_
      · unfold workQueued at hq ⊢
        rw [if_neg hhw] at hq ⊢
        exact hq
      · have hwait := hall roc hroc
        unfold Waits at hwait ⊢
        split_ifs at hwait ⊢
        · exact absurd hwait.1 hhw
        · exact hwait
  | hwRocStart => exact h.of_head id id rfl rfl fun e he => hwRocStart_head he
  | hwRocDone => exact hwRocDone_carried rfl (of_decide_eq_true hok)
  | rocWork =>
    by_cases hhw : hw.remainOnChannel = true
    · have hrun : DevOp.run hw env s .rocWork = { s with rocWorkQueued := false } := by
        unfold DevOp.run Dev.rocWork
        rw [if_pos hhw]
      rw [hrun]
      refine h.of_head (fun hq => ?_) id rfl rfl fun e he => ⟨e, he, rfl⟩
      unfold workQueued at hq ⊢
      rw [if_pos hhw] at hq ⊢
      exact hq
    · exact rocWork_carried rfl (Bool.eq_false_iff.2 hhw) (of_decide_eq_true hok)
  | cancelRoc cookie tx => exact cancelRoc_carried h hi rfl (of_decide_eq_true hok)
  | rocPurge sdata =>
    obtain ⟨hsf, hlong, hc⟩ := of_decide_eq_true hok
    exact rocPurge_carried h rfl hsf hlong hc
  | startScan =>
    have hnil : s.loc.rocList = [] := by
      simp only [DevOp.enabled, Bool.and_eq_true, decide_eq_true_eq] at hen
      exact hen.1
    refine .inr fun roc hroc => ?_
    unfold DevOp.run at hroc
    rw [hnil] at hroc
    cases hroc
  | scanCompleted => exact startNextRoc_carried rfl h.of_started
  | restartHw =>
    refine h.imp id fun hall roc hroc => ?_
    have hwait := hall roc hroc
    unfold Waits at hwait ⊢
    split_ifs at hwait ⊢
    · exact hwait
    · exact .inr rfl
  | reconfig => exact startNextRoc_carried rfl h.of_started
  | reconfigFailure =>
    obtain hq | hsc | hst := of_decide_eq_true hok
    · exact .inl hq
    · refine h.imp id fun hall roc hroc => ?_
      have hwait := hall roc hroc
      unfold Waits at hwait ⊢
      split_ifs at hwait ⊢
      · exact hwait
      · exact .inl hsc
    · refine h.imp id fun hall roc hroc => ?_
      have hwait := hall roc hroc
      unfold Waits at hwait ⊢
      rw [if_pos (hst roc hroc)] at hwait ⊢
      exact hwait
  | radar required => exact h

/-- **Off-channel requests never stall**, in every run of sound operations. -/
theorem requests_advance (hr : Reachable DevSetup (Guarded (fun s i => Sound hw s i = true) (DevStep hw)) s) :
    Advances hw s := by
  have hsetup : ∀ t : Dev, DevSetup t → Carried hw t ∧ Ids t.loc := by
    intro t ht
    have hnil : t.loc.rocList = [] := ht
    refine ⟨.inr fun roc hroc => ?_, ?_, ?_⟩
    · rw [hnil] at hroc
      cases hroc
    · rw [hnil]
      exact List.nodup_nil
    · rw [hnil]
      intro k hk
      cases hk
  have hstep : ∀ (t : Dev) i t', Carried hw t ∧ Ids t.loc →
      Guarded (fun s i => Sound hw s i = true) (DevStep hw) t i t' → Carried hw t' ∧ Ids t'.loc := by
    rintro t i t' ⟨hc, hi⟩ ⟨hok, hen, rfl⟩
    exact ⟨run_carried hc hi hen hok, run_ids hi⟩
  exact (hr.invariant hsetup hstep).1.advances

/-! ## Runs with hardware remain-on-channel -/

def hwAt1000 : Hw where
  remainOnChannel := true
  emulateChanctx := false
  maxRemainOnChannelDuration := 5000
  msecsToJiffies m := m.zeroExtend 64
  jiffiesToMsecs j := j.truncate 32

def freq (centerFreq : BitVec 32) : Channel where
  addr := centerFreq.toNat
  s1g := false
  centerFreq := centerFreq
  freqOffset := 0

def around (now : BitVec 64) : Env where
  now := now
  noMemory := false
  scanning := false
  radarRequired := false
  inReconfig := false
  confChan := freq 2412
  confNarrow := false
  drvRemainOnChannel _ _ _ _ := 0
  drvCancelRemainOnChannel _ := 0

def idle : Dev where
  loc := { rocList := [], hwRocStartTime := 0, hwRocStartQueued := false, rocCookieCounter := 0, tmpChannel := none,
           nextId := 0, log := [], joins := [] }
  rocWorkQueued := false
  hwRocDoneQueued := false
  driverHolds := false
  scanning := false
  inReconfig := false
  radarRequired := false

/-- A request of interface 1 runs to its end while one of interface 2 waits. -/
def twoInterfaces : List (Env × DevOp) :=
  [(around 1000, .remainOnChannel 1 (freq 2437) 100), (around 1001, .remainOnChannel 2 (freq 2462) 100),
    (around 1002, .readyOnChannel), (around 1003, .hwRocStart), (around 1102, .remainOnChannelExpired),
    (around 1103, .hwRocDone)]

def shown (hw : Hw) (s : Dev) : List (Nat × Bool) × Bool × Bool :=
  (s.loc.rocList.map fun roc => (roc.sdata, roc.started), s.driverHolds, decide (Advances hw s))

theorem requests_advance_two : ∃ s, Advances hwAt1000 s ∧ shown hwAt1000 s = ([(2, true)], true, true) := by
  have hrun : (exec (fun s i => if Sound hwAt1000 s i && i.2.enabled s then some (i.2.run hwAt1000 i.1 s) else none)
      twoInterfaces idle).map (shown hwAt1000) = some ([(2, true)], true, true) := by decide
  have hsteps : ∀ i ∈ twoInterfaces, ∀ s s',
      (if Sound hwAt1000 s i && i.2.enabled s then some (i.2.run hwAt1000 i.1 s) else none) = some s' →
      Guarded (fun s i => Sound hwAt1000 s i = true) (DevStep hwAt1000) s i s' := by
    intro i _ s s' h
    split_ifs at h with hok
    cases h
    obtain ⟨hsound, hen⟩ := Bool.and_eq_true_iff.1 hok
    exact ⟨hsound, hen, rfl⟩
  obtain ⟨s, hr, hs⟩ := exec_observe (show DevSetup idle from rfl) twoInterfaces hsteps _ hrun
  exact ⟨s, requests_advance hr, hs⟩

/-- Interface 1 goes away while its request runs and one of interface 2 waits. -/
def purged : List (Env × DevOp) :=
  [(around 1000, .remainOnChannel 1 (freq 2437) 100), (around 1001, .remainOnChannel 2 (freq 2462) 100),
    (around 1002, .rocPurge (some 1))]

/-- A request comes while radar detection is required, which then ends. -/
def parked : List (Env × DevOp) :=
  [(around 1000, .radar true), (around 1001, .remainOnChannel 1 (freq 2437) 100), (around 1002, .radar false)]

/-- **A purge leaves a request of another interface to itself, the end of radar detection leaves one.** -/
theorem purged_and_parked :
    (∃ s, Reachable DevSetup (DevStep hwAt1000) s ∧ s.loc.rocList.map RocWork.sdata = [2] ∧
      ¬ Advances hwAt1000 s) ∧
    ∃ s, Reachable DevSetup (DevStep hwAt1000) s ∧ s.loc.rocList.map RocWork.sdata = [1] ∧
      ¬ Advances hwAt1000 s := by
  have hsteps : ∀ is : List (Env × DevOp), ∀ i ∈ is, ∀ s s',
      (if i.2.enabled s then some (i.2.run hwAt1000 i.1 s) else none) = some s' → DevStep hwAt1000 s i s' := by
    intro is i _ s s' h
    split_ifs at h with hen
    cases h
    exact ⟨hen, rfl⟩
  constructor
  · obtain ⟨s, hr, hs⟩ := exec_observe (show DevSetup idle from rfl) purged (hsteps purged)
      (fun s => (s.loc.rocList.map RocWork.sdata, decide (Advances hwAt1000 s)))
      (show _ = some ([2], false) by decide)
    simp only [Prod.mk.injEq, decide_eq_false_iff_not] at hs
    exact ⟨s, hr, hs⟩
  · obtain ⟨s, hr, hs⟩ := exec_observe (show DevSetup idle from rfl) parked (hsteps parked)
      (fun s => (s.loc.rocList.map RocWork.sdata, decide (Advances hwAt1000 s)))
      (show _ = some ([1], false) by decide)
    simp only [Prod.mk.injEq, decide_eq_false_iff_not] at hs
    exact ⟨s, hr, hs⟩

end Mac80211.Offchannel
