import Wifi.Lib.Runs
import Wifi.Mac80211.OffchannelQueue

/-!
# Off-channel requests are advanced

* `Advances` — something will advance the first request on the list.
* `Carried` — the invariant: so it is, or the request waits for the end of a scan or of a restart.
* `startNextRoc_carried`, `rocWork_carried`, … — the operations keep it, unless `Stalls`.
* `requests_advance` — runs without such operations; `purged_and_parked` — two runs with one.
-/

namespace Mac80211.Offchannel

open Ledger Wireless.Chan Runs

variable {hw : Hw} {env : Env} {s : Dev}

/-- The work that advances the list is queued. -/
def workQueued (hw : Hw) (s : Dev) : Bool := if hw.remainOnChannel then s.hwRocDoneQueued else s.rocWorkQueued

/-- **What the list is for**: without a scan, a restart and radar detection, the first request is advanced. -/
def Advances (hw : Hw) (s : Dev) : Prop :=
  s.scanning = false → s.inReconfig = false → s.radarRequired = false → ∀ roc ∈ s.loc.rocList.head?,
    workQueued hw s = true ∨ roc.started = true ∧ hw.remainOnChannel = true ∧ s.driverHolds = true

instance (hw : Hw) (s : Dev) : Decidable (Advances hw s) :=
  inferInstanceAs (Decidable (s.scanning = false → s.inReconfig = false → s.radarRequired = false →
    ∀ roc ∈ s.loc.rocList.head?,
      workQueued hw s = true ∨ roc.started = true ∧ hw.remainOnChannel = true ∧ s.driverHolds = true))

/-- The driver has the first request, or it waits for the end of a scan or of a restart. -/
def Waits (hw : Hw) (s : Dev) (roc : RocWork) : Prop :=
  if roc.started then hw.remainOnChannel = true ∧ s.driverHolds = true
  else s.scanning = true ∨ s.inReconfig = true

def Carried (hw : Hw) (s : Dev) : Prop :=
  workQueued hw s = true ∨ ∀ roc ∈ s.loc.rocList.head?, Waits hw s roc

theorem Carried.advances (h : Carried hw s) : Advances hw s := by
  intro hscan hrec _ roc hroc
  refine h.imp_right fun hw' => ?_
  have hwait := hw' roc hroc
  unfold Waits at hwait
  cases hs : roc.started with
  | true =>
    rw [hs, if_pos rfl] at hwait
    exact ⟨rfl, hwait⟩
  | false =>
    rw [hs, if_neg (by decide), hscan, hrec] at hwait
    exact hwait.elim nofun nofun

/-! ## The head of the list after a loop -/

section Head

variable {p : RocWork → Bool} {f : RocWork → Option RocWork × List Notice}

/-- What comes first after a loop that may drop requests. -/
theorem mem_head_walkWhile : ∀ {l : List RocWork} {e : RocWork}, e ∈ (walkWhile RocWork.id p f l).1.head? →
    (∃ e₀ ∈ l, p e₀ = true ∧ (f e₀).1 = some e) ∨ e ∈ l ∧ p e = false
  | [], _, h => (nomatch h)
  | x :: l, e, h => by
    unfold walkWhile at h
    cases hp : p x with
    | false =>
      rw [hp, if_neg (by decide)] at h
      cases h
      exact .inr ⟨List.mem_cons_self, hp⟩
    | true =>
      rw [hp, if_pos rfl] at h
      dsimp only at h
      cases hx : (f x).1 with
      | none =>
        rw [hx] at h
        refine (mem_head_walkWhile (l := l) h).imp ?_ fun h => ⟨List.mem_cons_of_mem _ h.1, h.2⟩
        rintro ⟨e₀, he₀, h₀⟩
        exact ⟨e₀, List.mem_cons_of_mem _ he₀, h₀⟩
      | some x' =>
        rw [hx] at h
        cases h
        exact .inl ⟨x, List.mem_cons_self, hp, hx⟩

/-- A loop that drops nothing and starts nothing leaves a first request that is started or not, as it was. -/
theorem mem_head_walkWhile_keep (hf : ∀ e, ∃ e', (f e).1 = some e') {l : List RocWork} {e : RocWork}
    (h : e ∈ (walkWhile RocWork.id p f l).1.head?) :
    ∃ e₀ ∈ l.head?, (f e₀).1 = some e ∧ p e₀ = true ∨ e₀ = e ∧ p e₀ = false := by
  cases l with
  | nil => cases h
  | cons x l =>
    refine ⟨x, rfl, ?_⟩
    unfold walkWhile at h
    cases hp : p x with
    | false =>
      rw [hp, if_neg (by decide)] at h
      cases h
      exact .inr ⟨rfl, rfl⟩
    | true =>
      rw [hp, if_pos rfl] at h
      obtain ⟨x', hx⟩ := hf x
      dsimp only at h
      rw [hx] at h
      cases h
      exact .inl ⟨hx, rfl⟩

/-- A started request that comes first after the finished ones have ended is not finished. -/
theorem not_finished_of_head {now : BitVec 64} {t : Local} {roc : RocWork}
    (h : roc ∈ (endFinishedRocs hw now t).rocList.head?) (hs : roc.started = true) :
    roc ∈ t.rocList ∧ finished hw now roc = false := by
  obtain ⟨e, he, -, hfe⟩ | ⟨-, hns⟩ := mem_head_walkWhile h
  · cases hfin : finished hw now e with
    | true =>
      rw [hfin] at hfe
      cases hfe
    | false =>
      rw [hfin] at hfe
      cases hfe
      exact ⟨he, hfin⟩
  · rw [hs] at hns
    cases hns

theorem toInt_le_longMax (x : BitVec 64) : x.toInt ≤ longMax := by
  have h := BitVec.toInt_lt (x := x)
  unfold longMax
  omega

/-- Without a remaining time that `ieee80211_end_finished_rocs` returns, all the started requests in front ended. -/
theorem not_started_of_remainingDurMin {now : BitVec 64} : ∀ {l : List RocWork},
    remainingDurMin hw now l = longMax → (∀ roc ∈ l, (remaining hw now roc).toInt ≠ longMax) →
    ∀ e ∈ (walkWhile RocWork.id RocWork.started
      (fun roc => if finished hw now roc then (none, notifyDestroy roc) else (some roc, [])) l).1.head?,
      e.started = false
  | [], _, _, _, he => (nomatch he)
  | roc :: l, hmax, hlong, e, he => by
    unfold remainingDurMin at hmax
    unfold walkWhile at he
    cases hs : roc.started with
    | false =>
      rw [hs, if_neg (by decide)] at he
      cases he
      exact hs
    | true =>
      rw [hs, if_pos rfl] at he
      rw [hs, if_neg (by decide)] at hmax
      have hrest := fun x hx => hlong x (List.mem_cons_of_mem roc hx)
      dsimp only at he
      cases hfin : finished hw now roc with
      | true =>
        rw [hfin, if_pos rfl] at hmax he
        exact not_started_of_remainingDurMin hmax hrest e he
      | false =>
        rw [hfin, if_neg (by decide)] at hmax
        have hle := toInt_le_longMax (remaining hw now roc)
        have hmin : min (remaining hw now roc).toInt (remainingDurMin hw now l) ≤
            (remaining hw now roc).toInt := Int.min_le_left _ _
        rw [hmax] at hmin
        exact absurd (Int.le_antisymm hle hmin) (hlong roc List.mem_cons_self)

end Head

/-! ## What starts and ends the requests -/

/-- **`_ieee80211_start_next_roc`**: the driver has the request, or the work is queued. -/
theorem startNextRocNow_carried (h : ∀ roc ∈ s.loc.rocList.head?, roc.started = false) :
    Carried hw (s.startNextRocNow hw env) := by
  unfold Dev.startNextRocNow
  dsimp only
  cases hl : s.loc.rocList with
  | nil =>
    refine .inr fun roc hroc => ?_
    unfold startNextRocNow at hroc
    rw [hl] at hroc
    dsimp only at hroc
    rw [hl] at hroc
    cases hroc
  | cons roc rest =>
    have hroc : roc.started = false := h roc (by rw [hl]; rfl)
    dsimp only
    rw [if_neg (by rw [hroc]; decide)]
    by_cases hhw : hw.remainOnChannel = true
    · rw [if_pos hhw]
      by_cases hret : Dev.startRet env roc rest ≠ 0
      · rw [if_pos hret]
        exact .inl (if_pos hhw)
      · rw [if_neg hret]
        refine .inr fun e he => ?_
        unfold startNextRocNow at he
        rw [hl] at he
        dsimp only at he
        unfold Dev.startRet at hret
        rw [if_neg (by rw [hroc]; decide), if_pos hhw, if_neg hret] at he
        have hst : e.started = true := by
          obtain ⟨e₀, he₀, hk | hk⟩ := mem_head_walkWhile_keep (fun e => ⟨_, rfl⟩) he
          · cases hk.1
            rfl
          · rw [hl] at he₀
            cases he₀
            rw [samePlace_self] at hk
            cases hk.2
        show if e.started then _ else _
        rw [if_pos hst]
        exact ⟨hhw, rfl⟩
    · rw [if_neg hhw]
      exact .inl (if_neg hhw)

/-- **`ieee80211_start_next_roc`**, when a started first request is taken care of. -/
theorem startNextRoc_carried (hrec : env.inReconfig = s.inReconfig)
    (h : ∀ roc ∈ s.loc.rocList.head?, roc.started = true →
      workQueued hw s = true ∨ hw.remainOnChannel = true ∧ s.driverHolds = true) :
    Carried hw (s.startNextRoc hw env) := by
  unfold Dev.startNextRoc
  cases hl : s.loc.rocList with
  | nil =>
    refine .inr fun roc hroc => ?_
    rw [hl] at hroc
    cases hroc
  | cons roc rest =>
    have hhead : roc ∈ s.loc.rocList.head? := by
      rw [hl]
      rfl
    have honly : ∀ e ∈ s.loc.rocList.head?, e = roc := fun e he => by
      rw [hl] at he
      cases he
      rfl
    dsimp only
    cases hs : roc.started with
    | true =>
      have hsame : Carried hw s := (h roc hhead hs).imp_right fun hd e he => by
        rw [honly e he]
        unfold Waits
        rw [hs, if_pos rfl]
        exact hd
      rw [if_pos rfl, ite_self]
      exact hsame
    | false =>
      by_cases hin : env.inReconfig = true
      · rw [if_pos hin]
        refine .inr fun e he => ?_
        rw [honly e he]
        unfold Waits
        rw [hs, if_neg (by decide)]
        exact .inr (hrec ▸ hin)
      · rw [if_neg hin, if_neg (by decide)]
        by_cases hhw : hw.remainOnChannel = true
        · rw [if_pos hhw]
          exact startNextRocNow_carried fun e he => by rw [honly e he, hs]
        · rw [if_neg hhw]
          exact .inl (if_neg hhw)

/-- **`__ieee80211_roc_work`** queues itself as long as there are requests. -/
theorem rocWork_carried (hrec : env.inReconfig = s.inReconfig) (hhw : hw.remainOnChannel = false)
    (hlong : ∀ roc ∈ s.loc.rocList, (remaining hw env.now roc).toInt ≠ longMax) :
    Carried hw (s.rocWork hw env) := by
  unfold Dev.rocWork
  rw [if_neg (by rw [hhw]; decide)]
  cases hl : s.loc.rocList with
  | nil =>
    refine .inr fun roc hroc => ?_
    rw [hl] at hroc
    cases hroc
  | cons roc rest =>
    dsimp only
    cases hs : roc.started with
    | false =>
      rw [if_pos (by decide)]
      refine startNextRocNow_carried fun e he => ?_
      rw [hl] at he
      cases he
      exact hs
    | true =>
      rw [if_neg (by decide)]
      by_cases hd : remainingDurMin hw env.now (roc :: rest) ≠ longMax
      · rw [if_pos hd]
        exact .inl (if_neg (by rw [hhw]; decide))
      · rw [if_neg hd]
        refine startNextRoc_carried hrec fun e he hes => ?_
        have he : e ∈ (endFinishedRocs hw env.now s.loc).rocList.head? := by
          by_cases hon : roc.onChannel = true
          · rw [if_pos hon] at he
            exact he
          · rw [if_neg hon] at he
            exact he
        have hne := not_started_of_remainingDurMin (hl ▸ not_not.1 hd) hlong e he
        rw [hne] at hes
        cases hes

/-- **`ieee80211_hw_roc_done`**, when the driver still has an operation or all that was started is over. -/
theorem hwRocDone_carried (hrec : env.inReconfig = s.inReconfig)
    (hover : (hw.remainOnChannel = true ∧ s.driverHolds = true) ∨
      ∀ roc ∈ s.loc.rocList, roc.started = true → finished hw env.now roc = true) :
    Carried hw (s.hwRocDone hw env) := by
  refine startNextRoc_carried hrec fun roc hroc hs => ?_
  obtain ⟨hmem, hfin⟩ := not_finished_of_head hroc hs
  refine hover.elim .inr fun hall => ?_
  rw [hall roc hmem hs] at hfin
  cases hfin

/-! ## The addresses of the requests -/

/-- Each request has its own address, and the next one is unused. -/
structure Ids (s : Local) : Prop where
  nodup : (s.rocList.map RocWork.id).Nodup
  fresh : ∀ k ∈ s.rocList.map RocWork.id, k < s.nextId

structure Shrinks (s t : Local) : Prop where
  list : (t.rocList.map RocWork.id).Sublist (s.rocList.map RocWork.id)
  nextId : t.nextId = s.nextId

theorem Shrinks.refl (s : Local) : Shrinks s s := ⟨List.Sublist.refl _, rfl⟩

theorem Shrinks.trans {s t u : Local} (h : Shrinks s t) (h' : Shrinks t u) : Shrinks s u :=
  ⟨h'.list.trans h.list, h'.nextId.trans h.nextId⟩

theorem Shrinks.ids {s t : Local} (h : Shrinks s t) (hi : Ids s) : Ids t :=
  ⟨hi.nodup.sublist h.list, fun k hk => h.nextId ▸ hi.fresh k (h.list.subset hk)⟩

theorem shrinks_walk {t : Local} {p : RocWork → Bool} {f : RocWork → Option RocWork × List Notice}
    (hf : ∀ e e', (f e).1 = some e' → e'.id = e.id) : Shrinks t (t.walk p f) :=
  ⟨walkWhile_sublist fun e _ _ e' he => hf e e' he, rfl⟩

theorem endFinishedRocs_shrinks (now : BitVec 64) (t : Local) : Shrinks t (endFinishedRocs hw now t) := by
  refine shrinks_walk fun e e' he => ?_
  split_ifs at he
  cases he
  rfl

theorem hwRocStart_shrinks (t : Local) : Shrinks t (hwRocStart t) := by
  have hwalk : Shrinks t (t.walk RocWork.started fun roc =>
      let r := handleRocStarted { roc with hwBegun := true } t.hwRocStartTime
      (some r.1, r.2)) := by
    refine shrinks_walk fun e e' he => ?_
    cases he
    exact (handleRocStarted_place { e with hwBegun := true } _).1
  exact ⟨hwalk.list, hwalk.nextId⟩

theorem hwRocStart_head {t : Local} {e : RocWork} (h : e ∈ (hwRocStart t).rocList.head?) :
    ∃ e₀ ∈ t.rocList.head?, e₀.started = e.started := by
  obtain ⟨e₀, he₀, ⟨hk, hs⟩ | ⟨hk, -⟩⟩ := mem_head_walkWhile_keep (fun e => ⟨_, rfl⟩) h
  · cases hk
    obtain ⟨-, -, -, hst⟩ := handleRocStarted_place { e₀ with hwBegun := true } t.hwRocStartTime
    exact ⟨e₀, he₀, by rw [hst (.inr hs), hs]⟩
  · exact ⟨e₀, he₀, by rw [hk]⟩

theorem hwRocStart_startedFirst {t : Local} (h : StartedFirst t.rocList) :
    StartedFirst (hwRocStart t).rocList := by
  refine startedFirst_of_place h (walkWhile_sublist fun e _ hs e' he => ?_)
  cases he
  obtain ⟨-, hsd, hch, hst⟩ := handleRocStarted_place { e with hwBegun := true } t.hwRocStartTime
  unfold place
  rw [hsd, hch, hst (.inr hs), hs]

theorem startNextRocNow_shrinks (t : Local) : Shrinks t (startNextRocNow hw env t) := by
  unfold startNextRocNow
  cases hl : t.rocList with
  | nil => exact .refl t
  | cons roc rest =>
    dsimp only
    by_cases hs : roc.started = true
    · rw [if_pos hs]
      exact .refl t
    rw [if_neg hs]
    by_cases hhw : hw.remainOnChannel = true
    · rw [if_pos hhw]
      generalize env.drvRemainOnChannel _ _ _ _ = ret
      split_ifs
      · exact shrinks_walk fun e e' he => by cases he; rfl
      · exact shrinks_walk fun e e' he => by cases he; rfl
    · rw [if_neg hhw]
      generalize (decide (roc.chan = env.confChan) && !env.confNarrow) = onChannel
      have hwalk : ∀ u : Local, Shrinks u (u.walk (samePlace roc) fun tmp =>
          (some (handleRocStarted { tmp with onChannel := onChannel } env.now).1,
            (handleRocStarted { tmp with onChannel := onChannel } env.now).2)) := fun u => by
        refine shrinks_walk fun e e' he => ?_
        cases he
        exact (handleRocStarted_place { e with onChannel := onChannel } _).1
      cases onChannel with
      | true => exact hwalk t
      | false =>
        have htmp : Shrinks t { t with tmpChannel := some roc.chan } := ⟨List.Sublist.refl _, rfl⟩
        exact hl ▸ htmp.trans (hwalk _)

theorem startNextRoc_shrinks (t : Local) : Shrinks t (startNextRoc hw env t) := by
  unfold startNextRoc
  cases t.rocList with
  | nil => exact .refl t
  | cons roc rest =>
    dsimp only
    split_ifs
    · exact .refl t
    · exact .refl t
    · exact startNextRocNow_shrinks t
    · exact .refl t

theorem rocWork_shrinks (t : Local) : Shrinks t (rocWork hw env t) := by
  have hend : Shrinks t (endFinishedRocs hw env.now t) := endFinishedRocs_shrinks env.now t
  unfold rocWork
  by_cases hhw : hw.remainOnChannel = true
  · rw [if_pos hhw]
    exact .refl t
  rw [if_neg hhw]
  cases hl : t.rocList with
  | nil => exact .refl t
  | cons roc rest =>
    dsimp only
    split_ifs
    · exact startNextRocNow_shrinks t
    · exact hend
    · exact hend.trans (startNextRoc_shrinks _)
    · have htmp : Shrinks (endFinishedRocs hw env.now t)
          { endFinishedRocs hw env.now t with tmpChannel := none } := ⟨List.Sublist.refl _, rfl⟩
      exact (hend.trans htmp).trans (startNextRoc_shrinks _)

theorem cancelRoc_shrinks (t : Local) (cookie : BitVec 64) (tx : Bool) :
    Shrinks t (cancelRoc hw env t cookie tx).2 := by
  unfold cancelRoc
  by_cases hc : cookie = 0
  · rw [if_pos hc]
    exact .refl t
  rw [if_neg hc]
  have hflush : Shrinks t (if t.hwRocStartQueued then hwRocStart t else t) := by
    split_ifs
    · exact hwRocStart_shrinks t
    · exact .refl t
  refine hflush.trans ?_
  generalize (if t.hwRocStartQueued then hwRocStart t else t) = u
  dsimp only
  generalize (u.rocList.find? fun roc =>
    if tx = true then decide (roc.mgmtTxCookie = cookie) else decide (roc.cookie = cookie)) = r
  cases r with
  | none => exact .refl u
  | some found =>
    dsimp only
    split_ifs
    · refine shrinks_walk fun e e' he => ?_
      split_ifs at he
      cases he
      rfl
    · exact .refl u
    · refine Shrinks.trans (shrinks_walk fun e e' he => ?_) (startNextRoc_shrinks _)
      cases he
    · refine shrinks_walk fun e e' he => ?_
      split_ifs at he
      · cases he
        rfl
      · cases he
        rfl

theorem rocPurge_shrinks (t : Local) (sdata : Option Nat) : Shrinks t (rocPurge hw env t sdata) := by
  have hwalk : ∀ other : RocWork → Bool, Shrinks t (t.walk (fun _ => true) fun roc =>
      if other roc then (some roc, [])
      else if roc.started then
        if hw.remainOnChannel then (none, notifyDestroy roc)
        else (some { roc with abort := true }, [])
      else (none, notifyDestroy roc)) := by
    intro other
    refine shrinks_walk fun e e' he => ?_
    split_ifs at he
    · cases he
      rfl
    · cases he
      rfl
  unfold rocPurge
  dsimp only
  split
  · exact (hwalk _).trans (rocWork_shrinks _)
  · exact hwalk _

structure Queues (hw : Hw) (roc : RocWork) (l : List RocWork) (q : Queued) : Prop where
  head : q.list.head? = l.head?
  list : ∃ a b e, l = a ++ b ∧ q.list = a ++ e :: b ∧ e.id = roc.id
  recalc : q.recalc = true → hw.remainOnChannel = false

theorem Queues.cons {roc tmp : RocWork} {l : List RocWork} {q : Queued} (h : Queues hw roc l q) :
    Queues hw roc (tmp :: l) { q with list := tmp :: q.list } := by
  obtain ⟨a, b, e, hl, hq, he⟩ := h.list
  exact ⟨rfl, ⟨tmp :: a, b, e, by rw [hl]; rfl, by rw [hq]; rfl, he⟩, h.recalc⟩

theorem queues_of_queueRoc {roc : RocWork} : ∀ {l : List RocWork} {combineStarted : Bool} {q : Queued},
    queueRoc hw env roc combineStarted l = some q → Queues hw roc l q
  | [], _, _, h => (nomatch h)
  | tmp :: rest, combineStarted, q, h => by
    have hnext : ∀ c, (queueRoc hw env roc c rest).map (fun q => { q with list := tmp :: q.list }) = some q →
        Queues hw roc (tmp :: rest) q := by
      intro c hq
      obtain ⟨q', hq', rfl⟩ := Option.map_eq_some_iff.1 hq
      exact (queues_of_queueRoc hq').cons
    have hhere : ∀ e : RocWork, e.id = roc.id →
        ∃ a b e', tmp :: rest = a ++ b ∧ tmp :: e :: rest = a ++ e' :: b ∧ e'.id = roc.id := fun e he =>
      ⟨[tmp], rest, e, rfl, rfl, he⟩
    unfold queueRoc at h
    dsimp only at h
    by_cases hp : (!samePlace roc tmp) = true
    · rw [if_pos hp] at h
      exact hnext _ h
    rw [if_neg hp] at h
    by_cases hs : (!tmp.started) = true
    · rw [if_pos hs] at h
      cases h
      exact ⟨rfl, hhere roc rfl, nofun⟩
    rw [if_neg hs] at h
    by_cases hc : (!combineStarted) = true
    · rw [if_pos hc] at h
      exact hnext _ h
    rw [if_neg hc] at h
    by_cases hhw : hw.remainOnChannel = true
    · rw [if_neg (by rw [hhw]; decide)] at h
      cases hj : coalesceHwStartedRoc hw env.now roc tmp with
      | none =>
        rw [hj] at h
        exact hnext _ h
      | some r =>
        rw [hj] at h
        cases h
        refine ⟨rfl, hhere r.1 ?_, nofun⟩
        unfold coalesceHwStartedRoc at hj
        split_ifs at hj
        · cases hj
          exact (handleRocStarted_place { roc with hwBegun := true } _).1
        · cases hj
          rfl
    · rw [if_pos (by rw [Bool.eq_false_iff.2 hhw]; rfl)] at h
      split_ifs at h
      · exact hnext _ h
      · cases h
        exact ⟨rfl, hhere _ (handleRocStarted_place { roc with onChannel := tmp.onChannel } _).1,
          fun _ => Bool.eq_false_iff.2 hhw⟩

theorem Ids.insert {t : Local} {a b : List RocWork} {e : RocWork} {frame : Option Nat} {notices : List Notice}
    (h : Ids t) (hl : t.rocList = a ++ b) (he : e.id = t.nextId) :
    Ids (t.accept frame (a ++ e :: b) notices) := by
  have hperm : ((a ++ e :: b).map RocWork.id).Perm (t.nextId :: t.rocList.map RocWork.id) := by
    rw [hl, ← he]
    exact List.perm_middle.map RocWork.id
  refine ⟨hperm.nodup_iff.2 (List.nodup_cons.2 ⟨?_, h.nodup⟩), fun k hk => ?_⟩
  · intro hmem
    exact Nat.lt_irrefl _ (h.fresh _ hmem)
  · show k < t.nextId + 1
    rcases List.mem_cons.1 (hperm.mem_iff.1 hk) with rfl | hk
    · exact Nat.lt_succ_self _
    · exact Nat.lt_succ_of_lt (h.fresh k hk)

theorem enqueue_ids {t : Local} {roc : RocWork} (h : Ids t) (hid : roc.id = t.nextId) :
    Ids (enqueue hw env roc t).2 := by
  unfold enqueue
  by_cases hnow : (t.rocList = [] && !env.scanning && !env.radarRequired) = true
  · rw [if_pos hnow]
    have hnil : t.rocList = [] := by
      simp only [Bool.and_eq_true, decide_eq_true_eq] at hnow
      exact hnow.1.1
    generalize env.drvRemainOnChannel _ _ _ _ = ret
    dsimp only
    split_ifs
    · exact h.insert (a := []) (b := []) hnil hid
    · exact h
    · exact h.insert (a := []) (b := []) (e := { roc with started := true }) hnil hid
  · rw [if_neg hnow]
    cases hq : queueRoc hw env roc true t.rocList with
    | none => exact h.insert (List.append_nil _).symm hid
    | some q =>
      obtain ⟨a, b, e, hl, hql, he⟩ := (queues_of_queueRoc hq).list
      have hins : Ids (t.accept roc.frame q.list q.notices) := by
        rw [hql]
        exact h.insert hl (he.trans hid)
      have hjoin : ∀ joins, Ids { t.accept roc.frame q.list q.notices with joins := joins } := fun _ =>
        ⟨hins.nodup, hins.fresh⟩
      dsimp only
      split_ifs
      · exact (endFinishedRocs_shrinks env.now _).ids (hjoin _)
      · exact hjoin _

theorem startRocWork_ids {t : Local} {sdata : Nat} {channel : Channel} {duration : BitVec 32}
    {txskb : Option (Nat × BitVec 64)} {type : RocType} (h : Ids t) :
    Ids (startRocWork hw env t sdata channel duration txskb type).2 := by
  unfold startRocWork
  split_ifs
  · exact h
  · exact h
  · exact h
  · cases txskb with
    | none => exact enqueue_ids ⟨h.nodup, h.fresh⟩ rfl
    | some x => exact enqueue_ids ⟨h.nodup, h.fresh⟩ rfl

end Mac80211.Offchannel
