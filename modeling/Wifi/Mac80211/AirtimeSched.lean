import Mathlib.Algebra.Order.BigOperators.Group.List
import Mathlib.Algebra.Order.Group.Nat
import Mathlib.Data.BitVec
import Mathlib.Data.List.Rotate
import Mathlib.Tactic.Common
import Mathlib.Tactic.Ring
import Mathlib.Tactic.SplitIfs
import Wifi.Lib.Runs

/-!
# The airtime round-robin scheduler (`linux/net/mac80211/tx.c`)

* `Txq`, `Airtime`, `State` — the queues, what the stations are charged, and the lists of active queues.
* `ieee80211NextTxq`, `ieee80211ScheduleTxq`, `ieee80211TxqMayTransmit`, `ieee80211TxqScheduleStart` — the scheduler.
* `Step` — calls, in any order; `NextRight`, `SchedulerRight` — what should hold of the choice of a queue, and after every run.
* `scheduler_right` — it does; `debts` — the measure: what the stations of the listed queues owe.

`returned` is not in the source: the queues that were returned since the round began.
-/

namespace Mac80211.AirtimeSched

/-! ## The queues -/

/-- `struct txq_info`, with its `struct ieee80211_txq`. -/
structure Txq where
  sta : Option Nat
  tid : Nat
  ac : Nat
  scheduleRound : BitVec 16

/-- What the stations are charged, by station and access category, and the limits. -/
structure Airtime where
  /-- `sta->airtime[ac].deficit` -/
  deficit : Nat → Nat → BitVec 32
  aqlTxPending : Nat → Nat → BitVec 32
  aqlLimitLow : Nat → Nat → BitVec 32
  aqlLimitHigh : Nat → Nat → BitVec 32
  airtimeWeight : Nat → BitVec 16
  aqlTotalPendingAirtime : BitVec 32
  aqlThreshold : BitVec 32
  aqlAcPendingAirtime : Nat → BitVec 32
  aqlTxqLimitLow : Nat → BitVec 32
  aqlTxqLimitHigh : Nat → BitVec 32
  /-- `NL80211_EXT_FEATURE_AQL` -/
  aql : Bool
  aqlDisable : Bool

/-- The queues, what the stations are charged, `local->active_txqs` and `local->schedule_round`. -/
structure State where
  txq : Nat → Txq
  airtime : Airtime
  activeTxqs : Nat → List Nat
  scheduleRound : Nat → BitVec 16
  returned : Nat → List Nat

def IEEE80211_NUM_TIDS : Nat := 16

/-- **`ieee80211_sta_deficit`** -/
def Airtime.staDeficit (a : Airtime) (sta ac : Nat) : BitVec 32 := a.deficit sta ac - a.aqlTxPending sta ac

/-- `ieee80211_sta_deficit(sta, ac) < 0` -/
def Airtime.inDebt (a : Airtime) (sta ac : Nat) : Bool := (a.staDeficit sta ac).slt 0

/-- `sta->airtime[ac].deficit += sta->airtime_weight` -/
def Airtime.addWeight (a : Airtime) (sta ac : Nat) : Airtime :=
  { a with
    deficit := Function.update a.deficit sta
      (Function.update (a.deficit sta) ac (a.deficit sta ac + (a.airtimeWeight sta).setWidth 32)) }

/-- **`ieee80211_txq_airtime_check`**: the pending airtimes are compared as unsigned. -/
def ieee80211TxqAirtimeCheck (a : Airtime) (txq : Txq) : Bool :=
  if a.aql = false then true
  else if a.aqlDisable then true
  else
    match txq.sta with
    | none => true
    | some sta =>
      if txq.tid = IEEE80211_NUM_TIDS then true
      else if a.aqlTxPending sta txq.ac < a.aqlLimitLow sta txq.ac then true
      else if a.aqlTotalPendingAirtime < a.aqlThreshold ∧ a.aqlTxPending sta txq.ac < a.aqlLimitHigh sta txq.ac then true
      else false

/-- **`ieee80211_txq_schedule_airtime_check`** -/
def ieee80211TxqScheduleAirtimeCheck (s : State) (ac : Nat) : Bool :=
  if s.airtime.aql = false then true
  else
    let numTxq : BitVec 32 := (s.activeTxqs ac).length
    let aqlLimit := (numTxq - 1) * s.airtime.aqlTxqLimitLow ac / 2 + s.airtime.aqlTxqLimitHigh ac
    s.airtime.aqlAcPendingAirtime ac < aqlLimit

def State.setActive (s : State) (ac : Nat) (l : List Nat) : State :=
  { s with activeTxqs := Function.update s.activeTxqs ac l }

/-- `list_move_tail` to the list of the queue. -/
def State.moveTail (s : State) (q : Nat) : State :=
  s.setActive (s.txq q).ac ((s.activeTxqs (s.txq q).ac).erase q ++ [q])

/-- `list_del_init` -/
def State.del (s : State) (q : Nat) : State := s.setActive (s.txq q).ac ((s.activeTxqs (s.txq q).ac).erase q)

def State.payDebt (s : State) (sta ac : Nat) : State :=
  if s.airtime.inDebt sta ac then { s with airtime := s.airtime.addWeight sta ac } else s

/-! ## The scheduler -/

/-- The end of `ieee80211_next_txq`, from the queue that is not skipped. -/
def serve (s : State) (ac q : Nat) : State × Option Nat :=
  if (s.txq q).scheduleRound = s.scheduleRound ac then (s, none)
  else
    ({ s.del q with
      txq := Function.update s.txq q { s.txq q with scheduleRound := s.scheduleRound ac }
      returned := Function.update s.returned ac (s.returned ac ++ [q]) }, some q)

/-- `begin` -/
def nextTxqLoop (ac : Nat) : Nat → State → Option Nat → Bool → Option (State × Option Nat)
  | 0, _, _, _ => none
  | fuel + 1, s, head, foundEligibleTxq =>
    match s.activeTxqs ac with
    | [] => some (s, none)
    | txqi :: _ =>
      if head = some txqi ∧ foundEligibleTxq = false then some (s, none)
      else
        let foundEligibleTxq := if head = some txqi then false else foundEligibleTxq
        let head := if head = none then some txqi else head
        match (s.txq txqi).sta with
        | none => some (serve s ac txqi)
        | some sta =>
          let aqlCheck := ieee80211TxqAirtimeCheck s.airtime (s.txq txqi)
          let inDebt := s.airtime.inDebt sta (s.txq txqi).ac
          let foundEligibleTxq := if aqlCheck then true else foundEligibleTxq
          let s := s.payDebt sta (s.txq txqi).ac
          if inDebt ∨ aqlCheck = false then nextTxqLoop ac fuel (s.moveTail txqi) head foundEligibleTxq
          else some (serve s ac txqi)

/-- **`ieee80211_next_txq`** -/
def ieee80211NextTxq (fuel : Nat) (s : State) (ac : Nat) : Option (State × Option Nat) :=
  if s.scheduleRound ac = 0 then some (s, none) else nextTxqLoop ac fuel s none false

/-- `ieee80211_txq_keep_active`, when `ieee80211_sta_keep_active` says `keep`. -/
def ieee80211TxqKeepActive (s : State) (txqi : Nat) (keep : Bool) : Bool :=
  match (s.txq txqi).sta with
  | none => false
  | some sta => if s.airtime.inDebt sta (s.txq txqi).ac then keep else false

/-- What `__ieee80211_schedule_txq` finds: whether the queue has frames or the call is forced, whether the station was active lately, and
whether airtime is accounted (`airtime_flags`, `NL80211_EXT_FEATURE_AIRTIME_FAIRNESS`). -/
structure Wanted where
  hasQueue : Bool
  keep : Bool
  fairness : Bool

/-- **`__ieee80211_schedule_txq`** -/
def ieee80211ScheduleTxq (s : State) (txqi : Nat) (w : Wanted) : State :=
  let ac := (s.txq txqi).ac
  if txqi ∉ s.activeTxqs ac ∧ (w.hasQueue || ieee80211TxqKeepActive s txqi w.keep) then
    if (s.txq txqi).sta.isSome && w.fairness && w.hasQueue then s.setActive ac (txqi :: s.activeTxqs ac)
    else s.setActive ac (s.activeTxqs ac ++ [txqi])
  else s

/-- The walk of `ieee80211_txq_may_transmit` over the queues before its own. -/
def mayTransmitWalk (ac : Nat) : List Nat → State → State
  | [], s => s
  | iter :: rest, s =>
    match (s.txq iter).sta with
    | none => mayTransmitWalk ac rest (s.moveTail iter)
    | some sta => mayTransmitWalk ac rest ((s.payDebt sta ac).moveTail iter)

/-- `out` of `ieee80211_txq_may_transmit`. -/
def mayTransmitOut (s : State) (txqi : Nat) : State × Bool :=
  (if txqi ∈ s.activeTxqs (s.txq txqi).ac then s.del txqi else s, true)

/-- **`ieee80211_txq_may_transmit`** -/
def ieee80211TxqMayTransmit (s : State) (txqi : Nat) : State × Bool :=
  let ac := (s.txq txqi).ac
  match (s.txq txqi).sta with
  | none => mayTransmitOut s txqi
  | some sta =>
    if txqi ∉ s.activeTxqs ac then mayTransmitOut s txqi
    else if ieee80211TxqScheduleAirtimeCheck s ac = false then mayTransmitOut s txqi
    else
      let s := mayTransmitWalk ac ((s.activeTxqs ac).takeWhile (· ≠ txqi)) s
      if (s.airtime.deficit sta ac).slt 0 then
        (({ s with airtime := s.airtime.addWeight sta ac } : State).moveTail txqi, false)
      else mayTransmitOut s txqi

/-- **`ieee80211_txq_schedule_start`**: zero is no round. -/
def ieee80211TxqScheduleStart (s : State) (ac : Nat) : State :=
  let round :=
    if ieee80211TxqScheduleAirtimeCheck s ac then
      if s.scheduleRound ac + 1 = 0 then 1 else s.scheduleRound ac + 1
    else 0
  { s with
    scheduleRound := Function.update s.scheduleRound ac round
    returned := Function.update s.returned ac [] }

/-! ## Calls -/

/-- The calls; `remove` is `list_del_init`, as a queue is purged or its station goes to sleep, and `charge` whatever changes what the
stations are charged. -/
inductive Op where
  | nextTxq (ac : Nat)
  | scheduleTxq (txqi : Nat) (w : Wanted)
  | mayTransmit (txqi : Nat)
  | scheduleStart (ac : Nat)
  | remove (txqi : Nat)
  | charge (a : Airtime)

/-- The loop ends: from some fuel on, the result is `x`. -/
def Returns {α : Type} (f : Nat → Option α) (x : α) : Prop := ∃ n, ∀ fuel, n < fuel → f fuel = some x

def Airtime.Weighted (a : Airtime) : Prop := ∀ sta, a.airtimeWeight sta ≠ 0

inductive Step : State → Op → State → Prop where
  | nextTxq {s s' : State} {ac : Nat} {ret : Option Nat} (h : Returns (fun fuel => ieee80211NextTxq fuel s ac) (s', ret)) :
      Step s (.nextTxq ac) s'
  | scheduleTxq {s : State} {txqi : Nat} {w : Wanted} : Step s (.scheduleTxq txqi w) (ieee80211ScheduleTxq s txqi w)
  | mayTransmit {s : State} {txqi : Nat} : Step s (.mayTransmit txqi) (ieee80211TxqMayTransmit s txqi).1
  | scheduleStart {s : State} {ac : Nat} : Step s (.scheduleStart ac) (ieee80211TxqScheduleStart s ac)
  | remove {s : State} {txqi : Nat} : Step s (.remove txqi) (s.del txqi)
  | charge {s : State} {a : Airtime} (h : a.Weighted) : Step s (.charge a) { s with airtime := a }

/-- **The lists hold queues of their access category, each once.** -/
structure Listed (s : State) : Prop where
  nodup : ∀ ac, (s.activeTxqs ac).Nodup
  ac : ∀ ac, ∀ q ∈ s.activeTxqs ac, (s.txq q).ac = ac
  weighted : s.airtime.Weighted

def Initial (s : State) : Prop := Listed s ∧ ∀ ac, s.returned ac = []

/-! ## What is right -/

/-- The queue is of a station that is in debt, or does not pass the airtime check. -/
def Skipped (s : State) (q : Nat) : Prop :=
  ∃ sta, (s.txq q).sta = some sta ∧
    (s.airtime.inDebt sta (s.txq q).ac = true ∨ ieee80211TxqAirtimeCheck s.airtime (s.txq q) = false)

/-- The queue is of a station that does not pass the airtime check. -/
def Blocked (s : State) (q : Nat) : Prop :=
  (s.txq q).sta.isSome = true ∧ ieee80211TxqAirtimeCheck s.airtime (s.txq q) = false

/-- The first queue is skipped: its station gets its weight, if it is in debt, and the queue goes to the end. -/
def skip (ac : Nat) (s : State) : State :=
  match s.activeTxqs ac with
  | [] => s
  | q :: _ =>
    match (s.txq q).sta with
    | none => s
    | some sta => (s.payDebt sta (s.txq q).ac).moveTail q

/-- The first queue is of the station, which is in debt. -/
def debtAtHead (ac sta : Nat) (s : State) : Bool :=
  match s.activeTxqs ac with
  | [] => false
  | q :: _ => (s.txq q).sta = some sta && s.airtime.inDebt sta (s.txq q).ac

/-- How `ieee80211_next_txq` ends. -/
inductive Ends (ac : Nat) (s : State) : State × Option Nat → Prop where
  /-- All queues are of stations that do not pass the airtime check. -/
  | blocked (h : ∀ q ∈ s.activeTxqs ac, Blocked s q) : Ends ac s (s, none)
  /-- The first queue was returned in this round. -/
  | again (q : Nat) (rest : List Nat) (hfirst : s.activeTxqs ac = q :: rest) (hfree : ¬ Skipped s q)
      (hround : (s.txq q).scheduleRound = s.scheduleRound ac) : Ends ac s (s, none)
  /-- The first queue is returned, and leaves the list. -/
  | served (q : Nat) (rest : List Nat) (s' : State) (hfirst : s.activeTxqs ac = q :: rest) (hfree : ¬ Skipped s q)
      (hround : (s.txq q).scheduleRound ≠ s.scheduleRound ac) (hlist : s'.activeTxqs ac = rest)
      (hthen : (s'.txq q).scheduleRound = s'.scheduleRound ac) (hdeficit : s'.airtime = s.airtime) : Ends ac s (s', some q)

/-- **The choice is right**: some first queues are skipped, each with one weight for a station in debt. -/
structure NextRight (s : State) (ac : Nat) (r : State × Option Nat) : Prop where
  next : ∃ n, (∀ i, i < n → ∀ q rest, ((skip ac)^[i] s).activeTxqs ac = q :: rest → Skipped ((skip ac)^[i] s) q) ∧
    ((skip ac)^[n] s).activeTxqs ac = (s.activeTxqs ac).rotate n ∧
    (∀ sta, ((skip ac)^[n] s).airtime.deficit sta ac =
      s.airtime.deficit sta ac +
        (((List.range n).filter fun i => debtAtHead ac sta ((skip ac)^[i] s)).length : BitVec 32) *
          (s.airtime.airtimeWeight sta).setWidth 32) ∧
    Ends ac ((skip ac)^[n] s) r

/-- **The scheduler is right.** -/
structure SchedulerRight (s : State) : Prop where
  listed : Listed s
  /-- No queue was returned twice since the round began. -/
  once : ∀ ac, (s.returned ac).Nodup
  /-- Without a round nothing is returned. -/
  idle : ∀ ac, s.scheduleRound ac = 0 → ∀ fuel, ieee80211NextTxq fuel s ac = some (s, none)
  next : ∀ ac, s.scheduleRound ac ≠ 0 → s.activeTxqs ac ≠ [] →
    ∃ r, Returns (fun fuel => ieee80211NextTxq fuel s ac) r ∧ NextRight s ac r

/-! ## A queue is skipped -/

variable {s s' : State} {ac q sta : Nat} {rest : List Nat} {r : State × Option Nat}

theorem setActive_self (s : State) (ac : Nat) (l : List Nat) : (s.setActive ac l).activeTxqs ac = l := by
  unfold State.setActive
  exact Function.update_self ac l s.activeTxqs

theorem setActive_ne (s : State) {ac i : Nat} (hne : i ≠ ac) (l : List Nat) : (s.setActive ac l).activeTxqs i = s.activeTxqs i := by
  unfold State.setActive
  exact Function.update_of_ne hne l s.activeTxqs

theorem payDebt_same (s : State) (sta ac : Nat) :
    (s.payDebt sta ac).txq = s.txq ∧ (s.payDebt sta ac).activeTxqs = s.activeTxqs ∧
      (s.payDebt sta ac).scheduleRound = s.scheduleRound ∧ (s.payDebt sta ac).returned = s.returned ∧
      (s.payDebt sta ac).airtime.airtimeWeight = s.airtime.airtimeWeight ∧
      ∀ txq, ieee80211TxqAirtimeCheck (s.payDebt sta ac).airtime txq = ieee80211TxqAirtimeCheck s.airtime txq := by
  unfold State.payDebt
  split_ifs
  · exact ⟨rfl, rfl, rfl, rfl, rfl, fun _ => rfl⟩
  · exact ⟨rfl, rfl, rfl, rfl, rfl, fun _ => rfl⟩

structure SameQueues (s s' : State) : Prop where
  txq : s'.txq = s.txq
  round : s'.scheduleRound = s.scheduleRound
  returned : s'.returned = s.returned
  weight : s'.airtime.airtimeWeight = s.airtime.airtimeWeight
  check : ∀ txq, ieee80211TxqAirtimeCheck s'.airtime txq = ieee80211TxqAirtimeCheck s.airtime txq

theorem SameQueues.blocked (h : SameQueues s s') : Blocked s' q ↔ Blocked s q := by
  unfold Blocked
  rw [h.txq, h.check]

structure Turn (s : State) (ac q : Nat) (rest : List Nat) (sta : Nat) : Prop where
  listed : Listed s
  first : s.activeTxqs ac = q :: rest
  sta : (s.txq q).sta = some sta

theorem Listed.txqAc (h : Listed s) (hfirst : s.activeTxqs ac = q :: rest) : (s.txq q).ac = ac :=
  h.ac ac q (by rw [hfirst]; exact List.mem_cons_self)

theorem Turn.txqAc (ht : Turn s ac q rest sta) : (s.txq q).ac = ac := ht.listed.txqAc ht.first

theorem Turn.debtAtHead (ht : Turn s ac q rest sta) (sta' : Nat) :
    debtAtHead ac sta' s = (decide (sta = sta') && s.airtime.inDebt sta' ac) := by
  unfold AirtimeSched.debtAtHead
  rw [ht.first]
  dsimp only
  rw [ht.sta, ht.txqAc]
  simp

theorem skip_spec (ht : Turn s ac q rest sta) :
    skip ac s = (s.payDebt sta ac).moveTail q ∧ (skip ac s).activeTxqs ac = rest ++ [q] ∧
      (∀ i, i ≠ ac → (skip ac s).activeTxqs i = s.activeTxqs i) ∧ SameQueues s (skip ac s) := by
  obtain ⟨htxq, hactive, hround, hreturned, hweight, hcheck⟩ := payDebt_same s sta ac
  have heq : skip ac s = (s.payDebt sta ac).moveTail q := by
    unfold skip
    rw [ht.first]
    dsimp only
    rw [ht.sta, ht.txqAc]
  rw [heq]
  unfold State.moveTail
  rw [htxq, ht.txqAc, hactive, ht.first, List.erase_cons_head]
  refine ⟨rfl, setActive_self _ _ _, fun i hne => ?_, htxq, hround, hreturned, hweight, hcheck⟩
  rw [setActive_ne _ hne, hactive]

theorem skip_listed (ht : Turn s ac q rest sta) :
    Listed (skip ac s) := by
  obtain ⟨-, hlist, hother, hsame⟩ := skip_spec ht
  have hperm : ((skip ac s).activeTxqs ac).Perm (s.activeTxqs ac) := by
    rw [hlist, ht.first]
    exact List.perm_append_singleton q rest
  refine ⟨fun i => ?_, fun i x hx => ?_, ?_⟩
  · by_cases hi : i = ac
    · rw [hi]
      exact hperm.nodup_iff.mpr (ht.listed.nodup ac)
    · rw [hother i hi]
      exact ht.listed.nodup i
  · rw [hsame.txq]
    by_cases hi : i = ac
    · rw [hi] at hx ⊢
      exact ht.listed.ac ac x (hperm.mem_iff.mp hx)
    · rw [hother i hi] at hx
      exact ht.listed.ac i x hx
  · intro sta'
    rw [hsame.weight]
    exact ht.listed.weighted sta'

/-- A station in debt gets its weight once, whoever else gets nothing. -/
theorem skip_deficit (ht : Turn s ac q rest sta) (sta' : Nat) :
    (skip ac s).airtime.deficit sta' ac =
        s.airtime.deficit sta' ac + (if debtAtHead ac sta' s then (s.airtime.airtimeWeight sta').setWidth 32 else 0) ∧
      (skip ac s).airtime.aqlTxPending = s.airtime.aqlTxPending := by
  rw [(skip_spec ht).1, ht.debtAtHead]
  show (s.payDebt sta ac).airtime.deficit sta' ac = _ ∧ (s.payDebt sta ac).airtime.aqlTxPending = _
  unfold State.payDebt
  by_cases hdebt : s.airtime.inDebt sta ac = true
  · rw [if_pos hdebt]
    refine ⟨?_, rfl⟩
    unfold Airtime.addWeight
    by_cases heq : sta = sta'
    · subst heq
      simp [hdebt]
    · simp [heq, Ne.symm heq]
  · rw [if_neg hdebt]
    refine ⟨?_, rfl⟩
    by_cases heq : sta = sta'
    · subst heq
      simp [hdebt]
    · simp [heq]

/-! ## What the stations owe -/

def owed (d : BitVec 32) : Nat := if d.slt 0 then 4294967296 - d.toNat else 0

theorem slt_zero_iff (d : BitVec 32) : d.slt 0 = true ↔ 2147483648 ≤ d.toNat := by
  rw [show d.slt 0 = d.msb from BitVec.slt_zero_eq_msb, BitVec.msb_eq_decide]
  simp

theorem owed_lt {d : BitVec 32} (hdebt : d.slt 0 = true) {w : BitVec 16} (hw : w ≠ 0) : owed (d + w.setWidth 32) < owed d := by
  have hpos : w.toNat ≠ 0 := fun h => hw (BitVec.eq_of_toNat_eq h)
  have hwlt := w.isLt
  have hlt := d.isLt
  have hnew := slt_zero_iff (d + w.setWidth 32)
  have hold := (slt_zero_iff d).mp hdebt
  have hadd : (d + w.setWidth 32).toNat = (d.toNat + w.toNat) % 4294967296 := by
    rw [BitVec.toNat_add, BitVec.toNat_setWidth, Nat.mod_eq_of_lt (a := w.toNat) (by omega)]
  unfold owed
  rw [if_pos hdebt]
  split_ifs with hstill
  · have := hnew.mp hstill
    omega
  · omega

/-- What the stations of the listed queues owe. -/
def debt (s : State) (ac q : Nat) : Nat :=
  match (s.txq q).sta with
  | none => 0
  | some sta => owed (s.airtime.staDeficit sta ac)

def debts (s : State) (ac : Nat) : Nat := ((s.activeTxqs ac).map (debt s ac)).sum

/-- A skip makes no debt more, and that of the first queue less, if its station is in debt. -/
theorem debt_skip (ht : Turn s ac q rest sta) (x : Nat) :
    debt (skip ac s) ac x ≤ debt s ac x ∧ (s.airtime.inDebt sta ac = true → debt (skip ac s) ac q < debt s ac q) := by
  obtain ⟨-, -, -, hsame⟩ := skip_spec ht
  have hstep : ∀ sta', (skip ac s).airtime.staDeficit sta' ac =
      s.airtime.staDeficit sta' ac + (if debtAtHead ac sta' s then (s.airtime.airtimeWeight sta').setWidth 32 else 0) := by
    intro sta'
    obtain ⟨hdeficit, hpending⟩ := skip_deficit ht sta'
    unfold Airtime.staDeficit
    rw [hdeficit, hpending]
    exact add_sub_right_comm _ _ _
  constructor
  · unfold debt
    rw [hsame.txq]
    cases (s.txq x).sta with
    | none => exact Nat.le_refl 0
    | some sta' =>
      dsimp only
      rw [hstep]
      split_ifs with hpaid
      · apply Nat.le_of_lt
        apply owed_lt _ (ht.listed.weighted sta')
        rw [ht.debtAtHead, Bool.and_eq_true] at hpaid
        exact hpaid.2
      · simp
  · intro hdebt
    unfold debt
    rw [hsame.txq, ht.sta]
    dsimp only
    rw [hstep, ht.debtAtHead]
    simp only [decide_true, hdebt, Bool.and_self, if_true]
    exact owed_lt hdebt (ht.listed.weighted sta)

theorem debts_skip (ht : Turn s ac q rest sta) :
    debts (skip ac s) ac ≤ debts s ac ∧ (s.airtime.inDebt sta ac = true → debts (skip ac s) ac < debts s ac) := by
  obtain ⟨-, hlist, -, -⟩ := skip_spec ht
  have hrest : (rest.map (debt (skip ac s) ac)).sum ≤ (rest.map (debt s ac)).sum :=
    List.sum_le_sum fun x _ => (debt_skip ht x).1
  have hq := debt_skip ht q
  unfold debts
  rw [hlist, ht.first, List.map_append, List.sum_append, List.map_singleton, List.sum_singleton, List.map_cons, List.sum_cons]
  refine ⟨by omega, fun hdebt => ?_⟩
  have hless := hq.2 hdebt
  omega

/-! ## The loop -/

theorem nextTxqLoop_skip (ht : Turn s ac q rest sta)
    (hskip : s.airtime.inDebt sta ac = true ∨ ieee80211TxqAirtimeCheck s.airtime (s.txq q) = false) {h : Nat} {found : Bool}
    (hgo : ¬ (h = q ∧ found = false)) (fuel : Nat) :
    nextTxqLoop ac (fuel + 1) s (some h) found =
      nextTxqLoop ac fuel (skip ac s) (some h)
        ((if h = q then false else found) || ieee80211TxqAirtimeCheck s.airtime (s.txq q)) := by
  rw [nextTxqLoop, ht.first]
  dsimp only
  rw [if_neg (by simpa using hgo), ht.sta]
  dsimp only
  rw [ht.txqAc, if_pos hskip, (skip_spec ht).1]
  have hfound : ∀ b : Bool, (if ieee80211TxqAirtimeCheck s.airtime (s.txq q) = true then true else b) =
      (b || ieee80211TxqAirtimeCheck s.airtime (s.txq q)) := by
    intro b
    cases ieee80211TxqAirtimeCheck s.airtime (s.txq q) <;> simp
  rw [hfound]
  simp

theorem nextTxqLoop_serve (hfirst : s.activeTxqs ac = q :: rest) (hfree : ¬ Skipped s q) {h : Nat} {found : Bool}
    (hgo : ¬ (h = q ∧ found = false)) (fuel : Nat) : nextTxqLoop ac (fuel + 1) s (some h) found = some (serve s ac q) := by
  rw [nextTxqLoop, hfirst]
  dsimp only
  rw [if_neg (by simpa using hgo)]
  cases hsta : (s.txq q).sta with
  | none => rfl
  | some sta =>
    dsimp only
    have hcond : ¬ (s.airtime.inDebt sta (s.txq q).ac = true ∨ ieee80211TxqAirtimeCheck s.airtime (s.txq q) = false) :=
      fun hor => hfree ⟨sta, hsta, hor⟩
    rw [if_neg hcond]
    -- nothing is paid
    unfold State.payDebt
    rw [if_neg fun hdebt => hcond (.inl hdebt)]

theorem serve_ends (hlisted : Listed s) (hfirst : s.activeTxqs ac = q :: rest) (hfree : ¬ Skipped s q) : Ends ac s (serve s ac q) := by
  unfold serve
  split_ifs with hround
  · exact .again q rest hfirst hfree hround
  · refine .served q rest _ hfirst hfree hround ?_ ?_ rfl
    · show (s.del q).activeTxqs ac = rest
      unfold State.del
      rw [hlisted.txqAc hfirst, setActive_self, hfirst, List.erase_cons_head]
    · show (Function.update s.txq q _ q).scheduleRound = s.scheduleRound ac
      rw [Function.update_self]

theorem NextRight.of_ends (h : Ends ac s r) : NextRight s ac r := by
  refine ⟨0, fun i hi => absurd hi (Nat.not_lt_zero i), ?_, fun sta => ?_, h⟩
  · simp
  · simp

theorem filter_iterate_succ {σ : Type} (p : σ → Bool) (f : σ → σ) (x : σ) (n : Nat) :
    ((List.range (n + 1)).filter fun i => p (f^[i] x)).length =
      (if p x then 1 else 0) + ((List.range n).filter fun i => p (f^[i] (f x))).length := by
  have hrest : ((List.range n).map Nat.succ).filter (fun i => p (f^[i] x)) =
      ((List.range n).filter fun i => p (f^[i] (f x))).map Nat.succ := by
    rw [List.filter_map]
    rfl
  rw [List.range_succ_eq_map, List.filter_cons, hrest]
  show (if p x = true then _ else _ : List Nat).length = _
  split_ifs
  · rw [List.length_cons, List.length_map]
    exact Nat.add_comm _ _
  · rw [List.length_map, Nat.zero_add]

theorem NextRight.of_skip (ht : Turn s ac q rest sta)
    (hskip : Skipped s q) (h : NextRight (skip ac s) ac r) : NextRight s ac r := by
  obtain ⟨n, hskipped, hrotate, hdeficit, hends⟩ := h.next
  obtain ⟨-, hlist, -, hsame⟩ := skip_spec ht
  have hiter : ∀ i, (skip ac)^[i + 1] s = (skip ac)^[i] (skip ac s) := fun i => Function.iterate_succ_apply _ _ _
  refine ⟨n + 1, fun i hi x xs hx => ?_, ?_, fun sta' => ?_, ?_⟩
  · cases i with
    | zero =>
      have hcons : q :: rest = x :: xs := ht.first.symm.trans hx
      rw [(List.cons.inj hcons).1] at hskip
      exact hskip
    | succ i =>
      rw [hiter] at hx ⊢
      exact hskipped i (Nat.lt_of_succ_lt_succ hi) x xs hx
  · rw [hiter, hrotate, hlist, ht.first, List.rotate_cons_succ]
  · rw [hiter, hdeficit, (skip_deficit ht sta').1, hsame.weight, filter_iterate_succ]
    by_cases hhead : debtAtHead ac sta' s = true
    · rw [if_pos hhead, if_pos hhead, Nat.cast_add, Nat.cast_one]
      ring
    · rw [if_neg hhead, if_neg hhead, Nat.zero_add]
      ring
  · rw [hiter]
    exact hends

/-- What is left of the loop: it ends at the head, after a lap without a queue that passes the check. -/
def left (s : State) (ac h : Nat) (found : Bool) : Nat :=
  debts s ac * (2 * (s.activeTxqs ac).length) + (s.activeTxqs ac).idxOf h + if found then (s.activeTxqs ac).length else 0

/-- The head moves to the front; since it was met, all queues are blocked, unless one was found that is not. -/
theorem skip_position (ht : Turn s ac q rest sta) {h : Nat}
    {found found' : Bool} (hmem : h ∈ s.activeTxqs ac)
    (hblocked : found = false → ∀ x ∈ (s.activeTxqs ac).drop ((s.activeTxqs ac).idxOf h), Blocked s x)
    (hfound' : found' = ((if h = q then false else found) || ieee80211TxqAirtimeCheck s.airtime (s.txq q))) :
    h ∈ (skip ac s).activeTxqs ac ∧
      (found' = false → ∀ x ∈ ((skip ac s).activeTxqs ac).drop (((skip ac s).activeTxqs ac).idxOf h), Blocked (skip ac s) x) := by
  obtain ⟨-, hlist, -, hsame⟩ := skip_spec ht
  have hnodup := ht.listed.nodup ac
  rw [ht.first] at hmem hblocked hnodup
  rw [hlist]
  refine ⟨?_, fun hnone x hx => hsame.blocked.mpr ?_⟩
  · rw [List.mem_append, List.mem_singleton]
    exact (List.mem_cons.mp hmem).symm
  · rw [hfound', Bool.or_eq_false_iff] at hnone
    have hq : Blocked s q := ⟨by rw [ht.sta]; rfl, hnone.2⟩
    by_cases hhead : h = q
    · -- the lap begins
      have hnotin : h ∉ rest := hhead ▸ (List.nodup_cons.mp hnodup).1
      rw [List.idxOf_append_of_notMem hnotin, hhead, List.idxOf_cons_self, Nat.add_zero, List.drop_left, List.mem_singleton] at hx
      rw [hx]
      exact hq
    · rw [if_neg hhead] at hnone
      have hin : h ∈ rest := (List.mem_cons.mp hmem).resolve_left hhead
      have hle : rest.idxOf h ≤ rest.length := Nat.le_of_lt (List.idxOf_lt_length_of_mem hin)
      rw [List.idxOf_append_of_mem hin, List.drop_append_of_le_length hle, List.mem_append, List.mem_singleton] at hx
      rcases hx with hold | rfl
      · apply hblocked hnone.1
        rw [List.idxOf_cons_ne _ (Ne.symm hhead), List.drop_succ_cons]
        exact hold
      · exact hq

theorem skip_left (ht : Turn s ac q rest sta)
    (hor : s.airtime.inDebt sta ac = true ∨ ieee80211TxqAirtimeCheck s.airtime (s.txq q) = false) {h : Nat} {found found' : Bool}
    (hmem : h ∈ s.activeTxqs ac) (hgo : ¬ (h = q ∧ found = false))
    (hfound' : found' = ((if h = q then false else found) || ieee80211TxqAirtimeCheck s.airtime (s.txq q))) :
    left (skip ac s) ac h found' < left s ac h found := by
  obtain ⟨-, hlist, -, -⟩ := skip_spec ht
  obtain ⟨hle, hlt⟩ := debts_skip ht
  have hnodup := ht.listed.nodup ac
  unfold left
  rw [hlist, ht.first, List.length_append, List.length_singleton, List.length_cons]
  rw [ht.first] at hmem hnodup
  obtain ⟨n, hn⟩ : ∃ n, n = rest.length := ⟨_, rfl⟩
  have hidx : (rest ++ [q]).idxOf h ≤ n := by
    rw [hn]
    have hlast := List.idxOf_lt_length_of_mem (l := rest ++ [q]) (a := h) (by simpa [or_comm] using hmem)
    rw [List.length_append, List.length_singleton] at hlast
    omega
  rw [← hn]
  by_cases hdebt : s.airtime.inDebt sta ac = true
  · -- some station owes less
    have hless : debts (skip ac s) ac + 1 ≤ debts s ac := hlt hdebt
    have hmul := Nat.mul_le_mul_right (2 * (n + 1)) hless
    rw [Nat.add_mul] at hmul
    split_ifs <;> omega
  · -- the queue does not pass the check
    have hcheck := hor.resolve_left hdebt
    rw [hcheck, Bool.or_false] at hfound'
    have hmul := Nat.mul_le_mul_right (2 * (n + 1)) hle
    by_cases hhead : h = q
    · rw [if_pos hhead] at hfound'
      have hfound : found = true := by simpa [hhead] using hgo
      rw [hfound', hfound]
      simp only [if_true]
      rw [if_neg Bool.false_ne_true]
      omega
    · rw [if_neg hhead] at hfound'
      have hin : h ∈ rest := (List.mem_cons.mp hmem).resolve_left hhead
      rw [hfound', List.idxOf_append_of_mem hin, List.idxOf_cons_ne _ (Ne.symm hhead)]
      omega

/-- **The loop ends, and is right**: since the head was met last, all queues were blocked, unless one was found that is not. -/
theorem loop_right (m : Nat) : ∀ {s : State} {h : Nat} {found : Bool}, Listed s → h ∈ s.activeTxqs ac →
    (found = false → ∀ q ∈ (s.activeTxqs ac).drop ((s.activeTxqs ac).idxOf h), Blocked s q) → left s ac h found = m →
    ∃ r, (∀ fuel, m < fuel → nextTxqLoop ac fuel s (some h) found = some r) ∧ NextRight s ac r := by
  induction m using Nat.strong_induction_on with
  | _ m ih =>
    intro s h found hlisted hmem hblocked hleft
    obtain ⟨q, rest, hfirst⟩ := List.exists_cons_of_ne_nil (List.ne_nil_of_mem hmem)
    by_cases hstop : h = q ∧ found = false
    · -- the head, and nothing was found
      refine ⟨(s, none), fun fuel hfuel => ?_, .of_ends (.blocked fun x hx => hblocked hstop.2 x ?_)⟩
      · obtain ⟨fuel, rfl⟩ := Nat.exists_eq_succ_of_ne_zero (Nat.ne_zero_of_lt hfuel)
        rw [nextTxqLoop, hfirst]
        dsimp only
        rw [if_pos (by simpa using hstop)]
      · rw [hfirst] at hx ⊢
        rw [hstop.1, List.idxOf_cons_self, List.drop_zero]
        exact hx
    · by_cases hskip : Skipped s q
      · obtain ⟨sta, hsta, hor⟩ := hskip
        have ht : Turn s ac q rest sta := ⟨hlisted, hfirst, hsta⟩
        rw [ht.txqAc] at hor
        obtain ⟨found', hfound'⟩ : ∃ b, b = ((if h = q then false else found) || ieee80211TxqAirtimeCheck s.airtime (s.txq q)) :=
          ⟨_, rfl⟩
        obtain ⟨-, hlist, -, hsame⟩ := skip_spec ht
        have hpos := skip_position ht hmem hblocked hfound'
        obtain ⟨r, hrun, hright⟩ := ih (left (skip ac s) ac h found')
          (hleft ▸ skip_left ht hor hmem hstop hfound') (skip_listed ht) hpos.1 hpos.2 rfl
        refine ⟨r, fun fuel hfuel => ?_, hright.of_skip ht ⟨sta, hsta, ht.txqAc ▸ hor⟩⟩
        obtain ⟨fuel, rfl⟩ := Nat.exists_eq_succ_of_ne_zero (Nat.ne_zero_of_lt hfuel)
        rw [nextTxqLoop_skip ht hor hstop, ← hfound']
        have hless := skip_left ht hor hmem hstop hfound'
        exact hrun fuel (by omega)
      · refine ⟨serve s ac q, fun fuel hfuel => ?_, .of_ends (serve_ends hlisted hfirst hskip)⟩
        obtain ⟨fuel, rfl⟩ := Nat.exists_eq_succ_of_ne_zero (Nat.ne_zero_of_lt hfuel)
        exact nextTxqLoop_serve hfirst hskip hstop fuel

/-- The first visit is that of a head that is met again, after a lap that found a queue. -/
theorem nextTxqLoop_begin (hfirst : s.activeTxqs ac = q :: rest) (fuel : Nat) :
    nextTxqLoop ac fuel s none false = nextTxqLoop ac fuel s (some q) true := by
  cases fuel with
  | zero => rfl
  | succ fuel =>
    rw [nextTxqLoop, nextTxqLoop, hfirst]
    simp

/-- **`ieee80211_next_txq` returns, and its choice is right.** -/
theorem next_right (hlisted : Listed s) (hround : s.scheduleRound ac ≠ 0) (hne : s.activeTxqs ac ≠ []) :
    ∃ r, Returns (fun fuel => ieee80211NextTxq fuel s ac) r ∧ NextRight s ac r := by
  obtain ⟨q, rest, hfirst⟩ := List.exists_cons_of_ne_nil hne
  have hmem : q ∈ s.activeTxqs ac := by
    rw [hfirst]
    exact List.mem_cons_self
  have hfound : true = false → ∀ x ∈ (s.activeTxqs ac).drop ((s.activeTxqs ac).idxOf q), Blocked s x :=
    fun h => absurd h.symm Bool.false_ne_true
  obtain ⟨r, hrun, hright⟩ := loop_right (left s ac q true) hlisted hmem hfound rfl
  refine ⟨r, ⟨left s ac q true, fun fuel hfuel => ?_⟩, hright⟩
  unfold ieee80211NextTxq
  dsimp only
  rw [if_neg hround, nextTxqLoop_begin hfirst]
  exact hrun fuel hfuel

/-! ## All calls -/

/-- **The invariant**: the queues that were returned since the round began are marked with it. -/
structure Inv (s : State) : Prop where
  listed : Listed s
  once : ∀ ac, (s.returned ac).Nodup
  marked : ∀ ac, ∀ q ∈ s.returned ac, (s.txq q).ac = ac ∧ (s.txq q).scheduleRound = s.scheduleRound ac

theorem Inv.of_listed (h : Inv s) (hlisted : Listed s') (htxq : s'.txq = s.txq) (hround : s'.scheduleRound = s.scheduleRound)
    (hreturned : s'.returned = s.returned) : Inv s' := by
  refine ⟨hlisted, fun ac => ?_, fun ac q hq => ?_⟩
  · rw [hreturned]
    exact h.once ac
  · rw [hreturned] at hq
    rw [htxq, hround]
    exact h.marked ac q hq

theorem Listed.setActive (h : Listed s) {l : List Nat} (hnodup : l.Nodup) (hac : ∀ x ∈ l, (s.txq x).ac = ac) :
    Listed (s.setActive ac l) := by
  refine ⟨fun i => ?_, fun i x hx => ?_, h.weighted⟩
  · by_cases hi : i = ac
    · rw [hi, setActive_self]
      exact hnodup
    · rw [setActive_ne s hi]
      exact h.nodup i
  · by_cases hi : i = ac
    · rw [hi, setActive_self] at hx
      rw [hi]
      exact hac x hx
    · rw [setActive_ne s hi] at hx
      exact h.ac i x hx

theorem Listed.del (h : Listed s) (q : Nat) : Listed (s.del q) :=
  h.setActive ((h.nodup _).erase q) fun x hx => h.ac _ x (List.mem_of_mem_erase hx)

theorem Listed.moveTail (h : Listed s) (q : Nat) : Listed (s.moveTail q) := by
  apply h.setActive
  · rw [List.nodup_append]
    refine ⟨(h.nodup _).erase q, List.nodup_singleton q, fun a ha b hb => ?_⟩
    rw [List.mem_singleton.mp hb]
    exact ((List.Nodup.mem_erase_iff (h.nodup _)).mp ha).1
  · intro x hx
    rcases List.mem_append.mp hx with hold | hnew
    · exact h.ac _ x (List.mem_of_mem_erase hold)
    · rw [List.mem_singleton.mp hnew]

theorem Listed.payDebt (h : Listed s) (sta ac : Nat) : Listed (s.payDebt sta ac) := by
  obtain ⟨htxq, hactive, -, -, hweight, -⟩ := payDebt_same s sta ac
  refine ⟨fun i => ?_, fun i x hx => ?_, fun sta' => ?_⟩
  · rw [hactive]
    exact h.nodup i
  · rw [hactive] at hx
    rw [htxq]
    exact h.ac i x hx
  · rw [hweight]
    exact h.weighted sta'

theorem Inv.payDebt (h : Inv s) (sta ac : Nat) : Inv (s.payDebt sta ac) :=
  h.of_listed (h.listed.payDebt sta ac) (payDebt_same s sta ac).1 (payDebt_same s sta ac).2.2.1 (payDebt_same s sta ac).2.2.2.1

theorem Inv.moveTail (h : Inv s) (q : Nat) : Inv (s.moveTail q) := h.of_listed (h.listed.moveTail q) rfl rfl rfl

theorem Inv.del (h : Inv s) (q : Nat) : Inv (s.del q) := h.of_listed (h.listed.del q) rfl rfl rfl

/-- A queue that is returned was not returned in this round, and is marked with it. -/
theorem serve_inv (h : Inv s) (hac : (s.txq q).ac = ac) : Inv (serve s ac q).1 := by
  unfold serve
  split_ifs with hround
  · exact h
  · have hnew : q ∉ s.returned ac := fun hmem => hround (h.marked ac q hmem).2
    have hac' : ∀ x, (Function.update s.txq q { s.txq q with scheduleRound := s.scheduleRound ac } x).ac = (s.txq x).ac := by
      intro x
      rw [Function.update_apply]
      split_ifs with hx
      · rw [hx]
      · rfl
    have hdel := h.listed.del q
    refine ⟨⟨hdel.nodup, fun i x hx => (hac' x).trans (hdel.ac i x hx), hdel.weighted⟩, fun i => ?_, fun i x hx => ?_⟩
    · show (Function.update s.returned ac (s.returned ac ++ [q]) i).Nodup
      by_cases hi : i = ac
      · rw [hi, Function.update_self, List.nodup_append]
        refine ⟨h.once ac, List.nodup_singleton q, fun a ha b hb => ?_⟩
        rw [List.mem_singleton.mp hb]
        rintro rfl
        exact hnew ha
      · rw [Function.update_of_ne hi]
        exact h.once i
    · change x ∈ Function.update s.returned ac (s.returned ac ++ [q]) i at hx
      refine ⟨?_, ?_⟩
      · show (Function.update s.txq q _ x).ac = i
        rw [hac']
        by_cases hi : i = ac
        · rw [hi] at hx ⊢
          rw [Function.update_self, List.mem_append, List.mem_singleton] at hx
          rcases hx with hold | rfl
          · exact (h.marked ac x hold).1
          · exact hac
        · rw [Function.update_of_ne hi] at hx
          exact (h.marked i x hx).1
      · show (Function.update s.txq q _ x).scheduleRound = s.scheduleRound i
        by_cases hxq : x = q
        · rw [hxq, Function.update_self]
          by_cases hi : i = ac
          · rw [hi]
          · rw [Function.update_of_ne hi, hxq] at hx
            exact absurd ((h.marked i q hx).1.symm.trans hac) hi
        · rw [Function.update_of_ne hxq]
          by_cases hi : i = ac
          · rw [hi] at hx ⊢
            rw [Function.update_self, List.mem_append, List.mem_singleton] at hx
            exact (h.marked ac x (hx.resolve_right hxq)).2
          · rw [Function.update_of_ne hi] at hx
            exact (h.marked i x hx).2

theorem nextTxqLoop_inv (ac : Nat) : ∀ {fuel : Nat} {s : State} {head : Option Nat} {found : Bool} {r : State × Option Nat}, Inv s →
    nextTxqLoop ac fuel s head found = some r → Inv r.1 := by
  intro fuel
  induction fuel with
  | zero =>
    intro s head found r _ hrun
    cases hrun
  | succ fuel ih =>
    intro s head found r h hrun
    rw [nextTxqLoop] at hrun
    cases hlist : s.activeTxqs ac with
    | nil =>
      rw [hlist] at hrun
      cases hrun
      exact h
    | cons q rest =>
      rw [hlist] at hrun
      dsimp only at hrun
      have hac : (s.txq q).ac = ac := h.listed.ac ac q (by rw [hlist]; exact List.mem_cons_self)
      by_cases hstop : head = some q ∧ found = false
      · rw [if_pos hstop] at hrun
        cases hrun
        exact h
      · rw [if_neg hstop] at hrun
        cases hsta : (s.txq q).sta with
        | none =>
          rw [hsta] at hrun
          cases hrun
          exact serve_inv h hac
        | some sta =>
          rw [hsta] at hrun
          dsimp only at hrun
          by_cases hskip : s.airtime.inDebt sta (s.txq q).ac = true ∨ ieee80211TxqAirtimeCheck s.airtime (s.txq q) = false
          · rw [if_pos hskip] at hrun
            exact ih ((h.payDebt _ _).moveTail q) hrun
          · rw [if_neg hskip] at hrun
            cases hrun
            apply serve_inv (h.payDebt _ _)
            rw [(payDebt_same s sta _).1]
            exact hac

theorem mayTransmitWalk_inv (ac : Nat) (l : List Nat) : ∀ {s : State}, Inv s → Inv (mayTransmitWalk ac l s) := by
  induction l with
  | nil => exact fun h => h
  | cons iter rest ih =>
    intro s h
    unfold mayTransmitWalk
    cases (s.txq iter).sta with
    | none => exact ih (h.moveTail iter)
    | some sta => exact ih ((h.payDebt sta ac).moveTail iter)

theorem mayTransmitOut_inv (h : Inv s) (q : Nat) : Inv (mayTransmitOut s q).1 := by
  unfold mayTransmitOut
  dsimp only
  split_ifs
  · exact h.del q
  · exact h

theorem mayTransmit_inv (h : Inv s) (q : Nat) : Inv (ieee80211TxqMayTransmit s q).1 := by
  unfold ieee80211TxqMayTransmit
  dsimp only
  cases (s.txq q).sta with
  | none => exact mayTransmitOut_inv h q
  | some sta =>
    have hwalk := mayTransmitWalk_inv (s.txq q).ac ((s.activeTxqs (s.txq q).ac).takeWhile (· ≠ q)) h
    dsimp only
    split_ifs
    · exact mayTransmitOut_inv h q
    · apply Inv.moveTail
      exact hwalk.of_listed ⟨hwalk.listed.nodup, hwalk.listed.ac, hwalk.listed.weighted⟩ rfl rfl rfl
    · exact mayTransmitOut_inv hwalk q
    · exact mayTransmitOut_inv h q

theorem scheduleTxq_inv (h : Inv s) (q : Nat) (w : Wanted) : Inv (ieee80211ScheduleTxq s q w) := by
  unfold ieee80211ScheduleTxq
  dsimp only
  split_ifs with hadd
  · refine h.of_listed (h.listed.setActive (List.nodup_cons.mpr ⟨hadd.1, h.listed.nodup _⟩) fun x hx => ?_) rfl rfl rfl
    rcases List.mem_cons.mp hx with rfl | hold
    · rfl
    · exact h.listed.ac _ x hold
  · refine h.of_listed (h.listed.setActive ?_ fun x hx => ?_) rfl rfl rfl
    · exact (List.perm_append_singleton q _).nodup_iff.mpr (List.nodup_cons.mpr ⟨hadd.1, h.listed.nodup _⟩)
    · rcases List.mem_append.mp hx with hold | hnew
      · exact h.listed.ac _ x hold
      · rw [List.mem_singleton.mp hnew]
  · exact h

theorem scheduleStart_inv (h : Inv s) (ac : Nat) : Inv (ieee80211TxqScheduleStart s ac) := by
  unfold ieee80211TxqScheduleStart
  refine ⟨⟨h.listed.nodup, h.listed.ac, h.listed.weighted⟩, fun i => ?_, fun i x hx => ?_⟩
  · show (Function.update s.returned ac [] i).Nodup
    by_cases hi : i = ac
    · rw [hi, Function.update_self]
      exact List.nodup_nil
    · rw [Function.update_of_ne hi]
      exact h.once i
  · change x ∈ Function.update s.returned ac [] i at hx
    show (s.txq x).ac = i ∧ (s.txq x).scheduleRound = Function.update s.scheduleRound ac _ i
    by_cases hi : i = ac
    · rw [hi, Function.update_self] at hx
      exact absurd hx List.not_mem_nil
    · rw [Function.update_of_ne hi] at hx ⊢
      exact h.marked i x hx

theorem step_inv (h : Inv s) {op : Op} (hstep : Step s op s') : Inv s' := by
  cases hstep with
  | nextTxq hreturns =>
    obtain ⟨n, hn⟩ := hreturns
    have hrun := hn (n + 1) (Nat.lt_succ_self n)
    unfold ieee80211NextTxq at hrun
    split_ifs at hrun
    · cases hrun
      exact h
    · exact nextTxqLoop_inv _ h hrun
  | scheduleTxq => exact scheduleTxq_inv h _ _
  | mayTransmit => exact mayTransmit_inv h _
  | scheduleStart => exact scheduleStart_inv h _
  | remove => exact h.del _
  | charge hweighted => exact h.of_listed ⟨h.listed.nodup, h.listed.ac, hweighted⟩ rfl rfl rfl

theorem reachable_inv (hr : Runs.Reachable Initial Step s) : Inv s := by
  refine hr.invariant (fun s hinit => ?_) fun _ _ _ h hstep => step_inv h hstep
  refine ⟨hinit.1, fun ac => ?_, fun ac q hq => ?_⟩
  · rw [hinit.2]
    exact List.nodup_nil
  · rw [hinit.2] at hq
    exact absurd hq List.not_mem_nil

/-- Station 5, with the queues 0 and 1, owes; the queue 2 is of no station. -/
def start : State where
  txq q := { sta := if q = 2 then none else some 5, tid := 0, ac := 0, scheduleRound := 0 }
  airtime :=
    { deficit := fun _ _ => 0xfffffff0
      aqlTxPending := fun _ _ => 0
      aqlLimitLow := fun _ _ => 5000
      aqlLimitHigh := fun _ _ => 12000
      airtimeWeight := fun _ => 8
      aqlTotalPendingAirtime := 0
      aqlThreshold := 24000
      aqlAcPendingAirtime := fun _ => 0
      aqlTxqLimitLow := fun _ => 5000
      aqlTxqLimitHigh := fun _ => 12000
      aql := true
      aqlDisable := false }
  activeTxqs ac := if ac = 0 then [0, 1] else []
  scheduleRound _ := 1
  returned _ := []

theorem initial_start : Initial start := by
  refine ⟨⟨fun ac => ?_, fun ac q hq => ?_, fun _ => (by decide : (8 : BitVec 16) ≠ 0)⟩, fun _ => rfl⟩
  · show (if ac = 0 then [0, 1] else []).Nodup
    split_ifs <;> decide
  · change q ∈ (if ac = 0 then [0, 1] else []) at hq
    split_ifs at hq with hac
    · exact hac.symm
    · exact absurd hq List.not_mem_nil

end Mac80211.AirtimeSched
