import Wifi.Lib.Roster
import Wifi.Lib.Runs
import Wifi.Linux.Ieee80211

/-!
# Airtime queue limits (`linux/net/mac80211/sta_info.c`, `tx.c`, `status.c`)

* `TimeEstApi` — the estimate of a frame, kept in its control information (`<net/mac80211.h>`).
* `Frame`, `State` — the frames the driver holds, and the counters of pending airtime.
* `updatePendingAirtime` — `ieee80211_sta_update_pending_airtime`.
* `txDequeue` — `ieee80211_tx_dequeue`, for a frame that is handed to the driver.
* `reportUsedSkb`, `txStatusExt`, `txStatusSkb`, `freeTxskb` — the ways a frame is completed.

The account of a `Frame` is not in the source: the station and access category of the queue it was taken from.
-/

namespace Mac80211.Aql

def IEEE80211_NUM_ACS : Nat := 4
def IEEE80211_NUM_TIDS : Nat := 16

def INT_MAX : Int := 2147483647

/-- The sum of two `int`s. -/
def addInt (a b : Int) : Int := (a + b).bmod 4294967296

/-- An `int` that is compared with a `u32`. -/
def asU32 (a : Int) : Nat := (a % 4294967296).toNat

/-- `ieee80211_info_set_tx_time_est` as what it stores, and `ieee80211_info_get_tx_time_est` of that, which the
    former also returns. -/
structure TimeEstApi where
  setTxTimeEst : Nat → Nat
  getTxTimeEst : Nat → Nat
  /-- A frame without an estimate. -/
  get_set_zero : getTxTimeEst (setTxTimeEst 0) = 0

/-- The definitions of the header: ten bits, in units of four microseconds. -/
def TimeEstApi.linux : TimeEstApi where
  setTxTimeEst n := min n 4095 / 4
  getTxTimeEst n := n * 4
  get_set_zero := rfl

structure Hw where
  stas : List Nat
  nodup : stas.Nodup
  addr : Nat → List Byte
  /-- `sta->sdata->vif.addr` -/
  vifAddr : Nat → List Byte
  /-- `NL80211_EXT_FEATURE_AQL` -/
  aql : Bool
  aqlDisable : Bool
  aqlLimitLow : Nat → Nat → Nat
  aqlLimitHigh : Nat → Nat → Nat
  aqlThreshold : Nat

/-- `struct ieee80211_txq` -/
structure Txq where
  sta : Option Nat
  tid : Nat
  ac : Nat
  ac_lt : ac < IEEE80211_NUM_ACS

/-- A frame: its data, with the 802.11 header or, when the hardware does the encapsulation, the Ethernet header
    in front, its queue mapping and `info->tx_time_est`. -/
structure Frame where
  data : List Byte
  queueMapping : Nat
  txTimeEst : Nat
  account : Option (Nat × Nat)
  deriving DecidableEq

structure State where
  /-- `sta->airtime[ac].aql_tx_pending` -/
  staPending : Nat → Nat → Int
  /-- `local->aql_ac_pending_airtime` -/
  acPending : Nat → Int
  /-- `local->aql_total_pending_airtime` -/
  total : Int
  /-- An underflow was reported. -/
  underflow : Bool
  /-- The frames the driver holds. -/
  flight : Roster Frame

variable (api : TimeEstApi) (hw : Hw)

/-- `hdr->addr1`, `hdr->addr2` -/
def addr1 (data : List Byte) : List Byte := (data.drop 4).take 6
def addr2 (data : List Byte) : List Byte := (data.drop 10).take 6

def staInfoGetByAddrs (staAddr vifAddr : List Byte) : Option Nat :=
  hw.stas.find? fun sta => hw.addr sta == staAddr && hw.vifAddr sta == vifAddr

/-- `sta->airtime[ac].aql_tx_pending` changes. -/
def State.setSta (s : State) (sta : Option Nat) (ac : Nat) (f : Int → Int) : Nat → Nat → Int :=
  match sta with
  | none => s.staPending
  | some sta =>
    Function.update s.staPending sta (Function.update (s.staPending sta) ac (f (s.staPending sta ac)))

/-- `ieee80211_sta_update_pending_airtime` -/
def updatePendingAirtime (s : State) (sta : Option Nat) (ac txAirtime : Nat) (txCompleted : Bool) : State :=
  if hw.aql = false then s
  else if txCompleted = false then
    { s with
      staPending := s.setSta sta ac fun n => addInt n txAirtime
      total := addInt s.total txAirtime
      acPending := Function.update s.acPending ac (addInt (s.acPending ac) txAirtime) }
  else
    let staPending := s.setSta sta ac fun n => if addInt n (-txAirtime) < 0 then 0 else addInt n (-txAirtime)
    let total := addInt s.total (-txAirtime)
    let txPending := addInt (s.acPending ac) (-txAirtime)
    if txPending < 0 then
      { s with
        staPending := staPending
        total := addInt total (-txPending)
        acPending := Function.update s.acPending ac 0
        underflow := true }
    else
      { s with
        staPending := staPending
        total := total
        acPending := Function.update s.acPending ac txPending }

/-- `ieee80211_txq_airtime_check` -/
def txqAirtimeCheck (s : State) (txq : Txq) : Bool :=
  if hw.aql = false then true
  else if hw.aqlDisable then true
  else
    match txq.sta with
    | none => true
    | some sta =>
      if txq.tid = IEEE80211_NUM_TIDS then true
      else if asU32 (s.staPending sta txq.ac) < hw.aqlLimitLow sta txq.ac then true
      else if asU32 s.total < hw.aqlThreshold ∧
          asU32 (s.staPending sta txq.ac) < hw.aqlLimitHigh sta txq.ac then true
      else false

/-- `ieee80211_tx_dequeue`, when it hands a frame to the driver; `airtime` is the `u32` that
    `ieee80211_calc_expected_tx_airtime` returns.  Frames it drops on the way have no estimate yet. -/
def txDequeue (s : State) (txq : Txq) (data : List Byte) (queueMapping airtime : Nat) : State :=
  let frame : Frame :=
    { data := data, queueMapping := queueMapping, txTimeEst := api.setTxTimeEst 0
      account := txq.sta.map fun sta => (sta, txq.ac) }
  if txqAirtimeCheck hw s txq = false then s
  else if txq.sta.isSome = true ∧ hw.aql = true ∧ airtime ≠ 0 then
    let est := api.setTxTimeEst (airtime % 65536)
    { updatePendingAirtime hw s txq.sta txq.ac (api.getTxTimeEst est) false with
      flight := s.flight.add { frame with txTimeEst := est } }
  else { s with flight := s.flight.add frame }

/-- `ieee80211_report_used_skb` -/
def reportUsedSkb (s : State) (frame : Frame) : State :=
  let txTimeEst := api.getTxTimeEst frame.txTimeEst
  if txTimeEst ≠ 0 then
    updatePendingAirtime hw s (staInfoGetByAddrs hw (addr1 frame.data) (addr2 frame.data)) frame.queueMapping
      txTimeEst true
  else s

/-- `ieee80211_tx_status_ext`, with the station the driver names; a frame that is filtered goes back to the
    buffers of its station. -/
def txStatusExt (s : State) (sta : Option Nat) (frame : Frame) (filtered : Bool) : State :=
  let txTimeEst := api.getTxTimeEst frame.txTimeEst
  let x : State × Frame :=
    if 0 < txTimeEst then
      -- Do this here to avoid the expensive lookup of the sta
      (updatePendingAirtime hw s sta frame.queueMapping txTimeEst true,
        { frame with txTimeEst := api.setTxTimeEst 0 })
    else (s, frame)
  if filtered then x.1 else reportUsedSkb api hw x.1 x.2

/-- `ieee80211_tx_status_skb` -/
def txStatusSkb (s : State) (frame : Frame) (filtered : Bool) : State :=
  txStatusExt api hw s (staInfoGetByAddrs hw (addr1 frame.data) (addr2 frame.data)) frame filtered

/-- `ieee80211_free_txskb` -/
def freeTxskb (s : State) (frame : Frame) : State := reportUsedSkb api hw s frame

/-! ## Runs -/

inductive Completion where
  | statusSkb (filtered : Bool)
  | statusExt (sta : Option Nat) (filtered : Bool)
  | freeTxskb

def Completion.sta (frame : Frame) : Completion → Option Nat
  | .statusSkb _ | .freeTxskb => staInfoGetByAddrs hw (addr1 frame.data) (addr2 frame.data)
  | .statusExt sta _ => sta

def complete (s : State) (frame : Frame) : Completion → State
  | .statusSkb filtered => txStatusSkb api hw s frame filtered
  | .statusExt sta filtered => txStatusExt api hw s sta frame filtered
  | .freeTxskb => freeTxskb api hw s frame

inductive Op where
  | dequeue (txq : Txq) (data : List Byte) (queueMapping airtime : Nat)
  | complete (frame : Nat) (completion : Completion)

/-- A call; frames are taken from the queues of stations that are there, and completed once. -/
def next (s : State) : Op → Option State
  | .dequeue txq data queueMapping airtime =>
    if ∀ sta ∈ txq.sta, sta ∈ hw.stas then some (txDequeue api hw s txq data queueMapping airtime) else none
  | .complete a completion =>
    if a ∈ s.flight.list then
      some { complete api hw s (s.flight.get a) completion with flight := s.flight.remove a }
    else none

def Step (s : State) (op : Op) (s' : State) : Prop := next api hw s op = some s'

structure Initial (s : State) : Prop where
  staPending : ∀ sta ac, s.staPending sta ac = 0
  acPending : ∀ ac, s.acPending ac = 0
  total : s.total = 0
  underflow : s.underflow = false
  flight : s.flight.list = []

/-- The airtime estimates of the frames in flight whose account meets a condition. -/
def airtime (s : State) (p : Option (Nat × Nat) → Bool) : Int :=
  s.flight.sum fun frame => if p frame.account then (api.getTxTimeEst frame.txTimeEst : Int) else 0

end Mac80211.Aql

/-!
## The airtime of the frames in flight

* `charge`, `credit` — `updatePendingAirtime` where nothing overflows.
* `complete_eq` — every way of completing a frame credits its estimate once.
* `Inv` — the counters are the sums over the frames in flight.
* `Ok` — the completions that name the frame's own account; `airtime_accounted`.
-/

namespace Mac80211.Aql

open Runs

variable {api : TimeEstApi} {hw : Hw} {s s' : State}

/-! ## Sums over the frames in flight -/

section Sums

variable {p p' : Option (Nat × Nat) → Bool} {a : Nat}

/-- The frames of a station and access category. -/
def ofSta (sta ac : Nat) (account : Option (Nat × Nat)) : Bool := account == some (sta, ac)

def ofAc (ac : Nat) (account : Option (Nat × Nat)) : Bool := account.any fun x => x.2 == ac

theorem airtime_nonneg (s : State) (p : Option (Nat × Nat) → Bool) : 0 ≤ airtime api s p := by
  refine Roster.sum_nonneg _ fun a _ => ?_
  split_ifs
  · exact Int.natCast_nonneg _
  · exact Int.le_refl 0

theorem airtime_mono (h : ∀ o, p o = true → p' o = true) : airtime api s p ≤ airtime api s p' := by
  have hdiff : 0 ≤ airtime api s p' - airtime api s p := by
    unfold airtime
    rw [← Roster.sum_sub]
    refine Roster.sum_nonneg _ fun a _ => ?_
    cases hp : p (s.flight.get a).account with
    | true => simp [h _ hp]
    | false =>
      simp only [Bool.false_eq_true, if_false, Int.sub_zero]
      split_ifs
      · exact Int.natCast_nonneg _
      · exact Int.le_refl 0
  omega

theorem est_le_airtime (ha : a ∈ s.flight.list) (hp : p (s.flight.get a).account = true) :
    (api.getTxTimeEst (s.flight.get a).txTimeEst : Int) ≤ airtime api s p := by
  have h := Roster.le_sum (fun frame : Frame => if p frame.account then (api.getTxTimeEst frame.txTimeEst : Int) else 0)
    (fun b _ => by split_ifs <;> simp) ha
  rw [hp, if_pos rfl] at h
  exact h

theorem airtime_add {frame : Frame} (hf : s'.flight = s.flight.add frame) : airtime api s' p =
    airtime api s p + if p frame.account then (api.getTxTimeEst frame.txTimeEst : Int) else 0 := by
  unfold airtime
  rw [hf, Roster.sum_add]

theorem airtime_remove (ha : a ∈ s.flight.list) (hf : s'.flight = s.flight.remove a) : airtime api s' p =
    airtime api s p -
      if p (s.flight.get a).account then (api.getTxTimeEst (s.flight.get a).txTimeEst : Int) else 0 := by
  unfold airtime
  rw [hf, Roster.sum_remove _ ha]

end Sums

/-! ## Charge and credit -/

section Update

variable {sta ac n : Nat}

theorem addInt_eq {a b : Int} (h0 : 0 ≤ a + b) (h1 : a + b ≤ INT_MAX) : addInt a b = a + b := by
  unfold INT_MAX at h1
  unfold addInt
  rw [Int.bmod_eq_of_le (by omega) (by omega)]

/-- The counters after an amount was added for a station. -/
structure Moved (s s' : State) (sta ac : Nat) (n : Int) : Prop where
  staPending : s'.staPending =
    Function.update s.staPending sta (Function.update (s.staPending sta) ac (s.staPending sta ac + n))
  acPending : s'.acPending = Function.update s.acPending ac (s.acPending ac + n)
  total : s'.total = s.total + n
  underflow : s'.underflow = s.underflow

theorem charge (haql : hw.aql = true) (hs : 0 ≤ s.staPending sta ac) (hle : s.staPending sta ac ≤ s.acPending ac)
    (hle' : s.acPending ac ≤ s.total) (hmax : s.total + n ≤ INT_MAX) :
    Moved s (updatePendingAirtime hw s (some sta) ac n false) sta ac n := by
  unfold updatePendingAirtime
  rw [if_neg (by rw [haql]; decide), if_pos rfl]
  refine ⟨?_, ?_, ?_, rfl⟩
  · dsimp only [State.setSta]
    rw [addInt_eq (by omega) (by omega)]
  · dsimp only
    rw [addInt_eq (by omega) (by omega)]
  · dsimp only
    rw [addInt_eq (by omega) (by omega)]

theorem credit (haql : hw.aql = true) (hn : n ≤ s.staPending sta ac) (hle : s.staPending sta ac ≤ s.acPending ac)
    (hle' : s.acPending ac ≤ s.total) (hmax : s.total ≤ INT_MAX) :
    Moved s (updatePendingAirtime hw s (some sta) ac n true) sta ac (-n) := by
  have hs : addInt (s.staPending sta ac) (-n) = s.staPending sta ac + -n := addInt_eq (by omega) (by omega)
  have ha : addInt (s.acPending ac) (-n) = s.acPending ac + -n := addInt_eq (by omega) (by omega)
  have ht : addInt s.total (-n) = s.total + -n := addInt_eq (by omega) (by omega)
  unfold updatePendingAirtime
  rw [if_neg (by rw [haql]; decide), if_neg (by decide)]
  dsimp only [State.setSta]
  rw [hs, ha, ht, if_neg (by omega), if_neg (by omega)]
  exact ⟨rfl, rfl, rfl, rfl⟩

/-- **A frame is credited once**, on every way it can be completed. -/
theorem complete_eq (frame : Frame) (c : Completion) : complete api hw s frame c =
    if api.getTxTimeEst frame.txTimeEst = 0 then s
    else
      updatePendingAirtime hw s (c.sta hw frame) frame.queueMapping (api.getTxTimeEst frame.txTimeEst) true := by
  have hext : ∀ sta filtered, txStatusExt api hw s sta frame filtered =
      if api.getTxTimeEst frame.txTimeEst = 0 then s
      else updatePendingAirtime hw s sta frame.queueMapping (api.getTxTimeEst frame.txTimeEst) true := by
    intro sta filtered
    unfold txStatusExt reportUsedSkb
    dsimp only
    by_cases h0 : api.getTxTimeEst frame.txTimeEst = 0
    · simp [h0]
    · simp [h0, Nat.pos_of_ne_zero h0, api.get_set_zero]
  cases c with
  | statusSkb filtered => exact hext _ filtered
  | statusExt sta filtered => exact hext sta filtered
  | freeTxskb =>
    unfold complete freeTxskb reportUsedSkb
    dsimp only
    by_cases h0 : api.getTxTimeEst frame.txTimeEst = 0
    · rw [if_pos h0, if_neg (by simp [h0])]
    · rw [if_neg h0, if_pos h0]
      rfl

end Update

/-! ## The invariant -/

structure Inv (api : TimeEstApi) (hw : Hw) (s : State) : Prop where
  sta : ∀ sta ac, s.staPending sta ac = airtime api s (ofSta sta ac)
  ac : ∀ ac, s.acPending ac = airtime api s (ofAc ac)
  total : s.total = airtime api s Option.isSome
  stas : ∀ ac, s.acPending ac = (hw.stas.map fun sta => s.staPending sta ac).sum
  acs : s.total = ((List.range IEEE80211_NUM_ACS).map s.acPending).sum
  bounded : s.total ≤ INT_MAX
  underflow : s.underflow = false
  idle : ∀ a ∈ s.flight.list, hw.aql = false ∨ (s.flight.get a).account = none →
    api.getTxTimeEst (s.flight.get a).txTimeEst = 0
  member : ∀ a ∈ s.flight.list, ∀ x ∈ (s.flight.get a).account, x.1 ∈ hw.stas ∧ x.2 < IEEE80211_NUM_ACS

theorem Inv.le (hi : Inv api hw s) (sta ac : Nat) :
    0 ≤ s.staPending sta ac ∧ s.staPending sta ac ≤ s.acPending ac ∧ s.acPending ac ≤ s.total := by
  rw [hi.sta, hi.ac, hi.total]
  refine ⟨airtime_nonneg _ _, airtime_mono ?_, airtime_mono ?_⟩
  · intro o ho
    rw [ofSta, beq_iff_eq] at ho
    simp [ho, ofAc]
  · intro o ho
    cases o with
    | none => cases ho
    | some x => rfl

section Move

variable {sta ac : Nat} {n : Int}

/-- The sums over the stations and over the access categories, when an amount moves. -/
theorem Moved.sums (h : Moved s s' sta ac n) (hsta : sta ∈ hw.stas) (hac : ac < IEEE80211_NUM_ACS)
    (hstas : ∀ ac, s.acPending ac = (hw.stas.map fun sta => s.staPending sta ac).sum)
    (hacs : s.total = ((List.range IEEE80211_NUM_ACS).map s.acPending).sum) :
    (∀ ac, s'.acPending ac = (hw.stas.map fun sta => s'.staPending sta ac).sum) ∧
      s'.total = ((List.range IEEE80211_NUM_ACS).map s'.acPending).sum := by
  refine ⟨?_, ?_⟩
  · intro ac'
    have hsum : (hw.stas.map fun b => Function.update s.staPending sta
        (Function.update (s.staPending sta) ac (s.staPending sta ac + n)) b ac').sum =
        (hw.stas.map fun b => s.staPending b ac').sum - s.staPending sta ac' +
          Function.update (s.staPending sta) ac (s.staPending sta ac + n) ac' :=
      Roster.sum_map_update (fun row : Nat → Int => row ac') hw.nodup hsta
    rw [h.staPending, h.acPending, hsum, ← hstas ac']
    by_cases hacc : ac' = ac
    · rw [hacc, Function.update_self, Function.update_self]
      omega
    · rw [Function.update_of_ne hacc, Function.update_of_ne hacc]
      omega
  · have hsum : ((List.range IEEE80211_NUM_ACS).map (Function.update s.acPending ac (s.acPending ac + n))).sum =
        ((List.range IEEE80211_NUM_ACS).map s.acPending).sum - s.acPending ac + (s.acPending ac + n) :=
      Roster.sum_map_update (fun n : Int => n) List.nodup_range (List.mem_range.2 hac)
    rw [h.total, h.acPending]
    rw [hsum, ← hacs]
    omega

/-- The counters follow the frames, when the estimate of a frame with that account comes or goes. -/
theorem Moved.counts (h : Moved s s' sta ac n) (hi : Inv api hw s)
    (hair : ∀ p, airtime api s' p = airtime api s p + if p (some (sta, ac)) then n else 0) :
    (∀ sta ac, s'.staPending sta ac = airtime api s' (ofSta sta ac)) ∧
      (∀ ac, s'.acPending ac = airtime api s' (ofAc ac)) ∧ s'.total = airtime api s' Option.isSome := by
  refine ⟨?_, ?_, ?_⟩
  · intro sta' ac'
    rw [h.staPending, hair, ← hi.sta]
    by_cases hs : sta' = sta
    · subst hs
      rw [Function.update_self]
      by_cases ha : ac' = ac
      · subst ha
        rw [Function.update_self, if_pos (by simp [ofSta])]
      · rw [Function.update_of_ne ha, if_neg (by simp [ofSta]; omega)]
        omega
    · rw [Function.update_of_ne hs, if_neg (by simp [ofSta]; omega)]
      omega
  · intro ac'
    rw [h.acPending, hair, ← hi.ac]
    by_cases ha : ac' = ac
    · subst ha
      rw [Function.update_self, if_pos (by simp [ofAc])]
    · rw [Function.update_of_ne ha, if_neg (by simp [ofAc]; omega)]
      omega
  · rw [h.total, hair, ← hi.total]
    rfl

end Move

/-! ## Runs -/

/-- **The calls that keep the accounts**: the estimates fit an `int`, and a frame with an estimate is credited to
    the station and access category it was taken from. -/
def Ok (api : TimeEstApi) (hw : Hw) (s : State) : Op → Prop
  | .dequeue _ _ _ airtime => s.total + api.getTxTimeEst (api.setTxTimeEst (airtime % 65536)) ≤ INT_MAX
  | .complete a completion =>
    api.getTxTimeEst (s.flight.get a).txTimeEst ≠ 0 →
      (s.flight.get a).account =
        (completion.sta hw (s.flight.get a)).map fun sta => (sta, (s.flight.get a).queueMapping)

theorem mem_add_cases {r : Roster Frame} {x : Frame} {P : Frame → Prop} (hold : ∀ a ∈ r.list, P (r.get a))
    (hnew : P x) : ∀ a ∈ (r.add x).list, P ((r.add x).get a) := by
  intro a ha
  rcases (Roster.mem_add r).1 ha with h | rfl
  · rw [Roster.get_add_mem r x h]
    exact hold a h
  · rw [Roster.get_add_self]
    exact hnew

theorem Inv.add (hi : Inv api hw s) {frame : Frame} (h0 : api.getTxTimeEst frame.txTimeEst = 0)
    (hmem : ∀ x ∈ frame.account, x.1 ∈ hw.stas ∧ x.2 < IEEE80211_NUM_ACS) :
    Inv api hw { s with flight := s.flight.add frame } := by
  have hair : ∀ p, airtime api { s with flight := s.flight.add frame } p = airtime api s p := by
    intro p
    rw [airtime_add (s := s) rfl, h0]
    simp
  refine ⟨?_, ?_, ?_, hi.stas, hi.acs, hi.bounded, hi.underflow, ?_, ?_⟩
  · intro sta ac
    rw [hair]
    exact hi.sta sta ac
  · intro ac
    rw [hair]
    exact hi.ac ac
  · rw [hair]
    exact hi.total
  · exact mem_add_cases (P := fun f => hw.aql = false ∨ f.account = none → api.getTxTimeEst f.txTimeEst = 0) hi.idle
      fun _ => h0
  · exact mem_add_cases (P := fun f => ∀ x ∈ f.account, x.1 ∈ hw.stas ∧ x.2 < IEEE80211_NUM_ACS) hi.member hmem

theorem txDequeue_inv {txq : Txq} {data : List Byte} {queueMapping n : Nat} (hi : Inv api hw s)
    (hsta : ∀ sta ∈ txq.sta, sta ∈ hw.stas) (hok : Ok api hw s (.dequeue txq data queueMapping n)) :
    Inv api hw (txDequeue api hw s txq data queueMapping n) := by
  have hmem : ∀ x ∈ txq.sta.map fun sta => (sta, txq.ac), x.1 ∈ hw.stas ∧ x.2 < IEEE80211_NUM_ACS := by
    intro x hx
    obtain ⟨sta, hs, rfl⟩ := Option.map_eq_some_iff.1 hx
    exact ⟨hsta sta hs, txq.ac_lt⟩
  unfold txDequeue
  dsimp only
  cases hc : txqAirtimeCheck hw s txq with
  | false =>
    rw [if_pos rfl]
    exact hi
  | true =>
    rw [if_neg (by decide)]
    by_cases hcharge : txq.sta.isSome = true ∧ hw.aql = true ∧ n ≠ 0
    · rw [if_pos hcharge]
      obtain ⟨hs, haql, -⟩ := hcharge
      obtain ⟨sta, hst⟩ := Option.isSome_iff_exists.1 hs
      rw [hst] at hmem ⊢
      obtain ⟨h0, h1, h2⟩ := hi.le sta txq.ac
      obtain ⟨est, hest⟩ : ∃ est, est = api.setTxTimeEst (n % 65536) := ⟨_, rfl⟩
      rw [← hest]
      have hmax : s.total + api.getTxTimeEst est ≤ INT_MAX := by
        rw [hest]
        exact hok
      have hmv := charge haql h0 h1 h2 hmax
      have hair : ∀ p, airtime api
          { updatePendingAirtime hw s (some sta) txq.ac (api.getTxTimeEst est) false with
            flight := s.flight.add
              { data := data, queueMapping := queueMapping, txTimeEst := est, account := some (sta, txq.ac) } } p =
          airtime api s p + if p (some (sta, txq.ac)) then (api.getTxTimeEst est : Int) else 0 :=
        by
          intro p
          rw [airtime_add (s := s) rfl]
      have hmv' : Moved s
          { updatePendingAirtime hw s (some sta) txq.ac (api.getTxTimeEst est) false with
            flight := s.flight.add
              { data := data, queueMapping := queueMapping, txTimeEst := est, account := some (sta, txq.ac) } }
          sta txq.ac (api.getTxTimeEst est) := ⟨hmv.staPending, hmv.acPending, hmv.total, hmv.underflow⟩
      obtain ⟨c1, c2, c3⟩ := hmv'.counts hi hair
      obtain ⟨c4, c5⟩ := hmv'.sums (hsta sta hst) txq.ac_lt hi.stas hi.acs
      refine ⟨c1, c2, c3, c4, c5, ?_, ?_, ?_, ?_⟩
      · rw [hmv'.total]
        exact hmax
      · rw [hmv'.underflow]
        exact hi.underflow
      · refine mem_add_cases (P := fun f => hw.aql = false ∨ f.account = none → api.getTxTimeEst f.txTimeEst = 0)
          hi.idle ?_
        rintro (h | h)
        · rw [haql] at h
          cases h
        · cases h
      · exact mem_add_cases (P := fun f => ∀ x ∈ f.account, x.1 ∈ hw.stas ∧ x.2 < IEEE80211_NUM_ACS) hi.member hmem
    · rw [if_neg hcharge]
      exact hi.add api.get_set_zero hmem

theorem complete_inv {a : Nat} {c : Completion} (hi : Inv api hw s) (ha : a ∈ s.flight.list)
    (hok : Ok api hw s (.complete a c)) :
    Inv api hw { complete api hw s (s.flight.get a) c with flight := s.flight.remove a } := by
  have hold : ∀ b ∈ (s.flight.remove a).list, b ∈ s.flight.list := fun b hb => ((Roster.mem_remove _).1 hb).2
  rw [complete_eq]
  by_cases h0 : api.getTxTimeEst (s.flight.get a).txTimeEst = 0
  · rw [if_pos h0]
    have hair : ∀ p, airtime api { s with flight := s.flight.remove a } p = airtime api s p := by
      intro p
      rw [airtime_remove ha rfl, h0]
      simp
    refine ⟨?_, ?_, ?_, hi.stas, hi.acs, hi.bounded, hi.underflow, fun b hb => hi.idle b (hold b hb),
      fun b hb => hi.member b (hold b hb)⟩
    · intro sta ac
      rw [hair]
      exact hi.sta sta ac
    · intro ac
      rw [hair]
      exact hi.ac ac
    · rw [hair]
      exact hi.total
  · rw [if_neg h0]
    have hacc := hok h0
    have hidle := hi.idle a ha
    cases haql : hw.aql with
    | false => exact absurd (hidle (.inl haql)) h0
    | true =>
      cases hcs : c.sta hw (s.flight.get a) with
      | none =>
        rw [hcs] at hacc
        exact absurd (hidle (.inr hacc)) h0
      | some sta =>
        rw [hcs] at hacc
        obtain ⟨ac, hacq⟩ : ∃ ac, ac = (s.flight.get a).queueMapping := ⟨_, rfl⟩
        obtain ⟨n, hn⟩ : ∃ n, n = api.getTxTimeEst (s.flight.get a).txTimeEst := ⟨_, rfl⟩
        rw [Option.map_some, ← hacq] at hacc
        rw [← hacq, ← hn]
        obtain ⟨-, h1, h2⟩ := hi.le sta ac
        have hle : (n : Int) ≤ s.staPending sta ac := by
          rw [hi.sta, hn]
          exact est_le_airtime ha (by rw [hacc]; simp [ofSta])
        have hmv : Moved s (updatePendingAirtime hw s (some sta) ac n true) sta ac (-n) :=
          credit haql hle h1 h2 hi.bounded
        have hmv' : Moved s { updatePendingAirtime hw s (some sta) ac n true with flight := s.flight.remove a }
            sta ac (-n) := ⟨hmv.staPending, hmv.acPending, hmv.total, hmv.underflow⟩
        have hair : ∀ p, airtime api
            { updatePendingAirtime hw s (some sta) ac n true with flight := s.flight.remove a } p =
            airtime api s p + if p (some (sta, ac)) then -(n : Int) else 0 := by
          intro p
          rw [airtime_remove ha rfl, hacc, ← hn]
          split_ifs
          · omega
          · omega
        obtain ⟨hsm, hac⟩ := hi.member a ha (sta, ac) (by rw [hacc]; rfl)
        obtain ⟨c1, c2, c3⟩ := hmv'.counts hi hair
        obtain ⟨c4, c5⟩ := hmv'.sums hsm hac hi.stas hi.acs
        refine ⟨c1, c2, c3, c4, c5, ?_, ?_, fun b hb => hi.idle b (hold b hb), fun b hb => hi.member b (hold b hb)⟩
        · rw [hmv'.total]
          have hb := hi.bounded
          omega
        · rw [hmv'.underflow]
          exact hi.underflow

theorem next_inv {op : Op} (hi : Inv api hw s) (hok : Ok api hw s op) (h : Step api hw s op s') : Inv api hw s' := by
  unfold Step next at h
  cases op with
  | dequeue txq data queueMapping n =>
    dsimp only at h
    split_ifs at h with hsta
    cases h
    exact txDequeue_inv hi hsta hok
  | complete a c =>
    dsimp only at h
    split_ifs at h with ha
    cases h
    exact complete_inv hi ha hok

theorem airtime_of_empty {p : Option (Nat × Nat) → Bool} (h : s.flight.list = []) : airtime api s p = 0 :=
  Roster.sum_eq_zero _ fun a ha => by rw [h] at ha; cases ha

theorem initial_inv (h : Initial s) : Inv api hw s := by
  refine ⟨?_, ?_, ?_, ?_, ?_, ?_, h.underflow, ?_, ?_⟩
  · intro sta ac
    rw [h.staPending, airtime_of_empty h.flight]
  · intro ac
    rw [h.acPending, airtime_of_empty h.flight]
  · rw [h.total, airtime_of_empty h.flight]
  · intro ac
    simp [h.acPending, h.staPending]
  · rw [h.total]
    simp [IEEE80211_NUM_ACS, List.range_succ, h.acPending]
  · rw [h.total]
    decide
  · intro a ha
    rw [h.flight] at ha
    cases ha
  · intro a ha
    rw [h.flight] at ha
    cases ha

theorem txqAirtimeCheck_of_idle {txq : Txq} {sta : Nat} (hsta : txq.sta = some sta)
    (h0 : s.staPending sta txq.ac = 0) (hlim : 0 < hw.aqlLimitLow sta txq.ac) : txqAirtimeCheck hw s txq = true := by
  unfold txqAirtimeCheck
  rw [hsta]
  dsimp only
  rw [h0, if_pos (show asU32 0 < hw.aqlLimitLow sta txq.ac from hlim)]
  split_ifs
  all_goals rfl

/-- **Airtime is accounted for** in a run whose frames are credited to the account they were charged to: the
    counters are the sums over the frames in flight, no underflow is reported, and a station with nothing in
    flight is not held back. -/
theorem airtime_accounted (hr : Reachable Initial (Guarded (Ok api hw) (Step api hw)) s) :
    (∀ sta ac, s.staPending sta ac = airtime api s (ofSta sta ac)) ∧
      (∀ ac, s.acPending ac = (hw.stas.map fun sta => s.staPending sta ac).sum) ∧
      s.total = ((List.range IEEE80211_NUM_ACS).map s.acPending).sum ∧ s.underflow = false ∧
      ∀ txq sta, txq.sta = some sta → (∀ a ∈ s.flight.list, (s.flight.get a).account ≠ some (sta, txq.ac)) →
        0 < hw.aqlLimitLow sta txq.ac → txqAirtimeCheck hw s txq = true := by
  have hi : Inv api hw s := hr.invariant (fun s h => initial_inv h) fun s op s' hi h => next_inv hi h.1 h.2
  refine ⟨hi.sta, hi.stas, hi.acs, hi.underflow, ?_⟩
  intro txq sta hsta hnone hlim
  refine txqAirtimeCheck_of_idle hsta ?_ hlim
  rw [hi.sta]
  refine Roster.sum_eq_zero _ fun a ha => ?_
  rw [if_neg]
  simpa [ofSta] using hnone a ha

/-! ## A station -/

/-- A station of an interface, with the default limits. -/
def hwOne : Hw where
  stas := [0]
  nodup := by decide
  addr _ := [2, 0, 0, 0, 0, 1]
  vifAddr _ := [2, 0, 0, 0, 0, 2]
  aql := true
  aqlDisable := false
  aqlLimitLow _ _ := 5000
  aqlLimitHigh _ _ := 12000
  aqlThreshold := 24000

def bestEffort : Txq where
  sta := some 0
  tid := 0
  ac := 2
  ac_lt := by decide

def initial : State where
  staPending _ _ := 0
  acPending _ := 0
  total := 0
  underflow := false
  flight := Roster.empty fun _ => { data := [], queueMapping := 0, txTimeEst := 0, account := none }

theorem initial_initial : Initial initial := ⟨fun _ _ => rfl, fun _ => rfl, rfl, rfl, rfl⟩

/-- A frame for the station behind an 802.11 header. -/
def frame80211 : List Byte := [0x88, 2, 0, 0, 2, 0, 0, 0, 0, 1, 2, 0, 0, 0, 0, 2]

/-- The frame as it is handed to hardware that does the encapsulation. -/
def frame8023 : List Byte := [2, 0, 0, 0, 0, 1, 2, 0, 0, 0, 0, 2, 8, 0, 0x45, 0]

/-- What is pending for the station, whether an underflow was reported, the frames in flight, and whether the
    station may send. -/
def look (s : State) : Int × Int × Bool × List Nat × Bool :=
  (s.staPending 0 2, s.total, s.underflow, s.flight.list, txqAirtimeCheck hwOne s bestEffort)

/-- Three frames that the hardware encapsulates, and that are freed: the station is held back for good. -/
theorem held_back : ∃ s, Reachable Initial (Step .linux hwOne) s ∧ look s = (12276, 0, false, [], false) :=
  exec_observe initial_initial
    [.dequeue bestEffort frame8023 2 5000, .complete 0 .freeTxskb, .dequeue bestEffort frame8023 2 5000,
      .complete 1 (.statusSkb false), .dequeue bestEffort frame8023 2 5000, .complete 2 .freeTxskb]
    (fun _ _ _ _ h => h) look (show _ = some (12276, 0, false, [], false) by decide)

/-- A frame with an 802.11 header, in flight. -/
def oneInFlight : State := txDequeue .linux hwOne initial bestEffort frame80211 2 5000

theorem oneInFlight_reachable : Reachable Initial (Guarded (Ok .linux hwOne) (Step .linux hwOne)) oneInFlight := by
  refine .next (i := .dequeue bestEffort frame80211 2 5000) (.start initial_initial) ⟨?_, rfl⟩
  show (0 : Int) + _ ≤ INT_MAX
  decide

/-- The station's own account is charged and credited. -/
theorem airtime_accounted_one :
    oneInFlight.staPending 0 2 = airtime .linux oneInFlight (ofSta 0 2) ∧ oneInFlight.staPending 0 2 = 4092 ∧
      ∃ s, Reachable Initial (Guarded (Ok .linux hwOne) (Step .linux hwOne)) s ∧ s.flight.list = [] ∧
        s.staPending 0 2 = airtime .linux s (ofSta 0 2) ∧ txqAirtimeCheck hwOne s bestEffort = true := by
  refine ⟨(airtime_accounted oneInFlight_reachable).1 0 2, by decide, ?_⟩
  let s : State := { complete .linux hwOne oneInFlight (oneInFlight.flight.get 0) (.statusSkb false) with
    flight := oneInFlight.flight.remove 0 }
  have hr : Reachable Initial (Guarded (Ok .linux hwOne) (Step .linux hwOne)) s := by
    refine .next (i := .complete 0 (.statusSkb false)) oneInFlight_reachable ⟨?_, rfl⟩
    intro _
    decide
  have h := airtime_accounted hr
  exact ⟨s, hr, rfl, h.1 0 2, h.2.2.2.2 bestEffort 0 rfl (fun a ha => (nomatch ha)) (by decide)⟩

end Mac80211.Aql
