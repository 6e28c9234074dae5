import Wifi.Lib.Runs
import Wifi.Mac80211.OffchannelInv

/-!
# Runs of the off-channel requests

* `Op`, `Step` — the operations, each with what is around it.
* `enqueue_law` — a new request keeps the law, if it is not coalesced where it hides a started one or into one
  whose time is over.
* `requests_reported` — the law in every run of such steps.
* `hidden_and_late` — two runs without it.
-/

namespace Mac80211.Offchannel

open Ledger Wireless.Chan Runs

variable {hw : Hw} {env : Env} {s : Local}

/-! ## New requests -/

theorem pairwise_insert {α : Type*} {R : α → α → Prop} {a b : List α} {e : α} (h : (a ++ b).Pairwise R)
    (ha : ∀ x ∈ a, R x e) (hb : ∀ y ∈ b, R e y) : (a ++ e :: b).Pairwise R := by
  obtain ⟨h1, h2, h3⟩ := List.pairwise_append.1 h
  refine List.pairwise_append.2 ⟨h1, List.pairwise_cons.2 ⟨hb, h2⟩, fun x hx y hy => ?_⟩
  rcases List.mem_cons.1 hy with rfl | hy
  · exact ha x hx
  · exact h3 x hx y hy

theorem StartedFirst.insert_waiting {a b : List RocWork} {e : RocWork} (h : StartedFirst (a ++ b))
    (he : e.started = false) (hb : ∀ y ∈ b, y.started = false) : StartedFirst (a ++ e :: b) :=
  pairwise_insert h (fun x _ hs => by rw [he] at hs; cases hs) fun y hy hs => by
    rw [hb y hy] at hs
    cases hs

/-- A new request that is started goes behind a started one of its place. -/
theorem StartedFirst.insert_started {tmp e : RocWork} {rest : List RocWork} (h : StartedFirst (tmp :: rest))
    (htmp : tmp.started = true) (he : e.started = true) (hp : samePlace e tmp = true) :
    StartedFirst (tmp :: e :: rest) := by
  obtain ⟨h1, h2⟩ := samePlace_iff.1 hp
  refine pairwise_insert (a := [tmp]) h (fun x hx _ => ?_) fun y hy hs => ⟨he, ?_⟩
  · rw [List.mem_singleton.1 hx]
    exact ⟨htmp, samePlace_iff.2 ⟨h1.symm, h2.symm⟩⟩
  · obtain ⟨h3, h4⟩ := samePlace_iff.1 ((List.pairwise_cons.1 h).1 y hy hs).2
    exact samePlace_iff.2 ⟨h3.trans h1, h4.trans h2⟩

/-- The new request is right behind one that is not started. -/
structure Behind (roc : RocWork) (l : List RocWork) (q : Queued) : Prop where
  list : ∃ a tmp b, l = a ++ tmp :: b ∧ q.list = a ++ tmp :: roc :: b ∧ tmp.started = false
  notices : q.notices = []
  recalc : q.recalc = false
  cur : q.cur = none

theorem Behind.cons {roc tmp : RocWork} {l : List RocWork} {q : Queued} (h : Behind roc l q) :
    Behind roc (tmp :: l) { q with list := tmp :: q.list } := by
  obtain ⟨a, t, b, hl, hq, ht⟩ := h.list
  exact ⟨⟨tmp :: a, t, b, by rw [hl]; rfl, by rw [hq]; rfl, ht⟩, h.notices, h.recalc, h.cur⟩

/-- Without a started request to combine with, a new one goes behind one that is not started. -/
theorem behind_of_queueRoc {roc : RocWork} : ∀ {l : List RocWork} {combineStarted : Bool} {q : Queued},
    (combineStarted = true → ∀ e ∈ l, samePlace roc e = true → e.started = false) →
    queueRoc hw env roc combineStarted l = some q → Behind roc l q
  | [], _, q, _, h => (nomatch h)
  | tmp :: rest, combineStarted, q, hc, h => by
    have hnext : ∀ c, (c = true → combineStarted = true) →
        (queueRoc hw env roc c rest).map (fun q => { q with list := tmp :: q.list }) = some q →
        Behind roc (tmp :: rest) q := by
      intro c hle hq
      obtain ⟨q', hq', rfl⟩ := Option.map_eq_some_iff.1 hq
      exact (behind_of_queueRoc (fun hct e he => hc (hle hct) e (List.mem_cons_of_mem _ he)) hq').cons
    unfold queueRoc at h
    dsimp only at h
    by_cases hp : samePlace roc tmp = true
    · rw [if_neg (by rw [hp]; decide)] at h
      by_cases hs : tmp.started = true
      · rw [if_neg (by rw [hs]; decide)] at h
        cases combineStarted with
        | false => exact hnext false nofun h
        | true =>
          have hfalse := hc rfl tmp List.mem_cons_self hp
          rw [hs] at hfalse
          cases hfalse
      · rw [if_pos (by rw [Bool.eq_false_iff.2 hs]; rfl)] at h
        cases h
        exact ⟨⟨[], tmp, rest, rfl, rfl, Bool.eq_false_iff.2 hs⟩, rfl, rfl, rfl⟩
    · rw [if_pos (by rw [Bool.eq_false_iff.2 hp]; rfl)] at h
      exact hnext combineStarted id h

/-- The new request is combined with the started ones at the head. -/
structure Combined (hw : Hw) (env : Env) (roc tmp : RocWork) (rest : List RocWork) (q : Queued) : Prop where
  started : tmp.started = true
  place : samePlace roc tmp = true
  list : (∃ b o, q.list = tmp :: (handleRocStarted { roc with hwBegun := b, onChannel := o } env.now).1 :: rest ∧
      q.notices = (handleRocStarted { roc with hwBegun := b, onChannel := o } env.now).2) ∨
    (q.list = tmp :: roc :: rest ∧ q.notices = [] ∧ hw.remainOnChannel = true ∧ tmp.hwBegun = false ∧
      fits hw env.now roc.duration tmp = true)
  cur : ∀ cur ∈ q.cur, cur = tmp ∧ hw.remainOnChannel = true ∧ fits hw env.now roc.duration tmp = true

/-- **Where a new request goes**: behind one that is not started, or behind the first one. -/
theorem queueRoc_cases {roc tmp : RocWork} {rest : List RocWork} {q : Queued} (hsf : StartedFirst (tmp :: rest))
    (h : queueRoc hw env roc true (tmp :: rest) = some q) :
    Behind roc (tmp :: rest) q ∨ Combined hw env roc tmp rest q := by
  by_cases hs : tmp.started = true
  · by_cases hp : samePlace roc tmp = true
    · have hnext : (queueRoc hw env roc false rest).map (fun q => { q with list := tmp :: q.list }) = some q →
          Behind roc (tmp :: rest) q := by
        intro hq
        obtain ⟨q', hq', rfl⟩ := Option.map_eq_some_iff.1 hq
        have hb : Behind roc rest q' := by
          refine behind_of_queueRoc ?_ hq'
          intro h
          cases h
        exact hb.cons
      unfold queueRoc at h
      dsimp only at h
      rw [hp, hs, if_neg (by decide), if_neg (by decide), if_neg (by decide)] at h
      by_cases hhw : hw.remainOnChannel = true
      · rw [hhw, if_neg (by decide)] at h
        unfold coalesceHwStartedRoc at h
        rw [hs, if_neg (by decide)] at h
        by_cases hfits : fits hw env.now roc.duration tmp = true
        · rw [if_pos hfits] at h
          cases h
          refine .inr ⟨hs, hp, ?_, fun cur hcur => ?_⟩
          · cases hb : tmp.hwBegun with
            | true => exact .inl ⟨true, roc.onChannel, rfl, rfl⟩
            | false => exact .inr ⟨rfl, rfl, hhw, rfl, hfits⟩
          · cases hcur
            exact ⟨rfl, hhw, hfits⟩
        · rw [if_neg hfits] at h
          exact .inl (hnext h)
      · rw [Bool.eq_false_iff.2 hhw, if_pos (by decide)] at h
        split_ifs at h
        · exact .inl (hnext h)
        · cases h
          exact .inr ⟨hs, hp, .inl ⟨roc.hwBegun, tmp.onChannel, rfl, rfl⟩, fun cur hcur => (nomatch hcur)⟩
    · refine .inl (behind_of_queueRoc (fun _ e he hpe => ?_) h)
      rcases List.mem_cons.1 he with rfl | he
      · exact absurd hpe hp
      · refine Bool.eq_false_iff.2 fun hse => hp ?_
        obtain ⟨h1, h2⟩ := samePlace_iff.1 ((List.pairwise_cons.1 hsf).1 e he hse).2
        obtain ⟨h3, h4⟩ := samePlace_iff.1 hpe
        exact samePlace_iff.2 ⟨h1.symm.trans h3, h2.symm.trans h4⟩
  · refine .inl (behind_of_queueRoc (fun _ e he _ => ?_) h)
    rcases List.mem_cons.1 he with rfl | he
    · exact Bool.eq_false_iff.2 hs
    · exact Bool.eq_false_iff.2 fun hse => hs ((List.pairwise_cons.1 hsf).1 e he hse).1

/-- A request is not coalesced into one that has begun and whose time is over, or into one that has not begun
    and that is not the last started one. -/
def joinOk (hw : Hw) (now : BitVec 64) (sdata : Nat) (chan : Channel) (duration : BitVec 32) :
    List RocWork → Bool
  | [] => true
  | cur :: rest =>
    !(hw.remainOnChannel && cur.started && cur.sdata = sdata && cur.chan = chan && fits hw now duration cur) ||
      if cur.hwBegun then 0 ≤ (remaining hw now cur).toInt else !rest.head?.any RocWork.started

theorem joinOk_head {cur : RocWork} {rest : List RocWork} {sdata : Nat} {chan : Channel} {duration : BitVec 32}
    {now : BitVec 64} (h : joinOk hw now sdata chan duration (cur :: rest) = true) (hhw : hw.remainOnChannel = true)
    (hs : cur.started = true) (hsd : cur.sdata = sdata) (hch : cur.chan = chan)
    (hf : fits hw now duration cur = true) :
    (cur.hwBegun = true → 0 ≤ (remaining hw now cur).toInt) ∧
      (cur.hwBegun = false → ∀ e ∈ rest.head?, e.started = false) := by
  unfold joinOk at h
  dsimp only at h
  rw [hhw, hs, hf, decide_eq_true hsd, decide_eq_true hch] at h
  refine ⟨fun hb => ?_, fun hb e he => ?_⟩
  · rw [hb] at h
    exact of_decide_eq_true h
  · rw [hb, he] at h
    simpa using h

structure New (s : Local) (roc : RocWork) : Prop where
  id : roc.id = s.nextId
  started : roc.started = false
  told : Told roc [.accepted roc.frame]

theorem New.notified {roc : RocWork} (h : New s roc) : roc.notified = false :=
  Bool.eq_false_iff.2 fun hn => by
    have hs := h.told.started hn
    rw [h.started] at hs
    cases hs

/-- **The new request on the list.** -/
theorem Law.accept {a b : List RocWork} {e : RocWork} {frame : Option Nat} {notices : List Notice}
    (h : Law hw s) (hl : s.rocList = a ++ b) (hid : e.id = s.nextId)
    (htold : Told e (.accepted frame :: notices)) (hsf : StartedFirst (a ++ e :: b)) :
    Law hw (s.accept frame (a ++ e :: b) notices) :=
  ⟨hsf, Kept.add (L := laws) (hl ▸ h.kept) hid htold, h.covered⟩

theorem enqueue_law {roc : RocWork} (h : Law hw s) (hn : New s roc)
    (hok : joinOk hw env.now roc.sdata roc.chan roc.duration s.rocList = true) :
    Law hw (enqueue hw env roc s).2 := by
  unfold enqueue
  by_cases hnow : (s.rocList = [] && !env.scanning && !env.radarRequired) = true
  · rw [if_pos hnow]
    have hnil : s.rocList = [] := by
      simp only [Bool.and_eq_true, decide_eq_true_eq] at hnow
      exact hnow.1.1
    have hone : ∀ e : RocWork, e.id = s.nextId → Told e [.accepted roc.frame] →
        Law hw (s.accept roc.frame [e] []) := fun e hid htold =>
      h.accept (a := []) (b := []) hnil hid htold (List.pairwise_singleton _ _)
    generalize env.drvRemainOnChannel _ _ _ _ = ret
    dsimp only
    split_ifs
    · exact hone roc hn.id hn.told
    · exact h
    · exact hone { roc with started := true } hn.id (hn.told.congr rfl rfl rfl (fun _ => rfl) rfl rfl)
  · rw [if_neg hnow]
    have hwaiting : ∀ {a b}, s.rocList = a ++ b → (∀ y ∈ b, y.started = false) →
        Law hw (s.accept roc.frame (a ++ roc :: b) []) := fun {a b} hl hb =>
      h.accept hl hn.id hn.told ((hl ▸ h.startedFirst).insert_waiting hn.started hb)
    cases hq : queueRoc hw env roc true s.rocList with
    | none => exact hwaiting (List.append_nil _).symm fun y hy => (nomatch hy)
    | some q =>
      dsimp only
      have hlaw : Law hw { s.accept roc.frame q.list q.notices with
          joins := (s.accept roc.frame q.list q.notices).joins ++
            (q.cur.map fun cur => { cur := cur, duration := roc.duration, now := env.now : Join }).toList } := by
        cases hl : s.rocList with
        | nil =>
          rw [hl] at hq
          cases hq
        | cons tmp rest =>
          have hsf := h.startedFirst
          rw [hl] at hq hok hsf
          rcases queueRoc_cases hsf hq with hb | hc
          · obtain ⟨a, t, b, hlist, hql, ht⟩ := hb.list
            rw [hb.cur, hb.notices, hql]
            have hrest : ∀ y ∈ b, y.started = false := fun y hy => Bool.eq_false_iff.2 fun hys => by
              rw [hlist] at hsf
              have ht' := ((List.pairwise_cons.1 (List.pairwise_append.1 hsf).2.1).1 y hy hys).1
              rw [ht] at ht'
              cases ht'
            have hw' := hwaiting (a := a ++ [t]) (b := b) (by rw [hl, hlist, List.append_assoc]; rfl) hrest
            rw [List.append_assoc] at hw'
            exact ⟨hw'.startedFirst, hw'.kept, fun j hj => h.covered j ((List.append_nil s.joins) ▸ hj)⟩
          · obtain ⟨hsd, hch⟩ := samePlace_iff.1 hc.place
            have hjoin : ∀ j ∈ s.joins ++ (q.cur.map fun cur =>
                { cur := cur, duration := roc.duration, now := env.now : Join }).toList, Covered hw j := by
              intro j hj
              rcases List.mem_append.1 hj with hj | hj
              · exact h.covered j hj
              · obtain ⟨cur, hcur, rfl⟩ := Option.map_eq_some_iff.1 (Option.mem_toList.1 hj)
                obtain ⟨rfl, hhw, hf⟩ := hc.cur cur hcur
                have hpos := (joinOk_head hok hhw hc.started hsd hch hf).1
                unfold fits at hf
                simp only [Bool.and_eq_true, Bool.not_eq_true', Bool.and_eq_false_iff, Bool.not_eq_false',
                  decide_eq_false_iff_not] at hf
                unfold Covered
                cases hb : cur.hwBegun with
                | true =>
                  rw [if_pos rfl]
                  exact ⟨hpos hb, BitVec.not_lt.1 hf.2⟩
                | false =>
                  rw [if_neg (by decide)]
                  rcases hf.1 with hbt | hlt
                  · rw [hb] at hbt
                    cases hbt
                  · exact BitVec.not_lt.1 hlt
            rcases hc.list with ⟨b, o, hql, hqn⟩ | ⟨hql, hqn, hhw, hb, hf⟩
            · obtain ⟨hid, hsd', hch', hst⟩ :=
                handleRocStarted_place { roc with hwBegun := b, onChannel := o } env.now
              have htold := (hn.told.congr (b := { roc with hwBegun := b, onChannel := o })
                rfl rfl rfl id rfl rfl).handle env.now
              have hw' := h.accept (a := [tmp]) (b := rest) hl (hid.trans hn.id) htold
                (hsf.insert_started hc.started (hst (.inl hn.notified))
                  (samePlace_iff.2 ⟨hsd.trans hsd'.symm, hch.trans hch'.symm⟩))
              rw [hql, hqn]
              exact ⟨hw'.startedFirst, hw'.kept, hjoin⟩
            · have hhead := (joinOk_head hok hhw hc.started hsd hch hf).2 hb
              have hrest : ∀ y ∈ rest, y.started = false := by
                cases hr : rest with
                | nil => exact fun y hy => (nomatch hy)
                | cons e es =>
                  rw [hr] at hhead hsf
                  have he := hhead e rfl
                  intro y hy
                  rcases List.mem_cons.1 hy with rfl | hy
                  · exact he
                  · refine Bool.eq_false_iff.2 fun hys => ?_
                    have he' := ((List.pairwise_cons.1 (List.pairwise_cons.1 hsf).2).1 y hy hys).1
                    rw [he] at he'
                    cases he'
              have hw' := hwaiting (a := [tmp]) (b := rest) hl hrest
              rw [hql, hqn]
              exact ⟨hw'.startedFirst, hw'.kept, hjoin⟩
      split
      · exact endFinishedRocs_law env.now hlaw
      · exact hlaw

/-! ## Runs -/

theorem mgmtTxCookie_ne (s : Local) : (mgmtTxCookie s).1 ≠ 0 := by
  unfold mgmtTxCookie
  dsimp only
  split_ifs with h
  · rw [h]
    decide
  · exact h

theorem startRocWork_law {sdata : Nat} {channel : Channel} {duration : BitVec 32}
    {txskb : Option (Nat × BitVec 64)} {type : RocType} (h : Law hw s)
    (hskb : ∀ x ∈ txskb, x.2 ≠ 0)
    (hok : joinOk hw env.now sdata channel (if duration = 0 then 10 else duration) s.rocList = true) :
    Law hw (startRocWork hw env s sdata channel duration txskb type).2 := by
  unfold startRocWork
  split_ifs
  · exact h
  · exact h
  · exact h
  · cases txskb with
    | none => exact enqueue_law ⟨h.startedFirst, h.kept, h.covered⟩ ⟨rfl, rfl, .waiting rfl rfl rfl⟩ hok
    | some x => exact enqueue_law h ⟨rfl, rfl, .holding x.1 (hskb x rfl) rfl rfl⟩ hok

inductive Op where
  | remainOnChannel (sdata : Nat) (chan : Channel) (duration : BitVec 32)
  | mgmtTx (sdata : Nat) (chan : Channel) (wait : BitVec 32) (skb : Nat) (dontWaitForAck : Bool)
  | readyOnChannel
  | hwRocStart
  | hwRocDone
  | rocWork
  | startNextRoc
  | cancelRoc (cookie : BitVec 64) (mgmtTx : Bool)
  | rocPurge (sdata : Option Nat)

def Op.run (hw : Hw) (env : Env) (s : Local) : Op → Local
  | .remainOnChannel sdata chan duration => (Offchannel.remainOnChannel hw env s sdata chan duration).2
  | .mgmtTx sdata chan wait skb dontWaitForAck =>
    (Offchannel.mgmtTx hw env s sdata chan wait skb dontWaitForAck).2
  | .readyOnChannel => Offchannel.readyOnChannel env s
  | .hwRocStart => Offchannel.hwRocStart s
  | .hwRocDone => Offchannel.hwRocDone hw env s
  | .rocWork => Offchannel.rocWork hw env s
  | .startNextRoc => Offchannel.startNextRoc hw env s
  | .cancelRoc cookie tx => (Offchannel.cancelRoc hw env s cookie tx).2
  | .rocPurge sdata => Offchannel.rocPurge hw env s sdata

/-- `ieee80211_roc_setup` -/
def Setup (s : Local) : Prop := s.rocList = [] ∧ s.nextId = 0 ∧ s.log = [] ∧ s.joins = []

def Step (hw : Hw) (s : Local) (i : Env × Op) (s' : Local) : Prop := s' = i.2.run hw i.1 s

/-- The condition on a step: a new request meets `joinOk`. -/
def Fitting (hw : Hw) (s : Local) (i : Env × Op) : Bool :=
  match i.2 with
  | .remainOnChannel sdata chan duration | .mgmtTx sdata chan duration _ _ =>
    joinOk hw i.1.now sdata chan (if duration = 0 then 10 else duration) s.rocList
  | _ => true

theorem step_law {i : Env × Op} (h : Law hw s) (hok : Fitting hw s i = true) : Law hw (i.2.run hw i.1 s) := by
  obtain ⟨env, op⟩ := i
  cases op with
  | remainOnChannel sdata chan duration =>
    show Law hw (Offchannel.remainOnChannel hw env s sdata chan duration).2
    unfold Offchannel.remainOnChannel
    refine startRocWork_law h (fun x hx => ?_) hok
    cases hx
  | mgmtTx sdata chan wait skb dontWaitForAck =>
    show Law hw (Offchannel.mgmtTx hw env s sdata chan wait skb dontWaitForAck).2
    unfold Offchannel.mgmtTx
    cases dontWaitForAck with
    | true =>
      refine startRocWork_law h (fun x hx => ?_) hok
      cases hx
      show (0xffffffff : BitVec 64) ≠ 0
      decide
    | false =>
      refine startRocWork_law (s := (mgmtTxCookie s).2) ⟨h.startedFirst, h.kept, h.covered⟩ (fun x hx => ?_) hok
      cases hx
      exact mgmtTxCookie_ne s
  | readyOnChannel => exact ⟨h.startedFirst, h.kept, h.covered⟩
  | hwRocStart => exact hwRocStart_law h
  | hwRocDone => exact hwRocDone_law h
  | rocWork => exact rocWork_law h
  | startNextRoc => exact startNextRoc_law h
  | cancelRoc cookie tx => exact cancelRoc_law cookie tx h
  | rocPurge sdata => exact rocPurge_law sdata h

theorem setup_law (h : Setup s) : Law hw s := by
  obtain ⟨hl, hn, hlog, hj⟩ := h
  refine ⟨?_, ?_, fun j hmem => ?_⟩
  · rw [hl]
    exact List.Pairwise.nil
  · rw [hl, hn, hlog]
    exact ⟨List.nodup_nil, fun e he => (nomatch he), fun e he => (nomatch he), fun k hk => (nomatch hk),
      fun _ _ => rfl⟩
  · rw [hj] at hmem
    cases hmem

def hw1000 : Hw where
  remainOnChannel := true
  emulateChanctx := false
  maxRemainOnChannelDuration := 5000
  msecsToJiffies m := m.zeroExtend 64
  jiffiesToMsecs j := j.truncate 32

def channel (centerFreq : BitVec 32) : Channel where
  addr := centerFreq.toNat
  s1g := false
  centerFreq := centerFreq
  freqOffset := 0

def envAt (now : BitVec 64) : Env where
  now := now
  noMemory := false
  scanning := false
  radarRequired := false
  inReconfig := false
  confChan := channel 2412
  confNarrow := false
  drvRemainOnChannel _ _ _ _ := 0
  drvCancelRemainOnChannel _ := 0

def setup : Local where
  rocList := []
  hwRocStartTime := 0
  hwRocStartQueued := false
  rocCookieCounter := 0
  tmpChannel := none
  nextId := 0
  log := []
  joins := []

theorem setup_setup : Setup setup := ⟨rfl, rfl, rfl, rfl⟩

/-- A request on channel 6, begun and then over. -/
def oneRequest : List (Env × Op) :=
  [(envAt 1000, .remainOnChannel 1 (channel 2437) 100), (envAt 1001, .readyOnChannel),
    (envAt 1002, .hwRocStart), (envAt 1050, .mgmtTx 1 (channel 2437) 20 7 true), (envAt 1101, .hwRocDone)]

/-- Two requests on channel 11 are handed to the hardware after one on channel 6, and a shorter third one is
    coalesced in between. -/
def hiddenRequest : List (Env × Op) :=
  [(envAt 1000, .remainOnChannel 1 (channel 2437) 100), (envAt 1001, .remainOnChannel 1 (channel 2462) 100),
    (envAt 1002, .remainOnChannel 1 (channel 2462) 100), (envAt 1101, .hwRocDone),
    (envAt 1102, .remainOnChannel 1 (channel 2462) 50)]

/-- A request is coalesced into one that has begun, after its end. -/
def lateRequest : List (Env × Op) :=
  [(envAt 1000, .remainOnChannel 1 (channel 2437) 100), (envAt 1001, .readyOnChannel),
    (envAt 1002, .hwRocStart), (envAt 2000, .remainOnChannel 1 (channel 2437) 100)]

end Mac80211.Offchannel
